import RunMeter.Proofs.Bound.Template
import RunMeter.Proofs.Command.Environment
import RunMeter.Proofs.Metric.BoundRuns

/-!
# How the bound reaches the program

The command under a bound differs from the command without one in a single place, which holds the
bound in decimal: a variable of the environment, or a first argument that is made from the template.
Its output is thrown away besides. If there is such a place, the bound can be told from the command
(`BoundedCommand.under_injective_iff`), and without one no search is started.

`BoundedCommand.bound_reaches_program` puts this together, with the settings and the measurements that
make sure of it.
-/

set_option autoImplicit false

namespace RunMeter

/-- A number can be told from its digits. -/
theorem toDigits_injective : Function.Injective (Nat.toDigits 10) := by
  intro m n h
  exact (Decimal.reads_toDigits m).inj (h ▸ Decimal.reads_toDigits n)

namespace BoundedCommand

variable {bounded : BoundedCommand}

/-- A bound in a variable leaves the arguments alone. -/
theorem under_of_variable {key : String} (h : bounded.boundVariable = some key) (bound : UInt64) :
    bounded.under bound =
      { bounded.command with
        environment := bounded.command.environment.set key
          (some (String.ofList (Nat.toDigits 10 bound.toNat)))
        discardsOutput := true } := by
  unfold under
  rw [h, Nat.toString_eq_ofList_toDigits]
  rfl

/-- A bound in an argument leaves the environment alone. -/
theorem under_of_template (h : bounded.boundVariable = none) (bound : UInt64) :
    bounded.under bound =
      { bounded.command with
        args := String.ofList (fillTemplate (Nat.toDigits 10 bound.toNat) bounded.boundArg.toList) ::
          bounded.command.args
        discardsOutput := true } := by
  unfold under
  rw [h, Nat.toString_eq_ofList_toDigits]
  simp only [String.toList_ofList]
  rfl

/-- The bound can be told from the command just if it has a place there. -/
theorem under_injective_iff :
    Function.Injective bounded.under ↔
      bounded.boundVariable ≠ none ∨ placeholder <:+: bounded.boundArg.toList := by
  constructor
  · intro hinjective
    by_contra hnowhere
    rw [not_or, not_ne_iff] at hnowhere
    have hsame : bounded.under 0 = bounded.under 1 := by
      rw [under_of_template hnowhere.1, under_of_template hnowhere.1,
        fillTemplate_of_notMem hnowhere.2, fillTemplate_of_notMem hnowhere.2]
    exact absurd (hinjective hsame) (by decide)
  · intro hplace bound other heq
    have hdigits : Nat.toDigits 10 bound.toNat = Nat.toDigits 10 other.toNat := by
      cases hvariable : bounded.boundVariable with
      | some key =>
        rw [under_of_variable hvariable, under_of_variable hvariable] at heq
        have hchange := congrArg (fun command => command.environment.change? key) heq
        simpa [String.ofList_inj] using hchange
      | none =>
        have htemplate : placeholder <:+: bounded.boundArg.toList :=
          hplace.resolve_left fun hsome => hsome hvariable
        rw [under_of_template hvariable, under_of_template hvariable] at heq
        have hargs := congrArg Command.args heq
        simp only [List.cons.injEq, String.ofList_inj, and_true] at hargs
        exact fillTemplate_injective htemplate hargs
    exact UInt64.toNat_inj.1 (toDigits_injective hdigits)

end BoundedCommand

/-- Settings are valid only if the bound has a place. -/
theorem Settings.bound_of_validate {settings : Settings} (h : settings.validate = .ok ()) :
    settings.bound.boundVariable ≠ none ∨ placeholder <:+: settings.bound.boundArg.toList := by
  by_contra hnowhere
  rw [not_or, not_ne_iff, ← Text.contains_iff_isInfix, Bool.not_eq_true] at hnowhere
  have hfault : (settings.bound.boundVariable.isNone &&
      !hasPlaceholder settings.bound.boundArg) = true := by
    rw [hnowhere.1, hasPlaceholder, hnowhere.2]
    rfl
  unfold validate at h
  split_ifs at h

namespace BoundedCommand

/-- The bound can be told from the command under it just if there is a variable for it or a place in
the template. The command keeps its program and throws its output away. With a variable it keeps its
arguments and the changes of all other variables; else it keeps its environment and gets one more
argument in front, the pieces of the template with the bound in decimal between them, and there is one
way to cut the template into pieces. Valid settings have a place for the bound, and so has every
search that calls its runner. -/
theorem bound_reaches_program (bounded : BoundedCommand) :
    (Function.Injective bounded.under ↔
      bounded.boundVariable ≠ none ∨ placeholder <:+: bounded.boundArg.toList) ∧
    (∀ bound : UInt64,
      let digits := Nat.toDigits 10 bound.toNat
      let command := bounded.under bound
      command.program = bounded.command.program ∧ command.discardsOutput = true ∧
      match bounded.boundVariable with
      | some key =>
        command.args = bounded.command.args ∧
        (∀ other, command.environment.change? other =
          if other = key then some (some (String.ofList digits))
          else bounded.command.environment.change? other) ∧
        Overlay.others key command.environment = Overlay.others key bounded.command.environment
      | none =>
        command.environment = bounded.command.environment ∧
        ∃ pieces, (∀ cut, IsCut bounded.boundArg.toList cut ↔ cut = pieces) ∧
          command.args = String.ofList (digits.intercalate pieces) :: bounded.command.args) ∧
    (∀ settings : Settings, settings.validate = .ok () →
      Function.Injective
        ({ command := bounded.command
           boundArg := settings.bound.boundArg
           boundVariable := settings.bound.boundVariable } : BoundedCommand).under) ∧
    ∀ (σ : Type) (runner : Runner σ) (occasion : Occasion) (config : SearchConfig)
        (timeout : Duration) (unit : String) (files : Files) (s : σ) (progress : Progress),
      Metric.searchCalls runner occasion config bounded timeout unit files s progress ≠ [] →
        Function.Injective bounded.under := by
  refine ⟨under_injective_iff, ?_, ?_, ?_⟩
  · intro bound digits command
    cases hvariable : bounded.boundVariable with
    | some key =>
      have hcommand : command = _ := under_of_variable hvariable bound
      rw [hcommand]
      refine ⟨rfl, rfl, rfl, ?_, Overlay.others_set key _ _⟩
      intro other
      split_ifs with hother
      · rw [hother, Overlay.change?_set_self]
      · exact Overlay.change?_set_of_ne hother _ _
    | none =>
      have hcommand : command = _ := under_of_template hvariable bound
      rw [hcommand]
      refine ⟨rfl, rfl, rfl, templatePieces bounded.boundArg.toList, fun cut => isCut_iff, ?_⟩
      rw [fillTemplate_eq_intercalate]
  · intro settings hvalid
    exact under_injective_iff.2 (Settings.bound_of_validate hvalid)
  · intro σ runner occasion config timeout unit files s progress hcalls
    rw [under_injective_iff, ← bounded.carriesBound_iff]
    by_contra hnowhere
    exact hcalls (Metric.searchCalls_of_unreachable hnowhere)

/-- Two places beside a digit, so that one and eleven make texts of ones only. The default settings
are valid, and a search up to ten calls its runner. -/
theorem bound_reaches_program_twice :
    let bounded : BoundedCommand :=
      { command := { program := "java", args := ["Main"] }, boundArg := "\x7bbound\x7d1\x7bbound\x7d" }
    let runner : Runner Unit := { run := fun _ _ files s => ({}, files, s) }
    let occasion : Occasion := { stamp := { runId := "1", startedAt := "now" } }
    let calls := Metric.searchCalls runner occasion { maxBound := 10 } bounded Duration.zero "MB" {}
      () { isTerminal := true }
    let settings : Settings := {}
    let byDefault : BoundedCommand :=
      { command := bounded.command
        boundArg := settings.bound.boundArg
        boundVariable := settings.bound.boundVariable }
    (bounded.under 1).args = ["111", "Main"] ∧ (bounded.under 11).args = ["11111", "Main"] ∧
      calls ≠ [] ∧ Function.Injective bounded.under ∧
      settings.validate = .ok () ∧ Function.Injective byDefault.under := by
  intro bounded runner occasion calls settings byDefault
  obtain ⟨-, -, hsettings, hsearched⟩ := bound_reaches_program bounded
  have hcarries : bounded.carriesBound = true := by decide +kernel
  have hend : (Search.loop { maxBound := 10 } "MB" (Search.commandTrial runner.recording bounded
      (some Duration.zero)) 2 (Search.opening { maxBound := 10 } ({}, (), []) { isTerminal := true })).1
      = some (.exhausted 1) := by decide +kernel
  have hrecorded : calls = _ := @Metric.searchCalls_of_loop Unit runner occasion { maxBound := 10 }
    bounded Duration.zero "MB" {} () { isTerminal := true } 2 _ hcarries hend
  have hcalls : calls ≠ [] := by
    rw [hrecorded]
    decide +kernel
  have hvalid : settings.validate = .ok () := by decide +kernel
  exact ⟨by decide +kernel, by decide +kernel, hcalls,
    hsearched Unit runner occasion _ _ _ _ _ _ hcalls, hvalid, hsettings settings hvalid⟩

end BoundedCommand

end RunMeter
