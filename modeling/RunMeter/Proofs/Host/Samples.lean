import Mathlib.Data.List.Nodup
import RunMeter.Bound.Command
import RunMeter.Host
import RunMeter.Proofs.Command.Environment

/-!
# Samples from a host

Whatever a command is and does, its sample comes out in one of three ways (`Host.ComesOut`): the
command could not be started, it was stopped at its limit, or it has ended. Anything that prevents a
clean end with status zero is a sample that did not succeed (`Host.run_succeeded_iff`), and of a
command that did not end nothing is kept that it has written (`Host.run_of_not_ended`). No file is
touched by a command that cannot be started or has no time.

The environment of a command is that of the host under the changes of the command
(`Host.lookup_changed`). In it a program finds the bound that it is run under (`Host.lookup_bound`).
-/

set_option autoImplicit false

namespace RunMeter.Host

open Shell

/-! ## How a command comes out -/

/-- The ways in which the sample of a command comes out. -/
inductive ComesOut : Sample → Prop
  | refused (cause : String) : ComesOut { startError := some cause }
  | stopped (exitCode : Option Int) (elapsed : Duration) :
      ComesOut { exitCode, timedOut := true, elapsed }
  | ended (stdout stderr : String) (exitCode : Option Int) (elapsed : Duration) :
      ComesOut { stdout, stderr, succeeded := exitCode == some 0, elapsed, exitCode }

/-- A run that was started is stopped or ends. -/
theorem comesOut_sampleOf (command : Command) (run : Run) :
    ComesOut (sampleOf command run) ∧ (sampleOf command run).startError = none := by
  unfold sampleOf
  dsimp only
  split
  · exact ⟨.stopped none _, rfl⟩
  · split
    · exact ⟨.stopped _ _, rfl⟩
    · split
      · exact ⟨.ended _ _ _ _, rfl⟩
      · exact ⟨.stopped _ _, rfl⟩

variable (host : Host) (command : Command) (limit : Option Duration) (files : Files)

/-- A command that cannot be started says why, and nothing is touched. -/
theorem run_of_refused {fault : StartFault}
    (h : startable command (host.beginning command limit files) = .error fault) :
    host.run command limit files = ({ startError := some fault.message }, files) := by
  simp only [run, h]

/-- Every other command is run, and its sample is that of the run. -/
theorem exists_run_of_startable {located : Located}
    (h : startable command (host.beginning command limit files) = .ok located) :
    ∃ run, (host.run command limit files).1 = sampleOf command run := by
  simp only [Host.run, h]
  split
  · exact ⟨(host.beginning command limit files).enter depth located (Text.octets command.program)
      (command.args.map Text.octets), rfl⟩
  · exact ⟨(host.beginning command limit files).stopping, rfl⟩

/-- Whatever a command does, its sample comes out in one of these ways. -/
theorem comesOut_run : ComesOut (host.run command limit files).1 := by
  cases h : startable command (host.beginning command limit files) with
  | error fault =>
    rw [run_of_refused host command limit files h]
    exact .refused _
  | ok located =>
    obtain ⟨run, hrun⟩ := exists_run_of_startable host command limit files h
    rw [hrun]
    exact (comesOut_sampleOf command run).1

/-- A sample has succeeded just if its command was started, was not stopped and ended with status
zero. -/
theorem run_succeeded_iff :
    let sample := (host.run command limit files).1
    sample.succeeded = true ↔
      sample.startError = none ∧ sample.timedOut = false ∧ sample.exitCode = some 0 := by
  intro sample
  have hcomes : ComesOut sample := comesOut_run host command limit files
  generalize sample = sample at hcomes
  cases hcomes with
  | refused cause => simp
  | stopped exitCode elapsed => simp
  | ended stdout stderr exitCode elapsed => simp

/-- Of a command that did not end nothing is kept that it has written. -/
theorem run_of_not_ended :
    let sample := (host.run command limit files).1
    sample.startError ≠ none ∨ sample.timedOut = true →
      sample.stdout = "" ∧ sample.stderr = "" := by
  intro sample
  have hcomes : ComesOut sample := comesOut_run host command limit files
  generalize sample = sample at hcomes
  cases hcomes with
  | refused cause => exact fun _ => ⟨rfl, rfl⟩
  | stopped exitCode elapsed => exact fun _ => ⟨rfl, rfl⟩
  | ended stdout stderr exitCode elapsed => simp

/-- A sample says that its command was not started just if it could not be, and then why. -/
theorem run_startError_iff (cause : String) :
    (host.run command limit files).1.startError = some cause ↔
      ∃ fault, startable command (host.beginning command limit files) = .error fault ∧
        fault.message = cause := by
  cases h : startable command (host.beginning command limit files) with
  | error fault =>
    rw [run_of_refused host command limit files h]
    simp
  | ok located =>
    obtain ⟨run, hrun⟩ := exists_run_of_startable host command limit files h
    rw [hrun, (comesOut_sampleOf command run).2]
    simp

/-- Without any time a command is stopped before it has done anything. -/
theorem run_of_no_time {located : Located}
    (h : startable command (host.beginning command (some Duration.zero) files) = .ok located) :
    host.run command (some Duration.zero) files =
      ({ timedOut := true, elapsed := Duration.ofMillis 0 }, files) := by
  have hmillis : limitMillis Duration.zero = 0 := by decide
  have hlimit : (host.beginning command (some Duration.zero) files).machine.limit = some 0 :=
    congrArg some hmillis
  have hallows : (host.beginning command (some Duration.zero) files).machine.allows 0 = false := by
    rw [Machine.allows, hlimit]
    rfl
  have hstopped : sampleOf command (host.beginning command (some Duration.zero) files).stopping =
      { timedOut := true, elapsed := Duration.ofMillis 0 } := by
    have hendless : (host.beginning command (some Duration.zero) files).stopping.isEndless = true :=
      rfl
    have hstopping :
        (host.beginning command (some Duration.zero) files).stopping.machine.limit = some 0 := hlimit
    rw [sampleOf, if_pos hendless, hstopping]
    rfl
  simp only [run, h, hallows, hstopped, Bool.false_eq_true, if_false]

/-! ## What a program finds in its environment -/

/-- Among entries with different keys each is found under its own. -/
theorem lookup_eq_some_iff_mem {β : Type} {entries : List (String × β)}
    (h : (entries.map Prod.fst).Nodup) {key : String} {value : β} :
    entries.lookup key = some value ↔ (key, value) ∈ entries := by
  induction entries with
  | nil => simp
  | cons entry entries ih =>
    obtain ⟨first, old⟩ := entry
    obtain ⟨hfirst, hrest⟩ := List.nodup_cons.1 h
    rw [List.lookup_cons, List.mem_cons, Prod.mk.injEq]
    by_cases hkey : key = first
    · have hnotMem : (key, value) ∉ entries := by
        intro hmem
        exact hfirst (hkey ▸ List.mem_map.2 ⟨_, hmem, rfl⟩)
      rw [hkey, beq_self_eq_true, ← hkey]
      simp [hnotMem, eq_comm]
    · rw [beq_false_of_ne hkey]
      simp [hkey, ih hrest]

variable {environment : List (String × String)} {changes : Overlay}

/-- Whether a variable is changed, and how, is to be found among the changes. -/
theorem change?_eq_some_iff (hchanges : changes.IsOrdered) {key : String}
    {change : Option String} : changes.change? key = some change ↔ (key, change) ∈ changes :=
  lookup_eq_some_iff_mem (hchanges.imp String.ne_of_lt)

/-- The variables that are set, with their values. -/
def assigned (changes : Overlay) : List (String × String) :=
  changes.filterMap fun (name, change) => change.map fun value => (name, value)

theorem mem_assigned (changes : Overlay) (key value : String) :
    (key, value) ∈ assigned changes ↔ (key, some value) ∈ changes := by
  rw [assigned, List.mem_filterMap]
  constructor
  · rintro ⟨⟨name, change⟩, hmem, hentry⟩
    obtain ⟨_, rfl, hsame⟩ := Option.map_eq_some_iff.1 hentry
    cases hsame
    exact hmem
  · intro hmem
    exact ⟨_, hmem, rfl⟩

theorem map_fst_assigned_sublist (changes : Overlay) :
    ((assigned changes).map Prod.fst).Sublist (changes.map Prod.fst) := by
  induction changes with
  | nil => exact List.Sublist.refl _
  | cons entry changes ih =>
    obtain ⟨name, change⟩ := entry
    cases change with
    | none => exact ih.cons name
    | some value => exact ih.cons_cons name

/-- What is in the changed environment: what is set, and what was there and is not changed. -/
theorem mem_changed (hchanges : changes.IsOrdered) (key value : String) :
    (key, value) ∈ changed environment changes ↔
      changes.change? key = some (some value) ∨
        changes.change? key = none ∧ (key, value) ∈ environment := by
  unfold changed
  split_ifs with hempty
  · have hnone : changes.change? key = none := by
      rw [List.isEmpty_iff.1 hempty]
      rfl
    simp [hnone]
  · rw [List.mem_mergeSort, List.mem_append, List.mem_filter, change?_eq_some_iff hchanges,
      Option.isNone_iff_eq_none, or_comm, and_comm]
    exact or_congr (mem_assigned changes key value) Iff.rfl

/-- No variable stands in the changed environment twice. -/
theorem nodup_changed (henvironment : (environment.map Prod.fst).Nodup)
    (hchanges : changes.IsOrdered) : ((changed environment changes).map Prod.fst).Nodup := by
  unfold changed
  split_ifs with hempty
  · exact henvironment
  · rw [((List.mergeSort_perm _ _).map Prod.fst).nodup_iff, List.map_append, List.nodup_append]
    refine ⟨henvironment.sublist (List.filter_sublist.map Prod.fst),
      (hchanges.imp String.ne_of_lt).sublist (map_fst_assigned_sublist changes), ?_⟩
    rintro key hkept other hset rfl
    obtain ⟨⟨name, old⟩, hold, rfl⟩ := List.mem_map.1 hkept
    obtain ⟨⟨name', value⟩, hvalue, rfl⟩ := List.mem_map.1 hset
    have hchange : changes.change? name' = some (some value) :=
      (change?_eq_some_iff hchanges).2 ((mem_assigned changes name' value).1 hvalue)
    have hnone := Option.isNone_iff_eq_none.1 (List.mem_filter.1 hold).2
    cases hnone.symm.trans hchange

/-- A program finds each variable as the command changes it, and all others as they are on the
host. -/
theorem lookup_changed (henvironment : (environment.map Prod.fst).Nodup)
    (hchanges : changes.IsOrdered) (key : String) :
    (changed environment changes).lookup key =
      match changes.change? key with
      | some change => change
      | none => environment.lookup key := by
  apply Option.ext
  intro value
  rw [lookup_eq_some_iff_mem (nodup_changed henvironment hchanges), mem_changed hchanges]
  cases changes.change? key with
  | some change => simp
  | none => simp [lookup_eq_some_iff_mem henvironment]

/-- Under a bound that is given in a variable, the program finds it there in decimal. -/
theorem lookup_bound {bounded : BoundedCommand} {key : String}
    (hvariable : bounded.boundVariable = some key)
    (henvironment : (environment.map Prod.fst).Nodup)
    (hchanges : bounded.command.environment.IsOrdered) (bound : UInt64) :
    (changed environment (bounded.under bound).environment).lookup key =
      some (toString bound.toNat) := by
  have hunder : (bounded.under bound).environment =
      bounded.command.environment.set key (some (toString bound.toNat)) := by
    rw [BoundedCommand.under, hvariable]
    rfl
  rw [hunder, lookup_changed henvironment (hchanges.set key _), Overlay.change?_set_self]

end RunMeter.Host
