import RunMeter.Proofs.Bound.AnyOutcome
import RunMeter.Proofs.Bound.SameOutcomes
import RunMeter.Proofs.Metric.Transcript

/-!
# The calls of a bound measurement

A measurement of the least bound calls its runner once for each trial of its search, with the command
under the bound that is tried. `Search.map_observed_invocations` says so for the whole row of calls,
and carries what is known of trials over to calls: which bounds are tried, and what has been tried
when a bound is returned.

`Metric.run_minheap_reports_its_calls` is the account of such a measurement from the settings and
flags to the document, for any runner.
-/

set_option autoImplicit false

namespace RunMeter

variable {σ : Type}

/-- What a call asks for, and all that a search sees of its answer. -/
def Invocation.observed (call : Invocation) : Command × Option Duration × Bool :=
  (call.command, call.timeout, call.sample.succeeded)

/-! ## Calls and trials -/

namespace Search

/-- A search that fails is exhausted. -/
theorem findMinBound_error_kind {config : SearchConfig} {unit : String}
    {trial : UInt64 → σ → Bool × σ} {s : σ} {progress : Progress} {failure : Failure}
    (hends : Ends config unit trial s progress)
    (h : (findMinBound config unit trial s progress).1 = .error failure) :
    failure.kind = .searchExhausted := by
  obtain ⟨rounds, verdict, last, hloop⟩ := hends.exists_rounds
  rw [findMinBound_of_loop (hloop rounds (Nat.le_refl _))] at h
  cases verdict with
  | found outcome => cases h
  | exhausted trials =>
    cases h
    rfl

variable (runner : Runner σ) (bounded : BoundedCommand) (timeout : Option Duration)

/-- What is observed of the call that makes a trial. -/
def observedTrial (t : UInt64 × Bool) : Command × Option Duration × Bool :=
  (bounded.under t.1, timeout, t.2)

/-- The trials of a search by a runner. -/
def runnerTrials (config : SearchConfig) (unit : String) (files : Files) (s : σ)
    (progress : Progress) : List (UInt64 × Bool) :=
  history config unit (commandTrial runner bounded timeout) (files, s) progress

/-- The calls of a search by a runner. -/
def invocations (config : SearchConfig) (unit : String) (files : Files) (s : σ)
    (progress : Progress) : List Invocation :=
  (searchMinBound runner.recording bounded config timeout unit (files, s, []) progress).2.2.1.2.2

/-- There is one call for each trial: it runs the command under the bound that is tried. -/
theorem map_observed_invocations {config : SearchConfig} (hmax : config.maxBound.toNat < maxWord)
    (unit : String) (files : Files) (s : σ) (progress : Progress) :
    (invocations runner bounded timeout config unit files s progress).map Invocation.observed =
      (runnerTrials runner bounded timeout config unit files s progress).map
        (observedTrial bounded timeout) := by
  -- Both records are kept by one search, whose every trial adds to both.
  let both := recording (commandTrial runner.recording bounded timeout)
  let start : (Files × σ × List Invocation) × List (UInt64 × Bool) := ((files, s, []), [])
  have hcalls : ∀ bound (r : (Files × σ × List Invocation) × List (UInt64 × Bool)),
      commandTrial runner.recording bounded timeout bound r.1 =
        ((both bound r).1, (both bound r).2.1) := fun _ _ => rfl
  have htrials : ∀ bound (r : (Files × σ × List Invocation) × List (UInt64 × Bool)),
      recording (commandTrial runner bounded timeout) bound ((r.1.1, r.1.2.1), r.2) =
        ((both bound r).1, ((both bound r).2.1.1, (both bound r).2.1.2.1), (both bound r).2.2) :=
    fun _ _ => rfl
  have hstep : ∀ bound (r : (Files × σ × List Invocation) × List (UInt64 × Bool)),
      r.1.2.2.map Invocation.observed = r.2.map (observedTrial bounded timeout) →
      (both bound r).2.1.2.2.map Invocation.observed =
        (both bound r).2.2.map (observedTrial bounded timeout) := by
    intro bound r hr
    simp only [both, recording, commandTrial, Runner.recording, List.map_append, List.map_cons,
      List.map_nil, hr]
    rfl
  have hends : Ends config unit both start progress := ends_of_lt hmax unit both start progress
  have hinvocations : invocations runner bounded timeout config unit files s progress =
      (findMinBound config unit both start progress).2.2.1.1.2.2 :=
    congrArg (fun outcome => outcome.2.2.1.2.2) (findMinBound_map hcalls hends)
  have hhistory : runnerTrials runner bounded timeout config unit files s progress =
      (findMinBound config unit both start progress).2.2.1.2 :=
    congrArg (fun outcome => outcome.2.2.1.2) (findMinBound_map htrials hends)
  rw [hinvocations, hhistory]
  exact findMinBound_preserves hstep rfl hends

variable {runner} {bounded} {timeout}

/-- Every call is the trial of a bound within reach. -/
theorem bounds_of_invocations {config : SearchConfig} (hmax : config.maxBound.toNat < maxWord)
    {unit : String} {files : Files} {s : σ} {progress : Progress} {call : Invocation}
    (hcall : call ∈ invocations runner bounded timeout config unit files s progress) :
    ∃ bound : UInt64, 1 ≤ bound.toNat ∧ bound ≤ config.maxBound ∧
      call.command = bounded.under bound ∧ call.timeout = timeout := by
  have hobserved := List.mem_map_of_mem (f := Invocation.observed) hcall
  rw [map_observed_invocations runner bounded timeout hmax] at hobserved
  obtain ⟨t, ht, hsame⟩ := List.mem_map.1 hobserved
  obtain ⟨verdict, hending, -, -⟩ :=
    exists_ending config unit (commandTrial runner bounded timeout) (files, s) progress hmax
  obtain ⟨hone, hreach⟩ := hending.bounds t ht
  refine ⟨t.1, hone, hreach, ?_, ?_⟩
  · exact (congrArg Prod.fst hsame).symm
  · exact (congrArg (fun observed => observed.2.1) hsame).symm

/-- The calls of a search that returns a bound: a success, later the successes in a row that confirm
the bound, and between the two at least as many failures as the bound has risen. -/
theorem calls_of_searchMinBound {config : SearchConfig} (hmax : config.maxBound.toNat < maxWord)
    {unit : String} {files : Files} {s : σ} {progress : Progress} {outcome : SearchOutcome}
    (hok : (searchMinBound runner bounded config timeout unit (files, s) progress).1 =
      .ok outcome) :
    ∃ (first : UInt64) (before : List Invocation) (success : Invocation)
        (between last : List Invocation),
      outcome.firstSuccess = some first ∧
      invocations runner bounded timeout config unit files s progress =
        before ++ success :: (between ++ last) ∧
      outcome.trials = (before ++ success :: (between ++ last)).length ∧
      (success.command = bounded.under first ∧ success.sample.succeeded = true) ∧
      last.length = max config.confirmations 1 ∧
      (∀ call ∈ last, call.command = bounded.under outcome.bound ∧
        call.sample.succeeded = true) ∧
      outcome.bound.toNat ≤
        first.toNat + (between ++ last).countP fun call => !call.sample.succeeded := by
  obtain ⟨verdict, hending, hresult, -⟩ :=
    exists_ending config unit (commandTrial runner bounded timeout) (files, s) progress hmax
  have hcalls := map_observed_invocations runner bounded timeout hmax unit files s progress
  cases verdict with
  | exhausted trials => cases hresult.symm.trans hok
  | found found =>
    cases hresult.symm.trans hok
    have htrials : outcome.trials = _ := hending.trials_eq
    obtain ⟨k, earlier, htried, hfirst, hbound⟩ := hending.exists_confirmation
    have hlength : outcome.trials =
        (invocations runner bounded timeout config unit files s progress).length := by
      rw [htrials, ← List.length_map (f := Invocation.observed), hcalls, List.length_map]
      rfl
    rw [runnerTrials, htried, List.map_append, List.map_cons, List.map_append,
      List.map_eq_append_iff] at hcalls
    obtain ⟨before, rest, hsplit, -, hrest⟩ := hcalls
    obtain ⟨success, after, rfl, hsuccess, hafter⟩ := List.map_eq_cons_iff.1 hrest
    obtain ⟨between, last, rfl, hbetween, hlast⟩ := List.map_eq_append_iff.1 hafter
    rw [List.map_replicate] at hlast
    refine ⟨config.coarseBound k, before, success, between, last, hfirst, hsplit,
      hlength.trans (congrArg List.length hsplit), ⟨congrArg Prod.fst hsuccess,
      congrArg (fun observed => observed.2.2) hsuccess⟩, ?_, ?_, ?_⟩
    · rw [← List.length_map (f := Invocation.observed), hlast, List.length_replicate]
    · intro call hcall
      have hobserved := List.mem_map_of_mem (f := Invocation.observed) hcall
      rw [hlast] at hobserved
      have hsame := List.eq_of_mem_replicate hobserved
      exact ⟨congrArg Prod.fst hsame, congrArg (fun observed => observed.2.2) hsame⟩
    · have hfailures : (between.countP fun call => !call.sample.succeeded) =
          earlier.countP fun t => !t.2 := by
        have hcount := congrArg (List.countP fun observed => !observed.2.2) hbetween
        rw [List.countP_map, List.countP_map] at hcount
        exact hcount
      rw [List.countP_append, hfailures]
      omega

/-- Two searches whose calls have the same outcomes, as far as both go, make the same calls. They
return and show the same. -/
theorem searchMinBound_of_same_outcomes {τ : Type} {other : Runner τ} {config : SearchConfig}
    (hmax : config.maxBound.toNat < maxWord) {unit : String} {files files' : Files} {s : σ}
    {s' : τ} {progress : Progress}
    (hsame : ∀ (i : Nat) (call call' : Invocation),
      (invocations runner bounded timeout config unit files s progress)[i]? = some call →
      (invocations other bounded timeout config unit files' s' progress)[i]? = some call' →
      call'.sample.succeeded = call.sample.succeeded) :
    (invocations other bounded timeout config unit files' s' progress).map Invocation.observed =
        (invocations runner bounded timeout config unit files s progress).map
          Invocation.observed ∧
      (searchMinBound other bounded config timeout unit (files', s') progress).1 =
        (searchMinBound runner bounded config timeout unit (files, s) progress).1 ∧
      (searchMinBound other bounded config timeout unit (files', s') progress).2.1 =
        (searchMinBound runner bounded config timeout unit (files, s) progress).2.1 ∧
      (searchMinBound other bounded config timeout unit (files', s') progress).2.2.2 =
        (searchMinBound runner bounded config timeout unit (files, s) progress).2.2.2 := by
  have htrials : ∀ (i : Nat) (t t' : UInt64 × Bool),
      (history config unit (commandTrial runner bounded timeout) (files, s) progress)[i]? =
        some t →
      (history config unit (commandTrial other bounded timeout) (files', s') progress)[i]? =
        some t' → t.2 = t'.2 := by
    intro i t t' ht ht'
    have hcall := congrArg (fun row => row[i]?)
      (map_observed_invocations runner bounded timeout hmax unit files s progress)
    have hcall' := congrArg (fun row => row[i]?)
      (map_observed_invocations other bounded timeout hmax unit files' s' progress)
    simp only [runnerTrials, List.getElem?_map, ht, ht', Option.map_some,
      Option.map_eq_some_iff] at hcall hcall'
    obtain ⟨call, hmem, hobserved⟩ := hcall
    obtain ⟨call', hmem', hobserved'⟩ := hcall'
    have houtcome : call.sample.succeeded = t.2 := congrArg (fun o => o.2.2) hobserved
    have houtcome' : call'.sample.succeeded = t'.2 := congrArg (fun o => o.2.2) hobserved'
    rw [← houtcome, ← houtcome', hsame i call call' hmem hmem']
  obtain ⟨hhistory, hresult⟩ := findMinBound_of_same_outcomes
    (ends_of_lt hmax unit (recording (commandTrial runner bounded timeout)) ((files, s), []) progress)
    (ends_of_lt hmax unit (recording (commandTrial other bounded timeout)) ((files', s'), [])
      progress) htrials
  refine ⟨?_, hresult⟩
  rw [map_observed_invocations runner bounded timeout hmax,
    map_observed_invocations other bounded timeout hmax]
  exact congrArg (List.map (observedTrial bounded timeout)) hhistory

end Search

/-! ## From the request to the document -/

/-- The bound reaches the program in a variable or in a template that has a place for it. -/
theorem BoundedCommand.carriesBound_iff (bounded : BoundedCommand) :
    bounded.carriesBound = true ↔
      bounded.boundVariable ≠ none ∨ placeholder <:+: bounded.boundArg.toList := by
  rw [carriesBound, Bool.or_eq_true, hasPlaceholder, Text.contains_iff_isInfix,
    Option.isSome_iff_ne_none]

/-- Under a bound a command throws its output away. -/
theorem BoundedCommand.discardsOutput_under (bounded : BoundedCommand) (bound : UInt64) :
    (bounded.under bound).discardsOutput = true := by
  unfold under
  cases bounded.boundVariable with
  | none => rfl
  | some key => rfl

namespace Metric

/-- What is printed of the answer of a search. -/
def boundOutput (bounded : BoundedCommand) (unit : String) (stamp : RunStamp)
    (outcome : SearchOutcome) : Output :=
  ({ outcome, unit, command := bounded.command.display, stamp } : BoundReport).output

section Search

variable (runner : Runner σ) (occasion : Occasion) (config : SearchConfig)
  (bounded : BoundedCommand) (timeout : Duration) (unit : String) (files : Files) (s : σ)
  (progress : Progress)

/-- The calls of a reported search. -/
def searchCalls : List Invocation :=
  (search runner.recording occasion config bounded timeout unit files (s, []) progress).runnerState.2

variable {runner} {occasion} {config} {bounded} {timeout} {unit} {files} {s} {progress}

/-- A bound that cannot reach the program is refused before anything is run. -/
theorem search_of_unreachable (h : ¬ bounded.carriesBound = true) :
    search runner occasion config bounded timeout unit files s progress =
      refused (missingPlaceholder bounded.boundArg) files s progress := by
  rw [search, if_neg h]

theorem searchCalls_of_unreachable (h : ¬ bounded.carriesBound = true) :
    searchCalls runner occasion config bounded timeout unit files s progress = [] := by
  rw [searchCalls, search_of_unreachable h]
  rfl

/-- A bound that can is searched for, and the answer is reported. -/
theorem search_of_carriesBound (h : bounded.carriesBound = true) :
    let outcome := Search.searchMinBound runner bounded config (some timeout) unit (files, s) progress
    search runner occasion config bounded timeout unit files s progress =
      { result := outcome.1.map (boundOutput bounded unit occasion.stamp)
        log := outcome.2.1
        files := outcome.2.2.1.1
        runnerState := outcome.2.2.1.2
        progress := outcome.2.2.2 } := by
  rw [search, if_pos h]
  rfl

theorem searchCalls_of_carriesBound (h : bounded.carriesBound = true) :
    searchCalls runner occasion config bounded timeout unit files s progress =
      Search.invocations runner bounded (some timeout) config unit files s progress := by
  rw [searchCalls, search_of_carriesBound h]
  rfl

/-- Once the loop of a search has ended, its calls are on record. -/
theorem searchCalls_of_loop {rounds : Nat} {verdict : SearchEnd}
    (hcarries : bounded.carriesBound = true)
    (hend : (Search.loop config unit (Search.commandTrial runner.recording bounded (some timeout))
      rounds (Search.opening config (files, s, []) progress)).1 = some verdict) :
    searchCalls runner occasion config bounded timeout unit files s progress =
      (Search.loop config unit (Search.commandTrial runner.recording bounded (some timeout)) rounds
        (Search.opening config (files, s, []) progress)).2.trialState.2.2 :=
  (searchCalls_of_carriesBound hcarries).trans
    (congrArg (fun search => search.2.2.1.2.2) (Search.findMinBound_of_end hend))

/-- A search is refused without a call just if the bound cannot reach the program. -/
theorem search_refused_iff (hmax : config.maxBound.toNat < maxWord) :
    ((∃ failure,
        (search runner occasion config bounded timeout unit files s progress).result =
          .error failure ∧ failure.kind = .invalidArgument) ∧
      searchCalls runner occasion config bounded timeout unit files s progress = []) ↔
      ¬ bounded.carriesBound = true := by
  constructor
  · rintro ⟨⟨failure, herror, hkind⟩, -⟩ hcarries
    rw [search_of_carriesBound hcarries] at herror
    dsimp only at herror
    cases hresult : (Search.searchMinBound runner bounded config (some timeout) unit (files, s)
      progress).1 with
    | ok outcome =>
      rw [hresult] at herror
      cases herror
    | error found =>
      rw [hresult] at herror
      cases herror
      rw [Search.findMinBound_error_kind (Search.ends_of_lt hmax _ _ _ _) hresult] at hkind
      cases hkind
  · intro hunreachable
    rw [search_of_unreachable hunreachable]
    exact ⟨⟨_, rfl, rfl⟩, searchCalls_of_unreachable hunreachable⟩

/-- Every call of a reported search is the trial of a bound within reach. -/
theorem bounds_of_searchCalls (hmax : config.maxBound.toNat < maxWord) {call : Invocation}
    (hcall : call ∈ searchCalls runner occasion config bounded timeout unit files s progress) :
    ∃ bound : UInt64, 1 ≤ bound.toNat ∧ bound ≤ config.maxBound ∧
      call.command = bounded.under bound ∧ call.command.discardsOutput = true ∧
      call.timeout = some timeout := by
  by_cases hcarries : bounded.carriesBound = true
  · rw [searchCalls_of_carriesBound hcarries] at hcall
    obtain ⟨bound, hone, hreach, hcommand, htimeout⟩ := Search.bounds_of_invocations hmax hcall
    refine ⟨bound, hone, hreach, hcommand, ?_, htimeout⟩
    rw [hcommand]
    exact bounded.discardsOutput_under bound
  · rw [searchCalls_of_unreachable hcarries] at hcall
    cases hcall

/-- What is reported of a search is borne out by its calls. -/
theorem searchCalls_of_output (hmax : config.maxBound.toNat < maxWord) {output : Output}
    (hok : (search runner occasion config bounded timeout unit files s progress).result =
      .ok output) :
    let calls := searchCalls runner occasion config bounded timeout unit files s progress
    ∃ (least first : UInt64) (before : List Invocation) (success : Invocation)
        (between last : List Invocation),
      output.document.member "min" = .natural least.toNat ∧
      output.document.member "trials" = .natural calls.length ∧
      output.document.member "firstSuccess" = .natural first.toNat ∧
      output.human = [toString least.toNat ++ " " ++ unit] ∧
      calls = before ++ success :: (between ++ last) ∧
      (success.command = bounded.under first ∧ success.sample.succeeded = true) ∧
      last.length = max config.confirmations 1 ∧
      (∀ call ∈ last, call.command = bounded.under least ∧ call.sample.succeeded = true) ∧
      least.toNat ≤
        first.toNat + (between ++ last).countP fun call => !call.sample.succeeded := by
  intro calls
  have hcarries : bounded.carriesBound = true := by
    by_contra hunreachable
    rw [search_of_unreachable hunreachable] at hok
    cases hok
  have hcalls : calls = _ := searchCalls_of_carriesBound hcarries
  rw [search_of_carriesBound hcarries] at hok
  dsimp only at hok
  cases hresult : (Search.searchMinBound runner bounded config (some timeout) unit (files, s)
    progress).1 with
  | error failure =>
    rw [hresult] at hok
    cases hok
  | ok outcome =>
    rw [hresult] at hok
    obtain rfl := Except.ok.inj hok
    obtain ⟨first, before, success, between, last, hfirst, hsplit, htrials, hrest⟩ :=
      Search.calls_of_searchMinBound hmax hresult
    have hmember : ∀ found : SearchOutcome, found.firstSuccess = some first →
        (boundOutput bounded unit occasion.stamp found).document.member "firstSuccess" =
          .natural first.toNat := by
      rintro ⟨bound, trials, firstSuccess⟩ rfl
      rfl
    rw [← hcalls] at hsplit
    rw [← hsplit] at htrials
    exact ⟨outcome.bound, first, before, success, between, last, rfl,
      congrArg Json.natural htrials, hmember outcome hfirst, rfl, hsplit, hrest⟩

/-- Searches whose calls have the same outcomes, as far as both go, make the same calls and report
the same. -/
theorem search_of_same_outcomes (hmax : config.maxBound.toNat < maxWord) {τ : Type}
    {other : Runner τ} {occasion' : Occasion} {files' : Files} {s' : τ}
    (hsame : ∀ (i : Nat) (call call' : Invocation),
      (searchCalls runner occasion config bounded timeout unit files s progress)[i]? = some call →
      (searchCalls other occasion' config bounded timeout unit files' s' progress)[i]? =
        some call' → call'.sample.succeeded = call.sample.succeeded) :
    let measured := search runner occasion config bounded timeout unit files s progress
    let measured' := search other occasion' config bounded timeout unit files' s' progress
    (searchCalls other occasion' config bounded timeout unit files' s' progress).map
        Invocation.observed =
      (searchCalls runner occasion config bounded timeout unit files s progress).map
        Invocation.observed ∧
      measured'.progress = measured.progress ∧ measured'.log = measured.log ∧
      ∃ found : Except Failure SearchOutcome,
        measured.result = found.map (boundOutput bounded unit occasion.stamp) ∧
        measured'.result = found.map (boundOutput bounded unit occasion'.stamp) := by
  intro measured measured'
  by_cases hcarries : bounded.carriesBound = true
  · rw [searchCalls_of_carriesBound hcarries,
      searchCalls_of_carriesBound hcarries] at hsame ⊢
    have hmeasured : measured = _ := search_of_carriesBound hcarries
    have hmeasured' : measured' = _ := search_of_carriesBound hcarries
    obtain ⟨hobserved, hresult, hlog, hshown⟩ := Search.searchMinBound_of_same_outcomes hmax hsame
    rw [hmeasured, hmeasured']
    refine ⟨hobserved, hshown, hlog, _, rfl, ?_⟩
    rw [← hresult]
  · have hmeasured : measured = _ := search_of_unreachable hcarries
    have hmeasured' : measured' = _ := search_of_unreachable hcarries
    rw [searchCalls_of_unreachable hcarries,
      searchCalls_of_unreachable hcarries, hmeasured, hmeasured']
    exact ⟨rfl, rfl, rfl, .error (missingPlaceholder bounded.boundArg), rfl, rfl⟩

end Search

/-- A measurement of the least bound, for any settings whose largest bound is below the largest word,
any flags and any runner. It is refused before anything is run just if there is neither a variable
for the bound nor a place for it in the template, each taken from the flags or else from the
settings. Every call runs the command under a bound within reach, throws its output away and has the
time limit of the flags or else of the settings. A document that says which bound is the least, after
how many trials and with which first success, is borne out by the calls. And two runners whose
samples succeed alike, however they differ otherwise, lead to the same calls, the same progress and
the same document up to the stamp of the run. -/
theorem run_minheap_reports_its_calls (settings : Settings)
    (hmax : settings.bound.maxBound.toNat < maxWord) (confirmations : Option Nat)
    (timeout : Option Duration) (boundArg boundVariable : Option String) (program : String)
    (args : List String) (runner : Runner σ) (occasion : Occasion) (files : Files) (s : σ)
    (progress : Progress) :
    let request := MetricCommand.minheap confirmations timeout boundArg boundVariable
      (program :: args)
    let template := boundArg.getD settings.bound.boundArg
    let key := boundVariable <|> settings.bound.boundVariable
    let bounded : BoundedCommand :=
      { command := { program, args }, boundArg := template, boundVariable := key }
    let required := max (confirmations.getD settings.reps) 1
    let measured := run settings request runner occasion files s progress
    let calls := transcript runner occasion settings request files s progress
    (((∃ failure, measured.result = .error failure ∧ failure.kind = .invalidArgument) ∧
        calls = []) ↔ key = none ∧ ¬ placeholder <:+: template.toList) ∧
    (∀ call ∈ calls, ∃ bound : UInt64, 1 ≤ bound.toNat ∧ bound ≤ settings.bound.maxBound ∧
      call.command = bounded.under bound ∧ call.command.discardsOutput = true ∧
      call.timeout = some (timeout.getD settings.bound.timeout)) ∧
    (∀ output, measured.result = .ok output →
      ∃ (least first : UInt64) (before : List Invocation) (success : Invocation)
          (between last : List Invocation),
        output.document.member "min" = .natural least.toNat ∧
        output.document.member "trials" = .natural calls.length ∧
        output.document.member "firstSuccess" = .natural first.toNat ∧
        output.human = [toString least.toNat ++ " " ++ settings.bound.unit] ∧
        calls = before ++ success :: (between ++ last) ∧
        (success.command = bounded.under first ∧ success.sample.succeeded = true) ∧
        last.length = required ∧
        (∀ call ∈ last, call.command = bounded.under least ∧ call.sample.succeeded = true) ∧
        least.toNat ≤
          first.toNat + (between ++ last).countP fun call => !call.sample.succeeded) ∧
    ∀ (τ : Type) (other : Runner τ) (occasion' : Occasion) (files' : Files) (s' : τ),
      let measured' := run settings request other occasion' files' s' progress
      let calls' := transcript other occasion' settings request files' s' progress
      (∀ (i : Nat) (call call' : Invocation), calls[i]? = some call → calls'[i]? = some call' →
        call'.sample.succeeded = call.sample.succeeded) →
      calls'.map Invocation.command = calls.map Invocation.command ∧
        calls'.map Invocation.timeout = calls.map Invocation.timeout ∧
        measured'.progress = measured.progress ∧ measured'.log = measured.log ∧
        ∃ found : Except Failure SearchOutcome,
          measured.result =
            found.map (boundOutput bounded settings.bound.unit occasion.stamp) ∧
          measured'.result =
            found.map (boundOutput bounded settings.bound.unit occasion'.stamp) := by
  intro request template key bounded required measured calls
  let config : SearchConfig :=
    { initialBound := settings.bound.initialBound
      coarseStep := settings.bound.coarseStep
      confirmations := confirmations.getD settings.reps
      maxBound := settings.bound.maxBound }
  let limit := timeout.getD settings.bound.timeout
  let unit := settings.bound.unit
  refine ⟨?_, ?_, ?_, ?_⟩
  · have hrefused :=
      @search_refused_iff σ runner occasion config bounded limit unit files s progress hmax
    rw [bounded.carriesBound_iff, not_or, not_ne_iff] at hrefused
    exact hrefused
  · intro call hcall
    have hsearch : call ∈ searchCalls runner occasion config bounded limit unit files s progress :=
      hcall
    exact bounds_of_searchCalls hmax hsearch
  · intro output hok
    have hsearch : (search runner occasion config bounded limit unit files s progress).result =
        .ok output := hok
    exact searchCalls_of_output hmax hsearch
  · intro τ other occasion' files' s' measured' calls' hsame
    obtain ⟨hobserved, hrest⟩ : calls'.map Invocation.observed = calls.map Invocation.observed ∧ _ :=
      @search_of_same_outcomes σ runner occasion config bounded limit unit files s progress hmax τ
        other occasion' files' s' hsame
    refine ⟨?_, ?_, hrest⟩
    · have hcommands := congrArg (List.map Prod.fst) hobserved
      rw [List.map_map, List.map_map] at hcommands
      exact hcommands
    · have htimeouts := congrArg (List.map fun observed => observed.2.1) hobserved
      rw [List.map_map, List.map_map] at htimeouts
      exact htimeouts

/-- The first success is at five, and the restart at three. A success there is followed by a failure,
and after another failure at four the bound found is five. A runner that also prints something leads
to the same calls. -/
theorem run_minheap_reports_broken_streak :
    let settings : Settings :=
      { bound := { initialBound := 2, coarseStep := 3, maxBound := 9 } }
    let outcomes := [false, true, true, false, false, true, true]
    let runner : Runner Nat :=
      { run := fun _ _ files n =>
          ({ succeeded := outcomes.getD n false, exitCode := some 1 }, files, n + 1) }
    let other : Runner (List Bool) :=
      { run := fun _ _ files script =>
          ({ stdout := "x", succeeded := script.headD false }, files, script.tail) }
    let request := MetricCommand.minheap (some 2) none none none ["java", "Main"]
    let bounded : BoundedCommand :=
      { command := { program := "java", args := ["Main"] }, boundArg := settings.bound.boundArg }
    let occasion : Occasion := { stamp := { runId := "1", startedAt := "now" } }
    let later : Occasion := { stamp := { runId := "2", startedAt := "later" } }
    let progress : Progress := { isTerminal := true }
    let measured := run settings request runner occasion {} 0 progress
    let calls := transcript runner occasion settings request {} 0 progress
    let outcome : SearchOutcome := { bound := 5, trials := 7, firstSuccess := some 5 }
    settings.bound.maxBound.toNat < maxWord ∧
      calls.map Invocation.command = ([2, 5, 3, 3, 4, 5, 5] : List UInt64).map bounded.under ∧
      measured.result = .ok (boundOutput bounded "MB" occasion.stamp outcome) ∧
      (∃ (before : List Invocation) (success : Invocation) (between last : List Invocation),
        calls = before ++ success :: (between ++ last) ∧ success.command = bounded.under 5 ∧
        last.length = 2 ∧ ∀ call ∈ last, call.command = bounded.under 5) ∧
      (transcript other later settings request {} outcomes progress).map Invocation.command =
        calls.map Invocation.command := by
  intro settings outcomes runner other request bounded occasion later progress measured calls outcome
  have hmax : settings.bound.maxBound.toNat < maxWord := by decide
  let config : SearchConfig :=
    { initialBound := 2, coarseStep := 3, confirmations := 2, maxBound := 9 }
  have hcarries : bounded.carriesBound = true := by decide +kernel
  have hend : (Search.loop config "MB" (Search.commandTrial runner bounded
      (some settings.bound.timeout)) 7 (Search.opening config ({}, 0) progress)).1 =
      some (.found outcome) := by decide +kernel
  have hok : measured.result = .ok (boundOutput bounded "MB" occasion.stamp outcome) := by
    have hmeasured : measured = _ := search_of_carriesBound hcarries
    have hfound := Search.findMinBound_of_end hend
    rw [hmeasured]
    exact congrArg (fun found => found.1.map (boundOutput bounded "MB" occasion.stamp)) hfound
  obtain ⟨-, -, hreported, hother⟩ := run_minheap_reports_its_calls settings hmax (some 2) none none
    none "java" ["Main"] runner occasion {} 0 progress
  obtain ⟨least, first, before, success, between, last, hleast, -, hfirst, -, hsplit, hsuccess,
    hlength, hlast, -⟩ := hreported _ hok
  have hfive : ∀ bound : UInt64, Json.natural 5 = .natural bound.toNat → bound = 5 :=
    fun bound hnatural => UInt64.toNat_inj.1 (Json.natural_inj hnatural).symm
  obtain rfl := hfive least hleast
  obtain rfl := hfive first hfirst
  have hend₁ : (Search.loop config "MB" (Search.commandTrial runner.recording bounded
      (some settings.bound.timeout)) 7 (Search.opening config ({}, 0, []) progress)).1 =
      some (.found outcome) := by decide +kernel
  have hend₂ : (Search.loop config "MB" (Search.commandTrial other.recording bounded
      (some settings.bound.timeout)) 7 (Search.opening config ({}, outcomes, []) progress)).1 =
      some (.found outcome) := by decide +kernel
  have hcalls : calls = _ := @searchCalls_of_loop Nat runner occasion config bounded
    settings.bound.timeout "MB" {} 0 progress 7 _ hcarries hend₁
  have hcalls' : transcript other later settings request {} outcomes progress = _ :=
    @searchCalls_of_loop (List Bool) other later config bounded settings.bound.timeout "MB" {}
      outcomes progress 7 _ hcarries hend₂
  have houtcomes : calls.map (fun call => call.sample.succeeded) = outcomes := by
    rw [hcalls]
    decide +kernel
  have houtcomes' : (transcript other later settings request {} outcomes progress).map
      (fun call => call.sample.succeeded) = outcomes := by
    rw [hcalls']
    decide +kernel
  have hcommands : calls.map Invocation.command =
      ([2, 5, 3, 3, 4, 5, 5] : List UInt64).map bounded.under := by
    rw [hcalls]
    decide +kernel
  have hsame : ∀ (i : Nat) (call call' : Invocation), calls[i]? = some call →
      (transcript other later settings request {} outcomes progress)[i]? = some call' →
      call'.sample.succeeded = call.sample.succeeded := by
    intro i call call' hcall hcall'
    have hplace := congrArg (fun row => row[i]?) (houtcomes'.trans houtcomes.symm)
    simp only [List.getElem?_map, hcall, hcall', Option.map_some, Option.some.injEq] at hplace
    exact hplace
  refine ⟨hmax, hcommands, hok, ⟨before, success, between, last, hsplit, hsuccess.1, hlength,
    fun call hcall => (hlast call hcall).1⟩, ?_⟩
  exact (hother (List Bool) other later {} outcomes hsame).1

end Metric

end RunMeter
