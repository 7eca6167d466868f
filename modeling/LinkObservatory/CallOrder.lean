import LinkObservatory.Session
import LinkObservatory.Workload

namespace LinkObservatory
set_option autoImplicit true

open Labelled

/-- The records applied, in their order. -/
def recordsApplied (changes : List Change) : List ParsedRecord :=
  (changes.flatMap Change.records).map Prod.fst

theorem recordsApplied_append (changes more : List Change) :
    recordsApplied (changes ++ more) = recordsApplied changes ++ recordsApplied more := by
  simp only [recordsApplied, List.flatMap_append, List.map_append]

/-- The submission that the change is for. -/
def Change.ticket : Change → Option Nat
  | batch _ ticket _ => some ticket
  | load _ => none

theorem Change.applied_of_ticket {change : Change} {ticket : Nat}
    (h : change.ticket = some ticket) : change.applied ticket = change.records.map Prod.fst := by
  cases change with
  | load => cases h
  | batch worker other records =>
    obtain rfl := Option.some.inj h
    exact if_pos rfl

theorem Change.applied_of_ne {change : Change} {ticket : Nat}
    (h : change.ticket ≠ some ticket) : change.applied ticket = [] := by
  cases change with
  | load => rfl
  | batch worker other records => exact if_neg fun heq => h (congrArg some heq)

/-- What is applied for the submissions, put together, is all that is applied. -/
theorem recordsApplied_perm {changes : List Change} {count : Nat}
    (h : ∀ ticket, count ≤ ticket → appliedOf changes ticket = []) :
    (recordsApplied changes).Perm ((List.range count).flatMap (appliedOf changes)) := by
  have hgroup (ticket : Nat) : (Grouping.group Change.ticket changes ticket).flatMap
      (fun change => change.records.map Prod.fst) = appliedOf changes ticket := by
    rw [appliedOf, ← Grouping.flatMap_group Change.ticket ticket fun change _ hne =>
      Change.applied_of_ne hne]
    refine List.flatMap_congr fun change hmem => ?_
    exact (Change.applied_of_ticket (by simpa using (List.mem_filter.1 hmem).2)).symm
  have hall := (Grouping.perm_groups Change.ticket changes count).flatMap_right
    fun change => change.records.map Prod.fst
  rw [List.flatMap_assoc] at hall
  simp only [hgroup] at hall
  refine (List.Perm.of_eq ?_).trans hall
  rw [recordsApplied, List.map_flatMap]
  refine (Grouping.flatMap_filter fun change hmem hnone => ?_).symm
  cases hticket : change.ticket with
  | none =>
    cases change with
    | load => rfl
    | batch => cases hticket
  | some ticket =>
    rw [hticket] at hnone
    have hempty := h ticket (by simpa using hnone)
    rw [← Change.applied_of_ticket hticket]
    exact List.flatMap_eq_nil_iff.1 hempty change hmem

/-- What a caller applies itself, with the submission that it is for. -/
def Action.applies : Action → Option (Nat × List ParsedRecord)
  | .apply ticket records => some (ticket, records.map Prod.fst)
  | _ => none

/-- The submission for which a caller applies records or hands a part to a worker. -/
def Action.serves : Action → Option Nat
  | .apply ticket _ => some ticket
  | action => (action.pool.bind PoolAction.pushed).map fun pair => pair.2.call

/-- The records that the callers apply. -/
def callersApplied (labels : List Action) : List ParsedRecord :=
  (labels.filterMap Action.applies).flatMap Prod.snd

/-- The records that the workers apply. -/
def workersApplied (labels : List Action) : List ParsedRecord :=
  (handles (poolLabels labels)).flatMap fun pair => pair.2.records

namespace Runtime

theorem Writes.recordsApplied {before after : Runtime × List Change}
    (h : Writes step before action after) :
    recordsApplied after.2 = recordsApplied before.2 ++ action.records.map Prod.fst := by
  rw [h.2, recordsApplied_append]
  congr 1
  rw [LinkObservatory.recordsApplied, changesOf_records]

theorem run_stamped {start runtime : Runtime} {changes : List Change}
    (h : Run (Writes (Session instant)) (start, []) labels (runtime, changes)) :
    changes.flatMap Change.records =
      (recordsApplied changes).map fun record => (record, instant) := by
  have hall : ∀ record ∈ changes.flatMap Change.records, record.2 = instant := by
    refine Run.invariant (fun _ state => ∀ record ∈ state.2.flatMap Change.records,
      record.2 = instant) h (fun _ hmem => by cases hmem) fun _ hinv hstep record hmem => ?_
    rw [hstep.2, List.flatMap_append, changesOf_records] at hmem
    exact (List.mem_append.1 hmem).elim (hinv record) (hstep.1.clock record)
  rw [recordsApplied, List.map_map]
  refine (List.map_id'' (fun record => rfl) _).symm.trans
    (List.map_congr_left fun record hmem => ?_)
  exact Prod.ext rfl (hall record hmem)

/-- Only a call adds to the batches. -/
theorem Step.batches {runtime runtime' : Runtime} {action : Action}
    (h : Step runtime action runtime') :
    (∃ batch, action = .call batch ∧
        runtime'.calls.map Call.batch = runtime.calls.map Call.batch ++ [batch]) ∨
      (∀ batch, action ≠ .call batch) ∧
        runtime'.calls.map Call.batch = runtime.calls.map Call.batch := by
  have hset {ticket : Nat} {old new : Call} (hold : runtime.calls[ticket]? = some old)
      (hbatch : new.batch = old.batch) :
      (runtime.calls.set ticket new).map Call.batch = runtime.calls.map Call.batch := by
    rw [List.map_set, hbatch]
    refine List.ext_getElem? fun index => ?_
    rw [List.getElem?_set]
    split
    · rename_i heq
      subst heq
      have hlt := (List.getElem?_eq_some_iff.1 hold).1
      rw [List.length_map, if_pos hlt, List.getElem?_map, hold]
      rfl
    · rfl
  cases h with
  | call => exact .inl ⟨_, rfl, List.map_append ..⟩
  | check hcall =>
    refine .inr ⟨by simp, hset hcall ?_⟩
    unfold Call.enter
    split <;> rfl
  | checkRefused hcall | applyInline hcall | applyDeclarations hcall | arrive hcall
  | complete hcall | enlist hcall | deny hcall | push hcall | refuse hcall | leave hcall
  | signal hcall => exact .inr ⟨by simp, hset hcall rfl⟩
  | startLoad => exact .inr ⟨by simp, congrArg (List.map Call.batch) runtime.startLoad_frame.2⟩
  | _ => exact .inr ⟨by simp, rfl⟩

theorem submitted_eq (runtime : Runtime) :
    runtime.submitted = (runtime.calls.map Call.batch).flatten :=
  List.flatMap_def ..

theorem Step.serves {runtime runtime' : Runtime} {action : Action}
    (h : Step runtime action runtime') (hkept : runtime.Kept options labels)
    (hticket : action.serves = some ticket) :
    ∃ call : Call, runtime.calls[ticket]? = some call ∧
      ∀ status, call.phase ≠ .returned status := by
  cases h with
  | applyInline hcall hphase | applyDeclarations hcall hphase =>
    obtain rfl := Option.some.inj hticket
    exact ⟨_, hcall, by simp [hphase]⟩
  | push hcall hphase hpool =>
    rename_i own call index part pool' parts
    obtain rfl := Option.some.inj hticket
    have hfollows := hkept.calls _ _ hcall
    simp only [Call.Follows, hphase] at hfollows
    have hmem : (index, part) ∈ partsOf options.workers own call.batch := by
      rw [hfollows.parts]
      exact List.mem_append_right _ List.mem_cons_self
    rw [(mem_partsOf.1 hmem).2.2]
    exact ⟨_, hcall, by simp [hphase]⟩
  | _ => cases hticket

/-- What a step applies is applied by a caller or by a worker. -/
theorem Step.records_split {runtime runtime' : Runtime} {action : Action}
    (h : Step runtime action runtime') :
    action.records.map Prod.fst = callersApplied [action] ++ workersApplied [action] := by
  rcases h.changes_cases with ⟨ticket, records, rfl, -⟩ |
    ⟨index, part, records, rfl, hrecords, -⟩ | ⟨hown, hhandles, -⟩
  · exact ((List.append_nil _).trans (List.append_nil _)).symm
  · exact hrecords.trans (List.append_nil _).symm
  · have hquiet : workersApplied [action] = [] := by
      rw [workersApplied, hhandles]
      rfl
    rw [hquiet, List.append_nil]
    cases action with
    | apply => exact (List.append_nil _).symm
    | handle => cases hhandles
    | _ => rfl

theorem Step.submitted {runtime runtime' : Runtime} {action : Action}
    (h : Step runtime action runtime') : runtime.submitted <+: runtime'.submitted := by
  rw [submitted_eq, submitted_eq]
  rcases h.batches with ⟨batch, -, hbatches⟩ | ⟨-, hbatches⟩
  · rw [hbatches, List.flatten_append]
    exact List.prefix_append _ _
  · rw [hbatches]

section

variable {options : LifecycleConfig} {config : RuntimeConfig} {files : FileSystem}
  {runtime : Runtime} {changes : List Change}

theorem run_unapplied
    (h : Run (Writes Step) (make options config files, []) labels (runtime, changes))
    (hle : runtime.calls.length ≤ ticket) : appliedOf changes ticket = [] := by
  have hperm := appliedBy_perm labels ticket
  rw [(run_kept (run_of_writes h)).unused ticket hle] at hperm
  rw [run_applied h]
  exact hperm.eq_nil

theorem writes_step
    (h : Run (Writes (Session instant)) (make options config files, []) labels (runtime, changes)) :
    Run (Writes Step) (make options config files, []) labels (runtime, changes) :=
  h.mono fun _ _ _ hone => ⟨hone.1.step, hone.2⟩

theorem run_returned (h : Run (Session instant) (make options config files) labels runtime)
    (hstopped : runtime.controls = [.started .success, .stopped status]) {call : Call}
    (hmem : call ∈ runtime.calls) : call.phase = .returned .success := by
  have hserved := run_served h
  have hidle := hserved.under.resolve_left (by simp [hstopped])
  obtain ⟨other, hreturned⟩ := hidle call hmem
  rw [hreturned, hserved.success call hmem other hreturned]

/-- Once the runtime is stopped, every batch has been applied. -/
theorem run_applied_perm
    (h : Run (Writes (Session instant)) (make options config files, []) labels (runtime, changes))
    (hstopped : runtime.controls = [.started .success, .stopped status]) {ticket : Nat}
    {call : Call} (hcall : runtime.calls[ticket]? = some call) :
    (appliedOf changes ticket).Perm call.batch := by
  have hrun := run_of_writes h
  have hinTurn : Run InTurn (make options config files) labels runtime :=
    hrun.mono fun _ _ _ hone => hone.inTurn
  have hquiet : runtime.pool.running = false := by
    have hfits := (run_turns hinTurn).fits
    rw [lastControl, hstopped] at hfits
    exact hfits.2
  have hfollows := (run_kept (run_of_inTurn hinTurn)).calls ticket call hcall
  have hok : Status.success.ok = true := rfl
  simp only [Call.Follows, run_returned hrun hstopped (List.mem_of_getElem? hcall), hok, if_true]
    at hfollows
  have hparts := hfollows.parts
  rw [List.append_nil] at hparts
  rw [run_applied (writes_step h)]
  exact applied_of_handled hfollows.own hparts (run_drained hinTurn hquiet ticket)

theorem run_submitted_perm
    (h : Run (Writes (Session instant)) (make options config files, []) labels (runtime, changes))
    (hstopped : runtime.controls = [.started .success, .stopped status]) :
    (recordsApplied changes).Perm runtime.submitted := by
  refine (recordsApplied_perm fun ticket hle => run_unapplied (writes_step h) hle).trans ?_
  rw [Runtime.submitted, Grouping.flatMap_range runtime.calls]
  refine List.Perm.flatMap_left _ fun ticket hmem => ?_
  have hlt := List.mem_range.1 hmem
  rw [List.getElem?_eq_getElem hlt]
  exact run_applied_perm h hstopped (List.getElem?_eq_getElem hlt)

theorem step_run (h : Run (Session instant) (make options config files) labels runtime) :
    Run Step (make options config files) labels runtime :=
  h.mono fun _ _ _ hone => hone.step

/-- The callers serve their submissions one after the other. -/
theorem run_sequential (h : Run (Session instant) (make options config files) labels runtime) :
    labels.Pairwise (fun first second => ∀ ticket ∈ first.serves, ∀ ticket' ∈ second.serves,
        ticket ≤ ticket') ∧
      ∀ action ∈ labels, ∀ ticket ∈ action.serves, ticket < runtime.calls.length := by
  refine Run.invariant (fun labels runtime => labels.Pairwise (fun first second =>
      ∀ ticket ∈ first.serves, ∀ ticket' ∈ second.serves, ticket ≤ ticket') ∧
        ∀ action ∈ labels, ∀ ticket ∈ action.serves, ticket < runtime.calls.length) h
    ⟨.nil, by simp⟩ fun {labels runtime action runtime'} hrun hinv hstep => ?_
  have hlength : runtime.calls.length ≤ runtime'.calls.length := by
    rcases hstep.step.batches with ⟨batch, -, hbatches⟩ | ⟨-, hbatches⟩
    · have hmore := congrArg List.length hbatches
      simp only [List.length_map, List.length_append, List.length_singleton] at hmore
      omega
    · have hsame := congrArg List.length hbatches
      simp only [List.length_map] at hsame
      omega
  have hlast : ∀ ticket ∈ action.serves, ticket + 1 = runtime.calls.length := by
    intro ticket hticket
    obtain ⟨call, hcall, hphase⟩ := hstep.step.serves (run_kept (step_run hrun)) hticket
    exact (run_served hrun).last hcall hphase
  refine ⟨List.pairwise_append.2 ⟨hinv.1, List.pairwise_singleton _ _, ?_⟩, ?_⟩
  · intro first hfirst second hsecond ticket hticket ticket' hticket'
    rw [List.mem_singleton.1 hsecond] at hticket'
    have hold := hinv.2 first hfirst ticket hticket
    have hnew := hlast ticket' hticket'
    omega
  · intro first hfirst ticket hticket
    rcases List.mem_append.1 hfirst with hfirst | hfirst
    · exact (hinv.2 first hfirst ticket hticket).trans_le hlength
    · rw [List.mem_singleton.1 hfirst] at hticket
      have hnew := hlast ticket hticket
      omega

theorem applies_group (labels : List Action) (ticket : Nat) :
    (Grouping.group (fun pair => some pair.1) (labels.filterMap Action.applies) ticket).flatMap
      Prod.snd = (books labels ticket).own := by
  show _ = labels.flatMap (Action.own ticket)
  induction labels with
  | nil => rfl
  | cons action labels ih =>
    cases action with
    | apply other records =>
      rw [List.flatMap_cons, ← ih]
      by_cases heq : other = ticket <;> simp [Grouping.group, Action.applies, Action.own, heq]
    | _ => exact ih

/-- The callers apply their records by ascending submission. -/
theorem run_callers_groups (h : Run (Session instant) (make options config files) labels runtime) :
    callersApplied labels =
      (List.range runtime.calls.length).flatMap fun ticket => (books labels ticket).own := by
  obtain ⟨hsorted, hlt⟩ := run_sequential h
  have hserves {action : Action} {pair : Nat × List ParsedRecord}
      (happlies : action.applies = some pair) : pair.1 ∈ action.serves := by
    cases action with
    | apply =>
      cases happlies
      rfl
    | _ => cases happlies
  have hkeys : (labels.filterMap Action.applies).Pairwise fun first second =>
      first.1 ≤ second.1 := by
    rw [List.pairwise_filterMap]
    refine hsorted.imp ?_
    intro _ _ hboth first hfirst second hsecond
    exact hboth _ (hserves hfirst) _ (hserves hsecond)
  have hgroups := Grouping.groups_of_sorted Prod.fst hkeys fun pair hmem => by
    obtain ⟨action, haction, happlies⟩ := List.mem_filterMap.1 hmem
    exact hlt action haction _ (hserves happlies)
  rw [callersApplied, hgroups, List.flatMap_assoc]
  exact List.flatMap_congr fun ticket _ => applies_group labels ticket

/-- The queues accept the parts by ascending submission. -/
theorem run_pushes_groups (h : Run (Session instant) (make options config files) labels runtime) :
    pushes (poolLabels labels) =
      (List.range runtime.calls.length).flatMap fun ticket => (books labels ticket).accepted := by
  obtain ⟨hsorted, hlt⟩ := run_sequential h
  have hserves {action : Action} {pair : Nat × Part}
      (hpushed : action.pool.bind PoolAction.pushed = some pair) :
      pair.2.call ∈ action.serves := by
    cases action with
    | apply => cases hpushed
    | _ => exact congrArg (Option.map fun pair => pair.2.call) hpushed
  have hlabels : pushes (poolLabels labels) =
      labels.filterMap fun action => action.pool.bind PoolAction.pushed :=
    List.filterMap_filterMap
  have hkeys : (pushes (poolLabels labels)).Pairwise fun first second =>
      first.2.call ≤ second.2.call := by
    rw [hlabels, List.pairwise_filterMap]
    refine hsorted.imp ?_
    intro _ _ hboth first hfirst second hsecond
    exact hboth _ (hserves hfirst) _ (hserves hsecond)
  have hgroups := Grouping.groups_of_sorted (fun pair : Nat × Part => pair.2.call) hkeys
      fun pair hmem => by
    rw [hlabels] at hmem
    obtain ⟨action, haction, hpushed⟩ := List.mem_filterMap.1 hmem
    exact hlt action haction _ (hserves hpushed)
  rw [hgroups]
  refine List.flatMap_congr fun ticket _ => List.filter_congr fun pair _ => ?_
  simp

/-- Without workers the callers apply everything. -/
theorem run_inline
    (h : Run (Writes (Session instant)) (make options config files, []) labels (runtime, changes))
    (hworkers : options.workers = 0) : recordsApplied changes = callersApplied labels := by
  refine Run.invariant (fun labels state => recordsApplied state.2 = callersApplied labels) h rfl
    fun {labels before action after} hrun hinv hstep => ?_
  have hnone := (run_unrouted (step_run (run_of_writes (hrun.snoc hstep))) hworkers).2
  rw [poolLabels, List.filterMap_append, handles, List.filterMap_append,
    List.append_eq_nil_iff] at hnone
  have hquiet : workersApplied [action] = [] :=
    List.flatMap_eq_nil_iff.2 fun pair hmem => by
      rw [handles, poolLabels, hnone.2] at hmem
      cases hmem
  rw [hstep.recordsApplied, hstep.1.step.records_split, hinv, hquiet, List.append_nil]
  simp only [callersApplied, List.filterMap_append, List.flatMap_append]

/-- Without workers the batches are applied in the order of their submission. -/
theorem run_inline_submitted
    (h : Run (Writes (Session instant)) (make options config files, []) labels (runtime, changes))
    (hworkers : options.workers = 0)
    (hstopped : runtime.controls = [.started .success, .stopped status]) :
    recordsApplied changes = runtime.submitted := by
  have hrun := run_of_writes h
  rw [run_inline h hworkers, run_callers_groups hrun, Runtime.submitted,
    Grouping.flatMap_range runtime.calls]
  refine List.flatMap_congr fun ticket hmem => ?_
  have hcall := List.getElem?_eq_getElem (List.mem_range.1 hmem)
  have hfollows := (run_kept (step_run hrun)).calls ticket _ hcall
  have hok : Status.success.ok = true := rfl
  simp only [Call.Follows, run_returned hrun hstopped (List.mem_of_getElem? hcall), hok, if_true]
    at hfollows
  rw [hcall, hfollows.own, ownRecords, if_pos hworkers]
  rfl

end

/-- Steps that are no requests, and apply records at the one instant, are steps of a session. -/
theorem run_quiet {start runtime : Runtime} (h : Run Step start labels runtime)
    (hrequest : ∀ action ∈ labels, action.request = false)
    (hclock : ∀ action ∈ labels, ∀ record ∈ action.records, record.2 = instant) :
    Run (Session instant) start labels runtime := by
  refine h.mono_mem fun runtime action runtime' hmem hstep => ⟨hstep, ?_, ?_, hclock action hmem⟩
  · rintro batch rfl
    cases hrequest _ hmem
  · rintro control rfl
    cases hrequest _ hmem

end Runtime

end LinkObservatory
