import LinkObservatory.StartStop
import LinkObservatory.RoundTrip

namespace LinkObservatory
set_option autoImplicit true

open Labelled

/-- The call has only its own records left, and these are still to be applied. -/
def Call.sole (call : Call) : Bool :=
  match call.phase with
  | .inlined => call.batch ≠ []
  | .declaring _ [] => true
  | _ => false

/-- The phases in which a call is past its check and has its own part still to apply. -/
def CallPhase.ahead : CallPhase → Bool
  | inlined | declaring _ _ => true
  | _ => false

theorem Call.sole_of_ahead {call : Call} (h : call.phase.ahead = false) : call.sole = false := by
  unfold Call.sole
  cases hphase : call.phase with
  | inlined | declaring _ _ =>
    rw [hphase] at h
    cases h
  | _ => rfl

theorem Call.sole_congr {first second : Call} (hphase : first.phase = second.phase)
    (hbatch : first.batch = second.batch) : first.sole = second.sole := by
  simp only [Call.sole, hphase, hbatch]

/-- A call of `stop`. -/
def Control.ofStop : Control → Bool
  | stopEntered | stopDraining | stopPersisting | stopClearing _ | stopped _ => true
  | _ => false

/-- Nothing is loaded over a batch. -/
def LoadsFirst (changes : List Change) : Prop :=
  changes.Pairwise fun first second => first.loads = false → second.loads = false

theorem LoadsFirst.batches {changes more : List Change} (h : LoadsFirst changes)
    (hmore : ∀ change ∈ more, change.loads = false) : LoadsFirst (changes ++ more) :=
  List.pairwise_append.2 ⟨h, List.pairwise_of_forall_mem_list fun _ _ second hmem _ =>
    hmore second hmem, fun _ _ second hmem _ => hmore second hmem⟩

theorem LoadsFirst.of_loads {changes : List Change}
    (h : ∀ change ∈ changes, change.loads = true) : LoadsFirst changes :=
  List.pairwise_of_forall_mem_list fun first hmem _ _ hbatch => by
    rw [h first hmem] at hbatch
    cases hbatch

namespace Runtime

/-- When the snapshot is collected no call has only its own records left, and none comes to that
point before the runtime is marked as stopped; by then no call has any left at all. -/
structure Orderly (runtime : Runtime) (action : Action) : Prop where
  persist : ∀ ticket contents, action = .persist ticket contents →
    ∀ call ∈ runtime.calls, call.sole = false
  check : ∀ (ticket : Nat) (call : Call) (status : Status), action = .check ticket →
    runtime.calls[ticket]? = some call → runtime.started = true → runtime.persists = true →
    .stopClearing status ∈ runtime.controls →
      (call.enter runtime.lifecycle.workers ticket).sole = false
  clear : ∀ (ticket : Nat) (status : Status), action = .advance ticket →
    runtime.controls[ticket]? = some (.stopClearing status) →
      ∀ call ∈ runtime.calls, call.phase.ahead = false

/-- A step in turn that is orderly. -/
def Tidy (runtime : Runtime) (action : Action) (runtime' : Runtime) : Prop :=
  InTurn runtime action runtime' ∧ runtime.Orderly action

theorem run_of_inTurn {start runtime : Runtime} (h : Run InTurn start labels runtime) :
    Run Step start labels runtime := h.mono fun _ _ _ hstep => hstep.1

theorem run_of_tidy {start runtime : Runtime} (h : Run Tidy start labels runtime) :
    Run InTurn start labels runtime := h.mono fun _ _ _ hstep => hstep.1

theorem Step.ahead {runtime runtime' : Runtime} {action : Action}
    (h : Step runtime action runtime') {new : Call} (hmem : new ∈ runtime'.calls)
    (hahead : new.phase.ahead = true) :
    (∃ call ∈ runtime.calls, call.phase = new.phase ∧ call.batch = new.batch) ∨
      ∃ (ticket : Nat) (call : Call), action = .check ticket ∧
        runtime.calls[ticket]? = some call ∧ runtime.started = true ∧
        new = call.enter runtime.lifecycle.workers ticket := by
  have hset {ticket : Nat} {changed : Call} (hchanged : new ∈ runtime.calls.set ticket changed) :
      new = changed ∨ ∃ call ∈ runtime.calls, call.phase = new.phase ∧ call.batch = new.batch := by
    rcases WorkerPool.mem_set hchanged with rfl | hmem
    · exact .inl rfl
    · exact .inr ⟨new, hmem, rfl, rfl⟩
  cases h with
  | call =>
    rcases List.mem_append.1 hmem with hmem | hmem
    · exact .inl ⟨new, hmem, rfl, rfl⟩
    · rw [List.mem_singleton.1 hmem] at hahead
      cases hahead
  | check hcall hphase hstarted =>
    rcases hset hmem with rfl | hkept
    · exact .inr ⟨_, _, rfl, hcall, hstarted, rfl⟩
    · exact .inl hkept
  | signal hcall hrest hpool =>
    rcases hset hmem with rfl | hkept
    · exact .inl ⟨_, List.mem_of_getElem? hcall, rfl, rfl⟩
    · exact .inl hkept
  | arrive hcall hphase =>
    rcases hset hmem with rfl | hkept
    · dsimp only at hahead
      split at hahead <;> cases hahead
    · exact .inl hkept
  | checkRefused _ _ _ | applyInline _ _ _ | applyDeclarations _ _ _ | complete _ _ | enlist _ _ _
  | deny _ _ _ _ | push _ _ _ | refuse _ _ _ | leave _ _ =>
    rcases hset hmem with rfl | hkept
    · cases hahead
    · exact .inl hkept
  | startLoad hcontrol =>
    refine .inl ⟨new, ?_, rfl, rfl⟩
    rw [← runtime.startLoad_frame.2]
    exact hmem
  | _ => exact .inl ⟨new, hmem, rfl, rfl⟩

theorem Step.control {runtime runtime' : Runtime} {action : Action}
    (h : Step runtime action runtime') :
    (∃ control, action = .enter control ∧ runtime'.controls = runtime.controls ++ [control]) ∨
      (∀ control, action ≠ .enter control) ∧ (runtime'.controls = runtime.controls ∨
        ∃ (ticket : Nat) (old new : Control), runtime.controls[ticket]? = some old ∧
          old.returned = false ∧ runtime'.controls = runtime.controls.set ticket new ∧
          ∀ status, (old = .stopClearing status ↔ new = .stopped status) ∧
            (new = .stopped status → action = .advance ticket)) := by
  cases h with
  | enter hcontrol => exact .inl ⟨_, rfl, rfl⟩
  | stopClear hfound =>
    exact .inr ⟨by simp, .inr ⟨_, _, _, hfound, rfl, rfl, by simp⟩⟩
  | startLoad hfound =>
    obtain ⟨σ, hload, hnext⟩ := runtime.startLoad_cases
    refine .inr ⟨by simp, .inr ⟨_, _, runtime.startLoad.2, hfound, rfl, ?_, ?_⟩⟩
    · rw [hload]
      rfl
    · rcases hnext with ⟨status, -, hnext⟩ | hnext <;> simp [hnext]
  | startCheck hfound =>
    refine .inr ⟨by simp, .inr ⟨_, _, _, hfound, rfl, rfl, ?_⟩⟩
    rcases runtime.startCheck_cases with ⟨status, -, hnext⟩ | ⟨-, hnext⟩ <;> simp [hnext]
  | startInline hfound _ | startRefused hfound _ _ _ | spawn hfound _ _
  | startMark hfound | stopIdle hfound _ | stopDrain hfound _ _ | cancelIdle hfound _
  | cancelDrain hfound _ _ | stopHalt hfound _ | cancelHalt hfound _ | persist hfound _ _
  | skipPersist hfound _ =>
    exact .inr ⟨by simp, .inr ⟨_, _, _, hfound, rfl, rfl, by simp⟩⟩
  | _ => exact .inr ⟨by simp, .inl rfl⟩

theorem run_unentered {start runtime : Runtime} (h : Run Step start labels runtime)
    (hlength : runtime.controls.length = start.controls.length) :
    ∀ control, .enter control ∉ labels := by
  have hgrown := Run.invariant (fun labels runtime =>
    start.controls.length ≤ runtime.controls.length ∧
      ((∃ control, Action.enter control ∈ labels) →
        start.controls.length < runtime.controls.length)) h ⟨Nat.le_refl _, by simp⟩
    fun {labels runtime action runtime'} _ hinv hstep => ?_
  · intro control hmem
    have hlt := hgrown.2 ⟨control, hmem⟩
    omega
  · rcases hstep.control with ⟨control, rfl, hentered⟩ | ⟨hother, hcontrols⟩
    · rw [hentered, List.length_append, List.length_singleton]
      exact ⟨Nat.le_succ_of_le hinv.1, fun _ => Nat.lt_succ_of_le hinv.1⟩
    · have hsame : runtime'.controls.length = runtime.controls.length := by
        rcases hcontrols with hsame | ⟨ticket, old, new, -, -, hset, -⟩
        · rw [hsame]
        · rw [hset, List.length_set]
      rw [hsame]
      refine ⟨hinv.1, fun ⟨control, hmem⟩ => hinv.2 ⟨control, ?_⟩⟩
      simpa [(hother control).symm] using hmem

theorem Turns.stays {runtime runtime' : Runtime} {action : Action} (h : runtime.Turns)
    (hstep : Step runtime action runtime') (hentered : ∀ control, action ≠ .enter control) :
    (∀ status, runtime.lastControl = .stopped status → runtime'.lastControl = .stopped status) ∧
      ∀ status, runtime.lastControl = .stopClearing status →
        runtime'.lastControl = .stopClearing status ∨ runtime'.lastControl = .stopped status := by
  rcases hstep.control with ⟨control, haction, -⟩ |
    ⟨-, hsame | ⟨ticket, old, new, hfound, hreturned, hset, hclear⟩⟩
  · exact absurd haction (hentered control)
  · have hlast : runtime'.lastControl = runtime.lastControl := by simp only [lastControl, hsame]
    rw [hlast]
    exact ⟨fun _ => id, fun _ => .inl⟩
  · obtain ⟨past, hpast, rfl⟩ := h.last hfound hreturned
    have hold : runtime.lastControl = old := by simp [lastControl, hpast]
    have hnew : runtime'.lastControl = new := by
      simp [lastControl, hset, setControl_last hpast]
    rw [hold, hnew]
    refine ⟨fun status heq => ?_, fun status heq => .inr ((hclear status).1.1 heq)⟩
    rw [heq] at hreturned
    cases hreturned

theorem run_cleared {options : LifecycleConfig} {config : RuntimeConfig} {files : FileSystem}
    {runtime : Runtime} (h : Run Tidy (make options config files) labels runtime) {status : Status}
    (hlast : runtime.lastControl = .stopped status) :
    ∀ call ∈ runtime.calls, call.phase.ahead = false := by
  revert status
  refine Run.invariant (fun _ runtime => ∀ {status}, runtime.lastControl = .stopped status →
    ∀ call ∈ runtime.calls, call.phase.ahead = false) h (fun _ call hmem => by cases hmem) ?_
  intro labels runtime action runtime' hrun hinv hstep status hlast new hmem
  have hturns := run_turns (run_of_tidy hrun)
  by_contra hbehind
  have hahead : new.phase.ahead = true := by simpa using hbehind
  -- the calls of the state before were clear, and none was checked
  obtain ⟨hclear, hcheck⟩ : (∀ call ∈ runtime.calls, call.phase.ahead = false) ∧
      ∀ ticket, action = .check ticket → runtime.started = false := by
    rcases hstep.1.1.control with ⟨control, rfl, hentered⟩ |
      ⟨-, hsame | ⟨ticket, old, new, hfound, hreturned, hset, hstop⟩⟩
    · rw [lastControl, hentered, List.getLast?_concat] at hlast
      cases hstep.1.1 with
      | enter hcontrol =>
        have hstopped : control = .stopped status := hlast
        simp [hstopped] at hcontrol
    · have hbefore : runtime.lastControl = .stopped status := by
        rwa [lastControl, hsame] at hlast
      refine ⟨hinv hbefore, fun _ _ => ?_⟩
      have hfits := hturns.fits
      rw [hbefore] at hfits
      exact hfits.1
    · obtain ⟨past, hpast, rfl⟩ := hturns.last hfound hreturned
      rw [lastControl, hset, setControl_last hpast, List.getLast?_concat] at hlast
      have hstopped : new = .stopped status := hlast
      obtain ⟨hold, haction⟩ := hstop status
      refine ⟨hstep.2.clear _ status (haction hstopped) ?_, fun ticket hcheck => ?_⟩
      · rw [hfound, hold.2 hstopped]
      · rw [haction hstopped] at hcheck
        cases hcheck
  rcases hstep.1.1.ahead hmem hahead with ⟨call, hcall, hphase, hbatch⟩ |
    ⟨ticket, call, haction, -, hstarted, -⟩
  · rw [← hphase, hclear call hcall] at hbehind
    exact hbehind rfl
  · rw [hcheck ticket haction] at hstarted
    cases hstarted

theorem Step.unchanged {runtime runtime' : Runtime} {action : Action}
    (h : Step runtime action runtime') (hcalls : ∀ call ∈ runtime.calls, call.phase.ahead = false)
    (hsound : runtime.pool.Sound) (hquiet : runtime.pool.running = false)
    (hloading : .startLoading ∉ runtime.controls) : runtime'.observatory = runtime.observatory := by
  cases h with
  | applyInline hcall hphase hrecords | applyDeclarations hcall hphase hrecords =>
    have hbehind := hcalls _ (List.mem_of_getElem? hcall)
    rw [hphase] at hbehind
    cases hbehind
  | handle hpool hrecords =>
    cases hpool with
    | handle hworker hthread =>
      have habsent := (hsound.quiescent hquiet _ (List.mem_of_getElem? hworker)).1
      rw [hthread] at habsent
      cases habsent
  | startLoad hcontrol => exact absurd (List.mem_of_getElem? hcontrol) hloading
  | _ => rfl

theorem Turns.loading {runtime : Runtime} (h : runtime.Turns)
    (hlast : runtime.lastControl ≠ .startLoading) : .startLoading ∉ runtime.controls := by
  intro hmem
  obtain ⟨ticket, hfound⟩ := List.getElem?_of_mem hmem
  obtain ⟨past, hpast, -⟩ := h.last hfound rfl
  rw [lastControl, hpast, List.getLast?_concat] at hlast
  exact hlast rfl

theorem run_final {options : LifecycleConfig} {config : RuntimeConfig} {files : FileSystem}
    {runtime later : Runtime} (h : Run Tidy (make options config files) labels runtime)
    {status : Status} (hlast : runtime.lastControl = .stopped status)
    (hlater : Run Tidy runtime more later)
    (hlength : later.controls.length = runtime.controls.length) :
    later.observatory = runtime.observatory := by
  have hentered := run_unentered (run_of_inTurn (run_of_tidy hlater)) hlength
  have hinv := Run.invariant (fun more later => (∀ control, .enter control ∉ more) →
    later.lastControl = .stopped status ∧ later.observatory = runtime.observatory) hlater
    (fun _ => ⟨hlast, rfl⟩) fun {labels' current action next} hrun hinv hstep hentered => ?_
  · exact (hinv hentered).2
  · obtain ⟨hcurrent, hsame⟩ := hinv fun control hmem =>
      hentered control (List.mem_append_left _ hmem)
    have hall := h.append hrun
    have hturns := run_turns (run_of_tidy hall)
    have hsound := (WorkerPool.run_sound (run_pool (run_of_inTurn (run_of_tidy hall)))).1
    have hfits := hturns.fits
    rw [hcurrent] at hfits
    refine ⟨(hturns.stays hstep.1.1 fun control haction => ?_).1 status hcurrent, ?_⟩
    · exact hentered control (List.mem_append_right _ (List.mem_singleton.2 haction.symm))
    · rw [← hsame]
      exact hstep.1.1.unchanged (run_cleared hall hcurrent) hsound hfits.2
        (hturns.loading (by simp [hcurrent]))

theorem applyAll_config (σ : Observatory) (records : List (ParsedRecord × TimePoint)) :
    (σ.applyAll records).config = σ.config := by
  induction records generalizing σ with
  | nil => rfl
  | cons record records ih => exact (ih _).trans (σ.applyRecord_config record.1 record.2)

theorem applyBatch_config (σ : Observatory) (records : List (ParsedRecord × TimePoint)) :
    (σ.applyBatch records).config = σ.config := applyAll_config _ records

theorem Step.persists {runtime runtime' : Runtime} {action : Action}
    (h : Step runtime action runtime') (hloading : .startLoading ∉ runtime.controls) :
    runtime'.persists = runtime.persists := by
  cases h with
  | applyInline _ _ _ | applyDeclarations _ _ _ | handle _ _ =>
    simp only [Runtime.persists, setCall, applyBatch_config]
  | startLoad hcontrol => exact absurd (List.mem_of_getElem? hcontrol) hloading
  | _ => rfl

theorem Step.unpushed {runtime runtime' : Runtime} {action : Action}
    (h : Step runtime action runtime') (hsound : runtime.pool.Sound)
    (hquiet : runtime.pool.running = false) : pushes (poolLabels [action]) = [] := by
  cases h with
  | push hcall hphase hpool =>
    cases hpool with
    | push hadmitted hworker hpush =>
      rcases hsound.admitted (by simp [hadmitted]) with hrunning | hall
      · rw [hquiet] at hrunning
        cases hrunning
      · have hopen := (BoundedQueue.push_true hpush).1
        rw [hall _ (List.mem_of_getElem? hworker)] at hopen
        cases hopen
  | _ => rfl

/-- What holds from the snapshot of a `stop` on, in terms of the labels passed since. -/
structure Sealed (options : LifecycleConfig) (status : Status) (labels : List Action)
    (runtime : Runtime) : Prop where
  last : runtime.lastControl = .stopClearing status ∨ runtime.lastControl = .stopped status
  persists : runtime.persists = true
  sole : ∀ call ∈ runtime.calls, call.sole = false
  applied : ∀ ticket records, .apply ticket records ∈ labels → records ≠ [] →
    ∃ call : Call, runtime.calls[ticket]? = some call ∧
      partsOf options.workers ticket call.batch ≠ []
  accepted : pushes (poolLabels labels) = []

theorem mem_of_lastControl {runtime : Runtime} {control : Control}
    (h : runtime.lastControl = control) (hreturned : control.returned = false) :
    control ∈ runtime.controls := by
  unfold lastControl at h
  cases hget : runtime.controls.getLast? with
  | none =>
    rw [hget] at h
    rw [← h] at hreturned
    cases hreturned
  | some last =>
    rw [hget] at h
    exact h ▸ List.mem_of_getLast? hget

theorem Step.applied {runtime runtime' : Runtime} {options : LifecycleConfig}
    {records : List (ParsedRecord × TimePoint)} (hkept : runtime.Kept options labels)
    (h : Step runtime (.apply ticket records) runtime') (hrecords : records ≠ [])
    (hsole : ∀ call ∈ runtime.calls, call.sole = false) :
    ∃ call : Call, runtime.calls[ticket]? = some call ∧
      partsOf options.workers ticket call.batch ≠ [] := by
  cases h with
  | applyInline hcall hphase happlied =>
    have hempty := hsole _ (List.mem_of_getElem? hcall)
    simp only [Call.sole, hphase, decide_eq_false_iff_not, Decidable.not_not] at hempty
    rw [hempty, List.map_eq_nil_iff] at happlied
    exact absurd happlied hrecords
  | applyDeclarations hcall hphase happlied =>
    have hfollows := hkept.calls _ _ hcall
    simp only [Call.Follows, hphase] at hfollows
    refine ⟨_, hcall, fun hnil => ?_⟩
    have hparts := hsole _ (List.mem_of_getElem? hcall)
    rw [hfollows.2.1, hnil] at hphase
    simp [Call.sole, hphase] at hparts

theorem Sealed.step {options : LifecycleConfig} {config : RuntimeConfig} {files : FileSystem}
    {runtime runtime' : Runtime} (hrun : Run Tidy (make options config files) all runtime)
    (h : runtime.Sealed options status labels) (hstep : Tidy runtime action runtime')
    (hentered : ∀ control, action ≠ .enter control) :
    runtime'.Sealed options status (labels ++ [action]) := by
  have hturns := run_turns (run_of_tidy hrun)
  have hall := run_of_inTurn (run_of_tidy hrun)
  have hsound := (WorkerPool.run_sound (run_pool hall)).1
  have hloading : .startLoading ∉ runtime.controls := by
    refine hturns.loading ?_
    rcases h.last with hlast | hlast <;> simp [hlast]
  have hquiet : runtime.pool.running = false := by
    have hfits := hturns.fits
    rcases h.last with hlast | hlast
    · rw [hlast] at hfits
      exact hfits
    · rw [hlast] at hfits
      exact hfits.2
  constructor
  · obtain ⟨hstopped, hclearing⟩ := hturns.stays hstep.1.1 hentered
    rcases h.last with hlast | hlast
    · exact hclearing status hlast
    · exact .inr (hstopped status hlast)
  · rw [hstep.1.1.persists hloading]
    exact h.persists
  · intro new hmem
    by_contra hsole
    have hahead : new.phase.ahead = true := by
      by_contra hbehind
      exact hsole (Call.sole_of_ahead (by simpa using hbehind))
    rcases hstep.1.1.ahead hmem hahead with ⟨call, hcall, hphase, hbatch⟩ |
      ⟨ticket, call, haction, hcall, hstarted, rfl⟩
    · rw [← Call.sole_congr hphase hbatch, h.sole call hcall] at hsole
      exact hsole rfl
    · rcases h.last with hlast | hlast
      · exact hsole (hstep.2.check ticket call status haction hcall hstarted h.persists
          (mem_of_lastControl hlast rfl))
      · have hfits := hturns.fits
        rw [hlast] at hfits
        rw [hfits.1] at hstarted
        cases hstarted
  · intro ticket records hmem hrecords
    obtain ⟨call, hcall, hparts⟩ : ∃ call : Call, runtime.calls[ticket]? = some call ∧
        partsOf options.workers ticket call.batch ≠ [] := by
      rcases List.mem_append.1 hmem with hmem | hmem
      · exact h.applied ticket records hmem hrecords
      · have hstep' := hstep.1.1
        rw [← List.mem_singleton.1 hmem] at hstep'
        exact hstep'.applied (run_kept hall) hrecords h.sole
    obtain ⟨call', hcall', hbatch⟩ := hstep.1.1.batch hcall
    exact ⟨call', hcall', by rwa [hbatch]⟩
  · rw [poolLabels, List.filterMap_append, pushes, List.filterMap_append]
    exact List.append_eq_nil_iff.2 ⟨h.accepted, hstep.1.1.unpushed hsound hquiet⟩

theorem run_uncancelled {options : LifecycleConfig} {config : RuntimeConfig} {files : FileSystem}
    {runtime : Runtime} (h : Run InTurn (make options config files) labels runtime) :
    Uncancelled (poolLabels labels) := by
  refine Run.invariant (fun labels _ => Uncancelled (poolLabels labels)) h (by simp [Uncancelled, poolLabels])
    fun {labels runtime action runtime'} hrun hinv hstep => ?_
  unfold Uncancelled at hinv ⊢
  rw [poolLabels, List.filterMap_append, List.mem_append, not_or]
  refine ⟨hinv, fun hmem => ?_⟩
  obtain ⟨found, hfound, hpool⟩ := List.mem_filterMap.1 hmem
  obtain rfl := List.mem_singleton.1 hfound
  cases hstep.1 with
  | cancelDrain hcontrol hworkers _ =>
    have hturns := run_turns hrun
    obtain ⟨past, hpast, -⟩ := hturns.last hcontrol rfl
    have hfits := hturns.fits
    rw [lastControl, hpast, List.getLast?_concat] at hfits
    exact hfits
  | _ => cases hpool

theorem run_drained {options : LifecycleConfig} {config : RuntimeConfig} {files : FileSystem}
    {runtime : Runtime} (h : Run InTurn (make options config files) labels runtime)
    (hquiet : runtime.pool.running = false) (ticket : Nat) :
    (books labels ticket).accepted.Perm (books labels ticket).handled := by
  have hpool := run_pool (run_of_inTurn h)
  have hall := perm_stations (fun _ => []) (WorkerPool.run_pushes_lt hpool)
    (WorkerPool.run_handles_lt hpool) fun index hlt => by
      rw [pushes_group, handles_group,
        WorkerPool.run_joined hpool (run_uncancelled h) (.inl hquiet) hlt]
      simp
  have hnone : (List.range runtime.pool.workers.length).flatMap
      (fun index => ([] : List Part).map (Prod.mk index)) = [] := by simp
  rw [hnone, List.append_nil] at hall
  exact hall.filter _

theorem applied_of_handled {call : Call} {workers : Nat}
    (hown : (books labels ticket).own = ownRecords workers call.batch)
    (hparts : partsOf workers ticket call.batch = (books labels ticket).accepted)
    (hhandled : (books labels ticket).accepted.Perm (books labels ticket).handled) :
    (appliedBy labels ticket).Perm call.batch := by
  refine (appliedBy_perm labels ticket).trans (List.Perm.trans ?_
    (parts_perm workers ticket call.batch))
  rw [hown, hparts]
  exact List.Perm.append_left _ (hhandled.symm.flatMap_right _)

theorem run_reflected {options : LifecycleConfig} {config : RuntimeConfig} {files : FileSystem}
    {current runtime : Runtime} (hbefore : Run Tidy (make options config files) before current)
    (hrest : Run Tidy current (.persist ticket contents :: after) runtime)
    (hlast : ticket + 1 = runtime.controls.length) {caller : Nat} {call : Call} {status : Status}
    (hcall : runtime.calls[caller]? = some call) (hphase : call.phase = .returned status)
    (hok : status.ok = true) : (appliedBy before caller).Perm call.batch := by
  have h := hbefore.append hrest
  obtain ⟨next, hstep, hafter⟩ := hrest.uncons
  have hthrough := hbefore.snoc hstep
  have hturns := run_turns (run_of_tidy hbefore)
  have hplain := run_of_inTurn (run_of_tidy hbefore)
  -- the state at the snapshot
  obtain ⟨written, hquiet, hlength, hsealed⟩ : ∃ written, current.pool.running = false ∧
      next.controls.length = ticket + 1 ∧ next.Sealed options written [] := by
    have hstep' := hstep.1.1
    cases hstep' with
    | persist hcontrol hpersists hwrite =>
      rename_i now faults result left
      obtain ⟨past, hpast, rfl⟩ := hturns.last hcontrol rfl
      have hfits := hturns.fits
      rw [lastControl, hpast, List.getLast?_concat] at hfits
      refine ⟨result.status, hfits, ?_, .inl ?_, hpersists, hstep.2.persist _ _ rfl, by simp, rfl⟩
      · simp [setControl, hpast]
      · simp [lastControl, setControl, hpast]
  have hsealed' : runtime.Sealed options written after := by
    have hentered := run_unentered (run_of_inTurn (run_of_tidy hafter)) (by omega)
    have hinv := Run.invariant (fun labels later => (∀ control, .enter control ∉ labels) →
      later.Sealed options written labels) hafter (fun _ => hsealed)
      fun {labels later action later'} hrun hinv hmore hentered => ?_
    · exact hinv hentered
    · refine (hinv fun control hmem => hentered control (List.mem_append_left _ hmem)).step
        (hthrough.append hrun) hmore fun control haction => ?_
      exact hentered control (List.mem_append_right _ (List.mem_singleton.2 haction.symm))
  -- what the call did in the whole run, it did before
  have hfollows := (run_kept (run_of_inTurn (run_of_tidy h))).calls caller call hcall
  simp only [Call.Follows, hphase, hok, if_true] at hfollows
  have hbooks : books (before ++ .persist ticket contents :: after) caller =
      (books before caller).add (books after caller) := by
    rw [List.append_cons, books_append, books_quiet rfl]
  have haccepted : (books after caller).accepted = [] := by
    simp [books, hsealed'.accepted]
  have hparts : partsOf options.workers caller call.batch = (books before caller).accepted := by
    rw [hfollows.parts, hbooks, Books.add, haccepted, List.append_nil, List.append_nil]
  refine applied_of_handled ?_ hparts (run_drained (run_of_tidy hbefore) hquiet caller)
  by_cases hnil : partsOf options.workers caller call.batch = []
  · have hown : (books after caller).own = [] := by
      refine List.flatMap_eq_nil_iff.2 fun action hmem => ?_
      cases action with
      | apply other records =>
        by_contra hne
        obtain ⟨rfl, hrecords⟩ : other = caller ∧ records ≠ [] := by
          by_cases heq : other = caller
          · exact ⟨heq, fun hempty => hne (by simp [Action.own, hempty])⟩
          · exact absurd (by simp [Action.own, heq]) hne
        obtain ⟨found, hfound, hsome⟩ := hsealed'.applied _ _ hmem hrecords
        rw [hcall] at hfound
        obtain rfl := Option.some.inj hfound
        exact hsome hnil
      | _ => rfl
    rw [← hfollows.own, hbooks, Books.add, hown, List.append_nil]
  · have hne : (books before caller).accepted ≠ [] := hparts ▸ hnil
    have hkept := run_kept hplain
    by_cases hlt : caller < current.calls.length
    · have hearlier := List.getElem?_eq_getElem hlt
      obtain ⟨left, hsubmits⟩ := (hkept.calls _ _ hearlier).submits (Books.not_blank hne)
      obtain ⟨second, hsecond, hbatch⟩ := hstep.1.1.batch hearlier
      obtain ⟨third, hthird, hbatch'⟩ := run_batch (run_of_inTurn (run_of_tidy hafter)) hsecond
      rw [hcall] at hthird
      obtain rfl := Option.some.inj hthird
      rw [hsubmits.own, hbatch', hbatch]
    · exact absurd (by rw [hkept.unused _ (Nat.le_of_not_lt hlt)]) hne

/-- Before the first `start` has succeeded nothing is past its check. -/
structure Unopened (labels : List Action) (changes : List Change) (runtime : Runtime) : Prop where
  started : runtime.started = false
  loads : ∀ change ∈ changes, change.loads = true
  calls : ∀ call ∈ runtime.calls, call.phase = .entered ∨ ∃ status, call.phase = .returned status
  unpushed : pushes (poolLabels labels) = []

theorem Unopened.call {runtime : Runtime} (h : runtime.Unopened labels changes) {ticket : Nat}
    {call : Call} (hcall : runtime.calls[ticket]? = some call) {phase : CallPhase}
    (hphase : call.phase = phase) (hentered : phase ≠ .entered)
    (hreturned : ∀ status, phase ≠ .returned status) : False := by
  rcases h.calls call (List.mem_of_getElem? hcall) with hnow | ⟨status, hnow⟩
  · exact hentered (hphase.symm.trans hnow)
  · exact hreturned status (hphase.symm.trans hnow)

theorem Unopened.still {runtime runtime' : Runtime} (h : runtime.Unopened labels changes)
    (hstarted : runtime'.started = runtime.started) (hcalls : runtime'.calls = runtime.calls)
    (hpushes : pushes (poolLabels [action]) = [])
    (hloads : ∀ change ∈ more, change.loads = true) :
    runtime'.Unopened (labels ++ [action]) (changes ++ more) := by
  constructor
  case started => rw [hstarted, h.started]
  case loads =>
    intro change hmem
    exact (List.mem_append.1 hmem).elim (h.loads change) (hloads change)
  case calls =>
    rw [hcalls]
    exact h.calls
  case unpushed =>
    rw [poolLabels, List.filterMap_append, pushes, List.filterMap_append]
    exact List.append_eq_nil_iff.2 ⟨h.unpushed, hpushes⟩

theorem Unopened.set {runtime : Runtime} (h : runtime.Unopened labels changes) {ticket : Nat}
    {new : Call} (hnew : new.phase = .entered ∨ ∃ status, new.phase = .returned status)
    (hpushes : pushes (poolLabels [action]) = []) (pool : WorkerPool Part (Option Nat)) :
    Unopened (labels ++ [action]) (changes ++ [])
      { runtime.setCall ticket new with pool := pool } := by
  have hstill : runtime.Unopened (labels ++ [action]) (changes ++ []) :=
    h.still rfl rfl hpushes fun _ hmem => by cases hmem
  refine ⟨hstill.started, hstill.loads, fun call hmem => ?_, hstill.unpushed⟩
  rcases WorkerPool.mem_set hmem with rfl | hmem
  · exact hnew
  · exact h.calls call hmem

/-- Until a `start` succeeds the runtime stays unopened. -/
theorem Unopened.step {options : LifecycleConfig} {config : RuntimeConfig} {files : FileSystem}
    {runtime runtime' : Runtime} (hrun : Run Step (make options config files) labels runtime)
    (h : runtime.Unopened labels changes) (hstep : Step runtime action runtime') :
    runtime'.started = true ∨
      runtime'.Unopened (labels ++ [action]) (changes ++ runtime.changesOf action) := by
  have hnone {more : List Change} (hmore : more = []) : ∀ change ∈ more, change.loads = true := by
    intro change hmem
    rw [hmore] at hmem
    cases hmem
  have hadvance {ticket : Nat} : ∀ change ∈ runtime.changesOf (.advance ticket),
      change.loads = true := fun change hmem => (runtime.changesOf_advance ticket change hmem).1
  cases hstep with
  | call =>
    rename_i batch
    have hstill : runtime.Unopened (labels ++ [.call batch]) (changes ++ []) :=
      h.still rfl rfl rfl (hnone rfl)
    refine .inr ⟨hstill.started, hstill.loads, fun call hmem => ?_, hstill.unpushed⟩
    rcases List.mem_append.1 hmem with hmem | hmem
    · exact hstill.calls call hmem
    · rw [List.mem_singleton.1 hmem]
      exact .inl rfl
  | checkRefused => exact .inr (h.set (.inr ⟨_, rfl⟩) rfl _)
  | check _ _ hstarted =>
    rw [h.started] at hstarted
    cases hstarted
  | applyInline hcall hphase | applyDeclarations hcall hphase | arrive hcall hphase
  | complete hcall hphase | enlist hcall hphase | deny hcall hphase | push hcall hphase
  | refuse hcall hphase | leave hcall hphase =>
    exact (h.call hcall hphase (by simp) (by simp)).elim
  | handle hpool hrecords =>
    rename_i index part pool' records
    have hnext := hrun.snoc (.handle hpool hrecords)
    have hpushed : (index, part) ∈ pushes (poolLabels labels) := by
      have hmem : (index, part) ∈ handles (poolLabels (labels ++ [.handle index part records])) := by
        rw [poolLabels, List.filterMap_append, handles, List.filterMap_append]
        exact List.mem_append_right _ (List.mem_singleton_self _)
      have hall := run_handled_mem hnext hmem
      rw [poolLabels, List.filterMap_append, pushes, List.filterMap_append] at hall
      exact (List.mem_append.1 hall).elim id fun hlast => by cases hlast
    rw [h.unpushed] at hpushed
    cases hpushed
  | signal hcall =>
    have hold := h.calls _ (List.mem_of_getElem? hcall)
    refine .inr (h.set ?_ rfl _)
    exact hold
  | startMark => exact .inl rfl
  | startLoad =>
    obtain ⟨σ, hload, -⟩ := runtime.startLoad_cases
    have hkept : runtime.startLoad.1.started = runtime.started := by rw [hload]
    exact .inr (h.still hkept runtime.startLoad_frame.2 rfl hadvance)
  | startCheck | startInline | startRefused | stopIdle | cancelIdle | skipPersist =>
    exact .inr (h.still rfl rfl rfl hadvance)
  | stopClear => exact .inr (h.still h.started.symm rfl rfl hadvance)
  | _ => exact .inr (h.still rfl rfl rfl (hnone rfl))

theorem Step.ofStop {runtime runtime' : Runtime} {action : Action}
    (h : Step runtime action runtime') :
    (∃ control, action = .enter control ∧ runtime'.controls = runtime.controls ++ [control]) ∨
      runtime'.controls.map Control.ofStop = runtime.controls.map Control.ofStop := by
  have hset {ticket : Nat} {old new : Control} (hfound : runtime.controls[ticket]? = some old)
      (hsame : new.ofStop = old.ofStop) :
      (runtime.controls.set ticket new).map Control.ofStop =
        runtime.controls.map Control.ofStop := by
    rw [List.map_set, hsame]
    refine List.ext_getElem? fun index => ?_
    rw [List.getElem?_set]
    split
    · rename_i heq
      subst heq
      have hlt := (List.getElem?_eq_some_iff.1 hfound).1
      rw [List.length_map, if_pos hlt, List.getElem?_map, hfound]
      rfl
    · rfl
  cases h with
  | enter => exact .inl ⟨_, rfl, rfl⟩
  | startCheck hfound =>
    refine .inr (hset hfound ?_)
    rcases runtime.startCheck_cases with ⟨status, -, hnext⟩ | ⟨-, hnext⟩ <;> rw [hnext] <;> rfl
  | startLoad hfound =>
    obtain ⟨σ, hload, hnext⟩ := runtime.startLoad_cases
    have hkept : runtime.startLoad.1.controls = runtime.controls := by rw [hload]
    refine .inr ?_
    rw [setControl, hkept]
    refine hset hfound ?_
    rcases hnext with ⟨status, -, hnext⟩ | hnext <;> rw [hnext] <;> rfl
  | startInline hfound | startRefused hfound | spawn hfound | startMark hfound | stopIdle hfound
  | stopDrain hfound | cancelIdle hfound | cancelDrain hfound | stopHalt hfound | cancelHalt hfound
  | persist hfound | skipPersist hfound | stopClear hfound => exact .inr (hset hfound rfl)
  | _ => exact .inr rfl

theorem Step.started_stays {runtime runtime' : Runtime} {action : Action}
    (h : Step runtime action runtime') (hstarted : runtime.started = true)
    (hstops : ∀ control ∈ runtime.controls, control.ofStop = false) : runtime'.started = true := by
  cases h with
  | stopClear hfound => cases hstops _ (List.mem_of_getElem? hfound)
  | startMark => rfl
  | startLoad =>
    obtain ⟨σ, hload, -⟩ := runtime.startLoad_cases
    have hkept : runtime.startLoad.1.started = runtime.started := by rw [hload]
    exact hkept.trans hstarted
  | _ => exact hstarted

/-- What holds as long as no `stop` has run to its end. -/
structure Loading (labels : List Action) (state : Runtime × List Change) : Prop where
  opens : (∀ control ∈ state.1.controls, control.ofStop = false) →
    state.1.started = true ∨ state.1.Unopened labels state.2
  first : (∀ earlier ∈ state.1.controls.dropLast, earlier.ofStop = false) → LoadsFirst state.2

theorem Loading.step {before after : Runtime × List Change} (h : Loading labels before)
    (hturns : before.1.Turns)
    (hopens : before.1.Unopened labels before.2 →
      after.1.started = true ∨ after.1.Unopened (labels ++ [action]) after.2)
    (hstep : Writes InTurn before action after) : Loading (labels ++ [action]) after := by
  have hkinds : ∀ {first second : List Control},
      first.map Control.ofStop = second.map Control.ofStop →
      (∀ control ∈ first, control.ofStop = false) → ∀ control ∈ second, control.ofStop = false := by
    intro first second hsame hnone control hmem
    have hkind := List.mem_map_of_mem (f := Control.ofStop) hmem
    rw [← hsame] at hkind
    obtain ⟨other, hother, heq⟩ := List.mem_map.1 hkind
    rw [← heq, hnone other hother]
  constructor
  case opens =>
    intro hnone
    have hbefore : ∀ control ∈ before.1.controls, control.ofStop = false := by
      rcases hstep.1.1.ofStop with ⟨control, -, hentered⟩ | hsame
      · rw [hentered] at hnone
        exact fun control hmem => hnone control (List.mem_append_left _ hmem)
      · exact hkinds hsame hnone
    rcases h.opens hbefore with hstarted | hunopened
    · exact .inl (hstep.1.1.started_stays hstarted hbefore)
    · exact hopens hunopened
  case first =>
    intro hnone
    have hbefore : ∀ earlier ∈ before.1.controls.dropLast, earlier.ofStop = false := by
      rcases hstep.1.1.ofStop with ⟨control, -, hentered⟩ | hsame
      · rw [hentered, List.dropLast_concat] at hnone
        exact fun earlier hmem => hnone earlier (List.dropLast_subset _ hmem)
      · refine hkinds ?_ hnone
        rw [List.map_dropLast, hsame, List.map_dropLast]
    have hfirst := h.first hbefore
    rw [hstep.2]
    rcases hstep.1.1.changes_cases with ⟨ticket, records, -, hchanges⟩ |
      ⟨index, part, records, -, -, hchanges⟩ | ⟨-, -, hloads⟩
    · rw [hchanges]
      exact hfirst.batches fun change hmem => by rw [List.mem_singleton.1 hmem]; rfl
    · rw [hchanges]
      exact hfirst.batches fun change hmem => by rw [List.mem_singleton.1 hmem]; rfl
    · cases hnew : before.1.changesOf action with
      | nil => rwa [List.append_nil]
      | cons change rest =>
        -- a load is that of the last lifecycle call, a `start` that has not yet succeeded
        have hsome := (hloads change (by rw [hnew]; exact List.mem_cons_self ..)).2
        obtain ⟨ticket, hloading⟩ := List.getElem?_of_mem hsome
        obtain ⟨past, hpast, -⟩ := hturns.last hloading rfl
        have hfits := hturns.fits
        rw [lastControl, hpast, List.getLast?_concat] at hfits
        have hall : ∀ control ∈ before.1.controls, control.ofStop = false := by
          rw [hpast, List.dropLast_concat] at hbefore
          intro control hmem
          rw [hpast] at hmem
          rcases List.mem_append.1 hmem with hmem | hmem
          · exact hbefore control hmem
          · rw [List.mem_singleton.1 hmem]
            rfl
        rcases h.opens hall with hstarted | hunopened
        · rw [hfits.1] at hstarted
          cases hstarted
        · rw [← hnew]
          refine LoadsFirst.of_loads fun change hmem => ?_
          exact (List.mem_append.1 hmem).elim (hunopened.loads change)
            fun hmem => (hloads change hmem).1

theorem run_loadsFirst {options : LifecycleConfig} {config : RuntimeConfig} {files : FileSystem}
    {runtime : Runtime} {changes : List Change}
    (h : Run (Writes InTurn) (make options config files, []) labels (runtime, changes)) :
    (∀ earlier ∈ runtime.controls.dropLast, earlier.ofStop = false) → LoadsFirst changes := by
  have hmake : (make options config files).Unopened [] [] :=
    ⟨rfl, List.forall_mem_nil _, List.forall_mem_nil _, rfl⟩
  have hloading := Run.invariant Loading h ⟨fun _ => .inr hmake, fun _ => .nil⟩
    fun {labels before action after} hrun hinv hstep => ?_
  · exact hloading.first
  · have hbefore := run_of_writes hrun
    have hplain := run_of_inTurn hbefore
    refine hinv.step (run_turns hbefore) (fun hunopened => ?_) hstep
    rw [hstep.2]
    exact hunopened.step hplain hstep.1.1

/-- The last `stop` took a snapshot of the observatory, to which every batch had been applied whose
submission succeeds; under the first `stop` nothing had been loaded over a batch. -/
def Reflected (step : Runtime → Action → Runtime → Prop) (options : LifecycleConfig)
    (config : RuntimeConfig) (files : FileSystem) (labels : List Action) (runtime : Runtime) :
    Prop :=
  ∀ before ticket contents after middle changes,
    labels = before ++ .persist ticket contents :: after → ticket + 1 = runtime.controls.length →
    Run (Writes step) (make options config files, []) before (middle, changes) →
    Run step middle (.persist ticket contents :: after) runtime →
      (∃ now, contents = middle.observatory.collectSnapshot now) ∧
        middle.observatory = (Observatory.fresh config).undergoAll changes ∧
        ((∀ earlier ∈ middle.controls.dropLast, earlier.ofStop = false) → LoadsFirst changes) ∧
        ∀ (caller : Nat) (call : Call) (status : Status), runtime.calls[caller]? = some call →
          call.phase = .returned status → status.ok = true →
            (appliedOf changes caller).Perm call.batch

/-- Until the next lifecycle call no step changes the observatory. -/
def Settled (step : Runtime → Action → Runtime → Prop) (runtime : Runtime) : Prop :=
  ∀ more later, Run step runtime more later →
    later.controls.length = runtime.controls.length → later.observatory = runtime.observatory

/-- In every orderly run the snapshot of a `stop` reflects every batch whose submission succeeds,
and nothing changes after the `stop` has returned. -/
theorem stop_settles {options : LifecycleConfig} {config : RuntimeConfig} {files : FileSystem}
    {labels : List Action} {runtime : Runtime}
    (h : Run Tidy (make options config files) labels runtime) :
    runtime.Reflected Tidy options config files labels ∧
      ∀ status, runtime.lastControl = .stopped status → runtime.Settled Tidy := by
  refine ⟨?_, fun status hlast more later hlater hlength => run_final h hlast hlater hlength⟩
  rintro before ticket contents after middle changes rfl hlast hwritten hrest
  have hbefore := run_of_writes hwritten
  have hinTurn : Run (Writes InTurn) (make options config files, []) before (middle, changes) :=
    hwritten.mono fun _ _ _ hstep => ⟨hstep.1.1, hstep.2⟩
  have hplain : Run (Writes Step) (make options config files, []) before (middle, changes) :=
    hinTurn.mono fun _ _ _ hstep => ⟨hstep.1.1, hstep.2⟩
  obtain ⟨next, hstep, -⟩ := hrest.uncons
  refine ⟨?_, run_observatory hplain, run_loadsFirst hinTurn, ?_⟩
  · cases hstep.1.1 with
    | persist => exact ⟨_, rfl⟩
  · intro caller call status hcall hphase hok
    rw [run_applied hplain]
    exact run_reflected hbefore hrest hlast hcall hphase hok

/-- No workers, and a snapshot to be written. -/
def inlineConfig : LifecycleConfig := { workers := 0, restoreOnStart := false }

def inlineOptions : RuntimeConfig := { policy := makeDefaultPolicy, snapshotPath := "state" }

def inlineStart : Runtime := begun inlineConfig inlineOptions fun _ => none

/-- The source that the batch declares. -/
def inlineBatch : List ParsedRecord :=
  [.source { name := ascii "s", authority := .primary, provenance := .synthetic }]

/-- What is applied for the batch. -/
def inlineRecords : List (ParsedRecord × TimePoint) := inlineBatch.map fun record => (record, ⟨0⟩)

theorem run_inlineStart {step : Runtime → Action → Runtime → Prop}
    (hstep : ∀ {runtime action runtime'}, Tidy runtime action runtime' →
      step runtime action runtime') :
    Run step (make inlineConfig inlineOptions fun _ => none) (startLabels inlineConfig)
      inlineStart := by
  refine run_begun_of (fun {runtime action runtime'} h hcalls henter => hstep ⟨⟨h, ?_⟩, ?_⟩)
    (by decide +kernel) (.inl rfl) _
  · intro control heq
    obtain ⟨rfl, hnone⟩ := henter control heq
    exact ⟨by simp, by simp [hnone]⟩
  · exact ⟨fun _ _ _ => by simp [hcalls], fun ticket call status _ hcall => by simp [hcalls] at hcall,
      fun _ _ _ _ => by simp [hcalls]⟩

theorem inline_fits :
    ((Observatory.fresh inlineOptions).collectSnapshot ⟨0⟩).encodePayload.length ≤
        makeDefaultPolicy.limits.maxSnapshotBytes.toNat ∧
      (((Observatory.fresh inlineOptions).applyBatch inlineRecords).collectSnapshot
        ⟨0⟩).encodePayload.length ≤ makeDefaultPolicy.limits.maxSnapshotBytes.toNat := by
  decide +kernel

set_option maxRecDepth 2000 in
/-- The declaration is submitted and applied before the runtime is stopped. -/
theorem stop_settles_inline :
    ∃ labels runtime status, Run Tidy (make inlineConfig inlineOptions fun _ => none) labels runtime ∧
      runtime.controls = [.started .success, .stopped status] ∧ status.ok = true ∧
      runtime.calls = [{ batch := inlineBatch, phase := .returned .success }] ∧
      runtime.Reflected Tidy inlineConfig inlineOptions (fun _ => none) labels ∧
      runtime.Settled Tidy := by
  obtain ⟨result, left, hwrite, hok, -⟩ := writeSnapshot_complete inline_fits.2 (fun _ => none) "state"
  have hquiet {runtime runtime' : Runtime} {action : Action} (h : Step runtime action runtime')
      (henter : ∀ control, action ≠ .enter control)
      (hpersist : ∀ ticket contents, action ≠ .persist ticket contents)
      (hcontrols : runtime.controls = [.started .success] ∨
        (∀ ticket, action ≠ .check ticket) ∧ ∀ call ∈ runtime.calls, call.phase.ahead = false) :
      Tidy runtime action runtime' := by
    refine ⟨⟨h, fun control heq => absurd heq (henter control)⟩,
      ⟨fun ticket contents heq => absurd heq (hpersist ticket contents), ?_, ?_⟩⟩
    · rintro ticket call status rfl - - - hmem
      rcases hcontrols with hcontrols | ⟨hcheck, -⟩
      · simp [hcontrols] at hmem
      · exact absurd rfl (hcheck ticket)
    · rintro ticket status - hfound
      rcases hcontrols with hcontrols | ⟨-, hcalls⟩
      · have hmem := List.mem_of_getElem? hfound
        simp [hcontrols] at hmem
      · exact hcalls
  let submitted : Runtime :=
    { inlineStart with
      observatory := inlineStart.observatory.applyBatch inlineRecords
      calls := [{ batch := inlineBatch, phase := .returned .success }] }
  have hbefore : Run Tidy inlineStart
      [.call inlineBatch, .check 0, .apply 0 inlineRecords, .complete 0, .leave 0] submitted :=
    .cons (hquiet .call (by simp) (by simp) (.inl rfl)) <|
      .cons (hquiet (.check rfl rfl rfl) (by simp) (by simp) (.inl rfl)) <|
      .cons (hquiet (.applyInline rfl rfl rfl) (by simp) (by simp) (.inl rfl)) <|
      .cons (hquiet (.complete rfl rfl) (by simp) (by simp) (.inl rfl)) <|
      .cons (hquiet (.leave rfl rfl) (by simp) (by simp) (.inl rfl)) .nil
  let runtime : Runtime :=
    { submitted with
      controls := [.started .success, .stopped result.status]
      files := left
      started := false }
  have hreturned : ∀ call ∈ submitted.calls, call.phase.ahead = false ∧ call.sole = false := by
    simp [submitted, CallPhase.ahead, Call.sole]
  have hstop : Run Tidy submitted [.enter .stopEntered, .advance 1,
      .persist 1 (submitted.observatory.collectSnapshot ⟨0⟩), .advance 1] runtime :=
    .cons ⟨⟨.enter (by simp), fun control heq => ⟨by simp [← Action.enter.inj heq], by decide⟩⟩,
        ⟨by simp, by simp, by simp⟩⟩ <|
      .cons (hquiet (.stopIdle rfl (.inl rfl)) (by simp) (by simp)
        (.inr ⟨by simp, fun call hmem => (hreturned call hmem).1⟩)) <|
      .cons ⟨⟨.persist rfl (by decide) hwrite, by simp⟩,
        ⟨fun _ _ _ call hmem => (hreturned call hmem).2, by simp, by simp⟩⟩ <|
      .cons (hquiet (.stopClear rfl) (by simp) (by simp)
        (.inr ⟨by simp, fun call hmem => (hreturned call hmem).1⟩)) .nil
  have hall := ((run_inlineStart id).append hbefore).append hstop
  obtain ⟨hreflected, hsettled⟩ := stop_settles hall
  exact ⟨_, runtime, result.status, hall, rfl, hok, rfl, hreflected, hsettled _ rfl⟩

set_option maxRecDepth 2000 in
/-- A call that was checked before `stop` applies its declaration after `stop` has returned. -/
theorem stop_settles_fails :
    ∃ labels middle more runtime status,
      Run InTurn (make inlineConfig inlineOptions fun _ => none) labels middle ∧
      middle.controls = [.started .success, .stopped status] ∧ status.ok = true ∧
      Run InTurn middle more runtime ∧ runtime.controls = middle.controls ∧
      runtime.observatory ≠ middle.observatory ∧
      ¬runtime.Reflected InTurn inlineConfig inlineOptions (fun _ => none) (labels ++ more) := by
  obtain ⟨result, left, hwrite, hok, -⟩ := writeSnapshot_complete inline_fits.1 (fun _ => none) "state"
  have hquiet {runtime runtime' : Runtime} {action : Action} (h : Step runtime action runtime')
      (henter : ∀ control, action ≠ .enter control) : InTurn runtime action runtime' :=
    ⟨h, fun control heq => absurd heq (henter control)⟩
  let first : Runtime := { inlineStart with calls := [{ batch := inlineBatch, phase := .inlined }] }
  have hbefore : Run InTurn inlineStart [.call inlineBatch, .check 0] first :=
    .cons (hquiet .call (by simp)) (.cons (hquiet (.check rfl rfl rfl) (by simp)) .nil)
  let middle : Runtime :=
    { first with
      controls := [.started .success, .stopped result.status]
      files := left
      started := false }
  let stopping : Runtime := { first with controls := [.started .success, .stopPersisting] }
  have hstopping : Run InTurn first [.enter .stopEntered, .advance 1] stopping :=
    .cons ⟨.enter (by simp), fun control heq => ⟨by simp [← Action.enter.inj heq], by decide⟩⟩ <|
      .cons (hquiet (.stopIdle rfl (.inl rfl)) (by simp)) .nil
  have hstopped : Run InTurn stopping
      [.persist 1 ((Observatory.fresh inlineOptions).collectSnapshot ⟨0⟩), .advance 1] middle :=
    .cons (hquiet (.persist rfl (by decide) hwrite) (by simp)) <|
      .cons (hquiet (.stopClear rfl) (by simp)) .nil
  have hpersisting := ((run_inlineStart fun h => h.1).append hbefore).append hstopping
  let runtime : Runtime :=
    { middle with
      observatory := middle.observatory.applyBatch inlineRecords
      calls := [{ batch := inlineBatch, phase := .returned .success }] }
  have hafter : Run InTurn middle [.apply 0 inlineRecords, .complete 0, .leave 0] runtime :=
    .cons (hquiet (.applyInline rfl rfl rfl) (by simp)) <|
      .cons (hquiet (.complete rfl rfl) (by simp)) <|
      .cons (hquiet (.leave rfl rfl) (by simp)) .nil
  refine ⟨_, middle, _, runtime, result.status, hpersisting.append hstopped, rfl, hok, hafter, rfl,
    ?_, ?_⟩
  · intro hsame
    have happlied : ((Observatory.fresh inlineOptions).applyBatch
        inlineRecords).stats.declarationsApplied = 0 :=
      congrArg (fun σ => σ.stats.declarationsApplied) hsame
    exact absurd happlied (by decide +kernel)
  · intro hreflected
    obtain ⟨changes, hwritten⟩ := run_writes hpersisting
    have hperm := (hreflected _ 1 _ _ stopping changes rfl rfl hwritten
      (hstopped.append hafter)).2.2.2 0 _ _ rfl rfl rfl
    have happlied : appliedOf changes 0 = _ :=
      run_applied (hwritten.mono fun _ _ _ hstep => ⟨hstep.1.1, hstep.2⟩) 0
    rw [happlied] at hperm
    exact absurd hperm.length_eq (by decide +kernel)

end Runtime

end LinkObservatory
