import LinkObservatory.RecordOrder
import LinkObservatory.Shutdown

namespace LinkObservatory
set_option autoImplicit true

open Labelled

/-- The records that the change applies, each with its instant. -/
def Change.records : Change → List (ParsedRecord × TimePoint)
  | batch _ _ records => records
  | load _ => []

/-- The records that the step applies, each with its instant. -/
def Action.records : Action → List (ParsedRecord × TimePoint)
  | apply _ records | handle _ _ records => records
  | _ => []

namespace Runtime

/-- The records of the batches in the order in which they were submitted. -/
def submitted (runtime : Runtime) : List ParsedRecord := runtime.calls.flatMap Call.batch

/-- Every call of `submit_batch` has returned. -/
def Idle (runtime : Runtime) : Prop :=
  ∀ call ∈ runtime.calls, ∃ status, call.phase = .returned status

/-- Between a `start` and a `stop`, one thread submits batches one after the other, under a clock
that stands still. -/
structure Session (instant : TimePoint) (runtime : Runtime) (action : Action) (runtime' : Runtime) :
    Prop where
  step : Step runtime action runtime'
  call : ∀ batch, action = .call batch → runtime.controls = [.started .success] ∧ runtime.Idle
  enter : ∀ control, action = .enter control →
    control = .startEntered ∧ runtime.controls = [] ∨
      control = .stopEntered ∧ runtime.controls = [.started .success] ∧ runtime.Idle
  clock : ∀ record ∈ action.records, record.2 = instant

theorem changesOf_records (runtime : Runtime) (action : Action) :
    (runtime.changesOf action).flatMap Change.records = action.records := by
  cases action with
  | apply | handle => exact List.flatMap_singleton ..
  | advance ticket =>
    rw [changesOf]
    split <;> rfl
  | _ => rfl

theorem Session.inTurn {runtime runtime' : Runtime} {action : Action}
    (h : Session instant runtime action runtime') : InTurn runtime action runtime' := by
  refine ⟨h.step, fun control haction => ?_⟩
  rcases h.enter control haction with ⟨rfl, hcontrols⟩ | ⟨rfl, hcontrols, -⟩
  · simp [hcontrols]
  · simp [hcontrols, Control.returned]

/-- After a `start` and before a `stop` no batch is turned away. -/
theorem Turns.opens {runtime : Runtime} (h : runtime.Turns)
    (hcontrols : runtime.controls = [.started .success]) :
    runtime.started = true ∧ (runtime.lifecycle.workers ≠ 0 → runtime.pool.running = true) ∧
      true ∉ runtime.pool.closures := by
  have hfits := h.fits
  rw [lastControl, hcontrols] at hfits
  have hstarted : runtime.started = true := hfits.1 rfl
  refine ⟨hstarted, fun hworkers => (hfits.2 hworkers).trans hstarted, fun hmem => ?_⟩
  obtain ⟨control, -, hsub⟩ := h.shut hmem
  rw [hcontrols] at hsub
  have hlength := hsub.length_le
  simp at hlength

/-- What holds of the calls throughout a session. -/
structure Served (runtime : Runtime) : Prop where
  under : runtime.controls = [.started .success] ∨ runtime.Idle
  single : ∀ (ticket : Nat) (call : Call), runtime.calls[ticket]? = some call →
    ticket + 1 ≠ runtime.calls.length → ∃ status, call.phase = .returned status
  success : ∀ call ∈ runtime.calls, ∀ status, call.phase = .returned status → status = .success

theorem Served.controls {runtime : Runtime} (h : runtime.Served) {ticket : Nat} {call : Call}
    (hcall : runtime.calls[ticket]? = some call)
    (hphase : ∀ status, call.phase ≠ .returned status) :
    runtime.controls = [.started .success] := by
  rcases h.under with hcontrols | hidle
  · exact hcontrols
  · obtain ⟨status, hreturned⟩ := hidle call (List.mem_of_getElem? hcall)
    exact absurd hreturned (hphase status)

/-- The call that is under way is the last one. -/
theorem Served.last {runtime : Runtime} (h : runtime.Served) {ticket : Nat} {call : Call}
    (hcall : runtime.calls[ticket]? = some call)
    (hphase : ∀ status, call.phase ≠ .returned status) :
    ticket + 1 = runtime.calls.length := by
  by_contra hother
  obtain ⟨status, hreturned⟩ := h.single ticket call hcall hother
  exact hphase status hreturned

theorem Served.still {runtime runtime' : Runtime} (h : runtime.Served)
    (hcalls : runtime'.calls = runtime.calls)
    (hunder : runtime'.controls = [.started .success] ∨ runtime.Idle) : runtime'.Served where
  under := hunder.imp_right fun hidle call hmem => hidle call (hcalls ▸ hmem)
  single ticket call hcall hother := h.single ticket call (hcalls ▸ hcall) (hcalls ▸ hother)
  success call hmem := h.success call (hcalls ▸ hmem)

/-- A call that keeps its phase, or goes on without failing. -/
theorem Served.move {runtime runtime' : Runtime} (h : runtime.Served) {ticket : Nat}
    {old new : Call} (hcall : runtime.calls[ticket]? = some old)
    (hcalls : runtime'.calls = runtime.calls.set ticket new)
    (hcontrols : runtime'.controls = runtime.controls)
    (hphase : new.phase = old.phase ∨ (∀ status, old.phase ≠ .returned status) ∧
      ∀ status, new.phase = .returned status → status = .success) : runtime'.Served := by
  have hold := List.mem_of_getElem? hcall
  constructor
  · rw [hcontrols]
    rcases hphase with hsame | ⟨hbusy, -⟩
    · refine h.under.imp_right fun hidle call hmem => ?_
      rw [hcalls] at hmem
      rcases WorkerPool.mem_set hmem with rfl | hmem
      · rw [hsame]
        exact hidle old hold
      · exact hidle call hmem
    · exact .inl (h.controls hcall hbusy)
  · intro other call hfound hother
    rw [hcalls, List.length_set] at hother
    rw [hcalls, List.getElem?_set] at hfound
    split at hfound
    · rename_i heq
      subst heq
      rcases hphase with hsame | ⟨hbusy, -⟩
      · rw [if_pos (List.getElem?_eq_some_iff.1 hcall).1] at hfound
        rw [← Option.some.inj hfound, hsame]
        exact h.single _ old hcall hother
      · exact absurd (h.last hcall hbusy) hother
    · exact h.single other call hfound hother
  · intro call hmem status hreturned
    rw [hcalls] at hmem
    rcases WorkerPool.mem_set hmem with rfl | hmem
    · rcases hphase with hsame | ⟨-, hsuccess⟩
      · exact h.success old hold status (hsame ▸ hreturned)
      · exact hsuccess status hreturned
    · exact h.success call hmem status hreturned

/-- A batch is submitted when the others have returned. -/
theorem Served.call {runtime : Runtime} (h : runtime.Served)
    (hcontrols : runtime.controls = [.started .success]) (hidle : runtime.Idle)
    (batch : List ParsedRecord) :
    Served { runtime with calls := runtime.calls ++ [{ batch := batch }] } where
  under := .inl hcontrols
  single ticket call hcall hother := by
    have hlt := (List.getElem?_eq_some_iff.1 hcall).1
    rw [List.length_append, List.length_singleton] at hother hlt
    rw [List.getElem?_append_left (by omega)] at hcall
    exact hidle call (List.mem_of_getElem? hcall)
  success call hmem status hphase := by
    rcases List.mem_append.1 hmem with hmem | hmem
    · exact h.success call hmem status hphase
    · rw [List.mem_singleton.1 hmem] at hphase
      cases hphase

/-- A call that has a part to submit finds the pool running. -/
theorem Served.pooled {options : LifecycleConfig} {config : RuntimeConfig} {files : FileSystem}
    {runtime : Runtime} (hrun : Run InTurn (make options config files) labels runtime)
    (h : runtime.Served) {ticket : Nat} {call : Call} (hcall : runtime.calls[ticket]? = some call)
    (hphase : call.phase = .routing (routed :: parts)) : runtime.pool.running = true := by
  have hopens := (run_turns hrun).opens (h.controls hcall (by simp [hphase]))
  have hkept := run_kept (run_of_inTurn hrun)
  have hfollows := hkept.calls _ _ hcall
  simp only [Call.Follows, hphase] at hfollows
  refine hopens.2.1 fun hzero => ?_
  have hparts := hfollows.parts
  rw [← hkept.options, hzero, partsOf_zero] at hparts
  simp at hparts

theorem Served.step {options : LifecycleConfig} {config : RuntimeConfig} {files : FileSystem}
    {runtime runtime' : Runtime} (hrun : Run InTurn (make options config files) labels runtime)
    (h : runtime.Served) (hstep : Session instant runtime action runtime') : runtime'.Served := by
  have hopens {ticket : Nat} {call : Call} (hcall : runtime.calls[ticket]? = some call)
      (hphase : ∀ status, call.phase ≠ .returned status) :=
    (run_turns hrun).opens (h.controls hcall hphase)
  -- a lifecycle call that goes on has been entered on an idle runtime
  have hidle {ticket : Nat} {control : Control}
      (hcontrol : runtime.controls[ticket]? = some control) (hunder : control.returned = false) :
      runtime.Idle := by
    refine h.under.resolve_left fun hcontrols => ?_
    have hmem := List.mem_of_getElem? hcontrol
    rw [hcontrols, List.mem_singleton] at hmem
    rw [hmem] at hunder
    cases hunder
  obtain ⟨hstep, hcalled, hentered, -⟩ := hstep
  cases hstep with
  | call => exact h.call (hcalled _ rfl).1 (hcalled _ rfl).2 _
  | checkRefused hcall hphase hstarted =>
    rw [(hopens hcall (by simp [hphase])).1] at hstarted
    cases hstarted
  | check hcall hphase hstarted =>
    refine h.move hcall rfl rfl (.inr ⟨by simp [hphase], fun status hreturned => ?_⟩)
    unfold Call.enter at hreturned
    dsimp only at hreturned
    repeat' split at hreturned
    all_goals cases hreturned
  | deny hcall hphase hfree hquiet =>
    rw [h.pooled hrun hcall hphase] at hquiet
    cases hquiet
  | refuse hcall hphase hpool =>
    refine absurd ?_ (hopens hcall (by simp [hphase])).2.2
    cases hpool with
    | refuse hadmitted hworker hpush =>
      exact List.mem_map.2 ⟨_, List.mem_of_getElem? hworker, (BoundedQueue.push_false hpush).1⟩
  | leave hcall hphase =>
    refine h.move hcall rfl rfl (.inr ⟨by simp [hphase], fun status hreturned => ?_⟩)
    exact (CallPhase.returned.inj hreturned).symm
  | arrive hcall hphase =>
    refine h.move hcall rfl rfl (.inr ⟨by simp [hphase], fun status hreturned => ?_⟩)
    dsimp only at hreturned
    split at hreturned <;> cases hreturned
  | applyInline hcall hphase | applyDeclarations hcall hphase | complete hcall hphase
  | enlist hcall hphase | push hcall hphase =>
    refine h.move hcall rfl rfl (.inr ⟨by simp [hphase], fun status hreturned => ?_⟩)
    cases hreturned
  | signal hcall => exact h.move hcall rfl rfl (.inl rfl)
  | enter =>
    refine h.still rfl (.inr ?_)
    rcases hentered _ rfl with ⟨-, hnone⟩ | ⟨-, -, hreturned⟩
    · exact h.under.resolve_left (by simp [hnone])
    · exact hreturned
  | startLoad hcontrol => exact h.still runtime.startLoad_frame.2 (.inr (hidle hcontrol rfl))
  | startCheck hcontrol | startInline hcontrol | startRefused hcontrol | spawn hcontrol
  | startMark hcontrol | stopIdle hcontrol | stopDrain hcontrol | cancelIdle hcontrol
  | cancelDrain hcontrol | stopHalt hcontrol | cancelHalt hcontrol | persist hcontrol
  | skipPersist hcontrol | stopClear hcontrol => exact h.still rfl (.inr (hidle hcontrol rfl))
  | _ => exact h.still rfl h.under

theorem run_served {options : LifecycleConfig} {config : RuntimeConfig} {files : FileSystem}
    {runtime : Runtime} (h : Run (Session instant) (make options config files) labels runtime) :
    runtime.Served := by
  refine Run.invariant (fun _ runtime => runtime.Served) h ⟨.inr ?_, ?_, ?_⟩
    fun hrun hserved hstep => hserved.step (hrun.mono fun _ _ _ hone => hone.inTurn) hstep
  · intro call hmem
    cases hmem
  · intro ticket call hcall
    cases hcall
  · intro call hmem
    cases hmem

/-- The observatory with what a first `start` loads into it. -/
def opened (runtime : Runtime) : Observatory :=
  if runtime.restores then (runtime.observatory.reload runtime.files).1 else runtime.observatory

theorem startLoad_observatory (runtime : Runtime) :
    runtime.startLoad.1.observatory = runtime.opened := by
  unfold startLoad opened
  cases runtime.restores <;> rfl

end Runtime

/-- A `start` that has not yet loaded. -/
def Control.opening : Control → Bool
  | startEntered | startLoading => true
  | _ => false

namespace Observatory

/-- Changes other than a load apply their records, whatever they count. -/
theorem SameButBatches.undergo {σ τ : Observatory} (h : σ.SameButBatches τ) {changes : List Change}
    (hbatches : ∀ change ∈ changes, change.loads = false) :
    (σ.applyAll (changes.flatMap Change.records)).SameButBatches (τ.undergoAll changes) := by
  induction changes generalizing σ τ with
  | nil => exact h
  | cons change changes ih =>
    rw [List.forall_mem_cons] at hbatches
    rw [List.flatMap_cons, Observatory.applyAll, List.foldl_append]
    refine ih ?_ hbatches.2
    cases change with
    | load => cases hbatches.1
    | batch worker ticket records =>
      have hcounted : τ.SameButBatches
          { τ with stats.batchesProcessed := τ.stats.batchesProcessed + 1 } := ⟨rfl, .refl _⟩
      exact (SameButBatches.equivalence.trans h hcounted).applyAll records

end Observatory

namespace Runtime

theorem Step.opening {runtime runtime' : Runtime} {action : Action}
    (h : Step runtime action runtime') (hentered : ∀ control, action ≠ .enter control)
    (hopened : ∀ control ∈ runtime.controls, control.opening = false) :
    ∀ control ∈ runtime'.controls, control.opening = false := by
  have hset {ticket : Nat} {new : Control} (hnew : new.opening = false) :
      ∀ control ∈ runtime.controls.set ticket new, control.opening = false := by
    intro control hmem
    rcases WorkerPool.mem_set hmem with rfl | hmem
    · exact hnew
    · exact hopened control hmem
  cases h with
  | enter => exact absurd rfl (hentered _)
  | startCheck hcontrol | startLoad hcontrol => cases hopened _ (List.mem_of_getElem? hcontrol)
  | startInline | startRefused | spawn | startMark | stopIdle | stopDrain | cancelIdle | cancelDrain
  | stopHalt | cancelHalt | persist | skipPersist | stopClear => exact hset rfl
  | _ => exact hopened

/-- Nothing has been submitted or loaded yet. -/
structure Early (start runtime : Runtime) : Prop where
  controls : runtime.controls = [] ∨ ∃ control : Control,
    control.opening = true ∧ runtime.controls = [control]
  calls : runtime.calls = []
  observatory : runtime.observatory = start.observatory
  files : runtime.files = start.files
  lifecycle : runtime.lifecycle = start.lifecycle

theorem Early.found {start runtime : Runtime} (h : Early start runtime) {ticket : Nat}
    {control : Control} (hcontrol : runtime.controls[ticket]? = some control) :
    ticket = 0 ∧ runtime.controls = [control] ∧ control.opening = true := by
  rcases h.controls with hnone | ⟨only, hopening, hone⟩
  · rw [hnone] at hcontrol
    cases hcontrol
  · rw [hone] at hcontrol ⊢
    cases ticket with
    | zero =>
      obtain rfl := Option.some.inj hcontrol
      exact ⟨rfl, rfl, hopening⟩
    | succ => cases hcontrol

theorem Early.unstarted {start runtime : Runtime} (h : Early start runtime) :
    runtime.controls ≠ [.started .success] := by
  intro hstarted
  rcases h.controls with hnone | ⟨only, hopening, hone⟩
  · simp [hnone] at hstarted
  · rw [hone] at hstarted
    cases hstarted
    cases hopening

/-- How far the `start` of a session is. -/
inductive Opening (start runtime : Runtime) (changes : List Change) : Prop
  | early (hearly : Early start runtime) (hchanges : changes = [])
  | failed (hcontrols : ∃ status : Status, status.ok = false ∧ runtime.controls = [.started status])
  | late (hcontrols : runtime.controls ≠ [] ∧ ∀ control ∈ runtime.controls, control.opening = false)
      (hsame : (start.opened.applyAll (changes.flatMap Change.records)).SameButBatches
        runtime.observatory)

/-- The load of the `start`, or its failure. -/
theorem Early.load {start runtime : Runtime} (h : Early start runtime)
    (hcontrols : runtime.controls = [.startLoading]) {changes : List Change}
    (hrecords : changes.flatMap Change.records = []) :
    Opening start (runtime.startLoad.1.setControl 0 runtime.startLoad.2) changes := by
  have hload : runtime.startLoad.1.observatory = start.opened := by
    have hrestores : runtime.restores = start.restores := by
      simp only [restores, h.observatory, h.lifecycle]
    rw [startLoad_observatory, opened, opened, hrestores, h.observatory, h.files]
  obtain ⟨σ, hkept, hnext⟩ := runtime.startLoad_cases
  have hset : (runtime.startLoad.1.setControl 0 runtime.startLoad.2).controls =
      [runtime.startLoad.2] := by
    rw [hkept]
    simp [setControl, hcontrols]
  rcases hnext with ⟨status, hfailed, hnext⟩ | hnext
  · exact .failed ⟨status, hfailed, by rw [hset, hnext]⟩
  · refine .late ⟨by simp [hset], ?_⟩ ?_
    · rw [hset, hnext]
      simp [Control.opening]
    · rw [hrecords]
      show start.opened.SameButBatches runtime.startLoad.1.observatory
      rw [hload]
      exact Observatory.SameButBatches.equivalence.refl _

theorem Early.step {options : LifecycleConfig} {config : RuntimeConfig} {files : FileSystem}
    {start runtime runtime' : Runtime} {action : Action}
    (hrun : Run Step (make options config files) labels runtime) (h : Early start runtime)
    (hstep : Session instant runtime action runtime') :
    Opening start runtime' (runtime.changesOf action) := by
  have hcall {ticket : Nat} {call : Call} (hget : runtime.calls[ticket]? = some call) : False := by
    rw [h.calls] at hget
    cases hget
  obtain ⟨hstep, hcalled, hentered, -⟩ := hstep
  cases hstep with
  | call => exact absurd (hcalled _ rfl).1 h.unstarted
  | checkRefused hget | check hget | applyInline hget | applyDeclarations hget | arrive hget
  | complete hget | enlist hget | deny hget | push hget | refuse hget | leave hget
  | signal hget => exact (hcall hget).elim
  | handle hpool hrecords =>
    rename_i index part pool' records
    have hnext := hrun.snoc (.handle hpool hrecords)
    have hmem : (index, part) ∈ handles (poolLabels (labels ++ [.handle index part records])) := by
      rw [poolLabels, List.filterMap_append, handles, List.filterMap_append]
      exact List.mem_append_right _ (List.mem_singleton_self _)
    obtain ⟨call, hget, -⟩ := run_pushed hnext (run_handled_mem hnext hmem)
    exact (hcall hget).elim
  | enter =>
    rename_i control _
    refine .early ⟨.inr ⟨control, ?_⟩, h.calls, h.observatory, h.files, h.lifecycle⟩ rfl
    rcases hentered control rfl with ⟨rfl, hnone⟩ | ⟨-, hstarted, -⟩
    · exact ⟨rfl, by simp [hnone]⟩
    · exact absurd hstarted h.unstarted
  | startCheck hget =>
    obtain ⟨rfl, hone, -⟩ := h.found hget
    have hset : (runtime.setControl 0 runtime.startCheck).controls = [runtime.startCheck] := by
      simp [setControl, hone]
    rcases runtime.startCheck_cases with ⟨status, hfailed, hcheck⟩ | ⟨-, hcheck⟩
    · exact .failed ⟨status, hfailed, by rw [hset, hcheck]⟩
    · refine .early ⟨.inr ⟨_, ?_, hset⟩, h.calls, h.observatory, h.files, h.lifecycle⟩ ?_
      · rw [hcheck]
        rfl
      · simp [changesOf, hone]
  | startLoad hget =>
    obtain ⟨rfl, hone, -⟩ := h.found hget
    refine h.load hone ?_
    rw [changesOf]
    split <;> rfl
  | startInline hget | startRefused hget | spawn hget | startMark hget | stopIdle hget
  | stopDrain hget | cancelIdle hget | cancelDrain hget | stopHalt hget | cancelHalt hget
  | persist hget | skipPersist hget | stopClear hget => cases (h.found hget).2.2
  | close hget hdraining | discard hget hdraining | join hget hdraining =>
    have hopening := (h.found hget).2.2
    rcases hdraining with rfl | rfl <;> cases hopening
  | pop | exit | finish =>
    exact .early ⟨h.controls, h.calls, h.observatory, h.files, h.lifecycle⟩ rfl

/-- After a `start` that failed there is nothing more. -/
theorem Session.failed {runtime runtime' : Runtime} {action : Action} {status : Status}
    (h : Session instant runtime action runtime') (hfailed : status.ok = false)
    (hcontrols : runtime.controls = [.started status]) :
    runtime'.controls = [.started status] := by
  rcases h.step.control with ⟨control, rfl, -⟩ |
    ⟨-, hsame | ⟨ticket, old, new, hfound, hreturned, -⟩⟩
  · rcases h.enter control rfl with ⟨-, hnone⟩ | ⟨-, hstarted, -⟩
    · simp [hcontrols] at hnone
    · rw [hcontrols] at hstarted
      cases hstarted
      cases hfailed
  · rw [hsame, hcontrols]
  · have hmem := List.mem_of_getElem? hfound
    rw [hcontrols, List.mem_singleton] at hmem
    rw [hmem] at hreturned
    cases hreturned

theorem Session.opened {runtime runtime' : Runtime} {action : Action}
    (h : Session instant runtime action runtime') (hsome : runtime.controls ≠ [])
    (hopened : ∀ control ∈ runtime.controls, control.opening = false) :
    runtime'.controls ≠ [] ∧ ∀ control ∈ runtime'.controls, control.opening = false := by
  rcases h.step.control with ⟨control, rfl, hnew⟩ | ⟨hother, hcontrols⟩
  · rw [hnew]
    refine ⟨by simp, fun old hmem => ?_⟩
    rcases List.mem_append.1 hmem with hmem | hmem
    · exact hopened old hmem
    · rw [List.mem_singleton.1 hmem]
      rcases h.enter control rfl with ⟨-, hnone⟩ | ⟨rfl, -⟩
      · exact absurd hnone hsome
      · rfl
  · refine ⟨?_, h.step.opening hother hopened⟩
    rcases hcontrols with hcontrols | ⟨ticket, old, new, -, -, hcontrols, -⟩
    · rwa [hcontrols]
    · rw [hcontrols]
      simpa using hsome

theorem Step.batched {runtime runtime' : Runtime} {action : Action}
    (h : Step runtime action runtime') (hloading : .startLoading ∉ runtime.controls) :
    ∀ change ∈ runtime.changesOf action, change.loads = false := by
  intro change hmem
  rcases h.changes_cases with ⟨ticket, records, -, hnew⟩ | ⟨index, part, records, -, -, hnew⟩ |
    ⟨-, -, hloads⟩
  · rw [hnew, List.mem_singleton] at hmem
    rw [hmem]
    rfl
  · rw [hnew, List.mem_singleton] at hmem
    rw [hmem]
    rfl
  · exact absurd (hloads change hmem).2 hloading

theorem Opening.step {options : LifecycleConfig} {config : RuntimeConfig} {files : FileSystem}
    {start : Runtime} {before after : Runtime × List Change} {action : Action}
    (hrun : Run Step (make options config files) labels before.1)
    (h : Opening start before.1 before.2) (hstep : Writes (Session instant) before action after) :
    Opening start after.1 after.2 := by
  obtain ⟨hsession, hchanges⟩ := hstep
  rw [hchanges]
  cases h with
  | early hearly hnone =>
    rw [hnone]
    exact hearly.step hrun hsession
  | failed hcontrols =>
    obtain ⟨status, hfailed, hcontrols⟩ := hcontrols
    exact .failed ⟨status, hfailed, hsession.failed hfailed hcontrols⟩
  | late hcontrols hsame =>
    obtain ⟨hsome, hopened⟩ := hcontrols
    refine .late (hsession.opened hsome hopened) ?_
    have hbatches := hsession.step.batched fun hmem => by cases hopened _ hmem
    rw [List.flatMap_append, Observatory.applyAll, List.foldl_append, hsession.step.observatory]
    exact hsame.undergo hbatches

theorem run_opening {options : LifecycleConfig} {config : RuntimeConfig} {files : FileSystem}
    {runtime : Runtime} {changes : List Change}
    (h : Run (Writes (Session instant)) (make options config files, []) labels (runtime, changes)) :
    Opening (make options config files) runtime changes := by
  refine Run.invariant (fun _ state => Opening (make options config files) state.1 state.2) h
    (.early ⟨.inl rfl, rfl, rfl, rfl, rfl⟩ rfl) fun hrun hopening hstep => ?_
  exact hopening.step ((run_of_writes hrun).mono fun _ _ _ hone => hone.step) hstep

/-- After the `stop` the observatory is what the applied records make of the opened one. -/
theorem run_opened {options : LifecycleConfig} {config : RuntimeConfig} {files : FileSystem}
    {runtime : Runtime} {changes : List Change}
    (h : Run (Writes (Session instant)) (make options config files, []) labels (runtime, changes))
    {status : Status} (hstopped : runtime.controls = [.started .success, .stopped status]) :
    ((make options config files).opened.applyAll (changes.flatMap Change.records)).SameButBatches
      runtime.observatory := by
  cases run_opening h with
  | late _ hsame => exact hsame
  | early hearly =>
    rcases hearly.controls with hnone | ⟨control, -, hone⟩
    · rw [hstopped] at hnone
      cases hnone
    · rw [hstopped] at hone
      cases hone
  | failed hcontrols =>
    obtain ⟨other, -, hone⟩ := hcontrols
    rw [hstopped] at hone
    cases hone

end Runtime

end LinkObservatory
