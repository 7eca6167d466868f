import LinkObservatory.Workload
import LinkObservatory.RoundTrip

namespace LinkObservatory
set_option autoImplicit true

open Labelled Population

/-- How far a shutdown can have come among the threads there are. -/
def Lifecycle.Reaches (workers : Nat) : Lifecycle → Prop
  | free => True
  | closing _ index | discarding index => index < workers
  | joining index => index ≤ workers

/-- One while the lifecycle lock is held. -/
def Lifecycle.held : Lifecycle → Nat
  | free => 0
  | _ => 1

/-- One for a control that holds the lifecycle lock. -/
def Control.drains : Control → Nat
  | stopDraining | cancelDraining => 1
  | _ => 0

theorem Control.draining {control : Control} (h : 0 < control.drains) :
    control = .stopDraining ∨ control = .cancelDraining := by
  cases control with
  | stopDraining => exact .inl rfl
  | cancelDraining => exact .inr rfl
  | _ => exact absurd h (Nat.lt_irrefl 0)

/-- One for a call that is about to push just this. -/
def CallPhase.promises (pair : Nat × Part) : CallPhase → Nat
  | pushing index part _ => if (index, part) = pair then 1 else 0
  | _ => 0

/-- One for the action that takes the lifecycle lock and keeps it. -/
def PoolAction.takes : PoolAction β γ → Nat
  | shutdown _ => 1
  | _ => 0

/-- One for the action that gives the lifecycle lock back. -/
def PoolAction.releases : PoolAction β γ → Nat
  | halt => 1
  | _ => 0

/-- A worker that waits for a batch, or that has no thread left to work. -/
def Worker.Idle (worker : Worker β γ) : Prop :=
  worker.thread = .absent ∨ worker.thread = .exited ∨
    worker.thread = .popping ∧ worker.queue.items = [] ∧ worker.queue.closed = false

namespace WorkerPool

/-- What the pool needs to get any further. -/
structure Staffed (pool : WorkerPool β γ) : Prop where
  roomy : ∀ worker ∈ pool.workers, 0 < worker.queue.capacity
  reaches : pool.lifecycle.Reaches pool.workers.length
  routed : ∀ pair ∈ pool.admitted, pair.1 < pool.workers.length

theorem make_staffed (workerCount queueCapacity : Nat) :
    (make workerCount queueCapacity : WorkerPool β γ).Staffed where
  roomy worker hmem := by
    rw [List.eq_of_mem_replicate hmem]
    simp only [BoundedQueue.make]
    split <;> omega
  reaches := trivial
  routed pair hmem := by cases hmem

theorem afterClose_reaches (pool : WorkerPool β γ) (cancel : Bool) (index : Nat) :
    (pool.afterClose cancel index).Reaches pool.workers.length := by
  unfold afterClose
  split
  · assumption
  · exact Nat.zero_le _

theorem Staffed.step {pool pool' : WorkerPool β γ} {action : PoolAction β γ} (h : pool.Staffed)
    (hsound : pool.Sound) (hstep : Step pool action pool') : pool'.Staffed := by
  have hlength := hstep.length
  refine ⟨fun new hmem => ?_, ?_, ?_⟩
  · obtain ⟨index, hnew⟩ := List.getElem?_of_mem hmem
    obtain ⟨worker, hworker, hqueue⟩ := hstep.queue hnew
    have hroomy := h.roomy worker (List.mem_of_getElem? hworker)
    rcases hqueue with hqueue | ⟨batch, -, hpush⟩ | ⟨batch, -, hpop⟩ | ⟨-, hqueue⟩ |
      ⟨batches, -, hqueue⟩
    · rwa [hqueue]
    · rwa [(BoundedQueue.push_true hpush).2.2]
    · rwa [(BoundedQueue.pop_some hpop).2]
    · rwa [hqueue]
    · rwa [hqueue]
  · rw [hlength]
    cases hstep with
    | shutdown hfree hrunning => exact hsound.nonempty
    | close hclosing hworker =>
      rename_i cancel index worker
      cases cancel with
      | true => exact (List.getElem?_eq_some_iff.1 hworker).1
      | false => exact pool.afterClose_reaches false index
    | discard hdiscarding hworker hitems => exact pool.afterClose_reaches true _
    | join hjoining hworker hthread => exact (List.getElem?_eq_some_iff.1 hworker).1
    | halt hjoining => trivial
    | _ => exact h.reaches
  · rw [hlength]
    cases hstep with
    | enlist hfree hrunning =>
      intro pair hmem
      rcases List.mem_cons.1 hmem with rfl | hmem
      · exact Nat.mod_lt _ hsound.nonempty
      · exact h.routed pair hmem
    | push hadmitted hworker hpush | refuse hadmitted hworker hpush =>
      intro pair hmem
      apply h.routed pair
      rw [hadmitted]
      rcases List.mem_append.1 hmem with hmem | hmem
      · exact List.mem_append_left _ hmem
      · exact List.mem_append_right _ (List.mem_cons_of_mem _ hmem)
    | _ => exact h.routed

theorem run_staffed {pool : WorkerPool β γ}
    (h : Run Step (make workerCount queueCapacity) labels pool) : pool.Staffed := by
  apply Run.invariant (fun _ pool => pool.Staffed) h (make_staffed workerCount queueCapacity)
  intro labels pool action pool' hrun ih hstep
  exact ih.step (run_sound hrun).1 hstep

theorem Step.held {pool pool' : WorkerPool β γ} {action : PoolAction β γ}
    (h : Step pool action pool') :
    pool'.lifecycle.held + action.releases = pool.lifecycle.held + action.takes := by
  cases h with
  | shutdown hfree hrunning => rw [hfree]; rfl
  | close hclosing hworker =>
    rename_i cancel index worker
    rw [hclosing]
    cases cancel with
    | true => rfl
    | false =>
      simp only [Bool.false_eq_true, if_false, afterClose]
      split <;> rfl
  | discard hdiscarding hworker hitems =>
    rw [hdiscarding]
    simp only [afterClose]
    split <;> rfl
  | join hjoining hworker hthread => rw [hjoining]; rfl
  | halt hjoining => rw [hjoining]; rfl
  | _ => rfl

end WorkerPool

namespace Runtime

/-- Nothing but a new request can happen. -/
def Stuck (runtime : Runtime) : Prop :=
  ∀ action runtime', Step runtime action runtime' → action.request = true

theorem drains_set {runtime runtime' : Runtime} {control new : Control}
    (hcontrol : runtime.controls[ticket]? = some control)
    (hcontrols : runtime'.controls = runtime.controls.set ticket new)
    (h : new.drains + runtime.pool.lifecycle.held =
      control.drains + runtime'.pool.lifecycle.held) :
    weight Control.drains runtime'.controls + runtime.pool.lifecycle.held =
      weight Control.drains runtime.controls + runtime'.pool.lifecycle.held := by
  have hweight := weight_set Control.drains runtime.controls hcontrol new
  rw [hcontrols]
  omega

theorem Step.drains {runtime runtime' : Runtime} {action : Action}
    (h : Step runtime action runtime') :
    weight Control.drains runtime'.controls + runtime.pool.lifecycle.held =
      weight Control.drains runtime.controls + runtime'.pool.lifecycle.held := by
  cases h with
  | enter hcontrol =>
    rename_i control
    simp only [List.mem_cons, List.not_mem_nil, or_false] at hcontrol
    have hdrains : control.drains = 0 := by
      rcases hcontrol with rfl | rfl | rfl <;> rfl
    simp only [weight_append, weight_cons, weight_nil, hdrains]
    rfl
  | startCheck hcontrol =>
    refine drains_set hcontrol rfl ?_
    rcases runtime.startCheck_cases with ⟨status, -, hnew⟩ | ⟨-, hnew⟩ <;> rw [hnew] <;> rfl
  | startLoad hcontrol =>
    obtain ⟨σ, hloaded, hnew⟩ := runtime.startLoad_cases
    refine drains_set hcontrol (by rw [hloaded]; rfl) ?_
    rw [hloaded]
    rcases hnew with ⟨status, -, hnew⟩ | hnew <;> rw [hnew] <;> rfl
  | startInline hcontrol | startRefused hcontrol | startMark hcontrol | stopIdle hcontrol
  | cancelIdle hcontrol | persist hcontrol | skipPersist hcontrol | stopClear hcontrol =>
    exact drains_set hcontrol rfl rfl
  | spawn hcontrol _ hpool | stopDrain hcontrol _ hpool | cancelDrain hcontrol _ hpool
  | stopHalt hcontrol hpool | cancelHalt hcontrol hpool =>
    refine drains_set hcontrol rfl ?_
    have hheld := hpool.held
    simp only [PoolAction.takes, PoolAction.releases, Control.drains] at hheld ⊢
    omega
  | enlist _ _ hpool | push _ _ hpool | refuse _ _ hpool | pop hpool | exit hpool | handle hpool
  | signal _ _ hpool | finish hpool | close _ _ hpool | discard _ _ hpool | join _ _ hpool =>
    exact congrArg _ hpool.held.symm
  | _ => rfl

theorem run_drains {options : LifecycleConfig} {config : RuntimeConfig} {files : FileSystem}
    {runtime : Runtime} (h : Run Step (make options config files) labels runtime) :
    weight Control.drains runtime.controls = runtime.pool.lifecycle.held := by
  apply Run.invariant
    (fun _ runtime => weight Control.drains runtime.controls = runtime.pool.lifecycle.held) h rfl
  intro labels runtime action runtime' hrun ih hstep
  have hdrains := hstep.drains
  omega

theorem promises_set {runtime runtime' : Runtime} {call new : Call} {pair : Nat × Part}
    (hcall : runtime.calls[ticket]? = some call)
    (hcalls : runtime'.calls = runtime.calls.set ticket new)
    (h : new.phase.promises pair + runtime.pool.admitted.count pair =
      call.phase.promises pair + runtime'.pool.admitted.count pair) :
    weight (fun call => call.phase.promises pair) runtime'.calls +
        runtime.pool.admitted.count pair =
      weight (fun call => call.phase.promises pair) runtime.calls +
        runtime'.pool.admitted.count pair := by
  have hweight := weight_set (fun call : Call => call.phase.promises pair) runtime.calls hcall new
  rw [hcalls]
  omega

theorem Step.promises {runtime runtime' : Runtime} {action : Action}
    (h : Step runtime action runtime') (pair : Nat × Part) :
    weight (fun call => call.phase.promises pair) runtime'.calls +
        runtime.pool.admitted.count pair =
      weight (fun call => call.phase.promises pair) runtime.calls +
        runtime'.pool.admitted.count pair := by
  cases h with
  | call =>
    simp only [weight_append, weight_cons, weight_nil, CallPhase.promises]
    rfl
  | check hcall hphase hstarted =>
    refine promises_set hcall rfl ?_
    rename_i ticket call
    rw [hphase]
    rcases call.enter_cases runtime.lifecycle.workers ticket with ⟨-, henter⟩ |
      ⟨-, -, -, henter⟩ | ⟨-, -, -, henter⟩ | ⟨-, -, henter⟩ <;> rw [henter] <;> rfl
  | checkRefused hcall hphase | applyInline hcall hphase | applyDeclarations hcall hphase
  | complete hcall hphase | deny hcall hphase | leave hcall hphase =>
    refine promises_set hcall rfl ?_
    rw [hphase]
    rfl
  | arrive hcall hphase =>
    refine promises_set hcall rfl ?_
    dsimp only
    rw [hphase]
    split <;> rfl
  | enlist hcall hphase hpool =>
    refine promises_set hcall rfl ?_
    rw [hphase]
    cases hpool with
    | enlist hfree hrunning =>
      simp only [CallPhase.promises, List.count_cons, beq_iff_eq]
      omega
  | push hcall hphase hpool =>
    refine promises_set hcall rfl ?_
    rw [hphase]
    cases hpool with
    | push hadmitted hworker hpush =>
      simp only [CallPhase.promises, hadmitted, List.count_append, List.count_cons, beq_iff_eq]
      omega
  | refuse hcall hphase hpool =>
    refine promises_set hcall rfl ?_
    rw [hphase]
    cases hpool with
    | refuse hadmitted hworker hpush =>
      simp only [CallPhase.promises, hadmitted, List.count_append, List.count_cons, beq_iff_eq]
      omega
  | signal hcall hrest hpool =>
    refine promises_set hcall rfl ?_
    cases hpool with
    | signal hworker hthread => rfl
  | startLoad hcontrol =>
    obtain ⟨σ, hloaded, -⟩ := runtime.startLoad_cases
    rw [hloaded]
    rfl
  | pop hpool | exit hpool | handle hpool | finish hpool | spawn _ _ hpool | stopDrain _ _ hpool
  | cancelDrain _ _ hpool | stopHalt _ hpool | cancelHalt _ hpool | close _ _ hpool
  | discard _ _ hpool | join _ _ hpool =>
    cases hpool
    rfl
  | _ => rfl

theorem run_promises {options : LifecycleConfig} {config : RuntimeConfig} {files : FileSystem}
    {runtime : Runtime} (h : Run Step (make options config files) labels runtime)
    (pair : Nat × Part) :
    weight (fun call => call.phase.promises pair) runtime.calls =
      runtime.pool.admitted.count pair := by
  apply Run.invariant (fun _ runtime => weight (fun call => call.phase.promises pair)
    runtime.calls = runtime.pool.admitted.count pair) h rfl
  intro labels runtime action runtime' hrun ih hstep
  have hpromises := hstep.promises pair
  omega

theorem stamped_fst (records : List ParsedRecord) :
    (records.map fun record => (record, (⟨0⟩ : TimePoint))).map Prod.fst = records := by
  rw [List.map_map]
  exact List.map_id _

theorem Stuck.worker {options : LifecycleConfig} {config : RuntimeConfig} {files : FileSystem}
    {runtime : Runtime} {index : Nat} (hstuck : runtime.Stuck)
    (h : Run Step (make options config files) labels runtime) {worker : Worker Part (Option Nat)}
    (hworker : runtime.pool.workers[index]? = some worker) : worker.Idle := by
  cases hthread : worker.thread with
  | absent => exact .inl hthread
  | exited => exact .inr (.inl hthread)
  | popping =>
    cases hitems : worker.queue.items with
    | cons part rest =>
      have hpop : worker.queue.pop = some
          ({ worker.queue with items := rest, popped := worker.queue.popped + 1 }, some part) := by
        simp only [BoundedQueue.pop, hitems]
      cases hstuck _ _ (.pop (.pop hworker hthread hpop))
    | nil =>
      cases hclosed : worker.queue.closed with
      | false => exact .inr (.inr ⟨hthread, hitems, hclosed⟩)
      | true =>
        have hpop : worker.queue.pop = some (worker.queue, none) := by
          simp only [BoundedQueue.pop, hitems, hclosed, if_true]
        cases hstuck _ _ (.exit (.exit hworker hthread hpop))
  | handling part =>
    cases hstuck _ _ (.handle (.handle hworker hthread) (stamped_fst _))
  | handled part =>
    -- the part came from a call of this run, whose countdown is still there
    have hflow := (WorkerPool.run_sound (run_pool h)).2 index worker hworker
    have hhandled : (index, part) ∈ handles (poolLabels labels) := by
      have hgroup := handles_group (poolLabels labels) index
      rw [hflow.handled, hthread] at hgroup
      have hmem : (index, part) ∈ Grouping.group (fun pair => some pair.1)
          (handles (poolLabels labels)) index := by
        rw [hgroup]
        simp [WorkerThread.unsignalled]
      exact (List.mem_filter.1 hmem).1
    obtain ⟨call, hcall, -⟩ := run_pushed h (run_handled_mem h hhandled)
    cases hstuck _ _ (.signal hcall rfl (.signal hworker hthread))
  | signalling rest => cases hstuck _ _ (.finish (.finish hworker hthread))

theorem Stuck.lifecycle {options : LifecycleConfig} {config : RuntimeConfig} {files : FileSystem}
    {runtime : Runtime} (hstuck : runtime.Stuck)
    (h : Run Step (make options config files) labels runtime) :
    runtime.pool.lifecycle = .free := by
  have hsound := (WorkerPool.run_sound (run_pool h)).1
  have hreaches := (WorkerPool.run_staffed (run_pool h)).reaches
  by_contra hbusy
  have hheld : 0 < weight Control.drains runtime.controls := by
    rw [run_drains h]
    cases hlifecycle : runtime.pool.lifecycle with
    | free => exact absurd hlifecycle hbusy
    | _ => exact Nat.one_pos
  obtain ⟨ticket, control, hcontrol, hdrains⟩ := exists_of_weight_pos hheld
  have hdraining := Control.draining hdrains
  cases hlifecycle : runtime.pool.lifecycle with
  | free => exact hbusy hlifecycle
  | closing cancel index =>
    rw [hlifecycle] at hreaches
    cases hstuck _ _ (.close hcontrol hdraining
      (.close hlifecycle (List.getElem?_eq_getElem hreaches)))
  | discarding index =>
    rw [hlifecycle] at hreaches
    cases hstuck _ _ (.discard hcontrol hdraining
      (.discard hlifecycle (List.getElem?_eq_getElem hreaches) rfl))
  | joining index =>
    rw [hlifecycle] at hreaches
    rcases Nat.lt_or_eq_of_le hreaches with hlt | rfl
    · have hworker := List.getElem?_eq_getElem hlt
      have hphase := hsound.phase index _ hworker
      rw [hlifecycle] at hphase
      rcases hstuck.worker h hworker with hthread | hthread | ⟨-, -, hopen⟩
      · exact hphase.2.1 (Nat.le_refl index) hthread
      · cases hstuck _ _ (.join hcontrol hdraining (.join hlifecycle hworker hthread))
      · rw [hphase.1] at hopen
        cases hopen
    · rcases hdraining with rfl | rfl
      · cases hstuck _ _ (.stopHalt hcontrol (.halt hlifecycle))
      · cases hstuck _ _ (.cancelHalt hcontrol (.halt hlifecycle))

/-- A call of `submit_batch` only ever waits for a full queue or for the lifecycle lock. -/
theorem Stuck.call {options : LifecycleConfig} {config : RuntimeConfig} {files : FileSystem}
    {runtime : Runtime} {ticket : Nat} (hstuck : runtime.Stuck)
    (h : Run Step (make options config files) labels runtime) {call : Call}
    (hcall : runtime.calls[ticket]? = some call) : ∃ status, call.phase = .returned status := by
  have hfree := hstuck.lifecycle h
  cases hphase : call.phase with
  | returned status => exact ⟨status, rfl⟩
  | entered =>
    cases hstarted : runtime.started with
    | true => cases hstuck _ _ (.check hcall hphase hstarted)
    | false => cases hstuck _ _ (.checkRefused hcall hphase hstarted)
  | inlined => cases hstuck _ _ (.applyInline hcall hphase (stamped_fst _))
  | declaring declarations parts =>
    cases hstuck _ _ (.applyDeclarations hcall hphase (stamped_fst _))
  | arriving parts => cases hstuck _ _ (.arrive hcall hphase)
  | completing parts => cases hstuck _ _ (.complete hcall hphase)
  | routing parts =>
    cases parts with
    | nil => cases hstuck _ _ (.leave hcall hphase)
    | cons routed parts =>
      cases hrunning : runtime.pool.running with
      | true => cases hstuck _ _ (.enlist hcall hphase (.enlist hfree hrunning))
      | false => cases hstuck _ _ (.deny hcall hphase hfree hrunning)
  | pushing index part parts =>
    have hsound := (WorkerPool.run_sound (run_pool h)).1
    have hstaffed := WorkerPool.run_staffed (run_pool h)
    have hadmitted : (index, part) ∈ runtime.pool.admitted := by
      apply List.count_pos_iff.1
      rw [← run_promises h]
      refine Nat.lt_of_lt_of_le ?_ (le_weight _ runtime.calls hcall)
      simp only [hphase, CallPhase.promises, if_true]
      exact Nat.one_pos
    obtain ⟨before, after, hsplit⟩ := List.append_of_mem hadmitted
    have hlt : index < runtime.pool.workers.length := hstaffed.routed _ hadmitted
    have hworker := List.getElem?_eq_getElem hlt
    cases hclosed : runtime.pool.workers[index].queue.closed with
    | true =>
      cases hstuck _ _ (.refuse hcall hphase
        (.refuse hsplit hworker (BoundedQueue.push_closed hclosed part)))
    | false =>
      have hmem := List.mem_of_getElem? hworker
      by_cases hroom : runtime.pool.workers[index].queue.items.length <
          runtime.pool.workers[index].queue.capacity
      · obtain ⟨queue, hpush⟩ := BoundedQueue.push_open hclosed hroom part
        cases hstuck _ _ (.push hcall hphase (.push hsplit hworker hpush))
      · -- a full open queue has a thread that pops it
        have hrunning : runtime.pool.running = true := by
          rcases hsound.admitted (List.ne_nil_of_mem hadmitted) with hrunning | hall
          · exact hrunning
          · rw [hall _ hmem] at hclosed
            cases hclosed
        have hallows := hsound.phase index _ hworker
        rw [hrunning] at hallows
        rcases hstuck.worker h hworker with hthread | hthread | ⟨-, hempty, -⟩
        · exact absurd hthread (hallows.opened hclosed)
        · rw [(hsound.exited _ hmem hthread).1] at hclosed
          cases hclosed
        · have hcapacity := hstaffed.roomy _ hmem
          rw [hempty] at hroom
          exact absurd hcapacity hroom

theorem writeSnapshot_returns (path : String) (contents : SnapshotContents) (policy : Policy)
    (files : FileSystem) :
    ∃ result left, (writeSnapshot path contents policy {}).run files = (some result, left) := by
  by_cases hsize : contents.encodePayload.length ≤ policy.limits.maxSnapshotBytes.toNat
  · obtain ⟨result, left, hwrite, -⟩ := writeSnapshot_complete hsize files path
    exact ⟨result, left, hwrite⟩
  · unfold writeSnapshot
    rw [if_pos (Nat.lt_of_not_le hsize)]
    exact ⟨_, _, rfl⟩

theorem Stuck.control {options : LifecycleConfig} {config : RuntimeConfig} {files : FileSystem}
    {runtime : Runtime} {ticket : Nat} (hstuck : runtime.Stuck)
    (h : Run Step (make options config files) labels runtime) {control : Control}
    (hcontrol : runtime.controls[ticket]? = some control) : control.returned = true := by
  have hfree := hstuck.lifecycle h
  have hidle : control.drains = 0 := by
    have hle := le_weight Control.drains runtime.controls hcontrol
    rw [run_drains h, hfree] at hle
    exact Nat.le_zero.1 hle
  cases control with
  | started | stopped | cancelled => rfl
  | stopDraining | cancelDraining => cases hidle
  | startEntered => cases hstuck _ _ (.startCheck hcontrol)
  | startLoading => cases hstuck _ _ (.startLoad hcontrol)
  | startSpawning =>
    by_cases hworkers : runtime.lifecycle.workers = 0
    · cases hstuck _ _ (.startInline hcontrol hworkers)
    · cases hrunning : runtime.pool.running with
      | true => cases hstuck _ _ (.startRefused hcontrol hworkers hfree hrunning)
      | false => cases hstuck _ _ (.spawn hcontrol hworkers (.start hfree hrunning))
  | startMarking => cases hstuck _ _ (.startMark hcontrol)
  | stopEntered =>
    by_cases hworkers : runtime.lifecycle.workers = 0
    · cases hstuck _ _ (.stopIdle hcontrol (.inl hworkers))
    · cases hrunning : runtime.pool.running with
      | true => cases hstuck _ _ (.stopDrain hcontrol hworkers (.shutdown hfree hrunning))
      | false => cases hstuck _ _ (.stopIdle hcontrol (.inr ⟨hfree, hrunning⟩))
  | stopPersisting =>
    cases hpersists : runtime.persists with
    | true =>
      obtain ⟨result, left, hwrite⟩ := writeSnapshot_returns
        runtime.observatory.config.snapshotPath (runtime.observatory.collectSnapshot ⟨0⟩)
        runtime.observatory.config.policy runtime.files
      cases hstuck _ _ (.persist hcontrol hpersists hwrite)
    | false => cases hstuck _ _ (.skipPersist hcontrol hpersists)
  | stopClearing status => cases hstuck _ _ (.stopClear hcontrol)
  | cancelEntered =>
    by_cases hworkers : runtime.lifecycle.workers = 0
    · cases hstuck _ _ (.cancelIdle hcontrol (.inl hworkers))
    · cases hrunning : runtime.pool.running with
      | true => cases hstuck _ _ (.cancelDrain hcontrol hworkers (.shutdown hfree hrunning))
      | false => cases hstuck _ _ (.cancelIdle hcontrol (.inr ⟨hfree, hrunning⟩))

theorem Stuck.admitted {options : LifecycleConfig} {config : RuntimeConfig} {files : FileSystem}
    {runtime : Runtime} (hstuck : runtime.Stuck)
    (h : Run Step (make options config files) labels runtime) : runtime.pool.admitted = [] := by
  apply List.eq_nil_iff_forall_not_mem.2
  intro pair hmem
  have hcount := List.count_pos_iff.2 hmem
  rw [← run_promises h] at hcount
  obtain ⟨ticket, call, hcall, hpromises⟩ := exists_of_weight_pos hcount
  obtain ⟨status, hphase⟩ := hstuck.call h hcall
  rw [hphase] at hpromises
  exact Nat.lt_irrefl 0 hpromises

/-- A thread that a runtime has when nothing is left to do. -/
def restingThread (running closed : Bool) : WorkerThread β γ :=
  if running then if closed then .exited else .popping else .absent

theorem Stuck.rested {options : LifecycleConfig} {config : RuntimeConfig} {files : FileSystem}
    {runtime : Runtime} (hstuck : runtime.Stuck)
    (h : Run Step (make options config files) labels runtime) {worker : Worker Part (Option Nat)}
    (hmem : worker ∈ runtime.pool.workers) : worker.queue.items = [] ∧
      worker.thread = restingThread runtime.pool.running worker.queue.closed := by
  have hsound := (WorkerPool.run_sound (run_pool h)).1
  obtain ⟨index, hworker⟩ := List.getElem?_of_mem hmem
  cases hrunning : runtime.pool.running with
  | false =>
    obtain ⟨hthread, hitems⟩ := hsound.quiescent hrunning worker hmem
    exact ⟨hitems, hthread⟩
  | true =>
    have hallows := hsound.phase index worker hworker
    rw [hstuck.lifecycle h, hrunning] at hallows
    rcases hstuck.worker h hworker with hthread | hthread | ⟨hthread, hitems, hopen⟩
    · exact absurd hthread hallows
    · obtain ⟨hclosed, hitems⟩ := hsound.exited worker hmem hthread
      rw [hclosed]
      exact ⟨hitems, hthread⟩
    · rw [hopen]
      exact ⟨hitems, hthread⟩

/-- Every call has returned, nothing is queued or admitted, the lifecycle lock is free, and each
worker waits on an open queue, has left a closed one, or has been joined. -/
structure Rested (runtime : Runtime) : Prop where
  calls : ∀ call ∈ runtime.calls, ∃ status, call.phase = .returned status
  controls : ∀ control ∈ runtime.controls, control.returned = true
  lifecycle : runtime.pool.lifecycle = .free
  admitted : runtime.pool.admitted = []
  workers : ∀ worker ∈ runtime.pool.workers, worker.queue.items = [] ∧
    worker.thread = restingThread runtime.pool.running worker.queue.closed

theorem Rested.call {runtime : Runtime} (h : runtime.Rested) {ticket : Nat} {call : Call}
    (hcall : runtime.calls[ticket]? = some call) {phase : CallPhase} (hphase : call.phase = phase)
    (hbusy : ∀ status, phase ≠ .returned status) : False := by
  obtain ⟨status, hreturned⟩ := h.calls call (List.mem_of_getElem? hcall)
  exact hbusy status (hphase.symm.trans hreturned)

theorem Rested.control {runtime : Runtime} (h : runtime.Rested) {ticket : Nat} {control : Control}
    (hcontrol : runtime.controls[ticket]? = some control) (hbusy : control.returned = false) :
    False := by
  rw [h.controls control (List.mem_of_getElem? hcontrol)] at hbusy
  cases hbusy

theorem Rested.pool {runtime : Runtime} (h : runtime.Rested)
    {pool' : WorkerPool Part (Option Nat)} {action : PoolAction Part (Option Nat)}
    (hstep : runtime.pool.Step action pool') : action.settles = false := by
  have hthread {index : Nat} {worker : Worker Part (Option Nat)}
      (hworker : runtime.pool.workers[index]? = some worker) :=
    h.workers worker (List.mem_of_getElem? hworker)
  have hresting {running closed : Bool} {thread : WorkerThread Part (Option Nat)}
      (hrest : thread = restingThread running closed) :
      thread = .absent ∨ thread = .popping ∧ closed = false ∨ thread = .exited := by
    subst hrest
    unfold restingThread
    cases running with
    | false => exact .inl rfl
    | true =>
      cases closed with
      | false => exact .inr (.inl ⟨rfl, rfl⟩)
      | true => exact .inr (.inr rfl)
  cases hstep with
  | start | enlist | push | refuse | shutdown => rfl
  | pop hworker _ hpop =>
    have hitems := (BoundedQueue.pop_some hpop).1
    rw [(hthread hworker).1] at hitems
    cases hitems
  | exit hworker hpopping hpop =>
    rcases hresting (hthread hworker).2 with habsent | ⟨-, hopen⟩ | hexited
    · rw [habsent] at hpopping
      cases hpopping
    · rw [(BoundedQueue.pop_none hpop).2.1] at hopen
      cases hopen
    · rw [hexited] at hpopping
      cases hpopping
  | handle hworker hbusy | signal hworker hbusy | finish hworker hbusy =>
    rcases hresting (hthread hworker).2 with hrest | ⟨hrest, -⟩ | hrest <;>
      (rw [hrest] at hbusy; cases hbusy)
  | close hbusy | discard hbusy | join hbusy | halt hbusy =>
    rw [h.lifecycle] at hbusy
    cases hbusy

theorem Rested.stuck {runtime : Runtime} (h : runtime.Rested) : runtime.Stuck := by
  intro action runtime' hstep
  cases hstep with
  | call | enter => rfl
  | checkRefused hcall hphase | check hcall hphase | applyInline hcall hphase
  | applyDeclarations hcall hphase | arrive hcall hphase | complete hcall hphase
  | enlist hcall hphase | deny hcall hphase | push hcall hphase | refuse hcall hphase
  | leave hcall hphase =>
    exact (h.call hcall hphase fun status heq => by cases heq).elim
  | pop hpool | exit hpool | handle hpool | signal _ _ hpool | finish hpool | close _ _ hpool
  | discard _ _ hpool | join _ _ hpool | stopHalt _ hpool | cancelHalt _ hpool =>
    cases h.pool hpool
  | startCheck hcontrol | startLoad hcontrol | startInline hcontrol | startRefused hcontrol
  | spawn hcontrol | startMark hcontrol | stopIdle hcontrol | stopDrain hcontrol
  | cancelIdle hcontrol | cancelDrain hcontrol | persist hcontrol | skipPersist hcontrol
  | stopClear hcontrol =>
    exact (h.control hcontrol rfl).elim

/-- Every run of the runtime ends, unless requests keep coming: its steps are paid for by them.
And it ends where the runtime has come to rest, and nowhere else. -/
theorem run_settles {options : LifecycleConfig} {config : RuntimeConfig} {files : FileSystem}
    {runtime : Runtime} (h : Run Step (make options config files) labels runtime) :
    labels.countP (!·.request) ≤ weight (Action.worth runtime.pool.workers.length) labels ∧
      (runtime.Stuck ↔ runtime.Rested) := by
  refine ⟨(Nat.le_add_left _ _).trans (run_left h), fun hstuck => ?_, Rested.stuck⟩
  constructor
  · intro call hmem
    obtain ⟨ticket, hcall⟩ := List.getElem?_of_mem hmem
    exact hstuck.call h hcall
  · intro control hmem
    obtain ⟨ticket, hcontrol⟩ := List.getElem?_of_mem hmem
    exact hstuck.control h hcontrol
  · exact hstuck.lifecycle h
  · exact hstuck.admitted h
  · intro worker hmem
    exact hstuck.rested h hmem

theorem run_settles_small :
    ∃ runtime, Run Step (make smallConfig { policy := makeDefaultPolicy } fun _ => none)
        (startLabels smallConfig ++ smallLabels) runtime ∧
      (startLabels smallConfig ++ smallLabels).countP (!·.request) ≤ 29 ∧
      (runtime.Stuck ↔ runtime.Rested) := by
  obtain ⟨runtime, hrun, -, -⟩ := run_small
  have hall := run_smallStart.append hrun
  have hsettles := run_settles hall
  rw [(run_kept hall).workers] at hsettles
  exact ⟨runtime, hall, hsettles⟩

end Runtime

end LinkObservatory
