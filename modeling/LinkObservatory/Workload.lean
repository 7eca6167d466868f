import LinkObservatory.StartStop
import LinkObservatory.Lib.Population

namespace LinkObservatory
set_option autoImplicit true

open Labelled Population

/-- The steps that a worker's thread has left for the batch in its hands. -/
def WorkerThread.left : WorkerThread β γ → Nat
  | absent | exited => 0
  | popping => 1
  | signalling _ => 2
  | handled _ => 3
  | handling _ => 4

/-- A bound on the steps that a worker has left while nothing is pushed to it. -/
def Worker.left (worker : Worker β γ) : Nat :=
  4 * worker.queue.items.length + worker.thread.left

/-- The steps that a shutdown has left, with the threads there are. -/
def Lifecycle.left (workers : Nat) : Lifecycle → Nat
  | free => 0
  | joining index => workers - index + 1
  | discarding index => 2 * (workers - index) + workers + 1
  | closing _ index => 2 * (workers - index) + workers + 2

/-- The steps that a pool comes to owe by an action of its users. -/
def PoolAction.supplies (workers : Nat) : PoolAction β γ → Nat
  | start => workers
  | push _ _ => 4
  | shutdown _ => 3 * workers + 2
  | _ => 0

/-- The actions that a pool takes by its own threads, or by the one that shuts it down. -/
def PoolAction.settles : PoolAction β γ → Bool
  | start | enlist _ _ | push _ _ | refuse _ _ | shutdown _ => false
  | _ => true

namespace WorkerPool

def left (pool : WorkerPool β γ) : Nat :=
  weight Worker.left pool.workers + pool.lifecycle.left pool.workers.length

theorem spawned_left (pool : WorkerPool β γ) :
    pool.spawned.left ≤ pool.left + pool.workers.length := by
  have hweight (workers : List (Worker β γ)) :
      weight Worker.left (workers.map fun worker => (⟨worker.queue, .popping⟩ : Worker β γ)) ≤
        weight Worker.left workers + workers.length := by
    induction workers with
    | nil => exact Nat.le_refl 0
    | cons worker workers ih =>
      simp only [List.map_cons, weight_cons, List.length_cons]
      simp only [Worker.left, WorkerThread.left] at ih ⊢
      omega
  have hworkers := hweight pool.workers
  simp only [left, spawned, List.length_map]
  omega

theorem left_advance {pool pool' : WorkerPool β γ} {index : Nat} {worker new : Worker β γ}
    (hworker : pool.workers[index]? = some worker)
    (hworkers : pool'.workers = pool.workers.set index new)
    (h : new.left + pool'.lifecycle.left pool.workers.length + spent ≤
      worker.left + pool.lifecycle.left pool.workers.length + supplied) :
    pool'.left + spent ≤ pool.left + supplied := by
  have hweight := weight_set Worker.left pool.workers hworker new
  simp only [left, hworkers, List.length_set]
  omega

theorem afterClose_left (pool : WorkerPool β γ) (cancel : Bool) {index : Nat}
    (hlt : index < pool.workers.length) :
    (pool.afterClose cancel index).left pool.workers.length <
      (Lifecycle.discarding index).left pool.workers.length := by
  unfold afterClose
  split <;> simp only [Lifecycle.left] <;> omega

theorem Step.left_le {pool pool' : WorkerPool β γ} {action : PoolAction β γ}
    (h : Step pool action pool') :
    pool'.left + action.settles.toNat ≤ pool.left + action.supplies pool.workers.length := by
  cases h with
  | start hfree hidle => exact pool.spawned_left
  | enlist hfree hrunning => exact Nat.le_refl _
  | refuse hadmitted hworker hpush => exact Nat.le_refl _
  | push hadmitted hworker hpush =>
    apply left_advance hworker rfl
    obtain ⟨-, -, rfl⟩ := BoundedQueue.push_true hpush
    simp only [Worker.left, setWorker, List.length_append, List.length_singleton,
      PoolAction.settles, PoolAction.supplies, Bool.toNat_false]
    omega
  | pop hworker hthread hpop =>
    apply left_advance hworker rfl
    have hitems := congrArg List.length (BoundedQueue.pop_some hpop).1
    rw [List.length_cons] at hitems
    simp only [Worker.left, setWorker, hthread, WorkerThread.left, PoolAction.settles,
      PoolAction.supplies, Bool.toNat_true]
    omega
  | exit hworker hthread hpop =>
    apply left_advance hworker rfl
    obtain ⟨-, -, rfl⟩ := BoundedQueue.pop_none hpop
    simp only [Worker.left, setWorker, hthread, WorkerThread.left, PoolAction.settles,
      PoolAction.supplies, Bool.toNat_true]
    omega
  | handle hworker hthread | signal hworker hthread | finish hworker hthread =>
    apply left_advance hworker rfl
    simp only [Worker.left, setWorker, hthread, WorkerThread.left, PoolAction.settles,
      PoolAction.supplies, Bool.toNat_true]
    omega
  | shutdown hfree hrunning =>
    simp only [left, hfree, Lifecycle.left, PoolAction.settles, PoolAction.supplies,
      Bool.toNat_false]
    omega
  | close hclosing hworker =>
    rename_i cancel index worker
    apply left_advance hworker rfl
    have hafter := pool.afterClose_left false (List.getElem?_eq_some_iff.1 hworker).1
    have hnext : (if cancel then Lifecycle.discarding index
        else pool.afterClose false index).left pool.workers.length <
          (Lifecycle.closing cancel index).left pool.workers.length := by
      cases cancel with
      | true => exact Nat.lt_succ_self _
      | false => exact Nat.lt_succ_of_lt hafter
    simp only [Worker.left, BoundedQueue.close, hclosing, PoolAction.settles,
      PoolAction.supplies, Bool.toNat_true]
    omega
  | discard hdiscarding hworker hitems =>
    apply left_advance hworker rfl
    have hafter := pool.afterClose_left true (List.getElem?_eq_some_iff.1 hworker).1
    simp only [Worker.left, BoundedQueue.discardPending, List.length_nil, hdiscarding,
      PoolAction.settles, PoolAction.supplies, Bool.toNat_true]
    omega
  | join hjoining hworker hthread =>
    have hlt := (List.getElem?_eq_some_iff.1 hworker).1
    apply left_advance hworker rfl
    simp only [Worker.left, hthread, WorkerThread.left, hjoining, Lifecycle.left,
      PoolAction.settles, PoolAction.supplies, Bool.toNat_true]
    omega
  | halt hjoining =>
    simp only [left, hjoining, Lifecycle.left, PoolAction.settles, PoolAction.supplies,
      Bool.toNat_true]
    omega

end WorkerPool

/-- A bound on the steps that a call has left, with those that its parts cost their workers. -/
def CallPhase.left (workers : Nat) : CallPhase → Nat
  | entered => 6 * workers + 5
  | inlined => 3
  | declaring _ parts => 6 * parts.length + 4
  | arriving parts => 6 * parts.length + 3
  | completing parts => 6 * parts.length + 2
  | routing parts => 6 * parts.length + 1
  | pushing _ _ parts => 6 * parts.length + 6
  | returned _ => 0

/-- A bound on the steps that a control has left, with those that it costs the pool. -/
def Control.left (workers : Nat) : Control → Nat
  | startEntered => workers + 4
  | startLoading => workers + 3
  | startSpawning => workers + 2
  | startMarking => 1
  | stopEntered => 3 * workers + 6
  | stopDraining => 3
  | stopPersisting => 2
  | stopClearing _ => 1
  | cancelEntered => 3 * workers + 4
  | cancelDraining => 1
  | started _ | stopped _ | cancelled => 0

theorem partsOf_length (workers ticket : Nat) (batch : List ParsedRecord) :
    (partsOf workers ticket batch).length ≤ workers := by
  apply (List.length_filterMap_le _ _).trans
  exact Nat.le_of_eq List.length_range

theorem Call.enter_left {call : Call} (hphase : call.phase = .entered) (workers ticket : Nat)
    {threads : Nat} (hle : workers ≤ threads) :
    (call.enter workers ticket).phase.left threads < call.phase.left threads := by
  have hparts := partsOf_length workers ticket call.batch
  rw [hphase]
  rcases call.enter_cases workers ticket with ⟨-, henter⟩ | ⟨-, -, -, henter⟩ |
    ⟨-, -, -, henter⟩ | ⟨-, -, henter⟩
  · rw [henter]
    simp only [CallPhase.left]
    omega
  · rw [henter]
    simp only [CallPhase.left, List.length_nil]
    omega
  · rw [henter]
    simp only [CallPhase.left]
    omega
  · rw [henter]
    simp only [CallPhase.left]
    omega

/-- The actions that bring new work in. -/
def Action.request : Action → Bool
  | call _ | enter _ => true
  | _ => false

/-- The steps that a request is worth, with the threads there are. -/
def Action.worth (workers : Nat) : Action → Nat
  | call _ => 6 * workers + 5
  | enter _ => 3 * workers + 6
  | _ => 0

namespace Runtime

/-- A bound on the steps that the runtime has left once no more calls come. -/
def left (runtime : Runtime) : Nat :=
  weight (fun call => call.phase.left runtime.pool.workers.length) runtime.calls +
    weight (Control.left runtime.pool.workers.length) runtime.controls + runtime.pool.left

theorem left_call {runtime runtime' : Runtime} {call new : Call}
    (hcall : runtime.calls[ticket]? = some call)
    (hcalls : runtime'.calls = runtime.calls.set ticket new)
    (hcontrols : runtime'.controls = runtime.controls)
    (hlength : runtime'.pool.workers.length = runtime.pool.workers.length)
    (hpool : runtime'.pool.left + spent ≤ runtime.pool.left + supplied)
    (h : new.phase.left runtime.pool.workers.length + supplied <
      call.phase.left runtime.pool.workers.length + spent) : runtime'.left < runtime.left := by
  have hweight := weight_set (fun call : Call => call.phase.left runtime.pool.workers.length)
    runtime.calls hcall new
  simp only [left, hcalls, hcontrols, hlength]
  omega

theorem left_call_alone {runtime runtime' : Runtime} {call new : Call}
    (hcall : runtime.calls[ticket]? = some call)
    (hcalls : runtime'.calls = runtime.calls.set ticket new)
    (hcontrols : runtime'.controls = runtime.controls) (hpool : runtime'.pool = runtime.pool)
    (h : new.phase.left runtime.pool.workers.length <
      call.phase.left runtime.pool.workers.length) : runtime'.left < runtime.left :=
  left_call hcall hcalls hcontrols (by rw [hpool]) (Nat.le_of_eq (by rw [hpool]))
    (Nat.add_lt_add_right h 0)

theorem left_control {runtime runtime' : Runtime} {control new : Control}
    (hcontrol : runtime.controls[ticket]? = some control)
    (hcontrols : runtime'.controls = runtime.controls.set ticket new)
    (hcalls : runtime'.calls = runtime.calls)
    (hlength : runtime'.pool.workers.length = runtime.pool.workers.length)
    (hpool : runtime'.pool.left + spent ≤ runtime.pool.left + supplied)
    (h : new.left runtime.pool.workers.length + supplied <
      control.left runtime.pool.workers.length + spent) : runtime'.left < runtime.left := by
  have hweight := weight_set (Control.left runtime.pool.workers.length) runtime.controls
    hcontrol new
  simp only [left, hcalls, hcontrols, hlength]
  omega

theorem left_control_alone {runtime runtime' : Runtime} {control new : Control}
    (hcontrol : runtime.controls[ticket]? = some control)
    (hcontrols : runtime'.controls = runtime.controls.set ticket new)
    (hcalls : runtime'.calls = runtime.calls) (hpool : runtime'.pool = runtime.pool)
    (h : new.left runtime.pool.workers.length < control.left runtime.pool.workers.length) :
    runtime'.left < runtime.left :=
  left_control hcontrol hcontrols hcalls (by rw [hpool]) (Nat.le_of_eq (by rw [hpool]))
    (Nat.add_lt_add_right h 0)

theorem left_pool {runtime runtime' : Runtime} (hcalls : runtime'.calls = runtime.calls)
    (hcontrols : runtime'.controls = runtime.controls)
    (hlength : runtime'.pool.workers.length = runtime.pool.workers.length)
    (hpool : runtime'.pool.left + 1 ≤ runtime.pool.left + 0) : runtime'.left < runtime.left := by
  simp only [left, hcalls, hcontrols, hlength]
  omega

theorem Step.left_lt {runtime runtime' : Runtime} {action : Action}
    (hworkers : runtime.lifecycle.workers ≤ runtime.pool.workers.length)
    (h : Step runtime action runtime') (hown : action.request = false) :
    runtime'.left < runtime.left := by
  have hlength := h.workers
  cases h with
  | call | enter => cases hown
  | checkRefused hcall hphase hstarted =>
    refine left_call_alone hcall rfl rfl rfl ?_
    simp only [hphase, CallPhase.left]
    omega
  | check hcall hphase hstarted =>
    refine left_call_alone hcall rfl rfl rfl ?_
    exact Call.enter_left hphase _ _ hworkers
  | applyInline hcall hphase hrecords =>
    refine left_call_alone hcall rfl rfl rfl ?_
    simp only [hphase, CallPhase.left, List.length_nil]
    omega
  | applyDeclarations hcall hphase hrecords =>
    refine left_call_alone hcall rfl rfl rfl ?_
    simp only [hphase, CallPhase.left]
    omega
  | arrive hcall hphase =>
    refine left_call_alone hcall rfl rfl rfl ?_
    simp only [hphase]
    split <;> simp only [CallPhase.left] <;> omega
  | complete hcall hphase =>
    refine left_call_alone hcall rfl rfl rfl ?_
    simp only [hphase, CallPhase.left]
    omega
  | enlist hcall hphase hpool =>
    refine left_call hcall rfl rfl hlength hpool.left_le ?_
    simp only [hphase, CallPhase.left, List.length_cons, PoolAction.supplies, PoolAction.settles,
      Bool.toNat_false]
    omega
  | deny hcall hphase hfree hidle =>
    refine left_call_alone hcall rfl rfl rfl ?_
    simp only [hphase, CallPhase.left]
    omega
  | push hcall hphase hpool | refuse hcall hphase hpool =>
    refine left_call hcall rfl rfl hlength hpool.left_le ?_
    simp only [hphase, CallPhase.left, PoolAction.supplies, PoolAction.settles, Bool.toNat_false]
    omega
  | leave hcall hphase =>
    refine left_call_alone hcall rfl rfl rfl ?_
    simp only [hphase, CallPhase.left]
    omega
  | pop hpool | exit hpool | handle hpool _ | finish hpool =>
    exact left_pool rfl rfl hlength hpool.left_le
  | close _ _ hpool | discard _ _ hpool | join _ _ hpool =>
    exact left_pool rfl rfl hlength hpool.left_le
  | signal hcall hrest hpool =>
    refine left_call hcall rfl rfl hlength hpool.left_le ?_
    exact Nat.lt_succ_self _
  | startCheck hcontrol =>
    refine left_control_alone hcontrol rfl rfl rfl ?_
    rcases runtime.startCheck_cases with ⟨status, -, hnew⟩ | ⟨-, hnew⟩ <;>
      simp only [hnew, Control.left] <;> omega
  | startLoad hcontrol =>
    obtain ⟨σ, hloaded, hnew⟩ := runtime.startLoad_cases
    refine left_control_alone hcontrol (by rw [hloaded]; rfl) (by rw [hloaded]; rfl)
      (by rw [hloaded]; rfl) ?_
    rcases hnew with ⟨status, -, hnew⟩ | hnew <;> simp only [hnew, Control.left] <;> omega
  | startInline hcontrol | startRefused hcontrol | startMark hcontrol | stopIdle hcontrol
  | cancelIdle hcontrol | persist hcontrol | skipPersist hcontrol | stopClear hcontrol =>
    refine left_control_alone hcontrol rfl rfl rfl ?_
    simp only [Control.left]
    omega
  | spawn hcontrol _ hpool | stopDrain hcontrol _ hpool | cancelDrain hcontrol _ hpool
  | stopHalt hcontrol hpool | cancelHalt hcontrol hpool =>
    refine left_control hcontrol rfl rfl hlength hpool.left_le ?_
    simp only [Control.left, PoolAction.supplies, PoolAction.settles, Bool.toNat_false,
      Bool.toNat_true]
    omega

theorem Step.left_request {runtime runtime' : Runtime} {action : Action}
    (h : Step runtime action runtime') (hrequest : action.request = true) :
    runtime'.left ≤ runtime.left + action.worth runtime.pool.workers.length := by
  cases h with
  | call =>
    simp only [left, weight_append, weight_cons, weight_nil, CallPhase.left, Action.worth]
    omega
  | enter hcontrol =>
    rename_i control
    have hcost : control.left runtime.pool.workers.length ≤
        3 * runtime.pool.workers.length + 6 := by
      simp only [List.mem_cons, List.not_mem_nil, or_false] at hcontrol
      rcases hcontrol with rfl | rfl | rfl <;> simp only [Control.left] <;> omega
    simp only [left, weight_append, weight_cons, weight_nil, Action.worth]
    omega
  | _ => cases hrequest

theorem make_left (options : LifecycleConfig) (config : RuntimeConfig) (files : FileSystem) :
    (make options config files).left = 0 := by
  have hidle : weight Worker.left (make options config files).pool.workers = 0 := by
    apply weight_eq_zero.2
    intro worker hmem
    rw [List.eq_of_mem_replicate hmem]
    rfl
  simp only [left, WorkerPool.left, hidle]
  rfl

/-- The steps of a run and those that it still has left are within what its requests brought in. -/
theorem run_left {options : LifecycleConfig} {config : RuntimeConfig} {files : FileSystem}
    {runtime : Runtime} (h : Run Step (make options config files) labels runtime) :
    runtime.left + labels.countP (!·.request) ≤
      weight (Action.worth runtime.pool.workers.length) labels := by
  apply Run.invariant (fun labels runtime => runtime.left + labels.countP (!·.request) ≤
    weight (Action.worth runtime.pool.workers.length) labels) h
  · rw [make_left]
    exact Nat.le_refl 0
  · intro labels runtime action runtime' hrun ih hstep
    have hworkers : runtime.lifecycle.workers ≤ runtime.pool.workers.length := by
      have hkept := run_kept hrun
      rw [hkept.options, hkept.workers]
      split <;> omega
    rw [hstep.workers, List.countP_append, weight_append, weight_cons, weight_nil,
      List.countP_singleton]
    cases hrequest : action.request with
    | true =>
      have hleft := hstep.left_request hrequest
      simp only [Bool.not_true, Bool.false_eq_true, if_false]
      omega
    | false =>
      have hleft := hstep.left_lt hworkers hrequest
      simp only [Bool.not_false, if_true]
      omega

end Runtime

end LinkObservatory
