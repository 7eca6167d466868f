import LinkObservatory.WorkerPool
import LinkObservatory.Restart
import LinkObservatory.Rotation

namespace LinkObservatory
set_option autoImplicit true

/-- The fields of `RuntimeConfig` that only the lifecycle reads. -/
structure LifecycleConfig where
  restoreOnStart : Bool := true
  persistOnStop : Bool := true
  workers : Nat := 1
  queueDepth : Nat := 1024
deriving DecidableEq, Repr, Inhabited

def validateConfig (lifecycle : LifecycleConfig) (config : RuntimeConfig) : Status :=
  if lifecycle.workers > config.policy.limits.maxWorkers.toNat then
    .of .outOfRange "worker count exceeds the configured bound"
  else if lifecycle.queueDepth = 0 then .of .invalidArgument "queue depth must be positive"
  else if config.runtimeName = [] ∨ config.runtimeName.length > 128 then
    .of .invalidArgument "runtime name must be 1..128 bytes"
  else if config.incarnationName = [] ∨ config.incarnationName.length > 128 then
    .of .invalidArgument "incarnation name must be 1..128 bytes"
  else if config.families.enabled = 0 then
    .of .invalidArgument "every metric family is disabled"
  else config.policy.validate

/-- FNV-1a 64 over the source name. -/
def routeHash (name : Bytes) : UInt64 :=
  name.foldl (fun hash byte => (hash ^^^ byte.toUInt64) * 0x100000001b3) 0xcbf29ce484222325

def routeOf (workers : Nat) (name : Bytes) : Nat := (routeHash name).toNat % workers

/-- The worker that an observation is routed to; declarations are not routed. -/
def ParsedRecord.route (workers : Nat) : ParsedRecord → Option Nat
  | .observation declaration => some (routeOf workers declaration.source)
  | _ => Option.none

/-- The records of one submitted batch that go to one queue. -/
structure Part where
  call : Nat
  records : List ParsedRecord
deriving DecidableEq, Repr

def declarationsOf (workers : Nat) (batch : List ParsedRecord) : List ParsedRecord :=
  batch.filter fun record => record.route workers = none

def recordsFor (workers : Nat) (batch : List ParsedRecord) (route : Nat) : List ParsedRecord :=
  batch.filter fun record => record.route workers = some route

/-- The routed parts of a batch by ascending route, as the source's map holds them. A route
without records has no entry. -/
def partsOf (workers call : Nat) (batch : List ParsedRecord) : List (Nat × Part) :=
  (List.range workers).filterMap fun route =>
    let records := recordsFor workers batch route
    if records = [] then none else some (route, ⟨call, records⟩)

/-- Where a call of `submit_batch` is. The parts are those it still has to submit. -/
inductive CallPhase
  | entered
  | inlined
  | declaring (declarations : List ParsedRecord) (parts : List (Nat × Part))
  | arriving (parts : List (Nat × Part))
  | completing (parts : List (Nat × Part))
  | routing (parts : List (Nat × Part))
  | pushing (index : Nat) (part : Part) (parts : List (Nat × Part))
  | returned (status : Status)
deriving DecidableEq, Repr

/-- A call of `submit_batch` with the countdown that its parts share. -/
structure Call where
  batch : List ParsedRecord
  remaining : Nat := 0
  phase : CallPhase := .entered
deriving DecidableEq, Repr

/-- What the call does once it has seen that the runtime is started. -/
def Call.enter (call : Call) (workers ticket : Nat) : Call :=
  if workers = 0 then { call with phase := .inlined }
  else
    let declarations := declarationsOf workers call.batch
    let parts := partsOf workers ticket call.batch
    let partCount := parts.length + if declarations = [] then 0 else 1
    { call with
      remaining := partCount
      phase := if partCount = 0 then .completing []
        else if declarations = [] then .routing parts
        else .declaring declarations parts }

/-- One arrival at the countdown: whether it was the last one. -/
def Call.arrive (call : Call) : Call × Bool :=
  ({ call with remaining := call.remaining - 1 }, call.remaining = 1)

/-- Where a call of `start`, `stop` or `cancel` is. -/
inductive Control
  | startEntered
  | startLoading
  | startSpawning
  | startMarking
  | started (status : Status)
  | stopEntered
  | stopDraining
  | stopPersisting
  | stopClearing (status : Status)
  | stopped (status : Status)
  | cancelEntered
  | cancelDraining
  | cancelled
deriving DecidableEq, Repr

def Control.returned : Control → Bool
  | started _ | stopped _ | cancelled => true
  | _ => false

/-- An observatory with its threads. Without workers the source has no pool; this one is then
never started. -/
structure Runtime where
  lifecycle : LifecycleConfig
  observatory : Observatory
  files : FileSystem
  started : Bool := false
  pool : WorkerPool Part (Option Nat)
  calls : List Call := []
  controls : List Control := []

/-- One atomic step: a critical section, or a call into a completion. -/
inductive Action
  | call (batch : List ParsedRecord)
  | check (call : Nat)
  | apply (call : Nat) (records : List (ParsedRecord × TimePoint))
  | arrive (call : Nat)
  | complete (call : Nat)
  | submit (call : Nat) (action : PoolAction Part (Option Nat))
  | leave (call : Nat)
  | work (action : PoolAction Part (Option Nat))
  | handle (index : Nat) (part : Part) (records : List (ParsedRecord × TimePoint))
  | enter (control : Control)
  | advance (control : Nat)
  | manage (control : Nat) (action : PoolAction Part (Option Nat))
  | persist (control : Nat) (contents : SnapshotContents)

/-- What an action does to the pool. -/
def Action.pool : Action → Option (PoolAction Part (Option Nat))
  | submit _ action | work action | manage _ action => some action
  | handle index part _ => some (.handle index part)
  | _ => none

/-- The critical section of `apply_batch` and of the handler that `start` gives to the workers. -/
def Observatory.applyBatch (σ : Observatory) (records : List (ParsedRecord × TimePoint)) :
    Observatory :=
  { σ with stats.batchesProcessed := σ.stats.batchesProcessed + 1 }.applyAll records

namespace Runtime

def make (lifecycle : LifecycleConfig) (config : RuntimeConfig) (files : FileSystem) : Runtime :=
  { lifecycle := lifecycle
    observatory := .fresh config
    files := files
    pool := .make lifecycle.workers lifecycle.queueDepth }

def setCall (runtime : Runtime) (ticket : Nat) (call : Call) : Runtime :=
  { runtime with calls := runtime.calls.set ticket call }

def setControl (runtime : Runtime) (ticket : Nat) (control : Control) : Runtime :=
  { runtime with controls := runtime.controls.set ticket control }

/-- The pool of the runtime is there and not running. -/
def PoolIdle (runtime : Runtime) : Prop :=
  runtime.lifecycle.workers = 0 ∨
    runtime.pool.lifecycle = .free ∧ runtime.pool.running = false

def persists (runtime : Runtime) : Bool :=
  runtime.lifecycle.persistOnStop && runtime.observatory.config.snapshotPath != ""

def restores (runtime : Runtime) : Bool :=
  runtime.lifecycle.restoreOnStart && runtime.observatory.config.snapshotPath != ""

/-- What `start` does before it loads. -/
def startCheck (runtime : Runtime) : Control :=
  let valid := validateConfig runtime.lifecycle runtime.observatory.config
  if !valid.ok then .started valid
  else if runtime.started then .started (.of .alreadyExists "observatory is already started")
  else .startLoading

/-- The snapshot is loaded where one is configured; only its absence is no failure. -/
def startLoad (runtime : Runtime) : Runtime × Control :=
  if runtime.restores then
    let loaded := runtime.observatory.reload runtime.files
    ({ runtime with observatory := loaded.1 },
      if !loaded.2.ok && loaded.2.code != .notFound then .started loaded.2 else .startSpawning)
  else (runtime, .startSpawning)

/-- The steps of the runtime's threads: the callers of `submit_batch`, the workers, and the
callers of `start`, `stop` and `cancel`. -/
inductive Step : Runtime → Action → Runtime → Prop
  | call {runtime : Runtime} :
      Step runtime (.call batch) { runtime with calls := runtime.calls ++ [{ batch := batch }] }
  | checkRefused {runtime : Runtime} (hcall : runtime.calls[ticket]? = some call)
      (hphase : call.phase = .entered) (hstarted : runtime.started = false) :
      Step runtime (.check ticket) (runtime.setCall ticket
        { call with phase := .returned (.of .cancelled "observatory is not started") })
  | check {runtime : Runtime} (hcall : runtime.calls[ticket]? = some call)
      (hphase : call.phase = .entered) (hstarted : runtime.started = true) :
      Step runtime (.check ticket)
        (runtime.setCall ticket (call.enter runtime.lifecycle.workers ticket))
  | applyInline {runtime : Runtime} (hcall : runtime.calls[ticket]? = some call)
      (hphase : call.phase = .inlined) (hrecords : records.map Prod.fst = call.batch) :
      Step runtime (.apply ticket records)
        { runtime.setCall ticket { call with phase := .completing [] } with
          observatory := runtime.observatory.applyBatch records }
  | applyDeclarations {runtime : Runtime} (hcall : runtime.calls[ticket]? = some call)
      (hphase : call.phase = .declaring declarations parts)
      (hrecords : records.map Prod.fst = declarations) :
      Step runtime (.apply ticket records)
        { runtime.setCall ticket { call with phase := .arriving parts } with
          observatory := runtime.observatory.applyBatch records }
  | arrive {runtime : Runtime} (hcall : runtime.calls[ticket]? = some call)
      (hphase : call.phase = .arriving parts) :
      Step runtime (.arrive ticket) (runtime.setCall ticket
        { call.arrive.1 with
          phase := if call.arrive.2 then .completing parts else .routing parts })
  | complete {runtime : Runtime} (hcall : runtime.calls[ticket]? = some call)
      (hphase : call.phase = .completing parts) :
      Step runtime (.complete ticket) (runtime.setCall ticket { call with phase := .routing parts })
  | enlist {runtime : Runtime} (hcall : runtime.calls[ticket]? = some call)
      (hphase : call.phase = .routing ((route, part) :: parts))
      (hpool : runtime.pool.Step (.enlist route part) pool') :
      Step runtime (.submit ticket (.enlist route part))
        { runtime.setCall ticket
            { call with phase := .pushing (route % runtime.pool.workers.length) part parts } with
          pool := pool' }
  | deny {runtime : Runtime} (hcall : runtime.calls[ticket]? = some call)
      (hphase : call.phase = .routing (routed :: parts))
      (hfree : runtime.pool.lifecycle = .free) (hidle : runtime.pool.running = false) :
      Step runtime (.leave ticket) (runtime.setCall ticket
        { call with phase := .returned (.of .cancelled "worker pool is not running") })
  | push {runtime : Runtime} (hcall : runtime.calls[ticket]? = some call)
      (hphase : call.phase = .pushing index part parts)
      (hpool : runtime.pool.Step (.push index part) pool') :
      Step runtime (.submit ticket (.push index part))
        { runtime.setCall ticket { call with phase := .routing parts } with pool := pool' }
  | refuse {runtime : Runtime} (hcall : runtime.calls[ticket]? = some call)
      (hphase : call.phase = .pushing index part parts)
      (hpool : runtime.pool.Step (.refuse index part) pool') :
      Step runtime (.submit ticket (.refuse index part))
        { runtime.setCall ticket
            { call with phase := .returned (.of .cancelled "worker pool queue is closed") } with
          pool := pool' }
  | leave {runtime : Runtime} (hcall : runtime.calls[ticket]? = some call)
      (hphase : call.phase = .routing []) :
      Step runtime (.leave ticket)
        (runtime.setCall ticket { call with phase := .returned .success })
  | pop {runtime : Runtime} (hpool : runtime.pool.Step (.pop index part) pool') :
      Step runtime (.work (.pop index part)) { runtime with pool := pool' }
  | exit {runtime : Runtime} (hpool : runtime.pool.Step (.exit index) pool') :
      Step runtime (.work (.exit index)) { runtime with pool := pool' }
  | handle {runtime : Runtime} (hpool : runtime.pool.Step (.handle index part) pool')
      (hrecords : records.map Prod.fst = part.records) :
      Step runtime (.handle index part records)
        { runtime with
          pool := pool'
          observatory := runtime.observatory.applyBatch records }
  | signal {runtime : Runtime} (hcall : runtime.calls[part.call]? = some call)
      (hrest : (if call.arrive.2 then some part.call else none) = rest)
      (hpool : runtime.pool.Step (.signal index part rest) pool') :
      Step runtime (.work (.signal index part rest))
        { runtime.setCall part.call call.arrive.1 with pool := pool' }
  | finish {runtime : Runtime} (hpool : runtime.pool.Step (.finish index rest) pool') :
      Step runtime (.work (.finish index rest)) { runtime with pool := pool' }
  | enter {runtime : Runtime} {control : Control}
      (hcontrol : control ∈ [Control.startEntered, .stopEntered, .cancelEntered]) :
      Step runtime (.enter control) { runtime with controls := runtime.controls ++ [control] }
  | startCheck {runtime : Runtime} (hcontrol : runtime.controls[ticket]? = some .startEntered) :
      Step runtime (.advance ticket) (runtime.setControl ticket runtime.startCheck)
  | startLoad {runtime : Runtime} (hcontrol : runtime.controls[ticket]? = some .startLoading) :
      Step runtime (.advance ticket) (runtime.startLoad.1.setControl ticket runtime.startLoad.2)
  | startInline {runtime : Runtime} (hcontrol : runtime.controls[ticket]? = some .startSpawning)
      (hworkers : runtime.lifecycle.workers = 0) :
      Step runtime (.advance ticket) (runtime.setControl ticket .startMarking)
  | startRefused {runtime : Runtime} (hcontrol : runtime.controls[ticket]? = some .startSpawning)
      (hworkers : runtime.lifecycle.workers ≠ 0) (hfree : runtime.pool.lifecycle = .free)
      (hrunning : runtime.pool.running = true) :
      Step runtime (.advance ticket) (runtime.setControl ticket
        (.started (.of .alreadyExists "worker pool is already running")))
  | spawn {runtime : Runtime} (hcontrol : runtime.controls[ticket]? = some .startSpawning)
      (hworkers : runtime.lifecycle.workers ≠ 0) (hpool : runtime.pool.Step .start pool') :
      Step runtime (.manage ticket .start)
        { runtime.setControl ticket .startMarking with pool := pool' }
  | startMark {runtime : Runtime} (hcontrol : runtime.controls[ticket]? = some .startMarking) :
      Step runtime (.advance ticket)
        { runtime.setControl ticket (.started .success) with started := true }
  | stopIdle {runtime : Runtime} (hcontrol : runtime.controls[ticket]? = some .stopEntered)
      (hidle : runtime.PoolIdle) :
      Step runtime (.advance ticket) (runtime.setControl ticket .stopPersisting)
  | stopDrain {runtime : Runtime} (hcontrol : runtime.controls[ticket]? = some .stopEntered)
      (hworkers : runtime.lifecycle.workers ≠ 0)
      (hpool : runtime.pool.Step (.shutdown false) pool') :
      Step runtime (.manage ticket (.shutdown false))
        { runtime.setControl ticket .stopDraining with pool := pool' }
  | cancelIdle {runtime : Runtime} (hcontrol : runtime.controls[ticket]? = some .cancelEntered)
      (hidle : runtime.PoolIdle) :
      Step runtime (.advance ticket) (runtime.setControl ticket .cancelled)
  | cancelDrain {runtime : Runtime} (hcontrol : runtime.controls[ticket]? = some .cancelEntered)
      (hworkers : runtime.lifecycle.workers ≠ 0)
      (hpool : runtime.pool.Step (.shutdown true) pool') :
      Step runtime (.manage ticket (.shutdown true))
        { runtime.setControl ticket .cancelDraining with pool := pool' }
  | close {runtime : Runtime} {control : Control}
      (hcontrol : runtime.controls[ticket]? = some control)
      (hdraining : control = .stopDraining ∨ control = .cancelDraining)
      (hpool : runtime.pool.Step (.close index) pool') :
      Step runtime (.manage ticket (.close index)) { runtime with pool := pool' }
  | discard {runtime : Runtime} {control : Control}
      (hcontrol : runtime.controls[ticket]? = some control)
      (hdraining : control = .stopDraining ∨ control = .cancelDraining)
      (hpool : runtime.pool.Step (.discard index parts) pool') :
      Step runtime (.manage ticket (.discard index parts)) { runtime with pool := pool' }
  | join {runtime : Runtime} {control : Control}
      (hcontrol : runtime.controls[ticket]? = some control)
      (hdraining : control = .stopDraining ∨ control = .cancelDraining)
      (hpool : runtime.pool.Step (.join index) pool') :
      Step runtime (.manage ticket (.join index)) { runtime with pool := pool' }
  | stopHalt {runtime : Runtime} (hcontrol : runtime.controls[ticket]? = some .stopDraining)
      (hpool : runtime.pool.Step .halt pool') :
      Step runtime (.manage ticket .halt)
        { runtime.setControl ticket .stopPersisting with pool := pool' }
  | cancelHalt {runtime : Runtime} (hcontrol : runtime.controls[ticket]? = some .cancelDraining)
      (hpool : runtime.pool.Step .halt pool') :
      Step runtime (.manage ticket .halt)
        { runtime.setControl ticket .cancelled with pool := pool' }
  | persist {runtime : Runtime} (hcontrol : runtime.controls[ticket]? = some .stopPersisting)
      (hpersists : runtime.persists = true)
      (hwrite : (writeSnapshot runtime.observatory.config.snapshotPath
        (runtime.observatory.collectSnapshot now) runtime.observatory.config.policy faults).run
          runtime.files = (some result, left)) :
      Step runtime (.persist ticket (runtime.observatory.collectSnapshot now))
        { runtime.setControl ticket (.stopClearing result.status) with files := left }
  | skipPersist {runtime : Runtime} (hcontrol : runtime.controls[ticket]? = some .stopPersisting)
      (hpersists : runtime.persists = false) :
      Step runtime (.advance ticket) (runtime.setControl ticket (.stopClearing .success))
  | stopClear {runtime : Runtime}
      (hcontrol : runtime.controls[ticket]? = some (.stopClearing status)) :
      Step runtime (.advance ticket)
        { runtime.setControl ticket (.stopped status) with started := false }

theorem Step.checked {runtime : Runtime} {call new : Call}
    (hcall : runtime.calls[ticket]? = some call) (hphase : call.phase = .entered)
    (hstarted : runtime.started = true)
    (hnew : call.enter runtime.lifecycle.workers ticket = new) :
    Step runtime (.check ticket) (runtime.setCall ticket new) :=
  hnew ▸ .check hcall hphase hstarted

theorem Step.pool {runtime runtime' : Runtime} {action : Action}
    (h : Step runtime action runtime') :
    (action.pool = none ∧ runtime'.pool = runtime.pool) ∨
      ∃ step, action.pool = some step ∧ runtime.pool.Step step runtime'.pool := by
  cases h with
  | enlist _ _ hpool | push _ _ hpool | refuse _ _ hpool | pop hpool | exit hpool | handle hpool _
  | signal _ _ hpool | finish hpool | spawn _ _ hpool | stopDrain _ _ hpool | cancelDrain _ _ hpool
  | close _ _ hpool | discard _ _ hpool | join _ _ hpool | stopHalt _ hpool | cancelHalt _ hpool =>
    exact .inr ⟨_, rfl, hpool⟩
  | startLoad =>
    refine .inl ⟨rfl, ?_⟩
    unfold Runtime.startLoad
    split <;> rfl
  | _ => exact .inl ⟨rfl, rfl⟩

theorem Step.startChecked {runtime : Runtime}
    (hcontrol : runtime.controls[ticket]? = some .startEntered)
    (hvalid : (validateConfig runtime.lifecycle runtime.observatory.config).ok = true)
    (hstarted : runtime.started = false) :
    Step runtime (.advance ticket) (runtime.setControl ticket .startLoading) := by
  have hstep := Step.startCheck hcontrol
  rwa [Runtime.startCheck, hvalid, hstarted] at hstep

theorem Step.startLoaded {runtime : Runtime}
    (hcontrol : runtime.controls[ticket]? = some .startLoading)
    (hnew : runtime.restores = false) :
    Step runtime (.advance ticket) (runtime.setControl ticket .startSpawning) := by
  have hstep := Step.startLoad hcontrol
  rwa [Runtime.startLoad, hnew, if_neg (by simp)] at hstep

/-- A new runtime after a `start` that had no snapshot to load. -/
def begun (lifecycle : LifecycleConfig) (config : RuntimeConfig) (files : FileSystem) : Runtime :=
  { make lifecycle config files with
    started := true
    pool := if lifecycle.workers = 0 then .make lifecycle.workers lifecycle.queueDepth
      else (WorkerPool.make lifecycle.workers lifecycle.queueDepth).spawned
    controls := [.started .success] }

def startLabels (lifecycle : LifecycleConfig) : List Action :=
  [.enter .startEntered, .advance 0, .advance 0,
    if lifecycle.workers = 0 then .advance 0 else .manage 0 .start, .advance 0]

/-- The run of a first `start`, for any relation that holds of its steps. -/
theorem run_begun_of {step : Runtime → Action → Runtime → Prop} {lifecycle : LifecycleConfig}
    {config : RuntimeConfig}
    (hstep : ∀ {runtime action runtime'}, Step runtime action runtime' → runtime.calls = [] →
      (∀ control, action = .enter control → control = .startEntered ∧ runtime.controls = []) →
      step runtime action runtime')
    (hvalid : (validateConfig lifecycle config).ok = true)
    (hsnapshot : lifecycle.restoreOnStart = false ∨ config.snapshotPath = "") (files : FileSystem) :
    Labelled.Run step (make lifecycle config files) (startLabels lifecycle)
      (begun lifecycle config files) := by
  let waiting (control : Control) : Runtime :=
    { make lifecycle config files with controls := [control] }
  have hentered : step (make lifecycle config files) (.enter .startEntered)
      (waiting .startEntered) :=
    hstep (.enter (by simp)) rfl fun control heq => ⟨by simpa using heq.symm, rfl⟩
  have hchecked : step (waiting .startEntered) (.advance 0) (waiting .startLoading) :=
    hstep (.startChecked rfl hvalid rfl) rfl (by simp)
  have hrestores : (waiting .startLoading).restores = false := by
    rcases hsnapshot with hoff | hpath
    · simp [waiting, restores, make, hoff]
    · simp [waiting, restores, make, Observatory.fresh, hpath]
  have hloaded : step (waiting .startLoading) (.advance 0) (waiting .startSpawning) :=
    hstep (.startLoaded rfl hrestores) rfl (by simp)
  unfold startLabels begun
  refine .cons hentered (.cons hchecked (.cons hloaded ?_))
  split
  · rename_i hworkers
    exact .cons (hstep (.startInline rfl hworkers) rfl (by simp))
      (.cons (hstep (.startMark rfl) rfl (by simp)) .nil)
  · rename_i hworkers
    exact .cons (hstep (.spawn rfl hworkers (.start rfl rfl)) rfl (by simp))
      (.cons (hstep (.startMark rfl) rfl (by simp)) .nil)

end Runtime

end LinkObservatory
