import LinkObservatory.Completion

namespace LinkObservatory
set_option autoImplicit true

open Labelled

/-- The observations of one source. -/
def recordsOf (name : Bytes) (records : List ParsedRecord) : List ParsedRecord :=
  records.filter fun
    | .observation declaration => declaration.source = name
    | _ => false

/-- The observations of one source in some routed parts. -/
def partsFrom (name : Bytes) (parts : List (Nat × Part)) : List ParsedRecord :=
  parts.flatMap fun pair => recordsOf name pair.2.records

/-- The observations of one source, in the order in which the queues accepted them. -/
def acceptedFrom (name : Bytes) (labels : List Action) : List ParsedRecord :=
  partsFrom name (pushes (poolLabels labels))

/-- The observations of one source in the parts that the workers took, in their order. -/
def handledFrom (name : Bytes) (labels : List Action) : List ParsedRecord :=
  partsFrom name (handles (poolLabels labels))

/-- The observations of one source that a change applies. -/
def Change.appliedFrom (name : Bytes) : Change → List ParsedRecord
  | batch _ _ records => recordsOf name (records.map Prod.fst)
  | load _ => []

/-- The observations of one source, in the order in which they were applied to the observatory. -/
def appliedFrom (name : Bytes) (changes : List Change) : List ParsedRecord :=
  changes.flatMap (Change.appliedFrom name)

/-- No shutdown of the pool was a cancellation. -/
def Uncancelled (labels : List (PoolAction β γ)) : Prop := .shutdown true ∉ labels

def Lifecycle.cancelling : Lifecycle → Bool
  | closing cancel _ => cancel
  | discarding _ => true
  | _ => false

namespace WorkerPool

/-- Without a cancellation no batch is discarded. -/
structure Keeps (labels : List (PoolAction β γ)) (pool : WorkerPool β γ) : Prop where
  lifecycle : pool.lifecycle.cancelling = false
  discarded : ∀ index batches, .discard index batches ∉ labels
  abandoned : ∀ worker ∈ pool.workers, worker.queue.abandoned = 0

theorem Keeps.step {pool pool' : WorkerPool β γ} {action : PoolAction β γ} (h : pool.Keeps labels)
    (hstep : Step pool action pool') (haction : action ≠ .shutdown true) :
    pool'.Keeps (labels ++ [action]) := by
  have hlifecycle := h.lifecycle
  have hkept : ∀ index batches, action ≠ .discard index batches := by
    rintro index batches rfl
    cases hstep with
    | discard hdiscarding hworker hitems =>
      rw [hdiscarding] at hlifecycle
      cases hlifecycle
  refine ⟨?_, fun index batches hmem => ?_, fun new hmem => ?_⟩
  · cases hstep with
    | shutdown hfree hrunning =>
      rename_i cancel
      cases cancel with
      | true => exact absurd rfl haction
      | false => rfl
    | close hclosing hworker =>
      rename_i cancel index worker
      rw [hclosing] at hlifecycle
      have hstop : cancel = false := hlifecycle
      simp only [hstop, Bool.false_eq_true, if_false, afterClose]
      split <;> rfl
    | discard hdiscarding hworker hitems => exact absurd rfl (hkept _ _)
    | join | halt => rfl
    | _ => exact hlifecycle
  · rcases List.mem_append.1 hmem with hmem | hmem
    · exact h.discarded index batches hmem
    · exact hkept index batches (List.mem_singleton.1 hmem).symm
  · obtain ⟨index, hnew⟩ := List.getElem?_of_mem hmem
    obtain ⟨worker, hworker, hqueue⟩ := hstep.queue hnew
    have habandoned := h.abandoned worker (List.mem_of_getElem? hworker)
    rcases hqueue with hqueue | ⟨batch, -, hpush⟩ | ⟨batch, -, hpop⟩ | ⟨-, hqueue⟩ |
      ⟨batches, hdiscard, -⟩
    · rw [hqueue, habandoned]
    · rw [(BoundedQueue.push_true hpush).2.2]
      exact habandoned
    · rw [(BoundedQueue.pop_some hpop).2]
      exact habandoned
    · rw [hqueue]
      exact habandoned
    · exact absurd hdiscard (hkept index batches)

theorem run_keeps {pool : WorkerPool β γ}
    (h : Run Step (make workerCount queueCapacity) labels pool) (hlabels : Uncancelled labels) :
    pool.Keeps labels := by
  revert hlabels
  refine Run.invariant (fun labels pool => Uncancelled labels → pool.Keeps labels) h (fun _ => ?_)
    fun _ hinv hstep hlabels => ?_
  · refine ⟨rfl, by simp, fun worker hmem => ?_⟩
    rw [List.eq_of_mem_replicate hmem]
    rfl
  · have hboth := not_or.1 (fun hor => hlabels (List.mem_append.2 hor))
    exact (hinv hboth.1).step hstep fun haction => hboth.2 (List.mem_singleton.2 haction.symm)

/-- Every thread has been joined. -/
def Joined (pool : WorkerPool β γ) : Prop :=
  pool.running = false ∨ pool.lifecycle = .joining pool.workers.length

theorem run_undiscarded {pool : WorkerPool β γ} {index : Nat}
    (h : Run Step (make workerCount queueCapacity) labels pool) (hlabels : Uncancelled labels) :
    discardedAt index labels = [] :=
  (discardedAt_eq_nil index labels).2 fun batches hmem =>
    absurd hmem ((run_keeps h hlabels).discarded index batches)

theorem run_prefix {pool : WorkerPool β γ} {index : Nat}
    (h : Run Step (make workerCount queueCapacity) labels pool) (hlabels : Uncancelled labels)
    (hlt : index < pool.workers.length) : handledAt index labels <+: acceptedAt index labels := by
  have hflow := (run_sound h).2 index _ (List.getElem?_eq_getElem hlt)
  rw [hflow.accepted, hflow.popped, run_undiscarded h hlabels, List.append_nil, List.append_assoc]
  exact List.prefix_append _ _

theorem run_joined {pool : WorkerPool β γ}
    (h : Run Step (make workerCount queueCapacity) labels pool) (hlabels : Uncancelled labels)
    (hjoined : pool.Joined) (hlt : index < pool.workers.length) :
    acceptedAt index labels = handledAt index labels := by
  obtain ⟨hsound, hflows⟩ := run_sound h
  have hworker := List.getElem?_eq_getElem hlt
  have hflow := hflows index _ hworker
  have hgone : pool.workers[index].thread = .absent ∧ pool.workers[index].queue.items = [] := by
    rcases hjoined with hquiet | hjoining
    · exact hsound.quiescent hquiet _ (List.mem_of_getElem? hworker)
    · have hphase := hsound.phase index _ hworker
      rw [hjoining] at hphase
      exact hphase.2.2 hlt
  rw [hflow.accepted, hflow.popped, run_undiscarded h hlabels, hgone.1, hgone.2]
  simp [WorkerThread.unhandled]

theorem run_shut {start pool : WorkerPool β γ} {index : Nat} (h : Run Step start labels pool)
    (hshut : ∀ worker, start.workers[index]? = some worker → worker.queue.closed = true) :
    acceptedAt index labels = [] ∧
      ∀ worker, pool.workers[index]? = some worker → worker.queue.closed = true := by
  refine Run.invariant (fun labels pool => acceptedAt index labels = [] ∧
    ∀ worker, pool.workers[index]? = some worker → worker.queue.closed = true) h ⟨rfl, hshut⟩ ?_
  rintro labels pool action pool' - ⟨haccepted, hclosed⟩ hstep
  refine ⟨?_, fun new hnew => ?_⟩
  · rw [acceptedAt, List.filterMap_append, ← acceptedAt, haccepted, List.nil_append]
    cases hstep with
    | push hadmitted hworker hpush =>
      rename_i site batch after worker queue
      by_cases heq : site = index
      · subst heq
        have hopen := (BoundedQueue.push_true hpush).1
        rw [hclosed worker hworker] at hopen
        cases hopen
      · simp [PoolAction.pushedTo, heq]
    | _ => rfl
  · obtain ⟨worker, hworker, -⟩ := hstep.queue hnew
    exact hstep.closed hworker (hclosed worker hworker) hnew

theorem run_closed {start pool : WorkerPool β γ} {index : Nat}
    (h : Run Step start (before ++ .close index :: after) pool) : acceptedAt index after = [] := by
  obtain ⟨middle, next, -, hstep, hafter⟩ := h.split_cons
  refine (run_shut hafter fun new hnew => ?_).1
  cases hstep with
  | close hclosing hworker =>
    simp only [setWorker, List.getElem?_set_self (List.getElem?_eq_some_iff.1 hworker).1,
      Option.some.injEq] at hnew
    rw [← hnew]
    rfl

end WorkerPool

theorem recordsOf_declarationsOf (workers : Nat) (name : Bytes) (batch : List ParsedRecord) :
    recordsOf name (declarationsOf workers batch) = [] := by
  rw [recordsOf, declarationsOf, List.filter_filter, List.filter_eq_nil_iff]
  intro record _
  cases record <;> simp [ParsedRecord.route]

theorem recordsOf_recordsFor (workers : Nat) (name : Bytes) (batch : List ParsedRecord)
    (route : Nat) :
    recordsOf name (recordsFor workers batch route) =
      if route = routeOf workers name then recordsOf name batch else [] := by
  rw [recordsOf, recordsFor, List.filter_filter]
  split
  · rename_i hroute
    refine List.filter_congr fun record _ => ?_
    cases record with
    | observation declaration =>
      by_cases hname : declaration.source = name <;>
        simp [ParsedRecord.route, hname, hroute]
    | _ => rfl
  · rename_i hroute
    rw [List.filter_eq_nil_iff]
    intro record _
    cases record with
    | observation declaration =>
      by_cases hname : declaration.source = name
      · simp [ParsedRecord.route, hname, Ne.symm hroute]
      · simp [hname]
    | _ => simp

theorem partsFrom_partsOf (hworkers : workers ≠ 0) (name : Bytes) (ticket : Nat)
    (batch : List ParsedRecord) :
    partsFrom name (partsOf workers ticket batch) = recordsOf name batch := by
  have hlt : routeOf workers name < workers := Nat.mod_lt _ (Nat.pos_of_ne_zero hworkers)
  rw [partsFrom, partsOf_flatMap workers ticket batch (recordsOf name) rfl]
  simp only [recordsOf_recordsFor]
  rw [Grouping.flatMap_range_one hlt fun route hne => if_neg hne, if_pos rfl]

theorem Call.Follows.own {call : Call} {entries : Books} (h : call.Follows workers ticket entries) :
    entries.own = [] ∨ entries.own = ownRecords workers call.batch := by
  unfold Follows at h
  split at h
  · exact .inl (by rw [h.2])
  · exact .inl (by rw [h.2.2])
  · exact .inl (by rw [h.2.2.2])
  · exact .inr (by rw [h.2.2.2, ownRecords, if_neg h.1.1])
  · exact .inr h.1.own
  · exact .inr h.own
  · exact .inr h.own
  · split at h
    · exact .inr h.own
    · rcases h with ⟨-, hbooks⟩ | ⟨parts, -, hsubmits⟩
      · exact .inl (by rw [hbooks])
      · exact .inr hsubmits.own

/-- A call submits its parts in their order, and all of them before it succeeds. -/
theorem Call.Follows.accepted {call : Call} {entries : Books}
    (h : call.Follows workers ticket entries) :
    ∃ left, partsOf workers ticket call.batch = entries.accepted ++ left ∧
      (call.phase = .returned .success → left = []) := by
  by_cases hblank : entries.Blank
  · obtain ⟨own, rfl⟩ := hblank
    refine ⟨_, rfl, fun hphase => ?_⟩
    have hok : Status.success.ok = true := rfl
    simp only [Follows, hphase, hok, if_true] at h
    exact h.parts
  · rcases h.past hblank with ⟨parts, hphase, -, hsubmits⟩ | ⟨parts, hphase, hsubmits⟩ |
      ⟨index, part, parts, hphase, hsubmits⟩ | ⟨status, parts, hphase, hok, hsubmits⟩
    · exact ⟨_, hsubmits.parts, by simp [hphase]⟩
    · exact ⟨_, hsubmits.parts, by simp [hphase]⟩
    · exact ⟨_, hsubmits.parts, by simp [hphase]⟩
    · refine ⟨_, hsubmits.parts, fun hsuccess => hok.1 ?_⟩
      rw [hphase, CallPhase.returned.injEq] at hsuccess
      rw [hsuccess]
      rfl

namespace Runtime

theorem run_pushed {options : LifecycleConfig} {config : RuntimeConfig} {files : FileSystem}
    {runtime : Runtime} (h : Run Step (make options config files) labels runtime)
    (hmem : (index, part) ∈ pushes (poolLabels labels)) :
    ∃ call : Call, runtime.calls[part.call]? = some call ∧
      (index, part) ∈ partsOf options.workers part.call call.batch := by
  have hkept := run_kept h
  have haccepted : (index, part) ∈ (books labels part.call).accepted :=
    List.mem_filter.2 ⟨hmem, by simp⟩
  have hne := List.ne_nil_of_mem haccepted
  by_cases hlt : part.call < runtime.calls.length
  · have hcall := List.getElem?_eq_getElem hlt
    obtain ⟨left, hsubmits⟩ := (hkept.calls _ _ hcall).submits (Books.not_blank hne)
    exact ⟨_, hcall, by rw [hsubmits.parts]; exact List.mem_append_left _ haccepted⟩
  · exact absurd (by rw [hkept.unused _ (Nat.le_of_not_lt hlt)]) hne

theorem run_pushed_route {options : LifecycleConfig} {config : RuntimeConfig} {files : FileSystem}
    {runtime : Runtime} (h : Run Step (make options config files) labels runtime)
    (hmem : (index, part) ∈ pushes (poolLabels labels)) (hname : recordsOf name part.records ≠ []) :
    index = routeOf options.workers name := by
  obtain ⟨call, -, hpart⟩ := run_pushed h hmem
  rw [(mem_partsOf.1 hpart).2.2, recordsOf_recordsFor] at hname
  by_contra hne
  exact hname (if_neg hne)

theorem run_handled_mem {options : LifecycleConfig} {config : RuntimeConfig} {files : FileSystem}
    {runtime : Runtime} (h : Run Step (make options config files) labels runtime)
    (hmem : (index, part) ∈ handles (poolLabels labels)) :
    (index, part) ∈ pushes (poolLabels labels) := by
  obtain ⟨unhandled, hpushes⟩ := WorkerPool.run_pushes (run_pool h)
  exact hpushes.mem_iff.2 (List.mem_append_left _ hmem)

theorem partsFrom_group {options : LifecycleConfig} {config : RuntimeConfig} {files : FileSystem}
    {runtime : Runtime} (h : Run Step (make options config files) labels runtime) (name : Bytes)
    {parts : List (Nat × Part)} {found : List Part}
    (hparts : ∀ pair ∈ parts, pair ∈ pushes (poolLabels labels))
    (hfound : Grouping.group (fun pair => some pair.1) parts (routeOf options.workers name) =
      found.map (Prod.mk (routeOf options.workers name))) :
    partsFrom name parts = found.flatMap fun part => recordsOf name part.records := by
  have hgroup : partsFrom name (found.map (Prod.mk (routeOf options.workers name))) =
      partsFrom name parts := by
    rw [← hfound]
    refine Grouping.flatMap_group _ _ fun pair hmem hne => ?_
    by_contra hname
    exact hne (congrArg some (run_pushed_route h (hparts pair hmem) hname))
  rw [← hgroup, partsFrom, List.flatMap_map]

theorem run_from {options : LifecycleConfig} {config : RuntimeConfig} {files : FileSystem}
    {runtime : Runtime} (h : Run Step (make options config files) labels runtime) (name : Bytes) :
    acceptedFrom name labels = (acceptedAt (routeOf options.workers name) (poolLabels labels)).flatMap
        (fun part => recordsOf name part.records) ∧
      handledFrom name labels = (handledAt (routeOf options.workers name) (poolLabels labels)).flatMap
        (fun part => recordsOf name part.records) :=
  ⟨partsFrom_group h name (fun _ hmem => hmem) (pushes_group _ _),
    partsFrom_group h name (fun _ hmem => run_handled_mem h hmem) (handles_group _ _)⟩

/-- How the observations of the batches reach the observatory without a cancellation. -/
structure Delivered (options : LifecycleConfig) (config : RuntimeConfig) (labels : List Action)
    (changes : List Change) (runtime : Runtime) : Prop where
  observatory : runtime.observatory = (Observatory.fresh config).undergoAll changes
  routed : options.workers ≠ 0 → ∀ name worker ticket records,
    .batch worker ticket records ∈ changes → recordsOf name (records.map Prod.fst) ≠ [] →
      worker = some (routeOf options.workers name)
  inlined : options.workers = 0 → ∀ (ticket : Nat) (call : Call),
    runtime.calls[ticket]? = some call → call.phase = .returned .success →
      appliedOf changes ticket = call.batch
  submitted : options.workers ≠ 0 → ∀ (ticket : Nat) (call : Call),
    runtime.calls[ticket]? = some call → ∀ name,
      partsFrom name (books labels ticket).accepted <+: recordsOf name call.batch ∧
        (call.phase = .returned .success →
          partsFrom name (books labels ticket).accepted = recordsOf name call.batch)
  ordered : options.workers ≠ 0 → ∀ name, appliedFrom name changes <+: acceptedFrom name labels
  joined : options.workers ≠ 0 → runtime.pool.Joined →
    ∀ name, appliedFrom name changes = acceptedFrom name labels
  bounded : ∀ worker ∈ runtime.pool.workers,
    worker.queue.items.length ≤ worker.queue.capacity
  counted : ∀ worker ∈ runtime.pool.workers,
    worker.queue.pushed = worker.queue.popped + UInt64.ofNat worker.queue.items.length
  closed : ∀ index before after, poolLabels labels = before ++ .close index :: after →
    acceptedAt index after = []

theorem run_callers {options : LifecycleConfig} {config : RuntimeConfig} {files : FileSystem}
    {runtime : Runtime} (h : Run Step (make options config files) labels runtime)
    (hworkers : options.workers ≠ 0) (name : Bytes) (ticket : Nat) :
    recordsOf name (books labels ticket).own = [] := by
  have hkept := run_kept h
  by_cases hlt : ticket < runtime.calls.length
  · rcases (hkept.calls _ _ (List.getElem?_eq_getElem hlt)).own with hown | hown
    · rw [hown]
      rfl
    · rw [hown, ownRecords, if_neg hworkers, recordsOf_declarationsOf]
  · rw [hkept.unused _ (Nat.le_of_not_lt hlt)]
    rfl

theorem run_submitted {options : LifecycleConfig} {config : RuntimeConfig} {files : FileSystem}
    {runtime : Runtime} (h : Run Step (make options config files) labels runtime)
    (hworkers : options.workers ≠ 0) {call : Call} (hcall : runtime.calls[ticket]? = some call)
    (name : Bytes) :
    partsFrom name (books labels ticket).accepted <+: recordsOf name call.batch ∧
      (call.phase = .returned .success →
        partsFrom name (books labels ticket).accepted = recordsOf name call.batch) := by
  obtain ⟨left, hparts, hleft⟩ := ((run_kept h).calls _ _ hcall).accepted
  have hall := partsFrom_partsOf hworkers name ticket call.batch
  rw [hparts, partsFrom, List.flatMap_append] at hall
  refine ⟨⟨_, hall⟩, fun hphase => ?_⟩
  rwa [hleft hphase, List.flatMap_nil, List.append_nil] at hall

theorem run_route_lt {options : LifecycleConfig} {config : RuntimeConfig} {files : FileSystem}
    {runtime : Runtime} (h : Run Step (make options config files) labels runtime)
    (hworkers : options.workers ≠ 0) (name : Bytes) :
    routeOf options.workers name < runtime.pool.workers.length := by
  rw [(run_kept h).workers, if_neg hworkers]
  exact Nat.mod_lt _ (Nat.pos_of_ne_zero hworkers)

theorem run_apply_own {options : LifecycleConfig} {config : RuntimeConfig} {files : FileSystem}
    {runtime : Runtime} {records : List (ParsedRecord × TimePoint)}
    (h : Run Step (make options config files) labels runtime)
    (hworkers : options.workers ≠ 0) (hmem : .apply ticket records ∈ labels) (name : Bytes) :
    recordsOf name (records.map Prod.fst) = [] := by
  have hown := run_callers h hworkers name ticket
  rw [recordsOf, List.filter_eq_nil_iff] at hown ⊢
  intro record hrecord
  apply hown
  exact List.mem_flatMap.2 ⟨_, hmem, by rwa [Action.own, if_pos rfl]⟩

theorem run_appliedFrom {options : LifecycleConfig} {config : RuntimeConfig} {files : FileSystem}
    {runtime : Runtime} {changes : List Change}
    (h : Run (Writes Step) (make options config files, []) labels (runtime, changes))
    (hworkers : options.workers ≠ 0) (name : Bytes) :
    appliedFrom name changes = handledFrom name labels := by
  refine Run.invariant
    (fun labels state => appliedFrom name state.2 = handledFrom name labels) h rfl
    fun {labels before action after} hrun hinv hstep => ?_
  have hnext := run_of_writes (hrun.snoc hstep)
  have hone : appliedFrom name (before.1.changesOf action) =
      partsFrom name (handles (poolLabels [action])) := by
    rcases hstep.1.changes_cases with ⟨ticket, records, rfl, hchanges⟩ |
      ⟨index, part, records, rfl, hrecords, hchanges⟩ | ⟨-, hhandles, hloads⟩
    · have hnone := run_apply_own hnext hworkers
        (List.mem_append_right _ (List.mem_singleton_self _)) name
      rw [hchanges, appliedFrom, List.flatMap_singleton, Change.appliedFrom, hnone]
      rfl
    · simp [hchanges, appliedFrom, Change.appliedFrom, hrecords, partsFrom, poolLabels, Action.pool,
        handles, PoolAction.handled]
    · rw [hhandles]
      refine List.flatMap_eq_nil_iff.2 fun change hmem => ?_
      have hload := (hloads change hmem).1
      cases change with
      | batch => cases hload
      | load => rfl
  rw [hstep.2, appliedFrom, List.flatMap_append, ← appliedFrom, hinv, ← appliedFrom, hone]
  simp only [handledFrom, partsFrom, poolLabels, handles, List.filterMap_append, List.flatMap_append]

theorem run_routed {options : LifecycleConfig} {config : RuntimeConfig} {files : FileSystem}
    {runtime : Runtime} {changes : List Change}
    (h : Run (Writes Step) (make options config files, []) labels (runtime, changes))
    (hworkers : options.workers ≠ 0) (name : Bytes) :
    ∀ worker ticket records, .batch worker ticket records ∈ changes →
      recordsOf name (records.map Prod.fst) ≠ [] → worker = some (routeOf options.workers name) := by
  refine Run.invariant (fun _ state => ∀ worker ticket records,
      Change.batch worker ticket records ∈ state.2 → recordsOf name (records.map Prod.fst) ≠ [] →
        worker = some (routeOf options.workers name)) h (fun _ _ _ hmem => by cases hmem)
    fun {labels before action after} hrun hinv hstep => ?_
  intro worker ticket records hmem hname
  rw [hstep.2] at hmem
  rcases List.mem_append.1 hmem with hmem | hmem
  · exact hinv worker ticket records hmem hname
  have hnext := run_of_writes (hrun.snoc hstep)
  rcases hstep.1.changes_cases with ⟨other, applied, rfl, hchanges⟩ |
    ⟨index, part, applied, rfl, hrecords, hchanges⟩ | ⟨-, -, hloads⟩
  · rw [hchanges] at hmem
    cases List.mem_singleton.1 hmem
    have hnone := run_apply_own hnext hworkers
      (List.mem_append_right _ (List.mem_singleton_self _)) name
    exact absurd hnone hname
  · rw [hchanges] at hmem
    cases List.mem_singleton.1 hmem
    rw [hrecords] at hname
    have hhandled : (index, part) ∈ handles (poolLabels (labels ++ [.handle index part records])) := by
      rw [poolLabels, List.filterMap_append, handles, List.filterMap_append]
      exact List.mem_append_right _ (List.mem_singleton_self _)
    rw [run_pushed_route hnext (run_handled_mem hnext hhandled) hname]
  · cases (hloads _ hmem).1

theorem run_unrouted {options : LifecycleConfig} {config : RuntimeConfig} {files : FileSystem}
    {runtime : Runtime} (h : Run Step (make options config files) labels runtime)
    (hworkers : options.workers = 0) :
    pushes (poolLabels labels) = [] ∧ handles (poolLabels labels) = [] := by
  have hpushes : pushes (poolLabels labels) = [] := List.eq_nil_iff_forall_not_mem.2
    fun pair hmem => by
      obtain ⟨call, -, hpart⟩ := run_pushed h hmem
      rw [hworkers, partsOf_zero] at hpart
      cases hpart
  refine ⟨hpushes, List.eq_nil_iff_forall_not_mem.2 fun pair hmem => ?_⟩
  have hpushed := run_handled_mem h hmem
  rw [hpushes] at hpushed
  cases hpushed

theorem run_inlined {options : LifecycleConfig} {config : RuntimeConfig} {files : FileSystem}
    {runtime : Runtime} (h : Run Step (make options config files) labels runtime)
    (hworkers : options.workers = 0) {call : Call} (hcall : runtime.calls[ticket]? = some call)
    (hphase : call.phase = .returned .success) : appliedBy labels ticket = call.batch := by
  have hown : appliedBy labels ticket = (books labels ticket).own := by
    refine List.flatMap_congr fun action hmem => ?_
    have hnone : ∀ index part, action.pool ≠ some (.handle index part) := by
      intro index part hpool
      have hhandled : (index, part) ∈ handles (poolLabels labels) :=
        List.mem_filterMap.2 ⟨_, List.mem_filterMap.2 ⟨action, hmem, hpool⟩, rfl⟩
      rw [(run_unrouted h hworkers).2] at hhandled
      cases hhandled
    rw [Action.applied]
    split
    · rename_i index part hpool
      exact absurd hpool (hnone index part)
    · exact List.append_nil _
  have hfollows := (run_kept h).calls ticket call hcall
  have hok : Status.success.ok = true := rfl
  simp only [Call.Follows, hphase, hok, if_true] at hfollows
  rw [hown, hfollows.own, ownRecords, if_pos hworkers]

/-- In every run without a cancellation, the observatory is what the batches applied to it make of
it; each source's observations are applied by one worker, in the order in which its queue accepted
them and each of them once; nothing is accepted after its queue was closed, and everything accepted
has been applied once the workers are joined. -/
theorem delivery {options : LifecycleConfig} {config : RuntimeConfig} {files : FileSystem}
    {labels : List Action} {changes : List Change} {runtime : Runtime}
    (h : Run (Writes Step) (make options config files, []) labels (runtime, changes))
    (hlabels : Uncancelled (poolLabels labels)) :
    runtime.Delivered options config labels changes := by
  have hrun := run_of_writes h
  have hpool := run_pool hrun
  have hsound := (WorkerPool.run_sound hpool).1
  have hkeeps := WorkerPool.run_keeps hpool hlabels
  constructor
  case observatory => exact run_observatory h
  case routed => exact fun hworkers name => run_routed h hworkers name
  case inlined =>
    intro hworkers ticket call hcall hphase
    rw [run_applied h]
    exact run_inlined hrun hworkers hcall hphase
  case submitted => exact fun hworkers ticket call hcall => run_submitted hrun hworkers hcall
  case ordered =>
    intro hworkers name
    rw [run_appliedFrom h hworkers, (run_from hrun name).1, (run_from hrun name).2]
    exact (WorkerPool.run_prefix hpool hlabels (run_route_lt hrun hworkers name)).flatMap _
  case joined =>
    intro hworkers hjoined name
    rw [run_appliedFrom h hworkers, (run_from hrun name).1, (run_from hrun name).2,
      WorkerPool.run_joined hpool hlabels hjoined (run_route_lt hrun hworkers name)]
  case bounded => exact fun worker hmem => (hsound.queues worker hmem).bounded
  case counted =>
    intro worker hmem
    rw [(hsound.queues worker hmem).counted, hkeeps.abandoned worker hmem, UInt64.add_zero]
  case closed =>
    intro index before after hsplit
    rw [hsplit] at hpool
    exact WorkerPool.run_closed hpool

/-- The one observation of the small batch is applied by the only worker. -/
theorem delivery_small :
    ∃ runtime changes, Run (Writes Step) (make smallConfig { policy := makeDefaultPolicy } fun _ => none, [])
        (startLabels smallConfig ++ smallLabels) (runtime, changes) ∧ runtime.pool.Joined ∧
      appliedFrom (ascii "s") changes = [.observation { source := ascii "s" }] ∧
      runtime.Delivered smallConfig { policy := makeDefaultPolicy }
        (startLabels smallConfig ++ smallLabels) changes := by
  obtain ⟨runtime, hrun, hhalted, -⟩ := run_small
  obtain ⟨changes, hwritten⟩ := run_writes (run_smallStart.append hrun)
  have hstop : Uncancelled (poolLabels (startLabels smallConfig ++ smallLabels)) := by
    unfold Uncancelled
    decide +kernel
  have hdelivered := delivery hwritten hstop
  refine ⟨runtime, changes, hwritten, .inl hhalted, ?_, hdelivered⟩
  rw [hdelivered.joined (by decide) (.inl hhalted)]
  decide +kernel

end Runtime

end LinkObservatory
