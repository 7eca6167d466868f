import LinkObservatory.WorkerCount

namespace LinkObservatory
set_option autoImplicit true

open Labelled

def observationsOf (workers : Nat) (batch : List ParsedRecord) : List ParsedRecord :=
  batch.filter fun record => record.route workers ≠ none

/-- Each part of the division makes its declarations before its observations, and these all go to
one worker. -/
structure Division.Steady (division : Division) (workers : Nat) (records : List ParsedRecord) :
    Prop where
  fits : ∀ record ∈ records, division.Fits record
  declared : records.Pairwise fun first second =>
    division.partOf first = division.partOf second →
      first.route workers ≠ none → second.route workers ≠ none
  routed : ∀ first ∈ records, ∀ second ∈ records,
    division.partOf first = division.partOf second →
      first.route workers ≠ none → second.route workers ≠ none →
        first.route workers = second.route workers

namespace Division

theorem Steady.earlier {division : Division} {records more : List ParsedRecord}
    (h : division.Steady workers more) (hbegins : records <+: more) :
    division.Steady workers records where
  fits record hmem := h.fits record (hbegins.subset hmem)
  declared := h.declared.sublist hbegins.sublist
  routed first hfirst second hsecond :=
    h.routed first (hbegins.subset hfirst) second (hbegins.subset hsecond)

/-- A part's records are its declarations, then its observations. -/
theorem Steady.ofPart {division : Division} {records : List ParsedRecord}
    (h : division.Steady workers records) (part : Option Nat) :
    Interchange.ofPart division.partOf part (declarationsOf workers records) ++
        Interchange.ofPart division.partOf part (observationsOf workers records) =
      Interchange.ofPart division.partOf part records := by
  have hsorted : (Interchange.ofPart division.partOf part records).Pairwise fun first second =>
      decide (second.route workers = none) = true → decide (first.route workers = none) = true := by
    refine (h.declared.sublist List.filter_sublist).imp_of_mem fun hfirst hsecond hboth hnone => ?_
    have hpart := of_decide_eq_true (List.mem_filter.1 hfirst).2
    have hpart' := of_decide_eq_true (List.mem_filter.1 hsecond).2
    by_contra hsome
    exact hboth (hpart.trans hpart'.symm) (by simpa using hsome) (by simpa using hnone)
  refine Eq.trans ?_ (Grouping.filter_append_filter hsorted)
  congr 1
  · exact List.filter_comm ..
  · rw [Interchange.ofPart, observationsOf, List.filter_comm]
    exact List.filter_congr fun record _ => by simp

end Division

namespace Runtime

section

variable {options : LifecycleConfig} {config : RuntimeConfig} {files : FileSystem}
  {runtime : Runtime} {changes : List Change} {division : Division}

/-- What the caller of a submission applies itself. -/
theorem run_own (h : Run (Session instant) (make options config files) labels runtime)
    (hworkers : options.workers ≠ 0) {call : Call} (hcall : runtime.calls[ticket]? = some call) :
    (books labels ticket).own <+: declarationsOf options.workers call.batch ∧
      (ticket + 1 ≠ runtime.calls.length →
        (books labels ticket).own = declarationsOf options.workers call.batch) := by
  have hfollows := (run_kept (step_run h)).calls ticket call hcall
  constructor
  · rcases hfollows.own with hown | hown
    · rw [hown]
      exact List.nil_prefix
    · rw [hown, ownRecords, if_neg hworkers]
  · intro hother
    have hserved := run_served h
    obtain ⟨status, hphase⟩ := hserved.single ticket call hcall hother
    have hsuccess := hserved.success call (List.mem_of_getElem? hcall) status hphase
    have hok : Status.success.ok = true := rfl
    simp only [Call.Follows, hphase, hsuccess, hok, if_true] at hfollows
    rw [hfollows.own, ownRecords, if_neg hworkers]

theorem run_callers_ordered (h : Run (Session instant) (make options config files) labels runtime)
    (hworkers : options.workers ≠ 0) :
    callersApplied labels <+: declarationsOf options.workers runtime.submitted := by
  rw [run_callers_groups h, Runtime.submitted, Grouping.flatMap_range runtime.calls, declarationsOf,
    List.filter_flatMap]
  refine Grouping.flatMap_range_prefix (fun ticket hlt => ?_) fun ticket hlt hother => ?_
  · have hcall := List.getElem?_eq_getElem hlt
    rw [hcall]
    exact (run_own h hworkers hcall).1
  · have hcall := List.getElem?_eq_getElem hlt
    rw [hcall]
    exact (run_own h hworkers hcall).2 hother

/-- An observation that a queue has accepted was submitted, and is routed to that queue. -/
theorem run_pushed_record (h : Run Step (make options config files) labels runtime)
    {pair : Nat × Part} {record : ParsedRecord} (hmem : pair ∈ pushes (poolLabels labels))
    (hrecord : record ∈ pair.2.records) :
    ∃ call : Call, runtime.calls[pair.2.call]? = some call ∧ record ∈ call.batch ∧
      record.route options.workers = some pair.1 := by
  obtain ⟨call, hcall, hpart⟩ := run_pushed h hmem
  rw [(mem_partsOf.1 hpart).2.2, recordsFor, List.mem_filter] at hrecord
  exact ⟨call, hcall, hrecord.1, of_decide_eq_true hrecord.2⟩

theorem mem_submitted {ticket : Nat} {call : Call} {record : ParsedRecord}
    (hcall : runtime.calls[ticket]? = some call) (hrecord : record ∈ call.batch) :
    record ∈ runtime.submitted :=
  List.mem_flatMap.2 ⟨call, List.mem_of_getElem? hcall, hrecord⟩

/-- The observations of one part in a batch are those that go to the worker of the part. -/
theorem ofPart_partsOf {batch : List ParsedRecord} {part : Option Nat} (hlt : route < workers)
    (hroute : ∀ record ∈ batch, division.partOf record = part → record.route workers ≠ none →
      record.route workers = some route) :
    (partsOf workers ticket batch).flatMap (fun pair =>
        Interchange.ofPart division.partOf part pair.2.records) =
      Interchange.ofPart division.partOf part (observationsOf workers batch) := by
  rw [partsOf_flatMap workers ticket batch (Interchange.ofPart division.partOf part) rfl,
    Grouping.flatMap_range_one hlt fun other hother => ?_]
  · rw [Interchange.ofPart, Interchange.ofPart, recordsFor, observationsOf, List.filter_filter,
      List.filter_filter]
    refine List.filter_congr fun record hmem => ?_
    by_cases hpart : division.partOf record = part
    · by_cases hnone : record.route workers = none
      · simp [hnone]
      · simp [hroute record hmem hpart hnone]
    · simp [hpart]
  · refine List.filter_eq_nil_iff.2 fun record hmem hpart => hother ?_
    obtain ⟨hbatch, hother⟩ := List.mem_filter.1 hmem
    have hsome := of_decide_eq_true hother
    have hown := hroute record hbatch (of_decide_eq_true hpart) (by simp [hsome])
    exact Option.some.inj (hsome.symm.trans hown)

theorem run_pushed_submitted (h : Run Step (make options config files) labels runtime)
    {pair : Nat × Part} {record : ParsedRecord} (hmem : pair ∈ pushes (poolLabels labels))
    (hrecord : record ∈ pair.2.records) :
    record ∈ runtime.submitted ∧ record.route options.workers = some pair.1 := by
  obtain ⟨call, hcall, hbatch, hroute⟩ := run_pushed_record h hmem hrecord
  exact ⟨mem_submitted hcall hbatch, hroute⟩

/-- The worker of a part applies its observations in the order in which its queue accepted them. -/
theorem run_part_handled (h : Run (Session instant) (make options config files) labels runtime)
    (hworkers : options.workers ≠ 0) {part : Option Nat} (hlt : route < options.workers)
    (hroute : ∀ record ∈ runtime.submitted, division.partOf record = part →
      record.route options.workers ≠ none → record.route options.workers = some route) :
    Interchange.ofPart division.partOf part (workersApplied labels) <+:
      (pushes (poolLabels labels)).flatMap fun pair =>
        Interchange.ofPart division.partOf part pair.2.records := by
  have hrun := step_run h
  have hothers : ∀ pair ∈ pushes (poolLabels labels), some pair.1 ≠ some route →
      Interchange.ofPart division.partOf part pair.2.records = [] := by
    intro pair hmem hne
    refine List.filter_eq_nil_iff.2 fun record hrecord hsame => hne ?_
    obtain ⟨hsubmitted, hto⟩ := run_pushed_submitted hrun hmem hrecord
    rw [← hto]
    exact hroute record hsubmitted (of_decide_eq_true hsame) (by simp [hto])
  have hhandled : Interchange.ofPart division.partOf part (workersApplied labels) =
      (handledAt route (poolLabels labels)).flatMap fun part' =>
        Interchange.ofPart division.partOf part part'.records := by
    rw [workersApplied, Interchange.ofPart, List.filter_flatMap]
    refine (Grouping.flatMap_group (fun pair => some pair.1) route fun pair hmem =>
      hothers pair (run_handled_mem hrun hmem)).symm.trans ?_
    rw [handles_group, List.flatMap_map]
    rfl
  have haccepted : (pushes (poolLabels labels)).flatMap (fun pair =>
        Interchange.ofPart division.partOf part pair.2.records) =
      (acceptedAt route (poolLabels labels)).flatMap fun part' =>
        Interchange.ofPart division.partOf part part'.records := by
    refine (Grouping.flatMap_group (fun pair => some pair.1) route hothers).symm.trans ?_
    rw [pushes_group, List.flatMap_map]
  have hlength : route < runtime.pool.workers.length := by
    rwa [(run_kept hrun).workers, if_neg hworkers]
  have hkeeps := run_uncancelled (h.mono fun _ _ _ hone => hone.inTurn)
  rw [hhandled, haccepted]
  exact (WorkerPool.run_prefix (run_pool hrun) hkeeps hlength).flatMap _

/-- The queue of a part's worker accepts its observations in the order of their submission. -/
theorem run_part_accepted (h : Run (Session instant) (make options config files) labels runtime)
    {part : Option Nat} (hlt : route < options.workers)
    (hroute : ∀ record ∈ runtime.submitted, division.partOf record = part →
      record.route options.workers ≠ none → record.route options.workers = some route) :
    ((pushes (poolLabels labels)).flatMap fun pair =>
        Interchange.ofPart division.partOf part pair.2.records) <+:
      Interchange.ofPart division.partOf part
        (observationsOf options.workers runtime.submitted) := by
  rw [run_pushes_groups h, List.flatMap_assoc, Runtime.submitted,
    Grouping.flatMap_range runtime.calls, observationsOf, Interchange.ofPart, List.filter_flatMap,
    List.filter_flatMap]
  have hcalls {ticket : Nat} (hticket : ticket < runtime.calls.length) :
      ∃ left, Interchange.ofPart division.partOf part
          (observationsOf options.workers runtime.calls[ticket].batch) =
        (books labels ticket).accepted.flatMap (fun pair =>
          Interchange.ofPart division.partOf part pair.2.records) ++ left ∧
        (ticket + 1 ≠ runtime.calls.length → left = []) := by
    have hcall := List.getElem?_eq_getElem hticket
    obtain ⟨left, hparts, hleft⟩ := ((run_kept (step_run h)).calls ticket _ hcall).accepted
    refine ⟨left.flatMap fun pair => Interchange.ofPart division.partOf part pair.2.records, ?_,
      fun hother => ?_⟩
    · rw [← List.flatMap_append, ← hparts]
      exact (ofPart_partsOf hlt fun record hrecord =>
        hroute record (mem_submitted hcall hrecord)).symm
    · obtain ⟨status, hphase⟩ := (run_served h).single ticket _ hcall hother
      have hsuccess := (run_served h).success _ (List.mem_of_getElem? hcall) status hphase
      rw [hleft (hsuccess ▸ hphase)]
      rfl
  refine Grouping.flatMap_range_prefix (fun ticket hticket => ?_) fun ticket hticket hother => ?_
  · obtain ⟨left, hall, -⟩ := hcalls hticket
    rw [List.getElem?_eq_getElem hticket]
    exact ⟨left, hall.symm⟩
  · obtain ⟨left, hall, hleft⟩ := hcalls hticket
    rw [List.getElem?_eq_getElem hticket]
    rw [hleft hother, List.append_nil] at hall
    exact hall.symm

theorem run_workers_ordered (h : Run (Session instant) (make options config files) labels runtime)
    (hworkers : options.workers ≠ 0) (hsteady : division.Steady options.workers runtime.submitted)
    (part : Option Nat) :
    Interchange.ofPart division.partOf part (workersApplied labels) <+:
      Interchange.ofPart division.partOf part
        (observationsOf options.workers runtime.submitted) := by
  by_cases hsome : ∃ record ∈ runtime.submitted, division.partOf record = part ∧
      record.route options.workers ≠ none
  case neg =>
    have hnil : Interchange.ofPart division.partOf part (workersApplied labels) = [] := by
      refine List.filter_eq_nil_iff.2 fun record hmem hpart => hsome ?_
      obtain ⟨pair, hpair, hrecord⟩ := List.mem_flatMap.1 hmem
      have hrun := step_run h
      obtain ⟨hsubmitted, hroute⟩ :=
        run_pushed_submitted hrun (run_handled_mem hrun hpair) hrecord
      exact ⟨record, hsubmitted, of_decide_eq_true hpart, by simp [hroute]⟩
    rw [hnil]
    exact List.nil_prefix
  case pos =>
    obtain ⟨first, hfirst, hpart, hnone⟩ := hsome
    obtain ⟨route, hfound⟩ := Option.ne_none_iff_exists'.1 hnone
    have hlt := route_lt hworkers hfound
    -- all observations of the part go to the worker of the first
    have hroute : ∀ record ∈ runtime.submitted, division.partOf record = part →
        record.route options.workers ≠ none → record.route options.workers = some route := by
      intro record hrecord hsame hrouted
      rw [← hfound]
      exact hsteady.routed record hrecord first hfirst (hsame.trans hpart.symm) hrouted hnone
    exact (run_part_handled h hworkers hlt hroute).trans (run_part_accepted h hlt hroute)

/-- Once a worker has applied an observation of a part, all declarations of the part have been
applied. -/
theorem run_declared (h : Run (Session instant) (make options config files) labels runtime)
    (hworkers : options.workers ≠ 0) (hsteady : division.Steady options.workers runtime.submitted)
    {part : Option Nat} {record : ParsedRecord} (hmem : record ∈ workersApplied labels)
    (hpart : division.partOf record = part) :
    Interchange.ofPart division.partOf part (callersApplied labels) =
      Interchange.ofPart division.partOf part
        (declarationsOf options.workers runtime.submitted) := by
  have hrun := step_run h
  obtain ⟨pair, hpair, hrecord⟩ := List.mem_flatMap.1 hmem
  have hpushed := run_handled_mem hrun hpair
  obtain ⟨call, hcall, hbatch, hroute⟩ := run_pushed_record hrun hpushed hrecord
  have hkept := run_kept hrun
  rw [run_callers_groups h, Runtime.submitted, Grouping.flatMap_range runtime.calls, declarationsOf,
    List.filter_flatMap, Interchange.ofPart, List.filter_flatMap, Interchange.ofPart,
    List.filter_flatMap]
  refine List.flatMap_congr fun ticket hticket => ?_
  have hlt := List.mem_range.1 hticket
  have hfound := List.getElem?_eq_getElem hlt
  rw [hfound]
  rcases lt_trichotomy ticket pair.2.call with hbefore | rfl | hafter
  · have hother : ticket + 1 ≠ runtime.calls.length := by
      have hbound : pair.2.call < runtime.calls.length := (List.getElem?_eq_some_iff.1 hcall).1
      omega
    rw [(run_own h hworkers hfound).2 hother]
    rfl
  · have haccepted : pair ∈ (books labels pair.2.call).accepted :=
      List.mem_filter.2 ⟨hpushed, by simp⟩
    obtain ⟨left, hsubmits⟩ := (hkept.calls _ _ hfound).submits
      (Books.not_blank (List.ne_nil_of_mem haccepted))
    rw [hsubmits.own, ownRecords, if_neg hworkers]
    rfl
  · -- a later batch declares nothing of the part
    have hnone : Interchange.ofPart division.partOf part
        (declarationsOf options.workers runtime.calls[ticket].batch) = [] := by
      refine List.filter_eq_nil_iff.2 fun other hother hsame => ?_
      obtain ⟨hlater, hdeclares⟩ := List.mem_filter.1 hother
      have hordered := hsteady.declared
      rw [Runtime.submitted, List.pairwise_flatMap] at hordered
      obtain ⟨hbound, rfl⟩ := List.getElem?_eq_some_iff.1 hcall
      have hboth := List.pairwise_iff_getElem.1 hordered.2 _ _ hbound hlt hafter record hbatch
        other hlater (hpart.trans (of_decide_eq_true hsame).symm) (by simp [hroute])
      exact hboth (of_decide_eq_true hdeclares)
    have hbegins := (run_own h hworkers hfound).1.filter fun other =>
      decide (division.partOf other = part)
    refine Eq.trans ?_ hnone.symm
    exact List.prefix_nil.1 (hnone ▸ hbegins)

/-- Of each part, the callers' declarations are applied first, then the workers' observations. -/
theorem run_applied_parts
    (h : Run (Writes (Session instant)) (make options config files, []) labels (runtime, changes))
    (hworkers : options.workers ≠ 0) (hsteady : division.Steady options.workers runtime.submitted)
    (part : Option Nat) :
    Interchange.ofPart division.partOf part (recordsApplied changes) =
      Interchange.ofPart division.partOf part (callersApplied labels) ++
        Interchange.ofPart division.partOf part (workersApplied labels) := by
  revert hsteady
  refine Run.invariant (fun labels state => division.Steady options.workers state.1.submitted →
    Interchange.ofPart division.partOf part (recordsApplied state.2) =
      Interchange.ofPart division.partOf part (callersApplied labels) ++
        Interchange.ofPart division.partOf part (workersApplied labels)) h (fun _ => rfl)
    fun {labels before action after} hrun hinv hstep hsteady => ?_
  have hsteady' := hsteady.earlier hstep.1.step.submitted
  have hsplit := hinv hsteady'
  have hcallers : callersApplied (labels ++ [action]) =
      callersApplied labels ++ callersApplied [action] := by
    simp only [callersApplied, List.filterMap_append, List.flatMap_append]
  have hworkers' : workersApplied (labels ++ [action]) =
      workersApplied labels ++ workersApplied [action] := by
    simp only [workersApplied, poolLabels, handles, List.filterMap_append, List.flatMap_append]
  rw [hstep.recordsApplied, hstep.1.step.records_split, hcallers, hworkers',
    Interchange.ofPart_append, Interchange.ofPart_append, Interchange.ofPart_append,
    Interchange.ofPart_append, hsplit]
  have hnone : Interchange.ofPart division.partOf part (workersApplied labels) = [] ∨
      Interchange.ofPart division.partOf part (callersApplied [action]) = [] := by
    by_cases hnil : Interchange.ofPart division.partOf part (workersApplied labels) = []
    · exact .inl hnil
    right
    rcases hstep.1.step.batches with ⟨batch, rfl, -⟩ | ⟨-, hbatches⟩
    · rfl
    -- all declarations of the part have been applied before, so these are of other parts
    obtain ⟨record, hmem⟩ := List.exists_mem_of_ne_nil _ hnil
    obtain ⟨happlied, hpart⟩ := List.mem_filter.1 hmem
    have hall := run_declared (run_of_writes hrun) hworkers hsteady' happlied
      (of_decide_eq_true hpart)
    have hnext := ((run_callers_ordered (run_of_writes (hrun.snoc hstep)) hworkers).filter
      fun record => decide (division.partOf record = part)).length_le
    have hsame : after.1.submitted = before.1.submitted := by
      rw [submitted_eq, hbatches, ← submitted_eq]
    have hlength := congrArg List.length hall
    rw [hcallers, List.filter_append, List.length_append, hsame] at hnext
    simp only [Interchange.ofPart] at hlength ⊢
    exact List.eq_nil_of_length_eq_zero (by omega)
  rcases hnone with hnone | hnone
  · rw [hnone, List.append_nil, List.nil_append, List.append_assoc]
  · rw [hnone, List.nil_append, List.append_nil, List.append_assoc]

theorem run_steady
    (h : Run (Writes (Session instant)) (make options config files, []) labels (runtime, changes))
    (hworkers : options.workers ≠ 0) (hsteady : division.Steady options.workers runtime.submitted)
    (part : Option Nat) :
    Interchange.ofPart division.partOf part (recordsApplied changes) <+:
      Interchange.ofPart division.partOf part runtime.submitted := by
  have hrun := run_of_writes h
  rw [run_applied_parts h hworkers hsteady, ← hsteady.ofPart part]
  by_cases hnil : Interchange.ofPart division.partOf part (workersApplied labels) = []
  · rw [hnil, List.append_nil]
    exact ((run_callers_ordered hrun hworkers).filter _).trans (List.prefix_append _ _)
  · obtain ⟨record, hmem⟩ := List.exists_mem_of_ne_nil _ hnil
    obtain ⟨happlied, hpart⟩ := List.mem_filter.1 hmem
    rw [run_declared hrun hworkers hsteady happlied (of_decide_eq_true hpart),
      List.prefix_append_right_inj]
    exact run_workers_ordered hrun hworkers hsteady part

end

/-- If each part of a division declares before it observes, and its observations go to one worker,
then in every interleaving the outcome after the `stop` is that of the same batches without
workers. -/
theorem steady_outcome {options : LifecycleConfig} {config : RuntimeConfig} {files : FileSystem}
    {instant : TimePoint} {division : Division} {runtime runtime' : Runtime}
    {labels labels' : List Action} {status status' : Status}
    (h : Run (Session instant) (make options config files) labels runtime)
    (hstopped : runtime.controls = [.started .success, .stopped status])
    (hsteady : division.Steady options.workers runtime.submitted)
    (hallows : (make options config files).opened.Allows config division runtime.submitted)
    (h' : Run (Session instant) (make { options with workers := 0 } config files) labels' runtime')
    (hstopped' : runtime'.controls = [.started .success, .stopped status'])
    (hbatches : runtime'.calls.map Call.batch = runtime.calls.map Call.batch) :
    runtime'.observatory.SameOutcome runtime.observatory := by
  obtain ⟨changes, hwritten⟩ := run_writes h
  refine run_outcome hwritten hstopped (fun part => ?_) hsteady.fits hallows h' hstopped' hbatches
  by_cases hworkers : options.workers = 0
  · rw [run_inline_submitted hwritten hworkers hstopped]
  · exact run_steady hwritten hworkers hsteady part

def pairConfig : LifecycleConfig := { workers := 2, queueDepth := 1 }

def pairStart : Runtime := begun pairConfig { policy := makeDefaultPolicy } fun _ => none

/-- The observation that goes to a worker of the two, as its part of the batch. -/
def pairPart (link : String) : Part := ⟨0, [.observation (Observatory.readingOf (ascii link))]⟩

/-- The last observation goes to the first worker, which is done before the other takes the first
observation. -/
def pairLabels : List Action :=
  [.check 0, .apply 0 (dated (pairApplied.take 4)), .arrive 0,
    .submit 0 (.enlist 0 (pairPart "m")), .submit 0 (.push 0 (pairPart "m")),
    .submit 0 (.enlist 1 (pairPart "l")), .submit 0 (.push 1 (pairPart "l")), .leave 0,
    .work (.pop 0 (pairPart "m")), .handle 0 (pairPart "m") (dated (pairPart "m").records),
    .work (.signal 0 (pairPart "m") none), .work (.finish 0 none),
    .work (.pop 1 (pairPart "l")), .handle 1 (pairPart "l") (dated (pairPart "l").records),
    .work (.signal 1 (pairPart "l") (some 0)), .work (.finish 1 (some 0))]

def pairStopLabels : List Action :=
  [.manage 1 (.shutdown false), .manage 1 (.close 0), .manage 1 (.close 1), .work (.exit 0),
    .work (.exit 1), .manage 1 (.join 0), .manage 1 (.join 1), .manage 1 .halt, .advance 1,
    .advance 1]

theorem pairBatch_enter : Call.enter { batch := pairBatch } 2 0 =
    { batch := pairBatch
      remaining := 3
      phase := .declaring (pairApplied.take 4) [(0, pairPart "m"), (1, pairPart "l")] } := by
  decide +kernel

set_option maxRecDepth 4000 in
theorem run_pair :
    ∃ middle runtime : Runtime,
      Run Step { pairStart with calls := [{ batch := pairBatch }] } pairLabels middle ∧
      middle.controls = [.started .success] ∧
      middle.calls = [{ batch := pairBatch, remaining := 0, phase := .returned .success }] ∧
      Run Step { middle with controls := [.started .success, .stopEntered] } pairStopLabels
        runtime ∧
      runtime.controls = [.started .success, .stopped .success] ∧ runtime.calls = middle.calls ∧
      runtime.observatory = (((pairStart.observatory.applyBatch
        (dated (pairApplied.take 4))).applyBatch (dated (pairPart "m").records)).applyBatch
          (dated (pairPart "l").records)) := by
  have hpersists : (true && (((pairStart.observatory.applyBatch
      (dated (pairApplied.take 4))).applyBatch (dated (pairPart "m").records)).applyBatch
        (dated (pairPart "l").records)).config.snapshotPath != "") = false := by
    rw [applyBatch_config, applyBatch_config, applyBatch_config]
    rfl
  exact ⟨_, _, .cons (.checked rfl rfl rfl pairBatch_enter) <|
    .cons (.applyDeclarations rfl rfl (dated_fst _)) <| .cons (.arrive rfl rfl) <|
    .cons (.enlist rfl rfl (.enlist rfl rfl)) <|
    .cons (.push rfl rfl (.push (List.nil_append _).symm rfl rfl)) <|
    .cons (.enlist rfl rfl (.enlist rfl rfl)) <|
    .cons (.push rfl rfl (.push (List.nil_append _).symm rfl rfl)) <| .cons (.leave rfl rfl) <|
    .cons (.pop (.pop rfl rfl rfl)) <| .cons (.handle (.handle rfl rfl) (dated_fst _)) <|
    .cons (.signal rfl rfl (.signal rfl rfl)) <| .cons (.finish (.finish rfl rfl)) <|
    .cons (.pop (.pop rfl rfl rfl)) <| .cons (.handle (.handle rfl rfl) (dated_fst _)) <|
    .cons (.signal rfl rfl (.signal rfl rfl)) <| .cons (.finish (.finish rfl rfl)) .nil, rfl, rfl,
    .cons (.stopDrain rfl (by decide) (.shutdown rfl rfl)) <|
    .cons (.close rfl (.inl rfl) (.close rfl rfl)) <|
    .cons (.close rfl (.inl rfl) (.close rfl rfl)) <| .cons (.exit (.exit rfl rfl rfl)) <|
    .cons (.exit (.exit rfl rfl rfl)) <| .cons (.join rfl (.inl rfl) (.join rfl rfl rfl)) <|
    .cons (.join rfl (.inl rfl) (.join rfl rfl rfl)) <| .cons (.stopHalt rfl (.halt rfl)) <|
    .cons (.skipPersist rfl hpersists) <| .cons (.stopClear rfl) .nil, rfl, rfl, rfl⟩

/-- Two workers apply the two observations in the other order. -/
theorem steady_outcome_pair :
    ∃ labels labels' runtime runtime',
      Run (Session ⟨0⟩) (make pairConfig { policy := makeDefaultPolicy } fun _ => none) labels
        runtime ∧
      runtime.submitted = pairBatch ∧
      (labels.flatMap Action.records).map Prod.fst =
        pairApplied.take 4 ++ (pairPart "m").records ++ (pairPart "l").records ∧
      runtime.observatory.stats.recordsAccepted = 2 ∧
      Run (Session ⟨0⟩) (make { pairConfig with workers := 0 } { policy := makeDefaultPolicy }
        fun _ => none) labels' runtime' ∧
      runtime'.observatory.SameOutcome runtime.observatory := by
  obtain ⟨hstart, hcall⟩ := run_begun_session pairConfig { policy := makeDefaultPolicy }
    (by decide +kernel) rfl (fun _ => none) pairBatch
  obtain ⟨middle, runtime, hpair, hcontrols, hcalls, hstop, hstopped, hsame, hobservatory⟩ :=
    run_pair
  obtain ⟨labels', runtime', hrun', hstopped', hbatches', -⟩ := run_inline_session pairBatch
  have hidle : middle.Idle := by
    rw [Idle, hcalls]
    simp
  have hrun := run_stopped ⟨0⟩ hpair hcontrols hidle hstop
    (by simp [pairLabels, pairStopLabels, Action.request]) (by decide +kernel)
  have hall := hstart.append (.cons hcall hrun)
  have hbatches : runtime.calls.map Call.batch = [pairBatch] := by
    rw [hsame, hcalls]
    rfl
  have hsubmitted : runtime.submitted = pairBatch := by
    rw [submitted_eq, hbatches]
    exact List.append_nil _
  have hsteady : divisionPair.Steady pairConfig.workers runtime.submitted := by
    rw [hsubmitted]
    exact ⟨by decide +kernel, by decide +kernel, by decide +kernel⟩
  have hallows : (make pairConfig { policy := makeDefaultPolicy } fun _ => none).opened.Allows
      { policy := makeDefaultPolicy } divisionPair runtime.submitted := by
    rw [hsubmitted]
    exact pairBatch_allowed
  refine ⟨_, labels', runtime, runtime', hall, hsubmitted, by decide +kernel, ?_, hrun', ?_⟩
  · rw [hobservatory]
    decide +kernel
  · exact steady_outcome hall hstopped hsteady hallows hrun' hstopped'
      (hbatches'.trans hbatches.symm)

end Runtime

end LinkObservatory
