import LinkObservatory.CallOrder

namespace LinkObservatory
set_option autoImplicit true

open Labelled

namespace Runtime

/-- A step of a session that applies no record before an earlier one of the same part: within each
part of the division, what has been applied is a prefix of what has been submitted. -/
def InOrder (instant : TimePoint) (division : Division) (before : Runtime × List Change)
    (action : Action) (after : Runtime × List Change) : Prop :=
  Writes (Session instant) before action after ∧
    ∀ part, Interchange.ofPart division.partOf part
        (recordsApplied before.2 ++ action.records.map Prod.fst) <+:
      Interchange.ofPart division.partOf part before.1.submitted

theorem run_inOrder {options : LifecycleConfig} {config : RuntimeConfig} {files : FileSystem}
    {division : Division} {runtime : Runtime} {changes : List Change}
    (h : Run (InOrder instant division) (make options config files, []) labels (runtime, changes))
    (part : Option Nat) : Interchange.ofPart division.partOf part (recordsApplied changes) <+:
      Interchange.ofPart division.partOf part runtime.submitted := by
  refine Run.invariant (fun _ state => Interchange.ofPart division.partOf part
    (recordsApplied state.2) <+: Interchange.ofPart division.partOf part state.1.submitted) h
    (List.prefix_refl _) fun _ _ hstep => ?_
  rw [hstep.1.recordsApplied]
  exact (hstep.2 part).trans (hstep.1.1.step.submitted.filter _)

/-- A session that makes no call is in order if what it applies is. -/
theorem run_ordered {start runtime : Runtime} {division : Division} {past : List Change}
    (h : Run (Session instant) start labels runtime) (hcall : ∀ batch, .call batch ∉ labels)
    (hparts : ∀ part, Interchange.ofPart division.partOf part
        (recordsApplied past ++ (labels.flatMap Action.records).map Prod.fst) <+:
      Interchange.ofPart division.partOf part start.submitted) :
    runtime.submitted = start.submitted ∧
      ∃ changes, Run (InOrder instant division) (start, past) labels (runtime, changes) ∧
        recordsApplied changes =
          recordsApplied past ++ (labels.flatMap Action.records).map Prod.fst := by
  induction h with
  | nil => exact ⟨rfl, past, .nil, by simp⟩
  | snoc hbefore hstep ih =>
    rename_i labels before action after
    have hmore : recordsApplied past ++ ((labels ++ [action]).flatMap Action.records).map Prod.fst =
        (recordsApplied past ++ (labels.flatMap Action.records).map Prod.fst) ++
          action.records.map Prod.fst := by
      rw [List.flatMap_append, List.flatMap_singleton, List.map_append, List.append_assoc]
    rw [hmore] at hparts ⊢
    obtain ⟨hsame, changes, hrun, happlied⟩ := ih
      (fun batch hmem => hcall batch (List.mem_append_left _ hmem))
      (fun part => ((List.prefix_append _ _).filter _).trans (hparts part))
    rw [← happlied] at hparts ⊢
    have hwrites : Writes (Session instant) (before, changes) action
        (after, changes ++ before.changesOf action) := ⟨hstep, rfl⟩
    refine ⟨?_, _, hrun.snoc ⟨hwrites, fun part => ?_⟩, hwrites.recordsApplied⟩
    · rcases hstep.step.batches with ⟨batch, rfl, -⟩ | ⟨-, hbatches⟩
      · exact absurd (List.mem_append_right _ (List.mem_singleton_self _)) (hcall batch)
      · rw [submitted_eq, hbatches, ← submitted_eq, hsame]
    · rw [hsame]
      exact hparts part

/-- The steps of the calls, a `stop` and its steps are a session. -/
theorem run_stopped (instant : TimePoint) {start middle runtime : Runtime}
    (h : Run Step start labels middle)
    (hcontrols : middle.controls = [.started .success]) (hidle : middle.Idle)
    (hstop : Run Step { middle with controls := [.started .success, .stopEntered] } labels' runtime)
    (hrequest : ∀ action ∈ labels ++ labels', action.request = false)
    (hclock : ∀ action ∈ labels ++ labels', ∀ record ∈ action.records, record.2 = instant) :
    Run (Session instant) start (labels ++ .enter .stopEntered :: labels') runtime := by
  have hentered : Session instant middle (.enter .stopEntered)
      { middle with controls := [.started .success, .stopEntered] } := by
    have hstep : Step middle (.enter .stopEntered) _ := .enter (by simp)
    rw [hcontrols] at hstep
    refine ⟨hstep, by simp, fun control haction => .inr ⟨?_, hcontrols, hidle⟩,
      List.forall_mem_nil _⟩
    exact (Action.enter.inj haction).symm
  rw [List.forall_mem_append] at hrequest hclock
  exact (run_quiet h hrequest.1 hclock.1).append
    (.cons hentered (run_quiet hstop hrequest.2 hclock.2))

/-- Records at the instant at which the clock stands. -/
def dated (records : List ParsedRecord) : List (ParsedRecord × TimePoint) :=
  records.map fun record => (record, ⟨0⟩)

theorem dated_fst (records : List ParsedRecord) : (dated records).map Prod.fst = records := by
  rw [dated, List.map_map]
  exact List.map_id _

/-- The steps of the batch's two parts, its declarations and its observations, and of the `stop`
after them. -/
def partLabels (declarations observations : List ParsedRecord) : List Action :=
  [.check 0, .apply 0 (dated declarations), .arrive 0, .submit 0 (.enlist 0 ⟨0, observations⟩),
    .submit 0 (.push 0 ⟨0, observations⟩), .leave 0, .work (.pop 0 ⟨0, observations⟩),
    .handle 0 ⟨0, observations⟩ (dated observations),
    .work (.signal 0 ⟨0, observations⟩ (some 0)), .work (.finish 0 (some 0))]

def stopLabels : List Action :=
  [.manage 1 (.shutdown false), .manage 1 (.close 0), .work (.exit 0), .manage 1 (.join 0),
    .manage 1 .halt, .advance 1, .advance 1]

set_option maxRecDepth 2000 in
theorem run_parts {batch declarations observations : List ParsedRecord}
    (henter : Call.enter { batch := batch } 1 0 =
      { batch := batch
        remaining := 2
        phase := .declaring declarations [(0, ⟨0, observations⟩)] }) :
    ∃ middle runtime : Runtime, Run Step { smallStart with calls := [{ batch := batch }] }
        (partLabels declarations observations) middle ∧
      middle.controls = [.started .success] ∧
      middle.calls = [{ batch := batch, remaining := 0, phase := .returned .success }] ∧
      Run Step { middle with controls := [.started .success, .stopEntered] } stopLabels runtime ∧
      runtime.controls = [.started .success, .stopped .success] ∧ runtime.calls = middle.calls ∧
      runtime.observatory = (smallStart.observatory.applyBatch (dated declarations)).applyBatch
        (dated observations) := by
  have hpersists : (true && ((smallStart.observatory.applyBatch (dated declarations)).applyBatch
      (dated observations)).config.snapshotPath != "") = false := by
    rw [applyBatch_config, applyBatch_config]
    rfl
  exact ⟨_, _, .cons (.checked rfl rfl rfl henter) <|
    .cons (.applyDeclarations rfl rfl (dated_fst _)) <| .cons (.arrive rfl rfl) <|
    .cons (.enlist rfl rfl (.enlist rfl rfl)) <|
    .cons (.push rfl rfl (.push (List.nil_append _).symm rfl rfl)) <| .cons (.leave rfl rfl) <|
    .cons (.pop (.pop rfl rfl rfl)) <| .cons (.handle (.handle rfl rfl) (dated_fst _)) <|
    .cons (.signal rfl rfl (.signal rfl rfl)) <| .cons (.finish (.finish rfl rfl)) .nil, rfl, rfl,
    .cons (.stopDrain rfl Nat.one_ne_zero (.shutdown rfl rfl)) <|
    .cons (.close rfl (.inl rfl) (.close rfl rfl)) <| .cons (.exit (.exit rfl rfl rfl)) <|
    .cons (.join rfl (.inl rfl) (.join rfl rfl rfl)) <| .cons (.stopHalt rfl (.halt rfl)) <|
    .cons (.skipPersist rfl hpersists) <| .cons (.stopClear rfl) .nil, rfl, rfl, rfl⟩

/-- A `start` without a snapshot begins a session. -/
theorem run_begun_session (options : LifecycleConfig) (config : RuntimeConfig)
    (hvalid : (validateConfig options config).ok = true) (hsnapshot : config.snapshotPath = "")
    (files : FileSystem) (batch : List ParsedRecord) :
    Run (Session ⟨0⟩) (make options config files) (startLabels options)
        (begun options config files) ∧
      Session ⟨0⟩ (begun options config files) (.call batch)
        { begun options config files with calls := [{ batch := batch }] } := by
  have hrun : Run (fun runtime action runtime' => Step runtime action runtime' ∧
      ∀ control, action = .enter control → control = .startEntered ∧ runtime.controls = [])
      (make options config files) (startLabels options) (begun options config files) :=
    run_begun_of (fun h _ henter => ⟨h, henter⟩) hvalid (.inr hsnapshot) files
  have hlabels : ∀ action ∈ startLabels options, (∀ batch, action ≠ .call batch) ∧
      action.records = [] := by
    unfold startLabels
    split <;> simp [Action.records]
  constructor
  · refine hrun.mono_mem fun runtime action runtime' hmem hstep => ⟨hstep.1, ?_, ?_, ?_⟩
    · exact fun batch haction => absurd haction ((hlabels action hmem).1 batch)
    · exact fun control haction => .inl (hstep.2 control haction)
    · rw [(hlabels action hmem).2]
      exact List.forall_mem_nil _
  · refine ⟨.call, ?_, ?_, List.forall_mem_nil _⟩
    · exact fun _ _ => ⟨rfl, List.forall_mem_nil _⟩
    · intro control haction
      cases haction

/-- One worker applies the declarations of the batch, then its observations. -/
theorem run_parts_session (batch declarations observations : List ParsedRecord)
    (henter : Call.enter { batch := batch } 1 0 =
      { batch := batch
        remaining := 2
        phase := .declaring declarations [(0, ⟨0, observations⟩)] }) :
    ∃ (labels : List Action) (runtime : Runtime),
      Run (Session ⟨0⟩) { smallStart with calls := [{ batch := batch }] } labels runtime ∧
      (∀ batch, .call batch ∉ labels) ∧
      (labels.flatMap Action.records).map Prod.fst = declarations ++ observations ∧
      runtime.controls = [.started .success, .stopped .success] ∧
      runtime.calls.map Call.batch = [batch] ∧
      runtime.observatory = (smallStart.observatory.applyBatch (dated declarations)).applyBatch
        (dated observations) := by
  obtain ⟨middle, runtime, hparts, hcontrols, hcalls, hstop, hstopped, hsame, hobservatory⟩ :=
    run_parts henter
  have hidle : middle.Idle := by
    rw [Idle, hcalls]
    simp
  have hrun := run_stopped ⟨0⟩ hparts hcontrols hidle hstop
    (by simp [partLabels, stopLabels, Action.request])
    (by simp [partLabels, stopLabels, Action.records, dated])
  refine ⟨_, runtime, hrun, ?_, ?_, hstopped, ?_, hobservatory⟩
  · simp [partLabels, stopLabels]
  · simp [partLabels, stopLabels, Action.records, dated_fst]
  · rw [hsame, hcalls]
    rfl

/-- The same batch without workers. -/
theorem run_inline_session (batch : List ParsedRecord) :
    ∃ (labels : List Action) (runtime : Runtime),
      Run (Session ⟨0⟩) (make { smallConfig with workers := 0 } { policy := makeDefaultPolicy }
        fun _ => none) labels runtime ∧
      runtime.controls = [.started .success, .stopped .success] ∧
      runtime.calls.map Call.batch = [batch] ∧
      runtime.observatory = smallStart.observatory.applyBatch (dated batch) := by
  obtain ⟨hstart, hcall⟩ := run_begun_session { smallConfig with workers := 0 }
    { policy := makeDefaultPolicy } (by decide +kernel) rfl (fun _ => none) batch
  have hpersists :
      (true && (smallStart.observatory.applyBatch (dated batch)).config.snapshotPath != "") =
        false := by
    rw [applyBatch_config]
    rfl
  let inlined : Runtime := begun { smallConfig with workers := 0 } { policy := makeDefaultPolicy }
    fun _ => none
  let applied : Runtime :=
    { inlined with
      calls := [{ batch := batch, phase := .returned .success }]
      observatory := inlined.observatory.applyBatch (dated batch) }
  have hbatch : Run Step { inlined with calls := [{ batch := batch }] }
      [.check 0, .apply 0 (dated batch), .complete 0, .leave 0] applied :=
    .cons (.check rfl rfl rfl) <| .cons (.applyInline rfl rfl (dated_fst _)) <|
      .cons (.complete rfl rfl) <| .cons (.leave rfl rfl) .nil
  let stopped : Runtime :=
    { applied with
      started := false
      controls := [.started .success, .stopped .success] }
  have hstop : Run Step { applied with controls := [.started .success, .stopEntered] }
      [.advance 1, .advance 1, .advance 1] stopped :=
    .cons (.stopIdle rfl (.inl rfl)) <| .cons (.skipPersist rfl hpersists) <|
      .cons (.stopClear rfl) .nil
  have hrun := run_stopped ⟨0⟩ hbatch rfl (by simp [Idle, applied]) hstop
    (by simp [Action.request]) (by simp [Action.records, dated])
  exact ⟨_, stopped, hstart.append (.cons hcall hrun), rfl, rfl, rfl⟩

/-- If within each part the records are applied in the order of their submission, then the outcome
is that of the same batches without workers. -/
theorem run_outcome {options : LifecycleConfig} {config : RuntimeConfig} {files : FileSystem}
    {instant : TimePoint} {division : Division} {runtime runtime' : Runtime} {changes : List Change}
    (h : Run (Writes (Session instant)) (make options config files, []) labels (runtime, changes))
    (hstopped : runtime.controls = [.started .success, .stopped status])
    (hordered : ∀ part, Interchange.ofPart division.partOf part (recordsApplied changes) <+:
      Interchange.ofPart division.partOf part runtime.submitted)
    (hfits : ∀ record ∈ runtime.submitted, division.Fits record)
    (hallows : (make options config files).opened.Allows config division runtime.submitted)
    (h' : Run (Session instant) (make { options with workers := 0 } config files) labels' runtime')
    (hstopped' : runtime'.controls = [.started .success, .stopped status'])
    (hbatches : runtime'.calls.map Call.batch = runtime.calls.map Call.batch) :
    runtime'.observatory.SameOutcome runtime.observatory := by
  obtain ⟨changes', hwritten'⟩ := run_writes h'
  have hsubmitted : runtime'.submitted = runtime.submitted := by
    rw [submitted_eq, submitted_eq, hbatches]
  -- within each part nothing is missing at the end
  have hparts (part : Option Nat) :
      Interchange.ofPart division.partOf part (recordsApplied changes) =
        Interchange.ofPart division.partOf part runtime.submitted :=
    (hordered part).eq_of_length ((run_submitted_perm h hstopped).filter _).length_eq
  have hdated (records : List ParsedRecord) (part : Option Nat) :
      Interchange.ofPart (fun record : ParsedRecord × TimePoint => division.partOf record.1) part
          (records.map fun record => (record, instant)) =
        (Interchange.ofPart division.partOf part records).map fun record => (record, instant) :=
    List.filter_map ..
  have hfirst : (runtime.submitted.map fun record => (record, instant)).map Prod.fst =
      runtime.submitted := by
    rw [List.map_map]
    exact List.map_id _
  have hinline : changes'.flatMap Change.records =
      runtime.submitted.map fun record => (record, instant) := by
    rw [run_stamped hwritten', run_inline_submitted hwritten' rfl hstopped', hsubmitted]
  have hrearranged : ((make options config files).opened.applyAll
      (runtime.submitted.map fun record => (record, instant))).SameButBatches
        ((make options config files).opened.applyAll (changes.flatMap Change.records)) := by
    refine Observatory.Allows.rearranged (by rwa [hfirst]) (fun record hmem => ?_) fun part => ?_
    · obtain ⟨own, hown, rfl⟩ := List.mem_map.1 hmem
      exact hfits own hown
    · rw [run_stamped h, hdated, hdated, hparts]
  have hopened := run_opened h hstopped
  have hopened' := run_opened hwritten' hstopped'
  rw [hinline] at hopened'
  have hsame := Observatory.SameButBatches.equivalence
  exact (hsame.trans (hsame.symm hopened') (hsame.trans hrearranged hopened)).outcome

/-- If no record is applied before an earlier one of its part, then the outcome after the `stop` is
that of the same batches without workers. -/
theorem worker_count {options : LifecycleConfig} {config : RuntimeConfig} {files : FileSystem}
    {instant : TimePoint} {division : Division} {runtime runtime' : Runtime} {changes : List Change}
    {labels labels' : List Action} {status status' : Status}
    (h : Run (InOrder instant division) (make options config files, []) labels (runtime, changes))
    (hstopped : runtime.controls = [.started .success, .stopped status])
    (hfits : ∀ record ∈ runtime.submitted, division.Fits record)
    (hallows : (make options config files).opened.Allows config division runtime.submitted)
    (h' : Run (Session instant) (make { options with workers := 0 } config files) labels' runtime')
    (hstopped' : runtime'.controls = [.started .success, .stopped status'])
    (hbatches : runtime'.calls.map Call.batch = runtime.calls.map Call.batch) :
    runtime'.observatory.SameOutcome runtime.observatory := by
  have hwritten : Run (Writes (Session instant)) (make options config files, []) labels
      (runtime, changes) := h.mono fun _ _ _ hone => hone.1
  exact run_outcome hwritten hstopped (run_inOrder h) hfits hallows h' hstopped' hbatches

/-- The declarations of a source and of a link. -/
def declarationsOn (name : Bytes) : List ParsedRecord :=
  [.source { name := name, authority := .primary, provenance := .synthetic },
    .link { name := name, generation := ascii "g" }]

/-- The one link with its source, and all the others. -/
def divisionPair : Division where
  links link := if link = deriveLinkId (ascii "l") then 0 else 1
  sources source := if source = .fromName (ascii "l") then 0 else 1

/-- Declarations and an observation on two links, one after the other. -/
def pairBatch : List ParsedRecord :=
  declarationsOn (ascii "l") ++ .observation (Observatory.readingOf (ascii "l")) ::
    (declarationsOn (ascii "m") ++ [.observation (Observatory.readingOf (ascii "m"))])

/-- What one worker makes of them: the declarations first, then the observations. -/
def pairApplied : List ParsedRecord :=
  declarationsOn (ascii "l") ++ declarationsOn (ascii "m") ++
    [.observation (Observatory.readingOf (ascii "l")),
      .observation (Observatory.readingOf (ascii "m"))]

theorem pairApplied_ordered (part : Option Nat) :
    Interchange.ofPart divisionPair.partOf part pairApplied <+:
      Interchange.ofPart divisionPair.partOf part pairBatch := by
  have hparts : ∀ record ∈ pairApplied, divisionPair.partOf record = some 0 ∨
      divisionPair.partOf record = some 1 := by decide +kernel
  by_cases hzero : part = some 0
  · subst hzero
    decide +kernel
  by_cases hone : part = some 1
  · subst hone
    decide +kernel
  · have hnone : Interchange.ofPart divisionPair.partOf part pairApplied = [] := by
      refine List.filter_eq_nil_iff.2 fun record hmem hpart => ?_
      rw [decide_eq_true_eq] at hpart
      rcases hparts record hmem with h | h
      · exact hzero (hpart.symm.trans h)
      · exact hone (hpart.symm.trans h)
    rw [hnone]
    exact List.nil_prefix

theorem pairBatch_allowed :
    (make smallConfig { policy := makeDefaultPolicy } fun _ => none).opened.Allows
      { policy := makeDefaultPolicy } divisionPair pairBatch := by
  have hopened : (make smallConfig { policy := makeDefaultPolicy } fun _ => none).opened =
      Observatory.fresh { policy := makeDefaultPolicy } := rfl
  rw [hopened]
  refine .inr ⟨⟨[], .start, List.forall_mem_nil _⟩,
    [deriveLinkId (ascii "l"), deriveLinkId (ascii "m")],
    [.fromName (ascii "l"), .fromName (ascii "m")], ⟨?_, ?_⟩, ⟨by decide +kernel, by decide +kernel,
      by decide +kernel, by decide +kernel, by decide +kernel⟩⟩
  · intro link hlink
    simp [Observatory.fresh] at hlink
  · intro source hsource
    simp [Observatory.fresh] at hsource

/-- One worker applies the declarations on the second link before the observation of the first. -/
theorem worker_count_pair :
    ∃ labels labels' runtime runtime' changes,
      Run (InOrder ⟨0⟩ divisionPair)
        (make smallConfig { policy := makeDefaultPolicy } fun _ => none, []) labels
        (runtime, changes) ∧
      recordsApplied changes = pairApplied ∧ runtime.submitted = pairBatch ∧
      pairApplied ≠ pairBatch ∧
      Run (Session ⟨0⟩) (make { smallConfig with workers := 0 } { policy := makeDefaultPolicy }
        fun _ => none) labels' runtime' ∧
      runtime.observatory.stats.recordsAccepted = 2 ∧
      runtime'.observatory.SameOutcome runtime.observatory := by
  obtain ⟨hstart, hcall⟩ := run_begun_session smallConfig { policy := makeDefaultPolicy }
    (by decide +kernel) rfl (fun _ => none) pairBatch
  obtain ⟨labels, runtime, hrun, hcalls, hrecords, hstopped, hbatches, hobservatory⟩ :=
    run_parts_session pairBatch (pairApplied.take 4) (pairApplied.drop 4) (by decide +kernel)
  obtain ⟨labels', runtime', hrun', hstopped', hbatches', -⟩ := run_inline_session pairBatch
  have hnothing : recordsApplied [] ++
      ((startLabels smallConfig).flatMap Action.records).map Prod.fst = [] := rfl
  obtain ⟨-, before, hbegun, hbefore⟩ := run_ordered hstart (by simp [startLabels, smallConfig])
    fun part => show Interchange.ofPart divisionPair.partOf part _ <+: _ by
      rw [hnothing]
      exact List.nil_prefix
  rw [hnothing] at hbefore
  have hwrites : Writes (Session ⟨0⟩) (smallStart, before) (.call pairBatch)
      ({ smallStart with calls := [{ batch := pairBatch }] }, before ++ []) := ⟨hcall, rfl⟩
  have hcalled : InOrder ⟨0⟩ divisionPair (smallStart, before) (.call pairBatch)
      ({ smallStart with calls := [{ batch := pairBatch }] }, before ++ []) := by
    refine ⟨hwrites, fun part => ?_⟩
    rw [hbefore]
    exact List.nil_prefix
  have hempty : recordsApplied (before ++ []) = [] := by
    rw [hwrites.recordsApplied, hbefore]
    rfl
  have hsubmitted : Runtime.submitted { smallStart with calls := [{ batch := pairBatch }] } =
      pairBatch := List.append_nil _
  obtain ⟨hkept, changes, hordered, happlied⟩ := run_ordered hrun hcalls
    fun part => show Interchange.ofPart divisionPair.partOf part _ <+: _ by
      rw [hempty, hrecords, hsubmitted]
      exact pairApplied_ordered part
  rw [hempty, hrecords] at happlied
  rw [hsubmitted] at hkept
  have hall := hbegun.append (.cons hcalled hordered)
  refine ⟨_, labels', runtime, runtime', changes, hall, happlied, hkept, by decide +kernel, hrun',
    ?_, ?_⟩
  · rw [hobservatory]
    decide +kernel
  · refine worker_count hall hstopped ?_ ?_ hrun' hstopped' (hbatches'.trans hbatches.symm)
    · rw [hkept]
      decide +kernel
    · rw [hkept]
      exact pairBatch_allowed

/-- An observation and, after it, the declarations of its source and its link. -/
def lateBatch : List ParsedRecord :=
  .observation (Observatory.readingOf (ascii "l")) :: declarationsOn (ascii "l")

/-- The declarations are applied before the observation that was submitted first, so that with one
worker the observation is accepted and without workers it is fenced. -/
theorem worker_count_fails :
    ∃ labels labels' runtime runtime',
      Run (Session ⟨0⟩) (make smallConfig { policy := makeDefaultPolicy } fun _ => none) labels
        runtime ∧ runtime.controls = [.started .success, .stopped .success] ∧
      Run (Session ⟨0⟩) (make { smallConfig with workers := 0 } { policy := makeDefaultPolicy }
        fun _ => none) labels' runtime' ∧
      runtime'.controls = [.started .success, .stopped .success] ∧
      runtime'.calls.map Call.batch = runtime.calls.map Call.batch ∧
      ¬runtime'.observatory.SameOutcome runtime.observatory := by
  obtain ⟨hstart, hcall⟩ := run_begun_session smallConfig { policy := makeDefaultPolicy }
    (by decide +kernel) rfl (fun _ => none) lateBatch
  obtain ⟨labels, runtime, hrun, -, -, hstopped, hbatches, hobservatory⟩ :=
    run_parts_session lateBatch (lateBatch.drop 1) (lateBatch.take 1) (by decide +kernel)
  obtain ⟨labels', runtime', hrun', hstopped', hbatches', hobservatory'⟩ :=
    run_inline_session lateBatch
  refine ⟨_, _, runtime, runtime', hstart.append (.cons hcall hrun), hstopped, hrun', hstopped',
    hbatches'.trans hbatches.symm, fun hsame => ?_⟩
  have hfenced := congrArg RuntimeStatistics.recordsFenced hsame.stats
  rw [hobservatory, hobservatory'] at hfenced
  exact absurd hfenced (by decide +kernel)

end Runtime

end LinkObservatory
