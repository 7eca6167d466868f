import LinkObservatory.Lib.Tally
import LinkObservatory.Bounds
import LinkObservatory.Consecutive

namespace LinkObservatory
set_option autoImplicit true

open Std Tally

/-- Every fence reason. -/
def FenceReason.all : Finset FenceReason :=
  {.none, .unknownSource, .unknownLink, .unsupportedFamily, .invalidValue, .duplicateObservation,
    .revisionReplay, .revisionGap, .epochBehind, .incarnationBehind, .generationBehind,
    .authorityDowngrade, .payloadTooLarge, .unsupportedProvenance, .storeFull}

theorem FenceReason.mem_all (reason : FenceReason) : reason ∈ all := by
  cases reason <;> decide

/-- What the registry has counted as accepted, link by link. -/
def LinkRegistry.acceptedOf (registry : LinkRegistry) : LinkId → UInt64 :=
  countAt (fun link => link.entry.acceptedObservations) registry.links

/-- How often a reason refused an observation, in the store or in the runtime itself. -/
def Observatory.fenceCount (σ : Observatory) (reason : FenceReason) : UInt64 :=
  σ.store.fenceCounts.getD reason 0 + σ.ownFenceCounts.getD reason 0

/-- Everything that counts records. -/
structure RecordCounters where
  submitted : UInt64
  accepted : UInt64
  fenced : UInt64
  fences : FenceReason → UInt64
  stored : UInt64
  slots : SlotKey → UInt64
  streams : SourceId → UInt64
  links : LinkId → UInt64

def Observatory.counters (σ : Observatory) : RecordCounters where
  submitted := σ.stats.recordsSubmitted
  accepted := σ.stats.recordsAccepted
  fenced := σ.stats.recordsFenced
  fences := σ.fenceCount
  stored := σ.store.totalAccepted
  slots := countAt Slot.accepted σ.store.slots
  streams := countAt StreamState.accepted σ.store.streams
  links := σ.registry.acceptedOf

/-- One observation is counted: as accepted, or as refused for one reason. -/
inductive RecordCounters.CountsOnce (before after : RecordCounters) (outcome : AcceptOutcome) :
    Prop
  | accepted (haccepted : outcome.accepted = true)
      (hsubmitted : after.submitted = before.submitted + 1)
      (hcount : after.accepted = before.accepted + 1) (hstored : after.stored = before.stored + 1)
      (hslots : Grows before.slots after.slots) (hstreams : Grows before.streams after.streams)
      (hlinks : Grows before.links after.links) (hfenced : after.fenced = before.fenced)
      (hfences : after.fences = before.fences) : CountsOnce before after outcome
  | refused (haccepted : outcome.accepted = false)
      (hsubmitted : after.submitted = before.submitted + 1)
      (hcount : after.fenced = before.fenced + 1)
      (hreason : after.fences outcome.fence = before.fences outcome.fence + 1)
      (hothers : ∀ other ≠ outcome.fence, after.fences other = before.fences other)
      (hsame : after.accepted = before.accepted) (hstored : after.stored = before.stored)
      (hslots : after.slots = before.slots) (hstreams : after.streams = before.streams)
      (hlinks : after.links = before.links) : CountsOnce before after outcome

/-- The counters of all components agree about what was accepted and what was refused. -/
structure Observatory.Balanced (σ : Observatory) : Prop where
  submitted : σ.stats.recordsSubmitted.toNat =
    σ.stats.recordsAccepted.toNat + σ.stats.recordsFenced.toNat
  stored : σ.store.totalAccepted = σ.stats.recordsAccepted
  slots : total Slot.accepted σ.store.slots = σ.stats.recordsAccepted.toNat
  streams : total StreamState.accepted σ.store.streams = σ.stats.recordsAccepted.toNat
  links : total (fun link => link.entry.acceptedObservations) σ.registry.links =
    σ.stats.recordsAccepted.toNat
  fences : ∑ reason ∈ FenceReason.all, (σ.fenceCount reason).toNat = σ.stats.recordsFenced.toNat

theorem countFence_getD (counts : FenceCounts) (reason other : FenceReason) :
    (counts.insert reason (counts.getD reason 0 + 1)).getD other 0 =
      if reason = other then counts.getD other 0 + 1 else counts.getD other 0 := by
  split
  · rename_i heq
    subst heq
    exact ExtTreeMap.getD_insert_self
  · rename_i hne
    exact OrderedMap.getD_insert_of_ne counts hne _ _

theorem enterScope_accepted (h : enterScope stream scope = .ok (entered, changed)) :
    entered.accepted = stream.accepted := by
  rcases enterScope_ok h with ⟨-, -, rfl⟩ | ⟨-, -, -, -, rfl⟩ | ⟨-, -, -, rfl⟩
  · rfl
  · rfl
  · rfl

namespace EvidenceStore

/-- What `accept` does to the counters of the store. -/
inductive Counts (store after : EvidenceStore) (outcome : AcceptOutcome) : Prop
  | accepted (haccepted : outcome.accepted = true)
      (hstored : after.totalAccepted = store.totalAccepted + 1)
      (hslots : Grows (countAt Slot.accepted store.slots) (countAt Slot.accepted after.slots))
      (hstreams : Grows (countAt StreamState.accepted store.streams)
        (countAt StreamState.accepted after.streams))
      (hfenced : after.totalFenced = store.totalFenced)
      (hfences : after.fenceCounts = store.fenceCounts) : Counts store after outcome
  | refused (haccepted : outcome.accepted = false)
      (hstored : after.totalAccepted = store.totalAccepted) (hslots : after.slots = store.slots)
      (hstreams : countAt StreamState.accepted after.streams =
        countAt StreamState.accepted store.streams)
      (hfenced : after.totalFenced = store.totalFenced + 1)
      (hfences : after.fenceCounts = store.fenceCounts.insert outcome.fence
        (store.fenceCounts.getD outcome.fence 0 + 1)) : Counts store after outcome

theorem streamFor_accepted (store : EvidenceStore) (source : SourceId) :
    countAt StreamState.accepted store.streams source = (store.streamFor source).accepted :=
  countAt_getD (d := {}) rfl store.streams source

theorem setStream_accepted {store : EvidenceStore} {written : StreamState}
    (h : written.accepted = (store.streamFor source).accepted) :
    countAt StreamState.accepted (store.setStream source written).streams =
      countAt StreamState.accepted store.streams :=
  countAt_insert_same (h.trans (store.streamFor_accepted source).symm)

theorem observeReading_counters (slot : Slot) (observation : Observation) (gapEpoch : UInt64)
    (outcome : AcceptOutcome) (now : TimePoint) :
    (slot.observeReading observation gapEpoch outcome now).1.accepted = slot.accepted ∧
      (slot.observeReading observation gapEpoch outcome now).1.fenced = slot.fenced := by
  unfold Slot.observeReading
  cases counterSampleOf observation gapEpoch with
  | none => exact ⟨rfl, rfl⟩
  | some sample =>
    simp only [Slot.observe, Slot.markGap]
    cases (observeCounter (slot.continuity.getD observation.provenance.source {})
      sample).2.discontinuity <;> split <;> exact ⟨rfl, rfl⟩

theorem recordEvidence_slot (store : EvidenceStore) (observation : Observation)
    (source : SourceRecord) (stream : StreamState) (outcome : AcceptOutcome) (now : TimePoint) :
    ∃ slot, (store.recordEvidence observation source stream outcome now).1.slots =
        store.slots.insert ⟨observation.link, observation.key⟩ slot ∧
      slot.accepted = (store.slotFor ⟨observation.link, observation.key⟩).accepted + 1 ∧
      slot.fenced = (store.slotFor ⟨observation.link, observation.key⟩).fenced := by
  obtain ⟨haccepted, hfenced⟩ := observeReading_counters
    (store.slotFor ⟨observation.link, observation.key⟩) observation stream.gapCount outcome now
  refine ⟨_, rfl, ?_, ?_⟩
  · simp only [Slot.append]
    split
    · exact congrArg (· + 1) haccepted
    · exact congrArg (· + 1) haccepted
  · simp only [Slot.append]
    split
    · exact hfenced
    · exact hfenced

theorem recordEvidence_counts (store : EvidenceStore) (observation : Observation)
    (source : SourceRecord) (stream : StreamState) (outcome : AcceptOutcome) (now : TimePoint)
    (h : stream.accepted = (store.streamFor observation.provenance.source).accepted) :
    store.Counts (store.recordEvidence observation source stream outcome now).1
      (store.recordEvidence observation source stream outcome now).2 := by
  have hslot : countAt Slot.accepted store.slots ⟨observation.link, observation.key⟩ =
      (store.slotFor ⟨observation.link, observation.key⟩).accepted :=
    countAt_getD (d := { key := observation.key }) rfl store.slots _
  obtain ⟨slot, hslots, haccepted, -⟩ :=
    store.recordEvidence_slot observation source stream outcome now
  apply Counts.accepted rfl rfl
  · rw [hslots]
    apply grows_insert
    rw [hslot, haccepted]
  · apply grows_insert
    rw [store.streamFor_accepted, ← h]
    rfl
  · rfl
  · rfl

theorem Counts.of_countGap {store after : EvidenceStore}
    (h : (store.countGap gap).Counts after outcome) : store.Counts after outcome := by
  cases h with
  | accepted haccepted hstored hslots hstreams hfenced hfences =>
    exact .accepted haccepted hstored hslots hstreams hfenced hfences
  | refused haccepted hstored hslots hstreams hfenced hfences =>
    exact .refused haccepted hstored hslots hstreams hfenced hfences

theorem accept_counts (store : EvidenceStore) (observation : Observation)
    (context : AcceptContext) (now : TimePoint) :
    store.Counts (store.accept observation context now).1
      (store.accept observation context now).2 := by
  have hstep := store.accept_step observation context now
  generalize (store.accept observation context now).1 = after at *
  generalize (store.accept observation context now).2 = outcome at *
  cases hstep with
  | refused ha => exact .refused rfl rfl rfl rfl rfl rfl
  | superseded ha hs => exact .refused rfl rfl rfl (setStream_accepted rfl) rfl rfl
  | duplicate ha hs hv =>
    have hentered := enterScope_accepted hs
    exact .refused rfl rfl rfl (setStream_accepted hentered) rfl rfl
  | replay ha hs hv =>
    have hentered := enterScope_accepted hs
    exact .refused rfl rfl rfl (setStream_accepted hentered) rfl rfl
  | @downgrade source stream changed gap ha hs hv hlate =>
    have hopen : (stream.openGap gap).accepted = stream.accepted := by cases gap <;> rfl
    have hcounted : (stream.openGap gap).countFenced.accepted =
        (store.streamFor observation.provenance.source).accepted :=
      hopen.trans (enterScope_accepted hs)
    exact .refused rfl rfl rfl (setStream_accepted hcounted) rfl rfl
  | @full source stream changed gap ha hs hv hlate =>
    have hopen : (stream.openGap gap).accepted = stream.accepted := by cases gap <;> rfl
    exact .refused rfl rfl rfl
      (setStream_accepted (hopen.trans (enterScope_accepted hs))) rfl rfl
  | @recorded source stream changed gap ha hs hv hnone =>
    have hopen : (stream.openGap gap).accepted = stream.accepted := by cases gap <;> rfl
    exact ((store.countGap gap).recordEvidence_counts observation source (stream.openGap gap) _
      now (hopen.trans (enterScope_accepted hs))).of_countGap

end EvidenceStore

namespace LinkRegistry

theorem acceptedOf_some {registry : LinkRegistry} {id : LinkId}
    (h : registry.links[id]? = some state) :
    registry.acceptedOf id = state.entry.acceptedObservations := by
  rw [acceptedOf, countAt, h]
  rfl

theorem updateEntry_acceptedOf (registry : LinkRegistry) (id : LinkId)
    {update : LinkEntry → LinkEntry}
    (h : ∀ entry, (update entry).acceptedObservations = entry.acceptedObservations) :
    (registry.updateEntry id update).acceptedOf = registry.acceptedOf := by
  unfold updateEntry
  cases hfound : registry.links[id]? with
  | none => rfl
  | some state => exact countAt_insert_same ((h _).trans (acceptedOf_some hfound).symm)

theorem noteFenced_acceptedOf (registry : LinkRegistry) (id : LinkId) :
    (registry.noteFenced id).acceptedOf = registry.acceptedOf :=
  registry.updateEntry_acceptedOf id fun _ => rfl

theorem noteAccepted_grows {registry : LinkRegistry} {id : LinkId}
    (h : (registry.links[id]?).isSome) (observedAt acceptedAt : TimePoint) :
    Grows registry.acceptedOf (registry.noteAccepted id observedAt acceptedAt).acceptedOf := by
  obtain ⟨state, hfound⟩ := Option.isSome_iff_exists.1 h
  unfold noteAccepted updateEntry
  rw [hfound]
  apply grows_insert
  have hcount := acceptedOf_some hfound
  rw [acceptedOf] at hcount
  rw [hcount]

theorem observeGeneration_acceptedOf (registry : LinkRegistry) (id : LinkId)
    (generation : GenerationId) :
    (registry.observeGeneration id generation).1.acceptedOf = registry.acceptedOf := by
  unfold observeGeneration
  cases hfound : registry.links[id]? with
  | none => rfl
  | some state => exact countAt_insert_same (acceptedOf_some hfound).symm

theorem reregisterLink_acceptedOf (registry : LinkRegistry) (facts : LinkFacts)
    (existing : LinkRecord) :
    (registry.reregisterLink facts existing).1.acceptedOf = registry.acceptedOf := by
  obtain ⟨observed, hobserved, hresult⟩ := registry.reregisterLink_step facts existing
  have hsame : observed.acceptedOf = registry.acceptedOf := by
    rcases hobserved with rfl | rfl
    · rfl
    · exact registry.observeGeneration_acceptedOf _ _
  rcases hresult with hresult | ⟨state, merged, hstate, -, -, hresult⟩
  · rw [hresult]
    exact hsame
  · rw [hresult]
    exact (countAt_insert_same (acceptedOf_some hstate).symm).trans hsame

theorem registerLink_acceptedOf (registry : LinkRegistry) (facts : LinkFacts) (now : TimePoint) :
    (registry.registerLink facts now).1.acceptedOf = registry.acceptedOf := by
  rcases registry.registerLink_step facts now with hsame |
      ⟨-, ⟨existing, -, hagain⟩ | ⟨hnone, -, hnew⟩⟩
  · rw [hsame]
  · rw [hagain]
    exact registry.reregisterLink_acceptedOf facts existing
  · rw [hnew]
    apply countAt_insert_same
    rw [countAt, hnone]
    rfl

theorem ensureImplicitLink_acceptedOf (registry : LinkRegistry) (id : LinkId) (name : Bytes)
    (now : TimePoint) :
    (registry.ensureImplicitLink id name now).1.acceptedOf = registry.acceptedOf := by
  rcases registry.ensureImplicitLink_step id name now with hsame | hdeclared
  · rw [hsame]
  · rw [hdeclared]
    exact registry.registerLink_acceptedOf { id := id, name := name.take 128 } now

end LinkRegistry

namespace Observatory

@[simp] theorem recordTransition_counters (σ : Observatory) (event : TransitionEvent) :
    (σ.recordTransition event).counters = σ.counters := rfl

theorem recordOutcome_counters (σ : Observatory) (observation : Observation)
    (outcome : AcceptOutcome) (instant : TimePoint) :
    (σ.recordOutcome observation outcome instant).counters = σ.counters := by
  unfold recordOutcome
  cases outcome.discontinuity <;> cases outcome.revisionGap <;> rfl

theorem refreshClassification_counters (σ : Observatory) (link : LinkId) (instant : TimePoint) :
    (σ.refreshClassification link instant).counters = σ.counters := by
  have hstate (σ : Observatory) (current : Classification) :
      (σ.trackState link instant current).counters = σ.counters := by
    unfold trackState
    simp only
    split
    · rfl
    · split
      · rfl
      · rfl
  have hoper (σ : Observatory) (current : Classification) :
      (σ.trackOper link instant current).counters = σ.counters := by
    unfold trackOper
    simp only
    split
    · rfl
    · rfl
  have hadmin (σ : Observatory) (current : Classification) :
      (σ.trackAdmin link instant current).counters = σ.counters := by
    unfold trackAdmin
    simp only
    split
    · rfl
    · rfl
  unfold refreshClassification
  simp only
  rw [hadmin, hoper, hstate]
  rfl

theorem fenceCount_store (σ : Observatory) {after : EvidenceStore}
    (h : after.fenceCounts = σ.store.fenceCounts.insert reason
      (σ.store.fenceCounts.getD reason 0 + 1)) (other : FenceReason) :
    fenceCount { σ with store := after } other =
      if reason = other then σ.fenceCount other + 1 else σ.fenceCount other := by
  rw [fenceCount, h, countFence_getD]
  split
  · rw [fenceCount, add_right_comm]
  · rfl

theorem fenceCount_own (σ : Observatory) (reason other : FenceReason) :
    (σ.countOwnFence reason).fenceCount other =
      if reason = other then σ.fenceCount other + 1 else σ.fenceCount other := by
  rw [fenceCount, countOwnFence, countFence_getD]
  split
  · rw [fenceCount, add_assoc]
  · rfl

theorem counts_refused {σ σ' : Observatory} {after : EvidenceStore}
    (hsubmitted : σ.stats.recordsSubmitted = submitted + 1)
    (hcounts : σ.store.Counts after outcome) (haccepted : outcome.accepted = false)
    (hafter : σ'.counters = { (countFenced { σ with store := after }).counters with
      links := σ.registry.acceptedOf }) :
    { σ.counters with submitted := submitted }.CountsOnce σ'.counters outcome := by
  cases hcounts with
  | accepted h => rw [haccepted] at h; cases h
  | refused _ hstored hslots hstreams _ hfences =>
    rw [hafter]
    have hfence := σ.fenceCount_store hfences
    apply RecordCounters.CountsOnce.refused haccepted hsubmitted rfl
    · exact (hfence _).trans (if_pos rfl)
    · intro other hne
      exact (hfence other).trans (if_neg (Ne.symm hne))
    · rfl
    · exact hstored
    · exact congrArg (countAt Slot.accepted) hslots
    · exact hstreams
    · rfl

theorem counts_own {σ σ' : Observatory} (reason : FenceReason)
    (hsubmitted : σ.stats.recordsSubmitted = submitted + 1)
    (hafter : σ'.counters = { (σ.countOwnFence reason).countFenced.counters with
      links := σ.registry.acceptedOf }) :
    { σ.counters with submitted := submitted }.CountsOnce σ'.counters { fence := reason } := by
  rw [hafter]
  have hfence := σ.fenceCount_own reason
  apply RecordCounters.CountsOnce.refused rfl hsubmitted rfl
  · exact (hfence _).trans (if_pos rfl)
  · intro other hne
    exact (hfence other).trans (if_neg (Ne.symm hne))
  · rfl
  · rfl
  · rfl
  · rfl
  · rfl

theorem applyKnown_counts {σ : Observatory} {observation : Observation}
    (hlink : (σ.registry.links[observation.link]?).isSome)
    (hsubmitted : σ.stats.recordsSubmitted = submitted + 1) (source : SourceRecord)
    (instant : TimePoint) :
    { σ.counters with submitted := submitted }.CountsOnce
      (σ.applyKnown observation source instant).1.counters
      (σ.applyKnown observation source instant).2 := by
  unfold applyKnown acceptInto
  simp only
  generalize hresult : σ.store.accept observation
    { source := some source, currentGeneration := σ.registry.currentGeneration observation.link }
    instant = result
  have hcounts : σ.store.Counts result.1 result.2 := by
    rw [← hresult]
    exact σ.store.accept_counts observation _ instant
  cases ha : result.2.accepted with
  | false =>
    simp only [Bool.not_false, ↓reduceIte]
    apply counts_refused hsubmitted hcounts ha
    rw [← σ.registry.noteFenced_acceptedOf observation.link]
    rfl
  | true =>
    simp only [Bool.not_true, Bool.false_eq_true, ↓reduceIte]
    rw [refreshClassification_counters, recordOutcome_counters]
    cases hcounts with
    | refused h => rw [ha] at h; cases h
    | accepted _ hstored hslots hstreams _ hfences =>
      apply RecordCounters.CountsOnce.accepted ha hsubmitted rfl hstored hslots hstreams
      · exact LinkRegistry.noteAccepted_grows hlink _ _
      · rfl
      · funext reason
        simp only [counters, fenceCount, hfences]

theorem applyGeneration_counts (σ : Observatory) (observation : Observation)
    (hsubmitted : σ.stats.recordsSubmitted = submitted + 1) (source : SourceRecord)
    (instant : TimePoint) :
    { σ.counters with submitted := submitted }.CountsOnce
      (σ.applyGeneration observation source instant).1.counters
      (σ.applyGeneration observation source instant).2 := by
  unfold applyGeneration
  simp only
  have hlinks := σ.registry.observeGeneration_acceptedOf observation.link
    observation.provenance.generation
  have hknown : (σ.registry.observeGeneration observation.link
      observation.provenance.generation).2.behind = false →
      ((σ.registry.observeGeneration observation.link
        observation.provenance.generation).1.links[observation.link]?).isSome := by
    unfold LinkRegistry.observeGeneration
    cases hfound : σ.registry.links[observation.link]? with
    | none => intro h; cases h
    | some state => intro _; rw [ExtTreeMap.getElem?_insert_self]; rfl
  generalize σ.registry.observeGeneration observation.link
    observation.provenance.generation = observed at *
  have happly (τ : Observatory) (hb : observed.2.behind = false)
      (hregistry : τ.registry = observed.1)
      (hsubmitted : τ.stats.recordsSubmitted = submitted + 1)
      (hcounters : τ.counters = { σ.counters with links := τ.registry.acceptedOf }) :
      { σ.counters with submitted := submitted }.CountsOnce
        (τ.applyKnown observation source instant).1.counters
        (τ.applyKnown observation source instant).2 := by
    have hlink : (τ.registry.links[observation.link]?).isSome := by
      rw [hregistry]
      exact hknown hb
    have hcounts := applyKnown_counts hlink hsubmitted source instant
    rw [hcounters, hregistry, hlinks] at hcounts
    exact hcounts
  cases hb : observed.2.behind with
  | true =>
    simp only [↓reduceIte]
    apply counts_own .generationBehind hsubmitted
    rw [← hlinks, ← observed.1.noteFenced_acceptedOf observation.link]
    rfl
  | false =>
    simp only [Bool.false_eq_true, ↓reduceIte]
    split
    · exact happly _ hb rfl hsubmitted rfl
    · exact happly _ hb rfl hsubmitted rfl

theorem acceptInto_refused (σ : Observatory) (observation : Observation)
    (source : Option SourceRecord) (enabled : Bool) (instant : TimePoint)
    (hno : ∀ record, source = some record → record.retired = true ∨ enabled = false) :
    (σ.acceptInto observation source enabled instant).2.accepted = false := by
  unfold acceptInto EvidenceStore.accept
  simp only
  split
  · rfl
  · rename_i hadmission
    exact absurd hadmission (EvidenceStore.admission_refused hno rfl)

theorem refuse_counts (σ : Observatory) (observation : Observation)
    (hsubmitted : σ.stats.recordsSubmitted = submitted + 1) {source : Option SourceRecord}
    {enabled : Bool} (instant : TimePoint)
    (hno : ∀ record, source = some record → record.retired = true ∨ enabled = false) :
    { σ.counters with submitted := submitted }.CountsOnce
      (if !(σ.acceptInto observation source enabled instant).2.accepted then
        (σ.acceptInto observation source enabled instant).1.countFenced
      else (σ.acceptInto observation source enabled instant).1).counters
      (σ.acceptInto observation source enabled instant).2 := by
  have hfalse := σ.acceptInto_refused observation source enabled instant hno
  have haccept := σ.store.accept_counts observation
    { source := source
      currentGeneration := σ.registry.currentGeneration observation.link
      familyEnabled := enabled } instant
  simp only [hfalse, Bool.not_false, ↓reduceIte]
  exact counts_refused hsubmitted haccept hfalse rfl

theorem ensured_counts (σ : Observatory) (observation : Observation)
    (hsubmitted : σ.stats.recordsSubmitted = submitted + 1) (source : SourceRecord)
    (name : Bytes) (instant : TimePoint) :
    let ensured := σ.registry.ensureImplicitLink observation.link name instant
    let result := applyGeneration { σ with registry := ensured.1 } observation source instant
    { σ.counters with submitted := submitted }.CountsOnce result.1.counters result.2 := by
  have hlinks := σ.registry.ensureImplicitLink_acceptedOf observation.link name instant
  generalize σ.registry.ensureImplicitLink observation.link name instant = ensured at *
  have hcounts := applyGeneration_counts { σ with registry := ensured.1 } observation hsubmitted
    source instant
  have hsame : counters { σ with registry := ensured.1 } = σ.counters := by
    simp only [counters, hlinks]
    rfl
  rw [hsame] at hcounts
  exact hcounts

theorem applyObservation_counts (σ : Observatory) (observation : Observation)
    (instant : TimePoint) :
    σ.counters.CountsOnce (σ.applyObservation observation instant).1.counters
      (σ.applyObservation observation instant).2 := by
  have hsubmitted : ({ σ with stats.recordsSubmitted := σ.stats.recordsSubmitted + 1 } :
      Observatory).stats.recordsSubmitted = σ.stats.recordsSubmitted + 1 := rfl
  unfold applyObservation
  simp only
  cases σ.registry.findSource observation.provenance.source with
  | none =>
    apply refuse_counts _ observation hsubmitted
    intro record hrecord
    cases hrecord
  | some source =>
    simp only
    cases hretired : source.retired with
    | true =>
      simp only [↓reduceIte]
      apply refuse_counts _ observation hsubmitted
      intro record hrecord
      cases hrecord
      exact .inl hretired
    | false =>
      simp only [Bool.false_eq_true, ↓reduceIte]
      cases henabled : σ.config.families.isEnabled observation.key.family with
      | false =>
        simp only [Bool.not_false, ↓reduceIte]
        apply refuse_counts _ observation hsubmitted
        intro record hrecord
        exact .inr rfl
      | true =>
        simp only [Bool.not_true, Bool.false_eq_true, ↓reduceIte]
        split
        · split
          · apply counts_own .unknownLink hsubmitted
            have hlinks := σ.registry.ensureImplicitLink_acceptedOf observation.link
              observation.link.toString instant
            simp only [counters]
            rw [← hlinks]
            rfl
          · exact ensured_counts _ observation hsubmitted source _ instant
        · exact applyGeneration_counts _ observation hsubmitted source instant

theorem applySource_counters (σ : Observatory) (declaration : SourceDecl) :
    (σ.applySource declaration).1.counters = σ.counters := by
  have hlinks : (σ.applySource declaration).1.registry.acceptedOf = σ.registry.acceptedOf := by
    rw [LinkRegistry.acceptedOf, LinkRegistry.acceptedOf, applySource_links]
  have hrest : (σ.applySource declaration).1.counters =
      { σ.counters with links := (σ.applySource declaration).1.registry.acceptedOf } := by
    unfold applySource
    simp only
    split
    · rfl
    · split
      · split <;> rfl
      · split <;> rfl
  rw [hrest, hlinks]
  rfl

theorem applyLink_counters (σ : Observatory) (declaration : LinkDecl) (instant : TimePoint) :
    (σ.applyLink declaration instant).1.counters = σ.counters := by
  have hregistered := σ.registry.registerLink_acceptedOf (makeLinkFacts declaration) instant
  unfold applyLink
  simp only
  generalize σ.registry.registerLink (makeLinkFacts declaration) instant = registered at *
  split
  · rw [counters, counters, ← hregistered]
    rfl
  · have hobserved := registered.1.observeGeneration_acceptedOf (makeLinkFacts declaration).id
      (makeLinkFacts declaration).generation
    rw [counters, counters, ← hregistered, ← hobserved]
    split
    · split
      · rfl
      · rfl
    · split
      · rfl
      · rfl

/-- An observation that is counted once keeps the balance, as long as the counter has room. -/
theorem Balanced.step {σ σ' : Observatory} (h : σ.Balanced)
    (hcounts : σ.counters.CountsOnce σ'.counters outcome)
    (hroom : σ.stats.recordsSubmitted.toNat + 1 < 2 ^ 64) : σ'.Balanced := by
  have hgrown {before after : UInt64} (hadd : after = before + 1)
      (hle : before.toNat ≤ σ.stats.recordsSubmitted.toNat) : after.toNat = before.toNat + 1 := by
    rw [hadd, UInt64.toNat_add]
    have hone : (1 : UInt64).toNat = 1 := rfl
    omega
  have hbalance := h.submitted
  cases hcounts with
  | accepted _ hsubmitted hcount hstored hslots hstreams hlinks hfenced hfences =>
    have hsubmitted' := hgrown hsubmitted (Nat.le_refl _)
    have hcount' := hgrown hcount (by simp only [counters]; omega)
    simp only [counters] at *
    constructor
    · rw [hsubmitted', hcount', hfenced]
      omega
    · rw [hstored, hcount, h.stored]
    · rw [total_grows hslots (by rw [h.slots]; omega), h.slots, hcount']
    · rw [total_grows hstreams (by rw [h.streams]; omega), h.streams, hcount']
    · rw [total_grows hlinks (by rw [h.links]; omega), h.links, hcount']
    · rw [hfences, hfenced, h.fences]
  | refused _ hsubmitted hcount hreason hothers hsame hstored hslots hstreams hlinks =>
    have hsubmitted' := hgrown hsubmitted (Nat.le_refl _)
    have hcount' := hgrown hcount (by simp only [counters]; omega)
    simp only [counters] at *
    constructor
    · rw [hsubmitted', hcount', hsame]
      omega
    · rw [hstored, hsame, h.stored]
    · rw [total_congr hslots, h.slots, hsame]
    · rw [total_congr hstreams, h.streams, hsame]
    · rw [total_congr hlinks, h.links, hsame]
    · have hfences : Grows σ.fenceCount σ'.fenceCount := ⟨_, hreason, hothers⟩
      rw [sum_grows hfences (fun reason _ => reason.mem_all) (by rw [h.fences]; omega), h.fences,
        hcount']

theorem Balanced.keep {σ σ' : Observatory} (h : σ.Balanced) (hsame : σ'.counters = σ.counters) :
    σ'.Balanced := by
  have hsubmitted := congrArg RecordCounters.submitted hsame
  have haccepted := congrArg RecordCounters.accepted hsame
  have hfenced := congrArg RecordCounters.fenced hsame
  have hfences := congrArg RecordCounters.fences hsame
  have hstored := congrArg RecordCounters.stored hsame
  have hslots := congrArg RecordCounters.slots hsame
  have hstreams := congrArg RecordCounters.streams hsame
  have hlinks := congrArg RecordCounters.links hsame
  simp only [counters] at *
  constructor
  · rw [hsubmitted, haccepted, hfenced, h.submitted]
  · rw [hstored, haccepted, h.stored]
  · rw [total_congr hslots, haccepted, h.slots]
  · rw [total_congr hstreams, haccepted, h.streams]
  · rw [total_congr hlinks, haccepted, h.links]
  · rw [hfences, hfenced, h.fences]

theorem Balanced.fresh (config : RuntimeConfig) : (fresh config).Balanced where
  submitted := rfl
  stored := rfl
  slots := total_empty _
  streams := total_empty _
  links := total_empty _
  fences := by
    apply Finset.sum_eq_zero
    intro reason _
    show ((∅ : FenceCounts).getD reason 0 + (∅ : FenceCounts).getD reason 0).toNat = 0
    rw [ExtTreeMap.getD_empty]
    rfl

/-- The records that are observations. -/
def observations (records : List (ParsedRecord × TimePoint)) : Nat :=
  records.countP fun record =>
    match record.1 with
    | .observation _ => true
    | _ => false

theorem run_append_one (config : RuntimeConfig) (records : List (ParsedRecord × TimePoint))
    (record : ParsedRecord) (instant : TimePoint) :
    run config (records ++ [(record, instant)]) =
      ((run config records).applyRecord record instant).1 := by
  rw [run, run, List.foldl_append]
  rfl

theorem run_counted (config : RuntimeConfig) (records : List (ParsedRecord × TimePoint))
    (h : records.length < 2 ^ 64) :
    (run config records).Balanced ∧
      (run config records).stats.recordsSubmitted.toNat = observations records := by
  induction records using List.reverseRecOn with
  | nil => exact ⟨.fresh config, rfl⟩
  | append_singleton records entry ih =>
    rw [List.length_append, List.length_singleton] at h
    obtain ⟨hbalanced, hcount⟩ := ih (by omega)
    obtain ⟨record, instant⟩ := entry
    have hle : observations records ≤ records.length := List.countP_le_length
    have hmore : observations (records ++ [(record, instant)]) =
        observations records + observations [(record, instant)] := List.countP_append
    rw [run_append_one, hmore]
    generalize run config records = σ at *
    cases record with
    | none => exact ⟨hbalanced, hcount⟩
    | source declaration =>
      have hsame := σ.applySource_counters declaration
      exact ⟨hbalanced.keep hsame,
        (congrArg (fun c => c.submitted.toNat) hsame).trans hcount⟩
    | link declaration =>
      have hsame := σ.applyLink_counters declaration instant
      exact ⟨hbalanced.keep hsame,
        (congrArg (fun c => c.submitted.toNat) hsame).trans hcount⟩
    | observation declaration =>
      have hroom : σ.stats.recordsSubmitted.toNat + 1 < 2 ^ 64 := by omega
      have hcounts := σ.applyObservation_counts (makeObservation declaration) instant
      refine ⟨hbalanced.step hcounts hroom, ?_⟩
      have hsubmitted :
          (σ.applyObservation (makeObservation declaration) instant).1.counters.submitted =
            σ.stats.recordsSubmitted + 1 := by
        cases hcounts with
        | accepted _ hsubmitted => exact hsubmitted
        | refused _ hsubmitted => exact hsubmitted
      show (σ.applyObservation (makeObservation declaration) instant).1.counters.submitted.toNat
        = observations records + 1
      rw [hsubmitted, UInt64.toNat_add, hcount]
      have hone : (1 : UInt64).toNat = 1 := rfl
      omega

/-- Over any run of a fresh process all counters of accepted and refused records agree, every
observation has been counted, and the next one is counted once, with one reason if it is refused. -/
theorem run_balanced (config : RuntimeConfig) (records : List (ParsedRecord × TimePoint))
    (h : records.length < 2 ^ 64) :
    (run config records).Balanced ∧
    (run config records).stats.recordsSubmitted.toNat = observations records ∧
    ∀ observation instant, (run config records).counters.CountsOnce
      ((run config records).applyObservation observation instant).1.counters
      ((run config records).applyObservation observation instant).2 := by
  obtain ⟨hbalanced, hcount⟩ := run_counted config records h
  exact ⟨hbalanced, hcount, applyObservation_counts _⟩

/-- A reading is accepted, its replay is refused, and so is a reading of an undeclared source. -/
theorem run_balanced_generation :
    let replayed : ObservationDecl :=
      { link := ascii "l", source := ascii "s", incarnation := ascii "i", epoch := ascii "e"
        generation := ascii "g", revision := 5, payload := .adminState .enabled }
    let records := generationRun ++
      [(.observation replayed, ⟨1⟩), (.observation { replayed with source := ascii "t" }, ⟨2⟩)]
    let σ := run { policy := makeDefaultPolicy } records
    σ.stats.recordsAccepted = 1 ∧ σ.stats.recordsFenced = 2 ∧ σ.Balanced ∧
      σ.stats.recordsSubmitted.toNat = 3 ∧
      ∀ observation instant, σ.counters.CountsOnce
        (σ.applyObservation observation instant).1.counters
        (σ.applyObservation observation instant).2 := by
  intro replayed records
  exact ⟨by decide +kernel, by decide +kernel,
    run_balanced { policy := makeDefaultPolicy } records (by decide)⟩

end Observatory

end LinkObservatory
