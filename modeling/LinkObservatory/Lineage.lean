import LinkObservatory.Recovery

namespace LinkObservatory
set_option autoImplicit true

open Std

/-- The revision gaps of one source that a list of decisions found. -/
def gapsOf (source : SourceId) (log : List Decision) : Nat :=
  log.countP fun decision => decision.1.provenance.source == source && decision.2.revisionGap

theorem gapsOf_append (source : SourceId) (log more : List Decision) :
    gapsOf source (log ++ more) = gapsOf source log + gapsOf source more := List.countP_append

theorem gapsOf_singleton (source : SourceId) (decision : Decision) :
    gapsOf source [decision] =
      (decision.1.provenance.source == source && decision.2.revisionGap).toNat := by
  rw [gapsOf, List.countP_singleton]
  cases decision.1.provenance.source == source && decision.2.revisionGap <;> rfl

/-- A decision that accepted an observation of the source for the slot. -/
def AcceptedFor (source : SourceId) (slotKey : SlotKey) (decision : Decision) : Prop :=
  decision.2.accepted = true ∧ decision.1.provenance.source = source ∧
    SlotKey.mk decision.1.link decision.1.key = slotKey

/-- The last decision of a log that accepted an observation of the source for the slot, and the
decisions before it. -/
structure LastAccepted (source : SourceId) (slotKey : SlotKey) (log before : List Decision)
    (last : Decision) : Prop where
  accepted : AcceptedFor source slotKey last
  split : ∃ after, log = before ++ last :: after ∧
    ∀ decision ∈ after, ¬AcceptedFor source slotKey decision

theorem LastAccepted.skip (h : LastAccepted source slotKey log before last)
    (hskip : ¬AcceptedFor source slotKey decision) :
    LastAccepted source slotKey (log ++ [decision]) before last := by
  obtain ⟨haccepted, after, rfl, hafter⟩ := h
  refine ⟨haccepted, after ++ [decision], by simp, fun later hmem => ?_⟩
  rcases List.mem_append.1 hmem with hmem | hmem
  · exact hafter later hmem
  · rw [List.mem_singleton.1 hmem]
    exact hskip

theorem LastAccepted.new (h : AcceptedFor source slotKey decision) (log : List Decision) :
    LastAccepted source slotKey (log ++ [decision]) log decision :=
  ⟨h, [], rfl, fun _ hmem => (List.not_mem_nil hmem).elim⟩

/-- The sample that a decision contributed, given the decisions before it: its gap epoch is the
number of gaps found in the source's revisions so far. -/
def sampleAfter (source : SourceId) (before : List Decision) (decision : Decision) :
    Option CounterSample :=
  counterSampleOf decision.1 (UInt64.ofNat (gapsOf source (before ++ [decision])))

/-- What the continuity of one source and slot retains of a log: the samples of the last two
observations it accepted. -/
structure Retains (source : SourceId) (slotKey : SlotKey) (log : List Decision)
    (state : CounterContinuity) : Prop where
  unseen : state.hasLatest = false → state.hasPrevious = false
  latest : state.hasLatest = true → ∃ before last,
    LastAccepted source slotKey log before last ∧
      sampleAfter source before last = some state.latest
  previous : state.hasPrevious = true → ∃ before first between last,
    LastAccepted source slotKey log between last ∧
      LastAccepted source slotKey between before first ∧
      sampleAfter source between last = some state.latest ∧
      sampleAfter source before first = some state.previous

theorem Retains.skip (h : Retains source slotKey log state)
    (hskip : ¬AcceptedFor source slotKey decision) :
    Retains source slotKey (log ++ [decision]) state where
  unseen := h.unseen
  latest hhas := by
    obtain ⟨before, last, hlast, hsample⟩ := h.latest hhas
    exact ⟨before, last, hlast.skip hskip, hsample⟩
  previous hhas := by
    obtain ⟨before, first, between, last, hlast, hrest⟩ := h.previous hhas
    exact ⟨before, first, between, last, hlast.skip hskip, hrest⟩

theorem Retains.observe (h : Retains source slotKey log state)
    (haccepted : AcceptedFor source slotKey decision)
    (hsample : sampleAfter source log decision = some sample) :
    Retains source slotKey (log ++ [decision]) (observeCounter state sample).1 where
  unseen hhas := nomatch hhas
  latest _ := ⟨log, decision, .new haccepted log, hsample⟩
  previous hhas := by
    cases hlatest : state.hasLatest with
    | false =>
      simp [observeCounter, hlatest, h.unseen hlatest] at hhas
    | true =>
      obtain ⟨before, last, hlast, hlastSample⟩ := h.latest hlatest
      refine ⟨before, last, log, decision, .new haccepted log, hlast, hsample, ?_⟩
      simp only [observeCounter, hlatest, if_true]
      exact hlastSample

/-- While the source stays in the scope of an accepted observation and no gap is found, every later
revision up to the last one was accepted. -/
def Unbroken (first : Observation) (later : List Decision) (store : EvidenceStore) : Prop :=
  (store.streamFor first.provenance.source).scope = scopeOf first.provenance →
    gapsOf first.provenance.source later = 0 →
    ∀ revision : UInt64, first.provenance.sequence < revision →
      revision ≤ (store.streamFor first.provenance.source).lastSequence →
      ∃ decision ∈ later, decision.2.accepted = true ∧
        scopeOf decision.1.provenance = scopeOf first.provenance ∧
        decision.1.provenance.sequence = revision

theorem enterScope_lastSequence (h : enterScope stream scope = .ok (entered, changed)) :
    entered.lastSequence = stream.lastSequence := by
  rcases enterScope_ok h with ⟨-, -, rfl⟩ | ⟨-, -, -, -, rfl⟩ | ⟨-, -, -, rfl⟩ <;> rfl

theorem StreamState.openGap_lastSequence (stream : StreamState) (gap : Bool) :
    (stream.openGap gap).lastSequence = stream.lastSequence := by
  cases gap <;> rfl

theorem StreamState.openGap_gapCount (stream : StreamState) (gap : Bool) :
    (stream.openGap gap).gapCount = stream.gapCount + UInt64.ofNat gap.toNat := by
  cases gap with
  | false => simp [openGap]
  | true => rfl

theorem StreamStep.lastSequence_kept (h : StreamStep stream observation outcome written)
    (hrefused : outcome.accepted = false) : written.lastSequence = stream.lastSequence := by
  cases h with
  | untouched => rfl
  | superseded => rfl
  | refused hs =>
    have hkept := enterScope_lastSequence hs
    exact hkept
  | refusedLate hs _ _ hw =>
    rcases hw with rfl | rfl
    · rw [StreamState.openGap_lastSequence, enterScope_lastSequence hs]
    · show (StreamState.openGap _ _).lastSequence = _
      rw [StreamState.openGap_lastSequence, enterScope_lastSequence hs]
  | advanced _ _ haccepted =>
    rw [hrefused] at haccepted
    cases haccepted

theorem StreamStep.next_revision (h : StreamStep stream observation outcome written)
    (haccepted : outcome.accepted = true) (hhas : stream.hasScope = true)
    (hscope : stream.scope = scopeOf observation.provenance) (hstarted : stream.hasSequence = true)
    (hgap : outcome.revisionGap = false) :
    written.lastSequence = observation.provenance.sequence ∧
      observation.provenance.sequence.toNat = stream.lastSequence.toNat + 1 := by
  cases h with
  | advanced hs hv _ =>
    refine ⟨rfl, ?_⟩
    rcases enterScope_ok hs with ⟨hno, -⟩ | ⟨-, hne, -⟩ | ⟨-, -, -, rfl⟩
    · rw [hhas] at hno
      cases hno
    · exact absurd hscope hne
    rcases (judgeRevision_next _ _ _).1 hv with ⟨hno, -⟩ | ⟨-, hlt, hopen⟩
    · rw [hstarted] at hno
      cases hno
    rw [hgap, eq_comm, decide_eq_false_iff_not] at hopen
    omega
  | untouched hno => rw [hno] at haccepted; cases haccepted
  | superseded _ hno => rw [hno] at haccepted; cases haccepted
  | refused _ _ _ hno => rw [hno] at haccepted; cases haccepted
  | refusedLate _ _ hno => rw [hno] at haccepted; cases haccepted

theorem StreamStep.gapCount_eq (h : StreamStep stream observation outcome written) :
    written.gapCount = stream.gapCount + UInt64.ofNat outcome.revisionGap.toNat := by
  have hnone (hgap : outcome.revisionGap = false) :
      stream.gapCount = stream.gapCount + UInt64.ofNat outcome.revisionGap.toNat := by
    simp [hgap]
  cases h with
  | untouched _ _ hgap => exact hnone hgap
  | superseded _ _ _ hgap => exact hnone hgap
  | refused hs _ _ _ hgap => exact (enterScope_gapCount hs).1.trans (hnone hgap)
  | refusedLate hs _ _ hw =>
    rcases hw with rfl | rfl
    · rw [StreamState.openGap_gapCount, (enterScope_gapCount hs).1]
    · show (StreamState.openGap _ _).gapCount = _
      rw [StreamState.openGap_gapCount, (enterScope_gapCount hs).1]
  | advanced hs _ _ =>
    show (StreamState.openGap _ _).gapCount = _
    rw [StreamState.openGap_gapCount, (enterScope_gapCount hs).1]

theorem Guards.in_force (h : Guards scope revision stream changes) (hscope : stream.scope = scope) :
    stream.hasScope = true ∧ stream.hasSequence = true ∧
      revision.toNat ≤ stream.lastSequence.toNat := by
  cases h with
  | inForce hhas _ hstarted hle => exact ⟨hhas, hstarted, hle⟩
  | superseded _ hne => exact absurd hscope hne

theorem Unbroken.accept (h : Unbroken first later store) (hfenced : Fenced first later store)
    (observation : Observation) (context : AcceptContext) (now : TimePoint)
    (hroom : scopeChangesOf first.provenance.source
      (later ++ [(observation, (store.accept observation context now).2)]) ≤ kMaxRetiredScopes) :
    Unbroken first (later ++ [(observation, (store.accept observation context now).2)])
      (store.accept observation context now).1 := by
  intro hscope hgaps revision hlower hupper
  rw [gapsOf_append, gapsOf_singleton] at hgaps
  have hlater (hbefore : (store.streamFor first.provenance.source).scope =
      scopeOf first.provenance)
      (hle : revision ≤ (store.streamFor first.provenance.source).lastSequence) :
      ∃ decision ∈ later ++ [(observation, (store.accept observation context now).2)],
        decision.2.accepted = true ∧ scopeOf decision.1.provenance = scopeOf first.provenance ∧
        decision.1.provenance.sequence = revision := by
    obtain ⟨decision, hmem, hdecision⟩ := h hbefore (by omega) revision hlower hle
    exact ⟨decision, List.mem_append_left _ hmem, hdecision⟩
  by_cases hsource : observation.provenance.source = first.provenance.source
  · have hstep := store.accept_streamStep observation context now
    rw [hsource] at hstep
    rw [scopeChangesOf_append] at hroom
    simp only [hsource, BEq.rfl, Bool.true_and] at hroom hgaps
    obtain ⟨hbefore, hsame⟩ := hfenced.guard.step_scope hstep hroom hscope
    cases haccepted : (store.accept observation context now).2.accepted with
    | false =>
      rw [hstep.lastSequence_kept haccepted] at hupper
      exact hlater hbefore hupper
    | true =>
      -- the new revision is the next one, so whatever lies below it was there before
      obtain ⟨hhas, hstarted, -⟩ := hfenced.guard.in_force hbefore
      have hgap : (store.accept observation context now).2.revisionGap = false := by
        cases hopen : (store.accept observation context now).2.revisionGap with
        | false => rfl
        | true => simp [hopen] at hgaps
      obtain ⟨hlast, hnext⟩ := hstep.next_revision haccepted hhas
        (hbefore.trans (hsame haccepted).symm) hstarted hgap
      rw [hlast] at hupper
      by_cases heq : revision = observation.provenance.sequence
      · exact ⟨_, List.mem_append_right _ (List.mem_singleton.2 rfl), haccepted, hsame haccepted,
          heq.symm⟩
      · refine hlater hbefore (UInt64.le_iff_toNat_le.2 ?_)
        have hne : revision.toNat ≠ observation.provenance.sequence.toNat :=
          fun hnat => heq (UInt64.toNat_inj.1 hnat)
        have hle := UInt64.le_iff_toNat_le.1 hupper
        omega
  · have hother := EvidenceStore.streamFor_congr
      (store.accept_stream_other observation context now hsource)
    rw [hother] at hscope hupper
    exact hlater hscope hupper

theorem Fenced.skip (h : Fenced first later store) (hrefused : decision.2.accepted = false)
    (hkept : decision.2.scopeChanged = false) : Fenced first (later ++ [decision]) store where
  guard := by
    rw [scopeChangesOf_append, hkept, Bool.and_false]
    exact h.guard
  stayed hscope later hmem hsource haccepted := by
    rcases List.mem_append.1 hmem with hmem | hmem
    · exact h.stayed hscope later hmem hsource haccepted
    · rw [List.mem_singleton.1 hmem, hrefused] at haccepted
      cases haccepted

theorem Unbroken.skip (h : Unbroken first later store) (decision : Decision) :
    Unbroken first (later ++ [decision]) store := by
  intro hscope hgaps revision hlower hupper
  rw [gapsOf_append] at hgaps
  obtain ⟨decision, hmem, hdecision⟩ := h hscope (by omega) revision hlower hupper
  exact ⟨decision, List.mem_append_left _ hmem, hdecision⟩

theorem Unbroken.of_accepted {store : EvidenceStore}
    (h : (store.accept observation context now).2.accepted = true) :
    Unbroken observation [] (store.accept observation context now).1 := by
  intro _ _ revision hlower hupper
  have hstep := store.accept_streamStep observation context now
  have hlast : ((store.accept observation context now).1.streamFor
      observation.provenance.source).lastSequence = observation.provenance.sequence := by
    generalize (store.accept observation context now).1.streamFor
      observation.provenance.source = written at *
    cases hstep with
    | advanced => rfl
    | untouched hno => rw [h] at hno; cases hno
    | superseded _ hno => rw [h] at hno; cases hno
    | refused _ _ _ hno => rw [h] at hno; cases hno
    | refusedLate _ _ hno => rw [h] at hno; cases hno
  rw [hlast] at hupper
  exact absurd hlower (UInt64.not_lt.2 hupper)

/-- What the store retains of the decisions that led to it. -/
structure Lineage (policy : Policy) (log : List Decision) (store : EvidenceStore) : Prop where
  valid : ∀ decision ∈ log, decision.2.accepted = true →
    (validateObservation decision.1 policy).ok = true
  gaps : ∀ source, (store.streamFor source).gapCount = UInt64.ofNat (gapsOf source log)
  revisions : Since (fun first later store =>
    scopeChangesOf first.provenance.source later ≤ kMaxRetiredScopes →
      Fenced first later store ∧ Unbroken first later store) log store
  continuity : ∀ source (slotKey : SlotKey), isCounterFamily slotKey.key.family = true →
    Retains source slotKey log ((store.slotFor slotKey).continuity.getD source {})
  history : ∀ slotKey : SlotKey, (store.slotFor slotKey).history.map Evidence.observation <:+
    (log.filter fun decision => decision.2.accepted &&
      SlotKey.mk decision.1.link decision.1.key == slotKey).map Prod.fst

theorem validateReading_width
    (h : (validateReading key (.counter reading) policy).ok = true)
    (hwidth : reading.width = .bits32) : reading.raw ≤ 0xFFFFFFFF := by
  by_contra hlarge
  have hbad : reading.width = .bits32 ∧ reading.raw > 0xFFFFFFFF := ⟨hwidth, UInt64.not_le.1 hlarge⟩
  simp only [validateReading, if_pos hbad] at h
  repeat' split at h
  all_goals simp [Status.ok, Status.of] at h

theorem counterSampleOf_valid (hvalid : (validateObservation observation policy).ok = true)
    (hfamily : isCounterFamily observation.key.family = true) (gapEpoch : UInt64) :
    ∃ reading, observation.payload = .counter reading ∧
      (reading.width = .bits32 → reading.raw ≤ 0xFFFFFFFF) ∧
      counterSampleOf observation gapEpoch = some
        { reading := reading
          observedAt := observation.observedAt
          receivedAt := observation.receivedAt
          sequence := observation.provenance.sequence
          scope := scopeOf observation.provenance
          generation := observation.provenance.generation
          gapEpoch := gapEpoch } := by
  obtain ⟨-, -, hreading⟩ := validateObservation_ok hvalid
  obtain ⟨reading, hpayload⟩ := payload_of_counter_family hfamily (validateReading_matches hreading)
  rw [hpayload] at hreading
  refine ⟨reading, hpayload, validateReading_width hreading, ?_⟩
  rw [counterSampleOf, if_pos hfamily, hpayload]

namespace Lineage

theorem empty (policy policy' : Policy) : Lineage policy [] { policy := policy' } where
  valid _ hmem := (List.not_mem_nil hmem).elim
  gaps source := by simp [EvidenceStore.streamFor, gapsOf]
  revisions _ _ _ _ hlog := by simp at hlog
  continuity source slotKey _ := by
    have hempty : ((EvidenceStore.slotFor { policy := policy' } slotKey).continuity.getD source
        {}) = {} := by simp [EvidenceStore.slotFor]
    rw [hempty]
    refine ⟨fun _ => rfl, ?_, ?_⟩
    · intro hvalid
      cases hvalid
    · intro hvalid
      cases hvalid
  history slotKey := by simp [EvidenceStore.slotFor]

theorem congr {store store' : EvidenceStore} (h : Lineage policy log store)
    (hslots : store'.slots = store.slots) (hstreams : store'.streams = store.streams) :
    Lineage policy log store' := by
  have hstream (source : SourceId) : store'.streamFor source = store.streamFor source :=
    EvidenceStore.streamFor_congr (by rw [hstreams])
  have hslot (slotKey : SlotKey) : store'.slotFor slotKey = store.slotFor slotKey := by
    rw [EvidenceStore.slotFor, EvidenceStore.slotFor, hslots]
  refine ⟨h.valid, fun source => ?_, fun before first outcome later hlog haccepted hroom => ?_,
    fun source slotKey hfamily => ?_, fun slotKey => ?_⟩
  · rw [hstream]
    exact h.gaps source
  · obtain ⟨⟨hguard, hstayed⟩, hunbroken⟩ := h.revisions before first outcome later hlog haccepted
      hroom
    refine ⟨⟨?_, ?_⟩, ?_⟩
    · rwa [hstream]
    · rwa [hstream]
    · rwa [Unbroken, hstream]
  · rw [hslot]
    exact h.continuity source slotKey hfamily
  · rw [hslot]
    exact h.history slotKey

theorem skip (h : Lineage policy log store) (hrefused : decision.2.accepted = false)
    (hkept : decision.2.scopeChanged = false) (hgap : decision.2.revisionGap = false) :
    Lineage policy (log ++ [decision]) store where
  valid later hmem haccepted := by
    rcases List.mem_append.1 hmem with hmem | hmem
    · exact h.valid later hmem haccepted
    · rw [List.mem_singleton.1 hmem, hrefused] at haccepted
      cases haccepted
  gaps source := by
    rw [gapsOf_append, gapsOf_singleton, hgap, Bool.and_false]
    exact h.gaps source
  revisions := by
    refine h.revisions.append (fun first later hsince hroom => ?_) fun haccepted => ?_
    · rw [scopeChangesOf_append, hkept, Bool.and_false] at hroom
      obtain ⟨hfenced, hunbroken⟩ := hsince hroom
      exact ⟨hfenced.skip hrefused hkept, hunbroken.skip decision⟩
    · rw [hrefused] at haccepted
      cases haccepted
  continuity source slotKey hfamily := by
    refine (h.continuity source slotKey hfamily).skip fun haccepted => ?_
    rw [haccepted.1] at hrefused
    cases hrefused
  history slotKey := by
    rw [List.filter_append, List.filter_singleton, hrefused, Bool.false_and]
    simpa using h.history slotKey

section

variable {store : EvidenceStore} (h : Lineage store.policy log store) (observation : Observation)
  (context : AcceptContext) (now : TimePoint)

include h

theorem gaps_accept (source : SourceId) :
    ((store.accept observation context now).1.streamFor source).gapCount =
      UInt64.ofNat (gapsOf source
        (log ++ [(observation, (store.accept observation context now).2)])) := by
  rw [gapsOf_append, gapsOf_singleton, UInt64.ofNat_add, ← h.gaps source]
  by_cases hsource : observation.provenance.source = source
  · subst hsource
    rw [(store.accept_streamStep observation context now).gapCount_eq, BEq.rfl, Bool.true_and]
  · rw [EvidenceStore.streamFor_congr
      (store.accept_stream_other observation context now hsource),
      beq_eq_false_iff_ne.2 hsource, Bool.false_and]
    simp

theorem revisions_accept : Since (fun first later store =>
      scopeChangesOf first.provenance.source later ≤ kMaxRetiredScopes →
        Fenced first later store ∧ Unbroken first later store)
    (log ++ [(observation, (store.accept observation context now).2)])
    (store.accept observation context now).1 := by
  refine h.revisions.append (fun first later hsince hroom => ?_) fun haccepted _ =>
    ⟨.of_accepted haccepted, .of_accepted haccepted⟩
  have hle : scopeChangesOf first.provenance.source later ≤ kMaxRetiredScopes := by
    rw [scopeChangesOf_append] at hroom
    omega
  obtain ⟨hfenced, hunbroken⟩ := hsince hle
  exact ⟨hfenced.accept observation context now hroom,
    hunbroken.accept hfenced observation context now hroom⟩

omit h in
theorem slotFor_accept (slotKey : SlotKey) :
    (¬((store.accept observation context now).2.accepted = true ∧
        SlotKey.mk observation.link observation.key = slotKey) ∧
      (store.accept observation context now).1.slotFor slotKey = store.slotFor slotKey) ∨
    ((store.accept observation context now).2.accepted = true ∧
      SlotKey.mk observation.link observation.key = slotKey ∧
      (validateObservation observation store.policy).ok = true ∧
      ∃ source, EvidenceStore.Records (store.slotFor slotKey) observation source
        ((store.accept observation context now).1.streamFor
          observation.provenance.source).gapCount
        store.policy.limits.maxEvidencePerKey now
        ((store.accept observation context now).1.slotFor slotKey)) := by
  rcases store.accept_slots observation context now with
    ⟨hrefused, hslots⟩ | ⟨haccepted, source, slot, hadmission, -, hslots, hrecords⟩
  · refine .inl ⟨fun hno => ?_, ?_⟩
    · rw [hno.1] at hrefused
      cases hrefused
    · rw [EvidenceStore.slotFor, EvidenceStore.slotFor, hslots]
  · by_cases hkey : SlotKey.mk observation.link observation.key = slotKey
    · subst hkey
      refine .inr ⟨haccepted, rfl, (EvidenceStore.admission_ok hadmission).2.2.2.2.2.1, source, ?_⟩
      have hslot : (store.accept observation context now).1.slotFor
          ⟨observation.link, observation.key⟩ = slot := by
        rw [EvidenceStore.slotFor, hslots]
        exact ExtTreeMap.getD_insert_self
      rwa [hslot]
    · refine .inl ⟨fun hno => hkey hno.2, ?_⟩
      rw [EvidenceStore.slotFor, EvidenceStore.slotFor, hslots,
        OrderedMap.getD_insert_of_ne _ hkey]

theorem continuity_accept (source : SourceId) (slotKey : SlotKey)
    (hfamily : isCounterFamily slotKey.key.family = true) :
    Retains source slotKey (log ++ [(observation, (store.accept observation context now).2)])
      (((store.accept observation context now).1.slotFor slotKey).continuity.getD source {}) := by
  have hbefore := h.continuity source slotKey hfamily
  rcases slotFor_accept observation context now slotKey with
    ⟨hno, hslot⟩ | ⟨haccepted, rfl, hvalid, record, hrecords⟩
  · rw [hslot]
    exact hbefore.skip fun haccepted => hno ⟨haccepted.1, haccepted.2.2⟩
  · obtain ⟨reading, -, -, hsample⟩ := counterSampleOf_valid hvalid hfamily
      ((store.accept observation context now).1.streamFor observation.provenance.source).gapCount
    rw [hrecords.continuity, hsample]
    simp only
    by_cases hsource : observation.provenance.source = source
    · subst hsource
      rw [ExtTreeMap.getD_insert_self]
      refine hbefore.observe ⟨haccepted, rfl, rfl⟩ ?_
      rw [sampleAfter, ← h.gaps_accept observation context now]
      exact hsample
    · rw [OrderedMap.getD_insert_of_ne _ hsource]
      exact hbefore.skip fun haccepted => hsource haccepted.2.1

theorem history_accept (slotKey : SlotKey) :
    ((store.accept observation context now).1.slotFor slotKey).history.map Evidence.observation <:+
      ((log ++ [(observation, (store.accept observation context now).2)]).filter fun decision =>
        decision.2.accepted &&
          SlotKey.mk decision.1.link decision.1.key == slotKey).map Prod.fst := by
  have hbefore := h.history slotKey
  rw [List.filter_append, List.map_append, List.filter_singleton, Bool.cond_eq_ite]
  rcases slotFor_accept observation context now slotKey with
    ⟨hno, hslot⟩ | ⟨haccepted, hkey, -, record, hrecords⟩
  · rw [hslot, if_neg (by simpa using hno)]
    simpa using hbefore
  · rw [if_pos (by simp [haccepted, hkey]), hrecords.history, Ring.push]
    refine ((Ring.evict_suffix _ _).map Evidence.observation).trans ?_
    obtain ⟨older, holder⟩ := hbefore
    exact ⟨older, by rw [List.map_append, ← List.append_assoc, holder]; rfl⟩

/-- Handling an observation. -/
theorem accept : Lineage store.policy
    (log ++ [(observation, (store.accept observation context now).2)])
    (store.accept observation context now).1 where
  valid decision hmem haccepted := by
    rcases List.mem_append.1 hmem with hmem | hmem
    · exact h.valid decision hmem haccepted
    · rw [List.mem_singleton.1 hmem] at haccepted ⊢
      rcases slotFor_accept observation context now ⟨observation.link, observation.key⟩ with
        ⟨hno, -⟩ | ⟨-, -, hvalid, -⟩
      · exact absurd ⟨haccepted, rfl⟩ hno
      · exact hvalid
  gaps := h.gaps_accept observation context now
  revisions := h.revisions_accept observation context now
  continuity := h.continuity_accept observation context now
  history := h.history_accept observation context now

end

end Lineage

namespace Observatory

theorem Reached.lineage {config : RuntimeConfig} (h : Reached config log σ) :
    Lineage config.policy log σ.store := by
  refine h.store_induction (Lineage.empty _ _)
    (fun log store observation context instant hpolicy ih => ?_)
    (fun log store observation reason ih => ih.skip rfl rfl rfl)
    (fun log store store' hslots hstreams ih => ih.congr hslots hstreams)
  rw [← hpolicy] at ih ⊢
  exact ih.accept observation context instant

theorem Reached.earlier {config : RuntimeConfig} (h : Reached config log σ)
    (hlog : log = before ++ after) : ∃ σ', Reached config before σ' := by
  induction h generalizing after with
  | start =>
    obtain ⟨rfl, -⟩ := List.append_eq_nil_iff.1 hlog.symm
    exact ⟨_, .start⟩
  | record record instant hrun ih =>
    rename_i log σ
    have hnext := hrun.record record instant
    have hone : (σ.decisionsOf record instant).length ≤ 1 := by
      cases record <;> simp [decisionsOf]
    generalize σ.decisionsOf record instant = decisions at *
    rcases List.eq_nil_or_concat' after with rfl | ⟨init, last, rfl⟩
    · rw [List.append_nil] at hlog
      exact ⟨_, hlog ▸ hnext⟩
    cases decisions with
    | nil =>
      rw [List.append_nil] at hlog
      exact ih hlog
    | cons decision rest =>
      obtain rfl : rest = [] := by simpa using hone
      rw [← List.append_assoc] at hlog
      exact ih (List.append_inj' hlog rfl).1
  | unread files _ _ ih => exact ih hlog
  | reload files now _ _ _ _ _ ih' => exact ih' hlog

end Observatory

end LinkObservatory
