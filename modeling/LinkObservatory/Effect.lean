import LinkObservatory.Bounds

namespace LinkObservatory
set_option autoImplicit true

open Std OrderedMap

/-- What one call of `accept` writes: the stream of the source, the slot of the observation and the
counters. -/
structure StoreEffect where
  stream : Option StreamState := none
  slot : Option Slot := none
  fence : Option FenceReason := none
  accepted : UInt64 := 0
  fenced : UInt64 := 0
  duplicates : UInt64 := 0
  gaps : UInt64 := 0
  resets : UInt64 := 0
  wraps : UInt64 := 0

def StoreEffect.apply (effect : StoreEffect) (observation : Observation) (store : EvidenceStore) :
    EvidenceStore :=
  { policy := store.policy
    slots := put store.slots ⟨observation.link, observation.key⟩ effect.slot
    streams := put store.streams observation.provenance.source effect.stream
    totalAccepted := store.totalAccepted + effect.accepted
    totalFenced := store.totalFenced + effect.fenced
    duplicates := store.duplicates + effect.duplicates
    revisionGaps := store.revisionGaps + effect.gaps
    counterResets := store.counterResets + effect.resets
    counterWraps := store.counterWraps + effect.wraps
    fenceCounts := bump store.fenceCounts effect.fence }

theorem StoreEffect.apply_none (observation : Observation) (store : EvidenceStore) :
    StoreEffect.apply {} observation store = store := by
  simp [StoreEffect.apply, put, bump]

theorem StoreEffect.apply_comm (effect effect' : StoreEffect) {a b : Observation}
    (hlink : a.link ≠ b.link) (hsource : a.provenance.source ≠ b.provenance.source)
    (store : EvidenceStore) :
    effect'.apply b (effect.apply a store) = effect.apply a (effect'.apply b store) := by
  have hslot : SlotKey.mk a.link a.key ≠ SlotKey.mk b.link b.key := by
    intro h
    exact hlink (SlotKey.mk.inj h).1
  unfold StoreEffect.apply
  simp only [EvidenceStore.mk.injEq, true_and]
  refine ⟨put_comm _ hslot _ _, put_comm _ hsource _ _, ?_, ?_, ?_, ?_, ?_, ?_, bump_comm _ _ _⟩
  all_goals exact add_right_comm ..

/-- Two stores that look the same to an observation. -/
structure EvidenceStore.Alike (observation : Observation) (store store' : EvidenceStore) :
    Prop where
  policy : store'.policy = store.policy
  slot : store'.slots[SlotKey.mk observation.link observation.key]? =
    store.slots[SlotKey.mk observation.link observation.key]?
  stream : store'.streams[observation.provenance.source]? =
    store.streams[observation.provenance.source]?
  room : store.slots[SlotKey.mk observation.link observation.key]? = none →
    store'.full = store.full

namespace EvidenceStore

theorem admission_congr {store store' : EvidenceStore} (h : store'.policy = store.policy)
    (observation : Observation) (context : AcceptContext) :
    store'.admission observation context = store.admission observation context := by
  unfold admission
  rw [h]

theorem countFence_effect (store : EvidenceStore) (observation : Observation)
    (reason : FenceReason) :
    store.countFence reason =
      StoreEffect.apply { fence := some reason, fenced := 1 } observation store := by
  simp [StoreEffect.apply, countFence, put, bump]

theorem fenced_effect (store : EvidenceStore) (observation : Observation) (stream : StreamState)
    (gap : Bool) (reason : FenceReason) :
    ((store.countGap gap).setStream observation.provenance.source stream).countFence reason =
      StoreEffect.apply
        { stream := some stream, fence := some reason, fenced := 1, gaps := if gap then 1 else 0 }
        observation store := by
  cases gap <;> simp [StoreEffect.apply, countGap, setStream, countFence, put, bump]

theorem duplicate_effect (store : EvidenceStore) (observation : Observation)
    (stream : StreamState) :
    ({ store with duplicates := store.duplicates + 1 }.setStream observation.provenance.source
        stream).countFence .duplicateObservation =
      StoreEffect.apply
        { stream := some stream, fence := some .duplicateObservation, fenced := 1, duplicates := 1 }
        observation store := by
  simp [StoreEffect.apply, setStream, countFence, put, bump]

theorem recordEvidence_effect {store store' : EvidenceStore} (hpolicy : store'.policy = store.policy)
    (hslot : store'.slotFor ⟨observation.link, observation.key⟩ =
      store.slotFor ⟨observation.link, observation.key⟩)
    (source : SourceRecord) (stream : StreamState) (gap changed : Bool) (now : TimePoint) :
    ∃ (effect : StoreEffect) (outcome : AcceptOutcome),
      (store.countGap gap).recordEvidence observation source stream
        { revisionGap := gap, scopeChanged := changed } now =
          (effect.apply observation store, outcome) ∧
      (store'.countGap gap).recordEvidence observation source stream
        { revisionGap := gap, scopeChanged := changed } now =
          (effect.apply observation store', outcome) := by
  have hgap (kept : EvidenceStore) : (kept.countGap gap).slotFor
      ⟨observation.link, observation.key⟩ =
        kept.slotFor ⟨observation.link, observation.key⟩ := rfl
  unfold recordEvidence
  simp only [hgap, hslot]
  generalize (store.slotFor ⟨observation.link, observation.key⟩).observeReading observation
    stream.gapCount { revisionGap := gap, scopeChanged := changed } now = observed
  obtain ⟨slot, outcome⟩ := observed
  refine ⟨{
    stream := some (stream.advance observation)
    slot := some ((if outcome.revisionGap then slot.markGap now else slot).append
      { observation := observation, acceptedAt := now, authority := source.authority
        provenance := source.provenance } store.policy.limits.maxEvidencePerKey)
    accepted := 1
    gaps := if gap then 1 else 0
    resets := if outcome.discontinuity = .reset then 1 else 0
    wraps := if outcome.discontinuity = .wrap then 1 else 0 },
    { outcome with accepted := true }, ?_, ?_⟩
  · cases gap <;> cases outcome.discontinuity <;>
      simp [StoreEffect.apply, countGap, setStream, put, bump]
  · cases gap <;> cases outcome.discontinuity <;>
      simp [StoreEffect.apply, countGap, setStream, put, bump, hpolicy]

/-- Stores that look the same to an observation decide it alike and take the same effect. -/
theorem Alike.accept {store store' : EvidenceStore} (h : Alike observation store store')
    (context : AcceptContext) (now : TimePoint) : ∃ (effect : StoreEffect) (outcome : AcceptOutcome),
    store.accept observation context now = (effect.apply observation store, outcome) ∧
      store'.accept observation context now = (effect.apply observation store', outcome) := by
  have hadmission := admission_congr h.policy observation context
  have hstream : store'.streamFor observation.provenance.source =
      store.streamFor observation.provenance.source := streamFor_congr h.stream
  unfold EvidenceStore.accept
  rw [hadmission]
  cases store.admission observation context with
  | error reason =>
    exact ⟨_, _, congrArg₂ Prod.mk (countFence_effect store observation reason) rfl,
      congrArg₂ Prod.mk (countFence_effect store' observation reason) rfl⟩
  | ok source =>
    simp only [hstream]
    cases enterScope (store.streamFor observation.provenance.source)
        (scopeOf observation.provenance) with
    | error reason =>
      exact ⟨_, _, congrArg₂ Prod.mk (fenced_effect store observation _ false reason) rfl,
        congrArg₂ Prod.mk (fenced_effect store' observation _ false reason) rfl⟩
    | ok entered =>
      obtain ⟨stream, changed⟩ := entered
      simp only
      cases judgeRevision stream observation with
      | duplicate =>
        exact ⟨_, _, congrArg₂ Prod.mk (duplicate_effect store observation _) rfl,
          congrArg₂ Prod.mk (duplicate_effect store' observation _) rfl⟩
      | replay =>
        exact ⟨_, _, congrArg₂ Prod.mk (fenced_effect store observation _ false _) rfl,
          congrArg₂ Prod.mk (fenced_effect store' observation _ false _) rfl⟩
      | next gap =>
        simp only [countGap_slots, h.slot]
        have hroom : ((store'.countGap gap).full &&
            (store.slots[SlotKey.mk observation.link observation.key]?).isNone) =
            ((store.countGap gap).full &&
              (store.slots[SlotKey.mk observation.link observation.key]?).isNone) := by
          cases hslot : store.slots[SlotKey.mk observation.link observation.key]? with
          | none => exact congrArg (· && true) (h.room hslot)
          | some slot => simp
        rw [hroom]
        by_cases hdowngrade : (store.slots[SlotKey.mk observation.link observation.key]?).any
            fun slot => authorityDowngrade slot observation source.authority
        · simp only [hdowngrade, ↓reduceIte]
          exact ⟨_, _, congrArg₂ Prod.mk (fenced_effect store observation _ gap _) rfl,
            congrArg₂ Prod.mk (fenced_effect store' observation _ gap _) rfl⟩
        simp only [hdowngrade, ↓reduceIte, Bool.false_eq_true]
        by_cases hfull : ((store.countGap gap).full &&
            (store.slots[SlotKey.mk observation.link observation.key]?).isNone) = true
        · simp only [hfull, ↓reduceIte]
          exact ⟨_, _, congrArg₂ Prod.mk (fenced_effect store observation _ gap _) rfl,
            congrArg₂ Prod.mk (fenced_effect store' observation _ gap _) rfl⟩
        · simp only [hfull, ↓reduceIte, Bool.false_eq_true]
          apply recordEvidence_effect h.policy
          unfold slotFor
          rw [ExtTreeMap.getD_eq_getD_getElem?, ExtTreeMap.getD_eq_getD_getElem?, h.slot]

end EvidenceStore

end LinkObservatory
