import LinkObservatory.EvidenceStore

namespace LinkObservatory
set_option autoImplicit true

open Std

/-- Walks the evidence newest first and keeps the first item of each source, up to the bound. -/
def collectContenders (bound : Nat) (evaluate : Evidence → EvaluatedEvidence) :
    List Evidence → List SourceId → List EvaluatedEvidence → List EvaluatedEvidence
  | [], _, out => out
  | evidence :: rest, seen, out =>
    let source := evidence.observation.provenance.source
    if source ∈ seen then collectContenders bound evaluate rest seen out
    else
      let out := out ++ [evaluate evidence]
      if out.length ≥ bound then out
      else collectContenders bound evaluate rest (seen ++ [source]) out

def Slot.persist (slot : Slot) (slotKey : SlotKey) : PersistedSlot :=
  { slot := slotKey
    history := slot.history
    continuity := slot.continuity
    accepted := slot.accepted
    fenced := slot.fenced
    lastGapAt := slot.lastGapAt
    hasGap := slot.hasGap
    resetCount := slot.resetCount
    wrapCount := slot.wrapCount }

def PersistedSlot.toSlot (slot : PersistedSlot) : Slot :=
  { key := slot.slot.key
    history := slot.history
    continuity := slot.continuity
    accepted := slot.accepted
    fenced := slot.fenced
    lastGapAt := slot.lastGapAt
    hasGap := slot.hasGap
    resetCount := slot.resetCount
    wrapCount := slot.wrapCount }

namespace EvidenceStore

def completeness (store : EvidenceStore) (link : LinkId) (key : MetricKey) (now : TimePoint) :
    Completeness :=
  match store.slots[SlotKey.mk link key]? with
  | none => .unknown
  | some slot =>
    if slot.accepted = 0 then .unknown
    else if !slot.hasGap then .complete
    else match difference now slot.lastGapAt with
      | some since =>
        if ¬since.nanos < 0 ∧ since.nanos ≤ store.policy.thresholds.derivationWindow.nanos then
          .incomplete
        else .complete
      | none => .complete

/-- Whether an item of evidence belongs to the scope its source is in now. -/
def scopeCurrent (store : EvidenceStore) (evidence : Evidence) : Bool :=
  match store.streams[evidence.observation.provenance.source]? with
  | some stream => stream.hasScope && stream.scope == scopeOf evidence.observation.provenance
  | none => false

def evaluateEvidence (store : EvidenceStore) (link : LinkId) (key : MetricKey)
    (context : EvaluationContext) (evidence : Evidence) : EvaluatedEvidence :=
  let age := ageEvidence evidence context.now
  let freshness := classifyFreshness age (freshnessPolicyFor store.policy key.family)
  let scopeCurrent := store.scopeCurrent evidence
  let generationCurrent := !context.hasGeneration ||
    evidence.observation.provenance.generation == context.currentGeneration
  { evidence := evidence
    age := age
    freshness := freshness
    provisionalConfidence := deriveConfidence evidence.authority freshness .none
      (store.completeness link key context.now)
    scopeCurrent := scopeCurrent
    generationCurrent := generationCurrent
    eligible := freshness == .fresh && scopeCurrent && generationCurrent
    historical := !generationCurrent }

/-- Evidence held for one slot, newest first and one item per source. -/
def contenders (store : EvidenceStore) (link : LinkId) (key : MetricKey)
    (context : EvaluationContext) : List EvaluatedEvidence :=
  match store.slots[SlotKey.mk link key]? with
  | none => []
  | some slot =>
    collectContenders store.policy.limits.maxContendersPerKey.toNat
      (store.evaluateEvidence link key context) slot.history.reverse [] []

def slotView (store : EvidenceStore) (link : LinkId) (key : MetricKey) (now : TimePoint) :
    Option SlotView :=
  (store.slots[SlotKey.mk link key]?).map fun slot =>
    { key := slot.key
      accepted := slot.accepted
      fenced := slot.fenced
      completeness := store.completeness link key now
      retained := slot.history.length
      lastGapAt := slot.lastGapAt
      hasGap := slot.hasGap }

def continuity (store : EvidenceStore) (link : LinkId) (key : MetricKey) (source : SourceId) :
    Option CounterContinuity :=
  match store.slots[SlotKey.mk link key]? with
  | none => none
  | some slot => slot.continuity[source]?

def streamState (store : EvidenceStore) (source : SourceId) : Option StreamState :=
  store.streams[source]?

def keysFor (store : EvidenceStore) (link : LinkId) : List MetricKey :=
  (store.slots.keys.filter fun slotKey => slotKey.link == link).map SlotKey.key

def persistedSlots (store : EvidenceStore) : List PersistedSlot :=
  store.slots.toList.map fun entry => entry.2.persist entry.1

def persistedStreams (store : EvidenceStore) : List (SourceId × StreamState) :=
  store.streams.toList

/-- Puts a persisted slot back; every bound is checked before anything is written. -/
def restore (store : EvidenceStore) (slot : PersistedSlot) : EvidenceStore × Status :=
  if !slot.slot.link.valid then
    (store, .of .corruptData "persisted slot has no link identity")
  else if slot.history.length > store.policy.limits.maxEvidencePerKey.toNat then
    (store, .of .capacityExceeded "persisted slot exceeds the evidence bound")
  else if slot.continuity.size > store.policy.limits.maxSources.toNat then
    (store, .of .capacityExceeded "persisted slot exceeds the source bound")
  else if store.full && (store.slots[slot.slot]?).isNone then
    (store, .of .capacityExceeded "restored store exceeds the slot bound")
  else ({ store with slots := store.slots.insert slot.slot slot.toSlot }, .success)

def restoreStream (store : EvidenceStore) (stream : SourceId × StreamState) :
    EvidenceStore × Status :=
  if !stream.1.valid then
    (store, .of .corruptData "persisted stream has no source identity")
  else if stream.2.retiredScopes.length > kMaxRetiredScopes then
    (store, .of .capacityExceeded "persisted stream exceeds the retired scope bound")
  else if store.streams.size ≥ store.policy.limits.maxSources.toNat &&
      (store.streams[stream.1]?).isNone then
    (store, .of .capacityExceeded "restored store exceeds the source bound")
  else (store.setStream stream.1 stream.2, .success)

def restoreTotals (store : EvidenceStore)
    (accepted fenced duplicates gaps resets wraps : UInt64) : EvidenceStore :=
  { store with
    totalAccepted := accepted
    totalFenced := fenced
    duplicates := duplicates
    revisionGaps := gaps
    counterResets := resets
    counterWraps := wraps }

end EvidenceStore

/-- Runs a restoring step over every item and stops at the first failure. -/
def restoreEach (step : σ → α → σ × Status) : σ → List α → σ × Status
  | state, [] => (state, .success)
  | state, item :: items =>
    let result := step state item
    if result.2.ok then restoreEach step result.1 items else result

/-- A restart: what one store persists is fed to a fresh one. -/
def EvidenceStore.restart (store : EvidenceStore) (policy : Policy) : EvidenceStore × Status :=
  let restored := restoreEach EvidenceStore.restore { policy := policy } store.persistedSlots
  if restored.2.ok then
    restoreEach EvidenceStore.restoreStream restored.1 store.persistedStreams
  else restored

/-- What a successful loop preserves, step by step. -/
theorem restoreEach_induction {step : σ → α → σ × Status} {motive : σ → List α → Prop}
    (hstep : ∀ state item items, motive state (item :: items) → (step state item).2.ok = true →
      motive (step state item).1 items)
    (h : motive state items) (hok : (restoreEach step state items).2.ok = true) :
    motive (restoreEach step state items).1 [] := by
  induction items generalizing state with
  | nil => exact h
  | cons item items ih =>
    rw [restoreEach] at *
    split at hok
    · rename_i hs
      rw [if_pos hs]
      exact ih (hstep _ _ _ h hs) hok
    · rename_i hs
      exact absurd hok hs

namespace EvidenceStore

theorem restore_ok_iff (store : EvidenceStore) (slot : PersistedSlot) :
    (store.restore slot).2.ok = true ↔
      slot.slot.link.valid = true ∧
      slot.history.length ≤ store.policy.limits.maxEvidencePerKey.toNat ∧
      slot.continuity.size ≤ store.policy.limits.maxSources.toNat ∧
      (store.full = true → (store.slots[slot.slot]?).isSome = true) := by
  unfold restore
  split
  · simp_all [Status.ok, Status.of]
  split
  · simp_all [Status.ok, Status.of]
  split
  · simp_all [Status.ok, Status.of]
  split
  · simp_all [Status.ok, Status.of]
  · simp_all [Status.ok, Status.success]

theorem restore_ok {store : EvidenceStore} (h : (store.restore slot).2.ok = true) :
    (store.restore slot).1 =
      { store with slots := store.slots.insert slot.slot slot.toSlot } := by
  obtain ⟨h1, h2, h3, h4⟩ := (store.restore_ok_iff slot).1 h
  simp only [restore, h1, Nat.not_lt.2 h2, Nat.not_lt.2 h3, Bool.not_true,
    Bool.false_eq_true, ↓reduceIte]
  rw [if_neg]
  simpa using h4

theorem restoreStream_ok_iff (store : EvidenceStore) (stream : SourceId × StreamState) :
    (store.restoreStream stream).2.ok = true ↔
      stream.1.valid = true ∧ stream.2.retiredScopes.length ≤ kMaxRetiredScopes ∧
      (store.policy.limits.maxSources.toNat ≤ store.streams.size →
        (store.streams[stream.1]?).isSome = true) := by
  unfold restoreStream
  split
  · simp_all [Status.ok, Status.of]
  split
  · simp_all [Status.ok, Status.of]
  split
  · simp_all [Status.ok, Status.of]
  · simp_all [Status.ok, Status.success]

theorem restoreStream_ok {store : EvidenceStore} (h : (store.restoreStream stream).2.ok = true) :
    (store.restoreStream stream).1 = store.setStream stream.1 stream.2 := by
  obtain ⟨h1, h2, h3⟩ := (store.restoreStream_ok_iff stream).1 h
  simp only [restoreStream, h1, Nat.not_lt.2 h2, Bool.not_true, Bool.false_eq_true,
    ↓reduceIte]
  rw [if_neg]
  simpa using h3

theorem restart_streams {store : EvidenceStore} {policy : Policy}
    (h : (store.restart policy).2.ok = true) :
    (store.restart policy).1.streams = store.streams := by
  unfold restart at *
  simp only at *
  split at h
  · rename_i hslots
    rw [if_pos hslots]
    have hempty : (restoreEach restore { policy := policy } store.persistedSlots).1.streams = ∅ :=
      restoreEach_induction (motive := fun state _ => state.streams = ∅)
        (fun state item items he hs => by rw [restore_ok hs]; exact he) rfl hslots
    have hstreams := restoreEach_induction
      (motive := fun state items =>
        items.foldl (fun acc entry => acc.insert entry.1 entry.2) state.streams = store.streams)
      (fun state item items he hs => by
        rw [restoreStream_ok hs]
        exact he)
      (by rw [hempty]; exact OrderedMap.foldl_insert_toList _) h
    exact hstreams
  · rename_i hslots
    exact absurd h hslots

end EvidenceStore

end LinkObservatory
