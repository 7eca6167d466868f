import LinkObservatory.CounterTracker
import LinkObservatory.Link
import LinkObservatory.Lib.Ring
import LinkObservatory.Lib.OrderedMap

namespace LinkObservatory
set_option autoImplicit true

open Std

def kMaxKeysPerLink : UInt64 := 8 * 4 * 8

def kMaxRetiredScopes : Nat := 32

/-- One metric key of one link. -/
structure SlotKey where
  link : LinkId := {}
  key : MetricKey := {}
deriving DecidableEq, Repr, Inhabited

/-- Lexicographic on the link and the key. -/
def SlotKey.compare (a b : SlotKey) : Ordering :=
  (StrongId.compare a.link b.link).then (MetricKey.compare a.key b.key)

instance : TransCmp SlotKey.compare where
  eq_swap {a b} := by
    unfold SlotKey.compare
    rw [Ordering.swap_then, ← OrientedCmp.eq_swap, ← OrientedCmp.eq_swap]
  isLE_trans {a b c} hab hbc := by
    unfold SlotKey.compare at *
    rw [Ordering.isLE_then_iff_or] at *
    rcases hab with hab | ⟨hab, hab'⟩ <;> rcases hbc with hbc | ⟨hbc, hbc'⟩
    · exact .inl (TransCmp.lt_trans hab hbc)
    · exact .inl (TransCmp.lt_of_lt_of_eq hab hbc)
    · exact .inl (TransCmp.lt_of_eq_of_lt hab hbc)
    · exact .inr ⟨TransCmp.eq_trans hab hbc, TransCmp.isLE_trans hab' hbc'⟩

instance : LawfulEqCmp SlotKey.compare where
  eq_of_compare {a b} h := by
    obtain ⟨alink, akey⟩ := a
    obtain ⟨blink, bkey⟩ := b
    simp only [SlotKey.compare, Ordering.then_eq_eq, LawfulEqCmp.compare_eq_iff_eq] at h
    obtain ⟨hlink, hkey⟩ := h
    subst hlink hkey
    rfl

/-- The revision stream of one source: the scope in force, the last revision accepted in it, and
the scopes already superseded. -/
structure StreamState where
  hasScope : Bool := false
  scope : SequenceScope := {}
  hasSequence : Bool := false
  lastSequence : UInt64 := 0
  lastObservation : ObservationId := {}
  gapOpen : Bool := false
  retiredScopes : List SequenceScope := []
  accepted : UInt64 := 0
  fenced : UInt64 := 0
  gapCount : UInt64 := 0
  scopeChanges : UInt64 := 0
deriving DecidableEq, Repr, Inhabited

structure EvaluationContext where
  now : TimePoint := {}
  currentGeneration : GenerationId := {}
  hasGeneration : Bool := false
deriving DecidableEq, Repr, Inhabited

/-- Evidence judged at an instant. Only eligible evidence supports a claim about the present. -/
structure EvaluatedEvidence where
  evidence : Evidence := {}
  age : AgeReport := {}
  freshness : Freshness := .unknown
  provisionalConfidence : Confidence := .unknown
  scopeCurrent : Bool := true
  generationCurrent : Bool := true
  eligible : Bool := false
  historical : Bool := false
deriving DecidableEq, Repr, Inhabited

structure AcceptContext where
  source : Option SourceRecord := none
  currentGeneration : GenerationId := {}
  familyEnabled : Bool := true
deriving DecidableEq, Repr, Inhabited

structure AcceptOutcome where
  accepted : Bool := false
  fence : FenceReason := .none
  duplicate : Bool := false
  revisionGap : Bool := false
  scopeChanged : Bool := false
  staleBaseline : Bool := false
  discontinuity : CounterDiscontinuity := .none
  deltaValid : Bool := false
  delta : UInt64 := 0
  counterWidth : CounterWidth := .bits64
deriving DecidableEq, Repr, Inhabited

structure SlotView where
  key : MetricKey := {}
  accepted : UInt64 := 0
  fenced : UInt64 := 0
  completeness : Completeness := .unknown
  retained : Nat := 0
  lastGapAt : TimePoint := {}
  hasGap : Bool := false
deriving DecidableEq, Repr, Inhabited

abbrev ContinuityMap := ExtTreeMap SourceId CounterContinuity StrongId.compare

structure Slot where
  key : MetricKey := {}
  history : List Evidence := []
  continuity : ContinuityMap := ∅
  accepted : UInt64 := 0
  fenced : UInt64 := 0
  lastGapAt : TimePoint := {}
  hasGap : Bool := false
  resetCount : UInt64 := 0
  wrapCount : UInt64 := 0
deriving DecidableEq

/-- Serialisable form of a slot. -/
structure PersistedSlot where
  slot : SlotKey := {}
  history : List Evidence := []
  continuity : ContinuityMap := ∅
  accepted : UInt64 := 0
  fenced : UInt64 := 0
  lastGapAt : TimePoint := {}
  hasGap : Bool := false
  resetCount : UInt64 := 0
  wrapCount : UInt64 := 0
deriving DecidableEq

def FenceReason.compare : FenceReason → FenceReason → Ordering := compareOn FenceReason.code

instance : TransCmp FenceReason.compare := inferInstanceAs (TransCmp (compareOn _))

instance : LawfulEqCmp FenceReason.compare where
  eq_of_compare {a b} h := by
    simp only [FenceReason.compare, compareOn, LawfulEqOrd.compare_eq_iff_eq] at h
    cases a <;> cases b <;> first | rfl | exact absurd h (by decide)

abbrev FenceCounts := ExtTreeMap FenceReason UInt64 FenceReason.compare

structure EvidenceStore where
  policy : Policy
  slots : ExtTreeMap SlotKey Slot SlotKey.compare := ∅
  streams : ExtTreeMap SourceId StreamState StrongId.compare := ∅
  totalAccepted : UInt64 := 0
  totalFenced : UInt64 := 0
  duplicates : UInt64 := 0
  revisionGaps : UInt64 := 0
  counterResets : UInt64 := 0
  counterWraps : UInt64 := 0
  fenceCounts : FenceCounts := ∅

def fenceStream (state : StreamState) (scope : SequenceScope) : FenceReason :=
  if !(state.retiredScopes.any fun candidate => candidate == scope) then .none
  else if scope.incarnation ≠ state.scope.incarnation then .incarnationBehind
  else .epochBehind

/-- Puts the stream into the scope of an observation, or names the fence that refuses it. -/
def enterScope (stream : StreamState) (scope : SequenceScope) :
    Except FenceReason (StreamState × Bool) :=
  if !stream.hasScope then
    .ok ({ stream with hasScope := true, scope := scope, scopeChanges := stream.scopeChanges + 1 },
      true)
  else if stream.scope ≠ scope then
    let streamFence := fenceStream stream scope
    if streamFence ≠ .none then .error streamFence
    else
      .ok ({ stream with
        retiredScopes := Ring.push kMaxRetiredScopes stream.retiredScopes stream.scope
        scope := scope
        hasSequence := false
        gapOpen := false
        scopeChanges := stream.scopeChanges + 1 }, true)
  else .ok (stream, false)

/-- How a revision relates to the last one accepted in the scope in force. -/
inductive RevisionVerdict
  | duplicate
  | replay
  | next (gap : Bool)
deriving DecidableEq, Repr

def judgeRevision (stream : StreamState) (observation : Observation) : RevisionVerdict :=
  if !stream.hasSequence then .next false
  else if observation.provenance.sequence = stream.lastSequence then
    if observation.id = stream.lastObservation then .duplicate else .replay
  else match sequenceNext stream.lastSequence with
    | none => .replay
    | some expected =>
      if observation.provenance.sequence < stream.lastSequence then .replay
      else .next (observation.provenance.sequence > expected)

/-- The stream once a revision is let through: a gap is opened and counted. -/
def StreamState.openGap (stream : StreamState) (gap : Bool) : StreamState :=
  if gap then { stream with gapOpen := true, gapCount := stream.gapCount + 1 } else stream

def StreamState.countFenced (stream : StreamState) : StreamState :=
  { stream with fenced := stream.fenced + 1 }

/-- The stream after one of its observations has been recorded. -/
def StreamState.advance (stream : StreamState) (observation : Observation) : StreamState :=
  { stream with
    hasSequence := true
    lastSequence := observation.provenance.sequence
    lastObservation := observation.id
    accepted := stream.accepted + 1 }

/-- The newest retained item of the same generation outranks the observation and is not older. -/
def authorityDowngrade (slot : Slot) (observation : Observation) (authority : SourceAuthority) :
    Bool :=
  match slot.history.reverse.find? fun evidence =>
      evidence.observation.provenance.generation == observation.provenance.generation with
  | some evidence =>
    evidence.authority.code > authority.code &&
      evidence.observation.observedAt.nanos ≥ observation.observedAt.nanos
  | none => false

/-- The sample a counter observation contributes. -/
def counterSampleOf (observation : Observation) (gapEpoch : UInt64) : Option CounterSample :=
  if isCounterFamily observation.key.family then
    match observation.payload with
    | .counter reading =>
      some
        { reading := reading
          observedAt := observation.observedAt
          receivedAt := observation.receivedAt
          sequence := observation.provenance.sequence
          scope := scopeOf observation.provenance
          generation := observation.provenance.generation
          gapEpoch := gapEpoch }
    | _ => none
  else none

def Slot.markGap (slot : Slot) (now : TimePoint) : Slot :=
  { slot with lastGapAt := now, hasGap := true }

/-- Folds a counter sample of one source into the slot. -/
def Slot.observe (slot : Slot) (source : SourceId) (sample : CounterSample) (now : TimePoint) :
    Slot × ContinuityOutcome :=
  let observed := observeCounter (slot.continuity.getD source {}) sample
  let outcome := observed.2
  let slot := { slot with continuity := slot.continuity.insert source observed.1 }
  let slot := match outcome.discontinuity with
    | .reset => { slot with resetCount := slot.resetCount + 1 }.markGap now
    | .wrap => { slot with wrapCount := slot.wrapCount + 1 }
    | .none => slot
  (if outcome.sequenceGap then slot.markGap now else slot, outcome)

/-- Folds the observation into the slot when it carries a counter sample. -/
def Slot.observeReading (slot : Slot) (observation : Observation) (gapEpoch : UInt64)
    (outcome : AcceptOutcome) (now : TimePoint) : Slot × AcceptOutcome :=
  match counterSampleOf observation gapEpoch with
  | some sample =>
    let observed := slot.observe observation.provenance.source sample now
    (observed.1,
      { outcome with
        discontinuity := observed.2.discontinuity
        deltaValid := observed.2.deltaValid
        delta := observed.2.delta
        counterWidth := sample.reading.width })
  | none => (slot, outcome)

/-- Appends one item of evidence, evicting the oldest beyond the bound. -/
def Slot.append (slot : Slot) (evidence : Evidence) (bound : UInt64) : Slot :=
  { slot with
    history := Ring.push bound.toNat slot.history evidence
    accepted := slot.accepted + 1 }

namespace EvidenceStore

def slotFor (store : EvidenceStore) (slotKey : SlotKey) : Slot :=
  store.slots.getD slotKey { key := slotKey.key }

def streamFor (store : EvidenceStore) (source : SourceId) : StreamState :=
  store.streams.getD source {}

def setStream (store : EvidenceStore) (source : SourceId) (stream : StreamState) : EvidenceStore :=
  { store with streams := store.streams.insert source stream }

def countFence (store : EvidenceStore) (reason : FenceReason) : EvidenceStore :=
  { store with
    totalFenced := store.totalFenced + 1
    fenceCounts := store.fenceCounts.insert reason (store.fenceCounts.getD reason 0 + 1) }

def countGap (store : EvidenceStore) (gap : Bool) : EvidenceStore :=
  { store with revisionGaps := if gap then store.revisionGaps + 1 else store.revisionGaps }

def full (store : EvidenceStore) : Bool :=
  store.slots.size ≥ (store.policy.limits.maxLinks * kMaxKeysPerLink).toNat

/-- The fences decided before the stream of the source is consulted. -/
def admission (store : EvidenceStore) (observation : Observation) (context : AcceptContext) :
    Except FenceReason SourceRecord :=
  match context.source with
  | none => .error .unknownSource
  | some source =>
    if !source.registered || source.retired then .error .unknownSource
    else if source.provenance = .unknown then .error .unsupportedProvenance
    else if !context.familyEnabled then .error .unsupportedFamily
    else if !observation.link.valid then .error .unknownLink
    else
      let valid := validateObservation observation store.policy
      if !valid.ok then
        .error (if valid.code = .unsupported then .unsupportedFamily else .invalidValue)
      else if context.currentGeneration.valid ∧
          observation.provenance.generation ≠ context.currentGeneration then
        .error .generationBehind
      else .ok source

/-- The last part of `accept`: every fence has been passed. -/
def recordEvidence (store : EvidenceStore) (observation : Observation) (source : SourceRecord)
    (stream : StreamState) (outcome : AcceptOutcome) (now : TimePoint) :
    EvidenceStore × AcceptOutcome :=
  let slotKey : SlotKey := ⟨observation.link, observation.key⟩
  let evidence : Evidence :=
    { observation := observation
      acceptedAt := now
      authority := source.authority
      provenance := source.provenance }
  let observed := (store.slotFor slotKey).observeReading observation stream.gapCount outcome now
  let slot := observed.1
  let outcome := observed.2
  let slot := if outcome.revisionGap then slot.markGap now else slot
  let slot := slot.append evidence store.policy.limits.maxEvidencePerKey
  let store : EvidenceStore :=
    { store with
      slots := store.slots.insert slotKey slot
      counterResets :=
        if outcome.discontinuity = .reset then store.counterResets + 1 else store.counterResets
      counterWraps :=
        if outcome.discontinuity = .wrap then store.counterWraps + 1 else store.counterWraps
      totalAccepted := store.totalAccepted + 1 }
  (store.setStream observation.provenance.source (stream.advance observation),
    { outcome with accepted := true })

/-- Applies every ingest fence, then records the observation as evidence. -/
def accept (store : EvidenceStore) (observation : Observation) (context : AcceptContext)
    (now : TimePoint) : EvidenceStore × AcceptOutcome :=
  match store.admission observation context with
  | .error reason => (store.countFence reason, { fence := reason })
  | .ok source =>
    let sourceId := observation.provenance.source
    let stream := store.streamFor sourceId
    match enterScope stream (scopeOf observation.provenance) with
    | .error reason =>
      ((store.setStream sourceId stream.countFenced).countFence reason, { fence := reason })
    | .ok (stream, scopeChanged) =>
      match judgeRevision stream observation with
      | .duplicate =>
        let store := { store with duplicates := store.duplicates + 1 }
        ((store.setStream sourceId stream.countFenced).countFence .duplicateObservation,
          { fence := .duplicateObservation, duplicate := true, scopeChanged })
      | .replay =>
        ((store.setStream sourceId stream.countFenced).countFence .revisionReplay,
          { fence := .revisionReplay, scopeChanged })
      | .next gap =>
        let stream := stream.openGap gap
        let store := store.countGap gap
        let slotKey : SlotKey := ⟨observation.link, observation.key⟩
        let existing := store.slots[slotKey]?
        if existing.any fun slot => authorityDowngrade slot observation source.authority then
          ((store.setStream sourceId stream.countFenced).countFence .authorityDowngrade,
            { fence := .authorityDowngrade, revisionGap := gap, scopeChanged })
        else if store.full && existing.isNone then
          ((store.setStream sourceId stream).countFence .storeFull,
            { fence := .storeFull, revisionGap := gap, scopeChanged })
        else
          store.recordEvidence observation source stream { revisionGap := gap, scopeChanged } now

end EvidenceStore

end LinkObservatory
