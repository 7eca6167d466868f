import LinkObservatory.EvidenceStore
import LinkObservatory.LinkRegistry
import LinkObservatory.TransitionLog

namespace LinkObservatory
set_option autoImplicit true

open Std ByteCodec

def kMaxStringField : Nat := 256
def kMaxRetiredScopesBound : UInt64 := 64
def kMaxEvidencePerSlotBound : UInt64 := 1024
def kMaxSourcesBound : UInt64 := 4096

/-- A reader of persisted bytes; the error is the status of the source's `ByteReader`, which stays
successful when a decoder rejects a value without calling `fail`. -/
abbrev ByteReader (α : Type) := Reader Status α

def encodeU8 (value : UInt8) : Bytes := [value]
def encodeU32 (value : UInt32) : Bytes := leBytes 4 value.toUInt64
def encodeU64 (value : UInt64) : Bytes := leBytes 8 value
def encodeI64 (value : Int64) : Bytes := encodeU64 value.toUInt64
def encodeBool (value : Bool) : Bytes := encodeU8 (if value then 1 else 0)
def encodeCount (value : Nat) : Bytes := encodeU64 (UInt64.ofNat value)
def encodeBytes (value : Bytes) : Bytes := encodeU64 (UInt64.ofNat value.length) ++ value

/-- A collection is its length followed by its records. -/
def encodeList (encode : α → Bytes) (items : List α) : Bytes :=
  encodeCount items.length ++ items.flatMap encode

namespace ByteReader

def truncated : Status := .of .corruptData "truncated byte"

def u8 : ByteReader UInt8 := readByte truncated

def u32 : ByteReader UInt32 := do
  let value ← readWord truncated 4 0 0
  return value.toUInt32

def u64 : ByteReader UInt64 := readWord truncated 8 0 0

def i64 : ByteReader Int64 := do
  let value ← u64
  return value.toInt64

def boolValue : ByteReader Bool := do
  let value ← u8
  if value ≤ 1 then return value == 1
  else throw (.of .corruptData "invalid boolean encoding")

def raw (size : Nat) : ByteReader Bytes := readExactly (.of .corruptData "truncated payload") size

/-- The body of a string field whose length was read. -/
def body (length maxSize : Nat) : ByteReader Bytes := fun input =>
  if length > maxSize ∨ length > input.length then
    .error (.of .corruptData "string field exceeds its bound")
  else raw length input

def bytes (maxSize : Nat) : ByteReader Bytes := do
  let length ← u64
  body length.toNat maxSize

def count (maxValue : UInt64) : ByteReader Nat := do
  let value ← u64
  if value ≤ maxValue then return value.toNat
  else throw (.of .corruptData "collection exceeds its bound")

/-- The enumerator of a code byte; an unknown code is rejected silently. -/
def enumerator (values : List α) (code : UInt8) : ByteReader α :=
  match values[code.toNat]? with
  | some value => pure value
  | none => throw .success

def list (bound : UInt64) (reader : ByteReader α) : ByteReader (List α) := do
  let length ← count bound
  readMany reader length

end ByteReader

theorem codes_u8 (value : UInt8) : Codes ByteReader.u8 (encodeU8 value) value True :=
  codes_byte _ value

theorem codes_u64 (value : UInt64) : Codes ByteReader.u64 (encodeU64 value) value True :=
  codes_word _ value

theorem codes_u32 (value : UInt32) : Codes ByteReader.u32 (encodeU32 value) value True := by
  have h := (codes_halfWord ByteReader.truncated value).last UInt64.toUInt32
  rwa [UInt32.toUInt32_toUInt64] at h

theorem codes_i64 (value : Int64) : Codes ByteReader.i64 (encodeI64 value) value True := by
  have h := (codes_u64 value.toUInt64).last UInt64.toInt64
  rwa [Int64.toInt64_toUInt64] at h

theorem codes_bool (value : Bool) : Codes ByteReader.boolValue (encodeBool value) value True := by
  have h : Codes ByteReader.boolValue _ _ _ := (codes_u8 (if value then 1 else 0)).seq
    ((Codes.pure _).check (e := Status.of .corruptData "invalid boolean encoding"))
  rw [List.append_nil] at h
  cases value <;> exact h.mono fun _ => ⟨by decide, trivial⟩

theorem codes_count (h : n < 2 ^ 64) (bound : UInt64) :
    Codes (ByteReader.count bound) (encodeCount n) n (n ≤ bound.toNat) := by
  have hn : (UInt64.ofNat n).toNat = n := UInt64.toNat_ofNat_of_lt' h
  have hc : Codes (ByteReader.count bound) _ _ _ := (codes_u64 (UInt64.ofNat n)).seq
    ((Codes.pure _).check (e := Status.of .corruptData "collection exceeds its bound"))
  rw [List.append_nil, hn] at hc
  refine hc.mono fun hle => ⟨?_, trivial⟩
  rwa [UInt64.le_iff_toNat_le, hn]

theorem codes_bytes (h : (encodeBytes value).length < 2 ^ 64) (maxSize : Nat) :
    Codes (ByteReader.bytes maxSize) (encodeBytes value) value (value.length ≤ maxSize) := by
  have hlt : value.length < 2 ^ 64 := by
    rw [encodeBytes, List.length_append] at h
    omega
  have hn : (UInt64.ofNat value.length).toNat = value.length := UInt64.toNat_ofNat_of_lt' hlt
  refine (codes_u64 _).seq ?_
  rw [hn]
  have hraw (rest : Bytes) : ByteReader.raw value.length (value ++ rest) = .ok (value, rest) :=
    readExactly_append _ value rest
  constructor
  · intro hfits rest
    unfold ByteReader.body
    rw [if_neg (by simp; omega), hraw]
  · intro rest result hresult
    unfold ByteReader.body at hresult
    split at hresult
    · cases hresult
    · rw [hraw] at hresult
      exact (Except.ok.inj hresult).symm

theorem codes_enumerator (h : values[code.toNat]? = some value) :
    Codes (ByteReader.enumerator values code) [] value True := by
  unfold ByteReader.enumerator
  rw [h]
  exact Codes.pure value

theorem codes_list {reader : ByteReader α} {encode : α → Bytes} {fits : α → Prop}
    (items : List α) (hsize : (encodeList encode items).length < 2 ^ 64)
    (hpos : ∀ a, 0 < (encode a).length) (bound : UInt64)
    (h : ∀ a, (encode a).length < 2 ^ 64 → Codes reader (encode a) a (fits a)) :
    Codes (ByteReader.list bound reader) (encodeList encode items) items
      (items.length ≤ bound.toNat ∧ ∀ a ∈ items, fits a) := by
  rw [encodeList, List.length_append] at hsize
  have hlength := length_le_flatMap items hpos
  refine (codes_count (by omega) bound).bind (codes_many items fun a ha => h a ?_)
  have ha := length_le_flatMap_of_mem encode ha
  omega

def allDirections : List Direction := [.unknown, .in, .out, .both]

def allErrorClasses : List ErrorClass :=
  [.none, .total, .crc, .symbol, .framing, .encoding, .congestion, .other]

def allCounterWidths : List CounterWidth := [.bits32, .bits64]

def allAuthorities : List SourceAuthority := [.unknown, .synthetic, .derived, .secondary, .primary]

def allProvenances : List ProvenanceClass := [.unknown, .real, .synthetic, .replayed]

def allLinkKinds : List LinkKind := [.unknown, .physical, .logical, .aggregate]

def allDiscontinuities : List CounterDiscontinuity := [.none, .reset, .wrap]

def allAdminStates : List AdminStateValue := [.unknown, .enabled, .disabled]

def allOperStates : List OperStateValue := [.unknown, .up, .down, .degraded]

def allTransitionKinds : List TransitionKind :=
  [.linkRegistered, .linkRetired, .generationChanged, .adminStateChanged, .operStateChanged,
    .classificationChanged, .counterReset, .counterWrap, .sourceEpochChanged,
    .sourceIncarnationChanged, .revisionGap, .staleEvidence]

def StrongId.encode (id : StrongId kind) : Bytes := encodeU64 id.hash.hi ++ encodeU64 id.hash.lo

def StrongId.decode : ByteReader (StrongId kind) := do
  let hi ← ByteReader.u64
  let lo ← ByteReader.u64
  return .fromHash { hi, lo }

theorem StrongId.encode_pos (id : StrongId kind) : 0 < id.encode.length := Nat.zero_lt_succ _

theorem StrongId.codes (id : StrongId kind) : Codes StrongId.decode id.encode id True :=
  (codes_u64 _).seq ((codes_u64 _).last _)

def TimePoint.encode (value : TimePoint) : Bytes := encodeI64 value.nanos

def TimePoint.decode : ByteReader TimePoint := do
  let nanos ← ByteReader.i64
  return { nanos }

theorem TimePoint.codes (value : TimePoint) : Codes TimePoint.decode value.encode value True :=
  (codes_i64 _).last _

def Duration.encode (value : Duration) : Bytes := encodeI64 value.nanos

def Duration.decode : ByteReader Duration := do
  let nanos ← ByteReader.i64
  return { nanos }

theorem Duration.codes (value : Duration) : Codes Duration.decode value.encode value True :=
  (codes_i64 _).last _

def SequenceScope.encode (value : SequenceScope) : Bytes :=
  value.source.encode ++ value.incarnation.encode ++ value.epoch.encode

def SequenceScope.decode : ByteReader SequenceScope := do
  let source ← StrongId.decode
  let incarnation ← StrongId.decode
  let epoch ← StrongId.decode
  return { source, incarnation, epoch }

theorem SequenceScope.encode_pos (value : SequenceScope) : 0 < value.encode.length := by
  simp only [SequenceScope.encode, List.length_append]
  have := StrongId.encode_pos value.source
  omega

theorem SequenceScope.codes (value : SequenceScope) :
    Codes SequenceScope.decode value.encode value True := by
  rw [SequenceScope.encode, List.append_assoc]
  exact (StrongId.codes _).seq ((StrongId.codes _).seq ((StrongId.codes _).last _))

def MetricKey.encode (value : MetricKey) : Bytes :=
  encodeU8 value.family.code ++ encodeU8 value.direction.code ++ encodeU8 value.errorClass.code

def MetricKey.decode : ByteReader MetricKey := do
  let family ← ByteReader.u8
  let direction ← ByteReader.u8
  let errorClass ← ByteReader.u8
  let family ← ByteReader.enumerator allMetricFamilies family
  let direction ← ByteReader.enumerator allDirections direction
  let errorClass ← ByteReader.enumerator allErrorClasses errorClass
  return { family, direction, errorClass }

theorem MetricKey.codes (value : MetricKey) : Codes MetricKey.decode value.encode value True := by
  have hfamily : allMetricFamilies[value.family.code.toNat]? = some value.family := by
    cases value.family <;> rfl
  have hdirection : allDirections[value.direction.code.toNat]? = some value.direction := by
    cases value.direction <;> rfl
  have hclass : allErrorClasses[value.errorClass.code.toNat]? = some value.errorClass := by
    cases value.errorClass <;> rfl
  rw [MetricKey.encode, List.append_assoc, ← List.append_nil (encodeU8 value.errorClass.code)]
  exact (codes_u8 _).seq <| (codes_u8 _).seq <| (codes_u8 _).seq <|
    (codes_enumerator hfamily).skip <| (codes_enumerator hdirection).skip <|
    (codes_enumerator hclass).last _

def CounterReading.encode (value : CounterReading) : Bytes :=
  encodeU64 value.raw ++ encodeU8 value.width.code ++ encodeBool value.resetDeclared

def CounterReading.decode : ByteReader CounterReading := do
  let raw ← ByteReader.u64
  let width ← ByteReader.u8
  let width ← ByteReader.enumerator allCounterWidths width
  let resetDeclared ← ByteReader.boolValue
  return { raw, width, resetDeclared }

theorem CounterReading.codes (value : CounterReading) :
    Codes CounterReading.decode value.encode value True := by
  have hwidth : allCounterWidths[value.width.code.toNat]? = some value.width := by
    cases value.width <;> rfl
  rw [CounterReading.encode, List.append_assoc]
  exact (codes_u64 _).seq <| (codes_u8 _).seq <| (codes_enumerator hwidth).skip <|
    (codes_bool _).last _

def MetricPayload.encode (value : MetricPayload) : Bytes :=
  encodeU8 value.index ++ match value with
    | .adminState value => encodeU8 value.code
    | .operState value => encodeU8 value.code
    | .counter reading => reading.encode
    | .ratio ppb => encodeU64 ppb
    | .quality reading => encodeU64 reading.valuePpb ++ encodeBool reading.degradedDeclared
    | .flap reading => encodeU64 reading.events ++ reading.window.encode

/-- The body of the alternative a payload announces. -/
def MetricPayload.decodeAlternative : UInt8 → ByteReader MetricPayload
  | 0 => do
    let value ← ByteReader.u8
    let value ← ByteReader.enumerator allAdminStates value
    return .adminState value
  | 1 => do
    let value ← ByteReader.u8
    let value ← ByteReader.enumerator allOperStates value
    return .operState value
  | 2 => do
    let reading ← CounterReading.decode
    return .counter reading
  | 3 => do
    let ppb ← ByteReader.u64
    return .ratio ppb
  | 4 => do
    let valuePpb ← ByteReader.u64
    let degradedDeclared ← ByteReader.boolValue
    return .quality { valuePpb, degradedDeclared }
  | 5 => do
    let events ← ByteReader.u64
    let window ← Duration.decode
    return .flap { events, window }
  | _ => throw .success

def MetricPayload.decode : ByteReader MetricPayload := do
  let alternative ← ByteReader.u8
  MetricPayload.decodeAlternative alternative

theorem MetricPayload.codes (value : MetricPayload) :
    Codes MetricPayload.decode value.encode value True := by
  refine (codes_u8 _).seq ?_
  cases value with
  | adminState value =>
    have hvalue : allAdminStates[value.code.toNat]? = some value := by cases value <;> rfl
    show Codes _ (encodeU8 value.code ++ []) _ _
    exact (codes_u8 _).seq ((codes_enumerator hvalue).last _)
  | operState value =>
    have hvalue : allOperStates[value.code.toNat]? = some value := by cases value <;> rfl
    show Codes _ (encodeU8 value.code ++ []) _ _
    exact (codes_u8 _).seq ((codes_enumerator hvalue).last _)
  | counter reading => exact (CounterReading.codes reading).last _
  | ratio ppb => exact (codes_u64 ppb).last _
  | quality reading => exact (codes_u64 _).seq ((codes_bool _).last _)
  | flap reading => exact (codes_u64 _).seq ((Duration.codes _).last _)

def Provenance.encode (value : Provenance) : Bytes :=
  value.source.encode ++ value.incarnation.encode ++ value.epoch.encode ++ value.generation.encode
    ++ encodeU64 value.sequence

def Provenance.decode : ByteReader Provenance := do
  let source ← StrongId.decode
  let incarnation ← StrongId.decode
  let epoch ← StrongId.decode
  let generation ← StrongId.decode
  let sequence ← ByteReader.u64
  return { source, incarnation, epoch, generation, sequence }

theorem Provenance.codes (value : Provenance) :
    Codes Provenance.decode value.encode value True := by
  simp only [Provenance.encode, List.append_assoc]
  exact (StrongId.codes _).seq <| (StrongId.codes _).seq <| (StrongId.codes _).seq <|
    (StrongId.codes _).seq <| (codes_u64 _).last _

def Observation.encode (value : Observation) : Bytes :=
  value.id.encode ++ value.provenance.encode ++ value.link.encode ++ value.key.encode
    ++ value.payload.encode ++ value.observedAt.encode ++ value.receivedAt.encode

def Observation.decode : ByteReader Observation := do
  let id ← StrongId.decode
  let provenance ← Provenance.decode
  let link ← StrongId.decode
  let key ← MetricKey.decode
  let payload ← MetricPayload.decode
  let observedAt ← TimePoint.decode
  let receivedAt ← TimePoint.decode
  return { id, provenance, link, key, payload, observedAt, receivedAt }

theorem Observation.codes (value : Observation) :
    Codes Observation.decode value.encode value True := by
  simp only [Observation.encode, List.append_assoc]
  exact (StrongId.codes _).seq <| (Provenance.codes _).seq <| (StrongId.codes _).seq <|
    (MetricKey.codes _).seq <| (MetricPayload.codes _).seq <| (TimePoint.codes _).seq <|
    (TimePoint.codes _).last _

def Evidence.encode (value : Evidence) : Bytes :=
  value.observation.encode ++ value.acceptedAt.encode ++ encodeU8 value.authority.code
    ++ encodeU8 value.provenance.code

theorem Evidence.encode_pos (value : Evidence) : 0 < value.encode.length := by
  simp only [Evidence.encode, Observation.encode, List.length_append]
  have hid := value.observation.id.encode_pos
  omega

def Evidence.decode : ByteReader Evidence := do
  let observation ← Observation.decode
  let acceptedAt ← TimePoint.decode
  let authority ← ByteReader.u8
  let provenance ← ByteReader.u8
  let authority ← ByteReader.enumerator allAuthorities authority
  let provenance ← ByteReader.enumerator allProvenances provenance
  return { observation, acceptedAt, authority, provenance }

theorem authority_listed (authority : SourceAuthority) :
    allAuthorities[authority.code.toNat]? = some authority := by
  cases authority <;> rfl

theorem provenance_listed (provenance : ProvenanceClass) :
    allProvenances[provenance.code.toNat]? = some provenance := by
  cases provenance <;> rfl

theorem Evidence.codes (value : Evidence) : Codes Evidence.decode value.encode value True := by
  simp only [Evidence.encode, List.append_assoc]
  rw [← List.append_nil (encodeU8 value.provenance.code)]
  exact (Observation.codes _).seq <| (TimePoint.codes _).seq <| (codes_u8 _).seq <|
    (codes_u8 _).seq <| (codes_enumerator (authority_listed _)).skip <|
    (codes_enumerator (provenance_listed _)).last _

def CounterSample.encode (value : CounterSample) : Bytes :=
  value.reading.encode ++ value.observedAt.encode ++ value.receivedAt.encode
    ++ encodeU64 value.sequence ++ value.scope.encode ++ value.generation.encode
    ++ encodeU64 value.gapEpoch

def CounterSample.decode : ByteReader CounterSample := do
  let reading ← CounterReading.decode
  let observedAt ← TimePoint.decode
  let receivedAt ← TimePoint.decode
  let sequence ← ByteReader.u64
  let scope ← SequenceScope.decode
  let generation ← StrongId.decode
  let gapEpoch ← ByteReader.u64
  return { reading, observedAt, receivedAt, sequence, scope, generation, gapEpoch }

theorem CounterSample.codes (value : CounterSample) :
    Codes CounterSample.decode value.encode value True := by
  simp only [CounterSample.encode, List.append_assoc]
  exact (CounterReading.codes _).seq <| (TimePoint.codes _).seq <| (TimePoint.codes _).seq <|
    (codes_u64 _).seq <| (SequenceScope.codes _).seq <| (StrongId.codes _).seq <|
    (codes_u64 _).last _

def CounterContinuity.encode (value : CounterContinuity) : Bytes :=
  value.latest.encode ++ value.previous.encode ++ encodeBool value.hasLatest
    ++ encodeBool value.hasPrevious ++ encodeU8 value.lastDiscontinuity.code
    ++ encodeU64 value.resetCount ++ encodeU64 value.wrapCount ++ encodeU64 value.gapCount

def CounterContinuity.decode : ByteReader CounterContinuity := do
  let latest ← CounterSample.decode
  let previous ← CounterSample.decode
  let hasLatest ← ByteReader.boolValue
  let hasPrevious ← ByteReader.boolValue
  let discontinuity ← ByteReader.u8
  let lastDiscontinuity ← ByteReader.enumerator allDiscontinuities discontinuity
  let resetCount ← ByteReader.u64
  let wrapCount ← ByteReader.u64
  let gapCount ← ByteReader.u64
  return { latest, previous, hasLatest, hasPrevious, lastDiscontinuity, resetCount, wrapCount,
           gapCount }

theorem CounterContinuity.codes (value : CounterContinuity) :
    Codes CounterContinuity.decode value.encode value True := by
  have hdiscontinuity : allDiscontinuities[value.lastDiscontinuity.code.toNat]? =
      some value.lastDiscontinuity := by
    cases value.lastDiscontinuity <;> rfl
  simp only [CounterContinuity.encode, List.append_assoc]
  exact (CounterSample.codes _).seq <| (CounterSample.codes _).seq <| (codes_bool _).seq <|
    (codes_bool _).seq <| (codes_u8 _).seq <| (codes_enumerator hdiscontinuity).skip <|
    (codes_u64 _).seq <| (codes_u64 _).seq <| (codes_u64 _).last _

def StreamState.encode (value : StreamState) : Bytes :=
  encodeBool value.hasScope ++ value.scope.encode ++ encodeBool value.hasSequence
    ++ encodeU64 value.lastSequence ++ value.lastObservation.encode ++ encodeBool value.gapOpen
    ++ encodeList SequenceScope.encode value.retiredScopes ++ encodeU64 value.accepted
    ++ encodeU64 value.fenced ++ encodeU64 value.gapCount ++ encodeU64 value.scopeChanges

def StreamState.decode : ByteReader StreamState := do
  let hasScope ← ByteReader.boolValue
  let scope ← SequenceScope.decode
  let hasSequence ← ByteReader.boolValue
  let lastSequence ← ByteReader.u64
  let lastObservation ← StrongId.decode
  let gapOpen ← ByteReader.boolValue
  let retiredScopes ← ByteReader.list kMaxRetiredScopesBound SequenceScope.decode
  let accepted ← ByteReader.u64
  let fenced ← ByteReader.u64
  let gapCount ← ByteReader.u64
  let scopeChanges ← ByteReader.u64
  return { hasScope, scope, hasSequence, lastSequence, lastObservation, gapOpen, retiredScopes,
           accepted, fenced, gapCount, scopeChanges }

theorem StreamState.codes (value : StreamState) (h : value.encode.length < 2 ^ 64) :
    Codes StreamState.decode value.encode value
      (value.retiredScopes.length ≤ kMaxRetiredScopesBound.toNat) := by
  simp only [StreamState.encode, List.append_assoc, List.length_append] at h ⊢
  have hscopes := codes_list value.retiredScopes (by omega) SequenceScope.encode_pos
    kMaxRetiredScopesBound fun scope _ => SequenceScope.codes scope
  exact (codes_bool _).seq <| (SequenceScope.codes _).seq <| (codes_bool _).seq <|
    (codes_u64 _).seq <| (StrongId.codes _).seq <| (codes_bool _).seq <|
    (hscopes.mono fun hfits => ⟨hfits, fun _ _ => trivial⟩).before <|
    (codes_u64 _).seq <| (codes_u64 _).seq <| (codes_u64 _).seq <| (codes_u64 _).last _

def SlotKey.encode (value : SlotKey) : Bytes := value.link.encode ++ value.key.encode

def SlotKey.decode : ByteReader SlotKey := do
  let link ← StrongId.decode
  let key ← MetricKey.decode
  return { link, key }

theorem SlotKey.codes (value : SlotKey) : Codes SlotKey.decode value.encode value True :=
  (StrongId.codes _).seq ((MetricKey.codes _).last _)

def encodeContinuityEntry (entry : SourceId × CounterContinuity) : Bytes :=
  entry.1.encode ++ entry.2.encode

def decodeContinuityEntry : ByteReader (SourceId × CounterContinuity) := do
  let source ← StrongId.decode
  let state ← CounterContinuity.decode
  return (source, state)

theorem codes_continuityEntry (entry : SourceId × CounterContinuity) :
    Codes decodeContinuityEntry (encodeContinuityEntry entry) entry True :=
  (StrongId.codes _).seq ((CounterContinuity.codes _).last _)

theorem continuityEntry_pos (entry : SourceId × CounterContinuity) :
    0 < (encodeContinuityEntry entry).length := by
  rw [encodeContinuityEntry, List.length_append]
  have hsource := entry.1.encode_pos
  omega

/-- The map of decoded entries; the first entry of a source is kept. -/
def continuityOf (entries : List (SourceId × CounterContinuity)) : ContinuityMap :=
  entries.foldl (fun map entry => map.insertIfNew entry.1 entry.2) ∅

theorem continuityOf_toList (map : ContinuityMap) : continuityOf map.toList = map :=
  OrderedMap.foldl_insertIfNew_toList map

def PersistedSlot.encode (value : PersistedSlot) : Bytes :=
  value.slot.encode ++ encodeList Evidence.encode value.history
    ++ encodeList encodeContinuityEntry value.continuity.toList ++ encodeU64 value.accepted
    ++ encodeU64 value.fenced ++ value.lastGapAt.encode ++ encodeBool value.hasGap
    ++ encodeU64 value.resetCount ++ encodeU64 value.wrapCount

def PersistedSlot.decode : ByteReader PersistedSlot := do
  let slot ← SlotKey.decode
  let history ← ByteReader.list kMaxEvidencePerSlotBound Evidence.decode
  let continuity ← ByteReader.list kMaxSourcesBound decodeContinuityEntry
  let accepted ← ByteReader.u64
  let fenced ← ByteReader.u64
  let lastGapAt ← TimePoint.decode
  let hasGap ← ByteReader.boolValue
  let resetCount ← ByteReader.u64
  let wrapCount ← ByteReader.u64
  return { slot, history, continuity := continuityOf continuity, accepted, fenced, lastGapAt,
           hasGap, resetCount, wrapCount }

def PersistedSlot.Fits (value : PersistedSlot) : Prop :=
  value.history.length ≤ kMaxEvidencePerSlotBound.toNat ∧
    value.continuity.size ≤ kMaxSourcesBound.toNat

theorem PersistedSlot.codes (value : PersistedSlot) (h : value.encode.length < 2 ^ 64) :
    Codes PersistedSlot.decode value.encode value value.Fits := by
  simp only [PersistedSlot.encode, List.append_assoc, List.length_append] at h ⊢
  have hhistory := codes_list value.history (by omega) Evidence.encode_pos
    kMaxEvidencePerSlotBound fun evidence _ => Evidence.codes evidence
  have hentries := codes_list value.continuity.toList (by omega) continuityEntry_pos
    kMaxSourcesBound fun entry _ => codes_continuityEntry entry
  rw [ExtTreeMap.length_toList] at hentries
  suffices Codes PersistedSlot.decode _
      { value with continuity := continuityOf value.continuity.toList } value.Fits by
    rwa [continuityOf_toList] at this
  exact (SlotKey.codes _).seq <|
    (hhistory.mono fun hfits => ⟨hfits, fun _ _ => trivial⟩).bind <|
    (hentries.mono fun hfits => ⟨hfits, fun _ _ => trivial⟩).before <|
    (codes_u64 _).seq <| (codes_u64 _).seq <| (TimePoint.codes _).seq <| (codes_bool _).seq <|
    (codes_u64 _).seq <| (codes_u64 _).last _

def LinkFacts.encode (value : LinkFacts) : Bytes :=
  value.id.encode ++ encodeBytes value.name ++ value.localEndpoint.encode
    ++ value.remoteEndpoint.encode ++ value.localPort.encode ++ value.remotePort.encode
    ++ encodeU8 value.kind.code ++ value.generation.encode ++ encodeBool value.capacityKnown
    ++ encodeU64 value.capacityInBps ++ encodeU64 value.capacityOutBps
    ++ encodeU8 value.provenance.code

def LinkFacts.decode : ByteReader LinkFacts := do
  let id ← StrongId.decode
  let name ← ByteReader.bytes kMaxStringField
  let localEndpoint ← StrongId.decode
  let remoteEndpoint ← StrongId.decode
  let localPort ← StrongId.decode
  let remotePort ← StrongId.decode
  let kind ← ByteReader.u8
  let kind ← ByteReader.enumerator allLinkKinds kind
  let generation ← StrongId.decode
  let capacityKnown ← ByteReader.boolValue
  let capacityInBps ← ByteReader.u64
  let capacityOutBps ← ByteReader.u64
  let provenance ← ByteReader.u8
  let provenance ← ByteReader.enumerator allProvenances provenance
  return { id, name, localEndpoint, remoteEndpoint, localPort, remotePort, kind, generation,
           capacityKnown, capacityInBps, capacityOutBps, provenance }

theorem LinkFacts.codes (value : LinkFacts) (h : value.encode.length < 2 ^ 64) :
    Codes LinkFacts.decode value.encode value (value.name.length ≤ kMaxStringField) := by
  have hkind : allLinkKinds[value.kind.code.toNat]? = some value.kind := by
    cases value.kind <;> rfl
  simp only [LinkFacts.encode, List.append_assoc, List.length_append] at h ⊢
  rw [← List.append_nil (encodeU8 value.provenance.code)]
  exact (StrongId.codes _).seq <| (codes_bytes (by omega) _).before <| (StrongId.codes _).seq <|
    (StrongId.codes _).seq <| (StrongId.codes _).seq <| (StrongId.codes _).seq <|
    (codes_u8 _).seq <| (codes_enumerator hkind).skip <| (StrongId.codes _).seq <|
    (codes_bool _).seq <| (codes_u64 _).seq <| (codes_u64 _).seq <| (codes_u8 _).seq <|
    (codes_enumerator (provenance_listed _)).last _

def SourceRecord.encode (value : SourceRecord) : Bytes :=
  value.id.encode ++ encodeBytes value.name ++ encodeU8 value.authority.code
    ++ encodeU8 value.provenance.code ++ encodeBool value.registered ++ encodeBool value.retired

def SourceRecord.decode : ByteReader SourceRecord := do
  let id ← StrongId.decode
  let name ← ByteReader.bytes kMaxStringField
  let authority ← ByteReader.u8
  let provenance ← ByteReader.u8
  let authority ← ByteReader.enumerator allAuthorities authority
  let provenance ← ByteReader.enumerator allProvenances provenance
  let registered ← ByteReader.boolValue
  let retired ← ByteReader.boolValue
  return { id, name, authority, provenance, registered, retired }

theorem SourceRecord.encode_pos (value : SourceRecord) : 0 < value.encode.length := by
  simp only [SourceRecord.encode, List.length_append]
  have hid := value.id.encode_pos
  omega

theorem SourceRecord.codes (value : SourceRecord) (h : value.encode.length < 2 ^ 64) :
    Codes SourceRecord.decode value.encode value (value.name.length ≤ kMaxStringField) := by
  simp only [SourceRecord.encode, List.append_assoc, List.length_append] at h ⊢
  exact (StrongId.codes _).seq <| (codes_bytes (by omega) _).before <| (codes_u8 _).seq <|
    (codes_u8 _).seq <| (codes_enumerator (authority_listed _)).skip <|
    (codes_enumerator (provenance_listed _)).skip <| (codes_bool _).seq <| (codes_bool _).last _

def TransitionEvent.encode (value : TransitionEvent) : Bytes :=
  value.id.encode ++ value.link.encode ++ encodeU8 value.kind.code ++ value.at_.encode
    ++ value.generation.encode ++ value.source.encode ++ encodeBytes value.fromText
    ++ encodeBytes value.toText ++ encodeU64 value.detail

def TransitionEvent.decode : ByteReader TransitionEvent := do
  let id ← StrongId.decode
  let link ← StrongId.decode
  let kind ← ByteReader.u8
  let kind ← ByteReader.enumerator allTransitionKinds kind
  let at_ ← TimePoint.decode
  let generation ← StrongId.decode
  let source ← StrongId.decode
  let fromText ← ByteReader.bytes kMaxStringField
  let toText ← ByteReader.bytes kMaxStringField
  let detail ← ByteReader.u64
  return { id, link, kind, at_, generation, source, fromText, toText, detail }

def TransitionEvent.Fits (value : TransitionEvent) : Prop :=
  value.fromText.length ≤ kMaxStringField ∧ value.toText.length ≤ kMaxStringField

theorem TransitionEvent.encode_pos (value : TransitionEvent) : 0 < value.encode.length := by
  simp only [TransitionEvent.encode, List.length_append]
  have hid := value.id.encode_pos
  omega

theorem TransitionEvent.codes (value : TransitionEvent) (h : value.encode.length < 2 ^ 64) :
    Codes TransitionEvent.decode value.encode value value.Fits := by
  have hkind : allTransitionKinds[value.kind.code.toNat]? = some value.kind := by
    cases value.kind <;> rfl
  simp only [TransitionEvent.encode, List.append_assoc, List.length_append] at h ⊢
  exact (StrongId.codes _).seq <| (StrongId.codes _).seq <| (codes_u8 _).seq <|
    (codes_enumerator hkind).skip <| (TimePoint.codes _).seq <| (StrongId.codes _).seq <|
    (StrongId.codes _).seq <| (codes_bytes (by omega) _).bind <|
    (codes_bytes (by omega) _).before <| (codes_u64 _).last _

def LinkEntry.encode (value : LinkEntry) : Bytes :=
  value.facts.encode ++ value.registeredAt.encode ++ value.lastEvidenceAt.encode
    ++ value.lastAcceptedAt.encode ++ encodeU64 value.acceptedObservations
    ++ encodeU64 value.fencedObservations ++ encodeBool value.retired
    ++ encodeBool value.hasEvidence

def LinkEntry.decode : ByteReader LinkEntry := do
  let facts ← LinkFacts.decode
  let registeredAt ← TimePoint.decode
  let lastEvidenceAt ← TimePoint.decode
  let lastAcceptedAt ← TimePoint.decode
  let acceptedObservations ← ByteReader.u64
  let fencedObservations ← ByteReader.u64
  let retired ← ByteReader.boolValue
  let hasEvidence ← ByteReader.boolValue
  return { facts, registeredAt, lastEvidenceAt, lastAcceptedAt, acceptedObservations,
           fencedObservations, retired, hasEvidence }

theorem LinkEntry.codes (value : LinkEntry) (h : value.encode.length < 2 ^ 64) :
    Codes LinkEntry.decode value.encode value (value.facts.name.length ≤ kMaxStringField) := by
  simp only [LinkEntry.encode, List.append_assoc, List.length_append] at h ⊢
  exact (LinkFacts.codes _ (by omega)).before <| (TimePoint.codes _).seq <|
    (TimePoint.codes _).seq <| (TimePoint.codes _).seq <| (codes_u64 _).seq <|
    (codes_u64 _).seq <| (codes_bool _).seq <| (codes_bool _).last _

def LinkGenerationState.encode (value : LinkGenerationState) : Bytes :=
  value.currentGeneration.encode ++ encodeBool value.hasGeneration
    ++ encodeList StrongId.encode value.retiredGenerations ++ encodeU64 value.generationChanges

def LinkGenerationState.decode : ByteReader LinkGenerationState := do
  let currentGeneration ← StrongId.decode
  let hasGeneration ← ByteReader.boolValue
  let retiredGenerations ← ByteReader.list kMaxRetiredScopesBound StrongId.decode
  let generationChanges ← ByteReader.u64
  return { currentGeneration, hasGeneration, retiredGenerations, generationChanges }

theorem LinkGenerationState.codes (value : LinkGenerationState)
    (h : value.encode.length < 2 ^ 64) :
    Codes LinkGenerationState.decode value.encode value
      (value.retiredGenerations.length ≤ kMaxRetiredScopesBound.toNat) := by
  simp only [LinkGenerationState.encode, List.append_assoc, List.length_append] at h ⊢
  have hretired := codes_list value.retiredGenerations (by omega) StrongId.encode_pos
    kMaxRetiredScopesBound fun generation _ => StrongId.codes generation
  exact (StrongId.codes _).seq <| (codes_bool _).seq <|
    (hretired.mono fun hfits => ⟨hfits, fun _ _ => trivial⟩).before <| (codes_u64 _).last _

def PersistedLink.encode (value : PersistedLink) : Bytes :=
  value.facts.encode ++ value.entry.encode ++ value.generations.encode

def PersistedLink.decode : ByteReader PersistedLink := do
  let facts ← LinkFacts.decode
  let entry ← LinkEntry.decode
  let generations ← LinkGenerationState.decode
  return { facts, entry, generations }

structure PersistedLink.Fits (value : PersistedLink) : Prop where
  facts : value.facts.name.length ≤ kMaxStringField
  entry : value.entry.facts.name.length ≤ kMaxStringField
  generations : value.generations.retiredGenerations.length ≤ kMaxRetiredScopesBound.toNat

theorem PersistedLink.encode_pos (value : PersistedLink) : 0 < value.encode.length := by
  simp only [PersistedLink.encode, LinkFacts.encode, List.length_append]
  have hid := value.facts.id.encode_pos
  omega

theorem PersistedLink.codes (value : PersistedLink) (h : value.encode.length < 2 ^ 64) :
    Codes PersistedLink.decode value.encode value value.Fits := by
  simp only [PersistedLink.encode, List.append_assoc, List.length_append] at h ⊢
  have hread : Codes PersistedLink.decode _ value _ := (LinkFacts.codes value.facts (by omega)).bind
    ((LinkEntry.codes value.entry (by omega)).bind
      ((LinkGenerationState.codes value.generations (by omega)).last _))
  exact hread.mono fun hfits => ⟨hfits.facts, hfits.entry, hfits.generations⟩

end LinkObservatory
