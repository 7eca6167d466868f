import LinkObservatory.Snapshot

namespace LinkObservatory
set_option autoImplicit true

open Std ByteCodec

theorem consumes_u8 : Consumes ByteReader.u8 fun bytes a => bytes = encodeU8 a := Consumes.byte _

theorem consumes_u64 : Consumes ByteReader.u64 fun bytes a => bytes = encodeU64 a :=
  (Consumes.word _ (by decide)).mono fun _ _ h => h.1

theorem consumes_u32 : Consumes ByteReader.u32 fun bytes a => bytes = encodeU32 a := by
  refine (Consumes.word _ (by decide)).bind fun value front hfront => .pure ?_
  obtain ⟨rfl, hlt⟩ := hfront
  have hsame : value.toUInt32.toUInt64 = value := by
    apply UInt64.toNat_inj.1
    rw [UInt32.toNat_toUInt64, UInt64.toNat_toUInt32, Nat.mod_eq_of_lt (by simpa using hlt)]
  rw [List.append_nil, encodeU32, hsame]

theorem consumes_i64 : Consumes ByteReader.i64 fun bytes a => bytes = encodeI64 a := by
  refine consumes_u64.bind fun value front hfront => .pure ?_
  rw [hfront, List.append_nil, encodeI64, UInt64.toUInt64_toInt64]

theorem consumes_bool : Consumes ByteReader.boolValue fun bytes a => bytes = encodeBool a := by
  refine consumes_u8.bind fun value front hfront => .check fun hle => .pure ?_
  rw [hfront, List.append_nil, encodeBool]
  have hcases : value = 0 ∨ value = 1 := by
    have hnat := UInt8.le_iff_toNat_le.1 hle
    change value.toNat ≤ 1 at hnat
    rcases Nat.le_one_iff_eq_zero_or_eq_one.1 hnat with h | h
    · exact .inl (UInt8.toNat_inj.1 h)
    · exact .inr (UInt8.toNat_inj.1 h)
  rcases hcases with rfl | rfl <;> rfl

theorem consumes_bytes (maxSize : Nat) : Consumes (ByteReader.bytes maxSize) fun bytes a =>
    bytes = encodeBytes a ∧ a.length ≤ maxSize := by
  refine consumes_u64.bind fun length front hfront => ?_
  intro input a rest hread
  unfold ByteReader.body at hread
  split at hread
  · cases hread
  · rename_i hbound
    obtain ⟨bytes, rfl, rfl, hlength⟩ := Consumes.exactly _ _ input a rest hread
    refine ⟨bytes, rfl, ?_, by omega⟩
    rw [hfront, encodeBytes, hlength, UInt64.ofNat_toNat]

theorem consumes_count (bound : UInt64) : Consumes (ByteReader.count bound) fun bytes a =>
    bytes = encodeCount a ∧ a ≤ bound.toNat := by
  refine consumes_u64.bind fun value front hfront => .check fun hle => .pure ?_
  rw [hfront, List.append_nil, encodeCount, UInt64.ofNat_toNat]
  exact ⟨rfl, UInt64.le_iff_toNat_le.1 hle⟩

theorem consumes_enumerator {values : List α} (codeOf : α → UInt8) (hnodup : values.Nodup)
    (hlisted : ∀ a, values[(codeOf a).toNat]? = some a) (code : UInt8) :
    Consumes (ByteReader.enumerator values code) fun bytes a => bytes = [] ∧ code = codeOf a := by
  unfold ByteReader.enumerator
  split
  · rename_i value hvalue
    refine .pure ⟨rfl, UInt8.toNat_inj.1 ?_⟩
    obtain ⟨hlt, -⟩ := List.getElem?_eq_some_iff.1 hvalue
    exact (List.getElem?_inj hlt hnodup).1 (hvalue.trans (hlisted value).symm)
  · exact .throw _ _

theorem consumes_list {reader : ByteReader α} {encode : α → Bytes} (fits : α → Prop)
    (h : Consumes reader fun bytes a => bytes = encode a ∧ fits a) (bound : UInt64) :
    Consumes (ByteReader.list bound reader) fun bytes items =>
      bytes = encodeList encode items ∧ items.length ≤ bound.toNat ∧ ∀ a ∈ items, fits a := by
  refine (consumes_count bound).bind fun length front hfront =>
    (Consumes.many h length).mono fun back items hback => ?_
  obtain ⟨rfl, hle⟩ := hfront
  obtain ⟨rfl, rfl, hfits⟩ := hback
  exact ⟨rfl, hle, hfits⟩

theorem StrongId.consumes :
    Consumes (@StrongId.decode kind) fun bytes a => bytes = a.encode :=
  consumes_u64.bind fun _ _ h => consumes_u64.bind fun _ _ h' => .pure (by
    rw [h, h', List.append_nil]
    rfl)

theorem TimePoint.consumes : Consumes TimePoint.decode fun bytes a => bytes = a.encode :=
  consumes_i64.bind fun _ _ h => .pure (by rw [h, List.append_nil]; rfl)

theorem Duration.consumes : Consumes Duration.decode fun bytes a => bytes = a.encode :=
  consumes_i64.bind fun _ _ h => .pure (by rw [h, List.append_nil]; rfl)

theorem SequenceScope.consumes : Consumes SequenceScope.decode fun bytes a => bytes = a.encode :=
  StrongId.consumes.bind fun _ _ h1 => StrongId.consumes.bind fun _ _ h2 =>
  StrongId.consumes.bind fun _ _ h3 => .pure (by
    subst h1 h2 h3
    simp [SequenceScope.encode])

theorem MetricKey.consumes : Consumes MetricKey.decode fun bytes a => bytes = a.encode := by
  refine consumes_u8.bind fun _ _ h1 => consumes_u8.bind fun _ _ h2 =>
    consumes_u8.bind fun _ _ h3 => ?_
  refine (consumes_enumerator MetricFamily.code (by decide)
    (fun a => by cases a <;> rfl) _).bind fun _ _ h4 => ?_
  refine (consumes_enumerator Direction.code (by decide)
    (fun a => by cases a <;> rfl) _).bind fun _ _ h5 => ?_
  refine (consumes_enumerator ErrorClass.code (by decide)
    (fun a => by cases a <;> rfl) _).bind fun _ _ h6 => .pure ?_
  obtain ⟨⟨rfl, rfl⟩, ⟨rfl, rfl⟩, rfl, rfl⟩ := And.intro h4 (And.intro h5 h6)
  subst h1 h2 h3
  simp [MetricKey.encode]

theorem CounterReading.consumes :
    Consumes CounterReading.decode fun bytes a => bytes = a.encode := by
  refine consumes_u64.bind fun _ _ h1 => consumes_u8.bind fun _ _ h2 => ?_
  refine (consumes_enumerator CounterWidth.code (by decide)
    (fun a => by cases a <;> rfl) _).bind fun _ _ h3 => consumes_bool.bind fun _ _ h4 => .pure ?_
  obtain ⟨rfl, rfl⟩ := h3
  subst h1 h2 h4
  simp [CounterReading.encode]

theorem MetricPayload.consumes :
    Consumes MetricPayload.decode fun bytes a => bytes = a.encode := by
  refine consumes_u8.bind fun alternative front hfront => ?_
  unfold MetricPayload.decodeAlternative
  split
  · refine consumes_u8.bind fun _ _ h1 => (consumes_enumerator AdminStateValue.code
      (by decide) (fun a => by cases a <;> rfl) _).bind fun _ _ h2 => .pure ?_
    obtain ⟨rfl, rfl⟩ := h2
    subst h1 hfront
    rfl
  · refine consumes_u8.bind fun _ _ h1 => (consumes_enumerator OperStateValue.code
      (by decide) (fun a => by cases a <;> rfl) _).bind fun _ _ h2 => .pure ?_
    obtain ⟨rfl, rfl⟩ := h2
    subst h1 hfront
    rfl
  · refine CounterReading.consumes.bind fun _ _ h1 => .pure ?_
    rw [h1, hfront, List.append_nil]
    rfl
  · refine consumes_u64.bind fun _ _ h1 => .pure ?_
    rw [h1, hfront, List.append_nil]
    rfl
  · refine consumes_u64.bind fun _ _ h1 => consumes_bool.bind fun _ _ h2 => .pure ?_
    rw [h1, h2, hfront, List.append_nil]
    rfl
  · refine consumes_u64.bind fun _ _ h1 => Duration.consumes.bind fun _ _ h2 => .pure ?_
    rw [h1, h2, hfront, List.append_nil]
    rfl
  · exact .throw _ _

theorem Provenance.consumes : Consumes Provenance.decode fun bytes a => bytes = a.encode := by
  refine StrongId.consumes.bind fun _ _ h1 => StrongId.consumes.bind fun _ _ h2 =>
    StrongId.consumes.bind fun _ _ h3 => StrongId.consumes.bind fun _ _ h4 =>
    consumes_u64.bind fun _ _ h5 => .pure ?_
  subst h1 h2 h3 h4 h5
  simp [Provenance.encode]

theorem Observation.consumes : Consumes Observation.decode fun bytes a => bytes = a.encode := by
  refine StrongId.consumes.bind fun _ _ h1 => Provenance.consumes.bind fun _ _ h2 =>
    StrongId.consumes.bind fun _ _ h3 => MetricKey.consumes.bind fun _ _ h4 =>
    MetricPayload.consumes.bind fun _ _ h5 => TimePoint.consumes.bind fun _ _ h6 =>
    TimePoint.consumes.bind fun _ _ h7 => .pure ?_
  subst h1 h2 h3 h4 h5 h6 h7
  simp [Observation.encode]

theorem consumes_authority (code : UInt8) :
    Consumes (ByteReader.enumerator allAuthorities code) fun bytes a =>
      bytes = [] ∧ code = a.code :=
  consumes_enumerator _ (by decide) authority_listed code

theorem consumes_provenance (code : UInt8) :
    Consumes (ByteReader.enumerator allProvenances code) fun bytes a =>
      bytes = [] ∧ code = a.code :=
  consumes_enumerator _ (by decide) provenance_listed code

theorem Evidence.consumes : Consumes Evidence.decode fun bytes a => bytes = a.encode := by
  refine Observation.consumes.bind fun _ _ h1 => TimePoint.consumes.bind fun _ _ h2 =>
    consumes_u8.bind fun _ _ h3 => consumes_u8.bind fun _ _ h4 =>
    (consumes_authority _).bind fun _ _ h5 => (consumes_provenance _).bind fun _ _ h6 => .pure ?_
  obtain ⟨⟨rfl, rfl⟩, rfl, rfl⟩ := And.intro h5 h6
  subst h1 h2 h3 h4
  simp [Evidence.encode]

theorem CounterSample.consumes :
    Consumes CounterSample.decode fun bytes a => bytes = a.encode := by
  refine CounterReading.consumes.bind fun _ _ h1 => TimePoint.consumes.bind fun _ _ h2 =>
    TimePoint.consumes.bind fun _ _ h3 => consumes_u64.bind fun _ _ h4 =>
    SequenceScope.consumes.bind fun _ _ h5 => StrongId.consumes.bind fun _ _ h6 =>
    consumes_u64.bind fun _ _ h7 => .pure ?_
  subst h1 h2 h3 h4 h5 h6 h7
  simp [CounterSample.encode]

theorem CounterContinuity.consumes :
    Consumes CounterContinuity.decode fun bytes a => bytes = a.encode := by
  refine CounterSample.consumes.bind fun _ _ h1 => CounterSample.consumes.bind fun _ _ h2 =>
    consumes_bool.bind fun _ _ h3 => consumes_bool.bind fun _ _ h4 =>
    consumes_u8.bind fun _ _ h5 => ?_
  refine (consumes_enumerator CounterDiscontinuity.code (by decide)
    (fun a => by cases a <;> rfl) _).bind fun _ _ h6 => consumes_u64.bind fun _ _ h7 =>
    consumes_u64.bind fun _ _ h8 => consumes_u64.bind fun _ _ h9 => .pure ?_
  obtain ⟨rfl, rfl⟩ := h6
  subst h1 h2 h3 h4 h5 h7 h8 h9
  simp [CounterContinuity.encode]

theorem StreamState.consumes : Consumes StreamState.decode fun bytes a =>
    bytes = a.encode ∧ a.retiredScopes.length ≤ kMaxRetiredScopesBound.toNat := by
  refine consumes_bool.bind fun _ _ h1 => SequenceScope.consumes.bind fun _ _ h2 =>
    consumes_bool.bind fun _ _ h3 => consumes_u64.bind fun _ _ h4 =>
    StrongId.consumes.bind fun _ _ h5 => consumes_bool.bind fun _ _ h6 => ?_
  refine (consumes_list (fun _ => True)
    (SequenceScope.consumes.mono fun _ _ h => ⟨h, trivial⟩) _).bind fun _ _ h7 =>
    consumes_u64.bind fun _ _ h8 => consumes_u64.bind fun _ _ h9 =>
    consumes_u64.bind fun _ _ h10 => consumes_u64.bind fun _ _ h11 => .pure ?_
  obtain ⟨rfl, hretired, -⟩ := h7
  subst h1 h2 h3 h4 h5 h6 h8 h9 h10 h11
  exact ⟨by simp [StreamState.encode], hretired⟩

theorem SlotKey.consumes : Consumes SlotKey.decode fun bytes a => bytes = a.encode :=
  StrongId.consumes.bind fun _ _ h => MetricKey.consumes.bind fun _ _ h' => .pure (by
    rw [h, h', List.append_nil]
    rfl)

theorem consumes_continuityEntry :
    Consumes decodeContinuityEntry fun bytes a => bytes = encodeContinuityEntry a :=
  StrongId.consumes.bind fun _ _ h => CounterContinuity.consumes.bind fun _ _ h' => .pure (by
    rw [h, h', List.append_nil]
    rfl)

/-- A slot as it is read, with its continuity entries in the order of the bytes. -/
structure RawSlot where
  slot : PersistedSlot
  entries : List (SourceId × CounterContinuity)

/-- `PersistedSlot.decode`, which keeps the entries that the map is built from. -/
def RawSlot.decode : ByteReader RawSlot := do
  let slot ← SlotKey.decode
  let history ← ByteReader.list kMaxEvidencePerSlotBound Evidence.decode
  let entries ← ByteReader.list kMaxSourcesBound decodeContinuityEntry
  let accepted ← ByteReader.u64
  let fenced ← ByteReader.u64
  let lastGapAt ← TimePoint.decode
  let hasGap ← ByteReader.boolValue
  let resetCount ← ByteReader.u64
  let wrapCount ← ByteReader.u64
  let persisted : PersistedSlot :=
    { slot, history, continuity := continuityOf entries, accepted, fenced, lastGapAt, hasGap
      resetCount, wrapCount }
  return { slot := persisted, entries }

theorem PersistedSlot.decode_raw : PersistedSlot.decode = RawSlot.slot <$> RawSlot.decode := by
  simp only [PersistedSlot.decode, RawSlot.decode, map_bind, map_pure]

/-- The bytes of a slot with the given continuity entries. -/
def PersistedSlot.encodeEntries (value : PersistedSlot)
    (entries : List (SourceId × CounterContinuity)) : Bytes :=
  value.slot.encode ++ encodeList Evidence.encode value.history
    ++ encodeList encodeContinuityEntry entries ++ encodeU64 value.accepted
    ++ encodeU64 value.fenced ++ value.lastGapAt.encode ++ encodeBool value.hasGap
    ++ encodeU64 value.resetCount ++ encodeU64 value.wrapCount

def RawSlot.encode (value : RawSlot) : Bytes := value.slot.encodeEntries value.entries

theorem RawSlot.consumes : Consumes RawSlot.decode fun bytes a =>
    bytes = a.encode ∧ a.slot.Fits ∧ a.slot.continuity = continuityOf a.entries := by
  refine SlotKey.consumes.bind fun _ _ h1 => ?_
  refine (consumes_list (fun _ => True)
    (Evidence.consumes.mono fun _ _ h => ⟨h, trivial⟩) _).bind fun _ _ h2 => ?_
  refine (consumes_list (fun _ => True)
    (consumes_continuityEntry.mono fun _ _ h => ⟨h, trivial⟩) _).bind fun entries _ h3 => ?_
  refine consumes_u64.bind fun _ _ h4 => consumes_u64.bind fun _ _ h5 =>
    TimePoint.consumes.bind fun _ _ h6 => consumes_bool.bind fun _ _ h7 =>
    consumes_u64.bind fun _ _ h8 => consumes_u64.bind fun _ _ h9 => .pure ?_
  obtain ⟨rfl, hhistory, -⟩ := h2
  obtain ⟨rfl, hentries, -⟩ := h3
  subst h1 h4 h5 h6 h7 h8 h9
  refine ⟨by simp [RawSlot.encode, PersistedSlot.encodeEntries], ⟨hhistory, ?_⟩, rfl⟩
  have hsize := OrderedMap.size_foldl_insertIfNew_le entries (∅ : ContinuityMap)
  rw [ExtTreeMap.size_empty, Nat.zero_add] at hsize
  exact hsize.trans hentries

theorem RawSlot.encode_ascending {raw : RawSlot}
    (h : raw.slot.continuity = continuityOf raw.entries)
    (hascending : raw.entries.Pairwise fun a b => StrongId.compare a.1 b.1 = .lt) :
    raw.encode = raw.slot.encode := by
  have hlist : raw.slot.continuity.toList = raw.entries := by
    rw [h, continuityOf]
    exact OrderedMap.toList_foldl_insertIfNew hascending
  rw [RawSlot.encode, PersistedSlot.encode, hlist]
  rfl

theorem LinkFacts.consumes : Consumes LinkFacts.decode fun bytes a =>
    bytes = a.encode ∧ a.name.length ≤ kMaxStringField := by
  refine StrongId.consumes.bind fun _ _ h1 => (consumes_bytes _).bind fun _ _ h2 =>
    StrongId.consumes.bind fun _ _ h3 => StrongId.consumes.bind fun _ _ h4 =>
    StrongId.consumes.bind fun _ _ h5 => StrongId.consumes.bind fun _ _ h6 =>
    consumes_u8.bind fun _ _ h7 => ?_
  refine (consumes_enumerator LinkKind.code (by decide)
    (fun a => by cases a <;> rfl) _).bind fun _ _ h8 => StrongId.consumes.bind fun _ _ h9 =>
    consumes_bool.bind fun _ _ h10 => consumes_u64.bind fun _ _ h11 =>
    consumes_u64.bind fun _ _ h12 => consumes_u8.bind fun _ _ h13 =>
    (consumes_provenance _).bind fun _ _ h14 => .pure ?_
  obtain ⟨⟨rfl, hname⟩, ⟨rfl, rfl⟩, rfl, rfl⟩ := And.intro h2 (And.intro h8 h14)
  subst h1 h3 h4 h5 h6 h7 h9 h10 h11 h12 h13
  exact ⟨by simp [LinkFacts.encode], hname⟩

theorem SourceRecord.consumes : Consumes SourceRecord.decode fun bytes a =>
    bytes = a.encode ∧ a.name.length ≤ kMaxStringField := by
  refine StrongId.consumes.bind fun _ _ h1 => (consumes_bytes _).bind fun _ _ h2 =>
    consumes_u8.bind fun _ _ h3 => consumes_u8.bind fun _ _ h4 =>
    (consumes_authority _).bind fun _ _ h5 => (consumes_provenance _).bind fun _ _ h6 =>
    consumes_bool.bind fun _ _ h7 => consumes_bool.bind fun _ _ h8 => .pure ?_
  obtain ⟨⟨rfl, hname⟩, ⟨rfl, rfl⟩, rfl, rfl⟩ := And.intro h2 (And.intro h5 h6)
  subst h1 h3 h4 h7 h8
  exact ⟨by simp [SourceRecord.encode], hname⟩

theorem TransitionEvent.consumes : Consumes TransitionEvent.decode fun bytes a =>
    bytes = a.encode ∧ a.Fits := by
  refine StrongId.consumes.bind fun _ _ h1 => StrongId.consumes.bind fun _ _ h2 =>
    consumes_u8.bind fun _ _ h3 => ?_
  refine (consumes_enumerator TransitionKind.code (by decide)
    (fun a => by cases a <;> rfl) _).bind fun _ _ h4 => TimePoint.consumes.bind fun _ _ h5 =>
    StrongId.consumes.bind fun _ _ h6 => StrongId.consumes.bind fun _ _ h7 =>
    (consumes_bytes _).bind fun _ _ h8 => (consumes_bytes _).bind fun _ _ h9 =>
    consumes_u64.bind fun _ _ h10 => .pure ?_
  obtain ⟨⟨rfl, rfl⟩, ⟨rfl, hfrom⟩, rfl, hto⟩ := And.intro h4 (And.intro h8 h9)
  subst h1 h2 h3 h5 h6 h7 h10
  exact ⟨by simp [TransitionEvent.encode], hfrom, hto⟩

theorem LinkEntry.consumes : Consumes LinkEntry.decode fun bytes a =>
    bytes = a.encode ∧ a.facts.name.length ≤ kMaxStringField := by
  refine LinkFacts.consumes.bind fun _ _ h1 => TimePoint.consumes.bind fun _ _ h2 =>
    TimePoint.consumes.bind fun _ _ h3 => TimePoint.consumes.bind fun _ _ h4 =>
    consumes_u64.bind fun _ _ h5 => consumes_u64.bind fun _ _ h6 =>
    consumes_bool.bind fun _ _ h7 => consumes_bool.bind fun _ _ h8 => .pure ?_
  obtain ⟨rfl, hname⟩ := h1
  subst h2 h3 h4 h5 h6 h7 h8
  exact ⟨by simp [LinkEntry.encode], hname⟩

theorem LinkGenerationState.consumes : Consumes LinkGenerationState.decode fun bytes a =>
    bytes = a.encode ∧ a.retiredGenerations.length ≤ kMaxRetiredScopesBound.toNat := by
  refine StrongId.consumes.bind fun _ _ h1 => consumes_bool.bind fun _ _ h2 => ?_
  refine (consumes_list (fun _ => True)
    (StrongId.consumes.mono fun _ _ h => ⟨h, trivial⟩) _).bind fun _ _ h3 =>
    consumes_u64.bind fun _ _ h4 => .pure ?_
  obtain ⟨rfl, hretired, -⟩ := h3
  subst h1 h2 h4
  exact ⟨by simp [LinkGenerationState.encode], hretired⟩

theorem PersistedLink.consumes : Consumes PersistedLink.decode fun bytes a =>
    bytes = a.encode ∧ a.Fits := by
  refine LinkFacts.consumes.bind fun _ _ h1 => LinkEntry.consumes.bind fun _ _ h2 =>
    LinkGenerationState.consumes.bind fun _ _ h3 => .pure ?_
  refine ⟨?_, h1.2, h2.2, h3.2⟩
  rw [h1.1, h2.1, h3.1, List.append_nil, PersistedLink.encode, List.append_assoc]

theorem consumes_stream : Consumes decodeStream fun bytes a =>
    bytes = encodeStream a ∧ a.2.retiredScopes.length ≤ kMaxRetiredScopesBound.toNat := by
  refine StrongId.consumes.bind fun _ _ h1 => StreamState.consumes.bind fun _ _ h2 => .pure ?_
  obtain ⟨rfl, hretired⟩ := h2
  subst h1
  exact ⟨by simp [encodeStream], hretired⟩

theorem consumes_collection {reader : ByteReader α} {encode : α → Bytes} {fits : α → Prop}
    (h : Consumes reader fun bytes a => bytes = encode a ∧ fits a) (bound : UInt64)
    (message : String) :
    Consumes (collection bound message reader) fun bytes items =>
      bytes = encodeList encode items ∧ items.length ≤ bound.toNat ∧ ∀ a ∈ items, fits a := by
  refine ((consumes_count bound).relabel _).bind fun length front hfront =>
    ((Consumes.many h length).relabel _).mono fun back items hback => ?_
  obtain ⟨rfl, hle⟩ := hfront
  obtain ⟨rfl, rfl, hfits⟩ := hback
  exact ⟨rfl, hle, hfits⟩

/-- The bytes of the head of a payload, up to the number of links. -/
def SnapshotContents.encodeHead (contents : SnapshotContents) : Bytes :=
  encodeU32 kSnapshotFormatVersion ++ contents.runtime.encode ++ contents.incarnation.encode
    ++ contents.savedAt.encode ++ encodeU64 contents.acceptanceIndex

theorem consumes_payloadHead (limits : Limits) :
    Consumes (decodePayloadHead limits) fun bytes a =>
      bytes = a.1.encodeHead ++ encodeCount a.2 ∧ a.2 ≤ limits.maxLinks.toNat ∧
        a.1.formatVersion = kSnapshotFormatVersion := by
  refine consumes_u32.bind fun version _ h1 => .check fun hversion => ?_
  refine StrongId.consumes.bind fun _ _ h2 => StrongId.consumes.bind fun _ _ h3 =>
    TimePoint.consumes.bind fun _ _ h4 => consumes_u64.bind fun _ _ h5 =>
    (consumes_count _).bind fun _ _ h6 => .pure ?_
  obtain ⟨rfl, hle⟩ := h6
  subst h1 h2 h3 h4 h5 hversion
  exact ⟨by simp [SnapshotContents.encodeHead], hle, rfl⟩

/-- The contents with the totals of others. -/
def SnapshotContents.withTotals (start totals : SnapshotContents) : SnapshotContents :=
  { start with
    totalAccepted := totals.totalAccepted
    totalFenced := totals.totalFenced
    duplicates := totals.duplicates
    revisionGaps := totals.revisionGaps
    counterResets := totals.counterResets
    counterWraps := totals.counterWraps
    transitionsDropped := totals.transitionsDropped }

theorem consumes_totals (start : SnapshotContents) :
    Consumes (decodeTotals start) fun bytes a =>
      bytes = a.encodeTotals ∧ a = start.withTotals a := by
  refine consumes_u64.bind fun _ _ h1 => consumes_u64.bind fun _ _ h2 =>
    consumes_u64.bind fun _ _ h3 => consumes_u64.bind fun _ _ h4 =>
    consumes_u64.bind fun _ _ h5 => consumes_u64.bind fun _ _ h6 =>
    consumes_u64.bind fun _ _ h7 => .pure ?_
  subst h1 h2 h3 h4 h5 h6 h7
  exact ⟨by simp [SnapshotContents.encodeTotals], rfl⟩

/-- The payload decoder, which also returns the slots as they were read. -/
def decodeRawPayload (limits : Limits) : PayloadReader (SnapshotContents × List RawSlot) := do
  let head ← relabel headFailure (decodePayloadHead limits)
  let links ← relabel (corrupt "snapshot link record is invalid")
    (readMany PersistedLink.decode head.2)
  let sources ← collection limits.maxSources "snapshot source record is invalid"
    SourceRecord.decode
  let slots ← collection (maxSlots limits) "snapshot evidence slot is invalid" RawSlot.decode
  let streams ← collection limits.maxSources "snapshot stream record is invalid" decodeStream
  let transitions ← collection limits.maxTotalTransitions "snapshot transition record is invalid"
    TransitionEvent.decode
  let contents ← relabel (corrupt "snapshot totals are truncated")
    (decodeTotals { head.1 with
      links, sources, slots := slots.map RawSlot.slot, streams, transitions })
  return (contents, slots)

theorem collection_map (bound : UInt64) (message : String) (f : α → β) (reader : ByteReader α) :
    collection bound message (f <$> reader) = List.map f <$> collection bound message reader := by
  simp only [collection, readMany_map, relabel_map, map_bind]

theorem decodePayload_raw (limits : Limits) :
    decodePayload limits = Prod.fst <$> decodeRawPayload limits := by
  simp only [decodePayload, decodeRawPayload, PersistedSlot.decode_raw, collection_map,
    bind_map_left, map_bind, map_pure, bind_pure]

/-- The bytes of a payload around its slots. -/
def SnapshotContents.encodeAround (contents : SnapshotContents) (slots : Bytes) : Bytes :=
  contents.encodeHead ++ encodeList PersistedLink.encode contents.links
    ++ encodeList SourceRecord.encode contents.sources ++ slots
    ++ encodeList encodeStream contents.streams
    ++ encodeList TransitionEvent.encode contents.transitions ++ contents.encodeTotals

theorem SnapshotContents.encodePayload_around (contents : SnapshotContents) :
    contents.encodePayload =
      contents.encodeAround (encodeList PersistedSlot.encode contents.slots) := rfl

/-- What the payload decoder accepts is the payload of the contents it returns, up to the order of
the continuity entries, and it is within the decoder's bounds. -/
theorem consumes_rawPayload (limits : Limits) :
    Consumes (decodeRawPayload limits) fun bytes a =>
      bytes = a.1.encodeAround (encodeList RawSlot.encode a.2) ∧ a.1.Fits limits ∧
        a.1.formatVersion = kSnapshotFormatVersion ∧ a.1.slots = a.2.map RawSlot.slot ∧
        ∀ raw ∈ a.2, raw.slot.continuity = continuityOf raw.entries := by
  refine ((consumes_payloadHead limits).relabel _).bind fun head _ h1 => ?_
  refine ((Consumes.many PersistedLink.consumes _).relabel _).bind fun links _ h2 => ?_
  refine (consumes_collection SourceRecord.consumes _ _).bind fun sources _ h3 => ?_
  refine (consumes_collection RawSlot.consumes _ _).bind fun slots _ h4 => ?_
  refine (consumes_collection consumes_stream _ _).bind fun streams _ h5 => ?_
  refine (consumes_collection TransitionEvent.consumes _ _).bind fun transitions _ h6 => ?_
  refine ((consumes_totals _).relabel _).bind fun contents _ h7 => .pure ?_
  obtain ⟨h1, hlinkCount, hversion⟩ := h1
  obtain ⟨h2, hlength, hlinks⟩ := h2
  obtain ⟨h3, hsourceCount, hsources⟩ := h3
  obtain ⟨h4, hslotCount, hslots⟩ := h4
  obtain ⟨h5, hstreamCount, hstreams⟩ := h5
  obtain ⟨h6, htransitionCount, htransitions⟩ := h6
  obtain ⟨h7, hcontents⟩ := h7
  have elinks : contents.links = links := congrArg SnapshotContents.links hcontents
  have esources : contents.sources = sources := congrArg SnapshotContents.sources hcontents
  have eslots : contents.slots = slots.map RawSlot.slot :=
    congrArg SnapshotContents.slots hcontents
  have estreams : contents.streams = streams := congrArg SnapshotContents.streams hcontents
  have etransitions : contents.transitions = transitions :=
    congrArg SnapshotContents.transitions hcontents
  have ehead : contents.encodeHead = head.1.encodeHead :=
    (congrArg SnapshotContents.encodeHead hcontents).trans rfl
  refine ⟨?_, ?_, (congrArg SnapshotContents.formatVersion hcontents).trans hversion, eslots,
    fun raw hmem => (hslots raw hmem).2⟩
  · have hcounted : encodeCount head.2 ++ links.flatMap PersistedLink.encode =
        encodeList PersistedLink.encode links := by rw [encodeList, hlength]
    rw [h1, h2, h3, h4, h5, h6, h7, SnapshotContents.encodeAround, elinks, esources, estreams,
      etransitions, ehead, ← hcounted]
    simp only [List.append_assoc, List.append_nil]
  · refine ⟨?_, ?_, ?_, ?_, ?_, ?_, ?_, ?_, ?_, ?_⟩
    · rwa [elinks, hlength]
    · rwa [elinks]
    · rwa [esources]
    · rwa [esources]
    · rwa [eslots, List.length_map]
    · rw [eslots, List.forall_mem_map]
      exact fun raw hmem => (hslots raw hmem).1
    · rwa [estreams]
    · rwa [estreams]
    · rwa [etransitions]
    · rwa [etransitions]

/-- A slot whose continuity entries were read in the order of their sources. -/
def RawSlot.Ascending (raw : RawSlot) : Prop :=
  raw.entries.Pairwise fun a b => StrongId.compare a.1 b.1 = .lt

theorem encodeList_ascending {raws : List RawSlot}
    (h : ∀ raw ∈ raws, raw.slot.continuity = continuityOf raw.entries)
    (hascending : ∀ raw ∈ raws, raw.Ascending) :
    encodeList RawSlot.encode raws =
      encodeList PersistedSlot.encode (raws.map RawSlot.slot) := by
  rw [encodeList, encodeList, List.length_map, List.flatMap_map]
  congr 1
  exact List.flatMap_congr fun raw hmem =>
    RawSlot.encode_ascending (h raw hmem) (hascending raw hmem)

theorem decodePayload_accepted (h : decodePayload limits bytes = .ok (contents, rest)) :
    ∃ raws, decodeRawPayload limits bytes = .ok ((contents, raws), rest) := by
  rw [decodePayload_raw] at h
  change (decodeRawPayload limits bytes).bind _ = _ at h
  cases hraw : decodeRawPayload limits bytes with
  | error failure =>
    rw [hraw] at h
    cases h
  | ok read =>
    rw [hraw] at h
    obtain ⟨⟨contents, raws⟩, rest⟩ := read
    cases h
    exact ⟨raws, rfl⟩

theorem decodePayload_of_raw (h : decodeRawPayload limits bytes = .ok ((contents, raws), rest)) :
    decodePayload limits bytes = .ok (contents, rest) := by
  rw [decodePayload_raw]
  change (decodeRawPayload limits bytes).bind _ = _
  rw [h]
  rfl

/-- Contents within the bounds of the decoder are read back from the payload that the writer emits,
and what the decoder accepts with ascending entries is the payload of what it returns. -/
theorem payload_bijective (limits : Limits) :
    (∀ (contents : SnapshotContents) (writer : Limits),
      contents.formatVersion = kSnapshotFormatVersion → contents.Fits limits →
      contents.encodePayload.length ≤ writer.maxSnapshotBytes.toNat →
      decodePayload limits contents.encodePayload = .ok (contents, [])) ∧
    ∀ (bytes : Bytes) (contents : SnapshotContents),
      decodePayload limits bytes = .ok (contents, []) →
      (∀ raws, decodeRawPayload limits bytes = .ok ((contents, raws), []) →
        ∀ raw ∈ raws, raw.Ascending) →
      contents.encodePayload = bytes := by
  constructor
  · intro contents writer hversion hfits hemitted
    have hlt := writer.maxSnapshotBytes.toNat_lt
    have hread := (codes_payload contents limits (by omega)).read hfits []
    rwa [List.append_nil, SnapshotContents.stamped, ← hversion] at hread
  · intro bytes contents haccepted hascending
    obtain ⟨raws, hraw⟩ := decodePayload_accepted haccepted
    obtain ⟨taken, rfl, hbytes, -, -, hslots, hentries⟩ :=
      consumes_rawPayload limits bytes _ _ hraw
    rw [List.append_nil] at hraw hascending ⊢
    rw [contents.encodePayload_around, hslots, hbytes,
      encodeList_ascending hentries (hascending raws hraw)]

instance (raw : RawSlot) : Decidable raw.Ascending :=
  inferInstanceAs (Decidable (List.Pairwise _ _))

/-- A slot with a reading and the counters of two sources. -/
def sharedSlot : RawSlot :=
  let entries : List (SourceId × CounterContinuity) :=
    [({ hash := { lo := 1 } }, { hasLatest := true }),
      ({ hash := { lo := 2 } }, { hasLatest := true, resetCount := 1 })]
  { slot := { history := [{}], continuity := continuityOf entries, accepted := 3 }, entries }

def sharedContents : SnapshotContents :=
  { formatVersion := kSnapshotFormatVersion, sources := [{ name := ascii "s" }]
    slots := [sharedSlot.slot], totalAccepted := 3 }

/-- The payload of `sharedContents` with the entries of its slot as they are listed. -/
def sharedBytes : Bytes :=
  sharedContents.encodeAround (encodeList RawSlot.encode [sharedSlot])

/-- A payload with a slot of two counters is read back, and what is read from listed entries is
written as it was read. -/
theorem payload_bijective_slot :
    decodePayload makeDefaultPolicy.limits sharedContents.encodePayload =
        .ok (sharedContents, []) ∧
      ∃ contents, decodePayload makeDefaultPolicy.limits sharedBytes = .ok (contents, []) ∧
        contents.slots.length = 1 ∧ contents.encodePayload = sharedBytes := by
  obtain ⟨hread, hwritten⟩ := payload_bijective makeDefaultPolicy.limits
  have hslot : sharedSlot.slot.Fits := ⟨by decide +kernel, by decide +kernel⟩
  have hfits : sharedContents.Fits makeDefaultPolicy.limits := by
    constructor <;> simp [sharedContents, hslot] <;> decide +kernel
  constructor
  · exact hread sharedContents makeDefaultPolicy.limits rfl hfits (by decide +kernel)
  · have hdecoded : (decodeRawPayload makeDefaultPolicy.limits sharedBytes).toOption.any
        (fun read => read.2.isEmpty && read.1.1.slots.length == 1 &&
          decide (∀ raw ∈ read.1.2, raw.Ascending)) = true := by
      decide +kernel
    cases hraw : decodeRawPayload makeDefaultPolicy.limits sharedBytes with
    | error failure =>
      rw [hraw] at hdecoded
      cases hdecoded
    | ok read =>
      obtain ⟨⟨contents, raws⟩, rest⟩ := read
      rw [hraw] at hdecoded
      change (rest.isEmpty && contents.slots.length == 1 &&
        decide (∀ raw ∈ raws, raw.Ascending)) = true at hdecoded
      rw [Bool.and_eq_true, Bool.and_eq_true, List.isEmpty_iff, beq_iff_eq,
        decide_eq_true_eq] at hdecoded
      obtain ⟨⟨rfl, hlength⟩, hascending⟩ := hdecoded
      have hread := decodePayload_of_raw hraw
      refine ⟨contents, hread, hlength, hwritten sharedBytes contents hread ?_⟩
      intro others hothers
      rw [hraw] at hothers
      cases hothers
      exact hascending

end LinkObservatory
