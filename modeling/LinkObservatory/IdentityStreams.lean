import LinkObservatory.Codec
import LinkObservatory.Fnv
import LinkObservatory.Lib.PrefixCode
import LinkObservatory.TransitionLog

namespace LinkObservatory
set_option autoImplicit true

open PrefixCode

/-- Identity of the evidence that an observation becomes. -/
def computeEvidenceId (observation : Observation) : EvidenceId :=
  let builder := HashBuilder.addStr {} (ascii "evidence-v1")
  let builder := builder.addHash observation.link.hash
  let builder := builder.addU8 observation.key.family.code
  let builder := builder.addU8 observation.key.direction.code
  let builder := builder.addU8 observation.key.errorClass.code
  let builder := builder.addHash observation.provenance.source.hash
  let builder := builder.addHash observation.provenance.incarnation.hash
  let builder := builder.addHash observation.provenance.epoch.hash
  let builder := builder.addU64 observation.provenance.sequence
  .fromHash builder.finish

def encodeHash (value : Hash128) : Bytes := encodeU64 value.hi ++ encodeU64 value.lo

def MetricKey.stream (key : MetricKey) : Bytes :=
  [key.family.code, key.direction.code, key.errorClass.code]

/-- The bytes of a reading, without a word on which alternative it is. -/
def MetricPayload.content : MetricPayload → Bytes
  | .counter reading =>
    encodeU64 reading.raw ++ (encodeU8 reading.width.code ++ encodeBool reading.resetDeclared)
  | .ratio ppb => encodeU64 ppb
  | .quality reading => encodeU64 reading.valuePpb ++ encodeBool reading.degradedDeclared
  | .flap reading => encodeU64 reading.events ++ encodeI64 reading.window.nanos
  | .adminState value => encodeU8 value.code
  | .operState value => encodeU8 value.code

def MetricPayload.stream (payload : MetricPayload) : Bytes := payload.index :: payload.content

/-- A call that derives an identity. -/
inductive IdentityCall
  | observation (observation : Observation)
  | evidence (observation : Observation)
  | transition (event : TransitionEvent)
  | fromName (kind : IdKind) (name : Bytes)

namespace IdentityCall

/-- The identity that the call returns. -/
def hash : IdentityCall → Hash128
  | .observation reading => (computeObservationId reading).hash
  | .evidence reading => (computeEvidenceId reading).hash
  | .transition event => (computeTransitionId event).hash
  | .fromName kind name => (StrongId.fromName name : StrongId kind).hash

/-- What the call names its identity after. -/
def tag : IdentityCall → Bytes
  | .observation _ => ascii "observation-v1"
  | .evidence _ => ascii "evidence-v1"
  | .transition _ => ascii "transition-v1"
  | .fromName kind _ => kind.name

/-- The bytes behind the tag. -/
def body : IdentityCall → Bytes
  | .observation reading =>
    encodeHash reading.provenance.source.hash ++
      (encodeHash reading.provenance.incarnation.hash ++
      (encodeHash reading.provenance.epoch.hash ++
      (encodeHash reading.provenance.generation.hash ++
      (encodeU64 reading.provenance.sequence ++
      (encodeHash reading.link.hash ++
      (reading.key.stream ++
      (reading.payload.stream ++
      (encodeI64 reading.observedAt.nanos ++ encodeI64 reading.receivedAt.nanos))))))))
  | .evidence reading =>
    encodeHash reading.link.hash ++
      (reading.key.stream ++
      (encodeHash reading.provenance.source.hash ++
      (encodeHash reading.provenance.incarnation.hash ++
      (encodeHash reading.provenance.epoch.hash ++
      encodeU64 reading.provenance.sequence))))
  | .transition event =>
    encodeHash event.link.hash ++
      (encodeU8 event.kind.code ++
      (encodeI64 event.at_.nanos ++
      (encodeHash event.generation.hash ++
      (encodeHash event.source.hash ++
      (encodeBytes event.fromText ++
      (encodeBytes event.toText ++ encodeU64 event.detail))))))
  | .fromName _ name => encodeBytes name

/-- The bytes that the call feeds to the hash. -/
def stream (call : IdentityCall) : Bytes := encodeBytes call.tag ++ call.body

/-- The strings of the call are shorter than `2 ^ 64` bytes. -/
def Short : IdentityCall → Prop
  | .observation _ => True
  | .evidence _ => True
  | .transition event => event.fromText.length < 2 ^ 64 ∧ event.toText.length < 2 ^ 64
  | .fromName _ name => name.length < 2 ^ 64

/-- Calls of one function, and for names of one kind, on fields that are equal wherever the identity
covers them. -/
def SameFields : IdentityCall → IdentityCall → Prop
  | .observation a, .observation b => { a with id := {} } = { b with id := {} }
  | .evidence a, .evidence b =>
    a.link = b.link ∧ a.key = b.key ∧ scopeOf a.provenance = scopeOf b.provenance ∧
      a.provenance.sequence = b.provenance.sequence
  | .transition a, .transition b => { a with id := {} } = { b with id := {} }
  | .fromName kind name, .fromName other name' => kind = other ∧ name = name'
  | _, _ => False

end IdentityCall

namespace HashBuilder

theorem addRaw_addRaw (builder : HashBuilder) (first second : Bytes) :
    (builder.addRaw first).addRaw second = builder.addRaw (first ++ second) := by
  rw [addRaw, addRaw, addRaw, List.foldl_append]

theorem addU8_eq (builder : HashBuilder) (value : UInt8) :
    builder.addU8 value = builder.addRaw (encodeU8 value) := rfl

theorem addBool_eq (builder : HashBuilder) (value : Bool) :
    builder.addBool value = builder.addRaw (encodeBool value) := rfl

theorem addU64_eq (builder : HashBuilder) (value : UInt64) :
    builder.addU64 value = builder.addRaw (encodeU64 value) := rfl

theorem addI64_eq (builder : HashBuilder) (value : Int64) :
    builder.addI64 value = builder.addRaw (encodeI64 value) := rfl

theorem addHash_eq (builder : HashBuilder) (value : Hash128) :
    builder.addHash value = builder.addRaw (encodeHash value) := by
  rw [addHash, addU64_eq, addU64_eq, addRaw_addRaw, encodeHash]

theorem addStr_eq (builder : HashBuilder) (text : Bytes) :
    builder.addStr text = builder.addRaw (encodeBytes text) := by
  rw [addStr, addBytes, addU64_eq, addRaw_addRaw, encodeBytes]

theorem addPayload_eq (builder : HashBuilder) (payload : MetricPayload) :
    (builder.addU8 payload.index).addPayload payload = builder.addRaw payload.stream := by
  cases payload <;>
    simp only [addPayload, addU8_eq, addBool_eq, addU64_eq, addI64_eq, addRaw_addRaw,
      MetricPayload.stream, MetricPayload.content, encodeU8, List.append_assoc,
      List.cons_append, List.nil_append]

theorem addKey_eq (builder : HashBuilder) (key : MetricKey) :
    ((builder.addU8 key.family.code).addU8 key.direction.code).addU8 key.errorClass.code =
      builder.addRaw key.stream := rfl

theorem finish_addRaw (data : Bytes) : (({} : HashBuilder).addRaw data).finish = hash128 data := rfl

end HashBuilder

/-- Every identity is the hash of the stream. -/
theorem IdentityCall.hash_eq (call : IdentityCall) : call.hash = hash128 call.stream := by
  rw [← HashBuilder.finish_addRaw]
  cases call with
  | observation observation =>
    simp only [hash, computeObservationId, StrongId.fromHash, HashBuilder.addKey_eq,
      HashBuilder.addPayload_eq, HashBuilder.addStr_eq, HashBuilder.addHash_eq,
      HashBuilder.addU64_eq, HashBuilder.addI64_eq, HashBuilder.addRaw_addRaw, stream, tag, body,
      List.append_assoc]
  | evidence observation =>
    simp only [hash, computeEvidenceId, StrongId.fromHash, HashBuilder.addKey_eq,
      HashBuilder.addStr_eq, HashBuilder.addHash_eq, HashBuilder.addU64_eq,
      HashBuilder.addRaw_addRaw, stream, tag, body, List.append_assoc]
  | transition event =>
    simp only [hash, computeTransitionId, StrongId.fromHash, HashBuilder.addStr_eq,
      HashBuilder.addHash_eq, HashBuilder.addU64_eq, HashBuilder.addI64_eq, HashBuilder.addU8_eq,
      HashBuilder.addRaw_addRaw, stream, tag, body, List.append_assoc]
  | fromName kind name =>
    simp only [hash, StrongId.fromName, HashBuilder.addStr_eq, HashBuilder.addRaw_addRaw, stream,
      tag, body]

theorem encodeU64_injective : Function.Injective encodeU64 := by
  intro a b h
  rw [encodeU64, encodeU64] at h
  have ha := ByteCodec.gather_word a
  rw [h, ByteCodec.gather_word b] at ha
  exact ha.symm

theorem encodeU64_length (value : UInt64) : (encodeU64 value).length = 8 := by
  simp [encodeU64, ByteCodec.leBytes]

theorem code_u64 : Code encodeU64 fun _ => True :=
  Code.of_length encodeU64_injective encodeU64_length

theorem code_i64 : Code encodeI64 fun _ => True := by
  apply code_u64.comap (f := Int64.toUInt64)
  intro a b h
  obtain ⟨a⟩ := a
  obtain ⟨b⟩ := b
  exact congrArg Int64.ofUInt64 h

theorem code_u8 : Code encodeU8 fun _ => True :=
  Code.of_length List.singleton_injective fun _ => List.length_singleton

theorem code_bool : Code encodeBool fun _ => True := by
  apply code_u8.comap (f := fun value : Bool => if value then 1 else 0)
  intro a b h
  cases a <;> cases b <;> first | rfl | exact absurd h (by decide)

theorem code_hash : Code encodeHash fun _ => True := by
  apply ((code_u64.pair code_u64).comap
    (f := fun value : Hash128 => (value.hi, value.lo)) ?_).mono fun _ _ => ⟨trivial, trivial⟩
  intro a b h
  obtain ⟨hhi, hlo⟩ := Prod.mk.inj h
  obtain ⟨ahi, alo⟩ := a
  obtain ⟨bhi, blo⟩ := b
  rw [Hash128.mk.injEq]
  exact ⟨hhi, hlo⟩

theorem code_bytes : Code encodeBytes fun text => text.length < 2 ^ 64 := by
  have hcount : Code encodeCount fun length => length < 2 ^ 64 := by
    intro a b x y ha hb heq
    obtain ⟨hlength, hrest⟩ := code_u64 trivial trivial heq
    have hnat := congrArg UInt64.toNat hlength
    rw [UInt64.toNat_ofNat_of_lt' ha, UInt64.toNat_ofNat_of_lt' hb] at hnat
    exact ⟨hnat, hrest⟩
  exact hcount.counted

theorem code_key : Code MetricKey.stream fun _ => True := by
  apply Code.of_length (n := 3)
  · intro a b h
    obtain ⟨hfamily, h⟩ := List.cons.inj h
    obtain ⟨hdirection, h⟩ := List.cons.inj h
    obtain ⟨herror, -⟩ := List.cons.inj h
    obtain ⟨af, ad, ae⟩ := a
    obtain ⟨bf, bd, be⟩ := b
    rw [MetricKey.mk.injEq]
    exact ⟨MetricFamily.code_inj hfamily, Direction.code_inj hdirection,
      ErrorClass.code_inj herror⟩
  · intro key
    rfl

theorem AdminStateValue.code_inj {a b : AdminStateValue} (h : a.code = b.code) : a = b := by
  cases a <;> cases b <;> first | rfl | exact absurd h (by decide)

theorem OperStateValue.code_inj {a b : OperStateValue} (h : a.code = b.code) : a = b := by
  cases a <;> cases b <;> first | rfl | exact absurd h (by decide)

theorem CounterWidth.code_inj {a b : CounterWidth} (h : a.code = b.code) : a = b := by
  cases a <;> cases b <;> first | rfl | exact absurd h (by decide)

theorem TransitionKind.code_inj {a b : TransitionKind} (h : a.code = b.code) : a = b := by
  cases a <;> cases b <;> first | rfl | exact absurd h (by decide)

theorem MetricPayload.index_toNat (payload : MetricPayload) :
    payload.index.toNat = payload.ctorIdx := by
  cases payload <;> rfl

theorem code_payload : Code MetricPayload.stream fun _ => True := by
  intro a b x y _ _ heq
  obtain ⟨hindex, heq⟩ := List.cons.inj heq
  have hcontent : a.content ++ x = b.content ++ y := heq
  have hctor : a.ctorIdx = b.ctorIdx := by
    rw [← MetricPayload.index_toNat, hindex, MetricPayload.index_toNat]
  clear heq hindex
  cases a <;> cases b
  all_goals first | cases hctor; done | skip
  case adminState.adminState a b =>
    obtain ⟨hcode, hrest⟩ := code_u8 trivial trivial hcontent
    exact ⟨congrArg _ (AdminStateValue.code_inj hcode), hrest⟩
  case operState.operState a b =>
    obtain ⟨hcode, hrest⟩ := code_u8 trivial trivial hcontent
    exact ⟨congrArg _ (OperStateValue.code_inj hcode), hrest⟩
  case counter.counter a b =>
    simp only [MetricPayload.content, List.append_assoc] at hcontent
    obtain ⟨hraw, hcontent⟩ := code_u64 trivial trivial hcontent
    obtain ⟨hwidth, hcontent⟩ := code_u8 trivial trivial hcontent
    obtain ⟨hreset, hrest⟩ := code_bool trivial trivial hcontent
    obtain ⟨araw, awidth, areset⟩ := a
    obtain ⟨braw, bwidth, breset⟩ := b
    rw [MetricPayload.counter.injEq, CounterReading.mk.injEq]
    exact ⟨⟨hraw, CounterWidth.code_inj hwidth, hreset⟩, hrest⟩
  case ratio.ratio a b =>
    obtain ⟨hppb, hrest⟩ := code_u64 trivial trivial hcontent
    exact ⟨congrArg _ hppb, hrest⟩
  case quality.quality a b =>
    simp only [MetricPayload.content, List.append_assoc] at hcontent
    obtain ⟨hvalue, hcontent⟩ := code_u64 trivial trivial hcontent
    obtain ⟨hdegraded, hrest⟩ := code_bool trivial trivial hcontent
    obtain ⟨avalue, adegraded⟩ := a
    obtain ⟨bvalue, bdegraded⟩ := b
    rw [MetricPayload.quality.injEq, QualityReading.mk.injEq]
    exact ⟨⟨hvalue, hdegraded⟩, hrest⟩
  case flap.flap a b =>
    simp only [MetricPayload.content, List.append_assoc] at hcontent
    obtain ⟨hevents, hcontent⟩ := code_u64 trivial trivial hcontent
    obtain ⟨hwindow, hrest⟩ := code_i64 trivial trivial hcontent
    obtain ⟨aevents, ⟨awindow⟩⟩ := a
    obtain ⟨bevents, ⟨bwindow⟩⟩ := b
    rw [MetricPayload.flap.injEq, FlapReading.mk.injEq, Duration.mk.injEq]
    exact ⟨⟨hevents, hwindow⟩, hrest⟩

theorem code_id : Code (fun id : StrongId kind => encodeHash id.hash) fun _ => True := by
  apply code_hash.comap (f := StrongId.hash)
  intro a b h
  obtain ⟨a⟩ := a
  obtain ⟨b⟩ := b
  exact congrArg StrongId.mk h

theorem code_time : Code (fun instant : TimePoint => encodeI64 instant.nanos) fun _ => True := by
  apply code_i64.comap (f := TimePoint.nanos)
  intro a b h
  obtain ⟨a⟩ := a
  obtain ⟨b⟩ := b
  exact congrArg TimePoint.mk h

theorem code_end {encode : α → Bytes} (h : Code encode fits) (ha : fits a) (hb : fits b)
    (heq : encode a = encode b) : a = b := by
  have hfront : encode a ++ [] = encode b ++ [] := by rw [heq]
  exact (h ha hb hfront).1

namespace IdentityCall

theorem kind_name_injective {a b : IdKind} (h : a.name = b.name) : a = b := by
  cases a <;> cases b <;> first | rfl | exact absurd h (by decide)

theorem kind_name_length (kind : IdKind) : kind.name.length < 2 ^ 64 := by
  cases kind <;> decide

theorem tag_length (call : IdentityCall) : call.tag.length < 2 ^ 64 := by
  cases call with
  | fromName kind name => exact kind_name_length kind
  | observation reading => exact (by decide : (ascii "observation-v1").length < 2 ^ 64)
  | evidence reading => exact (by decide : (ascii "evidence-v1").length < 2 ^ 64)
  | transition event => exact (by decide : (ascii "transition-v1").length < 2 ^ 64)

theorem kind_name_ne_tag (kind : IdKind) : kind.name ≠ ascii "observation-v1" ∧
    kind.name ≠ ascii "evidence-v1" ∧ kind.name ≠ ascii "transition-v1" := by
  cases kind <;> decide

theorem observation_fields {a b : Observation}
    (h : (observation a).body = (observation b).body) :
    SameFields (.observation a) (.observation b) := by
  obtain ⟨hsource, h⟩ := code_id trivial trivial h
  obtain ⟨hincarnation, h⟩ := code_id trivial trivial h
  obtain ⟨hepoch, h⟩ := code_id trivial trivial h
  obtain ⟨hgeneration, h⟩ := code_id trivial trivial h
  obtain ⟨hsequence, h⟩ := code_u64 trivial trivial h
  obtain ⟨hlink, h⟩ := code_id trivial trivial h
  obtain ⟨hkey, h⟩ := code_key trivial trivial h
  obtain ⟨hpayload, h⟩ := code_payload trivial trivial h
  obtain ⟨hobserved, h⟩ := code_time trivial trivial h
  have hreceived := code_end code_time trivial trivial h
  obtain ⟨aid, ⟨asource, aincarnation, aepoch, ageneration, asequence⟩, alink, akey, apayload,
    aobserved, areceived⟩ := a
  obtain ⟨bid, ⟨bsource, bincarnation, bepoch, bgeneration, bsequence⟩, blink, bkey, bpayload,
    bobserved, breceived⟩ := b
  simp only [SameFields, Observation.mk.injEq, Provenance.mk.injEq, true_and]
  exact ⟨⟨hsource, hincarnation, hepoch, hgeneration, hsequence⟩, hlink, hkey, hpayload, hobserved,
    hreceived⟩

theorem evidence_fields {a b : Observation} (h : (evidence a).body = (evidence b).body) :
    SameFields (.evidence a) (.evidence b) := by
  obtain ⟨hlink, h⟩ := code_id trivial trivial h
  obtain ⟨hkey, h⟩ := code_key trivial trivial h
  obtain ⟨hsource, h⟩ := code_id trivial trivial h
  obtain ⟨hincarnation, h⟩ := code_id trivial trivial h
  obtain ⟨hepoch, h⟩ := code_id trivial trivial h
  have hsequence := code_end code_u64 trivial trivial h
  have hscope : scopeOf a.provenance = scopeOf b.provenance := by
    rw [scopeOf, scopeOf, hsource, hincarnation, hepoch]
  exact ⟨hlink, hkey, hscope, hsequence⟩

theorem transition_fields {a b : TransitionEvent} (ha : (transition a).Short)
    (hb : (transition b).Short) (h : (transition a).body = (transition b).body) :
    SameFields (.transition a) (.transition b) := by
  obtain ⟨hlink, h⟩ := code_id trivial trivial h
  obtain ⟨hkind, h⟩ := code_u8 trivial trivial h
  obtain ⟨hat, h⟩ := code_time trivial trivial h
  obtain ⟨hgeneration, h⟩ := code_id trivial trivial h
  obtain ⟨hsource, h⟩ := code_id trivial trivial h
  obtain ⟨hfrom, h⟩ := code_bytes ha.1 hb.1 h
  obtain ⟨hto, h⟩ := code_bytes ha.2 hb.2 h
  have hdetail := code_end code_u64 trivial trivial h
  obtain ⟨aid, alink, akind, aat, agen, asource, afrom, ato, adetail⟩ := a
  obtain ⟨bid, blink, bkind, bat, bgen, bsource, bfrom, bto, bdetail⟩ := b
  simp only [SameFields, TransitionEvent.mk.injEq, true_and]
  exact ⟨hlink, TransitionKind.code_inj hkind, hat, hgeneration, hsource, hfrom, hto, hdetail⟩

theorem sameFields_of_stream {a b : IdentityCall} (ha : a.Short) (hb : b.Short)
    (h : a.stream = b.stream) : a.SameFields b := by
  obtain ⟨htag, hbody⟩ := code_bytes a.tag_length b.tag_length h
  cases a with
  | observation a =>
    cases b with
    | observation b => exact observation_fields hbody
    | evidence b => exact absurd htag (by decide : ascii "observation-v1" ≠ ascii "evidence-v1")
    | transition b => exact absurd htag (by decide : ascii "observation-v1" ≠ ascii "transition-v1")
    | fromName kind name => exact absurd htag.symm (kind_name_ne_tag kind).1
  | evidence a =>
    cases b with
    | observation b => exact absurd htag (by decide : ascii "evidence-v1" ≠ ascii "observation-v1")
    | evidence b => exact evidence_fields hbody
    | transition b => exact absurd htag (by decide : ascii "evidence-v1" ≠ ascii "transition-v1")
    | fromName kind name => exact absurd htag.symm (kind_name_ne_tag kind).2.1
  | transition a =>
    cases b with
    | observation b =>
      exact absurd htag (by decide : ascii "transition-v1" ≠ ascii "observation-v1")
    | evidence b => exact absurd htag (by decide : ascii "transition-v1" ≠ ascii "evidence-v1")
    | transition b => exact transition_fields ha hb hbody
    | fromName kind name => exact absurd htag.symm (kind_name_ne_tag kind).2.2
  | fromName kind name =>
    cases b with
    | observation b => exact absurd htag (kind_name_ne_tag kind).1
    | evidence b => exact absurd htag (kind_name_ne_tag kind).2.1
    | transition b => exact absurd htag (kind_name_ne_tag kind).2.2
    | fromName other name' =>
      exact ⟨kind_name_injective htag, code_end code_bytes ha hb hbody⟩

/-- Two identities are hashes of the same bytes only where they are derived in one way from the same
fields; anything else with one identity is a collision of the hash. -/
theorem streams_injective (a b : IdentityCall) (ha : a.Short) (hb : b.Short) :
    a.hash = hash128 a.stream ∧ b.hash = hash128 b.stream ∧
      (a.stream = b.stream → a.SameFields b) :=
  ⟨a.hash_eq, b.hash_eq, sameFields_of_stream ha hb⟩

/-- A link and a source of one name. -/
theorem streams_injective_name :
    (fromName .link (ascii "a")).stream ≠ (fromName .source (ascii "a")).stream := by
  intro h
  have hlink : Short (.fromName .link (ascii "a")) := by
    show (ascii "a").length < 2 ^ 64
    decide
  have hsource : Short (.fromName .source (ascii "a")) := by
    show (ascii "a").length < 2 ^ 64
    decide
  have hsame := (streams_injective _ _ hlink hsource).2.2 h
  exact absurd hsame.1 (by decide)

end IdentityCall

end LinkObservatory
