import LinkObservatory.Fields
import LinkObservatory.Reading

namespace LinkObservatory
set_option autoImplicit true

open Std Splitting FieldReader

section

variable (entries : List (Bytes × Bytes))

/-- Some field of this name has a text that denotes this value. -/
def Field (key : String) (denotes : Bytes → α → Prop) (value : α) : Prop :=
  ∃ text, (ascii key, text) ∈ entries ∧ denotes text value

/-- The value of a field that may be missing. -/
def OptionalField (key : String) (denotes : Bytes → α → Prop) (fallback value : α) : Prop :=
  Field entries key denotes value ∨ ascii key ∉ entries.map Prod.fst ∧ value = fallback

/-- There is no field under any other name. -/
def Only (keys : List String) : Prop := ∀ name ∈ entries.map Prod.fst, name ∈ keys.map ascii

/-- A token denotes itself. -/
def Token (text value : Bytes) : Prop := text = value ∧ isToken value = true

def Digits (text : Bytes) (value : UInt64) : Prop := Decimal text value.toNat

def Truth (text : Bytes) (value : Bool) : Prop := text = boolText value

/-- The one spelling of an enumerated value. -/
def Spelling (toString : α → Bytes) (text : Bytes) (value : α) : Prop := text = toString value

/-- An administrative state has synonyms. -/
inductive AdminSpelling : Bytes → AdminStateValue → Prop
  | plain (value : AdminStateValue) : AdminSpelling value.toString value
  | up : AdminSpelling (ascii "up") .enabled
  | down : AdminSpelling (ascii "down") .disabled

def KeySpelling (text : Bytes) (key : MetricKey) : Prop :=
  text.length ≤ 64 ∧ MetricKey.Spelled text key

/-- The names of the fields of each kind of record, the required ones first. -/
def sourceKeys : List String := ["v", "kind", "name", "authority", "provenance", "retired"]

def linkKeys : List String :=
  ["v", "kind", "name", "link-kind", "linkgen", "provenance", "capacity-in-bps",
    "capacity-out-bps", "local-endpoint", "remote-endpoint", "local-port", "remote-port"]

/-- The names of the value fields of a family. -/
def valueKeys : MetricFamily → List String
  | .adminState | .operState => ["value"]
  | .octets | .errors | .discards => ["counter", "width", "reset"]
  | .utilReported => ["ppb"]
  | .signalQuality => ["ppb", "degraded"]
  | .flapReport => ["events", "window-ns"]

def observationKeys (family : MetricFamily) : List String :=
  ["v", "kind", "link", "source", "incarnation", "epoch", "generation", "revision", "observed-at",
    "received-at", "metric"] ++ valueKeys family

structure SourceGrammar (declaration : SourceDecl) : Prop where
  only : Only entries sourceKeys
  name : Field entries "name" Token declaration.name
  authority : Field entries "authority" (Spelling SourceAuthority.toString) declaration.authority
  provenance : Field entries "provenance" (Spelling ProvenanceClass.toString)
    declaration.provenance
  declared : declaration.provenance ≠ .unknown
  retired : OptionalField entries "retired" Truth false declaration.retired

structure LinkGrammar (declaration : LinkDecl) : Prop where
  only : Only entries linkKeys
  name : Field entries "name" Token declaration.name
  kind : Field entries "link-kind" (Spelling LinkKind.toString) declaration.kind
  generation : Field entries "linkgen" Token declaration.generation
  provenance : Field entries "provenance" (Spelling ProvenanceClass.toString)
    declaration.provenance
  capacityIn : OptionalField entries "capacity-in-bps" Digits 0 declaration.capacityInBps
  capacityOut : OptionalField entries "capacity-out-bps" Digits 0 declaration.capacityOutBps
  known : declaration.capacityKnown =
    (decide (declaration.capacityInBps > 0) || decide (declaration.capacityOutBps > 0))
  localEndpoint : OptionalField entries "local-endpoint" Token [] declaration.localEndpoint
  remoteEndpoint : OptionalField entries "remote-endpoint" Token [] declaration.remoteEndpoint
  localPort : OptionalField entries "local-port" Token [] declaration.localPort
  remotePort : OptionalField entries "remote-port" Token [] declaration.remotePort

/-- The value fields of a family denote a payload. -/
inductive ValueFields : MetricFamily → MetricPayload → Prop
  | adminState (value : AdminStateValue) (h : Field entries "value" AdminSpelling value) :
      ValueFields .adminState (.adminState value)
  | operState (value : OperStateValue)
      (h : Field entries "value" (Spelling OperStateValue.toString) value) :
      ValueFields .operState (.operState value)
  | counter (family : MetricFamily) (reading : CounterReading)
      (hfamily : family = .octets ∨ family = .errors ∨ family = .discards)
      (hraw : Field entries "counter" Digits reading.raw)
      (hwidth : Field entries "width" (Spelling CounterWidth.toString) reading.width)
      (hreset : OptionalField entries "reset" Truth false reading.resetDeclared) :
      ValueFields family (.counter reading)
  | ratio (ppb : UInt64) (h : Field entries "ppb" Digits ppb) :
      ValueFields .utilReported (.ratio ppb)
  | quality (reading : QualityReading) (hvalue : Field entries "ppb" Digits reading.valuePpb)
      (hdegraded : OptionalField entries "degraded" Truth false reading.degradedDeclared) :
      ValueFields .signalQuality (.quality reading)
  | flap (reading : FlapReading) (hevents : Field entries "events" Digits reading.events)
      (hwindow : Field entries "window-ns" SignedDecimal reading.window.nanos) :
      ValueFields .flapReport (.flap reading)

structure ObservationGrammar (policy : Policy) (declaration : ObservationDecl) : Prop where
  only : Only entries (observationKeys declaration.key.family)
  link : Field entries "link" Token declaration.link
  source : Field entries "source" Token declaration.source
  incarnation : Field entries "incarnation" Token declaration.incarnation
  epoch : Field entries "epoch" Token declaration.epoch
  generation : Field entries "generation" Token declaration.generation
  revision : Field entries "revision" Digits declaration.revision
  observedAt : Field entries "observed-at" SignedDecimal declaration.observedAt
  receivedAt : Field entries "received-at" SignedDecimal declaration.receivedAt
  metric : Field entries "metric" KeySpelling declaration.key
  values : ValueFields entries declaration.key.family declaration.payload
  valid : (validateReading declaration.key declaration.payload policy).ok = true

/-- The fields of a record of one of the three kinds. -/
inductive RecordGrammar (policy : Policy) : ParsedRecord → Prop
  | source (declaration : SourceDecl) (hkind : (ascii "kind", ascii "source") ∈ entries)
      (h : SourceGrammar entries declaration) : RecordGrammar policy (.source declaration)
  | link (declaration : LinkDecl) (hkind : (ascii "kind", ascii "link") ∈ entries)
      (h : LinkGrammar entries declaration) : RecordGrammar policy (.link declaration)
  | observation (declaration : ObservationDecl)
      (hkind : (ascii "kind", ascii "observation") ∈ entries)
      (h : ObservationGrammar entries policy declaration) :
      RecordGrammar policy (.observation declaration)

/-- A line within its bound, cut into fields. -/
@[mk_iff]
structure Line (policy : Policy) (line : Bytes) : Prop where
  nonempty : trimAscii line ≠ []
  noComment : (trimAscii line).head? ≠ some numberSign
  bounded : (trimAscii line).length ≤ policy.limits.maxRecordBytes.toNat
  cut : words space (trimAscii line) = entries.map joined
  fields : FieldList entries

instance (policy : Policy) (line : Bytes) : Decidable (Line entries policy line) :=
  decidable_of_iff' _ (line_iff entries policy line)

end

theorem Field.mono {entries entries' : List (Bytes × Bytes)} {key : String}
    {denotes : Bytes → α → Prop} {value : α} (h : Field entries key denotes value)
    (hsub : entries ⊆ entries') : Field entries' key denotes value := by
  obtain ⟨text, hmem, hdenotes⟩ := h
  exact ⟨text, hsub hmem, hdenotes⟩

theorem Field.perm {entries entries' : List (Bytes × Bytes)} {key : String}
    {denotes : Bytes → α → Prop} {value : α} (h : Field entries key denotes value)
    (hperm : entries.Perm entries') : Field entries' key denotes value :=
  h.mono hperm.subset

theorem OptionalField.perm {entries entries' : List (Bytes × Bytes)} {key : String}
    {denotes : Bytes → α → Prop} {fallback value : α}
    (h : OptionalField entries key denotes fallback value) (hperm : entries.Perm entries') :
    OptionalField entries' key denotes fallback value := by
  rcases h with h | ⟨hno, hfallback⟩
  · exact .inl (h.perm hperm)
  · refine .inr ⟨?_, hfallback⟩
    rwa [← (hperm.map Prod.fst).mem_iff]

theorem ValueFields.perm {entries entries' : List (Bytes × Bytes)} {family : MetricFamily}
    {payload : MetricPayload} (h : ValueFields entries family payload)
    (hperm : entries.Perm entries') : ValueFields entries' family payload := by
  cases h with
  | adminState value h => exact .adminState value (h.perm hperm)
  | operState value h => exact .operState value (h.perm hperm)
  | counter _ reading hfamily hraw hwidth hreset =>
    exact .counter family reading hfamily (hraw.perm hperm) (hwidth.perm hperm)
      (hreset.perm hperm)
  | ratio ppb h => exact .ratio ppb (h.perm hperm)
  | quality reading hvalue hdegraded =>
    exact .quality reading (hvalue.perm hperm) (hdegraded.perm hperm)
  | flap reading hevents hwindow => exact .flap reading (hevents.perm hperm) (hwindow.perm hperm)

/-- The order of the fields does not matter to the grammar. -/
theorem ObservationGrammar.perm {entries entries' : List (Bytes × Bytes)} {policy : Policy}
    {declaration : ObservationDecl} (h : ObservationGrammar entries policy declaration)
    (hperm : entries.Perm entries') : ObservationGrammar entries' policy declaration where
  only name hmem := h.only name ((hperm.map Prod.fst).mem_iff.2 hmem)
  link := h.link.perm hperm
  source := h.source.perm hperm
  incarnation := h.incarnation.perm hperm
  epoch := h.epoch.perm hperm
  generation := h.generation.perm hperm
  revision := h.revision.perm hperm
  observedAt := h.observedAt.perm hperm
  receivedAt := h.receivedAt.perm hperm
  metric := h.metric.perm hperm
  values := h.values.perm hperm
  valid := h.valid

/-- The documented grammar of a record. -/
def Accepts (policy : Policy) (line : Bytes) (record : ParsedRecord) : Prop :=
  ∃ entries, Line entries policy line ∧ Field entries "v" Digits 1 ∧
    RecordGrammar entries policy record

section

variable {fields : FieldMap} {entries : List (Bytes × Bytes)}

theorem readToken_eq_some_iff (text value : Bytes) :
    readToken text = some value ↔ Token text value := by
  unfold readToken Token
  constructor
  · intro h
    split at h
    · cases h
      rename_i htoken
      exact ⟨rfl, htoken⟩
    · cases h
  · rintro ⟨rfl, htoken⟩
    exact if_pos htoken

theorem readBool_eq_some_iff (text : Bytes) (value : Bool) :
    readBool text = some value ↔ Truth text value := by
  unfold readBool Truth
  constructor
  · intro h
    split at h
    · cases h
      assumption
    split at h
    · cases h
      assumption
    · cases h
  · rintro rfl
    cases value <;> decide

theorem FieldMap.Holds.gives_iff (key : String) {read : Bytes → Option α}
    {denotes : Bytes → α → Prop} (hholds : fields.Holds entries)
    (hread : ∀ text value, read text = some value ↔ denotes text value) (value : α) :
    fields.Gives key read value ↔ Field entries key denotes value := by
  unfold FieldMap.Gives Field
  simp only [hholds _ _, hread]

theorem FieldMap.Holds.mayGive_iff (key : String) {read : Bytes → Option α}
    {denotes : Bytes → α → Prop} (hholds : fields.Holds entries)
    (hread : ∀ text value, read text = some value ↔ denotes text value) (fallback value : α) :
    fields.MayGive key read fallback value ↔ OptionalField entries key denotes fallback value := by
  unfold FieldMap.MayGive OptionalField
  rw [hholds.gives_iff key hread, hholds.name_mem_iff, not_not]

theorem FieldMap.Holds.spelled_iff (key : String) {parse : Bytes → Option α}
    {denotes : Bytes → α → Prop} (hholds : fields.Holds entries)
    (hparse : ∀ text value, parse text = some value ↔ denotes text value)
    (htoken : ∀ text value, denotes text value → isToken text = true) (value : α) :
    (∃ text, fields.Gives key readToken text ∧ parse text = some value) ↔
      Field entries key denotes value := by
  simp only [hholds.gives_iff _ readToken_eq_some_iff, hparse]
  constructor
  · rintro ⟨text, ⟨_, hmem, rfl, -⟩, hdenotes⟩
    exact ⟨_, hmem, hdenotes⟩
  · rintro ⟨text, hmem, hdenotes⟩
    exact ⟨text, ⟨text, hmem, rfl, htoken text value hdenotes⟩, hdenotes⟩

theorem boolText_token (text : Bytes) (value : Bool) (h : Truth text value) :
    isToken text = true := by
  rw [h]
  cases value <;> decide

theorem authority_token (text : Bytes) (value : SourceAuthority)
    (h : Spelling SourceAuthority.toString text value) : isToken text = true := by
  rw [h]
  cases value <;> decide

theorem provenance_token (text : Bytes) (value : ProvenanceClass)
    (h : Spelling ProvenanceClass.toString text value) : isToken text = true := by
  rw [h]
  cases value <;> decide

theorem linkKind_token (text : Bytes) (value : LinkKind)
    (h : Spelling LinkKind.toString text value) : isToken text = true := by
  rw [h]
  cases value <;> decide

theorem counterWidth_token (text : Bytes) (value : CounterWidth)
    (h : Spelling CounterWidth.toString text value) : isToken text = true := by
  rw [h]
  cases value <;> decide

theorem operState_token (text : Bytes) (value : OperStateValue)
    (h : Spelling OperStateValue.toString text value) : isToken text = true := by
  rw [h]
  cases value <;> decide

theorem adminState_token (text : Bytes) (value : AdminStateValue) (h : AdminSpelling text value) :
    isToken text = true := by
  cases h with
  | plain => cases value <;> decide
  | up => decide
  | down => decide

theorem parseCounterWidth_eq_some_iff (text : Bytes) (value : CounterWidth) :
    parseCounterWidth text = some value ↔ Spelling CounterWidth.toString text value := by
  constructor
  · intro h
    unfold parseCounterWidth at h
    split at h
    · cases h
      assumption
    split at h
    · cases h
      assumption
    · cases h
  · intro h
    rw [h]
    exact parseCounterWidth_toString value

theorem parseOperState_eq_some_iff (text : Bytes) (value : OperStateValue) :
    parseOperState text = some value ↔ Spelling OperStateValue.toString text value := by
  constructor
  · intro h
    unfold parseOperState at h
    split at h
    · cases h
      assumption
    split at h
    · cases h
      assumption
    split at h
    · cases h
      assumption
    split at h
    · cases h
      assumption
    · cases h
  · intro h
    rw [h]
    exact parseOperState_toString value

theorem parseAdminState_eq_some_iff (text : Bytes) (value : AdminStateValue) :
    parseAdminState text = some value ↔ AdminSpelling text value := by
  constructor
  · intro h
    unfold parseAdminState at h
    split at h
    · rename_i htext
      cases h
      rw [htext]
      exact .plain .unknown
    split at h
    · rename_i htext
      cases h
      rcases htext with rfl | rfl
      · exact .plain .enabled
      · exact .up
    split at h
    · rename_i htext
      cases h
      rcases htext with rfl | rfl
      · exact .plain .disabled
      · exact .down
    · cases h
  · intro h
    cases h with
    | plain => exact parseAdminState_toString value
    | up => decide
    | down => decide

theorem FieldMap.Holds.only_iff (hholds : fields.Holds entries) (keys : List String) :
    (∀ name value, fields[name]? = some value →
      name ∈ (keys.foldl FieldReader.ignore { fields }).used) ↔ Only entries keys := by
  unfold Only
  constructor
  · intro h name hmem
    rw [hholds.name_mem_iff, Option.ne_none_iff_exists'] at hmem
    obtain ⟨value, hfound⟩ := hmem
    have hthere : (fields[name]?).isSome = true := by rw [hfound]; rfl
    have hused := (mem_used_ignores { fields } keys hthere).1 (h name value hfound)
    simpa using hused
  · intro h name value hfound
    have hthere : (fields[name]?).isSome = true := by rw [hfound]; rfl
    refine (mem_used_ignores { fields } keys hthere).2 (.inl (h name ?_))
    rw [hholds.name_mem_iff, hfound]
    exact Option.some_ne_none value

theorem refused_eq_some_iff (p : Prop) [Decidable p] (done : Unit) :
    (if p then none else some ()) = some done ↔ ¬p := by
  by_cases h : p <;> simp [h]

theorem granted_eq_some_iff (p : Prop) [Decidable p] (done : Unit) :
    (if p then some () else none) = some done ↔ p := by
  by_cases h : p <;> simp [h]

theorem parseSourceRecord_ok_iff (hholds : fields.Holds entries) (record : ParsedRecord) :
    (∃ after, parseSourceRecord.run (["v", "kind"].foldl FieldReader.ignore { fields }) =
      .ok (record, after)) ↔
      ∃ declaration, SourceGrammar entries declaration ∧ .source declaration = record := by
  have honly := hholds.only_iff sourceKeys
  have hauthority := hholds.spelled_iff "authority" parseSourceAuthority_eq_some_iff
    authority_token
  have hprovenance := hholds.spelled_iff "provenance" parseProvenanceClass_eq_some_iff
    provenance_token
  unfold parseSourceRecord
  unfold sourceKeys at honly
  simp only [bind_ok_iff, requiredToken, optionalBool, required_ok_iff,
    optional_ok_iff (required_ok_iff ..), accept_ok_iff, ensureAllUsed_ok_iff, pure_ok_iff,
    refused_eq_some_iff, ignore_fields, exists_and_left, exists_eq_left', and_assoc, exists_const,
    List.foldl_cons, List.foldl_nil] at honly ⊢
  constructor
  · rintro ⟨after, name, hname, authorityText, hauthorityText, authority, hauthorityParsed,
      provenanceText, hprovenanceText, provenance, hprovenanceParsed, hdeclared, retired, hretired,
      hused, rfl, -⟩
    refine ⟨_, ?_, rfl⟩
    exact {
      only := honly.1 hused
      name := (hholds.gives_iff _ readToken_eq_some_iff _).1 hname
      authority := (hauthority _).1 ⟨authorityText, hauthorityText, hauthorityParsed⟩
      provenance := (hprovenance _).1 ⟨provenanceText, hprovenanceText, hprovenanceParsed⟩
      declared := hdeclared
      retired := (hholds.mayGive_iff _ readBool_eq_some_iff _ _).1 hretired }
  · rintro ⟨declaration, h, rfl⟩
    obtain ⟨authorityText, hauthorityText, hauthorityParsed⟩ := (hauthority _).2 h.authority
    obtain ⟨provenanceText, hprovenanceText, hprovenanceParsed⟩ := (hprovenance _).2 h.provenance
    exact ⟨_, _, (hholds.gives_iff _ readToken_eq_some_iff _).2 h.name, _, hauthorityText, _,
      hauthorityParsed, _, hprovenanceText, _, hprovenanceParsed, h.declared, _,
      (hholds.mayGive_iff _ readBool_eq_some_iff _ _).2 h.retired, honly.2 h.only, rfl, rfl⟩

theorem parseLinkRecord_ok_iff (hholds : fields.Holds entries) (record : ParsedRecord) :
    (∃ after, parseLinkRecord.run (["v", "kind"].foldl FieldReader.ignore { fields }) =
      .ok (record, after)) ↔
      ∃ declaration, LinkGrammar entries declaration ∧ .link declaration = record := by
  have honly := hholds.only_iff linkKeys
  have hkind := hholds.spelled_iff "link-kind" parseLinkKind_eq_some_iff linkKind_token
  have hprovenance := hholds.spelled_iff "provenance" parseProvenanceClass_eq_some_iff
    provenance_token
  unfold parseLinkRecord
  unfold linkKeys at honly
  simp only [bind_ok_iff, requiredToken, optionalU64, requiredU64, required_ok_iff,
    optional_ok_iff (required_ok_iff ..), accept_ok_iff, ensureAllUsed_ok_iff, pure_ok_iff,
    ignore_fields, exists_and_left, exists_eq_left', and_assoc, exists_const,
    List.foldl_cons, List.foldl_nil] at honly ⊢
  have htoken (key : String) := hholds.gives_iff key readToken_eq_some_iff
  have hdigits (key : String) := hholds.mayGive_iff key parseU64Dec_eq_some_iff
  have hoptional (key : String) := hholds.mayGive_iff key readToken_eq_some_iff
  constructor
  · rintro ⟨after, name, hname, kindText, hkindText, kind, hkindParsed, generation, hgeneration,
      provenanceText, hprovenanceText, provenance, hprovenanceParsed, capacityIn, hcapacityIn,
      capacityOut, hcapacityOut, localEndpoint, hlocalEndpoint, remoteEndpoint, hremoteEndpoint,
      localPort, hlocalPort, remotePort, hremotePort, hused, rfl, -⟩
    refine ⟨_, ?_, rfl⟩
    exact {
      only := honly.1 hused
      name := (htoken _ _).1 hname
      kind := (hkind _).1 ⟨kindText, hkindText, hkindParsed⟩
      generation := (htoken _ _).1 hgeneration
      provenance := (hprovenance _).1 ⟨provenanceText, hprovenanceText, hprovenanceParsed⟩
      capacityIn := (hdigits _ _ _).1 hcapacityIn
      capacityOut := (hdigits _ _ _).1 hcapacityOut
      known := rfl
      localEndpoint := (hoptional _ _ _).1 hlocalEndpoint
      remoteEndpoint := (hoptional _ _ _).1 hremoteEndpoint
      localPort := (hoptional _ _ _).1 hlocalPort
      remotePort := (hoptional _ _ _).1 hremotePort }
  · rintro ⟨declaration, h, rfl⟩
    obtain ⟨kindText, hkindText, hkindParsed⟩ := (hkind _).2 h.kind
    obtain ⟨provenanceText, hprovenanceText, hprovenanceParsed⟩ := (hprovenance _).2 h.provenance
    refine ⟨_, _, (htoken _ _).2 h.name, _, hkindText, _, hkindParsed, _,
      (htoken _ _).2 h.generation, _, hprovenanceText, _, hprovenanceParsed, _,
      (hdigits _ _ _).2 h.capacityIn, _, (hdigits _ _ _).2 h.capacityOut, _,
      (hoptional _ _ _).2 h.localEndpoint, _, (hoptional _ _ _).2 h.remoteEndpoint, _,
      (hoptional _ _ _).2 h.localPort, _, (hoptional _ _ _).2 h.remotePort, honly.2 h.only, ?_, rfl⟩
    rw [← h.known]

theorem parsePayload_ok_iff (hholds : fields.Holds entries) (family : MetricFamily)
    (payload : MetricPayload) {reader reader' : FieldReader} (hfields : reader.fields = fields) :
    (parsePayload family).run reader = .ok (payload, reader') ↔
      ValueFields entries family payload ∧
        (valueKeys family).foldl FieldReader.ignore reader = reader' := by
  have hadmin := hholds.spelled_iff "value" parseAdminState_eq_some_iff adminState_token
  have hoper := hholds.spelled_iff "value" parseOperState_eq_some_iff operState_token
  have hwidth := hholds.spelled_iff "width" parseCounterWidth_eq_some_iff
    counterWidth_token
  have hdigits (key : String) := hholds.gives_iff key parseU64Dec_eq_some_iff
  have hsigned (key : String) := hholds.gives_iff key parseI64Dec_eq_some_iff
  have htruth (key : String) := hholds.mayGive_iff key readBool_eq_some_iff
  have hcounter (hfamily : family = .octets ∨ family = .errors ∨ family = .discards) :
      (parsePayload family).run reader = .ok (payload, reader') ↔
        ValueFields entries family payload ∧
          (valueKeys family).foldl FieldReader.ignore reader = reader' := by
    have hrun : parsePayload family = parsePayload .octets := by
      rcases hfamily with rfl | rfl | rfl <;> rfl
    have hkeys : valueKeys family = ["counter", "width", "reset"] := by
      rcases hfamily with rfl | rfl | rfl <;> rfl
    rw [hrun, hkeys]
    unfold parsePayload
    simp only [bind_ok_iff, requiredToken, requiredU64, optionalBool, required_ok_iff,
      optional_ok_iff (required_ok_iff ..), accept_ok_iff, pure_ok_iff, hfields, ignore_fields,
      exists_and_left, exists_eq_left', and_assoc]
    constructor
    · rintro ⟨raw, hraw, text, htext, width, hparsed, reset, hreset, rfl, rfl⟩
      refine ⟨.counter family ⟨raw, width, reset⟩ hfamily ((hdigits _ _).1 hraw)
        ((hwidth _).1 ⟨text, htext, hparsed⟩) ((htruth _ _ _).1 hreset), rfl⟩
    · rintro ⟨h, rfl⟩
      cases h with
      | counter _ reading _ hraw hwidthField hreset =>
        obtain ⟨text, htext, hparsed⟩ := (hwidth _).2 hwidthField
        exact ⟨_, (hdigits _ _).2 hraw, text, htext, _, hparsed, _, (htruth _ _ _).2 hreset, rfl,
          rfl⟩
      | _ => simp at hfamily
  cases family with
  | adminState =>
    unfold parsePayload
    simp only [bind_ok_iff, requiredToken, required_ok_iff, accept_ok_iff, pure_ok_iff, hfields,
      exists_and_left, exists_eq_left', and_assoc]
    constructor
    · rintro ⟨text, htext, value, hparsed, rfl, rfl⟩
      exact ⟨.adminState value ((hadmin value).1 ⟨text, htext, hparsed⟩), rfl⟩
    · rintro ⟨h, rfl⟩
      cases h with
      | adminState value h =>
        obtain ⟨text, htext, hparsed⟩ := (hadmin value).2 h
        exact ⟨text, htext, value, hparsed, rfl, rfl⟩
      | counter _ reading hfamily => simp at hfamily
  | operState =>
    unfold parsePayload
    simp only [bind_ok_iff, requiredToken, required_ok_iff, accept_ok_iff, pure_ok_iff, hfields,
      exists_and_left, exists_eq_left', and_assoc]
    constructor
    · rintro ⟨text, htext, value, hparsed, rfl, rfl⟩
      exact ⟨.operState value ((hoper value).1 ⟨text, htext, hparsed⟩), rfl⟩
    · rintro ⟨h, rfl⟩
      cases h with
      | operState value h =>
        obtain ⟨text, htext, hparsed⟩ := (hoper value).2 h
        exact ⟨text, htext, value, hparsed, rfl, rfl⟩
      | counter _ reading hfamily => simp at hfamily
  | octets => exact hcounter (.inl rfl)
  | errors => exact hcounter (.inr (.inl rfl))
  | discards => exact hcounter (.inr (.inr rfl))
  | utilReported =>
    unfold parsePayload
    simp only [bind_ok_iff, requiredU64, required_ok_iff, pure_ok_iff, hfields,
      exists_and_left, exists_eq_left', and_assoc]
    constructor
    · rintro ⟨ppb, hppb, rfl, rfl⟩
      exact ⟨.ratio ppb ((hdigits _ _).1 hppb), rfl⟩
    · rintro ⟨h, rfl⟩
      cases h with
      | ratio ppb h => exact ⟨ppb, (hdigits _ _).2 h, rfl, rfl⟩
      | counter _ reading hfamily => simp at hfamily
  | signalQuality =>
    unfold parsePayload
    simp only [bind_ok_iff, requiredU64, optionalBool, required_ok_iff,
      optional_ok_iff (required_ok_iff ..), pure_ok_iff, hfields, ignore_fields,
      exists_and_left, exists_eq_left', and_assoc]
    constructor
    · rintro ⟨ppb, hppb, degraded, hdegraded, rfl, rfl⟩
      exact ⟨.quality ⟨ppb, degraded⟩ ((hdigits _ _).1 hppb) ((htruth _ _ _).1 hdegraded), rfl⟩
    · rintro ⟨h, rfl⟩
      cases h with
      | quality reading hvalue hdegraded =>
        exact ⟨_, (hdigits _ _).2 hvalue, _, (htruth _ _ _).2 hdegraded, rfl, rfl⟩
      | counter _ reading hfamily => simp at hfamily
  | flapReport =>
    unfold parsePayload
    simp only [bind_ok_iff, requiredU64, requiredI64, required_ok_iff, pure_ok_iff, hfields,
      ignore_fields, exists_and_left, exists_eq_left', and_assoc]
    constructor
    · rintro ⟨events, hevents, window, hwindow, rfl, rfl⟩
      exact ⟨.flap ⟨events, ⟨window⟩⟩ ((hdigits _ _).1 hevents) ((hsigned _ _).1 hwindow), rfl⟩
    · rintro ⟨h, rfl⟩
      cases h with
      | flap reading hevents hwindow =>
        exact ⟨_, (hdigits _ _).2 hevents, _, (hsigned _ _).2 hwindow, rfl, rfl⟩
      | counter _ reading hfamily => simp at hfamily

theorem MetricKey.Spelled.nonempty {text : Bytes} {key : MetricKey} (h : MetricKey.Spelled text key) :
    text ≠ [] := by
  cases h with
  | family family => exact family.toString_plain.1
  | direction => simp
  | errorClass => simp

theorem FieldMap.Holds.metric_iff (hholds : fields.Holds entries) (key : MetricKey) :
    (∃ text, fields.Gives "metric" (readText 64) text ∧ MetricKey.parse text = .ok key) ↔
      Field entries "metric" KeySpelling key := by
  have hread (text value : Bytes) :
      readText 64 text = some value ↔ text = value ∧ value ≠ [] ∧ value.length ≤ 64 := by
    unfold readText
    constructor
    · intro h
      split at h
      · cases h
      rename_i hgood
      rw [not_or, Nat.not_lt] at hgood
      cases h
      exact ⟨rfl, hgood⟩
    · rintro ⟨rfl, hgood⟩
      rw [if_neg]
      rw [not_or, Nat.not_lt]
      exact hgood
  simp only [hholds.gives_iff _ hread, MetricKey.parse_ok_iff]
  constructor
  · rintro ⟨text, ⟨_, hmem, rfl, -, hshort⟩, hspelled⟩
    exact ⟨_, hmem, hshort, hspelled⟩
  · rintro ⟨text, hmem, hshort, hspelled⟩
    exact ⟨text, ⟨text, hmem, rfl, hspelled.nonempty, hshort⟩, hspelled⟩

theorem parseObservationRecord_ok_iff (hholds : fields.Holds entries) (policy : Policy)
    (record : ParsedRecord) :
    (∃ after, (parseObservationRecord policy).run
        (["v", "kind"].foldl FieldReader.ignore { fields }) = .ok (record, after)) ↔
      ∃ declaration, ObservationGrammar entries policy declaration ∧
        .observation declaration = record := by
  have honly (family : MetricFamily) := hholds.only_iff (observationKeys family)
  have htoken (key : String) := hholds.gives_iff key readToken_eq_some_iff
  have hdigits (key : String) := hholds.gives_iff key parseU64Dec_eq_some_iff
  have hsigned (key : String) := hholds.gives_iff key parseI64Dec_eq_some_iff
  unfold parseObservationRecord
  unfold observationKeys at honly
  simp only [bind_ok_iff, requiredToken, requiredText, requiredU64, requiredI64, required_ok_iff,
    accept_ok_iff, lift_ok_iff, ensureAllUsed_ok_iff, pure_ok_iff, granted_eq_some_iff,
    ignore_fields, exists_and_left, exists_eq_left', and_assoc, exists_const, List.foldl_append,
    List.foldl_cons, List.foldl_nil, List.cons_append] at honly ⊢
  constructor
  · rintro ⟨_, link, hlink, source, hsource, incarnation, hincarnation, epoch, hepoch, generation,
      hgeneration, revision, hrevision, observedAt, hobservedAt, receivedAt, hreceivedAt, metric,
      hmetric, key, hkey, payload, after, hpayload, hvalid, hused, rfl, -⟩
    obtain ⟨hvalues, rfl⟩ :=
      (parsePayload_ok_iff hholds key.family payload (by simp only [ignore_fields])).1 hpayload
    simp only [ignores_fields, ignore_fields] at hused
    refine ⟨_, ?_, rfl⟩
    exact {
      only := (honly key.family).1 hused
      link := (htoken _ _).1 hlink
      source := (htoken _ _).1 hsource
      incarnation := (htoken _ _).1 hincarnation
      epoch := (htoken _ _).1 hepoch
      generation := (htoken _ _).1 hgeneration
      revision := (hdigits _ _).1 hrevision
      observedAt := (hsigned _ _).1 hobservedAt
      receivedAt := (hsigned _ _).1 hreceivedAt
      metric := (hholds.metric_iff key).1 ⟨metric, hmetric, hkey⟩
      values := hvalues
      valid := hvalid }
  · rintro ⟨declaration, h, rfl⟩
    obtain ⟨metric, hmetric, hkey⟩ := (hholds.metric_iff _).2 h.metric
    have hpayload (reader : FieldReader) (hfields : reader.fields = fields) :=
      (parsePayload_ok_iff hholds declaration.key.family declaration.payload hfields).2
        ⟨h.values, rfl⟩
    refine ⟨_, _, (htoken _ _).2 h.link, _, (htoken _ _).2 h.source, _,
      (htoken _ _).2 h.incarnation, _, (htoken _ _).2 h.epoch, _, (htoken _ _).2 h.generation, _,
      (hdigits _ _).2 h.revision, _, (hsigned _ _).2 h.observedAt, _,
      (hsigned _ _).2 h.receivedAt, _, hmetric, _, hkey, _, _,
      hpayload _ (by simp only [ignore_fields]), h.valid, ?_, rfl, rfl⟩
    simp only [ignores_fields, ignore_fields]
    exact (honly _).2 h.only

theorem parseRecordFields_ok_iff (hholds : fields.Holds entries) (policy : Policy)
    (record : ParsedRecord) :
    (∃ after, (parseRecordFields policy).run { fields } = .ok (record, after)) ↔
      Field entries "v" Digits 1 ∧ RecordGrammar entries policy record := by
  have hversion := hholds.gives_iff "v" parseU64Dec_eq_some_iff 1
  have hkind := hholds.gives_iff "kind" readToken_eq_some_iff
  have hkindOf {kind : String} (h : Field entries "kind" Token (ascii kind)) :
      (ascii "kind", ascii kind) ∈ entries := by
    obtain ⟨_, hmem, rfl, -⟩ := h
    exact hmem
  unfold parseRecordFields
  simp only [bind_ok_iff, requiredToken, requiredU64, required_ok_iff, accept_ok_iff,
    granted_eq_some_iff, ignore_fields, exists_and_left, exists_eq_left', and_assoc, exists_const]
  constructor
  · rintro ⟨after, version, hversionField, rfl, kind, hkindField, hrest⟩
    refine ⟨hversion.1 hversionField, ?_⟩
    have hfield := (hkind kind).1 hkindField
    split at hrest
    · rename_i heq
      subst heq
      obtain ⟨declaration, h, rfl⟩ := (parseSourceRecord_ok_iff hholds record).1 ⟨after, hrest⟩
      exact .source declaration (hkindOf hfield) h
    split at hrest
    · rename_i heq
      subst heq
      obtain ⟨declaration, h, rfl⟩ := (parseLinkRecord_ok_iff hholds record).1 ⟨after, hrest⟩
      exact .link declaration (hkindOf hfield) h
    split at hrest
    · rename_i heq
      subst heq
      obtain ⟨declaration, h, rfl⟩ :=
        (parseObservationRecord_ok_iff hholds policy record).1 ⟨after, hrest⟩
      exact .observation declaration (hkindOf hfield) h
    · have hnone := (accept_ok_iff _ _ _).1 hrest
      cases hnone.1
  · rintro ⟨hversionField, h⟩
    have hgive {kind : String} (hmem : (ascii "kind", ascii kind) ∈ entries)
        (htoken : isToken (ascii kind) = true) : fields.Gives "kind" readToken (ascii kind) :=
      (hkind _).2 ⟨ascii kind, hmem, rfl, htoken⟩
    cases h with
    | source declaration hmem h =>
      obtain ⟨after, hrun⟩ := (parseSourceRecord_ok_iff hholds _).2 ⟨declaration, h, rfl⟩
      exact ⟨after, _, hversion.2 hversionField, rfl, _, hgive hmem (by decide), hrun⟩
    | link declaration hmem h =>
      obtain ⟨after, hrun⟩ := (parseLinkRecord_ok_iff hholds _).2 ⟨declaration, h, rfl⟩
      exact ⟨after, _, hversion.2 hversionField, rfl, _, hgive hmem (by decide), hrun⟩
    | observation declaration hmem h =>
      obtain ⟨after, hrun⟩ :=
        (parseObservationRecord_ok_iff hholds policy _).2 ⟨declaration, h, rfl⟩
      exact ⟨after, _, hversion.2 hversionField, rfl, _, hgive hmem (by decide), hrun⟩

end

/-- The bounds of a line. -/
def InBounds (policy : Policy) (line : Bytes) : Prop :=
  ¬(trimAscii line = [] ∨ (trimAscii line).head? = some numberSign) ∧
    ¬(trimAscii line).length > policy.limits.maxRecordBytes.toNat

theorem parseRecord_eq {line : Bytes} {policy : Policy} (h : InBounds policy line) :
    parseRecord line policy = (do
      let fields ← parseFields (trimAscii line)
      let result ← (parseRecordFields policy).run { fields }
      return result.1) := by
  unfold parseRecord
  rw [if_neg h.1, if_neg h.2]

theorem parseRecord_inBounds {line : Bytes} {policy : Policy} {record : ParsedRecord}
    (h : parseRecord line policy = .ok record) : InBounds policy line := by
  unfold parseRecord at h
  simp only at h
  split at h
  · cases h
  rename_i htext
  split at h
  · cases h
  rename_i hlength
  exact ⟨htext, hlength⟩

theorem Line.inBounds {line : Bytes} {entries : List (Bytes × Bytes)} {policy : Policy}
    (h : Line entries policy line) : InBounds policy line :=
  ⟨not_or.2 ⟨h.nonempty, h.noComment⟩, Nat.not_lt.2 h.bounded⟩

theorem Line.parseFields_ok {line : Bytes} {entries : List (Bytes × Bytes)} {policy : Policy}
    (h : Line entries policy line) {fields : FieldMap} (hholds : fields.Holds entries) :
    parseFields (trimAscii line) = .ok fields := by
  obtain ⟨found, hfound, hsize⟩ := h.fields.holds
  rw [hholds.ext hfound (fun _ => Iff.rfl)]
  exact (parseFields_ok_iff _ _).2 ⟨entries, h.cut, h.fields, hfound, hsize⟩

theorem parseRecord_ok_iff (line : Bytes) (policy : Policy) (record : ParsedRecord) :
    parseRecord line policy = .ok record ↔ Accepts policy line record := by
  constructor
  · intro h
    have hbounds := parseRecord_inBounds h
    rw [parseRecord_eq hbounds, Except.bind_eq_ok_iff] at h
    obtain ⟨fields, hfields, h⟩ := h
    obtain ⟨entries, hcut, hlist, hholds, -⟩ := (parseFields_ok_iff _ _).1 hfields
    obtain ⟨⟨found, after⟩, hrun, hfound⟩ := Except.bind_eq_ok_iff.1 h
    cases hfound
    obtain ⟨hversion, hgrammar⟩ :=
      (parseRecordFields_ok_iff hholds policy found).1 ⟨after, hrun⟩
    have htext := not_or.1 hbounds.1
    exact ⟨entries, ⟨htext.1, htext.2, Nat.not_lt.1 hbounds.2, hcut, hlist⟩, hversion, hgrammar⟩
  · rintro ⟨entries, hline, hversion, hgrammar⟩
    obtain ⟨fields, hholds, -⟩ := hline.fields.holds
    obtain ⟨after, hrun⟩ :=
      (parseRecordFields_ok_iff hholds policy record).2 ⟨hversion, hgrammar⟩
    rw [parseRecord_eq hline.inBounds, hline.parseFields_ok hholds]
    refine Except.bind_eq_ok_iff.2 ⟨fields, rfl, ?_⟩
    exact Except.bind_eq_ok_iff.2 ⟨(record, after), hrun, rfl⟩

/-- A record is accepted by its grammar, whatever the order of its fields. -/
theorem parseRecord_iff (line : Bytes) (policy : Policy) (record : ParsedRecord) :
    (parseRecord line policy = .ok record ↔ Accepts policy line record) ∧
      ∀ line' entries entries', Line entries policy line → Line entries' policy line' →
        entries.Perm entries' → parseRecord line policy = parseRecord line' policy := by
  refine ⟨parseRecord_ok_iff line policy record, ?_⟩
  intro line' entries entries' hline hline' hperm
  obtain ⟨fields, hholds, -⟩ := hline.fields.holds
  have hholds' : fields.Holds entries' := by
    intro key value
    rw [hholds key value, hperm.mem_iff]
  rw [parseRecord_eq hline.inBounds, parseRecord_eq hline'.inBounds, hline.parseFields_ok hholds,
    hline'.parseFields_ok hholds']

theorem parseRecord_reordered :
    parseRecord (ascii "v=1 kind=source name=a authority=primary provenance=real") {} =
      parseRecord (ascii "  name=a v=1 provenance=real  authority=primary kind=source") {} := by
  apply (parseRecord_iff _ _ .none).2 _
    [(ascii "v", ascii "1"), (ascii "kind", ascii "source"), (ascii "name", ascii "a"),
      (ascii "authority", ascii "primary"), (ascii "provenance", ascii "real")]
    [(ascii "name", ascii "a"), (ascii "v", ascii "1"), (ascii "provenance", ascii "real"),
      (ascii "authority", ascii "primary"), (ascii "kind", ascii "source")]
  · decide +kernel
  · decide +kernel
  · decide +kernel

end LinkObservatory
