import LinkObservatory.FieldSlots

namespace LinkObservatory
set_option autoImplicit true

/-- The fields of each kind of record, in the order of the formatter. -/
def SourceDecl.slots (declaration : SourceDecl) : List FieldSlot :=
  [{ key := "v", value := toDec 1 },
    { key := "kind", value := ascii "source" },
    { key := "name", value := declaration.name },
    { key := "authority", value := declaration.authority.toString },
    { key := "provenance", value := declaration.provenance.toString },
    { key := "retired", value := boolText true, written := declaration.retired }]

def LinkDecl.slots (declaration : LinkDecl) : List FieldSlot :=
  [{ key := "v", value := toDec 1 },
    { key := "kind", value := ascii "link" },
    { key := "name", value := declaration.name },
    { key := "link-kind", value := declaration.kind.toString },
    { key := "linkgen", value := declaration.generation },
    { key := "provenance", value := declaration.provenance.toString },
    { key := "capacity-in-bps", value := toDec declaration.capacityInBps,
      written := declaration.capacityInBps > 0 },
    { key := "capacity-out-bps", value := toDec declaration.capacityOutBps,
      written := declaration.capacityOutBps > 0 },
    { key := "local-endpoint", value := declaration.localEndpoint,
      written := declaration.localEndpoint != [] },
    { key := "remote-endpoint", value := declaration.remoteEndpoint,
      written := declaration.remoteEndpoint != [] },
    { key := "local-port", value := declaration.localPort,
      written := declaration.localPort != [] },
    { key := "remote-port", value := declaration.remotePort,
      written := declaration.remotePort != [] }]

def valueSlots : MetricPayload → List FieldSlot
  | .adminState value => [{ key := "value", value := value.toString }]
  | .operState value => [{ key := "value", value := value.toString }]
  | .counter reading =>
    [{ key := "counter", value := toDec reading.raw },
      { key := "width", value := reading.width.toString },
      { key := "reset", value := boolText true, written := reading.resetDeclared }]
  | .ratio ppb => [{ key := "ppb", value := toDec ppb }]
  | .quality reading =>
    [{ key := "ppb", value := toDec reading.valuePpb },
      { key := "degraded", value := boolText true, written := reading.degradedDeclared }]
  | .flap reading =>
    [{ key := "events", value := toDec reading.events },
      { key := "window-ns", value := toDecI64 reading.window.nanos }]

def ObservationDecl.slots (declaration : ObservationDecl) : List FieldSlot :=
  [{ key := "v", value := toDec 1 },
    { key := "kind", value := ascii "observation" },
    { key := "link", value := declaration.link },
    { key := "source", value := declaration.source },
    { key := "incarnation", value := declaration.incarnation },
    { key := "epoch", value := declaration.epoch },
    { key := "generation", value := declaration.generation },
    { key := "revision", value := toDec declaration.revision },
    { key := "observed-at", value := toDecI64 declaration.observedAt },
    { key := "received-at", value := toDecI64 declaration.receivedAt },
    { key := "metric", value := declaration.key.toString }] ++ valueSlots declaration.payload

theorem SourceDecl.formatRecord_eq (declaration : SourceDecl) :
    declaration.formatRecord = FieldSlot.text declaration.slots := rfl

theorem LinkDecl.formatRecord_eq (declaration : LinkDecl) :
    declaration.formatRecord = FieldSlot.text declaration.slots := rfl

theorem formatValues_eq (fields : TextFields) (payload : MetricPayload) :
    formatValues fields payload = (valueSlots payload).foldl FieldSlot.write fields := by
  cases payload <;> rfl

theorem ObservationDecl.formatRecord_eq (declaration : ObservationDecl) :
    declaration.formatRecord = FieldSlot.text declaration.slots := by
  unfold ObservationDecl.formatRecord ObservationDecl.slots FieldSlot.text
  rw [List.foldl_append, ← formatValues_eq]
  rfl

theorem isTokenCharacter_solid {character : UInt8} (h : isTokenCharacter character = true) :
    33 ≤ character ∧ character ≤ 126 := by
  unfold isTokenCharacter isDigit at h
  simp only [Bool.or_eq_true, Bool.and_eq_true, decide_eq_true_eq, beq_iff_eq,
    UInt8.le_iff_toNat_le, ← UInt8.toNat_inj, UInt8.reduceToNat] at h ⊢
  omega

theorem isToken_solid {text : Bytes} (h : isToken text = true) :
    Solid text ∧ text.length ≤ 256 := by
  unfold isToken at h
  simp only [Bool.and_eq_true, decide_eq_true_eq, List.all_eq_true] at h
  constructor
  · intro character hmem
    exact isTokenCharacter_solid (h.2 character hmem)
  · exact h.1.2.trans (by decide)

theorem isToken_of_digits {text : Bytes} (hne : text ≠ []) (hshort : text.length ≤ 21)
    (hall : ∀ character ∈ text, isDigit character = true ∨ character = minus) :
    isToken text = true := by
  unfold isToken
  simp only [Bool.and_eq_true, bne_iff_ne, ne_eq, decide_eq_true_eq, List.all_eq_true]
  refine ⟨⟨hne, hshort.trans (by decide)⟩, ?_⟩
  intro character hmem
  unfold isTokenCharacter
  rcases hall character hmem with hdigit | rfl
  · rw [hdigit]
    simp
  · decide

theorem Decimal.isToken (h : Decimal text magnitude) : isToken text = true :=
  isToken_of_digits h.nonempty (h.short.trans (by decide)) fun character hmem =>
    .inl (h.digits character hmem)

theorem SignedDecimal.isToken (h : SignedDecimal text number) : isToken text = true := by
  rcases h with ⟨magnitude, h, -⟩ | ⟨digits, magnitude, rfl, h, -⟩
  · exact h.isToken
  · apply isToken_of_digits (List.cons_ne_nil _ _)
    · exact Nat.succ_le_succ h.short
    · intro character hmem
      rcases List.mem_cons.1 hmem with rfl | hmem
      · exact .inr rfl
      · exact .inl (h.digits character hmem)

theorem MetricFamily.toString_solid (family : MetricFamily) :
    Solid family.toString ∧ family.toString.length ≤ 14 := by
  have htoken : isToken family.toString = true := by cases family <;> decide
  exact ⟨(isToken_solid htoken).1, by cases family <;> decide⟩

theorem Direction.toString_solid (direction : Direction) :
    Solid direction.toString ∧ direction.toString.length ≤ 7 := by
  have htoken : isToken direction.toString = true := by cases direction <;> decide
  exact ⟨(isToken_solid htoken).1, by cases direction <;> decide⟩

theorem ErrorClass.toString_solid (errorClass : ErrorClass) :
    Solid errorClass.toString ∧ errorClass.toString.length ≤ 10 := by
  have htoken : isToken errorClass.toString = true := by cases errorClass <;> decide
  exact ⟨(isToken_solid htoken).1, by cases errorClass <;> decide⟩

theorem component_solid {text : Bytes} (shown : Bool) (hsolid : Solid text)
    (hlength : text.length ≤ bound) :
    Solid (if shown then ascii "/" ++ text else []) ∧
      (if shown then ascii "/" ++ text else []).length ≤ bound + 1 := by
  cases shown with
  | false => simp [Solid]
  | true =>
    constructor
    · apply Solid.append _ hsolid
      simp [Solid, ascii]
    · simp [ascii]
      omega

theorem MetricKey.toString_solid (key : MetricKey) :
    Solid key.toString ∧ key.toString.length ≤ 64 := by
  obtain ⟨hfamily, hfamilyLength⟩ := key.family.toString_solid
  obtain ⟨hdirection, hdirectionLength⟩ := component_solid
    (isDirectionalFamily key.family && key.direction != .unknown) key.direction.toString_solid.1
    key.direction.toString_solid.2
  obtain ⟨herrors, herrorsLength⟩ := component_solid
    (key.family == .errors && key.errorClass != .none) key.errorClass.toString_solid.1
    key.errorClass.toString_solid.2
  obtain ⟨hdiscards, hdiscardsLength⟩ := component_solid
    (key.family == .discards && key.errorClass != .none) key.errorClass.toString_solid.1
    key.errorClass.toString_solid.2
  unfold MetricKey.toString
  constructor
  · exact ((hfamily.append hdirection).append herrors).append hdiscards
  · rw [List.length_append, List.length_append, List.length_append]
    omega

/-- What every accepted declaration says, whatever the spelling of its line. -/
structure SourceDecl.Stated (declaration : SourceDecl) : Prop where
  name : isToken declaration.name = true
  declared : declaration.provenance ≠ .unknown

structure LinkDecl.Stated (declaration : LinkDecl) : Prop where
  name : isToken declaration.name = true
  generation : isToken declaration.generation = true
  known : declaration.capacityKnown =
    (decide (declaration.capacityInBps > 0) || decide (declaration.capacityOutBps > 0))
  localEndpoint : isToken declaration.localEndpoint = true ∨ declaration.localEndpoint = []
  remoteEndpoint : isToken declaration.remoteEndpoint = true ∨ declaration.remoteEndpoint = []
  localPort : isToken declaration.localPort = true ∨ declaration.localPort = []
  remotePort : isToken declaration.remotePort = true ∨ declaration.remotePort = []

structure ObservationDecl.Stated (policy : Policy) (declaration : ObservationDecl) : Prop where
  link : isToken declaration.link = true
  source : isToken declaration.source = true
  incarnation : isToken declaration.incarnation = true
  epoch : isToken declaration.epoch = true
  generation : isToken declaration.generation = true
  valid : (validateReading declaration.key declaration.payload policy).ok = true

theorem Field.isToken {entries : List (Bytes × Bytes)} (h : Field entries key Token value) :
    isToken value = true := by
  obtain ⟨text, -, -, htoken⟩ := h
  exact htoken

theorem OptionalField.isToken {entries : List (Bytes × Bytes)}
    (h : OptionalField entries key Token [] value) : isToken value = true ∨ value = [] := by
  rcases h with h | ⟨-, h⟩
  · exact .inl h.isToken
  · exact .inr h

theorem SourceGrammar.stated (h : SourceGrammar entries declaration) : declaration.Stated :=
  ⟨h.name.isToken, h.declared⟩

theorem LinkGrammar.stated (h : LinkGrammar entries declaration) : declaration.Stated :=
  ⟨h.name.isToken, h.generation.isToken, h.known, h.localEndpoint.isToken,
    h.remoteEndpoint.isToken, h.localPort.isToken, h.remotePort.isToken⟩

theorem ObservationGrammar.stated (h : ObservationGrammar entries policy declaration) :
    declaration.Stated policy :=
  ⟨h.link.isToken, h.source.isToken, h.incarnation.isToken, h.epoch.isToken,
    h.generation.isToken, h.valid⟩

theorem SourceDecl.Stated.fit {declaration : SourceDecl} (h : declaration.Stated) :
    FieldSlot.Fit sourceKeys declaration.slots := by
  constructor
  · rfl
  · unfold SourceDecl.slots
    simp only [List.forall_mem_cons, List.not_mem_nil, false_implies, implies_true, and_true,
      forall_const]
    refine ⟨isToken_solid (toDec_decimal 1).isToken, isToken_solid (by decide),
      isToken_solid h.name, isToken_solid (authority_token _ _ rfl),
      isToken_solid (provenance_token _ _ rfl), ?_⟩
    intro _
    exact isToken_solid (by decide)

/-- The formatted record of a source is accepted as that source. -/
theorem SourceDecl.Stated.accepts {declaration : SourceDecl} (h : declaration.Stated)
    {policy : Policy}
    (hbound : declaration.formatRecord.length ≤ policy.limits.maxRecordBytes.toNat) :
    Accepts policy declaration.formatRecord (.source declaration) := by
  have hfit := h.fit
  rw [SourceDecl.formatRecord_eq] at hbound ⊢
  refine ⟨_, hfit.line sourceKeys_nameList rfl hbound, ?_, ?_⟩
  · exact FieldSlot.field 0 rfl (toDec_decimal 1)
  · apply RecordGrammar.source
    · exact FieldSlot.mem 1 rfl
    · exact {
        only := hfit.only
        name := FieldSlot.field 2 rfl ⟨rfl, h.name⟩
        authority := FieldSlot.field 3 rfl rfl
        provenance := FieldSlot.field 4 rfl rfl
        declared := h.declared
        retired := by
          apply hfit.optionalField sourceKeys_nameList 5 rfl
          · intro hretired
            rw [hretired]
            rfl
          · exact id }

theorem toDec_written {value : UInt64} (h : decide (value > 0) = false) : value = 0 := by
  rw [decide_eq_false_iff_not, gt_iff_lt, UInt64.not_lt] at h
  exact UInt64.le_antisymm h (UInt64.zero_le)

theorem token_written {value : Bytes} (h : isToken value = true ∨ value = [])
    (hwritten : (value != []) = true) : isToken value = true := by
  rcases h with h | rfl
  · exact h
  · cases hwritten

theorem text_unwritten {value : Bytes} (h : (value != []) = false) : value = [] := by
  simpa using h

theorem LinkDecl.Stated.fit {declaration : LinkDecl} (h : declaration.Stated) :
    FieldSlot.Fit linkKeys declaration.slots := by
  constructor
  · rfl
  · unfold LinkDecl.slots
    simp only [List.forall_mem_cons, List.not_mem_nil, false_implies, implies_true, and_true,
      forall_const]
    refine ⟨isToken_solid (toDec_decimal 1).isToken, isToken_solid (by decide),
      isToken_solid h.name, isToken_solid (linkKind_token _ _ rfl), isToken_solid h.generation,
      isToken_solid (provenance_token _ _ rfl), ?_, ?_, ?_, ?_, ?_, ?_⟩
    · intro _
      exact isToken_solid (toDec_decimal _).isToken
    · intro _
      exact isToken_solid (toDec_decimal _).isToken
    · intro hwritten
      exact isToken_solid (token_written h.localEndpoint hwritten)
    · intro hwritten
      exact isToken_solid (token_written h.remoteEndpoint hwritten)
    · intro hwritten
      exact isToken_solid (token_written h.localPort hwritten)
    · intro hwritten
      exact isToken_solid (token_written h.remotePort hwritten)

theorem LinkDecl.Stated.accepts {declaration : LinkDecl} (h : declaration.Stated)
    {policy : Policy}
    (hbound : declaration.formatRecord.length ≤ policy.limits.maxRecordBytes.toNat) :
    Accepts policy declaration.formatRecord (.link declaration) := by
  have hfit := h.fit
  rw [LinkDecl.formatRecord_eq] at hbound ⊢
  refine ⟨_, hfit.line linkKeys_nameList rfl hbound, ?_, ?_⟩
  · exact FieldSlot.field 0 rfl (toDec_decimal 1)
  · apply RecordGrammar.link
    · exact FieldSlot.mem 1 rfl
    · have hnumber {key : String} {value : UInt64} (index : Nat)
          (hslot : declaration.slots[index]? = some ⟨key, toDec value, decide (value > 0)⟩) :
          OptionalField (FieldSlot.entries declaration.slots) key Digits 0 value :=
        hfit.optionalField linkKeys_nameList index hslot (fun _ => toDec_decimal value)
          toDec_written
      have hname {key : String} {value : Bytes} (index : Nat)
          (hslot : declaration.slots[index]? = some ⟨key, value, value != []⟩)
          (hvalue : isToken value = true ∨ value = []) :
          OptionalField (FieldSlot.entries declaration.slots) key Token [] value :=
        hfit.optionalField linkKeys_nameList index hslot
          (fun hwritten => ⟨rfl, token_written hvalue hwritten⟩) text_unwritten
      exact {
        only := hfit.only
        name := FieldSlot.field 2 rfl ⟨rfl, h.name⟩
        kind := FieldSlot.field 3 rfl rfl
        generation := FieldSlot.field 4 rfl ⟨rfl, h.generation⟩
        provenance := FieldSlot.field 5 rfl rfl
        capacityIn := hnumber 6 rfl
        capacityOut := hnumber 7 rfl
        known := h.known
        localEndpoint := hname 8 rfl h.localEndpoint
        remoteEndpoint := hname 9 rfl h.remoteEndpoint
        localPort := hname 10 rfl h.localPort
        remotePort := hname 11 rfl h.remotePort }

theorem validateReading_components (h : (validateReading key payload policy).ok = true) :
    errorClassAllowed key.family key.errorClass = true ∧
      (key.direction ≠ .unknown → isDirectionalFamily key.family = true) := by
  unfold validateReading at h
  split at h
  · simp [Status.ok, Status.of] at h
  split at h
  · simp [Status.ok, Status.of] at h
  rename_i hclass
  split at h
  · simp [Status.ok, Status.of] at h
  rename_i hdirection
  constructor
  · simpa using hclass
  · intro hknown
    simpa [hknown] using hdirection

theorem validateReading_policy (h : (validateReading key payload policy).ok = true)
    (policy' : Policy) :
    (validateReading key payload policy').ok = true ↔
      ∀ reading, payload = .flap reading →
        reading.window.nanos ≤ policy'.thresholds.maxHistoryWindow.nanos := by
  cases payload with
  | flap reading =>
    have hmatches := validateReading_matches h
    obtain ⟨hclass, hdirection⟩ := validateReading_components h
    have hshared : ¬(key.direction ≠ .unknown ∧ (!isDirectionalFamily key.family) = true) := by
      rintro ⟨hknown, hplain⟩
      rw [hdirection hknown] at hplain
      cases hplain
    have hpositive : ¬reading.window.nanos ≤ 0 := by
      intro hnonpos
      simp [validateReading, hmatches, hclass, hnonpos, Status.ok, Status.of] at h
      split at h <;> simp at h
    unfold validateReading
    simp only [hmatches, hclass, Bool.not_true, Bool.false_eq_true, if_false, hshared, hpositive]
    constructor
    · intro hok other hother
      cases hother
      split at hok
      · simp [Status.ok, Status.of] at hok
      · rename_i hle
        exact Int64.not_lt.1 hle
    · intro hle
      rw [if_neg (Int64.not_lt.2 (hle reading rfl))]
      rfl
  | _ =>
    simp only [reduceCtorEq, false_implies, implies_true, iff_true]
    exact h

theorem MetricKey.toString_eq {key : MetricKey}
    (hclass : errorClassAllowed key.family key.errorClass = true)
    (hdirection : key.direction ≠ .unknown → isDirectionalFamily key.family = true) :
    key.toString = key.family.toString ++
      (if key.direction = .unknown then [] else [slash] ++ key.direction.toString) ++
      (if key.errorClass = .none then [] else [slash] ++ key.errorClass.toString) := by
  obtain ⟨family, direction, errorClass⟩ := key
  have hslash : ascii "/" = [slash] := by decide
  have hshown : (isDirectionalFamily family && direction != .unknown) = true ↔
      direction ≠ .unknown := by
    rw [Bool.and_eq_true, bne_iff_ne, and_iff_right_iff_imp]
    exact hdirection
  unfold MetricKey.toString
  simp only [hshown, hslash, ite_not]
  by_cases hnone : errorClass = .none
  · simp [hnone]
  · have hfamily : family = .errors ∨ family = .discards := by
      by_contra hother
      rw [not_or] at hother
      simp [errorClassAllowed, hother, hnone] at hclass
    rcases hfamily with rfl | rfl
    · simp [hnone]
    · simp [hnone]

theorem MetricKey.toString_spelled_iff {key : MetricKey}
    (hclass : errorClassAllowed key.family key.errorClass = true)
    (hdirection : key.direction ≠ .unknown → isDirectionalFamily key.family = true) :
    MetricKey.Spelled key.toString key ↔
      ¬(key.direction = .unknown ∧ key.errorClass ≠ .none) := by
  rw [MetricKey.toString_eq hclass hdirection]
  obtain ⟨family, direction, errorClass⟩ := key
  simp only
  by_cases hunknown : direction = .unknown
  · subst hunknown
    by_cases hnone : errorClass = .none
    · subst hnone
      simpa using MetricKey.Spelled.family family
    · simp only [↓reduceIte, hnone, List.append_nil, ne_eq, not_false_eq_true, and_self,
        not_true_eq_false, iff_false]
      intro h
      generalize htext : family.toString ++ ([slash] ++ errorClass.toString) = text at h
      cases h with
      | family => exact hnone rfl
      | direction => exact hnone rfl
      | errorClass =>
        have hlength := congrArg List.length htext
        simp [Direction.toString, ascii] at hlength
  · by_cases hnone : errorClass = .none
    · subst hnone
      simpa [hunknown] using MetricKey.Spelled.direction family direction
    · simpa [hunknown, hnone] using MetricKey.Spelled.errorClass family direction errorClass

theorem valueSlots_keys (h : payloadMatchesFamily family payload = true) :
    (valueSlots payload).map FieldSlot.key = valueKeys family := by
  cases payload <;> cases family <;> first | rfl | cases h

theorem ObservationDecl.Stated.fit {declaration : ObservationDecl}
    (h : declaration.Stated policy) :
    FieldSlot.Fit (observationKeys declaration.key.family) declaration.slots := by
  have hvalues : ∀ slot ∈ valueSlots declaration.payload, slot.written = true →
      Solid slot.value ∧ slot.value.length ≤ 256 := by
    cases declaration.payload with
    | adminState value =>
      simpa [valueSlots] using isToken_solid (adminState_token _ _ (.plain value))
    | operState value => simpa [valueSlots] using isToken_solid (operState_token _ value rfl)
    | counter reading =>
      have hraw := isToken_solid (toDec_decimal reading.raw).isToken
      have hwidth := isToken_solid (counterWidth_token _ reading.width rfl)
      have hreset := isToken_solid (boolText_token _ true rfl)
      simp only [valueSlots, List.forall_mem_cons, List.not_mem_nil, false_implies, implies_true,
        and_true, forall_const]
      exact ⟨hraw, hwidth, fun _ => hreset⟩
    | ratio ppb => simpa [valueSlots] using isToken_solid (toDec_decimal ppb).isToken
    | quality reading =>
      have hvalue := isToken_solid (toDec_decimal reading.valuePpb).isToken
      have hdegraded := isToken_solid (boolText_token _ true rfl)
      simp only [valueSlots, List.forall_mem_cons, List.not_mem_nil, false_implies, implies_true,
        and_true, forall_const]
      exact ⟨hvalue, fun _ => hdegraded⟩
    | flap reading =>
      have hevents := isToken_solid (toDec_decimal reading.events).isToken
      have hwindow := isToken_solid (toDecI64_signed reading.window.nanos).isToken
      simp only [valueSlots, List.forall_mem_cons, List.not_mem_nil, false_implies, implies_true,
        and_true, forall_const]
      exact ⟨hevents, hwindow⟩
  constructor
  · unfold ObservationDecl.slots observationKeys
    rw [List.map_append, valueSlots_keys (validateReading_matches h.valid)]
    rfl
  · unfold ObservationDecl.slots
    rw [List.forall_mem_append]
    refine ⟨?_, hvalues⟩
    simp only [List.forall_mem_cons, List.not_mem_nil, false_implies, implies_true, and_true,
      forall_const]
    have hmetric := declaration.key.toString_solid
    exact ⟨isToken_solid (toDec_decimal 1).isToken, isToken_solid (by decide),
      isToken_solid h.link, isToken_solid h.source, isToken_solid h.incarnation,
      isToken_solid h.epoch, isToken_solid h.generation, isToken_solid (toDec_decimal _).isToken,
      isToken_solid (toDecI64_signed _).isToken, isToken_solid (toDecI64_signed _).isToken,
      hmetric.1, hmetric.2.trans (by decide)⟩

theorem ObservationDecl.Stated.values {declaration : ObservationDecl}
    (h : declaration.Stated policy) :
    ValueFields (FieldSlot.entries declaration.slots) declaration.key.family
      declaration.payload := by
  have hfit := h.fit
  have hkeys := observationKeys_nameList declaration.key.family
  have hmatches := validateReading_matches h.valid
  obtain ⟨link, source, incarnation, epoch, generation, revision, observedAt, receivedAt, key,
    payload⟩ := declaration
  simp only at hmatches hkeys ⊢
  generalize key.family = family at *
  cases payload with
  | adminState value =>
    obtain rfl : family = .adminState := by cases family <;> first | rfl | cases hmatches
    exact .adminState value (FieldSlot.field 11 rfl (.plain value))
  | operState value =>
    obtain rfl : family = .operState := by cases family <;> first | rfl | cases hmatches
    exact .operState value (FieldSlot.field 11 rfl rfl)
  | counter reading =>
    have hfamily : family = .octets ∨ family = .errors ∨ family = .discards := by
      cases family <;> simp [payloadMatchesFamily] at hmatches ⊢
    apply ValueFields.counter family reading hfamily (FieldSlot.field 11 rfl (toDec_decimal _))
      (FieldSlot.field 12 rfl rfl)
    apply hfit.optionalField hkeys 13 rfl
    · intro hreset
      rw [hreset]
      rfl
    · exact id
  | ratio ppb =>
    obtain rfl : family = .utilReported := by cases family <;> first | rfl | cases hmatches
    exact .ratio ppb (FieldSlot.field 11 rfl (toDec_decimal _))
  | quality reading =>
    obtain rfl : family = .signalQuality := by cases family <;> first | rfl | cases hmatches
    apply ValueFields.quality reading (FieldSlot.field 11 rfl (toDec_decimal _))
    apply hfit.optionalField hkeys 12 rfl
    · intro hdegraded
      rw [hdegraded]
      rfl
    · exact id
  | flap reading =>
    obtain rfl : family = .flapReport := by cases family <;> first | rfl | cases hmatches
    exact .flap reading (FieldSlot.field 11 rfl (toDec_decimal _))
      (FieldSlot.field 12 rfl (toDecI64_signed _))

theorem ObservationDecl.Stated.line {declaration : ObservationDecl}
    (h : declaration.Stated policy) {policy' : Policy}
    (hbound : declaration.formatRecord.length ≤ policy'.limits.maxRecordBytes.toNat) :
    Line (FieldSlot.entries declaration.slots) policy' declaration.formatRecord := by
  rw [ObservationDecl.formatRecord_eq] at hbound ⊢
  exact h.fit.line (observationKeys_nameList _) rfl hbound

theorem ObservationDecl.Stated.grammar {declaration : ObservationDecl}
    (h : declaration.Stated policy) {policy' : Policy}
    (hspelled : MetricKey.Spelled declaration.key.toString declaration.key)
    (hvalid : (validateReading declaration.key declaration.payload policy').ok = true) :
    ObservationGrammar (FieldSlot.entries declaration.slots) policy' declaration where
  only := h.fit.only
  link := FieldSlot.field 2 rfl ⟨rfl, h.link⟩
  source := FieldSlot.field 3 rfl ⟨rfl, h.source⟩
  incarnation := FieldSlot.field 4 rfl ⟨rfl, h.incarnation⟩
  epoch := FieldSlot.field 5 rfl ⟨rfl, h.epoch⟩
  generation := FieldSlot.field 6 rfl ⟨rfl, h.generation⟩
  revision := FieldSlot.field 7 rfl (toDec_decimal _)
  observedAt := FieldSlot.field 8 rfl (toDecI64_signed _)
  receivedAt := FieldSlot.field 9 rfl (toDecI64_signed _)
  metric := FieldSlot.field 10 rfl ⟨declaration.key.toString_solid.2, hspelled⟩
  values := h.values
  valid := hvalid

theorem ObservationDecl.Stated.accepts_iff {declaration : ObservationDecl}
    (h : declaration.Stated policy) {policy' : Policy}
    (hbound : declaration.formatRecord.length ≤ policy'.limits.maxRecordBytes.toNat) :
    Accepts policy' declaration.formatRecord (.observation declaration) ↔
      MetricKey.Spelled declaration.key.toString declaration.key ∧
        (validateReading declaration.key declaration.payload policy').ok = true := by
  have hline := h.line hbound
  constructor
  · rintro ⟨entries, hother, -, hgrammar⟩
    cases hgrammar with
    | observation _ hkind hgrammar =>
      obtain ⟨text, hmem, -, hspelled⟩ := hgrammar.metric
      rw [hother.fields.unique hline.fields (hother.cut.symm.trans hline.cut)] at hmem
      rw [h.fit.value_eq (observationKeys_nameList _) 10 rfl hmem] at hspelled
      exact ⟨hspelled, hgrammar.valid⟩
  · rintro ⟨hspelled, hvalid⟩
    refine ⟨_, hline, FieldSlot.field 0 rfl (toDec_decimal 1), ?_⟩
    exact .observation _ (FieldSlot.mem 1 rfl) (h.grammar hspelled hvalid)

/-- A record that its text says again: an error class needs a direction in front of it, and the
window of a flap report has to fit the policy that reads the text. -/
def ParsedRecord.Reproducible (policy : Policy) : ParsedRecord → Prop
  | .observation declaration =>
    ¬(declaration.key.direction = .unknown ∧ declaration.key.errorClass ≠ .none) ∧
      ∀ reading, declaration.payload = .flap reading →
        reading.window.nanos ≤ policy.thresholds.maxHistoryWindow.nanos
  | _ => True

/-- Formatting an accepted record and reading it again gives the record back, if it can. -/
theorem formatRecord_iff (h : parseRecord line policy = .ok record)
    (hbound : (formatRecord record).length ≤ policy'.limits.maxRecordBytes.toNat) :
    parseRecord (formatRecord record) policy' = .ok record ↔ record.Reproducible policy' := by
  obtain ⟨entries, -, -, hgrammar⟩ := (parseRecord_ok_iff line policy record).1 h
  rw [parseRecord_ok_iff]
  cases hgrammar with
  | source declaration _ hgrammar =>
    exact iff_of_true (hgrammar.stated.accepts hbound) trivial
  | link declaration _ hgrammar =>
    exact iff_of_true (hgrammar.stated.accepts hbound) trivial
  | observation declaration _ hgrammar =>
    have hstated := hgrammar.stated
    obtain ⟨hclass, hdirection⟩ := validateReading_components hstated.valid
    rw [show Accepts policy' (formatRecord (.observation declaration)) _ ↔ _ from
      hstated.accepts_iff hbound, MetricKey.toString_spelled_iff hclass hdirection,
      validateReading_policy hstated.valid]
    rfl

theorem formatRecord_source :
    parseRecord (formatRecord
      (.source { name := ascii "a", authority := .primary, provenance := .real })) {} =
      .ok (.source { name := ascii "a", authority := .primary, provenance := .real }) := by
  have hparsed : parseRecord (ascii "kind=source v=01 name=a provenance=real authority=primary") {} =
      .ok (.source { name := ascii "a", authority := .primary, provenance := .real }) := by
    decide +kernel
  exact (formatRecord_iff hparsed (by decide +kernel)).2 trivial

/-- An error class without a direction is written as if it were a direction. -/
theorem formatRecord_fails :
    ¬∀ (line : Bytes) (policy policy' : Policy) (record : ParsedRecord),
      parseRecord line policy = .ok record →
      (formatRecord record).length ≤ policy'.limits.maxRecordBytes.toNat →
      parseRecord (formatRecord record) policy' = .ok record := by
  intro h
  have hrun : ((parseRecord (ascii ("v=1 kind=observation link=l source=s incarnation=i epoch=e " ++
      "generation=g revision=1 observed-at=0 received-at=0 metric=errors/unknown/crc counter=1 " ++
      "width=bits32")) {}).toOption.any fun record =>
      (formatRecord record).length ≤ ({} : Policy).limits.maxRecordBytes.toNat &&
        (parseRecord (formatRecord record) {}).toOption == none) = true := by
    decide +kernel
  obtain ⟨record, hrecord, hfails⟩ := (Option.any_eq_true _ _).1 hrun
  obtain ⟨hbound, hnone⟩ := Bool.and_eq_true_iff.1 hfails
  have hparsed : ∀ {result : Except Status ParsedRecord}, result.toOption = some record →
      result = .ok record := by
    intro result hresult
    cases result with
    | error status => cases hresult
    | ok found => rw [Option.some.inj hresult]
  rw [h _ _ {} record (hparsed hrecord) (of_decide_eq_true hbound)] at hnone
  cases hnone

end LinkObservatory
