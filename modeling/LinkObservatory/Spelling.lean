import LinkObservatory.Text

namespace LinkObservatory
set_option autoImplicit true

def SourceAuthority.toString : SourceAuthority → Bytes
  | .unknown => ascii "unknown"
  | .synthetic => ascii "synthetic"
  | .derived => ascii "derived"
  | .secondary => ascii "secondary"
  | .primary => ascii "primary"

def ProvenanceClass.toString : ProvenanceClass → Bytes
  | .unknown => ascii "unknown"
  | .real => ascii "real"
  | .synthetic => ascii "synthetic"
  | .replayed => ascii "replayed"

def LinkKind.toString : LinkKind → Bytes
  | .unknown => ascii "unknown"
  | .physical => ascii "physical"
  | .logical => ascii "logical"
  | .aggregate => ascii "aggregate"

def parseMetricFamily (text : Bytes) : Option MetricFamily :=
  parseFromTable text <|
    [MetricFamily.adminState, .operState, .octets, .errors, .discards, .utilReported,
      .signalQuality, .flapReport].map fun family => (family.toString, family)

def parseDirection (text : Bytes) : Option Direction :=
  parseFromTable text <|
    [Direction.unknown, .in, .out, .both].map fun direction => (direction.toString, direction)

def parseErrorClass (text : Bytes) : Option ErrorClass :=
  parseFromTable text <|
    [ErrorClass.none, .total, .crc, .symbol, .framing, .encoding, .congestion, .other].map
      fun errorClass => (errorClass.toString, errorClass)

def parseSourceAuthority (text : Bytes) : Option SourceAuthority :=
  parseFromTable text <|
    [SourceAuthority.unknown, .synthetic, .derived, .secondary, .primary].map
      fun authority => (authority.toString, authority)

def parseProvenanceClass (text : Bytes) : Option ProvenanceClass :=
  parseFromTable text <|
    [ProvenanceClass.unknown, .real, .synthetic, .replayed].map
      fun provenance => (provenance.toString, provenance)

def parseLinkKind (text : Bytes) : Option LinkKind :=
  parseFromTable text <|
    [LinkKind.unknown, .physical, .logical, .aggregate].map fun kind => (kind.toString, kind)

def parseCounterWidth (text : Bytes) : Option CounterWidth :=
  if text = ascii "bits32" then some .bits32
  else if text = ascii "bits64" then some .bits64
  else none

/-- Two of the states have a synonym. -/
def parseAdminState (text : Bytes) : Option AdminStateValue :=
  if text = ascii "unknown" then some .unknown
  else if text = ascii "enabled" ∨ text = ascii "up" then some .enabled
  else if text = ascii "disabled" ∨ text = ascii "down" then some .disabled
  else none

def parseOperState (text : Bytes) : Option OperStateValue :=
  if text = ascii "unknown" then some .unknown
  else if text = ascii "up" then some .up
  else if text = ascii "down" then some .down
  else if text = ascii "degraded" then some .degraded
  else none

theorem parseFromTable_eq_some_iff {spelling : α → Bytes} (hinj : Function.Injective spelling)
    {values : List α} (hall : ∀ value, value ∈ values) (text : Bytes) (value : α) :
    parseFromTable text (values.map fun value => (spelling value, value)) = some value ↔
      text = spelling value := by
  unfold parseFromTable
  constructor
  · intro h
    obtain ⟨entry, hentry, rfl⟩ := Option.map_eq_some_iff.1 h
    have hequal := List.find?_some hentry
    obtain ⟨found, -, rfl⟩ := List.mem_map.1 (List.mem_of_find?_eq_some hentry)
    exact (eq_of_beq hequal).symm
  · rintro rfl
    cases hfind : (values.map fun value => (spelling value, value)).find?
        fun entry => entry.1 == spelling value with
    | none =>
      have hno := List.find?_eq_none.1 hfind (spelling value, value)
        (List.mem_map_of_mem (hall value))
      exact absurd (beq_self_eq_true _) hno
    | some entry =>
      have hequal := List.find?_some hfind
      obtain ⟨found, -, rfl⟩ := List.mem_map.1 (List.mem_of_find?_eq_some hfind)
      rw [hinj (eq_of_beq hequal)]
      rfl

theorem MetricFamily.toString_injective : Function.Injective MetricFamily.toString := by
  intro a b h
  cases a <;> cases b <;> first | rfl | exact absurd h (by decide)

theorem Direction.toString_injective : Function.Injective Direction.toString := by
  intro a b h
  cases a <;> cases b <;> first | rfl | exact absurd h (by decide)

theorem ErrorClass.toString_injective : Function.Injective ErrorClass.toString := by
  intro a b h
  cases a <;> cases b <;> first | rfl | exact absurd h (by decide)

theorem SourceAuthority.toString_injective : Function.Injective SourceAuthority.toString := by
  intro a b h
  cases a <;> cases b <;> first | rfl | exact absurd h (by decide)

theorem ProvenanceClass.toString_injective : Function.Injective ProvenanceClass.toString := by
  intro a b h
  cases a <;> cases b <;> first | rfl | exact absurd h (by decide)

theorem LinkKind.toString_injective : Function.Injective LinkKind.toString := by
  intro a b h
  cases a <;> cases b <;> first | rfl | exact absurd h (by decide)

theorem parseMetricFamily_eq_some_iff (text : Bytes) (family : MetricFamily) :
    parseMetricFamily text = some family ↔ text = family.toString := by
  apply parseFromTable_eq_some_iff MetricFamily.toString_injective
  intro value
  cases value <;> decide

theorem parseDirection_eq_some_iff (text : Bytes) (direction : Direction) :
    parseDirection text = some direction ↔ text = direction.toString := by
  apply parseFromTable_eq_some_iff Direction.toString_injective
  intro value
  cases value <;> decide

theorem parseErrorClass_eq_some_iff (text : Bytes) (errorClass : ErrorClass) :
    parseErrorClass text = some errorClass ↔ text = errorClass.toString := by
  apply parseFromTable_eq_some_iff ErrorClass.toString_injective
  intro value
  cases value <;> decide

theorem parseSourceAuthority_eq_some_iff (text : Bytes) (authority : SourceAuthority) :
    parseSourceAuthority text = some authority ↔ text = authority.toString := by
  apply parseFromTable_eq_some_iff SourceAuthority.toString_injective
  intro value
  cases value <;> decide

theorem parseProvenanceClass_eq_some_iff (text : Bytes) (provenance : ProvenanceClass) :
    parseProvenanceClass text = some provenance ↔ text = provenance.toString := by
  apply parseFromTable_eq_some_iff ProvenanceClass.toString_injective
  intro value
  cases value <;> decide

theorem parseLinkKind_eq_some_iff (text : Bytes) (kind : LinkKind) :
    parseLinkKind text = some kind ↔ text = kind.toString := by
  apply parseFromTable_eq_some_iff LinkKind.toString_injective
  intro value
  cases value <;> decide

theorem parseCounterWidth_toString (width : CounterWidth) :
    parseCounterWidth width.toString = some width := by
  cases width <;> decide

theorem parseAdminState_toString (value : AdminStateValue) :
    parseAdminState value.toString = some value := by
  cases value <;> decide

theorem parseOperState_toString (value : OperStateValue) :
    parseOperState value.toString = some value := by
  cases value <;> decide

/-- One component of a metric key, read by its position. -/
def MetricKey.component (state : Nat × MetricKey) (token : Bytes) :
    Except Status (Nat × MetricKey) :=
  if token = [] then .error (.of .invalidArgument "empty metric key component")
  else match state.1 with
    | 0 => match parseMetricFamily token with
      | some family => .ok (1, { state.2 with family := family })
      | none => .error (.of .unsupported "unknown metric family")
    | 1 => match parseDirection token with
      | some direction => .ok (2, { state.2 with direction := direction })
      | none => .error (.of .unsupported "unknown metric direction")
    | 2 => match parseErrorClass token with
      | some errorClass => .ok (3, { state.2 with errorClass := errorClass })
      | none => .error (.of .unsupported "unknown error class")
    | _ => .error (.of .invalidArgument "metric key has too many components")

/-- The components of a key stand between slashes. -/
def MetricKey.parse (text : Bytes) : Except Status MetricKey :=
  match (text.splitOn slash).foldlM MetricKey.component (0, {}) with
  | .error status => .error status
  | .ok state =>
    if state.1 = 0 then .error (.of .invalidArgument "empty metric key") else .ok state.2

/-- What a metric key denotes: its family, then its direction, then its error class. -/
inductive MetricKey.Spelled : Bytes → MetricKey → Prop
  | family (family : MetricFamily) : Spelled family.toString { family := family }
  | direction (family : MetricFamily) (direction : Direction) :
      Spelled (family.toString ++ [slash] ++ direction.toString)
        { family := family, direction := direction }
  | errorClass (family : MetricFamily) (direction : Direction) (errorClass : ErrorClass) :
      Spelled (family.toString ++ [slash] ++ direction.toString ++ [slash] ++ errorClass.toString)
        { family := family, direction := direction, errorClass := errorClass }

theorem MetricFamily.toString_plain (family : MetricFamily) :
    family.toString ≠ [] ∧ slash ∉ family.toString := by
  cases family <;> decide

theorem Direction.toString_plain (direction : Direction) :
    direction.toString ≠ [] ∧ slash ∉ direction.toString := by
  cases direction <;> decide

theorem ErrorClass.toString_plain (errorClass : ErrorClass) :
    errorClass.toString ≠ [] ∧ slash ∉ errorClass.toString := by
  cases errorClass <;> decide

section

variable (key : MetricKey) (token : Bytes) (state : Nat × MetricKey)

theorem MetricKey.component_zero :
    MetricKey.component (0, key) token = .ok state ↔
      ∃ family : MetricFamily, token = family.toString ∧
        state = (1, { key with family := family }) := by
  unfold MetricKey.component
  constructor
  · intro h
    split at h
    · cases h
    · cases hparsed : parseMetricFamily token with
      | none => simp [hparsed] at h
      | some family =>
        simp only [hparsed, Except.ok.injEq] at h
        exact ⟨family, (parseMetricFamily_eq_some_iff token family).1 hparsed, h.symm⟩
  · rintro ⟨family, rfl, rfl⟩
    rw [if_neg family.toString_plain.1]
    simp only [(parseMetricFamily_eq_some_iff _ family).2 rfl]

theorem MetricKey.component_one :
    MetricKey.component (1, key) token = .ok state ↔
      ∃ direction : Direction, token = direction.toString ∧
        state = (2, { key with direction := direction }) := by
  unfold MetricKey.component
  constructor
  · intro h
    split at h
    · cases h
    · cases hparsed : parseDirection token with
      | none => simp [hparsed] at h
      | some direction =>
        simp only [hparsed, Except.ok.injEq] at h
        exact ⟨direction, (parseDirection_eq_some_iff token direction).1 hparsed, h.symm⟩
  · rintro ⟨direction, rfl, rfl⟩
    rw [if_neg direction.toString_plain.1]
    simp only [(parseDirection_eq_some_iff _ direction).2 rfl]

theorem MetricKey.component_two :
    MetricKey.component (2, key) token = .ok state ↔
      ∃ errorClass : ErrorClass, token = errorClass.toString ∧
        state = (3, { key with errorClass := errorClass }) := by
  unfold MetricKey.component
  constructor
  · intro h
    split at h
    · cases h
    · cases hparsed : parseErrorClass token with
      | none => simp [hparsed] at h
      | some errorClass =>
        simp only [hparsed, Except.ok.injEq] at h
        exact ⟨errorClass, (parseErrorClass_eq_some_iff token errorClass).1 hparsed, h.symm⟩
  · rintro ⟨errorClass, rfl, rfl⟩
    rw [if_neg errorClass.toString_plain.1]
    simp only [(parseErrorClass_eq_some_iff _ errorClass).2 rfl]

theorem MetricKey.component_three : MetricKey.component (3, key) token ≠ .ok state := by
  unfold MetricKey.component
  intro h
  split at h
  · cases h
  · cases h

end

theorem Except.bind_eq_ok_iff {x : Except ε α} {f : α → Except ε β} {b : β} :
    (x >>= f) = .ok b ↔ ∃ a, x = .ok a ∧ f a = .ok b := by
  cases x with
  | error e =>
    constructor
    · intro h
      cases h
    · rintro ⟨a, ha, -⟩
      cases ha
  | ok a =>
    constructor
    · intro h
      exact ⟨a, rfl, h⟩
    · rintro ⟨a', ha, h⟩
      cases ha
      exact h

theorem MetricKey.components_ok_iff (tokens : List Bytes) (state : Nat × MetricKey) :
    tokens.foldlM MetricKey.component (0, {}) = .ok state ↔
      (tokens = [] ∧ state = (0, {})) ∨
      (∃ family : MetricFamily, tokens = [family.toString] ∧ state = (1, { family := family })) ∨
      (∃ (family : MetricFamily) (direction : Direction),
        tokens = [family.toString, direction.toString] ∧
          state = (2, { family := family, direction := direction })) ∨
      ∃ (family : MetricFamily) (direction : Direction) (errorClass : ErrorClass),
        tokens = [family.toString, direction.toString, errorClass.toString] ∧
          state = (3, { family := family, direction := direction, errorClass := errorClass }) := by
  constructor
  · intro h
    cases tokens with
    | nil =>
      cases h
      exact .inl ⟨rfl, rfl⟩
    | cons first rest =>
      obtain ⟨_, hfirst, h⟩ := Except.bind_eq_ok_iff.1 h
      obtain ⟨family, rfl, rfl⟩ := (MetricKey.component_zero _ _ _).1 hfirst
      cases rest with
      | nil =>
        cases h
        exact .inr (.inl ⟨family, rfl, rfl⟩)
      | cons second rest =>
        obtain ⟨_, hsecond, h⟩ := Except.bind_eq_ok_iff.1 h
        obtain ⟨direction, rfl, rfl⟩ := (MetricKey.component_one _ _ _).1 hsecond
        cases rest with
        | nil =>
          cases h
          exact .inr (.inr (.inl ⟨family, direction, rfl, rfl⟩))
        | cons third rest =>
          obtain ⟨_, hthird, h⟩ := Except.bind_eq_ok_iff.1 h
          obtain ⟨errorClass, rfl, rfl⟩ := (MetricKey.component_two _ _ _).1 hthird
          cases rest with
          | nil =>
            cases h
            exact .inr (.inr (.inr ⟨family, direction, errorClass, rfl, rfl⟩))
          | cons fourth rest =>
            obtain ⟨_, hfourth, -⟩ := Except.bind_eq_ok_iff.1 h
            exact absurd hfourth (MetricKey.component_three _ _ _)
  · have hzero (family : MetricFamily) := (MetricKey.component_zero {} _ _).2 ⟨family, rfl, rfl⟩
    have hone (family : MetricFamily) (direction : Direction) :=
      (MetricKey.component_one { family := family } _ _).2 ⟨direction, rfl, rfl⟩
    have htwo (family : MetricFamily) (direction : Direction) (errorClass : ErrorClass) :=
      (MetricKey.component_two { family := family, direction := direction } _ _).2
        ⟨errorClass, rfl, rfl⟩
    rintro (⟨rfl, rfl⟩ | ⟨family, rfl, rfl⟩ | ⟨family, direction, rfl, rfl⟩ |
      ⟨family, direction, errorClass, rfl, rfl⟩)
    · rfl
    · exact Except.bind_eq_ok_iff.2 ⟨_, hzero family, rfl⟩
    · exact Except.bind_eq_ok_iff.2 ⟨_, hzero family,
        Except.bind_eq_ok_iff.2 ⟨_, hone family direction, rfl⟩⟩
    · exact Except.bind_eq_ok_iff.2 ⟨_, hzero family, Except.bind_eq_ok_iff.2
        ⟨_, hone family direction, Except.bind_eq_ok_iff.2
          ⟨_, htwo family direction errorClass, rfl⟩⟩⟩

theorem intercalate_components (a b c : Bytes) :
    [slash].intercalate [a] = a ∧ [slash].intercalate [a, b] = a ++ [slash] ++ b ∧
      [slash].intercalate [a, b, c] = a ++ [slash] ++ b ++ [slash] ++ c := by
  simp [List.intercalate]

/-- The key parser accepts exactly the spellings of keys. -/
theorem MetricKey.parse_ok_iff (text : Bytes) (key : MetricKey) :
    MetricKey.parse text = .ok key ↔ MetricKey.Spelled text key := by
  unfold MetricKey.parse
  constructor
  · intro h
    have htext : [slash].intercalate (text.splitOn slash) = text := List.intercalate_splitOn slash
    cases hparts : (text.splitOn slash).foldlM MetricKey.component (0, {}) with
    | error status => simp [hparts] at h
    | ok state =>
      rw [hparts] at h
      rcases (MetricKey.components_ok_iff _ _).1 hparts with ⟨hnil, -⟩ |
          ⟨family, htokens, rfl⟩ | ⟨family, direction, htokens, rfl⟩ |
          ⟨family, direction, errorClass, htokens, rfl⟩
      · exact absurd hnil (List.splitOn_ne_nil slash text)
      · cases h
        rw [← htext, htokens, (intercalate_components _ [] []).1]
        exact .family family
      · cases h
        rw [← htext, htokens, (intercalate_components _ _ []).2.1]
        exact .direction family direction
      · cases h
        rw [← htext, htokens, (intercalate_components _ _ _).2.2]
        exact .errorClass family direction errorClass
  · intro h
    have hparsed {tokens : List Bytes} (hplain : ∀ token ∈ tokens, slash ∉ token)
        (hne : tokens ≠ []) {state : Nat × MetricKey} (hpart : state.1 ≠ 0)
        (hstate : tokens.foldlM MetricKey.component (0, {}) = .ok state)
        (htext : [slash].intercalate tokens = text) :
        (match (text.splitOn slash).foldlM MetricKey.component (0, {}) with
          | .error status => .error status
          | .ok state => if state.1 = 0 then
              .error (.of .invalidArgument "empty metric key") else .ok state.2) =
        (.ok state.2 : Except Status MetricKey) := by
      rw [← htext, List.splitOn_intercalate slash hplain hne, hstate]
      exact if_neg hpart
    cases h with
    | family family =>
      apply hparsed _ (List.cons_ne_nil _ _) _
        ((MetricKey.components_ok_iff _ _).2 (.inr (.inl ⟨family, rfl, rfl⟩)))
        (intercalate_components _ [] []).1
      · simp [family.toString_plain]
      · simp
    | direction family direction =>
      apply hparsed _ (List.cons_ne_nil _ _) _
        ((MetricKey.components_ok_iff _ _).2 (.inr (.inr (.inl ⟨family, direction, rfl, rfl⟩))))
        (intercalate_components _ _ []).2.1
      · simp [family.toString_plain, direction.toString_plain]
      · simp
    | errorClass family direction errorClass =>
      apply hparsed _
        (List.cons_ne_nil _ _) _
        ((MetricKey.components_ok_iff _ _).2 (.inr (.inr (.inr
          ⟨family, direction, errorClass, rfl, rfl⟩)))) (intercalate_components _ _ _).2.2
      · simp [family.toString_plain, direction.toString_plain, errorClass.toString_plain]
      · simp

end LinkObservatory
