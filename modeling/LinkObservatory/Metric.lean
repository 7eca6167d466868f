import LinkObservatory.Policy

namespace LinkObservatory
set_option autoImplicit true

def ppbFullScale : UInt64 := 1000000000

/-- The largest ratio accepted, so that sources may report oversubscription. -/
def ppbAcceptedMax : UInt64 := 2000000000

/-- A cumulative counter sample. -/
structure CounterReading where
  raw : UInt64 := 0
  width : CounterWidth := .bits64
  resetDeclared : Bool := false
deriving DecidableEq, Repr, Inhabited

/-- A normalized quality indicator, higher is better. -/
structure QualityReading where
  valuePpb : UInt64 := 0
  degradedDeclared : Bool := false
deriving DecidableEq, Repr, Inhabited

/-- A source reported flap count over a source declared window. -/
structure FlapReading where
  events : UInt64 := 0
  window : Duration := {}
deriving DecidableEq, Repr, Inhabited

/-- A typed reading; the constructors stand in the order of the source's variant. -/
inductive MetricPayload
  | adminState (value : AdminStateValue)
  | operState (value : OperStateValue)
  | counter (reading : CounterReading)
  | ratio (ppb : UInt64)
  | quality (reading : QualityReading)
  | flap (reading : FlapReading)
deriving DecidableEq, Repr

instance : Inhabited MetricPayload := ⟨.adminState .unknown⟩

/-- The index of the variant alternative. -/
def MetricPayload.index (payload : MetricPayload) : UInt8 := UInt8.ofNat payload.ctorIdx

structure MetricKey where
  family : MetricFamily := .adminState
  direction : Direction := .unknown
  errorClass : ErrorClass := .none
deriving DecidableEq, Repr, Inhabited

/-- Lexicographic on the three components. -/
def MetricKey.compare : MetricKey → MetricKey → Ordering :=
  compareLex (compareOn fun key => key.family.code)
    (compareLex (compareOn fun key => key.direction.code) (compareOn fun key => key.errorClass.code))

theorem MetricFamily.code_inj {a b : MetricFamily} (h : a.code = b.code) : a = b := by
  cases a <;> cases b <;> first | rfl | exact absurd h (by decide)

theorem Direction.code_inj {a b : Direction} (h : a.code = b.code) : a = b := by
  cases a <;> cases b <;> first | rfl | exact absurd h (by decide)

theorem ErrorClass.code_inj {a b : ErrorClass} (h : a.code = b.code) : a = b := by
  cases a <;> cases b <;> first | rfl | exact absurd h (by decide)

instance : Std.TransCmp MetricKey.compare := inferInstanceAs (Std.TransCmp (compareLex _ _))

instance : Std.LawfulEqCmp MetricKey.compare where
  eq_of_compare {a b} h := by
    obtain ⟨af, ad, ae⟩ := a
    obtain ⟨bf, bd, be⟩ := b
    simp only [MetricKey.compare, compareLex_eq_eq, compareOn,
      Std.LawfulEqOrd.compare_eq_iff_eq] at h
    obtain ⟨hf, hd, he⟩ := h
    cases MetricFamily.code_inj hf
    cases Direction.code_inj hd
    cases ErrorClass.code_inj he
    rfl

/-- Canonical spelling; a component without information is omitted. -/
def MetricKey.toString (key : MetricKey) : Bytes :=
  key.family.toString
    ++ (if isDirectionalFamily key.family && key.direction != .unknown
        then ascii "/" ++ key.direction.toString else [])
    ++ (if key.family == .errors && key.errorClass != .none
        then ascii "/" ++ key.errorClass.toString else [])
    ++ (if key.family == .discards && key.errorClass != .none
        then ascii "/" ++ key.errorClass.toString else [])

def payloadMatchesFamily : MetricFamily → MetricPayload → Bool
  | .adminState, .adminState _ => true
  | .operState, .operState _ => true
  | .octets, .counter _ => true
  | .errors, .counter _ => true
  | .discards, .counter _ => true
  | .utilReported, .ratio _ => true
  | .signalQuality, .quality _ => true
  | .flapReport, .flap _ => true
  | _, _ => false

def errorClassAllowed (family : MetricFamily) (value : ErrorClass) : Bool :=
  if family = .errors then true
  else if family = .discards then
    value == .none || value == .total || value == .congestion || value == .other
  else value == .none

/-- Validates a reading against its key and the accepted ranges; it rejects, it never clamps. -/
def validateReading (key : MetricKey) (payload : MetricPayload) (policy : Policy) : Status :=
  if !payloadMatchesFamily key.family payload then
    .of .unsupported "reading alternative does not belong to the declared metric family"
  else if !errorClassAllowed key.family key.errorClass then
    .of .invalidArgument "error class is not defined for this metric family"
  else if key.direction ≠ .unknown ∧ !isDirectionalFamily key.family then
    .of .invalidArgument "direction is not defined for this metric family"
  else match payload with
    | .adminState _ => .success
    | .operState _ => .success
    | .counter counter =>
      if counter.width = .bits32 ∧ counter.raw > 0xFFFFFFFF then
        .of .outOfRange "32-bit counter sample exceeds the declared counter width"
      else .success
    | .ratio ppb =>
      if ppb > ppbAcceptedMax then
        .of .outOfRange "reported ratio exceeds the accepted maximum"
      else .success
    | .quality quality =>
      if quality.valuePpb > ppbFullScale then
        .of .outOfRange "quality indicator exceeds full scale"
      else if key.direction = .both then
        .of .invalidArgument "quality indicator is not defined for a bidirectional reading"
      else .success
    | .flap flap =>
      if flap.window.nanos ≤ 0 then
        .of .invalidArgument "flap window must be positive"
      else if flap.window.nanos > policy.thresholds.maxHistoryWindow.nanos then
        .of .outOfRange "flap window exceeds the maximum history window"
      else .success

/-- The decimal digits of a positive number, least significant first. -/
def decDigits : Nat → Nat → Bytes
  | 0, _ => []
  | fuel + 1, value =>
    if value = 0 then [] else (48 + UInt8.ofNat (value % 10)) :: decDigits fuel (value / 10)

/-- Decimal rendering of an unsigned word; twenty digits always suffice. -/
def toDec (value : UInt64) : Bytes :=
  if value = 0 then ascii "0" else (decDigits 20 value.toNat).reverse

/-- Decimal rendering of a signed word. -/
def toDecI64 (value : Int64) : Bytes :=
  if value ≥ 0 then toDec value.toUInt64
  else ascii "-" ++ toDec ((-(value + 1)).toUInt64 + 1)

def boolText (value : Bool) : Bytes := if value then ascii "true" else ascii "false"

/-- Deterministic rendering of a reading, used by every report. -/
def formatPayload : MetricPayload → Bytes
  | .adminState value => value.toString
  | .operState value => value.toString
  | .counter counter =>
    ascii "raw=" ++ toDec counter.raw ++ ascii " width=" ++ counter.width.toString
      ++ ascii " declared-reset=" ++ boolText counter.resetDeclared
  | .ratio ppb => ascii "ppb=" ++ toDec ppb
  | .quality quality =>
    ascii "ppb=" ++ toDec quality.valuePpb ++ ascii " declared-degraded="
      ++ boolText quality.degradedDeclared
  | .flap flap =>
    ascii "events=" ++ toDec flap.events ++ ascii " window-ns=" ++ toDecI64 flap.window.nanos

/-- Absolute difference of two ratio or two quality readings; other pairs have none. -/
def payloadDifferencePpb : MetricPayload → MetricPayload → Option UInt64
  | .ratio left, .ratio right => some (if left < right then right - left else left - right)
  | .quality left, .quality right =>
    some (if left.valuePpb < right.valuePpb then right.valuePpb - left.valuePpb
      else left.valuePpb - right.valuePpb)
  | _, _ => none

/-- A counter family admits only counter payloads. -/
theorem payload_of_counter_family (hf : isCounterFamily family = true)
    (hm : payloadMatchesFamily family payload = true) : ∃ reading, payload = .counter reading := by
  cases payload with
  | counter reading => exact ⟨reading, rfl⟩
  | adminState => cases family <;> simp [isCounterFamily, payloadMatchesFamily] at hf hm
  | operState => cases family <;> simp [isCounterFamily, payloadMatchesFamily] at hf hm
  | ratio => cases family <;> simp [isCounterFamily, payloadMatchesFamily] at hf hm
  | quality => cases family <;> simp [isCounterFamily, payloadMatchesFamily] at hf hm
  | flap => cases family <;> simp [isCounterFamily, payloadMatchesFamily] at hf hm

theorem validateReading_matches (h : (validateReading key payload policy).ok = true) :
    payloadMatchesFamily key.family payload = true := by
  unfold validateReading at h
  split at h
  · simp [Status.ok, Status.of] at h
  · rename_i hm
    simpa using hm

end LinkObservatory
