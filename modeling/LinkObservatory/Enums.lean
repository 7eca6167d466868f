import LinkObservatory.Identity

namespace LinkObservatory
set_option autoImplicit true

/-- A family of link telemetry; freshness and conflict are evaluated per family. -/
inductive MetricFamily
  | adminState | operState | octets | errors | discards | utilReported | signalQuality | flapReport
deriving DecidableEq, Repr, Inhabited

def metricFamilyCount : Nat := 8

inductive Direction
  | unknown | «in» | out | both
deriving DecidableEq, Repr, Inhabited

def directionCount : Nat := 4

inductive ErrorClass
  | none | total | crc | symbol | framing | encoding | congestion | other
deriving DecidableEq, Repr, Inhabited

def errorClassCount : Nat := 8

/-- Declared width of a source counter, needed to tell a wrap from a reset. -/
inductive CounterWidth
  | bits32 | bits64
deriving DecidableEq, Repr, Inhabited

/-- The decisive link health state. -/
inductive LinkState
  | unknown | healthy | degraded | down | flapping | saturated | erroring | stale | conflicting
deriving DecidableEq, Repr, Inhabited

inductive Freshness
  | unknown | fresh | stale | expired
deriving DecidableEq, Repr, Inhabited

inductive Confidence
  | unknown | low | medium | high
deriving DecidableEq, Repr, Inhabited

inductive SupportState
  | unsupported | supported
deriving DecidableEq, Repr, Inhabited

inductive Completeness
  | unknown | complete | incomplete
deriving DecidableEq, Repr, Inhabited

inductive ConflictState
  | none | corroborated | conflicting | insufficient
deriving DecidableEq, Repr, Inhabited

/-- Ordered source authority; it comes from registration, never from a payload. -/
inductive SourceAuthority
  | unknown | synthetic | derived | secondary | primary
deriving DecidableEq, Repr, Inhabited

inductive ProvenanceClass
  | unknown | real | synthetic | replayed
deriving DecidableEq, Repr, Inhabited

inductive TransitionKind
  | linkRegistered | linkRetired | generationChanged | adminStateChanged | operStateChanged
  | classificationChanged | counterReset | counterWrap | sourceEpochChanged
  | sourceIncarnationChanged | revisionGap | staleEvidence
deriving DecidableEq, Repr, Inhabited

/-- Why an observation was refused. -/
inductive FenceReason
  | none | unknownSource | unknownLink | unsupportedFamily | invalidValue | duplicateObservation
  | revisionReplay | revisionGap | epochBehind | incarnationBehind | generationBehind
  | authorityDowngrade | payloadTooLarge | unsupportedProvenance | storeFull
deriving DecidableEq, Repr, Inhabited

inductive LinkKind
  | unknown | physical | logical | aggregate
deriving DecidableEq, Repr, Inhabited

inductive CounterDiscontinuity
  | none | reset | wrap
deriving DecidableEq, Repr, Inhabited

/-- Reason a derived utilization value is unusable. -/
inductive DerivationFault
  | none | missingCapacity | missingPreviousSample | counterReset | nonMonotonicTime
  | windowTooLarge | staleSample | fencedSample | revisionGap | overflow | directionNotDerivable
deriving DecidableEq, Repr, Inhabited

inductive AdminStateValue
  | unknown | enabled | disabled
deriving DecidableEq, Repr, Inhabited

inductive OperStateValue
  | unknown | up | down | degraded
deriving DecidableEq, Repr, Inhabited

-- The underlying values of the enumerations. They fix the byte each enumerator takes in a
-- snapshot or a hash, and the order in which a map visits its keys.

def MetricFamily.code (value : MetricFamily) : UInt8 := UInt8.ofNat value.ctorIdx
def Direction.code (value : Direction) : UInt8 := UInt8.ofNat value.ctorIdx
def ErrorClass.code (value : ErrorClass) : UInt8 := UInt8.ofNat value.ctorIdx
def CounterWidth.code (value : CounterWidth) : UInt8 := UInt8.ofNat value.ctorIdx
def Confidence.code (value : Confidence) : UInt8 := UInt8.ofNat value.ctorIdx
def SourceAuthority.code (value : SourceAuthority) : UInt8 := UInt8.ofNat value.ctorIdx
def ProvenanceClass.code (value : ProvenanceClass) : UInt8 := UInt8.ofNat value.ctorIdx
def TransitionKind.code (value : TransitionKind) : UInt8 := UInt8.ofNat value.ctorIdx
def FenceReason.code (value : FenceReason) : UInt8 := UInt8.ofNat value.ctorIdx
def LinkKind.code (value : LinkKind) : UInt8 := UInt8.ofNat value.ctorIdx
def CounterDiscontinuity.code (value : CounterDiscontinuity) : UInt8 := UInt8.ofNat value.ctorIdx
def AdminStateValue.code (value : AdminStateValue) : UInt8 := UInt8.ofNat value.ctorIdx
def OperStateValue.code (value : OperStateValue) : UInt8 := UInt8.ofNat value.ctorIdx

def MetricFamily.toString : MetricFamily → Bytes
  | .adminState => ascii "admin-state"
  | .operState => ascii "oper-state"
  | .octets => ascii "octets"
  | .errors => ascii "errors"
  | .discards => ascii "discards"
  | .utilReported => ascii "util-reported"
  | .signalQuality => ascii "signal-quality"
  | .flapReport => ascii "flap-report"

def Direction.toString : Direction → Bytes
  | .unknown => ascii "unknown"
  | .in => ascii "in"
  | .out => ascii "out"
  | .both => ascii "both"

def ErrorClass.toString : ErrorClass → Bytes
  | .none => ascii "none"
  | .total => ascii "total"
  | .crc => ascii "crc"
  | .symbol => ascii "symbol"
  | .framing => ascii "framing"
  | .encoding => ascii "encoding"
  | .congestion => ascii "congestion"
  | .other => ascii "other"

def CounterWidth.toString : CounterWidth → Bytes
  | .bits32 => ascii "bits32"
  | .bits64 => ascii "bits64"

def LinkState.toString : LinkState → Bytes
  | .unknown => ascii "unknown"
  | .healthy => ascii "healthy"
  | .degraded => ascii "degraded"
  | .down => ascii "down"
  | .flapping => ascii "flapping"
  | .saturated => ascii "saturated"
  | .erroring => ascii "erroring"
  | .stale => ascii "stale"
  | .conflicting => ascii "conflicting"

def DerivationFault.toString : DerivationFault → Bytes
  | .none => ascii "none"
  | .missingCapacity => ascii "missing-capacity"
  | .missingPreviousSample => ascii "missing-previous-sample"
  | .counterReset => ascii "counter-reset"
  | .nonMonotonicTime => ascii "non-monotonic-time"
  | .windowTooLarge => ascii "window-too-large"
  | .staleSample => ascii "stale-sample"
  | .fencedSample => ascii "fenced-sample"
  | .revisionGap => ascii "revision-gap"
  | .overflow => ascii "overflow"
  | .directionNotDerivable => ascii "direction-not-derivable"

def AdminStateValue.toString : AdminStateValue → Bytes
  | .unknown => ascii "unknown"
  | .enabled => ascii "enabled"
  | .disabled => ascii "disabled"

def OperStateValue.toString : OperStateValue → Bytes
  | .unknown => ascii "unknown"
  | .up => ascii "up"
  | .down => ascii "down"
  | .degraded => ascii "degraded"

/-- Lookup of a spelling in a table, in table order. -/
def parseFromTable (text : Bytes) (table : List (Bytes × α)) : Option α :=
  (table.find? fun entry => entry.1 == text).map Prod.snd

def parseLinkState (text : Bytes) : Option LinkState :=
  parseFromTable text <|
    [LinkState.unknown, .healthy, .degraded, .down, .flapping, .saturated, .erroring, .stale,
      .conflicting].map fun state => (state.toString, state)

/-- The families that carry a cumulative counter. -/
def isCounterFamily (family : MetricFamily) : Bool :=
  family == .octets || family == .errors || family == .discards

def isDirectionalFamily (family : MetricFamily) : Bool :=
  family == .octets || family == .errors || family == .discards || family == .utilReported ||
    family == .signalQuality

inductive StatusCode
  | ok | invalidArgument | notFound | alreadyExists | outOfRange | capacityExceeded | corruptData
  | unsupported | rejected | cancelled | conflict | ioError | versionMismatch | internal
deriving DecidableEq, Repr, Inhabited

def StatusCode.toString : StatusCode → String
  | .ok => "ok"
  | .invalidArgument => "invalid_argument"
  | .notFound => "not_found"
  | .alreadyExists => "already_exists"
  | .outOfRange => "out_of_range"
  | .capacityExceeded => "capacity_exceeded"
  | .corruptData => "corrupt_data"
  | .unsupported => "unsupported"
  | .rejected => "rejected"
  | .cancelled => "cancelled"
  | .conflict => "conflict"
  | .ioError => "io_error"
  | .versionMismatch => "version_mismatch"
  | .internal => "internal"

/-- The outcome of a fallible operation that returns no value. -/
structure Status where
  code : StatusCode := .ok
  message : String := ""
deriving DecidableEq, Repr, Inhabited

def Status.success : Status := {}

def Status.of (code : StatusCode) (message : String) : Status := { code, message }

def Status.ok (status : Status) : Bool := status.code == .ok

def Status.toString (status : Status) : String :=
  if status.message = "" then status.code.toString
  else status.code.toString ++ ": " ++ status.message

end LinkObservatory
