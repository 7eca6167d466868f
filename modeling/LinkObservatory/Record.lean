import LinkObservatory.Observatory
import LinkObservatory.Spelling

namespace LinkObservatory
set_option autoImplicit true

open Std

def kMaxFields : Nat := 24
def kMaxKeyLength : Nat := 32
def kMaxValueLength : Nat := 256
def kRecordVersion : UInt64 := 1

/-- The source's `std::map` of field names and values. -/
abbrev FieldMap := ExtTreeMap Bytes Bytes compare

/-- One field of a record; the first `=` separates its name from its value. -/
def addField (fields : FieldMap) (token : Bytes) : Except Status FieldMap :=
  let key := token.takeWhile (· != equals)
  match token.dropWhile (· != equals) with
  | [] => .error (.of .invalidArgument "field has no '=' separator")
  | _ :: value =>
    if key = [] ∨ key.length > kMaxKeyLength then
      .error (.of .invalidArgument "field name is empty or too long")
    else if value.length > kMaxValueLength then
      .error (.of .outOfRange "field value exceeds 256 bytes")
    else if !isAsciiPrintable key || !isAsciiPrintable value then
      .error (.of .invalidArgument "field contains non-printable bytes")
    else if fields.size ≥ kMaxFields ∧ fields[key]?.isNone then
      .error (.of .capacityExceeded "record has too many fields")
    else if fields[key]?.isSome then .error (.of .invalidArgument "duplicate field name")
    else .ok (fields.insert key value)

/-- The loop over the fields of a line; the fuel bounds the bytes that are left. -/
def parseFieldsFrom : Nat → Bytes → FieldMap → Except Status FieldMap
  | 0, _, fields => .ok fields
  | fuel + 1, line, fields =>
    let line := line.dropWhile (· == space)
    if line = [] then .ok fields
    else match addField fields (line.takeWhile (· != space)) with
      | .error status => .error status
      | .ok fields =>
        match line.dropWhile (· != space) with
        | [] => .ok fields
        | _ :: rest => parseFieldsFrom fuel rest fields

def parseFields (line : Bytes) : Except Status FieldMap :=
  parseFieldsFrom (line.length + 1) line ∅

/-- The fields of a record and the names that were consumed. -/
structure FieldReader where
  fields : FieldMap
  used : List Bytes := []

abbrev Reading := StateT FieldReader (Except Status)

namespace FieldReader

def has (reader : FieldReader) (key : String) : Bool := (reader.fields[ascii key]?).isSome

/-- Marks a key as consumed, if it is there. -/
def ignore (reader : FieldReader) (key : String) : FieldReader :=
  if reader.has key then { reader with used := ascii key :: reader.used } else reader

/-- A field that must be there and hold a value. -/
def required (key : String) (read : Bytes → Option α) (code : StatusCode) (complaint : String) :
    Reading α := fun reader =>
  match reader.fields[ascii key]? with
  | none => .error (.of .invalidArgument ("missing required field '" ++ key ++ "'"))
  | some text =>
    match read text with
    | none => .error (.of code ("field '" ++ key ++ "'" ++ complaint))
    | some value => .ok (value, reader.ignore key)

/-- A field that may be missing. -/
def optional (key : String) (fallback : α) (action : Reading α) : Reading α := fun reader =>
  if !reader.has key then .ok (fallback, reader) else action reader

def readToken (text : Bytes) : Option Bytes := if isToken text then some text else none

def readText (maxLength : Nat) (text : Bytes) : Option Bytes :=
  if text = [] ∨ text.length > maxLength then none else some text

def readBool (text : Bytes) : Option Bool :=
  if text = ascii "true" then some true
  else if text = ascii "false" then some false
  else none

def requiredToken (key : String) : Reading Bytes :=
  required key readToken .invalidArgument " is not a valid token"

def requiredText (key : String) (maxLength : Nat) : Reading Bytes :=
  required key (readText maxLength) .invalidArgument " is empty or exceeds its bound"

def requiredU64 (key : String) : Reading UInt64 :=
  required key parseU64Dec .invalidArgument " is not an unsigned decimal integer"

def requiredI64 (key : String) : Reading Int64 :=
  required key parseI64Dec .invalidArgument " is not a signed decimal integer"

def optionalU64 (key : String) (fallback : UInt64) : Reading UInt64 :=
  optional key fallback (requiredU64 key)

/-- The source consumes the key before it looks at the value; a bad value ends the parse anyway. -/
def optionalBool (key : String) (fallback : Bool) : Reading Bool :=
  optional key fallback (required key readBool .invalidArgument " must be true or false")

/-- The first key, in key order, that nothing consumed. -/
def ensureAllUsed : Reading Unit := fun reader =>
  match reader.fields.toList.find? fun field => !reader.used.contains field.1 with
  | some field => .error (.of .invalidArgument ("unknown field '" ++ asText field.1 ++ "'"))
  | none => .ok ((), reader)

end FieldReader

/-- What a check denotes, or the failure that ends the parse. -/
def accept (result : Option α) (failure : Status) : Reading α := fun reader =>
  match result with
  | some value => .ok (value, reader)
  | none => .error failure

open FieldReader

def parseSourceRecord : Reading ParsedRecord := do
  let name ← requiredToken "name"
  let authority ← requiredToken "authority"
  let authority ← accept (parseSourceAuthority authority)
    (.of .unsupported "unknown source authority level")
  let provenance ← requiredToken "provenance"
  let provenance ← accept (parseProvenanceClass provenance)
    (.of .unsupported "unknown provenance class")
  accept (if provenance = .unknown then none else some ())
    (.of .invalidArgument "source must declare a real, synthetic or replayed provenance")
  let retired ← optionalBool "retired" false
  ensureAllUsed
  return .source { name, authority, provenance, retired }

def parseLinkRecord : Reading ParsedRecord := do
  let name ← requiredToken "name"
  let kind ← requiredToken "link-kind"
  let kind ← accept (parseLinkKind kind) (.of .unsupported "unknown link kind")
  let generation ← requiredToken "linkgen"
  let provenance ← requiredToken "provenance"
  let provenance ← accept (parseProvenanceClass provenance)
    (.of .unsupported "unknown provenance class")
  let capacityInBps ← optionalU64 "capacity-in-bps" 0
  let capacityOutBps ← optionalU64 "capacity-out-bps" 0
  let capacityKnown := decide (capacityInBps > 0) || decide (capacityOutBps > 0)
  let localEndpoint ← optional "local-endpoint" [] (requiredToken "local-endpoint")
  let remoteEndpoint ← optional "remote-endpoint" [] (requiredToken "remote-endpoint")
  let localPort ← optional "local-port" [] (requiredToken "local-port")
  let remotePort ← optional "remote-port" [] (requiredToken "remote-port")
  ensureAllUsed
  return .link
    { name, kind, generation, provenance, capacityKnown, capacityInBps, capacityOutBps,
      localEndpoint, remoteEndpoint, localPort, remotePort }

/-- The value fields of a metric family. -/
def parsePayload : MetricFamily → Reading MetricPayload
  | .adminState => do
    let value ← requiredToken "value"
    let value ← accept (parseAdminState value) (.of .unsupported "unknown administrative state")
    return .adminState value
  | .operState => do
    let value ← requiredToken "value"
    let value ← accept (parseOperState value) (.of .unsupported "unknown operational state")
    return .operState value
  | .octets | .errors | .discards => do
    let raw ← requiredU64 "counter"
    let width ← requiredToken "width"
    let width ← accept (parseCounterWidth width) (.of .unsupported "unknown counter width")
    let resetDeclared ← optionalBool "reset" false
    return .counter { raw, width, resetDeclared }
  | .utilReported => do
    let ppb ← requiredU64 "ppb"
    return .ratio ppb
  | .signalQuality => do
    let valuePpb ← requiredU64 "ppb"
    let degradedDeclared ← optionalBool "degraded" false
    return .quality { valuePpb, degradedDeclared }
  | .flapReport => do
    let events ← requiredU64 "events"
    let window ← requiredI64 "window-ns"
    return .flap { events, window := ⟨window⟩ }

def parseObservationRecord (policy : Policy) : Reading ParsedRecord := do
  let link ← requiredToken "link"
  let source ← requiredToken "source"
  let incarnation ← requiredToken "incarnation"
  let epoch ← requiredToken "epoch"
  let generation ← requiredToken "generation"
  let revision ← requiredU64 "revision"
  let observedAt ← requiredI64 "observed-at"
  let receivedAt ← requiredI64 "received-at"
  -- the metric key contains slashes, so the key parser checks it and not the token rule
  let metric ← requiredText "metric" 64
  let key ← MetricKey.parse metric
  let payload ← parsePayload key.family
  let valid := validateReading key payload policy
  accept (if valid.ok then some () else none) valid
  ensureAllUsed
  return .observation
    { link, source, incarnation, epoch, generation, revision, observedAt, receivedAt, key, payload }

/-- The version and the kind of a record, and the parser of that kind. -/
def parseRecordFields (policy : Policy) : Reading ParsedRecord := do
  let version ← requiredU64 "v"
  accept (if version = kRecordVersion then some () else none)
    (.of .versionMismatch "record version is not supported by this build")
  let kind ← requiredToken "kind"
  if kind = ascii "source" then parseSourceRecord
  else if kind = ascii "link" then parseLinkRecord
  else if kind = ascii "observation" then parseObservationRecord policy
  else accept none (.of .unsupported "unknown record kind")

def parseRecord (line : Bytes) (policy : Policy) : Except Status ParsedRecord :=
  let trimmed := trimAscii line
  if trimmed = [] ∨ trimmed.head? = some numberSign then
    .error (.of .invalidArgument "line is empty or a comment")
  else if trimmed.length > policy.limits.maxRecordBytes.toNat then
    .error (.of .outOfRange "record exceeds the configured byte bound")
  else do
    let fields ← parseFields trimmed
    let result ← (parseRecordFields policy).run { fields }
    return result.1

namespace TextFields

/-- The text of a field that is written only when it says something. -/
def addIf (fields : TextFields) (condition : Bool) (key : String) (value : Bytes) : TextFields :=
  if condition then fields.add key value else fields

end TextFields

/-- The overloads of `format_record`, one for each kind of declaration. -/
def SourceDecl.formatRecord (declaration : SourceDecl) : Bytes :=
  let fields : TextFields := { separator := space }
  let fields := fields.add "v" (toDec 1)
  let fields := fields.add "kind" (ascii "source")
  let fields := fields.add "name" declaration.name
  let fields := fields.add "authority" declaration.authority.toString
  let fields := fields.add "provenance" declaration.provenance.toString
  let fields := fields.addIf declaration.retired "retired" (boolText true)
  fields.buffer

def LinkDecl.formatRecord (declaration : LinkDecl) : Bytes :=
  let fields : TextFields := { separator := space }
  let fields := fields.add "v" (toDec 1)
  let fields := fields.add "kind" (ascii "link")
  let fields := fields.add "name" declaration.name
  let fields := fields.add "link-kind" declaration.kind.toString
  let fields := fields.add "linkgen" declaration.generation
  let fields := fields.add "provenance" declaration.provenance.toString
  let fields := fields.addIf (declaration.capacityInBps > 0) "capacity-in-bps"
    (toDec declaration.capacityInBps)
  let fields := fields.addIf (declaration.capacityOutBps > 0) "capacity-out-bps"
    (toDec declaration.capacityOutBps)
  let fields := fields.addIf (declaration.localEndpoint != []) "local-endpoint"
    declaration.localEndpoint
  let fields := fields.addIf (declaration.remoteEndpoint != []) "remote-endpoint"
    declaration.remoteEndpoint
  let fields := fields.addIf (declaration.localPort != []) "local-port" declaration.localPort
  let fields := fields.addIf (declaration.remotePort != []) "remote-port" declaration.remotePort
  fields.buffer

/-- The value fields of a payload. -/
def formatValues (fields : TextFields) : MetricPayload → TextFields
  | .adminState value => fields.add "value" value.toString
  | .operState value => fields.add "value" value.toString
  | .counter reading =>
    ((fields.add "counter" (toDec reading.raw)).add "width" reading.width.toString).addIf
      reading.resetDeclared "reset" (boolText true)
  | .ratio ppb => fields.add "ppb" (toDec ppb)
  | .quality reading =>
    (fields.add "ppb" (toDec reading.valuePpb)).addIf reading.degradedDeclared "degraded"
      (boolText true)
  | .flap reading =>
    (fields.add "events" (toDec reading.events)).add "window-ns" (toDecI64 reading.window.nanos)

def ObservationDecl.formatRecord (declaration : ObservationDecl) : Bytes :=
  let fields : TextFields := { separator := space }
  let fields := fields.add "v" (toDec 1)
  let fields := fields.add "kind" (ascii "observation")
  let fields := fields.add "link" declaration.link
  let fields := fields.add "source" declaration.source
  let fields := fields.add "incarnation" declaration.incarnation
  let fields := fields.add "epoch" declaration.epoch
  let fields := fields.add "generation" declaration.generation
  let fields := fields.add "revision" (toDec declaration.revision)
  let fields := fields.add "observed-at" (toDecI64 declaration.observedAt)
  let fields := fields.add "received-at" (toDecI64 declaration.receivedAt)
  let fields := fields.add "metric" declaration.key.toString
  (formatValues fields declaration.payload).buffer

def formatRecord : ParsedRecord → Bytes
  | .none => []
  | .source declaration => declaration.formatRecord
  | .link declaration => declaration.formatRecord
  | .observation declaration => declaration.formatRecord

end LinkObservatory
