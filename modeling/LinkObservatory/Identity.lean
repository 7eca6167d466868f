import LinkObservatory.Checked
import LinkObservatory.Lib.ByteCodec

namespace LinkObservatory
set_option autoImplicit true

open ByteCodec (leBytes)

/-- The source's `std::string`: a sequence of bytes with no encoding attached. -/
abbrev Bytes := List UInt8

/-- The bytes of an ASCII literal. -/
def ascii (text : String) : Bytes := text.toList.map fun c => c.toNat.toUInt8

/-- A 128-bit content hash. The all-zero value means "no identity". -/
structure Hash128 where
  hi : UInt64 := 0
  lo : UInt64 := 0
deriving DecidableEq, Repr, Inhabited

def Hash128.isZero (value : Hash128) : Bool := value.hi == 0 && value.lo == 0

/-- The low limb of the prime `2 ^ 88 + 0x13B`. -/
def fnvPrimeLow : UInt64 := 0x13B

/-- Full product of two words, built from 32-bit limbs. -/
def mulU64Full (lhs rhs : UInt64) : Hash128 :=
  let lhsLow := lhs &&& 0xFFFFFFFF
  let lhsHigh := lhs >>> 32
  let rhsLow := rhs &&& 0xFFFFFFFF
  let rhsHigh := rhs >>> 32
  let product := lhsLow * rhsLow
  let middle := lhsHigh * rhsLow + (product >>> 32)
  let folded := (middle &&& 0xFFFFFFFF) + lhsLow * rhsHigh
  { hi := lhsHigh * rhsHigh + (middle >>> 32) + (folded >>> 32)
    lo := (folded <<< 32) ||| (product &&& 0xFFFFFFFF) }

/-- Multiplication of the state by the prime, modulo `2 ^ 128`. -/
def fnvMultiply (state : Hash128) : Hash128 :=
  let lowProduct := mulU64Full state.lo fnvPrimeLow
  let highAddend := (mulU64Full state.hi fnvPrimeLow).lo
  let productHi := lowProduct.hi + highAddend
  let shiftedLo := state.lo <<< 24
  let shiftedHi := state.lo >>> 40
  let sumLo := shiftedLo + lowProduct.lo
  let carry : UInt64 := if sumLo < shiftedLo then 1 else 0
  { hi := shiftedHi + productHi + carry, lo := sumLo }

def fnvByte (state : Hash128) (byte : UInt8) : Hash128 :=
  fnvMultiply { state with lo := state.lo ^^^ byte.toUInt64 }

/-- Incremental hashing; every variable-length field is preceded by its length. -/
structure HashBuilder where
  state : Hash128 := { hi := 0x6c62272e07bb0142, lo := 0x62b821756295c58d }
deriving DecidableEq, Repr

namespace HashBuilder

def addRaw (builder : HashBuilder) (data : Bytes) : HashBuilder :=
  ⟨data.foldl fnvByte builder.state⟩

def addU8 (builder : HashBuilder) (value : UInt8) : HashBuilder := ⟨fnvByte builder.state value⟩

def addBool (builder : HashBuilder) (value : Bool) : HashBuilder :=
  builder.addU8 (if value then 1 else 0)

def addU64 (builder : HashBuilder) (value : UInt64) : HashBuilder :=
  builder.addRaw (leBytes 8 value)

def addI64 (builder : HashBuilder) (value : Int64) : HashBuilder := builder.addU64 value.toUInt64

def addBytes (builder : HashBuilder) (bytes : Bytes) : HashBuilder :=
  (builder.addU64 (UInt64.ofNat bytes.length)).addRaw bytes

def addStr (builder : HashBuilder) (text : Bytes) : HashBuilder := builder.addBytes text

def addHash (builder : HashBuilder) (value : Hash128) : HashBuilder :=
  (builder.addU64 value.hi).addU64 value.lo

def finish (builder : HashBuilder) : Hash128 := builder.state

end HashBuilder

/-- The kinds of identity; each one fixes the textual prefix of its identifiers. -/
inductive IdKind
  | endpoint | port | link | source | generation | epoch | incarnation
  | observation | evidence | runtime | transition | snapshot
deriving DecidableEq, Repr

def IdKind.name : IdKind → Bytes
  | .endpoint => ascii "endpoint"
  | .port => ascii "port"
  | .link => ascii "link"
  | .source => ascii "source"
  | .generation => ascii "generation"
  | .epoch => ascii "epoch"
  | .incarnation => ascii "incarnation"
  | .observation => ascii "observation"
  | .evidence => ascii "evidence"
  | .runtime => ascii "runtime"
  | .transition => ascii "transition"
  | .snapshot => ascii "snapshot"

/-- An identifier of one kind; identifiers of different kinds have different types. -/
structure StrongId (kind : IdKind) where
  hash : Hash128 := {}
deriving DecidableEq, Repr, Inhabited

def hexDigit (nibble : UInt64) : UInt8 :=
  if nibble < 10 then 48 + nibble.toUInt8 else 87 + nibble.toUInt8

/-- The sixteen hexadecimal digits of a word, most significant first. -/
def hexWord (value : UInt64) : Bytes :=
  ((leBytes 8 value).reverse).flatMap fun (byte : UInt8) =>
    [hexDigit (byte >>> 4).toUInt64, hexDigit (byte &&& 0x0F).toUInt64]

def toHex (value : Hash128) : Bytes := hexWord value.hi ++ hexWord value.lo

/-- The value of a hexadecimal digit. -/
def unhex (digit : UInt8) : UInt8 := if digit < 58 then digit - 48 else digit - 87

theorem unhex_hexDigit (byte : UInt8) :
    unhex (hexDigit (byte >>> 4).toUInt64) * 16 + unhex (hexDigit (byte &&& 0x0F).toUInt64) =
      byte := by
  have hall : ∀ n : Fin 256, unhex (hexDigit (UInt8.ofFin n >>> 4).toUInt64) * 16 +
      unhex (hexDigit (UInt8.ofFin n &&& 0x0F).toUInt64) = UInt8.ofFin n := by
    decide +kernel
  exact hall byte.toFin

theorem hexWord_injective : Function.Injective hexWord := by
  have hdigits (first second : Bytes)
      (h : (first.flatMap fun (byte : UInt8) =>
        [hexDigit (byte >>> 4).toUInt64, hexDigit (byte &&& 0x0F).toUInt64]) =
        second.flatMap fun (byte : UInt8) =>
          [hexDigit (byte >>> 4).toUInt64, hexDigit (byte &&& 0x0F).toUInt64]) :
      first = second := by
    induction first generalizing second with
    | nil =>
      cases second with
      | nil => rfl
      | cons byte rest => cases h
    | cons byte rest ih =>
      cases second with
      | nil => cases h
      | cons other others =>
        obtain ⟨hhigh, hrest⟩ := List.cons.inj h
        obtain ⟨hlow, hrest⟩ := List.cons.inj hrest
        rw [ih others hrest, ← unhex_hexDigit byte, hhigh, hlow, unhex_hexDigit]
  intro a b h
  have hbytes : leBytes 8 a = leBytes 8 b := List.reverse_injective (hdigits _ _ h)
  have ha := (ByteCodec.codes_word () a).read trivial []
  rw [hbytes, (ByteCodec.codes_word () b).read trivial []] at ha
  exact (congrArg Prod.fst (Except.ok.inj ha)).symm

theorem hexWord_length (value : UInt64) : (hexWord value).length = 16 := by
  simp [hexWord, leBytes]

theorem toHex_injective : Function.Injective toHex := by
  intro a b h
  have hlength : (hexWord a.hi).length = (hexWord b.hi).length := by
    rw [hexWord_length, hexWord_length]
  obtain ⟨hhi, hlo⟩ := List.append_inj h hlength
  obtain ⟨ahi, alo⟩ := a
  obtain ⟨bhi, blo⟩ := b
  rw [Hash128.mk.injEq]
  exact ⟨hexWord_injective hhi, hexWord_injective hlo⟩

namespace StrongId

def fromHash (hash : Hash128) : StrongId kind := ⟨hash⟩

/-- The hash covers the kind, so equal names of different kinds are different identities. -/
def fromName (name : Bytes) : StrongId kind :=
  ⟨((HashBuilder.addStr {} kind.name).addStr name).finish⟩

def valid (id : StrongId kind) : Bool := !id.hash.isZero

def toString (id : StrongId kind) : Bytes := kind.name ++ ascii "-" ++ toHex id.hash

/-- The text of an identity names it. -/
theorem toString_injective : Function.Injective (@toString kind) := by
  intro a b h
  have hhash := toHex_injective (List.append_cancel_left h)
  obtain ⟨a⟩ := a
  obtain ⟨b⟩ := b
  rw [StrongId.mk.injEq]
  exact hhash

/-- Lexicographic on the limbs, as the defaulted comparison of the source. -/
def compare : StrongId kind → StrongId kind → Ordering :=
  compareLex (compareOn fun id => id.hash.hi) (compareOn fun id => id.hash.lo)

instance : Std.TransCmp (@compare kind) := inferInstanceAs (Std.TransCmp (compareLex _ _))

instance : Std.LawfulEqCmp (@compare kind) where
  eq_of_compare {a b} h := by
    obtain ⟨⟨ahi, alo⟩⟩ := a
    obtain ⟨⟨bhi, blo⟩⟩ := b
    simp only [compare, compareLex_eq_eq, compareOn, Std.LawfulEqOrd.compare_eq_iff_eq] at h
    obtain ⟨h1, h2⟩ := h
    subst h1 h2
    rfl

end StrongId

abbrev EndpointId := StrongId .endpoint
abbrev PortId := StrongId .port
abbrev LinkId := StrongId .link
abbrev SourceId := StrongId .source
abbrev GenerationId := StrongId .generation
abbrev EpochId := StrongId .epoch
abbrev IncarnationId := StrongId .incarnation
abbrev ObservationId := StrongId .observation
abbrev EvidenceId := StrongId .evidence
abbrev RuntimeId := StrongId .runtime
abbrev TransitionId := StrongId .transition

end LinkObservatory
