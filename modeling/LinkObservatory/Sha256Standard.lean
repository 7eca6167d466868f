import LinkObservatory.Sha256
import LinkObservatory.Lib.BlockStream

namespace LinkObservatory
set_option autoImplicit true

/-! The digest as the standard defines it. -/
namespace Standard

/-- The first 64 primes. -/
def primes : List Nat := (List.range 312).filter fun n => Nat.Prime n

/-- The first 32 bits of the fraction of a root. -/
def rootFraction (degree prime : Nat) : UInt32 :=
  UInt32.ofNat (Nat.nthRoot degree (prime * 2 ^ (32 * degree)))

def constants : List UInt32 := primes.map (rootFraction 3)

def initial : ShaWords :=
  let word (t : Nat) := rootFraction 2 (primes.getD t 0)
  { a := word 0, b := word 1, c := word 2, d := word 3
    e := word 4, f := word 5, g := word 6, h := word 7 }

def rotr (count value : UInt32) : UInt32 := (value >>> count) ||| (value <<< (32 - count))

def ch (x y z : UInt32) : UInt32 := (x &&& y) ^^^ (~~~x &&& z)

def maj (x y z : UInt32) : UInt32 := (x &&& y) ^^^ (x &&& z) ^^^ (y &&& z)

def bigSigma0 (x : UInt32) : UInt32 := rotr 2 x ^^^ rotr 13 x ^^^ rotr 22 x

def bigSigma1 (x : UInt32) : UInt32 := rotr 6 x ^^^ rotr 11 x ^^^ rotr 25 x

def smallSigma0 (x : UInt32) : UInt32 := rotr 7 x ^^^ rotr 18 x ^^^ (x >>> 3)

def smallSigma1 (x : UInt32) : UInt32 := rotr 17 x ^^^ rotr 19 x ^^^ (x >>> 10)

/-- A number in big-endian bytes. -/
def bigEndian (count value : Nat) : Bytes :=
  (List.range count).map fun index => UInt8.ofNat (value / 256 ^ (count - 1 - index))

/-- The big-endian number that some bytes spell. -/
def number (data : Bytes) : Nat := data.foldl (fun value byte => 256 * value + byte.toNat) 0

/-- The message schedule of a block. -/
def scheduleWord (block : Bytes) (t : Nat) : UInt32 :=
  if t < 16 then UInt32.ofNat (number ((block.drop (4 * t)).take 4))
  else
    smallSigma1 (scheduleWord block (t - 2)) + scheduleWord block (t - 7) +
      smallSigma0 (scheduleWord block (t - 15)) + scheduleWord block (t - 16)
termination_by t

/-- One round on the eight working words. -/
def round (w : ShaWords) (constant word : UInt32) : ShaWords :=
  let t1 := w.h + bigSigma1 w.e + ch w.e w.f w.g + constant + word
  let t2 := bigSigma0 w.a + maj w.a w.b w.c
  { h := w.g, g := w.f, f := w.e, e := w.d + t1, d := w.c, c := w.b, b := w.a, a := t1 + t2 }

def compress (hash : ShaWords) (block : Bytes) : ShaWords :=
  let w := (List.range 64).foldl
    (fun w t => round w (constants.getD t 0) (scheduleWord block t)) hash
  { a := w.a + hash.a, b := w.b + hash.b, c := w.c + hash.c, d := w.d + hash.d
    e := w.e + hash.e, f := w.f + hash.f, g := w.g + hash.g, h := w.h + hash.h }

/-- The zeros between the marker and the length of a message. -/
def zeros (length : Nat) : Nat := (119 - length % 64) % 64

/-- A message with its padding. -/
def pad (message : Bytes) : Bytes :=
  message ++ [0x80] ++ List.replicate (zeros message.length) 0 ++ bigEndian 8 (8 * message.length)

def sha256 (message : Bytes) : Bytes :=
  let hash := BlockStream.fold 64 compress initial (pad message)
  [hash.a, hash.b, hash.c, hash.d, hash.e, hash.f, hash.g, hash.h].flatMap fun word =>
    bigEndian 4 word.toNat

end Standard

open Standard

theorem kRoundConstants_eq : kRoundConstants = constants := by decide +kernel

theorem initial_eq : ShaWords.initial = Standard.initial := by decide +kernel

theorem Standard.pad_length (message : Bytes) : 64 ∣ (pad message).length := by
  have height : (bigEndian 8 (8 * message.length)).length = 8 := rfl
  rw [pad, List.length_append, List.length_append, List.length_append, List.length_singleton,
    List.length_replicate, height, zeros]
  omega

theorem number_word (b0 b1 b2 b3 : UInt8) :
    (b0.toUInt32 <<< 24) ||| (b1.toUInt32 <<< 16) ||| (b2.toUInt32 <<< 8) ||| b3.toUInt32 =
      UInt32.ofNat (number [b0, b1, b2, b3]) := by
  have h0 : b0.toNat < 2 ^ 8 := b0.toNat_lt
  have h1 : b1.toNat < 2 ^ 8 := b1.toNat_lt
  have h2 : b2.toNat < 2 ^ 8 := b2.toNat_lt
  have h3 : b3.toNat < 2 ^ 8 := b3.toNat_lt
  have hshift (byte : UInt8) (hbyte : byte.toNat < 2 ^ 8) (bits : Nat) (hbits : bits ≤ 24) :
      (byte.toUInt32 <<< UInt32.ofNat bits).toNat = 2 ^ bits * byte.toNat := by
    have hpow : 2 ^ bits ≤ 2 ^ 24 := Nat.pow_le_pow_right (by decide) hbits
    have hproduct : 2 ^ bits * byte.toNat < 2 ^ 32 := by
      calc
        _ < 2 ^ bits * 2 ^ 8 := (Nat.mul_lt_mul_left (Nat.two_pow_pos bits)).2 hbyte
        _ ≤ 2 ^ 24 * 2 ^ 8 := Nat.mul_le_mul_right _ hpow
        _ = 2 ^ 32 := by decide
    rw [UInt32.toNat_shiftLeft, UInt8.toNat_toUInt32, UInt32.toNat_ofNat_of_lt' (by
      change bits < 2 ^ 32
      omega), Nat.mod_eq_of_lt (by omega : bits < 32), Nat.shiftLeft_eq, Nat.mul_comm,
      Nat.mod_eq_of_lt hproduct]
  apply UInt32.toNat_inj.1
  have hvalue : number [b0, b1, b2, b3] =
      2 ^ 24 * b0.toNat + (2 ^ 16 * b1.toNat + (2 ^ 8 * b2.toNat + b3.toNat)) := by
    simp only [number, List.foldl_cons, List.foldl_nil]
    omega
  rw [hvalue, UInt32.toNat_ofNat_of_lt' (by
    change _ < 2 ^ 32
    omega), Nat.two_pow_add_eq_or_of_lt (by omega), Nat.two_pow_add_eq_or_of_lt (by omega),
    Nat.two_pow_add_eq_or_of_lt (by omega), UInt32.toNat_or, UInt32.toNat_or, UInt32.toNat_or,
    UInt8.toNat_toUInt32, Nat.or_assoc, Nat.or_assoc]
  have e0 := hshift b0 h0 24 (by decide)
  have e1 := hshift b1 h1 16 (by decide)
  have e2 := hshift b2 h2 8 (by decide)
  exact congr (congrArg HOr.hOr e0) (congr (congrArg HOr.hOr e1) (congrArg (· ||| b3.toNat) e2))

theorem loadWords_eq (block : Bytes) (count : Nat) (hblock : block.length = 4 * count) :
    loadWords block =
      (List.range count).map fun t => UInt32.ofNat (number ((block.drop (4 * t)).take 4)) := by
  induction count generalizing block with
  | zero =>
    rw [List.length_eq_zero_iff.1 hblock]
    rfl
  | succ count ih =>
    match block, hblock with
    | b0 :: b1 :: b2 :: b3 :: rest, hblock =>
      have hrest : rest.length = 4 * count := by
        simp only [List.length_cons] at hblock
        omega
      rw [loadWords, List.range_succ_eq_map, List.map_cons, List.map_map, ih rest hrest,
        number_word]
      rfl

theorem extendSchedule_eq (block : Bytes) (count start : Nat) (hstart : 16 ≤ start) :
    extendSchedule count ((List.range start).map (scheduleWord block)).reverse =
      ((List.range (start + count)).map (scheduleWord block)).reverse := by
  induction count generalizing start with
  | zero => rfl
  | succ count ih =>
    have hword (index : Nat) (hindex : index < start) :
        ((List.range start).map (scheduleWord block)).reverse.getD index 0 =
          scheduleWord block (start - 1 - index) := by
      rw [List.getD_eq_getElem?_getD, List.getElem?_reverse (by simpa using hindex)]
      simp only [List.length_map, List.length_range]
      rw [List.getElem?_map, List.getElem?_range (by omega)]
      rfl
    have hnext : scheduleWord block start =
        scheduleWord block (start - 1 - 15) +
            smallSigma0 (scheduleWord block (start - 1 - 14)) +
          scheduleWord block (start - 1 - 6) + smallSigma1 (scheduleWord block (start - 1 - 1)) := by
      rw [scheduleWord, if_neg (by omega)]
      simp only [Nat.sub_sub, Nat.reduceAdd]
      ac_rfl
    have hmore : extendSchedule (count + 1) ((List.range start).map (scheduleWord block)).reverse =
        extendSchedule count
          (scheduleWord block start :: ((List.range start).map (scheduleWord block)).reverse) := by
      rw [extendSchedule, hword 14 (by omega), hword 1 (by omega), hword 15 (by omega),
        hword 6 (by omega), hnext]
      rfl
    have hgrown : scheduleWord block start :: ((List.range start).map (scheduleWord block)).reverse =
        ((List.range (start + 1)).map (scheduleWord block)).reverse := by
      rw [List.range_succ, List.map_append, List.reverse_append]
      rfl
    rw [hmore, hgrown, ih (start + 1) (by omega), Nat.add_assoc, Nat.add_comm 1]

/-- The source compresses a block as the standard does. -/
theorem compress_eq (state : ShaWords) (block : Bytes) (hblock : block.length = 64) :
    state.compress block = Standard.compress state block := by
  have hload : loadWords block = (List.range 16).map (scheduleWord block) := by
    rw [loadWords_eq block 16 hblock]
    apply List.map_congr_left
    intro t ht
    rw [scheduleWord, if_pos (List.mem_range.1 ht)]
  have hschedule : (extendSchedule 48 (loadWords block).reverse).reverse =
      (List.range 64).map (scheduleWord block) := by
    rw [hload, extendSchedule_eq block 48 16 (Nat.le_refl _), List.reverse_reverse]
  have hconstants : kRoundConstants = (List.range 64).map fun t => kRoundConstants.getD t 0 := by
    decide
  have hzip : kRoundConstants.zip ((List.range 64).map (scheduleWord block)) =
      (List.range 64).map fun t => (kRoundConstants.getD t 0, scheduleWord block t) := by
    conv_lhs => rw [hconstants]
    exact List.zip_map' ..
  have hrounds : (kRoundConstants.zip ((List.range 64).map (scheduleWord block))).foldl
        (fun w item => w.round item.1 item.2) state =
      (List.range 64).foldl
        (fun w t => Standard.round w (kRoundConstants.getD t 0) (scheduleWord block t)) state := by
    rw [hzip, List.foldl_map]
    rfl
  simp only [ShaWords.compress, hschedule, hrounds, Standard.compress, ← kRoundConstants_eq,
    UInt32.add_comm]

end LinkObservatory
