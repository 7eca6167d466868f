import LinkObservatory.Lib.LongDivision

namespace LinkObservatory
set_option autoImplicit true

/-- `std::numeric_limits<std::uint64_t>::max()`. -/
def u64Max : UInt64 := 0xFFFFFFFFFFFFFFFF

/-- Overflow is reported as `none`, never wrapped. -/
def checkedAdd (lhs rhs : UInt64) : Option UInt64 :=
  if rhs > u64Max - lhs then none else some (lhs + rhs)

def checkedMul (lhs rhs : UInt64) : Option UInt64 :=
  if lhs = 0 ∨ rhs = 0 then some 0
  else if lhs > u64Max / rhs then none
  else some (lhs * rhs)

/-- The signed overload of `checked_add`. -/
def checkedAddI64 (lhs rhs : Int64) : Option Int64 :=
  if rhs > 0 ∧ lhs > Int64.maxValue - rhs then none
  else if rhs < 0 ∧ lhs < Int64.minValue - rhs then none
  else some (lhs + rhs)

/-- The signed overload of `checked_sub`: the smallest subtrahend has no negation and is refused. -/
def checkedSubI64 (lhs rhs : Int64) : Option Int64 :=
  if rhs = Int64.minValue then none else checkedAddI64 lhs (-rhs)

/-- An unsigned 128-bit value in two limbs. -/
structure U128 where
  hi : UInt64 := 0
  lo : UInt64 := 0
deriving DecidableEq, Repr

def U128.isZero (value : U128) : Bool := value.hi == 0 && value.lo == 0

def U128.toNat (value : U128) : Nat := value.hi.toNat * 2 ^ 64 + value.lo.toNat

def U128.compare (lhs rhs : U128) : Ordering :=
  if lhs.hi ≠ rhs.hi then
    if lhs.hi < rhs.hi then .lt else .gt
  else if lhs.lo ≠ rhs.lo then
    if lhs.lo < rhs.lo then .lt else .gt
  else .eq

/-- Schoolbook product of two words over 32-bit limbs. -/
def u128MulU64 (lhs rhs : UInt64) : U128 :=
  let lhsLow := lhs &&& 0xFFFFFFFF
  let lhsHigh := lhs >>> 32
  let rhsLow := rhs &&& 0xFFFFFFFF
  let rhsHigh := rhs >>> 32
  let lowLow := lhsLow * rhsLow
  let lowHigh := lhsLow * rhsHigh
  let highLow := lhsHigh * rhsLow
  let highHigh := lhsHigh * rhsHigh
  let middle := lowHigh + (lowLow >>> 32) + (highLow &&& 0xFFFFFFFF)
  { hi := highHigh + (highLow >>> 32) + (middle >>> 32)
    lo := (middle <<< 32) ||| (lowLow &&& 0xFFFFFFFF) }

/-- The bit of a 128-bit value at a position below 128. -/
def U128.bit (value : U128) (position : Nat) : UInt64 :=
  if position ≥ 64 then (value.hi >>> UInt64.ofNat (position - 64)) &&& 1
  else (value.lo >>> UInt64.ofNat position) &&& 1

/-- The scan of `u128_div_u64`; the argument counts the positions still to be read. -/
def u128DivU64Loop (dividend : U128) (divisor : UInt64) :
    Nat → UInt64 → UInt64 → Option UInt64
  | 0, _, quotient => some quotient
  | position + 1, remainder, quotient =>
    if remainder > u64Max >>> 1 then none
    else
      let shifted := (remainder <<< 1) ||| dividend.bit position
      if shifted ≥ divisor then
        if position < 64 then
          u128DivU64Loop dividend divisor position (shifted - divisor)
            (quotient ||| (1 <<< UInt64.ofNat position))
        else none
      else u128DivU64Loop dividend divisor position shifted quotient

def u128DivU64 (dividend : U128) (divisor : UInt64) : Option UInt64 :=
  if divisor = 0 then none else u128DivU64Loop dividend divisor 128 0 0

def u128Sub (lhs rhs : U128) : U128 :=
  { lo := lhs.lo - rhs.lo
    hi := lhs.hi - rhs.hi - (if lhs.lo < rhs.lo then 1 else 0) }

def u128Shl1 (value : U128) : U128 :=
  { hi := (value.hi <<< 1) ||| (value.lo >>> 63), lo := value.lo <<< 1 }

def u128HighBit (value : U128) : Bool := (value.hi >>> 63) != 0

/-- The scan of `u128_div_u128`. The bit shifted out of the remainder forces a subtraction. -/
def u128DivU128Loop (numerator denominator : U128) :
    Nat → U128 → UInt64 → Option UInt64
  | 0, _, quotient => some quotient
  | position + 1, remainder, quotient =>
    let carry := u128HighBit remainder
    let shifted := u128Shl1 remainder
    let shifted := { shifted with lo := shifted.lo ||| numerator.bit position }
    if carry || shifted.compare denominator != .lt then
      if position ≥ 64 then none
      else
        u128DivU128Loop numerator denominator position (u128Sub shifted denominator)
          (quotient ||| (1 <<< UInt64.ofNat position))
    else u128DivU128Loop numerator denominator position shifted quotient

def u128DivU128 (numerator denominator : U128) : Option UInt64 :=
  if denominator.isZero then none else u128DivU128Loop numerator denominator 128 {} 0

def checkedMulDiv (lhs rhs divisor : UInt64) : Option UInt64 :=
  if divisor = 0 then none else u128DivU64 (u128MulU64 lhs rhs) divisor

theorem checkedAdd_eq (lhs rhs : UInt64) :
    checkedAdd lhs rhs = if lhs.toNat + rhs.toNat < 2 ^ 64 then some (lhs + rhs) else none := by
  have hl := lhs.toNat_lt
  have hmax : (u64Max - lhs).toNat = 2 ^ 64 - 1 - lhs.toNat := by
    rw [UInt64.toNat_sub_of_le]
    · rfl
    · rw [UInt64.le_iff_toNat_le]
      change lhs.toNat ≤ 2 ^ 64 - 1
      omega
  unfold checkedAdd
  simp only [gt_iff_lt, UInt64.lt_iff_toNat_lt, hmax]
  split <;> split <;> first | rfl | omega

theorem checkedMul_some (h : checkedMul lhs rhs = some v) : v.toNat = lhs.toNat * rhs.toNat := by
  unfold checkedMul at h
  split at h
  · rename_i hz
    cases h
    rcases hz with rfl | rfl <;> simp
  · rename_i hz
    split at h
    · cases h
    · rename_i hle
      cases h
      rw [not_or] at hz
      rw [gt_iff_lt, UInt64.lt_iff_toNat_lt, UInt64.toNat_div] at hle
      have hr : 0 < rhs.toNat := by
        rcases Nat.eq_zero_or_pos rhs.toNat with h0 | h0
        · exact absurd (UInt64.toNat_inj.1 h0) hz.2
        · exact h0
      have hb : lhs.toNat * rhs.toNat ≤ u64Max.toNat :=
        (Nat.le_div_iff_mul_le hr).1 (Nat.le_of_not_gt hle)
      have hm : u64Max.toNat < 2 ^ 64 := u64Max.toNat_lt
      rw [UInt64.toNat_mul, Nat.mod_eq_of_lt (by omega)]

/-- Signed addition is exact over the integers whenever the sum is representable. -/
theorem checkedAddI64_eq (lhs rhs : Int64) :
    checkedAddI64 lhs rhs =
      if -2 ^ 63 ≤ lhs.toInt + rhs.toInt ∧ lhs.toInt + rhs.toInt < 2 ^ 63
      then some (lhs + rhs) else none := by
  have hl := lhs.toInt_lt
  have hl' := lhs.le_toInt
  have hr := rhs.toInt_lt
  have hr' := rhs.le_toInt
  have hmax : 0 < rhs.toInt → (Int64.maxValue - rhs).toInt = 2 ^ 63 - 1 - rhs.toInt := by
    intro h
    rw [Int64.toInt_sub, Int64.toInt_maxValue]
    apply Int.bmod_eq_of_le <;> push_cast <;> omega
  have hmin : rhs.toInt < 0 → (Int64.minValue - rhs).toInt = -2 ^ 63 - rhs.toInt := by
    intro h
    rw [Int64.toInt_sub, Int64.toInt_minValue]
    apply Int.bmod_eq_of_le <;> push_cast <;> omega
  unfold checkedAddI64
  simp only [gt_iff_lt, Int64.lt_iff_toInt_lt, Int64.toInt_zero]
  rcases Int.lt_trichotomy rhs.toInt 0 with h | h | h
  · rw [hmin h, if_neg (by omega)]
    split <;> split <;> first | rfl | omega
  · rw [if_neg (by omega), if_neg (by omega), if_pos (by omega)]
  · rw [hmax h]
    split
    · rw [if_neg (by omega)]
    · rw [if_neg (by omega), if_pos (by omega)]

theorem checkedAddI64_some (h : checkedAddI64 lhs rhs = some v) :
    v.toInt = lhs.toInt + rhs.toInt := by
  rw [checkedAddI64_eq] at h
  split at h
  · cases h
    rw [Int64.toInt_add]
    apply Int.bmod_eq_of_le <;> push_cast <;> omega
  · cases h

theorem toInt_neg_of_ne_minValue {x : Int64} (h : x ≠ Int64.minValue) :
    (-x).toInt = -x.toInt := by
  have hl := x.toInt_lt
  have hl' := x.le_toInt
  have hne : x.toInt ≠ -2 ^ 63 := by
    intro he
    exact h (Int64.toInt_inj.1 (by rw [he, Int64.toInt_minValue]))
  rw [Int64.toInt_neg]
  apply Int.bmod_eq_of_le <;> push_cast <;> omega

theorem checkedSubI64_eq_none (lhs rhs : Int64) :
    checkedSubI64 lhs rhs = none ↔
      rhs = Int64.minValue ∨ lhs.toInt - rhs.toInt < -2 ^ 63 ∨ 2 ^ 63 ≤ lhs.toInt - rhs.toInt := by
  unfold checkedSubI64
  split
  · rename_i h
    simp only [h, true_or]
  · rename_i h
    rw [checkedAddI64_eq, toInt_neg_of_ne_minValue h]
    simp only [h, false_or]
    split <;> simp <;> omega

theorem checkedSubI64_some (h : checkedSubI64 lhs rhs = some v) :
    v.toInt = lhs.toInt - rhs.toInt := by
  unfold checkedSubI64 at h
  split at h
  · cases h
  · rename_i hne
    rw [checkedAddI64_some h, toInt_neg_of_ne_minValue hne]
    omega

end LinkObservatory
