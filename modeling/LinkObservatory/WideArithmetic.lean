import LinkObservatory.Checked

namespace LinkObservatory
open LongDivision
set_option autoImplicit true

theorem toNat_and_low (x : UInt64) : (x &&& 0xFFFFFFFF).toNat = x.toNat % 2 ^ 32 := by
  rw [UInt64.toNat_and]
  exact Nat.and_two_pow_sub_one_eq_mod x.toNat 32

theorem toNat_shiftRight_32 (x : UInt64) : (x >>> 32).toNat = x.toNat / 2 ^ 32 := by
  rw [UInt64.toNat_shiftRight]
  exact Nat.shiftRight_eq_div_pow _ _

theorem toNat_shiftLeft_32 (x : UInt64) : (x <<< 32).toNat = x.toNat * 2 ^ 32 % 2 ^ 64 := by
  rw [UInt64.toNat_shiftLeft]
  change x.toNat <<< 32 % 2 ^ 64 = _
  rw [Nat.shiftLeft_eq]

theorem limb_product_bound (ha : a < 2 ^ 32) (hb : b < 2 ^ 32) :
    a * b ≤ (2 ^ 32 - 1) * (2 ^ 32 - 1) :=
  Nat.mul_le_mul (by omega) (by omega)

theorem shifted_or_low (m : Nat) (hl : l < 2 ^ 32) :
    m * 2 ^ 32 % 2 ^ 64 ||| l = m * 2 ^ 32 % 2 ^ 64 + l := by
  have hm : m * 2 ^ 32 % 2 ^ 64 = 2 ^ 32 * (m % 2 ^ 32) := by omega
  rw [hm, Nat.two_pow_add_eq_or_of_lt hl]

/-- The products of the limbs of two words, none of them a word wide in full. -/
theorem limb_products {lhs rhs : Nat} (hl : lhs < 2 ^ 64) (hr : rhs < 2 ^ 64) :
    lhs * rhs = lhs / 2 ^ 32 * (rhs / 2 ^ 32) * 2 ^ 64 + lhs / 2 ^ 32 * (rhs % 2 ^ 32) * 2 ^ 32 +
        lhs % 2 ^ 32 * (rhs / 2 ^ 32) * 2 ^ 32 + lhs % 2 ^ 32 * (rhs % 2 ^ 32) ∧
      lhs % 2 ^ 32 * (rhs % 2 ^ 32) ≤ (2 ^ 32 - 1) * (2 ^ 32 - 1) ∧
      lhs % 2 ^ 32 * (rhs / 2 ^ 32) ≤ (2 ^ 32 - 1) * (2 ^ 32 - 1) ∧
      lhs / 2 ^ 32 * (rhs % 2 ^ 32) ≤ (2 ^ 32 - 1) * (2 ^ 32 - 1) ∧
      lhs / 2 ^ 32 * (rhs / 2 ^ 32) ≤ (2 ^ 32 - 1) * (2 ^ 32 - 1) := by
  refine ⟨?_, limb_product_bound (by omega) (by omega), limb_product_bound (by omega) (by omega),
    limb_product_bound (by omega) (by omega), limb_product_bound (by omega) (by omega)⟩
  have hlhs : lhs = lhs / 2 ^ 32 * 2 ^ 32 + lhs % 2 ^ 32 := by omega
  have hrhs : rhs = rhs / 2 ^ 32 * 2 ^ 32 + rhs % 2 ^ 32 := by omega
  calc lhs * rhs
      = (lhs / 2 ^ 32 * 2 ^ 32 + lhs % 2 ^ 32) * (rhs / 2 ^ 32 * 2 ^ 32 + rhs % 2 ^ 32) := by
        rw [← hlhs, ← hrhs]
    _ = _ := by ring

theorem u128MulU64_toNat (lhs rhs : UInt64) :
    (u128MulU64 lhs rhs).toNat = lhs.toNat * rhs.toNat := by
  obtain ⟨hprod, hll, hlh, hhl, hhh⟩ := limb_products lhs.toNat_lt rhs.toNat_lt
  simp only [U128.toNat, u128MulU64, UInt64.toNat_add, UInt64.toNat_or, UInt64.toNat_mul,
    toNat_and_low, toNat_shiftRight_32, toNat_shiftLeft_32]
  rw [hprod, shifted_or_low _ (Nat.mod_lt _ (by decide))]
  generalize lhs.toNat % 2 ^ 32 * (rhs.toNat % 2 ^ 32) = ll at *
  generalize lhs.toNat % 2 ^ 32 * (rhs.toNat / 2 ^ 32) = lh at *
  generalize lhs.toNat / 2 ^ 32 * (rhs.toNat % 2 ^ 32) = hl at *
  generalize lhs.toNat / 2 ^ 32 * (rhs.toNat / 2 ^ 32) = hh at *
  omega

theorem U128.toNat_lt (value : U128) : value.toNat < 2 ^ 128 := by
  have hh := value.hi.toNat_lt
  have hl := value.lo.toNat_lt
  unfold U128.toNat
  omega

theorem toNat_bit_of_word (w : UInt64) (hk : k < 64) :
    ((w >>> UInt64.ofNat k) &&& 1).toNat = w.toNat / 2 ^ k % 2 := by
  rw [UInt64.toNat_and, UInt64.toNat_shiftRight, UInt64.toNat_ofNat']
  have h64 : k % 2 ^ 64 % 64 = k := by omega
  rw [h64, Nat.shiftRight_eq_div_pow]
  exact Nat.and_one_is_mod _

theorem U128.bit_toNat (value : U128) (hk : k < 128) :
    (value.bit k).toNat = bitAt value.toNat k := by
  have hl := value.lo.toNat_lt
  unfold U128.bit bitAt U128.toNat
  split
  · rename_i hge
    rw [toNat_bit_of_word _ (by omega)]
    have hp : (2 : Nat) ^ k = 2 ^ 64 * 2 ^ (k - 64) := by rw [← pow_add]; congr 1; omega
    rw [hp, ← Nat.div_div_eq_div_mul]
    congr 2
    omega
  · rename_i hlt
    rw [toNat_bit_of_word _ (by omega)]
    have hp : (2 : Nat) ^ 64 = 2 ^ k * (2 ^ (63 - k) * 2) := by
      rw [← pow_succ, ← pow_add]; congr 1; omega
    rw [hp, show value.hi.toNat * (2 ^ k * (2 ^ (63 - k) * 2)) + value.lo.toNat =
      value.lo.toNat + 2 ^ k * (2 * (value.hi.toNat * 2 ^ (63 - k))) by ring]
    rw [Nat.add_mul_div_left _ _ (by positivity)]
    omega

theorem U128.compare_ne_lt (lhs rhs : U128) :
    (lhs.compare rhs != .lt) = decide (rhs.toNat ≤ lhs.toNat) := by
  have hl := lhs.lo.toNat_lt
  have hr := rhs.lo.toNat_lt
  rw [Bool.eq_iff_iff, bne_iff_ne, decide_eq_true_eq]
  unfold U128.compare U128.toNat
  simp only [ne_eq, ← UInt64.toNat_inj, UInt64.lt_iff_toNat_lt]
  split
  · split
    · simp only [not_true_eq_false, false_iff]
      omega
    · simp only [reduceCtorEq, not_false_eq_true, true_iff]
      omega
  · split
    · split
      · simp only [not_true_eq_false, false_iff]
        omega
      · simp only [reduceCtorEq, not_false_eq_true, true_iff]
        omega
    · simp only [reduceCtorEq, not_false_eq_true, true_iff]
      omega

theorem u128HighBit_eq (value : U128) : u128HighBit value = decide (2 ^ 127 ≤ value.toNat) := by
  have hh := value.hi.toNat_lt
  have hl := value.lo.toNat_lt
  have hs : (value.hi >>> 63).toNat = value.hi.toNat / 2 ^ 63 := by
    rw [UInt64.toNat_shiftRight]
    exact Nat.shiftRight_eq_div_pow _ _
  unfold u128HighBit U128.toNat
  rw [Bool.eq_iff_iff]
  simp only [bne_iff_ne, ne_eq, ← UInt64.toNat_inj, hs, UInt64.toNat_zero, decide_eq_true_eq]
  omega

theorem shifted_toNat (value : U128) (b : UInt64) (hb : b.toNat < 2) :
    ({ u128Shl1 value with lo := (u128Shl1 value).lo ||| b } : U128).toNat =
      (2 * value.toNat + b.toNat) % 2 ^ 128 := by
  have hh := value.hi.toNat_lt
  have hl := value.lo.toNat_lt
  have hs : (value.lo >>> 63).toNat = value.lo.toNat / 2 ^ 63 := by
    rw [UInt64.toNat_shiftRight]
    exact Nat.shiftRight_eq_div_pow _ _
  have hleft (x : UInt64) : (x <<< 1).toNat = 2 * (x.toNat % 2 ^ 63) := by
    rw [UInt64.toNat_shiftLeft]
    change x.toNat <<< 1 % 2 ^ 64 = _
    rw [Nat.shiftLeft_eq]
    omega
  have hor (m l : Nat) (hl : l < 2) : 2 * m ||| l = 2 * m + l :=
    (Nat.two_pow_add_eq_or_of_lt (i := 1) hl m).symm
  simp only [u128Shl1, U128.toNat, UInt64.toNat_or, hleft, hs]
  rw [hor _ _ hb, hor _ _ (by omega)]
  omega

theorem u128Sub_toNat (lhs rhs : U128) :
    (u128Sub lhs rhs).toNat = (2 ^ 128 + lhs.toNat - rhs.toNat) % 2 ^ 128 := by
  have h1 := lhs.lo.toNat_lt
  have h2 := rhs.lo.toNat_lt
  have h3 := lhs.hi.toNat_lt
  have h4 := rhs.hi.toNat_lt
  simp only [u128Sub, U128.toNat, UInt64.toNat_sub, UInt64.lt_iff_toNat_lt]
  split
  · simp only [UInt64.toNat_one]; omega
  · simp only [UInt64.toNat_zero]; omega

theorem or_quotient_bit (quotient : UInt64) (hk : k < 64) (hq : quotient.toNat = q * 2 ^ (k + 1)) :
    (quotient ||| (1 <<< UInt64.ofNat k)).toNat = (2 * q + 1) * 2 ^ k := by
  have hone : ((1 : UInt64) <<< UInt64.ofNat k).toNat = 2 ^ k := by
    rw [UInt64.toNat_shiftLeft, UInt64.toNat_ofNat']
    have h64 : k % 2 ^ 64 % 64 = k := by omega
    rw [h64, UInt64.toNat_one, Nat.shiftLeft_eq, Nat.one_mul]
    exact Nat.mod_eq_of_lt (Nat.pow_lt_pow_right (by decide) hk)
  have hlt : (2 : Nat) ^ k < 2 ^ (k + 1) := Nat.pow_lt_pow_right (by decide) (by omega)
  rw [UInt64.toNat_or, hone, hq, Nat.mul_comm, ← Nat.two_pow_add_eq_or_of_lt hlt]
  ring

theorem u128DivU128Loop_eq (numerator denominator : U128) (hk : k ≤ 128)
    (hs : Scanned numerator.toNat denominator.toNat k q remainder.toNat)
    (hq : quotient.toNat = q * 2 ^ k) (hz : 64 ≤ k → q = 0) :
    u128DivU128Loop numerator denominator k remainder quotient =
      if numerator.toNat / denominator.toNat < 2 ^ 64
      then some (UInt64.ofNat (numerator.toNat / denominator.toNat)) else none := by
  induction k generalizing q remainder quotient with
  | zero =>
    have hqn : quotient.toNat = numerator.toNat / denominator.toNat := by
      rw [hq, hs.finish, pow_zero, Nat.mul_one]
    have hlt := quotient.toNat_lt
    rw [u128DivU128Loop, ← hqn, if_pos hlt, UInt64.ofNat_toNat]
  | succ k ih =>
    have hbit := numerator.bit_toNat (k := k) (by omega)
    have hblt : (numerator.bit k).toNat < 2 := by
      rw [hbit]
      exact Nat.mod_lt _ (by decide)
    have hr := remainder.toNat_lt
    have hd := denominator.toNat_lt
    have hrd := hs.bound
    have hsh := shifted_toNat remainder (numerator.bit k) hblt
    rw [u128DivU128Loop]
    simp only [u128HighBit_eq, U128.compare_ne_lt, hsh, hbit, Bool.or_eq_true, decide_eq_true_eq]
    by_cases hle : denominator.toNat ≤ 2 * remainder.toNat + bitAt numerator.toNat k
    · have hsub := hs.subtract hle
      rw [if_pos (by omega)]
      split
      · rename_i h64
        -- a quotient bit at position 64 or above makes the quotient too wide
        have hbig := hsub.quotient
        have hpos : 1 ≤ numerator.toNat / denominator.toNat / 2 ^ k := by omega
        have hge := (Nat.le_div_iff_mul_le (by positivity)).1 hpos
        have hp : (2 : Nat) ^ 64 ≤ 2 ^ k := Nat.pow_le_pow_right (by decide) h64
        rw [if_neg (by omega)]
      · rename_i h64
        apply ih (by omega) (q := 2 * q + 1)
        · rw [u128Sub_toNat, hsh, hbit]
          convert hsub using 1
          omega
        · exact or_quotient_bit _ (by omega) hq
        · omega
    · have hkeep := hs.keep (by omega)
      rw [if_neg (by omega)]
      apply ih (by omega) (q := 2 * q)
      · rw [hsh, hbit, Nat.mod_eq_of_lt (by omega)]
        exact hkeep
      · rw [hq, pow_succ]
        ring
      · intro h64
        rw [hz (by omega)]

theorem U128.isZero_eq (value : U128) : value.isZero = decide (value.toNat = 0) := by
  have hl := value.lo.toNat_lt
  rw [Bool.eq_iff_iff, decide_eq_true_eq]
  simp only [U128.isZero, U128.toNat, Bool.and_eq_true, beq_iff_eq, ← UInt64.toNat_inj,
    UInt64.toNat_zero]
  omega

theorem u128DivU128_eq (numerator denominator : U128) :
    u128DivU128 numerator denominator =
      if denominator.toNat ≠ 0 ∧ numerator.toNat / denominator.toNat < 2 ^ 64
      then some (UInt64.ofNat (numerator.toNat / denominator.toNat)) else none := by
  unfold u128DivU128
  simp only [denominator.isZero_eq, decide_eq_true_eq]
  split
  · rename_i h
    rw [if_neg (by omega)]
  · rename_i h
    simp only [ne_eq, h, not_false_eq_true, true_and]
    exact u128DivU128Loop_eq numerator denominator (Nat.le_refl 128)
      (.start (Nat.pos_of_ne_zero h) numerator.toNat_lt) (by simp) (fun _ => rfl)

theorem shifted_word_toNat (remainder b : UInt64) (hr : remainder.toNat < 2 ^ 63)
    (hb : b.toNat < 2) : ((remainder <<< 1) ||| b).toNat = 2 * remainder.toNat + b.toNat := by
  have hleft : (remainder <<< 1).toNat = 2 * remainder.toNat := by
    rw [UInt64.toNat_shiftLeft]
    change remainder.toNat <<< 1 % 2 ^ 64 = _
    rw [Nat.shiftLeft_eq]
    omega
  rw [UInt64.toNat_or, hleft]
  exact (Nat.two_pow_add_eq_or_of_lt (i := 1) hb _).symm

theorem u128DivU64Loop_eq (dividend : U128) (hk : k ≤ 128)
    (hs : Scanned dividend.toNat divisor.toNat k q remainder.toNat)
    (hq : quotient.toNat = q * 2 ^ k) (hz : 64 ≤ k → q = 0) :
    u128DivU64Loop dividend divisor k remainder quotient =
      if dividend.toNat / divisor.toNat < 2 ^ 64 ∧
        ∀ shift ≤ k, 0 < shift → dividend.toNat / 2 ^ shift % divisor.toNat < 2 ^ 63
      then some (UInt64.ofNat (dividend.toNat / divisor.toNat)) else none := by
  induction k generalizing q remainder quotient with
  | zero =>
    have hqn : quotient.toNat = dividend.toNat / divisor.toNat := by
      rw [hq, hs.finish, pow_zero, Nat.mul_one]
    have hlt := quotient.toNat_lt
    have hnone : ∀ shift ≤ 0, 0 < shift → dividend.toNat / 2 ^ shift % divisor.toNat < 2 ^ 63 := by
      intro shift hle hpos
      omega
    rw [u128DivU64Loop, ← hqn, if_pos ⟨hlt, hnone⟩, UInt64.ofNat_toNat]
  | succ k ih =>
    have hremainder := hs.remainder
    have hhalf : (u64Max >>> 1).toNat = 2 ^ 63 - 1 := by decide
    rw [u128DivU64Loop]
    by_cases hwide : remainder > u64Max >>> 1
    · rw [if_pos hwide, if_neg]
      rintro ⟨-, hfits⟩
      have hsmall := hfits (k + 1) (Nat.le_refl _) (Nat.succ_pos k)
      rw [gt_iff_lt, UInt64.lt_iff_toNat_lt, hhalf] at hwide
      omega
    have hsmall : remainder.toNat < 2 ^ 63 := by
      rw [gt_iff_lt, UInt64.lt_iff_toNat_lt, hhalf] at hwide
      omega
    have hfits : (∀ shift ≤ k + 1, 0 < shift →
        dividend.toNat / 2 ^ shift % divisor.toNat < 2 ^ 63) ↔
        ∀ shift ≤ k, 0 < shift → dividend.toNat / 2 ^ shift % divisor.toNat < 2 ^ 63 := by
      constructor
      · intro h shift hle hpos
        exact h shift (Nat.le_succ_of_le hle) hpos
      · intro h shift hle hpos
        rcases Nat.le_succ_iff.1 hle with hle | rfl
        · exact h shift hle hpos
        · rw [hremainder]
          exact hsmall
    simp only [hfits]
    have hbit := dividend.bit_toNat (k := k) (by omega)
    have hblt : (dividend.bit k).toNat < 2 := by
      rw [hbit]
      exact Nat.mod_lt _ (by decide)
    have hsh := shifted_word_toNat remainder (dividend.bit k) hsmall hblt
    rw [if_neg hwide]
    simp only [ge_iff_le, UInt64.le_iff_toNat_le, hsh, hbit]
    by_cases hle : divisor.toNat ≤ 2 * remainder.toNat + bitAt dividend.toNat k
    · have hsub := hs.subtract hle
      rw [if_pos hle]
      split
      · rename_i h64
        apply ih (by omega) (q := 2 * q + 1)
        · rw [UInt64.toNat_sub_of_le _ _ (by rw [UInt64.le_iff_toNat_le, hsh, hbit]; exact hle), hsh,
            hbit]
          exact hsub
        · exact or_quotient_bit _ (by omega) hq
        · omega
      · rename_i h64
        -- a quotient bit at position 64 or above makes the quotient too wide
        have hbig := hsub.quotient
        have hpos : 1 ≤ dividend.toNat / divisor.toNat / 2 ^ k := by omega
        have hge := (Nat.le_div_iff_mul_le (by positivity)).1 hpos
        have hp : (2 : Nat) ^ 64 ≤ 2 ^ k := Nat.pow_le_pow_right (by decide) (by omega)
        rw [if_neg]
        rintro ⟨hlt, -⟩
        omega
    · have hkeep := hs.keep (by omega)
      rw [if_neg hle]
      apply ih (by omega) (q := 2 * q)
      · rw [hsh, hbit]
        exact hkeep
      · rw [hq, pow_succ]
        ring
      · intro h64
        rw [hz (by omega)]

theorem u128DivU64_eq_scan (dividend : U128) (divisor : UInt64) :
    u128DivU64 dividend divisor =
      if divisor.toNat ≠ 0 ∧ dividend.toNat / divisor.toNat < 2 ^ 64 ∧
        ∀ shift ≤ 128, 0 < shift → dividend.toNat / 2 ^ shift % divisor.toNat < 2 ^ 63
      then some (UInt64.ofNat (dividend.toNat / divisor.toNat)) else none := by
  unfold u128DivU64
  by_cases hzero : divisor = 0
  · rw [if_pos hzero, if_neg]
    rintro ⟨hne, -⟩
    exact hne (congrArg UInt64.toNat hzero)
  · have hne : divisor.toNat ≠ 0 := fun h => hzero (UInt64.toNat_inj.1 h)
    rw [if_neg hzero]
    simp only [ne_eq, hne, not_false_eq_true, true_and]
    exact u128DivU64Loop_eq dividend (Nat.le_refl 128)
      (.start (Nat.pos_of_ne_zero hne) dividend.toNat_lt) (by simp) (fun _ => rfl)

theorem u128DivU64_eq (dividend : U128) (hdivisor : divisor.toNat ≤ 2 ^ 63) :
    u128DivU64 dividend divisor =
      if divisor.toNat ≠ 0 ∧ dividend.toNat / divisor.toNat < 2 ^ 64
      then some (UInt64.ofNat (dividend.toNat / divisor.toNat)) else none := by
  rw [u128DivU64_eq_scan]
  by_cases hzero : divisor.toNat = 0
  · rw [if_neg (fun h => h.1 hzero), if_neg (fun h => h.1 hzero)]
  · have hfits : ∀ shift ≤ 128, 0 < shift →
        dividend.toNat / 2 ^ shift % divisor.toNat < 2 ^ 63 := by
      intro shift _ _
      have hlt := Nat.mod_lt (dividend.toNat / 2 ^ shift) (Nat.pos_of_ne_zero hzero)
      omega
    exact if_congr ⟨fun h => ⟨h.1, h.2.1⟩, fun h => ⟨h.1, h.2, hfits⟩⟩ rfl rfl

end LinkObservatory
