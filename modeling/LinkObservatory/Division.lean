import LinkObservatory.CounterTracker
import LinkObservatory.WideArithmetic

namespace LinkObservatory
set_option autoImplicit true

/-- The quotient rounded down, where it is one and fits into a word. -/
def floorQuotient (dividend divisor : Nat) : Option UInt64 :=
  if divisor ≠ 0 ∧ dividend / divisor < 2 ^ 64 then some (UInt64.ofNat (dividend / divisor))
  else none

/-- There is no quotient, or no prefix of the dividend leaves a remainder of more than 63 bits. -/
def DivisionFits (dividend divisor : Nat) : Prop :=
  divisor = 0 ∨ 2 ^ 64 ≤ dividend / divisor ∨
    ∀ shift > 0, dividend / 2 ^ shift % divisor < 2 ^ 63

theorem DivisionFits.of_le (dividend : Nat) (h : divisor ≤ 2 ^ 63) :
    DivisionFits dividend divisor := by
  rcases Nat.eq_zero_or_pos divisor with hzero | hpos
  · exact .inl hzero
  · refine .inr (.inr ?_)
    intro shift _
    exact (Nat.mod_lt _ hpos).trans_le h

theorem remainders_fit_iff (dividend : U128) (divisor : Nat) :
    (∀ shift ≤ 128, 0 < shift → dividend.toNat / 2 ^ shift % divisor < 2 ^ 63) ↔
      ∀ shift > 0, dividend.toNat / 2 ^ shift % divisor < 2 ^ 63 := by
  constructor
  · intro h shift hpos
    by_cases hle : shift ≤ 128
    · exact h shift hle hpos
    · -- nothing of the dividend is left
      have hpow : (2 : Nat) ^ 128 ≤ 2 ^ shift := Nat.pow_le_pow_right (by decide) (by omega)
      rw [Nat.div_eq_of_lt (dividend.toNat_lt.trans_le hpow), Nat.zero_mod]
      decide
  · intro h shift _ hpos
    exact h shift hpos

theorem u128DivU64_exact_iff (dividend : U128) (divisor : UInt64) :
    u128DivU64 dividend divisor = floorQuotient dividend.toNat divisor.toNat ↔
      DivisionFits dividend.toNat divisor.toNat := by
  have hscan := u128DivU64_eq_scan dividend divisor
  rw [hscan, floorQuotient, DivisionFits, ← remainders_fit_iff]
  by_cases hzero : divisor.toNat = 0
  · simp [hzero]
  by_cases hwide : dividend.toNat / divisor.toNat < 2 ^ 64
  · rw [if_pos (c := divisor.toNat ≠ 0 ∧ _) ⟨hzero, hwide⟩]
    constructor
    · intro h
      by_contra hno
      rw [not_or, not_or] at hno
      rw [if_neg (fun hall => hno.2.2 hall.2.2)] at h
      cases h
    · intro h
      have hfits := (h.resolve_left hzero).resolve_left (Nat.not_le.2 hwide)
      exact if_pos ⟨hzero, hwide, hfits⟩
  · rw [if_neg (fun h => hwide h.2.1), if_neg (fun h => hwide h.2)]
    exact ⟨fun _ => .inr (.inl (Nat.le_of_not_lt hwide)), fun _ => rfl⟩

theorem checkedMulDiv_exact_iff (lhs rhs divisor : UInt64) :
    checkedMulDiv lhs rhs divisor = floorQuotient (lhs.toNat * rhs.toNat) divisor.toNat ↔
      DivisionFits (lhs.toNat * rhs.toNat) divisor.toNat := by
  rw [checkedMulDiv]
  split
  · rename_i hzero
    subst hzero
    exact ⟨fun _ => .inl rfl, fun _ => rfl⟩
  · rw [← u128MulU64_toNat]
    exact u128DivU64_exact_iff _ _

theorem ratioPpb_exact_iff (numerator denominator : UInt64) :
    ratioPpb numerator denominator =
        floorQuotient (numerator.toNat * 10 ^ 9) denominator.toNat ↔
      DivisionFits (numerator.toNat * 10 ^ 9) denominator.toNat := by
  have hbillion : (1000000000 : UInt64).toNat = 10 ^ 9 := rfl
  rw [ratioPpb]
  split
  · rename_i hzero
    subst hzero
    exact ⟨fun _ => .inl rfl, fun _ => rfl⟩
  rename_i hne
  split
  · rename_i hzero
    subst hzero
    have hpos : denominator.toNat ≠ 0 := fun h => hne (UInt64.toNat_inj.1 h)
    rw [UInt64.toNat_zero, Nat.zero_mul, floorQuotient, Nat.zero_div,
      if_pos ⟨hpos, by decide⟩]
    refine ⟨fun _ => .inr (.inr ?_), fun _ => rfl⟩
    intro shift _
    rw [Nat.zero_div, Nat.zero_mod]
    decide
  · rw [← hbillion, ← u128MulU64_toNat]
    exact u128DivU64_exact_iff _ _

/-- Where the scan outgrows its word the ratio is given up. -/
theorem ratioPpb_none {numerator denominator : UInt64}
    (h : ¬DivisionFits (numerator.toNat * 10 ^ 9) denominator.toNat) :
    ratioPpb numerator denominator = none := by
  have hproduct : (u128MulU64 numerator 1000000000).toNat = numerator.toNat * 10 ^ 9 :=
    u128MulU64_toNat _ _
  have hinexact := mt (ratioPpb_exact_iff numerator denominator).1 h
  rw [ratioPpb] at hinexact ⊢
  split
  · rfl
  rename_i hne
  rw [if_neg hne] at hinexact
  split
  · rename_i hzero
    subst hzero
    refine absurd (.inr (.inr fun shift _ => ?_)) h
    rw [UInt64.toNat_zero, Nat.zero_mul, Nat.zero_div, Nat.zero_mod]
    decide
  · rename_i hsome
    rw [if_neg hsome, u128DivU64_eq_scan] at hinexact
    rw [u128DivU64_eq_scan]
    split
    · rename_i hall
      rw [if_pos hall, hproduct] at hinexact
      rw [hproduct] at hall
      exact absurd (if_pos ⟨hall.1, hall.2.1⟩).symm hinexact
    · rfl

/-- Division by a word, the scaled product and the ratio in parts per billion give the rounded
quotient, and fail where there is none, exactly where no remainder outgrows the scan. -/
theorem division_exact_iff (dividend : U128)
    (lhs rhs numerator denominator divisor : UInt64) :
    (u128DivU64 dividend divisor = floorQuotient dividend.toNat divisor.toNat ↔
        DivisionFits dividend.toNat divisor.toNat) ∧
      (checkedMulDiv lhs rhs divisor = floorQuotient (lhs.toNat * rhs.toNat) divisor.toNat ↔
        DivisionFits (lhs.toNat * rhs.toNat) divisor.toNat) ∧
      (ratioPpb numerator denominator =
          floorQuotient (numerator.toNat * 10 ^ 9) denominator.toNat ↔
        DivisionFits (numerator.toNat * 10 ^ 9) denominator.toNat) :=
  ⟨u128DivU64_exact_iff dividend divisor, checkedMulDiv_exact_iff lhs rhs divisor,
    ratioPpb_exact_iff numerator denominator⟩

/-- A ratio of one whose parts are as large as they get is refused. -/
theorem division_exact_fails :
    (¬∀ dividend divisor,
      u128DivU64 dividend divisor = floorQuotient dividend.toNat divisor.toNat) ∧
    (¬∀ lhs rhs divisor, checkedMulDiv lhs rhs divisor =
      floorQuotient (lhs.toNat * rhs.toNat) divisor.toNat) ∧
    ¬∀ numerator denominator, ratioPpb numerator denominator =
      floorQuotient (numerator.toNat * 10 ^ 9) denominator.toNat := by
  refine ⟨fun h => ?_, fun h => ?_, fun h => ?_⟩
  · exact absurd (h { hi := 0x8000000000000000 } u64Max) (by decide +kernel)
  · exact absurd (h u64Max 1000000000 u64Max) (by decide +kernel)
  · exact absurd (h u64Max u64Max) (by decide +kernel)

/-- The product of two words and the quotient of two 128-bit values are exact; there is no quotient
where the denominator is zero or the quotient outgrows a word. -/
theorem wide_exact (lhs rhs : UInt64) (numerator denominator : U128) :
    (u128MulU64 lhs rhs).toNat = lhs.toNat * rhs.toNat ∧
      u128DivU128 numerator denominator = floorQuotient numerator.toNat denominator.toNat :=
  ⟨u128MulU64_toNat lhs rhs, u128DivU128_eq numerator denominator⟩

end LinkObservatory
