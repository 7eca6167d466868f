import LinkObservatory.Lineage
import LinkObservatory.Winner

namespace LinkObservatory
set_option autoImplicit true

open Std

/-- The number of values a counter of the width takes. -/
def counterModulus : CounterWidth → Nat
  | .bits32 => 2 ^ 32
  | .bits64 => 2 ^ 64

/-- What a counter advanced by between two readings, forward or through zero. -/
def counterAdvance (previous current : CounterReading) : Nat :=
  if previous.raw ≤ current.raw then current.raw.toNat - previous.raw.toNat
  else current.raw.toNat + counterModulus previous.width - previous.raw.toNat

/-- A reading so close to the end of its range that the next one may have wrapped. -/
def CounterReading.TopQuarter (reading : CounterReading) : Prop :=
  3 * counterModulus reading.width ≤ 4 * reading.raw.toNat

theorem topQuarter_iff (reading : CounterReading) :
    wrapDetectionThreshold reading.width ≤ reading.raw ↔ reading.TopQuarter := by
  rw [UInt64.le_iff_toNat_le, CounterReading.TopQuarter]
  cases reading.width with
  | bits32 =>
    show 3221225472 ≤ _ ↔ 3 * 2 ^ 32 ≤ _
    omega
  | bits64 =>
    show 13835058055282163712 ≤ _ ↔ 3 * 2 ^ 64 ≤ _
    omega

theorem counterRange_toNat (width : CounterWidth) :
    (counterRange width).toNat + 1 = counterModulus width := by
  cases width <;> decide

theorem counterModulus_le (width : CounterWidth) : counterModulus width ≤ 2 ^ 64 := by
  cases width <;> decide

/-- A reading that fits its declared width. -/
def CounterReading.InRange (reading : CounterReading) : Prop :=
  reading.width = .bits32 → reading.raw ≤ 0xFFFFFFFF

theorem CounterReading.InRange.lt_modulus {reading : CounterReading} (h : reading.InRange) :
    reading.raw.toNat < counterModulus reading.width := by
  cases hwidth : reading.width with
  | bits32 =>
    have hle := UInt64.le_iff_toNat_le.1 (h hwidth)
    change _ ≤ 4294967295 at hle
    show _ < 2 ^ 32
    omega
  | bits64 => exact reading.raw.toNat_lt

theorem counterHead_toNat {reading : CounterReading} (h : reading.InRange)
    (hpos : 0 < reading.raw.toNat) :
    ((counterRange reading.width - reading.raw) + 1).toNat =
      counterModulus reading.width - reading.raw.toNat := by
  have hrange := counterRange_toNat reading.width
  have hmodulus := counterModulus_le reading.width
  have hlt := h.lt_modulus
  rw [UInt64.toNat_add, UInt64.toNat_sub_of_le _ _ (UInt64.le_iff_toNat_le.2 (by omega)),
    UInt64.toNat_one, Nat.mod_eq_of_lt (by omega)]
  omega

theorem deltaOver_wrap {previous current : CounterSample}
    (hreset : current.reading.resetDeclared = false)
    (hback : ¬current.reading.raw ≥ previous.reading.raw)
    (htop : previous.reading.raw ≥ wrapDetectionThreshold previous.reading.width) :
    deltaOver previous current window =
      match checkedAdd (counterRange previous.reading.width - previous.reading.raw + 1)
        current.reading.raw with
      | none => { window, fault := .overflow }
      | some total => { window, delta := total, discontinuity := .wrap, valid := true } := by
  unfold deltaOver
  rw [hreset, if_neg Bool.false_ne_true, if_neg hback]
  exact if_pos htop

theorem deltaOver_valid {previous current : CounterSample}
    (h : (deltaOver previous current window).valid = true)
    (hrange : previous.reading.InRange) :
    current.reading.resetDeclared = false ∧
      (previous.reading.raw ≤ current.reading.raw ∨ previous.reading.TopQuarter) ∧
      (deltaOver previous current window).delta.toNat =
        counterAdvance previous.reading current.reading ∧
      (deltaOver previous current window).window = window := by
  cases hreset : current.reading.resetDeclared with
  | true =>
    rw [deltaOver, if_pos hreset] at h
    cases h
  | false =>
    refine ⟨rfl, ?_⟩
    by_cases hforward : current.reading.raw ≥ previous.reading.raw
    · have hdelta : deltaOver previous current window =
          { window, delta := current.reading.raw - previous.reading.raw, valid := true } := by
        unfold deltaOver
        rw [hreset, if_neg Bool.false_ne_true, if_pos hforward]
      rw [hdelta, counterAdvance, if_pos hforward]
      exact ⟨.inl hforward, UInt64.toNat_sub_of_le _ _ hforward, rfl⟩
    by_cases hthreshold : previous.reading.raw ≥ wrapDetectionThreshold previous.reading.width
    · rw [deltaOver_wrap hreset hforward hthreshold] at h ⊢
      refine ⟨.inr ((topQuarter_iff _).1 hthreshold), ?_⟩
      have hlt := UInt64.lt_iff_toNat_lt.1 (UInt64.not_le.1 hforward)
      have hmodulus := hrange.lt_modulus
      have hhead := counterHead_toNat hrange (Nat.lt_of_le_of_lt (Nat.zero_le _) hlt)
      rw [checkedAdd_eq, hhead] at h ⊢
      split at h
      · cases h
      · rename_i total htotal
        split at htotal
        · rename_i hroom
          cases htotal
          refine ⟨?_, rfl⟩
          rw [UInt64.toNat_add, hhead, Nat.mod_eq_of_lt hroom, counterAdvance, if_neg hforward]
          omega
        · cases htotal
    · unfold deltaOver at h
      rw [hreset, if_neg Bool.false_ne_true, if_neg hforward, if_neg hthreshold] at h
      cases h

/-- Everything a valid delta vouches for. -/
theorem deriveDelta_valid (h : (deriveDelta request).valid = true) :
    request.previousUsable = true ∧ request.currentUsable = true ∧
      sameIdentity request.previous request.current = true ∧
      request.previous.sequence < request.current.sequence ∧
      request.current.gapEpoch = request.previous.gapEpoch ∧
      ∃ span, difference request.current.observedAt request.previous.observedAt = some span ∧
        0 < span.nanos ∧ span.nanos ≤ request.maxWindow.nanos ∧
        deriveDelta request = deltaOver request.previous request.current span := by
  unfold deriveDelta at h ⊢
  split at h
  · cases h
  split at h
  · cases h
  split at h
  · cases h
  split at h
  · cases h
  split at h
  · cases h
  rename_i hhas hprevious hcurrent hidentity hsequence
  rw [not_or, UInt64.not_le, not_not] at hsequence
  split at h
  · cases h
  rename_i span hspan
  split at h
  · cases h
  split at h
  · cases h
  rename_i hpositive hwindow
  refine ⟨by simpa using hprevious, by simpa using hcurrent, by simpa using hidentity,
    hsequence.1, hsequence.2, span, hspan, ?_, Int64.not_lt.1 hwindow, ?_⟩
  · rw [not_or, Int64.not_lt] at hpositive
    exact Int64.lt_of_le_of_ne hpositive.1 (Ne.symm hpositive.2)
  · rw [if_neg hhas, if_neg hprevious, if_neg hcurrent, if_neg hidentity,
      if_neg (by rw [not_or, UInt64.not_le, not_not]; exact hsequence)]
    simp only [if_neg hpositive, if_neg hwindow]

theorem toUInt64_toNat {value : Int64} (h : 0 < value) :
    (value.toUInt64.toNat : Int) = value.toInt := by
  have hnonneg := Int64.lt_iff_toInt_lt.1 h
  rw [Int64.toInt_zero] at hnonneg
  rw [Int64.toNat_toUInt64_of_le (Int64.le_of_lt h), Int64.toNatClampNeg,
    Int.toNat_of_nonneg (by omega)]

theorem deriveFor_rate {store : EvidenceStore}
    (h : (deriveFor store facts link key source direction policy now generation hasGeneration).hasDelta
      = true) :
    ∃ continuity, store.continuity link key source = some continuity ∧
      continuity.hasPrevious = true ∧
      (deriveDelta (derivationRequest store continuity key source policy now generation
        hasGeneration)).valid = true ∧
      deriveFor store facts link key source direction policy now generation hasGeneration =
        deriveRequest (derivationRequest store continuity key source policy now generation
          hasGeneration) facts direction := by
  unfold deriveFor at h ⊢
  split at h
  · cases h
  · rename_i continuity hcontinuity
    split at h
    · cases h
    · rename_i hhas
      have hboth : continuity.hasLatest = true ∧ continuity.hasPrevious = true := by
        simpa using hhas
      refine ⟨continuity, hcontinuity, hboth.2, ?_, by rw [if_neg hhas]⟩
      unfold deriveRequest at h
      simp only at h
      by_contra hinvalid
      rw [if_pos (by simpa using hinvalid)] at h
      cases h

end LinkObservatory
