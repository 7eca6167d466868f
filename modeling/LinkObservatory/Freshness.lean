import LinkObservatory.CounterTracker

namespace LinkObservatory
set_option autoImplicit true

/-- The age of a timestamp over the integers. -/
def trueAge (now at_ : TimePoint) : Int := now.nanos.toInt - at_.nanos.toInt

/-- The worse of the two ages over the integers, clamped at zero. -/
def effectiveAge (now observedAt receivedAt : TimePoint) : Int :=
  max 0 (max (trueAge now observedAt) (trueAge now receivedAt))

/-- The documented definition of freshness over exact integers. -/
def exactFreshness (age : Int) (policy : FreshnessPolicy) : Freshness :=
  if age ≤ policy.freshWithin.nanos.toInt then .fresh
  else if age ≤ policy.usableWithin.nanos.toInt then .stale
  else .expired

/-- A timestamp whose distance from `now` the checked subtraction cannot compute. -/
def AgeLost (now at_ : TimePoint) : Prop := difference now at_ = none

instance (now at_ : TimePoint) : Decidable (AgeLost now at_) :=
  inferInstanceAs (Decidable (difference now at_ = none))

/-- No window is exceeded only by an age that the subtraction lost. -/
def AgesVisible (now observedAt receivedAt : TimePoint) (policy : FreshnessPolicy) : Prop :=
  ∀ window ∈ [policy.freshWithin, policy.usableWithin],
    (∃ at_ ∈ [observedAt, receivedAt], AgeLost now at_ ∧ window.nanos.toInt < trueAge now at_) →
      ∃ at_ ∈ [observedAt, receivedAt], ¬AgeLost now at_ ∧ window.nanos.toInt < trueAge now at_

/-- The age the code works with: a lost or negative age counts as zero. -/
def keptAge (now at_ : TimePoint) : Int := if AgeLost now at_ then 0 else max 0 (trueAge now at_)

theorem keptAge_none (h : difference now at_ = none) : keptAge now at_ = 0 := by
  simp [keptAge, AgeLost, h]

theorem keptAge_some (h : difference now at_ = some age) :
    keptAge now at_ = max 0 age.nanos.toInt := by
  simp [keptAge, AgeLost, trueAge, h, difference_some h]

theorem ageOf_toInt (now at_ : TimePoint) : (ageOf now at_).1.nanos.toInt = keptAge now at_ := by
  unfold ageOf
  cases hd : difference now at_ with
  | none =>
    rw [keptAge_none hd]
    rfl
  | some age =>
    rw [keptAge_some hd]
    simp only [Int64.lt_iff_toInt_lt, Int64.toInt_zero]
    split
    · simp only [Int64.toInt_zero]
      omega
    · simp only
      omega

theorem freshnessBand_eq (h : effective.toInt = age) (policy : FreshnessPolicy) :
    freshnessBand effective policy = exactFreshness age policy := by
  simp only [freshnessBand, exactFreshness, Int64.le_iff_toInt_le, h]

/-- Both implementations classify the larger of the two kept ages. -/
theorem classifyFreshness_eq (evidence : Evidence) (now : TimePoint) (policy : FreshnessPolicy) :
    classifyFreshness (ageEvidence evidence now) policy =
      exactFreshness (max (keptAge now evidence.observation.observedAt)
        (keptAge now evidence.observation.receivedAt)) policy := by
  unfold classifyFreshness ageEvidence
  apply freshnessBand_eq
  simp only [gt_iff_lt, Int64.lt_iff_toInt_lt, ageOf_toInt]
  split
  · rw [ageOf_toInt]
    omega
  · rw [ageOf_toInt]
    omega

theorem classifySampleFreshness_eq (sample : CounterSample) (now : TimePoint)
    (policy : FreshnessPolicy) :
    classifySampleFreshness sample now policy =
      exactFreshness (max (keptAge now sample.observedAt) (keptAge now sample.receivedAt))
        policy := by
  unfold classifySampleFreshness
  apply freshnessBand_eq
  cases ho : difference now sample.observedAt with
  | none =>
    rw [keptAge_none ho]
    cases hr : difference now sample.receivedAt with
    | none =>
      rw [keptAge_none hr]
      rfl
    | some received =>
      rw [keptAge_some hr]
      simp only [gt_iff_lt, Int64.lt_iff_toInt_lt, Int64.toInt_zero, apply_ite Int64.toInt]
      omega
  | some observed =>
    rw [keptAge_some ho]
    cases hr : difference now sample.receivedAt with
    | none =>
      rw [keptAge_none hr]
      simp only [Int64.lt_iff_toInt_lt, Int64.toInt_zero, apply_ite Int64.toInt]
      omega
    | some received =>
      rw [keptAge_some hr]
      simp only [gt_iff_lt, Int64.lt_iff_toInt_lt, Int64.toInt_zero, apply_ite Int64.toInt]
      omega

theorem exactFreshness_eq_iff {policy : FreshnessPolicy}
    (h : policy.freshWithin.nanos.toInt < policy.usableWithin.nanos.toInt) (a b : Int) :
    exactFreshness a policy = exactFreshness b policy ↔
      (a ≤ policy.freshWithin.nanos.toInt ↔ b ≤ policy.freshWithin.nanos.toInt) ∧
      (a ≤ policy.usableWithin.nanos.toInt ↔ b ≤ policy.usableWithin.nanos.toInt) := by
  unfold exactFreshness
  by_cases haf : a ≤ policy.freshWithin.nanos.toInt <;>
    by_cases hbf : b ≤ policy.freshWithin.nanos.toInt <;>
    by_cases hau : a ≤ policy.usableWithin.nanos.toInt <;>
    by_cases hbu : b ≤ policy.usableWithin.nanos.toInt <;>
    simp [haf, hbf, hau, hbu] <;> omega

theorem keptAge_window_iff (now observedAt receivedAt : TimePoint) {window : Int}
    (hw : 0 < window) :
    (max (keptAge now observedAt) (keptAge now receivedAt) ≤ window ↔
        effectiveAge now observedAt receivedAt ≤ window) ↔
      ((∃ at_ ∈ [observedAt, receivedAt], AgeLost now at_ ∧ window < trueAge now at_) →
        ∃ at_ ∈ [observedAt, receivedAt], ¬AgeLost now at_ ∧ window < trueAge now at_) := by
  simp only [effectiveAge, keptAge, List.mem_cons, List.not_mem_nil, or_false, exists_eq_or_imp,
    exists_eq_left]
  by_cases ho : AgeLost now observedAt <;> by_cases hr : AgeLost now receivedAt <;>
    simp only [ho, hr, ↓reduceIte, true_and, false_and, not_true_eq_false, not_false_eq_true,
      or_false, false_or, max_le_iff] <;>
    grind

theorem keptAge_band_iff (now observedAt receivedAt : TimePoint) (policy : FreshnessPolicy)
    (hf : 0 < policy.freshWithin.nanos)
    (hu : policy.freshWithin.nanos < policy.usableWithin.nanos) :
    exactFreshness (max (keptAge now observedAt) (keptAge now receivedAt)) policy =
        exactFreshness (effectiveAge now observedAt receivedAt) policy ↔
      AgesVisible now observedAt receivedAt policy := by
  rw [Int64.lt_iff_toInt_lt] at hf hu
  rw [Int64.toInt_zero] at hf
  rw [exactFreshness_eq_iff hu, keptAge_window_iff _ _ _ hf, keptAge_window_iff _ _ _ (by omega)]
  simp only [AgesVisible, List.mem_cons, List.not_mem_nil, or_false, forall_eq_or_imp, forall_eq]

/-- Both implementations meet the exact definition precisely where no lost age decides a band. -/
theorem classifyFreshness_exact_iff (evidence : Evidence) (sample : CounterSample)
    (now : TimePoint) (policy : FreshnessPolicy) (hf : 0 < policy.freshWithin.nanos)
    (hu : policy.freshWithin.nanos < policy.usableWithin.nanos) :
    (classifyFreshness (ageEvidence evidence now) policy =
        exactFreshness (effectiveAge now evidence.observation.observedAt
          evidence.observation.receivedAt) policy ∧
      classifySampleFreshness sample now policy =
        exactFreshness (effectiveAge now sample.observedAt sample.receivedAt) policy) ↔
      (AgesVisible now evidence.observation.observedAt evidence.observation.receivedAt policy ∧
        AgesVisible now sample.observedAt sample.receivedAt policy) := by
  rw [classifyFreshness_eq, classifySampleFreshness_eq]
  exact and_congr (keptAge_band_iff _ _ _ _ hf hu) (keptAge_band_iff _ _ _ _ hf hu)

theorem classifyFreshness_exact_at_minute :
    classifyFreshness (ageEvidence {} ⟨60000000000⟩) ⟨⟨1⟩, ⟨2⟩⟩ =
        exactFreshness (effectiveAge ⟨60000000000⟩ {} {}) ⟨⟨1⟩, ⟨2⟩⟩ ∧
      classifySampleFreshness {} ⟨60000000000⟩ ⟨⟨1⟩, ⟨2⟩⟩ =
        exactFreshness (effectiveAge ⟨60000000000⟩ {} {}) ⟨⟨1⟩, ⟨2⟩⟩ :=
  (classifyFreshness_exact_iff {} {} ⟨60000000000⟩ ⟨⟨1⟩, ⟨2⟩⟩ (by decide) (by decide)).mpr
    (by unfold AgesVisible; decide)

/-- Evidence stamped at the least instant is fresh at instant zero, 292 years later. -/
theorem classifyFreshness_exact_fails :
    ¬ ∀ (evidence : Evidence) (sample : CounterSample) (now : TimePoint) (policy : FreshnessPolicy),
      0 < policy.freshWithin.nanos → policy.freshWithin.nanos < policy.usableWithin.nanos →
      classifyFreshness (ageEvidence evidence now) policy =
        exactFreshness (effectiveAge now evidence.observation.observedAt
          evidence.observation.receivedAt) policy ∧
      classifySampleFreshness sample now policy =
        exactFreshness (effectiveAge now sample.observedAt sample.receivedAt) policy := by
  intro h
  have hmin := h { observation := { observedAt := ⟨Int64.minValue⟩, receivedAt := ⟨Int64.minValue⟩ } }
    { observedAt := ⟨Int64.minValue⟩, receivedAt := ⟨Int64.minValue⟩ } ⟨0⟩ ⟨⟨1⟩, ⟨2⟩⟩
    (by decide) (by decide)
  exact absurd hmin.1 (by decide)

end LinkObservatory
