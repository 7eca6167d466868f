import LinkObservatory.Rate

namespace LinkObservatory
set_option autoImplicit true

theorem checkedMul_eq (lhs rhs : UInt64) :
    checkedMul lhs rhs = if lhs.toNat * rhs.toNat < 2 ^ 64 then some (lhs * rhs) else none := by
  cases hproduct : checkedMul lhs rhs with
  | some product =>
    have hexact := checkedMul_some hproduct
    have hroom : lhs.toNat * rhs.toNat < 2 ^ 64 := by
      rw [← hexact]
      exact product.toNat_lt
    rw [if_pos hroom]
    congr 1
    apply UInt64.toNat_inj.1
    rw [UInt64.toNat_mul, hexact, Nat.mod_eq_of_lt hroom]
  | none =>
    unfold checkedMul at hproduct
    split at hproduct
    · cases hproduct
    · rename_i hzero
      split at hproduct
      · rename_i hlarge
        rw [not_or] at hzero
        have hr : 0 < rhs.toNat :=
          Nat.pos_of_ne_zero fun h => hzero.2 (UInt64.toNat_inj.1 h)
        rw [gt_iff_lt, UInt64.lt_iff_toNat_lt, UInt64.toNat_div, Nat.div_lt_iff_lt_mul hr] at hlarge
        have hmax : u64Max.toNat = 2 ^ 64 - 1 := rfl
        rw [if_neg (by omega)]
      · cases hproduct

theorem checkedMulDiv_eq (lhs rhs : UInt64) {divisor : UInt64} (hdivisor : divisor.toNat ≤ 2 ^ 63) :
    checkedMulDiv lhs rhs divisor =
      if divisor.toNat ≠ 0 ∧ lhs.toNat * rhs.toNat / divisor.toNat < 2 ^ 64
      then some (UInt64.ofNat (lhs.toNat * rhs.toNat / divisor.toNat)) else none := by
  unfold checkedMulDiv
  split
  · rename_i hzero
    rw [if_neg (by simp [hzero])]
  · rw [u128DivU64_eq _ hdivisor, u128MulU64_toNat]

/-- A delta over a window keeps the window, and one that is refused says why. -/
theorem deltaOver_spec (previous current : CounterSample) (window : Duration) :
    (deltaOver previous current window).window = window ∧
      ((deltaOver previous current window).valid = false →
        (deltaOver previous current window).fault ≠ .none) := by
  cases hreset : current.reading.resetDeclared with
  | true =>
    have hdelta : deltaOver previous current window =
        { window, discontinuity := .reset, fault := .counterReset } := by
      rw [deltaOver, if_pos hreset]
    rw [hdelta]
    refine ⟨rfl, ?_⟩
    intro _ hfault
    cases hfault
  | false =>
    by_cases hforward : current.reading.raw ≥ previous.reading.raw
    · have hdelta : deltaOver previous current window =
          { window, delta := current.reading.raw - previous.reading.raw, valid := true } := by
        unfold deltaOver
        rw [hreset, if_neg Bool.false_ne_true, if_pos hforward]
      rw [hdelta]
      refine ⟨rfl, ?_⟩
      intro hvalid
      cases hvalid
    by_cases hthreshold : previous.reading.raw ≥ wrapDetectionThreshold previous.reading.width
    · rw [deltaOver_wrap hreset hforward hthreshold]
      cases checkedAdd (counterRange previous.reading.width - previous.reading.raw + 1)
          current.reading.raw with
      | none =>
        refine ⟨rfl, ?_⟩
        intro _ hfault
        cases hfault
      | some total =>
        refine ⟨rfl, ?_⟩
        intro hvalid
        cases hvalid
    · have hdelta : deltaOver previous current window =
          { window, discontinuity := .reset, fault := .counterReset } := by
        unfold deltaOver
        rw [hreset, if_neg Bool.false_ne_true, if_neg hforward, if_neg hthreshold]
      rw [hdelta]
      refine ⟨rfl, ?_⟩
      intro _ hfault
      cases hfault

theorem deriveDelta_fault {request : DerivationRequest}
    (h : (deriveDelta request).valid = false) : (deriveDelta request).fault ≠ .none := by
  unfold deriveDelta at h ⊢
  split
  · decide
  rename_i hhas
  split
  · decide
  rename_i hprevious
  split
  · decide
  rename_i hcurrent
  split
  · decide
  rename_i hidentity
  split
  · decide
  rename_i hsequence
  rw [if_neg hhas, if_neg hprevious, if_neg hcurrent, if_neg hidentity, if_neg hsequence] at h
  cases hspan : difference request.current.observedAt request.previous.observedAt with
  | none =>
    intro hfault
    cases hfault
  | some span =>
    rw [hspan] at h
    dsimp only at h ⊢
    split
    · decide
    rename_i hpositive
    split
    · decide
    rename_i hwindow
    rw [if_neg hpositive, if_neg hwindow] at h
    exact (deltaOver_spec _ _ _).2 h

theorem deriveDelta_window {request : DerivationRequest} (h : (deriveDelta request).valid = true) :
    0 < (deriveDelta request).window.nanos := by
  obtain ⟨-, -, -, -, -, span, -, hpositive, -, hdelta⟩ := deriveDelta_valid h
  rw [hdelta, (deltaOver_spec _ _ _).1]
  exact hpositive

namespace DerivationRequest

/-- The traffic between the samples, in bits. -/
def bits (request : DerivationRequest) : Nat := (deriveDelta request).delta.toNat * 8

/-- The time between the samples. -/
def windowNs (request : DerivationRequest) : Nat := (deriveDelta request).window.nanos.toInt.toNat

def exactRate (request : DerivationRequest) : Nat := request.bits * 10 ^ 9 / request.windowNs

def exactUtilization (request : DerivationRequest) : Nat :=
  request.bits * 10 ^ 18 / (request.capacityBps.toNat * request.windowNs)

/-- There is a delta and a capacity, and the results fit into words. -/
structure Derivable (request : DerivationRequest) : Prop where
  capacity : request.capacityBps ≠ 0
  delta : (deriveDelta request).valid = true
  bits : request.bits < 2 ^ 64
  rate : request.exactRate < 2 ^ 64
  utilization : request.exactUtilization < 2 ^ 64

end DerivationRequest

/-- A utilization that is refused says why and reads zero. -/
structure DerivationResult.Refused (result : DerivationResult) : Prop where
  invalid : result.valid = false
  fault : result.fault ≠ .none
  utilization : result.utilizationPpb = 0

theorem DerivationResult.Refused.of_overflow {result : DerivationResult}
    (hinvalid : result.valid = false) (hfault : result.fault = .overflow)
    (hzero : result.utilizationPpb = 0) : result.Refused where
  invalid := hinvalid
  fault := by
    rw [hfault]
    decide
  utilization := hzero

/-- A utilization that is exact. -/
structure DerivationResult.Exact (request : DerivationRequest) (result : DerivationResult) :
    Prop where
  valid : result.valid = true
  rate : result.bitsPerSecond.toNat = request.exactRate
  utilization : result.utilizationPpb.toNat = request.exactUtilization
  window : result.window.nanos.toInt = request.windowNs
  positive : 0 < request.windowNs

theorem deriveUtilization_spec (request : DerivationRequest) :
    request.Derivable ∧ (deriveUtilization request).Exact request ∨
      ¬request.Derivable ∧ (deriveUtilization request).Refused := by
  by_cases hcapacity : request.capacityBps = 0
  · right
    refine ⟨fun h => h.capacity hcapacity, ?_⟩
    rw [deriveUtilization, if_pos hcapacity]
    exact ⟨rfl, by decide, rfl⟩
  rw [deriveUtilization, if_neg hcapacity]
  dsimp only
  cases hvalid : (deriveDelta request).valid with
  | false =>
    right
    constructor
    · intro h
      rw [h.delta] at hvalid
      cases hvalid
    · exact ⟨rfl, deriveDelta_fault hvalid, rfl⟩
  | true =>
    have hwindow := deriveDelta_window hvalid
    have hpositive := Int64.lt_iff_toInt_lt.1 hwindow
    rw [Int64.toInt_zero] at hpositive
    have hnanos : (deriveDelta request).window.nanos.toUInt64.toNat = request.windowNs := by
      have h := toUInt64_toNat hwindow
      unfold DerivationRequest.windowNs
      omega
    have hhalf : (deriveDelta request).window.nanos.toUInt64.toNat ≤ 2 ^ 63 := by
      have hlt := (deriveDelta request).window.nanos.toInt_lt
      have h := toUInt64_toNat hwindow
      omega
    have hpos : 0 < request.windowNs := by
      unfold DerivationRequest.windowNs
      omega
    have hcap : 0 < request.capacityBps.toNat :=
      Nat.pos_of_ne_zero fun h => hcapacity (UInt64.toNat_inj.1 h)
    simp only [Bool.not_true, Bool.false_eq_true, ↓reduceIte]
    have hbitsNat : (deriveDelta request).delta.toNat * (8 : UInt64).toNat = request.bits := rfl
    by_cases hbits : request.bits < 2 ^ 64
    swap
    · right
      rw [checkedMul_eq, hbitsNat, if_neg hbits]
      exact ⟨fun h => hbits h.bits, .of_overflow rfl rfl rfl⟩
    obtain ⟨bits, hchecked, hword⟩ : ∃ bits : UInt64,
        checkedMul (deriveDelta request).delta 8 = some bits ∧ bits.toNat = request.bits :=
      ⟨_, (checkedMul_eq _ _).trans (if_pos hbits), by
        rw [UInt64.toNat_mul]
        exact Nat.mod_eq_of_lt hbits⟩
    have hquotient := checkedMulDiv_eq bits 1000000000 hhalf
    rw [hword, hnanos] at hquotient
    rw [hchecked]
    dsimp only
    by_cases hrate : request.exactRate < 2 ^ 64
    swap
    · right
      rw [hquotient, if_neg fun h => hrate h.2]
      exact ⟨fun h => hrate h.rate, .of_overflow rfl rfl rfl⟩
    have hshare := u128DivU128_eq (u128MulU64 bits 1000000000000000000)
      (u128MulU64 request.capacityBps (deriveDelta request).window.nanos.toUInt64)
    rw [u128MulU64_toNat, u128MulU64_toNat, hword, hnanos] at hshare
    have hproduct : request.capacityBps.toNat * request.windowNs ≠ 0 :=
      Nat.ne_of_gt (Nat.mul_pos hcap hpos)
    have hzero : (u128MulU64 request.capacityBps
        (deriveDelta request).window.nanos.toUInt64).isZero = false := by
      rw [U128.isZero_eq, u128MulU64_toNat, hnanos]
      exact decide_eq_false hproduct
    rw [hquotient, if_pos ⟨Nat.ne_of_gt hpos, hrate⟩, hzero]
    simp only [Bool.false_eq_true, ↓reduceIte]
    by_cases hutilization : request.exactUtilization < 2 ^ 64
    · left
      rw [hshare, if_pos ⟨hproduct, hutilization⟩]
      refine ⟨⟨hcapacity, hvalid, hbits, hrate, hutilization⟩, rfl, ?_, ?_, ?_, hpos⟩
      · exact UInt64.toNat_ofNat_of_lt' hrate
      · exact UInt64.toNat_ofNat_of_lt' hutilization
      · exact (Int.toNat_of_nonneg (Int.le_of_lt hpositive)).symm
    · right
      rw [hshare, if_neg fun h => hutilization h.2]
      exact ⟨fun h => hutilization h.utilization, .of_overflow rfl rfl rfl⟩

/-- The derivation is valid exactly where everything fits; then it is exact, and otherwise it is
refused. -/
theorem deriveUtilization_valid_iff (request : DerivationRequest) :
    ((deriveUtilization request).valid = true ↔ request.Derivable) ∧
      ((deriveUtilization request).valid = true → (deriveUtilization request).Exact request) ∧
      ((deriveUtilization request).valid = false → (deriveUtilization request).Refused) := by
  rcases deriveUtilization_spec request with ⟨hderivable, hexact⟩ | ⟨hnot, hrefused⟩
  · have hvalid := hexact.valid
    refine ⟨iff_of_true hvalid hderivable, fun _ => hexact, fun h => ?_⟩
    rw [hvalid] at h
    cases h
  · have hinvalid := hrefused.invalid
    refine ⟨iff_of_false (by simp [hinvalid]) hnot, fun h => ?_, fun _ => hrefused⟩
    rw [hinvalid] at h
    cases h

theorem deriveUtilization_valid (h : (deriveUtilization request).valid = true) :
    request.capacityBps ≠ 0 ∧ (deriveDelta request).valid = true ∧
      (deriveUtilization request).utilizationPpb.toNat =
        (deriveDelta request).delta.toNat * 8 * 10 ^ 18 /
          (request.capacityBps.toNat * (deriveDelta request).window.nanos.toUInt64.toNat) := by
  obtain ⟨hderivable, hexact, -⟩ := deriveUtilization_valid_iff request
  have hshare := (hexact h).utilization
  have hwindow := toUInt64_toNat (deriveDelta_window (hderivable.1 h).delta)
  have hnanos : request.windowNs = (deriveDelta request).window.nanos.toUInt64.toNat := by
    unfold DerivationRequest.windowNs
    omega
  rw [DerivationRequest.exactUtilization, hnanos] at hshare
  exact ⟨(hderivable.1 h).capacity, (hderivable.1 h).delta, hshare⟩

theorem deriveRequest_utilization (h : (deriveRequest request facts direction).hasUtilization = true) :
    (deriveRequest request facts direction).hasDelta = true ∧
      ∃ capacity, capacityFor facts direction = some capacity ∧ capacity ≠ 0 ∧
        (deriveRequest request facts direction).utilizationPpb.toNat =
          (deriveDelta request).delta.toNat * 8 * 10 ^ 18 /
            (capacity.toNat * (deriveDelta request).window.nanos.toUInt64.toNat) := by
  unfold deriveRequest at h ⊢
  simp only at h ⊢
  split at h
  · cases h
  rename_i hvalid
  rw [if_neg hvalid]
  cases hcapacity : capacityFor facts direction with
  | none =>
    simp only [hcapacity] at h
    cases h
  | some capacity =>
    simp only [hcapacity] at h ⊢
    split at h
    · rename_i hutilization
      obtain ⟨hne, -, hexact⟩ := deriveUtilization_valid hutilization
      rw [if_pos hutilization]
      exact ⟨rfl, capacity, rfl, hne, hexact⟩
    · cases h

end LinkObservatory
