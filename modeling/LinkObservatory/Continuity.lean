import LinkObservatory.Rate

namespace LinkObservatory
set_option autoImplicit true

/-- The continuity state behind a sequence of samples. -/
def observeAll (samples : List CounterSample) : CounterContinuity :=
  samples.foldl (fun state sample => (observeCounter state sample).1) {}

/-- A request on the last two samples, both usable and apart by a span within the window. -/
structure DerivationRequest.Asks (request : DerivationRequest) (state : CounterContinuity) :
    Prop where
  previous : request.previous = state.previous
  current : request.current = state.latest
  hasPrevious : request.hasPrevious = state.hasPrevious
  previousUsable : request.previousUsable = true
  currentUsable : request.currentUsable = true
  span : ∃ span, difference request.current.observedAt request.previous.observedAt = some span ∧
    0 < span.nanos ∧ span.nanos ≤ request.maxWindow.nanos

theorem observeAll_concat (samples : List CounterSample) (last : CounterSample) :
    observeAll (samples ++ [last]) = (observeCounter (observeAll samples) last).1 := by
  rw [observeAll, List.foldl_append]
  rfl

theorem observeAll_latest (samples : List CounterSample) (last : CounterSample) :
    (observeAll (samples ++ [last])).latest = last ∧
      (observeAll (samples ++ [last])).hasLatest = true := by
  rw [observeAll_concat]
  exact ⟨rfl, rfl⟩

theorem wrapped_eq {baseline sample : CounterReading} (h : baseline.InRange)
    (hback : sample.raw < baseline.raw) :
    checkedAdd (counterRange baseline.width - baseline.raw + 1) sample.raw =
      some (counterRange baseline.width - baseline.raw + 1 + sample.raw) := by
  have hless := UInt64.lt_iff_toNat_lt.1 hback
  have hhead := counterHead_toNat h (Nat.zero_lt_of_lt hless)
  have hmodulus := counterModulus_le baseline.width
  have hlt := h.lt_modulus
  rw [checkedAdd_eq, hhead, if_pos (by omega)]

/-- The derivation and the tracker read the same step between two samples. -/
structure StepAgrees (result : DeltaResult) (outcome : ContinuityOutcome) : Prop where
  valid : result.valid = outcome.deltaValid
  same : result.valid = true →
    result.delta = outcome.delta ∧ result.discontinuity = outcome.discontinuity
  fits : result.fault ≠ .overflow

theorem StepAgrees.invalid {result : DeltaResult} {outcome : ContinuityOutcome}
    (hresult : result.valid = false) (houtcome : outcome.deltaValid = false)
    (hfault : result.fault ≠ .overflow) : StepAgrees result outcome := by
  refine ⟨hresult.trans houtcome.symm, ?_, hfault⟩
  intro h
  rw [hresult] at h
  cases h

theorem deltaOver_agrees {previous current : CounterSample} (span : Duration)
    (hrange : previous.reading.InRange) (hsequence : ¬current.sequence ≤ previous.sequence)
    (hgap : current.gapEpoch = previous.gapEpoch) :
    StepAgrees (deltaOver previous current span) (compareToBaseline previous current) := by
  have hclean : ¬(current.sequence ≤ previous.sequence ∨ current.gapEpoch ≠ previous.gapEpoch) := by
    rw [not_or, not_not]
    exact ⟨hsequence, hgap⟩
  have hvalid : (!decide (current.sequence ≤ previous.sequence ∨
      current.gapEpoch ≠ previous.gapEpoch)) = true := by
    rw [decide_eq_false hclean]
    rfl
  have hnone : DerivationFault.none ≠ .overflow := by decide
  have hreset' : DerivationFault.counterReset ≠ .overflow := by decide
  unfold deltaOver compareToBaseline
  by_cases hreset : current.reading.resetDeclared = true
  · rw [if_pos hreset, if_pos hreset]
    exact .invalid rfl rfl hreset'
  rw [if_neg hreset, if_neg hreset]
  by_cases hforward : current.reading.raw ≥ previous.reading.raw
  · rw [if_pos hforward, if_pos hforward]
    exact ⟨hvalid.symm, fun _ => ⟨rfl, rfl⟩, hnone⟩
  rw [if_neg hforward, if_neg hforward]
  by_cases htop : previous.reading.raw ≥ wrapDetectionThreshold previous.reading.width
  · have hwrapped := wrapped_eq hrange (UInt64.not_le.1 hforward)
    simp only [if_pos htop, hwrapped]
    exact ⟨hvalid.symm, fun _ => ⟨rfl, rfl⟩, hnone⟩
  · rw [if_neg htop, if_neg htop]
    exact .invalid rfl rfl hreset'

theorem compareToBaseline_gap {baseline sample : CounterSample}
    (h : sample.sequence ≤ baseline.sequence ∨ sample.gapEpoch ≠ baseline.gapEpoch) :
    (compareToBaseline baseline sample).deltaValid = false := by
  have hgap : (!decide (sample.sequence ≤ baseline.sequence ∨
      sample.gapEpoch ≠ baseline.gapEpoch)) = false := by
    rw [decide_eq_true h]
    rfl
  unfold compareToBaseline
  dsimp only
  split
  · rfl
  split
  · exact hgap
  split
  · split
    · exact hgap
    · rfl
  · rfl

theorem observeAll_baseline (before : List CounterSample) (baseline last : CounterSample) :
    (observeAll (before ++ [baseline] ++ [last])).previous = baseline ∧
      (observeAll (before ++ [baseline] ++ [last])).hasPrevious = true ∧
      (observeCounter (observeAll (before ++ [baseline])) last).2 =
        if !sameIdentity baseline last then
          { scopeChanged := baseline.scope ≠ last.scope
            generationChanged := baseline.generation ≠ last.generation }
        else compareToBaseline baseline last := by
  obtain ⟨hlatest, hsome⟩ := observeAll_latest before baseline
  rw [observeAll_concat (before ++ [baseline])]
  simp only [observeCounter, continuityOutcome, hsome, hlatest, ↓reduceIte, Bool.true_or,
    Bool.not_true, Bool.false_eq_true, and_self]

theorem deriveDelta_agrees {samples : List CounterSample} {last : CounterSample}
    {request : DerivationRequest} (hrange : ∀ sample ∈ samples, sample.reading.InRange)
    (hasks : request.Asks (observeAll (samples ++ [last]))) :
    StepAgrees (deriveDelta request) (observeCounter (observeAll samples) last).2 := by
  obtain ⟨hprevious, hcurrent, hhas, hpreviousUsable, hcurrentUsable, span, hspan, hpositive,
    hwindow⟩ := hasks
  rw [(observeAll_latest samples last).1] at hcurrent
  rcases List.eq_nil_or_concat' samples with rfl | ⟨before, baseline, rfl⟩
  · have hfirst : request.hasPrevious = false := hhas
    rw [deriveDelta, hfirst]
    exact .invalid rfl rfl (by intro h; cases h)
  obtain ⟨hkept, hsome, houtcome⟩ := observeAll_baseline before baseline last
  rw [hkept] at hprevious
  rw [hsome] at hhas
  rw [houtcome, deriveDelta, hhas, hpreviousUsable, hcurrentUsable, hspan, hprevious, hcurrent]
  simp only [Bool.not_true, Bool.false_eq_true, ↓reduceIte]
  cases hidentity : sameIdentity baseline last with
  | false => exact .invalid rfl rfl (by intro h; cases h)
  | true =>
    simp only [Bool.not_true, Bool.false_eq_true, ↓reduceIte]
    by_cases hgap : last.sequence ≤ baseline.sequence ∨ last.gapEpoch ≠ baseline.gapEpoch
    · rw [if_pos hgap]
      exact .invalid rfl (compareToBaseline_gap hgap) (by intro h; cases h)
    · have hforward : ¬(span.nanos < 0 ∨ span.nanos = 0) := by
        rw [not_or, Int64.not_lt]
        refine ⟨Int64.le_of_lt hpositive, ?_⟩
        intro hzero
        rw [hzero] at hpositive
        exact absurd hpositive (by decide)
      rw [if_neg hgap, if_neg hforward, if_neg (Int64.not_lt.2 hwindow)]
      rw [not_or, not_not] at hgap
      exact deltaOver_agrees span (hrange baseline (by simp)) hgap.1 hgap.2

/-- A valid derivation is between two samples of the sequence. -/
theorem DerivationRequest.Asks.samples {samples : List CounterSample} {last : CounterSample}
    {request : DerivationRequest} (hasks : request.Asks (observeAll (samples ++ [last])))
    (hvalid : (deriveDelta request).valid = true) :
    request.previous ∈ samples ∧ request.current = last := by
  refine ⟨?_, hasks.current.trans (observeAll_latest samples last).1⟩
  rcases List.eq_nil_or_concat' samples with rfl | ⟨before, baseline, rfl⟩
  · have hfirst : request.hasPrevious = false := hasks.hasPrevious
    rw [deriveDelta, hfirst] at hvalid
    cases hvalid
  · rw [hasks.previous, (observeAll_baseline before baseline last).1]
    simp

theorem counterAdvance_eq_mod {previous current : CounterReading} (hprevious : previous.InRange)
    (hcurrent : current.InRange) (hwidth : current.width = previous.width) :
    (counterAdvance previous current : Int) =
      ((current.raw.toNat : Int) - previous.raw.toNat) % counterModulus previous.width := by
  have hp := hprevious.lt_modulus
  have hc := hcurrent.lt_modulus
  rw [hwidth] at hc
  unfold counterAdvance
  split
  · rename_i hle
    rw [UInt64.le_iff_toNat_le] at hle
    rw [Nat.cast_sub hle]
    exact (Int.emod_eq_of_lt (by omega) (by omega)).symm
  · rename_i hback
    rw [UInt64.le_iff_toNat_le] at hback
    rw [Nat.cast_sub (by omega), Nat.cast_add, add_sub_right_comm, ← Int.add_emod_right]
    exact (Int.emod_eq_of_lt (by omega) (by omega)).symm

/-- What a derivation on the last two samples says about the step that the tracker has seen. -/
structure ContinuityAgreement (samples : List CounterSample) (last : CounterSample)
    (request : DerivationRequest) : Prop where
  valid : (deriveDelta request).valid = true ↔
    (observeCounter (observeAll samples) last).2.deltaValid = true
  delta : (deriveDelta request).valid = true →
    (deriveDelta request).delta = (observeCounter (observeAll samples) last).2.delta
  discontinuity : (deriveDelta request).valid = true →
    (deriveDelta request).discontinuity =
      (observeCounter (observeAll samples) last).2.discontinuity
  modulus : (deriveDelta request).valid = true →
    request.current.reading.width = request.previous.reading.width →
      ((deriveDelta request).delta.toNat : Int) =
        ((request.current.reading.raw.toNat : Int) - request.previous.reading.raw.toNat) %
          counterModulus request.previous.reading.width
  fits : (deriveDelta request).fault ≠ .overflow
  wraps : ∀ baseline ∈ samples ++ [last], ∀ sample ∈ samples ++ [last],
    sample.reading.raw < baseline.reading.raw →
      checkedAdd (counterRange baseline.reading.width - baseline.reading.raw + 1)
        sample.reading.raw ≠ none

/-- The continuity rule gives one answer, in the tracker and in the derivation, and its sum never
overflows. -/
theorem continuity_agrees {samples : List CounterSample} {last : CounterSample}
    {request : DerivationRequest}
    (hrange : ∀ sample ∈ samples ++ [last], sample.reading.InRange)
    (hasks : request.Asks (observeAll (samples ++ [last]))) :
    ContinuityAgreement samples last request := by
  have hagrees := deriveDelta_agrees
    (fun sample hmem => hrange sample (List.mem_append_left _ hmem)) hasks
  refine ⟨by rw [hagrees.valid], ?_, ?_, ?_, hagrees.fits, ?_⟩
  · intro h
    exact (hagrees.same h).1
  · intro h
    exact (hagrees.same h).2
  · intro h hwidth
    obtain ⟨hprevious, hcurrent⟩ := hasks.samples h
    have hpreviousRange := hrange _ (List.mem_append_left _ hprevious)
    have hcurrentRange := hrange last (by simp)
    rw [← hcurrent] at hcurrentRange
    obtain ⟨-, -, -, -, -, span, -, -, -, hdelta⟩ := deriveDelta_valid h
    rw [hdelta] at h ⊢
    rw [(deltaOver_valid h hpreviousRange).2.2.1]
    exact counterAdvance_eq_mod hpreviousRange hcurrentRange hwidth
  · intro baseline hbaseline sample _ hback hnone
    rw [wrapped_eq (hrange baseline hbaseline) hback] at hnone
    cases hnone

/-- A counter of 32 bits that wraps from the top of its range. -/
theorem continuity_agrees_wrap :
    ContinuityAgreement
      [{ reading := { raw := 4294967290, width := .bits32 }, observedAt := ⟨10⟩, sequence := 1 }]
      { reading := { raw := 4, width := .bits32 }, observedAt := ⟨20⟩, sequence := 2 }
      { previous :=
          { reading := { raw := 4294967290, width := .bits32 }, observedAt := ⟨10⟩, sequence := 1 }
        current := { reading := { raw := 4, width := .bits32 }, observedAt := ⟨20⟩, sequence := 2 }
        hasPrevious := true
        maxWindow := ⟨100⟩ } := by
  apply continuity_agrees
  · intro sample hmem hwidth
    rcases List.mem_cons.1 hmem with rfl | hmem
    · decide
    · rw [List.mem_singleton.1 hmem]
      decide
  · exact ⟨rfl, rfl, rfl, rfl, rfl, ⟨10⟩, by decide, by decide, by decide⟩

end LinkObservatory
