import LinkObservatory.Bounds
import LinkObservatory.Ratios
import LinkObservatory.Verdict

namespace LinkObservatory
set_option autoImplicit true

open Std

/-- The running minimum of the classifier, in which zero also stands for no reading yet. -/
def worstOf (values : List UInt64) : UInt64 :=
  values.foldl (fun worst value => if worst = 0 ∨ value < worst then value else worst) 0

theorem worstOf_append (values : List UInt64) (value : UInt64) :
    worstOf (values ++ [value]) =
      if worstOf values = 0 ∨ value < worstOf values then value else worstOf values := by
  rw [worstOf, List.foldl_append]
  rfl

theorem worstOf_append_eq_zero (values : List UInt64) (value : UInt64) :
    worstOf (values ++ [value]) = 0 ↔ value = 0 := by
  rw [worstOf_append]
  split
  · rfl
  · rename_i hkept
    rw [not_or] at hkept
    constructor
    · intro hzero
      exact absurd hzero hkept.1
    · intro hzero
      rw [hzero] at hkept
      exact absurd (UInt64.pos_iff_ne_zero.2 hkept.1) hkept.2

/-- A zero is followed by larger readings only. -/
def Overlooks (threshold : UInt64) (values : List UInt64) : Prop :=
  ∃ before after, values = before ++ 0 :: after ∧ after ≠ [] ∧ ∀ value ∈ after, threshold < value

theorem overlooks_append (threshold : UInt64) (values : List UInt64) (value : UInt64) :
    Overlooks threshold (values ++ [value]) ↔
      threshold < value ∧ (Overlooks threshold values ∨ ∃ before, values = before ++ [0]) := by
  constructor
  · rintro ⟨before, after, hsplit, hne, hlarge⟩
    obtain ⟨init, last, rfl⟩ := List.eq_nil_or_concat' after |>.resolve_left hne
    rw [← List.cons_append, ← List.append_assoc] at hsplit
    obtain ⟨hvalues, hlast⟩ := List.append_inj' hsplit rfl
    cases hlast
    refine ⟨hlarge value (List.mem_append_right _ (List.mem_singleton.2 rfl)), ?_⟩
    by_cases hinit : init = []
    · rw [hinit] at hvalues
      exact .inr ⟨before, hvalues⟩
    · refine .inl ⟨before, init, hvalues, hinit, ?_⟩
      intro other hmem
      exact hlarge other (List.mem_append_left _ hmem)
  · rintro ⟨hlarge, ⟨before, after, rfl, -, hall⟩ | ⟨before, rfl⟩⟩
    · refine ⟨before, after ++ [value], by simp, by simp, ?_⟩
      intro other hmem
      rcases List.mem_append.1 hmem with hmem | hmem
      · exact hall other hmem
      · rw [List.mem_singleton.1 hmem]
        exact hlarge
    · refine ⟨before, [value], by simp, by simp, ?_⟩
      intro other hmem
      rw [List.mem_singleton.1 hmem]
      exact hlarge

theorem worstOf_le_iff (threshold : UInt64) (values : List UInt64) (hne : values ≠ []) :
    worstOf values ≤ threshold ↔
      (∃ value ∈ values, value ≤ threshold) ∧ ¬Overlooks threshold values := by
  induction values using List.reverseRecOn with
  | nil => exact absurd rfl hne
  | append_singleton values value ih =>
    have hexists : (∃ other ∈ values ++ [value], other ≤ threshold) ↔
        (∃ other ∈ values, other ≤ threshold) ∨ value ≤ threshold := by
      simp only [List.mem_append, List.mem_singleton, or_and_right, exists_or, exists_eq_left]
    rw [hexists, overlooks_append, worstOf_append]
    by_cases hsmall : value ≤ threshold
    · -- a small last reading is always noticed
      have hnot : ¬threshold < value := UInt64.not_lt.2 hsmall
      simp only [hsmall, or_true, hnot, false_and, not_false_eq_true, and_true, iff_true]
      split
      · exact hsmall
      · rename_i hkept
        rw [not_or] at hkept
        exact UInt64.le_trans (UInt64.not_lt.1 hkept.2) hsmall
    · have hlarge : threshold < value := UInt64.not_le.1 hsmall
      simp only [hsmall, or_false, hlarge, true_and]
      rcases List.eq_nil_or_concat' values with rfl | ⟨init, last, rfl⟩
      · simp [worstOf, hsmall]
      have hlast : (∃ before, init ++ [last] = before ++ [0]) ↔ worstOf (init ++ [last]) = 0 := by
        rw [worstOf_append_eq_zero]
        constructor
        · rintro ⟨before, heq⟩
          exact (List.cons.inj (List.append_inj' heq rfl).2).1
        · rintro rfl
          exact ⟨init, rfl⟩
      rw [hlast, not_or, ← and_assoc, ← ih (by simp)]
      generalize worstOf (init ++ [last]) = worst
      split
      · rename_i hreplaced
        constructor
        · intro hle
          exact absurd hle hsmall
        · rintro ⟨hle, hnonzero⟩
          rcases hreplaced with hzero | hless
          · exact absurd hzero hnonzero
          · exact absurd (UInt64.le_trans (UInt64.le_of_lt hless) hle) hsmall
      · rename_i hkept
        rw [not_or] at hkept
        simp only [hkept.1, not_false_eq_true, and_true]

/-- The quality reading that a report rests on. -/
def qualityOf (evaluation : KeyEvaluation) : Option QualityReading :=
  if evaluation.report.key.family ≠ .signalQuality ∨ !evaluation.report.hasValue ∨
      !evaluation.report.eligible then none
  else match evaluation.payload with
    | some (.quality reading) => some reading
    | _ => none

theorem qualitySignal_degraded (evaluations : List KeyEvaluation) (threshold : UInt64) :
    (qualitySignal evaluations threshold).degraded = true ↔
      (∃ reading ∈ evaluations.filterMap qualityOf, reading.degradedDeclared = true) ∨
        (evaluations.filterMap qualityOf ≠ [] ∧
          worstOf ((evaluations.filterMap qualityOf).map QualityReading.valuePpb) ≤ threshold) := by
  let step (signal : QualitySignal) (reading : QualityReading) : QualitySignal :=
    { present := true
      worst := if signal.worst = 0 ∨ reading.valuePpb < signal.worst then reading.valuePpb
        else signal.worst
      degraded := signal.degraded || reading.degradedDeclared }
  have hfold : evaluations.foldl (fun (signal : QualitySignal) evaluation =>
      if evaluation.report.key.family ≠ .signalQuality ∨ !evaluation.report.hasValue ∨
          !evaluation.report.eligible then signal
      else match evaluation.payload with
        | some (.quality reading) =>
          { present := true
            worst := if signal.worst = 0 ∨ reading.valuePpb < signal.worst then reading.valuePpb
              else signal.worst
            degraded := signal.degraded || reading.degradedDeclared }
        | _ => signal) {} = (evaluations.filterMap qualityOf).foldl step {} := by
    rw [List.foldl_filterMap]
    congr 1
    funext signal evaluation
    unfold qualityOf
    split
    · rfl
    · split <;> rfl
  have hsignal (readings : List QualityReading) : readings.foldl step {} =
      { present := !readings.isEmpty
        worst := worstOf (readings.map QualityReading.valuePpb)
        degraded := readings.any QualityReading.degradedDeclared } := by
    induction readings using List.reverseRecOn with
    | nil => rfl
    | append_singleton readings reading ih =>
      rw [List.foldl_append, ih, List.map_append, List.map_singleton, worstOf_append,
        List.any_append]
      simp [step]
  have hfinal : qualitySignal evaluations threshold =
      { (evaluations.filterMap qualityOf).foldl step {} with
        degraded := ((evaluations.filterMap qualityOf).foldl step {}).degraded ||
          (((evaluations.filterMap qualityOf).foldl step {}).present &&
            ((evaluations.filterMap qualityOf).foldl step {}).worst ≤ threshold) } :=
    congrArg (fun signal : QualitySignal =>
      { signal with degraded := signal.degraded || (signal.present && signal.worst ≤ threshold) })
      hfold
  rw [hfinal, hsignal]
  simp only [Bool.or_eq_true, List.any_eq_true, Bool.and_eq_true, Bool.not_eq_true',
    List.isEmpty_eq_false_iff, decide_eq_true_eq]

/-- A quality reading speaks for a direction of the link. -/
def ClassificationInput.Quality (input : ClassificationInput) (key : MetricKey)
    (reading : QualityReading) : Prop :=
  key.family = .signalQuality ∧ input.Reads key (.quality reading)

theorem qualityOf_eq_some_iff (input : ClassificationInput) (key : MetricKey)
    (reading : QualityReading) :
    qualityOf (evaluateKey input key) = some reading ↔ input.Quality key reading := by
  unfold qualityOf ClassificationInput.Quality ClassificationInput.Reads
  rw [evaluateKey_key]
  cases hwinner : selectWinner (input.store.contenders input.link key input.context) with
  | none =>
    rw [evaluateKey_none hwinner]
    simp [(baseReport_plain input key _).2.1]
  | some winner =>
    obtain ⟨-, heligible, hvalue, hpayload, -⟩ := evaluateKey_some hwinner
    rw [heligible, hvalue, hpayload]
    have hspeaks := (selectWinner_mem hwinner).2
    by_cases hfamily : key.family = .signalQuality
    · simp only [hfamily, ne_eq, not_true_eq_false, Bool.not_true, Bool.false_eq_true, or_self,
        ↓reduceIte, true_and, Option.some.injEq, exists_eq_left', hspeaks]
      cases winner.evidence.observation.payload with
      | quality held => simp
      | _ => simp
    · simp [hfamily]

theorem reportedKeys_strict (store : EvidenceStore) (link : LinkId) :
    (reportedKeys store link).Pairwise fun a b => MetricKey.compare a b = .lt := by
  have hensured {keys : List MetricKey} (hkeys : keys.Nodup) (key : MetricKey) :
      (if key ∈ keys then keys else keys ++ [key]).Nodup := by
    split
    · exact hkeys
    · rename_i hnew
      rw [List.nodup_append]
      refine ⟨hkeys, List.nodup_singleton key, ?_⟩
      intro a ha b hb
      rw [List.mem_singleton.1 hb]
      rintro rfl
      exact hnew ha
  have hnodup : (reportedKeys store link).Nodup := by
    unfold reportedKeys
    rw [(List.perm_insertionSort _ _).nodup_iff]
    exact hensured (hensured (hensured (store.keysFor_nodup link) _) _) _
  apply (reportedKeys_sorted store link).imp₂ _ hnodup
  intro a b hle hne
  cases hcompare : MetricKey.compare a b with
  | lt => rfl
  | eq => exact absurd (LawfulEqCmp.eq_of_compare hcompare) hne
  | gt =>
    rw [hcompare] at hle
    cases hle

namespace ClassificationInput

/-- The quality reading of a key. -/
def qualityAt (input : ClassificationInput) (key : MetricKey) : Option QualityReading :=
  qualityOf (evaluateKey input key)

/-- The quality readings of the link, in key order. -/
def qualities (input : ClassificationInput) : List QualityReading :=
  (reportedKeys input.store input.link).filterMap input.qualityAt

theorem Quality.reported {input : ClassificationInput} (h : input.Quality key reading) :
    key ∈ reportedKeys input.store input.link := by
  obtain ⟨-, winner, hwinner, -⟩ := h
  exact reportedKeys_of_contender (selectWinner_mem hwinner).1

theorem mem_qualities {input : ClassificationInput} :
    reading ∈ input.qualities ↔ ∃ key, input.Quality key reading := by
  unfold qualities
  rw [List.mem_filterMap]
  constructor
  · rintro ⟨key, -, hreading⟩
    exact ⟨key, (qualityOf_eq_some_iff input key reading).1 hreading⟩
  · rintro ⟨key, hreading⟩
    exact ⟨key, hreading.reported, (qualityOf_eq_some_iff input key reading).2 hreading⟩

/-- A reading of zero whose later directions all read more than the threshold, none of the readings
being declared degraded. -/
def ZeroOverlooked (input : ClassificationInput) : Prop :=
  ∃ key later zero reading, input.Quality key zero ∧ zero.valuePpb = 0 ∧
    input.Quality later reading ∧ MetricKey.compare key later = .lt ∧
    (∀ other held, input.Quality other held → MetricKey.compare key other = .lt →
      input.policy.thresholds.degradedQualityPpb < held.valuePpb) ∧
    ∀ other held, input.Quality other held → held.degradedDeclared = false

/-- What comes after a key in the list is what is greater. -/
theorem reportedKeys_after {input : ClassificationInput}
    (h : reportedKeys input.store input.link = before ++ key :: after)
    (hother : input.Quality other held) :
    other ∈ after ↔ MetricKey.compare key other = .lt := by
  have hstrict := reportedKeys_strict input.store input.link
  have hmem := hother.reported
  rw [h] at hstrict hmem
  obtain ⟨-, htail, hcross⟩ := List.pairwise_append.1 hstrict
  constructor
  · intro hafter
    exact List.rel_of_pairwise_cons htail hafter
  · intro hlt
    rcases List.mem_append.1 hmem with hbefore | hrest
    · have hgt := hcross other hbefore key (List.mem_cons_self ..)
      rw [OrientedCmp.gt_of_lt hgt] at hlt
      cases hlt
    rcases List.mem_cons.1 hrest with rfl | hafter
    · have hself : MetricKey.compare other other = .eq := ReflCmp.compare_self
      rw [hself] at hlt
      cases hlt
    · exact hafter

theorem overlooks_qualities_iff (input : ClassificationInput) (threshold : UInt64) :
    Overlooks threshold (input.qualities.map QualityReading.valuePpb) ↔
      ∃ key later zero reading, input.Quality key zero ∧ zero.valuePpb = 0 ∧
        input.Quality later reading ∧ MetricKey.compare key later = .lt ∧
        ∀ other held, input.Quality other held → MetricKey.compare key other = .lt →
          threshold < held.valuePpb := by
  constructor
  · rintro ⟨before, after, hsplit, hne, hlarge⟩
    obtain ⟨earlier, rest, hreadings, -, hrest⟩ := List.map_eq_append_iff.1 hsplit
    obtain ⟨zero, later, rfl, hzero, rfl⟩ := List.map_eq_cons_iff.1 hrest
    unfold qualities at hreadings
    obtain ⟨earlierKeys, restKeys, hkeys, -, hfiltered⟩ := List.filterMap_eq_append_iff.1 hreadings
    obtain ⟨skipped, key, laterKeys, rfl, -, hkey, hlater⟩ :=
      List.filterMap_eq_cons_iff.1 hfiltered
    have hsplitKeys : reportedKeys input.store input.link =
        (earlierKeys ++ skipped) ++ key :: laterKeys := by
      rw [hkeys, List.append_assoc]
    rw [← hlater] at hne hlarge
    have hafter {other : MetricKey} {held : QualityReading} (hheld : input.Quality other held) :
        held ∈ laterKeys.filterMap input.qualityAt ↔
          ∃ other, input.Quality other held ∧ MetricKey.compare key other = .lt := by
      rw [List.mem_filterMap]
      constructor
      · rintro ⟨found, hmem, hfound⟩
        have hquality := (qualityOf_eq_some_iff input found held).1 hfound
        exact ⟨found, hquality, (reportedKeys_after hsplitKeys hquality).1 hmem⟩
      · rintro ⟨found, hquality, hlt⟩
        exact ⟨found, (reportedKeys_after hsplitKeys hquality).2 hlt,
          (qualityOf_eq_some_iff input found held).2 hquality⟩
    rw [ne_eq, List.map_eq_nil_iff, ← ne_eq] at hne
    obtain ⟨reading, hreading⟩ := List.exists_mem_of_ne_nil _ hne
    obtain ⟨found, hmem, hfound⟩ := List.mem_filterMap.1 hreading
    have hquality := (qualityOf_eq_some_iff input found reading).1 hfound
    refine ⟨key, found, zero, reading, (qualityOf_eq_some_iff input key zero).1 hkey, hzero,
      hquality, (reportedKeys_after hsplitKeys hquality).1 hmem, ?_⟩
    intro other held hheld hlt
    apply hlarge
    exact List.mem_map_of_mem ((hafter hheld).2 ⟨other, hheld, hlt⟩)
  · rintro ⟨key, later, zero, reading, hkey, hzero, hlater, hlt, hlarge⟩
    obtain ⟨before, after, hkeys⟩ := List.append_of_mem hkey.reported
    refine ⟨(before.filterMap input.qualityAt).map
        QualityReading.valuePpb, (after.filterMap input.qualityAt).map
        QualityReading.valuePpb, ?_, ?_, ?_⟩
    · unfold qualities
      have hat : input.qualityAt key = some zero := (qualityOf_eq_some_iff input key zero).2 hkey
      rw [hkeys, List.filterMap_append, List.filterMap_cons_some hat, List.map_append,
        List.map_cons, hzero]
    · rw [ne_eq, List.map_eq_nil_iff, ← ne_eq]
      apply List.ne_nil_of_mem (a := reading)
      exact List.mem_filterMap.2 ⟨later, (reportedKeys_after hkeys hlater).2 hlt,
        (qualityOf_eq_some_iff input later reading).2 hlater⟩
    · intro value hvalue
      obtain ⟨held, hheld, rfl⟩ := List.mem_map.1 hvalue
      obtain ⟨other, hmem, hother⟩ := List.mem_filterMap.1 hheld
      have hquality := (qualityOf_eq_some_iff input other held).1 hother
      exact hlarge other held hquality ((reportedKeys_after hkeys hquality).1 hmem)

/-- A quality reading that justifies the rule. -/
def PoorQuality (input : ClassificationInput) : Prop :=
  ∃ key reading, input.Quality key reading ∧
    (reading.valuePpb ≤ input.policy.thresholds.degradedQualityPpb ∨
      reading.degradedDeclared = true)

/-- Some reading is declared degraded. -/
def Declared (input : ClassificationInput) : Prop :=
  ∃ reading ∈ input.qualities, reading.degradedDeclared = true

/-- Some reading is at or under the threshold. -/
def Under (input : ClassificationInput) : Prop :=
  ∃ reading ∈ input.qualities, reading.valuePpb ≤ input.policy.thresholds.degradedQualityPpb

theorem poorQuality_iff (input : ClassificationInput) :
    input.PoorQuality ↔ input.Declared ∨ input.Under := by
  constructor
  · rintro ⟨key, reading, hquality, hsmall | hdeclared⟩
    · exact .inr ⟨reading, mem_qualities.2 ⟨key, hquality⟩, hsmall⟩
    · exact .inl ⟨reading, mem_qualities.2 ⟨key, hquality⟩, hdeclared⟩
  · rintro (⟨reading, hmem, hdeclared⟩ | ⟨reading, hmem, hsmall⟩)
    · obtain ⟨key, hquality⟩ := mem_qualities.1 hmem
      exact ⟨key, reading, hquality, .inr hdeclared⟩
    · obtain ⟨key, hquality⟩ := mem_qualities.1 hmem
      exact ⟨key, reading, hquality, .inl hsmall⟩

theorem zeroOverlooked_iff (input : ClassificationInput) :
    input.ZeroOverlooked ↔ Overlooks input.policy.thresholds.degradedQualityPpb
      (input.qualities.map QualityReading.valuePpb) ∧ ¬input.Declared := by
  rw [input.overlooks_qualities_iff]
  constructor
  · rintro ⟨key, later, zero, reading, hkey, hzero, hlater, hlt, hlarge, hnone⟩
    refine ⟨⟨key, later, zero, reading, hkey, hzero, hlater, hlt, hlarge⟩, ?_⟩
    rintro ⟨held, hmem, hdeclared⟩
    obtain ⟨other, hquality⟩ := mem_qualities.1 hmem
    rw [hnone other held hquality] at hdeclared
    cases hdeclared
  · rintro ⟨⟨key, later, zero, reading, hkey, hzero, hlater, hlt, hlarge⟩, hnone⟩
    refine ⟨key, later, zero, reading, hkey, hzero, hlater, hlt, hlarge, ?_⟩
    intro other held hquality
    by_contra hdeclared
    rw [Bool.not_eq_false] at hdeclared
    exact hnone ⟨held, mem_qualities.2 ⟨other, hquality⟩, hdeclared⟩

theorem under_of_overlooks {input : ClassificationInput}
    (h : Overlooks threshold (input.qualities.map QualityReading.valuePpb)) : input.Under := by
  obtain ⟨before, after, hsplit, -⟩ := h
  have hmem : (0 : UInt64) ∈ input.qualities.map QualityReading.valuePpb := by
    rw [hsplit]
    exact List.mem_append_right _ (List.mem_cons_self ..)
  obtain ⟨reading, hreading, hvalue⟩ := List.mem_map.1 hmem
  refine ⟨reading, hreading, ?_⟩
  rw [hvalue]
  exact UInt64.zero_le

theorem fires_degradedQuality (input : ClassificationInput) :
    (classify input).Fires .degradedQuality ↔ input.Declared ∨
      (input.Under ∧ ¬Overlooks input.policy.thresholds.degradedQualityPpb
        (input.qualities.map QualityReading.valuePpb)) := by
  have hevaluations : input.evaluations.filterMap qualityOf = input.qualities := by
    unfold evaluations qualities
    rw [List.filterMap_map]
    rfl
  have hsignal := qualitySignal_degraded input.evaluations
    input.policy.thresholds.degradedQualityPpb
  rw [hevaluations] at hsignal
  rw [fires_iff]
  refine hsignal.trans (or_congr_right ?_)
  unfold Under
  by_cases hempty : input.qualities = []
  · simp [hempty]
  · rw [worstOf_le_iff _ _ (by simpa using hempty)]
    simp [hempty]

end ClassificationInput

/-- The quality rule fires for some poor reading, exactly when no reading of zero is overlooked. -/
theorem degradedQuality_iff (input : ClassificationInput) :
    ((classify input).Fires .degradedQuality ↔ input.PoorQuality) ↔ ¬input.ZeroOverlooked := by
  have hunder : Overlooks input.policy.thresholds.degradedQualityPpb
      (input.qualities.map QualityReading.valuePpb) → input.Under :=
    ClassificationInput.under_of_overlooks
  rw [input.fires_degradedQuality, input.poorQuality_iff, input.zeroOverlooked_iff]
  generalize Overlooks input.policy.thresholds.degradedQualityPpb
    (input.qualities.map QualityReading.valuePpb) = overlooks at *
  by_cases hdeclared : input.Declared
  · simp [hdeclared]
  by_cases hoverlooks : overlooks
  · simp [hdeclared, hoverlooks, hunder hoverlooks]
  · simp [hdeclared, hoverlooks]

/-- Two directions of a link: the first one has no signal at all, the second one is fine. -/
def qualityRecords : List (ParsedRecord × TimePoint) :=
  let reading (direction : Direction) (revision ppb : UInt64) : ParsedRecord :=
    .observation
      { link := ascii "l", source := ascii "s", incarnation := ascii "i", epoch := ascii "e"
        generation := ascii "g", revision := revision
        key := { family := .signalQuality, direction := direction }
        payload := .quality { valuePpb := ppb } }
  [(.source { name := ascii "s", authority := .primary, provenance := .synthetic }, ⟨0⟩),
    (.link { name := ascii "l", generation := ascii "g" }, ⟨0⟩),
    (reading .in 1 0, ⟨1⟩), (reading .out 2 990000000, ⟨1⟩)]

/-- The direction without a signal comes first, and the later one replaces its zero. -/
theorem degradedQuality_fails :
    ¬ ∀ input : ClassificationInput,
      (classify input).Fires .degradedQuality ↔ input.PoorQuality := by
  intro h
  let input := (Observatory.run { policy := makeDefaultPolicy } qualityRecords).classificationInput
    (deriveLinkId (ascii "l")) ⟨2⟩
  have hzero : input.qualities.any (fun reading => decide (reading.valuePpb = 0)) = true := by
    decide +kernel
  have hsilent : (classify input).rules.all
      (fun rule => !(rule.rule == .degradedQuality && rule.fired)) = true := by
    decide +kernel
  obtain ⟨reading, hmem, hvalue⟩ := List.any_eq_true.1 hzero
  obtain ⟨key, hquality⟩ := ClassificationInput.mem_qualities.1 hmem
  have hpoor : reading.valuePpb ≤ input.policy.thresholds.degradedQualityPpb := by
    rw [of_decide_eq_true hvalue]
    exact UInt64.zero_le
  obtain ⟨rule, hrule, hid, hfired⟩ := (h input).2 ⟨key, reading, hquality, .inl hpoor⟩
  have hno := List.all_eq_true.1 hsilent rule hrule
  rw [hid, hfired] at hno
  cases hno

end LinkObservatory
