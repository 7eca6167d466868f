import LinkObservatory.Utilization
import LinkObservatory.Verdict

namespace LinkObservatory
set_option autoImplicit true

open Std

namespace ClassificationInput

/-- The delta derived for the winner of a counter key. -/
def deltaFor (input : ClassificationInput) (key : MetricKey) : Option Derived :=
  (selectWinner (input.store.contenders input.link key input.context)).bind fun winner =>
    let derived := input.derivedForKey key winner.source
    if isCounterFamily key.family && derived.hasDelta then some derived else none

/-- The delta of the inbound octets. -/
def octetDelta (input : ClassificationInput) : Option Derived :=
  (reportedKeys input.store input.link).findSome? fun key =>
    if key.family = .octets ∧ key.direction = .in then input.deltaFor key else none

/-- The ratio of an error or discard key to the inbound octets over the same window. -/
def ratioFor (input : ClassificationInput) (key : MetricKey) : Option UInt64 :=
  if key.family = .errors ∨ key.family = .discards then
    (input.deltaFor key).bind fun derived => input.octetDelta.bind fun octets =>
      if octets.window = derived.window then ratioPpb derived.delta octets.delta else none
  else none

/-- Some key of the family reaches the threshold, while the last key with a ratio does not. -/
def Masked (input : ClassificationInput) (family : MetricFamily) (threshold : UInt64) : Prop :=
  ∃ reaching last : MetricKey, ∃ high low : UInt64,
    reaching.family = family ∧ last.family = family ∧
    input.ratioFor reaching = some high ∧ threshold ≤ high ∧
    input.ratioFor last = some low ∧ low < threshold ∧
    ∀ key : MetricKey, key.family = family → (input.ratioFor key).isSome →
      (MetricKey.compare key last).isLE = true

end ClassificationInput

theorem evaluateKey_delta (input : ClassificationInput) (key : MetricKey) :
    (evaluateKey input key).derived.filter Derived.hasDelta = input.deltaFor key ∧
      (evaluateKey input key).report.hasRatio = false ∧
      ((evaluateKey input key).report.hasValue = false → input.deltaFor key = none) := by
  have hplain : (baseReport input key
      (input.store.contenders input.link key input.context)).hasRatio = false := by
    unfold baseReport
    cases input.store.slotView input.link key input.now <;> rfl
  unfold ClassificationInput.deltaFor
  cases hwinner : selectWinner (input.store.contenders input.link key input.context) with
  | none =>
    rw [evaluateKey_none hwinner]
    exact ⟨rfl, hplain, fun _ => rfl⟩
  | some winner =>
    unfold evaluateKey
    simp only [hwinner]
    cases isCounterFamily key.family with
    | false => exact ⟨rfl, hplain, fun _ => rfl⟩
    | true =>
      refine ⟨?_, hplain, fun hno => ?_⟩
      · show Option.filter _ (some (input.derivedForKey key winner.source)) = _
        rw [Option.filter_some, Option.bind_some, Bool.true_and]
      · cases hno

/-- The evaluations of all the keys of a link. -/
def ClassificationInput.evaluations (input : ClassificationInput) : List KeyEvaluation :=
  (reportedKeys input.store input.link).map (evaluateKey input)

theorem octetBaseline_eq (input : ClassificationInput) :
    octetBaseline input.evaluations = input.octetDelta := by
  unfold octetBaseline ClassificationInput.octetDelta ClassificationInput.evaluations
  rw [List.findSome?_map]
  congr 1
  funext key
  obtain ⟨hdelta, -, hvalue⟩ := evaluateKey_delta input key
  simp only [Function.comp_apply, evaluateKey_key, ne_eq]
  by_cases hkey : key.family = .octets ∧ key.direction = .in
  · cases hhas : (evaluateKey input key).report.hasValue with
    | false =>
      rw [if_pos (by simp), if_pos hkey]
      exact (hvalue hhas).symm
    | true =>
      rw [if_neg (by simp [hkey.1, hkey.2]), if_pos hkey]
      exact hdelta
  · rw [if_pos (by tauto), if_neg hkey]

theorem ratioOf_eq (input : ClassificationInput) (key : MetricKey) :
    ratioOf (octetBaseline input.evaluations) (evaluateKey input key) = input.ratioFor key := by
  obtain ⟨hdelta, -, -⟩ := evaluateKey_delta input key
  rw [octetBaseline_eq]
  unfold ratioOf ClassificationInput.ratioFor
  rw [evaluateKey_key]
  by_cases hfamily : key.family = .errors ∨ key.family = .discards
  · rw [if_neg (by tauto), if_pos hfamily, ← hdelta]
    cases (evaluateKey input key).derived with
    | none => rfl
    | some derived =>
      cases hhas : derived.hasDelta with
      | false => simp [Option.filter_some, hhas]
      | true =>
        simp only [hhas, Option.filter_some, Bool.not_true, Bool.false_eq_true, ↓reduceIte,
          Option.bind_some]
        cases input.octetDelta with
        | none => rfl
        | some octets => rfl
  · rw [if_pos (by tauto), if_neg hfamily]

theorem classify_reports (input : ClassificationInput) :
    (classify input).families = (reportedKeys input.store input.link).map fun key =>
      (evaluateKey input key).report.withRatio (input.ratioFor key) := by
  show ratedReports input.evaluations = _
  unfold ratedReports
  simp only [ClassificationInput.evaluations, List.map_map]
  apply List.map_congr_left
  intro key _
  exact congrArg _ (ratioOf_eq input key)

theorem withRatio_ratio (input : ClassificationInput) (key : MetricKey) :
    ((evaluateKey input key).report.withRatio (input.ratioFor key)).hasRatio =
        (input.ratioFor key).isSome ∧
      ∀ ratio, input.ratioFor key = some ratio →
        ((evaluateKey input key).report.withRatio (input.ratioFor key)).ratioPpb = ratio := by
  cases input.ratioFor key with
  | none =>
    refine ⟨(evaluateKey_delta input key).2.1, ?_⟩
    intro ratio h
    cases h
  | some value =>
    refine ⟨rfl, ?_⟩
    intro ratio h
    exact Option.some.inj h

/-- The ratios of one family. -/
def ClassificationInput.familyRatio (input : ClassificationInput) (family : MetricFamily)
    (key : MetricKey) : Option UInt64 :=
  if key.family = family then input.ratioFor key else none

theorem foldl_latest (f : α → Option β) (items : List α) (held : Option β) :
    items.foldl (fun held item => (f item).or held) held = (items.reverse.findSome? f).or held := by
  induction items generalizing held with
  | nil => rfl
  | cons item items ih =>
    rw [List.foldl_cons, ih, List.reverse_cons, List.findSome?_append, Option.or_assoc]
    simp

theorem lastRatio_eq (input : ClassificationInput) (family : MetricFamily) :
    lastRatio family (classify input).families =
      (reportedKeys input.store input.link).reverse.findSome? (input.familyRatio family) := by
  unfold lastRatio
  rw [classify_reports, List.foldl_map, ← Option.or_none (o := List.findSome? _ _),
    ← foldl_latest]
  congr 1
  funext held key
  obtain ⟨hhas, hvalue⟩ := withRatio_ratio input key
  rw [(FamilyReport.withRatio_kept _ _).1, evaluateKey_key, hhas]
  unfold ClassificationInput.familyRatio
  by_cases hfamily : key.family = family
  · rw [if_pos hfamily]
    cases hratio : input.ratioFor key with
    | none => simp
    | some ratio =>
      rw [← hratio, hvalue ratio hratio, hratio, if_pos ⟨hfamily, rfl⟩]
      rfl
  · rw [if_neg hfamily, if_neg (by tauto)]
    rfl

theorem mem_reportedKeys {input : ClassificationInput} (h : (input.ratioFor key).isSome) :
    key ∈ reportedKeys input.store input.link := by
  have hdelta : (input.deltaFor key).isSome := by
    by_contra hnone
    rw [Bool.not_eq_true, Option.isSome_eq_false_iff, Option.isNone_iff_eq_none] at hnone
    unfold ClassificationInput.ratioFor at h
    rw [hnone] at h
    simp at h
  have hwinner : (selectWinner (input.store.contenders input.link key input.context)).isSome := by
    by_contra hnone
    rw [Bool.not_eq_true, Option.isSome_eq_false_iff, Option.isNone_iff_eq_none] at hnone
    unfold ClassificationInput.deltaFor at hdelta
    rw [hnone] at hdelta
    cases hdelta
  obtain ⟨winner, hselected⟩ := Option.isSome_iff_exists.1 hwinner
  exact reportedKeys_of_contender (selectWinner_mem hselected).1

theorem lastRatio_greatest {input : ClassificationInput} {family : MetricFamily}
    (h : lastRatio family (classify input).families = some ratio) :
    ∃ last : MetricKey, last.family = family ∧ input.ratioFor last = some ratio ∧
      ∀ key : MetricKey, key.family = family → (input.ratioFor key).isSome →
        (MetricKey.compare key last).isLE = true := by
  rw [lastRatio_eq, List.findSome?_eq_some_iff] at h
  obtain ⟨later, last, earlier, hsplit, hratio, hnone⟩ := h
  have hkeys : reportedKeys input.store input.link = earlier.reverse ++ last :: later.reverse := by
    rw [← List.reverse_reverse (reportedKeys _ _), hsplit]
    simp
  have hfamily : last.family = family := by
    by_contra hne
    rw [ClassificationInput.familyRatio, if_neg hne] at hratio
    cases hratio
  rw [ClassificationInput.familyRatio, if_pos hfamily] at hratio
  refine ⟨last, hfamily, hratio, ?_⟩
  intro key hkey hrated
  have hmem := mem_reportedKeys hrated
  have hsorted := reportedKeys_sorted input.store input.link
  rw [hkeys] at hmem hsorted
  rcases List.mem_append.1 hmem with hbefore | hafter
  · exact (List.pairwise_append.1 hsorted).2.2 key hbefore last (List.mem_cons_self ..)
  · rcases List.mem_cons.1 hafter with rfl | hlater
    · have hself : MetricKey.compare key key = .eq := ReflCmp.compare_self
      rw [hself]
      rfl
    · -- no key after the last one has a ratio
      have hno := hnone key (List.mem_reverse.1 hlater)
      rw [ClassificationInput.familyRatio, if_pos hkey] at hno
      rw [hno] at hrated
      cases hrated

theorem lastRatio_isSome {input : ClassificationInput} {key : MetricKey}
    (hrated : (input.ratioFor key).isSome) :
    (lastRatio key.family (classify input).families).isSome := by
  rw [lastRatio_eq, List.findSome?_isSome_iff]
  refine ⟨key, List.mem_reverse.2 (mem_reportedKeys hrated), ?_⟩
  rw [ClassificationInput.familyRatio, if_pos rfl]
  exact hrated

/-- A report of the family that reaches the threshold. -/
def Classification.Reaches (classification : Classification) (family : MetricFamily)
    (threshold : UInt64) : Prop :=
  ∃ report ∈ classification.families, report.key.family = family ∧ report.hasRatio = true ∧
    threshold ≤ report.ratioPpb

theorem reaches_iff (input : ClassificationInput) (family : MetricFamily) (threshold : UInt64) :
    (classify input).Reaches family threshold ↔ ∃ key : MetricKey, ∃ ratio,
      key.family = family ∧ input.ratioFor key = some ratio ∧ threshold ≤ ratio := by
  unfold Classification.Reaches
  rw [classify_reports]
  constructor
  · rintro ⟨report, hmem, hfamily, hhas, hreaches⟩
    obtain ⟨key, -, rfl⟩ := List.mem_map.1 hmem
    obtain ⟨hsome, hvalue⟩ := withRatio_ratio input key
    rw [hsome] at hhas
    obtain ⟨ratio, hratio⟩ := Option.isSome_iff_exists.1 hhas
    rw [hvalue ratio hratio] at hreaches
    rw [(FamilyReport.withRatio_kept _ _).1, evaluateKey_key] at hfamily
    exact ⟨key, ratio, hfamily, hratio, hreaches⟩
  · rintro ⟨key, ratio, hfamily, hratio, hreaches⟩
    obtain ⟨hsome, hvalue⟩ := withRatio_ratio input key
    have hrated : (input.ratioFor key).isSome := by
      rw [hratio]
      rfl
    refine ⟨_, List.mem_map.2 ⟨key, mem_reportedKeys hrated, rfl⟩, ?_, ?_, ?_⟩
    · rw [(FamilyReport.withRatio_kept _ _).1, evaluateKey_key]
      exact hfamily
    · rw [hsome]
      exact hrated
    · rw [hvalue ratio hratio]
      exact hreaches

theorem lastRatio_reaches_iff (input : ClassificationInput) (family : MetricFamily)
    (threshold : UInt64) :
    ((lastRatio family (classify input).families).any (fun ratio => ratio ≥ threshold) = true ↔
        (classify input).Reaches family threshold) ↔ ¬input.Masked family threshold := by
  rw [reaches_iff, Option.any_eq_true]
  simp only [decide_eq_true_eq, ge_iff_le]
  constructor
  · rintro h ⟨reaching, last, high, low, hreaching, hlast, hhigh, hover, hlow, hunder, hgreatest⟩
    obtain ⟨ratio, hratio, hreaches⟩ := h.2 ⟨reaching, high, hreaching, hhigh, hover⟩
    obtain ⟨found, hfound, hfoundRatio, hmost⟩ := lastRatio_greatest hratio
    have hle := hgreatest found hfound (by rw [hfoundRatio]; rfl)
    have hge := hmost last hlast (by rw [hlow]; rfl)
    have hsame : found = last := LawfulEqCmp.eq_of_compare (OrientedCmp.isLE_antisymm hle hge)
    rw [hsame, hlow] at hfoundRatio
    cases hfoundRatio
    exact absurd hunder (UInt64.not_lt.2 hreaches)
  · intro hmasked
    constructor
    · rintro ⟨ratio, hratio, hreaches⟩
      obtain ⟨last, hfamily, hlast, -⟩ := lastRatio_greatest hratio
      exact ⟨last, ratio, hfamily, hlast, hreaches⟩
    · rintro ⟨key, high, hfamily, hhigh, hover⟩
      have hrated : (input.ratioFor key).isSome := by
        rw [hhigh]
        rfl
      have hsome := lastRatio_isSome hrated
      rw [hfamily] at hsome
      obtain ⟨ratio, hratio⟩ := Option.isSome_iff_exists.1 hsome
      refine ⟨ratio, hratio, ?_⟩
      by_contra hunder
      obtain ⟨last, hlast, hlastRatio, hgreatest⟩ := lastRatio_greatest hratio
      exact hmasked ⟨key, last, high, ratio, hfamily, hlast, hhigh, hover, hlastRatio,
        UInt64.not_le.1 hunder, hgreatest⟩

/-- What decides each rule. -/
def Signals.decides (signals : Signals) : RuleId → Bool
  | .noEvidence => signals.noEvidence
  | .sourceConflict => signals.anyConflict
  | .operDown => signals.operDown
  | .adminDisabled => signals.adminDisabled
  | .flapping => signals.flapping
  | .sourceFlapReport => signals.sourceFlapping
  | .erroring => signals.erroring
  | .saturatedDerived => signals.saturatedDerived
  | .saturatedReported => signals.saturatedReported
  | .degradedQuality => signals.quality.degraded
  | .degradedDiscards => signals.degradedDiscards
  | .degradedOperState => signals.degradedOper
  | .unsupportedDecisive => signals.decisiveUnsupported
  | .incompleteDecisive => signals.decisiveIncomplete
  | .staleEvidence => signals.staleEvidence
  | .healthy => signals.healthy

theorem Signals.rules_listed (signals : Signals) (id : RuleId) :
    ∃ detail, Signals.rule id (signals.decides id) detail ∈ signals.rules := by
  unfold Signals.rules
  simp only [List.mem_insertionSort]
  cases id
  all_goals
    refine Exists.intro ?_ ?_
    rotate_left
    · repeat first
        | exact List.mem_cons_self ..
        | apply List.mem_cons_of_mem

theorem Signals.mem_rules {signals : Signals} {rule : RuleEvaluation} (h : rule ∈ signals.rules) :
    rule.fired = signals.decides rule.rule := by
  unfold Signals.rules at h
  rw [List.mem_insertionSort] at h
  repeat'
    rcases List.mem_cons.1 h with rfl | h
    · rfl
  cases h

/-- The rule is among those evaluated, and it fired. -/
def Classification.Fires (classification : Classification) (id : RuleId) : Prop :=
  ∃ rule ∈ classification.rules, rule.rule = id ∧ rule.fired = true

theorem classify_rules (input : ClassificationInput) :
    (classify input).rules = (signalsOf input input.evaluations).rules := by
  unfold classify ClassificationInput.evaluations
  dsimp only

/-- A rule is evaluated once and fires when what decides it holds. -/
theorem fires_iff (input : ClassificationInput) (id : RuleId) :
    (classify input).Fires id ↔ (signalsOf input input.evaluations).decides id = true := by
  unfold Classification.Fires
  rw [classify_rules]
  constructor
  · rintro ⟨rule, hmem, rfl, hfired⟩
    rw [← Signals.mem_rules hmem]
    exact hfired
  · intro h
    obtain ⟨detail, hmem⟩ := Signals.rules_listed (signalsOf input input.evaluations) id
    exact ⟨_, hmem, rfl, h⟩

theorem fires_erroring (input : ClassificationInput) :
    (classify input).Fires .erroring ↔ (lastRatio .errors (classify input).families).any
      (fun ratio => ratio ≥ input.policy.thresholds.errorRatioPpb) = true :=
  fires_iff input .erroring

theorem fires_degradedDiscards (input : ClassificationInput) :
    (classify input).Fires .degradedDiscards ↔
      (lastRatio .discards (classify input).families).any
        (fun ratio => ratio ≥ input.policy.thresholds.discardRatioPpb) = true :=
  fires_iff input .degradedDiscards

/-- Both ratio rules fire for some report at the threshold, exactly when no such report is masked by
a later key. -/
theorem ratio_rules_iff (input : ClassificationInput) :
    (((classify input).Fires .erroring ↔
        (classify input).Reaches .errors input.policy.thresholds.errorRatioPpb) ∧
      ((classify input).Fires .degradedDiscards ↔
        (classify input).Reaches .discards input.policy.thresholds.discardRatioPpb)) ↔
    ¬input.Masked .errors input.policy.thresholds.errorRatioPpb ∧
      ¬input.Masked .discards input.policy.thresholds.discardRatioPpb := by
  rw [fires_erroring, fires_degradedDiscards, lastRatio_reaches_iff, lastRatio_reaches_iff]

/-- An error counter of the source `s` on the link `l`. -/
def errorRecord (errorClass : ErrorClass) (revision raw : UInt64) (observedAt : Int64) :
    ParsedRecord :=
  .observation
    { link := ascii "l", source := ascii "s", incarnation := ascii "i", epoch := ascii "e"
      generation := ascii "g", revision := revision, observedAt := observedAt
      receivedAt := observedAt, key := { family := .errors, direction := .in, errorClass }
      payload := .counter { raw := raw, width := .bits64 } }

/-- A thousand octets of which a hundred are in error; another error class counts none. -/
def errorRecords : List (ParsedRecord × TimePoint) :=
  [(.source { name := ascii "s", authority := .primary, provenance := .synthetic }, ⟨0⟩),
    (Observatory.ratedLink (ascii "g"), ⟨0⟩), (Observatory.octetRecord 1 0 1000, ⟨1000⟩),
    (errorRecord .crc 2 0 1000, ⟨1000⟩), (errorRecord .other 3 0 1000, ⟨1000⟩),
    (Observatory.octetRecord 4 1000 1001000, ⟨1001000⟩),
    (errorRecord .crc 5 100 1001000, ⟨1001000⟩), (errorRecord .other 6 0 1001000, ⟨1001000⟩)]

/-- The class without errors comes last and hides the one with a tenth of all octets in error. -/
theorem ratio_rules_fail :
    ¬ ∀ input : ClassificationInput,
      ((classify input).Fires .erroring ↔
        (classify input).Reaches .errors input.policy.thresholds.errorRatioPpb) ∧
      ((classify input).Fires .degradedDiscards ↔
        (classify input).Reaches .discards input.policy.thresholds.discardRatioPpb) := by
  intro h
  let input := (Observatory.run { policy := makeDefaultPolicy } errorRecords).classificationInput
    (deriveLinkId (ascii "l")) ⟨1001000⟩
  have hreaches : (classify input).families.any (fun report => report.key.family == .errors &&
      report.hasRatio && decide (input.policy.thresholds.errorRatioPpb ≤ report.ratioPpb)) =
        true := by
    decide +kernel
  have hsilent : (classify input).rules.all (fun rule => !(rule.rule == .erroring && rule.fired)) =
      true := by
    decide +kernel
  obtain ⟨report, hmem, hall⟩ := List.any_eq_true.1 hreaches
  simp only [Bool.and_eq_true, beq_iff_eq, decide_eq_true_eq] at hall
  obtain ⟨rule, hrule, hid, hfired⟩ := (h input).1.2 ⟨report, hmem, hall.1.1, hall.1.2, hall.2⟩
  have hno := List.all_eq_true.1 hsilent rule hrule
  rw [hid, hfired] at hno
  cases hno

end LinkObservatory
