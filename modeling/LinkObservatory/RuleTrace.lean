import LinkObservatory.Quality

namespace LinkObservatory
set_option autoImplicit true

open Std

/-- The rule stands in the trace as fired. -/
def firedIn (rules : List RuleEvaluation) (id : RuleId) : Bool :=
  rules.any fun rule => rule.rule == id && rule.fired

/-- The documented precedence, read off the trace alone. -/
def precedenceState (rules : List RuleEvaluation) : LinkState :=
  let fired := firedIn rules
  if fired .noEvidence then .unknown
  else if fired .sourceConflict then .conflicting
  else if fired .operDown || fired .adminDisabled then .down
  else if fired .flapping || fired .sourceFlapReport then .flapping
  else if fired .erroring then .erroring
  else if fired .saturatedDerived || fired .saturatedReported then .saturated
  else if fired .degradedQuality || fired .degradedDiscards || fired .degradedOperState then
    .degraded
  else if fired .unsupportedDecisive || fired .incompleteDecisive then .unknown
  else if fired .staleEvidence then .stale
  else if fired .healthy then .healthy
  else .unknown

theorem firedIn_rules (signals : Signals) (id : RuleId) :
    firedIn signals.rules id = signals.decides id := by
  rw [Bool.eq_iff_iff]
  unfold firedIn
  rw [List.any_eq_true]
  constructor
  · rintro ⟨rule, hmem, hfired⟩
    obtain ⟨hid, hfired⟩ := Bool.and_eq_true_iff.1 hfired
    rw [← eq_of_beq hid, ← Signals.mem_rules hmem]
    exact hfired
  · intro hdecides
    obtain ⟨detail, hmem⟩ := Signals.rules_listed signals id
    exact ⟨_, hmem, Bool.and_eq_true_iff.2 ⟨beq_self_eq_true id, hdecides⟩⟩

theorem precedenceState_rules (signals : Signals) :
    precedenceState signals.rules = signals.state := by
  unfold precedenceState Signals.state
  simp only [firedIn_rules, Signals.decides]
  rw [Bool.or_comm signals.saturatedDerived]

theorem evaluationOf_reported {input : ClassificationInput}
    (h : key ∈ reportedKeys input.store input.link) :
    evaluationOf input.evaluations key = some (evaluateKey input key) := by
  cases hfound : evaluationOf input.evaluations key with
  | none =>
    have hnot := List.find?_eq_none.1 hfound (evaluateKey input key)
      (List.mem_map_of_mem h)
    rw [evaluateKey_key] at hnot
    exact absurd (beq_self_eq_true key) hnot
  | some evaluation => rw [evaluationOf_some hfound]

theorem ClassificationInput.Reads.evaluation {input : ClassificationInput}
    (h : input.Reads key payload) :
    evaluationOf input.evaluations key = some (evaluateKey input key) ∧
      (evaluateKey input key).report.eligible = true ∧
      (evaluateKey input key).payload = some payload := by
  obtain ⟨winner, hwinner, -, hpayload⟩ := h
  obtain ⟨-, heligible, -, hevaluated, -⟩ := evaluateKey_some hwinner
  rw [hpayload] at hevaluated
  have hreported := reportedKeys_of_contender (selectWinner_mem hwinner).1
  exact ⟨evaluationOf_reported hreported, heligible, hevaluated⟩

/-- A winning reading is evidence, and eligible. -/
theorem ClassificationInput.Reads.any {input : ClassificationInput}
    (h : input.Reads key payload) :
    input.evaluations.any KeyEvaluation.anyEvidence = true ∧
      input.evaluations.any KeyEvaluation.anyEligible = true := by
  obtain ⟨winner, hwinner, -, -⟩ := h
  obtain ⟨hmem, heligible⟩ := selectWinner_mem hwinner
  have hevaluation : (evaluateKey input key).anyEvidence =
        !(input.store.contenders input.link key input.context).isEmpty ∧
      (evaluateKey input key).anyEligible =
        (input.store.contenders input.link key input.context).any EvaluatedEvidence.eligible := by
    unfold evaluateKey
    simp only [hwinner, and_self]
  have hlisted : evaluateKey input key ∈ input.evaluations :=
    List.mem_map_of_mem (reportedKeys_of_contender hmem)
  constructor
  · apply List.any_eq_true.2
    refine ⟨_, hlisted, ?_⟩
    rw [hevaluation.1, Bool.not_eq_true', List.isEmpty_eq_false_iff]
    exact List.ne_nil_of_mem hmem
  · apply List.any_eq_true.2
    refine ⟨_, hlisted, ?_⟩
    rw [hevaluation.2]
    exact List.any_eq_true.2 ⟨winner, hmem, heligible⟩

theorem operUp_iff (input : ClassificationInput) :
    (eligibleKey input.evaluations kOperKey && operStateOf input.evaluations == .up) = true ↔
      input.Reads kOperKey (.operState .up) := by
  constructor
  · intro h
    exact operStateOf_reads (eq_of_beq (Bool.and_eq_true_iff.1 h).2) (by decide)
  · intro h
    obtain ⟨hfound, heligible, hpayload⟩ := h.evaluation
    unfold eligibleKey operStateOf
    rw [hfound]
    simp only [Option.any_some, heligible, hpayload, if_true, Bool.true_and, beq_self_eq_true]

theorem adminDisabled_iff (input : ClassificationInput) :
    (signalsOf input input.evaluations).adminDisabled = true ↔
      input.Reads kAdminKey (.adminState .disabled) := by
  change (eligibleKey input.evaluations kAdminKey &&
    adminStateOf input.evaluations == .disabled) = true ↔ _
  constructor
  · intro h
    exact adminStateOf_reads (eq_of_beq (Bool.and_eq_true_iff.1 h).2) (by decide)
  · intro h
    obtain ⟨hfound, heligible, hpayload⟩ := h.evaluation
    unfold eligibleKey adminStateOf
    rw [hfound]
    simp only [Option.any_some, heligible, hpayload, if_true, Bool.true_and, beq_self_eq_true]

/-- Nothing but the two states themselves speaks against the link. -/
structure ClassificationInput.Untroubled (input : ClassificationInput) : Prop where
  settled : ∀ key ∈ reportedKeys input.store input.link,
    (evaluateKey input key).report.conflict ≠ .conflicting
  steady : countFlaps input < input.policy.thresholds.flapThreshold.toUInt64
  unreported : (reportedFlaps input.evaluations).1 = true →
    (reportedFlaps input.evaluations).2 < input.policy.thresholds.flapThreshold.toUInt64
  errors : ∀ ratio ∈ lastRatio .errors (ratedReports input.evaluations),
    ratio < input.policy.thresholds.errorRatioPpb
  discards : ∀ ratio ∈ lastRatio .discards (ratedReports input.evaluations),
    ratio < input.policy.thresholds.discardRatioPpb
  reported : (reportedUtilization input.evaluations).1 = true →
    (reportedUtilization input.evaluations).2 < input.policy.thresholds.saturationPpb
  derived : (derivedUtilization input.evaluations).eligible = true →
    (derivedUtilization input.evaluations).ppb < input.policy.thresholds.saturationPpb
  quality : (qualitySignal input.evaluations
    input.policy.thresholds.degradedQualityPpb).degraded = false
  decisive : decisiveFlags (ratedReports input.evaluations) = (false, false)

/-- The link is up and administratively disabled, and nothing else is the matter. -/
def ClassificationInput.DisabledWhileUp (input : ClassificationInput) : Prop :=
  input.Reads kOperKey (.operState .up) ∧ input.Reads kAdminKey (.adminState .disabled) ∧
    input.Untroubled

theorem withRatio_conflict (report : FamilyReport) (ratio : Option UInt64) :
    (report.withRatio ratio).conflict = report.conflict := by
  cases ratio <;> rfl

theorem anyConflict_eq_false (input : ClassificationInput) :
    (signalsOf input input.evaluations).anyConflict = false ↔
      ∀ key ∈ reportedKeys input.store input.link,
        (evaluateKey input key).report.conflict ≠ .conflicting := by
  change (((ratedReports input.evaluations).find? fun report =>
    report.conflict == .conflicting).map FamilyReport.key).isSome = false ↔ _
  rw [Option.isSome_map, Option.isSome_eq_false_iff, Option.isNone_iff_eq_none,
    List.find?_eq_none]
  constructor
  · intro h key hkey hconflict
    refine h ((evaluateKey input key).report.withRatio
      (ratioOf (octetBaseline input.evaluations) (evaluateKey input key))) ?_ ?_
    · exact List.mem_map_of_mem (List.mem_map_of_mem hkey)
    · rw [withRatio_conflict, hconflict]
      rfl
  · intro h report hmem hconflict
    obtain ⟨evaluation, hevaluation, rfl⟩ := List.mem_map.1 hmem
    obtain ⟨key, hkey, rfl⟩ := List.mem_map.1 hevaluation
    rw [withRatio_conflict] at hconflict
    exact h key hkey (eq_of_beq hconflict)

theorem below_iff (present : Bool) (value threshold : UInt64) :
    (present && decide (value ≥ threshold)) = false ↔ (present = true → value < threshold) := by
  rw [Bool.and_eq_false_imp, decide_eq_false_iff_not]
  simp only [ge_iff_le, UInt64.not_le]

theorem ratio_below_iff (ratio : Option UInt64) (threshold : UInt64) :
    (ratio.any fun ratio => decide (ratio ≥ threshold)) = false ↔
      ∀ held ∈ ratio, held < threshold := by
  cases ratio with
  | none => simp
  | some ratio => simp

theorem untroubled_iff (input : ClassificationInput) :
    input.Untroubled ↔
      let signals := signalsOf input input.evaluations
      signals.anyConflict = false ∧ signals.flapping = false ∧ signals.sourceFlapping = false ∧
        signals.erroring = false ∧ signals.degradedDiscards = false ∧
        signals.saturatedReported = false ∧ signals.saturatedDerived = false ∧
        signals.quality.degraded = false ∧ signals.decisiveIncomplete = false ∧
        signals.decisiveUnsupported = false := by
  have hsteady : (signalsOf input input.evaluations).flapping = false ↔
      countFlaps input < input.policy.thresholds.flapThreshold.toUInt64 :=
    decide_eq_false_iff_not.trans UInt64.not_le
  have hunreported := below_iff (reportedFlaps input.evaluations).1
    (reportedFlaps input.evaluations).2 input.policy.thresholds.flapThreshold.toUInt64
  have herrors := ratio_below_iff (lastRatio .errors (ratedReports input.evaluations))
    input.policy.thresholds.errorRatioPpb
  have hdiscards := ratio_below_iff (lastRatio .discards (ratedReports input.evaluations))
    input.policy.thresholds.discardRatioPpb
  have hreported := below_iff (reportedUtilization input.evaluations).1
    (reportedUtilization input.evaluations).2 input.policy.thresholds.saturationPpb
  have hderived := below_iff (derivedUtilization input.evaluations).eligible
    (derivedUtilization input.evaluations).ppb input.policy.thresholds.saturationPpb
  constructor
  · rintro ⟨h1, h2, h3, h4, h5, h6, h7, h8, h9⟩
    exact ⟨(anyConflict_eq_false input).2 h1, hsteady.2 h2, hunreported.2 h3, herrors.2 h4,
      hdiscards.2 h5, hreported.2 h6, hderived.2 h7, h8, congrArg Prod.fst h9,
      congrArg Prod.snd h9⟩
  · rintro ⟨h1, h2, h3, h4, h5, h6, h7, h8, h9, h10⟩
    exact ⟨(anyConflict_eq_false input).1 h1, hsteady.1 h2, hunreported.1 h3, herrors.1 h4,
      hdiscards.1 h5, hreported.1 h6, hderived.1 h7, h8, Prod.ext h9 h10⟩

theorem Signals.healthy_iff (signals : Signals) :
    signals.healthy = true ↔
      (signals.operEligible && signals.operValue == .up) = true ∧
        signals.anyConflict = false ∧ signals.flapping = false ∧ signals.sourceFlapping = false ∧
        signals.erroring = false ∧ signals.degradedDiscards = false ∧
        signals.saturatedReported = false ∧ signals.saturatedDerived = false ∧
        signals.quality.degraded = false ∧ signals.decisiveIncomplete = false ∧
        signals.decisiveUnsupported = false := by
  unfold Signals.healthy
  simp only [Bool.and_eq_true, Bool.not_eq_true', beq_iff_eq]
  constructor
  · rintro ⟨⟨⟨⟨⟨⟨⟨⟨⟨⟨⟨⟨heligible, hup⟩, h1⟩, h2⟩, h3⟩, h4⟩, h5⟩, h6⟩, -⟩, h7⟩, h8⟩, h9⟩, h10⟩
    exact ⟨⟨heligible, hup⟩, h1, h7, h8, h2, h6, h3, h4, h5, h9, h10⟩
  · rintro ⟨⟨heligible, hup⟩, h1, h7, h8, h2, h6, h3, h4, h5, h9, h10⟩
    -- a link that is up is not reported as degraded
    have hdegraded : signals.degradedOper = false := by
      unfold Signals.degradedOper
      rw [hup]
      exact Bool.and_false _
    exact ⟨⟨⟨⟨⟨⟨⟨⟨⟨⟨⟨⟨heligible, hup⟩, h1⟩, h2⟩, h3⟩, h4⟩, h5⟩, h6⟩, hdegraded⟩, h7⟩, h8⟩, h9⟩, h10⟩

theorem Signals.state_of_healthy {signals : Signals} (h : signals.healthy = true)
    (hevidence : signals.anyEvidence = true) (heligible : signals.anyEligible = true) :
    signals.state = .healthy ↔ signals.adminDisabled = false := by
  obtain ⟨hup, h1, h2, h3, h4, h5, h6, h7, h8, h9, h10⟩ := signals.healthy_iff.1 h
  have hvalue : signals.operValue = .up := eq_of_beq (Bool.and_eq_true_iff.1 hup).2
  have hdown : signals.operDown = false := by
    unfold Signals.operDown
    rw [hvalue]
    exact Bool.and_false _
  have hdegraded : signals.degradedOper = false := by
    unfold Signals.degradedOper
    rw [hvalue]
    exact Bool.and_false _
  unfold Signals.state
  simp only [Signals.noEvidence, Signals.staleEvidence, hevidence, heligible, h, h1, h2, h3, h4, h5,
    h6, h7, h8, h9, h10, hdown, hdegraded, Bool.not_true, Bool.false_eq_true, if_false,
    Bool.false_or, Bool.or_self, Bool.and_false, if_true]
  cases signals.adminDisabled with
  | true => simp
  | false => simp

theorem fires_healthy (input : ClassificationInput) :
    (classify input).Fires .healthy ↔ input.Reads kOperKey (.operState .up) ∧ input.Untroubled := by
  rw [fires_iff, untroubled_iff, ← operUp_iff]
  exact (signalsOf input input.evaluations).healthy_iff

/-- The trace and the state tell the same story, except for a link that is up, disabled and otherwise
untroubled. -/
theorem trace_agrees_iff (input : ClassificationInput) :
    ((classify input).state = precedenceState (classify input).rules ∧
      ((classify input).Fires .healthy ↔ (classify input).state = .healthy)) ↔
    ¬input.DisabledWhileUp := by
  have hstate : (classify input).state = (signalsOf input input.evaluations).state := rfl
  have htold : (classify input).state = precedenceState (classify input).rules := by
    rw [hstate, classify_rules]
    exact (precedenceState_rules _).symm
  have hback (h : (classify input).state = .healthy) : (classify input).Fires .healthy :=
    (fires_iff input .healthy).2 (Signals.state_healthy h)
  simp only [← htold, true_and]
  by_cases hfires : (classify input).Fires .healthy
  · obtain ⟨hup, huntroubled⟩ := (fires_healthy input).1 hfires
    obtain ⟨hevidence, heligible⟩ := hup.any
    rw [hstate, Signals.state_of_healthy ((fires_iff input .healthy).1 hfires) hevidence heligible,
      ← Bool.not_eq_true, adminDisabled_iff]
    unfold ClassificationInput.DisabledWhileUp
    simp only [hfires, true_iff, hup, huntroubled, true_and, and_true]
  · have hnot : ¬input.DisabledWhileUp := by
      rintro ⟨hup, -, huntroubled⟩
      exact hfires ((fires_healthy input).2 ⟨hup, huntroubled⟩)
    have hother : (classify input).state ≠ .healthy := by
      intro h
      exact hfires (hback h)
    simp only [hfires, hother, hnot, not_false_eq_true]

/-- A link reported as up and as administratively disabled. -/
def disabledRecords : List (ParsedRecord × TimePoint) :=
  operRecords .up ++
    [(.observation
      { link := ascii "l", source := ascii "s", incarnation := ascii "i", epoch := ascii "e"
        generation := ascii "g", revision := 2, key := kAdminKey
        payload := .adminState .disabled }, ⟨1⟩)]

/-- The rule of a healthy link fires for a link that is down. -/
theorem trace_disagrees :
    ¬ ∀ input : ClassificationInput,
      (classify input).state = precedenceState (classify input).rules ∧
        ((classify input).Fires .healthy ↔ (classify input).state = .healthy) := by
  intro h
  let input := (Observatory.run { policy := makeDefaultPolicy } disabledRecords).classificationInput
    (deriveLinkId (ascii "l")) ⟨2⟩
  have hdown : (classify input).state = .down := by
    decide +kernel
  have hfired : (classify input).rules.any (fun rule => rule.rule == .healthy && rule.fired) =
      true := by
    decide +kernel
  obtain ⟨rule, hmem, hrule⟩ := List.any_eq_true.1 hfired
  obtain ⟨hid, hrule⟩ := Bool.and_eq_true_iff.1 hrule
  have hhealthy := (h input).2.1 ⟨rule, hmem, eq_of_beq hid, hrule⟩
  rw [hdown] at hhealthy
  cases hhealthy

end LinkObservatory
