import LinkObservatory.Contenders
import LinkObservatory.Freshness
import LinkObservatory.RoundTrip

namespace LinkObservatory
set_option autoImplicit true

open Std Selection

/-- The distance of an instant from a timestamp fits into a signed word. -/
def Representable (now at_ : TimePoint) : Prop :=
  -2 ^ 63 ≤ trueAge now at_ ∧ trueAge now at_ < 2 ^ 63

instance (now at_ : TimePoint) : Decidable (Representable now at_) :=
  inferInstanceAs (Decidable (_ ∧ _))

/-- Both ages of an item of evidence are representable. -/
def Evidence.Ageable (evidence : Evidence) (now : TimePoint) : Prop :=
  Representable now evidence.observation.observedAt ∧
    Representable now evidence.observation.receivedAt

instance (evidence : Evidence) (now : TimePoint) : Decidable (evidence.Ageable now) :=
  inferInstanceAs (Decidable (_ ∧ _))

theorem ageLost_iff (h : Representable now at_) : AgeLost now at_ ↔ at_.nanos = Int64.minValue := by
  obtain ⟨hlow, hhigh⟩ := h
  unfold trueAge at hlow hhigh
  rw [AgeLost, difference_eq_none]
  constructor
  · rintro (hmin | hbelow | habove)
    · exact hmin
    · omega
    · omega
  · exact .inl

theorem keptAge_mono (hnow : Representable now at_) (hafter : Representable after at_)
    (h : now.nanos ≤ after.nanos) : keptAge now at_ ≤ keptAge after at_ := by
  have hint := Int64.le_iff_toInt_le.1 h
  unfold keptAge
  simp only [ageLost_iff hnow, ageLost_iff hafter]
  split
  · exact Int.le_refl _
  · unfold trueAge
    omega

theorem exactFreshness_antitone {age older : Int} (h : age ≤ older) (policy : FreshnessPolicy) :
    (exactFreshness older policy).rank ≤ (exactFreshness age policy).rank := by
  unfold exactFreshness
  by_cases hfresh : older ≤ policy.freshWithin.nanos.toInt
  · rw [if_pos hfresh, if_pos (h.trans hfresh)]
  by_cases hstale : older ≤ policy.usableWithin.nanos.toInt
  · rw [if_neg hfresh, if_pos hstale, if_pos (h.trans hstale)]
    split
    · exact Nat.le_succ 2
    · exact Nat.le_refl 2
  · rw [if_neg hfresh, if_neg hstale]
    split
    · decide
    split
    · decide
    · exact Nat.le_refl 1

theorem classifyFreshness_antitone {evidence : Evidence} (hnow : evidence.Ageable now)
    (hafter : evidence.Ageable after) (h : now.nanos ≤ after.nanos) (policy : FreshnessPolicy) :
    (classifyFreshness (ageEvidence evidence after) policy).rank ≤
      (classifyFreshness (ageEvidence evidence now) policy).rank := by
  rw [classifyFreshness_eq, classifyFreshness_eq]
  apply exactFreshness_antitone
  exact max_le_max (keptAge_mono hnow.1 hafter.1 h) (keptAge_mono hnow.2 hafter.2 h)

theorem Freshness.eq_fresh_iff (freshness : Freshness) :
    freshness = .fresh ↔ 3 ≤ freshness.rank := by
  cases freshness <;> decide

theorem rank_strongest (lhs rhs : Freshness) :
    (strongest lhs rhs).rank = max lhs.rank rhs.rank := by
  unfold strongest
  split
  · rw [Nat.max_eq_left (by assumption)]
  · rw [Nat.max_eq_right (by omega)]

theorem foldl_strongest_le {items : List α} {late early : α → Freshness}
    (h : ∀ item ∈ items, (late item).rank ≤ (early item).rank) (hbest : best.rank ≤ best'.rank) :
    (items.foldl (fun best item => strongest best (late item)) best).rank ≤
      (items.foldl (fun best item => strongest best (early item)) best').rank := by
  induction items generalizing best best' with
  | nil => exact hbest
  | cons item items ih =>
    rw [List.foldl_cons, List.foldl_cons]
    apply ih (fun other hmem => h other (List.mem_cons_of_mem _ hmem))
    rw [rank_strongest, rank_strongest]
    exact max_le_max hbest (h item (List.mem_cons_self ..))

namespace EvidenceStore

/-- The evidence that contends for a slot, at any instant. -/
def contending (store : EvidenceStore) (link : LinkId) (key : MetricKey) : List Evidence :=
  match store.slots[SlotKey.mk link key]? with
  | none => []
  | some slot =>
    (firstOfEach Evidence.source slot.history.reverse).take
      (max 1 store.policy.limits.maxContendersPerKey.toNat)

theorem contenders_contending (store : EvidenceStore) (link : LinkId) (key : MetricKey)
    (context : EvaluationContext) :
    store.contenders link key context =
      (store.contending link key).map (store.evaluateEvidence link key context) := by
  unfold contending
  cases hslot : store.slots[SlotKey.mk link key]? with
  | none =>
    unfold contenders
    rw [hslot]
    rfl
  | some slot => exact contenders_eq hslot context

/-- Every retained item of a link can be aged at an instant. -/
def Ageable (store : EvidenceStore) (link : LinkId) (now : TimePoint) : Prop :=
  ∀ key slot, store.slots[SlotKey.mk link key]? = some slot →
    ∀ evidence ∈ slot.history, evidence.Ageable now

theorem Ageable.contending {store : EvidenceStore} (h : store.Ageable link now)
    (hmem : evidence ∈ store.contending link key) : evidence.Ageable now := by
  unfold EvidenceStore.contending at hmem
  cases hslot : store.slots[SlotKey.mk link key]? with
  | none =>
    rw [hslot] at hmem
    cases hmem
  | some slot =>
    rw [hslot] at hmem
    have hfirst := mem_of_mem_firstOfEach Evidence.source (List.mem_of_mem_take hmem)
    exact h key slot hslot evidence (List.mem_reverse.1 hfirst)

end EvidenceStore

theorem evaluateKey_freshness (input : ClassificationInput) (key : MetricKey) :
    (evaluateKey input key).report.freshness =
      (input.store.contenders input.link key input.context).foldl
        (fun best candidate => strongest best candidate.freshness) .unknown := by
  have hbase (contenders : List EvaluatedEvidence) :
      (baseReport input key contenders).freshness = contenders.foldl
        (fun best candidate => strongest best candidate.freshness) .unknown := by
    unfold baseReport
    cases input.store.slotView input.link key input.now <;> rfl
  cases hwinner : selectWinner (input.store.contenders input.link key input.context) with
  | none =>
    rw [evaluateKey_none hwinner]
    exact hbase _
  | some winner =>
    unfold evaluateKey
    simp only [hwinner]
    cases isCounterFamily key.family with
    | true => exact hbase _
    | false => exact hbase _

theorem evaluateKey_any (input : ClassificationInput) (key : MetricKey) :
    (evaluateKey input key).anyEvidence =
        !(input.store.contenders input.link key input.context).isEmpty ∧
      (evaluateKey input key).anyEligible =
        (input.store.contenders input.link key input.context).any EvaluatedEvidence.eligible := by
  cases hwinner : selectWinner (input.store.contenders input.link key input.context) with
  | none =>
    rw [evaluateKey_none hwinner]
    exact ⟨rfl, rfl⟩
  | some winner =>
    unfold evaluateKey
    simp only [hwinner, and_self]

namespace ClassificationInput

/-- The same question asked at another instant. -/
def asOf (input : ClassificationInput) (instant : TimePoint) : ClassificationInput :=
  { input with now := instant }

/-- The evidence of the link can be aged at both instants, and the second is not before the
first. -/
structure Ages (input : ClassificationInput) (later : TimePoint) : Prop where
  order : input.now.nanos ≤ later.nanos
  before : input.store.Ageable input.link input.now
  after : input.store.Ageable input.link later

variable {input : ClassificationInput}

theorem Ages.freshness (h : input.Ages later)
    (hmem : evidence ∈ input.store.contending input.link key)
    (policy : FreshnessPolicy) :
    (classifyFreshness (ageEvidence evidence later) policy).rank ≤
      (classifyFreshness (ageEvidence evidence input.now) policy).rank :=
  classifyFreshness_antitone (h.before.contending hmem) (h.after.contending hmem) h.order policy

/-- What is eligible later was eligible before. -/
theorem Ages.eligible (h : input.Ages later)
    (hmem : evidence ∈ input.store.contending input.link key)
    (heligible : (input.store.evaluateEvidence input.link key (input.asOf later).context
      evidence).eligible = true) :
    (input.store.evaluateEvidence input.link key input.context evidence).eligible = true := by
  have hrank := h.freshness hmem (freshnessPolicyFor input.store.policy key.family)
  simp only [EvidenceStore.evaluateEvidence, Bool.and_eq_true, beq_iff_eq,
    Freshness.eq_fresh_iff] at heligible ⊢
  exact ⟨⟨heligible.1.1.trans hrank, heligible.1.2⟩, heligible.2⟩

theorem Ages.report (h : input.Ages later) (key : MetricKey) :
    (evaluateKey (input.asOf later) key).report.freshness.rank ≤
      (evaluateKey input key).report.freshness.rank := by
  rw [evaluateKey_freshness, evaluateKey_freshness, EvidenceStore.contenders_contending,
    EvidenceStore.contenders_contending, List.foldl_map, List.foldl_map]
  apply foldl_strongest_le _ (Nat.le_refl _)
  intro evidence hmem
  exact h.freshness hmem _

theorem Ages.anyEligible (h : input.Ages later) (key : MetricKey)
    (heligible : (evaluateKey (input.asOf later) key).anyEligible = true) :
    (evaluateKey input key).anyEligible = true := by
  rw [(evaluateKey_any _ key).2, EvidenceStore.contenders_contending, List.any_map,
    List.any_eq_true] at heligible ⊢
  obtain ⟨evidence, hmem, helig⟩ := heligible
  exact ⟨evidence, hmem, h.eligible hmem helig⟩

theorem anyEvidence_asOf (input : ClassificationInput) (later : TimePoint) (key : MetricKey) :
    (evaluateKey (input.asOf later) key).anyEvidence = (evaluateKey input key).anyEvidence := by
  rw [(evaluateKey_any _ key).1, (evaluateKey_any _ key).1, EvidenceStore.contenders_contending,
    EvidenceStore.contenders_contending, List.isEmpty_map, List.isEmpty_map]
  rfl

end ClassificationInput

theorem linkFreshness_spec (reports : List FamilyReport) :
    (∀ report ∈ reports, report.freshness.rank ≤ (linkFreshness reports).rank) ∧
      (linkFreshness reports = .unknown ∨
        ∃ report ∈ reports, linkFreshness reports = report.freshness) := by
  unfold linkFreshness
  split
  · rename_i hfresh
    obtain ⟨report, hmem, heq⟩ := List.any_eq_true.1 hfresh
    refine ⟨fun other _ => ?_, .inr ⟨report, hmem, (eq_of_beq heq).symm⟩⟩
    cases other.freshness <;> decide
  rename_i hfresh
  have hnofresh : ∀ report ∈ reports, report.freshness ≠ .fresh := by simpa using hfresh
  split
  · rename_i hstale
    obtain ⟨report, hmem, heq⟩ := List.any_eq_true.1 hstale
    refine ⟨fun other hother => ?_, .inr ⟨report, hmem, (eq_of_beq heq).symm⟩⟩
    have hne := hnofresh other hother
    cases hother : other.freshness <;> first | exact absurd hother hne | decide
  rename_i hstale
  have hnostale : ∀ report ∈ reports, report.freshness ≠ .stale := by simpa using hstale
  split
  · rename_i hexpired
    obtain ⟨report, hmem, heq⟩ := List.any_eq_true.1 hexpired
    refine ⟨fun other hother => ?_, .inr ⟨report, hmem, (eq_of_beq heq).symm⟩⟩
    have hne := hnofresh other hother
    have hne' := hnostale other hother
    cases hother : other.freshness <;>
      first | exact absurd hother hne | exact absurd hother hne' | decide
  · rename_i hexpired
    have hnoexpired : ∀ report ∈ reports, report.freshness ≠ .expired := by simpa using hexpired
    refine ⟨fun other hother => ?_, .inl rfl⟩
    have hne := hnofresh other hother
    have hne' := hnostale other hother
    have hne'' := hnoexpired other hother
    cases hother : other.freshness <;>
      first | exact absurd hother hne | exact absurd hother hne' | exact absurd hother hne'' |
        decide

/-- A report that is paired with an earlier one of its key, and not fresher than it. -/
def FamilyReport.Aged (late early : FamilyReport) : Prop :=
  late.key = early.key ∧ late.freshness.rank ≤ early.freshness.rank

theorem forall₂_mem_left {xs : List α} {ys : List β} {related : α → β → Prop}
    (h : List.Forall₂ related xs ys) (hmem : x ∈ xs) : ∃ y ∈ ys, related x y := by
  induction h with
  | nil => cases hmem
  | cons hfirst _ ih =>
    rcases List.mem_cons.1 hmem with rfl | hmem
    · exact ⟨_, List.mem_cons_self .., hfirst⟩
    · obtain ⟨y, hy, hrelated⟩ := ih hmem
      exact ⟨y, List.mem_cons_of_mem _ hy, hrelated⟩

theorem linkFreshness_antitone {late early : List FamilyReport}
    (h : List.Forall₂ FamilyReport.Aged late early) :
    (linkFreshness late).rank ≤ (linkFreshness early).rank := by
  rcases (linkFreshness_spec late).2 with hunknown | ⟨report, hmem, heq⟩
  · rw [hunknown]
    exact Nat.zero_le _
  · obtain ⟨other, hother, haged⟩ := forall₂_mem_left h hmem
    rw [heq]
    exact haged.2.trans ((linkFreshness_spec early).1 other hother)

namespace ClassificationInput

variable {input : ClassificationInput}

theorem Ages.families (h : input.Ages later) :
    List.Forall₂ FamilyReport.Aged (classify (input.asOf later)).families
      (classify input).families := by
  have hwithRatio (report : FamilyReport) (ratio : Option UInt64) :
      (report.withRatio ratio).freshness = report.freshness := by
    cases ratio <;> rfl
  show List.Forall₂ FamilyReport.Aged (List.map _ (List.map _ _)) (List.map _ (List.map _ _))
  rw [List.forall₂_map_left_iff, List.forall₂_map_left_iff, List.forall₂_map_right_iff,
    List.forall₂_map_right_iff]
  apply List.forall₂_same.2
  intro key _
  constructor
  · rw [(FamilyReport.withRatio_kept _ _).1, (FamilyReport.withRatio_kept _ _).1, evaluateKey_key,
      evaluateKey_key]
  · rw [hwithRatio, hwithRatio]
    exact h.report key

theorem classify_anyEvidence (input : ClassificationInput) (later : TimePoint) :
    (classify (input.asOf later)).anyEvidence = (classify input).anyEvidence := by
  show List.any (List.map _ _) _ = List.any (List.map _ _) _
  rw [List.any_map, List.any_map]
  congr 1
  funext key
  exact input.anyEvidence_asOf later key

theorem Ages.link (h : input.Ages later) :
    (classify (input.asOf later)).freshness.rank ≤ (classify input).freshness.rank := by
  have hany := input.classify_anyEvidence later
  have hfreshness (input : ClassificationInput) : (classify input).freshness =
      if !(classify input).anyEvidence then .unknown
      else linkFreshness (classify input).families := rfl
  rw [hfreshness, hfreshness, hany]
  split
  · exact Nat.le_refl _
  · exact linkFreshness_antitone h.families

theorem Ages.classify_anyEligible (h : input.Ages later)
    (heligible : (classify (input.asOf later)).anyEligible = true) :
    (classify input).anyEligible = true := by
  have hany (input : ClassificationInput) : (classify input).anyEligible =
      ((reportedKeys input.store input.link).map (evaluateKey input)).any
        KeyEvaluation.anyEligible := rfl
  rw [hany, List.any_map, List.any_eq_true] at heligible ⊢
  obtain ⟨key, hkey, helig⟩ := heligible
  exact ⟨key, hkey, h.anyEligible key helig⟩

end ClassificationInput

/-- Time alone makes nothing current again: with time, the reports of the families and the freshness
of the link only fall, and no evidence becomes eligible. -/
theorem classify_only_ages (input : ClassificationInput) (later : TimePoint)
    (h : input.Ages later) :
    List.Forall₂ FamilyReport.Aged (classify (input.asOf later)).families
      (classify input).families ∧
    (classify (input.asOf later)).freshness.rank ≤ (classify input).freshness.rank ∧
    (∀ key, ∀ late ∈ input.store.contenders input.link key (input.asOf later).context,
      late.eligible = true → ∃ early ∈ input.store.contenders input.link key input.context,
        early.evidence = late.evidence ∧ early.eligible = true) ∧
    ((classify input).anyEligible = false → (classify (input.asOf later)).anyEligible = false) := by
  refine ⟨h.families, h.link, ?_, ?_⟩
  · intro key late hlate heligible
    rw [EvidenceStore.contenders_contending] at hlate
    obtain ⟨evidence, hmem, rfl⟩ := List.mem_map.1 hlate
    refine ⟨input.store.evaluateEvidence input.link key input.context evidence, ?_, rfl,
      h.eligible hmem heligible⟩
    rw [EvidenceStore.contenders_contending]
    exact List.mem_map_of_mem hmem
  · intro hnone
    rw [Bool.eq_false_iff] at hnone ⊢
    exact fun heligible => hnone (h.classify_anyEligible heligible)

/-- A query of a link right after its first observation. -/
def reportedInput : ClassificationInput :=
  (Observatory.run { policy := makeDefaultPolicy }
    Observatory.reportedRecords).classificationInput (deriveLinkId (ascii "l")) ⟨2⟩

/-- What is fresh at first has expired an hour later. -/
theorem classify_only_ages_hour :
    (classify reportedInput).freshness.rank = 3 ∧
      (classify (reportedInput.asOf ⟨3600000000002⟩)).freshness.rank = 1 ∧
      (classify (reportedInput.asOf ⟨3600000000002⟩)).freshness.rank ≤
        (classify reportedInput).freshness.rank := by
  have hall : ∀ entry ∈ reportedInput.store.slots.toList, ∀ evidence ∈ entry.2.history,
      evidence.Ageable ⟨2⟩ ∧ evidence.Ageable ⟨3600000000002⟩ := by
    decide +kernel
  have hages : reportedInput.Ages ⟨3600000000002⟩ := by
    refine ⟨by decide, ?_, ?_⟩
    · intro key slot hslot evidence hmem
      exact (hall _ (ExtTreeMap.mem_toList_iff_getElem?_eq_some.2 hslot) evidence hmem).1
    · intro key slot hslot evidence hmem
      exact (hall _ (ExtTreeMap.mem_toList_iff_getElem?_eq_some.2 hslot) evidence hmem).2
  exact ⟨by decide +kernel, by decide +kernel,
    (classify_only_ages reportedInput ⟨3600000000002⟩ hages).2.1⟩

end LinkObservatory
