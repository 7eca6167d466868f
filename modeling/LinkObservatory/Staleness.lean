import LinkObservatory.Freshness
import LinkObservatory.Utilization

namespace LinkObservatory
set_option autoImplicit true

open Std

/-- Neither timestamp of a sample is older than the fresh window, over the integers. -/
def CounterSample.FreshAt (sample : CounterSample) (now : TimePoint) (policy : FreshnessPolicy) :
    Prop :=
  max (trueAge now sample.observedAt) (trueAge now sample.receivedAt) ≤
    policy.freshWithin.nanos.toInt

/-- A sample none of whose ages is both beyond the fresh window and lost by the subtraction. -/
def CounterSample.AgesKept (sample : CounterSample) (now : TimePoint) (policy : FreshnessPolicy) :
    Prop :=
  ∀ at_ ∈ [sample.observedAt, sample.receivedAt], AgeLost now at_ →
    trueAge now at_ ≤ policy.freshWithin.nanos.toInt

instance (sample : CounterSample) (now : TimePoint) (policy : FreshnessPolicy) :
    Decidable (sample.FreshAt now policy) := by
  unfold CounterSample.FreshAt
  infer_instance

instance (sample : CounterSample) (now : TimePoint) (policy : FreshnessPolicy) :
    Decidable (sample.AgesKept now policy) := by
  unfold CounterSample.AgesKept
  infer_instance

theorem keptAge_nonneg (now at_ : TimePoint) : 0 ≤ keptAge now at_ := by
  unfold keptAge
  split
  · exact Int.le_refl 0
  · omega

theorem trueAge_le_iff (now at_ : TimePoint) (hwindow : 0 ≤ window) :
    trueAge now at_ ≤ window ↔
      keptAge now at_ ≤ window ∧ (AgeLost now at_ → trueAge now at_ ≤ window) := by
  unfold keptAge
  by_cases hlost : AgeLost now at_
  · simp [hlost, hwindow]
  · simp only [hlost, if_false, false_implies, and_true]
    omega

theorem CounterSample.freshAt_iff (sample : CounterSample) (now : TimePoint)
    {policy : FreshnessPolicy} (hwindow : 0 ≤ policy.freshWithin.nanos.toInt) :
    sample.FreshAt now policy ↔
      max (keptAge now sample.observedAt) (keptAge now sample.receivedAt) ≤
        policy.freshWithin.nanos.toInt ∧ sample.AgesKept now policy := by
  rw [FreshAt, Int.max_le, Int.max_le, trueAge_le_iff now sample.observedAt hwindow,
    trueAge_le_iff now sample.receivedAt hwindow]
  simp only [AgesKept, List.mem_cons, List.not_mem_nil, or_false, forall_eq_or_imp, forall_eq]
  exact ⟨fun h => ⟨⟨h.1.1, h.2.1⟩, h.1.2, h.2.2⟩, fun h => ⟨⟨h.1.1, h.2.1⟩, h.1.2, h.2.2⟩⟩

theorem exactFreshness_fresh_iff (age : Int) (policy : FreshnessPolicy) :
    exactFreshness age policy = .fresh ↔ age ≤ policy.freshWithin.nanos.toInt := by
  unfold exactFreshness
  split
  · rename_i hfresh
    exact iff_of_true rfl hfresh
  · rename_i hstale
    refine iff_of_false (fun h => ?_) hstale
    split at h <;> cases h

theorem exactFreshness_usable (h : exactFreshness age policy ≠ .expired) :
    exactFreshness age policy = .fresh ↔ exactFreshness age policy ≠ .stale := by
  unfold exactFreshness at h ⊢
  split
  · decide
  · rename_i hlate
    rw [if_neg hlate] at h
    split
    · decide
    · rename_i hold
      rw [if_neg hold] at h
      exact absurd rfl h

theorem FirstOfSource.find_eq (h : FirstOfSource items [] evidence) :
    (items.map Evidence.observation).find?
      (fun observation => observation.provenance.source ==
        evidence.observation.provenance.source) = some evidence.observation := by
  obtain ⟨-, newer, older, rfl, hnewer⟩ := h
  have hnone : (newer.map Evidence.observation).find? (fun observation =>
      observation.provenance.source == evidence.observation.provenance.source) = none := by
    rw [List.find?_eq_none]
    intro observation hmem hsame
    obtain ⟨item, hitem, rfl⟩ := List.mem_map.1 hmem
    exact hnewer item hitem (by simpa using hsame)
  rw [List.map_append, List.find?_append, hnone, Option.none_or, List.map_cons,
    List.find?_cons_of_pos (by simp)]

theorem LastAccepted.find_eq (h : LastAccepted source slotKey log before last) :
    ((log.filter fun decision => decision.2.accepted &&
      SlotKey.mk decision.1.link decision.1.key == slotKey).map Prod.fst).reverse.find?
      (fun observation => observation.provenance.source == source) = some last.1 := by
  obtain ⟨⟨haccepted, hsource, hslot⟩, after, rfl, hafter⟩ := h
  have hnone : ((after.filter fun decision => decision.2.accepted &&
      SlotKey.mk decision.1.link decision.1.key == slotKey).map Prod.fst).reverse.find?
      (fun observation => observation.provenance.source == source) = none := by
    rw [List.find?_eq_none]
    intro observation hmem hsame
    obtain ⟨decision, hdecision, rfl⟩ := List.mem_map.1 (List.mem_reverse.1 hmem)
    obtain ⟨hin, hkept⟩ := List.mem_filter.1 hdecision
    obtain ⟨hok, hkey⟩ : decision.2.accepted = true ∧
        SlotKey.mk decision.1.link decision.1.key = slotKey := by simpa using hkept
    exact hafter decision hin ⟨hok, by simpa using hsame, hkey⟩
  rw [List.filter_append, List.filter_cons, if_pos (by simp [haccepted, hslot]), List.map_append,
    List.map_cons, List.reverse_append, List.find?_append, List.reverse_cons, List.find?_append,
    hnone, Option.none_or, List.find?_singleton, if_pos (by simp [hsource])]
  rfl

namespace Observatory

/-- The winner rests on the last observation accepted from its source. -/
theorem Reached.winner_last {config : RuntimeConfig} (h : Reached config log σ)
    (hwinner : selectWinner (σ.store.contenders link key context) = some winner)
    (hlast : LastAccepted winner.source ⟨link, key⟩ log before last) :
    winner.evidence.observation = last.1 ∧
      classifyFreshness (ageEvidence winner.evidence context.now)
        (freshnessPolicyFor config.policy key.family) = .fresh := by
  obtain ⟨hs, rfl⟩ := h.sound
  obtain ⟨hmem, heligible⟩ := selectWinner_mem hwinner
  obtain ⟨slot, evidence, hslot, rfl, hfirst⟩ := EvidenceStore.contenders_newest hmem
  have hhistory := h.lineage.history ⟨link, key⟩
  rw [EvidenceStore.slotFor, ExtTreeMap.getD_eq_getD_getElem?, hslot, Option.getD_some] at hhistory
  have hfound := (List.reverse_prefix.2 hhistory).find?_eq_some
    (by rw [← List.map_reverse]; exact hfirst.find_eq)
  refine ⟨Option.some.inj (hfound.symm.trans hlast.find_eq), ?_⟩
  have hfresh : classifyFreshness (ageEvidence evidence context.now)
      (freshnessPolicyFor σ.store.policy key.family) = .fresh := by
    simp only [EvidenceStore.evaluateEvidence, Bool.and_eq_true, beq_iff_eq] at heligible
    exact heligible.1.1
  rwa [hs.storePolicy] at hfresh

/-- A report with a rate was computed from two fresh samples exactly when the older one is not in
the stale band and neither lost an age beyond the fresh window. -/
theorem Reached.rate_fresh_iff {config : RuntimeConfig} (h : Reached config log σ)
    (hclassify : σ.classify link now = some classification)
    (hreport : report ∈ classification.families)
    (hrate : report.hasDelta = true ∨ report.hasDerived = true) :
    ∃ continuity, σ.store.continuity link report.key report.winnerSource = some continuity ∧
      continuity.hasPrevious = true ∧
      ((continuity.previous.FreshAt now (freshnessPolicyFor config.policy report.key.family) ∧
          continuity.latest.FreshAt now (freshnessPolicyFor config.policy report.key.family)) ↔
        classifySampleFreshness continuity.previous now
            (freshnessPolicyFor config.policy report.key.family) ≠ .stale ∧
          continuity.previous.AgesKept now (freshnessPolicyFor config.policy report.key.family) ∧
          continuity.latest.AgesKept now (freshnessPolicyFor config.policy report.key.family)) := by
  obtain ⟨hfamily, ⟨winner, hwinner, hsource⟩, continuity, hcontinuity, hprevious, hvalid, -⟩ :=
    classify_rate hclassify hreport hrate
  refine ⟨continuity, hcontinuity, hprevious, ?_⟩
  obtain ⟨before, first, between, last, earlier, later, hlast, -, -, -, -, -, hcurrent⟩ :=
    h.samples hcontinuity hprevious hfamily
  rw [← hsource] at hlast
  obtain ⟨hwinnerLast, hfresh⟩ := h.winner_last hwinner hlast
  obtain ⟨hs, rfl⟩ := h.sound
  rw [classifyFreshness_eq, exactFreshness_fresh_iff, hwinnerLast] at hfresh
  change max (keptAge now _) (keptAge now _) ≤ _ at hfresh
  have hwindow := (keptAge_nonneg now last.1.observedAt).trans (Int.max_le.1 hfresh).1
  have hlatest : max (keptAge now continuity.latest.observedAt)
      (keptAge now continuity.latest.receivedAt) ≤
        (freshnessPolicyFor σ.config.policy report.key.family).freshWithin.nanos.toInt := by
    rw [hcurrent]
    exact hfresh
  obtain ⟨-, -, -, -, -, hexpired⟩ := sampleUsable_true (deriveDelta_valid hvalid).1
  rw [CounterSample.freshAt_iff _ _ hwindow, CounterSample.freshAt_iff _ _ hwindow,
    and_iff_right hlatest]
  rw [classifySampleFreshness_eq] at hexpired ⊢
  rw [← exactFreshness_fresh_iff, and_assoc]
  exact and_congr_left fun _ => exactFreshness_usable hexpired

theorem Reached.rate_fresh_now : ∃ classification, ∃ report ∈ classification.families,
    (Observatory.run { policy := makeDefaultPolicy } ratedRecords).classify
      (deriveLinkId (ascii "l")) ⟨1001000⟩ = some classification ∧ report.hasDerived = true ∧
    ∃ continuity, (Observatory.run { policy := makeDefaultPolicy } ratedRecords).store.continuity
        (deriveLinkId (ascii "l")) report.key report.winnerSource = some continuity ∧
      continuity.previous.FreshAt ⟨1001000⟩
        (freshnessPolicyFor makeDefaultPolicy report.key.family) ∧
      continuity.latest.FreshAt ⟨1001000⟩
        (freshnessPolicyFor makeDefaultPolicy report.key.family) := by
  have hreached := Reached.run { policy := makeDefaultPolicy } ratedRecords
  obtain ⟨classification, report, hclassify, hreport, hderived⟩ :=
    derivedReport_some (Observatory.run { policy := makeDefaultPolicy } ratedRecords)
      (deriveLinkId (ascii "l")) ⟨1001000⟩ (by decide +kernel)
  have hall : ∀ classification ∈ (Observatory.run { policy := makeDefaultPolicy }
        ratedRecords).classify (deriveLinkId (ascii "l")) ⟨1001000⟩,
      ∀ report ∈ classification.families, ∀ continuity ∈ (Observatory.run
        { policy := makeDefaultPolicy } ratedRecords).store.continuity (deriveLinkId (ascii "l"))
          report.key report.winnerSource,
      classifySampleFreshness continuity.previous ⟨1001000⟩
          (freshnessPolicyFor makeDefaultPolicy report.key.family) ≠ .stale ∧
        continuity.previous.AgesKept ⟨1001000⟩
          (freshnessPolicyFor makeDefaultPolicy report.key.family) ∧
        continuity.latest.AgesKept ⟨1001000⟩
          (freshnessPolicyFor makeDefaultPolicy report.key.family) := by
    decide +kernel
  obtain ⟨continuity, hcontinuity, -, hiff⟩ :=
    hreached.rate_fresh_iff hclassify hreport (.inr hderived)
  exact ⟨classification, report, hreport, hclassify, hderived, continuity, hcontinuity,
    hiff.2 (hall classification hclassify report hreport continuity hcontinuity)⟩

/-- Two octet samples, one minute apart. -/
def minuteRecords : List (ParsedRecord × TimePoint) :=
  ratedRecords.take 3 ++ [(octetRecord 2 1000 60000001000, ⟨60000001000⟩)]

/-- A baseline that is a minute old is beyond the fresh window of 30 seconds, and the rate is
reported all the same. -/
theorem Reached.rate_fresh_fails :
    ¬ ∀ (config : RuntimeConfig) (log : List Decision) (σ : Observatory) (link : LinkId)
      (now : TimePoint) (classification : Classification) (report : FamilyReport)
      (continuity : CounterContinuity), Reached config log σ →
      σ.classify link now = some classification → report ∈ classification.families →
      report.hasDelta = true ∨ report.hasDerived = true →
      σ.store.continuity link report.key report.winnerSource = some continuity →
      continuity.previous.FreshAt now (freshnessPolicyFor config.policy report.key.family) ∧
        continuity.latest.FreshAt now (freshnessPolicyFor config.policy report.key.family) := by
  intro h
  have hreached := Reached.run { policy := makeDefaultPolicy } minuteRecords
  have hstale : ∃ classification ∈ (Observatory.run { policy := makeDefaultPolicy }
        minuteRecords).classify (deriveLinkId (ascii "l")) ⟨60000001000⟩,
      ∃ report ∈ classification.families, report.hasDerived = true ∧ ∃ continuity ∈
        (Observatory.run { policy := makeDefaultPolicy } minuteRecords).store.continuity
          (deriveLinkId (ascii "l")) report.key report.winnerSource,
      ¬continuity.previous.FreshAt ⟨60000001000⟩
        (freshnessPolicyFor makeDefaultPolicy report.key.family) := by
    decide +kernel
  obtain ⟨classification, hclassify, report, hreport, hderived, continuity, hcontinuity, hold⟩ :=
    hstale
  exact hold (h _ _ _ _ _ classification report continuity hreached hclassify hreport
    (.inr hderived) hcontinuity).1

end Observatory

end LinkObservatory
