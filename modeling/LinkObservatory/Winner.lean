import LinkObservatory.Classifier

namespace LinkObservatory
set_option autoImplicit true

open Std

theorem preferred_cases (best : Option EvaluatedEvidence) (candidate : EvaluatedEvidence) :
    preferred best candidate = best ∨
      (preferred best candidate = some candidate ∧ candidate.eligible = true) := by
  unfold preferred
  split
  · exact .inl rfl
  rename_i heligible
  have hgood : candidate.eligible = true := by simpa using heligible
  split
  · exact .inr ⟨rfl, hgood⟩
  · split
    · exact .inr ⟨rfl, hgood⟩
    · exact .inl rfl

theorem foldl_preferred (contenders : List EvaluatedEvidence) (best : Option EvaluatedEvidence)
    (h : contenders.foldl preferred best = some winner) :
    best = some winner ∨ (winner ∈ contenders ∧ winner.eligible = true) := by
  induction contenders generalizing best with
  | nil => exact .inl h
  | cons candidate contenders ih =>
    rcases ih _ h with hbest | ⟨hmem, heligible⟩
    · rcases preferred_cases best candidate with hkept | ⟨htaken, heligible⟩
      · exact .inl (hkept.symm.trans hbest)
      · rw [htaken] at hbest
        cases hbest
        exact .inr ⟨List.mem_cons_self .., heligible⟩
    · exact .inr ⟨List.mem_cons_of_mem _ hmem, heligible⟩

theorem selectWinner_mem (h : selectWinner contenders = some winner) :
    winner ∈ contenders ∧ winner.eligible = true := by
  rcases foldl_preferred contenders none h with hnone | hmem
  · cases hnone
  · exact hmem

/-- The evidence behind a contender that a walk adds: nothing of its source was seen before. -/
structure FirstOfSource (items : List Evidence) (seen : List SourceId) (evidence : Evidence) :
    Prop where
  unseen : evidence.observation.provenance.source ∉ seen
  split : ∃ newer older, items = newer ++ evidence :: older ∧ ∀ item ∈ newer,
    item.observation.provenance.source ≠ evidence.observation.provenance.source

theorem FirstOfSource.cons (h : FirstOfSource items seen evidence)
    (hne : item.observation.provenance.source ≠ evidence.observation.provenance.source) :
    FirstOfSource (item :: items) seen evidence := by
  obtain ⟨hunseen, newer, older, rfl, hnewer⟩ := h
  refine ⟨hunseen, item :: newer, older, rfl, fun other hmem => ?_⟩
  rcases List.mem_cons.1 hmem with rfl | hmem
  · exact hne
  · exact hnewer other hmem

theorem collectContenders_newest {evaluate : Evidence → EvaluatedEvidence}
    (h : evaluated ∈ collectContenders bound evaluate items seen out) :
    evaluated ∈ out ∨ ∃ evidence, evaluated = evaluate evidence ∧
      FirstOfSource items seen evidence := by
  induction items generalizing seen out with
  | nil => exact .inl h
  | cons item items ih =>
    rw [collectContenders] at h
    by_cases hseen : item.observation.provenance.source ∈ seen
    · rw [if_pos hseen] at h
      rcases ih h with hout | ⟨evidence, heq, hfirst⟩
      · exact .inl hout
      · exact .inr ⟨evidence, heq, hfirst.cons fun he => hfirst.unseen (he ▸ hseen)⟩
    · rw [if_neg hseen] at h
      have hadded (hmem : evaluated ∈ out ++ [evaluate item]) : evaluated ∈ out ∨
          ∃ evidence, evaluated = evaluate evidence ∧
            FirstOfSource (item :: items) seen evidence := by
        rcases List.mem_append.1 hmem with hout | hnew
        · exact .inl hout
        · exact .inr ⟨item, List.mem_singleton.1 hnew, hseen, [], items, rfl,
            fun _ hmem => (List.not_mem_nil hmem).elim⟩
      simp only at h
      split at h
      · exact hadded h
      · rcases ih h with hout | ⟨evidence, heq, hfirst⟩
        · exact hadded hout
        · obtain ⟨hunseen, hitem⟩ : evidence.observation.provenance.source ∉ seen ∧
              evidence.observation.provenance.source ≠ item.observation.provenance.source := by
            simpa using hfirst.unseen
          exact .inr ⟨evidence, heq, FirstOfSource.cons ⟨hunseen, hfirst.split⟩ (Ne.symm hitem)⟩

theorem EvidenceStore.contenders_newest {store : EvidenceStore}
    (h : evaluated ∈ store.contenders link key context) :
    ∃ slot evidence, store.slots[SlotKey.mk link key]? = some slot ∧
      evaluated = store.evaluateEvidence link key context evidence ∧
      FirstOfSource slot.history.reverse [] evidence := by
  unfold contenders at h
  split at h
  · exact (List.not_mem_nil h).elim
  · rename_i slot hslot
    rcases collectContenders_newest h with hout | ⟨evidence, heq, hfirst⟩
    · exact (List.not_mem_nil hout).elim
    · exact ⟨slot, evidence, hslot, heq, hfirst⟩

theorem reportedKeys_sorted (store : EvidenceStore) (link : LinkId) :
    (reportedKeys store link).Pairwise fun a b => (MetricKey.compare a b).isLE = true := by
  have htotal : Std.Total fun a b => (MetricKey.compare a b).isLE = true := by
    constructor
    intro a b
    have hswap : MetricKey.compare b a = (MetricKey.compare a b).swap := OrientedCmp.eq_swap
    rw [hswap]
    cases MetricKey.compare a b <;> simp [Ordering.swap]
  have htrans : IsTrans MetricKey fun a b => (MetricKey.compare a b).isLE = true :=
    ⟨fun a b c => TransCmp.isLE_trans⟩
  exact List.pairwise_insertionSort _ _

/-- A key with evidence is reported. -/
theorem reportedKeys_of_contender {store : EvidenceStore}
    (h : evaluated ∈ store.contenders link key context) : key ∈ reportedKeys store link := by
  have hkept {keys : List MetricKey} (extra : MetricKey) (hmem : key ∈ keys) :
      key ∈ if extra ∈ keys then keys else keys ++ [extra] := by
    split
    · exact hmem
    · exact List.mem_append_left _ hmem
  obtain ⟨slot, -, hslot, -⟩ := EvidenceStore.contenders_newest h
  have hstored : key ∈ store.keysFor link := by
    unfold EvidenceStore.keysFor
    refine List.mem_map.2 ⟨SlotKey.mk link key, List.mem_filter.2 ⟨?_, beq_self_eq_true _⟩, rfl⟩
    rw [ExtTreeMap.mem_keys, ExtTreeMap.mem_iff_isSome_getElem?, hslot]
    rfl
  unfold reportedKeys
  rw [List.mem_insertionSort]
  exact hkept _ (hkept _ (hkept _ hstored))

theorem classify_families (h : report ∈ (classify input).families) :
    ∃ key ∈ reportedKeys input.store input.link, ∃ ratio,
      report = (evaluateKey input key).report.withRatio ratio := by
  obtain ⟨evaluation, hmem, rfl⟩ := List.mem_map.1 h
  obtain ⟨key, hkey, rfl⟩ := List.mem_map.1 hmem
  exact ⟨key, hkey, _, rfl⟩

theorem FamilyReport.withRatio_kept (report : FamilyReport) (ratio : Option UInt64) :
    (report.withRatio ratio).key = report.key ∧
      (report.withRatio ratio).winnerSource = report.winnerSource ∧
      (report.withRatio ratio).conflict = report.conflict ∧
      (report.withRatio ratio).hasValue = report.hasValue ∧
      (report.withRatio ratio).hasDelta = report.hasDelta ∧
      (report.withRatio ratio).hasDerived = report.hasDerived ∧
      (report.withRatio ratio).derivedPpb = report.derivedPpb := by
  cases ratio with
  | none => exact ⟨rfl, rfl, rfl, rfl, rfl, rfl, rfl⟩
  | some ratio => exact ⟨rfl, rfl, rfl, rfl, rfl, rfl, rfl⟩

theorem baseReport_plain (input : ClassificationInput) (key : MetricKey)
    (contenders : List EvaluatedEvidence) :
    (baseReport input key contenders).key = key ∧
      (baseReport input key contenders).hasValue = false ∧
      (baseReport input key contenders).eligible = false ∧
      (baseReport input key contenders).hasDelta = false ∧
      (baseReport input key contenders).hasDerived = false ∧
      (baseReport input key contenders).conflict = .none := by
  unfold baseReport
  cases input.store.slotView input.link key input.now <;> exact ⟨rfl, rfl, rfl, rfl, rfl, rfl⟩

theorem evaluateKey_none {input : ClassificationInput}
    (h : selectWinner (input.store.contenders input.link key input.context) = none) :
    evaluateKey input key =
      { report := baseReport input key (input.store.contenders input.link key input.context)
        anyEvidence := !(input.store.contenders input.link key input.context).isEmpty
        anyEligible := (input.store.contenders input.link key input.context).any
          EvaluatedEvidence.eligible } := by
  unfold evaluateKey
  simp only [h]

theorem evaluateKey_some {input : ClassificationInput}
    (h : selectWinner (input.store.contenders input.link key input.context) = some winner) :
    (evaluateKey input key).report.winnerSource = winner.source ∧
      (evaluateKey input key).report.eligible = true ∧
      (evaluateKey input key).report.hasValue = true ∧
      (evaluateKey input key).payload = some winner.evidence.observation.payload ∧
      (evaluateKey input key).derived = if isCounterFamily key.family then
        some (input.derivedForKey key winner.source) else none := by
  unfold evaluateKey
  simp only [h]
  cases isCounterFamily key.family with
  | true => exact ⟨rfl, rfl, rfl, trivial, rfl⟩
  | false => exact ⟨rfl, rfl, rfl, trivial, rfl⟩

theorem evaluateKey_key (input : ClassificationInput) (key : MetricKey) :
    (evaluateKey input key).report.key = key := by
  have hplain := baseReport_plain input key (input.store.contenders input.link key input.context)
  cases hwinner : selectWinner (input.store.contenders input.link key input.context) with
  | none =>
    rw [evaluateKey_none hwinner]
    exact hplain.1
  | some winner =>
    unfold evaluateKey
    simp only [hwinner]
    cases isCounterFamily key.family with
    | true => exact hplain.1
    | false => exact hplain.1

theorem evaluateKey_rate {input : ClassificationInput}
    (h : (evaluateKey input key).report.hasDelta = true ∨
      (evaluateKey input key).report.hasDerived = true) :
    isCounterFamily key.family = true ∧ ∃ winner,
      selectWinner (input.store.contenders input.link key input.context) = some winner ∧
      (evaluateKey input key).report.hasDelta =
        (input.derivedForKey key winner.source).hasDelta ∧
      (evaluateKey input key).report.hasDerived =
        (input.derivedForKey key winner.source).hasUtilization ∧
      (evaluateKey input key).report.derivedPpb =
        if (input.derivedForKey key winner.source).hasUtilization then
          (input.derivedForKey key winner.source).utilizationPpb else 0 := by
  have hplain := baseReport_plain input key (input.store.contenders input.link key input.context)
  cases hwinner : selectWinner (input.store.contenders input.link key input.context) with
  | none =>
    rw [evaluateKey_none hwinner] at h
    simp only [hplain, Bool.false_eq_true, or_self] at h
  | some winner =>
    unfold evaluateKey at h ⊢
    simp only [hwinner] at h ⊢
    cases hfamily : isCounterFamily key.family with
    | false =>
      simp only [hfamily, Bool.false_eq_true, if_false, FamilyReport.withWinner, hplain,
        or_self] at h
    | true => exact ⟨rfl, winner, rfl, rfl, rfl, rfl⟩

end LinkObservatory
