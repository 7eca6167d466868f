import LinkObservatory.Freshness
import LinkObservatory.Topology
import LinkObservatory.Winner

namespace LinkObservatory
set_option autoImplicit true

open Std

/-- Some retained evidence of the link is eligible. -/
def ClassificationInput.HasEligible (input : ClassificationInput) : Prop :=
  ∃ key slot, input.store.slots[SlotKey.mk input.link key]? = some slot ∧
    ∃ evidence ∈ slot.history,
      (input.store.evaluateEvidence input.link key input.context evidence).eligible = true

/-- The admin and oper transitions of the link that are not older than the flap window. -/
def ClassificationInput.flapsInWindow (input : ClassificationInput) : List TransitionEvent :=
  (input.transitions.perLink.getD input.link []).filter fun event =>
    (event.kind == .adminStateChanged || event.kind == .operStateChanged) &&
      decide (trueAge input.now event.at_ ≤ input.policy.thresholds.flapWindow.nanos.toInt)

/-- The winning eligible reading of a key. -/
def ClassificationInput.Reads (input : ClassificationInput) (key : MetricKey)
    (payload : MetricPayload) : Prop :=
  ∃ winner, selectWinner (input.store.contenders input.link key input.context) = some winner ∧
    winner.eligible = true ∧ winner.evidence.observation.payload = payload

theorem selectWinner_none {input : ClassificationInput} (h : ¬input.HasEligible)
    (key : MetricKey) :
    selectWinner (input.store.contenders input.link key input.context) = none := by
  cases hwinner : selectWinner (input.store.contenders input.link key input.context) with
  | none => rfl
  | some winner =>
    obtain ⟨hmem, heligible⟩ := selectWinner_mem hwinner
    obtain ⟨slot, evidence, hslot, rfl, hfirst⟩ := EvidenceStore.contenders_newest hmem
    obtain ⟨newer, older, hhistory, -⟩ := hfirst.split
    refine absurd ⟨key, slot, hslot, evidence, ?_, heligible⟩ h
    rw [← List.mem_reverse, hhistory]
    simp

/-- The evaluation of a key that no eligible evidence speaks for. -/
structure KeyEvaluation.Plain (evaluation : KeyEvaluation) : Prop where
  noValue : evaluation.report.hasValue = false
  notEligible : evaluation.report.eligible = false
  noConflict : evaluation.report.conflict = .none
  noRatio : evaluation.report.hasRatio = false
  noDerived : evaluation.derived = none

theorem evaluateKey_plain {input : ClassificationInput} (h : ¬input.HasEligible)
    (key : MetricKey) : (evaluateKey input key).Plain := by
  rw [evaluateKey_none (selectWinner_none h key)]
  obtain ⟨-, hvalue, heligible, -, -, hconflict⟩ :=
    baseReport_plain input key (input.store.contenders input.link key input.context)
  refine ⟨hvalue, heligible, hconflict, ?_, rfl⟩
  unfold baseReport
  cases input.store.slotView input.link key input.now <;> rfl

theorem foldl_kept {f : β → α → β} {items : List α} (h : ∀ a ∈ items, f b a = b) : items.foldl f b = b := by
  induction items with
  | nil => rfl
  | cons a items ih =>
    rw [List.foldl_cons, h a (List.mem_cons_self ..)]
    exact ih fun x hx => h x (List.mem_cons_of_mem _ hx)

section

variable {evaluations : List KeyEvaluation} (h : ∀ evaluation ∈ evaluations, evaluation.Plain)

include h

theorem ratedReports_plain (hmem : report ∈ ratedReports evaluations) :
    report.conflict = .none ∧ report.hasRatio = false := by
  obtain ⟨evaluation, hevaluation, rfl⟩ := List.mem_map.1 hmem
  have hplain := h evaluation hevaluation
  have hnone : ratioOf (octetBaseline evaluations) evaluation = none := by
    unfold ratioOf
    rw [hplain.noDerived]
    split <;> rfl
  rw [hnone]
  exact ⟨hplain.noConflict, hplain.noRatio⟩

theorem lastRatio_plain (family : MetricFamily) :
    lastRatio family (ratedReports evaluations) = none := by
  refine foldl_kept fun report hmem => ?_
  rw [(ratedReports_plain h hmem).2]
  simp

theorem eligibleKey_plain (key : MetricKey) : eligibleKey evaluations key = false := by
  unfold eligibleKey
  cases hfound : evaluationOf evaluations key with
  | none => rfl
  | some evaluation => exact (h evaluation (List.mem_of_find?_eq_some hfound)).notEligible

theorem signalsOf_plain (input : ClassificationInput) :
    (signalsOf input evaluations).conflictKey = none ∧
      (signalsOf input evaluations).operEligible = false ∧
      (signalsOf input evaluations).adminEligible = false ∧
      (signalsOf input evaluations).sourceFlaps = (false, 0) ∧
      (signalsOf input evaluations).reportedUtil = (false, 0) ∧
      (signalsOf input evaluations).derivedUtil = {} ∧
      (signalsOf input evaluations).errorRatio = none ∧
      (signalsOf input evaluations).discardRatio = none ∧
      (signalsOf input evaluations).quality = {} := by
  refine ⟨?_, eligibleKey_plain h _, eligibleKey_plain h _, ?_, ?_, ?_, lastRatio_plain h _,
    lastRatio_plain h _, ?_⟩
  · show Option.map _ _ = none
    rw [Option.map_eq_none_iff, List.find?_eq_none]
    intro report hmem
    rw [(ratedReports_plain h hmem).1]
    decide
  · exact foldl_kept fun evaluation hmem => by simp [(h evaluation hmem).noValue]
  · exact foldl_kept fun evaluation hmem => by simp [(h evaluation hmem).noValue]
  · exact foldl_kept fun evaluation hmem => by simp [(h evaluation hmem).noValue]
  · show qualitySignal _ _ = _
    unfold qualitySignal
    rw [foldl_kept fun evaluation hmem => by simp [(h evaluation hmem).noValue]]
    rfl

end

theorem windowStart_age {now at_ : TimePoint} {window : Duration} (hwindow : 0 ≤ window.nanos)
    (h : ¬at_.nanos < ((advance now ⟨-window.nanos⟩).getD {}).nanos) :
    trueAge now at_ ≤ window.nanos.toInt := by
  rw [Int64.lt_iff_toInt_lt] at h
  have hnonneg := Int64.le_iff_toInt_le.1 hwindow
  rw [Int64.toInt_zero] at hnonneg
  have hneg : (-window.nanos).toInt = -window.nanos.toInt :=
    toInt_neg_of_ne_minValue fun hmin => by
      rw [hmin] at hwindow
      exact absurd hwindow (by decide)
  unfold trueAge
  cases hstart : advance now ⟨-window.nanos⟩ with
  | none =>
    -- the window reaches back beyond the first instant, and the count starts at zero
    rw [hstart, Option.getD_none, Int64.toInt_zero] at h
    rw [advance, Option.map_eq_none_iff, checkedAddI64_eq, ite_eq_right_iff] at hstart
    have hlt := now.nanos.toInt_lt
    have hout : ¬(-2 ^ 63 ≤ now.nanos.toInt + (-window.nanos).toInt ∧
        now.nanos.toInt + (-window.nanos).toInt < 2 ^ 63) := fun hin => nomatch hstart hin
    omega
  | some start =>
    obtain ⟨nanos, hsum, rfl⟩ := Option.map_eq_some_iff.1 hstart
    rw [hstart, Option.getD_some] at h
    change ¬at_.nanos.toInt < nanos.toInt at h
    have hexact : nanos.toInt = now.nanos.toInt + (-window.nanos).toInt := checkedAddI64_some hsum
    omega

theorem countFlaps_le (input : ClassificationInput)
    (hwindow : 0 ≤ input.policy.thresholds.flapWindow.nanos) :
    (countFlaps input).toNat ≤ input.flapsInWindow.length := by
  have hsublist : (input.transitions.forLink input.link input.policy.limits.maxResultRows).Sublist
      (input.transitions.perLink.getD input.link []) := List.drop_sublist _ _
  unfold countFlaps
  rw [UInt64.toNat_ofNat', ClassificationInput.flapsInWindow, ← List.countP_eq_length_filter]
  refine (Nat.mod_le _ _).trans (Nat.le_trans ?_ hsublist.countP_le)
  refine List.countP_mono_left fun event _ hcounted => ?_
  obtain ⟨hstart, hkind⟩ := Bool.and_eq_true_iff.1 hcounted
  rw [hkind, Bool.true_and, decide_eq_true_iff]
  exact windowStart_age hwindow (by simpa using hstart)

theorem state_of_ineligible {input : ClassificationInput} (h : ¬input.HasEligible) :
    (classify input).state = .unknown ∨ (classify input).state = .stale ∨
      ((classify input).state = .flapping ∧
        input.policy.thresholds.flapThreshold.toUInt64 ≤ countFlaps input) := by
  have hplain : ∀ evaluation ∈ (reportedKeys input.store input.link).map (evaluateKey input),
      evaluation.Plain := by
    intro evaluation hmem
    obtain ⟨key, -, rfl⟩ := List.mem_map.1 hmem
    exact evaluateKey_plain h key
  obtain ⟨hconflict, hoper, hadmin, hflaps, hreported, hderived, herrors, hdiscards, hquality⟩ :=
    signalsOf_plain hplain input
  change (signalsOf input _).state = _ ∨ (signalsOf input _).state = _ ∨
    ((signalsOf input _).state = _ ∧ _)
  have hcounted : (signalsOf input ((reportedKeys input.store input.link).map
      (evaluateKey input))).flapping = true →
      input.policy.thresholds.flapThreshold.toUInt64 ≤ countFlaps input := of_decide_eq_true
  generalize signalsOf input _ = signals at *
  simp only [Signals.state, Signals.anyConflict, Signals.operDown, Signals.adminDisabled,
    Signals.sourceFlapping, Signals.erroring, Signals.saturatedReported, Signals.saturatedDerived,
    Signals.degradedDiscards, Signals.degradedOper, Signals.healthy, hconflict, hoper, hadmin,
    hflaps, hreported, hderived, herrors, hdiscards, hquality, Option.isSome_none, Option.any_none,
    Bool.false_and, Bool.or_self, Bool.or_false, Bool.false_eq_true, if_false]
  split
  · exact .inl rfl
  split
  · rename_i hfired
    exact .inr (.inr ⟨rfl, hcounted hfired⟩)
  split
  · exact .inl rfl
  split
  · exact .inr (.inl rfl)
  · exact .inl rfl

/-- The evaluation of a key that is always reported. -/
theorem evaluationOf_some {input : ClassificationInput}
    (h : evaluationOf ((reportedKeys input.store input.link).map (evaluateKey input)) key =
      some evaluation) : evaluation = evaluateKey input key := by
  obtain ⟨found, -, rfl⟩ := List.mem_map.1 (List.mem_of_find?_eq_some h)
  have hkey := List.find?_some h
  simp only [beq_iff_eq, evaluateKey_key] at hkey
  rw [hkey]

theorem evaluateKey_reads {input : ClassificationInput}
    (h : (evaluateKey input key).report.eligible = true) :
    ∃ payload, (evaluateKey input key).payload = some payload ∧ input.Reads key payload := by
  cases hwinner : selectWinner (input.store.contenders input.link key input.context) with
  | none =>
    rw [evaluateKey_none hwinner] at h
    simp only [baseReport_plain, Bool.false_eq_true] at h
  | some winner =>
    obtain ⟨-, -, -, hpayload, -⟩ := evaluateKey_some hwinner
    exact ⟨_, hpayload, winner, hwinner, (selectWinner_mem hwinner).2, rfl⟩

theorem operStateOf_reads {input : ClassificationInput}
    (h : operStateOf ((reportedKeys input.store input.link).map (evaluateKey input)) = value)
    (hknown : value ≠ .unknown) : input.Reads kOperKey (.operState value) := by
  unfold operStateOf at h
  split at h
  · rename_i evaluation hfound
    rw [evaluationOf_some hfound] at h
    split at h
    · rename_i heligible
      obtain ⟨payload, hpayload, hreads⟩ := evaluateKey_reads heligible
      rw [hpayload] at h
      split at h
      · rename_i reading hreading
        cases hreading
        rwa [h] at hreads
      · exact absurd h.symm hknown
    · exact absurd h.symm hknown
  · exact absurd h.symm hknown

theorem adminStateOf_reads {input : ClassificationInput}
    (h : adminStateOf ((reportedKeys input.store input.link).map (evaluateKey input)) = value)
    (hknown : value ≠ .unknown) : input.Reads kAdminKey (.adminState value) := by
  unfold adminStateOf at h
  split at h
  · rename_i evaluation hfound
    rw [evaluationOf_some hfound] at h
    split at h
    · rename_i heligible
      obtain ⟨payload, hpayload, hreads⟩ := evaluateKey_reads heligible
      rw [hpayload] at h
      split at h
      · rename_i reading hreading
        cases hreading
        rwa [h] at hreads
      · exact absurd h.symm hknown
    · exact absurd h.symm hknown
  · exact absurd h.symm hknown

theorem Signals.state_down {signals : Signals} (h : signals.state = .down) :
    signals.operDown = true ∨ signals.adminDisabled = true := by
  unfold Signals.state at h
  by_contra hneither
  rw [not_or] at hneither
  simp only [hneither, Bool.or_self, Bool.false_eq_true, if_false] at h
  repeat' split at h
  all_goals cases h

theorem Signals.state_healthy {signals : Signals} (h : signals.state = .healthy) :
    signals.healthy = true := by
  unfold Signals.state at h
  by_contra hnot
  simp only [hnot, if_false] at h
  repeat' split at h
  all_goals cases h

/-- A supported decisive family with a gap in its revisions. -/
def FamilyReport.DecisiveGap (report : FamilyReport) : Prop :=
  isDecisiveFamily report.key.family = true ∧ report.key.direction ≠ .both ∧
    report.support = .supported ∧ report.completeness = .incomplete

theorem decisiveFlags_gap (h : (decisiveFlags reports).1 = false) :
    ∀ report ∈ reports, ¬report.DecisiveGap := by
  induction reports using List.reverseRecOn with
  | nil => exact fun _ hmem => (List.not_mem_nil hmem).elim
  | append_singleton reports last ih =>
    have hstep : decisiveFlags (reports ++ [last]) =
        if !isDecisiveFamily last.key.family ∨ last.key.direction = .both then decisiveFlags reports
        else if last.support = .unsupported then
          ((decisiveFlags reports).1,
            (decisiveFlags reports).2 || last.key.family == .operState)
        else ((decisiveFlags reports).1 || last.completeness == .incomplete,
          (decisiveFlags reports).2) := by
      unfold decisiveFlags
      rw [List.foldl_append]
      rfl
    rw [hstep] at h
    have hlast : (decisiveFlags reports).1 = false ∧ ¬last.DecisiveGap := by
      split at h
      · rename_i hskipped
        refine ⟨h, fun hgap => ?_⟩
        rcases hskipped with hother | hboth
        · rw [hgap.1] at hother
          cases hother
        · exact hgap.2.1 hboth
      split at h
      · rename_i hunsupported
        refine ⟨h, fun hgap => ?_⟩
        rw [hgap.2.2.1] at hunsupported
        cases hunsupported
      · rw [Bool.or_eq_false_iff] at h
        exact ⟨h.1, fun hgap => by rw [hgap.2.2.2] at h; exact absurd h.2 (by decide)⟩
    intro report hmem
    rcases List.mem_append.1 hmem with hmem | hmem
    · exact ih hlast.1 report hmem
    · rw [List.mem_singleton.1 hmem]
      exact hlast.2

/-- What is eligible decides what is claimed. Without eligible evidence a link is unknown, stale or
flapping, and flapping by its own transitions; it is down or healthy only by a winning reading that
says so, and healthy only without conflicts and gaps in the families that decide. -/
theorem classify_claims (input : ClassificationInput) :
    (¬input.HasEligible →
      ((classify input).state = .unknown ∨ (classify input).state = .stale ∨
        (classify input).state = .flapping) ∧
      ((classify input).state = .flapping → 0 ≤ input.policy.thresholds.flapWindow.nanos →
        input.policy.thresholds.flapThreshold.toNat ≤ input.flapsInWindow.length)) ∧
    ((classify input).state = .down →
      input.Reads kOperKey (.operState .down) ∨ input.Reads kAdminKey (.adminState .disabled)) ∧
    ((classify input).state = .healthy →
      input.Reads kOperKey (.operState .up) ∧
        ∀ report ∈ (classify input).families,
          report.conflict ≠ .conflicting ∧ ¬report.DecisiveGap) := by
  refine ⟨fun h => ?_, fun hdown => ?_, fun hhealthy => ?_⟩
  · rcases state_of_ineligible h with hstate | hstate | ⟨hstate, hcounted⟩
    · exact ⟨.inl hstate, fun hflapping => by rw [hstate] at hflapping; cases hflapping⟩
    · exact ⟨.inr (.inl hstate), fun hflapping => by rw [hstate] at hflapping; cases hflapping⟩
    · refine ⟨.inr (.inr hstate), fun _ hwindow => ?_⟩
      have hle := UInt64.le_iff_toNat_le.1 hcounted
      rw [UInt32.toNat_toUInt64] at hle
      exact hle.trans (countFlaps_le input hwindow)
  · rcases Signals.state_down hdown with hoper | hadmin
    · obtain ⟨-, hvalue⟩ := Bool.and_eq_true_iff.1 hoper
      exact .inl (operStateOf_reads (eq_of_beq hvalue) (by decide))
    · obtain ⟨-, hvalue⟩ := Bool.and_eq_true_iff.1 hadmin
      exact .inr (adminStateOf_reads (eq_of_beq hvalue) (by decide))
  · have hall := Signals.state_healthy hhealthy
    simp only [Signals.healthy, Bool.and_eq_true, Bool.not_eq_true', Signals.anyConflict] at hall
    obtain ⟨⟨⟨⟨⟨⟨⟨⟨⟨⟨⟨⟨-, hup⟩, hconflict⟩, -⟩, -⟩, -⟩, -⟩, -⟩, -⟩, -⟩, -⟩, hincomplete⟩, -⟩ := hall
    refine ⟨operStateOf_reads (eq_of_beq hup) (by decide), fun report hmem =>
      ⟨fun hreport => ?_, decisiveFlags_gap hincomplete report hmem⟩⟩
    have hnone : (ratedReports ((reportedKeys input.store input.link).map (evaluateKey
        input))).find? (fun report => report.conflict == .conflicting) = none := by
      simpa [signalsOf] using hconflict
    exact List.find?_eq_none.1 hnone report hmem (by rw [hreport]; rfl)

/-- A source reports the operational state of a registered link. -/
def operRecords (value : OperStateValue) : List (ParsedRecord × TimePoint) :=
  [(.source { name := ascii "s", authority := .primary, provenance := .synthetic }, ⟨0⟩),
    (.link { name := ascii "l", generation := ascii "g" }, ⟨0⟩),
    (.observation
      { link := ascii "l", source := ascii "s", incarnation := ascii "i", epoch := ascii "e"
        generation := ascii "g", revision := 1, key := kOperKey, payload := .operState value },
      ⟨1⟩)]

theorem classify_claims_up :
    (classify ((Observatory.run { policy := makeDefaultPolicy } (operRecords
      .up)).classificationInput (deriveLinkId (ascii "l")) ⟨2⟩)).state = .healthy ∧
    ((Observatory.run { policy := makeDefaultPolicy } (operRecords .up)).classificationInput
      (deriveLinkId (ascii "l")) ⟨2⟩).Reads kOperKey (.operState .up) := by
  have hstate : (classify ((Observatory.run { policy := makeDefaultPolicy } (operRecords
      .up)).classificationInput (deriveLinkId (ascii "l")) ⟨2⟩)).state = .healthy := by
    decide +kernel
  exact ⟨hstate, ((classify_claims _).2.2 hstate).1⟩

end LinkObservatory
