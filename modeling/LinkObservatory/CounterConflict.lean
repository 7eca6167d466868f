import LinkObservatory.Conflict
import LinkObservatory.Division
import LinkObservatory.Utilization

namespace LinkObservatory
set_option autoImplicit true

open Std

/-- The relative difference of two values in parts per billion of the larger one. -/
def relativeDifference (a b : Nat) : Nat := (max a b - min a b) * 10 ^ 9 / max a b

/-- The division that gives the relative difference of two values does not give up. -/
def Comparable (a b : Nat) : Prop := DivisionFits ((max a b - min a b) * 10 ^ 9) (max a b)

theorem relativeDifference_le (a b : Nat) : relativeDifference a b ≤ 10 ^ 9 :=
  Nat.div_le_of_le_mul (Nat.mul_le_mul_right _ (Nat.sub_le _ _))

theorem relativeDifference_self (a : Nat) : relativeDifference a a = 0 := by
  simp [relativeDifference]

theorem floorQuotient_difference (a b : Nat) (h : max a b ≠ 0) :
    floorQuotient ((max a b - min a b) * 10 ^ 9) (max a b) =
      some (UInt64.ofNat (relativeDifference a b)) := by
  have hle := relativeDifference_le a b
  unfold relativeDifference at hle
  rw [floorQuotient, if_pos ⟨h, by omega⟩, relativeDifference]

theorem relativeDifferencePpb_cases (a b : UInt64) :
    (Comparable a.toNat b.toNat →
      (relativeDifferencePpb a b).toNat = relativeDifference a.toNat b.toNat) ∧
    (¬Comparable a.toNat b.toNat → (relativeDifferencePpb a b).toNat = 10 ^ 9) := by
  have hscale : (if a > b then a else b).toNat = max a.toNat b.toNat := by
    split
    · rename_i hlt
      have := UInt64.lt_iff_toNat_lt.1 hlt
      omega
    · rename_i hge
      have := UInt64.le_iff_toNat_le.1 (UInt64.not_lt.1 hge)
      omega
  have hdifference : (if a > b then a - b else b - a).toNat =
      max a.toNat b.toNat - min a.toNat b.toNat := by
    split
    · rename_i hlt
      have := UInt64.lt_iff_toNat_lt.1 hlt
      rw [UInt64.toNat_sub_of_le _ _ (UInt64.le_of_lt hlt)]
      omega
    · rename_i hge
      have := UInt64.le_iff_toNat_le.1 (UInt64.not_lt.1 hge)
      rw [UInt64.toNat_sub_of_le _ _ (UInt64.not_lt.1 hge)]
      omega
  have hquotient := floorQuotient_difference a.toNat b.toNat
  have hle := relativeDifference_le a.toNat b.toNat
  unfold relativeDifferencePpb Comparable
  rw [← hdifference, ← hscale] at hquotient ⊢
  generalize (if a > b then a else b) = scale at *
  generalize (if a > b then a - b else b - a) = difference at *
  simp only
  split
  · rename_i hzero
    subst hzero
    refine ⟨fun _ => ?_, fun h => absurd (.inl rfl) h⟩
    rw [relativeDifference, ← hscale]
    simp
  · rename_i hne
    constructor
    · intro hfits
      rw [(ratioPpb_exact_iff difference scale).2 hfits,
        hquotient fun h => hne (UInt64.toNat_inj.1 h)]
      exact UInt64.toNat_ofNat_of_lt (by
        show _ < 2 ^ 64
        omega)
    · intro hlost
      rw [ratioPpb_none hlost]
      rfl

namespace ClassificationInput

/-- The contenders of a key. -/
def contendersOf (input : ClassificationInput) (key : MetricKey) : List EvaluatedEvidence :=
  input.store.contenders input.link key input.context

/-- Both sources have a utilization, and the two differ by more than the tolerance. -/
def Apart (input : ClassificationInput) (key : MetricKey) (a b : SourceId) : Prop :=
  (input.derivedForKey key a).hasUtilization = true ∧
    (input.derivedForKey key b).hasUtilization = true ∧
    input.policy.thresholds.conflictTolerancePpb.toNat <
      relativeDifference (input.derivedForKey key a).utilizationPpb.toNat
        (input.derivedForKey key b).utilizationPpb.toNat

/-- Two top sources are apart. -/
def Divided (input : ClassificationInput) (key : MetricKey) : Prop :=
  ∃ a b, IsTop (input.contendersOf key) a ∧ IsTop (input.contendersOf key) b ∧
    a.source ≠ b.source ∧ input.Apart key a.source b.source

/-- The comparison with the winner's utilization, in the arithmetic of the source. -/
def Differs (input : ClassificationInput) (key : MetricKey) (winner other : SourceId) : Prop :=
  (input.derivedForKey key winner).hasUtilization = true ∧
    (input.derivedForKey key other).hasUtilization = true ∧
    input.policy.thresholds.conflictTolerancePpb <
      relativeDifferencePpb (input.derivedForKey key winner).utilizationPpb
        (input.derivedForKey key other).utilizationPpb

/-- A top source other than the most recently accepted one differs from the winner, and the top
authority is known. -/
def WinnerDiffers (input : ClassificationInput) (key : MetricKey) : Prop :=
  topAuthority (input.contendersOf key) ≠ .unknown ∧
    ∃ winner, selectWinner (input.contendersOf key) = some winner ∧
      ∃ other ∈ (topContenders (input.contendersOf key)).tail,
        input.Differs key winner.source other.source

/-- Both sources have a utilization, the division that compares the two gives up, and the full
difference taken instead exceeds the tolerance. -/
def Blurred (input : ClassificationInput) (key : MetricKey) (a b : SourceId) : Prop :=
  (input.derivedForKey key a).hasUtilization = true ∧
    (input.derivedForKey key b).hasUtilization = true ∧
    ¬Comparable (input.derivedForKey key a).utilizationPpb.toNat
      (input.derivedForKey key b).utilizationPpb.toNat ∧
    input.policy.thresholds.conflictTolerancePpb.toNat < 10 ^ 9

/-- The kinds of input on which the verdict misses what the top sources say. -/
inductive Misjudged (input : ClassificationInput) (key : MetricKey) : Prop
  /-- No top source has a known authority, and two are apart. -/
  | unranked (hunknown : topAuthority (input.contendersOf key) = .unknown)
      (hdivided : input.Divided key)
  /-- The winner has no utilization, and two others are apart. -/
  | underived (hwinner : selectWinner (input.contendersOf key) = some winner)
      (hnone : (input.derivedForKey key winner.source).hasUtilization = false)
      (hdivided : input.Divided key)
  /-- The winner is apart from the most recently accepted top source and from no other. -/
  | skipped (htop : topContenders (input.contendersOf key) = first :: rest)
      (hwinner : selectWinner (input.contendersOf key) = some winner)
      (hapart : input.Apart key winner.source first.source)
      (hrest : ∀ other ∈ rest, ¬input.Apart key winner.source other.source ∧
        ¬input.Blurred key winner.source other.source)
  /-- The winner lies between two others: it is apart from neither, they are from each other. -/
  | straddled (hwinner : selectWinner (input.contendersOf key) = some winner)
      (hhas : (input.derivedForKey key winner.source).hasUtilization = true)
      (hnone : ∀ other, IsTop (input.contendersOf key) other →
        ¬input.Apart key winner.source other.source)
      (hrest : ∀ other ∈ (topContenders (input.contendersOf key)).tail,
        ¬input.Blurred key winner.source other.source)
      (hdivided : input.Divided key)
  /-- No two top sources are apart, but the division gives up between the winner and another. -/
  | blurred (hknown : topAuthority (input.contendersOf key) ≠ .unknown)
      (hwinner : selectWinner (input.contendersOf key) = some winner)
      (hother : other ∈ (topContenders (input.contendersOf key)).tail)
      (hblurred : input.Blurred key winner.source other.source)
      (hagree : ¬input.Divided key)

end ClassificationInput

theorem peaceful_counter {key : MetricKey} {top : List EvaluatedEvidence} (left : Derived)
    (derivedOf : SourceId → Derived) (tolerancePpb : UInt64)
    (hfamily : isCounterFamily key.family = true)
    (hdistinct : (top.map EvaluatedEvidence.source).Nodup) :
    Peaceful key (some left) derivedOf tolerancePpb top ↔ ∀ other ∈ top.tail,
      ¬(left.hasUtilization = true ∧ (derivedOf other.source).hasUtilization = true ∧
        tolerancePpb < relativeDifferencePpb left.utilizationPpb
          (derivedOf other.source).utilizationPpb) := by
  have hclashes (a b : EvaluatedEvidence) :
      Clashes key (some left) derivedOf tolerancePpb a b ↔ left.hasUtilization = true ∧
        (derivedOf b.source).hasUtilization = true ∧ tolerancePpb <
          relativeDifferencePpb left.utilizationPpb (derivedOf b.source).utilizationPpb := by
    unfold Clashes
    rw [hfamily, if_pos rfl]
    simp
  unfold Peaceful
  simp only [hclashes]
  cases top with
  | nil => simp
  | cons first rest =>
    rw [List.pairwise_cons, List.tail_cons]
    constructor
    · rintro ⟨hfirst, -⟩ other hmem
      apply hfirst other hmem
      intro heq
      rw [List.map_cons, List.nodup_cons] at hdistinct
      exact hdistinct.1 (heq ▸ List.mem_map_of_mem hmem)
    · intro h
      refine ⟨fun other hmem _ => h other hmem, ?_⟩
      apply List.pairwise_of_forall_mem_list
      intro a _ b hb _
      exact h b hb

theorem evaluateKey_conflicting {input : ClassificationInput} {key : MetricKey}
    (hfamily : isCounterFamily key.family = true) :
    (evaluateKey input key).report.conflict = .conflicting ↔ input.WinnerDiffers key := by
  have hdistinct : ((input.contendersOf key).map EvaluatedEvidence.source).Nodup :=
    input.store.contenders_nodup input.link key input.context
  cases hwinner : selectWinner (input.contendersOf key) with
  | none =>
    rw [evaluateKey_none hwinner, (baseReport_plain _ _ _).2.2.2.2.2]
    refine iff_of_false (by simp) ?_
    rintro ⟨-, winner, hsome, -⟩
    rw [hwinner] at hsome
    cases hsome
  | some winner =>
    rw [evaluateKey_conflict hwinner, hfamily, if_pos rfl]
    by_cases hknown : topAuthority (input.contendersOf key) = .unknown
    · have hnone : conflictOf key (some (input.derivedForKey key winner.source))
          (input.derivedForKey key) input.policy.thresholds.conflictTolerancePpb
          (input.contendersOf key) = .none := by
        unfold conflictOf
        exact if_pos hknown
      refine iff_of_false ?_ (fun h => h.1 hknown)
      intro hconflict
      cases hnone.symm.trans hconflict
    · obtain ⟨-, hconflicting, -⟩ := conflictOf_spec key
        (some (input.derivedForKey key winner.source)) (input.derivedForKey key)
        input.policy.thresholds.conflictTolerancePpb hknown hdistinct
      refine hconflicting.trans ?_
      rw [peaceful_counter _ _ _ hfamily (topContenders_nodup hdistinct)]
      constructor
      · rintro ⟨-, hloud⟩
        simp only [not_forall, not_not] at hloud
        obtain ⟨other, hmem, hdiffers⟩ := hloud
        exact ⟨hknown, winner, hwinner, other, hmem, hdiffers⟩
      · rintro ⟨-, found, hfound, other, hmem, hdiffers⟩
        rw [hwinner] at hfound
        cases hfound
        refine ⟨?_, fun hpeace => hpeace other hmem hdiffers⟩
        have hlength := List.length_pos_of_mem hmem
        rw [List.length_tail] at hlength
        omega

namespace ClassificationInput

variable {input : ClassificationInput} {key : MetricKey}

/-- A difference found is one that is there, or one that the division made up. -/
theorem differs_iff (a b : SourceId) :
    input.Differs key a b ↔ input.Apart key a b ∨ input.Blurred key a b := by
  obtain ⟨hexact, hlost⟩ := relativeDifferencePpb_cases (input.derivedForKey key a).utilizationPpb
    (input.derivedForKey key b).utilizationPpb
  have hle := relativeDifference_le (input.derivedForKey key a).utilizationPpb.toNat
    (input.derivedForKey key b).utilizationPpb.toNat
  unfold Differs Apart Blurred
  rw [UInt64.lt_iff_toNat_lt]
  by_cases hfits : Comparable (input.derivedForKey key a).utilizationPpb.toNat
      (input.derivedForKey key b).utilizationPpb.toNat
  · rw [hexact hfits]
    simp only [hfits, not_true_eq_false, false_and, and_false, or_false]
  · rw [hlost hfits]
    simp only [hfits, not_false_eq_true, true_and]
    constructor
    · exact .inr
    · rintro (⟨ha, hb, hover⟩ | hblurred)
      · exact ⟨ha, hb, hover.trans_le hle⟩
      · exact hblurred

theorem Apart.ne (h : input.Apart key a b) : a ≠ b := by
  rintro rfl
  have hover := h.2.2
  rw [relativeDifference_self] at hover
  exact Nat.not_lt_zero _ hover

/-- A pair is blurred only where a utilization is above 2^63 ppb. -/
theorem Blurred.huge (h : input.Blurred key a b) :
    2 ^ 63 < max (input.derivedForKey key a).utilizationPpb.toNat
      (input.derivedForKey key b).utilizationPpb.toNat :=
  Nat.lt_of_not_le fun hle => h.2.2.1 (DivisionFits.of_le _ hle)

theorem Divided.of_winner (hwinner : selectWinner (input.contendersOf key) = some winner)
    (hother : IsTop (input.contendersOf key) other)
    (hapart : input.Apart key winner.source other.source) : input.Divided key :=
  ⟨winner, other, selectWinner_top (input.store.contenders_nodup _ _ _) hwinner, hother, hapart.ne,
    hapart⟩

theorem Misjudged.of_silent (hdivided : input.Divided key) (hsilent : ¬input.WinnerDiffers key) :
    input.Misjudged key := by
  by_cases hknown : topAuthority (input.contendersOf key) = .unknown
  · exact .unranked hknown hdivided
  have hpair := hdivided
  obtain ⟨a, b, ha, -⟩ := hpair
  cases hwinner : selectWinner (input.contendersOf key) with
  | none =>
    have hnone := (selectWinner_none_iff (input.store.contenders_nodup _ _ _)).1 hwinner a ha.1
    rw [ha.2.1] at hnone
    cases hnone
  | some winner =>
    have hquiet : ∀ other ∈ (topContenders (input.contendersOf key)).tail,
        ¬input.Apart key winner.source other.source ∧
          ¬input.Blurred key winner.source other.source := by
      intro other hother
      have hsame : ¬input.Differs key winner.source other.source := fun hdiffers =>
        hsilent ⟨hknown, winner, hwinner, other, hother, hdiffers⟩
      rwa [differs_iff, not_or] at hsame
    cases hhas : (input.derivedForKey key winner.source).hasUtilization with
    | false => exact .underived hwinner hhas hdivided
    | true =>
      cases htop : topContenders (input.contendersOf key) with
      | nil =>
        have hmem := (mem_topContenders _ _).2 ha
        rw [htop] at hmem
        cases hmem
      | cons first rest =>
        rw [htop, List.tail_cons] at hquiet
        by_cases hfirst : input.Apart key winner.source first.source
        · exact .skipped htop hwinner hfirst hquiet
        · refine .straddled hwinner hhas (fun other hother => ?_) ?_ hdivided
          · rw [← mem_topContenders, htop] at hother
            rcases List.mem_cons.1 hother with rfl | hrest
            · exact hfirst
            · exact (hquiet other hrest).1
          · rw [htop, List.tail_cons]
            exact fun other hother => (hquiet other hother).2

theorem Misjudged.of_loud (hagree : ¬input.Divided key) (hloud : input.WinnerDiffers key) :
    input.Misjudged key := by
  obtain ⟨hknown, winner, hwinner, other, hother, hdiffers⟩ := hloud
  rcases (differs_iff _ _).1 hdiffers with hapart | hblurred
  · have htop := (mem_topContenders _ _).1 (List.mem_of_mem_tail hother)
    exact absurd (Divided.of_winner hwinner htop hapart) hagree
  · exact .blurred hknown hwinner hother hblurred hagree

theorem Misjudged.disagrees (h : input.Misjudged key) :
    ¬(input.WinnerDiffers key ↔ input.Divided key) := by
  intro hiff
  cases h with
  | unranked hunknown hdivided => exact (hiff.2 hdivided).1 hunknown
  | underived hwinner hnone hdivided =>
    obtain ⟨-, found, hfound, other, -, hdiffers⟩ := hiff.2 hdivided
    rw [hwinner] at hfound
    cases hfound
    rw [hdiffers.1] at hnone
    cases hnone
  | skipped htop hwinner hapart hrest =>
    have hfirst : IsTop (input.contendersOf key) _ :=
      (mem_topContenders _ _).1 (htop ▸ List.mem_cons_self ..)
    obtain ⟨-, found, hfound, other, hother, hdiffers⟩ :=
      hiff.2 (Divided.of_winner hwinner hfirst hapart)
    rw [hwinner] at hfound
    cases hfound
    rw [htop, List.tail_cons] at hother
    exact ((differs_iff _ _).1 hdiffers).elim (hrest other hother).1 (hrest other hother).2
  | straddled hwinner hhas hnone hrest hdivided =>
    obtain ⟨-, found, hfound, other, hother, hdiffers⟩ := hiff.2 hdivided
    rw [hwinner] at hfound
    cases hfound
    have htop := (mem_topContenders _ _).1 (List.mem_of_mem_tail hother)
    exact ((differs_iff _ _).1 hdiffers).elim (hnone other htop) (hrest other hother)
  | blurred hknown hwinner hother hblurred hagree =>
    exact hagree (hiff.1 ⟨hknown, _, hwinner, _, hother, (differs_iff _ _).2 (.inr hblurred)⟩)

end ClassificationInput

/-- The conflict of a counter key is that of its top sources, except on the kinds of input on which
the comparison with the winner misjudges it. -/
theorem counter_conflict_iff (input : ClassificationInput) (report : FamilyReport)
    (hreport : report ∈ (classify input).families)
    (hfamily : isCounterFamily report.key.family = true) :
    (report.conflict = .conflicting ↔ input.Divided report.key) ↔
      ¬input.Misjudged report.key := by
  obtain ⟨key, -, ratio, rfl⟩ := classify_families hreport
  rw [(FamilyReport.withRatio_kept _ _).1, evaluateKey_key] at hfamily ⊢
  rw [(FamilyReport.withRatio_kept _ _).2.2.1, evaluateKey_conflicting hfamily]
  constructor
  · intro hiff hmisjudged
    exact hmisjudged.disagrees hiff
  · intro hclear
    constructor
    · intro hloud
      by_contra hagree
      exact hclear (.of_loud hagree hloud)
    · intro hdivided
      by_contra hsilent
      exact hclear (.of_silent hdivided hsilent)

/-- An octet counter of a source on the link `l`. -/
def octetsOf (source : Bytes) (revision raw : UInt64) (observedAt : Int64) : ParsedRecord :=
  .observation
    { link := ascii "l", source := source, incarnation := ascii "i", epoch := ascii "e"
      generation := ascii "g", revision := revision, observedAt := observedAt
      receivedAt := observedAt, key := kOctetsKey
      payload := .counter { raw := raw, width := .bits64 } }

/-- Two primary sources of which the second counts twice the octets of the first; the sample of the
first is one nanosecond newer. -/
def dividedRecords : List (ParsedRecord × TimePoint) :=
  [(.source { name := ascii "s", authority := .primary, provenance := .synthetic }, ⟨0⟩),
    (.source { name := ascii "t", authority := .primary, provenance := .synthetic }, ⟨0⟩),
    (Observatory.ratedLink (ascii "g"), ⟨0⟩), (octetsOf (ascii "s") 1 0 1000, ⟨1000⟩),
    (octetsOf (ascii "t") 1 0 1000, ⟨1000⟩), (octetsOf (ascii "s") 2 1000 1001000, ⟨1001000⟩),
    (octetsOf (ascii "t") 2 2000 1000999, ⟨1001000⟩)]

/-- Decides whether two top sources are apart. -/
def ClassificationInput.divided (input : ClassificationInput) (key : MetricKey) : Bool :=
  let top := topContenders (input.contendersOf key)
  top.any fun a => top.any fun b => a.source != b.source &&
    ((input.derivedForKey key a.source).hasUtilization &&
      ((input.derivedForKey key b.source).hasUtilization &&
        decide (input.policy.thresholds.conflictTolerancePpb.toNat <
          relativeDifference (input.derivedForKey key a.source).utilizationPpb.toNat
            (input.derivedForKey key b.source).utilizationPpb.toNat)))

theorem ClassificationInput.divided_iff (input : ClassificationInput) (key : MetricKey) :
    input.divided key = true ↔ input.Divided key := by
  unfold ClassificationInput.divided ClassificationInput.Divided ClassificationInput.Apart
  simp only [List.any_eq_true, Bool.and_eq_true, bne_iff_ne, decide_eq_true_eq, mem_topContenders]
  constructor
  · rintro ⟨a, ha, b, hb, hapart⟩
    exact ⟨a, b, ha, hb, hapart⟩
  · rintro ⟨a, b, ha, hb, hapart⟩
    exact ⟨a, ha, b, hb, hapart⟩

/-- The most recently accepted source is never compared with the winner. -/
theorem counter_conflict_fails :
    ¬ ∀ (input : ClassificationInput) (report : FamilyReport),
      report ∈ (classify input).families → isCounterFamily report.key.family = true →
      2 ≤ (topContenders (input.contendersOf report.key)).length →
      (report.conflict = .conflicting ↔ input.Divided report.key) := by
  intro h
  let input := (Observatory.run { policy := makeDefaultPolicy } dividedRecords).classificationInput
    (deriveLinkId (ascii "l")) ⟨1001000⟩
  have hfound : (classify input).families.any (fun report =>
      isCounterFamily report.key.family &&
        (decide (2 ≤ (topContenders (input.contendersOf report.key)).length) &&
          (report.conflict != .conflicting && input.divided report.key))) = true := by
    decide +kernel
  obtain ⟨report, hmem, hall⟩ := List.any_eq_true.1 hfound
  simp only [Bool.and_eq_true, bne_iff_ne, decide_eq_true_eq] at hall
  obtain ⟨hfamily, hmany, hcalm, hdivided⟩ := hall
  exact hcalm ((h input report hmem hfamily hmany).2 ((input.divided_iff _).1 hdivided))

/-- The same readings with those of the winner accepted last. -/
def comparedRecords : List (ParsedRecord × TimePoint) :=
  dividedRecords.take 5 ++
    [(octetsOf (ascii "t") 2 2000 1000999, ⟨1001000⟩),
      (octetsOf (ascii "s") 2 1000 1001000, ⟨1001000⟩)]

def comparedInput : ClassificationInput :=
  (Observatory.run { policy := makeDefaultPolicy } comparedRecords).classificationInput
    (deriveLinkId (ascii "l")) ⟨1001000⟩

theorem counter_conflict_compared :
    ∃ report ∈ (classify comparedInput).families, isCounterFamily report.key.family = true ∧
      2 ≤ (topContenders (comparedInput.contendersOf report.key)).length ∧
      report.conflict = .conflicting ∧ comparedInput.Divided report.key ∧
      ¬comparedInput.Misjudged report.key := by
  have hfound : (classify comparedInput).families.any (fun report =>
      isCounterFamily report.key.family &&
        (decide (2 ≤ (topContenders (comparedInput.contendersOf report.key)).length) &&
          (report.conflict == .conflicting && comparedInput.divided report.key))) = true := by
    decide +kernel
  obtain ⟨report, hmem, hall⟩ := List.any_eq_true.1 hfound
  simp only [Bool.and_eq_true, beq_iff_eq, decide_eq_true_eq] at hall
  obtain ⟨hfamily, hmany, hconflict, hdivided⟩ := hall
  have hdivided := (comparedInput.divided_iff _).1 hdivided
  exact ⟨report, hmem, hfamily, hmany, hconflict, hdivided,
    (counter_conflict_iff comparedInput report hmem hfamily).1
      ⟨fun _ => hdivided, fun _ => hconflict⟩⟩

end LinkObservatory
