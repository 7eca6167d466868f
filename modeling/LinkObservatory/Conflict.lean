import LinkObservatory.Admission
import LinkObservatory.Contenders

namespace LinkObservatory
set_option autoImplicit true

open Std Selection

/-- A contender is eligible and no eligible one has a higher authority. -/
def IsTop (contenders : List EvaluatedEvidence) (contender : EvaluatedEvidence) : Prop :=
  contender ∈ contenders ∧ contender.eligible = true ∧ ∀ other ∈ contenders,
    other.eligible = true → other.evidence.authority.code ≤ contender.evidence.authority.code

/-- The contenders the conflict is judged among, newest first. -/
def topContenders (contenders : List EvaluatedEvidence) : List EvaluatedEvidence :=
  contenders.filter fun candidate =>
    candidate.eligible && candidate.evidence.authority == topAuthority contenders

theorem foldl_authority (contenders : List EvaluatedEvidence) (best : SourceAuthority) :
    let top := contenders.foldl (fun best candidate =>
      if candidate.eligible && candidate.evidence.authority.code > best.code then
        candidate.evidence.authority
      else best) best
    best.code ≤ top.code ∧ (∀ other ∈ contenders, other.eligible = true →
      other.evidence.authority.code ≤ top.code) ∧
      (top = best ∨ ∃ other ∈ contenders, other.eligible = true ∧
        other.evidence.authority = top) := by
  induction contenders generalizing best with
  | nil =>
    refine ⟨UInt8.le_refl _, ?_, .inl rfl⟩
    intro other hmem
    cases hmem
  | cons candidate contenders ih =>
    rw [List.foldl_cons]
    generalize hnext : (if candidate.eligible && candidate.evidence.authority.code > best.code then
      candidate.evidence.authority else best) = next
    obtain ⟨hle, hall, hfrom⟩ := ih next
    have hstep : best.code ≤ next.code ∧ (candidate.eligible = true →
        candidate.evidence.authority.code ≤ next.code) ∧
        (next = best ∨ candidate.eligible = true ∧ candidate.evidence.authority = next) := by
      subst hnext
      split
      · rename_i htaken
        obtain ⟨heligible, hhigher⟩ := Bool.and_eq_true_iff.1 htaken
        exact ⟨UInt8.le_of_lt (of_decide_eq_true hhigher), fun _ => UInt8.le_refl _,
          .inr ⟨heligible, rfl⟩⟩
      · rename_i hkept
        refine ⟨UInt8.le_refl _, ?_, .inl rfl⟩
        intro heligible
        rw [heligible, Bool.true_and, decide_eq_true_eq] at hkept
        exact UInt8.not_lt.1 hkept
    obtain ⟨hbest, hcandidate, hnextFrom⟩ := hstep
    refine ⟨UInt8.le_trans hbest hle, ?_, ?_⟩
    · intro other hmem heligible
      rcases List.mem_cons.1 hmem with rfl | hmem
      · exact UInt8.le_trans (hcandidate heligible) hle
      · exact hall other hmem heligible
    · rcases hfrom with hsame | ⟨other, hmem, hother⟩
      · rw [hsame]
        rcases hnextFrom with hkept | htaken
        · exact .inl hkept
        · exact .inr ⟨candidate, List.mem_cons_self .., htaken⟩
      · exact .inr ⟨other, List.mem_cons_of_mem _ hmem, hother⟩

theorem topAuthority_spec (contenders : List EvaluatedEvidence) :
    (∀ other ∈ contenders, other.eligible = true →
      other.evidence.authority.code ≤ (topAuthority contenders).code) ∧
      (topAuthority contenders = .unknown ∨ ∃ other ∈ contenders, other.eligible = true ∧
        other.evidence.authority = topAuthority contenders) :=
  (foldl_authority contenders .unknown).2

theorem SourceAuthority.unknown_le (authority : SourceAuthority) :
    SourceAuthority.unknown.code ≤ authority.code := by
  cases authority <;> decide

/-- The top contenders are the eligible ones of the highest authority. -/
theorem mem_topContenders (contenders : List EvaluatedEvidence) (contender : EvaluatedEvidence) :
    contender ∈ topContenders contenders ↔ IsTop contenders contender := by
  obtain ⟨hall, hfrom⟩ := topAuthority_spec contenders
  unfold topContenders IsTop
  rw [List.mem_filter, Bool.and_eq_true, beq_iff_eq]
  constructor
  · rintro ⟨hmem, heligible, hauthority⟩
    refine ⟨hmem, heligible, ?_⟩
    intro other hother hqualifies
    rw [hauthority]
    exact hall other hother hqualifies
  · rintro ⟨hmem, heligible, hmost⟩
    refine ⟨hmem, heligible, ?_⟩
    apply SourceAuthority.code_inj
    apply UInt8.le_antisymm (hall contender hmem heligible)
    rcases hfrom with hunknown | ⟨other, hother, hqualifies, hauthority⟩
    · rw [hunknown]
      exact SourceAuthority.unknown_le _
    · rw [← hauthority]
      exact hmost other hother hqualifies

theorem topAuthority_known (hmem : contender ∈ contenders) (heligible : contender.eligible = true)
    (hknown : contender.evidence.authority ≠ .unknown) : topAuthority contenders ≠ .unknown := by
  intro hunknown
  have hle := (topAuthority_spec contenders).1 contender hmem heligible
  rw [hunknown] at hle
  exact hknown (SourceAuthority.code_inj
    (UInt8.le_antisymm hle (SourceAuthority.unknown_le _)))

theorem selectWinner_top (hdistinct : (contenders.map EvaluatedEvidence.source).Nodup)
    (h : selectWinner contenders = some winner) : IsTop contenders winner := by
  obtain ⟨hmem, heligible, hprecedes⟩ := (selectWinner_iff hdistinct).1 h
  refine ⟨hmem, heligible, ?_⟩
  intro other hother hqualifies
  by_cases hsame : other = winner
  · rw [hsame]
    exact UInt8.le_refl _
  · rcases hprecedes other hother hqualifies hsame with hlower | ⟨hequal, -⟩
    · exact UInt8.le_of_lt hlower
    · rw [hequal]
      exact UInt8.le_refl _

theorem topAuthority_mono {fewer more : List EvaluatedEvidence} (h : fewer ⊆ more) :
    (topAuthority fewer).code ≤ (topAuthority more).code := by
  rcases (topAuthority_spec fewer).2 with hunknown | ⟨other, hmem, heligible, hauthority⟩
  · rw [hunknown]
    exact SourceAuthority.unknown_le _
  · rw [← hauthority]
    exact (topAuthority_spec more).1 other (h hmem) heligible

theorem topAuthority_perm (h : contenders.Perm permuted) :
    topAuthority permuted = topAuthority contenders := by
  apply SourceAuthority.code_inj
  exact UInt8.le_antisymm (topAuthority_mono h.symm.subset) (topAuthority_mono h.subset)

theorem topContenders_perm (h : contenders.Perm permuted) :
    (topContenders contenders).Perm (topContenders permuted) := by
  unfold topContenders
  rw [topAuthority_perm h]
  exact h.filter _

section Scan

variable (key : MetricKey) (winner : Option Derived) (derivedOf : SourceId → Derived)
  (tolerancePpb : UInt64)

/-- The comparison of two top contenders. For counters it takes the winner's value for the first. -/
def Clashes (lhs rhs : EvaluatedEvidence) : Prop :=
  if isCounterFamily key.family then ∃ left, winner = some left ∧ left.hasUtilization = true ∧
    (derivedOf rhs.source).hasUtilization = true ∧
    tolerancePpb < relativeDifferencePpb left.utilizationPpb (derivedOf rhs.source).utilizationPpb
  else readingsDisagree lhs.evidence.observation.payload rhs.evidence.observation.payload
    tolerancePpb = true

theorem ConflictScan.pair_spec (scan : ConflictScan) (lhs rhs : EvaluatedEvidence) :
    ((scan.pair key winner derivedOf tolerancePpb lhs rhs).conflicting = true ↔
      scan.conflicting = true ∨
        lhs.source ≠ rhs.source ∧ Clashes key winner derivedOf tolerancePpb lhs rhs) ∧
    ((scan.pair key winner derivedOf tolerancePpb lhs rhs).compared = true ↔
      scan.compared = true ∨ lhs.source ≠ rhs.source) := by
  unfold ConflictScan.pair Clashes
  by_cases hsame : lhs.source = rhs.source
  · simp [hsame]
  · rw [if_neg hsame]
    cases isCounterFamily key.family with
    | true =>
      cases winner with
      | none => simp [hsame]
      | some left =>
        cases hleft : left.hasUtilization with
        | false => simp [hsame, hleft]
        | true =>
          cases hright : (derivedOf rhs.source).hasUtilization with
          | false => simp [hsame, hleft, hright]
          | true =>
            by_cases hover : tolerancePpb < relativeDifferencePpb left.utilizationPpb
                (derivedOf rhs.source).utilizationPpb
            · simp [hsame, hleft, hright, hover]
            · simp [hsame, hleft, hright, hover]
    | false =>
      cases readingsDisagree lhs.evidence.observation.payload
          rhs.evidence.observation.payload tolerancePpb with
      | true => simp [hsame]
      | false => simp [hsame]

theorem ConflictScan.foldl_pair (scan : ConflictScan) (lhs : EvaluatedEvidence)
    (rest : List EvaluatedEvidence) :
    ((rest.foldl (fun scan rhs => scan.pair key winner derivedOf tolerancePpb lhs rhs)
        scan).conflicting = true ↔ scan.conflicting = true ∨ ∃ rhs ∈ rest,
          lhs.source ≠ rhs.source ∧ Clashes key winner derivedOf tolerancePpb lhs rhs) ∧
    ((rest.foldl (fun scan rhs => scan.pair key winner derivedOf tolerancePpb lhs rhs)
        scan).compared = true ↔ scan.compared = true ∨ ∃ rhs ∈ rest, lhs.source ≠ rhs.source) := by
  induction rest generalizing scan with
  | nil => simp
  | cons rhs rest ih =>
    obtain ⟨hconflict, hcompared⟩ := scan.pair_spec key winner derivedOf tolerancePpb lhs rhs
    obtain ⟨hconflicts, hcompares⟩ := ih (scan.pair key winner derivedOf tolerancePpb lhs rhs)
    rw [List.foldl_cons, hconflicts, hcompares, hconflict, hcompared]
    simp [or_assoc]

/-- No pair of different sources clashes. -/
def Peaceful (top : List EvaluatedEvidence) : Prop :=
  top.Pairwise fun lhs rhs =>
    lhs.source ≠ rhs.source → ¬Clashes key winner derivedOf tolerancePpb lhs rhs

theorem ConflictScan.run_conflicting (scan : ConflictScan) (top : List EvaluatedEvidence) :
    (ConflictScan.run key winner derivedOf tolerancePpb scan top).conflicting = true ↔
      scan.conflicting = true ∨ ¬Peaceful key winner derivedOf tolerancePpb top := by
  induction top generalizing scan with
  | nil => simp [ConflictScan.run, Peaceful]
  | cons lhs rest ih =>
    rw [ConflictScan.run]
    cases hscan : scan.conflicting with
    | true => simp [hscan]
    | false =>
      have hinner := (scan.foldl_pair key winner derivedOf tolerancePpb lhs rest).1
      simp only [hscan, Bool.false_eq_true, ↓reduceIte, false_or] at hinner ⊢
      rw [ih, hinner]
      unfold Peaceful
      rw [List.pairwise_cons, not_and_or]
      simp

theorem ConflictScan.run_compared (scan : ConflictScan) (top : List EvaluatedEvidence)
    (h : (ConflictScan.run key winner derivedOf tolerancePpb scan top).conflicting = false)
    (htwo : scan.compared = true ∨ ∃ lhs rhs rest, top = lhs :: rhs :: rest ∧
      lhs.source ≠ rhs.source) :
    (ConflictScan.run key winner derivedOf tolerancePpb scan top).compared = true := by
  induction top generalizing scan with
  | nil =>
    rcases htwo with hscan | ⟨lhs, rhs, rest, hcons, -⟩
    · exact hscan
    · cases hcons
  | cons lhs rest ih =>
    rw [ConflictScan.run] at h ⊢
    split
    · rename_i hscan
      rw [if_pos hscan, hscan] at h
      cases h
    · rename_i hscan
      rw [if_neg hscan] at h
      apply ih _ h
      left
      rw [(scan.foldl_pair key winner derivedOf tolerancePpb lhs rest).2]
      rcases htwo with hcompared | ⟨first, second, others, hcons, hne⟩
      · exact .inl hcompared
      · cases hcons
        exact .inr ⟨second, List.mem_cons_self .., hne⟩

theorem topContenders_nodup (hdistinct : (contenders.map EvaluatedEvidence.source).Nodup) :
    ((topContenders contenders).map EvaluatedEvidence.source).Nodup :=
  hdistinct.sublist (List.filter_sublist.map _)

theorem conflictOf_spec (hknown : topAuthority contenders ≠ .unknown)
    (hdistinct : (contenders.map EvaluatedEvidence.source).Nodup) :
    (conflictOf key winner derivedOf tolerancePpb contenders = .insufficient ↔
      (topContenders contenders).length < 2) ∧
    (conflictOf key winner derivedOf tolerancePpb contenders = .conflicting ↔
      2 ≤ (topContenders contenders).length ∧
        ¬Peaceful key winner derivedOf tolerancePpb (topContenders contenders)) ∧
    (conflictOf key winner derivedOf tolerancePpb contenders = .corroborated ↔
      2 ≤ (topContenders contenders).length ∧
        Peaceful key winner derivedOf tolerancePpb (topContenders contenders)) := by
  have hnodup := topContenders_nodup hdistinct
  have hdecide : conflictOf key winner derivedOf tolerancePpb contenders =
      if (topContenders contenders).length < 2 then .insufficient
      else
        let scan := ConflictScan.run key winner derivedOf tolerancePpb {} (topContenders contenders)
        if scan.conflicting then .conflicting
        else if scan.compared then .corroborated
        else .none := by
    unfold conflictOf
    rw [if_neg hknown]
    rfl
  rw [hdecide]
  by_cases hfew : (topContenders contenders).length < 2
  · rw [if_pos hfew]
    simp [hfew, Nat.not_le.2 hfew]
  · rw [if_neg hfew]
    have hmany := Nat.not_lt.1 hfew
    have hconflicting := ConflictScan.run_conflicting key winner derivedOf tolerancePpb {}
      (topContenders contenders)
    simp only [Bool.false_eq_true, false_or] at hconflicting
    by_cases hpeace : Peaceful key winner derivedOf tolerancePpb (topContenders contenders)
    · have hcalm : (ConflictScan.run key winner derivedOf tolerancePpb {}
          (topContenders contenders)).conflicting = false := by
        rw [Bool.eq_false_iff, ne_eq, hconflicting]
        exact not_not_intro hpeace
      have hcompared : (ConflictScan.run key winner derivedOf tolerancePpb {}
          (topContenders contenders)).compared = true := by
        apply ConflictScan.run_compared _ _ _ _ _ _ hcalm
        right
        match htop : topContenders contenders with
        | [] => simp [htop] at hmany
        | [_] => simp [htop] at hmany
        | lhs :: rhs :: rest =>
          rw [htop] at hnodup
          refine ⟨lhs, rhs, rest, rfl, ?_⟩
          intro heq
          simp [heq] at hnodup
      simp [hcalm, hcompared, hfew, hmany, hpeace]
    · rw [← hconflicting] at hpeace
      simp [hpeace, hfew, hmany, ← hconflicting]

end Scan

theorem relativeDifferencePpb_comm (a b : UInt64) :
    relativeDifferencePpb a b = relativeDifferencePpb b a := by
  have hsides : (if a > b then a - b else b - a) = (if b > a then b - a else a - b) ∧
      (if a > b then a else b) = (if b > a then b else a) := by
    by_cases hgt : a > b
    · rw [if_pos hgt, if_pos hgt, if_neg (UInt64.not_lt.2 (UInt64.le_of_lt hgt)),
        if_neg (UInt64.not_lt.2 (UInt64.le_of_lt hgt))]
      exact ⟨rfl, rfl⟩
    · rw [if_neg hgt, if_neg hgt]
      by_cases hlt : b > a
      · rw [if_pos hlt, if_pos hlt]
        exact ⟨rfl, rfl⟩
      · have heq : a = b := UInt64.le_antisymm (UInt64.not_lt.1 hgt) (UInt64.not_lt.1 hlt)
        rw [heq, if_neg (UInt64.lt_irrefl b), if_neg (UInt64.lt_irrefl b)]
        exact ⟨rfl, rfl⟩
  unfold relativeDifferencePpb
  rw [hsides.1, hsides.2]

/-- Two readings of one key contradict each other: different known states, or values too far apart. -/
def Disagree (tolerancePpb : UInt64) : MetricPayload → MetricPayload → Prop
  | .adminState left, .adminState right => left ≠ right ∧ left ≠ .unknown ∧ right ≠ .unknown
  | .operState left, .operState right => left ≠ right ∧ left ≠ .unknown ∧ right ≠ .unknown
  | .ratio left, .ratio right => tolerancePpb < relativeDifferencePpb left right
  | .quality left, .quality right =>
    tolerancePpb < relativeDifferencePpb left.valuePpb right.valuePpb
  | _, _ => False

theorem readingsDisagree_iff (lhs rhs : MetricPayload) (tolerancePpb : UInt64) :
    readingsDisagree lhs rhs tolerancePpb = true ↔ Disagree tolerancePpb lhs rhs := by
  cases lhs <;> cases rhs <;>
    simp [readingsDisagree, Disagree, payloadDifferencePpb, MetricPayload.ratioValue]

theorem Disagree.symm (h : Disagree tolerancePpb lhs rhs) : Disagree tolerancePpb rhs lhs := by
  cases lhs <;> cases rhs <;> try exact h.elim
  case adminState.adminState => exact ⟨Ne.symm h.1, h.2.2, h.2.1⟩
  case operState.operState => exact ⟨Ne.symm h.1, h.2.2, h.2.1⟩
  case ratio.ratio =>
    simp only [Disagree] at *
    rw [relativeDifferencePpb_comm]
    exact h
  case quality.quality =>
    simp only [Disagree] at *
    rw [relativeDifferencePpb_comm]
    exact h

/-- Some two top contenders disagree. -/
def Disputed (tolerancePpb : UInt64) (contenders : List EvaluatedEvidence) : Prop :=
  ∃ a b, IsTop contenders a ∧ IsTop contenders b ∧ a ≠ b ∧
    Disagree tolerancePpb a.evidence.observation.payload b.evidence.observation.payload

theorem peaceful_iff {key : MetricKey} (winner : Option Derived) (derivedOf : SourceId → Derived)
    (tolerancePpb : UInt64) (hfamily : isCounterFamily key.family = false)
    (hdistinct : (contenders.map EvaluatedEvidence.source).Nodup) :
    Peaceful key winner derivedOf tolerancePpb (topContenders contenders) ↔
      ¬Disputed tolerancePpb contenders := by
  have hnodup := topContenders_nodup hdistinct
  have hclashes (a b : EvaluatedEvidence) : Clashes key winner derivedOf tolerancePpb a b ↔
      Disagree tolerancePpb a.evidence.observation.payload b.evidence.observation.payload := by
    unfold Clashes
    rw [hfamily, if_neg Bool.false_ne_true]
    exact readingsDisagree_iff _ _ _
  have hsymm : Std.Symm fun a b : EvaluatedEvidence =>
      a.source ≠ b.source → ¬Clashes key winner derivedOf tolerancePpb a b := by
    constructor
    intro a b h hne hclash
    rw [hclashes] at hclash
    exact h (Ne.symm hne) ((hclashes a b).2 hclash.symm)
  constructor
  · rintro hpeace ⟨a, b, ha, hb, hne, hdisagree⟩
    have hsource : a.source ≠ b.source := by
      intro heq
      exact hne (List.inj_on_of_nodup_map hdistinct ha.1 hb.1 heq)
    rw [← mem_topContenders] at ha hb
    exact hpeace.forall ha hb hne hsource ((hclashes a b).2 hdisagree)
  · intro hcalm
    apply List.Nodup.pairwise_of_forall_ne hnodup.of_map
    intro a ha b hb hne hsource hclash
    exact hcalm ⟨a, b, (mem_topContenders _ _).1 ha, (mem_topContenders _ _).1 hb, hne,
      (hclashes a b).1 hclash⟩

/-- The verdict the top contenders call for, whatever their order. -/
structure Settles (tolerancePpb : UInt64) (contenders : List EvaluatedEvidence)
    (verdict : ConflictState) : Prop where
  insufficient : verdict = .insufficient ↔ ∃! contender, IsTop contenders contender
  conflicting : ¬(∃! contender, IsTop contenders contender) →
    (verdict = .conflicting ↔ Disputed tolerancePpb contenders)
  corroborated : ¬(∃! contender, IsTop contenders contender) →
    (verdict = .corroborated ↔ ¬Disputed tolerancePpb contenders)

theorem few_top_iff (hknown : topAuthority contenders ≠ .unknown)
    (hdistinct : (contenders.map EvaluatedEvidence.source).Nodup) :
    (topContenders contenders).length < 2 ↔ ∃! contender, IsTop contenders contender := by
  have hnodup : (topContenders contenders).Nodup := (topContenders_nodup hdistinct).of_map
  have hsome : ∃ contender, contender ∈ topContenders contenders := by
    rcases (topAuthority_spec contenders).2 with hunknown | ⟨other, hmem, heligible, hauthority⟩
    · exact absurd hunknown hknown
    · refine ⟨other, List.mem_filter.2 ⟨hmem, ?_⟩⟩
      rw [heligible, hauthority]
      simp
  simp only [← mem_topContenders]
  constructor
  · intro hfew
    obtain ⟨contender, hmem⟩ := hsome
    have hone : (topContenders contenders).length = 1 := by
      have := List.length_pos_of_mem hmem
      omega
    obtain ⟨only, honly⟩ := List.length_eq_one_iff.1 hone
    rw [honly]
    exact ⟨only, by simp, by simp⟩
  · rintro ⟨only, hmem, hunique⟩
    by_contra hmany
    match htop : topContenders contenders with
    | [] => simp [htop] at hmany
    | [_] => simp [htop] at hmany
    | first :: second :: rest =>
      rw [htop] at hnodup hunique
      have hfirst := hunique first (by simp)
      have hsecond := hunique second (by simp)
      simp [hfirst, hsecond] at hnodup

theorem conflictOf_settles {key : MetricKey} (winner : Option Derived)
    (derivedOf : SourceId → Derived) (tolerancePpb : UInt64)
    (hfamily : isCounterFamily key.family = false) (hknown : topAuthority contenders ≠ .unknown)
    (hdistinct : (contenders.map EvaluatedEvidence.source).Nodup) :
    Settles tolerancePpb contenders (conflictOf key winner derivedOf tolerancePpb contenders) := by
  obtain ⟨hinsufficient, hconflicting, hcorroborated⟩ :=
    conflictOf_spec key winner derivedOf tolerancePpb hknown hdistinct
  have hfew := few_top_iff hknown hdistinct
  have hpeace := peaceful_iff winner derivedOf tolerancePpb hfamily hdistinct
  refine ⟨hinsufficient.trans hfew, ?_, ?_⟩
  · intro hmany
    rw [← hfew, Nat.not_lt] at hmany
    rw [hconflicting, hpeace, not_not]
    simp [hmany]
  · intro hmany
    rw [← hfew, Nat.not_lt] at hmany
    rw [hcorroborated, hpeace]
    simp [hmany]

theorem conflictOf_perm {key : MetricKey} (winner : Option Derived)
    (derivedOf : SourceId → Derived) (tolerancePpb : UInt64)
    (hfamily : isCounterFamily key.family = false)
    (hdistinct : (contenders.map EvaluatedEvidence.source).Nodup)
    (hperm : contenders.Perm permuted) :
    conflictOf key winner derivedOf tolerancePpb permuted =
      conflictOf key winner derivedOf tolerancePpb contenders := by
  have hdistinct' : (permuted.map EvaluatedEvidence.source).Nodup :=
    (hperm.map _).nodup_iff.1 hdistinct
  have htop := topContenders_perm hperm
  by_cases hknown : topAuthority contenders = .unknown
  · unfold conflictOf
    rw [if_pos hknown, if_pos ((topAuthority_perm hperm).trans hknown)]
  · have hknown' : topAuthority permuted ≠ .unknown := by
      rw [topAuthority_perm hperm]
      exact hknown
    have hdisputed : Disputed tolerancePpb contenders ↔ Disputed tolerancePpb permuted := by
      unfold Disputed
      simp only [← mem_topContenders, htop.mem_iff]
    obtain ⟨hfew, hclash, hcalm⟩ :=
      conflictOf_spec key winner derivedOf tolerancePpb hknown hdistinct
    obtain ⟨hfew', hclash', hcalm'⟩ :=
      conflictOf_spec key winner derivedOf tolerancePpb hknown' hdistinct'
    rw [← htop.length_eq] at hfew' hclash' hcalm'
    rw [peaceful_iff winner derivedOf tolerancePpb hfamily hdistinct] at hclash hcalm
    rw [peaceful_iff winner derivedOf tolerancePpb hfamily hdistinct', ← hdisputed]
      at hclash' hcalm'
    by_cases hlength : (topContenders contenders).length < 2
    · rw [hfew.2 hlength, hfew'.2 hlength]
    · by_cases hdispute : Disputed tolerancePpb contenders
      · have hverdict := And.intro (Nat.not_lt.1 hlength) (not_not_intro hdispute)
        rw [hclash.2 hverdict, hclash'.2 hverdict]
      · have hverdict := And.intro (Nat.not_lt.1 hlength) hdispute
        rw [hcalm.2 hverdict, hcalm'.2 hverdict]

theorem evaluateKey_conflict {input : ClassificationInput}
    (h : selectWinner (input.store.contenders input.link key input.context) = some winner) :
    (evaluateKey input key).report.conflict =
      conflictOf key (if isCounterFamily key.family then
          some (input.derivedForKey key winner.source) else none)
        (input.derivedForKey key) input.policy.thresholds.conflictTolerancePpb
        (input.store.contenders input.link key input.context) := by
  unfold evaluateKey
  simp only [h]
  cases isCounterFamily key.family with
  | true => rfl
  | false => rfl

/-- The eligible contender that precedes every other one. -/
def Wins (contenders : List EvaluatedEvidence) (winner : EvaluatedEvidence) : Prop :=
  winner ∈ contenders ∧ winner.eligible = true ∧
    ∀ other ∈ contenders, other.eligible = true → other ≠ winner → Precedes winner other

/-- Contenders, winner and conflict are those of the order-free definitions, for every store, key
and context; no permutation of the contenders changes the winner or the conflict. -/
theorem contenders_settled (store : EvidenceStore) (link : LinkId) (key : MetricKey)
    (context : EvaluationContext) (hbound : 1 ≤ store.policy.limits.maxContendersPerKey) :
    store.contenders link key context =
      ((firstOfEach Evidence.source (store.slotFor ⟨link, key⟩).history.reverse).take
        store.policy.limits.maxContendersPerKey.toNat).map
          (store.evaluateEvidence link key context) ∧
    (∀ winner, selectWinner (store.contenders link key context) = some winner ↔
      Wins (store.contenders link key context) winner) ∧
    (selectWinner (store.contenders link key context) = none ↔
      ∀ contender ∈ store.contenders link key context, contender.eligible = false) ∧
    (∀ input : ClassificationInput, input.store = store → input.link = link →
      input.context = context → isCounterFamily key.family = false →
      (∃ contender ∈ store.contenders link key context, contender.eligible = true ∧
        contender.evidence.authority ≠ .unknown) →
      (∃ report ∈ (classify input).families, report.key = key) ∧
      ∀ report ∈ (classify input).families, report.key = key →
        Settles input.policy.thresholds.conflictTolerancePpb (store.contenders link key context)
          report.conflict) ∧
    ∀ permuted, (store.contenders link key context).Perm permuted →
      selectWinner permuted = selectWinner (store.contenders link key context) ∧
      (isCounterFamily key.family = false → ∀ winner derivedOf tolerancePpb,
        conflictOf key winner derivedOf tolerancePpb permuted =
          conflictOf key winner derivedOf tolerancePpb (store.contenders link key context)) := by
  have hdistinct := store.contenders_nodup link key context
  refine ⟨?_, fun winner => selectWinner_iff hdistinct, selectWinner_none_iff hdistinct, ?_, ?_⟩
  · unfold EvidenceStore.slotFor
    rw [ExtTreeMap.getD_eq_getD_getElem?]
    cases hslot : store.slots[SlotKey.mk link key]? with
    | none =>
      unfold EvidenceStore.contenders
      rw [hslot]
      simp
    | some slot =>
      have hone : 1 ≤ store.policy.limits.maxContendersPerKey.toNat :=
        UInt64.le_iff_toNat_le.1 hbound
      rw [EvidenceStore.contenders_eq hslot, Nat.max_eq_right hone]
      rfl
  · rintro input rfl rfl rfl hfamily ⟨contender, hmem, heligible, hauthority⟩
    have hknown := topAuthority_known hmem heligible hauthority
    constructor
    · refine ⟨_, List.mem_map.2 ⟨_, List.mem_map.2 ⟨key, reportedKeys_of_contender hmem, rfl⟩, rfl⟩,
        ?_⟩
      rw [(FamilyReport.withRatio_kept _ _).1, evaluateKey_key]
    · intro report hreport hkey
      obtain ⟨reported, -, ratio, rfl⟩ := classify_families hreport
      rw [(FamilyReport.withRatio_kept _ _).1, evaluateKey_key] at hkey
      subst hkey
      rw [(FamilyReport.withRatio_kept _ _).2.2.1]
      cases hwinner : selectWinner (input.store.contenders input.link reported input.context) with
      | none =>
        rw [(selectWinner_none_iff hdistinct).1 hwinner contender hmem] at heligible
        cases heligible
      | some winner =>
        rw [evaluateKey_conflict hwinner]
        exact conflictOf_settles _ _ _ hfamily hknown hdistinct
  · intro permuted hperm
    refine ⟨selectWinner_perm hdistinct hperm, ?_⟩
    intro hfamily winner derivedOf tolerancePpb
    exact conflictOf_perm winner derivedOf tolerancePpb hfamily hdistinct hperm

/-- Two primary sources report opposite administrative states of a link. -/
def adminStore : EvidenceStore :=
  let enabled := EvidenceStore.accept { policy := makeDefaultPolicy }
    (adminReport ⟨⟨0, 1⟩⟩ 1 ⟨2⟩) { source := some (registeredSource ⟨⟨0, 1⟩⟩ .primary) } ⟨2⟩
  (enabled.1.accept { adminReport ⟨⟨0, 2⟩⟩ 1 ⟨3⟩ with payload := .adminState .disabled }
    { source := some (registeredSource ⟨⟨0, 2⟩⟩ .primary) } ⟨3⟩).1

def adminInput : ClassificationInput :=
  { link := ⟨⟨0, 1⟩⟩
    policy := makeDefaultPolicy
    store := adminStore
    transitions := { limits := makeDefaultPolicy.limits }
    now := ⟨3⟩ }

theorem contenders_settled_admin :
    let contenders := adminStore.contenders ⟨⟨0, 1⟩⟩ {} { now := ⟨3⟩ }
    contenders.length = 2 ∧
    contenders = ((firstOfEach Evidence.source
        (adminStore.slotFor ⟨⟨⟨0, 1⟩⟩, {}⟩).history.reverse).take 8).map
          (adminStore.evaluateEvidence ⟨⟨0, 1⟩⟩ {} { now := ⟨3⟩ }) ∧
    (∀ winner, selectWinner contenders = some winner ↔ Wins contenders winner) ∧
    (selectWinner contenders = none ↔ ∀ contender ∈ contenders, contender.eligible = false) ∧
    (∃ report ∈ (classify adminInput).families, report.key = {} ∧
      Settles makeDefaultPolicy.thresholds.conflictTolerancePpb contenders report.conflict) ∧
    selectWinner contenders.reverse = selectWinner contenders ∧
    ∀ winner derivedOf tolerancePpb,
      conflictOf {} winner derivedOf tolerancePpb contenders.reverse =
        conflictOf {} winner derivedOf tolerancePpb contenders := by
  obtain ⟨hnewest, hwins, hnone, hreports, hpermuted⟩ :=
    contenders_settled adminStore ⟨⟨0, 1⟩⟩ {} { now := ⟨3⟩ } (by decide +kernel)
  have heligible : ∃ contender ∈ adminStore.contenders ⟨⟨0, 1⟩⟩ {} { now := ⟨3⟩ },
      contender.eligible = true ∧ contender.evidence.authority ≠ .unknown := by
    decide +kernel
  obtain ⟨⟨report, hmem, hkey⟩, hsettles⟩ := hreports adminInput rfl rfl rfl rfl heligible
  obtain ⟨hsame, hconflict⟩ := hpermuted _ (List.reverse_perm _).symm
  exact ⟨by decide +kernel, hnewest, hwins, hnone, ⟨report, hmem, hkey, hsettles report hmem hkey⟩,
    hsame, hconflict rfl⟩

end LinkObservatory
