import LinkObservatory.Lib.Selection
import LinkObservatory.Winner

namespace LinkObservatory
set_option autoImplicit true

open Std Selection

/-- The source an item of evidence came from. -/
def Evidence.source (evidence : Evidence) : SourceId := evidence.observation.provenance.source

theorem collectContenders_eq {evaluate : Evidence → EvaluatedEvidence} (hroom : out.length < bound) :
    collectContenders bound evaluate items seen out =
      out ++ ((((firstOfEach Evidence.source items).filter fun item => item.source ∉ seen).take
        (bound - out.length)).map evaluate) := by
  induction items generalizing seen out with
  | nil => simp [collectContenders]
  | cons item items ih =>
    rw [collectContenders, firstOfEach_cons]
    show (if item.source ∈ seen then _ else _) = _
    by_cases hseen : item.source ∈ seen
    · rw [if_pos hseen, ih hroom, List.filter_cons_of_neg (by simpa using hseen), List.filter_filter]
      congr 3
      apply List.filter_congr
      intro other _
      have hne (h : other.source ∉ seen) : other.source ≠ item.source := by
        rintro heq
        exact h (heq ▸ hseen)
      simpa using hne
    · rw [if_neg hseen, List.filter_cons_of_pos (by simpa using hseen)]
      have hlength : (out ++ [evaluate item]).length = out.length + 1 := by simp
      simp only
      split
      · rename_i hfull
        have hone : bound - out.length = 1 := by omega
        rw [hone]
        simp
      · rename_i hmore
        have hleft : bound - out.length = bound - (out ++ [evaluate item]).length + 1 := by omega
        rw [ih (by omega), hleft, List.take_succ_cons, List.map_cons, List.append_assoc,
          List.filter_filter]
        show _ = out ++ ([evaluate item] ++ _)
        congr 5
        funext other
        have hmem : other.source ∉ seen ++ [item.source] ↔
            other.source ∉ seen ∧ other.source ≠ item.source := by
          simp
        exact (decide_eq_decide.2 hmem).trans (Bool.decide_and _ _)

namespace EvidenceStore

theorem contenders_eq {store : EvidenceStore} {slot : Slot}
    (hslot : store.slots[SlotKey.mk link key]? = some slot) (context : EvaluationContext) :
    store.contenders link key context =
      ((firstOfEach Evidence.source slot.history.reverse).take
        (max 1 store.policy.limits.maxContendersPerKey.toNat)).map
          (store.evaluateEvidence link key context) := by
  have hone (evaluate : Evidence → EvaluatedEvidence) (items : List Evidence) (bound : Nat) :
      collectContenders bound evaluate items [] [] =
        collectContenders (max 1 bound) evaluate items [] [] := by
    cases bound with
    | zero =>
      cases items with
      | nil => rfl
      | cons item items => simp [collectContenders]
    | succ bound => rw [Nat.max_eq_right (Nat.le_add_left 1 bound)]
  unfold contenders
  rw [hslot]
  simp only
  rw [hone, collectContenders_eq (by simp)]
  simp

theorem contenders_nodup (store : EvidenceStore) (link : LinkId) (key : MetricKey)
    (context : EvaluationContext) :
    ((store.contenders link key context).map EvaluatedEvidence.source).Nodup := by
  cases hslot : store.slots[SlotKey.mk link key]? with
  | none =>
    unfold contenders
    rw [hslot]
    exact List.nodup_nil
  | some slot =>
    rw [contenders_eq hslot, List.map_map]
    exact (firstOfEach_nodup Evidence.source _).sublist ((List.take_sublist _ _).map _)

end EvidenceStore

/-- The order of the winner selection: the highest authority, then the latest observation, then the
latest receipt, then the lowest source. -/
def Precedes (lhs rhs : EvaluatedEvidence) : Prop :=
  rhs.evidence.authority.code < lhs.evidence.authority.code ∨
  lhs.evidence.authority = rhs.evidence.authority ∧
    (rhs.evidence.observation.observedAt.nanos < lhs.evidence.observation.observedAt.nanos ∨
    lhs.evidence.observation.observedAt = rhs.evidence.observation.observedAt ∧
      (rhs.evidence.observation.receivedAt.nanos < lhs.evidence.observation.receivedAt.nanos ∨
      lhs.evidence.observation.receivedAt = rhs.evidence.observation.receivedAt ∧
        StrongId.compare lhs.source rhs.source = .lt))

theorem higherPriority_iff (lhs rhs : EvaluatedEvidence) :
    higherPriority lhs rhs = true ↔ Precedes lhs rhs := by
  unfold higherPriority Precedes
  by_cases hauthority : lhs.evidence.authority = rhs.evidence.authority
  · rw [if_neg (by simpa using hauthority)]
    by_cases hobserved : lhs.evidence.observation.observedAt = rhs.evidence.observation.observedAt
    · rw [if_neg (by simpa using hobserved)]
      by_cases hreceived :
          lhs.evidence.observation.receivedAt = rhs.evidence.observation.receivedAt
      · rw [if_neg (by simpa using hreceived)]
        simp [hauthority, hobserved, hreceived]
      · rw [if_pos (by simpa using hreceived)]
        simp [hauthority, hobserved, hreceived]
    · rw [if_pos (by simpa using hobserved)]
      simp [hauthority, hobserved]
  · rw [if_pos (by simpa using hauthority)]
    simp [hauthority]

theorem SourceAuthority.code_inj {a b : SourceAuthority} (h : a.code = b.code) : a = b := by
  cases a <;> cases b <;> first | rfl | exact absurd h (by decide)

theorem TimePoint.eq_of_nanos {a b : TimePoint} (h : a.nanos = b.nanos) : a = b := by
  cases a
  cases b
  exact congrArg TimePoint.mk h

theorem StrongId.compare_swap (a b : SourceId) :
    StrongId.compare b a = (StrongId.compare a b).swap := OrientedCmp.eq_swap

theorem Precedes.asymm (h : Precedes a b) : ¬Precedes b a := by
  have hsource : StrongId.compare a.source b.source = .lt →
      ¬StrongId.compare b.source a.source = .lt := by
    intro hlt hgt
    rw [StrongId.compare_swap, hlt] at hgt
    cases hgt
  unfold Precedes at *
  rcases h with h | ⟨ha, h | ⟨ho, h | ⟨hr, h⟩⟩⟩
  all_goals
    rintro (h' | ⟨ha', h' | ⟨ho', h' | ⟨hr', h'⟩⟩⟩)
  all_goals grind

theorem Precedes.trans (h : Precedes a b) (h' : Precedes b c) : Precedes a c := by
  have hsource : StrongId.compare a.source b.source = .lt →
      StrongId.compare b.source c.source = .lt → StrongId.compare a.source c.source = .lt :=
    TransCmp.lt_trans
  unfold Precedes at *
  rcases h with h | ⟨ha, h | ⟨ho, h | ⟨hr, h⟩⟩⟩
  all_goals
    rcases h' with h' | ⟨ha', h' | ⟨ho', h' | ⟨hr', h'⟩⟩⟩
  all_goals grind

/-- Two contenders of different sources never tie. -/
theorem Precedes.total (h : a.source ≠ b.source) : Precedes a b ∨ Precedes b a := by
  have hsource : StrongId.compare a.source b.source = .lt ∨
      StrongId.compare b.source a.source = .lt := by
    cases hcompare : StrongId.compare a.source b.source with
    | lt => exact .inl rfl
    | eq => exact absurd (LawfulEqCmp.eq_of_compare hcompare) h
    | gt =>
      rw [StrongId.compare_swap, hcompare]
      exact .inr rfl
  unfold Precedes
  by_cases hauthority : a.evidence.authority = b.evidence.authority
  · by_cases hobserved : a.evidence.observation.observedAt = b.evidence.observation.observedAt
    · by_cases hreceived : a.evidence.observation.receivedAt = b.evidence.observation.receivedAt
      · grind
      · have hne : a.evidence.observation.receivedAt.nanos ≠
            b.evidence.observation.receivedAt.nanos := fun heq => hreceived (TimePoint.eq_of_nanos heq)
        grind
    · have hne : a.evidence.observation.observedAt.nanos ≠
          b.evidence.observation.observedAt.nanos := fun heq => hobserved (TimePoint.eq_of_nanos heq)
      grind
  · have hne : a.evidence.authority.code ≠ b.evidence.authority.code :=
      fun heq => hauthority (SourceAuthority.code_inj heq)
    grind

theorem selectWinner_eq (contenders : List EvaluatedEvidence) :
    selectWinner contenders = select EvaluatedEvidence.eligible higherPriority contenders := by
  have hstep : preferred = step EvaluatedEvidence.eligible higherPriority := by
    funext held candidate
    cases held with
    | none => rfl
    | some best => rfl
  unfold selectWinner select
  rw [hstep]

theorem higherPriority_decides (h : (contenders.map EvaluatedEvidence.source).Nodup) :
    Decides higherPriority contenders where
  asymm a b hab := by
    rw [Bool.eq_false_iff]
    intro hba
    exact ((higherPriority_iff a b).1 hab).asymm ((higherPriority_iff b a).1 hba)
  trans a b c hab hbc := by
    rw [higherPriority_iff] at *
    exact hab.trans hbc
  total a ha b hb hne := by
    rw [higherPriority_iff, higherPriority_iff]
    apply Precedes.total
    intro hsource
    exact hne (List.inj_on_of_nodup_map h ha hb hsource)

theorem selectWinner_iff (h : (contenders.map EvaluatedEvidence.source).Nodup) :
    selectWinner contenders = some winner ↔ winner ∈ contenders ∧ winner.eligible = true ∧
      ∀ other ∈ contenders, other.eligible = true → other ≠ winner → Precedes winner other := by
  rw [selectWinner_eq, select_eq_some_iff (higherPriority_decides h)]
  constructor
  · rintro ⟨hmem, heligible, hbeats⟩
    refine ⟨hmem, heligible, ?_⟩
    intro other hother hqualifies hne
    exact (higherPriority_iff _ _).1 (hbeats other hother hqualifies hne)
  · rintro ⟨hmem, heligible, hprecedes⟩
    refine ⟨hmem, heligible, ?_⟩
    intro other hother hqualifies hne
    exact (higherPriority_iff _ _).2 (hprecedes other hother hqualifies hne)

theorem selectWinner_none_iff (h : (contenders.map EvaluatedEvidence.source).Nodup) :
    selectWinner contenders = none ↔ ∀ contender ∈ contenders, contender.eligible = false := by
  rw [selectWinner_eq, select_eq_none_iff (higherPriority_decides h)]

theorem selectWinner_perm (h : (contenders.map EvaluatedEvidence.source).Nodup)
    (hperm : contenders.Perm permuted) : selectWinner permuted = selectWinner contenders := by
  rw [selectWinner_eq, selectWinner_eq, select_perm (higherPriority_decides h) hperm]

end LinkObservatory
