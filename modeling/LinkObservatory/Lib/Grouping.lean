import Mathlib

namespace Grouping
set_option autoImplicit true

/-- The elements filed under one key, in their order. -/
def group (key : α → Option Nat) (items : List α) (index : Nat) : List α :=
  items.filter fun item => key item = some index

/-- The elements filed under the first `n` keys are those keys' groups, put together. -/
theorem perm_groups (key : α → Option Nat) (items : List α) (n : Nat) :
    (items.filter fun item => (key item).any (· < n)).Perm
      ((List.range n).flatMap (group key items)) := by
  induction n with
  | zero => simp
  | succ n ih =>
    rw [List.range_succ, List.flatMap_append, List.flatMap_singleton]
    refine ((List.filter_append_perm (fun item => (key item).any (· < n)) _).symm.trans
      (List.Perm.append ?_ ?_))
    · rw [List.filter_filter]
      refine List.Perm.trans (List.Perm.of_eq (List.filter_congr fun item _ => ?_)) ih
      cases key item with
      | none => rfl
      | some index => simp; omega
    · rw [List.filter_filter, group]
      refine List.Perm.of_eq (List.filter_congr fun item _ => ?_)
      cases key item with
      | none => rfl
      | some index =>
        rw [Bool.eq_iff_iff]
        simp only [Option.any_some, Option.some.injEq, Bool.and_eq_true, decide_eq_true_eq,
          Bool.not_eq_true', decide_eq_false_iff_not]
        omega

/-- A list whose keys are all below the bound is its groups, put together. -/
theorem perm_groups_of_lt (key : α → Option Nat) {items : List α}
    (h : ∀ item ∈ items, ∃ index, key item = some index ∧ index < n) :
    items.Perm ((List.range n).flatMap (group key items)) := by
  refine List.Perm.trans (List.Perm.of_eq ?_) (perm_groups key items n)
  refine (List.filter_eq_self.2 fun item hmem => ?_).symm
  obtain ⟨index, hkey, hlt⟩ := h item hmem
  simp [hkey, hlt]

theorem flatMap_group (key : α → Option Nat) (index : Nat) {items : List α} {part : α → List β}
    (h : ∀ item ∈ items, key item ≠ some index → part item = []) :
    (group key items index).flatMap part = items.flatMap part := by
  induction items with
  | nil => rfl
  | cons item items ih =>
    have hitems := ih fun other hmem => h other (List.mem_cons_of_mem _ hmem)
    unfold group at hitems ⊢
    by_cases hkey : key item = some index
    · rw [List.filter_cons_of_pos (by simp [hkey]), List.flatMap_cons, List.flatMap_cons, hitems]
    · rw [List.filter_cons_of_neg (by simp [hkey]), hitems, List.flatMap_cons,
        h item List.mem_cons_self hkey, List.nil_append]

theorem flatMap_range (items : List α) (part : α → List β) :
    items.flatMap part =
      (List.range items.length).flatMap fun index => (items[index]?).elim [] part := by
  have hsome : (List.range items.length).map (fun index => items[index]?) = items.map some :=
    List.ext_getElem (by simp) (by simp)
  rw [← List.flatMap_map (fun index => items[index]?) fun item => item.elim [] part, hsome,
    List.flatMap_map]
  rfl

theorem flatMap_filter {items : List α} {keep : α → Bool} {part : α → List β}
    (h : ∀ item ∈ items, keep item = false → part item = []) :
    (items.filter keep).flatMap part = items.flatMap part := by
  induction items with
  | nil => rfl
  | cons item items ih =>
    have hitems := ih fun other hmem => h other (List.mem_cons_of_mem _ hmem)
    cases hkeep : keep item with
    | true => rw [List.filter_cons_of_pos hkeep, List.flatMap_cons, List.flatMap_cons, hitems]
    | false =>
      rw [List.filter_cons_of_neg (by simp [hkeep]), hitems, List.flatMap_cons,
        h item List.mem_cons_self hkeep, List.nil_append]

/-- A list in which the kept elements come first. -/
theorem filter_append_filter {keep : α → Bool} {items : List α}
    (h : items.Pairwise fun first second => keep second = true → keep first = true) :
    items.filter keep ++ items.filter (fun item => !keep item) = items := by
  induction items with
  | nil => rfl
  | cons item items ih =>
    obtain ⟨hfirst, hrest⟩ := List.pairwise_cons.1 h
    cases hkeep : keep item with
    | true =>
      rw [List.filter_cons_of_pos hkeep, List.filter_cons_of_neg (by simp [hkeep]),
        List.cons_append, ih hrest]
    | false =>
      have hnone : ∀ other ∈ items, keep other = false := by
        intro other hmem
        by_contra hkept
        rw [hfirst other hmem (by simpa using hkept)] at hkeep
        cases hkeep
      have hall : items.filter (fun item => !keep item) = items :=
        List.filter_eq_self.2 fun other hmem => by rw [hnone other hmem]; rfl
      rw [List.filter_cons_of_neg (by simp [hkeep]), List.filter_cons_of_pos (by simp [hkeep]),
        List.filter_eq_nil_iff.2 fun other hmem => by simp [hnone other hmem], hall]
      rfl

/-- A list sorted by its keys is its groups, one after the other. -/
theorem groups_of_sorted (key : α → Nat) {items : List α}
    (hsorted : items.Pairwise fun first second => key first ≤ key second)
    (hlt : ∀ item ∈ items, key item < n) :
    items = (List.range n).flatMap (group (fun item => some (key item)) items) := by
  induction n generalizing items with
  | zero => exact List.eq_nil_iff_forall_not_mem.2 fun item hmem => absurd (hlt item hmem) (by simp)
  | succ n ih =>
    have hsublist : (items.filter fun item => decide (key item < n)).Sublist items :=
      List.filter_sublist
    have hfirst := ih (hsorted.sublist hsublist) fun item hmem =>
      of_decide_eq_true (List.mem_filter.1 hmem).2
    have hbelow : items.Pairwise fun first second =>
        decide (key second < n) = true → decide (key first < n) = true :=
      hsorted.imp fun hle hkept => decide_eq_true (hle.trans_lt (of_decide_eq_true hkept))
    have hsplit := filter_append_filter hbelow
    rw [List.range_succ, List.flatMap_append, List.flatMap_singleton]
    refine hsplit.symm.trans (congrArg₂ _ (hfirst.trans ?_) ?_)
    · refine List.flatMap_congr fun index hmem => ?_
      rw [group, group, List.filter_filter]
      refine List.filter_congr fun item _ => ?_
      have hindex := List.mem_range.1 hmem
      by_cases heq : key item = index
      · simp [heq, hindex]
      · simp [heq]
    · refine List.filter_congr fun item hmem => ?_
      have hbound := hlt item hmem
      by_cases heq : key item = n
      · simp [heq]
      · simp [heq]
        omega

theorem flatMap_range_prefix {first second : Nat → List α}
    (hbegins : ∀ index < n, first index <+: second index)
    (hothers : ∀ index < n, index + 1 ≠ n → first index = second index) :
    (List.range n).flatMap first <+: (List.range n).flatMap second := by
  cases n with
  | zero => exact List.prefix_refl _
  | succ n =>
    have hsame : (List.range n).flatMap first = (List.range n).flatMap second :=
      List.flatMap_congr fun index hmem => by
        have hlt := List.mem_range.1 hmem
        exact hothers index (by omega) (by omega)
    rw [List.range_succ, List.flatMap_append, List.flatMap_append, hsame, List.flatMap_singleton,
      List.flatMap_singleton, List.prefix_append_right_inj]
    exact hbegins n (by omega)

theorem flatMap_range_one {part : Nat → List α} (hlt : index < n)
    (h : ∀ other, other ≠ index → part other = []) : (List.range n).flatMap part = part index := by
  rw [← flatMap_group some index fun other _ hne => h other fun heq => hne (congrArg some heq)]
  have hgroup : group some (List.range n) index = [index] := by
    simp only [group, Option.some.injEq]
    rw [List.filter_eq, List.count_eq_one_of_mem List.nodup_range (List.mem_range.2 hlt)]
    rfl
  rw [hgroup, List.flatMap_singleton]

end Grouping
