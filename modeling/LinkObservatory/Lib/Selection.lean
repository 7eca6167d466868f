import Mathlib.Data.List.Basic
import Mathlib.Data.List.FinRange
import Mathlib.Data.List.Induction
import Mathlib.Data.List.Dedup
import Mathlib.Data.List.Nodup
import Mathlib.Data.List.Perm.Basic

/-! Choosing one of many: the best eligible item of a list, and the first item for each key. -/

namespace Selection
set_option autoImplicit true

section Best

variable {eligible : α → Bool} {better : α → α → Bool}

/-- One step of the choice: an eligible candidate replaces a weaker one. -/
def step (eligible : α → Bool) (better : α → α → Bool) (held : Option α) (candidate : α) :
    Option α :=
  if !eligible candidate then held
  else match held with
    | none => some candidate
    | some best => if better candidate best then some candidate else held

/-- The choice over a whole list. -/
def select (eligible : α → Bool) (better : α → α → Bool) (items : List α) : Option α :=
  items.foldl (step eligible better) none

/-- An eligible item that is better than every other one. -/
structure Best (eligible : α → Bool) (better : α → α → Bool) (items : List α) (best : α) :
    Prop where
  mem : best ∈ items
  qualifies : eligible best = true
  beats : ∀ other ∈ items, eligible other = true → other ≠ best → better best other = true

/-- A strict order that decides between any two items of the list. -/
structure Decides (better : α → α → Bool) (items : List α) : Prop where
  asymm : ∀ a b, better a b = true → better b a = false
  trans : ∀ a b c, better a b = true → better b c = true → better a c = true
  total : ∀ a ∈ items, ∀ b ∈ items, a ≠ b → better a b = true ∨ better b a = true

theorem Decides.subset (h : Decides better items) (hsub : fewer ⊆ items) :
    Decides better fewer where
  asymm := h.asymm
  trans := h.trans
  total a ha b hb := h.total a (hsub ha) b (hsub hb)

theorem Best.unique (h : Best eligible better items best) (h' : Best eligible better items best')
    (hdecides : Decides better items) : best = best' := by
  by_contra hne
  have hwins := h.beats best' h'.mem h'.qualifies (Ne.symm hne)
  have hloses := h'.beats best h.mem h.qualifies hne
  rw [hdecides.asymm _ _ hwins] at hloses
  cases hloses

theorem Best.of_perm (h : Best eligible better items best) (hperm : items.Perm permuted) :
    Best eligible better permuted best where
  mem := hperm.mem_iff.1 h.mem
  qualifies := h.qualifies
  beats other hmem := h.beats other (hperm.mem_iff.2 hmem)

theorem select_holds (eligible : α → Bool) (hdecides : Decides better items) :
    (select eligible better items = none ∧ ∀ item ∈ items, eligible item = false) ∨
      ∃ best, select eligible better items = some best ∧ Best eligible better items best := by
  induction items using List.reverseRecOn with
  | nil => exact .inl ⟨rfl, fun item hmem => (List.not_mem_nil hmem).elim⟩
  | append_singleton items candidate ih =>
    have hselect : select eligible better (items ++ [candidate]) =
        step eligible better (select eligible better items) candidate := by
      unfold select
      rw [List.foldl_append]
      rfl
    rw [hselect]
    have hprior := ih (hdecides.subset (List.subset_append_left ..))
    cases hcandidate : eligible candidate with
    | false =>
      -- an ineligible candidate changes nothing
      have hkept (held : Option α) : step eligible better held candidate = held := by
        simp [step, hcandidate]
      rw [hkept]
      rcases hprior with ⟨hnone, hall⟩ | ⟨best, hsome, hbest⟩
      · refine .inl ⟨hnone, ?_⟩
        intro item hmem
        rcases List.mem_append.1 hmem with hmem | hmem
        · exact hall item hmem
        · rw [List.mem_singleton.1 hmem]
          exact hcandidate
      · refine .inr ⟨best, hsome, List.mem_append_left _ hbest.mem, hbest.qualifies, ?_⟩
        intro other hmem heligible hne
        rcases List.mem_append.1 hmem with hmem | hmem
        · exact hbest.beats other hmem heligible hne
        · rw [List.mem_singleton.1 hmem, hcandidate] at heligible
          cases heligible
    | true =>
      right
      rcases hprior with ⟨hnone, hall⟩ | ⟨best, hsome, hbest⟩
      · refine ⟨candidate, by simp [step, hcandidate, hnone], by simp, hcandidate, ?_⟩
        intro other hmem heligible hne
        rcases List.mem_append.1 hmem with hmem | hmem
        · rw [hall other hmem] at heligible
          cases heligible
        · exact absurd (List.mem_singleton.1 hmem) hne
      · rw [hsome]
        by_cases hbetter : better candidate best = true
        · refine ⟨candidate, by simp [step, hcandidate, hbetter], by simp, hcandidate, ?_⟩
          intro other hmem heligible hne
          rcases List.mem_append.1 hmem with hmem | hmem
          · by_cases hsame : other = best
            · rw [hsame]
              exact hbetter
            · exact hdecides.trans _ _ _ hbetter (hbest.beats other hmem heligible hsame)
          · exact absurd (List.mem_singleton.1 hmem) hne
        · refine ⟨best, by simp [step, hcandidate, hbetter], List.mem_append_left _ hbest.mem,
            hbest.qualifies, ?_⟩
          intro other hmem heligible hne
          rcases List.mem_append.1 hmem with hmem | hmem
          · exact hbest.beats other hmem heligible hne
          · rw [List.mem_singleton.1 hmem] at hne ⊢
            rcases hdecides.total candidate (by simp) best (List.mem_append_left _ hbest.mem) hne
              with h | h
            · exact absurd h hbetter
            · exact h

theorem select_eq_some_iff (hdecides : Decides better items) :
    select eligible better items = some best ↔ Best eligible better items best := by
  rcases select_holds eligible hdecides with ⟨hnone, hall⟩ | ⟨found, hsome, hfound⟩
  · rw [hnone]
    refine iff_of_false (fun h => nomatch h) (fun hbest => ?_)
    have hqualifies := hbest.qualifies
    rw [hall best hbest.mem] at hqualifies
    cases hqualifies
  · rw [hsome]
    constructor
    · rintro ⟨⟩
      exact hfound
    · intro hbest
      exact congrArg some (hfound.unique hbest hdecides)

theorem select_eq_none_iff (hdecides : Decides better items) :
    select eligible better items = none ↔ ∀ item ∈ items, eligible item = false := by
  rcases select_holds eligible hdecides with ⟨hnone, hall⟩ | ⟨found, hsome, hfound⟩
  · exact iff_of_true hnone hall
  · rw [hsome]
    refine iff_of_false (fun h => nomatch h) (fun hall => ?_)
    have hqualifies := hfound.qualifies
    rw [hall found hfound.mem] at hqualifies
    cases hqualifies

/-- The choice does not depend on the order of the list. -/
theorem select_perm (hdecides : Decides better items) (hperm : items.Perm permuted) :
    select eligible better permuted = select eligible better items := by
  have hdecides' : Decides better permuted := hdecides.subset hperm.symm.subset
  cases hitems : select eligible better items with
  | none =>
    rw [select_eq_none_iff hdecides] at hitems
    rw [select_eq_none_iff hdecides']
    intro item hmem
    exact hitems item (hperm.mem_iff.2 hmem)
  | some best =>
    rw [select_eq_some_iff hdecides] at hitems
    rw [select_eq_some_iff hdecides']
    exact hitems.of_perm hperm

end Best

section First

variable [DecidableEq κ]

/-- The items no earlier item shares its key with, in order. -/
def firstOfEach (key : α → κ) (items : List α) : List α :=
  ((List.finRange items.length).filter fun i =>
    decide (∀ j, j < i → key (items.get j) ≠ key (items.get i))).map items.get

theorem firstOfEach_cons (key : α → κ) (item : α) (items : List α) :
    firstOfEach key (item :: items) =
      item :: (firstOfEach key items).filter fun other => key other ≠ key item := by
  unfold firstOfEach
  show ((List.finRange (items.length + 1)).filter _).map _ = _
  rw [List.finRange_succ, List.filter_cons, if_pos (by simp), List.map_cons, List.filter_map,
    List.map_map, List.filter_map, List.filter_filter]
  congr 2
  apply List.filter_congr
  intro i _
  rw [Function.comp_apply, Function.comp_apply, ← Bool.decide_and, decide_eq_decide]
  constructor
  · intro h
    exact ⟨(h 0 (Fin.succ_pos i)).symm, fun j hj => h j.succ (Fin.succ_lt_succ_iff.2 hj)⟩
  · rintro ⟨hne, h⟩ j hj
    cases j using Fin.cases with
    | zero => exact Ne.symm hne
    | succ j => exact h j (Fin.succ_lt_succ_iff.1 hj)

@[simp] theorem firstOfEach_nil (key : α → κ) : firstOfEach key [] = [] := rfl

theorem mem_of_mem_firstOfEach (key : α → κ) {items : List α} (h : item ∈ firstOfEach key items) :
    item ∈ items := by
  obtain ⟨i, -, rfl⟩ := List.mem_map.1 h
  exact List.get_mem items i

theorem firstOfEach_nodup (key : α → κ) (items : List α) :
    ((firstOfEach key items).map key).Nodup := by
  induction items with
  | nil => exact List.nodup_nil
  | cons item items ih =>
    rw [firstOfEach_cons, List.map_cons, List.nodup_cons]
    constructor
    · intro hmem
      obtain ⟨other, hother, heq⟩ := List.mem_map.1 hmem
      exact (of_decide_eq_true (List.mem_filter.1 hother).2) heq
    · exact ih.sublist (List.filter_sublist.map key)

theorem firstOfEach_append (key : α → κ) (before after : List α) :
    firstOfEach key (before ++ after) = firstOfEach key before ++
      (firstOfEach key after).filter fun item => key item ∉ before.map key := by
  induction before with
  | nil => simp
  | cons item before ih =>
    rw [List.cons_append, firstOfEach_cons, firstOfEach_cons, ih, List.filter_append,
      List.filter_filter, List.cons_append]
    congr 2
    apply List.filter_congr
    intro other _
    rw [List.map_cons, ← Bool.decide_and, decide_eq_decide]
    simp

theorem mem_map_firstOfEach (key : α → κ) (items : List α) (k : κ) :
    k ∈ (firstOfEach key items).map key ↔ k ∈ items.map key := by
  induction items with
  | nil => rfl
  | cons item items ih =>
    rw [firstOfEach_cons, List.map_cons, List.map_cons, List.mem_cons, List.mem_cons, ← ih]
    by_cases hk : k = key item
    · simp [hk]
    · simp only [hk, false_or, List.mem_map, List.mem_filter, decide_eq_true_eq]
      constructor
      · rintro ⟨other, ⟨hmem, -⟩, rfl⟩
        exact ⟨other, hmem, rfl⟩
      · rintro ⟨other, hmem, rfl⟩
        exact ⟨other, ⟨hmem, hk⟩, rfl⟩

theorem firstOfEach_length (key : α → κ) (items : List α) :
    (firstOfEach key items).length = (items.map key).dedup.length := by
  have hkeys : List.Perm ((firstOfEach key items).map key) (items.map key).dedup := by
    rw [List.perm_ext_iff_of_nodup (firstOfEach_nodup key items) (List.nodup_dedup _)]
    intro k
    rw [List.mem_dedup, mem_map_firstOfEach]
  rw [← hkeys.length_eq, List.length_map]

/-- An item that shares no key with an earlier one is among the first, after as many as there are
earlier keys. -/
theorem mem_take_firstOfEach (key : α → κ) (before : List α) (item : α) (after : List α)
    (hnew : key item ∉ before.map key) (hroom : (before.map key).dedup.length < bound) :
    item ∈ (firstOfEach key (before ++ item :: after)).take bound := by
  rw [firstOfEach_append, firstOfEach_cons, List.filter_cons_of_pos (by simpa using hnew),
    List.take_append]
  apply List.mem_append_right
  rw [firstOfEach_length]
  obtain ⟨more, hmore⟩ := Nat.exists_eq_add_of_lt hroom
  have hleft : bound - (before.map key).dedup.length = more + 1 := by omega
  rw [hleft, List.take_succ_cons]
  exact List.mem_cons_self ..

end First

end Selection
