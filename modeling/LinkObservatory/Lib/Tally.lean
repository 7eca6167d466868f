import LinkObservatory.Lib.OrderedMap

namespace Tally
set_option autoImplicit true

open Std

/-- One count is one higher, the others are the same. -/
def Grows (before after : α → UInt64) : Prop :=
  ∃ k, after k = before k + 1 ∧ ∀ other ≠ k, after other = before other

/-- Short of a wrap, the sum over keys that hold the grown one grows by one. -/
theorem sum_grows [DecidableEq α] {before after : α → UInt64} {keys : Finset α}
    (h : Grows before after) (hkeys : ∀ k, after k ≠ before k → k ∈ keys)
    (hroom : ∑ k ∈ keys, (before k).toNat + 1 < 2 ^ 64) :
    ∑ k ∈ keys, (after k).toNat = ∑ k ∈ keys, (before k).toNat + 1 := by
  obtain ⟨k, hgrown, hsame⟩ := h
  have hne : after k ≠ before k := by
    rw [hgrown]
    intro heq
    have hzero : (1 : UInt64) = 0 := by
      rw [← UInt64.add_right_inj (c := before k), heq, UInt64.add_zero]
    cases hzero
  have hmem := hkeys k hne
  have hrest : ∑ other ∈ keys.erase k, (after other).toNat =
      ∑ other ∈ keys.erase k, (before other).toNat := by
    apply Finset.sum_congr rfl
    intro other hother
    rw [hsame other (Finset.ne_of_mem_erase hother)]
  have hbefore := Finset.add_sum_erase keys (fun k => (before k).toNat) hmem
  have hafter := Finset.add_sum_erase keys (fun k => (after k).toNat) hmem
  rw [hgrown, UInt64.toNat_add, hrest] at hafter
  have hone : (1 : UInt64).toNat = 1 := rfl
  omega

variable {α : Type u} {β : Type v} {cmp : α → α → Ordering} [TransCmp cmp] [LawfulEqCmp cmp]

/-- The count of an entry; an absent one counts nothing. -/
def countAt (count : β → UInt64) (m : ExtTreeMap α β cmp) (k : α) : UInt64 :=
  (m[k]?).elim 0 count

/-- The sum of a count over the entries of a map. -/
def total (count : β → UInt64) (m : ExtTreeMap α β cmp) : Nat :=
  (m.toList.map fun entry => (count entry.2).toNat).sum

omit [LawfulEqCmp cmp] in
@[simp] theorem total_empty (count : β → UInt64) : total count (∅ : ExtTreeMap α β cmp) = 0 := by
  rw [total, ExtTreeMap.toList_eq_nil_iff.2 rfl]
  rfl

theorem total_eq_sum [DecidableEq α] (count : β → UInt64) (m : ExtTreeMap α β cmp)
    {keys : Finset α} (hkeys : ∀ k ∈ m, k ∈ keys) :
    total count m = ∑ k ∈ keys, (countAt count m k).toNat := by
  have hentries : (m.toList.map fun entry => (count entry.2).toNat) =
      m.keys.map fun k => (countAt count m k).toNat := by
    rw [← ExtTreeMap.map_fst_toList_eq_keys, List.map_map]
    apply List.map_congr_left
    intro entry hentry
    have hlookup := ExtTreeMap.mem_toList_iff_getElem?_eq_some.1 hentry
    simp only [Function.comp_apply, countAt, hlookup, Option.elim_some]
  have hnodup : m.keys.Nodup := ExtTreeMap.nodup_keys
  rw [total, hentries, ← List.sum_toFinset _ hnodup]
  apply Finset.sum_subset
  · intro k hk
    exact hkeys k (ExtTreeMap.mem_keys.1 (List.mem_toFinset.1 hk))
  · intro k _ hk
    have hnone : m[k]? = none := by
      cases hlookup : m[k]? with
      | none => rfl
      | some v =>
        have hmem : k ∈ m := by simp [ExtTreeMap.mem_iff_isSome_getElem?, hlookup]
        exact absurd (List.mem_toFinset.2 (ExtTreeMap.mem_keys.2 hmem)) hk
    rw [countAt, hnone]
    rfl

theorem total_congr {count : β → UInt64} {m m' : ExtTreeMap α β cmp}
    (h : countAt count m' = countAt count m) : total count m' = total count m := by
  classical
  have hkeys (n : ExtTreeMap α β cmp) (hn : n = m ∨ n = m') :
      ∀ k ∈ n, k ∈ m.keys.toFinset ∪ m'.keys.toFinset := by
    intro k hk
    rw [Finset.mem_union, List.mem_toFinset, List.mem_toFinset, ExtTreeMap.mem_keys,
      ExtTreeMap.mem_keys]
    rcases hn with rfl | rfl
    · exact .inl hk
    · exact .inr hk
  rw [total_eq_sum count m' (hkeys m' (.inr rfl)), total_eq_sum count m (hkeys m (.inl rfl)), h]

/-- Short of a wrap, a map in which one count grew has a total one higher. -/
theorem total_grows {count : β → UInt64} {m m' : ExtTreeMap α β cmp}
    (h : Grows (countAt count m) (countAt count m')) (hroom : total count m + 1 < 2 ^ 64) :
    total count m' = total count m + 1 := by
  classical
  have hm : ∀ k ∈ m, k ∈ m.keys.toFinset ∪ m'.keys.toFinset := by
    intro k hk
    exact Finset.mem_union_left _ (List.mem_toFinset.2 (ExtTreeMap.mem_keys.2 hk))
  have hm' : ∀ k ∈ m', k ∈ m.keys.toFinset ∪ m'.keys.toFinset := by
    intro k hk
    exact Finset.mem_union_right _ (List.mem_toFinset.2 (ExtTreeMap.mem_keys.2 hk))
  rw [total_eq_sum count m' hm', total_eq_sum count m hm]
  apply sum_grows h
  · intro k hne
    by_contra hnot
    have habsent (n : ExtTreeMap α β cmp) (hn : ∀ k ∈ n, k ∈ m.keys.toFinset ∪ m'.keys.toFinset) :
        countAt count n k = 0 := by
      have hout : k ∉ n := fun hk => hnot (hn k hk)
      rw [countAt, ExtTreeMap.getElem?_eq_none hout]
      rfl
    exact hne (by rw [habsent m hm, habsent m' hm'])
  · rwa [← total_eq_sum count m hm]

theorem countAt_insert [DecidableEq α] (count : β → UInt64) (m : ExtTreeMap α β cmp) (k a : α)
    (v : β) : countAt count (m.insert k v) a = if k = a then count v else countAt count m a := by
  rw [countAt, OrderedMap.lookup_insert]
  split
  · rfl
  · rfl

omit [LawfulEqCmp cmp] in
theorem countAt_getD {count : β → UInt64} {d : β} (hd : count d = 0) (m : ExtTreeMap α β cmp)
    (k : α) : countAt count m k = count (m.getD k d) := by
  rw [countAt, ExtTreeMap.getD_eq_getD_getElem?]
  cases m[k]? with
  | none => exact hd.symm
  | some v => rfl

theorem countAt_insert_same {count : β → UInt64} {m : ExtTreeMap α β cmp}
    (h : count v = countAt count m k) : countAt count (m.insert k v) = countAt count m := by
  classical
  funext a
  rw [countAt_insert]
  split
  · rename_i heq
    rw [h, heq]
  · rfl

theorem grows_insert {count : β → UInt64} {m : ExtTreeMap α β cmp}
    (h : count v = countAt count m k + 1) :
    Grows (countAt count m) (countAt count (m.insert k v)) := by
  classical
  refine ⟨k, ?_, ?_⟩
  · rw [countAt_insert, if_pos rfl, h]
  · intro other hne
    rw [countAt_insert, if_neg (Ne.symm hne)]

end Tally
