import Mathlib

namespace OrderedMap
set_option autoImplicit true

open Std

variable {α : Type u} {β : Type v} {cmp : α → α → Ordering} [TransCmp cmp] [LawfulEqCmp cmp]

theorem lookup_insert [DecidableEq α] (m : ExtTreeMap α β cmp) (k a : α) (v : β) :
    (m.insert k v)[a]? = if k = a then some v else m[a]? := by
  rw [ExtTreeMap.getElem?_insert]
  simp only [LawfulEqCmp.compare_eq_iff_eq]

theorem lookup_insert_of_ne (m : ExtTreeMap α β cmp) (h : k ≠ a) (v : β) :
    (m.insert k v)[a]? = m[a]? := by
  rw [ExtTreeMap.getElem?_insert, if_neg]
  rwa [LawfulEqCmp.compare_eq_iff_eq]

theorem getD_insert_of_ne (m : ExtTreeMap α β cmp) (h : k ≠ a) (v d : β) :
    (m.insert k v).getD a d = m.getD a d := by
  rw [ExtTreeMap.getD_eq_getD_getElem?, ExtTreeMap.getD_eq_getD_getElem?,
    lookup_insert_of_ne m h]

theorem forall_insert {m : ExtTreeMap α β cmp} {motive : α → β → Prop}
    (h : ∀ a b, m[a]? = some b → motive a b) (hnew : motive k v) :
    ∀ a b, (m.insert k v)[a]? = some b → motive a b := by
  classical
  intro a b hab
  rw [lookup_insert] at hab
  split at hab
  · rename_i heq
    cases hab
    exact heq ▸ hnew
  · exact h a b hab

theorem insert_insert (m : ExtTreeMap α β cmp) (k : α) (v w : β) :
    (m.insert k v).insert k w = m.insert k w := by
  classical
  apply ExtTreeMap.ext_getElem?
  intro a
  rw [lookup_insert, lookup_insert, lookup_insert]
  split <;> rfl

theorem insert_lookup {m : ExtTreeMap α β cmp} (h : m[k]? = some v) : m.insert k v = m := by
  ext a
  rw [ExtTreeMap.getElem?_insert]
  split
  · rename_i heq
    rw [← LawfulEqCmp.eq_of_compare heq, h]
  · rfl

omit [LawfulEqCmp cmp] in
theorem size_insert_eq (m : ExtTreeMap α β cmp) (k : α) (v : β) :
    (m.insert k v).size = if m[k]?.isSome then m.size else m.size + 1 := by
  rw [ExtTreeMap.size_insert, ExtTreeMap.contains_eq_isSome_getElem?]

omit [LawfulEqCmp cmp] in
theorem size_insert_le {m : ExtTreeMap α β cmp} (h : m.size ≤ bound)
    (hroom : bound ≤ m.size → (m[k]?).isSome) (v : β) : (m.insert k v).size ≤ bound := by
  rw [size_insert_eq]
  split
  · exact h
  · rename_i hnone
    have hlt : ¬ bound ≤ m.size := fun hle => hnone (hroom hle)
    omega

theorem size_le_of_keys {m : ExtTreeMap α β cmp} {m' : ExtTreeMap α γ cmp}
    (h : ∀ k : α, (m[k]?).isSome → (m'[k]?).isSome) : m.size ≤ m'.size := by
  rw [← ExtTreeMap.length_keys, ← ExtTreeMap.length_keys]
  refine (List.subperm_of_subset ExtTreeMap.nodup_keys fun k hk => ?_).length_le
  rw [ExtTreeMap.mem_keys, ExtTreeMap.mem_iff_isSome_getElem?] at *
  exact h k hk

/-- Folding the entries of a map back in rebuilds the map. -/
theorem foldl_insert_toList (m : ExtTreeMap α β cmp) :
    m.toList.foldl (fun acc entry => acc.insert entry.1 entry.2) ∅ = m := by
  have hof : ExtTreeMap.ofList m.toList cmp = m := by
    apply ExtTreeMap.ext_getElem?
    intro k
    cases hk : m[k]? with
    | none =>
      have hn : ¬ k ∈ m := by simp [ExtTreeMap.mem_iff_isSome_getElem?, hk]
      classical
      let _ : BEq α := instBEqOfDecidableEq
      have _ : LawfulBEqCmp cmp := ⟨by simp [LawfulEqCmp.compare_eq_iff_eq]⟩
      apply ExtTreeMap.getElem?_ofList_of_contains_eq_false
      rw [ExtTreeMap.map_fst_toList_eq_keys]
      simpa using hn
    | some v =>
      exact ExtTreeMap.getElem?_ofList_of_mem ReflCmp.compare_self
        ExtTreeMap.distinct_keys_toList (ExtTreeMap.mem_toList_iff_getElem?_eq_some.2 hk)
  rw [ExtTreeMap.ofList_eq_foldl] at hof
  exact hof

theorem foldl_insertIfNew {entries : List (α × β)} {m : ExtTreeMap α β cmp}
    (hd : entries.Pairwise fun a b => ¬ cmp a.1 b.1 = .eq) (hn : ∀ e ∈ entries, e.1 ∉ m) :
    entries.foldl (fun acc entry => acc.insertIfNew entry.1 entry.2) m =
      entries.foldl (fun acc entry => acc.insert entry.1 entry.2) m := by
  induction entries generalizing m with
  | nil => rfl
  | cons entry entries ih =>
    obtain ⟨hhead, htail⟩ := List.pairwise_cons.1 hd
    have hnew : m.insertIfNew entry.1 entry.2 = m.insert entry.1 entry.2 := by
      apply ExtTreeMap.ext_getElem?
      intro k
      rw [ExtTreeMap.getElem?_insertIfNew, ExtTreeMap.getElem?_insert]
      simp only [hn entry (List.mem_cons_self ..), not_false_eq_true, and_true]
    rw [List.foldl_cons, List.foldl_cons, hnew]
    refine ih htail fun e he => ?_
    rw [ExtTreeMap.mem_insert]
    rintro (heq | hmem)
    · exact hhead e he heq
    · exact hn e (List.mem_cons_of_mem _ he) hmem

theorem foldl_insertIfNew_toList (m : ExtTreeMap α β cmp) :
    m.toList.foldl (fun acc entry => acc.insertIfNew entry.1 entry.2) ∅ = m := by
  rw [foldl_insertIfNew ExtTreeMap.distinct_keys_toList (by simp), foldl_insert_toList]

omit [LawfulEqCmp cmp] in
theorem size_foldl_insertIfNew_le (entries : List (α × β)) (m : ExtTreeMap α β cmp) :
    (entries.foldl (fun acc entry => acc.insertIfNew entry.1 entry.2) m).size ≤
      m.size + entries.length := by
  induction entries generalizing m with
  | nil => exact Nat.le_refl _
  | cons entry entries ih =>
    have hone : (m.insertIfNew entry.1 entry.2).size ≤ m.size + 1 := ExtTreeMap.size_insertIfNew_le
    have hrest := ih (m.insertIfNew entry.1 entry.2)
    rw [List.foldl_cons, List.length_cons]
    omega

theorem toList_foldl_insertIfNew {entries : List (α × β)}
    (h : entries.Pairwise fun a b => cmp a.1 b.1 = .lt) :
    (entries.foldl (fun acc entry => acc.insertIfNew entry.1 entry.2)
      (∅ : ExtTreeMap α β cmp)).toList = entries := by
  have hd : entries.Pairwise fun a b => ¬ cmp a.1 b.1 = .eq :=
    h.imp fun hlt heq => by rw [hlt] at heq; cases heq
  have hnodup : entries.Nodup := hd.imp fun hne heq => hne (by rw [heq]; exact ReflCmp.compare_self)
  rw [foldl_insertIfNew hd (by simp), ← ExtTreeMap.ofList_eq_foldl]
  have hsubset : entries ⊆ (ExtTreeMap.ofList entries cmp).toList := fun entry hmem =>
    ExtTreeMap.mem_toList_iff_getElem?_eq_some.2
      (ExtTreeMap.getElem?_ofList_of_mem ReflCmp.compare_self hd hmem)
  have hperm := (List.subperm_of_subset hnodup hsubset).perm_of_length_le (by
    rw [ExtTreeMap.length_toList, ExtTreeMap.size_ofList hd])
  refine (hperm.eq_of_pairwise (fun a b _ _ hab hba => ?_) h ExtTreeMap.ordered_keys_toList).symm
  rw [OrientedCmp.gt_of_lt hab] at hba
  cases hba

/-- The keys of a list that a map does not hold yet. -/
def freshKeys [DecidableEq α] (m : ExtTreeMap α β cmp) (keys : List α) : Finset α :=
  keys.toFinset.filter fun k => (m[k]?).isNone

omit [LawfulEqCmp cmp] in
theorem freshKeys_empty [DecidableEq α] (keys : List α) :
    freshKeys (∅ : ExtTreeMap α β cmp) keys = keys.toFinset := by
  simp [freshKeys]

theorem size_add_freshKeys [DecidableEq α] (m : ExtTreeMap α β cmp) (k : α) (keys : List α)
    (v : β) :
    m.size + (freshKeys m (k :: keys)).card =
      (m.insert k v).size + (freshKeys (m.insert k v) keys).card := by
  rw [size_insert_eq]
  cases hk : m[k]? with
  | some w =>
    have heq : freshKeys m (k :: keys) = freshKeys (m.insert k v) keys := by
      ext a
      simp only [freshKeys, List.toFinset_cons, Finset.mem_filter, Finset.mem_insert,
        lookup_insert]
      grind
    rw [heq, Option.isSome_some, if_pos rfl]
  | none =>
    have heq : freshKeys m (k :: keys) = insert k (freshKeys (m.insert k v) keys) := by
      ext a
      simp only [freshKeys, List.toFinset_cons, Finset.mem_filter, Finset.mem_insert,
        lookup_insert]
      grind
    have hnot : k ∉ freshKeys (m.insert k v) keys := by
      simp [freshKeys, lookup_insert]
    rw [heq, Finset.card_insert_of_notMem hnot, Option.isSome_none, if_neg (by simp)]
    omega

/-- Writes a key, or leaves the map as it is. -/
def put (m : ExtTreeMap α β cmp) (k : α) : Option β → ExtTreeMap α β cmp
  | some v => m.insert k v
  | none => m

theorem lookup_put_of_ne (m : ExtTreeMap α β cmp) (h : k ≠ a) (v : Option β) :
    (put m k v)[a]? = m[a]? := by
  cases v with
  | none => rfl
  | some v => exact lookup_insert_of_ne m h v

omit [LawfulEqCmp cmp] in
theorem lookup_put_self (m : ExtTreeMap α β cmp) (k : α) (v : Option β) :
    (put m k v)[k]? = v.or m[k]? := by
  cases v with
  | none => rfl
  | some v => exact ExtTreeMap.getElem?_insert_self

/-- Writes to different keys commute. -/
theorem put_comm (m : ExtTreeMap α β cmp) (h : k ≠ k') (v w : Option β) :
    put (put m k v) k' w = put (put m k' w) k v := by
  classical
  cases v with
  | none => rfl
  | some v =>
    cases w with
    | none => rfl
    | some w =>
      apply ExtTreeMap.ext_getElem?
      intro a
      simp only [put, lookup_insert]
      by_cases hk : k = a
      · subst hk
        simp [Ne.symm h]
      · simp [hk]

/-- Counts one more of a key, or leaves the counts as they are. -/
def bump (m : ExtTreeMap α UInt64 cmp) : Option α → ExtTreeMap α UInt64 cmp
  | some k => m.insert k (m.getD k 0 + 1)
  | none => m

theorem bump_comm (m : ExtTreeMap α UInt64 cmp) (k k' : Option α) :
    bump (bump m k) k' = bump (bump m k') k := by
  cases k with
  | none => rfl
  | some k =>
    cases k' with
    | none => rfl
    | some k' =>
      by_cases h : k = k'
      · rw [h]
      · simp only [bump]
        rw [getD_insert_of_ne m h, getD_insert_of_ne m (Ne.symm h)]
        exact put_comm m h (some _) (some _)

end OrderedMap
