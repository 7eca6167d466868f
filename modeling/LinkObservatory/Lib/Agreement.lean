import LinkObservatory.Lib.OrderedMap

namespace OrderedMap
set_option autoImplicit true

open Std

variable {α : Type u} {β : Type v} {cmp : α → α → Ordering} [TransCmp cmp] [LawfulEqCmp cmp]

/-- Two maps hold the same under the keys of a part. -/
def Agree (part : α → Bool) (m m' : ExtTreeMap α β cmp) : Prop :=
  ∀ k, part k = true → m'[k]? = m[k]?

variable {part : α → Bool} {m m' : ExtTreeMap α β cmp}

omit [LawfulEqCmp cmp] in
theorem Agree.refl (part : α → Bool) (m : ExtTreeMap α β cmp) : Agree part m m := by
  intro k _
  rfl

theorem Agree.put (h : Agree part m m') (k : α) (v : Option β) :
    Agree part (put m k v) (put m' k v) := by
  intro a ha
  by_cases heq : k = a
  · subst heq
    rw [lookup_put_self, lookup_put_self, h k ha]
  · rw [lookup_put_of_ne m heq, lookup_put_of_ne m' heq, h a ha]

/-- What is written outside the part is not seen in it. -/
theorem Agree.put_outside (h : Agree part m m') (hk : part k = false) (v : Option β) :
    Agree part (OrderedMap.put m k v) m' := by
  intro a ha
  have hne : k ≠ a := by
    rintro rfl
    rw [hk] at ha
    cases ha
  rw [lookup_put_of_ne m hne, h a ha]

omit [LawfulEqCmp cmp] in
/-- The same write makes two maps grow alike if both or neither held the key. -/
theorem size_put_le (hsize : m'.size ≤ m.size) (hk : m'[k]? = m[k]?) (v : Option β) :
    (put m' k v).size ≤ (put m k v).size := by
  cases v with
  | none => exact hsize
  | some v =>
    simp only [put, size_insert_eq, hk]
    split <;> omega

omit [LawfulEqCmp cmp] in
theorem size_le_put (m : ExtTreeMap α β cmp) (k : α) (v : Option β) : m.size ≤ (put m k v).size := by
  cases v with
  | none => exact Nat.le_refl _
  | some v =>
    simp only [put, size_insert_eq]
    split <;> omega

end OrderedMap
