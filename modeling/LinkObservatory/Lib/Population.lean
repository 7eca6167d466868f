import Mathlib

namespace Population
set_option autoImplicit true

/-- What the members of a population weigh together. -/
def weight (f : α → Nat) : List α → Nat
  | [] => 0
  | member :: members => f member + weight f members

@[simp] theorem weight_nil (f : α → Nat) : weight f [] = 0 := rfl

@[simp] theorem weight_cons (f : α → Nat) (member : α) (members : List α) :
    weight f (member :: members) = f member + weight f members := rfl

theorem weight_append (f : α → Nat) (first second : List α) :
    weight f (first ++ second) = weight f first + weight f second := by
  induction first with
  | nil => simp
  | cons member members ih =>
    rw [List.cons_append, weight_cons, weight_cons, ih]
    omega

/-- One member changes; what the others weigh stays. -/
theorem weight_set (f : α → Nat) (members : List α) {index : Nat}
    (h : members[index]? = some old) (new : α) :
    weight f (members.set index new) + f old = weight f members + f new := by
  induction members generalizing index with
  | nil => simp at h
  | cons member members ih =>
    cases index with
    | zero =>
      obtain rfl := Option.some.inj h
      rw [List.set_cons_zero, weight_cons, weight_cons]
      omega
    | succ index =>
      have hrest := ih h
      rw [List.set_cons_succ, weight_cons, weight_cons]
      omega

theorem le_weight (f : α → Nat) (members : List α) {index : Nat}
    (h : members[index]? = some member) :
    f member ≤ weight f members := by
  induction members generalizing index with
  | nil => simp at h
  | cons first members ih =>
    cases index with
    | zero =>
      obtain rfl := Option.some.inj h
      exact Nat.le_add_right _ _
    | succ index => exact (ih h).trans (Nat.le_add_left _ _)

theorem weight_eq_zero {f : α → Nat} {members : List α} :
    weight f members = 0 ↔ ∀ member ∈ members, f member = 0 := by
  induction members with
  | nil => simp
  | cons member members ih => simp [ih]

/-- Where something weighs, some member does. -/
theorem exists_of_weight_pos {f : α → Nat} {members : List α} (h : 0 < weight f members) :
    ∃ (index : Nat) (member : α), members[index]? = some member ∧ 0 < f member := by
  induction members with
  | nil => simp at h
  | cons member members ih =>
    by_cases hmember : 0 < f member
    · exact ⟨0, member, rfl, hmember⟩
    · rw [weight_cons] at h
      obtain ⟨index, found, hfound, hpos⟩ := ih (by omega)
      exact ⟨index + 1, found, hfound, hpos⟩

end Population
