import Mathlib

namespace Ring
set_option autoImplicit true

/-- Drops the oldest elements until at most `bound` remain. -/
def evict (bound : Nat) : List α → List α
  | [] => []
  | x :: xs => if (x :: xs).length > bound then evict bound xs else x :: xs

/-- Appends the newest element and evicts the oldest. -/
def push (bound : Nat) (xs : List α) (x : α) : List α := evict bound (xs ++ [x])

theorem evict_eq_drop (bound : Nat) (xs : List α) :
    evict bound xs = xs.drop (xs.length - bound) := by
  induction xs with
  | nil => simp [evict]
  | cons x xs ih =>
    unfold evict
    split
    · rename_i h
      rw [ih, List.length_cons, show xs.length + 1 - bound = (xs.length - bound) + 1 by
        rw [List.length_cons] at h
        omega, List.drop_succ_cons]
    · rename_i h
      rw [show (x :: xs).length - bound = 0 by omega, List.drop_zero]

theorem evict_length (bound : Nat) (xs : List α) : (evict bound xs).length = min bound xs.length := by
  rw [evict_eq_drop, List.length_drop]
  omega

theorem evict_of_le (h : xs.length ≤ bound) : evict bound xs = xs := by
  rw [evict_eq_drop, Nat.sub_eq_zero_of_le h, List.drop_zero]

theorem evict_suffix (bound : Nat) (xs : List α) : evict bound xs <:+ xs := by
  rw [evict_eq_drop]
  exact List.drop_suffix _ _

theorem map_evict (f : α → β) (bound : Nat) (xs : List α) :
    (evict bound xs).map f = evict bound (xs.map f) := by
  rw [evict_eq_drop, evict_eq_drop, List.map_drop, List.length_map]

theorem push_length_le (bound : Nat) (xs : List α) (x : α) : (push bound xs x).length ≤ bound := by
  rw [push, evict_length]
  omega

/-- Evicting before an append does not change what remains after it. -/
theorem evict_append (bound : Nat) (xs ys : List α) :
    evict bound (evict bound xs ++ ys) = evict bound (xs ++ ys) := by
  rw [evict_eq_drop, evict_eq_drop, evict_eq_drop, List.length_append, List.length_append,
    List.length_drop]
  by_cases h : xs.length ≤ bound
  · rw [Nat.sub_eq_zero_of_le h, List.drop_zero, Nat.sub_zero]
  · rw [← List.drop_append_of_le_length (by omega), List.drop_drop]
    congr 1
    omega

theorem push_evict (bound : Nat) (xs : List α) (x : α) :
    push bound (evict bound xs) x = evict bound (xs ++ [x]) :=
  evict_append bound xs [x]

/-- While both fit, it only matters for the order which of two lists is appended first. -/
theorem evict_swap (xs : List α) (h : ys.length + zs.length ≤ bound) :
    (evict bound (xs ++ ys ++ zs)).Perm (evict bound (xs ++ zs ++ ys)) := by
  have hkept (ys zs : List α) (h : ys.length + zs.length ≤ bound) :
      evict bound (xs ++ ys ++ zs) =
        xs.drop (xs.length + (ys.length + zs.length) - bound) ++ (ys ++ zs) := by
    rw [evict_eq_drop, List.append_assoc, List.length_append, List.length_append,
      List.drop_append_of_le_length (by omega)]
  rw [hkept ys zs h, hkept zs ys (by omega), Nat.add_comm zs.length]
  exact List.perm_append_comm.append_left _

theorem mem_of_mem_push (h : y ∈ push bound xs x) : y ∈ xs ∨ y = x := by
  have hm := (evict_suffix bound (xs ++ [x])).mem h
  simpa using hm

end Ring
