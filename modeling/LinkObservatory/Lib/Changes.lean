import Mathlib

namespace Changes
set_option autoImplicit true

variable {α : Type u} [DecidableEq α]

/-- The changes along a sequence of values, each with the value it replaces. -/
def changes : Option α → List α → List (Option α × α)
  | _, [] => []
  | held, x :: xs => if held = some x then changes held xs else (held, x) :: changes (some x) xs

/-- The value held after a sequence. -/
def heldAfter (held : Option α) (xs : List α) : Option α := xs.getLast?.or held

omit [DecidableEq α] in
theorem heldAfter_cons (held : Option α) (x : α) (xs : List α) :
    heldAfter held (x :: xs) = heldAfter (some x) xs := by
  rw [heldAfter, heldAfter, List.getLast?_cons]
  cases xs.getLast? with
  | none => rfl
  | some last => rfl

theorem changes_append_one (held : Option α) (xs : List α) (x : α) :
    changes held (xs ++ [x]) = changes held xs ++
      if heldAfter held xs = some x then [] else [(heldAfter held xs, x)] := by
  induction xs generalizing held with
  | nil => rfl
  | cons first xs ih =>
    rw [heldAfter_cons, List.cons_append, changes, changes]
    split
    · rename_i hsame
      rw [ih, hsame]
    · rw [ih]
      rfl

/-- The first change replaces the value held at the start. -/
theorem changes_first (held : Option α) (xs : List α) :
    ∀ change ∈ (changes held xs).head?, change.1 = held := by
  induction xs generalizing held with
  | nil =>
    intro change hmem
    cases hmem
  | cons x xs ih =>
    rw [changes]
    split
    · exact ih held
    · intro change hmem
      cases hmem
      rfl

/-- Every change replaces what the one before it brought. -/
theorem changes_linked (held : Option α) (xs : List α) :
    (changes held xs).IsChain fun before after => after.1 = some before.2 := by
  induction xs generalizing held with
  | nil => exact .nil
  | cons x xs ih =>
    rw [changes]
    split
    · exact ih held
    · rw [List.isChain_cons]
      refine ⟨?_, ih (some x)⟩
      intro after hafter
      exact changes_first (some x) xs after hafter

theorem changes_ne (held : Option α) (xs : List α) :
    ∀ change ∈ changes held xs, change.1 ≠ some change.2 := by
  induction xs generalizing held with
  | nil =>
    intro change hmem
    cases hmem
  | cons x xs ih =>
    rw [changes]
    split
    · exact ih held
    · rename_i hne
      intro change hmem
      rcases List.mem_cons.1 hmem with rfl | hrest
      · exact hne
      · exact ih (some x) change hrest

theorem changes_last (xs : List α) : (changes none xs).getLast?.map Prod.snd = xs.getLast? := by
  induction xs using List.reverseRecOn with
  | nil => rfl
  | append_singleton xs x ih =>
    rw [changes_append_one, List.getLast?_append, List.getLast?_append]
    split
    · rename_i hheld
      rw [heldAfter, Option.or_none] at hheld
      rw [List.getLast?_nil, Option.none_or, ih, hheld]
      rfl
    · rfl

end Changes
