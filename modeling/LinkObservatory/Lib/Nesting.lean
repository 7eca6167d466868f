import Mathlib

namespace Nesting
set_option autoImplicit true

/-- Taking hold of something, and letting go of it. -/
inductive Event (α : Type)
  | push (a : α)
  | pop (a : α)
deriving DecidableEq

/-- Behind a stack, only what was taken last is let go of. -/
inductive Nested : List α → List (Event α) → Prop
  | done : Nested stack []
  | push : Nested (a :: stack) events → Nested stack (.push a :: events)
  | pop : Nested stack events → Nested (a :: stack) (.pop a :: events)

/-- The top of a stack that falls in rank stands for the whole of it. -/
theorem top_lt_iff [Preorder β] {rank : α → β} {stack : List α}
    (h : stack.Pairwise fun a b => rank b < rank a) :
    (∀ b ∈ stack.head?, rank b < rank a) ↔ ∀ b ∈ stack, rank b < rank a := by
  cases stack with
  | nil => simp
  | cons top stack =>
    rw [List.pairwise_cons] at h
    constructor
    · intro htop b hmem
      have hlt := htop top rfl
      rcases List.mem_cons.1 hmem with rfl | hmem
      · exact hlt
      · exact (h.1 b hmem).trans hlt
    · intro hall b hmem
      exact hall b (List.mem_of_mem_head? hmem)

section

variable [DecidableEq α]

/-- What was taken more often than it was let go of is held. -/
def Holds (stack : List α) (events : List (Event α)) (a : α) : Prop :=
  events.count (.pop a) < stack.count a + events.count (.push a)

/-- Whatever is taken has a higher rank than all that is held at that moment. -/
def Rising [LT β] (rank : α → β) (stack : List α) (events : List (Event α)) : Prop :=
  ∀ before a after, events = before ++ .push a :: after →
    ∀ b, Holds stack before b → rank b < rank a

/-- Whatever is taken has a higher rank than what was taken last. -/
def TopRising [LT β] (rank : α → β) : List α → List (Event α) → Prop
  | _, [] => True
  | stack, .push a :: events =>
    (∀ b ∈ stack.head?, rank b < rank a) ∧ TopRising rank (a :: stack) events
  | stack, .pop _ :: events => TopRising rank stack.tail events

theorem holds_nil {stack : List α} : Holds stack [] a ↔ a ∈ stack := by
  rw [Holds, List.count_nil, List.count_nil, Nat.add_zero, List.count_pos_iff]

theorem holds_push {stack : List α} :
    Holds stack (.push b :: events) a ↔ Holds (b :: stack) events a := by
  unfold Holds
  rw [List.count_cons_of_ne (by simp), List.count_cons, List.count_cons]
  by_cases h : b = a
  · simp [h]
    omega
  · simp [h]

theorem holds_pop {stack : List α} :
    Holds (b :: stack) (.pop b :: events) a ↔ Holds stack events a := by
  unfold Holds
  rw [List.count_cons, List.count_cons, List.count_cons_of_ne (by simp)]
  by_cases h : b = a
  · simp [h]
    omega
  · simp [h]

theorem Rising.push [LT β] {rank : α → β} {stack : List α} :
    Rising rank stack (.push a :: events) ↔
      (∀ b ∈ stack, rank b < rank a) ∧ Rising rank (a :: stack) events := by
  constructor
  · intro h
    constructor
    · intro b hmem
      exact h [] a events rfl b (holds_nil.2 hmem)
    · intro before c after heq b hholds
      refine h (.push a :: before) c after ?_ b (holds_push.2 hholds)
      rw [heq, List.cons_append]
  · rintro ⟨hfirst, hrest⟩ before c after heq b hholds
    cases before with
    | nil =>
      cases heq
      exact hfirst b (holds_nil.1 hholds)
    | cons event before =>
      obtain ⟨rfl, hsplit⟩ := List.cons.inj heq
      exact hrest before c after hsplit b (holds_push.1 hholds)

theorem Rising.pop [LT β] {rank : α → β} {stack : List α} :
    Rising rank (a :: stack) (.pop a :: events) ↔ Rising rank stack events := by
  constructor
  · intro h before c after heq b hholds
    refine h (.pop a :: before) c after ?_ b (holds_pop.2 hholds)
    rw [heq, List.cons_append]
  · intro h before c after heq b hholds
    cases before with
    | nil => cases heq
    | cons event before =>
      obtain ⟨rfl, hsplit⟩ := List.cons.inj heq
      exact h before c after hsplit b (holds_pop.1 hholds)

/-- Looking at the top alone is enough for nested events, as long as the stack falls in rank. -/
theorem topRising_iff [Preorder β] {rank : α → β} {stack : List α} (hnested : Nested stack events)
    (h : stack.Pairwise fun a b => rank b < rank a) :
    TopRising rank stack events ↔ Rising rank stack events := by
  induction hnested with
  | done =>
    refine ⟨fun _ before a after heq => ?_, fun _ => trivial⟩
    cases before with
    | nil => cases heq
    | cons => cases heq
  | push _ ih =>
    rw [TopRising, Rising.push, top_lt_iff h]
    apply and_congr_right
    intro hall
    exact ih (List.pairwise_cons.2 ⟨hall, h⟩)
  | pop _ ih =>
    rw [TopRising, Rising.pop, List.tail_cons]
    exact ih (List.pairwise_cons.1 h).2

end

end Nesting
