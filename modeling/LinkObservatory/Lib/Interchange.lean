import Mathlib

namespace Interchange
set_option autoImplicit true

variable {σ : Type u} {α : Type v} {β : Type w} {R : σ → σ → Prop} {f : σ → α → σ} {g : σ → β → σ}

/-- What one action respects, a run of actions respects. -/
theorem foldl_respects (hf : ∀ x y a, R x y → R (f x a) (f y a)) (h : R x y) (actions : List α) :
    R (actions.foldl f x) (actions.foldl f y) := by
  induction actions generalizing x y with
  | nil => exact h
  | cons a actions ih => exact ih (hf x y a h)

theorem foldl_comm_one (hR : Equivalence R) (hf : ∀ x y a, R x y → R (f x a) (f y a))
    (hcomm : ∀ x a b, R (g (f x a) b) (f (g x b) a)) (x : σ) (actions : List α) (b : β) :
    R (g (actions.foldl f x) b) (actions.foldl f (g x b)) := by
  induction actions generalizing x with
  | nil => exact hR.refl _
  | cons a actions ih => exact hR.trans (ih (f x a)) (foldl_respects hf (hcomm x a b) actions)

/-- Two runs commute if their actions do. -/
theorem foldl_comm (hR : Equivalence R) (hf : ∀ x y a, R x y → R (f x a) (f y a))
    (hg : ∀ x y b, R x y → R (g x b) (g y b)) (hcomm : ∀ x a b, R (g (f x a) b) (f (g x b) a))
    (x : σ) (first : List α) (second : List β) :
    R (second.foldl g (first.foldl f x)) (first.foldl f (second.foldl g x)) := by
  induction second generalizing x with
  | nil => exact hR.refl _
  | cons b second ih =>
    have hone := foldl_comm_one hR hf hcomm x first b
    exact hR.trans (foldl_respects hg hone second) (ih (g x b))

end Interchange
