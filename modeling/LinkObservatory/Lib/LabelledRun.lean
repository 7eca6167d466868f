import Mathlib

namespace Labelled
set_option autoImplicit true

/-- A run of a labelled step relation, with the labels it passed, oldest first. -/
inductive Run (step : σ → ℓ → σ → Prop) (start : σ) : List ℓ → σ → Prop
  | nil : Run step start [] start
  | snoc : Run step start labels s → step s label t → Run step start (labels ++ [label]) t

namespace Run

theorem invariant {step : σ → ℓ → σ → Prop} (inv : List ℓ → σ → Prop)
    (h : Run step start labels s) (hstart : inv [] start)
    (hstep : ∀ {labels s label t}, Run step start labels s → inv labels s → step s label t →
      inv (labels ++ [label]) t) :
    inv labels s := by
  induction h with
  | nil => exact hstart
  | snoc hrun hnext ih => exact hstep hrun ih hnext

theorem cons {step : σ → ℓ → σ → Prop} (hstep : step s label t) (h : Run step t labels u) :
    Run step s (label :: labels) u := by
  induction h with
  | nil => exact .snoc .nil hstep
  | snoc _ hnext ih => exact .snoc ih hnext

theorem snoc_inv {step : σ → ℓ → σ → Prop} (h : Run step start (labels ++ [label]) u) :
    ∃ t, Run step start labels t ∧ step t label u := by
  generalize hall : labels ++ [label] = all at h
  cases h with
  | nil => simp at hall
  | snoc hrun hstep =>
    obtain ⟨rfl, hlabel⟩ := List.append_inj' hall rfl
    obtain rfl := List.singleton_inj.1 hlabel
    exact ⟨_, hrun, hstep⟩

/-- A run passes through a state at every point of its labels. -/
theorem split {step : σ → ℓ → σ → Prop} (h : Run step start (first ++ second) u) :
    ∃ t, Run step start first t ∧ Run step t second u := by
  induction second using List.reverseRecOn generalizing u with
  | nil => exact ⟨u, by simpa using h, .nil⟩
  | append_singleton second label ih =>
    rw [← List.append_assoc] at h
    obtain ⟨s, hrun, hstep⟩ := h.snoc_inv
    obtain ⟨t, hfirst, hsecond⟩ := ih hrun
    exact ⟨t, hfirst, hsecond.snoc hstep⟩

theorem split_cons {step : σ → ℓ → σ → Prop} (h : Run step start (before ++ label :: after) u) :
    ∃ s t, Run step start before s ∧ step s label t ∧ Run step t after u := by
  rw [List.append_cons] at h
  obtain ⟨t, hfirst, hafter⟩ := h.split
  obtain ⟨s, hbefore, hstep⟩ := hfirst.snoc_inv
  exact ⟨s, t, hbefore, hstep, hafter⟩

theorem nil_inv {step : σ → ℓ → σ → Prop} (h : Run step start [] u) : u = start := by
  generalize hall : ([] : List ℓ) = all at h
  cases h with
  | nil => rfl
  | snoc hrun hstep => simp at hall

theorem uncons {step : σ → ℓ → σ → Prop} (h : Run step start (label :: after) u) :
    ∃ t, step start label t ∧ Run step t after u := by
  rw [← List.nil_append (label :: after)] at h
  obtain ⟨s, t, hbefore, hstep, hafter⟩ := h.split_cons
  obtain rfl := hbefore.nil_inv
  exact ⟨t, hstep, hafter⟩

theorem append {step : σ → ℓ → σ → Prop} (hfirst : Run step start first t)
    (hsecond : Run step t second u) : Run step start (first ++ second) u := by
  induction hsecond with
  | nil => simpa using hfirst
  | snoc _ hstep ih =>
    rw [← List.append_assoc]
    exact ih.snoc hstep

theorem mono {step step' : σ → ℓ → σ → Prop} (himp : ∀ s label t, step s label t → step' s label t)
    (h : Run step start labels s) : Run step' start labels s := by
  induction h with
  | nil => exact .nil
  | snoc _ hnext ih => exact .snoc ih (himp _ _ _ hnext)

theorem mono_mem {step step' : σ → ℓ → σ → Prop} (h : Run step start labels s)
    (himp : ∀ s label t, label ∈ labels → step s label t → step' s label t) :
    Run step' start labels s := by
  induction h with
  | nil => exact .nil
  | snoc _ hnext ih =>
    refine .snoc (ih fun s label t hmem => himp s label t (List.mem_append_left _ hmem)) ?_
    exact himp _ _ _ (List.mem_append_right _ (List.mem_singleton_self _)) hnext

/-- A step relation that only acts on a part of the state, seen through its own labels. -/
theorem project {step : σ → ℓ → σ → Prop} {step' : τ → μ → τ → Prop} (view : σ → τ)
    (action : ℓ → Option μ)
    (hstep : ∀ s label t, step s label t →
      (action label = none ∧ view t = view s) ∨
        ∃ a, action label = some a ∧ step' (view s) a (view t))
    (h : Run step start labels s) :
    Run step' (view start) (labels.filterMap action) (view s) := by
  induction h with
  | nil => exact .nil
  | snoc _ hnext ih =>
    rw [List.filterMap_append]
    rcases hstep _ _ _ hnext with ⟨hnone, hview⟩ | ⟨a, hsome, hview⟩
    · rw [hview]
      simpa only [List.filterMap_cons, hnone, List.filterMap_nil, List.append_nil] using ih
    · simpa only [List.filterMap_cons, hsome, List.filterMap_nil] using ih.snoc hview

end Run

/-- A property of every step of a run of a function. -/
def Throughout (step : σ → ℓ → σ) (property : σ → ℓ → Prop) : σ → List ℓ → Prop
  | _, [] => True
  | s, label :: labels => property s label ∧ Throughout step property (step s label) labels

theorem throughout_congr {step : σ → ℓ → σ} {property property' : σ → ℓ → Prop}
    (h : ∀ s label, property s label ↔ property' s label) (s : σ) (labels : List ℓ) :
    Throughout step property s labels ↔ Throughout step property' s labels := by
  induction labels generalizing s with
  | nil => exact Iff.rfl
  | cons label labels ih => exact and_congr (h s label) (ih (step s label))

end Labelled
