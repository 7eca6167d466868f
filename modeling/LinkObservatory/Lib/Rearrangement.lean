import LinkObservatory.Lib.Interchange

namespace Interchange
set_option autoImplicit true

variable {σ : Type u} {α : Type v} {ι : Type w}

/-- The actions of one part, in their order. -/
def ofPart [DecidableEq ι] (part : α → ι) (index : ι) (actions : List α) : List α :=
  actions.filter fun a => part a = index

theorem ofPart_append [DecidableEq ι] (part : α → ι) (index : ι) (actions more : List α) :
    ofPart part index (actions ++ more) = ofPart part index actions ++ ofPart part index more :=
  List.filter_append ..

/-- Where `inv` holds, allowed actions keep it, respect the equivalence, and commute if they belong
to different parts. -/
structure Divided (R : σ → σ → Prop) (f : σ → α → σ) (part : α → ι) (inv : σ → Prop)
    (allowed : α → Prop) : Prop where
  equivalence : Equivalence R
  preserved : inv x → allowed a → inv (f x a)
  respected : inv x → allowed a → R x y → R (f x a) (f y a)
  commutes : inv x → allowed a → allowed b → part a ≠ part b → R (f (f x a) b) (f (f x b) a)

variable {R : σ → σ → Prop} {f : σ → α → σ} {part : α → ι} {inv : σ → Prop} {allowed : α → Prop}
  {actions other : List α}

theorem Divided.run_preserved (h : Divided R f part inv allowed) (hinv : inv x)
    (hallowed : ∀ a ∈ actions, allowed a) : inv (actions.foldl f x) := by
  induction actions generalizing x with
  | nil => exact hinv
  | cons a actions ih =>
    rw [List.forall_mem_cons] at hallowed
    exact ih (h.preserved hinv hallowed.1) hallowed.2

theorem Divided.run_respected (h : Divided R f part inv allowed) (hinv : inv x)
    (hallowed : ∀ a ∈ actions, allowed a) (hxy : R x y) :
    R (actions.foldl f x) (actions.foldl f y) := by
  induction actions generalizing x y with
  | nil => exact hxy
  | cons a actions ih =>
    rw [List.forall_mem_cons] at hallowed
    exact ih (h.preserved hinv hallowed.1) hallowed.2 (h.respected hinv hallowed.1 hxy)

/-- An action may be done before actions of other parts. -/
theorem Divided.run_advance (h : Divided R f part inv allowed) (hinv : inv x)
    (hallowed : ∀ b ∈ actions, allowed b) (ha : allowed a)
    (hpart : ∀ b ∈ actions, part b ≠ part a) :
    R (f (actions.foldl f x) a) (actions.foldl f (f x a)) := by
  induction actions generalizing x with
  | nil => exact h.equivalence.refl _
  | cons b actions ih =>
    rw [List.forall_mem_cons] at hallowed hpart
    have hlater := ih (h.preserved hinv hallowed.1) hallowed.2 hpart.2
    have hswapped := h.commutes hinv hallowed.1 ha hpart.1
    have hkept := h.preserved (h.preserved hinv hallowed.1) ha
    exact h.equivalence.trans hlater (h.run_respected hkept hallowed.2 hswapped)

/-- Two runs that agree on the order within each part lead to the same state. -/
theorem Divided.run_rearranged [DecidableEq ι] (h : Divided R f part inv allowed)
    (hinv : inv x) (hallowed : ∀ a ∈ actions, allowed a)
    (hparts : ∀ index, ofPart part index other = ofPart part index actions) :
    R (actions.foldl f x) (other.foldl f x) := by
  induction actions generalizing x other with
  | nil =>
    have hnil : other = [] := List.eq_nil_iff_forall_not_mem.2 fun b hmem => by
      have hown : b ∈ ofPart part (part b) other := List.mem_filter.2 ⟨hmem, by simp⟩
      rw [hparts] at hown
      cases hown
    rw [hnil]
    exact h.equivalence.refl _
  | cons a actions ih =>
    have hown := hparts (part a)
    rw [ofPart, ofPart, List.filter_cons_of_pos (by simp)] at hown
    obtain ⟨first, rest, rfl, hfirst, -, hrest⟩ := List.filter_eq_cons_iff.1 hown
    have hothers : ∀ b ∈ first, part b ≠ part a := by simpa using hfirst
    have hother : ∀ b ∈ first ++ a :: rest, allowed b := by
      intro b hmem
      have hb : b ∈ ofPart part (part b) (first ++ a :: rest) := List.mem_filter.2 ⟨hmem, by simp⟩
      rw [hparts] at hb
      exact hallowed b (List.mem_filter.1 hb).1
    rw [List.forall_mem_cons] at hallowed
    rw [List.forall_mem_append, List.forall_mem_cons] at hother
    have hremaining : ∀ index, ofPart part index (first ++ rest) = ofPart part index actions := by
      intro index
      have hindex := hparts index
      by_cases heq : part a = index
      · subst heq
        rw [ofPart_append, ofPart, List.filter_eq_nil_iff.2 hfirst, List.nil_append]
        exact hrest
      · rw [ofPart_append, ofPart, ofPart, ofPart, List.filter_cons_of_neg (by simpa using heq),
          List.filter_cons_of_neg (by simpa using heq)] at hindex
        rw [ofPart_append]
        exact hindex
    have hadvanced := h.run_advance hinv hother.1 hallowed.1 hothers
    have hrun := h.run_preserved hinv hother.1
    have hsame := ih (h.preserved hinv hallowed.1) hallowed.2 hremaining
    rw [List.foldl_append] at hsame
    rw [List.foldl_append]
    refine h.equivalence.trans hsame (h.equivalence.symm ?_)
    exact h.run_respected (h.preserved hrun hallowed.1) hother.2.2 hadvanced

end Interchange
