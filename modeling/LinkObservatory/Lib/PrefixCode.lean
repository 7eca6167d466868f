import Mathlib

namespace PrefixCode
set_option autoImplicit true

/-- In front of anything, the codes of two values that fit are told apart. -/
def Code (encode : α → List β) (fits : α → Prop) : Prop :=
  ∀ ⦃a b : α⦄ ⦃x y : List β⦄, fits a → fits b → encode a ++ x = encode b ++ y → a = b ∧ x = y

theorem Code.mono (h : Code encode fits) (hfits : ∀ a, fits' a → fits a) : Code encode fits' := by
  intro a b x y ha hb heq
  exact h (hfits a ha) (hfits b hb) heq

/-- Codes of one length. -/
theorem Code.of_length {encode : α → List β} (hinj : Function.Injective encode)
    (hlength : ∀ a, (encode a).length = n) : Code encode fun _ => True := by
  intro a b x y _ _ heq
  obtain ⟨hcode, hrest⟩ := List.append_inj heq ((hlength a).trans (hlength b).symm)
  exact ⟨hinj hcode, hrest⟩

theorem Code.comap {encode : β → List γ} (h : Code encode fits) {f : α → β}
    (hf : Function.Injective f) : Code (encode ∘ f) (fits ∘ f) := by
  intro a b x y ha hb heq
  obtain ⟨hvalue, hrest⟩ := h ha hb heq
  exact ⟨hf hvalue, hrest⟩

theorem Code.pair {first : α → List γ} {second : β → List γ} (h : Code first fits)
    (h' : Code second fits') :
    Code (fun pair : α × β => first pair.1 ++ second pair.2) fun pair =>
      fits pair.1 ∧ fits' pair.2 := by
  intro a b x y ha hb heq
  rw [List.append_assoc, List.append_assoc] at heq
  obtain ⟨hfirst, heq⟩ := h ha.1 hb.1 heq
  obtain ⟨hsecond, hrest⟩ := h' ha.2 hb.2 heq
  exact ⟨Prod.ext hfirst hsecond, hrest⟩

/-- A list of any length behind a code of its length. -/
theorem Code.counted {encode : Nat → List β} (h : Code encode fits) :
    Code (fun items : List β => encode items.length ++ items) fun items => fits items.length := by
  intro a b x y ha hb heq
  rw [List.append_assoc, List.append_assoc] at heq
  obtain ⟨hlength, heq⟩ := h ha hb heq
  exact List.append_inj heq hlength

end PrefixCode
