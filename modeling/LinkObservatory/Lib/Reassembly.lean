import Mathlib

namespace Reassembly
set_option autoImplicit true

variable {α : Type u} {β : Type v} (wire : β → List α)

/-- The items that a buffer and what follows it still hold. -/
def Holds (items : List β) (buffer future : List α) : Prop :=
  buffer ++ future = items.flatMap wire

/-- The buffer does not reach to the end of the next item. -/
def Short (items : List β) (buffer : List α) : Prop :=
  buffer = [] ∧ items = [] ∨
    ∃ item rest, items = item :: rest ∧ buffer <+: wire item ∧ buffer.length < (wire item).length

variable {wire}

/-- Either the buffer is short, or the next item stands in front of it. -/
theorem Holds.cases {items : List β} {buffer future : List α} (h : Holds wire items buffer future) :
    Short wire items buffer ∨
      ∃ item rest after, items = item :: rest ∧ buffer = wire item ++ after ∧
        Holds wire rest after future := by
  cases items with
  | nil =>
    obtain ⟨hbuffer, -⟩ := List.append_eq_nil_iff.1 h
    exact .inl (.inl ⟨hbuffer, rfl⟩)
  | cons item rest =>
    have hstream : buffer ++ future = wire item ++ rest.flatMap wire := h
    rcases List.append_eq_append_iff.1 hstream with ⟨more, hitem, hrest⟩ | ⟨after, hbuffer, hrest⟩
    · by_cases hlength : buffer.length < (wire item).length
      · exact .inl (.inr ⟨item, rest, rfl, ⟨more, hitem.symm⟩, hlength⟩)
      · have hmore : more = [] := by
          rw [hitem, List.length_append, Nat.not_lt] at hlength
          exact List.length_eq_zero_iff.1 (by omega)
        rw [hmore, List.append_nil] at hitem
        refine .inr ⟨item, rest, [], rfl, by rw [hitem, List.append_nil], ?_⟩
        rw [hmore, List.nil_append] at hrest
        exact hrest
    · exact .inr ⟨item, rest, after, rfl, hbuffer, hrest.symm⟩

theorem Holds.receive {items : List β} {buffer chunk future : List α}
    (h : Holds wire items buffer (chunk ++ future)) :
    Holds wire items (buffer ++ chunk) future :=
  (List.append_assoc ..).trans h

theorem Short.empty (hwire : ∀ item, 0 < (wire item).length) (items : List β) :
    Short wire items [] := by
  cases items with
  | nil => exact .inl ⟨rfl, rfl⟩
  | cons item rest => exact .inr ⟨item, rest, rfl, List.nil_prefix, hwire item⟩

theorem Short.length_lt {items : List β} {buffer : List α} (h : Short wire items buffer)
    {bound : Nat} (hpositive : 0 < bound)
    (hbound : ∀ item ∈ items, (wire item).length ≤ bound) : buffer.length < bound := by
  rcases h with ⟨rfl, -⟩ | ⟨item, rest, rfl, -, hlength⟩
  · exact hpositive
  · exact hlength.trans_le (hbound item (List.mem_cons_self ..))

/-- A short buffer at the end of the stream has no item left. -/
theorem Short.finished {items : List β} {buffer : List α} (hshort : Short wire items buffer)
    (h : Holds wire items buffer []) : buffer = [] ∧ items = [] := by
  rcases hshort with hnone | ⟨item, rest, rfl, -, hlength⟩
  · exact hnone
  · have hstream : buffer ++ [] = wire item ++ rest.flatMap wire := h
    rw [List.append_nil] at hstream
    rw [hstream, List.length_append] at hlength
    omega

end Reassembly
