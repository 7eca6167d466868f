import Mathlib

namespace BlockStream
set_option autoImplicit true

variable {σ : Type u} {α : Type v} (size : Nat) (process : σ → List α → σ)

/-- The whole blocks at the front of a list. -/
def blocks (data : List α) : List (List α) :=
  (List.range (data.length / size)).map fun index => (data.drop (size * index)).take size

/-- What the whole blocks make of a state. -/
def fold (start : σ) (data : List α) : σ := (blocks size data).foldl process start

/-- A stream has taken in some data: its whole blocks are processed and the rest is pending. -/
structure Fed (start state : σ) (pending data : List α) : Prop where
  split : ∃ whole, data = whole ++ pending ∧ size ∣ whole.length ∧
    state = fold size process start whole
  short : pending.length < size

variable {size process}

theorem blocks_concat (hsize : 0 < size) {whole last : List α} (hwhole : size ∣ whole.length)
    (hlast : last.length = size) : blocks size (whole ++ last) = blocks size whole ++ [last] := by
  obtain ⟨count, hcount⟩ := hwhole
  have hblocks : whole.length / size = count := by
    rw [hcount, Nat.mul_div_cancel_left _ hsize]
  have hmore : (whole ++ last).length / size = count + 1 := by
    rw [List.length_append, hcount, hlast, ← Nat.mul_succ, Nat.mul_div_cancel_left _ hsize]
  unfold blocks
  rw [hblocks, hmore, List.range_succ, List.map_append, List.map_singleton]
  congr 1
  · apply List.map_congr_left
    intro index hindex
    rw [List.mem_range] at hindex
    have hroom : size * index + size ≤ whole.length := by
      rw [hcount, ← Nat.mul_succ]
      exact Nat.mul_le_mul_left _ hindex
    rw [List.drop_append_of_le_length (by omega), List.take_append_of_le_length]
    rw [List.length_drop]
    omega
  · rw [← hcount, List.drop_left, ← hlast, List.take_length]

theorem Fed.start (hsize : 0 < size) (start : σ) : Fed size process start start [] [] := by
  refine ⟨⟨[], rfl, Nat.dvd_zero _, ?_⟩, hsize⟩
  unfold fold blocks
  rw [List.length_nil, Nat.zero_div]
  rfl

variable {start state : σ} {pending data chunk : List α}

/-- A chunk that does not complete a block is held back. -/
theorem Fed.hold (h : Fed size process start state pending data)
    (hchunk : pending.length + chunk.length < size) :
    Fed size process start state (pending ++ chunk) (data ++ chunk) := by
  obtain ⟨whole, rfl, hwhole, hstate⟩ := h.split
  refine ⟨⟨whole, List.append_assoc .., hwhole, hstate⟩, ?_⟩
  rw [List.length_append]
  exact hchunk

theorem Fed.fill (h : Fed size process start state pending data)
    (hchunk : pending.length + chunk.length = size) :
    Fed size process start (process state (pending ++ chunk)) [] (data ++ chunk) := by
  have hsize : 0 < size := Nat.zero_lt_of_lt h.short
  obtain ⟨whole, rfl, hwhole, rfl⟩ := h.split
  have hlast : (pending ++ chunk).length = size := by
    rw [List.length_append]
    exact hchunk
  refine ⟨⟨whole ++ (pending ++ chunk), ?_, ?_, ?_⟩, hsize⟩
  · rw [List.append_nil, List.append_assoc]
  · rw [List.length_append, hlast]
    exact hwhole.add (Nat.dvd_refl _)
  · rw [fold, fold, blocks_concat hsize hwhole hlast, List.foldl_append]
    rfl

theorem Fed.pending_length (h : Fed size process start state pending data) :
    pending.length = data.length % size := by
  obtain ⟨whole, rfl, ⟨count, hcount⟩, -⟩ := h.split
  rw [List.length_append, hcount, Nat.mul_add_mod, Nat.mod_eq_of_lt h.short]

/-- A stream that has taken in whole blocks only has folded them all. -/
theorem Fed.finished (h : Fed size process start state pending data)
    (hdata : size ∣ data.length) : state = fold size process start data := by
  have hlength := h.pending_length
  obtain ⟨whole, rfl, -, hstate⟩ := h.split
  rw [Nat.mod_eq_zero_of_dvd hdata] at hlength
  rw [List.length_eq_zero_iff.1 hlength, List.append_nil]
  exact hstate

end BlockStream
