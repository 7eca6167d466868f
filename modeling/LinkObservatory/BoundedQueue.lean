import Mathlib

namespace LinkObservatory
set_option autoImplicit true

/-- A bounded queue that can be closed. The counters are those that its users read. -/
structure BoundedQueue (α : Type) where
  capacity : Nat
  items : List α := []
  closed : Bool := false
  pushed : UInt64 := 0
  popped : UInt64 := 0
  abandoned : UInt64 := 0
deriving DecidableEq, Repr

namespace BoundedQueue

def make (capacity : Nat) : BoundedQueue α := { capacity := if capacity = 0 then 1 else capacity }

/-- `push`; `none` while the caller waits for space. -/
def push (queue : BoundedQueue α) (item : α) : Option (BoundedQueue α × Bool) :=
  if !queue.closed && queue.items.length ≥ queue.capacity then none
  else if queue.closed then some (queue, false)
  else some ({ queue with items := queue.items ++ [item], pushed := queue.pushed + 1 }, true)

/-- `try_push`, which refuses where `push` would wait. -/
def tryPush (queue : BoundedQueue α) (item : α) : BoundedQueue α × Bool :=
  if queue.closed then (queue, false)
  else if queue.items.length ≥ queue.capacity then (queue, false)
  else ({ queue with items := queue.items ++ [item], pushed := queue.pushed + 1 }, true)

/-- `pop`; `none` while the caller waits for an item. -/
def pop (queue : BoundedQueue α) : Option (BoundedQueue α × Option α) :=
  match queue.items with
  | [] => if queue.closed then some (queue, none) else none
  | item :: rest =>
    some ({ queue with items := rest, popped := queue.popped + 1 }, some item)

def close (queue : BoundedQueue α) : BoundedQueue α := { queue with closed := true }

def discardPending (queue : BoundedQueue α) : BoundedQueue α :=
  { queue with
    items := []
    abandoned := queue.abandoned + UInt64.ofNat queue.items.length }

theorem push_true {queue queue' : BoundedQueue α} (h : queue.push item = some (queue', true)) :
    queue.closed = false ∧ queue.items.length < queue.capacity ∧
      queue' = { queue with items := queue.items ++ [item], pushed := queue.pushed + 1 } := by
  unfold push at h
  split at h
  · cases h
  · split at h
    · simp at h
    · rename_i hroom hopen
      simp only [Bool.not_eq_true] at hopen
      simp only [Option.some.injEq, Prod.mk.injEq, and_true] at h
      simp only [hopen, Bool.not_false, Bool.true_and, decide_eq_true_eq, ge_iff_le,
        Nat.not_le] at hroom
      exact ⟨hopen, hroom, h.symm⟩

theorem push_false {queue queue' : BoundedQueue α} (h : queue.push item = some (queue', false)) :
    queue.closed = true ∧ queue' = queue := by
  unfold push at h
  split at h
  · cases h
  · split at h
    · rename_i hclosed
      simp only [Option.some.injEq, Prod.mk.injEq, and_true] at h
      exact ⟨hclosed, h.symm⟩
    · simp at h

theorem push_open {queue : BoundedQueue α} (hopen : queue.closed = false)
    (hroom : queue.items.length < queue.capacity) (item : α) :
    ∃ queue', queue.push item = some (queue', true) := by
  refine ⟨{ queue with items := queue.items ++ [item], pushed := queue.pushed + 1 }, ?_⟩
  rw [push, if_neg (by simpa [hopen] using hroom), if_neg (by simp [hopen])]

theorem push_closed {queue : BoundedQueue α} (hclosed : queue.closed = true) (item : α) :
    queue.push item = some (queue, false) := by
  rw [push, if_neg (by simp [hclosed]), if_pos hclosed]

theorem pop_some {queue queue' : BoundedQueue α} (h : queue.pop = some (queue', some item)) :
    queue.items = item :: queue'.items ∧
      queue' = { queue with items := queue'.items, popped := queue.popped + 1 } := by
  unfold pop at h
  split at h
  · split at h <;> simp at h
  · rename_i first rest hitems
    simp only [Option.some.injEq, Prod.mk.injEq] at h
    obtain ⟨rfl, rfl⟩ := h
    exact ⟨hitems, rfl⟩

theorem pop_none {queue queue' : BoundedQueue α} (h : queue.pop = some (queue', none)) :
    queue.items = [] ∧ queue.closed = true ∧ queue' = queue := by
  unfold pop at h
  split at h
  · rename_i hitems
    split at h
    · rename_i hclosed
      simp only [Option.some.injEq, Prod.mk.injEq, and_true] at h
      exact ⟨hitems, hclosed, h.symm⟩
    · cases h
  · simp at h

theorem ofNat_succ (n : Nat) : UInt64.ofNat (n + 1) = UInt64.ofNat n + 1 := UInt64.ofNat_add n 1

/-- Within its capacity, and every item pushed is popped, abandoned or still there. -/
structure Sound (queue : BoundedQueue α) : Prop where
  bounded : queue.items.length ≤ queue.capacity
  counted : queue.pushed = queue.popped + queue.abandoned + UInt64.ofNat queue.items.length

theorem make_sound (capacity : Nat) : (make capacity : BoundedQueue α).Sound :=
  ⟨Nat.zero_le _, rfl⟩

theorem Sound.push {queue queue' : BoundedQueue α} (h : queue.Sound)
    (hpush : queue.push item = some (queue', true)) : queue'.Sound := by
  obtain ⟨-, hroom, rfl⟩ := push_true hpush
  constructor
  · simpa using hroom
  · show queue.pushed + 1 = queue.popped + queue.abandoned + UInt64.ofNat (queue.items ++ [item]).length
    rw [List.length_append, List.length_singleton, ofNat_succ, h.counted]
    ac_rfl

theorem Sound.pop {queue queue' : BoundedQueue α} (h : queue.Sound)
    (hpop : queue.pop = some (queue', some item)) : queue'.Sound := by
  obtain ⟨hitems, hqueue⟩ := pop_some hpop
  have hbounded := h.bounded
  have hcounted := h.counted
  rw [hitems, List.length_cons] at hbounded hcounted
  rw [hqueue]
  constructor
  · exact Nat.le_of_succ_le hbounded
  · show queue.pushed = queue.popped + 1 + queue.abandoned + UInt64.ofNat queue'.items.length
    rw [hcounted, ofNat_succ]
    ac_rfl

theorem Sound.close {queue : BoundedQueue α} (h : queue.Sound) : queue.close.Sound :=
  ⟨h.bounded, h.counted⟩

theorem Sound.discardPending {queue : BoundedQueue α} (h : queue.Sound) :
    queue.discardPending.Sound := by
  constructor
  · exact Nat.zero_le _
  · show queue.pushed = queue.popped + (queue.abandoned + UInt64.ofNat queue.items.length) + 0
    rw [h.counted, UInt64.add_zero, UInt64.add_assoc]

end BoundedQueue

end LinkObservatory
