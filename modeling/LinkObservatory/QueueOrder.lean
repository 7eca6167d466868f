import LinkObservatory.QueueWakeups

namespace LinkObservatory
set_option autoImplicit true

open Labelled Condition

namespace QueueAction

/-- The item that the step put into the queue. -/
def accepted : QueueAction α → Option α
  | push item => some item
  | _ => none

/-- The item that the step handed to a caller. -/
def handed : QueueAction α → Option α
  | pop item => some item
  | _ => none

/-- The items that the step discarded. -/
def discarded : QueueAction α → List α
  | discard items => items
  | _ => []

/-- The items that the step took out of the queue. -/
def taken : QueueAction α → List α
  | pop item => [item]
  | discard items => items
  | _ => []

def refusedClosed : QueueAction α → Bool
  | refuse _ => true
  | _ => false

def refusedFull : QueueAction α → Bool
  | turnAway _ => true
  | _ => false

def closes : QueueAction α → Bool
  | close => true
  | _ => false

/-- The items that were put into the queue and not taken out again. -/
def depth (labels : List (QueueAction α)) : Nat :=
  (labels.filterMap accepted).length - (labels.flatMap taken).length

/-- The greatest depth at any moment. -/
structure IsPeak (labels : List (QueueAction α)) (peak : Nat) : Prop where
  reached : ∃ earlier, earlier <+: labels ∧ depth earlier = peak
  greatest : ∀ earlier, earlier <+: labels → depth earlier ≤ peak

theorem isPeak_nil : IsPeak ([] : List (QueueAction α)) 0 where
  reached := ⟨[], List.prefix_rfl, rfl⟩
  greatest earlier h := by
    rw [List.prefix_nil.1 h]
    exact Nat.le_refl 0

theorem IsPeak.append {labels : List (QueueAction α)} (h : IsPeak labels peak)
    (action : QueueAction α) :
    IsPeak (labels ++ [action]) (max peak (depth (labels ++ [action]))) where
  reached := by
    rcases Nat.le_total peak (depth (labels ++ [action])) with hle | hle
    · rw [Nat.max_eq_right hle]
      exact ⟨_, List.prefix_rfl, rfl⟩
    · obtain ⟨earlier, hearlier, hdepth⟩ := h.reached
      rw [Nat.max_eq_left hle]
      exact ⟨earlier, hearlier.trans (List.prefix_append _ _), hdepth⟩
  greatest earlier hearlier := by
    rcases List.prefix_concat_iff.1 hearlier with rfl | hbefore
    · exact Nat.le_max_right _ _
    · exact (h.greatest earlier hbefore).trans (Nat.le_max_left _ _)

/-- Steps that put nothing in leave the peak as it is. -/
theorem IsPeak.lower {labels : List (QueueAction α)} (h : IsPeak labels peak)
    (action : QueueAction α) (hlower : depth (labels ++ [action]) ≤ peak) :
    IsPeak (labels ++ [action]) peak := by
  have hpeak := h.append action
  rwa [Nat.max_eq_left hlower] at hpeak

end QueueAction

namespace QueueMonitor

open QueueAction

/-- The queue agrees with what was done to it: its items are what was accepted and not yet taken, in
the order of their acceptance, and every counter counts its own kind of step. -/
structure Tells (labels : List (QueueAction α)) (monitor : QueueMonitor α) : Prop where
  order : labels.filterMap accepted = labels.flatMap taken ++ monitor.queue.items
  pushed : monitor.queue.pushed = UInt64.ofNat (labels.filterMap accepted).length
  popped : monitor.queue.popped = UInt64.ofNat (labels.filterMap handed).length
  abandoned : monitor.queue.abandoned = UInt64.ofNat (labels.flatMap discarded).length
  rejectedClosed : monitor.queue.rejectedClosed = UInt64.ofNat (labels.countP refusedClosed)
  rejectedFull : monitor.queue.rejectedFull = UInt64.ofNat (labels.countP refusedFull)
  highWater : IsPeak labels monitor.queue.highWater
  closed : monitor.queue.closed = labels.any closes

theorem make_tells (capacity : Nat) : Tells [] (make capacity : QueueMonitor α) where
  order := rfl
  pushed := rfl
  popped := rfl
  abandoned := rfl
  rejectedClosed := rfl
  rejectedFull := rfl
  highWater := isPeak_nil
  closed := rfl

/-- What a step does to the queue, whichever call it belongs to. -/
def after (queue : MeteredQueue α) : QueueAction α → MeteredQueue α
  | .push item => queue.take item
  | .pop _ => queue.drop queue.items.tail
  | .refuse _ => { queue with rejectedClosed := queue.rejectedClosed + 1 }
  | .turnAway _ => { queue with rejectedFull := queue.rejectedFull + 1 }
  | .close => queue.close
  | .discard _ => queue.discardPending
  | .call | .ended | .wait | .notify => queue

/-- When the queue lets a step happen. -/
def Allows (queue : MeteredQueue α) : QueueAction α → Prop
  | .push _ => queue.closed = false ∧ queue.items.length < queue.capacity
  | .pop item => queue.items = item :: queue.items.tail
  | .refuse _ => queue.closed = true
  | .turnAway _ => queue.closed = false
  | .ended => queue.items = [] ∧ queue.closed = true
  | .discard items => items = queue.items
  | .call | .wait | .notify | .close => True

theorem Step.allows {monitor monitor' : QueueMonitor α} (hstep : Step monitor action monitor') :
    Allows monitor.queue action ∧ monitor'.queue = after monitor.queue action := by
  cases hstep with
  | callPush | callPop | waitToPush | waitToPop | notifyEmpty | notifyFull | stir | close =>
    exact ⟨trivial, rfl⟩
  | push hthread hpush =>
    obtain ⟨hopen, hroom, rfl⟩ := MeteredQueue.push_true hpush
    exact ⟨⟨hopen, hroom⟩, rfl⟩
  | tryPush hpush =>
    obtain ⟨hopen, hroom, rfl⟩ := MeteredQueue.tryPush_true hpush
    exact ⟨⟨hopen, hroom⟩, rfl⟩
  | refuse hthread hpush =>
    obtain ⟨hshut, rfl⟩ := MeteredQueue.push_false hpush
    exact ⟨hshut, rfl⟩
  | tryRefuse hshut hpush =>
    obtain rfl := MeteredQueue.tryPush_closed hpush hshut
    exact ⟨hshut, rfl⟩
  | turnAway hopen hpush =>
    obtain rfl := MeteredQueue.tryPush_full hpush hopen
    exact ⟨hopen, rfl⟩
  | pop hthread hpop =>
    obtain ⟨rest, hitems, rfl⟩ := MeteredQueue.pop_some hpop
    simp only [Allows, after, hitems, List.tail_cons, and_self]
  | tryPop hpop =>
    obtain ⟨rest, hitems, rfl⟩ := MeteredQueue.tryPop_some hpop
    simp only [Allows, after, hitems, List.tail_cons, and_self]
  | ended hthread hpop =>
    obtain ⟨hnone, hshut, rfl⟩ := MeteredQueue.pop_ended hpop
    exact ⟨⟨hnone, hshut⟩, rfl⟩
  | discard => exact ⟨rfl, rfl⟩

theorem Tells.depth {monitor : QueueMonitor α} (h : Tells labels monitor) :
    depth labels = monitor.queue.items.length := by
  rw [QueueAction.depth, h.order, List.length_append, Nat.add_sub_cancel_left]

theorem take_highWater (queue : MeteredQueue α) (item : α) :
    (queue.take item).highWater = max queue.highWater (queue.take item).items.length := by
  show (if (queue.items ++ [item]).length > queue.highWater then (queue.items ++ [item]).length
    else queue.highWater) = max queue.highWater (queue.items ++ [item]).length
  split <;> omega

theorem Tells.step {monitor monitor' : QueueMonitor α} (h : Tells labels monitor)
    (hstep : Step monitor action monitor') : Tells (labels ++ [action]) monitor' := by
  obtain ⟨hallows, hqueue⟩ := hstep.allows
  have hhigh : monitor.queue.items.length ≤ monitor.queue.highWater := by
    rw [← h.depth]
    exact h.highWater.greatest labels List.prefix_rfl
  have horder : (labels ++ [action]).filterMap accepted =
      (labels ++ [action]).flatMap taken ++ monitor'.queue.items := by
    rw [hqueue, List.filterMap_append, h.order, List.flatMap_append]
    cases action with
    | push item => simp [accepted, taken, after, MeteredQueue.take]
    | pop item =>
      rw [hallows]
      simp [accepted, taken, after, MeteredQueue.drop]
    | discard items =>
      rw [show items = monitor.queue.items from hallows]
      simp [accepted, taken, after, MeteredQueue.discardPending]
    | _ => simp [accepted, taken, after, MeteredQueue.close]
  have hdepth : QueueAction.depth (labels ++ [action]) = monitor'.queue.items.length := by
    rw [QueueAction.depth, horder, List.length_append, Nat.add_sub_cancel_left]
  constructor
  case order => exact horder
  case pushed =>
    rw [hqueue, List.filterMap_append, List.length_append, UInt64.ofNat_add, ← h.pushed]
    cases action with
    | push item => rfl
    | _ => exact (UInt64.add_zero _).symm
  case popped =>
    rw [hqueue, List.filterMap_append, List.length_append, UInt64.ofNat_add, ← h.popped]
    cases action with
    | pop item => rfl
    | _ => exact (UInt64.add_zero _).symm
  case abandoned =>
    rw [hqueue, List.flatMap_append, List.length_append, UInt64.ofNat_add, ← h.abandoned,
      List.flatMap_singleton]
    cases action with
    | discard items =>
      rw [show items = monitor.queue.items from hallows]
      rfl
    | _ => exact (UInt64.add_zero _).symm
  case rejectedClosed =>
    rw [hqueue, List.countP_append, UInt64.ofNat_add, ← h.rejectedClosed]
    cases action with
    | refuse item => rfl
    | _ => exact (UInt64.add_zero _).symm
  case rejectedFull =>
    rw [hqueue, List.countP_append, UInt64.ofNat_add, ← h.rejectedFull]
    cases action with
    | turnAway item => rfl
    | _ => exact (UInt64.add_zero _).symm
  case highWater =>
    rw [hqueue] at hdepth ⊢
    cases action with
    | push item =>
      have hpeak := h.highWater.append (.push item)
      rw [hdepth] at hpeak
      rw [after, take_highWater]
      exact hpeak
    | pop item =>
      apply h.highWater.lower
      rw [hdepth]
      show monitor.queue.items.tail.length ≤ _
      rw [List.length_tail]
      omega
    | discard items =>
      apply h.highWater.lower
      rw [hdepth]
      exact Nat.zero_le _
    | _ =>
      apply h.highWater.lower
      rw [hdepth]
      exact hhigh
  case closed =>
    rw [hqueue, List.any_append, ← h.closed]
    cases action with
    | close => exact (Bool.or_true _).symm
    | _ => exact (Bool.or_false _).symm

theorem run_tells {capacity : Nat} {monitor : QueueMonitor α}
    (h : Run Step (make capacity) labels monitor) : Tells labels monitor :=
  h.invariant Tells (make_tells capacity) fun _ htells hstep => htells.step hstep

theorem Step.capacity {monitor monitor' : QueueMonitor α} (hstep : Step monitor action monitor') :
    monitor'.queue.capacity = monitor.queue.capacity := by
  rw [hstep.allows.2]
  cases action <;> rfl

theorem run_capacity {capacity : Nat} {monitor : QueueMonitor α}
    (h : Run Step (make capacity) labels monitor) :
    monitor.queue.capacity = max 1 capacity := by
  apply h.invariant (fun _ monitor => monitor.queue.capacity = max 1 capacity)
  · show (if capacity = 0 then 1 else capacity) = max 1 capacity
    split <;> omega
  · intro _ _ _ _ _ hsame hstep
    exact hstep.capacity.trans hsame

theorem run_depth_le {capacity : Nat} {monitor : QueueMonitor α}
    (h : Run Step (make capacity) labels monitor) (hearlier : earlier <+: labels) :
    QueueAction.depth earlier ≤ max 1 capacity := by
  obtain ⟨later, rfl⟩ := hearlier
  obtain ⟨middle, hrun, -⟩ := h.split
  rw [(run_tells hrun).depth, ← run_capacity hrun]
  exact (run_attentive hrun).bounded

theorem run_accepts_open {capacity : Nat} {monitor : QueueMonitor α}
    (h : Run Step (make capacity) (before ++ .push item :: later) monitor) :
    QueueAction.close ∉ before := by
  intro hmem
  obtain ⟨middle, next, hrun, hstep, -⟩ := h.split_cons
  have hclosed := (run_tells hrun).closed
  rw [hstep.allows.1.1, eq_comm, List.any_eq_false] at hclosed
  exact hclosed _ hmem rfl

/-- The queue is a bounded first-in first-out queue for any number of callers, blocking or not, and
its statistics are exact: what was accepted is what was popped or discarded and then what is still
there, in order; nothing is accepted after a close; every counter counts its own kind of call; and
the high water mark is the greatest depth of any moment, never above the capacity. -/
theorem first_in_first_out {capacity : Nat} {monitor : QueueMonitor α}
    (h : Run Step (make capacity) labels monitor) :
    labels.filterMap accepted = labels.flatMap taken ++ monitor.queue.items ∧
      (∀ before item later, labels = before ++ .push item :: later → .close ∉ before) ∧
      monitor.queue.pushed = UInt64.ofNat (labels.filterMap accepted).length ∧
      monitor.queue.popped = UInt64.ofNat (labels.filterMap handed).length ∧
      monitor.queue.abandoned = UInt64.ofNat (labels.flatMap discarded).length ∧
      monitor.queue.rejectedClosed = UInt64.ofNat (labels.countP refusedClosed) ∧
      monitor.queue.rejectedFull = UInt64.ofNat (labels.countP refusedFull) ∧
      IsPeak labels monitor.queue.highWater ∧ monitor.queue.highWater ≤ max 1 capacity := by
  have htells := run_tells h
  obtain ⟨earlier, hearlier, hpeak⟩ := htells.highWater.reached
  have hbound := run_depth_le h hearlier
  rw [hpeak] at hbound
  refine ⟨htells.order, ?_, htells.pushed, htells.popped, htells.abandoned, htells.rejectedClosed,
    htells.rejectedFull, htells.highWater, hbound⟩
  rintro before item later rfl
  exact run_accepts_open h

theorem first_in_first_out_full :
    [7] = [] ++ fullQueue.queue.items ∧ fullQueue.queue.highWater ≤ 1 :=
  ⟨(first_in_first_out run_fullQueue).1, (first_in_first_out run_fullQueue).2.2.2.2.2.2.2.2⟩

end QueueMonitor

end LinkObservatory
