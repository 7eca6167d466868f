import LinkObservatory.QueueMonitor

namespace LinkObservatory
set_option autoImplicit true

open Labelled Condition

namespace MeteredQueue

theorem take_length (queue : MeteredQueue α) (item : α) :
    (queue.take item).items.length = queue.items.length + 1 :=
  List.length_append

theorem push_true {queue queue' : MeteredQueue α}
    (h : queue.push item = some (queue', true)) :
    queue.closed = false ∧ queue.items.length < queue.capacity ∧ queue' = queue.take item := by
  rw [push] at h
  split at h
  · cases h
  · rename_i hroom
    split at h
    · simp at h
    · rename_i hopen
      simp only [Bool.not_eq_true] at hopen
      simp only [hopen, Bool.not_false, Bool.true_and, decide_eq_true_eq, ge_iff_le,
        Nat.not_le] at hroom
      simp only [Option.some.injEq, Prod.mk.injEq, and_true] at h
      exact ⟨hopen, hroom, h.symm⟩

theorem push_false {queue queue' : MeteredQueue α}
    (h : queue.push item = some (queue', false)) :
    queue.closed = true ∧
      queue' = { queue with rejectedClosed := queue.rejectedClosed + 1 } := by
  rw [push] at h
  split at h
  · cases h
  · split at h
    · rename_i hclosed
      simp only [Option.some.injEq, Prod.mk.injEq, and_true] at h
      exact ⟨hclosed, h.symm⟩
    · simp at h

theorem push_none {queue : MeteredQueue α} (h : queue.push item = none) :
    queue.closed = false ∧ queue.capacity ≤ queue.items.length := by
  rw [push] at h
  split at h
  · rename_i hwait
    simpa using hwait
  · split at h <;> cases h

theorem tryPush_true {queue queue' : MeteredQueue α} (h : queue.tryPush item = (queue', true)) :
    queue.closed = false ∧ queue.items.length < queue.capacity ∧ queue' = queue.take item := by
  rw [tryPush] at h
  split at h
  · simp at h
  · rename_i hopen
    split at h
    · simp at h
    · rename_i hroom
      simp only [Prod.mk.injEq, and_true] at h
      exact ⟨Bool.eq_false_of_not_eq_true hopen, Nat.lt_of_not_ge hroom, h.symm⟩

theorem tryPush_closed {queue queue' : MeteredQueue α}
    (h : queue.tryPush item = (queue', false)) (hclosed : queue.closed = true) :
    queue' = { queue with rejectedClosed := queue.rejectedClosed + 1 } := by
  rw [tryPush, if_pos hclosed, Prod.mk.injEq] at h
  exact h.1.symm

theorem tryPush_full {queue queue' : MeteredQueue α}
    (h : queue.tryPush item = (queue', false)) (hopen : queue.closed = false) :
    queue' = { queue with rejectedFull := queue.rejectedFull + 1 } := by
  rw [tryPush, if_neg (by rw [hopen]; exact Bool.false_ne_true)] at h
  split at h
  · rw [Prod.mk.injEq] at h
    exact h.1.symm
  · simp at h

theorem pop_some {queue queue' : MeteredQueue α} (h : queue.pop = some (queue', some item)) :
    ∃ rest, queue.items = item :: rest ∧ queue' = queue.drop rest := by
  rw [pop] at h
  split at h
  · split at h <;> simp at h
  · rename_i first rest hitems
    simp only [Option.some.injEq, Prod.mk.injEq] at h
    obtain ⟨rfl, rfl⟩ := h
    exact ⟨rest, hitems, rfl⟩

theorem pop_ended {queue queue' : MeteredQueue α} (h : queue.pop = some (queue', none)) :
    queue.items = [] ∧ queue.closed = true ∧ queue' = queue := by
  rw [pop] at h
  split at h
  · rename_i hitems
    split at h
    · rename_i hclosed
      simp only [Option.some.injEq, Prod.mk.injEq, and_true] at h
      exact ⟨hitems, hclosed, h.symm⟩
    · cases h
  · simp at h

theorem pop_none {queue : MeteredQueue α} (h : queue.pop = none) :
    queue.items = [] ∧ queue.closed = false := by
  rw [pop] at h
  split at h
  · rename_i hitems
    split at h
    · cases h
    · rename_i hopen
      exact ⟨hitems, Bool.eq_false_of_not_eq_true hopen⟩
  · cases h

theorem tryPop_some {queue queue' : MeteredQueue α} (h : queue.tryPop = some (queue', item)) :
    ∃ rest, queue.items = item :: rest ∧ queue' = queue.drop rest := by
  rw [tryPop] at h
  split at h
  · cases h
  · rename_i first rest hitems
    simp only [Option.some.injEq, Prod.mk.injEq] at h
    obtain ⟨rfl, rfl⟩ := h
    exact ⟨rest, hitems, rfl⟩

end MeteredQueue

namespace QueueMonitor

/-- The units of `not_full`. -/
def space (monitor : QueueMonitor α) : Nat := monitor.queue.capacity - monitor.queue.items.length

/-- No thread sleeps without a cause: free space and items are attended to while a thread sleeps for
them, and nobody sleeps at a closed queue. -/
structure Attentive (monitor : QueueMonitor α) : Prop where
  capacity : 0 < monitor.queue.capacity
  bounded : monitor.queue.items.length ≤ monitor.queue.capacity
  notFull : Attended QueueThread.notFull monitor.threads monitor.space
  notEmpty : Attended QueueThread.notEmpty monitor.threads monitor.queue.items.length
  closed : monitor.queue.closed = true → ∀ thread ∈ monitor.threads, thread.sleeping = false

theorem make_attentive (capacity : Nat) : (make capacity : QueueMonitor α).Attentive where
  capacity := by
    show 0 < if capacity = 0 then 1 else capacity
    split <;> omega
  bounded := Nat.zero_le _
  notFull := attended_nil _
  notEmpty := attended_nil _
  closed h := by cases h

theorem sleeping_of_notFull (thread : QueueThread α) (h : thread.notFull = .asleep) :
    thread.sleeping = true := by
  cases thread with
  | waitingToPush => rfl
  | _ => cases h

theorem sleeping_of_notEmpty (thread : QueueThread α) (h : thread.notEmpty = .asleep) :
    thread.sleeping = true := by
  cases thread with
  | waitingToPop => rfl
  | _ => cases h

theorem not_asleep {thread : QueueThread α} (h : thread.sleeping = false) :
    thread.notFull ≠ .asleep ∧ thread.notEmpty ≠ .asleep := by
  constructor
  · intro hasleep
    rw [sleeping_of_notFull thread hasleep] at h
    cases h
  · intro hasleep
    rw [sleeping_of_notEmpty thread hasleep] at h
    cases h

theorem Attentive.of_closed {monitor : QueueMonitor α} (hcapacity : 0 < monitor.queue.capacity)
    (hbounded : monitor.queue.items.length ≤ monitor.queue.capacity)
    (hawake : ∀ thread ∈ monitor.threads, thread.sleeping = false) : monitor.Attentive where
  capacity := hcapacity
  bounded := hbounded
  notFull := attended_of_awake (fun thread hmem => (not_asleep (hawake thread hmem)).1) _
  notEmpty := attended_of_awake (fun thread hmem => (not_asleep (hawake thread hmem)).2) _
  closed _ := hawake

/-- Every thread is awake. -/
def Awake (threads : List (QueueThread α)) : Prop :=
  ∀ thread ∈ threads, thread.sleeping = false

theorem Awake.set {threads : List (QueueThread α)} (h : Awake threads)
    (hnew : new.sleeping = false) : Awake (threads.set index new) := by
  intro thread hmem
  rcases List.mem_or_eq_of_mem_set hmem with hold | rfl
  · exact h thread hold
  · exact hnew

theorem Awake.append {threads : List (QueueThread α)} (h : Awake threads)
    (hnew : new.sleeping = false) : Awake (threads ++ [new]) := by
  intro thread hmem
  rcases List.mem_append.1 hmem with hold | hlast
  · exact h thread hold
  · rw [List.mem_singleton.1 hlast]
    exact hnew

theorem retry_awake (thread : QueueThread α) : thread.retryPop.retryPush.sleeping = false := by
  cases thread <;> rfl

theorem awake_retried (threads : List (QueueThread α)) :
    Awake (threads.map fun thread => thread.retryPop.retryPush) := by
  intro thread hmem
  obtain ⟨before, -, rfl⟩ := List.mem_map.1 hmem
  exact retry_awake before

theorem Awake.retryPush {threads : List (QueueThread α)} (h : Awake threads) :
    Awake (threads.map QueueThread.retryPush) := by
  intro thread hmem
  obtain ⟨before, hbefore, rfl⟩ := List.mem_map.1 hmem
  have hold := h before hbefore
  cases before with
  | waitingToPush | waitingToPop => cases hold
  | _ => rfl

theorem Awake.notified {role : QueueThread α → Role} {threads threads' : List (QueueThread α)}
    (h : Awake threads) (hnotified : Notified role awaken threads threads')
    (hrole : ∀ thread, role thread = .asleep → thread.sleeping = true) : Awake threads' := by
  cases hnotified with
  | one index sleeper hsleeper hasleep =>
    have hold := h sleeper (List.mem_of_getElem? hsleeper)
    rw [hrole sleeper hasleep] at hold
    cases hold
  | none => exact h

theorem Step.closed_awake {monitor monitor' : QueueMonitor α} (hstep : Step monitor action monitor')
    (h : monitor.queue.closed = true → Awake monitor.threads)
    (hclosed : monitor'.queue.closed = true) : Awake monitor'.threads := by
  cases hstep with
  | callPush | callPop => exact (h hclosed).append rfl
  | push hthread hpush =>
    obtain ⟨hopen, -, rfl⟩ := MeteredQueue.push_true hpush
    exact (h hclosed).set rfl
  | refuse hthread hpush =>
    obtain ⟨hshut, rfl⟩ := MeteredQueue.push_false hpush
    exact (h hshut).set rfl
  | waitToPush hthread hpush =>
    have hopen := (MeteredQueue.push_none hpush).1
    rw [show monitor.queue.closed = true from hclosed] at hopen
    cases hopen
  | notifyEmpty hthread hnotified =>
    apply Awake.notified _ hnotified sleeping_of_notEmpty
    exact (h hclosed).set rfl
  | pop hthread hpop =>
    obtain ⟨rest, -, rfl⟩ := MeteredQueue.pop_some hpop
    exact (h hclosed).set rfl
  | ended hthread hpop =>
    obtain ⟨-, -, rfl⟩ := MeteredQueue.pop_ended hpop
    exact (h hclosed).set rfl
  | waitToPop hthread hpop =>
    have hopen := (MeteredQueue.pop_none hpop).2
    rw [show monitor.queue.closed = true from hclosed] at hopen
    cases hopen
  | notifyFull hthread hnotified =>
    apply Awake.notified _ hnotified sleeping_of_notFull
    exact (h hclosed).set rfl
  | tryPush hpush hnotified =>
    obtain ⟨hopen, -, rfl⟩ := MeteredQueue.tryPush_true hpush
    exact (h hclosed).notified hnotified sleeping_of_notEmpty
  | tryRefuse hshut hpush =>
    obtain rfl := MeteredQueue.tryPush_closed hpush hshut
    exact h hclosed
  | turnAway hopen hpush =>
    obtain rfl := MeteredQueue.tryPush_full hpush hopen
    exact h hclosed
  | tryPop hpop hnotified =>
    obtain ⟨rest, -, rfl⟩ := MeteredQueue.tryPop_some hpop
    exact (h hclosed).notified hnotified sleeping_of_notFull
  | close => exact awake_retried _
  | discard => exact (h hclosed).retryPush
  | stir hthread hsleeping => exact (h hclosed).set (retry_awake _)

theorem notFull_retryPop (thread : QueueThread α) (h : thread.notEmpty = .asleep) :
    thread.notFull = .elsewhere ∧ thread.retryPop.notFull = .elsewhere := by
  cases thread with
  | waitingToPop => exact ⟨rfl, rfl⟩
  | _ => cases h

theorem notEmpty_retryPush (thread : QueueThread α) (h : thread.notFull = .asleep) :
    thread.notEmpty = .elsewhere ∧ thread.retryPush.notEmpty = .elsewhere := by
  cases thread with
  | waitingToPush => exact ⟨rfl, rfl⟩
  | _ => cases h

theorem notFull_retryPush (thread : QueueThread α) (h : thread.notFull = .asleep) :
    thread.retryPush.notFull = .claiming := by
  cases thread with
  | waitingToPush => rfl
  | _ => cases h

theorem notEmpty_retryPop (thread : QueueThread α) (h : thread.notEmpty = .asleep) :
    thread.retryPop.notEmpty = .claiming := by
  cases thread with
  | waitingToPop => rfl
  | _ => cases h

theorem Attended.passOn {role : QueueThread α → Role} {threads threads' : List (QueueThread α)}
    (h : Attended role threads units) (hthread : threads[index]? = some old)
    (hold : role old = .notifying) (hnew : role new = .elsewhere)
    (hnotified : Notified role awaken (threads.set index new) threads')
    (hawaken : ∀ thread, role thread = .asleep → role (awaken thread) = .claiming) :
    Attended role threads' units := by
  cases units with
  | zero => exact attended_of_unit
  | succ units =>
    apply Attended.notify _ hnotified hawaken
    apply h.set hthread
    · rw [hnew]
      intro hasleep
      cases hasleep
    · rw [hold, hnew]
      exact Nat.le_refl _

section

variable {monitor : QueueMonitor α} (h : monitor.Attentive)

include h

theorem Attentive.call (thread : QueueThread α) (hfull : thread.notFull ≠ .asleep)
    (hempty : thread.notEmpty ≠ .asleep) (hstep : Step monitor .call
      { monitor with threads := monitor.threads ++ [thread] }) :
    Attentive { monitor with threads := monitor.threads ++ [thread] } :=
  ⟨h.capacity, h.bounded, h.notFull.append hfull, h.notEmpty.append hempty,
    hstep.closed_awake h.closed⟩

theorem Attentive.push (hthread : monitor.threads[index]? = some (.pushing item))
    (hpush : monitor.queue.push item = some (queue', true)) :
    Attentive { monitor.setThread index .pushed with queue := queue' } := by
  have hclosed := (Step.push hthread hpush).closed_awake h.closed
  obtain ⟨hopen, hroom, rfl⟩ := MeteredQueue.push_true hpush
  have hlength := MeteredQueue.take_length monitor.queue
  constructor
  case capacity => exact h.capacity
  case bounded => rw [hlength]; exact hroom
  case notFull =>
    apply h.notFull.set hthread (by intro h; cases h)
    show monitor.queue.capacity - (monitor.queue.take _).items.length + 1 ≤
      monitor.queue.capacity - monitor.queue.items.length + 0
    rw [hlength]
    omega
  case notEmpty =>
    apply h.notEmpty.set hthread (by intro h; cases h)
    show (monitor.queue.take _).items.length + 0 ≤ _
    rw [hlength]
    exact Nat.le_refl _
  case closed => exact hclosed

theorem Attentive.waitToPush (hthread : monitor.threads[index]? = some (.pushing item))
    (hpush : monitor.queue.push item = none) :
    (monitor.setThread index (.waitingToPush item)).Attentive := by
  have hfull := (MeteredQueue.push_none hpush).2
  constructor
  case capacity => exact h.capacity
  case bounded => exact h.bounded
  case notFull =>
    have hnone : monitor.queue.capacity - monitor.queue.items.length = 0 := by omega
    show Attended QueueThread.notFull _ (monitor.queue.capacity - monitor.queue.items.length)
    rw [hnone]
    exact attended_of_unit
  case notEmpty => exact h.notEmpty.set hthread (by intro h; cases h) (Nat.le_refl _)
  case closed => exact (Step.waitToPush hthread hpush).closed_awake h.closed

theorem Attentive.notifyEmpty (hthread : monitor.threads[index]? = some .pushed)
    (hnotified : Notified QueueThread.notEmpty QueueThread.retryPop
      (monitor.threads.set index (.pushReturned true)) threads') :
    Attentive { monitor with threads := threads' } := by
  constructor
  case capacity => exact h.capacity
  case bounded => exact h.bounded
  case notFull =>
    apply Attended.notify_other _ hnotified notFull_retryPop
    exact h.notFull.set hthread (by intro h; cases h) (Nat.le_refl _)
  case notEmpty => exact Attended.passOn h.notEmpty hthread rfl rfl hnotified notEmpty_retryPop
  case closed => exact (Step.notifyEmpty hthread hnotified).closed_awake h.closed

theorem Attentive.pop (hthread : monitor.threads[index]? = some .popping)
    (hpop : monitor.queue.pop = some (queue', some item)) :
    Attentive { monitor.setThread index (.popped item) with queue := queue' } := by
  have hclosed := (Step.pop hthread hpop).closed_awake h.closed
  obtain ⟨hcapacity, hbounded, hnotFull, hnotEmpty, -⟩ := h
  rw [space] at hnotFull
  obtain ⟨rest, hitems, rfl⟩ := MeteredQueue.pop_some hpop
  rw [hitems, List.length_cons] at hbounded hnotFull hnotEmpty
  constructor
  case capacity => exact hcapacity
  case bounded => exact Nat.le_of_succ_le hbounded
  case notFull =>
    apply hnotFull.set hthread (by intro h; cases h)
    show monitor.queue.capacity - rest.length + 0 ≤ _ + 1
    omega
  case notEmpty =>
    apply hnotEmpty.set hthread (by intro h; cases h)
    exact Nat.le_refl _
  case closed => exact hclosed

theorem Attentive.waitToPop (hthread : monitor.threads[index]? = some .popping)
    (hpop : monitor.queue.pop = none) : (monitor.setThread index .waitingToPop).Attentive := by
  have hnone := (MeteredQueue.pop_none hpop).1
  constructor
  case capacity => exact h.capacity
  case bounded => exact h.bounded
  case notFull => exact h.notFull.set hthread (by intro h; cases h) (Nat.le_refl _)
  case notEmpty =>
    show Attended QueueThread.notEmpty _ monitor.queue.items.length
    rw [hnone]
    exact attended_of_unit
  case closed => exact (Step.waitToPop hthread hpop).closed_awake h.closed

theorem Attentive.notifyFull (hthread : monitor.threads[index]? = some (.popped item))
    (hnotified : Notified QueueThread.notFull QueueThread.retryPush
      (monitor.threads.set index (.popReturned (some item))) threads') :
    Attentive { monitor with threads := threads' } := by
  constructor
  case capacity => exact h.capacity
  case bounded => exact h.bounded
  case notFull => exact Attended.passOn h.notFull hthread rfl rfl hnotified notFull_retryPush
  case notEmpty =>
    apply Attended.notify_other _ hnotified notEmpty_retryPush
    exact h.notEmpty.set hthread (by intro h; cases h) (Nat.le_refl _)
  case closed => exact (Step.notifyFull hthread hnotified).closed_awake h.closed

theorem Attentive.tryPush (hpush : monitor.queue.tryPush item = (queue', true))
    (hnotified : Notified QueueThread.notEmpty QueueThread.retryPop monitor.threads threads') :
    Attentive { queue := queue', threads := threads' } := by
  have hclosed := (Step.tryPush hpush hnotified).closed_awake h.closed
  obtain ⟨hopen, hroom, rfl⟩ := MeteredQueue.tryPush_true hpush
  have hlength := MeteredQueue.take_length monitor.queue
  constructor
  case capacity => exact h.capacity
  case bounded => rw [hlength]; exact hroom
  case notFull =>
    apply Attended.mono (h.notFull.notify_other hnotified notFull_retryPop)
    show monitor.queue.capacity - (monitor.queue.take _).items.length ≤
      monitor.queue.capacity - monitor.queue.items.length
    rw [hlength]
    omega
  case notEmpty =>
    have hone := h.notEmpty.notify hnotified notEmpty_retryPop
    rw [← hlength] at hone
    exact hone
  case closed => exact hclosed

theorem Attentive.tryPop (hpop : monitor.queue.tryPop = some (queue', item))
    (hnotified : Notified QueueThread.notFull QueueThread.retryPush monitor.threads threads') :
    Attentive { queue := queue', threads := threads' } := by
  have hclosed := (Step.tryPop hpop hnotified).closed_awake h.closed
  obtain ⟨hcapacity, hbounded, hnotFull, hnotEmpty, -⟩ := h
  rw [space] at hnotFull
  obtain ⟨rest, hitems, rfl⟩ := MeteredQueue.tryPop_some hpop
  rw [hitems, List.length_cons] at hbounded hnotFull hnotEmpty
  constructor
  case capacity => exact hcapacity
  case bounded => exact Nat.le_of_succ_le hbounded
  case notFull =>
    apply Attended.mono (hnotFull.notify hnotified notFull_retryPush)
    show monitor.queue.capacity - rest.length ≤ _
    omega
  case notEmpty =>
    apply Attended.mono (hnotEmpty.notify_other hnotified notEmpty_retryPush)
    exact Nat.le_succ _
  case closed => exact hclosed

theorem Attentive.discard : Attentive
    { queue := monitor.queue.discardPending
      threads := monitor.threads.map QueueThread.retryPush } := by
  constructor
  case capacity => exact h.capacity
  case bounded => exact Nat.zero_le _
  case notFull =>
    apply attended_of_awake
    intro thread hmem
    obtain ⟨before, -, rfl⟩ := List.mem_map.1 hmem
    cases before <;> (intro h; cases h)
  case notEmpty => exact attended_of_unit
  case closed => exact Step.discard.closed_awake h.closed

theorem Attentive.stir (hthread : monitor.threads[index]? = some thread)
    (hsleeping : thread.sleeping = true) :
    (monitor.setThread index thread.retryPop.retryPush).Attentive := by
  constructor
  case capacity => exact h.capacity
  case bounded => exact h.bounded
  case notFull =>
    apply h.notFull.set hthread
    · cases thread <;> (intro h; cases h)
    · cases thread with
      | waitingToPush => exact Nat.le_succ _
      | waitingToPop => exact Nat.le_refl _
      | _ => cases hsleeping
  case notEmpty =>
    apply h.notEmpty.set hthread
    · cases thread <;> (intro h; cases h)
    · cases thread with
      | waitingToPush => exact Nat.le_refl _
      | waitingToPop => exact Nat.le_succ _
      | _ => cases hsleeping
  case closed => exact (Step.stir hthread hsleeping).closed_awake h.closed

theorem Attentive.step (hstep : Step monitor action monitor') : monitor'.Attentive := by
  have hawake := hstep.closed_awake h.closed
  cases hstep with
  | callPush => exact h.call _ (by intro h; cases h) (by intro h; cases h) .callPush
  | callPop => exact h.call _ (by intro h; cases h) (by intro h; cases h) .callPop
  | push hthread hpush => exact h.push hthread hpush
  | refuse hthread hpush =>
    obtain ⟨hshut, rfl⟩ := MeteredQueue.push_false hpush
    exact .of_closed h.capacity h.bounded (hawake hshut)
  | waitToPush hthread hpush => exact h.waitToPush hthread hpush
  | notifyEmpty hthread hnotified => exact h.notifyEmpty hthread hnotified
  | pop hthread hpop => exact h.pop hthread hpop
  | ended hthread hpop =>
    obtain ⟨-, hshut, rfl⟩ := MeteredQueue.pop_ended hpop
    exact .of_closed h.capacity h.bounded (hawake hshut)
  | waitToPop hthread hpop => exact h.waitToPop hthread hpop
  | notifyFull hthread hnotified => exact h.notifyFull hthread hnotified
  | tryPush hpush hnotified => exact h.tryPush hpush hnotified
  | tryRefuse hshut hpush =>
    obtain rfl := MeteredQueue.tryPush_closed hpush hshut
    exact ⟨h.capacity, h.bounded, h.notFull, h.notEmpty, hawake⟩
  | turnAway hopen hpush =>
    obtain rfl := MeteredQueue.tryPush_full hpush hopen
    exact ⟨h.capacity, h.bounded, h.notFull, h.notEmpty, hawake⟩
  | tryPop hpop hnotified => exact h.tryPop hpop hnotified
  | close => exact .of_closed h.capacity h.bounded (awake_retried _)
  | discard => exact h.discard
  | stir hthread hsleeping => exact h.stir hthread hsleeping

end

theorem run_attentive {capacity : Nat} {monitor : QueueMonitor α}
    (h : Run Step (make capacity) labels monitor) : monitor.Attentive :=
  h.invariant (fun _ => Attentive) (make_attentive capacity)
    fun _ hattentive hstep => hattentive.step hstep

theorem getElem?_set_of_some {threads : List (QueueThread α)} {index : Nat}
    (h : threads[index]? = some thread) (new : QueueThread α) :
    (threads.set index new)[index]? = some new :=
  List.getElem?_set_self (List.getElem?_eq_some_iff.1 h).1

theorem awake_progress (monitor : QueueMonitor α) {thread : QueueThread α} {index : Nat}
    (hthread : monitor.threads[index]? = some thread) (hawake : thread.sleeping = false)
    (hbusy : thread.returned = false) : ∃ action monitor' new, Step monitor action monitor' ∧
      monitor'.threads[index]? = some new ∧ new ≠ thread := by
  have hset := getElem?_set_of_some hthread
  cases thread with
  | pushing item =>
    cases hpush : monitor.queue.push item with
    | none => exact ⟨_, _, _, .waitToPush hthread hpush, hset _, by intro h; cases h⟩
    | some result =>
      obtain ⟨queue, accepted⟩ := result
      cases accepted with
      | true => exact ⟨_, _, _, .push hthread hpush, hset _, by intro h; cases h⟩
      | false => exact ⟨_, _, _, .refuse hthread hpush, hset _, by intro h; cases h⟩
  | popping =>
    cases hpop : monitor.queue.pop with
    | none => exact ⟨_, _, _, .waitToPop hthread hpop, hset _, by intro h; cases h⟩
    | some result =>
      obtain ⟨queue, popped⟩ := result
      cases popped with
      | none => exact ⟨_, _, _, .ended hthread hpop, hset _, by intro h; cases h⟩
      | some item => exact ⟨_, _, _, .pop hthread hpop, hset _, by intro h; cases h⟩
  | pushed =>
    obtain ⟨threads, hnotified⟩ := exists_notified QueueThread.notEmpty QueueThread.retryPop
      (monitor.threads.set index (.pushReturned true))
    have hkept := hnotified.kept (hset _) (by intro h; cases h)
    exact ⟨_, _, _, .notifyEmpty hthread hnotified, hkept, by intro h; cases h⟩
  | popped item =>
    obtain ⟨threads, hnotified⟩ := exists_notified QueueThread.notFull QueueThread.retryPush
      (monitor.threads.set index (.popReturned (some item)))
    have hkept := hnotified.kept (hset _) (by intro h; cases h)
    exact ⟨_, _, _, .notifyFull hthread hnotified, hkept, by intro h; cases h⟩
  | waitingToPush | waitingToPop => cases hawake
  | pushReturned | popReturned => cases hbusy

theorem attends_of_stuck {thread : QueueThread α}
    (h : thread.sleeping = true ∨ thread.returned = true) :
    thread.notFull.attends = 0 ∧ thread.notEmpty.attends = 0 := by
  cases thread with
  | waitingToPush | waitingToPop | pushReturned | popReturned => exact ⟨rfl, rfl⟩
  | _ => rcases h with h | h <;> cases h

/-- A sleeper waits at an open queue, and what it waits for is attended to. -/
theorem Attentive.sleeper {monitor : QueueMonitor α} (h : monitor.Attentive)
    (hmem : thread ∈ monitor.threads) :
    (thread.notFull = .asleep → monitor.queue.closed = false ∧
      monitor.space ≤ attending QueueThread.notFull monitor.threads) ∧
    (thread.notEmpty = .asleep → monitor.queue.closed = false ∧
      monitor.queue.items.length ≤ attending QueueThread.notEmpty monitor.threads) := by
  have hopen : thread.sleeping = true → monitor.queue.closed = false := by
    intro hsleeping
    cases hclosed : monitor.queue.closed with
    | false => rfl
    | true =>
      rw [h.closed hclosed thread hmem] at hsleeping
      cases hsleeping
  constructor
  · intro hasleep
    exact ⟨hopen (sleeping_of_notFull thread hasleep), h.notFull thread hmem hasleep⟩
  · intro hasleep
    exact ⟨hopen (sleeping_of_notEmpty thread hasleep), h.notEmpty thread hmem hasleep⟩

theorem Attentive.stuck {monitor : QueueMonitor α} (h : monitor.Attentive)
    (hstuck : ∀ thread ∈ monitor.threads, thread.sleeping = true ∨ thread.returned = true)
    (hmem : thread ∈ monitor.threads) (hbusy : thread.returned = false) :
    monitor.queue.closed = false ∧
      ((∃ item, thread = .waitingToPush item) ∧
          monitor.queue.items.length = monitor.queue.capacity ∨
        thread = .waitingToPop ∧ monitor.queue.items = []) := by
  have hbounded := h.bounded
  obtain ⟨hnotFull, hnotEmpty⟩ := h.sleeper hmem
  have hfull : attending QueueThread.notFull monitor.threads = 0 :=
    Population.weight_eq_zero.2 fun thread hmem => (attends_of_stuck (hstuck thread hmem)).1
  have hempty : attending QueueThread.notEmpty monitor.threads = 0 :=
    Population.weight_eq_zero.2 fun thread hmem => (attends_of_stuck (hstuck thread hmem)).2
  rw [hfull, space] at hnotFull
  rw [hempty] at hnotEmpty
  cases thread with
  | waitingToPush item =>
    obtain ⟨hopen, hspace⟩ := hnotFull rfl
    exact ⟨hopen, .inl ⟨⟨item, rfl⟩, by omega⟩⟩
  | waitingToPop =>
    obtain ⟨hopen, hitems⟩ := hnotEmpty rfl
    exact ⟨hopen, .inr ⟨rfl, List.length_eq_zero_iff.1 (Nat.le_zero.1 hitems)⟩⟩
  | pushReturned | popReturned => cases hbusy
  | _ => rcases hstuck _ hmem with h | h <;> cases h

/-- No wake-up is lost, however the calls interleave and whichever sleepers the notifications wake:
a call that neither sleeps nor has returned can go on; where one sleeps in `push` the queue is open
and at least as many threads are on their way to the free space as there is free space, and likewise
for `pop` and the items; so where no call can go on, those left wait at a full or an empty queue. -/
theorem no_lost_wakeup {capacity : Nat} {monitor : QueueMonitor α}
    (h : Run Step (make capacity) labels monitor) :
    (∀ (index : Nat) (thread : QueueThread α), monitor.threads[index]? = some thread →
      thread.sleeping = false → thread.returned = false →
      ∃ action monitor' new, Step monitor action monitor' ∧
        monitor'.threads[index]? = some new ∧ new ≠ thread) ∧
    (∀ item, .waitingToPush item ∈ monitor.threads → monitor.queue.closed = false ∧
      monitor.queue.capacity - monitor.queue.items.length ≤
        attending QueueThread.notFull monitor.threads) ∧
    (.waitingToPop ∈ monitor.threads → monitor.queue.closed = false ∧
      monitor.queue.items.length ≤ attending QueueThread.notEmpty monitor.threads) ∧
    ((∀ thread ∈ monitor.threads, thread.sleeping = true ∨ thread.returned = true) →
      ∀ thread ∈ monitor.threads, thread.returned = false → monitor.queue.closed = false ∧
        ((∃ item, thread = .waitingToPush item) ∧
            monitor.queue.items.length = monitor.queue.capacity ∨
          thread = .waitingToPop ∧ monitor.queue.items = [])) := by
  have hattentive := run_attentive h
  exact ⟨fun _ _ hthread => awake_progress monitor hthread,
    fun _ hmem => (hattentive.sleeper hmem).1 rfl, fun hmem => (hattentive.sleeper hmem).2 rfl,
    fun hstuck _ hmem => hattentive.stuck hstuck hmem⟩

/-- The queue of one item is full, and a second push sleeps. -/
def fullQueue : QueueMonitor Nat :=
  { queue := (MeteredQueue.make 1).take 7, threads := [.pushed, .waitingToPush 8] }

theorem run_fullQueue : Run Step (make 1) [.call, .push 7, .call, .wait] fullQueue := by
  apply Run.cons (@Step.callPush Nat 7 _)
  apply Run.cons (@Step.push Nat 0 7 _ _ rfl rfl)
  apply Run.cons (@Step.callPush Nat 8 _)
  apply Run.cons (@Step.waitToPush Nat 1 8 _ rfl rfl)
  exact .nil

theorem no_lost_wakeup_full :
    fullQueue.queue.closed = false ∧ 1 - 1 ≤ attending QueueThread.notFull fullQueue.threads :=
  (no_lost_wakeup run_fullQueue).2.1 8 (by decide)

end QueueMonitor

end LinkObservatory
