import LinkObservatory.BoundedQueue
import LinkObservatory.Lib.Condition
import LinkObservatory.Lib.LabelledRun

namespace LinkObservatory
set_option autoImplicit true

open Labelled Condition

/-- The queue with the counters that its statistics report. -/
structure MeteredQueue (α : Type) extends BoundedQueue α where
  highWater : Nat := 0
  rejectedFull : UInt64 := 0
  rejectedClosed : UInt64 := 0
deriving DecidableEq, Repr

namespace MeteredQueue

def make (capacity : Nat) : MeteredQueue α := { BoundedQueue.make capacity with }

/-- What both pushes do with an item that there is room for. -/
def take (queue : MeteredQueue α) (item : α) : MeteredQueue α :=
  let items := queue.items ++ [item]
  { queue with
    items := items
    pushed := queue.pushed + 1
    highWater := if items.length > queue.highWater then items.length else queue.highWater }

/-- `push`; `none` while the caller waits for space. -/
def push (queue : MeteredQueue α) (item : α) : Option (MeteredQueue α × Bool) :=
  if !queue.closed && queue.items.length ≥ queue.capacity then none
  else if queue.closed then
    some ({ queue with rejectedClosed := queue.rejectedClosed + 1 }, false)
  else some (queue.take item, true)

def tryPush (queue : MeteredQueue α) (item : α) : MeteredQueue α × Bool :=
  if queue.closed then ({ queue with rejectedClosed := queue.rejectedClosed + 1 }, false)
  else if queue.items.length ≥ queue.capacity then
    ({ queue with rejectedFull := queue.rejectedFull + 1 }, false)
  else (queue.take item, true)

/-- What both pops leave after the front item. -/
def drop (queue : MeteredQueue α) (rest : List α) : MeteredQueue α :=
  { queue with items := rest, popped := queue.popped + 1 }

/-- `pop`; `none` while the caller waits for an item. -/
def pop (queue : MeteredQueue α) : Option (MeteredQueue α × Option α) :=
  match queue.items with
  | [] => if queue.closed then some (queue, none) else none
  | item :: rest => some (queue.drop rest, some item)

def tryPop (queue : MeteredQueue α) : Option (MeteredQueue α × α) :=
  match queue.items with
  | [] => none
  | item :: rest => some (queue.drop rest, item)

def close (queue : MeteredQueue α) : MeteredQueue α := { queue with closed := true }

def discardPending (queue : MeteredQueue α) : MeteredQueue α :=
  { queue with
    items := []
    abandoned := queue.abandoned + UInt64.ofNat queue.items.length }

/-- Without its counters of statistics the queue is the plain one. -/
theorem push_plain (queue : MeteredQueue α) (item : α) :
    (queue.push item).map (fun result => (result.1.toBoundedQueue, result.2)) =
      queue.toBoundedQueue.push item := by
  rw [push, BoundedQueue.push]
  split
  · rfl
  · split <;> rfl

theorem tryPush_plain (queue : MeteredQueue α) (item : α) :
    ((queue.tryPush item).1.toBoundedQueue, (queue.tryPush item).2) =
      queue.toBoundedQueue.tryPush item := by
  rw [tryPush, BoundedQueue.tryPush]
  split
  · rfl
  · split <;> rfl

theorem pop_plain (queue : MeteredQueue α) :
    queue.pop.map (fun result => (result.1.toBoundedQueue, result.2)) =
      queue.toBoundedQueue.pop := by
  rw [pop, BoundedQueue.pop]
  cases queue.items with
  | nil =>
    simp only
    split <;> rfl
  | cons item rest => rfl

end MeteredQueue

/-- A thread in a call of the queue. A blocked call sleeps on `not_full` or on `not_empty`, and a
successful one notifies the other condition after it has given up the lock. -/
inductive QueueThread (α : Type)
  | pushing (item : α)
  | waitingToPush (item : α)
  | pushed
  | pushReturned (accepted : Bool)
  | popping
  | waitingToPop
  | popped (item : α)
  | popReturned (item : Option α)
deriving DecidableEq, Repr

namespace QueueThread

/-- What the thread is to `not_full`. -/
def notFull : QueueThread α → Role
  | pushing _ => .claiming
  | waitingToPush _ => .asleep
  | popped _ => .notifying
  | _ => .elsewhere

/-- What the thread is to `not_empty`. -/
def notEmpty : QueueThread α → Role
  | popping => .claiming
  | waitingToPop => .asleep
  | pushed => .notifying
  | _ => .elsewhere

/-- A sleeper of `not_full` looks again. -/
def retryPush : QueueThread α → QueueThread α
  | waitingToPush item => pushing item
  | thread => thread

/-- A sleeper of `not_empty` looks again. -/
def retryPop : QueueThread α → QueueThread α
  | waitingToPop => popping
  | thread => thread

/-- The thread sleeps in its call. -/
def sleeping : QueueThread α → Bool
  | waitingToPush _ | waitingToPop => true
  | _ => false

def returned : QueueThread α → Bool
  | pushReturned _ | popReturned _ => true
  | _ => false

end QueueThread

/-- A queue with the threads in its calls. -/
structure QueueMonitor (α : Type) where
  queue : MeteredQueue α
  threads : List (QueueThread α) := []
deriving DecidableEq, Repr

/-- What a step does to the queue. -/
inductive QueueAction (α : Type)
  | call
  | push (item : α)
  | refuse (item : α)
  | turnAway (item : α)
  | pop (item : α)
  | ended
  | wait
  | notify
  | close
  | discard (items : List α)
deriving DecidableEq, Repr

namespace QueueMonitor

def make (capacity : Nat) : QueueMonitor α := { queue := .make capacity }

def setThread (monitor : QueueMonitor α) (index : Nat) (thread : QueueThread α) :
    QueueMonitor α :=
  { monitor with threads := monitor.threads.set index thread }

/-- The steps of the threads: a critical section under the lock, or a notification after one. A
sleeper may also wake up on its own. -/
inductive Step : QueueMonitor α → QueueAction α → QueueMonitor α → Prop
  | callPush {monitor : QueueMonitor α} :
      Step monitor .call { monitor with threads := monitor.threads ++ [.pushing item] }
  | callPop {monitor : QueueMonitor α} :
      Step monitor .call { monitor with threads := monitor.threads ++ [.popping] }
  | push {monitor : QueueMonitor α} (hthread : monitor.threads[index]? = some (.pushing item))
      (hpush : monitor.queue.push item = some (queue', true)) :
      Step monitor (.push item) { monitor.setThread index .pushed with queue := queue' }
  | refuse {monitor : QueueMonitor α} (hthread : monitor.threads[index]? = some (.pushing item))
      (hpush : monitor.queue.push item = some (queue', false)) :
      Step monitor (.refuse item)
        { monitor.setThread index (.pushReturned false) with queue := queue' }
  | waitToPush {monitor : QueueMonitor α}
      (hthread : monitor.threads[index]? = some (.pushing item))
      (hpush : monitor.queue.push item = none) :
      Step monitor .wait (monitor.setThread index (.waitingToPush item))
  | notifyEmpty {monitor : QueueMonitor α} (hthread : monitor.threads[index]? = some .pushed)
      (hnotified : Notified QueueThread.notEmpty QueueThread.retryPop
        (monitor.threads.set index (.pushReturned true)) threads') :
      Step monitor .notify { monitor with threads := threads' }
  | pop {monitor : QueueMonitor α} (hthread : monitor.threads[index]? = some .popping)
      (hpop : monitor.queue.pop = some (queue', some item)) :
      Step monitor (.pop item) { monitor.setThread index (.popped item) with queue := queue' }
  | ended {monitor : QueueMonitor α} (hthread : monitor.threads[index]? = some .popping)
      (hpop : monitor.queue.pop = some (queue', none)) :
      Step monitor .ended { monitor.setThread index (.popReturned none) with queue := queue' }
  | waitToPop {monitor : QueueMonitor α} (hthread : monitor.threads[index]? = some .popping)
      (hpop : monitor.queue.pop = none) :
      Step monitor .wait (monitor.setThread index .waitingToPop)
  | notifyFull {monitor : QueueMonitor α}
      (hthread : monitor.threads[index]? = some (.popped item))
      (hnotified : Notified QueueThread.notFull QueueThread.retryPush
        (monitor.threads.set index (.popReturned (some item))) threads') :
      Step monitor .notify { monitor with threads := threads' }
  | tryPush {monitor : QueueMonitor α} (hpush : monitor.queue.tryPush item = (queue', true))
      (hnotified : Notified QueueThread.notEmpty QueueThread.retryPop monitor.threads threads') :
      Step monitor (.push item) { queue := queue', threads := threads' }
  | tryRefuse {monitor : QueueMonitor α} (hclosed : monitor.queue.closed = true)
      (hpush : monitor.queue.tryPush item = (queue', false)) :
      Step monitor (.refuse item) { monitor with queue := queue' }
  | turnAway {monitor : QueueMonitor α} (hopen : monitor.queue.closed = false)
      (hpush : monitor.queue.tryPush item = (queue', false)) :
      Step monitor (.turnAway item) { monitor with queue := queue' }
  | tryPop {monitor : QueueMonitor α} (hpop : monitor.queue.tryPop = some (queue', item))
      (hnotified : Notified QueueThread.notFull QueueThread.retryPush monitor.threads threads') :
      Step monitor (.pop item) { queue := queue', threads := threads' }
  | close {monitor : QueueMonitor α} :
      Step monitor .close
        { queue := monitor.queue.close
          threads := monitor.threads.map fun thread => thread.retryPop.retryPush }
  | discard {monitor : QueueMonitor α} :
      Step monitor (.discard monitor.queue.items)
        { queue := monitor.queue.discardPending
          threads := monitor.threads.map QueueThread.retryPush }
  | stir {monitor : QueueMonitor α} (hthread : monitor.threads[index]? = some thread)
      (hsleeping : thread.sleeping = true) :
      Step monitor .notify (monitor.setThread index thread.retryPop.retryPush)

end QueueMonitor

end LinkObservatory
