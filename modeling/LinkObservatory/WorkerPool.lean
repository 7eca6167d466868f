import LinkObservatory.BoundedQueue
import LinkObservatory.Lib.LabelledRun

namespace LinkObservatory
set_option autoImplicit true

/-- Where a worker's thread is in its loop. `γ` is what is left to do of a completion callback
that has been entered. -/
inductive WorkerThread (β γ : Type)
  | absent
  | popping
  | handling (batch : β)
  | handled (batch : β)
  | signalling (rest : γ)
  | exited
deriving DecidableEq, Repr

structure Worker (β γ : Type) where
  queue : BoundedQueue β
  thread : WorkerThread β γ := .absent
deriving DecidableEq, Repr

/-- What the holder of the lifecycle lock is doing. -/
inductive Lifecycle
  | free
  | closing (cancel : Bool) (index : Nat)
  | discarding (index : Nat)
  | joining (index : Nat)
deriving DecidableEq, Repr

/-- A worker pool. `admitted` are the submissions that have passed the running check and have not
reached their queue yet. -/
structure WorkerPool (β γ : Type) where
  workers : List (Worker β γ)
  running : Bool := false
  lifecycle : Lifecycle := .free
  admitted : List (Nat × β) := []
deriving DecidableEq, Repr

/-- One atomic step of a pool: a critical section, or a call into the handler or a callback. -/
inductive PoolAction (β γ : Type)
  | start
  | enlist (route : Nat) (batch : β)
  | push (index : Nat) (batch : β)
  | refuse (index : Nat) (batch : β)
  | pop (index : Nat) (batch : β)
  | exit (index : Nat)
  | handle (index : Nat) (batch : β)
  | signal (index : Nat) (batch : β) (rest : γ)
  | finish (index : Nat) (rest : γ)
  | shutdown (cancel : Bool)
  | close (index : Nat)
  | discard (index : Nat) (batches : List β)
  | join (index : Nat)
  | halt
deriving DecidableEq, Repr

namespace WorkerPool

def make (workerCount queueCapacity : Nat) : WorkerPool β γ :=
  { workers := List.replicate (if workerCount = 0 then 1 else workerCount)
      { queue := .make queueCapacity } }

def setWorker (pool : WorkerPool β γ) (index : Nat) (worker : Worker β γ) : WorkerPool β γ :=
  { pool with workers := pool.workers.set index worker }

/-- The pool runs, with a thread for every worker. -/
def spawned (pool : WorkerPool β γ) : WorkerPool β γ :=
  { pool with
    running := true
    workers := pool.workers.map fun worker => { worker with thread := .popping } }

/-- The shutdown loop closes every queue before it joins the first thread. -/
def afterClose (pool : WorkerPool β γ) (cancel : Bool) (index : Nat) : Lifecycle :=
  if index + 1 < pool.workers.length then .closing cancel (index + 1) else .joining 0

/-- The steps of the pool. A submission is two of them, the running check under the lifecycle lock
and the push; a shutdown holds that lock from its check to the last join. A call that returns
without changing anything is not a step. -/
inductive Step : WorkerPool β γ → PoolAction β γ → WorkerPool β γ → Prop
  | start {pool : WorkerPool β γ} (hfree : pool.lifecycle = .free) (hidle : pool.running = false) :
      Step pool .start pool.spawned
  | enlist {pool : WorkerPool β γ} (hfree : pool.lifecycle = .free) (hrunning : pool.running = true) :
      Step pool (.enlist route batch)
        { pool with admitted := (route % pool.workers.length, batch) :: pool.admitted }
  | push {pool : WorkerPool β γ} (hadmitted : pool.admitted = before ++ (index, batch) :: after)
      (hworker : pool.workers[index]? = some worker)
      (hpush : worker.queue.push batch = some (queue, true)) :
      Step pool (.push index batch)
        { pool.setWorker index { worker with queue := queue } with admitted := before ++ after }
  | refuse {pool : WorkerPool β γ} (hadmitted : pool.admitted = before ++ (index, batch) :: after)
      (hworker : pool.workers[index]? = some worker)
      (hpush : worker.queue.push batch = some (queue, false)) :
      Step pool (.refuse index batch) { pool with admitted := before ++ after }
  | pop {pool : WorkerPool β γ} (hworker : pool.workers[index]? = some worker)
      (hthread : worker.thread = .popping) (hpop : worker.queue.pop = some (queue, some batch)) :
      Step pool (.pop index batch) (pool.setWorker index ⟨queue, .handling batch⟩)
  | exit {pool : WorkerPool β γ} (hworker : pool.workers[index]? = some worker)
      (hthread : worker.thread = .popping) (hpop : worker.queue.pop = some (queue, none)) :
      Step pool (.exit index) (pool.setWorker index ⟨queue, .exited⟩)
  | handle {pool : WorkerPool β γ} (hworker : pool.workers[index]? = some worker)
      (hthread : worker.thread = .handling batch) :
      Step pool (.handle index batch) (pool.setWorker index { worker with thread := .handled batch })
  | signal {pool : WorkerPool β γ} (hworker : pool.workers[index]? = some worker)
      (hthread : worker.thread = .handled batch) :
      Step pool (.signal index batch rest)
        (pool.setWorker index { worker with thread := .signalling rest })
  | finish {pool : WorkerPool β γ} (hworker : pool.workers[index]? = some worker)
      (hthread : worker.thread = .signalling rest) :
      Step pool (.finish index rest) (pool.setWorker index { worker with thread := .popping })
  | shutdown {pool : WorkerPool β γ} (hfree : pool.lifecycle = .free)
      (hrunning : pool.running = true) :
      Step pool (.shutdown cancel) { pool with lifecycle := .closing cancel 0 }
  | close {pool : WorkerPool β γ} (hclosing : pool.lifecycle = .closing cancel index)
      (hworker : pool.workers[index]? = some worker) :
      Step pool (.close index)
        { pool.setWorker index { worker with queue := worker.queue.close } with
          lifecycle := if cancel then .discarding index else pool.afterClose false index }
  | discard {pool : WorkerPool β γ} (hdiscarding : pool.lifecycle = .discarding index)
      (hworker : pool.workers[index]? = some worker) (hitems : worker.queue.items = batches) :
      Step pool (.discard index batches)
        { pool.setWorker index { worker with queue := worker.queue.discardPending } with
          lifecycle := pool.afterClose true index }
  | join {pool : WorkerPool β γ} (hjoining : pool.lifecycle = .joining index)
      (hworker : pool.workers[index]? = some worker) (hthread : worker.thread = .exited) :
      Step pool (.join index)
        { pool.setWorker index { worker with thread := .absent } with
          lifecycle := .joining (index + 1) }
  | halt {pool : WorkerPool β γ} (hjoining : pool.lifecycle = .joining pool.workers.length) :
      Step pool .halt { pool with running := false, lifecycle := .free }

end WorkerPool

namespace PoolAction

/-- The batch of a successful submission to the queue. -/
def pushedTo (index : Nat) : PoolAction β γ → Option β
  | push route batch => if route = index then some batch else none
  | _ => none

def poppedFrom (index : Nat) : PoolAction β γ → Option β
  | pop worker batch => if worker = index then some batch else none
  | _ => none

def handledBy (index : Nat) : PoolAction β γ → Option β
  | handle worker batch => if worker = index then some batch else none
  | _ => none

/-- The batch whose completion callback the worker enters. -/
def signalledBy (index : Nat) : PoolAction β γ → Option β
  | signal worker batch _ => if worker = index then some batch else none
  | _ => none

/-- What is left of the callback that the worker enters. -/
def enteredBy (index : Nat) : PoolAction β γ → Option γ
  | signal worker _ rest => if worker = index then some rest else none
  | _ => none

/-- What was left of the callback that the worker returns from. -/
def finishedBy (index : Nat) : PoolAction β γ → Option γ
  | finish worker rest => if worker = index then some rest else none
  | _ => none

def discardedFrom (index : Nat) : PoolAction β γ → List β
  | discard worker batches => if worker = index then batches else []
  | _ => []

end PoolAction

end LinkObservatory
