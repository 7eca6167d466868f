import LinkObservatory.PoolRun

namespace LinkObservatory
set_option autoImplicit true

open Labelled

namespace WorkerPool

/-- The pool is not running and none of its threads is. -/
def Quiescent (pool : WorkerPool β γ) : Prop :=
  pool.running = false ∧
    ∀ worker ∈ pool.workers, worker.thread = .absent ∨ worker.thread = .exited

/-- Every batch a queue accepted has had its callback entered. -/
def EachSignalled (pool : WorkerPool β γ) (labels : List (PoolAction β γ)) : Prop :=
  ∀ index, index < pool.workers.length → signalledAt index labels = acceptedAt index labels

/-- No cancellation found a batch in a queue it discarded. -/
def NoneDiscarded (labels : List (PoolAction β γ)) : Prop :=
  ∀ index batches, .discard index batches ∈ labels → batches = []

/-- A worker that is gone has signalled what its queue accepted, up to what was discarded. -/
theorem run_accepted {pool : WorkerPool β γ}
    (h : Run Step (make workerCount queueCapacity) labels pool) (hquiet : pool.running = false)
    (hlt : index < pool.workers.length) :
    acceptedAt index labels = signalledAt index labels ++ discardedAt index labels := by
  obtain ⟨hsound, hflows⟩ := run_sound h
  have hworker := List.getElem?_eq_getElem hlt
  obtain ⟨habsent, hitems⟩ := hsound.quiescent hquiet _ (List.mem_of_getElem? hworker)
  have hflow := hflows index _ hworker
  rw [hflow.accepted, hflow.popped, hflow.handled, habsent, hitems]
  simp [WorkerThread.unhandled, WorkerThread.unsignalled]

/-- Once a pool has stopped, every accepted batch has been signalled exactly when no cancellation
found a batch to discard. -/
theorem eachSignalled_iff {pool : WorkerPool β γ}
    (h : Run Step (make workerCount queueCapacity) labels pool) (hquiet : pool.Quiescent) :
    pool.EachSignalled labels ↔ NoneDiscarded labels := by
  have hloss (index : Nat) (hlt : index < pool.workers.length) :
      signalledAt index labels = acceptedAt index labels ↔ discardedAt index labels = [] := by
    rw [run_accepted h hquiet.1 hlt, List.self_eq_append_right]
  constructor
  · intro hsignalled index batches hmem
    have hlt := run_site_lt h hmem rfl
    exact (discardedAt_eq_nil index labels).1 ((hloss index hlt).1 (hsignalled index hlt)) batches
      hmem
  · intro hnone index hlt
    exact (hloss index hlt).2 ((discardedAt_eq_nil index labels).2 (hnone index))

/-- The steps of a pool of one worker up to its first accepted batch. -/
def acceptOne : List (PoolAction Nat Unit) := [.start, .enlist 0 7, .push 0 7]

/-- One batch is handled before the cancellation and another is in the hands of the worker when it
comes; both are signalled. -/
theorem eachSignalled_stop :
    ∃ (labels : List (PoolAction Nat Unit)) (pool : WorkerPool Nat Unit),
      Run Step (make 1 1) labels pool ∧ pool.Quiescent ∧ .shutdown true ∈ labels ∧
        acceptedAt 0 labels = [7, 8] ∧ pool.EachSignalled labels := by
  have hrun : ∃ pool : WorkerPool Nat Unit, Run Step (make 1 1)
      (acceptOne ++ [.pop 0 7, .handle 0 7, .signal 0 7 (), .finish 0 (), .enlist 0 8, .push 0 8,
        .pop 0 8, .shutdown true, .close 0, .discard 0 [], .handle 0 8, .signal 0 8 (),
        .finish 0 (), .exit 0, .join 0, .halt]) pool ∧ pool.Quiescent :=
    ⟨_, .cons (.start rfl rfl) <| .cons (.enlist rfl rfl) <|
      .cons (.push (List.nil_append _).symm rfl rfl) <| .cons (.pop rfl rfl rfl) <|
      .cons (.handle rfl rfl) <| .cons (.signal rfl rfl) <| .cons (.finish rfl rfl) <|
      .cons (.enlist rfl rfl) <| .cons (.push (List.nil_append _).symm rfl rfl) <|
      .cons (.pop rfl rfl rfl) <| .cons (.shutdown rfl rfl) <| .cons (.close rfl rfl) <|
      .cons (.discard rfl rfl rfl) <| .cons (.handle rfl rfl) <| .cons (.signal rfl rfl) <|
      .cons (.finish rfl rfl) <| .cons (.exit rfl rfl rfl) <| .cons (.join rfl rfl rfl) <|
      .cons (.halt rfl) .nil, rfl, by decide⟩
  obtain ⟨pool, hrun, hquiet⟩ := hrun
  exact ⟨_, pool, hrun, hquiet, by simp, rfl,
    (eachSignalled_iff hrun hquiet).2 (by simp [NoneDiscarded, acceptOne])⟩

/-- A cancellation discards an accepted batch and never signals it. -/
theorem eachSignalled_fails :
    ¬ ∀ (labels : List (PoolAction Nat Unit)) (pool : WorkerPool Nat Unit),
      Run Step (make 1 1) labels pool → pool.Quiescent → pool.EachSignalled labels := by
  intro h
  have hrun : ∃ pool : WorkerPool Nat Unit, Run Step (make 1 1)
      (acceptOne ++ [.shutdown true, .close 0, .discard 0 [7], .exit 0, .join 0, .halt]) pool ∧
        pool.Quiescent ∧ pool.workers.length = 1 :=
    ⟨_, .cons (.start rfl rfl) <| .cons (.enlist rfl rfl) <|
      .cons (.push (List.nil_append _).symm rfl rfl) <| .cons (.shutdown rfl rfl) <|
      .cons (.close rfl rfl) <| .cons (.discard rfl rfl rfl) <| .cons (.exit rfl rfl rfl) <|
      .cons (.join rfl rfl rfl) <| .cons (.halt rfl) .nil, ⟨rfl, by decide⟩, rfl⟩
  obtain ⟨pool, hrun, hquiet, hlength⟩ := hrun
  have hsignalled := h _ pool hrun hquiet 0 (by rw [hlength]; exact Nat.zero_lt_one)
  exact absurd hsignalled (by decide)

end WorkerPool

end LinkObservatory
