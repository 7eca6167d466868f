import LinkObservatory.Lib.Condition
import LinkObservatory.Lib.LabelledRun

namespace LinkObservatory
set_option autoImplicit true

open Labelled Condition

/-- A thread in a call of a completion. The first signal notifies after it has given up the lock. -/
inductive CompletionThread
  | signalling
  | notifying
  | signalled
  | waiting
  | asleep
  | released
deriving DecidableEq, Repr

namespace CompletionThread

/-- What the thread is to the condition of the completion. -/
def role : CompletionThread → Role
  | asleep => .asleep
  | notifying => .notifying
  | _ => .elsewhere

/-- A sleeper looks again. -/
def retry : CompletionThread → CompletionThread
  | asleep => waiting
  | thread => thread

def returned : CompletionThread → Bool
  | signalled | released => true
  | _ => false

end CompletionThread

/-- A completion with the threads in its calls. -/
structure BatchCompletion where
  done : Bool := false
  threads : List CompletionThread := []
deriving DecidableEq, Repr

inductive CompletionAction
  | callSignal
  | callWait
  | signal
  | again
  | notify
  | leave
  | sleep
  | stir
deriving DecidableEq, Repr

namespace BatchCompletion

/-- The steps of the threads: a critical section under the lock, or the notification of all sleepers
after one. A sleeper may also wake up on its own. -/
inductive Step : BatchCompletion → CompletionAction → BatchCompletion → Prop
  | callSignal {completion : BatchCompletion} :
      Step completion .callSignal
        { completion with threads := completion.threads ++ [.signalling] }
  | callWait {completion : BatchCompletion} :
      Step completion .callWait { completion with threads := completion.threads ++ [.waiting] }
  | signal {completion : BatchCompletion} (index : Nat)
      (hthread : completion.threads[index]? = some .signalling)
      (hdone : completion.done = false) :
      Step completion .signal { done := true, threads := completion.threads.set index .notifying }
  | again {completion : BatchCompletion} (index : Nat)
      (hthread : completion.threads[index]? = some .signalling) (hdone : completion.done = true) :
      Step completion .again
        { completion with threads := completion.threads.set index .signalled }
  | notify {completion : BatchCompletion} (index : Nat)
      (hthread : completion.threads[index]? = some .notifying) :
      Step completion .notify
        { completion with
          threads := (completion.threads.set index .signalled).map CompletionThread.retry }
  | leave {completion : BatchCompletion} (index : Nat)
      (hthread : completion.threads[index]? = some .waiting) (hdone : completion.done = true) :
      Step completion .leave
        { completion with threads := completion.threads.set index .released }
  | sleep {completion : BatchCompletion} (index : Nat)
      (hthread : completion.threads[index]? = some .waiting) (hdone : completion.done = false) :
      Step completion .sleep { completion with threads := completion.threads.set index .asleep }
  | stir {completion : BatchCompletion} (index : Nat)
      (hthread : completion.threads[index]? = some .asleep) :
      Step completion .stir { completion with threads := completion.threads.set index .waiting }

/-- The units of the condition: one once the completion is signalled. -/
def units (completion : BatchCompletion) : Nat := if completion.done then 1 else 0

/-- The completion is done once it was signalled, nobody left before, and while somebody sleeps at a
done completion a notification is still owed. -/
structure Sound (labels : List CompletionAction) (completion : BatchCompletion) : Prop where
  signalled : completion.done = true ↔ CompletionAction.signal ∈ labels
  released : .released ∈ completion.threads → completion.done = true
  attended : Attended CompletionThread.role completion.threads completion.units

theorem not_asleep_retry (threads : List CompletionThread) :
    ∀ thread ∈ threads.map CompletionThread.retry, thread.role ≠ .asleep := by
  intro thread hmem hasleep
  obtain ⟨before, -, rfl⟩ := List.mem_map.1 hmem
  cases before <;> cases hasleep

theorem mem_of_mem_set {threads : List CompletionThread}
    (hmem : CompletionThread.released ∈ threads.set index new) (hnew : new ≠ .released) :
    CompletionThread.released ∈ threads := by
  rcases List.mem_or_eq_of_mem_set hmem with h | h
  · exact h
  · exact absurd h.symm hnew

theorem mem_silent {labels : List CompletionAction} (haction : action ≠ .signal) :
    CompletionAction.signal ∈ labels ++ [action] ↔ CompletionAction.signal ∈ labels := by
  rw [List.mem_append, List.mem_singleton, or_iff_left (Ne.symm haction)]

theorem Sound.step {completion completion' : BatchCompletion} (h : Sound labels completion)
    (hstep : Step completion action completion') : Sound (labels ++ [action]) completion' := by
  obtain ⟨hsignalled, hreleased, hattended⟩ := h
  cases hstep with
  | callSignal =>
    refine ⟨hsignalled.trans (mem_silent (by decide)).symm, fun hmem => ?_,
      hattended.append (by decide)⟩
    rcases List.mem_append.1 hmem with hold | hnew
    · exact hreleased hold
    · cases List.mem_singleton.1 hnew
  | callWait =>
    refine ⟨hsignalled.trans (mem_silent (by decide)).symm, fun hmem => ?_,
      hattended.append (by decide)⟩
    rcases List.mem_append.1 hmem with hold | hnew
    · exact hreleased hold
    · cases List.mem_singleton.1 hnew
  | signal index hthread hdone =>
    refine ⟨⟨fun _ => List.mem_append_right _ (List.mem_singleton_self _), fun _ => rfl⟩,
      fun _ => rfl, ?_⟩
    rw [units, hdone, if_neg Bool.false_ne_true] at hattended
    exact hattended.set hthread (by decide) (Nat.le_refl _)
  | again index hthread hdone =>
    exact ⟨hsignalled.trans (mem_silent (by decide)).symm, fun _ => hdone,
      hattended.set hthread (by decide) (Nat.le_refl _)⟩
  | notify index hthread =>
    refine ⟨hsignalled.trans (mem_silent (by decide)).symm, fun hmem => ?_,
      attended_of_awake (not_asleep_retry _) _⟩
    obtain ⟨before, hbefore, hretry⟩ := List.mem_map.1 hmem
    cases before with
    | released => exact hreleased (mem_of_mem_set hbefore (by decide))
    | _ => cases hretry
  | leave index hthread hdone =>
    exact ⟨hsignalled.trans (mem_silent (by decide)).symm, fun _ => hdone,
      hattended.set hthread (by decide) (Nat.le_refl _)⟩
  | sleep index hthread hdone =>
    refine ⟨hsignalled.trans (mem_silent (by decide)).symm,
      fun hmem => hreleased (mem_of_mem_set hmem (by decide)), ?_⟩
    show Attended _ _ (if completion.done then 1 else 0)
    rw [hdone]
    exact attended_of_unit
  | stir index hthread =>
    exact ⟨hsignalled.trans (mem_silent (by decide)).symm,
      fun hmem => hreleased (mem_of_mem_set hmem (by decide)),
      hattended.set hthread (by decide) (Nat.le_refl _)⟩

theorem run_sound {completion : BatchCompletion} (h : Run Step {} labels completion) :
    Sound labels completion := by
  apply h.invariant Sound
  · exact ⟨by decide, fun hmem => (by cases hmem), attended_nil _⟩
  · intro _ _ _ _ _ hsound hstep
    exact hsound.step hstep

/-- A wait and a signal meet in every interleaving: a wait returns only after a signal, a waiter that
sleeps on after it is about to be notified, and once no thread can go on, everybody has returned or
nobody has signalled. -/
theorem waiters_released {completion : BatchCompletion} (h : Run Step {} labels completion) :
    (.released ∈ completion.threads → .signal ∈ labels) ∧
      (.asleep ∈ completion.threads → .signal ∈ labels → .notifying ∈ completion.threads) ∧
      ((∀ thread ∈ completion.threads, thread = .asleep ∨ thread.returned = true) →
        .signal ∈ labels → ∀ thread ∈ completion.threads, thread.returned = true) := by
  obtain ⟨hsignalled, hreleased, hattended⟩ := run_sound h
  have howed : .asleep ∈ completion.threads → .signal ∈ labels →
      .notifying ∈ completion.threads := by
    intro hasleep hsignal
    have hunits : 0 < completion.units := by
      rw [units, if_pos (hsignalled.2 hsignal)]
      exact Nat.one_pos
    obtain ⟨other, hmem, hrole⟩ := hattended.exists_attending hasleep rfl hunits
    cases other with
    | notifying => exact hmem
    | _ => rcases hrole with hrole | hrole <;> cases hrole
  refine ⟨fun hmem => hsignalled.1 (hreleased hmem), howed, ?_⟩
  intro hstuck hsignal thread hmem
  rcases hstuck thread hmem with rfl | hreturned
  · rcases hstuck _ (howed hmem hsignal) with h | h <;> cases h
  · exact hreturned

/-- The waiter sleeps and the signal has not notified yet. -/
theorem run_owed : Run Step {} [.callWait, .sleep, .callSignal, .signal]
    { done := true, threads := [.asleep, .notifying] } := by
  apply Run.cons .callWait
  apply Run.cons (.sleep 0 rfl rfl)
  apply Run.cons .callSignal
  apply Run.cons (.signal 1 rfl rfl)
  exact .nil

theorem waiters_released_owed : CompletionThread.notifying ∈ [CompletionThread.asleep, .notifying] :=
  (waiters_released run_owed).2.1 (by decide) (by decide)

end BatchCompletion

end LinkObservatory
