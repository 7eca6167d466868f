import LinkObservatory.WorkerPool
import LinkObservatory.Lib.Grouping

namespace LinkObservatory
set_option autoImplicit true

open Labelled

/-- What the phase of a shutdown says about the worker at an index. -/
def Lifecycle.Allows (lifecycle : Lifecycle) (running : Bool) (index : Nat) (worker : Worker β γ) :
    Prop :=
  match lifecycle with
  | free => if running then worker.thread ≠ .absent
      else worker.thread = .absent ∧ worker.queue.items = []
  | closing _ next => worker.thread ≠ .absent ∧ (index < next → worker.queue.closed = true)
  | discarding next => worker.thread ≠ .absent ∧ (index ≤ next → worker.queue.closed = true)
  | joining next => worker.queue.closed = true ∧ (next ≤ index → worker.thread ≠ .absent) ∧
      (index < next → worker.thread = .absent ∧ worker.queue.items = [])

theorem Lifecycle.Allows.live {lifecycle : Lifecycle} {running : Bool} {worker new : Worker β γ}
    (h : lifecycle.Allows running index worker) (hthread : worker.thread ≠ .absent)
    (hnew : new.thread ≠ .absent)
    (hclosed : worker.queue.closed = true → new.queue.closed = true) :
    lifecycle.Allows running index new := by
  cases lifecycle with
  | free =>
    cases running with
    | true => exact hnew
    | false => exact absurd h.1 hthread
  | closing cancel next => exact ⟨hnew, fun hlt => hclosed (h.2 hlt)⟩
  | discarding next => exact ⟨hnew, fun hle => hclosed (h.2 hle)⟩
  | joining next =>
    exact ⟨hclosed h.1, fun _ => hnew, fun hlt => absurd (h.2.2 hlt).1 hthread⟩

theorem Lifecycle.Allows.opened {lifecycle : Lifecycle} {worker : Worker β γ}
    (h : lifecycle.Allows true index worker) (hopen : worker.queue.closed = false) :
    worker.thread ≠ .absent := by
  cases lifecycle with
  | free => exact h
  | closing cancel next => exact h.1
  | discarding next => exact h.1
  | joining next =>
    rw [h.1] at hopen
    cases hopen

namespace WorkerPool

/-- What holds of a pool between any two steps. -/
structure Sound (pool : WorkerPool β γ) : Prop where
  nonempty : 0 < pool.workers.length
  queues : ∀ worker ∈ pool.workers, worker.queue.Sound
  exited : ∀ worker ∈ pool.workers, worker.thread = .exited →
    worker.queue.closed = true ∧ worker.queue.items = []
  phase : ∀ index worker, pool.workers[index]? = some worker →
    pool.lifecycle.Allows pool.running index worker
  busy : pool.lifecycle ≠ .free → pool.running = true
  admitted : pool.admitted ≠ [] →
    pool.running = true ∨ ∀ worker ∈ pool.workers, worker.queue.closed = true

theorem make_sound (workerCount queueCapacity : Nat) :
    (make workerCount queueCapacity : WorkerPool β γ).Sound where
  nonempty := by
    simp only [make, List.length_replicate]
    split <;> omega
  queues worker hmem := by
    rw [List.eq_of_mem_replicate hmem]
    exact BoundedQueue.make_sound queueCapacity
  exited worker hmem hexited := by
    rw [List.eq_of_mem_replicate hmem] at hexited
    cases hexited
  phase index worker hworker := by
    rw [List.eq_of_mem_replicate (List.mem_of_getElem? hworker)]
    exact ⟨rfl, rfl⟩
  busy hne := absurd rfl hne
  admitted hne := absurd rfl hne

theorem mem_set {workers : List α} (hmem : worker ∈ workers.set index new) :
    worker = new ∨ worker ∈ workers := by
  rcases List.mem_or_eq_of_mem_set hmem with h | h
  · exact .inr h
  · exact .inl h

theorem afterClose_allows (pool : WorkerPool β γ) {running : Bool} {worker : Worker β γ}
    (hlt : other < pool.workers.length) (hlive : worker.thread ≠ .absent)
    (hclosed : other ≤ index → worker.queue.closed = true) :
    (pool.afterClose cancel index).Allows running other worker := by
  unfold afterClose
  split
  · exact ⟨hlive, fun hother => hclosed (by omega)⟩
  · exact ⟨hclosed (by omega), fun _ => hlive, fun hother => absurd hother (Nat.not_lt_zero other)⟩

theorem Sound.update {pool : WorkerPool β γ} (h : pool.Sound)
    (hworker : pool.workers[index]? = some worker) (new : Worker β γ) (lifecycle : Lifecycle)
    (waiting : List (Nat × β)) (hqueue : new.queue.Sound)
    (hexited : new.thread = .exited → new.queue.closed = true ∧ new.queue.items = [])
    (hnew : lifecycle.Allows pool.running index new)
    (hothers : ∀ other worker, other ≠ index → pool.workers[other]? = some worker →
      lifecycle.Allows pool.running other worker)
    (hbusy : lifecycle ≠ .free → pool.running = true)
    (hadmitted : waiting ≠ [] → pool.admitted ≠ [])
    (hclosed : worker.queue.closed = true → new.queue.closed = true) :
    Sound { pool.setWorker index new with lifecycle := lifecycle, admitted := waiting } where
  nonempty := by simpa [setWorker] using h.nonempty
  queues other hmem := by
    rcases mem_set hmem with rfl | hmem
    · exact hqueue
    · exact h.queues other hmem
  exited other hmem := by
    rcases mem_set hmem with rfl | hmem
    · exact hexited
    · exact h.exited other hmem
  phase other found hfound := by
    rw [setWorker, List.getElem?_set] at hfound
    split at hfound
    · rename_i heq
      subst heq
      split at hfound
      · obtain rfl := Option.some.inj hfound
        exact hnew
      · cases hfound
    · rename_i hne
      exact hothers other found (Ne.symm hne) hfound
  busy := hbusy
  admitted hne := by
    rcases h.admitted (hadmitted hne) with hrunning | hall
    · exact .inl hrunning
    · refine .inr fun other hmem => ?_
      rcases mem_set hmem with rfl | hmem
      · exact hclosed (hall worker (List.mem_of_getElem? hworker))
      · exact hall other hmem

theorem Sound.advance {pool : WorkerPool β γ} (h : pool.Sound)
    (hworker : pool.workers[index]? = some worker) (hthread : worker.thread ≠ .absent)
    (new : Worker β γ) (hqueue : new.queue.Sound) (hnew : new.thread ≠ .absent)
    (hexited : new.thread = .exited → new.queue.closed = true ∧ new.queue.items = [])
    (hclosed : worker.queue.closed = true → new.queue.closed = true) :
    (pool.setWorker index new).Sound :=
  h.update hworker new pool.lifecycle pool.admitted hqueue hexited
    ((h.phase index worker hworker).live hthread hnew hclosed)
    (fun other found _ hfound => h.phase other found hfound) h.busy id hclosed

theorem Sound.step {pool pool' : WorkerPool β γ} (h : pool.Sound)
    (hstep : Step pool action pool') : pool'.Sound := by
  cases hstep with
  | start hfree hidle =>
    refine ⟨by simpa [spawned] using h.nonempty, fun worker hmem => ?_,
      fun worker hmem hexited => ?_,
      fun index worker hworker => ?_, fun _ => rfl, fun _ => .inl rfl⟩
    · obtain ⟨idle, hidle, rfl⟩ := List.mem_map.1 hmem
      exact h.queues idle hidle
    · obtain ⟨idle, hidle, rfl⟩ := List.mem_map.1 hmem
      cases hexited
    · obtain ⟨idle, hidle, rfl⟩ := List.mem_map.1 (List.mem_of_getElem? hworker)
      simp [spawned, hfree, Lifecycle.Allows]
  | enlist hfree hrunning =>
    exact ⟨h.nonempty, h.queues, h.exited, h.phase, h.busy, fun _ => .inl hrunning⟩
  | push hadmitted hworker hpush =>
    rename_i before index batch after worker queue
    have hmem := List.mem_of_getElem? hworker
    obtain ⟨hopen, -, hqueue⟩ := BoundedQueue.push_true hpush
    have hrunning : pool.running = true := by
      rcases h.admitted (by simp [hadmitted]) with hrunning | hall
      · exact hrunning
      · simp [hall worker hmem] at hopen
    have hphase := h.phase index worker hworker
    have hlive := (hrunning ▸ hphase).opened hopen
    refine h.update hworker { worker with queue := queue } pool.lifecycle (before ++ after)
      ((h.queues worker hmem).push hpush) (fun hexited => ?_)
      (hphase.live hlive hlive fun hclosed => ?_)
      (fun other found _ hfound => h.phase other found hfound) h.busy
      (fun _ => by simp [hadmitted]) (fun hclosed => ?_)
    · simp [(h.exited worker hmem hexited).1] at hopen
    · simp [hclosed] at hopen
    · simp [hclosed] at hopen
  | refuse hadmitted hworker hpush =>
    exact ⟨h.nonempty, h.queues, h.exited, h.phase, h.busy,
      fun _ => h.admitted (by simp [hadmitted])⟩
  | pop hworker hthread hpop =>
    obtain ⟨-, hqueue⟩ := BoundedQueue.pop_some hpop
    refine h.advance hworker (by simp [hthread]) _
      ((h.queues _ (List.mem_of_getElem? hworker)).pop hpop) (by simp) (by simp) fun hclosed => ?_
    rw [hqueue]
    exact hclosed
  | exit hworker hthread hpop =>
    obtain ⟨hitems, hclosed, rfl⟩ := BoundedQueue.pop_none hpop
    have hqueue := h.queues _ (List.mem_of_getElem? hworker)
    exact h.advance hworker (by simp [hthread]) _ hqueue (by simp) (fun _ => ⟨hclosed, hitems⟩) id
  | handle hworker hthread =>
    have hqueue := h.queues _ (List.mem_of_getElem? hworker)
    exact h.advance hworker (by simp [hthread]) _ hqueue (by simp) (by simp) id
  | signal hworker hthread =>
    have hqueue := h.queues _ (List.mem_of_getElem? hworker)
    exact h.advance hworker (by simp [hthread]) _ hqueue (by simp) (by simp) id
  | finish hworker hthread =>
    have hqueue := h.queues _ (List.mem_of_getElem? hworker)
    exact h.advance hworker (by simp [hthread]) _ hqueue (by simp) (by simp) id
  | shutdown hfree hrunning =>
    refine ⟨h.nonempty, h.queues, h.exited, fun index worker hworker => ?_, fun _ => hrunning,
      h.admitted⟩
    have hphase := h.phase index worker hworker
    rw [hfree, hrunning] at hphase
    exact ⟨hphase, fun hlt => absurd hlt (Nat.not_lt_zero index)⟩
  | close hclosing hworker =>
    rename_i cancel index worker
    have hrunning : pool.running = true := h.busy (by simp [hclosing])
    have hphase (other : Nat) (found : Worker β γ) (hfound : pool.workers[other]? = some found) :
        found.thread ≠ .absent ∧ (other < index → found.queue.closed = true) := by
      have hallows := h.phase other found hfound
      rw [hclosing] at hallows
      exact hallows
    have hnext (other : Nat) (found : Worker β γ) (hlt : other < pool.workers.length)
        (hlive : found.thread ≠ .absent) (hclosed : other ≤ index → found.queue.closed = true) :
        Lifecycle.Allows (if cancel then .discarding index else pool.afterClose false index)
          pool.running other found := by
      cases cancel with
      | true => exact ⟨hlive, hclosed⟩
      | false => exact pool.afterClose_allows hlt hlive hclosed
    refine h.update hworker { worker with queue := worker.queue.close } _ pool.admitted
      (h.queues worker (List.mem_of_getElem? hworker)).close
      (fun hexited => ⟨rfl, (h.exited worker (List.mem_of_getElem? hworker) hexited).2⟩)
      (hnext index _ (List.getElem?_eq_some_iff.1 hworker).1 (hphase index worker hworker).1
        fun _ => rfl)
      (fun other found hne hfound => hnext other found (List.getElem?_eq_some_iff.1 hfound).1
        (hphase other found hfound).1 fun hle => (hphase other found hfound).2 (by omega))
      (fun _ => hrunning) id (fun _ => rfl)
  | discard hdiscarding hworker hitems =>
    rename_i index worker batches
    have hrunning : pool.running = true := h.busy (by simp [hdiscarding])
    have hphase (other : Nat) (found : Worker β γ) (hfound : pool.workers[other]? = some found) :
        (pool.afterClose true index).Allows pool.running other found := by
      have hallows := h.phase other found hfound
      rw [hdiscarding] at hallows
      exact pool.afterClose_allows (List.getElem?_eq_some_iff.1 hfound).1 hallows.1 hallows.2
    have hallows := h.phase index worker hworker
    rw [hdiscarding] at hallows
    refine h.update hworker { worker with queue := worker.queue.discardPending } _ pool.admitted
      (h.queues worker (List.mem_of_getElem? hworker)).discardPending
      (fun hexited => ⟨(h.exited worker (List.mem_of_getElem? hworker) hexited).1, rfl⟩)
      (pool.afterClose_allows (List.getElem?_eq_some_iff.1 hworker).1 hallows.1 hallows.2)
      (fun other found _ hfound => hphase other found hfound) (fun _ => hrunning) id id
  | join hjoining hworker hthread =>
    rename_i index worker
    have hrunning : pool.running = true := h.busy (by simp [hjoining])
    have hphase (other : Nat) (found : Worker β γ) (hfound : pool.workers[other]? = some found) :
        (Lifecycle.joining index).Allows pool.running other found := by
      rw [← hjoining]
      exact h.phase other found hfound
    have hmem := List.mem_of_getElem? hworker
    obtain ⟨hclosed, hitems⟩ := h.exited worker hmem hthread
    refine h.update hworker { worker with thread := .absent } _ pool.admitted
      (h.queues worker hmem) (by simp) ⟨hclosed, fun hle => by omega, fun _ => ⟨rfl, hitems⟩⟩
      (fun other found hne hfound => ?_) (fun _ => hrunning) id id
    obtain ⟨hother, hlive, hjoined⟩ := hphase other found hfound
    exact ⟨hother, fun hle => hlive (by omega), fun hlt => hjoined (by omega)⟩
  | halt hjoining =>
    have hphase (index : Nat) (worker : Worker β γ) (hworker : pool.workers[index]? = some worker) :
        (Lifecycle.joining pool.workers.length).Allows pool.running index worker := by
      rw [← hjoining]
      exact h.phase index worker hworker
    refine ⟨h.nonempty, h.queues, h.exited, fun index worker hworker => ?_,
      fun hne => absurd rfl hne, fun _ => .inr fun worker hmem => ?_⟩
    · exact (hphase index worker hworker).2.2 (List.getElem?_eq_some_iff.1 hworker).1
    · obtain ⟨index, hworker⟩ := List.getElem?_of_mem hmem
      exact (hphase index worker hworker).1

end WorkerPool

/-- The batch a thread holds and has not handled. -/
def WorkerThread.unhandled : WorkerThread β γ → List β
  | .handling batch => [batch]
  | _ => []

/-- The batch a thread has handled without entering its callback. -/
def WorkerThread.unsignalled : WorkerThread β γ → List β
  | .handled batch => [batch]
  | _ => []

/-- What a thread still has to do of the callback it is in. -/
def WorkerThread.unfinished : WorkerThread β γ → List γ
  | .signalling rest => [rest]
  | _ => []

def acceptedAt (index : Nat) (labels : List (PoolAction β γ)) : List β :=
  labels.filterMap (PoolAction.pushedTo index)

def poppedAt (index : Nat) (labels : List (PoolAction β γ)) : List β :=
  labels.filterMap (PoolAction.poppedFrom index)

def handledAt (index : Nat) (labels : List (PoolAction β γ)) : List β :=
  labels.filterMap (PoolAction.handledBy index)

def signalledAt (index : Nat) (labels : List (PoolAction β γ)) : List β :=
  labels.filterMap (PoolAction.signalledBy index)

def enteredAt (index : Nat) (labels : List (PoolAction β γ)) : List γ :=
  labels.filterMap (PoolAction.enteredBy index)

def finishedAt (index : Nat) (labels : List (PoolAction β γ)) : List γ :=
  labels.filterMap (PoolAction.finishedBy index)

def discardedAt (index : Nat) (labels : List (PoolAction β γ)) : List β :=
  labels.flatMap (PoolAction.discardedFrom index)

/-- Where the batches that a queue accepted are: each has passed the stations of its worker in
the order in which it was accepted, or was discarded by a cancellation. -/
structure Worker.Flow (worker : Worker β γ) (index : Nat) (labels : List (PoolAction β γ)) :
    Prop where
  accepted : acceptedAt index labels =
    poppedAt index labels ++ discardedAt index labels ++ worker.queue.items
  popped : poppedAt index labels = handledAt index labels ++ worker.thread.unhandled
  handled : handledAt index labels = signalledAt index labels ++ worker.thread.unsignalled
  entered : enteredAt index labels = finishedAt index labels ++ worker.thread.unfinished
  discarded : discardedAt index labels ≠ [] →
    worker.queue.closed = true ∧ worker.queue.items = []

theorem discardedAt_eq_nil (index : Nat) (labels : List (PoolAction β γ)) :
    discardedAt index labels = [] ↔ ∀ batches, .discard index batches ∈ labels → batches = [] := by
  rw [discardedAt, List.flatMap_eq_nil_iff]
  constructor
  · intro h batches hmem
    simpa [PoolAction.discardedFrom] using h _ hmem
  · intro h action hmem
    cases action with
    | discard worker batches =>
      by_cases heq : worker = index
      · subst heq
        simpa [PoolAction.discardedFrom] using h batches hmem
      · simp [PoolAction.discardedFrom, heq]
    | _ => rfl

theorem Worker.Flow.extend {worker new : Worker β γ} {action : PoolAction β γ}
    (h : worker.Flow index labels)
    (hitems : worker.queue.items ++ (action.pushedTo index).toList =
      (action.poppedFrom index).toList ++ action.discardedFrom index ++ new.queue.items)
    (hunhandled : worker.thread.unhandled ++ (action.poppedFrom index).toList =
      (action.handledBy index).toList ++ new.thread.unhandled)
    (hunsignalled : worker.thread.unsignalled ++ (action.handledBy index).toList =
      (action.signalledBy index).toList ++ new.thread.unsignalled)
    (hunfinished : worker.thread.unfinished ++ (action.enteredBy index).toList =
      (action.finishedBy index).toList ++ new.thread.unfinished)
    (hpopped : action.poppedFrom index ≠ none → worker.queue.items ≠ [])
    (hdiscarded : discardedAt index labels ≠ [] ∨ action.discardedFrom index ≠ [] →
      new.queue.closed = true ∧ new.queue.items = []) :
    new.Flow index (labels ++ [action]) := by
  have hsingle {α : Type} {f : PoolAction β γ → Option α} :
      (labels ++ [action]).filterMap f = labels.filterMap f ++ (f action).toList := by
    rw [List.filterMap_append]
    cases hf : f action <;> simp [hf]
  have hflat : discardedAt index (labels ++ [action]) =
      discardedAt index labels ++ action.discardedFrom index := by simp [discardedAt]
  constructor
  · rw [hflat, acceptedAt, poppedAt, hsingle, hsingle]
    show acceptedAt index labels ++ _ = poppedAt index labels ++ _ ++ _ ++ _
    rw [h.accepted, List.append_assoc _ worker.queue.items, hitems]
    cases hpop : action.poppedFrom index with
    | none => simp
    | some batch =>
      -- a queue that has been discarded stays empty, so nothing overtakes a discarded batch
      have hkept : discardedAt index labels = [] := by
        by_contra hne
        exact hpopped (by simp [hpop]) (h.discarded hne).2
      simp [hkept]
  · rw [poppedAt, handledAt, hsingle, hsingle]
    show poppedAt index labels ++ _ = handledAt index labels ++ _ ++ _
    rw [h.popped, List.append_assoc, hunhandled, List.append_assoc]
  · rw [handledAt, signalledAt, hsingle, hsingle]
    show handledAt index labels ++ _ = signalledAt index labels ++ _ ++ _
    rw [h.handled, List.append_assoc, hunsignalled, List.append_assoc]
  · rw [enteredAt, finishedAt, hsingle, hsingle]
    show enteredAt index labels ++ _ = finishedAt index labels ++ _ ++ _
    rw [h.entered, List.append_assoc, hunfinished, List.append_assoc]
  · intro hne
    rw [hflat, ne_eq, List.append_eq_nil_iff, not_and_or] at hne
    exact hdiscarded hne

/-- A label that says nothing about an index. -/
def PoolAction.Silent (index : Nat) (action : PoolAction β γ) : Prop :=
  action.pushedTo index = none ∧ action.poppedFrom index = none ∧ action.handledBy index = none ∧
    action.signalledBy index = none ∧ action.enteredBy index = none ∧
    action.finishedBy index = none ∧ action.discardedFrom index = []

/-- The worker an action is about. -/
def PoolAction.site : PoolAction β γ → Option Nat
  | push index _ | refuse index _ | pop index _ | exit index | handle index _ | signal index _ _
  | finish index _ | close index | discard index _ | join index => some index
  | start | enlist _ _ | shutdown _ | halt => none

theorem PoolAction.silent_of_site {action : PoolAction β γ} (h : action.site ≠ some index) :
    action.Silent index := by
  cases action <;>
    simp_all [site, Silent, pushedTo, poppedFrom, handledBy, signalledBy, enteredBy, finishedBy,
      discardedFrom]

theorem Worker.Flow.silent {worker new : Worker β γ} {action : PoolAction β γ}
    (h : worker.Flow index labels) (hsilent : action.Silent index)
    (hitems : new.queue.items = worker.queue.items)
    (hclosed : worker.queue.closed = true → new.queue.closed = true)
    (hunhandled : new.thread.unhandled = worker.thread.unhandled)
    (hunsignalled : new.thread.unsignalled = worker.thread.unsignalled)
    (hunfinished : new.thread.unfinished = worker.thread.unfinished) :
    new.Flow index (labels ++ [action]) := by
  obtain ⟨hpush, hpop, hhandle, hsignal, henter, hfinish, hdiscard⟩ := hsilent
  refine h.extend ?_ ?_ ?_ ?_ (fun hne => absurd hpop hne) fun hne => ?_
  · simp [hpush, hpop, hdiscard, hitems]
  · simp [hpop, hhandle, hunhandled]
  · simp [hhandle, hsignal, hunsignalled]
  · simp [henter, hfinish, hunfinished]
  · rcases hne with hne | hne
    · obtain ⟨hclosed', hempty⟩ := h.discarded hne
      exact ⟨hclosed hclosed', by rw [hitems, hempty]⟩
    · exact absurd hdiscard hne

theorem Worker.Flow.silent_self {worker : Worker β γ} {action : PoolAction β γ}
    (h : worker.Flow index labels) (hsilent : action.Silent index) :
    worker.Flow index (labels ++ [action]) :=
  h.silent hsilent rfl id rfl rfl rfl

namespace WorkerPool

def Flows (pool : WorkerPool β γ) (labels : List (PoolAction β γ)) : Prop :=
  ∀ (index : Nat) (worker : Worker β γ), pool.workers[index]? = some worker →
    worker.Flow index labels

theorem Flows.set {pool pool' : WorkerPool β γ} {action : PoolAction β γ} {new : Worker β γ}
    (h : pool.Flows labels) (hworkers : pool'.workers = pool.workers.set index new)
    (hsite : action.site = some index) (hnew : new.Flow index (labels ++ [action])) :
    pool'.Flows (labels ++ [action]) := by
  intro other found hfound
  rw [hworkers, List.getElem?_set] at hfound
  split at hfound
  · rename_i heq
    subst heq
    split at hfound
    · obtain rfl := Option.some.inj hfound
      exact hnew
    · cases hfound
  · rename_i hne
    exact (h other found hfound).silent_self (PoolAction.silent_of_site (by simpa [hsite] using hne))

theorem Flows.silent {pool : WorkerPool β γ} {action : PoolAction β γ} (h : pool.Flows labels)
    (hsilent : ∀ index, action.Silent index) : pool.Flows (labels ++ [action]) :=
  fun index worker hworker => (h index worker hworker).silent_self (hsilent index)

theorem Flows.step {pool pool' : WorkerPool β γ} {action : PoolAction β γ}
    (h : pool.Flows labels) (hsound : pool.Sound) (hstep : Step pool action pool') :
    pool'.Flows (labels ++ [action]) := by
  cases hstep with
  | start hfree hidle =>
    intro index worker hworker
    rw [spawned, List.getElem?_map, Option.map_eq_some_iff] at hworker
    obtain ⟨idle, hfound, rfl⟩ := hworker
    have hphase := hsound.phase index idle hfound
    rw [hfree, hidle] at hphase
    have habsent : idle.thread = .absent := hphase.1
    exact (h index idle hfound).silent ⟨rfl, rfl, rfl, rfl, rfl, rfl, rfl⟩ rfl id
      (by simp [habsent, WorkerThread.unhandled]) (by simp [habsent, WorkerThread.unsignalled])
      (by simp [habsent, WorkerThread.unfinished])
  | enlist hfree hrunning => exact h.silent fun _ => ⟨rfl, rfl, rfl, rfl, rfl, rfl, rfl⟩
  | push hadmitted hworker hpush =>
    rename_i before index batch after worker queue
    obtain ⟨hopen, -, rfl⟩ := BoundedQueue.push_true hpush
    have hflow := h index worker hworker
    refine h.set rfl rfl
      (hflow.extend ?_ ?_ ?_ ?_ (fun hne => absurd rfl hne) fun hne => ?_)
    · simp [PoolAction.pushedTo, PoolAction.poppedFrom, PoolAction.discardedFrom]
    · simp [PoolAction.poppedFrom, PoolAction.handledBy]
    · simp [PoolAction.handledBy, PoolAction.signalledBy]
    · simp [PoolAction.enteredBy, PoolAction.finishedBy]
    · rcases hne with hne | hne
      · rw [(hflow.discarded hne).1] at hopen
        cases hopen
      · exact absurd rfl hne
  | refuse hadmitted hworker hpush => exact h.silent fun _ => ⟨rfl, rfl, rfl, rfl, rfl, rfl, rfl⟩
  | pop hworker hthread hpop =>
    rename_i index worker queue batch
    obtain ⟨hitems, hqueue⟩ := BoundedQueue.pop_some hpop
    have hflow := h index worker hworker
    refine h.set rfl rfl
      (hflow.extend ?_ ?_ ?_ ?_ (fun _ => by simp [hitems]) fun hne => ?_)
    · simp [PoolAction.pushedTo, PoolAction.poppedFrom, PoolAction.discardedFrom, hitems]
    · simp [PoolAction.poppedFrom, PoolAction.handledBy, WorkerThread.unhandled, hthread]
    · simp [PoolAction.handledBy, PoolAction.signalledBy, WorkerThread.unsignalled, hthread]
    · simp [PoolAction.enteredBy, PoolAction.finishedBy, WorkerThread.unfinished, hthread]
    · rcases hne with hne | hne
      · rw [(hflow.discarded hne).2] at hitems
        cases hitems
      · exact absurd rfl hne
  | exit hworker hthread hpop =>
    obtain ⟨hitems, hclosed, rfl⟩ := BoundedQueue.pop_none hpop
    exact h.set rfl rfl
      ((h _ _ hworker).silent ⟨rfl, rfl, rfl, rfl, rfl, rfl, rfl⟩ rfl id
        (by simp [hthread, WorkerThread.unhandled]) (by simp [hthread, WorkerThread.unsignalled])
        (by simp [hthread, WorkerThread.unfinished]))
  | handle hworker hthread =>
    rename_i index worker batch
    have hflow := h index worker hworker
    refine h.set rfl rfl
      (hflow.extend ?_ ?_ ?_ ?_ (fun hne => absurd rfl hne) fun hne => ?_)
    · simp [PoolAction.pushedTo, PoolAction.poppedFrom, PoolAction.discardedFrom]
    · simp [PoolAction.poppedFrom, PoolAction.handledBy, WorkerThread.unhandled, hthread]
    · simp [PoolAction.handledBy, PoolAction.signalledBy, WorkerThread.unsignalled, hthread]
    · simp [PoolAction.enteredBy, PoolAction.finishedBy, WorkerThread.unfinished, hthread]
    · exact hflow.discarded (hne.resolve_right fun hnil => hnil rfl)
  | signal hworker hthread =>
    rename_i index worker batch rest
    have hflow := h index worker hworker
    refine h.set rfl rfl
      (hflow.extend ?_ ?_ ?_ ?_ (fun hne => absurd rfl hne) fun hne => ?_)
    · simp [PoolAction.pushedTo, PoolAction.poppedFrom, PoolAction.discardedFrom]
    · simp [PoolAction.poppedFrom, PoolAction.handledBy, WorkerThread.unhandled, hthread]
    · simp [PoolAction.handledBy, PoolAction.signalledBy, WorkerThread.unsignalled, hthread]
    · simp [PoolAction.enteredBy, PoolAction.finishedBy, WorkerThread.unfinished, hthread]
    · exact hflow.discarded (hne.resolve_right fun hnil => hnil rfl)
  | finish hworker hthread =>
    rename_i index worker rest
    have hflow := h index worker hworker
    refine h.set rfl rfl (hflow.extend ?_ ?_ ?_ ?_ (fun hne => absurd rfl hne) fun hne => ?_)
    · simp [PoolAction.pushedTo, PoolAction.poppedFrom, PoolAction.discardedFrom]
    · simp [PoolAction.poppedFrom, PoolAction.handledBy, WorkerThread.unhandled, hthread]
    · simp [PoolAction.handledBy, PoolAction.signalledBy, WorkerThread.unsignalled, hthread]
    · simp [PoolAction.enteredBy, PoolAction.finishedBy, WorkerThread.unfinished, hthread]
    · exact hflow.discarded (hne.resolve_right fun hnil => hnil rfl)
  | shutdown hfree hrunning => exact h.silent fun _ => ⟨rfl, rfl, rfl, rfl, rfl, rfl, rfl⟩
  | close hclosing hworker =>
    exact h.set rfl rfl
      ((h _ _ hworker).silent ⟨rfl, rfl, rfl, rfl, rfl, rfl, rfl⟩ rfl (fun _ => rfl) rfl rfl rfl)
  | discard hdiscarding hworker hitems =>
    rename_i index worker batches
    have hphase := hsound.phase index worker hworker
    rw [hdiscarding] at hphase
    refine h.set rfl rfl
      ((h index worker hworker).extend ?_ ?_ ?_ ?_ (fun hne => absurd rfl hne)
        fun _ => ⟨hphase.2 (Nat.le_refl index), rfl⟩)
    · simp [PoolAction.pushedTo, PoolAction.poppedFrom, PoolAction.discardedFrom,
        BoundedQueue.discardPending, hitems]
    · simp [PoolAction.poppedFrom, PoolAction.handledBy]
    · simp [PoolAction.handledBy, PoolAction.signalledBy]
    · simp [PoolAction.enteredBy, PoolAction.finishedBy]
  | join hjoining hworker hthread =>
    exact h.set rfl rfl
      ((h _ _ hworker).silent ⟨rfl, rfl, rfl, rfl, rfl, rfl, rfl⟩ rfl id
        (by simp [hthread, WorkerThread.unhandled]) (by simp [hthread, WorkerThread.unsignalled])
        (by simp [hthread, WorkerThread.unfinished]))
  | halt hjoining => exact h.silent fun _ => ⟨rfl, rfl, rfl, rfl, rfl, rfl, rfl⟩

theorem Step.length {pool pool' : WorkerPool β γ} (h : Step pool action pool') :
    pool'.workers.length = pool.workers.length := by
  cases h <;> simp [setWorker, spawned]

theorem Step.queue {pool pool' : WorkerPool β γ} {action : PoolAction β γ} {index : Nat}
    (h : Step pool action pool') {new : Worker β γ} (hnew : pool'.workers[index]? = some new) :
    ∃ worker, pool.workers[index]? = some worker ∧
      (new.queue = worker.queue ∨
        (∃ batch, action = .push index batch ∧
          worker.queue.push batch = some (new.queue, true)) ∨
        (∃ batch, action = .pop index batch ∧
          worker.queue.pop = some (new.queue, some batch)) ∨
        (action = .close index ∧ new.queue = worker.queue.close) ∨
        (∃ batches, action = .discard index batches ∧
          new.queue = worker.queue.discardPending)) := by
  have hset {other : Nat} {found changed : Worker β γ}
      (hfound : pool.workers[other]? = some found)
      (hchanged : (pool.workers.set other changed)[index]? = some new) :
      (index = other ∧ new = changed ∧ pool.workers[index]? = some found) ∨
        pool.workers[index]? = some new := by
    rw [List.getElem?_set] at hchanged
    split at hchanged
    · rename_i heq
      subst heq
      rw [if_pos (List.getElem?_eq_some_iff.1 hfound).1] at hchanged
      exact .inl ⟨rfl, (Option.some.inj hchanged).symm, hfound⟩
    · exact .inr hchanged
  cases h with
  | start hfree hidle =>
    rw [spawned, List.getElem?_map, Option.map_eq_some_iff] at hnew
    obtain ⟨idle, hidle, rfl⟩ := hnew
    exact ⟨idle, hidle, .inl rfl⟩
  | push hadmitted hworker hpush =>
    rcases hset hworker hnew with ⟨rfl, rfl, hsame⟩ | hsame
    · exact ⟨_, hsame, .inr (.inl ⟨_, rfl, hpush⟩)⟩
    · exact ⟨new, hsame, .inl rfl⟩
  | pop hworker hthread hpop =>
    rcases hset hworker hnew with ⟨rfl, rfl, hsame⟩ | hsame
    · exact ⟨_, hsame, .inr (.inr (.inl ⟨_, rfl, hpop⟩))⟩
    · exact ⟨new, hsame, .inl rfl⟩
  | exit hworker hthread hpop =>
    rcases hset hworker hnew with ⟨rfl, rfl, hsame⟩ | hsame
    · exact ⟨_, hsame, .inl (BoundedQueue.pop_none hpop).2.2⟩
    · exact ⟨new, hsame, .inl rfl⟩
  | handle hworker _ | signal hworker _ | finish hworker _ | join _ hworker _ =>
    rcases hset hworker hnew with ⟨rfl, rfl, hsame⟩ | hsame
    · exact ⟨_, hsame, .inl rfl⟩
    · exact ⟨new, hsame, .inl rfl⟩
  | close hclosing hworker =>
    rcases hset hworker hnew with ⟨rfl, rfl, hsame⟩ | hsame
    · exact ⟨_, hsame, .inr (.inr (.inr (.inl ⟨rfl, rfl⟩)))⟩
    · exact ⟨new, hsame, .inl rfl⟩
  | discard hdiscarding hworker hitems =>
    rcases hset hworker hnew with ⟨rfl, rfl, hsame⟩ | hsame
    · exact ⟨_, hsame, .inr (.inr (.inr (.inr ⟨_, rfl, rfl⟩)))⟩
    · exact ⟨new, hsame, .inl rfl⟩
  | enlist | refuse | shutdown | halt => exact ⟨new, hnew, .inl rfl⟩

/-- A queue never reopens. -/
theorem Step.closed {pool pool' : WorkerPool β γ} {action : PoolAction β γ} {index : Nat}
    (h : Step pool action pool') {worker new : Worker β γ}
    (hworker : pool.workers[index]? = some worker) (hclosed : worker.queue.closed = true)
    (hnew : pool'.workers[index]? = some new) : new.queue.closed = true := by
  obtain ⟨found, hfound, hqueue⟩ := h.queue hnew
  rw [hworker] at hfound
  obtain rfl := Option.some.inj hfound
  rcases hqueue with hqueue | ⟨batch, -, hpush⟩ | ⟨batch, -, hpop⟩ | ⟨-, hqueue⟩ |
    ⟨batches, -, hqueue⟩
  · rw [hqueue, hclosed]
  · rw [(BoundedQueue.push_true hpush).1] at hclosed
    cases hclosed
  · rw [(BoundedQueue.pop_some hpop).2]
    exact hclosed
  · rw [hqueue]
    rfl
  · rw [hqueue]
    exact hclosed

theorem Step.site_lt {pool pool' : WorkerPool β γ} {action : PoolAction β γ}
    (h : Step pool action pool') (hsite : action.site = some index) :
    index < pool.workers.length := by
  cases h <;> simp only [PoolAction.site, Option.some.injEq, reduceCtorEq] at hsite <;>
    (subst hsite; exact (List.getElem?_eq_some_iff.1 ‹pool.workers[_]? = some _›).1)

theorem run_sound {pool : WorkerPool β γ}
    (h : Run Step (make workerCount queueCapacity) labels pool) :
    pool.Sound ∧ pool.Flows labels := by
  refine Run.invariant (fun labels pool => pool.Sound ∧ pool.Flows labels) h
    ⟨make_sound workerCount queueCapacity, fun index worker hworker => ?_⟩
    fun _ hinv hstep => ⟨hinv.1.step hstep, hinv.2.step hinv.1 hstep⟩
  rw [List.eq_of_mem_replicate (List.mem_of_getElem? hworker)]
  exact ⟨rfl, rfl, rfl, rfl, fun hne => absurd rfl hne⟩

theorem run_site_lt {start pool : WorkerPool β γ} (h : Run Step start labels pool)
    (hmem : action ∈ labels) (hsite : action.site = some index) : index < pool.workers.length := by
  refine Run.invariant (fun labels pool => ∀ action ∈ labels, ∀ index,
    PoolAction.site action = some index → index < pool.workers.length) h (by simp)
    (fun _ hinv hstep action hmem index hsite => ?_) action hmem index hsite
  rw [hstep.length]
  rcases List.mem_append.1 hmem with hmem | hmem
  · exact hinv action hmem index hsite
  · obtain rfl := List.mem_singleton.1 hmem
    exact hstep.site_lt hsite

theorem Sound.quiescent {pool : WorkerPool β γ} (h : pool.Sound) (hquiet : pool.running = false) :
    ∀ worker ∈ pool.workers, worker.thread = .absent ∧ worker.queue.items = [] := by
  intro worker hmem
  obtain ⟨index, hworker⟩ := List.getElem?_of_mem hmem
  have hfree : pool.lifecycle = .free := by
    by_contra hne
    rw [h.busy hne] at hquiet
    cases hquiet
  have hphase := h.phase index worker hworker
  rw [hfree, hquiet] at hphase
  exact hphase

end WorkerPool

/-- A successful submission, and the queue it went to. -/
def PoolAction.pushed : PoolAction β γ → Option (Nat × β)
  | push index batch => some (index, batch)
  | _ => none

def PoolAction.handled : PoolAction β γ → Option (Nat × β)
  | handle index batch => some (index, batch)
  | _ => none

def PoolAction.signalled : PoolAction β γ → Option (Nat × β)
  | signal index batch _ => some (index, batch)
  | _ => none

/-- A callback that a worker enters, and what is left of it. -/
def PoolAction.entered : PoolAction β γ → Option (Nat × γ)
  | signal index _ rest => some (index, rest)
  | _ => none

def PoolAction.finished : PoolAction β γ → Option (Nat × γ)
  | finish index rest => some (index, rest)
  | _ => none

def pushes (labels : List (PoolAction β γ)) : List (Nat × β) := labels.filterMap PoolAction.pushed

def handles (labels : List (PoolAction β γ)) : List (Nat × β) := labels.filterMap PoolAction.handled

def signals (labels : List (PoolAction β γ)) : List (Nat × β) := labels.filterMap PoolAction.signalled

def entries (labels : List (PoolAction β γ)) : List (Nat × γ) := labels.filterMap PoolAction.entered

def finishes (labels : List (PoolAction β γ)) : List (Nat × γ) := labels.filterMap PoolAction.finished

theorem filterMap_group {entry : PoolAction β γ → Option (Nat × α)}
    {at_ : PoolAction β γ → Option α} (labels : List (PoolAction β γ))
    (h : ∀ action, (at_ action).map (Prod.mk index) = (entry action).filter (·.1 = index)) :
    Grouping.group (fun pair => some pair.1) (labels.filterMap entry) index =
      (labels.filterMap at_).map (Prod.mk index) := by
  induction labels with
  | nil => rfl
  | cons action labels ih =>
    have haction := h action
    unfold Grouping.group at ih ⊢
    cases hentry : entry action with
    | none =>
      rw [hentry] at haction
      rw [List.filterMap_cons_none hentry, List.filterMap_cons_none (by simpa using haction), ih]
    | some pair =>
      rw [hentry] at haction
      rw [List.filterMap_cons_some hentry, List.filter_cons]
      by_cases heq : pair.1 = index
      · rw [Option.filter_some_pos (by simp [heq]), Option.map_eq_some_iff] at haction
        obtain ⟨batch, hat, rfl⟩ := haction
        rw [if_pos (by simp), List.filterMap_cons_some hat, ih, List.map_cons]
      · rw [Option.filter_some_neg (by simp [heq])] at haction
        rw [if_neg (by simp [heq]), List.filterMap_cons_none (by simpa using haction), ih]

theorem pushes_group (labels : List (PoolAction β γ)) (index : Nat) :
    Grouping.group (fun pair => some pair.1) (pushes labels) index =
      (acceptedAt index labels).map (Prod.mk index) := by
  refine filterMap_group labels fun action => ?_
  cases action with
  | push route batch =>
    by_cases heq : route = index <;>
      simp [PoolAction.pushedTo, PoolAction.pushed, Option.filter, heq]
  | _ => rfl

theorem handles_group (labels : List (PoolAction β γ)) (index : Nat) :
    Grouping.group (fun pair => some pair.1) (handles labels) index =
      (handledAt index labels).map (Prod.mk index) := by
  refine filterMap_group labels fun action => ?_
  cases action with
  | handle worker batch =>
    by_cases heq : worker = index <;>
      simp [PoolAction.handledBy, PoolAction.handled, Option.filter, heq]
  | _ => rfl

theorem signals_group (labels : List (PoolAction β γ)) (index : Nat) :
    Grouping.group (fun pair => some pair.1) (signals labels) index =
      (signalledAt index labels).map (Prod.mk index) := by
  refine filterMap_group labels fun action => ?_
  cases action with
  | signal worker batch rest =>
    by_cases heq : worker = index <;>
      simp [PoolAction.signalledBy, PoolAction.signalled, Option.filter, heq]
  | _ => rfl

theorem entries_group (labels : List (PoolAction β γ)) (index : Nat) :
    Grouping.group (fun pair => some pair.1) (entries labels) index =
      (enteredAt index labels).map (Prod.mk index) := by
  refine filterMap_group labels fun action => ?_
  cases action with
  | signal worker batch rest =>
    by_cases heq : worker = index <;>
      simp [PoolAction.enteredBy, PoolAction.entered, Option.filter, heq]
  | _ => rfl

theorem finishes_group (labels : List (PoolAction β γ)) (index : Nat) :
    Grouping.group (fun pair => some pair.1) (finishes labels) index =
      (finishedAt index labels).map (Prod.mk index) := by
  refine filterMap_group labels fun action => ?_
  cases action with
  | finish worker rest =>
    by_cases heq : worker = index <;>
      simp [PoolAction.finishedBy, PoolAction.finished, Option.filter, heq]
  | _ => rfl

theorem perm_stations {first second : List (Nat × β)} {n : Nat} (rest : Nat → List β)
    (hfirst : ∀ pair ∈ first, pair.1 < n) (hsecond : ∀ pair ∈ second, pair.1 < n)
    (h : ∀ index, index < n → Grouping.group (fun pair => some pair.1) first index =
      Grouping.group (fun pair => some pair.1) second index ++ (rest index).map (Prod.mk index)) :
    first.Perm (second ++ (List.range n).flatMap fun index => (rest index).map (Prod.mk index)) := by
  have hgroups {items : List (Nat × β)} (hlt : ∀ pair ∈ items, pair.1 < n) :
      items.Perm ((List.range n).flatMap (Grouping.group (fun pair => some pair.1) items)) :=
    Grouping.perm_groups_of_lt _ fun pair hmem => ⟨pair.1, rfl, hlt pair hmem⟩
  refine (hgroups hfirst).trans (List.Perm.trans ?_
    ((hgroups hsecond).symm.append_right _))
  refine List.Perm.trans (List.Perm.of_eq ?_) (List.flatMap_append_perm _ _ _).symm
  exact List.flatMap_congr fun index hmem => h index (List.mem_range.1 hmem)

namespace WorkerPool

theorem run_pairs_lt {start pool : WorkerPool β γ} (h : Run Step start labels pool)
    {entry : PoolAction β γ → Option (Nat × α)}
    (hsite : ∀ action pair, entry action = some pair → action.site = some pair.1) :
    ∀ pair ∈ labels.filterMap entry, pair.1 < pool.workers.length := by
  intro pair hmem
  obtain ⟨action, hmem, hentry⟩ := List.mem_filterMap.1 hmem
  exact run_site_lt h hmem (hsite action pair hentry)

theorem run_pushes_lt {start pool : WorkerPool β γ} (h : Run Step start labels pool) :
    ∀ pair ∈ pushes labels, pair.1 < pool.workers.length :=
  run_pairs_lt h fun action pair hentry => by
    cases action <;> simp_all [PoolAction.pushed, PoolAction.site, Prod.ext_iff]

theorem run_handles_lt {start pool : WorkerPool β γ} (h : Run Step start labels pool) :
    ∀ pair ∈ handles labels, pair.1 < pool.workers.length :=
  run_pairs_lt h fun action pair hentry => by
    cases action <;> simp_all [PoolAction.handled, PoolAction.site, Prod.ext_iff]

theorem run_signals_lt {start pool : WorkerPool β γ} (h : Run Step start labels pool) :
    ∀ pair ∈ signals labels, pair.1 < pool.workers.length :=
  run_pairs_lt h fun action pair hentry => by
    cases action <;> simp_all [PoolAction.signalled, PoolAction.site, Prod.ext_iff]

theorem run_pushes {pool : WorkerPool β γ}
    (h : Run Step (make workerCount queueCapacity) labels pool) :
    ∃ rest, (pushes labels).Perm (handles labels ++ rest) := by
  obtain ⟨-, hflows⟩ := run_sound h
  refine ⟨_, perm_stations (fun index => (acceptedAt index labels).drop
    (handledAt index labels).length) (run_pushes_lt h) (run_handles_lt h) fun index hlt => ?_⟩
  have hflow := hflows index _ (List.getElem?_eq_getElem hlt)
  rw [pushes_group, handles_group, ← List.map_append]
  congr 1
  rw [hflow.accepted, hflow.popped]
  simp

theorem run_handles {pool : WorkerPool β γ}
    (h : Run Step (make workerCount queueCapacity) labels pool) :
    ∃ rest, (handles labels).Perm (signals labels ++ rest) := by
  obtain ⟨-, hflows⟩ := run_sound h
  refine ⟨_, perm_stations (fun index => (handledAt index labels).drop
    (signalledAt index labels).length) (run_handles_lt h) (run_signals_lt h) fun index hlt => ?_⟩
  have hflow := hflows index _ (List.getElem?_eq_getElem hlt)
  rw [handles_group, signals_group, ← List.map_append]
  congr 1
  rw [hflow.handled]
  simp

theorem run_entries {pool : WorkerPool β γ}
    (h : Run Step (make workerCount queueCapacity) labels pool) :
    ∃ rest, (entries labels).Perm (finishes labels ++ rest) := by
  obtain ⟨-, hflows⟩ := run_sound h
  have hentries : ∀ pair ∈ entries labels, pair.1 < pool.workers.length :=
    run_pairs_lt h fun action pair hentry => by
      cases action <;> simp_all [PoolAction.entered, PoolAction.site, Prod.ext_iff]
  have hfinishes : ∀ pair ∈ finishes labels, pair.1 < pool.workers.length :=
    run_pairs_lt h fun action pair hentry => by
      cases action <;> simp_all [PoolAction.finished, PoolAction.site, Prod.ext_iff]
  refine ⟨_, perm_stations (fun index => (enteredAt index labels).drop
    (finishedAt index labels).length) hentries hfinishes fun index hlt => ?_⟩
  have hflow := hflows index _ (List.getElem?_eq_getElem hlt)
  rw [entries_group, finishes_group, ← List.map_append]
  congr 1
  rw [hflow.entered]
  simp

end WorkerPool

end LinkObservatory
