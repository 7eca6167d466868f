import LinkObservatory.ConnectionBounds

namespace LinkObservatory
set_option autoImplicit true

open Labelled

/-- A step of the thread in `serve` or of the thread of a connection. -/
def ServerAction.own : ServerAction → Bool
  | listen | serve | connect | requestStop | wake => false
  | _ => true

/-- The statements that the thread of a connection has left. -/
def ConnectionThread.left : ConnectionThread → Nat
  | handling => 2
  | released => 1
  | finished => 0

theorem ConnectionThread.left_le (thread : ConnectionThread) : thread.left ≤ 2 := by
  cases thread with
  | handling => exact Nat.le_refl 2
  | released => exact Nat.le_succ 1
  | finished => exact Nat.zero_le 2

namespace ServePhase

/-- A bound on the steps of `serve` once a stop is requested, with the thread handles there are. -/
def left (threads : Nat) : ServePhase → Nat
  | returned _ => 0
  | persisting => 1
  | joining index => threads - index + 2
  | looping | failed => threads + 3
  | refusing => threads + 4
  | reclaiming index => threads - index + 4
  | spawning => threads + 8
  | noting => threads + 9
  | activating => threads + 10
  | comparing => threads + 11
  | counting => threads + 12
  | accepted => threads + 13
  | accepting => threads + 14
  | limiting => threads + 15
  | idle => threads + 16

theorem left_le (threads : Nat) (phase : ServePhase) : phase.left threads ≤ threads + 16 := by
  cases phase <;> simp only [left] <;> omega

/-- One while the connection in hand will be counted. -/
def claiming : ServePhase → Nat
  | counting => 1
  | _ => 0

end ServePhase

namespace TransportServer

/-- A bound on the steps that are left once a stop is requested. -/
def left (server : TransportServer) : Nat :=
  server.phase.left server.connectionThreads.length +
    Population.weight ConnectionThread.left server.connectionThreads

theorem Joined.le {server : TransportServer} (h : server.Joined) :
    server.phase.joined ≤ server.connectionThreads.length := by
  cases hjoined : server.phase.joined with
  | zero => exact Nat.zero_le _
  | succ index =>
    have hlast := h index (by rw [hjoined]; exact Nat.lt_succ_self index)
    exact (List.getElem?_eq_some_iff.1 hlast).1

theorem Step.left_lt {server server' : TransportServer} (hstep : Step server action server')
    (hs : server.Sound) (hstop : server.stopRequested = true) (hown : action.own = true) :
    server'.left < server.left := by
  have hjoined := hs.joined.le
  cases hstep with
  | listen | connect | requestStop | wake | serve | serveClosed => cases hown
  | continued hphase hgo | failedAgain hphase hgo | failedEnough hphase hgo | keep hphase hgo =>
    rw [hgo] at hstop
    cases hstop
  | spawn hphase | spawnMany hphase =>
    simp only [left, hphase, ServePhase.left, Population.weight_append, List.length_append,
      Population.weight_cons, Population.weight_nil, ConnectionThread.left, List.length_singleton]
    omega
  | release hthread =>
    have hset := Population.weight_set ConnectionThread.left _ hthread .released
    simp only [left, List.length_set, ConnectionThread.left] at hset ⊢
    omega
  | finish hthread =>
    have hset := Population.weight_set ConnectionThread.left _ hthread .finished
    simp only [left, List.length_set, ConnectionThread.left] at hset ⊢
    omega
  | reclaimJoin hphase hthread | join hphase hthread =>
    have hlt := (List.getElem?_eq_some_iff.1 hthread).1
    simp only [left, hphase, ServePhase.left]
    omega
  | reclaim hphase | leave hphase | leavePersisting hphase =>
    simp only [left, hphase, ServePhase.left, Population.weight_nil, List.length_nil]
    omega
  | stopped hphase | limited hphase | permitted hphase | acceptFailed hphase | failedStopped hphase
  | accept hphase | drop hphase | count hphase | full hphase | room hphase | refuse hphase
  | activate hphase | note hphase | persist hphase =>
    simp only [left, hphase, ServePhase.left]
    omega

theorem Step.left_le {server server' : TransportServer} (hstep : Step server action server')
    (hown : action.own = false) : server'.left ≤ server.left := by
  cases hstep with
  | listen | connect | requestStop | wake => exact Nat.le_refl _
  | serve hphase | serveClosed hphase =>
    simp only [left, hphase, ServePhase.left]
    omega
  | _ => cases hown

theorem Step.stays {server server' : TransportServer} (hstep : Step server action server')
    (hstop : server.stopRequested = true) : server'.stopRequested = true := by
  cases hstep with
  | requestStop => rfl
  | _ => exact hstop

theorem Step.claims {server server' : TransportServer} (hstep : Step server action server')
    (hstop : server.stopRequested = true) :
    List.count .count [action] + server'.phase.claiming ≤ server.phase.claiming := by
  cases hstep with
  | listen | connect | requestStop | wake | release | finish => exact Nat.le_of_eq (Nat.zero_add _)
  | keep hphase hgo =>
    rw [hgo] at hstop
    cases hstop
  | count hphase =>
    rw [hphase]
    exact Nat.le_refl 1
  | _ => exact Nat.zero_le _

/-- `serve` may be about to wait in `accept`. -/
def Waiting (server : TransportServer) : Prop :=
  server.phase = .limiting ∨ server.phase = .accepting

/-- While the loop is under way the listener can be reached, so once every stop request has woken
the loop, a connection waits wherever the loop may wait for one. -/
structure Wakeful (server : TransportServer) : Prop where
  idle : server.phase = .idle → server.listening = server.listener
  reachable : server.phase.quiet = false → server.listening = true
  woken : server.stopRequested = true → server.wakers = 0 →
    isLoopbackHost server.options.host = true → server.Waiting → 0 < server.backlog

theorem Wakeful.step {server server' : TransportServer} (h : server.Wakeful) (hs : server.Sound)
    (hstep : Step server action server') : server'.Wakeful := by
  have hidle := h.idle
  have hreachable := h.reachable
  have hwoken := h.woken
  cases hstep with
  | listen hphase =>
    rw [hphase] at hreachable
    refine ⟨fun _ => rfl, fun _ => rfl, fun _ _ _ hwaiting => ?_⟩
    rcases hwaiting with hnew | hnew
    all_goals
      rw [hphase] at hnew
      cases hnew
  | connect => exact ⟨hidle, hreachable, fun _ _ _ _ => Nat.succ_pos _⟩
  | requestStop => exact ⟨hidle, hreachable, fun _ hnone => by cases hnone⟩
  | wake hwakers =>
    refine ⟨hidle, hreachable, fun _ _ hloopback hwaiting => ?_⟩
    have hbusy : server.phase.quiet = false ∧ server.phase.resting = false := by
      rcases hwaiting with hphase | hphase
      all_goals
        rw [show server.phase = _ from hphase]
        exact ⟨rfl, rfl⟩
    have hboth : (server.listening && server.listener &&
        isLoopbackHost server.options.host) = true := by
      rw [hreachable hbusy.1, hs.serving hbusy.2, show isLoopbackHost server.options.host = true
        from hloopback]
      rfl
    show 0 < server.woken
    rw [TransportServer.woken, if_pos hboth]
    exact Nat.succ_pos _
  | serve hphase hlistener =>
    refine ⟨fun hnew => (by cases hnew), fun _ => (hidle hphase).trans hlistener, ?_⟩
    intro _ _ _ hwaiting
    rcases hwaiting with hnew | hnew <;> cases hnew
  | continued hphase hgo =>
    rw [hphase] at hreachable
    refine ⟨fun hnew => (by cases hnew), hreachable, fun hstop => ?_⟩
    rw [show server.stopRequested = true from hstop] at hgo
    cases hgo
  | permitted hphase =>
    rw [hphase] at hreachable
    exact ⟨fun hnew => (by cases hnew), hreachable,
      fun hstop hnone hloopback _ => hwoken hstop hnone hloopback (.inl hphase)⟩
  | release | finish => exact ⟨hidle, hreachable, hwoken⟩
  | serveClosed | leave | leavePersisting | persist =>
    refine ⟨fun hnew => (by cases hnew), fun hnew => (by cases hnew), ?_⟩
    intro _ _ _ hwaiting
    rcases hwaiting with hnew | hnew <;> cases hnew
  | stopped hphase | limited hphase | acceptFailed hphase | failedStopped hphase
  | failedAgain hphase | failedEnough hphase | accept hphase | drop hphase | keep hphase | count hphase | full hphase
  | room hphase | refuse hphase | activate hphase | note hphase | spawn hphase | spawnMany hphase
  | reclaimJoin hphase | reclaim hphase | join hphase =>
    rw [hphase] at hreachable
    refine ⟨fun hnew => (by cases hnew), fun _ => hreachable rfl, ?_⟩
    intro _ _ _ hwaiting
    rcases hwaiting with hnew | hnew <;> cases hnew

/-- A run after a stop request, however the threads and further requests interleave: the steps of
the threads are paid for, and only the connection in hand is counted. -/
theorem run_left {server server' : TransportServer} (h : Run Step server later server')
    (hs : server.Sound) (hstop : server.stopRequested = true) :
    server'.Sound ∧ server'.stopRequested = true ∧
      later.countP ServerAction.own + server'.left ≤ server.left ∧
      later.count .count + server'.phase.claiming ≤ server.phase.claiming := by
  induction h with
  | nil => exact ⟨hs, hstop, Nat.le_of_eq (Nat.zero_add _), Nat.le_of_eq (Nat.zero_add _)⟩
  | snoc hrun hstep ih =>
    rename_i labels before action after
    obtain ⟨hsound, hstopped, hleft, hclaims⟩ := ih
    have hclaim := hstep.claims hstopped
    rw [List.countP_append, List.count_append, List.countP_singleton]
    refine ⟨hsound.step hstep, hstep.stays hstopped, ?_, by omega⟩
    cases hown : action.own with
    | true =>
      have hlt := hstep.left_lt hsound hstopped hown
      rw [if_pos rfl]
      omega
    | false =>
      have hle := hstep.left_le hown
      rw [if_neg Bool.false_ne_true]
      omega

end TransportServer

end LinkObservatory
