import LinkObservatory.AcceptLoop

namespace LinkObservatory
set_option autoImplicit true

open Labelled

/-- One for the connections whose thread counts as active. -/
def ConnectionThread.active : ConnectionThread → Nat
  | handling => 1
  | released | finished => 0

/-- One for the connections whose thread has statements left. -/
def ConnectionThread.unfinished : ConnectionThread → Nat
  | handling | released => 1
  | finished => 0

namespace ServePhase

/-- One while a connection counts as active and has no thread yet. -/
def activated : ServePhase → Nat
  | noting | spawning => 1
  | _ => 0

/-- One while a connection is in the total and counted neither as accepted nor as refused. -/
def undecided : ServePhase → Nat
  | comparing | refusing | activating | noting => 1
  | _ => 0

/-- One while an accepted connection has no thread yet. -/
def unstarted : ServePhase → Nat
  | spawning => 1
  | _ => 0

/-- One while another connection may become active. -/
def roomy : ServePhase → Nat
  | activating => 1
  | _ => 0

/-- One while another connection is within the limit. -/
def permitted : ServePhase → Nat
  | accepting | accepted | counting => 1
  | _ => 0

/-- One while the loop goes on. -/
def staying : ServePhase → Nat
  | joining _ | persisting | returned _ => 0
  | _ => 1

/-- One while another thread handle may be added. -/
def growing : ServePhase → Nat
  | reclaiming _ | joining _ | persisting | returned _ => 0
  | _ => 1

/-- The number of thread handles that the caller has joined. -/
def joined : ServePhase → Nat
  | reclaiming index | joining index => index
  | _ => 0

/-- The loop is not under way. -/
def quiet : ServePhase → Bool
  | idle | persisting | returned _ => true
  | _ => false

/-- What the phase contributes to the counters of connections. -/
def books (phase : ServePhase) : Nat × Nat × Nat :=
  (phase.activated, phase.undecided, phase.unstarted)

end ServePhase

namespace TransportServer

/-- The handles that the caller has joined belong to threads that are done. -/
def Joined (server : TransportServer) : Prop :=
  ∀ index < server.phase.joined, server.connectionThreads[index]? = some .finished

theorem Joined.done {server : TransportServer} (h : server.Joined)
    (hall : server.phase.joined = server.connectionThreads.length) {f : ConnectionThread → Nat}
    (hf : f .finished = 0) : Population.weight f server.connectionThreads = 0 := by
  apply Population.weight_eq_zero.2
  intro thread hmem
  obtain ⟨index, hlt, hthread⟩ := List.mem_iff_getElem.1 hmem
  have hfinished := h index (hall ▸ hlt)
  rw [List.getElem?_eq_getElem hlt, hthread] at hfinished
  rw [Option.some.inj hfinished, hf]

theorem Joined.set {server : TransportServer} (h : server.Joined)
    (hthread : server.connectionThreads[index]? = some old) (hold : old ≠ .finished)
    (hlt : other < server.phase.joined) :
    (server.connectionThreads.set index new)[other]? = some .finished := by
  have hother := h other hlt
  have hne : index ≠ other := by
    intro heq
    rw [heq, hother] at hthread
    exact hold (Option.some.inj hthread).symm
  rw [List.getElem?_set_ne hne, hother]

/-- What holds of a server between any two steps. -/
structure Sound (server : TransportServer) : Prop where
  bound : server.listener = true → 0 < server.options.maxConnections.toNat
  serving : server.phase.resting = false → server.listener = true
  joined : server.Joined
  active : server.activeConnections =
    Population.weight ConnectionThread.active server.connectionThreads + server.phase.activated
  room : server.activeConnections + server.phase.roomy ≤ server.options.maxConnections.toNat
  counted : server.totalConnections =
    server.connectionsAccepted + server.connectionsRefused + server.phase.undecided
  closed : server.connectionsAccepted =
    server.connectionsClosed +
      Population.weight ConnectionThread.unfinished server.connectionThreads +
      server.phase.unstarted
  limit : server.options.connectionLimit ≠ 0 →
    server.totalConnections + server.phase.permitted ≤ server.options.connectionLimit.toNat
  failures : server.consecutiveFailures + server.phase.staying ≤ kMaxConsecutiveAcceptFailures
  size : server.connectionThreads.length + server.phase.growing ≤
    max 1 (reclaimBound server.options)
  quiet : server.phase.quiet = true → server.connectionThreads = []

theorem Joined.none {server : TransportServer} (h : server.phase.joined = 0) : server.Joined := by
  intro index hlt
  rw [h] at hlt
  exact absurd hlt (Nat.not_lt_zero index)

theorem Sound.pass {server : TransportServer} (h : server.Sound) (hphase : server.phase = old)
    (failures : Nat) (phase : ServePhase) (hbooks : phase.books = old.books)
    (hserving : phase.resting = false → server.listener = true)
    (hjoined : Joined { server with consecutiveFailures := failures, phase := phase })
    (hroom : server.activeConnections + phase.roomy ≤ server.options.maxConnections.toNat)
    (hlimit : server.options.connectionLimit ≠ 0 →
      server.totalConnections + phase.permitted ≤ server.options.connectionLimit.toNat)
    (hfailures : failures + phase.staying ≤ kMaxConsecutiveAcceptFailures)
    (hsize : server.connectionThreads.length + phase.growing ≤ max 1 (reclaimBound server.options))
    (hquiet : phase.quiet = true → server.connectionThreads = []) :
    Sound { server with consecutiveFailures := failures, phase := phase } := by
  obtain ⟨hactivated, hundecided, hunstarted⟩ : phase.activated = old.activated ∧
      phase.undecided = old.undecided ∧ phase.unstarted = old.unstarted := by
    simpa [ServePhase.books] using hbooks
  subst hphase
  exact {
    bound := h.bound
    serving := hserving
    joined := hjoined
    active := hactivated ▸ h.active
    room := hroom
    counted := hundecided ▸ h.counted
    closed := hunstarted ▸ h.closed
    limit := hlimit
    failures := hfailures
    size := hsize
    quiet := hquiet }

theorem Sound.room_le {server : TransportServer} (h : server.Sound) :
    server.activeConnections ≤ server.options.maxConnections.toNat :=
  (Nat.le_add_right _ _).trans h.room

theorem Sound.limit_le {server : TransportServer} (h : server.Sound)
    (hne : server.options.connectionLimit ≠ 0) :
    server.totalConnections ≤ server.options.connectionLimit.toNat :=
  (Nat.le_add_right _ _).trans (h.limit hne)

theorem Sound.move {server : TransportServer} (h : server.Sound) (hphase : server.phase = old)
    (phase : ServePhase) (hbooks : phase.books = old.books) (hold : old.resting = false)
    (hquiet : phase.quiet = false) (hjoined : Joined { server with phase := phase })
    (hroomy : phase.roomy = 0) (hpermitted : phase.permitted ≤ old.permitted)
    (hstaying : phase.staying ≤ old.staying) (hgrowing : phase.growing ≤ old.growing) :
    Sound { server with phase := phase } := by
  apply h.pass hphase server.consecutiveFailures phase hbooks
  case hserving => exact fun _ => h.serving (hphase ▸ hold)
  case hjoined => exact hjoined
  case hroom =>
    rw [hroomy]
    exact h.room_le
  case hlimit =>
    intro hne
    have hlimit := h.limit hne
    rw [hphase] at hlimit
    omega
  case hfailures =>
    have hfailures := h.failures
    rw [hphase] at hfailures
    omega
  case hsize =>
    have hsize := h.size
    rw [hphase] at hsize
    omega
  case hquiet => exact fun hnew => absurd (hquiet.symm.trans hnew) Bool.false_ne_true

theorem Joined.more {server : TransportServer} (h : server.Joined)
    (hphase : server.phase.joined = index)
    (hthread : server.connectionThreads[index]? = some .finished)
    {phase : ServePhase} (hnew : phase.joined = index + 1) :
    Joined { server with phase := phase } := by
  intro other hlt
  rcases Nat.lt_succ_iff_lt_or_eq.1 (hnew ▸ hlt) with hearlier | rfl
  · exact h other (hphase ▸ hearlier)
  · exact hthread

theorem Sound.clear {server : TransportServer} (h : server.Sound) (listening : Bool)
    (hall : server.phase.joined = server.connectionThreads.length)
    (hbooks : server.phase.books = (0, 0, 0)) (hresting : server.phase.resting = false)
    (phase : ServePhase) (hnew : phase.books = (0, 0, 0)) (hjoined : phase.joined = 0)
    (hroomy : phase.roomy = 0) (hpermitted : phase.permitted = 0)
    (hstaying : phase.staying ≤ server.phase.staying) (hgrowing : phase.growing ≤ 1) :
    Sound { server with connectionThreads := [], listening := listening, phase := phase } := by
  have hactive := h.joined.done hall (f := ConnectionThread.active) rfl
  have hunfinished := h.joined.done hall (f := ConnectionThread.unfinished) rfl
  simp only [ServePhase.books, Prod.mk.injEq] at hbooks hnew
  constructor
  case bound => exact h.bound
  case serving => exact fun _ => h.serving hresting
  case joined => exact .none hjoined
  case active =>
    have hold := h.active
    rw [hactive, hbooks.1] at hold
    show server.activeConnections = 0 + phase.activated
    rw [hold, hnew.1]
  case room =>
    have hold := h.room
    show server.activeConnections + phase.roomy ≤ server.options.maxConnections.toNat
    omega
  case counted =>
    have hold := h.counted
    rw [hbooks.2.1] at hold
    show server.totalConnections =
      server.connectionsAccepted + server.connectionsRefused + phase.undecided
    rw [hold, hnew.2.1]
  case closed =>
    have hold := h.closed
    rw [hunfinished, hbooks.2.2] at hold
    show server.connectionsAccepted = server.connectionsClosed + 0 + phase.unstarted
    rw [hold, hnew.2.2]
  case limit =>
    intro hne
    have hold := h.limit hne
    show server.totalConnections + phase.permitted ≤ server.options.connectionLimit.toNat
    omega
  case failures => exact (Nat.add_le_add_left hstaying _).trans h.failures
  case size =>
    show 0 + phase.growing ≤ max 1 (reclaimBound server.options)
    omega
  case quiet => exact fun _ => rfl

/-- A connection thread moves on. -/
theorem Sound.thread {server : TransportServer} (h : server.Sound)
    (hthread : server.connectionThreads[index]? = some old) (hold : old ≠ .finished)
    (active closed : Nat)
    (hactive : active = Population.weight ConnectionThread.active
      (server.connectionThreads.set index new) + server.phase.activated)
    (hle : active ≤ server.activeConnections)
    (hclosed : server.connectionsAccepted = closed + Population.weight ConnectionThread.unfinished
      (server.connectionThreads.set index new) + server.phase.unstarted) :
    Sound { server with
      activeConnections := active
      connectionsClosed := closed
      connectionThreads := server.connectionThreads.set index new } :=
  { h with
    joined := fun _ hlt => h.joined.set hthread hold hlt
    active := hactive
    room := (Nat.add_le_add_right hle _).trans h.room
    closed := hclosed
    size := by
      rw [List.length_set]
      exact h.size
    quiet := fun hquiet => by
      rw [h.quiet hquiet] at hthread
      cases hthread }

theorem listenCheck_ok {options : AcceptOptions} (h : (listenCheck options).ok = true) :
    0 < options.maxConnections.toNat := by
  rw [listenCheck] at h
  split at h
  · cases h
  · split at h
    · cases h
    · rename_i hne
      exact UInt64.pos_iff_ne_zero.2 hne

theorem make_sound (options : AcceptOptions) : (make options).Sound where
  bound h := by cases h
  serving h := by cases h
  joined := .none rfl
  active := rfl
  room := Nat.zero_le _
  counted := rfl
  closed := rfl
  limit _ := Nat.zero_le _
  failures := Nat.le_of_ble_eq_true rfl
  quiet _ := rfl
  size := Nat.le_max_left _ _

theorem Sound.serve {server : TransportServer} (h : server.Sound) (hphase : server.phase = .idle)
    (hlistener : server.listener = true) :
    Sound { server with consecutiveFailures := 0, phase := .looping } := by
  have hthreads := h.quiet (by rw [hphase]; rfl)
  exact h.pass hphase 0 .looping rfl (fun _ => hlistener) (.none rfl) h.room_le h.limit_le
    (Nat.le_of_ble_eq_true rfl) (hthreads ▸ Nat.le_max_left _ _) (fun hquiet => by cases hquiet)

theorem Sound.return {server : TransportServer} (h : server.Sound) (hphase : server.phase = old)
    (hquiet : old.quiet = true) (hbooks : old.books = (0, 0, 0)) (status : Status) :
    Sound { server with phase := .returned status } := by
  have hthreads := h.quiet (hphase ▸ hquiet)
  have hfailures := (Nat.le_add_right _ _).trans h.failures
  exact h.pass hphase server.consecutiveFailures (.returned status) hbooks.symm
    (fun hserving => by cases hserving) (.none rfl) h.room_le h.limit_le hfailures
    (hthreads ▸ Nat.zero_le _) (fun _ => hthreads)

theorem Sound.end {server : TransportServer} (h : server.Sound) (hphase : server.phase = old)
    (hbooks : old.books = (0, 0, 0)) (hold : old.resting = false) :
    Sound { server with phase := .joining 0 } :=
  h.move hphase (.joining 0) hbooks.symm hold rfl (.none rfl) rfl (Nat.zero_le _) (Nat.zero_le _)
    (Nat.zero_le _)

theorem Sound.permit {server : TransportServer} (h : server.Sound)
    (hphase : server.phase = .limiting) (hlimit : server.limitReached = false) :
    Sound { server with phase := .accepting } := by
  have hserving := h.serving (by rw [hphase]; rfl)
  have hfailures := h.failures
  have hsize := h.size
  rw [hphase] at hfailures hsize
  apply h.pass hphase server.consecutiveFailures .accepting rfl (fun _ => hserving) (.none rfl)
    h.room_le _ hfailures hsize (fun hquiet => by cases hquiet)
  intro hne
  have hlt : server.totalConnections < server.options.connectionLimit.toNat := by
    simpa [limitReached, hne] using hlimit
  exact hlt

theorem Sound.fail {server : TransportServer} (h : server.Sound) (hphase : server.phase = .failed)
    (phase : ServePhase) (hbooks : phase.books = (0, 0, 0)) (hjoined : phase.joined = 0)
    (hroomy : phase.roomy = 0) (hpermitted : phase.permitted = 0) (hquiet : phase.quiet = false)
    (hfailures : server.consecutiveFailures + 1 + phase.staying ≤ kMaxConsecutiveAcceptFailures)
    (hgrowing : phase.growing ≤ 1) :
    Sound { server with
      consecutiveFailures := server.consecutiveFailures + 1
      phase := phase } := by
  have hserving := h.serving (by rw [hphase]; rfl)
  have hsize := h.size
  rw [hphase] at hsize
  apply h.pass hphase _ phase hbooks (fun _ => hserving) (.none hjoined)
  case hroom =>
    rw [hroomy]
    exact h.room_le
  case hlimit =>
    rw [hpermitted]
    exact h.limit_le
  case hfailures => exact hfailures
  case hsize => exact (Nat.add_le_add_left hgrowing _).trans hsize
  case hquiet => exact fun hnew => absurd (hquiet.symm.trans hnew) Bool.false_ne_true

theorem Sound.accept {server : TransportServer} (h : server.Sound)
    (hphase : server.phase = .accepting) (backlog : Nat) :
    Sound { server with backlog := backlog, consecutiveFailures := 0, phase := .accepted } := by
  have hserving := h.serving (by rw [hphase]; rfl)
  have hlimit := h.limit
  have hsize := h.size
  rw [hphase] at hlimit hsize
  exact { h.pass hphase 0 .accepted rfl (fun _ => hserving) (.none rfl) h.room_le hlimit
    (Nat.le_of_ble_eq_true rfl) hsize (fun hquiet => by cases hquiet) with }

theorem Sound.admitted {server : TransportServer} (h : server.Sound)
    (hphase : server.phase = .comparing)
    (hroom : server.activeConnections < server.options.maxConnections.toNat) :
    Sound { server with phase := .activating } := by
  have hserving := h.serving (by rw [hphase]; rfl)
  have hfailures := h.failures
  have hsize := h.size
  rw [hphase] at hfailures hsize
  exact h.pass hphase server.consecutiveFailures .activating rfl (fun _ => hserving) (.none rfl)
    hroom h.limit_le hfailures hsize (fun hquiet => by cases hquiet)

theorem Sound.join {server : TransportServer} (h : server.Sound)
    (hphase : server.phase = old) (phase : ServePhase)
    (hthread : server.connectionThreads[old.joined]? = some .finished)
    (hbooks : phase.books = old.books) (hold : old.resting = false) (hquiet : phase.quiet = false)
    (hjoined : phase.joined = old.joined + 1) (hroomy : phase.roomy = 0)
    (hpermitted : phase.permitted = 0) (hstaying : phase.staying ≤ old.staying)
    (hgrowing : phase.growing ≤ old.growing) : Sound { server with phase := phase } :=
  h.move hphase phase hbooks hold hquiet (h.joined.more (by rw [hphase]) hthread hjoined) hroomy
    (hpermitted ▸ Nat.zero_le _) hstaying hgrowing

section

variable {server : TransportServer} (h : server.Sound)

include h

theorem Sound.count (hphase : server.phase = .counting) :
    Sound { server with
      totalConnections := server.totalConnections + 1
      phase := .comparing } := by
  obtain ⟨hbound, hserving, -, hactive, hroom, hcounted, hclosed, hlimit, hfailures, hsize, -⟩ := h
  rw [hphase] at hserving hactive hroom hcounted hclosed hlimit hfailures hsize
  exact ⟨hbound, hserving, .none rfl, hactive, hroom, congrArg (· + 1) hcounted, hclosed, hlimit,
    hfailures, hsize, fun hquiet => by cases hquiet⟩

theorem Sound.refuse (hphase : server.phase = .refusing) :
    Sound { server with
      connectionsRefused := server.connectionsRefused + 1
      phase := .looping } := by
  obtain ⟨hbound, hserving, -, hactive, hroom, hcounted, hclosed, hlimit, hfailures, hsize, -⟩ := h
  rw [hphase] at hserving hactive hroom hcounted hclosed hlimit hfailures hsize
  exact ⟨hbound, hserving, .none rfl, hactive, hroom, hcounted, hclosed, hlimit, hfailures, hsize,
    fun hquiet => by cases hquiet⟩

theorem Sound.activate (hphase : server.phase = .activating) :
    Sound { server with
      activeConnections := server.activeConnections + 1
      phase := .noting } := by
  obtain ⟨hbound, hserving, -, hactive, hroom, hcounted, hclosed, hlimit, hfailures, hsize, -⟩ := h
  rw [hphase] at hserving hactive hroom hcounted hclosed hlimit hfailures hsize
  exact ⟨hbound, hserving, .none rfl, congrArg (· + 1) hactive, hroom, hcounted, hclosed, hlimit,
    hfailures, hsize, fun hquiet => by cases hquiet⟩

theorem Sound.note (hphase : server.phase = .noting) :
    Sound { server with
      connectionsAccepted := server.connectionsAccepted + 1
      phase := .spawning } := by
  obtain ⟨hbound, hserving, -, hactive, hroom, hcounted, hclosed, hlimit, hfailures, hsize, -⟩ := h
  rw [hphase] at hserving hactive hroom hcounted hclosed hlimit hfailures hsize
  have hdecided : server.totalConnections =
      server.connectionsAccepted + 1 + server.connectionsRefused := by
    rw [hcounted, ServePhase.undecided]
    omega
  exact ⟨hbound, hserving, .none rfl, hactive, hroom, hdecided, congrArg (· + 1) hclosed, hlimit,
    hfailures, hsize, fun hquiet => by cases hquiet⟩

theorem Sound.spawn (hphase : server.phase = .spawning) (phase : ServePhase)
    (hbooks : phase.books = (0, 0, 0)) (hjoined : phase.joined = 0) (hroomy : phase.roomy = 0)
    (hpermitted : phase.permitted = 0) (hstaying : phase.staying = 1) (hquiet : phase.quiet = false)
    (hgrowing : server.connectionThreads.length + 1 + phase.growing ≤
      max 1 (reclaimBound server.options)) :
    Sound { server with
      connectionThreads := server.connectionThreads ++ [.handling]
      phase := phase } := by
  simp only [ServePhase.books, Prod.mk.injEq] at hbooks
  have hserving := h.serving (by rw [hphase]; rfl)
  have hactive := h.active
  have hcounted := h.counted
  have hclosed := h.closed
  have hfailures := h.failures
  rw [hphase] at hactive hcounted hclosed hfailures
  constructor
  case bound => exact h.bound
  case serving => exact fun _ => hserving
  case joined => exact .none hjoined
  case active =>
    rw [Population.weight_append, hbooks.1]
    exact hactive
  case room =>
    rw [hroomy]
    exact h.room_le
  case counted =>
    rw [hbooks.2.1]
    exact hcounted
  case closed =>
    rw [Population.weight_append, hbooks.2.2]
    exact hclosed
  case limit =>
    rw [hpermitted]
    exact h.limit_le
  case failures =>
    rw [hstaying]
    exact hfailures
  case size =>
    rw [List.length_append]
    exact hgrowing
  case quiet => exact fun hnew => absurd (hquiet.symm.trans hnew) Bool.false_ne_true

theorem Sound.release (hthread : server.connectionThreads[index]? = some .handling) :
    Sound { server with
      activeConnections := server.activeConnections - 1
      connectionThreads := server.connectionThreads.set index .released } := by
  have hset := Population.weight_set ConnectionThread.active _ hthread .released
  have hkept := Population.weight_set ConnectionThread.unfinished _ hthread .released
  have hactive := h.active
  simp only [ConnectionThread.active] at hset
  apply h.thread hthread (by decide) _ _ (by omega) (Nat.sub_le _ _)
  rw [Nat.add_right_cancel hkept]
  exact h.closed

theorem Sound.finish (hthread : server.connectionThreads[index]? = some .released) :
    Sound { server with
      connectionsClosed := server.connectionsClosed + 1
      connectionThreads := server.connectionThreads.set index .finished } := by
  have hkept := Population.weight_set ConnectionThread.active _ hthread .finished
  have hset := Population.weight_set ConnectionThread.unfinished _ hthread .finished
  have hclosed := h.closed
  simp only [ConnectionThread.unfinished] at hset
  apply h.thread hthread (by decide) _ _ _ (Nat.le_refl _) (by omega)
  rw [Nat.add_right_cancel hkept]
  exact h.active

end

theorem Sound.step {server server' : TransportServer} (h : server.Sound)
    (hstep : Step server action server') : server'.Sound := by
  cases hstep with
  | listen hphase hcheck =>
    exact { h with bound := fun _ => listenCheck_ok hcheck, serving := fun _ => rfl }
  | connect | requestStop | wake => exact { h with }
  | serve hphase hlistener => exact h.serve hphase hlistener
  | serveClosed hphase | persist hphase => exact h.return hphase rfl rfl _
  | stopped hphase | limited hphase | failedStopped hphase | drop hphase =>
    exact h.end hphase rfl rfl
  | continued hphase =>
    exact h.move hphase .limiting rfl rfl rfl (.none rfl) rfl (Nat.le_refl _) (Nat.le_refl _)
      (Nat.le_refl _)
  | permitted hphase hlimit => exact h.permit hphase hlimit
  | acceptFailed hphase =>
    exact h.move hphase .failed rfl rfl rfl (.none rfl) rfl (Nat.zero_le _) (Nat.le_refl _)
      (Nat.le_refl _)
  | failedAgain hphase hstop hfailures =>
    exact h.fail hphase .looping rfl rfl rfl rfl rfl hfailures (Nat.le_refl _)
  | failedEnough hphase hstop hfailures =>
    have hstaying := h.failures
    rw [hphase] at hstaying
    exact h.fail hphase (.joining 0) rfl rfl rfl rfl rfl hstaying (Nat.zero_le _)
  | accept hphase hbacklog => exact h.accept hphase _
  | keep hphase hstop =>
    exact h.move hphase .counting rfl rfl rfl (.none rfl) rfl (Nat.le_refl _) (Nat.le_refl _)
      (Nat.le_refl _)
  | full hphase hfull =>
    exact h.move hphase .refusing rfl rfl rfl (.none rfl) rfl (Nat.zero_le _) (Nat.le_refl _)
      (Nat.le_refl _)
  | room hphase hroom => exact h.admitted hphase hroom
  | reclaimJoin hphase hthread | join hphase hthread =>
    exact h.join hphase _ hthread rfl rfl rfl rfl rfl rfl (Nat.le_refl _) (Nat.le_refl _)
  | reclaim hphase =>
    exact h.clear server.listening (by rw [hphase]; rfl) (by rw [hphase]; rfl) (by rw [hphase]; rfl)
      .looping rfl rfl rfl rfl (by rw [hphase]; exact Nat.le_refl _) (Nat.le_refl _)
  | leavePersisting hphase =>
    exact h.clear false (by rw [hphase]; rfl) (by rw [hphase]; rfl) (by rw [hphase]; rfl)
      .persisting rfl rfl rfl rfl (Nat.zero_le _) (Nat.zero_le _)
  | leave hphase =>
    exact h.clear false (by rw [hphase]; rfl) (by rw [hphase]; rfl) (by rw [hphase]; rfl)
      (.returned _) rfl rfl rfl rfl (Nat.zero_le _) (Nat.zero_le _)
  | count hphase => exact h.count hphase
  | refuse hphase => exact h.refuse hphase
  | activate hphase => exact h.activate hphase
  | note hphase => exact h.note hphase
  | spawn hphase hfew =>
    exact h.spawn hphase .looping rfl rfl rfl rfl rfl rfl
      ((Nat.succ_le_of_lt hfew).trans (Nat.le_max_right _ _))
  | spawnMany hphase hmany =>
    have hsize := h.size
    rw [hphase] at hsize
    exact h.spawn hphase (.reclaiming 0) rfl rfl rfl rfl rfl rfl hsize
  | release hthread => exact h.release hthread
  | finish hthread => exact h.finish hthread

theorem run_sound {options : AcceptOptions} (h : Run Step (make options) labels server) :
    server.Sound :=
  h.invariant (fun _ => Sound) (make_sound options) fun _ hsound hstep => hsound.step hstep

theorem Step.options {server server' : TransportServer} (hstep : Step server action server') :
    server'.options = server.options := by
  cases hstep <;> rfl

theorem run_options {options : AcceptOptions} (h : Run Step (make options) labels server) :
    server.options = options :=
  h.invariant (fun _ server => server.options = options) rfl
    fun _ hsame hstep => hstep.options.trans hsame

end TransportServer

namespace ServerAction

/-- What a call of `accept` gave. -/
def accepted? : ServerAction → Option Bool
  | accept ok => some ok
  | _ => none

/-- The step is one of those that the trace tells of. -/
def traced : ServerAction → Bool
  | accept _ | drop => true
  | _ => false

theorem of_not_traced {action : ServerAction} (h : action.traced = false) :
    action.accepted? = none ∧ List.count (accept true) [action] = 0 ∧
      List.count drop [action] = 0 := by
  cases action with
  | accept | drop => cases h
  | _ => exact ⟨rfl, rfl, rfl⟩

end ServerAction

namespace ServePhase

/-- One while an accepted socket is neither counted nor closed. -/
def unclaimed : ServePhase → Nat
  | accepted | counting => 1
  | _ => 0

/-- One while a failed accept is not counted yet. -/
def unnoted : ServePhase → Nat
  | failed => 1
  | _ => 0

/-- The loop is over. -/
def ended : ServePhase → Bool
  | joining _ | persisting | returned _ => true
  | _ => false

end ServePhase

namespace TransportServer

/-- What ends the loop of `serve`: a stop request, the limit of connections, a listener that keeps
failing, or no listener. -/
def Ended (server : TransportServer) : Prop :=
  server.stopRequested = true ∨ server.limitReached = true ∨
    kMaxConsecutiveAcceptFailures ≤ server.consecutiveFailures ∨ server.listener = false

/-- What the steps so far tell about the sockets: every socket that `accept` gave is counted, was
dropped or is in hand, and the failures in a row are the last results of `accept`. -/
structure Traced (labels : List ServerAction) (server : TransportServer) : Prop where
  opened : labels.count (.accept true) =
    server.totalConnections + labels.count .drop + server.phase.unclaimed
  failing : List.replicate (server.consecutiveFailures + server.phase.unnoted) false <:+
    labels.filterMap ServerAction.accepted?
  ended : server.phase.ended = true → server.Ended

theorem Traced.silent {server server' : TransportServer} (h : Traced labels server)
    (haction : action.traced = false)
    (htotal : server'.totalConnections + server'.phase.unclaimed =
      server.totalConnections + server.phase.unclaimed)
    (hfailures : server'.consecutiveFailures + server'.phase.unnoted ≤
      server.consecutiveFailures + server.phase.unnoted)
    (hended : server'.phase.ended = true → server'.Ended) :
    Traced (labels ++ [action]) server' := by
  obtain ⟨hresult, haccept, hdrop⟩ := ServerAction.of_not_traced haction
  constructor
  case opened =>
    have hopened := h.opened
    rw [List.count_append, List.count_append, haccept, hdrop]
    omega
  case failing =>
    have hfewer : List.replicate (server'.consecutiveFailures + server'.phase.unnoted) false <:+
        List.replicate (server.consecutiveFailures + server.phase.unnoted) false := by
      obtain ⟨more, hmore⟩ := Nat.exists_eq_add_of_le' hfailures
      exact ⟨List.replicate more false, by rw [hmore, List.replicate_append_replicate]⟩
    rw [List.filterMap_append, List.filterMap_cons, hresult, List.filterMap_nil, List.append_nil]
    exact hfewer.trans h.failing
  case ended => exact hended

theorem Traced.pass {server : TransportServer} (h : Traced labels server)
    (haction : action.traced = false) (hphase : server.phase = old)
    (htotal : server'.totalConnections = server.totalConnections)
    (hfailures : server'.consecutiveFailures = server.consecutiveFailures)
    (hunclaimed : server'.phase.unclaimed = old.unclaimed)
    (hunnoted : server'.phase.unnoted ≤ old.unnoted)
    (hended : server'.phase.ended = true → server'.Ended) :
    Traced (labels ++ [action]) server' := by
  apply h.silent haction
  case htotal => rw [htotal, hunclaimed, hphase]
  case hfailures =>
    rw [hfailures, hphase]
    exact Nat.add_le_add_left hunnoted _
  case hended => exact hended

theorem Traced.acceptFailed {server : TransportServer} (h : Traced labels server)
    (hphase : server.phase = .accepting) :
    Traced (labels ++ [.accept false]) { server with phase := .failed } := by
  have hopened := h.opened
  have hfailing := h.failing
  rw [hphase] at hopened hfailing
  constructor
  case opened =>
    rw [List.count_append, List.count_append]
    exact hopened
  case failing =>
    rw [List.filterMap_append, ServePhase.unnoted, List.replicate_succ']
    exact List.suffix_append_self_iff.2 hfailing
  case ended => exact fun hnew => by cases hnew

theorem Traced.accept {server : TransportServer} (h : Traced labels server)
    (hphase : server.phase = .accepting) (backlog : Nat) :
    Traced (labels ++ [.accept true])
      { server with backlog := backlog, consecutiveFailures := 0, phase := .accepted } := by
  have hopened := h.opened
  rw [hphase] at hopened
  constructor
  case opened =>
    rw [List.count_append, List.count_append, List.count_singleton_self]
    exact congrArg (· + 1) hopened
  case failing => exact List.nil_suffix
  case ended => exact fun hnew => by cases hnew

theorem Traced.drop {server : TransportServer} (h : Traced labels server)
    (hphase : server.phase = .accepted) (hstop : server.stopRequested = true) :
    Traced (labels ++ [.drop]) { server with phase := .joining 0 } := by
  have hopened := h.opened
  have hfailing := h.failing
  rw [hphase] at hopened hfailing
  constructor
  case opened =>
    rw [List.count_append, List.count_append, List.count_singleton_self]
    exact hopened
  case failing =>
    rw [List.filterMap_append]
    exact List.append_nil _ ▸ hfailing
  case ended => exact fun _ => .inl hstop

theorem Traced.fail {server : TransportServer} (h : Traced labels server)
    (hphase : server.phase = .failed) (phase : ServePhase) (hunclaimed : phase.unclaimed = 0)
    (hunnoted : phase.unnoted = 0)
    (hended : phase.ended = true → kMaxConsecutiveAcceptFailures ≤ server.consecutiveFailures + 1) :
    Traced (labels ++ [.check])
      { server with
        consecutiveFailures := server.consecutiveFailures + 1
        phase := phase } := by
  apply h.silent rfl
  case htotal =>
    rw [hphase, hunclaimed]
    rfl
  case hfailures =>
    rw [hphase, hunnoted]
    exact Nat.le_refl _
  case hended => exact fun hover => .inr (.inr (.inl (hended hover)))

theorem Traced.step {server server' : TransportServer} (h : Traced labels server)
    (hstep : Step server action server') : Traced (labels ++ [action]) server' := by
  have hended := h.ended
  cases hstep with
  | listen hphase =>
    apply h.silent
    case haction => rfl
    case htotal => rfl
    case hfailures => exact Nat.le_refl _
    case hended =>
      rw [hphase]
      exact fun hnew => by cases hnew
  | requestStop => exact h.pass rfl rfl rfl rfl rfl (Nat.le_refl _) fun _ => .inl rfl
  | serve hphase =>
    apply h.silent rfl _ (Nat.zero_le _) (fun hnew => by cases hnew)
    rw [hphase]
    rfl
  | serveClosed hphase hlistener =>
    exact h.pass rfl hphase rfl rfl rfl (Nat.le_refl _) fun _ => .inr (.inr (.inr hlistener))
  | stopped hphase hstop | failedStopped hphase hstop =>
    exact h.pass rfl hphase rfl rfl rfl (Nat.zero_le _) fun _ => .inl hstop
  | limited hphase hlimit =>
    exact h.pass rfl hphase rfl rfl rfl (Nat.le_refl _) fun _ => .inr (.inl hlimit)
  | failedAgain hphase hstop hfailures =>
    exact h.fail hphase .looping rfl rfl fun hnew => by cases hnew
  | failedEnough hphase hstop hfailures =>
    exact h.fail hphase (.joining 0) rfl rfl fun _ => hfailures
  | acceptFailed hphase => exact h.acceptFailed hphase
  | accept hphase => exact h.accept hphase _
  | drop hphase hstop => exact h.drop hphase hstop
  | count hphase =>
    apply h.silent rfl _ _ (fun hnew => by cases hnew)
    all_goals rw [hphase]
    case _ => rfl
    case _ => exact Nat.le_refl _
  | join hphase | leave hphase | leavePersisting hphase | persist hphase =>
    rw [hphase] at hended
    exact h.pass rfl hphase rfl rfl rfl (Nat.le_refl _) hended
  | release | finish | connect | wake =>
    exact h.pass rfl rfl rfl rfl rfl (Nat.le_refl _) hended
  | reclaimJoin hphase | reclaim hphase | keep hphase | continued hphase | permitted hphase
  | full hphase | room hphase | refuse hphase | activate hphase | note hphase | spawn hphase
  | spawnMany hphase =>
    exact h.pass rfl hphase rfl rfl rfl (Nat.le_refl _) fun hnew => by cases hnew

theorem run_traced {options : AcceptOptions} (h : Run Step (make options) labels server) :
    Traced labels server :=
  h.invariant Traced ⟨rfl, List.nil_suffix, fun hended => by cases hended⟩
    fun _ htraced hstep => htraced.step hstep

theorem weight_active (threads : List ConnectionThread) :
    Population.weight ConnectionThread.active threads = threads.count .handling := by
  induction threads with
  | nil => rfl
  | cons thread threads ih =>
    rw [Population.weight_cons, ih, List.count_cons, Nat.add_comm]
    cases thread <;> rfl

/-- However the accept loop, the connection threads and stop requests interleave: the handlers that
run are at most as many as the options allow, and so are the counted connections; the thread handles
are bounded; and the counters of the connections agree up to the one in hand. -/
theorem run_bounded {options : AcceptOptions} (h : Run Step (make options) labels server) :
    server.connectionThreads.count .handling ≤ server.activeConnections ∧
      server.activeConnections ≤ options.maxConnections.toNat ∧
      server.connectionThreads.length ≤ max 1 (reclaimBound options) ∧
      (options.connectionLimit ≠ 0 → server.totalConnections ≤ options.connectionLimit.toNat) ∧
      server.consecutiveFailures ≤ kMaxConsecutiveAcceptFailures ∧
      server.connectionsClosed ≤ server.connectionsAccepted ∧
      server.connectionsAccepted + server.connectionsRefused ≤ server.totalConnections ∧
      server.totalConnections ≤ labels.count (.accept true) := by
  have hs := run_sound h
  obtain rfl := run_options h
  have hopened := (run_traced h).opened
  have hactive := hs.active
  have hclosed := hs.closed
  have hcounted := hs.counted
  have hfailures := hs.failures
  have hsize := hs.size
  rw [weight_active] at hactive
  exact ⟨by omega, hs.room_le, by omega, hs.limit_le, by omega, by omega, by omega, by omega⟩

/-- The server while it handles its first connection. -/
def firstHandled : TransportServer :=
  { options := {}
    listener := true
    listening := true
    activeConnections := 1
    totalConnections := 1
    connectionsAccepted := 1
    connectionThreads := [.handling]
    phase := .looping }

theorem run_firstHandled : Run Step (make {})
    [.listen, .serve, .connect, .check, .check, .accept true, .check, .count, .check, .activate,
      .note, .spawn] firstHandled := by
  apply Run.cons (.listen rfl (by decide +kernel))
  apply Run.cons (.serve rfl rfl)
  apply Run.cons (.connect rfl)
  apply Run.cons (.continued rfl rfl)
  apply Run.cons (.permitted rfl (by decide))
  apply Run.cons (.accept rfl rfl)
  apply Run.cons (.keep rfl rfl)
  apply Run.cons (.count rfl)
  apply Run.cons (.room rfl (by decide))
  apply Run.cons (.activate rfl)
  apply Run.cons (.note rfl)
  apply Run.cons (.spawn rfl (by decide))
  exact .nil

theorem run_bounded_first :
    firstHandled.connectionThreads.count .handling ≤ firstHandled.activeConnections ∧
      firstHandled.activeConnections ≤ 8 ∧ firstHandled.connectionThreads.length ≤ 32 ∧
      ((0 : UInt64) ≠ 0 → firstHandled.totalConnections ≤ 0) ∧
      firstHandled.consecutiveFailures ≤ 64 ∧
      firstHandled.connectionsClosed ≤ firstHandled.connectionsAccepted ∧
      firstHandled.connectionsAccepted + firstHandled.connectionsRefused ≤
        firstHandled.totalConnections ∧
      firstHandled.totalConnections ≤ 1 :=
  run_bounded run_firstHandled

/-- When `serve` has returned, no thread of a connection is left, every socket that it accepted was
served to its end, refused or dropped on a stop, and it had a reason to return. -/
theorem serve_settled {options : AcceptOptions} (h : Run Step (make options) labels server)
    (hreturned : server.phase = .returned status) :
    server.connectionThreads = [] ∧ server.activeConnections = 0 ∧
      server.connectionsClosed = server.connectionsAccepted ∧
      labels.count (.accept true) =
        server.connectionsAccepted + server.connectionsRefused + labels.count .drop ∧
      (server.stopRequested = true ∨
        options.connectionLimit ≠ 0 ∧
          server.totalConnections = options.connectionLimit.toNat ∨
        List.replicate kMaxConsecutiveAcceptFailures false <:+
          labels.filterMap ServerAction.accepted? ∨
        server.listener = false) := by
  have hs := run_sound h
  have ht := run_traced h
  obtain rfl := run_options h
  have hthreads := hs.quiet (by rw [hreturned]; rfl)
  have hactive := hs.active
  have hclosed := hs.closed
  have hcounted := hs.counted
  have hopened := ht.opened
  have hfailing := ht.failing
  have hfailures := hs.failures
  rw [hthreads, hreturned] at hactive hclosed
  rw [hreturned] at hcounted hopened hfailing hfailures
  simp only [ServePhase.undecided, ServePhase.unclaimed] at hcounted hopened
  refine ⟨hthreads, hactive, hclosed.symm, by omega, ?_⟩
  rcases ht.ended (by rw [hreturned]; rfl) with hstop | hlimit | hmany | hnone
  · exact .inl hstop
  · simp only [limitReached, Bool.and_eq_true, bne_iff_ne, decide_eq_true_eq] at hlimit
    exact .inr (.inl ⟨hlimit.1, Nat.le_antisymm (hs.limit_le hlimit.1) hlimit.2⟩)
  · have hall : server.consecutiveFailures = kMaxConsecutiveAcceptFailures :=
      Nat.le_antisymm hfailures hmany
    rw [hall] at hfailing
    exact .inr (.inr (.inl hfailing))
  · exact .inr (.inr (.inr hnone))

/-- The same server after a stop request. -/
def firstClosed : TransportServer :=
  { firstHandled with
    listening := false
    stopRequested := true
    wakers := 1
    activeConnections := 0
    connectionsClosed := 1
    connectionThreads := []
    phase := .returned .success }

theorem run_firstClosed : Run Step firstHandled
    [.requestStop, .release 0, .check, .finish 0, .join 0, .leave, .persist .success]
    firstClosed := by
  apply Run.cons .requestStop
  apply Run.cons (.release rfl)
  apply Run.cons (.stopped rfl rfl)
  apply Run.cons (.finish rfl)
  apply Run.cons (.join rfl rfl)
  apply Run.cons (.leavePersisting rfl rfl)
  apply Run.cons (.persist rfl)
  exact .nil

theorem serve_settled_first :
    firstClosed.connectionThreads = [] ∧ firstClosed.activeConnections = 0 ∧
      firstClosed.connectionsClosed = firstClosed.connectionsAccepted ∧
      1 = firstClosed.connectionsAccepted + firstClosed.connectionsRefused + 0 ∧
      (firstClosed.stopRequested = true ∨
        (0 : UInt64) ≠ 0 ∧ firstClosed.totalConnections = 0 ∨
        List.replicate kMaxConsecutiveAcceptFailures false <:+ [true] ∨
        firstClosed.listener = false) :=
  serve_settled (run_firstHandled.append run_firstClosed) rfl

end TransportServer

end LinkObservatory
