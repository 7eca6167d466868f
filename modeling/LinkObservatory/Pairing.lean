import LinkObservatory.Connection

namespace LinkObservatory
set_option autoImplicit true

open Reassembly Session

/-- The types of the requests that a client makes. -/
def FrameType.isRequest : FrameType → Bool
  | .ping | .pushRecords | .queryState => true
  | .pong | .pushAck | .stateReport | .errorReport | .shutdown => false

namespace Host

variable (host : Host σ)

/-- The arm for a push, with the policy of the observatory. -/
def push (payload : Bytes) (world : σ) : PushResult σ :=
  handlePush (host.observatory world).config.policy host.submitBatch payload world

/-- The frame that answers a request. -/
def answer (request : Frame) (world : σ) : Frame :=
  match request.type with
  | .pushRecords => (host.push request.payload world).answer.frame
  | .queryState =>
    { type := .stateReport
      payload := stateReport (host.observatory world) (host.now world) (trimAscii request.payload) }
  | _ => { type := .pong, payload := ascii "ok" }

/-- The world once a request has been acted on. -/
def settle (request : Frame) (world : σ) : σ :=
  if request.type = .pushRecords then (host.push request.payload world).world else world

/-- The world once a request has been answered. -/
def afterwards (request : Frame) (world : σ) : σ :=
  (host.sendAll (host.answer request world).wire (host.settle request world)).2

/-- One answer for each request, in order. -/
def answers : List Frame → σ → List Frame
  | [], _ => []
  | request :: rest, world => host.answer request world :: answers rest (host.afterwards request world)

/-- The payload of every answer is within the bound: two bytes for a ping, the acknowledgement of a
push and the report on the state that a query meets. -/
def Fits (maxPayload : Nat) : List Frame → σ → Prop
  | [], _ => True
  | request :: rest, world =>
    (match request.type with
      | .pushRecords => (host.push request.payload world).answer.frame.payload.length
      | .queryState =>
        (stateReport (host.observatory world) (host.now world)
          (trimAscii request.payload)).length
      | _ => 2) ≤ maxPayload ∧ Fits maxPayload rest (host.afterwards request world)

theorem answers_length (requests : List Frame) (world : σ) :
    (host.answers requests world).length = requests.length := by
  induction requests generalizing world with
  | nil => rfl
  | cons request rest ih => rw [answers, List.length_cons, List.length_cons, ih]

end Host

variable {options : ServerOptions} {host : Host σ}

theorem Host.fits_cons (host : Host σ) (maxPayload : Nat) (request : Frame) (rest : List Frame)
    (world : σ) :
    host.Fits maxPayload (request :: rest) world ↔
      (host.answer request world).payload.length ≤ maxPayload ∧
        host.Fits maxPayload rest (host.afterwards request world) := by
  obtain ⟨type, flags, payload⟩ := request
  cases type <;> exact Iff.rfl

theorem not_shutdown {request : Frame} (hrequest : request.type.isRequest = true) :
    request.type ≠ .shutdown := by
  intro hshutdown
  rw [hshutdown] at hrequest
  cases hrequest

theorem respond_request (host : Host σ) {request : Frame} (hrequest : request.type.isRequest = true)
    (session : Session σ) :
    (respond host request session).1 = host.answer request session.world ∧
      (respond host request session).2.world = host.settle request session.world := by
  obtain ⟨type, flags, payload⟩ := request
  cases type with
  | ping => exact ⟨rfl, rfl⟩
  | queryState => exact ⟨rfl, rfl⟩
  | pushRecords =>
    simp only [respond, Host.answer, Host.settle, Host.push]
    cases (handlePush (host.observatory session.world).config.policy host.submitBatch payload
        session.world).answer with
    | failed status => exact ⟨rfl, rfl⟩
    | ack submitted rejected errors => exact ⟨rfl, rfl⟩
  | pong => cases hrequest
  | pushAck => cases hrequest
  | stateReport => cases hrequest
  | errorReport => cases hrequest
  | shutdown => cases hrequest

section

variable (hsend : ∀ bytes world, (host.sendAll bytes world).1 = true)

include hsend

/-- A request is answered exactly when the answer is within the bound. -/
theorem serve_request (options : ServerOptions) {request : Frame} (hrequest : request.type.isRequest = true)
    (session : Session σ) :
    if (host.answer request session.world).payload.length ≤ options.maxPayloadBytes then
      (serve options host request session).1 = !session.finish ∧
        (serve options host request session).2.sent =
          session.sent ++ [host.answer request session.world] ∧
        (serve options host request session).2.world = host.afterwards request session.world
    else (serve options host request session).2.sent = session.sent := by
  obtain ⟨hanswer, hworld⟩ := respond_request host hrequest (taken request session)
  obtain ⟨-, hsent, hfinish, -⟩ := respond_frame host request (taken request session)
  rw [decide_eq_false (not_shutdown hrequest), Bool.or_false] at hfinish
  change _ = host.answer request session.world at hanswer
  change _ = host.settle request session.world at hworld
  rcases serve_cases options host request session with
    ⟨hsize, -, h⟩ | ⟨-, hlost, -⟩ | ⟨hsize, -, hgoes, h⟩
  · rw [hanswer] at hsize
    rw [if_neg (Nat.not_le.2 hsize), h]
    exact hsent
  · rw [hsend] at hlost
    cases hlost
  · rw [hanswer] at hsize
    rw [if_pos hsize, hgoes, h, hfinish, hanswer, hworld]
    exact ⟨rfl, congrArg (· ++ _) hsent, rfl⟩

theorem serveAll_fits {requests : List Frame} (session : Session σ)
    (hrequest : ∀ request ∈ requests, request.type.isRequest = true)
    (hfinish : session.finish = false)
    (hfits : host.Fits options.maxPayloadBytes requests session.world) :
    Answerable options host requests session ∧
      (serveAll options host requests session).sent =
        session.sent ++ host.answers requests session.world := by
  induction requests generalizing session with
  | nil => exact ⟨trivial, (List.append_nil _).symm⟩
  | cons request rest ih =>
    obtain ⟨hsize, hrest⟩ := (host.fits_cons ..).1 hfits
    have hserved := serve_request hsend options
      (hrequest request (List.mem_cons_self ..)) session
    rw [if_pos hsize, hfinish] at hserved
    obtain ⟨hgoes, hsent, hworld⟩ := hserved
    have hopen : (serve options host request session).2.finish = false := by
      rw [(serve_frame request session).2, hfinish,
        decide_eq_false (not_shutdown (hrequest request (List.mem_cons_self ..))), Bool.or_false]
    rw [← hworld] at hrest
    obtain ⟨hanswer, hlog⟩ := ih _
      (fun request hmem => hrequest request (List.mem_cons_of_mem _ hmem)) hopen hrest
    refine ⟨⟨hgoes, hanswer⟩, ?_⟩
    rw [serveAll, hlog, hsent, hworld, List.append_assoc]
    rfl

theorem serveAll_sent_le (options : ServerOptions) {requests : List Frame} (session : Session σ)
    (hrequest : ∀ request ∈ requests, request.type.isRequest = true) :
    (serveAll options host requests session).sent.length ≤
        session.sent.length + requests.length ∧
      (¬host.Fits options.maxPayloadBytes requests session.world →
        (serveAll options host requests session).sent.length <
          session.sent.length + requests.length) := by
  induction requests generalizing session with
  | nil => exact ⟨Nat.le_refl _, fun h => absurd trivial h⟩
  | cons request rest ih =>
    have hserved := serve_request hsend options
      (hrequest request (List.mem_cons_self ..)) session
    obtain ⟨hle, hlt⟩ := ih (serve options host request session).2
      fun request hmem => hrequest request (List.mem_cons_of_mem _ hmem)
    rw [serveAll, List.length_cons, host.fits_cons]
    split at hserved
    · rename_i hsize
      obtain ⟨-, hsent, hworld⟩ := hserved
      rw [hsent, List.length_append, List.length_singleton] at hle hlt
      rw [hworld] at hlt
      refine ⟨by omega, fun h => ?_⟩
      have hrest := hlt fun hfits => h ⟨hsize, hfits⟩
      omega
    · rw [hserved] at hle
      exact ⟨by omega, fun _ => by omega⟩

end

/-- A connection answers every request, in order, exactly when no answer is out of bounds. -/
theorem handleConnection_answers_iff {requests : List Frame} {chunks : List Bytes} {world : σ}
    (hlegal : ∀ request ∈ requests, request.Legal options.maxPayloadBytes)
    (hrequest : ∀ request ∈ requests, request.type.isRequest = true)
    (hcut : chunks.flatten = requests.flatMap Frame.wire)
    (hsend : ∀ bytes world, (host.sendAll bytes world).1 = true)
    (hbound : (handleConnection options host (chunks.map .chunk) [] { world }).overflowed = false) :
    (handleConnection options host (chunks.map .chunk) [] { world }).session.sent =
        host.answers requests world ↔
      host.Fits options.maxPayloadBytes requests world := by
  have hwire : Holds Frame.wire requests [] chunks.flatten := hcut
  obtain ⟨now, later, rfl, hsession, hholds, hshort⟩ := handleConnection_holds hlegal
    (fun request hmem => not_shutdown (hrequest request hmem)) rfl hwire hbound
  rw [hsession]
  constructor
  · intro hsent
    by_contra hfits
    have hlength := congrArg List.length hsent
    rw [host.answers_length, List.length_append] at hlength
    obtain ⟨hle, hlt⟩ := serveAll_sent_le hsend options { world }
      fun request hmem => hrequest request (List.mem_append_left later hmem)
    simp only [List.length_nil, Nat.zero_add] at hle hlt
    have hnone : later = [] := List.length_eq_zero_iff.1 (by omega)
    rw [hnone, List.append_nil] at hfits
    rw [hnone, List.length_nil] at hlength
    have := hlt hfits
    omega
  · intro hfits
    obtain ⟨hanswer, -⟩ := serveAll_fits hsend { world } hrequest rfl hfits
    have hempty : Short Frame.wire (now ++ later) [] := .empty Frame.wire_pos _
    obtain ⟨-, rfl⟩ := (hshort hanswer hempty).finished hholds
    rw [List.append_nil] at hrequest hfits ⊢
    exact (serveAll_fits hsend { world } hrequest rfl hfits).2

/-- An observatory at rest behind a socket that loses nothing. -/
def Host.quiet : Host Unit :=
  { observatory := fun _ => .fresh { policy := makeDefaultPolicy }
    now := fun _ => {}
    submitBatch := fun _ _ => ({}, ())
    sendAll := fun _ _ => (true, ()) }

/-- Requests of each kind, sent as one stream. -/
def mixedRequests : List Frame :=
  [{ type := .ping }, { type := .pushRecords, payload := ascii "source name=s authority=primary" },
    { type := .queryState, payload := ascii " " }, { type := .ping }]

/-- The stream cut within a header and within a payload. -/
def mixedChunks : List Bytes :=
  let wire := mixedRequests.flatMap Frame.wire
  [wire.take 7, (wire.drop 7).take 30, wire.drop 37]

theorem handleConnection_answers_ping :
    (handleConnection {} Host.quiet (mixedChunks.map .chunk) [] { world := () }).session.sent =
      Host.quiet.answers mixedRequests () := by
  apply (handleConnection_answers_iff ?_ (by decide) (by decide +kernel) (fun _ _ => rfl)
    (by decide +kernel)).2
  · exact ⟨by decide +kernel, by decide +kernel, by decide +kernel, by decide +kernel, trivial⟩
  · intro request hmem
    have hall : mixedRequests.all (fun request => request.flags == 0 &&
        decide (request.payload.length ≤ 1024 * 1024)) = true := by decide
    obtain ⟨hflags, hsize⟩ := Bool.and_eq_true_iff.1 (List.all_eq_true.1 hall request hmem)
    have hsize : request.payload.length ≤ 1024 * 1024 := of_decide_eq_true hsize
    exact ⟨eq_of_beq hflags, hsize, by omega⟩

/-- With room for sixteen bytes, a query is left without the report of forty-four. -/
theorem query_unanswered :
    let options : ServerOptions := { maxPayloadBytes := 16 }
    let requests : List Frame := [{ type := .queryState }]
    let chunks := [requests.flatMap Frame.wire]
    (∀ request ∈ requests, request.flags = 0 ∧ request.payload.length ≤ options.maxPayloadBytes) ∧
      (∀ bytes world, (Host.quiet.sendAll bytes world).1 = true) ∧
      (handleConnection options Host.quiet (chunks.map .chunk) [] { world := () }).overflowed =
        false ∧
      (handleConnection options Host.quiet (chunks.map .chunk) [] { world := () }).session.sent =
        [] := by
  refine ⟨by decide, fun _ _ => rfl, by decide +kernel, by decide +kernel⟩

end LinkObservatory
