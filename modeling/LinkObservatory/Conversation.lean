import LinkObservatory.Client
import LinkObservatory.Lib.LabelledRun

namespace LinkObservatory
set_option autoImplicit true

open Reassembly Session

/-- The bytes of a reply as a message. -/
def messageOf (payload : Bytes) : String :=
  String.ofList (payload.map fun byte => Char.ofNat byte.toNat)

namespace TransportClient

/-- What `ping` makes of the reply: its status, and the text it hands on, if any. -/
def ping (reply : Frame) : Status × Option Bytes :=
  if reply.type ≠ .pong then (.of .unsupported "unexpected reply to ping", none)
  else (.success, some reply.payload)

def pushRecords (reply : Frame) : Status × Option Bytes :=
  if reply.type = .errorReport then (.of .rejected (messageOf reply.payload), some reply.payload)
  else if reply.type ≠ .pushAck then
    (.of .unsupported "unexpected reply to push", some reply.payload)
  else (.success, some reply.payload)

def queryState (reply : Frame) : Status × Option Bytes :=
  if reply.type = .errorReport then (.of .rejected (messageOf reply.payload), none)
  else if reply.type ≠ .stateReport then (.of .unsupported "unexpected reply to query", none)
  else (.success, some reply.payload)

/-- What the call that made a request makes of the reply. -/
def outcome (request reply : Frame) : Status × Option Bytes :=
  match request.type with
  | .pushRecords => pushRecords reply
  | .queryState => queryState reply
  | _ => ping reply

end TransportClient

/-- A host whose socket keeps what is sent until the other end receives it. -/
def Host.wired (host : Host σ) : Host (σ × Bytes) where
  observatory world := host.observatory world.1
  now world := host.now world.1
  submitBatch batch world :=
    let applied := host.submitBatch batch world.1
    (applied.1, applied.2, world.2)
  sendAll bytes world := (true, world.1, world.2 ++ bytes)

/-- A client and the connection that serves it, with the bytes on the way in both directions. The
requests made so far and what the calls returned are kept in their order. -/
structure Conversation (σ : Type) where
  calls : List Frame := []
  returned : List Receipt := []
  clientBuffer : Bytes := []
  toServer : Bytes := []
  serverBuffer : Bytes := []
  serving : Bool := true
  session : Session (σ × Bytes)

namespace Conversation

/-- A connection that has just been made. -/
def opened (world : σ) : Conversation σ := { session := { world := (world, []) } }

def toClient (conversation : Conversation σ) : Bytes := conversation.session.world.2

def setWorld (conversation : Conversation σ) (world : σ × Bytes) : Conversation σ :=
  { conversation with session := { conversation.session with world := world } }

/-- What a call to receive does with what the socket gives it; `rest` is still on its way. -/
def receive (conversation : Conversation σ) (options : ClientOptions) (given : List Received)
    (rest : Bytes) : Conversation σ :=
  let received := receiveFrame options given conversation.clientBuffer
  { conversation.setWorld
      (conversation.session.world.1, received.2.2.flatMap Received.bytes ++ rest) with
    clientBuffer := received.2.1
    returned := if received.1 = .waiting then conversation.returned
      else conversation.returned ++ [received.1] }

inductive Action
  | call (request : Frame)
  | serve
  | elsewhere
  | receive
  | hangup
deriving DecidableEq

/-- A client makes one call after the other: it sends its request and receives until a frame is
complete. The connection handles what it receives, in pieces of any size, and other connections
change the world in between. -/
inductive Step (server : ServerOptions) (client : ClientOptions) (host : Host σ) :
    Conversation σ → Action → Conversation σ → Prop
  | call {c : Conversation σ} (hidle : c.returned.length = c.calls.length)
      (hrequest : request.type.isRequest = true) (hflags : request.flags = 0)
      (hencoded : encodeFrame request client.maxPayloadBytes = .ok wire) :
      Step server client host c (.call request)
        { c with calls := c.calls ++ [request], toServer := c.toServer ++ wire }
  | serve {c : Conversation σ} (hserving : c.serving = true) (hbytes : c.toServer = bytes ++ rest)
      (hsome : bytes ≠ []) (hmost : bytes.length ≤ kReceiveChunkBytes)
      (hresult : handleConnection server host.wired [.chunk bytes] c.serverBuffer c.session =
        result) :
      Step server client host c .serve
        { c with
          toServer := rest
          serverBuffer := result.buffer
          session := result.session
          serving := !(result.overflowed || result.session.finish) }
  | elsewhere {c : Conversation σ} (world : σ) :
      Step server client host c .elsewhere (c.setWorld (world, c.toClient))
  | receive {c : Conversation σ} (hwaiting : c.returned.length < c.calls.length)
      (hbytes : c.toClient = bytes ++ rest)
      (hsome : bytes ≠ [] ∨ (receiveFrame client [] c.clientBuffer).1 ≠ .waiting) :
      Step server client host c .receive (c.receive client [.chunk bytes] rest)
  | hangup {c : Conversation σ} (hwaiting : c.returned.length < c.calls.length)
      (hserving : c.serving = false) (hbytes : c.toClient = []) :
      Step server client host c .hangup (c.receive client [.closed] [])

/-- A call is answered as the server stood at a moment between the call and its return. -/
def Answered (server : ServerOptions) (client : ClientOptions) (host : Host σ)
    (start : Conversation σ) (actions : List Action) (c : Conversation σ) (index : Nat)
    (response : Frame) : Prop :=
  ∃ (before after : List Action) (moment : Conversation σ), actions = before ++ after ∧
    Labelled.Run (Step server client host) start before moment ∧
    Labelled.Run (Step server client host) moment after c ∧
    moment.calls.length = index + 1 ∧ moment.returned.length = index ∧
    ∃ request, c.calls[index]? = some request ∧ request.type.isRequest = true ∧
      response = host.answer request moment.session.world.1

section

variable {server : ServerOptions} {client : ClientOptions} {host : Host σ}
  {start : Conversation σ}

theorem Answered.step {c c' : Conversation σ}
    (h : Answered server client host start actions c index response)
    (hcalls : c'.calls[index]? = c.calls[index]?) (hstep : Step server client host c action c') :
    Answered server client host start (actions ++ [action]) c' index response := by
  obtain ⟨before, after, moment, rfl, hbefore, hafter, hcount, hreturned, request, hcall,
    hrequest, hresponse⟩ := h
  refine ⟨before, after ++ [action], moment, List.append_assoc .., hbefore, hafter.snoc hstep,
    hcount, hreturned, request, hcalls.trans hcall, hrequest, hresponse⟩

theorem wired_answer (host : Host σ) (request : Frame) (world : σ × Bytes) :
    host.wired.answer request world = host.answer request world.1 ∧
      host.wired.settle request world = (host.settle request world.1, world.2) := by
  have hpush : (host.wired.push request.payload world).answer =
        (host.push request.payload world.1).answer ∧
      (host.wired.push request.payload world).world =
        ((host.push request.payload world.1).world, world.2) := by
    unfold Host.push handlePush
    dsimp only [Host.wired]
    split
    · split
      · exact ⟨rfl, rfl⟩
      · exact ⟨rfl, rfl⟩
    · exact ⟨rfl, rfl⟩
  unfold Host.answer Host.settle
  rw [hpush.1, hpush.2]
  refine ⟨rfl, ?_⟩
  split
  · rfl
  · rfl

theorem answer_flags (host : Host σ) (request : Frame) (world : σ) :
    (host.answer request world).flags = 0 := by
  unfold Host.answer
  split
  · cases (host.push request.payload world).answer <;> rfl
  · rfl
  · rfl

/-- Where a conversation stands: no call is outstanding; or its request is on its way, or its
answer; or the answer was too long for a frame, and none is sent. -/
inductive Phase (server : ServerOptions) (client : ClientOptions) (host : Host σ)
    (start : Conversation σ) (actions : List Action) (c : Conversation σ) : Prop
  | idle (hcalls : c.returned.length = c.calls.length) (hsent : c.serverBuffer ++ c.toServer = [])
      (hback : c.clientBuffer ++ c.toClient = [])
  | requested (hcalls : c.calls = before ++ [request])
      (hreturned : c.returned.length = before.length)
      (hlegal : request.Legal server.maxPayloadBytes) (hrequest : request.type.isRequest = true)
      (hsent : c.serverBuffer ++ c.toServer = request.wire)
      (hmissing : c.serverBuffer.length < request.wire.length)
      (hback : c.clientBuffer ++ c.toClient = [])
  | answered (hcalls : c.calls.length = c.returned.length + 1)
      (hsent : c.serverBuffer ++ c.toServer = [])
      (hlegal : response.Legal client.maxPayloadBytes)
      (hback : c.clientBuffer ++ c.toClient = response.wire)
      (hmissing : c.clientBuffer.length < response.wire.length)
      (hanswered : Answered server client host start actions c c.returned.length response)
  | unanswered (hcalls : c.calls.length = c.returned.length + 1)
      (hsent : c.serverBuffer ++ c.toServer = []) (hback : c.clientBuffer ++ c.toClient = [])
      (hlong : server.maxPayloadBytes < response.payload.length)
      (hanswered : Answered server client host start actions c c.returned.length response)

/-- What every reachable state of a conversation keeps. -/
structure Sound (server : ServerOptions) (client : ClientOptions) (host : Host σ)
    (start : Conversation σ) (actions : List Action) (c : Conversation σ) : Prop where
  serving : c.serving = true
  going : c.session.finish = false
  within : c.returned.length ≤ c.calls.length
  returned : ∀ index receipt, c.returned[index]? = some receipt →
    ∃ response, receipt = .frame response ∧
      Answered server client host start actions c index response
  phase : Phase server client host start actions c
  asked : actions.count .serve + c.toServer.length ≤
    (c.calls.map fun request => request.wire.length).sum
  delivered : actions.count .receive + c.toClient.length ≤
    (if c.serverBuffer ++ c.toServer = [] then c.calls.length else c.returned.length) *
      (kFrameHeaderSize + server.maxPayloadBytes)

theorem handleConnection_one {request : Frame} {session : Session (σ × Bytes)}
    {buffer bytes : Bytes}
    (hlegal : request.Legal server.maxPayloadBytes) (hrequest : request.type.isRequest = true)
    (hgoing : session.finish = false) (hsent : buffer ++ (bytes ++ rest) = request.wire)
    (hbound : kFrameHeaderSize + server.maxPayloadBytes ≤ server.maxReadBufferBytes) :
    let result := handleConnection server host.wired [.chunk bytes] buffer session
    result.overflowed = false ∧ result.session.finish = false ∧
      ((result.session = session ∧ result.buffer ++ rest = request.wire ∧
          result.buffer.length < request.wire.length) ∨
        (result.buffer = [] ∧ rest = [] ∧
          ((server.maxPayloadBytes < (host.answer request session.world.1).payload.length ∧
              result.session.world.2 = session.world.2) ∨
            ((host.answer request session.world.1).payload.length ≤ server.maxPayloadBytes ∧
              result.session.world.2 =
                session.world.2 ++ (host.answer request session.world.1).wire)))) := by
  intro result
  have hwire := request.wire_length
  have hsize := hlegal.size
  have hroom : ¬(buffer ++ bytes).length > server.maxReadBufferBytes := by
    rw [← List.append_assoc] at hsent
    have hlength := congrArg List.length hsent
    rw [List.length_append, hwire] at hlength
    omega
  have hholds : Holds Frame.wire [request] (buffer ++ bytes) rest := by
    rw [Holds, List.append_assoc, hsent]
    simp
  have hresult : result = handleConnection server host.wired [.chunk bytes] buffer session := rfl
  rw [handleConnection] at hresult
  simp only [Received.ok, Received.bytes, Received.isClosed, Bool.not_true, Bool.false_eq_true,
    ↓reduceIte, Bool.or_false, if_neg hroom] at hresult
  obtain ⟨now, later, hsplit, hsession, hlater, hstop⟩ := decodeLoop_holds host.wired session
    (fun frame hmem => by rw [List.mem_singleton.1 hmem]; exact hlegal) hholds (Nat.lt_succ_self _)
  have hlooped : result.buffer = (decodeLoop server host.wired ((buffer ++ bytes).length + 1)
        (buffer ++ bytes) session).1 ∧
      result.session = serveAll server host.wired now session ∧ result.overflowed = false := by
    rw [hresult, ← hsession]
    split
    · exact ⟨rfl, rfl, rfl⟩
    · rw [handleConnection]
      exact ⟨rfl, rfl, rfl⟩
  obtain ⟨hbuffer, hserved, hinBound⟩ := hlooped
  rw [← hbuffer] at hlater hstop
  have hopen : result.session.finish = false := by
    rw [hserved, serveAll_finish, hgoing]
    intro frame hmem
    have hmem : frame ∈ [request] := by
      rw [hsplit]
      exact List.mem_append_left _ hmem
    rw [List.mem_singleton.1 hmem]
    exact not_shutdown hrequest
  refine ⟨hinBound, hopen, ?_⟩
  rcases List.append_eq_singleton_iff.1 hsplit.symm with ⟨rfl, rfl⟩ | ⟨rfl, rfl⟩
  · left
    refine ⟨hserved, hlater.trans (by simp), ?_⟩
    rcases hstop trivial with ⟨-, hnone⟩ | ⟨item, more, hitem, -, hlength⟩
    · cases hnone
    · rw [(List.cons.inj hitem).1]
      exact hlength
  · right
    obtain ⟨hempty, hrest⟩ := List.append_eq_nil_iff.1 hlater
    refine ⟨hempty, hrest, ?_⟩
    obtain ⟨hanswer, hworld⟩ := respond_request host.wired hrequest (taken request session)
    obtain ⟨hsame, hsettled⟩ := wired_answer host request (taken request session).world
    rw [hsame] at hanswer
    rw [hsettled] at hworld
    rcases serve_cases server host.wired request session with
      ⟨hlong, -, hnext⟩ | ⟨-, hlost, -⟩ | ⟨hshort, -, -, hnext⟩
    · left
      rw [hanswer] at hlong
      refine ⟨hlong, ?_⟩
      rw [hserved]
      show (serve server host.wired request session).2.world.2 = _
      rw [hnext, hworld]
      rfl
    · cases hlost
    · right
      rw [hanswer] at hshort
      refine ⟨hshort, ?_⟩
      rw [hserved]
      show (serve server host.wired request session).2.world.2 = _
      rw [hnext, hworld, hanswer]
      rfl

theorem receiveFrame_part {response : Frame} {buffer bytes : Bytes}
    (hlegal : response.Legal client.maxPayloadBytes)
    (hback : buffer ++ (bytes ++ rest) = response.wire)
    (hmissing : buffer.length < response.wire.length)
    (hbound : kFrameHeaderSize + client.maxPayloadBytes ≤ client.maxResponseBytes) :
    (receiveFrame client [.chunk bytes] buffer = (.waiting, buffer ++ bytes, []) ∧
        (buffer ++ bytes).length < response.wire.length) ∨
      (receiveFrame client [.chunk bytes] buffer = (.frame response, [], []) ∧ rest = []) := by
  have hwire := response.wire_length
  have hsize := hlegal.size
  have hfront : buffer <+: response.wire := ⟨_, hback⟩
  have hmore : buffer ++ bytes <+: response.wire := ⟨rest, by rw [List.append_assoc, hback]⟩
  rw [receiveFrame_chunk (hlegal.decode_front hfront hmissing) (by omega)]
  by_cases hlength : (buffer ++ bytes).length < response.wire.length
  · left
    refine ⟨?_, hlength⟩
    rw [receiveFrame.eq_def, hlegal.decode_front hmore hlength]
    exact if_neg (Nat.not_lt.2 (by omega))
  · right
    have hall : buffer ++ bytes = response.wire :=
      hmore.eq_of_length (Nat.le_antisymm hmore.length_le (Nat.not_lt.1 hlength))
    have hdecoded := hlegal.decode_wire []
    rw [List.append_nil] at hdecoded
    refine ⟨?_, ?_⟩
    · rw [hall, receiveFrame_complete hdecoded, List.drop_length]
    · rw [← List.append_assoc, hall] at hback
      simpa using hback

/-- The bounds under which a request and its answer pass both ends. -/
structure Bounded (server : ServerOptions) (client : ClientOptions) : Prop where
  payload : client.maxPayloadBytes = server.maxPayloadBytes
  width : server.maxPayloadBytes < 2 ^ 32
  server : kFrameHeaderSize + server.maxPayloadBytes ≤ server.maxReadBufferBytes
  client : kFrameHeaderSize + client.maxPayloadBytes ≤ client.maxResponseBytes

theorem Sound.opened (world : σ) : Sound server client host (opened world) [] (opened world) := by
  refine ⟨rfl, rfl, Nat.le_refl _, ?_, .idle rfl rfl rfl, Nat.le_refl _, Nat.zero_le _⟩
  intro index receipt hreceipt
  simp [Conversation.opened] at hreceipt

theorem count_other {actions : List Action} (hne : action ≠ other) :
    (actions ++ [action]).count other = actions.count other := by
  rw [List.count_append, List.count_singleton, if_neg (by simpa using hne), Nat.add_zero]

theorem count_self (actions : List Action) (action : Action) :
    (actions ++ [action]).count action = actions.count action + 1 := by
  rw [List.count_append, List.count_singleton_self]

theorem calls_kept {c : Conversation σ} {index : Nat} (hwithin : c.returned.length ≤ c.calls.length)
    (hreceipt : c.returned[index]? = some receipt) (more : List Frame) :
    (c.calls ++ more)[index]? = c.calls[index]? := by
  have hindex := (List.getElem?_eq_some_iff.1 hreceipt).1
  exact List.getElem?_append_left (hindex.trans_le hwithin)

section

variable {c c' : Conversation σ} (h : Sound server client host start actions c)

include h

theorem Sound.call (hidle : c.returned.length = c.calls.length)
    (hrequest : request.type.isRequest = true) (hflags : request.flags = 0)
    (hbounds : Bounded server client)
    (hencoded : encodeFrame request client.maxPayloadBytes = .ok wire) :
    Sound server client host start (actions ++ [.call request])
      { c with calls := c.calls ++ [request], toServer := c.toServer ++ wire } := by
  have hstep : Step server client host c (.call request)
      { c with calls := c.calls ++ [request], toServer := c.toServer ++ wire } :=
    .call hidle hrequest hflags hencoded
  have hasked := h.asked
  have hdelivered := h.delivered
  unfold encodeFrame at hencoded
  split at hencoded
  · cases hencoded
  rename_i hsize
  cases hencoded
  rw [hbounds.payload, Nat.not_lt] at hsize
  have hlegal : request.Legal server.maxPayloadBytes :=
    ⟨hflags, hsize, hsize.trans_lt hbounds.width⟩
  cases h.phase with
  | requested hcalls hreturned =>
    rw [hcalls, List.length_append, hreturned] at hidle
    simp at hidle
  | answered hcalls => omega
  | unanswered hcalls => omega
  | idle _ hsent hback =>
    obtain ⟨hbuffer, hnone⟩ := List.append_eq_nil_iff.1 hsent
    have hwire := request.wire_pos
    refine ⟨h.serving, h.going, ?_, ?_, ?_, ?_, ?_⟩
    · rw [List.length_append]
      exact h.within.trans (Nat.le_add_right _ _)
    · intro index receipt hreceipt
      obtain ⟨response, hresponse, hanswered⟩ := h.returned index receipt hreceipt
      exact ⟨response, hresponse, hanswered.step (calls_kept h.within hreceipt _) hstep⟩
    · refine .requested rfl hidle hlegal hrequest ?_ ?_ hback
      · simp only [hbuffer, hnone]
        rfl
      · rw [hbuffer]
        exact hwire
    · rw [count_other (by simp)]
      show _ + (c.toServer ++ request.wire).length ≤ _
      rw [List.map_append, List.sum_append, List.length_append, List.map_singleton,
        List.sum_singleton]
      omega
    · rw [if_pos hsent, ← hidle] at hdelivered
      rw [count_other (by simp), if_neg]
      · exact hdelivered
      · rw [hbuffer, hnone]
        show ¬request.wire = []
        exact List.ne_nil_of_length_pos hwire

theorem Sound.serve (hrun : Labelled.Run (Step server client host) start actions c)
    (hbytes : c.toServer = bytes ++ rest) (hsome : bytes ≠ [])
    (hmost : bytes.length ≤ kReceiveChunkBytes) (hbounds : Bounded server client)
    (hresult : handleConnection server host.wired [.chunk bytes] c.serverBuffer c.session =
      result) :
    Sound server client host start (actions ++ [.serve])
      { c with
        toServer := rest
        serverBuffer := result.buffer
        session := result.session
        serving := !(result.overflowed || result.session.finish) } := by
  have hstep : Step server client host c .serve
      { c with
        toServer := rest
        serverBuffer := result.buffer
        session := result.session
        serving := !(result.overflowed || result.session.finish) } :=
    .serve h.serving hbytes hsome hmost hresult
  have hbusy : c.serverBuffer ++ c.toServer ≠ [] := by
    intro hnone
    rw [(List.append_eq_nil_iff.1 hnone).2] at hbytes
    exact hsome (List.append_eq_nil_iff.1 hbytes.symm).1
  have hreturned (index : Nat) (receipt : Receipt) (hreceipt : c.returned[index]? = some receipt) :
      ∃ response, receipt = .frame response ∧
        Answered server client host start (actions ++ [.serve])
          { c with
            toServer := rest
            serverBuffer := result.buffer
            session := result.session
            serving := !(result.overflowed || result.session.finish) } index response := by
    obtain ⟨response, hresponse, hanswered⟩ := h.returned index receipt hreceipt
    exact ⟨response, hresponse, hanswered.step rfl hstep⟩
  cases h.phase with
  | idle _ hsent => exact absurd hsent hbusy
  | answered _ hsent => exact absurd hsent hbusy
  | unanswered _ hsent => exact absurd hsent hbusy
  | requested hcalls hcount hlegal hrequest hsent hmissing hback =>
    rename_i before request
    have hlast : c.calls.length = c.returned.length + 1 := by
      rw [hcalls, hcount, List.length_append]
      rfl
    rw [hbytes] at hsent
    obtain ⟨hinBound, hopen, hround⟩ := handleConnection_one hlegal hrequest h.going hsent
      hbounds.server
    rw [hresult] at hinBound hopen hround
    obtain ⟨hclient, hclientless⟩ := List.append_eq_nil_iff.1 hback
    have hanswered : Answered server client host start (actions ++ [.serve])
        { c with
          toServer := rest
          serverBuffer := result.buffer
          session := result.session
          serving := !(result.overflowed || result.session.finish) } c.returned.length
        (host.answer request c.session.world.1) := by
      refine ⟨actions, [.serve], c, rfl, hrun, .snoc .nil hstep, hlast, rfl, request, ?_,
        hrequest, rfl⟩
      show c.calls[c.returned.length]? = some request
      rw [hcalls, hcount]
      simp
    have hserving : (!(result.overflowed || result.session.finish)) = true := by
      rw [hinBound, hopen]
      rfl
    have hasked : (actions ++ [Action.serve]).count .serve + rest.length ≤
        (c.calls.map fun request => request.wire.length).sum := by
      have hbefore := h.asked
      have hlength := List.length_pos_iff.2 hsome
      rw [hbytes, List.length_append] at hbefore
      rw [count_self]
      omega
    have hdelivered := h.delivered
    have hcounted : (actions ++ [Action.serve]).count .receive = actions.count .receive :=
      count_other (by decide)
    rw [if_neg hbusy, show c.toClient = [] from hclientless, ← hcounted] at hdelivered
    rcases hround with ⟨hsame, hrest, hshort⟩ | ⟨hempty, hnone, hlong | ⟨hfits, hwire⟩⟩
    · have hquiet : result.session.world.2 = [] := by
        rw [hsame]
        exact hclientless
      refine ⟨hserving, hopen, h.within, hreturned, ?_, hasked, ?_⟩
      · refine .requested hcalls hcount hlegal hrequest hrest hshort ?_
        show c.clientBuffer ++ result.session.world.2 = []
        rw [hclient, hquiet]
        rfl
      · show _ + result.session.world.2.length ≤ (if result.buffer ++ rest = [] then _ else _) * _
        rw [hquiet, if_neg (by rw [hrest]; exact List.ne_nil_of_length_pos request.wire_pos)]
        exact hdelivered
    · have hquiet : result.session.world.2 = [] := hlong.2.trans hclientless
      have hsent : result.buffer ++ rest = [] := by
        rw [hempty, hnone]
        rfl
      refine ⟨hserving, hopen, h.within, hreturned, ?_, hasked, ?_⟩
      · refine .unanswered hlast hsent ?_ hlong.1 hanswered
        show c.clientBuffer ++ result.session.world.2 = []
        rw [hclient, hquiet]
        rfl
      · show _ + result.session.world.2.length ≤ (if result.buffer ++ rest = [] then _ else _) * _
        rw [hquiet, if_pos hsent]
        exact hdelivered.trans (Nat.mul_le_mul_right _ h.within)
    · have hback : result.session.world.2 = (host.answer request c.session.world.1).wire := by
        rw [hwire, show c.session.world.2 = [] from hclientless]
        rfl
      have hsent : result.buffer ++ rest = [] := by
        rw [hempty, hnone]
        rfl
      refine ⟨hserving, hopen, h.within, hreturned, ?_, hasked, ?_⟩
      · refine .answered hlast hsent ⟨answer_flags _ _ _, ?_, ?_⟩ ?_ ?_ hanswered
        · rw [hbounds.payload]
          exact hfits
        · exact hfits.trans_lt hbounds.width
        · show c.clientBuffer ++ result.session.world.2 = _
          rw [hback, hclient]
          rfl
        · rw [hclient]
          exact Frame.wire_pos _
      · show _ + result.session.world.2.length ≤ (if result.buffer ++ rest = [] then _ else _) * _
        rw [hback, if_pos hsent, hlast, Nat.succ_mul, Frame.wire_length]
        exact Nat.add_le_add hdelivered (Nat.add_le_add_left hfits _)

theorem Sound.elsewhere (world : σ) :
    Sound server client host start (actions ++ [.elsewhere]) (c.setWorld (world, c.toClient)) := by
  have hstep : Step server client host c .elsewhere (c.setWorld (world, c.toClient)) :=
    .elsewhere world
  refine ⟨h.serving, h.going, h.within, ?_, ?_, ?_, ?_⟩
  · intro index receipt hreceipt
    obtain ⟨response, hresponse, hanswered⟩ := h.returned index receipt hreceipt
    exact ⟨response, hresponse, hanswered.step rfl hstep⟩
  · cases h.phase with
    | idle hcalls hsent hback => exact .idle hcalls hsent hback
    | requested hcalls hcount hlegal hrequest hsent hmissing hback =>
      exact .requested hcalls hcount hlegal hrequest hsent hmissing hback
    | answered hcalls hsent hlegal hback hmissing hanswered =>
      exact .answered hcalls hsent hlegal hback hmissing (hanswered.step rfl hstep)
    | unanswered hcalls hsent hback hlong hanswered =>
      exact .unanswered hcalls hsent hback hlong (hanswered.step rfl hstep)
  · rw [count_other (by simp)]
    exact h.asked
  · rw [count_other (by simp)]
    exact h.delivered

theorem Sound.receive (hwaiting : c.returned.length < c.calls.length)
    (hbytes : c.toClient = bytes ++ rest)
    (hsome : bytes ≠ [] ∨ (receiveFrame client [] c.clientBuffer).1 ≠ .waiting)
    (hbounds : Bounded server client) :
    Sound server client host start (actions ++ [.receive])
      (c.receive client [.chunk bytes] rest) := by
  have hstep : Step server client host c .receive (c.receive client [.chunk bytes] rest) :=
    .receive hwaiting hbytes hsome
  have hnothing (hback : c.clientBuffer ++ c.toClient = []) : False := by
    obtain ⟨hbuffer, hnone⟩ := List.append_eq_nil_iff.1 hback
    rw [hnone] at hbytes
    rw [hbuffer] at hsome
    rcases hsome with hsome | hready
    · exact hsome (List.append_eq_nil_iff.1 hbytes.symm).1
    · exact hready (by rw [receiveFrame.eq_def]; rfl)
  cases h.phase with
  | idle _ _ hback => exact (hnothing hback).elim
  | requested _ _ _ _ _ _ hback => exact (hnothing hback).elim
  | unanswered _ _ hback => exact (hnothing hback).elim
  | answered hcalls hsent hlegal hback hmissing hanswered =>
    rename_i response
    rw [hbytes] at hback
    have hkept (index : Nat) (receipt : Receipt)
        (hreceipt : c.returned[index]? = some receipt) :
        ∃ response, receipt = .frame response ∧
          Answered server client host start (actions ++ [.receive])
            (c.receive client [.chunk bytes] rest) index response := by
      obtain ⟨response, hresponse, hanswered⟩ := h.returned index receipt hreceipt
      exact ⟨response, hresponse, hanswered.step rfl hstep⟩
    have hnext : Answered server client host start (actions ++ [.receive])
        (c.receive client [.chunk bytes] rest) c.returned.length response :=
      hanswered.step rfl hstep
    have hgiven : 0 < bytes.length := by
      rw [List.length_pos_iff]
      intro hnone
      rcases hsome with hsome | hready
      · exact hsome hnone
      · apply hready
        rw [receiveFrame.eq_def, hlegal.decode_front ⟨_, hback⟩ hmissing]
        have hbound := hbounds.client
        have hwire := response.wire_length
        have hsize := hlegal.size
        exact congrArg Prod.fst (if_neg (Nat.not_lt.2 (by omega)))
    have hasked : (actions ++ [Action.receive]).count .serve + c.toServer.length ≤
        (c.calls.map fun request => request.wire.length).sum := by
      rw [count_other (by decide)]
      exact h.asked
    have hdelivered : (actions ++ [Action.receive]).count .receive + rest.length ≤
        c.calls.length * (kFrameHeaderSize + server.maxPayloadBytes) := by
      have hbefore := h.delivered
      rw [if_pos hsent, hbytes, List.length_append] at hbefore
      rw [count_self]
      omega
    rcases receiveFrame_part hlegal hback hmissing hbounds.client with
      ⟨hreceived, hshort⟩ | ⟨hreceived, hnone⟩
    · have hc' : c.receive client [.chunk bytes] rest =
          { c.setWorld (c.session.world.1, rest) with
            clientBuffer := c.clientBuffer ++ bytes } := by
        rw [Conversation.receive, hreceived]
        rfl
      rw [hc'] at hnext hkept ⊢
      refine ⟨h.serving, h.going, h.within, hkept, ?_, hasked, ?_⟩
      · exact .answered hcalls hsent hlegal ((List.append_assoc ..).trans hback) hshort hnext
      · exact hdelivered.trans_eq (congrArg (· * _) (if_pos hsent).symm)
    · have hc' : c.receive client [.chunk bytes] rest =
          { c.setWorld (c.session.world.1, []) with
            clientBuffer := []
            returned := c.returned ++ [.frame response] } := by
        rw [Conversation.receive, hreceived, hnone]
        rfl
      rw [hc'] at hnext hkept ⊢
      have hcount : (c.returned ++ [Receipt.frame response]).length = c.calls.length := by
        rw [hcalls, List.length_append]
        rfl
      rw [hnone] at hdelivered
      refine ⟨h.serving, h.going, Nat.le_of_eq hcount, ?_, .idle hcount hsent rfl, hasked,
        hdelivered.trans_eq (congrArg (· * _) (if_pos hsent).symm)⟩
      intro index receipt hreceipt
      rw [List.getElem?_append] at hreceipt
      split at hreceipt
      · exact hkept index receipt hreceipt
      · rename_i hindex
        obtain ⟨hlast, hsame⟩ := List.getElem?_eq_some_iff.1 hreceipt
        rw [List.length_singleton] at hlast
        have hindex : index = c.returned.length := by omega
        rw [List.getElem_singleton] at hsame
        rw [hindex]
        exact ⟨response, hsame.symm, hnext⟩

theorem Sound.step (hrun : Labelled.Run (Step server client host) start actions c)
    (hbounds : Bounded server client) (hstep : Step server client host c action c') :
    Sound server client host start (actions ++ [action]) c' := by
  cases hstep with
  | call hidle hrequest hflags hencoded => exact h.call hidle hrequest hflags hbounds hencoded
  | serve hserving hbytes hsome hmost hresult =>
    exact h.serve hrun hbytes hsome hmost hbounds hresult
  | elsewhere world => exact h.elsewhere world
  | receive hwaiting hbytes hsome => exact h.receive hwaiting hbytes hsome hbounds
  | hangup _ hserving =>
    rw [h.serving] at hserving
    cases hserving

end

end

/-- A conversation in which the connection has received so many of the bytes on their way. -/
def served (c : Conversation σ) (server : ServerOptions) (host : Host σ) (count : Nat) :
    Conversation σ :=
  let result := handleConnection server host.wired [.chunk (c.toServer.take count)] c.serverBuffer
    c.session
  { c with
    toServer := c.toServer.drop count
    serverBuffer := result.buffer
    session := result.session
    serving := !(result.overflowed || result.session.finish) }

end Conversation

end LinkObservatory
