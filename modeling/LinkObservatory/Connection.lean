import LinkObservatory.Ingest
import LinkObservatory.StateReport
import LinkObservatory.Lib.Reassembly

namespace LinkObservatory
set_option autoImplicit true

open Reassembly

structure ServerOptions where
  maxPayloadBytes : Nat := 1024 * 1024
  maxReadBufferBytes : Nat := 4 * 1024 * 1024

structure ServerStatistics where
  framesReceived : Nat := 0
  framesSent : Nat := 0
  pushes : Nat := 0
  queries : Nat := 0
  pings : Nat := 0
  shutdowns : Nat := 0
  protocolErrors : Nat := 0
  recordsSubmitted : Nat := 0
  recordsRejected : Nat := 0
  payloadBytesReceived : Nat := 0

/-- What a connection acts on: the observatory with its clock and its queue, and the socket. -/
structure Host (σ : Type) where
  observatory : σ → Observatory
  now : σ → TimePoint
  submitBatch : List ParsedRecord → σ → Status × σ
  sendAll : Bytes → σ → Bool × σ

/-- A connection apart from its buffer, with the frames that were decoded and the frames that were
sent. -/
structure Session (σ : Type) where
  world : σ
  stats : ServerStatistics := {}
  finish : Bool := false
  decoded : List Frame := []
  sent : List Frame := []

namespace Session

variable (options : ServerOptions) (host : Host σ)

/-- The response to a frame, by its type. -/
def respond (frame : Frame) (session : Session σ) : Frame × Session σ :=
  let stats := session.stats
  match frame.type with
  | .ping =>
    ({ type := .pong, payload := ascii "ok" },
      { session with stats := { stats with pings := stats.pings + 1 } })
  | .pushRecords =>
    let policy := (host.observatory session.world).config.policy
    let result := handlePush policy host.submitBatch frame.payload session.world
    let session := { session with world := result.world }
    match result.answer with
    | .failed _ => (result.answer.frame, session)
    | .ack submitted rejected _ =>
      (result.answer.frame,
        { session with
          stats :=
            { stats with
              pushes := stats.pushes + 1
              recordsSubmitted := stats.recordsSubmitted + submitted
              recordsRejected := stats.recordsRejected + rejected } })
  | .queryState =>
    ({ type := .stateReport
       payload := stateReport (host.observatory session.world) (host.now session.world)
        (trimAscii frame.payload) },
      { session with stats := { stats with queries := stats.queries + 1 } })
  | .shutdown =>
    ({ type := .pong, payload := ascii "shutdown" },
      { session with stats := { stats with shutdowns := stats.shutdowns + 1 }, finish := true })
  | .pong | .pushAck | .stateReport | .errorReport =>
    ({ type := .errorReport
       payload := errorPayload (.of .unsupported
        "client sent a frame type that only a server may send") },
      { session with stats := { stats with protocolErrors := stats.protocolErrors + 1 } })

/-- The session in which a decoded frame is answered. -/
def taken (frame : Frame) (session : Session σ) : Session σ :=
  { session with
    decoded := session.decoded ++ [frame]
    stats :=
      { session.stats with
        framesReceived := session.stats.framesReceived + 1
        payloadBytesReceived := session.stats.payloadBytesReceived + frame.payload.length } }

/-- What a decoded frame leads to; the loop ends early when the response cannot be encoded or
sent. -/
def serve (frame : Frame) (session : Session σ) : Bool × Session σ :=
  let answered := respond host frame (taken frame session)
  let session := answered.2
  let stats := session.stats
  match encodeFrame answered.1 options.maxPayloadBytes with
  | .error _ =>
    (false, { session with stats := { stats with protocolErrors := stats.protocolErrors + 1 } })
  | .ok encoded =>
    let sent := host.sendAll encoded session.world
    if !sent.1 then (false, { session with world := sent.2 })
    else
      (!session.finish,
        { session with
          world := sent.2
          stats := { stats with framesSent := stats.framesSent + 1 }
          sent := session.sent ++ [answered.1] })

/-- A stream that cannot be decoded ends the connection with a report. -/
def reject (status : Status) (session : Session σ) : Session σ :=
  let stats := session.stats
  let session :=
    { session with
      stats := { stats with protocolErrors := stats.protocolErrors + 1 }
      finish := true }
  match encodeFrame { type := .errorReport, payload := errorPayload status }
      options.maxPayloadBytes with
  | .error _ => session
  | .ok encoded => { session with world := (host.sendAll encoded session.world).2 }

/-- The inner loop over the frames in the buffer; the fuel bounds the bytes that are left. -/
def decodeLoop : Nat → Bytes → Session σ → Bytes × Session σ
  | 0, buffer, session => (buffer, session)
  | fuel + 1, buffer, session =>
    let decoded := decodeFrame buffer options.maxPayloadBytes
    if !decoded.status.ok then (buffer, reject options host decoded.status session)
    else if !decoded.complete then (buffer, session)
    else
      let served := serve options host decoded.frame session
      let buffer := buffer.drop decoded.consumed
      if served.1 then decodeLoop fuel buffer served.2 else (buffer, served.2)

end Session

/-- What one call to receive gives: bytes, the end of the stream or a failure. -/
inductive Received
  | chunk (bytes : Bytes)
  | closed
  | failed (status : Status)

def Received.bytes : Received → Bytes
  | .chunk bytes => bytes
  | .closed | .failed _ => []

def Received.ok : Received → Bool
  | .failed _ => false
  | .chunk _ | .closed => true

def Received.isClosed : Received → Bool
  | .closed => true
  | .chunk _ | .failed _ => false

/-- What becomes of a connection, and whether its buffer outgrew its bound. -/
structure ConnectionResult (σ : Type) where
  buffer : Bytes
  session : Session σ
  overflowed : Bool := false

/-- The outer loop; with nothing received yet the connection waits. -/
def handleConnection (options : ServerOptions) (host : Host σ) :
    List Received → Bytes → Session σ → ConnectionResult σ
  | [], buffer, session => { buffer, session }
  | received :: rest, buffer, session =>
    if !received.ok then { buffer, session }
    else
      let buffer := buffer ++ received.bytes
      if buffer.length > options.maxReadBufferBytes then
        let stats := session.stats
        { buffer
          session :=
            { session with stats := { stats with protocolErrors := stats.protocolErrors + 1 } }
          overflowed := true }
      else
        let looped := session.decodeLoop options host (buffer.length + 1) buffer
        if looped.2.finish || received.isClosed then
          { buffer := looped.1, session := looped.2 }
        else handleConnection options host rest looped.1 looped.2

/-- The types that only a server may send. -/
def FrameType.serverOnly : FrameType → Bool
  | .pong | .pushAck | .stateReport | .errorReport => true
  | .ping | .pushRecords | .queryState | .shutdown => false

namespace Session

variable {options : ServerOptions} {host : Host σ}

theorem respond_frame (host : Host σ) (frame : Frame) (session : Session σ) :
    (respond host frame session).2.decoded = session.decoded ∧
      (respond host frame session).2.sent = session.sent ∧
      (respond host frame session).2.finish =
        (session.finish || decide (frame.type = .shutdown)) ∧
      (respond host frame session).2.stats.protocolErrors =
        session.stats.protocolErrors + if frame.type.serverOnly then 1 else 0 := by
  obtain ⟨type, flags, payload⟩ := frame
  cases type with
  | pushRecords =>
    simp only [respond]
    cases (handlePush (host.observatory session.world).config.policy host.submitBatch payload
        session.world).answer with
    | failed status => exact ⟨rfl, rfl, (Bool.or_false _).symm, rfl⟩
    | ack submitted rejected errors => exact ⟨rfl, rfl, (Bool.or_false _).symm, rfl⟩
  | shutdown => exact ⟨rfl, rfl, (Bool.or_true _).symm, rfl⟩
  | ping => exact ⟨rfl, rfl, (Bool.or_false _).symm, rfl⟩
  | queryState => exact ⟨rfl, rfl, (Bool.or_false _).symm, rfl⟩
  | pong => exact ⟨rfl, rfl, (Bool.or_false _).symm, rfl⟩
  | pushAck => exact ⟨rfl, rfl, (Bool.or_false _).symm, rfl⟩
  | stateReport => exact ⟨rfl, rfl, (Bool.or_false _).symm, rfl⟩
  | errorReport => exact ⟨rfl, rfl, (Bool.or_false _).symm, rfl⟩

/-- Serving a frame: its response is refused by the encoder, is lost, or goes out. -/
theorem serve_cases (options : ServerOptions) (host : Host σ) (frame : Frame)
    (session : Session σ) :
    let answered := respond host frame (taken frame session)
    (answered.1.payload.length > options.maxPayloadBytes ∧
        (serve options host frame session).1 = false ∧
        (serve options host frame session).2 =
          { answered.2 with
            stats :=
              { answered.2.stats with protocolErrors := answered.2.stats.protocolErrors + 1 } }) ∨
      (answered.1.payload.length ≤ options.maxPayloadBytes ∧
        (host.sendAll answered.1.wire answered.2.world).1 = false ∧
        (serve options host frame session).1 = false ∧
        (serve options host frame session).2 =
          { answered.2 with world := (host.sendAll answered.1.wire answered.2.world).2 }) ∨
      (answered.1.payload.length ≤ options.maxPayloadBytes ∧
        (host.sendAll answered.1.wire answered.2.world).1 = true ∧
        (serve options host frame session).1 = !answered.2.finish ∧
        (serve options host frame session).2 =
          { answered.2 with
            world := (host.sendAll answered.1.wire answered.2.world).2
            stats := { answered.2.stats with framesSent := answered.2.stats.framesSent + 1 }
            sent := answered.2.sent ++ [answered.1] }) := by
  intro answered
  have hserve : serve options host frame session =
      match encodeFrame answered.1 options.maxPayloadBytes with
      | .error _ =>
        (false, { answered.2 with
          stats :=
            { answered.2.stats with protocolErrors := answered.2.stats.protocolErrors + 1 } })
      | .ok encoded =>
        let sent := host.sendAll encoded answered.2.world
        if !sent.1 then (false, { answered.2 with world := sent.2 })
        else
          (!answered.2.finish,
            { answered.2 with
              world := sent.2
              stats := { answered.2.stats with framesSent := answered.2.stats.framesSent + 1 }
              sent := answered.2.sent ++ [answered.1] }) := rfl
  by_cases hsize : answered.1.payload.length > options.maxPayloadBytes
  · have hencoded : encodeFrame answered.1 options.maxPayloadBytes =
        .error (.of .capacityExceeded "frame payload exceeds the configured bound") := if_pos hsize
    rw [hencoded] at hserve
    rw [hserve]
    exact .inl ⟨hsize, rfl, rfl⟩
  · have hencoded : encodeFrame answered.1 options.maxPayloadBytes = .ok answered.1.wire :=
      if_neg hsize
    rw [hencoded] at hserve
    rw [hserve]
    rw [Nat.not_lt] at hsize
    simp only
    cases hsent : (host.sendAll answered.1.wire answered.2.world).1 with
    | false => exact .inr (.inl ⟨hsize, rfl, rfl, rfl⟩)
    | true => exact .inr (.inr ⟨hsize, rfl, rfl, rfl⟩)

theorem serve_frame (frame : Frame) (session : Session σ) :
    (serve options host frame session).2.decoded = session.decoded ++ [frame] ∧
      (serve options host frame session).2.finish =
        (session.finish || decide (frame.type = .shutdown)) := by
  obtain ⟨hdecoded, -, hfinish, -⟩ := respond_frame host frame
    (taken frame session)
  rcases serve_cases options host frame session with
    ⟨-, -, h⟩ | ⟨-, -, -, h⟩ | ⟨-, -, -, h⟩
  · rw [h]
    exact ⟨hdecoded, hfinish⟩
  · rw [h]
    exact ⟨hdecoded, hfinish⟩
  · rw [h]
    exact ⟨hdecoded, hfinish⟩

theorem serve_protocolErrors {frame : Frame} {session : Session σ}
    (h : (serve options host frame session).1 = true) :
    (serve options host frame session).2.stats.protocolErrors =
      session.stats.protocolErrors + if frame.type.serverOnly then 1 else 0 := by
  obtain ⟨-, -, -, herrors⟩ := respond_frame host frame
    (taken frame session)
  rcases serve_cases options host frame session with
    ⟨-, hstop, -⟩ | ⟨-, -, hstop, -⟩ | ⟨-, -, -, hserved⟩
  · rw [h] at hstop
    cases hstop
  · rw [h] at hstop
    cases hstop
  · rw [hserved]
    exact herrors

variable (options host) in
/-- The session behind a list of frames. -/
def serveAll : List Frame → Session σ → Session σ
  | [], session => session
  | frame :: rest, session => serveAll rest (serve options host frame session).2

variable (options host) in
/-- Every response is encoded and sent, and the connection goes on. -/
def Answerable : List Frame → Session σ → Prop
  | [], _ => True
  | frame :: rest, session =>
    (serve options host frame session).1 = true ∧
      Answerable rest (serve options host frame session).2

theorem serveAll_append (before after : List Frame) (session : Session σ) :
    serveAll options host (before ++ after) session =
      serveAll options host after (serveAll options host before session) := by
  induction before generalizing session with
  | nil => rfl
  | cons frame rest ih => exact ih _

theorem Answerable.append {before after : List Frame} {session : Session σ}
    (h : Answerable options host (before ++ after) session) :
    Answerable options host before session ∧
      Answerable options host after (serveAll options host before session) := by
  induction before generalizing session with
  | nil => exact ⟨trivial, h⟩
  | cons frame rest ih =>
    obtain ⟨hframe, hrest⟩ := h
    obtain ⟨hbefore, hafter⟩ := ih hrest
    exact ⟨⟨hframe, hbefore⟩, hafter⟩

theorem serveAll_decoded (frames : List Frame) (session : Session σ) :
    (serveAll options host frames session).decoded = session.decoded ++ frames := by
  induction frames generalizing session with
  | nil => exact (List.append_nil _).symm
  | cons frame rest ih =>
    rw [serveAll, ih, (serve_frame frame session).1, List.append_assoc, List.singleton_append]

theorem serveAll_finish {frames : List Frame} {session : Session σ}
    (hshutdown : ∀ frame ∈ frames, frame.type ≠ .shutdown) :
    (serveAll options host frames session).finish = session.finish := by
  induction frames generalizing session with
  | nil => rfl
  | cons frame rest ih =>
    have hframe := hshutdown frame (List.mem_cons_self ..)
    rw [serveAll, ih fun frame hmem => hshutdown frame (List.mem_cons_of_mem _ hmem),
      (serve_frame frame session).2, decide_eq_false hframe, Bool.or_false]

theorem serveAll_protocolErrors {frames : List Frame} {session : Session σ}
    (h : Answerable options host frames session) :
    (serveAll options host frames session).stats.protocolErrors =
      session.stats.protocolErrors + frames.countP fun frame => frame.type.serverOnly := by
  induction frames generalizing session with
  | nil => rfl
  | cons frame rest ih =>
    rw [serveAll, ih h.2, serve_protocolErrors h.1, List.countP_cons]
    omega

theorem decodeLoop_holds {items : List Frame} {buffer future : Bytes} {fuel : Nat} (host : Host σ)
    (session : Session σ) (hlegal : ∀ frame ∈ items, frame.Legal options.maxPayloadBytes)
    (hholds : Holds Frame.wire items buffer future) (hfuel : buffer.length < fuel) :
    ∃ now later, items = now ++ later ∧
      (decodeLoop options host fuel buffer session).2 =
        serveAll options host now session ∧
      Holds Frame.wire later (decodeLoop options host fuel buffer session).1 future ∧
      (Answerable options host now session →
        Short Frame.wire later (decodeLoop options host fuel buffer session).1) := by
  induction fuel generalizing items buffer session with
  | zero => omega
  | succ fuel ih =>
    rcases hholds.cases with hshort | ⟨item, rest, after, rfl, rfl, hrest⟩
    · have hloop : decodeLoop options host (fuel + 1) buffer session = (buffer, session) := by
        rcases hshort with ⟨rfl, -⟩ | ⟨item, rest, rfl, hfront, hlength⟩
        · rfl
        · have hdecoded := (hlegal item (List.mem_cons_self ..)).decode_front hfront hlength
          rw [decodeLoop, hdecoded]
          rfl
      rw [hloop]
      exact ⟨[], items, rfl, rfl, hholds, fun _ => hshort⟩
    · have hdecoded := (hlegal item (List.mem_cons_self ..)).decode_wire after
      have hwire := item.wire_length
      have hheader : kFrameHeaderSize = 20 := rfl
      rw [List.length_append] at hfuel
      rw [decodeLoop, hdecoded]
      simp only [Status.ok, Bool.not_true, Bool.false_eq_true, ↓reduceIte, List.drop_left]
      cases hserved : (serve options host item session).1 with
      | false =>
        refine ⟨[item], rest, rfl, rfl, hrest, fun h => ?_⟩
        rw [h.1] at hserved
        cases hserved
      | true =>
        obtain ⟨now, later, rfl, hsession, hlater, hstop⟩ := ih
          (serve options host item session).2
          (fun frame hframe => hlegal frame (List.mem_cons_of_mem _ hframe)) hrest (by omega)
        exact ⟨item :: now, later, rfl, hsession, hlater, fun h => hstop h.2⟩

end Session

open Session

variable {options : ServerOptions} {host : Host σ}

theorem handleConnection_holds {items : List Frame} {chunks : List Bytes} {buffer : Bytes}
    {session : Session σ} (hlegal : ∀ frame ∈ items, frame.Legal options.maxPayloadBytes)
    (hshutdown : ∀ frame ∈ items, frame.type ≠ .shutdown) (hfinish : session.finish = false)
    (hholds : Holds Frame.wire items buffer chunks.flatten)
    (hbound : (handleConnection options host (chunks.map .chunk) buffer session).overflowed =
      false) :
    ∃ now later, items = now ++ later ∧
      (handleConnection options host (chunks.map .chunk) buffer session).session =
        serveAll options host now session ∧
      Holds Frame.wire later
        (handleConnection options host (chunks.map .chunk) buffer session).buffer [] ∧
      (Answerable options host items session → Short Frame.wire items buffer →
        Short Frame.wire later
          (handleConnection options host (chunks.map .chunk) buffer session).buffer) := by
  induction chunks generalizing items buffer session with
  | nil => exact ⟨[], items, rfl, rfl, hholds, fun _ hshort => hshort⟩
  | cons chunk rest ih =>
    rw [List.map_cons, handleConnection] at hbound ⊢
    simp only [Received.ok, Received.bytes, Received.isClosed, Bool.not_true, Bool.false_eq_true,
      ↓reduceIte, Bool.or_false] at hbound ⊢
    split at hbound
    · cases hbound
    · rename_i hroom
      rw [if_neg hroom]
      obtain ⟨now, later, rfl, hsession, hlater, hstop⟩ := decodeLoop_holds host
        session hlegal hholds.receive (Nat.lt_succ_self _)
      have hopen : (serveAll options host now session).finish = false := by
        rw [serveAll_finish fun frame hmem => hshutdown frame (List.mem_append_left _ hmem), hfinish]
      rw [hsession, hopen] at hbound ⊢
      simp only [Bool.false_eq_true, ↓reduceIte] at hbound ⊢
      obtain ⟨more, last, rfl, hserved, hlast, hshort⟩ := ih
        (fun frame hmem => hlegal frame (List.mem_append_right _ hmem))
        (fun frame hmem => hshutdown frame (List.mem_append_right _ hmem)) hopen hlater hbound
      refine ⟨now ++ more, last, (List.append_assoc ..).symm, ?_, hlast, fun hanswer _ => ?_⟩
      · rw [hserved, serveAll_append]
      · exact hshort hanswer.append.2 (hstop hanswer.append.1)

/-- The bytes that one call to receive takes at most. -/
def kReceiveChunkBytes : Nat := 8192

theorem handleConnection_inBound {items : List Frame} {chunks : List Bytes} {buffer : Bytes}
    {session : Session σ} (hlegal : ∀ frame ∈ items, frame.Legal options.maxPayloadBytes)
    (hshutdown : ∀ frame ∈ items, frame.type ≠ .shutdown) (hfinish : session.finish = false)
    (hholds : Holds Frame.wire items buffer chunks.flatten)
    (hshort : Short Frame.wire items buffer) (hanswer : Answerable options host items session)
    (hchunks : ∀ chunk ∈ chunks, chunk.length ≤ kReceiveChunkBytes)
    (hbound : kFrameHeaderSize + options.maxPayloadBytes + kReceiveChunkBytes ≤
      options.maxReadBufferBytes) :
    (handleConnection options host (chunks.map .chunk) buffer session).overflowed =
      false := by
  induction chunks generalizing items buffer session with
  | nil => rfl
  | cons chunk rest ih =>
    have hwire : ∀ item ∈ items, item.wire.length ≤ kFrameHeaderSize + options.maxPayloadBytes := by
      intro item hitem
      rw [item.wire_length]
      exact Nat.add_le_add_left (hlegal item hitem).size _
    have hlength := hshort.length_lt (Nat.add_pos_left (by decide) _) hwire
    have hchunk := hchunks chunk (List.mem_cons_self ..)
    rw [List.map_cons, handleConnection]
    simp only [Received.ok, Received.bytes, Received.isClosed, Bool.not_true, Bool.false_eq_true,
      ↓reduceIte, Bool.or_false]
    have hroom : ¬(buffer ++ chunk).length > options.maxReadBufferBytes := by
      rw [List.length_append]
      omega
    rw [if_neg hroom]
    obtain ⟨now, later, rfl, hsession, hlater, hstop⟩ := decodeLoop_holds host
      session hlegal hholds.receive (Nat.lt_succ_self _)
    have hopen : (serveAll options host now session).finish = false := by
      rw [serveAll_finish fun frame hmem => hshutdown frame (List.mem_append_left _ hmem), hfinish]
    rw [hsession, hopen]
    simp only [Bool.false_eq_true, ↓reduceIte]
    exact ih (fun frame hmem => hlegal frame (List.mem_append_right _ hmem))
      (fun frame hmem => hshutdown frame (List.mem_append_right _ hmem)) hopen hlater
      (hstop hanswer.append.1) hanswer.append.2
      (fun chunk hmem => hchunks chunk (List.mem_cons_of_mem _ hmem))

end LinkObservatory
