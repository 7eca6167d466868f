import LinkObservatory.Pairing

namespace LinkObservatory
set_option autoImplicit true

open Reassembly Session

structure ClientOptions where
  maxPayloadBytes : Nat := 1024 * 1024
  maxResponseBytes : Nat := 4 * 1024 * 1024

/-- How a call to receive a frame ends, if the client does not wait. -/
inductive Receipt
  | waiting
  | failed (status : Status)
  | frame (response : Frame)
deriving DecidableEq

/-- The loop over what arrives until a frame is complete; what it leaves is the buffer and what has
not been received. -/
def receiveFrame (options : ClientOptions) (future : List Received) (buffer : Bytes) :
    Receipt × Bytes × List Received :=
  let decoded := decodeFrame buffer options.maxPayloadBytes
  if !decoded.status.ok then (.failed decoded.status, buffer, future)
  else if decoded.complete then (.frame decoded.frame, buffer.drop decoded.consumed, future)
  else if buffer.length > options.maxResponseBytes then
    (.failed (.of .capacityExceeded "response exceeds the configured bound"), buffer, future)
  else match future with
    | [] => (.waiting, buffer, [])
    | .failed status :: rest => (.failed status, buffer, rest)
    | .closed :: rest =>
      (.failed (.of .ioError "peer closed the connection before replying"), buffer, rest)
    | .chunk bytes :: rest => receiveFrame options rest (buffer ++ bytes)

/-- Calls that follow one another on the same connection. -/
def receiveFrames (options : ClientOptions) :
    Nat → List Received → Bytes → List Receipt × Bytes × List Received
  | 0, future, buffer => ([], buffer, future)
  | count + 1, future, buffer =>
    let first := receiveFrame options future buffer
    let more := receiveFrames options count first.2.2 first.2.1
    (first.1 :: more.1, more.2)

variable {options : ClientOptions}

theorem receiveFrame_complete {buffer : Bytes} {frame : Frame} {consumed : Nat}
    (h : decodeFrame buffer options.maxPayloadBytes =
      { complete := true, consumed := consumed, frame := frame }) (future : List Received) :
    receiveFrame options future buffer = (.frame frame, buffer.drop consumed, future) := by
  rw [receiveFrame.eq_def, h]
  rfl

theorem receiveFrame_chunk {buffer : Bytes} (h : decodeFrame buffer options.maxPayloadBytes = {})
    (hbound : buffer.length ≤ options.maxResponseBytes) (bytes : Bytes) (rest : List Received) :
    receiveFrame options (.chunk bytes :: rest) buffer =
      receiveFrame options rest (buffer ++ bytes) := by
  rw [receiveFrame.eq_def, h]
  exact if_neg (Nat.not_lt.2 hbound)

theorem receiveFrame_holds {item : Frame} {items : List Frame} {chunks : List Bytes}
    {buffer : Bytes} (hlegal : item.Legal options.maxPayloadBytes)
    (hbound : kFrameHeaderSize + options.maxPayloadBytes ≤ options.maxResponseBytes)
    (hholds : Holds Frame.wire (item :: items) buffer chunks.flatten) :
    ∃ (buffer' : Bytes) (rest : List Bytes),
      receiveFrame options (chunks.map .chunk) buffer = (.frame item, buffer', rest.map .chunk) ∧
        Holds Frame.wire items buffer' rest.flatten := by
  induction chunks generalizing buffer with
  | nil =>
    rcases hholds.cases with hshort | ⟨first, rest, after, hsame, rfl, hrest⟩
    · obtain ⟨-, hnone⟩ := hshort.finished hholds
      cases hnone
    · obtain ⟨rfl, rfl⟩ := List.cons.inj hsame
      refine ⟨after, [], ?_, hrest⟩
      rw [receiveFrame_complete (hlegal.decode_wire after), List.drop_left]
  | cons chunk more ih =>
    rcases hholds.cases with hshort | ⟨first, rest, after, hsame, rfl, hrest⟩
    · rcases hshort with ⟨-, hnone⟩ | ⟨first, rest, hsame, hfront, hlength⟩
      · cases hnone
      · obtain ⟨rfl, rfl⟩ := List.cons.inj hsame
        have hsize := hlegal.size
        have hwire := item.wire_length
        rw [List.map_cons, receiveFrame_chunk (hlegal.decode_front hfront hlength) (by omega)]
        exact ih hholds.receive
    · obtain ⟨rfl, rfl⟩ := List.cons.inj hsame
      refine ⟨after, chunk :: more, ?_, hrest⟩
      rw [receiveFrame_complete (hlegal.decode_wire after), List.drop_left]

/-- As many calls as there are frames give the frames and leave nothing behind. -/
theorem receiveFrames_holds {items : List Frame} {chunks : List Bytes} {buffer : Bytes}
    (hlegal : ∀ frame ∈ items, frame.Legal options.maxPayloadBytes)
    (hbound : kFrameHeaderSize + options.maxPayloadBytes ≤ options.maxResponseBytes)
    (hholds : Holds Frame.wire items buffer chunks.flatten) :
    ∃ rest : List Bytes, rest.flatten = [] ∧
      receiveFrames options items.length (chunks.map .chunk) buffer =
        (items.map .frame, [], rest.map .chunk) := by
  induction items generalizing chunks buffer with
  | nil =>
    obtain ⟨rfl, hnone⟩ := List.append_eq_nil_iff.1 hholds
    exact ⟨chunks, hnone, rfl⟩
  | cons item rest ih =>
    obtain ⟨buffer', later, hfirst, hlater⟩ := receiveFrame_holds
      (hlegal item (List.mem_cons_self ..)) hbound hholds
    obtain ⟨last, hnone, hmore⟩ := ih
      (fun frame hmem => hlegal frame (List.mem_cons_of_mem _ hmem)) hlater
    refine ⟨last, hnone, ?_⟩
    rw [List.length_cons, receiveFrames, hfirst, List.map_cons]
    simp only [hmore]

/-- The chunks are a cut of the encoded frames. -/
def CutOf (maxPayload : Nat) (frames : List Frame) (chunks : List Bytes) : Prop :=
  ∃ wires, frames.mapM (encodeFrame · maxPayload) = .ok wires ∧ chunks.flatten = wires.flatten

theorem encode_all {maxPayload : Nat} {frames : List Frame}
    (hlegal : ∀ frame ∈ frames, frame.Legal maxPayload) :
    frames.mapM (encodeFrame · maxPayload) = .ok (frames.map Frame.wire) := by
  induction frames with
  | nil => rfl
  | cons frame rest ih =>
    rw [List.mapM_cons, (hlegal frame (List.mem_cons_self ..)).encodeFrame,
      ih fun frame hmem => hlegal frame (List.mem_cons_of_mem _ hmem)]
    rfl

theorem CutOf.holds {maxPayload : Nat} {frames : List Frame} {chunks : List Bytes}
    (hlegal : ∀ frame ∈ frames, frame.Legal maxPayload) (h : CutOf maxPayload frames chunks) :
    Holds Frame.wire frames [] chunks.flatten := by
  obtain ⟨wires, hencoded, hcut⟩ := h
  rw [encode_all hlegal] at hencoded
  cases hencoded
  exact hcut

/-- A connection that has decoded exactly some frames and waits for more. -/
structure ConnectionResult.Drained (frames : List Frame) (result : ConnectionResult σ) : Prop where
  decoded : result.session.decoded = frames
  buffer : result.buffer = []
  inBound : result.overflowed = false
  waits : result.session.finish = false
  protocolErrors : result.session.stats.protocolErrors =
    frames.countP fun frame => frame.type.serverOnly

/-- Both receive loops give exactly the frames that were sent, however their bytes are cut; the
server counts those that only a server may send. -/
theorem frames_received {frames : List Frame} {chunks : List Bytes} {server : ServerOptions}
    {client : ClientOptions} {host : Host σ} {world : σ}
    (hpayload : client.maxPayloadBytes = server.maxPayloadBytes)
    (hwidth : server.maxPayloadBytes < 2 ^ 32)
    (hframes : ∀ frame ∈ frames,
      frame.flags = 0 ∧ frame.payload.length ≤ server.maxPayloadBytes)
    (hcut : CutOf server.maxPayloadBytes frames chunks)
    (hchunks : ∀ chunk ∈ chunks, chunk.length ≤ kReceiveChunkBytes)
    (hserver : kFrameHeaderSize + server.maxPayloadBytes + kReceiveChunkBytes ≤
      server.maxReadBufferBytes)
    (hclient : kFrameHeaderSize + client.maxPayloadBytes ≤ client.maxResponseBytes) :
    ((∀ frame ∈ frames, frame.type ≠ .shutdown) → Answerable server host frames { world } →
        (handleConnection server host (chunks.map .chunk) [] { world }).Drained frames) ∧
      (∃ rest : List Bytes, rest.flatten = [] ∧
        receiveFrames client frames.length (chunks.map .chunk) [] =
          (frames.map .frame, [], rest.map .chunk)) ∧
      ∀ frame ∈ frames, ∀ wire, encodeFrame frame server.maxPayloadBytes = .ok wire →
        ∀ part, part <+: wire → part ≠ wire → decodeFrame part server.maxPayloadBytes = {} := by
  have hlegal : ∀ frame ∈ frames, frame.Legal server.maxPayloadBytes := by
    intro frame hmem
    obtain ⟨hflags, hsize⟩ := hframes frame hmem
    exact ⟨hflags, hsize, hsize.trans_lt hwidth⟩
  have hholds := hcut.holds hlegal
  refine ⟨?_, ?_, ?_⟩
  · intro hshutdown hanswer
    have hempty : Short Frame.wire frames [] := .empty Frame.wire_pos _
    have hbound := handleConnection_inBound hlegal hshutdown rfl hholds hempty hanswer hchunks
      hserver
    obtain ⟨now, later, rfl, hsession, hlast, hshort⟩ :=
      handleConnection_holds hlegal hshutdown rfl hholds hbound
    obtain ⟨hbuffer, rfl⟩ := (hshort hanswer hempty).finished hlast
    rw [List.append_nil] at hanswer hshutdown ⊢
    refine ⟨?_, hbuffer, hbound, ?_, ?_⟩
    · rw [hsession]
      exact (serveAll_decoded now _).trans (List.nil_append _)
    · rw [hsession]
      exact serveAll_finish hshutdown
    · rw [hsession]
      exact (serveAll_protocolErrors hanswer).trans (Nat.zero_add _)
  · rw [← hpayload] at hlegal
    exact receiveFrames_holds hlegal hclient hholds
  · intro frame hmem wire hencoded part hfront hne
    rw [(hlegal frame hmem).encodeFrame] at hencoded
    cases hencoded
    apply (hlegal frame hmem).decode_front hfront
    exact Nat.lt_of_le_of_ne hfront.length_le fun hlength => hne (hfront.eq_of_length hlength)

/-- Requests of each kind and a frame that only a server sends, cut within a header and within a
payload. -/
theorem frames_received_ping :
    let frames := mixedRequests ++ [{ type := .pong }]
    let chunks := mixedChunks ++ [(Frame.mk .pong 0 []).wire]
    (handleConnection {} Host.quiet (chunks.map .chunk) [] { world := () }).Drained frames ∧
      (∃ rest : List Bytes, rest.flatten = [] ∧
        receiveFrames {} 5 (chunks.map .chunk) [] = (frames.map .frame, [], rest.map .chunk)) ∧
      ∀ frame ∈ frames, ∀ wire, encodeFrame frame (1024 * 1024) = .ok wire →
        ∀ part, part <+: wire → part ≠ wire → decodeFrame part (1024 * 1024) = {} := by
  intro frames chunks
  have hcut : CutOf (1024 * 1024) frames chunks :=
    ⟨frames.map Frame.wire, by decide +kernel, by decide +kernel⟩
  have hanswers : Answerable {} Host.quiet frames { world := () } :=
    ⟨by decide +kernel, by decide +kernel, by decide +kernel, by decide +kernel,
      by decide +kernel, trivial⟩
  have hserver : kFrameHeaderSize + ({} : ServerOptions).maxPayloadBytes + kReceiveChunkBytes ≤
      ({} : ServerOptions).maxReadBufferBytes := by decide
  have hclient : kFrameHeaderSize + ({} : ClientOptions).maxPayloadBytes ≤
      ({} : ClientOptions).maxResponseBytes := by decide
  obtain ⟨hserved, hreceived⟩ := frames_received rfl (by decide) (by decide +kernel) hcut
    (by decide +kernel) hserver hclient
  exact ⟨hserved (by decide +kernel) hanswers, hreceived⟩

/-- A pong is decoded, answered and counted as a protocol error. -/
theorem pong_is_protocol_error :
    let frames : List Frame := [{ type := .pong }]
    let result := handleConnection {} Host.quiet ((frames.map Frame.wire).map .chunk) []
      { world := () }
    CutOf (1024 * 1024) frames (frames.map Frame.wire) ∧
      Answerable {} Host.quiet frames { world := () } ∧
      result.session.decoded = frames ∧ result.session.stats.protocolErrors = 1 := by
  refine ⟨⟨_, rfl, rfl⟩, ⟨by decide +kernel, trivial⟩, by decide +kernel, by decide +kernel⟩

end LinkObservatory
