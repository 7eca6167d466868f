import LinkObservatory.Codec

namespace LinkObservatory
set_option autoImplicit true

open ByteCodec

inductive FrameType
  | ping
  | pong
  | pushRecords
  | pushAck
  | queryState
  | stateReport
  | errorReport
  | shutdown
deriving DecidableEq, Repr

def FrameType.code : FrameType → UInt8
  | .ping => 1
  | .pong => 2
  | .pushRecords => 3
  | .pushAck => 4
  | .queryState => 5
  | .stateReport => 6
  | .errorReport => 7
  | .shutdown => 8

/-- The cast of a byte between the first and the last type. -/
def FrameType.ofCode (code : UInt8) : FrameType :=
  match code with
  | 1 => .ping
  | 2 => .pong
  | 3 => .pushRecords
  | 4 => .pushAck
  | 5 => .queryState
  | 6 => .stateReport
  | 7 => .errorReport
  | _ => .shutdown

def kFrameHeaderSize : Nat := 20
def kFrameMagic : UInt32 := 0x31464F4C
def kTransportProtocolVersion : UInt8 := 1

structure Frame where
  type : FrameType := .ping
  flags : UInt16 := 0
  payload : Bytes := []
deriving DecidableEq, Repr

/-- FNV-1a 64, the digest of a payload. -/
def frameHash (data : Bytes) : UInt64 :=
  data.foldl (fun hash byte => (hash ^^^ byte.toUInt64) * 0x100000001b3) 0xcbf29ce484222325

/-- The twenty bytes in front of a payload. -/
def encodeFrameHeader (frame : Frame) : Bytes :=
  encodeU32 kFrameMagic ++
    [kTransportProtocolVersion, frame.type.code, (frame.flags &&& 0xFF).toUInt8,
      ((frame.flags >>> 8) &&& 0xFF).toUInt8] ++
    encodeU32 (UInt32.ofNat frame.payload.length) ++ encodeU64 (frameHash frame.payload)

def encodeFrame (frame : Frame) (maxPayload : Nat) : Except Status Bytes :=
  if frame.payload.length > maxPayload then
    .error (.of .capacityExceeded "frame payload exceeds the configured bound")
  else .ok (encodeFrameHeader frame ++ frame.payload)

def byteAt (data : Bytes) (offset : Nat) : UInt8 := data.getD offset 0

def readU32 (data : Bytes) (offset : Nat) : UInt32 :=
  (gather 0 0 ((data.drop offset).take 4)).toUInt32

def readU64 (data : Bytes) (offset : Nat) : UInt64 := gather 0 0 ((data.drop offset).take 8)

structure FrameDecodeResult where
  status : Status := {}
  complete : Bool := false
  consumed : Nat := 0
  frame : Frame := {}
deriving DecidableEq, Repr

/-- One frame from the front of a buffer; not complete with an OK status means that bytes are
missing. -/
def decodeFrame (buffer : Bytes) (maxPayload : Nat) : FrameDecodeResult :=
  if buffer.length < kFrameHeaderSize then {}
  else if readU32 buffer 0 ≠ kFrameMagic then
    { status := .of .corruptData "frame magic does not match" }
  else if byteAt buffer 4 ≠ kTransportProtocolVersion then
    { status := .of .versionMismatch "frame protocol version mismatch" }
  else
    let type := byteAt buffer 5
    if type < FrameType.ping.code ∨ type > FrameType.shutdown.code then
      { status := .of .unsupported "unknown frame type" }
    else
      let flags := (byteAt buffer 6).toUInt16 ||| ((byteAt buffer 7).toUInt16 <<< 8)
      if flags ≠ 0 then { status := .of .unsupported "frame reserved flags are not zero" }
      else
        let payloadSize := (readU32 buffer 8).toNat
        if payloadSize > maxPayload then
          { status := .of .capacityExceeded "frame payload exceeds the configured bound" }
        else
          let expectedHash := readU64 buffer 12
          let total := kFrameHeaderSize + payloadSize
          if buffer.length < total then {}
          else
            let payload := (buffer.drop kFrameHeaderSize).take payloadSize
            if frameHash payload ≠ expectedHash then
              { status := .of .corruptData "frame payload hash mismatch" }
            else
              { complete := true
                consumed := total
                frame := { type := .ofCode type, flags, payload } }

theorem FrameType.ofCode_code (type : FrameType) : FrameType.ofCode type.code = type := by
  cases type <;> rfl

theorem FrameType.code_range (type : FrameType) :
    ¬(type.code < FrameType.ping.code ∨ type.code > FrameType.shutdown.code) := by
  cases type <;> decide

theorem encodeFrameHeader_length (frame : Frame) :
    (encodeFrameHeader frame).length = kFrameHeaderSize := rfl

theorem decodeFrame_header (frame : Frame) (hflags : frame.flags = 0) (maxPayload : Nat)
    (hsize : frame.payload.length ≤ maxPayload) (hbound : frame.payload.length < 2 ^ 32)
    (rest : Bytes) :
    decodeFrame (encodeFrameHeader frame ++ rest) maxPayload =
      if rest.length < frame.payload.length then {}
      else if frameHash (rest.take frame.payload.length) ≠ frameHash frame.payload then
        { status := .of .corruptData "frame payload hash mismatch" }
      else
        { complete := true
          consumed := kFrameHeaderSize + frame.payload.length
          frame := { frame with payload := rest.take frame.payload.length } } := by
  have hlength : (encodeFrameHeader frame ++ rest).length = kFrameHeaderSize + rest.length := by
    rw [List.length_append, encodeFrameHeader_length]
  have hmagic : readU32 (encodeFrameHeader frame ++ rest) 0 = kFrameMagic := rfl
  have hversion : byteAt (encodeFrameHeader frame ++ rest) 4 = kTransportProtocolVersion := rfl
  have htype : byteAt (encodeFrameHeader frame ++ rest) 5 = frame.type.code := rfl
  have hlow : byteAt (encodeFrameHeader frame ++ rest) 6 = (frame.flags &&& 0xFF).toUInt8 := rfl
  have hhigh : byteAt (encodeFrameHeader frame ++ rest) 7 = ((frame.flags >>> 8) &&& 0xFF).toUInt8 :=
    rfl
  have hpayload : readU32 (encodeFrameHeader frame ++ rest) 8 = UInt32.ofNat frame.payload.length :=
    (congrArg UInt64.toUInt32 (gather_halfWord _)).trans (UInt32.toUInt32_toUInt64 _)
  have hhash : readU64 (encodeFrameHeader frame ++ rest) 12 = frameHash frame.payload := gather_word _
  have hdrop : (encodeFrameHeader frame ++ rest).drop kFrameHeaderSize = rest := rfl
  have hcount : (UInt32.ofNat frame.payload.length).toNat = frame.payload.length :=
    UInt32.toNat_ofNat_of_lt' hbound
  unfold decodeFrame
  rw [hlength, if_neg (by omega), hmagic, if_neg (not_not.2 rfl), hversion,
    if_neg (not_not.2 rfl)]
  simp only [htype, hlow, hhigh, hpayload, hhash, hdrop, hcount, hflags]
  rw [if_neg frame.type.code_range, if_neg (by decide), if_neg (Nat.not_lt.2 hsize),
    FrameType.ofCode_code]
  simp only [Nat.add_lt_add_iff_left]
  rfl

variable {frame : Frame} {maxPayload : Nat}

/-- A frame that the encoder and the decoder agree on. -/
structure Frame.Legal (maxPayload : Nat) (frame : Frame) : Prop where
  flags : frame.flags = 0
  size : frame.payload.length ≤ maxPayload
  bound : frame.payload.length < 2 ^ 32

/-- The bytes of a frame on the wire. -/
def Frame.wire (frame : Frame) : Bytes := encodeFrameHeader frame ++ frame.payload

theorem Frame.wire_length (frame : Frame) :
    frame.wire.length = kFrameHeaderSize + frame.payload.length := by
  rw [Frame.wire, List.length_append, encodeFrameHeader_length]

theorem Frame.wire_pos (frame : Frame) : 0 < frame.wire.length := by
  rw [frame.wire_length]
  exact Nat.add_pos_left (by decide) _

theorem Frame.Legal.encodeFrame (h : frame.Legal maxPayload) :
    encodeFrame frame maxPayload = .ok frame.wire :=
  if_neg (Nat.not_lt.2 h.size)

/-- A frame is decoded from the front of what arrives. -/
theorem Frame.Legal.decode_wire (h : frame.Legal maxPayload) (rest : Bytes) :
    decodeFrame (frame.wire ++ rest) maxPayload =
      { complete := true, consumed := frame.wire.length, frame := frame } := by
  rw [Frame.wire, List.append_assoc, decodeFrame_header frame h.flags maxPayload h.size h.bound,
    if_neg (by simp), List.take_left, if_neg (not_not.2 rfl), ← Frame.wire, Frame.wire_length]

theorem Frame.Legal.decode_front (h : frame.Legal maxPayload) {part : Bytes}
    (hpart : part <+: frame.wire) (hstrict : part.length < frame.wire.length) :
    decodeFrame part maxPayload = {} := by
  by_cases hheader : part.length < kFrameHeaderSize
  · exact if_pos hheader
  · rw [Nat.not_lt, ← encodeFrameHeader_length frame] at hheader
    obtain ⟨rest, rfl⟩ := (List.prefix_of_prefix_length_le (List.prefix_append ..) hpart hheader)
    rw [List.length_append, Frame.wire_length, encodeFrameHeader_length] at hstrict
    rw [decodeFrame_header frame h.flags maxPayload h.size h.bound, if_pos (by omega)]

end LinkObservatory
