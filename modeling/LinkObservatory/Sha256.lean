import LinkObservatory.Identity

namespace LinkObservatory
set_option autoImplicit true

def kRoundConstants : List UInt32 :=
  [0x428a2f98, 0x71374491, 0xb5c0fbcf, 0xe9b5dba5, 0x3956c25b, 0x59f111f1, 0x923f82a4,
    0xab1c5ed5, 0xd807aa98, 0x12835b01, 0x243185be, 0x550c7dc3, 0x72be5d74, 0x80deb1fe,
    0x9bdc06a7, 0xc19bf174, 0xe49b69c1, 0xefbe4786, 0x0fc19dc6, 0x240ca1cc, 0x2de92c6f,
    0x4a7484aa, 0x5cb0a9dc, 0x76f988da, 0x983e5152, 0xa831c66d, 0xb00327c8, 0xbf597fc7,
    0xc6e00bf3, 0xd5a79147, 0x06ca6351, 0x14292967, 0x27b70a85, 0x2e1b2138, 0x4d2c6dfc,
    0x53380d13, 0x650a7354, 0x766a0abb, 0x81c2c92e, 0x92722c85, 0xa2bfe8a1, 0xa81a664b,
    0xc24b8b70, 0xc76c51a3, 0xd192e819, 0xd6990624, 0xf40e3585, 0x106aa070, 0x19a4c116,
    0x1e376c08, 0x2748774c, 0x34b0bcb5, 0x391c0cb3, 0x4ed8aa4a, 0x5b9cca4f, 0x682e6ff3,
    0x748f82ee, 0x78a5636f, 0x84c87814, 0x8cc70208, 0x90befffa, 0xa4506ceb, 0xbef9a3f7,
    0xc67178f2]

def rotateRight (value bits : UInt32) : UInt32 := (value >>> bits) ||| (value <<< (32 - bits))

/-- The big-endian words of a block. -/
def loadWords : Bytes → List UInt32
  | b0 :: b1 :: b2 :: b3 :: rest =>
    ((b0.toUInt32 <<< 24) ||| (b1.toUInt32 <<< 16) ||| (b2.toUInt32 <<< 8) ||| b3.toUInt32)
      :: loadWords rest
  | _ => []

def storeBe32 (value : UInt32) : Bytes :=
  [((value >>> 24) &&& 0xFF).toUInt8, ((value >>> 16) &&& 0xFF).toUInt8,
    ((value >>> 8) &&& 0xFF).toUInt8, (value &&& 0xFF).toUInt8]

/-- Extends the schedule, which is kept newest first, by the given number of words. -/
def extendSchedule : Nat → List UInt32 → List UInt32
  | 0, schedule => schedule
  | n + 1, schedule =>
    let w15 := schedule.getD 14 0
    let w2 := schedule.getD 1 0
    let s0 := rotateRight w15 7 ^^^ rotateRight w15 18 ^^^ (w15 >>> 3)
    let s1 := rotateRight w2 17 ^^^ rotateRight w2 19 ^^^ (w2 >>> 10)
    extendSchedule n ((schedule.getD 15 0 + s0 + schedule.getD 6 0 + s1) :: schedule)

/-- The eight working words. -/
structure ShaWords where
  a : UInt32
  b : UInt32
  c : UInt32
  d : UInt32
  e : UInt32
  f : UInt32
  g : UInt32
  h : UInt32
deriving DecidableEq, Repr

def ShaWords.initial : ShaWords :=
  { a := 0x6a09e667, b := 0xbb67ae85, c := 0x3c6ef372, d := 0xa54ff53a
    e := 0x510e527f, f := 0x9b05688c, g := 0x1f83d9ab, h := 0x5be0cd19 }

def ShaWords.round (w : ShaWords) (constant scheduled : UInt32) : ShaWords :=
  let sigma1 := rotateRight w.e 6 ^^^ rotateRight w.e 11 ^^^ rotateRight w.e 25
  let choose := (w.e &&& w.f) ^^^ ((~~~w.e) &&& w.g)
  let temp1 := w.h + sigma1 + choose + constant + scheduled
  let sigma0 := rotateRight w.a 2 ^^^ rotateRight w.a 13 ^^^ rotateRight w.a 22
  let majority := (w.a &&& w.b) ^^^ (w.a &&& w.c) ^^^ (w.b &&& w.c)
  let temp2 := sigma0 + majority
  { a := temp1 + temp2, b := w.a, c := w.b, d := w.c, e := w.d + temp1, f := w.e, g := w.f
    h := w.g }

def ShaWords.compress (state : ShaWords) (block : Bytes) : ShaWords :=
  let schedule := (extendSchedule 48 (loadWords block).reverse).reverse
  let mixed := (kRoundConstants.zip schedule).foldl (fun w item => w.round item.1 item.2) state
  { a := state.a + mixed.a, b := state.b + mixed.b, c := state.c + mixed.c, d := state.d + mixed.d
    e := state.e + mixed.e, f := state.f + mixed.f, g := state.g + mixed.g, h := state.h + mixed.h }

structure Sha256 where
  state : ShaWords := .initial
  buffer : Bytes := []
  totalBytes : UInt64 := 0
deriving DecidableEq, Repr

/-- Takes one byte in; a full buffer is compressed. -/
def Sha256.absorb (hasher : Sha256) (byte : UInt8) : Sha256 :=
  let buffer := hasher.buffer ++ [byte]
  let totalBytes := hasher.totalBytes + 1
  if buffer.length = 64 then { state := hasher.state.compress buffer, totalBytes := totalBytes }
  else { hasher with buffer := buffer, totalBytes := totalBytes }

def Sha256.update (hasher : Sha256) (data : Bytes) : Sha256 := data.foldl absorb hasher

/-- Pads with a marker, zeros up to the last eight bytes of a block, and the length in bits. -/
def Sha256.finish (hasher : Sha256) : Bytes :=
  let totalBits := hasher.totalBytes * 8
  let hasher := hasher.update [0x80]
  let hasher := hasher.update (List.replicate ((120 - hasher.buffer.length) % 64) 0)
  let words := (hasher.update (ByteCodec.leBytes 8 totalBits).reverse).state
  [words.a, words.b, words.c, words.d, words.e, words.f, words.g, words.h].flatMap storeBe32

def sha256 (data : Bytes) : Bytes := (Sha256.update {} data).finish

theorem sha256_length (data : Bytes) : (sha256 data).length = 32 := rfl

example : sha256 (ascii "abc") =
    [0xba, 0x78, 0x16, 0xbf, 0x8f, 0x01, 0xcf, 0xea, 0x41, 0x41, 0x40, 0xde, 0x5d, 0xae, 0x22, 0x23,
      0xb0, 0x03, 0x61, 0xa3, 0x96, 0x17, 0x7a, 0x9c, 0xb4, 0x10, 0xff, 0x61, 0xf2, 0x00, 0x15,
      0xad] := by
  decide +kernel

end LinkObservatory
