import LinkObservatory.Sha256Standard

namespace LinkObservatory
set_option autoImplicit true

open BlockStream

/-- The hasher with its block buffer; a write outside of the buffer has no result. -/
structure Sha256Stream where
  state : ShaWords := .initial
  buffer : Bytes := List.replicate 64 0
  totalBytes : UInt64 := 0
  buffered : Nat := 0
deriving DecidableEq, Repr

namespace Sha256Stream

def put (hasher : Sha256Stream) (byte : UInt8) : Sha256Stream :=
  { hasher with
    buffer := hasher.buffer.set hasher.buffered byte
    buffered := hasher.buffered + 1 }

def store (hasher : Sha256Stream) (byte : UInt8) : Option Sha256Stream :=
  if hasher.buffered < hasher.buffer.length then some (hasher.put byte) else none

/-- Fills the buffer and gives the bytes that are left over. -/
def fillBuffer : Bytes → Sha256Stream → Option (Sha256Stream × Bytes)
  | [], hasher => some (hasher, [])
  | byte :: rest, hasher =>
    if hasher.buffered < hasher.buffer.length then hasher.store byte >>= fillBuffer rest
    else some (hasher, byte :: rest)

/-- A full buffer is compressed and empty again. -/
def flush (hasher : Sha256Stream) : Sha256Stream :=
  if hasher.buffered = hasher.buffer.length then
    { hasher with state := hasher.state.compress hasher.buffer, buffered := 0 }
  else hasher

/-- Compresses whole blocks in place; the fuel bounds the bytes that are left. -/
def compressWhole : Nat → Bytes → Sha256Stream → Sha256Stream × Bytes
  | 0, data, hasher => (hasher, data)
  | fuel + 1, data, hasher =>
    if data.length ≥ hasher.buffer.length then
      compressWhole fuel (data.drop hasher.buffer.length)
        { hasher with state := hasher.state.compress (data.take hasher.buffer.length) }
    else (hasher, data)

def storeAll (data : Bytes) (hasher : Sha256Stream) : Option Sha256Stream :=
  data.foldlM store hasher

def update (hasher : Sha256Stream) (data : Bytes) : Option Sha256Stream := do
  let hasher := { hasher with totalBytes := hasher.totalBytes + UInt64.ofNat data.length }
  let filled ← fillBuffer data hasher
  let whole := compressWhole filled.2.length filled.2 filled.1.flush
  storeAll whole.2 whole.1

/-- The loop that pads with zeros; running out of fuel has no result. -/
def padZeros : Nat → Sha256Stream → Option Sha256Stream
  | 0, _ => none
  | fuel + 1, hasher =>
    if hasher.buffered ≠ 56 then hasher.update [0] >>= padZeros fuel else some hasher

def lengthBytes (totalBits : UInt64) : Bytes :=
  (List.range 8).map fun index => ((totalBits >>> UInt64.ofNat (8 * (7 - index))) &&& 0xFF).toUInt8

def digest (words : ShaWords) : Bytes :=
  [words.a, words.b, words.c, words.d, words.e, words.f, words.g, words.h].flatMap storeBe32

def finish (hasher : Sha256Stream) : Option Bytes := do
  let totalBits := hasher.totalBytes * 8
  let hasher ← hasher.update [0x80]
  let hasher ← padZeros 64 hasher
  let hasher ← hasher.update (lengthBytes totalBits)
  some (digest hasher.state)

/-- The hasher has taken in some data. -/
structure Holds (data : Bytes) (hasher : Sha256Stream) : Prop where
  room : hasher.buffer.length = 64
  fed : Fed 64 ShaWords.compress .initial hasher.state (hasher.buffer.take hasher.buffered) data
  buffered : hasher.buffered < 64
  total : hasher.totalBytes.toNat = data.length % 2 ^ 64

theorem take_set_succ (buffer : Bytes) {index : Nat} (hindex : index < buffer.length)
    (byte : UInt8) : (buffer.set index byte).take (index + 1) = buffer.take index ++ [byte] := by
  rw [List.take_add_one, List.take_set_of_le (Nat.le_refl _), List.getElem?_set_self hindex]
  rfl

@[simp] theorem put_length (hasher : Sha256Stream) (byte : UInt8) :
    (hasher.put byte).buffer.length = hasher.buffer.length := List.length_set

@[simp] theorem put_buffered (hasher : Sha256Stream) (byte : UInt8) :
    (hasher.put byte).buffered = hasher.buffered + 1 := rfl

/-- A hasher that has taken some bytes into its buffer and has changed nothing else. -/
structure Stored (before : Sha256Stream) (data : Bytes) (after : Sha256Stream) : Prop where
  state : after.state = before.state
  total : after.totalBytes = before.totalBytes
  room : after.buffer.length = before.buffer.length
  buffered : after.buffered = before.buffered + data.length
  taken : after.buffer.take after.buffered = before.buffer.take before.buffered ++ data

theorem Stored.nil (hasher : Sha256Stream) : hasher.Stored [] hasher :=
  ⟨rfl, rfl, rfl, rfl, (List.append_nil _).symm⟩

theorem Stored.cons {hasher after : Sha256Stream} {byte : UInt8} {rest : Bytes}
    (hindex : hasher.buffered < hasher.buffer.length) (h : (hasher.put byte).Stored rest after) :
    hasher.Stored (byte :: rest) after := by
  refine ⟨h.state, h.total, h.room.trans (put_length ..), ?_, ?_⟩
  · rw [h.buffered, put_buffered, List.length_cons]
    omega
  · rw [h.taken, put_buffered, put, take_set_succ _ hindex, List.append_assoc]
    rfl

theorem storeAll_fits (data : Bytes) (hasher : Sha256Stream)
    (hroom : hasher.buffered + data.length ≤ hasher.buffer.length) :
    ∃ stored, storeAll data hasher = some stored ∧ hasher.Stored data stored := by
  induction data generalizing hasher with
  | nil => exact ⟨hasher, rfl, .nil hasher⟩
  | cons byte rest ih =>
    rw [List.length_cons] at hroom
    have hindex : hasher.buffered < hasher.buffer.length := by omega
    obtain ⟨stored, hstored, h⟩ := ih (hasher.put byte) (by
      rw [put_length, put_buffered]
      omega)
    refine ⟨stored, ?_, h.cons hindex⟩
    rw [storeAll, List.foldlM_cons, store, if_pos hindex]
    exact hstored

theorem fillBuffer_fits (data : Bytes) (hasher : Sha256Stream)
    (hroom : hasher.buffered ≤ hasher.buffer.length) :
    ∃ taken rest stored, data = taken ++ rest ∧ fillBuffer data hasher = some (stored, rest) ∧
      hasher.Stored taken stored ∧ hasher.buffered + taken.length ≤ hasher.buffer.length ∧
      (rest = [] ∨ hasher.buffered + taken.length = hasher.buffer.length) := by
  induction data generalizing hasher with
  | nil => exact ⟨[], [], hasher, rfl, rfl, .nil hasher, hroom, .inl rfl⟩
  | cons byte rest ih =>
    by_cases hindex : hasher.buffered < hasher.buffer.length
    · obtain ⟨taken, left, stored, rfl, hfill, h, hfits, hdone⟩ := ih (hasher.put byte) (by
        rw [put_length, put_buffered]
        omega)
      rw [put_length, put_buffered] at hfits hdone
      refine ⟨byte :: taken, left, stored, rfl, ?_, h.cons hindex, ?_, ?_⟩
      · rw [fillBuffer, if_pos hindex, store, if_pos hindex]
        exact hfill
      · rw [List.length_cons]
        omega
      · rw [List.length_cons]
        exact hdone.imp_right fun hfull => by omega
    · refine ⟨[], byte :: rest, hasher, rfl, ?_, .nil hasher, hroom, ?_⟩
      · rw [fillBuffer, if_neg hindex]
      · rw [List.length_nil]
        omega

theorem compressWhole_fed {data past : Bytes} {fuel : Nat} (hasher : Sha256Stream)
    (hroom : hasher.buffer.length = 64) (hfuel : data.length ≤ fuel)
    (hfed : Fed 64 ShaWords.compress .initial hasher.state [] past) :
    ∃ state whole rest, data = whole ++ rest ∧ rest.length < 64 ∧
      compressWhole fuel data hasher = ({ hasher with state := state }, rest) ∧
      Fed 64 ShaWords.compress .initial state [] (past ++ whole) := by
  induction fuel generalizing data past hasher with
  | zero =>
    rw [List.length_eq_zero_iff.1 (Nat.le_zero.1 hfuel)]
    exact ⟨hasher.state, [], [], rfl, by decide, rfl, by rwa [List.append_nil]⟩
  | succ fuel ih =>
    rw [compressWhole, hroom]
    split
    · rename_i hblock
      have htake : ([] : Bytes).length + (data.take 64).length = 64 := by
        rw [List.length_nil, List.length_take]
        omega
      have hdrop : (data.drop 64).length ≤ fuel := by
        rw [List.length_drop]
        omega
      obtain ⟨state, whole, rest, hdata, hrest, hloop, hlast⟩ := ih
        { hasher with state := hasher.state.compress (data.take 64) } hroom hdrop (hfed.fill htake)
      refine ⟨state, data.take 64 ++ whole, rest, ?_, hrest, hloop, ?_⟩
      · rw [List.append_assoc, ← hdata, List.take_append_drop]
      · rw [← List.append_assoc]
        exact hlast
    · rename_i hshort
      exact ⟨hasher.state, [], data, rfl, Nat.not_le.1 hshort, rfl, by rwa [List.append_nil]⟩

theorem Holds.start : ({} : Sha256Stream).Holds [] := ⟨rfl, .start (by decide) _, by decide, rfl⟩

theorem Holds.update {data : Bytes} {hasher : Sha256Stream} (h : hasher.Holds data)
    (chunk : Bytes) :
    ∃ updated, hasher.update chunk = some updated ∧ updated.Holds (data ++ chunk) := by
  obtain ⟨counted, hcounted⟩ : ∃ counted : Sha256Stream, counted =
      { hasher with totalBytes := hasher.totalBytes + UInt64.ofNat chunk.length } := ⟨_, rfl⟩
  have htotal : counted.totalBytes.toNat = (data ++ chunk).length % 2 ^ 64 := by
    rw [hcounted, UInt64.toNat_add, h.total, UInt64.toNat_ofNat', List.length_append]
    omega
  have hroom : counted.buffer.length = 64 := by rw [hcounted, h.room]
  have hbuffered : counted.buffered < 64 := by
    rw [hcounted]
    exact h.buffered
  have hfed : Fed 64 ShaWords.compress .initial counted.state
      (counted.buffer.take counted.buffered) data := by
    rw [hcounted]
    exact h.fed
  have hpending : (counted.buffer.take counted.buffered).length = counted.buffered := by
    rw [List.length_take]
    omega
  obtain ⟨taken, left, filled, rfl, hfill, hstored, hfits, hdone⟩ :=
    fillBuffer_fits chunk counted (by omega)
  have hupdate : hasher.update (taken ++ left) =
      storeAll (compressWhole left.length left filled.flush).2
        (compressWhole left.length left filled.flush).1 := by
    rw [Sha256Stream.update, ← hcounted, hfill]
    rfl
  rw [hupdate]
  have hlength : filled.buffer.length = 64 := hstored.room.trans hroom
  have hcount := hstored.buffered
  have htaken := hstored.taken
  by_cases hfull : counted.buffered + taken.length = 64
  · -- the buffer is compressed, then whole blocks of the chunk, and the rest is buffered
    have hbuffer : filled.buffer = counted.buffer.take counted.buffered ++ taken := by
      rw [← htaken, hcount, hfull, ← hlength, List.take_length]
    have hflush : filled.flush =
        { filled with state := counted.state.compress filled.buffer, buffered := 0 } := by
      rw [flush, if_pos (by omega), hstored.state]
    rw [← hpending] at hfull
    have hfilled := hfed.fill hfull
    rw [← hbuffer] at hfilled
    obtain ⟨state, whole, rest, rfl, hrest, hloop, hlast⟩ := compressWhole_fed
      { filled with state := counted.state.compress filled.buffer, buffered := 0 } hlength
      (Nat.le_refl left.length) hfilled
    rw [hflush, hloop]
    obtain ⟨stored, hall, h⟩ := storeAll_fits rest
      { filled with state := state, buffered := 0 } (by
        rw [hlength, Nat.zero_add]
        omega)
    refine ⟨stored, hall, h.room.trans hlength, ?_, ?_, ?_⟩
    · rw [h.taken, h.state, ← List.append_assoc, ← List.append_assoc]
      exact hlast.hold (by rwa [List.length_nil, Nat.zero_add])
    · rw [h.buffered, Nat.zero_add]
      exact hrest
    · rw [h.total]
      exact (congrArg UInt64.toNat hstored.total).trans htotal
  · have hnone : left = [] := hdone.resolve_right (by omega)
    have hflush : filled.flush = filled := if_neg (by omega)
    rw [hnone, hflush]
    refine ⟨filled, rfl, hlength, ?_, by omega, ?_⟩
    · rw [htaken, hstored.state, List.append_nil]
      exact hfed.hold (by omega)
    · rw [hstored.total, htotal, hnone]

theorem Holds.buffered_eq {data : Bytes} {hasher : Sha256Stream} (h : hasher.Holds data) :
    hasher.buffered = data.length % 64 := by
  have hpending := h.fed.pending_length
  have hroom := h.room
  have hbuffered := h.buffered
  rw [List.length_take] at hpending
  omega

theorem Holds.padZeros {data : Bytes} {hasher : Sha256Stream} (h : hasher.Holds data) {fuel : Nat}
    (hfuel : (120 - hasher.buffered) % 64 < fuel) :
    ∃ padded, Sha256Stream.padZeros fuel hasher = some padded ∧
      padded.Holds (data ++ List.replicate ((120 - data.length % 64) % 64) 0) := by
  induction fuel generalizing data hasher with
  | zero => omega
  | succ fuel ih =>
    have hbuffered := h.buffered_eq
    rw [Sha256Stream.padZeros]
    by_cases hdone : hasher.buffered = 56
    · rw [if_neg (not_not.2 hdone), show (120 - data.length % 64) % 64 = 0 by omega,
        List.replicate_zero, List.append_nil]
      exact ⟨hasher, rfl, h⟩
    · obtain ⟨updated, hupdate, hmore⟩ := h.update [0]
      have hlast := hmore.buffered_eq
      rw [List.length_append, List.length_singleton] at hlast
      obtain ⟨padded, hloop, hpadded⟩ := ih hmore (by omega)
      rw [List.length_append, List.length_singleton, List.append_assoc, List.singleton_append,
        ← List.replicate_succ] at hpadded
      rw [if_pos hdone, hupdate]
      refine ⟨padded, hloop, ?_⟩
      rw [show (120 - data.length % 64) % 64 = (120 - (data.length + 1) % 64) % 64 + 1 by omega]
      exact hpadded

theorem lengthBytes_eq (totalBits : UInt64) :
    lengthBytes totalBits = Standard.bigEndian 8 totalBits.toNat := by
  apply List.map_congr_left
  intro index hindex
  rw [List.mem_range] at hindex
  apply UInt8.toNat_inj.1
  have hshift : (totalBits >>> UInt64.ofNat (8 * (7 - index))).toNat =
      totalBits.toNat / 256 ^ (8 - 1 - index) := by
    rw [UInt64.toNat_shiftRight, UInt64.toNat_ofNat_of_lt' (by
      change _ < 2 ^ 64
      omega), Nat.mod_eq_of_lt (by omega), Nat.shiftRight_eq_div_pow, Nat.pow_mul]
  rw [ByteCodec.low_byte, hshift]
  exact (UInt8.toNat_ofNat' ..).symm

theorem storeBe32_eq (word : UInt32) : storeBe32 word = Standard.bigEndian 4 word.toNat := by
  have hbyte (value : UInt32) (count : Nat) (h : value.toNat = word.toNat / count) :
      (value &&& 0xFF).toUInt8 = UInt8.ofNat (word.toNat / count) := by
    apply UInt8.toNat_inj.1
    rw [UInt32.toNat_toUInt8, UInt32.toNat_and, UInt8.toNat_ofNat', h]
    change (word.toNat / count &&& (2 ^ 8 - 1)) % 2 ^ 8 = _
    rw [Nat.and_two_pow_sub_one_eq_mod, Nat.mod_mod]
  have hshift (bits : Nat) (hbits : bits < 32) :
      (word >>> UInt32.ofNat bits).toNat = word.toNat / 2 ^ bits := by
    rw [UInt32.toNat_shiftRight, UInt32.toNat_ofNat_of_lt' (by
      change _ < 2 ^ 32
      omega), Nat.mod_eq_of_lt hbits, Nat.shiftRight_eq_div_pow]
  have h3 := hbyte (word >>> 24) (256 ^ 3) (hshift 24 (by decide))
  have h2 := hbyte (word >>> 16) (256 ^ 2) (hshift 16 (by decide))
  have h1 := hbyte (word >>> 8) (256 ^ 1) (hshift 8 (by decide))
  have h0 := hbyte word (256 ^ 0) (Nat.div_one _).symm
  rw [storeBe32, h3, h2, h1, h0]
  rfl

theorem digest_eq (words : ShaWords) :
    digest words = [words.a, words.b, words.c, words.d, words.e, words.f, words.g,
      words.h].flatMap fun word => Standard.bigEndian 4 word.toNat := by
  rw [digest, funext storeBe32_eq]

theorem fold_compress_eq (data : Bytes) :
    fold 64 ShaWords.compress .initial data =
      fold 64 Standard.compress Standard.initial data := by
  rw [← initial_eq]
  apply List.foldl_ext
  intro state block hblock
  obtain ⟨index, hindex, rfl⟩ := List.mem_map.1 hblock
  rw [List.mem_range] at hindex
  apply compress_eq
  rw [List.length_take, List.length_drop]
  omega

/-- The bytes that have been hashed are digested as the standard says. -/
theorem Holds.finish {data : Bytes} {hasher : Sha256Stream} (h : hasher.Holds data)
    (hlength : data.length < 2 ^ 61) : hasher.finish = some (Standard.sha256 data) := by
  obtain ⟨marked, hmark, hmarked⟩ := h.update [0x80]
  have hfuel : (120 - marked.buffered) % 64 < 64 := Nat.mod_lt _ (by decide)
  obtain ⟨padded, hpad, hpadded⟩ := hmarked.padZeros hfuel
  obtain ⟨ended, hend, hended⟩ := hpadded.update (lengthBytes (hasher.totalBytes * 8))
  have hbits : (hasher.totalBytes * 8).toNat = 8 * data.length := by
    rw [UInt64.toNat_mul, h.total]
    change data.length % 2 ^ 64 * 8 % 2 ^ 64 = _
    omega
  have hmessage : data ++ [0x80] ++
      List.replicate ((120 - (data ++ [0x80]).length % 64) % 64) 0 ++
        lengthBytes (hasher.totalBytes * 8) = Standard.pad data := by
    rw [lengthBytes_eq, hbits, List.length_append, List.length_singleton, Standard.pad,
      Standard.zeros, show (120 - (data.length + 1) % 64) % 64 = (119 - data.length % 64) % 64 by
        omega]
  rw [hmessage] at hended
  have hstate := hended.fed.finished (Standard.pad_length data)
  rw [fold_compress_eq] at hstate
  rw [Sha256Stream.finish, hmark]
  change (Sha256Stream.padZeros 64 marked >>= fun hasher' =>
    hasher'.update (lengthBytes (hasher.totalBytes * 8)) >>= fun hasher' =>
      some (digest hasher'.state)) = _
  rw [hpad]
  change (padded.update (lengthBytes (hasher.totalBytes * 8)) >>= fun hasher' =>
      some (digest hasher'.state)) = _
  rw [hend]
  change some (digest ended.state) = _
  rw [digest_eq, hstate]
  rfl

theorem Holds.updates {data : Bytes} {hasher : Sha256Stream} (h : hasher.Holds data)
    (chunks : List Bytes) :
    ∃ updated, chunks.foldlM Sha256Stream.update hasher = some updated ∧
      updated.Holds (data ++ chunks.flatten) := by
  induction chunks generalizing data hasher with
  | nil =>
    rw [List.flatten_nil, List.append_nil]
    exact ⟨hasher, rfl, h⟩
  | cons chunk rest ih =>
    obtain ⟨updated, hupdate, hupdated⟩ := h.update chunk
    obtain ⟨last, hrest, hlast⟩ := ih hupdated
    refine ⟨last, ?_, ?_⟩
    · rw [List.foldlM_cons, hupdate]
      exact hrest
    · rw [List.flatten_cons, ← List.append_assoc]
      exact hlast

end Sha256Stream

/-- The byte-wise hasher has taken in some data. -/
structure Sha256.Holds (data : Bytes) (hasher : Sha256) : Prop where
  fed : Fed 64 ShaWords.compress .initial hasher.state hasher.buffer data
  total : hasher.totalBytes.toNat = data.length % 2 ^ 64

theorem Sha256.Holds.absorb {data : Bytes} {hasher : Sha256} (h : hasher.Holds data)
    (byte : UInt8) : (hasher.absorb byte).Holds (data ++ [byte]) := by
  have htotal : (hasher.totalBytes + 1).toNat = (data ++ [byte]).length % 2 ^ 64 := by
    rw [UInt64.toNat_add, h.total, UInt64.toNat_one, List.length_append, List.length_singleton]
    omega
  have hshort := h.fed.short
  unfold Sha256.absorb
  dsimp only
  split
  · rename_i hfull
    rw [List.length_append] at hfull
    exact ⟨h.fed.fill hfull, htotal⟩
  · rename_i hopen
    refine ⟨h.fed.hold ?_, htotal⟩
    rw [List.length_append] at hopen
    rw [List.length_singleton] at hopen ⊢
    omega

theorem Sha256.Holds.update {data : Bytes} {hasher : Sha256} (h : hasher.Holds data)
    (more : Bytes) : (hasher.update more).Holds (data ++ more) := by
  induction more generalizing data hasher with
  | nil => rwa [List.append_nil]
  | cons byte rest ih =>
    have hrest := ih (h.absorb byte)
    rw [List.append_assoc] at hrest
    exact hrest

theorem leBytes_reverse (count : Nat) (value : UInt64) :
    (ByteCodec.leBytes count value).reverse = Standard.bigEndian count value.toNat := by
  induction count generalizing value with
  | zero => rfl
  | succ count ih =>
    have hlow : (value &&& 0xFF).toUInt8 = UInt8.ofNat (value.toNat / 256 ^ (count - count)) := by
      apply UInt8.toNat_inj.1
      rw [ByteCodec.low_byte, Nat.sub_self, pow_zero, Nat.div_one, UInt8.toNat_ofNat']
    have hshift : (value >>> 8).toNat = value.toNat / 256 := by
      rw [UInt64.toNat_shiftRight]
      exact Nat.shiftRight_eq_div_pow _ _
    rw [ByteCodec.leBytes, List.reverse_cons, ih, hshift, Standard.bigEndian, Standard.bigEndian,
      List.range_succ, List.map_append, List.map_singleton, Nat.add_sub_cancel, hlow]
    congr 1
    apply List.map_congr_left
    intro index hindex
    rw [List.mem_range] at hindex
    rw [Nat.div_div_eq_div_mul, ← Nat.pow_succ', show (count - 1 - index).succ = count - index by
      omega]

theorem sha256_eq (data : Bytes) (hlength : data.length < 2 ^ 61) :
    sha256 data = Standard.sha256 data := by
  have hstart : ({} : Sha256).Holds [] := ⟨.start (by decide) _, rfl⟩
  have hdata := hstart.update data
  rw [List.nil_append] at hdata
  have hmarked := hdata.update [0x80]
  obtain ⟨hasher, hhasher⟩ : ∃ hasher, hasher = Sha256.update {} data := ⟨_, rfl⟩
  rw [← hhasher] at hdata hmarked
  have hended := (hmarked.update (List.replicate
    ((120 - (hasher.update [0x80]).buffer.length) % 64) 0)).update
      (ByteCodec.leBytes 8 (hasher.totalBytes * 8)).reverse
  have hbits : (hasher.totalBytes * 8).toNat = 8 * data.length := by
    rw [UInt64.toNat_mul, hdata.total]
    change data.length % 2 ^ 64 * 8 % 2 ^ 64 = _
    omega
  have hzeros : (120 - (hasher.update [0x80]).buffer.length) % 64 = Standard.zeros data.length := by
    rw [hmarked.fed.pending_length, List.length_append, List.length_singleton, Standard.zeros]
    omega
  rw [leBytes_reverse, hbits, hzeros, ← Standard.pad] at hended
  have hstate := hended.fed.finished (Standard.pad_length data)
  rw [Sha256Stream.fold_compress_eq] at hstate
  rw [LinkObservatory.sha256, ← hhasher, Sha256.finish, Standard.sha256, ← hstate, leBytes_reverse,
    hbits, hzeros]
  exact Sha256Stream.digest_eq _

/-- However the data is cut, hashing ends within the buffer and gives the standard's digest. -/
theorem sha256_chunks {chunks : List Bytes} (hlength : chunks.flatten.length < 2 ^ 61) :
    (chunks.foldlM Sha256Stream.update {} >>= Sha256Stream.finish) =
      some (Standard.sha256 chunks.flatten) := by
  obtain ⟨updated, hupdates, h⟩ := Sha256Stream.Holds.start.updates chunks
  rw [List.nil_append] at h
  rw [hupdates]
  exact h.finish hlength

theorem sha256_chunks_abc :
    ([ascii "a", ascii "bc"].foldlM Sha256Stream.update {} >>= Sha256Stream.finish) =
      some (Standard.sha256 (ascii "abc")) :=
  sha256_chunks (by decide)

end LinkObservatory
