import Mathlib

namespace ByteCodec
set_option autoImplicit true

/-- The bytes of a word, least significant first. -/
def leBytes : Nat → UInt64 → List UInt8
  | 0, _ => []
  | n + 1, value => (value &&& 0xFF).toUInt8 :: leBytes n (value >>> 8)

/-- A reader consumes a front part of its input or fails. -/
abbrev Reader (ε α : Type) := StateT (List UInt8) (Except ε) α

def readByte (truncated : ε) : Reader ε UInt8
  | [] => .error truncated
  | byte :: rest => .ok (byte, rest)

/-- Accumulates a word from its bytes, least significant first. -/
def readWord (truncated : ε) : Nat → Nat → UInt64 → Reader ε UInt64
  | 0, _, value => pure value
  | n + 1, shift, value => do
    let byte ← readByte truncated
    readWord truncated n (shift + 8) (value ||| (byte.toUInt64 <<< UInt64.ofNat shift))

def readExactly (truncated : ε) (n : Nat) : Reader ε (List UInt8) := fun input =>
  if n > input.length then .error truncated else .ok (input.take n, input.drop n)

def readMany (reader : Reader ε α) : Nat → Reader ε (List α)
  | 0 => pure []
  | n + 1 => do
    let head ← reader
    let tail ← readMany reader n
    return head :: tail

/-- Reports the failures of a reader in other terms. -/
def relabel (report : ε → δ) (reader : Reader ε α) : Reader δ α := fun input =>
  (reader input).mapError report

/-- In front of any input, `bytes` is never read as anything but `a`, and it is read as `a` when
it fits the reader's bounds. -/
structure Codes (reader : Reader ε α) (bytes : List UInt8) (a : α) (fits : Prop) : Prop where
  read : fits → ∀ rest, reader (bytes ++ rest) = .ok (a, rest)
  exact : ∀ rest result, reader (bytes ++ rest) = .ok result → result = (a, rest)

theorem Codes.of_read {reader : Reader ε α} (h : ∀ rest, reader (bytes ++ rest) = .ok (a, rest)) :
    Codes reader bytes a True where
  read _ := h
  exact rest result hr := by
    rw [h rest] at hr
    exact (Except.ok.inj hr).symm

theorem Codes.mono (h : Codes reader bytes a fits) (hf : fits' → fits) :
    Codes reader bytes a fits' :=
  ⟨fun h' => h.read (hf h'), h.exact⟩

theorem Codes.pure (a : α) : Codes (Pure.pure a : Reader ε α) [] a True := .of_read fun _ => rfl

/-- Readers compose, and so do the bounds under which they succeed. -/
theorem Codes.bind {reader : Reader ε α} {next : α → Reader ε β}
    (h : Codes reader bytes a fits) (hn : Codes (next a) bytes' b fits') :
    Codes (reader >>= next) (bytes ++ bytes') b (fits ∧ fits') where
  read hf rest := by
    rw [List.append_assoc]
    show (reader (bytes ++ (bytes' ++ rest))).bind _ = _
    rw [h.read hf.1]
    exact hn.read hf.2 rest
  exact rest result hr := by
    rw [List.append_assoc] at hr
    change (reader (bytes ++ (bytes' ++ rest))).bind _ = _ at hr
    cases hfirst : reader (bytes ++ (bytes' ++ rest)) with
    | error e =>
      rw [hfirst] at hr
      cases hr
    | ok first =>
      rw [hfirst, h.exact _ _ hfirst] at hr
      exact hn.exact rest result hr

theorem Codes.seq {reader : Reader ε α} {next : α → Reader ε β}
    (h : Codes reader bytes a True) (hn : Codes (next a) bytes' b fits) :
    Codes (reader >>= next) (bytes ++ bytes') b fits :=
  (h.bind hn).mono fun hf => ⟨trivial, hf⟩

theorem Codes.before {reader : Reader ε α} {next : α → Reader ε β}
    (h : Codes reader bytes a fits) (hn : Codes (next a) bytes' b True) :
    Codes (reader >>= next) (bytes ++ bytes') b fits :=
  (h.bind hn).mono fun hf => ⟨hf, trivial⟩

theorem Codes.last {reader : Reader ε α} (f : α → β) (h : Codes reader bytes a fits) :
    Codes (reader >>= fun x => Pure.pure (f x)) bytes (f a) fits := by
  have hbind : Codes (reader >>= fun x => Pure.pure (f x)) _ _ _ := h.bind (Codes.pure (f a))
  rw [List.append_nil] at hbind
  exact hbind.mono fun hf => ⟨hf, trivial⟩

theorem Codes.relabel {reader : Reader ε α} (h : Codes reader bytes a fits) (report : ε → δ) :
    Codes (ByteCodec.relabel report reader) bytes a fits where
  read hf rest := by
    unfold ByteCodec.relabel
    rw [h.read hf]
    rfl
  exact rest result hr := by
    unfold ByteCodec.relabel at hr
    cases hfirst : reader (bytes ++ rest) with
    | error e =>
      rw [hfirst] at hr
      cases hr
    | ok first =>
      rw [hfirst] at hr
      cases hr
      exact h.exact rest _ hfirst

theorem Codes.skip {reader : Reader ε α} {next : α → Reader ε β}
    (h : Codes reader [] a True) (hn : Codes (next a) bytes b fits) :
    Codes (reader >>= next) bytes b fits :=
  h.seq hn

theorem Codes.check {reader : Reader ε α} {condition : Prop} [Decidable condition]
    (h : Codes reader bytes a fits) :
    Codes (if condition then reader else throw e) bytes a (condition ∧ fits) where
  read hf rest := by
    rw [if_pos hf.1]
    exact h.read hf.2 rest
  exact rest result hr := by
    by_cases hc : condition
    · rw [if_pos hc] at hr
      exact h.exact rest result hr
    · rw [if_neg hc] at hr
      cases hr

theorem codes_byte (truncated : ε) (byte : UInt8) :
    Codes (readByte truncated) [byte] byte True := .of_read fun _ => rfl

theorem readExactly_append (truncated : ε) (bytes rest : List UInt8) :
    readExactly truncated bytes.length (bytes ++ rest) = .ok (bytes, rest) := by
  unfold readExactly
  rw [if_neg (by simp), List.take_left, List.drop_left]

theorem codes_exactly (truncated : ε) (h : bytes.length = n) :
    Codes (readExactly truncated n) bytes bytes True := by
  subst h
  exact .of_read (readExactly_append truncated bytes)

theorem codes_many {reader : Reader ε α} {encode : α → List UInt8} {fits : α → Prop}
    (items : List α) (h : ∀ a ∈ items, Codes reader (encode a) a (fits a)) :
    Codes (readMany reader items.length) (items.flatMap encode) items (∀ a ∈ items, fits a) := by
  induction items with
  | nil => exact (Codes.pure _).mono fun _ => trivial
  | cons a items ih =>
    have htail := ih fun x hx => h x (List.mem_cons_of_mem _ hx)
    rw [List.flatMap_cons]
    refine ((h a (List.mem_cons_self ..)).bind (htail.last (a :: ·))).mono ?_
    exact fun hf => ⟨hf a (List.mem_cons_self ..), fun x hx => hf x (List.mem_cons_of_mem _ hx)⟩

theorem length_le_flatMap {encode : α → List UInt8} (items : List α)
    (h : ∀ a, 0 < (encode a).length) : items.length ≤ (items.flatMap encode).length := by
  induction items with
  | nil => simp
  | cons a items ih =>
    have ha := h a
    rw [List.flatMap_cons, List.length_append, List.length_cons]
    omega

theorem length_le_flatMap_of_mem (encode : α → List UInt8) {items : List α} (h : a ∈ items) :
    (encode a).length ≤ (items.flatMap encode).length := by
  rw [List.length_flatMap]
  exact List.single_le_sum (by simp) _ (List.mem_map_of_mem h)

theorem gather_byte (value : UInt64) (byte : UInt8) (hv : value.toNat < 2 ^ shift)
    (hs : shift + 8 ≤ 64) :
    (value ||| (byte.toUInt64 <<< UInt64.ofNat shift)).toNat =
      value.toNat + 2 ^ shift * byte.toNat := by
  have hb : byte.toNat < 2 ^ 8 := byte.toNat_lt
  have hshift : (UInt64.ofNat shift).toNat = shift := by
    rw [UInt64.toNat_ofNat', Nat.mod_eq_of_lt (by omega)]
  have hpow : 2 ^ shift * byte.toNat < 2 ^ 64 := by
    calc 2 ^ shift * byte.toNat < 2 ^ shift * 2 ^ 8 := by gcongr
      _ = 2 ^ (shift + 8) := by rw [pow_add]
      _ ≤ 2 ^ 64 := Nat.pow_le_pow_right (by decide) hs
  rw [UInt64.toNat_or, UInt64.toNat_shiftLeft, hshift, Nat.mod_eq_of_lt (show shift < 64 by omega),
    UInt8.toNat_toUInt64, Nat.shiftLeft_eq, Nat.mul_comm byte.toNat,
    Nat.mod_eq_of_lt hpow, Nat.or_comm]
  have h := Nat.two_pow_add_eq_or_of_lt hv byte.toNat
  omega

theorem low_byte (value : UInt64) : (value &&& 0xFF).toUInt8.toNat = value.toNat % 2 ^ 8 := by
  rw [UInt64.toNat_toUInt8, UInt64.toNat_and]
  have h : value.toNat &&& (0xFF : UInt64).toNat = value.toNat % 2 ^ 8 :=
    Nat.and_two_pow_sub_one_eq_mod value.toNat 8
  rw [h, Nat.mod_mod]

theorem readWord_leBytes (truncated : ε) (n shift : Nat) (value acc : UInt64)
    (hacc : acc.toNat < 2 ^ shift) (hs : shift + 8 * n ≤ 64) (rest : List UInt8) :
    ∃ result : UInt64, readWord truncated n shift acc (leBytes n value ++ rest) = .ok (result, rest) ∧
      result.toNat = acc.toNat + 2 ^ shift * (value.toNat % 2 ^ (8 * n)) := by
  induction n generalizing shift value acc with
  | zero => exact ⟨acc, rfl, by simp [Nat.mod_one]⟩
  | succ n ih =>
    have hgather := gather_byte acc (value &&& 0xFF).toUInt8 hacc (by omega)
    rw [low_byte] at hgather
    have hbound : acc.toNat + 2 ^ shift * (value.toNat % 2 ^ 8) < 2 ^ (shift + 8) := by
      have hmod : value.toNat % 2 ^ 8 + 1 ≤ 2 ^ 8 := Nat.mod_lt _ (by decide)
      calc acc.toNat + 2 ^ shift * (value.toNat % 2 ^ 8)
          < 2 ^ shift + 2 ^ shift * (value.toNat % 2 ^ 8) := by omega
        _ = 2 ^ shift * (value.toNat % 2 ^ 8 + 1) := by ring
        _ ≤ 2 ^ shift * 2 ^ 8 := Nat.mul_le_mul_left _ hmod
        _ = 2 ^ (shift + 8) := by rw [pow_add]
    obtain ⟨result, hread, hvalue⟩ := ih (shift + 8) (value >>> 8)
      (acc ||| ((value &&& 0xFF).toUInt8.toUInt64 <<< UInt64.ofNat shift))
      (by rw [hgather]; exact hbound) (by omega)
    refine ⟨result, hread, ?_⟩
    have hshift : (value >>> 8).toNat = value.toNat / 2 ^ 8 := by
      rw [UInt64.toNat_shiftRight, Nat.shiftRight_eq_div_pow]
      rfl
    rw [hvalue, hgather, hshift, show 8 * (n + 1) = 8 + 8 * n by ring, pow_add 2 8,
      Nat.mod_mul]
    ring

theorem codes_word (truncated : ε) (value : UInt64) :
    Codes (readWord truncated 8 0 0) (leBytes 8 value) value True := by
  refine .of_read fun rest => ?_
  obtain ⟨result, hread, hvalue⟩ :=
    readWord_leBytes truncated 8 0 value 0 (by decide) (by decide) rest
  have heq : result = value := by
    apply UInt64.toNat_inj.1
    have hlt := value.toNat_lt
    rw [hvalue, Nat.mod_eq_of_lt (by simpa using hlt)]
    simp
  rw [hread, heq]

theorem codes_halfWord (truncated : ε) (value : UInt32) :
    Codes (readWord truncated 4 0 0) (leBytes 4 value.toUInt64) value.toUInt64 True := by
  refine .of_read fun rest => ?_
  obtain ⟨result, hread, hvalue⟩ :=
    readWord_leBytes truncated 4 0 value.toUInt64 0 (by decide) (by decide) rest
  have heq : result = value.toUInt64 := by
    apply UInt64.toNat_inj.1
    have hlt := value.toNat_lt
    rw [hvalue, Nat.mod_eq_of_lt (by simpa using hlt)]
    simp
  rw [hread, heq]

/-- The word that bytes at hand make, least significant first. -/
def gather : Nat → UInt64 → List UInt8 → UInt64
  | _, value, [] => value
  | shift, value, byte :: rest =>
    gather (shift + 8) (value ||| (byte.toUInt64 <<< UInt64.ofNat shift)) rest

theorem readWord_eq_gather (truncated : ε) (shift : Nat) (value : UInt64) (bytes rest : List UInt8) :
    readWord truncated bytes.length shift value (bytes ++ rest) =
      .ok (gather shift value bytes, rest) := by
  induction bytes generalizing shift value with
  | nil => rfl
  | cons byte bytes ih => exact ih (shift + 8) _

theorem gather_word (value : UInt64) : gather 0 0 (leBytes 8 value) = value := by
  have hread := (codes_word () value).read trivial []
  have hgather := readWord_eq_gather () 0 0 (leBytes 8 value) []
  exact congrArg Prod.fst (Except.ok.inj (hgather.symm.trans hread))

theorem gather_halfWord (value : UInt32) :
    gather 0 0 (leBytes 4 value.toUInt64) = value.toUInt64 := by
  have hread := (codes_halfWord () value).read trivial []
  have hgather := readWord_eq_gather () 0 0 (leBytes 4 value.toUInt64) []
  exact congrArg Prod.fst (Except.ok.inj (hgather.symm.trans hread))

theorem readMany_map (f : α → β) (reader : Reader ε α) (n : Nat) :
    readMany (f <$> reader) n = List.map f <$> readMany reader n := by
  induction n with
  | zero => rfl
  | succ n ih =>
    simp only [readMany, ih, map_bind, bind_map_left, map_pure, List.map_cons]

theorem relabel_map (report : ε → δ) (f : α → β) (reader : Reader ε α) :
    relabel report (f <$> reader) = f <$> relabel report reader := by
  funext input
  show ((reader input).bind _).mapError report = ((reader input).mapError report).bind _
  cases reader input <;> rfl

theorem leBytes_surjective (bytes : List UInt8) (h : bytes.length ≤ 8) :
    ∃ value : UInt64, leBytes bytes.length value = bytes ∧
      value.toNat < 2 ^ (8 * bytes.length) := by
  induction bytes with
  | nil => exact ⟨0, rfl, by decide⟩
  | cons byte bytes ih =>
    rw [List.length_cons] at h ⊢
    obtain ⟨high, hhigh, hlt⟩ := ih (by omega)
    have hbyte : byte.toNat < 2 ^ 8 := byte.toNat_lt
    have hpow : 2 ^ (8 * (bytes.length + 1)) = 2 ^ 8 * 2 ^ (8 * bytes.length) := by
      rw [← pow_add, show 8 * (bytes.length + 1) = 8 + 8 * bytes.length by ring]
    have hsum : byte.toNat + 2 ^ 8 * high.toNat < 2 ^ (8 * (bytes.length + 1)) := by
      rw [hpow]
      omega
    have hword : 2 ^ (8 * (bytes.length + 1)) ≤ 2 ^ 64 :=
      Nat.pow_le_pow_right (by decide) (by omega)
    have hvalue : (UInt64.ofNat (byte.toNat + 2 ^ 8 * high.toNat)).toNat =
        byte.toNat + 2 ^ 8 * high.toNat :=
      UInt64.toNat_ofNat_of_lt' (Nat.lt_of_lt_of_le hsum hword)
    refine ⟨UInt64.ofNat (byte.toNat + 2 ^ 8 * high.toNat), ?_, by rw [hvalue]; exact hsum⟩
    have hlow : (UInt64.ofNat (byte.toNat + 2 ^ 8 * high.toNat) &&& 0xFF).toUInt8 = byte := by
      apply UInt8.toNat_inj.1
      rw [low_byte, hvalue]
      omega
    have hrest : UInt64.ofNat (byte.toNat + 2 ^ 8 * high.toNat) >>> 8 = high := by
      apply UInt64.toNat_inj.1
      rw [UInt64.toNat_shiftRight, Nat.shiftRight_eq_div_pow, hvalue]
      show _ / 2 ^ 8 = _
      omega
    rw [leBytes, hlow, hrest, hhigh]

/-- Whenever the reader succeeds, the bytes it took and the value it made of them are related. -/
def Consumes (reader : Reader ε α) (related : List UInt8 → α → Prop) : Prop :=
  ∀ input a rest, reader input = .ok (a, rest) → ∃ bytes, input = bytes ++ rest ∧ related bytes a

namespace Consumes

theorem mono {reader : Reader ε α} (h : Consumes reader related)
    (himp : ∀ bytes a, related bytes a → related' bytes a) : Consumes reader related' := by
  intro input a rest hread
  obtain ⟨bytes, rfl, hrelated⟩ := h input a rest hread
  exact ⟨bytes, rfl, himp bytes a hrelated⟩

theorem pure {related : List UInt8 → α → Prop} (h : related [] a) :
    Consumes (Pure.pure a : Reader ε α) related := by
  intro input b rest hread
  cases hread
  exact ⟨[], rfl, h⟩

theorem throw (e : ε) (related : List UInt8 → α → Prop) :
    Consumes (MonadExcept.throw e : Reader ε α) related := by
  intro input a rest hread
  cases hread

/-- What the rest of a computation takes follows what its first step took. -/
theorem bind {reader : Reader ε α} {next : α → Reader ε β} (h : Consumes reader related)
    (hnext : ∀ a front, related front a → Consumes (next a) fun back b => related' (front ++ back) b) :
    Consumes (reader >>= next) related' := by
  intro input b rest hread
  change (reader input).bind _ = _ at hread
  cases hfirst : reader input with
  | error e =>
    rw [hfirst] at hread
    cases hread
  | ok first =>
    rw [hfirst] at hread
    obtain ⟨a, middle⟩ := first
    obtain ⟨front, rfl, hfront⟩ := h input a middle hfirst
    obtain ⟨back, rfl, hback⟩ := hnext a front hfront middle b rest hread
    exact ⟨front ++ back, by rw [List.append_assoc], hback⟩

theorem check {reader : Reader ε α} {condition : Prop} [Decidable condition] {e : ε}
    (h : condition → Consumes reader related) :
    Consumes (if condition then reader else MonadExcept.throw e) related := by
  split
  · rename_i hcondition
    exact h hcondition
  · exact throw e related

theorem relabel {reader : Reader ε α} (h : Consumes reader related) (report : ε → δ) :
    Consumes (ByteCodec.relabel report reader) related := by
  intro input a rest hread
  unfold ByteCodec.relabel at hread
  cases hfirst : reader input with
  | error e =>
    rw [hfirst] at hread
    cases hread
  | ok first =>
    rw [hfirst] at hread
    cases hread
    exact h input a rest hfirst

theorem byte (truncated : ε) : Consumes (readByte truncated) fun bytes a => bytes = [a] := by
  intro input a rest hread
  cases input with
  | nil => cases hread
  | cons head tail =>
    cases hread
    exact ⟨[a], rfl, rfl⟩

theorem exactly (truncated : ε) (n : Nat) :
    Consumes (readExactly truncated n) fun bytes a => bytes = a ∧ a.length = n := by
  intro input a rest hread
  unfold readExactly at hread
  split at hread
  · cases hread
  · rename_i hlong
    cases hread
    exact ⟨input.take n, (List.take_append_drop n input).symm, rfl, List.length_take_of_le
      (Nat.not_lt.1 hlong)⟩

theorem many {reader : Reader ε α} {encode : α → List UInt8} {fits : α → Prop}
    (h : Consumes reader fun bytes a => bytes = encode a ∧ fits a) (n : Nat) :
    Consumes (readMany reader n) fun bytes items =>
      bytes = items.flatMap encode ∧ items.length = n ∧ ∀ a ∈ items, fits a := by
  induction n with
  | zero => exact .pure ⟨rfl, rfl, by simp⟩
  | succ n ih =>
    refine h.bind fun a front hfront => ih.bind fun items back hback => .pure ?_
    obtain ⟨rfl, hfits⟩ := hfront
    obtain ⟨rfl, rfl, hitems⟩ := hback
    exact ⟨by simp, rfl, List.forall_mem_cons.2 ⟨hfits, hitems⟩⟩

theorem wordLength (truncated : ε) (n shift : Nat) (acc : UInt64) :
    Consumes (readWord truncated n shift acc) fun bytes _ => bytes.length = n := by
  induction n generalizing shift acc with
  | zero => exact .pure rfl
  | succ n ih =>
    refine (byte truncated).bind fun first front hfront => (ih _ _).mono fun back _ hback => ?_
    rw [hfront, List.singleton_append, List.length_cons, hback]

theorem word (truncated : ε) (h : n ≤ 8) : Consumes (readWord truncated n 0 0) fun bytes a =>
    bytes = leBytes n a ∧ a.toNat < 2 ^ (8 * n) := by
  intro input a rest hread
  obtain ⟨bytes, rfl, rfl⟩ := wordLength truncated n 0 0 input a rest hread
  obtain ⟨value, hvalue, hlt⟩ := leBytes_surjective bytes h
  obtain ⟨result, hresult, hsame⟩ :=
    readWord_leBytes truncated bytes.length 0 value 0 (by decide) (by omega) rest
  rw [hvalue, hread] at hresult
  cases hresult
  have heq : a = value := by
    apply UInt64.toNat_inj.1
    rw [hsame, Nat.mod_eq_of_lt hlt]
    simp
  rw [heq]
  exact ⟨bytes, rfl, hvalue.symm, hlt⟩

end Consumes

end ByteCodec
