import LinkObservatory.Identity
import LinkObservatory.WideArithmetic

namespace LinkObservatory
set_option autoImplicit true

def kFnvOffset : Hash128 := { hi := 0x6c62272e07bb0142, lo := 0x62b821756295c58d }

def hash128Bytes (data : Bytes) : Hash128 := data.foldl fnvByte kFnvOffset

def hash128 (data : Bytes) : Hash128 := hash128Bytes data

/-- Continues a hash over more bytes. -/
def hash128Extend (seed : Hash128) (data : Bytes) : Hash128 := data.foldl fnvByte seed

def Hash128.toNat (value : Hash128) : Nat := value.hi.toNat * 2 ^ 64 + value.lo.toNat

/-- The prime of the 128-bit FNV hash. -/
def fnvPrime : Nat := 2 ^ 88 + 0x13B

/-- One byte of the 128-bit FNV-1a hash. -/
def fnv1aByte (state : Nat) (byte : UInt8) : Nat := (state ^^^ byte.toNat) * fnvPrime % 2 ^ 128

/-- The 128-bit FNV-1a hash of a byte string. -/
def fnv1a128 (data : Bytes) : Nat := data.foldl fnv1aByte 0x6c62272e07bb014262b821756295c58d

/-- The words that the bytes of a string meet when a word is multiplied by `2 ^ 24 + 0x13B`. -/
def lowWords : Nat → Bytes → List Nat
  | _, [] => []
  | low, byte :: rest =>
    (low ^^^ byte.toNat) ::
      lowWords ((low ^^^ byte.toNat) * (2 ^ 24 + 0x13B) % 2 ^ 64) rest

/-- Words weighted by falling powers of the prime, behind a sum of earlier ones. -/
def weighted : Nat → List Nat → Nat
  | sum, [] => sum
  | sum, word :: rest => weighted (sum * fnvPrime + word) rest

theorem Hash128.toNat_lt (value : Hash128) : value.toNat < 2 ^ 128 := by
  have hhi := value.hi.toNat_lt
  have hlo := value.lo.toNat_lt
  unfold Hash128.toNat
  omega

theorem mulU64Full_toNat (lhs rhs : UInt64) :
    (mulU64Full lhs rhs).toNat = lhs.toNat * rhs.toNat := by
  obtain ⟨hprod, hll, hlh, hhl, hhh⟩ := limb_products lhs.toNat_lt rhs.toNat_lt
  simp only [Hash128.toNat, mulU64Full, UInt64.toNat_add, UInt64.toNat_or, UInt64.toNat_mul,
    toNat_and_low, toNat_shiftRight_32, toNat_shiftLeft_32]
  rw [hprod, shifted_or_low _ (Nat.mod_lt _ (by decide))]
  generalize lhs.toNat % 2 ^ 32 * (rhs.toNat % 2 ^ 32) = ll at *
  generalize lhs.toNat % 2 ^ 32 * (rhs.toNat / 2 ^ 32) = lh at *
  generalize lhs.toNat / 2 ^ 32 * (rhs.toNat % 2 ^ 32) = hl at *
  generalize lhs.toNat / 2 ^ 32 * (rhs.toNat / 2 ^ 32) = hh at *
  omega

theorem toNat_shiftLeft_24 (x : UInt64) : (x <<< 24).toNat = x.toNat * 2 ^ 24 % 2 ^ 64 := by
  rw [UInt64.toNat_shiftLeft]
  change x.toNat <<< 24 % 2 ^ 64 = _
  rw [Nat.shiftLeft_eq]

theorem toNat_shiftRight_40 (x : UInt64) : (x >>> 40).toNat = x.toNat / 2 ^ 40 := by
  rw [UInt64.toNat_shiftRight]
  exact Nat.shiftRight_eq_div_pow _ _

theorem moved_word (lo : Nat) : lo * 2 ^ 24 = lo / 2 ^ 40 * 2 ^ 64 + lo * 2 ^ 24 % 2 ^ 64 := by
  have hquotient : lo * 2 ^ 24 / 2 ^ 64 = lo / 2 ^ 40 := by omega
  rw [← hquotient, Nat.mul_comm (lo * 2 ^ 24 / 2 ^ 64), Nat.div_add_mod]

theorem wide_mod (hi : Nat) (hlo : lo < 2 ^ 64) :
    (2 ^ 64 * hi + lo) % 2 ^ 128 = 2 ^ 64 * (hi % 2 ^ 64) + lo := by
  omega

/-- The multiplication of the source: the low word is moved by 24 bits and not by 88. -/
theorem fnvMultiply_toNat (state : Hash128) :
    (fnvMultiply state).toNat =
      (state.toNat * 0x13B + state.lo.toNat * 2 ^ 24) % 2 ^ 128 := by
  have hhi := state.hi.toNat_lt
  have hlo := state.lo.toNat_lt
  have hlow := mulU64Full_toNat state.lo fnvPrimeLow
  have hhigh := mulU64Full_toNat state.hi fnvPrimeLow
  have hprime : fnvPrimeLow.toNat = 0x13B := rfl
  rw [hprime] at hlow hhigh
  have hwords (value : Hash128) : value.hi.toNat < 2 ^ 64 ∧ value.lo.toNat < 2 ^ 64 :=
    ⟨value.hi.toNat_lt, value.lo.toNat_lt⟩
  obtain ⟨hlowHi, hlowLo⟩ := hwords (mulU64Full state.lo fnvPrimeLow)
  obtain ⟨-, hhighLo⟩ := hwords (mulU64Full state.hi fnvPrimeLow)
  have hcarry : (if state.lo <<< 24 + (mulU64Full state.lo fnvPrimeLow).lo < state.lo <<< 24 then
      (1 : UInt64) else 0).toNat =
      (state.lo.toNat * 2 ^ 24 % 2 ^ 64 + (mulU64Full state.lo fnvPrimeLow).lo.toNat) / 2 ^ 64 := by
    have hmod := Nat.mod_lt (state.lo.toNat * 2 ^ 24) (Nat.two_pow_pos 64)
    split
    · rename_i hless
      rw [UInt64.lt_iff_toNat_lt, UInt64.toNat_add, toNat_shiftLeft_24] at hless
      rw [UInt64.toNat_one]
      omega
    · rename_i hless
      rw [UInt64.lt_iff_toNat_lt, UInt64.toNat_add, toNat_shiftLeft_24] at hless
      rw [UInt64.toNat_zero]
      omega
  simp only [fnvMultiply, Hash128.toNat] at hlow hhigh ⊢
  rw [UInt64.toNat_add, UInt64.toNat_add, UInt64.toNat_add, UInt64.toNat_add, hcarry,
    toNat_shiftLeft_24, toNat_shiftRight_40]
  generalize (mulU64Full state.lo fnvPrimeLow).hi.toNat = lowHi at *
  generalize (mulU64Full state.lo fnvPrimeLow).lo.toNat = lowLo at *
  generalize (mulU64Full state.hi fnvPrimeLow).hi.toNat = highHi at *
  generalize (mulU64Full state.hi fnvPrimeLow).lo.toNat = highLo at *
  have hmoved := moved_word state.lo.toNat
  have hsum : (state.hi.toNat * 2 ^ 64 + state.lo.toNat) * 0x13B + state.lo.toNat * 2 ^ 24 =
      2 ^ 64 * (2 ^ 64 * highHi + (state.lo.toNat / 2 ^ 40 + (lowHi + highLo) +
          (state.lo.toNat * 2 ^ 24 % 2 ^ 64 + lowLo) / 2 ^ 64)) +
        (state.lo.toNat * 2 ^ 24 % 2 ^ 64 + lowLo) % 2 ^ 64 := by
    calc
      _ = state.hi.toNat * 0x13B * 2 ^ 64 + state.lo.toNat * 0x13B + state.lo.toNat * 2 ^ 24 := by
        ring
      _ = (highHi * 2 ^ 64 + highLo) * 2 ^ 64 + (lowHi * 2 ^ 64 + lowLo) +
          (state.lo.toNat / 2 ^ 40 * 2 ^ 64 + state.lo.toNat * 2 ^ 24 % 2 ^ 64) := by
        rw [← hlow, ← hhigh, ← hmoved]
      _ = _ := by
        have hdiv := Nat.div_add_mod (state.lo.toNat * 2 ^ 24 % 2 ^ 64 + lowLo) (2 ^ 64)
        linarith
  rw [hsum, wide_mod _ (Nat.mod_lt _ (Nat.two_pow_pos 64)), Nat.mul_add_mod]
  simp only [Nat.add_mod_mod, Nat.mod_add_mod, Nat.mul_comm (2 ^ 64)]

theorem xor_byte_add {a b : Nat} (h : a % 2 ^ 8 = b % 2 ^ 8) (byte : UInt8) :
    (a ^^^ byte.toNat) + b = (b ^^^ byte.toNat) + a := by
  have hbyte : byte.toNat < 2 ^ 8 := byte.toNat_lt
  have hsplit (n : Nat) : n ^^^ byte.toNat =
      2 ^ 8 * (n / 2 ^ 8) + (n % 2 ^ 8 ^^^ byte.toNat) := by
    have hhigh : (n ^^^ byte.toNat) / 2 ^ 8 = n / 2 ^ 8 := by
      rw [Nat.xor_div_two_pow, Nat.div_eq_of_lt hbyte, Nat.xor_zero]
    have hlow : (n ^^^ byte.toNat) % 2 ^ 8 = n % 2 ^ 8 ^^^ byte.toNat := by
      rw [Nat.xor_mod_two_pow, Nat.mod_eq_of_lt hbyte]
    rw [← hhigh, ← hlow, Nat.div_add_mod]
  have ha := Nat.div_add_mod a (2 ^ 8)
  have hb := Nat.div_add_mod b (2 ^ 8)
  rw [hsplit a, hsplit b, h]
  omega

theorem toNat_xor_byte (state : Hash128) (byte : UInt8) :
    Hash128.toNat { state with lo := state.lo ^^^ byte.toUInt64 } = state.toNat ^^^ byte.toNat := by
  have hlo := state.lo.toNat_lt
  have hbyte : byte.toNat < 2 ^ 64 := byte.toNat_lt.trans (by decide)
  have hhigh : (state.toNat ^^^ byte.toNat) / 2 ^ 64 = state.hi.toNat := by
    rw [Nat.xor_div_two_pow, Nat.div_eq_of_lt hbyte, Nat.xor_zero]
    unfold Hash128.toNat
    omega
  have hlow : (state.toNat ^^^ byte.toNat) % 2 ^ 64 = state.lo.toNat ^^^ byte.toNat := by
    have hword : state.toNat % 2 ^ 64 = state.lo.toNat := by
      unfold Hash128.toNat
      omega
    rw [Nat.xor_mod_two_pow, Nat.mod_eq_of_lt hbyte, hword]
  have hsplit := Nat.div_add_mod (state.toNat ^^^ byte.toNat) (2 ^ 64)
  rw [hhigh, hlow] at hsplit
  rw [← hsplit, Hash128.toNat, UInt64.toNat_xor, UInt8.toNat_toUInt64, Nat.mul_comm]

/-- How far the source is from the specification: both are corrected by the words that were moved
too little. -/
structure Astray (code : Hash128) (low spec missed : Nat) : Prop where
  low : code.lo.toNat = low
  states : code.toNat + missed * 2 ^ 88 ≡ spec + missed * 2 ^ 24 [MOD 2 ^ 128]

theorem fnvMultiply_lo (state : Hash128) :
    (fnvMultiply state).lo.toNat = state.lo.toNat * (2 ^ 24 + 0x13B) % 2 ^ 64 := by
  have hlow (value : Hash128) : value.toNat % 2 ^ 64 = value.lo.toNat := by
    have hlo := value.lo.toNat_lt
    unfold Hash128.toNat
    omega
  rw [← hlow (fnvMultiply state), fnvMultiply_toNat, Nat.mod_mod_of_dvd _ (by decide),
    Hash128.toNat]
  omega

theorem fnvMultiply_modEq (state : Hash128) :
    (fnvMultiply state).toNat + state.lo.toNat * 2 ^ 88 ≡
      state.toNat * fnvPrime + state.lo.toNat * 2 ^ 24 [MOD 2 ^ 128] := by
  have hwide : state.toNat * fnvPrime + state.lo.toNat * 2 ^ 24 =
      state.toNat * 0x13B + state.lo.toNat * 2 ^ 24 + state.lo.toNat * 2 ^ 88 +
        2 ^ 128 * (state.hi.toNat * 2 ^ 24) := by
    rw [Hash128.toNat, fnvPrime]
    ring
  rw [hwide, fnvMultiply_toNat]
  exact ((Nat.mod_modEq _ _).add_right _).trans (Nat.add_mul_mod_self_left _ _ _).symm

theorem Astray.step {code : Hash128} {low spec missed : Nat} (h : Astray code low spec missed)
    (byte : UInt8) :
    Astray (fnvByte code byte) ((low ^^^ byte.toNat) * (2 ^ 24 + 0x13B) % 2 ^ 64)
      (fnv1aByte spec byte) (missed * fnvPrime + (low ^^^ byte.toNat)) := by
  obtain ⟨mixed, hmixed⟩ : ∃ mixed : Hash128,
      mixed = { code with lo := code.lo ^^^ byte.toUInt64 } := ⟨_, rfl⟩
  have hlow : mixed.lo.toNat = low ^^^ byte.toNat := by
    rw [hmixed, ← h.low]
    rfl
  have hnat : mixed.toNat = code.toNat ^^^ byte.toNat := by
    rw [hmixed, toNat_xor_byte]
  have hbits : code.toNat % 2 ^ 8 = spec % 2 ^ 8 := by
    have hstates := h.states.of_dvd (Nat.pow_dvd_pow 2 (by decide : 8 ≤ 128))
    unfold Nat.ModEq at hstates
    omega
  have hxor := xor_byte_add hbits byte
  rw [← hnat] at hxor
  have hstates : mixed.toNat + missed * 2 ^ 88 ≡
      (spec ^^^ byte.toNat) + missed * 2 ^ 24 [MOD 2 ^ 128] := by
    apply Nat.ModEq.add_right_cancel' (spec + code.toNat)
    calc
      _ = mixed.toNat + spec + (code.toNat + missed * 2 ^ 88) := by ring
      _ ≡ mixed.toNat + spec + (spec + missed * 2 ^ 24) [MOD 2 ^ 128] := h.states.add_left _
      _ = _ := by
        rw [hxor]
        ring
  have hproduct := fnvMultiply_modEq mixed
  rw [hlow] at hproduct
  constructor
  · rw [fnvByte, ← hmixed, fnvMultiply_lo, hlow]
  · rw [fnvByte, ← hmixed]
    calc
      _ = (fnvMultiply mixed).toNat + (low ^^^ byte.toNat) * 2 ^ 88 + missed * fnvPrime * 2 ^ 88 := by
        ring
      _ ≡ mixed.toNat * fnvPrime + (low ^^^ byte.toNat) * 2 ^ 24 + missed * fnvPrime * 2 ^ 88
          [MOD 2 ^ 128] := hproduct.add_right _
      _ = (mixed.toNat + missed * 2 ^ 88) * fnvPrime + (low ^^^ byte.toNat) * 2 ^ 24 := by ring
      _ ≡ ((spec ^^^ byte.toNat) + missed * 2 ^ 24) * fnvPrime + (low ^^^ byte.toNat) * 2 ^ 24
          [MOD 2 ^ 128] := (hstates.mul_right _).add_right _
      _ = (spec ^^^ byte.toNat) * fnvPrime +
          (missed * fnvPrime + (low ^^^ byte.toNat)) * 2 ^ 24 := by ring
      _ ≡ _ [MOD 2 ^ 128] := (Nat.mod_modEq _ _).symm.add_right _

theorem astray_run {code : Hash128} {low spec missed : Nat} (h : Astray code low spec missed)
    (data : Bytes) :
    ∃ low', Astray (data.foldl fnvByte code) low' (data.foldl fnv1aByte spec)
      (weighted missed (lowWords low data)) := by
  induction data generalizing code low spec missed with
  | nil => exact ⟨low, h⟩
  | cons byte rest ih =>
    obtain ⟨low', hrest⟩ := ih (h.step byte)
    refine ⟨low', ?_⟩
    rw [List.foldl_cons, List.foldl_cons, lowWords, weighted]
    exact hrest

theorem Astray.eq_iff {code : Hash128} {low spec missed : Nat} (h : Astray code low spec missed)
    (hspec : spec < 2 ^ 128) : code.toNat = spec ↔ 2 ^ 104 ∣ missed := by
  have hstates := h.states
  constructor
  · intro hequal
    rw [hequal] at hstates
    have hmissed := (Nat.modEq_iff_dvd' (Nat.mul_le_mul_left missed (by decide))).1
      (Nat.ModEq.add_left_cancel' spec hstates).symm
    have hfactor : missed * 2 ^ 88 - missed * 2 ^ 24 = 2 ^ 24 * ((2 ^ 64 - 1) * missed) := by
      rw [← Nat.mul_sub]
      ring
    rw [hfactor, show (2 : Nat) ^ 128 = 2 ^ 24 * 2 ^ 104 by rw [← pow_add]] at hmissed
    have hodd : Nat.Coprime (2 ^ 104) (2 ^ 64 - 1) := by
      apply Nat.Coprime.pow_left
      decide
    exact hodd.dvd_of_dvd_mul_left (Nat.dvd_of_mul_dvd_mul_left (by decide) hmissed)
  · rintro ⟨times, rfl⟩
    have hzero (bits : Nat) (hbits : 24 ≤ bits) :
        2 ^ 104 * times * 2 ^ bits ≡ 0 [MOD 2 ^ 128] := by
      apply (Nat.modEq_zero_iff_dvd).2
      refine ⟨times * 2 ^ (bits - 24), ?_⟩
      rw [show (2 : Nat) ^ bits = 2 ^ 24 * 2 ^ (bits - 24) by rw [← pow_add]; congr 1; omega]
      ring
    have hequal := ((hzero 88 (by decide)).add_left code.toNat).symm.trans
      (hstates.trans ((hzero 24 (by decide)).add_left spec))
    rw [Nat.add_zero, Nat.add_zero] at hequal
    exact hequal.eq_of_lt_of_lt code.toNat_lt hspec

theorem fnv1a_run_lt {state : Nat} (h : state < 2 ^ 128) (data : Bytes) :
    data.foldl fnv1aByte state < 2 ^ 128 := by
  induction data generalizing state with
  | nil => exact h
  | cons byte rest ih => exact ih (Nat.mod_lt _ (Nat.two_pow_pos 128))

/-- Every way to hash a byte string gives its FNV-1a hash, and a hash can be continued. -/
structure Fnv1a (data : Bytes) : Prop where
  bytes : (hash128Bytes data).toNat = fnv1a128 data
  text : (hash128 data).toNat = fnv1a128 data
  builder : (HashBuilder.addRaw {} data).finish.toNat = fnv1a128 data
  extend : ∀ more, hash128Extend (hash128 data) more = hash128 (data ++ more)

/-- The source computes FNV-1a on exactly the strings whose weighted words cancel. -/
theorem fnv1a_iff (data : Bytes) :
    Fnv1a data ↔ 2 ^ 104 ∣ weighted 0 (lowWords 0x62b821756295c58d data) := by
  have hoffset : kFnvOffset.toNat = 0x6c62272e07bb014262b821756295c58d := by decide
  have hstart : Astray kFnvOffset 0x62b821756295c58d 0x6c62272e07bb014262b821756295c58d 0 := by
    refine ⟨rfl, ?_⟩
    rw [hoffset, Nat.zero_mul, Nat.zero_mul]
  obtain ⟨low, hrun⟩ := astray_run hstart data
  have hiff := hrun.eq_iff (fnv1a_run_lt (by norm_num) data)
  constructor
  · intro h
    exact hiff.1 h.bytes
  · intro h
    have hequal := hiff.2 h
    exact ⟨hequal, hequal, hequal, fun more => List.foldl_append.symm⟩

/-- The single byte `a`. -/
theorem fnv1a_fails : ¬Fnv1a (ascii "a") := by
  intro h
  have hbytes := h.bytes
  revert hbytes
  decide +kernel

end LinkObservatory
