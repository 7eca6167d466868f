import LinkObservatory.Text

namespace LinkObservatory
set_option autoImplicit true

/-- The digit loop of `to_dec`, least significant digit first. There is no result where it would
write behind the twenty characters of its buffer. -/
def fillDigits (buffer : Vector UInt8 20) (index : Nat) (value : UInt64) :
    Option (Vector UInt8 20 × Nat) :=
  if value = 0 then some (buffer, index)
  else if h : index < 20 then
    fillDigits (buffer.set index (48 + (value % 10).toUInt8)) (index + 1) (value / 10)
  else none
termination_by value.toNat
decreasing_by
  have hpos : 0 < value.toNat := Nat.pos_of_ne_zero fun hzero => by
    simp_all [← UInt64.toNat_inj]
  rw [UInt64.toNat_div]
  exact Nat.div_lt_self hpos (by decide)

/-- The characters before an index of the buffer, last one first. -/
def readDigits (buffer : Vector UInt8 20) : Nat → Option Bytes
  | 0 => some []
  | index + 1 => do
    let character ← buffer[index]?
    let rest ← readDigits buffer index
    some (character :: rest)

/-- `to_dec` with its buffer. -/
def toDecBuffered (value : UInt64) : Option Bytes :=
  if value = 0 then some (ascii "0")
  else do
    let (buffer, index) ← fillDigits (Vector.replicate 20 0) 0 value
    readDigits buffer index

theorem digit_character (value : UInt64) :
    48 + (value % 10).toUInt8 = 48 + UInt8.ofNat (value.toNat % 10) := rfl

theorem take_set_append {buffer : Vector UInt8 20} (h : index < 20) (character : UInt8) :
    (buffer.set index character).toList.take (index + 1) =
      buffer.toList.take index ++ [character] := by
  have hlength : index < buffer.toList.length := by
    rw [Vector.length_toList]
    exact h
  rw [Vector.toList_set, List.take_set, List.take_succ_eq_append_getElem hlength,
    List.set_append_right _ _ (by simp)]
  simp [Nat.min_eq_left (Nat.le_of_lt h)]

/-- As long as the digits of the value fit behind the index, the loop writes them there. -/
theorem fillDigits_eq (buffer : Vector UInt8 20) (index : Nat) (value : UInt64)
    (h : value.toNat < 10 ^ room) (hroom : index + room = 20) :
    ∃ filled last, fillDigits buffer index value = some (filled, last) ∧ last ≤ 20 ∧
      filled.toList.take last = buffer.toList.take index ++ decDigits room value.toNat := by
  induction room generalizing buffer index value with
  | zero =>
    have hzero : value = 0 := UInt64.toNat_inj.1 (by simpa using h)
    refine ⟨buffer, index, ?_, by omega, ?_⟩
    · rw [fillDigits, if_pos hzero]
    · rw [decDigits, List.append_nil]
  | succ room ih =>
    rw [fillDigits]
    by_cases hzero : value = 0
    · refine ⟨buffer, index, if_pos hzero, by omega, ?_⟩
      rw [hzero, decDigits, UInt64.toNat_zero, if_pos rfl, List.append_nil]
    · have hspace : index < 20 := by omega
      have hnext : (value / 10).toNat < 10 ^ room := by
        rw [UInt64.toNat_div]
        simp only [UInt64.reduceToNat]
        rw [pow_succ] at h
        omega
      obtain ⟨filled, last, hfilled, hlast, htake⟩ :=
        ih (buffer.set index (48 + (value % 10).toUInt8)) (index + 1) (value / 10) hnext (by omega)
      refine ⟨filled, last, ?_, hlast, ?_⟩
      · rw [if_neg hzero, dif_pos hspace]
        exact hfilled
      · have hne : value.toNat ≠ 0 := fun heq => hzero (UInt64.toNat_inj.1 heq)
        have hdiv : (value / 10).toNat = value.toNat / 10 := UInt64.toNat_div _ _
        rw [htake, take_set_append hspace, digit_character, decDigits, if_neg hne, hdiv,
          List.append_assoc, List.singleton_append]

theorem readDigits_eq (buffer : Vector UInt8 20) (h : index ≤ 20) :
    readDigits buffer index = some (buffer.toList.take index).reverse := by
  induction index with
  | zero => rfl
  | succ index ih =>
    have hspace : index < 20 := h
    have hlength : index < buffer.toList.length := by
      rw [Vector.length_toList]
      exact hspace
    rw [readDigits, ih (Nat.le_of_lt h), Vector.getElem?_eq_getElem hspace,
      List.take_succ_eq_append_getElem hlength, List.reverse_append]
    simp

theorem toDecBuffered_eq (value : UInt64) : toDecBuffered value = some (toDec value) := by
  rw [toDecBuffered, toDec]
  split
  · rfl
  · have hfits : value.toNat < 10 ^ 20 := value.toNat_lt.trans (by decide)
    obtain ⟨filled, last, hfilled, hlast, htake⟩ :=
      fillDigits_eq (Vector.replicate 20 0) 0 value hfits rfl
    rw [hfilled]
    show readDigits filled last = _
    rw [readDigits_eq filled hlast, htake, List.take_zero, List.nil_append]

/-- The parsers of decimals accept exactly the texts of words, and read back what the printers
write without leaving their buffer. -/
theorem decimals_exact :
    (∀ text value, parseU64Dec text = some value ↔ Decimal text value.toNat) ∧
    (∀ text value, parseI64Dec text = some value ↔ SignedDecimal text value) ∧
    (∀ value, parseU64Dec (toDec value) = some value) ∧
    (∀ value, parseI64Dec (toDecI64 value) = some value) ∧
    ∀ value, toDecBuffered value = some (toDec value) :=
  ⟨parseU64Dec_eq_some_iff, parseI64Dec_eq_some_iff, parseU64Dec_toDec, parseI64Dec_toDecI64,
    toDecBuffered_eq⟩

end LinkObservatory
