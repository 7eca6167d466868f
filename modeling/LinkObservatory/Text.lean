import LinkObservatory.Metric

namespace LinkObservatory
set_option autoImplicit true

abbrev tab : UInt8 := 9
abbrev newline : UInt8 := 10
abbrev carriageReturn : UInt8 := 13
abbrev space : UInt8 := 32
abbrev numberSign : UInt8 := 35
abbrev minus : UInt8 := 45
abbrev slash : UInt8 := 47
abbrev equals : UInt8 := 61

/-- The text of printable bytes, for messages. -/
def asText (bytes : Bytes) : String := String.ofList (bytes.map fun byte => Char.ofNat byte.toNat)

def isDigit (character : UInt8) : Bool := 48 ≤ character && character ≤ 57

def maxU64 : UInt64 := 0xFFFFFFFFFFFFFFFF

/-- One more digit; a value that would not fit is no number. -/
def pushDigit (value : UInt64) (character : UInt8) : Option UInt64 :=
  if !isDigit character then none
  else
    let digit := (character - 48).toUInt64
    if value > (maxU64 - digit) / 10 then none else some (value * 10 + digit)

def parseU64Dec (text : Bytes) : Option UInt64 :=
  if text = [] ∨ text.length > 20 then none else text.foldlM pushDigit 0

def maxI64 : UInt64 := 0x7FFFFFFFFFFFFFFF

def parseI64Dec (text : Bytes) : Option Int64 :=
  if text = [] then none
  else
    let negative := text.head? == some minus
    let text := if negative then text.tail else text
    match parseU64Dec text with
    | none => none
    | some magnitude =>
      let limit := if negative then maxI64 + 1 else maxI64
      if magnitude > limit then none
      else if negative then
        if magnitude = limit then some Int64.minValue else some (-magnitude.toInt64)
      else some magnitude.toInt64

def isAsciiPrintable (text : Bytes) : Bool :=
  text.all fun character => 0x20 ≤ character && character ≤ 0x7E

def isBlank (character : UInt8) : Bool :=
  character == space || character == tab || character == carriageReturn

def trimAscii (text : Bytes) : Bytes := (text.dropWhile isBlank).rdropWhile isBlank

def isTokenCharacter (character : UInt8) : Bool :=
  (97 ≤ character && character ≤ 122) || (65 ≤ character && character ≤ 90) ||
    isDigit character || character == 95 || character == 46 || character == 58 || character == 45

/-- A token of an identifier, a metric name or a spelling. -/
def isToken (text : Bytes) : Bool :=
  text != [] && text.length ≤ 128 && text.all isTokenCharacter

/-- Fields `key=value` with a separator between them. -/
structure TextFields where
  separator : UInt8
  hasField : Bool := false
  buffer : Bytes := []

def TextFields.add (fields : TextFields) (key : String) (value : Bytes) : TextFields :=
  let buffer := if fields.hasField then fields.buffer ++ [fields.separator] else fields.buffer
  { fields with hasField := true, buffer := buffer ++ ascii key ++ [equals] ++ value }

/-- The number that decimal digits denote. -/
def decimalValue (text : Bytes) : Nat :=
  text.foldl (fun value character => 10 * value + (character - 48).toNat) 0

/-- Decimal digits of a number, at most twenty of them. -/
structure Decimal (text : Bytes) (value : Nat) : Prop where
  nonempty : text ≠ []
  short : text.length ≤ 20
  digits : ∀ character ∈ text, isDigit character = true
  value : decimalValue text = value

theorem digit_value {character : UInt8} (h : isDigit character = true) :
    (character - 48).toUInt64.toNat = (character - 48).toNat ∧ (character - 48).toNat ≤ 9 := by
  obtain ⟨hlow, hhigh⟩ := Bool.and_eq_true_iff.1 h
  have hlow' := UInt8.le_iff_toNat_le.1 (of_decide_eq_true hlow)
  have hhigh' := UInt8.le_iff_toNat_le.1 (of_decide_eq_true hhigh)
  have hsub := UInt8.toNat_sub_of_le character 48 (of_decide_eq_true hlow)
  constructor
  · exact UInt8.toNat_toUInt64 _
  · simp only [UInt8.reduceToNat] at hlow' hhigh' hsub
    omega

/-- A digit is taken exactly when the number still fits. -/
theorem pushDigit_eq_some_iff (value result : UInt64) (character : UInt8) :
    pushDigit value character = some result ↔ isDigit character = true ∧
      result.toNat = 10 * value.toNat + (character - 48).toNat := by
  unfold pushDigit
  by_cases hdigit : isDigit character = true
  · obtain ⟨hwide, hsmall⟩ := digit_value hdigit
    simp only [hdigit, Bool.not_true, Bool.false_eq_true, ↓reduceIte, true_and]
    generalize (character - 48).toUInt64 = digit at *
    have hbound : (value > (maxU64 - digit) / 10) ↔
        ¬10 * value.toNat + (character - 48).toNat < 2 ^ 64 := by
      have hle : digit ≤ maxU64 := by
        rw [UInt64.le_iff_toNat_le]
        have hmax : maxU64.toNat = 18446744073709551615 := rfl
        omega
      have hsub := UInt64.toNat_sub_of_le maxU64 digit hle
      have hmax : maxU64.toNat = 18446744073709551615 := rfl
      rw [gt_iff_lt, UInt64.lt_iff_toNat_lt, UInt64.toNat_div, hsub, hmax, hwide]
      simp only [UInt64.reduceToNat]
      omega
    by_cases hfits : 10 * value.toNat + (character - 48).toNat < 2 ^ 64
    · rw [if_neg (by rw [hbound, not_not]; exact hfits), Option.some.injEq, ← UInt64.toNat_inj,
        UInt64.toNat_add, UInt64.toNat_mul, hwide]
      simp only [UInt64.reduceToNat]
      omega
    · rw [if_pos (hbound.2 hfits)]
      have hlt := result.toNat_lt
      constructor
      · intro h
        cases h
      · intro h
        omega
  · simp [hdigit]

theorem decimalFrom_ge (text : Bytes) (value : Nat) :
    value ≤ text.foldl (fun value character => 10 * value + (character - 48).toNat) value := by
  induction text generalizing value with
  | nil => exact Nat.le_refl _
  | cons character text ih =>
    rw [List.foldl_cons]
    refine Nat.le_trans ?_ (ih _)
    omega

theorem pushDigits_eq_some_iff (text : Bytes) (value result : UInt64) :
    text.foldlM pushDigit value = some result ↔
      (∀ character ∈ text, isDigit character = true) ∧
        text.foldl (fun value character => 10 * value + (character - 48).toNat) value.toNat =
          result.toNat := by
  induction text generalizing value with
  | nil => simp [UInt64.toNat_inj]
  | cons character text ih =>
    rw [List.foldlM_cons, List.foldl_cons, List.forall_mem_cons, and_assoc]
    cases hpushed : pushDigit value character with
    | some next =>
      obtain ⟨hdigit, hnext⟩ := (pushDigit_eq_some_iff value next character).1 hpushed
      rw [Option.bind_eq_bind, Option.bind_some, ih, hnext]
      simp only [hdigit, true_and]
    | none =>
      -- a number that does not fit stays too large
      rw [Option.bind_eq_bind, Option.bind_none]
      simp only [reduceCtorEq, false_iff, not_and]
      intro hdigit _ hvalue
      have hge := decimalFrom_ge text (10 * value.toNat + (character - 48).toNat)
      have hlt := result.toNat_lt
      have hfits : 10 * value.toNat + (character - 48).toNat < 2 ^ 64 := by omega
      have hsome := (pushDigit_eq_some_iff value
        (UInt64.ofNat (10 * value.toNat + (character - 48).toNat)) character).2
          ⟨hdigit, UInt64.toNat_ofNat_of_lt' hfits⟩
      rw [hpushed] at hsome
      cases hsome

theorem parseU64Dec_eq_some_iff (text : Bytes) (value : UInt64) :
    parseU64Dec text = some value ↔ Decimal text value.toNat := by
  unfold parseU64Dec
  split
  · rename_i hbad
    simp only [reduceCtorEq, false_iff]
    intro h
    rcases hbad with hempty | hlong
    · exact h.nonempty hempty
    · exact absurd h.short (Nat.not_le.2 hlong)
  · rename_i hgood
    rw [not_or, Nat.not_lt] at hgood
    rw [pushDigits_eq_some_iff]
    constructor
    · rintro ⟨hdigits, hvalue⟩
      exact ⟨hgood.1, hgood.2, hdigits, hvalue⟩
    · intro h
      exact ⟨h.digits, h.value⟩

theorem decDigits_decimal (fuel value : Nat) (h : value < 10 ^ fuel) :
    (decDigits fuel value).length ≤ fuel ∧
      (∀ character ∈ decDigits fuel value, isDigit character = true) ∧
      decimalValue (decDigits fuel value).reverse = value := by
  induction fuel generalizing value with
  | zero =>
    obtain rfl : value = 0 := by simpa using h
    simp [decDigits, decimalValue]
  | succ fuel ih =>
    unfold decDigits
    split
    · rename_i hzero
      simp [hzero, decimalValue]
    · obtain ⟨hlength, hdigits, hvalue⟩ := ih (value / 10) (by rw [pow_succ] at h; omega)
      have hmod : value % 10 < 10 := Nat.mod_lt _ (by decide)
      have hchar : (48 + UInt8.ofNat (value % 10)).toNat = 48 + value % 10 := by
        rw [UInt8.toNat_add, UInt8.toNat_ofNat']
        simp only [UInt8.reduceToNat]
        omega
      refine ⟨by simpa using hlength, ?_, ?_⟩
      · intro character hmem
        rcases List.mem_cons.1 hmem with rfl | hmem
        · unfold isDigit
          rw [Bool.and_eq_true, decide_eq_true_eq, decide_eq_true_eq, UInt8.le_iff_toNat_le,
            UInt8.le_iff_toNat_le, hchar]
          simp only [UInt8.reduceToNat]
          omega
        · exact hdigits character hmem
      · have hlast : (48 + UInt8.ofNat (value % 10) - 48).toNat = value % 10 := by
          rw [UInt8.toNat_sub_of_le _ _ (by
            rw [UInt8.le_iff_toNat_le, hchar]
            simp only [UInt8.reduceToNat]
            omega), hchar]
          simp only [UInt8.reduceToNat]
          omega
        unfold decimalValue at hvalue ⊢
        rw [List.reverse_cons, List.foldl_append, hvalue, List.foldl_cons, List.foldl_nil, hlast]
        omega

theorem toDec_decimal (value : UInt64) : Decimal (toDec value) value.toNat := by
  unfold toDec
  split
  · rename_i hzero
    subst hzero
    exact ⟨by decide, by decide, by simp [ascii, isDigit], by decide⟩
  · rename_i hne
    have hlt : value.toNat < 10 ^ 20 := value.toNat_lt.trans (by norm_num)
    obtain ⟨hlength, hdigits, hvalue⟩ := decDigits_decimal 20 value.toNat hlt
    refine ⟨?_, ?_, ?_, hvalue⟩
    · intro hempty
      rw [hempty] at hvalue
      exact hne (UInt64.toNat_inj.1 hvalue.symm)
    · rw [List.length_reverse]
      exact hlength
    · intro character hmem
      exact hdigits character (List.mem_reverse.1 hmem)

theorem parseU64Dec_toDec (value : UInt64) : parseU64Dec (toDec value) = some value :=
  (parseU64Dec_eq_some_iff _ _).2 (toDec_decimal value)

/-- Decimal digits, after a minus sign or not. -/
def SignedDecimal (text : Bytes) (value : Int64) : Prop :=
  (∃ magnitude, Decimal text magnitude ∧ value.toInt = magnitude) ∨
    ∃ digits magnitude, text = minus :: digits ∧ Decimal digits magnitude ∧
      value.toInt = -magnitude

theorem not_decimal_minus (rest : Bytes) (magnitude : Nat) : ¬Decimal (minus :: rest) magnitude := by
  intro h
  exact absurd (h.digits minus (List.mem_cons_self ..)) (by decide)

theorem toInt_toInt64 {magnitude : UInt64} (h : magnitude.toNat < 2 ^ 63) :
    magnitude.toInt64.toInt = magnitude.toNat := by
  have hbits : magnitude.toInt64.toInt = magnitude.toBitVec.toInt := rfl
  have hnat : magnitude.toBitVec.toNat = magnitude.toNat := rfl
  rw [hbits, BitVec.toInt_eq_toNat_cond, hnat]
  split
  · rfl
  · omega

theorem signed_eq_some_iff (negative : Bool) (magnitude : UInt64) (value : Int64) :
    (let limit := if negative then maxI64 + 1 else maxI64
      if magnitude > limit then none
      else if negative then
        if magnitude = limit then some Int64.minValue else some (-magnitude.toInt64)
      else some magnitude.toInt64) = some value ↔
      value.toInt = if negative then -(magnitude.toNat : Int) else magnitude.toNat := by
  have hlow := value.le_toInt
  have hhigh := value.toInt_lt
  have hmax : maxI64.toNat = 9223372036854775807 := rfl
  have hmin : (maxI64 + 1).toNat = 9223372036854775808 := rfl
  cases negative with
  | true =>
    simp only [↓reduceIte, gt_iff_lt, UInt64.lt_iff_toNat_lt, hmin]
    split
    · simp only [reduceCtorEq, false_iff]
      omega
    split
    · rename_i hlimit
      rw [Option.some.injEq, ← Int64.toInt_inj, Int64.toInt_minValue, hlimit, hmin]
      exact eq_comm
    · rename_i hfits hother
      have hsmall : magnitude.toNat < 2 ^ 63 := by
        have hne : magnitude.toNat ≠ 9223372036854775808 := by
          rw [← hmin]
          exact fun heq => hother (UInt64.toNat_inj.1 heq)
        omega
      have hvalue := toInt_toInt64 hsmall
      have hnot : magnitude.toInt64 ≠ Int64.minValue := by
        intro heq
        rw [heq, Int64.toInt_minValue] at hvalue
        omega
      rw [Option.some.injEq, ← Int64.toInt_inj, toInt_neg_of_ne_minValue hnot, hvalue]
      exact eq_comm
  | false =>
    simp only [Bool.false_eq_true, ↓reduceIte, gt_iff_lt, UInt64.lt_iff_toNat_lt, hmax]
    split
    · simp only [reduceCtorEq, false_iff]
      omega
    · rename_i hfits
      rw [Option.some.injEq, ← Int64.toInt_inj, toInt_toInt64 (by omega)]
      exact eq_comm

theorem parseI64Dec_eq_some_iff (text : Bytes) (value : Int64) :
    parseI64Dec text = some value ↔ SignedDecimal text value := by
  have hmagnitude (negative : Bool) (digits : Bytes) :
      (match parseU64Dec digits with
        | none => none
        | some magnitude =>
          let limit := if negative then maxI64 + 1 else maxI64
          if magnitude > limit then none
          else if negative then
            if magnitude = limit then some Int64.minValue else some (-magnitude.toInt64)
          else some magnitude.toInt64) = some value ↔
      ∃ magnitude, Decimal digits magnitude ∧
        value.toInt = if negative then -(magnitude : Int) else magnitude := by
    cases hparsed : parseU64Dec digits with
    | some found =>
      have hdecimal := (parseU64Dec_eq_some_iff digits found).1 hparsed
      rw [show _ = some value ↔ _ from signed_eq_some_iff negative found value]
      constructor
      · intro h
        exact ⟨found.toNat, hdecimal, h⟩
      · rintro ⟨magnitude, hother, h⟩
        rw [hother.value.symm.trans hdecimal.value] at h
        exact h
    | none =>
      simp only [reduceCtorEq, false_iff, not_exists, not_and]
      intro magnitude hdecimal hvalue
      have hlow := value.le_toInt
      have hhigh := value.toInt_lt
      have hfits : magnitude < 2 ^ 64 := by
        split at hvalue
        · omega
        · omega
      have hsome := (parseU64Dec_eq_some_iff digits (UInt64.ofNat magnitude)).2
        (by rw [UInt64.toNat_ofNat_of_lt' hfits]; exact hdecimal)
      rw [hparsed] at hsome
      cases hsome
  unfold parseI64Dec
  cases text with
  | nil =>
    simp only [↓reduceIte, reduceCtorEq, false_iff]
    rintro (⟨magnitude, h, -⟩ | ⟨digits, magnitude, h, -⟩)
    · exact h.nonempty rfl
    · cases h
  | cons first rest =>
    rw [if_neg (List.cons_ne_nil first rest)]
    simp only [List.head?_cons, List.tail_cons]
    by_cases hsign : first = minus
    · subst hsign
      refine (hmagnitude true rest).trans ?_
      constructor
      · rintro ⟨magnitude, hdecimal, hvalue⟩
        exact .inr ⟨rest, magnitude, rfl, hdecimal, hvalue⟩
      · rintro (⟨magnitude, hdecimal, -⟩ | ⟨digits, magnitude, heq, hdecimal, hvalue⟩)
        · exact absurd hdecimal (not_decimal_minus rest magnitude)
        · rw [(List.cons.inj heq).2]
          exact ⟨magnitude, hdecimal, hvalue⟩
    · have hplain : (some first == some minus) = false := by simpa using hsign
      have hall := hmagnitude false (first :: rest)
      simp only [Bool.false_eq_true, ↓reduceIte] at hall
      simp only [hplain, Bool.false_eq_true, ↓reduceIte]
      refine hall.trans ?_
      constructor
      · rintro ⟨magnitude, hdecimal, hvalue⟩
        exact .inl ⟨magnitude, hdecimal, hvalue⟩
      · rintro (⟨magnitude, hdecimal, hvalue⟩ | ⟨digits, magnitude, heq, -⟩)
        · exact ⟨magnitude, hdecimal, hvalue⟩
        · exact absurd (List.cons.inj heq).1 hsign

theorem toNat_toUInt64 {value : Int64} (h : 0 ≤ value.toInt) :
    (value.toUInt64.toNat : Int) = value.toInt := by
  have hbits : value.toInt = value.toBitVec.toInt := rfl
  have hnat : value.toUInt64.toNat = value.toBitVec.toNat := rfl
  have hlt := value.toBitVec.isLt
  rw [hbits, BitVec.toInt_eq_toNat_cond] at h ⊢
  rw [hnat]
  split
  · rfl
  · rename_i hlarge
    rw [if_neg hlarge] at h
    omega

theorem toDecI64_signed (value : Int64) : SignedDecimal (toDecI64 value) value := by
  have hlow := value.le_toInt
  have hhigh := value.toInt_lt
  unfold toDecI64
  split
  · rename_i hnonneg
    have hpos : 0 ≤ value.toInt := Int64.le_iff_toInt_le.1 hnonneg
    exact .inl ⟨value.toUInt64.toNat, toDec_decimal _, (toNat_toUInt64 hpos).symm⟩
  · rename_i hneg
    have hneg' : value.toInt < 0 := by
      rw [ge_iff_le, Int64.le_iff_toInt_le, Int64.toInt_zero] at hneg
      omega
    have hnext : (value + 1).toInt = value.toInt + 1 := by
      rw [Int64.toInt_add]
      apply Int.bmod_eq_of_le <;> simp <;> omega
    have hflip : (-(value + 1)).toInt = -(value.toInt + 1) := by
      rw [toInt_neg_of_ne_minValue, hnext]
      intro hmin
      rw [hmin, Int64.toInt_minValue] at hnext
      omega
    have hword : ((-(value + 1)).toUInt64.toNat : Int) = -(value.toInt + 1) := by
      rw [toNat_toUInt64 (by omega), hflip]
    refine .inr ⟨_, ((-(value + 1)).toUInt64 + 1).toNat, rfl, toDec_decimal _, ?_⟩
    rw [UInt64.toNat_add, Nat.mod_eq_of_lt]
    · simp only [UInt64.reduceToNat]
      omega
    · simp only [UInt64.reduceToNat]
      omega

theorem parseI64Dec_toDecI64 (value : Int64) : parseI64Dec (toDecI64 value) = some value :=
  (parseI64Dec_eq_some_iff _ _).2 (toDecI64_signed value)

end LinkObservatory
