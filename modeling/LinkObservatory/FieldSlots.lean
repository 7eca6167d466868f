import LinkObservatory.Grammar

namespace LinkObservatory
set_option autoImplicit true

open Splitting

/-- A field that the formatter writes, or leaves out. -/
structure FieldSlot where
  key : String
  value : Bytes
  written : Bool := true

namespace FieldSlot

def write (fields : TextFields) (slot : FieldSlot) : TextFields :=
  fields.addIf slot.written slot.key slot.value

def entry (slot : FieldSlot) : Bytes × Bytes := (ascii slot.key, slot.value)

/-- The fields that stand in the text. -/
def entries (slots : List FieldSlot) : List (Bytes × Bytes) := (slots.filter written).map entry

def text (slots : List FieldSlot) : Bytes := (slots.foldl write { separator := space }).buffer

theorem text_eq (slots : List FieldSlot) :
    slots.foldl write { separator := space } =
      { separator := space
        hasField := !(entries slots).isEmpty
        buffer := [space].intercalate ((entries slots).map joined) } := by
  induction slots using List.reverseRecOn with
  | nil => rfl
  | append_singleton slots slot ih =>
    rw [List.foldl_append, ih]
    unfold entries
    rw [List.filter_append, List.map_append]
    cases hwritten : slot.written with
    | false => simp [write, TextFields.addIf, hwritten]
    | true =>
      have hlast : ([slot].filter written).map entry = [slot.entry] := by simp [hwritten]
      rw [hlast, List.map_append, List.map_singleton, intercalate_concat]
      simp only [List.foldl_cons, List.foldl_nil, write, TextFields.addIf, hwritten, ↓reduceIte,
        TextFields.add]
      generalize (slots.filter written).map entry = before
      cases before with
      | nil => simp [joined, entry]
      | cons first before => simp [joined, entry]

end FieldSlot

/-- Bytes that are printable and not blank. -/
def Solid (text : Bytes) : Prop := ∀ character ∈ text, 33 ≤ character ∧ character ≤ 126

theorem Solid.printable (h : Solid text) : isAsciiPrintable text = true := by
  unfold isAsciiPrintable
  rw [List.all_eq_true]
  intro character hmem
  obtain ⟨hlow, hhigh⟩ := h character hmem
  rw [Bool.and_eq_true, decide_eq_true_eq, decide_eq_true_eq]
  exact ⟨UInt8.le_trans (by decide) hlow, hhigh⟩

theorem Solid.not_blank (h : Solid text) (hmem : character ∈ text) : isBlank character = false := by
  have hlow := UInt8.le_iff_toNat_le.1 (h character hmem).1
  have hne (other : UInt8) (hother : other.toNat < 33) : (character == other) = false := by
    rw [beq_eq_false_iff_ne]
    rintro rfl
    exact absurd hother (Nat.not_lt.2 hlow)
  unfold isBlank
  rw [hne space (by decide), hne tab (by decide), hne carriageReturn (by decide)]
  rfl

theorem Solid.space_not_mem (h : Solid text) : space ∉ text := by
  intro hmem
  exact absurd (h.not_blank hmem) (by decide)

theorem Solid.append (h : Solid text) (h' : Solid other) : Solid (text ++ other) := by
  intro character hmem
  rcases List.mem_append.1 hmem with hmem | hmem
  · exact h character hmem
  · exact h' character hmem

theorem trimAscii_eq_self {text : Bytes}
    (hfirst : ∀ character ∈ text.head?, isBlank character = false)
    (hlast : ∀ character ∈ text.getLast?, isBlank character = false) : trimAscii text = text := by
  have hfront : text.dropWhile isBlank = text := by
    cases text with
    | nil => rfl
    | cons character rest =>
      apply List.dropWhile_cons_of_neg
      rw [hfirst character rfl]
      exact Bool.false_ne_true
  unfold trimAscii
  rw [hfront, List.rdropWhile_eq_self_iff]
  intro hne
  rw [hlast _ (List.getLast?_eq_some_getLast hne)]
  exact Bool.false_ne_true

/-- Names that can stand in one line. -/
@[mk_iff]
structure NameList (names : List Bytes) : Prop where
  named : ∀ name ∈ names, name ≠ [] ∧ name.length ≤ 32
  plain : ∀ name ∈ names, equals ∉ name ∧ Solid name
  distinct : names.Nodup
  few : names.length ≤ 24

theorem NameList.sublist (h : NameList names) (hsub : names'.Sublist names) : NameList names' where
  named name hmem := h.named name (hsub.subset hmem)
  plain name hmem := h.plain name (hsub.subset hmem)
  distinct := hsub.nodup h.distinct
  few := hsub.length_le.trans h.few

theorem sourceKeys_nameList : NameList (sourceKeys.map ascii) := by
  rw [nameList_iff]
  simp [sourceKeys, ascii, Solid, equals]

theorem linkKeys_nameList : NameList (linkKeys.map ascii) := by
  rw [nameList_iff]
  simp [linkKeys, ascii, Solid, equals]

theorem observationKeys_nameList (family : MetricFamily) :
    NameList ((observationKeys family).map ascii) := by
  have hall : NameList ((["v", "kind", "link", "source", "incarnation", "epoch", "generation",
      "revision", "observed-at", "received-at", "metric"] ++ ["value", "counter", "width", "reset",
      "ppb", "degraded", "events", "window-ns"]).map ascii) := by
    rw [nameList_iff]
    simp [ascii, Solid, equals]
  apply hall.sublist
  apply List.Sublist.map
  apply List.Sublist.append_left
  cases family <;> decide

namespace FieldSlot

/-- Slots under given names with values that can stand in a line. -/
structure Fit (keys : List String) (slots : List FieldSlot) : Prop where
  keys : slots.map FieldSlot.key = keys
  values : ∀ slot ∈ slots, slot.written = true → Solid slot.value ∧ slot.value.length ≤ 256

variable {keys : List String} {slots : List FieldSlot}

theorem mem_entries (h : entry' ∈ entries slots) :
    ∃ slot ∈ slots, slot.written = true ∧ slot.entry = entry' := by
  obtain ⟨slot, hmem, rfl⟩ := List.mem_map.1 h
  obtain ⟨hmem, hwritten⟩ := List.mem_filter.1 hmem
  exact ⟨slot, hmem, hwritten, rfl⟩

theorem entry_mem (hmem : slot ∈ slots) (hwritten : slot.written = true) :
    slot.entry ∈ entries slots :=
  List.mem_map_of_mem (List.mem_filter.2 ⟨hmem, hwritten⟩)

theorem Fit.unique (hfit : Fit keys slots) (hkeys : NameList (keys.map ascii)) (hmem : slot ∈ slots)
    (hmem' : slot' ∈ slots) (h : ascii slot.key = ascii slot'.key) : slot = slot' := by
  have hdistinct := hkeys.distinct
  rw [← hfit.keys, List.map_map] at hdistinct
  exact List.inj_on_of_nodup_map hdistinct hmem hmem' h

theorem Fit.fieldList (hfit : Fit keys slots) (hkeys : NameList (keys.map ascii)) :
    FieldList (entries slots) := by
  have hkey {slot : FieldSlot} (hmem : slot ∈ slots) : ascii slot.key ∈ keys.map ascii := by
    rw [← hfit.keys]
    exact List.mem_map_of_mem (List.mem_map_of_mem hmem)
  have hnames : ((entries slots).map Prod.fst).Sublist (keys.map ascii) := by
    rw [← hfit.keys, List.map_map]
    unfold entries
    rw [List.map_map]
    exact List.filter_sublist.map _
  constructor
  · intro entry hentry
    obtain ⟨slot, hmem, hwritten, rfl⟩ := mem_entries hentry
    obtain ⟨hnamed, hshort⟩ := hkeys.named _ (hkey hmem)
    obtain ⟨hplain, hsolid⟩ := hkeys.plain _ (hkey hmem)
    obtain ⟨hvalue, hlength⟩ := hfit.values slot hmem hwritten
    exact ⟨hplain, hnamed, hshort, hlength, hsolid.printable, hvalue.printable⟩
  · exact hnames.nodup hkeys.distinct
  · have hle := hnames.length_le
    rw [List.length_map] at hle
    exact hle.trans hkeys.few

theorem Fit.joined_solid (hfit : Fit keys slots) (hkeys : NameList (keys.map ascii))
    (hmem : slot ∈ slots) (hwritten : slot.written = true) :
    joined slot.entry ≠ [] ∧ Solid (joined slot.entry) := by
  have hname : ascii slot.key ∈ keys.map ascii := by
    rw [← hfit.keys]
    exact List.mem_map_of_mem (List.mem_map_of_mem hmem)
  constructor
  · simp [joined]
  · apply (hkeys.plain _ hname).2.append
    intro character hcharacter
    rcases List.mem_cons.1 hcharacter with rfl | hcharacter
    · decide
    · exact (hfit.values slot hmem hwritten).1 character hcharacter

theorem text_joined (slots : List FieldSlot) :
    text slots = [space].intercalate ((entries slots).map joined) := by
  unfold text
  rw [text_eq]

theorem text_front (hversion : (entries slots).head? = some (ascii "v", toDec 1)) :
    ∃ rest, text slots = 118 :: rest := by
  rw [text_joined]
  generalize entries slots = fields at *
  cases fields with
  | nil => cases hversion
  | cons first fields =>
    cases hversion
    cases fields with
    | nil => exact ⟨_, by simp [joined, ascii]; rfl⟩
    | cons second fields => exact ⟨_, by simp [joined, ascii]; rfl⟩

theorem trimAscii_text (hversion : (entries slots).head? = some (ascii "v", toDec 1))
    (hlast : ∀ entry ∈ (entries slots).getLast?, joined entry ≠ [] ∧ Solid (joined entry)) :
    trimAscii (text slots) = text slots := by
  obtain ⟨rest, hrest⟩ := text_front hversion
  apply trimAscii_eq_self
  · intro character hmem
    rw [hrest] at hmem
    cases hmem
    rfl
  · rw [text_joined]
    rcases List.eq_nil_or_concat' (entries slots) with hnil | ⟨fields, entry, hfields⟩
    · rw [hnil] at hversion
      cases hversion
    · obtain ⟨hne, hsolid⟩ := hlast entry (by rw [hfields, List.getLast?_concat]; rfl)
      rw [hfields, List.map_append, List.map_singleton, intercalate_concat,
        List.getLast?_append_of_ne_nil _ hne]
      intro character hmem
      exact hsolid.not_blank (List.mem_of_getLast? hmem)

/-- The text of slots is a line with exactly their fields, if it is within the bound. -/
theorem Fit.line (hfit : Fit keys slots) (hkeys : NameList (keys.map ascii))
    (hversion : (entries slots).head? = some (ascii "v", toDec 1))
    (hbound : (text slots).length ≤ policy.limits.maxRecordBytes.toNat) :
    Line (entries slots) policy (text slots) := by
  have hpiece {entry : Bytes × Bytes} (hentry : entry ∈ entries slots) :
      joined entry ≠ [] ∧ Solid (joined entry) := by
    obtain ⟨slot, hmem, hwritten, rfl⟩ := mem_entries hentry
    exact hfit.joined_solid hkeys hmem hwritten
  have hpieces {piece : Bytes} (hmem : piece ∈ (entries slots).map joined) :
      piece ≠ [] ∧ Solid piece := by
    obtain ⟨entry, hentry, rfl⟩ := List.mem_map.1 hmem
    exact hpiece hentry
  obtain ⟨rest, hrest⟩ := text_front hversion
  have htrim := trimAscii_text hversion fun entry hmem => hpiece (List.mem_of_getLast? hmem)
  refine ⟨?_, ?_, ?_, ?_, hfit.fieldList hkeys⟩
  · rw [htrim, hrest]
    exact List.cons_ne_nil _ _
  · rw [htrim, hrest, List.head?_cons, ne_eq, Option.some.injEq]
    decide
  · rw [htrim]
    exact hbound
  · rw [htrim, text_joined]
    apply words_intercalate
    · intro piece hmem
      exact (hpieces hmem).2.space_not_mem
    · intro piece hmem
      exact (hpieces hmem).1

theorem entries_append (before after : List FieldSlot) :
    entries (before ++ after) = entries before ++ entries after := by
  rw [entries, List.filter_append, List.map_append]
  rfl

theorem Fit.words_around {key : String} {word : Bytes}
    (hfit : Fit keys (before ++ ⟨key, word, true⟩ :: after)) (hkeys : NameList (keys.map ascii))
    (value : Bytes) :
    words space (text (before ++ ⟨key, value, true⟩ :: after)) =
      (entries before).map joined ++ words space (joined (ascii key, value)) ++
        (entries after).map joined := by
  have hother {slots : List FieldSlot}
      (hslots : ∀ slot ∈ slots, slot ∈ before ++ ⟨key, word, true⟩ :: after) :
      ((entries slots).map joined).flatMap (words space) = (entries slots).map joined := by
    apply flatMap_words
    intro piece hmem
    obtain ⟨entry, hentry, rfl⟩ := List.mem_map.1 hmem
    obtain ⟨slot, hslot, hwritten, rfl⟩ := mem_entries hentry
    obtain ⟨hne, hsolid⟩ := hfit.joined_solid hkeys (hslots slot hslot) hwritten
    exact words_of_not_mem hne hsolid.space_not_mem
  have hentries : entries (before ++ ⟨key, value, true⟩ :: after) =
      entries before ++ [(ascii key, value)] ++ entries after := by
    rw [entries_append, List.append_assoc]
    rfl
  rw [text_joined, words_intercalate_flatMap, hentries, List.map_append, List.map_append,
    List.flatMap_append, List.flatMap_append, hother fun slot => List.mem_append_left _,
    hother fun slot hmem => List.mem_append_right _ (List.mem_cons_of_mem _ hmem)]
  simp

theorem Fit.only (hfit : Fit keys slots) : Only (entries slots) keys := by
  intro name hname
  obtain ⟨entry, hentry, rfl⟩ := List.mem_map.1 hname
  obtain ⟨slot, hmem, -, rfl⟩ := mem_entries hentry
  rw [← hfit.keys]
  exact List.mem_map_of_mem (List.mem_map_of_mem hmem)

theorem mem {key : String} {text : Bytes} (index : Nat)
    (hslot : slots[index]? = some ⟨key, text, true⟩) : (ascii key, text) ∈ entries slots :=
  entry_mem (List.mem_of_getElem? hslot) rfl

theorem field {denotes : Bytes → α → Prop} {key : String} {text : Bytes} {meaning : α}
    (index : Nat) (hslot : slots[index]? = some ⟨key, text, true⟩)
    (hdenotes : denotes text meaning) : Field (entries slots) key denotes meaning :=
  ⟨text, mem index hslot, hdenotes⟩

theorem Fit.optionalField {denotes : Bytes → α → Prop} {key : String} {text : Bytes}
    {written : Bool} {fallback meaning : α} (hfit : Fit keys slots)
    (hkeys : NameList (keys.map ascii)) (index : Nat)
    (hslot : slots[index]? = some ⟨key, text, written⟩)
    (hdenotes : written = true → denotes text meaning)
    (hfallback : written = false → meaning = fallback) :
    OptionalField (entries slots) key denotes fallback meaning := by
  have hmem := List.mem_of_getElem? hslot
  cases written with
  | true => exact .inl ⟨text, entry_mem hmem rfl, hdenotes rfl⟩
  | false =>
    refine .inr ⟨?_, hfallback rfl⟩
    intro hname
    obtain ⟨entry, hentry, hkey⟩ := List.mem_map.1 hname
    obtain ⟨other, hother, hwritten, rfl⟩ := mem_entries hentry
    rw [hfit.unique hkeys hother hmem hkey] at hwritten
    cases hwritten

theorem Fit.value_eq {key : String} {text text' : Bytes} {written : Bool} (hfit : Fit keys slots)
    (hkeys : NameList (keys.map ascii)) (index : Nat)
    (hslot : slots[index]? = some ⟨key, text, written⟩)
    (hentry : (ascii key, text') ∈ entries slots) : text' = text := by
  obtain ⟨other, hother, -, hsame⟩ := mem_entries hentry
  obtain ⟨hkey, hvalue⟩ := Prod.ext_iff.1 hsame
  rw [hfit.unique hkeys hother (List.mem_of_getElem? hslot) hkey] at hvalue
  exact hvalue.symm

end FieldSlot

end LinkObservatory
