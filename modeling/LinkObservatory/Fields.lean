import LinkObservatory.Lib.OrderedMap
import LinkObservatory.Lib.Splitting
import LinkObservatory.Record

namespace LinkObservatory
set_option autoImplicit true

open Std Splitting

/-- A field as it stands in a line. -/
def joined (entry : Bytes × Bytes) : Bytes := entry.1 ++ equals :: entry.2

/-- A field whose name and value are within their bounds and printable. -/
@[mk_iff]
structure FieldForm (entry : Bytes × Bytes) : Prop where
  plain : equals ∉ entry.1
  named : entry.1 ≠ []
  shortName : entry.1.length ≤ 32
  shortValue : entry.2.length ≤ 256
  printableName : isAsciiPrintable entry.1 = true
  printableValue : isAsciiPrintable entry.2 = true

instance (entry : Bytes × Bytes) : Decidable (FieldForm entry) :=
  decidable_of_iff' _ (fieldForm_iff entry)

theorem joined_cut (h : equals ∉ entry.1) :
    (joined entry).takeWhile (· != equals) = entry.1 ∧
      (joined entry).dropWhile (· != equals) = equals :: entry.2 := by
  have hall : ∀ character ∈ entry.1, (character != equals) = true := by
    intro character hmem
    rw [bne_iff_ne]
    rintro rfl
    exact h hmem
  unfold joined
  constructor
  · rw [List.takeWhile_append_of_pos hall]
    simp
  · rw [List.dropWhile_append_of_pos hall]
    simp

theorem cut_joined {token value : Bytes} (h : token.dropWhile (· != equals) = character :: value) :
    token = joined (token.takeWhile (· != equals), value) ∧
      equals ∉ token.takeWhile (· != equals) := by
  have hhead := List.head?_dropWhile_not (· != equals) token
  rw [h] at hhead
  have heq : character = equals := by simpa using hhead
  subst heq
  constructor
  · unfold joined
    rw [← h]
    exact (@List.takeWhile_append_dropWhile _ (· != equals) token).symm
  · intro hmem
    have hother := List.mem_takeWhile_imp hmem
    simp at hother

theorem addField_ok_iff (fields fields' : FieldMap) (token : Bytes) :
    addField fields token = .ok fields' ↔
      ∃ entry, token = joined entry ∧ FieldForm entry ∧ fields[entry.1]? = none ∧
        fields.size < 24 ∧ fields' = fields.insert entry.1 entry.2 := by
  unfold addField
  simp only
  constructor
  · intro h
    cases hcut : token.dropWhile (· != equals) with
    | nil => simp [hcut] at h
    | cons character value =>
      rw [hcut] at h
      obtain ⟨htoken, hplain⟩ := cut_joined hcut
      generalize token.takeWhile (· != equals) = key at *
      simp only at h
      split at h
      · cases h
      rename_i hname
      split at h
      · cases h
      rename_i hvalue
      split at h
      · cases h
      rename_i hprintable
      split at h
      · cases h
      rename_i hroom
      split at h
      · cases h
      rename_i hnew
      rw [not_or, Nat.not_lt] at hname
      rw [Bool.or_eq_true, not_or, Bool.not_eq_true', Bool.not_eq_false, Bool.not_eq_true',
        Bool.not_eq_false] at hprintable
      have hnone : fields[key]? = none := by
        rw [Bool.not_eq_true, Option.isSome_eq_false_iff] at hnew
        exact Option.isNone_iff_eq_none.1 hnew
      have hsize : fields.size < 24 := by
        rw [hnone, Option.isNone_none, and_iff_left rfl, ge_iff_le, Nat.not_le] at hroom
        exact hroom
      exact ⟨(key, value), htoken, ⟨hplain, hname.1, hname.2, Nat.not_lt.1 hvalue, hprintable.1,
        hprintable.2⟩, hnone, hsize, (Except.ok.inj h).symm⟩
  · rintro ⟨entry, rfl, hform, hnone, hsize, rfl⟩
    obtain ⟨hkey, hvalue⟩ := joined_cut hform.plain
    rw [hkey, hvalue]
    simp only
    rw [if_neg, if_neg, if_neg, if_neg, if_neg]
    · simp [hnone]
    · rintro ⟨hfull, -⟩
      exact absurd hsize (Nat.not_lt.2 hfull)
    · simp [hform.printableName, hform.printableValue]
    · exact Nat.not_lt.2 hform.shortValue
    · rw [not_or, Nat.not_lt]
      exact ⟨hform.named, hform.shortName⟩

/-- The map holds exactly these fields. -/
def FieldMap.Holds (fields : FieldMap) (entries : List (Bytes × Bytes)) : Prop :=
  ∀ key value, fields[key]? = some value ↔ (key, value) ∈ entries

/-- The fields of a line, each with a name of its own. -/
@[mk_iff]
structure FieldList (entries : List (Bytes × Bytes)) : Prop where
  forms : ∀ entry ∈ entries, FieldForm entry
  distinct : (entries.map Prod.fst).Nodup
  few : entries.length ≤ 24

instance (entries : List (Bytes × Bytes)) : Decidable (FieldList entries) :=
  decidable_of_iff' _ (fieldList_iff entries)

theorem FieldMap.Holds.name_mem_iff {fields : FieldMap} (h : fields.Holds entries) (key : Bytes) :
    key ∈ entries.map Prod.fst ↔ fields[key]? ≠ none := by
  rw [Option.ne_none_iff_exists', List.mem_map]
  constructor
  · rintro ⟨⟨name, value⟩, hmem, rfl⟩
    exact ⟨value, (h name value).2 hmem⟩
  · rintro ⟨value, hfound⟩
    exact ⟨(key, value), (h key value).1 hfound, rfl⟩

/-- A field with a new name joins the fields before it. -/
theorem FieldMap.Holds.insert {fields : FieldMap} (h : fields.Holds entries)
    (hnone : fields[entry.1]? = none) :
    FieldMap.Holds (fields.insert entry.1 entry.2) (entries ++ [entry]) := by
  intro key value
  rw [OrderedMap.lookup_insert, List.mem_append, List.mem_singleton, ← h key value]
  by_cases hkey : entry.1 = key
  · rw [if_pos hkey, ← hkey, hnone, Option.some.injEq, Prod.ext_iff]
    simp [eq_comm]
  · rw [if_neg hkey, Prod.ext_iff]
    simp only [iff_self_or, and_imp]
    intro hname
    exact absurd hname.symm hkey

theorem FieldMap.Holds.erase {fields : FieldMap} (h : fields.Holds (entries ++ [entry]))
    (hnew : entry.1 ∉ entries.map Prod.fst) : FieldMap.Holds (fields.erase entry.1) entries := by
  intro key value
  rw [ExtTreeMap.getElem?_erase]
  simp only [LawfulEqCmp.compare_eq_iff_eq]
  by_cases hkey : entry.1 = key
  · rw [if_pos hkey]
    simp only [reduceCtorEq, false_iff]
    intro hmem
    exact hnew (List.mem_map.2 ⟨_, hmem, hkey.symm⟩)
  · rw [if_neg hkey, h key value, List.mem_append, List.mem_singleton, Prod.ext_iff]
    simp only [or_iff_left_iff_imp, and_imp]
    intro hname
    exact absurd hname.symm hkey

theorem FieldMap.Holds.ext {fields fields' : FieldMap} (h : fields.Holds entries)
    (h' : fields'.Holds entries') (hsame : ∀ entry, entry ∈ entries ↔ entry ∈ entries') :
    fields = fields' := by
  apply ExtTreeMap.ext_getElem?
  intro key
  apply Option.ext
  intro value
  rw [h key value, h' key value, hsame]

theorem FieldList.append_singleton_iff (entries : List (Bytes × Bytes)) (entry : Bytes × Bytes) :
    FieldList (entries ++ [entry]) ↔ FieldList entries ∧ FieldForm entry ∧
      entry.1 ∉ entries.map Prod.fst ∧ entries.length < 24 := by
  constructor
  · intro h
    have hdistinct := h.distinct
    rw [List.map_append, List.nodup_append'] at hdistinct
    obtain ⟨hfirst, -, hdisjoint⟩ := hdistinct
    have hfew := h.few
    rw [List.length_append, List.length_singleton] at hfew
    have hforms := fun other hmem => h.forms other (List.mem_append_left _ hmem)
    have hnew : entry.1 ∉ entries.map Prod.fst := by
      intro hmem
      exact hdisjoint hmem (List.mem_map_of_mem (List.mem_singleton_self entry))
    exact ⟨⟨hforms, hfirst, by omega⟩, h.forms entry (by simp), hnew, by omega⟩
  · rintro ⟨hlist, hform, hnew, hroom⟩
    constructor
    · intro other hmem
      rcases List.mem_append.1 hmem with hmem | hmem
      · exact hlist.forms other hmem
      · rw [List.mem_singleton.1 hmem]
        exact hform
    · rw [List.map_append, List.nodup_append']
      refine ⟨hlist.distinct, List.nodup_singleton _, ?_⟩
      intro name hmem hlast
      rw [List.map_singleton, List.mem_singleton] at hlast
      exact hnew (hlast ▸ hmem)
    · rw [List.length_append, List.length_singleton]
      omega

theorem addFields_ok_iff (tokens : List Bytes) (fields : FieldMap) :
    tokens.foldlM addField ∅ = .ok fields ↔
      ∃ entries, tokens = entries.map joined ∧ FieldList entries ∧ fields.Holds entries ∧
        fields.size = entries.length := by
  induction tokens using List.reverseRecOn generalizing fields with
  | nil =>
    constructor
    · intro h
      cases h
      refine ⟨[], rfl, ⟨by simp, by simp, by simp⟩, ?_, rfl⟩
      intro key value
      simp
    · rintro ⟨entries, hentries, -, hholds, -⟩
      obtain rfl := List.map_eq_nil_iff.1 hentries.symm
      apply congrArg Except.ok
      apply ExtTreeMap.ext_getElem?
      intro key
      cases hfound : fields[key]? with
      | none => simp
      | some value => exact absurd ((hholds key value).1 hfound) (by simp)
  | append_singleton tokens token ih =>
    rw [List.foldlM_append, Except.bind_eq_ok_iff]
    have hlast (before : FieldMap) : [token].foldlM addField before = addField before token := by
      rw [List.foldlM_cons]
      exact bind_pure _
    constructor
    · rintro ⟨before, hbefore, hadded⟩
      rw [hlast] at hadded
      obtain ⟨entries, rfl, hlist, hholds, hsize⟩ := (ih before).1 hbefore
      obtain ⟨entry, rfl, hform, hnone, hroom, rfl⟩ := (addField_ok_iff ..).1 hadded
      have hnew : entry.1 ∉ entries.map Prod.fst := by
        rw [hholds.name_mem_iff, not_not]
        exact hnone
      refine ⟨entries ++ [entry], by simp, ?_, hholds.insert hnone, ?_⟩
      · exact (FieldList.append_singleton_iff ..).2 ⟨hlist, hform, hnew, hsize ▸ hroom⟩
      · rw [OrderedMap.size_insert_eq, hnone, List.length_append, ← hsize]
        rfl
    · rintro ⟨all, hentries, hlist, hholds, hsize⟩
      obtain ⟨entries, last, rfl, rfl, hone⟩ := List.map_eq_append_iff.1 hentries.symm
      obtain ⟨entry, rfl, rfl⟩ := List.map_eq_singleton_iff.1 hone
      obtain ⟨hlist, hform, hnew, hroom⟩ := (FieldList.append_singleton_iff ..).1 hlist
      have hbefore := hholds.erase hnew
      have hthere : fields[entry.1]? = some entry.2 := (hholds entry.1 entry.2).2 (by simp)
      have hcontains : fields.contains entry.1 = true := by
        rw [ExtTreeMap.contains_eq_isSome_getElem?, hthere]
        rfl
      have hsize' : (fields.erase entry.1).size = entries.length := by
        rw [ExtTreeMap.size_erase, if_pos hcontains, hsize, List.length_append]
        rfl
      refine ⟨fields.erase entry.1, (ih _).2 ⟨entries, rfl, hlist, hbefore, hsize'⟩, ?_⟩
      rw [hlast]
      have hnone := ExtTreeMap.getElem?_erase_self (t := fields) (k := entry.1)
      refine (addField_ok_iff ..).2 ⟨entry, rfl, hform, hnone, hsize' ▸ hroom, ?_⟩
      exact hholds.ext (hbefore.insert hnone) (fun _ => Iff.rfl)

theorem map_joined_injective {entries entries' : List (Bytes × Bytes)}
    (h : ∀ entry ∈ entries, equals ∉ entry.1)
    (h' : ∀ entry ∈ entries', equals ∉ entry.1)
    (hsame : entries.map joined = entries'.map joined) : entries = entries' := by
  have hcut {fields : List (Bytes × Bytes)} (hplain : ∀ entry ∈ fields, equals ∉ entry.1) :
      (fields.map joined).map (fun token =>
        (token.takeWhile (· != equals), (token.dropWhile (· != equals)).tail)) = fields := by
    rw [List.map_map, List.map_congr_left, List.map_id]
    intro entry hmem
    obtain ⟨hname, hvalue⟩ := joined_cut (hplain entry hmem)
    rw [Function.comp_apply, hname, hvalue]
    rfl
  rw [← hcut h, hsame, hcut h']

theorem FieldList.unique (h : FieldList entries) (h' : FieldList entries')
    (hsame : entries.map joined = entries'.map joined) : entries = entries' :=
  map_joined_injective (fun entry hmem => (h.forms entry hmem).plain)
    (fun entry hmem => (h'.forms entry hmem).plain) hsame

theorem FieldList.value_unique {name value other : Bytes} (h : FieldList entries)
    (hvalue : (name, value) ∈ entries) (hother : (name, other) ∈ entries) : value = other :=
  (Prod.ext_iff.1 (List.inj_on_of_nodup_map h.distinct hvalue hother rfl)).2

theorem FieldList.perm (h : FieldList entries) (hperm : entries.Perm entries') :
    FieldList entries' where
  forms entry hmem := h.forms entry (hperm.mem_iff.2 hmem)
  distinct := (hperm.map Prod.fst).nodup_iff.1 h.distinct
  few := hperm.length_eq ▸ h.few

theorem FieldList.holds (h : FieldList entries) :
    ∃ fields : FieldMap, fields.Holds entries ∧ fields.size = entries.length := by
  induction entries using List.reverseRecOn with
  | nil =>
    refine ⟨∅, ?_, rfl⟩
    intro key value
    simp
  | append_singleton entries entry ih =>
    obtain ⟨hlist, -, hnew, -⟩ := (FieldList.append_singleton_iff entries entry).1 h
    obtain ⟨fields, hholds, hsize⟩ := ih hlist
    rw [hholds.name_mem_iff, not_not] at hnew
    refine ⟨fields.insert entry.1 entry.2, hholds.insert hnew, ?_⟩
    rw [OrderedMap.size_insert_eq, hnew, List.length_append, ← hsize]
    rfl

theorem parseFieldsFrom_eq (fuel : Nat) (line : Bytes) (fields : FieldMap)
    (h : line.length < fuel) :
    parseFieldsFrom fuel line fields = (words space line).foldlM addField fields := by
  induction fuel generalizing line fields with
  | zero => omega
  | succ fuel ih =>
    rw [parseFieldsFrom, ← words_dropWhile]
    have hle := List.length_dropWhile_le (· == space) line
    have hhead := List.head?_dropWhile_not (· == space) line
    generalize line.dropWhile (· == space) = rest at *
    cases rest with
    | nil => rfl
    | cons first rest =>
      have hfirst : (first != space) = true := by simpa using hhead
      have hword : (first :: rest).takeWhile (· != space) ≠ [] := by
        simp [hfirst]
      simp only [List.cons_ne_nil, ↓reduceIte]
      cases hafter : (first :: rest).dropWhile (· != space) with
      | nil =>
        have hall := @List.takeWhile_append_dropWhile _ (· != space) (first :: rest)
        rw [hafter, List.append_nil] at hall
        rw [words_of_dropWhile_nil (List.cons_ne_nil _ _) hafter, hall, List.foldlM_cons]
        cases addField fields (first :: rest) with
        | error status => rfl
        | ok fields => rfl
      | cons separator after =>
        rw [words_of_dropWhile_cons hword hafter, List.foldlM_cons]
        have hshort := List.length_dropWhile_le (· != space) (first :: rest)
        rw [hafter] at hshort
        simp only [List.length_cons] at hshort hle
        cases addField fields ((first :: rest).takeWhile (· != space)) with
        | error status => rfl
        | ok fields => exact ih after fields (by omega)

theorem parseFields_eq (line : Bytes) :
    parseFields line = (words space line).foldlM addField ∅ :=
  parseFieldsFrom_eq _ _ _ (Nat.lt_succ_self _)

theorem parseFields_ok_iff (line : Bytes) (fields : FieldMap) :
    parseFields line = .ok fields ↔
      ∃ entries, words space line = entries.map joined ∧ FieldList entries ∧
        fields.Holds entries ∧ fields.size = entries.length := by
  rw [parseFields_eq]
  exact addFields_ok_iff _ _

end LinkObservatory
