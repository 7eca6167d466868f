import LinkObservatory.Record

namespace LinkObservatory
set_option autoImplicit true

open Std

/-- The field of this name gives this value. -/
def FieldMap.Gives (fields : FieldMap) (key : String) (read : Bytes → Option α) (value : α) :
    Prop :=
  ∃ text, fields[ascii key]? = some text ∧ read text = some value

/-- An optional field gives this value, or it is missing. -/
def FieldMap.MayGive (fields : FieldMap) (key : String) (read : Bytes → Option α)
    (fallback value : α) : Prop :=
  fields.Gives key read value ∨ fields[ascii key]? = none ∧ value = fallback

namespace FieldReader

@[simp]
theorem ignore_fields (reader : FieldReader) (key : String) :
    (reader.ignore key).fields = reader.fields := by
  unfold ignore
  split <;> rfl

@[simp]
theorem ignores_fields (reader : FieldReader) (keys : List String) :
    (keys.foldl ignore reader).fields = reader.fields := by
  induction keys generalizing reader with
  | nil => rfl
  | cons key keys ih => rw [List.foldl_cons, ih, ignore_fields]

/-- Among the names of the record, the consumed ones grow by the consumed name. -/
theorem mem_used_ignore {reader : FieldReader} (key : String)
    (hthere : (reader.fields[name]?).isSome = true) :
    name ∈ (reader.ignore key).used ↔ name = ascii key ∨ name ∈ reader.used := by
  unfold ignore has
  split
  · exact List.mem_cons
  · rename_i hmissing
    simp only [iff_or_self]
    rintro rfl
    exact absurd hthere hmissing

theorem mem_used_ignores (reader : FieldReader) (keys : List String)
    (hthere : (reader.fields[name]?).isSome = true) :
    name ∈ (keys.foldl ignore reader).used ↔ name ∈ keys.map ascii ∨ name ∈ reader.used := by
  induction keys generalizing reader with
  | nil => simp
  | cons key keys ih =>
    rw [List.foldl_cons, ih _ (by rwa [ignore_fields]), mem_used_ignore key hthere, List.map_cons,
      List.mem_cons]
    exact or_left_comm.trans or_assoc.symm

variable {reader reader' : FieldReader}

theorem required_ok_iff (key : String) (read : Bytes → Option α) (code : StatusCode)
    (complaint : String) (value : α) :
    (required key read code complaint).run reader = .ok (value, reader') ↔
      reader.fields.Gives key read value ∧ reader.ignore key = reader' := by
  show required key read code complaint reader = .ok (value, reader') ↔ _
  unfold required FieldMap.Gives
  cases reader.fields[ascii key]? with
  | none => simp
  | some text =>
    cases hread : read text with
    | none => simp [hread]
    | some found => simp [hread]

theorem optional_ok_iff {key : String} {read : Bytes → Option α} {fallback value : α}
    {action : Reading α}
    (haction : action.run reader = .ok (value, reader') ↔
      reader.fields.Gives key read value ∧ reader.ignore key = reader') :
    (optional key fallback action).run reader = .ok (value, reader') ↔
      reader.fields.MayGive key read fallback value ∧ reader.ignore key = reader' := by
  unfold FieldMap.MayGive
  by_cases hhas : reader.has key = true
  · have hthere : reader.fields[ascii key]? ≠ none := by
      intro hnone
      unfold has at hhas
      rw [hnone] at hhas
      cases hhas
    have hrun : (optional key fallback action).run reader = action.run reader := by
      simp [optional, StateT.run, hhas]
    rw [hrun, haction]
    simp [hthere]
  · have hnone : reader.fields[ascii key]? = none := by
      unfold has at hhas
      simpa using hhas
    have hrun : (optional key fallback action).run reader = .ok (fallback, reader) := by
      simp [optional, StateT.run, hhas]
    have hsame : reader.ignore key = reader := by simp [ignore, hhas]
    rw [hrun, hsame]
    simp [FieldMap.Gives, hnone, eq_comm]

theorem ensureAllUsed_ok_iff (reader reader' : FieldReader) (done : Unit) :
    ensureAllUsed.run reader = .ok (done, reader') ↔
      (∀ name value, reader.fields[name]? = some value → name ∈ reader.used) ∧
        reader = reader' := by
  show ensureAllUsed reader = .ok (done, reader') ↔ _
  unfold ensureAllUsed
  cases hfind : reader.fields.toList.find? fun field => !reader.used.contains field.1 with
  | some field =>
    have hmem := ExtTreeMap.mem_toList_iff_getElem?_eq_some.1 (List.mem_of_find?_eq_some hfind)
    have hunused := List.find?_some hfind
    simp only [reduceCtorEq, false_iff, not_and]
    intro hall
    simp [hall _ _ hmem] at hunused
  | none =>
    have hall := List.find?_eq_none.1 hfind
    simp only [Except.ok.injEq, Prod.mk.injEq, true_and, iff_and_self]
    intro _ name value hfound
    simpa using hall (name, value) (ExtTreeMap.mem_toList_iff_getElem?_eq_some.2 hfound)

theorem accept_ok_iff (found : Option α) (failure : Status) (value : α) :
    (accept found failure).run reader = .ok (value, reader') ↔
      found = some value ∧ reader = reader' := by
  show accept found failure reader = .ok (value, reader') ↔ _
  unfold accept
  cases found with
  | none => simp
  | some other => simp

theorem bind_ok_iff (action : Reading α) (next : α → Reading β) (value : β) :
    (action >>= next).run reader = .ok (value, reader') ↔
      ∃ found after, action.run reader = .ok (found, after) ∧
        (next found).run after = .ok (value, reader') := by
  rw [StateT.run_bind, Except.bind_eq_ok_iff, Prod.exists]

theorem pure_ok_iff (found value : α) :
    (pure found : Reading α).run reader = .ok (value, reader') ↔
      found = value ∧ reader = reader' := by
  have hrun : (pure found : Reading α).run reader = .ok (found, reader) := rfl
  rw [hrun, Except.ok.injEq, Prod.mk.injEq]

theorem lift_ok_iff (result : Except Status α) (value : α) :
    (liftM result : Reading α).run reader = .ok (value, reader') ↔
      result = .ok value ∧ reader = reader' := by
  cases result with
  | error status =>
    have hrun : (liftM (Except.error status : Except Status α) : Reading α).run reader =
        .error status := rfl
    rw [hrun]
    simp
  | ok found => exact (pure_ok_iff found value).trans (by rw [Except.ok.injEq])

end FieldReader

end LinkObservatory
