import LinkObservatory.Ledger

namespace LinkObservatory
set_option autoImplicit true

open Labelled

/-- What changes the observatory of a runtime: a batch that a caller or a worker applies for a
submission, or the load of a `start`. -/
inductive Change
  | batch (worker : Option Nat) (ticket : Nat) (records : List (ParsedRecord × TimePoint))
  | load (files : FileSystem)

namespace Change

def loads : Change → Bool
  | load _ => true
  | batch _ _ _ => false

/-- The records that the change applies for the submission. -/
def applied (ticket : Nat) : Change → List ParsedRecord
  | batch _ other records => if other = ticket then records.map Prod.fst else []
  | load _ => []

end Change

/-- The records applied to the observatory for one submission. -/
def appliedOf (changes : List Change) (ticket : Nat) : List ParsedRecord :=
  changes.flatMap (Change.applied ticket)

namespace Observatory

/-- The records of a batch go through `applyRecord` one after the other. -/
def undergo (σ : Observatory) : Change → Observatory
  | .batch _ _ records =>
    records.foldl (fun σ record => (σ.applyRecord record.1 record.2).1)
      { σ with stats.batchesProcessed := σ.stats.batchesProcessed + 1 }
  | .load files => (σ.reload files).1

def undergoAll (σ : Observatory) (changes : List Change) : Observatory := changes.foldl undergo σ

theorem undergoAll_append (σ : Observatory) (changes more : List Change) :
    σ.undergoAll (changes ++ more) = (σ.undergoAll changes).undergoAll more :=
  List.foldl_append

end Observatory

namespace Runtime

/-- What a step does to the observatory. -/
def changesOf (runtime : Runtime) : Action → List Change
  | .apply ticket records => [.batch none ticket records]
  | .handle index part records => [.batch (some index) part.call records]
  | .advance ticket =>
    if runtime.controls[ticket]? = some .startLoading ∧ runtime.restores = true then
      [.load runtime.files]
    else []
  | _ => []

theorem Step.observatory {runtime runtime' : Runtime} {action : Action}
    (h : Step runtime action runtime') :
    runtime'.observatory = runtime.observatory.undergoAll (runtime.changesOf action) := by
  have hadvance {ticket : Nat} {control : Control} (hcontrol : runtime.controls[ticket]? = some control)
      (hother : control ≠ .startLoading) : runtime.changesOf (.advance ticket) = [] := by
    rw [Runtime.changesOf, if_neg]
    rintro ⟨hloading, -⟩
    rw [hcontrol] at hloading
    exact hother (Option.some.inj hloading)
  cases h with
  | startLoad hcontrol =>
    rw [Runtime.changesOf, Runtime.startLoad]
    cases hrestores : runtime.restores with
    | false => simp [hcontrol, Observatory.undergoAll, setControl]
    | true => simp [hcontrol, Observatory.undergoAll, Observatory.undergo, setControl]
  | startCheck hcontrol | startInline hcontrol _ | startRefused hcontrol _ _ _ | startMark hcontrol
  | stopIdle hcontrol _ | cancelIdle hcontrol _ | skipPersist hcontrol _ | stopClear hcontrol =>
    rw [hadvance hcontrol (by simp)]
    rfl
  | _ => rfl

theorem changesOf_advance (runtime : Runtime) (ticket : Nat) :
    ∀ change ∈ runtime.changesOf (.advance ticket),
      change.loads = true ∧ .startLoading ∈ runtime.controls := by
  intro change hmem
  rw [Runtime.changesOf] at hmem
  split at hmem
  · rename_i hboth
    rw [List.mem_singleton.1 hmem]
    exact ⟨rfl, List.mem_of_getElem? hboth.1⟩
  · cases hmem

/-- A step applies a batch on the caller, applies one on a worker, or does at most a load. -/
theorem Step.changes_cases {runtime runtime' : Runtime} {action : Action}
    (h : Step runtime action runtime') :
    (∃ ticket records, action = .apply ticket records ∧
        runtime.changesOf action = [.batch none ticket records]) ∨
      (∃ index part records, action = .handle index part records ∧
        records.map Prod.fst = part.records ∧
        runtime.changesOf action = [.batch (some index) part.call records]) ∨
      ((∀ ticket, action.own ticket = []) ∧ handles (poolLabels [action]) = [] ∧
        ∀ change ∈ runtime.changesOf action,
          change.loads = true ∧ .startLoading ∈ runtime.controls) := by
  cases h with
  | applyInline | applyDeclarations => exact .inl ⟨_, _, rfl, rfl⟩
  | handle hpool hrecords => exact .inr (.inl ⟨_, _, _, rfl, hrecords, rfl⟩)
  | startCheck | startLoad | startInline | startRefused | startMark | stopIdle | cancelIdle
  | skipPersist | stopClear => exact .inr (.inr ⟨fun _ => rfl, rfl, runtime.changesOf_advance _⟩)
  | _ => exact .inr (.inr ⟨fun _ => rfl, rfl, fun _ hmem => by cases hmem⟩)

/-- A step that writes down what it does to the observatory. -/
def Writes (step : Runtime → Action → Runtime → Prop) (before : Runtime × List Change)
    (action : Action) (after : Runtime × List Change) : Prop :=
  step before.1 action after.1 ∧ after.2 = before.2 ++ before.1.changesOf action

theorem run_writes {step : Runtime → Action → Runtime → Prop} {start runtime : Runtime}
    (h : Run step start labels runtime) :
    ∃ changes, Run (Writes step) (start, []) labels (runtime, changes) := by
  induction h with
  | nil => exact ⟨[], .nil⟩
  | snoc _ hstep ih =>
    obtain ⟨changes, hwritten⟩ := ih
    exact ⟨_, hwritten.snoc ⟨hstep, rfl⟩⟩

theorem run_of_writes {step : Runtime → Action → Runtime → Prop} {start runtime : Runtime}
    {past changes : List Change} (h : Run (Writes step) (start, past) labels (runtime, changes)) :
    Run step start labels runtime := by
  have hall := h.project Prod.fst some fun _ action _ hstep => .inr ⟨action, rfl, hstep.1⟩
  rwa [List.filterMap_some] at hall

theorem run_observatory {start runtime : Runtime} {changes : List Change}
    (h : Run (Writes Step) (start, []) labels (runtime, changes)) :
    runtime.observatory = start.observatory.undergoAll changes := by
  refine Run.invariant (fun _ state => state.1.observatory = start.observatory.undergoAll state.2)
    h rfl fun _ hinv hstep => ?_
  rw [hstep.2, Observatory.undergoAll_append, ← hinv]
  exact hstep.1.observatory

end Runtime

end LinkObservatory
