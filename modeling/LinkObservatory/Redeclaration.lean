import LinkObservatory.Generations
import LinkObservatory.Lib.LabelledRun
import LinkObservatory.Watch

namespace LinkObservatory
set_option autoImplicit true

open Std

namespace LinkRegistry

/-- The declaration names a generation of its own, other than the one of the facts in force. -/
def Renames (existing : LinkRecord) (facts : LinkFacts) : Prop :=
  facts.generation.valid = true ∧ facts.generation ≠ existing.entry.facts.generation

instance (existing : LinkRecord) (facts : LinkFacts) : Decidable (Renames existing facts) :=
  inferInstanceAs (Decidable (_ ∧ _))

/-- The facts a link has after it is declared again. -/
def mergedFacts (existing : LinkRecord) (facts : LinkFacts) : LinkFacts :=
  if !facts.generation.valid then
    { facts with generation := existing.entry.facts.generation } else facts

theorem mergedFacts_renames (existing : LinkRecord) (facts : LinkFacts) :
    (mergedFacts existing facts).generation ≠ existing.entry.facts.generation ↔
      Renames existing facts := by
  unfold mergedFacts Renames
  cases facts.generation.valid <;> simp

theorem mergedFacts_of_renames (h : Renames existing facts) : mergedFacts existing facts = facts := by
  unfold mergedFacts
  rw [h.1]
  rfl

/-- Everything that declaring a registered link again can do. -/
theorem reregisterLink_cases {registry : LinkRegistry} {facts : LinkFacts}
    (h : registry.links[facts.id]? = some existing) :
    registry.reregisterLink facts existing =
      if existing.entry.retired then (registry, .of .conflict "link is retired")
      else if Renames existing facts then
        if (existing.generations.observe facts.generation).2.behind then
          (registry, .of .conflict "link re-registration names a retired topology generation")
        else
          ({ registry with
            links := registry.links.insert facts.id
              { entry := { existing.entry with facts := facts }
                generations := (existing.generations.observe facts.generation).1 } }, .success)
      else
        ({ registry with
          links := registry.links.insert facts.id
            { existing with
              entry := { existing.entry with facts := mergedFacts existing facts } } },
          .success) := by
  unfold reregisterLink
  split
  · rfl
  have hmerged : (if !facts.generation.valid then
      { facts with generation := existing.entry.facts.generation } else facts) =
      mergedFacts existing facts := rfl
  simp only [hmerged, mergedFacts_renames]
  by_cases hrenames : Renames existing facts
  · simp only [hrenames, ↓reduceIte, mergedFacts_of_renames hrenames]
    rw [observeGeneration_some h]
    simp only
    by_cases hbehind : (existing.generations.observe facts.generation).2.behind = true
    · -- a fenced generation leaves the record as it was
      have hkept := (existing.generations.observe_behind facts.generation hbehind).1
      have hsame : registry.links.insert facts.id
          { existing with generations := (existing.generations.observe facts.generation).1 } =
          registry.links := by
        rw [hkept]
        exact OrderedMap.insert_lookup h
      simp only [hbehind, ↓reduceIte, hsame]
    · simp only [hbehind, ↓reduceIte, ExtTreeMap.getElem?_insert_self, Bool.false_eq_true,
        OrderedMap.insert_insert]
  · simp only [hrenames, ↓reduceIte, h, Bool.false_eq_true]

/-- A call that changes the registry. -/
inductive Call
  | registerSource (record : SourceRecord)
  | registerLink (facts : LinkFacts) (now : TimePoint)
  | observeGeneration (id : LinkId) (generation : GenerationId)
  | ensureImplicitLink (id : LinkId) (name : Bytes) (now : TimePoint)
  | restore (link : PersistedLink)

def call (registry : LinkRegistry) : Call → LinkRegistry
  | .registerSource record => (registry.registerSource record).1
  | .registerLink facts now => (registry.registerLink facts now).1
  | .observeGeneration id generation => (registry.observeGeneration id generation).1
  | .ensureImplicitLink id name now => (registry.ensureImplicitLink id name now).1
  | .restore link => (registry.restore link).1

/-- Valid facts for a live link under a generation that the link has retired. -/
structure Outdated (registry : LinkRegistry) (facts : LinkFacts) (existing : LinkRecord) : Prop where
  valid : (validateLinkFacts facts).ok = true
  found : registry.links[facts.id]? = some existing
  live : existing.entry.retired = false
  retired : facts.generation ∈ existing.generations.retiredGenerations

/-- Such a declaration is refused and leaves no trace. -/
def Refuses (registry : LinkRegistry) : Call → Prop
  | .registerLink facts now => ∀ existing, registry.Outdated facts existing →
      (registry.registerLink facts now).1 = registry ∧
        (registry.registerLink facts now).2.code = .conflict
  | _ => True

/-- The fence is asked, and it is the list of retired generations that answers. -/
def Fenced (registry : LinkRegistry) : Call → Prop
  | .registerLink facts _ => ∀ existing, registry.Outdated facts existing →
      Renames existing facts ∧ existing.generations.hasGeneration = true ∧
        existing.generations.currentGeneration ≠ facts.generation
  | _ => True

theorem observe_behind_iff {generations : LinkGenerationState}
    (h : generation ∈ generations.retiredGenerations) :
    (generations.observe generation).2.behind = true ↔
      generations.hasGeneration = true ∧ generations.currentGeneration ≠ generation := by
  constructor
  · intro hbehind
    obtain ⟨hhas, hother, -⟩ := generations.observe_behind_retired generation hbehind
    exact ⟨hhas, hother⟩
  · rintro ⟨hhas, hother⟩
    unfold LinkGenerationState.observe
    simp only [hhas, hother, h, Bool.not_true, Bool.false_eq_true, ↓reduceIte]

theorem registerLink_existing {registry : LinkRegistry} {facts : LinkFacts}
    (hvalid : (validateLinkFacts facts).ok = true)
    (h : registry.links[facts.id]? = some existing) (now : TimePoint) :
    registry.registerLink facts now = registry.reregisterLink facts existing := by
  unfold registerLink
  simp only [hvalid, Bool.not_true, Bool.false_eq_true, ↓reduceIte, h]

theorem refuses_iff (registry : LinkRegistry) (call : Call) :
    registry.Refuses call ↔ registry.Fenced call := by
  cases call with
  | registerLink facts now =>
    unfold Refuses Fenced
    apply forall_congr'
    intro existing
    apply forall_congr'
    intro hout
    rw [registerLink_existing hout.valid hout.found, reregisterLink_cases hout.found,
      ← observe_behind_iff hout.retired]
    simp only [hout.live, Bool.false_eq_true, ↓reduceIte]
    by_cases hrenames : Renames existing facts
    · by_cases hbehind : (existing.generations.observe facts.generation).2.behind = true
      · simp only [hrenames, hbehind, ↓reduceIte, and_self, iff_true, true_and]
        rfl
      · simp only [hrenames, hbehind, ↓reduceIte, Status.success, Bool.false_eq_true, and_false,
          reduceCtorEq]
    · simp only [hrenames, ↓reduceIte, Status.success, false_and, and_false, reduceCtorEq]
  | registerSource record => exact Iff.rfl
  | observeGeneration id generation => exact Iff.rfl
  | ensureImplicitLink id name now => exact Iff.rfl
  | restore link => exact Iff.rfl

/-- In every run of a registry, declarations under a retired generation are refused exactly as far
as the fence is asked about them. -/
theorem outdated_refused_iff (policy : Policy) (calls : List Call) :
    Labelled.Throughout call Refuses { policy } calls ↔
      Labelled.Throughout call Fenced { policy } calls :=
  Labelled.throughout_congr refuses_iff _ calls

/-- A link declared under the generation `g` with the given capacity. -/
def declaredFacts (capacity : UInt64) : LinkFacts :=
  makeLinkFacts
    { name := ascii "l", generation := ascii "g", capacityKnown := true, capacityInBps := capacity }

/-- The generation `g` is superseded by an observation before the link is declared under it again. -/
def outdatedCalls : List Call :=
  [.registerLink (declaredFacts 1000) ⟨0⟩,
    .observeGeneration (deriveLinkId (ascii "l")) (.fromName (ascii "h")),
    .registerLink (declaredFacts 5) ⟨1⟩]

/-- The second declaration is of the generation of the facts, so the fence is not asked. -/
theorem outdated_refused_fails :
    ¬ ∀ (policy : Policy) (calls : List Call),
      Labelled.Throughout call Refuses { policy } calls := by
  intro h
  let registry := call (call { policy := makeDefaultPolicy } (.registerLink (declaredFacts 1000) ⟨0⟩))
    (.observeGeneration (deriveLinkId (ascii "l")) (.fromName (ascii "h")))
  have hlast : registry.Refuses (.registerLink (declaredFacts 5) ⟨1⟩) :=
    (h makeDefaultPolicy outdatedCalls).2.2.1
  have hfacts : registry.links[(declaredFacts 5).id]?.any (fun existing =>
      !existing.entry.retired &&
        decide ((declaredFacts 5).generation ∈ existing.generations.retiredGenerations)) = true := by
    decide +kernel
  have hvalid : (validateLinkFacts (declaredFacts 5)).ok = true := by decide +kernel
  have hstored : (registry.registerLink (declaredFacts 5) ⟨1⟩).2.code = .ok := by decide +kernel
  obtain ⟨existing, hfound, hout⟩ := (Option.any_eq_true _ _).1 hfacts
  obtain ⟨hlive, hretired⟩ := Bool.and_eq_true_iff.1 hout
  rw [Bool.not_eq_true'] at hlive
  have hcode := (hlast existing ⟨hvalid, hfound, hlive, of_decide_eq_true hretired⟩).2
  have hboth : StatusCode.ok = .conflict := hstored.symm.trans hcode
  cases hboth

end LinkRegistry

end LinkObservatory
