import LinkObservatory.RoundTrip

namespace LinkObservatory
set_option autoImplicit true

open Std

namespace Observatory

def Registered (σ : Observatory) (name : Bytes) : Prop :=
  (σ.registry.findLink (deriveLinkId name)).isSome = true

/-- A query by name has an answer exactly for the links that are registered. -/
def TellsPresence (σ : Observatory) (name : Bytes) : Prop :=
  ∀ instant, (σ.classify (deriveLinkId name) instant).isSome = true ↔ σ.Registered name

/-- None of the observations decided on was accepted. -/
def NoneAccepted (log : List Decision) : Prop := ∀ decision ∈ log, decision.2.accepted = false

theorem noneAccepted_append (first second : List Decision) :
    NoneAccepted (first ++ second) ↔ NoneAccepted first ∧ NoneAccepted second :=
  List.forall_mem_append

theorem noneAccepted_one (observation : Observation) (outcome : AcceptOutcome) :
    NoneAccepted [(observation, outcome)] ↔ outcome.accepted = false :=
  List.forall_mem_singleton

/-- There are slots from the first accepted observation on. -/
theorem Reached.slots_empty_iff {config : RuntimeConfig} (h : Reached config log σ) :
    σ.store.slots.size = 0 ↔ NoneAccepted log := by
  refine h.store_induction (motive := fun log store => store.slots.size = 0 ↔ NoneAccepted log)
    ?_ ?_ ?_ ?_
  · exact ⟨fun _ _ hmem => absurd hmem List.not_mem_nil, fun _ => rfl⟩
  · intro log store observation context instant _ ih
    rw [noneAccepted_append, noneAccepted_one]
    rcases store.accept_slots observation context instant with
      ⟨hno, hslots⟩ | ⟨hyes, _, slot, -, -, hslots, -⟩
    · rw [hslots, ih, and_iff_left hno]
    · have hpos : 0 < (store.slots.insert ⟨observation.link, observation.key⟩ slot).size := by
        apply Nat.pos_of_ne_zero
        intro hzero
        have hempty := ExtTreeMap.eq_empty_iff_size_eq_zero.2 hzero
        exact ExtTreeMap.insert_ne_empty hempty
      rw [hslots, hyes]
      constructor
      · intro hzero
        omega
      · rintro ⟨-, hfalse⟩
        cases hfalse
  · intro log store observation reason ih
    rw [noneAccepted_append, noneAccepted_one, and_iff_left rfl]
    exact ih
  · intro log store store' hslots _ ih
    rw [hslots]
    exact ih

theorem classify_isSome_iff (σ : Observatory) (name : Bytes) (instant : TimePoint) :
    (σ.classify (deriveLinkId name) instant).isSome = true ↔
      σ.Registered name ∨ σ.store.slots.size ≠ 0 := by
  unfold classify Registered
  cases σ.registry.findLink (deriveLinkId name) with
  | some entry => simp
  | none =>
    by_cases hempty : σ.store.slots.size = 0
    · simp [hempty]
    · simp [hempty]

/-- In every reached state, a query tells whether the link is registered exactly if it is, or if no
observation of any link has been accepted. -/
theorem Reached.tellsPresence_iff {config : RuntimeConfig} (h : Reached config log σ)
    (name : Bytes) : σ.TellsPresence name ↔ σ.Registered name ∨ NoneAccepted log := by
  rw [← h.slots_empty_iff]
  constructor
  · intro htells
    by_contra hno
    rw [not_or] at hno
    have hanswer := (σ.classify_isSome_iff name {}).2 (.inr hno.2)
    exact hno.1 ((htells {}).1 hanswer)
  · intro hcondition instant
    rw [classify_isSome_iff]
    constructor
    · rintro (hknown | hslots)
      · exact hknown
      · exact hcondition.resolve_right hslots
    · exact .inl

theorem Reached.tellsPresence_report :
    (Observatory.run { policy := makeDefaultPolicy } reportedRecords).TellsPresence (ascii "l") :=
  ((Reached.run { policy := makeDefaultPolicy } reportedRecords).tellsPresence_iff (ascii "l")).2
    (.inl (by
      show Option.isSome _ = true
      decide +kernel))

/-- Once a link has evidence, a link that was never declared has an answer, too. -/
theorem Reached.tellsPresence_fails :
    ¬ ∀ (config : RuntimeConfig) (log : List Decision) (σ : Observatory) (name : Bytes),
      Reached config log σ → σ.TellsPresence name := by
  intro h
  have htells := h _ _ _ (ascii "other")
    (Reached.run { policy := makeDefaultPolicy } reportedRecords) {}
  have hanswer : ((Observatory.run { policy := makeDefaultPolicy } reportedRecords).classify
      (deriveLinkId (ascii "other")) {}).isSome = true := by
    rw [classify_isSome_iff]
    exact .inr (by decide +kernel)
  have hunknown : ((Observatory.run { policy := makeDefaultPolicy }
      reportedRecords).registry.findLink (deriveLinkId (ascii "other"))).isSome = false := by
    decide +kernel
  have hknown := htells.1 hanswer
  unfold Registered at hknown
  rw [hunknown] at hknown
  cases hknown

end Observatory

end LinkObservatory
