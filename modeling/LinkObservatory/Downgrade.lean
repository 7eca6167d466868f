import LinkObservatory.Refusal

namespace LinkObservatory
set_option autoImplicit true

open Std

/-- Evidence of the observation's generation, of a higher authority and not older. -/
def Evidence.Outranks (item : Evidence) (observation : Observation) (authority : SourceAuthority) :
    Prop :=
  item.observation.provenance.generation = observation.provenance.generation ∧
    authority.code < item.authority.code ∧
    observation.observedAt.nanos ≤ item.observation.observedAt.nanos

/-- Some evidence retained in the observation's slot outranks it. -/
def EvidenceStore.Outranked (store : EvidenceStore) (observation : Observation)
    (context : AcceptContext) : Prop :=
  ∃ source slot, context.source = some source ∧
    store.slots[SlotKey.mk observation.link observation.key]? = some slot ∧
    ∃ item ∈ slot.history, item.Outranks observation source.authority

/-- The observation passes every fence that comes before the authority of its slot. -/
structure EvidenceStore.Clears (store : EvidenceStore) (observation : Observation)
    (context : AcceptContext) (source : SourceRecord) : Prop where
  known : context.source = some source
  registered : source.registered = true
  active : source.retired = false
  provenance : source.provenance ≠ .unknown
  enabled : context.familyEnabled = true
  link : observation.link.valid = true
  valid : (validateObservation observation store.policy).ok = true
  generation : context.currentGeneration.valid = true →
    observation.provenance.generation = context.currentGeneration
  revision : ¬(store.streamFor observation.provenance.source).Rejects observation

/-- Evidence that outranks the observation stands behind a newer item of its generation that does
not. -/
def EvidenceStore.Shadowed (store : EvidenceStore) (observation : Observation)
    (context : AcceptContext) : Prop :=
  ∃ source slot, store.Clears observation context source ∧
    store.slots[SlotKey.mk observation.link observation.key]? = some slot ∧
    ∃ older newest newer, slot.history = older ++ newest :: newer ∧
      newest.observation.provenance.generation = observation.provenance.generation ∧
      (∀ item ∈ newer,
        item.observation.provenance.generation ≠ observation.provenance.generation) ∧
      ¬newest.Outranks observation source.authority ∧
      ∃ item ∈ older, item.Outranks observation source.authority

/-- The fence looks at the newest item of the generation only. -/
theorem authorityDowngrade_newest {slot : Slot} {observation : Observation}
    (hhistory : slot.history = older ++ newest :: newer)
    (hgeneration : newest.observation.provenance.generation = observation.provenance.generation)
    (hnewer : ∀ item ∈ newer,
      item.observation.provenance.generation ≠ observation.provenance.generation)
    (authority : SourceAuthority) :
    authorityDowngrade slot observation authority = true ↔
      newest.Outranks observation authority := by
  have hfound : slot.history.reverse.find? (fun evidence =>
      evidence.observation.provenance.generation == observation.provenance.generation) =
        some newest := by
    rw [List.find?_eq_some_iff_append, hhistory]
    refine ⟨beq_iff_eq.2 hgeneration, newer.reverse, older.reverse, by simp, ?_⟩
    intro item hmem
    simpa using hnewer item (List.mem_reverse.1 hmem)
  unfold authorityDowngrade Evidence.Outranks
  rw [hfound]
  simp [hgeneration]

theorem newest_of_generation {history : List Evidence} {generation : GenerationId}
    (hmem : item ∈ history) (hitem : item.observation.provenance.generation = generation) :
    ∃ older newest newer, history = older ++ newest :: newer ∧
      newest.observation.provenance.generation = generation ∧
      ∀ other ∈ newer, other.observation.provenance.generation ≠ generation := by
  have hsome : (history.reverse.find? fun evidence =>
      evidence.observation.provenance.generation == generation).isSome := by
    rw [List.find?_isSome]
    exact ⟨item, List.mem_reverse.2 hmem, beq_iff_eq.2 hitem⟩
  obtain ⟨newest, hfound⟩ := Option.isSome_iff_exists.1 hsome
  obtain ⟨hnewest, newer, older, hsplit, hnewer⟩ := List.find?_eq_some_iff_append.1 hfound
  refine ⟨older.reverse, newest, newer.reverse, ?_, beq_iff_eq.1 hnewest, ?_⟩
  · rw [← List.reverse_reverse history, hsplit]
    simp
  · intro other hother
    simpa using hnewer other (List.mem_reverse.1 hother)

namespace EvidenceStore

theorem accept_clears {store : EvidenceStore} {now : TimePoint}
    (h : (store.accept observation context now).2.accepted = true) :
    ∃ source, store.Clears observation context source ∧
      ∀ reason, ¬store.LateFence observation source reason := by
  have hstep := store.accept_step observation context now
  generalize (store.accept observation context now).1 = after at *
  generalize (store.accept observation context now).2 = outcome at *
  cases hstep with
  | recorded hadmission hscope hrevision hlate =>
    obtain ⟨hsource, hregistered, hactive, hprovenance, hlink, hvalid, hgeneration⟩ :=
      admission_ok hadmission
    refine ⟨_, ?_, hlate⟩
    exact ⟨hsource, hregistered, hactive, hprovenance, admission_enabled hadmission, hlink, hvalid,
      hgeneration, not_rejects_of_next hscope hrevision⟩
  | _ => cases h

theorem Clears.refused_iff {store : EvidenceStore} (h : store.Clears observation context source)
    (now : TimePoint) : (store.accept observation context now).2.accepted = false ↔
      ∃ reason, store.LateFence observation source reason := by
  rw [accept_refuses_iff store observation context now h.known h.enabled h.generation]
  unfold Refuses
  simp [h.registered, h.active, h.provenance, h.link, h.valid, h.revision]

/-- Outranked observations are refused, exactly unless what outranks them is shadowed by a newer
item of the same generation. -/
theorem accept_outranked_iff (store : EvidenceStore) (observation : Observation)
    (context : AcceptContext) (now : TimePoint) :
    (store.Outranked observation context →
      (store.accept observation context now).2.accepted = false) ↔
    ¬store.Shadowed observation context := by
  constructor
  · rintro h ⟨source, slot, hclears, hslot, older, newest, newer, hhistory, hgeneration, hnewer,
      hnot, item, hmem, hitem⟩
    have hold : item ∈ slot.history := by
      rw [hhistory]
      exact List.mem_append_left _ hmem
    obtain ⟨reason, hlate⟩ := (hclears.refused_iff now).1
      (h ⟨source, slot, hclears.known, hslot, item, hold, hitem⟩)
    cases reason with
    | authorityDowngrade =>
      obtain ⟨found, hfound, hdowngrade⟩ := hlate
      rw [hslot] at hfound
      cases hfound
      exact hnot ((authorityDowngrade_newest hhistory hgeneration hnewer _).1 hdowngrade)
    | storeFull =>
      rw [hlate.1] at hslot
      cases hslot
    | _ => exact hlate.elim
  · rintro hshadow ⟨source, slot, hknown, hslot, item, hmem, hitem⟩
    by_contra haccepted
    obtain ⟨admitted, hclears, hlate⟩ := accept_clears (Bool.of_not_eq_false haccepted)
    have hsame : admitted = source := Option.some.inj (hclears.known.symm.trans hknown)
    subst hsame
    obtain ⟨older, newest, newer, hhistory, hgeneration, hnewer⟩ :=
      newest_of_generation hmem hitem.1
    have hnot : ¬newest.Outranks observation admitted.authority := by
      intro houtranks
      exact hlate .authorityDowngrade ⟨slot, hslot,
        (authorityDowngrade_newest hhistory hgeneration hnewer _).2 houtranks⟩
    refine hshadow ⟨admitted, slot, hclears, hslot, older, newest, newer, hhistory, hgeneration,
      hnewer, hnot, item, ?_, hitem⟩
    rw [hhistory] at hmem
    rcases List.mem_append.1 hmem with hold | hlater
    · exact hold
    · rcases List.mem_cons.1 hlater with rfl | hafter
      · exact absurd hitem hnot
      · exact absurd hitem.1 (hnewer item hafter)

/-- A primary reading at 5, a secondary one at 9, then another secondary one at 3: it is older than
the primary one and still accepted. -/
theorem accept_outranked_fails :
    ¬ ∀ (store : EvidenceStore) (observation : Observation) (context : AcceptContext)
      (now : TimePoint), store.Outranked observation context →
      (store.accept observation context now).2.accepted = false := by
  intro h
  let secondary : AcceptContext := { source := some (registeredSource ⟨⟨0, 2⟩⟩ .secondary) }
  let first := EvidenceStore.accept { policy := makeDefaultPolicy } (adminReport ⟨⟨0, 1⟩⟩ 1 ⟨5⟩)
    { source := some (registeredSource ⟨⟨0, 1⟩⟩ .primary) } ⟨9⟩
  let store := (first.1.accept (adminReport ⟨⟨0, 2⟩⟩ 1 ⟨9⟩) secondary ⟨9⟩).1
  have hshadow : (store.slots[SlotKey.mk ⟨⟨0, 1⟩⟩ {}]?).any (fun slot => slot.history.any
      fun item => item.observation.provenance.generation == ⟨⟨0, 1⟩⟩ &&
        decide (SourceAuthority.secondary.code < item.authority.code) &&
        decide (3 ≤ item.observation.observedAt.nanos)) = true := by
    decide +kernel
  have haccepted : (store.accept (adminReport ⟨⟨0, 2⟩⟩ 2 ⟨3⟩) secondary ⟨9⟩).2.accepted = true := by
    decide +kernel
  obtain ⟨slot, hslot, hany⟩ := (Option.any_eq_true _ _).1 hshadow
  obtain ⟨item, hmem, hitem⟩ := List.any_eq_true.1 hany
  simp only [Bool.and_eq_true, beq_iff_eq, decide_eq_true_eq] at hitem
  have hrefused := h store (adminReport ⟨⟨0, 2⟩⟩ 2 ⟨3⟩) secondary ⟨9⟩
    ⟨_, slot, rfl, hslot, item, hmem, hitem.1.1, hitem.1.2, hitem.2⟩
  rw [haccepted] at hrefused
  cases hrefused

end EvidenceStore

end LinkObservatory
