import LinkObservatory.Contenders
import LinkObservatory.Generations
import LinkObservatory.Refusal

namespace LinkObservatory
set_option autoImplicit true

open Std Selection

namespace EvidenceStore

theorem accept_scope {store : EvidenceStore} {observation : Observation} {context : AcceptContext}
    {now : TimePoint} (h : (store.accept observation context now).2.accepted = true) :
    ∃ stream, (store.accept observation context now).1.streams[observation.provenance.source]? =
      some stream ∧ stream.hasScope = true ∧ stream.scope = scopeOf observation.provenance := by
  have hstep := store.accept_streamStep observation context now
  generalize hwritten : (store.accept observation context now).1.streamFor
    observation.provenance.source = written at hstep
  cases hstep with
  | advanced hs hnext hyes =>
    rename_i entered
    obtain ⟨-, hhas, -⟩ := enterScope_gapCount hs
    have hscope := enterScope_scope hs
    have hkept : ((entered.openGap (store.accept observation context now).2.revisionGap).advance
        observation).hasScope = true := by
      cases (store.accept observation context now).2.revisionGap <;> exact hhas
    refine ⟨_, ?_, hkept, ?_⟩
    · rw [← hwritten] at hkept ⊢
      exact lookup_of_hasScope hkept
    · exact (StreamState.openGap_scope _ _).trans hscope
  | untouched hno => rw [hno] at h; cases h
  | superseded _ hno => rw [hno] at h; cases h
  | refused _ _ _ hno => rw [hno] at h; cases h
  | refusedLate _ _ hno => rw [hno] at h; cases h

end EvidenceStore

namespace Observatory

/-- Nothing stood in the way of an accepted observation. -/
theorem Admits.of_accepted {σ : Observatory} {observation : Observation} {instant : TimePoint}
    (h : (σ.applyObservation observation instant).2.accepted = true) :
    σ.Admits observation ∧
      ¬(σ.store.streamFor observation.provenance.source).Rejects observation := by
  have hstep := σ.applyObservation_step observation instant
  generalize (σ.applyObservation observation instant).1 = σ' at *
  generalize (σ.applyObservation observation instant).2 = outcome at *
  cases hstep with
  | refused context hsource hno hfamily _ _ _ haccept =>
    rcases σ.store.accept_slots observation context instant with
      ⟨hrefused, -⟩ | ⟨-, source, _, hadmission, -⟩
    · rw [haccept] at hrefused
      rw [hrefused] at h
      cases h
    · exact absurd hadmission (EvidenceStore.admission_refused hno hfamily)
  | unknownLink _ _ _ _ _ _ _ _ _ houtcome => rw [houtcome] at h; cases h
  | behind _ _ _ _ _ _ _ _ _ _ _ houtcome => rw [houtcome] at h; cases h
  | decided registry hsource hlive henabled hensured hobs hb hconfig haccept hregistry hlog =>
    rename_i source observed generation
    have hbehind : (registry.observeGeneration observation.link
        observation.provenance.generation).2.behind = false := by rwa [hobs]
    obtain ⟨state, hstate, hcases⟩ := hensured.lookup
    have hcurrent := LinkRegistry.currentGeneration_observed hstate hbehind
    rw [hobs] at hcurrent
    have hrefuses := σ.store.accept_refuses_iff observation (observed.acceptContext observation source)
      instant rfl rfl (fun _ => hcurrent.symm)
    rw [haccept, h] at hrefuses
    have hpasses : ¬σ.store.Refuses observation source := fun hrefused => by
      cases hrefuses.2 hrefused
    unfold EvidenceStore.Refuses at hpasses
    simp only [not_or, not_exists, Bool.not_eq_false, Bool.not_eq_true] at hpasses
    obtain ⟨hregistered, -, hprovenance, hlink, hvalid, hstream, hlate⟩ := hpasses
    refine ⟨⟨⟨source, hsource, hlive, hregistered, hprovenance, hlate⟩, henabled, hlink, hvalid,
      ?_, ?_⟩, hstream⟩
    · intro hnone
      rcases hcases with ⟨hknown, -⟩ | ⟨-, -, hmoves⟩
      · rw [hnone] at hknown
        cases hknown
      · exact hmoves
    · intro known hknown hhas hne hretired
      rcases hcases with ⟨hfound, rfl⟩ | ⟨hnone, -⟩
      · obtain rfl : known = state := Option.some.inj (hknown.symm.trans hfound)
        rw [LinkRegistry.observeGeneration_some hfound] at hbehind
        unfold LinkGenerationState.observe at hbehind
        simp only [hhas, hne, hretired, Bool.not_true, Bool.false_eq_true, ↓reduceIte] at hbehind
        cases hbehind
      · rw [hnone] at hknown
        cases hknown

theorem accepted_iff (σ : Observatory) (observation : Observation) (instant : TimePoint) :
    (σ.applyObservation observation instant).2.accepted = true ↔
      σ.Admits observation ∧
        ¬(σ.store.streamFor observation.provenance.source).Rejects observation :=
  ⟨Admits.of_accepted, fun h => h.1.accepted instant h.2⟩

/-- The evidence that an observation becomes. -/
def evidenceOf (σ : Observatory) (observation : Observation) (instant : TimePoint) : Evidence :=
  let source := (σ.registry.sources[observation.provenance.source]?).getD {}
  { observation := observation
    acceptedAt := instant
    authority := source.authority
    provenance := source.provenance }

/-- What the slot of a key will hold when an observation of the link has been accepted, newest
first. -/
def heldWith (σ : Observatory) (key : MetricKey) (observation : Observation)
    (instant : TimePoint) : List Evidence :=
  let history := (σ.store.slotFor ⟨observation.link, key⟩).history
  (if observation.key = key then
    Ring.push σ.store.policy.limits.maxEvidencePerKey.toNat history
      (σ.evidenceOf observation instant)
  else history).reverse

/-- Evidence may still speak for the link when an observation has been accepted: it is fresh, in the
scope of its source and of the generation of the observation. -/
def Endures (σ : Observatory) (key : MetricKey) (observation : Observation) (instant : TimePoint)
    (evidence : Evidence) : Prop :=
  classifyFreshness (ageEvidence evidence instant)
      (freshnessPolicyFor σ.store.policy key.family) = .fresh ∧
    (if evidence.source = observation.provenance.source then
      scopeOf evidence.observation.provenance = scopeOf observation.provenance
    else σ.store.scopeCurrent evidence = true) ∧
    (observation.provenance.generation.valid = true →
      evidence.observation.provenance.generation = observation.provenance.generation)

/-- A contender for the key will be left when the observation has been accepted. -/
def Sustains (σ : Observatory) (key : MetricKey) (observation : Observation)
    (instant : TimePoint) : Prop :=
  ∃ evidence ∈ (firstOfEach Evidence.source (σ.heldWith key observation instant)).take
      (max 1 σ.store.policy.limits.maxContendersPerKey.toNat),
    σ.Endures key observation instant evidence

instance Endures.decide (σ : Observatory) (key : MetricKey) (observation : Observation)
    (instant : TimePoint) (evidence : Evidence) :
    Decidable (σ.Endures key observation instant evidence) :=
  inferInstanceAs (Decidable (_ ∧ _ ∧ _))

instance Sustains.decide (σ : Observatory) (key : MetricKey) (observation : Observation)
    (instant : TimePoint) : Decidable (σ.Sustains key observation instant) :=
  inferInstanceAs (Decidable (∃ evidence ∈ _, _))

section

variable {σ : Observatory} {observation : Observation} {instant : TimePoint}
  (h : (σ.applyObservation observation instant).2.accepted = true)

include h

theorem applyObservation_held (key : MetricKey) :
    (((σ.applyObservation observation instant).1.store.slotFor
      ⟨observation.link, key⟩).history.reverse = σ.heldWith key observation instant) := by
  obtain ⟨source, ensured, observed, hstep⟩ := applyObservation_accepted h
  rcases σ.store.accept_slots observation (observed.acceptContext observation source) instant with
    ⟨hno, -⟩ | ⟨-, admitted, slot, hadmission, -, hslots, hrecords⟩
  · rw [hstep.accepts, h] at hno
    cases hno
  obtain ⟨hcontext, -⟩ := EvidenceStore.admission_ok hadmission
  obtain rfl : source = admitted := Option.some.inj hcontext
  rw [hstep.accepts] at hslots
  unfold heldWith
  congr 1
  unfold EvidenceStore.slotFor
  rw [ExtTreeMap.getD_eq_getD_getElem?, ExtTreeMap.getD_eq_getD_getElem?, hslots,
    OrderedMap.lookup_insert]
  by_cases hkey : observation.key = key
  · subst hkey
    rw [if_pos rfl, if_pos rfl, Option.getD_some, hrecords.history, evidenceOf, hstep.live]
    unfold EvidenceStore.slotFor
    rw [ExtTreeMap.getD_eq_getD_getElem?]
    rfl
  · have hne : (⟨observation.link, observation.key⟩ : SlotKey) ≠ ⟨observation.link, key⟩ :=
      fun heq => hkey (SlotKey.mk.inj heq).2
    rw [if_neg hne, if_neg hkey]

theorem eligible_iff_endures (key : MetricKey) (evidence : Evidence) :
    ((σ.applyObservation observation instant).1.store.evaluateEvidence observation.link key
      ((σ.applyObservation observation instant).1.classificationInput observation.link
        instant).context evidence).eligible = true ↔
      σ.Endures key observation instant evidence := by
  have hcurrent := σ.applyObservation_current observation instant h
  obtain ⟨source, ensured, observed, hstep⟩ := applyObservation_accepted h
  have hpolicy := σ.store.accept_policy observation (observed.acceptContext observation source)
    instant
  rw [hstep.accepts] at hpolicy
  have hscope : (σ.applyObservation observation instant).1.store.scopeCurrent evidence = true ↔
      (if evidence.source = observation.provenance.source then
        scopeOf evidence.observation.provenance = scopeOf observation.provenance
      else σ.store.scopeCurrent evidence = true) := by
    unfold EvidenceStore.scopeCurrent
    by_cases hsource : evidence.source = observation.provenance.source
    · have haccepted : (σ.store.accept observation (observed.acceptContext observation source)
          instant).2.accepted = true := by rw [hstep.accepts]; exact h
      obtain ⟨stream, hstream, hhas, hin⟩ := EvidenceStore.accept_scope haccepted
      rw [hstep.accepts] at hstream
      rw [if_pos hsource, show evidence.observation.provenance.source = _ from hsource, hstream]
      simp only [hhas, hin, Bool.true_and, beq_iff_eq]
      exact eq_comm
    · have hother := σ.store.accept_stream_other observation
        (observed.acceptContext observation source) instant (Ne.symm hsource)
      rw [hstep.accepts] at hother
      rw [if_neg hsource, show evidence.observation.provenance.source = evidence.source from rfl,
        show (σ.applyObservation observation instant).1.store.streams[evidence.source]? = _
          from hother]
  unfold Endures
  rw [← hscope, ← hpolicy]
  unfold EvidenceStore.evaluateEvidence ClassificationInput.context classificationInput
  simp only [hcurrent, Bool.and_eq_true, Bool.or_eq_true, beq_iff_eq, Bool.not_eq_true',
    and_assoc]
  refine and_congr_right fun _ => and_congr_right fun _ => ?_
  cases observation.provenance.generation.valid with
  | true => simp
  | false => simp

theorem sustains_iff (key : MetricKey) :
    (∃ contender ∈ (σ.applyObservation observation instant).1.store.contenders observation.link key
        ((σ.applyObservation observation instant).1.classificationInput observation.link
          instant).context, contender.eligible = true) ↔
      σ.Sustains key observation instant := by
  have hheld := applyObservation_held h key
  obtain ⟨source, ensured, observed, hstep⟩ := applyObservation_accepted h
  have hpolicy := σ.store.accept_policy observation (observed.acceptContext observation source)
    instant
  rw [hstep.accepts] at hpolicy
  cases hslot : (σ.applyObservation observation instant).1.store.slots[
      SlotKey.mk observation.link key]? with
  | none =>
    have hempty : σ.heldWith key observation instant = [] := by
      rw [← hheld, EvidenceStore.slotFor, ExtTreeMap.getD_eq_getD_getElem?, hslot]
      rfl
    unfold Sustains EvidenceStore.contenders
    rw [hempty, hslot]
    simp
  | some slot =>
    have hhistory : slot.history.reverse = σ.heldWith key observation instant := by
      rw [← hheld, EvidenceStore.slotFor, ExtTreeMap.getD_eq_getD_getElem?, hslot]
      rfl
    rw [EvidenceStore.contenders_eq hslot, hhistory, hpolicy]
    unfold Sustains
    constructor
    · rintro ⟨contender, hmem, heligible⟩
      obtain ⟨evidence, hevidence, rfl⟩ := List.mem_map.1 hmem
      exact ⟨evidence, hevidence, (eligible_iff_endures h key evidence).1 heligible⟩
    · rintro ⟨evidence, hevidence, hendures⟩
      exact ⟨_, List.mem_map_of_mem hevidence, (eligible_iff_endures h key evidence).2 hendures⟩

end

end Observatory

end LinkObservatory
