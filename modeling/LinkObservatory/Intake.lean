import LinkObservatory.Balance
import LinkObservatory.Runtime

namespace LinkObservatory
set_option autoImplicit true

open Std

/-- The stream is in the scope of the observation, if in any, and below its revision. -/
structure StreamState.Awaits (stream : StreamState) (observation : Observation) : Prop where
  scope : stream.hasScope = true → stream.scope = scopeOf observation.provenance
  below : stream.hasSequence = true → stream.lastSequence < observation.provenance.sequence

theorem StreamState.Awaits.not_rejects {stream : StreamState} (h : stream.Awaits observation) :
    ¬stream.Rejects observation := by
  rintro (⟨hscoped, hother, -⟩ | ⟨-, hsequenced, hle⟩)
  · exact hother (h.scope hscoped)
  · exact absurd (UInt64.lt_iff_toNat_lt.1 (h.below hsequenced)) (Nat.not_lt.2 hle)

/-- What one source reports comes in one scope, with rising revisions. -/
def Observation.Precedes (first second : Observation) : Prop :=
  first.provenance.source = second.provenance.source →
    scopeOf first.provenance = scopeOf second.provenance ∧
      first.provenance.sequence < second.provenance.sequence

instance (first second : Observation) : Decidable (first.Precedes second) :=
  inferInstanceAs (Decidable (_ → _))

theorem StreamState.awaits_next {stream : StreamState}
    (hstep : StreamStep stream first outcome written) (haccepted : outcome.accepted = true)
    (hscope : scopeOf first.provenance = scopeOf second.provenance)
    (hlater : first.provenance.sequence < second.provenance.sequence) : written.Awaits second := by
  cases hstep with
  | untouched hno => rw [hno] at haccepted; cases haccepted
  | superseded _ hno => rw [hno] at haccepted; cases haccepted
  | refused _ _ _ hno => rw [hno] at haccepted; cases haccepted
  | refusedLate _ _ hno => rw [hno] at haccepted; cases haccepted
  | @advanced entered _ hs hv _ =>
    constructor
    · intro _
      have hentered := entered.openGap_scope outcome.revisionGap
      exact hentered.trans ((enterScope_scope hs).trans hscope)
    · intro _
      exact hlater

/-- The generation that a link is in. -/
def LinkRegistry.generationOf (registry : LinkRegistry) (link : LinkId) : Option GenerationId :=
  (registry.links[link]?).map fun state => state.generations.currentGeneration

theorem LinkRegistry.generationOf_eq {registry registry' : LinkRegistry} {link : LinkId}
    (h : (registry'.links[link]?).map LinkRecord.generations =
      (registry.links[link]?).map LinkRecord.generations) :
    registry'.generationOf link = registry.generationOf link := by
  have hboth := congrArg (Option.map LinkGenerationState.currentGeneration) h
  rwa [Option.map_map, Option.map_map] at hboth

namespace Observatory

/-- Nothing stands in the way of an observation: its source is live and of the highest authority,
its link is in its generation, and its stream awaits it. -/
structure Welcomes (σ : Observatory) (observation : Observation) : Prop where
  source : ∃ source, σ.registry.sources[observation.provenance.source]? = some source ∧
    source.retired = false ∧ source.registered = true ∧ source.provenance ≠ .unknown ∧
    source.authority = .primary
  link : σ.registry.generationOf observation.link = some observation.provenance.generation
  enabled : σ.config.families.isEnabled observation.key.family = true
  identified : observation.link.valid = true
  valid : (validateObservation observation σ.config.policy).ok = true
  awaited : (σ.store.streamFor observation.provenance.source).Awaits observation

theorem authorityDowngrade_primary (slot : Slot) (observation : Observation) :
    authorityDowngrade slot observation .primary = false := by
  unfold authorityDowngrade
  split
  · rename_i evidence _
    cases evidence.authority <;> rfl
  · rfl

theorem Reached.welcomed {config : RuntimeConfig} (h : Reached config log σ)
    (hbound : config.policy.limits.maxLinks.toNat * 256 < 2 ^ 64)
    (hwelcome : σ.Welcomes observation) (instant : TimePoint) :
    (σ.applyObservation observation instant).2.accepted = true := by
  obtain ⟨hsound, rfl⟩ := h.sound
  obtain ⟨source, hsource, hlive, hregistered, hprovenance, hprimary⟩ := hwelcome.source
  obtain ⟨state, hlink, hcurrent⟩ := Option.map_eq_some_iff.1 hwelcome.link
  have hlate : ∀ reason, ¬σ.store.LateFence observation source reason := by
    intro reason
    cases reason with
    | authorityDowngrade =>
      rintro ⟨slot, -, hdown⟩
      rw [hprimary, authorityDowngrade_primary] at hdown
      cases hdown
    | storeFull =>
      rintro ⟨hnew, hfull⟩
      have hroom := not_full (hsound.storePolicy.trans hsound.registryPolicy.symm)
        (by rw [hsound.registryPolicy]; exact hbound) hsound.registry.linkCount h.slotsLinked hnew
        (by simp [hlink])
      rw [hroom] at hfull
      cases hfull
    | _ => exact id
  have hadmits : σ.Admits observation := by
    apply Admits.of_current
    · exact ⟨source, hsource, hlive, hregistered, hprovenance, hlate⟩
    · exact hwelcome.enabled
    · rw [hsound.storePolicy]
      exact ⟨hwelcome.identified, hwelcome.valid⟩
    · simp [hlink, hcurrent]
  exact hadmits.accepted instant hwelcome.awaited.not_rejects

theorem applyObservation_generationOf {σ : Observatory}
    (haccepted : (σ.applyObservation observation instant).2.accepted = true)
    (hcurrent : σ.registry.generationOf observation.link = some observation.provenance.generation)
    (link : LinkId) :
    (σ.applyObservation observation instant).1.registry.generationOf link =
      σ.registry.generationOf link := by
  by_cases hsame : observation.link = link
  · subst hsame
    obtain ⟨source, ensured, observed, hstep⟩ := applyObservation_accepted haccepted
    obtain ⟨state, hstate, -⟩ := hstep.ensures.lookup
    have hbehind := hstep.current
    rw [LinkRegistry.observeGeneration_some hstate] at hbehind
    have hobserved := LinkRegistry.observeGeneration_lookup hstate observation.provenance.generation
      observation.link
    rw [hstep.observes, if_pos rfl] at hobserved
    have hnoted : ((observed.noteAccepted observation.link observation.observedAt instant).links[
        observation.link]?).map LinkRecord.generations =
        (observed.links[observation.link]?).map LinkRecord.generations :=
      observed.updateEntry_generations _ _ _
    have hnow := congrArg (Option.map LinkGenerationState.currentGeneration)
      (hnoted.trans hobserved)
    rw [Option.map_map, Option.map_some, (state.generations.observe_current _ hbehind).2] at hnow
    rw [hcurrent, hstep.registry]
    exact hnow
  · exact LinkRegistry.generationOf_eq
      (congrArg _ ((σ.applyObservation_writes observation instant).other hsame))

/-- What was welcome stays welcome while what precedes it is accepted. -/
theorem Welcomes.next {σ : Observatory} (h : σ.Welcomes second) (hfirst : σ.Welcomes first)
    (hprecedes : first.Precedes second)
    (haccepted : (σ.applyObservation first instant).2.accepted = true) :
    (σ.applyObservation first instant).1.Welcomes second := by
  constructor
  · rw [(σ.applyObservation_writes first instant).sources]
    exact h.source
  · rw [applyObservation_generationOf haccepted hfirst.link]
    exact h.link
  · rw [applyObservation_config]
    exact h.enabled
  · exact h.identified
  · rw [applyObservation_config]
    exact h.valid
  · by_cases hsource : first.provenance.source = second.provenance.source
    · obtain ⟨hscope, hlater⟩ := hprecedes hsource
      have hstep := σ.applyObservation_streamStep first instant
      rw [← hsource]
      exact StreamState.awaits_next hstep haccepted hscope hlater
    · rw [EvidenceStore.streamFor_congr (σ.applyObservation_stream_other first instant hsource)]
      exact h.awaited

/-- Some observations as records, each with the instant at which it is applied. -/
def arrivals (declarations : List (ObservationDecl × TimePoint)) : List (ParsedRecord × TimePoint) :=
  declarations.map fun arrival => (.observation arrival.1, arrival.2)

theorem Reached.takesAll {config : RuntimeConfig} (h : Reached config log σ)
    (hbound : config.policy.limits.maxLinks.toNat * 256 < 2 ^ 64)
    (declarations : List (ObservationDecl × TimePoint))
    (hwelcome : ∀ arrival ∈ declarations, σ.Welcomes (makeObservation arrival.1))
    (hordered : declarations.Pairwise fun first second =>
      (makeObservation first.1).Precedes (makeObservation second.1)) :
    (∀ decision ∈ decisionsFrom σ (arrivals declarations), decision.2.accepted = true) ∧
      (σ.applyAll (arrivals declarations)).counters.accepted =
        σ.counters.accepted + UInt64.ofNat declarations.length ∧
      (σ.applyAll (arrivals declarations)).counters.fenced = σ.counters.fenced := by
  induction declarations generalizing log σ with
  | nil => exact ⟨by simp [arrivals, decisionsFrom], (add_zero _).symm, rfl⟩
  | cons arrival declarations ih =>
    obtain ⟨declaration, instant⟩ := arrival
    obtain ⟨hbefore, hrest⟩ := List.pairwise_cons.1 hordered
    obtain ⟨hfirst, hothers⟩ := List.forall_mem_cons.1 hwelcome
    have haccepted := h.welcomed hbound hfirst instant
    have hnext := h.record (.observation declaration) instant
    obtain ⟨hall, hcount, hfenced⟩ := ih hnext
      (fun other hmem => (hothers other hmem).next hfirst (hbefore other hmem) haccepted) hrest
    have hcounts := σ.applyObservation_counts (makeObservation declaration) instant
    cases hcounts with
    | refused hno => rw [haccepted] at hno; cases hno
    | accepted _ _ hone _ _ _ _ hnone =>
      refine ⟨?_, ?_, ?_⟩
      · intro decision hmem
        rcases List.mem_cons.1 hmem with rfl | hmem
        · exact haccepted
        · exact hall decision hmem
      · have hstart : (σ.applyRecord (.observation declaration) instant).1.counters.accepted =
            σ.counters.accepted + 1 := hone
        rw [List.length_cons, Nat.add_comm, UInt64.ofNat_add, ← UInt64.add_assoc]
        rw [hstart] at hcount
        exact hcount
      · exact hfenced.trans hnone

/-- Two more readings of the source and the link that `generationRun` declares. -/
def laterReadings : List (ObservationDecl × TimePoint) :=
  let reading : ObservationDecl :=
    { link := ascii "l", source := ascii "s", incarnation := ascii "i", epoch := ascii "e"
      generation := ascii "g", revision := 6, payload := .adminState .disabled }
  [(reading, ⟨1⟩), ({ reading with revision := 9 }, ⟨2⟩)]

theorem generationRun_welcomes : ∀ arrival ∈ laterReadings,
    (run { policy := makeDefaultPolicy } generationRun).Welcomes (makeObservation arrival.1) := by
  have hsource (id : SourceId) (hid : id = .fromName (ascii "s")) : ∃ source,
      (run { policy := makeDefaultPolicy } generationRun).registry.sources[id]? = some source ∧
        source.retired = false ∧ source.registered = true ∧ source.provenance ≠ .unknown ∧
        source.authority = .primary := by
    have hany : ((run { policy := makeDefaultPolicy } generationRun).registry.sources[
        (StrongId.fromName (ascii "s") : SourceId)]?).any (fun source => !source.retired &&
          source.registered && source.provenance != .unknown && source.authority == .primary) =
        true := by
      decide +kernel
    obtain ⟨source, hsource, hall⟩ := (Option.any_eq_true _ _).1 hany
    rw [← hid] at hsource
    exact ⟨source, hsource, by simpa [and_assoc] using hall⟩
  intro arrival hmem
  rcases List.mem_cons.1 hmem with rfl | hmem
  · exact ⟨hsource _ (by decide +kernel), by decide +kernel, by decide +kernel, by decide +kernel,
      by decide +kernel, fun _ => by decide +kernel, fun _ => by decide +kernel⟩
  · obtain rfl := List.mem_singleton.1 hmem
    exact ⟨hsource _ (by decide +kernel), by decide +kernel, by decide +kernel, by decide +kernel,
      by decide +kernel, fun _ => by decide +kernel, fun _ => by decide +kernel⟩

theorem takesAll_two :
    let σ := run { policy := makeDefaultPolicy } generationRun
    (∀ decision ∈ decisionsFrom σ (arrivals laterReadings), decision.2.accepted = true) ∧
      (σ.applyAll (arrivals laterReadings)).counters.accepted = σ.counters.accepted + 2 ∧
      (σ.applyAll (arrivals laterReadings)).counters.fenced = σ.counters.fenced :=
  (Reached.run _ generationRun).takesAll (by decide) laterReadings generationRun_welcomes
    (by decide +kernel)

end Observatory

end LinkObservatory
