import LinkObservatory.ObservatoryStep

namespace LinkObservatory
set_option autoImplicit true

open Std

/-- Registered links, their generations and the transition log are the same in both states. -/
structure SameTopology (σ σ' : Observatory) : Prop where
  links : ∀ link : LinkId, (σ'.registry.links[link]?).isSome = (σ.registry.links[link]?).isSome
  generations : ∀ link : LinkId, σ'.registry.generationState link = σ.registry.generationState link
  transitions : σ'.transitions = σ.transitions

/-- The generation would take over: the link has none yet, or it is neither current nor retired. -/
def LinkGenerationState.Moves (generations : LinkGenerationState) (generation : GenerationId) :
    Prop :=
  generations.hasGeneration = false ∨
    (generations.currentGeneration ≠ generation ∧ generation ∉ generations.retiredGenerations)

/-- The observation would create its link or change its generation. -/
def LinkRegistry.Moves (registry : LinkRegistry) (observation : Observation) : Prop :=
  match registry.links[observation.link]? with
  | some state => state.generations.Moves observation.provenance.generation
  | none => registry.policy.allowImplicitLinks = true ∧ observation.link.valid = true ∧
      registry.links.size < registry.policy.limits.maxLinks.toNat

/-- A live source's observation that would move the topology and that the store refuses. -/
def Observatory.Premature (σ : Observatory) (observation : Observation) : Prop :=
  ∃ source, σ.registry.sources[observation.provenance.source]? = some source ∧
    source.retired = false ∧ σ.config.families.isEnabled observation.key.family = true ∧
    σ.registry.Moves observation ∧ σ.store.Refuses observation source

namespace LinkGenerationState

theorem observe_behind (generations : LinkGenerationState) (generation : GenerationId) :
    (generations.observe generation).2.behind = true →
      (generations.observe generation).1 = generations ∧ ¬generations.Moves generation := by
  unfold observe Moves
  split
  · simp
  split
  · simp
  split
  · simp_all
  · simp

theorem observe_behind_retired (generations : LinkGenerationState) (generation : GenerationId)
    (h : (generations.observe generation).2.behind = true) :
    generations.hasGeneration = true ∧ generations.currentGeneration ≠ generation ∧
      generation ∈ generations.retiredGenerations := by
  revert h
  unfold observe
  split
  · simp
  split
  · simp
  split
  · simp_all
  · simp

theorem observe_unchanged (generations : LinkGenerationState) (generation : GenerationId)
    (h : (generations.observe generation).2.changed = false) :
    (generations.observe generation).1 = generations ∧ ¬generations.Moves generation := by
  revert h
  unfold observe Moves
  split
  · simp
  split
  · simp_all
  split
  · simp_all
  · simp

theorem observe_changed (generations : LinkGenerationState) (generation : GenerationId)
    (h : (generations.observe generation).2.changed = true) :
    (generations.observe generation).1 ≠ generations ∧ generations.Moves generation := by
  revert h
  unfold observe Moves
  split
  · intro _
    refine ⟨fun he => ?_, .inl (by simp_all)⟩
    have := congrArg LinkGenerationState.hasGeneration he
    simp_all
  split
  · simp
  split
  · simp
  · rename_i hcurrent hretired
    intro _
    refine ⟨fun he => ?_, .inr ⟨hcurrent, hretired⟩⟩
    exact hcurrent (congrArg LinkGenerationState.currentGeneration he).symm

theorem observe_current (generations : LinkGenerationState) (generation : GenerationId)
    (h : (generations.observe generation).2.behind = false) :
    (generations.observe generation).1.hasGeneration = true ∧
      (generations.observe generation).1.currentGeneration = generation := by
  revert h
  unfold observe
  split
  · simp
  split
  · simp_all
  split
  · simp
  · simp_all

end LinkGenerationState

namespace LinkRegistry

theorem generationState_eq (registry : LinkRegistry) (id : LinkId) :
    registry.generationState id = ((registry.links[id]?).map LinkRecord.generations).getD {} := by
  unfold generationState
  cases registry.links[id]? <;> rfl

theorem updateEntry_generations (registry : LinkRegistry) (id : LinkId)
    (update : LinkEntry → LinkEntry) (link : LinkId) :
    ((registry.updateEntry id update).links[link]?).map LinkRecord.generations =
      (registry.links[link]?).map LinkRecord.generations := by
  unfold updateEntry
  cases hfound : registry.links[id]? with
  | none => rfl
  | some state =>
    simp only [OrderedMap.lookup_insert]
    split
    · rename_i heq
      subst heq
      rw [hfound]
      rfl
    · rfl

theorem observeGeneration_some {registry : LinkRegistry} {id : LinkId}
    (h : registry.links[id]? = some state) (generation : GenerationId) :
    registry.observeGeneration id generation =
      ({ registry with
          links := registry.links.insert id
            { state with generations := (state.generations.observe generation).1 } },
        (state.generations.observe generation).2) := by
  unfold observeGeneration
  rw [h]

theorem observeGeneration_lookup {registry : LinkRegistry} {id : LinkId}
    (h : registry.links[id]? = some state) (generation : GenerationId) (link : LinkId) :
    ((registry.observeGeneration id generation).1.links[link]?).map LinkRecord.generations =
      if id = link then some (state.generations.observe generation).1
      else (registry.links[link]?).map LinkRecord.generations := by
  rw [observeGeneration_some h]
  simp only [OrderedMap.lookup_insert]
  split <;> rfl

/-- The record of a link created implicitly. -/
def implicitRecord (id : LinkId) (now : TimePoint) : LinkRecord :=
  { entry := { facts := { id := id, name := id.toString.take 128 }, registeredAt := now } }

theorem validateLinkFacts_implicit (id : LinkId) :
    (validateLinkFacts { id := id, name := id.toString.take 128 }).ok = id.valid := by
  have hname : id.toString.take 128 ≠ [] := by
    simp [StrongId.toString, IdKind.name, ascii]
  unfold validateLinkFacts
  cases id.valid <;> simp [hname, Status.ok, Status.of, Status.success]

theorem ensureImplicitLink_ok_iff {registry : LinkRegistry} {id : LinkId}
    (h : registry.links[id]? = none) (now : TimePoint) :
    (registry.ensureImplicitLink id id.toString now).2.ok = true ↔
      registry.policy.allowImplicitLinks = true ∧ id.valid = true ∧
        registry.links.size < registry.policy.limits.maxLinks.toNat := by
  unfold ensureImplicitLink registerLink
  simp only [h, validateLinkFacts_implicit]
  cases registry.policy.allowImplicitLinks with
  | false => simp [Status.ok, Status.of]
  | true =>
    cases hid : id.valid with
    | false =>
      have hbad := (validateLinkFacts_implicit id).trans hid
      simp [hbad]
    | true =>
      simp only [Bool.not_true, Bool.false_eq_true, ↓reduceIte, true_and]
      split
      · simp_all [Status.ok, Status.of]
      · simp_all [Status.ok, Status.success]

theorem ensureImplicitLink_fst {registry : LinkRegistry} {id : LinkId}
    (h : registry.links[id]? = none) (now : TimePoint) :
    (registry.ensureImplicitLink id id.toString now).1 =
      if (registry.ensureImplicitLink id id.toString now).2.ok then
        { registry with links := registry.links.insert id (implicitRecord id now) }
      else registry := by
  unfold ensureImplicitLink registerLink
  simp only [h, validateLinkFacts_implicit]
  cases registry.policy.allowImplicitLinks with
  | false => simp [Status.ok, Status.of]
  | true =>
    cases hid : id.valid with
    | false =>
      have hbad := (validateLinkFacts_implicit id).trans hid
      simp [hbad]
    | true =>
      simp only [Bool.not_true, Bool.false_eq_true, ↓reduceIte]
      split
      · simp [Status.ok, Status.of]
      · simp [Status.ok, Status.success, implicitRecord, StrongId.valid, Hash128.isZero]

/-- What the registry consulted for the generation knows about the observation's link. -/
theorem Ensured.lookup {registry ensured : LinkRegistry}
    (h : registry.Ensured observation instant ensured) :
    ∃ state, ensured.links[observation.link]? = some state ∧
      ((registry.links[observation.link]? = some state ∧ ensured = registry) ∨
        (registry.links[observation.link]? = none ∧ state.generations = {} ∧
          registry.Moves observation)) := by
  cases h with
  | known hlink => exact ⟨_, hlink, .inl ⟨hlink, rfl⟩⟩
  | created hlink hok =>
    refine ⟨implicitRecord observation.link instant, ?_, .inr ⟨hlink, rfl, ?_⟩⟩
    · rw [ensureImplicitLink_fst hlink, hok]
      exact ExtTreeMap.getElem?_insert_self
    · unfold Moves
      rw [hlink]
      exact (ensureImplicitLink_ok_iff hlink instant).1 hok

theorem currentGeneration_observed {registry : LinkRegistry} {id : LinkId}
    (h : registry.links[id]? = some state)
    (hb : (registry.observeGeneration id generation).2.behind = false) :
    (registry.observeGeneration id generation).1.currentGeneration id = generation := by
  rw [observeGeneration_some h] at hb ⊢
  obtain ⟨h1, h2⟩ := state.generations.observe_current generation hb
  unfold currentGeneration
  simp only [ExtTreeMap.getElem?_insert_self, h1, h2, ↓reduceIte]

end LinkRegistry

theorem SameTopology.of_generations {σ σ' : Observatory}
    (h : ∀ link : LinkId, (σ'.registry.links[link]?).map LinkRecord.generations =
      (σ.registry.links[link]?).map LinkRecord.generations)
    (hlog : σ'.transitions = σ.transitions) : SameTopology σ σ' where
  links link := by
    have := congrArg Option.isSome (h link)
    simpa using this
  generations link := by
    rw [LinkRegistry.generationState_eq, LinkRegistry.generationState_eq, h]
  transitions := hlog

theorem SameTopology.not_of_generations {σ σ' : Observatory} {link : LinkId}
    {shown : LinkGenerationState}
    (h : (σ'.registry.links[link]?).map LinkRecord.generations = some shown)
    (hne : σ.registry.links[link]? = none ∨
      ∃ state, σ.registry.links[link]? = some state ∧ state.generations ≠ shown) :
    ¬SameTopology σ σ' := by
  intro hsame
  rcases hne with hnone | ⟨state, hstate, hne⟩
  · have hlinks := hsame.links link
    rw [hnone, ← Option.isSome_map (f := LinkRecord.generations), h] at hlinks
    cases hlinks
  · have hgen := hsame.generations link
    rw [LinkRegistry.generationState_eq, LinkRegistry.generationState_eq, h, hstate] at hgen
    exact hne hgen.symm

theorem SameTopology.decided_iff {σ σ' : Observatory} {observation : Observation}
    (hensured : σ.registry.Ensured observation instant registry)
    (hobs : registry.observeGeneration observation.link observation.provenance.generation =
      (observed, generation))
    (hregistry : σ'.registry = observed.noteFenced observation.link)
    (hlog : generation.changed = false → σ'.transitions = σ.transitions) :
    SameTopology σ σ' ↔ ¬σ.registry.Moves observation := by
  obtain ⟨state, hstate, hcases⟩ := hensured.lookup
  have hmap (link : LinkId) : (σ'.registry.links[link]?).map LinkRecord.generations =
      if observation.link = link then
        some (state.generations.observe observation.provenance.generation).1
      else (registry.links[link]?).map LinkRecord.generations := by
    rw [hregistry, LinkRegistry.noteFenced, LinkRegistry.updateEntry_generations,
      ← LinkRegistry.observeGeneration_lookup hstate, hobs]
  have hself := hmap observation.link
  rw [if_pos rfl] at hself
  have hobserved := LinkRegistry.observeGeneration_some hstate observation.provenance.generation
  rw [hobs, Prod.mk.injEq] at hobserved
  rcases hcases with ⟨hknown, rfl⟩ | ⟨hmissing, -, hmoves⟩
  · have hmovesiff : σ.registry.Moves observation ↔
        state.generations.Moves observation.provenance.generation := by
      unfold LinkRegistry.Moves
      rw [hknown]
    rw [hmovesiff]
    cases hc : generation.changed with
    | true =>
      rw [hobserved.2] at hc
      obtain ⟨hne, hmoves⟩ := state.generations.observe_changed _ hc
      exact iff_of_false
        (SameTopology.not_of_generations hself (.inr ⟨state, hknown, hne.symm⟩))
        (not_not.2 hmoves)
    | false =>
      have hsame := hlog hc
      rw [hobserved.2] at hc
      obtain ⟨hkept, hnot⟩ := state.generations.observe_unchanged _ hc
      refine iff_of_true (.of_generations (fun link => ?_) hsame) hnot
      rw [hmap, hkept]
      split
      · rename_i heq
        rw [← heq, hknown]
        rfl
      · rfl
  · exact iff_of_false (SameTopology.not_of_generations hself (.inl hmissing))
      (not_not.2 hmoves)

/-- A refused observation leaves the topology alone, unless it named a link or a generation that
the registry had not seen. -/
theorem Observatory.applyObservation_topology_iff (σ : Observatory) (observation : Observation)
    (instant : TimePoint) :
    ((σ.applyObservation observation instant).2.accepted = false →
      SameTopology σ (σ.applyObservation observation instant).1) ↔ ¬σ.Premature observation := by
  have hstep := σ.applyObservation_step observation instant
  generalize (σ.applyObservation observation instant).1 = σ' at *
  generalize (σ.applyObservation observation instant).2 = outcome at *
  cases hstep with
  | refused context hsource hno _ _ hregistry hlog _ =>
    refine iff_of_true (fun _ => .of_generations (fun link => by rw [hregistry]) hlog) ?_
    rintro ⟨source, hfound, hlive, henabled, -, -⟩
    rcases hno source (hsource.symm.trans hfound) with h | h
    · rw [hlive] at h
      cases h
    · rw [henabled] at h
      cases h
  | unknownLink hsource hlive henabled hlink hok _ hregistry hlog _ _ =>
    rw [LinkRegistry.ensureImplicitLink_fst hlink, hok] at hregistry
    refine iff_of_true (fun _ => .of_generations (fun link => by rw [hregistry]; rfl) hlog) ?_
    rintro ⟨source, -, -, -, hmoves, -⟩
    unfold LinkRegistry.Moves at hmoves
    rw [hlink] at hmoves
    rw [(LinkRegistry.ensureImplicitLink_ok_iff hlink instant).2 hmoves] at hok
    cases hok
  | behind registry hsource hlive henabled hensured hobs hb _ hregistry hlog _ _ =>
    have hnot : ¬σ.registry.Moves observation := by
      obtain ⟨state, hstate, hcases⟩ := hensured.lookup
      have hobserved := LinkRegistry.observeGeneration_some hstate
        observation.provenance.generation
      rw [hobs, Prod.mk.injEq] at hobserved
      rw [hobserved.2] at hb
      have hstay := (state.generations.observe_behind _ hb).2
      rcases hcases with ⟨hknown, -⟩ | ⟨-, hempty, -⟩
      · unfold LinkRegistry.Moves
        rwa [hknown]
      · exact absurd (.inl (by rw [hempty])) hstay
    refine iff_of_true
      (fun _ => (SameTopology.decided_iff hensured hobs hregistry (fun _ => hlog)).2 hnot) ?_
    rintro ⟨source, -, -, -, hmoves, -⟩
    exact hnot hmoves
  | decided registry hsource hlive henabled hensured hobs hb hconfig haccept hregistry hlog =>
    rename_i source observed generation
    have hcurrent : observed.currentGeneration observation.link =
        observation.provenance.generation := by
      obtain ⟨state, hstate, -⟩ := hensured.lookup
      have hbehind : (registry.observeGeneration observation.link
          observation.provenance.generation).2.behind = false := by rwa [hobs]
      have h := LinkRegistry.currentGeneration_observed hstate hbehind
      rwa [hobs] at h
    have hrefuses := σ.store.accept_refuses_iff observation (observed.acceptContext observation source)
      instant rfl rfl (fun _ => hcurrent.symm)
    rw [haccept] at hrefuses
    have hpremature : σ.Premature observation ↔
        σ.registry.Moves observation ∧ outcome.accepted = false := by
      constructor
      · rintro ⟨source', hfound, -, -, hmoves, href⟩
        cases hsource.symm.trans hfound
        exact ⟨hmoves, hrefuses.2 href⟩
      · exact fun h => ⟨source, hsource, hlive, henabled, h.1, hrefuses.1 h.2⟩
    rw [hpremature]
    cases ha : outcome.accepted with
    | true => simp
    | false =>
      rw [ha] at hregistry
      obtain ⟨events, hevents, hnone⟩ := hlog
      have hdecided := SameTopology.decided_iff hensured hobs hregistry (fun hc => by
        have hempty := hnone ha
        rw [hc] at hempty
        rw [hevents, hempty]
        rfl)
      simpa using hdecided

/-- The state a list of records leads to. -/
def Observatory.run (config : RuntimeConfig) (records : List (ParsedRecord × TimePoint)) :
    Observatory :=
  records.foldl (fun σ record => (σ.applyRecord record.1 record.2).1) (.fresh config)

/-- A source, a link and a reading of revision 5 in the link's first generation. -/
def generationRun : List (ParsedRecord × TimePoint) :=
  [(.source { name := ascii "s", authority := .primary, provenance := .synthetic }, ⟨0⟩),
    (.link { name := ascii "l", generation := ascii "g" }, ⟨0⟩),
    (.observation
      { link := ascii "l", source := ascii "s", incarnation := ascii "i", epoch := ascii "e"
        generation := ascii "g", revision := 5, payload := .adminState .enabled }, ⟨0⟩)]

/-- A replayed revision that names a new generation is refused and still retires the old one. -/
theorem Observatory.applyObservation_topology_fails :
    ¬ ∀ (config : RuntimeConfig) (records : List (ParsedRecord × TimePoint))
      (declaration : ObservationDecl) (instant : TimePoint),
      ((run config records).applyObservation (makeObservation declaration) instant).2.accepted =
        false →
      SameTopology (run config records)
        ((run config records).applyObservation (makeObservation declaration) instant).1 := by
  intro h
  have hsame := h { policy := makeDefaultPolicy } generationRun
    { link := ascii "l", source := ascii "s", incarnation := ascii "i", epoch := ascii "e"
      generation := ascii "h", revision := 5, payload := .adminState .enabled } ⟨1⟩
    (by decide +kernel)
  exact absurd (hsame.generations (deriveLinkId (ascii "l"))) (by decide +kernel)

end LinkObservatory
