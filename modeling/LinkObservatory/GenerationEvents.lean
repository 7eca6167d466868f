import LinkObservatory.Redeclaration

namespace LinkObservatory
set_option autoImplicit true

open Std

/-- The generation changes of a link among the events of a step: where each comes from and where it
leads. -/
def generationChanges (link : LinkId) (events : List TransitionEvent) : List (Bytes × Bytes) :=
  (events.filter fun event => event.link == link && event.kind == .generationChanged).map
    fun event => (event.fromText, event.toText)

theorem generationChanges_append (link : LinkId) (first second : List TransitionEvent) :
    generationChanges link (first ++ second) =
      generationChanges link first ++ generationChanges link second := by
  unfold generationChanges
  rw [List.filter_append, List.map_append]

theorem generationChanges_nil {link : LinkId} {events : List TransitionEvent}
    (h : ∀ event ∈ events, event.link ≠ link ∨ event.kind ≠ .generationChanged) :
    generationChanges link events = [] := by
  unfold generationChanges
  rw [List.map_eq_nil_iff, List.filter_eq_nil_iff]
  intro event hmem hboth
  obtain ⟨hlink, hkind⟩ := Bool.and_eq_true_iff.1 hboth
  rcases h event hmem with hother | hother
  · exact hother (eq_of_beq hlink)
  · exact hother (eq_of_beq hkind)

/-- The changes say how the generation of a link went: a valid one that another valid one replaces is
told once, and one that stays is not told as left. -/
structure Told (before after : GenerationId) (changes : List (Bytes × Bytes)) : Prop where
  replaced : before.valid = true → after.valid = true → before ≠ after →
    changes = [(before.toString, after.toString)]
  kept : before = after → ∀ change ∈ changes, ∀ generation : GenerationId,
    generation.valid = true → change.1 ≠ generation.toString

theorem told_nil_iff (before after : GenerationId) :
    Told before after [] ↔ ¬(before.valid = true ∧ after.valid = true ∧ before ≠ after) := by
  constructor
  · rintro h ⟨hbefore, hafter, hne⟩
    cases h.replaced hbefore hafter hne
  · intro h
    refine ⟨fun hbefore hafter hne => absurd ⟨hbefore, hafter, hne⟩ h, ?_⟩
    intro _ change hmem
    cases hmem

theorem told_unmoved (generation : GenerationId) : Told generation generation [] := by
  rw [told_nil_iff]
  rintro ⟨-, -, hne⟩
  exact hne rfl

/-- The generation in force, if there is one. -/
def LinkGenerationState.current (generations : LinkGenerationState) : GenerationId :=
  if generations.hasGeneration then generations.currentGeneration else {}

/-- What is said about the observation of a generation. -/
def LinkGenerationState.toldBy (generations : LinkGenerationState) (generation : GenerationId) :
    List (Bytes × Bytes) :=
  if (generations.observe generation).2.changed then
    [((generations.observe generation).2.previous.toString, generation.toString)] else []

theorem told_observe (generations : LinkGenerationState) (generation : GenerationId) :
    Told generations.current (generations.observe generation).1.current
      (generations.toldBy generation) := by
  unfold LinkGenerationState.toldBy LinkGenerationState.observe
  by_cases hhas : generations.hasGeneration = true
  · simp only [hhas, Bool.not_true, Bool.false_eq_true, ↓reduceIte]
    by_cases hcurrent : generations.currentGeneration = generation
    · simp only [hcurrent, ↓reduceIte, Bool.false_eq_true]
      exact told_unmoved _
    by_cases hretired : generation ∈ generations.retiredGenerations
    · simp only [hcurrent, hretired, ↓reduceIte, Bool.false_eq_true]
      exact told_unmoved _
    · simp only [hcurrent, hretired, ↓reduceIte, LinkGenerationState.current, hhas]
      exact ⟨fun _ _ _ => rfl, fun heq => absurd heq hcurrent⟩
  · have hbefore : generations.current = {} := by
      unfold LinkGenerationState.current
      rw [if_neg hhas]
    rw [Bool.not_eq_true] at hhas
    simp only [hhas, Bool.not_false, ↓reduceIte, hbefore]
    constructor
    · intro hvalid
      cases hvalid
    · intro _ change hmem other hvalid hfrom
      rw [List.mem_singleton.1 hmem] at hfrom
      rw [← StrongId.toString_injective hfrom] at hvalid
      cases hvalid

namespace LinkRegistry

theorem currentGeneration_current (registry : LinkRegistry) (link : LinkId) :
    registry.currentGeneration link = (registry.generationState link).current :=
  registry.currentGeneration_eq link

/-- A declaration that moves a valid generation of its link to another one on the first look, so
that the second one sees nothing new. -/
def MovesUntold (registry : LinkRegistry) (facts : LinkFacts) : Prop :=
  (validateLinkFacts facts).ok = true ∧
    ∃ existing, registry.links[facts.id]? = some existing ∧ existing.entry.retired = false ∧
      Renames existing facts ∧ existing.generations.hasGeneration = true ∧
      existing.generations.currentGeneration.valid = true ∧
      existing.generations.Moves facts.generation

/-- The registry after a declaration is applied, and what is said about the generation. -/
def declared (registry : LinkRegistry) (facts : LinkFacts) (now : TimePoint) :
    LinkRegistry × List (Bytes × Bytes) :=
  let registered := registry.registerLink facts now
  if !registered.2.ok then (registered.1, [])
  else
    let observed := registered.1.observeGeneration facts.id facts.generation
    (observed.1, if observed.2.changed && (registry.findLink facts.id).isSome then
      [(observed.2.previous.toString, facts.generation.toString)] else [])

theorem observe_again (generations : LinkGenerationState) (generation : GenerationId)
    (h : (generations.observe generation).2.behind = false) :
    ((generations.observe generation).1.observe generation).1 =
        (generations.observe generation).1 ∧
      ((generations.observe generation).1.observe generation).2.changed = false := by
  obtain ⟨hhas, hcurrent⟩ := generations.observe_current generation h
  generalize (generations.observe generation).1 = moved at *
  unfold LinkGenerationState.observe
  simp only [hhas, hcurrent, Bool.not_true, Bool.false_eq_true, ↓reduceIte, and_self]

theorem declared_refused {registry : LinkRegistry} {facts : LinkFacts}
    (h : registry.registerLink facts now = (registry, status)) (hok : status.ok = false) :
    registry.declared facts now = (registry, []) := by
  unfold declared
  simp only [h, hok, Bool.not_false, ↓reduceIte]

theorem declared_registered {registry registered : LinkRegistry} {facts : LinkFacts}
    (h : registry.registerLink facts now = (registered, .success))
    (hstate : registered.links[facts.id]? = some state) :
    (registry.declared facts now).1.generationState facts.id =
        (state.generations.observe facts.generation).1 ∧
      (registry.declared facts now).2 =
        if (registry.links[facts.id]?).isSome then state.generations.toldBy facts.generation
        else [] := by
  unfold declared LinkGenerationState.toldBy findLink
  simp only [h, observeGeneration_some hstate, Option.isSome_map]
  constructor
  · rw [generationState_eq]
    simp [Status.ok, Status.success]
  · cases (registry.links[facts.id]?).isSome with
    | true => simp [Status.ok, Status.success]
    | false => simp [Status.ok, Status.success]

theorem replaces_iff_moves {generations : LinkGenerationState} {generation : GenerationId}
    (hvalid : generation.valid = true) (h : (generations.observe generation).2.behind = false) :
    (generations.current.valid = true ∧
        (generations.observe generation).1.current.valid = true ∧
        generations.current ≠ (generations.observe generation).1.current) ↔
      generations.hasGeneration = true ∧ generations.currentGeneration.valid = true ∧
        generations.Moves generation := by
  obtain ⟨hhas', hcurrent'⟩ := generations.observe_current generation h
  have hafter : (generations.observe generation).1.current = generation := by
    unfold LinkGenerationState.current
    rw [if_pos hhas', hcurrent']
  rw [hafter]
  unfold LinkGenerationState.current LinkGenerationState.Moves
  by_cases hhas : generations.hasGeneration = true
  · simp only [hhas, ↓reduceIte, hvalid, true_and, reduceCtorEq, false_or]
    apply and_congr_right
    intro _
    constructor
    · intro hne
      refine ⟨hne, fun hretired => ?_⟩
      rw [(observe_behind_iff hretired).2 ⟨hhas, hne⟩] at h
      cases h
    · rintro ⟨hne, -⟩
      exact hne
  · simp only [hhas, Bool.false_eq_true, ↓reduceIte, false_and, iff_false]
    rintro ⟨hnone, -⟩
    cases hnone

theorem declared_told_refused {registry : LinkRegistry} {facts : LinkFacts}
    (h : registry.registerLink facts now = (registry, status)) (hok : status.ok = false)
    (hnot : ¬registry.MovesUntold facts) :
    Told (registry.generationState facts.id).current
      ((registry.declared facts now).1.generationState facts.id).current
      (registry.declared facts now).2 ↔ ¬registry.MovesUntold facts := by
  rw [declared_refused h hok]
  simp only [hnot, not_false_eq_true, iff_true]
  exact told_unmoved _

theorem declared_told_new {registry : LinkRegistry} {facts : LinkFacts}
    (hvalid : (validateLinkFacts facts).ok = true) (hfound : registry.links[facts.id]? = none)
    (now : TimePoint) :
    Told (registry.generationState facts.id).current
      ((registry.declared facts now).1.generationState facts.id).current
      (registry.declared facts now).2 ↔ ¬registry.MovesUntold facts := by
  have hnot : ¬registry.MovesUntold facts := by
    rintro ⟨-, existing, hexisting, -⟩
    rw [hfound] at hexisting
    cases hexisting
  by_cases hfull : registry.links.size ≥ registry.policy.limits.maxLinks.toNat
  · have hrefused : registry.registerLink facts now =
        (registry, .of .capacityExceeded "link registry is full") := by
      unfold registerLink
      simp only [hvalid, Bool.not_true, Bool.false_eq_true, ↓reduceIte, hfound, hfull]
    exact declared_told_refused hrefused rfl hnot
  · obtain ⟨state, hregistered⟩ : ∃ state, registry.registerLink facts now =
        ({ registry with links := registry.links.insert facts.id state }, .success) := by
      unfold registerLink
      simp only [hvalid, Bool.not_true, Bool.false_eq_true, ↓reduceIte, hfound, hfull]
      exact ⟨_, rfl⟩
    have hbefore : (registry.generationState facts.id).current.valid = false := by
      rw [generationState_eq, hfound]
      rfl
    rw [(declared_registered hregistered ExtTreeMap.getElem?_insert_self).2, hfound,
      Option.isSome_none, if_neg Bool.false_ne_true, told_nil_iff, hbefore]
    simp only [Bool.false_eq_true, false_and, not_false_eq_true, hnot]

theorem declared_told_existing {registry : LinkRegistry} {facts : LinkFacts}
    (hvalid : (validateLinkFacts facts).ok = true)
    (hfound : registry.links[facts.id]? = some existing) (now : TimePoint) :
    Told (registry.generationState facts.id).current
      ((registry.declared facts now).1.generationState facts.id).current
      (registry.declared facts now).2 ↔ ¬registry.MovesUntold facts := by
  have huntold : registry.MovesUntold facts ↔ existing.entry.retired = false ∧
      Renames existing facts ∧ existing.generations.hasGeneration = true ∧
      existing.generations.currentGeneration.valid = true ∧
      existing.generations.Moves facts.generation := by
    constructor
    · rintro ⟨-, other, hother, hrest⟩
      cases hfound.symm.trans hother
      exact hrest
    · intro hrest
      exact ⟨hvalid, existing, hfound, hrest⟩
  have hsome : (registry.links[facts.id]?).isSome = true := by
    rw [hfound]
    rfl
  have hcases := registerLink_existing hvalid hfound now
  rw [reregisterLink_cases hfound] at hcases
  by_cases hretired : existing.entry.retired = true
  · rw [if_pos hretired] at hcases
    apply declared_told_refused hcases rfl
    rw [huntold, hretired]
    rintro ⟨hlive, -⟩
    cases hlive
  rw [if_neg hretired] at hcases
  rw [Bool.not_eq_true] at hretired
  by_cases hrenames : Renames existing facts
  · rw [if_pos hrenames] at hcases
    by_cases hbehind : (existing.generations.observe facts.generation).2.behind = true
    · rw [if_pos hbehind] at hcases
      apply declared_told_refused hcases rfl
      rw [huntold]
      rintro ⟨-, -, -, -, hmoves⟩
      exact (existing.generations.observe_behind facts.generation hbehind).2 hmoves
    · -- the first look moves the generation, and the second one finds it in force
      rw [if_neg hbehind] at hcases
      rw [Bool.not_eq_true] at hbehind
      obtain ⟨hafter, hchanges⟩ := declared_registered hcases ExtTreeMap.getElem?_insert_self
      obtain ⟨hsame, hunchanged⟩ := observe_again existing.generations facts.generation hbehind
      have hnothing : (existing.generations.observe facts.generation).1.toldBy facts.generation =
          [] := by
        unfold LinkGenerationState.toldBy
        rw [hunchanged]
        rfl
      rw [hafter, hchanges, if_pos hsome, hnothing, hsame, generationState_some hfound, told_nil_iff,
        replaces_iff_moves hrenames.1 hbehind, huntold]
      simp only [hretired, hrenames, true_and]
  · rw [if_neg hrenames] at hcases
    obtain ⟨hafter, hchanges⟩ := declared_registered hcases ExtTreeMap.getElem?_insert_self
    rw [hafter, hchanges, if_pos hsome, generationState_some hfound]
    have hnot : ¬registry.MovesUntold facts := by
      rw [huntold]
      rintro ⟨-, h, -⟩
      exact hrenames h
    simp only [hnot, not_false_eq_true, iff_true]
    exact told_observe _ _

theorem declared_told_iff (registry : LinkRegistry) (facts : LinkFacts) (now : TimePoint) :
    Told (registry.currentGeneration facts.id)
        ((registry.declared facts now).1.currentGeneration facts.id)
        (registry.declared facts now).2 ↔ ¬registry.MovesUntold facts := by
  rw [currentGeneration_current, currentGeneration_current]
  by_cases hvalid : (validateLinkFacts facts).ok = true
  · cases hfound : registry.links[facts.id]? with
    | none => exact declared_told_new hvalid hfound now
    | some existing => exact declared_told_existing hvalid hfound now
  · have hrefused : registry.registerLink facts now = (registry, validateLinkFacts facts) := by
      unfold registerLink
      simp only [hvalid, Bool.not_false, ↓reduceIte]
    apply declared_told_refused hrefused (Bool.not_eq_true _ ▸ hvalid)
    rintro ⟨hok, -⟩
    exact hvalid hok

end LinkRegistry

namespace LinkRegistry

theorem Ensured.generationState {registry ensured : LinkRegistry}
    (h : registry.Ensured observation instant ensured) (link : LinkId) :
    ensured.generationState link = registry.generationState link := by
  cases h with
  | known _ => rfl
  | created hlink hok =>
    rw [ensureImplicitLink_fst hlink, hok, generationState_eq, generationState_eq, if_pos rfl,
      OrderedMap.lookup_insert]
    split
    · rename_i heq
      rw [← heq, hlink]
      rfl
    · rfl

/-- The generations after an observation went through the registry. -/
theorem Ensured.observed {registry ensured : LinkRegistry}
    (h : registry.Ensured observation instant ensured) (generation : GenerationId)
    (update : LinkEntry → LinkEntry) (link : LinkId) :
    ((ensured.observeGeneration observation.link generation).1.updateEntry observation.link
        update).generationState link =
      if link = observation.link then
        ((registry.generationState observation.link).observe generation).1
      else registry.generationState link := by
  obtain ⟨state, hstate, -⟩ := h.lookup
  rw [generationState_eq, updateEntry_generations, observeGeneration_lookup hstate]
  by_cases hlink : link = observation.link
  · rw [if_pos hlink.symm, if_pos hlink, ← h.generationState, generationState_some hstate]
    rfl
  · rw [if_neg (fun heq => hlink heq.symm), if_neg hlink, ← generationState_eq, h.generationState]

end LinkRegistry

namespace Observatory

theorem applyLink_declared (σ : Observatory) (declaration : LinkDecl) (instant : TimePoint) :
    (σ.applyLink declaration instant).1.registry =
        (σ.registry.declared (makeLinkFacts declaration) instant).1 ∧
      generationChanges (makeLinkFacts declaration).id (σ.linkEvents declaration instant) =
        (σ.registry.declared (makeLinkFacts declaration) instant).2 := by
  unfold applyLink linkEvents LinkRegistry.declared
  simp only
  split
  · exact ⟨rfl, rfl⟩
  · constructor
    · split <;> split <;> rfl
    · rw [generationChanges_append]
      split <;> split <;> simp [generationChanges]

theorem knownEvents_kind {σ : Observatory}
    (h : event ∈ σ.knownEvents observation source instant) : event.kind ≠ .generationChanged := by
  unfold knownEvents at h
  simp only at h
  split at h
  · cases h
  rcases List.mem_append.1 h with houtcome | hrefresh
  · generalize (σ.acceptInto observation (some source) true instant).2 = outcome at houtcome
    unfold outcomeEvents at houtcome
    cases hdiscontinuity : outcome.discontinuity <;> cases hgap : outcome.revisionGap <;>
      simp [hdiscontinuity, hgap] at houtcome <;> grind
  · unfold refreshEvents at hrefresh
    simp only [List.mem_append, Option.mem_toList] at hrefresh
    rcases hrefresh with (hstate | hoper) | hadmin
    · rw [stateChange_kind hstate]
      decide
    · rw [(trackedChange_some hoper).1]
      decide
    · rw [(trackedChange_some hadmin).1]
      decide

theorem generationEvents_changes {σ : Observatory} {observation : Observation}
    (h : σ.registry.links[observation.link]? = some state)
    (hbehind : (state.generations.observe observation.provenance.generation).2.behind = false)
    (source : SourceRecord) (instant : TimePoint) (link : LinkId) :
    generationChanges link (σ.generationEvents observation source instant) =
      if link = observation.link then
        state.generations.toldBy observation.provenance.generation else [] := by
  unfold generationEvents
  simp only [LinkRegistry.observeGeneration_some h, hbehind, Bool.false_eq_true, ↓reduceIte]
  rw [generationChanges_append]
  have hknown : generationChanges link ((σ.observed observation instant).knownEvents observation
      source instant) = [] := by
    apply generationChanges_nil
    intro event hmem
    exact .inr (knownEvents_kind hmem)
  rw [hknown, List.append_nil]
  unfold LinkGenerationState.toldBy
  by_cases hlink : link = observation.link
  · split <;> simp [generationChanges, generationEvent, hlink]
  · have hother : observation.link ≠ link := fun heq => hlink heq.symm
    rw [if_neg hlink]
    split <;> simp [generationChanges, generationEvent, hother]

theorem observationEvents_live {σ : Observatory} {registry : LinkRegistry}
    {observation : Observation}
    (hsource : σ.registry.sources[observation.provenance.source]? = some source)
    (hlive : source.retired = false)
    (henabled : σ.config.families.isEnabled observation.key.family = true)
    (hensured : σ.registry.Ensured observation instant registry) :
    ∃ τ : Observatory, τ.registry = registry ∧
      σ.observationEvents observation instant =
        τ.generationEvents observation source instant := by
  unfold observationEvents LinkRegistry.findSource LinkRegistry.findLink
  simp only [hsource, hlive, henabled, Bool.not_true, Bool.false_eq_true, ↓reduceIte,
    Option.isNone_map]
  cases hensured with
  | known hlink =>
    simp only [hlink, Option.isNone_some, Bool.false_eq_true, ↓reduceIte]
    exact ⟨{ σ with stats.recordsSubmitted := σ.stats.recordsSubmitted + 1 }, rfl, rfl⟩
  | created hlink hok =>
    simp only [hlink, Option.isNone_none, ↓reduceIte, hok, Bool.not_true, Bool.false_eq_true]
    exact ⟨_, rfl, rfl⟩

theorem applyObservation_told (σ : Observatory) (observation : Observation) (instant : TimePoint)
    (link : LinkId) :
    Told (σ.registry.currentGeneration link)
      ((σ.applyObservation observation instant).1.registry.currentGeneration link)
      (generationChanges link (σ.observationEvents observation instant)) := by
  have hstep := σ.applyObservation_step observation instant
  generalize (σ.applyObservation observation instant).1 = σ' at *
  generalize (σ.applyObservation observation instant).2 = outcome at *
  rw [LinkRegistry.currentGeneration_current, LinkRegistry.currentGeneration_current]
  cases hstep with
  | refused context hsource hno _ _ hregistry =>
    have hsilent : σ.observationEvents observation instant = [] := by
      unfold observationEvents LinkRegistry.findSource
      simp only [hsource]
      cases hcontext : context.source with
      | none => rfl
      | some source =>
        rcases hno source hcontext with hretired | hdisabled
        · simp only [hretired, ↓reduceIte]
        · simp only [hdisabled, Bool.not_false, ↓reduceIte, ite_self]
    rw [hregistry, hsilent]
    exact told_unmoved _
  | unknownLink hsource hlive henabled hlink hok _ hregistry =>
    have hsilent : σ.observationEvents observation instant = [] := by
      unfold observationEvents LinkRegistry.findSource LinkRegistry.findLink
      simp only [hsource, hlive, henabled, hlink, hok, Option.map_none, Option.isNone_none,
        Bool.not_true, Bool.not_false, Bool.false_eq_true, ↓reduceIte]
    rw [hregistry, hsilent, LinkRegistry.ensureImplicitLink_fst hlink, hok]
    exact told_unmoved _
  | behind registry hsource hlive henabled hensured hobs hbehind _ hregistry =>
    obtain ⟨τ, hτ, hevents⟩ := observationEvents_live hsource hlive henabled hensured
    have hsilent (source : SourceRecord) : τ.generationEvents observation source instant = [] := by
      unfold generationEvents
      rw [hτ, hobs]
      simp only [hbehind, ↓reduceIte]
    obtain ⟨state, hstate, -⟩ := hensured.lookup
    have hgenerations := hensured.observed observation.provenance.generation
      (fun entry => { entry with fencedObservations := entry.fencedObservations + 1 }) link
    have hobserved := LinkRegistry.observeGeneration_some hstate observation.provenance.generation
    rw [hobs] at hgenerations hobserved
    have hkept := (state.generations.observe_behind observation.provenance.generation
      (by rw [← congrArg Prod.snd hobserved]; exact hbehind)).1
    rw [← LinkRegistry.generationState_some hstate, hensured.generationState] at hkept
    have hsame : σ'.registry.generationState link = σ.registry.generationState link := by
      rw [hregistry]
      refine hgenerations.trans ?_
      split
      · rename_i heq
        rw [hkept, heq]
      · rfl
    rw [hevents, hsilent, hsame]
    exact told_unmoved _
  | decided registry hsource hlive henabled hensured hobs hbehind _ _ hregistry =>
    obtain ⟨τ, hτ, hevents⟩ := observationEvents_live hsource hlive henabled hensured
    obtain ⟨state, hstate, -⟩ := hensured.lookup
    have hobserved := LinkRegistry.observeGeneration_some hstate observation.provenance.generation
    have hafter (update : LinkEntry → LinkEntry) :=
      hensured.observed observation.provenance.generation update link
    rw [hobs] at hobserved hafter
    have hmoved : σ'.registry.generationState link = if link = observation.link then
        ((σ.registry.generationState observation.link).observe
          observation.provenance.generation).1
        else σ.registry.generationState link := by
      rw [hregistry]
      split
      · exact hafter _
      · exact hafter _
    rw [← hτ] at hstate
    rw [hevents, generationEvents_changes hstate
      (by rw [← congrArg Prod.snd hobserved]; exact hbehind), hmoved,
      ← LinkRegistry.generationState_some hstate, hτ, hensured.generationState]
    split
    · rename_i heq
      rw [heq]
      exact told_observe _ _
    · exact told_unmoved _

/-- The state after a step of a run. -/
def next (σ : Observatory) (step : ParsedRecord × TimePoint) : Observatory :=
  (σ.applyRecord step.1 step.2).1

/-- The events that a step records tell what it does to the generation of every link. -/
def TellsGenerations (σ : Observatory) (step : ParsedRecord × TimePoint) : Prop :=
  (σ.next step).transitions = σ.transitions.recordAll (σ.eventsOf step.1 step.2) ∧
    ∀ link, Told (σ.registry.currentGeneration link) ((σ.next step).registry.currentGeneration link)
      (generationChanges link (σ.eventsOf step.1 step.2))

/-- The step is a declaration whose own registration already moves the generation. -/
def MovesUntold (σ : Observatory) (step : ParsedRecord × TimePoint) : Prop :=
  ∃ declaration, step.1 = .link declaration ∧
    σ.registry.MovesUntold (makeLinkFacts declaration)

theorem tellsGenerations_iff (σ : Observatory) (step : ParsedRecord × TimePoint) :
    σ.TellsGenerations step ↔ ¬σ.MovesUntold step := by
  obtain ⟨record, instant⟩ := step
  unfold TellsGenerations next
  rw [and_iff_right (σ.applyRecord_transitions record instant)]
  have hnever (hother : ∀ declaration, record ≠ .link declaration)
      (htold : ∀ link, Told (σ.registry.currentGeneration link)
        ((σ.applyRecord record instant).1.registry.currentGeneration link)
        (generationChanges link (σ.eventsOf record instant))) :
      (∀ link, Told (σ.registry.currentGeneration link)
        ((σ.applyRecord record instant).1.registry.currentGeneration link)
        (generationChanges link (σ.eventsOf record instant))) ↔
      ¬σ.MovesUntold (record, instant) := by
    rw [iff_true_left htold]
    rintro ⟨declaration, hrecord, -⟩
    exact hother declaration hrecord
  cases record with
  | none =>
    apply hnever
    · intro declaration hrecord
      cases hrecord
    · intro link
      exact told_unmoved _
  | source declaration =>
    apply hnever
    · intro declaration hrecord
      cases hrecord
    intro link
    unfold LinkRegistry.currentGeneration
    simp only [applyRecord, applySource_links]
    exact told_unmoved _
  | observation declaration =>
    apply hnever
    · intro declaration hrecord
      cases hrecord
    intro link
    exact σ.applyObservation_told _ instant link
  | link declaration =>
    have huntold : σ.MovesUntold (.link declaration, instant) ↔
        σ.registry.MovesUntold (makeLinkFacts declaration) := by
      constructor
      · rintro ⟨other, hother, h⟩
        cases hother
        exact h
      · intro h
        exact ⟨declaration, rfl, h⟩
    obtain ⟨hregistry, hchanges⟩ := σ.applyLink_declared declaration instant
    rw [huntold, ← σ.registry.declared_told_iff (makeLinkFacts declaration) instant, ← hregistry,
      ← hchanges]
    constructor
    · intro h
      exact h _
    · intro h link
      by_cases hlink : link = (makeLinkFacts declaration).id
      · rw [hlink]
        exact h
      · -- a declaration is about its own link only
        have hsilent : generationChanges link (σ.eventsOf (.link declaration) instant) = [] := by
          apply generationChanges_nil
          intro event hmem
          apply Or.inl
          rw [(mem_linkEvents hmem).1]
          exact fun heq => hlink heq.symm
        have hsame : (σ.applyLink declaration instant).1.registry.generationState link =
            σ.registry.generationState link :=
          (σ.applyLink_observes declaration instant link).resolve_right fun h => hlink h.1
        rw [hsilent]
        simp only [applyRecord, LinkRegistry.currentGeneration_current, hsame]
        exact told_unmoved _

/-- From every state, the records of a run tell the generation changes they bring about exactly if
none of them is a declaration whose registration moves the generation by itself. -/
theorem generations_told_iff (σ : Observatory) (steps : List (ParsedRecord × TimePoint)) :
    Labelled.Throughout next TellsGenerations σ steps ↔
      Labelled.Throughout next (fun σ step => ¬σ.MovesUntold step) σ steps :=
  Labelled.throughout_congr tellsGenerations_iff σ steps

/-- A link is declared under one generation and then under another one. -/
def movedRecords : List (ParsedRecord × TimePoint) :=
  [(.link { name := ascii "l", generation := ascii "g" }, ⟨0⟩),
    (.link { name := ascii "l", generation := ascii "h" }, ⟨1⟩)]

/-- The second declaration replaces the generation, and no event says so. -/
theorem generations_told_fails :
    ¬ ∀ (config : RuntimeConfig) (log : List Decision) (σ : Observatory), Reached config log σ →
      ∀ steps, Labelled.Throughout next TellsGenerations σ steps := by
  intro h
  let σ := fresh { policy := makeDefaultPolicy }
  let step : ParsedRecord × TimePoint := (.link { name := ascii "l", generation := ascii "h" }, ⟨1⟩)
  let declared := σ.next (.link { name := ascii "l", generation := ascii "g" }, ⟨0⟩)
  have htold := ((h _ _ σ .start movedRecords).2.1.2 (deriveLinkId (ascii "l"))).replaced
  have hbefore : (declared.registry.currentGeneration (deriveLinkId (ascii "l"))).valid = true := by
    decide +kernel
  have hafter : ((declared.next step).registry.currentGeneration
      (deriveLinkId (ascii "l"))).valid = true := by
    decide +kernel
  have hmoved : declared.registry.currentGeneration (deriveLinkId (ascii "l")) ≠
      (declared.next step).registry.currentGeneration (deriveLinkId (ascii "l")) := by
    decide +kernel
  have hsilent : generationChanges (deriveLinkId (ascii "l")) (declared.eventsOf step.1 step.2) =
      [] := by
    decide +kernel
  have hone := htold hbefore hafter hmoved
  cases hsilent.symm.trans hone

end Observatory

end LinkObservatory
