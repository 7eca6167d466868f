import LinkObservatory.Observatory
import LinkObservatory.Admission

namespace LinkObservatory
set_option autoImplicit true

open Std

/-- The log with a list of events recorded in order. -/
def TransitionLog.recordAll (log : TransitionLog) (events : List TransitionEvent) : TransitionLog :=
  events.foldl TransitionLog.record log

theorem TransitionLog.recordAll_append (log : TransitionLog) (first second : List TransitionEvent) :
    log.recordAll (first ++ second) = (log.recordAll first).recordAll second :=
  List.foldl_append

/-- One state follows another by recording events only; registry and store stay. -/
structure RecordsOnly (σ σ' : Observatory) : Prop where
  config : σ'.config = σ.config
  registry : σ'.registry = σ.registry
  store : σ'.store = σ.store
  log : ∃ events, σ'.transitions = σ.transitions.recordAll events

theorem RecordsOnly.refl (σ : Observatory) : RecordsOnly σ σ := ⟨rfl, rfl, rfl, [], rfl⟩

theorem RecordsOnly.trans (h : RecordsOnly σ σ') (h' : RecordsOnly σ' σ'') : RecordsOnly σ σ'' := by
  obtain ⟨events, hlog⟩ := h.log
  obtain ⟨events', hlog'⟩ := h'.log
  refine ⟨h'.config.trans h.config, h'.registry.trans h.registry, h'.store.trans h.store,
    events ++ events', ?_⟩
  rw [TransitionLog.recordAll_append, ← hlog, hlog']

namespace Observatory

theorem recordTransition_recordsOnly (σ : Observatory) (event : TransitionEvent) :
    RecordsOnly σ (σ.recordTransition event) := ⟨rfl, rfl, rfl, [event], rfl⟩

theorem trackState_recordsOnly (σ : Observatory) (link : LinkId) (instant : TimePoint)
    (current : Classification) : RecordsOnly σ (σ.trackState link instant current) := by
  unfold trackState
  simp only
  split
  · exact ⟨rfl, rfl, rfl, [_], rfl⟩
  · split
    · exact ⟨rfl, rfl, rfl, [_], rfl⟩
    · exact .refl σ

theorem trackOper_recordsOnly (σ : Observatory) (link : LinkId) (instant : TimePoint)
    (current : Classification) : RecordsOnly σ (σ.trackOper link instant current) := by
  unfold trackOper
  simp only
  split
  · exact ⟨rfl, rfl, rfl, [_], rfl⟩
  · exact ⟨rfl, rfl, rfl, [], rfl⟩

theorem trackAdmin_recordsOnly (σ : Observatory) (link : LinkId) (instant : TimePoint)
    (current : Classification) : RecordsOnly σ (σ.trackAdmin link instant current) := by
  unfold trackAdmin
  simp only
  split
  · exact ⟨rfl, rfl, rfl, [_], rfl⟩
  · exact ⟨rfl, rfl, rfl, [], rfl⟩

theorem refreshClassification_recordsOnly (σ : Observatory) (link : LinkId)
    (instant : TimePoint) : RecordsOnly σ (σ.refreshClassification link instant) := by
  unfold refreshClassification
  generalize LinkObservatory.classify (σ.classificationInput link instant) = current
  have hstats : RecordsOnly σ { σ with stats.classifications := σ.stats.classifications + 1 } :=
    ⟨rfl, rfl, rfl, [], rfl⟩
  exact ((hstats.trans (trackState_recordsOnly _ _ _ _)).trans
    (trackOper_recordsOnly _ _ _ _)).trans (trackAdmin_recordsOnly _ _ _ _)

theorem recordOutcome_recordsOnly (σ : Observatory) (observation : Observation)
    (outcome : AcceptOutcome) (instant : TimePoint) :
    RecordsOnly σ (σ.recordOutcome observation outcome instant) := by
  unfold recordOutcome
  cases outcome.discontinuity <;> cases outcome.revisionGap
  all_goals
    first
      | exact .refl σ
      | exact recordTransition_recordsOnly _ _
      | exact (recordTransition_recordsOnly _ _).trans (recordTransition_recordsOnly _ _)

end Observatory

/-- The registry that the generation of an observation is looked up in: the link is known, or it is
created implicitly. -/
inductive LinkRegistry.Ensured (registry : LinkRegistry) (observation : Observation)
    (instant : TimePoint) : LinkRegistry → Prop
  | known : registry.links[observation.link]? = some state →
      registry.Ensured observation instant registry
  | created : registry.links[observation.link]? = none →
      (registry.ensureImplicitLink observation.link observation.link.toString instant).2.ok =
        true →
      registry.Ensured observation instant
        (registry.ensureImplicitLink observation.link observation.link.toString instant).1

/-- The event of a generation that took over. -/
def generationEvent (observation : Observation) (generation : GenerationObservation)
    (instant : TimePoint) : TransitionEvent :=
  { link := observation.link
    kind := .generationChanged
    at_ := instant
    generation := observation.provenance.generation
    source := observation.provenance.source
    fromText := generation.previous.toString
    toText := observation.provenance.generation.toString }

/-- The context in which the store decides about an observation of a live source. -/
def LinkRegistry.acceptContext (registry : LinkRegistry) (observation : Observation)
    (source : SourceRecord) : AcceptContext :=
  { source := some source, currentGeneration := registry.currentGeneration observation.link }

/-- Everything that handling one observation can do. -/
inductive ApplyStep (σ : Observatory) (observation : Observation) (instant : TimePoint)
    (σ' : Observatory) (outcome : AcceptOutcome) : Prop
  | refused (context : AcceptContext) :
      σ.registry.sources[observation.provenance.source]? = context.source →
      (∀ source, context.source = some source → source.retired = true ∨
        σ.config.families.isEnabled observation.key.family = false) →
      context.familyEnabled = σ.config.families.isEnabled observation.key.family →
      σ'.config = σ.config → σ'.registry = σ.registry → σ'.transitions = σ.transitions →
      σ.store.accept observation context instant = (σ'.store, outcome) →
      ApplyStep σ observation instant σ' outcome
  | unknownLink :
      σ.registry.sources[observation.provenance.source]? = some source →
      source.retired = false → σ.config.families.isEnabled observation.key.family = true →
      σ.registry.links[observation.link]? = none →
      (σ.registry.ensureImplicitLink observation.link observation.link.toString instant).2.ok =
        false →
      σ'.config = σ.config →
      σ'.registry = (σ.registry.ensureImplicitLink observation.link observation.link.toString
        instant).1 →
      σ'.transitions = σ.transitions → σ'.store = σ.store →
      outcome = { fence := .unknownLink } → ApplyStep σ observation instant σ' outcome
  | behind (registry : LinkRegistry) :
      σ.registry.sources[observation.provenance.source]? = some source →
      source.retired = false → σ.config.families.isEnabled observation.key.family = true →
      σ.registry.Ensured observation instant registry →
      registry.observeGeneration observation.link observation.provenance.generation =
        (observed, generation) →
      generation.behind = true → σ'.config = σ.config →
      σ'.registry = observed.noteFenced observation.link →
      σ'.transitions = σ.transitions → σ'.store = σ.store →
      outcome = { fence := .generationBehind } → ApplyStep σ observation instant σ' outcome
  | decided (registry : LinkRegistry) :
      σ.registry.sources[observation.provenance.source]? = some source →
      source.retired = false → σ.config.families.isEnabled observation.key.family = true →
      σ.registry.Ensured observation instant registry →
      registry.observeGeneration observation.link observation.provenance.generation =
        (observed, generation) →
      generation.behind = false → σ'.config = σ.config →
      σ.store.accept observation (observed.acceptContext observation source) instant =
        (σ'.store, outcome) →
      σ'.registry = (if outcome.accepted then
        observed.noteAccepted observation.link observation.observedAt instant
        else observed.noteFenced observation.link) →
      (∃ events, σ'.transitions = σ.transitions.recordAll events ∧
        (outcome.accepted = false → events = if generation.changed then
          [generationEvent observation generation instant] else [])) →
      ApplyStep σ observation instant σ' outcome

namespace Observatory

/-- The three components of the state the last stage works on. -/
theorem applyKnown_step (σ : Observatory) (observation : Observation) (source : SourceRecord)
    (instant : TimePoint) :
    (σ.applyKnown observation source instant).1.config = σ.config ∧
    σ.store.accept observation (σ.registry.acceptContext observation source) instant =
      ((σ.applyKnown observation source instant).1.store,
        (σ.applyKnown observation source instant).2) ∧
    (σ.applyKnown observation source instant).1.registry =
      (if (σ.applyKnown observation source instant).2.accepted then
        σ.registry.noteAccepted observation.link observation.observedAt instant
      else σ.registry.noteFenced observation.link) ∧
    ∃ events, (σ.applyKnown observation source instant).1.transitions =
        σ.transitions.recordAll events ∧
      ((σ.applyKnown observation source instant).2.accepted = false → events = []) := by
  unfold applyKnown acceptInto
  simp only
  generalize hresult : σ.store.accept observation
    { source := some source, currentGeneration := σ.registry.currentGeneration observation.link }
    instant = result
  have hctx : σ.store.accept observation (σ.registry.acceptContext observation source) instant =
    result := hresult
  cases ha : result.2.accepted with
  | false =>
    simp only [Bool.not_false, ↓reduceIte, ha, Bool.false_eq_true]
    exact ⟨rfl, hctx, rfl, [], rfl, fun _ => rfl⟩
  | true =>
    simp only [Bool.not_true, Bool.false_eq_true, ↓reduceIte, ha]
    have hrecords := (recordOutcome_recordsOnly _ observation result.2 instant).trans
      (refreshClassification_recordsOnly
        (recordOutcome { σ with
          store := result.1
          stats.recordsAccepted := σ.stats.recordsAccepted + 1
          registry := σ.registry.noteAccepted observation.link observation.observedAt instant }
          observation result.2 instant) observation.link instant)
    obtain ⟨events, hlog⟩ := hrecords.log
    refine ⟨hrecords.config, ?_, hrecords.registry, events, hlog, fun h => nomatch h⟩
    rw [hctx, hrecords.store]

theorem applyGeneration_step {σ₀ σ : Observatory} {observation : Observation}
    (hconfig : σ.config = σ₀.config) (hstore : σ.store = σ₀.store)
    (hlog : σ.transitions = σ₀.transitions)
    (hsource : σ₀.registry.sources[observation.provenance.source]? = some source)
    (hlive : source.retired = false)
    (henabled : σ₀.config.families.isEnabled observation.key.family = true)
    (hensured : σ₀.registry.Ensured observation instant σ.registry) :
    ApplyStep σ₀ observation instant (σ.applyGeneration observation source instant).1
      (σ.applyGeneration observation source instant).2 := by
  unfold applyGeneration
  rcases hobs : σ.registry.observeGeneration observation.link observation.provenance.generation
    with ⟨observed, generation⟩
  simp only
  cases hb : generation.behind with
  | true =>
    exact .behind σ.registry hsource hlive henabled hensured hobs hb hconfig rfl hlog hstore rfl
  | false =>
    cases hc : generation.changed with
    | false =>
      obtain ⟨h1, h2, h3, events, h4, h5⟩ :=
        applyKnown_step { σ with registry := observed } observation source instant
      refine .decided σ.registry hsource hlive henabled hensured hobs hb (h1.trans hconfig)
        (by rw [← hstore]; exact h2) h3 ⟨events, by rw [← hlog]; exact h4, ?_⟩
      simpa only [hc, Bool.false_eq_true, ↓reduceIte] using h5
    | true =>
      obtain ⟨h1, h2, h3, events, h4, h5⟩ :=
        applyKnown_step (recordTransition { σ with registry := observed }
          (generationEvent observation generation instant)) observation source instant
      refine .decided σ.registry hsource hlive henabled hensured hobs hb (h1.trans hconfig)
        (by rw [← hstore]; exact h2) h3
        ⟨generationEvent observation generation instant :: events, by rw [← hlog]; exact h4, ?_⟩
      intro hfalse
      rw [h5 hfalse]
      simp only [hc, ↓reduceIte]

theorem applyObservation_step (σ : Observatory) (observation : Observation)
    (instant : TimePoint) :
    ApplyStep σ observation instant (σ.applyObservation observation instant).1
      (σ.applyObservation observation instant).2 := by
  -- A source that may not report is refused by the store itself.
  have hrefuse (source : Option SourceRecord)
      (hsource : σ.registry.sources[observation.provenance.source]? = source)
      (hno : ∀ record, source = some record → record.retired = true ∨
        σ.config.families.isEnabled observation.key.family = false) :
      let result := acceptInto
        { σ with stats.recordsSubmitted := σ.stats.recordsSubmitted + 1 } observation source
        (σ.config.families.isEnabled observation.key.family) instant
      ApplyStep σ observation instant
        (if !result.2.accepted then result.1.countFenced else result.1) result.2 := by
    simp only
    split
    · exact .refused _ hsource hno rfl rfl rfl rfl rfl
    · exact .refused _ hsource hno rfl rfl rfl rfl rfl
  unfold applyObservation
  simp only
  cases hsource : σ.registry.findSource observation.provenance.source with
  | none => exact hrefuse none hsource (fun _ h => nomatch h)
  | some source =>
    simp only
    cases hlive : source.retired with
    | true =>
      exact hrefuse (some source) hsource (fun _ h => .inl (Option.some.inj h ▸ hlive))
    | false =>
      cases henabled : σ.config.families.isEnabled observation.key.family with
      | false =>
        rw [henabled] at hrefuse
        exact hrefuse (some source) hsource (fun _ _ => .inr rfl)
      | true =>
        simp only [Bool.not_true, Bool.false_eq_true, ↓reduceIte]
        cases hlink : σ.registry.links[observation.link]? with
        | some state =>
          have hfound : (σ.registry.findLink observation.link).isNone = false := by
            simp [LinkRegistry.findLink, hlink]
          rw [hfound]
          exact applyGeneration_step rfl rfl rfl hsource hlive henabled (.known hlink)
        | none =>
          have hfound : (σ.registry.findLink observation.link).isNone = true := by
            simp [LinkRegistry.findLink, hlink]
          rw [hfound]
          simp only [↓reduceIte]
          cases hok : (σ.registry.ensureImplicitLink observation.link observation.link.toString
              instant).2.ok with
          | false => exact .unknownLink hsource hlive henabled hlink hok rfl rfl rfl rfl rfl
          | true =>
            exact applyGeneration_step rfl rfl rfl hsource hlive henabled (.created hlink hok)

end Observatory

end LinkObservatory
