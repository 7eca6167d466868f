import LinkObservatory.ObservatoryStep

namespace LinkObservatory
set_option autoImplicit true

open Std

namespace Observatory

/-- The event of a state that differs from the last one observed. -/
def stateChange (σ : Observatory) (link : LinkId) (instant : TimePoint)
    (current : Classification) : Option TransitionEvent :=
  let event (previous : Bytes) : TransitionEvent :=
    { link := link
      kind := .classificationChanged
      at_ := instant
      generation := current.generation
      fromText := previous
      toText := current.state.toString }
  match σ.observedStates[link]? with
  | none => some (event (ascii "none"))
  | some previous => if previous ≠ current.state then some (event previous.toString) else none

/-- The events that a refresh records. -/
def refreshEvents (σ : Observatory) (link : LinkId) (instant : TimePoint) : List TransitionEvent :=
  let current := LinkObservatory.classify (σ.classificationInput link instant)
  (σ.stateChange link instant current).toList ++
    (trackedChange σ.lastOperText link (trackedText .operState current) .operStateChanged instant
      current.generation).toList ++
    (trackedChange σ.lastAdminText link (trackedText .adminState current) .adminStateChanged
      instant current.generation).toList

/-- The events of an accepted observation itself. -/
def outcomeEvents (observation : Observation) (outcome : AcceptOutcome) (instant : TimePoint) :
    List TransitionEvent :=
  let event : TransitionEvent :=
    { link := observation.link
      at_ := instant
      generation := observation.provenance.generation
      source := observation.provenance.source }
  (match outcome.discontinuity with
    | .reset => [{ event with kind := .counterReset, toText := observation.key.toString }]
    | .wrap => [{ event with kind := .counterWrap, toText := observation.key.toString }]
    | .none => []) ++
  if outcome.revisionGap then
    [{ event with kind := .revisionGap, detail := observation.provenance.sequence }]
  else []

/-- The state in which the refresh after an accepted observation finds the runtime. -/
def recorded (σ : Observatory) (observation : Observation) (source : SourceRecord)
    (instant : TimePoint) : Observatory :=
  let result := σ.acceptInto observation (some source) true instant
  let σ := result.1
  let σ :=
    { σ with
      stats.recordsAccepted := σ.stats.recordsAccepted + 1
      registry := σ.registry.noteAccepted observation.link observation.observedAt instant }
  σ.recordOutcome observation result.2 instant

def knownEvents (σ : Observatory) (observation : Observation) (source : SourceRecord)
    (instant : TimePoint) : List TransitionEvent :=
  let outcome := (σ.acceptInto observation (some source) true instant).2
  if !outcome.accepted then []
  else outcomeEvents observation outcome instant ++
    (σ.recorded observation source instant).refreshEvents observation.link instant

/-- The state in which the store is asked, once the generation of an observation is known. -/
def observed (σ : Observatory) (observation : Observation) (instant : TimePoint) : Observatory :=
  let observed :=
    σ.registry.observeGeneration observation.link observation.provenance.generation
  let σ := { σ with registry := observed.1 }
  if observed.2.changed then
    σ.recordTransition (generationEvent observation observed.2 instant)
  else σ

def generationEvents (σ : Observatory) (observation : Observation) (source : SourceRecord)
    (instant : TimePoint) : List TransitionEvent :=
  let generation :=
    (σ.registry.observeGeneration observation.link observation.provenance.generation).2
  if generation.behind then []
  else (if generation.changed then [generationEvent observation generation instant] else []) ++
    (σ.observed observation instant).knownEvents observation source instant

/-- The events that an observation records. -/
def observationEvents (σ : Observatory) (observation : Observation) (instant : TimePoint) :
    List TransitionEvent :=
  let σ := { σ with stats.recordsSubmitted := σ.stats.recordsSubmitted + 1 }
  match σ.registry.findSource observation.provenance.source with
  | none => []
  | some source =>
    if source.retired then []
    else if !σ.config.families.isEnabled observation.key.family then []
    else if (σ.registry.findLink observation.link).isNone then
      let ensured :=
        σ.registry.ensureImplicitLink observation.link observation.link.toString instant
      if !ensured.2.ok then []
      else { σ with registry := ensured.1 }.generationEvents observation source instant
    else σ.generationEvents observation source instant

/-- The events that a link declaration records. -/
def linkEvents (σ : Observatory) (declaration : LinkDecl) (instant : TimePoint) :
    List TransitionEvent :=
  let facts := makeLinkFacts declaration
  let existed := (σ.registry.findLink facts.id).isSome
  let registered := σ.registry.registerLink facts instant
  if !registered.2.ok then []
  else
    let observed := registered.1.observeGeneration facts.id facts.generation
    let event : TransitionEvent :=
      { link := facts.id, at_ := instant, generation := facts.generation }
    (if !existed then [{ event with kind := .linkRegistered, toText := facts.name }] else []) ++
    if observed.2.changed && existed then
      [{ event with
          kind := .generationChanged
          fromText := observed.2.previous.toString
          toText := facts.generation.toString }]
    else []

/-- The events that a record adds to the log. -/
def eventsOf (σ : Observatory) (record : ParsedRecord) (instant : TimePoint) :
    List TransitionEvent :=
  match record with
  | .none => []
  | .source _ => []
  | .link declaration => σ.linkEvents declaration instant
  | .observation declaration => σ.observationEvents (makeObservation declaration) instant

theorem trackState_transitions (σ : Observatory) (link : LinkId) (instant : TimePoint)
    (current : Classification) :
    (σ.trackState link instant current).transitions =
      σ.transitions.recordAll (σ.stateChange link instant current).toList := by
  unfold trackState stateChange
  cases σ.observedStates[link]? with
  | none => rfl
  | some previous =>
    simp only
    split
    · rfl
    · rfl

theorem trackOper_transitions (σ : Observatory) (link : LinkId) (instant : TimePoint)
    (current : Classification) :
    (σ.trackOper link instant current).transitions =
      σ.transitions.recordAll (trackedChange σ.lastOperText link (trackedText .operState current)
        .operStateChanged instant current.generation).toList := by
  unfold trackOper
  simp only
  cases trackedChange σ.lastOperText link (trackedText .operState current) .operStateChanged instant
      current.generation with
  | none => rfl
  | some event => rfl

theorem trackAdmin_transitions (σ : Observatory) (link : LinkId) (instant : TimePoint)
    (current : Classification) :
    (σ.trackAdmin link instant current).transitions =
      σ.transitions.recordAll (trackedChange σ.lastAdminText link
        (trackedText .adminState current) .adminStateChanged instant
        current.generation).toList := by
  unfold trackAdmin
  simp only
  cases trackedChange σ.lastAdminText link (trackedText .adminState current) .adminStateChanged
      instant current.generation with
  | none => rfl
  | some event => rfl

theorem trackState_trackers (σ : Observatory) (link : LinkId) (instant : TimePoint)
    (current : Classification) :
    (σ.trackState link instant current).lastOperText = σ.lastOperText ∧
      (σ.trackState link instant current).lastAdminText = σ.lastAdminText := by
  unfold trackState
  simp only
  split
  · exact ⟨rfl, rfl⟩
  · split
    · exact ⟨rfl, rfl⟩
    · exact ⟨rfl, rfl⟩

theorem trackOper_trackers (σ : Observatory) (link : LinkId) (instant : TimePoint)
    (current : Classification) :
    (σ.trackOper link instant current).lastOperText =
        σ.lastOperText.insert link (trackedText .operState current) ∧
      (σ.trackOper link instant current).lastAdminText = σ.lastAdminText := by
  constructor
  · rfl
  · unfold trackOper
    simp only
    split <;> rfl

theorem trackAdmin_trackers (σ : Observatory) (link : LinkId) (instant : TimePoint)
    (current : Classification) :
    (σ.trackAdmin link instant current).lastOperText = σ.lastOperText ∧
      (σ.trackAdmin link instant current).lastAdminText =
        σ.lastAdminText.insert link (trackedText .adminState current) := by
  constructor
  · unfold trackAdmin
    simp only
    split <;> rfl
  · rfl

theorem refreshClassification_events (σ : Observatory) (link : LinkId) (instant : TimePoint) :
    let current := LinkObservatory.classify (σ.classificationInput link instant)
    (σ.refreshClassification link instant).transitions =
        σ.transitions.recordAll (σ.refreshEvents link instant) ∧
      (σ.refreshClassification link instant).lastOperText =
        σ.lastOperText.insert link (trackedText .operState current) ∧
      (σ.refreshClassification link instant).lastAdminText =
        σ.lastAdminText.insert link (trackedText .adminState current) := by
  unfold refreshClassification refreshEvents
  simp only
  generalize LinkObservatory.classify (σ.classificationInput link instant) = current
  generalize hcounted : { σ with stats.classifications := σ.stats.classifications + 1 } = counted
  have hlog : counted.transitions = σ.transitions := by rw [← hcounted]
  have hchange : counted.stateChange link instant current = σ.stateChange link instant current := by
    rw [← hcounted]
    rfl
  have hoper : counted.lastOperText = σ.lastOperText := by rw [← hcounted]
  have hadmin : counted.lastAdminText = σ.lastAdminText := by rw [← hcounted]
  obtain ⟨hstateOper, hstateAdmin⟩ := trackState_trackers counted link instant current
  obtain ⟨hsetOper, hkeptAdmin⟩ :=
    trackOper_trackers (counted.trackState link instant current) link instant current
  obtain ⟨hkeptOper, hsetAdmin⟩ := trackAdmin_trackers
    ((counted.trackState link instant current).trackOper link instant current) link instant current
  refine ⟨?_, ?_, ?_⟩
  · rw [trackAdmin_transitions, trackOper_transitions, trackState_transitions, hkeptAdmin,
      hstateAdmin, hstateOper, hlog, hchange, hoper, hadmin, TransitionLog.recordAll_append,
      TransitionLog.recordAll_append]
  · rw [hkeptOper, hsetOper, hstateOper, hoper]
  · rw [hsetAdmin, hkeptAdmin, hstateAdmin, hadmin]

theorem recordOutcome_transitions (σ : Observatory) (observation : Observation)
    (outcome : AcceptOutcome) (instant : TimePoint) :
    (σ.recordOutcome observation outcome instant).transitions =
      σ.transitions.recordAll (outcomeEvents observation outcome instant) := by
  unfold recordOutcome outcomeEvents
  cases outcome.discontinuity <;> cases outcome.revisionGap <;> rfl

theorem recordOutcome_trackers (σ : Observatory) (observation : Observation)
    (outcome : AcceptOutcome) (instant : TimePoint) :
    (σ.recordOutcome observation outcome instant).lastOperText = σ.lastOperText ∧
      (σ.recordOutcome observation outcome instant).lastAdminText = σ.lastAdminText := by
  unfold recordOutcome
  cases outcome.discontinuity <;> cases outcome.revisionGap <;> exact ⟨rfl, rfl⟩

theorem applyKnown_eq (σ : Observatory) (observation : Observation) (source : SourceRecord)
    (instant : TimePoint)
    (h : (σ.applyKnown observation source instant).2.accepted = true) :
    (σ.applyKnown observation source instant).1 =
      (σ.recorded observation source instant).refreshClassification observation.link instant := by
  unfold applyKnown at h ⊢
  simp only at h ⊢
  split at h
  · rename_i hrefused
    simp only at h
    rw [h] at hrefused
    cases hrefused
  · rename_i haccepted
    rw [if_neg haccepted]
    rfl

theorem applyKnown_transitions (σ : Observatory) (observation : Observation)
    (source : SourceRecord) (instant : TimePoint) :
    (σ.applyKnown observation source instant).1.transitions =
      σ.transitions.recordAll (σ.knownEvents observation source instant) := by
  unfold applyKnown knownEvents
  simp only
  split
  · rfl
  · rw [(refreshClassification_events _ _ _).1, TransitionLog.recordAll_append]
    have hrecorded : (σ.recorded observation source instant).transitions =
        σ.transitions.recordAll (outcomeEvents observation
          (σ.acceptInto observation (some source) true instant).2 instant) :=
      recordOutcome_transitions _ _ _ _
    rw [← hrecorded]
    rfl

theorem applyGeneration_transitions (σ : Observatory) (observation : Observation)
    (source : SourceRecord) (instant : TimePoint) :
    (σ.applyGeneration observation source instant).1.transitions =
      σ.transitions.recordAll (σ.generationEvents observation source instant) := by
  unfold applyGeneration generationEvents
  simp only
  split
  · rfl
  · rw [applyKnown_transitions, TransitionLog.recordAll_append]
    unfold observed
    simp only
    split
    · rfl
    · rfl

theorem applyObservation_transitions (σ : Observatory) (observation : Observation)
    (instant : TimePoint) :
    (σ.applyObservation observation instant).1.transitions =
      σ.transitions.recordAll (σ.observationEvents observation instant) := by
  unfold applyObservation observationEvents
  simp only
  cases σ.registry.findSource observation.provenance.source with
  | none =>
    simp only
    split <;> rfl
  | some source =>
    simp only
    by_cases hretired : source.retired = true
    · simp only [hretired, ↓reduceIte]
      split <;> rfl
    by_cases henabled : (!σ.config.families.isEnabled observation.key.family) = true
    · simp only [hretired, henabled, ↓reduceIte, Bool.false_eq_true]
      split <;> rfl
    simp only [hretired, henabled, ↓reduceIte, Bool.false_eq_true]
    by_cases hlink : (σ.registry.findLink observation.link).isNone = true
    · simp only [hlink, ↓reduceIte]
      split
      · rfl
      · exact applyGeneration_transitions _ _ _ _
    · simp only [hlink, ↓reduceIte, Bool.false_eq_true]
      exact applyGeneration_transitions _ _ _ _

theorem applyLink_transitions (σ : Observatory) (declaration : LinkDecl) (instant : TimePoint) :
    (σ.applyLink declaration instant).1.transitions =
      σ.transitions.recordAll (σ.linkEvents declaration instant) := by
  unfold applyLink linkEvents
  simp only
  split
  · rfl
  · rw [TransitionLog.recordAll_append]
    split
    · split
      · rfl
      · rfl
    · split
      · rfl
      · rfl

/-- Exactly the events of a record are added to the log, in order. -/
theorem applyRecord_transitions (σ : Observatory) (record : ParsedRecord) (instant : TimePoint) :
    (σ.applyRecord record instant).1.transitions =
      σ.transitions.recordAll (σ.eventsOf record instant) := by
  cases record with
  | none => rfl
  | source declaration =>
    have hkept : (σ.applySource declaration).1.transitions = σ.transitions := by
      unfold applySource
      simp only
      split
      · rfl
      split
      · split <;> rfl
      · split <;> rfl
    exact hkept
  | link declaration => exact σ.applyLink_transitions declaration instant
  | observation declaration => exact σ.applyObservation_transitions _ instant

end Observatory

end LinkObservatory
