import LinkObservatory.Lib.Changes
import LinkObservatory.Totals

namespace LinkObservatory
set_option autoImplicit true

open Std

theorem LinkState.toString_take (state : LinkState) : state.toString.take 64 = state.toString := by
  cases state <;> decide

theorem parseLinkState_toString (state : LinkState) :
    parseLinkState state.toString = some state := by
  cases state <;> decide

namespace Observatory

/-- The state that the refresh after an accepted observation computes. -/
def knownRefresh (σ : Observatory) (observation : Observation) (source : SourceRecord)
    (instant : TimePoint) : Option LinkState :=
  if !(σ.acceptInto observation (some source) true instant).2.accepted then none
  else some (LinkObservatory.classify ((σ.recorded observation source instant).classificationInput
    observation.link instant)).state

def generationRefresh (σ : Observatory) (observation : Observation) (source : SourceRecord)
    (instant : TimePoint) : Option LinkState :=
  if (σ.registry.observeGeneration observation.link observation.provenance.generation).2.behind
  then none
  else (σ.observed observation instant).knownRefresh observation source instant

def observationRefresh (σ : Observatory) (observation : Observation) (instant : TimePoint) :
    Option LinkState :=
  let σ := { σ with stats.recordsSubmitted := σ.stats.recordsSubmitted + 1 }
  match σ.registry.findSource observation.provenance.source with
  | none => none
  | some source =>
    if source.retired then none
    else if !σ.config.families.isEnabled observation.key.family then none
    else if (σ.registry.findLink observation.link).isNone then
      let ensured :=
        σ.registry.ensureImplicitLink observation.link observation.link.toString instant
      if !ensured.2.ok then none
      else { σ with registry := ensured.1 }.generationRefresh observation source instant
    else σ.generationRefresh observation source instant

/-- The link that a record refreshes, with the state computed for it. -/
def refreshOf (σ : Observatory) (record : ParsedRecord) (instant : TimePoint) :
    Option (LinkId × LinkState) :=
  match record with
  | .observation declaration =>
    (σ.observationRefresh (makeObservation declaration) instant).map fun state =>
      ((makeObservation declaration).link, state)
  | _ => none

/-- The refreshes that a list of records leads to. -/
def refreshesFrom : Observatory → List (ParsedRecord × TimePoint) → List (LinkId × LinkState)
  | _, [] => []
  | σ, (record, instant) :: records =>
    (σ.refreshOf record instant).toList ++ refreshesFrom (σ.applyRecord record instant).1 records

/-- The states computed for one link, in order. -/
def statesOf (link : LinkId) (refreshes : List (LinkId × LinkState)) : List LinkState :=
  (refreshes.filter fun refresh => refresh.1 == link).map Prod.snd

/-- The classification events of a list, as a link with the texts of its old and new state. -/
def stateTexts (events : List TransitionEvent) : List (LinkId × Bytes × Bytes) :=
  (events.filter fun event => event.kind == .classificationChanged).map fun event =>
    (event.link, event.fromText, event.toText)

/-- The text of a state that may be missing. -/
def previousText (state : Option LinkState) : Bytes := state.elim (ascii "none") LinkState.toString

/-- The change that a refresh brings about. -/
def changeTo (σ : Observatory) : Option (LinkId × LinkState) → List (LinkId × Bytes × Bytes)
  | none => []
  | some (link, state) =>
    if σ.observedStates[link]? = some state then []
    else [(link, previousText σ.observedStates[link]?, state.toString)]

/-- The states remembered after a refresh. -/
def remembered (σ : Observatory) :
    Option (LinkId × LinkState) → ExtTreeMap LinkId LinkState StrongId.compare
  | none => σ.observedStates
  | some (link, state) => σ.observedStates.insert link state

/-- A step in which at most one link is refreshed: the new state is remembered, and recorded and
counted if it is another one. -/
structure Refreshes (σ σ' : Observatory) (refresh : Option (LinkId × LinkState))
    (events : List TransitionEvent) : Prop where
  texts : stateTexts events = σ.changeTo refresh
  states : σ'.observedStates = σ.remembered refresh
  counted : σ'.stats.stateChanges =
    σ.stats.stateChanges + UInt64.ofNat (stateTexts events).length

theorem stateTexts_append (first second : List TransitionEvent) :
    stateTexts (first ++ second) = stateTexts first ++ stateTexts second := by
  rw [stateTexts, List.filter_append, List.map_append]
  rfl

theorem stateTexts_nil {events : List TransitionEvent}
    (h : ∀ event ∈ events, event.kind ≠ .classificationChanged) : stateTexts events = [] := by
  rw [stateTexts, List.filter_eq_nil_iff.2]
  · rfl
  · intro event hmem
    simpa using h event hmem

theorem Refreshes.quiet {σ σ' : Observatory} (hstates : σ'.observedStates = σ.observedStates)
    (hcounted : σ'.stats.stateChanges = σ.stats.stateChanges)
    (hevents : stateTexts events = []) : Refreshes σ σ' none events where
  texts := hevents
  states := hstates
  counted := by
    rw [hevents, hcounted]
    exact (add_zero _).symm

/-- Steps before a refresh that neither remember nor record a state do not matter. -/
theorem Refreshes.prepend {σ σ₁ σ' : Observatory} (h : Refreshes σ₁ σ' refresh events)
    (hstates : σ₁.observedStates = σ.observedStates)
    (hcounted : σ₁.stats.stateChanges = σ.stats.stateChanges)
    (hbefore : stateTexts before = []) : Refreshes σ σ' refresh (before ++ events) := by
  have htexts : stateTexts (before ++ events) = stateTexts events := by
    rw [stateTexts_append, hbefore, List.nil_append]
  constructor
  · rw [htexts, h.texts]
    cases refresh with
    | none => rfl
    | some entry => rw [changeTo, changeTo, hstates]
  · rw [h.states]
    cases refresh with
    | none => exact hstates
    | some entry => rw [remembered, remembered, hstates]
  · rw [htexts, h.counted, hcounted]

theorem trackState_states (σ : Observatory) (link : LinkId) (instant : TimePoint)
    (current : Classification) :
    (σ.trackState link instant current).observedStates =
        σ.observedStates.insert link current.state ∧
      (σ.trackState link instant current).stats.stateChanges = σ.stats.stateChanges +
        UInt64.ofNat (σ.changeTo (some (link, current.state))).length := by
  unfold trackState changeTo
  simp only
  cases hheld : σ.observedStates[link]? with
  | none => exact ⟨rfl, rfl⟩
  | some previous =>
    simp only
    by_cases hsame : previous = current.state
    · rw [if_neg (not_not.2 hsame), if_pos (congrArg some hsame)]
      constructor
      · rw [← hsame]
        exact (OrderedMap.insert_lookup hheld).symm
      · exact (add_zero _).symm
    · rw [if_pos hsame, if_neg fun h => hsame (Option.some.inj h)]
      exact ⟨rfl, rfl⟩

theorem stateTexts_stateChange (σ : Observatory) (link : LinkId) (instant : TimePoint)
    (current : Classification) :
    stateTexts (σ.stateChange link instant current).toList =
      σ.changeTo (some (link, current.state)) := by
  unfold stateChange changeTo
  simp only
  cases hheld : σ.observedStates[link]? with
  | none => rfl
  | some previous =>
    by_cases hsame : previous = current.state
    · simp [hsame, stateTexts]
    · simp [hsame, stateTexts, previousText]

theorem refreshClassification_refreshes (σ : Observatory) (link : LinkId) (instant : TimePoint) :
    Refreshes σ (σ.refreshClassification link instant)
      (some (link, (LinkObservatory.classify (σ.classificationInput link instant)).state))
      (σ.refreshEvents link instant) := by
  have hoper (τ : Observatory) (current : Classification) :
      (τ.trackOper link instant current).observedStates = τ.observedStates ∧
        (τ.trackOper link instant current).stats.stateChanges = τ.stats.stateChanges := by
    unfold trackOper
    simp only
    split
    · exact ⟨rfl, rfl⟩
    · exact ⟨rfl, rfl⟩
  have hadmin (τ : Observatory) (current : Classification) :
      (τ.trackAdmin link instant current).observedStates = τ.observedStates ∧
        (τ.trackAdmin link instant current).stats.stateChanges = τ.stats.stateChanges := by
    unfold trackAdmin
    simp only
    split
    · exact ⟨rfl, rfl⟩
    · exact ⟨rfl, rfl⟩
  have htracked (tracker : ExtTreeMap LinkId Bytes StrongId.compare) (text : Bytes)
      (kind : TransitionKind) (generation : GenerationId)
      (hkind : kind ≠ .classificationChanged) :
      stateTexts (trackedChange tracker link text kind instant generation).toList = [] := by
    apply stateTexts_nil
    intro event hmem
    rw [(trackedChange_some (Option.mem_toList.1 hmem)).1]
    exact hkind
  have htexts : stateTexts (σ.refreshEvents link instant) = σ.changeTo
      (some (link, (LinkObservatory.classify (σ.classificationInput link instant)).state)) := by
    unfold refreshEvents
    simp only
    rw [stateTexts_append, stateTexts_append, htracked _ _ _ _ (by decide),
      htracked _ _ _ _ (by decide), List.append_nil, List.append_nil, stateTexts_stateChange]
  unfold refreshClassification
  simp only
  generalize LinkObservatory.classify (σ.classificationInput link instant) = current at *
  obtain ⟨hstates, hcounted⟩ := trackState_states
    { σ with stats.classifications := σ.stats.classifications + 1 } link instant current
  constructor
  · exact htexts
  · rw [(hadmin _ _).1, (hoper _ _).1, hstates]
    rfl
  · rw [(hadmin _ _).2, (hoper _ _).2, hcounted, htexts]
    rfl

theorem recorded_states (σ : Observatory) (observation : Observation) (source : SourceRecord)
    (instant : TimePoint) :
    (σ.recorded observation source instant).observedStates = σ.observedStates ∧
      (σ.recorded observation source instant).stats.stateChanges = σ.stats.stateChanges := by
  have houtcome (τ : Observatory) (outcome : AcceptOutcome) :
      (τ.recordOutcome observation outcome instant).observedStates = τ.observedStates ∧
        (τ.recordOutcome observation outcome instant).stats.stateChanges =
          τ.stats.stateChanges := by
    unfold recordOutcome
    cases outcome.discontinuity <;> cases outcome.revisionGap <;> exact ⟨rfl, rfl⟩
  exact houtcome _ _

theorem outcomeEvents_texts (observation : Observation) (outcome : AcceptOutcome)
    (instant : TimePoint) : stateTexts (outcomeEvents observation outcome instant) = [] := by
  unfold outcomeEvents
  cases outcome.discontinuity <;> cases outcome.revisionGap <;> rfl

theorem applyKnown_refreshes (σ : Observatory) (observation : Observation) (source : SourceRecord)
    (instant : TimePoint) :
    Refreshes σ (σ.applyKnown observation source instant).1
      ((σ.knownRefresh observation source instant).map fun state => (observation.link, state))
      (σ.knownEvents observation source instant) := by
  have houtcome : (σ.applyKnown observation source instant).2 =
      (σ.acceptInto observation (some source) true instant).2 := by
    unfold applyKnown
    simp only
    split <;> rfl
  cases haccepted : (σ.acceptInto observation (some source) true instant).2.accepted with
  | true =>
    rw [applyKnown_eq _ _ _ _ (by rw [houtcome, haccepted])]
    unfold knownRefresh knownEvents
    simp only [haccepted, Bool.not_true, Bool.false_eq_true, ↓reduceIte]
    obtain ⟨hstates, hcounted⟩ := σ.recorded_states observation source instant
    have hrefresh := (σ.recorded observation source instant).refreshClassification_refreshes
      observation.link instant
    exact hrefresh.prepend hstates hcounted (outcomeEvents_texts _ _ _)
  | false =>
    unfold applyKnown knownRefresh knownEvents
    simp only [haccepted, Bool.not_false, ↓reduceIte]
    exact .quiet rfl rfl rfl

theorem applyGeneration_refreshes (σ : Observatory) (observation : Observation)
    (source : SourceRecord) (instant : TimePoint) :
    Refreshes σ (σ.applyGeneration observation source instant).1
      ((σ.generationRefresh observation source instant).map fun state =>
        (observation.link, state))
      (σ.generationEvents observation source instant) := by
  unfold applyGeneration generationRefresh generationEvents
  simp only
  cases hbehind : (σ.registry.observeGeneration observation.link
      observation.provenance.generation).2.behind with
  | true =>
    simp only [↓reduceIte]
    exact .quiet rfl rfl rfl
  | false =>
    simp only [Bool.false_eq_true, ↓reduceIte]
    have hobserved : (σ.observed observation instant).observedStates = σ.observedStates ∧
        (σ.observed observation instant).stats.stateChanges = σ.stats.stateChanges := by
      unfold observed
      simp only
      split
      · exact ⟨rfl, rfl⟩
      · exact ⟨rfl, rfl⟩
    have hrefresh := (σ.observed observation instant).applyKnown_refreshes observation source
      instant
    apply hrefresh.prepend hobserved.1 hobserved.2
    split
    · rfl
    · rfl

theorem applyObservation_refreshes (σ : Observatory) (observation : Observation)
    (instant : TimePoint) :
    Refreshes σ (σ.applyObservation observation instant).1
      ((σ.observationRefresh observation instant).map fun state => (observation.link, state))
      (σ.observationEvents observation instant) := by
  have hframe {τ σ' : Observatory} {refresh : Option (LinkId × LinkState)}
      {events : List TransitionEvent} (h : Refreshes τ σ' refresh events)
      (hstates : τ.observedStates = σ.observedStates)
      (hcounted : τ.stats.stateChanges = σ.stats.stateChanges) : Refreshes σ σ' refresh events := by
    have hprepended : Refreshes σ σ' refresh ([] ++ events) := h.prepend hstates hcounted rfl
    exact hprepended
  unfold applyObservation observationRefresh observationEvents
  simp only
  cases σ.registry.findSource observation.provenance.source with
  | none =>
    simp only
    split
    · exact .quiet rfl rfl rfl
    · exact .quiet rfl rfl rfl
  | some source =>
    simp only
    cases source.retired with
    | true =>
      simp only [↓reduceIte]
      split
      · exact .quiet rfl rfl rfl
      · exact .quiet rfl rfl rfl
    | false =>
      cases σ.config.families.isEnabled observation.key.family with
      | false =>
        simp only [Bool.not_false, ↓reduceIte, Bool.false_eq_true]
        split
        · exact .quiet rfl rfl rfl
        · exact .quiet rfl rfl rfl
      | true =>
        simp only [Bool.not_true, ↓reduceIte, Bool.false_eq_true]
        split
        · split
          · exact .quiet rfl rfl rfl
          · exact hframe (applyGeneration_refreshes _ observation source instant) rfl rfl
        · exact hframe (applyGeneration_refreshes _ observation source instant) rfl rfl

theorem linkEvents_texts (σ : Observatory) (declaration : LinkDecl) (instant : TimePoint) :
    stateTexts (σ.linkEvents declaration instant) = [] := by
  apply stateTexts_nil
  intro event hmem
  rcases (mem_linkEvents hmem).2 with hkind | hkind
  · rw [hkind]
    decide
  · rw [hkind]
    decide

theorem applyRecord_refreshes (σ : Observatory) (record : ParsedRecord) (instant : TimePoint) :
    Refreshes σ (σ.applyRecord record instant).1 (σ.refreshOf record instant)
      (σ.eventsOf record instant) := by
  cases record with
  | none => exact .quiet rfl rfl rfl
  | source declaration =>
    unfold applyRecord applySource
    simp only
    split
    · exact .quiet rfl rfl rfl
    · split
      · split <;> exact .quiet rfl rfl rfl
      · split <;> exact .quiet rfl rfl rfl
  | link declaration =>
    have hsame : (σ.applyLink declaration instant).1.observedStates = σ.observedStates ∧
        (σ.applyLink declaration instant).1.stats.stateChanges = σ.stats.stateChanges := by
      unfold applyLink
      simp only
      split
      · exact ⟨rfl, rfl⟩
      · split
        · split <;> exact ⟨rfl, rfl⟩
        · split <;> exact ⟨rfl, rfl⟩
    exact .quiet hsame.1 hsame.2 (σ.linkEvents_texts declaration instant)
  | observation declaration =>
    exact σ.applyObservation_refreshes (makeObservation declaration) instant

/-- The texts of a change of state. -/
def changeTexts (change : Option LinkState × LinkState) : Bytes × Bytes :=
  (previousText change.1, change.2.toString)

def textsOn (link : LinkId) (texts : List (LinkId × Bytes × Bytes)) : List (Bytes × Bytes) :=
  (texts.filter fun entry => entry.1 == link).map Prod.snd

theorem textsOn_append (link : LinkId) (first second : List (LinkId × Bytes × Bytes)) :
    textsOn link (first ++ second) = textsOn link first ++ textsOn link second := by
  rw [textsOn, List.filter_append, List.map_append]
  rfl

theorem statesOf_append (link : LinkId) (first second : List (LinkId × LinkState)) :
    statesOf link (first ++ second) = statesOf link first ++ statesOf link second := by
  rw [statesOf, List.filter_append, List.map_append]
  rfl

theorem textsOn_eventsFrom (σ : Observatory) (records : List (ParsedRecord × TimePoint))
    (link : LinkId) :
    textsOn link (stateTexts (eventsFrom σ records)) =
      (Changes.changes σ.observedStates[link]? (statesOf link (refreshesFrom σ records))).map
        changeTexts := by
  induction records generalizing σ with
  | nil => rfl
  | cons entry records ih =>
    obtain ⟨record, instant⟩ := entry
    have hstep := σ.applyRecord_refreshes record instant
    rw [eventsFrom, refreshesFrom, stateTexts_append, textsOn_append, statesOf_append, hstep.texts,
      ih, hstep.states]
    cases σ.refreshOf record instant with
    | none => rfl
    | some refresh =>
      obtain ⟨other, state⟩ := refresh
      rw [remembered, OrderedMap.lookup_insert]
      by_cases hlink : other = link
      · subst hlink
        have hone : statesOf other (some (other, state)).toList = [state] := by
          simp [statesOf]
        rw [if_pos rfl, hone, changeTo, List.singleton_append, Changes.changes]
        split
        · rename_i hheld
          rw [hheld]
          rfl
        · simp [textsOn, changeTexts]
      · have hnone : statesOf link (some (other, state)).toList = [] := by
          simp [statesOf, hlink]
        rw [if_neg hlink, hnone, changeTo, List.nil_append]
        split
        · rfl
        · simp [textsOn, hlink]

theorem foldl_stateChanges (σ : Observatory) (records : List (ParsedRecord × TimePoint)) :
    (records.foldl (fun σ record => (σ.applyRecord record.1 record.2).1) σ).stats.stateChanges =
      σ.stats.stateChanges + UInt64.ofNat (stateTexts (eventsFrom σ records)).length := by
  induction records generalizing σ with
  | nil => exact (add_zero _).symm
  | cons entry records ih =>
    obtain ⟨record, instant⟩ := entry
    rw [List.foldl_cons, ih, (σ.applyRecord_refreshes record instant).counted, eventsFrom,
      stateTexts_append, List.length_append, UInt64.ofNat_add]
    exact add_assoc _ _ _

theorem applyRecord_known {σ : Observatory} {link : LinkId}
    (h : (σ.registry.links[link]?).isSome) (record : ParsedRecord) (instant : TimePoint) :
    ((σ.applyRecord record instant).1.registry.links[link]?).isSome := by
  cases record with
  | none => exact h
  | source declaration =>
    show ((σ.applySource declaration).1.registry.links[link]?).isSome
    rwa [applySource_links]
  | link declaration => exact (σ.applyLink_writes declaration instant).known link h
  | observation declaration => exact (σ.applyObservation_writes _ instant).known link h

theorem observationRefresh_known (σ : Observatory) (observation : Observation)
    (instant : TimePoint) (h : (σ.observationRefresh observation instant).isSome) :
    ((σ.applyObservation observation instant).1.registry.links[observation.link]?).isSome := by
  have hstep := σ.applyObservation_step observation instant
  generalize (σ.applyObservation observation instant).1 = σ' at *
  generalize (σ.applyObservation observation instant).2 = outcome at *
  have hwritten {registry observed : LinkRegistry}
      (hensured : σ.registry.Ensured observation instant registry)
      (hobserved : (registry.observeGeneration observation.link
        observation.provenance.generation).1 = observed) :
      (observed.links[observation.link]?).isSome := by
    obtain ⟨state, hstate, -⟩ := hensured.lookup
    rw [← hobserved]
    apply (registry.observeGeneration_writes _ _).known
    rw [hstate]
    rfl
  cases hstep with
  | refused context hsource hno =>
    have hfound : σ.registry.findSource observation.provenance.source = context.source := hsource
    unfold observationRefresh at h
    simp only [hfound] at h
    cases hcontext : context.source with
    | none => simp [hcontext] at h
    | some source =>
      rcases hno source hcontext with hretired | hdisabled
      · simp [hcontext, hretired] at h
      · simp [hcontext, hdisabled] at h
  | unknownLink hsource hlive henabled hlink hok =>
    have hfound : σ.registry.findSource observation.provenance.source = some _ := hsource
    have hmissing : (σ.registry.findLink observation.link).isNone = true := by
      simp [LinkRegistry.findLink, hlink]
    unfold observationRefresh at h
    simp [hfound, hlive, henabled, hmissing, hok] at h
  | behind registry _ _ _ hensured hobs _ _ hregistry =>
    rw [hregistry]
    exact (LinkRegistry.updateEntry_writes _ _ _).known _ (hwritten hensured (by rw [hobs]))
  | decided registry _ _ _ hensured hobs _ _ _ hregistry =>
    rw [hregistry]
    split
    · exact (LinkRegistry.updateEntry_writes _ _ _).known _ (hwritten hensured (by rw [hobs]))
    · exact (LinkRegistry.updateEntry_writes _ _ _).known _ (hwritten hensured (by rw [hobs]))

theorem refreshesFrom_known (σ : Observatory) (records : List (ParsedRecord × TimePoint))
    {link : LinkId} (h : statesOf link (refreshesFrom σ records) ≠ [] ∨
      (σ.registry.links[link]?).isSome) :
    ((records.foldl (fun σ record => (σ.applyRecord record.1 record.2).1) σ).registry.links[
      link]?).isSome := by
  induction records generalizing σ with
  | nil => exact h.resolve_left fun hne => hne rfl
  | cons entry records ih =>
    obtain ⟨record, instant⟩ := entry
    rw [List.foldl_cons]
    apply ih
    rcases h with hstates | hknown
    · rw [refreshesFrom, statesOf_append] at hstates
      cases hrefresh : statesOf link (σ.refreshOf record instant).toList with
      | nil =>
        left
        rwa [hrefresh, List.nil_append] at hstates
      | cons state states =>
        right
        cases record with
        | none => cases hrefresh
        | source declaration => cases hrefresh
        | link declaration => cases hrefresh
        | observation declaration =>
          rw [refreshOf] at hrefresh
          cases hcomputed : σ.observationRefresh (makeObservation declaration) instant with
          | none =>
            rw [hcomputed] at hrefresh
            cases hrefresh
          | some computed =>
            have hlink : (makeObservation declaration).link = link := by
              by_contra hne
              simp [hcomputed, statesOf, hne] at hrefresh
            have hknown := σ.observationRefresh_known (makeObservation declaration) instant
              (by rw [hcomputed]; rfl)
            rw [hlink] at hknown
            exact hknown
    · exact .inr (applyRecord_known hknown record instant)

/-- The classification events of a link. -/
def stateEvents (link : LinkId) (events : List TransitionEvent) : List TransitionEvent :=
  events.filter fun event => event.kind == .classificationChanged && event.link == link

/-- The classification events of a link form a chain that ends in a state, or in none. -/
structure StateChain (events : List TransitionEvent) (last : Option LinkState) : Prop where
  first : ∀ event ∈ events.head?, event.fromText = ascii "none"
  linked : events.IsChain fun before after => after.fromText = before.toText
  changed : ∀ event ∈ events, event.fromText ≠ event.toText
  last : events.getLast?.map TransitionEvent.toText = last.map LinkState.toString

theorem changeTexts_ne {change : Option LinkState × LinkState} (h : change.1 ≠ some change.2) :
    (changeTexts change).1 ≠ (changeTexts change).2 := by
  obtain ⟨previous, state⟩ := change
  cases previous with
  | none => cases state <;> decide
  | some previous =>
    intro hsame
    have hparsed := congrArg parseLinkState hsame
    rw [show (changeTexts (some previous, state)).1 = previous.toString from rfl,
      show (changeTexts (some previous, state)).2 = state.toString from rfl,
      parseLinkState_toString, parseLinkState_toString] at hparsed
    exact h hparsed

theorem StateChain.of_changes {states : List LinkState}
    (h : events.map (fun event => (event.fromText, event.toText)) =
      (Changes.changes none states).map changeTexts) : StateChain events states.getLast? := by
  have hmem {event : TransitionEvent} (hevent : event ∈ events) :
      ∃ change ∈ Changes.changes none states,
        changeTexts change = (event.fromText, event.toText) := by
    have hpair := List.mem_map_of_mem (f := fun event => (event.fromText, event.toText)) hevent
    rw [h] at hpair
    exact List.mem_map.1 hpair
  constructor
  · intro event hevent
    have hpair : (events.map fun event => (event.fromText, event.toText)).head? =
        some (event.fromText, event.toText) := by
      rw [List.head?_map, hevent]
      rfl
    rw [h, List.head?_map] at hpair
    obtain ⟨change, hchange, htexts⟩ := Option.map_eq_some_iff.1 hpair
    have hnone := Changes.changes_first none states change hchange
    rw [← (Prod.mk.inj htexts).1, hnone]
    rfl
  · have hlinked : ((Changes.changes none states).map changeTexts).IsChain
        fun before after => after.1 = before.2 := by
      rw [List.isChain_map]
      apply (Changes.changes_linked none states).imp
      intro before after hafter
      rw [changeTexts, hafter]
      rfl
    rw [← h, List.isChain_map] at hlinked
    exact hlinked
  · intro event hevent
    obtain ⟨change, hchange, htexts⟩ := hmem hevent
    have hne := changeTexts_ne (Changes.changes_ne none states change hchange)
    rw [htexts] at hne
    exact hne
  · have hlast := congrArg (fun texts => texts.getLast?.map Prod.snd) h
    simp only [List.getLast?_map, Option.map_map] at hlast
    rw [← Changes.changes_last states, Option.map_map]
    exact hlast

theorem stateEvents_texts (link : LinkId) (events : List TransitionEvent) :
    (stateEvents link events).map (fun event => (event.fromText, event.toText)) =
      textsOn link (stateTexts events) := by
  rw [textsOn, stateTexts, List.filter_map, List.map_map, List.filter_filter, stateEvents]
  congr 2
  funext event
  exact Bool.and_comm _ _

theorem normalize_texts (event : TransitionEvent) :
    (event.normalize.fromText, event.normalize.toText) =
      (event.fromText.take 64, event.toText.take 64) := by
  simp only [TransitionEvent.normalize]

theorem stateEvents_normalize (link : LinkId) (events : List TransitionEvent) :
    stateEvents link (events.map TransitionEvent.normalize) =
      (stateEvents link events).map TransitionEvent.normalize := by
  rw [stateEvents, List.filter_map, stateEvents]
  apply congrArg (List.map TransitionEvent.normalize)
  apply List.filter_congr
  intro event _
  obtain ⟨hkind, hlink⟩ := event.normalize_kept
  rw [Function.comp_apply, hkind, hlink]

theorem changeTexts_take (change : Option LinkState × LinkState) :
    ((changeTexts change).1.take 64, (changeTexts change).2.take 64) = changeTexts change := by
  obtain ⟨previous, state⟩ := change
  have hstate := state.toString_take
  cases previous with
  | none => exact Prod.ext rfl hstate
  | some previous => exact Prod.ext previous.toString_take hstate

theorem fresh_observedStates (config : RuntimeConfig) (link : LinkId) :
    (fresh config).observedStates[link]? = none := by
  show (∅ : ExtTreeMap LinkId LinkState StrongId.compare)[link]? = none
  exact ExtTreeMap.getElem?_empty

theorem StateChain.of_texts {states : List LinkState}
    (h : textsOn link (stateTexts events) = (Changes.changes none states).map changeTexts) :
    StateChain (stateEvents link (events.map TransitionEvent.normalize)) states.getLast? := by
  apply StateChain.of_changes
  have hnormalized : (stateEvents link (events.map TransitionEvent.normalize)).map
      (fun event => (event.fromText, event.toText)) =
      ((stateEvents link events).map fun event => (event.fromText, event.toText)).map
        fun texts => (texts.1.take 64, texts.2.take 64) := by
    rw [stateEvents_normalize, List.map_map, List.map_map]
    apply List.map_congr_left
    intro event _
    exact normalize_texts event
  rw [hnormalized, stateEvents_texts, h, List.map_map]
  apply List.map_congr_left
  intro change _
  exact changeTexts_take change

theorem run_stateChain (config : RuntimeConfig) (records : List (ParsedRecord × TimePoint))
    (link : LinkId) :
    StateChain (stateEvents link ((eventsFrom (fresh config) records).map
        TransitionEvent.normalize))
      (statesOf link (refreshesFrom (fresh config) records)).getLast? := by
  have htexts := textsOn_eventsFrom (fresh config) records link
  rw [fresh_observedStates] at htexts
  exact StateChain.of_texts htexts

theorem find?_reverse (xs : List α) (p : α → Bool) :
    xs.reverse.find? p = (xs.filter p).getLast? := by
  rw [← List.head?_filter, List.filter_reverse, List.head?_reverse]

theorem getLast?_filter_lastOf {xs : List α} {p : α → Bool} {count : Nat}
    (h : ∃ x ∈ lastOf count xs, p x = true) :
    ((lastOf count xs).filter p).getLast? = (xs.filter p).getLast? := by
  obtain ⟨x, hmem, hp⟩ := h
  have hsplit : xs = xs.take (xs.length - count) ++ lastOf count xs :=
    (List.take_append_drop _ _).symm
  have hne : (lastOf count xs).filter p ≠ [] := List.ne_nil_of_mem (List.mem_filter.2 ⟨hmem, hp⟩)
  conv_rhs => rw [hsplit, List.filter_append, List.getLast?_append_of_ne_nil _ hne]

theorem run_newest (config : RuntimeConfig) (records : List (ParsedRecord × TimePoint))
    (link : LinkId) (limit : UInt64)
    (h : ∃ event ∈ (run config records).transitions.forLink link limit,
      event.kind = .classificationChanged) :
    (((run config records).transitions.forLink link limit).reverse.find? fun event =>
        event.kind == .classificationChanged) =
      (stateEvents link ((eventsFrom (fresh config) records).map
        TransitionEvent.normalize)).getLast? := by
  have hring := TransitionLog.recordAll_perLink config.policy.limits
    (eventsFrom (fresh config) records) link
  have hlog : (run config records).transitions =
      TransitionLog.recordAll { limits := config.policy.limits }
        (eventsFrom (fresh config) records) := run_replays config records
  have hshown : (run config records).transitions.forLink link limit =
      lastOf (min limit.toNat (run config records).transitions.limits.maxResultRows.toNat)
        (lastOf config.policy.limits.maxTransitionsPerLink.toNat
          (((eventsFrom (fresh config) records).map TransitionEvent.normalize).filter fun event =>
            event.link == link)) := by
    rw [← hring, ← hlog]
    exact TransitionLog.newest_eq _ _ _
  rw [lastOf_lastOf] at hshown
  generalize ((eventsFrom (fresh config) records).map TransitionEvent.normalize) = recorded at *
  rw [hshown] at h ⊢
  have hstate : stateEvents link recorded = (recorded.filter fun event => event.link == link).filter
      fun event => event.kind == .classificationChanged := by
    rw [List.filter_filter, stateEvents]
  obtain ⟨event, hmem, hkind⟩ := h
  rw [find?_reverse, hstate]
  exact getLast?_filter_lastOf ⟨event, hmem, by simp [hkind]⟩

theorem stateTexts_length (events : List TransitionEvent) :
    (stateTexts events).length = (events.map TransitionEvent.normalize).countP
      fun event => event.kind == .classificationChanged := by
  rw [stateTexts, List.length_map, List.countP_map, ← List.countP_eq_length_filter]
  apply List.countP_congr
  intro event _
  rw [Function.comp_apply, event.normalize_kept.1]

theorem run_stateChanges (config : RuntimeConfig) (records : List (ParsedRecord × TimePoint)) :
    (run config records).stats.stateChanges =
      UInt64.ofNat (((eventsFrom (fresh config) records).map TransitionEvent.normalize).countP
        fun event => event.kind == .classificationChanged) := by
  have hcount := foldl_stateChanges (fresh config) records
  rw [← stateTexts_length]
  have hzero : (fresh config).stats.stateChanges = 0 := rfl
  rw [hzero, zero_add] at hcount
  exact hcount

theorem classify_lastKnown {σ : Observatory} {newest : TransitionEvent} {state : LinkState}
    (hknown : (σ.registry.links[link]?).isSome)
    (hnewest : ((σ.transitions.forLink link σ.config.policy.limits.maxResultRows).reverse.find?
      fun event => event.kind == .classificationChanged) = some newest)
    (htext : state.toString = newest.toText) (instant : TimePoint) :
    ∃ current, σ.classify link instant = some current ∧ current.hasLastKnown = true ∧
      current.lastKnownState.toString = newest.toText := by
  have hinput : lastKnownState (σ.classificationInput link instant) = some state := by
    have hread : lastKnownState (σ.classificationInput link instant) =
        ((σ.transitions.forLink link σ.config.policy.limits.maxResultRows).reverse.find?
          fun event => event.kind == .classificationChanged).bind
            fun event => parseLinkState event.toText := rfl
    rw [hread, hnewest, Option.bind_some, ← htext, parseLinkState_toString]
  have hfound : (σ.registry.findLink link).isNone = false := by
    obtain ⟨entry, hentry⟩ := Option.isSome_iff_exists.1 hknown
    rw [LinkRegistry.findLink, hentry]
    rfl
  refine ⟨LinkObservatory.classify (σ.classificationInput link instant), ?_, ?_, ?_⟩
  · rw [classify, hfound]
    rfl
  · show (lastKnownState (σ.classificationInput link instant)).isSome = true
    rw [hinput]
    rfl
  · show ((lastKnownState (σ.classificationInput link instant)).getD .unknown).toString = _
    rw [hinput]
    exact htext

/-- Over any run the classification events of every link form a chain that ends in the state its
newest refresh computed, as many of them are recorded as counted, and as long as the queried part of
a link's ring holds one, a classification reports the state of the newest. -/
theorem run_state_chains (config : RuntimeConfig) (records : List (ParsedRecord × TimePoint)) :
    let recorded := (eventsFrom (fresh config) records).map TransitionEvent.normalize
    (∀ link, StateChain (stateEvents link recorded)
      (statesOf link (refreshesFrom (fresh config) records)).getLast?) ∧
    (run config records).stats.stateChanges =
      UInt64.ofNat (recorded.countP fun event => event.kind == .classificationChanged) ∧
    ∀ link instant, (∃ event ∈ (run config records).transitions.forLink link
        config.policy.limits.maxResultRows, event.kind = .classificationChanged) →
      ∃ current newest, (run config records).classify link instant = some current ∧
        (stateEvents link recorded).getLast? = some newest ∧ current.hasLastKnown = true ∧
        current.lastKnownState.toString = newest.toText := by
  intro recorded
  refine ⟨fun link => run_stateChain config records link, run_stateChanges config records, ?_⟩
  intro link instant hshown
  have hnewest := run_newest config records link config.policy.limits.maxResultRows hshown
  have hchain := run_stateChain config records link
  obtain ⟨event, hmem, hkind⟩ := hshown
  cases hlast : (stateEvents link recorded).getLast? with
  | none =>
    rw [hlast] at hnewest
    have hno := List.find?_eq_none.1 hnewest event (List.mem_reverse.2 hmem)
    simp [hkind] at hno
  | some newest =>
    have hstate := hchain.last
    rw [hlast, Option.map_some] at hstate
    obtain ⟨state, hlastState, htext⟩ := Option.map_eq_some_iff.1 hstate.symm
    have hrefreshed : statesOf link (refreshesFrom (fresh config) records) ≠ [] := by
      intro hnil
      rw [hnil] at hlastState
      cases hlastState
    have hknown := refreshesFrom_known (fresh config) records (.inl hrefreshed)
    rw [hlast] at hnewest
    have hlimits := (Reached.run config records).sound.2
    obtain ⟨current, hcurrent, hhas, hread⟩ :=
      classify_lastKnown (σ := run config records) hknown (by rw [hlimits]; exact hnewest) htext
        instant
    exact ⟨current, newest, hcurrent, rfl, hhas, hread⟩

end Observatory

end LinkObservatory
