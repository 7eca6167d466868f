import LinkObservatory.Bounds
import LinkObservatory.Events
import LinkObservatory.Lineage
import LinkObservatory.Winner

namespace LinkObservatory
set_option autoImplicit true

open Std

/-- The two families whose changes count as flaps. -/
inductive Watch
  | oper
  | admin
deriving DecidableEq, Repr

namespace Watch

def key : Watch → MetricKey
  | .oper => kOperKey
  | .admin => kAdminKey

def kind : Watch → TransitionKind
  | .oper => .operStateChanged
  | .admin => .adminStateChanged

def tracker (watch : Watch) (σ : Observatory) : ExtTreeMap LinkId Bytes StrongId.compare :=
  match watch with
  | .oper => σ.lastOperText
  | .admin => σ.lastAdminText

/-- The changes of the family on a link among some events. -/
def changes (watch : Watch) (link : LinkId) (events : List TransitionEvent) :
    List TransitionEvent :=
  events.filter fun event => event.kind == watch.kind && event.link == link

theorem changes_append (watch : Watch) (link : LinkId) (first second : List TransitionEvent) :
    watch.changes link (first ++ second) = watch.changes link first ++ watch.changes link second :=
  List.filter_append ..

theorem changes_nil {watch : Watch} {events : List TransitionEvent}
    (h : ∀ event ∈ events, event.kind ≠ watch.kind ∨ event.link ≠ link) :
    watch.changes link events = [] := by
  rw [changes, List.filter_eq_nil_iff]
  intro event hmem
  rcases h event hmem with hkind | hlink
  · simp [hkind]
  · simp [hlink]

end Watch

/-- The text that a key of a link reports: the value of the winner, if there is one. -/
def reportedText (input : ClassificationInput) (key : MetricKey) : Bytes :=
  match selectWinner (input.store.contenders input.link key input.context) with
  | some winner => formatPayload winner.evidence.observation.payload
  | none => ascii "none"

theorem find?_sorted {keys : List MetricKey} {p : MetricKey → Bool}
    (hsorted : keys.Pairwise fun a b => (MetricKey.compare a b).isLE = true)
    (hmem : key ∈ keys) (hkey : p key = true)
    (hleast : ∀ other, p other = true → (MetricKey.compare key other).isLE = true) :
    keys.find? p = some key := by
  cases hfound : keys.find? p with
  | none =>
    exact absurd hkey (by simpa using List.find?_eq_none.1 hfound key hmem)
  | some first =>
    obtain ⟨hfirst, before, after, rfl, hbefore⟩ := List.find?_eq_some_iff_append.1 hfound
    rcases List.mem_append.1 hmem with hmem | hmem
    · exact absurd hkey (by simpa using hbefore key hmem)
    rcases List.mem_cons.1 hmem with rfl | hlater
    · rfl
    have hle := List.rel_of_pairwise_cons (List.pairwise_append.1 hsorted).2.1 hlater
    exact congrArg some (LawfulEqCmp.eq_of_compare (OrientedCmp.isLE_antisymm hle
      (hleast first hfirst)))

theorem Watch.key_reported (watch : Watch) (store : EvidenceStore) (link : LinkId) :
    watch.key ∈ reportedKeys store link := by
  have hensured (keys : List MetricKey) (extra key : MetricKey) :
      key ∈ (if extra ∈ keys then keys else keys ++ [extra]) ↔ key ∈ keys ∨ key = extra := by
    split
    · rename_i hmem
      constructor
      · exact .inl
      · rintro (hkey | rfl)
        · exact hkey
        · exact hmem
    · rw [List.mem_append, List.mem_singleton]
  unfold reportedKeys
  rw [List.mem_insertionSort, hensured, hensured, hensured]
  cases watch with
  | oper => exact .inl (.inl (.inr rfl))
  | admin => exact .inl (.inr rfl)

theorem Watch.key_least (watch : Watch) (other : MetricKey)
    (h : (other.family == watch.key.family && other.direction == .unknown) = true) :
    (MetricKey.compare watch.key other).isLE = true := by
  obtain ⟨family, direction, errorClass⟩ := other
  simp only [Bool.and_eq_true, beq_iff_eq] at h
  obtain ⟨rfl, rfl⟩ := h
  cases watch <;> cases errorClass <;> decide

theorem trackedText_eq (watch : Watch) (input : ClassificationInput) :
    Observatory.trackedText watch.key.family (classify input) = reportedText input watch.key := by
  have hfound : (classify input).find watch.key.family .unknown =
      some ((evaluateKey input watch.key).report.withRatio
        (ratioOf (octetBaseline ((reportedKeys input.store input.link).map (evaluateKey input)))
          (evaluateKey input watch.key))) := by
    unfold Classification.find classify ratedReports
    simp only [List.map_map, List.find?_map]
    rw [find?_sorted (reportedKeys_sorted _ _) (watch.key_reported _ _)]
    · rfl
    · simp only [Function.comp_apply, (FamilyReport.withRatio_kept _ _).1, evaluateKey_key]
      cases watch <;> rfl
    · intro other hother
      simp only [Function.comp_apply, (FamilyReport.withRatio_kept _ _).1, evaluateKey_key] at hother
      exact watch.key_least other hother
  have htext (report : FamilyReport) (ratio : Option UInt64) :
      (report.withRatio ratio).valueText = report.valueText := by
    cases ratio <;> rfl
  unfold Observatory.trackedText reportedText
  rw [hfound]
  simp only [(FamilyReport.withRatio_kept _ _).2.2.2.1, htext]
  cases hwinner : selectWinner (input.store.contenders input.link watch.key input.context) with
  | none =>
    rw [evaluateKey_none hwinner, (baseReport_plain _ _ _).2.1]
    rfl
  | some winner =>
    have hvalue : (evaluateKey input watch.key).report.valueText =
        formatPayload winner.evidence.observation.payload := by
      unfold evaluateKey
      simp only [hwinner]
      cases isCounterFamily watch.key.family <;> rfl
    rw [(evaluateKey_some hwinner).2.2.1, hvalue]
    rfl

namespace Observatory

/-- What a key of a link reports at an instant. -/
def textOf (σ : Observatory) (link : LinkId) (key : MetricKey) (instant : TimePoint) : Bytes :=
  reportedText (σ.classificationInput link instant) key

theorem textOf_congr {σ τ : Observatory} (hstore : τ.store = σ.store)
    (hregistry : τ.registry = σ.registry) (link : LinkId) (key : MetricKey) (instant : TimePoint) :
    τ.textOf link key instant = σ.textOf link key instant := by
  unfold textOf reportedText classificationInput ClassificationInput.context
  rw [hstore, hregistry]

theorem trackedChange_some
    (h : trackedChange tracker link text kind instant generation = some event) :
    event.kind = kind ∧ event.link = link ∧ event.toText = text ∧
      tracker[link]? = some event.fromText ∧ event.fromText ≠ text := by
  unfold trackedChange at h
  split at h
  · cases h
  · rename_i previous hprevious
    split at h
    · cases h
    · rename_i hne
      cases h
      exact ⟨rfl, rfl, rfl, hprevious, hne⟩

theorem changes_tracked (watch : Watch) (link other : LinkId)
    (tracker : ExtTreeMap LinkId Bytes StrongId.compare) (text : Bytes) (kind : TransitionKind)
    (instant : TimePoint) (generation : GenerationId) :
    watch.changes other (trackedChange tracker link text kind instant generation).toList =
      if kind = watch.kind ∧ link = other then
        (trackedChange tracker link text kind instant generation).toList
      else [] := by
  cases hchange : trackedChange tracker link text kind instant generation with
  | none => simp [Watch.changes]
  | some event =>
    obtain ⟨hkind, hlink, -⟩ := trackedChange_some hchange
    simp only [Watch.changes, Option.toList_some, List.filter_singleton, hkind, hlink,
      Bool.cond_eq_ite, Bool.and_eq_true, beq_iff_eq]

theorem stateChange_kind {σ : Observatory}
    (h : σ.stateChange link instant current = some event) : event.kind = .classificationChanged := by
  unfold stateChange at h
  simp only at h
  split at h
  · cases h
    rfl
  · split at h
    · cases h
      rfl
    · cases h

/-- A step that looks at a link again: it writes what the family reports, and records a change if
the tracker held something else. -/
structure Refreshed (watch : Watch) (σ σ' : Observatory) (link : LinkId) (instant : TimePoint)
    (events : List TransitionEvent) : Prop where
  changes : ∃ generation, watch.changes link events =
    (trackedChange (watch.tracker σ) link (σ'.textOf link watch.key instant) watch.kind instant
      generation).toList
  others : ∀ other, link ≠ other → watch.changes other events = []
  tracker : watch.tracker σ' = (watch.tracker σ).insert link (σ'.textOf link watch.key instant)

/-- A step that looks at no link. -/
structure Unwatched (watch : Watch) (σ σ' : Observatory) (events : List TransitionEvent) : Prop where
  changes : ∀ link, watch.changes link events = []
  tracker : watch.tracker σ' = watch.tracker σ

theorem refreshClassification_refreshed (watch : Watch) (σ : Observatory) (link : LinkId)
    (instant : TimePoint) :
    Refreshed watch σ (σ.refreshClassification link instant) link instant
      (σ.refreshEvents link instant) := by
  have hrecords := σ.refreshClassification_recordsOnly link instant
  have htext := textOf_congr hrecords.store hrecords.registry link watch.key instant
  have hcurrent : trackedText watch.key.family
      (LinkObservatory.classify (σ.classificationInput link instant)) =
        σ.textOf link watch.key instant := trackedText_eq watch _
  obtain ⟨-, hoper, hadmin⟩ := σ.refreshClassification_events link instant
  have hchanges (other : LinkId) : watch.changes other (σ.refreshEvents link instant) =
      if link = other then
        (trackedChange (watch.tracker σ) link (σ.textOf link watch.key instant) watch.kind instant
          (LinkObservatory.classify (σ.classificationInput link instant)).generation).toList
      else [] := by
    have hstate : watch.changes other (σ.stateChange link instant
        (LinkObservatory.classify (σ.classificationInput link instant))).toList = [] := by
      apply Watch.changes_nil
      intro event hmem
      rw [stateChange_kind (Option.mem_toList.1 hmem)]
      left
      cases watch <;> decide
    unfold refreshEvents
    simp only
    rw [Watch.changes_append, Watch.changes_append, hstate, changes_tracked, changes_tracked,
      ← hcurrent]
    cases watch with
    | oper => simp [Watch.kind, Watch.key, Watch.tracker, kOperKey]
    | admin => simp [Watch.kind, Watch.key, Watch.tracker, kAdminKey]
  constructor
  · rw [hchanges, if_pos rfl, htext]
    exact ⟨_, rfl⟩
  · intro other hne
    rw [hchanges, if_neg hne]
  · rw [htext, ← hcurrent]
    cases watch with
    | oper => exact hoper
    | admin => exact hadmin

theorem Refreshed.prepend {watch : Watch} {σ σ₁ σ' : Observatory}
    (h : Refreshed watch σ₁ σ' link instant events)
    (htracker : watch.tracker σ₁ = watch.tracker σ)
    (hbefore : ∀ event ∈ before, event.kind ≠ watch.kind) :
    Refreshed watch σ σ' link instant (before ++ events) := by
  have hnone (other : LinkId) : watch.changes other (before ++ events) =
      watch.changes other events := by
    rw [Watch.changes_append, Watch.changes_nil, List.nil_append]
    intro event hmem
    exact .inl (hbefore event hmem)
  obtain ⟨generation, hchanges⟩ := h.changes
  constructor
  · exact ⟨generation, by rw [hnone, hchanges, htracker]⟩
  · intro other hne
    rw [hnone]
    exact h.others other hne
  · rw [h.tracker, htracker]

/-- How an observation is watched: an accepted one ends with a refresh of its link. -/
def WatchedStep (watch : Watch) (σ σ' : Observatory) (observation : Observation)
    (outcome : AcceptOutcome) (instant : TimePoint) (events : List TransitionEvent) : Prop :=
  (outcome.accepted = true ∧ Refreshed watch σ σ' observation.link instant events) ∨
    (outcome.accepted = false ∧ Unwatched watch σ σ' events)

theorem outcomeEvents_kind (watch : Watch) (h : event ∈ outcomeEvents observation outcome instant) :
    event.kind ≠ watch.kind := by
  unfold outcomeEvents at h
  cases outcome.discontinuity <;> cases outcome.revisionGap <;> cases watch <;>
    simp [Watch.kind] at h ⊢ <;> grind

theorem recorded_tracker (watch : Watch) (σ : Observatory) (observation : Observation)
    (source : SourceRecord) (instant : TimePoint) :
    watch.tracker (σ.recorded observation source instant) = watch.tracker σ := by
  cases watch with
  | oper => exact (recordOutcome_trackers _ _ _ _).1
  | admin => exact (recordOutcome_trackers _ _ _ _).2

theorem applyKnown_watched (watch : Watch) (σ : Observatory) (observation : Observation)
    (source : SourceRecord) (instant : TimePoint) :
    WatchedStep watch σ (σ.applyKnown observation source instant).1 observation
      (σ.applyKnown observation source instant).2 instant
      (σ.knownEvents observation source instant) := by
  have houtcome : (σ.applyKnown observation source instant).2 =
      (σ.acceptInto observation (some source) true instant).2 := by
    unfold applyKnown
    simp only
    split <;> rfl
  cases haccepted : (σ.applyKnown observation source instant).2.accepted with
  | true =>
    refine .inl ⟨haccepted, ?_⟩
    rw [applyKnown_eq _ _ _ _ haccepted]
    unfold knownEvents
    rw [houtcome] at haccepted
    simp only [haccepted, Bool.not_true, Bool.false_eq_true, ↓reduceIte]
    apply (refreshClassification_refreshed watch _ _ _).prepend (recorded_tracker watch _ _ _ _)
    intro event hmem
    exact outcomeEvents_kind watch hmem
  | false =>
    refine .inr ⟨haccepted, ?_⟩
    rw [houtcome] at haccepted
    unfold applyKnown knownEvents
    simp only [haccepted, Bool.not_false, ↓reduceIte]
    constructor
    · intro link
      rfl
    · cases watch <;> rfl

theorem observed_tracker (watch : Watch) (σ : Observatory) (observation : Observation)
    (instant : TimePoint) : watch.tracker (σ.observed observation instant) = watch.tracker σ := by
  unfold observed
  simp only
  split
  · cases watch <;> rfl
  · cases watch <;> rfl

theorem applyGeneration_watched (watch : Watch) (σ : Observatory) (observation : Observation)
    (source : SourceRecord) (instant : TimePoint) :
    WatchedStep watch σ (σ.applyGeneration observation source instant).1 observation
      (σ.applyGeneration observation source instant).2 instant
      (σ.generationEvents observation source instant) := by
  have happly : σ.applyGeneration observation source instant =
      if (σ.registry.observeGeneration observation.link
          observation.provenance.generation).2.behind then
        σ.applyGeneration observation source instant
      else (σ.observed observation instant).applyKnown observation source instant := by
    split
    · rfl
    · rename_i hcurrent
      unfold applyGeneration observed
      simp only [hcurrent, ↓reduceIte, Bool.false_eq_true]
      split <;> rfl
  cases hbehind : (σ.registry.observeGeneration observation.link
      observation.provenance.generation).2.behind with
  | true =>
    unfold applyGeneration generationEvents
    simp only [hbehind, ↓reduceIte]
    refine .inr ⟨rfl, ?_, ?_⟩
    · intro link
      rfl
    · cases watch <;> rfl
  | false =>
    rw [happly]
    unfold generationEvents
    simp only [hbehind, Bool.false_eq_true, ↓reduceIte]
    have hbefore : ∀ event ∈ (if (σ.registry.observeGeneration observation.link
        observation.provenance.generation).2.changed then [generationEvent observation
          (σ.registry.observeGeneration observation.link observation.provenance.generation).2
          instant] else []), event.kind ≠ watch.kind := by
      intro event hmem
      split at hmem
      · rw [List.mem_singleton.1 hmem]
        show TransitionKind.generationChanged ≠ watch.kind
        cases watch <;> decide
      · cases hmem
    have htracker := observed_tracker watch σ observation instant
    rcases applyKnown_watched watch (σ.observed observation instant) observation source instant with
      ⟨haccepted, hrefreshed⟩ | ⟨hrefused, hunwatched⟩
    · exact .inl ⟨haccepted, hrefreshed.prepend htracker hbefore⟩
    · refine .inr ⟨hrefused, ?_, hunwatched.tracker.trans htracker⟩
      intro link
      rw [Watch.changes_append, hunwatched.changes, Watch.changes_nil]
      · rfl
      · intro event hmem
        exact .inl (hbefore event hmem)

theorem refuse_watched (watch : Watch) (σ : Observatory) (observation : Observation)
    (source : Option SourceRecord) (enabled : Bool) (instant : TimePoint)
    (hno : ∀ record, source = some record → record.retired = true ∨ enabled = false) :
    WatchedStep watch σ
      (if !(σ.acceptInto observation source enabled instant).2.accepted then
        (σ.acceptInto observation source enabled instant).1.countFenced
      else (σ.acceptInto observation source enabled instant).1) observation
      (σ.acceptInto observation source enabled instant).2 instant [] := by
  right
  constructor
  · let context : AcceptContext :=
      { source := source
        currentGeneration := σ.registry.currentGeneration observation.link
        familyEnabled := enabled }
    rcases σ.store.accept_slots observation context instant with
      ⟨hrefused, -⟩ | ⟨-, record, _, hadmission, -⟩
    · exact hrefused
    · have hrefused : σ.store.admission observation context ≠ .ok record :=
        EvidenceStore.admission_refused hno rfl
      exact absurd hadmission hrefused
  · constructor
    · intro link
      rfl
    · split <;> cases watch <;> rfl

theorem applyObservation_watched (watch : Watch) (σ : Observatory) (observation : Observation)
    (instant : TimePoint) :
    WatchedStep watch σ (σ.applyObservation observation instant).1 observation
      (σ.applyObservation observation instant).2 instant
      (σ.observationEvents observation instant) := by
  have hcounted (σ σ₁ σ' : Observatory) (outcome : AcceptOutcome) (events : List TransitionEvent)
      (htracker : watch.tracker σ₁ = watch.tracker σ)
      (h : WatchedStep watch σ₁ σ' observation outcome instant events) :
      WatchedStep watch σ σ' observation outcome instant events := by
    rcases h with ⟨haccepted, hrefreshed⟩ | ⟨hrefused, hunwatched⟩
    · refine .inl ⟨haccepted, ?_⟩
      exact hrefreshed.prepend htracker (fun _ hmem => (List.not_mem_nil hmem).elim)
    · exact .inr ⟨hrefused, hunwatched.changes, hunwatched.tracker.trans htracker⟩
  apply hcounted σ { σ with stats.recordsSubmitted := σ.stats.recordsSubmitted + 1 }
  · cases watch <;> rfl
  unfold applyObservation observationEvents
  simp only
  cases σ.registry.findSource observation.provenance.source with
  | none =>
    apply refuse_watched
    intro record hrecord
    cases hrecord
  | some source =>
    simp only
    by_cases hretired : source.retired = true
    · simp only [hretired, ↓reduceIte]
      apply refuse_watched
      intro record hrecord
      cases hrecord
      exact .inl hretired
    cases henabled : σ.config.families.isEnabled observation.key.family with
    | false =>
      simp only [hretired, Bool.not_false, ↓reduceIte, Bool.false_eq_true]
      apply refuse_watched
      intro record hrecord
      exact .inr rfl
    | true =>
      simp only [hretired, Bool.not_true, ↓reduceIte, Bool.false_eq_true]
      by_cases hlink : (σ.registry.findLink observation.link).isNone = true
      · simp only [hlink, ↓reduceIte]
        split
        · refine .inr ⟨rfl, ?_, ?_⟩
          · intro link
            rfl
          · cases watch <;> rfl
        · apply hcounted _ _ _ _ _ _ (applyGeneration_watched watch _ observation source instant)
          cases watch <;> rfl
      · simp only [hlink, ↓reduceIte, Bool.false_eq_true]
        exact applyGeneration_watched watch _ observation source instant

/-- The events of a declared link. -/
theorem mem_linkEvents {σ : Observatory} (h : event ∈ σ.linkEvents declaration instant) :
    event.link = (makeLinkFacts declaration).id ∧
      (event.kind = .linkRegistered ∨ event.kind = .generationChanged) := by
  unfold linkEvents at h
  simp only at h
  split at h
  · cases h
  rcases List.mem_append.1 h with h | h
  · split at h
    · rw [List.mem_singleton.1 h]
      exact ⟨rfl, .inl rfl⟩
    · cases h
  · split at h
    · rw [List.mem_singleton.1 h]
      exact ⟨rfl, .inr rfl⟩
    · cases h

theorem applyRecord_watched (watch : Watch) (σ : Observatory) (record : ParsedRecord)
    (instant : TimePoint) :
    (∃ declaration, record = .observation declaration ∧
      (σ.applyObservation (makeObservation declaration) instant).2.accepted = true ∧
      Refreshed watch σ (σ.applyRecord record instant).1 (makeObservation declaration).link instant
        (σ.eventsOf record instant)) ∨
    ((∀ decision ∈ σ.decisionsOf record instant, decision.2.accepted = false) ∧
      Unwatched watch σ (σ.applyRecord record instant).1 (σ.eventsOf record instant)) := by
  cases record with
  | none =>
    refine .inr ⟨fun _ hmem => (List.not_mem_nil hmem).elim, ?_, rfl⟩
    intro link
    rfl
  | source declaration =>
    refine .inr ⟨fun _ hmem => (List.not_mem_nil hmem).elim, ?_, ?_⟩
    · intro link
      rfl
    · unfold applyRecord applySource
      simp only
      split
      · cases watch <;> rfl
      · split <;> split <;> cases watch <;> rfl
  | link declaration =>
    refine .inr ⟨fun _ hmem => (List.not_mem_nil hmem).elim, ?_, ?_⟩
    · intro link
      apply Watch.changes_nil
      intro event hmem
      left
      rcases (mem_linkEvents hmem).2 with hkind | hkind
      · rw [hkind]
        cases watch <;> decide
      · rw [hkind]
        cases watch <;> decide
    · unfold applyRecord applyLink
      simp only
      split
      · cases watch <;> rfl
      · split
        · split <;> cases watch <;> rfl
        · split <;> cases watch <;> rfl
  | observation declaration =>
    rcases σ.applyObservation_watched watch (makeObservation declaration) instant with
      ⟨haccepted, hrefreshed⟩ | ⟨hrefused, hunwatched⟩
    · exact .inl ⟨declaration, rfl, haccepted, hrefreshed⟩
    · refine .inr ⟨?_, hunwatched⟩
      intro decision hmem
      rw [List.mem_singleton.1 hmem]
      exact hrefused

end Observatory

end LinkObservatory
