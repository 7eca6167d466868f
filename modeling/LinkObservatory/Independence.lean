import LinkObservatory.Locality
import LinkObservatory.Lib.Interchange

namespace LinkObservatory
set_option autoImplicit true

open Std OrderedMap

namespace TransitionLog

/-- Records an event of a link, or nothing. -/
def recordOn (log : TransitionLog) (link : LinkId) : Option TransitionEvent → TransitionLog
  | some event => log.record { event with link := link }
  | none => log

/-- Two logs that hold the same rings of links; the global rings are equally long. -/
structure SameRings (log log' : TransitionLog) : Prop where
  limits : log'.limits = log.limits
  perLink : log'.perLink = log.perLink
  globalLength : log'.global.length = log.global.length
  totalRecords : log'.totalRecords = log.totalRecords
  dropped : log'.dropped = log.dropped

theorem SameRings.refl (log : TransitionLog) : SameRings log log := ⟨rfl, rfl, rfl, rfl, rfl⟩

theorem SameRings.symm (h : SameRings log log') : SameRings log' log :=
  ⟨h.limits.symm, h.perLink.symm, h.globalLength.symm, h.totalRecords.symm, h.dropped.symm⟩

theorem SameRings.trans (h : SameRings log log') (h' : SameRings log' log'') :
    SameRings log log'' :=
  ⟨h'.limits.trans h.limits, h'.perLink.trans h.perLink, h'.globalLength.trans h.globalLength,
    h'.totalRecords.trans h.totalRecords, h'.dropped.trans h.dropped⟩

theorem SameRings.recordOn (h : SameRings log log') (link : LinkId)
    (event : Option TransitionEvent) :
    SameRings (log.recordOn link event) (log'.recordOn link event) := by
  cases event with
  | none => exact h
  | some event =>
    constructor
    · exact h.limits
    · simp only [TransitionLog.recordOn, record, h.limits, h.perLink]
    · simp only [TransitionLog.recordOn, record, h.limits, Ring.push, Ring.evict_length,
        List.length_append, h.globalLength]
    · simp only [TransitionLog.recordOn, record, h.totalRecords]
    · simp only [TransitionLog.recordOn, record, h.limits, h.perLink, h.globalLength, h.dropped]

theorem recordOn_comm (hlink : link ≠ link') (log : TransitionLog)
    (event event' : Option TransitionEvent) :
    SameRings ((log.recordOn link event).recordOn link' event')
      ((log.recordOn link' event').recordOn link event) := by
  cases event with
  | none => exact .refl _
  | some event =>
    cases event' with
    | none => exact .refl _
    | some event' =>
      have hevent : ({ event with link := link } : TransitionEvent).normalize.link = link := rfl
      have hevent' : ({ event' with link := link' } : TransitionEvent).normalize.link = link' := rfl
      simp only [recordOn, record]
      generalize ({ event with link := link } : TransitionEvent).normalize = normal at *
      generalize ({ event' with link := link' } : TransitionEvent).normalize = normal' at *
      subst hevent hevent'
      constructor
      · rfl
      · simp only
        rw [getD_insert_of_ne _ hlink, getD_insert_of_ne _ hlink.symm]
        exact put_comm _ hlink.symm (some _) (some _)
      · simp only [Ring.push, Ring.evict_length, List.length_append, List.length_singleton]
      · rfl
      · simp only [Ring.push, Ring.evict_length, List.length_append, List.length_singleton]
        rw [getD_insert_of_ne _ hlink, getD_insert_of_ne _ hlink.symm]
        ac_rfl

end TransitionLog

/-- Adds up what two stretches of work counted. -/
def RuntimeStatistics.plus (stats counted : RuntimeStatistics) : RuntimeStatistics :=
  { recordsSubmitted := stats.recordsSubmitted + counted.recordsSubmitted
    recordsAccepted := stats.recordsAccepted + counted.recordsAccepted
    recordsFenced := stats.recordsFenced + counted.recordsFenced
    declarationsApplied := stats.declarationsApplied + counted.declarationsApplied
    declarationsRejected := stats.declarationsRejected + counted.declarationsRejected
    batchesProcessed := stats.batchesProcessed + counted.batchesProcessed
    transitionsRecorded := stats.transitionsRecorded + counted.transitionsRecorded
    classifications := stats.classifications + counted.classifications
    stateChanges := stats.stateChanges + counted.stateChanges
    snapshotReads := stats.snapshotReads + counted.snapshotReads
    recoveries := stats.recoveries + counted.recoveries }

theorem RuntimeStatistics.plus_zero (stats : RuntimeStatistics) : stats.plus {} = stats := by
  simp [RuntimeStatistics.plus]

theorem RuntimeStatistics.plus_right_comm (stats counted counted' : RuntimeStatistics) :
    (stats.plus counted).plus counted' = (stats.plus counted').plus counted := by
  simp only [RuntimeStatistics.plus, RuntimeStatistics.mk.injEq]
  refine ⟨?_, ?_, ?_, ?_, ?_, ?_, ?_, ?_, ?_, ?_, ?_⟩
  all_goals exact add_right_comm ..

/-- What one stage of the handling of an observation writes: the record of its link, the slot and
the stream of the observation, the trackers of the link, an event, and the counters. -/
structure Effect where
  store : StoreEffect := {}
  link : Option LinkRecord := none
  event : Option TransitionEvent := none
  state : Option LinkState := none
  operText : Option Bytes := none
  adminText : Option Bytes := none
  fence : Option FenceReason := none
  counted : RuntimeStatistics := {}

namespace Effect

def apply (effect : Effect) (observation : Observation) (σ : Observatory) : Observatory :=
  { σ with
    registry := { σ.registry with links := put σ.registry.links observation.link effect.link }
    store := effect.store.apply observation σ.store
    transitions := σ.transitions.recordOn observation.link effect.event
    observedStates := put σ.observedStates observation.link effect.state
    lastOperText := put σ.lastOperText observation.link effect.operText
    lastAdminText := put σ.lastAdminText observation.link effect.adminText
    ownFenceCounts := bump σ.ownFenceCounts effect.fence
    stats := σ.stats.plus effect.counted }

def run (observation : Observation) (effects : List Effect) (σ : Observatory) : Observatory :=
  effects.foldl (fun σ effect => effect.apply observation σ) σ

end Effect

/-- Two states that differ at most in the order of the events in the global ring. -/
structure Observatory.SameButOrder (σ τ : Observatory) : Prop where
  rest : τ = { σ with transitions := τ.transitions }
  rings : σ.transitions.SameRings τ.transitions

theorem Observatory.SameButOrder.equivalence : Equivalence SameButOrder where
  refl σ := ⟨rfl, .refl _⟩
  symm h := by
    refine ⟨?_, h.rings.symm⟩
    rw [h.rest]
  trans h h' := by
    refine ⟨?_, h.rings.trans h'.rings⟩
    rw [h'.rest, h.rest]

theorem Effect.apply_respects (observation : Observation) (σ τ : Observatory) (effect : Effect)
    (h : σ.SameButOrder τ) :
    (effect.apply observation σ).SameButOrder (effect.apply observation τ) := by
  refine ⟨?_, h.rings.recordOn _ _⟩
  rw [h.rest]
  rfl

theorem Effect.apply_comm {a b : Observation} (hlink : a.link ≠ b.link)
    (hsource : a.provenance.source ≠ b.provenance.source) (σ : Observatory)
    (effect effect' : Effect) :
    (effect'.apply b (effect.apply a σ)).SameButOrder
      (effect.apply a (effect'.apply b σ)) := by
  refine ⟨?_, TransitionLog.recordOn_comm hlink _ _ _⟩
  simp only [Effect.apply, Observatory.mk.injEq, LinkRegistry.mk.injEq, true_and, and_true]
  exact ⟨put_comm _ hlink.symm _ _, StoreEffect.apply_comm _ _ hlink.symm hsource.symm _,
    put_comm _ hlink.symm _ _, put_comm _ hlink.symm _ _, put_comm _ hlink.symm _ _,
    bump_comm _ _ _, RuntimeStatistics.plus_right_comm _ _ _⟩

theorem Effect.run_comm {a b : Observation} (hlink : a.link ≠ b.link)
    (hsource : a.provenance.source ≠ b.provenance.source) (σ : Observatory)
    (first second : List Effect) :
    (Effect.run b second (Effect.run a first σ)).SameButOrder
      (Effect.run a first (Effect.run b second σ)) :=
  Interchange.foldl_comm Observatory.SameButOrder.equivalence (Effect.apply_respects a)
    (Effect.apply_respects b) (Effect.apply_comm hlink hsource) σ first second

theorem EvidenceStore.accept_evidence {store : EvidenceStore} {slotKey : SlotKey}
    (hslot : (store.accept observation context now).1.slots[slotKey]? = some slot)
    (hmem : evidence ∈ slot.history) :
    evidence.source = observation.provenance.source ∨
      ∃ before, store.slots[slotKey]? = some before ∧ evidence ∈ before.history := by
  rcases store.accept_slots observation context now with
    ⟨-, hsame⟩ | ⟨-, source, written, -, -, hslots, hrecords⟩
  · rw [hsame] at hslot
    exact .inr ⟨slot, hslot, hmem⟩
  rw [hslots, lookup_insert] at hslot
  split at hslot
  · rename_i heq
    cases hslot
    rw [hrecords.history] at hmem
    rcases Ring.mem_of_mem_push hmem with hold | rfl
    · unfold EvidenceStore.slotFor at hold
      rw [ExtTreeMap.getD_eq_getD_getElem?, heq] at hold
      cases hbefore : store.slots[slotKey]? with
      | none =>
        rw [hbefore] at hold
        cases hold
      | some before =>
        rw [hbefore] at hold
        exact .inr ⟨before, rfl, hold⟩
    · exact .inl rfl
  · exact .inr ⟨slot, hslot, hmem⟩

namespace Observatory

/-- Two states that look the same to the handling of an observation of a registered link. -/
structure Alike (observation : Observation) (σ τ : Observatory) : Prop where
  config : τ.config = σ.config
  link : ∃ state, σ.registry.links[observation.link]? = some state ∧
    τ.registry.links[observation.link]? = some state
  source : τ.registry.sources[observation.provenance.source]? =
    σ.registry.sources[observation.provenance.source]?
  store : EvidenceStore.Alike observation σ.store τ.store
  slots : EvidenceStore.SameFor observation.link σ.store τ.store
  limits : τ.transitions.limits = σ.transitions.limits
  ring : τ.transitions.perLink[observation.link]? = σ.transitions.perLink[observation.link]?
  state : τ.observedStates[observation.link]? = σ.observedStates[observation.link]?
  operText : τ.lastOperText[observation.link]? = σ.lastOperText[observation.link]?
  adminText : τ.lastAdminText[observation.link]? = σ.lastAdminText[observation.link]?

theorem recordOn_ring {log log' : TransitionLog} {link : LinkId}
    (hlimits : log'.limits = log.limits) (hring : log'.perLink[link]? = log.perLink[link]?)
    (event : Option TransitionEvent) :
    (log'.recordOn link event).perLink[link]? = (log.recordOn link event).perLink[link]? := by
  cases event with
  | none => exact hring
  | some event =>
    have hlink : ({ event with link := link } : TransitionEvent).normalize.link = link := rfl
    simp only [TransitionLog.recordOn, TransitionLog.record, hlimits]
    generalize ({ event with link := link } : TransitionEvent).normalize = normal at *
    subst hlink
    rw [ExtTreeMap.getElem?_insert_self, ExtTreeMap.getElem?_insert_self,
      ExtTreeMap.getD_eq_getD_getElem?, ExtTreeMap.getD_eq_getD_getElem?, hring]

theorem recordOn_limits (log : TransitionLog) (link : LinkId) (event : Option TransitionEvent) :
    (log.recordOn link event).limits = log.limits := by
  cases event <;> rfl

theorem Alike.quiet {σ τ : Observatory} (h : Alike observation σ τ) {effect : Effect}
    (hstore : effect.store = {}) :
    Alike observation (effect.apply observation σ) (effect.apply observation τ) where
  config := h.config
  link := by
    obtain ⟨state, hσ, hτ⟩ := h.link
    refine ⟨effect.link.getD state, ?_, ?_⟩
    · simp only [Effect.apply, lookup_put_self, hσ]
      cases effect.link <;> rfl
    · simp only [Effect.apply, lookup_put_self, hτ]
      cases effect.link <;> rfl
  source := h.source
  store := by
    simp only [Effect.apply, hstore, StoreEffect.apply_none]
    exact h.store
  slots := by
    simp only [Effect.apply, hstore, StoreEffect.apply_none]
    exact h.slots
  limits := by
    simp only [Effect.apply, recordOn_limits, h.limits]
  ring := recordOn_ring h.limits h.ring _
  state := by simp only [Effect.apply, lookup_put_self, h.state]
  operText := by simp only [Effect.apply, lookup_put_self, h.operText]
  adminText := by simp only [Effect.apply, lookup_put_self, h.adminText]

/-- Two states are handled by the same effects and end alike. -/
structure Together (observation : Observation) (σ τ σ' τ' : Observatory) : Prop where
  alike : Alike observation σ' τ'
  effects : ∃ effects, σ' = Effect.run observation effects σ ∧
    τ' = Effect.run observation effects τ

theorem Together.refl {σ τ : Observatory} (h : Alike observation σ τ) :
    Together observation σ τ σ τ := ⟨h, [], rfl, rfl⟩

theorem Together.trans {σ τ σ' τ' σ'' τ'' : Observatory} (h : Together observation σ τ σ' τ')
    (h' : Together observation σ' τ' σ'' τ'') : Together observation σ τ σ'' τ'' := by
  obtain ⟨effects, hσ, hτ⟩ := h.effects
  obtain ⟨effects', hσ', hτ'⟩ := h'.effects
  refine ⟨h'.alike, effects ++ effects', ?_, ?_⟩
  · rw [hσ', hσ, Effect.run, Effect.run, Effect.run, List.foldl_append]
  · rw [hτ', hτ, Effect.run, Effect.run, Effect.run, List.foldl_append]

theorem Together.quiet {σ τ σ' τ' : Observatory} (h : Alike observation σ τ) (effect : Effect)
    (hstore : effect.store = {}) (hσ : σ' = effect.apply observation σ)
    (hτ : τ' = effect.apply observation τ) : Together observation σ τ σ' τ' := by
  subst hσ hτ
  exact ⟨h.quiet hstore, [effect], rfl, rfl⟩

theorem recordTransition_effect (σ : Observatory) (observation : Observation)
    (event : TransitionEvent) :
    σ.recordTransition { event with link := observation.link } =
      Effect.apply { event := some event, counted := { transitionsRecorded := 1 } } observation
        σ := by
  simp [recordTransition, Effect.apply, StoreEffect.apply_none, put, bump, TransitionLog.recordOn,
    RuntimeStatistics.plus]

theorem count_effect (σ : Observatory) (observation : Observation) (counted : RuntimeStatistics) :
    { σ with stats := σ.stats.plus counted } =
      Effect.apply { counted := counted } observation σ := by
  simp [Effect.apply, StoreEffect.apply_none, put, bump, TransitionLog.recordOn]

theorem setLink_effect (σ : Observatory) (observation : Observation) (link : LinkRecord) :
    { σ with registry :=
      { σ.registry with links := σ.registry.links.insert observation.link link } } =
      Effect.apply { link := some link } observation σ := by
  simp [Effect.apply, StoreEffect.apply_none, put, bump, TransitionLog.recordOn,
    RuntimeStatistics.plus_zero]

section

variable {observation : Observation} {σ τ : Observatory} (h : Alike observation σ τ)

include h

theorem Alike.recordTransition (event : TransitionEvent) (hlink : event.link = observation.link) :
    Together observation σ τ (σ.recordTransition event) (τ.recordTransition event) := by
  have hevent : event = { event with link := observation.link } := by rw [← hlink]
  rw [hevent]
  exact .quiet h _ rfl (recordTransition_effect σ observation event)
    (recordTransition_effect τ observation event)

theorem Alike.count (counted : RuntimeStatistics) :
    Together observation σ τ { σ with stats := σ.stats.plus counted }
      { τ with stats := τ.stats.plus counted } :=
  .quiet h _ rfl (count_effect σ observation counted) (count_effect τ observation counted)

theorem Alike.countFenced : Together observation σ τ σ.countFenced τ.countFenced := by
  have hcount := h.count { recordsFenced := 1 }
  simp only [RuntimeStatistics.plus, UInt64.add_zero] at hcount
  exact hcount

theorem Alike.countOwnFence (reason : FenceReason) :
    Together observation σ τ (σ.countOwnFence reason) (τ.countOwnFence reason) := by
  apply Together.quiet h { fence := some reason } rfl
  · simp [Observatory.countOwnFence, Effect.apply, StoreEffect.apply_none, put, bump,
      TransitionLog.recordOn, RuntimeStatistics.plus_zero]
  · simp [Observatory.countOwnFence, Effect.apply, StoreEffect.apply_none, put, bump,
      TransitionLog.recordOn, RuntimeStatistics.plus_zero]

theorem Alike.updateEntry (update : LinkEntry → LinkEntry) :
    Together observation σ τ
      { σ with registry := σ.registry.updateEntry observation.link update }
      { τ with registry := τ.registry.updateEntry observation.link update } := by
  obtain ⟨state, hσ, hτ⟩ := h.link
  simp only [LinkRegistry.updateEntry, hσ, hτ]
  exact .quiet h _ rfl (setLink_effect σ observation _) (setLink_effect τ observation _)

theorem Alike.noteAccepted (observedAt acceptedAt : TimePoint) :
    Together observation σ τ
      { σ with registry := σ.registry.noteAccepted observation.link observedAt acceptedAt }
      { τ with registry := τ.registry.noteAccepted observation.link observedAt acceptedAt } :=
  h.updateEntry _

theorem Alike.observeGeneration (generation : GenerationId) :
    Together observation σ τ
      { σ with registry := (σ.registry.observeGeneration observation.link generation).1 }
      { τ with registry := (τ.registry.observeGeneration observation.link generation).1 } ∧
    (τ.registry.observeGeneration observation.link generation).2 =
      (σ.registry.observeGeneration observation.link generation).2 := by
  obtain ⟨state, hσ, hτ⟩ := h.link
  simp only [LinkRegistry.observeGeneration, hσ, hτ, and_true]
  exact .quiet h _ rfl (setLink_effect σ observation _) (setLink_effect τ observation _)

theorem Alike.trackState (instant : TimePoint) (current current' : Classification)
    (hstate : current'.state = current.state) (hgeneration : current'.generation = current.generation) :
    Together observation σ τ (σ.trackState observation.link instant current)
      (τ.trackState observation.link instant current') := by
  have hchanged (previous : Bytes) : Together observation σ τ
      { σ.recordTransition
          { link := observation.link, kind := .classificationChanged, at_ := instant
            generation := current.generation, fromText := previous
            toText := current.state.toString } with
        observedStates := σ.observedStates.insert observation.link current.state
        stats.stateChanges := σ.stats.stateChanges + 1 }
      { τ.recordTransition
          { link := observation.link, kind := .classificationChanged, at_ := instant
            generation := current.generation, fromText := previous
            toText := current.state.toString } with
        observedStates := τ.observedStates.insert observation.link current.state
        stats.stateChanges := τ.stats.stateChanges + 1 } := by
    apply Together.quiet h
      { event := some
          { kind := .classificationChanged, at_ := instant, generation := current.generation
            fromText := previous, toText := current.state.toString }
        state := some current.state
        counted := { transitionsRecorded := 1, stateChanges := 1 } } rfl
    · simp [Observatory.recordTransition, Effect.apply, StoreEffect.apply_none, put, bump,
        TransitionLog.recordOn, RuntimeStatistics.plus]
    · simp [Observatory.recordTransition, Effect.apply, StoreEffect.apply_none, put, bump,
        TransitionLog.recordOn, RuntimeStatistics.plus]
  unfold Observatory.trackState
  simp only [h.state, hstate, hgeneration]
  cases σ.observedStates[observation.link]? with
  | none => exact hchanged _
  | some previous =>
    simp only
    split
    · exact hchanged _
    · exact .refl h

theorem trackedChange_alike {tracker tracker' : ExtTreeMap LinkId Bytes StrongId.compare}
    (htracker : tracker'[observation.link]? = tracker[observation.link]?) (text : Bytes)
    (kind : TransitionKind) (instant : TimePoint) (generation : GenerationId) :
    trackedChange tracker' observation.link text kind instant generation =
        trackedChange tracker observation.link text kind instant generation ∧
      ∀ event, trackedChange tracker observation.link text kind instant generation = some event →
        Together observation σ τ (σ.recordTransition event) (τ.recordTransition event) := by
  unfold trackedChange
  rw [htracker]
  refine ⟨rfl, ?_⟩
  intro event hevent
  apply h.recordTransition
  split at hevent
  · cases hevent
  · split at hevent
    · cases hevent
    · cases hevent
      rfl

theorem Alike.trackOper (instant : TimePoint) (current current' : Classification)
    (htext : trackedText .operState current' = trackedText .operState current)
    (hgeneration : current'.generation = current.generation) :
    Together observation σ τ (σ.trackOper observation.link instant current)
      (τ.trackOper observation.link instant current') := by
  have hset {σ' τ' : Observatory} (htogether : Together observation σ τ σ' τ')
      (hσ : σ'.lastOperText = σ.lastOperText) (hτ : τ'.lastOperText = τ.lastOperText)
      (text : Bytes) : Together observation σ τ
        { σ' with lastOperText := σ.lastOperText.insert observation.link text }
        { τ' with lastOperText := τ.lastOperText.insert observation.link text } := by
    rw [← hσ, ← hτ]
    apply htogether.trans
    apply Together.quiet htogether.alike { operText := some text } rfl
    · simp [Effect.apply, StoreEffect.apply_none, put, bump, TransitionLog.recordOn,
        RuntimeStatistics.plus_zero]
    · simp [Effect.apply, StoreEffect.apply_none, put, bump, TransitionLog.recordOn,
        RuntimeStatistics.plus_zero]
  obtain ⟨hsame, hrecorded⟩ := trackedChange_alike h h.operText (trackedText .operState current)
    .operStateChanged instant current.generation
  unfold Observatory.trackOper
  simp only [htext, hgeneration, hsame]
  cases hchange : trackedChange σ.lastOperText observation.link (trackedText .operState current)
      .operStateChanged instant current.generation with
  | none => exact hset (.refl h) rfl rfl _
  | some event => exact hset (hrecorded event hchange) rfl rfl _

theorem Alike.trackAdmin (instant : TimePoint) (current current' : Classification)
    (htext : trackedText .adminState current' = trackedText .adminState current)
    (hgeneration : current'.generation = current.generation) :
    Together observation σ τ (σ.trackAdmin observation.link instant current)
      (τ.trackAdmin observation.link instant current') := by
  have hset {σ' τ' : Observatory} (htogether : Together observation σ τ σ' τ')
      (hσ : σ'.lastAdminText = σ.lastAdminText) (hτ : τ'.lastAdminText = τ.lastAdminText)
      (text : Bytes) : Together observation σ τ
        { σ' with lastAdminText := σ.lastAdminText.insert observation.link text }
        { τ' with lastAdminText := τ.lastAdminText.insert observation.link text } := by
    rw [← hσ, ← hτ]
    apply htogether.trans
    apply Together.quiet htogether.alike { adminText := some text } rfl
    · simp [Effect.apply, StoreEffect.apply_none, put, bump, TransitionLog.recordOn,
        RuntimeStatistics.plus_zero]
    · simp [Effect.apply, StoreEffect.apply_none, put, bump, TransitionLog.recordOn,
        RuntimeStatistics.plus_zero]
  obtain ⟨hsame, hrecorded⟩ := trackedChange_alike h h.adminText (trackedText .adminState current)
    .adminStateChanged instant current.generation
  unfold Observatory.trackAdmin
  simp only [htext, hgeneration, hsame]
  cases hchange : trackedChange σ.lastAdminText observation.link (trackedText .adminState current)
      .adminStateChanged instant current.generation with
  | none => exact hset (.refl h) rfl rfl _
  | some event => exact hset (hrecorded event hchange) rfl rfl _

theorem Alike.classify (instant : TimePoint) :
    LinkObservatory.classify (τ.classificationInput observation.link instant) =
      { LinkObservatory.classify (σ.classificationInput observation.link instant) with
        droppedTransitions := τ.transitions.dropped } := by
  obtain ⟨state, hσ, hτ⟩ := h.link
  have hput : τ.classificationInput observation.link instant =
      (σ.classificationInput observation.link instant).putTo τ.store τ.transitions := by
    simp only [classificationInput, ClassificationInput.putTo, LinkRegistry.findLink,
      LinkRegistry.currentGeneration, LinkRegistry.generationState, hσ, hτ, h.config]
  rw [hput]
  exact ClassificationInput.classify_local h.slots h.limits h.ring

theorem Alike.refreshClassification (instant : TimePoint) :
    Together observation σ τ (σ.refreshClassification observation.link instant)
      (τ.refreshClassification observation.link instant) := by
  have hcurrent := h.classify instant
  unfold Observatory.refreshClassification
  generalize LinkObservatory.classify (σ.classificationInput observation.link instant) = current at *
  generalize LinkObservatory.classify (τ.classificationInput observation.link instant) = current'
    at *
  subst hcurrent
  have hcount := h.count { classifications := 1 }
  simp only [RuntimeStatistics.plus, UInt64.add_zero] at hcount
  have hstate := hcount.alike.trackState instant current
    { current with droppedTransitions := τ.transitions.dropped } rfl rfl
  have hoper := hstate.alike.trackOper instant current
    { current with droppedTransitions := τ.transitions.dropped } rfl rfl
  have hadmin := hoper.alike.trackAdmin instant current
    { current with droppedTransitions := τ.transitions.dropped } rfl rfl
  exact ((hcount.trans hstate).trans hoper).trans hadmin

theorem Alike.recordOutcome (outcome : AcceptOutcome) (instant : TimePoint) :
    Together observation σ τ (σ.recordOutcome observation outcome instant)
      (τ.recordOutcome observation outcome instant) := by
  have hgap {σ' τ' : Observatory} (htogether : Together observation σ τ σ' τ')
      (event : TransitionEvent) (hlink : event.link = observation.link) :
      Together observation σ τ
        (if outcome.revisionGap then σ'.recordTransition event else σ')
        (if outcome.revisionGap then τ'.recordTransition event else τ') := by
    split
    · exact htogether.trans (htogether.alike.recordTransition event hlink)
    · exact htogether
  unfold Observatory.recordOutcome
  cases outcome.discontinuity with
  | reset => exact hgap (h.recordTransition _ rfl) _ rfl
  | wrap => exact hgap (h.recordTransition _ rfl) _ rfl
  | none => exact hgap (.refl h) _ rfl

theorem Alike.acceptInto (source : Option SourceRecord) (enabled : Bool) (instant : TimePoint) :
    Together observation σ τ (σ.acceptInto observation source enabled instant).1
        (τ.acceptInto observation source enabled instant).1 ∧
      (τ.acceptInto observation source enabled instant).2 =
        (σ.acceptInto observation source enabled instant).2 := by
  obtain ⟨state, hσ, hτ⟩ := h.link
  have hgeneration : τ.registry.currentGeneration observation.link =
      σ.registry.currentGeneration observation.link := by
    simp only [LinkRegistry.currentGeneration, hσ, hτ]
  unfold Observatory.acceptInto
  simp only [hgeneration]
  obtain ⟨effect, outcome, haccept, haccept'⟩ := h.store.accept
    { source := source, currentGeneration := σ.registry.currentGeneration observation.link
      familyEnabled := enabled } instant
  have hevidence {slotKey : SlotKey} {slot : Slot} {evidence : Evidence} :
      (effect.apply observation σ.store).slots[slotKey]? = some slot → evidence ∈ slot.history →
      evidence.source = observation.provenance.source ∨
        ∃ before, σ.store.slots[slotKey]? = some before ∧ evidence ∈ before.history := by
    intro hslot hmem
    apply EvidenceStore.accept_evidence _ hmem
    · exact { source := source, currentGeneration := σ.registry.currentGeneration observation.link
              familyEnabled := enabled }
    · exact instant
    · rw [haccept]
      exact hslot
  rw [haccept, haccept']
  have heffect (ρ : Observatory) : { ρ with store := effect.apply observation ρ.store } =
      Effect.apply { store := effect } observation ρ := by
    simp [Effect.apply, put, bump, TransitionLog.recordOn, RuntimeStatistics.plus_zero]
  refine ⟨⟨?_, [{ store := effect }], heffect σ, heffect τ⟩, rfl⟩
  refine { h with store := ?_, slots := ?_ }
  · constructor
    · exact h.store.policy
    · simp only [StoreEffect.apply, lookup_put_self, h.store.slot]
    · simp only [StoreEffect.apply, lookup_put_self, h.store.stream]
    · intro hnone
      simp only [StoreEffect.apply, lookup_put_self, Option.or_eq_none_iff] at hnone
      have hroom := h.store.room hnone.2
      simp only [EvidenceStore.full, StoreEffect.apply, hnone.1, put] at hroom ⊢
      exact hroom
  · constructor
    · exact h.slots.policy
    · intro key
      by_cases hkey : observation.key = key
      · subst hkey
        simp only [StoreEffect.apply, lookup_put_self, h.store.slot]
      · have hne : SlotKey.mk observation.link observation.key ≠ SlotKey.mk observation.link key := by
          intro heq
          exact hkey (SlotKey.mk.inj heq).2
        simp only [StoreEffect.apply]
        rw [lookup_put_of_ne _ hne, lookup_put_of_ne _ hne]
        exact h.slots.slots key
    · intro key slot hslot evidence hmem
      by_cases hsource : observation.provenance.source = evidence.source
      · simp only [StoreEffect.apply]
        rw [← hsource, lookup_put_self, lookup_put_self, h.store.stream]
      · rcases hevidence hslot hmem with hown | ⟨before, hbefore, hheld⟩
        · exact absurd hown.symm hsource
        simp only [StoreEffect.apply]
        rw [lookup_put_of_ne _ hsource, lookup_put_of_ne _ hsource]
        exact h.slots.streams key before hbefore evidence hheld

theorem Alike.applyKnown (source : SourceRecord) (instant : TimePoint) :
    Together observation σ τ (σ.applyKnown observation source instant).1
      (τ.applyKnown observation source instant).1 := by
  obtain ⟨haccepted, houtcome⟩ := h.acceptInto (some source) true instant
  unfold Observatory.applyKnown
  simp only [houtcome]
  generalize (σ.acceptInto observation (some source) true instant).2 = outcome at *
  generalize (σ.acceptInto observation (some source) true instant).1 = σ₁ at *
  generalize (τ.acceptInto observation (some source) true instant).1 = τ₁ at *
  apply haccepted.trans
  split
  · have hfenced := haccepted.alike.countFenced
    exact hfenced.trans (hfenced.alike.updateEntry _)
  · have hcount := haccepted.alike.count { recordsAccepted := 1 }
    simp only [RuntimeStatistics.plus, UInt64.add_zero] at hcount
    have hnoted := hcount.trans (hcount.alike.noteAccepted observation.observedAt instant)
    have hrecorded := hnoted.trans (hnoted.alike.recordOutcome outcome instant)
    exact hrecorded.trans (hrecorded.alike.refreshClassification instant)

theorem Alike.applyGeneration (source : SourceRecord) (instant : TimePoint) :
    Together observation σ τ (σ.applyGeneration observation source instant).1
      (τ.applyGeneration observation source instant).1 := by
  obtain ⟨hobserved, hgeneration⟩ := h.observeGeneration observation.provenance.generation
  unfold Observatory.applyGeneration
  simp only [hgeneration]
  generalize (σ.registry.observeGeneration observation.link
    observation.provenance.generation).2 = generation at *
  generalize (σ.registry.observeGeneration observation.link
    observation.provenance.generation).1 = registry at *
  generalize (τ.registry.observeGeneration observation.link
    observation.provenance.generation).1 = registry' at *
  apply hobserved.trans
  split
  · have hown := hobserved.alike.countOwnFence .generationBehind
    have hfenced := hown.trans hown.alike.countFenced
    exact hfenced.trans (hfenced.alike.updateEntry _)
  · split
    · have hrecorded := hobserved.alike.recordTransition
        (generationEvent observation generation instant) rfl
      exact hrecorded.trans (hrecorded.alike.applyKnown source instant)
    · exact hobserved.alike.applyKnown source instant

/-- States that look the same to an observation handle it by the same effects. -/
theorem Alike.applyObservation (instant : TimePoint) :
    Together observation σ τ (σ.applyObservation observation instant).1
      (τ.applyObservation observation instant).1 := by
  have hcount := h.count { recordsSubmitted := 1 }
  simp only [RuntimeStatistics.plus, UInt64.add_zero] at hcount
  obtain ⟨state, hσ, hτ⟩ := h.link
  have henabled : τ.config.families.isEnabled observation.key.family =
      σ.config.families.isEnabled observation.key.family := by rw [h.config]
  unfold Observatory.applyObservation
  simp only [LinkRegistry.findSource, LinkRegistry.findLink, henabled, h.source, hσ, hτ]
  generalize σ.config.families.isEnabled observation.key.family = enabled
  generalize ({ σ with stats.recordsSubmitted := σ.stats.recordsSubmitted + 1 } : Observatory) = σ₁
    at *
  generalize ({ τ with stats.recordsSubmitted := τ.stats.recordsSubmitted + 1 } : Observatory) = τ₁
    at *
  apply hcount.trans
  -- a source that may not report is refused by the store itself
  have hrefuse (source : Option SourceRecord) : Together observation σ₁ τ₁
      (if !(σ₁.acceptInto observation source enabled instant).2.accepted then
        (σ₁.acceptInto observation source enabled instant).1.countFenced
        else (σ₁.acceptInto observation source enabled instant).1)
      (if !(τ₁.acceptInto observation source enabled instant).2.accepted then
        (τ₁.acceptInto observation source enabled instant).1.countFenced
        else (τ₁.acceptInto observation source enabled instant).1) := by
    obtain ⟨haccepted, houtcome⟩ := hcount.alike.acceptInto source enabled instant
    rw [houtcome]
    apply haccepted.trans
    split
    · exact haccepted.alike.countFenced
    · exact .refl haccepted.alike
  cases σ.registry.sources[observation.provenance.source]? with
  | none => exact hrefuse none
  | some source =>
    simp only
    by_cases hretired : source.retired = true
    · simp only [hretired, ↓reduceIte]
      exact hrefuse (some source)
    cases enabled with
    | false =>
      simp only [hretired, ↓reduceIte, Bool.not_false, Bool.false_eq_true]
      exact hrefuse (some source)
    | true =>
      simp only [hretired, ↓reduceIte, Bool.not_true, Bool.false_eq_true, Option.map_some,
        Option.isNone_some]
      exact hcount.alike.applyGeneration source instant

end

end Observatory

end LinkObservatory
