import LinkObservatory.RoundTrip

namespace LinkObservatory
set_option autoImplicit true

open Std

/-- Every metric key there is. -/
def allMetricKeys : List MetricKey :=
  allMetricFamilies.flatMap fun family => allDirections.flatMap fun direction =>
    allErrorClasses.map fun errorClass => { family, direction, errorClass }

theorem mem_allMetricKeys (key : MetricKey) : key ∈ allMetricKeys := by
  obtain ⟨family, direction, errorClass⟩ := key
  have hfamily : family ∈ allMetricFamilies := by cases family <;> decide
  have hdirection : direction ∈ allDirections := by cases direction <;> decide
  have hclass : errorClass ∈ allErrorClasses := by cases errorClass <;> decide
  simp only [allMetricKeys, List.mem_flatMap, List.mem_map]
  exact ⟨family, hfamily, direction, hdirection, errorClass, hclass, rfl⟩

theorem allMetricKeys_length : allMetricKeys.length = 256 := by decide +kernel

theorem keys_length_le {keys : List MetricKey} (h : keys.Nodup) : keys.length ≤ 256 := by
  have hsub := List.subperm_of_subset h fun key _ => mem_allMetricKeys key
  rw [← allMetricKeys_length]
  exact hsub.length_le

namespace EvidenceStore

theorem keysFor_nodup (store : EvidenceStore) (link : LinkId) : (store.keysFor link).Nodup := by
  unfold keysFor
  apply (ExtTreeMap.nodup_keys.filter _).map_on
  intro a ha b hb hkey
  have hlinks {slotKey : SlotKey} (h : slotKey ∈ store.slots.keys.filter fun slotKey =>
      slotKey.link == link) : slotKey.link = link := eq_of_beq (List.mem_filter.1 h).2
  obtain ⟨linkA, keyA⟩ := a
  obtain ⟨linkB, keyB⟩ := b
  have hA : linkA = link := hlinks ha
  have hB : linkB = link := hlinks hb
  rw [hA, hB, show keyA = keyB from hkey]

theorem slotKeys_length_le {keys : List SlotKey} {links : ExtTreeMap LinkId LinkRecord
    StrongId.compare} (hnodup : keys.Nodup)
    (h : ∀ slotKey ∈ keys, (links[slotKey.link]?).isSome) : keys.length ≤ links.size * 256 := by
  have hsub : keys ⊆ links.keys.flatMap fun link => allMetricKeys.map (SlotKey.mk link) := by
    intro slotKey hmem
    rw [List.mem_flatMap]
    refine ⟨slotKey.link, ?_, List.mem_map.2 ⟨slotKey.key, mem_allMetricKeys _, rfl⟩⟩
    rw [ExtTreeMap.mem_keys, ExtTreeMap.mem_iff_isSome_getElem?]
    exact h slotKey hmem
  have hle := (List.subperm_of_subset hnodup hsub).length_le
  rw [List.length_flatMap] at hle
  simp only [List.length_map, allMetricKeys_length, List.map_const', List.sum_replicate,
    ExtTreeMap.length_keys, smul_eq_mul] at hle
  exact hle

theorem admission_not_full {store : EvidenceStore}
    (h : store.admission observation context = .error reason) : reason ≠ .storeFull := by
  unfold admission at h
  cases hsource : context.source with
  | none =>
    simp only [hsource, Except.error.injEq] at h
    rw [← h]
    decide
  | some source =>
    simp only [hsource] at h
    grind

theorem enterScope_not_full (h : enterScope stream scope = .error reason) :
    reason ≠ .storeFull := by
  unfold enterScope fenceStream at h
  grind

theorem accept_full {store : EvidenceStore}
    (h : (store.accept observation context now).2.fence = .storeFull) :
    ∃ source, store.admission observation context = .ok source ∧
      store.LateFence observation source .storeFull := by
  have hstep := store.accept_step observation context now
  generalize (store.accept observation context now).1 = after at *
  generalize (store.accept observation context now).2 = outcome at *
  cases hstep with
  | refused ha => exact absurd h (admission_not_full ha)
  | superseded _ hs => exact absurd h (enterScope_not_full hs)
  | duplicate => cases h
  | replay => cases h
  | downgrade => cases h
  | full ha _ _ hlate => exact ⟨_, ha, hlate⟩
  | recorded =>
    have hnone (slot : Slot) (gapEpoch : UInt64) (outcome : AcceptOutcome) :
        (slot.observeReading observation gapEpoch outcome now).2.fence = outcome.fence := by
      unfold Slot.observeReading
      split <;> rfl
    rw [show (EvidenceStore.recordEvidence _ _ _ _ _ _).2.fence = _ from hnone _ _ _] at h
    cases h

end EvidenceStore

theorem EvidenceStore.admission_refused {store : EvidenceStore} {context : AcceptContext}
    {enabled : Bool} (hno : ∀ source, context.source = some source → source.retired = true ∨
      enabled = false) (hfamily : context.familyEnabled = enabled) :
    store.admission observation context ≠ .ok source := by
  intro hadmission
  obtain ⟨hcontext, -, hlive, -⟩ := admission_ok hadmission
  rcases hno source hcontext with hretired | hdisabled
  · rw [hlive] at hretired
    cases hretired
  · rw [← hfamily, admission_enabled hadmission] at hdisabled
    cases hdisabled

namespace LinkRegistry

/-- At most the record of one link is written. -/
def WritesLink (id : LinkId) (before after : LinkRegistry) : Prop :=
  after = before ∨ ∃ updated : LinkRecord,
    after = { before with links := before.links.insert id updated }

section

variable {id : LinkId}

theorem WritesLink.refl (registry : LinkRegistry) : WritesLink id registry registry := .inl rfl

theorem WritesLink.insert (registry : LinkRegistry) (updated : LinkRecord) :
    WritesLink id registry { registry with links := registry.links.insert id updated } :=
  .inr ⟨updated, rfl⟩

theorem WritesLink.trans {a b c : LinkRegistry} (h : WritesLink id a b)
    (h' : WritesLink id b c) : WritesLink id a c := by
  rcases h with rfl | ⟨updated, rfl⟩
  · exact h'
  rcases h' with rfl | ⟨again, rfl⟩
  · exact .inr ⟨updated, rfl⟩
  · apply Or.inr
    refine ⟨again, ?_⟩
    rw [OrderedMap.insert_insert]

theorem WritesLink.other {before after : LinkRegistry} (h : WritesLink id before after)
    {link : LinkId} (hne : id ≠ link) : after.links[link]? = before.links[link]? := by
  rcases h with rfl | ⟨updated, rfl⟩
  · rfl
  · exact OrderedMap.lookup_insert_of_ne _ hne _

theorem WritesLink.sources {before after : LinkRegistry} (h : WritesLink id before after) :
    after.sources = before.sources := by
  rcases h with rfl | ⟨updated, rfl⟩ <;> rfl

theorem WritesLink.known {before after : LinkRegistry} (h : WritesLink id before after)
    (link : LinkId) (hlink : (before.links[link]?).isSome) : (after.links[link]?).isSome := by
  rcases h with rfl | ⟨updated, rfl⟩
  · exact hlink
  · rw [OrderedMap.lookup_insert]
    split
    · rfl
    · exact hlink

end

theorem updateEntry_writes (registry : LinkRegistry) (id : LinkId)
    (update : LinkEntry → LinkEntry) :
    WritesLink id registry (registry.updateEntry id update) := by
  unfold updateEntry
  split
  · exact .refl registry
  · exact .insert registry _

theorem observeGeneration_writes (registry : LinkRegistry) (id : LinkId)
    (generation : GenerationId) :
    WritesLink id registry (registry.observeGeneration id generation).1 := by
  unfold observeGeneration
  split
  · exact .refl registry
  · exact .insert registry _

theorem reregisterLink_writes (registry : LinkRegistry) (facts : LinkFacts)
    (existing : LinkRecord) :
    WritesLink facts.id registry (registry.reregisterLink facts existing).1 := by
  obtain ⟨observed, hobserved, hresult⟩ := registry.reregisterLink_step facts existing
  have hwrites : WritesLink facts.id registry observed := by
    rcases hobserved with rfl | rfl
    · exact .refl _
    · exact registry.observeGeneration_writes _ _
  rcases hresult with hresult | ⟨state, merged, -, -, -, hresult⟩
  · rw [hresult]
    exact hwrites
  · rw [hresult]
    exact hwrites.trans (.insert _ _)

theorem registerLink_writes (registry : LinkRegistry) (facts : LinkFacts) (now : TimePoint) :
    WritesLink facts.id registry (registry.registerLink facts now).1 := by
  rcases registry.registerLink_step facts now with hsame |
      ⟨-, ⟨existing, -, hagain⟩ | ⟨-, -, hnew⟩⟩
  · rw [hsame]
    exact .refl registry
  · rw [hagain]
    exact registry.reregisterLink_writes facts existing
  · rw [hnew]
    exact .insert registry _

theorem ensureImplicitLink_writes (registry : LinkRegistry) (id : LinkId) (name : Bytes)
    (now : TimePoint) : WritesLink id registry (registry.ensureImplicitLink id name now).1 := by
  rcases registry.ensureImplicitLink_step id name now with hsame | hdeclared
  · rw [hsame]
    exact .refl registry
  · rw [hdeclared]
    exact registry.registerLink_writes { id := id, name := name.take 128 } now

theorem Ensured.writes {registry ensured : LinkRegistry}
    (h : registry.Ensured observation instant ensured) :
    WritesLink observation.link registry ensured := by
  cases h with
  | known _ => exact .refl registry
  | created _ _ => exact registry.ensureImplicitLink_writes _ _ _

end LinkRegistry

/-- Both rings of a log are within their bounds. -/
structure TransitionLog.Bounded (log : TransitionLog) : Prop where
  global : log.global.length ≤ log.limits.maxTotalTransitions.toNat
  perLink : ∀ (link : LinkId) ring, log.perLink[link]? = some ring →
    ring.length ≤ log.limits.maxTransitionsPerLink.toNat

theorem TransitionLog.Bounded.record {log : TransitionLog} (h : log.Bounded)
    (event : TransitionEvent) : (log.record event).Bounded where
  global := Ring.push_length_le _ _ _
  perLink := OrderedMap.forall_insert h.perLink (Ring.push_length_le _ _ _)

theorem TransitionLog.Bounded.recordAll {log : TransitionLog} (h : log.Bounded)
    (events : List TransitionEvent) : (log.recordAll events).Bounded := by
  induction events generalizing log with
  | nil => exact h
  | cons event events ih => exact ih (h.record event)

namespace Observatory

theorem applyObservation_writes (σ : Observatory) (observation : Observation)
    (instant : TimePoint) :
    LinkRegistry.WritesLink observation.link σ.registry
      (σ.applyObservation observation instant).1.registry := by
  have hstep := σ.applyObservation_step observation instant
  generalize (σ.applyObservation observation instant).1 = σ' at *
  generalize (σ.applyObservation observation instant).2 = outcome at *
  cases hstep with
  | refused _ _ _ _ _ hregistry =>
    rw [hregistry]
    exact .refl _
  | unknownLink _ _ _ _ _ _ hregistry =>
    rw [hregistry]
    exact σ.registry.ensureImplicitLink_writes _ _ _
  | behind registry _ _ _ hensured hobs _ _ hregistry =>
    have hobserved := registry.observeGeneration_writes observation.link
      observation.provenance.generation
    rw [hobs] at hobserved
    rw [hregistry]
    exact (hensured.writes.trans hobserved).trans (LinkRegistry.updateEntry_writes _ _ _)
  | decided registry _ _ _ hensured hobs _ _ _ hregistry =>
    have hobserved := registry.observeGeneration_writes observation.link
      observation.provenance.generation
    rw [hobs] at hobserved
    rw [hregistry]
    apply (hensured.writes.trans hobserved).trans
    split
    · exact LinkRegistry.updateEntry_writes _ _ _
    · exact LinkRegistry.updateEntry_writes _ _ _

theorem applyLink_writes (σ : Observatory) (declaration : LinkDecl) (instant : TimePoint) :
    LinkRegistry.WritesLink (makeLinkFacts declaration).id σ.registry
      (σ.applyLink declaration instant).1.registry := by
  have hregistered := σ.registry.registerLink_writes (makeLinkFacts declaration) instant
  unfold applyLink
  simp only
  generalize σ.registry.registerLink (makeLinkFacts declaration) instant = registered at *
  split
  · exact hregistered
  · have hobserved := registered.1.observeGeneration_writes (makeLinkFacts declaration).id
      (makeLinkFacts declaration).generation
    have hboth := hregistered.trans hobserved
    split
    · split
      · exact hboth
      · exact hboth
    · split
      · exact hboth
      · exact hboth

theorem applySource_links (σ : Observatory) (declaration : SourceDecl) :
    (σ.applySource declaration).1.registry.links = σ.registry.links := by
  have hregister (source : SourceRecord) :
      (σ.registry.registerSource source).1.links = σ.registry.links := by
    unfold LinkRegistry.registerSource
    grind
  have hretire (registry : LinkRegistry) (id : SourceId) :
      (registry.retireSource id).1.links = registry.links := by
    unfold LinkRegistry.retireSource
    grind
  unfold applySource
  simp only
  generalize hregistered : σ.registry.registerSource _ = registered
  have hlinks : registered.1.links = σ.registry.links := by
    rw [← hregistered]
    exact hregister _
  split
  · exact hlinks
  generalize hretired : (if declaration.retired then _ else _ : LinkRegistry × Status) = retired
  have hsame : retired.1.links = σ.registry.links := by
    rw [← hretired]
    split
    · exact (hretire _ _).trans hlinks
    · exact hlinks
  split
  · exact hsame
  · exact hsame

/-- How an observation that is accepted was handled. -/
structure AcceptedStep (σ : Observatory) (observation : Observation) (instant : TimePoint)
    (σ' : Observatory) (outcome : AcceptOutcome) (source : SourceRecord)
    (ensured observed : LinkRegistry) : Prop where
  live : σ.registry.sources[observation.provenance.source]? = some source
  ensures : σ.registry.Ensured observation instant ensured
  observes : (ensured.observeGeneration observation.link observation.provenance.generation).1 =
    observed
  current : (ensured.observeGeneration observation.link
    observation.provenance.generation).2.behind = false
  accepts : σ.store.accept observation (observed.acceptContext observation source) instant =
    (σ'.store, outcome)
  registry : σ'.registry = observed.noteAccepted observation.link observation.observedAt instant

theorem applyObservation_accepted {σ : Observatory}
    (h : (σ.applyObservation observation instant).2.accepted = true) :
    ∃ source ensured observed, AcceptedStep σ observation instant
      (σ.applyObservation observation instant).1 (σ.applyObservation observation instant).2 source
      ensured observed := by
  have hstep := σ.applyObservation_step observation instant
  generalize (σ.applyObservation observation instant).1 = σ' at *
  generalize (σ.applyObservation observation instant).2 = outcome at *
  cases hstep with
  | refused context hsource hno hfamily _ _ _ haccept =>
    -- the store never accepts what the runtime hands over only to be refused
    rcases σ.store.accept_slots observation context instant with
      ⟨hrefused, -⟩ | ⟨-, source, _, hadmission, -⟩
    · rw [haccept] at hrefused
      rw [hrefused] at h
      cases h
    · exact absurd hadmission (EvidenceStore.admission_refused hno hfamily)
  | unknownLink _ _ _ _ _ _ _ _ _ houtcome =>
    rw [houtcome] at h
    cases h
  | behind _ _ _ _ _ _ _ _ _ _ _ houtcome =>
    rw [houtcome] at h
    cases h
  | decided registry hsource hlive henabled hensured hobs hb hconfig haccept hregistry hlog =>
    rename_i source observed generation
    rw [if_pos h] at hregistry
    exact ⟨source, registry, observed, hsource, hensured, by rw [hobs], by rw [hobs]; exact hb,
      haccept, hregistry⟩

theorem AcceptedStep.linked {σ σ' : Observatory} {source : SourceRecord} {ensured observed : LinkRegistry}
    (h : AcceptedStep σ observation instant σ' outcome source ensured observed) :
    (observed.links[observation.link]?).isSome := by
  obtain ⟨state, hstate, -⟩ := h.ensures.lookup
  rw [← h.observes]
  apply (ensured.observeGeneration_writes _ _).known
  rw [hstate]
  rfl

theorem applyObservation_slots_refused {σ : Observatory}
    (h : (σ.applyObservation observation instant).2.accepted = false) :
    (σ.applyObservation observation instant).1.store.slots = σ.store.slots := by
  rcases σ.applyObservation_store observation instant with ⟨context, hdecided⟩ | ⟨hstore, -⟩
  · rcases σ.store.accept_slots observation context instant with ⟨-, hsame⟩ | ⟨hyes, -⟩
    · rw [hdecided] at hsame
      exact hsame
    · rw [hdecided, h] at hyes
      cases hyes
  · rw [hstore]

/-- Every slot belongs to a registered link. -/
def SlotsLinked (σ : Observatory) : Prop :=
  ∀ (slotKey : SlotKey) slot, σ.store.slots[slotKey]? = some slot →
    (σ.registry.links[slotKey.link]?).isSome

theorem SlotsLinked.applyObservation {σ : Observatory} (h : σ.SlotsLinked)
    (observation : Observation) (instant : TimePoint) :
    (σ.applyObservation observation instant).1.SlotsLinked := by
  have hwrites := σ.applyObservation_writes observation instant
  have hkept (slotKey : SlotKey) (slot : Slot) (hslot : σ.store.slots[slotKey]? = some slot) :
      ((σ.applyObservation observation instant).1.registry.links[slotKey.link]?).isSome :=
    hwrites.known _ (h slotKey slot hslot)
  cases haccepted : (σ.applyObservation observation instant).2.accepted with
  | false =>
    intro slotKey slot hslot
    rw [applyObservation_slots_refused haccepted] at hslot
    exact hkept slotKey slot hslot
  | true =>
    obtain ⟨source, ensured, observed, hstep⟩ := applyObservation_accepted haccepted
    have hlinked : ((σ.applyObservation observation instant).1.registry.links[
        observation.link]?).isSome := by
      rw [hstep.registry]
      exact (observed.updateEntry_writes _ _).known _ hstep.linked
    rcases σ.store.accept_slots observation (observed.acceptContext observation source) instant
      with ⟨hno, -⟩ | ⟨-, _, slot, -, -, hslots, -⟩
    · rw [hstep.accepts, haccepted] at hno
      cases hno
    · rw [hstep.accepts] at hslots
      unfold SlotsLinked
      rw [hslots]
      exact OrderedMap.forall_insert hkept hlinked

theorem SlotsLinked.applyRecord {σ : Observatory} (h : σ.SlotsLinked) (record : ParsedRecord)
    (instant : TimePoint) : (σ.applyRecord record instant).1.SlotsLinked := by
  cases record with
  | none => exact h
  | source declaration =>
    unfold SlotsLinked
    simp only [Observatory.applyRecord, applySource_store, applySource_links]
    exact h
  | link declaration =>
    unfold SlotsLinked
    simp only [Observatory.applyRecord, applyLink_store]
    intro slotKey slot hslot
    exact (σ.applyLink_writes declaration instant).known _ (h slotKey slot hslot)
  | observation declaration => exact h.applyObservation _ instant

theorem Reached.slotsLinked {config : RuntimeConfig} (h : Reached config log σ) :
    σ.SlotsLinked := by
  induction h with
  | start =>
    intro slotKey slot hslot
    simp [fresh] at hslot
  | record record instant _ ih => exact ih.applyRecord record instant
  | unread files hrun hread ih =>
    obtain ⟨-, rfl⟩ := hrun.sound
    obtain ⟨-, hsame⟩ := reload_unread hread
    unfold SlotsLinked
    rw [hsame.store, hsame.registry]
    exact ih
  | reload files now hrun hrun' hpath hread _ ih' =>
    obtain ⟨hs, rfl⟩ := hrun.sound
    have hrecovers := hrun'.sound.1.reload hs hrun'.sound.2.symm hpath hread
    unfold SlotsLinked
    rw [hrecovers.slots, hrecovers.registry]
    exact ih'

theorem Sound.log_bounded {σ : Observatory} (h : σ.Sound) : σ.transitions.Bounded := by
  obtain ⟨events, hevents⟩ := h.log
  rw [hevents]
  apply TransitionLog.Bounded.recordAll
  constructor
  · exact Nat.zero_le _
  · intro link ring hring
    simp at hring

/-- Everything that grows is within the bound the policy sets for it. -/
structure Bounded (σ : Observatory) : Prop where
  links : σ.registry.links.size ≤ σ.config.policy.limits.maxLinks.toNat
  sources : σ.registry.sources.size ≤ σ.config.policy.limits.maxSources.toNat
  slotsLinked : ∀ (slotKey : SlotKey) slot, σ.store.slots[slotKey]? = some slot →
    (σ.registry.links[slotKey.link]?).isSome
  slotsPerLink : ∀ link : LinkId, (σ.store.keysFor link).length ≤ 256
  history : ∀ (slotKey : SlotKey) slot, σ.store.slots[slotKey]? = some slot →
    slot.history.length ≤ σ.config.policy.limits.maxEvidencePerKey.toNat
  continuity : ∀ (slotKey : SlotKey) slot, σ.store.slots[slotKey]? = some slot →
    slot.continuity.size ≤ σ.registry.sources.size
  streams : σ.store.streams.size ≤ σ.config.policy.limits.maxSources.toNat
  retiredScopes : ∀ (source : SourceId) stream, σ.store.streams[source]? = some stream →
    stream.retiredScopes.length ≤ 32
  retiredGenerations : ∀ (link : LinkId) state, σ.registry.links[link]? = some state →
    state.generations.retiredGenerations.length ≤ 32
  linkRings : ∀ (link : LinkId) ring, σ.transitions.perLink[link]? = some ring →
    ring.length ≤ σ.config.policy.limits.maxTransitionsPerLink.toNat
  globalRing : σ.transitions.global.length ≤ σ.config.policy.limits.maxTotalTransitions.toNat

theorem Reached.within_limits {config : RuntimeConfig} (h : Reached config log σ) : σ.Bounded := by
  obtain ⟨hs, -⟩ := h.sound
  have hlog := hs.log_bounded
  have hlimits := hs.logLimits
  constructor
  · rw [← hs.registryPolicy]
    exact hs.registry.linkCount
  · rw [← hs.registryPolicy]
    exact hs.registry.sourceCount
  · exact h.slotsLinked
  · intro link
    exact keys_length_le (σ.store.keysFor_nodup link)
  · intro slotKey slot hslot
    rw [← hs.storePolicy]
    exact (hs.store.slots slotKey slot hslot).history
  · intro slotKey slot hslot
    apply OrderedMap.size_le_of_keys
    intro source hsource
    obtain ⟨state, hstate⟩ := Option.isSome_iff_exists.1 hsource
    exact (hs.store.slots slotKey slot hslot).continuity source state hstate
  · rw [← hs.registryPolicy]
    exact hs.streams_size.trans hs.registry.sourceCount
  · intro source stream hstream
    exact (hs.store.streams source stream hstream).retired
  · intro link state hstate
    exact (hs.registry.links link state hstate).retired
  · intro link ring hring
    rw [← hlimits]
    exact hlog.perLink link ring hring
  · rw [← hlimits]
    exact hlog.global

/-- While the slot bound can be represented, there is room for one more slot of any registered
link. -/
theorem not_full {store : EvidenceStore} {registry : LinkRegistry} {slotKey : SlotKey}
    (hpolicy : store.policy = registry.policy)
    (hbound : registry.policy.limits.maxLinks.toNat * 256 < 2 ^ 64)
    (hcount : registry.links.size ≤ registry.policy.limits.maxLinks.toNat)
    (hlinked : ∀ (slotKey : SlotKey) slot, store.slots[slotKey]? = some slot →
      (registry.links[slotKey.link]?).isSome)
    (hnew : store.slots[slotKey]? = none) (hlink : (registry.links[slotKey.link]?).isSome) :
    store.full = false := by
  have hkeys : (slotKey :: store.slots.keys).Nodup := by
    rw [List.nodup_cons]
    refine ⟨?_, ExtTreeMap.nodup_keys⟩
    rw [ExtTreeMap.mem_keys, ExtTreeMap.mem_iff_isSome_getElem?, hnew]
    exact Bool.false_ne_true
  have hall : ∀ other ∈ slotKey :: store.slots.keys, (registry.links[other.link]?).isSome := by
    intro other hmem
    rcases List.mem_cons.1 hmem with rfl | hold
    · exact hlink
    · rw [ExtTreeMap.mem_keys, ExtTreeMap.mem_iff_isSome_getElem?] at hold
      obtain ⟨slot, hslot⟩ := Option.isSome_iff_exists.1 hold
      exact hlinked other slot hslot
  have hsize := EvidenceStore.slotKeys_length_le hkeys hall
  rw [List.length_cons, ExtTreeMap.length_keys] at hsize
  have hproduct : (registry.policy.limits.maxLinks * kMaxKeysPerLink).toNat =
      registry.policy.limits.maxLinks.toNat * 256 := by
    rw [UInt64.toNat_mul, show kMaxKeysPerLink.toNat = 256 from rfl, Nat.mod_eq_of_lt hbound]
  rw [EvidenceStore.full, hpolicy, hproduct, decide_eq_false_iff_not]
  have hmost := Nat.mul_le_mul_right 256 hcount
  omega

/-- In every reached state everything is within its bound, and no observation finds the store
full. -/
theorem Reached.bounded {config : RuntimeConfig} (h : Reached config log σ)
    (hbound : config.policy.limits.maxLinks.toNat * 256 < 2 ^ 64) :
    σ.Bounded ∧ ∀ (declaration : ObservationDecl) (instant : TimePoint),
      (σ.applyObservation (makeObservation declaration) instant).2.fence ≠ .storeFull := by
  refine ⟨h.within_limits, ?_⟩
  intro declaration instant hfull
  generalize makeObservation declaration = observation at hfull
  obtain ⟨hs, rfl⟩ := h.sound
  have hstep := σ.applyObservation_step observation instant
  generalize (σ.applyObservation observation instant).1 = σ' at *
  generalize (σ.applyObservation observation instant).2 = outcome at *
  cases hstep with
  | refused context _ hno hfamily _ _ _ haccept =>
    rw [show outcome = (σ.store.accept observation context instant).2 by rw [haccept]] at hfull
    obtain ⟨source, hadmission, -⟩ := EvidenceStore.accept_full hfull
    exact EvidenceStore.admission_refused hno hfamily hadmission
  | unknownLink _ _ _ _ _ _ _ _ _ houtcome =>
    rw [houtcome] at hfull
    cases hfull
  | behind _ _ _ _ _ _ _ _ _ _ _ houtcome =>
    rw [houtcome] at hfull
    cases hfull
  | decided registry hsource hlive henabled hensured hobs hb hconfig haccept hregistry hlog =>
    rename_i source observed generation
    rw [show outcome = (σ.store.accept observation (observed.acceptContext observation source)
      instant).2 by rw [haccept]] at hfull
    obtain ⟨-, -, hnew, hlate⟩ := EvidenceStore.accept_full hfull
    have hfollows := hensured.follows.trans (registry.observeGeneration_follows observation.link
      observation.provenance.generation)
    have hwrites := hensured.writes.trans (registry.observeGeneration_writes observation.link
      observation.provenance.generation)
    obtain ⟨state, hstate, -⟩ := hensured.lookup
    have hlink := (registry.observeGeneration_writes observation.link
      observation.provenance.generation).known observation.link (by rw [hstate]; rfl)
    rw [hobs] at hfollows hwrites hlink
    have hpolicy : observed.policy = σ.config.policy := hfollows.policy.trans hs.registryPolicy
    have hroom := not_full (hs.storePolicy.trans hpolicy.symm) (by rw [hpolicy]; exact hbound)
      (hfollows.sound hs.registry).linkCount
      (fun slotKey slot hslot => hwrites.known _ (h.slotsLinked slotKey slot hslot)) hnew hlink
    rw [hroom] at hlate
    cases hlate

theorem Reached.bounded_report :
    (Observatory.run { policy := makeDefaultPolicy } reportedRecords).Bounded ∧
      (Observatory.run { policy := makeDefaultPolicy } reportedRecords).store.slots.size = 1 := by
  have hreached := Reached.run { policy := makeDefaultPolicy } reportedRecords
  exact ⟨(hreached.bounded (by decide)).1, by decide +kernel⟩

end Observatory

end LinkObservatory
