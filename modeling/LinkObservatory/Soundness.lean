import LinkObservatory.Restart
import LinkObservatory.Consecutive

namespace LinkObservatory
set_option autoImplicit true

open Std

/-- A registered link is filed under its own identity and passes the checks of a restore. -/
structure LinkRecord.Sound (id : LinkId) (state : LinkRecord) : Prop where
  identity : state.entry.facts.id = id
  facts : (validateLinkFacts state.entry.facts).ok = true
  retired : state.generations.retiredGenerations.length ≤ kMaxRetiredGenerations

/-- What every registry built by the runtime satisfies. -/
structure LinkRegistry.Sound (registry : LinkRegistry) : Prop where
  links : ∀ (id : LinkId) state, registry.links[id]? = some state → state.Sound id
  linkCount : registry.links.size ≤ registry.policy.limits.maxLinks.toNat
  sources : ∀ (id : SourceId) source, registry.sources[id]? = some source →
    source.id = id ∧ LinkRegistry.SoundSource source ∧ source.registered = true
  sourceCount : registry.sources.size ≤ registry.policy.limits.maxSources.toNat

namespace LinkRegistry

theorem sound_empty (policy : Policy) : Sound { policy := policy } :=
  ⟨fun _ _ h => by simp at h, Nat.zero_le _, fun _ _ h => by simp at h, Nat.zero_le _⟩

/-- One registry follows another by what the runtime does to it: bounds and checks are kept, and no
source is forgotten. -/
structure Follows (before after : LinkRegistry) : Prop where
  policy : after.policy = before.policy
  known : ∀ id : SourceId, (before.sources[id]?).isSome → (after.sources[id]?).isSome
  sound : before.Sound → after.Sound

theorem Follows.refl (registry : LinkRegistry) : Follows registry registry := ⟨rfl, fun _ => id, id⟩

theorem Follows.trans {a b c : LinkRegistry} (h : Follows a b) (h' : Follows b c) : Follows a c :=
  ⟨h'.policy.trans h.policy, fun id hk => h'.known id (h.known id hk), fun hs => h'.sound (h.sound hs)⟩

theorem Follows.setLink {registry : LinkRegistry} {id : LinkId} {updated : LinkRecord}
    (hroom : registry.policy.limits.maxLinks.toNat ≤ registry.links.size →
      (registry.links[id]?).isSome)
    (hstate : registry.Sound → updated.Sound id) :
    Follows registry { registry with links := registry.links.insert id updated } where
  policy := rfl
  known _ := fun hk => hk
  sound h :=
    { links := OrderedMap.forall_insert h.links (hstate h)
      linkCount := OrderedMap.size_insert_le h.linkCount hroom updated
      sources := h.sources
      sourceCount := h.sourceCount }

theorem Follows.setSource {registry : LinkRegistry} {id : SourceId} {updated : SourceRecord}
    (hroom : registry.policy.limits.maxSources.toNat ≤ registry.sources.size →
      (registry.sources[id]?).isSome)
    (hsource : registry.Sound →
      updated.id = id ∧ SoundSource updated ∧ updated.registered = true) :
    Follows registry { registry with sources := registry.sources.insert id updated } where
  policy := rfl
  known other hk := by
    rw [OrderedMap.lookup_insert]
    split
    · rfl
    · exact hk
  sound h :=
    { links := h.links
      linkCount := h.linkCount
      sources := OrderedMap.forall_insert h.sources (hsource h)
      sourceCount := OrderedMap.size_insert_le h.sourceCount hroom updated }

theorem updateEntry_follows (registry : LinkRegistry) (id : LinkId)
    (update : LinkEntry → LinkEntry) (hfacts : ∀ entry, (update entry).facts = entry.facts) :
    registry.Follows (registry.updateEntry id update) := by
  unfold updateEntry
  cases hfound : registry.links[id]? with
  | none => exact .refl registry
  | some state =>
    refine .setLink (fun _ => by rw [hfound]; rfl) fun h => ?_
    obtain ⟨hid, hvalid, hretired⟩ := h.links id state hfound
    refine ⟨?_, ?_, hretired⟩
    · rw [hfacts]
      exact hid
    · rw [hfacts]
      exact hvalid

theorem observe_retired_length (generations : LinkGenerationState) (generation : GenerationId)
    (h : generations.retiredGenerations.length ≤ kMaxRetiredGenerations) :
    (generations.observe generation).1.retiredGenerations.length ≤ kMaxRetiredGenerations := by
  unfold LinkGenerationState.observe
  split
  · exact h
  split
  · exact h
  split
  · exact h
  · exact Ring.push_length_le _ _ _

theorem observeGeneration_follows (registry : LinkRegistry) (id : LinkId)
    (generation : GenerationId) :
    registry.Follows (registry.observeGeneration id generation).1 := by
  cases hfound : registry.links[id]? with
  | none =>
    unfold observeGeneration
    rw [hfound]
    exact .refl registry
  | some state =>
    rw [observeGeneration_some hfound]
    refine .setLink (fun _ => by rw [hfound]; rfl) fun h => ?_
    obtain ⟨hid, hvalid, hretired⟩ := h.links id state hfound
    exact ⟨hid, hvalid, observe_retired_length _ _ hretired⟩

theorem reregisterLink_step (registry : LinkRegistry) (facts : LinkFacts)
    (existing : LinkRecord) : ∃ observed : LinkRegistry,
      (observed = registry ∨
        observed = (registry.observeGeneration facts.id facts.generation).1) ∧
      ((registry.reregisterLink facts existing).1 = observed ∨
        ∃ state merged, observed.links[facts.id]? = some state ∧ merged.id = facts.id ∧
          validateLinkFacts merged = validateLinkFacts facts ∧
          (registry.reregisterLink facts existing).1 =
            { observed with
              links := observed.links.insert facts.id
                { state with entry := { state.entry with facts := merged } } }) := by
  unfold reregisterLink
  split
  · exact ⟨registry, .inl rfl, .inl rfl⟩
  simp only
  generalize hmerged : (if !facts.generation.valid then
    { facts with generation := existing.entry.facts.generation } else facts) = merged
  generalize hobserved : (if merged.generation ≠ existing.entry.facts.generation then
    registry.observeGeneration facts.id merged.generation else (registry, {})) = observed
  -- the checks on link facts do not read the generation
  have hchecks : merged.id = facts.id ∧ validateLinkFacts merged = validateLinkFacts facts := by
    rw [← hmerged]
    split
    · exact ⟨rfl, rfl⟩
    · exact ⟨rfl, rfl⟩
  refine ⟨observed.1, ?_, ?_⟩
  · rw [← hobserved]
    split
    · -- only a generation that the declaration names itself can differ
      rename_i hdiffers
      have hsame : merged = facts := by
        rw [← hmerged]
        split
        · rename_i hinvalid
          rw [← hmerged, if_pos hinvalid] at hdiffers
          exact absurd rfl hdiffers
        · rfl
      rw [hsame]
      exact .inr rfl
    · exact .inl rfl
  · split
    · exact .inl rfl
    split
    · exact .inl rfl
    · rename_i state hstate
      exact .inr ⟨state, merged, hstate, hchecks.1, hchecks.2, rfl⟩

/-- The record of a link that is declared for the first time. -/
def newRecord (facts : LinkFacts) (now : TimePoint) : LinkRecord :=
  { entry := { facts := facts, registeredAt := now }
    generations := if facts.generation.valid then
      { hasGeneration := true, currentGeneration := facts.generation } else {} }

theorem registerLink_step (registry : LinkRegistry) (facts : LinkFacts) (now : TimePoint) :
    (registry.registerLink facts now).1 = registry ∨
      (validateLinkFacts facts).ok = true ∧
        ((∃ existing, registry.links[facts.id]? = some existing ∧
            (registry.registerLink facts now).1 = (registry.reregisterLink facts existing).1) ∨
          registry.links[facts.id]? = none ∧
            ¬registry.links.size ≥ registry.policy.limits.maxLinks.toNat ∧
            (registry.registerLink facts now).1 =
              { registry with
                links := registry.links.insert facts.id (newRecord facts now) }) := by
  unfold registerLink
  simp only
  split
  · exact .inl rfl
  rename_i hvalid
  have hok : (validateLinkFacts facts).ok = true := by simpa using hvalid
  cases hfound : registry.links[facts.id]? with
  | some existing => exact .inr ⟨hok, .inl ⟨existing, rfl, rfl⟩⟩
  | none =>
    simp only
    split
    · exact .inl rfl
    · rename_i hroom
      exact .inr ⟨hok, .inr ⟨trivial, hroom, rfl⟩⟩

theorem ensureImplicitLink_step (registry : LinkRegistry) (id : LinkId) (name : Bytes)
    (now : TimePoint) :
    (registry.ensureImplicitLink id name now).1 = registry ∨
      (registry.ensureImplicitLink id name now).1 =
        (registry.registerLink { id := id, name := name.take 128 } now).1 := by
  unfold ensureImplicitLink
  split
  · exact .inl rfl
  split
  · split
    · exact .inl rfl
    · exact .inl rfl
  · exact .inr rfl

theorem reregisterLink_follows (registry : LinkRegistry) (facts : LinkFacts)
    (existing : LinkRecord) (hok : (validateLinkFacts facts).ok = true) :
    registry.Follows (registry.reregisterLink facts existing).1 := by
  obtain ⟨observed, hobserved, hresult⟩ := registry.reregisterLink_step facts existing
  have hfollows : registry.Follows observed := by
    rcases hobserved with rfl | rfl
    · exact .refl _
    · exact registry.observeGeneration_follows _ _
  rcases hresult with hresult | ⟨state, merged, hstate, hid, hvalid, hresult⟩
  · rw [hresult]
    exact hfollows
  · rw [hresult]
    exact hfollows.trans (.setLink (fun _ => by rw [hstate]; rfl) fun h =>
      ⟨hid, hvalid ▸ hok, (h.links _ _ hstate).retired⟩)

theorem registerLink_follows (registry : LinkRegistry) (facts : LinkFacts) (now : TimePoint) :
    registry.Follows (registry.registerLink facts now).1 := by
  rcases registry.registerLink_step facts now with hsame |
      ⟨hok, ⟨existing, -, hagain⟩ | ⟨-, hroom, hnew⟩⟩
  · rw [hsame]
    exact .refl registry
  · rw [hagain]
    exact registry.reregisterLink_follows facts existing hok
  · rw [hnew]
    apply Follows.setLink (fun hle => absurd hle hroom)
    intro _
    refine ⟨rfl, hok, ?_⟩
    unfold newRecord
    split
    · exact Nat.zero_le _
    · exact Nat.zero_le _

theorem ensureImplicitLink_follows (registry : LinkRegistry) (id : LinkId) (name : Bytes)
    (now : TimePoint) : registry.Follows (registry.ensureImplicitLink id name now).1 := by
  rcases registry.ensureImplicitLink_step id name now with hsame | hdeclared
  · rw [hsame]
    exact .refl registry
  · rw [hdeclared]
    exact registry.registerLink_follows _ _

theorem Ensured.follows {registry ensured : LinkRegistry}
    (h : registry.Ensured observation instant ensured) : registry.Follows ensured := by
  cases h with
  | known _ => exact .refl registry
  | created _ _ => exact registry.ensureImplicitLink_follows _ _ _

theorem registerSource_follows (registry : LinkRegistry) (source : SourceRecord) :
    registry.Follows (registry.registerSource source).1 := by
  unfold registerSource
  split
  · exact .refl registry
  split
  · exact .refl registry
  split
  · exact .refl registry
  rename_i hid hname hprovenance
  have hvalid : source.id.valid = true := by simpa using hid
  rw [not_or, Nat.not_lt] at hname
  split
  · rename_i existing hfound
    split
    · exact .refl registry
    · refine .setSource (fun _ => by rw [hfound]; rfl) fun h => ?_
      obtain ⟨hsame, ⟨hkept, -, hknown⟩, -⟩ := h.sources _ _ hfound
      exact ⟨hsame, ⟨hkept, hname, hknown⟩, rfl⟩
  · split
    · exact .refl registry
    · rename_i hroom
      exact .setSource (fun hle => absurd hle hroom) fun _ =>
        ⟨rfl, ⟨hvalid, hname, hprovenance⟩, rfl⟩

theorem retireSource_follows (registry : LinkRegistry) (id : SourceId) :
    registry.Follows (registry.retireSource id).1 := by
  unfold retireSource
  split
  · exact .refl registry
  · rename_i found hfound
    refine .setSource (fun _ => by rw [hfound]; rfl) fun h => ?_
    obtain ⟨hsame, hsound, hregistered⟩ := h.sources _ _ hfound
    exact ⟨hsame, hsound, hregistered⟩

end LinkRegistry

/-- A slot is filed under its key, within its bound, and holds samples of known sources only. -/
structure Slot.Sound (known : SourceId → Prop) (limits : Limits) (slotKey : SlotKey) (slot : Slot) :
    Prop where
  identity : slot.key = slotKey.key
  link : slotKey.link.valid = true
  history : slot.history.length ≤ limits.maxEvidencePerKey.toNat
  continuity : ∀ (source : SourceId) state, slot.continuity[source]? = some state → known source

structure StreamState.Sound (known : SourceId → Prop) (source : SourceId) (stream : StreamState) :
    Prop where
  source : known source
  retired : stream.retiredScopes.length ≤ kMaxRetiredScopes

/-- What every evidence store built by the runtime satisfies. -/
structure EvidenceStore.Sound (known : SourceId → Prop) (store : EvidenceStore) : Prop where
  slots : ∀ (slotKey : SlotKey) slot, store.slots[slotKey]? = some slot →
    slot.Sound known store.policy.limits slotKey
  slotCount : store.slots.size ≤ (store.policy.limits.maxLinks * kMaxKeysPerLink).toNat
  streams : ∀ (source : SourceId) stream, store.streams[source]? = some stream →
    stream.Sound known source

theorem EvidenceStore.Sound.mono {known known' : SourceId → Prop} (h : EvidenceStore.Sound known store)
    (hk : ∀ source, known source → known' source) : store.Sound known' where
  slots slotKey slot hslot :=
    have hs := h.slots slotKey slot hslot
    ⟨hs.identity, hs.link, hs.history, fun source state hc => hk source (hs.continuity source state hc)⟩
  slotCount := h.slotCount
  streams source stream hstream :=
    have hs := h.streams source stream hstream
    ⟨hk source hs.source, hs.retired⟩

theorem enterScope_retired_length (h : enterScope stream scope = .ok (entered, changed))
    (hle : stream.retiredScopes.length ≤ kMaxRetiredScopes) :
    entered.retiredScopes.length ≤ kMaxRetiredScopes := by
  rcases enterScope_ok h with ⟨-, -, rfl⟩ | ⟨-, -, -, -, rfl⟩ | ⟨-, -, -, rfl⟩
  · exact hle
  · exact Ring.push_length_le _ _ _
  · exact hle

theorem StreamStep.retired_length (h : StreamStep stream observation outcome written)
    (hle : stream.retiredScopes.length ≤ kMaxRetiredScopes) :
    written.retiredScopes.length ≤ kMaxRetiredScopes := by
  have hgap (entered : StreamState) : (entered.openGap outcome.revisionGap).retiredScopes =
      entered.retiredScopes := by
    cases outcome.revisionGap <;> rfl
  cases h with
  | untouched => exact hle
  | superseded => exact hle
  | refused hs =>
    have hentered := enterScope_retired_length hs hle
    exact hentered
  | refusedLate hs _ _ hw =>
    rcases hw with rfl | rfl
    · rw [hgap]
      exact enterScope_retired_length hs hle
    · show (StreamState.openGap _ _).retiredScopes.length ≤ _
      rw [hgap]
      exact enterScope_retired_length hs hle
  | advanced hs =>
    show (StreamState.openGap _ _).retiredScopes.length ≤ _
    rw [hgap]
    exact enterScope_retired_length hs hle

namespace EvidenceStore

theorem streamFor_of_some {store : EvidenceStore} (h : store.streams[source]? = some stream) :
    store.streamFor source = stream := by
  rw [streamFor, ExtTreeMap.getD_eq_getD_getElem?, h]
  rfl

/-- The slot of an observation after it was recorded. -/
structure Records (before : Slot) (observation : Observation) (source : SourceRecord)
    (gapEpoch : UInt64) (bound : UInt64) (now : TimePoint) (after : Slot) : Prop where
  key : after.key = before.key
  history : after.history = Ring.push bound.toNat before.history
    { observation := observation, acceptedAt := now, authority := source.authority
      provenance := source.provenance }
  continuity : after.continuity = match counterSampleOf observation gapEpoch with
    | some sample => before.continuity.insert observation.provenance.source
        (observeCounter (before.continuity.getD observation.provenance.source {}) sample).1
    | none => before.continuity

theorem observeReading_records (slot : Slot) (observation : Observation) (gapEpoch : UInt64)
    (outcome : AcceptOutcome) (now : TimePoint) :
    (slot.observeReading observation gapEpoch outcome now).1.key = slot.key ∧
      (slot.observeReading observation gapEpoch outcome now).1.history = slot.history ∧
      (slot.observeReading observation gapEpoch outcome now).1.continuity =
        match counterSampleOf observation gapEpoch with
        | some sample => slot.continuity.insert observation.provenance.source
            (observeCounter (slot.continuity.getD observation.provenance.source {}) sample).1
        | none => slot.continuity := by
  unfold Slot.observeReading
  cases counterSampleOf observation gapEpoch with
  | none => exact ⟨rfl, rfl, rfl⟩
  | some sample =>
    simp only [Slot.observe]
    cases (observeCounter (slot.continuity.getD observation.provenance.source {})
      sample).2.discontinuity <;>
      cases (observeCounter (slot.continuity.getD observation.provenance.source {})
        sample).2.sequenceGap <;>
      exact ⟨rfl, rfl, rfl⟩

theorem recordEvidence_records (store : EvidenceStore) (observation : Observation)
    (source : SourceRecord) (stream : StreamState) (outcome : AcceptOutcome) (now : TimePoint) :
    ∃ slot, (store.recordEvidence observation source stream outcome now).1.slots =
        store.slots.insert ⟨observation.link, observation.key⟩ slot ∧
      Records (store.slotFor ⟨observation.link, observation.key⟩) observation source
        stream.gapCount store.policy.limits.maxEvidencePerKey now slot := by
  obtain ⟨hkey, hhistory, hcontinuity⟩ := observeReading_records
    (store.slotFor ⟨observation.link, observation.key⟩) observation stream.gapCount outcome now
  refine ⟨_, rfl, ?_⟩
  split
  · exact ⟨hkey, congrArg (Ring.push _ · _) hhistory, hcontinuity⟩
  · exact ⟨hkey, congrArg (Ring.push _ · _) hhistory, hcontinuity⟩

theorem accept_slots (store : EvidenceStore) (observation : Observation)
    (context : AcceptContext) (now : TimePoint) :
    ((store.accept observation context now).2.accepted = false ∧
        (store.accept observation context now).1.slots = store.slots) ∨
      ((store.accept observation context now).2.accepted = true ∧
        ∃ source slot, store.admission observation context = .ok source ∧
          (∀ reason, ¬store.LateFence observation source reason) ∧
          (store.accept observation context now).1.slots =
            store.slots.insert ⟨observation.link, observation.key⟩ slot ∧
          Records (store.slotFor ⟨observation.link, observation.key⟩) observation source
            ((store.accept observation context now).1.streamFor
              observation.provenance.source).gapCount
            store.policy.limits.maxEvidencePerKey now slot) := by
  have hstep := store.accept_step observation context now
  generalize (store.accept observation context now).1 = after at *
  generalize (store.accept observation context now).2 = outcome at *
  cases hstep with
  | recorded ha hs hv hnone =>
    rename_i source stream changed gap
    obtain ⟨slot, hslots, hrecords⟩ := (store.countGap gap).recordEvidence_records observation
      source (stream.openGap gap) { revisionGap := gap, scopeChanged := changed } now
    refine .inr ⟨rfl, source, slot, ha, hnone, hslots, ?_⟩
    have hfor : ((store.countGap gap).recordEvidence observation source (stream.openGap gap)
        { revisionGap := gap, scopeChanged := changed } now).1.streamFor
          observation.provenance.source = (stream.openGap gap).advance observation :=
      ExtTreeMap.getD_insert_self
    rw [hfor]
    exact hrecords
  | _ => exact .inl ⟨rfl, rfl⟩

theorem accept_policy (store : EvidenceStore) (observation : Observation)
    (context : AcceptContext) (now : TimePoint) :
    (store.accept observation context now).1.policy = store.policy := by
  have hstep := store.accept_step observation context now
  generalize (store.accept observation context now).1 = after at *
  generalize (store.accept observation context now).2 = outcome at *
  cases hstep <;> rfl

theorem Sound.slotFor {known : SourceId → Prop} {store : EvidenceStore} (h : store.Sound known)
    {slotKey : SlotKey} (hlink : slotKey.link.valid = true) :
    (store.slotFor slotKey).Sound known store.policy.limits slotKey := by
  rw [EvidenceStore.slotFor, ExtTreeMap.getD_eq_getD_getElem?]
  cases hslot : store.slots[slotKey]? with
  | none => exact ⟨rfl, hlink, Nat.zero_le _, fun _ _ hc => by simp at hc⟩
  | some slot => exact h.slots slotKey slot hslot

theorem Records.sound {known : SourceId → Prop} {before after : Slot}
    (hr : Records before observation source gapEpoch limits.maxEvidencePerKey now after)
    (h : before.Sound known limits slotKey) (hknown : known observation.provenance.source) :
    after.Sound known limits slotKey where
  identity := hr.key.trans h.identity
  link := h.link
  history := by
    rw [hr.history]
    exact Ring.push_length_le _ _ _
  continuity := by
    rw [hr.continuity]
    split
    · exact OrderedMap.forall_insert h.continuity hknown
    · exact h.continuity

theorem Sound.streamFor_retired {known : SourceId → Prop} {store : EvidenceStore}
    (h : store.Sound known) (source : SourceId) :
    (store.streamFor source).retiredScopes.length ≤ kMaxRetiredScopes := by
  rw [EvidenceStore.streamFor, ExtTreeMap.getD_eq_getD_getElem?]
  cases hstream : store.streams[source]? with
  | none => exact Nat.zero_le _
  | some stream => exact (h.streams source stream hstream).retired

/-- Handling an observation keeps a sound store sound. -/
theorem Sound.accept {known : SourceId → Prop} {store : EvidenceStore} (h : store.Sound known)
    (observation : Observation) (context : AcceptContext) (now : TimePoint)
    (hknown : ∀ source, context.source = some source → known observation.provenance.source) :
    (store.accept observation context now).1.Sound known := by
  have hslots : (∀ (slotKey : SlotKey) slot,
        (store.accept observation context now).1.slots[slotKey]? = some slot →
          slot.Sound known store.policy.limits slotKey) ∧
      (store.accept observation context now).1.slots.size ≤
        (store.policy.limits.maxLinks * kMaxKeysPerLink).toNat := by
    rcases store.accept_slots observation context now with
      ⟨-, hsame⟩ | ⟨-, source, slot, hadmission, hlate, hwritten, hrecords⟩
    · rw [hsame]
      exact ⟨h.slots, h.slotCount⟩
    · obtain ⟨hsource, -, -, -, hlink, -⟩ := admission_ok hadmission
      rw [hwritten]
      refine ⟨OrderedMap.forall_insert h.slots
          (hrecords.sound (h.slotFor hlink) (hknown source hsource)),
        OrderedMap.size_insert_le h.slotCount (fun hfull => ?_) _⟩
      by_contra hnew
      exact hlate .storeFull ⟨by simpa using hnew, decide_eq_true hfull⟩
  constructor
  · rw [accept_policy]
    exact hslots.1
  · rw [accept_policy]
    exact hslots.2
  · intro source stream hstream
    by_cases hsource : observation.provenance.source = source
    · subst hsource
      refine ⟨?_, ?_⟩
      · cases hadmission : store.admission observation context with
        | ok source => exact hknown source (admission_ok hadmission).1
        | error reason =>
          have hsame : (store.accept observation context now).1.streams = store.streams := by
            unfold EvidenceStore.accept
            rw [hadmission]
            rfl
          rw [hsame] at hstream
          exact (h.streams _ _ hstream).source
      · rw [← streamFor_of_some hstream]
        exact (store.accept_streamStep observation context now).retired_length
          (h.streamFor_retired _)
    · rw [accept_stream_other _ _ _ _ hsource] at hstream
      exact h.streams source stream hstream

end EvidenceStore

/-- The log is what its events, recorded in order into an empty log, leave. -/
def TransitionLog.Replays (log : TransitionLog) (limits : Limits) (events : List TransitionEvent) :
    Prop :=
  log = TransitionLog.recordAll { limits := limits } events

/-- What every observatory reached by the runtime satisfies. -/
structure Observatory.Sound (σ : Observatory) : Prop where
  registryPolicy : σ.registry.policy = σ.config.policy
  storePolicy : σ.store.policy = σ.config.policy
  registry : σ.registry.Sound
  store : σ.store.Sound fun source => (σ.registry.sources[source]?).isSome
  log : ∃ events, σ.transitions.Replays σ.config.policy.limits events

namespace Observatory

theorem sound_fresh (config : RuntimeConfig) : (fresh config).Sound where
  registryPolicy := rfl
  storePolicy := rfl
  registry := LinkRegistry.sound_empty _
  store := ⟨fun _ _ h => by simp [fresh] at h, Nat.zero_le _, fun _ _ h => by simp [fresh] at h⟩
  log := ⟨[], rfl⟩

theorem Sound.follow {σ σ' : Observatory} (h : σ.Sound) (hconfig : σ'.config = σ.config)
    (hregistry : σ.registry.Follows σ'.registry) (hpolicy : σ'.store.policy = σ.store.policy)
    (hstore : σ'.store.Sound fun source => (σ.registry.sources[source]?).isSome)
    (hlog : ∃ events, σ'.transitions = σ.transitions.recordAll events) : σ'.Sound where
  registryPolicy := by rw [hregistry.policy, hconfig, h.registryPolicy]
  storePolicy := by rw [hpolicy, hconfig, h.storePolicy]
  registry := hregistry.sound h.registry
  store := hstore.mono hregistry.known
  log := by
    obtain ⟨events, hevents⟩ := h.log
    obtain ⟨more, hmore⟩ := hlog
    refine ⟨events ++ more, ?_⟩
    rw [TransitionLog.Replays, hmore, hevents, hconfig, TransitionLog.recordAll_append]

theorem Sound.followRegistry {σ σ' : Observatory} (h : σ.Sound) (hconfig : σ'.config = σ.config)
    (hregistry : σ.registry.Follows σ'.registry) (hstore : σ'.store = σ.store)
    (hlog : ∃ events, σ'.transitions = σ.transitions.recordAll events) : σ'.Sound :=
  h.follow hconfig hregistry (by rw [hstore]) (by rw [hstore]; exact h.store) hlog

theorem Sound.followAccept {σ σ' : Observatory} (h : σ.Sound) (hconfig : σ'.config = σ.config)
    (hregistry : σ.registry.Follows σ'.registry)
    (haccept : σ.store.accept observation context instant = (σ'.store, outcome))
    (hsource : σ.registry.sources[observation.provenance.source]? = context.source)
    (hlog : ∃ events, σ'.transitions = σ.transitions.recordAll events) : σ'.Sound := by
  have hstore : σ'.store = (σ.store.accept observation context instant).1 := by rw [haccept]
  refine h.follow hconfig hregistry ?_ ?_ hlog
  · rw [hstore, EvidenceStore.accept_policy]
  · rw [hstore]
    exact h.store.accept observation context instant fun source hs => by rw [hsource, hs]; rfl

theorem Sound.applyObservation {σ : Observatory} (h : σ.Sound) (observation : Observation)
    (instant : TimePoint) : (σ.applyObservation observation instant).1.Sound := by
  have hstep := σ.applyObservation_step observation instant
  generalize (σ.applyObservation observation instant).1 = σ' at *
  generalize (σ.applyObservation observation instant).2 = outcome at *
  cases hstep with
  | refused context hsource _ _ hconfig hregistry hlog haccept =>
    refine h.followAccept hconfig ?_ haccept hsource ⟨[], hlog⟩
    rw [hregistry]
    exact .refl _
  | unknownLink _ _ _ _ _ hconfig hregistry hlog hstore _ =>
    refine h.followRegistry hconfig ?_ hstore ⟨[], hlog⟩
    rw [hregistry]
    exact σ.registry.ensureImplicitLink_follows _ _ _
  | behind registry _ _ _ hensured hobs _ hconfig hregistry hlog hstore _ =>
    refine h.followRegistry hconfig ?_ hstore ⟨[], hlog⟩
    have hobserved := registry.observeGeneration_follows observation.link
      observation.provenance.generation
    rw [hobs] at hobserved
    rw [hregistry]
    exact (hensured.follows.trans hobserved).trans
      (LinkRegistry.updateEntry_follows _ _ _ fun _ => rfl)
  | decided registry hsource _ _ hensured hobs _ hconfig haccept hregistry hlog =>
    obtain ⟨events, hevents, -⟩ := hlog
    refine h.followAccept hconfig ?_ haccept hsource ⟨events, hevents⟩
    have hobserved := registry.observeGeneration_follows observation.link
      observation.provenance.generation
    rw [hobs] at hobserved
    rw [hregistry]
    refine (hensured.follows.trans hobserved).trans ?_
    split
    · exact LinkRegistry.updateEntry_follows _ _ _ fun _ => rfl
    · exact LinkRegistry.updateEntry_follows _ _ _ fun _ => rfl

theorem Sound.applySource {σ : Observatory} (h : σ.Sound) (declaration : SourceDecl) :
    (σ.applySource declaration).1.Sound := by
  unfold Observatory.applySource
  simp only
  generalize hregistered : σ.registry.registerSource _ = registered
  have hfollows : σ.registry.Follows registered.1 := by
    rw [← hregistered]
    exact σ.registry.registerSource_follows _
  split
  · exact h.followRegistry rfl hfollows rfl ⟨[], rfl⟩
  · generalize hretired : (if declaration.retired then _ else _ : LinkRegistry × Status) = retired
    have hretires : registered.1.Follows retired.1 := by
      rw [← hretired]
      split
      · exact registered.1.retireSource_follows _
      · exact .refl _
    split
    · exact h.followRegistry rfl (hfollows.trans hretires) rfl ⟨[], rfl⟩
    · exact h.followRegistry rfl (hfollows.trans hretires) rfl ⟨[], rfl⟩

theorem Sound.applyLink {σ : Observatory} (h : σ.Sound) (declaration : LinkDecl)
    (instant : TimePoint) : (σ.applyLink declaration instant).1.Sound := by
  unfold Observatory.applyLink
  simp only
  have hfollows := σ.registry.registerLink_follows (makeLinkFacts declaration) instant
  generalize σ.registry.registerLink (makeLinkFacts declaration) instant = registered at *
  split
  · exact h.followRegistry rfl hfollows rfl ⟨[], rfl⟩
  · have hobserved := registered.1.observeGeneration_follows (makeLinkFacts declaration).id
      (makeLinkFacts declaration).generation
    generalize registered.1.observeGeneration (makeLinkFacts declaration).id
      (makeLinkFacts declaration).generation = observed at *
    split
    · split
      · exact h.followRegistry rfl (hfollows.trans hobserved) rfl ⟨[_, _], rfl⟩
      · exact h.followRegistry rfl (hfollows.trans hobserved) rfl ⟨[_], rfl⟩
    · split
      · exact h.followRegistry rfl (hfollows.trans hobserved) rfl ⟨[_], rfl⟩
      · exact h.followRegistry rfl (hfollows.trans hobserved) rfl ⟨[], rfl⟩

theorem Sound.applyRecord {σ : Observatory} (h : σ.Sound) (record : ParsedRecord)
    (instant : TimePoint) : (σ.applyRecord record instant).1.Sound := by
  cases record with
  | none => exact h
  | source declaration => exact h.applySource declaration
  | link declaration => exact h.applyLink declaration instant
  | observation declaration => exact h.applyObservation _ instant

end Observatory

end LinkObservatory
