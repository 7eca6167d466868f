import LinkObservatory.Snapshot
import LinkObservatory.Observatory

namespace LinkObservatory
set_option autoImplicit true

open Std

/-- Registers a persisted source and retires it again if it was retired. -/
def LinkRegistry.restoreSource (registry : LinkRegistry) (source : SourceRecord) :
    LinkRegistry × Status :=
  let registered := registry.registerSource { source with retired := false }
  if !registered.2.ok then
    (registered.1, .of .corruptData "snapshot source record could not be restored")
  else if source.retired then registered.1.retireSource source.id
  else (registered.1, .success)

namespace Observatory

def collectSnapshot (σ : Observatory) (now : TimePoint) : SnapshotContents :=
  { formatVersion := kSnapshotFormatVersion
    runtime := .fromName σ.config.runtimeName
    incarnation := .fromName σ.config.incarnationName
    savedAt := now
    links := σ.registry.persistedLinks
    sources := σ.registry.sourceList
    slots := σ.store.persistedSlots
    streams := σ.store.persistedStreams
    transitions := σ.transitions.recent σ.config.policy.limits.maxTotalTransitions
    totalAccepted := σ.store.totalAccepted
    totalFenced := σ.store.totalFenced
    duplicates := σ.store.duplicates
    revisionGaps := σ.store.revisionGaps
    counterResets := σ.store.counterResets
    counterWraps := σ.store.counterWraps
    transitionsDropped := σ.transitions.dropped }

/-- The state `restore_from` starts with. -/
def cleared (σ : Observatory) : Observatory :=
  { σ with
    registry := { policy := σ.config.policy }
    store := { policy := σ.config.policy }
    transitions := σ.transitions.clear
    observedStates := ∅
    lastOperText := ∅
    lastAdminText := ∅ }

def restoreRegistry (policy : Policy) (contents : SnapshotContents) : LinkRegistry × Status :=
  let sources := restoreEach LinkRegistry.restoreSource { policy := policy } contents.sources
  if !sources.2.ok then sources
  else restoreEach LinkRegistry.restore sources.1 contents.links

def restoreStore (policy : Policy) (contents : SnapshotContents) : EvidenceStore × Status :=
  let slots := restoreEach EvidenceStore.restore { policy := policy } contents.slots
  if !slots.2.ok then slots
  else restoreEach EvidenceStore.restoreStream slots.1 contents.streams

/-- Applies decoded contents: sources and links, then slots and streams, then transitions. -/
def restoreFrom (σ : Observatory) (contents : SnapshotContents) : Observatory × Status :=
  let registry := restoreRegistry σ.config.policy contents
  let σ := { σ.cleared with registry := registry.1 }
  if !registry.2.ok then (σ, registry.2)
  else
    let store := restoreStore σ.config.policy contents
    let σ := { σ with store := store.1 }
    if !store.2.ok then (σ, store.2)
    else
      ({ σ with
          transitions := contents.transitions.foldl TransitionLog.record σ.transitions
          store := σ.store.restoreTotals contents.totalAccepted contents.totalFenced
            contents.duplicates contents.revisionGaps contents.counterResets contents.counterWraps
          stats.recordsAccepted := contents.totalAccepted
          stats.recordsFenced := contents.totalFenced
          stats.transitionsRecorded := UInt64.ofNat contents.transitions.length }, .success)

def reload (σ : Observatory) (files : FileSystem) : Observatory × Status :=
  if σ.config.snapshotPath = "" then (σ, .of .invalidArgument "no snapshot path is configured")
  else
    let loaded := readSnapshot files σ.config.snapshotPath σ.config.policy
    match loaded.contents with
    | none =>
      ({ σ with
          restored := false
          loadDetail := if loaded.status.code = .notFound then "no snapshot present"
            else loaded.detail }, loaded.status)
    | some contents =>
      let applied := σ.restoreFrom contents
      if !applied.2.ok then
        ({ applied.1 with
            restored := false
            loadDetail := "snapshot could not be applied: " ++ applied.2.toString }, applied.2)
      else
        ({ applied.1 with
            restored := true
            loadedFromBackup := loaded.recoveredFromBackup
            loadDetail := if loaded.recoveredFromBackup then loaded.detail else "snapshot loaded"
            stats.snapshotReads := applied.1.stats.snapshotReads + 1
            stats.recoveries := applied.1.stats.recoveries +
              (if loaded.recoveredFromBackup then 1 else 0) }, .success)

end Observatory

section

variable {κ υ τ : Type} [DecidableEq κ] {cmp : κ → κ → Ordering} [TransCmp cmp] [LawfulEqCmp cmp]

theorem restoreEach_ok_iff (step : σ → α → σ × Status) (entries : σ → ExtTreeMap κ υ cmp)
    (key : α → κ) (sound : α → Prop) (bound : Nat) (tag : α → τ) (tagOf : υ → τ) (inv : σ → Prop)
    (hok : ∀ state item, inv state → ((step state item).2.ok = true ↔
      sound item ∧ (∀ v, (entries state)[key item]? = some v → tagOf v = tag item) ∧
        (bound ≤ (entries state).size → ((entries state)[key item]?).isSome)))
    (hstep : ∀ state item, inv state → (step state item).2.ok = true →
      inv (step state item).1 ∧ ∃ v, tagOf v = tag item ∧
        entries (step state item).1 = (entries state).insert (key item) v)
    (items : List α) (state : σ) (hinv : inv state) (hsize : (entries state).size ≤ bound) :
    (restoreEach step state items).2.ok = true ↔
      (∀ item ∈ items, sound item) ∧
      (∀ item ∈ items, ∀ v, (entries state)[key item]? = some v → tagOf v = tag item) ∧
      (items.Pairwise fun a b => key a = key b → tag a = tag b) ∧
      (entries state).size + (OrderedMap.freshKeys (entries state) (items.map key)).card ≤ bound := by
  induction items generalizing state with
  | nil => simp [restoreEach, Status.ok, Status.success, OrderedMap.freshKeys, hsize]
  | cons item items ih =>
    rw [restoreEach]
    by_cases hs : (step state item).2.ok = true
    · obtain ⟨hinv', v, hv, hentries⟩ := hstep state item hinv hs
      obtain ⟨hsound, htag, hroom⟩ := (hok state item hinv).1 hs
      have hsize' : (entries (step state item).1).size ≤ bound := by
        rw [hentries]
        exact OrderedMap.size_insert_le hsize hroom v
      simp only [hs, if_true]
      rw [ih _ hinv' hsize', hentries, List.map_cons,
        OrderedMap.size_add_freshKeys (entries state) (key item) (items.map key) v]
      simp only [List.mem_cons, forall_eq_or_imp, List.pairwise_cons, OrderedMap.lookup_insert]
      constructor
      · rintro ⟨h1, h2, h3, h4⟩
        refine ⟨⟨hsound, h1⟩, ⟨htag, fun b hb w hw => ?_⟩, ⟨fun b hb hkey => ?_, h3⟩, h4⟩
        · by_cases hkey : key item = key b
          · have hb' := h2 b hb v (if_pos hkey)
            rw [← hkey] at hw
            rw [htag w hw, ← hv, hb']
          · exact h2 b hb w (by rw [if_neg hkey]; exact hw)
        · rw [← hv]
          exact h2 b hb v (if_pos hkey)
      · rintro ⟨⟨-, h1⟩, ⟨-, h2⟩, ⟨hhead, h3⟩, h4⟩
        refine ⟨h1, fun b hb w hw => ?_, h3, h4⟩
        by_cases hkey : key item = key b
        · rw [if_pos hkey] at hw
          cases hw
          rw [hv, hhead b hb hkey]
        · rw [if_neg hkey] at hw
          exact h2 b hb w hw
    · simp only [hs, Bool.false_eq_true, if_false]
      constructor
      · exact False.elim
      · rintro ⟨h1, h2, -, h4⟩
        refine absurd ((hok state item hinv).2 ⟨h1 _ (List.mem_cons_self ..),
          h2 _ (List.mem_cons_self ..), fun hfull => ?_⟩) hs
        by_contra hnew
        have hmem : key item ∈ OrderedMap.freshKeys (entries state) ((item :: items).map key) := by
          simpa [OrderedMap.freshKeys] using hnew
        have hpos := Finset.card_pos.2 ⟨_, hmem⟩
        omega

theorem restoreEach_bounded_iff {step : σ → α → σ × Status} (entries : σ → ExtTreeMap κ υ cmp)
    {key : α → κ} {sound : α → Prop} {bound : Nat} (inv : σ → Prop)
    (hok : ∀ state item, inv state → ((step state item).2.ok = true ↔
      sound item ∧ (bound ≤ (entries state).size → ((entries state)[key item]?).isSome)))
    (hstep : ∀ state item, inv state → (step state item).2.ok = true →
      inv (step state item).1 ∧ ∃ v, entries (step state item).1 =
        (entries state).insert (key item) v)
    (items : List α) (state : σ) (hinv : inv state) (hempty : entries state = ∅) :
    (restoreEach step state items).2.ok = true ↔
      (∀ item ∈ items, sound item) ∧ (items.map key).toFinset.card ≤ bound := by
  have h := restoreEach_ok_iff step entries key sound bound (fun _ => ()) (fun _ => ()) inv
    (fun state item hi => by
      rw [hok state item hi]
      exact and_congr_right fun _ => (and_iff_right fun _ _ => rfl).symm)
    (fun state item hi hs => by
      obtain ⟨hi', v, hv⟩ := hstep state item hi hs
      exact ⟨hi', v, rfl, hv⟩)
    items state hinv (by rw [hempty]; exact Nat.zero_le _)
  rw [h, hempty, OrderedMap.freshKeys_empty, ExtTreeMap.size_empty, Nat.zero_add]
  refine and_congr_right fun _ => ⟨fun hr => hr.2.2, fun hr => ⟨fun _ _ _ _ => rfl, ?_, hr⟩⟩
  exact List.pairwise_of_forall fun _ _ _ => rfl

end

namespace LinkRegistry

/-- What a source record must carry to be registered. -/
def SoundSource (source : SourceRecord) : Prop :=
  source.id.valid = true ∧ (source.name ≠ [] ∧ source.name.length ≤ 128) ∧
    source.provenance ≠ .unknown

theorem registerSource_ok_iff (registry : LinkRegistry) (source : SourceRecord) :
    (registry.registerSource source).2.ok = true ↔
      SoundSource source ∧
      (∀ existing, registry.sources[source.id]? = some existing →
        (existing.authority, existing.provenance) = (source.authority, source.provenance)) ∧
      (registry.policy.limits.maxSources.toNat ≤ registry.sources.size →
        (registry.sources[source.id]?).isSome) := by
  unfold registerSource SoundSource
  split
  · simp_all [Status.ok, Status.of]
  split
  · simp_all [Status.ok, Status.of]
    grind
  split
  · simp_all [Status.ok, Status.of]
  split
  · split
    · simp_all [Status.ok, Status.of]
      grind
    · simp_all [Status.ok, Status.success]
  · split
    · simp_all [Status.ok, Status.of]
    · simp_all [Status.ok, Status.success]

theorem registerSource_ok {registry : LinkRegistry}
    (h : (registry.registerSource source).2.ok = true) :
    ∃ record : SourceRecord, (record.authority, record.provenance) =
        (source.authority, source.provenance) ∧
      (registry.registerSource source).1 =
        { registry with sources := registry.sources.insert source.id record } := by
  obtain ⟨⟨hid, hname, hprovenance⟩, htag, hroom⟩ := (registry.registerSource_ok_iff source).1 h
  unfold registerSource
  rw [if_neg (by simp [hid]), if_neg (by grind), if_neg hprovenance]
  cases hfound : registry.sources[source.id]? with
  | some existing =>
    have heq := Prod.mk.inj (htag existing hfound)
    simp only
    rw [if_neg (by simp [heq.1, heq.2])]
    exact ⟨{ existing with name := source.name, retired := false, registered := true },
      htag existing hfound, rfl⟩
  | none =>
    have hlt : ¬ registry.sources.size ≥ registry.policy.limits.maxSources.toNat := fun hge => by
      simpa [hfound] using hroom hge
    simp only
    rw [if_neg hlt]
    exact ⟨{ source with registered := true }, rfl, rfl⟩

theorem restoreSource_ok_iff (registry : LinkRegistry) (source : SourceRecord) :
    (registry.restoreSource source).2.ok = true ↔
      SoundSource source ∧
      (∀ existing, registry.sources[source.id]? = some existing →
        (existing.authority, existing.provenance) = (source.authority, source.provenance)) ∧
      (registry.policy.limits.maxSources.toNat ≤ registry.sources.size →
        (registry.sources[source.id]?).isSome) := by
  refine Iff.trans ?_ (registry.registerSource_ok_iff { source with retired := false })
  unfold restoreSource
  simp only
  by_cases h : (registry.registerSource { source with retired := false }).2.ok = true
  · obtain ⟨record, -, hregistered⟩ := registerSource_ok h
    refine iff_of_true ?_ h
    rw [if_neg (by simp [h])]
    split
    · rw [hregistered]
      simp [retireSource, Status.ok, Status.success]
    · rfl
  · refine iff_of_false ?_ h
    rw [if_pos (by simp [h])]
    simp [Status.ok, Status.of]

theorem restoreSource_ok {registry : LinkRegistry}
    (h : (registry.restoreSource source).2.ok = true) :
    ∃ record : SourceRecord, (record.authority, record.provenance) =
        (source.authority, source.provenance) ∧
      (registry.restoreSource source).1 =
        { registry with sources := registry.sources.insert source.id record } := by
  have hregister := (registry.registerSource_ok_iff { source with retired := false }).2
    ((registry.restoreSource_ok_iff source).1 h)
  obtain ⟨record, htag, hregistered⟩ := registerSource_ok hregister
  unfold restoreSource
  simp only
  rw [if_neg (by simp [hregister])]
  split
  · refine ⟨{ record with retired := true }, htag, ?_⟩
    rw [hregistered]
    simp [retireSource, OrderedMap.insert_insert]
  · exact ⟨record, htag, hregistered⟩

theorem restore_ok_iff (registry : LinkRegistry) (link : PersistedLink) :
    (registry.restore link).2.ok = true ↔
      ((validateLinkFacts link.facts).ok = true ∧
        link.generations.retiredGenerations.length ≤ kMaxRetiredGenerations) ∧
      (registry.policy.limits.maxLinks.toNat ≤ registry.links.size →
        (registry.links[link.facts.id]?).isSome) := by
  unfold restore
  split
  · simp_all [Status.ok, Status.of]
  split
  · simp_all [Status.ok, Status.of]
  split
  · simp_all [Status.ok, Status.of]
  · simp_all [Status.ok, Status.success]

theorem restore_ok {registry : LinkRegistry} (h : (registry.restore link).2.ok = true) :
    (registry.restore link).1 =
      { registry with links := registry.links.insert link.facts.id link.toRecord } := by
  obtain ⟨⟨hvalid, hretired⟩, hroom⟩ := (registry.restore_ok_iff link).1 h
  unfold restore
  rw [if_neg (by simp [hvalid]), if_neg (by simpa using hroom), if_neg (Nat.not_lt.2 hretired)]

end LinkRegistry

/-- Whether decoded contents can be applied, read off the contents. -/
structure SnapshotContents.Restorable (contents : SnapshotContents) (policy : Policy) : Prop where
  sources : ∀ source ∈ contents.sources, LinkRegistry.SoundSource source
  sourceTags : contents.sources.Pairwise fun a b => a.id = b.id →
    (a.authority, a.provenance) = (b.authority, b.provenance)
  sourceCount : (contents.sources.map SourceRecord.id).toFinset.card ≤
    policy.limits.maxSources.toNat
  links : ∀ link ∈ contents.links, (validateLinkFacts link.facts).ok = true ∧
    link.generations.retiredGenerations.length ≤ kMaxRetiredGenerations
  linkCount : (contents.links.map fun link => link.facts.id).toFinset.card ≤
    policy.limits.maxLinks.toNat
  slots : ∀ slot ∈ contents.slots, slot.slot.link.valid = true ∧
    slot.history.length ≤ policy.limits.maxEvidencePerKey.toNat ∧
    slot.continuity.size ≤ policy.limits.maxSources.toNat
  slotCount : (contents.slots.map PersistedSlot.slot).toFinset.card ≤
    (policy.limits.maxLinks * kMaxKeysPerLink).toNat
  streams : ∀ stream ∈ contents.streams, stream.1.valid = true ∧
    stream.2.retiredScopes.length ≤ kMaxRetiredScopes
  streamCount : (contents.streams.map Prod.fst).toFinset.card ≤ policy.limits.maxSources.toNat

namespace Observatory

theorem restoreSources_ok_iff (policy : Policy) (sources : List SourceRecord) :
    (restoreEach LinkRegistry.restoreSource { policy := policy } sources).2.ok = true ↔
      (∀ source ∈ sources, LinkRegistry.SoundSource source) ∧
      (sources.Pairwise fun a b => a.id = b.id →
        (a.authority, a.provenance) = (b.authority, b.provenance)) ∧
      (sources.map SourceRecord.id).toFinset.card ≤ policy.limits.maxSources.toNat := by
  rw [restoreEach_ok_iff LinkRegistry.restoreSource LinkRegistry.sources SourceRecord.id
    LinkRegistry.SoundSource policy.limits.maxSources.toNat
    (fun source => (source.authority, source.provenance))
    (fun source => (source.authority, source.provenance)) (fun registry => registry.policy = policy)
    (fun registry source hp => by rw [registry.restoreSource_ok_iff, hp])
    (fun registry source hp hok => by
      obtain ⟨record, htag, heq⟩ := LinkRegistry.restoreSource_ok hok
      rw [heq]
      exact ⟨hp, record, htag, rfl⟩)
    sources { policy := policy } rfl (Nat.zero_le _)]
  rw [OrderedMap.freshKeys_empty, ExtTreeMap.size_empty, Nat.zero_add]
  refine and_congr_right fun _ => ⟨fun h => h.2, fun h => ⟨fun _ _ _ hv => ?_, h⟩⟩
  simp at hv

theorem restoreLinks_ok_iff {registry : LinkRegistry} (hempty : registry.links = ∅)
    (links : List PersistedLink) :
    (restoreEach LinkRegistry.restore registry links).2.ok = true ↔
      (∀ link ∈ links, (validateLinkFacts link.facts).ok = true ∧
        link.generations.retiredGenerations.length ≤ kMaxRetiredGenerations) ∧
      (links.map fun link => link.facts.id).toFinset.card ≤
        registry.policy.limits.maxLinks.toNat :=
  restoreEach_bounded_iff LinkRegistry.links
    (fun state => state.policy = registry.policy)
    (fun state link hp => by rw [state.restore_ok_iff, hp])
    (fun state link hp hok => by
      rw [LinkRegistry.restore_ok hok]
      exact ⟨hp, link.toRecord, rfl⟩)
    links registry rfl hempty

theorem restoreSlots_ok_iff (policy : Policy) (slots : List PersistedSlot) :
    (restoreEach EvidenceStore.restore { policy := policy } slots).2.ok = true ↔
      (∀ slot ∈ slots, slot.slot.link.valid = true ∧
        slot.history.length ≤ policy.limits.maxEvidencePerKey.toNat ∧
        slot.continuity.size ≤ policy.limits.maxSources.toNat) ∧
      (slots.map PersistedSlot.slot).toFinset.card ≤
        (policy.limits.maxLinks * kMaxKeysPerLink).toNat :=
  restoreEach_bounded_iff EvidenceStore.slots
    (fun state => state.policy = policy)
    (fun state slot hp => by
      rw [state.restore_ok_iff, EvidenceStore.full, hp, decide_eq_true_iff]
      tauto)
    (fun state slot hp hok => by
      rw [EvidenceStore.restore_ok hok]
      exact ⟨hp, slot.toSlot, rfl⟩)
    slots { policy := policy } rfl rfl

theorem restoreStreams_ok_iff {store : EvidenceStore} (hempty : store.streams = ∅)
    (streams : List (SourceId × StreamState)) :
    (restoreEach EvidenceStore.restoreStream store streams).2.ok = true ↔
      (∀ stream ∈ streams, stream.1.valid = true ∧
        stream.2.retiredScopes.length ≤ kMaxRetiredScopes) ∧
      (streams.map Prod.fst).toFinset.card ≤ store.policy.limits.maxSources.toNat :=
  restoreEach_bounded_iff EvidenceStore.streams
    (fun state => state.policy = store.policy)
    (fun state stream hp => by
      rw [state.restoreStream_ok_iff, hp]
      tauto)
    (fun state stream hp hok => by
      rw [EvidenceStore.restoreStream_ok hok]
      exact ⟨hp, stream.2, rfl⟩)
    streams store rfl hempty

theorem restoreSources_frame
    (hok : (restoreEach LinkRegistry.restoreSource { policy := policy } sources).2.ok = true) :
    (restoreEach LinkRegistry.restoreSource { policy := policy } sources).1.policy = policy ∧
      (restoreEach LinkRegistry.restoreSource { policy := policy } sources).1.links = ∅ :=
  restoreEach_induction (motive := fun registry _ => registry.policy = policy ∧ registry.links = ∅)
    (fun registry source sources hm hs => by
      obtain ⟨record, -, heq⟩ := LinkRegistry.restoreSource_ok hs
      rw [heq]
      exact hm)
    ⟨rfl, rfl⟩ hok

theorem restoreSlots_frame
    (hok : (restoreEach EvidenceStore.restore { policy := policy } slots).2.ok = true) :
    (restoreEach EvidenceStore.restore { policy := policy } slots).1.policy = policy ∧
      (restoreEach EvidenceStore.restore { policy := policy } slots).1.streams = ∅ :=
  restoreEach_induction (motive := fun store _ => store.policy = policy ∧ store.streams = ∅)
    (fun store slot slots hm hs => by
      rw [EvidenceStore.restore_ok hs]
      exact hm)
    ⟨rfl, rfl⟩ hok

theorem restoreRegistry_ok_iff (policy : Policy) (contents : SnapshotContents) :
    (restoreRegistry policy contents).2.ok = true ↔
      (restoreEach LinkRegistry.restoreSource { policy := policy } contents.sources).2.ok = true ∧
      (∀ link ∈ contents.links, (validateLinkFacts link.facts).ok = true ∧
        link.generations.retiredGenerations.length ≤ kMaxRetiredGenerations) ∧
      (contents.links.map fun link => link.facts.id).toFinset.card ≤
        policy.limits.maxLinks.toNat := by
  unfold restoreRegistry
  simp only
  by_cases hok : (restoreEach LinkRegistry.restoreSource { policy := policy }
      contents.sources).2.ok = true
  · obtain ⟨hpolicy, hempty⟩ := restoreSources_frame hok
    rw [if_neg (by simp [hok]), restoreLinks_ok_iff hempty, hpolicy]
    exact (and_iff_right hok).symm
  · rw [if_pos (by simp [hok])]
    exact ⟨fun h => absurd h hok, fun h => absurd h.1 hok⟩

theorem restoreStore_ok_iff (policy : Policy) (contents : SnapshotContents) :
    (restoreStore policy contents).2.ok = true ↔
      (restoreEach EvidenceStore.restore { policy := policy } contents.slots).2.ok = true ∧
      (∀ stream ∈ contents.streams, stream.1.valid = true ∧
        stream.2.retiredScopes.length ≤ kMaxRetiredScopes) ∧
      (contents.streams.map Prod.fst).toFinset.card ≤ policy.limits.maxSources.toNat := by
  unfold restoreStore
  simp only
  by_cases hok : (restoreEach EvidenceStore.restore { policy := policy }
      contents.slots).2.ok = true
  · obtain ⟨hpolicy, hempty⟩ := restoreSlots_frame hok
    rw [if_neg (by simp [hok]), restoreStreams_ok_iff hempty, hpolicy]
    exact (and_iff_right hok).symm
  · rw [if_pos (by simp [hok])]
    exact ⟨fun h => absurd h hok, fun h => absurd h.1 hok⟩

/-- Contents are applied without an error exactly when they are restorable. -/
theorem restoreFrom_ok_iff (σ : Observatory) (contents : SnapshotContents) :
    (σ.restoreFrom contents).2.ok = true ↔ contents.Restorable σ.config.policy := by
  have hall : (σ.restoreFrom contents).2.ok = true ↔
      (restoreRegistry σ.config.policy contents).2.ok = true ∧
        (restoreStore σ.config.policy contents).2.ok = true := by
    unfold restoreFrom
    simp only
    split
    · simp_all
    split
    · simp_all [cleared]
    · simp_all [cleared, Status.ok, Status.success]
  rw [hall, restoreRegistry_ok_iff, restoreStore_ok_iff, restoreSources_ok_iff, restoreSlots_ok_iff]
  constructor
  · rintro ⟨⟨⟨h1, h2, h3⟩, h4, h5⟩, ⟨h6, h7⟩, h8, h9⟩
    exact ⟨h1, h2, h3, h4, h5, h6, h7, h8, h9⟩
  · rintro ⟨h1, h2, h3, h4, h5, h6, h7, h8, h9⟩
    exact ⟨⟨⟨h1, h2, h3⟩, h4, h5⟩, ⟨h6, h7⟩, h8, h9⟩

theorem restoreFrom_registry (σ : Observatory) (contents : SnapshotContents) :
    (σ.restoreFrom contents).1.registry = (restoreRegistry σ.config.policy contents).1 ∧
      (σ.restoreFrom contents).1.observedStates = ∅ := by
  unfold restoreFrom
  simp only
  split
  · exact ⟨rfl, rfl⟩
  split
  · exact ⟨rfl, rfl⟩
  · exact ⟨rfl, rfl⟩

/-- The state that a snapshot replaces is what it was. -/
structure SameState (before after : Observatory) : Prop where
  registry : after.registry = before.registry
  store : after.store = before.store
  transitions : after.transitions = before.transitions
  observedStates : after.observedStates = before.observedStates
  lastOperText : after.lastOperText = before.lastOperText
  lastAdminText : after.lastAdminText = before.lastAdminText

theorem reload_failed (σ : Observatory) (hpath : σ.config.snapshotPath ≠ "")
    (hread : (readSnapshot files σ.config.snapshotPath σ.config.policy).contents = some contents)
    (hbad : ¬ contents.Restorable σ.config.policy) :
    (σ.reload files).2.ok = false ∧
      (σ.reload files).1.registry = (restoreRegistry σ.config.policy contents).1 ∧
      (σ.reload files).1.observedStates = ∅ := by
  have hfailed : (σ.restoreFrom contents).2.ok = false := by
    rwa [← Bool.not_eq_true, restoreFrom_ok_iff]
  unfold reload
  rw [if_neg hpath]
  simp only [hread, hfailed]
  exact ⟨hfailed, restoreFrom_registry σ contents⟩

/-- Reloading is all or nothing, for every state, exactly when what the loader returns can also be
applied. -/
theorem reload_atomic_iff (config : RuntimeConfig) (files : FileSystem) :
    (∀ σ : Observatory, σ.config = config → (σ.reload files).2.ok = false →
        SameState σ (σ.reload files).1) ↔
      (config.snapshotPath ≠ "" → ∀ contents,
        (readSnapshot files config.snapshotPath config.policy).contents = some contents →
          contents.Restorable config.policy) := by
  constructor
  · intro h hpath contents hread
    by_contra hbad
    -- any state that has observed a link loses that observation
    obtain ⟨hfailed, -, hempty⟩ := reload_failed
      { fresh config with observedStates := ExtTreeMap.insert ∅ {} .unknown } hpath hread hbad
    have hsame := (h _ rfl hfailed).observedStates
    rw [hempty] at hsame
    exact ExtTreeMap.insert_ne_empty hsame.symm
  · rintro h σ rfl hfailed
    unfold reload at hfailed ⊢
    split
    · exact ⟨rfl, rfl, rfl, rfl, rfl, rfl⟩
    rename_i hpath
    rw [if_neg hpath] at hfailed
    simp only at hfailed ⊢
    cases hread : (readSnapshot files σ.config.snapshotPath σ.config.policy).contents with
    | none => exact ⟨rfl, rfl, rfl, rfl, rfl, rfl⟩
    | some contents =>
      have hok := (restoreFrom_ok_iff σ contents).2 (h hpath contents hread)
      simp only [hread, hok, Bool.not_true, Bool.false_eq_true, if_false] at hfailed
      cases hfailed

theorem applySource_config (σ : Observatory) (declaration : SourceDecl) :
    (σ.applySource declaration).1.config = σ.config := by
  unfold applySource
  simp only
  split
  · rfl
  split
  · split <;> rfl
  · split <;> rfl

/-- The policy of a process that keeps a single item of evidence per key. -/
def narrowPolicy : Policy :=
  { makeDefaultPolicy with limits := { makeDefaultPolicy.limits with maxEvidencePerKey := 1 } }

/-- A snapshot that a process with a wider evidence bound may have written. -/
def wideSnapshot : SnapshotContents :=
  { slots := [{ slot := { link := .fromHash { hi := 1, lo := 0 } }, history := [{}, {}] }] }

theorem wideSnapshot_loads :
    decodeContainer narrowPolicy.limits wideSnapshot.container = .ok wideSnapshot.stamped := by
  refine decodeContainer_fits (by decide +kernel) ?_
  constructor <;> simp [wideSnapshot, PersistedSlot.Fits, maxSlots] <;> decide

/-- The snapshot passes every integrity check, and the process it is loaded into loses its
sources when its evidence turns out to exceed the configured bound. -/
theorem reload_atomic_fails :
    ¬ ∀ (σ : Observatory) (files : FileSystem), (σ.reload files).2.ok = false →
      SameState σ (σ.reload files).1 := by
  intro h
  let config : RuntimeConfig := { snapshotPath := "state", policy := narrowPolicy }
  obtain ⟨σ, hconfig, hsources⟩ :
      ∃ σ : Observatory, σ.config = config ∧ σ.registry.sources.size = 1 :=
    ⟨_, applySource_config (fresh config)
      { name := ascii "probe", authority := .primary, provenance := .real }, by decide +kernel⟩
  let files : FileSystem := fun path =>
    if path = "state" then some wideSnapshot.container else none
  have hread : (readSnapshot files "state" narrowPolicy).contents =
      some wideSnapshot.stamped := by
    have hloaded : (loadOnce files "state" narrowPolicy).contents = some wideSnapshot.stamped :=
      loadOnce_decoded rfl (by rw [wideSnapshot.container_length]; decide +kernel)
        wideSnapshot_loads
    rw [readSnapshot_contents, hloaded, Option.some_or]
  have hbad : ¬ wideSnapshot.stamped.Restorable narrowPolicy := fun hr =>
    absurd (hr.slots _ (List.mem_singleton.2 rfl)).2.1 (by decide)
  have hread' : (readSnapshot files σ.config.snapshotPath σ.config.policy).contents =
      some wideSnapshot.stamped := by rwa [hconfig]
  obtain ⟨hfailed, hregistry, -⟩ := reload_failed σ (by rw [hconfig]; decide) hread'
    (by rw [hconfig]; exact hbad)
  have hsame := (h σ files hfailed).registry
  rw [hregistry, hconfig] at hsame
  rw [← hsame] at hsources
  exact absurd hsources (by decide)

end Observatory

end LinkObservatory
