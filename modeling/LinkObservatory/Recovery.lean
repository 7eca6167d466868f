import LinkObservatory.Soundness

namespace LinkObservatory
set_option autoImplicit true

open Std

section

variable {κ υ : Type} {cmp : κ → κ → Ordering} [TransCmp cmp] [LawfulEqCmp cmp]

omit [LawfulEqCmp cmp] in
theorem restoreEach_foldl {step : σ → α → σ × Status} (entries : σ → ExtTreeMap κ υ cmp)
    (key : α → κ) (value : α → υ) (sound : α → Prop) (inv : σ → Prop)
    (hstep : ∀ state item, inv state → sound item → (step state item).2.ok = true →
      inv (step state item).1 ∧
        entries (step state item).1 = (entries state).insert (key item) (value item))
    (hsound : ∀ item ∈ items, sound item) (hinv : inv state)
    (hok : (restoreEach step state items).2.ok = true) :
    inv (restoreEach step state items).1 ∧
      entries (restoreEach step state items).1 =
        items.foldl (fun acc item => acc.insert (key item) (value item)) (entries state) := by
  have h := restoreEach_induction
    (motive := fun state' items' => (∀ item ∈ items', sound item) ∧ inv state' ∧
      items'.foldl (fun acc item => acc.insert (key item) (value item)) (entries state') =
        items.foldl (fun acc item => acc.insert (key item) (value item)) (entries state))
    (fun state' item items' hm hs => by
      obtain ⟨hall, hinv', hfold⟩ := hm
      obtain ⟨hnext, hentries⟩ := hstep state' item hinv' (hall item (List.mem_cons_self ..)) hs
      refine ⟨fun i hi => hall i (List.mem_cons_of_mem _ hi), hnext, ?_⟩
      rw [hentries]
      exact hfold)
    ⟨hsound, hinv, rfl⟩ hok
  exact h.2

theorem foldl_insert_entries {m : ExtTreeMap κ υ cmp} {key : α → κ} {value : α → υ}
    (pack : κ × υ → α)
    (h : ∀ k v, m[k]? = some v → key (pack (k, v)) = k ∧ value (pack (k, v)) = v) :
    (m.toList.map pack).foldl (fun acc item => acc.insert (key item) (value item)) ∅ = m := by
  rw [List.foldl_map]
  calc m.toList.foldl (fun acc entry => acc.insert (key (pack entry)) (value (pack entry))) ∅
      = m.toList.foldl (fun acc entry => acc.insert entry.1 entry.2) ∅ := by
        refine List.foldl_ext _ _ _ fun acc entry hentry => ?_
        obtain ⟨hkey, hvalue⟩ := h entry.1 entry.2
          (ExtTreeMap.mem_toList_iff_getElem?_eq_some.1 hentry)
        rw [hkey, hvalue]
    _ = m := OrderedMap.foldl_insert_toList m

end

theorem LinkRegistry.restoreSource_exact {registry : LinkRegistry} {source : SourceRecord}
    (h : (registry.restoreSource source).2.ok = true) (hregistered : source.registered = true)
    (hid : ∀ existing, registry.sources[source.id]? = some existing → existing.id = source.id) :
    (registry.restoreSource source).1 =
      { registry with sources := registry.sources.insert source.id source } := by
  obtain ⟨⟨hvalid, hname, hprovenance⟩, htag, hroom⟩ := (registry.restoreSource_ok_iff source).1 h
  have hregister : registry.registerSource { source with retired := false } =
      ({ registry with
          sources := registry.sources.insert source.id ({ source with retired := false }) },
        .success) := by
    unfold registerSource
    rw [if_neg (by simp [hvalid]), if_neg (by grind), if_neg hprovenance]
    cases hfound : registry.sources[source.id]? with
    | some existing =>
      have heq := Prod.mk.inj (htag existing hfound)
      have hsame := hid existing hfound
      simp only
      rw [if_neg (by simp [heq.1, heq.2]), ← hsame, heq.1, heq.2, ← hregistered]
    | none =>
      have hlt : ¬ registry.sources.size ≥ registry.policy.limits.maxSources.toNat := fun hge => by
        simpa [hfound] using hroom hge
      simp only
      rw [if_neg hlt, ← hregistered]
  unfold restoreSource
  simp only [hregister]
  cases hretired : source.retired with
  | false =>
    have hrecord : { source with retired := false } = source := by rw [← hretired]
    rw [hrecord]
    rfl
  | true =>
    have hrecord : { source with retired := true } = source := by rw [← hretired]
    simp [retireSource, OrderedMap.insert_insert, hrecord, Status.ok, Status.success]

theorem TransitionLog.recordAll_limits (log : TransitionLog) (events : List TransitionEvent) :
    (log.recordAll events).limits = log.limits := by
  induction events generalizing log with
  | nil => rfl
  | cons event events ih => exact ih (log.record event)

namespace Observatory

theorem Sound.streams_size {σ : Observatory} (h : σ.Sound) :
    σ.store.streams.size ≤ σ.registry.sources.size := by
  refine OrderedMap.size_le_of_keys fun source hs => ?_
  obtain ⟨stream, hstream⟩ := Option.isSome_iff_exists.1 hs
  exact (h.store.streams source stream hstream).source

theorem Sound.restorable {σ : Observatory} (h : σ.Sound) (now : TimePoint) :
    (σ.collectSnapshot now).Restorable σ.config.policy := by
  have hregistry := h.registry
  have hstore := h.store
  have hknown {source : SourceId} (hs : (σ.registry.sources[source]?).isSome) :
      source.valid = true := by
    obtain ⟨record, hrecord⟩ := Option.isSome_iff_exists.1 hs
    obtain ⟨hid, hsound, -⟩ := hregistry.sources source record hrecord
    rw [← hid]
    exact hsound.1
  constructor
  · intro source hmem
    obtain ⟨⟨id, record⟩, hentry, rfl⟩ := List.mem_map.1 hmem
    exact (hregistry.sources id record (ExtTreeMap.mem_toList_iff_getElem?_eq_some.1 hentry)).2.1
  · show (List.map _ _).Pairwise _
    rw [List.pairwise_map]
    refine (ExtTreeMap.distinct_keys_toList (t := σ.registry.sources)).imp_of_mem ?_
    intro a b ha hb hne hid
    obtain ⟨hidA, -⟩ := hregistry.sources _ _ (ExtTreeMap.mem_toList_iff_getElem?_eq_some.1 ha)
    obtain ⟨hidB, -⟩ := hregistry.sources _ _ (ExtTreeMap.mem_toList_iff_getElem?_eq_some.1 hb)
    rw [hidA, hidB] at hid
    exact absurd (by rw [hid]; exact ReflCmp.compare_self) hne
  · refine (List.toFinset_card_le _).trans ?_
    rw [← h.registryPolicy]
    simpa [collectSnapshot, LinkRegistry.sourceList] using hregistry.sourceCount
  · intro link hmem
    obtain ⟨⟨id, record⟩, hentry, rfl⟩ := List.mem_map.1 hmem
    have hsound := hregistry.links id record (ExtTreeMap.mem_toList_iff_getElem?_eq_some.1 hentry)
    exact ⟨hsound.facts, hsound.retired⟩
  · refine (List.toFinset_card_le _).trans ?_
    rw [← h.registryPolicy]
    simpa [collectSnapshot, LinkRegistry.persistedLinks] using hregistry.linkCount
  · intro slot hmem
    obtain ⟨⟨slotKey, slot⟩, hentry, rfl⟩ := List.mem_map.1 hmem
    have hsound := hstore.slots slotKey slot (ExtTreeMap.mem_toList_iff_getElem?_eq_some.1 hentry)
    refine ⟨hsound.link, ?_, ?_⟩
    · rw [← h.storePolicy]
      exact hsound.history
    · rw [← h.registryPolicy]
      refine (OrderedMap.size_le_of_keys fun source hs => ?_).trans hregistry.sourceCount
      obtain ⟨state, hstate⟩ := Option.isSome_iff_exists.1 hs
      exact hsound.continuity source state hstate
  · refine (List.toFinset_card_le _).trans ?_
    rw [← h.storePolicy]
    simpa [collectSnapshot, EvidenceStore.persistedSlots] using hstore.slotCount
  · rintro ⟨source, stream⟩ hmem
    have hsound := hstore.streams source stream (ExtTreeMap.mem_toList_iff_getElem?_eq_some.1 hmem)
    exact ⟨hknown hsound.source, hsound.retired⟩
  · refine (List.toFinset_card_le _).trans ?_
    rw [← h.registryPolicy, List.length_map]
    refine Nat.le_trans ?_ hregistry.sourceCount
    simpa [collectSnapshot, EvidenceStore.persistedStreams] using h.streams_size

theorem Sound.restoreRegistry {σ : Observatory} (h : σ.Sound) (now : TimePoint) :
    (Observatory.restoreRegistry σ.config.policy (σ.collectSnapshot now)).1 = σ.registry := by
  have hr := h.restorable now
  have hsources := (restoreSources_ok_iff _ _).2 ⟨hr.sources, hr.sourceTags, hr.sourceCount⟩
  obtain ⟨⟨hpolicy, hempty, -⟩, hrestored⟩ := restoreEach_foldl LinkRegistry.sources
    SourceRecord.id id (fun source => source.registered = true)
    (fun registry => registry.policy = σ.config.policy ∧ registry.links = ∅ ∧
      ∀ (id : SourceId) source, registry.sources[id]? = some source → source.id = id)
    (fun registry source hinv hregistered hs => by
      rw [LinkRegistry.restoreSource_exact hs hregistered (hinv.2.2 source.id)]
      exact ⟨⟨hinv.1, hinv.2.1, OrderedMap.forall_insert hinv.2.2 rfl⟩, rfl⟩)
    (fun source hmem => by
      obtain ⟨⟨id, record⟩, hentry, rfl⟩ := List.mem_map.1 hmem
      exact (h.registry.sources id record
        (ExtTreeMap.mem_toList_iff_getElem?_eq_some.1 hentry)).2.2)
    ⟨rfl, rfl, fun _ _ hs => by simp at hs⟩ hsources
  rw [show (LinkRegistry.sources { policy := σ.config.policy }) = ∅ from rfl] at hrestored
  have hlinks := (restoreLinks_ok_iff hempty (σ.collectSnapshot now).links).2
    ⟨hr.links, by rw [hpolicy]; exact hr.linkCount⟩
  unfold Observatory.restoreRegistry
  simp only
  rw [if_neg (by simp [hsources])]
  generalize restoreEach LinkRegistry.restoreSource { policy := σ.config.policy }
    (σ.collectSnapshot now).sources = sources at *
  obtain ⟨⟨hpolicy', hsources'⟩, hrestored'⟩ := restoreEach_foldl LinkRegistry.links
    (fun link => link.facts.id) PersistedLink.toRecord (fun _ => True)
    (fun registry => registry.policy = sources.1.policy ∧ registry.sources = sources.1.sources)
    (fun registry link hinv _ hs => by
      rw [LinkRegistry.restore_ok hs]
      exact ⟨hinv, rfl⟩)
    (fun _ _ => trivial) ⟨rfl, rfl⟩ hlinks
  rw [hempty] at hrestored'
  generalize restoreEach LinkRegistry.restore sources.1 (σ.collectSnapshot now).links = links at *
  have hfinal : links.1.sources = σ.registry.sources := by
    rw [hsources', hrestored]
    exact foldl_insert_entries Prod.snd fun id source hs => ⟨(h.registry.sources id source hs).1, rfl⟩
  have hfinal' : links.1.links = σ.registry.links := by
    rw [hrestored']
    exact foldl_insert_entries _ fun id link hl => ⟨(h.registry.links id link hl).identity, rfl⟩
  exact LinkRegistry.ext (by rw [hpolicy', hpolicy, h.registryPolicy]) hfinal' hfinal

theorem Sound.restoreStore {σ : Observatory} (h : σ.Sound) (now : TimePoint) :
    (Observatory.restoreStore σ.config.policy (σ.collectSnapshot now)).1.policy = σ.store.policy ∧
    (Observatory.restoreStore σ.config.policy (σ.collectSnapshot now)).1.slots = σ.store.slots ∧
    (Observatory.restoreStore σ.config.policy (σ.collectSnapshot now)).1.streams =
      σ.store.streams := by
  have hr := h.restorable now
  have hslots := (restoreSlots_ok_iff _ _).2 ⟨hr.slots, hr.slotCount⟩
  obtain ⟨⟨hpolicy, hempty⟩, hrestored⟩ := restoreEach_foldl EvidenceStore.slots
    PersistedSlot.slot PersistedSlot.toSlot (fun _ => True)
    (fun store => store.policy = σ.config.policy ∧ store.streams = ∅)
    (fun store slot hinv _ hs => by
      rw [EvidenceStore.restore_ok hs]
      exact ⟨hinv, rfl⟩)
    (fun _ _ => trivial) ⟨rfl, rfl⟩ hslots
  rw [show (EvidenceStore.slots { policy := σ.config.policy }) = ∅ from rfl] at hrestored
  have hstreams := (restoreStreams_ok_iff hempty (σ.collectSnapshot now).streams).2
    ⟨hr.streams, by rw [hpolicy]; exact hr.streamCount⟩
  unfold Observatory.restoreStore
  simp only
  rw [if_neg (by simp [hslots])]
  generalize restoreEach EvidenceStore.restore { policy := σ.config.policy }
    (σ.collectSnapshot now).slots = slots at *
  obtain ⟨⟨hpolicy', hslots'⟩, hrestored'⟩ := restoreEach_foldl EvidenceStore.streams
    Prod.fst Prod.snd (fun _ => True)
    (fun store => store.policy = slots.1.policy ∧ store.slots = slots.1.slots)
    (fun store stream hinv _ hs => by
      rw [EvidenceStore.restoreStream_ok hs]
      exact ⟨hinv, rfl⟩)
    (fun _ _ => trivial) ⟨rfl, rfl⟩ hstreams
  rw [hempty] at hrestored'
  refine ⟨?_, ?_, ?_⟩
  · rw [hpolicy', hpolicy, h.storePolicy]
  · rw [hslots', hrestored]
    refine foldl_insert_entries _ fun slotKey slot hs => ⟨rfl, ?_⟩
    have hkey := (h.store.slots slotKey slot hs).identity
    simp only [Slot.persist, PersistedSlot.toSlot, ← hkey]
  · rw [hrestored']
    exact OrderedMap.foldl_insert_toList _

/-- What a restart brings back. -/
structure Recovers (σ after : Observatory) : Prop where
  config : after.config = σ.config
  registry : after.registry = σ.registry
  policy : after.store.policy = σ.store.policy
  slots : after.store.slots = σ.store.slots
  streams : after.store.streams = σ.store.streams
  log : after.transitions.Replays σ.config.policy.limits
    (σ.transitions.recent σ.config.policy.limits.maxTotalTransitions)

theorem Sound.restoreFrom {σ σ₀ : Observatory} (h : σ.Sound) (hconfig : σ₀.config = σ.config)
    (hlimits : σ₀.transitions.limits = σ.config.policy.limits) (now : TimePoint) :
    (σ₀.restoreFrom (σ.collectSnapshot now)).2.ok = true ∧
      Recovers σ (σ₀.restoreFrom (σ.collectSnapshot now)).1 := by
  have hok := (restoreFrom_ok_iff σ₀ _).2 (by rw [hconfig]; exact h.restorable now)
  refine ⟨hok, ?_⟩
  have hr := h.restorable now
  have hregistry := (restoreRegistry_ok_iff σ.config.policy (σ.collectSnapshot now)).2
    ⟨(restoreSources_ok_iff _ _).2 ⟨hr.sources, hr.sourceTags, hr.sourceCount⟩, hr.links,
      hr.linkCount⟩
  have hstore := (restoreStore_ok_iff σ.config.policy (σ.collectSnapshot now)).2
    ⟨(restoreSlots_ok_iff _ _).2 ⟨hr.slots, hr.slotCount⟩, hr.streams, hr.streamCount⟩
  obtain ⟨hpolicy, hslots, hstreams⟩ := h.restoreStore now
  unfold Observatory.restoreFrom
  have hcleared : σ₀.cleared.config = σ.config := hconfig
  simp only [hconfig, hcleared, hregistry, hstore, Bool.not_true, Bool.false_eq_true, if_false]
  refine ⟨rfl, h.restoreRegistry now, hpolicy, hslots, hstreams, ?_⟩
  have hempty : σ₀.cleared.transitions = { limits := σ.config.policy.limits } := by
    rw [← hlimits]
    rfl
  rw [TransitionLog.Replays, TransitionLog.recordAll, ← hempty]
  rfl

/-- A recovered state is sound. -/
theorem Recovers.sound {σ after : Observatory} (h : Recovers σ after) (hs : σ.Sound) :
    after.Sound where
  registryPolicy := by rw [h.registry, h.config, hs.registryPolicy]
  storePolicy := by rw [h.policy, h.config, hs.storePolicy]
  registry := by rw [h.registry]; exact hs.registry
  store := by
    have hstore := hs.store
    constructor
    · rw [h.slots, h.policy, h.registry]
      exact hstore.slots
    · rw [h.slots, h.policy]
      exact hstore.slotCount
    · rw [h.streams, h.registry]
      exact hstore.streams
  log := ⟨_, by rw [h.config]; exact h.log⟩

theorem Sound.logLimits {σ : Observatory} (h : σ.Sound) :
    σ.transitions.limits = σ.config.policy.limits := by
  obtain ⟨events, hevents⟩ := h.log
  rw [hevents]
  exact TransitionLog.recordAll_limits _ _

theorem Sound.reload {σ σ₀ : Observatory} (h : σ.Sound) (h₀ : σ₀.Sound)
    (hconfig : σ₀.config = σ.config) (hpath : σ₀.config.snapshotPath ≠ "")
    (hread : (readSnapshot files σ₀.config.snapshotPath σ₀.config.policy).contents =
      some (σ.collectSnapshot now)) : Recovers σ (σ₀.reload files).1 := by
  obtain ⟨hok, hrecovers⟩ := h.restoreFrom hconfig (by rw [h₀.logLimits, hconfig]) now
  unfold Observatory.reload
  rw [if_neg hpath]
  simp only [hread, hok, Bool.not_true, Bool.false_eq_true, if_false]
  exact ⟨hrecovers.config, hrecovers.registry, hrecovers.policy, hrecovers.slots,
    hrecovers.streams, hrecovers.log⟩

theorem applyLink_config (σ : Observatory) (declaration : LinkDecl) (instant : TimePoint) :
    (σ.applyLink declaration instant).1.config = σ.config := by
  unfold applyLink
  simp only
  split
  · rfl
  · split
    · split <;> rfl
    · split <;> rfl

theorem applyObservation_config (σ : Observatory) (observation : Observation)
    (instant : TimePoint) : (σ.applyObservation observation instant).1.config = σ.config := by
  cases σ.applyObservation_step observation instant with
  | refused _ _ _ _ hconfig => exact hconfig
  | unknownLink _ _ _ _ _ hconfig => exact hconfig
  | behind _ _ _ _ _ _ _ hconfig => exact hconfig
  | decided _ _ _ _ _ _ _ hconfig => exact hconfig

theorem applyRecord_config (σ : Observatory) (record : ParsedRecord) (instant : TimePoint) :
    (σ.applyRecord record instant).1.config = σ.config := by
  cases record with
  | none => rfl
  | source declaration => exact σ.applySource_config declaration
  | link declaration => exact σ.applyLink_config declaration instant
  | observation declaration => exact σ.applyObservation_config _ instant

/-- The states a runtime reaches, with the decisions behind the evidence it holds. A reload finds
no snapshot, or one that such a state persisted, and returns to the decisions behind that one. -/
inductive Reached (config : RuntimeConfig) : List Decision → Observatory → Prop
  | start : Reached config [] (fresh config)
  | record (record : ParsedRecord) (instant : TimePoint) : Reached config log σ →
      Reached config (log ++ σ.decisionsOf record instant) (σ.applyRecord record instant).1
  | unread (files : FileSystem) : Reached config log σ →
      (config.snapshotPath = "" ∨
        (readSnapshot files config.snapshotPath config.policy).contents = none) →
      Reached config log (σ.reload files).1
  | reload (files : FileSystem) (now : TimePoint) : Reached config log σ →
      Reached config log' σ' → config.snapshotPath ≠ "" →
      (readSnapshot files config.snapshotPath config.policy).contents =
        some (σ'.collectSnapshot now) →
      Reached config log' (σ.reload files).1

theorem reload_unread {σ : Observatory} (h : σ.config.snapshotPath = "" ∨
      (readSnapshot files σ.config.snapshotPath σ.config.policy).contents = none) :
    (σ.reload files).1.config = σ.config ∧ SameState σ (σ.reload files).1 := by
  unfold Observatory.reload
  split
  · exact ⟨rfl, rfl, rfl, rfl, rfl, rfl, rfl⟩
  · rename_i hpath
    have hnone := h.resolve_left hpath
    generalize readSnapshot files σ.config.snapshotPath σ.config.policy = loaded at *
    simp only [hnone]
    exact ⟨trivial, rfl, rfl, rfl, rfl, rfl, rfl⟩

theorem SameState.sound {σ after : Observatory} (h : SameState σ after)
    (hconfig : after.config = σ.config) (hs : σ.Sound) : after.Sound where
  registryPolicy := by rw [h.registry, hconfig, hs.registryPolicy]
  storePolicy := by rw [h.store, hconfig, hs.storePolicy]
  registry := by rw [h.registry]; exact hs.registry
  store := by rw [h.store, h.registry]; exact hs.store
  log := by rw [h.transitions, hconfig]; exact hs.log

theorem Reached.sound {config : RuntimeConfig} (h : Reached config log σ) :
    σ.Sound ∧ σ.config = config := by
  induction h with
  | start => exact ⟨sound_fresh config, rfl⟩
  | record record instant _ ih =>
    exact ⟨ih.1.applyRecord record instant, (applyRecord_config _ record instant).trans ih.2⟩
  | unread files _ hread ih =>
    obtain ⟨hs, rfl⟩ := ih
    obtain ⟨hconfig, hsame⟩ := reload_unread hread
    exact ⟨hsame.sound hconfig hs, hconfig⟩
  | reload files now _ _ hpath hread ih ih' =>
    obtain ⟨hs, rfl⟩ := ih
    have hrecovers := ih'.1.reload hs ih'.2.symm hpath hread
    exact ⟨hrecovers.sound ih'.1, hrecovers.config.trans ih'.2⟩

theorem Reached.store_induction {config : RuntimeConfig}
    {motive : List Decision → EvidenceStore → Prop} (h : Reached config log σ)
    (hstart : motive [] { policy := config.policy })
    (haccept : ∀ log store observation context instant, store.policy = config.policy →
      motive log store →
      motive (log ++ [(observation, (store.accept observation context instant).2)])
        (store.accept observation context instant).1)
    (hfenced : ∀ log store observation reason, motive log store →
      motive (log ++ [(observation, { fence := reason })]) store)
    (hframe : ∀ log store store', store'.slots = store.slots → store'.streams = store.streams →
      motive log store → motive log store') : motive log σ.store := by
  induction h with
  | start => exact hstart
  | record record instant hrun ih =>
    rename_i log σ
    obtain ⟨hs, rfl⟩ := hrun.sound
    cases record with
    | none =>
      simp only [decisionsOf, List.append_nil]
      exact ih
    | source declaration =>
      simp only [decisionsOf, List.append_nil, applyRecord, applySource_store]
      exact ih
    | link declaration =>
      simp only [decisionsOf, List.append_nil, applyRecord, applyLink_store]
      exact ih
    | observation declaration =>
      simp only [decisionsOf, applyRecord]
      rcases σ.applyObservation_store (makeObservation declaration) instant with
        ⟨context, hdecided⟩ | ⟨hstore, reason, houtcome⟩
      · have hnext := haccept log σ.store (makeObservation declaration) context instant
          hs.storePolicy ih
        rwa [hdecided] at hnext
      · rw [hstore, houtcome]
        exact hfenced log σ.store _ reason ih
  | unread files hrun hread ih =>
    obtain ⟨-, rfl⟩ := hrun.sound
    rw [(reload_unread hread).2.store]
    exact ih
  | reload files now hrun hrun' hpath hread _ ih' =>
    obtain ⟨hs, rfl⟩ := hrun.sound
    have hrecovers := hrun'.sound.1.reload hs hrun'.sound.2.symm hpath hread
    exact hframe _ _ _ hrecovers.slots hrecovers.streams ih'

/-- The decisions that a list of records leads to. -/
def decisionsFrom : Observatory → List (ParsedRecord × TimePoint) → List Decision
  | _, [] => []
  | σ, (record, instant) :: records =>
    σ.decisionsOf record instant ++ decisionsFrom (σ.applyRecord record instant).1 records

theorem Reached.foldl {config : RuntimeConfig} (h : Reached config log σ)
    (records : List (ParsedRecord × TimePoint)) :
    Reached config (log ++ decisionsFrom σ records)
      (records.foldl (fun σ record => (σ.applyRecord record.1 record.2).1) σ) := by
  induction records generalizing log σ with
  | nil => rwa [decisionsFrom, List.append_nil]
  | cons record records ih =>
    rw [decisionsFrom, ← List.append_assoc]
    exact ih (h.record record.1 record.2)

theorem Reached.run (config : RuntimeConfig) (records : List (ParsedRecord × TimePoint)) :
    Reached config (decisionsFrom (fresh config) records) (Observatory.run config records) :=
  Reached.start.foldl records

end Observatory

end LinkObservatory
