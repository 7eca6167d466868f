import LinkObservatory.JointEffects
import LinkObservatory.Lineage
import LinkObservatory.RoundTrip

namespace LinkObservatory
set_option autoImplicit true

open Std OrderedMap

/-- The links and sources of one part of a network. -/
structure Realm where
  links : LinkId → Bool
  sources : SourceId → Bool

/-- A record about nothing but the realm. -/
def Realm.holds (realm : Realm) : ParsedRecord → Bool
  | .none => false
  | .source declaration => realm.sources (.fromName declaration.name)
  | .link declaration => realm.links (makeLinkFacts declaration).id
  | .observation declaration =>
    realm.links (makeObservation declaration).link &&
      realm.sources (makeObservation declaration).provenance.source

/-- A record about nothing of the realm. -/
def Realm.spares (realm : Realm) : ParsedRecord → Bool
  | .none => true
  | .source declaration => !realm.sources (.fromName declaration.name)
  | .link declaration => !realm.links (makeLinkFacts declaration).id
  | .observation declaration =>
    !realm.links (makeObservation declaration).link &&
      !realm.sources (makeObservation declaration).provenance.source

/-- The link and the source of one name. -/
def realmNamed (name : Bytes) : Realm where
  links link := link == deriveLinkId name
  sources source := source == .fromName name

/-- The records of a realm, on their own. -/
def Realm.own (realm : Realm) (records : List (ParsedRecord × TimePoint)) :
    List (ParsedRecord × TimePoint) :=
  records.filter fun record => realm.holds record.1

theorem Realm.own_append_held (realm : Realm) (records : List (ParsedRecord × TimePoint))
    {record : ParsedRecord × TimePoint} (h : realm.holds record.1 = true) :
    realm.own (records ++ [record]) = realm.own records ++ [record] := by
  rw [own, own, List.filter_append, List.filter_singleton, h]
  rfl

theorem Realm.own_append_spared (realm : Realm) (records : List (ParsedRecord × TimePoint))
    {record : ParsedRecord × TimePoint} (h : realm.holds record.1 = false) :
    realm.own (records ++ [record]) = realm.own records := by
  rw [own, own, List.filter_append, List.filter_singleton, h]
  exact List.append_nil _

namespace Observatory

/-- The second state holds of a realm what the first one holds of it, and is not fuller. -/
structure Mirrors (realm : Realm) (σ τ : Observatory) : Prop where
  config : τ.config = σ.config
  registryPolicy : τ.registry.policy = σ.registry.policy
  links : Agree realm.links σ.registry.links τ.registry.links
  sources : Agree realm.sources σ.registry.sources τ.registry.sources
  linkCount : τ.registry.links.size ≤ σ.registry.links.size
  sourceCount : τ.registry.sources.size ≤ σ.registry.sources.size
  storePolicy : τ.store.policy = σ.store.policy
  slots : Agree (fun slotKey : SlotKey => realm.links slotKey.link) σ.store.slots τ.store.slots
  streams : Agree realm.sources σ.store.streams τ.store.streams
  limits : τ.transitions.limits = σ.transitions.limits
  rings : Agree realm.links σ.transitions.perLink τ.transitions.perLink
  states : Agree realm.links σ.observedStates τ.observedStates
  operTexts : Agree realm.links σ.lastOperText τ.lastOperText
  adminTexts : Agree realm.links σ.lastAdminText τ.lastAdminText

theorem Mirrors.refl (realm : Realm) (σ : Observatory) : Mirrors realm σ σ :=
  ⟨rfl, rfl, .refl _ _, .refl _ _, Nat.le_refl _, Nat.le_refl _, rfl, .refl _ _, .refl _ _, rfl,
    .refl _ _, .refl _ _, .refl _ _, .refl _ _⟩

theorem Mirrors.trans {σ τ ρ : Observatory} (h : Mirrors realm σ τ) (h' : Mirrors realm τ ρ) :
    Mirrors realm σ ρ where
  config := h'.config.trans h.config
  registryPolicy := h'.registryPolicy.trans h.registryPolicy
  links link hlink := (h'.links link hlink).trans (h.links link hlink)
  sources source hsource := (h'.sources source hsource).trans (h.sources source hsource)
  linkCount := h'.linkCount.trans h.linkCount
  sourceCount := h'.sourceCount.trans h.sourceCount
  storePolicy := h'.storePolicy.trans h.storePolicy
  slots slotKey hlink := (h'.slots slotKey hlink).trans (h.slots slotKey hlink)
  streams source hsource := (h'.streams source hsource).trans (h.streams source hsource)
  limits := h'.limits.trans h.limits
  rings link hlink := (h'.rings link hlink).trans (h.rings link hlink)
  states link hlink := (h'.states link hlink).trans (h.states link hlink)
  operTexts link hlink := (h'.operTexts link hlink).trans (h.operTexts link hlink)
  adminTexts link hlink := (h'.adminTexts link hlink).trans (h.adminTexts link hlink)

theorem recordOn_agree {log log' : TransitionLog} {part : LinkId → Bool}
    (hlimits : log'.limits = log.limits) (h : Agree part log.perLink log'.perLink) (link : LinkId)
    (event : Option TransitionEvent) :
    Agree part (log.recordOn link event).perLink (log'.recordOn link event).perLink := by
  intro other hother
  by_cases heq : link = other
  · subst heq
    exact recordOn_ring hlimits (h link hother) event
  · rw [TransitionLog.recordOn_perLink_of_ne heq, TransitionLog.recordOn_perLink_of_ne heq,
      h other hother]

/-- An effect on a link and a source of the realm is the same in both states. -/
theorem Mirrors.apply {σ τ : Observatory} (h : Mirrors realm σ τ)
    (hlink : realm.links observation.link = true) (effect : Effect) :
    Mirrors realm (effect.apply observation σ) (effect.apply observation τ) where
  config := h.config
  registryPolicy := h.registryPolicy
  links := h.links.put _ _
  sources := h.sources
  linkCount := size_put_le h.linkCount (h.links _ hlink) _
  sourceCount := h.sourceCount
  storePolicy := h.storePolicy
  slots := h.slots.put _ _
  streams := h.streams.put _ _
  limits := by simp only [Effect.apply, recordOn_limits, h.limits]
  rings := recordOn_agree h.limits h.rings _ _
  states := h.states.put _ _
  operTexts := h.operTexts.put _ _
  adminTexts := h.adminTexts.put _ _

theorem Mirrors.apply_outside (hlink : realm.links observation.link = false)
    (hsource : realm.sources observation.provenance.source = false) (effect : Effect)
    (σ : Observatory) : Mirrors realm (effect.apply observation σ) σ where
  config := rfl
  registryPolicy := rfl
  links := (Agree.refl _ _).put_outside hlink _
  sources := .refl _ _
  linkCount := size_le_put _ _ _
  sourceCount := Nat.le_refl _
  storePolicy := rfl
  slots := (Agree.refl (fun slotKey : SlotKey => realm.links slotKey.link) _).put_outside hlink _
  streams := (Agree.refl _ _).put_outside hsource _
  limits := (recordOn_limits _ _ _).symm
  rings := by
    intro other hother
    have hne : observation.link ≠ other := by
      rintro rfl
      rw [hlink] at hother
      cases hother
    exact (TransitionLog.recordOn_perLink_of_ne hne _ _).symm
  states := (Agree.refl _ _).put_outside hlink _
  operTexts := (Agree.refl _ _).put_outside hlink _
  adminTexts := (Agree.refl _ _).put_outside hlink _

theorem Mirrors.run {σ τ : Observatory} (h : Mirrors realm σ τ)
    (hlink : realm.links observation.link = true) (effects : List Effect) :
    Mirrors realm (Effect.run observation effects σ) (Effect.run observation effects τ) := by
  induction effects generalizing σ τ with
  | nil => exact h
  | cons effect effects ih => exact ih (h.apply hlink effect)

theorem Mirrors.run_outside (hlink : realm.links observation.link = false)
    (hsource : realm.sources observation.provenance.source = false) (effects : List Effect)
    (σ : Observatory) : Mirrors realm (Effect.run observation effects σ) σ := by
  induction effects generalizing σ with
  | nil => exact .refl realm σ
  | cons effect effects ih => exact (ih _).trans (.apply_outside hlink hsource effect σ)

theorem Mirrors.setStats {σ τ : Observatory} (h : Mirrors realm σ τ)
    (stats stats' : RuntimeStatistics) :
    Mirrors realm { σ with stats := stats } { τ with stats := stats' } :=
  ⟨h.config, h.registryPolicy, h.links, h.sources, h.linkCount, h.sourceCount, h.storePolicy,
    h.slots, h.streams, h.limits, h.rings, h.states, h.operTexts, h.adminTexts⟩

theorem Mirrors.putLink {σ τ : Observatory} (h : Mirrors realm σ τ)
    (hlink : realm.links link = true) (record : Option LinkRecord) :
    Mirrors realm { σ with registry := σ.registry.putLink link record }
      { τ with registry := τ.registry.putLink link record } :=
  ⟨h.config, h.registryPolicy, h.links.put _ _, h.sources,
    size_put_le h.linkCount (h.links _ hlink) _, h.sourceCount, h.storePolicy, h.slots, h.streams,
    h.limits, h.rings, h.states, h.operTexts, h.adminTexts⟩

theorem Mirrors.putLink_outside {σ τ : Observatory} (h : Mirrors realm σ τ)
    (hlink : realm.links link = false) (record : Option LinkRecord) :
    Mirrors realm { σ with registry := σ.registry.putLink link record } τ :=
  ⟨h.config, h.registryPolicy, h.links.put_outside hlink _, h.sources,
    h.linkCount.trans (size_le_put _ _ _), h.sourceCount, h.storePolicy, h.slots, h.streams,
    h.limits, h.rings, h.states, h.operTexts, h.adminTexts⟩

theorem Mirrors.putSource {σ τ : Observatory} (h : Mirrors realm σ τ)
    (hsource : realm.sources source = true) (record : Option SourceRecord) :
    Mirrors realm { σ with registry := σ.registry.putSource source record }
      { τ with registry := τ.registry.putSource source record } :=
  ⟨h.config, h.registryPolicy, h.links, h.sources.put _ _, h.linkCount,
    size_put_le h.sourceCount (h.sources _ hsource) _, h.storePolicy, h.slots, h.streams,
    h.limits, h.rings, h.states, h.operTexts, h.adminTexts⟩

theorem Mirrors.putSource_outside {σ τ : Observatory} (h : Mirrors realm σ τ)
    (hsource : realm.sources source = false) (record : Option SourceRecord) :
    Mirrors realm { σ with registry := σ.registry.putSource source record } τ :=
  ⟨h.config, h.registryPolicy, h.links, h.sources.put_outside hsource _, h.linkCount,
    h.sourceCount.trans (size_le_put _ _ _), h.storePolicy, h.slots, h.streams,
    h.limits, h.rings, h.states, h.operTexts, h.adminTexts⟩

theorem Mirrors.recordTransition {σ τ : Observatory} (h : Mirrors realm σ τ)
    (event : TransitionEvent) :
    Mirrors realm (σ.recordTransition event) (τ.recordTransition event) :=
  ⟨h.config, h.registryPolicy, h.links, h.sources, h.linkCount, h.sourceCount, h.storePolicy,
    h.slots, h.streams, h.limits, recordOn_agree h.limits h.rings event.link (some event),
    h.states, h.operTexts, h.adminTexts⟩

theorem Mirrors.recordTransition_outside {σ τ : Observatory} (h : Mirrors realm σ τ)
    {event : TransitionEvent} (hlink : realm.links event.link = false) :
    Mirrors realm (σ.recordTransition event) τ := by
  refine ⟨h.config, h.registryPolicy, h.links, h.sources, h.linkCount, h.sourceCount,
    h.storePolicy, h.slots, h.streams, h.limits, ?_, h.states, h.operTexts, h.adminTexts⟩
  intro other hother
  have hne : event.link ≠ other := by
    rintro rfl
    rw [hlink] at hother
    cases hother
  rw [h.rings other hother]
  exact (TransitionLog.recordOn_perLink_of_ne hne _ (some event)).symm

theorem Mirrors.agreesOn {σ τ : Observatory} (h : Mirrors realm σ τ)
    (hlink : realm.links link = true)
    (hroom : σ.registry.links.size < σ.registry.policy.limits.maxLinks.toNat) :
    LinkRegistry.Agrees link σ.registry τ.registry where
  policy := h.registryPolicy
  record := h.links link hlink
  room := by
    intro _
    have hcount := h.linkCount
    omega

theorem Mirrors.applySource {σ τ : Observatory} (h : Mirrors realm σ τ)
    (declaration : SourceDecl)
    (hsource : realm.sources (.fromName declaration.name) = true)
    (hroom : σ.registry.sources.size < σ.registry.policy.limits.maxSources.toNat) :
    Mirrors realm (σ.applySource declaration).1 (τ.applySource declaration).1 := by
  unfold Observatory.applySource
  dsimp only
  generalize StrongId.fromName declaration.name = id at *
  have hcount := h.sourceCount
  obtain ⟨new, status, hfirst, hsecond⟩ := LinkRegistry.registerSource_both
    { id := id, name := declaration.name, authority := declaration.authority
      provenance := declaration.provenance } h.registryPolicy (h.sources _ hsource) (by omega)
  rw [hfirst, hsecond]
  have hput := h.putSource hsource new
  dsimp only
  split
  · exact hput.setStats _ _
  · cases declaration.retired with
    | false => exact hput.setStats _ _
    | true =>
      obtain ⟨last, status', hretired, hretired'⟩ :=
        LinkRegistry.retireSource_both (hput.sources _ hsource)
      simp only [if_true, hretired, hretired']
      split
      · exact (hput.putSource hsource last).setStats _ _
      · exact (hput.putSource hsource last).setStats _ _

theorem Mirrors.applySource_outside {σ τ : Observatory} (h : Mirrors realm σ τ)
    (declaration : SourceDecl)
    (hsource : realm.sources (.fromName declaration.name) = false) :
    Mirrors realm (σ.applySource declaration).1 τ := by
  unfold Observatory.applySource
  dsimp only
  generalize StrongId.fromName declaration.name = id at *
  obtain ⟨new, status, hfirst, -⟩ := LinkRegistry.registerSource_both
    { id := id, name := declaration.name, authority := declaration.authority
      provenance := declaration.provenance } (rfl : σ.registry.policy = σ.registry.policy) rfl
    Iff.rfl
  rw [hfirst]
  have hput := h.putSource_outside hsource new
  dsimp only
  split
  · exact hput.setStats _ _
  · cases declaration.retired with
    | false => exact hput.setStats _ _
    | true =>
      obtain ⟨last, status', hretired, -⟩ := LinkRegistry.retireSource_both
        (rfl : (σ.registry.putSource id new).sources[id]? = _)
      simp only [if_true, hretired]
      split
      · exact (hput.putSource_outside hsource last).setStats _ _
      · exact (hput.putSource_outside hsource last).setStats _ _

theorem Mirrors.applyLink {σ τ : Observatory} (h : Mirrors realm σ τ) (declaration : LinkDecl)
    (instant : TimePoint) (hlink : realm.links (makeLinkFacts declaration).id = true)
    (hroom : σ.registry.links.size < σ.registry.policy.limits.maxLinks.toNat) :
    Mirrors realm (σ.applyLink declaration instant).1 (τ.applyLink declaration instant).1 := by
  unfold Observatory.applyLink
  dsimp only
  generalize makeLinkFacts declaration = facts at *
  have hagrees := h.agreesOn hlink hroom
  have hexisted : τ.registry.findLink facts.id = σ.registry.findLink facts.id := by
    simp only [LinkRegistry.findLink, hagrees.record]
  obtain ⟨record, status, hfirst, hsecond⟩ := hagrees.registerLink instant
  rw [hfirst, hsecond, hexisted]
  have hput := h.putLink hlink record
  dsimp only
  split
  · exact hput.setStats _ _
  · obtain ⟨last, observed, hobserved, hobserved'⟩ :=
      (hagrees.put record).observeGeneration facts.generation
    rw [hobserved, hobserved']
    have hlast := (hput.putLink hlink last).setStats
      { σ.stats with declarationsApplied := σ.stats.declarationsApplied + 1 }
      { τ.stats with declarationsApplied := τ.stats.declarationsApplied + 1 }
    dsimp only
    split
    · split
      · exact (hlast.recordTransition _).recordTransition _
      · exact hlast.recordTransition _
    · split
      · exact hlast.recordTransition _
      · exact hlast

theorem Mirrors.applyLink_outside {σ τ : Observatory} (h : Mirrors realm σ τ)
    (declaration : LinkDecl) (instant : TimePoint)
    (hlink : realm.links (makeLinkFacts declaration).id = false) :
    Mirrors realm (σ.applyLink declaration instant).1 τ := by
  unfold Observatory.applyLink
  dsimp only
  generalize makeLinkFacts declaration = facts at *
  have hagrees := LinkRegistry.Agrees.refl facts.id σ.registry
  obtain ⟨record, status, hfirst, -⟩ := hagrees.registerLink instant
  rw [hfirst]
  have hput := h.putLink_outside hlink record
  dsimp only
  split
  · exact hput.setStats _ τ.stats
  · obtain ⟨last, observed, hobserved, -⟩ :=
      (hagrees.put record).observeGeneration facts.generation
    rw [hobserved]
    have hlast := (hput.putLink_outside hlink last).setStats
      { σ.stats with declarationsApplied := σ.stats.declarationsApplied + 1 } τ.stats
    dsimp only
    split
    · split
      · exact (hlast.recordTransition_outside hlink).recordTransition_outside hlink
      · exact hlast.recordTransition_outside hlink
    · split
      · exact hlast.recordTransition_outside hlink
      · exact hlast

theorem Mirrors.applyObservation {σ τ : Observatory} (h : Mirrors realm σ τ)
    (hlink : realm.links observation.link = true) (hfellow : Fellow observation σ τ)
    (instant : TimePoint) :
    Mirrors realm (σ.applyObservation observation instant).1
      (τ.applyObservation observation instant).1 := by
  obtain ⟨effects, hσ, hτ⟩ := hfellow.applyObservation instant
  rw [hσ, hτ]
  exact h.run hlink effects

theorem Mirrors.spared {σ τ : Observatory} (h : Mirrors realm σ τ) (record : ParsedRecord)
    (instant : TimePoint) (hspares : realm.spares record = true) :
    Mirrors realm (σ.applyRecord record instant).1 τ := by
  cases record with
  | none => exact h
  | source declaration =>
    exact h.applySource_outside declaration (by simpa [Realm.spares] using hspares)
  | link declaration =>
    exact h.applyLink_outside declaration instant (by simpa [Realm.spares] using hspares)
  | observation declaration =>
    have hapart : realm.links (makeObservation declaration).link = false ∧
        realm.sources (makeObservation declaration).provenance.source = false := by
      simpa [Realm.spares] using hspares
    obtain ⟨effects, hσ, -⟩ :=
      (Fellow.refl (makeObservation declaration) σ).applyObservation instant
    have happlied : (σ.applyRecord (.observation declaration) instant).1 =
        Effect.run (makeObservation declaration) effects σ := hσ
    rw [happlied]
    exact (Mirrors.run_outside hapart.1 hapart.2 effects σ).trans h

theorem applyRecord_grows (σ : Observatory) (record : ParsedRecord) (instant : TimePoint) :
    σ.registry.links.size ≤ (σ.applyRecord record instant).1.registry.links.size ∧
      σ.registry.sources.size ≤ (σ.applyRecord record instant).1.registry.sources.size := by
  have hnowhere := (Mirrors.refl ⟨fun _ => false, fun _ => false⟩ σ).spared record instant
    (by cases record <;> rfl)
  exact ⟨hnowhere.linkCount, hnowhere.sourceCount⟩

/-- The evidence about the links of a realm comes from its sources. -/
def Confined (realm : Realm) (log : List Decision) : Prop :=
  ∀ decision ∈ log, realm.links decision.1.link = true →
    realm.sources decision.1.provenance.source = true

theorem Confined.append (h : Confined realm log) (σ : Observatory) (record : ParsedRecord)
    (instant : TimePoint) (hrecord : realm.holds record = true ∨ realm.spares record = true) :
    Confined realm (log ++ σ.decisionsOf record instant) := by
  intro decision hmem hlink
  rcases List.mem_append.1 hmem with hold | hnew
  · exact h decision hold hlink
  cases record with
  | observation declaration =>
    rw [decisionsOf, List.mem_singleton] at hnew
    subst hnew
    simp only [Realm.holds, Realm.spares, Bool.and_eq_true, Bool.not_eq_true'] at hrecord
    rcases hrecord with ⟨-, hsource⟩ | ⟨hnone, -⟩
    · exact hsource
    · rw [hnone] at hlink
      cases hlink
  | none => cases hnew
  | source declaration => cases hnew
  | link declaration => cases hnew

theorem Reached.evidence_confined {config : RuntimeConfig} (h : Reached config log σ)
    (hconfined : Confined realm log) (hlink : realm.links link = true)
    (hslot : σ.store.slots[SlotKey.mk link key]? = some slot) :
    ∀ evidence ∈ slot.history, realm.sources evidence.source = true := by
  intro evidence hmem
  have hhistory := h.lineage.history (SlotKey.mk link key)
  rw [EvidenceStore.slotFor, ExtTreeMap.getD_eq_getD_getElem?, hslot, Option.getD_some] at hhistory
  obtain ⟨decision, hdecision, hfirst⟩ :=
    List.mem_map.1 (hhistory.subset (List.mem_map_of_mem hmem))
  obtain ⟨hdecided, hkept⟩ := List.mem_filter.1 hdecision
  rw [Bool.and_eq_true, beq_iff_eq] at hkept
  have hrealm := hconfined decision hdecided (by rw [(SlotKey.mk.inj hkept.2).1]; exact hlink)
  rw [hfirst] at hrealm
  exact hrealm

theorem Mirrors.sameFor {σ τ : Observatory} (h : Mirrors realm σ τ) {config : RuntimeConfig}
    (hreached : Reached config log σ) (hconfined : Confined realm log)
    (hlink : realm.links link = true) : EvidenceStore.SameFor link σ.store τ.store where
  policy := h.storePolicy
  slots key := h.slots (SlotKey.mk link key) hlink
  streams _ _ hslot evidence hmem :=
    h.streams _ (hreached.evidence_confined hconfined hlink hslot evidence hmem)

theorem Reached.roomy {config : RuntimeConfig} (h : Reached config log σ)
    (hbound : config.policy.limits.maxLinks.toNat * 256 < 2 ^ 64)
    (hlinks : σ.registry.links.size < config.policy.limits.maxLinks.toNat) :
    σ.store.full = false := by
  obtain ⟨hs, rfl⟩ := h.sound
  have hlinked : ∀ slotKey ∈ σ.store.slots.keys, (σ.registry.links[slotKey.link]?).isSome := by
    intro slotKey hmem
    rw [ExtTreeMap.mem_keys, ExtTreeMap.mem_iff_isSome_getElem?] at hmem
    obtain ⟨slot, hslot⟩ := Option.isSome_iff_exists.1 hmem
    exact h.slotsLinked slotKey slot hslot
  have hsize := EvidenceStore.slotKeys_length_le ExtTreeMap.nodup_keys hlinked
  rw [ExtTreeMap.length_keys] at hsize
  rw [EvidenceStore.full, hs.storePolicy, UInt64.toNat_mul,
    show kMaxKeysPerLink.toNat = 256 from rfl, Nat.mod_eq_of_lt hbound, decide_eq_false_iff_not]
  have hmost := Nat.mul_le_mul_right 256 hlinks
  omega

/-- Two runs of which the second one has seen the realm's part only. -/
structure Apart (config : RuntimeConfig) (realm : Realm) (σ τ : Observatory) : Prop where
  mirrors : Mirrors realm σ τ
  confined : ∃ log, Reached config log σ ∧ Confined realm log
  reached : ∃ log, Reached config log τ

theorem Apart.fellow {config : RuntimeConfig} {σ τ : Observatory} (h : Apart config realm σ τ)
    (hbound : config.policy.limits.maxLinks.toNat * 256 < 2 ^ 64)
    (hroom : σ.registry.links.size < config.policy.limits.maxLinks.toNat)
    (hlink : realm.links observation.link = true)
    (hsource : realm.sources observation.provenance.source = true) : Fellow observation σ τ := by
  obtain ⟨hmirrors, ⟨log, hreached, hconfined⟩, log', hreached'⟩ := h
  obtain ⟨hs, hconfig⟩ := hreached.sound
  have hpolicy : σ.registry.policy = config.policy := by rw [hs.registryPolicy, hconfig]
  have hfull := hreached.roomy hbound hroom
  have hfull' := hreached'.roomy hbound (hmirrors.linkCount.trans_lt hroom)
  constructor
  · exact hmirrors.config
  · exact hmirrors.agreesOn hlink (by rw [hpolicy]; exact hroom)
  · exact hmirrors.sources _ hsource
  · refine ⟨hmirrors.storePolicy, hmirrors.slots _ hlink, hmirrors.streams _ hsource, ?_⟩
    intro _
    rw [hfull, hfull']
  · exact hmirrors.sameFor hreached hconfined hlink
  · exact hmirrors.limits
  · exact hmirrors.rings _ hlink
  · exact hmirrors.states _ hlink
  · exact hmirrors.operTexts _ hlink
  · exact hmirrors.adminTexts _ hlink

theorem Apart.applyRecord {config : RuntimeConfig} {σ τ : Observatory}
    (h : Apart config realm σ τ) (hbound : config.policy.limits.maxLinks.toNat * 256 < 2 ^ 64)
    (hlinks : σ.registry.links.size < config.policy.limits.maxLinks.toNat)
    (hsources : σ.registry.sources.size < config.policy.limits.maxSources.toNat)
    (record : ParsedRecord) (instant : TimePoint)
    (hrecord : realm.holds record = true ∨ realm.spares record = true) :
    Apart config realm (σ.applyRecord record instant).1
      (if realm.holds record then (τ.applyRecord record instant).1 else τ) := by
  have hmirrors := h.mirrors
  obtain ⟨log, hreached, hconfined⟩ := h.confined
  obtain ⟨log', hreached'⟩ := h.reached
  obtain ⟨hs, hconfig⟩ := hreached.sound
  have hpolicy : σ.registry.policy = config.policy := by rw [hs.registryPolicy, hconfig]
  have hnext : ∃ log, Reached config log (σ.applyRecord record instant).1 ∧ Confined realm log :=
    ⟨_, hreached.record record instant, hconfined.append σ record instant hrecord⟩
  cases hholds : realm.holds record with
  | false =>
    refine ⟨?_, hnext, log', hreached'⟩
    apply hmirrors.spared record instant
    rw [hholds] at hrecord
    simpa using hrecord
  | true =>
    refine ⟨?_, hnext, _, hreached'.record record instant⟩
    cases record with
    | none => cases hholds
    | source declaration =>
      exact hmirrors.applySource declaration hholds (by rw [hpolicy]; exact hsources)
    | link declaration =>
      exact hmirrors.applyLink declaration instant hholds (by rw [hpolicy]; exact hlinks)
    | observation declaration =>
      obtain ⟨hlink, hsource⟩ := Bool.and_eq_true_iff.1 hholds
      exact hmirrors.applyObservation hlink (h.fellow hbound hlinks hlink hsource) instant

theorem run_append (config : RuntimeConfig) (records : List (ParsedRecord × TimePoint))
    (record : ParsedRecord × TimePoint) :
    run config (records ++ [record]) = ((run config records).applyRecord record.1 record.2).1 := by
  rw [run, List.foldl_append]
  rfl

theorem run_apart {config : RuntimeConfig} {records : List (ParsedRecord × TimePoint)}
    (hrecords : ∀ record ∈ records,
      realm.holds record.1 = true ∨ realm.spares record.1 = true)
    (hbound : config.policy.limits.maxLinks.toNat * 256 < 2 ^ 64)
    (hlinks : (run config records).registry.links.size < config.policy.limits.maxLinks.toNat)
    (hsources : (run config records).registry.sources.size <
      config.policy.limits.maxSources.toNat) :
    Apart config realm (run config records) (run config (realm.own records)) := by
  induction records using List.reverseRecOn with
  | nil =>
    refine ⟨.refl _ _, ⟨[], .start, ?_⟩, [], .start⟩
    intro decision hmem
    cases hmem
  | append_singleton records record ih =>
    rw [run_append] at hlinks hsources ⊢
    obtain ⟨hmoreLinks, hmoreSources⟩ :=
      (run config records).applyRecord_grows record.1 record.2
    have hroomLinks := hmoreLinks.trans_lt hlinks
    have hroomSources := hmoreSources.trans_lt hsources
    have hbefore := ih (fun other hmem => hrecords other (List.mem_append_left _ hmem))
      hroomLinks hroomSources
    have hafter := hbefore.applyRecord hbound hroomLinks hroomSources record.1 record.2
      (hrecords record (by simp))
    cases hholds : realm.holds record.1 with
    | false =>
      rw [hholds] at hafter
      rw [realm.own_append_spared records hholds]
      exact hafter
    | true =>
      rw [hholds] at hafter
      rw [realm.own_append_held records hholds, run_append]
      exact hafter

theorem Apart.classify {config : RuntimeConfig} {σ τ : Observatory}
    (h : Apart config realm σ τ) (hlink : realm.links link = true) (instant : TimePoint) :
    (LinkObservatory.classify (τ.classificationInput link instant)).withoutDropped =
      (LinkObservatory.classify (σ.classificationInput link instant)).withoutDropped := by
  obtain ⟨hmirrors, ⟨log, hreached, hconfined⟩, -⟩ := h
  have hinput : τ.classificationInput link instant =
      (σ.classificationInput link instant).putTo τ.store τ.transitions := by
    simp only [classificationInput, ClassificationInput.putTo, LinkRegistry.findLink,
      LinkRegistry.currentGeneration, LinkRegistry.generationState, hmirrors.links link hlink,
      hmirrors.config]
  rw [hinput, ClassificationInput.classify_local (hmirrors.sameFor hreached hconfined hlink)
    hmirrors.limits (hmirrors.rings link hlink)]
  generalize LinkObservatory.classify (σ.classificationInput link instant) = classification
  rfl

theorem Mirrors.forLink {σ τ : Observatory} (h : Mirrors realm σ τ)
    (hlink : realm.links link = true) (limit : UInt64) :
    τ.transitions.forLink link limit = σ.transitions.forLink link limit := by
  unfold TransitionLog.forLink TransitionLog.newest
  rw [ExtTreeMap.getD_eq_getD_getElem?, ExtTreeMap.getD_eq_getD_getElem?, h.rings link hlink,
    h.limits]

/-- What the runtime says about a registered link, its events and its facts is the same with and
without the records about the rest of the network, in whatever order they come in between. -/
theorem run_isolated {config : RuntimeConfig} {realm : Realm}
    {records : List (ParsedRecord × TimePoint)}
    (hrecords : ∀ record ∈ records,
      realm.holds record.1 = true ∨ realm.spares record.1 = true)
    (hbound : config.policy.limits.maxLinks.toNat * 256 < 2 ^ 64)
    (hlinks : (run config records).registry.links.size < config.policy.limits.maxLinks.toNat)
    (hsources : (run config records).registry.sources.size <
      config.policy.limits.maxSources.toNat) (hlink : realm.links link = true) :
    (run config (realm.own records)).registry.findLink link =
        (run config records).registry.findLink link ∧
      (∀ limit, (run config (realm.own records)).transitions.forLink link limit =
        (run config records).transitions.forLink link limit) ∧
      (((run config records).registry.findLink link).isSome →
        ∀ instant, ((run config (realm.own records)).classify link instant).map
          Classification.withoutDropped =
            ((run config records).classify link instant).map Classification.withoutDropped) := by
  have hapart := run_apart hrecords hbound hlinks hsources
  have hfound : (run config (realm.own records)).registry.findLink link =
      (run config records).registry.findLink link := by
    simp only [LinkRegistry.findLink, hapart.mirrors.links link hlink]
  refine ⟨hfound, hapart.mirrors.forLink hlink, ?_⟩
  intro hknown instant
  have hnotNone : ((run config records).registry.findLink link).isNone = false := by
    rw [Option.isNone_eq_false_iff]
    exact hknown
  unfold Observatory.classify
  simp only [hfound, hnotNone, Bool.false_and, Bool.false_eq_true, if_false, Option.map_some,
    hapart.classify hlink instant]

/-- Declarations and readings of two links, interleaved. -/
def pairRecords : List (ParsedRecord × TimePoint) :=
  declaredPair ++
    [(.observation (readingOf (ascii "m")), ⟨1⟩), (.observation (readingOf (ascii "l")), ⟨1⟩),
      (.observation (readingOf (ascii "m")), ⟨2⟩)]

theorem run_isolated_pair :
    let own := run { policy := makeDefaultPolicy } ((realmNamed (ascii "l")).own pairRecords)
    let all := run { policy := makeDefaultPolicy } pairRecords
    let link := deriveLinkId (ascii "l")
    own.registry.findLink link = all.registry.findLink link ∧
      (∀ limit, own.transitions.forLink link limit = all.transitions.forLink link limit) ∧
      ((all.registry.findLink link).isSome → ∀ instant,
        (own.classify link instant).map Classification.withoutDropped =
          (all.classify link instant).map Classification.withoutDropped) :=
  run_isolated (by decide +kernel) (by decide +kernel) (by decide +kernel) (by decide +kernel)
    (by decide +kernel)

end Observatory

end LinkObservatory
