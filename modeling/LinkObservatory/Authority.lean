import LinkObservatory.Bounds

namespace LinkObservatory
set_option autoImplicit true

open Std

/-- The same authority and the same class of evidence. -/
def SourceRecord.SameTag (source other : SourceRecord) : Prop :=
  other.authority = source.authority ∧ other.provenance = source.provenance

theorem SourceRecord.SameTag.refl (source : SourceRecord) : source.SameTag source := ⟨rfl, rfl⟩

theorem SourceRecord.SameTag.trans {a b c : SourceRecord} (h : a.SameTag b) (h' : b.SameTag c) :
    a.SameTag c := ⟨h'.1.trans h.1, h'.2.trans h.2⟩

namespace LinkRegistry

/-- Every source stays registered, with its authority and its class of evidence. -/
def KeepsTags (before after : LinkRegistry) : Prop :=
  ∀ (id : SourceId) source, before.sources[id]? = some source →
    ∃ source', after.sources[id]? = some source' ∧ source.SameTag source'

theorem KeepsTags.of_sources {before after : LinkRegistry}
    (h : after.sources = before.sources) : KeepsTags before after := by
  intro id source hsource
  rw [h]
  exact ⟨source, hsource, .refl source⟩

theorem KeepsTags.trans {a b c : LinkRegistry} (h : KeepsTags a b) (h' : KeepsTags b c) :
    KeepsTags a c := by
  intro id source hsource
  obtain ⟨kept, hkept, htag⟩ := h id source hsource
  obtain ⟨last, hlast, htag'⟩ := h' id kept hkept
  exact ⟨last, hlast, htag.trans htag'⟩

theorem KeepsTags.insert {registry : LinkRegistry} {id : SourceId} {updated : SourceRecord}
    (h : ∀ existing, registry.sources[id]? = some existing → existing.SameTag updated) :
    KeepsTags registry { registry with sources := registry.sources.insert id updated } := by
  intro other source hsource
  simp only [OrderedMap.lookup_insert]
  split
  · rename_i heq
    subst heq
    exact ⟨updated, rfl, h source hsource⟩
  · exact ⟨source, hsource, .refl source⟩

theorem registerSource_keepsTags (registry : LinkRegistry) (record : SourceRecord) :
    registry.KeepsTags (registry.registerSource record).1 := by
  unfold registerSource
  split
  · exact .of_sources rfl
  split
  · exact .of_sources rfl
  split
  · exact .of_sources rfl
  split
  · rename_i existing hfound
    split
    · exact .of_sources rfl
    · apply KeepsTags.insert
      intro held hheld
      rw [hfound] at hheld
      cases hheld
      exact ⟨rfl, rfl⟩
  · rename_i hnew
    split
    · exact .of_sources rfl
    · apply KeepsTags.insert
      intro held hheld
      rw [hnew] at hheld
      cases hheld

theorem retireSource_keepsTags (registry : LinkRegistry) (id : SourceId) :
    registry.KeepsTags (registry.retireSource id).1 := by
  unfold retireSource
  split
  · exact .of_sources rfl
  · rename_i found hfound
    apply KeepsTags.insert
    intro held hheld
    rw [hfound] at hheld
    cases hheld
    exact ⟨rfl, rfl⟩

end LinkRegistry

namespace Observatory

theorem applySource_keepsTags (σ : Observatory) (declaration : SourceDecl) :
    σ.registry.KeepsTags (σ.applySource declaration).1.registry := by
  unfold applySource
  simp only
  generalize hregistered : σ.registry.registerSource _ = registered
  have hregisters : σ.registry.KeepsTags registered.1 := by
    rw [← hregistered]
    exact σ.registry.registerSource_keepsTags _
  split
  · exact hregisters
  generalize hretired : (if declaration.retired then _ else _ : LinkRegistry × Status) = retired
  have hretires : registered.1.KeepsTags retired.1 := by
    rw [← hretired]
    split
    · exact registered.1.retireSource_keepsTags _
    · exact .of_sources rfl
  split
  · exact hregisters.trans hretires
  · exact hregisters.trans hretires

theorem applyRecord_keepsTags (σ : Observatory) (record : ParsedRecord) (instant : TimePoint) :
    σ.registry.KeepsTags (σ.applyRecord record instant).1.registry := by
  cases record with
  | none => exact .of_sources rfl
  | source declaration => exact σ.applySource_keepsTags declaration
  | link declaration => exact .of_sources (σ.applyLink_writes declaration instant).sources
  | observation declaration => exact .of_sources (σ.applyObservation_writes _ instant).sources

/-- The item carries the authority and the class of the source it came from. -/
def Carries (registry : LinkRegistry) (evidence : Evidence) : Prop :=
  ∃ source, registry.sources[evidence.observation.provenance.source]? = some source ∧
    evidence.authority = source.authority ∧ evidence.provenance = source.provenance

theorem Carries.mono {registry after : LinkRegistry} (h : Carries registry evidence)
    (hkeeps : registry.KeepsTags after) : Carries after evidence := by
  obtain ⟨source, hsource, hauthority, hprovenance⟩ := h
  obtain ⟨kept, hkept, htag⟩ := hkeeps _ source hsource
  exact ⟨kept, hkept, hauthority.trans htag.1.symm, hprovenance.trans htag.2.symm⟩

/-- Every retained item carries the tag of its source. -/
def EvidenceTagged (σ : Observatory) : Prop :=
  ∀ (slotKey : SlotKey) slot, σ.store.slots[slotKey]? = some slot →
    ∀ evidence ∈ slot.history, Carries σ.registry evidence

theorem EvidenceTagged.frame {σ σ' : Observatory} (h : σ.EvidenceTagged)
    (hslots : σ'.store.slots = σ.store.slots) (hkeeps : σ.registry.KeepsTags σ'.registry) :
    σ'.EvidenceTagged := by
  intro slotKey slot hslot evidence hmem
  rw [hslots] at hslot
  exact (h slotKey slot hslot evidence hmem).mono hkeeps

/-- The slots after an observation: untouched, or with one item of the source's own tag added. -/
theorem EvidenceTagged.applyObservation {σ : Observatory} (h : σ.EvidenceTagged)
    (observation : Observation) (instant : TimePoint) :
    (σ.applyObservation observation instant).1.EvidenceTagged := by
  have hkeeps : σ.registry.KeepsTags (σ.applyObservation observation instant).1.registry :=
    .of_sources (σ.applyObservation_writes observation instant).sources
  cases haccepted : (σ.applyObservation observation instant).2.accepted with
  | false => exact h.frame (applyObservation_slots_refused haccepted) hkeeps
  | true =>
    obtain ⟨source, ensured, observed, hstep⟩ := applyObservation_accepted haccepted
    rcases σ.store.accept_slots observation (observed.acceptContext observation source) instant
      with ⟨hno, -⟩ | ⟨-, admitted, slot, hadmission, -, hslots, hrecords⟩
    · rw [hstep.accepts, haccepted] at hno
      cases hno
    · obtain ⟨hcontext, -⟩ := EvidenceStore.admission_ok hadmission
      obtain rfl : source = admitted := Option.some.inj hcontext
      rw [hstep.accepts] at hslots
      have hheld : ∀ evidence ∈ (σ.store.slotFor ⟨observation.link, observation.key⟩).history,
          Carries σ.registry evidence := by
        intro evidence hmem
        rw [EvidenceStore.slotFor, ExtTreeMap.getD_eq_getD_getElem?] at hmem
        cases hslot : σ.store.slots[SlotKey.mk observation.link observation.key]? with
        | none =>
          rw [hslot] at hmem
          cases hmem
        | some held =>
          rw [hslot] at hmem
          exact h _ held hslot evidence hmem
      unfold EvidenceTagged
      rw [hslots]
      apply OrderedMap.forall_insert
      · intro slotKey slot hslot evidence hmem
        exact (h slotKey slot hslot evidence hmem).mono hkeeps
      · intro evidence hmem
        rw [hrecords.history] at hmem
        rcases Ring.mem_of_mem_push hmem with hold | rfl
        · exact (hheld evidence hold).mono hkeeps
        · exact Carries.mono ⟨source, hstep.live, rfl, rfl⟩ hkeeps

theorem EvidenceTagged.applyRecord {σ : Observatory} (h : σ.EvidenceTagged)
    (record : ParsedRecord) (instant : TimePoint) :
    (σ.applyRecord record instant).1.EvidenceTagged := by
  have hkeeps := σ.applyRecord_keepsTags record instant
  cases record with
  | none => exact h
  | source declaration => exact h.frame (by rw [Observatory.applyRecord, applySource_store]) hkeeps
  | link declaration => exact h.frame (by rw [Observatory.applyRecord, applyLink_store]) hkeeps
  | observation declaration => exact h.applyObservation _ instant

theorem Reached.evidenceTagged {config : RuntimeConfig} (h : Reached config log σ) :
    σ.EvidenceTagged := by
  induction h with
  | start =>
    intro slotKey slot hslot
    simp [fresh] at hslot
  | record record instant _ ih => exact ih.applyRecord record instant
  | unread files hrun hread ih =>
    obtain ⟨-, rfl⟩ := hrun.sound
    obtain ⟨-, hsame⟩ := reload_unread hread
    exact ih.frame (by rw [hsame.store]) (.of_sources (by rw [hsame.registry]))
  | reload files now hrun hrun' hpath hread _ ih' =>
    obtain ⟨hs, rfl⟩ := hrun.sound
    have hrecovers := hrun'.sound.1.reload hs hrun'.sound.2.symm hpath hread
    exact ih'.frame hrecovers.slots (.of_sources (by rw [hrecovers.registry]))

/-- The states that continue a state: by records, and by reloads of snapshots saved since. -/
inductive Continues (config : RuntimeConfig) (σ : Observatory) : Observatory → Prop
  | refl : Continues config σ σ
  | record (record : ParsedRecord) (instant : TimePoint) : Continues config σ σ' →
      Continues config σ (σ'.applyRecord record instant).1
  | unread (files : FileSystem) : Continues config σ σ' →
      (config.snapshotPath = "" ∨
        (readSnapshot files config.snapshotPath config.policy).contents = none) →
      Continues config σ (σ'.reload files).1
  | reload (files : FileSystem) (now : TimePoint) : Reached config log running →
      Continues config σ σ' → config.snapshotPath ≠ "" →
      (readSnapshot files config.snapshotPath config.policy).contents =
        some (σ'.collectSnapshot now) →
      Continues config σ (running.reload files).1

theorem Continues.keepsTags {config : RuntimeConfig} (h : Continues config σ σ')
    (hreached : Reached config log σ) :
    (σ'.Sound ∧ σ'.config = config) ∧ σ.registry.KeepsTags σ'.registry := by
  induction h with
  | refl => exact ⟨hreached.sound, .of_sources rfl⟩
  | record record instant _ ih =>
    obtain ⟨⟨hs, hconfig⟩, hkeeps⟩ := ih
    refine ⟨⟨hs.applyRecord record instant, ?_⟩, ?_⟩
    · rw [applyRecord_config, hconfig]
    · exact hkeeps.trans (applyRecord_keepsTags _ record instant)
  | unread files _ hread ih =>
    obtain ⟨⟨hs, rfl⟩, hkeeps⟩ := ih
    obtain ⟨hconfig, hsame⟩ := reload_unread hread
    exact ⟨⟨hsame.sound hconfig hs, hconfig⟩, hkeeps.trans (.of_sources (by rw [hsame.registry]))⟩
  | reload files now hrunning _ hpath hread ih =>
    obtain ⟨⟨hs, hconfig⟩, hkeeps⟩ := ih
    obtain ⟨hs', rfl⟩ := hrunning.sound
    have hrecovers := hs.reload hs' hconfig.symm hpath hread
    exact ⟨⟨hrecovers.sound hs, hrecovers.config.trans hconfig⟩,
      hkeeps.trans (.of_sources (by rw [hrecovers.registry]))⟩

/-- A source keeps its authority and its class, which is known, in every state that continues the
one it is registered in; and all evidence carries the tag of its source. -/
theorem Reached.authority_fixed {config : RuntimeConfig} (h : Reached config log σ) :
    (∀ (id : SourceId) source, σ.registry.sources[id]? = some source →
      source.provenance ≠ .unknown ∧ ∀ σ', Continues config σ σ' →
        ∃ source', σ'.registry.sources[id]? = some source' ∧
          source'.authority = source.authority ∧ source'.provenance = source.provenance) ∧
    ∀ (slotKey : SlotKey) slot, σ.store.slots[slotKey]? = some slot →
      ∀ evidence ∈ slot.history, ∃ source,
        σ.registry.sources[evidence.observation.provenance.source]? = some source ∧
          evidence.authority = source.authority ∧ evidence.provenance = source.provenance := by
  constructor
  · intro id source hsource
    constructor
    · exact (h.sound.1.registry.sources id source hsource).2.1.2.2
    · intro σ' hcontinues
      exact (hcontinues.keepsTags h).2 id source hsource
  · exact h.evidenceTagged

theorem Reached.authority_fixed_report :
    ∃ slot, (Observatory.run { policy := makeDefaultPolicy } reportedRecords).store.slots[
        SlotKey.mk (deriveLinkId (ascii "l")) kAdminKey]? = some slot ∧
      slot.history.length = 1 ∧ ∀ evidence ∈ slot.history, ∃ source,
        (Observatory.run { policy := makeDefaultPolicy } reportedRecords).registry.sources[
            evidence.observation.provenance.source]? = some source ∧
          evidence.authority = source.authority ∧ evidence.provenance = source.provenance := by
  have hreached := Reached.run { policy := makeDefaultPolicy } reportedRecords
  have hheld : ((Observatory.run { policy := makeDefaultPolicy } reportedRecords).store.slots[
      SlotKey.mk (deriveLinkId (ascii "l")) kAdminKey]?).any
        (fun slot => slot.history.length == 1) = true := by
    decide +kernel
  obtain ⟨slot, hslot, hone⟩ := (Option.any_eq_true _ _).1 hheld
  exact ⟨slot, hslot, eq_of_beq hone, hreached.authority_fixed.2 _ slot hslot⟩

theorem applySource_congr {σ τ : Observatory} (h : τ.registry = σ.registry)
    (declaration : SourceDecl) :
    (τ.applySource declaration).1.registry = (σ.applySource declaration).1.registry := by
  unfold applySource
  simp only [h]
  split
  · rfl
  generalize (if declaration.retired then _ else _ : LinkRegistry × Status) = retired
  split
  · rfl
  · rfl

theorem reload_fresh_source (config : RuntimeConfig) (hpath : config.snapshotPath ≠ "")
    (hread : (readSnapshot files config.snapshotPath config.policy).contents =
      some ((fresh config).collectSnapshot now)) (first : ParsedRecord) (instant : TimePoint)
    (again : SourceDecl) :
    (((((fresh config).applyRecord first instant).1.reload files).1.applyRecord (.source again)
      instant).1.registry) = ((fresh config).applyRecord (.source again) instant).1.registry := by
  have hreached : Reached config [] (fresh config) := .start
  have hfirst := (hreached.record first instant).sound
  apply applySource_congr
  have hrecovers := hreached.sound.1.reload hfirst.1 (applyRecord_config _ _ _)
    (by rw [hfirst.2]; exact hpath) (by rw [hfirst.2]; exact hread)
  exact hrecovers.registry

/-- Reloading a snapshot saved before a source was registered forgets it, and the source may then
be registered with another authority. -/
theorem Reached.authority_fixed_fails :
    ¬ ∀ (config : RuntimeConfig) (log : List Decision) (σ : Observatory)
      (first again : ParsedRecord) (instant now : TimePoint) (files : FileSystem) (id : SourceId)
      (source source' : SourceRecord),
      Reached config log σ → config.snapshotPath ≠ "" →
      (readSnapshot files config.snapshotPath config.policy).contents =
        some (σ.collectSnapshot now) →
      (σ.applyRecord first instant).1.registry.sources[id]? = some source →
      (((σ.applyRecord first instant).1.reload files).1.applyRecord again
        instant).1.registry.sources[id]? = some source' →
      source'.authority = source.authority := by
  intro h
  let config : RuntimeConfig := { snapshotPath := "state", policy := makeDefaultPolicy }
  let first : SourceDecl := { name := ascii "s", authority := .secondary, provenance := .real }
  let again : SourceDecl := { name := ascii "s", authority := .primary, provenance := .real }
  have hreached : Reached config [] (fresh config) := .start
  have hread := hreached.sound.1.snapshot_reads ⟨0⟩
    (fun _ => some ((fresh config).collectSnapshot ⟨0⟩).container) "state"
  rw [hreached.sound.2] at hread
  have hread := hread (by decide) (by decide) (by decide +kernel) (by decide) rfl
  have hknown : (((fresh config).applyRecord (.source first) ⟨1⟩).1.registry.sources[
      (.fromName (ascii "s") : SourceId)]?).any (fun source => source.authority == .secondary) =
        true := by decide +kernel
  have hagain : (((fresh config).applyRecord (.source again) ⟨1⟩).1.registry.sources[
      (.fromName (ascii "s") : SourceId)]?).any (fun source => source.authority == .primary) =
        true := by decide +kernel
  obtain ⟨source, hsource, hsecondary⟩ := (Option.any_eq_true _ _).1 hknown
  obtain ⟨source', hsource', hprimary⟩ := (Option.any_eq_true _ _).1 hagain
  have hsame := h config [] (fresh config) (.source first) (.source again) ⟨1⟩ ⟨0⟩ _
    (.fromName (ascii "s")) source source' hreached (by decide) hread hsource
  rw [reload_fresh_source config (by decide) hread] at hsame
  have hequal := hsame hsource'
  have hold : source.authority = .secondary := eq_of_beq hsecondary
  have hnew : source'.authority = .primary := eq_of_beq hprimary
  rw [hold, hnew] at hequal
  cases hequal

end Observatory

end LinkObservatory
