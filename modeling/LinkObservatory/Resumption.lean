import LinkObservatory.Locality
import LinkObservatory.RoundTrip
import LinkObservatory.Export

namespace LinkObservatory
set_option autoImplicit true

open Std OrderedMap

namespace Observatory

/-- The links a runtime knows, in the order of their ids. -/
def links (σ : Observatory) : List LinkEntry :=
  σ.registry.links.toList.map fun item => item.2.entry

def sources (σ : Observatory) : List SourceRecord :=
  σ.registry.sources.toList.map Prod.snd

def findLink (σ : Observatory) (name : Bytes) : Option LinkEntry :=
  σ.registry.findLink (deriveLinkId name)

def evidenceFor (σ : Observatory) (link : LinkId) (key : MetricKey) (now : TimePoint) :
    List EvaluatedEvidence :=
  let generation := σ.registry.currentGeneration link
  σ.store.contenders link key
    { now := now, currentGeneration := generation, hasGeneration := generation.valid }

def metricsFor (σ : Observatory) (link : LinkId) : List MetricKey := σ.store.keysFor link

def slotViews (σ : Observatory) (link : LinkId) (now : TimePoint) : List SlotView :=
  (σ.store.keysFor link).filterMap fun key => σ.store.slotView link key now

end Observatory

theorem EvidenceStore.readable_inj {store store' : EvidenceStore} :
    store'.readable = store.readable ↔ store'.policy = store.policy ∧
      store'.slots = store.slots ∧ store'.streams = store.streams := by
  simp [EvidenceStore.readable]

theorem EvidenceStore.Alike.of_readable {store store' : EvidenceStore}
    (h : store'.readable = store.readable) (observation : Observation) :
    Alike observation store store' := by
  obtain ⟨hpolicy, hslots, hstreams⟩ := EvidenceStore.readable_inj.1 h
  refine ⟨hpolicy, by rw [hslots], by rw [hstreams], ?_⟩
  intro _
  rw [EvidenceStore.full, EvidenceStore.full, hslots, hpolicy]

theorem EvidenceStore.accept_readable {store store' : EvidenceStore}
    (h : store'.readable = store.readable) (observation : Observation) (context : AcceptContext)
    (now : TimePoint) :
    (store'.accept observation context now).2 = (store.accept observation context now).2 ∧
      (store'.accept observation context now).1.readable =
        (store.accept observation context now).1.readable := by
  obtain ⟨effect, outcome, haccept, haccept'⟩ :=
    (Alike.of_readable h observation).accept context now
  have hreadable (kept : EvidenceStore) : (effect.apply observation kept).readable =
      (effect.apply observation kept.readable).readable := rfl
  rw [haccept, haccept']
  refine ⟨rfl, ?_⟩
  rw [hreadable store', hreadable store, h]

namespace Observatory

/-- Two runtimes with the same configuration, registry and evidence. -/
structure Matches (σ τ : Observatory) : Prop where
  config : τ.config = σ.config
  registry : τ.registry = σ.registry
  evidence : τ.store.readable = σ.store.readable

theorem Matches.refl (σ : Observatory) : Matches σ σ := ⟨rfl, rfl, rfl⟩

theorem Matches.trans {σ τ ρ : Observatory} (h : Matches σ τ) (h' : Matches τ ρ) : Matches σ ρ :=
  ⟨h'.config.trans h.config, h'.registry.trans h.registry, h'.evidence.trans h.evidence⟩

theorem Recovers.matches {σ after : Observatory} (h : Recovers σ after) : Matches σ after := by
  refine ⟨h.config, h.registry, ?_⟩
  exact EvidenceStore.readable_inj.2 ⟨h.policy, h.slots, h.streams⟩

section

variable {σ τ : Observatory} (h : Matches σ τ)

include h

theorem Matches.recordsOnly {σ' τ' : Observatory} (hσ : RecordsOnly σ σ')
    (hτ : RecordsOnly τ τ') : Matches σ' τ' := by
  refine ⟨?_, ?_, ?_⟩
  · rw [hτ.config, hσ.config, h.config]
  · rw [hτ.registry, hσ.registry, h.registry]
  · rw [hτ.store, hσ.store, h.evidence]

theorem Matches.setRegistry (registry : LinkRegistry) :
    Matches { σ with registry := registry } { τ with registry := registry } :=
  ⟨h.config, rfl, h.evidence⟩

theorem Matches.countFenced : Matches σ.countFenced τ.countFenced :=
  ⟨h.config, h.registry, h.evidence⟩

theorem Matches.countOwnFence (reason : FenceReason) :
    Matches (σ.countOwnFence reason) (τ.countOwnFence reason) :=
  ⟨h.config, h.registry, h.evidence⟩

theorem Matches.acceptInto (observation : Observation) (source : Option SourceRecord)
    (enabled : Bool) (instant : TimePoint) :
    (τ.acceptInto observation source enabled instant).2 =
        (σ.acceptInto observation source enabled instant).2 ∧
      Matches (σ.acceptInto observation source enabled instant).1
        (τ.acceptInto observation source enabled instant).1 := by
  unfold Observatory.acceptInto
  rw [h.registry]
  obtain ⟨houtcome, hreadable⟩ := EvidenceStore.accept_readable h.evidence observation
    { source := source, currentGeneration := σ.registry.currentGeneration observation.link
      familyEnabled := enabled } instant
  exact ⟨houtcome, h.config, rfl, hreadable⟩

theorem Matches.applyKnown (observation : Observation) (source : SourceRecord)
    (instant : TimePoint) :
    (τ.applyKnown observation source instant).2 = (σ.applyKnown observation source instant).2 ∧
      Matches (σ.applyKnown observation source instant).1
        (τ.applyKnown observation source instant).1 := by
  obtain ⟨houtcome, haccepted⟩ := h.acceptInto observation (some source) true instant
  unfold Observatory.applyKnown
  simp only [houtcome]
  generalize (σ.acceptInto observation (some source) true instant).1 = σ₁ at *
  generalize (τ.acceptInto observation (some source) true instant).1 = τ₁ at *
  generalize (σ.acceptInto observation (some source) true instant).2 = outcome at *
  split
  · refine ⟨rfl, haccepted.config, ?_, haccepted.evidence⟩
    show τ₁.registry.noteFenced observation.link = σ₁.registry.noteFenced observation.link
    rw [haccepted.registry]
  · refine ⟨rfl, ?_⟩
    rw [haccepted.registry]
    apply Matches.recordsOnly _ (refreshClassification_recordsOnly _ _ _)
      (refreshClassification_recordsOnly _ _ _)
    apply Matches.recordsOnly _ (recordOutcome_recordsOnly _ _ _ _)
      (recordOutcome_recordsOnly _ _ _ _)
    exact ⟨haccepted.config, rfl, haccepted.evidence⟩

theorem Matches.applyGeneration (observation : Observation) (source : SourceRecord)
    (instant : TimePoint) :
    (τ.applyGeneration observation source instant).2 =
        (σ.applyGeneration observation source instant).2 ∧
      Matches (σ.applyGeneration observation source instant).1
        (τ.applyGeneration observation source instant).1 := by
  unfold Observatory.applyGeneration
  rw [h.registry]
  generalize σ.registry.observeGeneration observation.link
    observation.provenance.generation = observed
  dsimp only
  have hobserved := h.setRegistry observed.1
  split
  · exact ⟨rfl, ((hobserved.countOwnFence .generationBehind).countFenced).setRegistry _⟩
  · apply Matches.applyKnown
    split
    · exact hobserved.recordsOnly (recordTransition_recordsOnly _ _)
        (recordTransition_recordsOnly _ _)
    · exact hobserved

theorem Matches.applyObservation (observation : Observation) (instant : TimePoint) :
    (τ.applyObservation observation instant).2 = (σ.applyObservation observation instant).2 ∧
      Matches (σ.applyObservation observation instant).1
        (τ.applyObservation observation instant).1 := by
  have hsubmitted (registry : LinkRegistry) (stats stats' : RuntimeStatistics) :
      Matches { σ with registry := registry, stats := stats }
        { τ with config := σ.config, registry := registry, stats := stats' } :=
    ⟨rfl, rfl, h.evidence⟩
  have hrefuse (source : Option SourceRecord) (enabled : Bool) {σ₁ τ₁ : Observatory}
      (hmatches : Matches σ₁ τ₁) :
      (τ₁.acceptInto observation source enabled instant).2 =
          (σ₁.acceptInto observation source enabled instant).2 ∧
        Matches
          (if !(σ₁.acceptInto observation source enabled instant).2.accepted then
            (σ₁.acceptInto observation source enabled instant).1.countFenced
            else (σ₁.acceptInto observation source enabled instant).1)
          (if !(τ₁.acceptInto observation source enabled instant).2.accepted then
            (τ₁.acceptInto observation source enabled instant).1.countFenced
            else (τ₁.acceptInto observation source enabled instant).1) := by
    obtain ⟨houtcome, haccepted⟩ := hmatches.acceptInto observation source enabled instant
    refine ⟨houtcome, ?_⟩
    rw [houtcome]
    split
    · exact haccepted.countFenced
    · exact haccepted
  unfold Observatory.applyObservation
  simp only [h.registry, h.config]
  split
  · exact hrefuse none _ (hsubmitted _ _ _)
  · split
    · exact hrefuse _ _ (hsubmitted _ _ _)
    · split
      · exact hrefuse _ _ (hsubmitted _ _ _)
      · split
        · split
          · exact ⟨rfl, ((hsubmitted _ _ _).countOwnFence _).countFenced⟩
          · exact (hsubmitted _ _ _).applyGeneration observation _ instant
        · exact (hsubmitted _ _ _).applyGeneration observation _ instant

theorem Matches.applySource (declaration : SourceDecl) :
    (τ.applySource declaration).2 = (σ.applySource declaration).2 ∧
      Matches (σ.applySource declaration).1 (τ.applySource declaration).1 := by
  unfold Observatory.applySource
  rw [h.registry]
  dsimp only
  split
  · exact ⟨rfl, h.config, rfl, h.evidence⟩
  generalize (if declaration.retired = true then _ else _ : LinkRegistry × Status) = retired
  split
  · exact ⟨rfl, h.config, rfl, h.evidence⟩
  · exact ⟨rfl, h.config, rfl, h.evidence⟩

theorem Matches.applyLink (declaration : LinkDecl) (instant : TimePoint) :
    (τ.applyLink declaration instant).2 = (σ.applyLink declaration instant).2 ∧
      Matches (σ.applyLink declaration instant).1 (τ.applyLink declaration instant).1 := by
  unfold Observatory.applyLink
  rw [h.registry]
  dsimp only
  split
  · exact ⟨rfl, h.config, rfl, h.evidence⟩
  split
  · split
    · exact ⟨rfl, h.config, rfl, h.evidence⟩
    · exact ⟨rfl, h.config, rfl, h.evidence⟩
  · split
    · exact ⟨rfl, h.config, rfl, h.evidence⟩
    · exact ⟨rfl, h.config, rfl, h.evidence⟩

/-- Matching runtimes answer a record alike, take the same decision and match afterwards. -/
theorem Matches.applyRecord (record : ParsedRecord) (instant : TimePoint) :
    (τ.applyRecord record instant).2 = (σ.applyRecord record instant).2 ∧
      τ.decisionsOf record instant = σ.decisionsOf record instant ∧
      Matches (σ.applyRecord record instant).1 (τ.applyRecord record instant).1 := by
  cases record with
  | none => exact ⟨rfl, rfl, h⟩
  | source declaration =>
    obtain ⟨hstatus, hnext⟩ := h.applySource declaration
    exact ⟨hstatus, rfl, hnext⟩
  | link declaration =>
    obtain ⟨hstatus, hnext⟩ := h.applyLink declaration instant
    exact ⟨hstatus, rfl, hnext⟩
  | observation declaration =>
    obtain ⟨houtcome, hnext⟩ := h.applyObservation (makeObservation declaration) instant
    refine ⟨rfl, ?_, hnext⟩
    rw [decisionsOf, decisionsOf, houtcome]

theorem Matches.decisionsFrom (records : List (ParsedRecord × TimePoint)) :
    decisionsFrom τ records = decisionsFrom σ records := by
  induction records generalizing σ τ with
  | nil => rfl
  | cons record records ih =>
    obtain ⟨-, hdecisions, hnext⟩ := h.applyRecord record.1 record.2
    rw [Observatory.decisionsFrom, Observatory.decisionsFrom, hdecisions, ih hnext]

theorem Matches.evidenceFor (link : LinkId) (key : MetricKey) (now : TimePoint) :
    τ.evidenceFor link key now = σ.evidenceFor link key now := by
  show τ.store.readable.contenders _ _ _ = σ.store.readable.contenders _ _ _
  rw [h.evidence, h.registry]

theorem Matches.metricsFor (link : LinkId) : τ.metricsFor link = σ.metricsFor link := by
  show τ.store.readable.keysFor link = σ.store.readable.keysFor link
  rw [h.evidence]

theorem Matches.slotViews (link : LinkId) (now : TimePoint) :
    τ.slotViews link now = σ.slotViews link now := by
  show (τ.metricsFor link).filterMap (fun key => τ.store.readable.slotView link key now) =
    (σ.metricsFor link).filterMap fun key => σ.store.readable.slotView link key now
  rw [h.evidence, h.metricsFor]

theorem Matches.evaluateKey (link : LinkId) (key : MetricKey) (now : TimePoint) :
    LinkObservatory.evaluateKey (τ.classificationInput link now) key =
      LinkObservatory.evaluateKey (σ.classificationInput link now) key := by
  have hinput : τ.classificationInput link now =
      (σ.classificationInput link now).putTo τ.store τ.transitions := by
    simp only [classificationInput, ClassificationInput.putTo, h.registry, h.config]
  rw [hinput]
  apply ClassificationInput.evaluateKey_local
  obtain ⟨hpolicy, hslots, hstreams⟩ := EvidenceStore.readable_inj.1 h.evidence
  refine ⟨hpolicy, ?_, ?_⟩
  · intro key
    show τ.store.slots[_]? = σ.store.slots[_]?
    rw [hslots]
  · intros
    show τ.store.streams[_]? = σ.store.streams[_]?
    rw [hstreams]

theorem Matches.linkEvidence (link : LinkId) (limit : Nat) (now : TimePoint) :
    τ.linkEvidence link limit now = σ.linkEvidence link limit now := by
  show ((τ.metricsFor link).flatMap fun key => (τ.evidenceFor link key now).map
      EvaluatedEvidence.evidence).take (min limit τ.config.policy.limits.maxResultRows.toNat) =
    ((σ.metricsFor link).flatMap fun key => (σ.evidenceFor link key now).map
      EvaluatedEvidence.evidence).take (min limit σ.config.policy.limits.maxResultRows.toNat)
  simp only [h.metricsFor, h.evidenceFor, h.config]

end

/-- A runtime that never stops beside one that is restarted, any number of times and at any points,
from snapshots of its own state. A process that goes down loses what came after the snapshot, and
the pair goes on from there. -/
inductive Twins (config : RuntimeConfig) :
    List Decision → List Decision → Observatory → Observatory → Prop
  | start : Twins config [] [] (fresh config) (fresh config)
  | record (record : ParsedRecord) (instant : TimePoint) : Twins config log log' σ τ →
      Twins config (log ++ σ.decisionsOf record instant) (log' ++ τ.decisionsOf record instant)
        (σ.applyRecord record instant).1 (τ.applyRecord record instant).1
  | restart (files : FileSystem) (now : TimePoint) : Twins config log log' σ τ →
      Reached config other process → config.snapshotPath ≠ "" →
      (readSnapshot files config.snapshotPath config.policy).contents =
        some (τ.collectSnapshot now) → Twins config log log' σ (process.reload files).1

theorem Twins.reached {config : RuntimeConfig} (h : Twins config log log' σ τ) :
    Reached config log' τ := by
  induction h with
  | start => exact .start
  | record record instant _ ih => exact ih.record record instant
  | restart files now _ hprocess hpath hread ih => exact hprocess.reload files now ih hpath hread

theorem Twins.matches {config : RuntimeConfig} (h : Twins config log log' σ τ) :
    log' = log ∧ Matches σ τ := by
  induction h with
  | start => exact ⟨rfl, .refl _⟩
  | record record instant _ ih =>
    obtain ⟨hlog, hmatches⟩ := ih
    obtain ⟨-, hdecisions, hnext⟩ := hmatches.applyRecord record instant
    refine ⟨?_, hnext⟩
    rw [hlog, hdecisions]
  | restart files now htwins hprocess hpath hread ih =>
    obtain ⟨hlog, hmatches⟩ := ih
    obtain ⟨hs, hconfig⟩ := htwins.reached.sound
    obtain ⟨hs', rfl⟩ := hprocess.sound
    exact ⟨hlog, hmatches.trans (hs.reload hs' hconfig.symm hpath hread).matches⟩

/-- Restarts cannot be noticed: the decisions are those of the runtime that never stopped, what is
known and held as evidence is the same to every query, and so are the decisions on all that is
still to come. -/
theorem Twins.indistinguishable {config : RuntimeConfig} (h : Twins config log log' σ τ) :
    log' = log ∧ τ.links = σ.links ∧ τ.sources = σ.sources ∧
      (∀ name, τ.findLink name = σ.findLink name) ∧
      (∀ link now, τ.slotViews link now = σ.slotViews link now) ∧
      (∀ link key now, τ.evidenceFor link key now = σ.evidenceFor link key now) ∧
      (∀ link limit now, τ.linkEvidence link limit now = σ.linkEvidence link limit now) ∧
      (∀ link key now, evaluateKey (τ.classificationInput link now) key =
        evaluateKey (σ.classificationInput link now) key) ∧
      ∀ records, decisionsFrom τ records = decisionsFrom σ records := by
  obtain ⟨hlog, hmatches⟩ := h.matches
  refine ⟨hlog, ?_, ?_, ?_, hmatches.slotViews, hmatches.evidenceFor, hmatches.linkEvidence,
    hmatches.evaluateKey, hmatches.decisionsFrom⟩
  · rw [links, links, hmatches.registry]
  · rw [sources, sources, hmatches.registry]
  · intro name
    rw [findLink, findLink, hmatches.registry]

theorem Twins.foldl {config : RuntimeConfig} (h : Twins config log log σ σ)
    (records : List (ParsedRecord × TimePoint)) :
    Twins config (log ++ decisionsFrom σ records) (log ++ decisionsFrom σ records)
      (records.foldl (fun σ record => (σ.applyRecord record.1 record.2).1) σ)
      (records.foldl (fun σ record => (σ.applyRecord record.1 record.2).1) σ) := by
  induction records generalizing log σ with
  | nil => rwa [decisionsFrom, List.append_nil]
  | cons record records ih =>
    rw [decisionsFrom, ← List.append_assoc]
    exact ih (h.record record.1 record.2)

theorem twins_run (config : RuntimeConfig) (records : List (ParsedRecord × TimePoint)) :
    Twins config (decisionsFrom (fresh config) records) (decisionsFrom (fresh config) records)
      (run config records) (run config records) :=
  Twins.start.foldl records

/-- Runtimes that persist their state. -/
def keptConfig : RuntimeConfig := { snapshotPath := "state", policy := makeDefaultPolicy }

theorem Twins.indistinguishable_reported :
    decisionsFrom ((fresh keptConfig).reload fun _ =>
        some ((run keptConfig reportedRecords).collectSnapshot ⟨2⟩).container).1
        [(revisionRecord (ascii "l") 2, ⟨3⟩)] =
      decisionsFrom (run keptConfig reportedRecords) [(revisionRecord (ascii "l") 2, ⟨3⟩)] := by
  have hreached := Reached.run keptConfig reportedRecords
  have hread := hreached.sound.1.snapshot_reads ⟨2⟩
    (fun _ => some ((run keptConfig reportedRecords).collectSnapshot ⟨2⟩).container) "state"
  rw [hreached.sound.2] at hread
  have hrestarted := (twins_run keptConfig reportedRecords).restart _ ⟨2⟩ .start (by decide)
    (hread (by decide) (by decide) (by decide +kernel) (by decide) rfl)
  exact hrestarted.indistinguishable.2.2.2.2.2.2.2.2 _

end Observatory

end LinkObservatory
