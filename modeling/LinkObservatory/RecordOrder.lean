import LinkObservatory.Isolation
import LinkObservatory.Lib.Rearrangement

namespace LinkObservatory
set_option autoImplicit true

open Std OrderedMap

/-- A division of a network: which part each link and each source belongs to. -/
structure Division where
  links : LinkId → Nat
  sources : SourceId → Nat

namespace Division

def realm (division : Division) (part : Nat) : Realm where
  links link := division.links link == part
  sources source := division.sources source == part

/-- The part that a record is about. -/
def partOf (division : Division) : ParsedRecord → Option Nat
  | .none => none
  | .source declaration => some (division.sources (.fromName declaration.name))
  | .link declaration => some (division.links (makeLinkFacts declaration).id)
  | .observation declaration => some (division.links (makeObservation declaration).link)

/-- An observation is of a link and from a source of one part. -/
def Fits (division : Division) : ParsedRecord → Prop
  | .observation declaration =>
    division.sources (makeObservation declaration).provenance.source =
      division.links (makeObservation declaration).link
  | _ => True

instance (division : Division) (record : ParsedRecord) : Decidable (division.Fits record) :=
  match record with
  | .observation declaration => inferInstanceAs (Decidable
      (division.sources (makeObservation declaration).provenance.source =
        division.links (makeObservation declaration).link))
  | .none | .source _ | .link _ => inferInstanceAs (Decidable True)

theorem partOf_ne_none {division : Division} {record : ParsedRecord} (h : record ≠ .none) :
    division.partOf record ≠ none := by
  cases record with
  | none => exact absurd rfl h
  | source | link | observation => exact Option.some_ne_none _

theorem spares_of_ne {division : Division} {record : ParsedRecord} (hfits : division.Fits record)
    (hne : division.partOf record ≠ some part) : (division.realm part).spares record = true := by
  cases record with
  | none => rfl
  | source declaration | link declaration =>
    simpa [Realm.spares, realm, partOf] using hne
  | observation declaration =>
    have hfits' : division.sources (makeObservation declaration).provenance.source = _ := hfits
    simpa [Realm.spares, realm, partOf, hfits'] using hne

end Division

/-- An observation where the record is about: of its link, from its source. -/
def ParsedRecord.Places (observation : Observation) : ParsedRecord → Prop
  | .none => True
  | .source declaration => observation.provenance.source = .fromName declaration.name
  | .link declaration => observation.link = (makeLinkFacts declaration).id
  | .observation declaration => observation = makeObservation declaration

/-- What the handling of a record writes: the record of its source, then effects on its link. -/
structure Deed where
  source : Option SourceRecord := none
  effects : List Effect := []

def Deed.perform (deed : Deed) (observation : Observation) (σ : Observatory) : Observatory :=
  Effect.run observation deed.effects
    { σ with registry := σ.registry.putSource observation.provenance.source deed.source }

theorem Effect.run_putSource (observation : Observation) (effects : List Effect) (σ : Observatory)
    (source : SourceId) (record : Option SourceRecord) :
    Effect.run observation effects { σ with registry := σ.registry.putSource source record } =
      { Effect.run observation effects σ with
        registry := (Effect.run observation effects σ).registry.putSource source record } := by
  induction effects generalizing σ with
  | nil => rfl
  | cons effect effects ih => exact ih (effect.apply observation σ)

namespace Observatory

/-- Two states that differ at most in the order of the events in the global ring and in the number
of batches. -/
structure SameButBatches (σ τ : Observatory) : Prop where
  rest : τ = { σ with
    transitions := τ.transitions
    stats.batchesProcessed := τ.stats.batchesProcessed }
  rings : σ.transitions.SameRings τ.transitions

theorem SameButBatches.equivalence : Equivalence SameButBatches where
  refl σ := ⟨rfl, .refl _⟩
  symm h := by
    refine ⟨?_, h.rings.symm⟩
    rw [h.rest]
  trans h h' := by
    refine ⟨?_, h.rings.trans h'.rings⟩
    rw [h'.rest, h.rest]

theorem SameButOrder.butBatches {σ τ : Observatory} (h : σ.SameButOrder τ) :
    σ.SameButBatches τ := by
  refine ⟨?_, h.rings⟩
  rw [h.rest]

theorem SameButBatches.apply {σ τ : Observatory} (h : σ.SameButBatches τ)
    (observation : Observation) (effect : Effect) :
    (effect.apply observation σ).SameButBatches (effect.apply observation τ) := by
  refine ⟨?_, h.rings.recordOn _ _⟩
  rw [h.rest]
  rfl

theorem SameButBatches.perform {σ τ : Observatory} (h : σ.SameButBatches τ)
    (observation : Observation) (deed : Deed) :
    (deed.perform observation σ).SameButBatches (deed.perform observation τ) := by
  refine Interchange.foldl_respects (fun _ _ effect hsame => hsame.apply observation effect) ?_ _
  refine ⟨?_, h.rings⟩
  rw [h.rest]

/-- Deeds on different links and sources commute. -/
theorem perform_comm {a b : Observation} (hlink : a.link ≠ b.link)
    (hsource : a.provenance.source ≠ b.provenance.source) (σ : Observatory) (first second : Deed) :
    (second.perform b (first.perform a σ)).SameButOrder
      (first.perform a (second.perform b σ)) := by
  unfold Deed.perform
  rw [← Effect.run_putSource, ← Effect.run_putSource]
  have hput : (σ.registry.putSource a.provenance.source first.source).putSource
      b.provenance.source second.source =
        (σ.registry.putSource b.provenance.source second.source).putSource
          a.provenance.source first.source := by
    simp only [LinkRegistry.putSource, put_comm _ hsource]
  rw [hput]
  exact Effect.run_comm hlink hsource _ _ _

/-- Both states go on by the same deed. -/
def Equally (observation : Observation) (σ τ σ' τ' : Observatory) : Prop :=
  ∃ deed : Deed, σ' = deed.perform observation σ ∧ τ' = deed.perform observation τ

theorem Jointly.equally {σ τ σ' τ' : Observatory} (h : Jointly observation σ τ σ' τ') :
    Equally observation σ τ σ' τ' := by
  obtain ⟨effects, hσ, hτ⟩ := h
  exact ⟨{ effects := effects }, hσ, hτ⟩

theorem perform_count (σ : Observatory) (observation : Observation) (source : Option SourceRecord)
    (counted : RuntimeStatistics) :
    Deed.perform { source := source, effects := [{ counted := counted }] } observation σ =
      { σ with
        registry := σ.registry.putSource observation.provenance.source source
        stats := σ.stats.plus counted } :=
  (count_effect _ observation counted).symm

theorem Jointly.recordTransition (σ τ : Observatory) {observation : Observation}
    {event : TransitionEvent} (hlink : event.link = observation.link) :
    Jointly observation σ τ (σ.recordTransition event) (τ.recordTransition event) := by
  have hevent : { event with link := observation.link } = event := by rw [← hlink]
  rw [← hevent]
  exact .one _ (recordTransition_effect σ observation event)
    (recordTransition_effect τ observation event)

theorem applyLink_jointly {σ τ : Observatory} {observation : Observation} (declaration : LinkDecl)
    (hlink : observation.link = (makeLinkFacts declaration).id)
    (h : LinkRegistry.Agrees (makeLinkFacts declaration).id σ.registry τ.registry)
    (instant : TimePoint) :
    Jointly observation σ τ (σ.applyLink declaration instant).1
      (τ.applyLink declaration instant).1 := by
  unfold applyLink
  dsimp only
  generalize makeLinkFacts declaration = facts at *
  have hexisted : τ.registry.findLink facts.id = σ.registry.findLink facts.id := by
    simp only [LinkRegistry.findLink, h.record]
  obtain ⟨record, status, hfirst, hsecond⟩ := h.registerLink instant
  rw [hfirst, hsecond, hexisted]
  have hput := Jointly.putLink observation σ τ record
  rw [hlink] at hput
  refine hput.trans ?_
  have hcount (ρ ρ' : Observatory) := Jointly.count observation ρ ρ' { declarationsApplied := 1 }
  have hreject (ρ ρ' : Observatory) := Jointly.count observation ρ ρ' { declarationsRejected := 1 }
  simp only [RuntimeStatistics.plus, UInt64.add_zero] at hcount hreject
  dsimp only
  split
  · exact hreject _ _
  · refine (hcount _ _).trans ?_
    obtain ⟨last, observed, hobserved, hobserved'⟩ :=
      (h.put record).observeGeneration facts.generation
    rw [hobserved, hobserved']
    have hlast (ρ ρ' : Observatory) := Jointly.putLink observation ρ ρ' last
    simp only [hlink] at hlast
    refine (hlast _ _).trans ?_
    dsimp only
    split
    · split
      · exact (Jointly.recordTransition _ _ hlink.symm).trans (.recordTransition _ _ hlink.symm)
      · exact .recordTransition _ _ hlink.symm
    · split
      · exact .recordTransition _ _ hlink.symm
      · exact .refl _ _ _

theorem putSource_putSource (registry : LinkRegistry) (source : SourceId)
    (record new : Option SourceRecord) :
    (registry.putSource source record).putSource source new =
      registry.putSource source (new.or record) := by
  cases new with
  | none => rfl
  | some new =>
    cases record with
    | none => rfl
    | some old => simp only [LinkRegistry.putSource, put, insert_insert, Option.some_or]

theorem applySource_equally {σ τ : Observatory} {observation : Observation}
    (declaration : SourceDecl)
    (hplace : observation.provenance.source = .fromName declaration.name)
    (hpolicy : τ.registry.policy = σ.registry.policy)
    (hsource : τ.registry.sources[(StrongId.fromName declaration.name : SourceId)]? =
      σ.registry.sources[(StrongId.fromName declaration.name : SourceId)]?)
    (hroom : τ.registry.sources.size ≥ σ.registry.policy.limits.maxSources.toNat ↔
      σ.registry.sources.size ≥ σ.registry.policy.limits.maxSources.toNat) :
    Equally observation σ τ (σ.applySource declaration).1 (τ.applySource declaration).1 := by
  unfold applySource
  dsimp only
  generalize StrongId.fromName declaration.name = id at *
  subst hplace
  obtain ⟨new, status, hfirst, hsecond⟩ := LinkRegistry.registerSource_both
    { id := observation.provenance.source, name := declaration.name
      authority := declaration.authority, provenance := declaration.provenance }
    hpolicy hsource hroom
  rw [hfirst, hsecond]
  have hrejected (record : Option SourceRecord) (ρ : Observatory) :=
    perform_count ρ observation record { declarationsRejected := 1 }
  have happlied (record : Option SourceRecord) (ρ : Observatory) :=
    perform_count ρ observation record { declarationsApplied := 1 }
  simp only [RuntimeStatistics.plus, UInt64.add_zero] at hrejected happlied
  dsimp only
  split
  · exact ⟨_, (hrejected new σ).symm, (hrejected new τ).symm⟩
  · cases declaration.retired with
    | false => exact ⟨_, (happlied new σ).symm, (happlied new τ).symm⟩
    | true =>
      have hput : (τ.registry.putSource observation.provenance.source new).sources[
            observation.provenance.source]? =
          (σ.registry.putSource observation.provenance.source new).sources[
            observation.provenance.source]? := by
        simp only [LinkRegistry.putSource, lookup_put_self]
        exact congrArg new.or hsource
      obtain ⟨last, status', hretired, hretired'⟩ := LinkRegistry.retireSource_both hput
      simp only [if_true, hretired, hretired', putSource_putSource]
      split
      · exact ⟨_, (hrejected _ σ).symm, (hrejected _ τ).symm⟩
      · exact ⟨_, (happlied _ σ).symm, (happlied _ τ).symm⟩

/-- Two states that look the same to the handling of a record. -/
def Near (record : ParsedRecord) (σ τ : Observatory) : Prop :=
  match record with
  | .none => True
  | .source declaration =>
    τ.registry.policy = σ.registry.policy ∧
      τ.registry.sources[(StrongId.fromName declaration.name : SourceId)]? =
        σ.registry.sources[(StrongId.fromName declaration.name : SourceId)]? ∧
      (τ.registry.sources.size ≥ σ.registry.policy.limits.maxSources.toNat ↔
        σ.registry.sources.size ≥ σ.registry.policy.limits.maxSources.toNat)
  | .link declaration => LinkRegistry.Agrees (makeLinkFacts declaration).id σ.registry τ.registry
  | .observation declaration => Fellow (makeObservation declaration) σ τ

theorem Near.applyRecord {record : ParsedRecord} {σ τ : Observatory} (h : Near record σ τ)
    (hplaces : record.Places observation) (instant : TimePoint) :
    Equally observation σ τ (σ.applyRecord record instant).1 (τ.applyRecord record instant).1 := by
  cases record with
  | none => exact (Jointly.refl observation σ τ).equally
  | source declaration => exact applySource_equally declaration hplaces h.1 h.2.1 h.2.2
  | link declaration => exact (applyLink_jointly declaration hplaces h instant).equally
  | observation declaration =>
    obtain rfl : observation = makeObservation declaration := hplaces
    exact (Fellow.applyObservation h instant).equally

theorem SameButBatches.near {σ τ : Observatory} (h : σ.SameButBatches τ) (record : ParsedRecord) :
    Near record σ τ := by
  have hring (link : LinkId) : τ.transitions.perLink[link]? = σ.transitions.perLink[link]? := by
    rw [h.rings.perLink]
  have hlimits := h.rings.limits
  rw [h.rest]
  cases record with
  | none => trivial
  | source declaration => exact ⟨rfl, rfl, Iff.rfl⟩
  | link declaration => exact .refl _ _
  | observation declaration =>
    have hfellow := Fellow.refl (makeObservation declaration) σ
    exact ⟨rfl, hfellow.registry, rfl, hfellow.store, hfellow.slots, hlimits, hring _, rfl, rfl,
      rfl⟩

end Observatory

namespace ParsedRecord

def linkOf : ParsedRecord → Option LinkId
  | .link declaration => some (makeLinkFacts declaration).id
  | .observation declaration => some (makeObservation declaration).link
  | _ => Option.none

def sourceOf : ParsedRecord → Option SourceId
  | .source declaration => some (.fromName declaration.name)
  | .observation declaration => some (makeObservation declaration).provenance.source
  | _ => Option.none

/-- The source that the record declares. -/
def declared : ParsedRecord → Option SourceId
  | .source declaration => some (.fromName declaration.name)
  | _ => Option.none

end ParsedRecord

theorem StrongId.exists_avoiding (avoided : Option (StrongId kind)) :
    ∃ id : StrongId kind, ∀ other ∈ avoided, id ≠ other := by
  by_cases heq : avoided = some {}
  · subst heq
    refine ⟨⟨{ lo := 1 }⟩, fun other hother => ?_⟩
    obtain rfl := Option.some.inj hother
    simp
  · refine ⟨{}, fun other hother hsame => heq ?_⟩
    rw [hsame]
    exact hother

/-- A record has a place away from a link and a source that it does not name. -/
theorem ParsedRecord.exists_places (record : ParsedRecord) (link : Option LinkId)
    (source : Option SourceId) (hlink : ∀ own ∈ record.linkOf, ∀ other ∈ link, own ≠ other)
    (hsource : ∀ own ∈ record.sourceOf, ∀ other ∈ source, own ≠ other) :
    ∃ observation : Observation, record.Places observation ∧
      (∀ other ∈ link, observation.link ≠ other) ∧
      (∀ other ∈ source, observation.provenance.source ≠ other) := by
  obtain ⟨freeLink, hfreeLink⟩ := StrongId.exists_avoiding link
  obtain ⟨freeSource, hfreeSource⟩ := StrongId.exists_avoiding source
  cases record with
  | none =>
    exact ⟨{ (default : Observation) with
      link := freeLink, provenance := { source := freeSource } }, trivial, hfreeLink, hfreeSource⟩
  | source declaration =>
    exact ⟨{ (default : Observation) with
      link := freeLink, provenance := { source := .fromName declaration.name } }, rfl, hfreeLink,
      hsource _ rfl⟩
  | link declaration =>
    exact ⟨{ (default : Observation) with
      link := (makeLinkFacts declaration).id, provenance := { source := freeSource } }, rfl,
      hlink _ rfl, hfreeSource⟩
  | observation declaration =>
    exact ⟨makeObservation declaration, rfl, hlink _ rfl, hsource _ rfl⟩

theorem Division.partOf_link {division : Division} {record : ParsedRecord} {link : LinkId}
    (hlink : link ∈ record.linkOf) : division.partOf record = some (division.links link) := by
  cases record <;> cases hlink <;> rfl

theorem Division.partOf_source {division : Division} {record : ParsedRecord} {source : SourceId}
    (hfits : division.Fits record) (hsource : source ∈ record.sourceOf) :
    division.partOf record = some (division.sources source) := by
  cases record with
  | observation declaration =>
    cases hsource
    exact congrArg some hfits.symm
  | none | link => cases hsource
  | source declaration =>
    cases hsource
    rfl

/-- Records of different parts have places on different links and sources. -/
theorem Division.exists_apart {division : Division} {a b : ParsedRecord} (ha : division.Fits a)
    (hb : division.Fits b) (hpart : division.partOf a ≠ division.partOf b) :
    ∃ first second : Observation, a.Places first ∧ b.Places second ∧ first.link ≠ second.link ∧
      first.provenance.source ≠ second.provenance.source := by
  obtain ⟨second, hsecond, hlink, hsource⟩ := b.exists_places a.linkOf a.sourceOf
    (fun own hown other hother heq => hpart (by
      rw [partOf_link hown, partOf_link hother, heq]))
    (fun own hown other hother heq => hpart (by
      rw [partOf_source hb hown, partOf_source ha hother, heq]))
  obtain ⟨first, hfirst, hlink', hsource'⟩ := a.exists_places (some second.link)
    (some second.provenance.source)
    (fun own hown other hother => Option.some.inj hother ▸ (hlink own hown).symm)
    (fun own hown other hother => Option.some.inj hother ▸ (hsource own hown).symm)
  exact ⟨first, second, hfirst, hsecond, hlink' _ rfl, hsource' _ rfl⟩

namespace Observatory

theorem SameButBatches.applyRecord {σ τ : Observatory} (h : σ.SameButBatches τ)
    (record : ParsedRecord) (instant : TimePoint) :
    (σ.applyRecord record instant).1.SameButBatches (τ.applyRecord record instant).1 := by
  obtain ⟨observation, hplaces, -⟩ := record.exists_places none none (by simp) (by simp)
  obtain ⟨deed, hσ, hτ⟩ := (h.near record).applyRecord hplaces instant
  rw [hσ, hτ]
  exact h.perform observation deed

theorem SameButBatches.applyAll {σ τ : Observatory} (h : σ.SameButBatches τ)
    (records : List (ParsedRecord × TimePoint)) :
    (σ.applyAll records).SameButBatches (τ.applyAll records) :=
  Interchange.foldl_respects (fun _ _ record hsame => hsame.applyRecord record.1 record.2) h records

theorem applyRecord_links (σ : Observatory) (record : ParsedRecord) (instant : TimePoint)
    {link : LinkId} (hlink : link ∉ record.linkOf) :
    σ.registry.links[link]? = (σ.applyRecord record instant).1.registry.links[link]? := by
  have hmirrors := (Mirrors.refl ⟨fun other => other == link, fun _ => false⟩ σ).spared record
    instant (by
      cases record with
      | none | source => rfl
      | link | observation => simpa [Realm.spares, ParsedRecord.linkOf] using hlink)
  exact hmirrors.links link (beq_self_eq_true link)

theorem run_sources (observation : Observation) (effects : List Effect) (σ : Observatory) :
    (Effect.run observation effects σ).registry.sources = σ.registry.sources := by
  induction effects generalizing σ with
  | nil => rfl
  | cons effect effects ih => exact ih (effect.apply observation σ)

theorem applyRecord_sources (σ : Observatory) (record : ParsedRecord) (instant : TimePoint)
    {source : SourceId} (hsource : source ∉ record.declared) :
    σ.registry.sources[source]? = (σ.applyRecord record instant).1.registry.sources[source]? := by
  cases record with
  | none => rfl
  | source declaration =>
    have hmirrors := (Mirrors.refl ⟨fun _ => false, fun other => other == source⟩ σ).spared
      (.source declaration) instant (by simpa [Realm.spares, ParsedRecord.declared] using hsource)
    exact hmirrors.sources source (beq_self_eq_true source)
  | link declaration =>
    have hplaced : Observation.link
        { (default : Observation) with link := (makeLinkFacts declaration).id } =
          (makeLinkFacts declaration).id := rfl
    obtain ⟨effects, hσ, -⟩ := applyLink_jointly declaration hplaced
      (LinkRegistry.Agrees.refl _ σ.registry) instant
    have happlied : (σ.applyRecord (.link declaration) instant).1 = Effect.run _ effects σ := hσ
    rw [happlied, run_sources]
  | observation declaration =>
    obtain ⟨effects, hσ, -⟩ :=
      (Fellow.refl (makeObservation declaration) σ).applyObservation instant
    have happlied : (σ.applyRecord (.observation declaration) instant).1 =
      Effect.run _ effects σ := hσ
    rw [happlied, run_sources]

/-- Links and sources that hold all that the registry and the records name. -/
structure Names (links : List LinkId) (sources : List SourceId) (σ : Observatory) : Prop where
  links : ∀ link, (σ.registry.links[link]?).isSome → link ∈ links
  sources : ∀ source, (σ.registry.sources[source]?).isSome → source ∈ sources

theorem Names.applyRecord {links : List LinkId} {sources : List SourceId} {σ : Observatory}
    (h : Names links sources σ) {record : ParsedRecord}
    (hlinks : ∀ link ∈ record.linkOf, link ∈ links)
    (hsources : ∀ source ∈ record.declared, source ∈ sources) (instant : TimePoint) :
    Names links sources (σ.applyRecord record instant).1 where
  links link hlink := by
    by_cases hnamed : link ∈ record.linkOf
    · exact hlinks link hnamed
    · rw [← applyRecord_links σ record instant hnamed] at hlink
      exact h.links link hlink
  sources source hsource := by
    by_cases hnamed : source ∈ record.declared
    · exact hsources source hnamed
    · rw [← applyRecord_sources σ record instant hnamed] at hsource
      exact h.sources source hsource

theorem Names.size {links : List LinkId} {sources : List SourceId} {σ : Observatory}
    (h : Names links sources σ) :
    σ.registry.links.size ≤ links.length ∧ σ.registry.sources.size ≤ sources.length := by
  have hlinks : σ.registry.links.keys ⊆ links := fun link hmem =>
    h.links link (by rwa [ExtTreeMap.mem_keys, ExtTreeMap.mem_iff_isSome_getElem?] at hmem)
  have hsources : σ.registry.sources.keys ⊆ sources := fun source hmem =>
    h.sources source (by rwa [ExtTreeMap.mem_keys, ExtTreeMap.mem_iff_isSome_getElem?] at hmem)
  have hfewer := (List.subperm_of_subset ExtTreeMap.nodup_keys hlinks).length_le
  have hfewer' := (List.subperm_of_subset ExtTreeMap.nodup_keys hsources).length_le
  rw [ExtTreeMap.length_keys] at hfewer hfewer'
  exact ⟨hfewer, hfewer'⟩

/-- A state reached by a run whose observations are of links and from sources of one part. -/
def Keeps (config : RuntimeConfig) (division : Division) (σ : Observatory) : Prop :=
  ∃ log, Reached config log σ ∧ ∀ decision ∈ log,
    division.sources decision.1.provenance.source = division.links decision.1.link

theorem Keeps.applyRecord {config : RuntimeConfig} {division : Division} {σ : Observatory}
    (h : σ.Keeps config division) {record : ParsedRecord} (hfits : division.Fits record)
    (instant : TimePoint) : (σ.applyRecord record instant).1.Keeps config division := by
  obtain ⟨log, hreached, hlog⟩ := h
  refine ⟨_, hreached.record record instant, fun decision hmem => ?_⟩
  rcases List.mem_append.1 hmem with hold | hnew
  · exact hlog decision hold
  · cases record with
    | observation declaration =>
      rw [List.mem_singleton.1 hnew]
      exact hfits
    | none | source | link => cases hnew

theorem Keeps.confined {config : RuntimeConfig} {division : Division} {σ : Observatory}
    (h : σ.Keeps config division) (part : Nat) :
    ∃ log, Reached config log σ ∧ Confined (division.realm part) log := by
  obtain ⟨log, hreached, hlog⟩ := h
  refine ⟨log, hreached, fun decision hmem hlink => ?_⟩
  have hlink' : (division.links decision.1.link == part) = true := hlink
  rwa [← hlog decision hmem] at hlink'

/-- There is room for every link and source that the state or the records name. -/
structure Spacious (config : RuntimeConfig) (links : List LinkId) (sources : List SourceId)
    (records : List ParsedRecord) : Prop where
  slots : config.policy.limits.maxLinks.toNat * 256 < 2 ^ 64
  linkRoom : links.length < config.policy.limits.maxLinks.toNat
  sourceRoom : sources.length < config.policy.limits.maxSources.toNat
  linksNamed : ∀ record ∈ records, ∀ link ∈ record.linkOf, link ∈ links
  sourcesNamed : ∀ record ∈ records, ∀ source ∈ record.declared, source ∈ sources

/-- A record of another part makes no difference to the handling of a record. -/
theorem Spacious.near {config : RuntimeConfig} {division : Division} {links : List LinkId}
    {sources : List SourceId} {records : List ParsedRecord}
    (h : Spacious config links sources records) {σ : Observatory}
    (hkeeps : σ.Keeps config division) (hnames : Names links sources σ) {a b : ParsedRecord}
    (hmem : a ∈ records) (hfits : division.Fits a) (hfits' : division.Fits b)
    (hpart : division.partOf a ≠ division.partOf b) (instant : TimePoint) :
    Near b (σ.applyRecord a instant).1 σ := by
  have hafter := hkeeps.applyRecord hfits instant
  obtain ⟨_, hreached, _⟩ := hafter
  obtain ⟨hs, hconfig⟩ := hreached.sound
  have hpolicy : (σ.applyRecord a instant).1.registry.policy = config.policy := by
    rw [hs.registryPolicy, hconfig]
  have hsize := hnames.size
  have hsize' := (hnames.applyRecord (h.linksNamed a hmem) (h.sourcesNamed a hmem) instant).size
  have hroom := hsize'.1.trans_lt h.linkRoom
  have hmirrors {part : Nat} (hb : division.partOf b = some part) :
      Mirrors (division.realm part) (σ.applyRecord a instant).1 σ :=
    (Mirrors.refl _ σ).spared a instant (Division.spares_of_ne hfits (hb ▸ hpart))
  cases b with
  | none => trivial
  | source declaration =>
    have hown := hmirrors rfl
    refine ⟨hown.registryPolicy, hown.sources _ (beq_self_eq_true _), ?_⟩
    rw [hpolicy]
    have hspace := h.sourceRoom
    omega
  | link declaration =>
    exact (hmirrors rfl).agreesOn (beq_self_eq_true _) (by rwa [hpolicy])
  | observation declaration =>
    have hapart : Apart config (division.realm _) (σ.applyRecord a instant).1 σ :=
      ⟨hmirrors rfl, (hkeeps.applyRecord hfits instant).confined _,
        (hkeeps.confined 0).imp fun _ hboth => hboth.1⟩
    have hsource : (division.sources (makeObservation declaration).provenance.source ==
        division.links (makeObservation declaration).link) = true := beq_iff_eq.2 hfits'
    exact hapart.fellow h.slots hroom (beq_self_eq_true _) hsource

/-- Two records of different parts may change places. -/
theorem Spacious.comm {config : RuntimeConfig} {division : Division} {links : List LinkId}
    {sources : List SourceId} {records : List ParsedRecord}
    (h : Spacious config links sources records) {σ : Observatory}
    (hkeeps : σ.Keeps config division) (hnames : Names links sources σ) {a b : ParsedRecord}
    (ha : a ∈ records) (hb : b ∈ records) (hfits : division.Fits a) (hfits' : division.Fits b)
    (hpart : division.partOf a ≠ division.partOf b) (instant instant' : TimePoint) :
    ((σ.applyRecord a instant).1.applyRecord b instant').1.SameButOrder
      ((σ.applyRecord b instant').1.applyRecord a instant).1 := by
  obtain ⟨first, second, hfirst, hsecond, hlink, hsource⟩ :=
    Division.exists_apart hfits hfits' hpart
  obtain ⟨deed, hfar, hnear⟩ :=
    (h.near hkeeps hnames hb hfits' hfits hpart.symm instant').applyRecord hfirst instant
  obtain ⟨deed', hfar', hnear'⟩ :=
    (h.near hkeeps hnames ha hfits hfits' hpart instant).applyRecord hsecond instant'
  rw [hfar, hfar', hnear, hnear']
  exact perform_comm hlink hsource σ deed deed'

/-- The records are of one part, or else the division is kept and there is room for all that the
state and the records name. -/
def Allows (σ : Observatory) (config : RuntimeConfig) (division : Division)
    (records : List ParsedRecord) : Prop :=
  (∀ a ∈ records, ∀ b ∈ records, division.partOf a ≠ none → division.partOf b ≠ none →
      division.partOf a = division.partOf b) ∨
    σ.Keeps config division ∧
      ∃ links sources, Names links sources σ ∧ Spacious config links sources records

/-- The state after the records does not depend on how the records of different parts are
interleaved. -/
theorem Allows.rearranged {config : RuntimeConfig} {division : Division} {σ : Observatory}
    {records other : List (ParsedRecord × TimePoint)}
    (h : σ.Allows config division (records.map Prod.fst))
    (hfits : ∀ record ∈ records, division.Fits record.1)
    (hparts : ∀ part, Interchange.ofPart (fun record => division.partOf record.1) part other =
      Interchange.ofPart (fun record => division.partOf record.1) part records) :
    (σ.applyAll records).SameButBatches (σ.applyAll other) := by
  rcases h with hone | ⟨hkeeps, links, sources, hnames, hspacious⟩
  · have hdivided : Interchange.Divided SameButBatches
        (fun ρ record => (ρ.applyRecord record.1 record.2).1)
        (fun record : ParsedRecord × TimePoint => division.partOf record.1) (fun _ => True)
        (· ∈ records) := by
      refine ⟨SameButBatches.equivalence, fun _ _ => trivial,
        fun _ _ hsame => hsame.applyRecord _ _, fun {ρ a b} _ ha hb hpart => ?_⟩
      have hempty : a.1 = .none ∨ b.1 = .none := by
        by_contra hboth
        rw [not_or] at hboth
        exact hpart (hone a.1 (List.mem_map_of_mem ha) b.1 (List.mem_map_of_mem hb)
          (Division.partOf_ne_none hboth.1) (Division.partOf_ne_none hboth.2))
      rcases hempty with hempty | hempty
      · rw [hempty]
        exact SameButBatches.equivalence.refl _
      · rw [hempty]
        exact SameButBatches.equivalence.refl _
    exact hdivided.run_rearranged trivial (fun _ hmem => hmem) hparts
  · have hdivided : Interchange.Divided SameButBatches
        (fun ρ record => (ρ.applyRecord record.1 record.2).1)
        (fun record : ParsedRecord × TimePoint => division.partOf record.1)
        (fun ρ => ρ.Keeps config division ∧ Names links sources ρ) (· ∈ records) := by
      refine ⟨SameButBatches.equivalence, fun {ρ a} hboth ha => ?_,
        fun _ _ hsame => hsame.applyRecord _ _, fun {ρ a b} hboth ha hb hpart => ?_⟩
      · have hmem := List.mem_map_of_mem (f := Prod.fst) ha
        exact ⟨hboth.1.applyRecord (hfits a ha) a.2, hboth.2.applyRecord
          (hspacious.linksNamed _ hmem) (hspacious.sourcesNamed _ hmem) a.2⟩
      · exact (hspacious.comm hboth.1 hboth.2 (List.mem_map_of_mem ha) (List.mem_map_of_mem hb)
          (hfits a ha) (hfits b hb) hpart a.2 b.2).butBatches
    exact hdivided.run_rearranged ⟨hkeeps, hnames⟩ (fun _ hmem => hmem) hparts

/-- The two states hold the same registry, evidence, totals and classifications. -/
structure SameOutcome (σ τ : Observatory) : Prop where
  registry : τ.registry = σ.registry
  store : τ.store = σ.store
  stats : τ.stats = { σ.stats with batchesProcessed := τ.stats.batchesProcessed }
  classification : ∀ link instant, τ.classify link instant = σ.classify link instant

theorem SameButBatches.outcome {σ τ : Observatory} (h : σ.SameButBatches τ) : σ.SameOutcome τ where
  registry := by rw [h.rest]
  store := by rw [h.rest]
  stats := by rw [h.rest]
  classification link instant := by
    have hsame (log : TransitionLog) (hlimits : log.limits = σ.transitions.limits)
        (hrings : log.perLink = σ.transitions.perLink) :
        LinkObservatory.classify ((σ.classificationInput link instant).putTo σ.store log) =
          { LinkObservatory.classify (σ.classificationInput link instant) with
            droppedTransitions := log.dropped } :=
      ClassificationInput.classify_local ⟨rfl, fun _ => rfl, fun _ _ _ _ _ => rfl⟩ hlimits
        (congrArg (fun rings => rings[link]?) hrings)
    have hinput : τ.classificationInput link instant =
        (σ.classificationInput link instant).putTo σ.store τ.transitions := by
      rw [h.rest]
      rfl
    have hclassified : LinkObservatory.classify (τ.classificationInput link instant) =
        LinkObservatory.classify (σ.classificationInput link instant) := by
      have hown : LinkObservatory.classify (σ.classificationInput link instant) = _ :=
        hsame σ.transitions rfl rfl
      rw [hinput, hsame τ.transitions h.rings.limits h.rings.perLink, h.rings.dropped]
      exact hown.symm
    rw [classify, classify, hclassified, h.rest]

end Observatory

end LinkObservatory
