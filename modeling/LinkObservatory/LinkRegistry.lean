import LinkObservatory.Link
import LinkObservatory.Lib.Ring
import LinkObservatory.Lib.OrderedMap

namespace LinkObservatory
set_option autoImplicit true

open Std

def kMaxRetiredGenerations : Nat := 32

structure GenerationObservation where
  changed : Bool := false
  behind : Bool := false
  previous : GenerationId := {}
  current : GenerationId := {}
deriving DecidableEq, Repr, Inhabited

/-- Which topology generation is current for a link, and which ones are superseded. -/
structure LinkGenerationState where
  currentGeneration : GenerationId := {}
  hasGeneration : Bool := false
  retiredGenerations : List GenerationId := []
  generationChanges : UInt64 := 0
deriving DecidableEq, Repr, Inhabited

/-- Everything about a link that survives a restart. -/
structure PersistedLink where
  facts : LinkFacts := {}
  entry : LinkEntry := {}
  generations : LinkGenerationState := {}
deriving DecidableEq, Repr, Inhabited

/-- A registered link; the source calls it `LinkState`. -/
structure LinkRecord where
  entry : LinkEntry := {}
  generations : LinkGenerationState := {}
deriving DecidableEq, Repr, Inhabited

def PersistedLink.toRecord (link : PersistedLink) : LinkRecord :=
  { entry := { link.entry with facts := link.facts }, generations := link.generations }

@[ext] structure LinkRegistry where
  policy : Policy
  links : ExtTreeMap LinkId LinkRecord StrongId.compare := ∅
  sources : ExtTreeMap SourceId SourceRecord StrongId.compare := ∅

/-- Observing a generation: the current one, a retired one, or a new one that takes over. -/
def LinkGenerationState.observe (generations : LinkGenerationState) (generation : GenerationId) :
    LinkGenerationState × GenerationObservation :=
  if !generations.hasGeneration then
    ({ generations with hasGeneration := true, currentGeneration := generation },
      { current := generation, changed := true })
  else if generations.currentGeneration = generation then (generations, { current := generation })
  else if generation ∈ generations.retiredGenerations then
    (generations, { current := generation, behind := true })
  else
    ({ generations with
      retiredGenerations := Ring.push kMaxRetiredGenerations generations.retiredGenerations
        generations.currentGeneration
      currentGeneration := generation
      generationChanges := generations.generationChanges + 1 },
      { current := generation, changed := true, previous := generations.currentGeneration })

namespace LinkRegistry

def registerSource (registry : LinkRegistry) (record : SourceRecord) : LinkRegistry × Status :=
  if !record.id.valid then
    (registry, .of .invalidArgument "source record has no identity")
  else if record.name = [] ∨ record.name.length > 128 then
    (registry, .of .invalidArgument "source name must be 1..128 bytes")
  else if record.provenance = .unknown then
    (registry, .of .invalidArgument
      "source must declare whether it supplies real, synthetic or replayed evidence")
  else match registry.sources[record.id]? with
    | some existing =>
      if existing.authority ≠ record.authority ∨ existing.provenance ≠ record.provenance then
        (registry, .of .conflict
          "source is already registered with different authority or provenance")
      else
        let updated := { existing with name := record.name, retired := false, registered := true }
        ({ registry with sources := registry.sources.insert record.id updated }, .success)
    | none =>
      if registry.sources.size ≥ registry.policy.limits.maxSources.toNat then
        (registry, .of .capacityExceeded "source registry is full")
      else
        let added := { record with registered := true }
        ({ registry with sources := registry.sources.insert record.id added }, .success)

def retireSource (registry : LinkRegistry) (id : SourceId) : LinkRegistry × Status :=
  match registry.sources[id]? with
  | none => (registry, .of .notFound "source is not registered")
  | some found =>
    ({ registry with sources := registry.sources.insert id { found with retired := true } },
      .success)

def findSource (registry : LinkRegistry) (id : SourceId) : Option SourceRecord :=
  registry.sources[id]?

def findLink (registry : LinkRegistry) (id : LinkId) : Option LinkEntry :=
  (registry.links[id]?).map LinkRecord.entry

def observeGeneration (registry : LinkRegistry) (id : LinkId) (generation : GenerationId) :
    LinkRegistry × GenerationObservation :=
  match registry.links[id]? with
  | none => (registry, { current := generation, behind := true })
  | some state =>
    let observed := state.generations.observe generation
    ({ registry with links := registry.links.insert id { state with generations := observed.1 } },
      observed.2)

/-- The part of `register_link` that updates a known link. A re-registration under another
generation goes through the same fencing as an observation. -/
def reregisterLink (registry : LinkRegistry) (facts : LinkFacts) (existing : LinkRecord) :
    LinkRegistry × Status :=
  if existing.entry.retired then (registry, .of .conflict "link is retired")
  else
    let merged := if !facts.generation.valid then
      { facts with generation := existing.entry.facts.generation } else facts
    let observed := if merged.generation ≠ existing.entry.facts.generation then
      registry.observeGeneration facts.id merged.generation else (registry, {})
    if observed.2.behind then
      (observed.1, .of .conflict "link re-registration names a retired topology generation")
    else match observed.1.links[facts.id]? with
      | none => (observed.1, .success)
      | some state =>
        ({ observed.1 with
          links := observed.1.links.insert facts.id
            { state with entry := { state.entry with facts := merged } } }, .success)

def registerLink (registry : LinkRegistry) (facts : LinkFacts) (now : TimePoint) :
    LinkRegistry × Status :=
  let valid := validateLinkFacts facts
  if !valid.ok then (registry, valid)
  else match registry.links[facts.id]? with
    | some existing => registry.reregisterLink facts existing
    | none =>
      if registry.links.size ≥ registry.policy.limits.maxLinks.toNat then
        (registry, .of .capacityExceeded "link registry is full")
      else
        let generations : LinkGenerationState := if facts.generation.valid then
          { hasGeneration := true, currentGeneration := facts.generation } else {}
        let state : LinkRecord :=
          { entry := { facts := facts, registeredAt := now }, generations := generations }
        ({ registry with links := registry.links.insert facts.id state }, .success)

def ensureImplicitLink (registry : LinkRegistry) (id : LinkId) (name : Bytes) (now : TimePoint) :
    LinkRegistry × Status :=
  if !registry.policy.allowImplicitLinks then
    (registry, .of .notFound "link is not registered")
  else match registry.links[id]? with
    | some existing =>
      if existing.entry.retired then (registry, .of .conflict "link is retired")
      else (registry, .success)
    | none => registry.registerLink { id := id, name := name.take 128 } now

def currentGeneration (registry : LinkRegistry) (id : LinkId) : GenerationId :=
  match registry.links[id]? with
  | none => {}
  | some state =>
    if state.generations.hasGeneration then state.generations.currentGeneration else {}

def generationState (registry : LinkRegistry) (id : LinkId) : LinkGenerationState :=
  match registry.links[id]? with
  | none => {}
  | some state => state.generations

/-- Updates the bookkeeping of a link, if it is registered. -/
def updateEntry (registry : LinkRegistry) (id : LinkId) (update : LinkEntry → LinkEntry) :
    LinkRegistry :=
  match registry.links[id]? with
  | none => registry
  | some state =>
    { registry with links := registry.links.insert id { state with entry := update state.entry } }

def noteAccepted (registry : LinkRegistry) (id : LinkId) (observedAt acceptedAt : TimePoint) :
    LinkRegistry :=
  registry.updateEntry id fun entry =>
    { entry with
      acceptedObservations := entry.acceptedObservations + 1
      lastEvidenceAt :=
        if !entry.hasEvidence ∨ observedAt.nanos > entry.lastEvidenceAt.nanos then observedAt
        else entry.lastEvidenceAt
      lastAcceptedAt :=
        if !entry.hasEvidence ∨ acceptedAt.nanos > entry.lastAcceptedAt.nanos then acceptedAt
        else entry.lastAcceptedAt
      hasEvidence := true }

def noteFenced (registry : LinkRegistry) (id : LinkId) : LinkRegistry :=
  registry.updateEntry id fun entry =>
    { entry with fencedObservations := entry.fencedObservations + 1 }

def sourceList (registry : LinkRegistry) : List SourceRecord :=
  registry.sources.toList.map Prod.snd

def persistedLinks (registry : LinkRegistry) : List PersistedLink :=
  registry.links.toList.map fun item =>
    { facts := item.2.entry.facts, entry := item.2.entry, generations := item.2.generations }

/-- Restores a persisted link with its generation fencing. -/
def restore (registry : LinkRegistry) (link : PersistedLink) : LinkRegistry × Status :=
  if !(validateLinkFacts link.facts).ok then
    (registry, .of .corruptData "persisted link facts are invalid")
  else if registry.links.size ≥ registry.policy.limits.maxLinks.toNat &&
      (registry.links[link.facts.id]?).isNone then
    (registry, .of .capacityExceeded "restored registry exceeds the link bound")
  else if link.generations.retiredGenerations.length > kMaxRetiredGenerations then
    (registry, .of .capacityExceeded "persisted link exceeds the retired generation bound")
  else
    ({ registry with
      links := registry.links.insert link.facts.id link.toRecord }, .success)

end LinkRegistry

end LinkObservatory
