import LinkObservatory.Classifier

namespace LinkObservatory
set_option autoImplicit true

open Std

structure SourceDecl where
  name : Bytes := []
  authority : SourceAuthority := .unknown
  provenance : ProvenanceClass := .unknown
  retired : Bool := false
deriving DecidableEq, Repr, Inhabited

structure LinkDecl where
  name : Bytes := []
  kind : LinkKind := .unknown
  generation : Bytes := []
  provenance : ProvenanceClass := .unknown
  capacityKnown : Bool := false
  capacityInBps : UInt64 := 0
  capacityOutBps : UInt64 := 0
  localEndpoint : Bytes := []
  remoteEndpoint : Bytes := []
  localPort : Bytes := []
  remotePort : Bytes := []
deriving DecidableEq, Repr, Inhabited

structure ObservationDecl where
  link : Bytes := []
  source : Bytes := []
  incarnation : Bytes := []
  epoch : Bytes := []
  generation : Bytes := []
  revision : UInt64 := 0
  observedAt : Int64 := 0
  receivedAt : Int64 := 0
  key : MetricKey := {}
  payload : MetricPayload := .adminState .unknown
deriving DecidableEq, Repr, Inhabited

/-- One parsed input record. -/
inductive ParsedRecord
  | none
  | source (declaration : SourceDecl)
  | link (declaration : LinkDecl)
  | observation (declaration : ObservationDecl)
deriving DecidableEq, Repr

def makeObservation (declaration : ObservationDecl) : Observation :=
  withIdentity
    { provenance :=
        { source := .fromName declaration.source
          incarnation := .fromName declaration.incarnation
          epoch := .fromName declaration.epoch
          generation := .fromName declaration.generation
          sequence := declaration.revision }
      link := deriveLinkId declaration.link
      key := declaration.key
      payload := declaration.payload
      observedAt := ⟨declaration.observedAt⟩
      receivedAt := ⟨declaration.receivedAt⟩ }

def makeLinkFacts (declaration : LinkDecl) : LinkFacts :=
  { id := deriveLinkId declaration.name
    name := declaration.name
    kind := declaration.kind
    generation := .fromName declaration.generation
    provenance := declaration.provenance
    capacityKnown := declaration.capacityKnown
    capacityInBps := declaration.capacityInBps
    capacityOutBps := declaration.capacityOutBps
    localEndpoint := if declaration.localEndpoint = [] then {} else .fromName declaration.localEndpoint
    remoteEndpoint :=
      if declaration.remoteEndpoint = [] then {} else .fromName declaration.remoteEndpoint
    localPort := if declaration.localPort = [] then {} else .fromName declaration.localPort
    remotePort := if declaration.remotePort = [] then {} else .fromName declaration.remotePort }

/-- Which metric families the runtime accepts. -/
structure FamilyMask where
  enabled : UInt32 := 0xFFFFFFFF
deriving DecidableEq, Repr, Inhabited

def FamilyMask.isEnabled (mask : FamilyMask) (family : MetricFamily) : Bool :=
  mask.enabled &&& (1 <<< family.code.toUInt32) != 0

structure RuntimeConfig where
  snapshotPath : String := ""
  runtimeName : Bytes := ascii "link-observatory"
  incarnationName : Bytes := ascii "incarnation-0"
  families : FamilyMask := {}
  policy : Policy

structure RuntimeStatistics where
  recordsSubmitted : UInt64 := 0
  recordsAccepted : UInt64 := 0
  recordsFenced : UInt64 := 0
  declarationsApplied : UInt64 := 0
  declarationsRejected : UInt64 := 0
  batchesProcessed : UInt64 := 0
  transitionsRecorded : UInt64 := 0
  classifications : UInt64 := 0
  stateChanges : UInt64 := 0
  snapshotReads : UInt64 := 0
  recoveries : UInt64 := 0
deriving DecidableEq, Repr, Inhabited

structure Observatory where
  config : RuntimeConfig
  registry : LinkRegistry
  store : EvidenceStore
  transitions : TransitionLog
  observedStates : ExtTreeMap LinkId LinkState StrongId.compare := ∅
  lastOperText : ExtTreeMap LinkId Bytes StrongId.compare := ∅
  lastAdminText : ExtTreeMap LinkId Bytes StrongId.compare := ∅
  ownFenceCounts : FenceCounts := ∅
  stats : RuntimeStatistics := {}
  restored : Bool := false
  loadedFromBackup : Bool := false
  loadDetail : String := ""

namespace Observatory

/-- A freshly constructed observatory. -/
def fresh (config : RuntimeConfig) : Observatory :=
  { config := config
    registry := { policy := config.policy }
    store := { policy := config.policy }
    transitions := { limits := config.policy.limits } }

def recordTransition (σ : Observatory) (event : TransitionEvent) : Observatory :=
  { σ with
    transitions := σ.transitions.record event
    stats.transitionsRecorded := σ.stats.transitionsRecorded + 1 }

/-- What an evaluation of a link reads from the current state. -/
def classificationInput (σ : Observatory) (link : LinkId) (instant : TimePoint) :
    ClassificationInput :=
  { link := link
    entry := σ.registry.findLink link
    currentGeneration := σ.registry.currentGeneration link
    generationChanges := (σ.registry.generationState link).generationChanges
    policy := σ.config.policy
    store := σ.store
    transitions := σ.transitions
    now := instant }

/-- The classification query; a runtime that knows nothing has no answer. -/
def classify (σ : Observatory) (link : LinkId) (instant : TimePoint) : Option Classification :=
  if (σ.registry.findLink link).isNone && σ.store.slots.size == 0 then none
  else some (LinkObservatory.classify (σ.classificationInput link instant))

/-- Records a change of the link's state, measured against the last one that was observed. -/
def trackState (σ : Observatory) (link : LinkId) (instant : TimePoint)
    (current : Classification) : Observatory :=
  let event (previous : Bytes) : TransitionEvent :=
    { link := link
      kind := .classificationChanged
      at_ := instant
      generation := current.generation
      fromText := previous
      toText := current.state.toString }
  let changed (previous : Bytes) : Observatory :=
    let σ := σ.recordTransition (event previous)
    { σ with
      observedStates := σ.observedStates.insert link current.state
      stats.stateChanges := σ.stats.stateChanges + 1 }
  match σ.observedStates[link]? with
  | none => changed (ascii "none")
  | some previous => if previous ≠ current.state then changed previous.toString else σ

/-- The text a tracked family reports. -/
def trackedText (family : MetricFamily) (current : Classification) : Bytes :=
  match current.find family .unknown with
  | some report => if report.hasValue then report.valueText else ascii "none"
  | none => ascii "none"

/-- The event of a changed text, if the tracker held another one. -/
def trackedChange (tracker : ExtTreeMap LinkId Bytes StrongId.compare) (link : LinkId)
    (text : Bytes) (kind : TransitionKind) (instant : TimePoint) (generation : GenerationId) :
    Option TransitionEvent :=
  match tracker[link]? with
  | none => none
  | some previous =>
    if previous = text then none
    else some
      { link := link, kind := kind, at_ := instant, generation := generation
        fromText := previous, toText := text }

def trackOper (σ : Observatory) (link : LinkId) (instant : TimePoint) (current : Classification) :
    Observatory :=
  let text := trackedText .operState current
  let σ' := match trackedChange σ.lastOperText link text .operStateChanged instant
      current.generation with
    | some event => σ.recordTransition event
    | none => σ
  { σ' with lastOperText := σ.lastOperText.insert link text }

def trackAdmin (σ : Observatory) (link : LinkId) (instant : TimePoint)
    (current : Classification) : Observatory :=
  let text := trackedText .adminState current
  let σ' := match trackedChange σ.lastAdminText link text .adminStateChanged instant
      current.generation with
    | some event => σ.recordTransition event
    | none => σ
  { σ' with lastAdminText := σ.lastAdminText.insert link text }

def refreshClassification (σ : Observatory) (link : LinkId) (instant : TimePoint) : Observatory :=
  let current := LinkObservatory.classify (σ.classificationInput link instant)
  let σ := { σ with stats.classifications := σ.stats.classifications + 1 }
  ((σ.trackState link instant current).trackOper link instant current).trackAdmin link instant
    current

def countFenced (σ : Observatory) : Observatory :=
  { σ with stats.recordsFenced := σ.stats.recordsFenced + 1 }

/-- A fence that the runtime decides itself, without asking the store. -/
def countOwnFence (σ : Observatory) (reason : FenceReason) : Observatory :=
  { σ with ownFenceCounts := σ.ownFenceCounts.insert reason (σ.ownFenceCounts.getD reason 0 + 1) }

/-- Hands an observation to the store. -/
def acceptInto (σ : Observatory) (observation : Observation) (source : Option SourceRecord)
    (familyEnabled : Bool) (instant : TimePoint) : Observatory × AcceptOutcome :=
  let context : AcceptContext :=
    { source := source
      currentGeneration := σ.registry.currentGeneration observation.link
      familyEnabled := familyEnabled }
  let result := σ.store.accept observation context instant
  ({ σ with store := result.1 }, result.2)

/-- The events an accepted observation gives rise to. -/
def recordOutcome (σ : Observatory) (observation : Observation) (outcome : AcceptOutcome)
    (instant : TimePoint) : Observatory :=
  let event : TransitionEvent :=
    { link := observation.link
      at_ := instant
      generation := observation.provenance.generation
      source := observation.provenance.source }
  let σ := match outcome.discontinuity with
    | .reset =>
      σ.recordTransition { event with kind := .counterReset, toText := observation.key.toString }
    | .wrap =>
      σ.recordTransition { event with kind := .counterWrap, toText := observation.key.toString }
    | .none => σ
  if outcome.revisionGap then
    σ.recordTransition
      { event with kind := .revisionGap, detail := observation.provenance.sequence }
  else σ

/-- The last part of `apply_observation_locked`: the link is known and its generation current. -/
def applyKnown (σ : Observatory) (observation : Observation) (source : SourceRecord)
    (instant : TimePoint) : Observatory × AcceptOutcome :=
  let result := σ.acceptInto observation (some source) true instant
  let σ := result.1
  let outcome := result.2
  if !outcome.accepted then
    let σ := σ.countFenced
    ({ σ with registry := σ.registry.noteFenced observation.link }, outcome)
  else
    let σ :=
      { σ with
        stats.recordsAccepted := σ.stats.recordsAccepted + 1
        registry := σ.registry.noteAccepted observation.link observation.observedAt instant }
    let σ := σ.recordOutcome observation outcome instant
    (σ.refreshClassification observation.link instant, outcome)

/-- Observes the generation of an observation, recording a change. -/
def applyGeneration (σ : Observatory) (observation : Observation) (source : SourceRecord)
    (instant : TimePoint) : Observatory × AcceptOutcome :=
  let observed :=
    σ.registry.observeGeneration observation.link observation.provenance.generation
  let generation := observed.2
  let σ := { σ with registry := observed.1 }
  if generation.behind then
    let σ := (σ.countOwnFence .generationBehind).countFenced
    ({ σ with registry := σ.registry.noteFenced observation.link },
      { fence := .generationBehind })
  else
    let σ := if generation.changed then
      σ.recordTransition
        { link := observation.link
          kind := .generationChanged
          at_ := instant
          generation := observation.provenance.generation
          source := observation.provenance.source
          fromText := generation.previous.toString
          toText := observation.provenance.generation.toString }
      else σ
    σ.applyKnown observation source instant

/-- `apply_observation_locked`, with the decision that the source keeps local. -/
def applyObservation (σ : Observatory) (observation : Observation) (instant : TimePoint) :
    Observatory × AcceptOutcome :=
  let σ := { σ with stats.recordsSubmitted := σ.stats.recordsSubmitted + 1 }
  let enabled := σ.config.families.isEnabled observation.key.family
  let refuse (source : Option SourceRecord) : Observatory × AcceptOutcome :=
    let result := σ.acceptInto observation source enabled instant
    (if !result.2.accepted then result.1.countFenced else result.1, result.2)
  match σ.registry.findSource observation.provenance.source with
  | none => refuse none
  | some source =>
    if source.retired then refuse (some source)
    else if !enabled then refuse (some source)
    else if (σ.registry.findLink observation.link).isNone then
      let ensured :=
        σ.registry.ensureImplicitLink observation.link observation.link.toString instant
      let σ := { σ with registry := ensured.1 }
      if !ensured.2.ok then
        ((σ.countOwnFence .unknownLink).countFenced, { fence := .unknownLink })
      else σ.applyGeneration observation source instant
    else σ.applyGeneration observation source instant

def rejectDeclaration (σ : Observatory) (status : Status) : Observatory × Status :=
  ({ σ with stats.declarationsRejected := σ.stats.declarationsRejected + 1 }, status)

def applySource (σ : Observatory) (declaration : SourceDecl) : Observatory × Status :=
  let source : SourceRecord :=
    { id := .fromName declaration.name
      name := declaration.name
      authority := declaration.authority
      provenance := declaration.provenance }
  let registered := σ.registry.registerSource source
  let σ := { σ with registry := registered.1 }
  if !registered.2.ok then σ.rejectDeclaration registered.2
  else
    let retired := if declaration.retired then σ.registry.retireSource source.id
      else (σ.registry, .success)
    let σ := { σ with registry := retired.1 }
    if !retired.2.ok then σ.rejectDeclaration retired.2
    else
      ({ σ with stats.declarationsApplied := σ.stats.declarationsApplied + 1 }, .success)

def applyLink (σ : Observatory) (declaration : LinkDecl) (instant : TimePoint) :
    Observatory × Status :=
  let facts := makeLinkFacts declaration
  let existed := (σ.registry.findLink facts.id).isSome
  let registered := σ.registry.registerLink facts instant
  let σ := { σ with registry := registered.1 }
  if !registered.2.ok then σ.rejectDeclaration registered.2
  else
    let σ := { σ with stats.declarationsApplied := σ.stats.declarationsApplied + 1 }
    let observed := σ.registry.observeGeneration facts.id facts.generation
    let σ := { σ with registry := observed.1 }
    let event : TransitionEvent :=
      { link := facts.id, at_ := instant, generation := facts.generation }
    let σ := if !existed then
      σ.recordTransition { event with kind := .linkRegistered, toText := facts.name } else σ
    let σ := if observed.2.changed && existed then
      σ.recordTransition
        { event with
          kind := .generationChanged
          fromText := observed.2.previous.toString
          toText := facts.generation.toString }
      else σ
    (σ, .success)

/-- `apply_record_locked`: one record, at the instant the clock shows. -/
def applyRecord (σ : Observatory) (record : ParsedRecord) (instant : TimePoint) :
    Observatory × Status :=
  match record with
  | .none => (σ, .success)
  | .source declaration => σ.applySource declaration
  | .link declaration => σ.applyLink declaration instant
  | .observation declaration =>
    ((σ.applyObservation (makeObservation declaration) instant).1, .success)

/-- Records, each at its instant, one after the other. -/
def applyAll (σ : Observatory) (records : List (ParsedRecord × TimePoint)) : Observatory :=
  records.foldl (fun σ record => (σ.applyRecord record.1 record.2).1) σ

end Observatory

end LinkObservatory
