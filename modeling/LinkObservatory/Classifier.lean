import LinkObservatory.Derivation
import LinkObservatory.LinkRegistry

namespace LinkObservatory
set_option autoImplicit true

open Std

def kOperKey : MetricKey := { family := .operState }
def kAdminKey : MetricKey := { family := .adminState }
def kOctetsKey : MetricKey := { family := .octets, direction := .in }

/-- Stable rule identifiers. -/
inductive RuleId
  | noEvidence | sourceConflict | operDown | adminDisabled | flapping | sourceFlapReport | erroring
  | saturatedDerived | saturatedReported | degradedQuality | degradedDiscards | degradedOperState
  | unsupportedDecisive | incompleteDecisive | staleEvidence | healthy
deriving DecidableEq, Repr, Inhabited

def RuleId.code : RuleId → UInt32
  | .noEvidence => 800
  | .sourceConflict => 200
  | .operDown => 100
  | .adminDisabled => 110
  | .flapping => 300
  | .sourceFlapReport => 310
  | .erroring => 400
  | .saturatedDerived => 500
  | .saturatedReported => 510
  | .degradedQuality => 600
  | .degradedDiscards => 610
  | .degradedOperState => 620
  | .unsupportedDecisive => 810
  | .incompleteDecisive => 820
  | .staleEvidence => 700
  | .healthy => 900

structure RuleEvaluation where
  rule : RuleId := .noEvidence
  fired : Bool := false
  detail : Bytes := []
deriving DecidableEq, Repr, Inhabited

/-- What the runtime concluded about one metric key. -/
structure FamilyReport where
  key : MetricKey := {}
  support : SupportState := .unsupported
  freshness : Freshness := .unknown
  confidence : Confidence := .unknown
  completeness : Completeness := .unknown
  conflict : ConflictState := .none
  contenders : Nat := 0
  sources : Nat := 0
  accepted : UInt64 := 0
  fenced : UInt64 := 0
  hasValue : Bool := false
  eligible : Bool := false
  hasDelta : Bool := false
  hasDerived : Bool := false
  valuePpb : UInt64 := 0
  derivedPpb : UInt64 := 0
  derivedBps : UInt64 := 0
  derivationFault : DerivationFault := .none
  winnerSource : SourceId := {}
  winnerProvenance : ProvenanceClass := .unknown
  winnerObservedAt : TimePoint := {}
  winnerReceivedAt : TimePoint := {}
  valueText : Bytes := []
  resetCount : UInt64 := 0
  wrapCount : UInt64 := 0
  hasRatio : Bool := false
  ratioPpb : UInt64 := 0
deriving DecidableEq, Repr, Inhabited

structure Classification where
  link : LinkId := {}
  state : LinkState := .unknown
  lastKnownState : LinkState := .unknown
  hasLastKnown : Bool := false
  decidedAt : TimePoint := {}
  generation : GenerationId := {}
  generationChanges : UInt64 := 0
  retired : Bool := false
  freshness : Freshness := .unknown
  confidence : Confidence := .unknown
  completeness : Completeness := .unknown
  support : SupportState := .unsupported
  anyEvidence : Bool := false
  anyEligible : Bool := false
  decisiveUnsupported : Bool := false
  decisiveIncomplete : Bool := false
  families : List FamilyReport := []
  rules : List RuleEvaluation := []
  acceptedTotal : UInt64 := 0
  fencedTotal : UInt64 := 0
  flapEvents : UInt64 := 0
  transitions : Nat := 0
  droppedTransitions : UInt64 := 0
deriving DecidableEq, Repr, Inhabited

def Classification.find (classification : Classification) (family : MetricFamily)
    (direction : Direction) : Option FamilyReport :=
  classification.families.find? fun report =>
    report.key.family == family && report.key.direction == direction

/-- What one evaluation of a link reads. -/
structure ClassificationInput where
  link : LinkId := {}
  entry : Option LinkEntry := none
  currentGeneration : GenerationId := {}
  generationChanges : UInt64 := 0
  policy : Policy
  store : EvidenceStore
  transitions : TransitionLog
  now : TimePoint := {}

def isDecisiveFamily (family : MetricFamily) : Bool := family != .flapReport

def weakest (lhs rhs : Confidence) : Confidence := if lhs.code ≤ rhs.code then lhs else rhs

def Freshness.rank : Freshness → Nat
  | .fresh => 3
  | .stale => 2
  | .expired => 1
  | .unknown => 0

def strongest (lhs rhs : Freshness) : Freshness := if lhs.rank ≥ rhs.rank then lhs else rhs

/-- The keys of a link in order; three of them are always reported. -/
def reportedKeys (store : EvidenceStore) (link : LinkId) : List MetricKey :=
  let ensureKey (keys : List MetricKey) (key : MetricKey) :=
    if key ∈ keys then keys else keys ++ [key]
  let keys := ensureKey (ensureKey (ensureKey (store.keysFor link) kOperKey) kAdminKey) kOctetsKey
  keys.insertionSort fun a b => (MetricKey.compare a b).isLE = true

namespace ClassificationInput

def facts (input : ClassificationInput) : LinkFacts :=
  match input.entry with
  | some entry => entry.facts
  | none => {}

def context (input : ClassificationInput) : EvaluationContext :=
  { now := input.now
    currentGeneration := input.currentGeneration
    hasGeneration := input.currentGeneration.valid }

def derivedForKey (input : ClassificationInput) (key : MetricKey) (source : SourceId) : Derived :=
  deriveFor input.store input.facts input.link key source key.direction input.policy input.now
    input.currentGeneration input.currentGeneration.valid

end ClassificationInput

/-- A report with the payload and the derivation it rests on. The source keeps the last two in
maps by key; the reported keys are distinct. -/
structure KeyEvaluation where
  report : FamilyReport := {}
  payload : Option MetricPayload := none
  derived : Option Derived := none
  anyEvidence : Bool := false
  anyEligible : Bool := false
deriving DecidableEq, Repr, Inhabited

/-- The report before a winner is known. -/
def baseReport (input : ClassificationInput) (key : MetricKey)
    (contenders : List EvaluatedEvidence) : FamilyReport :=
  let report : FamilyReport := match input.store.slotView input.link key input.now with
    | none => { key := key }
    | some view =>
      { key := key
        accepted := view.accepted
        fenced := view.fenced
        completeness := view.completeness
        support := if view.accepted > 0 then .supported else .unsupported }
  { report with
    contenders := contenders.length
    sources := (contenders.map EvaluatedEvidence.source).dedup.length
    freshness := contenders.foldl (fun best candidate => strongest best candidate.freshness)
      .unknown }

/-- The part of the report that comes from the winner itself. -/
def FamilyReport.withWinner (report : FamilyReport) (evidence : Evidence) : FamilyReport :=
  { report with
    hasValue := true
    eligible := true
    winnerSource := evidence.observation.provenance.source
    winnerProvenance := evidence.provenance
    winnerObservedAt := evidence.observation.observedAt
    winnerReceivedAt := evidence.observation.receivedAt
    valueText := formatPayload evidence.observation.payload
    valuePpb := evidence.observation.payload.ratioValue }

/-- The part of the report that comes from the winner's counter samples. -/
def FamilyReport.withDerived (report : FamilyReport) (derived : Derived)
    (continuity : Option CounterContinuity) : FamilyReport :=
  { report with
    hasDelta := derived.hasDelta
    hasDerived := derived.hasUtilization
    derivedPpb := if derived.hasUtilization then derived.utilizationPpb else 0
    derivationFault := derived.fault
    resetCount := match continuity with
      | some continuity => continuity.resetCount
      | none => report.resetCount
    wrapCount := match continuity with
      | some continuity => continuity.wrapCount
      | none => report.wrapCount }

def evaluateKey (input : ClassificationInput) (key : MetricKey) : KeyEvaluation :=
  let contenders := input.store.contenders input.link key input.context
  let report := baseReport input key contenders
  let anyEvidence := !contenders.isEmpty
  let anyEligible := contenders.any EvaluatedEvidence.eligible
  match selectWinner contenders with
  | none => { report, anyEvidence, anyEligible }
  | some winner =>
    let report := report.withWinner winner.evidence
    let derived := if isCounterFamily key.family then
      some (input.derivedForKey key report.winnerSource) else none
    let report := match derived with
      | some derived =>
        report.withDerived derived (input.store.continuity input.link key report.winnerSource)
      | none => report
    let report :=
      { report with
        conflict := conflictOf key derived (input.derivedForKey key)
          input.policy.thresholds.conflictTolerancePpb contenders }
    let report :=
      { report with
        confidence := deriveConfidence winner.evidence.authority winner.freshness report.conflict
          report.completeness }
    { report, payload := some winner.evidence.observation.payload, derived, anyEvidence,
      anyEligible }

/-- The largest flap count a source reports, if any source reports one. -/
def reportedFlaps (evaluations : List KeyEvaluation) : Bool × UInt64 :=
  evaluations.foldl (fun (eligible, events) evaluation =>
    if evaluation.report.key.family ≠ .flapReport ∨ !evaluation.report.hasValue then
      (eligible, events)
    else match evaluation.payload with
      | some (.flap reading) => (true, if reading.events > events then reading.events else events)
      | _ => (eligible, events)) (false, 0)

/-- The largest utilization a source reports. -/
def reportedUtilization (evaluations : List KeyEvaluation) : Bool × UInt64 :=
  evaluations.foldl (fun (eligible, ppb) evaluation =>
    let report := evaluation.report
    if report.key.family ≠ .utilReported ∨ !report.hasValue then (eligible, ppb)
    else if report.eligible then (true, if report.valuePpb > ppb then report.valuePpb else ppb)
    else (eligible, ppb)) (false, 0)

structure DerivedUtilization where
  eligible : Bool := false
  ppb : UInt64 := 0
  fault : DerivationFault := .missingPreviousSample
deriving DecidableEq, Repr, Inhabited

def derivedUtilization (evaluations : List KeyEvaluation) : DerivedUtilization :=
  evaluations.foldl (fun held evaluation =>
    if evaluation.report.key.family ≠ .octets ∨ !evaluation.report.hasValue then held
    else match evaluation.derived with
      | none => held
      | some derived =>
        if derived.hasUtilization then
          { eligible := true
            ppb := if derived.utilizationPpb > held.ppb then derived.utilizationPpb else held.ppb
            fault := .none }
        else if !held.eligible then { held with fault := derived.fault }
        else held) {}

/-- The delta of the inbound octets that error and discard ratios are taken against. -/
def octetBaseline (evaluations : List KeyEvaluation) : Option Derived :=
  evaluations.findSome? fun evaluation =>
    if evaluation.report.key.family ≠ .octets ∨ evaluation.report.key.direction ≠ .in ∨
        !evaluation.report.hasValue then none
    else evaluation.derived.filter Derived.hasDelta

/-- The ratio of one error or discard key, when its window is that of the octets. -/
def ratioOf (baseline : Option Derived) (evaluation : KeyEvaluation) : Option UInt64 :=
  if evaluation.report.key.family ≠ .errors ∧ evaluation.report.key.family ≠ .discards then none
  else match evaluation.derived with
    | none => none
    | some derived =>
      if !derived.hasDelta then none
      else match baseline with
        | none => none
        | some octets =>
          if octets.window = derived.window then ratioPpb derived.delta octets.delta else none

def FamilyReport.withRatio (report : FamilyReport) : Option UInt64 → FamilyReport
  | some ratio => { report with hasRatio := true, ratioPpb := ratio }
  | none => report

/-- The last ratio of a family, in key order. -/
def lastRatio (family : MetricFamily) (reports : List FamilyReport) : Option UInt64 :=
  reports.foldl (fun held report =>
    if report.key.family = family ∧ report.hasRatio then some report.ratioPpb else held) none

structure QualitySignal where
  degraded : Bool := false
  worst : UInt64 := 0
  present : Bool := false
deriving DecidableEq, Repr, Inhabited

def qualitySignal (evaluations : List KeyEvaluation) (threshold : UInt64) : QualitySignal :=
  let signal := evaluations.foldl (fun (signal : QualitySignal) evaluation =>
    let report := evaluation.report
    if report.key.family ≠ .signalQuality ∨ !report.hasValue ∨ !report.eligible then signal
    else match evaluation.payload with
      | some (.quality reading) =>
        { present := true
          worst := if signal.worst = 0 ∨ reading.valuePpb < signal.worst then reading.valuePpb
            else signal.worst
          degraded := signal.degraded || reading.degradedDeclared }
      | _ => signal) {}
  { signal with degraded := signal.degraded || (signal.present && signal.worst ≤ threshold) }

/-- Whether a decisive family is incomplete, and whether a required one has no source. -/
def decisiveFlags (reports : List FamilyReport) : Bool × Bool :=
  reports.foldl (fun (incomplete, unsupported) report =>
    if !isDecisiveFamily report.key.family ∨ report.key.direction = .both then
      (incomplete, unsupported)
    else if report.support = .unsupported then
      (incomplete, unsupported || report.key.family == .operState)
    else (incomplete || report.completeness == .incomplete, unsupported)) (false, false)

/-- Observed link transitions inside the flap window; classification churn does not count. -/
def countFlaps (input : ClassificationInput) : UInt64 :=
  let windowStart := (advance input.now ⟨-input.policy.thresholds.flapWindow.nanos⟩).getD {}
  let events := input.transitions.forLink input.link input.policy.limits.maxResultRows
  UInt64.ofNat <| events.countP fun event =>
    !(event.at_.nanos < windowStart.nanos) &&
      (event.kind == .adminStateChanged || event.kind == .operStateChanged)

/-- Everything the rules are decided from. -/
structure Signals where
  anyEvidence : Bool
  anyEligible : Bool
  conflictKey : Option MetricKey
  operEligible : Bool
  operValue : OperStateValue
  adminEligible : Bool
  adminValue : AdminStateValue
  flapEvents : UInt64
  sourceFlaps : Bool × UInt64
  reportedUtil : Bool × UInt64
  derivedUtil : DerivedUtilization
  errorRatio : Option UInt64
  discardRatio : Option UInt64
  quality : QualitySignal
  decisiveIncomplete : Bool
  decisiveUnsupported : Bool
  thresholds : StateThresholds

def evaluationOf (evaluations : List KeyEvaluation) (key : MetricKey) : Option KeyEvaluation :=
  evaluations.find? fun evaluation => evaluation.report.key == key

def operStateOf (evaluations : List KeyEvaluation) : OperStateValue :=
  match evaluationOf evaluations kOperKey with
  | some evaluation =>
    if evaluation.report.eligible then
      match evaluation.payload with
      | some (.operState value) => value
      | _ => .unknown
    else .unknown
  | none => .unknown

def adminStateOf (evaluations : List KeyEvaluation) : AdminStateValue :=
  match evaluationOf evaluations kAdminKey with
  | some evaluation =>
    if evaluation.report.eligible then
      match evaluation.payload with
      | some (.adminState value) => value
      | _ => .unknown
    else .unknown
  | none => .unknown

def eligibleKey (evaluations : List KeyEvaluation) (key : MetricKey) : Bool :=
  (evaluationOf evaluations key).any fun evaluation => evaluation.report.eligible

/-- The reports with the ratios filled in. -/
def ratedReports (evaluations : List KeyEvaluation) : List FamilyReport :=
  let baseline := octetBaseline evaluations
  evaluations.map fun evaluation => evaluation.report.withRatio (ratioOf baseline evaluation)

def signalsOf (input : ClassificationInput) (evaluations : List KeyEvaluation) : Signals :=
  let reports := ratedReports evaluations
  let decisive := decisiveFlags reports
  { anyEvidence := evaluations.any KeyEvaluation.anyEvidence
    anyEligible := evaluations.any KeyEvaluation.anyEligible
    conflictKey := (reports.find? fun report => report.conflict == .conflicting).map
      FamilyReport.key
    operEligible := eligibleKey evaluations kOperKey
    operValue := operStateOf evaluations
    adminEligible := eligibleKey evaluations kAdminKey
    adminValue := adminStateOf evaluations
    flapEvents := countFlaps input
    sourceFlaps := reportedFlaps evaluations
    reportedUtil := reportedUtilization evaluations
    derivedUtil := derivedUtilization evaluations
    errorRatio := lastRatio .errors reports
    discardRatio := lastRatio .discards reports
    quality := qualitySignal evaluations input.policy.thresholds.degradedQualityPpb
    decisiveIncomplete := decisive.1
    decisiveUnsupported := decisive.2
    thresholds := input.policy.thresholds }

namespace Signals

def noEvidence (signals : Signals) : Bool := !signals.anyEvidence

def anyConflict (signals : Signals) : Bool := signals.conflictKey.isSome

def operDown (signals : Signals) : Bool := signals.operEligible && signals.operValue == .down

def adminDisabled (signals : Signals) : Bool :=
  signals.adminEligible && signals.adminValue == .disabled

def flapping (signals : Signals) : Bool :=
  signals.flapEvents ≥ signals.thresholds.flapThreshold.toUInt64

def sourceFlapping (signals : Signals) : Bool :=
  signals.sourceFlaps.1 && signals.sourceFlaps.2 ≥ signals.thresholds.flapThreshold.toUInt64

def erroring (signals : Signals) : Bool :=
  signals.errorRatio.any fun ratio => ratio ≥ signals.thresholds.errorRatioPpb

def saturatedReported (signals : Signals) : Bool :=
  signals.reportedUtil.1 && signals.reportedUtil.2 ≥ signals.thresholds.saturationPpb

def saturatedDerived (signals : Signals) : Bool :=
  signals.derivedUtil.eligible && signals.derivedUtil.ppb ≥ signals.thresholds.saturationPpb

def degradedDiscards (signals : Signals) : Bool :=
  signals.discardRatio.any fun ratio => ratio ≥ signals.thresholds.discardRatioPpb

def degradedOper (signals : Signals) : Bool :=
  signals.operEligible && signals.operValue == .degraded

def staleEvidence (signals : Signals) : Bool := signals.anyEvidence && !signals.anyEligible

def healthy (signals : Signals) : Bool :=
  signals.operEligible && signals.operValue == .up && !signals.anyConflict && !signals.erroring
    && !signals.saturatedReported && !signals.saturatedDerived && !signals.quality.degraded
    && !signals.degradedDiscards && !signals.degradedOper && !signals.flapping
    && !signals.sourceFlapping && !signals.decisiveIncomplete && !signals.decisiveUnsupported

/-- The state, by fixed precedence. -/
def state (signals : Signals) : LinkState :=
  if signals.noEvidence then .unknown
  else if signals.anyConflict then .conflicting
  else if signals.operDown || signals.adminDisabled then .down
  else if signals.flapping || signals.sourceFlapping then .flapping
  else if signals.erroring then .erroring
  else if signals.saturatedReported || signals.saturatedDerived then .saturated
  else if signals.quality.degraded || signals.degradedDiscards || signals.degradedOper then
    .degraded
  else if signals.decisiveUnsupported || signals.decisiveIncomplete then .unknown
  else if signals.staleEvidence then .stale
  else if signals.healthy then .healthy
  else .unknown

/-- A rule that explains itself only when it fires. -/
def rule (id : RuleId) (fired : Bool) (detail : Bytes) : RuleEvaluation :=
  { rule := id, fired := fired, detail := if fired then detail else [] }

/-- Every rule, in the order of its identifier. -/
def rules (signals : Signals) : List RuleEvaluation :=
  let added : List RuleEvaluation :=
    [rule .noEvidence signals.noEvidence (ascii "no accepted evidence"),
      rule .sourceConflict signals.anyConflict
        ((signals.conflictKey.map MetricKey.toString).getD []),
      rule .operDown signals.operDown (ascii "operational state down"),
      rule .adminDisabled signals.adminDisabled (ascii "administrative state disabled"),
      rule .flapping signals.flapping
        (ascii "observed transitions=" ++ toDec signals.flapEvents),
      rule .sourceFlapReport signals.sourceFlapping
        (ascii "reported flap events=" ++ toDec signals.sourceFlaps.2),
      rule .erroring signals.erroring
        (ascii "error ratio ppb=" ++ toDec (signals.errorRatio.getD 0)),
      rule .saturatedDerived signals.saturatedDerived
        (ascii "derived utilization ppb=" ++ toDec signals.derivedUtil.ppb),
      rule .saturatedReported signals.saturatedReported
        (ascii "reported utilization ppb=" ++ toDec signals.reportedUtil.2),
      rule .degradedQuality signals.quality.degraded
        (ascii "quality ppb=" ++ toDec signals.quality.worst ++ ascii " threshold ppb="
          ++ toDec signals.thresholds.degradedQualityPpb),
      rule .degradedDiscards signals.degradedDiscards
        (ascii "discard ratio ppb=" ++ toDec (signals.discardRatio.getD 0)),
      rule .degradedOperState signals.degradedOper (ascii "operational state degraded"),
      rule .unsupportedDecisive signals.decisiveUnsupported
        (ascii "a required metric family has no source"),
      rule .incompleteDecisive signals.decisiveIncomplete
        (ascii "revision gap within the derivation window; derivation-fault="
          ++ signals.derivedUtil.fault.toString),
      rule .staleEvidence signals.staleEvidence (ascii "accepted evidence is no longer usable"),
      rule .healthy signals.healthy (ascii "operational state up, no adverse indicator")]
  added.insertionSort fun lhs rhs => lhs.rule.code ≤ rhs.rule.code

end Signals

/-- The best freshness any family still has. -/
def linkFreshness (reports : List FamilyReport) : Freshness :=
  if reports.any fun report => report.freshness == .fresh then .fresh
  else if reports.any fun report => report.freshness == .stale then .stale
  else if reports.any fun report => report.freshness == .expired then .expired
  else .unknown

/-- The weakest confidence of the decisive families that have a value. -/
def linkConfidence (reports : List FamilyReport) : Confidence :=
  let aggregate := reports.foldl (fun (held : Option Confidence) report =>
    if !isDecisiveFamily report.key.family || !report.hasValue then held
    else match held with
      | some confidence => some (weakest confidence report.confidence)
      | none => some report.confidence) none
  aggregate.getD .unknown

/-- The state of the newest classification event; an unreadable one ends the search. -/
def lastKnownState (input : ClassificationInput) : Option LinkState :=
  let history := input.transitions.forLink input.link input.policy.limits.maxResultRows
  (history.reverse.find? fun event => event.kind == .classificationChanged).bind fun event =>
    parseLinkState event.toText

/-- Evaluates every rule, then selects the state by fixed precedence. -/
def classify (input : ClassificationInput) : Classification :=
  let evaluations := (reportedKeys input.store input.link).map (evaluateKey input)
  let signals := signalsOf input evaluations
  let reports := ratedReports evaluations
  { link := input.link
    decidedAt := input.now
    generation := input.currentGeneration
    generationChanges := input.generationChanges
    retired := input.entry.any LinkEntry.retired
    acceptedTotal := (input.entry.map LinkEntry.acceptedObservations).getD 0
    fencedTotal := (input.entry.map LinkEntry.fencedObservations).getD 0
    anyEvidence := signals.anyEvidence
    anyEligible := signals.anyEligible
    families := reports
    rules := signals.rules
    state := signals.state
    decisiveIncomplete := signals.decisiveIncomplete
    decisiveUnsupported := signals.decisiveUnsupported
    support := if (evaluationOf evaluations kOperKey).any
        fun evaluation => evaluation.report.support == .supported then .supported
      else .unsupported
    freshness := if !signals.anyEvidence then .unknown else linkFreshness reports
    completeness := if !signals.anyEvidence then .unknown
      else if signals.decisiveIncomplete then .incomplete else .complete
    confidence := linkConfidence reports
    flapEvents := signals.flapEvents
    transitions := input.transitions.eventsFor input.link
    droppedTransitions := input.transitions.dropped
    lastKnownState := (lastKnownState input).getD .unknown
    hasLastKnown := (lastKnownState input).isSome }

end LinkObservatory
