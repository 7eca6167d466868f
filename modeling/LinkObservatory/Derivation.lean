import LinkObservatory.EvidenceQuery
import LinkObservatory.TransitionLog

namespace LinkObservatory
set_option autoImplicit true

open Std

def EvaluatedEvidence.source (evaluated : EvaluatedEvidence) : SourceId :=
  evaluated.evidence.observation.provenance.source

/-- Authority first, then recency, then the identity of the source. -/
def higherPriority (lhs rhs : EvaluatedEvidence) : Bool :=
  if lhs.evidence.authority ≠ rhs.evidence.authority then
    lhs.evidence.authority.code > rhs.evidence.authority.code
  else if lhs.evidence.observation.observedAt ≠ rhs.evidence.observation.observedAt then
    lhs.evidence.observation.observedAt.nanos > rhs.evidence.observation.observedAt.nanos
  else if lhs.evidence.observation.receivedAt ≠ rhs.evidence.observation.receivedAt then
    lhs.evidence.observation.receivedAt.nanos > rhs.evidence.observation.receivedAt.nanos
  else StrongId.compare lhs.source rhs.source == .lt

/-- Highest authority among the eligible contenders. -/
def topAuthority (contenders : List EvaluatedEvidence) : SourceAuthority :=
  contenders.foldl (fun best candidate =>
    if candidate.eligible && candidate.evidence.authority.code > best.code then
      candidate.evidence.authority
    else best) .unknown

/-- One step of the selection: an eligible candidate replaces a weaker one. -/
def preferred (best : Option EvaluatedEvidence) (candidate : EvaluatedEvidence) :
    Option EvaluatedEvidence :=
  if !candidate.eligible then best
  else match best with
    | none => some candidate
    | some held => if higherPriority candidate held then some candidate else best

def selectWinner (contenders : List EvaluatedEvidence) : Option EvaluatedEvidence :=
  contenders.foldl preferred none

def relativeDifferencePpb (lhs rhs : UInt64) : UInt64 :=
  let difference := if lhs > rhs then lhs - rhs else rhs - lhs
  let scale := if lhs > rhs then lhs else rhs
  if scale = 0 then 0
  else match ratioPpb difference scale with
    | none => 1000000000
    | some relative => relative

def MetricPayload.ratioValue : MetricPayload → UInt64
  | .ratio ppb => ppb
  | .quality reading => reading.valuePpb
  | _ => 0

/-- Two readings of the same key contradict each other. -/
def readingsDisagree (lhs rhs : MetricPayload) (tolerancePpb : UInt64) : Bool :=
  match lhs with
  | .adminState left => match rhs with
    | .adminState right => left ≠ right ∧ left ≠ .unknown ∧ right ≠ .unknown
    | _ => false
  | .operState left => match rhs with
    | .operState right => left ≠ right ∧ left ≠ .unknown ∧ right ≠ .unknown
    | _ => false
  | _ => match payloadDifferencePpb lhs rhs with
    | none => false
    | some _ => relativeDifferencePpb lhs.ratioValue rhs.ratioValue > tolerancePpb

structure Derived where
  hasDelta : Bool := false
  delta : UInt64 := 0
  window : Duration := {}
  fault : DerivationFault := .missingPreviousSample
  hasUtilization : Bool := false
  utilizationPpb : UInt64 := 0
deriving DecidableEq, Repr, Inhabited

/-- A sample may contribute while it is in the scope and generation in force and not expired. -/
def sampleUsable (sample : CounterSample) (now : TimePoint) (freshness : FreshnessPolicy)
    (stream : Option StreamState) (currentGeneration : GenerationId) (hasGeneration : Bool) :
    Bool :=
  match stream with
  | none => false
  | some stream =>
    if !stream.hasScope || !(sample.scope == stream.scope) then false
    else if hasGeneration && !(sample.generation == currentGeneration) then false
    else classifySampleFreshness sample now freshness != .expired

/-- The request that a pair of retained samples gives rise to, without a capacity. -/
def derivationRequest (store : EvidenceStore) (continuity : CounterContinuity) (key : MetricKey)
    (source : SourceId) (policy : Policy) (now : TimePoint) (currentGeneration : GenerationId)
    (hasGeneration : Bool) : DerivationRequest :=
  let stream := store.streamState source
  let freshness := freshnessPolicyFor policy key.family
  { previous := continuity.previous
    current := continuity.latest
    hasPrevious := true
    previousUsable := sampleUsable continuity.previous now freshness stream currentGeneration
      hasGeneration
    currentUsable := sampleUsable continuity.latest now freshness stream currentGeneration
      hasGeneration
    maxWindow := policy.thresholds.derivationWindow }

/-- What a request yields on a link with the given facts. -/
def deriveRequest (request : DerivationRequest) (facts : LinkFacts) (direction : Direction) :
    Derived :=
  let delta := deriveDelta request
  if !delta.valid then { fault := delta.fault }
  else
    let derived : Derived :=
      { hasDelta := true, delta := delta.delta, window := delta.window, fault := .none }
    match capacityFor facts direction with
    | none => { derived with fault := .missingCapacity }
    | some capacity =>
      let utilization := deriveUtilization { request with capacityBps := capacity }
      if utilization.valid then
        { derived with hasUtilization := true, utilizationPpb := utilization.utilizationPpb }
      else { derived with fault := utilization.fault }

def deriveFor (store : EvidenceStore) (facts : LinkFacts) (link : LinkId) (key : MetricKey)
    (source : SourceId) (direction : Direction) (policy : Policy) (now : TimePoint)
    (currentGeneration : GenerationId) (hasGeneration : Bool) : Derived :=
  match store.continuity link key source with
  | none => { fault := .missingPreviousSample }
  | some continuity =>
    if !continuity.hasLatest || !continuity.hasPrevious then { fault := .missingPreviousSample }
    else
      deriveRequest (derivationRequest store continuity key source policy now currentGeneration
        hasGeneration) facts direction

structure ConflictScan where
  conflicting : Bool := false
  compared : Bool := false
deriving DecidableEq, Repr, Inhabited

/-- Compares one pair of top contenders. For counters the left value is always the winner's. -/
def ConflictScan.pair (scan : ConflictScan) (key : MetricKey) (winner : Option Derived)
    (derivedOf : SourceId → Derived) (tolerancePpb : UInt64) (lhs rhs : EvaluatedEvidence) :
    ConflictScan :=
  if lhs.source = rhs.source then scan
  else
    let scan := { scan with compared := true }
    if isCounterFamily key.family then
      match winner with
      | none => scan
      | some left =>
        let right := derivedOf rhs.source
        if !left.hasUtilization || !right.hasUtilization then scan
        else if relativeDifferencePpb left.utilizationPpb right.utilizationPpb > tolerancePpb then
          { scan with conflicting := true }
        else scan
    else if readingsDisagree lhs.evidence.observation.payload rhs.evidence.observation.payload
        tolerancePpb then
      { scan with conflicting := true }
    else scan

/-- Every pair in order; the outer loop stops once a conflict was found. -/
def ConflictScan.run (key : MetricKey) (winner : Option Derived) (derivedOf : SourceId → Derived)
    (tolerancePpb : UInt64) : ConflictScan → List EvaluatedEvidence → ConflictScan
  | scan, [] => scan
  | scan, lhs :: rest =>
    if scan.conflicting then scan
    else
      ConflictScan.run key winner derivedOf tolerancePpb
        (rest.foldl (fun scan rhs => scan.pair key winner derivedOf tolerancePpb lhs rhs) scan) rest

/-- The verdict on the eligible contenders of the highest authority. -/
def conflictOf (key : MetricKey) (winner : Option Derived) (derivedOf : SourceId → Derived)
    (tolerancePpb : UInt64) (contenders : List EvaluatedEvidence) : ConflictState :=
  let authority := topAuthority contenders
  if authority = .unknown then .none
  else
    let top := contenders.filter fun candidate =>
      candidate.eligible && candidate.evidence.authority == authority
    if top.length < 2 then .insufficient
    else
      let scan := ConflictScan.run key winner derivedOf tolerancePpb {} top
      if scan.conflicting then .conflicting
      else if scan.compared then .corroborated
      else .none

end LinkObservatory
