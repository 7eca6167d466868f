import LinkObservatory.Observation

namespace LinkObservatory
set_option autoImplicit true

/-- An accepted observation with the standing it was admitted under. -/
structure Evidence where
  observation : Observation := {}
  acceptedAt : TimePoint := {}
  authority : SourceAuthority := .unknown
  provenance : ProvenanceClass := .unknown
deriving DecidableEq, Repr, Inhabited

structure AgeReport where
  observedAge : Duration := {}
  receivedAge : Duration := {}
  backwardsClock : Bool := false
deriving DecidableEq, Repr, Inhabited

/-- One of the two ages: a negative or unrepresentable difference counts as zero and is flagged. -/
def ageOf (now at_ : TimePoint) : Duration × Bool :=
  match difference now at_ with
  | some age => if age.nanos < 0 then ({}, true) else (age, false)
  | none => ({}, true)

def ageEvidence (evidence : Evidence) (now : TimePoint) : AgeReport :=
  let observed := ageOf now evidence.observation.observedAt
  let received := ageOf now evidence.observation.receivedAt
  { observedAge := observed.1, receivedAge := received.1, backwardsClock := observed.2 || received.2 }

/-- The band an effective age falls into. -/
def freshnessBand (effective : Int64) (policy : FreshnessPolicy) : Freshness :=
  if effective ≤ policy.freshWithin.nanos then .fresh
  else if effective ≤ policy.usableWithin.nanos then .stale
  else .expired

def classifyFreshness (age : AgeReport) (policy : FreshnessPolicy) : Freshness :=
  let effective :=
    if age.observedAge.nanos > age.receivedAge.nanos then age.observedAge.nanos
    else age.receivedAge.nanos
  freshnessBand effective policy

/-- One step down the confidence scale, which the source takes on the underlying value. -/
def Confidence.lower : Confidence → Confidence
  | .unknown => .unknown
  | .low => .unknown
  | .medium => .low
  | .high => .medium

/-- Confidence follows from authority, freshness, conflict and completeness. -/
def deriveConfidence (authority : SourceAuthority) (freshness : Freshness)
    (conflict : ConflictState) (completeness : Completeness) : Confidence :=
  if freshness = .unknown ∨ freshness = .expired then .unknown
  else if conflict = .conflicting then .low
  else if freshness = .stale then .low
  else
    let base : Confidence := match authority with
      | .primary => .high
      | .secondary => .medium
      | .derived => .low
      | .synthetic => .low
      | .unknown => .unknown
    if completeness = .incomplete ∧ base.code > Confidence.low.code then base.lower else base

end LinkObservatory
