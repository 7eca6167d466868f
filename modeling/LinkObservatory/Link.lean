import LinkObservatory.Observation

namespace LinkObservatory
set_option autoImplicit true

def deriveLinkId (name : Bytes) : LinkId := .fromName name

/-- Operator declared facts about a link. -/
structure LinkFacts where
  id : LinkId := {}
  name : Bytes := []
  localEndpoint : EndpointId := {}
  remoteEndpoint : EndpointId := {}
  localPort : PortId := {}
  remotePort : PortId := {}
  kind : LinkKind := .unknown
  generation : GenerationId := {}
  capacityKnown : Bool := false
  capacityInBps : UInt64 := 0
  capacityOutBps : UInt64 := 0
  provenance : ProvenanceClass := .unknown
deriving DecidableEq, Repr, Inhabited

structure LinkEntry where
  facts : LinkFacts := {}
  registeredAt : TimePoint := {}
  lastEvidenceAt : TimePoint := {}
  lastAcceptedAt : TimePoint := {}
  acceptedObservations : UInt64 := 0
  fencedObservations : UInt64 := 0
  retired : Bool := false
  hasEvidence : Bool := false
deriving DecidableEq, Repr, Inhabited

/-- Declared capacity for a direction, if the link declares one. -/
def capacityFor (facts : LinkFacts) (direction : Direction) : Option UInt64 :=
  if !facts.capacityKnown then none
  else match direction with
    | .in => if facts.capacityInBps = 0 then none else some facts.capacityInBps
    | .out => if facts.capacityOutBps = 0 then none else some facts.capacityOutBps
    | .both => none
    | .unknown => none

def validateLinkFacts (facts : LinkFacts) : Status :=
  if !facts.id.valid then .of .invalidArgument "link facts have no link identity"
  else if facts.name = [] then .of .invalidArgument "link facts have no name"
  else if facts.name.length > 128 then .of .outOfRange "link name exceeds 128 bytes"
  else if facts.capacityKnown then
    if facts.capacityInBps = 0 ∧ facts.capacityOutBps = 0 then
      .of .invalidArgument "link declares known capacity but both directions are zero"
    else .success
  else if facts.capacityInBps ≠ 0 ∨ facts.capacityOutBps ≠ 0 then
    .of .invalidArgument "link has capacity values but does not declare capacity as known"
  else .success

theorem validateLinkFacts_ok (h : (validateLinkFacts facts).ok = true) :
    facts.id.valid = true ∧ facts.name.length ≤ 128 := by
  unfold validateLinkFacts at h
  split at h
  · simp [Status.ok, Status.of] at h
  · rename_i hid
    split at h
    · simp [Status.ok, Status.of] at h
    · split at h
      · simp [Status.ok, Status.of] at h
      · rename_i hlen
        exact ⟨by simpa using hid, Nat.le_of_not_gt hlen⟩

end LinkObservatory
