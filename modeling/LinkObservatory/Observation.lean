import LinkObservatory.Metric

namespace LinkObservatory
set_option autoImplicit true

/-- The full provenance of one observation. -/
structure Provenance where
  source : SourceId := {}
  incarnation : IncarnationId := {}
  epoch : EpochId := {}
  generation : GenerationId := {}
  sequence : UInt64 := 0
deriving DecidableEq, Repr, Inhabited

/-- The scope in which a revision number is meaningful. -/
structure SequenceScope where
  source : SourceId := {}
  incarnation : IncarnationId := {}
  epoch : EpochId := {}
deriving DecidableEq, Repr, Inhabited

def scopeOf (provenance : Provenance) : SequenceScope :=
  { source := provenance.source, incarnation := provenance.incarnation, epoch := provenance.epoch }

/-- The successor of a revision; `none` when the counter would overflow. -/
def sequenceNext (value : UInt64) : Option UInt64 :=
  if value = u64Max then none else some (value + 1)

/-- Locally configured properties of a telemetry source. -/
structure SourceRecord where
  id : SourceId := {}
  name : Bytes := []
  authority : SourceAuthority := .unknown
  provenance : ProvenanceClass := .unknown
  registered : Bool := false
  retired : Bool := false
deriving DecidableEq, Repr, Inhabited

structure Observation where
  id : ObservationId := {}
  provenance : Provenance := {}
  link : LinkId := {}
  key : MetricKey := {}
  payload : MetricPayload := .adminState .unknown
  observedAt : TimePoint := {}
  receivedAt : TimePoint := {}
deriving DecidableEq, Repr, Inhabited

def HashBuilder.addPayload (builder : HashBuilder) : MetricPayload → HashBuilder
  | .counter counter =>
    ((builder.addU64 counter.raw).addU8 counter.width.code).addBool counter.resetDeclared
  | .ratio ppb => builder.addU64 ppb
  | .quality quality => (builder.addU64 quality.valuePpb).addBool quality.degradedDeclared
  | .flap flap => (builder.addU64 flap.events).addI64 flap.window.nanos
  | .adminState value => builder.addU8 value.code
  | .operState value => builder.addU8 value.code

/-- Content address of an observation; it covers every field except the identifier itself. -/
def computeObservationId (observation : Observation) : ObservationId :=
  let builder := HashBuilder.addStr {} (ascii "observation-v1")
  let builder := builder.addHash observation.provenance.source.hash
  let builder := builder.addHash observation.provenance.incarnation.hash
  let builder := builder.addHash observation.provenance.epoch.hash
  let builder := builder.addHash observation.provenance.generation.hash
  let builder := builder.addU64 observation.provenance.sequence
  let builder := builder.addHash observation.link.hash
  let builder := builder.addU8 observation.key.family.code
  let builder := builder.addU8 observation.key.direction.code
  let builder := builder.addU8 observation.key.errorClass.code
  let builder := builder.addU8 observation.payload.index
  let builder := builder.addPayload observation.payload
  let builder := builder.addI64 observation.observedAt.nanos
  let builder := builder.addI64 observation.receivedAt.nanos
  .fromHash builder.finish

def withIdentity (observation : Observation) : Observation :=
  { observation with id := computeObservationId observation }

/-- Structural validation that does not depend on stored state. -/
def validateObservation (observation : Observation) (policy : Policy) : Status :=
  if !observation.provenance.source.valid then
    .of .invalidArgument "observation has no source identity"
  else if !observation.provenance.incarnation.valid then
    .of .invalidArgument "observation has no source incarnation"
  else if !observation.provenance.epoch.valid then
    .of .invalidArgument "observation has no source epoch"
  else if !observation.link.valid then
    .of .invalidArgument "observation has no link identity"
  else validateReading observation.key observation.payload policy

theorem sequenceNext_eq_none (value : UInt64) : sequenceNext value = none ↔ value.toNat = 2 ^ 64 - 1 := by
  unfold sequenceNext
  split
  · rename_i h
    subst h
    exact iff_of_true rfl rfl
  · rename_i h
    refine iff_of_false (by simp) (fun he => h (UInt64.toNat_inj.1 ?_))
    exact he

theorem sequenceNext_some (h : sequenceNext value = some next) : next.toNat = value.toNat + 1 := by
  unfold sequenceNext at h
  split at h
  · cases h
  · rename_i hne
    cases h
    have hlt := value.toNat_lt
    have hn : value.toNat ≠ 2 ^ 64 - 1 := fun he => hne (UInt64.toNat_inj.1 he)
    rw [UInt64.toNat_add, UInt64.toNat_one, Nat.mod_eq_of_lt (by omega)]

/-- What a valid observation guarantees about its identities and its reading. -/
theorem validateObservation_ok (h : (validateObservation observation policy).ok = true) :
    observation.provenance.source.valid = true ∧ observation.link.valid = true ∧
      (validateReading observation.key observation.payload policy).ok = true := by
  unfold validateObservation at h
  split at h
  · simp [Status.ok, Status.of] at h
  · split at h
    · simp [Status.ok, Status.of] at h
    · split at h
      · simp [Status.ok, Status.of] at h
      · split at h
        · simp [Status.ok, Status.of] at h
        · exact ⟨by simp_all, by simp_all, h⟩

end LinkObservatory
