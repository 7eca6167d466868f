import LinkObservatory.Evidence
import LinkObservatory.WideArithmetic

namespace LinkObservatory
set_option autoImplicit true

/-- One counter sample with everything needed to interpret it. -/
structure CounterSample where
  reading : CounterReading := {}
  observedAt : TimePoint := {}
  receivedAt : TimePoint := {}
  sequence : UInt64 := 0
  scope : SequenceScope := {}
  generation : GenerationId := {}
  gapEpoch : UInt64 := 0
deriving DecidableEq, Repr, Inhabited

/-- The newest sample of one source and key, and the one before it. -/
structure CounterContinuity where
  latest : CounterSample := {}
  previous : CounterSample := {}
  hasLatest : Bool := false
  hasPrevious : Bool := false
  lastDiscontinuity : CounterDiscontinuity := .none
  resetCount : UInt64 := 0
  wrapCount : UInt64 := 0
  gapCount : UInt64 := 0
deriving DecidableEq, Repr, Inhabited

structure ContinuityOutcome where
  discontinuity : CounterDiscontinuity := .none
  deltaValid : Bool := false
  delta : UInt64 := 0
  sequenceGap : Bool := false
  scopeChanged : Bool := false
  generationChanged : Bool := false
  firstSample : Bool := false
deriving DecidableEq, Repr, Inhabited

def counterRange : CounterWidth → UInt64
  | .bits32 => 0xFFFFFFFF
  | .bits64 => u64Max

def sameIdentity (lhs rhs : CounterSample) : Bool :=
  lhs.scope == rhs.scope && lhs.generation == rhs.generation

/-- Three quarters of the counter range. -/
def wrapDetectionThreshold : CounterWidth → UInt64
  | .bits32 => 3221225472
  | .bits64 => 13835058055282163712

/-- What the step from a baseline of the same identity to a new sample amounts to. -/
def compareToBaseline (baseline sample : CounterSample) : ContinuityOutcome :=
  let regressed := sample.sequence ≤ baseline.sequence
  let discontinuity := sample.gapEpoch ≠ baseline.gapEpoch
  let outcome : ContinuityOutcome := { sequenceGap := regressed ∨ discontinuity }
  if sample.reading.resetDeclared then { outcome with discontinuity := .reset }
  else if sample.reading.raw ≥ baseline.reading.raw then
    { outcome with
      delta := sample.reading.raw - baseline.reading.raw
      deltaValid := !outcome.sequenceGap }
  else if baseline.reading.raw ≥ wrapDetectionThreshold baseline.reading.width then
    let head := (counterRange baseline.reading.width - baseline.reading.raw) + 1
    match checkedAdd head sample.reading.raw with
    | some total =>
      { outcome with delta := total, deltaValid := !outcome.sequenceGap, discontinuity := .wrap }
    | none => { outcome with discontinuity := .reset }
  else { outcome with discontinuity := .reset }

/-- What happens across the boundary to a new sample, before it is stored. -/
def continuityOutcome (state : CounterContinuity) (sample : CounterSample) : ContinuityOutcome :=
  if !state.hasLatest then { firstSample := true }
  else if !sameIdentity state.latest sample then
    { scopeChanged := state.latest.scope ≠ sample.scope
      generationChanged := state.latest.generation ≠ sample.generation }
  else compareToBaseline state.latest sample

/-- Folds one accepted sample into the continuity state. -/
def observeCounter (state : CounterContinuity) (sample : CounterSample) :
    CounterContinuity × ContinuityOutcome :=
  let outcome := continuityOutcome state sample
  ({ latest := sample
     hasLatest := true
     previous := if state.hasLatest then state.latest else state.previous
     hasPrevious := state.hasLatest || state.hasPrevious
     lastDiscontinuity := outcome.discontinuity
     resetCount := if outcome.discontinuity = .reset then state.resetCount + 1 else state.resetCount
     wrapCount := if outcome.discontinuity = .wrap then state.wrapCount + 1 else state.wrapCount
     gapCount := if outcome.sequenceGap then state.gapCount + 1 else state.gapCount },
    outcome)

/-- Freshness of a retained sample against an explicit instant. -/
def classifySampleFreshness (sample : CounterSample) (now : TimePoint) (policy : FreshnessPolicy) :
    Freshness :=
  let effective : Int64 := match difference now sample.observedAt with
    | some age => if age.nanos < 0 then 0 else age.nanos
    | none => 0
  let effective := match difference now sample.receivedAt with
    | some age => if ¬age.nanos < 0 ∧ age.nanos > effective then age.nanos else effective
    | none => effective
  freshnessBand effective policy

structure DerivationRequest where
  previous : CounterSample := {}
  current : CounterSample := {}
  hasPrevious : Bool := false
  previousUsable : Bool := true
  currentUsable : Bool := true
  capacityBps : UInt64 := 0
  maxWindow : Duration := {}
deriving DecidableEq, Repr, Inhabited

/-- The delta between two samples, without any capacity scaling. -/
structure DeltaResult where
  fault : DerivationFault := .none
  valid : Bool := false
  delta : UInt64 := 0
  window : Duration := {}
  discontinuity : CounterDiscontinuity := .none
deriving DecidableEq, Repr, Inhabited

structure DerivationResult where
  fault : DerivationFault := .none
  valid : Bool := false
  deltaBytes : UInt64 := 0
  bitsPerSecond : UInt64 := 0
  utilizationPpb : UInt64 := 0
  window : Duration := {}
  discontinuity : CounterDiscontinuity := .none
deriving DecidableEq, Repr, Inhabited

/-- The last part of `derive_delta`, reached once the window between the samples is settled. -/
def deltaOver (previous current : CounterSample) (window : Duration) : DeltaResult :=
  if current.reading.resetDeclared then
    { window, discontinuity := .reset, fault := .counterReset }
  else if current.reading.raw ≥ previous.reading.raw then
    { window, delta := current.reading.raw - previous.reading.raw, valid := true }
  else if previous.reading.raw ≥ wrapDetectionThreshold previous.reading.width then
    let head := (counterRange previous.reading.width - previous.reading.raw) + 1
    match checkedAdd head current.reading.raw with
    | none => { window, fault := .overflow }
    | some total => { window, delta := total, discontinuity := .wrap, valid := true }
  else { window, discontinuity := .reset, fault := .counterReset }

def deriveDelta (request : DerivationRequest) : DeltaResult :=
  if !request.hasPrevious then { fault := .missingPreviousSample }
  else if !request.previousUsable then { fault := .staleSample }
  else if !request.currentUsable then { fault := .staleSample }
  else if !sameIdentity request.previous request.current then { fault := .fencedSample }
  else if request.current.sequence ≤ request.previous.sequence ∨
      request.current.gapEpoch ≠ request.previous.gapEpoch then { fault := .revisionGap }
  else match difference request.current.observedAt request.previous.observedAt with
    | none => { fault := .overflow }
    | some span =>
      if span.nanos < 0 ∨ span.nanos = 0 then { fault := .nonMonotonicTime }
      else if span.nanos > request.maxWindow.nanos then { fault := .windowTooLarge }
      else deltaOver request.previous request.current span

/-- Derives a rate and a utilization from two samples of a cumulative counter. -/
def deriveUtilization (request : DerivationRequest) : DerivationResult :=
  if request.capacityBps = 0 then { fault := .missingCapacity }
  else
    let deltaResult := deriveDelta request
    if !deltaResult.valid then
      { fault := deltaResult.fault
        discontinuity := deltaResult.discontinuity
        window := deltaResult.window }
    else match checkedMul deltaResult.delta 8 with
      | none => { fault := .overflow }
      | some bits =>
        let result : DerivationResult :=
          { deltaBytes := deltaResult.delta
            window := deltaResult.window
            discontinuity := deltaResult.discontinuity }
        let windowNs := deltaResult.window.nanos.toUInt64
        match checkedMulDiv bits 1000000000 windowNs with
        | none => { result with fault := .overflow }
        | some rate =>
          let result := { result with bitsPerSecond := rate }
          let numerator := u128MulU64 bits 1000000000000000000
          let denominator := u128MulU64 request.capacityBps windowNs
          if denominator.isZero then { result with fault := .missingCapacity }
          else match u128DivU128 numerator denominator with
            | none => { result with fault := .overflow }
            | some utilization => { result with utilizationPpb := utilization, valid := true }

/-- Errors or discards per octet in parts per billion; `none` when the ratio is not defined. -/
def ratioPpb (numerator denominator : UInt64) : Option UInt64 :=
  if denominator = 0 then none
  else if numerator = 0 then some 0
  else u128DivU64 (u128MulU64 numerator 1000000000) denominator

end LinkObservatory
