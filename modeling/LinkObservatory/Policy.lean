import LinkObservatory.Clock
import LinkObservatory.Enums

namespace LinkObservatory
set_option autoImplicit true

/-- Freshness windows for one metric family. -/
structure FreshnessPolicy where
  freshWithin : Duration := {}
  usableWithin : Duration := {}
deriving DecidableEq, Repr, Inhabited

/-- Hard bounds on everything that can grow. A bound is a 64-bit `std::size_t`. -/
structure Limits where
  maxLinks : UInt64 := 4096
  maxSources : UInt64 := 256
  maxEvidencePerKey : UInt64 := 16
  maxContendersPerKey : UInt64 := 8
  maxTransitionsPerLink : UInt64 := 256
  maxTotalTransitions : UInt64 := 65536
  maxResultRows : UInt64 := 4096
  maxRecordBytes : UInt64 := 4096
  maxRecordsPerBatch : UInt64 := 4096
  maxIngestQueueDepth : UInt64 := 8192
  maxWorkers : UInt64 := 16
  maxSnapshotBytes : UInt64 := 64 * 1024 * 1024
  maxTransportPayloadBytes : UInt64 := 1024 * 1024
deriving DecidableEq, Repr, Inhabited

/-- Decision thresholds; every ratio is an integer number of parts per billion. -/
structure StateThresholds where
  saturationPpb : UInt64 := 900000000
  degradedQualityPpb : UInt64 := 500000000
  errorRatioPpb : UInt64 := 1000000
  conflictTolerancePpb : UInt64 := 50000000
  discardRatioPpb : UInt64 := 10000000
  flapThreshold : UInt32 := 4
  flapWindow : Duration := {}
  derivationWindow : Duration := {}
  maxHistoryWindow : Duration := {}
deriving DecidableEq, Repr, Inhabited

structure Policy where
  freshness : MetricFamily → FreshnessPolicy := fun _ => {}
  thresholds : StateThresholds := {}
  limits : Limits := {}
  allowImplicitLinks : Bool := false

def makeFreshness (freshSeconds usableSeconds : Int64) : FreshnessPolicy :=
  { freshWithin := .fromSeconds freshSeconds, usableWithin := .fromSeconds usableSeconds }

def makeDefaultPolicy : Policy :=
  { freshness := fun
      | .adminState => makeFreshness 30 300
      | .operState => makeFreshness 30 300
      | .octets => makeFreshness 30 300
      | .errors => makeFreshness 60 600
      | .discards => makeFreshness 60 600
      | .utilReported => makeFreshness 30 300
      | .signalQuality => makeFreshness 60 600
      | .flapReport => makeFreshness 120 1200
    thresholds :=
      { flapWindow := .fromSeconds 60
        derivationWindow := .fromSeconds 300
        maxHistoryWindow := .fromSeconds 3600 } }

def freshnessPolicyFor (policy : Policy) (family : MetricFamily) : FreshnessPolicy :=
  policy.freshness family

def fullScalePpb : UInt64 := 1000000000

/-- The first failing check of a list decides the status. -/
def firstFailure : List (Bool × String) → Status
  | [] => .success
  | (passed, message) :: checks =>
    if passed then firstFailure checks else .of .invalidArgument message

def freshnessChecks (entry : FreshnessPolicy) : List (Bool × String) :=
  [(0 < entry.freshWithin.nanos, "freshness fresh window must be positive"),
    (entry.freshWithin.nanos < entry.usableWithin.nanos,
      "freshness usable window must exceed the fresh window")]

def thresholdChecks (thresholds : StateThresholds) : List (Bool × String) :=
  [(thresholds.saturationPpb ≠ 0 ∧ thresholds.saturationPpb ≤ fullScalePpb,
      "saturation threshold must be in (0, 100%]"),
    (thresholds.degradedQualityPpb ≤ fullScalePpb, "degraded quality threshold must be <= 100%"),
    (thresholds.conflictTolerancePpb ≤ fullScalePpb, "conflict tolerance must be <= 100%"),
    (thresholds.flapThreshold ≠ 0, "flap threshold must be at least one"),
    (0 < thresholds.flapWindow.nanos, "flap window must be positive"),
    (0 < thresholds.derivationWindow.nanos, "derivation window must be positive"),
    (thresholds.derivationWindow.nanos ≤ thresholds.maxHistoryWindow.nanos,
      "history window must not be shorter than the derivation window")]

def limitChecks (limits : Limits) : List (Bool × String) :=
  [(limits.maxLinks > 0, "max_links must be positive"),
    (limits.maxSources > 0, "max_sources must be positive"),
    (limits.maxEvidencePerKey > 0, "max_evidence_per_key must be positive"),
    (limits.maxContendersPerKey > 0, "max_contenders_per_key must be positive"),
    (limits.maxTransitionsPerLink > 0, "max_transitions_per_link must be positive"),
    (limits.maxResultRows > 0, "max_result_rows must be positive"),
    (limits.maxRecordBytes > 0, "max_record_bytes must be positive"),
    (limits.maxRecordsPerBatch > 0, "max_records_per_batch must be positive"),
    (limits.maxIngestQueueDepth > 0, "max_ingest_queue_depth must be positive"),
    (limits.maxWorkers > 0, "max_workers must be positive"),
    (limits.maxSnapshotBytes > 0, "max_snapshot_bytes must be positive"),
    (limits.maxTransportPayloadBytes > 0, "max_transport_payload_bytes must be positive"),
    (limits.maxTransitionsPerLink ≤ limits.maxTotalTransitions,
      "max_total_transitions must not be smaller than the per-link bound")]

def allMetricFamilies : List MetricFamily :=
  [.adminState, .operState, .octets, .errors, .discards, .utilReported, .signalQuality, .flapReport]

/-- Rejects zero windows, inverted freshness bounds, thresholds above 100% and unusable limits. -/
def Policy.validate (policy : Policy) : Status :=
  firstFailure <| (allMetricFamilies.flatMap fun family => freshnessChecks (policy.freshness family))
    ++ thresholdChecks policy.thresholds ++ limitChecks policy.limits

end LinkObservatory
