import LinkObservatory.Lib.LongDivision
import LinkObservatory.Checked
import LinkObservatory.WideArithmetic
import LinkObservatory.Fnv
import LinkObservatory.Identity
import LinkObservatory.Sha256
import LinkObservatory.Sha256Standard
import LinkObservatory.Sha256Stream
import LinkObservatory.Clock
import LinkObservatory.Enums
import LinkObservatory.Policy
import LinkObservatory.Metric
import LinkObservatory.Observation
import LinkObservatory.Link
import LinkObservatory.Evidence
import LinkObservatory.CounterTracker
import LinkObservatory.Freshness
import LinkObservatory.EvidenceQuery
import LinkObservatory.Admission
import LinkObservatory.Refusal
import LinkObservatory.StoreRun
import LinkObservatory.TransitionLog
import LinkObservatory.LinkRegistry
import LinkObservatory.Derivation
import LinkObservatory.Classifier
import LinkObservatory.Observatory
import LinkObservatory.ObservatoryStep
import LinkObservatory.Codec
import LinkObservatory.Snapshot
import LinkObservatory.Rotation
import LinkObservatory.Restart
import LinkObservatory.Topology
import LinkObservatory.Consecutive
import LinkObservatory.Soundness
import LinkObservatory.Recovery
import LinkObservatory.RoundTrip
import LinkObservatory.Lineage
import LinkObservatory.Winner
import LinkObservatory.Lib.Selection
import LinkObservatory.Contenders
import LinkObservatory.Conflict
import LinkObservatory.Rate
import LinkObservatory.DerivedUtilization
import LinkObservatory.Continuity
import LinkObservatory.Utilization
import LinkObservatory.Staleness
import LinkObservatory.Canonical
import LinkObservatory.SelfLoad
import LinkObservatory.History
import LinkObservatory.Recorded
import LinkObservatory.Lib.Tally
import LinkObservatory.Balance
import LinkObservatory.Verdict
import LinkObservatory.Bounds
import LinkObservatory.Generations
import LinkObservatory.Authority
import LinkObservatory.Downgrade
import LinkObservatory.Ratios
import LinkObservatory.Quality
import LinkObservatory.RuleTrace
import LinkObservatory.CounterConflict
import LinkObservatory.Retention
import LinkObservatory.Effect
import LinkObservatory.Locality
import LinkObservatory.Lib.Interchange
import LinkObservatory.Independence
import LinkObservatory.Commutation
import LinkObservatory.Events
import LinkObservatory.Watch
import LinkObservatory.Sustained
import LinkObservatory.Flapping
import LinkObservatory.Totals
import LinkObservatory.Lib.Changes
import LinkObservatory.StateChain
import LinkObservatory.Division
import LinkObservatory.Decimals
import LinkObservatory.LockTracker
import LinkObservatory.IdentityStreams
import LinkObservatory.Presence
import LinkObservatory.Aging
import LinkObservatory.Export
import LinkObservatory.SlotFences
import LinkObservatory.Redeclaration
import LinkObservatory.GenerationEvents
import LinkObservatory.Text
import LinkObservatory.Spelling
import LinkObservatory.Record
import LinkObservatory.Lib.Splitting
import LinkObservatory.Fields
import LinkObservatory.Reading
import LinkObservatory.Grammar
import LinkObservatory.FieldSlots
import LinkObservatory.Formatting
import LinkObservatory.Batch
import LinkObservatory.Frame
import LinkObservatory.Ingest
import LinkObservatory.Lib.Reassembly
import LinkObservatory.StateReport
import LinkObservatory.Connection
import LinkObservatory.Pairing
import LinkObservatory.Client
import LinkObservatory.Lib.LabelledRun
import LinkObservatory.BoundedQueue
import LinkObservatory.WorkerPool
import LinkObservatory.PoolRun
import LinkObservatory.Cancellation
import LinkObservatory.Runtime
import LinkObservatory.Ledger
import LinkObservatory.Application
import LinkObservatory.Completion
import LinkObservatory.Delivery
import LinkObservatory.StartStop
import LinkObservatory.Shutdown
import LinkObservatory.Lib.Population
import LinkObservatory.AcceptLoop
import LinkObservatory.ConnectionBounds
import LinkObservatory.StopRequest
import LinkObservatory.Lib.Condition
import LinkObservatory.QueueMonitor
import LinkObservatory.QueueWakeups
import LinkObservatory.QueueOrder
import LinkObservatory.BatchCompletion
import LinkObservatory.Workload
import LinkObservatory.Progress
import LinkObservatory.Lib.Agreement
import LinkObservatory.JointEffects
import LinkObservatory.Isolation
import LinkObservatory.Resumption
import LinkObservatory.Durability
import LinkObservatory.Conversation
import LinkObservatory.Chunks
import LinkObservatory.Intake
import LinkObservatory.Lib.Rearrangement
import LinkObservatory.RecordOrder
import LinkObservatory.Session
import LinkObservatory.CallOrder
import LinkObservatory.WorkerCount
import LinkObservatory.Steady
