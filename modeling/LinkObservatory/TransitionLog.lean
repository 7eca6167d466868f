import LinkObservatory.Observation
import LinkObservatory.Lib.Ring
import LinkObservatory.Lib.OrderedMap

namespace LinkObservatory
set_option autoImplicit true

open Std

structure TransitionEvent where
  id : TransitionId := {}
  link : LinkId := {}
  kind : TransitionKind := .linkRegistered
  at_ : TimePoint := {}
  generation : GenerationId := {}
  source : SourceId := {}
  fromText : Bytes := []
  toText : Bytes := []
  detail : UInt64 := 0
deriving DecidableEq, Repr, Inhabited

/-- Content identity of a transition. -/
def computeTransitionId (event : TransitionEvent) : TransitionId :=
  let builder := HashBuilder.addStr {} (ascii "transition-v1")
  let builder := builder.addHash event.link.hash
  let builder := builder.addU8 event.kind.code
  let builder := builder.addI64 event.at_.nanos
  let builder := builder.addHash event.generation.hash
  let builder := builder.addHash event.source.hash
  let builder := builder.addStr event.fromText
  let builder := builder.addStr event.toText
  let builder := builder.addU64 event.detail
  .fromHash builder.finish

/-- The event as the log keeps it: texts cut to 64 bytes, identity recomputed. -/
def TransitionEvent.normalize (event : TransitionEvent) : TransitionEvent :=
  let event := { event with fromText := event.fromText.take 64, toText := event.toText.take 64 }
  { event with id := computeTransitionId event }

structure TransitionLog where
  limits : Limits
  global : List TransitionEvent := []
  perLink : ExtTreeMap LinkId (List TransitionEvent) StrongId.compare := ∅
  totalRecords : Nat := 0
  dropped : UInt64 := 0

namespace TransitionLog

/-- Appends an event to its link's ring and to the global one; evictions are counted. -/
def record (log : TransitionLog) (event : TransitionEvent) : TransitionLog :=
  let event := event.normalize
  let bucket := log.perLink.getD event.link []
  let perLinkBound := log.limits.maxTransitionsPerLink.toNat
  let globalBound := log.limits.maxTotalTransitions.toNat
  { log with
    perLink := log.perLink.insert event.link (Ring.push perLinkBound bucket event)
    global := Ring.push globalBound log.global event
    totalRecords := log.totalRecords + 1
    dropped := log.dropped + UInt64.ofNat (bucket.length + 1 - perLinkBound)
      + UInt64.ofNat (log.global.length + 1 - globalBound) }

/-- The newest `limit` elements of a ring, at most a page of results. -/
def newest (log : TransitionLog) (limit : UInt64) (ring : List TransitionEvent) :
    List TransitionEvent :=
  let bound := if limit < log.limits.maxResultRows then limit else log.limits.maxResultRows
  ring.drop (ring.length - bound.toNat)

def forLink (log : TransitionLog) (link : LinkId) (limit : UInt64) : List TransitionEvent :=
  log.newest limit (log.perLink.getD link [])

def recent (log : TransitionLog) (limit : UInt64) : List TransitionEvent :=
  log.newest limit log.global

def eventsFor (log : TransitionLog) (link : LinkId) : Nat := (log.perLink.getD link []).length

def clear (log : TransitionLog) : TransitionLog := { limits := log.limits }

end TransitionLog

end LinkObservatory
