import LinkObservatory.Observatory
import LinkObservatory.Text

namespace LinkObservatory
set_option autoImplicit true

def Freshness.toString : Freshness → Bytes
  | .unknown => ascii "unknown"
  | .fresh => ascii "fresh"
  | .stale => ascii "stale"
  | .expired => ascii "expired"

def Completeness.toString : Completeness → Bytes
  | .unknown => ascii "unknown"
  | .complete => ascii "complete"
  | .incomplete => ascii "incomplete"

def Confidence.toString : Confidence → Bytes
  | .unknown => ascii "unknown"
  | .low => ascii "low"
  | .medium => ascii "medium"
  | .high => ascii "high"

/-- One line of fields about a classification. -/
def summarize (classification : Classification) : Bytes :=
  ascii "link=" ++ classification.link.toString ++
    ascii " state=" ++ classification.state.toString ++
    ascii " freshness=" ++ classification.freshness.toString ++
    ascii " completeness=" ++ classification.completeness.toString ++
    ascii " confidence=" ++ classification.confidence.toString ++
    ascii " generation=" ++ classification.generation.toString ++
    ascii " decided-at=" ++ toDecI64 classification.decidedAt.nanos ++
    ascii " families=" ++ toDec (UInt64.ofNat classification.families.length)

/-- The links that own a slot, each once, in the order of the slots. -/
def EvidenceStore.linksWithEvidence (store : EvidenceStore) : List LinkId :=
  store.slots.keys.foldl
    (fun links slotKey => if slotKey.link ∈ links then links else links ++ [slotKey.link]) []

def Observatory.classifyAll (σ : Observatory) (instant : TimePoint) : List Classification :=
  σ.store.linksWithEvidence.map fun link =>
    LinkObservatory.classify (σ.classificationInput link instant)

/-- The answer to a state query: one link by its name or, without a name, every link. -/
def stateReport (σ : Observatory) (instant : TimePoint) (linkName : Bytes) : Bytes :=
  let links :=
    if linkName = [] then
      (σ.classifyAll instant).flatMap fun classification => summarize classification ++ [newline]
    else match σ.classify (deriveLinkId linkName) instant with
      | none => ascii "link=" ++ linkName ++ ascii " state=absent\n"
      | some classification =>
        ascii "name=" ++ linkName ++ ascii " " ++ summarize classification ++ [newline]
  links ++ ascii "runtime accepted=" ++ toDec σ.stats.recordsAccepted ++
    ascii " fenced=" ++ toDec σ.stats.recordsFenced ++
    ascii " state-changes=" ++ toDec σ.stats.stateChanges ++ [newline]

end LinkObservatory
