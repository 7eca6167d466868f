import LinkObservatory.Conflict
import LinkObservatory.Effect

namespace LinkObservatory
set_option autoImplicit true

open Std

/-- Two stores that look the same to every query about a link. -/
structure EvidenceStore.SameFor (link : LinkId) (store store' : EvidenceStore) : Prop where
  policy : store'.policy = store.policy
  slots : ∀ key : MetricKey, store'.slots[SlotKey.mk link key]? = store.slots[SlotKey.mk link key]?
  streams : ∀ (key : MetricKey) slot, store.slots[SlotKey.mk link key]? = some slot →
    ∀ evidence ∈ slot.history, store'.streams[evidence.source]? = store.streams[evidence.source]?

theorem collectContenders_congr {evaluate evaluate' : Evidence → EvaluatedEvidence}
    (h : ∀ item ∈ items, evaluate' item = evaluate item) :
    collectContenders bound evaluate' items seen out =
      collectContenders bound evaluate items seen out := by
  induction items generalizing seen out with
  | nil => rfl
  | cons item items ih =>
    have hrest := fun other hmem => h other (List.mem_cons_of_mem item hmem)
    rw [collectContenders, collectContenders, h item (List.mem_cons_self ..)]
    simp only [ih hrest]

namespace EvidenceStore

section

variable {store store' : EvidenceStore} {link : LinkId} (h : SameFor link store store')

include h

theorem SameFor.completeness (key : MetricKey) (now : TimePoint) :
    store'.completeness link key now = store.completeness link key now := by
  unfold EvidenceStore.completeness
  rw [h.slots, h.policy]

theorem SameFor.contenders (key : MetricKey) (context : EvaluationContext) :
    store'.contenders link key context = store.contenders link key context := by
  unfold EvidenceStore.contenders
  rw [h.slots, h.policy]
  cases hslot : store.slots[SlotKey.mk link key]? with
  | none => rfl
  | some slot =>
    apply collectContenders_congr
    intro item hmem
    have hstream := h.streams key slot hslot item (List.mem_reverse.1 hmem)
    unfold evaluateEvidence EvidenceStore.scopeCurrent
    rw [show store'.streams[item.observation.provenance.source]? = _ from hstream, h.policy,
      h.completeness]
    rfl

theorem SameFor.slotView (key : MetricKey) (now : TimePoint) :
    store'.slotView link key now = store.slotView link key now := by
  unfold EvidenceStore.slotView
  rw [h.slots, h.completeness]

theorem SameFor.continuity (key : MetricKey) (source : SourceId) :
    store'.continuity link key source = store.continuity link key source := by
  unfold EvidenceStore.continuity
  rw [h.slots]

theorem SameFor.mem_keysFor (key : MetricKey) :
    key ∈ store'.keysFor link ↔ key ∈ store.keysFor link := by
  have hmem (kept : EvidenceStore) :
      key ∈ kept.keysFor link ↔ (kept.slots[SlotKey.mk link key]?).isSome := by
    unfold keysFor
    rw [List.mem_map]
    constructor
    · rintro ⟨slotKey, hslot, rfl⟩
      obtain ⟨hkey, hlink⟩ := List.mem_filter.1 hslot
      rw [ExtTreeMap.mem_keys, ExtTreeMap.mem_iff_isSome_getElem?] at hkey
      rw [← beq_iff_eq.1 hlink]
      exact hkey
    · intro hslot
      refine ⟨SlotKey.mk link key, List.mem_filter.2 ⟨?_, beq_self_eq_true _⟩, rfl⟩
      rw [ExtTreeMap.mem_keys, ExtTreeMap.mem_iff_isSome_getElem?]
      exact hslot
  rw [hmem, hmem, h.slots]

theorem SameFor.reportedKeys : reportedKeys store' link = reportedKeys store link := by
  have hensure {keys keys' : List MetricKey} (hperm : keys'.Perm keys) (key : MetricKey) :
      (if key ∈ keys' then keys' else keys' ++ [key]).Perm
        (if key ∈ keys then keys else keys ++ [key]) := by
    simp only [hperm.mem_iff]
    split
    · exact hperm
    · exact hperm.append_right _
  have hkeys : (store'.keysFor link).Perm (store.keysFor link) := by
    rw [List.perm_ext_iff_of_nodup (store'.keysFor_nodup link) (store.keysFor_nodup link)]
    exact h.mem_keysFor
  have hperm : (LinkObservatory.reportedKeys store' link).Perm
      (LinkObservatory.reportedKeys store link) := by
    unfold LinkObservatory.reportedKeys
    exact ((List.perm_insertionSort _ _).trans (hensure (hensure (hensure hkeys _) _) _)).trans
      (List.perm_insertionSort _ _).symm
  apply hperm.eq_of_pairwise _ (reportedKeys_sorted store' link) (reportedKeys_sorted store link)
  intro a b _ _ hab hba
  exact LawfulEqCmp.eq_of_compare (OrientedCmp.isLE_antisymm hab hba)

end

end EvidenceStore

theorem conflictOf_congr {derivedOf derivedOf' : SourceId → Derived}
    {contenders : List EvaluatedEvidence}
    (h : ∀ contender ∈ contenders, derivedOf' contender.source = derivedOf contender.source)
    (key : MetricKey) (winner : Option Derived) (tolerancePpb : UInt64) :
    conflictOf key winner derivedOf' tolerancePpb contenders =
      conflictOf key winner derivedOf tolerancePpb contenders := by
  have hrun (scan : ConflictScan) (top : List EvaluatedEvidence)
      (htop : ∀ contender ∈ top, derivedOf' contender.source = derivedOf contender.source) :
      ConflictScan.run key winner derivedOf' tolerancePpb scan top =
        ConflictScan.run key winner derivedOf tolerancePpb scan top := by
    induction top generalizing scan with
    | nil => rfl
    | cons lhs rest ih =>
      have hrest := fun other hmem => htop other (List.mem_cons_of_mem lhs hmem)
      have hfold : rest.foldl (fun scan rhs => scan.pair key winner derivedOf' tolerancePpb lhs rhs)
          scan =
          rest.foldl (fun scan rhs => scan.pair key winner derivedOf tolerancePpb lhs rhs) scan := by
        apply List.foldl_ext
        intro held rhs hmem
        unfold ConflictScan.pair
        rw [hrest rhs hmem]
      rw [ConflictScan.run, ConflictScan.run, hfold, ih _ hrest]
  unfold conflictOf
  simp only
  rw [hrun]
  intro contender hmem
  exact h contender (List.mem_of_mem_filter hmem)

theorem SameFor_streams_of_contender {store store' : EvidenceStore} {link : LinkId}
    (h : EvidenceStore.SameFor link store store')
    (hmem : contender ∈ store.contenders link key context) :
    store'.streams[contender.source]? = store.streams[contender.source]? := by
  obtain ⟨slot, evidence, hslot, rfl, -, newer, older, hsplit, -⟩ :=
    EvidenceStore.contenders_newest hmem
  apply h.streams key slot hslot evidence
  rw [← List.mem_reverse, hsplit]
  exact List.mem_append_right _ (List.mem_cons_self ..)

namespace ClassificationInput

/-- The same question put to another store and log. -/
def putTo (input : ClassificationInput) (store : EvidenceStore) (log : TransitionLog) :
    ClassificationInput :=
  { input with store := store, transitions := log }

section

variable (input : ClassificationInput) (store : EvidenceStore) (log : TransitionLog)

@[simp] theorem putTo_store : (input.putTo store log).store = store := rfl

@[simp] theorem putTo_transitions : (input.putTo store log).transitions = log := rfl

@[simp] theorem putTo_link : (input.putTo store log).link = input.link := rfl

@[simp] theorem putTo_now : (input.putTo store log).now = input.now := rfl

@[simp] theorem putTo_policy : (input.putTo store log).policy = input.policy := rfl

@[simp] theorem putTo_context : (input.putTo store log).context = input.context := rfl

@[simp] theorem putTo_facts : (input.putTo store log).facts = input.facts := rfl

end

section

variable {input : ClassificationInput} {store : EvidenceStore} {log : TransitionLog}
  (h : EvidenceStore.SameFor input.link input.store store)

include h

theorem derivedForKey_local (key : MetricKey) (source : SourceId)
    (hstream : store.streams[source]? = input.store.streams[source]?) :
    (input.putTo store log).derivedForKey key source = input.derivedForKey key source := by
  have hrequest (continuity : CounterContinuity) (generation : GenerationId) (has : Bool) :
      derivationRequest store continuity key source input.policy input.now generation has =
        derivationRequest input.store continuity key source input.policy input.now generation
          has := by
    unfold derivationRequest EvidenceStore.streamState
    rw [hstream]
  unfold derivedForKey deriveFor
  simp only [putTo_store, putTo_link, putTo_now, putTo_policy, putTo_facts, hrequest, h.continuity]
  rfl

theorem evaluateKey_local (key : MetricKey) :
    evaluateKey (input.putTo store log) key = evaluateKey input key := by
  have hbase (contenders : List EvaluatedEvidence) :
      baseReport (input.putTo store log) key contenders = baseReport input key contenders := by
    unfold baseReport
    simp only [putTo_store, putTo_link, putTo_now, h.slotView]
  have hderived (contender : EvaluatedEvidence)
      (hmem : contender ∈ input.store.contenders input.link key input.context) :
      (input.putTo store log).derivedForKey key contender.source =
        input.derivedForKey key contender.source :=
    derivedForKey_local h key _ (SameFor_streams_of_contender h hmem)
  unfold evaluateKey
  simp only [putTo_store, putTo_link, putTo_context, putTo_policy, hbase, h.contenders,
    h.continuity, conflictOf_congr hderived]
  cases hwinner : selectWinner (input.store.contenders input.link key input.context) with
  | none => rfl
  | some winner =>
    have hwins := hderived winner (selectWinner_mem hwinner).1
    have hsource (report : FamilyReport) : (report.withWinner winner.evidence).winnerSource =
        winner.source := rfl
    simp only [hsource, hwins]

/-- A classification reads the slots of its link, the streams behind them and the ring of the link;
of the rest it shows only how many events were dropped. -/
theorem classify_local (hlimits : log.limits = input.transitions.limits)
    (hring : log.perLink[input.link]? = input.transitions.perLink[input.link]?) :
    LinkObservatory.classify (input.putTo store log) =
      { LinkObservatory.classify input with droppedTransitions := log.dropped } := by
  have hbucket : log.perLink.getD input.link [] = input.transitions.perLink.getD input.link [] := by
    rw [ExtTreeMap.getD_eq_getD_getElem?, ExtTreeMap.getD_eq_getD_getElem?, hring]
  have hevents (limit : UInt64) :
      log.forLink input.link limit = input.transitions.forLink input.link limit := by
    unfold TransitionLog.forLink TransitionLog.newest
    rw [hbucket, hlimits]
  have hcount : log.eventsFor input.link = input.transitions.eventsFor input.link := by
    unfold TransitionLog.eventsFor
    rw [hbucket]
  have hevaluations : (reportedKeys store input.link).map (evaluateKey (input.putTo store log)) =
      (reportedKeys input.store input.link).map (evaluateKey input) := by
    rw [h.reportedKeys]
    exact List.map_congr_left fun key _ => evaluateKey_local h key
  have hsignals (evaluations : List KeyEvaluation) :
      signalsOf (input.putTo store log) evaluations = signalsOf input evaluations := by
    unfold signalsOf countFlaps
    simp only [putTo_link, putTo_now, putTo_policy, putTo_transitions, hevents]
    rfl
  have hlast : lastKnownState (input.putTo store log) = lastKnownState input := by
    unfold lastKnownState
    simp only [putTo_link, putTo_policy, putTo_transitions, hevents]
  unfold LinkObservatory.classify
  simp only [putTo_store, putTo_link, putTo_now, putTo_transitions, hevaluations, hsignals, hlast,
    hcount]
  rfl

end

end ClassificationInput

end LinkObservatory
