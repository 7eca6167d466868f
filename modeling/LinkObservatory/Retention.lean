import LinkObservatory.Authority
import LinkObservatory.Conflict
import LinkObservatory.Lineage

namespace LinkObservatory
set_option autoImplicit true

open Std Selection

/-- The observations accepted into a slot, oldest first. -/
def acceptedInto (slotKey : SlotKey) (log : List Decision) : List Observation :=
  (log.filter fun decision => decision.2.accepted &&
    SlotKey.mk decision.1.link decision.1.key == slotKey).map Prod.fst

theorem acceptedInto_append (slotKey : SlotKey) (log more : List Decision) :
    acceptedInto slotKey (log ++ more) = acceptedInto slotKey log ++ acceptedInto slotKey more := by
  unfold acceptedInto
  rw [List.filter_append, List.map_append]

theorem mem_acceptedInto (h : observation ∈ acceptedInto slotKey log) :
    ∃ decision ∈ log, decision.1 = observation ∧
      AcceptedFor observation.provenance.source slotKey decision := by
  obtain ⟨decision, hmem, rfl⟩ := List.mem_map.1 h
  obtain ⟨hlogged, haccepted⟩ := List.mem_filter.1 hmem
  obtain ⟨htrue, hkey⟩ := Bool.and_eq_true_iff.1 haccepted
  exact ⟨decision, hlogged, rfl, htrue, rfl, beq_iff_eq.1 hkey⟩

/-- A slot retains the latest of the observations accepted into it, up to the bound. -/
def Recalls (policy : Policy) (log : List Decision) (store : EvidenceStore) : Prop :=
  ∀ slotKey : SlotKey, (store.slotFor slotKey).history.map Evidence.observation =
    Ring.evict policy.limits.maxEvidencePerKey.toNat (acceptedInto slotKey log)

theorem Recalls.accept {store : EvidenceStore} (h : Recalls store.policy log store)
    (observation : Observation) (context : AcceptContext) (now : TimePoint) :
    Recalls store.policy (log ++ [(observation, (store.accept observation context now).2)])
      (store.accept observation context now).1 := by
  intro slotKey
  have hbefore := h slotKey
  rw [acceptedInto_append]
  rcases Lineage.slotFor_accept observation context now slotKey with
    ⟨hno, hslot⟩ | ⟨haccepted, hkey, -, record, hrecords⟩
  · have hnone : acceptedInto slotKey [(observation, (store.accept observation context now).2)] =
        [] := by
      unfold acceptedInto
      rw [List.filter_singleton, Bool.cond_eq_ite, if_neg (by simpa using hno)]
      rfl
    rw [hslot, hnone, List.append_nil]
    exact hbefore
  · have hone : acceptedInto slotKey [(observation, (store.accept observation context now).2)] =
        [observation] := by
      unfold acceptedInto
      rw [List.filter_singleton, Bool.cond_eq_ite, if_pos (by simp [haccepted, hkey])]
      rfl
    rw [hone, hrecords.history, Ring.push, Ring.map_evict, List.map_append, hbefore]
    exact Ring.push_evict _ _ _

namespace Observatory

theorem Reached.recalls {config : RuntimeConfig} (h : Reached config log σ) :
    Recalls config.policy log σ.store := by
  refine h.store_induction ?_ ?_ ?_ ?_
  · intro slotKey
    simp [EvidenceStore.slotFor, acceptedInto, Ring.evict]
  · intro log store observation context instant hpolicy ih
    rw [← hpolicy] at ih ⊢
    exact ih.accept observation context instant
  · intro log store observation reason ih slotKey
    rw [acceptedInto_append]
    have hnone : acceptedInto slotKey [(observation, { fence := reason })] = [] := rfl
    rw [hnone, List.append_nil]
    exact ih slotKey
  · intro log store store' hslots hstreams ih slotKey
    have hslot : store'.slotFor slotKey = store.slotFor slotKey := by
      rw [EvidenceStore.slotFor, EvidenceStore.slotFor, hslots]
    rw [hslot]
    exact ih slotKey

theorem Reached.still_retained {config : RuntimeConfig}
    (h : Reached config (before ++ last :: after) σ) (haccepted : AcceptedFor source slotKey last)
    (hroom : (acceptedInto slotKey after).length < config.policy.limits.maxEvidencePerKey.toNat) :
    ∃ older item newer, (σ.store.slotFor slotKey).history = older ++ item :: newer ∧
      item.observation = last.1 ∧ newer.map Evidence.observation = acceptedInto slotKey after := by
  have hrecalls := h.recalls slotKey
  have hone : acceptedInto slotKey [last] = [last.1] := by
    unfold acceptedInto
    rw [List.filter_singleton, Bool.cond_eq_ite,
      if_pos (by simp [haccepted.1, haccepted.2.2])]
    rfl
  have hlog : acceptedInto slotKey (before ++ last :: after) =
      acceptedInto slotKey before ++ last.1 :: acceptedInto slotKey after := by
    rw [← List.singleton_append, acceptedInto_append, acceptedInto_append, hone]
    rfl
  rw [hlog, Ring.evict_eq_drop, List.drop_append_of_le_length (by simp; omega)] at hrecalls
  obtain ⟨older, rest, hhistory, -, hrest⟩ := List.map_eq_append_iff.1 hrecalls
  obtain ⟨item, newer, rfl, hitem, hnewer⟩ := List.map_eq_cons_iff.1 hrest
  exact ⟨older, item, newer, hhistory, hitem, hnewer⟩

/-- An observation may speak for the present: it is fresh, in the scope its source is in, and in the
current generation of its link. -/
structure Speaks (σ : Observatory) (observation : Observation) (now : TimePoint) : Prop where
  fresh : classifyFreshness (ageEvidence { observation := observation } now)
    (freshnessPolicyFor σ.config.policy observation.key.family) = .fresh
  scope : ∃ stream, σ.store.streams[observation.provenance.source]? = some stream ∧
    stream.hasScope = true ∧ stream.scope = scopeOf observation.provenance
  generation : observation.provenance.generation = σ.registry.currentGeneration observation.link

/-- The key is reported with a value, and its winner has at least the authority of the source. -/
def Upholds (σ : Observatory) (source : SourceId) (slotKey : SlotKey) (now : TimePoint) : Prop :=
  ∃ classification, σ.classify slotKey.link now = some classification ∧
    (∃ report ∈ classification.families, report.key = slotKey.key) ∧
    ∀ report ∈ classification.families, report.key = slotKey.key → report.hasValue = true ∧
      ∃ record winner, σ.registry.sources[source]? = some record ∧
        σ.registry.sources[report.winnerSource]? = some winner ∧
        record.authority.code ≤ winner.authority.code

/-- Evidence of an observation that may speak for the present is eligible. -/
theorem Speaks.eligible {σ : Observatory} (h : σ.Speaks item.observation now)
    (hpolicy : σ.store.policy = σ.config.policy) :
    (σ.store.evaluateEvidence item.observation.link item.observation.key
      (σ.classificationInput item.observation.link now).context item).eligible = true := by
  obtain ⟨stream, hstream, hhas, hscope⟩ := h.scope
  have hfresh := h.fresh
  rw [← hpolicy] at hfresh
  have hcurrent : σ.store.scopeCurrent item = true := by
    unfold EvidenceStore.scopeCurrent
    rw [hstream]
    simp [hhas, hscope]
  unfold EvidenceStore.evaluateEvidence
  simp only [Bool.and_eq_true, beq_iff_eq]
  refine ⟨⟨hfresh, hcurrent⟩, ?_⟩
  rw [Bool.or_eq_true, beq_iff_eq]
  exact .inr h.generation

theorem contender_retained {store : EvidenceStore}
    (h : contender ∈ store.contenders link key context) :
    ∃ slot, store.slots[SlotKey.mk link key]? = some slot ∧
      contender.evidence ∈ slot.history := by
  obtain ⟨slot, evidence, hslot, rfl, -, newer, older, hsplit, -⟩ :=
    EvidenceStore.contenders_newest h
  refine ⟨slot, hslot, List.mem_reverse.1 ?_⟩
  rw [hsplit]
  exact List.mem_append_right _ (List.mem_cons_self ..)

theorem Reached.upholds {config : RuntimeConfig} (h : Reached config log σ)
    {contender : EvaluatedEvidence} (slotKey : SlotKey)
    (hmem : contender ∈ σ.store.contenders slotKey.link slotKey.key
      (σ.classificationInput slotKey.link now).context)
    (heligible : contender.eligible = true) : σ.Upholds contender.source slotKey now := by
  obtain ⟨slot, hslot, hretained⟩ := contender_retained hmem
  have hlinked := h.slotsLinked _ _ hslot
  have hanswer : σ.classify slotKey.link now =
      some (LinkObservatory.classify (σ.classificationInput slotKey.link now)) := by
    unfold Observatory.classify LinkRegistry.findLink
    rw [if_neg]
    simp [Option.isNone_iff_eq_none, Option.isSome_iff_ne_none.1 hlinked]
  have hdistinct := σ.store.contenders_nodup slotKey.link slotKey.key
    (σ.classificationInput slotKey.link now).context
  obtain ⟨record, hrecord, hauthority, -⟩ := h.evidenceTagged _ _ hslot _ hretained
  refine ⟨_, hanswer, ?_, ?_⟩
  · refine ⟨_, List.mem_map.2 ⟨_, List.mem_map.2 ⟨slotKey.key, reportedKeys_of_contender hmem, rfl⟩,
      rfl⟩, ?_⟩
    rw [(FamilyReport.withRatio_kept _ _).1, evaluateKey_key]
  · intro report hreport hkey
    obtain ⟨key, -, ratio, rfl⟩ := classify_families hreport
    obtain ⟨hkeptKey, hkeptSource, -, hkeptValue, -⟩ := FamilyReport.withRatio_kept
      (evaluateKey (σ.classificationInput slotKey.link now) key).report ratio
    rw [hkeptKey, evaluateKey_key] at hkey
    subst hkey
    cases hwinner : selectWinner (σ.store.contenders slotKey.link slotKey.key
        (σ.classificationInput slotKey.link now).context) with
    | none =>
      rw [(selectWinner_none_iff hdistinct).1 hwinner contender hmem] at heligible
      cases heligible
    | some winner =>
      have hselected : selectWinner ((σ.classificationInput slotKey.link now).store.contenders
          slotKey.link slotKey.key (σ.classificationInput slotKey.link now).context) =
            some winner := hwinner
      obtain ⟨hsource, -, hvalue, -⟩ := evaluateKey_some hselected
      have htop := selectWinner_top hdistinct hwinner
      obtain ⟨winnerSlot, hwinnerSlot, hwinnerRetained⟩ := contender_retained htop.1
      obtain ⟨winning, hwinning, hwinningAuthority, -⟩ :=
        h.evidenceTagged _ _ hwinnerSlot _ hwinnerRetained
      rw [hkeptValue, hkeptSource, hsource]
      refine ⟨hvalue, record, winning, hrecord, hwinning, ?_⟩
      rw [← hauthority, ← hwinningAuthority]
      exact htop.2.2 contender hmem heligible

/-- A fresh reading of the current scope and generation is upheld by the report while the slot has
accepted fewer later observations than it retains, of fewer sources than are considered. -/
theorem Reached.not_displaced {config : RuntimeConfig}
    (h : Reached config (before ++ last :: after) σ) (now : TimePoint)
    (haccepted : AcceptedFor source slotKey last)
    (hlatest : ∀ decision ∈ after, ¬AcceptedFor source slotKey decision)
    (hspeaks : σ.Speaks last.1 now)
    (hretained : (acceptedInto slotKey after).length < config.policy.limits.maxEvidencePerKey.toNat)
    (hconsidered : ((acceptedInto slotKey after).map fun observation =>
      observation.provenance.source).dedup.length <
        max 1 config.policy.limits.maxContendersPerKey.toNat) :
    σ.Upholds source slotKey now := by
  obtain ⟨hs, hconfig⟩ := h.sound
  obtain ⟨older, item, newer, hhistory, hitem, hnewer⟩ := h.still_retained haccepted hretained
  obtain ⟨-, rfl, rfl⟩ := haccepted
  rw [← hitem] at hspeaks hlatest hhistory hnewer hretained hconsidered ⊢
  have hslot : ∃ slot, σ.store.slots[SlotKey.mk item.observation.link item.observation.key]? =
      some slot ∧ slot.history = older ++ item :: newer := by
    unfold EvidenceStore.slotFor at hhistory
    rw [ExtTreeMap.getD_eq_getD_getElem?] at hhistory
    cases hslot : σ.store.slots[SlotKey.mk item.observation.link item.observation.key]? with
    | none => simp [hslot] at hhistory
    | some slot =>
      rw [hslot] at hhistory
      exact ⟨slot, rfl, hhistory⟩
  obtain ⟨slot, hslot, hslotHistory⟩ := hslot
  have hsources : newer.map Evidence.source =
      (acceptedInto ⟨item.observation.link, item.observation.key⟩ after).map fun observation =>
        observation.provenance.source := by
    rw [← hnewer, List.map_map]
    rfl
  have hnew : item.source ∉ newer.reverse.map Evidence.source := by
    intro hmem
    rw [List.map_reverse, List.mem_reverse, hsources] at hmem
    obtain ⟨observation, hobservation, heq⟩ := List.mem_map.1 hmem
    obtain ⟨decision, hdecision, -, hfor⟩ := mem_acceptedInto hobservation
    rw [heq] at hfor
    exact hlatest decision hdecision hfor
  have hroom : (newer.reverse.map Evidence.source).dedup.length <
      max 1 σ.store.policy.limits.maxContendersPerKey.toNat := by
    rw [List.map_reverse, ((List.reverse_perm _).dedup).length_eq, hsources, hs.storePolicy, hconfig]
    exact hconsidered
  have hcontender : σ.store.evaluateEvidence item.observation.link item.observation.key
      (σ.classificationInput item.observation.link now).context item ∈
        σ.store.contenders item.observation.link item.observation.key
          (σ.classificationInput item.observation.link now).context := by
    rw [EvidenceStore.contenders_eq hslot, hslotHistory, List.reverse_append, List.reverse_cons,
      List.append_assoc, List.singleton_append]
    exact List.mem_map_of_mem (mem_take_firstOfEach Evidence.source _ _ _ hnew hroom)
  exact h.upholds ⟨item.observation.link, item.observation.key⟩ hcontender
    (hspeaks.eligible hs.storePolicy)

/-- Decides whether an observation may speak for the present. -/
def speaks (σ : Observatory) (observation : Observation) (now : TimePoint) : Bool :=
  classifyFreshness (ageEvidence { observation := observation } now)
      (freshnessPolicyFor σ.config.policy observation.key.family) == .fresh &&
    (σ.store.streams[observation.provenance.source]?).any (fun stream =>
      stream.hasScope && stream.scope == scopeOf observation.provenance) &&
    observation.provenance.generation == σ.registry.currentGeneration observation.link

/-- The first decision accepted an observation that may still speak for the present, and no later
one accepted another of its source. -/
def firstSpeaks (σ : Observatory) (log : List Decision) (source : SourceId) (slotKey : SlotKey)
    (now : TimePoint) : Bool :=
  log.head?.any (fun decision => decision.2.accepted &&
    (decision.1.provenance.source == source &&
      (SlotKey.mk decision.1.link decision.1.key == slotKey && σ.speaks decision.1 now))) &&
    log.tail.all fun decision => decision.1.provenance.source != source

theorem firstSpeaks_sound {σ : Observatory} (h : σ.firstSpeaks log source slotKey now = true) :
    ∃ last, log = [] ++ last :: log.tail ∧ AcceptedFor source slotKey last ∧
      (∀ decision ∈ log.tail, ¬AcceptedFor source slotKey decision) ∧ σ.Speaks last.1 now := by
  obtain ⟨hfirst, hrest⟩ := Bool.and_eq_true_iff.1 h
  obtain ⟨last, hhead, hlast⟩ := (Option.any_eq_true _ _).1 hfirst
  simp only [Bool.and_eq_true, beq_iff_eq] at hlast
  obtain ⟨haccepted, hsource, hkey, hspeaks⟩ := hlast
  refine ⟨last, ?_, ⟨haccepted, hsource, hkey⟩, ?_, ?_⟩
  · rw [List.nil_append]
    exact (List.cons_head?_tail hhead).symm
  · intro decision hmem hfor
    have hne := List.all_eq_true.1 hrest decision hmem
    rw [hfor.2.1] at hne
    simp at hne
  · unfold speaks at hspeaks
    simp only [Bool.and_eq_true, beq_iff_eq] at hspeaks
    obtain ⟨⟨hfresh, hscope⟩, hgeneration⟩ := hspeaks
    obtain ⟨stream, hstream, hcurrent⟩ := (Option.any_eq_true _ _).1 hscope
    simp only [Bool.and_eq_true, beq_iff_eq] at hcurrent
    exact ⟨hfresh, ⟨stream, hstream, hcurrent.1, hcurrent.2⟩, hgeneration⟩

/-- An operational reading of a source on the link `l`. -/
def operOf (source : Bytes) (revision : UInt64) (observedAt : Int64) : ParsedRecord :=
  .observation
    { link := ascii "l", source := source, incarnation := ascii "i", epoch := ascii "e"
      generation := ascii "g", revision := revision, observedAt := observedAt
      receivedAt := observedAt, key := kOperKey, payload := .operState .up }

/-- A primary source reports once, then a secondary one as often as the slot retains. -/
def floodRecords (count : Nat) : List (ParsedRecord × TimePoint) :=
  [(.source { name := ascii "s", authority := .primary, provenance := .synthetic }, ⟨0⟩),
    (.source { name := ascii "t", authority := .secondary, provenance := .synthetic }, ⟨0⟩),
    (.link { name := ascii "l", generation := ascii "g" }, ⟨0⟩),
    (operOf (ascii "s") 1 1, ⟨1⟩)] ++
  (List.range count).map fun index =>
    (operOf (ascii "t") (UInt64.ofNat index + 1) (Int64.ofNat (index + 2)),
      ⟨Int64.ofNat (index + 2)⟩)

/-- The state and the decisions after such a run under the default policy. -/
def flooded (count : Nat) : Observatory :=
  Observatory.run { policy := makeDefaultPolicy } (floodRecords count)

def floodLog (count : Nat) : List Decision :=
  decisionsFrom (fresh { policy := makeDefaultPolicy }) (floodRecords count)

theorem Reached.not_displaced_once :
    (flooded 1).Upholds (.fromName (ascii "s")) ⟨deriveLinkId (ascii "l"), kOperKey⟩ ⟨4⟩ := by
  have hspeaks : (flooded 1).firstSpeaks (floodLog 1) (.fromName (ascii "s"))
      ⟨deriveLinkId (ascii "l"), kOperKey⟩ ⟨4⟩ = true := by
    decide +kernel
  obtain ⟨last, hlog, haccepted, hlatest, hspeaks⟩ := firstSpeaks_sound hspeaks
  have hreached := Reached.run { policy := makeDefaultPolicy } (floodRecords 1)
  rw [show decisionsFrom _ _ = _ from hlog] at hreached
  exact hreached.not_displaced ⟨4⟩ haccepted hlatest hspeaks (by decide +kernel)
    (by decide +kernel)

/-- Sixteen readings of the secondary source evict the one of the primary source, which is still
fresh. -/
theorem Reached.not_displaced_fails :
    ¬ ∀ (config : RuntimeConfig) (before after : List Decision) (last : Decision) (σ : Observatory)
      (now : TimePoint) (source : SourceId) (slotKey : SlotKey),
      Reached config (before ++ last :: after) σ → AcceptedFor source slotKey last →
      (∀ decision ∈ after, ¬AcceptedFor source slotKey decision) → σ.Speaks last.1 now →
      σ.Upholds source slotKey now := by
  intro h
  have hspeaks : (flooded 16).firstSpeaks (floodLog 16) (.fromName (ascii "s"))
      ⟨deriveLinkId (ascii "l"), kOperKey⟩ ⟨20⟩ = true := by
    decide +kernel
  obtain ⟨last, hlog, haccepted, hlatest, hspeaks⟩ := firstSpeaks_sound hspeaks
  have hreached := Reached.run { policy := makeDefaultPolicy } (floodRecords 16)
  rw [show decisionsFrom _ _ = _ from hlog] at hreached
  have hlost : ((flooded 16).classify (deriveLinkId (ascii "l")) ⟨20⟩).all (fun classification =>
      classification.families.all fun report => report.key != kOperKey ||
        ((flooded 16).registry.sources[(.fromName (ascii "s") : SourceId)]?).all (fun record =>
          ((flooded 16).registry.sources[report.winnerSource]?).all fun winner =>
            decide (winner.authority.code < record.authority.code))) = true := by
    decide +kernel
  obtain ⟨classification, hanswer, ⟨report, hreport, hkey⟩, hupholds⟩ :=
    h _ _ _ _ (flooded 16) ⟨20⟩ _ _ hreached haccepted hlatest hspeaks
  obtain ⟨-, record, winner, hrecord, hwinner, hle⟩ := hupholds report hreport hkey
  rw [hanswer] at hlost
  have hlower := List.all_eq_true.1 hlost report hreport
  rw [hkey, hrecord, hwinner] at hlower
  simp only [bne_self_eq_false, Bool.false_or, Option.all_some, decide_eq_true_eq] at hlower
  exact absurd hlower (UInt8.not_lt.2 hle)

end Observatory

end LinkObservatory
