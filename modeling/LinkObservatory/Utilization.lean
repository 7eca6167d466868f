import LinkObservatory.DerivedUtilization

namespace LinkObservatory
set_option autoImplicit true

open Std

/-- The observations of one source that a log accepted for a slot, oldest first. -/
def acceptedObservations (source : SourceId) (slotKey : SlotKey) (log : List Decision) :
    List Observation :=
  (log.filter fun decision => decision.2.accepted && decision.1.provenance.source == source &&
    SlotKey.mk decision.1.link decision.1.key == slotKey).map Prod.fst

theorem acceptedObservations_none
    (h : ∀ decision ∈ log, ¬AcceptedFor source slotKey decision) :
    acceptedObservations source slotKey log = [] := by
  rw [acceptedObservations, List.map_eq_nil_iff, List.filter_eq_nil_iff]
  intro decision hmem haccepted
  refine h decision hmem ?_
  simpa [AcceptedFor, and_assoc] using haccepted

theorem LastAccepted.accepted_eq (h : LastAccepted source slotKey log before last) :
    acceptedObservations source slotKey log =
      acceptedObservations source slotKey before ++ [last.1] := by
  obtain ⟨⟨haccepted, hsource, hslot⟩, after, rfl, hafter⟩ := h
  have hnone := acceptedObservations_none hafter
  rw [acceptedObservations, List.map_eq_nil_iff] at hnone
  rw [acceptedObservations, acceptedObservations, List.filter_append, List.filter_cons, hnone]
  simp [haccepted, hsource, hslot]

/-- What a utilization reported for a link was computed from: the last two observations accepted
from the winning source, and the counter readings they carry. -/
structure DerivedFrom (σ : Observatory) (log : List Decision) (link : LinkId)
    (report : FamilyReport) (first last : Observation) (earlier later : CounterReading) : Prop where
  lastTwo : ∃ older, acceptedObservations report.winnerSource ⟨link, report.key⟩ log =
    older ++ [first, last]
  scope : ∃ stream, σ.store.streamState report.winnerSource = some stream ∧
    stream.hasScope = true ∧ scopeOf first.provenance = stream.scope ∧
    scopeOf last.provenance = stream.scope
  generation : first.provenance.generation = σ.registry.currentGeneration link ∧
    last.provenance.generation = σ.registry.currentGeneration link
  ascending : first.provenance.sequence < last.provenance.sequence
  noLoss : ∀ revision : UInt64, first.provenance.sequence < revision →
    revision < last.provenance.sequence → ∃ decision ∈ log, decision.2.accepted = true ∧
      scopeOf decision.1.provenance = scopeOf first.provenance ∧
      decision.1.provenance.sequence = revision
  window : 0 < last.observedAt.nanos.toInt - first.observedAt.nanos.toInt ∧
    last.observedAt.nanos.toInt - first.observedAt.nanos.toInt ≤
      σ.config.policy.thresholds.derivationWindow.nanos.toInt
  payloads : first.payload = .counter earlier ∧ last.payload = .counter later
  noReset : later.resetDeclared = false
  forward : earlier.raw ≤ later.raw ∨ earlier.TopQuarter
  value : ∃ entry capacity, σ.registry.findLink link = some entry ∧
    capacityFor entry.facts report.key.direction = some capacity ∧ capacity ≠ 0 ∧
    (report.derivedPpb.toNat : Int) = (counterAdvance earlier later * 8 * 10 ^ 18 : Int) /
      (capacity.toNat * (last.observedAt.nanos.toInt - first.observedAt.nanos.toInt))

theorem gapsOf_mono (source : SourceId) (h : log.Sublist more) :
    gapsOf source log ≤ gapsOf source more := List.Sublist.countP_le h

theorem scopeChangesOf_mono (source : SourceId) (h : log.Sublist more) :
    scopeChangesOf source log ≤ scopeChangesOf source more := List.Sublist.countP_le h

theorem gapsOf_le_length (source : SourceId) (log : List Decision) :
    gapsOf source log ≤ log.length := List.countP_le_length

theorem scopeChangesOf_le_length (source : SourceId) (log : List Decision) :
    scopeChangesOf source log ≤ log.length := List.countP_le_length

theorem gapsOf_eq_zero (before : List Decision) (first : Decision) {later : List Decision}
    (hepoch : UInt64.ofNat (gapsOf source (before ++ first :: later)) =
      UInt64.ofNat (gapsOf source (before ++ [first])))
    (hgaps : gapsOf source (before ++ first :: later) < 2 ^ 64) : gapsOf source later = 0 := by
  rw [show before ++ first :: later = (before ++ [first]) ++ later by simp, gapsOf_append]
    at hepoch hgaps
  have hnat := congrArg UInt64.toNat hepoch
  have hfew : gapsOf source (before ++ [first]) < 2 ^ 64 := by omega
  rw [UInt64.toNat_ofNat_of_lt' hgaps, UInt64.toNat_ofNat_of_lt' hfew] at hnat
  omega

theorem sampleUsable_true
    (h : sampleUsable sample now freshness stream currentGeneration hasGeneration = true) :
    ∃ state, stream = some state ∧ state.hasScope = true ∧ sample.scope = state.scope ∧
      (hasGeneration = true → sample.generation = currentGeneration) ∧
      classifySampleFreshness sample now freshness ≠ .expired := by
  unfold sampleUsable at h
  split at h
  · cases h
  · rename_i state
    split at h
    · cases h
    · rename_i hscope
      split at h
      · cases h
      · rename_i hgeneration
        obtain ⟨hhas, hsame⟩ : state.hasScope = true ∧ sample.scope = state.scope := by
          simpa using hscope
        exact ⟨state, rfl, hhas, hsame, by simpa using hgeneration, by simpa using h⟩

theorem deriveFor_hasDelta {store : EvidenceStore}
    (h : (deriveFor store facts link key source direction policy now generation
      hasGeneration).hasUtilization = true) :
    (deriveFor store facts link key source direction policy now generation
      hasGeneration).hasDelta = true := by
  unfold deriveFor at h ⊢
  split at h
  · cases h
  · split at h
    · cases h
    · rename_i hboth
      rw [if_neg hboth]
      exact (deriveRequest_utilization h).1

namespace Observatory

/-- The samples behind a continuity with a previous one: those of the last two observations
accepted from the source. -/
theorem Reached.samples {config : RuntimeConfig} (h : Reached config log σ)
    (hcontinuity : σ.store.continuity link key source = some continuity)
    (hprevious : continuity.hasPrevious = true) (hfamily : isCounterFamily key.family = true) :
    ∃ before first between last earlier later,
      LastAccepted source ⟨link, key⟩ log between last ∧
      LastAccepted source ⟨link, key⟩ between before first ∧
      first.1.payload = .counter earlier ∧ last.1.payload = .counter later ∧ earlier.InRange ∧
      continuity.previous =
        { reading := earlier
          observedAt := first.1.observedAt
          receivedAt := first.1.receivedAt
          sequence := first.1.provenance.sequence
          scope := scopeOf first.1.provenance
          generation := first.1.provenance.generation
          gapEpoch := UInt64.ofNat (gapsOf source (before ++ [first])) } ∧
      continuity.latest =
        { reading := later
          observedAt := last.1.observedAt
          receivedAt := last.1.receivedAt
          sequence := last.1.provenance.sequence
          scope := scopeOf last.1.provenance
          generation := last.1.provenance.generation
          gapEpoch := UInt64.ofNat (gapsOf source (between ++ [last])) } := by
  have hretains := h.lineage.continuity source ⟨link, key⟩ hfamily
  have hstate : (σ.store.slotFor ⟨link, key⟩).continuity.getD source {} = continuity := by
    unfold EvidenceStore.continuity at hcontinuity
    split at hcontinuity
    · cases hcontinuity
    · rename_i slot hslot
      have hsame : σ.store.slotFor ⟨link, key⟩ = slot := by
        rw [EvidenceStore.slotFor, ExtTreeMap.getD_eq_getD_getElem?, hslot, Option.getD_some]
      rw [hsame, ExtTreeMap.getD_eq_getD_getElem?, hcontinuity, Option.getD_some]
  rw [hstate] at hretains
  obtain ⟨before, first, between, last, hlast, hfirst, hcurrent, hbaseline⟩ :=
    hretains.previous hprevious
  have hmemLast : last ∈ log := by
    obtain ⟨-, after, rfl, -⟩ := hlast
    simp
  have hmemFirst : first ∈ log := by
    obtain ⟨-, after, rfl, -⟩ := hlast
    obtain ⟨-, after, rfl, -⟩ := hfirst
    simp
  have hkey {decision : Decision} (haccepted : AcceptedFor source ⟨link, key⟩ decision) :
      isCounterFamily decision.1.key.family = true := by
    obtain ⟨-, -, hslot⟩ := haccepted
    cases hslot
    exact hfamily
  obtain ⟨later, hlater, -, hsample⟩ := counterSampleOf_valid
    (h.lineage.valid last hmemLast hlast.accepted.1) (hkey hlast.accepted) _
  obtain ⟨earlier, hearlier, hrange, hsample'⟩ := counterSampleOf_valid
    (h.lineage.valid first hmemFirst hfirst.accepted.1) (hkey hfirst.accepted) _
  rw [sampleAfter, hsample] at hcurrent
  rw [sampleAfter, hsample'] at hbaseline
  exact ⟨before, first, between, last, earlier, later, hlast, hfirst, hearlier, hlater, hrange,
    (Option.some.inj hbaseline).symm, (Option.some.inj hcurrent).symm⟩

theorem Reached.no_loss {config : RuntimeConfig} (h : Reached config log σ)
    (hlast : LastAccepted source slotKey log between last)
    (hfirst : LastAccepted source slotKey between before first)
    (hscope : scopeOf first.1.provenance = scopeOf last.1.provenance)
    (hepoch : UInt64.ofNat (gapsOf source (between ++ [last])) =
      UInt64.ofNat (gapsOf source (before ++ [first])))
    (hgaps : gapsOf source log < 2 ^ 64)
    (hchanges : scopeChangesOf source log ≤ kMaxRetiredScopes)
    (hlower : first.1.provenance.sequence < revision)
    (hupper : revision < last.1.provenance.sequence) :
    ∃ decision ∈ log, decision.2.accepted = true ∧
      scopeOf decision.1.provenance = scopeOf first.1.provenance ∧
      decision.1.provenance.sequence = revision := by
  obtain ⟨first, outcome⟩ := first
  obtain ⟨last, lastOutcome⟩ := last
  obtain ⟨⟨haccepted, hlastSource, -⟩, after, rfl, -⟩ := hlast
  obtain ⟨⟨hfirstAccepted, hsource, -⟩, later, rfl, -⟩ := hfirst
  simp only at haccepted hlastSource hfirstAccepted hsource hscope hlower hupper ⊢
  subst hsource
  -- the state right after the last of the two was accepted
  obtain ⟨σ', hreached⟩ := h.earlier
    (show _ = (before ++ (first, outcome) :: (later ++ [(last, lastOutcome)])) ++ after by simp)
  have hlineage := hreached.lineage
  have hsublist : (later ++ [(last, lastOutcome)]).Sublist
      (before ++ (first, outcome) :: later ++ (last, lastOutcome) :: after) := by
    simp only [List.append_assoc, List.cons_append]
    exact (((List.Sublist.refl _).append (by simp)).cons _).trans (List.sublist_append_right _ _)
  have hroom := (scopeChangesOf_mono first.provenance.source hsublist).trans hchanges
  obtain ⟨hlastFenced, -⟩ := hlineage.revisions
    (before ++ (first, outcome) :: later) last lastOutcome [] (by simp) haccepted (by simp [scopeChangesOf])
  obtain ⟨-, hunbroken⟩ := hlineage.revisions before first outcome
    (later ++ [(last, lastOutcome)]) rfl hfirstAccepted hroom
  have hforce : (σ'.store.streamFor first.provenance.source).scope =
      scopeOf first.provenance ∧ last.provenance.sequence ≤
        (σ'.store.streamFor first.provenance.source).lastSequence := by
    have hguard := hlastFenced.guard
    rw [hlastSource, ← hscope] at hguard
    cases hguard with
    | inForce _ hin _ hle => exact ⟨hin, UInt64.le_iff_toNat_le.2 hle⟩
    | superseded _ _ _ hnone => simp [scopeChangesOf] at hnone
  have hzero : gapsOf first.provenance.source (later ++ [(last, lastOutcome)]) = 0 := by
    refine gapsOf_eq_zero before (first, outcome) (by simpa using hepoch) ?_
    refine Nat.lt_of_le_of_lt (gapsOf_mono _ ?_) hgaps
    simp
  obtain ⟨decision, hmem, hdecision⟩ := hunbroken hforce.1 hzero revision hlower
    (UInt64.le_trans (UInt64.le_of_lt hupper) hforce.2)
  exact ⟨decision, hsublist.subset hmem, hdecision⟩

theorem classify_rate {σ : Observatory} (hclassify : σ.classify link now = some classification)
    (hreport : report ∈ classification.families)
    (hrate : report.hasDelta = true ∨ report.hasDerived = true) :
    isCounterFamily report.key.family = true ∧
      (∃ winner, selectWinner (σ.store.contenders link report.key
          (σ.classificationInput link now).context) = some winner ∧
        winner.source = report.winnerSource) ∧
      ∃ continuity, σ.store.continuity link report.key report.winnerSource = some continuity ∧
        continuity.hasPrevious = true ∧
        (deriveDelta (derivationRequest σ.store continuity report.key report.winnerSource
          σ.config.policy now (σ.registry.currentGeneration link)
          (σ.registry.currentGeneration link).valid)).valid = true ∧
        (report.hasDerived = true → ∃ derived,
          deriveRequest (derivationRequest σ.store continuity report.key report.winnerSource
            σ.config.policy now (σ.registry.currentGeneration link)
            (σ.registry.currentGeneration link).valid) (σ.classificationInput link now).facts
            report.key.direction = derived ∧
          derived.hasUtilization = true ∧ report.derivedPpb = derived.utilizationPpb) := by
  unfold Observatory.classify at hclassify
  split at hclassify
  · cases hclassify
  cases hclassify
  obtain ⟨key, -, ratio, rfl⟩ := classify_families hreport
  obtain ⟨hkey, hsource, -, -, hdelta, hderived, hppb⟩ :=
    (evaluateKey (σ.classificationInput link now) key).report.withRatio_kept ratio
  rw [hdelta, hderived] at hrate
  obtain ⟨hfamily, winner, hwinner, hdelta', hderived', hppb'⟩ := evaluateKey_rate hrate
  rw [evaluateKey_key] at hkey
  rw [(evaluateKey_some hwinner).1] at hsource
  rw [hkey, hsource, hderived, hppb]
  have hhas : ((σ.classificationInput link now).derivedForKey key winner.source).hasDelta
      = true := by
    rcases hrate with hrate | hrate
    · rw [← hdelta', hrate]
    · exact deriveFor_hasDelta (hderived'.symm.trans hrate)
  obtain ⟨continuity, hcontinuity, hprevious, hvalid, heq⟩ := deriveFor_rate hhas
  refine ⟨hfamily, ⟨winner, hwinner, rfl⟩, continuity, hcontinuity, hprevious, hvalid,
    fun hutilization => ⟨_, heq.symm, hderived'.symm.trans hutilization, ?_⟩⟩
  rw [hppb', if_pos (hderived'.symm.trans hutilization)]
  rfl

/-- In every reached state, a reported utilization comes from the last two observations accepted
from the winning source, both in the scope and in the generation in force, with no revision lost
between them, and is exactly the share of the capacity that the counter advanced by. -/
theorem Reached.utilization_derived {config : RuntimeConfig} (h : Reached config log σ)
    (hclassify : σ.classify link now = some classification)
    (hreport : report ∈ classification.families) (hderived : report.hasDerived = true)
    (hchanges : scopeChangesOf report.winnerSource log ≤ kMaxRetiredScopes)
    (hgeneration : (σ.registry.currentGeneration link).valid = true)
    (hgaps : gapsOf report.winnerSource log < 2 ^ 64) :
    ∃ first last earlier later, DerivedFrom σ log link report first last earlier later := by
  obtain ⟨hfamily, -, continuity, hcontinuity, hprevious, hvalid, hutilization⟩ :=
    classify_rate hclassify hreport (.inr hderived)
  obtain ⟨before, first, between, last, earlier, later, hlast, hfirst, hearlier, hlater, hrange,
    hbaseline, hcurrent⟩ := h.samples hcontinuity hprevious hfamily
  obtain ⟨hbaselineUsable, hcurrentUsable, -, hascending, hepoch, span, hspan, hpositive,
    hwindow, hdelta⟩ := deriveDelta_valid hvalid
  obtain ⟨derived, rfl, hhas, hppb⟩ := hutilization hderived
  obtain ⟨-, capacity, hcapacity, hnonzero, hexact⟩ := deriveRequest_utilization hhas
  simp only [derivationRequest] at hbaselineUsable hcurrentUsable hwindow hascending hepoch hspan
  rw [hbaseline] at hbaselineUsable hascending hepoch hspan
  rw [hcurrent] at hcurrentUsable hascending hepoch hspan
  obtain ⟨stream, hstream, hhasScope, hfirstScope, hfirstGeneration, -⟩ :=
    sampleUsable_true hbaselineUsable
  obtain ⟨stream', hstream', -, hlastScope, hlastGeneration, -⟩ := sampleUsable_true hcurrentUsable
  rw [hstream] at hstream'
  cases hstream'
  have hspanInt := difference_some hspan
  have hwindowInt : 0 < last.1.observedAt.nanos.toInt - first.1.observedAt.nanos.toInt ∧
      last.1.observedAt.nanos.toInt - first.1.observedAt.nanos.toInt ≤
        σ.config.policy.thresholds.derivationWindow.nanos.toInt := by
    rw [← hspanInt]
    exact ⟨Int64.lt_iff_toInt_lt.1 hpositive, Int64.le_iff_toInt_le.1 hwindow⟩
  obtain ⟨hreset, hforward, hamount, hover⟩ := deltaOver_valid (hdelta ▸ hvalid) (by
    simp only [derivationRequest, hbaseline]
    exact hrange)
  rw [← hdelta] at hamount hover
  replace hamount := hamount.trans (show counterAdvance continuity.previous.reading
    continuity.latest.reading = counterAdvance earlier later by rw [hbaseline, hcurrent])
  simp only [derivationRequest, hbaseline, hcurrent] at hreset hforward
  refine ⟨first.1, last.1, earlier, later, ?_⟩
  exact {
    lastTwo := ⟨acceptedObservations report.winnerSource ⟨link, report.key⟩ before, by
      rw [hlast.accepted_eq, hfirst.accepted_eq, List.append_assoc]
      rfl⟩
    scope := ⟨stream, hstream, hhasScope, hfirstScope, hlastScope⟩
    generation := ⟨hfirstGeneration hgeneration, hlastGeneration hgeneration⟩
    ascending := hascending
    noLoss := fun revision hlower hupper => h.no_loss hlast hfirst
      (hfirstScope.trans hlastScope.symm) hepoch hgaps hchanges hlower hupper
    window := hwindowInt
    payloads := ⟨hearlier, hlater⟩
    noReset := hreset
    forward := hforward
    value := by
      obtain ⟨entry, hentry, hfacts⟩ : ∃ entry, σ.registry.findLink link = some entry ∧
          (σ.classificationInput link now).facts = entry.facts := by
        cases hentry : σ.registry.findLink link with
        | some entry => exact ⟨entry, rfl, by simp [classificationInput, hentry,
            ClassificationInput.facts]⟩
        | none =>
          simp [classificationInput, hentry, ClassificationInput.facts, capacityFor] at hcapacity
      rw [hfacts] at hcapacity
      refine ⟨entry, capacity, hentry, hcapacity, hnonzero, ?_⟩
      rw [hppb, hexact, hamount, hover, ← hspanInt, ← toUInt64_toNat hpositive]
      push_cast
      rfl }

/-- An octet counter of the source `s` on the link `l`, in its first generation. -/
def octetRecord (revision raw : UInt64) (observedAt : Int64) : ParsedRecord :=
  .observation
    { link := ascii "l", source := ascii "s", incarnation := ascii "i", epoch := ascii "e"
      generation := ascii "g", revision := revision, observedAt := observedAt
      receivedAt := observedAt, key := kOctetsKey
      payload := .counter { raw := raw, width := .bits64 } }

/-- The declaration of the link `l`, with a capacity of 1 Gbit/s. -/
def ratedLink (generation : Bytes) : ParsedRecord :=
  .link
    { name := ascii "l", generation := generation, capacityKnown := true
      capacityInBps := 1000000000, capacityOutBps := 1000000000 }

/-- Two octet samples, one millisecond apart. -/
def ratedRecords : List (ParsedRecord × TimePoint) :=
  [(.source { name := ascii "s", authority := .primary, provenance := .synthetic }, ⟨0⟩),
    (ratedLink (ascii "g"), ⟨0⟩), (octetRecord 1 0 1000, ⟨1000⟩),
    (octetRecord 2 1000 1001000, ⟨1001000⟩)]

/-- A report with a utilization, if the query finds one. -/
def derivedReport (σ : Observatory) (link : LinkId) (now : TimePoint) : Option FamilyReport :=
  (σ.classify link now).bind fun classification =>
    classification.families.find? FamilyReport.hasDerived

theorem derivedReport_some (σ : Observatory) (link : LinkId) (now : TimePoint)
    (h : (derivedReport σ link now).isSome = true) :
    ∃ classification report, σ.classify link now = some classification ∧
      report ∈ classification.families ∧ report.hasDerived = true := by
  obtain ⟨report, hreport⟩ := Option.isSome_iff_exists.1 h
  obtain ⟨classification, hclassify, hfind⟩ := Option.bind_eq_some_iff.1 hreport
  exact ⟨classification, report, hclassify, List.mem_of_find?_eq_some hfind,
    List.find?_some hfind⟩

theorem Reached.utilization_derived_two : ∃ log σ report first last earlier later,
    Reached { policy := makeDefaultPolicy } log σ ∧ report.hasDerived = true ∧
      DerivedFrom σ log (deriveLinkId (ascii "l")) report first last earlier later := by
  have hreached := Reached.run { policy := makeDefaultPolicy } ratedRecords
  have hlength : (decisionsFrom (fresh { policy := makeDefaultPolicy }) ratedRecords).length = 2 := by
    decide +kernel
  obtain ⟨classification, report, hclassify, hreport, hderived⟩ :=
    derivedReport_some (Observatory.run { policy := makeDefaultPolicy } ratedRecords)
      (deriveLinkId (ascii "l")) ⟨1001000⟩ (by decide +kernel)
  obtain ⟨first, last, earlier, later, hfrom⟩ := hreached.utilization_derived hclassify hreport
    hderived ((scopeChangesOf_le_length _ _).trans (hlength ▸ by decide)) (by decide +kernel)
    (Nat.lt_of_le_of_lt (gapsOf_le_length _ _) (hlength ▸ by decide))
  exact ⟨_, _, report, first, last, earlier, later, hreached, hderived, hfrom⟩

/-- The same link declared again, under a generation whose name hashes to zero. -/
def unnamedGenerationRecords : List (ParsedRecord × TimePoint) :=
  ratedRecords ++ [(ratedLink (ascii ("q67qqFBU:U0-6x.k5gIRHyLtqOEc6llFj_:jD0YUzOcP.eOTCHyoJSVUydO5"
    ++ "r7VBAwG8GsjxuvbTgPf539BljbItoeSgE1169B:O1_67tdDnO44o")), ⟨1001000⟩)]

/-- The runtime takes an identity of zero for no generation at all, and goes on reporting the rate
of the generation that the link left. -/
theorem Reached.utilization_derived_fails :
    ¬ ∀ (config : RuntimeConfig) (log : List Decision) (σ : Observatory) (link : LinkId)
      (now : TimePoint) (classification : Classification) (report : FamilyReport),
      Reached config log σ → (∀ source, scopeChangesOf source log ≤ kMaxRetiredScopes) →
      σ.classify link now = some classification → report ∈ classification.families →
      report.hasDerived = true →
      ∃ first last earlier later, DerivedFrom σ log link report first last earlier later := by
  intro h
  have hreached := Reached.run { policy := makeDefaultPolicy } unnamedGenerationRecords
  have hlength : (decisionsFrom (fresh { policy := makeDefaultPolicy })
      unnamedGenerationRecords).length = 2 := by
    decide +kernel
  obtain ⟨classification, report, hclassify, hreport, hderived⟩ :=
    derivedReport_some (Observatory.run { policy := makeDefaultPolicy } unnamedGenerationRecords)
      (deriveLinkId (ascii "l")) ⟨1001000⟩
      (by decide +kernel)
  obtain ⟨first, last, earlier, later, hfrom⟩ := h _ _ _ _ _ _ report hreached
    (fun source => (scopeChangesOf_le_length _ _).trans (hlength ▸ by decide)) hclassify hreport
    hderived
  have hother : ∀ decision ∈ decisionsFrom (fresh { policy := makeDefaultPolicy })
      unnamedGenerationRecords, decision.1.provenance.generation ≠
        (Observatory.run { policy := makeDefaultPolicy }
          unnamedGenerationRecords).registry.currentGeneration (deriveLinkId (ascii "l")) := by
    decide +kernel
  obtain ⟨older, holder⟩ := hfrom.lastTwo
  have hmem : last ∈ older ++ [first, last] := by simp
  rw [← holder] at hmem
  obtain ⟨decision, hdecision, rfl⟩ := List.mem_map.1 hmem
  exact hother decision (List.mem_filter.1 hdecision).1 hfrom.generation.2

end Observatory

end LinkObservatory
