import LinkObservatory.Balance
import LinkObservatory.Flapping
import LinkObservatory.Recorded

namespace LinkObservatory
set_option autoImplicit true

open Std

/-- The totals that describe the evidence are the same. -/
structure RuntimeStatistics.SameTotals (before after : RuntimeStatistics) : Prop where
  accepted : after.recordsAccepted = before.recordsAccepted
  fenced : after.recordsFenced = before.recordsFenced
  recorded : after.transitionsRecorded = before.transitionsRecorded

namespace Observatory

/-- A snapshot of the state restores into a fresh process, which reports the same totals. -/
def RestoresTotals (σ : Observatory) (now : TimePoint) : Prop :=
  ((fresh σ.config).restoreFrom (σ.collectSnapshot now)).2.ok = true ∧
    σ.stats.SameTotals ((fresh σ.config).restoreFrom (σ.collectSnapshot now)).1.stats

/-- The runtime would refuse the observation without asking the store: the link is not known and
cannot be created, or the generation is one that the link has left. -/
def refusesItself (σ : Observatory) (observation : Observation) : Bool :=
  match σ.registry.findSource observation.provenance.source with
  | none => false
  | some source =>
    !source.retired && σ.config.families.isEnabled observation.key.family &&
      match σ.registry.links[observation.link]? with
      | none => !(σ.registry.policy.allowImplicitLinks && observation.link.valid &&
          σ.registry.links.size < σ.registry.policy.limits.maxLinks.toNat)
      | some state => state.generations.hasGeneration &&
          state.generations.currentGeneration != observation.provenance.generation &&
          state.generations.retiredGenerations.contains observation.provenance.generation

def refusesRecord (σ : Observatory) : ParsedRecord → Bool
  | .observation declaration => σ.refusesItself (makeObservation declaration)
  | _ => false

/-- How many records of a list the runtime refuses itself. -/
def ownFences : Observatory → List (ParsedRecord × TimePoint) → Nat
  | _, [] => 0
  | σ, (record, instant) :: records =>
    (if σ.refusesRecord record then 1 else 0) + ownFences (σ.applyRecord record instant).1 records

/-- The recorded transitions that the statistics and the log count differently. -/
def untold (σ : Observatory) : UInt64 :=
  σ.stats.transitionsRecorded - UInt64.ofNat σ.transitions.totalRecords

@[simp] theorem recordTransition_untold (σ : Observatory) (event : TransitionEvent) :
    (σ.recordTransition event).untold = σ.untold := by
  show σ.stats.transitionsRecorded + 1 - UInt64.ofNat (σ.transitions.totalRecords + 1) = _
  rw [UInt64.ofNat_add, untold]
  exact add_sub_add_right_eq_sub _ _ 1

theorem trackState_untold (σ : Observatory) (link : LinkId) (instant : TimePoint)
    (current : Classification) : (σ.trackState link instant current).untold = σ.untold := by
  unfold trackState
  simp only
  split
  · exact σ.recordTransition_untold _
  · split
    · exact σ.recordTransition_untold _
    · rfl

theorem trackOper_untold (σ : Observatory) (link : LinkId) (instant : TimePoint)
    (current : Classification) : (σ.trackOper link instant current).untold = σ.untold := by
  unfold trackOper
  simp only
  split
  · exact σ.recordTransition_untold _
  · rfl

theorem trackAdmin_untold (σ : Observatory) (link : LinkId) (instant : TimePoint)
    (current : Classification) : (σ.trackAdmin link instant current).untold = σ.untold := by
  unfold trackAdmin
  simp only
  split
  · exact σ.recordTransition_untold _
  · rfl

theorem refreshClassification_untold (σ : Observatory) (link : LinkId) (instant : TimePoint) :
    (σ.refreshClassification link instant).untold = σ.untold := by
  unfold refreshClassification
  simp only
  rw [trackAdmin_untold, trackOper_untold, trackState_untold]
  rfl

theorem recordOutcome_untold (σ : Observatory) (observation : Observation)
    (outcome : AcceptOutcome) (instant : TimePoint) :
    (σ.recordOutcome observation outcome instant).untold = σ.untold := by
  unfold recordOutcome
  cases outcome.discontinuity <;> cases outcome.revisionGap
  all_goals simp only [Bool.false_eq_true, ↓reduceIte, recordTransition_untold]

theorem applyKnown_untold (σ : Observatory) (observation : Observation) (source : SourceRecord)
    (instant : TimePoint) :
    (σ.applyKnown observation source instant).1.untold = σ.untold := by
  unfold applyKnown
  simp only
  split
  · rfl
  · rw [refreshClassification_untold, recordOutcome_untold]
    rfl

theorem applyGeneration_untold (σ : Observatory) (observation : Observation)
    (source : SourceRecord) (instant : TimePoint) :
    (σ.applyGeneration observation source instant).1.untold = σ.untold := by
  unfold applyGeneration
  simp only
  split
  · rfl
  · rw [applyKnown_untold]
    split
    · rw [recordTransition_untold]
      rfl
    · rfl

theorem applyObservation_untold (σ : Observatory) (observation : Observation)
    (instant : TimePoint) : (σ.applyObservation observation instant).1.untold = σ.untold := by
  unfold applyObservation
  simp only
  cases σ.registry.findSource observation.provenance.source with
  | none =>
    simp only
    split <;> rfl
  | some source =>
    simp only
    split
    · split <;> rfl
    split
    · split <;> rfl
    split
    · split
      · rfl
      · rw [applyGeneration_untold]
        rfl
    · rw [applyGeneration_untold]
      rfl

theorem applyRecord_untold (σ : Observatory) (record : ParsedRecord) (instant : TimePoint) :
    (σ.applyRecord record instant).1.untold = σ.untold := by
  cases record with
  | none => rfl
  | source declaration =>
    show (σ.applySource declaration).1.untold = σ.untold
    unfold applySource
    simp only
    split
    · rfl
    · split
      · split <;> rfl
      · split <;> rfl
  | link declaration =>
    show (σ.applyLink declaration instant).1.untold = σ.untold
    unfold applyLink
    simp only
    split
    · rfl
    · split
      · rw [recordTransition_untold]
        split
        · exact recordTransition_untold _ _
        · rfl
      · split
        · exact recordTransition_untold _ _
        · rfl
  | observation declaration => exact σ.applyObservation_untold _ instant

/-- The refusals that the statistics count and the store does not. -/
def unstored (σ : Observatory) : UInt64 := σ.stats.recordsFenced - σ.store.totalFenced

theorem refusesItself_eq {σ : Observatory} {observation : Observation}
    (hsource : σ.registry.sources[observation.provenance.source]? = some source)
    (hlive : source.retired = false)
    (henabled : σ.config.families.isEnabled observation.key.family = true) :
    σ.refusesItself observation =
      match σ.registry.links[observation.link]? with
      | none => !(σ.registry.policy.allowImplicitLinks && observation.link.valid &&
          σ.registry.links.size < σ.registry.policy.limits.maxLinks.toNat)
      | some state => state.generations.hasGeneration &&
          state.generations.currentGeneration != observation.provenance.generation &&
          state.generations.retiredGenerations.contains observation.provenance.generation := by
  have hfound : σ.registry.findSource observation.provenance.source = some source := hsource
  rw [refusesItself, hfound]
  simp only [hlive, henabled, Bool.not_false, Bool.and_self, Bool.true_and]

theorem behind_eq (generations : LinkGenerationState) (generation : GenerationId) :
    (generations.observe generation).2.behind =
      (generations.hasGeneration && generations.currentGeneration != generation &&
        generations.retiredGenerations.contains generation) := by
  unfold LinkGenerationState.observe
  cases generations.hasGeneration with
  | false => rfl
  | true =>
    by_cases hcurrent : generations.currentGeneration = generation
    · simp [hcurrent]
    · by_cases hretired : generation ∈ generations.retiredGenerations
      · simp [hcurrent, hretired]
      · simp [hcurrent, hretired]

theorem Ensured.refusesItself_eq {σ : Observatory} {registry : LinkRegistry}
    (hensured : σ.registry.Ensured observation instant registry)
    (hsource : σ.registry.sources[observation.provenance.source]? = some source)
    (hlive : source.retired = false)
    (henabled : σ.config.families.isEnabled observation.key.family = true) :
    σ.refusesItself observation =
      (registry.observeGeneration observation.link observation.provenance.generation).2.behind := by
  rw [Observatory.refusesItself_eq hsource hlive henabled]
  obtain ⟨state, hstate, hcases⟩ := hensured.lookup
  rw [LinkRegistry.observeGeneration_some hstate]
  simp only
  rw [behind_eq]
  rcases hcases with ⟨hknown, -⟩ | ⟨hnone, hempty, hmoves⟩
  · rw [hknown]
  · rw [hnone, hempty]
    unfold LinkRegistry.Moves at hmoves
    rw [hnone] at hmoves
    obtain ⟨himplicit, hvalid, hroom⟩ := hmoves
    simp [himplicit, hvalid, hroom]

theorem applyObservation_unstored (σ : Observatory) (observation : Observation)
    (instant : TimePoint) :
    (σ.applyObservation observation instant).1.unstored =
      σ.unstored + if σ.refusesItself observation then 1 else 0 := by
  have hcounts := σ.applyObservation_counts observation instant
  have hstep := σ.applyObservation_step observation instant
  generalize (σ.applyObservation observation instant).1 = σ' at *
  generalize (σ.applyObservation observation instant).2 = outcome at *
  have hfenced : σ'.stats.recordsFenced =
      σ.stats.recordsFenced + if outcome.accepted then 0 else 1 := by
    cases hcounts with
    | accepted haccepted _ _ _ _ _ _ hfenced =>
      rw [haccepted]
      exact hfenced.trans (add_zero _).symm
    | refused haccepted _ hcount =>
      rw [haccepted]
      exact hcount
  -- What the store decides, both count.
  have hstore (context : AcceptContext)
      (haccept : σ.store.accept observation context instant = (σ'.store, outcome)) :
      σ'.unstored = σ.unstored := by
    have hcounts := σ.store.accept_counts observation context instant
    rw [haccept] at hcounts
    have htotal : σ'.store.totalFenced =
        σ.store.totalFenced + if outcome.accepted then 0 else 1 := by
      cases hcounts with
      | accepted haccepted _ _ _ htotal =>
        rw [haccepted]
        exact htotal.trans (add_zero _).symm
      | refused haccepted _ _ _ htotal =>
        rw [haccepted]
        exact htotal
    rw [unstored, unstored, hfenced, htotal]
    exact add_sub_add_right_eq_sub _ _ _
  -- What the runtime decides, only the statistics count.
  have hown (hsame : σ'.store = σ.store) (hrefused : outcome.accepted = false) :
      σ'.unstored = σ.unstored + 1 := by
    rw [unstored, unstored, hfenced, hsame, hrefused]
    exact add_sub_right_comm _ _ _
  cases hstep with
  | refused context hsource hno _ _ _ _ haccept =>
    have hnever : σ.refusesItself observation = false := by
      have hfound : σ.registry.findSource observation.provenance.source = context.source := hsource
      rw [refusesItself, hfound]
      cases hcontext : context.source with
      | none => rfl
      | some source =>
        rcases hno source hcontext with hretired | hdisabled
        · simp [hretired]
        · simp [hdisabled]
    rw [hnever, hstore context haccept]
    exact (add_zero _).symm
  | unknownLink hsource hlive henabled hlink hok _ _ _ hsame houtcome =>
    have halways : σ.refusesItself observation = true := by
      rw [refusesItself_eq hsource hlive henabled, hlink]
      have hnot := (LinkRegistry.ensureImplicitLink_ok_iff hlink instant).not.1
        (by rw [hok]; decide)
      rw [Bool.not_eq_true', ← Bool.not_eq_true]
      intro hcreated
      apply hnot
      simpa [and_assoc] using hcreated
    rw [halways, hown hsame (by rw [houtcome])]
    rfl
  | behind registry hsource hlive henabled hensured hobs hb _ _ _ hsame houtcome =>
    rw [Ensured.refusesItself_eq hensured hsource hlive henabled, hobs, hb,
      hown hsame (by rw [houtcome])]
    rfl
  | decided registry hsource hlive henabled hensured hobs hb _ haccept =>
    rw [Ensured.refusesItself_eq hensured hsource hlive henabled, hobs, hb, hstore _ haccept]
    exact (add_zero _).symm

/-- What the statistics of a run count, against what a snapshot keeps of it. -/
structure Totals (σ : Observatory) (own : Nat) : Prop where
  accepted : σ.stats.recordsAccepted = σ.store.totalAccepted
  fenced : σ.unstored = UInt64.ofNat own
  recorded : σ.untold = 0

theorem applyObservation_stored (σ : Observatory) (observation : Observation)
    (instant : TimePoint) (h : σ.stats.recordsAccepted = σ.store.totalAccepted) :
    (σ.applyObservation observation instant).1.stats.recordsAccepted =
      (σ.applyObservation observation instant).1.store.totalAccepted := by
  have hcounts := σ.applyObservation_counts observation instant
  generalize (σ.applyObservation observation instant).1 = σ' at *
  cases hcounts with
  | accepted _ _ hcount hstored =>
    have hboth : σ'.counters.accepted = σ'.counters.stored := by
      rw [hcount, hstored]
      exact congrArg (· + 1) h
    exact hboth
  | refused _ _ _ _ _ hsame hstored => exact hsame.trans (h.trans hstored.symm)

theorem Totals.keep {σ σ' : Observatory} (h : σ.Totals own) (hcounters : σ'.counters = σ.counters)
    (hstore : σ'.store = σ.store) (hrecorded : σ'.untold = 0) : σ'.Totals own where
  accepted := by
    have haccepted : σ'.stats.recordsAccepted = σ.stats.recordsAccepted :=
      congrArg RecordCounters.accepted hcounters
    rw [haccepted, hstore, h.accepted]
  fenced := by
    have hfenced : σ'.stats.recordsFenced = σ.stats.recordsFenced :=
      congrArg RecordCounters.fenced hcounters
    rw [unstored, hfenced, hstore]
    exact h.fenced
  recorded := hrecorded

/-- The totals along a list of records. -/
theorem Totals.foldl {σ : Observatory} (h : σ.Totals own)
    (records : List (ParsedRecord × TimePoint)) :
    (records.foldl (fun σ record => (σ.applyRecord record.1 record.2).1) σ).Totals
      (own + ownFences σ records) := by
  induction records generalizing σ own with
  | nil => exact h
  | cons entry records ih =>
    obtain ⟨record, instant⟩ := entry
    have hrecorded := (σ.applyRecord_untold record instant).trans h.recorded
    rw [List.foldl_cons, ownFences, ← Nat.add_assoc]
    apply ih
    cases record with
    | none => exact h
    | source declaration =>
      exact h.keep (σ.applySource_counters declaration) (σ.applySource_store declaration) hrecorded
    | link declaration =>
      exact h.keep (σ.applyLink_counters declaration instant)
        (σ.applyLink_store declaration instant) hrecorded
    | observation declaration =>
      constructor
      · exact σ.applyObservation_stored _ instant h.accepted
      · show (σ.applyObservation (makeObservation declaration) instant).1.unstored = _
        rw [applyObservation_unstored, h.fenced, UInt64.ofNat_add, refusesRecord]
        split
        · rfl
        · rfl
      · exact hrecorded

theorem run_totals (config : RuntimeConfig) (records : List (ParsedRecord × TimePoint)) :
    (run config records).Totals (ownFences (fresh config) records) := by
  have hfresh : (fresh config).Totals 0 := by
    constructor
    · rfl
    · exact sub_self (0 : UInt64)
    · exact sub_self (0 : UInt64)
  have h := hfresh.foldl records
  rwa [Nat.zero_add] at h

theorem foldl_transitions (σ : Observatory) (records : List (ParsedRecord × TimePoint)) :
    (records.foldl (fun σ record => (σ.applyRecord record.1 record.2).1) σ).transitions =
      σ.transitions.recordAll (eventsFrom σ records) := by
  induction records generalizing σ with
  | nil => rfl
  | cons entry records ih =>
    rw [List.foldl_cons, ih, applyRecord_transitions, eventsFrom,
      TransitionLog.recordAll_append]

theorem run_replays (config : RuntimeConfig) (records : List (ParsedRecord × TimePoint)) :
    (run config records).transitions.Replays config.policy.limits
      (eventsFrom (fresh config) records) :=
  foldl_transitions (fresh config) records

theorem restoreFrom_totals {σ : Observatory} {contents : SnapshotContents}
    (h : (σ.restoreFrom contents).2.ok = true) :
    (σ.restoreFrom contents).1.stats = { σ.stats with
      recordsAccepted := contents.totalAccepted
      recordsFenced := contents.totalFenced
      transitionsRecorded := UInt64.ofNat contents.transitions.length } := by
  unfold restoreFrom at h ⊢
  simp only at h ⊢
  split
  · rename_i hregistry
    rw [if_pos hregistry] at h
    simp only at h
    rw [h] at hregistry
    cases hregistry
  · rename_i hregistry
    rw [if_neg hregistry] at h
    split
    · rename_i hstore
      rw [if_pos hstore] at h
      simp only at h
      rw [h] at hstore
      cases hstore
    · rfl

theorem ofNat_eq_iff (m n : Nat) : UInt64.ofNat m = UInt64.ofNat n ↔ m % 2 ^ 64 = n % 2 ^ 64 := by
  rw [← UInt64.toNat_inj, UInt64.toNat_ofNat', UInt64.toNat_ofNat']

theorem run_snapshot_length (config : RuntimeConfig) (records : List (ParsedRecord × TimePoint))
    (now : TimePoint) :
    ((run config records).collectSnapshot now).transitions.length =
      min (eventsFrom (fresh config) records).length
        (min config.policy.limits.maxTotalTransitions.toNat
          config.policy.limits.maxResultRows.toNat) := by
  obtain ⟨hs, hconfig⟩ := (Reached.run config records).sound
  have hglobal := (run_replays config records).global.1
  have hlimits := hs.logLimits
  generalize run config records = σ at *
  subst hconfig
  show (σ.transitions.newest _ σ.transitions.global).length = _
  rw [TransitionLog.newest_eq, lastOf_length, hglobal, Ring.evict_length, List.length_map, hlimits]
  omega

/-- A run reports the same totals after a restart exactly when, short of a wrap of the counters, the
runtime has refused no record itself and all events fit the rings and a page of results. -/
theorem run_restoresTotals_iff (config : RuntimeConfig) (records : List (ParsedRecord × TimePoint))
    (now : TimePoint) :
    (run config records).RestoresTotals now ↔
      2 ^ 64 ∣ ownFences (fresh config) records ∧
      2 ^ 64 ∣ (eventsFrom (fresh config) records).length -
        min config.policy.limits.maxTotalTransitions.toNat
          config.policy.limits.maxResultRows.toNat := by
  have htotals := run_totals config records
  have hlength := run_snapshot_length config records now
  have hevents := (run_replays config records).global.2
  obtain ⟨hs, -⟩ := (Reached.run config records).sound
  generalize ownFences (fresh config) records = own at *
  generalize (eventsFrom (fresh config) records).length = events at *
  generalize run config records = σ at *
  have hfresh : (fresh σ.config).config = σ.config := rfl
  obtain ⟨hok, -⟩ := hs.restoreFrom hfresh rfl now
  have hstats := restoreFrom_totals hok
  have hfenced : σ.store.totalFenced = σ.stats.recordsFenced ↔ 2 ^ 64 ∣ own := by
    have hown : UInt64.ofNat own = UInt64.ofNat 0 ↔ 2 ^ 64 ∣ own := by
      rw [ofNat_eq_iff]
      omega
    rw [← hown, ← htotals.fenced, unstored]
    exact eq_comm.trans sub_eq_zero.symm
  have hrecorded : UInt64.ofNat (σ.collectSnapshot now).transitions.length =
        σ.stats.transitionsRecorded ↔
      2 ^ 64 ∣ events - min config.policy.limits.maxTotalTransitions.toNat
        config.policy.limits.maxResultRows.toNat := by
    rw [sub_eq_zero.1 htotals.recorded, hevents, hlength, ofNat_eq_iff]
    omega
  rw [RestoresTotals, hstats, ← hfenced, ← hrecorded]
  constructor
  · rintro ⟨-, hsame⟩
    exact ⟨hsame.fenced, hsame.recorded⟩
  · rintro ⟨hfences, htransitions⟩
    exact ⟨hok, htotals.accepted.symm, hfences, htransitions⟩

/-- A link moves from one generation to another; a late reading of the first one is refused. -/
def lateGeneration : List (ParsedRecord × TimePoint) :=
  [(.source { name := ascii "s", authority := .primary, provenance := .synthetic }, ⟨0⟩),
    (.link { name := ascii "l", generation := ascii "g" }, ⟨0⟩),
    (.link { name := ascii "l", generation := ascii "h" }, ⟨0⟩),
    (revisionRecord (ascii "l") 1, ⟨1⟩)]

/-- The runtime refuses the late reading itself: it counts one refusal, and none after a restart. -/
theorem run_restoresTotals_fails :
    ¬ ∀ (config : RuntimeConfig) (records : List (ParsedRecord × TimePoint)) (now : TimePoint),
      (run config records).RestoresTotals now := by
  intro h
  have hfenced := (h { policy := makeDefaultPolicy } lateGeneration ⟨2⟩).2.fenced
  exact absurd hfenced (by decide +kernel)

end Observatory

end LinkObservatory
