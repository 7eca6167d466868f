import LinkObservatory.Topology
import LinkObservatory.StoreRun

namespace LinkObservatory
set_option autoImplicit true

open Std

namespace Observatory

/-- The decision that a record leads to, if it is an observation. -/
def decisionsOf (σ : Observatory) (record : ParsedRecord) (instant : TimePoint) : List Decision :=
  match record with
  | .observation declaration =>
    [(makeObservation declaration, (σ.applyObservation (makeObservation declaration) instant).2)]
  | _ => []

/-- The states that records lead to, with every decision taken on the way. Each record is allowed
in the state it meets. -/
inductive Run (config : RuntimeConfig) (allowed : Observatory → ParsedRecord → Prop) :
    List Decision → Observatory → Prop
  | start : Run config allowed [] (fresh config)
  | record (record : ParsedRecord) (instant : TimePoint) :
      Run config allowed log σ → allowed σ record →
      Run config allowed (log ++ σ.decisionsOf record instant) (σ.applyRecord record instant).1

theorem applySource_store (σ : Observatory) (declaration : SourceDecl) :
    (σ.applySource declaration).1.store = σ.store := by
  unfold applySource
  simp only
  split
  · rfl
  split
  · split <;> rfl
  · split <;> rfl

theorem applyLink_store (σ : Observatory) (declaration : LinkDecl) (instant : TimePoint) :
    (σ.applyLink declaration instant).1.store = σ.store := by
  unfold applyLink
  simp only
  split
  · rfl
  · split
    · split <;> rfl
    · split <;> rfl

theorem applyObservation_store (σ : Observatory) (observation : Observation)
    (instant : TimePoint) :
    (∃ context, σ.store.accept observation context instant =
      ((σ.applyObservation observation instant).1.store,
        (σ.applyObservation observation instant).2)) ∨
    ((σ.applyObservation observation instant).1.store = σ.store ∧
      ∃ reason, (σ.applyObservation observation instant).2 = { fence := reason }) := by
  have hstep := σ.applyObservation_step observation instant
  generalize (σ.applyObservation observation instant).1 = σ' at *
  generalize (σ.applyObservation observation instant).2 = outcome at *
  cases hstep with
  | refused context _ _ _ _ _ _ haccept => exact .inl ⟨context, haccept⟩
  | unknownLink _ _ _ _ _ _ _ _ hstore houtcome => exact .inr ⟨hstore, _, houtcome⟩
  | behind _ _ _ _ _ _ _ _ _ _ hstore houtcome => exact .inr ⟨hstore, _, houtcome⟩
  | decided _ _ _ _ _ _ _ _ haccept => exact .inl ⟨_, haccept⟩

theorem applyObservation_streamStep (σ : Observatory) (observation : Observation)
    (instant : TimePoint) :
    StreamStep (σ.store.streamFor observation.provenance.source) observation
      (σ.applyObservation observation instant).2
      ((σ.applyObservation observation instant).1.store.streamFor
        observation.provenance.source) := by
  rcases σ.applyObservation_store observation instant with ⟨context, haccept⟩ | ⟨hstore, reason, hout⟩
  · have h := σ.store.accept_streamStep observation context instant
    rwa [haccept] at h
  · rw [hstore, hout]
    exact .untouched rfl rfl rfl

theorem applyObservation_stream_other (σ : Observatory) (observation : Observation)
    (instant : TimePoint) (h : observation.provenance.source ≠ other) :
    (σ.applyObservation observation instant).1.store.streams[other]? =
      σ.store.streams[other]? := by
  rcases σ.applyObservation_store observation instant with ⟨context, haccept⟩ | ⟨hstore, -⟩
  · have hother := σ.store.accept_stream_other observation context instant h
    rwa [haccept] at hother
  · rw [hstore]

/-- Nothing but its revision stands in the way of an observation. -/
structure Admits (σ : Observatory) (observation : Observation) : Prop where
  source : ∃ source, σ.registry.sources[observation.provenance.source]? = some source ∧
    source.retired = false ∧ source.registered = true ∧ source.provenance ≠ .unknown ∧
    ∀ reason, ¬σ.store.LateFence observation source reason
  enabled : σ.config.families.isEnabled observation.key.family = true
  identified : observation.link.valid = true
  valid : (validateObservation observation σ.store.policy).ok = true
  known : σ.registry.links[observation.link]? = none → σ.registry.Moves observation
  current : ∀ state, σ.registry.links[observation.link]? = some state →
    state.generations.hasGeneration = true →
    state.generations.currentGeneration ≠ observation.provenance.generation →
    observation.provenance.generation ∉ state.generations.retiredGenerations

theorem Admits.of_current {σ : Observatory}
    (hsource : ∃ source, σ.registry.sources[observation.provenance.source]? = some source ∧
      source.retired = false ∧ source.registered = true ∧ source.provenance ≠ .unknown ∧
      ∀ reason, ¬σ.store.LateFence observation source reason)
    (henabled : σ.config.families.isEnabled observation.key.family = true)
    (hvalid : observation.link.valid = true ∧
      (validateObservation observation σ.store.policy).ok = true)
    (hcurrent : (σ.registry.links[observation.link]?).any (fun state =>
      state.generations.currentGeneration == observation.provenance.generation) = true) :
    σ.Admits observation where
  source := hsource
  enabled := henabled
  identified := hvalid.1
  valid := hvalid.2
  known hnone := by
    rw [hnone] at hcurrent
    cases hcurrent
  current state hstate _ hne := by
    rw [hstate] at hcurrent
    exact absurd (eq_of_beq hcurrent) hne

/-- An admissible observation is accepted unless its stream rejects the revision. -/
theorem Admits.accepted {σ : Observatory} (h : σ.Admits observation) (instant : TimePoint)
    (hstream : ¬(σ.store.streamFor observation.provenance.source).Rejects observation) :
    (σ.applyObservation observation instant).2.accepted = true := by
  obtain ⟨source, hsource, hlive, hregistered, hprovenance, hlate⟩ := h.source
  have hstep := σ.applyObservation_step observation instant
  generalize (σ.applyObservation observation instant).1 = σ' at *
  generalize (σ.applyObservation observation instant).2 = outcome at *
  cases hstep with
  | refused context hfound hno _ _ _ _ _ =>
    rcases hno source (hfound.symm.trans hsource) with hr | hr
    · rw [hlive] at hr
      cases hr
    · rw [h.enabled] at hr
      cases hr
  | unknownLink _ _ _ hlink hok =>
    have hmoves := h.known hlink
    unfold LinkRegistry.Moves at hmoves
    rw [hlink] at hmoves
    rw [(LinkRegistry.ensureImplicitLink_ok_iff hlink instant).2 hmoves] at hok
    cases hok
  | behind registry _ _ _ hensured hobs hb =>
    obtain ⟨state, hstate, hcases⟩ := hensured.lookup
    have hobserved := LinkRegistry.observeGeneration_some hstate observation.provenance.generation
    rw [hobs, Prod.mk.injEq] at hobserved
    rw [hobserved.2] at hb
    obtain ⟨hhas, hne, hretired⟩ := state.generations.observe_behind_retired _ hb
    rcases hcases with ⟨hknown, -⟩ | ⟨-, hempty, -⟩
    · exact absurd hretired (h.current state hknown hhas hne)
    · rw [hempty] at hhas
      cases hhas
  | decided registry hfound henabled hfamily hensured hobs hb hconfig haccept hregistry hlog =>
    rename_i source' observed generation
    cases hsource.symm.trans hfound
    have hcurrent : observed.currentGeneration observation.link =
        observation.provenance.generation := by
      obtain ⟨state, hstate, -⟩ := hensured.lookup
      have hbehind : (registry.observeGeneration observation.link
          observation.provenance.generation).2.behind = false := by rwa [hobs]
      have h := LinkRegistry.currentGeneration_observed hstate hbehind
      rwa [hobs] at h
    have hrefuses := σ.store.accept_refuses_iff observation (observed.acceptContext observation source)
      instant rfl rfl (fun _ => hcurrent.symm)
    rw [haccept] at hrefuses
    by_contra hrefused
    rcases hrefuses.1 (by simpa using hrefused) with hr | hr | hr | hr | hr | hr | ⟨reason, hr⟩
    · rw [hregistered] at hr
      cases hr
    · rw [hlive] at hr
      cases hr
    · exact hprovenance hr
    · rw [h.identified] at hr
      cases hr
    · rw [h.valid] at hr
      cases hr
    · exact hstream hr
    · exact hlate reason hr

end Observatory

/-- Revisions that follow each other without a hole, all in one scope. -/
def ConsecutiveFrom (scope : SequenceScope) : Nat → List Observation → Prop
  | _, [] => True
  | first, observation :: rest =>
    scopeOf observation.provenance = scope ∧ observation.provenance.sequence.toNat = first ∧
      ConsecutiveFrom scope (first + 1) rest

instance ConsecutiveFrom.decide (scope : SequenceScope) :
    ∀ (first : Nat) (observations : List Observation),
      Decidable (ConsecutiveFrom scope first observations)
  | _, [] => .isTrue trivial
  | first, observation :: rest =>
    have := ConsecutiveFrom.decide scope (first + 1) rest
    inferInstanceAs (Decidable (scopeOf observation.provenance = scope ∧
      observation.provenance.sequence.toNat = first ∧ ConsecutiveFrom scope (first + 1) rest))

theorem consecutiveFrom_append (scope : SequenceScope) (first : Nat) (before : List Observation)
    (observation : Observation) :
    ConsecutiveFrom scope first (before ++ [observation]) ↔
      ConsecutiveFrom scope first before ∧ scopeOf observation.provenance = scope ∧
        observation.provenance.sequence.toNat = first + before.length := by
  induction before generalizing first with
  | nil => simp [ConsecutiveFrom]
  | cons head before ih =>
    rw [List.cons_append, ConsecutiveFrom, ConsecutiveFrom, ih, List.length_cons,
      Nat.add_right_comm first 1, Nat.add_assoc first]
    tauto

/-- What a source submitted, in order. -/
def submissions (source : SourceId) (log : List Decision) : List Observation :=
  (log.filter fun decision => decision.1.provenance.source = source).map Prod.fst

theorem submissions_append (source : SourceId) (log : List Decision) (decision : Decision) :
    submissions source (log ++ [decision]) =
      if decision.1.provenance.source = source then submissions source log ++ [decision.1]
      else submissions source log := by
  unfold submissions
  rw [List.filter_append, List.map_append, List.filter_singleton]
  split <;> simp_all

/-- The stream of a source that has submitted `count` consecutive revisions: it has counted no
gap, and once it has a revision, that is the last one submitted. -/
structure InStep (scope : SequenceScope) (first count : Nat) (stream : StreamState) : Prop where
  noGap : stream.gapCount = 0
  last : stream.hasSequence = true → stream.hasScope = true ∧ stream.scope = scope ∧
    stream.lastSequence.toNat + 1 = first + count

theorem enterScope_gapCount (h : enterScope stream scope = .ok (entered, changed)) :
    entered.gapCount = stream.gapCount ∧ entered.hasScope = true ∧
      (stream.hasSequence = false → entered.hasSequence = false) := by
  rcases enterScope_ok h with ⟨-, -, rfl⟩ | ⟨h1, -, -, -, rfl⟩ | ⟨h1, -, -, rfl⟩
  · exact ⟨rfl, rfl, id⟩
  · exact ⟨rfl, h1, fun _ => rfl⟩
  · exact ⟨rfl, h1, id⟩

theorem InStep.unstarted (h : InStep scope first count stream)
    (hstep : StreamStep stream observation outcome written)
    (hscope : scopeOf observation.provenance = scope)
    (hrevision : observation.provenance.sequence.toNat = first + count)
    (hunstarted : stream.hasSequence = false) :
    outcome.revisionGap = false ∧ InStep scope first (count + 1) written := by
  have hsilent (stream' : StreamState) (hgap : stream'.gapCount = 0)
      (hseq : stream'.hasSequence = false) : InStep scope first (count + 1) stream' :=
    ⟨hgap, fun hs => by rw [hseq] at hs; cases hs⟩
  cases hstep with
  | untouched _ _ hgap => exact ⟨hgap, hsilent _ h.noGap hunstarted⟩
  | superseded _ _ _ hgap => exact ⟨hgap, hsilent _ h.noGap hunstarted⟩
  | refused hs _ _ _ hgap =>
    obtain ⟨hcount, -, hseq⟩ := enterScope_gapCount hs
    exact ⟨hgap, hsilent _ (hcount.trans h.noGap) (hseq hunstarted)⟩
  | refusedLate hs hv _ hw =>
    obtain ⟨hcount, -, hseq⟩ := enterScope_gapCount hs
    rcases (judgeRevision_next _ _ _).1 hv with ⟨-, hgap⟩ | ⟨hstarted, -⟩
    · rw [hgap] at hw ⊢
      rcases hw with rfl | rfl
      · exact ⟨rfl, hsilent _ (hcount.trans h.noGap) (hseq hunstarted)⟩
      · exact ⟨rfl, hsilent _ (hcount.trans h.noGap) (hseq hunstarted)⟩
    · rw [hseq hunstarted] at hstarted
      cases hstarted
  | advanced hs hv _ =>
    obtain ⟨hcount, hhas, hseq⟩ := enterScope_gapCount hs
    rcases (judgeRevision_next _ _ _).1 hv with ⟨-, hgap⟩ | ⟨hstarted, -⟩
    · rw [hgap]
      refine ⟨rfl, hcount.trans h.noGap, fun _ => ⟨hhas, (enterScope_scope hs).trans hscope, ?_⟩⟩
      show observation.provenance.sequence.toNat + 1 = _
      omega
    · rw [hseq hunstarted] at hstarted
      cases hstarted

theorem InStep.started (h : InStep scope first count stream)
    (hstep : StreamStep stream observation outcome written)
    (hscope : scopeOf observation.provenance = scope)
    (hrevision : observation.provenance.sequence.toNat = first + count)
    (hstarted : stream.hasSequence = true) (haccepted : outcome.accepted = true) :
    outcome.revisionGap = false ∧ InStep scope first (count + 1) written := by
  obtain ⟨hhas, hin, hlast⟩ := h.last hstarted
  cases hstep with
  | untouched hno => rw [hno] at haccepted; cases haccepted
  | superseded _ hno => rw [hno] at haccepted; cases haccepted
  | refused _ _ _ hno => rw [hno] at haccepted; cases haccepted
  | refusedLate _ _ hno => rw [hno] at haccepted; cases haccepted
  | advanced hs hv _ =>
    rcases enterScope_ok hs with ⟨hno, -⟩ | ⟨-, hne, -⟩ | ⟨-, -, -, rfl⟩
    · rw [hhas] at hno
      cases hno
    · exact absurd (hin.trans hscope.symm) hne
    rcases (judgeRevision_next _ _ _).1 hv with ⟨hno, -⟩ | ⟨-, -, hgap⟩
    · rw [hstarted] at hno
      cases hno
    have hnone : outcome.revisionGap = false := by
      rw [hgap, decide_eq_false_iff_not]
      omega
    rw [hnone]
    refine ⟨rfl, h.noGap, fun _ => ⟨hhas, hin, ?_⟩⟩
    show observation.provenance.sequence.toNat + 1 = _
    omega

/-- The condition on the records of one source: once its stream has a revision, nothing but the
revision may stand in the way of its observations. -/
def Unhindered (source : SourceId) (σ : Observatory) (record : ParsedRecord) : Prop :=
  match record with
  | .observation declaration =>
    (makeObservation declaration).provenance.source = source →
      (σ.store.streamFor source).hasSequence = true → σ.Admits (makeObservation declaration)
  | _ => True

/-- No gap was found in what a source submitted. -/
structure GapFree (source : SourceId) (log : List Decision) (σ : Observatory) : Prop where
  outcomes : ∀ decision ∈ log, decision.1.provenance.source = source →
    decision.2.revisionGap = false
  counted : ∀ stream, σ.store.streamState source = some stream → stream.gapCount = 0

theorem Observatory.Run.inStep {config : RuntimeConfig}
    (h : Run config (Unhindered source) log σ)
    (hc : ConsecutiveFrom scope first (submissions source log)) :
    (∀ decision ∈ log, decision.1.provenance.source = source → decision.2.revisionGap = false) ∧
      InStep scope first (submissions source log).length (σ.store.streamFor source) := by
  induction h with
  | start =>
    refine ⟨fun _ hmem => (List.not_mem_nil hmem).elim, ?_, fun hs => ?_⟩
    · simp [fresh, EvidenceStore.streamFor]
    · simp [fresh, EvidenceStore.streamFor] at hs
  | record record instant hrun hallowed ih =>
    rename_i log σ
    cases record with
    | none =>
      simp only [decisionsOf, List.append_nil] at hc ⊢
      exact ih hc
    | source declaration =>
      simp only [decisionsOf, List.append_nil] at hc ⊢
      rw [applyRecord, applySource_store]
      exact ih hc
    | link declaration =>
      simp only [decisionsOf, List.append_nil] at hc ⊢
      rw [applyRecord, applyLink_store]
      exact ih hc
    | observation declaration =>
      simp only [decisionsOf, applyRecord]
      simp only [decisionsOf] at hc
      rw [submissions_append] at hc ⊢
      simp only at hc ⊢
      by_cases hsource : (makeObservation declaration).provenance.source = source
      · rw [if_pos hsource] at hc ⊢
        obtain ⟨hbefore, hscope, hrevision⟩ := (consecutiveFrom_append ..).1 hc
        obtain ⟨hclean, hin⟩ := ih hbefore
        have hstep := σ.applyObservation_streamStep (makeObservation declaration) instant
        rw [hsource] at hstep
        have hnext : (σ.applyObservation (makeObservation declaration) instant).2.revisionGap =
            false ∧ InStep scope first ((submissions source log).length + 1)
              ((σ.applyObservation (makeObservation declaration) instant).1.store.streamFor
                source) := by
          cases hstarted : (σ.store.streamFor source).hasSequence with
          | false => exact hin.unstarted hstep hscope hrevision hstarted
          | true =>
            refine hin.started hstep hscope hrevision hstarted ?_
            refine (hallowed hsource hstarted).accepted instant ?_
            rw [hsource]
            obtain ⟨hhas, hsame, hlast⟩ := hin.last hstarted
            rintro (⟨-, hne, -⟩ | ⟨-, -, hle⟩)
            · exact hne (hsame.trans hscope.symm)
            · omega
        refine ⟨fun decision hmem hs => ?_, by rw [List.length_append]; exact hnext.2⟩
        rcases List.mem_append.1 hmem with hmem | hmem
        · exact hclean decision hmem hs
        · rw [List.mem_singleton.1 hmem]
          exact hnext.1
      · rw [if_neg hsource] at hc ⊢
        obtain ⟨hclean, hin⟩ := ih hc
        have hother := EvidenceStore.streamFor_congr
          (σ.applyObservation_stream_other (makeObservation declaration) instant hsource)
        refine ⟨fun decision hmem hs => ?_, by rw [hother]; exact hin⟩
        rcases List.mem_append.1 hmem with hmem | hmem
        · exact hclean decision hmem hs
        · rw [List.mem_singleton.1 hmem] at hs
          exact absurd hs hsource

/-- Consecutive revisions of an unhindered source never open a gap, in any state of the run. -/
theorem Observatory.Run.consecutive_gapFree {config : RuntimeConfig}
    (h : Run config (Unhindered source) log σ)
    (hc : ConsecutiveFrom scope first (submissions source log)) : GapFree source log σ := by
  obtain ⟨hclean, hin⟩ := h.inStep hc
  refine ⟨hclean, fun stream hstream => ?_⟩
  have hfor : σ.store.streamFor source = stream := by
    unfold EvidenceStore.streamState at hstream
    rw [EvidenceStore.streamFor, ExtTreeMap.getD_eq_getD_getElem?, hstream]
    rfl
  rw [← hfor]
  exact hin.noGap

theorem notLate_of_room {store : EvidenceStore}
    (hrank : (store.slots[SlotKey.mk observation.link observation.key]?).any
      (fun slot => authorityDowngrade slot observation source.authority) = false)
    (hroom : store.full = false) (reason : FenceReason) :
    ¬store.LateFence observation source reason := by
  cases reason with
  | authorityDowngrade =>
    rintro ⟨slot, hslot, hdown⟩
    rw [hslot, Option.any_some, hdown] at hrank
    cases hrank
  | storeFull =>
    rintro ⟨-, hfull⟩
    rw [hroom] at hfull
    cases hfull
  | _ => exact id

/-- A reading of the source and the link that `generationRun` declares. -/
def revisionRecord (link : Bytes) (revision : UInt64) : ParsedRecord :=
  .observation
    { link := link, source := ascii "s", incarnation := ascii "i", epoch := ascii "e"
      generation := ascii "g", revision := revision, payload := .adminState .enabled }

theorem Observatory.Run.consecutive_gapFree_two :
    ∃ log σ, Run { policy := makeDefaultPolicy } (Unhindered (.fromName (ascii "s"))) log σ ∧
      (submissions (.fromName (ascii "s")) log).length = 2 ∧
      GapFree (.fromName (ascii "s")) log σ := by
  have hstart : Run { policy := makeDefaultPolicy } (Unhindered (.fromName (ascii "s"))) [] _ :=
    .start
  have hdeclared := (hstart.record
    (.source { name := ascii "s", authority := .primary, provenance := .synthetic }) ⟨0⟩
    trivial).record (.link { name := ascii "l", generation := ascii "g" }) ⟨0⟩ trivial
  have hfirst := hdeclared.record (revisionRecord (ascii "l") 1) ⟨0⟩ fun _ hs =>
    absurd hs (by decide +kernel)
  have hsecond := hfirst.record (revisionRecord (ascii "l") 2) ⟨0⟩ fun _ _ =>
    .of_current
      ⟨{ id := .fromName (ascii "s"), name := ascii "s", authority := .primary
         provenance := .synthetic, registered := true }, by decide +kernel, rfl, rfl, by decide,
        notLate_of_room (by decide +kernel) (by decide +kernel)⟩
      (by decide +kernel) (by decide +kernel) (by decide +kernel)
  let scope : SequenceScope :=
    { source := .fromName (ascii "s"), incarnation := .fromName (ascii "i")
      epoch := .fromName (ascii "e") }
  have hfree {log σ} (hrun : Run { policy := makeDefaultPolicy } (Unhindered scope.source) log σ)
      (hconsecutive : ConsecutiveFrom scope 1 (submissions scope.source log)) :
      GapFree scope.source log σ := hrun.consecutive_gapFree hconsecutive
  exact ⟨_, _, hsecond, by decide +kernel, hfree hsecond (by decide +kernel)⟩

/-- The second of three consecutive revisions names an unknown link: it is fenced, and the third
one is counted as a gap. -/
theorem Observatory.Run.consecutive_gapFree_fails :
    ¬ ∀ (config : RuntimeConfig) (source : SourceId) (scope : SequenceScope) (first : Nat)
      (log : List Decision) (σ : Observatory), Run config (fun _ _ => True) log σ →
      ConsecutiveFrom scope first (submissions source log) → GapFree source log σ := by
  intro h
  have hstart : Run { policy := makeDefaultPolicy } (fun _ _ => True) [] _ := .start
  have hrun := (((hstart.record
    (.source { name := ascii "s", authority := .primary, provenance := .synthetic }) ⟨0⟩
    trivial).record (.link { name := ascii "l", generation := ascii "g" }) ⟨0⟩ trivial).record
    (revisionRecord (ascii "l") 1) ⟨0⟩ trivial).record (revisionRecord (ascii "m") 2) ⟨0⟩
    trivial |>.record (revisionRecord (ascii "l") 3) ⟨0⟩ trivial
  have hfree := h _ (.fromName (ascii "s"))
    { source := .fromName (ascii "s"), incarnation := .fromName (ascii "i")
      epoch := .fromName (ascii "e") } 1 _ _ hrun (by decide +kernel)
  exact absurd (hfree.outcomes _ (List.mem_append_right _ (List.mem_singleton.2 rfl))
    (by decide +kernel)) (by decide +kernel)

end LinkObservatory
