import LinkObservatory.Admission
import LinkObservatory.EvidenceQuery

namespace LinkObservatory
set_option autoImplicit true

open Std

/-- A decided observation. -/
abbrev Decision := Observation × AcceptOutcome

/-- Every store that calls of `accept` and restarts lead to, with the decisions in order. -/
inductive StoreRun : List Decision → EvidenceStore → Prop
  | empty (policy : Policy) : StoreRun [] { policy := policy }
  | accept (observation : Observation) (context : AcceptContext) (now : TimePoint) :
      StoreRun log store →
      StoreRun (log ++ [(observation, (store.accept observation context now).2)])
        (store.accept observation context now).1
  | restart (policy : Policy) : StoreRun log store → (store.restart policy).2.ok = true →
      StoreRun log (store.restart policy).1

/-- The scope changes of one source that a list of decisions made. -/
def scopeChangesOf (source : SourceId) (log : List Decision) : Nat :=
  log.countP fun decision =>
    decision.1.provenance.source == source && decision.2.scopeChanged

/-- A stream that cannot take a revision of `scope` up to `revision` again: it is still in the
scope and past the revision, or it left and fewer than `changes` scopes were retired since. -/
inductive Guards (scope : SequenceScope) (revision : UInt64) (stream : StreamState) : Nat → Prop
  | inForce : stream.hasScope = true → stream.scope = scope → stream.hasSequence = true →
      revision.toNat ≤ stream.lastSequence.toNat → Guards scope revision stream changes
  | superseded : stream.hasScope = true → stream.scope ≠ scope →
      stream.retiredScopes = older ++ scope :: newer → newer.length < changes →
      Guards scope revision stream changes

theorem Guards.hasScope (h : Guards scope revision stream changes) : stream.hasScope = true := by
  cases h <;> assumption

theorem Guards.openGap (h : Guards scope revision stream changes) (gap : Bool) :
    Guards scope revision (stream.openGap gap) changes := by
  cases gap with
  | false => exact h
  | true =>
    cases h with
    | inForce h1 h2 h3 h4 => exact .inForce h1 h2 h3 h4
    | superseded h1 h2 h3 h4 => exact .superseded h1 h2 h3 h4

theorem Guards.countFenced (h : Guards scope revision stream changes) :
    Guards scope revision stream.countFenced changes := by
  cases h with
  | inForce h1 h2 h3 h4 => exact .inForce h1 h2 h3 h4
  | superseded h1 h2 h3 h4 => exact .superseded h1 h2 h3 h4

theorem retired_push (current : SequenceScope) (h : retired = older ++ scope :: newer)
    (hroom : newer.length + 2 ≤ kMaxRetiredScopes) :
    ∃ older', Ring.push kMaxRetiredScopes retired current =
      older' ++ scope :: (newer ++ [current]) := by
  rw [Ring.push, Ring.evict_eq_drop, h, List.append_assoc, List.cons_append,
    List.drop_append_of_le_length]
  · exact ⟨_, rfl⟩
  · simp only [List.length_append, List.length_cons, List.length_nil]
    omega

theorem Guards.enterScope (h : Guards scope revision stream changes)
    (hs : enterScope stream entering = .ok (entered, changed))
    (hroom : changes + changed.toNat ≤ kMaxRetiredScopes) :
    Guards scope revision entered (changes + changed.toNat) ∧
      (entering = scope → entered = stream ∧ stream.scope = scope) := by
  rcases enterScope_ok hs with ⟨h1, -, -⟩ | ⟨h1, h2, h3, rfl, rfl⟩ | ⟨h1, h2, rfl, rfl⟩
  · rw [h.hasScope] at h1
    cases h1
  · cases h with
    | inForce _ h5 h6 h7 =>
      subst h5
      refine ⟨?_, fun he => absurd he.symm h2⟩
      obtain ⟨older, holder⟩ : ∃ older, Ring.push kMaxRetiredScopes stream.retiredScopes
          stream.scope = older ++ stream.scope :: [] := by
        rw [Ring.push, Ring.evict_eq_drop, List.drop_append_of_le_length]
        · exact ⟨_, rfl⟩
        · simp [kMaxRetiredScopes]
      exact .superseded h1 (Ne.symm h2) holder (by simp)
    | superseded _ h5 h6 h7 =>
      have hne : entering ≠ scope := by
        rintro rfl
        exact h3 (by rw [h6]; simp)
      refine ⟨?_, fun he => absurd he hne⟩
      obtain ⟨older', holder⟩ := retired_push stream.scope h6
        (by simp only [Bool.toNat_true] at hroom; omega)
      refine .superseded h1 hne holder ?_
      simp only [List.length_append, List.length_singleton, Bool.toNat_true]
      omega
  · refine ⟨h, fun he => ⟨rfl, h2.trans he⟩⟩

theorem Guards.advance (h : Guards scope revision stream changes)
    (hv : judgeRevision stream observation = .next gap)
    (hs : stream.scope = scopeOf observation.provenance) :
    Guards scope revision ((stream.openGap gap).advance observation) changes ∧
      (scopeOf observation.provenance = scope →
        revision.toNat < observation.provenance.sequence.toNat) := by
  have hscope : (stream.openGap gap).scope = stream.scope := by cases gap <;> rfl
  have hretired : (stream.openGap gap).retiredScopes = stream.retiredScopes := by cases gap <;> rfl
  have hhas : (stream.openGap gap).hasScope = stream.hasScope := by cases gap <;> rfl
  cases h with
  | inForce h1 h2 h3 h4 =>
    rcases (judgeRevision_next _ _ _).1 hv with ⟨hq, -⟩ | ⟨-, hlt, -⟩
    · rw [h3] at hq
      cases hq
    · refine ⟨.inForce (hhas.trans h1) (hscope.trans h2) rfl ?_, fun _ => by omega⟩
      show revision.toNat ≤ observation.provenance.sequence.toNat
      omega
  | superseded h1 h2 h3 h4 =>
    refine ⟨.superseded (hhas.trans h1) (fun he => h2 (hscope.symm.trans he)) (hretired.trans h3) h4,
      fun he => absurd (hs.trans he) h2⟩

theorem enterScope_scope (h : enterScope stream scope = .ok (entered, changed)) :
    entered.scope = scope := by
  rcases enterScope_ok h with ⟨-, -, rfl⟩ | ⟨-, -, -, -, rfl⟩ | ⟨-, h2, -, rfl⟩
  · rfl
  · rfl
  · exact h2

theorem StreamState.openGap_scope (stream : StreamState) (gap : Bool) :
    (stream.openGap gap).scope = stream.scope := by
  cases gap <;> rfl

theorem Guards.step (h : Guards scope revision stream changes)
    (hstep : StreamStep stream observation outcome written)
    (hroom : changes + outcome.scopeChanged.toNat ≤ kMaxRetiredScopes) :
    Guards scope revision written (changes + outcome.scopeChanged.toNat) := by
  cases hstep with
  | untouched _ hc _ =>
    rw [hc]
    exact h
  | superseded _ _ hc _ =>
    rw [hc]
    exact h.countFenced
  | refused hs _ _ _ _ => exact (h.enterScope hs hroom).1.countFenced
  | refusedLate hs hv _ hw =>
    have hg := (h.enterScope hs hroom).1.openGap outcome.revisionGap
    rcases hw with rfl | rfl
    · exact hg
    · exact hg.countFenced
  | advanced hs hv _ => exact ((h.enterScope hs hroom).1.advance hv (enterScope_scope hs)).1

theorem Guards.step_scope (h : Guards scope revision stream changes)
    (hstep : StreamStep stream observation outcome written)
    (hroom : changes + outcome.scopeChanged.toNat ≤ kMaxRetiredScopes)
    (hw : written.scope = scope) :
    stream.scope = scope ∧
      (outcome.accepted = true → scopeOf observation.provenance = scope) := by
  cases hstep with
  | untouched ha _ _ => exact ⟨hw, fun h => by rw [ha] at h; cases h⟩
  | superseded _ ha _ _ => exact ⟨hw, fun h => by rw [ha] at h; cases h⟩
  | refused hs _ _ ha _ =>
    have he := (enterScope_scope hs).symm.trans hw
    exact ⟨((h.enterScope hs hroom).2 he).2, fun h => by rw [ha] at h; cases h⟩
  | refusedLate hs hv ha hwritten =>
    have he : scopeOf observation.provenance = scope := by
      rw [← enterScope_scope hs, ← StreamState.openGap_scope _ outcome.revisionGap]
      rcases hwritten with rfl | rfl <;> exact hw
    exact ⟨((h.enterScope hs hroom).2 he).2, fun _ => he⟩
  | advanced hs hv _ =>
    have he : scopeOf observation.provenance = scope := by
      rw [← enterScope_scope hs, ← StreamState.openGap_scope _ outcome.revisionGap]
      exact hw
    exact ⟨((h.enterScope hs hroom).2 he).2, fun _ => he⟩

/-- Accepting in a guarded scope requires a higher revision and a stream still in that scope. -/
theorem Guards.accepted (h : Guards scope revision stream changes)
    (hstep : StreamStep stream observation outcome written) (ha : outcome.accepted = true)
    (he : scopeOf observation.provenance = scope) :
    stream.scope = scope ∧ revision.toNat < observation.provenance.sequence.toNat := by
  cases hstep with
  | advanced hs hv _ =>
    rcases enterScope_ok hs with ⟨h1, -, -⟩ | ⟨-, h2, h3, -, -⟩ | ⟨-, h2, hc, rfl⟩
    · rw [h.hasScope] at h1
      cases h1
    · cases h with
      | inForce _ h4 _ _ => exact absurd (h4.trans he.symm) h2
      | superseded _ _ h4 _ => exact absurd (by rw [h4, he]; simp) h3
    · exact ⟨h2.trans he, (h.advance hv h2).2 he⟩
  | untouched h1 => rw [ha] at h1; cases h1
  | superseded _ h1 => rw [ha] at h1; cases h1
  | refused _ _ _ h1 => rw [ha] at h1; cases h1
  | refusedLate _ _ h1 => rw [ha] at h1; cases h1

theorem Guards.of_accepted (hstep : StreamStep stream observation outcome written)
    (ha : outcome.accepted = true) :
    Guards (scopeOf observation.provenance) observation.provenance.sequence written 0 := by
  cases hstep with
  | advanced hs hv _ =>
    have hscope := enterScope_scope hs
    rcases enterScope_ok hs with ⟨-, -, rfl⟩ | ⟨h1, -, -, -, rfl⟩ | ⟨h1, -, -, rfl⟩
    all_goals
      refine .inForce ?_ ((StreamState.openGap_scope _ _).trans hscope) rfl (Nat.le_refl _)
      cases outcome.revisionGap <;> first | rfl | exact h1
  | untouched h1 => rw [ha] at h1; cases h1
  | superseded _ h1 => rw [ha] at h1; cases h1
  | refused _ _ _ h1 => rw [ha] at h1; cases h1
  | refusedLate _ _ h1 => rw [ha] at h1; cases h1

theorem scopeChangesOf_append (source : SourceId) (log : List Decision) (decision : Decision) :
    scopeChangesOf source (log ++ [decision]) = scopeChangesOf source log +
      (decision.1.provenance.source == source && decision.2.scopeChanged).toNat := by
  rw [scopeChangesOf, List.countP_append, List.countP_singleton]
  cases decision.1.provenance.source == source && decision.2.scopeChanged <;> rfl

/-- What holds of the stream of `first` after the later decisions. -/
structure Fenced (first : Observation) (later : List Decision) (store : EvidenceStore) : Prop where
  guard : Guards (scopeOf first.provenance) first.provenance.sequence
    (store.streamFor first.provenance.source) (scopeChangesOf first.provenance.source later)
  stayed : (store.streamFor first.provenance.source).scope = scopeOf first.provenance →
    ∀ decision ∈ later, decision.1.provenance.source = first.provenance.source →
      decision.2.accepted = true → scopeOf decision.1.provenance = scopeOf first.provenance

theorem EvidenceStore.streamFor_congr {store store' : EvidenceStore}
    (h : store'.streams[source]? = store.streams[source]?) :
    store'.streamFor source = store.streamFor source := by
  rw [streamFor, streamFor, ExtTreeMap.getD_eq_getD_getElem?, ExtTreeMap.getD_eq_getD_getElem?, h]

theorem Fenced.accept (h : Fenced first later store) (observation : Observation)
    (context : AcceptContext) (now : TimePoint)
    (hroom : scopeChangesOf first.provenance.source
      (later ++ [(observation, (store.accept observation context now).2)]) ≤ kMaxRetiredScopes) :
    Fenced first (later ++ [(observation, (store.accept observation context now).2)])
      (store.accept observation context now).1 := by
  rw [scopeChangesOf_append] at hroom
  by_cases hsource : observation.provenance.source = first.provenance.source
  · have hstep := store.accept_streamStep observation context now
    rw [hsource] at hstep
    simp only [hsource, BEq.rfl, Bool.true_and] at hroom
    constructor
    · rw [scopeChangesOf_append]
      simpa only [hsource, BEq.rfl, Bool.true_and] using h.guard.step hstep hroom
    · intro hscope decision hmem hsame haccepted
      obtain ⟨hbefore, hlast⟩ := h.guard.step_scope hstep hroom hscope
      rcases List.mem_append.1 hmem with hmem | hmem
      · exact h.stayed hbefore decision hmem hsame haccepted
      · cases List.mem_singleton.1 hmem
        exact hlast haccepted
  · have hother := EvidenceStore.streamFor_congr
      (store.accept_stream_other observation context now hsource)
    have hne : (observation.provenance.source == first.provenance.source) = false :=
      beq_eq_false_iff_ne.2 hsource
    constructor
    · rw [scopeChangesOf_append, hother]
      simpa only [hne, Bool.false_and, Bool.toNat_false, Nat.add_zero] using h.guard
    · intro hscope decision hmem hsame haccepted
      rw [hother] at hscope
      rcases List.mem_append.1 hmem with hmem | hmem
      · exact h.stayed hscope decision hmem hsame haccepted
      · cases List.mem_singleton.1 hmem
        exact absurd hsame hsource

theorem Fenced.of_accepted {store : EvidenceStore}
    (h : (store.accept observation context now).2.accepted = true) :
    Fenced observation [] (store.accept observation context now).1 :=
  ⟨.of_accepted (store.accept_streamStep observation context now) h,
    fun _ _ hmem => (List.not_mem_nil hmem).elim⟩

/-- A property of every accepted observation, given the decisions that followed it. -/
def Since (motive : Observation → List Decision → EvidenceStore → Prop) (log : List Decision)
    (store : EvidenceStore) : Prop :=
  ∀ before first outcome later, log = before ++ (first, outcome) :: later →
    outcome.accepted = true → motive first later store

theorem Since.append {motive : Observation → List Decision → EvidenceStore → Prop}
    (h : Since motive log store)
    (hstep : ∀ first later, motive first later store → motive first (later ++ [decision]) store')
    (hnew : decision.2.accepted = true → motive decision.1 [] store') :
    Since motive (log ++ [decision]) store' := by
  intro before first outcome later hlog haccepted
  rcases List.eq_nil_or_concat' later with rfl | ⟨init, last, rfl⟩
  · obtain ⟨-, hlast⟩ := List.append_inj' hlog rfl
    cases hlast
    exact hnew haccepted
  · rw [← List.cons_append, ← List.append_assoc] at hlog
    obtain ⟨hinit, hlast⟩ := List.append_inj' hlog rfl
    cases hlast
    exact hstep first init (h before first outcome init hinit haccepted)

theorem StoreRun.fenced (h : StoreRun log store) :
    Since (fun first later store =>
      scopeChangesOf first.provenance.source later ≤ kMaxRetiredScopes → Fenced first later store)
      log store := by
  induction h with
  | empty => exact fun _ _ _ _ hlog => by simp at hlog
  | restart policy _ hok ih =>
    intro before first outcome later hlog haccepted hroom
    have hf := ih before first outcome later hlog haccepted hroom
    have hlookup := congrArg (fun streams => streams[first.provenance.source]?)
      (EvidenceStore.restart_streams hok)
    have hs := EvidenceStore.streamFor_congr hlookup
    exact ⟨by rw [hs]; exact hf.guard, by rw [hs]; exact hf.stayed⟩
  | accept observation context now hrun ih =>
    refine ih.append (fun first later hf hroom => ?_) fun haccepted _ => .of_accepted haccepted
    have hle : scopeChangesOf first.provenance.source later ≤ kMaxRetiredScopes := by
      rw [scopeChangesOf_append] at hroom
      omega
    exact (hf hle).accept observation context now hroom

theorem StoreRun.decided (h : StoreRun log store)
    (hlog : log = before ++ (observation, outcome) :: after) :
    ∃ store' context now, StoreRun before store' ∧
      outcome = (store'.accept observation context now).2 := by
  induction h generalizing after with
  | empty => simp at hlog
  | restart policy _ _ ih => exact ih hlog
  | accept last context now hrun ih =>
    rename_i log store
    rcases List.eq_nil_or_concat' after with rfl | ⟨init, final, rfl⟩
    · obtain ⟨hbefore, hlast⟩ := List.append_inj' hlog rfl
      cases hlast
      exact ⟨store, context, now, hbefore ▸ hrun, rfl⟩
    · rw [← List.cons_append, ← List.append_assoc] at hlog
      exact ih (List.append_inj' hlog rfl).1

/-- Within 32 scope changes no scope is re-admitted and no revision is admitted again, across
restarts. -/
theorem StoreRun.no_replay (h : StoreRun log store)
    (hlog : log = before ++ (a, aOutcome) :: between ++ (b, bOutcome) :: after)
    (ha : aOutcome.accepted = true) (hb : bOutcome.accepted = true)
    (hscope : scopeOf b.provenance = scopeOf a.provenance)
    (hchanges : scopeChangesOf a.provenance.source between ≤ 32) :
    (∀ decision ∈ between, decision.1.provenance.source = a.provenance.source →
      decision.2.accepted = true → scopeOf decision.1.provenance = scopeOf a.provenance) ∧
      a.provenance.sequence < b.provenance.sequence := by
  obtain ⟨store', context, now, hrun, rfl⟩ := h.decided hlog
  have hf := hrun.fenced before a aOutcome between rfl ha hchanges
  have hsource : b.provenance.source = a.provenance.source :=
    congrArg SequenceScope.source hscope
  have hstep := store'.accept_streamStep b context now
  rw [hsource] at hstep
  obtain ⟨hcurrent, hlt⟩ := hf.guard.accepted hstep hb hscope
  exact ⟨hf.stayed hcurrent, UInt64.lt_iff_toNat_lt.2 hlt⟩

/-- A reading, the same again, one of another source, and after a restart the next revision. -/
theorem StoreRun.no_replay_consecutive :
    let a := adminReport ⟨⟨0, 1⟩⟩ 1 ⟨1⟩
    let b := adminReport ⟨⟨0, 1⟩⟩ 2 ⟨4⟩
    ∃ first again other second store,
      StoreRun [(a, first), (a, again), (adminReport ⟨⟨0, 2⟩⟩ 1 ⟨3⟩, other), (b, second)] store ∧
      (again.accepted = false ∧ other.accepted = true) ∧
      (∀ decision ∈ [(a, again), (adminReport ⟨⟨0, 2⟩⟩ 1 ⟨3⟩, other)],
        decision.1.provenance.source = a.provenance.source → decision.2.accepted = true →
          scopeOf decision.1.provenance = scopeOf a.provenance) ∧
      a.provenance.sequence < b.provenance.sequence := by
  intro a b
  let context (source : SourceId) : AcceptContext :=
    { source := some (registeredSource source .primary) }
  have h := ((((StoreRun.empty makeDefaultPolicy).accept a (context ⟨⟨0, 1⟩⟩) ⟨1⟩).accept a
    (context ⟨⟨0, 1⟩⟩) ⟨2⟩).accept (adminReport ⟨⟨0, 2⟩⟩ 1 ⟨3⟩) (context ⟨⟨0, 2⟩⟩) ⟨3⟩).restart
      makeDefaultPolicy (by decide +kernel)
  have hnext := h.accept b (context ⟨⟨0, 1⟩⟩) ⟨4⟩
  have hlog (first again other second : Decision) : [first, again, other, second] =
    [] ++ first :: [again, other] ++ second :: [] := rfl
  exact ⟨_, _, _, _, _, hnext, by decide +kernel, hnext.no_replay (hlog (_, _) (_, _) (_, _) (_, _))
    (by decide +kernel) (by decide +kernel) rfl (by decide +kernel)⟩

end LinkObservatory
