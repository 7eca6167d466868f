import LinkObservatory.Admission

namespace LinkObservatory
set_option autoImplicit true

open Std

def StreamState.withoutFenced (stream : StreamState) : StreamState := { stream with fenced := 0 }

@[simp] theorem StreamState.countFenced_withoutFenced (stream : StreamState) :
    stream.countFenced.withoutFenced = stream.withoutFenced := rfl

/-- The stores agree up to the refusal counters. -/
structure SameExceptRefusals (source : SourceId) (before after : EvidenceStore) : Prop where
  policy : after.policy = before.policy
  slots : after.slots = before.slots
  streams : ∀ other ≠ source, after.streams[other]? = before.streams[other]?
  stream : (after.streams[source]?).map StreamState.withoutFenced =
    (before.streams[source]?).map StreamState.withoutFenced
  totalAccepted : after.totalAccepted = before.totalAccepted
  revisionGaps : after.revisionGaps = before.revisionGaps
  counterResets : after.counterResets = before.counterResets
  counterWraps : after.counterWraps = before.counterWraps

/-- The observation would move its stream: into its first scope, into a new one, or over a gap. -/
def StreamState.Moves (stream : StreamState) (observation : Observation) : Prop :=
  stream.hasScope = false ∨
  (stream.scope ≠ scopeOf observation.provenance ∧
    scopeOf observation.provenance ∉ stream.retiredScopes) ∨
  (stream.scope = scopeOf observation.provenance ∧ stream.hasSequence = true ∧
    stream.lastSequence.toNat + 1 < observation.provenance.sequence.toNat)

/-- A fence behind the stream stage applies. The first alternative needs a stream that has a
revision but no scope, which no run of the store produces. -/
def EvidenceStore.FencedLate (store : EvidenceStore) (observation : Observation)
    (source : SourceRecord) : Prop :=
  ((store.streamFor observation.provenance.source).hasScope = false ∧
    (store.streamFor observation.provenance.source).hasSequence = true ∧
    observation.provenance.sequence.toNat ≤
      (store.streamFor observation.provenance.source).lastSequence.toNat) ∨
  ∃ reason, store.LateFence observation source reason

/-- The observation passes the early fences, moves its stream and is refused after that. -/
def EvidenceStore.Disturbs (store : EvidenceStore) (observation : Observation)
    (context : AcceptContext) : Prop :=
  ∃ source, store.admission observation context = .ok source ∧
    (store.streamFor observation.provenance.source).Moves observation ∧
    store.FencedLate observation source

theorem SameExceptRefusals.countFence (h : SameExceptRefusals source before after) :
    SameExceptRefusals source before (after.countFence reason) :=
  ⟨h.policy, h.slots, h.streams, h.stream, h.totalAccepted, h.revisionGaps, h.counterResets,
    h.counterWraps⟩

theorem SameExceptRefusals.refl (source : SourceId) (store : EvidenceStore) :
    SameExceptRefusals source store store :=
  ⟨rfl, rfl, fun _ _ => rfl, rfl, rfl, rfl, rfl, rfl⟩

theorem EvidenceStore.lookup_of_hasScope {store : EvidenceStore}
    (h : (store.streamFor source).hasScope = true) :
    store.streams[source]? = some (store.streamFor source) := by
  unfold streamFor at *
  rw [ExtTreeMap.getD_eq_getD_getElem?] at *
  cases hs : store.streams[source]? with
  | none =>
    rw [hs] at h
    cases h
  | some stream => rfl

/-- Writing back a stream that differs only in its refusal count is invisible. -/
theorem SameExceptRefusals.setStream {store : EvidenceStore} (written : StreamState)
    (h : (store.streamFor source).hasScope = true)
    (hw : written.withoutFenced = (store.streamFor source).withoutFenced) :
    SameExceptRefusals source store (store.setStream source written) where
  policy := rfl
  slots := rfl
  streams other hne := OrderedMap.lookup_insert_of_ne _ (Ne.symm hne) _
  stream := by
    rw [store.lookup_of_hasScope h]
    simp only [EvidenceStore.setStream, ExtTreeMap.getElem?_insert_self, Option.map_some, hw]
  totalAccepted := rfl
  revisionGaps := rfl
  counterResets := rfl
  counterWraps := rfl

theorem SameExceptRefusals.not_setStream {store after : EvidenceStore} {written : StreamState}
    (hw : (store.streamFor source).withoutFenced ≠ written.withoutFenced) :
    ¬SameExceptRefusals source store ((after.setStream source written).countFence reason) := by
  intro h
  have hs := h.stream
  simp only [EvidenceStore.countFence, EvidenceStore.setStream, ExtTreeMap.getElem?_insert_self,
    Option.map_some] at hs
  cases hlook : store.streams[source]? with
  | none => simp [hlook] at hs
  | some found =>
    have hfor : store.streamFor source = found := by
      rw [EvidenceStore.streamFor, ExtTreeMap.getD_eq_getD_getElem?, hlook, Option.getD_some]
    rw [hlook, Option.map_some, Option.some.injEq] at hs
    exact hw (by rw [hfor, hs])

theorem StreamState.Moves.visible (hm : StreamState.Moves stream observation)
    (hs : enterScope stream (scopeOf observation.provenance) = .ok (entered, changed))
    (hv : judgeRevision entered observation = .next gap) :
    stream.withoutFenced ≠ (entered.openGap gap).withoutFenced := by
  intro he
  have hscope := congrArg StreamState.scopeChanges he
  have hgap := congrArg StreamState.gapCount he
  rcases enterScope_ok hs with ⟨-, -, rfl⟩ | ⟨-, -, -, -, rfl⟩ | ⟨h1, h2, -, rfl⟩
  · cases gap <;> simp [withoutFenced, openGap] at hscope
  · cases gap <;> simp [withoutFenced, openGap] at hscope
  · rcases hm with hm | hm | hm
    · rw [h1] at hm
      cases hm
    · exact hm.1 h2
    · rcases (judgeRevision_next _ _ _).1 hv with ⟨hq, -⟩ | ⟨-, -, rfl⟩
      · rw [hm.2.1] at hq
        cases hq
      · simp [withoutFenced, openGap, hm.2.2] at hgap

theorem StreamState.not_moves (hm : ¬StreamState.Moves stream observation)
    (hs : enterScope stream (scopeOf observation.provenance) = .ok (entered, changed))
    (hv : judgeRevision entered observation = .next gap) :
    stream.hasScope = true ∧ entered = stream ∧ gap = false := by
  rcases enterScope_ok hs with ⟨h1, -, -⟩ | ⟨-, h2, h3, -, -⟩ | ⟨h1, h2, -, rfl⟩
  · exact absurd (.inl h1) hm
  · exact absurd (.inr (.inl ⟨h2, h3⟩)) hm
  · refine ⟨h1, rfl, ?_⟩
    rcases (judgeRevision_next _ _ _).1 hv with ⟨-, rfl⟩ | ⟨hq, -, rfl⟩
    · rfl
    · exact decide_eq_false (fun hlt => hm (.inr (.inr ⟨h2, hq, hlt⟩)))

theorem SameExceptRefusals.late_iff {store : EvidenceStore} {written : StreamState}
    (hs : enterScope (store.streamFor observation.provenance.source)
      (scopeOf observation.provenance) = .ok (entered, changed))
    (hv : judgeRevision entered observation = .next gap)
    (hw : written.withoutFenced = (entered.openGap gap).withoutFenced) :
    SameExceptRefusals observation.provenance.source store
        (((store.countGap gap).setStream observation.provenance.source written).countFence reason) ↔
      ¬(store.streamFor observation.provenance.source).Moves observation := by
  constructor
  · intro h hm
    exact SameExceptRefusals.not_setStream (by rw [hw]; exact hm.visible hs hv) h
  · intro hm
    obtain ⟨h1, rfl, rfl⟩ := StreamState.not_moves hm hs hv
    exact (SameExceptRefusals.setStream _ h1 hw).countFence

theorem SameExceptRefusals.revision_iff {store after : EvidenceStore}
    (hs : enterScope (store.streamFor observation.provenance.source)
      (scopeOf observation.provenance) = .ok (entered, changed))
    (hv : judgeRevision entered observation = verdict)
    (hr : verdict = .duplicate ∨ verdict = .replay)
    (hafter : after = { store with duplicates := after.duplicates }) :
    SameExceptRefusals observation.provenance.source store
        ((after.setStream observation.provenance.source entered.countFenced).countFence reason) ↔
      ¬((store.streamFor observation.provenance.source).hasScope = false) := by
  obtain ⟨hq, hle⟩ := judgeRevision_refused hv hr
  rcases enterScope_ok hs with ⟨h1, -, rfl⟩ | ⟨-, -, -, -, rfl⟩ | ⟨h1, -, -, rfl⟩
  · refine iff_of_false (SameExceptRefusals.not_setStream (fun he => ?_)) (not_not.2 h1)
    have := congrArg StreamState.scopeChanges he
    simp [StreamState.withoutFenced, StreamState.countFenced] at this
  · cases hq
  · refine iff_of_true ?_ (by rw [h1]; decide)
    have h := SameExceptRefusals.setStream (store.streamFor _).countFenced h1 rfl
    rw [hafter]
    exact ⟨h.policy, h.slots, h.streams, h.stream, h.totalAccepted, h.revisionGaps,
      h.counterResets, h.counterWraps⟩

theorem EvidenceStore.Disturbs.of_late {store : EvidenceStore}
    (ha : store.admission observation context = .ok source)
    (hlate : store.LateFence observation source reason) :
    store.Disturbs observation context ↔
      (store.streamFor observation.provenance.source).Moves observation := by
  constructor
  · rintro ⟨-, -, hm, -⟩
    exact hm
  · exact fun hm => ⟨source, ha, hm, .inr ⟨reason, hlate⟩⟩

theorem EvidenceStore.Disturbs.of_revision {store : EvidenceStore}
    (ha : store.admission observation context = .ok source)
    (hs : enterScope (store.streamFor observation.provenance.source)
      (scopeOf observation.provenance) = .ok (entered, changed))
    (hv : judgeRevision entered observation = verdict)
    (hr : verdict = .duplicate ∨ verdict = .replay) :
    store.Disturbs observation context ↔
      (store.streamFor observation.provenance.source).hasScope = false := by
  obtain ⟨hq, hle⟩ := judgeRevision_refused hv hr
  rcases enterScope_ok hs with ⟨h1, -, rfl⟩ | ⟨-, -, -, -, rfl⟩ | ⟨h1, h2, -, rfl⟩
  · exact iff_of_true ⟨source, ha, .inl h1, .inl ⟨h1, hq, hle⟩⟩ h1
  · cases hq
  · refine iff_of_false ?_ (by rw [h1]; decide)
    rintro ⟨-, -, hm | hm | hm, -⟩
    · rw [h1] at hm
      cases hm
    · exact hm.1 h2
    · omega

/-- A refused observation leaves no trace beyond the refusal counters, unless it moved its stream
before a late fence stopped it. -/
theorem EvidenceStore.accept_refused_unchanged_iff (store : EvidenceStore)
    (observation : Observation) (context : AcceptContext) (now : TimePoint) :
    ((store.accept observation context now).2.accepted = false →
      SameExceptRefusals observation.provenance.source store
        (store.accept observation context now).1) ↔ ¬store.Disturbs observation context := by
  have hstep := store.accept_step observation context now
  generalize (store.accept observation context now).1 = after at *
  generalize (store.accept observation context now).2 = outcome at *
  cases hstep with
  | refused ha =>
    refine iff_of_true (fun _ => (SameExceptRefusals.refl _ _).countFence) ?_
    rintro ⟨source, hok, -, -⟩
    rw [ha] at hok
    cases hok
  | superseded ha hs =>
    obtain ⟨h1, h2, h3⟩ := enterScope_error hs
    refine iff_of_true (fun _ => (SameExceptRefusals.setStream _ h1
      (StreamState.countFenced_withoutFenced _)).countFence) ?_
    rintro ⟨source, -, hm | hm | hm, -⟩
    · rw [h1] at hm
      cases hm
    · exact hm.2 h3
    · exact h2 hm.1
  | duplicate ha hs hv =>
    simp only [forall_const]
    rw [SameExceptRefusals.revision_iff hs hv (.inl rfl) rfl]
    exact not_congr (Disturbs.of_revision ha hs hv (.inl rfl)).symm
  | replay ha hs hv =>
    simp only [forall_const]
    rw [SameExceptRefusals.revision_iff hs hv (.inr rfl) rfl]
    exact not_congr (Disturbs.of_revision ha hs hv (.inr rfl)).symm
  | downgrade ha hs hv hlate =>
    simp only [forall_const]
    rw [SameExceptRefusals.late_iff hs hv (StreamState.countFenced_withoutFenced _)]
    exact not_congr (Disturbs.of_late ha hlate).symm
  | full ha hs hv hlate =>
    simp only [forall_const]
    rw [SameExceptRefusals.late_iff hs hv rfl]
    exact not_congr (Disturbs.of_late ha hlate).symm
  | recorded ha hs hv hnone =>
    rw [recordEvidence_accepted]
    refine iff_of_true (fun h => nomatch h) ?_
    rintro ⟨source, hok, hm, ⟨h1, h2, h3⟩ | ⟨reason, hlate⟩⟩
    · rcases enterScope_ok hs with ⟨-, -, rfl⟩ | ⟨h4, -⟩ | ⟨h4, -⟩
      · rcases (judgeRevision_next _ _ _).1 hv with ⟨hq, -⟩ | ⟨-, hlt, -⟩
        · rw [h2] at hq
          cases hq
        · exact absurd hlt (Nat.not_lt.2 h3)
      · rw [h1] at h4
        cases h4
      · rw [h1] at h4
        cases h4
    · rw [ha] at hok
      cases hok
      exact hnone reason hlate

/-- A secondary source's first observation, older than the evidence of a primary one, is refused
and still opens the stream. -/
theorem accept_refused_unchanged_fails :
    ¬ ∀ (store : EvidenceStore) (observation : Observation) (context : AcceptContext)
      (now : TimePoint), (store.accept observation context now).2.accepted = false →
      SameExceptRefusals observation.provenance.source store
        (store.accept observation context now).1 := by
  intro h
  let store : EvidenceStore := (EvidenceStore.accept { policy := makeDefaultPolicy }
    (adminReport ⟨⟨0, 1⟩⟩ 1 ⟨2⟩) { source := some (registeredSource ⟨⟨0, 1⟩⟩ .primary) } ⟨2⟩).1
  have hs := (h store (adminReport ⟨⟨0, 2⟩⟩ 1 ⟨1⟩)
    { source := some (registeredSource ⟨⟨0, 2⟩⟩ .secondary) } ⟨3⟩ (by decide +kernel)).stream
  exact absurd (congrArg Option.isSome hs) (by decide +kernel)

end LinkObservatory
