import LinkObservatory.EvidenceStore

namespace LinkObservatory
set_option autoImplicit true

open Std

/-- The late fences: a retained item outranks the observation, or there is no room for its slot. -/
def EvidenceStore.LateFence (store : EvidenceStore) (observation : Observation)
    (source : SourceRecord) : FenceReason → Prop
  | .authorityDowngrade => ∃ slot, store.slots[SlotKey.mk observation.link observation.key]? = some slot ∧
      authorityDowngrade slot observation source.authority = true
  | .storeFull => store.slots[SlotKey.mk observation.link observation.key]? = none ∧
      store.full = true
  | _ => False

/-- Everything one call of `accept` can do. -/
inductive AcceptStep (store : EvidenceStore) (observation : Observation) (context : AcceptContext)
    (now : TimePoint) : EvidenceStore → AcceptOutcome → Prop
  | refused : store.admission observation context = .error reason →
      AcceptStep store observation context now (store.countFence reason) { fence := reason }
  | superseded : store.admission observation context = .ok source →
      enterScope (store.streamFor observation.provenance.source)
        (scopeOf observation.provenance) = .error reason →
      AcceptStep store observation context now
        ((store.setStream observation.provenance.source
          (store.streamFor observation.provenance.source).countFenced).countFence reason)
        { fence := reason }
  | duplicate : store.admission observation context = .ok source →
      enterScope (store.streamFor observation.provenance.source)
        (scopeOf observation.provenance) = .ok (stream, changed) →
      judgeRevision stream observation = .duplicate →
      AcceptStep store observation context now
        (({ store with duplicates := store.duplicates + 1 }.setStream observation.provenance.source
          stream.countFenced).countFence .duplicateObservation)
        { fence := .duplicateObservation, duplicate := true, scopeChanged := changed }
  | replay : store.admission observation context = .ok source →
      enterScope (store.streamFor observation.provenance.source)
        (scopeOf observation.provenance) = .ok (stream, changed) →
      judgeRevision stream observation = .replay →
      AcceptStep store observation context now
        ((store.setStream observation.provenance.source stream.countFenced).countFence
          .revisionReplay)
        { fence := .revisionReplay, scopeChanged := changed }
  | downgrade : store.admission observation context = .ok source →
      enterScope (store.streamFor observation.provenance.source)
        (scopeOf observation.provenance) = .ok (stream, changed) →
      judgeRevision stream observation = .next gap →
      store.LateFence observation source .authorityDowngrade →
      AcceptStep store observation context now
        (((store.countGap gap).setStream observation.provenance.source
          (stream.openGap gap).countFenced).countFence .authorityDowngrade)
        { fence := .authorityDowngrade, revisionGap := gap, scopeChanged := changed }
  | full : store.admission observation context = .ok source →
      enterScope (store.streamFor observation.provenance.source)
        (scopeOf observation.provenance) = .ok (stream, changed) →
      judgeRevision stream observation = .next gap →
      store.LateFence observation source .storeFull →
      AcceptStep store observation context now
        (((store.countGap gap).setStream observation.provenance.source
          (stream.openGap gap)).countFence .storeFull)
        { fence := .storeFull, revisionGap := gap, scopeChanged := changed }
  | recorded : store.admission observation context = .ok source →
      enterScope (store.streamFor observation.provenance.source)
        (scopeOf observation.provenance) = .ok (stream, changed) →
      judgeRevision stream observation = .next gap →
      (∀ reason, ¬store.LateFence observation source reason) →
      AcceptStep store observation context now
        ((store.countGap gap).recordEvidence observation source (stream.openGap gap)
          { revisionGap := gap, scopeChanged := changed } now).1
        ((store.countGap gap).recordEvidence observation source (stream.openGap gap)
          { revisionGap := gap, scopeChanged := changed } now).2

@[simp] theorem EvidenceStore.countGap_slots (store : EvidenceStore) (gap : Bool) :
    (store.countGap gap).slots = store.slots := rfl

theorem EvidenceStore.accept_step (store : EvidenceStore) (observation : Observation)
    (context : AcceptContext) (now : TimePoint) :
    AcceptStep store observation context now (store.accept observation context now).1
      (store.accept observation context now).2 := by
  unfold accept
  cases ha : store.admission observation context with
  | error reason => exact .refused ha
  | ok source =>
    simp only
    cases hs : enterScope (store.streamFor observation.provenance.source)
        (scopeOf observation.provenance) with
    | error reason => exact .superseded ha hs
    | ok entered =>
      obtain ⟨stream, changed⟩ := entered
      simp only
      cases hv : judgeRevision stream observation with
      | duplicate => exact .duplicate ha hs hv
      | replay => exact .replay ha hs hv
      | next gap =>
        by_cases hd : (store.slots[SlotKey.mk observation.link observation.key]?).any
            fun slot => authorityDowngrade slot observation source.authority
        · have hlate := Option.any_eq_true _ _ |>.1 hd
          simpa only [EvidenceStore.countGap, hd, ↓reduceIte] using .downgrade ha hs hv hlate
        by_cases hf : store.slots[SlotKey.mk observation.link observation.key]? = none ∧
            store.full = true
        · have hfull : (store.countGap gap).full = true := hf.2
          simpa only [countGap_slots, hd, hfull, hf.1, Option.isNone_none, Bool.and_self, ↓reduceIte,
            Bool.false_eq_true] using .full ha hs hv hf
        · have hroom : ¬((store.countGap gap).full &&
              (store.slots[SlotKey.mk observation.link observation.key]?).isNone) = true := by
            rw [Bool.and_eq_true, Option.isNone_iff_eq_none]
            exact fun h => hf ⟨h.2, h.1⟩
          simp only [countGap_slots, hd, hroom, ↓reduceIte, Bool.false_eq_true]
          refine .recorded ha hs hv (fun reason hlate => ?_)
          cases reason with
          | authorityDowngrade => exact hd (Option.any_eq_true _ _ |>.2 hlate)
          | storeFull => exact hf hlate
          | _ => exact hlate

theorem fenceStream_eq_none (state : StreamState) (scope : SequenceScope) :
    fenceStream state scope = .none ↔ scope ∉ state.retiredScopes := by
  have hany : (state.retiredScopes.any fun candidate => candidate == scope) = true ↔
      scope ∈ state.retiredScopes := by simp
  unfold fenceStream
  by_cases h : scope ∈ state.retiredScopes
  · rw [if_neg (by rw [hany.2 h]; decide)]
    split <;> simp [h]
  · rw [if_pos (by rwa [Bool.not_eq_true', ← Bool.not_eq_true, hany])]
    simp [h]

/-- The three ways into a scope: the first one, a new one, or the one in force. -/
theorem enterScope_ok (h : enterScope stream scope = .ok (stream', changed)) :
    (stream.hasScope = false ∧ changed = true ∧ stream' = { stream with
        hasScope := true, scope := scope, scopeChanges := stream.scopeChanges + 1 }) ∨
    (stream.hasScope = true ∧ stream.scope ≠ scope ∧ scope ∉ stream.retiredScopes ∧
      changed = true ∧ stream' = { stream with
        retiredScopes := Ring.push kMaxRetiredScopes stream.retiredScopes stream.scope
        scope := scope, hasSequence := false, gapOpen := false
        scopeChanges := stream.scopeChanges + 1 }) ∨
    (stream.hasScope = true ∧ stream.scope = scope ∧ changed = false ∧ stream' = stream) := by
  unfold enterScope at h
  split at h
  · rename_i hs
    cases h
    exact .inl ⟨by simpa using hs, rfl, rfl⟩
  · rename_i hs
    have hs : stream.hasScope = true := by simpa using hs
    split at h
    · rename_i hne
      simp only at h
      split at h
      · cases h
      · rename_i hf
        cases h
        exact .inr (.inl ⟨hs, hne, (fenceStream_eq_none _ _).1 (not_not.1 hf), rfl, rfl⟩)
    · rename_i heq
      cases h
      exact .inr (.inr ⟨hs, not_not.1 heq, rfl, rfl⟩)

theorem enterScope_error (h : enterScope stream scope = .error reason) :
    stream.hasScope = true ∧ stream.scope ≠ scope ∧ scope ∈ stream.retiredScopes := by
  unfold enterScope at h
  split at h
  · cases h
  · rename_i hs
    have hs : stream.hasScope = true := by simpa using hs
    split at h
    · rename_i hne
      simp only at h
      split at h
      · rename_i hf
        refine ⟨hs, hne, ?_⟩
        by_contra hnot
        exact hf ((fenceStream_eq_none _ _).2 hnot)
      · cases h
    · cases h

theorem judgeRevision_next (stream : StreamState) (observation : Observation) (gap : Bool) :
    judgeRevision stream observation = .next gap ↔
      (stream.hasSequence = false ∧ gap = false) ∨
      (stream.hasSequence = true ∧
        stream.lastSequence.toNat < observation.provenance.sequence.toNat ∧
        gap = decide (stream.lastSequence.toNat + 1 < observation.provenance.sequence.toNat)) := by
  unfold judgeRevision
  cases hq : stream.hasSequence with
  | false => simp [eq_comm]
  | true =>
    simp only [Bool.not_true, Bool.false_eq_true, ↓reduceIte, true_and, false_and, false_or,
      reduceCtorEq]
    by_cases he : observation.provenance.sequence = stream.lastSequence
    · rw [if_pos he, he]
      split <;> simp
    · rw [if_neg he]
      cases hn : sequenceNext stream.lastSequence with
      | none =>
        rw [sequenceNext_eq_none] at hn
        have hlt := observation.provenance.sequence.toNat_lt
        simp only [reduceCtorEq, false_iff, not_and]
        omega
      | some expected =>
        have hexp := sequenceNext_some hn
        have hne : observation.provenance.sequence.toNat ≠ stream.lastSequence.toNat :=
          fun h => he (UInt64.toNat_inj.1 h)
        simp only [UInt64.lt_iff_toNat_lt, gt_iff_lt, hexp]
        split
        · simp only [reduceCtorEq, false_iff, not_and]
          omega
        · simp only [RevisionVerdict.next.injEq, eq_comm (a := decide _)]
          constructor
          · exact fun h => ⟨by omega, h⟩
          · exact fun h => h.2

theorem judgeRevision_refused (hd : judgeRevision stream observation = verdict)
    (h : verdict = .duplicate ∨ verdict = .replay) :
    stream.hasSequence = true ∧
      observation.provenance.sequence.toNat ≤ stream.lastSequence.toNat := by
  have hnot : ∀ gap, judgeRevision stream observation ≠ .next gap := by
    intro gap hgap
    rw [hd] at hgap
    rcases h with rfl | rfl <;> cases hgap
  have hfirst := mt (judgeRevision_next stream observation false).2 (hnot false)
  have hlater := mt (judgeRevision_next stream observation _).2
    (hnot (decide (stream.lastSequence.toNat + 1 < observation.provenance.sequence.toNat)))
  cases hq : stream.hasSequence with
  | false => exact absurd (.inl ⟨hq, rfl⟩) hfirst
  | true =>
    refine ⟨rfl, Nat.le_of_not_lt (fun hlt => hlater (.inr ⟨hq, hlt, rfl⟩))⟩

theorem EvidenceStore.admission_ok (h : EvidenceStore.admission store observation context = .ok source) :
    context.source = some source ∧ source.registered = true ∧ source.retired = false ∧
      source.provenance ≠ .unknown ∧ observation.link.valid = true ∧
      (validateObservation observation store.policy).ok = true ∧
      (context.currentGeneration.valid = true →
        observation.provenance.generation = context.currentGeneration) := by
  unfold admission at h
  cases hsource : context.source with
  | none => simp [hsource] at h
  | some found =>
    simp only [hsource] at h
    split at h
    · cases h
    split at h
    · cases h
    split at h
    · cases h
    split at h
    · cases h
    split at h
    · cases h
    split at h
    · cases h
    cases h
    simp_all

theorem EvidenceStore.admission_enabled {store : EvidenceStore}
    (h : store.admission observation context = .ok source) : context.familyEnabled = true := by
  by_contra henabled
  have hdisabled : context.familyEnabled = false := by simpa using henabled
  unfold EvidenceStore.admission at h
  cases hsource : context.source with
  | none => simp [hsource] at h
  | some found =>
    simp only [hsource, hdisabled, Bool.not_false, ↓reduceIte] at h
    split at h
    · cases h
    split at h
    · cases h
    · cases h

theorem EvidenceStore.recordEvidence_accepted :
    (EvidenceStore.recordEvidence store observation source stream outcome now).2.accepted = true :=
  rfl

theorem Slot.observeReading_flags (slot : Slot) (observation : Observation) (gapEpoch : UInt64)
    (outcome : AcceptOutcome) (now : TimePoint) :
    (slot.observeReading observation gapEpoch outcome now).2.revisionGap = outcome.revisionGap ∧
      (slot.observeReading observation gapEpoch outcome now).2.scopeChanged =
        outcome.scopeChanged := by
  unfold observeReading
  split <;> exact ⟨rfl, rfl⟩

theorem EvidenceStore.recordEvidence_flags :
    (EvidenceStore.recordEvidence store observation source stream outcome now).2.revisionGap =
        outcome.revisionGap ∧
      (EvidenceStore.recordEvidence store observation source stream outcome now).2.scopeChanged =
        outcome.scopeChanged :=
  Slot.observeReading_flags ..

theorem EvidenceStore.recordEvidence_streams :
    (EvidenceStore.recordEvidence store observation source stream outcome now).1.streams =
      store.streams.insert observation.provenance.source (stream.advance observation) := rfl

/-- What one call of `accept` does to the stream of the observation's source. -/
inductive StreamStep (stream : StreamState) (observation : Observation) :
    AcceptOutcome → StreamState → Prop
  | untouched : outcome.accepted = false → outcome.scopeChanged = false →
      outcome.revisionGap = false → StreamStep stream observation outcome stream
  | superseded : enterScope stream (scopeOf observation.provenance) = .error reason →
      outcome.accepted = false → outcome.scopeChanged = false → outcome.revisionGap = false →
      StreamStep stream observation outcome stream.countFenced
  | refused : enterScope stream (scopeOf observation.provenance) =
        .ok (entered, outcome.scopeChanged) →
      judgeRevision entered observation = verdict → verdict = .duplicate ∨ verdict = .replay →
      outcome.accepted = false → outcome.revisionGap = false →
      StreamStep stream observation outcome entered.countFenced
  | refusedLate : enterScope stream (scopeOf observation.provenance) =
        .ok (entered, outcome.scopeChanged) →
      judgeRevision entered observation = .next outcome.revisionGap →
      outcome.accepted = false →
      written = entered.openGap outcome.revisionGap ∨
        written = (entered.openGap outcome.revisionGap).countFenced →
      StreamStep stream observation outcome written
  | advanced : enterScope stream (scopeOf observation.provenance) =
        .ok (entered, outcome.scopeChanged) →
      judgeRevision entered observation = .next outcome.revisionGap →
      outcome.accepted = true →
      StreamStep stream observation outcome
        ((entered.openGap outcome.revisionGap).advance observation)

theorem EvidenceStore.streamFor_setStream (store : EvidenceStore) (source : SourceId)
    (stream : StreamState) : (store.setStream source stream).streamFor source = stream :=
  ExtTreeMap.getD_insert_self

theorem EvidenceStore.streamFor_countFence (store : EvidenceStore) (reason : FenceReason)
    (source : SourceId) : (store.countFence reason).streamFor source = store.streamFor source := rfl

theorem EvidenceStore.accept_streamStep (store : EvidenceStore) (observation : Observation)
    (context : AcceptContext) (now : TimePoint) :
    StreamStep (store.streamFor observation.provenance.source) observation
      (store.accept observation context now).2
      ((store.accept observation context now).1.streamFor observation.provenance.source) := by
  have hstep := store.accept_step observation context now
  generalize (store.accept observation context now).1 = after at *
  generalize (store.accept observation context now).2 = outcome at *
  cases hstep with
  | refused ha => exact .untouched rfl rfl rfl
  | superseded ha hs =>
    rw [streamFor_countFence, streamFor_setStream]
    exact .superseded hs rfl rfl rfl
  | duplicate ha hs hv =>
    rw [streamFor_countFence, streamFor_setStream]
    exact .refused hs hv (.inl rfl) rfl rfl
  | replay ha hs hv =>
    rw [streamFor_countFence, streamFor_setStream]
    exact .refused hs hv (.inr rfl) rfl rfl
  | downgrade ha hs hv hlate =>
    rw [streamFor_countFence, streamFor_setStream]
    exact .refusedLate hs hv rfl (.inr rfl)
  | full ha hs hv hlate =>
    rw [streamFor_countFence, streamFor_setStream]
    exact .refusedLate hs hv rfl (.inl rfl)
  | recorded ha hs hv hnone =>
    rename_i source stream changed gap
    let result := (store.countGap gap).recordEvidence observation source (stream.openGap gap)
      { revisionGap := gap, scopeChanged := changed } now
    have hgap : result.2.revisionGap = gap ∧ result.2.scopeChanged = changed := recordEvidence_flags
    have h : result.1.streamFor observation.provenance.source =
        (stream.openGap gap).advance observation :=
      ExtTreeMap.getD_insert_self
    have hadv : StreamStep (store.streamFor observation.provenance.source) observation result.2
        ((stream.openGap result.2.revisionGap).advance observation) :=
      .advanced (by rw [hgap.2]; exact hs) (by rw [hgap.1]; exact hv) recordEvidence_accepted
    rw [hgap.1, ← h] at hadv
    exact hadv

theorem EvidenceStore.accept_stream_other (store : EvidenceStore) (observation : Observation)
    (context : AcceptContext) (now : TimePoint) (h : observation.provenance.source ≠ other) :
    (store.accept observation context now).1.streams[other]? = store.streams[other]? := by
  have hstep := store.accept_step observation context now
  generalize (store.accept observation context now).1 = after at *
  generalize (store.accept observation context now).2 = outcome at *
  cases hstep with
  | refused ha => rfl
  | recorded ha hs hv hnone =>
    rw [recordEvidence_streams]
    exact OrderedMap.lookup_insert_of_ne _ h _
  | _ => exact OrderedMap.lookup_insert_of_ne _ h _

/-- The revision of an observation is not above what its stream has seen in that scope. -/
def StreamState.Rejects (stream : StreamState) (observation : Observation) : Prop :=
  (stream.hasScope = true ∧ stream.scope ≠ scopeOf observation.provenance ∧
    scopeOf observation.provenance ∈ stream.retiredScopes) ∨
  ((stream.hasScope = false ∨ stream.scope = scopeOf observation.provenance) ∧
    stream.hasSequence = true ∧
    observation.provenance.sequence.toNat ≤ stream.lastSequence.toNat)

theorem rejects_of_revision
    (hs : enterScope stream (scopeOf observation.provenance) = .ok (entered, changed))
    (hv : judgeRevision entered observation = verdict)
    (hr : verdict = .duplicate ∨ verdict = .replay) : stream.Rejects observation := by
  obtain ⟨hq, hle⟩ := judgeRevision_refused hv hr
  rcases enterScope_ok hs with ⟨h1, -, rfl⟩ | ⟨-, -, -, -, rfl⟩ | ⟨-, h2, -, rfl⟩
  · exact .inr ⟨.inl h1, hq, hle⟩
  · cases hq
  · exact .inr ⟨.inr h2, hq, hle⟩

theorem not_rejects_of_next
    (hs : enterScope stream (scopeOf observation.provenance) = .ok (entered, changed))
    (hv : judgeRevision entered observation = .next gap) : ¬stream.Rejects observation := by
  rintro (⟨h1, h2, h3⟩ | ⟨h1, h2, h3⟩)
  · rcases enterScope_ok hs with ⟨h4, -⟩ | ⟨-, -, h4, -⟩ | ⟨-, h4, -⟩
    · rw [h1] at h4
      cases h4
    · exact h4 h3
    · exact h2 h4
  · have hkept : entered.hasSequence = true ∧ entered.lastSequence = stream.lastSequence := by
      rcases enterScope_ok hs with ⟨-, -, rfl⟩ | ⟨h4, h5, -⟩ | ⟨-, -, -, rfl⟩
      · exact ⟨h2, rfl⟩
      · rcases h1 with h1 | h1
        · rw [h1] at h4
          cases h4
        · exact absurd h1 h5
      · exact ⟨h2, rfl⟩
    rcases (judgeRevision_next _ _ _).1 hv with ⟨hq, -⟩ | ⟨-, hlt, -⟩
    · rw [hkept.1] at hq
      cases hq
    · rw [hkept.2] at hlt
      omega

/-- The store refuses an observation of the current generation. -/
def EvidenceStore.Refuses (store : EvidenceStore) (observation : Observation)
    (source : SourceRecord) : Prop :=
  source.registered = false ∨ source.retired = true ∨ source.provenance = .unknown ∨
  observation.link.valid = false ∨ (validateObservation observation store.policy).ok = false ∨
  (store.streamFor observation.provenance.source).Rejects observation ∨
  ∃ reason, store.LateFence observation source reason

theorem EvidenceStore.admission_error_iff (store : EvidenceStore) (observation : Observation)
    {context : AcceptContext} (hsource : context.source = some source)
    (henabled : context.familyEnabled = true)
    (hgeneration : context.currentGeneration.valid = true →
      observation.provenance.generation = context.currentGeneration) :
    (∃ reason, store.admission observation context = .error reason) ↔
      source.registered = false ∨ source.retired = true ∨ source.provenance = .unknown ∨
      observation.link.valid = false ∨
      (validateObservation observation store.policy).ok = false := by
  have hcurrent : ¬(context.currentGeneration.valid = true ∧
      observation.provenance.generation ≠ context.currentGeneration) :=
    fun h => h.2 (hgeneration h.1)
  unfold admission
  simp only [hsource, henabled, hcurrent, Bool.not_true, Bool.false_eq_true, ↓reduceIte]
  constructor
  · rintro ⟨reason, h⟩
    split at h
    · rename_i hregistered
      rcases Bool.or_eq_true_iff.1 hregistered with hr | hr
      · exact .inl (by simpa using hr)
      · exact .inr (.inl hr)
    split at h
    · simp_all
    split at h
    · simp_all
    split at h
    · simp_all
    · cases h
  · intro h
    split
    · exact ⟨_, rfl⟩
    split
    · exact ⟨_, rfl⟩
    split
    · exact ⟨_, rfl⟩
    split
    · exact ⟨_, rfl⟩
    · simp_all

theorem EvidenceStore.accept_refuses_iff (store : EvidenceStore) (observation : Observation)
    (context : AcceptContext) (now : TimePoint) (hsource : context.source = some source)
    (henabled : context.familyEnabled = true)
    (hgeneration : context.currentGeneration.valid = true →
      observation.provenance.generation = context.currentGeneration) :
    (store.accept observation context now).2.accepted = false ↔
      store.Refuses observation source := by
  have hadmission := store.admission_error_iff observation hsource henabled hgeneration
  have hstep := store.accept_step observation context now
  generalize (store.accept observation context now).1 = after at *
  generalize (store.accept observation context now).2 = outcome at *
  have hsame {source'} (ha : store.admission observation context = .ok source') : source' = source :=
    Option.some.inj ((admission_ok ha).1.symm.trans hsource)
  cases hstep with
  | refused ha =>
    refine iff_of_true rfl ?_
    rcases hadmission.1 ⟨_, ha⟩ with h | h | h | h | h
    · exact .inl h
    · exact .inr (.inl h)
    · exact .inr (.inr (.inl h))
    · exact .inr (.inr (.inr (.inl h)))
    · exact .inr (.inr (.inr (.inr (.inl h))))
  | superseded ha hs =>
    exact iff_of_true rfl (.inr (.inr (.inr (.inr (.inr (.inl (.inl (enterScope_error hs))))))))
  | duplicate ha hs hv =>
    exact iff_of_true rfl (.inr (.inr (.inr (.inr (.inr (.inl (rejects_of_revision hs hv
      (.inl rfl))))))))
  | replay ha hs hv =>
    exact iff_of_true rfl (.inr (.inr (.inr (.inr (.inr (.inl (rejects_of_revision hs hv
      (.inr rfl))))))))
  | downgrade ha hs hv hlate =>
    exact iff_of_true rfl (.inr (.inr (.inr (.inr (.inr (.inr ⟨_, hsame ha ▸ hlate⟩))))))
  | full ha hs hv hlate =>
    exact iff_of_true rfl (.inr (.inr (.inr (.inr (.inr (.inr ⟨_, hsame ha ▸ hlate⟩))))))
  | recorded ha hs hv hnone =>
    rw [recordEvidence_accepted]
    refine iff_of_false (fun h => nomatch h) ?_
    obtain ⟨-, h2, h3, h4, h5, h6, -⟩ := admission_ok ha
    have heq := hsame ha
    subst heq
    rintro (h | h | h | h | h | h | ⟨reason, h⟩)
    · rw [h2] at h
      cases h
    · rw [h3] at h
      cases h
    · exact h4 h
    · rw [h5] at h
      cases h
    · rw [h6] at h
      cases h
    · exact not_rejects_of_next hs hv h
    · exact hnone reason h

/-- An administrative reading of a source, of the given revision and instant. -/
def adminReport (source : SourceId) (revision : UInt64) (at_ : TimePoint) : Observation :=
  { provenance :=
      { source := source, incarnation := ⟨⟨0, 1⟩⟩, epoch := ⟨⟨0, 1⟩⟩, generation := ⟨⟨0, 1⟩⟩
        sequence := revision }
    link := ⟨⟨0, 1⟩⟩
    payload := .adminState .enabled
    observedAt := at_
    receivedAt := at_ }

def registeredSource (id : SourceId) (authority : SourceAuthority) : SourceRecord :=
  { id := id, authority := authority, provenance := .synthetic, registered := true }

end LinkObservatory
