import LinkObservatory.Recovery
import LinkObservatory.Rotation

namespace LinkObservatory
set_option autoImplicit true

open Std ByteCodec

theorem TransitionEvent.normalize_normalize (event : TransitionEvent) :
    event.normalize.normalize = event.normalize := by
  simp [TransitionEvent.normalize, List.take_take, computeTransitionId]

namespace TransitionLog

theorem record_normalize (log : TransitionLog) (event : TransitionEvent) :
    log.record event.normalize = log.record event := by
  simp only [record, TransitionEvent.normalize_normalize]

theorem recordAll_normalize (log : TransitionLog) (events : List TransitionEvent) :
    log.recordAll (events.map TransitionEvent.normalize) = log.recordAll events := by
  rw [recordAll, recordAll, List.foldl_map]
  simp only [record_normalize]

/-- The global ring holds the newest of the events recorded so far. -/
theorem Replays.global {log : TransitionLog} {limits : Limits} (h : log.Replays limits events) :
    log.global = Ring.evict limits.maxTotalTransitions.toNat
      (events.map TransitionEvent.normalize) ∧ log.totalRecords = events.length := by
  rw [h, recordAll]
  clear h
  induction events using List.reverseRecOn with
  | nil => exact ⟨rfl, rfl⟩
  | append_singleton events event ih =>
    obtain ⟨hglobal, htotal⟩ := ih
    have hlimits := recordAll_limits { limits := limits } events
    rw [recordAll] at hlimits
    rw [List.foldl_append, List.map_append]
    refine ⟨?_, ?_⟩
    · show Ring.push _ _ _ = _
      rw [hlimits, hglobal]
      exact Ring.push_evict _ _ _
    · rw [List.length_append, List.length_singleton, ← htotal]
      rfl

theorem Replays.rebuild {log : TransitionLog} {limits : Limits} (h : log.Replays limits events)
    (hkept : log.totalRecords = log.global.length)
    (hrows : log.global.length ≤ log.limits.maxResultRows.toNat) :
    log = recordAll { limits := limits } (log.recent limits.maxTotalTransitions) := by
  obtain ⟨hglobal, htotal⟩ := h.global
  have hle : events.length ≤ limits.maxTotalTransitions.toNat := by
    rw [htotal, hglobal, Ring.evict_length, List.length_map] at hkept
    omega
  rw [Ring.evict_of_le (by rwa [List.length_map])] at hglobal
  have hlength : log.global.length = events.length := by rw [hglobal, List.length_map]
  have hrecent : log.recent limits.maxTotalTransitions = log.global := by
    rw [recent, newest]
    split
    · rw [hlength, Nat.sub_eq_zero_of_le hle, List.drop_zero]
    · rw [Nat.sub_eq_zero_of_le hrows, List.drop_zero]
  rw [hrecent, hglobal, recordAll_normalize]
  exact h

theorem recent_length (log : TransitionLog) (limit : UInt64) :
    (log.recent limit).length ≤ limit.toNat := by
  rw [recent, newest, List.length_drop]
  split
  · omega
  · rename_i hle
    have hrows := UInt64.le_iff_toNat_le.1 (UInt64.not_lt.1 hle)
    omega

theorem Replays.recent_fits {log : TransitionLog} {limits : Limits} (h : log.Replays limits events)
    (event : TransitionEvent) (hmem : event ∈ log.recent limit) : event.Fits := by
  have hring := (List.drop_suffix _ _).mem hmem
  rw [h.global.1] at hring
  obtain ⟨recorded, -, rfl⟩ := List.mem_map.1 ((Ring.evict_suffix _ _).mem hring)
  have hcut (text : Bytes) : (text.take 64).length ≤ kMaxStringField := by
    rw [List.length_take]
    exact Nat.le_trans (Nat.min_le_left _ _) (by decide)
  exact ⟨hcut _, hcut _⟩

end TransitionLog

theorem renameFile_complete {files : FileSystem} {source : String}
    (h : fileExists files source = true) (target : String) : (renameFile source target .none).run files =
      (some .success, (files.set target (files source)).set source none) := by
  show (ite (fileExists files source = true) _ _ : FileM Status).run files = _
  rw [if_pos h]
  rfl

theorem rotate_complete (files : FileSystem) (path : String) :
    ((rotate path {}).run files).1 = some .success := by
  show ((ite (fileExists files path = true) _ _ : FileM Status).run files).1 = _
  split
  · rename_i hexists
    have hkept : fileExists (files.set (snapshotBackupPath path) none) path = true := by
      rwa [fileExists, FileSystem.set_of_ne _ (backupPath_ne path).symm]
    rw [FileM.run_bind]
    show ((renameFile path (snapshotBackupPath path) .none >>= _ : FileM Status).run
      (files.set (snapshotBackupPath path) none)).1 = _
    rw [FileM.run_bind, renameFile_complete hkept]
    rfl
  · rfl

theorem writeSnapshot_complete {contents : SnapshotContents}
    (hsize : contents.encodePayload.length ≤ policy.limits.maxSnapshotBytes.toNat)
    (files : FileSystem) (path : String) :
    ∃ result left, (writeSnapshot path contents policy {}).run files = (some result, left) ∧
      result.status.ok = true ∧ left path = some contents.container ∧
      left (snapshotBackupPath path) =
        if (files path).isSome then files path else files (snapshotBackupPath path) := by
  have hwrite : (writeFile (snapshotTemporaryPath path) contents.container .none).run files =
      (some .success, files.set (snapshotTemporaryPath path) (some contents.container)) := by
    rw [writeFile, FileM.run_bind]
    show (some _, files.set _ (some (contents.container.take _))) = _
    rw [List.take_length]
  have hfirst := rotate_complete
    (files.set (snapshotTemporaryPath path) (some contents.container)) path
  rcases hrotate : (rotate path {}).run
    (files.set (snapshotTemporaryPath path) (some contents.container)) with ⟨rotated, moved⟩
  rw [hrotate] at hfirst
  cases hfirst
  obtain ⟨htemporary, hbackup⟩ := (rotate_run hrotate contents.container).2 _ rfl rfl
  rw [FileSystem.set_self] at htemporary
  rw [FileSystem.set_of_ne _ (temporaryPath_ne path),
    FileSystem.set_of_ne _ (backupPath_ne_temporaryPath path)] at hbackup
  have hexists : fileExists moved (snapshotTemporaryPath path) = true := by
    rw [fileExists, htemporary]
    rfl
  have hmove := renameFile_complete hexists path
  have hrun : (writeSnapshot path contents policy {}).run files =
      (some { bytesWritten := contents.container.length
              payloadDigest := digestHex (sha256 contents.encodePayload) },
        (moved.set path (moved (snapshotTemporaryPath path))).set (snapshotTemporaryPath path)
          none) := by
    unfold writeSnapshot
    rw [if_neg (Nat.not_lt.2 hsize), FileM.run_bind, hwrite]
    simp only
    rw [if_neg (by decide), FileM.run_bind, hrotate]
    simp only
    rw [if_neg (by decide), FileM.run_bind, hmove]
    rfl
  refine ⟨_, _, hrun, rfl, ?_, ?_⟩
  · rw [FileSystem.set_of_ne _ (temporaryPath_ne path), FileSystem.set_self, htemporary]
  · rw [FileSystem.set_of_ne _ (backupPath_ne_temporaryPath path),
      FileSystem.set_of_ne _ (backupPath_ne path), hbackup]

theorem loadOnce_oversized {files : FileSystem} {policy : Policy} (h : files path = some raw)
    (hsize : (maxContainer policy.limits).toNat < raw.length) :
    (loadOnce files path policy).contents = none := by
  unfold loadOnce readFile
  rw [h]
  simp only
  rw [if_pos hsize]

theorem SnapshotContents.encodePayload_length (contents : SnapshotContents) :
    128 < contents.encodePayload.length := by
  simp only [encodePayload, encodeTotals, encodeList, encodeCount, List.length_append, encodeU64,
    encodeU32, StrongId.encode, TimePoint.encode, leBytes_length]
  omega

theorem maxSlots_eq (limits : Limits) : maxSlots limits = limits.maxLinks * kMaxKeysPerLink := by
  rw [maxSlots, UInt64.mul_assoc, UInt64.mul_assoc]
  rfl

namespace Observatory

theorem Sound.fits_of_slots {σ : Observatory} (h : σ.Sound) (now : TimePoint)
    (hslots : ∀ slot ∈ (σ.collectSnapshot now).slots, slot.Fits) :
    (σ.collectSnapshot now).Fits σ.config.policy.limits := by
  have hregistry := h.registry
  have hstore := h.store
  have hr := h.restorable now
  constructor
  · rw [← h.registryPolicy]
    simpa [collectSnapshot, LinkRegistry.persistedLinks] using hregistry.linkCount
  · intro link hmem
    obtain ⟨hvalid, hretired⟩ := hr.links link hmem
    obtain ⟨entry, -, rfl⟩ := List.mem_map.1 hmem
    have hname := Nat.le_trans (validateLinkFacts_ok hvalid).2 (by decide : 128 ≤ kMaxStringField)
    exact ⟨hname, hname, Nat.le_trans hretired (by decide)⟩
  · rw [← h.registryPolicy]
    simpa [collectSnapshot, LinkRegistry.sourceList] using hregistry.sourceCount
  · intro source hmem
    exact Nat.le_trans (hr.sources source hmem).2.1.2 (by decide)
  · rw [maxSlots_eq, ← h.storePolicy]
    simpa [collectSnapshot, EvidenceStore.persistedSlots] using hstore.slotCount
  · exact hslots
  · rw [← h.registryPolicy]
    refine Nat.le_trans ?_ hregistry.sourceCount
    simpa [collectSnapshot, EvidenceStore.persistedStreams] using h.streams_size
  · intro stream hmem
    exact Nat.le_trans (hr.streams stream hmem).2 (by decide)
  · exact σ.transitions.recent_length _
  · intro event hmem
    obtain ⟨events, hevents⟩ := h.log
    exact hevents.recent_fits event hmem

theorem Sound.fits {σ : Observatory} (h : σ.Sound)
    (hevidence : σ.config.policy.limits.maxEvidencePerKey ≤ kMaxEvidencePerSlotBound)
    (hsources : σ.config.policy.limits.maxSources ≤ kMaxSourcesBound) (now : TimePoint) :
    (σ.collectSnapshot now).Fits σ.config.policy.limits := by
  refine h.fits_of_slots now fun slot hmem => ?_
  obtain ⟨-, hhistory, hcontinuity⟩ := (h.restorable now).slots slot hmem
  exact ⟨Nat.le_trans hhistory (UInt64.le_iff_toNat_le.1 hevidence),
    Nat.le_trans hcontinuity (UInt64.le_iff_toNat_le.1 hsources)⟩

end Observatory

/-- The part of the store that queries read. -/
def EvidenceStore.readable (store : EvidenceStore) : EvidenceStore :=
  { policy := store.policy, slots := store.slots, streams := store.streams }

theorem classify_readable (input : ClassificationInput) :
    classify { input with store := input.store.readable } = classify input := rfl

/-- A classification without the count of evicted events, which starts anew with every process. -/
def Classification.withoutDropped (classification : Classification) : Classification :=
  { classification with droppedTransitions := 0 }

namespace Observatory

theorem Recovers.classify {σ after : Observatory} (h : Recovers σ after)
    (hlog : after.transitions = σ.transitions) (link : LinkId) (instant : TimePoint) :
    after.classify link instant = σ.classify link instant := by
  have hstore : after.store.readable = σ.store.readable := by
    rw [EvidenceStore.readable, EvidenceStore.readable, h.policy, h.slots, h.streams]
  have hinput : LinkObservatory.classify (after.classificationInput link instant) =
      LinkObservatory.classify (σ.classificationInput link instant) := by
    rw [← classify_readable (after.classificationInput link instant),
      ← classify_readable (σ.classificationInput link instant)]
    simp only [classificationInput, h.registry, h.config, hstore, hlog]
  unfold Observatory.classify
  rw [hinput, h.registry, h.slots]

/-- Writing the state and loading it into a fresh process succeeds, and every query is answered as
by the original. -/
def RoundTrips (σ : Observatory) (now : TimePoint) : Prop :=
  ∀ (files : FileSystem) (path : String), ∃ result left contents,
    (writeSnapshot path (σ.collectSnapshot now) σ.config.policy {}).run files =
      (some result, left) ∧ result.status.ok = true ∧
    (readSnapshot left path σ.config.policy).contents = some contents ∧
    ((fresh σ.config).restoreFrom contents).2.ok = true ∧
    ∀ (link : LinkId) (instant : TimePoint),
      (((fresh σ.config).restoreFrom contents).1.classify link instant).map
          Classification.withoutDropped =
        (σ.classify link instant).map Classification.withoutDropped

theorem container_fits_iff {limits : Limits} {contents : SnapshotContents}
    (hpayload : contents.encodePayload.length ≤ limits.maxSnapshotBytes.toNat) :
    contents.container.length ≤ (maxContainer limits).toNat ↔
      limits.maxSnapshotBytes.toNat + 128 < 2 ^ 64 := by
  have hlower := contents.encodePayload_length
  have hlt := limits.maxSnapshotBytes.toNat_lt
  rw [contents.container_length, maxContainer, UInt64.toNat_add]
  show 88 + _ ≤ (_ + 128) % 2 ^ 64 ↔ _
  omega

theorem RoundTrips.container_fits {σ : Observatory} (h : σ.RoundTrips now)
    (hpayload : (σ.collectSnapshot now).encodePayload.length ≤
      σ.config.policy.limits.maxSnapshotBytes.toNat) :
    (σ.collectSnapshot now).container.length ≤ (maxContainer σ.config.policy.limits).toNat := by
  obtain ⟨result, left, contents, hrun, -, hread, -⟩ := h (fun _ => none) ""
  obtain ⟨result', left', hrun', -, hprimary, hbackup⟩ :=
    writeSnapshot_complete hpayload (fun _ => none) ""
  rw [hrun] at hrun'
  cases hrun'
  by_contra hlarge
  rw [readSnapshot_contents, loadOnce_oversized hprimary (by omega), Option.none_or,
    loadOnce_missing hbackup] at hread
  cases hread

section

variable {σ : Observatory} (h : σ.Sound) (now : TimePoint) (files : FileSystem) (path : String)
  (hevidence : σ.config.policy.limits.maxEvidencePerKey ≤ 1024)
  (hsources : σ.config.policy.limits.maxSources ≤ 4096)
  (hpayload : (σ.collectSnapshot now).encodePayload.length ≤
    σ.config.policy.limits.maxSnapshotBytes.toNat)
  (hbytes : σ.config.policy.limits.maxSnapshotBytes.toNat + 128 < 2 ^ 64)
  (hfile : files path = some (σ.collectSnapshot now).container)

include h hevidence hsources hpayload hbytes hfile

theorem Sound.snapshot_loads :
    (loadOnce files path σ.config.policy).contents = some (σ.collectSnapshot now) :=
  loadOnce_decoded hfile ((container_fits_iff hpayload).2 hbytes)
    (decodeContainer_fits hpayload (h.fits hevidence hsources now))

theorem Sound.snapshot_reads :
    (readSnapshot files path σ.config.policy).contents = some (σ.collectSnapshot now) := by
  rw [readSnapshot_contents, h.snapshot_loads now files path hevidence hsources hpayload hbytes hfile]
  rfl

end

/-- A snapshot of a reached state comes back complete exactly when the size bound leaves room for
the 128 bytes that the loader adds to it. -/
theorem Reached.roundTrips_iff {config : RuntimeConfig} (h : Reached config log σ)
    (now : TimePoint) (hevidence : config.policy.limits.maxEvidencePerKey ≤ 1024)
    (hsources : config.policy.limits.maxSources ≤ 4096)
    (hpayload : (σ.collectSnapshot now).encodePayload.length ≤
      config.policy.limits.maxSnapshotBytes.toNat)
    (hkept : σ.transitions.totalRecords = σ.transitions.global.length)
    (hrows : σ.transitions.global.length ≤ config.policy.limits.maxResultRows.toNat) :
    σ.RoundTrips now ↔ config.policy.limits.maxSnapshotBytes.toNat + 128 < 2 ^ 64 := by
  obtain ⟨hs, rfl⟩ := h.sound
  rw [← container_fits_iff hpayload]
  constructor
  · exact fun htrips => htrips.container_fits hpayload
  · intro hsize files path
    obtain ⟨result, left, hrun, hok, hprimary, -⟩ := writeSnapshot_complete hpayload files path
    have hload := loadOnce_decoded hprimary hsize
      (decodeContainer_fits hpayload (hs.fits hevidence hsources now))
    have hfresh : (fresh σ.config).config = σ.config := rfl
    obtain ⟨hrestored, hrecovers⟩ := hs.restoreFrom hfresh rfl now
    refine ⟨result, left, σ.collectSnapshot now, hrun, hok, ?_, hrestored, fun link instant => ?_⟩
    · rw [readSnapshot_contents, hload]
      rfl
    · obtain ⟨events, hevents⟩ := hs.log
      rw [hrecovers.classify _ link instant]
      rw [hevents.rebuild hkept (by rw [hs.logLimits]; exact hrows)]
      exact hrecovers.log

/-- A source reports on a registered link. -/
def reportedRecords : List (ParsedRecord × TimePoint) :=
  [(.source { name := ascii "s", authority := .primary, provenance := .synthetic }, ⟨0⟩),
    (.link { name := ascii "l", generation := ascii "g" }, ⟨0⟩),
    (revisionRecord (ascii "l") 1, ⟨1⟩)]

theorem Reached.roundTrips_report :
    (Observatory.run { policy := makeDefaultPolicy } reportedRecords).RoundTrips ⟨2⟩ := by
  have hreached := Reached.run { policy := makeDefaultPolicy } reportedRecords
  exact (hreached.roundTrips_iff ⟨2⟩ (by decide) (by decide) (by decide +kernel)
    (by decide +kernel) (by decide +kernel)).2 (by decide)

/-- The policy with the largest size bound passes its validation, and the loader's own bound wraps
to 127 bytes: not even the snapshot of a fresh process can be read. -/
theorem Reached.roundTrips_fails :
    ¬ ∀ (config : RuntimeConfig) (log : List Decision) (σ : Observatory) (now : TimePoint),
      Reached config log σ → config.policy.validate.ok = true →
      config.policy.limits.maxEvidencePerKey ≤ 1024 → config.policy.limits.maxSources ≤ 4096 →
      (σ.collectSnapshot now).encodePayload.length ≤
        config.policy.limits.maxSnapshotBytes.toNat →
      σ.transitions.totalRecords = σ.transitions.global.length →
      σ.transitions.global.length ≤ config.policy.limits.maxResultRows.toNat →
      σ.RoundTrips now := by
  intro h
  let policy : Policy := { makeDefaultPolicy with
    limits := { makeDefaultPolicy.limits with maxSnapshotBytes := 18446744073709551615 } }
  have hpayload : ((fresh { policy := policy }).collectSnapshot ⟨0⟩).encodePayload.length ≤
      policy.limits.maxSnapshotBytes.toNat := by
    decide +kernel
  have htrips := h { policy := policy } [] (fresh { policy := policy }) ⟨0⟩ .start
    (by decide +kernel) (by decide) (by decide) hpayload rfl (by decide)
  have hfits := (container_fits_iff hpayload).1 (htrips.container_fits hpayload)
  exact absurd hfits (by decide)

end Observatory

end LinkObservatory
