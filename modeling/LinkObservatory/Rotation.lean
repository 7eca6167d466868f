import LinkObservatory.Snapshot

namespace LinkObservatory
set_option autoImplicit true

open ByteCodec

/-- What happens to a remove or a rename; both are atomic. -/
inductive StepFault
  | none | fails | crashes
deriving DecidableEq, Repr

/-- What happens to a file write; `none` bytes written means the file was not even created. -/
inductive WriteFault
  | none
  | fails (written : Option Nat)
  | crashes (written : Option Nat)
deriving DecidableEq, Repr

/-- One fault for each step of `write_snapshot` that touches the file system. -/
structure WriteFaults where
  write : WriteFault := .none
  removeBackup : StepFault := .none
  rotate : StepFault := .none
  cleanup : StepFault := .none
  move : StepFault := .none
deriving DecidableEq, Repr

/-- A computation on the file system; `none` is a crash, which keeps the files as they are. -/
abbrev FileM (α : Type) := OptionT (StateM FileSystem) α

def FileM.files (action : FileM α) (files : FileSystem) : FileSystem := (action.run files).2

def FileSystem.set (files : FileSystem) (path : String) (data : Option Bytes) : FileSystem :=
  fun other => if other = path then data else files other

def storeBytes (path : String) (data : Bytes) : Option Nat → FileM Unit
  | none => pure ()
  | some written => modify fun files => files.set path (some (data.take written))

def writeFile (path : String) (data : Bytes) : WriteFault → FileM Status
  | .none => do
    storeBytes path data (some data.length)
    return .success
  | .fails written => do
    storeBytes path data written
    return .of .ioError (if written.isNone then "snapshot file could not be created"
      else "snapshot write failed")
  | .crashes written => do
    storeBytes path data written
    failure

def removeFile (path : String) : StepFault → FileM Bool
  | .none => do
    let files ← get
    set (files.set path none)
    return fileExists files path
  | .fails => return false
  | .crashes => failure

def renameFailed : Status := .of .ioError "snapshot rename failed"

/-- A rename replaces its target; without a source file it fails. -/
def renameFile (source target : String) : StepFault → FileM Status
  | .none => do
    let files ← get
    if fileExists files source then
      set ((files.set target (files source)).set source none)
      return .success
    else return renameFailed
  | .fails => return renameFailed
  | .crashes => failure

structure SnapshotWriteResult where
  status : Status := {}
  bytesWritten : Nat := 0
  payloadDigest : Bytes := []
deriving DecidableEq, Repr

def digestHex (digest : Bytes) : Bytes :=
  digest.flatMap fun (byte : UInt8) =>
    [hexDigit (byte >>> 4).toUInt64, hexDigit (byte &&& 0x0F).toUInt64]

/-- Moves the present snapshot, if there is one, over its backup. -/
def rotate (path : String) (faults : WriteFaults) : FileM Status := do
  let files ← get
  if fileExists files path then
    let _ ← removeFile (snapshotBackupPath path) faults.removeBackup
    let rotated ← renameFile path (snapshotBackupPath path) faults.rotate
    if !rotated.ok then
      let _ ← removeFile (snapshotTemporaryPath path) faults.cleanup
      return rotated
    else return rotated
  else return .success

def writeSnapshot (path : String) (contents : SnapshotContents) (policy : Policy)
    (faults : WriteFaults) : FileM SnapshotWriteResult := do
  let payload := contents.encodePayload
  if payload.length > policy.limits.maxSnapshotBytes.toNat then
    return { status := .of .capacityExceeded "encoded snapshot exceeds the configured size bound" }
  else
    let written ← writeFile (snapshotTemporaryPath path) contents.container faults.write
    if !written.ok then return { status := written }
    else
      let rotated ← rotate path faults
      if !rotated.ok then return { status := rotated }
      else
        let moved ← renameFile (snapshotTemporaryPath path) path faults.move
        if !moved.ok then return { status := moved }
        else
          return {
            status := .success
            bytesWritten := contents.container.length
            payloadDigest := digestHex (sha256 payload) }

theorem temporaryPath_ne (path : String) : path ≠ snapshotTemporaryPath path := fun h => by
  have hlength := congrArg String.length h
  rw [snapshotTemporaryPath, String.length_append] at hlength
  exact absurd hlength (by simp)

theorem backupPath_ne_temporaryPath (path : String) :
    snapshotBackupPath path ≠ snapshotTemporaryPath path := fun h => by
  have hlength := congrArg String.length h
  rw [snapshotBackupPath, snapshotTemporaryPath, String.length_append, String.length_append]
    at hlength
  exact absurd (Nat.add_left_cancel hlength) (by decide)

theorem FileSystem.set_self (files : FileSystem) (path : String) (data : Option Bytes) :
    files.set path data path = data := if_pos rfl

theorem FileSystem.set_of_ne (files : FileSystem) (h : other ≠ path) (data : Option Bytes) :
    files.set path data other = files other := if_neg h

theorem FileM.run_bind (action : FileM α) (next : α → FileM β) (files : FileSystem) :
    (action >>= next).run files =
      match action.run files with
      | (none, left) => (none, left)
      | (some a, between) => (next a).run between := by
  rw [OptionT.run_bind]
  rcases hrun : action.run files with ⟨first, between⟩
  cases first with
  | none => simp [bind, Option.elimM, StateT.bind, hrun, pure, StateT.pure]
  | some a => simp [bind, Option.elimM, StateT.bind, hrun]

theorem FileM.run_cases {action : FileM α} {next : α → FileM β} {files : FileSystem}
    (h : (action >>= next).run files = (result, left)) :
    (action.run files = (none, left) ∧ result = none) ∨
      ∃ a between, action.run files = (some a, between) ∧ (next a).run between = (result, left) := by
  rw [FileM.run_bind] at h
  rcases hrun : action.run files with ⟨first, between⟩
  rw [hrun] at h
  cases first with
  | none =>
    cases h
    exact .inl ⟨rfl, rfl⟩
  | some a => exact .inr ⟨a, between, rfl, h⟩

theorem writeFile_run (h : (writeFile path data fault).run files = (result, left)) :
    (∀ other ≠ path, left other = files other) ∧
      (∀ status, result = some status → status.ok = true → left path = some data) := by
  cases fault with
  | none =>
    cases h
    refine ⟨fun other hne => FileSystem.set_of_ne _ hne _, fun status hs hok => ?_⟩
    simp only [FileSystem.set_self, List.take_length]
  | fails written =>
    cases written with
    | none =>
      cases h
      refine ⟨fun _ _ => rfl, fun status hs hok => ?_⟩
      cases hs
      cases hok
    | some written =>
      cases h
      refine ⟨fun other hne => FileSystem.set_of_ne _ hne _, fun status hs hok => ?_⟩
      cases hs
      cases hok
  | crashes written =>
    cases written with
    | none =>
      cases h
      exact ⟨fun _ _ => rfl, fun status hs => nomatch hs⟩
    | some written =>
      cases h
      exact ⟨fun other hne => FileSystem.set_of_ne _ hne _, fun status hs => nomatch hs⟩

theorem removeFile_run (h : (removeFile path fault).run files = (result, left)) :
    left = files ∨ left = files.set path none := by
  cases fault with
  | none =>
    cases h
    exact .inr rfl
  | fails =>
    cases h
    exact .inl rfl
  | crashes =>
    cases h
    exact .inl rfl

theorem renameFile_run (h : (renameFile source target fault).run files = (result, left)) :
    (left = files ∧ ∀ status, result = some status → status.ok = false) ∨
      (left = (files.set target (files source)).set source none ∧ fileExists files source = true ∧
        result = some .success) := by
  cases fault with
  | none =>
    change (ite (fileExists files source = true) _ _ : FileM Status).run files = _ at h
    split at h
    · rename_i hexists
      cases h
      exact .inr ⟨rfl, hexists, rfl⟩
    · cases h
      refine .inl ⟨rfl, fun status hs => ?_⟩
      cases hs
      rfl
  | fails =>
    cases h
    refine .inl ⟨rfl, fun status hs => ?_⟩
    cases hs
    rfl
  | crashes =>
    cases h
    exact .inl ⟨rfl, fun status hs => nomatch hs⟩

/-- What a write may leave at the path and at its backup, given what was there before. -/
inductive LeftBehind (container : Bytes) (primary backup : Option Bytes) :
    Option Bytes → Option Bytes → Prop
  | untouched : LeftBehind container primary backup primary backup
  | backupRemoved (h : primary.isSome) : LeftBehind container primary backup primary none
  | moved (h : primary.isSome) : LeftBehind container primary backup none primary
  | replaced (h : primary.isSome) : LeftBehind container primary backup (some container) primary
  | placed (h : primary = none) : LeftBehind container primary backup (some container) backup

section

variable {files : FileSystem} {path : String} {contents : SnapshotContents} {policy : Policy}
  {faults : WriteFaults}

theorem removeBackup_run (h : (removeFile (snapshotBackupPath path) fault).run files = (result, left))
    (hsome : (files path).isSome) (container : Bytes) :
    LeftBehind container (files path) (files (snapshotBackupPath path)) (left path)
        (left (snapshotBackupPath path)) ∧
      left path = files path ∧
      left (snapshotTemporaryPath path) = files (snapshotTemporaryPath path) := by
  rcases removeFile_run h with rfl | rfl
  · exact ⟨.untouched, rfl, rfl⟩
  · rw [FileSystem.set_self, FileSystem.set_of_ne _ (backupPath_ne path).symm,
      FileSystem.set_of_ne _ (backupPath_ne_temporaryPath path).symm]
    exact ⟨.backupRemoved hsome, rfl, rfl⟩

theorem removeTemporary_run
    (h : (removeFile (snapshotTemporaryPath path) fault).run files = (result, left)) :
    left path = files path ∧ left (snapshotBackupPath path) = files (snapshotBackupPath path) := by
  rcases removeFile_run h with rfl | rfl
  · exact ⟨rfl, rfl⟩
  · exact ⟨FileSystem.set_of_ne _ (temporaryPath_ne path) _,
      FileSystem.set_of_ne _ (backupPath_ne_temporaryPath path) _⟩

theorem rotate_run (h : (rotate path faults).run files = (result, left)) (container : Bytes) :
    LeftBehind container (files path) (files (snapshotBackupPath path)) (left path)
      (left (snapshotBackupPath path)) ∧
    ∀ status, result = some status → status.ok = true →
      left (snapshotTemporaryPath path) = files (snapshotTemporaryPath path) ∧
      left (snapshotBackupPath path) =
        if (files path).isSome then files path else files (snapshotBackupPath path) := by
  change (ite (fileExists files path = true) _ _ : FileM Status).run files = _ at h
  split at h
  · rename_i hexists
    have hsome : (files path).isSome := hexists
    obtain ⟨hremove, rfl⟩ | ⟨_, removed, hremove, h⟩ := FileM.run_cases h
    · exact ⟨(removeBackup_run hremove hsome container).1, fun status hs => nomatch hs⟩
    obtain ⟨hleft, hpath, htemporary⟩ := removeBackup_run hremove hsome container
    obtain ⟨hrename, rfl⟩ | ⟨rotated, renamed, hrename, hrest⟩ := FileM.run_cases h
    · refine ⟨?_, fun status hs => nomatch hs⟩
      obtain ⟨rfl, -⟩ | ⟨-, -, hs⟩ := renameFile_run hrename
      · exact hleft
      · cases hs
    obtain ⟨rfl, hfailed⟩ | ⟨rfl, -, hs⟩ := renameFile_run hrename
    · -- the rename failed: only the temporary file may go
      rw [if_pos (by rw [hfailed _ rfl]; rfl)] at hrest
      obtain ⟨hclean, rfl⟩ | ⟨_, cleaned, hclean, hrest⟩ := FileM.run_cases hrest
      · rw [(removeTemporary_run hclean).1, (removeTemporary_run hclean).2]
        exact ⟨hleft, fun status hs => nomatch hs⟩
      · cases hrest
        rw [(removeTemporary_run hclean).1, (removeTemporary_run hclean).2]
        refine ⟨hleft, fun status hs hok => ?_⟩
        cases hs
        rw [hfailed _ rfl] at hok
        cases hok
    · cases hs
      cases hrest
      rw [FileSystem.set_self, FileSystem.set_of_ne _ (backupPath_ne path), FileSystem.set_self,
        FileSystem.set_of_ne _ (temporaryPath_ne path).symm,
        FileSystem.set_of_ne _ (backupPath_ne_temporaryPath path).symm, hpath, htemporary]
      exact ⟨.moved hsome, fun _ _ _ => ⟨rfl, (if_pos hsome).symm⟩⟩
  · rename_i hexists
    cases h
    exact ⟨.untouched, fun _ _ _ => ⟨rfl, (if_neg hexists).symm⟩⟩

theorem writeSnapshot_leaves
    (hsize : contents.encodePayload.length ≤ policy.limits.maxSnapshotBytes.toNat) :
    LeftBehind contents.container (files path) (files (snapshotBackupPath path))
      ((writeSnapshot path contents policy faults).files files path)
      ((writeSnapshot path contents policy faults).files files (snapshotBackupPath path)) := by
  unfold FileM.files
  rcases h : (writeSnapshot path contents policy faults).run files with ⟨result, left⟩
  show LeftBehind _ _ _ (left path) (left (snapshotBackupPath path))
  unfold writeSnapshot at h
  rw [if_neg (by omega)] at h
  obtain ⟨hwrite, -⟩ | ⟨written, stored, hwrite, h⟩ := FileM.run_cases h
  · obtain ⟨hframe, -⟩ := writeFile_run hwrite
    rw [hframe _ (temporaryPath_ne path), hframe _ (backupPath_ne_temporaryPath path)]
    exact .untouched
  obtain ⟨hframe, hcomplete⟩ := writeFile_run hwrite
  rw [← hframe _ (temporaryPath_ne path), ← hframe _ (backupPath_ne_temporaryPath path)]
  split at h
  · cases h
    exact .untouched
  rename_i hwritten
  have hstored := hcomplete _ rfl (by simpa using hwritten)
  obtain ⟨hrotate, -⟩ | ⟨rotated, moved, hrotate, h⟩ := FileM.run_cases h
  · exact (rotate_run hrotate contents.container).1
  obtain ⟨hleft, hplaces⟩ := rotate_run hrotate contents.container
  split at h
  · cases h
    exact hleft
  rename_i hrotated
  obtain ⟨htemporary, hbackup⟩ := hplaces _ rfl (by simpa using hrotated)
  have hfinal : ∀ result, (renameFile (snapshotTemporaryPath path) path faults.move).run moved =
      (result, left) → LeftBehind contents.container (stored path)
        (stored (snapshotBackupPath path)) (left path) (left (snapshotBackupPath path)) := by
    intro result hmove
    obtain ⟨rfl, -⟩ | ⟨rfl, -, -⟩ := renameFile_run hmove
    · exact hleft
    rw [FileSystem.set_of_ne _ (temporaryPath_ne path), FileSystem.set_self,
      FileSystem.set_of_ne _ (backupPath_ne_temporaryPath path),
      FileSystem.set_of_ne _ (backupPath_ne path), htemporary, hstored]
    split at hbackup
    · rename_i hsome
      rw [hbackup]
      exact .replaced hsome
    · rename_i hnone
      rw [hbackup]
      exact .placed (by simpa using hnone)
  obtain ⟨hmove, -⟩ | ⟨status, last, hmove, h⟩ := FileM.run_cases h
  · exact hfinal _ hmove
  · split at h
    · cases h
      exact hfinal _ hmove
    · cases h
      exact hfinal _ hmove

theorem writeSnapshot_ok
    (h : (writeSnapshot path contents policy faults).run files = (some result, left))
    (hok : result.status.ok = true) :
    contents.encodePayload.length ≤ policy.limits.maxSnapshotBytes.toNat ∧
      left path = some contents.container := by
  unfold writeSnapshot at h
  by_cases hsize : contents.encodePayload.length > policy.limits.maxSnapshotBytes.toNat
  · rw [if_pos hsize] at h
    cases h
    cases hok
  refine ⟨Nat.not_lt.1 hsize, ?_⟩
  rw [if_neg hsize] at h
  obtain ⟨-, hnone⟩ | ⟨written, stored, hwrite, h⟩ := FileM.run_cases h
  · cases hnone
  split at h
  · rename_i hfailed
    cases h
    simp only at hok
    rw [hok] at hfailed
    cases hfailed
  rename_i hwritten
  have hstored := (writeFile_run hwrite).2 _ rfl (by simpa using hwritten)
  obtain ⟨-, hnone⟩ | ⟨rotated, moved, hrotate, h⟩ := FileM.run_cases h
  · cases hnone
  split at h
  · rename_i hfailed
    cases h
    simp only at hok
    rw [hok] at hfailed
    cases hfailed
  rename_i hrotated
  obtain ⟨htemporary, -⟩ := (rotate_run hrotate contents.container).2 _ rfl (by simpa using hrotated)
  obtain ⟨-, hnone⟩ | ⟨status, last, hmove, hend⟩ := FileM.run_cases h
  · cases hnone
  obtain ⟨-, hfailed⟩ | ⟨rfl, -, -⟩ := renameFile_run hmove
  · rw [if_pos (by rw [hfailed _ rfl]; rfl)] at hend
    cases hend
    rw [hfailed _ rfl] at hok
    cases hok
  · have hplaced : left = (moved.set path (moved (snapshotTemporaryPath path))).set
        (snapshotTemporaryPath path) none := by
      split at hend
      · cases hend
        rfl
      · cases hend
        rfl
    rw [hplaced, FileSystem.set_of_ne _ (temporaryPath_ne path), FileSystem.set_self, htemporary,
      hstored]

theorem writeSnapshot_oversized
    (hsize : policy.limits.maxSnapshotBytes.toNat < contents.encodePayload.length) :
    (writeSnapshot path contents policy faults).files files = files := by
  unfold FileM.files writeSnapshot
  rw [if_pos hsize]
  rfl

theorem loadOnce_container
    (hsize : contents.encodePayload.length ≤ policy.limits.maxSnapshotBytes.toNat)
    (h : files path = some contents.container) :
    (loadOnce files path policy).contents = none ∨
      (loadOnce files path policy).contents = some contents.stamped := by
  cases hload : (loadOnce files path policy).contents with
  | none => exact .inl rfl
  | some loaded =>
    obtain ⟨raw, hraw, -, hdecode⟩ := loadOnce_some hload
    cases h.symm.trans hraw
    exact .inr (by rw [decodeContainer_exact hsize hdecode])

end

/-- However the write ends, the snapshot can be read afterwards, as it was or as it was to be. -/
def SurvivesWrite (files : FileSystem) (path : String) (contents before : SnapshotContents)
    (policy : Policy) : Prop :=
  ∀ faults : WriteFaults, ∃ after,
    (readSnapshot ((writeSnapshot path contents policy faults).files files) path policy).contents =
      some after ∧ (after = before ∨ after = contents.stamped)

/-- With no damaged file in the way, everything a write may leave behind is readable. -/
theorem LeftBehind.readable {files left : FileSystem} {contents : SnapshotContents}
    (h : LeftBehind contents.container (files path) (files (snapshotBackupPath path)) (left path)
      (left (snapshotBackupPath path)))
    (hsize : contents.encodePayload.length ≤ policy.limits.maxSnapshotBytes.toNat)
    (hread : (readSnapshot files path policy).contents = some before)
    (hsound : files path = none ∨ (loadOnce files path policy).contents = some before) :
    ∃ after, (readSnapshot left path policy).contents = some after ∧
      (after = before ∨ after = contents.stamped) := by
  have hprimary (hsome : (files path).isSome) :
      (loadOnce files path policy).contents = some before := by
    rcases hsound with hnone | hloaded
    · rw [hnone] at hsome
      cases hsome
    · exact hloaded
  rw [readSnapshot_contents] at hread ⊢
  generalize hp : left path = primary at h
  generalize hb : left (snapshotBackupPath path) = backup at h
  cases h with
  | untouched =>
    rw [loadOnce_congr _ _ hp, loadOnce_congr _ _ hb, hread]
    exact ⟨before, rfl, .inl rfl⟩
  | backupRemoved hsome =>
    rw [loadOnce_congr _ _ hp, hprimary hsome]
    exact ⟨before, rfl, .inl rfl⟩
  | moved hsome =>
    rw [loadOnce_missing hp, loadOnce_congr _ _ hb, hprimary hsome]
    exact ⟨before, rfl, .inl rfl⟩
  | replaced hsome =>
    rw [loadOnce_congr _ _ hb, hprimary hsome]
    rcases loadOnce_container hsize hp with hnew | hnew
    · exact ⟨before, by rw [hnew]; rfl, .inl rfl⟩
    · exact ⟨contents.stamped, by rw [hnew]; rfl, .inr rfl⟩
  | placed hnone =>
    rw [loadOnce_missing hnone, Option.none_or] at hread
    rw [loadOnce_congr _ _ hb, hread]
    rcases loadOnce_container hsize hp with hnew | hnew
    · exact ⟨before, by rw [hnew]; rfl, .inl rfl⟩
    · exact ⟨contents.stamped, by rw [hnew]; rfl, .inr rfl⟩

theorem writeSnapshot_backup_lost {files : FileSystem} {contents : SnapshotContents}
    (hsize : contents.encodePayload.length ≤ policy.limits.maxSnapshotBytes.toNat)
    (hsome : (files path).isSome) :
    (writeSnapshot path contents policy { rotate := .crashes }).files files =
      (files.set (snapshotTemporaryPath path) (some contents.container)).set
        (snapshotBackupPath path) none := by
  have hwrite : (writeFile (snapshotTemporaryPath path) contents.container .none).run files =
      (some .success, files.set (snapshotTemporaryPath path) (some contents.container)) := by
    rw [writeFile, FileM.run_bind]
    show (some _, files.set _ (some (contents.container.take _))) = _
    rw [List.take_length]
  have hrotate (stored : FileSystem) (hstored : fileExists stored path = true) :
      (rotate path { rotate := .crashes }).run stored =
        (none, stored.set (snapshotBackupPath path) none) := by
    show (ite (fileExists stored path = true) _ _ : FileM Status).run stored = _
    rw [if_pos hstored, FileM.run_bind]
    rfl
  unfold FileM.files writeSnapshot
  rw [if_neg (Nat.not_lt.2 hsize), FileM.run_bind, hwrite]
  simp only
  rw [if_neg (by decide), FileM.run_bind, hrotate]
  rwa [fileExists, FileSystem.set_of_ne _ (temporaryPath_ne path)]

/-- A write keeps a readable snapshot readable exactly when it does not start, or when the file it
rotates away is missing or sound. -/
theorem survivesWrite_iff (h : (readSnapshot files path policy).contents = some before) :
    SurvivesWrite files path contents before policy ↔
      policy.limits.maxSnapshotBytes.toNat < contents.encodePayload.length ∨ files path = none ∨
        (loadOnce files path policy).ok = true := by
  by_cases hsize : policy.limits.maxSnapshotBytes.toNat < contents.encodePayload.length
  · simp only [hsize, true_or, iff_true]
    intro faults
    rw [writeSnapshot_oversized hsize]
    exact ⟨before, h, .inl rfl⟩
  have hle := Nat.not_lt.1 hsize
  constructor
  · intro hsurvives
    by_contra hdamaged
    obtain ⟨-, hsome, hbroken⟩ := not_or.1 hdamaged |>.imp id not_or.1
    have hprimary : (loadOnce files path policy).contents = none := by
      simpa [SnapshotLoadResult.ok] using hbroken
    obtain ⟨after, hafter, -⟩ := hsurvives { rotate := .crashes }
    rw [writeSnapshot_backup_lost hle (Option.isSome_iff_ne_none.2 hsome), readSnapshot_contents,
      loadOnce_missing (FileSystem.set_self ..), Option.or_none, loadOnce_congr files path,
      hprimary] at hafter
    · cases hafter
    · rw [FileSystem.set_of_ne _ (backupPath_ne path).symm,
        FileSystem.set_of_ne _ (temporaryPath_ne path)]
  · rintro (hlarge | hsound) faults
    · exact absurd hlarge hsize
    · refine (writeSnapshot_leaves hle).readable hle h (hsound.imp id fun hok => ?_)
      rw [readSnapshot_contents] at h
      obtain ⟨loaded, hloaded⟩ := Option.isSome_iff_exists.1 hok
      rw [hloaded, Option.some_or] at h
      rw [hloaded, h]

theorem empty_snapshot_fits : SnapshotContents.Fits {} limits := by
  constructor <;> simp

theorem loadOnce_empty (files : FileSystem) (path : String)
    (h : files path = some (SnapshotContents.container {})) :
    (loadOnce files path makeDefaultPolicy).contents = some (SnapshotContents.stamped {}) := by
  have hpayload : (SnapshotContents.encodePayload {}).length = 148 := by decide +kernel
  refine loadOnce_decoded h (by rw [SnapshotContents.container_length, hpayload]; decide) ?_
  exact decodeContainer_fits (by rw [hpayload]; decide) empty_snapshot_fits

theorem survivesWrite_sound_primary :
    SurvivesWrite (fun path => if path = "state" then some (SnapshotContents.container {}) else none)
      "state" { acceptanceIndex := 1 } (SnapshotContents.stamped {}) makeDefaultPolicy := by
  have hloaded := loadOnce_empty
    (fun path => if path = "state" then some (SnapshotContents.container {}) else none) "state"
    (if_pos rfl)
  refine (survivesWrite_iff ?_).2 (.inr (.inr ?_))
  · rw [readSnapshot_contents, hloaded]
    rfl
  · rw [SnapshotLoadResult.ok, hloaded]
    rfl

/-- A damaged primary with a sound backup: the only readable copy can be removed. -/
theorem survivesWrite_fails :
    ¬ ∀ (files : FileSystem) (path : String) (contents before : SnapshotContents)
      (policy : Policy), (readSnapshot files path policy).contents = some before →
      SurvivesWrite files path contents before policy := by
  intro h
  let files : FileSystem := fun path =>
    if path = "state" then some []
    else if path = "state.prev" then some (SnapshotContents.container {}) else none
  have hprimary : (loadOnce files "state" makeDefaultPolicy).contents = none := rfl
  have hbackup : (loadOnce files (snapshotBackupPath "state") makeDefaultPolicy).contents =
      some (SnapshotContents.stamped {}) := loadOnce_empty _ _ rfl
  have hsize : (SnapshotContents.encodePayload {}).length ≤
      makeDefaultPolicy.limits.maxSnapshotBytes.toNat := by
    decide +kernel
  obtain ⟨after, hafter, -⟩ := h files "state" {} _ makeDefaultPolicy
    (by rw [readSnapshot_contents, hprimary, hbackup]; rfl) { rotate := .crashes }
  rw [writeSnapshot_backup_lost hsize rfl, readSnapshot_contents,
    loadOnce_missing (FileSystem.set_self ..), Option.or_none, loadOnce_congr files "state",
    hprimary] at hafter
  · cases hafter
  · rfl

end LinkObservatory
