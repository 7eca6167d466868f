import LinkObservatory.Lib.LabelledRun
import LinkObservatory.Resumption

namespace LinkObservatory
set_option autoImplicit true

open Std Labelled

/-- The file that a reload reads as long as what it holds is intact: the snapshot or, where there is
none, its backup. -/
def FileSystem.snapshot (files : FileSystem) (path : String) : Option Bytes :=
  (files path).or (files (snapshotBackupPath path))

section

variable {files left : FileSystem} {path : String}

theorem FileSystem.snapshot_congr (hpath : left path = files path)
    (hbackup : left (snapshotBackupPath path) = files (snapshotBackupPath path)) :
    left.snapshot path = files.snapshot path := by
  rw [snapshot, snapshot, hpath, hbackup]

theorem rotate_snapshot (h : (rotate path faults).run files = (result, left)) :
    left.snapshot path = files.snapshot path := by
  cases hfile : files path with
  | none =>
    change (ite (fileExists files path = true) _ _ : FileM Status).run files = _ at h
    rw [if_neg (by simp [fileExists, hfile])] at h
    cases h
    rfl
  | some old =>
    have hleft := (rotate_run h old).1
    rw [FileSystem.snapshot, FileSystem.snapshot]
    generalize left path = primary at *
    generalize left (snapshotBackupPath path) = backup at *
    rw [hfile] at hleft ⊢
    cases hleft with
    | untouched => rfl
    | backupRemoved _ => rfl
    | moved _ => rfl
    | replaced _ => rfl
    | placed hnone => cases hnone

theorem writeSnapshot_snapshot {contents : SnapshotContents} {policy : Policy}
    {result : Option SnapshotWriteResult}
    (h : (writeSnapshot path contents policy faults).run files = (result, left)) :
    left.snapshot path =
      if result.any fun written => written.status.ok then some contents.container
      else files.snapshot path := by
  cases hok : result.any fun written => written.status.ok with
  | true =>
    obtain ⟨written, rfl, hwritten⟩ := (Option.any_eq_true _ _).1 hok
    rw [FileSystem.snapshot, (writeSnapshot_ok h hwritten).2]
    rfl
  | false =>
    show left.snapshot path = files.snapshot path
    unfold writeSnapshot at h
    dsimp only at h
    split at h
    · cases h
      rfl
    obtain ⟨hwrite, -⟩ | ⟨written, stored, hwrite, h⟩ := FileM.run_cases h
    · obtain ⟨hframe, -⟩ := writeFile_run hwrite
      exact FileSystem.snapshot_congr (hframe _ (temporaryPath_ne path))
        (hframe _ (backupPath_ne_temporaryPath path))
    obtain ⟨hframe, -⟩ := writeFile_run hwrite
    have hstored := FileSystem.snapshot_congr (hframe _ (temporaryPath_ne path))
      (hframe _ (backupPath_ne_temporaryPath path))
    split at h
    · cases h
      exact hstored
    obtain ⟨hrotate, -⟩ | ⟨rotated, moved, hrotate, h⟩ := FileM.run_cases h
    · exact (rotate_snapshot hrotate).trans hstored
    have hmoved := (rotate_snapshot hrotate).trans hstored
    split at h
    · cases h
      exact hmoved
    obtain ⟨hmove, rfl⟩ | ⟨status, last, hmove, hend⟩ := FileM.run_cases h
    · obtain ⟨rfl, -⟩ | ⟨-, -, hsome⟩ := renameFile_run hmove
      · exact hmoved
      · cases hsome
    · obtain ⟨rfl, hfailed⟩ | ⟨-, -, hdone⟩ := renameFile_run hmove
      · rw [if_pos (by rw [hfailed _ rfl]; rfl)] at hend
        cases hend
        exact hmoved
      · -- the new snapshot is in place, and success is reported
        cases hdone
        rw [if_neg (by decide)] at hend
        cases hend
        cases hok

theorem readSnapshot_snapshot {policy : Policy} {contents : SnapshotContents}
    (h : files.snapshot path = some raw) (hsize : raw.length ≤ (maxContainer policy.limits).toNat)
    (hdecode : decodeContainer policy.limits raw = .ok contents) :
    (readSnapshot files path policy).contents = some contents := by
  rw [readSnapshot_contents]
  rw [FileSystem.snapshot] at h
  cases hprimary : files path with
  | some data =>
    rw [hprimary] at h
    cases h
    rw [loadOnce_decoded hprimary hsize hdecode]
    rfl
  | none =>
    rw [hprimary, Option.none_or] at h
    rw [loadOnce_missing hprimary, loadOnce_decoded h hsize hdecode]
    rfl

theorem readSnapshot_none (h : files.snapshot path = none) (policy : Policy) :
    (readSnapshot files path policy).contents = none ∧
      (readSnapshot files path policy).status.code = .notFound := by
  obtain ⟨hprimary, hbackup⟩ := Option.or_eq_none_iff.1 h
  refine ⟨?_, ?_⟩
  · rw [readSnapshot_contents, loadOnce_missing hprimary, loadOnce_missing hbackup]
    rfl
  · unfold readSnapshot loadOnce readFile
    rw [hprimary]
    simp [SnapshotLoadResult.ok, fileExists, hbackup, Status.of]

end

/-- A process and the files that outlive it. -/
structure Installation where
  runtime : Observatory
  files : FileSystem

inductive InstallationAction
  | record (record : ParsedRecord) (instant : TimePoint)
  | saved
  | unsaved
  | crashed

/-- A process that starts loads the snapshot it finds. -/
def Installation.boot (config : RuntimeConfig) (files : FileSystem) : Installation :=
  { runtime := ((Observatory.fresh config).reload files).1, files := files }

/-- Records are applied; the state is persisted, with a fault at any of the steps that touch the
file system; and the process may end at any moment, also in the middle of a write, and start
again. -/
inductive Installation.Step (config : RuntimeConfig) :
    Installation → InstallationAction → Installation → Prop
  | record (record : ParsedRecord) (instant : TimePoint) :
      Step config host (.record record instant)
        { host with runtime := (host.runtime.applyRecord record instant).1 }
  | saved (now : TimePoint) (faults : WriteFaults) :
      (writeSnapshot config.snapshotPath (host.runtime.collectSnapshot now) config.policy
        faults).run host.files = (some result, left) → result.status.ok = true →
      Step config host .saved { host with files := left }
  | unsaved (now : TimePoint) (faults : WriteFaults) :
      (writeSnapshot config.snapshotPath (host.runtime.collectSnapshot now) config.policy
        faults).run host.files = (some result, left) → result.status.ok = false →
      Step config host .unsaved { host with files := left }
  | interrupted (now : TimePoint) (faults : WriteFaults) :
      (writeSnapshot config.snapshotPath (host.runtime.collectSnapshot now) config.policy
        faults).run host.files = (none, left) →
      Step config host .crashed (.boot config left)
  | crashed : Step config host .crashed (.boot config host.files)

/-- What an installation has to remember: the records its process has seen, and those that are
safe. -/
structure Remembered where
  current : List (ParsedRecord × TimePoint) := []
  safe : List (ParsedRecord × TimePoint) := []

def Remembered.after (remembered : Remembered) : InstallationAction → Remembered
  | .record record instant =>
    { remembered with current := remembered.current ++ [(record, instant)] }
  | .saved => { remembered with safe := remembered.current }
  | .unsaved => remembered
  | .crashed => { remembered with current := remembered.safe }

namespace Observatory

theorem run_snoc (config : RuntimeConfig) (records : List (ParsedRecord × TimePoint))
    (record : ParsedRecord) (instant : TimePoint) :
    run config (records ++ [(record, instant)]) =
      ((run config records).applyRecord record instant).1 := by
  rw [run, List.foldl_append]
  rfl

/-- The snapshot on disk is that of a runtime which matches a run of the records; with no snapshot,
there were none. -/
inductive OnDisk (config : RuntimeConfig) (records : List (ParsedRecord × TimePoint))
    (files : FileSystem) : Prop
  | never : records = [] → files.snapshot config.snapshotPath = none → OnDisk config records files
  | saved (now : TimePoint) : Reached config log σ → Matches (run config records) σ →
      (σ.collectSnapshot now).encodePayload.length ≤
        config.policy.limits.maxSnapshotBytes.toNat →
      files.snapshot config.snapshotPath = some (σ.collectSnapshot now).container →
      OnDisk config records files

theorem OnDisk.congr {config : RuntimeConfig} (h : OnDisk config records files)
    (hleft : left.snapshot config.snapshotPath = files.snapshot config.snapshotPath) :
    OnDisk config records left := by
  cases h with
  | never hrecords hnone => exact .never hrecords (hleft.trans hnone)
  | saved now hreached hmatches hsize hfile =>
    exact .saved now hreached hmatches hsize (hleft.trans hfile)

/-- The bounds within which every snapshot can be read back. -/
structure ReadsBack (config : RuntimeConfig) : Prop where
  path : config.snapshotPath ≠ ""
  evidence : config.policy.limits.maxEvidencePerKey ≤ 1024
  sources : config.policy.limits.maxSources ≤ 4096
  bytes : config.policy.limits.maxSnapshotBytes.toNat + 128 < 2 ^ 64

/-- A start is refused for any failure to load but a missing snapshot. -/
def Loads (status : Status) : Prop := status.ok = true ∨ status.code = .notFound

theorem Sound.reload_ok {σ σ₀ : Observatory} (h : σ.Sound) (h₀ : σ₀.Sound)
    (hconfig : σ₀.config = σ.config) (hpath : σ₀.config.snapshotPath ≠ "")
    (hread : (readSnapshot files σ₀.config.snapshotPath σ₀.config.policy).contents =
      some (σ.collectSnapshot now)) : (σ₀.reload files).2.ok = true := by
  obtain ⟨hok, -⟩ := h.restoreFrom hconfig (by rw [h₀.logLimits, hconfig]) now
  unfold Observatory.reload
  rw [if_neg hpath]
  simp only [hread, hok, Bool.not_true, Bool.false_eq_true, if_false]
  rfl

theorem reload_missing {σ : Observatory} (hpath : σ.config.snapshotPath ≠ "")
    (hread : (readSnapshot files σ.config.snapshotPath σ.config.policy).contents = none) :
    (σ.reload files).2 = (readSnapshot files σ.config.snapshotPath σ.config.policy).status := by
  unfold Observatory.reload
  rw [if_neg hpath]
  generalize readSnapshot files σ.config.snapshotPath σ.config.policy = loaded at *
  simp only [hread]

/-- What a process that starts finds on the disk is where it goes on from. -/
theorem OnDisk.boot {config : RuntimeConfig} (h : OnDisk config records files)
    (hbounds : ReadsBack config) :
    Matches (run config records) (Installation.boot config files).runtime ∧
      (∃ log, Reached config log (Installation.boot config files).runtime) ∧
      Loads ((fresh config).reload files).2 := by
  cases h with
  | never hrecords hnone =>
    obtain ⟨hcontents, hcode⟩ := readSnapshot_none hnone config.policy
    have hsame := reload_unread (σ := fresh config) (.inr hcontents)
    refine ⟨?_, ⟨[], .unread files .start (.inr hcontents)⟩, .inr ?_⟩
    · rw [hrecords]
      exact ⟨hsame.1, hsame.2.registry, congrArg EvidenceStore.readable hsame.2.store⟩
    · rw [reload_missing hbounds.path hcontents]
      exact hcode
  | saved now hreached hmatches hsize hfile =>
    obtain ⟨hs, hconfig⟩ := hreached.sound
    obtain ⟨hs₀, hconfig₀⟩ := (Reached.start : Reached config [] (fresh config)).sound
    have hfits := hs.fits (by rw [hconfig]; exact hbounds.evidence)
      (by rw [hconfig]; exact hbounds.sources) now
    rw [hconfig] at hfits
    have hread := readSnapshot_snapshot hfile ((container_fits_iff hsize).2 hbounds.bytes)
      (decodeContainer_fits hsize hfits)
    refine ⟨?_, ⟨_, .reload files now .start hreached hbounds.path hread⟩, .inl ?_⟩
    · exact hmatches.trans (hs.reload hs₀ hconfig.symm hbounds.path hread).matches
    · exact hs.reload_ok hs₀ hconfig.symm hbounds.path hread

/-- The process matches a run of what it is to remember, and the disk one of what is safe. -/
structure Remembers (config : RuntimeConfig) (remembered : Remembered) (host : Installation) :
    Prop where
  runtime : Matches (run config remembered.current) host.runtime
  reached : ∃ log, Reached config log host.runtime
  disk : OnDisk config remembered.safe host.files

theorem OnDisk.remembers {config : RuntimeConfig} (h : OnDisk config records files)
    (hbounds : ReadsBack config) :
    Remembers config { current := records, safe := records } (.boot config files) := by
  obtain ⟨hmatches, hreached, -⟩ := h.boot hbounds
  exact ⟨hmatches, hreached, h⟩

theorem Remembers.step {config : RuntimeConfig} {remembered : Remembered}
    (h : Remembers config remembered host) (hbounds : ReadsBack config)
    (hstep : Installation.Step config host action host') :
    Remembers config (remembered.after action) host' := by
  obtain ⟨log, hreached⟩ := h.reached
  cases hstep with
  | record record instant =>
    refine ⟨?_, ⟨_, hreached.record record instant⟩, h.disk⟩
    show Matches (run config (remembered.current ++ [(record, instant)])) _
    rw [run_snoc]
    exact (h.runtime.applyRecord record instant).2.2
  | saved now faults hwrite hok =>
    have hleft := writeSnapshot_snapshot hwrite
    rw [Option.any_some, hok, if_pos rfl] at hleft
    exact ⟨h.runtime, h.reached,
      .saved now hreached h.runtime (writeSnapshot_ok hwrite hok).1 hleft⟩
  | unsaved now faults hwrite hfailed =>
    have hleft := writeSnapshot_snapshot hwrite
    rw [Option.any_some, hfailed, if_neg Bool.false_ne_true] at hleft
    exact ⟨h.runtime, h.reached, h.disk.congr hleft⟩
  | interrupted now faults hwrite =>
    have hleft := writeSnapshot_snapshot hwrite
    rw [Option.any_none, if_neg Bool.false_ne_true] at hleft
    exact (h.disk.congr hleft).remembers hbounds
  | crashed => exact h.disk.remembers hbounds

end Observatory

end LinkObservatory
