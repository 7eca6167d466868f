import LinkObservatory.Codec
import LinkObservatory.Sha256

namespace LinkObservatory
set_option autoImplicit true

open Std ByteCodec

def kMagic : Bytes := ascii "LKOBSNAP"
def kSnapshotFormatVersion : UInt32 := 1
def kMinimumReaderVersion : UInt32 := 1

structure SnapshotContents where
  formatVersion : UInt32 := 0
  runtime : RuntimeId := {}
  incarnation : IncarnationId := {}
  savedAt : TimePoint := {}
  acceptanceIndex : UInt64 := 0
  links : List PersistedLink := []
  sources : List SourceRecord := []
  slots : List PersistedSlot := []
  streams : List (SourceId × StreamState) := []
  transitions : List TransitionEvent := []
  totalAccepted : UInt64 := 0
  totalFenced : UInt64 := 0
  duplicates : UInt64 := 0
  revisionGaps : UInt64 := 0
  counterResets : UInt64 := 0
  counterWraps : UInt64 := 0
  transitionsDropped : UInt64 := 0

/-- The contents as a reader returns them: the writer stamps its own format version. -/
def SnapshotContents.stamped (contents : SnapshotContents) : SnapshotContents :=
  { contents with formatVersion := kSnapshotFormatVersion }

def encodeStream (stream : SourceId × StreamState) : Bytes := stream.1.encode ++ stream.2.encode

def decodeStream : ByteReader (SourceId × StreamState) := do
  let source ← StrongId.decode
  let state ← StreamState.decode
  return (source, state)

def SnapshotContents.encodeTotals (contents : SnapshotContents) : Bytes :=
  encodeU64 contents.totalAccepted ++ encodeU64 contents.totalFenced
    ++ encodeU64 contents.duplicates ++ encodeU64 contents.revisionGaps
    ++ encodeU64 contents.counterResets ++ encodeU64 contents.counterWraps
    ++ encodeU64 contents.transitionsDropped

/-- The payload `write_snapshot` builds. -/
def SnapshotContents.encodePayload (contents : SnapshotContents) : Bytes :=
  encodeU32 kSnapshotFormatVersion ++ contents.runtime.encode ++ contents.incarnation.encode
    ++ contents.savedAt.encode ++ encodeU64 contents.acceptanceIndex
    ++ encodeList PersistedLink.encode contents.links
    ++ encodeList SourceRecord.encode contents.sources
    ++ encodeList PersistedSlot.encode contents.slots
    ++ encodeList encodeStream contents.streams
    ++ encodeList TransitionEvent.encode contents.transitions
    ++ contents.encodeTotals

structure Header where
  formatVersion : UInt32 := 0
  minimumReader : UInt32 := 0
  payloadSize : UInt64 := 0
  payloadDigest : Bytes := []
deriving DecidableEq, Repr

/-- The part of the header that its own digest covers. -/
def Header.encodeFields (header : Header) : Bytes :=
  kMagic ++ encodeU32 header.formatVersion ++ encodeU32 header.minimumReader
    ++ encodeU64 header.payloadSize ++ header.payloadDigest

def encodeHeader (header : Header) : Bytes := header.encodeFields ++ sha256 header.encodeFields

def headerFor (payload : Bytes) : Header :=
  { formatVersion := kSnapshotFormatVersion
    minimumReader := kMinimumReaderVersion
    payloadSize := UInt64.ofNat payload.length
    payloadDigest := sha256 payload }

/-- The bytes of the snapshot file. -/
def SnapshotContents.container (contents : SnapshotContents) : Bytes :=
  encodeHeader (headerFor contents.encodePayload) ++ contents.encodePayload

/-- Why a load was given up, and how far the verification had come. -/
structure LoadFailure where
  status : Status
  integrityVerified : Bool := false
deriving DecidableEq, Repr

/-- Decoding of a verified payload. -/
abbrev PayloadReader (α : Type) := Reader LoadFailure α

def corrupt (message : String) : Status → LoadFailure := fun _ =>
  { status := .of .corruptData message, integrityVerified := true }

/-- An invalid payload header withdraws the verdict on the integrity. -/
def headFailure (status : Status) : LoadFailure :=
  { status := if status.ok then .of .corruptData "snapshot payload header is invalid" else status }

/-- A collection: its length within a bound, then its records. -/
def collection (bound : UInt64) (message : String) (reader : ByteReader α) :
    PayloadReader (List α) := do
  let length ← relabel ({ status := ·, integrityVerified := true }) (ByteReader.count bound)
  relabel (corrupt message) (readMany reader length)

/-- The payload header and the number of links that follow it. -/
def decodePayloadHead (limits : Limits) : ByteReader (SnapshotContents × Nat) := do
  let formatVersion ← ByteReader.u32
  if formatVersion = kSnapshotFormatVersion then do
    let runtime ← StrongId.decode
    let incarnation ← StrongId.decode
    let savedAt ← TimePoint.decode
    let acceptanceIndex ← ByteReader.u64
    let links ← ByteReader.count limits.maxLinks
    return ({ formatVersion, runtime, incarnation, savedAt, acceptanceIndex }, links)
  else throw .success

def decodeTotals (contents : SnapshotContents) : ByteReader SnapshotContents := do
  let totalAccepted ← ByteReader.u64
  let totalFenced ← ByteReader.u64
  let duplicates ← ByteReader.u64
  let revisionGaps ← ByteReader.u64
  let counterResets ← ByteReader.u64
  let counterWraps ← ByteReader.u64
  let transitionsDropped ← ByteReader.u64
  return { contents with
    totalAccepted, totalFenced, duplicates, revisionGaps, counterResets, counterWraps,
    transitionsDropped }

def maxSlots (limits : Limits) : UInt64 :=
  limits.maxLinks * UInt64.ofNat metricFamilyCount * UInt64.ofNat directionCount
    * UInt64.ofNat errorClassCount

def decodePayload (limits : Limits) : PayloadReader SnapshotContents := do
  let head ← relabel headFailure (decodePayloadHead limits)
  let links ← relabel (corrupt "snapshot link record is invalid")
    (readMany PersistedLink.decode head.2)
  let sources ← collection limits.maxSources "snapshot source record is invalid"
    SourceRecord.decode
  let slots ← collection (maxSlots limits) "snapshot evidence slot is invalid"
    PersistedSlot.decode
  let streams ← collection limits.maxSources "snapshot stream record is invalid" decodeStream
  let transitions ← collection limits.maxTotalTransitions "snapshot transition record is invalid"
    TransitionEvent.decode
  relabel (corrupt "snapshot totals are truncated")
    (decodeTotals { head.1 with links, sources, slots, streams, transitions })

/-- The header fields and the digest stored behind them. -/
def decodeHeader : ByteReader (Header × Bytes) := do
  let _ ← ByteReader.raw kMagic.length
  let formatVersion ← ByteReader.u32
  let minimumReader ← ByteReader.u32
  let payloadSize ← ByteReader.u64
  let payloadDigest ← ByteReader.raw 32
  let storedDigest ← ByteReader.raw 32
  return ({ formatVersion, minimumReader, payloadSize, payloadDigest }, storedDigest)

/-- The checks on the header, before the payload is looked at. -/
def checkHeader (limits : Limits) (raw : Bytes) (header : Header) (storedDigest : Bytes) :
    Status :=
  if sha256 (raw.take 56) ≠ storedDigest then
    .of .corruptData "snapshot header digest mismatch"
  else if header.formatVersion ≠ kSnapshotFormatVersion then
    .of .versionMismatch "snapshot format version is not supported by this build"
  else if header.minimumReader > kSnapshotFormatVersion then
    .of .versionMismatch "snapshot requires a newer reader than this build"
  else if header.payloadSize > limits.maxSnapshotBytes then
    .of .capacityExceeded "snapshot payload exceeds the configured size bound"
  else if header.payloadSize.toNat ≠ raw.length - 88 then
    .of .corruptData "snapshot payload length mismatch"
  else if sha256 (raw.drop 88) ≠ header.payloadDigest then
    .of .corruptData "snapshot payload digest mismatch"
  else .success

/-- Verifies and decodes the bytes of a snapshot file. The header is read from exactly 88 bytes,
so its fields are never short. -/
def decodeContainer (limits : Limits) (raw : Bytes) : Except LoadFailure SnapshotContents :=
  if raw.length < 88 then
    .error { status := .of .corruptData "snapshot is shorter than its header" }
  else if raw.take kMagic.length ≠ kMagic then
    .error { status := .of .corruptData "snapshot magic does not match" }
  else match decodeHeader (raw.take 88) with
    | .error _ => .error { status := .of .corruptData "snapshot header is truncated" }
    | .ok (headerRead, _) =>
      let verified := checkHeader limits raw headerRead.1 headerRead.2
      if !verified.ok then .error { status := verified }
      else match decodePayload limits (raw.drop 88) with
        | .error failure => .error failure
        | .ok (contents, rest) =>
          if rest = [] then .ok contents
          else .error (corrupt "snapshot has trailing bytes" .success)

theorem codes_collection {reader : ByteReader α} {encode : α → Bytes} {fits : α → Prop}
    (items : List α) (hsize : (encodeList encode items).length < 2 ^ 64)
    (hpos : ∀ a, 0 < (encode a).length) (bound : UInt64) (message : String)
    (h : ∀ a, (encode a).length < 2 ^ 64 → Codes reader (encode a) a (fits a)) :
    Codes (collection bound message reader) (encodeList encode items) items
      (items.length ≤ bound.toNat ∧ ∀ a ∈ items, fits a) := by
  rw [encodeList, List.length_append] at hsize
  have hlength := length_le_flatMap items hpos
  refine ((codes_count (by omega) bound).relabel _).bind ((codes_many items fun a ha => h a ?_).relabel _)
  have ha := length_le_flatMap_of_mem encode ha
  omega

theorem encodeStream_pos (stream : SourceId × StreamState) : 0 < (encodeStream stream).length := by
  rw [encodeStream, List.length_append]
  have hsource := stream.1.encode_pos
  omega

theorem codes_stream (stream : SourceId × StreamState) (h : (encodeStream stream).length < 2 ^ 64) :
    Codes decodeStream (encodeStream stream) stream
      (stream.2.retiredScopes.length ≤ kMaxRetiredScopesBound.toNat) := by
  rw [encodeStream, List.length_append] at h
  exact (StrongId.codes _).seq ((StreamState.codes _ (by omega)).last _)

theorem PersistedSlot.encode_pos (slot : PersistedSlot) : 0 < slot.encode.length := by
  simp only [PersistedSlot.encode, SlotKey.encode, List.length_append]
  have hlink := slot.slot.link.encode_pos
  omega

theorem codes_totals (contents start : SnapshotContents) :
    Codes (decodeTotals start) contents.encodeTotals
      { start with
        totalAccepted := contents.totalAccepted
        totalFenced := contents.totalFenced
        duplicates := contents.duplicates
        revisionGaps := contents.revisionGaps
        counterResets := contents.counterResets
        counterWraps := contents.counterWraps
        transitionsDropped := contents.transitionsDropped } True := by
  simp only [SnapshotContents.encodeTotals, List.append_assoc]
  exact (codes_u64 _).seq <| (codes_u64 _).seq <| (codes_u64 _).seq <| (codes_u64 _).seq <|
    (codes_u64 _).seq <| (codes_u64 _).seq <| (codes_u64 _).last _

theorem codes_payloadHead (contents : SnapshotContents) (limits : Limits)
    (h : contents.links.length < 2 ^ 64) :
    Codes (decodePayloadHead limits)
      (encodeU32 kSnapshotFormatVersion ++ (contents.runtime.encode ++
        (contents.incarnation.encode ++ (contents.savedAt.encode ++
          (encodeU64 contents.acceptanceIndex ++ encodeCount contents.links.length)))))
      ({ formatVersion := kSnapshotFormatVersion
         runtime := contents.runtime
         incarnation := contents.incarnation
         savedAt := contents.savedAt
         acceptanceIndex := contents.acceptanceIndex }, contents.links.length)
      (contents.links.length ≤ limits.maxLinks.toNat) := by
  refine (codes_u32 _).seq ?_
  rw [if_pos rfl]
  exact (StrongId.codes _).seq <| (StrongId.codes _).seq <| (TimePoint.codes _).seq <|
    (codes_u64 _).seq <| (codes_count h _).last _

/-- The bounds under which the loader accepts what the writer wrote. -/
structure SnapshotContents.Fits (contents : SnapshotContents) (limits : Limits) : Prop where
  linkCount : contents.links.length ≤ limits.maxLinks.toNat
  links : ∀ link ∈ contents.links, link.Fits
  sourceCount : contents.sources.length ≤ limits.maxSources.toNat
  sources : ∀ source ∈ contents.sources, source.name.length ≤ kMaxStringField
  slotCount : contents.slots.length ≤ (maxSlots limits).toNat
  slots : ∀ slot ∈ contents.slots, slot.Fits
  streamCount : contents.streams.length ≤ limits.maxSources.toNat
  streams : ∀ stream ∈ contents.streams,
    stream.2.retiredScopes.length ≤ kMaxRetiredScopesBound.toNat
  transitionCount : contents.transitions.length ≤ limits.maxTotalTransitions.toNat
  transitions : ∀ event ∈ contents.transitions, event.Fits

theorem codes_payload (contents : SnapshotContents) (limits : Limits)
    (h : contents.encodePayload.length < 2 ^ 64) :
    Codes (decodePayload limits) contents.encodePayload contents.stamped
      (contents.Fits limits) := by
  simp only [SnapshotContents.encodePayload, List.append_assoc, List.length_append] at h
  have hlinks : (encodeList PersistedLink.encode contents.links).length < 2 ^ 64 := by omega
  rw [encodeList, List.length_append] at hlinks
  have hcount := length_le_flatMap contents.links PersistedLink.encode_pos
  have hhead := codes_payloadHead contents limits (by omega)
  have hrecords := codes_many contents.links
    fun link hlink => PersistedLink.codes link
      (by have hle := length_le_flatMap_of_mem PersistedLink.encode hlink; omega)
  have hsources := codes_collection contents.sources (by omega)
    SourceRecord.encode_pos limits.maxSources "snapshot source record is invalid" SourceRecord.codes
  have hslots := codes_collection contents.slots (by omega) PersistedSlot.encode_pos
    (maxSlots limits) "snapshot evidence slot is invalid" PersistedSlot.codes
  have hstreams := codes_collection contents.streams (by omega) encodeStream_pos
    limits.maxSources "snapshot stream record is invalid" codes_stream
  have htransitions := codes_collection contents.transitions (by omega)
    TransitionEvent.encode_pos limits.maxTotalTransitions "snapshot transition record is invalid"
    TransitionEvent.codes
  have hread : Codes (decodePayload limits) _ contents.stamped _ :=
    (hhead.relabel headFailure).bind <|
    (hrecords.relabel (corrupt "snapshot link record is invalid")).bind <| hsources.bind <|
    hslots.bind <| hstreams.bind <| htransitions.before <|
    (codes_totals contents _).relabel (corrupt "snapshot totals are truncated")
  simp only [SnapshotContents.encodePayload, encodeList, List.append_assoc] at hread ⊢
  exact hread.mono fun f =>
    ⟨f.linkCount, f.links, ⟨f.sourceCount, f.sources⟩, ⟨f.slotCount, f.slots⟩,
      ⟨f.streamCount, f.streams⟩, f.transitionCount, f.transitions⟩

theorem leBytes_length (n : Nat) (value : UInt64) : (leBytes n value).length = n := by
  induction n generalizing value with
  | zero => rfl
  | succ n ih => rw [leBytes, List.length_cons, ih]

theorem encodeFields_length (payload : Bytes) : (headerFor payload).encodeFields.length = 56 := by
  simp only [Header.encodeFields, headerFor, List.length_append, encodeU32, encodeU64,
    leBytes_length, sha256_length]
  rfl

theorem encodeHeader_length (payload : Bytes) : (encodeHeader (headerFor payload)).length = 88 := by
  rw [encodeHeader, List.length_append, encodeFields_length, sha256_length]

theorem SnapshotContents.container_length (contents : SnapshotContents) :
    contents.container.length = 88 + contents.encodePayload.length := by
  rw [container, List.length_append, encodeHeader_length]

theorem codes_header (payload : Bytes) :
    Codes decodeHeader (encodeHeader (headerFor payload))
      (headerFor payload, sha256 (headerFor payload).encodeFields) True := by
  simp only [encodeHeader, Header.encodeFields, List.append_assoc]
  exact (codes_exactly _ rfl).seq <| (codes_u32 _).seq <| (codes_u32 _).seq <|
    (codes_u64 _).seq <| (codes_exactly _ (sha256_length _)).seq <|
    (codes_exactly _ (sha256_length _)).last _

theorem checkHeader_container {contents : SnapshotContents} {limits : Limits}
    (h : contents.encodePayload.length ≤ limits.maxSnapshotBytes.toNat) :
    checkHeader limits contents.container (headerFor contents.encodePayload)
      (sha256 (headerFor contents.encodePayload).encodeFields) = .success := by
  have hlt := limits.maxSnapshotBytes.toNat_lt
  have hsize : (headerFor contents.encodePayload).payloadSize.toNat =
      contents.encodePayload.length := UInt64.toNat_ofNat_of_lt' (Nat.lt_of_le_of_lt h hlt)
  have hfields : contents.container.take 56 = (headerFor contents.encodePayload).encodeFields := by
    rw [SnapshotContents.container, encodeHeader, List.append_assoc]
    exact List.take_left' (encodeFields_length _)
  have hpayload : contents.container.drop 88 = contents.encodePayload :=
    List.drop_left' (encodeHeader_length _)
  unfold checkHeader
  have hversion : ¬ (headerFor contents.encodePayload).minimumReader > kSnapshotFormatVersion := by
    show ¬ kMinimumReaderVersion > kSnapshotFormatVersion
    decide
  rw [hfields, hpayload, contents.container_length, hsize, if_neg (by simp),
    if_neg (by simp [headerFor]), if_neg hversion, if_neg, if_neg (by omega),
    if_neg (by simp [headerFor])]
  rw [gt_iff_lt, UInt64.lt_iff_toNat_lt, hsize]
  omega

theorem decodeContainer_container {contents : SnapshotContents} {limits : Limits}
    (h : contents.encodePayload.length ≤ limits.maxSnapshotBytes.toNat) :
    decodeContainer limits contents.container =
      match decodePayload limits contents.encodePayload with
      | .error failure => .error failure
      | .ok (contents, rest) =>
        if rest = [] then .ok contents
        else .error (corrupt "snapshot has trailing bytes" .success) := by
  have hmagic : contents.container.take kMagic.length = kMagic := by
    simp only [SnapshotContents.container, encodeHeader, Header.encodeFields, List.append_assoc]
    exact List.take_left' rfl
  have hheader : decodeHeader (contents.container.take 88) =
      .ok ((headerFor contents.encodePayload,
        sha256 (headerFor contents.encodePayload).encodeFields), []) := by
    rw [SnapshotContents.container, List.take_left' (encodeHeader_length _)]
    have hread := (codes_header contents.encodePayload).read trivial []
    rwa [List.append_nil] at hread
  have hpayload : contents.container.drop 88 = contents.encodePayload :=
    List.drop_left' (encodeHeader_length _)
  unfold decodeContainer
  rw [if_neg (by rw [contents.container_length]; omega), if_neg (not_not.2 hmagic), hheader]
  simp only [checkHeader_container h, hpayload]
  rfl

theorem decodeContainer_fits {contents : SnapshotContents} {limits : Limits}
    (h : contents.encodePayload.length ≤ limits.maxSnapshotBytes.toNat)
    (hfits : contents.Fits limits) :
    decodeContainer limits contents.container = .ok contents.stamped := by
  have hlt := limits.maxSnapshotBytes.toNat_lt
  have hread := (codes_payload contents limits (by omega)).read hfits []
  rw [List.append_nil] at hread
  rw [decodeContainer_container h, hread]
  rfl

theorem decodeContainer_exact {contents : SnapshotContents} {limits : Limits}
    (h : contents.encodePayload.length ≤ limits.maxSnapshotBytes.toNat)
    (hok : decodeContainer limits contents.container = .ok result) :
    result = contents.stamped := by
  have hlt := limits.maxSnapshotBytes.toNat_lt
  have hexact := (codes_payload contents limits (by omega)).exact []
  rw [List.append_nil] at hexact
  rw [decodeContainer_container h] at hok
  cases hread : decodePayload limits contents.encodePayload with
  | error failure =>
    rw [hread] at hok
    cases hok
  | ok read =>
    rw [hread, hexact _ hread] at hok
    exact (Except.ok.inj hok).symm

/-- A file system: the bytes of every file that exists. -/
abbrev FileSystem := String → Option Bytes

def snapshotBackupPath (path : String) : String := path ++ ".prev"

def snapshotTemporaryPath (path : String) : String := path ++ ".tmp"

def readFile (files : FileSystem) (path : String) (maxBytes : UInt64) : Except Status Bytes :=
  match files path with
  | none => .error (.of .notFound "snapshot file could not be opened")
  | some raw =>
    if raw.length > maxBytes.toNat then
      .error (.of .capacityExceeded "snapshot exceeds the configured size bound")
    else .ok raw

def fileExists (files : FileSystem) (path : String) : Bool := (files path).isSome

/-- The result of a load; `contents` is present exactly when the source sets `ok`. -/
structure SnapshotLoadResult where
  status : Status := {}
  recoveredFromBackup : Bool := false
  integrityVerified : Bool := false
  primaryFailed : Bool := false
  detail : String := ""
  bytesRead : Nat := 0
  contents : Option SnapshotContents := none

def SnapshotLoadResult.ok (result : SnapshotLoadResult) : Bool := result.contents.isSome

/-- The size of container the loader reads at most; the addition wraps. -/
def maxContainer (limits : Limits) : UInt64 := limits.maxSnapshotBytes + 128

def loadOnce (files : FileSystem) (path : String) (policy : Policy) : SnapshotLoadResult :=
  match readFile files path (maxContainer policy.limits) with
  | .error status => { status := status, detail := status.toString }
  | .ok raw =>
    match decodeContainer policy.limits raw with
    | .error failure =>
      { status := failure.status
        detail := failure.status.toString
        integrityVerified := failure.integrityVerified
        bytesRead := raw.length }
    | .ok contents =>
      { integrityVerified := true, bytesRead := raw.length, contents := some contents }

def readSnapshot (files : FileSystem) (path : String) (policy : Policy) : SnapshotLoadResult :=
  let primary := loadOnce files path policy
  if primary.ok then primary
  else
    let backup := snapshotBackupPath path
    if backup = path ∨ !fileExists files backup then primary
    else
      let fallback := loadOnce files backup policy
      if !fallback.ok then
        { primary with
          detail := primary.detail ++ "; backup also unusable: " ++ fallback.status.toString }
      else
        { fallback with
          primaryFailed := true
          recoveredFromBackup := true
          detail := "primary snapshot unusable (" ++ primary.status.toString
            ++ "); recovered from backup" }

theorem backupPath_ne (path : String) : snapshotBackupPath path ≠ path := fun h => by
  have hlength := congrArg String.length h
  rw [snapshotBackupPath, String.length_append] at hlength
  exact absurd hlength (by simp)

theorem loadOnce_congr (files : FileSystem) (path : String) {left : FileSystem}
    (h : left other = files path) :
    loadOnce left other policy = loadOnce files path policy := by
  simp only [loadOnce, readFile, h]

theorem loadOnce_missing {files : FileSystem} (h : files path = none) :
    (loadOnce files path policy).contents = none := by
  simp only [loadOnce, readFile, h]

/-- A snapshot is read from the primary file, or else from the backup. -/
theorem readSnapshot_contents (files : FileSystem) (path : String) (policy : Policy) :
    (readSnapshot files path policy).contents =
      (loadOnce files path policy).contents.or
        (loadOnce files (snapshotBackupPath path) policy).contents := by
  unfold readSnapshot
  cases hprimary : (loadOnce files path policy).contents with
  | some contents => simp [SnapshotLoadResult.ok, hprimary]
  | none =>
    cases hbackup : (loadOnce files (snapshotBackupPath path) policy).contents with
    | none => simp [SnapshotLoadResult.ok, hprimary, hbackup, apply_ite SnapshotLoadResult.contents]
    | some contents =>
      have hexists : fileExists files (snapshotBackupPath path) = true := by
        by_contra hmissing
        rw [loadOnce_missing (by simpa [fileExists] using hmissing)] at hbackup
        cases hbackup
      simp [SnapshotLoadResult.ok, hprimary, hbackup, backupPath_ne, hexists]

theorem loadOnce_decoded {files : FileSystem} {policy : Policy} (h : files path = some raw)
    (hsize : raw.length ≤ (maxContainer policy.limits).toNat)
    (hdecode : decodeContainer policy.limits raw = .ok contents) :
    (loadOnce files path policy).contents = some contents := by
  have hread : readFile files path (maxContainer policy.limits) = .ok raw := by
    rw [readFile, h]
    simp only
    rw [if_neg (Nat.not_lt.2 hsize)]
  unfold loadOnce
  rw [hread]
  simp only [hdecode]

theorem loadOnce_some {files : FileSystem} {policy : Policy}
    (h : (loadOnce files path policy).contents = some contents) :
    ∃ raw, files path = some raw ∧ raw.length ≤ (maxContainer policy.limits).toNat ∧
      decodeContainer policy.limits raw = .ok contents := by
  unfold loadOnce readFile at h
  cases hfile : files path with
  | none =>
    rw [hfile] at h
    cases h
  | some raw =>
    rw [hfile] at h
    simp only at h
    split at h
    · cases h
    · rename_i read hread
      split at hread
      · cases hread
      rename_i hsize
      cases hread
      split at h
      · cases h
      · rename_i decoded hdecode
        cases h
        exact ⟨raw, rfl, Nat.not_lt.1 hsize, hdecode⟩

end LinkObservatory
