import LinkObservatory.Batch
import LinkObservatory.Frame

namespace LinkObservatory
set_option autoImplicit true

open Splitting

/-- The answer to a push, before it is rendered. -/
inductive PushAnswer
  | failed (status : Status)
  | ack (submitted rejected : Nat) (errors : List String)

def errorPayload (status : Status) : Bytes :=
  ascii "code=" ++ ascii status.code.toString ++ ascii " message=" ++ ascii status.message

def PushAnswer.frame : PushAnswer → Frame
  | .failed status => { type := .errorReport, payload := errorPayload status }
  | .ack submitted rejected errors =>
    { type := .pushAck
      payload := errors.foldl (fun payload error => payload ++ [newline] ++ ascii error)
        (ascii "records=" ++ toDec (UInt64.ofNat submitted) ++ ascii " rejected=" ++
          toDec (UInt64.ofNat rejected)) }

/-- What a push does: its answer, the records that the observatory has taken, and the state of the
world behind it. -/
structure PushResult (σ : Type) where
  answer : PushAnswer
  submitted : List ParsedRecord
  world : σ

/-- The arm of the connection handler for a push; the world says what becomes of a batch. -/
def handlePush (policy : Policy) (submitBatch : List ParsedRecord → σ → Status × σ)
    (payload : Bytes) (world : σ) : PushResult σ :=
  let outcome := parseBatch payload policy
  if outcome.status.ok then
    let applied := submitBatch outcome.records world
    if !applied.1.ok then { answer := .failed applied.1, submitted := [], world := applied.2 }
    else
      { answer := .ack 1 outcome.rejected outcome.errors
        submitted := outcome.records
        world := applied.2 }
  else { answer := .ack 0 outcome.rejected outcome.errors, submitted := [], world }

inductive ExitCode
  | ok
  | usage
  | data
  | io
  | integrity
  | unsupported
  | internal
deriving DecidableEq, Repr

def exitCodeFor : StatusCode → ExitCode
  | .ok => .ok
  | .invalidArgument => .usage
  | .outOfRange | .capacityExceeded | .alreadyExists | .conflict | .rejected => .data
  | .notFound | .ioError => .io
  | .corruptData | .versionMismatch => .integrity
  | .unsupported => .unsupported
  | .cancelled | .internal => .internal

/-- What the command meets: its arguments, its input and the observatory it opens. -/
structure IngestContext where
  db : Option Bytes
  input : Option Bytes
  started : Status
  submitBatch : List ParsedRecord → Status
  stopped : Status

/-- The exit code and the records that the observatory has taken. -/
def runIngest (policy : Policy) (context : IngestContext) : ExitCode × List ParsedRecord :=
  if context.db.isNone || context.db == some [] then (.usage, [])
  else match context.input with
    | none => (.io, [])
    | some text =>
      if !context.started.ok && context.started.code != .notFound then
        (exitCodeFor context.started.code, [])
      else
        let outcome := parseBatch text policy
        if outcome.status.ok && !(context.submitBatch outcome.records).ok then
          (exitCodeFor (context.submitBatch outcome.records).code, [])
        else
          let submitted := if outcome.status.ok then outcome.records else []
          if !context.stopped.ok then (exitCodeFor context.stopped.code, submitted)
          else if outcome.rejected ≠ 0 then (.data, submitted)
          else (.ok, submitted)

/-- Every record line of a text was submitted or is counted as rejected. -/
structure Accounted (policy : Policy) (text : Bytes) (submitted : List ParsedRecord)
    (rejected : Nat) : Prop where
  submitted : submitted =
    (lines newline text).filterMap fun line => (parseRecord line policy).toOption
  rejected : rejected = (lines newline text).countP fun line =>
    isRecordLine line && (parseRecord line policy).toOption.isNone

/-- Every record line of a text was submitted, in its order. -/
def AllSubmitted (policy : Policy) (text : Bytes) (submitted : List ParsedRecord) : Prop :=
  ((lines newline text).filter isRecordLine).map (fun line => (parseRecord line policy).toOption) =
    submitted.map some

/-- Every record line comes before the bound on the records of a batch is reached. -/
def WithinBound (policy : Policy) (text : Bytes) : Prop :=
  ∀ before line after, lines newline text = before ++ line :: after → isRecordLine line = true →
    (before.filterMap fun line => (parseRecord line policy).toOption).length <
      policy.limits.maxRecordsPerBatch.toNat

theorem scanLine_room {policy : Policy} {lineNumber : Nat} {raw : Bytes}
    {outcome outcome' : ParseOutcome} (h : scanLine policy lineNumber raw outcome = .ok outcome')
    (hrecord : isRecordLine raw = true) :
    outcome.records.length < policy.limits.maxRecordsPerBatch.toNat := by
  unfold scanLine at h
  rw [hrecord] at h
  simp only [Bool.not_true, Bool.false_eq_true, ↓reduceIte] at h
  split at h
  · cases h
  · rename_i hroom
    exact Nat.not_le.1 hroom

theorem lines_eq_map (text : Bytes) : lines newline text = (numberedLines text).map Prod.fst :=
  (List.zipIdx_map_fst 1 _).symm

theorem parseBatch_stopped {text : Bytes} {policy : Policy}
    (h : (parseBatch text policy).status.ok = false) :
    ¬WithinBound policy text ∧ (parseBatch text policy).rejected < countRecordLines text := by
  rw [parseBatch_eq] at h ⊢
  cases hscan : scanText text policy with
  | ok outcome =>
    rw [hscan] at h
    cases h
  | error stopped =>
    obtain ⟨before, line, after, reached, hsplit, hbefore, hstop⟩ := scan_error_split _ hscan
    obtain ⟨hrecord, hfull, hrejected, -⟩ := scanLine_error hstop
    have hscanned := scanned_of_ok before hbefore
    have hlines : lines newline text = before.map Prod.fst ++ line.1 :: after.map Prod.fst := by
      rw [lines_eq_map, hsplit, List.map_append, List.map_cons]
    constructor
    · intro hwithin
      have hroom := hwithin _ _ _ hlines hrecord
      rw [List.filterMap_map] at hroom
      rw [hscanned.records] at hfull
      exact absurd hroom (Nat.not_lt.2 hfull)
    · have hcount := accepted_add_rejected policy before
      rw [countRecordLines_eq, hlines, List.countP_append, List.countP_cons, if_pos hrecord,
        List.countP_map]
      simp only [hrejected, hscanned.rejected, Function.comp_def]
      omega

theorem parseBatch_ok_iff (text : Bytes) (policy : Policy) :
    (parseBatch text policy).status.ok = true ↔ WithinBound policy text := by
  constructor
  · intro h before line after hlines hrecord
    rw [parseBatch_eq] at h
    cases hscan : scanText text policy with
    | error stopped =>
      rw [hscan] at h
      exact absurd h (by rw [scan_error _ hscan]; exact Bool.false_ne_true)
    | ok outcome =>
      rw [lines_eq_map] at hlines
      obtain ⟨before, rest, hsplit, rfl, hrest⟩ := List.map_eq_append_iff.1 hlines
      obtain ⟨line, after, rfl, rfl, rfl⟩ := List.map_eq_cons_iff.1 hrest
      unfold scanText at hscan
      rw [hsplit, List.foldlM_append, Except.bind_eq_ok_iff] at hscan
      obtain ⟨reached, hbefore, hscan⟩ := hscan
      rw [List.foldlM_cons, Except.bind_eq_ok_iff] at hscan
      obtain ⟨next, hline, -⟩ := hscan
      have hroom := scanLine_room hline hrecord
      rw [(scanned_of_ok before hbefore).records] at hroom
      rw [List.filterMap_map]
      exact hroom
  · intro hwithin
    by_contra hstopped
    exact (parseBatch_stopped (Bool.eq_false_iff.2 hstopped)).1 hwithin

theorem accounted_of_ok {text : Bytes} {policy : Policy}
    (h : (parseBatch text policy).status.ok = true) :
    Accounted policy text (parseBatch text policy).records (parseBatch text policy).rejected := by
  have hscanned := parseBatch_scanned h
  constructor
  · rw [hscanned.records, lines_eq_map, List.filterMap_map]
    rfl
  · rw [hscanned.rejected, length_rejections]
    exact countP_numberedLines text fun line =>
      isRecordLine line && (parseRecord line policy).toOption.isNone

/-- What is accounted for adds up to the record lines. -/
theorem Accounted.total {policy : Policy} {text : Bytes} {submitted : List ParsedRecord}
    {rejected : Nat} (h : Accounted policy text submitted rejected) :
    submitted.length + rejected = countRecordLines text := by
  have hcount := accepted_add_rejected policy (numberedLines text)
  rw [length_rejections, countP_numberedLines text isRecordLine, ← countRecordLines_eq,
    countP_numberedLines text fun line =>
      isRecordLine line && (parseRecord line policy).toOption.isNone, ← h.rejected] at hcount
  rw [h.submitted, lines_eq_map, List.filterMap_map]
  exact hcount

theorem Accounted.allSubmitted {policy : Policy} {text : Bytes} {submitted : List ParsedRecord}
    (h : Accounted policy text submitted 0) : AllSubmitted policy text submitted := by
  unfold AllSubmitted
  rw [h.submitted]
  have hnone := h.rejected
  generalize lines newline text = found at *
  induction found with
  | nil => rfl
  | cons line found ih =>
    rw [List.countP_cons] at hnone
    have hrest := ih (by omega)
    rcases line_cases policy (line, 0) with ⟨hrecord, haccepted, -⟩ |
        ⟨status, hrecord, hparsed, -, -⟩ | ⟨record, hrecord, hparsed, -, -⟩
    · have hnot : (parseRecord line policy).toOption = none := haccepted
      simp only at hrecord
      simp [hrecord, hnot, hrest]
    · simp only at hrecord hparsed
      simp [hrecord, hparsed, Except.toOption] at hnone
    · have haccepted : (parseRecord line policy).toOption = some record := by
        simp only at hparsed
        rw [hparsed]
        rfl
      simp only at hrecord
      simp [hrecord, haccepted, hrest]

theorem exitCodeFor_ne_ok {status : Status} (h : status.ok = false) :
    exitCodeFor status.code ≠ .ok := by
  obtain ⟨code, message⟩ := status
  cases code <;> simp [Status.ok, exitCodeFor] at h ⊢

theorem runIngest_ok {policy : Policy} {context : IngestContext} {text : Bytes}
    (hinput : context.input = some text) (hok : (parseBatch text policy).status.ok = true)
    (hexit : (runIngest policy context).1 = .ok) :
    (parseBatch text policy).rejected = 0 ∧
      (runIngest policy context).2 = (parseBatch text policy).records := by
  unfold runIngest at hexit ⊢
  rw [hinput] at hexit ⊢
  simp only [hok, Bool.true_and, ↓reduceIte] at hexit ⊢
  split at hexit
  · cases hexit
  rename_i hdb
  rw [if_neg hdb]
  split at hexit
  · rename_i hstarted
    rw [Bool.and_eq_true, Bool.not_eq_true'] at hstarted
    exact absurd hexit (exitCodeFor_ne_ok hstarted.1)
  rename_i hstarted
  rw [if_neg hstarted]
  split at hexit
  · rename_i happlied
    rw [Bool.not_eq_true'] at happlied
    exact absurd hexit (exitCodeFor_ne_ok happlied)
  rename_i happlied
  rw [if_neg happlied]
  split at hexit
  · rename_i hstopped
    rw [Bool.not_eq_true'] at hstopped
    exact absurd hexit (exitCodeFor_ne_ok hstopped)
  rename_i hstopped
  rw [if_neg hstopped]
  split at hexit
  · cases hexit
  rename_i hrejected
  rw [if_neg hrejected]
  exact ⟨not_not.1 hrejected, rfl⟩

theorem stopped_unaccounted {policy : Policy} {text : Bytes}
    (h : (parseBatch text policy).status.ok = false) :
    ¬∀ (σ : Type) (submitBatch : List ParsedRecord → σ → Status × σ) (world : σ)
      (submitted rejected : Nat) (errors : List String),
      (handlePush policy submitBatch text world).answer = .ack submitted rejected errors →
      Accounted policy text (handlePush policy submitBatch text world).submitted rejected := by
  intro hpush
  have hrun : (handlePush policy (fun _ world => (.success, world)) text ()).answer =
      .ack 0 (parseBatch text policy).rejected (parseBatch text policy).errors ∧
      (handlePush policy (fun _ world => (.success, world)) text ()).submitted = [] := by
    simp [handlePush, h]
  have htotal := (hpush Unit _ () _ _ _ hrun.1).total
  rw [hrun.2, List.length_nil, Nat.zero_add] at htotal
  have hless := (parseBatch_stopped h).2
  omega

/-- An acknowledged push and a successful command account for every record line exactly when the
bound on a batch is not reached before the last of them. -/
theorem records_accounted_iff (policy : Policy) (text : Bytes) :
    ((∀ (σ : Type) (submitBatch : List ParsedRecord → σ → Status × σ) (world : σ)
        (submitted rejected : Nat) (errors : List String),
        (handlePush policy submitBatch text world).answer = .ack submitted rejected errors →
        Accounted policy text (handlePush policy submitBatch text world).submitted rejected) ∧
      ∀ context, context.input = some text → (runIngest policy context).1 = .ok →
        AllSubmitted policy text (runIngest policy context).2) ↔ WithinBound policy text := by
  rw [← parseBatch_ok_iff]
  constructor
  · rintro ⟨hpush, -⟩
    by_contra hstopped
    exact stopped_unaccounted (Bool.eq_false_iff.2 hstopped) hpush
  · intro hok
    have haccounted := accounted_of_ok hok
    constructor
    · intro σ submitBatch world submitted rejected errors
      simp only [handlePush, hok, ↓reduceIte]
      split
      · intro h
        cases h
      · intro h
        cases h
        exact haccounted
    · intro context hinput hexit
      have hrun := runIngest_ok hinput hok hexit
      rw [hrun.2]
      rw [hrun.1] at haccounted
      exact haccounted.allSubmitted

/-- Two records do not fit a batch of one. -/
theorem records_unaccounted :
    ¬∀ (policy : Policy) (text : Bytes),
      (∀ (σ : Type) (submitBatch : List ParsedRecord → σ → Status × σ) (world : σ)
        (submitted rejected : Nat) (errors : List String),
        (handlePush policy submitBatch text world).answer = .ack submitted rejected errors →
        Accounted policy text (handlePush policy submitBatch text world).submitted rejected) ∧
      ∀ context, context.input = some text → (runIngest policy context).1 = .ok →
        AllSubmitted policy text (runIngest policy context).2 := by
  intro h
  have hrun : (parseBatch (ascii ("v=1 kind=source name=a authority=primary provenance=real\n" ++
      "v=1 kind=source name=b authority=primary provenance=real\n"))
      { limits := { maxRecordsPerBatch := 1 } }).status.ok = false := by
    decide +kernel
  exact stopped_unaccounted hrun (h _ _).1

end LinkObservatory
