import LinkObservatory.Record
import LinkObservatory.Lib.Splitting

namespace LinkObservatory
set_option autoImplicit true

open Splitting

def kMaxReportedErrors : Nat := 32

structure ParseOutcome where
  status : Status := {}
  records : List ParsedRecord := []
  linesScanned : Nat := 0
  errors : List String := []
  rejected : Nat := 0
  ignoredLines : Nat := 0

/-- A line that is not blank and not a comment. -/
def isRecordLine (raw : Bytes) : Bool :=
  let line := trimAscii raw
  !(line == [] || line.head? == some numberSign)

def lineError (lineNumber : Nat) (status : Status) : String :=
  "line " ++ asText (toDec (UInt64.ofNat lineNumber)) ++ ": " ++ status.toString

/-- The body of the loop over the lines; it ends the parse when the bound is reached. -/
def scanLine (policy : Policy) (lineNumber : Nat) (raw : Bytes) (outcome : ParseOutcome) :
    Except ParseOutcome ParseOutcome :=
  if !isRecordLine raw then .ok { outcome with ignoredLines := outcome.ignoredLines + 1 }
  else if outcome.records.length ≥ policy.limits.maxRecordsPerBatch.toNat then
    .error
      { outcome with
        status := .of .capacityExceeded "input exceeds the configured records-per-batch bound" }
  else match parseRecord (trimAscii raw) policy with
    | .error status =>
      .ok
        { outcome with
          linesScanned := outcome.linesScanned + 1
          rejected := outcome.rejected + 1
          errors :=
            if outcome.errors.length < kMaxReportedErrors then
              outcome.errors ++ [lineError lineNumber status]
            else outcome.errors }
    | .ok record =>
      .ok
        { outcome with
          linesScanned := outcome.linesScanned + 1
          records := outcome.records ++ [record] }

/-- The loop stops at the end of the text, so a text that ends with a newline has no line behind
it. The fuel bounds the bytes that are left. -/
def parseBatchFrom (policy : Policy) : Nat → Bytes → Nat → ParseOutcome → ParseOutcome
  | 0, _, _, outcome => outcome
  | fuel + 1, text, lineNumber, outcome =>
    if text = [] then { outcome with status := .success }
    else match scanLine policy (lineNumber + 1) (text.takeWhile (· != newline)) outcome with
      | .error outcome => outcome
      | .ok outcome =>
        match text.dropWhile (· != newline) with
        | [] => { outcome with status := .success }
        | _ :: rest => parseBatchFrom policy fuel rest (lineNumber + 1) outcome

def parseBatch (text : Bytes) (policy : Policy) : ParseOutcome :=
  parseBatchFrom policy (text.length + 1) text 0 {}

/-- This loop also visits the empty line behind a final newline. -/
def countRecordLinesFrom : Nat → Bytes → Nat → Nat
  | 0, _, count => count
  | fuel + 1, text, count =>
    let count := if isRecordLine (text.takeWhile (· != newline)) then count + 1 else count
    match text.dropWhile (· != newline) with
    | [] => count
    | _ :: rest => countRecordLinesFrom fuel rest count

def countRecordLines (text : Bytes) : Nat := countRecordLinesFrom (text.length + 1) text 0

theorem trimAscii_trimAscii (text : Bytes) : trimAscii (trimAscii text) = trimAscii text := by
  unfold trimAscii
  have hhead := List.head?_dropWhile_not isBlank text
  generalize text.dropWhile isBlank = rest at *
  have hfront : (rest.rdropWhile isBlank).dropWhile isBlank = rest.rdropWhile isBlank := by
    obtain ⟨blanks, hblanks⟩ := List.rdropWhile_prefix isBlank rest
    generalize rest.rdropWhile isBlank = kept at *
    subst hblanks
    cases kept with
    | nil => rfl
    | cons character kept =>
      apply List.dropWhile_cons_of_neg
      rw [Bool.not_eq_true]
      exact hhead
  rw [hfront, List.rdropWhile_idempotent]

theorem parseRecord_trimAscii (line : Bytes) (policy : Policy) :
    parseRecord (trimAscii line) policy = parseRecord line policy := by
  unfold parseRecord
  rw [trimAscii_trimAscii]

/-- The lines of a text with their numbers. -/
def numberedLines (text : Bytes) : List (Bytes × Nat) := (lines newline text).zipIdx 1

theorem parseBatchFrom_eq (policy : Policy) (fuel : Nat) (text : Bytes) (lineNumber : Nat)
    (outcome : ParseOutcome) (h : text.length < fuel) :
    parseBatchFrom policy fuel text lineNumber outcome =
      match ((lines newline text).zipIdx (lineNumber + 1)).foldlM
        (fun outcome line => scanLine policy line.2 line.1 outcome) outcome with
      | .error outcome => outcome
      | .ok outcome => { outcome with status := .success } := by
  induction fuel generalizing text lineNumber outcome with
  | zero => omega
  | succ fuel ih =>
    rw [parseBatchFrom]
    split
    · rename_i hempty
      rw [hempty, lines_nil]
      rfl
    · rename_i hne
      cases hafter : text.dropWhile (· != newline) with
      | nil =>
        have hall := @List.takeWhile_append_dropWhile _ (· != newline) text
        rw [hafter, List.append_nil] at hall
        rw [lines_of_dropWhile_nil hne hafter, hall, List.zipIdx_singleton, List.foldlM_cons]
        cases scanLine policy (lineNumber + 1) text outcome with
        | error outcome => rfl
        | ok outcome => rfl
      | cons separator rest =>
        have hshort := List.length_dropWhile_le (· != newline) text
        rw [hafter, List.length_cons] at hshort
        rw [lines_of_dropWhile_cons hafter, List.zipIdx_cons, List.foldlM_cons]
        cases scanLine policy (lineNumber + 1) (text.takeWhile (· != newline)) outcome with
        | error outcome => rfl
        | ok outcome => exact ih rest (lineNumber + 1) outcome (by omega)

theorem countRecordLinesFrom_eq (fuel : Nat) (text : Bytes) (count : Nat) (h : text.length < fuel) :
    countRecordLinesFrom fuel text count = count + (text.splitOn newline).countP isRecordLine := by
  induction fuel generalizing text count with
  | zero => omega
  | succ fuel ih =>
    rw [countRecordLinesFrom]
    cases hafter : text.dropWhile (· != newline) with
    | nil =>
      have hall := @List.takeWhile_append_dropWhile _ (· != newline) text
      rw [hafter, List.append_nil] at hall
      rw [splitOn_of_dropWhile_nil hafter, hall, List.countP_singleton]
      simp only
      split <;> rfl
    | cons separator rest =>
      have hshort := List.length_dropWhile_le (· != newline) text
      rw [hafter, List.length_cons] at hshort
      rw [splitOn_of_dropWhile_cons hafter, List.countP_cons]
      simp only
      rw [ih rest _ (by omega)]
      split <;> omega

theorem countRecordLines_eq (text : Bytes) :
    countRecordLines text = (lines newline text).countP isRecordLine := by
  unfold countRecordLines
  rw [countRecordLinesFrom_eq _ _ _ (Nat.lt_succ_self _), Nat.zero_add, countP_splitOn]
  rfl

theorem isRecordLine_of_ok (h : parseRecord line policy = .ok record) :
    isRecordLine line = true := by
  unfold parseRecord at h
  simp only at h
  split at h
  · cases h
  · rename_i htext
    simpa [isRecordLine] using htext

/-- The record of a line that the parser accepts. -/
def acceptedRecord (policy : Policy) (line : Bytes × Nat) : Option ParsedRecord :=
  (parseRecord line.1 policy).toOption

/-- The report on a record line that the parser rejects. -/
def rejection (policy : Policy) (line : Bytes × Nat) : Option String :=
  if isRecordLine line.1 then
    match parseRecord line.1 policy with
    | .error status => some (lineError line.2 status)
    | .ok _ => none
  else none

theorem line_cases (policy : Policy) (line : Bytes × Nat) :
    (isRecordLine line.1 = false ∧ acceptedRecord policy line = none ∧
      rejection policy line = none) ∨
    (∃ status, isRecordLine line.1 = true ∧ parseRecord line.1 policy = .error status ∧
      acceptedRecord policy line = none ∧
      rejection policy line = some (lineError line.2 status)) ∨
    ∃ record, isRecordLine line.1 = true ∧ parseRecord line.1 policy = .ok record ∧
      acceptedRecord policy line = some record ∧ rejection policy line = none := by
  unfold acceptedRecord rejection
  cases hparsed : parseRecord line.1 policy with
  | error status =>
    cases hrecord : isRecordLine line.1 with
    | false => exact .inl ⟨rfl, rfl, rfl⟩
    | true => exact .inr (.inl ⟨status, rfl, rfl, rfl, rfl⟩)
  | ok record =>
    rw [isRecordLine_of_ok hparsed]
    exact .inr (.inr ⟨record, rfl, rfl, rfl, rfl⟩)

/-- What a scan of some lines has found. -/
structure Scanned (policy : Policy) (seen : List (Bytes × Nat)) (outcome : ParseOutcome) :
    Prop where
  records : outcome.records = seen.filterMap (acceptedRecord policy)
  errors : outcome.errors = (seen.filterMap (rejection policy)).take kMaxReportedErrors
  rejected : outcome.rejected = (seen.filterMap (rejection policy)).length
  scanned : outcome.linesScanned = seen.countP fun line => isRecordLine line.1
  ignored : outcome.ignoredLines = seen.countP fun line => !isRecordLine line.1

theorem take_concat_report (reports : List String) (report : String) :
    (if (reports.take kMaxReportedErrors).length < kMaxReportedErrors then
      reports.take kMaxReportedErrors ++ [report] else reports.take kMaxReportedErrors) =
      (reports ++ [report]).take kMaxReportedErrors := by
  rw [List.take_append, List.length_take]
  by_cases hroom : reports.length < kMaxReportedErrors
  · rw [if_pos (by omega), List.take_of_length_le (l := [report])]
    rw [List.length_singleton]
    omega
  · rw [if_neg (by omega), Nat.sub_eq_zero_of_le (by omega)]
    simp

/-- A line that ends nothing is scanned for what it is. -/
theorem Scanned.step {policy : Policy} {seen : List (Bytes × Nat)} {line : Bytes × Nat}
    {outcome outcome' : ParseOutcome} (hscanned : Scanned policy seen outcome)
    (h : scanLine policy line.2 line.1 outcome = .ok outcome') :
    Scanned policy (seen ++ [line]) outcome' := by
  unfold scanLine at h
  rw [parseRecord_trimAscii] at h
  rcases line_cases policy line with ⟨hrecord, haccepted, hrejection⟩ |
      ⟨status, hrecord, hparsed, haccepted, hrejection⟩ |
      ⟨record, hrecord, hparsed, haccepted, hrejection⟩
  · simp only [hrecord, Bool.not_false, ↓reduceIte] at h
    cases h
    constructor
    · simp [haccepted, hscanned.records]
    · simp [hrejection, hscanned.errors]
    · simp [hrejection, hscanned.rejected]
    · simp [hrecord, hscanned.scanned]
    · simp [hrecord, hscanned.ignored]
  · simp only [hrecord, Bool.not_true, Bool.false_eq_true, ↓reduceIte, hparsed] at h
    split at h
    · cases h
    cases h
    constructor
    · simp [haccepted, hscanned.records]
    · simp only [List.filterMap_append, List.filterMap_cons, List.filterMap_nil, hrejection,
        hscanned.errors]
      exact take_concat_report _ _
    · simp [hrejection, hscanned.rejected]
    · simp [hrecord, hscanned.scanned]
    · simp [hrecord, hscanned.ignored]
  · simp only [hrecord, Bool.not_true, Bool.false_eq_true, ↓reduceIte, hparsed] at h
    split at h
    · cases h
    cases h
    constructor
    · simp [haccepted, hscanned.records]
    · simp [hrejection, hscanned.errors]
    · simp [hrejection, hscanned.rejected]
    · simp [hrecord, hscanned.scanned]
    · simp [hrecord, hscanned.ignored]

theorem scanned_of_ok {policy : Policy} (seen : List (Bytes × Nat)) {outcome : ParseOutcome}
    (h : seen.foldlM (fun outcome line => scanLine policy line.2 line.1 outcome) {} =
      .ok outcome) : Scanned policy seen outcome := by
  induction seen using List.reverseRecOn generalizing outcome with
  | nil =>
    cases h
    constructor <;> rfl
  | append_singleton seen line ih =>
    rw [List.foldlM_append, Except.bind_eq_ok_iff] at h
    obtain ⟨before, hbefore, hlast⟩ := h
    rw [List.foldlM_cons, Except.bind_eq_ok_iff] at hlast
    obtain ⟨_, hlast, hend⟩ := hlast
    cases hend
    exact (ih hbefore).step hlast

theorem accepted_add_rejected (policy : Policy) (seen : List (Bytes × Nat)) :
    (seen.filterMap (acceptedRecord policy)).length +
      (seen.filterMap (rejection policy)).length =
      seen.countP fun line => isRecordLine line.1 := by
  induction seen with
  | nil => rfl
  | cons line seen ih =>
    rw [List.filterMap_cons, List.filterMap_cons, List.countP_cons, ← ih]
    rcases line_cases policy line with ⟨hrecord, haccepted, hrejection⟩ |
        ⟨status, hrecord, -, haccepted, hrejection⟩ |
        ⟨record, hrecord, -, haccepted, hrejection⟩
    · simp [hrecord, haccepted, hrejection]
    · simp [hrecord, haccepted, hrejection]
      omega
    · simp [hrecord, haccepted, hrejection]
      omega

theorem length_rejections (policy : Policy) (seen : List (Bytes × Nat)) :
    (seen.filterMap (rejection policy)).length =
      seen.countP fun line =>
        isRecordLine line.1 && (parseRecord line.1 policy).toOption.isNone := by
  induction seen with
  | nil => rfl
  | cons line seen ih =>
    rw [List.filterMap_cons, List.countP_cons, ← ih]
    rcases line_cases policy line with ⟨hrecord, -, hrejection⟩ |
        ⟨status, hrecord, hparsed, -, hrejection⟩ | ⟨record, hrecord, hparsed, -, hrejection⟩
    · simp [hrecord, hrejection]
    · simp [hrecord, hrejection, hparsed, Except.toOption]
    · simp [hrecord, hrejection, hparsed, Except.toOption]

/-- The scan of a whole text. -/
def scanText (text : Bytes) (policy : Policy) : Except ParseOutcome ParseOutcome :=
  (numberedLines text).foldlM (fun outcome line => scanLine policy line.2 line.1 outcome) {}

theorem parseBatch_eq (text : Bytes) (policy : Policy) :
    parseBatch text policy =
      match scanText text policy with
      | .error outcome => outcome
      | .ok outcome => { outcome with status := .success } :=
  parseBatchFrom_eq policy _ text 0 {} (Nat.lt_succ_self _)

theorem scanLine_error {policy : Policy} {lineNumber : Nat} {raw : Bytes}
    {outcome outcome' : ParseOutcome} (h : scanLine policy lineNumber raw outcome = .error outcome') :
    isRecordLine raw = true ∧
      outcome.records.length ≥ policy.limits.maxRecordsPerBatch.toNat ∧
      outcome'.rejected = outcome.rejected ∧ outcome'.status.ok = false := by
  unfold scanLine at h
  split at h
  · cases h
  rename_i hrecord
  split at h
  · rename_i hfull
    cases h
    exact ⟨by simpa using hrecord, hfull, rfl, rfl⟩
  · split at h
    · cases h
    · cases h

theorem scan_error_split {policy : Policy} (seen : List (Bytes × Nat))
    {start stopped : ParseOutcome}
    (h : seen.foldlM (fun outcome line => scanLine policy line.2 line.1 outcome) start =
      .error stopped) :
    ∃ before line after reached, seen = before ++ line :: after ∧
      before.foldlM (fun outcome line => scanLine policy line.2 line.1 outcome) start =
        .ok reached ∧ scanLine policy line.2 line.1 reached = .error stopped := by
  induction seen generalizing start with
  | nil => cases h
  | cons line seen ih =>
    rw [List.foldlM_cons] at h
    cases hline : scanLine policy line.2 line.1 start with
    | error status =>
      rw [hline] at h
      cases h
      exact ⟨[], line, seen, start, rfl, rfl, hline⟩
    | ok next =>
      rw [hline] at h
      obtain ⟨before, stop, after, reached, rfl, hbefore, hstop⟩ := ih h
      refine ⟨line :: before, stop, after, reached, rfl, ?_, hstop⟩
      rw [List.foldlM_cons, hline]
      exact hbefore

theorem scan_error {policy : Policy} (seen : List (Bytes × Nat)) {start stopped : ParseOutcome}
    (h : seen.foldlM (fun outcome line => scanLine policy line.2 line.1 outcome) start =
      .error stopped) : stopped.status.ok = false := by
  obtain ⟨_, _, _, _, _, _, hstop⟩ := scan_error_split seen h
  exact (scanLine_error hstop).2.2.2

theorem parseBatch_scanned {text : Bytes} {policy : Policy}
    (h : (parseBatch text policy).status.ok = true) :
    Scanned policy (numberedLines text) (parseBatch text policy) := by
  rw [parseBatch_eq] at h ⊢
  cases hscan : scanText text policy with
  | error outcome =>
    rw [hscan] at h
    exact absurd h (by rw [scan_error _ hscan]; exact Bool.false_ne_true)
  | ok outcome =>
    obtain ⟨hrecords, herrors, hrejected, hscanned, hignored⟩ := scanned_of_ok _ hscan
    exact ⟨hrecords, herrors, hrejected, hscanned, hignored⟩

theorem countP_numberedLines (text : Bytes) (p : Bytes → Bool) :
    ((numberedLines text).countP fun line => p line.1) = (lines newline text).countP p := by
  have hlines : lines newline text = (numberedLines text).map Prod.fst :=
    (List.zipIdx_map_fst 1 _).symm
  rw [hlines, List.countP_map]
  rfl

/-- A batch that is parsed to its end accounts for every line of the text. -/
theorem parseBatch_accounts (text : Bytes) (policy : Policy)
    (h : (parseBatch text policy).status.ok = true) :
    (parseBatch text policy).records =
        (lines newline text).filterMap (fun line => (parseRecord line policy).toOption) ∧
      (parseBatch text policy).records.length + (parseBatch text policy).rejected =
        (parseBatch text policy).linesScanned ∧
      (parseBatch text policy).linesScanned = countRecordLines text ∧
      (parseBatch text policy).ignoredLines + (parseBatch text policy).linesScanned =
        (lines newline text).length ∧
      (parseBatch text policy).errors.length = min 32 (parseBatch text policy).rejected ∧
      (parseBatch text policy).errors =
        ((numberedLines text).filterMap (rejection policy)).take 32 := by
  obtain ⟨hrecords, herrors, hrejected, hscanned, hignored⟩ := parseBatch_scanned h
  have hlines : lines newline text = (numberedLines text).map Prod.fst :=
    (List.zipIdx_map_fst 1 _).symm
  refine ⟨?_, ?_, ?_, ?_, ?_, herrors⟩
  · rw [hrecords, hlines, List.filterMap_map]
    rfl
  · rw [hrecords, hrejected, hscanned]
    exact accepted_add_rejected policy _
  · rw [hscanned, countRecordLines_eq]
    exact countP_numberedLines text isRecordLine
  · rw [hscanned, hignored, countP_numberedLines text isRecordLine,
      countP_numberedLines text (fun line => !isRecordLine line), Nat.add_comm]
    simpa using (List.length_eq_countP_add_countP isRecordLine).symm
  · rw [herrors, hrejected, List.length_take]
    rfl

theorem parseBatch_mixed :
    let text := ascii "# header\n\nv=1 kind=source name=s authority=primary provenance=real\r\nbad\n"
    (parseBatch text {}).records.length + (parseBatch text {}).rejected = 2 := by
  intro text
  have h := (parseBatch_accounts text {} (by decide +kernel)).2
  rw [h.1, h.2.1]
  decide +kernel

end LinkObservatory
