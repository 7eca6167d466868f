import LinkObservatory.Batch

namespace LinkObservatory
set_option autoImplicit true

open Splitting

/-- The loop that cuts a text into batches. `pending` are the bytes between its `start` and its
`cursor`; the fuel bounds the bytes behind the cursor. -/
def chunksFrom (batchBound : Nat) : Nat → Bytes → Bytes → Nat → List Bytes
  | 0, _, _, _ => []
  | fuel + 1, text, pending, count =>
    if text = [] then (if pending = [] then [] else [pending])
    else
      let line := text.takeWhile (· != newline)
      let count := if text.head? = some numberSign then count else count + 1
      match text.dropWhile (· != newline) with
      -- whether the bound is reached or not, what is left of the text is the last chunk
      | [] => [pending ++ line]
      | _ :: rest =>
        let pending := pending ++ line ++ [newline]
        if count ≥ batchBound then pending :: chunksFrom batchBound fuel rest [] 0
        else chunksFrom batchBound fuel rest pending count

/-- How `run_bench` splits its scenario. -/
def splitChunks (batchBound : Nat) (text : Bytes) : List Bytes :=
  chunksFrom batchBound (text.length + 1) text [] 0

/-- The lines that the loop counts: all but the comments that start at the margin. -/
def isCountedLine (line : Bytes) : Bool := line.head? != some numberSign

theorem trimAscii_head? {first : UInt8} (h : isBlank first = false) (rest : Bytes) :
    (trimAscii (first :: rest)).head? = some first := by
  have hfront : (first :: rest).dropWhile isBlank = first :: rest :=
    List.dropWhile_cons_of_neg (by simp [h])
  obtain ⟨blanks, hblanks⟩ := List.rdropWhile_prefix isBlank (first :: rest)
  unfold trimAscii
  rw [hfront]
  cases hcut : (first :: rest).rdropWhile isBlank with
  | nil =>
    rw [List.rdropWhile_eq_nil_iff] at hcut
    rw [hcut first List.mem_cons_self] at h
    cases h
  | cons other kept =>
    rw [hcut] at hblanks
    cases hblanks
    rfl

theorem isCountedLine_of_isRecordLine (h : isRecordLine line = true) :
    isCountedLine line = true := by
  by_contra hcomment
  rw [isCountedLine, bne_iff_ne, not_not] at hcomment
  cases line with
  | nil => cases hcomment
  | cons first rest =>
    obtain rfl : first = numberSign := Option.some.inj hcomment
    simp [isRecordLine, trimAscii_head? (by decide : isBlank numberSign = false)] at h

/-- Chunks that a text falls into between its lines, each of them within the bound. -/
structure Chunked (batchBound : Nat) (text : Bytes) (chunks : List Bytes) : Prop where
  whole : chunks.flatten = text
  sameLines : chunks.flatMap (lines newline) = lines newline text
  bounded : ∀ chunk ∈ chunks, (lines newline chunk).countP isCountedLine ≤ batchBound
  filled : ∀ chunk ∈ chunks.dropLast, (lines newline chunk).countP isCountedLine = batchBound
  nonempty : [] ∉ chunks

theorem Chunked.nil (batchBound : Nat) : Chunked batchBound [] [] := by
  constructor
  · rfl
  · rfl
  · simp
  · simp
  · simp

theorem Chunked.singleton (hne : text ≠ [])
    (hbound : (lines newline text).countP isCountedLine ≤ batchBound) :
    Chunked batchBound text [text] := by
  constructor
  · simp
  · simp
  · simpa using hbound
  · simp
  · simpa using hne.symm

/-- A full chunk of whole lines stands in front of the chunks of what follows it. -/
theorem Chunked.cons (h : Chunked batchBound text chunks) (hended : Ended newline chunk)
    (hne : chunk ≠ []) (hfull : (lines newline chunk).countP isCountedLine = batchBound) :
    Chunked batchBound (chunk ++ text) (chunk :: chunks) := by
  constructor
  · rw [List.flatten_cons, h.whole]
  · rw [List.flatMap_cons, h.sameLines, lines_append hended]
  · exact List.forall_mem_cons.2 ⟨Nat.le_of_eq hfull, h.bounded⟩
  · intro other hmem
    cases hchunks : chunks with
    | nil =>
      rw [hchunks] at hmem
      cases hmem
    | cons next chunks' =>
      rw [hchunks, List.dropLast_cons_cons, ← hchunks] at hmem
      rcases List.mem_cons.1 hmem with rfl | hmem
      · exact hfull
      · exact h.filled other hmem
  · exact List.not_mem_cons_of_ne_of_not_mem hne.symm h.nonempty

theorem countP_first (text : Bytes) :
    (if text.head? = some numberSign then count else count + 1) =
      count + [text.takeWhile (· != newline)].countP isCountedLine := by
  have hhead : text.head? = some numberSign ↔
      (text.takeWhile (· != newline)).head? = some numberSign := by
    cases text with
    | nil => rfl
    | cons first rest =>
      by_cases hfirst : first = newline
      · subst hfirst
        rw [List.takeWhile_cons_of_neg (by simp)]
        exact iff_of_false (by simp [newline, numberSign]) (by simp)
      · rw [List.takeWhile_cons_of_pos (by simpa using hfirst)]
        rfl
  rw [List.countP_singleton, isCountedLine]
  by_cases hcomment : text.head? = some numberSign
  · rw [if_pos hcomment, hhead.1 hcomment]
    rfl
  · rw [if_neg hcomment, if_pos (by rwa [hhead, ← ne_eq, ← bne_iff_ne] at hcomment)]

theorem chunksFrom_chunked (hbound : 0 < batchBound) (fuel : Nat) (text pending : Bytes)
    (count : Nat) (hfuel : text.length < fuel) (hended : Ended newline pending)
    (hcount : (lines newline pending).countP isCountedLine = count) (hroom : count < batchBound) :
    Chunked batchBound (pending ++ text) (chunksFrom batchBound fuel text pending count) := by
  induction fuel generalizing text pending count with
  | zero => omega
  | succ fuel ih =>
    rw [chunksFrom]
    split
    · rename_i hempty
      rw [hempty, List.append_nil]
      split
      · rename_i hnone
        rw [hnone]
        exact .nil batchBound
      · rename_i hsome
        exact .singleton hsome (by omega)
    rename_i hne
    simp only [countP_first]
    have hall := @List.takeWhile_append_dropWhile _ (· != newline) text
    cases hafter : text.dropWhile (· != newline) with
    | nil =>
      rw [hafter, List.append_nil] at hall
      simp only [hall]
      apply Chunked.singleton
      · simp [hne]
      · rw [lines_append hended, lines_of_dropWhile_nil hne hafter, List.countP_append, hcount]
        have hone := List.countP_le_length (p := isCountedLine) (l := [text])
        rw [List.length_singleton] at hone
        omega
    | cons separator rest =>
      obtain rfl : separator = newline := by
        have hhead := List.head?_dropWhile_not (· != newline) text
        rw [hafter] at hhead
        simpa using hhead
      have hshort := List.length_dropWhile_le (· != newline) text
      rw [hafter, List.length_cons] at hshort
      rw [hafter] at hall
      simp only
      have hnone : newline ∉ text.takeWhile (· != newline) := by
        intro hmem
        have hother := List.mem_takeWhile_imp hmem
        simp at hother
      generalize text.takeWhile (· != newline) = line at *
      have hwhole : pending ++ text = pending ++ line ++ [newline] ++ rest := by
        rw [← hall]
        simp
      have hnext : Ended newline (pending ++ line ++ [newline]) := .inr ⟨_, rfl⟩
      have hlines : (lines newline (pending ++ line ++ [newline])).countP isCountedLine =
          count + [line].countP isCountedLine := by
        rw [List.append_assoc, lines_append hended, lines_append_cons, lines_nil, List.append_nil,
          List.splitOn_eq_singleton hnone, List.countP_append, hcount]
      have hone := List.countP_le_length (p := isCountedLine) (l := [line])
      rw [List.length_singleton] at hone
      rw [hwhole]
      split
      · rename_i hfull
        apply Chunked.cons _ hnext
        · simp
        · omega
        · have hrest := ih rest [] 0 (by omega) (.inl rfl) rfl hbound
          rwa [List.nil_append] at hrest
      · rename_i hmore
        exact ih rest _ _ (by omega) hnext hlines (by omega)

theorem splitChunks_chunked (hbound : 0 < batchBound) (text : Bytes) :
    Chunked batchBound text (splitChunks batchBound text) := by
  have hchunked := chunksFrom_chunked hbound _ text [] 0 (Nat.lt_succ_self _) (.inl rfl) rfl hbound
  rwa [List.nil_append] at hchunked

theorem parseBatch_ok_of_bounded {policy : Policy}
    (h : (lines newline text).countP isRecordLine ≤ policy.limits.maxRecordsPerBatch.toNat) :
    (parseBatch text policy).status.ok = true := by
  rw [parseBatch_eq]
  cases hscan : scanText text policy with
  | ok outcome => rfl
  | error outcome =>
    obtain ⟨before, line, after, reached, hsplit, hbefore, hstop⟩ := scan_error_split _ hscan
    obtain ⟨hrecord, hfull, -⟩ := scanLine_error hstop
    rw [(scanned_of_ok before hbefore).records] at hfull
    have hmost := accepted_add_rejected policy before
    rw [← countP_numberedLines, hsplit, List.countP_append, List.countP_cons, if_pos hrecord] at h
    omega

/-- The policy with another bound on the records of a batch. -/
def Policy.withBatchBound (policy : Policy) (bound : UInt64) : Policy :=
  { policy with limits := { policy.limits with maxRecordsPerBatch := bound } }

/-- The record lines of a text that say nothing the parser accepts. -/
def rejectedIn (policy : Policy) (text : Bytes) : Nat :=
  (lines newline text).countP fun line =>
    isRecordLine line && (parseRecord line policy).toOption.isNone

/-- What a text says, whatever batches it is cut into. -/
def recordsIn (policy : Policy) (text : Bytes) : List ParsedRecord :=
  (lines newline text).filterMap fun line => (parseRecord line policy).toOption

theorem parseBatch_finds {policy : Policy} (h : (parseBatch text policy).status.ok = true) :
    (parseBatch text policy).records = recordsIn policy text ∧
      (parseBatch text policy).rejected = rejectedIn policy text := by
  have hscanned := parseBatch_scanned h
  have hlines : lines newline text = (numberedLines text).map Prod.fst :=
    (List.zipIdx_map_fst 1 _).symm
  constructor
  · rw [hscanned.records, recordsIn, hlines, List.filterMap_map]
    rfl
  · rw [hscanned.rejected, length_rejections, rejectedIn]
    exact countP_numberedLines text fun line =>
      isRecordLine line && (parseRecord line policy).toOption.isNone

namespace Chunked

variable {policy : Policy}

theorem records (h : Chunked batchBound text chunks) :
    chunks.flatMap (recordsIn policy) = recordsIn policy text := by
  rw [recordsIn, ← h.sameLines, List.filterMap_flatMap]
  rfl

theorem rejected (h : Chunked batchBound text chunks) :
    (chunks.map (rejectedIn policy)).sum = rejectedIn policy text := by
  rw [rejectedIn, ← h.sameLines, List.countP_flatMap]
  rfl

theorem parses (h : Chunked policy.limits.maxRecordsPerBatch.toNat text chunks)
    (hmem : chunk ∈ chunks) : (parseBatch chunk policy).status.ok = true := by
  apply parseBatch_ok_of_bounded
  have hcounted : (lines newline chunk).countP isRecordLine ≤
      (lines newline chunk).countP isCountedLine :=
    List.countP_mono_left fun _ _ => isCountedLine_of_isRecordLine
  exact hcounted.trans (h.bounded chunk hmem)

end Chunked

/-- The batches that a text is split into are parsed to their ends, and together they hold exactly
what one parse of the whole text finds when the bound does not stop it. -/
theorem splitChunks_parses (policy : Policy) (text : Bytes) (wider : UInt64)
    (hbound : 0 < policy.limits.maxRecordsPerBatch.toNat)
    (hwider : countRecordLines text ≤ wider.toNat) :
    let chunks := splitChunks policy.limits.maxRecordsPerBatch.toNat text
    let outcomes := chunks.map fun chunk => parseBatch chunk policy
    let plain := parseBatch text (policy.withBatchBound wider)
    chunks.flatten = text ∧ [] ∉ chunks ∧
      (∀ chunk ∈ chunks.dropLast, (lines newline chunk).countP isCountedLine =
        policy.limits.maxRecordsPerBatch.toNat) ∧
      (∀ outcome ∈ outcomes, outcome.status.ok = true) ∧ plain.status.ok = true ∧
      outcomes.flatMap ParseOutcome.records = plain.records ∧
      (outcomes.map ParseOutcome.rejected).sum = plain.rejected := by
  intro chunks outcomes plain
  have hchunked : Chunked policy.limits.maxRecordsPerBatch.toNat text chunks :=
    splitChunks_chunked hbound text
  have hplain : plain.status.ok = true := by
    apply parseBatch_ok_of_bounded
    rwa [countRecordLines_eq] at hwider
  obtain ⟨hrecords, hrejected⟩ := parseBatch_finds hplain
  refine ⟨hchunked.whole, hchunked.nonempty, hchunked.filled, ?_, hplain, ?_, ?_⟩
  · intro outcome hmem
    obtain ⟨chunk, hchunk, rfl⟩ := List.mem_map.1 hmem
    exact hchunked.parses hchunk
  · have hsame : outcomes.flatMap ParseOutcome.records = chunks.flatMap (recordsIn policy) := by
      rw [List.flatMap_map]
      exact List.flatMap_congr fun chunk hmem => (parseBatch_finds (hchunked.parses hmem)).1
    rw [hsame, hchunked.records]
    exact hrecords.symm
  · have hsame : outcomes.map ParseOutcome.rejected = chunks.map (rejectedIn policy) := by
      rw [List.map_map]
      exact List.map_congr_left fun chunk hmem => (parseBatch_finds (hchunked.parses hmem)).2
    rw [hsame, hchunked.rejected]
    exact hrejected.symm

theorem splitChunks_parses_two :
    let text := ascii "# header\nbad\n\nworse\n#\nv=1 kind=source name=s"
    let policy := ({} : Policy).withBatchBound 2
    (splitChunks 2 text).length = 2 ∧
      ∀ chunk ∈ splitChunks 2 text, (parseBatch chunk policy).status.ok = true := by
  intro text policy
  have h := splitChunks_parses policy text 3 (by decide) (by decide +kernel)
  exact ⟨by decide +kernel, fun chunk hmem => h.2.2.2.1 _ (List.mem_map_of_mem hmem)⟩

end LinkObservatory
