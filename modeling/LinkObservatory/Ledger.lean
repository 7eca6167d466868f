import LinkObservatory.Runtime
import LinkObservatory.PoolRun

namespace LinkObservatory
set_option autoImplicit true

open Labelled

def poolLabels (labels : List Action) : List (PoolAction Part (Option Nat)) :=
  labels.filterMap Action.pool

/-- The records that the calling thread of a submission applies itself. -/
def Action.own (ticket : Nat) : Action → List ParsedRecord
  | apply other records => if other = ticket then records.map Prod.fst else []
  | _ => []

def Action.arrivals (ticket : Nat) : Action → Nat
  | arrive other => if other = ticket then 1 else 0
  | _ => 0

/-- Completions that the calling thread invokes. -/
def Action.completions (ticket : Nat) : Action → Nat
  | complete other => if other = ticket then 1 else 0
  | _ => 0

/-- What a run records about one submission. -/
structure Books where
  own : List ParsedRecord := []
  arrivals : Nat := 0
  completions : Nat := 0
  accepted : List (Nat × Part) := []
  handled : List (Nat × Part) := []
  signalled : List (Nat × Part) := []
  last : Nat := 0

def books (labels : List Action) (ticket : Nat) : Books :=
  { own := labels.flatMap (Action.own ticket)
    arrivals := (labels.map (Action.arrivals ticket)).sum
    completions := (labels.map (Action.completions ticket)).sum
    accepted := (pushes (poolLabels labels)).filter fun pair => pair.2.call = ticket
    handled := (handles (poolLabels labels)).filter fun pair => pair.2.call = ticket
    signalled := (signals (poolLabels labels)).filter fun pair => pair.2.call = ticket
    last := ((entries (poolLabels labels)).map Prod.snd).count (some ticket) }

def Books.add (first second : Books) : Books :=
  { own := first.own ++ second.own
    arrivals := first.arrivals + second.arrivals
    completions := first.completions + second.completions
    accepted := first.accepted ++ second.accepted
    handled := first.handled ++ second.handled
    signalled := first.signalled ++ second.signalled
    last := first.last + second.last }

theorem Books.add_empty (first : Books) : first.add {} = first := by
  simp [Books.add]

theorem books_append (labels more : List Action) (ticket : Nat) :
    books (labels ++ more) ticket = (books labels ticket).add (books more ticket) := by
  simp [books, Books.add, poolLabels, pushes, handles, signals, entries]

theorem books_single (action : Action) (ticket : Nat) :
    books [action] ticket =
      { own := action.own ticket
        arrivals := action.arrivals ticket
        completions := action.completions ticket
        accepted := (action.pool.bind PoolAction.pushed).toList.filter
          fun pair => pair.2.call = ticket
        handled := (action.pool.bind PoolAction.handled).toList.filter
          fun pair => pair.2.call = ticket
        signalled := (action.pool.bind PoolAction.signalled).toList.filter
          fun pair => pair.2.call = ticket
        last := ((action.pool.bind PoolAction.entered).toList.map Prod.snd).count
          (some ticket) } := by
  have hsingle {α : Type} {entry : PoolAction Part (Option Nat) → Option α} :
      (poolLabels [action]).filterMap entry = (action.pool.bind entry).toList := by
    cases hpool : action.pool with
    | none => simp [poolLabels, hpool]
    | some step => cases hentry : entry step <;> simp [poolLabels, hpool, hentry]
  simp [books, pushes, handles, signals, entries, hsingle]

/-- A label that says nothing about a submission. -/
def Action.Silent (ticket : Nat) (action : Action) : Prop := books [action] ticket = {}

theorem books_silent {action : Action} (h : action.Silent ticket) (labels : List Action) :
    books (labels ++ [action]) ticket = books labels ticket := by
  rw [books_append, h, Books.add_empty]

/-- Labels that no submission's books record. -/
def Action.quiet : Action → Bool
  | apply _ _ | arrive _ | complete _ | handle _ _ _ => false
  | submit _ action | work action | manage _ action =>
    action.pushed.isNone && action.handled.isNone && action.signalled.isNone
  | _ => true

theorem Action.silent_of_quiet {action : Action} (h : action.quiet = true) (ticket : Nat) :
    action.Silent ticket := by
  cases action with
  | submit call action | work action | manage control action =>
    cases action <;> first | rfl | cases h
  | apply call records | arrive call | complete call | handle index part records => cases h
  | _ => rfl

theorem books_quiet {action : Action} (h : action.quiet = true) (labels : List Action)
    (ticket : Nat) : books (labels ++ [action]) ticket = books labels ticket :=
  books_silent (Action.silent_of_quiet h ticket) labels

theorem books_apply (call ticket : Nat) (records : List (ParsedRecord × TimePoint)) :
    books [.apply call records] ticket =
      if call = ticket then { own := records.map Prod.fst } else {} := by
  by_cases h : call = ticket <;>
    simp [books_single, Action.own, Action.arrivals, Action.completions, Action.pool, h]

theorem books_arrive (call ticket : Nat) :
    books [.arrive call] ticket = if call = ticket then { arrivals := 1 } else {} := by
  by_cases h : call = ticket <;>
    simp [books_single, Action.own, Action.arrivals, Action.completions, Action.pool, h]

theorem books_complete (call ticket : Nat) :
    books [.complete call] ticket = if call = ticket then { completions := 1 } else {} := by
  by_cases h : call = ticket <;>
    simp [books_single, Action.own, Action.arrivals, Action.completions, Action.pool, h]

theorem books_push (call index ticket : Nat) (part : Part) :
    books [.submit call (.push index part)] ticket =
      if part.call = ticket then { accepted := [(index, part)] } else {} := by
  by_cases h : part.call = ticket <;>
    simp [books_single, Action.own, Action.arrivals, Action.completions, Action.pool,
      PoolAction.pushed, PoolAction.handled, PoolAction.signalled, PoolAction.entered, h]

theorem books_handle (index ticket : Nat) (part : Part) (records : List (ParsedRecord × TimePoint)) :
    books [.handle index part records] ticket =
      if part.call = ticket then { handled := [(index, part)] } else {} := by
  by_cases h : part.call = ticket <;>
    simp [books_single, Action.own, Action.arrivals, Action.completions, Action.pool,
      PoolAction.pushed, PoolAction.handled, PoolAction.signalled, PoolAction.entered, h]

theorem books_signal (index ticket : Nat) (part : Part) (last : Bool) :
    books [.work (.signal index part (if last then some part.call else none))] ticket =
      if part.call = ticket then
        { signalled := [(index, part)], last := if last then 1 else 0 } else {} := by
  by_cases h : part.call = ticket <;> cases last <;>
    simp [books_single, Action.own, Action.arrivals, Action.completions, Action.pool,
      PoolAction.pushed, PoolAction.handled, PoolAction.signalled, PoolAction.entered, h]

/-- The records the calling thread applies itself: all of them without workers. -/
def ownRecords (workers : Nat) (batch : List ParsedRecord) : List ParsedRecord :=
  if workers = 0 then batch else declarationsOf workers batch

/-- The calling thread's share in the countdown. -/
def ownShare (workers : Nat) (batch : List ParsedRecord) : Nat :=
  if workers = 0 ∨ declarationsOf workers batch = [] then 0 else 1

/-- The call has done its own part, and these are the routed parts it has not submitted. -/
structure Call.Submits (call : Call) (workers ticket : Nat) (books : Books)
    (parts : List (Nat × Part)) : Prop where
  own : books.own = ownRecords workers call.batch
  arrivals : books.arrivals = ownShare workers call.batch
  parts : partsOf workers ticket call.batch = books.accepted ++ parts
  counted : call.remaining + ownShare workers call.batch + books.signalled.length =
    (partsOf workers ticket call.batch).length + ownShare workers call.batch

/-- Where a call is, against what the run records about it. -/
def Call.Follows (call : Call) (workers ticket : Nat) (books : Books) : Prop :=
  match call.phase with
  | .entered => call.remaining = 0 ∧ books = {}
  | .inlined => workers = 0 ∧ call.remaining = 0 ∧ books = {}
  | .declaring declarations parts =>
    (workers ≠ 0 ∧ declarations ≠ [] ∧ declarations = declarationsOf workers call.batch) ∧
      parts = partsOf workers ticket call.batch ∧ call.remaining = parts.length + 1 ∧ books = {}
  | .arriving parts =>
    (workers ≠ 0 ∧ declarationsOf workers call.batch ≠ []) ∧
      parts = partsOf workers ticket call.batch ∧ call.remaining = parts.length + 1 ∧
      books = { own := declarationsOf workers call.batch }
  | .completing parts => call.Submits workers ticket books parts ∧ call.remaining = 0
  | .routing parts => call.Submits workers ticket books parts
  | .pushing index part parts => call.Submits workers ticket books ((index, part) :: parts)
  | .returned status =>
    if status.ok then call.Submits workers ticket books []
    else (call.remaining = 0 ∧ books = {}) ∨
      ∃ parts, parts ≠ [] ∧ call.Submits workers ticket books parts

theorem mem_partsOf {batch : List ParsedRecord} :
    (route, part) ∈ partsOf workers ticket batch ↔
      route < workers ∧ recordsFor workers batch route ≠ [] ∧
        part = ⟨ticket, recordsFor workers batch route⟩ := by
  unfold partsOf
  rw [List.mem_filterMap]
  constructor
  · rintro ⟨other, hmem, hpart⟩
    dsimp only at hpart
    split at hpart
    · cases hpart
    · rename_i hne
      simp only [Option.some.injEq, Prod.mk.injEq] at hpart
      obtain ⟨rfl, rfl⟩ := hpart
      exact ⟨List.mem_range.1 hmem, hne, rfl⟩
  · rintro ⟨hlt, hne, rfl⟩
    exact ⟨route, List.mem_range.2 hlt, by simp [hne]⟩

theorem partsOf_zero (ticket : Nat) (batch : List ParsedRecord) : partsOf 0 ticket batch = [] := rfl

namespace Runtime

theorem run_pool {start runtime : Runtime} (h : Run Step start labels runtime) :
    Run WorkerPool.Step start.pool (poolLabels labels) runtime.pool :=
  h.project Runtime.pool Action.pool fun _ _ _ hstep => hstep.pool

/-- What holds of the submissions in every run. -/
structure Kept (config : LifecycleConfig) (labels : List Action) (runtime : Runtime) : Prop where
  options : runtime.lifecycle = config
  workers : runtime.pool.workers.length = if config.workers = 0 then 1 else config.workers
  calls : ∀ (ticket : Nat) (call : Call), runtime.calls[ticket]? = some call →
    call.Follows config.workers ticket (books labels ticket)
  unused : ∀ ticket, runtime.calls.length ≤ ticket → books labels ticket = {}

theorem Step.workers {runtime runtime' : Runtime} {action : Action}
    (h : Step runtime action runtime') :
    runtime'.pool.workers.length = runtime.pool.workers.length := by
  rcases h.pool with ⟨-, hpool⟩ | ⟨step, -, hpool⟩
  · rw [hpool]
  · exact hpool.length

theorem startLoad_frame (runtime : Runtime) :
    runtime.startLoad.1.lifecycle = runtime.lifecycle ∧
      runtime.startLoad.1.calls = runtime.calls := by
  unfold startLoad
  split <;> exact ⟨rfl, rfl⟩

theorem Step.lifecycle {runtime runtime' : Runtime} {action : Action}
    (h : Step runtime action runtime') : runtime'.lifecycle = runtime.lifecycle := by
  cases h with
  | startLoad => exact runtime.startLoad_frame.1
  | _ => rfl

/-- A step that moves one submission along. -/
theorem Kept.set {runtime runtime' : Runtime} {action : Action}
    (h : runtime.Kept config labels) (hstep : Step runtime action runtime')
    (hcall : runtime.calls[ticket]? = some call) {new : Call}
    (hcalls : runtime'.calls = runtime.calls.set ticket new)
    (hsilent : ∀ other, other ≠ ticket → action.Silent other)
    (hnew : new.Follows config.workers ticket (books (labels ++ [action]) ticket)) :
    runtime'.Kept config (labels ++ [action]) where
  options := hstep.lifecycle.trans h.options
  workers := hstep.workers.trans h.workers
  calls other found hfound := by
    rw [hcalls, List.getElem?_set] at hfound
    split at hfound
    · rename_i heq
      subst heq
      split at hfound
      · obtain rfl := Option.some.inj hfound
        exact hnew
      · cases hfound
    · rename_i hne
      rw [books_silent (hsilent other (Ne.symm hne))]
      exact h.calls other found hfound
  unused other hle := by
    rw [hcalls, List.length_set] at hle
    have hlt := (List.getElem?_eq_some_iff.1 hcall).1
    rw [books_silent (hsilent other (by omega))]
    exact h.unused other hle

theorem Kept.silent {runtime runtime' : Runtime} {action : Action}
    (h : runtime.Kept config labels) (hstep : Step runtime action runtime')
    (hcalls : runtime'.calls = runtime.calls) (hsilent : ∀ ticket, action.Silent ticket) :
    runtime'.Kept config (labels ++ [action]) where
  options := hstep.lifecycle.trans h.options
  workers := hstep.workers.trans h.workers
  calls ticket call hcall := by
    rw [books_silent (hsilent ticket)]
    exact h.calls ticket call (hcalls ▸ hcall)
  unused ticket hle := by
    rw [books_silent (hsilent ticket)]
    exact h.unused ticket (hcalls ▸ hle)

theorem books_le {options : LifecycleConfig} {config : RuntimeConfig} {files : FileSystem}
    {runtime : Runtime} (h : Run Step (make options config files) labels runtime) (ticket : Nat) :
    (books labels ticket).signalled.length ≤ (books labels ticket).handled.length ∧
      (books labels ticket).handled.length ≤ (books labels ticket).accepted.length := by
  obtain ⟨unhandled, hpushes⟩ := WorkerPool.run_pushes (run_pool h)
  obtain ⟨unsignalled, hhandles⟩ := WorkerPool.run_handles (run_pool h)
  have haccepted := (hpushes.filter fun pair => pair.2.call = ticket).length_eq
  have hhandled := (hhandles.filter fun pair => pair.2.call = ticket).length_eq
  simp only [List.filter_append, List.length_append] at haccepted hhandled
  simp only [books]
  omega

end Runtime

theorem Call.enter_cases (call : Call) (workers ticket : Nat) :
    (workers = 0 ∧ call.enter workers ticket = { call with phase := .inlined }) ∨
      (workers ≠ 0 ∧ declarationsOf workers call.batch = [] ∧
        partsOf workers ticket call.batch = [] ∧
        call.enter workers ticket = { call with remaining := 0, phase := .completing [] }) ∨
      (workers ≠ 0 ∧ declarationsOf workers call.batch = [] ∧
        partsOf workers ticket call.batch ≠ [] ∧
        call.enter workers ticket =
          { call with
            remaining := (partsOf workers ticket call.batch).length
            phase := .routing (partsOf workers ticket call.batch) }) ∨
      (workers ≠ 0 ∧ declarationsOf workers call.batch ≠ [] ∧
        call.enter workers ticket =
          { call with
            remaining := (partsOf workers ticket call.batch).length + 1
            phase := .declaring (declarationsOf workers call.batch)
              (partsOf workers ticket call.batch) }) := by
  by_cases hzero : workers = 0
  · exact .inl ⟨hzero, by simp [Call.enter, hzero]⟩
  by_cases hdeclarations : declarationsOf workers call.batch = []
  · by_cases hparts : partsOf workers ticket call.batch = []
    · exact .inr (.inl ⟨hzero, hdeclarations, hparts,
        by simp [Call.enter, hzero, hdeclarations, hparts]⟩)
    · exact .inr (.inr (.inl ⟨hzero, hdeclarations, hparts,
        by simp [Call.enter, hzero, hdeclarations, hparts]⟩))
  · exact .inr (.inr (.inr ⟨hzero, hdeclarations, by simp [Call.enter, hzero, hdeclarations]⟩))

theorem Call.enter_follows {call : Call} (hremaining : call.remaining = 0) (workers ticket : Nat) :
    (call.enter workers ticket).Follows workers ticket {} := by
  rcases call.enter_cases workers ticket with ⟨hzero, henter⟩ |
    ⟨hzero, hdeclarations, hparts, henter⟩ | ⟨hzero, hdeclarations, hparts, henter⟩ |
    ⟨hzero, hdeclarations, henter⟩
  · rw [henter]
    exact ⟨hzero, hremaining, rfl⟩
  · rw [henter]
    refine ⟨⟨?_, ?_, ?_, ?_⟩, rfl⟩
    · simp [ownRecords, hzero, hdeclarations]
    · simp [ownShare, hdeclarations]
    · simp [hparts]
    · simp [hparts]
  · rw [henter]
    refine ⟨?_, ?_, ?_, ?_⟩
    · simp [ownRecords, hzero, hdeclarations]
    · simp [ownShare, hdeclarations]
    · simp
    · simp
  · rw [henter]
    exact ⟨⟨hzero, hdeclarations, rfl⟩, rfl, rfl, rfl⟩

/-- Nothing is recorded but what the caller applied. -/
def Books.Blank (entries : Books) : Prop := ∃ own, entries = { own := own }

theorem Books.not_blank {entries : Books} (h : entries.accepted ≠ []) : ¬entries.Blank :=
  fun ⟨_, hblank⟩ => h (by rw [hblank])

theorem Call.Follows.past {call : Call} {entries : Books} (h : call.Follows workers ticket entries)
    (hne : ¬entries.Blank) :
    (∃ parts, call.phase = .completing parts ∧ call.remaining = 0 ∧
        call.Submits workers ticket entries parts) ∨
      (∃ parts, call.phase = .routing parts ∧ call.Submits workers ticket entries parts) ∨
      (∃ index part parts, call.phase = .pushing index part parts ∧
        call.Submits workers ticket entries ((index, part) :: parts)) ∨
      (∃ status parts, call.phase = .returned status ∧ (status.ok = true ↔ parts = []) ∧
        call.Submits workers ticket entries parts) := by
  unfold Follows at h
  cases hphase : call.phase with
  | entered =>
    simp only [hphase] at h
    exact absurd ⟨[], h.2⟩ hne
  | inlined =>
    simp only [hphase] at h
    exact absurd ⟨[], h.2.2⟩ hne
  | declaring declarations parts =>
    simp only [hphase] at h
    exact absurd ⟨[], h.2.2.2⟩ hne
  | arriving parts =>
    simp only [hphase] at h
    exact absurd ⟨_, h.2.2.2⟩ hne
  | completing parts =>
    simp only [hphase] at h
    exact .inl ⟨parts, rfl, h.2, h.1⟩
  | routing parts =>
    simp only [hphase] at h
    exact .inr (.inl ⟨parts, rfl, h⟩)
  | pushing index part parts =>
    simp only [hphase] at h
    exact .inr (.inr (.inl ⟨index, part, parts, rfl, h⟩))
  | returned status =>
    simp only [hphase] at h
    refine .inr (.inr (.inr ?_))
    cases hok : status.ok with
    | true =>
      rw [hok, if_pos rfl] at h
      exact ⟨status, [], rfl, by simp [hok], h⟩
    | false =>
      rw [hok, if_neg (by simp)] at h
      rcases h with ⟨-, hbooks⟩ | ⟨parts, hparts, hsubmits⟩
      · exact absurd ⟨[], hbooks⟩ hne
      · exact ⟨status, parts, rfl, by simp [hok, hparts], hsubmits⟩

theorem Call.Follows.submits {call : Call} {entries : Books}
    (h : call.Follows workers ticket entries) (hne : ¬entries.Blank) :
    ∃ left, call.Submits workers ticket entries left := by
  rcases h.past hne with ⟨parts, -, -, h⟩ | ⟨parts, -, h⟩ | ⟨index, part, parts, -, h⟩ |
    ⟨status, parts, -, -, h⟩ <;> exact ⟨_, h⟩

theorem Call.Follows.update {call new : Call} {first second : Books}
    (h : call.Follows workers ticket first) (hne : ¬first.Blank)
    (hphase : new.phase = call.phase)
    (hnew : ∀ parts, call.Submits workers ticket first parts →
      new.Submits workers ticket second parts)
    (hzero : call.remaining = 0 → new.remaining = 0) : new.Follows workers ticket second := by
  unfold Follows
  rw [hphase]
  rcases h.past hne with ⟨parts, hcurrent, hremaining, hsubmits⟩ | ⟨parts, hcurrent, hsubmits⟩ |
    ⟨index, part, parts, hcurrent, hsubmits⟩ | ⟨status, parts, hcurrent, hok, hsubmits⟩
  · simp only [hcurrent]
    exact ⟨hnew _ hsubmits, hzero hremaining⟩
  · simp only [hcurrent]
    exact hnew _ hsubmits
  · simp only [hcurrent]
    exact hnew _ hsubmits
  · simp only [hcurrent]
    split
    · rename_i hstatus
      rw [← hok.1 hstatus]
      exact hnew _ hsubmits
    · rename_i hstatus
      exact .inr ⟨parts, fun hnil => hstatus (hok.2 hnil), hnew _ hsubmits⟩

theorem Call.Submits.advance {call : Call} {entries : Books}
    (h : call.Submits workers ticket entries left) (phase : CallPhase) :
    Call.Submits { call with phase := phase } workers ticket entries left :=
  ⟨h.own, h.arrivals, h.parts, h.counted⟩

theorem Call.Submits.remaining_pos {call : Call} {entries : Books}
    (h : call.Submits workers ticket entries left)
    (hlt : entries.signalled.length < entries.accepted.length) : 0 < call.remaining := by
  have hcounted := h.counted
  rw [h.parts, List.length_append] at hcounted
  omega

section

variable {call : Call} {entries : Books} (h : call.Follows workers ticket entries)

include h

theorem Call.Follows.applyInline (hphase : call.phase = .inlined) :
    Call.Follows { call with phase := .completing [] } workers ticket
      (entries.add { own := call.batch }) := by
  simp only [Follows, hphase] at h
  obtain ⟨hzero, hremaining, rfl⟩ := h
  refine ⟨⟨?_, ?_, ?_, ?_⟩, hremaining⟩
  · simp [Books.add, ownRecords, hzero]
  · simp [Books.add, ownShare, hzero]
  · simp [Books.add, hzero, partsOf_zero]
  · simp [Books.add, hzero, partsOf_zero, hremaining]

theorem Call.Follows.applyDeclarations (hphase : call.phase = .declaring declarations parts) :
    Call.Follows { call with phase := .arriving parts } workers ticket
      (entries.add { own := declarations }) := by
  simp only [Follows, hphase] at h
  obtain ⟨⟨hzero, hne, hdeclarations⟩, hparts, hremaining, rfl⟩ := h
  subst hdeclarations
  exact ⟨⟨hzero, hne⟩, hparts, hremaining, rfl⟩

theorem Call.Follows.arrive (hphase : call.phase = .arriving parts) :
    Call.Follows { call.arrive.1 with
      phase := if call.arrive.2 then .completing parts else .routing parts } workers ticket
      (entries.add { arrivals := 1 }) := by
  simp only [Follows, hphase] at h
  obtain ⟨⟨hzero, hne⟩, hparts, hremaining, rfl⟩ := h
  have hsubmits (phase : CallPhase) : Call.Submits { call.arrive.1 with phase := phase } workers
      ticket (Books.add { own := declarationsOf workers call.batch } { arrivals := 1 }) parts := by
    constructor
    · simp [Books.add, ownRecords, hzero, Call.arrive]
    · simp [Books.add, ownShare, hzero, hne, Call.arrive]
    · simp [Books.add, Call.arrive, hparts]
    · simp [Books.add, ownShare, hzero, hne, Call.arrive, ← hparts, hremaining]
  cases hlast : call.arrive.2 with
  | true =>
    have hone : call.remaining = 1 := of_decide_eq_true hlast
    exact ⟨hsubmits _, by simp [Call.arrive, hone]⟩
  | false => exact hsubmits _

theorem Call.Follows.complete (hphase : call.phase = .completing parts) :
    Call.Follows { call with phase := .routing parts } workers ticket
      (entries.add { completions := 1 }) := by
  simp only [Follows, hphase] at h
  obtain ⟨⟨hown, harrivals, hparts, hcounted⟩, -⟩ := h
  constructor
  · simpa [Books.add] using hown
  · simpa [Books.add] using harrivals
  · simpa [Books.add] using hparts
  · simpa [Books.add] using hcounted

theorem Call.Follows.push (hphase : call.phase = .pushing index part parts) :
    Call.Follows { call with phase := .routing parts } workers ticket
      (entries.add { accepted := [(index, part)] }) := by
  simp only [Follows, hphase] at h
  constructor
  · simpa [Books.add] using h.own
  · simpa [Books.add] using h.arrivals
  · simpa [Books.add] using h.parts
  · simpa [Books.add] using h.counted

theorem Call.Follows.fail (hne : parts ≠ [])
    (hphase : call.phase = .routing parts ∨
      ∃ index part rest, parts = (index, part) :: rest ∧ call.phase = .pushing index part rest)
    (hstatus : status.ok = false) :
    Call.Follows { call with phase := .returned status } workers ticket entries := by
  have hsubmits : call.Submits workers ticket entries parts := by
    rcases hphase with hphase | ⟨index, part, rest, rfl, hphase⟩
    · simpa only [Follows, hphase] using h
    · simpa only [Follows, hphase] using h
  simp only [Follows, hstatus, Bool.false_eq_true, ↓reduceIte]
  exact .inr ⟨parts, hne, hsubmits.advance _⟩

theorem Call.Follows.signal (hlt : entries.signalled.length < entries.accepted.length)
    (last : Nat) : call.arrive.1.Follows workers ticket
      (entries.add { signalled := [(index, part)], last := last }) := by
  refine h.update (Books.not_blank fun hnil => ?_) rfl (fun parts hsubmits => ?_) (fun hzero => ?_)
  · rw [hnil, List.length_nil] at hlt
    omega
  · have hpos := hsubmits.remaining_pos hlt
    constructor
    · simpa [Books.add, Call.arrive] using hsubmits.own
    · simpa [Books.add, Call.arrive] using hsubmits.arrivals
    · simpa [Books.add, Call.arrive] using hsubmits.parts
    · have hcounted := hsubmits.counted
      simp only [Books.add, Call.arrive, List.length_append, List.length_singleton]
      omega
  · simp [Call.arrive, hzero]

theorem Call.Follows.handle (hne : entries.accepted ≠ []) :
    call.Follows workers ticket (entries.add { handled := [(index, part)] }) := by
  refine h.update (Books.not_blank hne) rfl (fun parts hsubmits => ?_) id
  constructor
  · simpa [Books.add] using hsubmits.own
  · simpa [Books.add] using hsubmits.arrivals
  · simpa [Books.add] using hsubmits.parts
  · simpa [Books.add] using hsubmits.counted

end

namespace Runtime

theorem Kept.call {options : LifecycleConfig} {runtime : Runtime} (h : runtime.Kept options labels)
    (batch : List ParsedRecord) :
    Kept options (labels ++ [.call batch])
      { runtime with calls := runtime.calls ++ [{ batch := batch }] } := by
  refine ⟨h.options, h.workers, fun ticket call hcall => ?_, fun ticket hle => ?_⟩
  · rw [books_quiet rfl]
    rw [List.getElem?_append] at hcall
    split at hcall
    · exact h.calls ticket call hcall
    · rename_i hge
      have hnew := List.mem_singleton.1 (List.mem_of_getElem? hcall)
      subst hnew
      exact ⟨rfl, h.unused ticket (Nat.le_of_not_lt hge)⟩
  · rw [books_quiet rfl]
    rw [List.length_append] at hle
    exact h.unused ticket (by omega)

theorem Kept.handle {options : LifecycleConfig} {runtime runtime' : Runtime}
    (h : runtime.Kept options labels)
    (hstep : Step runtime (.handle index part records) runtime')
    (hcalls : runtime'.calls = runtime.calls) (hne : (books labels part.call).accepted ≠ []) :
    runtime'.Kept options (labels ++ [.handle index part records]) := by
  have hother (ticket : Nat) (hticket : part.call ≠ ticket) :
      Action.Silent ticket (.handle index part records) := by
    rw [Action.Silent, books_handle, if_neg hticket]
  refine ⟨hstep.lifecycle.trans h.options, hstep.workers.trans h.workers,
    fun ticket call hcall => ?_, fun ticket hge => ?_⟩
  · rw [hcalls] at hcall
    by_cases hticket : part.call = ticket
    · subst hticket
      rw [books_append, books_handle, if_pos rfl]
      exact (h.calls _ call hcall).handle hne
    · rw [books_silent (hother ticket hticket)]
      exact h.calls ticket call hcall
  · rw [hcalls] at hge
    by_cases hticket : part.call = ticket
    · subst hticket
      exact absurd (by rw [h.unused _ hge]) hne
    · rw [books_silent (hother ticket hticket)]
      exact h.unused ticket hge

theorem Kept.step {options : LifecycleConfig} {config : RuntimeConfig} {files : FileSystem}
    {runtime runtime' : Runtime} (hrun : Run Step (make options config files) labels runtime)
    (h : runtime.Kept options labels) (hstep : Step runtime action runtime') :
    runtime'.Kept options (labels ++ [action]) := by
  have hfollows {ticket : Nat} {call : Call} (hcall : runtime.calls[ticket]? = some call) :=
    h.calls ticket call hcall
  have hstep' := hstep
  cases hstep with
  | call => exact h.call _
  | checkRefused hcall hphase hstarted =>
    rename_i ticket call
    refine h.set hstep' hcall rfl (fun other _ => Action.silent_of_quiet rfl other) ?_
    have hcurrent := hfollows hcall
    simp only [Call.Follows, hphase] at hcurrent
    rw [books_quiet rfl]
    exact .inl hcurrent
  | check hcall hphase hstarted =>
    rename_i ticket call
    refine h.set hstep' hcall rfl (fun other _ => Action.silent_of_quiet rfl other) ?_
    have hcurrent := hfollows hcall
    simp only [Call.Follows, hphase] at hcurrent
    rw [books_quiet rfl, hcurrent.2, h.options]
    exact Call.enter_follows hcurrent.1 _ _
  | applyInline hcall hphase hrecords =>
    refine h.set hstep' hcall rfl (fun other hne => ?_) ?_
    · rw [Action.Silent, books_apply, if_neg (Ne.symm hne)]
    rw [books_append, books_apply, if_pos rfl, hrecords]
    exact (hfollows hcall).applyInline hphase
  | applyDeclarations hcall hphase hrecords =>
    refine h.set hstep' hcall rfl (fun other hne => ?_) ?_
    · rw [Action.Silent, books_apply, if_neg (Ne.symm hne)]
    rw [books_append, books_apply, if_pos rfl, hrecords]
    exact (hfollows hcall).applyDeclarations hphase
  | arrive hcall hphase =>
    refine h.set hstep' hcall rfl (fun other hne => ?_) ?_
    · rw [Action.Silent, books_arrive, if_neg (Ne.symm hne)]
    rw [books_append, books_arrive, if_pos rfl]
    exact (hfollows hcall).arrive hphase
  | complete hcall hphase =>
    refine h.set hstep' hcall rfl (fun other hne => ?_) ?_
    · rw [Action.Silent, books_complete, if_neg (Ne.symm hne)]
    rw [books_append, books_complete, if_pos rfl]
    exact (hfollows hcall).complete hphase
  | enlist hcall hphase hpool =>
    rename_i ticket call route part pool' parts
    refine h.set hstep' hcall rfl (fun other _ => Action.silent_of_quiet rfl other) ?_
    have hcurrent := hfollows hcall
    simp only [Call.Follows, hphase] at hcurrent
    have hmem : (route, part) ∈ partsOf options.workers ticket call.batch := by
      simp [hcurrent.parts]
    have hroute := (mem_partsOf.1 hmem).1
    have hlength := h.workers
    rw [if_neg (by omega)] at hlength
    rw [books_quiet rfl, hlength, Nat.mod_eq_of_lt hroute]
    exact hcurrent.advance _
  | deny hcall hphase hfree hidle =>
    refine h.set hstep' hcall rfl (fun other _ => Action.silent_of_quiet rfl other) ?_
    rw [books_quiet rfl]
    exact (hfollows hcall).fail (List.cons_ne_nil _ _) (.inl hphase) rfl
  | push hcall hphase hpool =>
    rename_i ticket call index part parts pool'
    have hcurrent := hfollows hcall
    simp only [Call.Follows, hphase] at hcurrent
    have hmem : (index, part) ∈ partsOf options.workers ticket call.batch := by
      simp [hcurrent.parts]
    have hticket : part.call = ticket := by rw [(mem_partsOf.1 hmem).2.2]
    refine h.set hstep' hcall rfl (fun other hne => ?_) ?_
    · rw [Action.Silent, books_push, if_neg (by omega)]
    rw [books_append, books_push, if_pos hticket]
    exact (hfollows hcall).push hphase
  | refuse hcall hphase hpool =>
    refine h.set hstep' hcall rfl (fun other _ => Action.silent_of_quiet rfl other) ?_
    rw [books_quiet rfl]
    exact (hfollows hcall).fail (List.cons_ne_nil _ _) (.inr ⟨_, _, _, rfl, hphase⟩) rfl
  | leave hcall hphase =>
    refine h.set hstep' hcall rfl (fun other _ => Action.silent_of_quiet rfl other) ?_
    have hcurrent := hfollows hcall
    simp only [Call.Follows, hphase] at hcurrent
    rw [books_quiet rfl]
    exact hcurrent.advance _
  | signal hcall hrest hpool =>
    rename_i call rest index part pool'
    subst hrest
    have hle := books_le (hrun.snoc hstep') part.call
    rw [books_append, books_signal, if_pos rfl] at hle
    simp only [Books.add, List.length_append, List.length_singleton, List.append_nil] at hle
    refine h.set hstep' hcall rfl (fun other hne => ?_) ?_
    · rw [Action.Silent, books_signal, if_neg (Ne.symm hne)]
    rw [books_append, books_signal, if_pos rfl]
    exact (hfollows hcall).signal (by omega) _
  | handle hpool hrecords =>
    rename_i index part pool' records
    have hle := books_le (hrun.snoc hstep') part.call
    rw [books_append, books_handle, if_pos rfl] at hle
    simp only [Books.add, List.length_append, List.length_singleton, List.append_nil] at hle
    have hne : (books labels part.call).accepted ≠ [] := fun hnil => by simp [hnil] at hle
    exact h.handle hstep' rfl hne
  | pop hpool | exit hpool | finish hpool | enter hcontrol
  | startCheck hcontrol | startInline hcontrol hworkers
  | startRefused hcontrol hworkers hfree hrunning | spawn hcontrol hworkers hpool
  | startMark hcontrol | stopIdle hcontrol hidle | stopDrain hcontrol hworkers hpool
  | cancelIdle hcontrol hidle | cancelDrain hcontrol hworkers hpool
  | close hcontrol hdraining hpool | discard hcontrol hdraining hpool
  | join hcontrol hdraining hpool | stopHalt hcontrol hpool | cancelHalt hcontrol hpool
  | persist hcontrol hpersists hwrite | skipPersist hcontrol hpersists | stopClear hcontrol =>
    exact h.silent hstep' rfl (Action.silent_of_quiet rfl)
  | startLoad hcontrol =>
    exact h.silent hstep' runtime.startLoad_frame.2 (Action.silent_of_quiet rfl)

theorem run_kept {options : LifecycleConfig} {config : RuntimeConfig} {files : FileSystem}
    {runtime : Runtime} (h : Run Step (make options config files) labels runtime) :
    runtime.Kept options labels := by
  refine Run.invariant (fun labels runtime => runtime.Kept options labels) h ?_
    fun hrun hkept hstep => hkept.step hrun hstep
  refine ⟨rfl, ?_, fun ticket call hcall => by simp [make] at hcall, fun _ _ => rfl⟩
  simp only [make, WorkerPool.make, List.length_replicate]

end Runtime

end LinkObservatory
