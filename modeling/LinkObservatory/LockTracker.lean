import LinkObservatory.Lib.Nesting

namespace LinkObservatory
set_option autoImplicit true

open Nesting

/-- The classes of locks in the order in which a thread may acquire them. -/
inductive LockClass
  | none | runtimeLifecycle | observatoryState | ingestQueue | transport | diagnostics
deriving DecidableEq, Repr

def LockClass.rank : LockClass → Nat
  | .none => 0
  | .runtimeLifecycle => 1
  | .observatoryState => 2
  | .ingestQueue => 3
  | .transport => 4
  | .diagnostics => 5

def LockClass.toString : LockClass → String
  | .none => "none"
  | .runtimeLifecycle => "runtime-lifecycle"
  | .observatoryState => "observatory-state"
  | .diagnostics => "diagnostics"
  | .ingestQueue => "ingest-queue"
  | .transport => "transport"

theorem LockClass.rank_injective : Function.Injective LockClass.rank := by
  intro a b h
  cases a <;> cases b <;> first | rfl | cases h

/-- What the auditor keeps for one thread: its name and the classes it holds, the last acquired
first. -/
structure ThreadLocks where
  name : String := "unnamed"
  held : List LockClass := []

def noteAcquire (thread : ThreadLocks) (lockClass : LockClass) : ThreadLocks × Option String :=
  if lockClass = .none then (thread, none)
  else
    let report := match thread.held.head? with
      | none => none
      | some top =>
        if top = lockClass then
          some ("reentrant acquisition of lock class '" ++ lockClass.toString ++ "' on thread '" ++
            thread.name ++ "'")
        else if lockClass.rank < top.rank then
          some ("out-of-order acquisition: lock class '" ++ lockClass.toString ++
            "' acquired while holding '" ++ top.toString ++ "' on thread '" ++ thread.name ++ "'")
        else none
    ({ thread with held := lockClass :: thread.held }, report)

def noteRelease (thread : ThreadLocks) (lockClass : LockClass) : ThreadLocks × Option String :=
  if lockClass = .none then (thread, none)
  else match thread.held with
    | [] =>
      (thread, some ("release of lock class '" ++ lockClass.toString ++
        "' with no acquisition on thread '" ++ thread.name ++ "'"))
    | top :: held =>
      ({ thread with held := held },
        if top ≠ lockClass then
          some ("unbalanced release of lock class '" ++ lockClass.toString ++
            "' while holding '" ++ top.toString ++ "' on thread '" ++ thread.name ++ "'")
        else none)

/-- What a thread does with a tracked lock or a scope. Whether a lock that is tried is free is for
the mutex to say. -/
inductive LockCall
  | lock (lockClass : LockClass)
  | tryLock (lockClass : LockClass) (free : Bool)
  | unlock (lockClass : LockClass)
  | enterScope (lockClass : LockClass)
  | leaveScope (lockClass : LockClass)

def LockCall.note (thread : ThreadLocks) : LockCall → ThreadLocks × Option String
  | .lock lockClass => noteAcquire thread lockClass
  | .tryLock lockClass free =>
    if !free then (thread, none) else noteAcquire thread lockClass
  | .unlock lockClass => noteRelease thread lockClass
  | .enterScope lockClass => noteAcquire thread lockClass
  | .leaveScope lockClass => noteRelease thread lockClass

/-- The auditor: the violations counted and reported for all threads, and what it keeps for each. -/
structure LockAudit (ThreadId : Type) where
  violations : UInt64 := 0
  reports : List String := []
  threads : ThreadId → ThreadLocks := fun _ => {}

def kMaxReports : Nat := 64

namespace LockAudit

variable [DecidableEq ThreadId]

def record (audit : LockAudit ThreadId) (report : String) : LockAudit ThreadId :=
  { audit with
    violations := audit.violations + 1
    reports :=
      (if audit.reports.length ≥ kMaxReports then audit.reports.tail else audit.reports) ++
        [report] }

/-- A call of one thread, with the report it leads to. -/
def step (audit : LockAudit ThreadId) (thread : ThreadId) (call : LockCall) :
    LockAudit ThreadId :=
  let noted := call.note (audit.threads thread)
  let audit := { audit with threads := Function.update audit.threads thread noted.1 }
  noted.2.elim audit audit.record

/-- The calls of all threads in the order in which they are made. -/
def run (audit : LockAudit ThreadId) (calls : List (ThreadId × LockCall)) : LockAudit ThreadId :=
  calls.foldl (fun audit call => audit.step call.1 call.2) audit

/-- The reports that calls lead to, with the thread that made the call. -/
def reported : LockAudit ThreadId → List (ThreadId × LockCall) → List (ThreadId × String)
  | _, [] => []
  | audit, (thread, call) :: calls =>
    ((call.note (audit.threads thread)).2.map fun report => (thread, report)).toList ++
      reported (audit.step thread call) calls

/-- How many of the violations that calls lead to are those of one thread. -/
def violationsOf (audit : LockAudit ThreadId) (thread : ThreadId)
    (calls : List (ThreadId × LockCall)) : Nat :=
  (audit.reported calls).countP fun report => report.1 == thread

end LockAudit

/-- What a call acquires or releases. -/
def LockCall.event : LockCall → Option (Event LockClass)
  | .lock lockClass => some (.push lockClass)
  | .tryLock lockClass free => if !free then none else some (.push lockClass)
  | .unlock lockClass => some (.pop lockClass)
  | .enterScope lockClass => some (.push lockClass)
  | .leaveScope lockClass => some (.pop lockClass)

/-- What one thread acquires and releases. -/
def lockEvents [DecidableEq ThreadId] (thread : ThreadId) (calls : List (ThreadId × LockCall)) :
    List (Event LockClass) :=
  (calls.filter fun call => call.1 == thread).filterMap fun call => call.2.event

/-- Nothing of the class that is not tracked. -/
def Tracked (events : List (Event LockClass)) : Prop :=
  .push .none ∉ events ∧ .pop .none ∉ events

/-- What the auditor does on an acquisition or a release. -/
def noteEvent (thread : ThreadLocks) : Event LockClass → ThreadLocks × Option String
  | .push lockClass => noteAcquire thread lockClass
  | .pop lockClass => noteRelease thread lockClass

theorem LockCall.note_eq (thread : ThreadLocks) (call : LockCall) :
    call.note thread = call.event.elim (thread, none) (noteEvent thread) := by
  cases call with
  | tryLock lockClass free =>
    cases free with
    | false => rfl
    | true => rfl
  | lock lockClass => rfl
  | unlock lockClass => rfl
  | enterScope lockClass => rfl
  | leaveScope lockClass => rfl

/-- The reports about a thread that makes nested calls. -/
def eventReports : ThreadLocks → List (Event LockClass) → List String
  | _, [] => []
  | thread, event :: events =>
    (noteEvent thread event).2.toList ++ eventReports (noteEvent thread event).1 events

theorem noteAcquire_silent (thread : ThreadLocks) (h : lockClass ≠ .none) :
    (noteAcquire thread lockClass).2 = none ↔
      ∀ top ∈ thread.held.head?, top.rank < lockClass.rank := by
  rw [noteAcquire, if_neg h]
  cases thread.held with
  | nil => simp
  | cons top held =>
    simp only [List.head?_cons, Option.mem_def, Option.some.injEq, forall_eq']
    have hsame : top = lockClass ↔ top.rank = lockClass.rank :=
      ⟨congrArg _, fun heq => LockClass.rank_injective heq⟩
    split
    · rename_i heq
      simp [heq]
    split
    · rename_i hlt
      simp only [reduceCtorEq, false_iff]
      omega
    · rename_i hne hge
      rw [hsame] at hne
      simp only [true_iff]
      omega

theorem eventReports_nil_iff (thread : ThreadLocks) (hnested : Nested thread.held events)
    (htracked : Tracked events) :
    eventReports thread events = [] ↔ TopRising LockClass.rank thread.held events := by
  generalize hheld : thread.held = held at hnested
  induction hnested generalizing thread with
  | done => exact ⟨fun _ => trivial, fun _ => rfl⟩
  | push _ ih =>
    rename_i lockClass held events _
    have hclass : lockClass ≠ .none := by
      rintro rfl
      exact htracked.1 (List.mem_cons_self ..)
    have hrest : Tracked events :=
      ⟨fun h => htracked.1 (List.mem_cons_of_mem _ h),
        fun h => htracked.2 (List.mem_cons_of_mem _ h)⟩
    have hpushed : (noteAcquire thread lockClass).1.held = lockClass :: held := by
      rw [noteAcquire, if_neg hclass, ← hheld]
    rw [eventReports, List.append_eq_nil_iff, TopRising, ← hheld,
      ← noteAcquire_silent thread hclass, hheld]
    apply and_congr
    · rw [Option.toList_eq_nil_iff]
      rfl
    · exact ih _ hrest hpushed
  | pop _ ih =>
    rename_i held events lockClass _
    have hclass : lockClass ≠ .none := by
      rintro rfl
      exact htracked.2 (List.mem_cons_self ..)
    have hrest : Tracked events :=
      ⟨fun h => htracked.1 (List.mem_cons_of_mem _ h),
        fun h => htracked.2 (List.mem_cons_of_mem _ h)⟩
    have hpopped : noteRelease thread lockClass = ({ thread with held := held }, none) := by
      rw [noteRelease, if_neg hclass, hheld]
      simp
    have hevent : noteEvent thread (.pop lockClass) = ({ thread with held := held }, none) :=
      hpopped
    rw [eventReports, TopRising, hevent]
    exact ih _ hrest rfl

namespace LockAudit

variable [DecidableEq ThreadId]

theorem step_threads (audit : LockAudit ThreadId) (thread : ThreadId) (call : LockCall) :
    (audit.step thread call).threads =
      Function.update audit.threads thread (call.note (audit.threads thread)).1 := by
  rw [step]
  cases (call.note (audit.threads thread)).2 with
  | none => rfl
  | some report => rfl

theorem reported_append (audit : LockAudit ThreadId) (first second : List (ThreadId × LockCall)) :
    audit.reported (first ++ second) =
      audit.reported first ++ (audit.run first).reported second := by
  induction first generalizing audit with
  | nil => rfl
  | cons entry first ih =>
    obtain ⟨thread, call⟩ := entry
    rw [List.cons_append, reported, reported, ih, List.append_assoc]
    rfl

/-- The reports about a thread depend on its own calls alone. -/
theorem reported_of (audit : LockAudit ThreadId) (thread : ThreadId)
    (calls : List (ThreadId × LockCall)) :
    ((audit.reported calls).filter fun report => report.1 == thread).map Prod.snd =
      eventReports (audit.threads thread) (lockEvents thread calls) := by
  induction calls generalizing audit with
  | nil => rfl
  | cons entry calls ih =>
    obtain ⟨actor, call⟩ := entry
    have hrest := ih (audit.step actor call)
    rw [step_threads] at hrest
    rw [reported, List.filter_append, List.map_append, hrest, call.note_eq]
    by_cases hactor : actor = thread
    · subst hactor
      rw [Function.update_self]
      have hevents : lockEvents actor ((actor, call) :: calls) =
          call.event.toList ++ lockEvents actor calls := by
        rw [lockEvents, List.filter_cons_of_pos (by simp), List.filterMap_cons]
        cases call.event with
        | none => rfl
        | some event => rfl
      rw [hevents]
      cases call.event with
      | none => rfl
      | some event =>
        rw [Option.elim_some, Option.toList_some, List.singleton_append, eventReports]
        congr 1
        cases (noteEvent (audit.threads actor) event).2 with
        | none => rfl
        | some report => simp
    · have hevents : lockEvents thread ((actor, call) :: calls) = lockEvents thread calls := by
        rw [lockEvents, List.filter_cons_of_neg (by simpa using hactor)]
        rfl
      rw [Function.update_of_ne (Ne.symm hactor), hevents]
      have hother : (((call.event.elim (audit.threads actor, none)
          (noteEvent (audit.threads actor))).2.map fun report => (actor, report)).toList.filter
            fun report => report.1 == thread) = [] := by
        rw [List.filter_eq_nil_iff]
        intro report hmem
        obtain ⟨text, -, rfl⟩ := Option.map_eq_some_iff.1 (Option.mem_toList.1 hmem)
        simpa using hactor
      rw [hother]
      rfl

/-- However the calls of threads interleave, a thread whose calls are nested and of tracked classes
never adds to the violations exactly if each class it acquires ranks above all it holds. -/
theorem violationsOf_zero_iff (audit : LockAudit ThreadId) (thread : ThreadId)
    (calls : List (ThreadId × LockCall)) (hempty : (audit.threads thread).held = [])
    (hnested : Nested [] (lockEvents thread calls)) (htracked : Tracked (lockEvents thread calls)) :
    (∀ earlier, earlier <+: calls → audit.violationsOf thread earlier = 0) ↔
      Rising LockClass.rank [] (lockEvents thread calls) := by
  have hsilent : audit.violationsOf thread calls = 0 ↔
      Rising LockClass.rank [] (lockEvents thread calls) := by
    have hreports := audit.reported_of thread calls
    rw [← hempty] at hnested
    have htop := eventReports_nil_iff (audit.threads thread) hnested htracked
    rw [topRising_iff hnested (by rw [hempty]; exact List.Pairwise.nil), hempty, ← hreports,
      List.map_eq_nil_iff] at htop
    rw [violationsOf, List.countP_eq_length_filter, List.length_eq_zero_iff]
    exact htop
  rw [← hsilent]
  constructor
  · intro h
    exact h calls (List.prefix_refl calls)
  · rintro h earlier ⟨later, rfl⟩
    rw [violationsOf, reported_append, List.countP_append] at h
    exact Nat.eq_zero_of_add_eq_zero_right h

/-- Two threads that take turns, the second of them out of order. -/
theorem violationsOf_zero_iff_two :
    let calls : List (Bool × LockCall) := [(true, .lock .observatoryState),
      (false, .enterScope .diagnostics), (true, .tryLock .ingestQueue true),
      (false, .lock .transport), (true, .unlock .ingestQueue)]
    Rising LockClass.rank [] (lockEvents true calls) ∧
      ¬Rising LockClass.rank [] (lockEvents false calls) := by
  intro calls
  constructor
  · apply (violationsOf_zero_iff {} true calls rfl (.push (.push (.pop .done)))
      ⟨by decide, by decide⟩).1
    intro earlier hprefix
    have hall : ∀ earlier ∈ calls.inits,
        ({} : LockAudit Bool).violationsOf true earlier = 0 := by decide
    exact hall earlier ((List.mem_inits _ _).2 hprefix)
  · intro hrising
    have hzero := (violationsOf_zero_iff {} false calls rfl (.push (.push .done))
      ⟨by decide, by decide⟩).2 hrising calls (List.prefix_refl calls)
    exact absurd hzero (by decide)

end LockAudit

end LinkObservatory
