import LinkObservatory.Application

namespace LinkObservatory
set_option autoImplicit true

open Labelled

/-- The step invokes the completion of the submission. -/
def Action.completes (ticket : Nat) : Action → Bool
  | complete other => other = ticket
  | work (.finish _ rest) => rest = some ticket
  | _ => false

def invocations (labels : List Action) (ticket : Nat) : Nat :=
  labels.countP (Action.completes ticket)

/-- The records that the step applies on behalf of the submission. -/
def Action.applied (ticket : Nat) (action : Action) : List ParsedRecord :=
  action.own ticket ++ match action.pool with
    | some (.handle _ part) => if part.call = ticket then part.records else []
    | _ => []

def appliedBy (labels : List Action) (ticket : Nat) : List ParsedRecord :=
  labels.flatMap (Action.applied ticket)

theorem route_lt {record : ParsedRecord} (hworkers : workers ≠ 0)
    (h : record.route workers = some route) : route < workers := by
  cases record with
  | observation declaration =>
    obtain rfl := Option.some.inj h
    exact Nat.mod_lt _ (Nat.pos_of_ne_zero hworkers)
  | _ => cases h

theorem partsOf_flatMap (workers ticket : Nat) (batch : List ParsedRecord)
    (view : List ParsedRecord → List ParsedRecord) (hview : view [] = []) :
    (partsOf workers ticket batch).flatMap (fun pair => view pair.2.records) =
      (List.range workers).flatMap fun route => view (recordsFor workers batch route) := by
  unfold partsOf
  induction List.range workers with
  | nil => rfl
  | cons route routes ih =>
    by_cases hnil : recordsFor workers batch route = []
    · rw [List.filterMap_cons_none (by simp [hnil]), ih, List.flatMap_cons, hnil, hview,
        List.nil_append]
    · rw [List.filterMap_cons_some (by rw [if_neg hnil]), List.flatMap_cons, List.flatMap_cons, ih]

theorem parts_perm (workers ticket : Nat) (batch : List ParsedRecord) :
    (ownRecords workers batch ++
      (partsOf workers ticket batch).flatMap fun pair => pair.2.records).Perm batch := by
  unfold ownRecords
  split
  · rename_i hzero
    rw [hzero, partsOf_zero]
    simp
  · rename_i hworkers
    have hparts : (partsOf workers ticket batch).flatMap (fun pair => pair.2.records) =
        (List.range workers).flatMap (recordsFor workers batch) :=
      partsOf_flatMap workers ticket batch id rfl
    rw [hparts]
    refine List.Perm.trans (List.Perm.append_left _ ?_)
      (List.filter_append_perm (fun record => record.route workers = none) batch)
    refine ((Grouping.perm_groups (ParsedRecord.route workers) batch workers).symm).trans
      (List.Perm.of_eq (List.filter_congr fun record _ => ?_))
    cases hroute : record.route workers with
    | none => rfl
    | some route => simp [route_lt hworkers hroute]

theorem applied_eq (action : Action) (ticket : Nat) :
    action.applied ticket = (books [action] ticket).own ++
      (books [action] ticket).handled.flatMap fun pair => pair.2.records := by
  rw [books_single, Action.applied]
  congr 1
  cases hpool : action.pool with
  | none => rfl
  | some step =>
    cases step with
    | handle index part =>
      by_cases hticket : part.call = ticket <;> simp [PoolAction.handled, hticket]
    | _ => rfl

theorem Runtime.Step.changes_applied {runtime runtime' : Runtime} {action : Action}
    (h : Step runtime action runtime') (ticket : Nat) :
    appliedOf (runtime.changesOf action) ticket = action.applied ticket := by
  rcases h.changes_cases with ⟨other, records, rfl, hchanges⟩ |
    ⟨index, part, records, rfl, hrecords, hchanges⟩ | ⟨hown, hhandles, hloads⟩
  · simp [hchanges, appliedOf, Change.applied, Action.applied, Action.own, Action.pool]
  · simp [hchanges, appliedOf, Change.applied, Action.applied, Action.own, Action.pool, hrecords]
  · have hnone : appliedOf (runtime.changesOf action) ticket = [] := by
      refine List.flatMap_eq_nil_iff.2 fun change hmem => ?_
      have hload := (hloads change hmem).1
      cases change with
      | batch => cases hload
      | load => rfl
    rw [hnone, applied_eq, books_single, hown]
    cases hpool : action.pool with
    | none => rfl
    | some step =>
      cases step with
      | handle index part => simp [handles, poolLabels, hpool, PoolAction.handled] at hhandles
      | _ => rfl

theorem Runtime.run_applied {start runtime : Runtime} {changes : List Change}
    (h : Run (Writes Step) (start, []) labels (runtime, changes)) (ticket : Nat) :
    appliedOf changes ticket = appliedBy labels ticket := by
  refine Run.invariant (fun labels state => appliedOf state.2 ticket = appliedBy labels ticket) h rfl
    fun {labels before action after} _ hinv hstep => ?_
  rw [hstep.2, appliedOf, List.flatMap_append, ← appliedOf, hinv, ← appliedOf,
    hstep.1.changes_applied, appliedBy, appliedBy, List.flatMap_append, List.flatMap_singleton]

theorem appliedBy_perm (labels : List Action) (ticket : Nat) :
    (appliedBy labels ticket).Perm ((books labels ticket).own ++
      (books labels ticket).handled.flatMap fun pair => pair.2.records) := by
  induction labels with
  | nil => exact .nil
  | cons action labels ih =>
    have hbooks := books_append [action] labels ticket
    rw [List.singleton_append] at hbooks
    rw [hbooks, Books.add, List.flatMap_append, appliedBy, List.flatMap_cons, applied_eq,
      List.append_assoc, List.append_assoc]
    refine List.Perm.append_left _ ?_
    exact (List.Perm.append_left _ ih).trans (List.perm_append_comm_assoc _ _ _)

def Call.completing (call : Call) : Bool :=
  match call.phase with
  | .completing _ => true
  | _ => false

/-- The countdown of the call can still run out. -/
def Call.pending (call : Call) : Bool :=
  match call.phase with
  | .entered | .inlined => true
  | _ => 0 < call.remaining

/-- The completion is invoked, being invoked or still to come, and only one of them. -/
def Call.Once (call : Call) (entries : Books) : Prop :=
  entries.last + entries.completions + call.completing.toNat + call.pending.toNat ≤ 1

theorem Call.enter_once (call : Call) (workers ticket : Nat) :
    (call.enter workers ticket).completing.toNat + (call.enter workers ticket).pending.toNat ≤ 1 := by
  rcases call.enter_cases workers ticket with ⟨-, henter⟩ | ⟨-, -, -, henter⟩ |
    ⟨-, -, -, henter⟩ | ⟨-, -, henter⟩
  · simp [henter, completing, pending]
  · simp [henter, completing, pending]
  · simp [henter, completing, pending, Bool.toNat_le]
  · simp [henter, completing, pending]

theorem Call.Follows.pending {call new : Call} {entries : Books}
    (h : call.Follows workers ticket entries) (hne : ¬entries.Blank)
    (hphase : new.phase = call.phase) : new.pending = decide (0 < new.remaining) := by
  unfold Call.pending
  rw [hphase]
  rcases h.past hne with ⟨_, hcurrent, -, -⟩ | ⟨_, hcurrent, -⟩ | ⟨_, _, _, hcurrent, -⟩ |
    ⟨_, _, hcurrent, -, -⟩ <;> simp only [hcurrent]

section

variable {call : Call} {entries : Books} (h : call.Follows workers ticket entries)

include h

theorem Call.Follows.once_applyInline (hphase : call.phase = .inlined) :
    Call.Once { call with phase := .completing [] } (entries.add { own := records }) := by
  simp only [Follows, hphase] at h
  obtain ⟨-, hremaining, rfl⟩ := h
  simp [Call.Once, Books.add, Call.completing, Call.pending, hremaining]

theorem Call.Follows.once_applyDeclarations
    (hphase : call.phase = .declaring declarations parts) :
    Call.Once { call with phase := .arriving parts } (entries.add { own := records }) := by
  simp only [Follows, hphase] at h
  obtain ⟨-, -, hremaining, rfl⟩ := h
  simp [Call.Once, Books.add, Call.completing, Call.pending, hremaining]

theorem Call.Follows.once_arrive (hphase : call.phase = .arriving parts) :
    Call.Once { call.arrive.1 with
      phase := if call.arrive.2 then .completing parts else .routing parts }
      (entries.add { arrivals := 1 }) := by
  simp only [Follows, hphase] at h
  obtain ⟨-, -, hremaining, rfl⟩ := h
  cases hlast : call.arrive.2 with
  | true =>
    have hone : call.remaining = 1 := of_decide_eq_true hlast
    simp [Call.Once, Books.add, Call.completing, Call.pending, Call.arrive, hone]
  | false => simp [Call.Once, Books.add, Call.completing, Call.pending, Bool.toNat_le]

theorem Call.Follows.once_signal (honce : call.Once entries)
    (hlt : entries.signalled.length < entries.accepted.length) :
    call.arrive.1.Once (entries.add
      { signalled := [(index, part)], last := if call.arrive.2 then 1 else 0 }) := by
  have hne : ¬entries.Blank := Books.not_blank fun hnil => by
    rw [hnil, List.length_nil] at hlt
    omega
  have hpos : 0 < call.remaining := by
    obtain ⟨left, hsubmits⟩ := h.submits hne
    exact hsubmits.remaining_pos hlt
  rw [Call.Once, h.pending hne rfl, decide_eq_true hpos, Bool.toNat_true] at honce
  have hpending : call.arrive.1.pending = decide (0 < call.remaining - 1) := h.pending hne rfl
  have hcompleting : call.arrive.1.completing = call.completing := rfl
  rw [Call.Once, hpending, hcompleting]
  by_cases hone : call.remaining = 1
  · simp only [Books.add, Call.arrive, hone, decide_true, if_true, Nat.sub_self, Nat.lt_irrefl,
      decide_false, Bool.toNat_false]
    omega
  · have hleft : 0 < call.remaining - 1 := by omega
    simp only [Books.add, Call.arrive, hone, decide_false, Bool.false_eq_true, if_false,
      decide_eq_true hleft, Bool.toNat_true]
    omega

end

theorem Call.Once.complete {call : Call} {entries : Books} (h : call.Once entries)
    (hphase : call.phase = .completing parts) :
    Call.Once { call with phase := .routing parts } (entries.add { completions := 1 }) := by
  simp only [Call.Once, Call.completing, Call.pending, hphase, Bool.toNat_true] at h
  simp only [Call.Once, Books.add, Call.completing, Call.pending, Bool.toNat_false]
  omega

theorem Call.Once.push {call : Call} {entries : Books} (h : call.Once entries)
    (hphase : call.phase = .pushing index part parts) :
    Call.Once { call with phase := .routing parts } (entries.add { accepted := [(index, part)] }) := by
  simpa [Call.Once, Books.add, Call.completing, Call.pending, hphase] using h

namespace Runtime

/-- Every submission's completion is in one place. -/
def Onced (labels : List Action) (runtime : Runtime) : Prop :=
  ∀ (ticket : Nat) (call : Call), runtime.calls[ticket]? = some call →
    call.Once (books labels ticket)

theorem Onced.set {runtime runtime' : Runtime} {action : Action} (h : runtime.Onced labels)
    {new : Call} (hcalls : runtime'.calls = runtime.calls.set ticket new)
    (hsilent : ∀ other, other ≠ ticket → action.Silent other)
    (hnew : new.Once (books (labels ++ [action]) ticket)) :
    runtime'.Onced (labels ++ [action]) := by
  intro other found hfound
  rw [hcalls, List.getElem?_set] at hfound
  split at hfound
  · rename_i heq
    subst heq
    split at hfound
    · obtain rfl := Option.some.inj hfound
      exact hnew
    · cases hfound
  · rename_i hne
    rw [books_silent (hsilent other (Ne.symm hne))]
    exact h other found hfound

theorem Onced.move {runtime runtime' : Runtime} {action : Action} (h : runtime.Onced labels)
    (hcall : runtime.calls[ticket]? = some call) {new : Call}
    (hcalls : runtime'.calls = runtime.calls.set ticket new) (hquiet : action.quiet = true)
    (hcompleting : new.completing.toNat ≤ call.completing.toNat)
    (hpending : new.pending.toNat ≤ call.pending.toNat) :
    runtime'.Onced (labels ++ [action]) := by
  refine h.set hcalls (fun other _ => Action.silent_of_quiet hquiet other) ?_
  have honce := h ticket call hcall
  rw [books_quiet hquiet]
  unfold Call.Once at honce ⊢
  omega

theorem Onced.silent {runtime runtime' : Runtime} {action : Action} (h : runtime.Onced labels)
    (hcalls : runtime'.calls = runtime.calls) (hquiet : action.quiet = true) :
    runtime'.Onced (labels ++ [action]) := by
  intro ticket call hcall
  rw [books_quiet hquiet]
  exact h ticket call (hcalls ▸ hcall)

theorem Onced.step {options : LifecycleConfig} {config : RuntimeConfig} {files : FileSystem}
    {runtime runtime' : Runtime} (hrun : Run Step (make options config files) labels runtime)
    (h : runtime.Onced labels) (hstep : Step runtime action runtime') :
    runtime'.Onced (labels ++ [action]) := by
  have hkept := run_kept hrun
  have hstep' := hstep
  cases hstep with
  | call =>
    intro ticket call hcall
    rw [books_quiet rfl]
    rw [List.getElem?_append] at hcall
    split at hcall
    · exact h ticket call hcall
    · rename_i hge
      have hnew := List.mem_singleton.1 (List.mem_of_getElem? hcall)
      subst hnew
      rw [hkept.unused ticket (Nat.le_of_not_lt hge)]
      exact Nat.le_refl 1
  | checkRefused hcall hphase hstarted =>
    have hfollows := hkept.calls _ _ hcall
    simp only [Call.Follows, hphase] at hfollows
    refine h.move hcall rfl rfl (by simp [Call.completing]) ?_
    simp [Call.pending, hfollows.1]
  | check hcall hphase hstarted =>
    rename_i ticket call
    have hfollows := hkept.calls _ _ hcall
    simp only [Call.Follows, hphase] at hfollows
    refine h.set rfl (fun other _ => Action.silent_of_quiet rfl other) ?_
    rw [books_quiet rfl, hfollows.2, Call.Once]
    simpa using call.enter_once runtime.lifecycle.workers ticket
  | applyInline hcall hphase hrecords =>
    refine h.set rfl (fun other hne => ?_) ?_
    · rw [Action.Silent, books_apply, if_neg (Ne.symm hne)]
    rw [books_append, books_apply, if_pos rfl]
    exact (hkept.calls _ _ hcall).once_applyInline hphase
  | applyDeclarations hcall hphase hrecords =>
    refine h.set rfl (fun other hne => ?_) ?_
    · rw [Action.Silent, books_apply, if_neg (Ne.symm hne)]
    rw [books_append, books_apply, if_pos rfl]
    exact (hkept.calls _ _ hcall).once_applyDeclarations hphase
  | arrive hcall hphase =>
    refine h.set rfl (fun other hne => ?_) ?_
    · rw [Action.Silent, books_arrive, if_neg (Ne.symm hne)]
    rw [books_append, books_arrive, if_pos rfl]
    exact (hkept.calls _ _ hcall).once_arrive hphase
  | complete hcall hphase =>
    refine h.set rfl (fun other hne => ?_) ?_
    · rw [Action.Silent, books_complete, if_neg (Ne.symm hne)]
    rw [books_append, books_complete, if_pos rfl]
    exact Call.Once.complete (h _ _ hcall) hphase
  | enlist hcall hphase hpool =>
    exact h.move hcall rfl rfl (by simp [Call.completing]) (by simp [Call.pending, hphase])
  | deny hcall hphase hfree hidle =>
    exact h.move hcall rfl rfl (by simp [Call.completing]) (by simp [Call.pending, hphase])
  | push hcall hphase hpool =>
    rename_i ticket call index part parts pool'
    have hfollows := hkept.calls _ _ hcall
    simp only [Call.Follows, hphase] at hfollows
    have hmem : (index, part) ∈ partsOf options.workers ticket call.batch := by
      simp [hfollows.parts]
    have hticket : part.call = ticket := by rw [(mem_partsOf.1 hmem).2.2]
    refine h.set rfl (fun other hne => ?_) ?_
    · rw [Action.Silent, books_push, if_neg (by omega)]
    rw [books_append, books_push, if_pos hticket]
    exact Call.Once.push (h ticket call hcall) hphase
  | refuse hcall hphase hpool =>
    exact h.move hcall rfl rfl (by simp [Call.completing]) (by simp [Call.pending, hphase])
  | leave hcall hphase =>
    exact h.move hcall rfl rfl (by simp [Call.completing]) (by simp [Call.pending, hphase])
  | signal hcall hrest hpool =>
    rename_i call rest index part pool'
    subst hrest
    have hle := books_le (hrun.snoc hstep') part.call
    rw [books_append, books_signal, if_pos rfl] at hle
    simp only [Books.add, List.length_append, List.length_singleton, List.append_nil] at hle
    refine h.set rfl (fun other hother => ?_) ?_
    · rw [Action.Silent, books_signal, if_neg (Ne.symm hother)]
    rw [books_append, books_signal, if_pos rfl]
    exact (hkept.calls _ _ hcall).once_signal (h _ call hcall) (by omega)
  | handle hpool hrecords =>
    rename_i index part pool' records
    intro ticket call hcall
    have honce := h ticket call hcall
    rw [books_append, books_handle]
    split
    · simpa [Call.Once, Books.add] using honce
    · rw [Books.add_empty]
      exact honce
  | pop hpool | exit hpool | finish hpool | enter hcontrol
  | startCheck hcontrol | startInline hcontrol hworkers
  | startRefused hcontrol hworkers hfree hrunning | spawn hcontrol hworkers hpool
  | startMark hcontrol | stopIdle hcontrol hidle | stopDrain hcontrol hworkers hpool
  | cancelIdle hcontrol hidle | cancelDrain hcontrol hworkers hpool
  | close hcontrol hdraining hpool | discard hcontrol hdraining hpool
  | join hcontrol hdraining hpool | stopHalt hcontrol hpool | cancelHalt hcontrol hpool
  | persist hcontrol hpersists hwrite | skipPersist hcontrol hpersists | stopClear hcontrol =>
    exact h.silent rfl rfl
  | startLoad hcontrol => exact h.silent runtime.startLoad_frame.2 rfl

theorem run_onced {options : LifecycleConfig} {config : RuntimeConfig} {files : FileSystem}
    {runtime : Runtime} (h : Run Step (make options config files) labels runtime) :
    runtime.Onced labels :=
  Run.invariant (fun labels runtime => runtime.Onced labels) h
    (fun ticket call hcall => by simp [make] at hcall) fun hrun honced hstep => honced.step hrun hstep

/-- A batch stays what it was. -/
theorem Step.batch {runtime runtime' : Runtime} {action : Action}
    (h : Step runtime action runtime') {ticket : Nat} {call : Call}
    (hcall : runtime.calls[ticket]? = some call) :
    ∃ call' : Call, runtime'.calls[ticket]? = some call' ∧ call'.batch = call.batch := by
  have hset {other : Nat} {found new : Call} (hfound : runtime.calls[other]? = some found)
      (hbatch : new.batch = found.batch) :
      ∃ call' : Call, (runtime.calls.set other new)[ticket]? = some call' ∧ call'.batch = call.batch := by
    rw [List.getElem?_set]
    split
    · rename_i heq
      subst heq
      rw [hcall] at hfound
      obtain rfl := Option.some.inj hfound
      rw [if_pos (List.getElem?_eq_some_iff.1 hcall).1]
      exact ⟨new, rfl, hbatch⟩
    · exact ⟨call, hcall, rfl⟩
  cases h with
  | call =>
    refine ⟨call, ?_, rfl⟩
    rw [List.getElem?_append_left (List.getElem?_eq_some_iff.1 hcall).1]
    exact hcall
  | check hfound hphase hstarted =>
    refine hset hfound ?_
    unfold Call.enter
    split <;> rfl
  | checkRefused hfound _ _ | applyInline hfound _ _ | applyDeclarations hfound _ _
  | arrive hfound _ | complete hfound _ | enlist hfound _ _ | deny hfound _ _ _ | push hfound _ _
  | refuse hfound _ _ | leave hfound _ | signal hfound _ _ => exact hset hfound rfl
  | startLoad => exact ⟨call, by rw [← hcall, ← runtime.startLoad_frame.2]; rfl, rfl⟩
  | _ => exact ⟨call, hcall, rfl⟩

theorem run_batch {start runtime : Runtime} (h : Run Step start labels runtime) {ticket : Nat}
    {call : Call} (hcall : start.calls[ticket]? = some call) :
    ∃ call' : Call, runtime.calls[ticket]? = some call' ∧ call'.batch = call.batch := by
  refine Run.invariant (fun _ runtime => ∃ call' : Call, runtime.calls[ticket]? = some call' ∧
    call'.batch = call.batch) h ⟨call, hcall, rfl⟩ fun _ hinv hstep => ?_
  obtain ⟨call', hcall', hbatch⟩ := hinv
  obtain ⟨call'', hcall'', hbatch'⟩ := hstep.batch hcall'
  exact ⟨call'', hcall'', hbatch'.trans hbatch⟩

theorem applied_of_submits {options : LifecycleConfig} {config : RuntimeConfig}
    {files : FileSystem} {runtime : Runtime}
    (h : Run Step (make options config files) labels runtime) {call : Call}
    (hsubmits : call.Submits options.workers ticket (books labels ticket) left)
    (hremaining : call.remaining = 0) :
    left = [] ∧ (appliedBy labels ticket).Perm call.batch := by
  have hcounted := hsubmits.counted
  have hparts := hsubmits.parts
  obtain ⟨hsignalled, hhandled⟩ := books_le h ticket
  have hlengths := congrArg List.length hparts
  rw [List.length_append] at hlengths
  have hleft : left = [] := List.length_eq_zero_iff.1 (by omega)
  refine ⟨hleft, ?_⟩
  obtain ⟨unhandled, hpushes⟩ := WorkerPool.run_pushes (run_pool h)
  have haccepted : (books labels ticket).accepted.Perm ((books labels ticket).handled ++
      unhandled.filter fun pair => pair.2.call = ticket) := by
    have hfilter := hpushes.filter fun pair => pair.2.call = ticket
    rwa [List.filter_append] at hfilter
  have hrest : (unhandled.filter fun pair => pair.2.call = ticket) = [] := by
    have hlength := haccepted.length_eq
    rw [List.length_append] at hlength
    exact List.length_eq_zero_iff.1 (by omega)
  rw [hrest, List.append_nil] at haccepted
  rw [hleft, List.append_nil] at hparts
  refine (appliedBy_perm labels ticket).trans (List.Perm.trans ?_
    (parts_perm options.workers ticket call.batch))
  rw [hsubmits.own, hparts]
  exact List.Perm.append_left _ (haccepted.symm.flatMap_right _)

theorem run_out {options : LifecycleConfig} {config : RuntimeConfig} {files : FileSystem}
    {runtime : Runtime} (h : Run Step (make options config files) labels runtime)
    {call : Call} (hcall : runtime.calls[ticket]? = some call)
    (hlast : 0 < (books labels ticket).last + call.completing.toNat) :
    call.remaining = 0 ∧ ∃ left, call.Submits options.workers ticket (books labels ticket) left := by
  have honce := run_onced h ticket call hcall
  have hfollows := (run_kept h).calls ticket call hcall
  unfold Call.Once at honce
  cases hphase : call.phase with
  | completing parts =>
    simp only [Call.Follows, hphase] at hfollows
    exact ⟨hfollows.2, parts, hfollows.1⟩
  | _ =>
    have hcompleting : call.completing = false := by simp [Call.completing, hphase]
    rw [hcompleting, Bool.toNat_false] at hlast honce
    have hne : ¬(books labels ticket).Blank := by
      rintro ⟨own, hblank⟩
      simp [hblank] at hlast
    have hpending := hfollows.pending hne rfl
    refine ⟨?_, hfollows.submits hne⟩
    by_contra hpos
    rw [hpending, decide_eq_true (Nat.pos_of_ne_zero hpos), Bool.toNat_true] at honce
    omega

theorem invocations_le (labels : List Action) (ticket : Nat) :
    invocations labels ticket ≤ (books labels ticket).completions +
      ((finishes (poolLabels labels)).map Prod.snd).count (some ticket) := by
  induction labels with
  | nil => exact Nat.le_refl 0
  | cons action labels ih =>
    have hhead : (Action.completes ticket action).toNat ≤ action.completions ticket +
        (((action.pool.bind PoolAction.finished).toList).map Prod.snd).count (some ticket) := by
      unfold Action.completes
      split
      · rename_i other
        by_cases heq : other = ticket <;> simp [Action.completions, heq]
      · rename_i index rest
        by_cases heq : rest = some ticket <;>
          simp [Action.pool, PoolAction.finished, heq]
      · exact Nat.zero_le _
    have hfinishes : finishes (poolLabels (action :: labels)) =
        (action.pool.bind PoolAction.finished).toList ++ finishes (poolLabels labels) := by
      unfold finishes poolLabels
      cases hpool : action.pool with
      | none => simp [List.filterMap_cons_none hpool]
      | some step =>
        rw [List.filterMap_cons_some hpool, Option.bind_some]
        cases hfinished : step.finished with
        | none => simp [List.filterMap_cons_none hfinished]
        | some pair => simp [List.filterMap_cons_some hfinished]
    have hcons : invocations (action :: labels) ticket =
        invocations labels ticket + (Action.completes ticket action).toNat := by
      unfold invocations
      rw [List.countP_cons]
      cases Action.completes ticket action <;> rfl
    have hbooks := books_append [action] labels ticket
    rw [List.singleton_append] at hbooks
    rw [hbooks, Books.add, books_single, hfinishes, List.map_append, List.count_append, hcons]
    simp only
    omega

theorem finishes_le {options : LifecycleConfig} {config : RuntimeConfig} {files : FileSystem}
    {runtime : Runtime} (h : Run Step (make options config files) labels runtime) (ticket : Nat) :
    ((finishes (poolLabels labels)).map Prod.snd).count (some ticket) ≤
      (books labels ticket).last := by
  obtain ⟨rest, hentries⟩ := WorkerPool.run_entries (run_pool h)
  have hcount := (hentries.map Prod.snd).count_eq (some ticket)
  rw [List.map_append, List.count_append] at hcount
  simp only [books]
  omega

theorem completes_applied {options : LifecycleConfig} {config : RuntimeConfig} {files : FileSystem}
    {runtime runtime' : Runtime} (h : Run Step (make options config files) labels runtime)
    (hstep : Step runtime action runtime') (hcompletes : action.completes ticket = true) :
    ∃ call : Call, runtime.calls[ticket]? = some call ∧
      (appliedBy labels ticket).Perm call.batch := by
  have hfound : ∃ call : Call, runtime.calls[ticket]? = some call ∧
      0 < (books labels ticket).last + call.completing.toNat := by
    cases hstep with
    | complete hcall hphase =>
      obtain rfl := of_decide_eq_true hcompletes
      exact ⟨_, hcall, by simp [Call.completing, hphase]⟩
    | finish hpool =>
      rename_i index rest pool'
      obtain rfl := of_decide_eq_true hcompletes
      have hle := finishes_le (h.snoc (.finish hpool)) ticket
      rw [books_quiet rfl] at hle
      have hlast : 0 < (books labels ticket).last := by
        refine Nat.lt_of_lt_of_le ?_ hle
        simp [finishes, poolLabels, Action.pool, PoolAction.finished]
      by_cases hlt : ticket < runtime.calls.length
      · exact ⟨_, List.getElem?_eq_getElem hlt, Nat.add_pos_left hlast _⟩
      · rw [(run_kept h).unused ticket (Nat.le_of_not_lt hlt)] at hlast
        cases hlast
    | _ => cases hcompletes
  obtain ⟨call, hcall, hlast⟩ := hfound
  obtain ⟨hremaining, left, hsubmits⟩ := run_out h hcall hlast
  exact ⟨call, hcall, (applied_of_submits h hsubmits hremaining).2⟩

/-- In every run a completion is invoked at most once, only in a state of the observatory to which
every record of its batch has been applied, and never for a submission that fails. -/
theorem completion_once {options : LifecycleConfig} {config : RuntimeConfig} {files : FileSystem}
    {labels : List Action} {runtime : Runtime}
    (h : Run Step (make options config files) labels runtime) {ticket : Nat} {call : Call}
    (hcall : runtime.calls[ticket]? = some call) :
    invocations labels ticket ≤ 1 ∧
      (∀ before action after middle changes, labels = before ++ action :: after →
        action.completes ticket = true →
        Run (Writes Step) (make options config files, []) before (middle, changes) →
        Run Step middle (action :: after) runtime →
        middle.observatory = (Observatory.fresh config).undergoAll changes ∧
          (appliedOf changes ticket).Perm call.batch) ∧
      ∀ status, call.phase = .returned status → status.ok = false →
        invocations labels ticket = 0 := by
  have honce := run_onced h ticket call hcall
  have hinvoked := (invocations_le labels ticket).trans
    (Nat.add_le_add_left (finishes_le h ticket) _)
  refine ⟨?_, fun before action after middle changes hlabels hcompletes hwritten hrest => ?_,
    fun status hphase hfailed => ?_⟩
  · unfold Call.Once at honce
    omega
  · refine ⟨run_observatory hwritten, ?_⟩
    rw [run_applied hwritten]
    obtain ⟨next, hstep, hafter⟩ := hrest.uncons
    obtain ⟨first, hfirst, happlied⟩ := completes_applied (run_of_writes hwritten) hstep hcompletes
    obtain ⟨second, hsecond, hbatch⟩ := hstep.batch hfirst
    obtain ⟨third, hthird, hbatch'⟩ := run_batch hafter hsecond
    rw [hcall] at hthird
    obtain rfl := Option.some.inj hthird
    rwa [hbatch', hbatch]
  · have hfollows := (run_kept h).calls ticket call hcall
    simp only [Call.Follows, hphase, hfailed, Bool.false_eq_true, if_false] at hfollows
    rcases hfollows with ⟨-, hbooks⟩ | ⟨parts, hparts, hsubmits⟩
    · rw [hbooks] at hinvoked
      exact Nat.eq_zero_of_le_zero hinvoked
    · -- parts that were never submitted keep the countdown from running out
      have hpos : 0 < call.remaining := Nat.pos_of_ne_zero fun hzero =>
        hparts (applied_of_submits h hsubmits hzero).1
      have hpending : call.pending = true := by simp [Call.pending, hphase, hpos]
      rw [Call.Once, hpending, Bool.toNat_true] at honce
      omega

/-- One worker and a queue of one place. -/
def smallConfig : LifecycleConfig := { workers := 1, queueDepth := 1 }

def smallStart : Runtime := begun smallConfig { policy := makeDefaultPolicy } fun _ => none

theorem run_smallStart :
    Run Step (make smallConfig { policy := makeDefaultPolicy } fun _ => none)
      (startLabels smallConfig) smallStart :=
  run_begun_of (fun hstep _ _ => hstep) (by decide +kernel) (.inr rfl) _

/-- A declaration and an observation. -/
def smallBatch : List ParsedRecord :=
  [.source { name := ascii "s" }, .observation { source := ascii "s" }]

def smallPart : Part := ⟨0, [.observation { source := ascii "s" }]⟩

theorem smallBatch_enter : Call.enter { batch := smallBatch } 1 0 =
    { batch := smallBatch
      remaining := 2
      phase := .declaring [.source { name := ascii "s" }] [(0, smallPart)] } := by
  decide +kernel

/-- The batch is submitted and worked off, and the runtime is stopped. -/
def smallLabels : List Action :=
  [.call smallBatch, .check 0, .apply 0 [(.source { name := ascii "s" }, ⟨0⟩)], .arrive 0,
    .submit 0 (.enlist 0 smallPart), .submit 0 (.push 0 smallPart), .leave 0,
    .work (.pop 0 smallPart), .handle 0 smallPart [(.observation { source := ascii "s" }, ⟨0⟩)],
    .work (.signal 0 smallPart (some 0)), .work (.finish 0 (some 0)), .enter .stopEntered,
    .manage 1 (.shutdown false), .manage 1 (.close 0), .work (.exit 0), .manage 1 (.join 0),
    .manage 1 .halt, .advance 1, .advance 1]

set_option maxRecDepth 2000 in
theorem run_small :
    ∃ runtime, Run Step smallStart smallLabels runtime ∧ runtime.pool.running = false ∧
      runtime.calls[0]? =
        some { batch := smallBatch, remaining := 0, phase := .returned .success } :=
  ⟨_, .cons .call <| .cons (.checked rfl rfl rfl smallBatch_enter) <|
    .cons (.applyDeclarations rfl rfl rfl) <| .cons (.arrive rfl rfl) <|
    .cons (.enlist rfl rfl (.enlist rfl rfl)) <|
    .cons (.push rfl rfl (.push (List.nil_append _).symm rfl rfl)) <| .cons (.leave rfl rfl) <|
    .cons (.pop (.pop rfl rfl rfl)) <| .cons (.handle (.handle rfl rfl) rfl) <|
    .cons (.signal rfl rfl (.signal rfl rfl)) <| .cons (.finish (.finish rfl rfl)) <|
    .cons (.enter (by simp)) <| .cons (.stopDrain rfl (by decide) (.shutdown rfl rfl)) <|
    .cons (.close rfl (.inl rfl) (.close rfl rfl)) <| .cons (.exit (.exit rfl rfl rfl)) <|
    .cons (.join rfl (.inl rfl) (.join rfl rfl rfl)) <| .cons (.stopHalt rfl (.halt rfl)) <|
    .cons (.skipPersist rfl rfl) <| .cons (.stopClear rfl) .nil, rfl, rfl⟩

/-- The worker invokes the completion of a batch whose declaration its caller applied: by then both
records have been applied to the observatory. -/
theorem completion_once_small :
    ∃ middle changes, Run (Writes Step) (make smallConfig { policy := makeDefaultPolicy } fun _ => none, [])
        (startLabels smallConfig ++ smallLabels.take 10) (middle, changes) ∧
      invocations (startLabels smallConfig ++ smallLabels) 0 = 1 ∧
      middle.observatory =
        (Observatory.fresh { policy := makeDefaultPolicy }).undergoAll changes ∧
      (appliedOf changes 0).Perm smallBatch := by
  obtain ⟨runtime, hrun, -, hcall⟩ := run_small
  have hall := run_smallStart.append hrun
  have hsplit : startLabels smallConfig ++ smallLabels =
      (startLabels smallConfig ++ smallLabels.take 10) ++
        .work (.finish 0 (some 0)) :: smallLabels.drop 11 := rfl
  have hpart := hall
  rw [hsplit] at hpart
  obtain ⟨middle, hbefore, hafter⟩ := hpart.split
  obtain ⟨changes, hwritten⟩ := run_writes hbefore
  exact ⟨middle, changes, hwritten, rfl,
    (completion_once hall hcall).2.1 _ _ _ middle changes hsplit rfl hwritten hafter⟩

end Runtime

end LinkObservatory
