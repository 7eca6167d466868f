import LinkObservatory.Delivery

namespace LinkObservatory
set_option autoImplicit true

open Labelled

/-- The steps that no lifecycle call takes. -/
def PoolAction.routine : PoolAction β γ → Bool
  | .enlist _ _ | .push _ _ | .refuse _ _ | .pop _ _ | .exit _ | .handle _ _ | .signal _ _ _
  | .finish _ _ => true
  | _ => false

namespace WorkerPool

/-- Which queues of the pool are closed. -/
def closures (pool : WorkerPool β γ) : List Bool :=
  pool.workers.map fun worker => worker.queue.closed

def AllClosed (pool : WorkerPool β γ) : Prop := ∀ closed ∈ pool.closures, closed = true

theorem AllClosed.worker {pool : WorkerPool β γ} {index : Nat} (h : pool.AllClosed) {worker : Worker β γ}
    (hworker : pool.workers[index]? = some worker) : worker.queue.closed = true :=
  h _ (List.mem_map_of_mem (List.mem_of_getElem? hworker))

theorem closures_set {pool : WorkerPool β γ} {index : Nat} {worker new : Worker β γ}
    (hworker : pool.workers[index]? = some worker)
    (hclosed : new.queue.closed = worker.queue.closed) :
    (pool.setWorker index new).closures = pool.closures := by
  obtain ⟨hlt, rfl⟩ := List.getElem?_eq_some_iff.1 hworker
  simp only [closures, setWorker, List.map_set, hclosed]
  refine List.ext_getElem? fun other => ?_
  rw [List.getElem?_set]
  split
  · rename_i heq
    subst heq
    simp [hlt]
  · rfl

theorem Step.closures {pool pool' : WorkerPool β γ} {action : PoolAction β γ}
    (h : Step pool action pool') :
    pool'.closures = pool.closures ∨
      ∃ index, action = .close index ∧ pool'.closures = pool.closures.set index true := by
  cases h with
  | start hfree hidle =>
    refine .inl ?_
    simp [WorkerPool.closures, spawned]
  | push hadmitted hworker hpush =>
    refine .inl (closures_set hworker ?_)
    rw [(BoundedQueue.push_true hpush).2.2]
  | pop hworker hthread hpop =>
    refine .inl (closures_set hworker ?_)
    rw [(BoundedQueue.pop_some hpop).2]
  | exit hworker hthread hpop =>
    refine .inl (closures_set hworker ?_)
    rw [(BoundedQueue.pop_none hpop).2.2]
  | handle hworker _ | signal hworker _ | finish hworker _ | join _ hworker _ =>
    exact .inl (closures_set hworker rfl)
  | discard hdiscarding hworker hitems => exact .inl (closures_set hworker rfl)
  | close hclosing hworker =>
    refine .inr ⟨_, rfl, ?_⟩
    simp [WorkerPool.closures, setWorker, BoundedQueue.close, List.map_set]
  | enlist | refuse | shutdown | halt => exact .inl rfl

theorem Sound.joining {pool : WorkerPool β γ} {next : Nat} (h : pool.Sound)
    (hjoining : pool.lifecycle = .joining next) : pool.AllClosed := by
  intro closed hmem
  obtain ⟨worker, hworker, rfl⟩ := List.mem_map.1 hmem
  obtain ⟨index, hindex⟩ := List.getElem?_of_mem hworker
  have hphase := h.phase index worker hindex
  rw [hjoining] at hphase
  exact hphase.1

theorem Step.routine {pool pool' : WorkerPool β γ} {action : PoolAction β γ}
    (h : Step pool action pool') (hroutine : action.routine = true) :
    pool'.running = pool.running ∧ pool'.lifecycle = pool.lifecycle ∧
      pool'.closures = pool.closures := by
  refine ⟨?_, ?_, ?_⟩
  · cases h <;> first | rfl | cases hroutine
  · cases h <;> first | rfl | cases hroutine
  · rcases h.closures with hsame | ⟨index, rfl, -⟩
    · exact hsame
    · cases hroutine

end WorkerPool

theorem pair_concat {xs : List α} :
    [first, second].Sublist (xs ++ [last]) ↔
      [first, second].Sublist xs ∨ first ∈ xs ∧ second = last := by
  rw [List.sublist_append_iff]
  constructor
  · rintro ⟨left, right, hsplit, hleft, hright⟩
    rcases List.sublist_singleton.1 hright with rfl | rfl
    · rw [List.append_nil] at hsplit
      exact .inl (hsplit ▸ hleft)
    · have hpair : [first] ++ [second] = left ++ [last] := hsplit
      obtain ⟨rfl, hlast⟩ := List.append_inj' hpair rfl
      exact .inr ⟨List.singleton_sublist.1 hleft, List.singleton_inj.1 hlast⟩
  · rintro (hsub | ⟨hmem, rfl⟩)
    · exact ⟨_, [], (List.append_nil _).symm, hsub, List.nil_sublist _⟩
    · exact ⟨[first], [second], rfl, List.singleton_sublist.2 hmem, List.Sublist.refl _⟩

/-- A `stop` that has taken the pool down, or found it down. -/
def Control.stopping : Control → Bool
  | stopDraining | stopPersisting | stopClearing _ | stopped _ => true
  | _ => false

/-- What the last lifecycle call says about the flags of the runtime and its pool. -/
def Control.Fits (control : Control) (workers : Nat) (started running : Bool) : Prop :=
  match control with
  | startEntered | stopEntered => workers ≠ 0 → running = started
  | startLoading | startSpawning => started = false ∧ running = false
  | startMarking => started = false ∧ (workers ≠ 0 → running = true)
  | .started status => (status.ok = true → started = true) ∧ (workers ≠ 0 → running = started)
  | stopDraining => running = true
  | stopPersisting | stopClearing _ => running = false
  | stopped _ => started = false ∧ running = false
  | cancelEntered | cancelDraining | cancelled => False

theorem Control.Fits.returned {control : Control} {workers : Nat} {begun running : Bool}
    (h : control.Fits workers begun running) (hreturned : control.returned = true)
    (hworkers : workers ≠ 0) : running = begun := by
  cases control with
  | started status => exact h.2 hworkers
  | stopped status => rw [h.1, h.2]
  | cancelled => exact h.elim
  | _ => cases hreturned

namespace Runtime

/-- One thread makes the lifecycle calls, one after the other, and none of them cancels. -/
def InTurn (runtime : Runtime) (action : Action) (runtime' : Runtime) : Prop :=
  Step runtime action runtime' ∧ ∀ control, action = .enter control →
    control ≠ .cancelEntered ∧ ∀ earlier ∈ runtime.controls, earlier.returned = true

/-- The last lifecycle call; a new runtime is as if stopped. -/
def lastControl (runtime : Runtime) : Control :=
  runtime.controls.getLast?.getD (.stopped .success)

/-- What holds between the steps of a runtime whose lifecycle calls are made in turn. -/
structure Turns (runtime : Runtime) : Prop where
  only : ∀ control ∈ runtime.controls.dropLast, control.returned = true
  unpooled : runtime.lifecycle.workers = 0 → runtime.pool.running = false
  fits : runtime.lastControl.Fits runtime.lifecycle.workers runtime.started runtime.pool.running
  free : runtime.pool.lifecycle ≠ .free → runtime.lastControl = .stopDraining
  opened : runtime.pool.running = true →
    .started .success ∈ runtime.controls ∨ runtime.lastControl = .startMarking
  halted : runtime.lifecycle.workers ≠ 0 → .started .success ∈ runtime.controls →
    runtime.pool.running = true ∨ runtime.pool.AllClosed
  stopped : runtime.lifecycle.workers ≠ 0 → ∀ status,
    [.started .success, .stopped status].Sublist runtime.controls → runtime.pool.AllClosed
  shut : true ∈ runtime.pool.closures →
    ∃ control : Control, control.stopping = true ∧
      [.started .success, control].Sublist runtime.controls

theorem make_turns (options : LifecycleConfig) (config : RuntimeConfig) (files : FileSystem) :
    (make options config files).Turns where
  only control hmem := by cases hmem
  unpooled _ := rfl
  fits := ⟨rfl, rfl⟩
  free hne := absurd rfl hne
  opened hrunning := by cases hrunning
  halted _ hmem := by cases hmem
  stopped _ status hsub := by cases hsub
  shut hmem := by simp [make, WorkerPool.make, WorkerPool.closures, BoundedQueue.make] at hmem

/-- A call that is under way is the last one. -/
theorem Turns.last {runtime : Runtime} (h : runtime.Turns) {ticket : Nat} {control : Control}
    (hcontrol : runtime.controls[ticket]? = some control) (hreturned : control.returned = false) :
    ∃ past, runtime.controls = past ++ [control] ∧ ticket = past.length := by
  obtain ⟨hlt, hget⟩ := List.getElem?_eq_some_iff.1 hcontrol
  have hne : runtime.controls ≠ [] := List.ne_nil_of_length_pos (by omega)
  have hlast : ticket = runtime.controls.length - 1 := by
    by_contra hother
    have hmem : control ∈ runtime.controls.dropLast := by
      rw [List.mem_iff_getElem]
      refine ⟨ticket, by simp; omega, ?_⟩
      rw [List.getElem_dropLast]
      exact hget
    rw [h.only control hmem] at hreturned
    cases hreturned
  refine ⟨runtime.controls.dropLast, ?_, by simp [hlast]⟩
  conv_lhs => rw [← List.dropLast_append_getLast hne]
  rw [← hget]
  simp [List.getLast_eq_getElem, hlast]

theorem Turns.quiet {runtime runtime' : Runtime} (h : runtime.Turns)
    (hlifecycle : runtime'.lifecycle = runtime.lifecycle)
    (hcontrols : runtime'.controls = runtime.controls)
    (hstarted : runtime'.started = runtime.started)
    (hrunning : runtime'.pool.running = runtime.pool.running)
    (hphase : runtime'.pool.lifecycle = runtime.pool.lifecycle)
    (hclosures : runtime'.pool.closures = runtime.pool.closures) : runtime'.Turns := by
  have hlast : runtime'.lastControl = runtime.lastControl := by rw [lastControl, hcontrols, lastControl]
  constructor
  · rw [hcontrols]
    exact h.only
  · rw [hlifecycle, hrunning]
    exact h.unpooled
  · rw [hlast, hlifecycle, hstarted, hrunning]
    exact h.fits
  · rw [hphase, hlast]
    exact h.free
  · rw [hrunning, hcontrols, hlast]
    exact h.opened
  · rw [hlifecycle, hcontrols, hrunning, WorkerPool.AllClosed, hclosures]
    exact h.halted
  · rw [hlifecycle, hcontrols, WorkerPool.AllClosed, hclosures]
    exact h.stopped
  · rw [hclosures, hcontrols]
    exact h.shut

theorem Turns.enter {runtime : Runtime} (h : runtime.Turns) {control : Control}
    (hcontrol : control = .startEntered ∨ control = .stopEntered)
    (hreturned : ∀ earlier ∈ runtime.controls, earlier.returned = true) :
    Turns { runtime with controls := runtime.controls ++ [control] } := by
  have hlast : runtime.lastControl.returned = true := by
    unfold lastControl
    cases hget : runtime.controls.getLast? with
    | none => rfl
    | some last => exact hreturned last (List.mem_of_getLast? hget)
  have hnew : lastControl { runtime with controls := runtime.controls ++ [control] } = control := by
    simp [lastControl]
  constructor
  · rw [List.dropLast_concat]
    exact hreturned
  · exact h.unpooled
  · rw [hnew]
    have hflags := h.fits.returned hlast
    rcases hcontrol with rfl | rfl <;> exact hflags
  · intro hne
    rw [h.free hne] at hlast
    cases hlast
  · intro hrunning
    rcases h.opened hrunning with hmem | hmark
    · exact .inl (List.mem_append_left _ hmem)
    · rw [hmark] at hlast
      cases hlast
  · intro hworkers hmem
    refine h.halted hworkers ?_
    rcases List.mem_append.1 hmem with hmem | hmem
    · exact hmem
    · rw [← List.mem_singleton.1 hmem] at hcontrol
      simp at hcontrol
  · intro hworkers status hsub
    refine h.stopped hworkers status ?_
    rcases pair_concat.1 hsub with hsub | ⟨-, rfl⟩
    · exact hsub
    · simp at hcontrol
  · intro hmem
    obtain ⟨stop, hstop, hsub⟩ := h.shut hmem
    exact ⟨stop, hstop, hsub.trans (List.sublist_append_left _ _)⟩

theorem Turns.move {runtime runtime' : Runtime} (h : runtime.Turns) {past : List Control}
    {old new : Control} (hold : runtime.controls = past ++ [old])
    (hnew : runtime'.controls = past ++ [new])
    (hlifecycle : runtime'.lifecycle = runtime.lifecycle)
    (hreturned : old.returned = false)
    (hunpooled : runtime.lifecycle.workers = 0 → runtime'.pool.running = false)
    (hfits : new.Fits runtime.lifecycle.workers runtime'.started runtime'.pool.running)
    (hfree : runtime'.pool.lifecycle ≠ .free → new = .stopDraining)
    (hopened : runtime'.pool.running = true → runtime.pool.running = true ∨ new = .startMarking)
    (hhalted : runtime.pool.running = true →
      runtime'.pool.running = true ∨ runtime.pool.AllClosed)
    (hclosures : runtime'.pool.closures = runtime.pool.closures)
    (hmark : old = .startMarking → new = .started .success)
    (hstop : old.stopping = true → new.stopping = true)
    (hstopped : ∀ status, new = .stopped status → runtime.pool.running = false) :
    runtime'.Turns := by
  have hlast : runtime.lastControl = old := by simp [lastControl, hold]
  have hnext : runtime'.lastControl = new := by simp [lastControl, hnew]
  have hearlier {control : Control} (hcontrol : control.returned = true)
      (hmem : control ∈ runtime.controls) : control ∈ past := by
    rw [hold] at hmem
    rcases List.mem_append.1 hmem with hmem | hmem
    · exact hmem
    · rw [← List.mem_singleton.1 hmem, hcontrol] at hreturned
      cases hreturned
  have hkeep {control : Control} (hmem : control ∈ past) : control ∈ runtime.controls := by
    rw [hold]
    exact List.mem_append_left _ hmem
  constructor
  · rw [hnew, List.dropLast_concat]
    have honly := h.only
    rwa [hold, List.dropLast_concat] at honly
  · rwa [hlifecycle]
  · rwa [hnext, hlifecycle]
  · rwa [hnext]
  · intro hrunning
    rw [hnew, hnext]
    rcases hopened hrunning with hrunning | hmark'
    · rcases h.opened hrunning with hmem | hmark'
      · exact .inl (List.mem_append_left _ (hearlier rfl hmem))
      · rw [hmark (hlast ▸ hmark')]
        exact .inl (List.mem_append_right _ List.mem_cons_self)
    · exact .inr hmark'
  · intro hworkers hmem
    rw [hlifecycle] at hworkers
    rw [hnew] at hmem
    rw [WorkerPool.AllClosed, hclosures]
    rcases List.mem_append.1 hmem with hmem | hmem
    · rcases h.halted hworkers (hkeep hmem) with hrunning | hall
      · exact hhalted hrunning
      · exact .inr hall
    · rw [← List.mem_singleton.1 hmem] at hfits
      have hstarted := hfits.1 rfl
      exact .inl ((hfits.2 hworkers).trans hstarted)
  · intro hworkers status hsub
    rw [hlifecycle] at hworkers
    rw [hnew] at hsub
    rw [WorkerPool.AllClosed, hclosures]
    rcases pair_concat.1 hsub with hsub | ⟨hmem, hlast'⟩
    · exact h.stopped hworkers status (hold ▸ hsub.trans (List.sublist_append_left _ _))
    · rcases h.halted hworkers (hkeep hmem) with hrunning | hall
      · rw [hstopped status hlast'.symm] at hrunning
        cases hrunning
      · exact hall
  · intro hmem
    rw [hclosures] at hmem
    obtain ⟨control, hcontrol, hsub⟩ := h.shut hmem
    rw [hold] at hsub
    rw [hnew]
    rcases pair_concat.1 hsub with hsub | ⟨hmem, rfl⟩
    · exact ⟨control, hcontrol, hsub.trans (List.sublist_append_left _ _)⟩
    · exact ⟨new, hstop hcontrol, pair_concat.2 (.inr ⟨hmem, rfl⟩)⟩

theorem Turns.pass {runtime runtime' : Runtime} (h : runtime.Turns) {past : List Control}
    {old new : Control} (hold : runtime.controls = past ++ [old])
    (hnew : runtime'.controls = past ++ [new])
    (hlifecycle : runtime'.lifecycle = runtime.lifecycle) (hpool : runtime'.pool = runtime.pool)
    (hreturned : old.returned = false) (hdrain : old ≠ .stopDraining)
    (hfits : new.Fits runtime.lifecycle.workers runtime'.started runtime.pool.running)
    (hmark : old = .startMarking → new = .started .success)
    (hstop : old.stopping = true → new.stopping = true)
    (hstopped : ∀ status, new = .stopped status → runtime.pool.running = false) :
    runtime'.Turns := by
  have hfree : runtime.pool.lifecycle = .free := by
    by_contra hne
    have hlast := h.free hne
    rw [lastControl, hold, List.getLast?_concat] at hlast
    exact hdrain hlast
  refine h.move hold hnew hlifecycle hreturned ?_ ?_ ?_ ?_ ?_ ?_ hmark hstop hstopped
  · rw [hpool]
    exact h.unpooled
  · rwa [hpool]
  · rw [hpool]
    exact fun hne => absurd hfree hne
  · rw [hpool]
    exact .inl
  · rw [hpool]
    exact .inl
  · rw [hpool]

theorem Turns.drain {runtime : Runtime} (h : runtime.Turns)
    (hlast : runtime.lastControl = .stopDraining) {pool' : WorkerPool Part (Option Nat)}
    {action : PoolAction Part (Option Nat)} (hpool : runtime.pool.Step action pool')
    (hrunning : pool'.running = runtime.pool.running) :
    Turns { runtime with pool := pool' } := by
  have hall (hclosed : runtime.pool.AllClosed) : pool'.AllClosed := by
    intro closed hmem
    rcases hpool.closures with hsame | ⟨index, -, hset⟩
    · exact hclosed closed (hsame ▸ hmem)
    · rw [hset] at hmem
      rcases List.mem_or_eq_of_mem_set hmem with hmem | rfl
      · exact hclosed closed hmem
      · rfl
  have hup : runtime.pool.running = true := by
    have hfits := h.fits
    rwa [hlast] at hfits
  have hstarted : .started .success ∈ runtime.controls := by
    rcases h.opened hup with hmem | hmark
    · exact hmem
    · rw [hmark] at hlast
      cases hlast
  constructor
  · exact h.only
  · intro hworkers
    exact hrunning.trans (h.unpooled hworkers)
  · show runtime.lastControl.Fits _ runtime.started pool'.running
    rw [hrunning]
    exact h.fits
  · exact fun _ => hlast
  · exact fun _ => .inl hstarted
  · exact fun _ _ => .inl (hrunning.trans hup)
  · exact fun hworkers status hsub => hall (h.stopped hworkers status hsub)
  · intro _
    refine ⟨.stopDraining, rfl, ?_⟩
    obtain ⟨past, hpast⟩ : ∃ past, runtime.controls = past ++ [.stopDraining] := by
      unfold lastControl at hlast
      cases hget : runtime.controls.getLast? with
      | none =>
        rw [hget] at hlast
        cases hlast
      | some last =>
        rw [hget] at hlast
        have hdraining : last = .stopDraining := hlast
        exact ⟨_, hdraining ▸ (List.dropLast_append_getLast? last hget).symm⟩
    show List.Sublist _ runtime.controls
    rw [hpast] at hstarted ⊢
    refine pair_concat.2 (.inr ⟨?_, rfl⟩)
    simpa using hstarted

theorem setControl_last {runtime : Runtime} {past : List Control} {old : Control}
    (hold : runtime.controls = past ++ [old]) (new : Control) :
    runtime.controls.set past.length new = past ++ [new] := by
  rw [hold, List.set_append_right _ _ (Nat.le_refl _), Nat.sub_self]
  rfl

theorem startCheck_cases (runtime : Runtime) :
    (∃ status : Status, status.ok = false ∧ runtime.startCheck = .started status) ∨
      runtime.started = false ∧ runtime.startCheck = .startLoading := by
  unfold startCheck
  dsimp only
  split
  · rename_i hvalid
    exact .inl ⟨_, by simpa using hvalid, rfl⟩
  · split
    · exact .inl ⟨_, rfl, rfl⟩
    · rename_i hstarted
      exact .inr ⟨by simpa using hstarted, rfl⟩

theorem startLoad_cases (runtime : Runtime) :
    ∃ σ, (runtime.startLoad.1 = { runtime with observatory := σ }) ∧
      ((∃ status : Status, status.ok = false ∧ runtime.startLoad.2 = .started status) ∨
        runtime.startLoad.2 = .startSpawning) := by
  unfold startLoad
  split
  · refine ⟨_, rfl, ?_⟩
    dsimp only
    split
    · rename_i hfailed
      rw [Bool.and_eq_true, Bool.not_eq_true'] at hfailed
      exact .inl ⟨_, hfailed.1, rfl⟩
    · exact .inr rfl
  · exact ⟨_, rfl, .inr rfl⟩

theorem Turns.step {runtime runtime' : Runtime} {action : Action} (h : runtime.Turns)
    (hsound : runtime.pool.Sound) (hstep : InTurn runtime action runtime') : runtime'.Turns := by
  obtain ⟨hstep, hturn⟩ := hstep
  have hlast {ticket : Nat} {control : Control}
      (hcontrol : runtime.controls[ticket]? = some control) (hreturned : control.returned = false) :
      ∃ past, runtime.controls = past ++ [control] ∧ ticket = past.length ∧
        control.Fits runtime.lifecycle.workers runtime.started runtime.pool.running := by
    obtain ⟨past, hpast, hticket⟩ := h.last hcontrol hreturned
    refine ⟨past, hpast, hticket, ?_⟩
    have hfits := h.fits
    rwa [lastControl, hpast, List.getLast?_concat] at hfits
  cases hstep with
  | call | checkRefused _ _ _ | check _ _ _ | applyInline _ _ _ | applyDeclarations _ _ _
  | arrive _ _ | complete _ _ | deny _ _ _ _ | leave _ _ => exact h.quiet rfl rfl rfl rfl rfl rfl
  | enlist _ _ hpool | push _ _ hpool | refuse _ _ hpool | pop hpool | exit hpool | handle hpool _
  | signal _ _ hpool | finish hpool =>
    obtain ⟨hrunning, hphase, hclosures⟩ := hpool.routine rfl
    exact h.quiet rfl rfl rfl hrunning hphase hclosures
  | enter hcontrol =>
    obtain ⟨hcancel, hreturned⟩ := hturn _ rfl
    refine h.enter ?_ hreturned
    simpa [hcancel] using hcontrol
  | startCheck hcontrol =>
    obtain ⟨past, hpast, rfl, hfits⟩ := hlast hcontrol rfl
    rcases runtime.startCheck_cases with ⟨status, hfailed, hcheck⟩ | ⟨hstarted, hcheck⟩
    · refine h.pass hpast (setControl_last hpast _) rfl rfl rfl (by simp) ?_ (by simp)
        (by simp [Control.stopping]) (by simp [hcheck])
      rw [hcheck]
      exact ⟨fun hok => by simp [hfailed] at hok, hfits⟩
    · refine h.pass hpast (setControl_last hpast _) rfl rfl rfl (by simp) ?_ (by simp)
        (by simp [Control.stopping]) (by simp [hcheck])
      rw [hcheck]
      refine ⟨hstarted, ?_⟩
      by_cases hworkers : runtime.lifecycle.workers = 0
      · exact h.unpooled hworkers
      · exact (hfits hworkers).trans hstarted
  | startLoad hcontrol =>
    obtain ⟨past, hpast, rfl, hfits⟩ := hlast hcontrol rfl
    obtain ⟨σ, hload, hnext⟩ := runtime.startLoad_cases
    rw [hload]
    refine h.pass hpast (setControl_last hpast _) rfl rfl rfl (by simp) ?_ (by simp)
      (by simp [Control.stopping]) ?_
    · rcases hnext with ⟨status, hfailed, hnext⟩ | hnext
      · rw [hnext]
        exact ⟨fun hok => by simp [hfailed] at hok, fun _ => hfits.2.trans hfits.1.symm⟩
      · rw [hnext]
        exact hfits
    · rcases hnext with ⟨status, -, hnext⟩ | hnext <;> simp [hnext]
  | startInline hcontrol hworkers =>
    obtain ⟨past, hpast, rfl, hfits⟩ := hlast hcontrol rfl
    exact h.pass hpast (setControl_last hpast _) rfl rfl rfl (by simp)
      ⟨hfits.1, fun hpooled => absurd hworkers hpooled⟩ (by simp) (by simp [Control.stopping])
      (by simp)
  | startRefused hcontrol hworkers hfree hrunning =>
    obtain ⟨past, hpast, rfl, hfits⟩ := hlast hcontrol rfl
    rw [hfits.2] at hrunning
    cases hrunning
  | spawn hcontrol hworkers hpool =>
    obtain ⟨past, hpast, rfl, hfits⟩ := hlast hcontrol rfl
    cases hpool with
    | start hfree hidle =>
      refine h.move hpast (setControl_last hpast _) rfl rfl (fun hzero => absurd hzero hworkers)
        ⟨hfits.1, fun _ => rfl⟩ (fun hne => absurd hfree hne) (fun _ => .inr rfl)
        (fun _ => .inl rfl) ?_ (by simp) (by simp [Control.stopping]) (by simp)
      simp [WorkerPool.closures, WorkerPool.spawned]
  | startMark hcontrol =>
    obtain ⟨past, hpast, rfl, hfits⟩ := hlast hcontrol rfl
    exact h.pass hpast (setControl_last hpast _) rfl rfl rfl (by simp)
      ⟨fun _ => rfl, hfits.2⟩ (fun _ => rfl) (by simp [Control.stopping]) (by simp)
  | stopIdle hcontrol hidle =>
    obtain ⟨past, hpast, rfl, hfits⟩ := hlast hcontrol rfl
    refine h.pass hpast (setControl_last hpast _) rfl rfl rfl (by simp) ?_ (by simp)
      (by simp [Control.stopping]) (by simp)
    rcases hidle with hworkers | ⟨-, hrunning⟩
    · exact h.unpooled hworkers
    · exact hrunning
  | stopDrain hcontrol hworkers hpool =>
    obtain ⟨past, hpast, rfl, hfits⟩ := hlast hcontrol rfl
    cases hpool with
    | shutdown hfree hrunning =>
      exact h.move hpast (setControl_last hpast _) rfl rfl (fun hzero => absurd hzero hworkers)
        hrunning (fun _ => rfl) (fun _ => .inl hrunning) .inl rfl (by simp)
        (by simp [Control.stopping]) (by simp)
  | cancelIdle hcontrol _ | cancelDrain hcontrol _ _ | cancelHalt hcontrol _ =>
    obtain ⟨past, hpast, rfl, hfits⟩ := hlast hcontrol rfl
    exact hfits.elim
  | close hcontrol hdraining hpool | discard hcontrol hdraining hpool
  | join hcontrol hdraining hpool =>
    obtain ⟨past, hpast, rfl, hfits⟩ := hlast hcontrol (by rcases hdraining with rfl | rfl <;> rfl)
    rcases hdraining with rfl | rfl
    · refine h.drain (by simp [lastControl, hpast]) hpool ?_
      cases hpool
      rfl
    · exact hfits.elim
  | stopHalt hcontrol hpool =>
    obtain ⟨past, hpast, rfl, hfits⟩ := hlast hcontrol rfl
    cases hpool with
    | halt hjoining =>
      refine h.move hpast (setControl_last hpast _) rfl rfl (fun _ => rfl) rfl
        (fun hne => absurd rfl hne) (fun hrunning => by cases hrunning) (fun _ => .inr ?_) rfl
        (by simp) (fun _ => rfl) (by simp)
      exact hsound.joining hjoining
  | persist hcontrol hpersists hwrite =>
    obtain ⟨past, hpast, rfl, hfits⟩ := hlast hcontrol rfl
    exact h.pass hpast (setControl_last hpast _) rfl rfl rfl (by simp) hfits (by simp)
      (fun _ => rfl) (by simp)
  | skipPersist hcontrol hpersists =>
    obtain ⟨past, hpast, rfl, hfits⟩ := hlast hcontrol rfl
    exact h.pass hpast (setControl_last hpast _) rfl rfl rfl (by simp) hfits (by simp)
      (fun _ => rfl) (by simp)
  | stopClear hcontrol =>
    obtain ⟨past, hpast, rfl, hfits⟩ := hlast hcontrol rfl
    exact h.pass hpast (setControl_last hpast _) rfl rfl rfl (by simp) ⟨rfl, hfits⟩ (by simp)
      (fun _ => rfl) (fun _ _ => hfits)

theorem run_turns {options : LifecycleConfig} {config : RuntimeConfig} {files : FileSystem}
    {runtime : Runtime} (h : Run InTurn (make options config files) labels runtime) :
    runtime.Turns := by
  refine Run.invariant (fun _ runtime => runtime.Turns) h (make_turns options config files)
    fun hrun hturns hstep => hturns.step ?_ hstep
  exact (WorkerPool.run_sound (run_pool (hrun.mono fun _ _ _ hstep => hstep.1))).1

theorem Step.refused {runtime runtime' : Runtime} {action : Action}
    (h : Step runtime action runtime') {ticket : Nat} {new : Call} {status : Status}
    (hnew : runtime'.calls[ticket]? = some new) (hphase : new.phase = .returned status)
    (hfailed : status.ok = false) :
    ∃ call : Call, runtime.calls[ticket]? = some call ∧
      (call.phase = .returned status ∨ runtime.started = false ∨
        (∃ routed parts, call.phase = .routing (routed :: parts) ∧ runtime.pool.running = false) ∨
        ∃ index part parts worker, call.phase = .pushing index part parts ∧
          runtime.pool.workers[index]? = some worker ∧ worker.queue.closed = true) := by
  have hset {other : Nat} {call changed : Call} (hcall : runtime.calls[other]? = some call)
      (hchanged : (runtime.calls.set other changed)[ticket]? = some new) :
      (ticket = other ∧ new = changed) ∨ runtime.calls[ticket]? = some new := by
    rw [List.getElem?_set] at hchanged
    split at hchanged
    · rename_i heq
      subst heq
      rw [if_pos (List.getElem?_eq_some_iff.1 hcall).1] at hchanged
      exact .inl ⟨rfl, (Option.some.inj hchanged).symm⟩
    · exact .inr hchanged
  cases h with
  | call =>
    rw [List.getElem?_append] at hnew
    split at hnew
    · exact ⟨new, hnew, .inl hphase⟩
    · have hcall := List.mem_singleton.1 (List.mem_of_getElem? hnew)
      rw [hcall] at hphase
      cases hphase
  | checkRefused hcall hentered hstarted =>
    rcases hset hcall hnew with ⟨rfl, rfl⟩ | hsame
    · exact ⟨_, hcall, .inr (.inl hstarted)⟩
    · exact ⟨new, hsame, .inl hphase⟩
  | check hcall hentered hstarted =>
    rename_i other call
    rcases hset hcall hnew with ⟨rfl, rfl⟩ | hsame
    · rcases call.enter_cases runtime.lifecycle.workers ticket with ⟨-, henter⟩ |
        ⟨-, -, -, henter⟩ | ⟨-, -, -, henter⟩ | ⟨-, -, henter⟩ <;>
      · rw [henter] at hphase
        cases hphase
    · exact ⟨new, hsame, .inl hphase⟩
  | applyInline hcall hcurrent _ | applyDeclarations hcall hcurrent _ | complete hcall hcurrent
  | enlist hcall hcurrent _ | push hcall hcurrent _ =>
    rcases hset hcall hnew with ⟨rfl, rfl⟩ | hsame
    · cases hphase
    · exact ⟨new, hsame, .inl hphase⟩
  | arrive hcall hcurrent =>
    rcases hset hcall hnew with ⟨rfl, rfl⟩ | hsame
    · dsimp only at hphase
      split at hphase <;> cases hphase
    · exact ⟨new, hsame, .inl hphase⟩
  | leave hcall hcurrent =>
    rcases hset hcall hnew with ⟨rfl, rfl⟩ | hsame
    · cases hphase
      cases hfailed
    · exact ⟨new, hsame, .inl hphase⟩
  | signal hcall hrest hpool =>
    rcases hset hcall hnew with ⟨rfl, rfl⟩ | hsame
    · exact ⟨_, hcall, .inl hphase⟩
    · exact ⟨new, hsame, .inl hphase⟩
  | deny hcall hcurrent hfree hidle =>
    rcases hset hcall hnew with ⟨rfl, rfl⟩ | hsame
    · exact ⟨_, hcall, .inr (.inr (.inl ⟨_, _, hcurrent, hidle⟩))⟩
    · exact ⟨new, hsame, .inl hphase⟩
  | refuse hcall hcurrent hpool =>
    rcases hset hcall hnew with ⟨rfl, rfl⟩ | hsame
    · cases hpool with
      | refuse hadmitted hworker hpush =>
        exact ⟨_, hcall, .inr (.inr (.inr ⟨_, _, _, _, hcurrent, hworker,
          (BoundedQueue.push_false hpush).1⟩))⟩
    · exact ⟨new, hsame, .inl hphase⟩
  | startLoad hcontrol =>
    refine ⟨new, ?_, .inl hphase⟩
    rw [← hnew, ← runtime.startLoad_frame.2]
    rfl
  | _ => exact ⟨new, hnew, .inl hphase⟩

/-- The runtime works for the submissions made since an earlier state. -/
structure Serves (runtime since : Runtime) : Prop where
  started : runtime.started = true
  alive : runtime.lifecycle.workers ≠ 0 → ∀ worker ∈ runtime.pool.workers,
    worker.thread ≠ .absent ∧ worker.thread ≠ .exited
  unrefused : ∀ (ticket : Nat) (call : Call) (status : Status), since.calls.length ≤ ticket →
    runtime.calls[ticket]? = some call → call.phase = .returned status → status.ok = true
  pushes : runtime.lifecycle.workers ≠ 0 → ∀ worker ∈ runtime.pool.workers,
    worker.queue.items.length < worker.queue.capacity → ∀ part,
      ∃ queue, worker.queue.push part = some (queue, true)

/-- As long as no lifecycle call is made, the runtime works for every new submission. -/
def AcceptsWork (runtime : Runtime) : Prop :=
  ∀ labels later, Run Step runtime labels later → (∀ control, .enter control ∉ labels) →
    later.Serves runtime

/-- The runtime is up, its queues are open and no lifecycle call is under way. -/
structure Up (since runtime : Runtime) : Prop where
  controls : ∀ control ∈ runtime.controls, control.returned = true
  started : runtime.started = true
  pool : runtime.lifecycle.workers ≠ 0 → runtime.pool.running = true ∧
    runtime.pool.lifecycle = .free ∧ true ∉ runtime.pool.closures
  unrefused : ∀ (ticket : Nat) (call : Call) (status : Status), since.calls.length ≤ ticket →
    runtime.calls[ticket]? = some call → call.phase = .returned status → status.ok = true

theorem Up.frame {since runtime runtime' : Runtime} {action : Action} (h : since.Up runtime)
    (hstep : Step runtime action runtime') (hcontrol : ∀ control, action ≠ .enter control) :
    runtime'.controls = runtime.controls ∧ runtime'.started = runtime.started ∧
      runtime'.pool.running = runtime.pool.running ∧
      runtime'.pool.lifecycle = runtime.pool.lifecycle ∧
      runtime'.pool.closures = runtime.pool.closures := by
  have hidle {ticket : Nat} {control : Control}
      (hfound : runtime.controls[ticket]? = some control) (hreturned : control.returned = false) :
      False := by
    rw [h.controls control (List.mem_of_getElem? hfound)] at hreturned
    cases hreturned
  cases hstep with
  | call | checkRefused _ _ _ | check _ _ _ | applyInline _ _ _ | applyDeclarations _ _ _
  | arrive _ _ | complete _ _ | deny _ _ _ _ | leave _ _ => exact ⟨rfl, rfl, rfl, rfl, rfl⟩
  | enlist _ _ hpool | push _ _ hpool | refuse _ _ hpool | pop hpool | exit hpool | handle hpool _
  | signal _ _ hpool | finish hpool =>
    obtain ⟨hrunning, hphase, hclosures⟩ := hpool.routine rfl
    exact ⟨rfl, rfl, hrunning, hphase, hclosures⟩
  | enter _ => exact absurd rfl (hcontrol _)
  | close hfound hdraining _ | discard hfound hdraining _ | join hfound hdraining _ =>
    exact (hidle hfound (by rcases hdraining with rfl | rfl <;> rfl)).elim
  | startCheck hfound | startLoad hfound | startInline hfound _ | startRefused hfound _ _ _
  | spawn hfound _ _ | startMark hfound | stopIdle hfound _ | stopDrain hfound _ _
  | cancelIdle hfound _ | cancelDrain hfound _ _ | stopHalt hfound _ | cancelHalt hfound _
  | persist hfound _ _ | skipPersist hfound _ | stopClear hfound => exact (hidle hfound rfl).elim

theorem Kept.unrouted {runtime : Runtime} {options : LifecycleConfig}
    (h : runtime.Kept options labels) (hworkers : options.workers = 0) {ticket : Nat} {call : Call}
    (hcall : runtime.calls[ticket]? = some call) :
    (∀ routed parts, call.phase ≠ .routing (routed :: parts)) ∧
      ∀ index part parts, call.phase ≠ .pushing index part parts := by
  have hfollows := h.calls ticket call hcall
  refine ⟨fun routed parts hphase => ?_, fun index part parts hphase => ?_⟩ <;>
  · simp only [Call.Follows, hphase] at hfollows
    have hparts := hfollows.parts
    rw [hworkers, partsOf_zero] at hparts
    simp at hparts

theorem Up.step {since runtime runtime' : Runtime} {action : Action} {options : LifecycleConfig}
    (h : since.Up runtime) (hkept : runtime.Kept options labels)
    (hstep : Step runtime action runtime') (hcontrol : ∀ control, action ≠ .enter control) :
    since.Up runtime' := by
  obtain ⟨hcontrols, hstarted, hrunning, hphase, hclosures⟩ := h.frame hstep hcontrol
  constructor
  · rw [hcontrols]
    exact h.controls
  · rw [hstarted]
    exact h.started
  · rw [hstep.lifecycle, hrunning, hphase, hclosures]
    exact h.pool
  · intro ticket new status hge hnew hreturned
    by_contra hfailed
    rw [Bool.not_eq_true] at hfailed
    obtain ⟨call, hcall, hcause⟩ := hstep.refused hnew hreturned hfailed
    rcases hcause with hsame | hidle | ⟨routed, parts, hrouting, hidle⟩ |
      ⟨index, part, parts, worker, hpushing, hworker, hclosed⟩
    · rw [h.unrefused ticket call status hge hcall hsame] at hfailed
      cases hfailed
    · rw [h.started] at hidle
      cases hidle
    · by_cases hworkers : runtime.lifecycle.workers = 0
      · exact (hkept.unrouted (hkept.options ▸ hworkers) hcall).1 _ _ hrouting
      · rw [(h.pool hworkers).1] at hidle
        cases hidle
    · by_cases hworkers : runtime.lifecycle.workers = 0
      · exact (hkept.unrouted (hkept.options ▸ hworkers) hcall).2 _ _ _ hpushing
      · exact (h.pool hworkers).2.2 (List.mem_map.2 ⟨worker, List.mem_of_getElem? hworker, hclosed⟩)

theorem Up.serves {since runtime : Runtime} (h : since.Up runtime) (hsound : runtime.pool.Sound) :
    runtime.Serves since := by
  have hopen (hworkers : runtime.lifecycle.workers ≠ 0) {worker : Worker Part (Option Nat)}
      (hmem : worker ∈ runtime.pool.workers) : worker.queue.closed = false := by
    by_contra hclosed
    rw [Bool.not_eq_false] at hclosed
    exact (h.pool hworkers).2.2 (List.mem_map.2 ⟨worker, hmem, hclosed⟩)
  refine ⟨h.started, fun hworkers worker hmem => ⟨?_, fun hexited => ?_⟩, h.unrefused,
    fun hworkers worker hmem hroom part => ?_⟩
  · obtain ⟨index, hworker⟩ := List.getElem?_of_mem hmem
    have hphase := hsound.phase index worker hworker
    rw [(h.pool hworkers).1, (h.pool hworkers).2.1] at hphase
    exact hphase
  · have hclosed := (hsound.exited worker hmem hexited).1
    rw [hopen hworkers hmem] at hclosed
    cases hclosed
  · exact BoundedQueue.push_open (hopen hworkers hmem) hroom part

theorem Up.acceptsWork {options : LifecycleConfig} {config : RuntimeConfig} {files : FileSystem}
    {runtime : Runtime} (h : Run Step (make options config files) labels runtime)
    (hup : runtime.Up runtime) : runtime.AcceptsWork := by
  intro more later hlater hlabels
  have hinv : runtime.Up later := by
    revert hlabels
    refine Run.invariant (fun more later => (∀ control, .enter control ∉ more) → runtime.Up later)
      hlater (fun _ => hup) fun hrun hinv hstep hlabels => ?_
    refine (hinv fun control hmem => hlabels control (List.mem_append_left _ hmem)).step
      (run_kept (h.append hrun)) hstep fun control haction => ?_
    exact hlabels control (List.mem_append_right _ (List.mem_singleton.2 haction.symm))
  exact hinv.serves (WorkerPool.run_sound (run_pool (h.append hlater))).1

theorem not_acceptsWork {runtime : Runtime} (hsound : runtime.pool.Sound)
    (hworkers : runtime.lifecycle.workers ≠ 0) (hstarted : runtime.started = true)
    (hrunning : runtime.pool.running = true) (hfree : runtime.pool.lifecycle = .free)
    (hall : runtime.pool.AllClosed) : ¬runtime.AcceptsWork := by
  intro haccepts
  let batch : List ParsedRecord := [.observation { source := [] }]
  let ticket := runtime.calls.length
  let having (call : Call) (pool' : WorkerPool Part (Option Nat)) : Runtime :=
    { runtime with calls := runtime.calls ++ [call], pool := pool' }
  have hget (call : Call) (pool' : WorkerPool Part (Option Nat)) :
      (having call pool').calls[ticket]? = some call := by
    simp [having, ticket]
  have hset (call changed : Call) :
      (runtime.calls ++ [call]).set ticket changed = runtime.calls ++ [changed] := by
    simp [ticket]
  obtain ⟨route, part, rest, hparts⟩ : ∃ route part rest,
      partsOf runtime.lifecycle.workers ticket batch = (route, part) :: rest := by
    have hmem : (routeOf runtime.lifecycle.workers [], Part.mk ticket batch) ∈
        partsOf runtime.lifecycle.workers ticket batch := by
      refine mem_partsOf.2 ⟨Nat.mod_lt _ (Nat.pos_of_ne_zero hworkers), ?_⟩
      simp [recordsFor, batch, ParsedRecord.route]
    obtain ⟨⟨route, part⟩, rest, hparts⟩ := List.exists_cons_of_ne_nil (List.ne_nil_of_mem hmem)
    exact ⟨route, part, rest, hparts⟩
  obtain ⟨call, henter, hphase⟩ : ∃ call : Call,
      Call.enter { batch := batch } runtime.lifecycle.workers ticket = call ∧
        call.phase = .routing ((route, part) :: rest) := by
    refine ⟨_, rfl, ?_⟩
    have hdeclarations : declarationsOf runtime.lifecycle.workers batch = [] := rfl
    simp [Call.enter, hworkers, hdeclarations, hparts]
  obtain ⟨worker, hworker⟩ : ∃ worker,
      runtime.pool.workers[route % runtime.pool.workers.length]? = some worker :=
    ⟨_, List.getElem?_eq_getElem (Nat.mod_lt _ hsound.nonempty)⟩
  have hchecked : Step (having { batch := batch } runtime.pool) (.check ticket)
      (having call runtime.pool) := by
    have hstep := Step.checked (hget { batch := batch } runtime.pool) rfl hstarted henter
    simpa only [setCall, having, hset] using hstep
  let site := route % runtime.pool.workers.length
  let pushing : Call := { call with phase := .pushing site part rest }
  let admitted := { runtime.pool with admitted := (site, part) :: runtime.pool.admitted }
  let failed : Call :=
    { pushing with phase := .returned (.of .cancelled "worker pool queue is closed") }
  have hadmitted : Step (having call runtime.pool) (.submit ticket (.enlist route part))
      (having pushing admitted) := by
    have hstep := Step.enlist (hget call runtime.pool) hphase (.enlist hfree hrunning)
    simpa only [setCall, having, hset] using hstep
  have hrefused : Step (having pushing admitted) (.submit ticket (.refuse site part))
      (having failed runtime.pool) := by
    have hwaiting : admitted.admitted = [] ++ (site, part) :: runtime.pool.admitted := rfl
    have hpool : admitted.Step (.refuse site part) runtime.pool :=
      .refuse hwaiting hworker (BoundedQueue.push_closed (hall.worker hworker) part)
    have hstep := Step.refuse (hget pushing admitted) rfl hpool
    simpa only [setCall, having, hset] using hstep
  have hserves := haccepts _ _ (.cons .call (.cons hchecked (.cons hadmitted (.cons hrefused .nil))))
    (by simp)
  have hok := hserves.unrefused ticket failed _ (Nat.le_refl _) (hget failed runtime.pool) rfl
  cases hok

/-- Where the lifecycle calls are made in turn and the last one was a successful `start`, the
runtime accepts work if and only if no earlier `stop` followed a successful `start`. -/
theorem acceptsWork_iff {options : LifecycleConfig} {config : RuntimeConfig} {files : FileSystem}
    {labels : List Action} {runtime : Runtime}
    (h : Run InTurn (make options config files) labels runtime)
    (hlast : runtime.controls.getLast? = some (.started .success)) :
    runtime.AcceptsWork ↔ options.workers = 0 ∨
      ¬∃ status, [.started .success, .stopped status].Sublist runtime.controls := by
  have hturns := run_turns h
  have hrun : Run Step (make options config files) labels runtime := h.mono fun _ _ _ hstep => hstep.1
  have hsound := (WorkerPool.run_sound (run_pool hrun)).1
  have hoptions := (run_kept hrun).options
  have hcurrent : runtime.lastControl = .started .success := by simp [lastControl, hlast]
  have hfits := hturns.fits
  rw [hcurrent] at hfits
  have hstarted := hfits.1 rfl
  have hfree : runtime.pool.lifecycle = .free := by
    by_contra hne
    have hdrain := hturns.free hne
    rw [hcurrent] at hdrain
    cases hdrain
  have hreturned : ∀ control ∈ runtime.controls, control.returned = true := by
    intro control hmem
    rw [← List.dropLast_append_getLast? _ hlast] at hmem
    rcases List.mem_append.1 hmem with hmem | hmem
    · exact hturns.only control hmem
    · rw [List.mem_singleton.1 hmem]
      rfl
  constructor
  · intro haccepts
    by_cases hworkers : options.workers = 0
    · exact .inl hworkers
    · refine .inr fun ⟨status, hsub⟩ => ?_
      rw [← hoptions] at hworkers
      exact not_acceptsWork hsound hworkers hstarted ((hfits.2 hworkers).trans hstarted) hfree
        (hturns.stopped hworkers status hsub) haccepts
  · intro hnever
    refine Up.acceptsWork hrun ⟨hreturned, hstarted, fun hworkers => ?_, ?_⟩
    · refine ⟨(hfits.2 hworkers).trans hstarted, hfree, fun hshut => ?_⟩
      obtain ⟨control, hstopping, hsub⟩ := hturns.shut hshut
      rcases hnever with hzero | hnever
      · exact hworkers (hoptions ▸ hzero)
      · have hback := hreturned control (hsub.subset (by simp))
        cases control with
        | stopped status => exact hnever ⟨status, hsub⟩
        | started status | cancelled => cases hstopping
        | _ => cases hback
    · intro ticket call status hge hcall
      rw [List.getElem?_eq_none hge] at hcall
      cases hcall

theorem run_smallStart_inTurn :
    Run InTurn (make smallConfig { policy := makeDefaultPolicy } fun _ => none)
      (startLabels smallConfig) smallStart := by
  refine run_begun_of (fun hstep _ henter => ⟨hstep, fun control heq => ?_⟩) (by decide +kernel)
    (.inr rfl) _
  obtain ⟨rfl, hnone⟩ := henter control heq
  exact ⟨by simp, by simp [hnone]⟩

/-- The small runtime is stopped and started again. -/
def restartLabels : List Action :=
  [.enter .stopEntered, .manage 1 (.shutdown false), .manage 1 (.close 0), .work (.exit 0),
    .manage 1 (.join 0), .manage 1 .halt, .advance 1, .advance 1, .enter .startEntered,
    .advance 2, .advance 2, .manage 2 .start, .advance 2]

set_option maxRecDepth 2000 in
theorem run_restart :
    ∃ runtime, Run InTurn smallStart restartLabels runtime ∧
      runtime.controls = [.started .success, .stopped .success, .started .success] ∧
      runtime.started = true ∧ runtime.pool.running = true ∧ runtime.pool.lifecycle = .free ∧
      runtime.pool.closures = [true] ∧ runtime.lifecycle.workers = 1 :=
  have hquiet {runtime runtime' : Runtime} {action : Action} (h : Step runtime action runtime')
      (haction : ∀ control, action ≠ .enter control) : InTurn runtime action runtime' :=
    ⟨h, fun control heq => absurd heq (haction control)⟩
  have henter {runtime : Runtime} {control : Control}
      (hcontrol : control = .startEntered ∨ control = .stopEntered)
      (hreturned : ∀ earlier ∈ runtime.controls, earlier.returned = true) :
      InTurn runtime (.enter control) { runtime with controls := runtime.controls ++ [control] } := by
    refine ⟨.enter ?_, fun other heq => ⟨?_, hreturned⟩⟩
    · rcases hcontrol with rfl | rfl <;> simp
    · obtain rfl : control = other := by simpa using heq
      rcases hcontrol with rfl | rfl <;> simp
  ⟨_, .cons (henter (.inr rfl) (by decide +kernel)) <|
    .cons (hquiet (.stopDrain rfl (by decide) (.shutdown rfl rfl)) (by simp)) <|
    .cons (hquiet (.close rfl (.inl rfl) (.close rfl rfl)) (by simp)) <|
    .cons (hquiet (.exit (.exit rfl rfl rfl)) (by simp)) <|
    .cons (hquiet (.join rfl (.inl rfl) (.join rfl rfl rfl)) (by simp)) <|
    .cons (hquiet (.stopHalt rfl (.halt rfl)) (by simp)) <|
    .cons (hquiet (.skipPersist rfl rfl) (by simp)) <|
    .cons (hquiet (.stopClear rfl) (by simp)) <|
    .cons (henter (.inl rfl) (by decide +kernel)) <|
    .cons (hquiet (.startChecked rfl (by decide +kernel) rfl) (by simp)) <|
    .cons (hquiet (.startLoaded rfl rfl) (by simp)) <|
    .cons (hquiet (.spawn rfl (by decide) (.start rfl rfl)) (by simp)) <|
    .cons (hquiet (.startMark rfl) (by simp)) .nil, rfl, rfl, rfl, rfl, rfl, rfl⟩

/-- A runtime accepts work after its first `start`. -/
theorem acceptsWork_small : smallStart.AcceptsWork :=
  (acceptsWork_iff run_smallStart_inTurn rfl).2 <| .inr fun ⟨status, hsub⟩ => by
    have hlength : 2 ≤ 1 := hsub.length_le
    omega

/-- A runtime that was stopped and successfully started again refuses what is submitted to it. -/
theorem acceptsWork_fails :
    ∃ runtime, Run InTurn (make smallConfig { policy := makeDefaultPolicy } fun _ => none)
        (startLabels smallConfig ++ restartLabels) runtime ∧
      runtime.controls.getLast? = some (.started .success) ∧ ¬runtime.AcceptsWork := by
  obtain ⟨runtime, hrun, hcontrols, hstarted, hrunning, hfree, hclosures, hworkers⟩ := run_restart
  have hall := run_smallStart_inTurn.append hrun
  refine ⟨runtime, hall, by rw [hcontrols]; rfl, not_acceptsWork ?_ ?_ hstarted hrunning hfree ?_⟩
  · exact (WorkerPool.run_sound (run_pool (hall.mono fun _ _ _ hstep => hstep.1))).1
  · rw [hworkers]
    simp
  · intro closed hmem
    rw [hclosures] at hmem
    exact List.mem_singleton.1 hmem

end Runtime

end LinkObservatory
