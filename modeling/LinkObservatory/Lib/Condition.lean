import LinkObservatory.Lib.Population

namespace Condition
set_option autoImplicit true

/-- What a thread is to a condition variable, on which threads sleep until units are there. A claiming
thread looks at the units before it sleeps, and a notifying one is about to wake a sleeper. -/
inductive Role
  | asleep
  | claiming
  | notifying
  | elsewhere
deriving DecidableEq, Repr

/-- One for a thread that will look at a unit or pass it on. -/
def Role.attends : Role → Nat
  | claiming | notifying => 1
  | asleep | elsewhere => 0

variable (role : τ → Role)

def attending (threads : List τ) : Nat := Population.weight (fun thread => (role thread).attends) threads

/-- No wake-up is lost: while a thread sleeps, every unit that is available is attended to. -/
def Attended (threads : List τ) (units : Nat) : Prop :=
  ∀ thread ∈ threads, role thread = .asleep → units ≤ attending role threads

variable {role}

theorem attended_nil (units : Nat) : Attended role [] units := by
  intro thread hmem
  cases hmem

theorem attending_append (first second : List τ) :
    attending role (first ++ second) = attending role first + attending role second :=
  Population.weight_append _ first second

theorem attending_set {threads : List τ} {index : Nat} (hold : threads[index]? = some old)
    (new : τ) : attending role (threads.set index new) + (role old).attends =
      attending role threads + (role new).attends :=
  Population.weight_set _ threads hold new

theorem attended_of_unit {threads : List τ} : Attended role threads 0 := by
  intro _ _ _
  exact Nat.zero_le _

theorem attended_of_awake {threads : List τ} (h : ∀ thread ∈ threads, role thread ≠ .asleep)
    (units : Nat) : Attended role threads units := by
  intro thread hmem hasleep
  exact absurd hasleep (h thread hmem)

theorem Attended.mono {threads : List τ} (h : Attended role threads units)
    (hle : units' ≤ units) : Attended role threads units' := by
  intro thread hmem hasleep
  exact hle.trans (h thread hmem hasleep)

/-- A thread arrives. -/
theorem Attended.append {threads : List τ} (h : Attended role threads units)
    (hnew : role new ≠ .asleep) : Attended role (threads ++ [new]) units := by
  intro thread hmem hasleep
  rw [attending_append]
  rcases List.mem_append.1 hmem with hold | hlast
  · exact (h thread hold hasleep).trans (Nat.le_add_right _ _)
  · rw [List.mem_singleton.1 hlast] at hasleep
    exact absurd hasleep hnew

theorem Attended.set {threads : List τ} {index : Nat} (h : Attended role threads units)
    (hold : threads[index]? = some old) (hnew : role new ≠ .asleep)
    (hpaid : units' + (role old).attends ≤ units + (role new).attends) :
    Attended role (threads.set index new) units' := by
  intro thread hmem hasleep
  have hcount : attending role (threads.set index new) + (role old).attends =
      attending role threads + (role new).attends := attending_set hold new
  rcases List.mem_or_eq_of_mem_set hmem with hother | rfl
  · have hbefore := h thread hother hasleep
    omega
  · exact absurd hasleep hnew

/-- What the threads become is the same to the condition. -/
theorem Attended.map {threads : List τ} (h : Attended role threads units) {change : τ → τ}
    (hsame : ∀ thread, role (change thread) = role thread) :
    Attended role (threads.map change) units := by
  intro thread hmem hasleep
  obtain ⟨before, hbefore, rfl⟩ := List.mem_map.1 hmem
  rw [hsame] at hasleep
  have hunits := h before hbefore hasleep
  have hattending : attending role (threads.map change) = attending role threads := by
    clear h hmem hbefore hunits
    induction threads with
    | nil => rfl
    | cons first threads ih =>
      rw [List.map_cons]
      exact congrArg₂ (· + ·) (congrArg Role.attends (hsame first)) ih
  rw [hattending]
  exact hunits

/-- A notification wakes one of the sleepers, if there is one. -/
inductive Notified (role : τ → Role) (awaken : τ → τ) (threads : List τ) : List τ → Prop
  | one (index : Nat) (sleeper : τ) (hsleeper : threads[index]? = some sleeper)
      (hasleep : role sleeper = .asleep) :
      Notified role awaken threads (threads.set index (awaken sleeper))
  | none (hawake : ∀ thread ∈ threads, role thread ≠ .asleep) :
      Notified role awaken threads threads

theorem exists_notified (role : τ → Role) (awaken : τ → τ) (threads : List τ) :
    ∃ threads', Notified role awaken threads threads' := by
  by_cases hawake : ∀ thread ∈ threads, role thread ≠ .asleep
  · exact ⟨threads, .none hawake⟩
  · push Not at hawake
    obtain ⟨sleeper, hmem, hasleep⟩ := hawake
    obtain ⟨index, hsleeper⟩ := List.mem_iff_getElem?.1 hmem
    exact ⟨_, .one index sleeper hsleeper hasleep⟩

theorem Notified.kept {threads threads' : List τ} {index : Nat}
    (h : Notified role awaken threads threads') (hthread : threads[index]? = some thread)
    (hawake : role thread ≠ .asleep) : threads'[index]? = some thread := by
  cases h with
  | one other sleeper hsleeper hasleep =>
    have hne : other ≠ index := by
      intro heq
      rw [heq, hthread] at hsleeper
      exact hawake (Option.some.inj hsleeper ▸ hasleep)
    rw [List.getElem?_set_ne hne, hthread]
  | none => exact hthread

theorem Attended.notify {threads threads' : List τ} (h : Attended role threads units)
    (hnotified : Notified role awaken threads threads')
    (hawaken : ∀ thread, role thread = .asleep → role (awaken thread) = .claiming) :
    Attended role threads' (units + 1) := by
  cases hnotified with
  | one index sleeper hsleeper hasleep =>
    have hclaiming := hawaken sleeper hasleep
    apply h.set hsleeper
    · rw [hclaiming]
      decide
    · rw [hasleep, hclaiming]
      exact Nat.le_refl _
  | none hawake => exact attended_of_awake hawake _

theorem Attended.notify_other {other : τ → Role} {threads threads' : List τ}
    (h : Attended role threads units) (hnotified : Notified other awaken threads threads')
    (hsame : ∀ thread, other thread = .asleep →
      role thread = .elsewhere ∧ role (awaken thread) = .elsewhere) :
    Attended role threads' units := by
  cases hnotified with
  | one index sleeper hsleeper hasleep =>
    obtain ⟨hbefore, hafter⟩ := hsame sleeper hasleep
    apply h.set hsleeper
    · rw [hafter]
      decide
    · rw [hbefore, hafter]
  | none => exact h

theorem Attended.exists_attending {threads : List τ} (h : Attended role threads units)
    (hmem : thread ∈ threads) (hasleep : role thread = .asleep) (hunits : 0 < units) :
    ∃ other ∈ threads, role other = .claiming ∨ role other = .notifying := by
  have hpos : 0 < attending role threads := Nat.lt_of_lt_of_le hunits (h thread hmem hasleep)
  obtain ⟨index, other, hother, hattends⟩ := Population.exists_of_weight_pos hpos
  refine ⟨other, List.mem_of_getElem? hother, ?_⟩
  cases hrole : role other with
  | claiming => exact .inl rfl
  | notifying => exact .inr rfl
  | asleep | elsewhere =>
    rw [hrole] at hattends
    cases hattends

end Condition
