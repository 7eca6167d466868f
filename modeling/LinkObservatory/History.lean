import LinkObservatory.RoundTrip

namespace LinkObservatory
set_option autoImplicit true

open Std

namespace TransitionLog

/-- What a restart owes to the history: every query returns the same events, the number of dropped
events does not go back, and a ring may lose only as many events as are newly counted. -/
structure Keeps (before after : TransitionLog) : Prop where
  forLink : ∀ link limit, after.forLink link limit = before.forLink link limit
  recent : ∀ limit, after.recent limit = before.recent limit
  dropped : before.dropped ≤ after.dropped
  retained : before.global.length ≤
    after.global.length + (after.dropped.toNat - before.dropped.toNat)
  retainedFor : ∀ link, before.eventsFor link ≤
    after.eventsFor link + (after.dropped.toNat - before.dropped.toNat)

theorem Keeps.refl (log : TransitionLog) : log.Keeps log where
  forLink _ _ := rfl
  recent _ := rfl
  dropped := UInt64.le_refl _
  retained := Nat.le_add_right _ _
  retainedFor _ := Nat.le_add_right _ _

/-- The evictions from the rings of the links that a list of events causes, newest event first. -/
def linkDrops (bound : Nat) : List TransitionEvent → Nat
  | [] => 0
  | event :: older =>
    linkDrops bound older +
      if bound ≤ older.countP (fun held => held.link == event.link) then 1 else 0

theorem linkDrops_append (bound : Nat) (newer older : List TransitionEvent) :
    linkDrops bound newer ≤ linkDrops bound (newer ++ older) := by
  induction newer with
  | nil => exact Nat.zero_le _
  | cons event newer ih =>
    rw [List.cons_append, linkDrops, linkDrops, List.countP_append]
    refine Nat.add_le_add ih ?_
    split
    · rename_i hfull
      rw [if_pos (by omega)]
    · exact Nat.zero_le _

theorem normalize_link (event : TransitionEvent) : event.normalize.link = event.link := by
  simp only [TransitionEvent.normalize]

theorem linkDrops_map (bound : Nat) (events : List TransitionEvent) :
    linkDrops bound (events.map TransitionEvent.normalize) = linkDrops bound events := by
  induction events with
  | nil => rfl
  | cons event events ih =>
    rw [List.map_cons, linkDrops, linkDrops, ih, List.countP_map]
    simp only [Function.comp_def, normalize_link]

theorem linkDrops_le_length (bound : Nat) (events : List TransitionEvent) :
    linkDrops bound events ≤ events.length := by
  induction events with
  | nil => exact Nat.le_refl _
  | cons event events ih =>
    rw [linkDrops, List.length_cons]
    split <;> omega

/-- The ring of a link holds the newest of its events, and every eviction was counted. -/
theorem Replays.counted {log : TransitionLog} {limits : Limits} (h : log.Replays limits events) :
    (∀ link, (log.perLink.getD link []).length =
      min limits.maxTransitionsPerLink.toNat
        (events.countP fun event => event.link == link)) ∧
    log.dropped = UInt64.ofNat (linkDrops limits.maxTransitionsPerLink.toNat events.reverse +
      (events.length - limits.maxTotalTransitions.toNat)) := by
  induction events using List.reverseRecOn generalizing log with
  | nil =>
    rw [h]
    exact ⟨fun link => by simp [recordAll], by simp [recordAll, linkDrops]⟩
  | append_singleton events event ih =>
    have hearlier : (recordAll { limits := limits } events).Replays limits events := rfl
    obtain ⟨hrings, hdropped⟩ := ih hearlier
    obtain ⟨hglobal, -⟩ := hearlier.global
    have hlimits : (recordAll { limits := limits } events).limits = limits :=
      recordAll_limits { limits := limits } events
    have hlog : log = (recordAll { limits := limits } events).record event := by
      rw [h, recordAll, recordAll, List.foldl_append]
      rfl
    generalize recordAll { limits := limits } events = before at *
    subst hlog
    have hbucket := hrings event.link
    constructor
    · intro link
      rw [List.countP_append, List.countP_singleton]
      show ((before.perLink.insert event.normalize.link _).getD link []).length = _
      rw [normalize_link]
      by_cases hlink : event.link = link
      · subst hlink
        rw [ExtTreeMap.getD_insert_self, Ring.push, Ring.evict_length, List.length_append,
          hlimits, hbucket, List.length_singleton, if_pos BEq.rfl]
        omega
      · rw [OrderedMap.getD_insert_of_ne _ hlink, hrings link, if_neg (by simpa using hlink)]
        rfl
    · have hlink : (before.perLink.getD event.link []).length + 1 -
          before.limits.maxTransitionsPerLink.toNat =
          if limits.maxTransitionsPerLink.toNat ≤
            events.reverse.countP (fun held => held.link == event.link) then 1 else 0 := by
        rw [hlimits, hbucket, List.countP_reverse]
        split <;> omega
      have htotal : before.global.length + 1 - before.limits.maxTotalTransitions.toNat +
          (events.length - limits.maxTotalTransitions.toNat) =
          events.length + 1 - limits.maxTotalTransitions.toNat := by
        rw [hlimits, hglobal, Ring.evict_length, List.length_map]
        omega
      show before.dropped + UInt64.ofNat _ + UInt64.ofNat _ = _
      rw [normalize_link, hlink, hdropped, List.reverse_append, List.reverse_singleton,
        List.singleton_append, linkDrops, List.length_append, List.length_singleton, ← htotal,
        ← UInt64.ofNat_add, ← UInt64.ofNat_add]
      congr 1
      omega

theorem recent_all (log : TransitionLog) (limit : UInt64) (h : log.global.length ≤ limit.toNat) :
    log.recent limit =
      log.global.drop (log.global.length - log.limits.maxResultRows.toNat) := by
  rw [recent, newest]
  split
  · rename_i hlt
    have hrows := UInt64.lt_iff_toNat_lt.1 hlt
    rw [Nat.sub_eq_zero_of_le h, Nat.sub_eq_zero_of_le (by omega)]
  · rfl

theorem Replays.of_keeps {log after : TransitionLog} {limits : Limits}
    (h : log.Replays limits events) (hbound : events.length < 2 ^ 63)
    (hafter : after.Replays limits (log.recent limits.maxTotalTransitions))
    (hkeeps : log.Keeps after) :
    log.totalRecords = log.global.length ∧
      log.global.length ≤ log.limits.maxResultRows.toNat := by
  obtain ⟨hglobal, htotal⟩ := h.global
  obtain ⟨-, hdropped⟩ := h.counted
  obtain ⟨hglobal', -⟩ := hafter.global
  obtain ⟨-, hdropped'⟩ := hafter.counted
  have hlength : log.global.length = min limits.maxTotalTransitions.toNat events.length := by
    rw [hglobal, Ring.evict_length, List.length_map]
  have hrecent := log.recent_all limits.maxTotalTransitions (by omega)
  have hpage : (log.recent limits.maxTotalTransitions).length =
      min log.global.length log.limits.maxResultRows.toNat := by
    rw [hrecent, List.length_drop]
    omega
  -- the events taken along are the newest of all, so they evict no more than all of them did
  have hsuffix : log.recent limits.maxTotalTransitions <:+ events.map TransitionEvent.normalize := by
    rw [hrecent]
    refine (List.drop_suffix _ _).trans ?_
    rw [hglobal]
    exact Ring.evict_suffix _ _
  have hfewer : linkDrops limits.maxTransitionsPerLink.toNat
      (log.recent limits.maxTotalTransitions).reverse ≤
        linkDrops limits.maxTransitionsPerLink.toNat events.reverse := by
    obtain ⟨older, holder⟩ := hsuffix
    have hmore := linkDrops_append limits.maxTransitionsPerLink.toNat
      (log.recent limits.maxTotalTransitions).reverse older.reverse
    rwa [← List.reverse_append, holder, ← List.map_reverse, linkDrops_map] at hmore
  have hle := UInt64.le_iff_toNat_le.1 hkeeps.dropped
  have hretained := hkeeps.retained
  have hdrops := linkDrops_le_length limits.maxTransitionsPerLink.toNat events.reverse
  rw [List.length_reverse] at hdrops
  rw [hdropped, hdropped', UInt64.toNat_ofNat_of_lt' (by change _ < 2 ^ 64; omega),
    UInt64.toNat_ofNat_of_lt' (by change _ < 2 ^ 64; omega)] at hle hretained
  rw [hglobal', Ring.evict_length, List.length_map, hpage] at hretained
  omega

end TransitionLog

namespace Observatory

/-- A snapshot of the state restores into a fresh process, with the history as it was. -/
def RestoresHistory (σ : Observatory) (now : TimePoint) : Prop :=
  ((fresh σ.config).restoreFrom (σ.collectSnapshot now)).2.ok = true ∧
    σ.transitions.Keeps ((fresh σ.config).restoreFrom (σ.collectSnapshot now)).1.transitions

/-- A restart keeps the history of a reached state if the log has evicted nothing from its global
ring and a page of results holds all of it; short of a wrap of the counter, only then. -/
theorem Reached.history_restored {config : RuntimeConfig} (h : Reached config log σ)
    (now : TimePoint) :
    (σ.transitions.totalRecords = σ.transitions.global.length ∧
        σ.transitions.global.length ≤ config.policy.limits.maxResultRows.toNat →
      σ.RestoresHistory now) ∧
    (σ.transitions.totalRecords < 2 ^ 63 → σ.RestoresHistory now →
      σ.transitions.totalRecords = σ.transitions.global.length ∧
        σ.transitions.global.length ≤ config.policy.limits.maxResultRows.toNat) := by
  obtain ⟨hs, rfl⟩ := h.sound
  have hfresh : (fresh σ.config).config = σ.config := rfl
  obtain ⟨hok, hrecovers⟩ := hs.restoreFrom hfresh rfl now
  obtain ⟨events, hevents⟩ := hs.log
  constructor
  · rintro ⟨hkept, hrows⟩
    refine ⟨hok, ?_⟩
    have hsame : ((fresh σ.config).restoreFrom (σ.collectSnapshot now)).1.transitions =
        σ.transitions := by
      rw [hevents.rebuild hkept (by rw [hs.logLimits]; exact hrows)]
      exact hrecovers.log
    rw [hsame]
    exact .refl _
  · rintro hbound ⟨-, hkeeps⟩
    rw [hevents.global.2] at hbound
    have hcondition := hevents.of_keeps hbound hrecovers.log hkeeps
    rwa [hs.logLimits] at hcondition

theorem Reached.history_restored_report :
    (Observatory.run { policy := makeDefaultPolicy } reportedRecords).RestoresHistory ⟨2⟩ :=
  ((Reached.run { policy := makeDefaultPolicy } reportedRecords).history_restored ⟨2⟩).1
    (by decide +kernel)

/-- The default policy with room for one event. -/
def oneEventPolicy : Policy :=
  { makeDefaultPolicy with
    limits := { makeDefaultPolicy.limits with maxTransitionsPerLink := 1, maxTotalTransitions := 1 } }

/-- The registrations of two links, of which the global ring keeps one: the restart forgets the
other one and that an event was ever dropped. -/
theorem Reached.history_restored_fails :
    ¬ ∀ (config : RuntimeConfig) (log : List Decision) (σ : Observatory) (now : TimePoint),
      config.policy.validate.ok = true → Reached config log σ → σ.RestoresHistory now := by
  intro h
  have hreached := Reached.run { policy := oneEventPolicy }
    [(.link { name := ascii "a", generation := ascii "g" }, ⟨0⟩),
      (.link { name := ascii "b", generation := ascii "g" }, ⟨0⟩)]
  have hkeeps := (h _ _ _ ⟨1⟩ (by decide +kernel) hreached).2
  exact absurd (hkeeps.forLink (deriveLinkId (ascii "a")) 1) (by decide +kernel)

end Observatory

end LinkObservatory
