import LinkObservatory.History

namespace LinkObservatory
set_option autoImplicit true

open Std

/-- The last elements of a list, at most so many. -/
def lastOf (count : Nat) (xs : List α) : List α := xs.drop (xs.length - count)

theorem lastOf_lastOf (inner outer : Nat) (xs : List α) :
    lastOf outer (lastOf inner xs) = lastOf (min outer inner) xs := by
  unfold lastOf
  rw [List.drop_drop, List.length_drop]
  congr 1
  omega

theorem lastOf_length (count : Nat) (xs : List α) : (lastOf count xs).length = min count xs.length := by
  rw [lastOf, List.length_drop]
  omega

namespace TransitionLog

/-- The log answers its queries like the plain list of what was recorded. -/
structure Refines (log : TransitionLog) (limits : Limits) (events : List TransitionEvent) :
    Prop where
  forLink : ∀ (link : LinkId) (limit : UInt64), log.forLink link limit =
    lastOf (min limit.toNat (min limits.maxResultRows.toNat limits.maxTransitionsPerLink.toNat))
      (events.filter fun event => event.link == link)
  recent : ∀ limit : UInt64, log.recent limit =
    lastOf (min limit.toNat (min limits.maxResultRows.toNat limits.maxTotalTransitions.toNat)) events
  perLinkBound : ∀ link, log.eventsFor link ≤ limits.maxTransitionsPerLink.toNat
  globalBound : log.global.length ≤ limits.maxTotalTransitions.toNat
  dropped : log.dropped = UInt64.ofNat (events.length - log.global.length +
    ∑ link ∈ (events.map TransitionEvent.link).toFinset,
      (events.countP (fun event => event.link == link) - log.eventsFor link))

/-- The ring of a link holds the newest of the link's events. -/
theorem recordAll_perLink (limits : Limits) (events : List TransitionEvent) (link : LinkId) :
    (recordAll { limits := limits } events).perLink.getD link [] =
      lastOf limits.maxTransitionsPerLink.toNat
        ((events.map TransitionEvent.normalize).filter fun event => event.link == link) := by
  induction events using List.reverseRecOn with
  | nil =>
    show (∅ : ExtTreeMap LinkId (List TransitionEvent) StrongId.compare).getD link [] = _
    rw [ExtTreeMap.getD_empty]
    exact List.drop_nil.symm
  | append_singleton events event ih =>
    have hlimits := recordAll_limits { limits := limits } events
    have hmore : recordAll { limits := limits } (events ++ [event]) =
        (recordAll { limits := limits } events).record event := by
      rw [recordAll, recordAll, List.foldl_append]
      rfl
    rw [hmore, List.map_append, List.map_singleton, List.filter_append]
    generalize recordAll { limits := limits } events = before at *
    show (before.perLink.insert event.normalize.link _).getD link [] = _
    rw [normalize_link]
    by_cases hlink : event.link = link
    · subst hlink
      rw [ExtTreeMap.getD_insert_self, ih, hlimits, Ring.push, List.filter_cons,
        if_pos (by simp [normalize_link]), List.filter_nil]
      have h := Ring.evict_append limits.maxTransitionsPerLink.toNat
        ((events.map TransitionEvent.normalize).filter fun held => held.link == event.link)
        [event.normalize]
      rw [Ring.evict_eq_drop, Ring.evict_eq_drop, Ring.evict_eq_drop] at h
      rw [Ring.evict_eq_drop]
      exact h
    · rw [OrderedMap.getD_insert_of_ne _ hlink, ih, List.filter_cons,
        if_neg (by simpa [normalize_link] using hlink), List.filter_nil, List.append_nil]

theorem linkDrops_eq_sum (bound : Nat) (events : List TransitionEvent) {links : Finset LinkId}
    (hlinks : ∀ event ∈ events, event.link ∈ links) :
    linkDrops bound events =
      ∑ link ∈ links, (events.countP (fun event => event.link == link) - bound) := by
  induction events with
  | nil =>
    symm
    exact Finset.sum_eq_zero fun link _ => Nat.zero_sub _
  | cons event older ih =>
    have hstep (link : LinkId) :
        (event :: older).countP (fun held => held.link == link) - bound =
          older.countP (fun held => held.link == link) - bound +
            if event.link = link then
              if bound ≤ older.countP (fun held => held.link == event.link) then 1 else 0
            else 0 := by
      rw [List.countP_cons]
      by_cases hlink : event.link = link
      · subst hlink
        rw [if_pos rfl, if_pos BEq.rfl]
        split <;> omega
      · rw [if_neg hlink, if_neg (by simpa using hlink)]
        rfl
    rw [linkDrops, ih fun held hmem => hlinks held (List.mem_cons_of_mem _ hmem)]
    simp only [hstep]
    rw [Finset.sum_add_distrib, Finset.sum_ite_eq, if_pos (hlinks event (List.mem_cons_self ..))]

theorem newest_eq (log : TransitionLog) (limit : UInt64) (ring : List TransitionEvent) :
    log.newest limit ring = lastOf (min limit.toNat log.limits.maxResultRows.toNat) ring := by
  have hbound : (if limit < log.limits.maxResultRows then limit
      else log.limits.maxResultRows).toNat = min limit.toNat log.limits.maxResultRows.toNat := by
    split
    · rename_i hless
      rw [UInt64.lt_iff_toNat_lt] at hless
      omega
    · rename_i hless
      rw [UInt64.lt_iff_toNat_lt] at hless
      omega
  rw [newest, lastOf, hbound]

/-- Recording any events into an empty log keeps it a refinement of the list of them. -/
theorem recordAll_refines (limits : Limits) (events : List TransitionEvent) :
    (recordAll { limits := limits } events).Refines limits
      (events.map TransitionEvent.normalize) := by
  have hreplays : (recordAll { limits := limits } events).Replays limits events := rfl
  have hlimits : (recordAll { limits := limits } events).limits = limits :=
    recordAll_limits { limits := limits } events
  have hring := recordAll_perLink limits events
  obtain ⟨hglobal, -⟩ := hreplays.global
  obtain ⟨hlengths, hdropped⟩ := hreplays.counted
  rw [Ring.evict_eq_drop] at hglobal
  change _ = lastOf _ _ at hglobal
  refine ⟨?_, ?_, ?_, ?_, ?_⟩
  · intro link limit
    rw [forLink, newest_eq, hlimits, hring, lastOf_lastOf, Nat.min_assoc]
  · intro limit
    rw [recent, newest_eq, hlimits, hglobal, lastOf_lastOf, Nat.min_assoc]
  · intro link
    rw [eventsFor, hlengths]
    exact Nat.min_le_left ..
  · rw [hglobal, lastOf_length]
    exact Nat.min_le_left ..
  · have hcount (link : LinkId) :
        (events.map TransitionEvent.normalize).countP (fun event => event.link == link) =
          events.countP fun event => event.link == link := by
      rw [List.countP_map]
      simp only [Function.comp_def, normalize_link]
    have hlinks : (events.map TransitionEvent.normalize).map TransitionEvent.link =
        events.map TransitionEvent.link := by
      rw [List.map_map]
      exact List.map_congr_left fun event _ => normalize_link event
    have hsum := linkDrops_eq_sum limits.maxTransitionsPerLink.toNat events.reverse
      (fun event hmem => List.mem_toFinset.2 (List.mem_map_of_mem (List.mem_reverse.1 hmem)))
    rw [hdropped, hsum, hlinks, hglobal, lastOf_length, List.length_map, Nat.add_comm]
    congr 2
    · omega
    · apply Finset.sum_congr rfl
      intro link _
      rw [hcount, eventsFor, hlengths, List.countP_reverse]
      omega

end TransitionLog

end LinkObservatory
