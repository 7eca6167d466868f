import LinkObservatory.Sustained
import LinkObservatory.Watch

namespace LinkObservatory
set_option autoImplicit true

open Std

/-- The rings hold some of the events recorded so far, in order. -/
structure TransitionLog.Keeping (log : TransitionLog) (events : List TransitionEvent) : Prop where
  global : log.global.Sublist (events.map TransitionEvent.normalize)
  perLink : ∀ link, (log.perLink.getD link []).Sublist
    ((events.map TransitionEvent.normalize).filter fun event => event.link == link)

namespace TransitionLog

theorem Keeping.empty (limits : Limits) : Keeping { limits := limits } [] where
  global := List.Sublist.refl _
  perLink link := by simp

theorem Keeping.record {log : TransitionLog} (h : log.Keeping events) (event : TransitionEvent) :
    (log.record event).Keeping (events ++ [event]) := by
  constructor
  · rw [List.map_append]
    exact (Ring.evict_suffix _ _).sublist.trans (h.global.append_right _)
  · intro link
    rw [List.map_append, List.filter_append]
    simp only [TransitionLog.record, List.map_singleton]
    generalize event.normalize = normal
    by_cases hlink : normal.link = link
    · subst hlink
      rw [ExtTreeMap.getD_insert_self, List.filter_singleton, beq_self_eq_true]
      exact (Ring.evict_suffix _ _).sublist.trans ((h.perLink _).append_right _)
    · rw [OrderedMap.getD_insert_of_ne _ hlink]
      exact (h.perLink link).trans (List.sublist_append_left _ _)

theorem Keeping.recordAll {log : TransitionLog} (h : log.Keeping events)
    (more : List TransitionEvent) : (log.recordAll more).Keeping (events ++ more) := by
  induction more generalizing log events with
  | nil =>
    rw [List.append_nil]
    exact h
  | cons event more ih =>
    rw [List.append_cons]
    exact ih (h.record event)

theorem Keeping.replays {log after : TransitionLog} {limits : Limits} (h : log.Keeping events)
    (hafter : after.Replays limits (log.recent limit)) : after.Keeping events := by
  have hrecent : (log.recent limit).Sublist (events.map TransitionEvent.normalize) :=
    (List.drop_sublist _ _).trans h.global
  have hnormal : (log.recent limit).map TransitionEvent.normalize = log.recent limit := by
    have hfixed : ∀ event ∈ log.recent limit, event.normalize = event := by
      intro event hmem
      obtain ⟨recorded, -, rfl⟩ := List.mem_map.1 (hrecent.subset hmem)
      exact recorded.normalize_normalize
    rw [List.map_congr_left hfixed, List.map_id'']
    exact fun _ => rfl
  have hkept := (Keeping.empty limits).recordAll (log.recent limit)
  rw [← show after = _ from hafter] at hkept
  constructor
  · have hglobal := hkept.global
    rw [List.nil_append, hnormal] at hglobal
    exact hglobal.trans hrecent
  · intro link
    have hring := hkept.perLink link
    rw [List.nil_append, hnormal] at hring
    exact hring.trans (hrecent.filter _)

end TransitionLog

theorem TransitionEvent.normalize_kept (event : TransitionEvent) :
    event.normalize.kind = event.kind ∧ event.normalize.link = event.link := by
  simp only [TransitionEvent.normalize, and_self]

/-- Whether an event is a change of one of the two families. -/
def TransitionEvent.isFlap (event : TransitionEvent) : Bool :=
  event.kind == .adminStateChanged || event.kind == .operStateChanged

theorem countP_isFlap (link : LinkId) (events : List TransitionEvent) :
    (events.countP fun event => event.isFlap && event.link == link) =
      (Watch.oper.changes link events).length + (Watch.admin.changes link events).length := by
  unfold Watch.changes
  rw [← List.countP_eq_length_filter, ← List.countP_eq_length_filter]
  induction events with
  | nil => rfl
  | cons event events ih =>
    have hone : (if (event.isFlap && event.link == link) = true then 1 else 0) =
        (if (event.kind == Watch.oper.kind && event.link == link) = true then 1 else 0) +
          (if (event.kind == Watch.admin.kind && event.link == link) = true then 1 else 0) := by
      unfold TransitionEvent.isFlap
      generalize event.kind = kind
      generalize (event.link == link) = same
      cases kind <;> cases same <;> rfl
    rw [List.countP_cons, List.countP_cons, List.countP_cons, ih, hone]
    omega

theorem countFlaps_le_changes {input : ClassificationInput}
    (h : input.transitions.Keeping events) :
    (countFlaps input).toNat ≤ (Watch.oper.changes input.link events).length +
      (Watch.admin.changes input.link events).length := by
  have hring : (input.transitions.forLink input.link input.policy.limits.maxResultRows).Sublist
      ((events.map TransitionEvent.normalize).filter fun event => event.link == input.link) :=
    (List.drop_sublist _ _).trans (h.perLink input.link)
  have hflaps : (countFlaps input).toNat ≤
      (input.transitions.forLink input.link input.policy.limits.maxResultRows).countP
        TransitionEvent.isFlap := by
    unfold countFlaps
    rw [UInt64.toNat_ofNat']
    refine (Nat.mod_le _ _).trans (List.countP_mono_left ?_)
    intro event _ hcounted
    exact (Bool.and_eq_true_iff.1 hcounted).2
  refine hflaps.trans (hring.countP_le.trans (Nat.le_of_eq ?_))
  rw [List.countP_filter, List.countP_map, ← countP_isFlap]
  apply List.countP_congr
  intro event _
  obtain ⟨hkind, hlink⟩ := event.normalize_kept
  simp only [Function.comp_apply, TransitionEvent.isFlap, hkind, hlink]

namespace Observatory

/-- The states that records and restarts lead to, with every decision and every event on the way.
Each record is allowed in the state and at the instant it meets. -/
inductive Watched (config : RuntimeConfig)
    (allowed : Observatory → ParsedRecord → TimePoint → Prop) :
    List Decision → List TransitionEvent → Observatory → Prop
  | start : Watched config allowed [] [] (fresh config)
  | record (record : ParsedRecord) (instant : TimePoint) : Watched config allowed log events σ →
      allowed σ record instant →
      Watched config allowed (log ++ σ.decisionsOf record instant)
        (events ++ σ.eventsOf record instant) (σ.applyRecord record instant).1
  | unread (files : FileSystem) : Watched config allowed log events σ →
      (config.snapshotPath = "" ∨
        (readSnapshot files config.snapshotPath config.policy).contents = none) →
      Watched config allowed log events (σ.reload files).1
  | reload (files : FileSystem) (now : TimePoint) : Watched config allowed log events σ →
      Watched config allowed log' events' σ' → config.snapshotPath ≠ "" →
      (readSnapshot files config.snapshotPath config.policy).contents =
        some (σ'.collectSnapshot now) →
      Watched config allowed log' events' (σ.reload files).1

theorem Watched.reached {config : RuntimeConfig} (h : Watched config allowed log events σ) :
    Reached config log σ := by
  induction h with
  | start => exact .start
  | record record instant _ _ ih => exact ih.record record instant
  | unread files _ hread ih => exact ih.unread files hread
  | reload files now _ _ hpath hread ih ih' => exact ih.reload files now ih' hpath hread

theorem Watched.keeping {config : RuntimeConfig} (h : Watched config allowed log events σ) :
    σ.transitions.Keeping events := by
  induction h with
  | start => exact .empty _
  | record record instant _ _ ih =>
    rw [applyRecord_transitions]
    exact ih.recordAll _
  | unread files hrun hread ih =>
    obtain ⟨-, rfl⟩ := hrun.reached.sound
    rw [(reload_unread hread).2.transitions]
    exact ih
  | reload files now hrun hrun' hpath hread _ ih' =>
    obtain ⟨hs, rfl⟩ := hrun.reached.sound
    have hrecovers := hrun'.reached.sound.1.reload hs hrun'.reached.sound.2.symm hpath hread
    exact ih'.replays hrecovers.log

/-- All accepted readings of the family on a link carry the same value. -/
def Steady (watch : Watch) (link : LinkId) (payload : MetricPayload) (log : List Decision) :
    Prop :=
  ∀ decision ∈ log, decision.2.accepted = true → decision.1.link = link →
    decision.1.key.family = watch.key.family → decision.1.payload = payload

/-- Some evidence of the family may speak for the link at an instant. -/
def Eligible (watch : Watch) (σ : Observatory) (link : LinkId) (instant : TimePoint) : Prop :=
  ∃ contender ∈ σ.store.contenders link watch.key (σ.classificationInput link instant).context,
    contender.eligible = true

/-- The runtime has seen the family on a link: its tracker holds a value, or, after a restart, the
slot was brought back. -/
def Seen (watch : Watch) (σ : Observatory) (link : LinkId) : Prop :=
  (∃ text, (watch.tracker σ)[link]? = some text ∧ text ≠ ascii "none") ∨
    ((watch.tracker σ)[link]? = none ∧
      (σ.store.slots[SlotKey.mk link watch.key]?).isSome = true)

/-- The condition on a record, in the state it meets: when nothing stands in the way of an
observation of the link, it leaves a contender to each family that was seen there. -/
def Sustained (link : LinkId) (σ : Observatory) (record : ParsedRecord) (instant : TimePoint) :
    Prop :=
  ∀ declaration, record = .observation declaration → (makeObservation declaration).link = link →
    σ.Admits (makeObservation declaration) →
    ¬(σ.store.streamFor (makeObservation declaration).provenance.source).Rejects
      (makeObservation declaration) →
    ∀ watch, σ.Seen watch link → σ.Sustains watch.key (makeObservation declaration) instant

theorem Reached.steady_text {config : RuntimeConfig} (h : Reached config log σ)
    (hsteady : Steady watch link payload log) (instant : TimePoint) :
    (σ.textOf link watch.key instant = ascii "none" ∧ ¬σ.Eligible watch link instant) ∨
      (σ.textOf link watch.key instant = formatPayload payload ∧
        (σ.store.slots[SlotKey.mk link watch.key]?).isSome = true) := by
  unfold textOf reportedText
  cases hwinner : selectWinner ((σ.classificationInput link instant).store.contenders
      (σ.classificationInput link instant).link watch.key
      (σ.classificationInput link instant).context) with
  | none =>
    refine .inl ⟨rfl, ?_⟩
    rintro ⟨contender, hmem, heligible⟩
    rw [(selectWinner_none_iff (EvidenceStore.contenders_nodup _ _ _ _)).1 hwinner contender hmem]
      at heligible
    cases heligible
  | some winner =>
    obtain ⟨slot, evidence, hslot, hevaluated, -, newer, older, hsplit, -⟩ :=
      EvidenceStore.contenders_newest (selectWinner_mem hwinner).1
    have hslot : σ.store.slots[SlotKey.mk link watch.key]? = some slot := hslot
    have hmem : evidence ∈ slot.history := by
      rw [← List.mem_reverse, hsplit]
      exact List.mem_append_right _ (List.mem_cons_self ..)
    have hfor : σ.store.slotFor ⟨link, watch.key⟩ = slot := by
      rw [EvidenceStore.slotFor, ExtTreeMap.getD_eq_getD_getElem?, hslot]
      rfl
    have hhistory := (h.lineage.history ⟨link, watch.key⟩).mem
      (List.mem_map_of_mem (by rw [hfor]; exact hmem))
    obtain ⟨decision, hdecision, hobservation⟩ := List.mem_map.1 hhistory
    obtain ⟨hlogged, haccepted⟩ := List.mem_filter.1 hdecision
    simp only [Bool.and_eq_true, beq_iff_eq] at haccepted
    obtain ⟨hyes, hkey⟩ := haccepted
    have hpayload := hsteady decision hlogged hyes (SlotKey.mk.inj hkey).1
      (congrArg MetricKey.family (SlotKey.mk.inj hkey).2)
    refine .inr ⟨?_, by rw [hslot]; rfl⟩
    rw [hevaluated]
    show formatPayload evidence.observation.payload = _
    rw [← hpayload, hobservation]

/-- The invariant of a steady family that stays eligible: its value appears at most once, and after
that the tracker holds it. -/
structure Appears (watch : Watch) (link : LinkId) (text : Bytes) (events : List TransitionEvent)
    (σ : Observatory) : Prop where
  once : (watch.changes link events).length ≤ 1
  first : ∀ event ∈ watch.changes link events,
    event.fromText = ascii "none" ∧ event.toText = text
  held : watch.changes link events ≠ [] →
    (σ.store.slots[SlotKey.mk link watch.key]?).isSome = true
  tracker : (watch.tracker σ)[link]? = none ∨
    ((watch.tracker σ)[link]? = some (ascii "none") ∧ watch.changes link events = []) ∨
    (watch.tracker σ)[link]? = some text

theorem applyRecord_slot_kept (σ : Observatory) (record : ParsedRecord) (instant : TimePoint)
    {slotKey : SlotKey} (h : (σ.store.slots[slotKey]?).isSome = true) :
    ((σ.applyRecord record instant).1.store.slots[slotKey]?).isSome = true := by
  cases record with
  | none => exact h
  | source declaration =>
    rw [applyRecord, applySource_store]
    exact h
  | link declaration =>
    rw [applyRecord, applyLink_store]
    exact h
  | observation declaration =>
    rw [applyRecord]
    rcases σ.applyObservation_store (makeObservation declaration) instant with
      ⟨context, haccept⟩ | ⟨hstore, -⟩
    · rcases σ.store.accept_slots (makeObservation declaration) context instant with
        ⟨-, hsame⟩ | ⟨-, _, slot, -, -, hslots, -⟩
      · rw [haccept] at hsame
        rw [hsame]
        exact h
      · rw [haccept] at hslots
        simp only at hslots ⊢
        rw [hslots, OrderedMap.lookup_insert]
        split
        · rfl
        · exact h
    · rw [hstore]
      exact h

section

variable {watch : Watch} {link : LinkId} {text : Bytes} {events : List TransitionEvent}
  {σ σ' : Observatory} (h : Appears watch link text events σ)
  (hslot : (σ.store.slots[SlotKey.mk link watch.key]?).isSome = true →
    (σ'.store.slots[SlotKey.mk link watch.key]?).isSome = true)

include h hslot

/-- A step that records no change of the family. -/
theorem Appears.quiet (hnone : watch.changes link more = [])
    (htracker : (watch.tracker σ')[link]? = none ∨
      ((watch.tracker σ')[link]? = some (ascii "none") ∧ watch.changes link events = []) ∨
      (watch.tracker σ')[link]? = some text) : Appears watch link text (events ++ more) σ' := by
  have hsame : watch.changes link (events ++ more) = watch.changes link events := by
    rw [Watch.changes_append, hnone, List.append_nil]
  constructor
  · rw [hsame]
    exact h.once
  · rw [hsame]
    exact h.first
  · rw [hsame]
    intro hsome
    exact hslot (h.held hsome)
  · rw [hsame]
    exact htracker

theorem Appears.keep (hnone : watch.changes link more = [])
    (htracker : (watch.tracker σ')[link]? = (watch.tracker σ)[link]?) :
    Appears watch link text (events ++ more) σ' := by
  apply h.quiet hslot hnone
  rw [htracker]
  exact h.tracker

theorem Appears.refresh (hrefreshed : Refreshed watch σ σ' link instant more)
    (hstays : σ.Seen watch link → σ'.Eligible watch link instant)
    (htext : (σ'.textOf link watch.key instant = ascii "none" ∧
        ¬σ'.Eligible watch link instant) ∨
      (σ'.textOf link watch.key instant = text ∧
        (σ'.store.slots[SlotKey.mk link watch.key]?).isSome = true)) :
    Appears watch link text (events ++ more) σ' := by
  obtain ⟨generation, hchanges⟩ := hrefreshed.changes
  have hwritten : (watch.tracker σ')[link]? = some (σ'.textOf link watch.key instant) := by
    rw [hrefreshed.tracker]
    exact ExtTreeMap.getElem?_insert_self
  rcases h.tracker with hfresh | ⟨hempty, hnever⟩ | hvalue
  · have hnone : watch.changes link more = [] := by
      rw [hchanges, trackedChange, hfresh]
      rfl
    apply h.quiet hslot hnone
    rw [hwritten]
    rcases htext with ⟨hno, hineligible⟩ | ⟨hyes, -⟩
    · by_cases hever : watch.changes link events = []
      · exact .inr (.inl ⟨by rw [hno], hever⟩)
      · exact absurd (hstays (.inr ⟨hfresh, h.held hever⟩)) hineligible
    · exact .inr (.inr (by rw [hyes]))
  · by_cases hsame : ascii "none" = σ'.textOf link watch.key instant
    · have hnone : watch.changes link more = [] := by
        rw [hchanges, trackedChange, hempty]
        simp only [hsame, ↓reduceIte, Option.toList_none]
      apply h.quiet hslot hnone
      rw [hwritten, ← hsame]
      exact .inr (.inl ⟨rfl, hnever⟩)
    · rcases htext with ⟨hno, -⟩ | ⟨hyes, hheld⟩
      · exact absurd hno.symm hsame
      have hone : watch.changes link more =
          [{ link := link, kind := watch.kind, at_ := instant, generation := generation
             fromText := ascii "none", toText := σ'.textOf link watch.key instant }] := by
        rw [hchanges, trackedChange, hempty]
        simp only [hsame, ↓reduceIte, Option.toList_some]
      have hall : watch.changes link (events ++ more) = watch.changes link more := by
        rw [Watch.changes_append, hnever, List.nil_append]
      constructor
      · rw [hall, hone]
        exact Nat.le_refl 1
      · rw [hall, hone]
        intro event hmem
        rw [List.mem_singleton.1 hmem]
        exact ⟨rfl, hyes⟩
      · intro _
        exact hheld
      · rw [hwritten, hyes]
        exact .inr (.inr rfl)
  · have hsame : σ'.textOf link watch.key instant = text := by
      rcases htext with ⟨hno, hineligible⟩ | ⟨hyes, -⟩
      · by_contra hne
        apply hineligible (hstays (.inl ⟨text, hvalue, ?_⟩))
        intro htextnone
        exact hne (hno.trans htextnone.symm)
      · exact hyes
    have hnone : watch.changes link more = [] := by
      rw [hchanges, trackedChange, hvalue]
      simp only [hsame, ↓reduceIte, Option.toList_none]
    apply h.quiet hslot hnone
    rw [hwritten, hsame]
    exact .inr (.inr rfl)

end

theorem reload_trackers {σ : Observatory} (hpath : σ.config.snapshotPath ≠ "")
    (hread : (readSnapshot files σ.config.snapshotPath σ.config.policy).contents = some contents)
    (watch : Watch) : watch.tracker (σ.reload files).1 = ∅ := by
  have hrestored : watch.tracker (σ.restoreFrom contents).1 = ∅ := by
    unfold restoreFrom
    simp only
    split
    · cases watch <;> rfl
    · split
      · cases watch <;> rfl
      · cases watch <;> rfl
  unfold Observatory.reload
  rw [if_neg hpath]
  simp only [hread]
  split
  · cases watch <;> exact hrestored
  · cases watch <;> exact hrestored

theorem Watched.appears {config : RuntimeConfig}
    (h : Watched config (Sustained link) log events σ)
    (hsteady : Steady watch link payload log) :
    Appears watch link (formatPayload payload) events σ := by
  induction h with
  | start =>
    refine ⟨Nat.zero_le _, fun _ hmem => (List.not_mem_nil hmem).elim, fun hne => absurd rfl hne,
      .inl ?_⟩
    cases watch <;> rfl
  | record record instant hrun hallowed ih =>
    rename_i log events σ
    have hbefore : Steady watch link payload log := by
      intro decision hmem
      exact hsteady decision (List.mem_append_left _ hmem)
    have happears := ih hbefore
    have hslot : (σ.store.slots[SlotKey.mk link watch.key]?).isSome = true → _ :=
      σ.applyRecord_slot_kept record instant
    rcases σ.applyRecord_watched watch record instant with
      ⟨declaration, rfl, haccepted, hrefreshed⟩ | ⟨-, hunwatched⟩
    · by_cases hlink : (makeObservation declaration).link = link
      · rw [hlink] at hrefreshed
        have hstays (hseen : σ.Seen watch link) :
            (σ.applyRecord (.observation declaration) instant).1.Eligible watch link instant := by
          obtain ⟨hadmits, hpasses⟩ := (σ.accepted_iff _ instant).1 haccepted
          have hsustains := (sustains_iff haccepted watch.key).2
            (hallowed declaration rfl hlink hadmits hpasses watch hseen)
          rw [hlink] at hsustains
          exact hsustains
        exact happears.refresh hslot hrefreshed hstays
          ((hrun.record _ instant hallowed).reached.steady_text hsteady instant)
      · apply happears.keep hslot (hrefreshed.others link hlink)
        rw [hrefreshed.tracker]
        exact OrderedMap.lookup_insert_of_ne _ hlink _
    · apply happears.keep hslot (hunwatched.changes link)
      rw [hunwatched.tracker]
  | unread files hrun hread ih =>
    obtain ⟨-, rfl⟩ := hrun.reached.sound
    obtain ⟨-, hsame⟩ := reload_unread hread
    have happears := ih hsteady
    refine ⟨happears.once, happears.first, ?_, ?_⟩
    · rw [hsame.store]
      exact happears.held
    · cases watch with
      | oper =>
        rw [show Watch.oper.tracker _ = _ from hsame.lastOperText]
        exact happears.tracker
      | admin =>
        rw [show Watch.admin.tracker _ = _ from hsame.lastAdminText]
        exact happears.tracker
  | reload files now hrun hrun' hpath hread _ ih' =>
    obtain ⟨hs, rfl⟩ := hrun.reached.sound
    have hrecovers := hrun'.reached.sound.1.reload hs hrun'.reached.sound.2.symm hpath hread
    have happears := ih' hsteady
    refine ⟨happears.once, happears.first, ?_, .inl ?_⟩
    · rw [hrecovers.slots]
      exact happears.held
    · rw [reload_trackers hpath hread watch]
      exact ExtTreeMap.getElem?_empty

/-- Each family changed at most once on the link, from nothing to its value, and no classification
counts more than these two changes. -/
structure FlapFree (link : LinkId) (events : List TransitionEvent) (σ : Observatory) : Prop where
  once : ∀ watch : Watch, (watch.changes link events).length ≤ 1
  first : ∀ watch : Watch, ∀ event ∈ watch.changes link events, event.fromText = ascii "none"
  counted : ∀ (instant : TimePoint) (classification : Classification),
    σ.classify link instant = some classification → classification.flapEvents ≤ 2

/-- A value that stays eligible appears once and is no flap after that. -/
theorem Watched.no_flapping {config : RuntimeConfig}
    (h : Watched config (Sustained link) log events σ)
    (hsteady : ∀ watch, ∃ payload, Steady watch link payload log) : FlapFree link events σ := by
  have honce (watch : Watch) : (watch.changes link events).length ≤ 1 := by
    obtain ⟨payload, hpayload⟩ := hsteady watch
    exact (h.appears hpayload).once
  refine ⟨honce, ?_, ?_⟩
  · intro watch event hmem
    obtain ⟨payload, hpayload⟩ := hsteady watch
    exact ((h.appears hpayload).first event hmem).1
  · intro instant classification hclassify
    unfold Observatory.classify at hclassify
    split at hclassify
    · cases hclassify
    cases hclassify
    have hcount : (countFlaps (σ.classificationInput link instant)).toNat ≤
        (Watch.oper.changes link events).length + (Watch.admin.changes link events).length :=
      countFlaps_le_changes h.keeping
    have hoper := honce .oper
    have hadmin := honce .admin
    rw [UInt64.le_iff_toNat_le]
    show (countFlaps (σ.classificationInput link instant)).toNat ≤ 2
    omega

instance Steady.decide (watch : Watch) (link : LinkId) (payload : MetricPayload)
    (log : List Decision) : Decidable (Steady watch link payload log) :=
  inferInstanceAs (Decidable (∀ decision ∈ log, decision.2.accepted = true →
    decision.1.link = link → decision.1.key.family = watch.key.family →
    decision.1.payload = payload))

/-- The events that a list of records leads to. -/
def eventsFrom : Observatory → List (ParsedRecord × TimePoint) → List TransitionEvent
  | _, [] => []
  | σ, (record, instant) :: records =>
    σ.eventsOf record instant ++ eventsFrom (σ.applyRecord record instant).1 records

/-- Each record of a list is allowed in the state it meets. -/
def AllowedFrom (allowed : Observatory → ParsedRecord → TimePoint → Prop) :
    Observatory → List (ParsedRecord × TimePoint) → Prop
  | _, [] => True
  | σ, (record, instant) :: records =>
    allowed σ record instant ∧ AllowedFrom allowed (σ.applyRecord record instant).1 records

theorem Watched.foldl {config : RuntimeConfig} (h : Watched config allowed log events σ)
    (records : List (ParsedRecord × TimePoint)) (hallowed : AllowedFrom allowed σ records) :
    Watched config allowed (log ++ decisionsFrom σ records) (events ++ eventsFrom σ records)
      (σ.applyAll records) := by
  induction records generalizing log events σ with
  | nil => rwa [decisionsFrom, eventsFrom, List.append_nil, List.append_nil]
  | cons record records ih =>
    rw [decisionsFrom, eventsFrom, ← List.append_assoc, ← List.append_assoc]
    exact ih (h.record record.1 record.2 hallowed.1) hallowed.2

/-- Every observation of the link, accepted or not, leaves a contender to each family seen there. -/
def holdsOn (link : LinkId) : Observatory → List (ParsedRecord × TimePoint) → Bool
  | _, [] => true
  | σ, (record, instant) :: records =>
    (match record with
      | .observation declaration =>
        [Watch.oper, .admin].all fun watch => (makeObservation declaration).link != link ||
          !((watch.tracker σ)[link]?.any (· != ascii "none") ||
            ((watch.tracker σ)[link]?).isNone && (σ.store.slots[SlotKey.mk link watch.key]?).isSome) ||
          decide (σ.Sustains watch.key (makeObservation declaration) instant)
      | _ => true) &&
      holdsOn link (σ.applyRecord record instant).1 records

theorem allowedFrom_sustained (link : LinkId) (σ : Observatory)
    (records : List (ParsedRecord × TimePoint)) (h : σ.holdsOn link records = true) :
    AllowedFrom (Sustained link) σ records := by
  induction records generalizing σ with
  | nil => trivial
  | cons step records ih =>
    obtain ⟨record, instant⟩ := step
    obtain ⟨hfirst, hrest⟩ := Bool.and_eq_true_iff.1 h
    refine ⟨?_, ih _ hrest⟩
    rintro declaration rfl hlink - - watch hseen
    have hwatch : watch ∈ [Watch.oper, .admin] := by cases watch <;> simp
    have hholds := List.all_eq_true.1 hfirst watch hwatch
    have hseen : ((watch.tracker σ)[link]?.any (· != ascii "none") ||
        ((watch.tracker σ)[link]?).isNone &&
          (σ.store.slots[SlotKey.mk link watch.key]?).isSome) = true := by
      rcases hseen with ⟨text, htext, hne⟩ | ⟨hnone, hslot⟩
      · rw [htext]
        simpa using hne
      · rw [hnone, hslot]
        rfl
    rw [hseen, hlink] at hholds
    simpa using hholds

theorem reload_primary {σ : Observatory} (hpath : σ.config.snapshotPath ≠ "")
    (hload : (loadOnce files σ.config.snapshotPath σ.config.policy).contents = some contents)
    (hok : (σ.restoreFrom contents).2.ok = true) :
    (σ.reload files).1 =
      { (σ.restoreFrom contents).1 with
        restored := true
        loadedFromBackup := false
        loadDetail := "snapshot loaded"
        stats.snapshotReads := (σ.restoreFrom contents).1.stats.snapshotReads + 1
        stats.recoveries := (σ.restoreFrom contents).1.stats.recoveries + 0 } := by
  have hprimary : (loadOnce files σ.config.snapshotPath σ.config.policy).recoveredFromBackup =
      false := by
    unfold loadOnce
    split
    · rfl
    · split <;> rfl
  have hread : readSnapshot files σ.config.snapshotPath σ.config.policy =
      loadOnce files σ.config.snapshotPath σ.config.policy := by
    unfold readSnapshot
    simp [SnapshotLoadResult.ok, hload]
  unfold Observatory.reload
  rw [if_neg hpath]
  simp only [hread, hload, hok, hprimary, Bool.not_true, Bool.false_eq_true, ↓reduceIte]

/-- A reading of the source `s` on the link `l` at the instant it is observed. -/
def readingAt (key : MetricKey) (payload : MetricPayload) (revision : UInt64) (instant : Int64) :
    ParsedRecord × TimePoint :=
  (.observation
    { link := ascii "l", source := ascii "s", incarnation := ascii "i", epoch := ascii "e"
      generation := ascii "g", revision := revision, observedAt := instant, receivedAt := instant
      key := key, payload := payload }, ⟨instant⟩)

def declaredRecords : List (ParsedRecord × TimePoint) :=
  [(.source { name := ascii "s", authority := .primary, provenance := .synthetic }, ⟨0⟩),
    (.link { name := ascii "l", generation := ascii "g" }, ⟨0⟩)]

/-- The link is heard of before its states are: the operational state appears, ages out and is
renewed, and the administrative state appears while it is fresh. -/
def renewedRecords : List (ParsedRecord × TimePoint) :=
  declaredRecords ++
    [readingAt { family := .signalQuality } (.quality { valuePpb := 900000000 }) 1 1000000000,
      readingAt kOperKey (.operState .up) 2 2000000000,
      readingAt kOperKey (.operState .up) 3 400000000000,
      readingAt kAdminKey (.adminState .enabled) 4 405000000000]

/-- Both states are renewed after a restart, each while the other is fresh. -/
def resumedRecords : List (ParsedRecord × TimePoint) :=
  [readingAt kOperKey (.operState .up) 5 420000000000,
    readingAt kAdminKey (.adminState .enabled) 6 430000000000]

def storedConfig : RuntimeConfig := { policy := makeDefaultPolicy, snapshotPath := "state" }

/-- The process that took the readings up to the restart, and the one that came after it. -/
def renewedRun : Observatory := (fresh storedConfig).applyAll renewedRecords

def restoredRun : Observatory :=
  let restored := ((fresh storedConfig).restoreFrom
    (renewedRun.collectSnapshot ⟨410000000000⟩)).1
  { restored with
    restored := true
    loadedFromBackup := false
    loadDetail := "snapshot loaded"
    stats.snapshotReads := restored.stats.snapshotReads + 1
    stats.recoveries := restored.stats.recoveries + 0 }

/-- Each state appears once, whatever ages and is renewed before and after the restart. -/
theorem Watched.no_flapping_up : ∃ log events,
    Watched storedConfig (Sustained (deriveLinkId (ascii "l"))) log events
      (restoredRun.applyAll resumedRecords) ∧
    (∀ watch : Watch, (watch.changes (deriveLinkId (ascii "l")) events).length = 1) ∧
    FlapFree (deriveLinkId (ascii "l")) events (restoredRun.applyAll resumedRecords) := by
  have hstart : Watched storedConfig (Sustained (deriveLinkId (ascii "l"))) [] [] _ := .start
  have hrenewed := hstart.foldl renewedRecords (allowedFrom_sustained _ _ _ (by decide +kernel))
  let files : FileSystem := fun _ => some (renewedRun.collectSnapshot ⟨410000000000⟩).container
  obtain ⟨hsound, hconfig⟩ := hrenewed.reached.sound
  have hload := hsound.snapshot_loads ⟨410000000000⟩ files "state"
  rw [hconfig] at hload
  have hload := hload (by decide) (by decide) (by decide +kernel) (by decide) rfl
  have hread : (readSnapshot files "state" storedConfig.policy).contents =
      some (renewedRun.collectSnapshot ⟨410000000000⟩) := by
    rw [readSnapshot_contents, hload]
    rfl
  have hrestarted := hstart.reload files ⟨410000000000⟩ hrenewed (by decide) hread
  have hstate : ((fresh storedConfig).reload files).1 = restoredRun :=
    reload_primary (by decide) hload (by decide +kernel)
  rw [hstate] at hrestarted
  have hresumed := hrestarted.foldl resumedRecords
    (allowedFrom_sustained _ _ _ (by decide +kernel))
  refine ⟨_, _, hresumed, ?_, hresumed.no_flapping ?_⟩
  · intro watch
    cases watch with
    | oper => decide +kernel
    | admin => decide +kernel
  · intro watch
    cases watch with
    | oper => exact ⟨.operState .up, by decide +kernel⟩
    | admin => exact ⟨.adminState .enabled, by decide +kernel⟩

/-- The operational state is reported up, ages until another family is heard of, and is reported up
again: two changes are recorded. -/
theorem Watched.no_flapping_fails :
    ¬ ∀ (config : RuntimeConfig) (log : List Decision) (events : List TransitionEvent)
      (σ : Observatory) (link : LinkId), config.policy.validate.ok = true →
      Watched config (fun _ _ _ => True) log events σ →
      (∀ watch, ∃ payload, Steady watch link payload log) →
      ∀ watch : Watch, (watch.changes link events).length ≤ 1 := by
  intro h
  have hstart : Watched { policy := makeDefaultPolicy } (fun _ _ _ => True) [] [] _ := .start
  have hrun := hstart.foldl (declaredRecords ++
    [readingAt kOperKey (.operState .up) 1 1,
      readingAt kAdminKey (.adminState .enabled) 2 400000000000,
      readingAt kOperKey (.operState .up) 3 400000000000])
    ⟨trivial, trivial, trivial, trivial, trivial, trivial⟩
  have hsteady : ∀ watch, ∃ payload, Steady watch (deriveLinkId (ascii "l")) payload
      ([] ++ decisionsFrom (fresh { policy := makeDefaultPolicy }) (declaredRecords ++
        [readingAt kOperKey (.operState .up) 1 1,
          readingAt kAdminKey (.adminState .enabled) 2 400000000000,
          readingAt kOperKey (.operState .up) 3 400000000000])) := by
    intro watch
    cases watch with
    | oper => exact ⟨.operState .up, by decide +kernel⟩
    | admin => exact ⟨.adminState .enabled, by decide +kernel⟩
  exact absurd (h _ _ _ _ _ (by decide +kernel) hrun hsteady .oper) (by decide +kernel)

end Observatory

end LinkObservatory
