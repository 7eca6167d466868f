import LinkObservatory.History
import LinkObservatory.Independence

namespace LinkObservatory
set_option autoImplicit true

open Std OrderedMap

theorem TransitionLog.recordOn_perLink_of_ne (h : link ≠ other) (log : TransitionLog)
    (event : Option TransitionEvent) :
    (log.recordOn link event).perLink[other]? = log.perLink[other]? := by
  cases event with
  | none => rfl
  | some event =>
    have hlink : ({ event with link := link } : TransitionEvent).normalize.link = link := rfl
    simp only [recordOn, record]
    generalize ({ event with link := link } : TransitionEvent).normalize = normal at *
    subst hlink
    exact lookup_insert_of_ne _ h _

/-- No evidence of a source in the slots of a link. -/
def EvidenceStore.Clear (store : EvidenceStore) (link : LinkId) (source : SourceId) : Prop :=
  ∀ (key : MetricKey) slot, store.slots[SlotKey.mk link key]? = some slot →
    ∀ evidence ∈ slot.history, evidence.source ≠ source

namespace Observatory

/-- Nothing is written that belongs to a link, and of the streams only that of one source. -/
structure Spares (link : LinkId) (source : SourceId) (σ τ : Observatory) : Prop where
  config : τ.config = σ.config
  registered : τ.registry.links[link]? = σ.registry.links[link]?
  sources : τ.registry.sources = σ.registry.sources
  policy : τ.store.policy = σ.store.policy
  slots : ∀ key : MetricKey, τ.store.slots[SlotKey.mk link key]? =
    σ.store.slots[SlotKey.mk link key]?
  streams : ∀ other : SourceId, source ≠ other → τ.store.streams[other]? = σ.store.streams[other]?
  limits : τ.transitions.limits = σ.transitions.limits
  ring : τ.transitions.perLink[link]? = σ.transitions.perLink[link]?
  state : τ.observedStates[link]? = σ.observedStates[link]?
  operText : τ.lastOperText[link]? = σ.lastOperText[link]?
  adminText : τ.lastAdminText[link]? = σ.lastAdminText[link]?

theorem Spares.refl (link : LinkId) (source : SourceId) (σ : Observatory) :
    Spares link source σ σ := by
  constructor <;> intros <;> rfl

theorem Spares.trans {σ τ ρ : Observatory} (h : Spares link source σ τ)
    (h' : Spares link source τ ρ) : Spares link source σ ρ where
  config := h'.config.trans h.config
  registered := h'.registered.trans h.registered
  sources := h'.sources.trans h.sources
  policy := h'.policy.trans h.policy
  slots key := (h'.slots key).trans (h.slots key)
  streams other hne := (h'.streams other hne).trans (h.streams other hne)
  limits := h'.limits.trans h.limits
  ring := h'.ring.trans h.ring
  state := h'.state.trans h.state
  operText := h'.operText.trans h.operText
  adminText := h'.adminText.trans h.adminText

theorem Spares.apply (hlink : observation.link ≠ link) (effect : Effect) (σ : Observatory) :
    Spares link observation.provenance.source σ (effect.apply observation σ) where
  config := rfl
  registered := lookup_put_of_ne _ hlink _
  sources := rfl
  policy := rfl
  slots key := by
    apply lookup_put_of_ne
    intro heq
    exact hlink (SlotKey.mk.inj heq).1
  streams other hne := lookup_put_of_ne _ hne _
  limits := recordOn_limits _ _ _
  ring := TransitionLog.recordOn_perLink_of_ne hlink _ _
  state := lookup_put_of_ne _ hlink _
  operText := lookup_put_of_ne _ hlink _
  adminText := lookup_put_of_ne _ hlink _

theorem Spares.run (hlink : observation.link ≠ link) (effects : List Effect) (σ : Observatory) :
    Spares link observation.provenance.source σ (Effect.run observation effects σ) := by
  induction effects generalizing σ with
  | nil => exact .refl _ _ σ
  | cons effect effects ih => exact (Spares.apply hlink effect σ).trans (ih _)

/-- A state in which the link, its evidence and its source were spared looks the same to an
observation, unless the store has become full in the meantime. -/
theorem Spares.alike {σ τ : Observatory} (h : Spares observation.link source σ τ)
    (hsource : source ≠ observation.provenance.source)
    (hlink : (σ.registry.links[observation.link]?).isSome)
    (hclear : σ.store.Clear observation.link source)
    (hroom : σ.store.slots[SlotKey.mk observation.link observation.key]? = none →
      τ.store.full = σ.store.full) : Alike observation σ τ where
  config := h.config
  link := by
    obtain ⟨state, hstate⟩ := Option.isSome_iff_exists.1 hlink
    exact ⟨state, hstate, h.registered.trans hstate⟩
  source := by rw [h.sources]
  store := ⟨h.policy, h.slots _, h.streams _ hsource, hroom⟩
  slots := by
    refine ⟨h.policy, h.slots, ?_⟩
    intro key slot hslot evidence hmem
    exact h.streams _ (hclear key slot hslot evidence hmem).symm
  limits := h.limits
  ring := h.ring
  state := h.state
  operText := h.operText
  adminText := h.adminText

theorem Alike.refl {σ : Observatory} (hlink : (σ.registry.links[observation.link]?).isSome) :
    Alike observation σ σ := by
  obtain ⟨state, hstate⟩ := Option.isSome_iff_exists.1 hlink
  refine ⟨rfl, ⟨state, hstate, hstate⟩, rfl, ⟨rfl, rfl, rfl, fun _ => rfl⟩, ⟨rfl, ?_, ?_⟩, rfl, rfl,
    rfl, rfl, rfl⟩
  · intro key
    rfl
  · intros
    rfl

theorem applyObservation_slots_size (σ : Observatory) (observation : Observation)
    (instant : TimePoint) :
    (σ.applyObservation observation instant).1.store.slots.size = σ.store.slots.size ∨
      (σ.store.slots[SlotKey.mk observation.link observation.key]? = none ∧
        (σ.applyObservation observation instant).1.store.slots.size =
          σ.store.slots.size + 1) := by
  cases haccepted : (σ.applyObservation observation instant).2.accepted with
  | false => exact .inl (by rw [applyObservation_slots_refused haccepted])
  | true =>
    obtain ⟨source, ensured, observed, hstep⟩ := applyObservation_accepted haccepted
    rcases σ.store.accept_slots observation (observed.acceptContext observation source) instant
      with ⟨hno, -⟩ | ⟨-, _, slot, -, -, hslots, -⟩
    · rw [hstep.accepts, haccepted] at hno
      cases hno
    rw [hstep.accepts] at hslots
    simp only at hslots
    rw [hslots, size_insert_eq]
    cases hslot : σ.store.slots[SlotKey.mk observation.link observation.key]? with
    | some held => exact .inl (if_pos rfl)
    | none => exact .inr ⟨rfl, rfl⟩

/-- Both observations would open a slot, and the store has room for one only. -/
def LastSlot (σ : Observatory) (a b : Observation) : Prop :=
  σ.store.slots[SlotKey.mk a.link a.key]? = none ∧ σ.store.slots[SlotKey.mk b.link b.key]? = none ∧
    σ.store.slots.size + 1 = (σ.store.policy.limits.maxLinks * kMaxKeysPerLink).toNat

theorem applyObservation_full {σ : Observatory} (hroom : ¬σ.LastSlot a b) (instant : TimePoint)
    (hpolicy : (σ.applyObservation b instant).1.store.policy = σ.store.policy)
    (hnew : σ.store.slots[SlotKey.mk a.link a.key]? = none) :
    (σ.applyObservation b instant).1.store.full = σ.store.full := by
  unfold EvidenceStore.full
  rw [hpolicy]
  rcases σ.applyObservation_slots_size b instant with hsize | ⟨hnone, hsize⟩
  · rw [hsize]
  · have hne : σ.store.slots.size + 1 ≠
        (σ.store.policy.limits.maxLinks * kMaxKeysPerLink).toNat := fun heq =>
      hroom ⟨hnew, hnone, heq⟩
    rw [hsize, decide_eq_decide]
    omega

theorem Reached.not_lastSlot {config : RuntimeConfig} (h : Reached config log σ)
    (hbound : config.policy.limits.maxLinks.toNat * 256 < 2 ^ 64) (hlink : a.link ≠ b.link)
    (ha : (σ.registry.links[a.link]?).isSome) (hb : (σ.registry.links[b.link]?).isSome) :
    ¬σ.LastSlot a b := by
  rintro ⟨hnone, hnone', hlast⟩
  obtain ⟨hs, rfl⟩ := h.sound
  have hheld (slotKey : SlotKey) :
      slotKey ∈ σ.store.slots.keys ↔ (σ.store.slots[slotKey]?).isSome := by
    rw [ExtTreeMap.mem_keys, ExtTreeMap.mem_iff_isSome_getElem?]
  have hkeys : (SlotKey.mk a.link a.key :: SlotKey.mk b.link b.key :: σ.store.slots.keys).Nodup := by
    rw [List.nodup_cons, List.nodup_cons, List.mem_cons, hheld, hheld, hnone, hnone']
    refine ⟨?_, Bool.false_ne_true, ExtTreeMap.nodup_keys⟩
    rintro (heq | hmem)
    · exact hlink (SlotKey.mk.inj heq).1
    · cases hmem
  have hall : ∀ other ∈ SlotKey.mk a.link a.key :: SlotKey.mk b.link b.key :: σ.store.slots.keys,
      (σ.registry.links[other.link]?).isSome := by
    intro other hmem
    rcases List.mem_cons.1 hmem with rfl | hmem
    · exact ha
    rcases List.mem_cons.1 hmem with rfl | hmem
    · exact hb
    obtain ⟨slot, hslot⟩ := Option.isSome_iff_exists.1 ((hheld other).1 hmem)
    exact h.slotsLinked other slot hslot
  have hsize := EvidenceStore.slotKeys_length_le hkeys hall
  rw [List.length_cons, List.length_cons, ExtTreeMap.length_keys] at hsize
  rw [hs.storePolicy, UInt64.toNat_mul, show kMaxKeysPerLink.toNat = 256 from rfl,
    Nat.mod_eq_of_lt hbound] at hlast
  have hcount := hs.registry.linkCount
  rw [hs.registryPolicy] at hcount
  have hmost := Nat.mul_le_mul_right 256 hcount
  omega

end Observatory

/-- The events that effects record, as the log keeps them. -/
def Effect.eventsOf (observation : Observation) (effects : List Effect) : List TransitionEvent :=
  effects.filterMap fun effect => effect.event.map fun event =>
    ({ event with link := observation.link } : TransitionEvent).normalize

theorem Effect.eventsOf_link {event : TransitionEvent} (h : event ∈ Effect.eventsOf observation effects) :
    event.link = observation.link := by
  obtain ⟨effect, -, hevent⟩ := List.mem_filterMap.1 h
  obtain ⟨recorded, -, rfl⟩ := Option.map_eq_some_iff.1 hevent
  rfl

theorem Effect.run_limits (observation : Observation) (effects : List Effect) (σ : Observatory) :
    (Effect.run observation effects σ).transitions.limits = σ.transitions.limits := by
  induction effects generalizing σ with
  | nil => rfl
  | cons effect effects ih => exact (ih _).trans (Observatory.recordOn_limits _ _ _)

theorem Effect.run_global {σ : Observatory} (observation : Observation) (effects : List Effect)
    (h : σ.transitions.global.length ≤ σ.transitions.limits.maxTotalTransitions.toNat) :
    (Effect.run observation effects σ).transitions.global =
      Ring.evict σ.transitions.limits.maxTotalTransitions.toNat
        (σ.transitions.global ++ Effect.eventsOf observation effects) := by
  induction effects generalizing σ with
  | nil =>
    rw [Effect.eventsOf, List.filterMap_nil, List.append_nil, Ring.evict_of_le h]
    rfl
  | cons effect effects ih =>
    have hlimits : (effect.apply observation σ).transitions.limits = σ.transitions.limits :=
      Observatory.recordOn_limits _ _ _
    have hglobal : (effect.apply observation σ).transitions.global =
        Ring.evict σ.transitions.limits.maxTotalTransitions.toNat
          (σ.transitions.global ++ Effect.eventsOf observation [effect]) := by
      cases hevent : effect.event with
      | none =>
        simp only [Effect.apply, TransitionLog.recordOn, Effect.eventsOf, hevent, Option.map_none,
          List.filterMap_cons_none, List.filterMap_nil, List.append_nil]
        exact (Ring.evict_of_le h).symm
      | some event =>
        simp only [Effect.apply, TransitionLog.recordOn, Effect.eventsOf, hevent, Option.map_some,
          List.filterMap_cons, List.filterMap_nil]
        rfl
    have hbounded : (effect.apply observation σ).transitions.global.length ≤
        (effect.apply observation σ).transitions.limits.maxTotalTransitions.toNat := by
      rw [hlimits, hglobal, Ring.evict_length]
      exact Nat.min_le_left _ _
    have hsplit : Effect.eventsOf observation (effect :: effects) =
        Effect.eventsOf observation [effect] ++ Effect.eventsOf observation effects := by
      unfold Effect.eventsOf
      rw [← List.filterMap_append]
      rfl
    show (Effect.run observation effects (effect.apply observation σ)).transitions.global = _
    rw [ih hbounded, hlimits, hglobal, Ring.evict_append, hsplit, List.append_assoc]

namespace Observatory

/-- The two orders lead to the same state up to the global ring; there the events of the first
observation come before or after those of the second. -/
structure Interchanged (σ ab ba : Observatory) (a b : Observation) : Prop where
  same : ab.SameButOrder ba
  global : ∃ first second : List TransitionEvent,
    (∀ event ∈ first, event.link = a.link) ∧ (∀ event ∈ second, event.link = b.link) ∧
    ab.transitions.global = Ring.evict σ.config.policy.limits.maxTotalTransitions.toNat
      (σ.transitions.global ++ first ++ second) ∧
    ba.transitions.global = Ring.evict σ.config.policy.limits.maxTotalTransitions.toNat
      (σ.transitions.global ++ second ++ first) ∧
    (first.length + second.length ≤ σ.config.policy.limits.maxTotalTransitions.toNat →
      ab.transitions.global.Perm ba.transitions.global)

/-- Observations of different sources and links that share no evidence may change places. -/
theorem Reached.interchange {config : RuntimeConfig} (h : Reached config log σ)
    (a b : ObservationDecl) (instant : TimePoint)
    (hsource : (makeObservation a).provenance.source ≠ (makeObservation b).provenance.source)
    (hlink : (makeObservation a).link ≠ (makeObservation b).link)
    (ha : (σ.registry.links[(makeObservation a).link]?).isSome)
    (hb : (σ.registry.links[(makeObservation b).link]?).isSome)
    (hclear : σ.store.Clear (makeObservation a).link (makeObservation b).provenance.source)
    (hclear' : σ.store.Clear (makeObservation b).link (makeObservation a).provenance.source)
    (hroom : config.policy.limits.maxLinks.toNat * 256 < 2 ^ 64 ∨
      ¬σ.LastSlot (makeObservation a) (makeObservation b)) :
    σ.Interchanged
      ((σ.applyRecord (.observation a) instant).1.applyRecord (.observation b) instant).1
      ((σ.applyRecord (.observation b) instant).1.applyRecord (.observation a) instant).1
      (makeObservation a) (makeObservation b) := by
  simp only [applyRecord]
  generalize makeObservation a = a at *
  generalize makeObservation b = b at *
  have hfree : ¬σ.LastSlot a b := by
    rcases hroom with hbound | hfree
    · exact h.not_lastSlot hbound hlink ha hb
    · exact hfree
  have hfree' : ¬σ.LastSlot b a := by
    rintro ⟨hnone, hnone', hlast⟩
    exact hfree ⟨hnone', hnone, hlast⟩
  have hspares : Spares b.link a.provenance.source σ (σ.applyObservation a instant).1 := by
    obtain ⟨effects, heffects, -⟩ := ((Alike.refl ha).applyObservation instant).effects
    rw [heffects]
    exact .run hlink effects σ
  have hspares' : Spares a.link b.provenance.source σ (σ.applyObservation b instant).1 := by
    obtain ⟨effects, heffects, -⟩ := ((Alike.refl hb).applyObservation instant).effects
    rw [heffects]
    exact .run hlink.symm effects σ
  have halike := hspares.alike hsource hb hclear' (applyObservation_full hfree' instant hspares.policy)
  have halike' := hspares'.alike hsource.symm ha hclear
    (applyObservation_full hfree instant hspares'.policy)
  obtain ⟨second, hsecond, hab⟩ := (halike.applyObservation instant).effects
  obtain ⟨first, hfirst, hba⟩ := (halike'.applyObservation instant).effects
  rw [hab, hba, hfirst, hsecond]
  obtain ⟨hs, rfl⟩ := h.sound
  have hglobal := hs.log_bounded.global
  have hboth (x y : Observation) (xs ys : List Effect) :
      (Effect.run y ys (Effect.run x xs σ)).transitions.global =
        Ring.evict σ.config.policy.limits.maxTotalTransitions.toNat
          (σ.transitions.global ++ Effect.eventsOf x xs ++ Effect.eventsOf y ys) := by
    have hlimits : (Effect.run x xs σ).transitions.limits = σ.config.policy.limits := by
      rw [Effect.run_limits, hs.logLimits]
    rw [Effect.run_global y ys, Effect.run_global x xs hglobal, hlimits, hs.logLimits,
      Ring.evict_append]
    rw [Effect.run_global x xs hglobal, hlimits, hs.logLimits, Ring.evict_length]
    exact Nat.min_le_left _ _
  refine ⟨Effect.run_comm hlink hsource σ first second, Effect.eventsOf a first,
    Effect.eventsOf b second, fun _ => Effect.eventsOf_link, fun _ => Effect.eventsOf_link,
    hboth a b first second, hboth b a second first, ?_⟩
  rw [hboth, hboth]
  exact Ring.evict_swap _

/-- A reading of the link and the source of the given name. -/
def readingOf (name : Bytes) : ObservationDecl :=
  { link := name, source := name, incarnation := ascii "i", epoch := ascii "e"
    generation := ascii "g", revision := 1, payload := .adminState .enabled }

/-- Two sources and two links, declared and not heard of yet. -/
def declaredPair : List (ParsedRecord × TimePoint) :=
  [(.source { name := ascii "l", authority := .primary, provenance := .synthetic }, ⟨0⟩),
    (.source { name := ascii "m", authority := .primary, provenance := .synthetic }, ⟨0⟩),
    (.link { name := ascii "l", generation := ascii "g" }, ⟨0⟩),
    (.link { name := ascii "m", generation := ascii "g" }, ⟨0⟩)]

theorem declaredPair_clear (config : RuntimeConfig) (link : LinkId) (source : SourceId) :
    (Observatory.run config declaredPair).store.Clear link source := by
  intro key slot hslot
  have hstore : (Observatory.run config declaredPair).store = { policy := config.policy } := by
    simp only [Observatory.run, declaredPair, List.foldl_cons, List.foldl_nil, applyRecord,
      applyLink_store, applySource_store]
    rfl
  rw [hstore] at hslot
  simp at hslot

theorem Reached.interchange_pair :
    (Observatory.run { policy := makeDefaultPolicy } declaredPair).Interchanged
      (Observatory.run { policy := makeDefaultPolicy } (declaredPair ++
        [(.observation (readingOf (ascii "l")), ⟨1⟩), (.observation (readingOf (ascii "m")), ⟨1⟩)]))
      (Observatory.run { policy := makeDefaultPolicy } (declaredPair ++
        [(.observation (readingOf (ascii "m")), ⟨1⟩), (.observation (readingOf (ascii "l")), ⟨1⟩)]))
      (makeObservation (readingOf (ascii "l"))) (makeObservation (readingOf (ascii "m"))) :=
  (Reached.run { policy := makeDefaultPolicy } declaredPair).interchange (readingOf (ascii "l"))
    (readingOf (ascii "m")) ⟨1⟩ (by decide +kernel) (by decide +kernel) (by decide +kernel)
    (by decide +kernel) (declaredPair_clear _ _ _) (declaredPair_clear _ _ _)
    (.inl (by decide +kernel))

/-- In a ring for one event it is the event of the second observation that remains. -/
theorem Reached.interchange_fails :
    ¬ ∀ (config : RuntimeConfig) (log : List Decision) (σ : Observatory) (a b : ObservationDecl)
      (instant : TimePoint), config.policy.validate.ok = true → Reached config log σ →
      (makeObservation a).provenance.source ≠ (makeObservation b).provenance.source →
      (makeObservation a).link ≠ (makeObservation b).link →
      (σ.registry.links[(makeObservation a).link]?).isSome →
      (σ.registry.links[(makeObservation b).link]?).isSome →
      σ.store.Clear (makeObservation a).link (makeObservation b).provenance.source →
      σ.store.Clear (makeObservation b).link (makeObservation a).provenance.source →
      ((σ.applyRecord (.observation a) instant).1.applyRecord (.observation b)
          instant).1.SameButOrder
        ((σ.applyRecord (.observation b) instant).1.applyRecord (.observation a) instant).1 ∧
      ((σ.applyRecord (.observation a) instant).1.applyRecord (.observation b)
          instant).1.transitions.global.Perm
        ((σ.applyRecord (.observation b) instant).1.applyRecord (.observation a)
          instant).1.transitions.global := by
  intro h
  obtain ⟨-, hperm⟩ := h { policy := oneEventPolicy } _ _ (readingOf (ascii "l"))
    (readingOf (ascii "m")) ⟨1⟩ (by decide +kernel) (Reached.run _ declaredPair)
    (by decide +kernel) (by decide +kernel) (by decide +kernel) (by decide +kernel)
    (declaredPair_clear _ _ _) (declaredPair_clear _ _ _)
  have hlinks := (hperm.map TransitionEvent.link).mem_iff (a := deriveLinkId (ascii "l"))
  exact absurd (hlinks.2 (by decide +kernel)) (by decide +kernel)

end Observatory

end LinkObservatory
