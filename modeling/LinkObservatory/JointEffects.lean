import LinkObservatory.Commutation
import LinkObservatory.Lib.Agreement

namespace LinkObservatory
set_option autoImplicit true

open Std OrderedMap

namespace LinkRegistry

/-- Writes the record of a link, or leaves the registry as it is. -/
def putLink (registry : LinkRegistry) (link : LinkId) (record : Option LinkRecord) :
    LinkRegistry :=
  { registry with links := put registry.links link record }

theorem putLink_putLink (registry : LinkRegistry) (link : LinkId) (record : Option LinkRecord)
    (new : LinkRecord) :
    (registry.putLink link record).putLink link (some new) = registry.putLink link (some new) := by
  cases record with
  | none => rfl
  | some old => simp only [putLink, put, insert_insert]

/-- Two registries that look the same to a link. -/
structure Agrees (link : LinkId) (registry registry' : LinkRegistry) : Prop where
  policy : registry'.policy = registry.policy
  record : registry'.links[link]? = registry.links[link]?
  room : registry.links[link]? = none →
    (registry'.links.size ≥ registry.policy.limits.maxLinks.toNat ↔
      registry.links.size ≥ registry.policy.limits.maxLinks.toNat)

theorem Agrees.refl (link : LinkId) (registry : LinkRegistry) : Agrees link registry registry :=
  ⟨rfl, rfl, fun _ => Iff.rfl⟩

theorem Agrees.put {registry registry' : LinkRegistry} (h : Agrees link registry registry')
    (record : Option LinkRecord) :
    Agrees link (registry.putLink link record) (registry'.putLink link record) where
  policy := h.policy
  record := by simp only [putLink, lookup_put_self, h.record]
  room hnone := by
    cases record with
    | none => exact h.room hnone
    | some new =>
      simp only [putLink, lookup_put_self] at hnone
      cases hnone

/-- Both registries answer alike, and write the same record of the link. -/
def Both (link : LinkId) (registry registry' : LinkRegistry) (result result' : LinkRegistry × ω) :
    Prop :=
  ∃ record answer, result = (registry.putLink link record, answer) ∧
    result' = (registry'.putLink link record, answer)

theorem Both.unchanged (link : LinkId) (registry registry' : LinkRegistry) (answer : ω) :
    Both link registry registry' (registry, answer) (registry', answer) :=
  ⟨none, answer, rfl, rfl⟩

theorem Agrees.observeGeneration {registry registry' : LinkRegistry}
    (h : Agrees link registry registry') (generation : GenerationId) :
    Both link registry registry' (registry.observeGeneration link generation)
      (registry'.observeGeneration link generation) := by
  unfold LinkRegistry.observeGeneration
  rw [h.record]
  cases registry.links[link]? with
  | none => exact .unchanged _ _ _ _
  | some state => exact ⟨some _, _, rfl, rfl⟩

theorem Agrees.reregisterLink {registry registry' : LinkRegistry} {facts : LinkFacts}
    (h : Agrees facts.id registry registry') (existing : LinkRecord) :
    Both facts.id registry registry' (registry.reregisterLink facts existing)
      (registry'.reregisterLink facts existing) := by
  unfold LinkRegistry.reregisterLink
  split
  · exact .unchanged _ _ _ _
  · dsimp only
    generalize (if !facts.generation.valid then
      { facts with generation := existing.entry.facts.generation } else facts) = merged
    have hobserved : Both facts.id registry registry'
        (if merged.generation ≠ existing.entry.facts.generation then
          registry.observeGeneration facts.id merged.generation else (registry, {}))
        (if merged.generation ≠ existing.entry.facts.generation then
          registry'.observeGeneration facts.id merged.generation else (registry', {})) := by
      split
      · exact h.observeGeneration merged.generation
      · exact .unchanged _ _ _ _
    obtain ⟨record, answer, hfirst, hsecond⟩ := hobserved
    rw [hfirst, hsecond]
    dsimp only
    split
    · exact ⟨record, _, rfl, rfl⟩
    · rw [(h.put record).record]
      cases (registry.putLink facts.id record).links[facts.id]? with
      | none => exact ⟨record, _, rfl, rfl⟩
      | some state =>
        refine ⟨some { state with entry := { state.entry with facts := merged } }, .success, ?_, ?_⟩
        · rw [← putLink_putLink registry facts.id record]
          rfl
        · rw [← putLink_putLink registry' facts.id record]
          rfl

theorem Agrees.registerLink {registry registry' : LinkRegistry} {facts : LinkFacts}
    (h : Agrees facts.id registry registry') (now : TimePoint) :
    Both facts.id registry registry' (registry.registerLink facts now)
      (registry'.registerLink facts now) := by
  unfold LinkRegistry.registerLink
  dsimp only
  split
  · exact .unchanged _ _ _ _
  · rw [h.record, h.policy]
    cases hlink : registry.links[facts.id]? with
    | some existing => exact h.reregisterLink existing
    | none =>
      dsimp only
      by_cases hfull : registry.links.size ≥ registry.policy.limits.maxLinks.toNat
      · rw [if_pos hfull, if_pos ((h.room hlink).2 hfull)]
        exact .unchanged _ _ _ _
      · rw [if_neg hfull, if_neg fun hle => hfull ((h.room hlink).1 hle)]
        exact ⟨some _, _, rfl, by rw [← h.policy]; rfl⟩

def putSource (registry : LinkRegistry) (source : SourceId) (record : Option SourceRecord) :
    LinkRegistry :=
  { registry with sources := put registry.sources source record }

theorem registerSource_both {registry registry' : LinkRegistry} (record : SourceRecord)
    (hpolicy : registry'.policy = registry.policy)
    (hsource : registry'.sources[record.id]? = registry.sources[record.id]?)
    (hroom : registry'.sources.size ≥ registry.policy.limits.maxSources.toNat ↔
      registry.sources.size ≥ registry.policy.limits.maxSources.toNat) :
    ∃ new status, registry.registerSource record = (registry.putSource record.id new, status) ∧
      registry'.registerSource record = (registry'.putSource record.id new, status) := by
  unfold registerSource
  rw [hsource, hpolicy]
  split
  · exact ⟨none, _, rfl, rfl⟩
  split
  · exact ⟨none, _, rfl, rfl⟩
  split
  · exact ⟨none, _, rfl, rfl⟩
  cases registry.sources[record.id]? with
  | some existing =>
    dsimp only
    split
    · exact ⟨none, _, rfl, rfl⟩
    · exact ⟨some _, _, rfl, by rw [← hpolicy]; rfl⟩
  | none =>
    dsimp only
    simp only [hroom]
    split
    · exact ⟨none, _, rfl, rfl⟩
    · exact ⟨some _, _, rfl, by rw [← hpolicy]; rfl⟩

theorem retireSource_both {registry registry' : LinkRegistry}
    (hsource : registry'.sources[source]? = registry.sources[source]?) :
    ∃ new status, registry.retireSource source = (registry.putSource source new, status) ∧
      registry'.retireSource source = (registry'.putSource source new, status) := by
  unfold retireSource
  rw [hsource]
  cases registry.sources[source]? with
  | none => exact ⟨none, _, rfl, rfl⟩
  | some found => exact ⟨some _, _, rfl, rfl⟩

theorem Agrees.ensureImplicitLink {registry registry' : LinkRegistry}
    (h : Agrees link registry registry') (hlink : registry.links[link]? = none)
    (now : TimePoint) :
    (registry'.ensureImplicitLink link link.toString now).2.ok =
        (registry.ensureImplicitLink link link.toString now).2.ok ∧
      ∃ record, ((registry.ensureImplicitLink link link.toString now).2.ok = true →
          record.isSome) ∧
        (registry.ensureImplicitLink link link.toString now).1 = registry.putLink link record ∧
        (registry'.ensureImplicitLink link link.toString now).1 =
          registry'.putLink link record := by
  have hlink' := h.record.trans hlink
  have hok : (registry'.ensureImplicitLink link link.toString now).2.ok =
      (registry.ensureImplicitLink link link.toString now).2.ok := by
    rw [Bool.eq_iff_iff, ensureImplicitLink_ok_iff hlink, ensureImplicitLink_ok_iff hlink',
      h.policy]
    have hroom := h.room hlink
    rw [← Nat.not_le, ← Nat.not_le]
    exact and_congr_right' (and_congr_right' (not_congr hroom))
  refine ⟨hok, ?_⟩
  rw [ensureImplicitLink_fst hlink, ensureImplicitLink_fst hlink', hok]
  cases (registry.ensureImplicitLink link link.toString now).2.ok with
  | true =>
    refine ⟨some (implicitRecord link now), ?_, if_pos rfl, if_pos rfl⟩
    intro _
    rfl
  | false =>
    refine ⟨none, ?_, if_neg Bool.false_ne_true, if_neg Bool.false_ne_true⟩
    intro hfalse
    cases hfalse

end LinkRegistry

namespace Observatory

/-- Both states go on by the same effects. -/
def Jointly (observation : Observation) (σ τ σ' τ' : Observatory) : Prop :=
  ∃ effects, σ' = Effect.run observation effects σ ∧ τ' = Effect.run observation effects τ

theorem Jointly.refl (observation : Observation) (σ τ : Observatory) :
    Jointly observation σ τ σ τ := ⟨[], rfl, rfl⟩

theorem Jointly.trans {σ τ σ' τ' σ'' τ'' : Observatory} (h : Jointly observation σ τ σ' τ')
    (h' : Jointly observation σ' τ' σ'' τ'') : Jointly observation σ τ σ'' τ'' := by
  obtain ⟨effects, hσ, hτ⟩ := h
  obtain ⟨effects', hσ', hτ'⟩ := h'
  refine ⟨effects ++ effects', ?_, ?_⟩
  · rw [hσ', hσ, Effect.run, Effect.run, Effect.run, List.foldl_append]
  · rw [hτ', hτ, Effect.run, Effect.run, Effect.run, List.foldl_append]

theorem Jointly.one {σ τ σ' τ' : Observatory} (effect : Effect)
    (hσ : σ' = effect.apply observation σ) (hτ : τ' = effect.apply observation τ) :
    Jointly observation σ τ σ' τ' :=
  ⟨[effect], hσ, hτ⟩

theorem Jointly.count (observation : Observation) (σ τ : Observatory)
    (counted : RuntimeStatistics) :
    Jointly observation σ τ { σ with stats := σ.stats.plus counted }
      { τ with stats := τ.stats.plus counted } :=
  .one _ (count_effect σ observation counted) (count_effect τ observation counted)

theorem Jointly.countFenced (observation : Observation) (σ τ : Observatory) :
    Jointly observation σ τ σ.countFenced τ.countFenced := by
  have hcount := Jointly.count observation σ τ { recordsFenced := 1 }
  simp only [RuntimeStatistics.plus, UInt64.add_zero] at hcount
  exact hcount

theorem Jointly.countOwnFence (observation : Observation) (σ τ : Observatory)
    (reason : FenceReason) :
    Jointly observation σ τ (σ.countOwnFence reason) (τ.countOwnFence reason) := by
  apply Jointly.one { fence := some reason }
  · simp [Observatory.countOwnFence, Effect.apply, StoreEffect.apply_none, put, bump,
      TransitionLog.recordOn, RuntimeStatistics.plus_zero]
  · simp [Observatory.countOwnFence, Effect.apply, StoreEffect.apply_none, put, bump,
      TransitionLog.recordOn, RuntimeStatistics.plus_zero]

theorem putLink_effect (σ : Observatory) (observation : Observation) (record : Option LinkRecord) :
    { σ with registry := σ.registry.putLink observation.link record } =
      Effect.apply { link := record } observation σ := by
  simp [LinkRegistry.putLink, Effect.apply, StoreEffect.apply_none, put, bump,
    TransitionLog.recordOn, RuntimeStatistics.plus_zero]

theorem Jointly.putLink (observation : Observation) (σ τ : Observatory)
    (record : Option LinkRecord) :
    Jointly observation σ τ { σ with registry := σ.registry.putLink observation.link record }
      { τ with registry := τ.registry.putLink observation.link record } :=
  .one _ (putLink_effect σ observation record) (putLink_effect τ observation record)

/-- Two states that look the same to the handling of an observation, whether its link is registered
or not. -/
structure Fellow (observation : Observation) (σ τ : Observatory) : Prop where
  config : τ.config = σ.config
  registry : LinkRegistry.Agrees observation.link σ.registry τ.registry
  source : τ.registry.sources[observation.provenance.source]? =
    σ.registry.sources[observation.provenance.source]?
  store : EvidenceStore.Alike observation σ.store τ.store
  slots : EvidenceStore.SameFor observation.link σ.store τ.store
  limits : τ.transitions.limits = σ.transitions.limits
  ring : τ.transitions.perLink[observation.link]? = σ.transitions.perLink[observation.link]?
  state : τ.observedStates[observation.link]? = σ.observedStates[observation.link]?
  operText : τ.lastOperText[observation.link]? = σ.lastOperText[observation.link]?
  adminText : τ.lastAdminText[observation.link]? = σ.lastAdminText[observation.link]?

theorem Fellow.refl (observation : Observation) (σ : Observatory) : Fellow observation σ σ := by
  refine ⟨rfl, .refl _ _, rfl, ⟨rfl, rfl, rfl, fun _ => rfl⟩, ⟨rfl, ?_, ?_⟩, rfl, rfl, rfl, rfl,
    rfl⟩
  · intro key
    rfl
  · intros
    rfl

theorem Fellow.alike {σ τ : Observatory} (h : Fellow observation σ τ)
    (hlink : (σ.registry.links[observation.link]?).isSome) : Alike observation σ τ where
  config := h.config
  link := by
    obtain ⟨state, hstate⟩ := Option.isSome_iff_exists.1 hlink
    exact ⟨state, hstate, h.registry.record.trans hstate⟩
  source := h.source
  store := h.store
  slots := h.slots
  limits := h.limits
  ring := h.ring
  state := h.state
  operText := h.operText
  adminText := h.adminText

theorem Fellow.count {σ τ : Observatory} (h : Fellow observation σ τ)
    (counted counted' : RuntimeStatistics) :
    Fellow observation { σ with stats := counted } { τ with stats := counted' } :=
  ⟨h.config, h.registry, h.source, h.store, h.slots, h.limits, h.ring, h.state, h.operText,
    h.adminText⟩

theorem Fellow.putLink {σ τ : Observatory} (h : Fellow observation σ τ)
    (record : Option LinkRecord) :
    Fellow observation { σ with registry := σ.registry.putLink observation.link record }
      { τ with registry := τ.registry.putLink observation.link record } :=
  ⟨h.config, h.registry.put record, h.source, h.store, h.slots, h.limits, h.ring, h.state,
    h.operText, h.adminText⟩

theorem Fellow.acceptInto {σ τ : Observatory} (h : Fellow observation σ τ)
    (source : Option SourceRecord) (enabled : Bool) (instant : TimePoint) :
    Jointly observation σ τ (σ.acceptInto observation source enabled instant).1
        (τ.acceptInto observation source enabled instant).1 ∧
      (τ.acceptInto observation source enabled instant).2 =
        (σ.acceptInto observation source enabled instant).2 := by
  have hgeneration : τ.registry.currentGeneration observation.link =
      σ.registry.currentGeneration observation.link := by
    simp only [LinkRegistry.currentGeneration, h.registry.record]
  unfold Observatory.acceptInto
  simp only [hgeneration]
  obtain ⟨effect, outcome, haccept, haccept'⟩ := h.store.accept
    { source := source, currentGeneration := σ.registry.currentGeneration observation.link
      familyEnabled := enabled } instant
  rw [haccept, haccept']
  have heffect (ρ : Observatory) : { ρ with store := effect.apply observation ρ.store } =
      Effect.apply { store := effect } observation ρ := by
    simp [Effect.apply, put, bump, TransitionLog.recordOn, RuntimeStatistics.plus_zero]
  exact ⟨.one _ (heffect σ) (heffect τ), rfl⟩

theorem Fellow.refuse {σ τ : Observatory} (h : Fellow observation σ τ)
    (source : Option SourceRecord) (enabled : Bool) (instant : TimePoint) :
    Jointly observation σ τ
      (if !(σ.acceptInto observation source enabled instant).2.accepted then
        (σ.acceptInto observation source enabled instant).1.countFenced
        else (σ.acceptInto observation source enabled instant).1)
      (if !(τ.acceptInto observation source enabled instant).2.accepted then
        (τ.acceptInto observation source enabled instant).1.countFenced
        else (τ.acceptInto observation source enabled instant).1) := by
  obtain ⟨haccepted, houtcome⟩ := h.acceptInto source enabled instant
  rw [houtcome]
  apply haccepted.trans
  split
  · exact .countFenced _ _ _
  · exact .refl _ _ _

/-- States that look the same to an observation handle it by the same effects. -/
theorem Fellow.applyObservation {σ τ : Observatory} (h : Fellow observation σ τ)
    (instant : TimePoint) :
    Jointly observation σ τ (σ.applyObservation observation instant).1
      (τ.applyObservation observation instant).1 := by
  cases hlink : σ.registry.links[observation.link]? with
  | some state => exact ((h.alike (by rw [hlink]; rfl)).applyObservation instant).effects
  | none =>
    have hlink' := h.registry.record.trans hlink
    have henabled : τ.config.families.isEnabled observation.key.family =
        σ.config.families.isEnabled observation.key.family := by rw [h.config]
    have hcount := Jointly.count observation σ τ { recordsSubmitted := 1 }
    have hcounted := h.count (σ.stats.plus { recordsSubmitted := 1 })
      (τ.stats.plus { recordsSubmitted := 1 })
    simp only [RuntimeStatistics.plus, UInt64.add_zero] at hcount hcounted
    obtain ⟨hok, record, hsome, hfirst, hsecond⟩ := h.registry.ensureImplicitLink hlink instant
    unfold Observatory.applyObservation
    simp only [LinkRegistry.findSource, LinkRegistry.findLink, henabled, h.source, hlink, hlink']
    generalize σ.config.families.isEnabled observation.key.family = enabled
    apply hcount.trans
    cases σ.registry.sources[observation.provenance.source]? with
    | none => exact hcounted.refuse none enabled instant
    | some source =>
      simp only
      by_cases hretired : source.retired = true
      · simp only [hretired, ↓reduceIte]
        exact hcounted.refuse (some source) enabled instant
      cases enabled with
      | false =>
        simp only [hretired, ↓reduceIte, Bool.not_false, Bool.false_eq_true]
        exact hcounted.refuse (some source) false instant
      | true =>
        simp only [hretired, ↓reduceIte, Bool.not_true, Bool.false_eq_true, Option.map_none,
          Option.isNone_none]
        rw [hfirst, hsecond, hok]
        have hput := hcounted.putLink record
        refine (Jointly.putLink observation _ _ record).trans ?_
        split
        · exact (Jointly.countOwnFence _ _ _ _).trans (.countFenced _ _ _)
        · rename_i hcreated
          have hrecord := hsome (by simpa using hcreated)
          refine ((hput.alike ?_).applyGeneration source instant).effects
          simp only [LinkRegistry.putLink, lookup_put_self, hlink, Option.or_none]
          exact hrecord

end Observatory

end LinkObservatory
