import LinkObservatory.Bounds
import LinkObservatory.Utilization

namespace LinkObservatory
set_option autoImplicit true

open Std

namespace LinkGenerationState

/-- The generation that a step supersedes, if the current one changes. -/
def supersededBy (before after : LinkGenerationState) : List GenerationId :=
  if before.hasGeneration = true ∧ after.currentGeneration ≠ before.currentGeneration then
    [before.currentGeneration] else []

/-- What a link fences, given the generations superseded so far, oldest first. -/
structure Fences (generations : LinkGenerationState) (past : List GenerationId) : Prop where
  retired : generations.retiredGenerations = Ring.evict kMaxRetiredGenerations past
  current : generations.hasGeneration = true →
    generations.currentGeneration ∉ generations.retiredGenerations
  nodup : generations.retiredGenerations.Nodup
  unborn : generations.hasGeneration = false → past = []

theorem fences_empty : Fences {} [] where
  retired := rfl
  current h := by cases h
  nodup := List.nodup_nil
  unborn _ := rfl

theorem supersededBy_self (generations : LinkGenerationState) :
    generations.supersededBy generations = [] := by
  rw [supersededBy, if_neg]
  intro h
  exact h.2 rfl

theorem observe_observe (generations : LinkGenerationState) (generation : GenerationId) :
    ((generations.observe generation).1.observe generation).1 =
      (generations.observe generation).1 := by
  cases hb : (generations.observe generation).2.behind with
  | true =>
    obtain ⟨hsame, -⟩ := generations.observe_behind generation hb
    rw [hsame, hsame]
  | false =>
    obtain ⟨hhas, hcurrent⟩ := generations.observe_current generation hb
    generalize (generations.observe generation).1 = after at *
    unfold observe
    rw [if_neg (by simp [hhas]), if_pos hcurrent]

theorem Fences.observe {generations : LinkGenerationState} (h : generations.Fences past)
    (generation : GenerationId) :
    (generations.observe generation).1.Fences
      (past ++ generations.supersededBy (generations.observe generation).1) := by
  unfold LinkGenerationState.observe
  split
  · -- the first generation of a link supersedes nothing
    rename_i hnone
    have hunborn : generations.hasGeneration = false := by simpa using hnone
    have hpast := h.unborn hunborn
    have hempty : generations.retiredGenerations = [] := by
      rw [h.retired, hpast]
      rfl
    rw [supersededBy, if_neg (by simp [hunborn]), List.append_nil]
    constructor
    · exact h.retired
    · intro _
      rw [hempty]
      exact List.not_mem_nil
    · exact h.nodup
    · intro hfalse
      cases hfalse
  rename_i hhas
  have hborn : generations.hasGeneration = true := by simpa using hhas
  split
  · rw [supersededBy_self, List.append_nil]
    exact h
  split
  · rw [supersededBy_self, List.append_nil]
    exact h
  · rename_i hcurrent hretired
    have hnew : generation ≠ generations.currentGeneration := Ne.symm hcurrent
    rw [supersededBy, if_pos ⟨hborn, hnew⟩]
    constructor
    · show Ring.push _ _ _ = _
      rw [h.retired, Ring.push_evict]
    · intro _ hmem
      rcases Ring.mem_of_mem_push hmem with hold | hlast
      · exact hretired hold
      · exact hnew hlast
    · have hall : (generations.retiredGenerations ++ [generations.currentGeneration]).Nodup := by
        rw [List.nodup_append]
        refine ⟨h.nodup, List.nodup_singleton _, ?_⟩
        intro a ha b hb heq
        rw [List.mem_singleton.1 hb] at heq
        exact h.current hborn (heq ▸ ha)
      exact hall.sublist (Ring.evict_suffix _ _).sublist
    · intro hfalse
      rw [show generations.hasGeneration = false from hfalse] at hborn
      cases hborn

theorem Fences.recent {generations : LinkGenerationState} (h : generations.Fences past)
    (hborn : generations.hasGeneration = true) (hpast : past = before ++ generation :: later)
    (hcount : later.length + 1 ≤ kMaxRetiredGenerations) :
    generations.currentGeneration ≠ generation := by
  intro heq
  apply h.current hborn
  rw [heq, h.retired, hpast, Ring.evict_eq_drop, List.length_append, List.length_cons]
  have hdrop : before.length + (later.length + 1) - kMaxRetiredGenerations ≤ before.length := by
    omega
  rw [List.drop_append_of_le_length hdrop]
  apply List.mem_append_right
  exact List.mem_cons_self ..

end LinkGenerationState

namespace LinkRegistry

/-- Only the named link may change its generations, and only by observing the named one. -/
def Observes (id : LinkId) (generation : GenerationId) (before after : LinkRegistry) : Prop :=
  ∀ link : LinkId, after.generationState link = before.generationState link ∨
    link = id ∧ after.generationState link = ((before.generationState link).observe generation).1

section

variable {id : LinkId} {generation : GenerationId}

theorem Observes.of_generations {before after : LinkRegistry}
    (h : ∀ link : LinkId, (after.links[link]?).map LinkRecord.generations =
      (before.links[link]?).map LinkRecord.generations) : Observes id generation before after := by
  intro link
  apply Or.inl
  rw [generationState_eq, generationState_eq, h]

theorem Observes.refl (registry : LinkRegistry) : Observes id generation registry registry :=
  fun _ => .inl rfl

theorem Observes.trans {a b c : LinkRegistry} (h : Observes id generation a b)
    (h' : Observes id generation b c) : Observes id generation a c := by
  intro link
  rcases h link with hsame | ⟨heq, hobserved⟩
  · rw [← hsame]
    exact h' link
  · apply Or.inr
    rcases h' link with hsame | ⟨-, hagain⟩
    · exact ⟨heq, hsame.trans hobserved⟩
    · rw [hagain, hobserved, LinkGenerationState.observe_observe]
      exact ⟨heq, rfl⟩

/-- Writing the record of one link. -/
theorem Observes.insert {registry : LinkRegistry} {updated : LinkRecord}
    (h : updated.generations = registry.generationState id ∨
      updated.generations = ((registry.generationState id).observe generation).1) :
    Observes id generation registry
      { registry with links := registry.links.insert id updated } := by
  intro link
  rw [generationState_eq, OrderedMap.lookup_insert]
  by_cases hid : id = link
  · subst hid
    rw [if_pos rfl]
    rcases h with hsame | hobserved
    · exact .inl hsame
    · exact .inr ⟨rfl, hobserved⟩
  · rw [if_neg hid, ← generationState_eq]
    exact .inl rfl

end

theorem generationState_some {registry : LinkRegistry} {link : LinkId}
    (h : registry.links[link]? = some state) :
    registry.generationState link = state.generations := by
  unfold generationState
  rw [h]

theorem currentGeneration_eq (registry : LinkRegistry) (link : LinkId) :
    registry.currentGeneration link = if (registry.generationState link).hasGeneration then
      (registry.generationState link).currentGeneration else {} := by
  unfold currentGeneration generationState
  cases registry.links[link]? with
  | none => rfl
  | some state => rfl

theorem updateEntry_currentGeneration (registry : LinkRegistry) (id : LinkId)
    (update : LinkEntry → LinkEntry) (link : LinkId) :
    (registry.updateEntry id update).currentGeneration link = registry.currentGeneration link := by
  rw [currentGeneration_eq, currentGeneration_eq, generationState_eq, generationState_eq,
    updateEntry_generations]

theorem observeGeneration_observes (registry : LinkRegistry) (id : LinkId)
    (generation : GenerationId) :
    Observes id generation registry (registry.observeGeneration id generation).1 := by
  cases hfound : registry.links[id]? with
  | none =>
    unfold observeGeneration
    rw [hfound]
    exact .refl registry
  | some state =>
    rw [observeGeneration_some hfound]
    apply Observes.insert
    rw [generationState_some hfound]
    exact .inr rfl

theorem reregisterLink_observes (registry : LinkRegistry) (facts : LinkFacts)
    (existing : LinkRecord) :
    Observes facts.id facts.generation registry (registry.reregisterLink facts existing).1 := by
  obtain ⟨observed, hobserved, hresult⟩ := registry.reregisterLink_step facts existing
  have hobserves : Observes facts.id facts.generation registry observed := by
    rcases hobserved with rfl | rfl
    · exact .refl _
    · exact registry.observeGeneration_observes _ _
  rcases hresult with hresult | ⟨state, merged, hstate, -, -, hresult⟩
  · rw [hresult]
    exact hobserves
  · rw [hresult]
    apply hobserves.trans
    apply Observes.insert
    rw [generationState_some hstate]
    exact .inl rfl

theorem registerLink_observes (registry : LinkRegistry) (facts : LinkFacts) (now : TimePoint) :
    Observes facts.id facts.generation registry (registry.registerLink facts now).1 := by
  rcases registry.registerLink_step facts now with hsame |
      ⟨-, ⟨existing, -, hagain⟩ | ⟨hnone, -, hnew⟩⟩
  · rw [hsame]
    exact .refl registry
  · rw [hagain]
    exact registry.reregisterLink_observes facts existing
  · rw [hnew]
    apply Observes.insert
    rw [generationState_eq, hnone, newRecord]
    split
    · exact .inr rfl
    · exact .inl rfl

theorem Ensured.observes {registry ensured : LinkRegistry}
    (h : registry.Ensured observation instant ensured) :
    Observes observation.link generation registry ensured := by
  cases h with
  | known _ => exact .refl registry
  | created hlink hok =>
    rw [ensureImplicitLink_fst hlink, hok]
    apply Observes.insert
    rw [generationState_eq, hlink]
    exact .inl rfl

end LinkRegistry

namespace Observatory

theorem applyObservation_observes (σ : Observatory) (observation : Observation)
    (instant : TimePoint) :
    LinkRegistry.Observes observation.link observation.provenance.generation σ.registry
      (σ.applyObservation observation instant).1.registry := by
  have hstep := σ.applyObservation_step observation instant
  generalize (σ.applyObservation observation instant).1 = σ' at *
  generalize (σ.applyObservation observation instant).2 = outcome at *
  cases hstep with
  | refused _ _ _ _ _ hregistry =>
    rw [hregistry]
    exact .refl _
  | unknownLink _ _ _ hlink hok _ hregistry =>
    rw [hregistry, LinkRegistry.ensureImplicitLink_fst hlink, hok]
    exact .refl _
  | behind registry _ _ _ hensured hobs _ _ hregistry =>
    have hobserved := registry.observeGeneration_observes observation.link
      observation.provenance.generation
    rw [hobs] at hobserved
    rw [hregistry]
    apply (hensured.observes.trans hobserved).trans
    exact .of_generations (LinkRegistry.updateEntry_generations _ _ _)
  | decided registry _ _ _ hensured hobs _ _ _ hregistry =>
    have hobserved := registry.observeGeneration_observes observation.link
      observation.provenance.generation
    rw [hobs] at hobserved
    rw [hregistry]
    apply (hensured.observes.trans hobserved).trans
    split
    · exact .of_generations (LinkRegistry.updateEntry_generations _ _ _)
    · exact .of_generations (LinkRegistry.updateEntry_generations _ _ _)

theorem applyLink_observes (σ : Observatory) (declaration : LinkDecl) (instant : TimePoint) :
    LinkRegistry.Observes (makeLinkFacts declaration).id (makeLinkFacts declaration).generation
      σ.registry (σ.applyLink declaration instant).1.registry := by
  have hregistered := σ.registry.registerLink_observes (makeLinkFacts declaration) instant
  unfold applyLink
  simp only
  generalize σ.registry.registerLink (makeLinkFacts declaration) instant = registered at *
  split
  · exact hregistered
  · have hobserved := registered.1.observeGeneration_observes (makeLinkFacts declaration).id
      (makeLinkFacts declaration).generation
    have hboth := hregistered.trans hobserved
    split
    · split
      · exact hboth
      · exact hboth
    · split
      · exact hboth
      · exact hboth

theorem applyRecord_generations (σ : Observatory) (record : ParsedRecord) (instant : TimePoint)
    (link : LinkId) :
    (σ.applyRecord record instant).1.registry.generationState link =
        σ.registry.generationState link ∨
      ∃ generation, (σ.applyRecord record instant).1.registry.generationState link =
        ((σ.registry.generationState link).observe generation).1 := by
  have hmoves {id : LinkId} {generation : GenerationId}
      (h : LinkRegistry.Observes id generation σ.registry
        (σ.applyRecord record instant).1.registry) :
      (σ.applyRecord record instant).1.registry.generationState link =
          σ.registry.generationState link ∨
        ∃ generation, (σ.applyRecord record instant).1.registry.generationState link =
          ((σ.registry.generationState link).observe generation).1 := by
    rcases h link with hsame | ⟨-, hobserved⟩
    · exact .inl hsame
    · exact .inr ⟨generation, hobserved⟩
  cases record with
  | none => exact .inl rfl
  | source declaration =>
    apply Or.inl
    unfold LinkRegistry.generationState
    simp only [applyRecord, applySource_links]
  | link declaration => exact hmoves (σ.applyLink_observes declaration instant)
  | observation declaration => exact hmoves (σ.applyObservation_observes _ instant)

/-- The states a runtime reaches, with the generations of a link that were superseded on the way,
oldest first. A reload continues the history of its snapshot. -/
inductive Superseded (config : RuntimeConfig) (link : LinkId) :
    List GenerationId → Observatory → Prop
  | start : Superseded config link [] (fresh config)
  | record (record : ParsedRecord) (instant : TimePoint) : Superseded config link past σ →
      Superseded config link
        (past ++ (σ.registry.generationState link).supersededBy
          ((σ.applyRecord record instant).1.registry.generationState link))
        (σ.applyRecord record instant).1
  | unread (files : FileSystem) : Superseded config link past σ →
      (config.snapshotPath = "" ∨
        (readSnapshot files config.snapshotPath config.policy).contents = none) →
      Superseded config link past (σ.reload files).1
  | reload (files : FileSystem) (now : TimePoint) : Superseded config link past σ →
      Superseded config link past' σ' → config.snapshotPath ≠ "" →
      (readSnapshot files config.snapshotPath config.policy).contents =
        some (σ'.collectSnapshot now) →
      Superseded config link past' (σ.reload files).1

theorem Reached.superseded {config : RuntimeConfig} (h : Reached config log σ) (link : LinkId) :
    ∃ past, Superseded config link past σ := by
  induction h with
  | start => exact ⟨_, .start⟩
  | record record instant _ ih =>
    obtain ⟨past, hpast⟩ := ih
    exact ⟨_, hpast.record record instant⟩
  | unread files _ hread ih =>
    obtain ⟨past, hpast⟩ := ih
    exact ⟨_, hpast.unread files hread⟩
  | reload files now _ _ hpath hread ih ih' =>
    obtain ⟨past, hpast⟩ := ih
    obtain ⟨past', hpast'⟩ := ih'
    exact ⟨_, hpast.reload files now hpast' hpath hread⟩

theorem Superseded.sound {config : RuntimeConfig} (h : Superseded config link past σ) :
    σ.Sound ∧ σ.config = config := by
  have hreached : ∃ log, Reached config log σ := by
    induction h with
    | start => exact ⟨_, .start⟩
    | record record instant _ ih =>
      obtain ⟨log, hlog⟩ := ih
      exact ⟨_, hlog.record record instant⟩
    | unread files _ hread ih =>
      obtain ⟨log, hlog⟩ := ih
      exact ⟨_, hlog.unread files hread⟩
    | reload files now _ _ hpath hread ih ih' =>
      obtain ⟨log, hlog⟩ := ih
      obtain ⟨log', hlog'⟩ := ih'
      exact ⟨_, hlog.reload files now hlog' hpath hread⟩
  obtain ⟨log, hlog⟩ := hreached
  exact hlog.sound

theorem Superseded.fences {config : RuntimeConfig} (h : Superseded config link past σ) :
    (σ.registry.generationState link).Fences past := by
  induction h with
  | start => exact LinkGenerationState.fences_empty
  | record record instant _ ih =>
    rename_i past σ _
    rcases σ.applyRecord_generations record instant link with hsame | ⟨generation, hobserved⟩
    · rw [hsame, LinkGenerationState.supersededBy_self, List.append_nil]
      exact ih
    · rw [hobserved]
      exact ih.observe generation
  | unread files hrun hread ih =>
    obtain ⟨-, rfl⟩ := hrun.sound
    rw [(reload_unread hread).2.registry]
    exact ih
  | reload files now hrun hrun' hpath hread _ ih' =>
    obtain ⟨hs, rfl⟩ := hrun.sound
    have hrecovers := hrun'.sound.1.reload hs hrun'.sound.2.symm hpath hread
    rw [hrecovers.registry]
    exact ih'

theorem applyObservation_current (σ : Observatory) (observation : Observation)
    (instant : TimePoint) (h : (σ.applyObservation observation instant).2.accepted = true) :
    (σ.applyObservation observation instant).1.registry.currentGeneration observation.link =
      observation.provenance.generation := by
  obtain ⟨source, ensured, observed, hstep⟩ := applyObservation_accepted h
  obtain ⟨state, hstate, -⟩ := hstep.ensures.lookup
  have hcurrent := LinkRegistry.currentGeneration_observed hstate hstep.current
  rw [hstep.observes] at hcurrent
  rw [hstep.registry]
  exact (LinkRegistry.updateEntry_currentGeneration _ _ _ _).trans hcurrent

theorem evaluateEvidence_other (σ : Observatory) (link : LinkId) (key : MetricKey)
    (now : TimePoint) (hvalid : (σ.registry.currentGeneration link).valid = true)
    (evidence : Evidence)
    (hother : evidence.observation.provenance.generation ≠ σ.registry.currentGeneration link) :
    (σ.store.evaluateEvidence link key (σ.classificationInput link now).context
      evidence).eligible = false := by
  have hbehind : (evidence.observation.provenance.generation ==
      σ.registry.currentGeneration link) = false := by simpa using hother
  show (_ && _ && (!(σ.registry.currentGeneration link).valid || _)) = false
  rw [hvalid, Bool.not_true, Bool.false_or]
  exact (congrArg _ hbehind).trans (Bool.and_false _)

/-- Generations of every link with one are fenced, and accepted evidence is of the current one. -/
theorem Reached.generations_fenced {config : RuntimeConfig} (h : Reached config log σ) :
    (∀ (link : LinkId) (state : LinkRecord), σ.registry.links[link]? = some state →
      state.generations.hasGeneration = true →
      (state.generations.currentGeneration ∉ state.generations.retiredGenerations ∧
        state.generations.retiredGenerations.Nodup ∧
        state.generations.retiredGenerations.length ≤ 32) ∧
      ((∃ past, Superseded config link past σ) ∧
        ∀ past before generation later, Superseded config link past σ →
          past = before ++ generation :: later → later.length + 1 ≤ 32 →
          state.generations.currentGeneration ≠ generation) ∧
      (state.generations.currentGeneration.valid = true →
        ∀ (key : MetricKey) (now : TimePoint) (evidence : Evidence),
          evidence.observation.provenance.generation ≠ state.generations.currentGeneration →
          (σ.store.evaluateEvidence link key (σ.classificationInput link now).context
            evidence).eligible = false)) ∧
    ∀ (declaration : ObservationDecl) (instant : TimePoint),
      (σ.applyObservation (makeObservation declaration) instant).2.accepted = true →
      (σ.applyObservation (makeObservation declaration) instant).1.registry.currentGeneration
          (makeObservation declaration).link =
        (makeObservation declaration).provenance.generation := by
  constructor
  · intro link state hlink hborn
    have hstate := LinkRegistry.generationState_some hlink
    obtain ⟨past, hpast⟩ := h.superseded link
    have hfences := hpast.fences
    rw [hstate] at hfences
    have hcurrent : σ.registry.currentGeneration link = state.generations.currentGeneration := by
      rw [LinkRegistry.currentGeneration_eq, hstate, if_pos hborn]
    refine ⟨⟨hfences.current hborn, hfences.nodup, ?_⟩, ⟨⟨past, hpast⟩, ?_⟩, ?_⟩
    · exact (h.sound.1.registry.links link state hlink).retired
    · intro past' before generation later hpast' hsplit hcount
      have hfences' := hpast'.fences
      rw [hstate] at hfences'
      exact hfences'.recent hborn hsplit hcount
    · intro hvalid key now evidence hother
      rw [← hcurrent] at hvalid hother
      exact σ.evaluateEvidence_other link key now hvalid evidence hother
  · intro declaration instant haccepted
    exact σ.applyObservation_current (makeObservation declaration) instant haccepted

/-- A link that is declared again under a new generation. -/
def redeclaredRecords : List (ParsedRecord × TimePoint) :=
  [(.link { name := ascii "l", generation := ascii "g" }, ⟨0⟩),
    (.link { name := ascii "l", generation := ascii "h" }, ⟨1⟩)]

theorem Reached.generations_fenced_twice :
    ∃ state, (Observatory.run { policy := makeDefaultPolicy } redeclaredRecords).registry.links[
        deriveLinkId (ascii "l")]? = some state ∧
      state.generations.retiredGenerations = [.fromName (ascii "g")] ∧
      state.generations.currentGeneration ∉ state.generations.retiredGenerations := by
  have hreached := Reached.run { policy := makeDefaultPolicy } redeclaredRecords
  have hknown : ((Observatory.run { policy := makeDefaultPolicy } redeclaredRecords).registry.links[
      deriveLinkId (ascii "l")]?).any (fun state => state.generations.hasGeneration &&
        state.generations.retiredGenerations == [.fromName (ascii "g")]) = true := by
    decide +kernel
  obtain ⟨state, hstate, hboth⟩ := (Option.any_eq_true _ _).1 hknown
  obtain ⟨hborn, hretired⟩ := Bool.and_eq_true_iff.1 hboth
  have hfenced := hreached.generations_fenced.1 _ state hstate hborn
  exact ⟨state, hstate, eq_of_beq hretired, hfenced.1.1⟩

/-- Both halves of the history can be undone: a reload of an older snapshot brings a superseded
generation back, and an identity of zero is taken for no generation at all. -/
theorem Reached.generations_fenced_fails :
    (¬ ∀ (config : RuntimeConfig) (log : List Decision) (σ : Observatory) (record : ParsedRecord)
      (instant now : TimePoint) (files : FileSystem) (link : LinkId),
      Reached config log σ → (σ.registry.generationState link).hasGeneration = true →
      (σ.applyRecord record instant).1.registry.currentGeneration link ≠
        σ.registry.currentGeneration link →
      config.snapshotPath ≠ "" →
      (readSnapshot files config.snapshotPath config.policy).contents =
        some (σ.collectSnapshot now) →
      ((σ.applyRecord record instant).1.reload files).1.registry.currentGeneration link ≠
        σ.registry.currentGeneration link) ∧
    ¬ ∀ (config : RuntimeConfig) (log : List Decision) (σ : Observatory) (link : LinkId)
      (key : MetricKey) (now : TimePoint) (candidate : EvaluatedEvidence),
      Reached config log σ → (σ.registry.generationState link).hasGeneration = true →
      candidate ∈ σ.store.contenders link key (σ.classificationInput link now).context →
      candidate.evidence.observation.provenance.generation ≠
        σ.registry.currentGeneration link →
      candidate.eligible = false := by
  constructor
  · intro h
    let config : RuntimeConfig := { snapshotPath := "state", policy := makeDefaultPolicy }
    let declared := redeclaredRecords.take 1
    let again : ParsedRecord := .link { name := ascii "l", generation := ascii "h" }
    have hreached := Reached.run config declared
    obtain ⟨hsound, hconfig⟩ := hreached.sound
    have hmoved := ((hreached.record again ⟨1⟩).sound).1
    have hread : (readSnapshot (fun _ => some ((Observatory.run config declared).collectSnapshot
        ⟨2⟩).container) "state" makeDefaultPolicy).contents =
        some ((Observatory.run config declared).collectSnapshot ⟨2⟩) := by
      have hreads := hsound.snapshot_reads ⟨2⟩ (fun _ => some
        ((Observatory.run config declared).collectSnapshot ⟨2⟩).container) "state"
      rw [hconfig] at hreads
      exact hreads (by decide) (by decide) (by decide +kernel) (by decide) rfl
    have hrecovers := hsound.reload hmoved (applyRecord_config _ _ _) (by
      rw [applyRecord_config, hconfig]
      decide) (by
      rw [applyRecord_config, hconfig]
      exact hread)
    refine h config _ _ again ⟨1⟩ ⟨2⟩ _ (deriveLinkId (ascii "l")) hreached (by decide +kernel)
      (by decide +kernel) (by decide) hread ?_
    rw [hrecovers.registry]
  · intro h
    have hreached := Reached.run { policy := makeDefaultPolicy } unnamedGenerationRecords
    have hfound : ((Observatory.run { policy := makeDefaultPolicy }
        unnamedGenerationRecords).store.contenders (deriveLinkId (ascii "l")) kOctetsKey
        ((Observatory.run { policy := makeDefaultPolicy }
          unnamedGenerationRecords).classificationInput (deriveLinkId (ascii "l"))
            ⟨1001000⟩).context).any (fun candidate => candidate.eligible &&
          candidate.evidence.observation.provenance.generation !=
            (Observatory.run { policy := makeDefaultPolicy }
              unnamedGenerationRecords).registry.currentGeneration
                (deriveLinkId (ascii "l"))) = true := by
      decide +kernel
    obtain ⟨candidate, hmem, hboth⟩ := List.any_eq_true.1 hfound
    obtain ⟨heligible, hother⟩ := Bool.and_eq_true_iff.1 hboth
    have hnot := h _ _ _ _ kOctetsKey ⟨1001000⟩ candidate hreached (by decide +kernel) hmem
      (by simpa using hother)
    rw [heligible] at hnot
    cases hnot

end Observatory

end LinkObservatory
