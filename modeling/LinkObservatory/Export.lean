import LinkObservatory.Contenders
import LinkObservatory.Formatting
import LinkObservatory.Lineage
import LinkObservatory.RoundTrip

namespace LinkObservatory
set_option autoImplicit true

open Std Splitting Selection

/-- The declaration that an observation is exported as: its identities stand where names stood. -/
def exportDecl (linkName sourceName : Bytes) (observation : Observation) : ObservationDecl :=
  { link := linkName
    source := sourceName
    incarnation := observation.provenance.incarnation.toString
    epoch := observation.provenance.epoch.toString
    generation := observation.provenance.generation.toString
    revision := observation.provenance.sequence
    observedAt := observation.observedAt.nanos
    receivedAt := observation.receivedAt.nanos
    key := observation.key
    payload := observation.payload }

def formatObservationRecord (linkName sourceName : Bytes) (observation : Observation) : Bytes :=
  formatRecord (.observation (exportDecl linkName sourceName observation))

/-- The line that the export command writes for an observation of a link. -/
def exportLine (entry : LinkEntry) (observation : Observation) : Bytes :=
  formatObservationRecord entry.facts.name observation.provenance.source.toString observation

/-- The line is accepted, and what it declares is the observation again. -/
def Reproduces (policy : Policy) (line : Bytes) (observation : Observation) : Prop :=
  ∃ declaration, parseRecord line policy = .ok (.observation declaration) ∧
    makeObservation declaration = observation

namespace Observatory

/-- The evidence of a link that queries give: for each key the newest of each source. -/
def linkEvidence (σ : Observatory) (link : LinkId) (limit : Nat) (now : TimePoint) :
    List Evidence :=
  let generation := σ.registry.currentGeneration link
  let found := (σ.store.keysFor link).flatMap fun key =>
    (σ.store.contenders link key
      { now := now, currentGeneration := generation, hasGeneration := generation.valid }).map
      EvaluatedEvidence.evidence
  found.take (min limit σ.config.policy.limits.maxResultRows.toNat)

/-- The lines of an export of one link, or of all of them. -/
def runExport (σ : Observatory) (only : Option Bytes) (now : TimePoint) : List Bytes :=
  let links := σ.registry.links.toList.map fun item => item.2.entry
  (links.filter fun entry => only.all fun name => entry.facts.id == deriveLinkId name).flatMap
    fun entry => (σ.linkEvidence entry.facts.id 4096 now).map fun evidence =>
      exportLine entry evidence.observation

/-- The observation is retained as evidence of a registered link. -/
def Retained (σ : Observatory) (entry : LinkEntry) (observation : Observation) : Prop :=
  ∃ slotKey : SlotKey, σ.registry.findLink slotKey.link = some entry ∧
    ∃ evidence ∈ (σ.store.slotFor slotKey).history, evidence.observation = observation

end Observatory

theorem isTokenCharacter_hexDigit (byte : UInt8) :
    isTokenCharacter (hexDigit (byte >>> 4).toUInt64) = true ∧
      isTokenCharacter (hexDigit (byte &&& 0x0F).toUInt64) = true := by
  have hall : ∀ n : Fin 256, isTokenCharacter (hexDigit (UInt8.ofFin n >>> 4).toUInt64) = true ∧
      isTokenCharacter (hexDigit (UInt8.ofFin n &&& 0x0F).toUInt64) = true := by
    decide +kernel
  exact hall byte.toFin

theorem hexWord_token {value : UInt64} (hmem : character ∈ hexWord value) :
    isTokenCharacter character = true := by
  obtain ⟨byte, -, hdigit⟩ := List.mem_flatMap.1 hmem
  rcases List.mem_pair.1 hdigit with rfl | rfl
  · exact (isTokenCharacter_hexDigit byte).1
  · exact (isTokenCharacter_hexDigit byte).2

theorem StrongId.isToken_toString (id : StrongId kind) : isToken id.toString = true := by
  have hkind : (kind.name ++ ascii "-").length ≤ 12 ∧ kind.name ++ ascii "-" ≠ [] ∧
      ∀ character ∈ kind.name ++ ascii "-", isTokenCharacter character = true := by
    cases kind <;> decide +kernel
  obtain ⟨hlength, hne, htokens⟩ := hkind
  unfold isToken StrongId.toString toHex
  simp only [Bool.and_eq_true, bne_iff_ne, decide_eq_true_eq, List.all_eq_true]
  refine ⟨⟨?_, ?_⟩, ?_⟩
  · exact List.append_ne_nil_of_left_ne_nil hne _
  · have hbody : (hexWord id.hash.hi ++ hexWord id.hash.lo).length = 32 := by
      rw [List.length_append, hexWord_length, hexWord_length]
    rw [List.length_append, hbody]
    omega
  · intro character hmem
    rcases List.mem_append.1 hmem with hmem | hmem
    · exact htokens character hmem
    · rcases List.mem_append.1 hmem with hmem | hmem
      · exact hexWord_token hmem
      · exact hexWord_token hmem

namespace Observatory

theorem linkEvidence_retained {σ : Observatory} {entry : LinkEntry}
    (hentry : σ.registry.findLink link = some entry)
    (hmem : evidence ∈ σ.linkEvidence link limit now) : σ.Retained entry evidence.observation := by
  obtain ⟨key, -, hfound⟩ := List.mem_flatMap.1 (List.mem_of_mem_take hmem)
  obtain ⟨candidate, hcandidate, rfl⟩ := List.mem_map.1 hfound
  cases hslot : σ.store.slots[SlotKey.mk link key]? with
  | none =>
    unfold EvidenceStore.contenders at hcandidate
    rw [hslot] at hcandidate
    cases hcandidate
  | some slot =>
    rw [EvidenceStore.contenders_eq hslot] at hcandidate
    obtain ⟨evidence, hfirst, rfl⟩ := List.mem_map.1 hcandidate
    have hhistory := mem_of_mem_firstOfEach _ (List.mem_of_mem_take hfirst)
    have hheld : σ.store.slotFor ⟨link, key⟩ = slot := by
      rw [EvidenceStore.slotFor, ExtTreeMap.getD_eq_getD_getElem?, hslot]
      rfl
    refine ⟨⟨link, key⟩, hentry, evidence, ?_, rfl⟩
    rw [hheld]
    exact List.mem_reverse.1 hhistory

theorem mem_runExport {σ : Observatory} (h : σ.Sound) (hline : line ∈ σ.runExport only now) :
    ∃ entry observation, σ.Retained entry observation ∧ line = exportLine entry observation := by
  obtain ⟨entry, hentry, hlines⟩ := List.mem_flatMap.1 hline
  obtain ⟨evidence, hevidence, rfl⟩ := List.mem_map.1 hlines
  obtain ⟨⟨link, state⟩, hitem, rfl⟩ := List.mem_map.1 (List.mem_filter.1 hentry).1
  have hstate := ExtTreeMap.mem_toList_iff_getElem?_eq_some.1 hitem
  rw [(h.registry.links link state hstate).identity] at hevidence
  have hfound : σ.registry.findLink link = some state.entry := by
    rw [LinkRegistry.findLink, hstate]
    rfl
  exact ⟨_, _, linkEvidence_retained hfound hevidence, rfl⟩

end Observatory

/-- The fields of an exported line before the link and behind it. -/
def exportHead : List FieldSlot :=
  [{ key := "v", value := toDec 1 }, { key := "kind", value := ascii "observation" }]

def exportRest (observation : Observation) : List FieldSlot :=
  (exportDecl [] observation.provenance.source.toString observation).slots.drop 3

theorem exportLine_eq (entry : LinkEntry) (observation : Observation) :
    exportLine entry observation =
      FieldSlot.text (exportHead ++ ⟨"link", entry.facts.name, true⟩ :: exportRest observation) :=
  ObservationDecl.formatRecord_eq _

section

variable {policy : Policy} {observation : Observation}
  (h : (validateReading observation.key observation.payload policy).ok = true)

include h

theorem exportDecl_stated {word : Bytes} (hword : isToken word = true) :
    (exportDecl word observation.provenance.source.toString observation).Stated policy where
  link := hword
  source := StrongId.isToken_toString _
  incarnation := StrongId.isToken_toString _
  epoch := StrongId.isToken_toString _
  generation := StrongId.isToken_toString _
  valid := h

theorem export_fit : FieldSlot.Fit (observationKeys observation.key.family)
    (exportHead ++ ⟨"link", ascii "l", true⟩ :: exportRest observation) :=
  (exportDecl_stated h (by decide)).fit

theorem trimAscii_exportLine (entry : LinkEntry) :
    trimAscii (exportLine entry observation) = exportLine entry observation := by
  rw [exportLine_eq]
  apply FieldSlot.trimAscii_text rfl
  intro last hlast
  have hentries : FieldSlot.entries
      (exportHead ++ ⟨"link", entry.facts.name, true⟩ :: exportRest observation) =
      (FieldSlot.entries exportHead ++ [(ascii "link", entry.facts.name)]) ++
        FieldSlot.entries (exportRest observation) := rfl
  have hne : FieldSlot.entries (exportRest observation) ≠ [] := List.cons_ne_nil _ _
  rw [hentries, List.getLast?_append_of_ne_nil _ hne] at hlast
  have hmem : last ∈ FieldSlot.entries (exportRest observation) := List.mem_of_getLast? hlast
  obtain ⟨slot, hslot, hwritten, rfl⟩ := FieldSlot.mem_entries hmem
  apply (export_fit h).joined_solid
    (observationKeys_nameList observation.key.family) _ hwritten
  exact List.mem_append_right _ (List.mem_cons_of_mem _ hslot)

theorem words_exportLine (entry : LinkEntry) :
    words space (trimAscii (exportLine entry observation)) =
      (FieldSlot.entries exportHead ++
        [(ascii "link", entry.facts.name.takeWhile (· != space))]).map joined ++
        words space (entry.facts.name.dropWhile (· != space)) ++
        (FieldSlot.entries (exportRest observation)).map joined := by
  have hkey : ∀ character ∈ ascii "link" ++ [equals], (character != space) = true := by
    decide +kernel
  have hfirst : (joined (ascii "link", entry.facts.name)).takeWhile (· != space) =
      joined (ascii "link", entry.facts.name.takeWhile (· != space)) := by
    unfold joined
    rw [← List.singleton_append, ← List.append_assoc, List.takeWhile_append_of_pos hkey,
      List.append_assoc]
    rfl
  have hrest : (joined (ascii "link", entry.facts.name)).dropWhile (· != space) =
      entry.facts.name.dropWhile (· != space) := by
    unfold joined
    rw [← List.singleton_append, ← List.append_assoc, List.dropWhile_append_of_pos hkey]
  have hne : (joined (ascii "link", entry.facts.name)).takeWhile (· != space) ≠ [] := by
    rw [hfirst]
    exact List.append_ne_nil_of_right_ne_nil _ (List.cons_ne_nil _ _)
  rw [trimAscii_exportLine h, exportLine_eq,
    (export_fit h).words_around
      (observationKeys_nameList observation.key.family), words_eq_cons hne, hfirst, hrest]
  simp

end

/-- The flags that a payload does not declare, as fields. -/
def unsetFlags (payload : MetricPayload) : List (Bytes × Bytes) :=
  ((valueSlots payload).filter fun slot => !slot.written).map fun slot =>
    (ascii slot.key, boolText false)

theorem unsetFlags_cases (payload : MetricPayload) :
    unsetFlags payload = [] ∨
      (∃ reading, payload = .counter reading ∧ reading.resetDeclared = false ∧
        unsetFlags payload = [(ascii "reset", boolText false)]) ∨
      ∃ reading, payload = .quality reading ∧ reading.degradedDeclared = false ∧
        unsetFlags payload = [(ascii "degraded", boolText false)] := by
  cases payload with
  | counter reading =>
    cases hreset : reading.resetDeclared with
    | true => exact .inl (by simp [unsetFlags, valueSlots, hreset])
    | false => exact .inr (.inl ⟨reading, rfl, hreset, by simp [unsetFlags, valueSlots, hreset]⟩)
  | quality reading =>
    cases hdegraded : reading.degradedDeclared with
    | true => exact .inl (by simp [unsetFlags, valueSlots, hdegraded])
    | false =>
      exact .inr (.inr ⟨reading, rfl, hdegraded, by simp [unsetFlags, valueSlots, hdegraded]⟩)
  | _ => exact .inl rfl

/-- The name of a link, up to its first space, is a token that names the link of the observation,
and behind it stands nothing but a flag that the observation does not declare. -/
structure Designates (name : Bytes) (observation : Observation) : Prop where
  token : isToken (name.takeWhile (· != space)) = true
  link : deriveLinkId (name.takeWhile (· != space)) = observation.link
  rest : words space (name.dropWhile (· != space)) = [] ∨
    words space (name.dropWhile (· != space)) = (unsetFlags observation.payload).map joined

/-- The identity of this text is the identity that the text names. -/
def StrongId.SelfNamed (id : StrongId kind) : Prop := StrongId.fromName id.toString = id

/-- What it takes for an exported line to declare its observation again. -/
structure Reingestible (policy : Policy) (entry : LinkEntry) (observation : Observation) :
    Prop where
  bounded : (exportLine entry observation).length ≤ policy.limits.maxRecordBytes.toNat
  designates : Designates entry.facts.name observation
  source : observation.provenance.source.SelfNamed
  incarnation : observation.provenance.incarnation.SelfNamed
  epoch : observation.provenance.epoch.SelfNamed
  generation : observation.provenance.generation.SelfNamed
  key : ¬(observation.key.direction = .unknown ∧ observation.key.errorClass ≠ .none)
  window : ∀ reading, observation.payload = .flap reading →
    reading.window.nanos ≤ policy.thresholds.maxHistoryWindow.nanos

theorem ValueFields.unset {entries : List (Bytes × Bytes)} {family : MetricFamily}
    {payload : MetricPayload} (h : ValueFields entries family payload) :
    ValueFields (entries ++ unsetFlags payload) family payload := by
  have hsub : entries ⊆ entries ++ unsetFlags payload := List.subset_append_left _ _
  cases h with
  | adminState value h => exact .adminState value (h.mono hsub)
  | operState value h => exact .operState value (h.mono hsub)
  | counter _ reading hfamily hraw hwidth hreset =>
    apply ValueFields.counter _ reading hfamily (hraw.mono hsub) (hwidth.mono hsub)
    rcases hreset with hreset | ⟨-, hunset⟩
    · exact .inl (hreset.mono hsub)
    · refine .inl ⟨boolText false, List.mem_append_right _ ?_, by rw [hunset]; rfl⟩
      simp [unsetFlags, valueSlots, hunset]
  | ratio ppb h => exact .ratio ppb (h.mono hsub)
  | quality reading hvalue hdegraded =>
    apply ValueFields.quality reading (hvalue.mono hsub)
    rcases hdegraded with hdegraded | ⟨-, hunset⟩
    · exact .inl (hdegraded.mono hsub)
    · refine .inl ⟨boolText false, List.mem_append_right _ ?_, by rw [hunset]; rfl⟩
      simp [unsetFlags, valueSlots, hunset]
  | flap reading hevents hwindow => exact .flap reading (hevents.mono hsub) (hwindow.mono hsub)

theorem ObservationGrammar.unset {entries : List (Bytes × Bytes)} {policy : Policy}
    {declaration : ObservationDecl} (h : ObservationGrammar entries policy declaration) :
    ObservationGrammar (entries ++ unsetFlags declaration.payload) policy declaration := by
  have hsub : entries ⊆ entries ++ unsetFlags declaration.payload := List.subset_append_left _ _
  have honly : ∀ name ∈ (unsetFlags declaration.payload).map Prod.fst,
      name ∈ (observationKeys declaration.key.family).map ascii := by
    intro name hmem
    rw [unsetFlags, List.map_map] at hmem
    obtain ⟨slot, hslot, rfl⟩ := List.mem_map.1 hmem
    have hkey : slot.key ∈ valueKeys declaration.key.family := by
      rw [← valueSlots_keys (validateReading_matches h.valid)]
      exact List.mem_map_of_mem (List.mem_filter.1 hslot).1
    exact List.mem_map_of_mem (List.mem_append_right _ hkey)
  constructor
  · intro name hmem
    rw [List.map_append] at hmem
    rcases List.mem_append.1 hmem with hmem | hmem
    · exact h.only name hmem
    · exact honly name hmem
  · exact h.link.mono hsub
  · exact h.source.mono hsub
  · exact h.incarnation.mono hsub
  · exact h.epoch.mono hsub
  · exact h.generation.mono hsub
  · exact h.revision.mono hsub
  · exact h.observedAt.mono hsub
  · exact h.receivedAt.mono hsub
  · exact h.metric.mono hsub
  · exact h.values.unset
  · exact h.valid

theorem unsetFlags_form (hmem : flag ∈ unsetFlags payload) : FieldForm flag := by
  rcases unsetFlags_cases payload with hnone | ⟨reading, -, -, hflags⟩ | ⟨reading, -, -, hflags⟩
  · rw [hnone] at hmem
    cases hmem
  · rw [hflags, List.mem_singleton] at hmem
    rw [hmem]
    decide
  · rw [hflags, List.mem_singleton] at hmem
    rw [hmem]
    decide

theorem unsetFlags_cons (hflags : unsetFlags payload = flag :: flags) : flags = [] := by
  rcases unsetFlags_cases payload with hnone | ⟨reading, -, -, hone⟩ | ⟨reading, -, -, hone⟩
  · rw [hnone] at hflags
    cases hflags
  · rw [hone] at hflags
    exact (List.cons.inj hflags).2.symm
  · rw [hone] at hflags
    exact (List.cons.inj hflags).2.symm

theorem ObservationDecl.Stated.fieldList_unset {declaration : ObservationDecl}
    (h : declaration.Stated policy) :
    FieldList (FieldSlot.entries declaration.slots ++ unsetFlags declaration.payload) := by
  have hfit := h.fit
  have hkeys := observationKeys_nameList declaration.key.family
  cases hflags : unsetFlags declaration.payload with
  | nil =>
    rw [List.append_nil]
    exact hfit.fieldList hkeys
  | cons flag flags =>
    obtain rfl := unsetFlags_cons hflags
    have hmem : flag ∈ unsetFlags declaration.payload := by rw [hflags]; exact List.mem_cons_self
    refine (FieldList.append_singleton_iff _ _).2
      ⟨hfit.fieldList hkeys, unsetFlags_form hmem, ?_, ?_⟩
    · intro hname
      obtain ⟨slot, hslot, rfl⟩ := List.mem_map.1 hmem
      obtain ⟨hslot, hunwritten⟩ := List.mem_filter.1 hslot
      obtain ⟨entry, hentry, hsame⟩ := List.mem_map.1 hname
      obtain ⟨other, hother, hwritten, rfl⟩ := FieldSlot.mem_entries hentry
      rw [hfit.unique hkeys hother (List.mem_append_right _ hslot) hsame] at hwritten
      rw [hwritten] at hunwritten
      cases hunwritten
    · have hle : (FieldSlot.entries declaration.slots).length ≤ declaration.slots.length := by
        rw [FieldSlot.entries, List.length_map]
        exact List.length_filter_le _ _
      have hlength := congrArg List.length hfit.keys
      rw [List.length_map] at hlength
      have hfew : (observationKeys declaration.key.family).length ≤ 14 := by
        cases declaration.key.family <;> decide
      omega

/-- The fields of an exported line whose link has this first word, with more fields behind it. -/
def exportEntries (word : Bytes) (extra : List (Bytes × Bytes)) (observation : Observation) :
    List (Bytes × Bytes) :=
  FieldSlot.entries exportHead ++ [(ascii "link", word)] ++ extra ++
    FieldSlot.entries (exportRest observation)

theorem exportEntries_perm (word : Bytes) (extra : List (Bytes × Bytes))
    (observation : Observation) :
    (FieldSlot.entries (exportDecl word observation.provenance.source.toString
      observation).slots ++ extra).Perm (exportEntries word extra observation) := by
  have hentries : FieldSlot.entries
      (exportDecl word observation.provenance.source.toString observation).slots =
      FieldSlot.entries exportHead ++ [(ascii "link", word)] ++
        FieldSlot.entries (exportRest observation) := rfl
  rw [hentries, exportEntries, List.append_assoc _ extra, List.append_assoc _ _ extra]
  exact List.perm_append_comm.append_left _

section

variable {policy policy' : Policy} {entry : LinkEntry} {observation : Observation}
  (h : (validateReading observation.key observation.payload policy).ok = true)

include h

theorem exportLine_line (hbound : (exportLine entry observation).length ≤
      policy'.limits.maxRecordBytes.toNat)
    (hextra : words space (entry.facts.name.dropWhile (· != space)) = extra.map joined)
    (hlist : FieldList
      (exportEntries (entry.facts.name.takeWhile (· != space)) extra observation)) :
    Line (exportEntries (entry.facts.name.takeWhile (· != space)) extra observation) policy'
      (exportLine entry observation) := by
  have htrim := trimAscii_exportLine h entry
  obtain ⟨rest, hrest⟩ : ∃ rest, exportLine entry observation = 118 :: rest := by
    rw [exportLine_eq]
    exact FieldSlot.text_front rfl
  constructor
  · rw [htrim, hrest]
    exact List.cons_ne_nil _ _
  · rw [htrim, hrest, List.head?_cons, ne_eq, Option.some.injEq]
    decide
  · rw [htrim]
    exact hbound
  · rw [words_exportLine h, hextra, exportEntries]
    simp only [List.map_append]
  · exact hlist

theorem Reingestible.reproduces (hreingestible : Reingestible policy' entry observation)
    (hid : withIdentity observation = observation) :
    Reproduces policy' (exportLine entry observation) observation := by
  have hstated := exportDecl_stated h hreingestible.designates.token
  obtain ⟨hclass, hdirection⟩ := validateReading_components h
  have hspelled := (MetricKey.toString_spelled_iff hclass hdirection).2 hreingestible.key
  have hvalid := (validateReading_policy h policy').2 hreingestible.window
  have hgrammar := hstated.grammar hspelled hvalid
  obtain ⟨extra, hextra, hflags⟩ : ∃ extra,
      words space (entry.facts.name.dropWhile (· != space)) = extra.map joined ∧
        (extra = [] ∨ extra = unsetFlags observation.payload) := by
    rcases hreingestible.designates.rest with hnone | hflags
    · exact ⟨[], hnone, .inl rfl⟩
    · exact ⟨_, hflags, .inr rfl⟩
  have hperm := exportEntries_perm (entry.facts.name.takeWhile (· != space)) extra observation
  have hmade : makeObservation (exportDecl (entry.facts.name.takeWhile (· != space))
      observation.provenance.source.toString observation) = observation := by
    have hsource := hreingestible.source
    have hincarnation := hreingestible.incarnation
    have hepoch := hreingestible.epoch
    have hgeneration := hreingestible.generation
    unfold StrongId.SelfNamed at hsource hincarnation hepoch hgeneration
    simp only [makeObservation, exportDecl, hsource, hincarnation, hepoch, hgeneration,
      hreingestible.designates.link]
    exact hid
  generalize exportDecl (entry.facts.name.takeWhile (· != space))
    observation.provenance.source.toString observation = declaration at *
  have hpayload : declaration.payload = observation.payload := by
    rw [← hmade]
    rfl
  have hfields : FieldList (FieldSlot.entries declaration.slots ++ extra) ∧
      ObservationGrammar (FieldSlot.entries declaration.slots ++ extra) policy' declaration := by
    rcases hflags with rfl | rfl
    · rw [List.append_nil]
      exact ⟨hstated.fit.fieldList (observationKeys_nameList _), hgrammar⟩
    · rw [← hpayload]
      exact ⟨hstated.fieldList_unset, hgrammar.unset⟩
  have hline := exportLine_line h hreingestible.bounded hextra (hfields.1.perm hperm)
  refine ⟨declaration, (parseRecord_ok_iff _ _ _).2 ⟨_, hline, ?_, ?_⟩, hmade⟩
  · exact ⟨toDec 1, by simp [exportEntries, exportHead, FieldSlot.entries, FieldSlot.entry],
      toDec_decimal 1⟩
  · apply RecordGrammar.observation _ _ (hfields.2.perm hperm)
    simp [exportEntries, exportHead, FieldSlot.entries, FieldSlot.entry]

theorem exportLine_entries (hline : Line entries policy' (exportLine entry observation)) :
    ∃ extra, words space (entry.facts.name.dropWhile (· != space)) = extra.map joined ∧
      entries = exportEntries (entry.facts.name.takeWhile (· != space)) extra observation := by
  have hcut := hline.cut
  have hkeys := observationKeys_nameList observation.key.family
  have hfit := export_fit h
  have hplain {slots : List FieldSlot}
      (hslots : ∀ slot ∈ slots, slot.key ∈ observationKeys observation.key.family) :
      ∀ entry ∈ FieldSlot.entries slots, equals ∉ entry.1 := by
    intro entry hmem
    obtain ⟨slot, hslot, -, rfl⟩ := FieldSlot.mem_entries hmem
    exact (hkeys.plain _ (List.mem_map_of_mem (hslots slot hslot))).1
  rw [words_exportLine h] at hcut
  obtain ⟨front, after, rfl, hfront, hafter⟩ := List.map_eq_append_iff.1 hcut.symm
  obtain ⟨before, extra, rfl, hbefore, hextra⟩ := List.map_eq_append_iff.1 hfront
  have hforms := hline.fields.forms
  refine ⟨extra, hextra.symm, ?_⟩
  rw [exportEntries]
  congr 1
  · congr 1
    apply map_joined_injective _ _ hbefore
    · intro field hmem
      exact (hforms field (List.mem_append_left _ (List.mem_append_left _ hmem))).plain
    · have hentries : FieldSlot.entries exportHead ++
          [(ascii "link", entry.facts.name.takeWhile (· != space))] = FieldSlot.entries
            (exportHead ++ [⟨"link", entry.facts.name.takeWhile (· != space), true⟩]) := rfl
      rw [hentries]
      apply hplain
      intro slot hslot
      have hkey : slot.key ∈ ["v", "kind", "link"] := List.mem_map_of_mem hslot
      apply List.mem_append_left
      simp only [List.mem_cons, List.not_mem_nil, or_false] at hkey ⊢
      rcases hkey with hkey | hkey | hkey <;> simp [hkey]
  · apply map_joined_injective _ _ hafter
    · intro field hmem
      exact (hforms field (List.mem_append_right _ hmem)).plain
    · apply hplain
      intro slot hslot
      rw [← hfit.keys]
      exact List.mem_map_of_mem (List.mem_append_right _ (List.mem_cons_of_mem _ hslot))

omit h in
theorem exportEntries_names (hlist : FieldList (exportEntries word extra observation))
    (hmem : flag ∈ extra) : flag.1 ∉ (FieldSlot.entries (exportDecl word
      observation.provenance.source.toString observation).slots).map Prod.fst := by
  intro hname
  have hdistinct := (hlist.perm (exportEntries_perm word extra observation).symm).distinct
  rw [List.map_append] at hdistinct
  exact (List.nodup_append'.1 hdistinct).2.2 hname (List.mem_map_of_mem hmem)

theorem exportEntries_flag (hlist : FieldList (exportEntries word extra observation))
    (honly : Only (exportEntries word extra observation) (observationKeys observation.key.family))
    (hmem : flag ∈ extra) : flag.1 ∈ (unsetFlags observation.payload).map Prod.fst := by
  have hkeys : (exportDecl word observation.provenance.source.toString observation).slots.map
      FieldSlot.key = observationKeys observation.key.family :=
    (export_fit h).keys
  have hname := honly flag.1 (List.mem_map_of_mem
    (List.mem_append_left _ (List.mem_append_right _ hmem)))
  rw [← hkeys, List.map_map] at hname
  obtain ⟨slot, hslot, hsame⟩ := List.mem_map.1 hname
  have hunwritten : slot.written = false := by
    rw [Bool.eq_false_iff]
    intro hwritten
    apply exportEntries_names hlist hmem
    rw [← hsame]
    exact List.mem_map_of_mem (FieldSlot.entry_mem hslot hwritten)
  rcases List.mem_append.1 hslot with hslot | hslot
  · simp only [List.mem_cons, List.not_mem_nil, or_false] at hslot
    rcases hslot with rfl | rfl | rfl | rfl | rfl | rfl | rfl | rfl | rfl | rfl | rfl
    all_goals cases hunwritten
  · rw [← hsame, unsetFlags, List.map_map]
    exact List.mem_map.2 ⟨slot, List.mem_filter.2 ⟨hslot, by rw [hunwritten]; rfl⟩, rfl⟩

omit h in
theorem OptionalField.unset {entries : List (Bytes × Bytes)} {key : String} {value : Bytes}
    (hfield : OptionalField entries key Truth false false) (hlist : FieldList entries)
    (hmem : (ascii key, value) ∈ entries) : value = boolText false := by
  rcases hfield with ⟨text, htext, rfl⟩ | ⟨hno, -⟩
  · exact hlist.value_unique hmem htext
  · exact absurd (List.mem_map_of_mem hmem) hno

omit h in
theorem ValueFields.flag_mem {entries : List (Bytes × Bytes)} {family : MetricFamily}
    {payload : MetricPayload} (hvalues : ValueFields entries family payload)
    (hlist : FieldList entries) (hmem : flag ∈ entries)
    (hflag : flag.1 ∈ (unsetFlags payload).map Prod.fst) : flag ∈ unsetFlags payload := by
  obtain ⟨name, value⟩ := flag
  rcases unsetFlags_cases payload with hnone | ⟨reading, rfl, hunset, hone⟩ |
      ⟨reading, rfl, hunset, hone⟩
  · rw [hnone] at hflag
    cases hflag
  · rw [hone] at hflag ⊢
    obtain rfl : name = ascii "reset" := List.mem_singleton.1 hflag
    cases hvalues with
    | counter _ _ _ _ _ hreset =>
      rw [hunset] at hreset
      rw [hreset.unset hlist hmem]
      exact List.mem_cons_self
  · rw [hone] at hflag ⊢
    obtain rfl : name = ascii "degraded" := List.mem_singleton.1 hflag
    cases hvalues with
    | quality _ _ hdegraded =>
      rw [hunset] at hdegraded
      rw [hdegraded.unset hlist hmem]
      exact List.mem_cons_self

theorem exportEntries_extra {declaration : ObservationDecl}
    (hlist : FieldList (exportEntries word extra observation))
    (hgrammar : ObservationGrammar (exportEntries word extra observation) policy' declaration)
    (hkey : declaration.key = observation.key)
    (hpayload : declaration.payload = observation.payload) :
    extra = [] ∨ extra = unsetFlags observation.payload := by
  have honly := hgrammar.only
  have hvalues := hgrammar.values
  rw [hkey] at honly
  rw [hpayload] at hvalues
  have hmem : ∀ flag ∈ extra, flag ∈ unsetFlags observation.payload := by
    intro flag hflag
    exact hvalues.flag_mem hlist (List.mem_append_left _ (List.mem_append_right _ hflag))
      (exportEntries_flag h hlist honly hflag)
  have hdistinct : extra.Nodup := by
    have hnodup := (hlist.perm (exportEntries_perm word extra observation).symm).distinct
    exact (List.nodup_append'.1 hnodup.of_map).2.1
  cases extra with
  | nil => exact .inl rfl
  | cons flag rest =>
    right
    have hflag := hmem flag List.mem_cons_self
    cases hflags : unsetFlags observation.payload with
    | nil =>
      rw [hflags] at hflag
      cases hflag
    | cons first others =>
      obtain rfl := unsetFlags_cons hflags
      rw [hflags] at hflag hmem
      obtain rfl := List.mem_singleton.1 hflag
      cases rest with
      | nil => rfl
      | cons second rest =>
        have hsecond := hmem second (List.mem_cons_of_mem _ List.mem_cons_self)
        rw [List.mem_singleton.1 hsecond] at hdistinct
        exact absurd List.mem_cons_self (List.nodup_cons.1 hdistinct).1

omit h in
theorem exportEntries_field {key : String} {text value : Bytes} (index : Nat)
    (hslot : (exportDecl word observation.provenance.source.toString observation).slots[index]? =
      some ⟨key, text, true⟩) (hlist : FieldList (exportEntries word extra observation))
    (hvalue : (ascii key, value) ∈ exportEntries word extra observation) : value = text := by
  apply hlist.value_unique hvalue
  apply (exportEntries_perm word extra observation).subset
  exact List.mem_append_left _ (FieldSlot.mem index hslot)

omit h in
theorem Token.selfNamed {id : StrongId kind} (htext : Token text name)
    (hexported : text = id.toString) (hmade : StrongId.fromName name = id) : id.SelfNamed := by
  rw [StrongId.SelfNamed, ← hexported, htext.1]
  exact hmade

theorem Reproduces.reingestible
    (hreproduces : Reproduces policy' (exportLine entry observation) observation) :
    Reingestible policy' entry observation := by
  obtain ⟨declaration, hparsed, hmade⟩ := hreproduces
  obtain ⟨entries, hline, -, hrecord⟩ := (parseRecord_ok_iff _ _ _).1 hparsed
  cases hrecord with
  | observation _ hkind hgrammar =>
    obtain ⟨extra, hextra, rfl⟩ := exportLine_entries h hline
    have hlist := hline.fields
    have hkey : declaration.key = observation.key := by rw [← hmade]; rfl
    have hpayload : declaration.payload = observation.payload := by rw [← hmade]; rfl
    have hprovenance : (makeObservation declaration).provenance = observation.provenance :=
      congrArg Observation.provenance hmade
    have hbounded := hline.bounded
    rw [trimAscii_exportLine h] at hbounded
    obtain ⟨_, hlink, rfl, hword⟩ := hgrammar.link
    have hname : declaration.link = entry.facts.name.takeWhile (· != space) :=
      exportEntries_field 2 rfl hlist hlink
    obtain ⟨source, hsource, hsourceName⟩ := hgrammar.source
    obtain ⟨incarnation, hincarnation, hincarnationName⟩ := hgrammar.incarnation
    obtain ⟨epoch, hepoch, hepochName⟩ := hgrammar.epoch
    obtain ⟨generation, hgeneration, hgenerationName⟩ := hgrammar.generation
    obtain ⟨metric, hmetric, -, hspelled⟩ := hgrammar.metric
    rw [exportEntries_field 10 rfl hlist hmetric, hkey] at hspelled
    obtain ⟨hclass, hdirection⟩ := validateReading_components h
    have hvalid := hgrammar.valid
    rw [hkey, hpayload] at hvalid
    constructor
    · exact hbounded
    · constructor
      · rw [← hname]
        exact hword
      · rw [← hname]
        exact congrArg Observation.link hmade
      · rw [hextra]
        rcases exportEntries_extra h hlist hgrammar hkey hpayload with rfl | rfl
        · exact .inl rfl
        · exact .inr rfl
    · exact hsourceName.selfNamed (exportEntries_field 3 rfl hlist hsource)
        (congrArg Provenance.source hprovenance)
    · exact hincarnationName.selfNamed (exportEntries_field 4 rfl hlist hincarnation)
        (congrArg Provenance.incarnation hprovenance)
    · exact hepochName.selfNamed (exportEntries_field 5 rfl hlist hepoch)
        (congrArg Provenance.epoch hprovenance)
    · exact hgenerationName.selfNamed (exportEntries_field 6 rfl hlist hgeneration)
        (congrArg Provenance.generation hprovenance)
    · exact (MetricKey.toString_spelled_iff hclass hdirection).1 hspelled
    · exact (validateReading_policy h policy').1 hvalid

end

theorem withIdentity_withIdentity (observation : Observation) :
    withIdentity (withIdentity observation) = withIdentity observation := by
  simp only [withIdentity, computeObservationId]

namespace Observatory

theorem Reached.made {config : RuntimeConfig} (h : Reached config log σ) :
    ∀ decision ∈ log, ∃ declaration, makeObservation declaration = decision.1 := by
  induction h with
  | start =>
    intro decision hmem
    cases hmem
  | record record instant _ ih =>
    intro decision hmem
    rcases List.mem_append.1 hmem with hmem | hmem
    · exact ih decision hmem
    · cases record with
      | observation declaration =>
        rw [List.mem_singleton.1 hmem]
        exact ⟨declaration, rfl⟩
      | _ => cases hmem
  | unread _ _ _ ih => exact ih
  | reload _ _ _ _ _ _ _ ih => exact ih

/-- What is retained was declared, and its reading passed the validation. -/
theorem Reached.retained {config : RuntimeConfig} (h : Reached config log σ)
    (hretained : σ.Retained entry observation) :
    (validateReading observation.key observation.payload config.policy).ok = true ∧
      withIdentity observation = observation := by
  obtain ⟨slotKey, -, evidence, hmem, rfl⟩ := hretained
  have hlogged := (h.lineage.history slotKey).subset (List.mem_map_of_mem hmem)
  obtain ⟨decision, hdecision, hsame⟩ := List.mem_map.1 hlogged
  obtain ⟨hdecision, haccepted⟩ := List.mem_filter.1 hdecision
  have hvalid := h.lineage.valid decision hdecision (Bool.and_eq_true_iff.1 haccepted).1
  obtain ⟨declaration, hmade⟩ := h.made decision hdecision
  rw [← hsame]
  constructor
  · exact (validateObservation_ok hvalid).2.2
  · rw [← hmade, makeObservation, withIdentity_withIdentity]

/-- In every reached state, the exported line of a retained observation declares that observation
again exactly if its identities are named by their own texts, and so is its link by the name that
it is registered under. -/
theorem Reached.exported_iff {config : RuntimeConfig} (h : Reached config log σ)
    (hretained : σ.Retained entry observation) (policy : Policy) :
    Reproduces policy (exportLine entry observation) observation ↔
      Reingestible policy entry observation := by
  obtain ⟨hvalid, hid⟩ := h.retained hretained
  constructor
  · exact Reproduces.reingestible hvalid
  · intro hreingestible
    exact hreingestible.reproduces hvalid hid

/-- What the first report on a link declares. -/
def reportedDecl : ObservationDecl :=
  { link := ascii "l", source := ascii "s", incarnation := ascii "i", epoch := ascii "e"
    generation := ascii "g", revision := 1, payload := .adminState .enabled }

/-- The entry of its link. -/
def reportedEntry : LinkEntry :=
  ((Observatory.run { policy := makeDefaultPolicy } reportedRecords).registry.findLink
    (deriveLinkId (ascii "l"))).getD {}

theorem reported_retained :
    (Observatory.run { policy := makeDefaultPolicy } reportedRecords).Retained reportedEntry
      (makeObservation reportedDecl) := by
  refine ⟨⟨deriveLinkId (ascii "l"), reportedDecl.key⟩, ?_, ?_⟩
  · decide +kernel
  · have hheld : ((Observatory.run { policy := makeDefaultPolicy } reportedRecords).store.slotFor
        ⟨deriveLinkId (ascii "l"), reportedDecl.key⟩).history.map Evidence.observation =
        [makeObservation reportedDecl] := by
      decide +kernel
    have hmem : makeObservation reportedDecl ∈ [makeObservation reportedDecl] :=
      List.mem_cons_self
    rw [← hheld] at hmem
    exact List.mem_map.1 hmem

theorem Reached.exported_iff_report :
    ¬Reproduces makeDefaultPolicy (exportLine reportedEntry (makeObservation reportedDecl))
      (makeObservation reportedDecl) := by
  rw [(Reached.run { policy := makeDefaultPolicy } reportedRecords).exported_iff
    reported_retained makeDefaultPolicy]
  intro hreingestible
  have hnamed : ¬StrongId.fromName (makeObservation reportedDecl).provenance.source.toString =
      (makeObservation reportedDecl).provenance.source := by
    decide +kernel
  exact hnamed hreingestible.source

/-- The line of the first report declares an observation of another source. -/
theorem Reached.exported_differs :
    ¬ ∀ (config : RuntimeConfig) (log : List Decision) (σ : Observatory) (entry : LinkEntry)
      (observation : Observation), Reached config log σ → σ.Retained entry observation →
      Reproduces config.policy (exportLine entry observation) observation := by
  intro h
  obtain ⟨declaration, hparsed, hmade⟩ := h _ _ _ _ _
    (Reached.run { policy := makeDefaultPolicy } reportedRecords) reported_retained
  have hline : parseRecord (exportLine reportedEntry (makeObservation reportedDecl))
      makeDefaultPolicy = .ok (.observation (exportDecl (ascii "l")
        (makeObservation reportedDecl).provenance.source.toString
        (makeObservation reportedDecl))) := by
    decide +kernel
  have hother : ¬makeObservation (exportDecl (ascii "l")
      (makeObservation reportedDecl).provenance.source.toString (makeObservation reportedDecl)) =
      makeObservation reportedDecl := by
    decide +kernel
  rw [hline] at hparsed
  cases hparsed
  exact hother hmade

end Observatory

end LinkObservatory
