import LinkObservatory.Balance
import LinkObservatory.EvidenceQuery

namespace LinkObservatory
set_option autoImplicit true

open Std

/-- One call of `accept`. -/
structure AcceptCall where
  observation : Observation
  context : AcceptContext
  now : TimePoint

def AcceptCall.slotKey (call : AcceptCall) : SlotKey :=
  ⟨call.observation.link, call.observation.key⟩

namespace EvidenceStore

def call (store : EvidenceStore) (call : AcceptCall) : EvidenceStore × AcceptOutcome :=
  store.accept call.observation call.context call.now

/-- The store after a list of calls. -/
def callAll (store : EvidenceStore) (calls : List AcceptCall) : EvidenceStore :=
  calls.foldl (fun store call => (store.call call).1) store

/-- The calls of a list that name a slot, find it there and end in an outcome of a kind. -/
def attemptsAt (slotKey : SlotKey) (kind : AcceptOutcome → Bool) :
    EvidenceStore → List AcceptCall → Nat
  | _, [] => 0
  | store, call :: calls =>
    (if call.slotKey = slotKey ∧ (store.slots[slotKey]?).isSome ∧ kind (store.call call).2 then 1
      else 0) + attemptsAt slotKey kind (store.call call).1 calls

def refusedAt (slotKey : SlotKey) : EvidenceStore → List AcceptCall → Nat :=
  attemptsAt slotKey fun outcome => !outcome.accepted

/-- A fence stands against an observation. -/
def Fences (store : EvidenceStore) (observation : Observation) (context : AcceptContext) : Prop :=
  (∃ reason, store.admission observation context = .error reason) ∨
  (store.streamFor observation.provenance.source).Rejects observation ∨
  ∃ source reason, context.source = some source ∧ store.LateFence observation source reason

/-- No call of a list that names a slot and finds it there meets a fence. -/
def Unfenced (slotKey : SlotKey) : EvidenceStore → List AcceptCall → Prop
  | _, [] => True
  | store, call :: calls =>
    (call.slotKey = slotKey → (store.slots[slotKey]?).isSome →
      ¬store.Fences call.observation call.context) ∧
    Unfenced slotKey (store.call call).1 calls

/-- What the counters of a slot owe: the refusals are those of the calls made against it, in the
view as in the persisted form, and both counters together cover the attempts and its creation. -/
structure Accounts (store : EvidenceStore) (slotKey : SlotKey) (refused attempts : Nat) :
    Prop where
  viewed : ∀ now view, store.slotView slotKey.link slotKey.key now = some view →
    view.fenced.toNat = refused ∧ view.accepted + view.fenced = UInt64.ofNat (attempts + 1)
  persisted : ∀ slot ∈ store.persistedSlots, slot.slot = slotKey →
    slot.fenced.toNat = refused ∧ slot.accepted + slot.fenced = UInt64.ofNat (attempts + 1)

theorem accept_refused_iff (store : EvidenceStore) (observation : Observation)
    (context : AcceptContext) (now : TimePoint) :
    (store.accept observation context now).2.accepted = false ↔
      store.Fences observation context := by
  have hstep := store.accept_step observation context now
  generalize (store.accept observation context now).1 = after at *
  generalize (store.accept observation context now).2 = outcome at *
  cases hstep with
  | refused ha => exact iff_of_true rfl (.inl ⟨_, ha⟩)
  | superseded ha hs => exact iff_of_true rfl (.inr (.inl (.inl (enterScope_error hs))))
  | duplicate ha hs hv =>
    exact iff_of_true rfl (.inr (.inl (rejects_of_revision hs hv (.inl rfl))))
  | replay ha hs hv =>
    exact iff_of_true rfl (.inr (.inl (rejects_of_revision hs hv (.inr rfl))))
  | downgrade ha hs hv hlate =>
    exact iff_of_true rfl (.inr (.inr ⟨_, _, (admission_ok ha).1, hlate⟩))
  | full ha hs hv hlate =>
    exact iff_of_true rfl (.inr (.inr ⟨_, _, (admission_ok ha).1, hlate⟩))
  | recorded ha hs hv hnone =>
    rw [recordEvidence_accepted]
    apply iff_of_false
    · intro h
      cases h
    · rintro (⟨reason, herror⟩ | hrejects | ⟨source, reason, hsource, hlate⟩)
      · rw [ha] at herror
        cases herror
      · exact not_rejects_of_next hs hv hrejects
      · have hsame := (admission_ok ha).1.symm.trans hsource
        cases hsame
        exact hnone reason hlate

theorem accept_slot (store : EvidenceStore) (observation : Observation) (context : AcceptContext)
    (now : TimePoint) (slotKey : SlotKey) :
    if (⟨observation.link, observation.key⟩ : SlotKey) = slotKey ∧
        (store.accept observation context now).2.accepted = true then
      ∃ slot, (store.accept observation context now).1.slots[slotKey]? = some slot ∧
        slot.accepted = (store.slotFor slotKey).accepted + 1 ∧
        slot.fenced = (store.slotFor slotKey).fenced
    else (store.accept observation context now).1.slots[slotKey]? = store.slots[slotKey]? := by
  have hstep := store.accept_step observation context now
  generalize (store.accept observation context now).1 = after at *
  generalize (store.accept observation context now).2 = outcome at *
  cases hstep with
  | @recorded source stream changed gap ha hs hv hnone =>
    obtain ⟨slot, hslots, haccepted, hfenced⟩ := (store.countGap gap).recordEvidence_slot
      observation source (stream.openGap gap) { revisionGap := gap, scopeChanged := changed } now
    rw [recordEvidence_accepted, hslots]
    split
    · rename_i hsame
      rw [← hsame.1]
      exact ⟨slot, ExtTreeMap.getElem?_insert_self, haccepted, hfenced⟩
    · rename_i hother
      apply OrderedMap.lookup_insert_of_ne
      intro hsame
      exact hother ⟨hsame, rfl⟩
  | _ =>
    rw [if_neg]
    · rfl
    · rintro ⟨-, haccepted⟩
      cases haccepted

theorem call_slot (store : EvidenceStore) (call : AcceptCall) (slotKey : SlotKey) :
    if call.slotKey = slotKey ∧ (store.call call).2.accepted = true then
      ∃ slot, (store.call call).1.slots[slotKey]? = some slot ∧
        slot.accepted = (store.slotFor slotKey).accepted + 1 ∧
        slot.fenced = (store.slotFor slotKey).fenced
    else (store.call call).1.slots[slotKey]? = store.slots[slotKey]? :=
  store.accept_slot call.observation call.context call.now slotKey

theorem callAll_some {store : EvidenceStore} (h : store.slots[slotKey]? = some slot)
    (calls : List AcceptCall) :
    ∃ after, (store.callAll calls).slots[slotKey]? = some after ∧ after.fenced = slot.fenced ∧
      after.accepted + UInt64.ofNat (refusedAt slotKey store calls) =
        slot.accepted + UInt64.ofNat (attemptsAt slotKey (fun _ => true) store calls) := by
  induction calls generalizing store slot with
  | nil => exact ⟨slot, h, rfl, rfl⟩
  | cons call calls ih =>
    have hstep := store.call_slot call slotKey
    have hfor : store.slotFor slotKey = slot := by
      rw [slotFor, ExtTreeMap.getD_eq_getD_getElem?, h]
      rfl
    rw [hfor, h] at hstep
    show ∃ after, ((store.call call).1.callAll calls).slots[slotKey]? = some after ∧ _
    simp only [refusedAt, attemptsAt, h, Option.isSome_some, true_and, and_true]
    by_cases hnamed : call.slotKey = slotKey
    · cases haccepted : (store.call call).2.accepted with
      | true =>
        rw [if_pos ⟨hnamed, haccepted⟩] at hstep
        obtain ⟨written, hwritten, hmore, hsame⟩ := hstep
        obtain ⟨after, hafter, hfenced, hcount⟩ := ih hwritten
        refine ⟨after, hafter, hfenced.trans hsame, ?_⟩
        simp only [hnamed, Bool.not_true, Bool.false_eq_true, and_false, ↓reduceIte, Nat.zero_add,
          UInt64.ofNat_add]
        rw [← refusedAt, hcount, hmore]
        exact add_assoc _ _ _
      | false =>
        rw [if_neg (by rintro ⟨-, htrue⟩; exact Bool.false_ne_true (haccepted.symm.trans htrue))]
          at hstep
        obtain ⟨after, hafter, hfenced, hcount⟩ := ih hstep
        refine ⟨after, hafter, hfenced, ?_⟩
        simp only [hnamed, Bool.not_false, and_self, ↓reduceIte, UInt64.ofNat_add]
        rw [← refusedAt, add_left_comm, hcount, add_left_comm]
    · rw [if_neg (by rintro ⟨htrue, -⟩; exact hnamed htrue)] at hstep
      obtain ⟨after, hafter, hfenced, hcount⟩ := ih hstep
      refine ⟨after, hafter, hfenced, ?_⟩
      simp only [hnamed, false_and, ↓reduceIte, Nat.zero_add]
      exact hcount

theorem callAll_none {store : EvidenceStore} (h : store.slots[slotKey]? = none)
    (calls : List AcceptCall) :
    ((store.callAll calls).slots[slotKey]? = none ∧ refusedAt slotKey store calls = 0 ∨
      ∃ after, (store.callAll calls).slots[slotKey]? = some after ∧ after.fenced = 0 ∧
        after.accepted + UInt64.ofNat (refusedAt slotKey store calls) =
          UInt64.ofNat (attemptsAt slotKey (fun _ => true) store calls + 1)) := by
  induction calls generalizing store with
  | nil => exact .inl ⟨h, rfl⟩
  | cons call calls ih =>
    have hstep := store.call_slot call slotKey
    have hfor : store.slotFor slotKey = { key := slotKey.key } := by
      rw [slotFor, ExtTreeMap.getD_eq_getD_getElem?, h]
      rfl
    rw [hfor, h] at hstep
    have hrefused : refusedAt slotKey store (call :: calls) =
        refusedAt slotKey (store.call call).1 calls := by
      simp only [refusedAt, attemptsAt, h, Option.isSome_none, Bool.false_eq_true, false_and,
        and_false, ↓reduceIte, Nat.zero_add]
    have hattempts : attemptsAt slotKey (fun _ => true) store (call :: calls) =
        attemptsAt slotKey (fun _ => true) (store.call call).1 calls := by
      simp only [attemptsAt, h, Option.isSome_none, Bool.false_eq_true, false_and, and_false,
        ↓reduceIte, Nat.zero_add]
    rw [hrefused, hattempts]
    by_cases hcreated : call.slotKey = slotKey ∧ (store.call call).2.accepted = true
    · rw [if_pos hcreated] at hstep
      obtain ⟨written, hwritten, hmore, hsame⟩ := hstep
      obtain ⟨after, hafter, hfenced, hcount⟩ := callAll_some hwritten calls
      refine .inr ⟨after, hafter, hfenced.trans hsame, ?_⟩
      rw [hcount, hmore, UInt64.ofNat_add]
      exact add_comm _ _
    · rw [if_neg hcreated] at hstep
      exact ih hstep

/-- A refusal is counted nowhere exactly when no call that finds the slot meets a fence. -/
theorem refusedAt_eq_zero_iff (slotKey : SlotKey) (store : EvidenceStore)
    (calls : List AcceptCall) :
    refusedAt slotKey store calls = 0 ↔ Unfenced slotKey store calls := by
  induction calls generalizing store with
  | nil => exact iff_of_true rfl trivial
  | cons call calls ih =>
    have hfences := store.accept_refused_iff call.observation call.context call.now
    have hrefused : (!(store.call call).2.accepted) = true ↔
        store.Fences call.observation call.context := by
      rw [Bool.not_eq_true']
      exact hfences
    rw [Unfenced, ← ih, refusedAt, attemptsAt, Nat.add_eq_zero_iff]
    apply and_congr_left
    intro _
    split
    · rename_i hmet
      exact iff_of_false Nat.one_ne_zero fun h => h hmet.1 hmet.2.1 (hrefused.1 hmet.2.2)
    · rename_i hmet
      exact iff_of_true rfl fun hnamed hthere hstands => hmet ⟨hnamed, hthere, hrefused.2 hstands⟩

theorem accounts_of_slot {store : EvidenceStore} (h : store.slots[slotKey]? = some slot)
    (hfenced : slot.fenced.toNat = refused)
    (hboth : slot.accepted + slot.fenced = UInt64.ofNat (attempts + 1)) :
    store.Accounts slotKey refused attempts where
  viewed now view hview := by
    have hfound : store.slots[SlotKey.mk slotKey.link slotKey.key]? = some slot := h
    rw [slotView, hfound, Option.map_some] at hview
    cases hview
    exact ⟨hfenced, hboth⟩
  persisted persisted hmem hslot := by
    obtain ⟨entry, hentry, rfl⟩ := List.mem_map.1 hmem
    have hlookup := ExtTreeMap.mem_toList_iff_getElem?_eq_some.1 hentry
    have hkey : entry.1 = slotKey := hslot
    rw [hkey, h] at hlookup
    cases hlookup
    exact ⟨hfenced, hboth⟩

/-- From the empty store, the counters of a slot account for the calls made against it exactly when
none of them met a fence: the counter of refusals is never raised. -/
theorem callAll_accounts_iff (policy : Policy) (calls : List AcceptCall) (slotKey : SlotKey) :
    (callAll { policy := policy } calls).Accounts slotKey
        (refusedAt slotKey { policy := policy } calls)
        (attemptsAt slotKey (fun _ => true) { policy := policy } calls) ↔
      Unfenced slotKey { policy := policy } calls := by
  rw [← refusedAt_eq_zero_iff]
  have hempty : ({ policy := policy } : EvidenceStore).slots[slotKey]? = none :=
    ExtTreeMap.getElem?_empty
  rcases callAll_none hempty calls with ⟨hnone, hzero⟩ | ⟨after, hafter, hfenced, hcount⟩
  · apply iff_of_true
    · constructor
      · intro now view hview
        have habsent : (callAll { policy := policy } calls).slots[SlotKey.mk slotKey.link
            slotKey.key]? = none := hnone
        rw [slotView, habsent] at hview
        cases hview
      · intro slot hmem hslot
        obtain ⟨entry, hentry, rfl⟩ := List.mem_map.1 hmem
        have hlookup := ExtTreeMap.mem_toList_iff_getElem?_eq_some.1 hentry
        have hkey : entry.1 = slotKey := hslot
        rw [hkey, hnone] at hlookup
        cases hlookup
    · exact hzero
  · constructor
    · intro haccounts
      have hfound : (callAll { policy := policy } calls).slots[SlotKey.mk slotKey.link
          slotKey.key]? = some after := hafter
      have hview := (haccounts.viewed {} _ (by rw [slotView, hfound]; rfl)).1
      rw [← hview]
      exact congrArg UInt64.toNat hfenced
    · intro hzero
      apply accounts_of_slot hafter
      · rw [hfenced, hzero]
        rfl
      · rw [hfenced, ← hcount, hzero]
        rfl

/-- The same reading handed in twice: the second one is a duplicate, and its slot counts none. -/
theorem callAll_accounts_fails :
    ¬ ∀ (policy : Policy) (calls : List AcceptCall) (slotKey : SlotKey),
      (callAll { policy := policy } calls).Accounts slotKey
        (refusedAt slotKey { policy := policy } calls)
        (attemptsAt slotKey (fun _ => true) { policy := policy } calls) := by
  intro h
  let call : AcceptCall :=
    { observation := adminReport ⟨⟨0, 1⟩⟩ 1 ⟨2⟩
      context := { source := some (registeredSource ⟨⟨0, 1⟩⟩ .primary) }
      now := ⟨2⟩ }
  let store : EvidenceStore := callAll { policy := makeDefaultPolicy } [call, call]
  have hviewed := (h makeDefaultPolicy [call, call] call.slotKey).viewed ⟨2⟩
  have hfenced : (store.slotView call.slotKey.link call.slotKey.key ⟨2⟩).map
      (fun view => view.fenced.toNat) =
        (store.slotView call.slotKey.link call.slotKey.key ⟨2⟩).map
          fun _ => refusedAt call.slotKey { policy := makeDefaultPolicy } [call, call] := by
    cases hfound : store.slotView call.slotKey.link call.slotKey.key ⟨2⟩ with
    | none => rfl
    | some view => exact congrArg some (hviewed view hfound).1
  exact absurd hfenced (by decide +kernel)

end EvidenceStore

end LinkObservatory
