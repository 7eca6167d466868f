import LinkObservatory.RoundTrip
import LinkObservatory.Canonical

namespace LinkObservatory
set_option autoImplicit true

open Std ByteCodec

theorem decodeContainer_slots {contents : SnapshotContents} {limits : Limits}
    (hsize : contents.encodePayload.length ≤ limits.maxSnapshotBytes.toNat)
    (h : decodeContainer limits contents.container = .ok decoded) :
    ∀ slot ∈ contents.slots, slot.Fits := by
  have hlt := limits.maxSnapshotBytes.toNat_lt
  have hexact := (codes_payload contents limits (by omega)).exact []
  rw [List.append_nil] at hexact
  rw [decodeContainer_container hsize] at h
  cases hread : decodePayload limits contents.encodePayload with
  | error failure =>
    rw [hread] at h
    cases h
  | ok read =>
    rw [hexact _ hread] at hread
    obtain ⟨raws, hraw⟩ := decodePayload_accepted hread
    obtain ⟨-, -, -, hfits, -⟩ := consumes_rawPayload limits _ _ _ hraw
    exact hfits.slots

namespace Observatory

/-- Every snapshot that the runtime writes can be loaded again, and restored into any state of a
process with the same configuration. -/
def Reloads (σ : Observatory) (now : TimePoint) : Prop :=
  ∀ (files : FileSystem) (path : String) (faults : WriteFaults) (result : SnapshotWriteResult)
    (left : FileSystem),
    (writeSnapshot path (σ.collectSnapshot now) σ.config.policy faults).run files =
      (some result, left) → result.status.ok = true →
    ∃ contents, (loadOnce left path σ.config.policy).contents = some contents ∧
      ∀ log' σ', Reached σ.config log' σ' → (σ'.restoreFrom contents).2.ok = true

theorem slots_fit_iff (σ : Observatory) (now : TimePoint) :
    (∀ slot ∈ (σ.collectSnapshot now).slots, slot.Fits) ↔
      ∀ (slotKey : SlotKey) (slot : Slot), σ.store.slots[slotKey]? = some slot →
        slot.history.length ≤ 1024 ∧ slot.continuity.size ≤ 4096 := by
  constructor
  · intro h slotKey slot hslot
    exact h (slot.persist slotKey) (List.mem_map.2 ⟨(slotKey, slot),
      ExtTreeMap.mem_toList_iff_getElem?_eq_some.2 hslot, rfl⟩)
  · intro h slot hmem
    obtain ⟨⟨slotKey, held⟩, hentry, rfl⟩ := List.mem_map.1 hmem
    exact h slotKey held (ExtTreeMap.mem_toList_iff_getElem?_eq_some.1 hentry)

/-- What a snapshot that loads again says about the bounds. -/
theorem Reloads.fits {σ : Observatory} (h : σ.Reloads now)
    (hpayload : (σ.collectSnapshot now).encodePayload.length ≤
      σ.config.policy.limits.maxSnapshotBytes.toNat) :
    σ.config.policy.limits.maxSnapshotBytes.toNat + 128 < 2 ^ 64 ∧
      ∀ slot ∈ (σ.collectSnapshot now).slots, slot.Fits := by
  obtain ⟨result, left, hrun, hok, hprimary, -⟩ :=
    writeSnapshot_complete hpayload (fun _ => none) ""
  obtain ⟨contents, hload, -⟩ := h _ _ _ _ _ hrun hok
  obtain ⟨raw, hraw, hsize, hdecode⟩ := loadOnce_some hload
  cases hprimary.symm.trans hraw
  exact ⟨(container_fits_iff hpayload).1 hsize, decodeContainer_slots hpayload hdecode⟩

/-- A snapshot of a reached state loads again exactly when no slot exceeds the fixed bounds of the
decoder and the loader's own size bound does not wrap. -/
theorem Reached.reloads_iff {config : RuntimeConfig} (h : Reached config log σ) (now : TimePoint) :
    σ.Reloads now ↔
      config.policy.limits.maxSnapshotBytes.toNat <
          (σ.collectSnapshot now).encodePayload.length ∨
        (config.policy.limits.maxSnapshotBytes.toNat + 128 < 2 ^ 64 ∧
          ∀ (slotKey : SlotKey) (slot : Slot), σ.store.slots[slotKey]? = some slot →
            slot.history.length ≤ 1024 ∧ slot.continuity.size ≤ 4096) := by
  obtain ⟨hs, rfl⟩ := h.sound
  rw [← slots_fit_iff σ now]
  constructor
  · intro hreloads
    by_cases hpayload : (σ.collectSnapshot now).encodePayload.length ≤
        σ.config.policy.limits.maxSnapshotBytes.toNat
    · exact .inr (hreloads.fits hpayload)
    · exact .inl (Nat.not_le.1 hpayload)
  · intro hcondition files path faults result left hrun hok
    obtain ⟨hpayload, hprimary⟩ := writeSnapshot_ok hrun hok
    obtain ⟨hroom, hslots⟩ := hcondition.resolve_left (Nat.not_lt.2 hpayload)
    refine ⟨σ.collectSnapshot now, ?_, fun log' σ' h' => ?_⟩
    · exact loadOnce_decoded hprimary ((container_fits_iff hpayload).2 hroom)
        (decodeContainer_fits hpayload (hs.fits_of_slots now hslots))
    · obtain ⟨hs', hconfig⟩ := h'.sound
      exact (hs.restoreFrom hconfig (by rw [hs'.logLimits, hconfig]) now).1

theorem Reached.reloads_report :
    (Observatory.run { policy := makeDefaultPolicy } reportedRecords).Reloads ⟨2⟩ := by
  have hreached := Reached.run { policy := makeDefaultPolicy } reportedRecords
  obtain ⟨hs, hconfig⟩ := hreached.sound
  refine (hreached.reloads_iff ⟨2⟩).2 (.inr ⟨by decide, (slots_fit_iff _ ⟨2⟩).1 ?_⟩)
  exact (hs.fits (by rw [hconfig]; decide) (by rw [hconfig]; decide) ⟨2⟩).slots

/-- Under the largest size bound that passes validation, the runtime cannot load its own first
snapshot. -/
theorem Reached.reloads_fails :
    ¬ ∀ (config : RuntimeConfig) (log : List Decision) (σ : Observatory) (now : TimePoint),
      config.policy.validate.ok = true → Reached config log σ → σ.Reloads now := by
  intro h
  let policy : Policy := { makeDefaultPolicy with
    limits := { makeDefaultPolicy.limits with maxSnapshotBytes := 18446744073709551615 } }
  have hreloads := h { policy := policy } [] (fresh { policy := policy }) ⟨0⟩ (by decide +kernel)
    .start
  obtain ⟨hroom, -⟩ := hreloads.fits (by decide +kernel)
  exact absurd hroom (by decide)

end Observatory

end LinkObservatory
