import Xrm.Verification.Search

/-! # Devices that a client may use

What a client does to its own entries of the client table does not change for which of its
requests it may use the device.
-/

namespace Xrm

open FixedTable

variable {prop prop' : CuProperty} {c : Nat}

namespace DeviceData

variable {dev dev' : DeviceData}

/-- The client of the request may use the device: it is loaded, no other client holds it
exclusively, none is on it when the request asks for exclusive access, and the client has an
entry of the client table or can get one. -/
structure Usable (dev : DeviceData) (prop : CuProperty) : Prop where
  isLoaded : dev.isLoaded = true
  notHeld : dev.isExcl = true → dev.holder.clientId = prop.clientId
  alone : prop.devExcl = true →
    ∀ entry ∈ dev.clientProcs, entry.clientId = 0 ∨ entry.clientId = prop.clientId
  entry : ∃ entry ∈ dev.clientProcs, entry.clientId = prop.clientId ∨ entry.clientId = 0

instance (dev : DeviceData) (prop : CuProperty) : Decidable (dev.Usable prop) :=
  decidable_of_iff
    (dev.isLoaded = true ∧ (dev.isExcl = true → dev.holder.clientId = prop.clientId) ∧
      (prop.devExcl = true →
        ∀ entry ∈ dev.clientProcs, entry.clientId = 0 ∨ entry.clientId = prop.clientId) ∧
      ∃ entry ∈ dev.clientProcs, entry.clientId = prop.clientId ∨ entry.clientId = 0)
    ⟨fun h => ⟨h.1, h.2.1, h.2.2.1, h.2.2.2⟩, fun h => ⟨h.1, h.2, h.3, h.4⟩⟩

theorem Usable.isFree (h : dev.Usable prop) : dev.isFreeForClient prop.clientId = true := by
  rw [isFreeForClient, Bool.and_eq_true, Bool.or_eq_true]
  refine ⟨h.isLoaded, ?_⟩
  cases hex : dev.isExcl with
  | false => exact .inl rfl
  | true => exact .inr (by simpa using h.notHeld hex)

/-- The client can be registered on a device that it may use. -/
theorem Usable.registers (h : dev.Usable prop) :
    ∃ dev₁, dev.allocClientFromDev prop = .ok dev₁ := by
  rw [allocClientFromDev]
  simp only
  cases hex : dev.isExcl with
  | true =>
      rw [if_pos rfl, if_pos (h.notHeld hex)]
      exact ⟨_, rfl⟩
  | false =>
      rw [if_neg (by simp)]
      cases hprop : prop.devExcl with
      | true =>
          have hnone : ¬(dev.clientProcs.any fun entry =>
              entry.clientId != 0 && entry.clientId != prop.clientId) = true := by
            simp only [List.any_eq_true, Bool.and_eq_true, bne_iff_ne, not_exists, not_and,
              Decidable.not_not]
            intro entry he h0
            exact (h.alone hprop entry he).resolve_left h0
          rw [if_pos rfl, if_neg hnone]
          exact ⟨_, rfl⟩
      | false =>
          rw [if_neg (by simp)]
          cases hfind : dev.clientProcs.findIdx? (·.clientId == prop.clientId) with
          | some i => exact ⟨_, rfl⟩
          | none =>
              rw [List.findIdx?_eq_none_iff] at hfind
              cases hfree : dev.clientProcs.findIdx? (·.clientId == 0) with
              | some i => exact ⟨_, rfl⟩
              | none =>
                  rw [List.findIdx?_eq_none_iff] at hfree
                  obtain ⟨entry, he, hentry⟩ := h.entry
                  have hne : entry.clientId ≠ prop.clientId := by simpa using hfind entry he
                  have hne0 : entry.clientId ≠ 0 := by simpa using hfree entry he
                  tauto

/-- A device on which the client of a request can be registered is usable when it is loaded. -/
theorem usable_of_registered (hs : dev.TableShape) (hload : dev.isLoaded = true)
    (hreg : dev.allocClientFromDev prop = .ok dev') : dev.Usable prop := by
  have hpos := hs.pos
  cases allocClientFromDev_spec hreg with
  | again hex hholder =>
      have h0 : dev.clientProcs[0].clientId = prop.clientId := by rw [← holder_eq hpos, hholder]
      refine ⟨hload, fun _ => hholder, fun _ entry he => ?_,
        dev.clientProcs[0], List.getElem_mem hpos, .inl h0⟩
      cases hl : dev.clientProcs with
      | nil => simp [hl] at hpos
      | cons first rest =>
          rw [hl] at he
          rcases List.mem_cons.mp he with rfl | he
          · simp only [hl, List.getElem_cons_zero] at h0
            exact .inr h0
          · have hzero := hs.alone hex entry (by simpa [hl] using he)
            rw [hzero]
            exact .inl rfl
  | exclusive hex hprop halone =>
      exact ⟨hload, by simp [hex], fun _ => halone,
        dev.clientProcs[0], List.getElem_mem hpos, (halone _ (List.getElem_mem hpos)).symm⟩
  | found hex hprop i hfind =>
      obtain ⟨hi, hfound⟩ := findIdx?_clientId hfind
      exact ⟨hload, by simp [hex], by simp [hprop],
        dev.clientProcs[i], List.getElem_mem hi, .inl hfound⟩
  | opened hex hprop hnew i hfind =>
      obtain ⟨hi, hfree⟩ := findIdx?_clientId hfind
      exact ⟨hload, by simp [hex], by simp [hprop],
        dev.clientProcs[i], List.getElem_mem hi, .inr hfree⟩

/-- Registering succeeds exactly on the loaded devices that the client may use. -/
theorem usable_iff (hs : dev.TableShape) (hload : dev.isLoaded = true) :
    dev.Usable prop ↔ ∃ dev₁, dev.allocClientFromDev prop = .ok dev₁ :=
  ⟨Usable.registers, fun ⟨_, hreg⟩ => usable_of_registered hs hload hreg⟩

/-! ## Access and the client table -/

/-- The entry is free or the client's own. -/
def ownEntry (c : Nat) (entry : ClientData) : Bool := entry.clientId == 0 || entry.clientId == c

/-- Whether a client may use a device shows in its flags and in which entries are not its own. -/
theorem usable_iff_ownEntry : dev.Usable prop ↔ dev.isLoaded = true ∧
    (dev.isExcl = true → dev.holder.clientId = prop.clientId) ∧
      (prop.devExcl = true → ∀ b ∈ dev.clientProcs.map (ownEntry prop.clientId), b = true) ∧
        ∃ b ∈ dev.clientProcs.map (ownEntry prop.clientId), b = true := by
  constructor
  · intro h
    refine ⟨h.isLoaded, h.notHeld, fun hex => ?_, ?_⟩
    · simpa [ownEntry] using h.alone hex
    · simpa [ownEntry, or_comm] using h.entry
  · rintro ⟨hload, hheld, halone, hentry⟩
    refine ⟨hload, hheld, fun hex => ?_, ?_⟩
    · simpa [ownEntry] using halone hex
    · simpa [ownEntry, or_comm] using hentry

theorem usable_congr (hload : dev'.isLoaded = dev.isLoaded)
    (hheld : (dev'.isExcl = true → dev'.holder.clientId = prop.clientId) ↔
      (dev.isExcl = true → dev.holder.clientId = prop.clientId))
    (hown : dev'.clientProcs.map (ownEntry prop.clientId) =
      dev.clientProcs.map (ownEntry prop.clientId)) : dev'.Usable prop ↔ dev.Usable prop := by
  rw [usable_iff_ownEntry, usable_iff_ownEntry, hload, hheld, hown]

/-- On a device that only the client uses, every request of the client finds access. -/
theorem usable_of_own (hload : dev.isLoaded = true) (hpos : 0 < dev.clientProcs.length)
    (hheld : dev.isExcl = true → dev.holder.clientId = prop.clientId)
    (hown : ∀ entry ∈ dev.clientProcs, entry.clientId = 0 ∨ entry.clientId = prop.clientId) :
    dev.Usable prop where
  isLoaded := hload
  notHeld := hheld
  alone := fun _ => hown
  entry := ⟨_, List.getElem_mem hpos, (hown _ (List.getElem_mem hpos)).symm⟩

/-- A registration leaves the access of its client as it is. -/
theorem Registered.usable_iff (h : Registered dev prop dev') (hpos : 0 < dev.clientProcs.length)
    (hsame : prop'.clientId = prop.clientId) : dev'.Usable prop' ↔ dev.Usable prop' := by
  cases h with
  | again hex hholder =>
      refine usable_congr ?_ ?_ ?_
      · rfl
      · simp only [DeviceData.holder] at hholder ⊢
        cases hl : dev.clientProcs with
        | nil => simp [hl] at hpos
        | cons entry entries => rfl
      · apply map_modify_eq
        intro entry
        rfl
  | exclusive hex _ halone =>
      rw [← hsame] at halone ⊢
      have hown : ∀ entry ∈ ({
            clientId := prop'.clientId
            clientProcessId := prop.clientProcessId
            ref := dev.clientProcs.foldl (fun ref entry =>
              if entry.clientId = prop'.clientId then entry.ref else ref) 0 + 1 } : ClientData) ::
            List.replicate (maxDevClients - 1) ClientData.zero,
          entry.clientId = 0 ∨ entry.clientId = prop'.clientId := by
        intro entry he
        rcases List.mem_cons.mp he with rfl | he
        · exact .inr rfl
        · rw [List.eq_of_mem_replicate he]
          exact .inl rfl
      constructor
      · intro h
        exact usable_of_own h.isLoaded hpos (by simp [hex]) halone
      · intro h
        exact usable_of_own h.isLoaded (by simp) (fun _ => rfl) hown
  | found hex _ i _ =>
      refine usable_congr ?_ ?_ ?_
      · rfl
      · simp [hex]
      · apply map_modify_eq
        intro entry
        rfl
  | opened hex _ _ i hfind =>
      obtain ⟨hi, hfree⟩ := findIdx?_clientId hfind
      refine usable_congr ?_ ?_ ?_
      · rfl
      · simp [hex]
      · apply map_modify_at
        intro _
        simp [ownEntry, hfree, hsame]

theorem ownEntry_dropRef (entry : ClientData) (h : ownEntry c entry = true) :
    ownEntry c (dropRef entry) = true := by
  rw [dropRef]
  split
  · rfl
  · exact h

/-- Dropping a client leaves its access as it is. -/
theorem Dropped.usable_iff (h : Dropped dev c dev') (hpos : 0 < dev.clientProcs.length)
    (hsame : prop'.clientId = c) : dev'.Usable prop' ↔ dev.Usable prop' := by
  have hown : ∀ {i : Nat} (hi : i < dev.clientProcs.length), dev.clientProcs[i].clientId = c →
      ownEntry prop'.clientId (dropRef dev.clientProcs[i]) =
        ownEntry prop'.clientId dev.clientProcs[i] := by
    intro i hi hc
    have hbefore : ownEntry prop'.clientId dev.clientProcs[i] = true := by
      simp [ownEntry, hc, hsame]
    rw [hbefore]
    exact ownEntry_dropRef _ hbefore
  cases h with
  | refused => rfl
  | holder _ hex hholder =>
      have hfirst : dev.clientProcs[0].clientId = c := by
        rwa [← holder_eq hpos]
      refine usable_congr ?_ ?_ ?_
      · rfl
      · refine ⟨fun _ _ => hholder.trans hsame.symm, fun _ hex' => ?_⟩
        have href : ¬dev.holder.ref - 1 = 0 := by simpa using hex'
        rw [holder_eq hpos] at href
        simp only [DeviceData.holder, List.getD_eq_getElem?_getD, List.getElem?_modify,
          List.getElem?_eq_getElem hpos]
        simp [dropRef, href, hfirst, hsame]
      · apply map_modify_at
        intro hi
        exact hown hi hfirst
  | entry _ hex i hfind =>
      obtain ⟨hi, hfound⟩ := findIdx?_clientId hfind
      refine usable_congr ?_ ?_ ?_
      · rfl
      · simp [hex]
      · apply map_modify_at
        intro _
        exact hown hi hfound

/-- Registering and dropping a client leaves its access as it is. -/
theorem Touch.usable_iff (h : Touch prop dev dev') (hs : dev.TableShape)
    (hc : prop.clientId ≠ 0) (hsame : prop'.clientId = prop.clientId) :
    dev'.Usable prop' ↔ dev.Usable prop' := by
  obtain ⟨-, dev₁, hreg, rfl⟩ := h
  have hregistered := allocClientFromDev_spec hreg
  exact ((dev₁.dropClient_spec _).usable_iff (hregistered.shape hs hc).pos hsame).trans
    (hregistered.usable_iff hs.pos hsame)

/-- Registering and dropping a client touches nothing but the client table. -/
theorem Touch.frame (h : Touch prop dev dev') :
    dev' = { dev with isExcl := dev'.isExcl, clientProcs := dev'.clientProcs } := by
  obtain ⟨hload, dev₁, hreg, rfl⟩ := h
  rw [(dev₁.dropClient_spec prop.clientId).frame, (allocClientFromDev_spec hreg).frame]

theorem grant_usable (h : dev.Usable prop) (cuId : Nat) (cu : CuData) :
    (dev.grant prop cuId cu).Usable prop := by
  obtain ⟨info, hframe⟩ := dev.grant_frame prop cuId cu
  rw [hframe]
  exact ⟨h.isLoaded, h.notHeld, h.alone, h.entry⟩

end DeviceData

end Xrm
