import Xrm.Verification.CuInvariant

/-! # The clients attached to a CU -/

namespace Xrm

open FixedTable

/-! ## Frames -/

namespace CuData

variable (cu : CuData) (c : Nat)

theorem addClientToCu_frame :
    ∃ clients numClient,
      cu.addClientToCu c = { cu with clients := clients, numClient := numClient } := by
  rw [addClientToCu]
  split
  · exact ⟨cu.clients, cu.numClient, rfl⟩
  · exact ⟨_, _, rfl⟩

theorem removeClientOnCu_frame :
    ∃ clients numClient,
      cu.removeClientOnCu c = { cu with clients := clients, numClient := numClient } := by
  rw [removeClientOnCu]
  split
  · exact ⟨cu.clients, cu.numClient, rfl⟩
  · exact ⟨_, _, rfl⟩

@[simp] theorem addClientToCu_channels : (cu.addClientToCu c).channels = cu.channels := by
  obtain ⟨_, _, h⟩ := cu.addClientToCu_frame c
  rw [h]

@[simp] theorem addClientToCu_numChanInuse :
    (cu.addClientToCu c).numChanInuse = cu.numChanInuse := by
  obtain ⟨_, _, h⟩ := cu.addClientToCu_frame c
  rw [h]

@[simp] theorem addClientToCu_reserves : (cu.addClientToCu c).reserves = cu.reserves := by
  obtain ⟨_, _, h⟩ := cu.addClientToCu_frame c
  rw [h]

@[simp] theorem addClientToCu_numReserve :
    (cu.addClientToCu c).numReserve = cu.numReserve := by
  obtain ⟨_, _, h⟩ := cu.addClientToCu_frame c
  rw [h]

@[simp] theorem addClientToCu_totalUsed :
    (cu.addClientToCu c).totalUsedLoadUnified = cu.totalUsedLoadUnified := by
  obtain ⟨_, _, h⟩ := cu.addClientToCu_frame c
  rw [h]

@[simp] theorem addClientToCu_totalReserved :
    (cu.addClientToCu c).totalReservedLoadUnified = cu.totalReservedLoadUnified := by
  obtain ⟨_, _, h⟩ := cu.addClientToCu_frame c
  rw [h]

@[simp] theorem removeClientOnCu_channels :
    (cu.removeClientOnCu c).channels = cu.channels := by
  obtain ⟨_, _, h⟩ := cu.removeClientOnCu_frame c
  rw [h]

@[simp] theorem removeClientOnCu_numChanInuse :
    (cu.removeClientOnCu c).numChanInuse = cu.numChanInuse := by
  obtain ⟨_, _, h⟩ := cu.removeClientOnCu_frame c
  rw [h]

@[simp] theorem removeClientOnCu_reserves :
    (cu.removeClientOnCu c).reserves = cu.reserves := by
  obtain ⟨_, _, h⟩ := cu.removeClientOnCu_frame c
  rw [h]

@[simp] theorem removeClientOnCu_numReserve :
    (cu.removeClientOnCu c).numReserve = cu.numReserve := by
  obtain ⟨_, _, h⟩ := cu.removeClientOnCu_frame c
  rw [h]

@[simp] theorem removeClientOnCu_totalUsed :
    (cu.removeClientOnCu c).totalUsedLoadUnified = cu.totalUsedLoadUnified := by
  obtain ⟨_, _, h⟩ := cu.removeClientOnCu_frame c
  rw [h]

@[simp] theorem removeClientOnCu_totalReserved :
    (cu.removeClientOnCu c).totalReservedLoadUnified = cu.totalReservedLoadUnified := by
  obtain ⟨_, _, h⟩ := cu.removeClientOnCu_frame c
  rw [h]

/-! ## Looking up a client -/

variable {cu c}

theorem isClientUsingCu_eq_none : cu.isClientUsingCu c = none ↔ c ∉ cu.tenants := by
  rw [isClientUsingCu, tenants, List.findIdx?_eq_none_iff]
  constructor
  · intro h hc
    simpa using h c hc
  · intro h x hx
    simp only [beq_eq_false_iff_ne, ne_eq]
    rintro rfl
    exact h hx

theorem isClientUsingCu_eq_some {i : Nat} (h : cu.isClientUsingCu c = some i) :
    ∃ hi : i < cu.tenants.length, cu.tenants[i] = c := by
  rw [isClientUsingCu, List.findIdx?_eq_some_iff_getElem] at h
  obtain ⟨hi, hc, -⟩ := h
  exact ⟨hi, by simpa [tenants] using hc⟩

end CuData

/-! ## Adding a client -/

namespace ClientTable

variable {chans : List ChannelData} {cu : CuData} {c : Nat}

theorem ne_zero (h : ClientTable chans cu.clients cu.numClient) (hc : c ∈ cu.tenants) :
    c ≠ 0 :=
  ((h.mem_iff c).mp hc).1

theorem numClient_eq (h : ClientTable chans cu.clients cu.numClient) :
    cu.tenants.length = cu.numClient := by
  have := h.filled.le
  have := h.filled.length
  rw [CuData.tenants, List.length_take]
  omega

/-- The first empty entry is the one behind the attached clients. -/
theorem findIdx_zero (h : ClientTable chans cu.clients cu.numClient)
    (hlt : cu.numClient < maxKernelChannels) :
    cu.clients.findIdx (· == 0) = cu.numClient := by
  have hlen := h.filled.length
  rw [List.findIdx_eq (by omega)]
  constructor
  · rw [h.filled.getElem_eq (le_refl _) (by omega)]
    rfl
  · intro j hj
    have hmem : cu.clients[j] ∈ cu.tenants := by
      rw [CuData.tenants, List.mem_take_iff_getElem]
      exact ⟨j, by omega, rfl⟩
    simpa using h.ne_zero hmem

/-- The attached clients are not more than the live channels. -/
theorem numClient_le (h : ClientTable chans cu.clients cu.numClient) :
    (cu.numClient : Int) ≤ sumBy inService chans := by
  have hsub : cu.tenants ⊆ (chans.filter fun chan => chan.clientId ≠ 0).map (·.clientId) := by
    intro d hd
    obtain ⟨hd0, chan, hchan, heq⟩ := (h.mem_iff d).mp hd
    refine List.mem_map.mpr ⟨chan, List.mem_filter.mpr ⟨hchan, ?_⟩, heq⟩
    simpa [heq] using hd0
  have hle := (List.Nodup.subperm h.nodup hsub).length_le
  rw [show cu.clients.take cu.numClient = cu.tenants from rfl, h.numClient_eq,
    List.length_map] at hle
  have hcount := sumBy_indicator (fun chan : ChannelData => chan.clientId ≠ 0) chans
  rw [show sumBy inService chans = _ from hcount]
  exact_mod_cast hle

/-- What adding a client does to the table. -/
theorem add_spec (h : ClientTable chans cu.clients cu.numClient)
    (hlt : cu.numClient < maxKernelChannels) (c : Nat) :
    Filled 0 maxKernelChannels (cu.addClientToCu c).clients (cu.addClientToCu c).numClient ∧
      (cu.addClientToCu c).tenants =
        if c ∈ cu.tenants then cu.tenants else cu.tenants ++ [c] := by
  rw [CuData.addClientToCu]
  cases hfind : cu.isClientUsingCu c with
  | some i =>
      obtain ⟨hi, hci⟩ := CuData.isClientUsingCu_eq_some hfind
      have hmem : c ∈ cu.tenants := by
        rw [← hci]
        exact List.getElem_mem hi
      rw [if_pos hmem]
      exact ⟨h.filled, rfl⟩
  | none =>
      rw [if_neg (CuData.isClientUsingCu_eq_none.mp hfind)]
      simp only [h.findIdx_zero hlt, set_eq_modify]
      exact h.filled.push hlt fun _ => c

/-- What removing a client does to the table. -/
theorem remove_spec (h : ClientTable chans cu.clients cu.numClient) (c : Nat) :
    Filled 0 maxKernelChannels (cu.removeClientOnCu c).clients
        (cu.removeClientOnCu c).numClient ∧
      (cu.removeClientOnCu c).tenants = cu.tenants.erase c := by
  rw [CuData.removeClientOnCu]
  cases hfind : cu.isClientUsingCu c with
  | none =>
      rw [List.erase_of_not_mem (CuData.isClientUsingCu_eq_none.mp hfind)]
      exact ⟨h.filled, rfl⟩
  | some i =>
      obtain ⟨hi, hci⟩ := CuData.isClientUsingCu_eq_some hfind
      have hlt : i < cu.numClient := by rwa [h.numClient_eq] at hi
      have hclose := h.filled.closeGap hlt
      refine ⟨hclose.1, ?_⟩
      calc
        _ = cu.tenants.eraseIdx i := hclose.2
        _ = cu.tenants.erase cu.tenants[i] := (h.nodup.erase_getElem i hi).symm
        _ = cu.tenants.erase c := by rw [hci]

/-- The table only depends on which clients hold channels. -/
theorem congr {clients : List Nat} {n : Nat} {chans' : List ChannelData}
    (h : ClientTable chans clients n)
    (hch : ∀ d, d ≠ 0 → ((∃ chan ∈ chans', chan.clientId = d) ↔
      ∃ chan ∈ chans, chan.clientId = d)) : ClientTable chans' clients n := by
  refine ⟨h.filled, h.nodup, ?_⟩
  intro d
  rw [h.mem_iff d]
  constructor
  · rintro ⟨hd, hex⟩
    exact ⟨hd, (hch d hd).mpr hex⟩
  · rintro ⟨hd, hex⟩
    exact ⟨hd, (hch d hd).mp hex⟩

/-- A client that takes a channel is attached. -/
theorem add {chans' : List ChannelData} (h : ClientTable chans cu.clients cu.numClient)
    (hlt : cu.numClient < maxKernelChannels) (hc : c ≠ 0)
    (hch : ∀ d, d ≠ 0 → ((∃ chan ∈ chans', chan.clientId = d) ↔
      d = c ∨ ∃ chan ∈ chans, chan.clientId = d)) :
    ClientTable chans' (cu.addClientToCu c).clients (cu.addClientToCu c).numClient := by
  obtain ⟨hfilled, htenants⟩ := h.add_spec hlt c
  refine ⟨hfilled, ?_, ?_⟩
  · rw [show List.take _ _ = (cu.addClientToCu c).tenants from rfl, htenants]
    split
    · exact h.nodup
    · exact List.Nodup.append h.nodup (List.nodup_singleton c) (by simpa using ‹c ∉ _›)
  · intro d
    rw [show List.take _ _ = (cu.addClientToCu c).tenants from rfl, htenants]
    have hmem : d ∈ cu.tenants ↔ _ := h.mem_iff d
    by_cases hd : d = 0
    · subst hd
      have : (0 : Nat) ∉ cu.tenants := fun h0 => (hmem.mp h0).1 rfl
      split <;> simp [this, hc.symm]
    · rw [hch d hd]
      by_cases hdc : d = c
      · subst hdc
        split
        · simpa [hd] using ‹d ∈ cu.tenants›
        · simp [hd]
      · split <;> simp [hmem, hd, hdc]

/-- A client that gives up its last channel is detached. -/
theorem remove {chans' : List ChannelData} (h : ClientTable chans cu.clients cu.numClient)
    (hch : ∀ d, d ≠ 0 → ((∃ chan ∈ chans', chan.clientId = d) ↔
      d ≠ c ∧ ∃ chan ∈ chans, chan.clientId = d)) :
    ClientTable chans' (cu.removeClientOnCu c).clients (cu.removeClientOnCu c).numClient := by
  obtain ⟨hfilled, htenants⟩ := h.remove_spec c
  refine ⟨hfilled, ?_, ?_⟩
  · rw [show List.take _ _ = (cu.removeClientOnCu c).tenants from rfl, htenants]
    exact h.nodup.erase c
  · intro d
    have hnodup : cu.tenants.Nodup := h.nodup
    have hmem : d ∈ cu.tenants ↔ _ := h.mem_iff d
    rw [show List.take _ _ = (cu.removeClientOnCu c).tenants from rfl, htenants,
      hnodup.mem_erase_iff, hmem]
    by_cases hd : d = 0
    · simp [hd]
    · rw [hch d hd]
      simp [hd]

end ClientTable

end Xrm
