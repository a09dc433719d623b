import Xrm.Verification.CuClients

/-! # Taking a channel of a CU -/

namespace Xrm

open FixedTable

/-! ## Finding a slot -/

namespace CuData

variable {cu : CuData} {p i : Nat}

theorem slot_eq (hle : cu.numReserve ≤ cu.reserves.length) (hi : i < cu.slots.length) :
    cu.slot i = cu.slots[i] := by
  have hlen : i < cu.numReserve := by
    rw [slots, List.length_take] at hi
    omega
  simp [slot, slots, List.getD, show i < cu.reserves.length by omega]

theorem isReservePoolUsingCu_eq_some (h : cu.isReservePoolUsingCu p = some i) :
    p ≠ 0 ∧ ∃ hi : i < cu.slots.length, cu.slots[i].reservePoolId = p := by
  rw [isReservePoolUsingCu] at h
  split at h
  · simp at h
  · rw [List.findIdx?_eq_some_iff_getElem] at h
    obtain ⟨hi, hp, -⟩ := h
    exact ⟨by omega, hi, by simpa [slots] using hp⟩

theorem isReservePoolUsingCu_eq_none (hp : p ≠ 0) :
    cu.isReservePoolUsingCu p = none ↔ ∀ r ∈ cu.slots, r.reservePoolId ≠ p := by
  rw [isReservePoolUsingCu, if_neg (by omega), List.findIdx?_eq_none_iff]
  constructor
  · intro h r hr
    simpa using h r hr
  · intro h r hr
    simpa using h r hr

end CuData

namespace CuData.Consistent

variable {cu : CuData} {p i : Nat}

theorem slots_length (h : cu.Consistent) : cu.slots.length = cu.numReserve := by
  have := h.slots.filled.le
  have := h.slots.filled.length
  rw [CuData.slots, List.length_take]
  omega

theorem slot_eq (h : cu.Consistent) (hi : i < cu.slots.length) : cu.slot i = cu.slots[i] := by
  have hle := h.slots.filled.le
  have hlen := h.slots.filled.length
  exact CuData.slot_eq (by omega) hi

/-- The pool of a slot determines it. -/
theorem isReservePoolUsingCu_getElem (h : cu.Consistent) (hi : i < cu.slots.length) :
    cu.isReservePoolUsingCu cu.slots[i].reservePoolId = some i := by
  have hactive := h.slots.active _ (List.getElem_mem hi)
  have hnodup := h.slots.nodup
  cases hfind : cu.isReservePoolUsingCu cu.slots[i].reservePoolId with
  | none =>
      exact absurd rfl ((isReservePoolUsingCu_eq_none hactive.poolId).mp hfind _
        (List.getElem_mem hi))
  | some j =>
      obtain ⟨-, hj, hpool⟩ := isReservePoolUsingCu_eq_some hfind
      have hi' : i < (cu.slots.map (·.reservePoolId)).length := by simpa using hi
      have hj' : j < (cu.slots.map (·.reservePoolId)).length := by simpa using hj
      have heq : (cu.slots.map (·.reservePoolId))[j] = (cu.slots.map (·.reservePoolId))[i] := by
        simpa using hpool
      rw [(List.Nodup.getElem_inj_iff hnodup).mp heq]

theorem unused_le (h : cu.Consistent) {r : ReserveData} (hr : r ∈ cu.slots) :
    r.unused ≤ maxChanLoad :=
  h.ledger.unused_le h.channels.proper hr

theorem total_nonneg (h : cu.Consistent) : 0 ≤ cu.totalUsedLoadUnified :=
  h.ledger.total_nonneg h.channels.proper

end CuData.Consistent

/-! ## A free channel -/

theorem sumBy_inService_le (chans : List ChannelData) :
    sumBy inService chans ≤ chans.length := by
  have hcount := sumBy_indicator (fun chan : ChannelData => chan.clientId ≠ 0) chans
  rw [show sumBy inService chans = _ from hcount]
  exact_mod_cast List.length_filter_le _ _

namespace ChannelTable

variable {chans : List ChannelData} {n : Int}

/-- No channel is live when none is counted. -/
theorem free_of_zero (h : ChannelTable chans n) (hn : n = 0) :
    ∀ chan ∈ chans, chan.Free := by
  intro chan hc
  have hle : inService chan ≤ sumBy inService chans :=
    le_sumBy (fun c _ => by rw [inService]; split <;> omega) hc
  refine (h.proper chan hc).free ?_
  by_contra hne
  rw [inService, if_pos hne] at hle
  have := h.inUse
  omega

/-- Some channel is free while fewer are counted than there are. -/
theorem exists_free (h : ChannelTable chans n) (hn : n < maxKernelChannels) :
    ∃ chan ∈ chans, chan.Free := by
  by_contra hno
  push Not at hno
  have hall : sumBy inService chans = (chans.length : Int) := by
    have hcount := sumBy_indicator (fun chan : ChannelData => chan.clientId ≠ 0) chans
    rw [show sumBy inService chans = _ from hcount, List.filter_eq_self.mpr]
    intro chan hc
    have hne : chan.clientId ≠ 0 := fun h0 => hno chan hc ((h.proper chan hc).free h0)
    simpa using hne
  have := h.inUse
  have := h.length
  omega

end ChannelTable

namespace CuData

variable {cu cu' : CuData} {prop : CuProperty} {svc : Nat} {idx : Option Nat} {chanId : Nat}

theorem cuFindFreeChannelId_spec (h : ChannelTable cu.channels cu.numChanInuse)
    (hfind : cu.cuFindFreeChannelId = some chanId) :
    ∃ hi : chanId < cu.channels.length, cu.channels[chanId].Free := by
  rw [cuFindFreeChannelId] at hfind
  split at hfind
  · simp at hfind
  · rw [List.findIdx?_eq_some_iff_getElem] at hfind
    obtain ⟨hi, hload, -⟩ := hfind
    exact ⟨hi, (h.proper _ (List.getElem_mem hi)).free_of_load (by simpa using hload)⟩

/-- A CU with fewer live channels than it has always gives one. -/
theorem takeChannel_eq_allocated (h : ChannelTable cu.channels cu.numChanInuse)
    (hlt : cu.numChanInuse < maxKernelChannels) (prop : CuProperty) (svc : Nat)
    (idx : Option Nat) :
    ∃ chanId, ∃ hi : chanId < cu.channels.length, cu.channels[chanId].Free ∧
      cu.takeChannel prop svc idx = .allocated (cu.assignChannel prop svc idx chanId) chanId := by
  have hlen := h.length
  rw [takeChannel]
  by_cases hz : cu.numChanInuse = 0
  · have hpos : 0 < cu.channels.length := by
      rw [hlen]
      decide
    exact ⟨0, hpos, h.free_of_zero hz _ (List.getElem_mem hpos), by rw [if_pos hz]⟩
  · rw [if_neg hz, if_pos hlt]
    cases hfind : cu.cuFindFreeChannelId with
    | some chanId =>
        obtain ⟨hi, hfree⟩ := cuFindFreeChannelId_spec h hfind
        exact ⟨chanId, hi, hfree, rfl⟩
    | none =>
        obtain ⟨chan, hc, hfree⟩ := h.exists_free hlt
        rw [cuFindFreeChannelId, if_neg (by omega), List.findIdx?_eq_none_iff] at hfind
        exact absurd (hfind chan hc) (by simp [hfree.load])

theorem takeChannel_full (hfull : ¬cu.numChanInuse < maxKernelChannels) (prop : CuProperty)
    (svc : Nat) (idx : Option Nat) : cu.takeChannel prop svc idx = .refused .noKernel := by
  rw [takeChannel, if_neg (by simp only [maxKernelChannels] at *; omega), if_neg hfull]

/-- What a successful `takeChannel` has done. -/
theorem takeChannel_spec (h : ChannelTable cu.channels cu.numChanInuse)
    (htake : cu.takeChannel prop svc idx = .allocated cu' chanId) :
    cu.numChanInuse < maxKernelChannels ∧
      (∃ hi : chanId < cu.channels.length, cu.channels[chanId].Free) ∧
      cu' = cu.assignChannel prop svc idx chanId := by
  by_cases hlt : cu.numChanInuse < maxKernelChannels
  · obtain ⟨j, hj, hfree, heq⟩ := takeChannel_eq_allocated h hlt prop svc idx
    rw [heq, AllocChan.allocated.injEq] at htake
    obtain ⟨rfl, rfl⟩ := htake
    exact ⟨hlt, ⟨hj, hfree⟩, rfl⟩
  · rw [takeChannel_full hlt] at htake
    simp at htake

/-! ## Admission -/

/-- The room that a request finds, in the default pool or in the slot of its pool. -/
def Admits (cu : CuData) (prop : CuProperty) : Option Nat → Prop
  | none =>
      prop.poolId = 0 ∧ i32 (cu.totalUsedLoadUnified + prop.requestLoadUnified) ≤ maxChanLoad
  | some i =>
      cu.isReservePoolUsingCu prop.poolId = some i ∧ (cu.slot i).clientIsActive = true ∧
        i32 ((cu.slot i).reserveUsedLoadUnified + prop.requestLoadUnified) ≤
          (cu.slot i).reserveLoadUnified

/-- What a successful allocation on a CU has checked and done. -/
theorem allocChan_spec {policyInfo : Nat} {preCu : Option CuData}
    (h : cu.allocChanClientFromCu prop svc policyInfo preCu = .allocated cu' chanId) :
    0 < prop.requestLoadUnified ∧
      ∃ idx, cu.Admits prop idx ∧ cu.takeChannel prop svc idx = .allocated cu' chanId := by
  rw [allocChanClientFromCu] at h
  simp only at h
  split at h
  · simp at h
  · rename_i hpos
    refine ⟨by omega, ?_⟩
    split at h
    · split at h
      · simp at h
      · rename_i i hfind
        split at h
        · simp at h
        · rename_i hactive
          split at h
          · simp at h
          · rename_i hroom
            split at h
            · simp at h
            · split at h
              · simp at h
              · exact ⟨some i, ⟨hfind, by simpa using hactive, by omega⟩, h⟩
    · rename_i hpool
      split at h
      · simp at h
      · rename_i hroom
        split at h
        · simp at h
        · split at h
          · simp at h
          · exact ⟨none, ⟨by simpa using hpool, by omega⟩, h⟩

/-! ## The fields after an allocation -/

section Fields

variable (cu prop svc idx chanId)

theorem addClientToCu_clients_congr {cu₁ cu₂ : CuData} (hc : cu₁.clients = cu₂.clients)
    (hn : cu₁.numClient = cu₂.numClient) (c : Nat) :
    (cu₁.addClientToCu c).clients = (cu₂.addClientToCu c).clients ∧
      (cu₁.addClientToCu c).numClient = (cu₂.addClientToCu c).numClient := by
  simp only [addClientToCu, isClientUsingCu, hc, hn]
  split <;> simp [hc, hn]

@[simp] theorem assignChannel_channels :
    (cu.assignChannel prop svc idx chanId).channels =
      cu.channels.modify chanId (ChannelData.occupy prop svc) := by
  cases idx <;> simp [assignChannel, modifySlot] <;> rfl

@[simp] theorem assignChannel_numChanInuse :
    (cu.assignChannel prop svc idx chanId).numChanInuse = cu.numChanInuse + 1 := by
  cases idx <;> simp [assignChannel, modifySlot]

@[simp] theorem assignChannel_numReserve :
    (cu.assignChannel prop svc idx chanId).numReserve = cu.numReserve := by
  cases idx <;> simp [assignChannel, modifySlot]

@[simp] theorem assignChannel_totalReserved :
    (cu.assignChannel prop svc idx chanId).totalReservedLoadUnified =
      cu.totalReservedLoadUnified := by
  cases idx <;> simp [assignChannel, modifySlot]

theorem assignChannel_clients :
    (cu.assignChannel prop svc idx chanId).clients =
        (cu.addClientToCu prop.clientId).clients ∧
      (cu.assignChannel prop svc idx chanId).numClient =
        (cu.addClientToCu prop.clientId).numClient := by
  cases idx with
  | none => exact addClientToCu_clients_congr (by rfl) (by rfl) _
  | some i => exact addClientToCu_clients_congr (by rfl) (by rfl) _

theorem assignChannel_none :
    (cu.assignChannel prop svc none chanId).reserves = cu.reserves ∧
      (cu.assignChannel prop svc none chanId).totalUsedLoadUnified =
        i32 (cu.totalUsedLoadUnified + prop.requestLoadUnified) := by
  simp [assignChannel]

theorem assignChannel_some (i : Nat) :
    (cu.assignChannel prop svc (some i) chanId).reserves =
        cu.reserves.modify i (ReserveData.draw prop.requestLoadUnified) ∧
      (cu.assignChannel prop svc (some i) chanId).totalUsedLoadUnified =
        cu.totalUsedLoadUnified := by
  simp [assignChannel, modifySlot]
  rfl

end Fields

end CuData

end Xrm
