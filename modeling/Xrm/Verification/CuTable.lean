import Xrm.Verification.Recycling

/-! # The representation of a CU

A CU keeps the same facts several times: the channels, their number, the clients attached, the
slots and their number. When the driver numbers the kernels without gaps, they agree on every
CU below `numCu`, and the searches of the allocation end inside their arrays.
-/

namespace Xrm

open FixedTable

/-- The three marks of a live channel agree. -/
theorem ChannelData.Proper.marks {chan : ChannelData} (h : chan.Proper) :
    (chan.channelLoadUnified ≠ 0 ↔ chan.clientId ≠ 0) ∧
      (chan.clientId ≠ 0 ↔ chan.allocServiceId ≠ 0) := by
  rcases h with hfree | hlive
  · rw [hfree]
    simp [clear, zero]
  · have := hlive.load
    have hload : chan.channelLoadUnified ≠ 0 := by omega
    simp [hload, hlive.clientId, hlive.allocServiceId]

namespace CuData

variable {cu cu' : CuData}

/-- The five encodings agree. -/
structure Represented (cu : CuData) : Prop where
  channelsLength : cu.channels.length = maxKernelChannels
  numChanInuse : cu.numChanInuse = (cu.channels.filter (·.channelLoadUnified ≠ 0)).length
  live : ∀ chan ∈ cu.channels, (chan.channelLoadUnified ≠ 0 ↔ chan.clientId ≠ 0) ∧
    (chan.clientId ≠ 0 ↔ chan.allocServiceId ≠ 0)
  channelId : ∀ (i : Nat) (chan : ChannelData), cu.channels[i]? = some chan → chan.channelId = i
  clientsLength : cu.clients.length = maxKernelChannels
  clientsDistinct : (cu.clients.take cu.numClient).Nodup
  clientsNonzero : ∀ c ∈ cu.clients.take cu.numClient, c ≠ 0
  clientsExact : ∀ c, c ∈ cu.clients.take cu.numClient ↔
    ∃ chan ∈ cu.channels, chan.channelLoadUnified ≠ 0 ∧ chan.clientId = c
  clientsRest : ∀ c ∈ cu.clients.drop cu.numClient, c = 0
  reservesLength : cu.reserves.length = maxKernelReserves
  poolsDistinct : ((cu.reserves.take cu.numReserve).map (·.reservePoolId)).Nodup
  slots : ∀ r ∈ cu.reserves.take cu.numReserve,
    r.reservePoolId ≠ 0 ∧ 0 < r.reserveLoadUnified ∧ r.clientIsActive = true
  slotsRest : ∀ r ∈ cu.reserves.drop cu.numReserve, r = ReserveData.zero

/-- An allocation takes a free channel and changes no other, it finds one unless all are in
use, and the scan that adds the client ends inside the array. -/
structure AllocatesSafely (cu : CuData) : Prop where
  free : ∀ {prop svc policyInfo preCu cu' chanId},
    cu.allocChanClientFromCu prop svc policyInfo preCu = .allocated cu' chanId →
      (∃ chan, cu.channels[chanId]? = some chan ∧ chan.channelLoadUnified = 0) ∧
        ∀ j, j ≠ chanId → cu'.channels[j]? = cu.channels[j]?
  scan : ∀ {prop svc policyInfo preCu cu' chanId},
    cu.allocChanClientFromCu prop svc policyInfo preCu = .allocated cu' chanId →
      cu.clients.findIdx (· == 0) < cu.clients.length
  finds : cu.numChanInuse < maxKernelChannels → ∃ chanId chan,
    cu.cuFindFreeChannelId = some chanId ∧ cu.channels[chanId]? = some chan ∧
      chan.channelLoadUnified = 0

theorem Consistent.represented (h : cu.Consistent) (horder : cu.InOrder) : cu.Represented where
  channelsLength := h.channels.length
  numChanInuse := by
    have hcount := sumBy_indicator (fun chan : ChannelData => chan.clientId ≠ 0) cu.channels
    rw [h.channels.inUse, show sumBy inService cu.channels = _ from hcount]
    congr 2
    refine List.filter_congr fun chan hchan => ?_
    simp only [ne_eq, (h.channels.proper chan hchan).marks.1]
  live := fun chan hchan => (h.channels.proper chan hchan).marks
  channelId := fun _ _ hchan => horder.channelId hchan
  clientsLength := h.clients.filled.length
  clientsDistinct := h.clients.nodup
  clientsNonzero := fun c hc => ((h.clients.mem_iff c).mp hc).1
  clientsExact := fun c => by
    rw [h.clients.mem_iff c]
    constructor
    · rintro ⟨hc, chan, hchan, rfl⟩
      exact ⟨chan, hchan, (h.channels.proper chan hchan).marks.1.mpr hc, rfl⟩
    · rintro ⟨chan, hchan, hload, rfl⟩
      exact ⟨(h.channels.proper chan hchan).marks.1.mp hload, chan, hchan, rfl⟩
  clientsRest := h.clients.filled.rest
  reservesLength := h.slots.filled.length
  poolsDistinct := h.slots.nodup
  slots := fun r hr => by
    have hactive := h.slots.active r hr
    exact ⟨hactive.poolId, hactive.load, hactive.active⟩
  slotsRest := h.slots.filled.rest

theorem Consistent.findIdx_lt (h : cu.Consistent) (hroom : cu.numChanInuse < maxKernelChannels) :
    cu.clients.findIdx (· == 0) < cu.clients.length := by
  have hle := h.clients.numClient_le
  have hinuse := h.channels.inUse
  have hlt : cu.numClient < maxKernelChannels := by omega
  rw [h.clients.findIdx_zero hlt, h.clients.filled.length]
  exact hlt

theorem Consistent.allocatesSafely (h : cu.Consistent) : cu.AllocatesSafely where
  free := fun halloc => by
    obtain ⟨idx, hallocated⟩ := allocated_of_allocChan h halloc
    obtain ⟨hi, hfree⟩ := hallocated.free
    refine ⟨⟨_, List.getElem?_eq_getElem hi, hfree.load⟩, fun j hj => ?_⟩
    rw [hallocated.eq, assignChannel_channels, List.getElem?_modify]
    simp [hj.symm]
  scan := fun halloc => by
    obtain ⟨idx, hallocated⟩ := allocated_of_allocChan h halloc
    exact h.findIdx_lt hallocated.room
  finds := fun hroom => by
    obtain ⟨chan, hchan, hfree⟩ := h.channels.exists_free hroom
    cases hfind : cu.cuFindFreeChannelId with
    | none =>
        rw [cuFindFreeChannelId, if_neg (by omega), List.findIdx?_eq_none_iff] at hfind
        exact absurd (hfind chan hchan) (by simp [hfree.load])
    | some chanId =>
        obtain ⟨hi, hfound⟩ := cuFindFreeChannelId_spec h.channels hfind
        exact ⟨chanId, _, rfl, List.getElem?_eq_getElem hi, hfound.load⟩

end CuData

namespace System

/-- The tables of all CUs are represented right, and allocations keep the live channels: those
on single CUs, and the one that takes all CUs of a device that it has just loaded. -/
structure Represented (s : System) : Prop where
  tables : ∀ dev ∈ s.devList, ∀ cu ∈ dev.cuList, cu.Represented
  allocation : ∀ dev ∈ s.devList, ∀ cu ∈ dev.cuList, cu.AllocatesSafely
  takeAll : ∀ {env xclbin errmsg devId dev}, env.Gapless →
    (s.loadAnyDevice env xclbin errmsg).2.2 = .ok devId →
      (s.loadAnyDevice env xclbin errmsg).1.devList[devId]? = some dev →
        ∀ cu ∈ dev.cuList, (∀ chan ∈ cu.channels, chan.channelLoadUnified = 0) ∧
          cu.clients.findIdx (· == 0) < cu.clients.length

/-- The tables of every CU agree, in every state of a run and in every state inside an
operation. -/
theorem cu_table {limit : Nat} {s s₁ : System} (h : Reachable gaplessRuns limit s)
    (hin : s.Within gaplessRuns s₁) : s₁.Represented := by
  have hsound := (hin.good id h).sound
  refine ⟨fun dev hdev cu hcu => ?_, fun dev hdev cu hcu => ?_, ?_⟩
  · have hcons := (hsound dev hdev).consistent cu hcu
    exact hcons.represented ((hsound dev hdev).numbered cu hcu (.inr trivial))
  · exact ((hsound dev hdev).consistent cu hcu).allocatesSafely
  · intro env xclbin errmsg devId dev hgap hok hdev cu hcu
    obtain ⟨dev', hdev', -, hfresh, -⟩ :=
      (loadAnyDevice_spec (fun _ => hgap) xclbin errmsg hsound).2 devId hok
    rw [hdev, Option.some.injEq] at hdev'
    subst hdev'
    have huntouched := hfresh cu hcu
    refine ⟨fun chan hchan => (huntouched.free chan hchan).load, ?_⟩
    refine huntouched.consistent.findIdx_lt ?_
    rw [huntouched.numChanInuse]
    decide

theorem cu_table_shared : (Scenario.after sharedRun).Represented := by
  refine cu_table (reachable_after sharedRun ?_) (.refl _ _)
  refine ⟨⟨trivial, False.elim, False.elim, False.elim, fun _ => Scenario.env_gapless 1 1⟩,
    ⟨by decide, False.elim, False.elim, False.elim, fun _ => trivial⟩,
    ⟨by decide, False.elim, False.elim, False.elim, fun _ => trivial⟩, trivial⟩

end System

end Xrm
