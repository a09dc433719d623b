import Xrm.Model.System

/-! # The bookkeeping of a compute unit

What holds between the channels, the attached clients, the reserve slots and the counters of
a CU, and the effect of the small functions on each of them.
-/

namespace Xrm

open FixedTable

/-! ## 32-bit values -/

theorem i32_eq {x : Int} (h : -2147483648 ≤ x) (h' : x < 2147483648) : i32 x = x := by
  simp only [i32]
  omega

theorem nextId_ne_zero (id : Nat) : nextId id ≠ 0 := by
  rw [nextId]
  split <;> omega

/-! ## Channels -/

namespace ChannelData

/-- Nobody holds the channel. -/
def Free (chan : ChannelData) : Prop := chan = chan.clear

/-- A client holds the channel. -/
structure Live (chan : ChannelData) : Prop where
  clientId : chan.clientId ≠ 0
  load : 0 < chan.channelLoadUnified
  allocServiceId : chan.allocServiceId ≠ 0

def Proper (chan : ChannelData) : Prop := chan.Free ∨ chan.Live

@[simp] theorem clear_clientId (chan : ChannelData) : chan.clear.clientId = 0 := rfl

@[simp] theorem clear_load (chan : ChannelData) : chan.clear.channelLoadUnified = 0 := rfl

@[simp] theorem clear_channelId (chan : ChannelData) :
    chan.clear.channelId = chan.channelId := rfl

theorem free_clear (chan : ChannelData) : chan.clear.Free := rfl

theorem proper_clear (chan : ChannelData) : chan.clear.Proper := .inl (free_clear chan)

theorem Free.clientId {chan : ChannelData} (h : chan.Free) : chan.clientId = 0 := by
  rw [h]
  rfl

theorem Free.load {chan : ChannelData} (h : chan.Free) : chan.channelLoadUnified = 0 := by
  rw [h]
  rfl

theorem Free.poolId {chan : ChannelData} (h : chan.Free) : chan.poolId = 0 := by
  rw [h]
  rfl

theorem Proper.load_nonneg {chan : ChannelData} (h : chan.Proper) :
    0 ≤ chan.channelLoadUnified := by
  rcases h with h | h
  · rw [h.load]
  · exact h.load.le

theorem Proper.free {chan : ChannelData} (h : chan.Proper) (hc : chan.clientId = 0) :
    chan.Free := by
  rcases h with h | h
  · exact h
  · exact absurd hc h.clientId

theorem Proper.free_of_load {chan : ChannelData} (h : chan.Proper)
    (hl : chan.channelLoadUnified = 0) : chan.Free := by
  rcases h with h | h
  · exact h
  · have := h.load
    omega

/-- The channel after the request has taken it. -/
def occupy (prop : CuProperty) (allocServiceId : Nat) (chan : ChannelData) : ChannelData :=
  { chan with
    clientId := prop.clientId
    clientProcessId := prop.clientProcessId
    channelLoadUnified := prop.requestLoadUnified
    channelLoadOriginal := prop.requestLoadOriginal
    allocServiceId := allocServiceId
    poolId := prop.poolId }

end ChannelData

/-! ## Measures -/

/-- The load a channel draws from pool `p`. -/
def drawnFrom (p : Nat) (chan : ChannelData) : Int :=
  if chan.poolId = p then chan.channelLoadUnified else 0

/-- 1 for a channel of client `c`. -/
def heldBy (c : Nat) (chan : ChannelData) : Int := if chan.clientId = c then 1 else 0

/-- 1 for a channel of some client. -/
def inService (chan : ChannelData) : Int := if chan.clientId ≠ 0 then 1 else 0

namespace ReserveData

/-- The part of a slot that is not used. -/
def unused (r : ReserveData) : Int := r.reserveLoadUnified - r.reserveUsedLoadUnified

/-- A slot after `load` more of it is used. -/
def draw (load : Int) (r : ReserveData) : ReserveData :=
  { r with reserveUsedLoadUnified := i32 (r.reserveUsedLoadUnified + load) }

end ReserveData

/-! ## The four tables of a CU -/

namespace CuData

/-- The reserve slots in use. -/
def slots (cu : CuData) : List ReserveData := cu.reserves.take cu.numReserve

/-- The clients attached to the CU. -/
def tenants (cu : CuData) : List Nat := cu.clients.take cu.numClient

end CuData

structure ChannelTable (chans : List ChannelData) (numChanInuse : Int) : Prop where
  length : chans.length = maxKernelChannels
  proper : ∀ chan ∈ chans, chan.Proper
  inUse : numChanInuse = sumBy inService chans

/-- The attached clients are the clients of the channels, each once. -/
structure ClientTable (chans : List ChannelData) (clients : List Nat) (numClient : Nat) :
    Prop where
  filled : Filled 0 maxKernelChannels clients numClient
  nodup : (clients.take numClient).Nodup
  mem_iff : ∀ c, c ∈ clients.take numClient ↔ c ≠ 0 ∧ ∃ chan ∈ chans, chan.clientId = c

structure ReserveData.Active (r : ReserveData) : Prop where
  active : r.clientIsActive = true
  poolId : r.reservePoolId ≠ 0
  clientId : r.clientId ≠ 0
  load : 0 < r.reserveLoadUnified

/-- The slots in use are active, one for each pool. -/
structure SlotTable (reserves : List ReserveData) (numReserve : Nat) : Prop where
  filled : Filled ReserveData.zero maxKernelReserves reserves numReserve
  active : ∀ r ∈ reserves.take numReserve, r.Active
  nodup : ((reserves.take numReserve).map (·.reservePoolId)).Nodup

/-- The accounts of a CU. The load in use is what the channels draw and what the slots hold
back; no slot gives out more than it holds or than the channels draw from its pool. -/
structure Ledger (chans : List ChannelData) (slots : List ReserveData) (total reserved : Int) :
    Prop where
  total_eq : total = sumBy (·.channelLoadUnified) chans + sumBy ReserveData.unused slots
  reserved_eq : reserved = sumBy (·.reserveLoadUnified) slots
  total_le : total ≤ maxChanLoad
  used_le_load : ∀ r ∈ slots, r.reserveUsedLoadUnified ≤ r.reserveLoadUnified
  used_le_drawn : ∀ r ∈ slots, r.reserveUsedLoadUnified ≤ sumBy (drawnFrom r.reservePoolId) chans

/-- The bookkeeping of a CU is in order. -/
structure CuData.Consistent (cu : CuData) : Prop where
  channels : ChannelTable cu.channels cu.numChanInuse
  clients : ClientTable cu.channels cu.clients cu.numClient
  slots : SlotTable cu.reserves cu.numReserve
  ledger : Ledger cu.channels cu.slots cu.totalUsedLoadUnified cu.totalReservedLoadUnified

/-- The CU has a name, so that its channels have been set up. -/
def CuData.Named (cu : CuData) : Prop :=
  cu.kernelName ≠ "" ∨ cu.kernelAlias ≠ "" ∨ cu.cuName ≠ ""

/-- The channels of the CU are numbered in order. -/
def CuData.InOrder (cu : CuData) : Prop :=
  cu.channels.map (·.channelId) = cuInitChannels.map (·.channelId)

/-- The channels of a CU that requests can name, or of any CU, are numbered in order. -/
def CuData.Numbered (any : Prop) (cu : CuData) : Prop := cu.Named ∨ any → cu.InOrder

theorem CuData.InOrder.channelId {cu : CuData} (h : cu.InOrder) {i : Nat} {chan : ChannelData}
    (hchan : cu.channels[i]? = some chan) : chan.channelId = i := by
  have hmap : (cu.channels.map (·.channelId))[i]? = some chan.channelId := by
    rw [List.getElem?_map, hchan, Option.map_some]
  obtain ⟨hi, heq⟩ := List.getElem?_eq_some_iff.mp hmap
  rw [h] at hmap
  have hi' : i < maxKernelChannels := by
    have hlen := congrArg List.length h
    simp only [cuInitChannels, List.length_map, List.length_range] at hlen hi
    omega
  rw [cuInitChannels, List.map_map, List.getElem?_map, List.getElem?_range hi',
    Option.map_some, Option.some.injEq] at hmap
  exact hmap.symm

/-- The names and the channel numbers of a CU, which no operation on it changes. -/
structure CuData.Kin (cu cu' : CuData) : Prop where
  toCuInfo : cu'.toCuInfo = cu.toCuInfo
  channelIds : cu'.channels.map (·.channelId) = cu.channels.map (·.channelId)

theorem CuData.Kin.numbered {any : Prop} {cu cu' : CuData} (h : cu.Kin cu')
    (hcu : cu.Numbered any) : cu'.Numbered any := by
  intro hnamed
  rw [Named, h.toCuInfo] at hnamed
  rw [InOrder, h.channelIds]
  exact hcu hnamed

/-- Every slot gives out exactly what the channels draw from its pool. -/
def CuData.Exact (cu : CuData) : Prop :=
  ∀ r ∈ cu.slots, r.reserveUsedLoadUnified = sumBy (drawnFrom r.reservePoolId) cu.channels

/-! ### Bounds -/

theorem drawnFrom_nonneg {chan : ChannelData} (h : chan.Proper) (p : Nat) :
    0 ≤ drawnFrom p chan := by
  rw [drawnFrom]
  split
  · exact h.load_nonneg
  · exact le_refl 0

theorem drawnFrom_le {chan : ChannelData} (h : chan.Proper) (p : Nat) :
    drawnFrom p chan ≤ chan.channelLoadUnified := by
  rw [drawnFrom]
  split
  · exact le_refl _
  · exact h.load_nonneg

namespace Ledger

variable {chans : List ChannelData} {slots : List ReserveData} {total reserved : Int}

theorem unused_nonneg (h : Ledger chans slots total reserved) {r : ReserveData}
    (hr : r ∈ slots) : 0 ≤ r.unused := by
  have := h.used_le_load r hr
  simp only [ReserveData.unused]
  omega

theorem drawn_nonneg (hp : ∀ chan ∈ chans, chan.Proper) (p : Nat) :
    0 ≤ sumBy (drawnFrom p) chans :=
  sumBy_nonneg fun chan hc => drawnFrom_nonneg (hp chan hc) p

theorem total_nonneg (h : Ledger chans slots total reserved)
    (hp : ∀ chan ∈ chans, chan.Proper) : 0 ≤ total := by
  have hload : 0 ≤ sumBy (fun chan : ChannelData => chan.channelLoadUnified) chans :=
    sumBy_nonneg fun chan hc => (hp chan hc).load_nonneg
  have hunused : 0 ≤ sumBy ReserveData.unused slots :=
    sumBy_nonneg fun r hr => h.unused_nonneg hr
  have := h.total_eq
  omega

theorem unused_le (h : Ledger chans slots total reserved)
    (hp : ∀ chan ∈ chans, chan.Proper) {r : ReserveData} (hr : r ∈ slots) :
    r.unused ≤ maxChanLoad := by
  have hload : 0 ≤ sumBy (fun chan : ChannelData => chan.channelLoadUnified) chans :=
    sumBy_nonneg fun chan hc => (hp chan hc).load_nonneg
  have hr' : r.unused ≤ sumBy ReserveData.unused slots :=
    le_sumBy (fun r hr => h.unused_nonneg hr) hr
  have := h.total_eq
  have := h.total_le
  omega

theorem load_le (h : Ledger chans slots total reserved)
    (hp : ∀ chan ∈ chans, chan.Proper) {chan : ChannelData} (hc : chan ∈ chans) :
    chan.channelLoadUnified ≤ maxChanLoad := by
  have hload : chan.channelLoadUnified ≤ sumBy (fun chan => chan.channelLoadUnified) chans :=
    le_sumBy (f := fun chan : ChannelData => chan.channelLoadUnified)
      (fun chan hc => (hp chan hc).load_nonneg) hc
  have hunused : 0 ≤ sumBy ReserveData.unused slots :=
    sumBy_nonneg fun r hr => h.unused_nonneg hr
  have := h.total_eq
  have := h.total_le
  omega

theorem used_le (h : Ledger chans slots total reserved)
    (hp : ∀ chan ∈ chans, chan.Proper) {r : ReserveData} (hr : r ∈ slots) :
    r.reserveUsedLoadUnified ≤ maxChanLoad := by
  have hdrawn : sumBy (drawnFrom r.reservePoolId) chans ≤
      sumBy (fun chan : ChannelData => chan.channelLoadUnified) chans :=
    sumBy_le_sumBy fun chan hc => drawnFrom_le (hp chan hc) _
  have hunused : 0 ≤ sumBy ReserveData.unused slots :=
    sumBy_nonneg fun r hr => h.unused_nonneg hr
  have := h.used_le_drawn r hr
  have := h.total_eq
  have := h.total_le
  omega

/-- A slot holds between nothing and twice the load of a CU; the second half can only be
reached while its used load is negative. -/
theorem used_ge (h : Ledger chans slots total reserved)
    (hp : ∀ chan ∈ chans, chan.Proper) {r : ReserveData} (hr : r ∈ slots) (ha : r.Active) :
    -maxChanLoad < r.reserveUsedLoadUnified := by
  have := h.unused_le hp hr
  have := ha.load
  simp only [ReserveData.unused] at *
  omega

theorem reserveLoad_le (h : Ledger chans slots total reserved)
    (hp : ∀ chan ∈ chans, chan.Proper) {r : ReserveData} (hr : r ∈ slots) :
    r.reserveLoadUnified ≤ 2 * maxChanLoad := by
  have := h.unused_le hp hr
  have := h.used_le hp hr
  simp only [ReserveData.unused] at *
  omega

/-- A CU without load in use has no live channel and no slot. -/
theorem idle (h : Ledger chans slots total reserved) (hp : ∀ chan ∈ chans, chan.Proper)
    (ha : ∀ r ∈ slots, r.Active) (hz : total = 0) :
    (∀ chan ∈ chans, chan.Free) ∧ slots = [] := by
  have hload : 0 ≤ sumBy (fun chan : ChannelData => chan.channelLoadUnified) chans :=
    sumBy_nonneg fun chan hc => (hp chan hc).load_nonneg
  have hunused : 0 ≤ sumBy ReserveData.unused slots :=
    sumBy_nonneg fun r hr => h.unused_nonneg hr
  have htotal := h.total_eq
  constructor
  · intro chan hc
    have hle : chan.channelLoadUnified ≤ sumBy (fun chan => chan.channelLoadUnified) chans :=
      le_sumBy (f := fun chan : ChannelData => chan.channelLoadUnified)
        (fun chan hc => (hp chan hc).load_nonneg) hc
    have := (hp chan hc).load_nonneg
    exact (hp chan hc).free_of_load (by omega)
  · rcases List.eq_nil_or_concat slots with hnil | ⟨front, r, hcons⟩
    · exact hnil
    · have hr : r ∈ slots := by simp [hcons]
      have hdrawn : sumBy (drawnFrom r.reservePoolId) chans ≤
          sumBy (fun chan : ChannelData => chan.channelLoadUnified) chans :=
        sumBy_le_sumBy fun chan hc => drawnFrom_le (hp chan hc) _
      have hle : r.unused ≤ sumBy ReserveData.unused slots :=
        le_sumBy (fun r hr => h.unused_nonneg hr) hr
      have := h.used_le_drawn r hr
      have := (ha r hr).load
      simp only [ReserveData.unused] at hle
      omega

end Ledger

end Xrm
