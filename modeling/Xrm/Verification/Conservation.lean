import Xrm.Verification.Scenario

/-! # Load conservation -/

namespace Xrm

open FixedTable

/-! ## The accounts of one CU -/

/-- The load of a channel whose pool has no slot on the CU any more. -/
def orphaned (slots : List ReserveData) (chan : ChannelData) : Int :=
  if chan.poolId ≠ 0 ∧ ∀ r ∈ slots, r.reservePoolId ≠ chan.poolId then chan.channelLoadUnified
  else 0

/-- The loads of a CU are conserved: what is in use is what the default pool gave out, what is
reserved, and what is left of pools that are gone. -/
structure CuData.Conserved (cu : CuData) : Prop where
  used : cu.totalUsedLoadUnified = sumBy (drawnFrom 0) cu.channels +
    sumBy (·.reserveLoadUnified) cu.slots + sumBy (orphaned cu.slots) cu.channels
  reserved : cu.totalReservedLoadUnified = sumBy (·.reserveLoadUnified) cu.slots
  slotUsed : ∀ r ∈ cu.slots,
    r.reserveUsedLoadUnified = sumBy (drawnFrom r.reservePoolId) cu.channels ∧
      r.reserveUsedLoadUnified ≤ r.reserveLoadUnified
  bounds : 0 ≤ cu.totalReservedLoadUnified ∧
    cu.totalReservedLoadUnified ≤ cu.totalUsedLoadUnified ∧
      cu.totalUsedLoadUnified ≤ maxChanLoad

theorem load_split {slots : List ReserveData} (hnodup : (slots.map (·.reservePoolId)).Nodup)
    (hactive : ∀ r ∈ slots, r.Active) (chan : ChannelData) :
    chan.channelLoadUnified = drawnFrom 0 chan +
      sumBy (fun r : ReserveData => drawnFrom r.reservePoolId chan) slots +
        orphaned slots chan := by
  rw [sumBy_drawn_slots hnodup, drawnFrom, orphaned]
  by_cases hzero : chan.poolId = 0
  · have hnot : chan.poolId ∉ slots.map (·.reservePoolId) := by
      intro hmem
      obtain ⟨r, hr, heq⟩ := List.mem_map.mp hmem
      exact (hactive r hr).poolId (heq.trans hzero)
    rw [if_pos hzero, if_neg hnot, if_neg fun h => h.1 hzero]
    omega
  · by_cases hmem : chan.poolId ∈ slots.map (·.reservePoolId)
    · have hslot : ¬∀ r ∈ slots, r.reservePoolId ≠ chan.poolId := by
        intro hall
        obtain ⟨r, hr, heq⟩ := List.mem_map.mp hmem
        exact hall r hr heq
      rw [if_neg hzero, if_pos hmem, if_neg fun h => hslot h.2]
      omega
    · have hnone : ∀ r ∈ slots, r.reservePoolId ≠ chan.poolId := fun r hr heq =>
        hmem (List.mem_map.mpr ⟨r, hr, heq⟩)
      rw [if_neg hzero, if_neg hmem, if_pos ⟨hzero, hnone⟩]
      omega

theorem CuData.Consistent.conserved {cu : CuData} (hcu : cu.Consistent) (hx : cu.Exact) :
    cu.Conserved := by
  have hledger := hcu.ledger
  have hslots : sumBy ReserveData.unused cu.slots +
      sumBy (fun r => sumBy (drawnFrom r.reservePoolId) cu.channels) cu.slots =
        sumBy (·.reserveLoadUnified) cu.slots := by
    rw [← sumBy_add]
    refine sumBy_congr fun r hr => ?_
    have := hx r hr
    simp only [ReserveData.unused]
    omega
  have hchans : sumBy (·.channelLoadUnified) cu.channels =
      sumBy (drawnFrom 0) cu.channels +
        sumBy (fun r => sumBy (drawnFrom r.reservePoolId) cu.channels) cu.slots +
          sumBy (orphaned cu.slots) cu.channels := by
    rw [← sumBy_comm, ← sumBy_add, ← sumBy_add]
    exact sumBy_congr fun chan _ => load_split hcu.slots.nodup hcu.slots.active chan
  refine ⟨?_, hledger.reserved_eq, fun r hr => ⟨hx r hr, hledger.used_le_load r hr⟩,
    hcu.reserved_nonneg, hcu.reserved_le, hledger.total_le⟩
  have := hledger.total_eq
  omega

/-! ## All runs -/

namespace System

def Conserves (s : System) : Prop := ∀ dev ∈ s.devList, ∀ cu ∈ dev.cuList, cu.Conserved

/-- Load conservation. In every run in which no pool gets an id that an orphaned channel still
carries, the loads of all CUs are conserved. -/
theorem load_conservation {limit : Nat} {s : System} (h : Reachable freshRuns limit s) :
    s.Conserves := by
  intro dev hdev cu hcu
  have hsound := h.good.sound dev hdev
  exact (hsound.consistent cu hcu).conserved (hsound.exact trivial cu hcu)

end System

open Scenario in
/-- Client 1 reserves a part of a CU, client 2 draws from it, and client 1 is recycled: the
channel of client 2 is orphaned. -/
def orphanRun : List Op :=
  [.loadOneDevice (env 1 1) 0 "scaler.xclbin",
    .resReserveCuPool (pool 1 [request 1 0 300000]),
    .resAllocCu { request 2 1 200000 with devExcl := true } true,
    .recycleResource 1]

namespace System

theorem load_conservation_orphan : (Scenario.after orphanRun).Conserves :=
  load_conservation (reachable_after orphanRun (by decide +kernel))

/-- After the counter of the pool ids has wrapped, a new pool gets the id that the orphaned
channel carries, and its slot does not know of the load that the channel draws. -/
theorem load_conservation_wrapped :
    ∃ limit s, Reachable allRuns limit s ∧ ¬s.Conserves := by
  have hid : (Scenario.after orphanRun).reservePoolId = 1 := by decide +kernel
  have h := reachable_skip (reachable_after orphanRun (by decide +kernel)) (maxId - 1)
    (by rw [hid]; decide)
  rw [hid] at h
  refine ⟨8, _, h.run [.resReserveCuPool (Scenario.pool 2 [Scenario.request 2 0 300000])]
    (by decide +kernel), fun hall => ?_⟩
  have hslots := fun dev hdev cu hcu r hr => ((hall dev hdev cu hcu).slotUsed r hr).1
  exact absurd hslots (by decide +kernel)

end System

end Xrm
