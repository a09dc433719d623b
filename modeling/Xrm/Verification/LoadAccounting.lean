import Xrm.Verification.Scenario

/-! # The load of the devices

The load record of a loaded device is the sum over its CUs in every run in which clients are
recycled only while no load of others is in use: recycling sets the record to 0.
-/

namespace Xrm

open FixedTable

namespace DeviceData

variable {D : Discipline} {dev : DeviceData}

/-- The load record of the device agrees with its CUs. -/
structure LoadAccounted (dev : DeviceData) : Prop where
  current : dev.devLoadInfo.devCurrentLoad = sumBy (·.totalUsedLoadUnified) dev.cuList
  nonneg : 0 ≤ dev.devLoadInfo.devCurrentLoad
  le : dev.devLoadInfo.devCurrentLoad ≤ dev.numCu * maxChanLoad
  rate : dev.devLoadInfo.devLoadRate =
    dev.devLoadInfo.devCurrentLoad * 1000 / (dev.numCu * maxChanLoad)

theorem usedLoad_bounds {cus : List CuData} (h : ∀ cu ∈ cus, cu.Consistent) :
    0 ≤ sumBy (·.totalUsedLoadUnified) cus ∧
      sumBy (·.totalUsedLoadUnified) cus ≤ cus.length * maxChanLoad := by
  refine ⟨sumBy_nonneg fun cu hcu => (h cu hcu).total_nonneg, ?_⟩
  calc
    _ ≤ sumBy (fun _ => maxChanLoad) cus :=
      sumBy_le_sumBy fun cu hcu => (h cu hcu).ledger.total_le
    _ = cus.length * maxChanLoad := by
      clear h
      induction cus with
      | nil => simp
      | cons cu cus ih =>
          rw [sumBy_cons, ih, List.length_cons, Nat.cast_add, Nat.cast_one, add_mul, one_mul,
            add_comm]

theorem Metered.accounted (h : dev.Metered) (hs : dev.Sound D) : dev.LoadAccounted := by
  obtain ⟨h0, hle⟩ := usedLoad_bounds hs.consistent
  have hcurrent : dev.devLoadInfo.devCurrentLoad = sumBy (·.totalUsedLoadUnified) dev.cuList :=
    h.current
  rw [← hcurrent] at h0 hle
  refine ⟨hcurrent, h0, hle, ?_⟩
  have hle : dev.devLoadInfo.devCurrentLoad ≤ dev.numCu * maxChanLoad := hle
  generalize hcap : (dev.numCu : Int) * maxChanLoad = cap at hle
  have hquot : 0 ≤ dev.devLoadInfo.devCurrentLoad * 1000 / cap :=
    Int.ediv_nonneg (by omega) (by omega)
  have hrate : dev.devLoadInfo.devCurrentLoad * 1000 / cap ≤ 1000 := by
    rcases (show 0 ≤ cap by omega).eq_or_lt with hzero | hpos
    · rw [← hzero, Int.ediv_zero]
      omega
    · exact Int.ediv_le_of_le_mul hpos (by omega)
  rw [h.rate, loadRate, hcap, Int.tdiv_eq_ediv_of_nonneg (by omega)]
  exact i32_eq (by omega) (by omega)

end DeviceData

namespace System

/-- The load records of all loaded devices agree with their CUs. -/
def LoadAccounted (s : System) : Prop :=
  ∀ dev ∈ s.devList, dev.isLoaded = true → dev.LoadAccounted

/-- Device load accounting. In every run in which a client is recycled only while no load is in
use but what its own slots hold back unused, the load record of every loaded device agrees with
its CUs. -/
theorem load_accounted {limit : Nat} {s : System} (h : Reachable meteredRuns limit s) :
    s.LoadAccounted := fun dev hdev hload =>
  ((h.good.recorded dev hdev).metered trivial hload).accounted (h.good.sound dev hdev)

instance (c : Nat) (s : System) : Decidable (s.FreeBut c) :=
  inferInstanceAs (Decidable (∀ dev ∈ s.devList, dev.isLoaded = true → ∀ cu ∈ dev.cuList,
    cu.totalUsedLoadUnified =
      sumBy ReserveData.unused (cu.slots.filter fun r => r.clientIsActive && r.clientId == c)))

end System

open Scenario in
/-- Client 1 reserves a part of a CU and is recycled. -/
def reservedRun : List Op :=
  [.loadOneDevice (env 1 1) 0 "scaler.xclbin",
    .resReserveCuPool (pool 1 [request 1 0 300000]),
    .recycleResource 1]

open Scenario in
/-- Client 1 takes a part of a CU; client 2, which holds nothing, is recycled. -/
def strangerRun : List Op :=
  [.loadOneDevice (env 1 1) 0 "scaler.xclbin",
    .resAllocCu { request 1 0 300000 with devExcl := true } true,
    .recycleResource 2]

namespace System

theorem load_accounted_reserved : (Scenario.after reservedRun).LoadAccounted := by
  refine load_accounted (reachable_after reservedRun ?_)
  refine ⟨⟨trivial, False.elim, False.elim, fun _ => trivial, False.elim⟩,
    ⟨by decide, False.elim, False.elim, fun _ => trivial, False.elim⟩,
    ⟨by decide, False.elim, False.elim, fun _ => ?_, False.elim⟩, trivial⟩
  show FreeBut 1 _
  decide +kernel

/-- Recycling a client that holds nothing sets the record to 0 while the load stays in use. -/
theorem load_unaccounted : ∃ limit s, Reachable allRuns limit s ∧ ¬s.LoadAccounted := by
  refine ⟨8, Scenario.after strangerRun, reachable_after strangerRun (by decide +kernel),
    fun hall => ?_⟩
  have hcurrent := fun dev hdev hload => (hall dev hdev hload).current
  exact absurd hcurrent (by decide +kernel)

end System

end Xrm
