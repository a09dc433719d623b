import Xrm.Verification.FirstFit

/-! # What a reservation is worth

A slot keeps its load free for the requests out of its pool. It keeps neither a channel of the CU
nor the access to the device.
-/

namespace Xrm

open FixedTable

variable {prop : CuProperty} {limit : Nat}

namespace CuData

variable {cu : CuData}

/-- An active slot of the request's pool has the load of the request left. -/
def HasReserved (cu : CuData) (prop : CuProperty) : Prop :=
  ∃ r ∈ cu.reserves, r.clientIsActive = true ∧ r.reservePoolId = prop.poolId ∧
    prop.requestLoadUnified ≤ r.reserveLoadUnified - r.reserveUsedLoadUnified

instance (cu : CuData) (prop : CuProperty) : Decidable (cu.HasReserved prop) :=
  inferInstanceAs (Decidable (∃ r ∈ cu.reserves, _ ∧ _ ∧ _))

/-- The active entries of the table are the slots in use. -/
theorem mem_slots_iff (hcu : cu.Consistent) {r : ReserveData} :
    r ∈ cu.slots ↔ r ∈ cu.reserves ∧ r.clientIsActive = true := by
  constructor
  · intro hr
    exact ⟨List.mem_of_mem_take hr, (hcu.slots.active r hr).active⟩
  · rintro ⟨hr, hactive⟩
    rw [← List.take_append_drop cu.numReserve cu.reserves, List.mem_append] at hr
    rcases hr with hr | hr
    · exact hr
    · rw [hcu.slots.filled.rest r hr] at hactive
      simp [ReserveData.zero] at hactive

/-- A slot is the only one of its pool. -/
theorem share_of_slot (hcu : cu.Consistent) {r : ReserveData} (hr : r ∈ cu.slots)
    (hpool : r.reservePoolId = prop.poolId) :
    cu.share prop = some (r.reserveUsedLoadUnified, r.reserveLoadUnified) := by
  have hp : prop.poolId ≠ 0 := hpool ▸ (hcu.slots.active r hr).poolId
  obtain ⟨i, hi, rfl⟩ := List.mem_iff_getElem.mp hr
  have hfind : cu.isReservePoolUsingCu prop.poolId = some i := by
    rw [← hpool]
    exact hcu.isReservePoolUsingCu_getElem hi
  rw [share_pool hcu hp, hfind, Option.map_some, hcu.slot_eq hi]

/-- What is reserved for a pool is what the admission test grants to its requests. -/
theorem hasReserved_iff (hcu : cu.Consistent) (hp : prop.poolId ≠ 0) :
    cu.HasReserved prop ↔ cu.Fits prop := by
  constructor
  · rintro ⟨r, hr, hactive, hpool, hroom⟩
    have hslot : r ∈ cu.slots := (mem_slots_iff hcu).mpr ⟨hr, hactive⟩
    refine ⟨_, share_of_slot hcu hslot hpool, ?_⟩
    simp only
    omega
  · rintro ⟨share, hshare, hle⟩
    rw [CuData.share, if_neg hp, Option.mem_def, Option.map_eq_some_iff] at hshare
    obtain ⟨r, hr, rfl⟩ := hshare
    have hpool := List.find?_some hr
    obtain ⟨hmem, hactive⟩ := (mem_slots_iff hcu).mp (List.mem_of_find?_eq_some hr)
    refine ⟨r, hmem, hactive, by simpa using hpool, ?_⟩
    simp only at hle
    omega

/-- A load that is reserved is one that a request may ask for. -/
theorem HasReserved.valid (h : cu.HasReserved prop) (hcu : cu.Consistent)
    (hpos : 0 < prop.requestLoadUnified) : ValidLoad prop.requestLoadUnified := by
  obtain ⟨r, hr, hactive, -, hroom⟩ := h
  have hslot : r ∈ cu.slots := (mem_slots_iff hcu).mpr ⟨hr, hactive⟩
  have hle := hcu.ledger.unused_le hcu.channels.proper hslot
  rw [ReserveData.unused] at hle
  exact ⟨by omega, by omega⟩

end CuData

namespace System

variable {s : System}

/-- A CU of a loaded device with the names of the request has its load reserved. -/
structure Reserves (s : System) (prop : CuProperty) (q : PreCu) : Prop where
  device : ∃ dev, s.devList[q.devId]? = some dev ∧ dev.isLoaded = true ∧
    dev.cuList[q.cuId]? = some q.cu
  names : q.cu.matchesCu prop = true
  reserved : q.cu.HasReserved prop

/-- The client of the request finds a way to the CU: no other client holds the device, its client
table has an entry for the client, and a channel of the CU is free. -/
structure Leaves (s : System) (prop : CuProperty) (q : PreCu) : Prop where
  device : ∃ dev, s.devList[q.devId]? = some dev ∧
    (dev.isExcl = true → dev.holder.clientId = prop.clientId) ∧
      ∃ entry ∈ dev.clientProcs, entry.clientId = prop.clientId ∨ entry.clientId = 0
  hasChannel : q.cu.HasChannel

instance (s : System) (prop : CuProperty) (q : PreCu) : Decidable (s.Reserves prop q) :=
  decidable_of_iff ((∃ dev ∈ s.devList[q.devId]?, dev.isLoaded = true ∧
      dev.cuList[q.cuId]? = some q.cu) ∧ q.cu.matchesCu prop = true ∧ q.cu.HasReserved prop)
    ⟨fun h => ⟨h.1, h.2.1, h.2.2⟩, fun h => ⟨h.device, h.names, h.reserved⟩⟩

instance (s : System) (prop : CuProperty) (q : PreCu) : Decidable (s.Leaves prop q) :=
  decidable_of_iff ((∃ dev ∈ s.devList[q.devId]?,
      (dev.isExcl = true → dev.holder.clientId = prop.clientId) ∧
        ∃ entry ∈ dev.clientProcs, entry.clientId = prop.clientId ∨ entry.clientId = 0) ∧
      q.cu.HasChannel)
    ⟨fun h => ⟨h.1, h.2⟩, fun h => ⟨h.device, h.hasChannel⟩⟩

/-- A request out of a pool can be served where its load is reserved and the way is open. -/
theorem eligible_iff_reserves {D : Discipline} (hsound : s.Sound D) (hp : prop.poolId ≠ 0)
    (hexcl : prop.devExcl = false) {q : PreCu} :
    s.Eligible prop q ↔ s.Reserves prop q ∧ s.Leaves prop q := by
  constructor
  · rintro ⟨⟨⟨dev, hdev, husable, hcu⟩, hnames⟩, hfits, hchan⟩
    have hcons := (hsound dev (List.mem_of_getElem? hdev)).consistent _ (List.mem_of_getElem? hcu)
    exact ⟨⟨⟨dev, hdev, husable.isLoaded, hcu⟩, hnames,
        (CuData.hasReserved_iff hcons hp).mpr hfits⟩,
      ⟨dev, hdev, husable.notHeld, husable.entry⟩, hchan⟩
  · rintro ⟨⟨⟨dev, hdev, hload, hcu⟩, hnames, hreserved⟩, ⟨dev', hdev', hheld, hentry⟩, hchan⟩
    obtain rfl : dev = dev' := Option.some.inj (hdev.symm.trans hdev')
    have hcons := (hsound dev (List.mem_of_getElem? hdev)).consistent _ (List.mem_of_getElem? hcu)
    exact ⟨⟨⟨dev, hdev, ⟨hload, hheld, by simp [hexcl], hentry⟩, hcu⟩, hnames⟩,
      (CuData.hasReserved_iff hcons hp).mp hreserved, hchan⟩

theorem Reserves.valid {D : Discipline} {q : PreCu} (h : s.Reserves prop q) (hsound : s.Sound D)
    (hpos : 0 < prop.requestLoadUnified) : ValidLoad prop.requestLoadUnified := by
  obtain ⟨⟨dev, hdev, -, hcu⟩, -, hreserved⟩ := h
  exact hreserved.valid
    ((hsound dev (List.mem_of_getElem? hdev)).consistent _ (List.mem_of_getElem? hcu)) hpos

/-- Whatever the clients have done before, an allocation out of a pool, over all devices as on a
given one, succeeds when its load is reserved on a CU to which the way is open, and a request that
can be sent succeeds in no other case. -/
theorem reservation_guarantee (h : Reachable allRuns limit s) (hp : prop.poolId ≠ 0)
    (hc : prop.clientId ≠ 0) (hpos : 0 < prop.requestLoadUnified) (hexcl : prop.devExcl = false)
    (hnamed : prop.unnamed = false) (updateId : Bool) :
    (∀ q, s.Reserves prop q → s.Leaves prop q →
      (∃ res, (s.resAllocCu prop updateId).2 = .ok res) ∧
        ∃ res, (s.resAllocCuFromDev q.devId prop updateId).2 = .ok res) ∧
      (ValidLoad prop.requestLoadUnified →
        (∀ res, (s.resAllocCu prop updateId).2 = .ok res →
          ∃ q, s.Reserves prop q ∧ s.Leaves prop q) ∧
        ∀ (deviceId : Int) (res : CuResource),
          (s.resAllocCuFromDev deviceId prop updateId).2 = .ok res →
            ∃ q, s.Reserves prop q ∧ s.Leaves prop q ∧ deviceId = q.devId) := by
  have hsound := h.good.sound
  constructor
  · intro q hreserves hleaves
    have hs : prop.Sent := ⟨hc, hreserves.valid hsound hpos⟩
    have heligible := (eligible_iff_reserves hsound hp hexcl).mpr ⟨hreserves, hleaves⟩
    obtain ⟨hall, hon⟩ := resAllocCu_first_fit h hs hnamed updateId
    exact ⟨hall.complete ⟨q, heligible⟩, (hon q.devId).complete ⟨q, heligible, rfl⟩⟩
  · intro hvalid
    obtain ⟨hall, hon⟩ := resAllocCu_first_fit h ⟨hc, hvalid⟩ hnamed updateId
    refine ⟨fun res hres => ?_, fun deviceId res hres => ?_⟩
    · obtain ⟨q, hq, -⟩ := hall.sound res hres
      exact ⟨q, (eligible_iff_reserves hsound hp hexcl).mp hq⟩
    · obtain ⟨q, ⟨hq, hid⟩, -⟩ := (hon deviceId).sound res hres
      obtain ⟨hreserves, hleaves⟩ := (eligible_iff_reserves hsound hp hexcl).mp hq
      exact ⟨q, hreserves, hleaves, hid⟩

end System

/-! ## Ways that a reservation does not keep open -/

open Scenario in
/-- Client 1 has reserved on a CU of the only device when client 2 takes the device for itself. -/
def heldRun : List Op :=
  [.loadOneDevice (env 1 2) 0 "scaler.xclbin", .resReserveCuPool (pool 1 [request 1 0 400000]),
    .resAllocCu { request 2 0 100000 with devExcl := true } true]

open Scenario in
/-- Client 1 has reserved on a CU, and client 2 has taken nothing yet. -/
def guaranteedRun : List Op :=
  [.loadOneDevice (env 1 1) 0 "scaler.xclbin", .resReserveCuPool (pool 1 [request 1 0 400000])]

namespace System

open Scenario

variable {s : System}

theorem reservation_guarantee_open :
    (∃ res, ((after guaranteedRun).resAllocCu (request 1 1 100000) true).2 = .ok res) ∧
      ∃ res, ((after guaranteedRun).resAllocCuFromDev 0 (request 1 1 100000) true).2 = .ok res :=
  (reservation_guarantee (reachable_after guaranteedRun (by decide +kernel)) (by decide) (by decide)
    (by decide) rfl (by decide) true).1
      ⟨0, 0, ((after guaranteedRun).devList.flatMap (·.cuList)).head (by decide +kernel)⟩
      (by decide +kernel) (by decide +kernel)

example : ((after heldRun).resAllocCu (request 1 1 100000) true).2.toOption = none := by
  decide +kernel

end System

end Xrm
