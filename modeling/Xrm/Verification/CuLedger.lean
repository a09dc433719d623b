import Xrm.Verification.CuAlloc

/-! # The accounts of a compute unit

One change of a channel moves its load through the accounts: out of the default pool or out
of the slot of its pool. Taking, releasing, reserving and giving back are instances.
-/

namespace Xrm

open FixedTable

/-! ## One change of the channels -/

/-- The channels of `chans'` draw `load` more from pool `p` than those of `chans`. -/
structure Moves (p : Nat) (load : Int) (chans chans' : List ChannelData) : Prop where
  loads : sumBy (fun chan : ChannelData => chan.channelLoadUnified) chans' =
    sumBy (fun chan : ChannelData => chan.channelLoadUnified) chans + load
  draws : ∀ q, q ≠ 0 →
    sumBy (drawnFrom q) chans' = sumBy (drawnFrom q) chans + if p = q then load else 0

namespace ReserveData

@[simp] theorem draw_poolId (load : Int) (r : ReserveData) :
    (r.draw load).reservePoolId = r.reservePoolId := rfl

@[simp] theorem draw_load (load : Int) (r : ReserveData) :
    (r.draw load).reserveLoadUnified = r.reserveLoadUnified := rfl

/-- The slot after its used load has followed a change of the channels. -/
def follow (chans chans' : List ChannelData) (r : ReserveData) : ReserveData :=
  { r with
    reserveUsedLoadUnified := r.reserveUsedLoadUnified +
      (sumBy (drawnFrom r.reservePoolId) chans' - sumBy (drawnFrom r.reservePoolId) chans) }

theorem follow_self (chans : List ChannelData) (r : ReserveData) : r.follow chans chans = r := by
  simp [follow]

theorem follow_follow (chans chans' chans'' : List ChannelData) (r : ReserveData) :
    (r.follow chans chans').follow chans' chans'' = r.follow chans chans'' := by
  simp only [follow, ReserveData.mk.injEq, and_true, true_and]
  omega

theorem draw_used {load : Int} {r : ReserveData}
    (h : i32 (r.reserveUsedLoadUnified + load) = r.reserveUsedLoadUnified + load) :
    (r.draw load).reserveUsedLoadUnified = r.reserveUsedLoadUnified + load := h

end ReserveData

theorem nodup_poolId_ne {slots : List ReserveData} {i j : Nat}
    (h : (slots.map (·.reservePoolId)).Nodup) (hi : i < slots.length) (hj : j < slots.length)
    (hij : i ≠ j) : slots[i].reservePoolId ≠ slots[j].reservePoolId := by
  intro heq
  have hi' : i < (slots.map (·.reservePoolId)).length := by simpa using hi
  have hj' : j < (slots.map (·.reservePoolId)).length := by simpa using hj
  have heq' : (slots.map (·.reservePoolId))[i] = (slots.map (·.reservePoolId))[j] := by
    simpa using heq
  exact hij ((List.Nodup.getElem_inj_iff h).mp heq')

namespace Ledger

variable {chans chans' : List ChannelData} {slots : List ReserveData} {total reserved load : Int}
  {p i : Nat}

/-- A move without a slot goes through the default pool. -/
theorem moveDefault (h : Ledger chans slots total reserved) (hm : Moves p load chans chans')
    (ha : ∀ r ∈ slots, r.Active) (hp : ∀ r ∈ slots, r.reservePoolId ≠ p)
    (hle : total + load ≤ maxChanLoad) : Ledger chans' slots (total + load) reserved := by
  refine ⟨?_, h.reserved_eq, hle, h.used_le_load, ?_⟩
  · rw [hm.loads, h.total_eq]
    omega
  · intro r hr
    rw [hm.draws _ (ha r hr).poolId, if_neg (hp r hr).symm]
    have := h.used_le_drawn r hr
    omega

/-- A move of the pool of a slot changes the slot's used load only. -/
theorem moveSlot (h : Ledger chans slots total reserved) (hm : Moves p load chans chans')
    (ha : ∀ r ∈ slots, r.Active) (hnodup : (slots.map (·.reservePoolId)).Nodup)
    (hi : i < slots.length) (hp : slots[i].reservePoolId = p)
    (hroom : slots[i].reserveUsedLoadUnified + load ≤ slots[i].reserveLoadUnified)
    (hfit : i32 (slots[i].reserveUsedLoadUnified + load) =
      slots[i].reserveUsedLoadUnified + load) :
    Ledger chans' (slots.modify i (ReserveData.draw load)) total reserved := by
  have hused := ReserveData.draw_used hfit
  have hentry : ∀ r ∈ slots.modify i (ReserveData.draw load),
      r.reserveUsedLoadUnified ≤ r.reserveLoadUnified ∧
        r.reserveUsedLoadUnified ≤ sumBy (drawnFrom r.reservePoolId) chans' := by
    intro r hr
    obtain ⟨j, hj, rfl⟩ := List.mem_iff_getElem.mp hr
    have hj' : j < slots.length := by simpa using hj
    have hmem := List.getElem_mem hj'
    have hload := h.used_le_load _ hmem
    have hdrawn := h.used_le_drawn _ hmem
    have hmove := hm.draws _ (ha _ hmem).poolId
    rw [List.getElem_modify]
    by_cases hij : i = j
    · subst hij
      simp only [if_true, ReserveData.draw_load, ReserveData.draw_poolId, hused]
      rw [if_pos hp.symm] at hmove
      omega
    · have hne := nodup_poolId_ne hnodup hi hj' hij
      rw [hp] at hne
      rw [if_neg hne] at hmove
      simp only [if_neg hij]
      omega
  refine ⟨?_, ?_, h.total_le, fun r hr => (hentry r hr).1, fun r hr => (hentry r hr).2⟩
  · rw [hm.loads, sumBy_modify _ _ _ _ hi, h.total_eq]
    simp only [ReserveData.unused, ReserveData.draw_load, hused]
    omega
  · rw [sumBy_modify _ _ _ _ hi, h.reserved_eq]
    simp

/-- Slot `i` gives up its unused load. -/
theorem eraseSlot (h : Ledger chans slots total reserved) (hi : i < slots.length) :
    Ledger chans (slots.eraseIdx i) (total - slots[i].unused)
      (reserved - slots[i].reserveLoadUnified) := by
  refine ⟨?_, ?_, ?_, ?_, ?_⟩
  · rw [sumBy_eraseIdx _ _ _ hi, h.total_eq]
    omega
  · rw [sumBy_eraseIdx _ _ _ hi, h.reserved_eq]
  · have := h.unused_nonneg (List.getElem_mem hi)
    have := h.total_le
    omega
  · exact fun r hr => h.used_le_load r (List.mem_of_mem_eraseIdx hr)
  · exact fun r hr => h.used_le_drawn r (List.mem_of_mem_eraseIdx hr)

end Ledger

/-! ## The accounts with given channels -/

namespace CuData

/-- The accounts of a CU, were `chans` its channels. -/
structure Accounts (cu : CuData) (chans : List ChannelData) : Prop where
  channels : ChannelTable chans cu.numChanInuse
  slots : SlotTable cu.reserves cu.numReserve
  ledger : Ledger chans cu.slots cu.totalUsedLoadUnified cu.totalReservedLoadUnified

/-- Every slot gives out exactly what `chans` draw from its pool. -/
def ExactOn (cu : CuData) (chans : List ChannelData) : Prop :=
  ∀ r ∈ cu.slots, r.reserveUsedLoadUnified = sumBy (drawnFrom r.reservePoolId) chans

theorem Consistent.accounts {cu : CuData} (h : cu.Consistent) : cu.Accounts cu.channels :=
  ⟨h.channels, h.slots, h.ledger⟩

theorem Accounts.consistent {cu : CuData} (h : cu.Accounts cu.channels)
    (hc : ClientTable cu.channels cu.clients cu.numClient) : cu.Consistent :=
  ⟨h.channels, hc, h.slots, h.ledger⟩

/-- The accounts do not look at the attached clients. -/
theorem Accounts.congr {cu cu' : CuData} {chans : List ChannelData} (h : cu.Accounts chans)
    (hn : cu'.numChanInuse = cu.numChanInuse) (hr : cu'.reserves = cu.reserves)
    (hnr : cu'.numReserve = cu.numReserve)
    (ht : cu'.totalUsedLoadUnified = cu.totalUsedLoadUnified)
    (htr : cu'.totalReservedLoadUnified = cu.totalReservedLoadUnified) :
    cu'.Accounts chans := by
  have hslots : cu'.slots = cu.slots := by rw [CuData.slots, CuData.slots, hr, hnr]
  refine ⟨?_, ?_, ?_⟩
  · rw [hn]
    exact h.channels
  · rw [hr, hnr]
    exact h.slots
  · rw [hslots, ht, htr]
    exact h.ledger

theorem slots_length_of {cu : CuData} (h : SlotTable cu.reserves cu.numReserve) :
    cu.slots.length = cu.numReserve := by
  have := h.filled.le
  have := h.filled.length
  rw [slots, List.length_take]
  omega

theorem slots_modify (cu : CuData) (i : Nat) (f : ReserveData → ReserveData) :
    (cu.reserves.modify i f).take cu.numReserve = cu.slots.modify i f := by
  rw [slots, List.take_modify]

end CuData

theorem SlotTable.draw {reserves : List ReserveData} {n i : Nat} (h : SlotTable reserves n)
    (hi : i < n) (load : Int) : SlotTable (reserves.modify i (ReserveData.draw load)) n := by
  refine ⟨h.filled.modify hi _, ?_, ?_⟩
  · rw [List.take_modify]
    exact forall_mem_modify h.active fun r hr =>
      ⟨(h.active r hr).active, (h.active r hr).poolId, (h.active r hr).clientId,
        (h.active r hr).load⟩
  · rw [List.take_modify, map_modify_eq fun r => ReserveData.draw_poolId load r]
    exact h.nodup

namespace CuData

variable {cu cu' : CuData} {chans chans' : List ChannelData} {p i : Nat} {load : Int}

/-- What a move does to the accounts: the load goes through slot `idx`, or through the default
pool when there is none. -/
structure Booked (cu cu' : CuData) (load : Int) (idx : Option Nat) : Prop where
  numReserve : cu'.numReserve = cu.numReserve
  totalReserved : cu'.totalReservedLoadUnified = cu.totalReservedLoadUnified
  default : idx = none → cu'.reserves = cu.reserves ∧
    cu'.totalUsedLoadUnified = i32 (cu.totalUsedLoadUnified + load)
  drawn : ∀ i, idx = some i → cu'.reserves = cu.reserves.modify i (ReserveData.draw load) ∧
    cu'.totalUsedLoadUnified = cu.totalUsedLoadUnified

/-- Where a move of pool `p` has to be booked, and that there is room for it. -/
structure Books (cu : CuData) (p : Nat) (load : Int) (idx : Option Nat) : Prop where
  default : idx = none → (∀ r ∈ cu.slots, r.reservePoolId ≠ p) ∧
    i32 (cu.totalUsedLoadUnified + load) = cu.totalUsedLoadUnified + load ∧
      cu.totalUsedLoadUnified + load ≤ maxChanLoad
  drawn : ∀ i, idx = some i → ∃ hi : i < cu.slots.length, cu.slots[i].reservePoolId = p ∧
    i32 (cu.slots[i].reserveUsedLoadUnified + load) =
        cu.slots[i].reserveUsedLoadUnified + load ∧
      cu.slots[i].reserveUsedLoadUnified + load ≤ cu.slots[i].reserveLoadUnified

/-- A booked move keeps the accounts. -/
theorem Accounts.move {idx : Option Nat} (h : cu.Accounts chans)
    (hm : Moves p load chans chans') (hbook : cu.Books p load idx)
    (hbooked : Booked cu cu' load idx) (hchan : ChannelTable chans' cu'.numChanInuse) :
    cu'.Accounts chans' := by
  cases idx with
  | none =>
      obtain ⟨hp, hfit, hle⟩ := hbook.default rfl
      obtain ⟨hres, htot⟩ := hbooked.default rfl
      have hslots : cu'.slots = cu.slots := by
        rw [CuData.slots, CuData.slots, hres, hbooked.numReserve]
      refine ⟨hchan, ?_, ?_⟩
      · rw [hres, hbooked.numReserve]
        exact h.slots
      · rw [hslots, htot, hfit, hbooked.totalReserved]
        exact h.ledger.moveDefault hm h.slots.active hp hle
  | some i =>
      obtain ⟨hi, hp, hfit, hroom⟩ := hbook.drawn i rfl
      obtain ⟨hres, htot⟩ := hbooked.drawn i rfl
      have hslots : cu'.slots = cu.slots.modify i (ReserveData.draw load) := by
        rw [CuData.slots, hres, hbooked.numReserve, slots_modify]
      have hi' : i < cu.numReserve := by rwa [slots_length_of h.slots] at hi
      refine ⟨hchan, ?_, ?_⟩
      · rw [hres, hbooked.numReserve]
        exact h.slots.draw hi' load
      · rw [hslots, htot, hbooked.totalReserved]
        exact h.ledger.moveSlot hm h.slots.active h.slots.nodup hi hp hroom hfit

/-- After a booked move every slot has followed the channels. -/
theorem Accounts.slots_move {idx : Option Nat} (h : cu.Accounts chans)
    (hm : Moves p load chans chans') (hbook : cu.Books p load idx)
    (hbooked : Booked cu cu' load idx) : cu'.slots = cu.slots.map (·.follow chans chans') := by
  have hdelta : ∀ r ∈ cu.slots, sumBy (drawnFrom r.reservePoolId) chans' -
      sumBy (drawnFrom r.reservePoolId) chans = if p = r.reservePoolId then load else 0 := by
    intro r hr
    have := hm.draws _ (h.slots.active r hr).poolId
    omega
  cases idx with
  | none =>
      obtain ⟨hp, -, -⟩ := hbook.default rfl
      obtain ⟨hres, -⟩ := hbooked.default rfl
      have hid : ∀ r ∈ cu.slots, r.follow chans chans' = r := by
        intro r hr
        rw [ReserveData.follow, hdelta r hr, if_neg (hp r hr).symm, add_zero]
      rw [CuData.slots, hres, hbooked.numReserve]
      calc
        _ = cu.slots.map id := (List.map_id _).symm
        _ = _ := List.map_congr_left fun r hr => (hid r hr).symm
  | some i =>
      obtain ⟨hi, hp, hfit, -⟩ := hbook.drawn i rfl
      obtain ⟨hres, -⟩ := hbooked.drawn i rfl
      rw [CuData.slots, hres, hbooked.numReserve, slots_modify]
      refine List.ext_getElem (by simp) fun j hj hj' => ?_
      have hlt : j < cu.slots.length := by simpa using hj
      have hmem := List.getElem_mem hlt
      rw [List.getElem_modify, List.getElem_map, ReserveData.follow, hdelta _ hmem]
      by_cases hij : i = j
      · subst hij
        rw [if_pos rfl, if_pos hp.symm, ReserveData.draw, hfit]
      · have hne : cu.slots[i].reservePoolId ≠ cu.slots[j].reservePoolId :=
          nodup_poolId_ne h.slots.nodup hi hlt hij
        rw [if_neg hij, if_neg (by rwa [hp] at hne), add_zero]

theorem ExactOn.follow (h : cu.ExactOn chans)
    (hslots : cu'.slots = cu.slots.map (·.follow chans chans')) : cu'.ExactOn chans' := by
  intro r hr
  rw [hslots] at hr
  obtain ⟨r₀, hr₀, rfl⟩ := List.mem_map.mp hr
  have := h r₀ hr₀
  simp only [ReserveData.follow]
  omega

end CuData

end Xrm
