import Xrm.Verification.CuRelease

/-! # Reserving and giving back load of a compute unit -/

namespace Xrm

open FixedTable

/-! ## What the pools draw together -/

/-- At most one slot matches a channel. -/
theorem sumBy_drawn_slots {slots : List ReserveData}
    (hnodup : (slots.map (·.reservePoolId)).Nodup) (chan : ChannelData) :
    sumBy (fun r : ReserveData => drawnFrom r.reservePoolId chan) slots =
      if chan.poolId ∈ slots.map (·.reservePoolId) then chan.channelLoadUnified else 0 := by
  induction slots with
  | nil => simp
  | cons r rs ih =>
      rw [List.map_cons, List.nodup_cons] at hnodup
      rw [sumBy_cons, ih hnodup.2, drawnFrom]
      by_cases hr : chan.poolId = r.reservePoolId
      · rw [← hr] at hnodup
        rw [if_pos hr, if_neg hnodup.1, if_pos (by simp [hr])]
        omega
      · rw [if_neg hr, zero_add]
        simp only [List.map_cons, List.mem_cons, hr, false_or]

namespace Ledger

variable {chans : List ChannelData} {slots : List ReserveData} {total reserved : Int}

theorem reserved_nonneg (h : Ledger chans slots total reserved) (ha : ∀ r ∈ slots, r.Active) :
    0 ≤ reserved := by
  rw [h.reserved_eq]
  exact sumBy_nonneg fun r hr => (ha r hr).load.le

/-- The slots together use at most what the channels draw. -/
theorem used_le_loads (h : Ledger chans slots total reserved)
    (hp : ∀ chan ∈ chans, chan.Proper) (hnodup : (slots.map (·.reservePoolId)).Nodup) :
    sumBy (·.reserveUsedLoadUnified) slots ≤
      sumBy (fun chan : ChannelData => chan.channelLoadUnified) chans :=
  calc
    _ ≤ sumBy (fun r : ReserveData => sumBy (drawnFrom r.reservePoolId) chans) slots :=
        sumBy_le_sumBy h.used_le_drawn
    _ = sumBy (fun chan => sumBy (fun r : ReserveData => drawnFrom r.reservePoolId chan) slots)
          chans := sumBy_comm _ _ _
    _ ≤ _ := sumBy_le_sumBy fun chan hc => by
        rw [sumBy_drawn_slots hnodup]
        split
        · exact le_refl _
        · exact (hp chan hc).load_nonneg

/-- What is reserved is part of the load in use. -/
theorem reserved_le (h : Ledger chans slots total reserved)
    (hp : ∀ chan ∈ chans, chan.Proper) (hnodup : (slots.map (·.reservePoolId)).Nodup) :
    reserved ≤ total := by
  have hsplit : sumBy ReserveData.unused slots + sumBy (·.reserveUsedLoadUnified) slots =
      sumBy (·.reserveLoadUnified) slots := by
    rw [← sumBy_add]
    refine sumBy_congr fun r _ => ?_
    simp only [ReserveData.unused]
    omega
  have := h.used_le_loads hp hnodup
  have := h.total_eq
  have := h.reserved_eq
  omega

end Ledger

namespace CuData

variable {cu cu' : CuData} {p i : Nat} {prop : CuProperty}

theorem Consistent.reserved_nonneg (h : cu.Consistent) : 0 ≤ cu.totalReservedLoadUnified :=
  h.ledger.reserved_nonneg h.slots.active

theorem Consistent.reserved_le (h : cu.Consistent) :
    cu.totalReservedLoadUnified ≤ cu.totalUsedLoadUnified :=
  h.ledger.reserved_le h.channels.proper h.slots.nodup

/-- No channel of the CU carries the id of pool `p` without a slot for it. -/
def NoOrphan (p : Nat) (cu : CuData) : Prop :=
  (∀ r ∈ cu.slots, r.reservePoolId ≠ p) → ∀ chan ∈ cu.channels, chan.poolId ≠ p

instance (p : Nat) (cu : CuData) : Decidable (NoOrphan p cu) :=
  inferInstanceAs (Decidable ((∀ r ∈ cu.slots, r.reservePoolId ≠ p) →
    ∀ chan ∈ cu.channels, chan.poolId ≠ p))

/-! ## Reserving load -/

/-- The slot after `load` more of it is reserved. -/
def grow (load : Int) (r : ReserveData) : ReserveData :=
  { r with reserveLoadUnified := i32 (r.reserveLoadUnified + load) }

/-- The slot that a request of pool `p` opens. -/
def newSlot (p : Nat) (prop : CuProperty) : ReserveData where
  reservePoolId := p
  reserveLoadUnified := prop.requestLoadUnified
  reserveUsedLoadUnified := 0
  clientIsActive := true
  clientId := prop.clientId
  clientProcessId := prop.clientProcessId

/-- The slots after a reservation: the pool's slot grows, or a new one stands at the end. -/
def reservedSlots (p : Nat) (prop : CuProperty) (slots : List ReserveData) : List ReserveData :=
  match slots.findIdx? (·.reservePoolId == p) with
  | some i => slots.modify i (grow prop.requestLoadUnified)
  | none => slots ++ [newSlot p prop]

/-- What a reservation on a CU has checked and done. -/
structure Reserved (p : Nat) (prop : CuProperty) (cu cu' : CuData) : Prop where
  poolId : p ≠ 0
  load : ValidLoad prop.requestLoadUnified
  room : cu.totalUsedLoadUnified + prop.requestLoadUnified ≤ maxChanLoad
  users : SameUsers cu cu'
  numChanInuse : cu'.numChanInuse = cu.numChanInuse
  slots : cu'.slots = reservedSlots p prop cu.slots
  filled : Filled ReserveData.zero maxKernelReserves cu'.reserves cu'.numReserve
  total : cu'.totalUsedLoadUnified = cu.totalUsedLoadUnified + prop.requestLoadUnified
  reserved : cu'.totalReservedLoadUnified = cu.totalReservedLoadUnified + prop.requestLoadUnified

theorem isReservePoolUsingCu_eq_findIdx? (cu : CuData) (hp : p ≠ 0) :
    cu.isReservePoolUsingCu p = cu.slots.findIdx? (·.reservePoolId == p) := by
  rw [isReservePoolUsingCu, if_neg (by omega), slots]

theorem reserveLoadFromCu_spec (h : cu.Consistent)
    (hres : cu.reserveLoadFromCu p prop = .ok cu') : Reserved p prop cu cu' := by
  rw [reserveLoadFromCu] at hres
  simp only at hres
  split at hres
  · simp at hres
  rename_i hp
  split at hres
  · simp at hres
  rename_i hload
  split at hres
  swap
  · simp at hres
  rename_i hroom
  have hp : p ≠ 0 := by omega
  have hvalid : ValidLoad prop.requestLoadUnified := by
    constructor
    · omega
    · omega
  obtain ⟨hpos, hmax⟩ := hvalid
  have h0 := h.total_nonneg
  have h1 := h.ledger.total_le
  have h2 := h.reserved_nonneg
  have h3 := h.reserved_le
  rw [maxChanLoad] at h1 hmax
  have hfit := i32_eq (x := cu.totalUsedLoadUnified + prop.requestLoadUnified) (by omega)
    (by omega)
  have hfit' := i32_eq (x := cu.totalReservedLoadUnified + prop.requestLoadUnified) (by omega)
    (by omega)
  rw [hfit, hfit'] at hroom
  rw [hfit, hfit'] at hres
  have hfind := cu.isReservePoolUsingCu_eq_findIdx? hp
  split at hres
  · rename_i i hsome
    rw [Except.ok.injEq] at hres
    obtain ⟨-, hi, hpool⟩ := isReservePoolUsingCu_eq_some hsome
    have hi' : i < cu.numReserve := by rwa [h.slots_length] at hi
    rw [hfind] at hsome
    subst hres
    refine ⟨hp, ⟨hpos, by rw [maxChanLoad]; exact hmax⟩, hroom.1, ⟨rfl, rfl, rfl, rfl⟩, rfl, ?_,
      h.slots.filled.modify hi' _, rfl, rfl⟩
    rw [reservedSlots, hsome]
    exact cu.slots_modify i _
  · rename_i hnone
    rw [hfind] at hnone
    split at hres
    swap
    · simp at hres
    rename_i hlt
    rw [Except.ok.injEq] at hres
    subst hres
    obtain ⟨hfilled, htake⟩ := h.slots.filled.push hlt fun r => 
      { r with
        reserveLoadUnified := prop.requestLoadUnified
        reservePoolId := p
        clientIsActive := true
        clientId := prop.clientId
        clientProcessId := prop.clientProcessId }
    refine ⟨hp, ⟨hpos, by rw [maxChanLoad]; exact hmax⟩, hroom.1, ⟨rfl, rfl, rfl, rfl⟩, rfl, ?_,
      hfilled, rfl, rfl⟩
    rw [reservedSlots, hnone]
    exact htake

/-! ### The slots of a reservation -/

theorem reservedSlots_cases (p : Nat) (prop : CuProperty) (slots : List ReserveData) :
    (∃ i, ∃ hi : i < slots.length, slots[i].reservePoolId = p ∧
        reservedSlots p prop slots = slots.modify i (grow prop.requestLoadUnified)) ∨
      (∀ r ∈ slots, r.reservePoolId ≠ p) ∧
        reservedSlots p prop slots = slots ++ [newSlot p prop] := by
  rw [reservedSlots]
  cases hfind : slots.findIdx? (·.reservePoolId == p) with
  | some i =>
      rw [List.findIdx?_eq_some_iff_getElem] at hfind
      obtain ⟨hi, hp, -⟩ := hfind
      exact .inl ⟨i, hi, by simpa using hp, rfl⟩
  | none =>
      rw [List.findIdx?_eq_none_iff] at hfind
      exact .inr ⟨fun r hr => by simpa using hfind r hr, rfl⟩

theorem newSlot_active (hp : p ≠ 0) (hc : prop.clientId ≠ 0) (hpos : 0 < prop.requestLoadUnified) :
    (newSlot p prop).Active :=
  ⟨rfl, hp, hc, hpos⟩

theorem grow_load {load : Int} {r : ReserveData} (hr0 : 0 ≤ r.reserveLoadUnified)
    (hr : r.reserveLoadUnified ≤ 2 * maxChanLoad) (hl : ValidLoad load) :
    (grow load r).reserveLoadUnified = r.reserveLoadUnified + load := by
  obtain ⟨h0, h1⟩ := hl
  rw [maxChanLoad] at hr h1
  exact i32_eq (by omega) (by omega)

namespace Reserved

theorem growable (hcu : cu.Consistent) (h : Reserved p prop cu cu') {r : ReserveData}
    (hr : r ∈ cu.slots) : (grow prop.requestLoadUnified r).reserveLoadUnified =
      r.reserveLoadUnified + prop.requestLoadUnified :=
  grow_load (hcu.slots.active r hr).load.le (hcu.ledger.reserveLoad_le hcu.channels.proper hr)
    h.load

theorem slotTable (hcu : cu.Consistent) (h : Reserved p prop cu cu') (hs : prop.clientId ≠ 0) :
    SlotTable cu'.reserves cu'.numReserve := by
  refine ⟨h.filled, ?_, ?_⟩
  · show ∀ r ∈ cu'.slots, r.Active
    rw [h.slots]
    rcases reservedSlots_cases p prop cu.slots with ⟨i, hi, -, heq⟩ | ⟨-, heq⟩
    · rw [heq]
      refine forall_mem_modify hcu.slots.active fun r hr => ?_
      obtain ⟨ha, hp, hc, hl⟩ := hcu.slots.active r hr
      refine ⟨ha, hp, hc, ?_⟩
      rw [h.growable hcu hr]
      have := h.load.1
      omega
    · rw [heq]
      intro r hr
      rcases List.mem_append.mp hr with hr | hr
      · exact hcu.slots.active r hr
      · rw [List.mem_singleton.mp hr]
        exact newSlot_active h.poolId hs h.load.1
  · show (cu'.slots.map (·.reservePoolId)).Nodup
    rw [h.slots]
    rcases reservedSlots_cases p prop cu.slots with ⟨i, hi, -, heq⟩ | ⟨hnone, heq⟩
    · rw [heq, map_modify_eq (f := grow prop.requestLoadUnified) fun _ => rfl]
      exact hcu.slots.nodup
    · rw [heq, List.map_append]
      refine List.Nodup.append hcu.slots.nodup (by simp) ?_
      intro q hq hq'
      obtain ⟨r, hr, rfl⟩ := List.mem_map.mp hq
      exact hnone r hr (by simpa [newSlot] using hq')

theorem newLedger (hcu : cu.Consistent) (h : Reserved p prop cu cu') :
    Ledger cu.channels cu'.slots cu'.totalUsedLoadUnified cu'.totalReservedLoadUnified := by
  have hl := hcu.ledger
  rw [h.slots, h.total, h.reserved]
  have hpos := h.load.1
  rcases reservedSlots_cases p prop cu.slots with ⟨i, hi, -, heq⟩ | ⟨-, heq⟩
  · have hgrow := h.growable hcu (List.getElem_mem hi)
    have hentry : ∀ r ∈ cu.slots.modify i (grow prop.requestLoadUnified),
        r.reserveUsedLoadUnified ≤ r.reserveLoadUnified ∧
          r.reserveUsedLoadUnified ≤ sumBy (drawnFrom r.reservePoolId) cu.channels := by
      refine forall_mem_modify (fun r hr => ⟨hl.used_le_load r hr, hl.used_le_drawn r hr⟩)
        fun r hr => ⟨?_, hl.used_le_drawn r hr⟩
      rw [h.growable hcu hr]
      have := hl.used_le_load r hr
      simp only [grow]
      omega
    rw [heq]
    refine ⟨?_, ?_, h.room, fun r hr => (hentry r hr).1, fun r hr => (hentry r hr).2⟩
    · rw [sumBy_modify _ _ _ _ hi, hl.total_eq]
      simp only [ReserveData.unused, hgrow]
      simp only [grow]
      omega
    · rw [sumBy_modify _ _ _ _ hi, hl.reserved_eq, hgrow]
      omega
  · rw [heq]
    refine ⟨?_, ?_, h.room, ?_, ?_⟩
    · rw [sumBy_append, hl.total_eq]
      simp [ReserveData.unused, newSlot]
      omega
    · rw [sumBy_append, hl.reserved_eq]
      simp [newSlot]
    · intro r hr
      rcases List.mem_append.mp hr with hr | hr
      · exact hl.used_le_load r hr
      · rw [List.mem_singleton.mp hr]
        simp only [newSlot]
        omega
    · intro r hr
      rcases List.mem_append.mp hr with hr | hr
      · exact hl.used_le_drawn r hr
      · rw [List.mem_singleton.mp hr]
        exact Ledger.drawn_nonneg hcu.channels.proper _

/-- A reservation keeps the bookkeeping in order. -/
theorem consistent (hcu : cu.Consistent) (h : Reserved p prop cu cu') (hs : prop.clientId ≠ 0) :
    cu'.Consistent := by
  refine ⟨?_, ?_, h.slotTable hcu hs, ?_⟩
  · rw [h.users.channels, h.numChanInuse]
    exact hcu.channels
  · rw [h.users.channels, h.users.clients, h.users.numClient]
    exact hcu.clients
  · rw [h.users.channels]
    exact h.newLedger hcu

/-- A new slot is exact when no channel carries the id of its pool. -/
theorem exact (h : Reserved p prop cu cu') (hx : cu.Exact) (hfresh : NoOrphan p cu) :
    cu'.Exact := by
  intro r hr
  rw [h.slots] at hr
  rw [h.users.channels]
  rcases reservedSlots_cases p prop cu.slots with ⟨i, hi, -, heq⟩ | ⟨hnone, heq⟩
  · rw [heq] at hr
    exact forall_mem_modify (f := grow prop.requestLoadUnified) hx (fun r hr => hx r hr) r hr
  · rw [heq] at hr
    rcases List.mem_append.mp hr with hr | hr
    · exact hx r hr
    · rw [List.mem_singleton.mp hr]
      exact (sumBy_eq_zero fun chan hc => if_neg (hfresh hnone chan hc)).symm

/-- After a reservation the pool has a slot. -/
theorem noOrphan (h : Reserved p prop cu cu') : NoOrphan p cu' := by
  intro hnone
  rw [h.slots] at hnone
  rcases reservedSlots_cases p prop cu.slots with ⟨i, hi, hp, heq⟩ | ⟨-, heq⟩
  · rw [heq] at hnone
    have hi' : i < (cu.slots.modify i (grow prop.requestLoadUnified)).length := by simpa using hi
    refine absurd ?_ (hnone _ (List.getElem_mem hi'))
    rw [List.getElem_modify_eq]
    exact hp
  · rw [heq] at hnone
    exact absurd rfl (hnone (newSlot p prop) (by simp))

end Reserved

/-! ## Giving back slots -/

/-- What happens when slot `i` gives up its unused load. -/
structure SlotRemoved (i : Nat) (cu cu' : CuData) : Prop where
  lt : i < cu.slots.length
  users : SameUsers cu cu'
  numChanInuse : cu'.numChanInuse = cu.numChanInuse
  slots : cu'.slots = cu.slots.eraseIdx i
  filled : Filled ReserveData.zero maxKernelReserves cu'.reserves cu'.numReserve
  total : cu'.totalUsedLoadUnified = cu.totalUsedLoadUnified - (cu.slot i).unused
  reserved : cu'.totalReservedLoadUnified =
    cu.totalReservedLoadUnified - (cu.slot i).reserveLoadUnified

namespace SlotRemoved

theorem consistent (hcu : cu.Consistent) (h : SlotRemoved i cu cu') : cu'.Consistent := by
  refine ⟨?_, ?_, ⟨h.filled, ?_, ?_⟩, ?_⟩
  · rw [h.users.channels, h.numChanInuse]
    exact hcu.channels
  · rw [h.users.channels, h.users.clients, h.users.numClient]
    exact hcu.clients
  · show ∀ r ∈ cu'.slots, r.Active
    rw [h.slots]
    exact fun r hr => hcu.slots.active r (List.mem_of_mem_eraseIdx hr)
  · show (cu'.slots.map (·.reservePoolId)).Nodup
    rw [h.slots, ← List.eraseIdx_map]
    exact hcu.slots.nodup.sublist (List.eraseIdx_sublist _ _)
  · rw [h.users.channels, h.slots, h.total, h.reserved, hcu.slot_eq h.lt]
    exact hcu.ledger.eraseSlot h.lt

theorem exact (h : SlotRemoved i cu cu') (hx : cu.Exact) : cu'.Exact := by
  intro r hr
  rw [h.slots] at hr
  rw [h.users.channels]
  exact hx r (List.mem_of_mem_eraseIdx hr)

/-- Removing a slot that nobody uses leaves no channel of its pool behind. -/
theorem noOrphan (hcu : cu.Consistent) (hx : cu.Exact) (h : SlotRemoved i cu cu')
    (hused : (cu.slot i).reserveUsedLoadUnified = 0) (hfresh : NoOrphan p cu) :
    NoOrphan p cu' := by
  intro hnone chan hchan
  rw [h.slots] at hnone
  rw [h.users.channels] at hchan
  have hmem := List.getElem_mem h.lt
  have hi := h.lt
  by_cases hp : cu.slots[i].reservePoolId = p
  · intro hpool
    have hdrawn := hx _ hmem
    rw [← hcu.slot_eq h.lt, hused, hcu.slot_eq h.lt, hp] at hdrawn
    have hle : drawnFrom p chan ≤ sumBy (drawnFrom p) cu.channels :=
      le_sumBy (fun chan hc => drawnFrom_nonneg (hcu.channels.proper chan hc) p) hchan
    rw [drawnFrom, if_pos hpool, ← hdrawn] at hle
    have hproper := hcu.channels.proper chan hchan
    have hfree := hproper.free_of_load (le_antisymm hle hproper.load_nonneg)
    rw [hfree.poolId] at hpool
    exact (hcu.slots.active _ hmem).poolId (hp.trans hpool.symm)
  · refine hfresh (fun r hr heq => ?_) chan hchan
    obtain ⟨j, hj, rfl⟩ := List.getElem_of_mem hr
    have hji : j ≠ i := by
      rintro rfl
      exact hp heq
    refine hnone cu.slots[j] ?_ heq
    exact List.mem_eraseIdx_iff_getElem.mpr ⟨j, hj, hji, rfl⟩

end SlotRemoved

theorem Consistent.fit_unused (hcu : cu.Consistent) (hi : i < cu.slots.length) :
    i32 (cu.totalUsedLoadUnified - (cu.slot i).unused) =
        cu.totalUsedLoadUnified - (cu.slot i).unused ∧
      i32 (cu.totalReservedLoadUnified - (cu.slot i).reserveLoadUnified) =
        cu.totalReservedLoadUnified - (cu.slot i).reserveLoadUnified := by
  have hmem := List.getElem_mem hi
  have h0 := hcu.total_nonneg
  have h1 := hcu.ledger.total_le
  have h2 := hcu.reserved_nonneg
  have h3 := hcu.reserved_le
  have h4 := hcu.unused_le hmem
  have h5 := hcu.ledger.unused_nonneg hmem
  have h6 := hcu.ledger.reserveLoad_le hcu.channels.proper hmem
  have h7 := (hcu.slots.active _ hmem).load
  rw [maxChanLoad] at *
  rw [hcu.slot_eq hi]
  exact ⟨i32_eq (by omega) (by omega), i32_eq (by omega) (by omega)⟩

theorem removeSlot_filled (hcu : cu.Consistent) (hi : i < cu.slots.length) :
    Filled ReserveData.zero maxKernelReserves (cu.removeSlot i).reserves
        (cu.removeSlot i).numReserve ∧ (cu.removeSlot i).slots = cu.slots.eraseIdx i := by
  rw [hcu.slots_length] at hi
  exact hcu.slots.filled.closeGap hi

theorem giveBackSlot_spec (hcu : cu.Consistent) (hi : i < cu.slots.length)
    (hused : (cu.slot i).reserveUsedLoadUnified = 0) : SlotRemoved i cu (cu.giveBackSlot i) := by
  obtain ⟨hfit, hfit'⟩ := hcu.fit_unused hi
  obtain ⟨hfilled, hslots⟩ := removeSlot_filled hcu hi
  have hunused : (cu.slot i).unused = (cu.slot i).reserveLoadUnified := by
    rw [ReserveData.unused, hused, sub_zero]
  rw [hunused] at hfit
  exact ⟨hi, ⟨rfl, rfl, rfl, rfl⟩, rfl, hslots, hfilled, by rw [hunused]; exact hfit, hfit'⟩

/-- One round of the slot loop of a recycled client that removes its slot. -/
theorem recycleSlot_spec (hcu : cu.Consistent) (hi : i < cu.slots.length) :
    SlotRemoved i cu ({ cu with
      totalUsedLoadUnified := i32 (cu.totalUsedLoadUnified - (cu.slot i).unused)
      totalReservedLoadUnified :=
        i32 (cu.totalReservedLoadUnified - (cu.slot i).reserveLoadUnified) }.removeSlot i) := by
  obtain ⟨hfit, hfit'⟩ := hcu.fit_unused hi
  obtain ⟨hfilled, hslots⟩ := removeSlot_filled hcu hi
  exact ⟨hi, ⟨rfl, rfl, rfl, rfl⟩, rfl, hslots, hfilled, hfit, hfit'⟩

/-! ### The slots of a recycled client -/

/-- What the slot loop of a recycled client does to a CU from slot `i` on. -/
structure SlotsRecycled (c i : Nat) (cu cu' : CuData) : Prop where
  consistent : cu'.Consistent
  users : SameUsers cu cu'
  numChanInuse : cu'.numChanInuse = cu.numChanInuse
  slots : cu'.slots = cu.slots.take i ++ (cu.slots.drop i).filter (·.clientId != c)
  exact : cu.Exact → cu'.Exact

/-- The slot loop removes the client's slots and keeps the order of the others. -/
theorem recycleSlots_spec (c rounds : Nat) (hcu : cu.Consistent)
    (hrounds : cu.numReserve ≤ rounds + i) (tmpSum : Int) :
    SlotsRecycled c i cu (DeviceData.recycleSlots c rounds i cu tmpSum).1 := by
  induction rounds generalizing cu i tmpSum with
  | zero =>
      have hlen := hcu.slots_length
      rw [DeviceData.recycleSlots]
      refine ⟨hcu, SameUsers.refl cu, rfl, ?_, id⟩
      rw [List.drop_of_length_le (by omega), List.take_of_length_le (by omega)]
      simp
  | succ rounds ih =>
      have hlen := hcu.slots_length
      rw [DeviceData.recycleSlots]
      by_cases hlt : i < cu.numReserve
      · have hi : i < cu.slots.length := by omega
        have hdrop := List.drop_eq_getElem_cons hi
        have hslot := hcu.slot_eq hi
        rw [if_pos hlt]
        by_cases hc : (cu.slot i).clientId = c
        · have hactive : (cu.slot i).clientIsActive = true := by
            rw [hslot]
            exact (hcu.slots.active _ (List.getElem_mem hi)).active
          have hremoved := recycleSlot_spec hcu hi
          simp only [hactive, hc, and_self, if_true]
          have hnext := ih (i := i) (hremoved.consistent hcu) (by
            show cu.numReserve - 1 ≤ rounds + i
            omega) (tmpSum - (cu.slot i).unused)
          refine ⟨hnext.consistent, hremoved.users.trans hnext.users,
            hnext.numChanInuse.trans hremoved.numChanInuse, hnext.slots.trans ?_,
            fun hx => hnext.exact (hremoved.exact hx)⟩
          rw [hremoved.slots, hdrop, List.eraseIdx_eq_take_drop_succ,
            List.take_left' (by simp; omega), List.drop_left' (by simp; omega), List.filter_cons]
          simp [← hslot, hc]
        · simp only [hc, and_false, if_false]
          have hnext := ih (i := i + 1) hcu (by omega) tmpSum
          refine ⟨hnext.consistent, hnext.users, hnext.numChanInuse, ?_, hnext.exact⟩
          rw [hnext.slots, hdrop, List.take_add_one, List.getElem?_eq_getElem hi,
            List.filter_cons]
          simp [← hslot, hc]
      · rw [if_neg hlt]
        refine ⟨hcu, SameUsers.refl cu, rfl, ?_, id⟩
        rw [List.drop_of_length_le (by omega), List.take_of_length_le (by omega)]
        simp

/-! ## Whole CUs -/

/-- A CU without load in use. -/
def Idle (cu : CuData) : Prop := cu.totalUsedLoadUnified = 0

theorem Consistent.idle_channels (hcu : cu.Consistent) (h : cu.Idle) :
    ∀ chan ∈ cu.channels, chan.Free :=
  (hcu.ledger.idle hcu.channels.proper hcu.slots.active h).1

theorem Consistent.idle_slots (hcu : cu.Consistent) (h : cu.Idle) : cu.slots = [] :=
  (hcu.ledger.idle hcu.channels.proper hcu.slots.active h).2

theorem Consistent.idle_numReserve (hcu : cu.Consistent) (h : cu.Idle) : cu.numReserve = 0 := by
  rw [← hcu.slots_length, hcu.idle_slots h, List.length_nil]

theorem Consistent.idle_tenants (hcu : cu.Consistent) (h : cu.Idle) : cu.tenants = [] := by
  refine List.eq_nil_iff_forall_not_mem.mpr fun c hc => ?_
  obtain ⟨hc0, chan, hchan, hcl⟩ := (hcu.clients.mem_iff c).mp hc
  rw [(hcu.idle_channels h chan hchan).clientId] at hcl
  exact hc0 hcl.symm

theorem Consistent.idle_numClient (hcu : cu.Consistent) (h : cu.Idle) : cu.numClient = 0 := by
  rw [← hcu.clients.numClient_eq, hcu.idle_tenants h, List.length_nil]

theorem Consistent.idle_numChanInuse (hcu : cu.Consistent) (h : cu.Idle) :
    cu.numChanInuse = 0 := by
  rw [hcu.channels.inUse]
  refine sumBy_eq_zero fun chan hc => ?_
  rw [inService, (hcu.idle_channels h chan hc).clientId]
  rfl

theorem Idle.drawn (hcu : cu.Consistent) (h : cu.Idle) (q : Nat) :
    sumBy (drawnFrom q) cu.channels = 0 :=
  sumBy_eq_zero fun chan hc => (hcu.idle_channels h chan hc).drawnFrom q

/-- The slot of a CU that is reserved whole. -/
def wholeSlot (p c : Nat) (pid : Int) : ReserveData where
  reservePoolId := p
  reserveLoadUnified := maxChanLoad
  reserveUsedLoadUnified := 0
  clientIsActive := true
  clientId := c
  clientProcessId := pid

section Whole

variable {c : Nat} {pid : Int}

theorem reserveWhole_filled (hcu : cu.Consistent) (h : cu.Idle) (p c : Nat) (pid : Int) :
    Filled ReserveData.zero maxKernelReserves (cu.reserveWhole p c pid).reserves 1 ∧
      (cu.reserveWhole p c pid).slots = [wholeSlot p c pid] := by
  have hfilled := hcu.slots.filled
  rw [hcu.idle_numReserve h] at hfilled
  obtain ⟨hf, ht⟩ := hfilled.push (by decide) fun _ => wholeSlot p c pid
  exact ⟨hf, ht⟩

/-- Reserving an idle CU whole keeps the bookkeeping in order. -/
theorem reserveWhole_consistent (hcu : cu.Consistent) (h : cu.Idle) (hp : p ≠ 0) (hc : c ≠ 0) :
    (cu.reserveWhole p c pid).Consistent := by
  obtain ⟨hfilled, hslots⟩ := reserveWhole_filled hcu h p c pid
  have htable : ∀ r ∈ (cu.reserveWhole p c pid).slots, r = wholeSlot p c pid := by
    rw [hslots]
    simp
  have hload : sumBy (fun chan : ChannelData => chan.channelLoadUnified) cu.channels = 0 :=
    sumBy_eq_zero fun chan hc => (hcu.idle_channels h chan hc).load
  refine ⟨hcu.channels, hcu.clients, ⟨hfilled, ?_, ?_⟩, ?_⟩
  · intro r hr
    rw [htable r hr]
    exact ⟨rfl, hp, hc, show 0 < maxChanLoad by decide⟩
  · show ((cu.reserveWhole p c pid).slots.map (·.reservePoolId)).Nodup
    rw [hslots]
    simp
  · refine ⟨?_, ?_, le_refl _, ?_, ?_⟩
    · rw [hslots]
      show maxChanLoad = sumBy _ cu.channels + _
      rw [hload]
      simp [ReserveData.unused, wholeSlot]
    · rw [hslots]
      simp [wholeSlot, reserveWhole]
    · intro r hr
      rw [htable r hr]
      exact show 0 ≤ maxChanLoad by decide
    · intro r hr
      rw [htable r hr]
      exact (Idle.drawn hcu h _).symm.le

theorem reserveWhole_exact (hcu : cu.Consistent) (h : cu.Idle) :
    (cu.reserveWhole p c pid).Exact := by
  intro r hr
  rw [(reserveWhole_filled hcu h p c pid).2, List.mem_singleton] at hr
  rw [hr]
  exact (Idle.drawn hcu h _).symm

end Whole

/-- The request that takes a whole CU. -/
def wholeProp (c : Nat) (pid : Int) : CuProperty where
  kernelName := ""
  kernelAlias := ""
  cuName := ""
  devExcl := false
  requestLoadUnified := maxChanLoad
  requestLoadOriginal := maxChanLoad100
  clientId := c
  clientProcessId := pid
  poolId := 0

theorem wholeProp_received {c : Nat} (pid : Int) (hc : c ≠ 0) : (wholeProp c pid).Received :=
  ⟨hc, show maxChanLoad ≤ maxSafeLoad by decide⟩

theorem addClientToCu_first (cu : CuData) (c : Nat) (hn : cu.numClient = 0)
    (hz : cu.clients.findIdx (· == 0) = 0) :
    cu.addClientToCu c = { cu with clients := cu.clients.set 0 c, numClient := 1 } := by
  have hnone : cu.isClientUsingCu c = none := by
    simp [isClientUsingCu, hn]
  rw [addClientToCu, hnone]
  simp only [hz, hn, zero_add]

/-- Taking an idle CU whole is allocating its channel 0. -/
theorem takeWhole_allocated (hcu : cu.Consistent) (h : cu.Idle) (svc c : Nat) (pid : Int) :
    cu.Allocated (cu.takeWhole svc c pid) (wholeProp c pid) svc none 0 := by
  have hpos : 0 < cu.channels.length := by
    rw [hcu.channels.length]
    decide
  have hfree := hcu.idle_channels h _ (List.getElem_mem hpos)
  have hnum := hcu.idle_numChanInuse h
  have hclient := hcu.idle_numClient h
  refine ⟨show 0 < maxChanLoad by decide, ⟨rfl, ?_⟩, by rw [hnum]; decide, ⟨hpos, hfree⟩, ?_⟩
  · rw [h]
    exact show i32 (0 + maxChanLoad) ≤ maxChanLoad by decide
  · have hzero : cu.clients.findIdx (· == 0) = 0 := by
      rw [hcu.clients.findIdx_zero (by rw [hclient]; decide), hclient]
    have hmod : cu.channels.modify 0 (ChannelData.occupy (wholeProp c pid) svc) =
        cu.channels.modify 0 fun chan =>
          { chan with
            channelLoadUnified := maxChanLoad
            channelLoadOriginal := maxChanLoad100
            allocServiceId := svc
            clientId := c
            clientProcessId := pid } := by
      refine List.ext_getElem (by simp) fun j hj hj' => ?_
      rw [List.getElem_modify, List.getElem_modify]
      by_cases hj0 : 0 = j
      · subst hj0
        rw [if_pos rfl, if_pos rfl, ChannelData.occupy]
        have := hfree.poolId
        simp only [wholeProp, this]
      · rw [if_neg hj0, if_neg hj0]
    have hfit : i32 (cu.totalUsedLoadUnified + maxChanLoad) = maxChanLoad := by
      rw [h]
      decide
    have hassign : cu.assignChannel (wholeProp c pid) svc none 0 =
        { cu with
          channels := cu.channels.modify 0 (ChannelData.occupy (wholeProp c pid) svc)
          totalUsedLoadUnified := i32 (cu.totalUsedLoadUnified + maxChanLoad)
          numChanInuse := cu.numChanInuse + 1
          clients := cu.clients.set 0 c
          numClient := 1 } :=
      addClientToCu_first _ c hclient hzero
    rw [hassign, hmod, hfit, hnum]
    rfl

/-! ## CUs that nobody has used -/

/-- A CU as it is right after its xclbin was loaded. -/
structure Untouched (cu : CuData) : Prop where
  length : cu.channels.length = maxKernelChannels
  free : ∀ chan ∈ cu.channels, chan.Free
  numChanInuse : cu.numChanInuse = 0
  clients : cu.clients = List.replicate maxKernelChannels 0
  numClient : cu.numClient = 0
  reserves : cu.reserves = List.replicate maxKernelReserves ReserveData.zero
  numReserve : cu.numReserve = 0
  totalUsed : cu.totalUsedLoadUnified = 0
  totalReserved : cu.totalReservedLoadUnified = 0
  numbered : cu.Named → cu.InOrder

namespace Untouched

theorem slots (h : cu.Untouched) : cu.slots = [] := by
  rw [CuData.slots, h.numReserve, List.take_zero]

theorem consistent (h : cu.Untouched) : cu.Consistent := by
  have hslots := h.slots
  refine ⟨⟨h.length, fun chan hc => .inl (h.free chan hc), ?_⟩, ⟨?_, ?_, ?_⟩, ⟨?_, ?_, ?_⟩, ?_⟩
  · rw [h.numChanInuse]
    refine (sumBy_eq_zero fun chan hc => ?_).symm
    rw [inService, (h.free chan hc).clientId]
    rfl
  · rw [h.clients, h.numClient]
    exact filled_replicate 0 maxKernelChannels
  · simp [h.numClient]
  · intro c
    rw [h.numClient, List.take_zero]
    refine iff_of_false (by simp) ?_
    rintro ⟨hc, chan, hchan, hcl⟩
    rw [(h.free chan hchan).clientId] at hcl
    exact hc hcl.symm
  · rw [h.reserves, h.numReserve]
    exact filled_replicate ReserveData.zero maxKernelReserves
  · simp [h.numReserve]
  · simp [h.numReserve]
  · rw [hslots, h.totalUsed, h.totalReserved]
    refine ⟨?_, rfl, by decide, by simp, by simp⟩
    rw [sumBy_eq_zero fun chan hc => (h.free chan hc).load]
    rfl

theorem exact (h : cu.Untouched) : cu.Exact := by
  intro r hr
  rw [h.slots] at hr
  simp at hr

end Untouched

theorem blank_untouched : blank.Untouched where
  length := List.length_replicate
  free := fun chan hc => by
    rw [List.eq_of_mem_replicate hc]
    rfl
  numChanInuse := rfl
  clients := rfl
  numClient := rfl
  reserves := rfl
  numReserve := rfl
  totalUsed := rfl
  totalReserved := rfl
  numbered := fun h => by simp [Named, blank] at h

theorem initFromLayout_channels (cu : CuData) (ipLayoutIndex : Nat) (cuType : CuType)
    (cuName kernelName : String) :
    (cu.initFromLayout ipLayoutIndex cuType cuName kernelName).channels = cuInitChannels := by
  rw [initFromLayout]

theorem initFromLayout_untouched (h : cu.Untouched) (ipLayoutIndex : Nat) (cuType : CuType)
    (cuName kernelName : String) :
    (cu.initFromLayout ipLayoutIndex cuType cuName kernelName).Untouched where
  length := by rw [initFromLayout_channels, cuInitChannels, List.length_map, List.length_range]
  free := fun chan hc => by
    rw [initFromLayout_channels] at hc
    simp only [cuInitChannels, List.mem_map] at hc
    obtain ⟨i, -, rfl⟩ := hc
    rfl
  numChanInuse := rfl
  clients := h.clients
  numClient := rfl
  reserves := rfl
  numReserve := rfl
  totalUsed := rfl
  totalReserved := rfl
  numbered := fun _ => by rw [InOrder, initFromLayout_channels]

/-- The accounts do not look at the names. -/
theorem Untouched.congr {info : CuInfo} (h : cu.Untouched)
    (hnamed : { cu with toCuInfo := info }.Named → cu.Named) :
    { cu with toCuInfo := info }.Untouched :=
  ⟨h.length, h.free, h.numChanInuse, h.clients, h.numClient, h.reserves, h.numReserve,
    h.totalUsed, h.totalReserved, fun hn => h.numbered (hnamed hn)⟩

end CuData

end Xrm
