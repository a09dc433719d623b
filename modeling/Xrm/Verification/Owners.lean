import Xrm.Verification.GivingBack

/-! # Slots without an owner

The pools of an availability query belong to no client. The acts on a pool never look at the owner
of a slot: they do the same where every slot of the pool has one.
-/

namespace Xrm

/-! ## Slots, CUs and devices -/

/-- The client itself, or client 1 where there is none. -/
def owner (c : Nat) : Nat := if c = 0 then 1 else c

theorem owner_ne_zero (c : Nat) : owner c ≠ 0 := by
  rw [owner]
  split <;> omega

/-- A slot of a pool above `n` that has no owner gets one. -/
def ReserveData.own (n : Nat) (r : ReserveData) : ReserveData :=
  if n < r.reservePoolId then { r with clientId := owner r.clientId } else r

/-- The request of a client, if of none then of client 1. -/
def CuProperty.own (prop : CuProperty) : CuProperty :=
  { prop with clientId := owner prop.clientId }

namespace ReserveData

variable (n : Nat) (r : ReserveData)

@[simp] theorem own_reservePoolId : (r.own n).reservePoolId = r.reservePoolId := by
  rw [own]
  split <;> rfl

@[simp] theorem own_reserveLoadUnified :
    (r.own n).reserveLoadUnified = r.reserveLoadUnified := by
  rw [own]
  split <;> rfl

@[simp] theorem own_reserveUsedLoadUnified :
    (r.own n).reserveUsedLoadUnified = r.reserveUsedLoadUnified := by
  rw [own]
  split <;> rfl

@[simp] theorem own_zero : zero.own n = zero := by simp [own, zero]

theorem own_load (load : Int) :
    ({ r with reserveLoadUnified := load } : ReserveData).own n =
      { r.own n with reserveLoadUnified := load } := by
  rw [own, own]
  split <;> rfl

theorem own_of_le (h : r.reservePoolId ≤ n) : r.own n = r := by
  rw [own, if_neg (by omega)]

end ReserveData

namespace CuData

variable {n p : Nat} {cu : CuData} {prop : CuProperty}

def own (n : Nat) (cu : CuData) : CuData := { cu with reserves := cu.reserves.map (·.own n) }

theorem own_of_le (h : ∀ r ∈ cu.reserves, r.reservePoolId ≤ n) : cu.own n = cu := by
  have hmap : cu.reserves.map (·.own n) = cu.reserves :=
    (List.map_congr_left fun r hr => r.own_of_le n (h r hr)).trans (List.map_id _)
  rw [own, hmap]

@[simp] theorem own_slot (i : Nat) : (cu.own n).slot i = (cu.slot i).own n := by
  rw [slot, slot, own]
  simp only [List.getD_eq_getElem?_getD, List.getElem?_map]
  cases cu.reserves[i]? <;> simp

/-- A search over the slots does not look at their owners. -/
theorem own_findIdx? {P : ReserveData → Bool} (hP : ∀ r, P (r.own n) = P r) :
    ((cu.own n).reserves.take (cu.own n).numReserve).findIdx? P =
      (cu.reserves.take cu.numReserve).findIdx? P := by
  show ((cu.reserves.map (·.own n)).take cu.numReserve).findIdx? P = _
  rw [← List.map_take, List.findIdx?_map]
  congr 1
  funext r
  exact hP r

theorem own_modifySlot {f g : ReserveData → ReserveData} (h : ∀ r, (f r).own n = g (r.own n))
    (i : Nat) : (cu.modifySlot i f).own n = (cu.own n).modifySlot i g := by
  rw [modifySlot, modifySlot, own, own]
  congr 1
  exact FixedTable.map_modify h cu.reserves i

theorem own_giveBackSlot (i : Nat) : (cu.giveBackSlot i).own n = (cu.own n).giveBackSlot i := by
  rw [giveBackSlot, giveBackSlot, own_slot, ReserveData.own_reserveLoadUnified, own]
  simp only [removeSlot, own]
  rw [FixedTable.map_closeGap, ReserveData.own_zero]

/-- The load is reserved alike. -/
theorem own_reserveLoadFromCu (hn : n < p) :
    (cu.own n).reserveLoadFromCu p prop.own = (cu.reserveLoadFromCu p prop).map (·.own n) := by
  have hidx : (cu.own n).isReservePoolUsingCu p = cu.isReservePoolUsingCu p := by
    rw [isReservePoolUsingCu, isReservePoolUsingCu]
    split
    · rfl
    · exact own_findIdx? fun r => by simp
  rw [reserveLoadFromCu, reserveLoadFromCu, hidx]
  simp only
  by_cases hp : p < 1
  · rw [if_pos hp, if_pos hp]
    rfl
  rw [if_neg hp, if_neg hp]
  by_cases hload : prop.requestLoadUnified ≤ 0 ∨ prop.requestLoadUnified > maxChanLoad
  · rw [if_pos hload, if_pos (by exact hload)]
    rfl
  rw [if_neg hload, if_neg (by exact hload)]
  by_cases hroom : i32 (cu.totalUsedLoadUnified + prop.requestLoadUnified) ≤ maxChanLoad ∧
      i32 (cu.totalReservedLoadUnified + prop.requestLoadUnified) ≤ maxChanLoad
  · rw [if_pos hroom, if_pos (by exact hroom)]
    cases cu.isReservePoolUsingCu p with
    | some i =>
        refine congrArg Except.ok (Eq.symm ?_)
        refine own_modifySlot (fun r => ?_) i
        rw [ReserveData.own_load, ReserveData.own_reserveLoadUnified]
        rfl
    | none =>
        by_cases hslots : cu.numReserve < maxKernelReserves
        · rw [if_pos hslots, if_pos (by exact hslots)]
          -- the new slot belongs to the owner of the request
          have hnew : ∀ r : ReserveData,
              ({ r with
                reserveLoadUnified := prop.requestLoadUnified
                reservePoolId := p
                clientIsActive := true
                clientId := prop.clientId
                clientProcessId := prop.clientProcessId } : ReserveData).own n =
              { reserveUsedLoadUnified := (r.own n).reserveUsedLoadUnified
                reserveLoadUnified := prop.requestLoadUnified
                reservePoolId := p
                clientIsActive := true
                clientId := owner prop.clientId
                clientProcessId := prop.clientProcessId } := by
            intro r
            rw [ReserveData.own, if_pos hn, ReserveData.own_reserveUsedLoadUnified]
          refine congrArg Except.ok (Eq.symm ?_)
          simp only [own, modifySlot]
          congr 1
          exact FixedTable.map_modify hnew cu.reserves cu.numReserve
        · rw [if_neg hslots, if_neg (by exact hslots)]
          rfl
  · rw [if_neg hroom, if_neg (by exact hroom)]
    rfl

theorem own_reserveWhole (hn : n < p) (c : Nat) (pid : Int) :
    (cu.reserveWhole p c pid).own n = (cu.own n).reserveWhole p (owner c) pid := by
  rw [reserveWhole, reserveWhole, own]
  congr 1
  exact FixedTable.map_modify (fun r => by simp [ReserveData.own, hn]) cu.reserves 0

end CuData

theorem own_reserveSearch {n p : Nat} {prop : CuProperty} (hn : n < p) {wanted : CuData → Bool}
    (hwanted : ByClients wanted) (cus : List CuData) :
    reserveSearch p prop.own wanted (cus.map (·.own n)) =
      (reserveSearch p prop wanted cus).map (List.map (·.own n)) := by
  induction cus with
  | nil => rfl
  | cons cu cus ih =>
      have hname : (cu.own n).matchesKernel prop.own = cu.matchesKernel prop := rfl
      rw [List.map_cons, reserveSearch, reserveSearch, hwanted (cu.own n) cu rfl, hname, ih,
        CuData.own_reserveLoadFromCu hn]
      have hskip : Option.map (fun x => cu.own n :: x)
          (Option.map (List.map (·.own n)) (reserveSearch p prop wanted cus)) =
            Option.map (List.map (·.own n))
              (Option.map (fun x => cu :: x) (reserveSearch p prop wanted cus)) := by
        rw [Option.map_map, Option.map_map]
        rfl
      split
      · cases cu.reserveLoadFromCu p prop with
        | ok cu' => rfl
        | error e => exact hskip
      · exact hskip

namespace DeviceData

variable {n p : Nat} {dev : DeviceData} {prop : CuProperty}

def own (n : Nat) (dev : DeviceData) : DeviceData :=
  { dev with cuList := dev.cuList.map (·.own n) }

theorem own_updateDeviceLoad (change current : Int) :
    (dev.own n).updateDeviceLoad change current = (dev.updateDeviceLoad change current).own n := by
  simp only [updateDeviceLoad, own, numCu, List.length_map]

theorem own_reservePass (hn : n < p) {wanted : CuData → Bool} (hwanted : ByClients wanted) :
    (dev.own n).reservePass p prop.own wanted =
      (dev.reservePass p prop wanted).map (·.own n) := by
  rw [reservePass, reservePass, show (dev.own n).cuList = dev.cuList.map (·.own n) from rfl,
    own_reserveSearch hn hwanted]
  cases reserveSearch p prop wanted dev.cuList with
  | none => rfl
  | some cus => exact congrArg some (@own_updateDeviceLoad n { dev with cuList := cus } _ _)

theorem own_findUndo (cuId : Nat) (cus : List CuData) :
    findUndo p prop cuId (cus.map (·.own n)) =
      (findUndo p prop cuId cus).map fun (cuId, cu, i) => (cuId, cu.own n, i) := by
  induction cus generalizing cuId with
  | nil => rfl
  | cons cu cus ih =>
      have hname : (cu.own n).matchesKernel prop = cu.matchesKernel prop := rfl
      have hslot : undoSlot p prop (cu.own n) = undoSlot p prop cu :=
        CuData.own_findIdx? fun r => by simp
      rw [List.map_cons, findUndo, findUndo, hname, hslot, ih]
      split
      · cases undoSlot p prop cu <;> rfl
      · rfl

theorem own_relinquishCuFromDev :
    (dev.own n).relinquishCuFromDev p prop =
      (dev.relinquishCuFromDev p prop).map (·.own n) := by
  rw [relinquishCuFromDev, relinquishCuFromDev, own]
  split
  · rfl
  split
  · rfl
  split
  · rfl
  simp only
  rw [own_findUndo]
  cases findUndo p prop 0 dev.cuList with
  | none => rfl
  | some found =>
      obtain ⟨cuId, cu, i⟩ := found
      refine congrArg Except.ok ?_
      simp only [CuData.own_slot, ReserveData.own_reserveLoadUnified]
      rw [← own_updateDeviceLoad, ← CuData.own_giveBackSlot]
      simp only [setCu, own, List.map_set]

theorem own_relinquishCus (cus : List CuData) (dev : DeviceData) :
    relinquishCus p (cus.map (·.own n)) (dev.own n) =
      ((relinquishCus p cus dev).1.own n, (relinquishCus p cus dev).2.1.map (·.own n),
        (relinquishCus p cus dev).2.2) := by
  induction cus generalizing dev with
  | nil => rfl
  | cons cu cus ih =>
      rw [List.map_cons, relinquishCus, relinquishCus, CuData.own_findIdx? fun r => by simp]
      cases (cu.reserves.take cu.numReserve).findIdx? (·.reservePoolId == p) with
      | none => simp only [ih, List.map_cons]
      | some i =>
          simp only [CuData.own_slot, ReserveData.own_reserveUsedLoadUnified,
            ReserveData.own_reserveLoadUnified]
          split
          · rfl
          · simp only [own_updateDeviceLoad, ih, List.map_cons, CuData.own_giveBackSlot]

theorem own_relinquishDev : (dev.own n).relinquishDev p =
    ((dev.relinquishDev p).1.own n, (dev.relinquishDev p).2) := by
  rw [relinquishDev, relinquishDev, own]
  split
  · rfl
  · simp only
    rw [show ({ dev with cuList := dev.cuList.map (·.own n) } : DeviceData) = dev.own n from rfl,
      own_relinquishCus]
    rfl

theorem own_reserveAll (hn : n < p) (c : Nat) (pid : Int) :
    (dev.reserveAll p c pid).own n = (dev.own n).reserveAll p (owner c) pid := by
  rw [reserveAll, ← own_updateDeviceLoad, reserveAll]
  simp only [own, List.map_map, numCu, List.length_map]
  congr 2
  apply List.map_congr_left
  exact fun cu _ => CuData.own_reserveWhole hn c pid

/-- Acts on a pool are acts for clients that have an id, where its slots get an owner. -/
theorem PoolActBy.own {Q : Nat → Prop} {dev' : DeviceData} (h : PoolActBy Q p dev dev')
    (hn : n < p) : PoolAct p (dev.own n) (dev'.own n) := by
  cases h with
  | charge hc hpass hwanted =>
      rename_i prop wanted
      have hpass' : (dev.own n).reservePass p prop.own wanted = some (dev'.own n) := by
        rw [own_reservePass hn hwanted, hpass, Option.map_some]
      exact .charge (owner_ne_zero prop.clientId) hpass' hwanted
  | reserveAll hp hc hidle =>
      rw [own_reserveAll hn]
      refine .reserveAll hp (owner_ne_zero _) fun cu hcu => ?_
      obtain ⟨cu, hmem, rfl⟩ := List.mem_map.mp hcu
      exact hidle cu hmem
  | relinquish =>
      have hrelinquish : PoolAct p (dev.own n) ((dev.own n).relinquishDev p).1 := .relinquish
      rwa [own_relinquishDev] at hrelinquish
  | undo hundo =>
      rename_i prop
      have hundo' : (dev.own n).relinquishCuFromDev p prop = .ok (dev'.own n) := by
        rw [own_relinquishCuFromDev, hundo]
        rfl
      exact .undo hundo'

end DeviceData

/-! ## The system -/

namespace System

variable {n p : Nat} {s : System} {prop : CuProperty}

def own (n : Nat) (s : System) : System := { s with devList := s.devList.map (·.own n) }

@[simp] theorem own_numDevice : (s.own n).numDevice = s.numDevice := List.length_map _

theorem own_of_le (h : ∀ cu ∈ s.cus, ∀ r ∈ cu.reserves, r.reservePoolId ≤ n) : s.own n = s := by
  have hcus : ∀ dev ∈ s.devList, dev.own n = dev := by
    intro dev hdev
    have hmap : dev.cuList.map (·.own n) = dev.cuList :=
      (List.map_congr_left fun cu hcu =>
        CuData.own_of_le (h cu (List.mem_flatMap.mpr ⟨dev, hdev, hcu⟩))).trans (List.map_id _)
    rw [DeviceData.own, hmap]
  have hmap : s.devList.map (·.own n) = s.devList :=
    (List.map_congr_left hcus).trans (List.map_id _)
  rw [own, hmap]

/-- Where no slot of a pool above `n` is left, nothing has got an owner. -/
theorem own_of_own_le (h : ∀ cu ∈ (s.own n).cus, ∀ r ∈ cu.reserves, r.reservePoolId ≤ n) :
    s.own n = s := by
  refine own_of_le fun cu hcu r hr => ?_
  obtain ⟨dev, hdev, hcu⟩ := List.mem_flatMap.mp hcu
  have hown : cu.own n ∈ (s.own n).cus :=
    List.mem_flatMap.mpr ⟨dev.own n, List.mem_map_of_mem hdev, List.mem_map_of_mem hcu⟩
  have hle := h _ hown (r.own n) (List.mem_map_of_mem hr)
  rwa [ReserveData.own_reservePoolId] at hle

@[simp] theorem own_getElem? (i : Nat) :
    (s.own n).devList[i]? = s.devList[i]?.map (·.own n) := List.getElem?_map

theorem own_setDev (i : Nat) (dev : DeviceData) :
    (s.own n).setDev i (dev.own n) = (s.setDev i dev).own n := by
  simp only [setDev, own, List.map_set]

/-! ### Relinquishing -/

theorem own_relinquishDevs (devIds : List Nat) (s : System) :
    relinquishDevs p devIds (s.own n) =
      ((relinquishDevs p devIds s).1.own n, (relinquishDevs p devIds s).2) := by
  induction devIds generalizing s with
  | nil => rfl
  | cons i devIds ih =>
      rw [relinquishDevs, relinquishDevs, own_getElem?]
      cases s.devList[i]? with
      | none => exact ih s
      | some dev =>
          simp only [Option.map_some, DeviceData.own_relinquishDev]
          cases hdev : dev.relinquishDev p with
          | mk dev' done =>
              cases done with
              | true =>
                  simp only [own_setDev]
                  exact ih _
              | false => simp only [own_setDev]

theorem own_resRelinquishCuPool : (s.own n).resRelinquishCuPool p =
    ((s.resRelinquishCuPool p).1.own n, (s.resRelinquishCuPool p).2) := by
  rw [resRelinquishCuPool, resRelinquishCuPool, own_numDevice]
  split
  · rfl
  · exact own_relinquishDevs _ s

/-- The pools of a query are given up in turn. -/
theorem own_relinquishAll (ids : List Nat) (s : System) :
    ids.foldl (fun s id => (s.resRelinquishCuPool id).1) (s.own n) =
      (ids.foldl (fun s id => (s.resRelinquishCuPool id).1) s).own n := by
  induction ids generalizing s with
  | nil => rfl
  | cons id ids ih =>
      rw [List.foldl_cons, List.foldl_cons, own_resRelinquishCuPool]
      exact ih _

theorem DevActsBy.own {Q : Nat → Prop} {s' : System} (h : DevActsBy Q p s s') (hn : n < p) :
    DevActs p (s.own n) (s'.own n) := by
  induction h with
  | refl => exact .refl p _
  | tail _ hstep ih =>
      obtain ⟨i, dev, dev', hdev, hact, rfl⟩ := hstep
      rw [← own_setDev]
      refine ih.trans (.setDev ?_ (hact.own hn))
      rw [own_getElem?, hdev, Option.map_some]

end System

end Xrm
