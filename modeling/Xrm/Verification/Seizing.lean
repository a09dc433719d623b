import Xrm.Verification.Delivering
import Xrm.Verification.Owners

/-! # What is reserved has a slot

A reservation that succeeds leaves a slot of its pool somewhere, whatever it has reserved and undone
on the way. Only a request for nothing, or for devices without CUs, is granted for nothing.
-/

namespace Xrm

open FixedTable Relation

/-- The request is served, and asks for nothing. -/
def CuPoolProperty.AsksNothing (poolProp : CuPoolProperty) : Prop :=
  poolProp.cuListNum = 0 ∧ poolProp.xclbinNum = 0 ∧ 0 ≤ poolProp.cuListProp.cuNum ∧
    poolProp.cuListProp.cuNum ≤ maxListCuNum

def CuPoolPropertyV2.AsksNothing (poolProp : CuPoolPropertyV2) : Prop :=
  poolProp.cuListNum = 0 ∧ poolProp.xclbinNum = 0 ∧ poolProp.deviceIdListProp.deviceNum = 0 ∧
    0 ≤ poolProp.cuListProp.cuNum ∧ poolProp.cuListProp.cuNum ≤ maxListCuNumV2

namespace CuData

variable {n p : Nat} {cu cu' : CuData} {prop : CuProperty}

theorem own_slots : (cu.own n).slots = cu.slots.map (·.own n) := by
  rw [slots, slots, List.map_take]
  rfl

/-- A slot of the pool is there. -/
def HasSlot (p : Nat) (cu : CuData) : Prop := ∃ r ∈ cu.slots, r.reservePoolId = p

theorem hasSlot_own : (cu.own n).HasSlot p ↔ cu.HasSlot p := by
  simp [HasSlot, own_slots]

theorem hasSlot_reserveLoadFromCu (hn : n < p) (hcu : (cu.own n).Consistent)
    (h : cu.reserveLoadFromCu p prop = .ok cu') : cu'.HasSlot p := by
  have hown : (cu.own n).reserveLoadFromCu p prop.own = .ok (cu'.own n) := by
    rw [own_reserveLoadFromCu hn, h]
    rfl
  rw [← hasSlot_own (n := n), HasSlot, (reserveLoadFromCu_spec hcu hown).slots]
  rcases reservedSlots_cases p prop.own (cu.own n).slots with ⟨i, hi, hp, heq⟩ | ⟨-, heq⟩
  · rw [heq]
    have hi' : i < ((cu.own n).slots.modify i (grow prop.own.requestLoadUnified)).length := by
      rwa [List.length_modify]
    exact ⟨_, List.getElem_mem hi', by simp [grow, hp]⟩
  · rw [heq]
    exact ⟨_, List.mem_append_right _ (List.mem_singleton_self _), rfl⟩

theorem hasSlot_reserveWhole (hn : n < p) (hcu : (cu.own n).Consistent) (h : (cu.own n).Idle)
    (c : Nat) (pid : Int) : (cu.reserveWhole p c pid).HasSlot p := by
  rw [← hasSlot_own (n := n), own_reserveWhole hn, HasSlot,
    (reserveWhole_filled hcu h p (owner c) pid).2]
  exact ⟨_, List.mem_singleton_self _, rfl⟩

end CuData

namespace System

variable {s s' s₁ : System} {n p : Nat} {prop : CuProperty}

/-! ## Pools with a slot -/

/-- A slot of the pool is somewhere. -/
def HasSlot (p : Nat) (s : System) : Prop := ∃ cu ∈ s.cus, cu.HasSlot p

theorem hasSlot_own : HasSlot p (s.own n) ↔ HasSlot p s := by
  have hcus : (s.own n).cus = s.cus.map (·.own n) := by
    simp [cus, own, DeviceData.own, List.flatMap_map, List.map_flatMap]
  simp [HasSlot, hcus, CuData.hasSlot_own]

/-- A device with a slot of the pool is put in place. -/
theorem hasSlot_setDev {i : Nat} {dev dev' : DeviceData} {cu : CuData}
    (hdev : s.devList[i]? = some dev) (hcu : cu ∈ dev'.cuList) (hslot : cu.HasSlot p) :
    HasSlot p (s.setDev i dev') :=
  ⟨cu, List.mem_flatMap.mpr ⟨dev', List.mem_of_getElem? (getElem?_setDev_self hdev dev'), hcu⟩,
    hslot⟩

theorem consistent_own (hsound : (s.own n).Sound allRuns) {i : Nat} {dev : DeviceData}
    {cu : CuData} (hdev : s.devList[i]? = some dev) (hcu : cu ∈ dev.cuList) :
    (cu.own n).Consistent :=
  (hsound (dev.own n) (List.mem_map_of_mem (List.mem_of_getElem? hdev))).consistent _
    (List.mem_map_of_mem hcu)

section

variable (hn : n < p) (hsound : (s.own n).Sound allRuns)
include hn hsound

theorem hasSlot_reservePass {i : Nat} {dev dev' : DeviceData} {wanted : CuData → Bool}
    (hdev : s.devList[i]? = some dev) (hpass : dev.reservePass p prop wanted = some dev') :
    HasSlot p (s.setDev i dev') := by
  rw [DeviceData.reservePass, Option.map_eq_some_iff] at hpass
  obtain ⟨cus', hsearch, rfl⟩ := hpass
  obtain ⟨pre, cu, post, cu', hcus, rfl, -, -, hres⟩ := reserveSearch_spec hsearch
  have hcons : (cu.own n).Consistent := consistent_own hsound hdev (by simp [hcus])
  exact hasSlot_setDev hdev (by simp [DeviceData.chargeReserve, DeviceData.updateDeviceLoad])
    (CuData.hasSlot_reserveLoadFromCu hn hcons hres)

theorem hasSlot_reserveDevs {wanted : CuData → Bool} {devIds : List Nat} {devId : Nat}
    (h : reserveDevs p prop wanted devIds s = some (s', devId)) : HasSlot p s' := by
  induction devIds with
  | nil => simp [reserveDevs] at h
  | cons i devIds ih =>
      rw [reserveDevs] at h
      split at h
      · exact ih h
      rename_i dev hdev
      split at h
      · split at h
        · rename_i dev' hpass
          rw [Option.some.injEq, Prod.mk.injEq] at h
          exact h.1 ▸ hasSlot_reservePass hn hsound hdev hpass
        · exact ih h
      · exact ih h

theorem hasSlot_resReserveCu {devId : Nat} (h : s.resReserveCu p prop = .ok (s', devId)) :
    HasSlot p s' := by
  rw [resReserveCu] at h
  split at h
  · simp at h
  split at h
  · rename_i heq
    rw [Except.ok.injEq] at h
    subst h
    exact hasSlot_reserveDevs hn hsound heq
  split at h
  · rename_i heq
    rw [Except.ok.injEq] at h
    subst h
    exact hasSlot_reserveDevs hn hsound heq
  · simp at h

theorem hasSlot_reserveCuFromDev {devId : Int} (h : s.reserveCuFromDev p devId prop = .ok s') :
    HasSlot p s' := by
  rw [reserveCuFromDev] at h
  split at h
  · simp at h
  split at h
  · simp at h
  rename_i dev hdev
  split at h
  · rename_i dev' hres
    rw [Except.ok.injEq] at h
    subst h
    obtain ⟨wanted, -, hpass⟩ := reserveCuFromDev_pass hres
    exact hasSlot_reservePass hn hsound hdev hpass
  · simp at h

end

/-! ## Lists -/

/-- Acts on the pool, whatever the clients. -/
abbrev AnyActs (p : Nat) : System → System → Prop := DevActsBy (fun _ => True) p

theorem DevActsBy.sound_own {Q : Nat → Prop} (h : DevActsBy Q p s s') (hn : n < p)
    (hsound : (s.own n).Sound allRuns) : (s'.own n).Sound allRuns := (h.own hn).sound hsound

theorem hasSlot_reserveItems {props : List CuProperty} (hne : props ≠ []) (hn : n < p)
    (hsound : (s.own n).Sound allRuns) (h : reserveItems p props s = (s', .ok ())) :
    HasSlot p s' := by
  induction props generalizing s with
  | nil => exact absurd rfl hne
  | cons prop props ih =>
      rw [reserveItems] at h
      split at h
      · rename_i s₁ devId heq
        cases props with
        | nil =>
            rw [reserveItems, Prod.mk.injEq] at h
            exact h.1 ▸ hasSlot_resReserveCu hn hsound heq
        | cons prop' props =>
            have hacts : AnyActs p s s₁ := resReserveCu_acts trivial heq
            exact ih (List.cons_ne_nil _ _) (hacts.sound_own hn hsound) h
      · simp at h

theorem hasSlot_reserveItemsOnDev {devId : Nat} {props : List CuProperty} (hne : props ≠ [])
    (hn : n < p) (hsound : (s.own n).Sound allRuns)
    (h : reserveItemsOnDev p devId props s = (s', .ok ())) : HasSlot p s' := by
  induction props generalizing s with
  | nil => exact absurd rfl hne
  | cons prop props ih =>
      rw [reserveItemsOnDev] at h
      split at h
      · rename_i s₁ heq
        cases props with
        | nil =>
            rw [reserveItemsOnDev, Prod.mk.injEq] at h
            exact h.1 ▸ hasSlot_reserveCuFromDev hn hsound heq
        | cons prop' props =>
            have hacts : AnyActs p s s₁ := reserveCuFromDev_acts trivial heq
            exact ih (List.cons_ne_nil _ _) (hacts.sound_own hn hsound) h
      · simp at h

/-- The device that takes the list comes last. -/
theorem hasSlot_reserveOnSameDevice {props : List CuProperty} {devIds : List Nat} {e : XrmError}
    (hne : props ≠ []) (hn : n < p) (hsound : (s.own n).Sound allRuns)
    (h : reserveOnSameDevice p props devIds s e = (s', .ok ())) : HasSlot p s' := by
  induction devIds generalizing s e with
  | nil => simp [reserveOnSameDevice] at h
  | cons devId devIds ih =>
      have hacts : AnyActs p s (reserveItemsOnDev p devId props s).1 :=
        reserveItemsOnDev_acts devId props (fun _ _ => trivial) s
      rw [reserveOnSameDevice] at h
      split at h
      · split at h
        · rename_i s₁ heq
          rw [Prod.mk.injEq] at h
          exact h.1 ▸ hasSlot_reserveItemsOnDev hne hn hsound heq
        · rename_i s₁ e₁ heq
          rw [heq] at hacts
          exact ih (hacts.sound_own hn hsound) h
      · exact ih hsound h

theorem hasSlot_resReserveCuList {listProp : CuListProperty}
    (hitems : 0 < listProp.cuNum → listProp.items ≠ []) (hn : n < p)
    (hsound : (s.own n).Sound allRuns) (h : s.resReserveCuList p listProp = (s', .ok ())) :
    HasSlot p s' := by
  rw [resReserveCuList] at h
  split at h
  · simp at h
  rename_i hnum
  have hne := hitems (by omega)
  split at h
  · exact hasSlot_reserveOnSameDevice hne hn hsound h
  · exact hasSlot_reserveItems hne hn hsound h

/-- The last copy is there. -/
theorem hasSlot_reserveCopies {listProp : CuListProperty}
    (hitems : 0 < listProp.cuNum → listProp.items ≠ []) (hn : n < p) {k : Nat} (hk : 0 < k)
    (hsound : (s.own n).Sound allRuns) (h : reserveCopies p listProp k s = (s', true)) :
    HasSlot p s' := by
  induction k generalizing s with
  | zero => omega
  | succ k ih =>
      have hacts : AnyActs p s (s.resReserveCuList p listProp).1 :=
        resReserveCuList_acts p s listProp fun _ _ => trivial
      rw [reserveCopies] at h
      split at h
      · rename_i s₁ heq
        rw [heq] at hacts
        cases k with
        | zero =>
            rw [reserveCopies, Prod.mk.injEq] at h
            exact h.1 ▸ hasSlot_resReserveCuList hitems hn hsound heq
        | succ k => exact ih (Nat.succ_pos k) (hacts.sound_own hn hsound) h
      · simp at h

/-! ## Lists with device constraints -/

theorem hasSlot_reserveSubItems {devId : Nat} {props done : List CuProperty} (hne : props ≠ [])
    (hn : n < p) (hsound : (s.own n).Sound allRuns)
    (h : reserveSubItems p devId props done s = (s', .reserved)) : HasSlot p s' := by
  induction props generalizing s done with
  | nil => exact absurd rfl hne
  | cons prop props ih =>
      rw [reserveSubItems] at h
      split at h
      · rename_i s₁ heq
        cases props with
        | nil =>
            rw [reserveSubItems, Prod.mk.injEq] at h
            exact h.1 ▸ hasSlot_reserveCuFromDev hn hsound heq
        | cons prop' props =>
            have hacts : AnyActs p s s₁ := reserveCuFromDev_acts trivial heq
            exact ih (List.cons_ne_nil _ _) (hacts.sound_own hn hsound) h
      · split at h <;> simp at h

theorem hasSlot_reserveSubList {props : List CuProperty} {usedDevIds devIds : List Nat}
    {e : XrmError} {devId : Nat} (hne : props ≠ []) (hn : n < p)
    (hsound : (s.own n).Sound allRuns)
    (h : reserveSubList p props usedDevIds devIds s e = (s', .ok devId)) : HasSlot p s' := by
  induction devIds generalizing s e with
  | nil => simp [reserveSubList] at h
  | cons i devIds ih =>
      have hacts : AnyActs p s (reserveSubItems p i props [] s).1 :=
        reserveSubItems_acts i props (fun _ _ => trivial) [] s
      rw [reserveSubList] at h
      split at h
      · split at h
        · rename_i s₁ heq
          rw [Prod.mk.injEq] at h
          exact h.1 ▸ hasSlot_reserveSubItems hne hn hsound heq
        · rename_i s₁ e₁ heq
          rw [heq] at hacts
          exact ih (hacts.sound_own hn hsound) h
        · simp at h
      · exact ih hsound h

/-- The item that is reserved leaves a slot of the pool, also where its sub-list has been undone on
other devices. -/
theorem hasSlot_reserveItemV2 {props : List CuPropertyV2} {index : Nat} {propV2 : CuPropertyV2}
    {rest : List Nat} {st st' : ReserveV2State} (hprop : props[index]? = some propV2) (hn : n < p)
    (hsound : (st.s.own n).Sound allRuns)
    (h : reserveItemV2 p props index propV2 rest st = (st', .ok ())) : HasSlot p st'.s := by
  rw [reserveItemV2] at h
  simp only at h
  split at h
  · split at h
    · rename_i s₁ devId heq
      rw [Prod.mk.injEq] at h
      rw [← h.1]
      exact hasSlot_resReserveCu hn hsound heq
    · simp at h
  split at h
  · split at h
    · rename_i s₁ heq
      rw [Prod.mk.injEq] at h
      rw [← h.1]
      exact hasSlot_reserveCuFromDev hn hsound heq
    · simp at h
  split at h
  · split at h
    · rename_i s₁ devId heq
      rw [Prod.mk.injEq] at h
      rw [← h.1]
      refine hasSlot_reserveSubList ?_ hn hsound heq
      rw [List.filterMap_cons, hprop]
      exact List.cons_ne_nil _ _
    · simp at h
  · simp at h

/-- The loop leaves a slot of the pool if it handles an item or found one there. -/
theorem hasSlot_reserveItemsV2 {props : List CuPropertyV2} {indices : List Nat}
    {st st' : ReserveV2State} (hn : n < p) (hsound : (st.s.own n).Sound allRuns)
    (hsome : HasSlot p st.s ∨ ∃ index ∈ indices.head?, props[index]?.isSome = true ∧
      (st.itemFlags.getD index ⟨false, false⟩).handled = false)
    (h : reserveItemsV2 p props indices st = (st', .ok ())) : HasSlot p st'.s := by
  induction indices generalizing st with
  | nil =>
      rw [reserveItemsV2, Prod.mk.injEq] at h
      rcases hsome with hsome | ⟨index, hindex, -⟩
      · exact h.1 ▸ hsome
      · simp at hindex
  | cons index rest ih =>
      rw [reserveItemsV2] at h
      split at h
      · rename_i hhandled
        rcases hsome with hsome | ⟨i, hi, -, hnot⟩
        · exact ih hsound (.inl hsome) h
        · obtain rfl : index = i := by simpa using hi
          rw [hhandled] at hnot
          simp at hnot
      split at h
      · rename_i hnone
        rcases hsome with hsome | ⟨i, hi, hprop, -⟩
        · exact ih hsound (.inl hsome) h
        · obtain rfl : index = i := by simpa using hi
          rw [hnone] at hprop
          simp at hprop
      · rename_i propV2 hprop
        have hacts : AnyActs p st.s (reserveItemV2 p props index propV2 rest
            { st with itemFlags := markHandled st.itemFlags [index] }).1.s :=
          reserveItemV2_acts (fun _ _ => trivial) index trivial rest
            { st with itemFlags := markHandled st.itemFlags [index] }
        simp only at h
        split at h
        · rename_i st₁ heq
          rw [heq] at hacts
          have hslot := hasSlot_reserveItemV2 hprop hn (by exact hsound) heq
          exact ih (hacts.sound_own hn hsound) (.inl hslot) h
        · simp at h

theorem hasSlot_resReserveCuListV2 {listProp : CuListPropertyV2} {devIds : List Nat}
    (hitems : 0 < listProp.cuNum → listProp.items ≠ []) (hn : n < p)
    (hsound : (s.own n).Sound allRuns) (h : s.resReserveCuListV2 p listProp = (s', .ok devIds)) :
    HasSlot p s' := by
  rw [resReserveCuListV2] at h
  split at h
  · simp at h
  rename_i hnum
  have hne := hitems (by omega)
  simp only at h
  split at h
  · rename_i st heq
    rw [Prod.mk.injEq] at h
    rw [← h.1]
    refine hasSlot_reserveItemsV2 hn hsound (.inr ?_) heq
    cases hprops : listProp.items with
    | nil => exact absurd hprops hne
    | cons prop props =>
        refine ⟨0, ?_, by simp, by simp⟩
        rw [List.length_cons, List.range_succ_eq_map]
        exact rfl
  · simp at h

theorem hasSlot_reserveCopiesV2 {listProp : CuListPropertyV2} {infos infos' : List (List Nat)}
    (hitems : 0 < listProp.cuNum → listProp.items ≠ []) (hn : n < p) {k : Nat} (hk : 0 < k)
    (hsound : (s.own n).Sound allRuns)
    (h : reserveCopiesV2 p listProp k s infos = (s', some infos')) : HasSlot p s' := by
  induction k generalizing s infos with
  | zero => omega
  | succ k ih =>
      have hacts : AnyActs p s (s.resReserveCuListV2 p listProp).1 :=
        resReserveCuListV2_acts p s listProp fun _ _ => trivial
      rw [reserveCopiesV2] at h
      split at h
      · rename_i s₁ devIds heq
        rw [heq] at hacts
        cases k with
        | zero =>
            rw [reserveCopiesV2, Prod.mk.injEq] at h
            exact h.1 ▸ hasSlot_resReserveCuListV2 hitems hn hsound heq
        | succ k => exact ih (Nat.succ_pos k) (hacts.sound_own hn hsound) h
      · simp at h

/-! ## Whole devices -/

/-- No loaded device is without CUs. -/
def Populated (s : System) : Prop := ∀ dev ∈ s.devList, dev.isLoaded = true → dev.cuList ≠ []

instance (s : System) : Decidable s.Populated :=
  inferInstanceAs (Decidable (∀ dev ∈ s.devList, dev.isLoaded = true → dev.cuList ≠ []))

/-- In the states of a run. -/
theorem Good.populated {D : Discipline} (h : s.Good D) : s.Populated := fun dev hdev hload =>
  List.ne_nil_of_length_pos ((h.recorded dev hdev).populated hload)

theorem populated_of_same (h : List.Forall₂ DeviceData.SameButAccounts s.devList s'.devList)
    (hpop : s.Populated) : s'.Populated := by
  refine forall₂_forall h fun dev hdev dev' hsame hload => ?_
  rw [hsame.1] at hload
  have hlength := hsame.2
  intro hnil
  apply hpop dev hdev hload
  rw [← List.length_eq_zero_iff, ← hlength, hnil, List.length_nil]

theorem populated_own {n : Nat} : (s.own n).Populated ↔ s.Populated := by
  simp only [Populated, own, List.forall_mem_map, DeviceData.own, ne_eq, List.map_eq_nil_iff]

theorem Beside.populated {q : Nat} (h : Beside q s s') (hpop : s.Populated) : s'.Populated :=
  populated_of_same (h.devices.imp fun _ _ hdev => hdev.1) hpop

section

variable {i c : Nat} {pid : Int} {dev : DeviceData}

/-- Acts on the pool leave the CUs of the devices. -/
theorem DevActsBy.populated {Q : Nat → Prop} (h : DevActsBy Q p s s') (hn : n < p)
    (hsound : (s.own n).Sound allRuns) (hpop : s.Populated) : s'.Populated := by
  rw [← populated_own (n := n)] at hpop ⊢
  exact ((h.own hn).acts.beside hsound).populated hpop

theorem hasSlot_reserveAll (hdev : s.devList[i]? = some dev) (hbusy : dev.isDeviceBusy = false)
    (hne : dev.cuList ≠ []) (hn : n < p) (hsound : (s.own n).Sound allRuns) :
    HasSlot p (s.setDev i (dev.reserveAll p c pid)) := by
  have hmem : dev.cuList.head hne ∈ dev.cuList := List.head_mem hne
  have hidle : (dev.cuList.head hne).Idle := DeviceData.idle_of_not_busy hbusy _ hmem
  exact hasSlot_setDev hdev (List.mem_map_of_mem hmem)
    (CuData.hasSlot_reserveWhole hn (consistent_own hsound hdev hmem) hidle c pid)

/-- A device of the xclbin that is reserved is loaded and has been idle. -/
theorem reserveXclbinDevs_eq {uuid : List UInt8} {devIds : List Nat}
    (h : reserveXclbinDevs p uuid c pid devIds s = some (s', i)) :
    ∃ dev, s.devList[i]? = some dev ∧ dev.isLoaded = true ∧ dev.isDeviceBusy = false ∧
      s' = s.setDev i (dev.reserveAll p c pid) := by
  induction devIds with
  | nil => simp [reserveXclbinDevs] at h
  | cons k devIds ih =>
      rw [reserveXclbinDevs] at h
      split at h
      · exact ih h
      rename_i dev hdev
      split at h
      · rename_i hidle
        simp only [Bool.and_eq_true, beq_iff_eq, Bool.not_eq_true'] at hidle
        rw [Option.some.injEq, Prod.mk.injEq] at h
        obtain ⟨rfl, rfl⟩ := h
        exact ⟨dev, hdev, hidle.1.1, hidle.2, rfl⟩
      · exact ih h

theorem resReserveDevice_eq {deviceId : Nat} (h : s.resReserveDevice p deviceId c pid = .ok s') :
    ∃ i dev, s.devList[i]? = some dev ∧ dev.isLoaded = true ∧ dev.isDeviceBusy = false ∧
      s' = s.setDev i (dev.reserveAll p c pid) := by
  rw [resReserveDevice] at h
  split at h
  · simp at h
  split at h
  · simp at h
  split at h
  · simp at h
  rename_i dev hdev
  split at h
  · simp at h
  rename_i hload
  split at h
  · simp at h
  rename_i hbusy
  rw [Except.ok.injEq] at h
  exact ⟨_, dev, hdev, by simpa using hload, by simpa using hbusy, h.symm⟩

theorem hasSlot_reserveXclbins {uuid : List UInt8} {devIds devIds' : List Nat} {k : Nat}
    (hsome : HasSlot p s ∨ 0 < k) (hpop : s.Populated) (hn : n < p)
    (hsound : (s.own n).Sound allRuns)
    (h : reserveXclbins p uuid c pid k s devIds = (s', some devIds')) : HasSlot p s' := by
  induction k generalizing s devIds with
  | zero =>
      rw [reserveXclbins, Prod.mk.injEq] at h
      exact h.1 ▸ hsome.resolve_right (lt_irrefl 0)
  | succ k ih =>
      rw [reserveXclbins] at h
      split at h
      · rename_i s₁ devId heq
        rw [resReserveCuOfXclbin] at heq
        split at heq
        · simp at heq
        rename_i hp
        split at heq
        · rename_i found hfound
          rw [Except.ok.injEq] at heq
          subst heq
          have hacts : AnyActs p s s₁ := reserveXclbinDevs_acts hp trivial hfound
          obtain ⟨dev, hdev, hload, hbusy, rfl⟩ := reserveXclbinDevs_eq hfound
          have hne := hpop dev (List.mem_of_getElem? hdev) hload
          exact ih (.inl (hasSlot_reserveAll hdev hbusy hne hn hsound))
            (hacts.populated hn hsound hpop) (hacts.sound_own hn hsound) h
        · simp at heq
      · simp at h

theorem hasSlot_reserveDeviceIds {deviceIds : List Nat} (hsome : HasSlot p s ∨ deviceIds ≠ [])
    (hpop : s.Populated) (hn : n < p) (hsound : (s.own n).Sound allRuns)
    (h : reserveDeviceIds p c pid deviceIds s = (s', true)) : HasSlot p s' := by
  induction deviceIds generalizing s with
  | nil =>
      rw [reserveDeviceIds, Prod.mk.injEq] at h
      exact h.1 ▸ hsome.resolve_right fun hne => hne rfl
  | cons deviceId deviceIds ih =>
      rw [reserveDeviceIds] at h
      split at h
      · rename_i s₁ heq
        have hacts : AnyActs p s s₁ := resReserveDevice_acts trivial heq
        obtain ⟨i, dev, hdev, hload, hbusy, rfl⟩ := resReserveDevice_eq heq
        have hne := hpop dev (List.mem_of_getElem? hdev) hload
        exact ih (.inl (hasSlot_reserveAll hdev hbusy hne hn hsound))
          (hacts.populated hn hsound hpop) (hacts.sound_own hn hsound) h
      · simp at h

end

/-! ## Pools -/

/-- A pool that is granted for something has a slot. -/
theorem hasSlot_resReserveCuPool {poolProp : CuPoolProperty}
    (hitems : 0 < poolProp.cuListProp.cuNum → poolProp.cuListProp.items ≠ [])
    (hasks : ¬poolProp.AsksNothing) (hpop : s.Populated) (hn : n < s.getNextReservePoolId)
    (hsound : (s.own n).Sound allRuns) (h : s.resReserveCuPool poolProp = (s', p)) (hp : p ≠ 0) :
    HasSlot p s' := by
  have hacts := @reserveXclbins_acts s.getNextReservePoolId (fun _ => True) poolProp.xclbinUuid
    poolProp.clientId poolProp.clientProcessId trivial poolProp.xclbinNum.toNat s []
  rw [resReserveCuPool] at h
  split at h
  · exact absurd (Prod.mk.inj h).2.symm hp
  rename_i hcount
  split at h
  · exact absurd (Prod.mk.inj h).2.symm hp
  rename_i hnum
  rw [CuPoolProperty.AsksNothing] at hasks
  simp only at h
  split at h
  · exact absurd (Prod.mk.inj h).2.symm hp
  rename_i s₁ devIds hx
  rw [hx] at hacts
  split at h
  · exact absurd (Prod.mk.inj h).2.symm hp
  rename_i s₂ hlists
  rw [Prod.mk.injEq] at h
  obtain ⟨rfl, rfl⟩ := h
  show HasSlot s.getNextReservePoolId s₂
  by_cases hlistNum : 0 < poolProp.cuListNum
  · exact hasSlot_reserveCopies hitems hn (by omega) (hacts.sound_own hn hsound) hlists
  · have hnone : poolProp.cuListNum.toNat = 0 := by omega
    rw [hnone, reserveCopies, Prod.mk.injEq] at hlists
    exact hlists.1 ▸ hasSlot_reserveXclbins (.inr (by omega)) hpop hn hsound hx

theorem hasSlot_resReserveCuPoolV2 {poolProp : CuPoolPropertyV2}
    (hitems : 0 < poolProp.cuListProp.cuNum → poolProp.cuListProp.items ≠ [])
    (hdevices : 0 < poolProp.deviceIdListProp.deviceNum → poolProp.deviceIdListProp.deviceIds ≠ [])
    (hasks : ¬poolProp.AsksNothing) (hpop : s.Populated) (hn : n < s.getNextReservePoolId)
    (hsound : (s.own n).Sound allRuns) (h : (s.resReserveCuPoolV2 poolProp).2.1 = p)
    (hp : p ≠ 0) : HasSlot p (s.resReserveCuPoolV2 poolProp).1 := by
  have hd := @reserveDeviceIds_acts s.getNextReservePoolId (fun _ => True) poolProp.clientId
    poolProp.clientProcessId trivial
    (poolProp.deviceIdListProp.deviceIds.take poolProp.deviceIdListProp.deviceNum.toNat) s
  rw [resReserveCuPoolV2] at h ⊢
  simp only at h ⊢
  split
  · rename_i hcount
    rw [if_pos hcount] at h
    exact absurd h.symm hp
  rename_i hcount
  rw [if_neg hcount] at h
  split
  · rename_i hnum
    rw [if_pos hnum] at h
    exact absurd h.symm hp
  rename_i hnum
  rw [if_neg hnum] at h
  rw [CuPoolPropertyV2.AsksNothing] at hasks
  split at h
  · exact absurd h.symm hp
  rename_i s₁ hids
  rw [hids] at hd
  have hx := @reserveXclbins_acts s.getNextReservePoolId (fun _ => True) poolProp.xclbinUuid
    poolProp.clientId poolProp.clientProcessId trivial poolProp.xclbinNum.toNat s₁ []
  have hpop₁ := hd.populated hn hsound hpop
  have hsound₁ := hd.sound_own hn hsound
  split at h
  · exact absurd h.symm hp
  rename_i s₂ devIds hxclbins
  rw [hxclbins] at hx
  split at h
  · exact absurd h.symm hp
  rename_i s₃ infos hlists
  subst h
  show HasSlot s.getNextReservePoolId s₃
  by_cases hlistNum : 0 < poolProp.cuListNum
  · exact hasSlot_reserveCopiesV2 hitems hn (by omega) (hx.sound_own hn hsound₁) hlists
  · have hnone : poolProp.cuListNum.toNat = 0 := by omega
    rw [hnone, reserveCopiesV2, Prod.mk.injEq] at hlists
    refine hlists.1 ▸ hasSlot_reserveXclbins ?_ hpop₁ hn hsound₁ hxclbins
    by_cases hxnum : 0 < poolProp.xclbinNum
    · exact .inr (by omega)
    · left
      refine hasSlot_reserveDeviceIds (.inr ?_) hpop hn hsound hids
      have hnum : 0 < poolProp.deviceIdListProp.deviceNum := by omega
      rw [Ne, List.take_eq_nil_iff, not_or]
      exact ⟨by omega, hdevices hnum⟩

end System

end Xrm
