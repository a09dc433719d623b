import Xrm.Verification.ListEvolves

/-! # Reserving and relinquishing pools

The operations on pool `p` change the devices by acts on `p` only.
-/

namespace Xrm

open Relation

namespace System

variable {D : Discipline} {s s' s'' : System} {p : Nat} {prop : CuProperty}

/-- The state evolves by acts on pool `p`. -/
structure PoolEvolves (p : Nat) (s s' : System) : Prop where
  devs : Transition.Evolves (fun _ => False) (DeviceData.PoolAct p) s.devList s'.devList
  frame : System.Frame s s'
  groups : s'.udfCuGroups = s.udfCuGroups
  groupsV2 : s'.udfCuGroupsV2 = s.udfCuGroupsV2

/-- No channel carries the id of pool `p` on a CU without a slot of that pool. -/
def NoOrphan (s : System) (p : Nat) : Prop := ∀ dev ∈ s.devList, dev.NoOrphan p

instance (s : System) (p : Nat) : Decidable (s.NoOrphan p) :=
  inferInstanceAs (Decidable (∀ dev ∈ s.devList, dev.NoOrphan p))

namespace PoolEvolves

theorem refl (p : Nat) (s : System) : PoolEvolves p s s :=
  ⟨Transition.Evolves.refl _, Frame.refl s, rfl, rfl⟩

theorem trans (h : PoolEvolves p s s') (h' : PoolEvolves p s' s'') : PoolEvolves p s s'' :=
  ⟨h.devs.trans h'.devs, h.frame.trans h'.frame, h'.groups.trans h.groups,
    h'.groupsV2.trans h.groupsV2⟩

theorem setDev {i : Nat} {dev dev' : DeviceData} (hdev : s.devList[i]? = some dev)
    (h : DeviceData.PoolAct p dev dev') : PoolEvolves p s (s.setDev i dev') :=
  ⟨Transition.Evolves.set hdev (.single h), Frame.setDev s i dev', rfl, rfl⟩

/-- Acts on a pool that no channel carries keep the devices in order. -/
theorem sound (h : PoolEvolves p s s') (hs : s.Sound D) (hfresh : D.fresh → s.NoOrphan p) :
    s'.Sound D := by
  have hboth : ∀ dev ∈ s'.devList, dev.Sound D ∧ (D.fresh → dev.NoOrphan p) := by
    refine h.devs.invariant (fun dev hdev => ⟨hs dev hdev, fun hF => hfresh hF dev hdev⟩)
      (fun _ hfalse => hfalse.elim) ?_
    rintro dev dev' ⟨hsound, hno⟩ hact
    exact ⟨hact.sound hsound hno,
      fun hF => hact.noOrphan hsound.consistent (hsound.exact hF) (hno hF)⟩
  exact fun dev hdev => (hboth dev hdev).1

end PoolEvolves

/-! ## Acts on one pool -/

/-- One act on pool `p`, or the use of its id. -/
inductive PoolStep (p : Nat) : System → System → Prop where
  | act {s : System} {i : Nat} {dev dev' : DeviceData} (hdev : s.devList[i]? = some dev)
      (h : DeviceData.PoolAct p dev dev') : PoolStep p s (s.setDev i dev')
  | updateId {s : System} : PoolStep p s s.updateReservePoolId

/-- Acts on pool `p`, one after the other. -/
def PoolActs (p : Nat) : System → System → Prop := ReflTransGen (PoolStep p)

namespace PoolActs

theorem refl (p : Nat) (s : System) : PoolActs p s s := ReflTransGen.refl

theorem trans (h : PoolActs p s s') (h' : PoolActs p s' s'') : PoolActs p s s'' :=
  ReflTransGen.trans h h'

theorem setDev {i : Nat} {dev dev' : DeviceData} (hdev : s.devList[i]? = some dev)
    (h : DeviceData.PoolAct p dev dev') : PoolActs p s (s.setDev i dev') := .single (.act hdev h)

theorem evolves (h : PoolActs p s s') : PoolEvolves p s s' := by
  induction h with
  | refl => exact .refl p s
  | tail _ hstep ih =>
      cases hstep with
      | act hdev hact => exact ih.trans (.setDev hdev hact)
      | updateId => exact ih.trans ⟨Transition.Evolves.refl _, ⟨id, rfl, rfl, rfl⟩, rfl, rfl⟩

end PoolActs

/-- Acts on pool `p` for clients with `Q`, one after the other, without the use of its id. -/
def DevActsBy (Q : Nat → Prop) (p : Nat) : System → System → Prop :=
  ReflTransGen fun s s' => ∃ i dev dev', s.devList[i]? = some dev ∧
    DeviceData.PoolActBy Q p dev dev' ∧ s' = s.setDev i dev'

abbrev DevActs (p : Nat) : System → System → Prop := DevActsBy (· ≠ 0) p

namespace DevActsBy

variable {Q : Nat → Prop}

theorem refl (p : Nat) (s : System) : DevActsBy Q p s s := ReflTransGen.refl

theorem trans (h : DevActsBy Q p s s') (h' : DevActsBy Q p s' s'') : DevActsBy Q p s s'' :=
  ReflTransGen.trans h h'

theorem setDev {i : Nat} {dev dev' : DeviceData} (hdev : s.devList[i]? = some dev)
    (h : DeviceData.PoolActBy Q p dev dev') : DevActsBy Q p s (s.setDev i dev') :=
  .single ⟨i, dev, dev', hdev, h, rfl⟩

theorem acts (h : DevActs p s s') : PoolActs p s s' := by
  induction h with
  | refl => exact .refl p s
  | tail _ hstep ih =>
      obtain ⟨i, dev, dev', hdev, hact, rfl⟩ := hstep
      exact ih.trans (.setDev hdev hact)

end DevActsBy

section

variable {Q : Nat → Prop}

/-! ## Relinquishing -/

theorem relinquishDevs_acts (p : Nat) (devIds : List Nat) (s : System) :
    DevActsBy Q p s (relinquishDevs p devIds s).1 := by
  induction devIds generalizing s with
  | nil => exact .refl p s
  | cons devId devIds ih =>
      rw [relinquishDevs]
      split
      · exact ih s
      rename_i dev hdev
      have hev : DevActsBy Q p s (s.setDev devId (dev.relinquishDev p).1) :=
        .setDev hdev .relinquish
      split
      · rename_i heq
        rw [heq] at hev
        exact hev.trans (ih _)
      · rename_i heq
        rw [heq] at hev
        exact hev

theorem resRelinquishCuPool_devActs (p : Nat) (s : System) :
    DevActsBy Q p s (s.resRelinquishCuPool p).1 := by
  rw [resRelinquishCuPool]
  split
  · exact .refl p s
  · exact relinquishDevs_acts p _ s

theorem resRelinquishCuPool_acts (p : Nat) (s : System) :
    PoolActs p s (s.resRelinquishCuPool p).1 := (resRelinquishCuPool_devActs p s).acts

/-- Relinquishing keeps all devices in order, whatever pool it is. -/
theorem Sound.resRelinquishCuPool (h : s.Sound D) (p : Nat) :
    (s.resRelinquishCuPool p).1.Sound D := by
  have hloop : ∀ (devIds : List Nat) (s : System), s.Sound D →
      (relinquishDevs p devIds s).1.Sound D := by
    intro devIds
    induction devIds with
    | nil => exact fun s hs => hs
    | cons devId devIds ih =>
        intro s hs
        rw [relinquishDevs]
        split
        · exact ih s hs
        rename_i dev hdev
        have hset : (s.setDev devId (dev.relinquishDev p).1).Sound D := by
          intro x hx
          rcases List.mem_or_eq_of_mem_set hx with hx | rfl
          · exact hs x hx
          · exact (hs dev (List.mem_of_getElem? hdev)).relinquishDev p
        split
        · rename_i heq
          rw [heq] at hset
          exact ih _ hset
        · rename_i heq
          rw [heq] at hset
          exact hset
  rw [System.resRelinquishCuPool]
  split
  · exact h
  · exact hloop _ s h

/-! ## Reserving single CUs -/

theorem reserveDevs_acts {wanted : CuData → Bool} {devIds : List Nat} {devId : Nat}
    (hs : Q prop.clientId) (hwanted : ByClients wanted)
    (h : reserveDevs p prop wanted devIds s = some (s', devId)) : DevActsBy Q p s s' := by
  induction devIds with
  | nil => simp [reserveDevs] at h
  | cons i devIds ih =>
      rw [reserveDevs] at h
      split at h
      · exact ih h
      rename_i dev hdev
      split at h
      · split at h
        · rename_i dev' hpass
          rw [Option.some.injEq, Prod.mk.injEq] at h
          rw [← h.1]
          exact .setDev hdev (.charge hs hpass hwanted)
        · exact ih h
      · exact ih h

theorem resReserveCu_acts {devId : Nat} (hs : Q prop.clientId)
    (h : s.resReserveCu p prop = .ok (s', devId)) : DevActsBy Q p s s' := by
  rw [resReserveCu] at h
  split at h
  · simp at h
  split at h
  · rename_i heq
    rw [Except.ok.injEq] at h
    subst h
    exact reserveDevs_acts hs inUse_byClients heq
  split at h
  · rename_i heq
    rw [Except.ok.injEq] at h
    subst h
    exact reserveDevs_acts hs unused_byClients heq
  · simp at h

theorem reserveCuFromDev_pass {dev dev' : DeviceData}
    (h : dev.reserveCuFromDev p prop = .ok dev') :
    ∃ wanted, ByClients wanted ∧ dev.reservePass p prop wanted = some dev' := by
  rw [DeviceData.reserveCuFromDev] at h
  split at h
  · simp at h
  split at h
  · rename_i hpass
    rw [Except.ok.injEq] at h
    subst h
    exact ⟨inUse, inUse_byClients, hpass⟩
  split at h
  · rename_i hpass
    rw [Except.ok.injEq] at h
    subst h
    exact ⟨unused, unused_byClients, hpass⟩
  · simp at h

theorem reserveCuFromDev_acts {devId : Int} (hs : Q prop.clientId)
    (h : s.reserveCuFromDev p devId prop = .ok s') : DevActsBy Q p s s' := by
  rw [reserveCuFromDev] at h
  split at h
  · simp at h
  split at h
  · simp at h
  rename_i dev hdev
  split at h
  · rename_i dev' hres
    rw [Except.ok.injEq] at h
    subst h
    obtain ⟨wanted, hwanted, hpass⟩ := reserveCuFromDev_pass hres
    exact .setDev hdev (.charge hs hpass hwanted)
  · simp at h

/-! ## Reserving lists -/

theorem reserveItemsOnDev_acts (devId : Nat) (props : List CuProperty)
    (hs : ∀ prop ∈ props, Q prop.clientId) (s : System) :
    DevActsBy Q p s (reserveItemsOnDev p devId props s).1 := by
  induction props generalizing s with
  | nil => exact .refl p s
  | cons prop props ih =>
      rw [reserveItemsOnDev]
      split
      · rename_i heq
        exact (reserveCuFromDev_acts (hs prop (by simp)) heq).trans
          (ih (fun q hq => hs q (by simp [hq])) _)
      · exact resRelinquishCuPool_devActs p s

theorem reserveOnSameDevice_acts (props : List CuProperty) (hs : ∀ prop ∈ props, Q prop.clientId)
    (devIds : List Nat) (s : System) (e : XrmError) :
    DevActsBy Q p s (reserveOnSameDevice p props devIds s e).1 := by
  induction devIds generalizing s e with
  | nil => exact .refl p s
  | cons devId devIds ih =>
      have hev := reserveItemsOnDev_acts (p := p) devId props hs s
      rw [reserveOnSameDevice]
      split
      · split
        · rename_i heq
          rw [heq] at hev
          exact hev
        · rename_i heq
          rw [heq] at hev
          exact hev.trans (ih _ _)
      · exact ih s e

theorem reserveItems_acts (props : List CuProperty) (hs : ∀ prop ∈ props, Q prop.clientId)
    (s : System) : DevActsBy Q p s (reserveItems p props s).1 := by
  induction props generalizing s with
  | nil => exact .refl p s
  | cons prop props ih =>
      rw [reserveItems]
      split
      · rename_i heq
        exact (resReserveCu_acts (hs prop (by simp)) heq).trans
          (ih (fun q hq => hs q (by simp [hq])) _)
      · exact resRelinquishCuPool_devActs p s

theorem resReserveCuList_acts (p : Nat) (s : System) (listProp : CuListProperty)
    (hs : ∀ prop ∈ listProp.items, Q prop.clientId) :
    DevActsBy Q p s (s.resReserveCuList p listProp).1 := by
  rw [resReserveCuList]
  split
  · exact .refl p s
  split
  · exact reserveOnSameDevice_acts _ hs _ s _
  · exact reserveItems_acts _ hs s

/-! ## Reserving lists with device constraints -/

theorem undoItems_acts (devId : Nat) (props : List CuProperty) (s : System) :
    DevActsBy Q p s (undoItems p devId props s).1 := by
  induction props generalizing s with
  | nil => exact .refl p s
  | cons prop props ih =>
      rw [undoItems]
      split
      · exact .refl p s
      rename_i dev hdev
      split
      · rename_i heq
        exact (DevActsBy.setDev hdev (.undo heq)).trans (ih _)
      · exact .refl p s

theorem reserveSubItems_acts (devId : Nat) (props : List CuProperty)
    (hs : ∀ prop ∈ props, Q prop.clientId) (done : List CuProperty) (s : System) :
    DevActsBy Q p s (reserveSubItems p devId props done s).1 := by
  induction props generalizing s done with
  | nil => exact .refl p s
  | cons prop props ih =>
      have hundo := undoItems_acts (Q := Q) (p := p) devId done s
      rw [reserveSubItems]
      split
      · rename_i heq
        exact (reserveCuFromDev_acts (hs prop (by simp)) heq).trans
          (ih (fun q hq => hs q (by simp [hq])) _ _)
      · split
        · rename_i heq
          rw [heq] at hundo
          exact hundo
        · rename_i heq
          rw [heq] at hundo
          exact hundo

theorem reserveSubList_acts (props : List CuProperty) (hs : ∀ prop ∈ props, Q prop.clientId)
    (usedDevIds devIds : List Nat) (s : System) (e : XrmError) :
    DevActsBy Q p s (reserveSubList p props usedDevIds devIds s e).1 := by
  induction devIds generalizing s e with
  | nil => exact .refl p s
  | cons devId devIds ih =>
      have hev := reserveSubItems_acts (p := p) devId props hs [] s
      rw [reserveSubList]
      split
      · split
        · rename_i heq
          rw [heq] at hev
          exact hev
        · rename_i heq
          rw [heq] at hev
          exact hev.trans (ih _ _)
        · rename_i heq
          rw [heq] at hev
          exact hev
      · exact ih s e

theorem reserveItemV2_acts {props : List CuPropertyV2} (hs : ∀ prop ∈ props, Q prop.clientId)
    (index : Nat) {propV2 : CuPropertyV2} (hp : Q propV2.clientId) (rest : List Nat)
    (st : ReserveV2State) :
    DevActsBy Q p st.s (reserveItemV2 p props index propV2 rest st).1.s := by
  have hp' : Q (cuPropertyCopyFromV2 propV2).clientId := hp
  rw [reserveItemV2]
  simp only
  split
  · split
    · rename_i heq
      exact resReserveCu_acts hp' heq
    · exact .refl p _
  split
  · split
    · rename_i heq
      exact reserveCuFromDev_acts hp' heq
    · exact .refl p _
  split
  · have hsub : ∀ prop ∈ ((index :: subListIndices props st.itemFlags propV2.deviceIndex
        rest).filterMap fun i => props[i]?).map cuPropertyCopyFromV2, Q prop.clientId :=
      forall_subList hs _
    have hev := reserveSubList_acts (p := p) _ hsub st.usedDevIds
      (List.range st.s.numDevice) st.s .error
    rw [← resReserveCuSubListFromSameDevice] at hev
    split
    · rename_i heq
      rw [heq] at hev
      exact hev
    · rename_i heq
      rw [heq] at hev
      exact hev
  · exact .refl p _

theorem reserveItemsV2_acts {props : List CuPropertyV2} (hs : ∀ prop ∈ props, Q prop.clientId)
    (indices : List Nat) (st : ReserveV2State) :
    DevActsBy Q p st.s (reserveItemsV2 p props indices st).1.s := by
  induction indices generalizing st with
  | nil => exact .refl p _
  | cons index rest ih =>
      rw [reserveItemsV2]
      split
      · exact ih st
      split
      · exact ih st
      rename_i propV2 hprop
      have hev := reserveItemV2_acts (p := p) hs index
        (hs propV2 (List.mem_of_getElem? hprop)) rest
        { st with itemFlags := markHandled st.itemFlags [index] }
      simp only
      split
      · rename_i heq
        rw [heq] at hev
        exact hev.trans (ih _)
      · rename_i heq
        rw [heq] at hev
        exact hev

theorem resReserveCuListV2_acts (p : Nat) (s : System) (listProp : CuListPropertyV2)
    (hs : ∀ prop ∈ listProp.items, Q prop.clientId) :
    DevActsBy Q p s (s.resReserveCuListV2 p listProp).1 := by
  rw [resReserveCuListV2]
  split
  · exact .refl p s
  have hev := reserveItemsV2_acts (p := p) hs (List.range listProp.items.length)
    { s := s
      itemFlags := listProp.items.map fun _ => ⟨false, false⟩
      deviceIds := listProp.items.map fun _ => 0
      usedDevIds := [] }
  simp only
  split
  · rename_i heq
    rw [heq] at hev
    exact hev
  · rename_i heq
    rw [heq] at hev
    exact hev.trans (resRelinquishCuPool_devActs p _)

/-! ## Reserving whole devices -/

theorem reserveXclbinDevs_acts {uuid : List UInt8} {clientId devId : Nat}
    {clientProcessId : Int} {devIds : List Nat} (hp : p ≠ 0) (hc : Q clientId)
    (h : reserveXclbinDevs p uuid clientId clientProcessId devIds s = some (s', devId)) :
    DevActsBy Q p s s' := by
  induction devIds with
  | nil => simp [reserveXclbinDevs] at h
  | cons i devIds ih =>
      rw [reserveXclbinDevs] at h
      split at h
      · exact ih h
      rename_i dev hdev
      split at h
      · rename_i hidle
        rw [Bool.and_eq_true] at hidle
        rw [Option.some.injEq, Prod.mk.injEq] at h
        rw [← h.1]
        exact .setDev hdev (.reserveAll hp hc
          (DeviceData.idle_of_not_busy (by simpa using hidle.2)))
      · exact ih h

theorem resReserveDevice_acts {deviceId clientId : Nat} {clientProcessId : Int}
    (hc : Q clientId) (h : s.resReserveDevice p deviceId clientId clientProcessId = .ok s') :
    DevActsBy Q p s s' := by
  rw [resReserveDevice] at h
  split at h
  · simp at h
  rename_i hp
  split at h
  · simp at h
  split at h
  · simp at h
  rename_i dev hdev
  split at h
  · simp at h
  split at h
  · simp at h
  rename_i hidle
  rw [Except.ok.injEq] at h
  subst h
  exact .setDev hdev (.reserveAll hp hc (DeviceData.idle_of_not_busy (by simpa using hidle)))

theorem reserveXclbins_acts (uuid : List UInt8) {clientId : Nat} (clientProcessId : Int)
    (hc : Q clientId) (n : Nat) (s : System) (devIds : List Nat) :
    DevActsBy Q p s (reserveXclbins p uuid clientId clientProcessId n s devIds).1 := by
  induction n generalizing s devIds with
  | zero => exact .refl p s
  | succ n ih =>
      rw [reserveXclbins]
      split
      · rename_i heq
        rw [resReserveCuOfXclbin] at heq
        split at heq
        · simp at heq
        rename_i hp
        split at heq
        · rename_i hfound
          rw [Except.ok.injEq] at heq
          subst heq
          exact (reserveXclbinDevs_acts hp hc hfound).trans (ih _ _)
        · simp at heq
      · exact .refl p s

theorem reserveDeviceIds_acts {clientId : Nat} (clientProcessId : Int) (hc : Q clientId)
    (deviceIds : List Nat) (s : System) :
    DevActsBy Q p s (reserveDeviceIds p clientId clientProcessId deviceIds s).1 := by
  induction deviceIds generalizing s with
  | nil => exact .refl p s
  | cons deviceId deviceIds ih =>
      rw [reserveDeviceIds]
      split
      · rename_i heq
        exact (resReserveDevice_acts hc heq).trans (ih _)
      · exact .refl p s

/-! ## Pools -/

theorem reserveCopies_acts {listProp : CuListProperty}
    (hs : ∀ prop ∈ listProp.items, Q prop.clientId) (n : Nat) (s : System) :
    DevActsBy Q p s (reserveCopies p listProp n s).1 := by
  induction n generalizing s with
  | zero => exact .refl p s
  | succ n ih =>
      have hev := resReserveCuList_acts p s listProp hs
      rw [reserveCopies]
      split
      · rename_i heq
        rw [heq] at hev
        exact hev.trans (ih _)
      · rename_i heq
        rw [heq] at hev
        exact hev

theorem reserveCopiesV2_acts {listProp : CuListPropertyV2}
    (hs : ∀ prop ∈ listProp.items, Q prop.clientId) (n : Nat) (s : System)
    (infos : List (List Nat)) :
    DevActsBy Q p s (reserveCopiesV2 p listProp n s infos).1 := by
  induction n generalizing s infos with
  | zero => exact .refl p s
  | succ n ih =>
      have hev := resReserveCuListV2_acts p s listProp hs
      rw [reserveCopiesV2]
      split
      · rename_i heq
        rw [heq] at hev
        exact hev.trans (ih _ _)
      · rename_i heq
        rw [heq] at hev
        exact hev

end

theorem abandonPool_acts (p : Nat) (s : System) : PoolActs p s (s.abandonPool p).1 :=
  resRelinquishCuPool_acts p s

theorem updateReservePoolId_acts (p : Nat) (s : System) :
    PoolActs p s s.updateReservePoolId := .single .updateId

theorem resReserveCuPool_acts (s : System) (poolProp : CuPoolProperty)
    (hc : poolProp.clientId ≠ 0) (hs : ∀ prop ∈ poolProp.cuListProp.items, prop.clientId ≠ 0) :
    PoolActs s.getNextReservePoolId s (s.resReserveCuPool poolProp).1 := by
  have hx := reserveXclbins_acts (Q := (· ≠ 0)) (p := s.getNextReservePoolId) poolProp.xclbinUuid
    poolProp.clientProcessId hc poolProp.xclbinNum.toNat s []
  rw [resReserveCuPool]
  split
  · exact .refl _ s
  split
  · exact .refl _ s
  simp only
  split
  · rename_i heq
    rw [heq] at hx
    exact hx.acts.trans (abandonPool_acts _ _)
  rename_i s₁ devIds heq
  rw [heq] at hx
  have hcopies := reserveCopies_acts (Q := (· ≠ 0)) (p := s.getNextReservePoolId) hs
    poolProp.cuListNum.toNat s₁
  split
  · rename_i heq₁
    rw [heq₁] at hcopies
    exact (hx.trans hcopies).acts.trans (abandonPool_acts _ _)
  · rename_i heq₁
    rw [heq₁] at hcopies
    exact (hx.trans hcopies).acts.trans (updateReservePoolId_acts _ _)

theorem resReserveCuPoolV2_acts (s : System) (poolProp : CuPoolPropertyV2)
    (hc : poolProp.clientId ≠ 0) (hs : ∀ prop ∈ poolProp.cuListProp.items, prop.clientId ≠ 0) :
    PoolActs s.getNextReservePoolId s (s.resReserveCuPoolV2 poolProp).1 := by
  have hd := reserveDeviceIds_acts (Q := (· ≠ 0)) (p := s.getNextReservePoolId)
    poolProp.clientProcessId hc
    (poolProp.deviceIdListProp.deviceIds.take poolProp.deviceIdListProp.deviceNum.toNat) s
  rw [resReserveCuPoolV2]
  simp only
  split
  · exact .refl _ s
  split
  · exact .refl _ s
  split
  · rename_i heq
    rw [heq] at hd
    exact hd.acts.trans (abandonPool_acts _ _)
  rename_i s₁ heq
  rw [heq] at hd
  have hx := reserveXclbins_acts (Q := (· ≠ 0)) (p := s.getNextReservePoolId) poolProp.xclbinUuid
    poolProp.clientProcessId hc poolProp.xclbinNum.toNat s₁ []
  split
  · rename_i heq₁
    rw [heq₁] at hx
    exact (hd.trans hx).acts.trans (abandonPool_acts _ _)
  rename_i s₂ devIds heq₁
  rw [heq₁] at hx
  have hcopies := reserveCopiesV2_acts (Q := (· ≠ 0)) (p := s.getNextReservePoolId) hs
    poolProp.cuListNum.toNat s₂ []
  split
  · rename_i heq₂
    rw [heq₂] at hcopies
    exact ((hd.trans hx).trans hcopies).acts.trans (abandonPool_acts _ _)
  · rename_i heq₂
    rw [heq₂] at hcopies
    exact ((hd.trans hx).trans hcopies).acts.trans (updateReservePoolId_acts _ _)

end System

end Xrm
