import Xrm.Verification.Restoring

/-! # What a reservation delivers

The load that a pool holds on a CU is the sum of what the items of the request have asked for there,
and of the whole CU if its device was asked for.
-/

namespace Xrm

open FixedTable

/-! ## The load of a pool on a CU -/

/-- The load of the slot if it is one of pool `p`. -/
def ReserveData.loadFor (p : Nat) (r : ReserveData) : Int :=
  if r.reservePoolId = p then r.reserveLoadUnified else 0

namespace CuData

variable {cu cu' : CuData} {p q : Nat} {prop : CuProperty}

/-- What pool `p` has reserved on the CU. -/
def reservedFor (p : Nat) (cu : CuData) : Int := sumBy (ReserveData.loadFor p) cu.slots

theorem Reserved.reservedFor (h : Reserved p prop cu cu') (hcu : cu.Consistent) :
    cu'.reservedFor p = cu.reservedFor p + prop.requestLoadUnified := by
  rw [CuData.reservedFor, CuData.reservedFor, h.slots]
  rcases reservedSlots_cases p prop cu.slots with ⟨i, hi, hp, heq⟩ | ⟨-, heq⟩
  · have hgrow := h.growable hcu (List.getElem_mem hi)
    have hold : ReserveData.loadFor p cu.slots[i] = cu.slots[i].reserveLoadUnified := if_pos hp
    have hnew : ReserveData.loadFor p (grow prop.requestLoadUnified cu.slots[i]) =
        cu.slots[i].reserveLoadUnified + prop.requestLoadUnified := by
      rw [ReserveData.loadFor, if_pos (by exact hp), hgrow]
    rw [heq, sumBy_modify _ _ _ _ hi, hold, hnew]
    omega
  · rw [heq, sumBy_append]
    simp [ReserveData.loadFor, newSlot]

theorem reservedFor_whole (hcu : cu.Consistent) (h : cu.Idle) (p c : Nat) (pid : Int) :
    (cu.reserveWhole p c pid).reservedFor p = cu.reservedFor p + maxChanLoad := by
  rw [reservedFor, reservedFor, (reserveWhole_filled hcu h p c pid).2, hcu.idle_slots h]
  simp [ReserveData.loadFor, wholeSlot]

/-- An act on one pool leaves what the others have reserved. -/
theorem Beside.reservedFor (h : Beside p cu cu') (hq : q ≠ p) :
    cu'.reservedFor q = cu.reservedFor q := by
  have hothers : ∀ slots : List ReserveData, sumBy (ReserveData.loadFor q) slots =
      sumBy (ReserveData.loadFor q) (slots.filter (·.reservePoolId != p)) := by
    intro slots
    have hzero : sumBy (fun r : ReserveData =>
        if (r.reservePoolId != p) = true then 0 else ReserveData.loadFor q r) slots = 0 := by
      refine sumBy_eq_zero fun r _ => ?_
      by_cases hr : r.reservePoolId = p
      · simp [hr, ReserveData.loadFor, Ne.symm hq]
      · simp [hr]
    rw [sumBy_filter, hzero, sub_zero]
  rw [CuData.reservedFor, CuData.reservedFor, hothers cu'.slots, hothers cu.slots, h.others]

theorem Consistent.reservedFor_le (h : cu.Consistent) (p : Nat) :
    cu.reservedFor p ≤ maxChanLoad := by
  calc
    cu.reservedFor p ≤ sumBy (·.reserveLoadUnified) cu.slots := by
      refine sumBy_le_sumBy fun r hr => ?_
      have := (h.slots.active r hr).load
      rw [ReserveData.loadFor]
      split <;> omega
    _ = cu.totalReservedLoadUnified := h.ledger.reserved_eq.symm
    _ ≤ cu.totalUsedLoadUnified := h.reserved_le
    _ ≤ maxChanLoad := h.ledger.total_le

end CuData

namespace System

variable {s s' s₁ : System} {p : Nat} {prop : CuProperty}

/-- The CU at a place. -/
def cuAt (s : System) (place : Nat × Nat) : Option CuData := do
  let dev ← s.devList[place.1]?
  dev.cuList[place.2]?

/-- What pool `p` has reserved on the CU at a place. -/
def reservedAt (s : System) (p : Nat) (place : Nat × Nat) : Int :=
  match s.cuAt place with
  | some cu => cu.reservedFor p
  | none => 0

theorem cuAt_of_dev {i j : Nat} {dev : DeviceData} (hdev : s.devList[i]? = some dev) :
    s.cuAt (i, j) = dev.cuList[j]? := by
  simp [cuAt, hdev]

theorem cuAt_setDev {i : Nat} {dev : DeviceData} (hdev : s.devList[i]? = some dev)
    (dev' : DeviceData) (place : Nat × Nat) : (s.setDev i dev').cuAt place =
      if place.1 = i then dev'.cuList[place.2]? else s.cuAt place := by
  rw [cuAt, cuAt]
  split
  · rename_i hi
    rw [hi, getElem?_setDev_self hdev dev']
    rfl
  · rename_i hi
    rw [getElem?_setDev_ne (Ne.symm hi)]

/-- States beside each other have the same CUs at the same places, but for the pool. -/
theorem Beside.cuAt (h : Beside p s s') (place : Nat × Nat) :
    Option.Rel (CuData.Beside p) (s.cuAt place) (s'.cuAt place) := by
  have hdev := forall₂_getElem?_rel h.devices place.1
  rw [System.cuAt, System.cuAt]
  generalize s.devList[place.1]? = dev at hdev
  generalize s'.devList[place.1]? = dev' at hdev
  cases hdev with
  | none => exact .none
  | some hdev => exact forall₂_getElem?_rel hdev.2 place.2

/-! ## Charges -/

/-- The load of an item on the CU it was charged to. -/
def chargeAt (place : Nat × Nat) (charge : (Nat × Nat) × CuProperty) : Int :=
  if charge.1 = place then charge.2.requestLoadUnified else 0

/-- Acts on pool `p` have charged the items to the CUs beside them, which have their names. -/
structure Charges (p : Nat) (s s' : System) (charges : List ((Nat × Nat) × CuProperty)) :
    Prop where
  acts : DevActs p s s'
  named : ∀ charge ∈ charges, ∃ cu, s.cuAt charge.1 = some cu ∧ cu.matchesKernel charge.2 = true
  valid : ∀ charge ∈ charges, ValidLoad charge.2.requestLoadUnified
  reserved : ∀ place, s'.reservedAt p place = s.reservedAt p place + sumBy (chargeAt place) charges

theorem Charges.refl (p : Nat) (s : System) : Charges p s s [] :=
  ⟨.refl p s, by simp, by simp, fun place => by simp⟩

theorem matchesKernel_of_info {cu cu' : CuData} (h : cu'.toCuInfo = cu.toCuInfo)
    (prop : CuProperty) : cu'.matchesKernel prop = cu.matchesKernel prop := by
  rw [CuData.matchesKernel, CuData.matchesKernel, h]

/-- The names at a place do not change. -/
theorem Beside.matches (h : Beside p s s') {place : Nat × Nat} {cu' : CuData}
    (hcu : s'.cuAt place = some cu') (hmatch : cu'.matchesKernel prop = true) :
    ∃ cu, s.cuAt place = some cu ∧ cu.matchesKernel prop = true := by
  have hrel := h.cuAt place
  rw [hcu] at hrel
  generalize s.cuAt place = cu at hrel
  cases hrel with
  | some hbes =>
      exact ⟨_, rfl, by rwa [← matchesKernel_of_info hbes.users.toCuInfo]⟩

theorem Charges.trans {charges charges' : List ((Nat × Nat) × CuProperty)}
    (h : Charges p s s₁ charges) (h' : Charges p s₁ s' charges') (hsound : s.Sound allRuns) :
    Charges p s s' (charges ++ charges') := by
  refine ⟨h.acts.trans h'.acts, fun charge hcharge => ?_,
    List.forall_mem_append.mpr ⟨h.valid, h'.valid⟩, fun place => ?_⟩
  · rcases List.mem_append.mp hcharge with hcharge | hcharge
    · exact h.named charge hcharge
    · obtain ⟨cu, hcu, hmatch⟩ := h'.named charge hcharge
      exact (h.acts.acts.beside hsound).matches hcu hmatch
  · rw [h'.reserved, h.reserved, sumBy_append, add_assoc]

theorem DevActsBy.sound (h : DevActs p s s') (hsound : s.Sound allRuns) : s'.Sound allRuns :=
  h.acts.evolves.sound hsound False.elim

/-- A pass over the CUs of a device charges one of them. -/
theorem charges_setDev {i : Nat} {dev dev' : DeviceData} {wanted : CuData → Bool}
    (hdev : s.devList[i]? = some dev) (hc : prop.clientId ≠ 0) (hwanted : ByClients wanted)
    (hpass : dev.reservePass p prop wanted = some dev') (hsound : s.Sound allRuns) :
    ∃ j, Charges p s (s.setDev i dev') [((i, j), prop)] := by
  have hacts : DevActs p s (s.setDev i dev') := .setDev hdev (.charge hc hpass hwanted)
  rw [DeviceData.reservePass, Option.map_eq_some_iff] at hpass
  obtain ⟨cus', hsearch, rfl⟩ := hpass
  obtain ⟨pre, cu, post, cu', hcus, rfl, -, hmatch, hres⟩ := reserveSearch_spec hsearch
  have hcu := (hsound dev (List.mem_of_getElem? hdev)).consistent cu (by simp [hcus])
  have hreserved := CuData.reserveLoadFromCu_spec hcu hres
  have hat : s.cuAt (i, pre.length) = some cu := by rw [cuAt_of_dev hdev, hcus]; simp
  refine ⟨pre.length, hacts, ?_, ?_, fun place => ?_⟩
  · simp only [List.mem_singleton, forall_eq]
    exact ⟨cu, hat, hmatch⟩
  · simp only [List.mem_singleton, forall_eq]
    exact hreserved.load
  · have hafter := cuAt_setDev hdev (dev.chargeReserve prop (pre ++ cu' :: post)) place
    rw [sumBy_cons, sumBy_nil, add_zero, chargeAt]
    by_cases hplace : (i, pre.length) = place
    · subst hplace
      have hnew : (s.setDev i (dev.chargeReserve prop (pre ++ cu' :: post))).cuAt
          (i, pre.length) = some cu' := by
        rw [hafter, if_pos rfl]
        simp [DeviceData.chargeReserve, DeviceData.updateDeviceLoad]
      rw [if_pos rfl, reservedAt, reservedAt, hnew, hat]
      exact hreserved.reservedFor hcu
    · have hsame : (s.setDev i (dev.chargeReserve prop (pre ++ cu' :: post))).cuAt place =
          s.cuAt place := by
        rw [hafter]
        split
        · rename_i hi
          have hj : place.2 ≠ pre.length := fun hj => hplace (Prod.ext hi.symm hj.symm)
          rw [cuAt, hi, hdev]
          show (pre ++ cu' :: post)[place.2]? = dev.cuList[place.2]?
          rw [hcus, List.getElem?_append, List.getElem?_append]
          split
          · rfl
          · obtain ⟨k, hk⟩ : ∃ k, place.2 - pre.length = k + 1 :=
            ⟨place.2 - pre.length - 1, by omega⟩
            rw [hk, List.getElem?_cons_succ, List.getElem?_cons_succ]
        · rfl
      rw [if_neg hplace, add_zero, reservedAt, reservedAt, hsame]

theorem reserveDevs_charges {wanted : CuData → Bool} {devIds : List Nat} {devId : Nat}
    (hc : prop.clientId ≠ 0) (hwanted : ByClients wanted) (hsound : s.Sound allRuns)
    (h : reserveDevs p prop wanted devIds s = some (s', devId)) :
    ∃ place, Charges p s s' [(place, prop)] := by
  induction devIds with
  | nil => simp [reserveDevs] at h
  | cons i devIds ih =>
      rw [reserveDevs] at h
      split at h
      · exact ih h
      rename_i dev hdev
      split at h
      · split at h
        · rename_i dev' hpass
          rw [Option.some.injEq, Prod.mk.injEq] at h
          rw [← h.1]
          obtain ⟨j, hcharges⟩ := charges_setDev hdev hc hwanted hpass hsound
          exact ⟨_, hcharges⟩
        · exact ih h
      · exact ih h

theorem resReserveCu_charges {devId : Nat} (hc : prop.clientId ≠ 0) (hsound : s.Sound allRuns)
    (h : s.resReserveCu p prop = .ok (s', devId)) : ∃ place, Charges p s s' [(place, prop)] := by
  rw [resReserveCu] at h
  split at h
  · simp at h
  split at h
  · rename_i heq
    rw [Except.ok.injEq] at h
    subst h
    exact reserveDevs_charges hc inUse_byClients hsound heq
  split at h
  · rename_i heq
    rw [Except.ok.injEq] at h
    subst h
    exact reserveDevs_charges hc unused_byClients hsound heq
  · simp at h

theorem reserveCuFromDev_charges {devId : Nat} (hc : prop.clientId ≠ 0) (hsound : s.Sound allRuns)
    (h : s.reserveCuFromDev p devId prop = .ok s') : ∃ j, Charges p s s' [((devId, j), prop)] := by
  rw [reserveCuFromDev] at h
  split at h
  · simp at h
  rename_i i hi
  have hi : i = devId := by
    rw [devIndex] at hi
    split at hi
    · simpa using hi.symm
    · simp at hi
  subst hi
  split at h
  · simp at h
  rename_i dev hdev
  split at h
  · rename_i dev' hres
    rw [Except.ok.injEq] at h
    subst h
    obtain ⟨wanted, hwanted, hpass⟩ := reserveCuFromDev_pass hres
    exact charges_setDev hdev hc hwanted hpass hsound
  · simp at h

/-! ### Lists -/

theorem reserveItems_charges {props : List CuProperty} (hc : ∀ prop ∈ props, prop.clientId ≠ 0)
    (hsound : s.Sound allRuns) (h : reserveItems p props s = (s', .ok ())) :
    ∃ charges, charges.map Prod.snd = props ∧ Charges p s s' charges := by
  induction props generalizing s with
  | nil =>
      rw [reserveItems, Prod.mk.injEq] at h
      exact ⟨[], rfl, h.1 ▸ .refl p s⟩
  | cons prop props ih =>
      rw [reserveItems] at h
      split at h
      · rename_i s₁ devId heq
        obtain ⟨place, hfirst⟩ := resReserveCu_charges (hc prop (by simp)) hsound heq
        obtain ⟨charges, hprops, hrest⟩ := ih (fun q hq => hc q (by simp [hq]))
          (hfirst.acts.sound hsound) h
        exact ⟨(place, prop) :: charges, by rw [List.map_cons, hprops], hfirst.trans hrest hsound⟩
      · simp at h

theorem reserveItemsOnDev_charges {devId : Nat} {props : List CuProperty}
    (hc : ∀ prop ∈ props, prop.clientId ≠ 0) (hsound : s.Sound allRuns)
    (h : reserveItemsOnDev p devId props s = (s', .ok ())) :
    ∃ charges, charges.map Prod.snd = props ∧ (∀ charge ∈ charges, charge.1.1 = devId) ∧
      Charges p s s' charges := by
  induction props generalizing s with
  | nil =>
      rw [reserveItemsOnDev, Prod.mk.injEq] at h
      exact ⟨[], rfl, by simp, h.1 ▸ .refl p s⟩
  | cons prop props ih =>
      rw [reserveItemsOnDev] at h
      split at h
      · rename_i s₁ heq
        obtain ⟨j, hfirst⟩ := reserveCuFromDev_charges (hc prop (by simp)) hsound heq
        obtain ⟨charges, hprops, hdevs, hrest⟩ := ih (fun q hq => hc q (by simp [hq]))
          (hfirst.acts.sound hsound) h
        exact ⟨((devId, j), prop) :: charges, by rw [List.map_cons, hprops],
          List.forall_mem_cons.mpr ⟨rfl, hdevs⟩, hfirst.trans hrest hsound⟩
      · simp at h

theorem Restored.cuAt (h : Restored s s') : s'.cuAt = s.cuAt := by
  funext place
  have hdev := forall₂_getElem?_rel h.devices place.1
  rw [System.cuAt, System.cuAt]
  generalize s.devList[place.1]? = dev at hdev
  generalize s'.devList[place.1]? = dev' at hdev
  cases hdev with
  | none => rfl
  | @some dev dev' hdev =>
      obtain ⟨hcus, -⟩ := DeviceData.sameButLoad_iff_fields hdev
      show dev'.cuList[place.2]? = dev.cuList[place.2]?
      rw [hcus]

/-- Charges to the CUs of the state from which the devices have been restored. -/
theorem Charges.restored {charges : List ((Nat × Nat) × CuProperty)} (h : Charges p s₁ s' charges)
    (hacts : DevActs p s s₁) (hrestored : Restored s s₁) : Charges p s s' charges := by
  have hcuAt := hrestored.cuAt
  have hreserved : s₁.reservedAt p = s.reservedAt p := by
    funext place
    rw [reservedAt, reservedAt, hcuAt]
  refine ⟨hacts.trans h.acts, ?_, h.valid, ?_⟩
  · rw [← hcuAt]
    exact h.named
  · rw [← hreserved]
    exact h.reserved

/-- A list that does not fit a device gives the pool up. -/
theorem reserveItemsOnDev_failed {devId : Nat} {props : List CuProperty} {e : XrmError}
    (hc : ∀ prop ∈ props, prop.clientId ≠ 0)
    (h : reserveItemsOnDev p devId props s = (s', .error e)) :
    ∃ s₁, DevActs p s s₁ ∧ s' = (s₁.resRelinquishCuPool p).1 := by
  induction props generalizing s with
  | nil => simp [reserveItemsOnDev] at h
  | cons prop props ih =>
      rw [reserveItemsOnDev] at h
      split at h
      · rename_i s₁ heq
        obtain ⟨s₂, hacts, hs'⟩ := ih (fun q hq => hc q (by simp [hq])) h
        exact ⟨s₂, (reserveCuFromDev_acts (hc prop (by simp)) heq).trans hacts, hs'⟩
      · rw [Prod.mk.injEq] at h
        exact ⟨s, .refl p s, h.1.symm⟩

/-- The devices that do not take the list are as they were before, if nothing else of the pool was
reserved. -/
theorem reserveOnSameDevice_charges {props : List CuProperty} {devIds : List Nat} {e : XrmError}
    (hp : p ≠ 0) (hc : ∀ prop ∈ props, prop.clientId ≠ 0) (hsound : s.Sound allRuns)
    (hnew : s.Unreserved p) (hacts : DevActs p s s₁) (hrestored : Restored s s₁)
    (h : reserveOnSameDevice p props devIds s₁ e = (s', .ok ())) :
    ∃ charges, charges.map Prod.snd = props ∧
      (∃ devId, ∀ charge ∈ charges, charge.1.1 = devId) ∧ Charges p s s' charges := by
  induction devIds generalizing s₁ e with
  | nil => simp [reserveOnSameDevice] at h
  | cons devId devIds ih =>
      rw [reserveOnSameDevice] at h
      split at h
      · split at h
        · rename_i s₂ heq
          rw [Prod.mk.injEq] at h
          obtain ⟨charges, hprops, hdev, hcharges⟩ :=
            reserveItemsOnDev_charges hc (hacts.sound hsound) heq
          exact ⟨charges, hprops, ⟨devId, hdev⟩, h.1 ▸ hcharges.restored hacts hrestored⟩
        · rename_i s₂ e₁ heq
          obtain ⟨s₃, hacts₃, rfl⟩ := reserveItemsOnDev_failed hc heq
          have hall := hacts.trans hacts₃
          obtain ⟨s₄, hback, hrestored₄⟩ := hall.restores hp hsound hnew
          have hrel : DevActs p s₃ _ := resRelinquishCuPool_devActs p s₃
          rw [hback] at h hrel
          exact ih (hall.trans hrel) hrestored₄ h
      · exact ih hacts hrestored h

/-- Copies of a list that may be spread over the devices. -/
theorem reserveCopies_charges {listProp : CuListProperty} (hsame : listProp.sameDevice = false)
    (hc : ∀ prop ∈ listProp.items, prop.clientId ≠ 0) (n : Nat) (hsound : s.Sound allRuns)
    (h : reserveCopies p listProp n s = (s', true)) :
    ∃ charges, charges.map Prod.snd = (List.replicate n listProp.items).flatten ∧
      Charges p s s' charges := by
  induction n generalizing s with
  | zero =>
      rw [reserveCopies, Prod.mk.injEq] at h
      exact ⟨[], rfl, h.1 ▸ .refl p s⟩
  | succ n ih =>
      rw [reserveCopies] at h
      split at h
      · rename_i s₁ heq
        rw [resReserveCuList] at heq
        split at heq
        · simp at heq
        rw [if_neg (by simp [hsame])] at heq
        obtain ⟨charges, hprops, hfirst⟩ := reserveItems_charges hc hsound heq
        obtain ⟨charges', hprops', hrest⟩ := ih (hfirst.acts.sound hsound) h
        refine ⟨charges ++ charges', ?_, hfirst.trans hrest hsound⟩
        rw [List.map_append, hprops, hprops', List.replicate_succ, List.flatten_cons]
      · simp at h

/-- At most one copy of a list for one device. -/
theorem reserveCopies_sameDevice {listProp : CuListProperty} (hsame : listProp.sameDevice = true)
    (hp : p ≠ 0) (hc : ∀ prop ∈ listProp.items, prop.clientId ≠ 0) {n : Nat} (hn : n ≤ 1)
    (hsound : s.Sound allRuns) (hnew : s.Unreserved p)
    (h : reserveCopies p listProp n s = (s', true)) :
    ∃ charges, charges.map Prod.snd = (List.replicate n listProp.items).flatten ∧
      (∃ devId, ∀ charge ∈ charges, charge.1.1 = devId) ∧ Charges p s s' charges := by
  cases n with
  | zero =>
      rw [reserveCopies, Prod.mk.injEq] at h
      exact ⟨[], rfl, ⟨0, by simp⟩, h.1 ▸ .refl p s⟩
  | succ n =>
      obtain rfl : n = 0 := by omega
      rw [reserveCopies] at h
      split at h
      · rename_i s₁ heq
        rw [reserveCopies, Prod.mk.injEq] at h
        rw [resReserveCuList] at heq
        split at heq
        · simp at heq
        obtain ⟨charges, hprops, hdev, hcharges⟩ :=
          reserveOnSameDevice_charges hp hc hsound hnew (.refl p s) (.refl s) heq
        exact ⟨charges, by simpa using hprops, hdev, h.1 ▸ hcharges⟩
      · simp at h

/-! ## Whole devices -/

/-- Acts on pool `p` have reserved the devices whole, each as often as it is in the list. -/
structure TakesWhole (p : Nat) (uuid : List UInt8) (s s' : System) (devIds : List Nat) : Prop where
  acts : DevActs p s s'
  loaded : ∀ devId ∈ devIds, ∃ dev, s.devList[devId]? = some dev ∧ dev.isLoaded = true ∧
    dev.uuid = uuid
  reserved : ∀ place, (s.cuAt place).isSome = true →
    s'.reservedAt p place = s.reservedAt p place + devIds.count place.1 * maxChanLoad

theorem reservedAt_reserveAll {i : Nat} {dev : DeviceData} (hdev : s.devList[i]? = some dev)
    (hbusy : dev.isDeviceBusy = false) (hsound : s.Sound allRuns) (p c : Nat) (pid : Int)
    {place : Nat × Nat} (hsome : (s.cuAt place).isSome = true) :
    (s.setDev i (dev.reserveAll p c pid)).reservedAt p place =
      s.reservedAt p place + if place.1 = i then maxChanLoad else 0 := by
  rw [reservedAt, cuAt_setDev hdev, reservedAt]
  by_cases hi : place.1 = i
  · rw [if_pos hi, if_pos hi]
    rw [cuAt, hi, hdev] at hsome ⊢
    obtain ⟨cu, hcu⟩ := Option.isSome_iff_exists.mp hsome
    have hcu : dev.cuList[place.2]? = some cu := hcu
    have hmem := List.mem_of_getElem? hcu
    have hcons := (hsound dev (List.mem_of_getElem? hdev)).consistent cu hmem
    have hnew : (dev.reserveAll p c pid).cuList[place.2]? = some (cu.reserveWhole p c pid) := by
      show (dev.cuList.map _)[place.2]? = _
      rw [List.getElem?_map, hcu]
      rfl
    have hwhole := CuData.reservedFor_whole hcons
      (DeviceData.idle_of_not_busy hbusy cu hmem) p c pid
    simp only [hnew, Option.bind_eq_bind, Option.bind_some, hcu, hwhole]
  · rw [if_neg hi, if_neg hi, add_zero]

theorem reserveXclbinDevs_whole {uuid : List UInt8} {clientId devId : Nat} {clientProcessId : Int}
    {devIds : List Nat} (hp : p ≠ 0) (hc : clientId ≠ 0) (hsound : s.Sound allRuns)
    (h : reserveXclbinDevs p uuid clientId clientProcessId devIds s = some (s', devId)) :
    TakesWhole p uuid s s' [devId] := by
  have hacts : DevActs p s s' := reserveXclbinDevs_acts hp hc h
  induction devIds with
  | nil => simp [reserveXclbinDevs] at h
  | cons i devIds ih =>
      rw [reserveXclbinDevs] at h
      split at h
      · exact ih h
      rename_i dev hdev
      split at h
      swap
      · exact ih h
      rename_i hidle
      simp only [Bool.and_eq_true, beq_iff_eq, Bool.not_eq_true'] at hidle
      obtain ⟨⟨hload, huuid⟩, hbusy⟩ := hidle
      rw [Option.some.injEq, Prod.mk.injEq] at h
      obtain ⟨rfl, rfl⟩ := h
      refine ⟨hacts, by simpa using ⟨dev, hdev, hload, huuid⟩, fun place hsome => ?_⟩
      rw [reservedAt_reserveAll hdev hbusy hsound p clientId clientProcessId hsome]
      by_cases hi : place.1 = i
      · simp [hi]
      · simp [hi, Ne.symm hi]

/-- What a device is loaded with does not change. -/
theorem Beside.loaded (h : Beside p s s') {devId : Nat} {uuid : List UInt8}
    (hdev : ∃ dev, s'.devList[devId]? = some dev ∧ dev.isLoaded = true ∧ dev.uuid = uuid) :
    ∃ dev, s.devList[devId]? = some dev ∧ dev.isLoaded = true ∧ dev.uuid = uuid := by
  obtain ⟨dev', hdev', hload, huuid⟩ := hdev
  obtain ⟨dev, hdev, hsame, -⟩ := forall₂_getElem? h.devices hdev'
  rw [hsame.1] at hload huuid
  exact ⟨dev, hdev, hload, huuid⟩

theorem Beside.isSome_cuAt (h : Beside p s s') (place : Nat × Nat) :
    (s'.cuAt place).isSome = (s.cuAt place).isSome := by
  have hrel := h.cuAt place
  generalize s.cuAt place = cu at hrel
  generalize s'.cuAt place = cu' at hrel
  cases hrel with
  | none => rfl
  | some _ => rfl

theorem TakesWhole.trans {uuid : List UInt8} {devIds devIds' : List Nat}
    (h : TakesWhole p uuid s s₁ devIds) (h' : TakesWhole p uuid s₁ s' devIds')
    (hsound : s.Sound allRuns) : TakesWhole p uuid s s' (devIds ++ devIds') := by
  have hbeside := h.acts.acts.beside hsound
  refine ⟨h.acts.trans h'.acts, List.forall_mem_append.mpr ⟨h.loaded, fun devId hmem =>
    hbeside.loaded (h'.loaded devId hmem)⟩, fun place hsome => ?_⟩
  rw [h'.reserved place (by rw [hbeside.isSome_cuAt, hsome]), h.reserved place hsome,
    List.count_append, Nat.cast_add, add_mul, add_assoc]

theorem reserveXclbins_whole {uuid : List UInt8} {clientId : Nat} {clientProcessId : Int}
    (hp : p ≠ 0) (hc : clientId ≠ 0) (n : Nat) {devIds devIds' : List Nat}
    (hsound : s.Sound allRuns)
    (h : reserveXclbins p uuid clientId clientProcessId n s devIds = (s', some devIds')) :
    ∃ new, devIds' = devIds ++ new ∧ new.length = n ∧ TakesWhole p uuid s s' new := by
  induction n generalizing s devIds with
  | zero =>
      rw [reserveXclbins, Prod.mk.injEq, Option.some.injEq] at h
      obtain ⟨rfl, rfl⟩ := h
      exact ⟨[], by simp, rfl, .refl p s, by simp, by simp⟩
  | succ n ih =>
      rw [reserveXclbins] at h
      split at h
      · rename_i s₁ devId heq
        rw [resReserveCuOfXclbin, if_neg hp] at heq
        split at heq
        · rename_i found hfound
          rw [Except.ok.injEq] at heq
          subst heq
          have hfirst := reserveXclbinDevs_whole hp hc hsound hfound
          obtain ⟨new, rfl, hlength, hrest⟩ := ih (hfirst.acts.sound hsound) h
          exact ⟨devId :: new, by simp, by simp [hlength], hfirst.trans hrest hsound⟩
        · simp at heq
      · simp at h

/-! ## Pools -/

/-- The pool `p` holds the devices whole and the charges, and nothing else has been reserved. -/
structure PoolDelivered (s s' : System) (p : Nat) (poolProp : CuPoolProperty) (devIds : List Nat)
    (charges : List ((Nat × Nat) × CuProperty)) : Prop where
  poolId : p ≠ 0 ∧ p = s.getNextReservePoolId ∧ s'.reservePoolId = p
  xclbinNum : devIds.length = poolProp.xclbinNum.toNat
  loaded : ∀ devId ∈ devIds, ∃ dev, s.devList[devId]? = some dev ∧ dev.isLoaded = true ∧
    dev.uuid = poolProp.xclbinUuid
  distinct : devIds.Nodup
  items : charges.map Prod.snd =
    (List.replicate poolProp.cuListNum.toNat poolProp.cuListProp.items).flatten
  named : ∀ charge ∈ charges, ∃ cu, s.cuAt charge.1 = some cu ∧ cu.matchesKernel charge.2 = true
  apart : ∀ charge ∈ charges, charge.1.1 ∉ devIds
  reserved : ∀ place, (s.cuAt place).isSome = true → s'.reservedAt p place =
    devIds.count place.1 * maxChanLoad + sumBy (chargeAt place) charges
  others : ∀ q, q ≠ p → s'.reservedAt q = s.reservedAt q

theorem Beside.reservedAt (h : Beside p s s') {q : Nat} (hq : q ≠ p) :
    s'.reservedAt q = s.reservedAt q := by
  funext place
  have hrel := h.cuAt place
  rw [System.reservedAt, System.reservedAt]
  generalize s.cuAt place = cu at hrel
  generalize s'.cuAt place = cu' at hrel
  cases hrel with
  | none => rfl
  | some hbes => exact hbes.reservedFor hq

theorem Unreserved.reservedAt (h : s.Unreserved p) (place : Nat × Nat) :
    s.reservedAt p place = 0 := by
  rw [System.reservedAt]
  split
  · rename_i cu hcu
    obtain ⟨dev, hdev, hcu⟩ := Option.bind_eq_some_iff.mp hcu
    refine sumBy_eq_zero fun r hr => ?_
    exact if_neg (h dev (List.mem_of_getElem? hdev) cu (List.mem_of_getElem? hcu) r hr)
  · rfl

theorem Sound.reservedAt_le (h : s.Sound allRuns) (p : Nat) (place : Nat × Nat) :
    s.reservedAt p place ≤ maxChanLoad := by
  rw [reservedAt]
  split
  · rename_i cu hcu
    obtain ⟨dev, hdev, hcu⟩ := Option.bind_eq_some_iff.mp hcu
    exact ((h dev (List.mem_of_getElem? hdev)).consistent cu
      (List.mem_of_getElem? hcu)).reservedFor_le p
  · decide

theorem chargeAt_nonneg {charge : (Nat × Nat) × CuProperty}
    (h : ValidLoad charge.2.requestLoadUnified) (place : Nat × Nat) :
    0 ≤ chargeAt place charge := by
  rw [chargeAt]
  have := h.1
  split <;> omega

/-- Whole devices and then charges make up the pool. -/
theorem TakesWhole.delivered {poolProp : CuPoolProperty} {devIds : List Nat}
    {charges : List ((Nat × Nat) × CuProperty)}
    (h : TakesWhole s.getNextReservePoolId poolProp.xclbinUuid s s₁ devIds)
    (h' : Charges s.getNextReservePoolId s₁ s' charges) (hsound : s.Sound allRuns)
    (hrec : s.Recorded allRuns) (hnew : s.Unreserved s.getNextReservePoolId)
    (hlength : devIds.length = poolProp.xclbinNum.toNat)
    (hitems : charges.map Prod.snd =
      (List.replicate poolProp.cuListNum.toNat poolProp.cuListProp.items).flatten) :
    PoolDelivered s s'.updateReservePoolId s.getNextReservePoolId poolProp devIds charges := by
  have hacts := h.acts.trans h'.acts
  have hbeside₁ := h.acts.acts.beside hsound
  have hsound' := hacts.sound hsound
  have hcounter : s'.updateReservePoolId.reservePoolId = s.getNextReservePoolId := by
    rw [updateReservePoolId, hacts.frame]
    rfl
  have hreserved : ∀ place, (s.cuAt place).isSome = true →
      s'.reservedAt s.getNextReservePoolId place =
        devIds.count place.1 * maxChanLoad + sumBy (chargeAt place) charges := by
    intro place hsome
    rw [h'.reserved, h.reserved place hsome, hnew.reservedAt, zero_add]
  have hcharges : ∀ place, 0 ≤ sumBy (chargeAt place) charges := fun place =>
    sumBy_nonneg fun charge hcharge => chargeAt_nonneg (h'.valid charge hcharge) place
  have hnamed : ∀ charge ∈ charges, ∃ cu, s.cuAt charge.1 = some cu ∧
      cu.matchesKernel charge.2 = true := by
    intro charge hcharge
    obtain ⟨cu, hcu, hmatch⟩ := h'.named charge hcharge
    exact hbeside₁.matches hcu hmatch
  refine ⟨⟨nextId_ne_zero _, rfl, hcounter⟩, hlength, h.loaded, ?_, hitems, hnamed, ?_, hreserved,
    fun q hq => (hacts.acts.beside hsound).reservedAt hq⟩
  · -- the first CU of a device that is reserved whole has no room for more
    refine List.nodup_iff_count_le_one.mpr fun devId => ?_
    by_cases hmem : devId ∈ devIds
    · obtain ⟨dev, hdev, hload, -⟩ := h.loaded devId hmem
      have hpos := (hrec dev (List.mem_of_getElem? hdev)).populated hload
      have hsome : (s.cuAt (devId, 0)).isSome = true := by
        rw [cuAt_of_dev hdev, List.getElem?_eq_getElem hpos]
        rfl
      have hle := hsound'.reservedAt_le s.getNextReservePoolId (devId, 0)
      rw [hreserved _ hsome, maxChanLoad] at hle
      simp only at hle
      have := hcharges (devId, 0)
      omega
    · rw [List.count_eq_zero_of_not_mem hmem]
      exact Nat.zero_le 1
  · intro charge hcharge hmem
    obtain ⟨cu, hcu, -⟩ := hnamed charge hcharge
    have hle := hsound'.reservedAt_le s.getNextReservePoolId charge.1
    rw [hreserved charge.1 (by rw [hcu]; rfl), maxChanLoad] at hle
    have hcount : 0 < devIds.count charge.1.1 := List.count_pos_iff.mpr hmem
    have hload := (h'.valid charge hcharge).1
    have hterm : chargeAt charge.1 charge = charge.2.requestLoadUnified := if_pos rfl
    have hsum := le_sumBy (f := chargeAt charge.1) (fun c hc =>
      chargeAt_nonneg (h'.valid c hc) charge.1) hcharge
    omega

/-- A version 1 pool holds exactly what was asked for: whole devices loaded with the xclbin, none
of them twice, and beside them every item of every copy of the list, on a CU of its kernel. The
items may be spread over the devices, or one copy that asks for one device has it. -/
theorem pool_delivered {limit : Nat} {poolProp : CuPoolProperty}
    (h : Reachable allRuns limit s) (hsent : (Op.resReserveCuPool poolProp).Sent)
    (hnew : s.Unreserved s.getNextReservePoolId)
    (hcopies : poolProp.cuListProp.sameDevice = false ∨
      poolProp.cuListNum ≤ 1 ∧ poolProp.xclbinNum = 0)
    (hok : s.resReserveCuPool poolProp = (s', p)) (hp : p ≠ 0) :
    ∃ devIds charges, PoolDelivered s s' p poolProp devIds charges ∧
      (poolProp.cuListProp.sameDevice = true →
        ∃ devId, ∀ charge ∈ charges, charge.1.1 = devId) := by
  have hsound := h.good.sound
  have hid := nextId_ne_zero s.reservePoolId
  rw [resReserveCuPool] at hok
  split at hok
  · exact absurd (Prod.mk.inj hok).2.symm hp
  split at hok
  · exact absurd (Prod.mk.inj hok).2.symm hp
  simp only at hok
  split at hok
  · exact absurd (Prod.mk.inj hok).2.symm hp
  rename_i s₁ devIds hx
  obtain ⟨new, hnil, hlength, hwhole⟩ := reserveXclbins_whole hid hsent.1 _ hsound hx
  obtain rfl : new = devIds := by simpa using hnil.symm
  split at hok
  · exact absurd (Prod.mk.inj hok).2.symm hp
  rename_i s₂ hlists
  rw [Prod.mk.injEq] at hok
  obtain ⟨rfl, rfl⟩ := hok
  by_cases hsame : poolProp.cuListProp.sameDevice = false
  · obtain ⟨charges, hitems, hcharges⟩ := reserveCopies_charges hsame hsent.2 _
      (hwhole.acts.sound hsound) hlists
    exact ⟨new, charges, hwhole.delivered hcharges hsound h.good.recorded hnew hlength hitems,
      fun h => by simp [hsame] at h⟩
  · obtain ⟨hone, hnone⟩ := hcopies.resolve_left hsame
    rw [hnone] at hx
    obtain ⟨rfl, -⟩ := Prod.mk.inj hx
    obtain ⟨charges, hitems, hdev, hcharges⟩ := reserveCopies_sameDevice
      (by simpa using hsame) hid hsent.2 (n := poolProp.cuListNum.toNat) (by omega) hsound hnew
      hlists
    exact ⟨new, charges, hwhole.delivered hcharges hsound h.good.recorded hnew hlength hitems,
      fun _ => hdev⟩

end System

open Scenario in
/-- Client 2 has reserved on one of six CUs. -/
def sixRun : List Op :=
  [.loadOneDevice (env 3 2) 0 "scaler.xclbin", .loadOneDevice (env 3 2) 1 "scaler.xclbin",
    .loadOneDevice (env 3 2) 2 "scaler.xclbin", .resReserveCuPool (pool 2 [request 2 0 300000])]

namespace System

open Scenario

theorem pool_delivered_wide : ∃ s' devIds charges,
    PoolDelivered (after sixRun) s' 2 widePool devIds charges := by
  have hok : (after sixRun).resReserveCuPool widePool =
      (((after sixRun).resReserveCuPool widePool).1, 2) := Prod.ext rfl (by decide +kernel)
  obtain ⟨devIds, charges, h, -⟩ := pool_delivered (reachable_after sixRun (by decide +kernel))
    (by decide) (by decide +kernel) (.inl rfl) hok (by decide)
  exact ⟨_, devIds, charges, h⟩

/-- Two copies that ask for one device each: the second does not fit the first device, and with the
attempt on it the first copy is lost. -/
example : ((after sixRun).resReserveCuPool { pool 1 [request 1 0 600000, request 1 0 600000] with
    cuListProp.sameDevice := true, cuListNum := 2 }).1.cus.map (·.reservedFor 2) =
      [0, 0, 600000, 600000, 0, 0] := by
  decide +kernel

end System

end Xrm
