import Xrm.Verification.DevicePool

/-! # The load record of a device

The device keeps the sum of the loads in use on its CUs a second time. Most acts change both by
the same amount; the others set the record to a value that is the sum.
-/

namespace Xrm

open FixedTable

namespace CuData

variable {cu cu' : CuData} {prop : CuProperty} {svc chanId : Nat} {idx : Option Nat}

/-- The load in use after an allocation. -/
theorem Allocated.total (h : cu.Allocated cu' prop svc idx chanId) (hcu : cu.Consistent)
    (hs : prop.Received) : cu'.totalUsedLoadUnified =
      cu.totalUsedLoadUnified + if prop.poolId ≠ 0 then 0 else prop.requestLoadUnified := by
  have hbooks := hcu.books_alloc h.pos hs.2 h.admits
  have hbooked := cu.booked_assignChannel prop svc chanId idx
  rw [← h.eq] at hbooked
  cases idx with
  | none =>
      obtain ⟨-, hfit, -⟩ := hbooks.default rfl
      rw [(hbooked.default rfl).2, hfit, if_neg (by simpa using h.admits.1)]
  | some i =>
      have hpool : prop.poolId ≠ 0 := by
        intro hz
        have hfind := h.admits.1
        rw [hz, isReservePoolUsingCu_zero] at hfind
        simp at hfind
      rw [(hbooked.drawn i rfl).2, if_pos hpool, add_zero]

/-- A CU that holds nothing but unused slots of the client is idle after its recycling. -/
theorem SlotsRecycled.idle {c : Nat} (h : SlotsRecycled c 0 cu cu') (hcu : cu.Consistent)
    (hfree : cu.totalUsedLoadUnified =
      sumBy ReserveData.unused (cu.slots.filter fun r => r.clientIsActive && r.clientId == c)) :
    cu'.Idle := by
  have hledger := hcu.ledger.total_eq
  have hledger' := h.consistent.ledger.total_eq
  have hmine : cu.slots.filter (fun r => r.clientIsActive && r.clientId == c) =
      cu.slots.filter fun r => !(r.clientId != c) := by
    refine List.filter_congr fun r hr => ?_
    have hactive : r.clientIsActive = true := (hcu.slots.active r hr).active
    simp [hactive, bne]
  have hsplit := sumBy_filter ReserveData.unused (fun r => r.clientId != c) cu.slots
  have hsplit' := sumBy_filter ReserveData.unused (fun r => !(r.clientId != c)) cu.slots
  have hcompl : sumBy (fun r : ReserveData => if r.clientId != c then 0 else r.unused) cu.slots +
      sumBy (fun r : ReserveData => if !(r.clientId != c) then 0 else r.unused) cu.slots =
        sumBy ReserveData.unused cu.slots := by
    rw [← sumBy_add]
    refine sumBy_congr fun r _ => ?_
    cases r.clientId != c <;> simp
  have hslots := h.slots
  rw [List.take_zero, List.drop_zero, List.nil_append] at hslots
  rw [hmine] at hfree
  rw [hslots, h.users.channels] at hledger'
  rw [Idle]
  omega

end CuData

namespace DeviceData

variable {D : Discipline} {dev dev' : DeviceData}

/-! ## The record is right -/

/-- The load record of the device is right. -/
structure Metered (dev : DeviceData) : Prop where
  current : dev.devLoadInfo.devCurrentLoad = dev.usedLoad
  rate : dev.devLoadInfo.devLoadRate = dev.loadRate

/-- The load rate of the device goes with its current load. -/
def Rated (dev : DeviceData) : Prop := dev.devLoadInfo.devLoadRate = dev.loadRate

/-- The CU table of the device fits, and is not empty once it is loaded; its load record is right as
far as the discipline guarantees it. -/
structure Recorded (D : Discipline) (dev : DeviceData) : Prop where
  number : dev.cuList.length ≤ maxXilinxKernels
  populated : dev.isLoaded = true → 0 < dev.cuList.length
  rate : dev.isLoaded = true → dev.Rated
  current : D.metered → dev.isLoaded = true → dev.devLoadInfo.devCurrentLoad = dev.usedLoad

theorem Recorded.metered (h : dev.Recorded D) (hD : D.metered) (hload : dev.isLoaded = true) :
    dev.Metered := ⟨h.current hD hload, h.rate hload⟩

/-- A change that the record follows keeps it right. -/
theorem Recorded.tracks (h : dev.Recorded D)
    (ht : Tracks dev dev' (dev'.usedLoad - dev.usedLoad))
    (hload : dev'.isLoaded = dev.isLoaded) (hnum : dev'.cuList.length = dev.cuList.length) :
    dev'.Recorded D := by
  refine ⟨hnum ▸ h.number, fun hl => hnum ▸ h.populated (hload ▸ hl),
    fun hl => ht.rate (h.rate (hload ▸ hl)), fun hD hl => ?_⟩
  have := h.current hD (hload ▸ hl)
  rw [ht.current]
  omega

theorem Recorded.congr (h : dev.Recorded D) (hcus : dev'.cuList = dev.cuList)
    (hinfo : dev'.devLoadInfo = dev.devLoadInfo) (hload : dev'.isLoaded = dev.isLoaded) :
    dev'.Recorded D := by
  have hnum : dev'.numCu = dev.numCu := by rw [numCu, numCu, hcus]
  refine h.tracks ((Tracks.refl dev).congr hinfo hnum ?_) hload (by rw [hcus])
  rw [usedLoad, usedLoad, hcus, sub_self]

/-- A record that has been set. -/
theorem Recorded.set {load : Int} (hrec : dev.Recorded D) (hload : dev'.isLoaded = dev.isLoaded)
    (hnum : dev'.cuList.length = dev.cuList.length) (h0 : 0 ≤ load)
    (h : D.metered → dev'.usedLoad = load) (change : Int) :
    (dev'.updateDeviceLoad change load).Recorded D := by
  refine ⟨(hnum.trans_le hrec.number :), fun hl => ?_, fun _ => rfl, fun hD _ => ?_⟩
  · show 0 < dev'.cuList.length
    rw [hnum]
    exact hrec.populated (hload ▸ hl)
  show (if load ≥ 0 then load else _) = dev'.usedLoad
  rw [if_pos h0, h hD]

theorem sumBy_const {l : Int} {cus : List CuData}
    (h : ∀ cu ∈ cus, cu.totalUsedLoadUnified = l) :
    sumBy (·.totalUsedLoadUnified) cus = cus.length * l := by
  induction cus with
  | nil => simp
  | cons cu cus ih =>
      rw [sumBy_cons, h cu (by simp), ih fun x hx => h x (by simp [hx]), List.length_cons,
        Nat.cast_add, Nat.cast_one, add_mul, one_mul, add_comm]

theorem usedLoad_const {l : Int} (h : ∀ cu ∈ dev.cuList, cu.totalUsedLoadUnified = l) :
    dev.usedLoad = dev.numCu * l := sumBy_const h

theorem usedLoad_set {i : Nat} {cu cu' : CuData} (hcu : dev.cuList[i]? = some cu)
    (hcus : dev'.cuList = dev.cuList.set i cu') :
    dev'.usedLoad - dev.usedLoad = cu'.totalUsedLoadUnified - cu.totalUsedLoadUnified := by
  obtain ⟨hi, rfl⟩ := List.getElem?_eq_some_iff.mp hcu
  rw [usedLoad, usedLoad, hcus, set_eq_modify, sumBy_modify _ _ _ _ hi]
  omega

/-! ## Allocating and releasing -/

theorem Recorded.register {dev₁ : DeviceData} {prop : CuProperty} (h : dev.Recorded D)
    (hreg : dev.allocClientFromDev prop = .ok dev₁) : dev₁.Recorded D := by
  have hframe := (allocClientFromDev_spec hreg).frame
  refine h.congr ?_ ?_ ?_ <;> rw [hframe]

theorem Recorded.drop (h : dev.Recorded D) (c : Nat) : (dev.dropClient c).Recorded D := by
  have hframe := (dev.dropClient_spec c).frame
  refine h.congr ?_ ?_ ?_ <;> rw [hframe]

/-- The load record follows an allocation. -/
theorem tracks_grant {prop : CuProperty} {svc cuId chanId : Nat} {idx : Option Nat}
    {cu cu' : CuData} (hs : prop.Received) (hcons : cu.Consistent)
    (hcu : dev.cuList[cuId]? = some cu) (halloc : cu.Allocated cu' prop svc idx chanId) :
    Tracks dev (dev.grant prop cuId cu') ((dev.grant prop cuId cu').usedLoad - dev.usedLoad) := by
  have htotal := halloc.total hcons hs
  have hused : (dev.setCu cuId cu').usedLoad - dev.usedLoad = _ := usedLoad_set hcu rfl
  have hnum : (dev.setCu cuId cu').numCu = dev.numCu := by simp [numCu, setCu]
  rw [DeviceData.grant]
  by_cases hpool : prop.poolId ≠ 0
  · rw [if_pos hpool] at htotal ⊢
    refine (Tracks.refl dev).congr rfl hnum ?_
    omega
  · rw [if_neg hpool] at htotal ⊢
    refine (dev.tracks_updateDeviceLoad prop.requestLoadUnified).congr ?_ hnum ?_
    · simp [updateDeviceLoad, setCu, numCu]
    · show _ = (dev.setCu cuId cu').usedLoad - dev.usedLoad
      omega

theorem Recorded.grant {prop : CuProperty} {svc cuId chanId : Nat} {idx : Option Nat}
    {cu cu' : CuData} (h : dev.Recorded D) (hs : prop.Received) (hcons : cu.Consistent)
    (hcu : dev.cuList[cuId]? = some cu) (halloc : cu.Allocated cu' prop svc idx chanId) :
    (dev.grant prop cuId cu').Recorded D := by
  obtain ⟨info, hgrant⟩ := dev.grant_frame prop cuId cu'
  refine h.tracks (tracks_grant hs hcons hcu halloc) ?_ ?_ <;> rw [hgrant]
  · rfl
  · simp [setCu]

/-- The load record follows a release. -/
theorem tracks_release {cuId : Nat} {cu : CuData} {res : CuResource} (hshape : dev.TableShape)
    (hcons : cu.Consistent) (hcu : dev.cuList[cuId]? = some cu) (hres : res.clientId ≠ 0) :
    Tracks dev (dev.releaseCu cuId cu res).1
      ((dev.releaseCu cuId cu res).1.usedLoad - dev.usedLoad) := by
  obtain ⟨cu', -, heq, -, htracks⟩ := dev.releaseCu_spec hcons hres cuId
  have hframe := releaseChannels_frame hres cu.channels dev cu hshape
  rw [heq]
  refine htracks.congr rfl (by simp [numCu, setCu]) ?_
  refine (usedLoad_set hcu ?_).symm
  show (releaseChannels res cu.channels dev cu).dev.cuList.set cuId cu' = _
  rw [hframe.cuList]

theorem Recorded.release {cuId : Nat} {cu : CuData} {res : CuResource} (h : dev.Recorded D)
    (hs : dev.Sound D) (hcu : dev.cuList[cuId]? = some cu) (hres : res.clientId ≠ 0) :
    (dev.releaseCu cuId cu res).1.Recorded D := by
  have hcons := hs.consistent cu (List.mem_of_getElem? hcu)
  have hframe := releaseChannels_frame hres cu.channels dev cu hs.shape
  obtain ⟨cu', -, heq, -, -⟩ := dev.releaseCu_spec hcons hres cuId
  refine h.tracks (tracks_release hs.shape hcons hcu hres) ?_ ?_ <;> rw [heq]
  · exact hframe.isLoaded
  · simp [setCu, hframe.cuList]

theorem Recorded.takeAll {svc c : Nat} {pid : Int} (h : dev.Recorded D)
    (hidle : ∀ cu ∈ dev.cuList, cu.Idle) : (dev.allocAllCu svc c pid).Recorded D := by
  have hle : dev.allocAllNum ≤ dev.cuList.length := by
    rw [allocAllNum, numCu]
    split <;> omega
  have htaken : sumBy (·.totalUsedLoadUnified) ((dev.cuList.take dev.allocAllNum).map
      fun cu => cu.takeWhole svc c pid) = maxChanLoad * dev.allocAllNum := by
    have hwhole : ∀ cu ∈ (dev.cuList.take dev.allocAllNum).map
        fun cu : CuData => cu.takeWhole svc c pid, cu.totalUsedLoadUnified = maxChanLoad := by
      intro cu hcu
      obtain ⟨cu₀, -, rfl⟩ := List.mem_map.mp hcu
      rfl
    rw [sumBy_const hwhole, List.length_map, List.length_take, min_eq_left hle, mul_comm]
  refine h.set ?_ ?_ ?_ (fun _ => ?_) 0
  · rfl
  · show ((dev.cuList.take dev.allocAllNum).map (fun cu : CuData => cu.takeWhole svc c pid) ++
      dev.cuList.drop dev.allocAllNum).length = _
    simp only [List.length_append, List.length_map, List.length_take, List.length_drop]
    omega
  · rw [maxChanLoad]
    omega
  · show sumBy _ (_ ++ _) = _
    rw [sumBy_append, htaken, sumBy_eq_zero, add_zero]
    exact fun cu hcu => hidle cu (List.mem_of_mem_drop hcu)

/-! ## Recycling -/

theorem Recorded.left {c : Nat} (h : dev.Recorded D) (hs : dev.Sound D) (hc : c ≠ 0) :
    (dev.releaseAllCuChanClientOnDev c).Recorded D := by
  have hleft := releaseAllCuChanClientOnDev_spec hc hs.consistent
  refine h.tracks hleft.tracks ?_ hleft.cus.length_eq.symm
  rw [hleft.frame]

/-- The recycling of the reservations sets the record to 0, which is right when no other load
is in use. -/
theorem Recorded.recycleReserves {c : Nat} (h : dev.Recorded D) (hs : dev.Sound D)
    (hfree : D.metered → dev.FreeBut c) (tmpSum change : Int) :
    ({ dev with cuList := (DeviceData.recycleReserves c dev.cuList tmpSum).1 }.updateDeviceLoad
      change 0).Recorded D := by
  have hrecycled := recycleReserves_spec c dev.cuList tmpSum hs.consistent
  refine h.set (by rfl) hrecycled.length_eq.symm (le_refl 0) (fun hD => ?_) change
  have hidle : ∀ cu ∈ (DeviceData.recycleReserves c dev.cuList tmpSum).1,
      cu.totalUsedLoadUnified = 0 :=
    forall₂_forall hrecycled fun cu hcu cu' hrec =>
      hrec.idle (hs.consistent cu hcu) (hfree hD cu hcu)
  exact (usedLoad_const hidle).trans (mul_zero _)

/-- Every act keeps the record of a device right. -/
theorem Act.recorded (h : Act D dev dev') (hs : dev.Sound D) (hr : dev.Recorded D) :
    dev'.Recorded D := by
  cases h with
  | touch hc hload hreg => exact (hr.register hreg).drop _
  | @grab dev₁ prop svc cuId policyInfo chanId cu cu' preCu hsent hsvc hreg hcu halloc =>
      have hcons := hs.consistent cu (List.mem_of_getElem? hcu)
      obtain ⟨idx, hallocated⟩ := CuData.allocated_of_allocChan hcons halloc
      have hframe := (allocClientFromDev_spec hreg).frame
      have hcu₁ : dev₁.cuList[cuId]? = some cu := by rw [hframe]; exact hcu
      exact (hr.register hreg).grant hsent hcons hcu₁ hallocated
  | leak _ _ _ hreg => exact hr.register hreg
  | @steal prop svc cuId policyInfo chanId cu cu' preCu _ hsent hsvc hcu halloc =>
      have hcons := hs.consistent cu (List.mem_of_getElem? hcu)
      obtain ⟨idx, hallocated⟩ := CuData.allocated_of_allocChan hcons halloc
      exact hr.grant hsent hcons hcu hallocated
  | @overRelease c _ _ => exact hr.drop c
  | takeAll _ hload _ _ hidle => exact hr.takeAll hidle
  | release hload hcu hres => exact hr.release hs hcu hres
  | recycleReserves hc tmpSum change hmeter => exact hr.recycleReserves hs hmeter tmpSum change
  | recycleHolder hc hload _ _ => exact (hr.left hs hc).congr rfl rfl rfl
  | recycleEntry hc hload _ _ _ => exact (hr.left hs hc).congr rfl rfl rfl
  | clear _ hcus hcleared _ _ =>
      exact ⟨by rw [hcus]; exact Nat.zero_le _, by simp [hcleared], by simp [hcleared],
        by simp [hcleared]⟩
  | load _ hnumber hcus _ _ _ _ hcurrent hrate =>
      have hzero := usedLoad_const fun cu hcu => (hcus cu hcu).totalUsed
      rw [mul_zero] at hzero
      refine ⟨hnumber.2, fun _ => hnumber.1, fun _ => ?_, fun _ _ => hcurrent.trans hzero.symm⟩
      rw [Rated, hrate, loadRate, hcurrent, zero_mul, Int.zero_tdiv]
      rfl
  | mark hcus hload _ _ hinfo => exact hr.congr hcus hinfo hload

/-! ## Pools -/

theorem relinquishCus_tracks (p : Nat) (cus : List CuData) (dev : DeviceData)
    (hcons : ∀ cu ∈ cus, cu.Consistent) :
    Tracks dev (relinquishCus p cus dev).1 (sumBy (·.totalUsedLoadUnified)
      (relinquishCus p cus dev).2.1 - sumBy (·.totalUsedLoadUnified) cus) := by
  induction cus generalizing dev with
  | nil => exact (Tracks.refl dev).congr rfl rfl (by simp [relinquishCus])
  | cons cu cus ih =>
      have hcons' : ∀ cu ∈ cus, cu.Consistent := fun cu hcu => hcons cu (by simp [hcu])
      rw [relinquishCus]
      cases hfind : (cu.reserves.take cu.numReserve).findIdx? (·.reservePoolId == p) with
      | none =>
          refine (ih dev hcons').congr rfl rfl ?_
          show _ = sumBy _ (cu :: (relinquishCus p cus dev).2.1) - _
          rw [sumBy_cons, sumBy_cons, add_sub_add_left_eq_sub]
      | some i =>
          by_cases hused : (cu.slot i).reserveUsedLoadUnified ≠ 0
          · simp only [if_pos hused, sub_self]
            exact .refl dev
          · have hzero : (cu.slot i).reserveUsedLoadUnified = 0 := by simpa using hused
            have hi : i < cu.slots.length := by
              rw [List.findIdx?_eq_some_iff_getElem] at hfind
              exact hfind.1
            have hremoved := CuData.giveBackSlot_spec (hcons cu (by simp)) hi hzero
            have htotal := hremoved.total
            rw [ReserveData.unused, hzero, sub_zero] at htotal
            have hstep := dev.tracks_updateDeviceLoad (-(cu.slot i).reserveLoadUnified)
            simp only [if_neg hused]
            refine (hstep.trans (ih _ hcons')).congr rfl rfl ?_
            show _ = sumBy _ (cu.giveBackSlot i :: (relinquishCus p cus _).2.1) - _
            rw [sumBy_cons, sumBy_cons, htotal]
            omega

theorem Recorded.relinquish (h : dev.Recorded D) (hcons : ∀ cu ∈ dev.cuList, cu.Consistent)
    (p : Nat) : (dev.relinquishDev p).1.Recorded D := by
  obtain ⟨hsteps, hloaded, -, -⟩ := relinquishDev_steps p hcons
  refine h.tracks ?_ hloaded hsteps.length_eq.symm
  rw [relinquishDev] at hsteps ⊢
  split
  · exact (Tracks.refl dev).congr rfl rfl (sub_self _).symm
  · rename_i hload
    rw [if_neg hload] at hsteps
    obtain ⟨hdev, -⟩ := relinquishCus_spec p dev.cuList dev
    have hnum : (relinquishCus p dev.cuList dev).2.1.length =
        (relinquishCus p dev.cuList dev).1.cuList.length := by
      rw [(sameButLoad_iff_fields hdev).1]
      exact hsteps.length_eq.symm
    exact (relinquishCus_tracks p dev.cuList dev hcons).congr rfl hnum rfl

/-- Every act on a pool keeps the record of a device right. -/
theorem PoolAct.recorded {p : Nat} (h : PoolAct p dev dev') (hs : dev.Sound D)
    (hr : dev.Recorded D) : dev'.Recorded D := by
  cases h with
  | charge hsent hpass hwanted =>
      rename_i prop wanted
      rw [reservePass, Option.map_eq_some_iff] at hpass
      obtain ⟨cus', hsearch, rfl⟩ := hpass
      obtain ⟨pre, cu, post, cu', hcus, rfl, -, -, hres⟩ := reserveSearch_spec hsearch
      have hreserved := CuData.reserveLoadFromCu_spec (hs.consistent cu (by simp [hcus])) hres
      have hnum : (dev.chargeReserve prop (pre ++ cu' :: post)).numCu = dev.numCu := by
        simp [numCu, chargeReserve, updateDeviceLoad, hcus]
      refine hr.tracks ((dev.tracks_updateDeviceLoad prop.requestLoadUnified).congr ?_ hnum ?_)
        rfl hnum
      · simp [chargeReserve, updateDeviceLoad, numCu, hcus]
      · have htotal := hreserved.total
        show _ = sumBy _ (pre ++ cu' :: post) - sumBy _ dev.cuList
        rw [hcus]
        simp only [sumBy_append, sumBy_cons]
        omega
  | reserveAll hp hc hidle =>
      rw [DeviceData.reserveAll]
      refine hr.set (by rfl) (by simp) ?_ (fun _ => ?_) 0
      · rw [maxChanLoad]
        omega
      · refine (usedLoad_const (l := maxChanLoad) fun cu hcu => ?_).trans (by simp [numCu])
        obtain ⟨cu₀, -, rfl⟩ := List.mem_map.mp hcu
        rfl
  | relinquish => exact hr.relinquish hs.consistent p
  | undo hundo =>
      rw [relinquishCuFromDev] at hundo
      split at hundo
      · simp at hundo
      split at hundo
      · simp at hundo
      split at hundo
      · simp at hundo
      split at hundo
      · simp at hundo
      · rename_i cuId cu i hfind
        rw [Except.ok.injEq] at hundo
        obtain ⟨j, hj, hcu, -, hi, -, -, hused⟩ := findUndo_spec hfind
        rw [zero_add] at hj
        subst hj
        have hcons := hs.consistent cu (List.mem_of_getElem? hcu)
        rw [← hcons.slot_eq hi] at hused
        have hremoved := CuData.giveBackSlot_spec hcons hi hused
        have htotal := hremoved.total
        rw [ReserveData.unused, hused, sub_zero] at htotal
        have hchange : (dev.setCu cuId (cu.giveBackSlot i)).usedLoad - dev.usedLoad = _ :=
          usedLoad_set hcu rfl
        subst hundo
        refine hr.tracks ((dev.tracks_updateDeviceLoad (-(cu.slot i).reserveLoadUnified)).congr
          ?_ ?_ ?_) rfl (by simp [updateDeviceLoad, setCu])
        · simp [updateDeviceLoad, setCu, numCu]
        · simp [numCu, updateDeviceLoad, setCu]
        · show _ = (dev.setCu cuId (cu.giveBackSlot i)).usedLoad - dev.usedLoad
          omega

end DeviceData

end Xrm
