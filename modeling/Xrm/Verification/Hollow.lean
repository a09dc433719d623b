import Xrm.Verification.Draining
import Xrm.Verification.Serving

/-! # Grants without a channel

An allocation by load comes back to the CU that it has remembered and does not look at what that CU
returns. It grants a channel there only if the CU runs out of room before it runs out of channels.
-/

namespace Xrm

open FixedTable Relation

variable {prop : CuProperty} {svc policyInfo : Nat}

namespace CuData

variable {cu cu' : CuData} {chanId : Nat} {idx : Option Nat}

/-! ## Room and channels -/

/-- The channels of the CU that are not in use. -/
def freeChannels (cu : CuData) : Nat := (maxKernelChannels - cu.numChanInuse).toNat

/-- A CU whose channels come to their end before its room does, and to which an allocation by load
may then still come back. -/
def Hollow (cu : CuData) (prop : CuProperty) (policyInfo : Nat) : Prop :=
  ∃ share ∈ cu.activeShare prop,
    (∀ n ≤ cu.freeChannels, prop.drawn (prop.drawn^[n] share.1) ≤ share.2) ∧
      LooksFurther prop policyInfo (prop.drawn^[cu.freeChannels] share.1, share.2)

instance (cu : CuData) (prop : CuProperty) (policyInfo : Nat) :
    Decidable (cu.Hollow prop policyInfo) := by
  unfold Hollow
  infer_instance

/-- The channel is drawn from the share of the request. -/
theorem Admits.activeShare_assignChannel (h : cu.Admits prop idx) {share : Int × Int}
    (hshare : cu.activeShare prop = some share) :
    (cu.assignChannel prop svc idx chanId).activeShare prop =
      some (prop.drawn share.1, share.2) := by
  cases idx with
  | none =>
      rw [CuData.activeShare, if_pos h.1, Option.some.injEq] at hshare
      rw [CuData.activeShare, if_pos h.1, (assignChannel_none ..).2, ← hshare]
      rfl
  | some i =>
      obtain ⟨hfind, hactive, -⟩ := h
      obtain ⟨hp, hi, -⟩ := isReservePoolUsingCu_eq_some hfind
      rw [CuData.activeShare, if_neg hp, hfind, Option.bind_some, if_pos hactive,
        Option.some.injEq] at hshare
      have hslots : (cu.assignChannel prop svc (some i) chanId).slots =
          cu.slots.modify i (ReserveData.draw prop.requestLoadUnified) := by
        rw [slots, slots, (assignChannel_some ..).1, assignChannel_numReserve, List.take_modify]
      have hfind' : (cu.assignChannel prop svc (some i) chanId).isReservePoolUsingCu prop.poolId =
          some i := by
        rw [isReservePoolUsingCu_eq_findIdx? cu hp, List.findIdx?_eq_some_iff_getElem] at hfind
        obtain ⟨_, hfound, hbefore⟩ := hfind
        rw [isReservePoolUsingCu_eq_findIdx? _ hp, hslots, List.findIdx?_eq_some_iff_getElem]
        refine ⟨by simpa using hi, ?_, fun j hj => ?_⟩
        · rw [List.getElem_modify, if_pos rfl]
          exact hfound
        · rw [List.getElem_modify, if_neg (by omega)]
          exact hbefore j hj
      have hlt : i < cu.reserves.length := by
        rw [slots, List.length_take] at hi
        omega
      have hslot : (cu.assignChannel prop svc (some i) chanId).slot i =
          (cu.slot i).draw prop.requestLoadUnified := by
        simp [slot, (assignChannel_some ..).1, List.getD_eq_getElem?_getD,
          List.getElem?_eq_getElem hlt]
      rw [CuData.activeShare, if_neg hp, hfind', Option.bind_some, hslot, ← hshare]
      exact if_pos hactive

/-- A channel that is taken leaves a CU hollow, or not. -/
theorem hollow_assignChannel_iff (hadmits : cu.Admits prop idx)
    (hroom : cu.numChanInuse < maxKernelChannels) :
    (cu.assignChannel prop svc idx chanId).Hollow prop policyInfo ↔ cu.Hollow prop policyInfo := by
  have hfree : cu.freeChannels = (cu.assignChannel prop svc idx chanId).freeChannels + 1 := by
    rw [freeChannels, freeChannels, assignChannel_numChanInuse]
    omega
  constructor
  · rintro ⟨share', hshare', hless, hfurther⟩
    obtain ⟨share, hshare, hfits⟩ := hadmits.activeShare
    rw [hadmits.activeShare_assignChannel hshare, Option.mem_some_iff] at hshare'
    subst hshare'
    refine ⟨share, hshare, fun n hn => ?_, ?_⟩
    · cases n with
      | zero => exact hfits
      | succ n => exact hless n (by omega)
    · rw [hfree]
      exact hfurther
  · rintro ⟨share, hshare, hless, hfurther⟩
    rw [hfree] at hfurther
    exact ⟨_, hadmits.activeShare_assignChannel hshare, fun n hn => hless (n + 1) (by omega),
      hfurther⟩

theorem room_of_takeChannel (h : cu.takeChannel prop svc idx = .allocated cu' chanId) :
    cu.numChanInuse < maxKernelChannels := by
  rw [takeChannel] at h
  split at h
  · rename_i hzero
    rw [hzero]
    decide
  split at h
  · assumption
  · simp at h

/-- A CU whose channels are counted has a free one where the count says so. -/
theorem Tallied.takes (h : cu.Tallied) (hroom : cu.numChanInuse < maxKernelChannels)
    (prop : CuProperty) (svc : Nat) (idx : Option Nat) :
    ∃ cu' chanId, cu.takeChannel prop svc idx = .allocated cu' chanId := by
  rw [CuData.takeChannel]
  split
  · exact ⟨_, _, rfl⟩
  cases hfind : cu.cuFindFreeChannelId with
  | some chanId => exact ⟨_, _, rfl⟩
  | none =>
      rw [cuFindFreeChannelId, if_neg (by omega), List.findIdx?_eq_none_iff] at hfind
      have hall : sumBy carries cu.channels = sumBy (fun _ => 1) cu.channels :=
        sumBy_congr fun chan hchan => by
          rw [carries, if_pos (by simpa using hfind chan hchan)]
      have hone : sumBy (fun _ : ChannelData => (1 : Int)) cu.channels = cu.channels.length := by
        simp [sumBy]
      rw [h.inUse, hall, hone, h.length] at hroom
      omega

/-- A CU that is compared with the others gives a channel unless it is hollow. -/
theorem gives_of_not_hollow (h : ¬cu.Hollow prop policyInfo) (htallied : cu.Tallied)
    {preCu : Option CuData} {b : Bool}
    (hfurther : cu.allocChanClientFromCu prop svc policyInfo preCu = .furtherCheck b) :
    cu.Gives prop svc := by
  obtain ⟨hpos, ⟨idx, hadmits⟩, share, hshare, hlooks⟩ := furtherCheck_spec hfurther
  have hroom : cu.numChanInuse < maxKernelChannels := by
    by_contra hfull
    have hfree : cu.freeChannels = 0 := by
      rw [freeChannels]
      omega
    obtain ⟨share', hshare', hfits⟩ := hadmits.activeShare
    rw [hshare, Option.some.injEq] at hshare'
    subst hshare'
    refine h ⟨share, hshare, fun n hn => ?_, ?_⟩
    · obtain rfl : n = 0 := by omega
      exact hfits
    · rw [hfree]
      exact hlooks
  obtain ⟨cu', chanId, htake⟩ := htallied.takes hroom prop svc idx
  exact ⟨cu', chanId, (alloc_of_admits hpos hadmits).trans htake⟩

theorem Tallied.matchesCu_allocated (htallied : cu.Tallied) {preCu : Option CuData}
    (halloc : cu.allocChanClientFromCu prop svc policyInfo preCu = .allocated cu' chanId)
    (prop' : CuProperty) : cu'.matchesCu prop' = cu.matchesCu prop' := by
  obtain ⟨-, idx, -, htake⟩ := allocChan_spec halloc
  have hinfo : cu'.toCuInfo = cu.toCuInfo := by
    rw [(htallied.takeChannel htake).1]
    exact assignChannel_toCuInfo ..
  rw [matchesCu, matchesCu, hinfo]

theorem hollow_allocated_iff {policyInfo' : Nat} {preCu : Option CuData} (htallied : cu.Tallied)
    (halloc : cu.allocChanClientFromCu prop svc policyInfo' preCu = .allocated cu' chanId) :
    cu'.Hollow prop policyInfo ↔ cu.Hollow prop policyInfo := by
  obtain ⟨-, idx, hadmits, htake⟩ := allocChan_spec halloc
  obtain ⟨rfl, -⟩ := htallied.takeChannel htake
  exact hollow_assignChannel_iff hadmits (room_of_takeChannel htake)

end CuData

/-! ## Devices -/

/-- No CU that matches is hollow. -/
def DeviceData.NoneHollow (propV2 : CuPropertyV2) (dev : DeviceData) : Prop :=
  ∀ cu ∈ dev.cuList, cu.matchesCu (cuPropertyCopyFromV2 propV2) = true →
    ¬cu.Hollow (cuPropertyCopyFromV2 propV2) propV2.policyInfo

/-- The client can be registered on the device. -/
def DeviceData.Takes (prop : CuProperty) (dev : DeviceData) : Prop :=
  ∃ dev₁, dev.allocClientFromDev prop = .ok dev₁

/-- The allocation may look for a CU on device `devId`. -/
def CuPropertyV2.Tries (propV2 : CuPropertyV2) (devId : Nat) : Prop :=
  0 < propV2.requestLoadUnified ∧
    (propV2.constraintType = constraintNull ∧
        ¬(propV2.kernelName = "" ∧ propV2.kernelAlias = "" ∧ propV2.cuName = "") ∨
      propV2.constraintType = constraintHardwareDeviceIndex ∧
        (cuPropertyCopyFromV2 propV2).unnamed = false ∧ i32 propV2.deviceIndex = devId)

namespace System

variable {s s' s₁ : System} {propV2 : CuPropertyV2}

/-- No CU that the allocation may come to is hollow. -/
def NoneHollow (propV2 : CuPropertyV2) (s : System) : Prop :=
  ∀ i dev, s.devList[i]? = some dev → propV2.Tries i →
    dev.Takes (cuPropertyCopyFromV2 propV2) → dev.NoneHollow propV2

/-- The channels that are not in use. -/
def free (s : System) : Int := s.total fun cu => maxKernelChannels - cu.numChanInuse

structure Supplies (propV2 : CuPropertyV2) (s : System) : Prop where
  tallied : ∀ dev ∈ s.devList, ∀ cu ∈ dev.cuList, cu.Tallied
  solid : s.NoneHollow propV2

theorem Supplies.free_nonneg (h : s.Supplies propV2) : 0 ≤ s.free :=
  sumBy_nonneg fun dev hdev => sumBy_nonneg fun cu hcu => by
    have := (h.tallied dev hdev cu hcu).le
    omega

/-- A device on which the client can be registered is put back with the same CUs. -/
theorem Supplies.touch (h : s.Supplies propV2) {i : Nat} {dev dev' : DeviceData}
    (hdev : s.devList[i]? = some dev) (htakes : dev.Takes (cuPropertyCopyFromV2 propV2))
    (hcus : dev'.cuList = dev.cuList) :
    (s.setDev i dev').Supplies propV2 ∧ (s.setDev i dev').free = s.free := by
  refine ⟨⟨fun x hx => ?_, fun j x hx htries _ => ?_⟩, ?_⟩
  · rcases List.mem_or_eq_of_mem_set hx with hx | rfl
    · exact h.tallied x hx
    · rw [hcus]
      exact h.tallied dev (List.mem_of_getElem? hdev)
  · by_cases hij : i = j
    · subst hij
      rw [getElem?_setDev_self hdev, Option.some.injEq] at hx
      rw [← hx, DeviceData.NoneHollow, hcus]
      exact h.solid i dev hdev htries htakes
    · rw [getElem?_setDev_ne hij] at hx
      exact h.solid j x hx htries ‹_›
  · rw [free, total_setDev _ hdev, hcus]
    exact sub_add_cancel _ _

/-- A channel of a CU is taken. -/
theorem Supplies.take (h : s.Supplies propV2) {i j chanId : Nat} {dev dev' : DeviceData}
    {cu cu' : CuData} {preCu : Option CuData} (hdev : s.devList[i]? = some dev)
    (hsolid : propV2.Tries i → dev.NoneHollow propV2)
    (hcu : dev.cuList[j]? = some cu)
    (halloc : cu.allocChanClientFromCu (cuPropertyCopyFromV2 propV2) svc policyInfo preCu =
      .allocated cu' chanId)
    (hcus : dev'.cuList = dev.cuList.set j cu') :
    (s.setDev i dev').Supplies propV2 ∧ (s.setDev i dev').free + 1 = s.free := by
  have hmem := List.mem_of_getElem? hcu
  have hcounts := h.tallied dev (List.mem_of_getElem? hdev)
  obtain ⟨htallied, hnum⟩ := (hcounts cu hmem).allocated halloc
  have hnames := (hcounts cu hmem).matchesCu_allocated halloc (cuPropertyCopyFromV2 propV2)
  refine ⟨⟨fun x hx => ?_, fun k x hx htries htakes => ?_⟩, ?_⟩
  · rcases List.mem_or_eq_of_mem_set hx with hx | rfl
    · exact h.tallied x hx
    · intro y hy
      rw [hcus] at hy
      rcases List.mem_or_eq_of_mem_set hy with hy | rfl
      · exact hcounts y hy
      · exact htallied
  · by_cases hik : i = k
    · subst hik
      rw [getElem?_setDev_self hdev, Option.some.injEq] at hx
      rw [← hx, DeviceData.NoneHollow, hcus]
      intro y hy hmatch
      rcases List.mem_or_eq_of_mem_set hy with hy | rfl
      · exact hsolid htries y hy hmatch
      · rw [CuData.hollow_allocated_iff (hcounts cu hmem) halloc]
        exact hsolid htries cu hmem (hnames ▸ hmatch)
    · rw [getElem?_setDev_ne hik] at hx
      exact h.solid k x hx htries htakes
  · rw [free, free, total_setCu _ hdev hcu hcus, hnum]
    omega

theorem Supplies.of_devs (h : s.Supplies propV2) (hdevs : s'.devList = s.devList) :
    s'.Supplies propV2 ∧ s'.free = s.free := by
  refine ⟨⟨by rw [hdevs]; exact h.tallied, ?_⟩, by rw [free, total, hdevs]; rfl⟩
  rw [NoneHollow, hdevs]
  exact h.solid

theorem Touched.supplies (h : Touched (cuPropertyCopyFromV2 propV2) s s')
    (hs : s.Supplies propV2) : s'.Supplies propV2 ∧ s'.free = s.free := by
  induction h with
  | refl => exact ⟨hs, rfl⟩
  | tail _ hstep ih =>
      obtain ⟨i, dev, dev', hdev, htouch, rfl⟩ := hstep
      obtain ⟨-, dev₁, hreg, -⟩ := id htouch
      obtain ⟨hs', hfree⟩ := ih.1.touch hdev ⟨dev₁, hreg⟩ htouch.cuList
      exact ⟨hs', hfree.trans ih.2⟩

/-- An allocation that takes a channel when it succeeds, and leaves no CU hollow. -/
def Consumes (propV2 : CuPropertyV2) (s : System) (r : System × Except XrmError CuResource) :
    Prop :=
  ∀ res, r.2 = .ok res → r.1.Supplies propV2 ∧ r.1.free + 1 = s.free

theorem Attempt.supplies {res : CuResource} (hs : s.Supplies propV2)
    (h : Attempt (cuPropertyCopyFromV2 propV2) svc s s' (some res)) :
    s'.Supplies propV2 ∧ s'.free + 1 = s.free := by
  cases h with
  | acquired htouch hdev hgrab =>
      obtain ⟨hs₁, hfree⟩ := htouch.supplies hs
      obtain ⟨dev₁, policyInfo, cuId, cu', chanId, hreg, ⟨cu, pre, hcu, -, halloc⟩, rfl, -⟩ := hgrab
      obtain ⟨info, hgrant⟩ := dev₁.grant_frame (cuPropertyCopyFromV2 propV2) cuId cu'
      rw [← hfree]
      refine hs₁.take hdev (fun htries => hs₁.solid _ _ hdev htries ⟨dev₁, hreg⟩) hcu halloc ?_
      rw [hgrant, ← DeviceData.registered_cuList hreg]
      rfl

theorem finishAlloc_consumes {r : System} {res : CuResource}
    (h : r.Supplies propV2 ∧ r.free + 1 = s.free) (updateId : Bool) :
    Consumes propV2 s (r.finishAlloc updateId res) := by
  intro res' _
  have hsame : (r.finishAlloc updateId res).1.devList = r.devList := by
    rw [finishAlloc]
    split <;> rfl
  obtain ⟨hs, hfree⟩ := h.1.of_devs hsame
  exact ⟨hs, by rw [hfree]; exact h.2⟩

/-- The allocation on a remembered CU. -/
theorem Supplies.allocPreCu (h : s.Supplies propV2) {i : Nat} {dev dev₀ : DeviceData} {q : PreCu}
    (hdev : s.devList[i]? = some dev₀) (hcus : dev.cuList = dev₀.cuList)
    (hsolid : propV2.Tries i → dev₀.NoneHollow propV2)
    (htries : propV2.Tries i)
    (hq : Remembered (cuPropertyCopyFromV2 propV2) svc propV2.policyInfo i dev₀.cuList q) :
    (s.setDev i (dev.allocPreCu i (cuPropertyCopyFromV2 propV2) svc q.cuId).1).Supplies propV2 ∧
      (s.setDev i (dev.allocPreCu i (cuPropertyCopyFromV2 propV2) svc q.cuId).1).free + 1 =
        s.free := by
  obtain ⟨pre, b, hfurther⟩ := hq.further
  have hmem := List.mem_of_getElem? hq.mem
  have hgives := CuData.gives_of_not_hollow (hsolid htries q.cu hmem hq.names)
    (h.tallied dev₀ (List.mem_of_getElem? hdev) q.cu hmem) hfurther
  rcases dev.allocPreCu_cases i (cuPropertyCopyFromV2 propV2) svc q.cuId with
    ⟨-, hno⟩ | ⟨cu, cu', chanId, hcu, halloc, heq⟩
  · exact absurd hgives (hno q.cu (by rw [hcus]; exact hq.mem))
  · rw [heq]
    rw [hcus] at hcu
    obtain ⟨info, hgrant⟩ := dev.grant_frame (cuPropertyCopyFromV2 propV2) q.cuId cu'
    refine h.take hdev hsolid hcu halloc ?_
    rw [hgrant, ← hcus]
    rfl

/-! ## The allocations by load -/

/-- What a pass remembers is on a device on which the client could be registered. -/
theorem allocPass_remembered {prop : CuProperty} {devWanted : DeviceData → Bool}
    {wanted : CuData → Bool} {devIds : List Nat} {preCu : Option PreCu} {q : PreCu}
    (h : allocPass prop policyInfo devWanted wanted devIds s preCu = (s', .missed (some q))) :
    preCu = some q ∨ ∃ dev, s.devList[q.devId]? = some dev ∧ dev.Takes prop ∧
      Remembered prop s.getNextAllocServiceId policyInfo q.devId dev.cuList q := by
  induction devIds generalizing s preCu with
  | nil =>
      rw [allocPass, Prod.mk.injEq] at h
      exact .inl (by simpa using h.2)
  | cons devId devIds ih =>
      rw [allocPass] at h
      split at h
      · exact ih h
      rename_i dev hdev
      split at h
      · rename_i hwanted
        rw [Bool.and_eq_true] at hwanted
        have hload := DeviceData.isLoaded_of_isFreeForClient hwanted.1
        split at h
        · simp at h
        rename_i dev' preCu' htry
        rcases ih h with hpre | ⟨dev₂, hdev₂, htakes, hq⟩
        · rw [DeviceData.tryDevice] at htry
          split at htry
          · rw [Prod.mk.injEq] at htry
            refine .inl ?_
            rw [← hpre]
            simpa using htry.2
          rename_i dev₁ hreg
          cases hsearch : searchCu prop s.getNextAllocServiceId policyInfo wanted devId 0
              dev₁.cuList preCu with
          | acquired cuId cu chanId => simp [hsearch, DeviceData.settle] at htry
          | missed found =>
              rw [hsearch, DeviceData.settle, Prod.mk.injEq, PassResult.missed.injEq, hpre] at htry
              rw [htry.2] at hsearch
              refine (remembered_of_searchCu hsearch).imp_right fun hq => ?_
              rw [DeviceData.registered_cuList hreg] at hq
              have hat := hq.devId
              exact ⟨dev, hat ▸ hdev, ⟨dev₁, hreg⟩, hat ▸ hq⟩
        · refine .inr ?_
          have hcases := @DeviceData.tryDevice_cases prop s.getNextAllocServiceId policyInfo devId
            wanted dev preCu hload
          rw [htry] at hcases
          by_cases hsame : devId = q.devId
          · subst hsame
            rw [getElem?_setDev_self hdev, Option.some.injEq] at hdev₂
            subst hdev₂
            rcases hcases with ⟨res, hres, -⟩ | ⟨-, -, htouch | heq⟩
            · simp at hres
            · obtain ⟨-, dev₁, hreg, -⟩ := id htouch
              rw [htouch.cuList] at hq
              exact ⟨dev, hdev, ⟨dev₁, hreg⟩, hq⟩
            · simp only at heq
              exact ⟨dev, hdev, heq ▸ htakes, heq ▸ hq⟩
          · rw [getElem?_setDev_ne hsame] at hdev₂
            exact ⟨dev₂, hdev₂, htakes, hq⟩
      · exact ih h

/-- What the two passes remember is on a device where the client could be registered in between. -/
theorem allocTwice_remembered {prop : CuProperty} {q : PreCu}
    (h : s.allocTwice prop policyInfo = (s', .missed (some q))) :
    ∃ s₁ dev, Touched prop s s₁ ∧ Touched prop s₁ s' ∧ s₁.devList[q.devId]? = some dev ∧
      dev.Takes prop ∧
        Remembered prop s.getNextAllocServiceId policyInfo q.devId dev.cuList q := by
  have hfirst := allocPass_attempt prop policyInfo anyDevice inUse (List.range s.numDevice) s none
  rw [allocTwice] at h
  split at h
  · simp at h
  rename_i s₁ preCu heq
  rw [heq] at hfirst
  have hsecond := allocPass_attempt prop policyInfo anyDevice unused (List.range s₁.numDevice) s₁
    preCu
  rw [h] at hsecond
  rcases allocPass_remembered h with hpre | ⟨dev, hdev, htakes, hq⟩
  · rw [hpre] at heq
    obtain ⟨dev, hdev, htakes, hq⟩ := (allocPass_remembered heq).resolve_left (by simp)
    exact ⟨s, dev, .refl, hfirst.touched.trans hsecond.touched, hdev, htakes, hq⟩
  · rw [hfirst.touched.nextId] at hq
    exact ⟨s₁, dev, hfirst.touched, hsecond.touched, hdev, htakes, hq⟩

theorem resAllocCuByCuLoad_consumes (hs : s.Supplies propV2)
    (htries : ∀ {i : Nat}, 0 < propV2.requestLoadUnified → propV2.Tries i) (updateId : Bool) :
    Consumes propV2 s (s.resAllocCuByCuLoad propV2 updateId) := by
  have htwice := s.allocTwice_attempt (cuPropertyCopyFromV2 propV2) propV2.policyInfo
  rw [resAllocCuByCuLoad]
  simp only
  split
  · rename_i heq
    rw [heq] at htwice
    exact finishAlloc_consumes (htwice.supplies hs) updateId
  · exact fun _ h => by simp at h
  · rename_i s₁ q heq
    obtain ⟨s₂, dev₂, hbefore, hafter, hdev₂, htakes, hq⟩ := allocTwice_remembered heq
    obtain ⟨dev, hdev, hcus, -⟩ := hafter.device hdev₂
    rw [heq] at htwice
    obtain ⟨hs₁, hfree⟩ := htwice.touched.supplies hs
    rw [hdev]
    simp only
    obtain ⟨pre, b, hfurther⟩ := hq.further
    have hpos := (CuData.furtherCheck_spec hfurther).1
    have hsolid : propV2.Tries q.devId → dev.NoneHollow propV2 := by
      intro htries
      rw [DeviceData.NoneHollow, hcus]
      exact (hbefore.supplies hs).1.solid q.devId dev₂ hdev₂ htries htakes
    rw [← htwice.touched.nextId, ← hcus] at hq
    refine finishAlloc_consumes ?_ updateId
    rw [← hfree]
    exact hs₁.allocPreCu hdev rfl hsolid (htries hpos) hq

theorem resAllocCuFromDevByCuLoad_consumes (hs : s.Supplies propV2) {deviceId : Int}
    (htries : ∀ {i : Nat}, 0 < propV2.requestLoadUnified →
      (cuPropertyCopyFromV2 propV2).unnamed = false → deviceId = i → propV2.Tries i)
    (updateId : Bool) :
    Consumes propV2 s (s.resAllocCuFromDevByCuLoad deviceId propV2 updateId) := by
  rw [resAllocCuFromDevByCuLoad]
  simp only
  split
  · exact fun _ h => by simp at h
  · rename_i devId dev₁ hregOn
    obtain ⟨hnamed, dev, hdev, hload, hreg⟩ := registerOn_spec hregOn
    have hindex := (registerOn_devId hregOn).symm
    split
    · rename_i q hsearch
      have hq := remembered_of_searchCuTwice hsearch
      obtain ⟨pre, b, hfurther⟩ := hq.further
      have hpos := (CuData.furtherCheck_spec hfurther).1
      have hdevice := htries hpos hnamed hindex
      rw [DeviceData.registered_cuList hreg] at hq
      exact finishAlloc_consumes (hs.allocPreCu hdev (DeviceData.registered_cuList hreg)
        (fun htries => hs.solid devId dev hdev htries ⟨dev₁, hreg⟩) hdevice hq) updateId
    · have hsettle := attempt_of_settle s.getNextAllocServiceId hdev hload hreg
        fun cuId cu' chanId => acquired_of_searchCuTwice propV2.policyInfo devId
      split
      · rename_i heq
        rw [heq] at hsettle
        exact finishAlloc_consumes (hsettle.supplies hs) updateId
      · exact fun _ h => by simp at h

theorem allocByDevLoad_consumes (hs : s.Supplies propV2)
    (htries : ∀ {i : Nat}, 0 < propV2.requestLoadUnified → propV2.Tries i) (updateId : Bool)
    (devIds : List Nat) :
    Consumes propV2 s
      (allocByDevLoad (cuPropertyCopyFromV2 propV2) propV2.policyInfo updateId devIds s) := by
  induction devIds generalizing s with
  | nil => exact fun _ h => by simp [allocByDevLoad] at h
  | cons devId devIds ih =>
      rw [allocByDevLoad]
      split
      · exact ih hs
      rename_i dev hdev
      split
      · exact ih hs
      rename_i dev₁ hreg
      have hcus := DeviceData.registered_cuList hreg
      simp only
      split
      · rename_i q hsearch
        have hq := (remembered_of_searchCu hsearch).resolve_left (by simp)
        obtain ⟨pre, b, hfurther⟩ := hq.further
        have hpos := (CuData.furtherCheck_spec hfurther).1
        rw [hcus] at hq
        exact finishAlloc_consumes (hs.allocPreCu hdev hcus
          (fun htries => hs.solid devId dev hdev htries ⟨dev₁, hreg⟩) (htries hpos) hq) updateId
      · rename_i search hsearch
        cases hcase : searchCu (cuPropertyCopyFromV2 propV2) s.getNextAllocServiceId
            propV2.policyInfo (fun _ => true) devId 0 dev₁.cuList none with
        | acquired cuId cu' chanId =>
            obtain ⟨cu, pre, hcu, -, halloc⟩ := (acquired_of_searchCu hcase).found
            rw [hcus] at hcu
            obtain ⟨info, hgrant⟩ := dev₁.grant_frame (cuPropertyCopyFromV2 propV2) cuId cu'
            refine finishAlloc_consumes (hs.take hdev
              (fun htries => hs.solid devId dev hdev htries ⟨dev₁, hreg⟩) hcu halloc ?_) updateId
            rw [hgrant, ← hcus]
            rfl
        | missed q =>
            cases q with
            | some q => exact absurd hcase (hsearch q)
            | none =>
                obtain ⟨hs', hfree⟩ := hs.touch hdev ⟨dev₁, hreg⟩
                  ((dev₁.dropClient_cuList (cuPropertyCopyFromV2 propV2).clientId).trans hcus)
                have hrest := ih hs'
                rw [Consumes, hfree] at hrest
                exact hrest

/-- The allocation of the second version takes a channel when it succeeds. -/
theorem resAllocCuV2_consumes (hs : s.Supplies propV2) (updateId : Bool) :
    Consumes propV2 s (s.resAllocCuV2 propV2 updateId) := by
  rw [resAllocCuV2]
  split
  · exact fun _ h => by simp at h
  rename_i hnamed
  have htries : propV2.constraintType = constraintNull →
      ∀ {i : Nat}, 0 < propV2.requestLoadUnified → propV2.Tries i := fun hnull _ hpos =>
    ⟨hpos, .inl ⟨hnull, by simpa [and_assoc] using hnamed⟩⟩
  split
  · rename_i hnull
    split
    · exact allocByDevLoad_consumes hs (htries hnull) updateId _
    split
    · exact resAllocCuByCuLoad_consumes hs (htries hnull) updateId
    · have hone := s.resAllocCu_allocates (cuPropertyCopyFromV2 propV2) updateId
      generalize s.resAllocCu (cuPropertyCopyFromV2 propV2) updateId = r at hone
      cases hone with
      | failed _ => exact fun _ h => by simp at h
      | granted _ h => exact finishAlloc_consumes (h.supplies hs) updateId
  split
  · rename_i hcon
    exact resAllocCuFromDevByCuLoad_consumes hs
      (fun hpos hnamed hindex => ⟨hpos, .inr ⟨hcon, hnamed, hindex⟩⟩) updateId
  · exact fun _ h => by simp at h

end System

end Xrm
