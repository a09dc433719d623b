import Xrm.Verification.FirstFit
import Xrm.Verification.Loans

/-! # What a successful allocation has recorded

The channel that a result names was free, now carries the request, and is the only one that
changed. The allocations by load break this when they come back to a CU without a free channel.
-/

namespace Xrm

open Choice Relation

variable {prop : CuProperty} {propV2 : CuPropertyV2} {svc policyInfo devId : Nat}

/-! ## Granted channels -/

namespace System

variable {D : Discipline} {s s' s₁ : System} {res : CuResource}

/-- The live channel at a place. -/
def liveAt (s : System) (place : Nat × Nat × Nat) : Option ChannelData :=
  (s.channelAt place).filter (·.channelLoadUnified != 0)

/-- The result names exactly one channel, which was free and carries the request now, on a CU
that matches; no other channel changed. `look` says what is seen of the channels. -/
structure Grants (look : System → Nat × Nat × Nat → Option ChannelData) (s s' : System)
    (prop : CuProperty) (res : CuResource) : Prop where
  nonneg : 0 ≤ res.deviceId ∧ 0 ≤ res.cuId ∧ 0 ≤ res.channelId
  free : ∀ chan, look s res.place = some chan → chan.channelLoadUnified = 0
  taken : ∃ chan, look s' res.place = some chan ∧ chan.channelLoadUnified ≠ 0 ∧
    chan.clientId = prop.clientId ∧ chan.poolId = prop.poolId ∧
      chan.channelLoadUnified = prop.requestLoadUnified ∧
        chan.allocServiceId = res.allocServiceId
  names : ∃ dev cu, s'.devList[res.place.1]? = some dev ∧
    dev.cuList[res.place.2.1]? = some cu ∧ cu.matchesCu prop = true
  others : ∀ place, place ≠ res.place → look s' place = look s place

/-- No channel changed. -/
def SameChannels (s s' : System) : Prop := ∀ place, s'.channelAt place = s.channelAt place

theorem SameChannels.refl (s : System) : SameChannels s s := fun _ => rfl

theorem SameChannels.trans (h : SameChannels s s₁) (h' : SameChannels s₁ s') :
    SameChannels s s' := fun place => (h' place).trans (h place)

theorem sameChannels_setDev {i : Nat} {dev dev' : DeviceData} (hdev : s.devList[i]? = some dev)
    (hcus : dev'.cuList = dev.cuList) : SameChannels s (s.setDev i dev') := by
  rintro ⟨i', j, k⟩
  by_cases hi : i = i'
  · subst hi
    simp [channelAt, getElem?_setDev_self hdev dev', hdev, hcus]
  · simp [channelAt, getElem?_setDev_ne hi]

theorem Touched.sameChannels (h : Touched prop s s') : SameChannels s s' := by
  induction h with
  | refl => exact .refl s
  | tail _ hstep ih =>
      obtain ⟨i, dev, dev', hdev, htouch, rfl⟩ := hstep
      exact ih.trans (sameChannels_setDev hdev htouch.cuList)

theorem Grants.after (h : Grants channelAt s₁ s' prop res) (hsame : SameChannels s s₁) :
    Grants channelAt s s' prop res where
  nonneg := h.nonneg
  free := fun chan hchan => h.free chan (by rwa [hsame])
  taken := h.taken
  names := h.names
  others := fun place hne => by rw [h.others place hne, hsame]

/-- Where a result says that its channel is. -/
structure At (res : CuResource) (devId cuId chanId svc : Nat) : Prop where
  deviceId : res.deviceId = devId
  cuId : res.cuId = cuId
  channelId : res.channelId = chanId
  allocServiceId : res.allocServiceId = svc

/-- Taking a channel of a CU grants it. -/
theorem grants_of_allocated {i cuId chanId : Nat} {dev dev' : DeviceData}
    {cu cu' : CuData} {pre : Option CuData} (hdev : s.devList[i]? = some dev)
    (hcu : dev.cuList[cuId]? = some cu) (hcons : cu.Consistent)
    (hmatch : cu.matchesCu prop = true)
    (halloc : cu.allocChanClientFromCu prop svc policyInfo pre = .allocated cu' chanId)
    (hcus : dev'.cuList = dev.cuList.set cuId cu') (hat : At res i cuId chanId svc) :
    Grants channelAt s (s.setDev i dev') prop res := by
  obtain ⟨idx, hallocated⟩ := CuData.allocated_of_allocChan hcons halloc
  obtain ⟨hk, hfree⟩ := hallocated.free
  have hplace : res.place = (i, cuId, chanId) := by
    simp [CuResource.place, hat.deviceId, hat.cuId, hat.channelId]
  have hj : cuId < dev.cuList.length := (List.getElem?_eq_some_iff.mp hcu).1
  have hchans : cu'.channels = cu.channels.modify chanId (ChannelData.occupy prop svc) := by
    rw [hallocated.eq, CuData.assignChannel_channels]
  have hload : prop.requestLoadUnified ≠ 0 := by
    have := hallocated.pos
    omega
  refine ⟨by rw [hat.deviceId, hat.cuId, hat.channelId]; omega, ?_, ?_, ?_, ?_⟩
  · intro chan hchan
    rw [hplace, channelAt_eq hdev hcu, List.getElem?_eq_getElem hk, Option.some.injEq] at hchan
    rw [← hchan]
    exact hfree.load
  · refine ⟨cu.channels[chanId].occupy prop svc, ?_, hload, rfl, rfl, rfl,
      hat.allocServiceId.symm⟩
    rw [hplace, channelAt_setDev hdev hj hcus, if_pos ⟨rfl, rfl⟩, hchans]
    simp [hk]
  · rw [hplace]
    refine ⟨dev', cu', getElem?_setDev_self hdev dev', by simp [hcus, hj], ?_⟩
    rw [← hmatch, CuData.matchesCu, CuData.matchesCu, hallocated.kin.toCuInfo]
  · intro place hne
    rw [hplace] at hne
    refine channelAt_setDev_ne hdev hcu hcus (fun k hk => ?_) hne
    rw [hchans, List.getElem?_modify]
    simp [Ne.symm hk]

theorem grant_cuList (dev : DeviceData) (prop : CuProperty) (cuId : Nat) (cu : CuData) :
    (dev.grant prop cuId cu).cuList = dev.cuList.set cuId cu := by
  obtain ⟨info, h⟩ := dev.grant_frame prop cuId cu
  rw [h]
  rfl

/-- An attempt that took a channel grants it. -/
theorem Attempt.grants (h : Attempt prop svc s s' (some res)) (hsound : s.Sound D)
    (hc : prop.clientId ≠ 0) : Grants channelAt s s' prop res := by
  cases h with
  | acquired htouch hdev hgrab =>
      obtain ⟨dev₁, policyInfo, cuId, cu', chanId, hreg, ⟨cu, pre, hcu, hmatch, halloc⟩, rfl,
        rfl⟩ :=
        hgrab
      have hsound₁ : System.Sound D _ := (htouch.evolves hc).sound hsound
      have hcons := (hsound₁ _ (List.mem_of_getElem? hdev)).consistent cu
        (List.mem_of_getElem? hcu)
      refine (grants_of_allocated hdev hcu hcons hmatch halloc ?_ ⟨rfl, rfl, rfl, rfl⟩).after
        htouch.sameChannels
      rw [grant_cuList, DeviceData.registered_cuList hreg]

theorem Grants.finish (h : Grants channelAt s s' prop res) (updateId : Bool) :
    Grants channelAt s (s'.finishAlloc updateId res).1 prop res := by
  rw [finishAlloc]
  split
  · exact ⟨h.nonneg, h.free, h.taken, h.names, h.others⟩
  · exact h

theorem SameChannels.finish (h : SameChannels s s') (updateId : Bool) (res : CuResource) :
    SameChannels s (s'.finishAlloc updateId res).1 := by
  rw [finishAlloc]
  split
  · exact h
  · exact h

/-- A successful allocation that leaves no other trace grants a channel. -/
theorem Allocates.grants {updateId : Bool} {r : System × Except XrmError CuResource}
    (h : Allocates prop updateId s r) (hsound : s.Sound D) (hc : prop.clientId ≠ 0)
    (hres : r.2 = .ok res) : Grants channelAt s r.1 prop res := by
  cases h with
  | failed h => simp at hres
  | granted _ h =>
      simp only [finishAlloc, Except.ok.injEq] at hres
      subst hres
      exact (h.grants hsound hc).finish updateId

/-! ## The allocation on a remembered CU -/

/-- The CU stands at its place, perhaps with other contents. -/
def Stands (s : System) (q : PreCu) : Prop :=
  ∃ dev cu, s.devList[q.devId]? = some dev ∧ dev.cuList[q.cuId]? = some cu ∧
    cu.toCuInfo = q.cu.toCuInfo

theorem stands_of_set {dev dev' : DeviceData} {q : PreCu} {cu' : CuData}
    (hdev : s.devList[q.devId]? = some dev) (hget : dev.cuList[q.cuId]? = some q.cu)
    (hinfo : cu'.toCuInfo = q.cu.toCuInfo) (hcus : dev'.cuList = dev.cuList.set q.cuId cu') :
    (s.setDev q.devId dev').Stands q := by
  have hj := (List.getElem?_eq_some_iff.mp hget).1
  exact ⟨dev', cu', getElem?_setDev_self hdev dev', by simp [hcus, hj], hinfo⟩

theorem Stands.finish {q : PreCu} (h : s.Stands q) (updateId : Bool) (res : CuResource) :
    (s.finishAlloc updateId res).1.Stands q := by
  rw [finishAlloc]
  split
  · exact h
  · exact h

/-- What an allocation did that ends on a chosen CU: it granted a channel there if the CU has a
free one, and changed no channel otherwise. -/
inductive Delivers (prop : CuProperty) (s : System) :
    System × Except XrmError CuResource → Option PreCu → Prop where
  | refused {s' : System} {e : XrmError} (h : SameChannels s s') :
      Delivers prop s (s', .error e) none
  | granted {s' : System} {res : CuResource} {q : PreCu} (hdev : res.deviceId = q.devId)
      (hcu : res.cuId = q.cuId) (h : Grants channelAt s s' prop res) (hstands : s'.Stands q)
      (hchan : q.cu.HasChannel) : Delivers prop s (s', .ok res) (some q)
  | hollow {s' : System} {res : CuResource} {q : PreCu} (hdev : res.deviceId = q.devId)
      (hcu : res.cuId = q.cuId) (h : SameChannels s s') (hchan : ¬q.cu.HasChannel) :
      Delivers prop s (s', .ok res) (some q)

theorem Delivers.picks {r : System × Except XrmError CuResource} {o : Option PreCu}
    (h : Delivers prop s r o) : Picks r.2 o := by
  cases h with
  | refused => exact .error
  | granted hdev hcu => exact .ok hdev hcu
  | hollow hdev hcu => exact .ok hdev hcu

/-- A success is a granted channel exactly when the chosen CU had a free one. -/
theorem Delivers.grants_iff {r : System × Except XrmError CuResource} {o : Option PreCu}
    (h : Delivers prop s r o) : (∀ res, r.2 = .ok res → Grants channelAt s r.1 prop res) ↔
      ∀ q, o = some q → q.cu.HasChannel := by
  cases h with
  | refused h => simp
  | granted _ _ h _ hchan =>
      constructor
      · rintro - q' hq'
        rw [Option.some.injEq] at hq'
        rwa [← hq']
      · rintro - res' hres'
        simp only [Except.ok.injEq] at hres'
        rwa [← hres']
  | @hollow s' res q _ _ h hchan =>
      constructor
      · intro hgrants
        obtain ⟨-, hfree, ⟨chan, hchan', hne, -⟩, -, -⟩ := hgrants res rfl
        exact absurd (hfree chan (by rw [← h]; exact hchan')) hne
      · intro hall
        exact absurd (hall q rfl) hchan

theorem Delivers.after {r : System × Except XrmError CuResource} {o : Option PreCu}
    (h : Delivers prop s₁ r o) (hsame : SameChannels s s₁) : Delivers prop s r o := by
  cases h with
  | refused h => exact .refused (hsame.trans h)
  | granted hdev hcu h hstands hchan => exact .granted hdev hcu (h.after hsame) hstands hchan
  | hollow hdev hcu h hchan => exact .hollow hdev hcu (hsame.trans h) hchan

theorem delivers_finish (updateId : Bool) {q : PreCu} (hdev : res.deviceId = q.devId)
    (hcu : res.cuId = q.cuId) (h : Grants channelAt s s' prop res) (hstands : s'.Stands q)
    (hchan : q.cu.HasChannel) : Delivers prop s (s'.finishAlloc updateId res) (some q) :=
  .granted hdev hcu (h.finish updateId) (hstands.finish updateId res) hchan

/-- The deferred allocation on a CU with room. -/
theorem delivers_preCu (hs : prop.Sent) (updateId : Bool)
    {dev dev₁ : DeviceData} {q : PreCu} (hdev : s.devList[q.devId]? = some dev)
    (hcus : dev₁.cuList = dev.cuList) (hget : dev.cuList[q.cuId]? = some q.cu)
    (hcons : q.cu.Consistent) (hmatch : q.cu.matchesCu prop = true) (hfits : q.cu.Fits prop) :
    Delivers prop s
      ((s.setDev q.devId (dev₁.allocPreCu q.devId prop svc q.cuId).1).finishAlloc updateId
        (dev₁.allocPreCu q.devId prop svc q.cuId).2) (some q) := by
  rw [DeviceData.allocPreCu, hcus, hget]
  simp only
  by_cases hchan : q.cu.HasChannel
  · obtain ⟨cu', chanId, halloc⟩ := CuData.Settles.allocated
      (CuData.settles_null_iff.mpr ⟨hfits, hchan⟩) hcons hs.bounded svc none
    obtain ⟨idx, hallocated⟩ := CuData.allocated_of_allocChan hcons halloc
    have hset : (dev₁.grant prop q.cuId cu').cuList = dev.cuList.set q.cuId cu' := by
      rw [grant_cuList, hcus]
    rw [halloc]
    refine delivers_finish updateId rfl rfl ?_ ?_ hchan
    · exact grants_of_allocated hdev hget hcons hmatch halloc hset ⟨rfl, rfl, rfl, rfl⟩
    · exact stands_of_set hdev hget hallocated.kin.toCuInfo hset
  · rw [CuData.refused_of_not_settles (fun h => hchan h.hasChannel)
      (fun h => CuData.not_defers_null h.2) hcons hs.bounded svc none]
    exact .hollow rfl rfl ((sameChannels_setDev hdev hcus).finish updateId
      (dev₁.locate q.devId q.cuId CuResource.zero)) hchan

/-! ## The allocations by load -/

/-- The CU of an attempt stands where it stood. -/
theorem Attempt.stands {q : PreCu} (h : Attempt prop svc s s' (some res)) (hsound : s.Sound D)
    (hs : prop.Sent) (hasks : s.Asks prop q) (hdev : res.deviceId = q.devId)
    (hcu : res.cuId = q.cuId) : s'.Stands q := by
  obtain ⟨⟨dev₀, hdev₀, -, hget⟩, -⟩ := hasks
  cases h with
  | @acquired s₁ i dev dev' _ htouch hdev₁ hgrab =>
      obtain ⟨dev₁, policyInfo, cuId, cu', chanId, hreg, ⟨cu, pre, hcu', -, halloc⟩, rfl, rfl⟩ :=
        hgrab
      obtain rfl : i = q.devId := Int.ofNat.inj hdev
      obtain rfl : cuId = q.cuId := Int.ofNat.inj hcu
      obtain ⟨x, hx, hcus, -⟩ := htouch.device hdev₀
      rw [hdev₁, Option.some.injEq] at hx
      subst hx
      rw [hcus, hget, Option.some.injEq] at hcu'
      subst hcu'
      have hsound₁ : System.Sound D _ := (htouch.evolves hs.1).sound hsound
      have hcons := (hsound₁ _ (List.mem_of_getElem? hdev₁)).consistent q.cu
        (by rw [hcus]; exact List.mem_of_getElem? hget)
      obtain ⟨idx, hallocated⟩ := CuData.allocated_of_allocChan hcons halloc
      refine stands_of_set hdev₁ (by rw [hcus, hget]) hallocated.kin.toCuInfo ?_
      rw [grant_cuList, DeviceData.registered_cuList hreg]

/-- An attempt that follows a settled scan delivers on the CU of the scan. -/
theorem Attempt.delivers {q : PreCu} {l : List PreCu} {best : Option PreCu}
    (h : Attempt prop svc s s' (some res)) (hsound : s.Sound D) (hs : prop.Sent)
    (ho : choose prop policyInfo best l = .settled q) (hasks : s.Asks prop q)
    (hdev : res.deviceId = q.devId) (hcu : res.cuId = q.cuId) (updateId : Bool) :
    Delivers prop s (s'.finishAlloc updateId res) (some q) := by
  have hsettles : q.cu.Settles prop policyInfo := by
    simpa using List.find?_some (scan_settled_iff.mp ho)
  exact delivers_finish updateId hdev hcu (h.grants hsound hs.1) (h.stands hsound hs hasks hdev hcu)
    hsettles.hasChannel

theorem fits_of_remembered {q : PreCu} {l : List PreCu}
    (ho : choose prop policyInfo none l = .remembered (some q)) : q ∈ l ∧ q.cu.Fits prop := by
  obtain ⟨-, hkeep⟩ := scan_remembered_iff.mp ho
  obtain ⟨hmem, hspec⟩ := List.mem_filter.mp ((keep_mem hkeep).resolve_left (by simp))
  exact ⟨hmem, (of_decide_eq_true hspec).1⟩

theorem resAllocCuByCuLoad_delivers (hsound : s.Sound D) (hs : propV2.Sent) (updateId : Bool) :
    Delivers (cuPropertyCopyFromV2 propV2) s (s.resAllocCuByCuLoad propV2 updateId)
      (choose (cuPropertyCopyFromV2 propV2) propV2.policyInfo none
        (s.inTurn (cuPropertyCopyFromV2 propV2))).chosen := by
  have hs' : (cuPropertyCopyFromV2 propV2).Sent := hs
  have hfound := allocTwice_found hsound hs'.bounded propV2.policyInfo
  have hattempt := s.allocTwice_attempt (cuPropertyCopyFromV2 propV2) propV2.policyInfo
  rw [resAllocCuByCuLoad]
  simp only
  generalize ho : choose (cuPropertyCopyFromV2 propV2) propV2.policyInfo none
    (s.inTurn (cuPropertyCopyFromV2 propV2)) = o at hfound ⊢
  generalize s.allocTwice (cuPropertyCopyFromV2 propV2) propV2.policyInfo = r
    at hfound hattempt ⊢
  obtain ⟨s₁, r⟩ := r
  cases hfound with
  | acquired hdev hcu =>
      exact hattempt.delivers hsound hs' ho (mem_inTurn.mp (choose_settled_mem ho)) hdev hcu
        updateId
  | @missed best =>
      have htouch := hattempt.touched
      cases best with
      | none => exact .refused htouch.sameChannels
      | some q =>
          obtain ⟨hmem, hfits⟩ := fits_of_remembered ho
          obtain ⟨⟨dev, hdev, -, hget⟩, hmatch⟩ := mem_inTurn.mp hmem
          obtain ⟨dev', hdev', hcus, -⟩ := htouch.device hdev
          have hev : Develops D s s₁ := htouch.evolves hs'.1
          have hget' : dev'.cuList[q.cuId]? = some q.cu := by rw [hcus, hget]
          have hcons := (hev.sound hsound dev' (List.mem_of_getElem? hdev')).consistent _
            (List.mem_of_getElem? hget')
          simp only [hdev']
          exact (delivers_preCu hs' updateId hdev' rfl hget' hcons hmatch hfits).after
            htouch.sameChannels

theorem resAllocCuFromDevByCuLoad_delivers (hsound : s.Sound D) (hs : propV2.Sent)
    (updateId : Bool) {deviceId : Int} {dev dev₁ : DeviceData}
    (hdev : s.devList[devId]? = some dev) (hload : dev.isLoaded = true)
    (hreg : dev.allocClientFromDev (cuPropertyCopyFromV2 propV2) = .ok dev₁)
    (hregOn : s.registerOn deviceId (cuPropertyCopyFromV2 propV2) = .ok (devId, dev₁)) :
    Delivers (cuPropertyCopyFromV2 propV2) s
      (s.resAllocCuFromDevByCuLoad deviceId propV2 updateId)
      (choose (cuPropertyCopyFromV2 propV2) propV2.policyInfo none
        (inTurnOn (cuPropertyCopyFromV2 propV2) devId dev)).chosen := by
  have hs' : (cuPropertyCopyFromV2 propV2).Sent := hs
  have hcons := (hsound dev (List.mem_of_getElem? hdev)).consistent
  have hcus := DeviceData.registered_cuList hreg
  have hfound := @searchCuTwice_found _ s.getNextAllocServiceId propV2.policyInfo devId hs'.bounded
    dev.cuList hcons
  have hsettle := @attempt_of_settle _ _ _ propV2.policyInfo _ _ _ s.getNextAllocServiceId
    hdev hload hreg fun cuId cu' chanId (h : searchCuTwice (cuPropertyCopyFromV2 propV2)
      s.getNextAllocServiceId propV2.policyInfo devId dev₁.cuList = .acquired cuId cu' chanId) =>
        acquired_of_searchCuTwice propV2.policyInfo devId h
  rw [resAllocCuFromDevByCuLoad]
  simp only [hregOn]
  rw [hcus] at hsettle ⊢
  rw [inTurnOn]
  generalize ho : choose (cuPropertyCopyFromV2 propV2) propV2.policyInfo none
    (matching (cuPropertyCopyFromV2 propV2) inUse devId 0 dev.cuList ++
      matching (cuPropertyCopyFromV2 propV2) unused devId 0 dev.cuList) = o at hfound ⊢
  generalize searchCuTwice (cuPropertyCopyFromV2 propV2) s.getNextAllocServiceId
    propV2.policyInfo devId dev.cuList = search at hfound hsettle ⊢
  cases hfound with
  | @acquired q pre cu' chanId h =>
      obtain ⟨rfl, hget, hmatch⟩ := mem_inTurnOn.mp (choose_settled_mem ho)
      have hshape := (hsound dev (List.mem_of_getElem? hdev)).shape
      have husable := DeviceData.usable_of_registered hshape hload hreg
      exact hsettle.delivers hsound hs' ho ⟨⟨dev, hdev, husable, hget⟩, hmatch⟩ rfl rfl updateId
  | @missed best =>
      cases best with
      | none => exact .refused hsettle.touched.sameChannels
      | some q =>
          obtain ⟨hmem, hfits⟩ := fits_of_remembered ho
          obtain ⟨hq, hget, hmatch⟩ := mem_inTurnOn.mp hmem
          subst hq
          exact delivers_preCu hs' updateId hdev hcus hget
            (hcons _ (List.mem_of_getElem? hget)) hmatch hfits

/-! ## The allocation by the load of the devices -/

/-- The matching CUs of a device, in their order; there are none if the client cannot be
registered. -/
def onDev (s : System) (prop : CuProperty) (devId : Nat) : List PreCu :=
  match s.devList[devId]? with
  | none => []
  | some dev =>
      if dev.Usable prop then matching prop (fun _ => true) devId 0 dev.cuList else []

theorem mem_onDev {q : PreCu} : q ∈ s.onDev prop devId ↔ s.Asks prop q ∧ q.devId = devId := by
  rw [onDev]
  cases hdev : s.devList[devId]? with
  | none =>
      simp only [List.not_mem_nil, false_iff]
      rintro ⟨⟨⟨dev, hdev', -⟩, -⟩, rfl⟩
      simp [hdev] at hdev'
  | some dev =>
      simp only
      split
      · rename_i husable
        rw [mem_matching]
        constructor
        · rintro ⟨rfl, -, hget, -, hmatch⟩
          exact ⟨⟨⟨dev, hdev, husable, hget⟩, hmatch⟩, rfl⟩
        · rintro ⟨⟨⟨dev', hdev', -, hget⟩, hmatch⟩, rfl⟩
          rw [hdev, Option.some.injEq] at hdev'
          subst hdev'
          exact ⟨rfl, Nat.zero_le _, hget, rfl, hmatch⟩
      · rename_i hno
        simp only [List.not_mem_nil, false_iff]
        rintro ⟨⟨⟨dev', hdev', husable, -⟩, -⟩, rfl⟩
        rw [hdev, Option.some.injEq] at hdev'
        subst hdev'
        exact hno husable

/-- The CU that a visit of the devices in order ends with: the choice of the first device that
has one. -/
def firstChosen (s : System) (prop : CuProperty) (policyInfo : Nat) (devIds : List Nat) :
    Option PreCu :=
  devIds.findSome? fun devId => (choose prop policyInfo none (s.onDev prop devId)).chosen

/-- Where a visit of the devices in order ends: on the first device whose search ends on a CU. -/
def EndsOnFirst (s : System) (prop : CuProperty) (policyInfo : Nat) (devIds : List Nat)
    (q : PreCu) : Prop :=
  ∃ before devId after, devIds = before ++ devId :: after ∧
    EndsOn prop policyInfo (s.onDev prop devId) q ∧
      ∀ i ∈ before, ∀ r, ¬EndsOn prop policyInfo (s.onDev prop i) r

theorem firstChosen_iff {devIds : List Nat} {q : PreCu} :
    s.firstChosen prop policyInfo devIds = some q ↔ s.EndsOnFirst prop policyInfo devIds q := by
  rw [firstChosen, List.findSome?_eq_some_iff, EndsOnFirst]
  refine exists₂_congr fun before devId => exists_congr fun after => and_congr_right fun _ => ?_
  rw [choose_chosen_iff]
  refine and_congr_right fun _ => forall₂_congr fun i _ => ?_
  rw [Option.eq_none_iff_forall_not_mem]
  exact forall_congr' fun r => not_congr choose_chosen_iff

theorem onDev_setDev_ne {i : Nat} (hne : i ≠ devId) (dev : DeviceData) :
    (s.setDev i dev).onDev prop devId = s.onDev prop devId := by
  rw [onDev, onDev, getElem?_setDev_ne hne]

theorem firstChosen_setDev {i : Nat} {devIds : List Nat} (hnot : i ∉ devIds) (dev : DeviceData) :
    (s.setDev i dev).firstChosen prop policyInfo devIds = s.firstChosen prop policyInfo devIds := by
  induction devIds with
  | nil => rfl
  | cons devId devIds ih =>
      rw [List.mem_cons, not_or] at hnot
      have hrest := ih hnot.2
      rw [firstChosen] at hrest
      rw [firstChosen, firstChosen, List.findSome?_cons, List.findSome?_cons,
        onDev_setDev_ne hnot.1, hrest, firstChosen]

/-- A device on which the client cannot be registered, or that is not loaded, offers nothing. -/
theorem onDev_eq {dev dev₁ : DeviceData} (hsound : dev.Sound D)
    (hdev : s.devList[devId]? = some dev) (hreg : dev.allocClientFromDev prop = .ok dev₁) :
    s.onDev prop devId = matching prop (fun _ => true) devId 0 dev₁.cuList := by
  rw [onDev, hdev, DeviceData.registered_cuList hreg]
  simp only
  split
  · rfl
  · rename_i hno
    cases hload : dev.isLoaded with
    | true => exact absurd (DeviceData.usable_of_registered hsound.shape hload hreg) hno
    | false =>
        rw [hsound.unloaded hload]
        rfl

theorem allocByDevLoad_delivers (hs : prop.Sent) (updateId : Bool) (devIds : List Nat)
    (hnodup : devIds.Nodup)
    (hsound : ∀ devId ∈ devIds, ∀ dev, s.devList[devId]? = some dev → dev.Sound D) :
    Delivers prop s (allocByDevLoad prop policyInfo updateId devIds s)
      (s.firstChosen prop policyInfo devIds) := by
  induction devIds generalizing s with
  | nil => exact .refused (.refl s)
  | cons devId devIds ih =>
      obtain ⟨hnot, hnodup⟩ := List.nodup_cons.mp hnodup
      have hrest : ∀ i ∈ devIds, ∀ dev, s.devList[i]? = some dev → dev.Sound D :=
        fun i hi => hsound i (List.mem_cons_of_mem _ hi)
      have hskip : s.onDev prop devId = [] → s.firstChosen prop policyInfo (devId :: devIds) =
          s.firstChosen prop policyInfo devIds := by
        intro h
        rw [firstChosen, List.findSome?_cons, h]
        rfl
      rw [allocByDevLoad]
      split
      · rename_i hnone
        rw [hskip (by simp [onDev, hnone])]
        exact ih hnodup hrest
      rename_i dev hdev
      have hdevSound := hsound devId List.mem_cons_self dev hdev
      split
      · rename_i e herr
        rw [hskip]
        · exact ih hnodup hrest
        · have hno : ¬dev.Usable prop := fun h => by
            obtain ⟨dev₁, hreg⟩ := h.registers
            rw [herr] at hreg
            simp at hreg
          simp [onDev, hdev, hno]
      rename_i dev₁ hreg
      have hcus := DeviceData.registered_cuList hreg
      have hcons := hdevSound.consistent
      rw [← hcus] at hcons
      have hfound :=
        @searchCu_found _ s.getNextAllocServiceId policyInfo devId (fun _ => true) hs.bounded 0
        dev₁.cuList none hcons
      rw [← onDev_eq hdevSound hdev hreg] at hfound
      rw [firstChosen, List.findSome?_cons]
      simp only
      generalize ho : choose prop policyInfo none (s.onDev prop devId) = o at hfound ⊢
      generalize hsearch : searchCu prop s.getNextAllocServiceId policyInfo (fun _ => true) devId 0
        dev₁.cuList none = search at hfound ⊢
      cases hfound with
      | @acquired q pre cu' chanId halloc =>
          obtain ⟨⟨⟨dev', hdev', -, hget⟩, hmatch⟩, rfl⟩ := mem_onDev.mp (choose_settled_mem ho)
          rw [hdev, Option.some.injEq] at hdev'
          subst hdev'
          have hsettles : q.cu.Settles prop policyInfo := by
            simpa using List.find?_some (scan_settled_iff.mp ho)
          have hcons' := hcons _ (by rw [hcus]; exact List.mem_of_getElem? hget)
          have hset : (dev₁.grant prop q.cuId cu').cuList = dev.cuList.set q.cuId cu' := by
            rw [grant_cuList, hcus]
          obtain ⟨idx, hallocated⟩ := CuData.allocated_of_allocChan hcons' halloc
          refine delivers_finish updateId rfl rfl ?_ ?_ hsettles.hasChannel
          · exact grants_of_allocated hdev hget hcons' hmatch halloc hset ⟨rfl, rfl, rfl, rfl⟩
          · exact stands_of_set hdev hget hallocated.kin.toCuInfo hset
      | @missed best =>
          cases best with
          | none =>
              have hsame : SameChannels s (s.setDev devId (dev₁.dropClient prop.clientId)) :=
                sameChannels_setDev hdev (by rw [DeviceData.dropClient_cuList, hcus])
              have hafter : ∀ i ∈ devIds, ∀ dev,
                  (s.setDev devId (dev₁.dropClient prop.clientId)).devList[i]? = some dev →
                    dev.Sound D := by
                intro i hi dev' hdev'
                have hne : devId ≠ i := fun h => hnot (h ▸ hi)
                rw [getElem?_setDev_ne hne] at hdev'
                exact hrest i hi dev' hdev'
              have hnext := ih hnodup hafter
              rw [firstChosen_setDev hnot] at hnext
              exact hnext.after hsame
          | some q =>
              obtain ⟨hmem, hfits⟩ := fits_of_remembered ho
              obtain ⟨⟨⟨dev', hdev', -, hget⟩, hmatch⟩, rfl⟩ := mem_onDev.mp hmem
              rw [hdev, Option.some.injEq] at hdev'
              subst hdev'
              refine delivers_preCu hs updateId hdev hcus hget ?_ hmatch hfits
              exact hcons _ (by rw [hcus]; exact List.mem_of_getElem? hget)

end System

end Xrm
