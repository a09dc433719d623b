import Xrm.Verification.LeastUsed
import Xrm.Verification.MakingRoom

/-! # Insisting on an xclbin

`resAllocCuLeastUsedWithLoad` asks for a CU on a device with the requested xclbin in each of its
phases. What the first phase has found about the devices still holds after the load between the
phases, which changes no loaded device but the one it loads.
-/

namespace Xrm

open Choice

/-- What a device is loaded with, whatever its CUs and clients do. -/
def DeviceData.image (dev : DeviceData) : Bool × String × List UInt8 :=
  (dev.isLoaded, dev.xclbinName, dev.uuid)

/-- The result is on the CU. -/
def CuResource.On (res : CuResource) (q : PreCu) : Prop :=
  res.deviceId = q.devId ∧ res.cuId = q.cuId

namespace System

variable {D : Discipline} {s s' s₁ s₂ : System} {env : XrtEnv} {prop : CuProperty}
  {xclbin : String} {svc : Nat} {res : CuResource}

/-! ## Images -/

/-- The devices stay loaded with what they were loaded with. -/
def SameImages (s s' : System) : Prop :=
  s'.devList.map DeviceData.image = s.devList.map DeviceData.image

theorem SameImages.refl (s : System) : SameImages s s := rfl

theorem SameImages.trans (h : SameImages s s₁) (h' : SameImages s₁ s') : SameImages s s' :=
  Eq.trans h' h

theorem SameImages.at_ (h : SameImages s s') {k : Nat} {dev : DeviceData}
    (hdev : s.devList[k]? = some dev) :
    ∃ dev', s'.devList[k]? = some dev' ∧ dev'.image = dev.image := by
  have hk : (s'.devList.map DeviceData.image)[k]? = some dev.image := by
    rw [h, List.getElem?_map, hdev, Option.map_some]
  rw [List.getElem?_map, Option.map_eq_some_iff] at hk
  exact hk

theorem sameImages_setDev {i : Nat} {dev dev' : DeviceData} (hdev : s.devList[i]? = some dev)
    (himage : dev'.image = dev.image) : SameImages s (s.setDev i dev') := by
  obtain ⟨hi, rfl⟩ := List.getElem?_eq_some_iff.mp hdev
  apply List.ext_getElem?
  intro j
  rw [List.getElem?_map, List.getElem?_map, setDev]
  by_cases hij : i = j
  · subst hij
    rw [List.getElem?_set_self hi, List.getElem?_eq_getElem hi, Option.map_some,
      Option.map_some, himage]
  · rw [List.getElem?_set_ne hij]

theorem Touched.sameImages (h : Touched prop s s') : SameImages s s' := by
  induction h with
  | refl => exact .refl s
  | tail _ hstep ih =>
      obtain ⟨i, dev, dev', hdev, htouch, rfl⟩ := hstep
      exact ih.trans (sameImages_setDev hdev (by rw [htouch.frame]; rfl))

/-- An attempt changes no image. -/
theorem Attempt.sameImages {r : Option CuResource} (h : Attempt prop svc s s' r) :
    SameImages s s' := by
  cases h with
  | missed htouch => exact htouch.sameImages
  | @acquired s₁ i dev dev' res htouch hdev hgrab =>
      refine htouch.sameImages.trans (sameImages_setDev hdev ?_)
      obtain ⟨dev₁, policyInfo, cuId, cu', chanId, hreg, -, rfl, -⟩ := hgrab
      obtain ⟨info, hgrant⟩ := dev₁.grant_frame prop cuId cu'
      rw [hgrant, (DeviceData.allocClientFromDev_spec hreg).frame]
      rfl

theorem SameImages.finish (h : SameImages s s') (updateId : Bool) (res : CuResource) :
    SameImages s (s'.finishAlloc updateId res).1 := by
  rw [finishAlloc]
  split
  · exact h
  · exact h

theorem Allocates.sameImages {updateId : Bool} {r : System × Except XrmError CuResource}
    (h : Allocates prop updateId s r) : SameImages s r.1 := by
  cases h with
  | failed htouch => exact htouch.sameImages
  | granted _ h => exact h.sameImages.finish updateId _

/-! ## The load between the phases -/

/-- Whatever is loaded afterwards was loaded before with the same, but for the device of the
result, which has the file. -/
structure LoadsOnly (xclbin : String) (s s' : System) (r : Except XrmError Nat) : Prop where
  others : ∀ (i : Nat) (dev : DeviceData), s'.devList[i]? = some dev → dev.isLoaded = true →
    s.devList[i]? = some dev ∨ r = .ok i
  loaded : ∀ i, r = .ok i → ∃ dev, s'.devList[i]? = some dev ∧ dev.isLoaded = true ∧
    dev.xclbinName = xclbin

theorem LoadsOnly.failed {e : XrmError} (h : ∀ (i : Nat) (dev : DeviceData),
    s'.devList[i]? = some dev → dev.isLoaded = true → s.devList[i]? = some dev) :
    LoadsOnly xclbin s s' (.error e) :=
  ⟨fun i dev hdev hload => .inl (h i dev hdev hload), by simp⟩

/-- Replacing a device by one that is not loaded loads nothing. -/
theorem loaded_setDev {devId : Nat} {dev' : DeviceData} (hload' : dev'.isLoaded = false) (i : Nat)
    (dev : DeviceData) (hdev : (s.setDev devId dev').devList[i]? = some dev)
    (hload : dev.isLoaded = true) : s.devList[i]? = some dev := by
  rw [setDev, List.getElem?_set] at hdev
  split at hdev
  · split at hdev
    · rw [Option.some.injEq] at hdev
      rw [← hdev, hload'] at hload
      simp at hload
    · simp at hdev
  · exact hdev

/-- What follows a part of the load that loaded nothing. -/
theorem LoadsOnly.after {r : Except XrmError Nat} (hbefore : ∀ (i : Nat) (dev : DeviceData),
    s₁.devList[i]? = some dev → dev.isLoaded = true → s.devList[i]? = some dev)
    (h : LoadsOnly xclbin s₁ s' r) : LoadsOnly xclbin s s' r :=
  ⟨fun i dev hdev hload => (h.others i dev hdev hload).imp (hbefore i dev · hload) id, h.loaded⟩

/-- A device that has just been loaded. -/
theorem LoadsOnly.here {devId : Nat} {dev dev' : DeviceData} {axlf : Axlf}
    (hdev : s.devList[devId]? = some dev) (h : DeviceData.Loads dev dev' xclbin axlf) :
    LoadsOnly xclbin s (s.setDev devId dev') (.ok devId) := by
  refine ⟨fun i x hx _ => ?_, fun i hi => ?_⟩
  · by_cases hi : devId = i
    · exact .inr (by rw [hi])
    · exact .inl (by rwa [getElem?_setDev_ne hi] at hx)
  · obtain rfl : devId = i := by simpa using hi
    exact ⟨dev', getElem?_setDev_self hdev dev', h.isLoaded, h.xclbinName⟩

theorem loadUnloaded_loadsOnly (env : XrtEnv) (xclbin : String) (devIds : List Nat) (s : System)
    (errmsg : String) (e : XrmError) :
    LoadsOnly xclbin s (loadUnloaded env xclbin devIds s errmsg e).1
      (loadUnloaded env xclbin devIds s errmsg e).2.2 := by
  induction devIds generalizing s errmsg e with
  | nil => exact .failed fun _ _ hdev _ => hdev
  | cons devId devIds ih =>
      rw [loadUnloaded]
      split
      · exact ih s errmsg e
      rename_i hskip
      cases hdev : s.devList[devId]? with
      | none =>
          have hsame : s.deviceLoadXclbin env 0 devId xclbin errmsg =
              (s, errmsg, .error .invalid) := by rw [System.deviceLoadXclbin, onDevice, hdev]
          rw [hsame]
          exact ih s errmsg .invalid
      | some dev =>
          have hload : dev.isLoaded = false := by simpa [hdev] using hskip
          obtain ⟨r, hr, heq⟩ := deviceLoadXclbin_at hdev hload env 0 xclbin errmsg
          rw [heq]
          cases hr with
          | spared hnot hspared => exact (ih _ _ _).after (loaded_setDev hspared.isLoaded)
          | loaded hfile htakes hen h => exact .here hdev h

theorem loadNotBusy_loadsOnly (env : XrtEnv) (xclbin : String) (devIds : List Nat) (s : System)
    (errmsg : String) (e : XrmError) :
    LoadsOnly xclbin s (loadNotBusy env xclbin devIds s errmsg e).1
      (loadNotBusy env xclbin devIds s errmsg e).2.2 := by
  induction devIds generalizing s errmsg e with
  | nil => exact .failed fun _ _ hdev _ => hdev
  | cons devId devIds ih =>
      rw [loadNotBusy]
      split
      · exact ih s errmsg e
      rename_i hskip
      cases hdev : s.devList[devId]? with
      | none =>
          simp only [onDevice, hdev]
          exact ih s errmsg e
      | some dev =>
          have hidle : dev.isDeviceBusy = false := by simpa [hdev] using hskip
          simp only [onDevice, hdev]
          by_cases hclose : dev.isLoaded = true → (env.call 1 devId).closeContext = 0
          · have hload₁ : dev.deviceClearInfo.isLoaded = false := by
              rw [DeviceData.deviceClearInfo_of_not_busy hidle]
              rfl
            obtain ⟨r, hr, heq⟩ := deviceLoadXclbin_at
              (getElem?_setDev_self hdev dev.deviceClearInfo) hload₁ env 1 xclbin errmsg
            simp only [unloadOneDevice_idle hidle hclose, heq]
            cases hr with
            | spared hnot hspared =>
                refine (ih _ _ _).after fun i x hx hload => ?_
                exact loaded_setDev hload₁ i x (loaded_setDev hspared.isLoaded i x hx hload) hload
            | loaded hfile htakes hen h =>
                exact (LoadsOnly.here (getElem?_setDev_self hdev dev.deviceClearInfo) h).after
                  (loaded_setDev hload₁)
          · have hload : dev.isLoaded = true := by
              by_contra hl
              exact hclose fun h => absurd h hl
            have hc : (env.call 1 devId).closeContext ≠ 0 := fun h => hclose fun _ => h
            have hunload : dev.unloadOneDevice devId (env.call 1 devId) errmsg =
                (dev, s!"Fail to unlock xclbin from device  {devId}",
                  .error .deviceIsLocked) := by
              simp [DeviceData.unloadOneDevice, hload, hidle, hc]
            simp only [hunload, setDev_self hdev]
            exact ih s _ e

/-- The devices of the first probe. -/
theorem initDevices_isProbed (h : s.Probed) (hdone : s.devicesInited = false) (env : XrtEnv) :
    ∀ dev ∈ (s.initDevices env).devList, dev.IsProbed := by
  intro dev hdev
  rw [initDevices, if_neg (by simp [hdone])] at hdev
  split at hdev
  · simp [h hdone] at hdev
  · obtain ⟨devId, -, rfl⟩ := List.mem_map.mp hdev
    exact ⟨devId, _, rfl⟩

/-- Loading on any device changes no loaded device but the one it ends on and those it unloads. -/
theorem loadAnyDevice_loadsOnly (hprobed : s.Probed) (env : XrtEnv) (xclbin errmsg : String) :
    LoadsOnly xclbin s (s.loadAnyDevice env xclbin errmsg).1
      (s.loadAnyDevice env xclbin errmsg).2.2 := by
  have hinit : ∀ (i : Nat) (dev : DeviceData), (s.initDevices env).devList[i]? = some dev →
      dev.isLoaded = true → s.devList[i]? = some dev := by
    intro i dev hdev hload
    cases hdone : s.devicesInited with
    | true => rwa [initDevices, if_pos hdone] at hdev
    | false =>
        obtain ⟨devId, call, rfl⟩ := initDevices_isProbed hprobed hdone env dev
          (List.mem_of_getElem? hdev)
        exact absurd hload (by simp [DeviceData.probed, DeviceData.openDevice])
  have hfirst := loadUnloaded_loadsOnly env xclbin (List.range (s.initDevices env).numDevice)
    (s.initDevices env) "" .error
  rw [loadAnyDevice]
  split
  · exact .failed hinit
  split
  · rename_i heq
    rw [heq] at hfirst
    exact hfirst.after hinit
  · rename_i s₁ errmsg₁ e heq
    rw [heq] at hfirst
    have hbefore : ∀ (i : Nat) (dev : DeviceData), s₁.devList[i]? = some dev →
        dev.isLoaded = true → s.devList[i]? = some dev := by
      intro i dev hdev hload
      refine hinit i dev ((hfirst.others i dev hdev hload).resolve_right ?_) hload
      simp
    have hsecond := loadNotBusy_loadsOnly env xclbin (List.range s₁.numDevice) s₁ errmsg₁ e
    split
    · rename_i heq₁
      rw [heq₁] at hsecond
      exact hsecond.after hbefore
    · rename_i heq₁
      rw [heq₁] at hsecond
      exact hsecond.after hbefore

/-! ## Where the phases look -/

/-- The CU stands on a device that is loaded with the xclbin. -/
def StandsOn (s : System) (xclbin : String) (q : PreCu) : Prop :=
  ∃ dev, s.devList[q.devId]? = some dev ∧ dev.isLoaded = true ∧ dev.xclbinName = xclbin ∧
    dev.cuList[q.cuId]? = some q.cu

theorem SameContent.standsOn (h : SameContent s s') {q : PreCu} (hq : s.StandsOn xclbin q) :
    s'.StandsOn xclbin q := by
  obtain ⟨dev, hdev, hload, hname, hcu⟩ := hq
  obtain ⟨dev', hdev', hsame⟩ := h.at_ hdev
  obtain ⟨hl, -, hn, -, hcus⟩ := content_eq hsame
  exact ⟨dev', hdev', hl.trans hload, hn.trans hname, by rw [hcus, hcu]⟩

/-- A search of one round takes one of the wanted CUs. -/
theorem acquired_of_tryDevice {dev dev' : DeviceData} {devId policyInfo : Nat}
    {wanted : CuData → Bool} {preCu : Option PreCu}
    (h : dev.tryDevice devId prop svc policyInfo wanted preCu = (dev', .acquired res)) :
    ∃ j cu, dev.cuList[j]? = some cu ∧ wanted cu = true ∧ res.On ⟨devId, j, cu⟩ := by
  rw [DeviceData.tryDevice] at h
  split at h
  · simp at h
  rename_i dev₁ hreg
  cases hsearch : searchCu prop svc policyInfo wanted devId 0 dev₁.cuList preCu with
  | missed q => simp [hsearch, DeviceData.settle] at h
  | acquired cuId cu' chanId =>
      obtain ⟨j, cu, pre, rfl, hcu, hwanted, -, -⟩ := searchCu_acquired hsearch
      rw [DeviceData.registered_cuList hreg] at hcu
      simp only [hsearch, DeviceData.settle, Prod.mk.injEq, PassResult.acquired.injEq] at h
      rw [← h.2, zero_add]
      exact ⟨j, cu, hcu, hwanted, rfl, rfl⟩

/-- The first phase takes a wanted CU of a device with the xclbin. -/
theorem acquired_of_allocPass {policyInfo : Nat} {wanted : CuData → Bool} {devIds : List Nat}
    {preCu : Option PreCu} (h : allocPass prop policyInfo (hasXclbin xclbin) wanted devIds s preCu =
      (s', .acquired res)) : ∃ q, s.StandsOn xclbin q ∧ wanted q.cu = true ∧ res.On q := by
  induction devIds generalizing s preCu with
  | nil => simp [allocPass] at h
  | cons devId devIds ih =>
      rw [allocPass] at h
      split at h
      · exact ih h
      rename_i dev hdev
      split at h
      · rename_i hfree
        rw [Bool.and_eq_true] at hfree
        have hload := DeviceData.isLoaded_of_isFreeForClient hfree.1
        have hname : dev.xclbinName = xclbin := by simpa [hasXclbin] using hfree.2
        split at h
        · rename_i heq
          rw [Prod.mk.injEq, PassResult.acquired.injEq] at h
          rw [h.2] at heq
          obtain ⟨j, cu, hcu, hwanted, hon⟩ := acquired_of_tryDevice heq
          exact ⟨_, ⟨dev, hdev, hload, hname, hcu⟩, hwanted, hon⟩
        · rename_i dev₁ q₁ heq
          have htry := attempt_of_tryDevice prop s.getNextAllocServiceId policyInfo wanted preCu
            hdev hload
          rw [heq] at htry
          obtain ⟨q, hq, hwanted, hon⟩ := ih h
          exact ⟨q, htry.touched.sameContent.symm.standsOn hq, hwanted, hon⟩
      · exact ih h

/-- The attempt on the loaded device ends there. -/
theorem acquired_of_allocOnLoaded {devId : Nat} {wanted : CuData → Bool}
    (h : s.allocOnLoaded devId prop wanted = (s', .ok (.acquired res))) :
    res.deviceId = devId := by
  rw [allocOnLoaded] at h
  split at h
  · simp at h
  split at h
  · simp at h
  rename_i dev₁ hreg
  cases hsearch : searchCu prop s.getNextAllocServiceId policyNull wanted devId 0 dev₁.cuList
      none with
  | missed q => simp [hsearch, DeviceData.settle] at h
  | acquired cuId cu' chanId =>
      simp only [hsearch, DeviceData.settle, Prod.mk.injEq, Except.ok.injEq,
        PassResult.acquired.injEq] at h
      rw [← h.2]
      rfl

/-- The candidates stand on devices with the xclbin. -/
theorem collectCandidates_named (devIds : List Nat) (s : System) {candidate : Candidate}
    (h : candidate ∈ (collectCandidates prop xclbin devIds s).2) :
    ∃ dev, s.devList[candidate.devId]? = some dev ∧ dev.isLoaded = true ∧
      dev.xclbinName = xclbin := by
  induction devIds generalizing s with
  | nil => simp [collectCandidates] at h
  | cons devId devIds ih =>
      rw [collectCandidates] at h
      split at h
      · exact ih s h
      rename_i dev hdev
      split at h
      · rename_i hfree
        rw [Bool.and_eq_true, beq_iff_eq] at hfree
        have hload := DeviceData.isLoaded_of_isFreeForClient hfree.1
        split at h
        · exact ih s h
        rename_i dev₁ hreg
        rcases List.mem_append.mp h with hc | hc
        · obtain ⟨hat, -⟩ := mem_candidates hc
          exact ⟨dev, by rw [hat, hdev], hload, hfree.2⟩
        · have htouch : Touched prop s (s.setDev devId (dev₁.dropClient prop.clientId)) :=
            .single ⟨devId, dev, _, hdev, ⟨hload, dev₁, hreg, rfl⟩, rfl⟩
          obtain ⟨x, hx, hxload, hxname⟩ := ih _ hc
          obtain ⟨x', hx', hsame⟩ := htouch.sameContent.symm.at_ hx
          obtain ⟨hl, -, hn, -⟩ := content_eq hsame
          exact ⟨x', hx', hl.trans hxload, hn.trans hxname⟩
      · exact ih s h

/-- The candidate loop ends on the device of a candidate. -/
theorem mem_of_shareAnywhere {updateId : Bool} {l : List Candidate}
    (h : shareAnywhere prop updateId l s = (s', .ok res)) :
    ∃ candidate ∈ l, res.deviceId = candidate.devId := by
  induction l generalizing s with
  | nil => simp [shareAnywhere] at h
  | cons candidate rest ih =>
      have hrest : ∀ {s₁ : System}, shareAnywhere prop updateId rest s₁ = (s', .ok res) →
          ∃ c ∈ candidate :: rest, res.deviceId = c.devId := by
        intro s₁ h₁
        obtain ⟨c, hc, hdev⟩ := ih h₁
        exact ⟨c, List.mem_cons_of_mem _ hc, hdev⟩
      rw [shareAnywhere] at h
      split at h
      · exact hrest h
      split at h
      · split at h
        · simp at h
        · exact hrest h
      simp only at h
      split at h
      · exact hrest h
      split at h
      · simp only [finishAlloc, Prod.mk.injEq, Except.ok.injEq] at h
        exact ⟨candidate, List.mem_cons_self, by rw [← h.2]; rfl⟩
      · split at h
        · simp at h
        · exact hrest h
      · exact hrest h

/-! ## The phases -/

/-- What the second phase comes to without a CU. -/
inductive NoneLoaded (env : XrtEnv) (prop : CuProperty) (xclbin : String) (s : System) :
    System → Prop where
  | unloaded {s' : System} {msg : String} {e : XrmError}
      (hload : s.loadAnyDevice env xclbin "" = (s', msg, .error e)) :
      NoneLoaded env prop xclbin s s'
  | refused {s₁ s' : System} {msg : String} {devId : Nat} {e : XrmError}
      (hload : s.loadAnyDevice env xclbin "" = (s₁, msg, .ok devId))
      (hon : s₁.allocOnLoaded devId prop (fun _ => true) = (s', .error e)) :
      NoneLoaded env prop xclbin s s'
  | missed {s₁ s' : System} {msg : String} {devId : Nat} {best : Option PreCu}
      (hload : s.loadAnyDevice env xclbin "" = (s₁, msg, .ok devId))
      (hon : s₁.allocOnLoaded devId prop (fun _ => true) = (s', .ok (.missed best))) :
      NoneLoaded env prop xclbin s s'

/-- The phase in which the allocation ends. -/
inductive Phases (env : XrtEnv) (prop : CuProperty) (xclbin : String) (updateId : Bool)
    (s : System) : System × Except XrmError CuResource → Prop where
  | found {s₁ : System} {res : CuResource}
      (h : allocPass prop policyNull (hasXclbin xclbin) unused (List.range s.numDevice) s none =
        (s₁, .acquired res)) : Phases env prop xclbin updateId s (s₁.finishAlloc updateId res)
  | loaded {s₁ s₂ s₃ : System} {best : Option PreCu} {msg : String} {devId : Nat}
      {res : CuResource}
      (h : allocPass prop policyNull (hasXclbin xclbin) unused (List.range s.numDevice) s none =
        (s₁, .missed best)) (hload : s₁.loadAnyDevice env xclbin "" = (s₂, msg, .ok devId))
      (hon : s₂.allocOnLoaded devId prop (fun _ => true) = (s₃, .ok (.acquired res))) :
      Phases env prop xclbin updateId s (s₃.finishAlloc updateId res)
  | shared {s₁ s₂ : System} {best : Option PreCu}
      (h : allocPass prop policyNull (hasXclbin xclbin) unused (List.range s.numDevice) s none =
        (s₁, .missed best)) (hnone : NoneLoaded env prop xclbin s₁ s₂)
      (hstart : s.sharingStart env prop xclbin = some s₂) :
      Phases env prop xclbin updateId s (s₂.shareLeastUsed prop xclbin updateId)

theorem resAllocCuLeastUsedWithLoad_phases (s : System) (env : XrtEnv)
    (hnamed : prop.unnamed = false) (xclbin : String) (updateId : Bool) :
    Phases env prop xclbin updateId s
      (s.resAllocCuLeastUsedWithLoad env prop xclbin updateId) := by
  have hstart := sharingStart.eq_1 s env prop xclbin
  rw [resAllocCuLeastUsedWithLoad, if_neg (by simp [hnamed])]
  cases hpass : allocPass prop policyNull (hasXclbin xclbin) unused (List.range s.numDevice) s
      none with
  | mk s₁ r =>
      have hpass' : allocPass prop policyNull (fun dev => dev.xclbinName == xclbin) unused
          (List.range s.numDevice) s none = (s₁, r) := hpass
      rw [hpass'] at hstart
      rw [hpass']
      cases r with
      | acquired res => exact .found hpass
      | missed best =>
          simp only at hstart ⊢
          cases hload : s₁.loadAnyDevice env xclbin "" with
          | mk s₂ r =>
              obtain ⟨msg, r⟩ := r
              rw [hload] at hstart
              cases r with
              | error e => exact .shared hpass (.unloaded hload) hstart
              | ok devId =>
                  simp only at hstart ⊢
                  cases hon : s₂.allocOnLoaded devId prop fun _ => true with
                  | mk s₃ r =>
                      rw [hon] at hstart
                      cases r with
                      | error e => exact .shared hpass (.refused hload hon) hstart
                      | ok r =>
                          cases r with
                          | acquired res => exact .loaded hpass hload hon
                          | missed q => exact .shared hpass (.missed hload hon) hstart

/-! ## Nothing unused is left -/

/-- Every CU of a device with the xclbin that could serve the request is in use. -/
def Exhausted (s : System) (prop : CuProperty) (xclbin : String) : Prop :=
  ∀ q, s.Eligible prop q → s.OnXclbin xclbin q → inUse q.cu = true

theorem Eligible.bounded {q : PreCu} (hq : s.Eligible prop q) (hsound : s.Sound D)
    (hc : prop.clientId ≠ 0) (hpos : 0 < prop.requestLoadUnified) : prop.Bounded := by
  obtain ⟨dev, hdev, -, hcu⟩ := hq.asks.device
  have hcons := (hsound dev (List.mem_of_getElem? hdev)).consistent q.cu
    (List.mem_of_getElem? hcu)
  exact hq.fits.bounded hcons hc hpos

theorem Eligible.settles {q : PreCu} (hq : s.Eligible prop q) : q.cu.Settles prop policyNull :=
  CuData.settles_null_iff.mpr ⟨hq.fits, hq.hasChannel⟩

/-- The first phase misses no unused CU. -/
theorem exhausted_of_missed (hsound : s.Sound D) (hc : prop.clientId ≠ 0)
    (hpos : 0 < prop.requestLoadUnified) {best : Option PreCu}
    (h : allocPass prop policyNull (hasXclbin xclbin) unused (List.range s.numDevice) s none =
      (s₁, .missed best)) : s.Exhausted prop xclbin := by
  intro q hq hon
  by_contra huse
  obtain ⟨dev, hdev, husable, hcu⟩ := hq.asks.device
  have hname : dev.xclbinName = xclbin := by
    obtain ⟨dev', hdev', hname⟩ := hon
    rw [hdev, Option.some.injEq] at hdev'
    rwa [hdev']
  have hmem : q ∈ s.offered prop (hasXclbin xclbin) unused (List.range s.numDevice) := by
    rw [mem_offered]
    refine ⟨List.mem_range.mpr (List.getElem?_eq_some_iff.mp hdev).1, by simp [unused_eq, huse],
      hq.asks.names, dev, hdev, husable, by simp [hasXclbin, hname], hcu⟩
  have hfound := @allocPass_found _ policyNull unused _ _ _ hsound (hq.bounded hsound hc hpos)
    (blind_hasXclbin xclbin) (List.range s.numDevice) none
  rw [h] at hfound
  generalize ho : choose prop policyNull none
    (s.offered prop (hasXclbin xclbin) unused (List.range s.numDevice)) = o at hfound
  cases hfound with
  | missed =>
      have hno := (scan_remembered_iff.mp ho).1 q hmem
      simp [hq.settles] at hno

/-- The attempt on the loaded device misses no CU there. -/
theorem not_eligible_of_allocOnLoaded (hsound : s.Sound D) (hc : prop.clientId ≠ 0)
    (hpos : 0 < prop.requestLoadUnified) {devId : Nat} {r : Except XrmError PassResult}
    (h : s.allocOnLoaded devId prop (fun _ => true) = (s', r))
    (hnot : ∀ res, r ≠ .ok (.acquired res)) {q : PreCu} (hq : s.Eligible prop q) :
    q.devId ≠ devId := by
  rintro rfl
  obtain ⟨dev, hdev, husable, hcu⟩ := hq.asks.device
  obtain ⟨dev₁, hreg⟩ := husable.registers
  have hcons := (hsound dev (List.mem_of_getElem? hdev)).consistent
  have hmem : q ∈ matching prop (fun _ => true) q.devId 0 dev.cuList :=
    mem_matching.mpr ⟨rfl, Nat.zero_le _, hcu, rfl, hq.asks.names⟩
  rw [allocOnLoaded, hdev] at h
  simp only [hreg, DeviceData.registered_cuList hreg] at h
  have hfound := @searchCu_found _ s.getNextAllocServiceId policyNull q.devId (fun _ => true)
    (hq.bounded hsound hc hpos) 0 dev.cuList none hcons
  generalize ho : choose prop policyNull none (matching prop (fun _ => true) q.devId 0 dev.cuList) =
    o at hfound
  generalize searchCu prop s.getNextAllocServiceId policyNull (fun _ => true) q.devId 0 dev.cuList
    none = search at h hfound
  cases hfound with
  | acquired halloc =>
      simp only [DeviceData.settle, Prod.mk.injEq] at h
      exact hnot _ h.2.symm
  | missed =>
      have hno := (scan_remembered_iff.mp ho).1 q hmem
      simp [hq.settles] at hno

theorem Touched.exhausted_iff (h : Touched prop s s') (hsound : s.Sound D)
    (hc : prop.clientId ≠ 0) : s'.Exhausted prop xclbin ↔ s.Exhausted prop xclbin := by
  have hname : ∀ {a b : System} {q : PreCu}, SameContent a b → a.OnXclbin xclbin q →
      b.OnXclbin xclbin q := by
    rintro a b q hsame ⟨dev, hdev, hname⟩
    obtain ⟨dev', hdev', hcontent⟩ := hsame.at_ hdev
    obtain ⟨-, -, hn, -⟩ := content_eq hcontent
    exact ⟨dev', hdev', hn.trans hname⟩
  constructor
  · intro hex q hq hon
    exact hex q ((h.eligible_iff hsound hc).mpr hq) (hname h.sameContent hon)
  · intro hex q hq hon
    exact hex q ((h.eligible_iff hsound hc).mp hq) (hname h.sameContent.symm hon)

/-- Loading adds no unused CU that could serve, but for those of the loaded device. -/
theorem LoadsOnly.exhausted {r : Except XrmError Nat} (h : LoadsOnly xclbin s s' r)
    (hnone : ∀ devId, r = .ok devId → ∀ q, s'.Eligible prop q → q.devId ≠ devId)
    (hex : s.Exhausted prop xclbin) : s'.Exhausted prop xclbin := by
  intro q hq hon
  obtain ⟨dev, hdev, husable, hcu⟩ := id hq.asks.device
  have hbefore : s.devList[q.devId]? = some dev := by
    rcases h.others q.devId dev hdev husable.isLoaded with hsame | hloaded
    · exact hsame
    · exact absurd rfl (hnone q.devId hloaded q hq)
  obtain ⟨dev', hdev', hname⟩ := hon
  rw [hdev, Option.some.injEq] at hdev'
  exact hex q ⟨⟨⟨dev, hbefore, husable, hcu⟩, hq.asks.names⟩, hq.fits, hq.hasChannel⟩
    ⟨dev, hbefore, by rwa [hdev']⟩

/-- A second phase that gives no CU leaves nothing unused, if the first phase did. -/
theorem NoneLoaded.exhausted (h : NoneLoaded env prop xclbin s s') (hgood : s.Good D)
    (hgap : D.gapless → env.Gapless) (hc : prop.clientId ≠ 0)
    (hpos : 0 < prop.requestLoadUnified) (hex : s.Exhausted prop xclbin) :
    s'.Exhausted prop xclbin := by
  have honly := loadAnyDevice_loadsOnly hgood.probed env xclbin ""
  obtain ⟨hev, hjust⟩ := loadAnyDevice_spec hgap xclbin "" hgood.sound
  have hsound := hev.sound hgood.sound
  cases h with
  | unloaded hload =>
      rw [hload] at honly
      exact honly.exhausted (by simp) hex
  | @refused s₁ _ msg devId e hload hon =>
      rw [hload] at honly hsound
      rw [allocOnLoaded_error hon]
      refine honly.exhausted (fun i hi q hq => ?_) hex
      obtain rfl : devId = i := by simpa using hi
      exact not_eligible_of_allocOnLoaded hsound hc hpos hon (by simp) hq
  | @missed s₁ _ msg devId best hload hon =>
      rw [hload] at honly hsound hjust
      have htouch := (allocOnLoaded_attempt (hjust devId rfl) hon).touched
      rw [htouch.exhausted_iff hsound hc]
      refine honly.exhausted (fun i hi q hq => ?_) hex
      obtain rfl : devId = i := by simpa using hi
      exact not_eligible_of_allocOnLoaded hsound hc hpos hon (by simp) hq

/-! ## The allocation -/

/-- Device `k` is loaded with the xclbin. -/
def Bears (s : System) (xclbin : String) (k : Nat) : Prop :=
  ∃ dev, s.devList[k]? = some dev ∧ dev.isLoaded = true ∧ dev.xclbinName = xclbin

/-- The CU at the place has clients. -/
def UsedAt (s : System) (place : Nat × Nat × Nat) : Prop :=
  ∃ dev cu, s.devList[place.1]? = some dev ∧ dev.cuList[place.2.1]? = some cu ∧ inUse cu = true

/-- The allocation insists on the xclbin: its CU is on a device that is loaded with it, one in use
is the last resort, and no busy device is unloaded. -/
structure Enforces (s : System) (env : XrtEnv) (prop : CuProperty) (xclbin : String)
    (r : System × Except XrmError CuResource) : Prop where
  placed : ∀ res, r.2 = .ok res → r.1.Bears xclbin res.place.1
  granted : Honest liveAt s prop r
  lastResort : ∀ res, r.2 = .ok res → s.UsedAt res.place → s.Exhausted prop xclbin ∧
    ∃ s₁, s.sharingStart env prop xclbin = some s₁ ∧ s₁.Exhausted prop xclbin
  kept : ∀ (k : Nat) (dev : DeviceData), s.devList[k]? = some dev → dev.isDeviceBusy = true →
    ∃ dev', r.1.devList[k]? = some dev' ∧ dev'.isLoaded = true ∧
      dev'.xclbinName = dev.xclbinName ∧ dev'.uuid = dev.uuid

theorem SameImages.bears (h : SameImages s s') {k : Nat} (hk : s.Bears xclbin k) :
    s'.Bears xclbin k := by
  obtain ⟨dev, hdev, hload, hname⟩ := hk
  obtain ⟨dev', hdev', himage⟩ := h.at_ hdev
  simp only [DeviceData.image, Prod.mk.injEq] at himage
  exact ⟨dev', hdev', himage.1.trans hload, himage.2.1.trans hname⟩

/-- A device with a CU in use is busy. -/
theorem busy_of_inUse {dev : DeviceData} (hsound : dev.Sound D) {cu : CuData}
    (hcu : cu ∈ dev.cuList) (huse : inUse cu = true) : dev.isDeviceBusy = true := by
  by_contra hidle
  have hzero := (hsound.consistent cu hcu).idle_numClient
    (DeviceData.idle_of_not_busy (by simpa using hidle) cu hcu)
  simp [inUse, hzero] at huse

theorem loaded_of_busy {dev : DeviceData} (hsound : dev.Sound D)
    (hbusy : dev.isDeviceBusy = true) : dev.isLoaded = true := by
  by_contra hload
  rw [DeviceData.not_busy_of_empty (hsound.unloaded (by simpa using hload))] at hbusy
  simp at hbusy

/-- A busy device comes through the load between the phases. -/
theorem Touched.keepsBusy (h : Touched prop s s₁) (hgood : s₁.Good D) (env : XrtEnv)
    (xclbin : String) {k : Nat} {dev : DeviceData} (hdev : s.devList[k]? = some dev)
    (hbusy : dev.isDeviceBusy = true) : ∃ dev', (s₁.loadAnyDevice env xclbin "").1.devList[k]? =
      some dev' ∧ dev'.content = dev.content := by
  obtain ⟨dev', hdev', hsame⟩ := h.sameContent.at_ hdev
  obtain ⟨-, -, -, -, hcus⟩ := content_eq hsame
  have hbusy' : dev'.isDeviceBusy = true := (busy_congr hcus).trans hbusy
  have hload' := loaded_of_busy (hgood.sound dev' (List.mem_of_getElem? hdev')) hbusy'
  have hkeep : s₁.Keeps k dev' := hdev'
  exact ⟨dev', hkeep.loadAnyDevice hload' hbusy' hgood.probed env xclbin "", hsame⟩

/-- What the sharing phase returns is on a device with the xclbin. -/
theorem shareLeastUsed_bears {updateId : Bool}
    (h : s.shareLeastUsed prop xclbin updateId = (s', .ok res)) :
    s.Bears xclbin res.place.1 := by
  obtain ⟨candidate, hmem, hdev⟩ := mem_of_shareAnywhere h
  obtain ⟨dev, hdev', hload, hname⟩ :=
    collectCandidates_named _ s (mem_sortCandidates.mp hmem)
  refine ⟨dev, ?_, hload, hname⟩
  simpa [CuResource.place, hdev] using hdev'

theorem Allocates.pos {updateId : Bool} {r : System × Except XrmError CuResource}
    (h : Allocates prop updateId s r) (hres : r.2 = .ok res) : 0 < prop.requestLoadUnified := by
  cases h with
  | failed h => simp at hres
  | granted _ h =>
      cases h with
      | acquired _ _ hgrab =>
          obtain ⟨_, _, _, _, _, -, ⟨_, _, -, -, halloc⟩, -⟩ := hgrab
          exact CuData.pos_of_allocChan halloc

theorem Phases.bears {updateId : Bool} {r : System × Except XrmError CuResource}
    (h : Phases env prop xclbin updateId s r) (hgood : s.Good D) (hgap : D.gapless → env.Gapless)
    (hnamed : prop.unnamed = false) (hc : prop.clientId ≠ 0) (hres : r.2 = .ok res) :
    r.1.Bears xclbin res.place.1 := by
  cases h with
  | @found s₁ res' hpass =>
      obtain rfl : res' = res := by simpa [finishAlloc] using hres
      have hattempt := allocPass_attempt prop policyNull (hasXclbin xclbin) unused
        (List.range s.numDevice) s none
      rw [hpass] at hattempt
      obtain ⟨q, ⟨dev, hdev, hload, hname, -⟩, -, hon, -⟩ := acquired_of_allocPass hpass
      have hbears : s.Bears xclbin res'.place.1 :=
        ⟨dev, by simpa [CuResource.place, hon] using hdev, hload, hname⟩
      exact (hattempt.sameImages.finish updateId res').bears hbears
  | @loaded s₁ s₂ s₃ best msg devId res' hpass hload hon =>
      obtain rfl : res' = res := by simpa [finishAlloc] using hres
      have hfirst := allocPass_attempt prop policyNull (hasXclbin xclbin) unused
        (List.range s.numDevice) s none
      rw [hpass] at hfirst
      have hgood₁ := hgood.evolves (hfirst.touched.evolves hc)
      have honly := loadAnyDevice_loadsOnly hgood₁.probed env xclbin ""
      obtain ⟨-, hjust⟩ := loadAnyDevice_spec hgap xclbin "" hgood₁.sound
      rw [hload] at honly hjust
      have hattempt := allocOnLoaded_attempt (hjust devId rfl) hon
      have hbears : s₂.Bears xclbin res'.place.1 := by
        rw [CuResource.place, acquired_of_allocOnLoaded hon]
        exact honly.loaded devId rfl
      exact (hattempt.sameImages.finish updateId res').bears hbears
  | @shared s₁ s₂ best hpass hnone hstart =>
      have hallocates := shareLeastUsed_allocates s₂ hnamed xclbin updateId
      have hshare : s₂.shareLeastUsed prop xclbin updateId =
          ((s₂.shareLeastUsed prop xclbin updateId).1, .ok res) := by rw [← hres]
      have hbears : s₂.Bears xclbin res.place.1 := shareLeastUsed_bears hshare
      exact hallocates.sameImages.bears hbears

theorem Phases.lastResort {updateId : Bool} {r : System × Except XrmError CuResource}
    (h : Phases env prop xclbin updateId s r) (hgood : s.Good D) (hgap : D.gapless → env.Gapless)
    (hnamed : prop.unnamed = false) (hc : prop.clientId ≠ 0) (hres : r.2 = .ok res)
    (huse : s.UsedAt res.place) : s.Exhausted prop xclbin ∧
      ∃ s₁, s.sharingStart env prop xclbin = some s₁ ∧ s₁.Exhausted prop xclbin := by
  obtain ⟨dev, cu, hdev, hcu, huse⟩ := huse
  have hdevSound := hgood.sound dev (List.mem_of_getElem? hdev)
  cases h with
  | @found s₁ res' hpass =>
      -- the first phase only takes unused CUs
      obtain rfl : res' = res := by simpa [finishAlloc] using hres
      obtain ⟨q, ⟨x, hx, -, -, hq⟩, hunused, hdevId, hcuId⟩ := acquired_of_allocPass hpass
      simp only [CuResource.place, hdevId, hcuId, Int.toNat_natCast] at hdev hcu
      rw [hx, Option.some.injEq] at hdev
      rw [← hdev, hq, Option.some.injEq] at hcu
      rw [hcu, unused_eq, huse] at hunused
      simp at hunused
  | @loaded s₁ s₂ s₃ best msg devId res' hpass hload hon =>
      -- a device in use is not loaded anew
      obtain rfl : res' = res := by simpa [finishAlloc] using hres
      have hfirst := allocPass_attempt prop policyNull (hasXclbin xclbin) unused
        (List.range s.numDevice) s none
      rw [hpass] at hfirst
      have hgood₁ := hgood.evolves (hfirst.touched.evolves hc)
      obtain ⟨-, hjust⟩ := loadAnyDevice_spec hgap xclbin "" hgood₁.sound
      obtain ⟨x, hx, hsame⟩ := hfirst.touched.keepsBusy hgood₁ env xclbin hdev
        (busy_of_inUse hdevSound (List.mem_of_getElem? hcu) huse)
      rw [hload] at hjust hx
      obtain ⟨y, hy, -, huntouched, -⟩ := hjust devId rfl
      simp only [CuResource.place, acquired_of_allocOnLoaded hon, Int.toNat_natCast] at hx
      rw [hx, Option.some.injEq] at hy
      obtain ⟨-, -, -, -, hcus⟩ := content_eq hsame
      have hzero := (huntouched cu (by rw [← hy, hcus]; exact List.mem_of_getElem? hcu)).numClient
      simp [inUse, hzero] at huse
  | @shared s₁ s₂ best hpass hnone hstart =>
      have hallocates := shareLeastUsed_allocates s₂ hnamed xclbin updateId
      have hpos := hallocates.pos hres
      have hfirst := allocPass_attempt prop policyNull (hasXclbin xclbin) unused
        (List.range s.numDevice) s none
      rw [hpass] at hfirst
      have htouch := hfirst.touched
      have hex := exhausted_of_missed hgood.sound hc hpos hpass
      have hex₁ := (htouch.exhausted_iff hgood.sound hc).mpr hex
      exact ⟨hex, s₂, hstart,
        hnone.exhausted (hgood.evolves (htouch.evolves hc)) hgap hc hpos hex₁⟩

theorem SameImages.content {k : Nat} {dev dev₁ : DeviceData} (h : SameImages s s')
    (hdev₁ : s.devList[k]? = some dev₁) (hsame : dev₁.content = dev.content)
    (hload : dev.isLoaded = true) : ∃ dev', s'.devList[k]? = some dev' ∧ dev'.isLoaded = true ∧
      dev'.xclbinName = dev.xclbinName ∧ dev'.uuid = dev.uuid := by
  obtain ⟨dev', hdev', himage⟩ := h.at_ hdev₁
  obtain ⟨hl, -, hn, hu, -⟩ := content_eq hsame
  simp only [DeviceData.image, Prod.mk.injEq] at himage
  exact ⟨dev', hdev', himage.1.trans (hl.trans hload), himage.2.1.trans hn, himage.2.2.trans hu⟩

theorem NoneLoaded.keepsBusy (h : NoneLoaded env prop xclbin s₁ s₂) (htouch : Touched prop s s₁)
    (hgood : s₁.Good D) (hgap : D.gapless → env.Gapless) {k : Nat} {dev : DeviceData}
    (hdev : s.devList[k]? = some dev) (hbusy : dev.isDeviceBusy = true) :
    ∃ dev', s₂.devList[k]? = some dev' ∧ dev'.content = dev.content := by
  obtain ⟨x, hx, hsame⟩ := htouch.keepsBusy hgood env xclbin hdev hbusy
  obtain ⟨-, hjust⟩ := loadAnyDevice_spec hgap xclbin "" hgood.sound
  cases h with
  | unloaded hload =>
      rw [hload] at hx
      exact ⟨x, hx, hsame⟩
  | refused hload hon =>
      rw [hload] at hx
      rw [allocOnLoaded_error hon]
      exact ⟨x, hx, hsame⟩
  | @missed s₃ _ msg devId best hload hon =>
      rw [hload] at hx hjust
      have htouch₂ := (allocOnLoaded_attempt (hjust devId rfl) hon).touched
      obtain ⟨y, hy, hsame'⟩ := htouch₂.sameContent.at_ hx
      exact ⟨y, hy, hsame'.trans hsame⟩

theorem Phases.kept {updateId : Bool} {r : System × Except XrmError CuResource}
    (h : Phases env prop xclbin updateId s r) (hgood : s.Good D) (hgap : D.gapless → env.Gapless)
    (hnamed : prop.unnamed = false) (hc : prop.clientId ≠ 0) {k : Nat} {dev : DeviceData}
    (hdev : s.devList[k]? = some dev) (hbusy : dev.isDeviceBusy = true) :
    ∃ dev', r.1.devList[k]? = some dev' ∧ dev'.isLoaded = true ∧
      dev'.xclbinName = dev.xclbinName ∧ dev'.uuid = dev.uuid := by
  have hload := loaded_of_busy (hgood.sound dev (List.mem_of_getElem? hdev)) hbusy
  have hfirst := allocPass_attempt prop policyNull (hasXclbin xclbin) unused
    (List.range s.numDevice) s none
  cases h with
  | found hpass =>
      rw [hpass] at hfirst
      exact (hfirst.sameImages.finish updateId _).content hdev rfl hload
  | @loaded s₁ s₂ s₃ best msg devId res hpass hloaded hon =>
      rw [hpass] at hfirst
      have hgood₁ := hgood.evolves (hfirst.touched.evolves hc)
      obtain ⟨x, hx, hsame⟩ := hfirst.touched.keepsBusy hgood₁ env xclbin hdev hbusy
      obtain ⟨-, hjust⟩ := loadAnyDevice_spec hgap xclbin "" hgood₁.sound
      rw [hloaded] at hx hjust
      have hattempt := allocOnLoaded_attempt (hjust devId rfl) hon
      exact (hattempt.sameImages.finish updateId res).content hx hsame hload
  | @shared s₁ s₂ best hpass hnone hstart =>
      rw [hpass] at hfirst
      have hgood₁ := hgood.evolves (hfirst.touched.evolves hc)
      obtain ⟨x, hx, hsame⟩ := hnone.keepsBusy hfirst.touched hgood₁ hgap hdev hbusy
      have hallocates := shareLeastUsed_allocates s₂ hnamed xclbin updateId
      exact hallocates.sameImages.content hx hsame hload

/-- In every state that the daemon reaches, the allocation of the least used CU that may load an
xclbin insists on that xclbin in each of its phases. -/
theorem enforces_xclbin {limit : Nat} (h : Reachable allRuns limit s) (hc : prop.clientId ≠ 0)
    (env : XrtEnv) (xclbin : String) (updateId : Bool) :
    s.Enforces env prop xclbin (s.resAllocCuLeastUsedWithLoad env prop xclbin updateId) := by
  have hgood := h.good
  have hgap : allRuns.gapless → env.Gapless := False.elim
  have hhonest := resAllocCuLeastUsedWithLoad_honest hgood hgap hc xclbin updateId
  cases hnamed : prop.unnamed with
  | true =>
      have hrefused : s.resAllocCuLeastUsedWithLoad env prop xclbin updateId =
          (s, .error .invalid) := by rw [resAllocCuLeastUsedWithLoad, if_pos hnamed]
      rw [hrefused] at hhonest ⊢
      refine ⟨by simp, hhonest, by simp, fun k dev hdev hbusy => ⟨dev, hdev, ?_, rfl, rfl⟩⟩
      exact loaded_of_busy (hgood.sound dev (List.mem_of_getElem? hdev)) hbusy
  | false =>
      have hphases := s.resAllocCuLeastUsedWithLoad_phases env hnamed xclbin updateId
      exact
        { placed := fun res hres => hphases.bears hgood False.elim hnamed hc hres
          granted := hhonest
          lastResort := fun res hres => hphases.lastResort hgood False.elim hnamed hc hres
          kept := fun k dev => hphases.kept hgood False.elim hnamed hc }

open Scenario in
/-- The only CU with the xclbin is in use already, and no other device can be loaded. -/
theorem enforces_xclbin_squeezed :
    ((after squeezedRun).resAllocCuLeastUsedWithLoad (Scenario.env 1 1) (request 2 0 100000)
        "scaler.xclbin" true).2.toOption.isSome = true ∧
      (after squeezedRun).Enforces (Scenario.env 1 1) (request 2 0 100000) "scaler.xclbin"
        ((after squeezedRun).resAllocCuLeastUsedWithLoad (Scenario.env 1 1) (request 2 0 100000)
          "scaler.xclbin" true) :=
  ⟨by decide +kernel, enforces_xclbin (reachable_after squeezedRun (by decide +kernel))
    (by decide : (request 2 0 100000).clientId ≠ 0) (Scenario.env 1 1) "scaler.xclbin" true⟩

end System

end Xrm
