import Xrm.Verification.Attempt

/-! # Allocations of one CU

Each allocation changes the devices by acts of the discipline. Four of them take a branch that
loses or invents a reference of the client; for these the condition that keeps a discipline is
a definition of its own.
-/

namespace Xrm

open Relation

namespace System

variable {D : Discipline} {s s' : System} {prop : CuProperty}

/-! ## Allocations without a condition -/

/-- The outcome of an allocation that leaves no trace when it fails but touched devices. -/
inductive Allocates (prop : CuProperty) (updateId : Bool) (s : System) :
    System × Except XrmError CuResource → Prop where
  | failed {s' : System} {e : XrmError} (h : Touched prop s s') :
      Allocates prop updateId s (s', .error e)
  | granted {s' : System} {res : CuResource} (hnamed : prop.unnamed = false)
      (h : Attempt prop s.getNextAllocServiceId s s' (some res)) :
      Allocates prop updateId s (s'.finishAlloc updateId res)

theorem finishAlloc_evolves (D : Discipline) (s : System) (updateId : Bool) (res : CuResource) :
    Develops D s (s.finishAlloc updateId res).1 := by
  rw [finishAlloc]
  split
  · exact evolves_of_devs rfl ⟨id, rfl, rfl, rfl⟩ rfl rfl rfl
  · exact evolves_refl D s

theorem Allocates.evolves {updateId : Bool} {r : System × Except XrmError CuResource}
    (h : Allocates prop updateId s r) (hs : prop.Received) : Develops D s r.1 := by
  cases h with
  | failed h => exact h.evolves hs.1
  | granted _ h =>
      exact (h.evolves hs (nextId_ne_zero _)).trans (finishAlloc_evolves D _ updateId _)

theorem Allocates.clientId {updateId : Bool} {r : System × Except XrmError CuResource}
    (h : Allocates prop updateId s r) {res : CuResource} (hres : r.2 = .ok res) :
    res.clientId = prop.clientId := by
  cases h with
  | failed h => simp at hres
  | granted _ h =>
      simp only [finishAlloc, Except.ok.injEq] at hres
      subst hres
      exact h.clientId

theorem resAllocCu_allocates (s : System) (prop : CuProperty) (updateId : Bool) :
    Allocates prop updateId s (s.resAllocCu prop updateId) := by
  have htwice := s.allocTwice_attempt prop policyNull
  rw [resAllocCu]
  split
  · exact .failed .refl
  rename_i hnamed
  split
  · rename_i heq
    rw [heq] at htwice
    exact .granted (by simpa using hnamed) htwice
  · rename_i heq
    rw [heq] at htwice
    exact .failed htwice.touched

/-! ### On a given device -/

/-- A registration on a given device. -/
theorem registerOn_spec {deviceId : Int} {devId : Nat} {dev₁ : DeviceData}
    (h : s.registerOn deviceId prop = .ok (devId, dev₁)) :
    prop.unnamed = false ∧ ∃ dev, s.devList[devId]? = some dev ∧ dev.isLoaded = true ∧
      dev.allocClientFromDev prop = .ok dev₁ := by
  rw [registerOn] at h
  split at h
  · simp at h
  split at h
  · simp at h
  rename_i hnamed
  split at h
  · simp at h
  rename_i dev hdev
  split at h
  · rename_i hfree
    split at h
    · rename_i hreg
      simp only [Except.ok.injEq, Prod.mk.injEq] at h
      obtain ⟨rfl, rfl⟩ := h
      exact ⟨by simpa using hnamed, dev, hdev, DeviceData.isLoaded_of_isFreeForClient hfree, hreg⟩
    · simp at h
  · simp at h

theorem registerOn_devId {deviceId : Int} {devId : Nat} {dev₁ : DeviceData}
    (h : s.registerOn deviceId prop = .ok (devId, dev₁)) : (devId : Int) = deviceId := by
  rw [registerOn] at h
  split at h
  · simp at h
  rename_i i hi
  have hdevId : i = devId := by
    repeat' split at h
    all_goals simp at h
    exact h.1
  rw [devIndex, Option.ite_none_right_eq_some, Option.some.injEq] at hi
  omega

/-- What settling a search on a registered device of the table does. -/
theorem attempt_of_settle {i policyInfo : Nat} {dev dev₁ : DeviceData} {search : CuSearch}
    (svc : Nat) (hdev : s.devList[i]? = some dev) (hload : dev.isLoaded = true)
    (hreg : dev.allocClientFromDev prop = .ok dev₁)
    (hsearch : ∀ cuId cu' chanId, search = .acquired cuId cu' chanId →
      Acquired prop svc policyInfo dev₁.cuList cuId cu' chanId) :
    Attempt prop svc s (s.setDev i (dev₁.settle i prop svc search).1)
      (dev₁.settle i prop svc search).2.found := by
  rcases DeviceData.settle_cases hload hreg hsearch with ⟨res, hres, hgrab⟩ | ⟨q, -, hq, htouch⟩
  · rw [hres]
    exact .acquired .refl hdev hgrab
  · rw [hq]
    exact .missed (.single ⟨i, dev, _, hdev, htouch, rfl⟩)

theorem resAllocCuFromDev_allocates (s : System) (deviceId : Int) (prop : CuProperty)
    (updateId : Bool) : Allocates prop updateId s (s.resAllocCuFromDev deviceId prop updateId) := by
  rw [resAllocCuFromDev]
  split
  · exact .failed .refl
  · rename_i devId dev₁ hreg
    obtain ⟨hnamed, dev, hdev, hload, hreg⟩ := registerOn_spec hreg
    have hsettle := attempt_of_settle s.getNextAllocServiceId hdev hload hreg
      fun cuId cu' chanId => acquired_of_searchCuTwice policyNull devId
    split
    · rename_i heq
      rw [heq] at hsettle
      exact .granted hnamed hsettle
    · rename_i heq
      rw [heq] at hsettle
      exact .failed hsettle.touched

/-! ## Allocation by the load of the CUs -/

/-- The deferred attempt on a registered device. -/
theorem allocPreCu_acts {dev dev₁ : DeviceData} {svc cuId devId : Nat} (hs : prop.Received)
    (hsvc : svc ≠ 0) (hreg : dev.allocClientFromDev prop = .ok dev₁)
    (hload : D.covered → dev.isLoaded = true)
    (hgives : D.covered → D.balanced → ∃ cu, dev₁.cuList[cuId]? = some cu ∧ cu.Gives prop svc) :
    ReflTransGen (DeviceData.Work D) dev (dev₁.allocPreCu devId prop svc cuId).1 := by
  rcases dev₁.allocPreCu_cases devId prop svc cuId with
    ⟨hsame, hno⟩ | ⟨cu, cu', chanId, hcu, halloc, heq⟩
  · rw [hsame]
    refine .single (.leak (fun hD hB => ?_) hload hs.1 hreg)
    obtain ⟨cu, hcu, hgive⟩ := hgives hD hB
    exact hno cu hcu hgive
  · rw [heq]
    rw [DeviceData.registered_cuList hreg] at hcu
    exact .single (.grab hs hsvc hreg hcu halloc)

/-- The CU that `resAllocCuFromDevByCuLoad` comes back to has a free channel. -/
def FromDevHasRoom (s : System) (deviceId : Int) (propV2 : CuPropertyV2) : Prop :=
  ∀ devId dev q, s.registerOn deviceId (cuPropertyCopyFromV2 propV2) = .ok (devId, dev) →
    searchCuTwice (cuPropertyCopyFromV2 propV2) s.getNextAllocServiceId propV2.policyInfo devId
      dev.cuList = .missed (some q) → q.cu.numChanInuse < maxKernelChannels

theorem resAllocCuFromDevByCuLoad_evolves (hsound : s.Sound D) (deviceId : Int)
    (propV2 : CuPropertyV2) (updateId : Bool) (hs : propV2.Received)
    (hroom : D.covered → D.balanced → s.FromDevHasRoom deviceId propV2) :
    Develops D s (s.resAllocCuFromDevByCuLoad deviceId propV2 updateId).1 := by
  have hs' : (cuPropertyCopyFromV2 propV2).Received := hs
  rw [resAllocCuFromDevByCuLoad]
  simp only
  split
  · exact evolves_refl D s
  · rename_i devId dev₁ hregOn
    obtain ⟨-, dev, hdev, hload, hreg⟩ := registerOn_spec hregOn
    have hcons := (hsound dev (List.mem_of_getElem? hdev)).consistent
    rw [← DeviceData.registered_cuList hreg] at hcons
    split
    · rename_i q hsearch
      refine (evolves_setDev hdev ?_).trans (finishAlloc_evolves D _ updateId _)
      refine allocPreCu_acts hs' (nextId_ne_zero _) hreg (fun _ => hload) fun hD hB => ?_
      exact (remembered_of_searchCuTwice hsearch).gives hcons
        (hroom hD hB devId dev₁ q hregOn hsearch)
    · have hsettle := attempt_of_settle s.getNextAllocServiceId hdev hload hreg
        fun cuId cu' chanId => acquired_of_searchCuTwice propV2.policyInfo devId
      split
      · rename_i heq
        rw [heq] at hsettle
        exact (hsettle.evolves hs' (nextId_ne_zero _)).trans
          (finishAlloc_evolves D _ updateId _)
      · rename_i heq
        rw [heq] at hsettle
        exact hsettle.evolves hs' (nextId_ne_zero _)

/-- The CU that `resAllocCuByCuLoad` comes back to, after the client has been dropped
everywhere, has no free channel. -/
def PreCuIsFull (s : System) (propV2 : CuPropertyV2) : Prop :=
  ∀ s₁ q dev cu, s.allocTwice (cuPropertyCopyFromV2 propV2) propV2.policyInfo =
    (s₁, .missed (some q)) → s₁.devList[q.devId]? = some dev → dev.cuList[q.cuId]? = some cu →
      maxKernelChannels ≤ cu.numChanInuse

theorem resAllocCuByCuLoad_evolves (hsound : s.Sound D) (propV2 : CuPropertyV2)
    (updateId : Bool) (hs : propV2.Received) (hfull : D.covered → s.PreCuIsFull propV2) :
    Develops D s (s.resAllocCuByCuLoad propV2 updateId).1 := by
  have hs' : (cuPropertyCopyFromV2 propV2).Received := hs
  have htwice := s.allocTwice_attempt (cuPropertyCopyFromV2 propV2) propV2.policyInfo
  have hev : Develops D s _ := htwice.evolves hs' (nextId_ne_zero _)
  rw [resAllocCuByCuLoad]
  simp only
  split
  · rename_i heq
    rw [heq] at hev
    exact hev.trans (finishAlloc_evolves D _ updateId _)
  · rename_i heq
    rw [heq] at hev
    exact hev
  · rename_i s₁ q heq
    rw [heq] at hev
    split
    · exact hev
    · rename_i dev hdev
      refine (hev.trans (evolves_setDev hdev ?_)).trans (finishAlloc_evolves D _ updateId _)
      rcases dev.allocPreCu_cases q.devId (cuPropertyCopyFromV2 propV2) s₁.getNextAllocServiceId
        q.cuId with ⟨hsame, -⟩ | ⟨cu, cu', chanId, hcu, halloc, hnew⟩
      · rw [hsame]
      · rw [hnew]
        refine .single (.steal (fun hD => ?_) hs' (nextId_ne_zero _) hcu halloc)
        have hcons := (hev.sound hsound dev (List.mem_of_getElem? hdev)).consistent cu
          (List.mem_of_getElem? hcu)
        have := hfull hD s₁ q dev cu heq hdev hcu
        exact CuData.not_gives_of_full hcons (by omega) ⟨cu', chanId, halloc⟩

/-! ## Allocation by the load of the devices -/

/-- What keeps the discipline on the way through the devices: every device on which nothing
was found is loaded, and the CU that is come back to has a free channel. -/
def DevLoadOk (D : Discipline) (prop : CuProperty) (policyInfo : Nat) :
    List Nat → System → Prop
  | [], _ => True
  | devId :: devIds, s =>
      match s.devList[devId]? with
      | none => DevLoadOk D prop policyInfo devIds s
      | some dev =>
          match dev.allocClientFromDev prop with
          | .error _ => DevLoadOk D prop policyInfo devIds s
          | .ok dev₁ =>
              match searchCu prop s.getNextAllocServiceId policyInfo (fun _ => true) devId 0
                  dev₁.cuList none with
              | .acquired _ _ _ => True
              | .missed (some q) =>
                  D.covered → D.balanced → q.cu.numChanInuse < maxKernelChannels
              | .missed none =>
                  (D.covered → dev.isLoaded = true) ∧
                    DevLoadOk D prop policyInfo devIds
                      (s.setDev devId (dev₁.dropClient prop.clientId))

theorem devLoadOk_of_uncovered (hD : ¬D.covered) (prop : CuProperty) (policyInfo : Nat)
    (devIds : List Nat) (s : System) : DevLoadOk D prop policyInfo devIds s := by
  induction devIds generalizing s with
  | nil => trivial
  | cons devId devIds ih =>
      rw [DevLoadOk]
      split
      · exact ih s
      split
      · exact ih s
      split
      · trivial
      · exact fun h => absurd h hD
      · exact ⟨fun h => absurd h hD, ih _⟩

theorem allocByDevLoad_evolves (policyInfo : Nat) (updateId : Bool) (hs : prop.Received)
    (devIds : List Nat) (s : System) (hsound : s.Sound D)
    (hok : DevLoadOk D prop policyInfo devIds s) :
    Develops D s (allocByDevLoad prop policyInfo updateId devIds s).1 := by
  induction devIds generalizing s with
  | nil => exact evolves_refl D s
  | cons devId devIds ih =>
      rw [allocByDevLoad]
      rw [DevLoadOk] at hok
      split
      · rename_i hnone
        rw [hnone] at hok
        exact ih s hsound hok
      rename_i dev hdev
      rw [hdev] at hok
      simp only at hok
      split
      · rename_i herr
        rw [herr] at hok
        exact ih s hsound hok
      rename_i dev₁ hreg
      rw [hreg] at hok
      simp only at hok ⊢
      have hdevSound := hsound dev (List.mem_of_getElem? hdev)
      have hcons := hdevSound.consistent
      rw [← DeviceData.registered_cuList hreg] at hcons
      split
      · rename_i q hsearch
        rw [hsearch] at hok
        have hmem := (remembered_of_searchCu hsearch).resolve_left (by simp)
        refine (evolves_setDev hdev ?_).trans (finishAlloc_evolves D _ updateId _)
        refine allocPreCu_acts hs (nextId_ne_zero _) hreg (fun _ => ?_)
          fun hD hB => hmem.gives hcons (hok hD hB)
        by_contra hload
        have hnone := hmem.mem
        rw [DeviceData.registered_cuList hreg,
          hdevSound.unloaded (Bool.eq_false_iff.mpr hload)] at hnone
        simp at hnone
      · rename_i search hsearch
        cases hcase : searchCu prop s.getNextAllocServiceId policyInfo (fun _ => true) devId 0
            dev₁.cuList none with
        | acquired cuId cu' chanId =>
            have hacq := acquired_of_searchCu hcase
            obtain ⟨cu, pre, hcu, -, halloc⟩ := hacq.found
            rw [DeviceData.registered_cuList hreg] at hcu
            exact (evolves_setDev hdev
              (.single (.grab hs (nextId_ne_zero _) hreg hcu halloc))).trans
              (finishAlloc_evolves D _ updateId _)
        | missed q =>
            cases q with
            | some q => exact absurd hcase (hsearch q)
            | none =>
                rw [hcase] at hok
                have hact : DeviceData.Work D dev (dev₁.dropClient prop.clientId) := by
                  by_cases hload : dev.isLoaded = true
                  · exact .touch hs.1 hload hreg
                  · have hnotD : ¬D.covered := fun hD => hload (hok.1 hD)
                    have hrefused : dev₁.dropClient prop.clientId = dev₁ := by
                      rw [DeviceData.dropClient, DeviceData.releaseClientOnDev,
                        DeviceData.registered_isLoaded hreg, Bool.eq_false_iff.mpr hload]
                      rfl
                    rw [hrefused]
                    exact .leak (fun hD => absurd hD hnotD) (fun hD => absurd hD hnotD) hs.1 hreg
                have hev := evolves_setDev hdev (.single hact)
                exact hev.trans (ih _ (hev.sound hsound) hok.2)

theorem resAllocCuByDevLoad_evolves (hsound : s.Sound D) (propV2 : CuPropertyV2)
    (updateId : Bool) (hs : propV2.Received)
    (hok : DevLoadOk D (cuPropertyCopyFromV2 propV2) propV2.policyInfo
      (s.devLoadOrder propV2.policyInfo) s) :
    Develops D s (s.resAllocCuByDevLoad propV2 updateId).1 :=
  allocByDevLoad_evolves _ updateId (show (cuPropertyCopyFromV2 propV2).Received from hs) _ s hsound
    hok

end System

end Xrm
