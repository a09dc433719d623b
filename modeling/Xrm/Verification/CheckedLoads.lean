import Xrm.Model.CheckedLoads
import Xrm.Verification.Attempt
import Xrm.Verification.Faults
import Xrm.Verification.Indices

/-! # Loads on the way

The operations that load images come to a fault exactly when one of the loads that they make does.
-/

namespace Xrm

open Guard Relation

/-- A device that is not loaded has no CUs. -/
def DeviceData.AtRest (dev : DeviceData) : Prop := dev.isLoaded = false → dev.cuList = []

/-- The driver numbers the kernels of every image apart. -/
def XrtEnv.Apart (env : XrtEnv) : Prop :=
  ∀ xclbin axlf, env.file xclbin = .image axlf →
    ∀ attempt devId, (env.call attempt devId).NumbersImageApart axlf

/-! ## Devices at rest -/

namespace DeviceData

variable {D : Discipline} {dev dev' : DeviceData}

theorem releaseChannels_isLoaded (res : CuResource) (chans : List ChannelData) (dev : DeviceData)
    (cu : CuData) : (releaseChannels res chans dev cu).dev.isLoaded = dev.isLoaded := by
  induction chans generalizing dev cu with
  | nil => rfl
  | cons chan chans ih =>
      rw [releaseChannels]
      split
      · refine (ih _ _).trans ?_
        rw [dropClient_isLoaded]
        exact (sameButLoad_iff_fields (dev.returnLoad_sameButLoad cu res.poolId _)).2.1
      · exact ih _ _

theorem releaseCu_isLoaded (dev : DeviceData) (cuId : Nat) (cu : CuData) (res : CuResource) :
    (dev.releaseCu cuId cu res).1.isLoaded = dev.isLoaded :=
  releaseChannels_isLoaded res cu.channels dev cu

/-- The step lemma: every act leaves a device without CUs, or a loaded one. -/
theorem AtRest.work (h : dev.AtRest) (hwork : Work D dev dev') : dev'.AtRest := by
  cases hwork with
  | touch hc hload hreg =>
      intro hoff
      rw [dropClient_isLoaded, registered_isLoaded hreg, hload] at hoff
      cases hoff
  | grab hs hsvc hreg hcu halloc =>
      intro hoff
      rw [grant_isLoaded, registered_isLoaded hreg] at hoff
      rw [h hoff] at hcu
      cases hcu
  | leak hD hload hc hreg =>
      intro hoff
      rw [registered_isLoaded hreg] at hoff
      rw [registered_cuList hreg, h hoff]
  | steal hD hs hsvc hcu halloc =>
      intro hoff
      rw [grant_isLoaded] at hoff
      rw [h hoff] at hcu
      cases hcu
  | overRelease hD hc =>
      intro hoff
      rw [dropClient_isLoaded] at hoff
      rw [dropClient_cuList, h hoff]
  | takeAll hD hload hsvc hc hidle =>
      intro hoff
      rw [show (dev.allocAllCu _ _ _).isLoaded = dev.isLoaded from rfl, hload] at hoff
      cases hoff
  | release hload hcu hres =>
      intro hoff
      rw [releaseCu_isLoaded, hload] at hoff
      cases hoff
  | clear hidle hcus hload' hex hprocs => exact fun _ => hcus
  | load hload hnumber hcus horder hload' hex hprocs hcurrent hrate =>
      intro hoff
      rw [hload'] at hoff
      cases hoff
  | mark hcus hload hex hprocs hinfo =>
      intro hoff
      rw [hload] at hoff
      rw [hcus, h hoff]

/-- The run lemma. -/
theorem AtRest.works (h : dev.AtRest) (hworks : ReflTransGen (Work D) dev dev') : dev'.AtRest := by
  induction hworks with
  | refl => exact h
  | tail _ hwork ih => exact ih.work hwork

end DeviceData

namespace System

variable {s s' : System} {prop : CuProperty}

def AtRest (s : System) : Prop := ∀ dev ∈ s.devList, dev.AtRest

theorem Sound.atRest {D : Discipline} (h : s.Sound D) : s.AtRest := fun dev hdev =>
  (h dev hdev).unloaded

theorem AtRest.setDev (h : s.AtRest) {dev : DeviceData} (hdev : dev.AtRest) (i : Nat) :
    (s.setDev i dev).AtRest := by
  intro x hx
  rcases List.mem_or_eq_of_mem_set hx with hx | rfl
  · exact h x hx
  · exact hdev

theorem AtRest.onDevice (h : s.AtRest) (i : Nat) (errmsg : String)
    {f : DeviceData → DeviceData × String × Except XrmError Unit}
    (hf : ∀ dev, dev.AtRest → (f dev).1.AtRest) : (s.onDevice i errmsg f).1.AtRest := by
  rw [System.onDevice]
  split
  · exact h
  · rename_i dev hdev
    exact h.setDev (hf dev (h dev (List.mem_of_getElem? hdev))) i

theorem AtRest.initDevices (h : s.AtRest) (env : XrtEnv) : (s.initDevices env).AtRest := by
  rw [System.initDevices]
  split
  · exact h
  split
  · exact h
  · intro dev hdev
    obtain ⟨devId, -, rfl⟩ := List.mem_map.mp hdev
    exact fun _ => rfl

theorem AtRest.deviceLoadXclbin (h : s.AtRest) (env : XrtEnv) (attempt devId : Nat)
    (xclbin errmsg : String) : (s.deviceLoadXclbin env attempt devId xclbin errmsg).1.AtRest :=
  h.onDevice devId errmsg fun dev hdev =>
    hdev.works (dev.deviceLoadXclbin_spec allRuns devId errmsg False.elim).1

theorem AtRest.unload (h : s.AtRest) (env : XrtEnv) (devId : Nat) (errmsg : String) :
    (s.onDevice devId errmsg fun dev =>
      dev.unloadOneDevice devId (env.call 1 devId) errmsg).1.AtRest :=
  h.onDevice devId errmsg fun dev hdev =>
    hdev.works (dev.unloadOneDevice_spec allRuns devId _ errmsg).1

theorem AtRest.loadUnloaded (h : s.AtRest) (env : XrtEnv) (xclbin : String) (devIds : List Nat)
    (errmsg : String) (e : XrmError) : (loadUnloaded env xclbin devIds s errmsg e).1.AtRest := by
  induction devIds generalizing s errmsg e with
  | nil => exact h
  | cons devId devIds ih =>
      have hload := h.deviceLoadXclbin env 0 devId xclbin errmsg
      rw [System.loadUnloaded]
      split
      · exact ih h errmsg e
      split
      · rename_i heq
        rw [heq] at hload
        exact hload
      · rename_i heq
        rw [heq] at hload
        exact ih hload _ _

theorem AtRest.loadAllDevices (h : s.AtRest) (env : XrtEnv) (attempt : Nat) (xclbin : String)
    (devIds : List Nat) (errmsg loadErrmsg : String) (ret : Except XrmError Unit) :
    (loadAllDevices env attempt xclbin devIds s errmsg loadErrmsg ret).1.AtRest := by
  induction devIds generalizing s loadErrmsg ret with
  | nil => exact h
  | cons devId devIds ih =>
      have hload := h.deviceLoadXclbin env attempt devId xclbin loadErrmsg
      rw [System.loadAllDevices]
      split
      · rename_i heq
        rw [heq] at hload
        exact ih hload _ _
      · rename_i heq
        rw [heq] at hload
        exact hload

/-- Registering the client for a search leaves the CUs and the load of a device. -/
theorem Touched.atRest (h : Touched prop s s') (hs : s.AtRest) : s'.AtRest := by
  induction h with
  | refl => exact hs
  | tail _ hstep ih =>
      obtain ⟨i, dev, dev', hdev, htouch, rfl⟩ := hstep
      refine ih.setDev (fun hoff => ?_) i
      rw [htouch.cuList]
      obtain ⟨hload, dev₁, hreg, rfl⟩ := htouch
      rw [DeviceData.dropClient_isLoaded, DeviceData.registered_isLoaded hreg, hload] at hoff
      cases hoff

end System

namespace Checked

variable {s : System} {env : XrtEnv}

/-! ## Which loads come to a fault -/

/-- The image can be loaded on the device. -/
def XclbinSafe (env : XrtEnv) (attempt devId : Nat) (xclbin : String) (s : System) : Prop :=
  ∀ dev, s.devList[devId]? = some dev → LoadSafe dev env (env.call attempt devId) xclbin

theorem loadXclbin_guards (henv : env.Apart) (hs : s.AtRest) (attempt devId : Nat)
    (xclbin errmsg : String) :
    Guards (loadXclbin s env attempt devId xclbin errmsg)
      (s.deviceLoadXclbin env attempt devId xclbin errmsg)
      (XclbinSafe env attempt devId xclbin s) := by
  rw [loadXclbin, System.deviceLoadXclbin, System.onDevice]
  cases hdev : s.devList[devId]? with
  | none => exact (guards_ok _).congr (iff_of_true (by simp [XclbinSafe, hdev]) trivial)
  | some dev =>
      have hload := deviceLoadXclbin_guards env xclbin
        (fun axlf hfile => henv xclbin axlf hfile attempt devId)
        (hs dev (List.mem_of_getElem? hdev)) devId errmsg
      refine (hload.map fun r => (s.setDev devId r.1, r.2)).congr ?_
      simp [XclbinSafe, hdev]

/-- The loads on the devices that are not loaded, up to the first that succeeds. -/
def UnloadedSafe (env : XrtEnv) (xclbin : String) : List Nat → System → String → Prop
  | [], _, _ => True
  | devId :: devIds, s, errmsg =>
      if (s.devList[devId]?.map (·.isLoaded)).getD false then
        UnloadedSafe env xclbin devIds s errmsg
      else
        XclbinSafe env 0 devId xclbin s ∧
          match s.deviceLoadXclbin env 0 devId xclbin errmsg with
          | (_, _, .ok ()) => True
          | (s, errmsg, .error _) => UnloadedSafe env xclbin devIds s errmsg

theorem loadUnloaded_guards (henv : env.Apart) (xclbin : String) (devIds : List Nat)
    (hs : s.AtRest) (errmsg : String) (e : XrmError) :
    Guards (loadUnloaded env xclbin devIds s errmsg e)
      (System.loadUnloaded env xclbin devIds s errmsg e)
      (UnloadedSafe env xclbin devIds s errmsg) := by
  induction devIds generalizing s errmsg e with
  | nil => exact guards_ok _
  | cons devId devIds ih =>
      have hafter := hs.deviceLoadXclbin env 0 devId xclbin errmsg
      have hload := loadXclbin_guards henv hs 0 devId xclbin errmsg
      rw [loadUnloaded, System.loadUnloaded, UnloadedSafe]
      split
      · exact ih hs errmsg e
      generalize s.deviceLoadXclbin env 0 devId xclbin errmsg = r at hafter hload ⊢
      obtain ⟨s₁, errmsg₁, ret⟩ := r
      refine hload.bind fun _ => ?_
      cases ret with
      | ok _ => exact guards_ok _
      | error e₁ => exact ih hafter errmsg₁ e₁

/-- The loads on the devices that are not busy, each behind the unload of the device. -/
def NotBusySafe (env : XrtEnv) (xclbin : String) : List Nat → System → String → Prop
  | [], _, _ => True
  | devId :: devIds, s, errmsg =>
      if (s.devList[devId]?.map (·.isDeviceBusy)).getD false then
        NotBusySafe env xclbin devIds s errmsg
      else
        match s.onDevice devId errmsg fun dev =>
            dev.unloadOneDevice devId (env.call 1 devId) errmsg with
        | (s, errmsg, .error _) => NotBusySafe env xclbin devIds s errmsg
        | (s, errmsg, .ok ()) =>
            XclbinSafe env 1 devId xclbin s ∧
              match s.deviceLoadXclbin env 1 devId xclbin errmsg with
              | (_, _, .ok ()) => True
              | (s, errmsg, .error _) => NotBusySafe env xclbin devIds s errmsg

theorem loadNotBusy_guards (henv : env.Apart) (xclbin : String) (devIds : List Nat)
    (hs : s.AtRest) (errmsg : String) (e : XrmError) :
    Guards (loadNotBusy env xclbin devIds s errmsg e)
      (System.loadNotBusy env xclbin devIds s errmsg e)
      (NotBusySafe env xclbin devIds s errmsg) := by
  induction devIds generalizing s errmsg e with
  | nil => exact guards_ok _
  | cons devId devIds ih =>
      have hunload := hs.unload env devId errmsg
      rw [loadNotBusy, System.loadNotBusy, NotBusySafe]
      split
      · exact ih hs errmsg e
      generalize (s.onDevice devId errmsg fun dev =>
        dev.unloadOneDevice devId (env.call 1 devId) errmsg) = r at hunload ⊢
      obtain ⟨s₁, errmsg₁, ret⟩ := r
      cases ret with
      | error e₁ => exact ih hunload errmsg₁ e
      | ok _ =>
          have hunload : s₁.AtRest := hunload
          have hafter := hunload.deviceLoadXclbin env 1 devId xclbin errmsg₁
          have hload := loadXclbin_guards henv hunload 1 devId xclbin errmsg₁
          simp only
          generalize s₁.deviceLoadXclbin env 1 devId xclbin errmsg₁ = r at hafter hload ⊢
          obtain ⟨s₂, errmsg₂, ret⟩ := r
          refine hload.bind fun _ => ?_
          cases ret with
          | ok _ => exact guards_ok _
          | error e₂ => exact ih hafter errmsg₂ e₂

/-- The loads of `loadAnyDevice`. -/
def AnySafe (env : XrtEnv) (xclbin : String) (s : System) : Prop :=
  xclbin = "" ∨
    UnloadedSafe env xclbin (List.range (s.initDevices env).numDevice) (s.initDevices env) "" ∧
      match System.loadUnloaded env xclbin (List.range (s.initDevices env).numDevice)
          (s.initDevices env) "" .error with
      | (_, _, .ok _) => True
      | (s, errmsg, .error _) => NotBusySafe env xclbin (List.range s.numDevice) s errmsg

theorem loadAnyDevice_guards (henv : env.Apart) (hs : s.AtRest) (xclbin errmsg : String) :
    Guards (loadAnyDevice s env xclbin errmsg) (s.loadAnyDevice env xclbin errmsg)
      (AnySafe env xclbin s) := by
  rw [loadAnyDevice, System.loadAnyDevice, AnySafe]
  have hinit := hs.initDevices env
  generalize s.initDevices env = s₁ at hinit ⊢
  by_cases hempty : xclbin = ""
  · simp only [if_pos hempty]
    exact (guards_ok _).congr (iff_of_true (.inl hempty) trivial)
  simp only [if_neg hempty]
  refine Guards.congr ?_ (or_iff_right hempty)
  have hafter := hinit.loadUnloaded env xclbin (List.range s₁.numDevice) "" .error
  have hload := loadUnloaded_guards henv xclbin (List.range s₁.numDevice) hinit "" .error
  generalize System.loadUnloaded env xclbin (List.range s₁.numDevice) s₁ "" .error = r
    at hafter hload ⊢
  obtain ⟨s₂, errmsg₂, ret⟩ := r
  refine hload.bind fun _ => ?_
  cases ret with
  | ok devId => exact guards_ok _
  | error e =>
      have hbusy := loadNotBusy_guards henv xclbin (List.range s₂.numDevice) hafter errmsg₂ e
      simp only at hbusy ⊢
      generalize System.loadNotBusy env xclbin (List.range s₂.numDevice) s₂ errmsg₂ e = r
        at hbusy ⊢
      obtain ⟨s₃, errmsg₃, ret⟩ := r
      refine (hbusy.bind fun _ => ?_).congr (and_iff_left trivial).symm
      cases ret <;> exact guards_ok _

/-- The loads of `loadOneDevice`. -/
def OneSafe (env : XrtEnv) (devId : Int) (xclbin : String) (s : System) : Prop :=
  xclbin = "" ∨ (devId < -1 ∨ devId ≥ (s.initDevices env).numDevice) ∨
    if devId ≠ -1 then XclbinSafe env 0 devId.toNat xclbin (s.initDevices env)
    else AnySafe env xclbin (s.initDevices env)

theorem loadOneDevice_guards (henv : env.Apart) (hs : s.AtRest) (devId : Int)
    (xclbin errmsg : String) :
    Guards (loadOneDevice s env devId xclbin errmsg) (s.loadOneDevice env devId xclbin errmsg)
      (OneSafe env devId xclbin s) := by
  rw [loadOneDevice, System.loadOneDevice, OneSafe]
  have hinit := hs.initDevices env
  generalize s.initDevices env = s₁ at hinit ⊢
  by_cases hempty : xclbin = ""
  · simp only [if_pos hempty]
    exact (guards_ok _).congr (iff_of_true (.inl hempty) trivial)
  simp only [if_neg hempty]
  refine Guards.congr ?_ (or_iff_right hempty)
  by_cases hrange : devId < -1 ∨ devId ≥ s₁.numDevice
  · simp only [if_pos hrange]
    exact (guards_ok _).congr (iff_of_true (.inl hrange) trivial)
  simp only [if_neg hrange]
  refine Guards.congr ?_ (or_iff_right hrange)
  by_cases hone : devId ≠ -1
  · simp only [if_pos hone]
    have hload := loadXclbin_guards henv hinit 0 devId.toNat xclbin ""
    generalize s₁.deviceLoadXclbin env 0 devId.toNat xclbin "" = r at hload ⊢
    obtain ⟨s₂, errmsg₂, ret⟩ := r
    refine (hload.bind fun _ => ?_).congr (and_iff_left trivial).symm
    cases ret <;> exact guards_ok _
  · simp only [if_neg hone]
    have hload := loadAnyDevice_guards henv hinit xclbin ""
    generalize s₁.loadAnyDevice env xclbin "" = r at hload ⊢
    obtain ⟨s₂, errmsg₂, ret⟩ := r
    refine (hload.bind fun _ => ?_).congr (and_iff_left trivial).symm
    cases ret <;> exact guards_ok _

/-- The loads of one entry of a request for all devices, up to the first that fails. -/
def AllSafe (env : XrtEnv) (attempt : Nat) (xclbin : String) :
    List Nat → System → String → Prop
  | [], _, _ => True
  | devId :: devIds, s, loadErrmsg =>
      XclbinSafe env attempt devId xclbin s ∧
        match s.deviceLoadXclbin env attempt devId xclbin loadErrmsg with
        | (s, loadErrmsg, .ok ()) => AllSafe env attempt xclbin devIds s loadErrmsg
        | (_, _, .error _) => True

/-- The result of `System.loadAllDevices` without the message for the client. -/
def withoutErrmsg (r : System × String × String × Except XrmError Unit) :
    System × String × Except XrmError Unit := (r.1, r.2.2)

theorem loadAllDevices_guards (henv : env.Apart) (attempt : Nat) (xclbin : String)
    (devIds : List Nat) (hs : s.AtRest) (errmsg loadErrmsg : String) :
    Guards (loadAllDevices env attempt xclbin devIds s loadErrmsg)
      (withoutErrmsg
        (System.loadAllDevices env attempt xclbin devIds s errmsg loadErrmsg (.ok ())))
      (AllSafe env attempt xclbin devIds s loadErrmsg) := by
  induction devIds generalizing s loadErrmsg with
  | nil => exact guards_ok _
  | cons devId devIds ih =>
      have hafter := hs.deviceLoadXclbin env attempt devId xclbin loadErrmsg
      have hload := loadXclbin_guards henv hs attempt devId xclbin loadErrmsg
      rw [loadAllDevices, System.loadAllDevices, AllSafe]
      generalize s.deviceLoadXclbin env attempt devId xclbin loadErrmsg = r at hafter hload ⊢
      obtain ⟨s₁, loadErrmsg₁, ret⟩ := r
      refine hload.bind fun _ => ?_
      cases ret with
      | ok _ => exact ih hafter loadErrmsg₁
      | error e => exact guards_ok _

/-! ## Allocations that load -/

/-- The loads of `resAllocCuWithLoad`, where no CU is found before. -/
def WithLoadSafe (env : XrtEnv) (prop : CuProperty) (xclbin : String) (s : System) : Prop :=
  prop.unnamed = true ∨
    match s.allocTwice prop policyNull with
    | (_, .acquired _) => True
    | (s, .missed _) => AnySafe env xclbin s

theorem resAllocCuWithLoad_guards (henv : env.Apart) (hs : s.AtRest) (prop : CuProperty)
    (xclbin : String) (updateId : Bool) :
    Guards (resAllocCuWithLoad s env prop xclbin updateId)
      (s.resAllocCuWithLoad env prop xclbin updateId) (WithLoadSafe env prop xclbin s) := by
  rw [resAllocCuWithLoad, System.resAllocCuWithLoad, WithLoadSafe]
  by_cases hname : prop.unnamed = true
  · simp only [if_pos hname]
    exact (guards_ok _).congr (iff_of_true (.inl hname) trivial)
  simp only [if_neg hname]
  refine Guards.congr ?_ (or_iff_right hname)
  have hattempt := s.allocTwice_attempt prop policyNull
  generalize s.allocTwice prop policyNull = r at hattempt ⊢
  obtain ⟨s₁, found⟩ := r
  cases found with
  | acquired res => exact guards_ok _
  | missed q =>
      have hrest : s₁.AtRest := by
        cases hattempt with
        | missed htouch => exact htouch.atRest hs
      have hload := loadAnyDevice_guards henv hrest xclbin ""
      simp only
      generalize s₁.loadAnyDevice env xclbin "" = r at hload ⊢
      obtain ⟨s₂, errmsg, ret⟩ := r
      refine (hload.bind fun _ => ?_).congr (and_iff_left trivial).symm
      cases ret with
      | error e => exact guards_ok _
      | ok devId =>
          simp only
          generalize s₂.allocOnLoaded devId prop unused = r
          obtain ⟨s₃, _ | _ | _⟩ := r <;> exact guards_ok _

/-- The loads of `resAllocCuLeastUsedWithLoad`, where no CU is unused. -/
def LeastUsedWithLoadSafe (env : XrtEnv) (prop : CuProperty) (xclbin : String) (s : System) :
    Prop :=
  prop.unnamed = true ∨
    match System.allocPass prop policyNull (fun dev => dev.xclbinName == xclbin) unused
        (List.range s.numDevice) s none with
    | (_, .acquired _) => True
    | (s, .missed _) => AnySafe env xclbin s

theorem resAllocCuLeastUsedWithLoad_guards (henv : env.Apart) (hs : s.AtRest) (prop : CuProperty)
    (xclbin : String) (updateId : Bool) :
    Guards (resAllocCuLeastUsedWithLoad s env prop xclbin updateId)
      (s.resAllocCuLeastUsedWithLoad env prop xclbin updateId)
      (LeastUsedWithLoadSafe env prop xclbin s) := by
  rw [resAllocCuLeastUsedWithLoad, System.resAllocCuLeastUsedWithLoad, LeastUsedWithLoadSafe]
  by_cases hname : prop.unnamed = true
  · simp only [if_pos hname]
    exact (guards_ok _).congr (iff_of_true (.inl hname) trivial)
  simp only [if_neg hname]
  refine Guards.congr ?_ (or_iff_right hname)
  have hattempt := System.allocPass_attempt prop policyNull (fun dev => dev.xclbinName == xclbin)
    unused (List.range s.numDevice) s none
  generalize System.allocPass prop policyNull (fun dev => dev.xclbinName == xclbin) unused
    (List.range s.numDevice) s none = r at hattempt ⊢
  obtain ⟨s₁, found⟩ := r
  cases found with
  | acquired res => exact guards_ok _
  | missed q =>
      have hrest : s₁.AtRest := by
        cases hattempt with
        | missed htouch => exact htouch.atRest hs
      have hload := loadAnyDevice_guards henv hrest xclbin ""
      simp only
      generalize s₁.loadAnyDevice env xclbin "" = r at hload ⊢
      obtain ⟨s₂, errmsg, ret⟩ := r
      refine (hload.bind fun _ => ?_).congr (and_iff_left trivial).symm
      cases ret with
      | error e => exact guards_ok _
      | ok devId =>
          simp only
          generalize s₂.allocOnLoaded devId prop (fun _ => true) = r
          obtain ⟨s₃, _ | _ | _⟩ := r <;> exact guards_ok _

theorem resLoadAndAllocAllCu_guards (henv : env.Apart) (hs : s.AtRest) (xclbin : String)
    (clientId : Nat) (clientProcessId : Int) :
    Guards (resLoadAndAllocAllCu s env xclbin clientId clientProcessId)
      (s.resLoadAndAllocAllCu env xclbin clientId clientProcessId) (AnySafe env xclbin s) := by
  rw [resLoadAndAllocAllCu, System.resLoadAndAllocAllCu]
  have hload := loadAnyDevice_guards henv hs xclbin ""
  generalize s.loadAnyDevice env xclbin "" = r at hload ⊢
  obtain ⟨s₁, errmsg, ret⟩ := r
  refine (hload.bind fun _ => ?_).congr (and_iff_left trivial).symm
  cases ret with
  | error e => exact guards_ok _
  | ok devId =>
      simp only
      cases s₁.devList[devId]? <;> exact guards_ok _

end Checked

end Xrm
