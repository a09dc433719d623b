import Xrm.Verification.Access
import Xrm.Verification.ListEvolves

/-! # Twin states

Two devices are twins for a client when they differ in their client tables at most and let the
client register for the same requests. What the client does to its own entries makes a twin of a
device, and does the same to the twins of it.
-/

namespace Xrm

open FixedTable

variable {prop : CuProperty} {c : Nat}

namespace DeviceData

variable {dev dev' dev₁ dev₁' : DeviceData}

/-! ## Twin devices -/

/-- The devices are the same but for the client tables, and the client may use the one for the
same requests as the other. -/
structure Twin (c : Nat) (dev dev' : DeviceData) : Prop where
  frame : dev' = { dev with isExcl := dev'.isExcl, clientProcs := dev'.clientProcs }
  shape : dev.TableShape
  shape' : dev'.TableShape
  access : ∀ prop : CuProperty, prop.clientId = c → (dev'.Usable prop ↔ dev.Usable prop)

namespace Twin

theorem refl (hs : dev.TableShape) : dev.Twin c dev where
  frame := rfl
  shape := hs
  shape' := hs
  access := fun _ _ => .rfl

theorem symm (h : dev.Twin c dev') : dev'.Twin c dev where
  frame := by rw [h.frame]
  shape := h.shape'
  shape' := h.shape
  access := fun prop hc => (h.access prop hc).symm

theorem trans (h : dev.Twin c dev₁) (h' : dev₁.Twin c dev') : dev.Twin c dev' where
  frame := by rw [h'.frame, h.frame]
  shape := h.shape
  shape' := h'.shape'
  access := fun prop hc => (h'.access prop hc).trans (h.access prop hc)

theorem isLoaded (h : dev.Twin c dev') : dev'.isLoaded = dev.isLoaded := by rw [h.frame]

theorem cuList (h : dev.Twin c dev') : dev'.cuList = dev.cuList := by rw [h.frame]

end Twin

theorem twin_registered (hs : dev.TableShape) (hc : prop.clientId ≠ 0)
    (hreg : dev.allocClientFromDev prop = .ok dev₁) : dev.Twin prop.clientId dev₁ where
  frame := (allocClientFromDev_spec hreg).frame
  shape := hs
  shape' := (allocClientFromDev_spec hreg).shape hs hc
  access := fun _ hsame => (allocClientFromDev_spec hreg).usable_iff hs.pos hsame

theorem twin_dropClient (hs : dev.TableShape) (hc : c ≠ 0) : dev.Twin c (dev.dropClient c) where
  frame := (dev.dropClient_spec c).frame
  shape := hs
  shape' := (dev.dropClient_spec c).shape hs hc
  access := fun _ hsame => (dev.dropClient_spec c).usable_iff hs.pos hsame

namespace Twin

theorem dropClient (h : dev.Twin c dev') (hc : c ≠ 0) :
    (dev.dropClient c).Twin c (dev'.dropClient c) :=
  (twin_dropClient h.shape hc).symm.trans (h.trans (twin_dropClient h.shape' hc))

/-- A change that does not look at the client table. -/
theorem map (h : dev.Twin c dev') {f : DeviceData → DeviceData}
    (htable : ∀ (dev : DeviceData) (isExcl : Bool) (clientProcs : List ClientData),
      f { dev with isExcl := isExcl, clientProcs := clientProcs } =
        { f dev with isExcl := isExcl, clientProcs := clientProcs })
    (hload : ∀ dev, (f dev).isLoaded = dev.isLoaded) : (f dev).Twin c (f dev') := by
  have hkept : ∀ dev, (f dev).isExcl = dev.isExcl ∧ (f dev).clientProcs = dev.clientProcs := by
    intro dev
    have heq := htable dev dev.isExcl dev.clientProcs
    have hex := congrArg DeviceData.isExcl heq
    have hprocs := congrArg DeviceData.clientProcs heq
    exact ⟨hex, hprocs⟩
  obtain ⟨hex, hprocs⟩ := hkept dev
  obtain ⟨hex', hprocs'⟩ := hkept dev'
  refine ⟨?_, h.shape.congr hex hprocs, h.shape'.congr hex' hprocs', ?_⟩
  · rw [hex', hprocs', ← htable, ← h.frame]
  · intro prop hc
    have haccess := h.access prop hc
    rw [usable_iff_ownEntry, usable_iff_ownEntry] at haccess ⊢
    rwa [DeviceData.holder, DeviceData.holder, hload, hload, hex, hex', hprocs, hprocs']

theorem setCu (h : dev.Twin c dev') (cuId : Nat) (cu : CuData) :
    (dev.setCu cuId cu).Twin c (dev'.setCu cuId cu) :=
  @map _ _ _ h (·.setCu cuId cu) (fun _ _ _ => rfl) fun _ => rfl

theorem updateDeviceLoad (h : dev.Twin c dev') (change setVal : Int) :
    (dev.updateDeviceLoad change setVal).Twin c (dev'.updateDeviceLoad change setVal) :=
  @map _ _ _ h (·.updateDeviceLoad change setVal) (fun _ _ _ => rfl) fun _ => rfl

theorem grant (h : dev.Twin c dev') (prop : CuProperty) (cuId : Nat) (cu : CuData) :
    (dev.grant prop cuId cu).Twin c (dev'.grant prop cuId cu) := by
  rw [DeviceData.grant, DeviceData.grant]
  split
  · exact h.setCu cuId cu
  · exact (h.setCu cuId cu).updateDeviceLoad _ _

theorem grantedResource (h : dev.Twin c dev') (devId : Nat) (prop : CuProperty)
    (svc cuId : Nat) (cu : CuData) (chanId : Nat) :
    dev'.grantedResource devId prop svc cuId cu chanId =
      dev.grantedResource devId prop svc cuId cu chanId := by
  rw [h.frame]
  rfl

/-- The client can be registered on both devices or on none. -/
theorem registers (h : dev.Twin prop.clientId dev') (hload : dev.isLoaded = true)
    (hc : prop.clientId ≠ 0) :
    (∃ dev₁ dev₁', dev.allocClientFromDev prop = .ok dev₁ ∧
      dev'.allocClientFromDev prop = .ok dev₁' ∧ dev₁.Twin prop.clientId dev₁') ∨
        (∃ e, dev.allocClientFromDev prop = .error e) ∧
          ∃ e, dev'.allocClientFromDev prop = .error e := by
  have hload' := h.isLoaded.trans hload
  have haccess := h.access prop rfl
  rw [usable_iff h.shape' hload', usable_iff h.shape hload] at haccess
  cases hreg : dev.allocClientFromDev prop with
  | ok dev₁ =>
      obtain ⟨dev₁', hreg'⟩ := haccess.mpr ⟨dev₁, hreg⟩
      refine .inl ⟨dev₁, dev₁', rfl, hreg', ?_⟩
      exact (twin_registered h.shape hc hreg).symm.trans
        (h.trans (twin_registered h.shape' hc hreg'))
  | error e =>
      cases hreg' : dev'.allocClientFromDev prop with
      | ok dev₁' =>
          obtain ⟨dev₁, hreg₁⟩ := haccess.mp ⟨dev₁', hreg'⟩
          rw [hreg] at hreg₁
          simp at hreg₁
      | error e' => exact .inr ⟨⟨e, rfl⟩, e', rfl⟩

end Twin

/-! ## The same on twins -/

/-- Two outcomes on twins: the devices are twins again, and the results are the same. -/
def AlikeOn {α : Type} (c : Nat) (r r' : DeviceData × α) : Prop := r.1.Twin c r'.1 ∧ r'.2 = r.2

namespace Twin

variable {svc policyInfo devId cuId : Nat} {wanted : CuData → Bool}

theorem settle (h : dev.Twin prop.clientId dev') (hc : prop.clientId ≠ 0) (devId svc : Nat)
    (search : CuSearch) : AlikeOn prop.clientId (dev.settle devId prop svc search)
      (dev'.settle devId prop svc search) := by
  cases search with
  | acquired cuId cu chanId =>
      refine ⟨h.grant prop cuId cu, ?_⟩
      exact congrArg PassResult.acquired (h.grantedResource devId prop svc cuId cu chanId)
  | missed preCu => exact ⟨h.dropClient hc, rfl⟩

theorem tryDevice (h : dev.Twin prop.clientId dev') (hload : dev.isLoaded = true)
    (hc : prop.clientId ≠ 0) (devId svc policyInfo : Nat) (wanted : CuData → Bool)
    (preCu : Option PreCu) :
    AlikeOn prop.clientId (dev.tryDevice devId prop svc policyInfo wanted preCu)
      (dev'.tryDevice devId prop svc policyInfo wanted preCu) := by
  rw [DeviceData.tryDevice, DeviceData.tryDevice]
  rcases h.registers hload hc with ⟨dev₁, dev₁', hreg, hreg', htwin⟩ | ⟨⟨e, hreg⟩, e', hreg'⟩
  · rw [hreg, hreg']
    simp only [htwin.cuList]
    exact htwin.settle hc devId svc _
  · rw [hreg, hreg']
    exact ⟨h, rfl⟩

theorem returnLoad (h : dev.Twin c dev') (cu : CuData) (poolId : Nat) (load : Int) :
    AlikeOn c (dev.returnLoad cu poolId load) (dev'.returnLoad cu poolId load) := by
  have hdefault : AlikeOn c (dev.returnToDefaultPool cu load)
      (dev'.returnToDefaultPool cu load) := ⟨h.updateDeviceLoad _ _, rfl⟩
  rw [DeviceData.returnLoad, DeviceData.returnLoad]
  split
  · split
    · split
      · exact ⟨h, rfl⟩
      · exact hdefault
    · exact hdefault
  · exact hdefault

theorem releaseChannels {res : CuResource} (hc : res.clientId ≠ 0) (chans : List ChannelData)
    (cu : CuData) (h : dev.Twin res.clientId dev') :
    (DeviceData.releaseChannels res chans dev cu).dev.Twin res.clientId
        (DeviceData.releaseChannels res chans dev' cu).dev ∧
      DeviceData.releaseChannels res chans dev' cu =
        { DeviceData.releaseChannels res chans dev cu with
          dev := (DeviceData.releaseChannels res chans dev' cu).dev } := by
  induction chans generalizing dev dev' cu with
  | nil => exact ⟨h, rfl⟩
  | cons chan chans ih =>
      rw [DeviceData.releaseChannels, DeviceData.releaseChannels]
      split
      · obtain ⟨htwin, hcu⟩ := h.returnLoad cu res.poolId chan.channelLoadUnified
        obtain ⟨hdev, hscan⟩ := ih { (dev.returnLoad cu res.poolId chan.channelLoadUnified).2 with
            numChanInuse :=
              (dev.returnLoad cu res.poolId chan.channelLoadUnified).2.numChanInuse - 1 }
          (htwin.dropClient hc)
        simp only [hcu]
        refine ⟨hdev, ?_⟩
        rw [hscan]
      · obtain ⟨hdev, hscan⟩ := ih cu h
        refine ⟨hdev, ?_⟩
        simp only
        rw [hscan]

theorem releaseCu {res : CuResource} (hc : res.clientId ≠ 0) (cuId : Nat) (cu : CuData)
    (h : dev.Twin res.clientId dev') :
    AlikeOn res.clientId (dev.releaseCu cuId cu res) (dev'.releaseCu cuId cu res) := by
  obtain ⟨hdev, hscan⟩ := h.releaseChannels hc cu.channels cu
  rw [DeviceData.releaseCu, DeviceData.releaseCu]
  generalize DeviceData.releaseChannels res cu.channels dev cu = scan at hdev hscan ⊢
  generalize DeviceData.releaseChannels res cu.channels dev' cu = scan' at hdev hscan ⊢
  rw [hscan]
  exact ⟨hdev.setCu _ _, rfl⟩

end Twin

end DeviceData

/-! ## Twin systems -/

namespace System

variable {s t : System}

/-- The systems are the same but for the client tables of their devices, which the client may
use for the same requests. -/
structure Twin (c : Nat) (s t : System) : Prop where
  frame : t = { s with devList := t.devList }
  devs : List.Forall₂ (DeviceData.Twin c) s.devList t.devList

/-- Two outcomes on twins: the systems are twins again, and the results are the same. -/
def AlikeOn {α : Type} (c : Nat) (r r' : System × α) : Prop := r.1.Twin c r'.1 ∧ r'.2 = r.2

namespace Twin

theorem refl (hs : ∀ dev ∈ s.devList, dev.TableShape) : s.Twin c s where
  frame := rfl
  devs := forall₂_refl fun dev hdev => .refl (hs dev hdev)

theorem trans {u : System} (h : s.Twin c t) (h' : t.Twin c u) : s.Twin c u where
  frame := by rw [h'.frame, h.frame]
  devs := by
    have hdevs := h.devs
    have hdevs' := h'.devs
    generalize s.devList = l, t.devList = l', u.devList = l'' at hdevs hdevs'
    induction hdevs generalizing l'' with
    | nil =>
        cases hdevs'
        exact .nil
    | cons hdev _ ih =>
        cases hdevs' with
        | cons hdev' hdevs' => exact .cons (hdev.trans hdev') (ih _ hdevs')

theorem numDevice (h : s.Twin c t) : t.numDevice = s.numDevice := h.devs.length_eq.symm

theorem nextId (h : s.Twin c t) : t.getNextAllocServiceId = s.getNextAllocServiceId := by
  rw [h.frame]
  rfl

/-- The devices at a place are twins, or there is none in both systems. -/
theorem device (h : s.Twin c t) (i : Nat) :
    (s.devList[i]? = none ∧ t.devList[i]? = none) ∨
      ∃ dev dev', s.devList[i]? = some dev ∧ t.devList[i]? = some dev' ∧ dev.Twin c dev' := by
  cases hdev' : t.devList[i]? with
  | none =>
      rw [List.getElem?_eq_none_iff, ← h.devs.length_eq, ← List.getElem?_eq_none_iff] at hdev'
      exact .inl ⟨hdev', rfl⟩
  | some dev' =>
      obtain ⟨dev, hdev, htwin⟩ := forall₂_getElem? h.devs hdev'
      exact .inr ⟨dev, dev', hdev, rfl, htwin⟩

theorem setDev (h : s.Twin c t) {dev dev' : DeviceData} (hdev : dev.Twin c dev') (i : Nat) :
    (s.setDev i dev).Twin c (t.setDev i dev') where
  frame := by
    rw [System.setDev, System.setDev, h.frame]
  devs := by
    have hdevs := h.devs
    rw [System.setDev, System.setDev]
    generalize s.devList = l, t.devList = l' at hdevs
    simp only
    induction hdevs generalizing i with
    | nil => exact .nil
    | cons hx hxs ih =>
        cases i with
        | zero => exact .cons hdev hxs
        | succ i => exact .cons hx (ih i)

end Twin

end System

end Xrm
