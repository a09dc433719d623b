import Xrm.Verification.Conservation
import Xrm.Verification.Loading

/-! # Devices in use

Whether a device may be cleared is judged from the load in use on its CUs. As the accounts of
every CU are right, a device with a channel in service or a reserve slot always looks busy, and
no operation that clears or overwrites devices touches it.
-/

namespace Xrm

namespace DeviceData

variable {D : Discipline} {dev : DeviceData}

/-- Some channel of the device is not free or some reserve slot is not empty. -/
def InUse (dev : DeviceData) : Prop :=
  ∃ cu ∈ dev.cuList, (∃ chan ∈ cu.channels, ¬chan.Free) ∨ ∃ r ∈ cu.reserves, r ≠ ReserveData.zero

theorem not_inUse_of_idle (hcons : ∀ cu ∈ dev.cuList, cu.Consistent)
    (hidle : ∀ cu ∈ dev.cuList, cu.Idle) : ¬dev.InUse := by
  rintro ⟨cu, hcu, ⟨chan, hchan, hlive⟩ | ⟨r, hr, hslot⟩⟩
  · exact hlive ((hcons cu hcu).idle_channels (hidle cu hcu) chan hchan)
  · have hfilled := (hcons cu hcu).slots.filled
    rw [(hcons cu hcu).idle_numReserve (hidle cu hcu)] at hfilled
    exact hslot (hfilled.rest r (by rwa [List.drop_zero]))

theorem Sound.busy (h : dev.Sound D) (huse : dev.InUse) : dev.isDeviceBusy = true := by
  by_contra hbusy
  have hidle := idle_of_not_busy (by simpa using hbusy)
  exact not_inUse_of_idle h.consistent hidle huse

theorem Sound.loaded (h : dev.Sound D) (huse : dev.InUse) : dev.isLoaded = true := by
  by_contra hload
  obtain ⟨cu, hcu, -⟩ := huse
  rw [h.unloaded (by simpa using hload)] at hcu
  simp at hcu

/-! ## What a busy device refuses -/

theorem disableOneDevice_busy (hload : dev.isLoaded = true) (h : dev.isDeviceBusy = true)
    (devId : Nat) (call : XrtCall) (errmsg : String) :
    (dev.disableOneDevice devId call errmsg).1 = dev := by
  by_cases hdisabled : dev.isDisabled = true
  · rw [disableOneDevice, if_pos hdisabled]
  · simp [disableOneDevice, hdisabled, hload, h]

end DeviceData

namespace System

variable {D : Discipline} {s s' : System} {i : Nat} {dev : DeviceData}

/-! ## What keeps one device -/

/-- Device `i` is `dev` still. -/
def Keeps (i : Nat) (dev : DeviceData) (s : System) : Prop := s.devList[i]? = some dev

theorem Keeps.initDevices (h : s.Keeps i dev) (hprobed : s.Probed) (env : XrtEnv) :
    (s.initDevices env).Keeps i dev := by
  cases hinit : s.devicesInited with
  | true => rwa [System.initDevices, if_pos hinit]
  | false =>
      rw [Keeps, hprobed hinit] at h
      simp at h

theorem Keeps.setDev_ne (h : s.Keeps i dev) {j : Nat} (hij : j ≠ i) (dev' : DeviceData) :
    (s.setDev j dev').Keeps i dev := (getElem?_setDev_ne hij dev').trans h

/-- A device function that would not change the device keeps it. -/
theorem Keeps.onDevice (h : s.Keeps i dev) (j : Nat) (errmsg : String)
    {f : DeviceData → DeviceData × String × Except XrmError Unit} (hf : (f dev).1 = dev) :
    (s.onDevice j errmsg f).1.Keeps i dev := by
  rw [System.onDevice]
  split
  · exact h
  · rename_i dev' hdev'
    by_cases hij : j = i
    · subst hij
      rw [Keeps, hdev', Option.some.injEq] at h
      subst h
      have hset := getElem?_setDev_self hdev' (f dev').1
      rw [hf] at hset
      rw [Keeps, ← hset]
      simp only [hf]
    · exact h.setDev_ne hij _

section Loaded

variable (hload : dev.isLoaded = true)
include hload

theorem Keeps.deviceLoadXclbin (h : s.Keeps i dev) (env : XrtEnv) (attempt devId : Nat)
    (xclbin errmsg : String) :
    (s.deviceLoadXclbin env attempt devId xclbin errmsg).1.Keeps i dev :=
  h.onDevice devId errmsg (DeviceData.deviceLoadXclbin_loaded hload devId env _ xclbin errmsg)

theorem Keeps.loadUnloaded (env : XrtEnv) (xclbin : String) (devIds : List Nat)
    (h : s.Keeps i dev) (errmsg : String) (e : XrmError) :
    (loadUnloaded env xclbin devIds s errmsg e).1.Keeps i dev := by
  induction devIds generalizing s errmsg e with
  | nil => exact h
  | cons devId devIds ih =>
      have hkeep := h.deviceLoadXclbin hload env 0 devId xclbin errmsg
      rw [System.loadUnloaded]
      split
      · exact ih h errmsg e
      split <;> rename_i heq <;> rw [heq] at hkeep
      · exact hkeep
      · exact ih hkeep _ _

variable (hbusy : dev.isDeviceBusy = true)
include hbusy

theorem Keeps.loadNotBusy (env : XrtEnv) (xclbin : String) (devIds : List Nat)
    (h : s.Keeps i dev) (errmsg : String) (e : XrmError) :
    (loadNotBusy env xclbin devIds s errmsg e).1.Keeps i dev := by
  induction devIds generalizing s errmsg e with
  | nil => exact h
  | cons devId devIds ih =>
      have hunload := h.onDevice devId errmsg (f := fun dev =>
        dev.unloadOneDevice devId (env.call 1 devId) errmsg)
        (DeviceData.unloadOneDevice_busy hload hbusy devId _ errmsg)
      rw [System.loadNotBusy]
      split
      · exact ih h errmsg e
      split <;> rename_i heq <;> rw [heq] at hunload
      · exact ih hunload _ _
      · rename_i s₁ errmsg₁
        have hkeep := hunload.deviceLoadXclbin hload env 1 devId xclbin errmsg₁
        split <;> rename_i heq₁ <;> rw [heq₁] at hkeep
        · exact hkeep
        · exact ih hkeep _ _

theorem Keeps.loadAnyDevice (h : s.Keeps i dev) (hprobed : s.Probed) (env : XrtEnv)
    (xclbin errmsg : String) : (s.loadAnyDevice env xclbin errmsg).1.Keeps i dev := by
  have hinit := h.initDevices hprobed env
  have hfirst := Keeps.loadUnloaded hload env xclbin
    (List.range (s.initDevices env).numDevice) hinit "" .error
  rw [System.loadAnyDevice]
  split
  · exact hinit
  split <;> rename_i heq <;> rw [heq] at hfirst
  · exact hfirst
  · rename_i s₁ errmsg₁ e₁
    have hsecond := Keeps.loadNotBusy hload hbusy env xclbin (List.range s₁.numDevice) hfirst
      errmsg₁ e₁
    split <;> rename_i heq₁ <;> rw [heq₁] at hsecond
    · exact hsecond
    · exact hsecond

theorem Keeps.unloadOneDevice (h : s.Keeps i dev) (hprobed : s.Probed) (env : XrtEnv)
    (devId : Int) (errmsg : String) : (s.unloadOneDevice env devId errmsg).1.Keeps i dev := by
  have hinit := h.initDevices hprobed env
  rw [System.unloadOneDevice]
  split
  · exact hinit
  · exact hinit.onDevice _ errmsg (DeviceData.unloadOneDevice_busy hload hbusy _ _ errmsg)

theorem Keeps.disableOneDevice (h : s.Keeps i dev) (hprobed : s.Probed) (env : XrtEnv)
    (devId : Int) (errmsg : String) : (s.disableOneDevice env devId errmsg).1.Keeps i dev := by
  have hinit := h.initDevices hprobed env
  rw [System.disableOneDevice]
  split
  · exact hinit
  · exact hinit.onDevice _ errmsg (DeviceData.disableOneDevice_busy hload hbusy _ _ errmsg)

end Loaded

/-! ## Reserving whole devices -/

theorem Keeps.reserveXclbinDevs (h : s.Keeps i dev) (hbusy : dev.isDeviceBusy = true)
    {p c devId : Nat} {uuid : List UInt8} {pid : Int} {devIds : List Nat}
    (heq : reserveXclbinDevs p uuid c pid devIds s = some (s', devId)) : s'.Keeps i dev := by
  induction devIds with
  | nil => simp [System.reserveXclbinDevs] at heq
  | cons j devIds ih =>
      rw [System.reserveXclbinDevs] at heq
      split at heq
      · exact ih heq
      rename_i dev' hdev'
      split at heq
      · rename_i hfree
        rw [Option.some.injEq, Prod.mk.injEq] at heq
        rw [← heq.1]
        refine h.setDev_ne (fun hij => ?_) _
        subst hij
        rw [Keeps, hdev', Option.some.injEq] at h
        subst h
        simp [hbusy] at hfree
      · exact ih heq

theorem Keeps.resReserveCuOfXclbin (h : s.Keeps i dev) (hbusy : dev.isDeviceBusy = true)
    {p c devId : Nat} {uuid : List UInt8} {pid : Int}
    (heq : s.resReserveCuOfXclbin p uuid c pid = .ok (s', devId)) : s'.Keeps i dev := by
  rw [System.resReserveCuOfXclbin] at heq
  split at heq
  · simp at heq
  split at heq
  · rename_i hfound
    rw [Except.ok.injEq] at heq
    rw [heq] at hfound
    exact h.reserveXclbinDevs hbusy hfound
  · simp at heq

theorem Keeps.resReserveDevice (h : s.Keeps i dev) (hbusy : dev.isDeviceBusy = true)
    {p devId c : Nat} {pid : Int} (heq : s.resReserveDevice p devId c pid = .ok s') :
    s'.Keeps i dev := by
  rw [System.resReserveDevice] at heq
  split at heq
  · simp at heq
  split at heq
  · simp at heq
  split at heq
  · simp at heq
  rename_i dev' hdev'
  split at heq
  · simp at heq
  split at heq
  · simp at heq
  rename_i hidle
  rw [Except.ok.injEq] at heq
  rw [← heq]
  refine h.setDev_ne (fun hij => ?_) _
  rw [hij, h, Option.some.injEq] at hdev'
  subst hdev'
  exact hidle hbusy

/-! ## All runs -/

/-- No operation that clears or overwrites devices changes device `i`, which is `dev`. -/
structure Protects (s : System) (i : Nat) (dev : DeviceData) : Prop where
  loaded : dev.isLoaded = true
  clearInfo : dev.deviceClearInfo = dev
  unload : ∀ env devId errmsg, (s.unloadOneDevice env devId errmsg).1.devList[i]? = some dev
  disable : ∀ env devId errmsg, (s.disableOneDevice env devId errmsg).1.devList[i]? = some dev
  loadAny : ∀ env xclbin errmsg, (s.loadAnyDevice env xclbin errmsg).1.devList[i]? = some dev
  load : ∀ env attempt devId xclbin errmsg,
    (s.deviceLoadXclbin env attempt devId xclbin errmsg).1.devList[i]? = some dev
  reserveXclbin : ∀ p uuid c pid s' devId,
    s.resReserveCuOfXclbin p uuid c pid = .ok (s', devId) → s'.devList[i]? = some dev
  reserveDevice : ∀ p devId c pid s', s.resReserveDevice p devId c pid = .ok s' →
    s'.devList[i]? = some dev

/-- A device in use is never cleared or overwritten, in any state of a run and in any state
inside an operation. -/
theorem in_use_protected {limit : Nat} {s s₁ : System} (h : Reachable allRuns limit s)
    (hin : s.Within allRuns s₁) {i : Nat} {dev : DeviceData} (hdev : s₁.devList[i]? = some dev)
    (huse : dev.InUse) : s₁.Protects i dev := by
  have hgood := hin.good id h
  have hdevSound := hgood.sound dev (List.mem_of_getElem? hdev)
  have hload := hdevSound.loaded huse
  have hbusy := hdevSound.busy huse
  have hkeep : s₁.Keeps i dev := hdev
  exact
    { loaded := hload
      clearInfo := DeviceData.deviceClearInfo_busy hbusy
      unload := hkeep.unloadOneDevice hload hbusy hgood.probed
      disable := hkeep.disableOneDevice hload hbusy hgood.probed
      loadAny := hkeep.loadAnyDevice hload hbusy hgood.probed
      load := hkeep.deviceLoadXclbin hload
      reserveXclbin := fun _ _ _ _ _ _ heq => hkeep.resReserveCuOfXclbin hbusy heq
      reserveDevice := fun _ _ _ _ _ heq => hkeep.resReserveDevice hbusy heq }

/-- Client 2 still holds a channel of the pool whose owner was recycled. -/
theorem in_use_protected_orphan : ∃ dev, dev.InUse ∧ (Scenario.after orphanRun).Protects 0 dev := by
  have hsome : (Scenario.after orphanRun).devList[0]?.isSome = true := by decide +kernel
  obtain ⟨dev, hdev⟩ := Option.isSome_iff_exists.mp hsome
  have hlive : ∀ dev ∈ (Scenario.after orphanRun).devList,
      ∃ cu ∈ dev.cuList, ∃ chan ∈ cu.channels, chan.clientId ≠ 0 := by decide +kernel
  obtain ⟨cu, hcu, chan, hchan, hc⟩ := hlive dev (List.mem_of_getElem? hdev)
  have huse : dev.InUse := ⟨cu, hcu, .inl ⟨chan, hchan, fun hfree => hc hfree.clientId⟩⟩
  exact ⟨dev, huse, in_use_protected (reachable_after orphanRun (by decide +kernel))
    (.refl _ _) hdev huse⟩

end System

end Xrm
