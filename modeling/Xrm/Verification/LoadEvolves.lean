import Xrm.Verification.Loading

/-! # Loading and unloading as acts -/

namespace Xrm

open Relation

namespace DeviceData

variable {dev dev' : DeviceData} {D : Discipline}

/-- The load record after a successful load, the number of CUs and the channels of all of them. -/
structure Fresh (dev : DeviceData) (ordered : Prop) : Prop where
  populated : 0 < dev.cuList.length
  current : dev.devLoadInfo.devCurrentLoad = 0
  rate : dev.devLoadInfo.devLoadRate = 0
  channels : ordered → ∀ cu ∈ dev.cuList, cu.channels = cuInitChannels

theorem Fresh.map {ordered : Prop} {f : CuData → CuData} (h : dev.Fresh ordered)
    (hf : ∀ cu, (f cu).channels = cu.channels) :
    Fresh { dev with cuList := dev.cuList.map f } ordered := by
  refine ⟨by simpa using h.populated, h.current, h.rate, fun hord cu hcu => ?_⟩
  obtain ⟨cu₀, hmem, rfl⟩ := List.mem_map.mp hcu
  rw [hf]
  exact h.channels hord cu₀ hmem

theorem xclbinGetLayout_fresh {call : XrtCall} {axlf : Axlf} {errmsg : String}
    (hok : (dev.xclbinGetLayout call axlf errmsg).2.2 = .ok ()) :
    (dev.xclbinGetLayout call axlf errmsg).1.Fresh (call.NumbersImage axlf) := by
  rw [xclbinGetLayout] at hok ⊢
  split at hok
  · simp at hok
  rename_i layout heq
  simp only at hok ⊢
  split at hok
  · rename_i hkernel
    rw [if_pos hkernel]
    refine ⟨?_, rfl, ?_, fun hnumbers cu hcu => ?_⟩
    · have hlength := (Layout.ofImage_untouched call axlf).length
      rw [heq] at hlength
      have hpos := Layout.ofImage_populated heq hkernel
      show 0 < (layout.cuList.take layout.numCu).length
      rw [List.length_take, hlength]
      exact lt_min hpos (by decide)
    · simp [updateDeviceLoad, i32]
    · obtain ⟨i, hi, rfl⟩ := List.mem_iff_getElem.mp hcu
      have hlt : i < layout.numCu := lt_of_lt_of_le hi (List.length_take_le _ _)
      obtain ⟨cu, hcu', hchans⟩ := Layout.ofImage_placed hnumbers heq i hlt
      have hget : (layout.cuList.take layout.numCu)[i]? = some cu := by
        rw [List.getElem?_take_of_lt hlt, hcu']
      rw [List.getElem?_eq_some_iff] at hget
      obtain ⟨_, rfl⟩ := hget
      exact hchans
  · simp at hok

theorem setKeyValue_channels (cu : CuData) (kv : KeyValue) :
    (cu.setKeyValue kv).channels = cu.channels := by
  rw [CuData.setKeyValue]
  split <;> rfl

theorem setMemBank_channels (banks : MemTopologyList) (cu : CuData) (conn : Connection) :
    (cu.setMemBank banks conn).channels = cu.channels := by
  rw [CuData.setMemBank]
  split <;> rfl

theorem foldl_channels {α : Type*} {f : CuData → α → CuData}
    (hf : ∀ cu x, (f cu x).channels = cu.channels) (xs : List α) (cu : CuData) :
    (xs.foldl f cu).channels = cu.channels := by
  induction xs generalizing cu with
  | nil => rfl
  | cons x xs ih => rw [List.foldl_cons, ih, hf]

theorem xclbinGetInfo_fresh {call : XrtCall} {axlf : Axlf} {errmsg : String}
    (hok : (dev.xclbinGetInfo call axlf errmsg).2.2 = .ok ()) :
    (dev.xclbinGetInfo call axlf errmsg).1.Fresh (call.NumbersImage axlf) := by
  rw [xclbinGetInfo] at hok ⊢
  split at hok
  · simp at hok
  rename_i dev₁ errmsg₁ heq
  have hlayout : dev₁.Fresh (call.NumbersImage axlf) := by
    have h : (dev.xclbinGetLayout call axlf errmsg).2.2 = .ok () →
        (dev.xclbinGetLayout call axlf errmsg).1.Fresh (call.NumbersImage axlf) :=
      xclbinGetLayout_fresh
    rw [heq] at h
    exact h rfl
  obtain ⟨banks, conns, hmeta⟩ := dev₁.xclbinGetMeta_frame axlf
  rw [hmeta] at hok ⊢
  have h₁ : Fresh
      { dev₁ with
        uuid := axlf.uuid
        uuidStr := dev₁.uuidStr ++ binToHexstr axlf.uuid
        memTopologyList := banks
        connectList := conns } (call.NumbersImage axlf) :=
    ⟨hlayout.populated, hlayout.current, hlayout.rate, hlayout.channels⟩
  simp only at hok ⊢
  rw [xclbinGetKeyvalues] at hok ⊢
  cases hkv : axlf.keyvalueMetadata with
  | absent => exact h₁.map fun cu => foldl_channels (setMemBank_channels banks) conns cu
  | malformed message =>
      rw [hkv] at hok
      simp at hok
  | incomplete =>
      rw [hkv] at hok
      simp at hok
  | entries kvs =>
      have h₂ := h₁.map fun cu => foldl_channels (fun cu kv => setKeyValue_channels cu kv) kvs cu
      exact h₂.map fun cu => foldl_channels (setMemBank_channels banks) conns cu

/-! ## The device functions -/

theorem idle_of_not_busy (h : dev.isDeviceBusy = false) : ∀ cu ∈ dev.cuList, cu.Idle := by
  rw [isDeviceBusy, List.any_eq_false] at h
  intro cu hcu
  simpa [CuData.Idle] using h cu hcu

/-- Giving up a load clears the device, or leaves it as it was. -/
theorem clearInfo_acts {dev₀ : DeviceData} (hload : dev₀.isLoaded = false)
    (hnum : dev.devLoadInfo.deviceId = dev₀.devLoadInfo.deviceId)
    (hsame : dev.isDeviceBusy = true → Work D dev₀ dev) :
    ReflTransGen (Work D) dev₀ dev.deviceClearInfo := by
  rw [deviceClearInfo]
  by_cases hbusy : dev.isDeviceBusy = true
  · rw [if_pos hbusy]
    exact .single (hsame hbusy)
  · rw [if_neg hbusy]
    exact .single (.clear (by simp [hload]) rfl rfl rfl rfl (.cleared rfl rfl hnum))

/-- What loading an xclbin does to a device. -/
theorem deviceLoadXclbin_spec (D : Discipline) (dev : DeviceData) (devId : Nat) {env : XrtEnv}
    {call : XrtCall} {xclbin : String} (errmsg : String)
    (hgap : D.gapless → ∀ axlf, env.file xclbin = .image axlf → call.NumbersImage axlf) :
    ReflTransGen (Work D) dev (dev.deviceLoadXclbin devId env call xclbin errmsg).1 ∧
      ((dev.deviceLoadXclbin devId env call xclbin errmsg).2.2 = .ok () →
        (dev.deviceLoadXclbin devId env call xclbin errmsg).1.isLoaded = true ∧
          (dev.isLoaded = false →
            (∀ cu ∈ (dev.deviceLoadXclbin devId env call xclbin errmsg).1.cuList,
              cu.Untouched) ∧
            (dev.deviceLoadXclbin devId env call xclbin errmsg).1.clientProcs =
              dev.clientProcs)) := by
  rw [deviceLoadXclbin]
  by_cases hdis : dev.isDisabled = true
  · rw [if_pos hdis]
    exact ⟨.refl, by simp⟩
  rw [if_neg hdis]
  by_cases hload : dev.isLoaded = true
  · rw [if_pos hload]
    exact ⟨.refl, fun _ => ⟨hload, by simp [hload]⟩⟩
  rw [if_neg hload]
  have hload' : dev.isLoaded = false := by simpa using hload
  obtain ⟨handle, hopen⟩ : ∃ handle, (if dev.deviceHandle then dev else dev.openDevice call) =
      { dev with deviceHandle := handle } := by
    by_cases hh : dev.deviceHandle = true
    · rw [if_pos hh]
      exact ⟨dev.deviceHandle, rfl⟩
    · rw [if_neg hh]
      exact ⟨call.opens, rfl⟩
  simp only
  rw [hopen]
  have hmark : ∀ image, Work D dev { dev with deviceHandle := handle, memBuffer := image } :=
    fun image => .mark rfl rfl rfl rfl rfl (.congr rfl rfl rfl rfl rfl)
  cases hfile : env.file xclbin with
  | missing => exact ⟨clearInfo_acts hload' rfl fun _ => hmark _, by simp⟩
  | unreadable => exact ⟨clearInfo_acts hload' rfl fun _ => hmark _, by simp⟩
  | image axlf =>
      simp only
      split
      · exact ⟨clearInfo_acts hload' rfl fun _ => hmark _, by simp⟩
      · rename_i errmsg₁ _
        obtain ⟨hreading, -, huuid⟩ := xclbinGetInfo_reading
          { dev with deviceHandle := handle, memBuffer := some axlf } call axlf errmsg₁
        have hinfo := xclbinGetInfo_relayout
          { dev with deviceHandle := handle, memBuffer := some axlf } call axlf errmsg₁
        split
        · rename_i dev₁ _ _ heq
          rw [heq] at hinfo hreading
          have hbusy := not_busy_of_untouched hinfo.untouched
          exact ⟨clearInfo_acts hload' hreading.number fun hb => by simp [hbusy] at hb, by simp⟩
        · rename_i dev₁ _ heq
          have hfresh := xclbinGetInfo_fresh (congrArg (·.2.2) heq)
          rw [heq] at hinfo hfresh hreading huuid
          obtain ⟨hu, hstr⟩ := huuid rfl
          have hbusy := not_busy_of_untouched hinfo.untouched
          split
          · exact ⟨clearInfo_acts hload' hreading.number fun hb => by simp [hbusy] at hb,
              by simp⟩
          · refine ⟨.single ?_, fun _ => ⟨rfl, fun _ => ⟨hinfo.untouched, hinfo.clientProcs⟩⟩⟩
            have hloads : Loads dev
                { dev₁ with xclbinName := xclbin, isLoaded := true, memBuffer := none } xclbin
                axlf :=
              ⟨hreading.number, rfl, hreading.isDisabled.trans (by simpa using hdis), rfl, hu, hstr⟩
            refine .load hload' ⟨hfresh.populated, hinfo.number⟩ hinfo.untouched
              (fun hD cu hcu => ?_) rfl hinfo.isExcl hinfo.clientProcs hfresh.current hfresh.rate
              (hloads.follows hload')
            rw [CuData.InOrder, hfresh.channels (hgap hD axlf hfile) cu hcu]

theorem unloadOneDevice_spec (D : Discipline) (dev : DeviceData) (devId : Nat) (call : XrtCall)
    (errmsg : String) :
    ReflTransGen (Work D) dev (dev.unloadOneDevice devId call errmsg).1 ∧
      ((dev.unloadOneDevice devId call errmsg).2.2 = .ok () →
        (dev.isLoaded = false → dev.cuList = []) →
          (dev.unloadOneDevice devId call errmsg).1.isLoaded = false) := by
  rw [unloadOneDevice]
  by_cases hload : dev.isLoaded = true
  · rw [if_neg (by simp [hload])]
    by_cases hbusy : dev.isDeviceBusy = true
    · rw [if_pos hbusy]
      exact ⟨.refl, by simp⟩
    · rw [if_neg hbusy]
      have hclear : dev.deviceClearInfo =
          { dev.flushDevData with deviceHandle := dev.deviceHandle } := by
        rw [deviceClearInfo, if_neg hbusy]
      split
      · exact ⟨.refl, by simp⟩
      · rw [hclear]
        have hbusy' : dev.isDeviceBusy = false := by simpa using hbusy
        have hidle := idle_of_not_busy hbusy'
        exact ⟨.single (.clear (fun _ => hidle) rfl rfl rfl rfl (.cleared rfl rfl rfl)),
          fun _ _ => rfl⟩
  · have hload' : dev.isLoaded = false := by simpa using hload
    rw [if_pos (by simp [hload'])]
    refine ⟨clearInfo_acts hload' rfl fun _ => .mark rfl rfl rfl rfl rfl (.refl dev),
      fun _ hempty => ?_⟩
    show dev.deviceClearInfo.isLoaded = false
    have hbusy : dev.isDeviceBusy = false := by
      rw [isDeviceBusy, hempty hload']
      rfl
    rw [deviceClearInfo, if_neg (by simp [hbusy])]
    rfl

theorem disableOneDevice_acts (D : Discipline) (dev : DeviceData) (devId : Nat) (call : XrtCall)
    (errmsg : String) : ReflTransGen (Work D) dev (dev.disableOneDevice devId call errmsg).1 := by
  rw [disableOneDevice]
  split
  · exact .refl
  split
  · rename_i hload
    have hload : dev.isLoaded = false := by simpa using hload
    exact .single (.mark rfl rfl rfl rfl rfl ⟨rfl, fun h => ⟨h.unloaded, fun hl =>
      absurd (hload.symm.trans hl) (by decide)⟩⟩)
  split
  · exact .refl
  rename_i hbusy
  split
  · exact .refl
  · have hbusy' : dev.isDeviceBusy = false := by simpa using hbusy
    have hidle := idle_of_not_busy hbusy'
    rw [deviceClearInfo, if_neg hbusy]
    exact .single (.clear (fun _ => hidle) rfl rfl rfl rfl (.cleared rfl rfl rfl))

end DeviceData

/-! ## The system -/

/-- A device right after it was probed. -/
def DeviceData.IsProbed (dev : DeviceData) : Prop := ∃ devId call, dev = probed devId call

/-- Device `devId` right after it was probed. -/
def DeviceData.ProbedAt (devId : Nat) (dev : DeviceData) : Prop := ∃ call, dev = probed devId call

namespace System

variable {D : Discipline} {s s' s'' : System}

/-- There are no devices before they have been probed. -/
def Probed (s : System) : Prop := s.devicesInited = false → s.devList = []

/-- What an operation on the resources leaves alone: the accounts of the clients, and that the
devices are probed first. -/
structure Frame (s s' : System) : Prop where
  probed : s.Probed → s'.Probed
  clientId : s'.clientId = s.clientId
  numClient : s'.numConcurrentClient = s.numConcurrentClient
  limit : s'.limitConcurrentClient = s.limitConcurrentClient

theorem Frame.refl (s : System) : Frame s s := ⟨id, rfl, rfl, rfl⟩

theorem Frame.trans (h : Frame s s') (h' : Frame s' s'') : Frame s s'' :=
  ⟨h'.probed ∘ h.probed, h'.clientId.trans h.clientId, h'.numClient.trans h.numClient,
    h'.limit.trans h.limit⟩

theorem Frame.setDev (s : System) (i : Nat) (dev : DeviceData) : Frame s (s.setDev i dev) := by
  refine ⟨fun h hno => ?_, rfl, rfl, rfl⟩
  rw [System.setDev, h hno]
  rfl

/-- Every device of `s'` has evolved from one of `s` or from a new one; the declared groups
are the same. -/
structure Evolves (D : Discipline) (s s' : System) : Prop where
  devs : Transition.Evolves DeviceData.IsProbed (DeviceData.Act D) s.devList s'.devList
  frame : Frame s s'
  groups : s'.udfCuGroups = s.udfCuGroups
  groupsV2 : s'.udfCuGroupsV2 = s.udfCuGroupsV2

/-- The state evolves with every probed device at its place, and no id of a pool is issued. -/
structure Develops (D : Discipline) (s s' : System) : Prop extends Evolves D s s' where
  origins : Transition.Originates DeviceData.ProbedAt (DeviceData.Work D) s.devList s'.devList
  places : s.Probed → Transition.InPlace (DeviceData.Work D) s.devList s'.devList
  reservePoolId : s'.reservePoolId = s.reservePoolId

/-- All devices are in order. -/
def Sound (D : Discipline) (s : System) : Prop := ∀ dev ∈ s.devList, dev.Sound D

theorem sound_probed {dev : DeviceData} (h : dev.IsProbed) : dev.Sound D := by
  obtain ⟨devId, call, rfl⟩ := h
  exact DeviceData.Sound.clear rfl rfl rfl

theorem Evolves.sound (h : Evolves D s s') (hs : s.Sound D) : s'.Sound D :=
  h.devs.invariant hs (fun _ => sound_probed) fun _ _ hx hact => hact.sound hx

theorem Evolves.refl (D : Discipline) (s : System) : Evolves D s s :=
  ⟨Transition.Evolves.refl _, Frame.refl s, rfl, rfl⟩

theorem Evolves.trans (h : Evolves D s s') (h' : Evolves D s' s'') : Evolves D s s'' :=
  ⟨h.devs.trans h'.devs, h.frame.trans h'.frame, h'.groups.trans h.groups,
    h'.groupsV2.trans h.groupsV2⟩

theorem Evolves.setDev {i : Nat} {dev dev' : DeviceData} (hdev : s.devList[i]? = some dev)
    (h : ReflTransGen (DeviceData.Act D) dev dev') : Evolves D s (s.setDev i dev') :=
  ⟨Transition.Evolves.set hdev h, Frame.setDev s i dev', rfl, rfl⟩

theorem evolves_refl (D : Discipline) (s : System) : Develops D s s :=
  ⟨.refl D s, .refl _, fun _ => .refl _, rfl⟩

theorem Develops.trans (h : Develops D s s') (h' : Develops D s' s'') : Develops D s s'' :=
  ⟨h.toEvolves.trans h'.toEvolves, h.origins.trans h'.origins,
    fun hprobed => (h.places hprobed).trans (h'.places (h.frame.probed hprobed)),
    h'.reservePoolId.trans h.reservePoolId⟩

theorem evolves_setDev {i : Nat} {dev dev' : DeviceData} (hdev : s.devList[i]? = some dev)
    (h : ReflTransGen (DeviceData.Work D) dev dev') : Develops D s (s.setDev i dev') :=
  ⟨.setDev hdev (DeviceData.Work.acts h), .set hdev h, fun _ => .set hdev h, rfl⟩

/-- The devices stay as they are. -/
theorem evolves_of_devs (hdevs : s'.devList = s.devList) (hframe : Frame s s')
    (hg : s'.udfCuGroups = s.udfCuGroups) (hg' : s'.udfCuGroupsV2 = s.udfCuGroupsV2)
    (hpool : s'.reservePoolId = s.reservePoolId) : Develops D s s' :=
  ⟨⟨hdevs ▸ Transition.Evolves.refl _, hframe, hg, hg'⟩, hdevs ▸ .refl _,
    fun _ => hdevs ▸ .refl _, hpool⟩

@[simp] theorem numDevice_setDev (s : System) (i : Nat) (dev : DeviceData) :
    (s.setDev i dev).numDevice = s.numDevice := by
  simp [numDevice, setDev]

theorem getElem?_setDev_self {i : Nat} {dev : DeviceData} (h : s.devList[i]? = some dev)
    (dev' : DeviceData) : (s.setDev i dev').devList[i]? = some dev' := by
  obtain ⟨hi, -⟩ := List.getElem?_eq_some_iff.mp h
  simp [setDev, hi]

theorem getElem?_setDev_ne {i j : Nat} (hij : i ≠ j) (dev' : DeviceData) :
    (s.setDev i dev').devList[j]? = s.devList[j]? := by
  simp [setDev, hij]

theorem initDevices_evolves (D : Discipline) (s : System) (env : XrtEnv) :
    Develops D s (s.initDevices env) := by
  rw [initDevices]
  split
  · exact evolves_refl D s
  rename_i hinited
  split
  · exact evolves_of_devs rfl ⟨fun _ => by simp [Probed], rfl, rfl, rfl⟩ rfl rfl rfl
  · refine ⟨⟨fun dev hdev => ?_, ⟨fun _ => by simp [Probed], rfl, rfl, rfl⟩, rfl, rfl⟩,
      fun i dev hdev => ?_, fun hprobed => ?_, rfl⟩
    · obtain ⟨devId, -, rfl⟩ := List.mem_map.mp hdev
      exact ⟨_, .inr ⟨devId, _, rfl⟩, .refl⟩
    · rw [List.getElem?_map, Option.map_eq_some_iff] at hdev
      obtain ⟨devId, hdevId, rfl⟩ := hdev
      obtain ⟨_, rfl⟩ := List.getElem?_eq_some_iff.mp hdevId
      exact ⟨_, .inr ⟨_, by rw [List.getElem_range]⟩, .refl⟩
    · rw [hprobed (by simpa using hinited)]
      exact ⟨fun _ _ hdev => by simp at hdev, fun h => absurd rfl h⟩

theorem onDevice_evolves (i : Nat) (errmsg : String)
    {f : DeviceData → DeviceData × String × Except XrmError Unit}
    (hf : ∀ dev, ReflTransGen (DeviceData.Work D) dev (f dev).1) :
    Develops D s (s.onDevice i errmsg f).1 := by
  rw [onDevice]
  split
  · exact evolves_refl D s
  · rename_i dev hdev
    exact evolves_setDev hdev (hf dev)

/-- A device function that succeeded leaves its result in the table. -/
theorem onDevice_ok {i : Nat} {errmsg : String}
    {f : DeviceData → DeviceData × String × Except XrmError Unit}
    (h : (s.onDevice i errmsg f).2.2 = .ok ()) :
    ∃ dev, s.devList[i]? = some dev ∧ (f dev).2.2 = .ok () ∧
      (s.onDevice i errmsg f).1 = s.setDev i (f dev).1 := by
  rw [onDevice] at h ⊢
  split at h
  · simp at h
  · rename_i dev hdev
    exact ⟨dev, hdev, h, rfl⟩

theorem deviceLoadXclbin_evolves (s : System) {env : XrtEnv} (hgap : D.gapless → env.Gapless)
    (attempt devId : Nat) (xclbin errmsg : String) :
    Develops D s (s.deviceLoadXclbin env attempt devId xclbin errmsg).1 :=
  onDevice_evolves devId errmsg fun dev =>
    (dev.deviceLoadXclbin_spec D devId errmsg fun hD axlf => hgap hD attempt devId xclbin axlf).1

theorem unloadOneDevice_evolves (D : Discipline) (s : System) (env : XrtEnv) (devId : Int)
    (errmsg : String) : Develops D s (s.unloadOneDevice env devId errmsg).1 := by
  refine (initDevices_evolves D s env).trans ?_
  rw [unloadOneDevice]
  split
  · exact evolves_refl D _
  · exact onDevice_evolves _ errmsg fun dev => (dev.unloadOneDevice_spec D _ _ errmsg).1

theorem enableOneDevice_evolves (D : Discipline) (s : System) (env : XrtEnv) (devId : Int)
    (errmsg : String) : Develops D s (s.enableOneDevice env devId errmsg).1 := by
  refine (initDevices_evolves D s env).trans ?_
  rw [enableOneDevice]
  split
  · exact evolves_refl D _
  · refine onDevice_evolves _ errmsg fun dev => .single (.mark rfl rfl rfl rfl rfl ⟨rfl, fun h => ?_⟩)
    exact ⟨h.unloaded, fun hload => ⟨rfl, (h.loaded hload).2⟩⟩

theorem disableOneDevice_evolves (D : Discipline) (s : System) (env : XrtEnv) (devId : Int)
    (errmsg : String) : Develops D s (s.disableOneDevice env devId errmsg).1 := by
  refine (initDevices_evolves D s env).trans ?_
  rw [disableOneDevice]
  split
  · exact evolves_refl D _
  · exact onDevice_evolves _ errmsg fun dev => dev.disableOneDevice_acts D _ _ errmsg

/-! ### Loading on any device -/

/-- The device has just been loaded. -/
def JustLoaded (D : Discipline) (s : System) (devId : Nat) : Prop :=
  ∃ dev, s.devList[devId]? = some dev ∧ dev.isLoaded = true ∧
    (∀ cu ∈ dev.cuList, cu.Untouched) ∧
      (D.covered → ∀ entry ∈ dev.clientProcs, entry = ClientData.zero)

theorem loadUnloaded_spec {env : XrtEnv} (hgap : D.gapless → env.Gapless) (xclbin : String)
    (devIds : List Nat) (s : System) (errmsg : String) (e : XrmError) (hs : s.Sound D) :
    Develops D s (loadUnloaded env xclbin devIds s errmsg e).1 ∧
      ∀ devId, (loadUnloaded env xclbin devIds s errmsg e).2.2 = .ok devId →
        (loadUnloaded env xclbin devIds s errmsg e).1.JustLoaded D devId := by
  induction devIds generalizing s errmsg e with
  | nil => exact ⟨evolves_refl D s, by simp [loadUnloaded]⟩
  | cons devId devIds ih =>
      rw [loadUnloaded]
      by_cases hskip : (s.devList[devId]?.map (·.isLoaded)).getD false = true
      · rw [if_pos hskip]
        exact ih s errmsg e hs
      · rw [if_neg hskip]
        have hev := deviceLoadXclbin_evolves s hgap 0 devId xclbin errmsg
        split
        · rename_i s₁ errmsg₁ heq
          have hok : (s.deviceLoadXclbin env 0 devId xclbin errmsg).2.2 = .ok () := by rw [heq]
          obtain ⟨dev, hdev, hf, hs₁⟩ := onDevice_ok hok
          rw [show s.onDevice devId errmsg _ = _ from heq] at hs₁
          rw [heq] at hev
          refine ⟨hev, fun devId' hd => ?_⟩
          simp only [Except.ok.injEq] at hd
          subst hd
          have hload : dev.isLoaded = false := by simpa [hdev] using hskip
          obtain ⟨hl, hu⟩ := (dev.deviceLoadXclbin_spec D devId errmsg
            fun hD axlf => hgap hD 0 devId xclbin axlf).2 hf
          simp only at hs₁
          have habsent := fun hD => (hs dev (List.mem_of_getElem? hdev)).absent hD hload
          rw [hs₁]
          exact ⟨_, getElem?_setDev_self hdev _, hl, (hu hload).1, fun hD => by
            rw [(hu hload).2]
            exact (habsent hD).2⟩
        · rename_i s₁ errmsg₁ e₁ heq
          rw [heq] at hev
          obtain ⟨hih, hih'⟩ := ih s₁ errmsg₁ e₁ (hev.sound hs)
          exact ⟨hev.trans hih, hih'⟩

theorem loadNotBusy_spec {env : XrtEnv} (hgap : D.gapless → env.Gapless) (xclbin : String)
    (devIds : List Nat) (s : System) (errmsg : String) (e : XrmError) (hs : s.Sound D) :
    Develops D s (loadNotBusy env xclbin devIds s errmsg e).1 ∧
      ∀ devId, (loadNotBusy env xclbin devIds s errmsg e).2.2 = .ok devId →
        (loadNotBusy env xclbin devIds s errmsg e).1.JustLoaded D devId := by
  induction devIds generalizing s errmsg e with
  | nil => exact ⟨evolves_refl D s, by simp [loadNotBusy]⟩
  | cons devId devIds ih =>
      rw [loadNotBusy]
      split
      · exact ih s errmsg e hs
      · have hev : Develops D s (s.onDevice devId errmsg fun dev =>
            dev.unloadOneDevice devId (env.call 1 devId) errmsg).1 :=
          onDevice_evolves devId errmsg fun dev => (dev.unloadOneDevice_spec D _ _ errmsg).1
        split
        · rename_i s₁ errmsg₁ e₁ heq
          rw [heq] at hev
          obtain ⟨hih, hih'⟩ := ih s₁ errmsg₁ e (hev.sound hs)
          exact ⟨hev.trans hih, hih'⟩
        · rename_i s₁ errmsg₁ heq
          have hok : (s.onDevice devId errmsg fun dev =>
              dev.unloadOneDevice devId (env.call 1 devId) errmsg).2.2 = .ok () := by rw [heq]
          obtain ⟨dev, hdev, hf, hs₁⟩ := onDevice_ok hok
          rw [heq] at hev hs₁
          simp only at hs₁
          have hunload := (dev.unloadOneDevice_spec D devId (env.call 1 devId) errmsg).2 hf
            (hs dev (List.mem_of_getElem? hdev)).unloaded
          have hev₁ := deviceLoadXclbin_evolves s₁ hgap 1 devId xclbin errmsg₁
          split
          · rename_i s₂ errmsg₂ heq₂
            have hok₂ : (s₁.deviceLoadXclbin env 1 devId xclbin errmsg₁).2.2 = .ok () := by
              rw [heq₂]
            obtain ⟨dev₁, hdev₁, hf₁, hs₂⟩ := onDevice_ok hok₂
            rw [show s₁.onDevice devId errmsg₁ _ = _ from heq₂] at hs₂
            rw [heq₂] at hev₁
            rw [hs₁, getElem?_setDev_self hdev, Option.some.injEq] at hdev₁
            subst hdev₁
            refine ⟨hev.trans hev₁, fun devId' hd => ?_⟩
            simp only [Except.ok.injEq] at hd
            subst hd
            obtain ⟨hl, hu⟩ := (DeviceData.deviceLoadXclbin_spec D _ devId errmsg₁
              fun hD axlf => hgap hD 1 devId xclbin axlf).2 hf₁
            simp only at hs₂
            rw [hs₂]
            have hat : s₁.devList[devId]? =
                some (dev.unloadOneDevice devId (env.call 1 devId) errmsg).1 := by
              rw [hs₁, getElem?_setDev_self hdev]
            have hsound := hev.sound hs _ (List.mem_of_getElem? hat)
            exact ⟨_, getElem?_setDev_self hat _, hl, (hu hunload).1, fun hD => by
              rw [(hu hunload).2]
              exact (hsound.absent hD hunload).2⟩
          · rename_i s₂ errmsg₂ e₂ heq₂
            rw [heq₂] at hev₁
            obtain ⟨hih, hih'⟩ := ih s₂ errmsg₂ e₂ (hev₁.sound (hev.sound hs))
            exact ⟨(hev.trans hev₁).trans hih, hih'⟩

/-- What loading on any device does. -/
theorem loadAnyDevice_spec {env : XrtEnv} (hgap : D.gapless → env.Gapless)
    (xclbin errmsg : String) (hs : s.Sound D) :
    Develops D s (s.loadAnyDevice env xclbin errmsg).1 ∧
      ∀ devId, (s.loadAnyDevice env xclbin errmsg).2.2 = .ok devId →
        (s.loadAnyDevice env xclbin errmsg).1.JustLoaded D devId := by
  have hinit := initDevices_evolves D s env
  rw [loadAnyDevice]
  split
  · exact ⟨hinit, by simp⟩
  · obtain ⟨hev, hjust⟩ := loadUnloaded_spec hgap xclbin
      (List.range (s.initDevices env).numDevice) (s.initDevices env) "" .error (hinit.sound hs)
    split
    · rename_i heq
      rw [heq] at hev hjust
      exact ⟨hinit.trans hev, fun devId hd => hjust devId hd⟩
    · rename_i s₁ errmsg₁ e₁ heq
      rw [heq] at hev
      obtain ⟨hev₁, hjust₁⟩ := loadNotBusy_spec hgap xclbin
        (List.range s₁.numDevice) s₁ errmsg₁ e₁ (hev.sound (hinit.sound hs))
      split
      · rename_i heq₁
        rw [heq₁] at hev₁ hjust₁
        exact ⟨(hinit.trans hev).trans hev₁, fun devId hd => hjust₁ devId hd⟩
      · rename_i heq₁
        rw [heq₁] at hev₁
        exact ⟨(hinit.trans hev).trans hev₁, by simp⟩

theorem loadOneDevice_evolves {env : XrtEnv} (hgap : D.gapless → env.Gapless) (devId : Int)
    (xclbin errmsg : String) (hs : s.Sound D) :
    Develops D s (s.loadOneDevice env devId xclbin errmsg).1 := by
  have hinit := initDevices_evolves D s env
  rw [loadOneDevice]
  split
  · exact hinit
  split
  · exact hinit
  split
  · have hev := deviceLoadXclbin_evolves (s.initDevices env) hgap 0 devId.toNat xclbin ""
    split <;>
    · rename_i heq
      rw [heq] at hev
      exact hinit.trans hev
  · have hev := (loadAnyDevice_spec (s := s.initDevices env) hgap xclbin ""
      (hinit.sound hs)).1
    split <;>
    · rename_i heq
      rw [heq] at hev
      exact hinit.trans hev

theorem loadAllDevices_evolves {env : XrtEnv} (hgap : D.gapless → env.Gapless) (attempt : Nat)
    (xclbin : String) (devIds : List Nat) (s : System) (errmsg loadErrmsg : String)
    (ret : Except XrmError Unit) :
    Develops D s (loadAllDevices env attempt xclbin devIds s errmsg loadErrmsg ret).1 := by
  induction devIds generalizing s loadErrmsg ret with
  | nil => exact evolves_refl D s
  | cons devId devIds ih =>
      have hev := deviceLoadXclbin_evolves s hgap attempt devId xclbin loadErrmsg
      rw [loadAllDevices]
      split
      · rename_i heq
        rw [heq] at hev
        exact hev.trans (ih _ _ _)
      · rename_i heq
        rw [heq] at hev
        exact hev

theorem loadDevices_evolves (s : System) {env : XrtEnv} (hgap : D.gapless → env.Gapless)
    (entries : List (Option Int × String)) (errmsg : String) :
    Develops D s (s.loadDevices env entries errmsg).1 := by
  have hloop : ∀ (attempt : Nat) (entries : List (Option Int × String)) (s : System)
      (errmsg loadErrmsg : String) (ret : Except XrmError Unit),
      Develops D s (loadEntries env attempt entries s errmsg loadErrmsg ret).1 := by
    intro attempt entries
    induction entries generalizing attempt with
    | nil => exact fun s _ _ _ => evolves_refl D s
    | cons entry entries ih =>
        intro s errmsg loadErrmsg ret
        obtain ⟨device, xclbin⟩ := entry
        cases device with
        | none => exact evolves_refl D s
        | some devId =>
          rw [loadEntries]
          split
          · exact evolves_refl D s
          split
          · exact evolves_refl D s
          split
          · have hev := loadAllDevices_evolves hgap attempt xclbin (List.range s.numDevice) s errmsg
              loadErrmsg ret
            split
            rename_i heq
            rw [heq] at hev
            exact hev.trans (ih _ _ _ _ _)
          · have hev := deviceLoadXclbin_evolves s hgap attempt devId.toNat xclbin loadErrmsg
            split
            · rename_i heq
              rw [heq] at hev
              exact hev.trans (ih _ _ _ _ _)
            · rename_i heq
              rw [heq] at hev
              exact hev
  exact (initDevices_evolves D s env).trans (hloop 0 entries _ _ _ _)

end System

end Xrm
