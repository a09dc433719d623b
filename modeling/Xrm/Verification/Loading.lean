import Xrm.Verification.Layout

/-! # Loading one device

When a device that is not loaded takes an xclbin file, and what it looks like afterwards.
-/

namespace Xrm

/-! ## The verdict -/

/-- The image can be read: its kernels fit the table, one of them is a hardware kernel, and the
keyvalue metadata is JSON with all its values if there is any. -/
def XrtCall.reads (call : XrtCall) (axlf : Axlf) : Bool :=
  (match (Layout.ofImage call axlf).2 with
    | .ok () => true
    | .error _ => false) &&
  hardwareKernelExisting axlf &&
  (match axlf.keyvalueMetadata with
    | .malformed _ | .incomplete => false
    | .absent | .entries _ => true)

/-- The file and the driver let a device be loaded that is enabled and not loaded. -/
def XrtCall.takes (call : XrtCall) : XclbinFile → Bool
  | .image axlf =>
      call.lockDevice == 0 && call.loadXclBin == 0 && call.reads axlf && call.openContext == 0
  | _ => false

namespace DeviceData

variable {dev dev' : DeviceData}

/-! ## Reading an image -/

/-- A device whose CU table is being set up. -/
structure Relayout (dev dev' : DeviceData) : Prop where
  number : dev'.cuList.length ≤ maxXilinxKernels
  untouched : ∀ cu ∈ dev'.cuList, cu.Untouched
  isLoaded : dev'.isLoaded = dev.isLoaded
  isExcl : dev'.isExcl = dev.isExcl
  clientProcs : dev'.clientProcs = dev.clientProcs

theorem xclbinGetLayout_relayout (dev : DeviceData) (call : XrtCall) (axlf : Axlf)
    (errmsg : String) : Relayout dev (dev.xclbinGetLayout call axlf errmsg).1 := by
  have hlayout := Layout.ofImage_untouched call axlf
  have hnumber : ∀ {layout : Layout}, layout.cuList.length = maxXilinxKernels →
      (layout.cuList.take layout.numCu).length ≤ maxXilinxKernels :=
    fun hlen => hlen ▸ List.length_take_le' _ _
  rw [xclbinGetLayout]
  split
  · rename_i layout e heq
    rw [heq] at hlayout
    exact ⟨hnumber hlayout.length, fun cu hcu => hlayout.cus cu (List.mem_of_mem_take hcu), rfl,
      rfl, rfl⟩
  · rename_i layout heq
    rw [heq] at hlayout
    have h : Relayout dev
        ({ dev with cuList := layout.cuList.take layout.numCu }.updateDeviceLoad 0 0) :=
      ⟨hnumber hlayout.length, fun cu hcu => hlayout.cus cu (List.mem_of_mem_take hcu), rfl, rfl,
        rfl⟩
    simp only
    split
    · exact h
    · exact h

theorem Relayout.mark {dev₁ : DeviceData} (h : Relayout dev dev₁) (hcus : dev'.cuList = dev₁.cuList)
    (hload : dev'.isLoaded = dev₁.isLoaded) (hex : dev'.isExcl = dev₁.isExcl)
    (hprocs : dev'.clientProcs = dev₁.clientProcs) : Relayout dev dev' :=
  ⟨by rw [hcus]; exact h.number, by rw [hcus]; exact h.untouched, hload.trans h.isLoaded,
    hex.trans h.isExcl, hprocs.trans h.clientProcs⟩

theorem Relayout.map {dev₁ : DeviceData} {f : CuData → CuData} (h : Relayout dev dev₁)
    (hf : ∀ cu, cu.Untouched → (f cu).Untouched) :
    Relayout dev { dev₁ with cuList := dev₁.cuList.map f } := by
  refine ⟨by simpa using h.number, ?_, h.isLoaded, h.isExcl, h.clientProcs⟩
  intro cu hcu
  obtain ⟨cu₀, hmem, rfl⟩ := List.mem_map.mp hcu
  exact hf cu₀ (h.untouched cu₀ hmem)

/-- What the tables of an image leave alone. -/
theorem xclbinGetMeta_frame (dev : DeviceData) (axlf : Axlf) : ∃ banks conns,
    ((dev.xclbinGetUuid axlf).xclbinGetMemTopology axlf).xclbinGetConnectivity axlf =
      { dev with
        uuid := axlf.uuid
        uuidStr := dev.uuidStr ++ binToHexstr axlf.uuid
        memTopologyList := banks
        connectList := conns } := by
  cases hbanks : axlf.memTopology with
  | none =>
      cases hconns : axlf.connectivity with
      | none =>
          simp only [xclbinGetConnectivity, xclbinGetMemTopology, hbanks, hconns]
          exact ⟨_, _, rfl⟩
      | some conns =>
          simp only [xclbinGetConnectivity, xclbinGetMemTopology, hbanks, hconns]
          exact ⟨_, _, rfl⟩
  | some banks =>
      cases hconns : axlf.connectivity with
      | none =>
          simp only [xclbinGetConnectivity, xclbinGetMemTopology, hbanks, hconns]
          exact ⟨_, _, rfl⟩
      | some conns =>
          simp only [xclbinGetConnectivity, xclbinGetMemTopology, hbanks, hconns]
          exact ⟨_, _, rfl⟩

theorem xclbinGetInfo_relayout (dev : DeviceData) (call : XrtCall) (axlf : Axlf)
    (errmsg : String) : Relayout dev (dev.xclbinGetInfo call axlf errmsg).1 := by
  have hlayout := dev.xclbinGetLayout_relayout call axlf errmsg
  rw [xclbinGetInfo]
  split
  · rename_i heq
    rw [heq] at hlayout
    exact hlayout
  · rename_i dev₁ errmsg₁ heq
    rw [heq] at hlayout
    obtain ⟨banks, conns, hmeta⟩ := dev₁.xclbinGetMeta_frame axlf
    rw [hmeta]
    have h₁ : Relayout dev
        { dev₁ with
          uuid := axlf.uuid
          uuidStr := dev₁.uuidStr ++ binToHexstr axlf.uuid
          memTopologyList := banks
          connectList := conns } :=
      hlayout.mark rfl rfl rfl rfl
    simp only
    rw [xclbinGetKeyvalues]
    cases axlf.keyvalueMetadata with
    | absent => exact h₁.map fun cu hcu =>
        foldl_untouched (fun cu conn h => CuData.setMemBank_untouched h banks conn) conns hcu
    | malformed message => exact h₁
    | incomplete => exact h₁
    | entries kvs =>
        have h₂ := h₁.map fun cu hcu =>
          foldl_untouched (fun cu kv h => CuData.setKeyValue_untouched h kv) kvs hcu
        exact h₂.map fun cu hcu =>
          foldl_untouched (fun cu conn h => CuData.setMemBank_untouched h banks conn) conns hcu

theorem xclbinGetLayout_frame (dev : DeviceData) (call : XrtCall) (axlf : Axlf)
    (errmsg : String) : ∃ cuList load rate, (dev.xclbinGetLayout call axlf errmsg).1 =
      { dev with
        cuList := cuList
        devLoadInfo := { devLoadRate := rate, deviceId := dev.devLoadInfo.deviceId,
                         devCurrentLoad := load } } := by
  rw [xclbinGetLayout]
  split
  · exact ⟨_, _, _, rfl⟩
  · simp only
    split <;> exact ⟨_, _, _, rfl⟩

theorem xclbinGetLayout_ok (dev : DeviceData) (call : XrtCall) (axlf : Axlf) (errmsg : String) :
    (dev.xclbinGetLayout call axlf errmsg).2.2 = .ok () ↔
      (Layout.ofImage call axlf).2 = .ok () ∧ hardwareKernelExisting axlf = true := by
  rw [xclbinGetLayout]
  split
  · rename_i heq
    simp [heq]
  · rename_i heq
    simp only [heq, true_and]
    split
    · rename_i hker
      simp [hker]
    · rename_i hker
      simp [hker]

/-- The labels of a device while an image is read. -/
structure Reading (dev dev' : DeviceData) : Prop where
  number : dev'.devLoadInfo.deviceId = dev.devLoadInfo.deviceId
  isLoaded : dev'.isLoaded = dev.isLoaded
  isDisabled : dev'.isDisabled = dev.isDisabled

theorem xclbinGetInfo_reading (dev : DeviceData) (call : XrtCall) (axlf : Axlf)
    (errmsg : String) : Reading dev (dev.xclbinGetInfo call axlf errmsg).1 ∧
      ((dev.xclbinGetInfo call axlf errmsg).2.2 = .ok () ↔ call.reads axlf = true) ∧
      ((dev.xclbinGetInfo call axlf errmsg).2.2 = .ok () →
        (dev.xclbinGetInfo call axlf errmsg).1.uuid = axlf.uuid ∧
          (dev.xclbinGetInfo call axlf errmsg).1.uuidStr =
            dev.uuidStr ++ binToHexstr axlf.uuid) := by
  have hok := dev.xclbinGetLayout_ok call axlf errmsg
  obtain ⟨cuList, load, rate, hlayout⟩ := dev.xclbinGetLayout_frame call axlf errmsg
  rw [xclbinGetInfo]
  split
  · rename_i heq
    rw [heq] at hlayout hok
    simp only at hlayout
    have hreads : call.reads axlf = false := by
      have hnot : ¬((Layout.ofImage call axlf).2 = .ok () ∧ hardwareKernelExisting axlf = true) :=
        fun h => by simpa using hok.mpr h
      rw [XrtCall.reads]
      cases hof : (Layout.ofImage call axlf).2 with
      | ok u => simp [hof] at hnot; simp [hnot]
      | error e => simp
    rw [hlayout]
    exact ⟨⟨rfl, rfl, rfl⟩, by simp [hreads], by simp⟩
  · rename_i dev₁ errmsg₁ heq
    rw [heq] at hlayout hok
    obtain ⟨hof, hker⟩ := hok.mp rfl
    simp only at hlayout
    obtain ⟨banks, conns, hmeta⟩ := dev₁.xclbinGetMeta_frame axlf
    simp only
    rw [hmeta, xclbinGetKeyvalues, hlayout]
    cases hkv : axlf.keyvalueMetadata with
    | absent =>
        exact ⟨⟨rfl, rfl, rfl⟩, by simp [XrtCall.reads, hof, hker, hkv], fun _ => ⟨rfl, rfl⟩⟩
    | malformed message =>
        exact ⟨⟨rfl, rfl, rfl⟩, by simp [XrtCall.reads, hkv], by simp⟩
    | incomplete =>
        exact ⟨⟨rfl, rfl, rfl⟩, by simp [XrtCall.reads, hkv], by simp⟩
    | entries kvs =>
        exact ⟨⟨rfl, rfl, rfl⟩, by simp [XrtCall.reads, hof, hker, hkv], fun _ => ⟨rfl, rfl⟩⟩

/-! ## Clearing -/

theorem deviceClearInfo_of_not_busy (h : dev.isDeviceBusy = false) :
    dev.deviceClearInfo = { dev.flushDevData with deviceHandle := dev.deviceHandle } := by
  rw [deviceClearInfo, if_neg (by simp [h])]

theorem not_busy_of_untouched (h : ∀ cu ∈ dev.cuList, cu.Untouched) : dev.isDeviceBusy = false := by
  rw [isDeviceBusy, List.any_eq_false]
  intro cu hcu
  simp [(h cu hcu).totalUsed]

theorem not_busy_of_empty (h : dev.cuList = []) : dev.isDeviceBusy = false := by
  rw [isDeviceBusy, h]
  rfl

/-! ## What is refused -/

theorem deviceClearInfo_busy (h : dev.isDeviceBusy = true) : dev.deviceClearInfo = dev := by
  rw [deviceClearInfo, if_pos h]

theorem unloadOneDevice_busy (hload : dev.isLoaded = true) (h : dev.isDeviceBusy = true)
    (devId : Nat) (call : XrtCall) (errmsg : String) :
    (dev.unloadOneDevice devId call errmsg).1 = dev := by
  simp [unloadOneDevice, hload, h]

theorem deviceLoadXclbin_loaded (hload : dev.isLoaded = true) (devId : Nat) (env : XrtEnv)
    (call : XrtCall) (xclbin errmsg : String) :
    (dev.deviceLoadXclbin devId env call xclbin errmsg).1 = dev := by
  by_cases hdisabled : dev.isDisabled = true
  · rw [deviceLoadXclbin, if_pos hdisabled]
  · rw [deviceLoadXclbin, if_neg hdisabled, if_pos hload]

/-! ## Attempts -/

/-- A device that could not be loaded: it keeps its number, and is empty if it was. -/
structure Spared (dev dev' : DeviceData) : Prop where
  number : dev'.devLoadInfo.deviceId = dev.devLoadInfo.deviceId
  isLoaded : dev'.isLoaded = false
  isDisabled : dev'.isDisabled = dev.isDisabled
  uuidStr : dev'.uuidStr = dev.uuidStr ∨ dev'.uuidStr = ""
  cuList : dev.cuList = [] → dev'.cuList = []

theorem Spared.refl (hload : dev.isLoaded = false) : Spared dev dev :=
  ⟨rfl, hload, rfl, .inl rfl, id⟩

theorem Spared.trans {dev'' : DeviceData} (h : Spared dev dev') (h' : Spared dev' dev'') :
    Spared dev dev'' := by
  refine ⟨h'.number.trans h.number, h'.isLoaded, h'.isDisabled.trans h.isDisabled, ?_,
    h'.cuList ∘ h.cuList⟩
  rcases h'.uuidStr with hstr | hstr
  · rw [hstr]
    exact h.uuidStr
  · exact .inr hstr

/-- Giving up while the uuid has not been read, or while nothing is in use. -/
theorem Reading.giveUp (h : Reading dev dev') (hload : dev.isLoaded = false)
    (hsame : dev'.isDeviceBusy = true → dev'.uuidStr = dev.uuidStr ∧ dev'.cuList = dev.cuList) :
    Spared dev dev'.deviceClearInfo := by
  cases hbusy : dev'.isDeviceBusy with
  | false =>
      rw [deviceClearInfo_of_not_busy hbusy]
      exact ⟨h.number, rfl, h.isDisabled, .inr rfl, fun _ => rfl⟩
  | true =>
      obtain ⟨hstr, hcus⟩ := hsame hbusy
      rw [deviceClearInfo, if_pos hbusy]
      exact ⟨h.number, h.isLoaded.trans hload, h.isDisabled, .inl hstr, fun hempty =>
        hcus.trans hempty⟩

/-- A device that has just been loaded with the image of the file. -/
structure Loads (dev dev' : DeviceData) (xclbin : String) (axlf : Axlf) : Prop where
  number : dev'.devLoadInfo.deviceId = dev.devLoadInfo.deviceId
  isLoaded : dev'.isLoaded = true
  isDisabled : dev'.isDisabled = false
  xclbinName : dev'.xclbinName = xclbin
  uuid : dev'.uuid = axlf.uuid
  uuidStr : dev'.uuidStr = dev.uuidStr ++ binToHexstr axlf.uuid

theorem Loads.follows {xclbin : String} {axlf : Axlf} (h : Loads dev dev' xclbin axlf)
    (hload : dev.isLoaded = false) : Follows dev dev' := by
  refine ⟨h.number, fun hlab => ⟨by simp [h.isLoaded], fun _ => ⟨h.isDisabled, ?_⟩⟩⟩
  rw [h.uuidStr, hlab.unloaded hload, h.uuid, String.empty_append]

/-- What an attempt to load a device that is not loaded comes to. -/
inductive Attempted (env : XrtEnv) (call : XrtCall) (xclbin : String) (dev : DeviceData) :
    DeviceData × String × Except XrmError Unit → Prop where
  | spared {dev' : DeviceData} {errmsg : String} {e : XrmError}
      (hnot : ¬(dev.isDisabled = false ∧ call.takes (env.file xclbin) = true))
      (h : Spared dev dev') : Attempted env call xclbin dev (dev', errmsg, .error e)
  | loaded {dev' : DeviceData} {errmsg : String} {axlf : Axlf}
      (hfile : env.file xclbin = .image axlf) (htakes : call.takes (.image axlf) = true)
      (hen : dev.isDisabled = false) (h : Loads dev dev' xclbin axlf) :
      Attempted env call xclbin dev (dev', errmsg, .ok ())

theorem deviceLoadXclbin_attempted (hload : dev.isLoaded = false) (devId : Nat) (env : XrtEnv)
    (call : XrtCall) (xclbin errmsg : String) :
    Attempted env call xclbin dev (dev.deviceLoadXclbin devId env call xclbin errmsg) := by
  rw [deviceLoadXclbin]
  by_cases hdis : dev.isDisabled = true
  · rw [if_pos hdis]
    exact .spared (by simp [hdis]) (.refl hload)
  rw [if_neg hdis, if_neg (by simp [hload])]
  have hen : dev.isDisabled = false := by simpa using hdis
  obtain ⟨handle, hopen⟩ : ∃ handle, (if dev.deviceHandle then dev else dev.openDevice call) =
      { dev with deviceHandle := handle } := by
    by_cases hh : dev.deviceHandle = true
    · rw [if_pos hh]
      exact ⟨dev.deviceHandle, rfl⟩
    · rw [if_neg hh]
      exact ⟨call.opens, rfl⟩
  simp only
  rw [hopen]
  have hmark : ∀ image, Spared dev
      { dev with deviceHandle := handle, memBuffer := image }.deviceClearInfo := fun image =>
    Reading.giveUp ⟨rfl, rfl, rfl⟩ hload fun _ => ⟨rfl, rfl⟩
  cases hfile : env.file xclbin with
  | missing => exact .spared (by simp [hfile, XrtCall.takes]) (hmark dev.memBuffer)
  | unreadable => exact .spared (by simp [hfile, XrtCall.takes]) (hmark dev.memBuffer)
  | image axlf =>
      simp only
      rw [xclbinLoadToDevice]
      by_cases hlock : call.lockDevice = 0
      swap
      · rw [if_pos hlock]
        exact .spared (by simp [hfile, XrtCall.takes, hlock]) (hmark _)
      rw [if_neg (by simp [hlock])]
      by_cases hxcl : call.loadXclBin = 0
      swap
      · rw [if_pos hxcl]
        exact .spared (by simp [hfile, XrtCall.takes, hxcl]) (hmark _)
      rw [if_neg (by simp [hxcl])]
      simp only
      obtain ⟨hreading, hok, huuid⟩ := xclbinGetInfo_reading
        { dev with deviceHandle := handle, memBuffer := some axlf } call axlf errmsg
      have hrelay := xclbinGetInfo_relayout
        { dev with deviceHandle := handle, memBuffer := some axlf } call axlf errmsg
      split
      · rename_i heq
        rw [heq] at hreading hok hrelay
        have hreads : ¬call.reads axlf = true := fun h => by simpa using hok.mpr h
        exact .spared (by simp [hfile, XrtCall.takes, hreads])
          (Reading.giveUp ⟨hreading.number, hreading.isLoaded, hreading.isDisabled⟩ hload
            fun hb => by
            simp [not_busy_of_untouched hrelay.untouched] at hb)
      · rename_i dev₁ errmsg₁ heq
        rw [heq] at hreading hok hrelay huuid
        have hreads := hok.mp rfl
        obtain ⟨hu, hstr⟩ := huuid rfl
        split
        · rename_i hctx
          exact .spared (by simp [hfile, XrtCall.takes, hctx])
            (Reading.giveUp ⟨hreading.number, hreading.isLoaded, hreading.isDisabled⟩ hload
              fun hb => by simp [not_busy_of_untouched hrelay.untouched] at hb)
        · rename_i hctx
          refine .loaded hfile ?_ hen ⟨hreading.number, rfl, hreading.isDisabled.trans hen, rfl, hu,
            hstr⟩
          simpa [XrtCall.takes, hlock, hxcl, hreads] using hctx

end DeviceData

end Xrm
