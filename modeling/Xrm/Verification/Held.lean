import Xrm.Verification.DevicePolicy

/-! # Held channels

The channels in use, each with what the image says of its CU. Loading and unloading changes none of
them: a device with a channel in use is neither unloaded nor loaded again.
-/

namespace Xrm

variable {D : Discipline} {prop : CuProperty}

/-- A channel in use, and what the image says of its CU. -/
abbrev Holding : Type := ChannelData × CuInfo

/-! ## What is held -/

namespace CuData

/-- The held channel of a CU. -/
def heldAt (cu : CuData) (k : Nat) : Option Holding := do
  let chan ← cu.channels[k]?
  if chan.channelLoadUnified = 0 then none else some (chan, cu.toCuInfo)

theorem SameUsers.heldAt {cu cu' : CuData} (h : SameUsers cu cu') (k : Nat) :
    cu'.heldAt k = cu.heldAt k := by
  rw [CuData.heldAt, CuData.heldAt, h.channels, h.toCuInfo]

end CuData

namespace DeviceData

variable {dev dev' : DeviceData} {cu : CuData}

/-- The held channel of a CU of the device. -/
def heldAt (dev : DeviceData) (place : Nat × Nat) : Option Holding := do
  let cu ← dev.cuList[place.1]?
  let chan ← cu.channels[place.2]?
  if chan.channelLoadUnified = 0 then none else some (chan, cu.toCuInfo)

theorem heldAt_eq_some {place : Nat × Nat} {held : Holding} :
    dev.heldAt place = some held ↔ ∃ cu chan, dev.cuList[place.1]? = some cu ∧
      cu.channels[place.2]? = some chan ∧ chan.channelLoadUnified ≠ 0 ∧
        held = (chan, cu.toCuInfo) := by
  simp only [heldAt, Option.bind_eq_bind, Option.bind_eq_some_iff]
  constructor
  · rintro ⟨cu, hcu, chan, hchan, heq⟩
    by_cases hload : chan.channelLoadUnified = 0
    · rw [if_pos hload] at heq
      cases heq
    · rw [if_neg hload, Option.some.injEq] at heq
      exact ⟨cu, chan, hcu, hchan, hload, heq.symm⟩
  · rintro ⟨cu, chan, hcu, hchan, hload, rfl⟩
    exact ⟨cu, hcu, chan, hchan, if_neg hload⟩

theorem heldAt_congr (hcus : dev'.cuList = dev.cuList) : dev'.heldAt = dev.heldAt := by
  funext place
  rw [heldAt, heldAt, hcus]

/-- What all CUs do to their channels, the device does. -/
theorem heldAt_of_forall₂ {f : Option Holding → Option Holding} (hnone : f none = none)
    (h : List.Forall₂ (fun cu cu' => ∀ k, cu'.heldAt k = f (cu.heldAt k)) dev.cuList dev'.cuList)
    (place : Nat × Nat) : dev'.heldAt place = f (dev.heldAt place) := by
  obtain ⟨hlength, hcu⟩ := List.forall₂_iff_get.mp h
  show (dev'.cuList[place.1]?.bind fun cu => cu.heldAt place.2) =
    f (dev.cuList[place.1]?.bind fun cu => cu.heldAt place.2)
  by_cases hlt : place.1 < dev.cuList.length
  · rw [List.getElem?_eq_getElem hlt, List.getElem?_eq_getElem (hlength ▸ hlt)]
    exact hcu place.1 hlt (hlength ▸ hlt) place.2
  · rw [List.getElem?_eq_none (by omega), List.getElem?_eq_none (by omega)]
    exact hnone.symm

/-- Acts on a pool change no held channel. -/
theorem PoolAct.heldAt {p : Nat} (h : PoolAct p dev dev')
    (hcons : ∀ cu ∈ dev.cuList, cu.Consistent) : dev'.heldAt = dev.heldAt := by
  obtain ⟨hsteps, -⟩ := h.steps hcons
  funext place
  exact heldAt_of_forall₂ (f := id) rfl (hsteps.imp fun _ _ hstep => hstep.users.heldAt) place

/-! ## Loading and unloading -/

/-- No channel of the CUs is live. -/
def Dormant (cus : List CuData) : Prop :=
  ∀ cu ∈ cus, ∀ chan ∈ cu.channels, chan.channelLoadUnified = 0

theorem dormant_nil : Dormant [] := by simp [Dormant]

theorem dormant_of_untouched {cus : List CuData} (h : ∀ cu ∈ cus, cu.Untouched) : Dormant cus :=
  fun cu hcu chan hchan => ((h cu hcu).free chan hchan).load

theorem Sound.dormant (h : dev.Sound D) (hidle : ∀ cu ∈ dev.cuList, cu.Idle) :
    Dormant dev.cuList := fun cu hcu chan hchan =>
  ((h.consistent cu hcu).idle_channels (hidle cu hcu) chan hchan).load

theorem deviceClearInfo_dormant (h : Dormant dev.cuList) :
    Dormant dev.deviceClearInfo.cuList := by
  rw [deviceClearInfo]
  split
  · exact h
  · exact dormant_nil

/-- The CUs of a device stay, or are replaced without a live channel before or after. -/
def Swaps (dev dev' : DeviceData) : Prop :=
  dev'.cuList = dev.cuList ∨ Dormant dev.cuList ∧ Dormant dev'.cuList

theorem deviceLoadXclbin_swaps (hsound : dev.Sound D) (devId : Nat) (env : XrtEnv)
    (call : XrtCall) (xclbin errmsg : String) :
    Swaps dev (dev.deviceLoadXclbin devId env call xclbin errmsg).1 := by
  rw [deviceLoadXclbin]
  split
  · exact .inl rfl
  split
  · exact .inl rfl
  rename_i hload
  have hempty := hsound.unloaded (Bool.eq_false_of_not_eq_true hload)
  have hcus : (if dev.deviceHandle then dev else dev.openDevice call).cuList = [] := by
    split
    · exact hempty
    · exact hempty
  refine .inr ⟨by rw [hempty]; exact dormant_nil, ?_⟩
  simp only
  generalize (if dev.deviceHandle then dev else dev.openDevice call) = dev₁ at hcus ⊢
  have hdormant : Dormant dev₁.cuList := by
    rw [hcus]
    exact dormant_nil
  cases env.file xclbin with
  | missing => exact deviceClearInfo_dormant hdormant
  | unreadable => exact deviceClearInfo_dormant hdormant
  | image axlf =>
      simp only
      split
      · exact deviceClearInfo_dormant hdormant
      · rename_i errmsg₁ _
        have hinfo := xclbinGetInfo_relayout { dev₁ with memBuffer := some axlf } call axlf errmsg₁
        split
        · rename_i heq
          rw [heq] at hinfo
          exact deviceClearInfo_dormant (dormant_of_untouched hinfo.untouched)
        · rename_i heq
          rw [heq] at hinfo
          split
          · exact deviceClearInfo_dormant (dormant_of_untouched hinfo.untouched)
          · exact dormant_of_untouched hinfo.untouched

theorem unloadOneDevice_swaps (hsound : dev.Sound D) (devId : Nat) (call : XrtCall)
    (errmsg : String) : Swaps dev (dev.unloadOneDevice devId call errmsg).1 := by
  rw [unloadOneDevice]
  split
  · rename_i hload
    have hempty := hsound.unloaded (by simpa using hload)
    have hdormant : Dormant dev.cuList := by
      rw [hempty]
      exact dormant_nil
    exact .inr ⟨hdormant, deviceClearInfo_dormant hdormant⟩
  split
  · exact .inl rfl
  rename_i hbusy
  split
  · exact .inl rfl
  · have hdormant := hsound.dormant (idle_of_not_busy (Bool.eq_false_of_not_eq_true hbusy))
    exact .inr ⟨hdormant, deviceClearInfo_dormant hdormant⟩

theorem disableOneDevice_swaps (hsound : dev.Sound D) (devId : Nat) (call : XrtCall)
    (errmsg : String) : Swaps dev (dev.disableOneDevice devId call errmsg).1 := by
  rw [disableOneDevice]
  split
  · exact .inl rfl
  split
  · exact .inl rfl
  split
  · exact .inl rfl
  rename_i hbusy
  split
  · exact .inl rfl
  · have hdormant := hsound.dormant (idle_of_not_busy (Bool.eq_false_of_not_eq_true hbusy))
    exact .inr ⟨hdormant, deviceClearInfo_dormant hdormant⟩

theorem heldAt_dormant (h : Dormant dev.cuList) (place : Nat × Nat) : dev.heldAt place = none := by
  by_contra hne
  obtain ⟨held, hheld⟩ := Option.ne_none_iff_exists'.mp hne
  obtain ⟨cu, chan, hcu, hchan, hload, -⟩ := heldAt_eq_some.mp hheld
  exact hload (h cu (List.mem_of_getElem? hcu) chan (List.mem_of_getElem? hchan))

theorem Swaps.heldAt (h : Swaps dev dev') : dev'.heldAt = dev.heldAt := by
  rcases h with hcus | ⟨hdormant, hdormant'⟩
  · exact heldAt_congr hcus
  · funext place
    rw [heldAt_dormant hdormant, heldAt_dormant hdormant']

end DeviceData

namespace System

variable {s s' s₁ : System}

/-- The held channel at a place. -/
def heldAt (s : System) (place : Nat × Nat × Nat) : Option Holding :=
  s.devList[place.1]?.bind fun dev => dev.heldAt place.2

theorem heldAt_setDev {i : Nat} {dev : DeviceData} (hdev : s.devList[i]? = some dev)
    (dev' : DeviceData) (place : Nat × Nat × Nat) : (s.setDev i dev').heldAt place =
      if place.1 = i then dev'.heldAt place.2 else s.heldAt place := by
  rw [heldAt, heldAt]
  split
  · rename_i hi
    rw [hi, getElem?_setDev_self hdev dev']
    rfl
  · rename_i hi
    rw [getElem?_setDev_ne (Ne.symm hi)]

/-- The live channel is the channel that is held. -/
theorem liveAt_eq (s : System) (place : Nat × Nat × Nat) :
    s.liveAt place = (s.heldAt place).map Prod.fst := by
  rw [liveAt, channelAt, heldAt]
  cases hdev : s.devList[place.1]? with
  | none => rfl
  | some dev =>
      simp only [Option.bind_eq_bind, Option.bind_some, DeviceData.heldAt]
      cases hcu : dev.cuList[place.2.1]? with
      | none => rfl
      | some cu =>
          simp only [Option.bind_some]
          cases hchan : cu.channels[place.2.2]? with
          | none => rfl
          | some chan => by_cases hload : chan.channelLoadUnified = 0 <;> simp [hload]

/-- No held channel changed, and no service id was used up. -/
structure Calm (s s' : System) : Prop where
  held : ∀ place, s'.heldAt place = s.heldAt place
  allocServiceId : s'.allocServiceId = s.allocServiceId

theorem Calm.refl (s : System) : Calm s s := ⟨fun _ => rfl, rfl⟩

theorem Calm.trans (h : Calm s s₁) (h' : Calm s₁ s') : Calm s s' :=
  ⟨fun place => (h'.held place).trans (h.held place), h'.allocServiceId.trans h.allocServiceId⟩

theorem calm_setDev {i : Nat} {dev dev' : DeviceData} (hdev : s.devList[i]? = some dev)
    (h : dev'.heldAt = dev.heldAt) : Calm s (s.setDev i dev') where
  held := by
    intro place
    rw [heldAt_setDev hdev]
    split
    · rename_i hi
      rw [h, heldAt, hi, hdev]
      rfl
    · rfl
  allocServiceId := rfl

theorem Touched.calm (h : Touched prop s s') : Calm s s' := by
  induction h with
  | refl => exact .refl s
  | tail _ hstep ih =>
      obtain ⟨i, dev, dev', hdev, htouch, rfl⟩ := hstep
      exact ih.trans (calm_setDev hdev (DeviceData.heldAt_congr htouch.cuList))

theorem initDevices_calm (h : s.Probed) (env : XrtEnv) : Calm s (s.initDevices env) := by
  rw [initDevices]
  split
  · exact .refl s
  rename_i hinited
  split
  · exact ⟨fun _ => rfl, rfl⟩
  · have hnone := h (Bool.eq_false_of_not_eq_true hinited)
    refine ⟨fun place => ?_, rfl⟩
    have hbefore : s.heldAt place = none := by simp [heldAt, hnone]
    rw [hbefore, heldAt, List.getElem?_map]
    cases (List.range env.probe.toNat)[place.1]? with
    | none => rfl
    | some devId => exact DeviceData.heldAt_dormant DeviceData.dormant_nil place.2

theorem onDevice_calm (i : Nat) (errmsg : String)
    {f : DeviceData → DeviceData × String × Except XrmError Unit}
    (hf : ∀ dev, s.devList[i]? = some dev → DeviceData.Swaps dev (f dev).1) :
    Calm s (s.onDevice i errmsg f).1 := by
  rw [onDevice]
  split
  · exact .refl s
  · rename_i dev hdev
    exact calm_setDev hdev (hf dev hdev).heldAt

theorem deviceLoadXclbin_calm (hsound : s.Sound D) (env : XrtEnv) (attempt devId : Nat)
    (xclbin errmsg : String) : Calm s (s.deviceLoadXclbin env attempt devId xclbin errmsg).1 :=
  onDevice_calm devId errmsg fun dev hdev =>
    DeviceData.deviceLoadXclbin_swaps (hsound dev (List.mem_of_getElem? hdev)) devId env _ xclbin
      errmsg

theorem loadUnloaded_calm {env : XrtEnv} (hgap : D.gapless → env.Gapless) (xclbin : String)
    (devIds : List Nat) (hsound : s.Sound D) (errmsg : String) (e : XrmError) :
    Calm s (loadUnloaded env xclbin devIds s errmsg e).1 := by
  induction devIds generalizing s errmsg e with
  | nil => exact .refl s
  | cons devId devIds ih =>
      have hload := deviceLoadXclbin_calm hsound env 0 devId xclbin errmsg
      have hev := deviceLoadXclbin_evolves s hgap 0 devId xclbin errmsg
      rw [loadUnloaded]
      split
      · exact ih hsound errmsg e
      split
      · rename_i heq
        rw [heq] at hload
        exact hload
      · rename_i heq
        rw [heq] at hload hev
        exact hload.trans (ih (hev.sound hsound) _ _)

theorem loadNotBusy_calm {env : XrtEnv} (hgap : D.gapless → env.Gapless) (xclbin : String)
    (devIds : List Nat) (hsound : s.Sound D) (errmsg : String) (e : XrmError) :
    Calm s (loadNotBusy env xclbin devIds s errmsg e).1 := by
  induction devIds generalizing s errmsg e with
  | nil => exact .refl s
  | cons devId devIds ih =>
      have hunload : Calm s (s.onDevice devId errmsg fun dev =>
          dev.unloadOneDevice devId (env.call 1 devId) errmsg).1 :=
        onDevice_calm devId errmsg fun dev hdev =>
          DeviceData.unloadOneDevice_swaps (hsound dev (List.mem_of_getElem? hdev)) _ _ errmsg
      have hev : Develops D s (s.onDevice devId errmsg fun dev =>
          dev.unloadOneDevice devId (env.call 1 devId) errmsg).1 :=
        onDevice_evolves devId errmsg fun dev => (dev.unloadOneDevice_spec D _ _ errmsg).1
      rw [loadNotBusy]
      split
      · exact ih hsound errmsg e
      split
      · rename_i heq
        rw [heq] at hunload hev
        exact hunload.trans (ih (hev.sound hsound) _ _)
      · rename_i s₁ errmsg₁ heq
        rw [heq] at hunload hev
        have hsound₁ := hev.sound hsound
        have hload := deviceLoadXclbin_calm hsound₁ env 1 devId xclbin errmsg₁
        have hev₁ := deviceLoadXclbin_evolves s₁ hgap 1 devId xclbin errmsg₁
        split
        · rename_i heq₁
          rw [heq₁] at hload
          exact hunload.trans hload
        · rename_i heq₁
          rw [heq₁] at hload hev₁
          exact (hunload.trans hload).trans (ih (hev₁.sound hsound₁) _ _)

/-- Loading on any device changes no live channel. -/
theorem loadAnyDevice_calm {env : XrtEnv} (hgap : D.gapless → env.Gapless)
    (xclbin errmsg : String) (hsound : s.Sound D) (hprobed : s.Probed) :
    Calm s (s.loadAnyDevice env xclbin errmsg).1 := by
  have hinit := initDevices_calm hprobed env
  have hsound₀ := (initDevices_evolves D s env).sound hsound
  have hfirst := loadUnloaded_calm hgap xclbin (List.range (s.initDevices env).numDevice)
    hsound₀ "" .error
  have hev := (loadUnloaded_spec hgap xclbin (List.range (s.initDevices env).numDevice)
    (s.initDevices env) "" .error hsound₀).1
  rw [loadAnyDevice]
  split
  · exact hinit
  split
  · rename_i heq
    rw [heq] at hfirst
    exact hinit.trans hfirst
  · rename_i s₁ errmsg₁ e heq
    rw [heq] at hfirst hev
    have hsecond := loadNotBusy_calm hgap xclbin (List.range s₁.numDevice)
      (hev.sound hsound₀) errmsg₁ e
    split
    · rename_i heq₁
      rw [heq₁] at hsecond
      exact (hinit.trans hfirst).trans hsecond
    · rename_i heq₁
      rw [heq₁] at hsecond
      exact (hinit.trans hfirst).trans hsecond

/-! ### The commands that load and unload -/

theorem loadOneDevice_calm {env : XrtEnv} (hgap : D.gapless → env.Gapless) (devId : Int)
    (xclbin errmsg : String) (hsound : s.Sound D) (hprobed : s.Probed) :
    Calm s (s.loadOneDevice env devId xclbin errmsg).1 := by
  have hinit := initDevices_calm hprobed env
  have hev := initDevices_evolves D s env
  rw [loadOneDevice]
  split
  · exact hinit
  split
  · exact hinit
  split
  · have hload := deviceLoadXclbin_calm (hev.sound hsound) env 0 devId.toNat xclbin ""
    split <;>
    · rename_i heq
      rw [heq] at hload
      exact hinit.trans hload
  · have hload := loadAnyDevice_calm hgap xclbin "" (hev.sound hsound) (hev.frame.probed hprobed)
    split <;>
    · rename_i heq
      rw [heq] at hload
      exact hinit.trans hload

theorem loadAllDevices_calm {env : XrtEnv} (hgap : D.gapless → env.Gapless) (attempt : Nat)
    (xclbin : String) (devIds : List Nat) (hsound : s.Sound D) (errmsg loadErrmsg : String)
    (ret : Except XrmError Unit) :
    Calm s (loadAllDevices env attempt xclbin devIds s errmsg loadErrmsg ret).1 := by
  induction devIds generalizing s loadErrmsg ret with
  | nil => exact .refl s
  | cons devId devIds ih =>
      have hload := deviceLoadXclbin_calm hsound env attempt devId xclbin loadErrmsg
      have hev := deviceLoadXclbin_evolves s hgap attempt devId xclbin loadErrmsg
      rw [loadAllDevices]
      split
      · rename_i heq
        rw [heq] at hload hev
        exact hload.trans (ih (hev.sound hsound) _ _)
      · rename_i heq
        rw [heq] at hload
        exact hload

theorem loadEntries_calm {env : XrtEnv} (hgap : D.gapless → env.Gapless) (attempt : Nat)
    (entries : List (Option Int × String)) (hsound : s.Sound D) (errmsg loadErrmsg : String)
    (ret : Except XrmError Unit) :
    Calm s (loadEntries env attempt entries s errmsg loadErrmsg ret).1 := by
  induction entries generalizing attempt s errmsg loadErrmsg ret with
  | nil => exact .refl s
  | cons entry entries ih =>
      obtain ⟨device, xclbin⟩ := entry
      cases device with
      | none => exact .refl s
      | some devId =>
          rw [loadEntries]
          split
          · exact .refl s
          split
          · exact .refl s
          split
          · have hall := loadAllDevices_calm hgap attempt xclbin (List.range s.numDevice) hsound
              errmsg loadErrmsg ret
            have hev := loadAllDevices_evolves hgap attempt xclbin (List.range s.numDevice) s
              errmsg loadErrmsg ret
            split
            rename_i heq
            rw [heq] at hall hev
            exact hall.trans (ih _ (hev.sound hsound) _ _ _)
          · have hload := deviceLoadXclbin_calm hsound env attempt devId.toNat xclbin loadErrmsg
            have hev := deviceLoadXclbin_evolves s hgap attempt devId.toNat xclbin loadErrmsg
            split
            · rename_i heq
              rw [heq] at hload hev
              exact hload.trans (ih _ (hev.sound hsound) _ _ _)
            · rename_i heq
              rw [heq] at hload
              exact hload

theorem loadDevices_calm {env : XrtEnv} (hgap : D.gapless → env.Gapless)
    (entries : List (Option Int × String)) (errmsg : String) (hsound : s.Sound D)
    (hprobed : s.Probed) : Calm s (s.loadDevices env entries errmsg).1 :=
  (initDevices_calm hprobed env).trans
    (loadEntries_calm hgap 0 entries ((initDevices_evolves D s env).sound hsound) errmsg "" _)

/-- The commands about one device: it is probed first. -/
theorem onProbed_calm (hprobed : s.Probed) (env : XrtEnv) (hsound : s.Sound D) (devId : Int)
    (errmsg : String) {f : Nat → DeviceData → DeviceData × String × Except XrmError Unit}
    (hf : ∀ i dev, dev.Sound D → DeviceData.Swaps dev (f i dev).1) :
    Calm s (match (s.initDevices env).devIndex devId with
      | none => (s.initDevices env, invalidDevice devId, (.error .invalid : Except XrmError Unit))
      | some i => (s.initDevices env).onDevice i errmsg (f i)).1 := by
  refine (initDevices_calm hprobed env).trans ?_
  have hsound' := (initDevices_evolves D s env).sound hsound
  split
  · exact .refl _
  · exact onDevice_calm _ errmsg fun dev hdev => hf _ dev (hsound' dev (List.mem_of_getElem? hdev))

theorem unloadOneDevice_calm (hsound : s.Sound D) (hprobed : s.Probed) (env : XrtEnv)
    (devId : Int) (errmsg : String) : Calm s (s.unloadOneDevice env devId errmsg).1 :=
  onProbed_calm hprobed env hsound devId errmsg fun i _ hdev =>
    DeviceData.unloadOneDevice_swaps hdev i (env.call 0 i) errmsg

theorem enableOneDevice_calm (hsound : s.Sound D) (hprobed : s.Probed) (env : XrtEnv)
    (devId : Int) (errmsg : String) : Calm s (s.enableOneDevice env devId errmsg).1 :=
  onProbed_calm hprobed env hsound devId errmsg fun _ _ _ => .inl rfl

theorem disableOneDevice_calm (hsound : s.Sound D) (hprobed : s.Probed) (env : XrtEnv)
    (devId : Int) (errmsg : String) : Calm s (s.disableOneDevice env devId errmsg).1 :=
  onProbed_calm hprobed env hsound devId errmsg fun i _ hdev =>
    DeviceData.disableOneDevice_swaps hdev i (env.call 0 i) errmsg

theorem listDevice_calm (s : System) (env : XrtEnv) (devId : Nat) :
    Calm s (s.listDevice env devId) := by
  rw [listDevice]
  split
  · exact .refl s
  rename_i dev hdev
  split
  · exact .refl s
  · exact calm_setDev hdev (DeviceData.heldAt_congr rfl)

/-! ## Reserving and relinquishing -/

theorem PoolActs.calm {p : Nat} (h : PoolActs p s s') (hsound : s.Sound D) : Calm s s' := by
  induction h with
  | refl => exact .refl s
  | tail hacts hstep ih =>
      have hsound' := (PoolActs.evolves hacts).sound (D := D.unfresh)
        (fun dev hdev => (hsound dev hdev).unfresh) False.elim
      cases hstep with
      | act hdev hact =>
          exact ih.trans (calm_setDev hdev
            (hact.heldAt (hsound' _ (List.mem_of_getElem? hdev)).consistent))
      | updateId => exact ih.trans ⟨fun _ => rfl, rfl⟩

end System

end Xrm
