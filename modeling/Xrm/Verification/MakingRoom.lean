import Xrm.Verification.Access
import Xrm.Verification.InUse
import Xrm.Verification.Numbering

/-! # Making room for an xclbin

`loadAnyDevice` first tries the devices that are not loaded, then unloads one device after
another that is not busy. What it unloads before it finds a device stays unloaded.
-/

namespace Xrm

namespace System

variable {s s' : System} {env : XrtEnv} {xclbin : String} {devIds : List Nat}

/-! ## What the two loops look for -/

/-- Device `k` is not loaded and takes the file in the first loop. -/
def TakesUnloaded (s : System) (env : XrtEnv) (xclbin : String) (k : Nat) : Prop :=
  ∃ dev, s.devList[k]? = some dev ∧ dev.isLoaded = false ∧ dev.isDisabled = false ∧
    (env.call 0 k).takes (env.file xclbin) = true

/-- Device `k` is loaded, and the second loop can unload it. -/
def Yields (s : System) (env : XrtEnv) (k : Nat) : Prop :=
  ∃ dev, s.devList[k]? = some dev ∧ dev.isLoaded = true ∧ dev.isDeviceBusy = false ∧
    (env.call 1 k).closeContext = 0

/-- Device `k` is not in use and takes the file in the second loop. -/
def TakesIdle (s : System) (env : XrtEnv) (xclbin : String) (k : Nat) : Prop :=
  ∃ dev, s.devList[k]? = some dev ∧ dev.isDeviceBusy = false ∧
    (dev.isLoaded = true → (env.call 1 k).closeContext = 0) ∧ dev.isDisabled = false ∧
      (env.call 1 k).takes (env.file xclbin) = true

/-- The second loop over the devices unloads device `k`: none before it takes the file. -/
def GivesWay (s : System) (env : XrtEnv) (xclbin : String) (devIds : List Nat) (k : Nat) : Prop :=
  k ∈ devIds ∧ s.Yields env k ∧ ∀ j ∈ devIds, j < k → ¬s.TakesIdle env xclbin j

/-- Devices without an xclbin have no CUs. -/
def Bare (s : System) : Prop := ∀ dev ∈ s.devList, dev.isLoaded = false → dev.cuList = []

theorem Sound.bare {D : Discipline} (h : s.Sound D) : s.Bare := fun dev hdev =>
  (h dev hdev).unloaded

theorem Bare.setDev (h : s.Bare) (i : Nat) {dev : DeviceData}
    (hdev : dev.isLoaded = false → dev.cuList = []) : (s.setDev i dev).Bare := by
  intro x hx
  rcases List.mem_or_eq_of_mem_set hx with hx | rfl
  · exact h x hx
  · exact hdev

/-! ## The first loop -/

/-- A load on a device of the table that is not loaded. -/
theorem deviceLoadXclbin_at {dev : DeviceData} {devId : Nat} (hdev : s.devList[devId]? = some dev)
    (hload : dev.isLoaded = false) (env : XrtEnv) (attempt : Nat) (xclbin errmsg : String) :
    ∃ r, DeviceData.Attempted env (env.call attempt devId) xclbin dev r ∧
      s.deviceLoadXclbin env attempt devId xclbin errmsg = (s.setDev devId r.1, r.2) := by
  refine ⟨_, DeviceData.deviceLoadXclbin_attempted hload devId env (env.call attempt devId) xclbin
    errmsg, ?_⟩
  rw [System.deviceLoadXclbin, onDevice, hdev]

/-- Loaded devices stay as they are; those that are not stay so. -/
structure Outline (s s' : System) : Prop where
  numDevice : s'.numDevice = s.numDevice
  at_ : ∀ (k : Nat) (dev : DeviceData), s.devList[k]? = some dev → ∃ dev',
    s'.devList[k]? = some dev' ∧ (dev.isLoaded = true → dev' = dev) ∧
      (dev.isLoaded = false → DeviceData.Spared dev dev')

theorem Outline.refl (s : System) : Outline s s :=
  ⟨rfl, fun _ dev hdev => ⟨dev, hdev, fun _ => rfl, .refl⟩⟩

theorem Outline.setDev {devId : Nat} {dev dev' : DeviceData}
    (hdev : s.devList[devId]? = some dev) (hload : dev.isLoaded = false)
    (h : DeviceData.Spared dev dev') : Outline s (s.setDev devId dev') := by
  refine ⟨numDevice_setDev s devId dev', fun k x hx => ?_⟩
  by_cases hk : devId = k
  · subst hk
    rw [hdev, Option.some.injEq] at hx
    subst hx
    exact ⟨dev', getElem?_setDev_self hdev dev', by simp [hload], fun _ => h⟩
  · exact ⟨x, by rw [getElem?_setDev_ne hk, hx], fun _ => rfl, .refl⟩

/-- A device of the outline and the device it comes from. -/
theorem Outline.back (h : Outline s s') {k : Nat} {dev' : DeviceData}
    (hdev' : s'.devList[k]? = some dev') : ∃ dev, s.devList[k]? = some dev ∧
      (dev.isLoaded = true → dev' = dev) ∧ (dev.isLoaded = false → DeviceData.Spared dev dev') := by
  obtain ⟨hk, -⟩ := List.getElem?_eq_some_iff.mp hdev'
  have hlt : k < s.devList.length := lt_of_lt_of_eq hk h.numDevice
  obtain ⟨x, hx, hsame, hspared⟩ := h.at_ k _ (List.getElem?_eq_getElem hlt)
  rw [hdev', Option.some.injEq] at hx
  subst hx
  exact ⟨_, List.getElem?_eq_getElem hlt, hsame, hspared⟩

theorem Outline.trans {s'' : System} (h : Outline s s') (h' : Outline s' s'') :
    Outline s s'' := by
  refine ⟨h'.numDevice.trans h.numDevice, fun k dev hdev => ?_⟩
  obtain ⟨dev', hdev', hsame, hspared⟩ := h.at_ k dev hdev
  obtain ⟨dev'', hdev'', hsame', hspared'⟩ := h'.at_ k dev' hdev'
  refine ⟨dev'', hdev'', fun hload => ?_, fun hload => ?_⟩
  · rw [hsame' (by rw [hsame hload]; exact hload), hsame hload]
  · exact (hspared hload).trans (hspared' (hspared hload).isLoaded)

theorem Outline.bare (h : Outline s s') (hs : s.Bare) : s'.Bare := by
  intro dev' hdev' hload'
  obtain ⟨k, hk⟩ := List.getElem?_of_mem hdev'
  obtain ⟨dev, hdev, hsame, hspared⟩ := h.back hk
  cases hload : dev.isLoaded with
  | true =>
      rw [hsame hload, hload] at hload'
      simp at hload'
  | false => exact (hspared hload).cuList (hs dev (List.mem_of_getElem? hdev) hload)

theorem Outline.takesUnloaded (h : Outline s s') {k : Nat}
    (hk : s'.TakesUnloaded env xclbin k) : s.TakesUnloaded env xclbin k := by
  obtain ⟨dev', hdev', hload, hen, htakes⟩ := hk
  obtain ⟨dev, hdev, hsame, hspared⟩ := h.back hdev'
  cases hl : dev.isLoaded with
  | true =>
      rw [hsame hl, hl] at hload
      simp at hload
  | false => exact ⟨dev, hdev, hl, (hspared hl).isDisabled ▸ hen, htakes⟩

theorem Outline.yields_iff (h : Outline s s') {k : Nat} : s'.Yields env k ↔ s.Yields env k := by
  constructor
  · rintro ⟨dev', hdev', hload, hbusy, hclose⟩
    obtain ⟨dev, hdev, hsame, hspared⟩ := h.back hdev'
    cases hl : dev.isLoaded with
    | true => exact ⟨dev, hdev, hl, hsame hl ▸ hbusy, hclose⟩
    | false =>
        rw [(hspared hl).isLoaded] at hload
        simp at hload
  · rintro ⟨dev, hdev, hload, hbusy, hclose⟩
    obtain ⟨dev', hdev', hsame, -⟩ := h.at_ k dev hdev
    obtain rfl := hsame hload
    exact ⟨dev', hdev', hload, hbusy, hclose⟩

theorem Outline.takesIdle_iff (h : Outline s s') (hs : s.Bare) {k : Nat} :
    s'.TakesIdle env xclbin k ↔ s.TakesIdle env xclbin k := by
  constructor
  · rintro ⟨dev', hdev', hbusy, hclose, hen, htakes⟩
    obtain ⟨dev, hdev, hsame, hspared⟩ := h.back hdev'
    cases hl : dev.isLoaded with
    | true =>
        obtain rfl := hsame hl
        exact ⟨dev', hdev, hbusy, hclose, hen, htakes⟩
    | false =>
        have hempty := hs dev (List.mem_of_getElem? hdev) hl
        exact ⟨dev, hdev, DeviceData.not_busy_of_empty hempty, by simp [hl],
          (hspared hl).isDisabled ▸ hen, htakes⟩
  · rintro ⟨dev, hdev, hbusy, hclose, hen, htakes⟩
    obtain ⟨dev', hdev', hsame, hspared⟩ := h.at_ k dev hdev
    cases hl : dev.isLoaded with
    | true =>
        obtain rfl := hsame hl
        exact ⟨dev', hdev', hbusy, hclose, hen, htakes⟩
    | false =>
        have hsp := hspared hl
        have hempty := hsp.cuList (hs dev (List.mem_of_getElem? hdev) hl)
        exact ⟨dev', hdev', DeviceData.not_busy_of_empty hempty, by simp [hsp.isLoaded],
          hsp.isDisabled.trans hen, htakes⟩

/-- What the first loop comes to. -/
inductive FirstLoop (env : XrtEnv) (xclbin : String) (devIds : List Nat) (s : System) :
    System × String × Except XrmError Nat → Prop where
  | found {s' : System} {errmsg : String} {k : Nat} (hk : k ∈ devIds)
      (htakes : s.TakesUnloaded env xclbin k) :
      FirstLoop env xclbin devIds s (s', errmsg, .ok k)
  | failed {s' : System} {errmsg : String} {e : XrmError} (hout : Outline s s')
      (hnone : ∀ k ∈ devIds, ¬s.TakesUnloaded env xclbin k) :
      FirstLoop env xclbin devIds s (s', errmsg, .error e)

theorem FirstLoop.cons {s₁ : System} {r : System × String × Except XrmError Nat} {devId : Nat}
    (hout : Outline s s₁) (hnot : ¬s.TakesUnloaded env xclbin devId)
    (h : FirstLoop env xclbin devIds s₁ r) : FirstLoop env xclbin (devId :: devIds) s r := by
  cases h with
  | found hk htakes => exact .found (List.mem_cons_of_mem _ hk) (hout.takesUnloaded htakes)
  | failed hout' hnone =>
      refine .failed (hout.trans hout') fun k hk htakes => ?_
      rcases List.mem_cons.mp hk with rfl | hk
      · exact hnot htakes
      · refine hnone k hk ?_
        obtain ⟨dev, hdev, hload, hen, htake⟩ := htakes
        obtain ⟨dev', hdev', -, hspared⟩ := hout.at_ k dev hdev
        exact ⟨dev', hdev', (hspared hload).isLoaded, (hspared hload).isDisabled.trans hen, htake⟩

theorem loadUnloaded_firstLoop (env : XrtEnv) (xclbin : String) (devIds : List Nat) (s : System)
    (errmsg : String) (e : XrmError) :
    FirstLoop env xclbin devIds s (loadUnloaded env xclbin devIds s errmsg e) := by
  induction devIds generalizing s errmsg e with
  | nil => exact .failed (.refl s) (by simp)
  | cons devId devIds ih =>
      rw [loadUnloaded]
      cases hdev : s.devList[devId]? with
      | none =>
          have hnot : ¬s.TakesUnloaded env xclbin devId := by
            rintro ⟨dev, h, -⟩
            simp [hdev] at h
          have hsame : s.deviceLoadXclbin env 0 devId xclbin errmsg =
              (s, errmsg, .error .invalid) := by rw [System.deviceLoadXclbin, onDevice, hdev]
          simp only [Option.map_none, Option.getD_none, hsame]
          exact (ih s errmsg .invalid).cons (.refl s) hnot
      | some dev =>
          cases hload : dev.isLoaded with
          | true =>
              have hnot : ¬s.TakesUnloaded env xclbin devId := by
                rintro ⟨dev', h, hl, -⟩
                rw [hdev, Option.some.injEq] at h
                subst h
                simp [hload] at hl
              simp only [Option.map_some, hload, Option.getD_some, if_true]
              exact (ih s errmsg e).cons (.refl s) hnot
          | false =>
              obtain ⟨r, hr, heq⟩ := deviceLoadXclbin_at hdev hload env 0 xclbin errmsg
              simp only [Option.map_some, hload, Option.getD_some, heq]
              cases hr with
              | spared hnot hspared =>
                  refine (ih _ _ _).cons (.setDev hdev hload hspared) ?_
                  rintro ⟨dev', h, -, hen, htakes⟩
                  rw [hdev, Option.some.injEq] at h
                  subst h
                  exact hnot ⟨hen, htakes⟩
              | loaded hfile htakes hen h =>
                  exact .found List.mem_cons_self ⟨dev, hdev, hload, hen, hfile ▸ htakes⟩

/-! ## The second loop -/

theorem setDev_self {i : Nat} {dev : DeviceData} (h : s.devList[i]? = some dev) :
    s.setDev i dev = s := by
  obtain ⟨hi, rfl⟩ := List.getElem?_eq_some_iff.mp h
  rw [setDev, List.set_getElem_self]

theorem setDev_setDev (s : System) (i : Nat) (dev dev' : DeviceData) :
    (s.setDev i dev).setDev i dev' = s.setDev i dev' := by
  simp only [setDev, List.set_set]

/-- What the second loop over the devices leaves of them. -/
structure MadeRoom (env : XrtEnv) (xclbin : String) (devIds : List Nat) (s : System)
    (r : System × String × Except XrmError Nat) : Prop where
  /-- It ends on the first device that takes the file, -/
  ended : ∀ i, r.2.2 = .ok i → i ∈ devIds ∧ s.TakesIdle env xclbin i ∧
    ∀ j ∈ devIds, j < i → ¬s.TakesIdle env xclbin j
  failed : ∀ e, r.2.2 = .error e → ∀ j ∈ devIds, ¬s.TakesIdle env xclbin j
  /-- and only touches devices that give way or were not loaded. -/
  kept : ∀ (k : Nat) (dev : DeviceData), s.devList[k]? = some dev → dev.isLoaded = true →
    ¬s.GivesWay env xclbin devIds k → r.1.devList[k]? = some dev
  lost : ∀ k, s.GivesWay env xclbin devIds k → r.2.2 ≠ .ok k →
    ∃ dev', r.1.devList[k]? = some dev' ∧ dev'.isLoaded = false
  others : ∀ k, k ∉ devIds → r.1.devList[k]? = s.devList[k]?

/-- A device that is passed by. -/
theorem MadeRoom.skip {r : System × String × Except XrmError Nat} {devId : Nat}
    (hidle : ¬s.TakesIdle env xclbin devId) (hyields : ¬s.Yields env devId)
    (h : MadeRoom env xclbin devIds s r) : MadeRoom env xclbin (devId :: devIds) s r := by
  have hnone : ∀ {j : Nat}, j ∈ devId :: devIds → (j ∈ devIds → ¬s.TakesIdle env xclbin j) →
      ¬s.TakesIdle env xclbin j := by
    intro j hj hrest
    rcases List.mem_cons.mp hj with rfl | hj
    · exact hidle
    · exact hrest hj
  have hgives : ∀ {k : Nat}, s.GivesWay env xclbin devIds k ↔
      s.GivesWay env xclbin (devId :: devIds) k := by
    intro k
    constructor
    · rintro ⟨hk, hy, hbefore⟩
      exact ⟨List.mem_cons_of_mem _ hk, hy, fun j hj hlt => hnone hj fun hj => hbefore j hj hlt⟩
    · rintro ⟨hk, hy, hbefore⟩
      rcases List.mem_cons.mp hk with rfl | hk
      · exact absurd hy hyields
      · exact ⟨hk, hy, fun j hj hlt => hbefore j (List.mem_cons_of_mem _ hj) hlt⟩
  refine ⟨fun i hi => ?_, fun e he j hj => hnone hj fun hj => h.failed e he j hj,
    fun k dev hdev hload hnot => h.kept k dev hdev hload fun hg => hnot (hgives.mp hg),
    fun k hk hne => h.lost k (hgives.mpr hk) hne,
    fun k hk => h.others k fun hmem => hk (List.mem_cons_of_mem _ hmem)⟩
  obtain ⟨hmem, htakes, hfirst⟩ := h.ended i hi
  exact ⟨List.mem_cons_of_mem _ hmem, htakes, fun j hj hlt => hnone hj fun hj => hfirst j hj hlt⟩

/-- A device after the second loop has unloaded it. -/
theorem unloadOneDevice_idle {dev : DeviceData} {devId : Nat} (hbusy : dev.isDeviceBusy = false)
    (hclose : dev.isLoaded = true → (env.call 1 devId).closeContext = 0) (errmsg : String) :
    dev.unloadOneDevice devId (env.call 1 devId) errmsg =
      (dev.deviceClearInfo, errmsg, .ok ()) := by
  rw [DeviceData.unloadOneDevice]
  cases hload : dev.isLoaded with
  | false => simp
  | true => simp [hbusy, hclose hload]

theorem takesIdle_setDev_ne {i k : Nat} (hik : i ≠ k) (dev' : DeviceData) :
    (s.setDev i dev').TakesIdle env xclbin k ↔ s.TakesIdle env xclbin k := by
  rw [TakesIdle, TakesIdle, getElem?_setDev_ne hik]

theorem givesWay_setDev_ne {i k : Nat} (hi : i ∉ devIds) (dev' : DeviceData) :
    (s.setDev i dev').GivesWay env xclbin devIds k ↔ s.GivesWay env xclbin devIds k := by
  have hne : ∀ {j : Nat}, j ∈ devIds → i ≠ j := fun hj h => hi (h ▸ hj)
  constructor
  · rintro ⟨hk, hy, hbefore⟩
    rw [Yields, getElem?_setDev_ne (hne hk)] at hy
    exact ⟨hk, hy, fun j hj hlt h => hbefore j hj hlt ((takesIdle_setDev_ne (hne hj) dev').mpr h)⟩
  · rintro ⟨hk, hy, hbefore⟩
    refine ⟨hk, ?_, fun j hj hlt h => hbefore j hj hlt ((takesIdle_setDev_ne (hne hj) dev').mp h)⟩
    rw [Yields, getElem?_setDev_ne (hne hk)]
    exact hy

/-- A device that was given up, and does not take the file. -/
theorem MadeRoom.evicted {r : System × String × Except XrmError Nat} {devId : Nat}
    {dev' : DeviceData} (hidle : ¬s.TakesIdle env xclbin devId)
    (hat : (s.setDev devId dev').devList[devId]? = some dev') (hload' : dev'.isLoaded = false)
    (hyields : ∀ dev, s.devList[devId]? = some dev → dev.isLoaded = true → s.Yields env devId)
    (hlt : ∀ j ∈ devIds, devId < j)
    (h : MadeRoom env xclbin devIds (s.setDev devId dev') r) :
    MadeRoom env xclbin (devId :: devIds) s r := by
  have hnotin : devId ∉ devIds := fun hmem => lt_irrefl _ (hlt devId hmem)
  have hne : ∀ {j : Nat}, j ∈ devIds → devId ≠ j := fun hj => (hlt _ hj).ne
  have hnone : ∀ {j : Nat}, j ∈ devId :: devIds →
      (j ∈ devIds → ¬(s.setDev devId dev').TakesIdle env xclbin j) →
      ¬s.TakesIdle env xclbin j := by
    intro j hj hrest
    rcases List.mem_cons.mp hj with rfl | hj
    · exact hidle
    · exact fun ht => hrest hj ((takesIdle_setDev_ne (hne hj) dev').mpr ht)
  have hgives : ∀ {k : Nat}, k ≠ devId → ((s.setDev devId dev').GivesWay env xclbin devIds k ↔
      s.GivesWay env xclbin (devId :: devIds) k) := by
    intro k hk
    rw [givesWay_setDev_ne hnotin]
    constructor
    · rintro ⟨hmem, hy, hbefore⟩
      refine ⟨List.mem_cons_of_mem _ hmem, hy, fun j hj hlt => ?_⟩
      rcases List.mem_cons.mp hj with rfl | hj
      · exact hidle
      · exact hbefore j hj hlt
    · rintro ⟨hmem, hy, hbefore⟩
      exact ⟨(List.mem_cons.mp hmem).resolve_left hk, hy, fun j hj hlt =>
        hbefore j (List.mem_cons_of_mem _ hj) hlt⟩
  refine ⟨fun i hi => ?_, fun e he j hj => hnone hj fun hj => h.failed e he j hj,
    fun k dev hdev hload hnot => ?_, fun k hk hret => ?_, fun k hk => ?_⟩
  · obtain ⟨hmem, htakes, hfirst⟩ := h.ended i hi
    exact ⟨List.mem_cons_of_mem _ hmem, (takesIdle_setDev_ne (hne hmem) dev').mp htakes,
      fun j hj hlt => hnone hj fun hj => hfirst j hj hlt⟩
  · by_cases hk : k = devId
    · subst hk
      refine absurd ⟨List.mem_cons_self, hyields dev hdev hload, fun j hj hjk => ?_⟩ hnot
      rcases List.mem_cons.mp hj with rfl | hj
      · exact absurd hjk (lt_irrefl _)
      · exact absurd hjk (hlt j hj).asymm
    · exact h.kept k dev (by rw [getElem?_setDev_ne (Ne.symm hk), hdev]) hload fun hg =>
        hnot ((hgives hk).mp hg)
  · by_cases hkd : k = devId
    · subst hkd
      exact ⟨dev', by rw [h.others k hnotin, hat], hload'⟩
    · exact h.lost k ((hgives hkd).mpr hk) hret
  · rw [h.others k fun hmem => hk (List.mem_cons_of_mem _ hmem),
      getElem?_setDev_ne fun heq => hk (by rw [heq]; exact List.mem_cons_self)]

/-- The device that takes the file. -/
theorem MadeRoom.here {devId : Nat} {dev' : DeviceData} {errmsg : String}
    (hidle : s.TakesIdle env xclbin devId)
    (hyields : ∀ dev, s.devList[devId]? = some dev → dev.isLoaded = true → s.Yields env devId)
    (hlt : ∀ j ∈ devIds, devId < j) :
    MadeRoom env xclbin (devId :: devIds) s (s.setDev devId dev', errmsg, .ok devId) := by
  have hbefore : ∀ {j : Nat}, j ∈ devId :: devIds → ¬j < devId := by
    intro j hj hjk
    rcases List.mem_cons.mp hj with rfl | hj
    · exact lt_irrefl _ hjk
    · exact (hlt j hj).asymm hjk
  refine ⟨fun i hi => ?_, by simp, fun k dev hdev hload hnot => ?_, fun k hk hret => ?_,
    fun k hk => getElem?_setDev_ne (fun heq => hk (by rw [heq]; exact List.mem_cons_self)) dev'⟩
  · rw [Except.ok.injEq] at hi
    subst hi
    exact ⟨List.mem_cons_self, hidle, fun j hj hlt => absurd hlt (hbefore hj)⟩
  · by_cases hk : k = devId
    · subst hk
      exact absurd ⟨List.mem_cons_self, hyields dev hdev hload, fun j hj hlt =>
        absurd hlt (hbefore hj)⟩ hnot
    · simp only
      rw [getElem?_setDev_ne (Ne.symm hk), hdev]
  · obtain ⟨hmem, -, hfirst⟩ := hk
    have hne : k ≠ devId := fun heq => hret (by rw [heq])
    exact absurd hidle (hfirst devId List.mem_cons_self
      (hlt k ((List.mem_cons.mp hmem).resolve_left hne)))

theorem loadNotBusy_madeRoom (env : XrtEnv) (xclbin : String) (devIds : List Nat)
    (hsorted : devIds.Pairwise (· < ·)) (s : System) (hs : s.Bare) (errmsg : String)
    (e : XrmError) : MadeRoom env xclbin devIds s (loadNotBusy env xclbin devIds s errmsg e) := by
  induction devIds generalizing s errmsg e with
  | nil =>
      exact ⟨by simp [loadNotBusy], by simp, fun k dev hdev _ _ => hdev,
        fun k hk => by simp [GivesWay] at hk, fun _ _ => rfl⟩
  | cons devId devIds ih =>
      obtain ⟨hlt, hsorted⟩ := List.pairwise_cons.mp hsorted
      rw [loadNotBusy]
      cases hdev : s.devList[devId]? with
      | none =>
          have hnot : ¬s.TakesIdle env xclbin devId ∧ ¬s.Yields env devId := by
            simp [TakesIdle, Yields, hdev]
          simp only [Option.map_none, Option.getD_none, onDevice, hdev]
          exact (ih hsorted s hs errmsg e).skip hnot.1 hnot.2
      | some dev =>
          cases hbusy : dev.isDeviceBusy with
          | true =>
              have hnot : ¬s.TakesIdle env xclbin devId ∧ ¬s.Yields env devId := by
                simp [TakesIdle, Yields, hdev, hbusy]
              simp only [Option.map_some, hbusy, Option.getD_some, if_true]
              exact (ih hsorted s hs errmsg e).skip hnot.1 hnot.2
          | false =>
              simp only [Option.map_some, hbusy, Option.getD_some, onDevice, hdev]
              by_cases hclose : dev.isLoaded = true → (env.call 1 devId).closeContext = 0
              · -- the device is unloaded, and the file is tried on it
                have hcleared := DeviceData.deviceClearInfo_of_not_busy hbusy
                have hload₁ : dev.deviceClearInfo.isLoaded = false := by
                  rw [hcleared]
                  rfl
                have hen₁ : dev.deviceClearInfo.isDisabled = dev.isDisabled := by
                  rw [hcleared]
                  rfl
                have hcus₁ : dev.deviceClearInfo.cuList = [] := by
                  rw [hcleared]
                  rfl
                have hyields : ∀ x, s.devList[devId]? = some x → x.isLoaded = true →
                    s.Yields env devId := by
                  intro x hx hload
                  rw [hdev, Option.some.injEq] at hx
                  subst hx
                  exact ⟨dev, hdev, hload, hbusy, hclose hload⟩
                obtain ⟨r, hr, heq⟩ := deviceLoadXclbin_at
                  (getElem?_setDev_self hdev dev.deviceClearInfo) hload₁ env 1 xclbin errmsg
                simp only [unloadOneDevice_idle hbusy hclose, heq, setDev_setDev]
                cases hr with
                | spared hnot h =>
                    refine (ih hsorted _ (hs.setDev devId fun _ => h.cuList hcus₁) _ _).evicted ?_
                      (getElem?_setDev_self hdev _) h.isLoaded hyields hlt
                    rintro ⟨x, hx, -, -, hen, htakes⟩
                    rw [hdev, Option.some.injEq] at hx
                    subst hx
                    exact hnot ⟨hen₁.trans hen, htakes⟩
                | loaded hfile htakes hen h =>
                    exact .here ⟨dev, hdev, hbusy, hclose, hen₁.symm.trans hen,
                      by rw [hfile]; exact htakes⟩ hyields hlt
              · have hload : dev.isLoaded = true := by
                  by_contra hl
                  exact hclose fun h => absurd h hl
                have hc : (env.call 1 devId).closeContext ≠ 0 := fun h => hclose fun _ => h
                have hnot : ¬s.TakesIdle env xclbin devId ∧ ¬s.Yields env devId := by
                  simp [TakesIdle, Yields, hdev, hload, hc]
                have hunload : dev.unloadOneDevice devId (env.call 1 devId) errmsg =
                    (dev, s!"Fail to unlock xclbin from device  {devId}",
                      .error .deviceIsLocked) := by
                  simp [DeviceData.unloadOneDevice, hload, hbusy, hc]
                simp only [hunload, setDev_self hdev]
                exact (ih hsorted s hs _ e).skip hnot.1 hnot.2

/-! ## The whole function -/

/-- Device `k` is unloaded to make room for the file: no device that is not loaded takes it, and
none before `k` that is not in use. -/
def Evicts (s : System) (env : XrtEnv) (xclbin : String) (k : Nat) : Prop :=
  xclbin ≠ "" ∧ (∀ j, ¬s.TakesUnloaded env xclbin j) ∧ s.Yields env k ∧
    ∀ j < k, ¬s.TakesIdle env xclbin j

/-- Device `k`, if it was loaded, still is, with the same xclbin and CU table. -/
def Survives (s s' : System) (k : Nat) : Prop :=
  ∀ dev, s.devList[k]? = some dev → dev.isLoaded = true → ∃ dev', s'.devList[k]? = some dev' ∧
    dev'.isLoaded = true ∧ dev'.xclbinName = dev.xclbinName ∧ dev'.uuid = dev.uuid ∧
      dev'.cuList = dev.cuList

theorem Survives.of_eq {k : Nat} (h : ∀ dev, s.devList[k]? = some dev → dev.isLoaded = true →
    s'.devList[k]? = some dev) : Survives s s' k :=
  fun dev hdev hload => ⟨dev, h dev hdev hload, hload, rfl, rfl, rfl⟩

/-- What `loadAnyDevice` comes to. -/
structure LoadedAny (env : XrtEnv) (xclbin : String) (s : System)
    (r : System × String × Except XrmError Nat) : Prop where
  kept : ∀ k, ¬s.Evicts env xclbin k → Survives s r.1 k
  lost : ∀ k, s.Evicts env xclbin k → r.2.2 ≠ .ok k → ¬Survives s r.1 k
  ended : ∀ i, r.2.2 = .ok i → ∀ k, s.Evicts env xclbin k → s.TakesIdle env xclbin k → i = k
  first : ∀ i, r.2.2 = .ok i → (∃ k, s.Evicts env xclbin k) → s.TakesIdle env xclbin i
  failed : ∀ e, r.2.2 = .error e → (∃ k, s.Evicts env xclbin k) →
    ∀ k, ¬s.TakesIdle env xclbin k

theorem evicts_iff_givesWay {s₁ : System} (hout : Outline s s₁) (hs : s.Bare) (hx : xclbin ≠ "")
    (hnone : ∀ j ∈ List.range s.numDevice, ¬s.TakesUnloaded env xclbin j) {k : Nat} :
    s.Evicts env xclbin k ↔ s₁.GivesWay env xclbin (List.range s₁.numDevice) k := by
  have hlt : ∀ {j : Nat} {dev : DeviceData}, s.devList[j]? = some dev → j < s.numDevice :=
    fun h => (List.getElem?_eq_some_iff.mp h).1
  rw [hout.numDevice, GivesWay, hout.yields_iff, Evicts]
  simp only [hout.takesIdle_iff hs, List.mem_range]
  constructor
  · rintro ⟨-, -, hy, hbefore⟩
    obtain ⟨dev, hdev, -⟩ := id hy
    exact ⟨hlt hdev, hy, fun j _ hj => hbefore j hj⟩
  · rintro ⟨hk, hy, hbefore⟩
    refine ⟨hx, fun j htakes => ?_, hy, fun j hj => hbefore j (hj.trans hk) hj⟩
    obtain ⟨dev, hdev, -⟩ := id htakes
    exact hnone j (List.mem_range.mpr (hlt hdev)) htakes

theorem loadAnyDevice_loadedAny (hs : s.Bare) (hprobed : s.Probed) (env : XrtEnv)
    (xclbin errmsg : String) : LoadedAny env xclbin s (s.loadAnyDevice env xclbin errmsg) := by
  -- where nothing is evicted, it is enough that loaded devices are kept
  have hsafe : ∀ {r : System × String × Except XrmError Nat},
      (∀ k, ¬s.Evicts env xclbin k) → (∀ (k : Nat) (dev : DeviceData), s.devList[k]? = some dev →
        dev.isLoaded = true → r.1.devList[k]? = some dev) → LoadedAny env xclbin s r :=
    fun hnone hkeep =>
    ⟨fun k _ => .of_eq (hkeep k), fun k hk => absurd hk (hnone k),
      fun _ _ k hk => absurd hk (hnone k), fun _ _ ⟨k, hk⟩ => absurd hk (hnone k),
      fun _ _ ⟨k, hk⟩ => absurd hk (hnone k)⟩
  cases hinit : s.devicesInited with
  | false =>
      have hempty := hprobed hinit
      refine hsafe ?_ fun k dev hdev => by simp [hempty] at hdev
      rintro k ⟨-, -, ⟨dev, hdev, -⟩, -⟩
      simp [hempty] at hdev
  | true =>
      have hsame : s.initDevices env = s := by rw [System.initDevices, if_pos hinit]
      rw [System.loadAnyDevice, hsame]
      by_cases hx : xclbin = ""
      · rw [if_pos hx]
        exact hsafe (fun k hk => hk.1 hx) fun k dev hdev _ => hdev
      simp only [if_neg hx]
      have hfirst := loadUnloaded_firstLoop env xclbin (List.range s.numDevice) s "" .error
      have hkeep := fun (k : Nat) (dev : DeviceData) (hdev : s.Keeps k dev)
          (hload : dev.isLoaded = true) =>
        Keeps.loadUnloaded hload env xclbin (List.range s.numDevice) hdev "" .error
      generalize loadUnloaded env xclbin (List.range s.numDevice) s "" .error = r₁
        at hfirst hkeep
      cases hfirst with
      | found hk htakes => exact hsafe (fun _ h => h.2.1 _ htakes) hkeep
      | failed hout hnone =>
          rename_i s₁ errmsg₁ e₁
          have hroom := loadNotBusy_madeRoom env xclbin (List.range s₁.numDevice)
            List.pairwise_lt_range s₁ (hout.bare hs) errmsg₁ e₁
          have hgives := fun k => @evicts_iff_givesWay s env xclbin s₁ hout hs hx hnone k
          have hin : ∀ {j : Nat}, s.TakesIdle env xclbin j → j ∈ List.range s₁.numDevice := by
            rintro j ⟨dev, hdev, -⟩
            rw [hout.numDevice]
            exact List.mem_range.mpr (List.getElem?_eq_some_iff.mp hdev).1
          have hloaded : LoadedAny env xclbin s
              (loadNotBusy env xclbin (List.range s₁.numDevice) s₁ errmsg₁ e₁) := by
            refine ⟨fun k hk => .of_eq fun dev hdev hload => ?_, fun k hk hret hsurvives => ?_,
              fun i hi k hk htakes => ?_, fun i hi _ => ?_, fun e he _ k htakes => ?_⟩
            · obtain ⟨dev', hdev', hsame', -⟩ := hout.at_ k dev hdev
              obtain rfl := hsame' hload
              exact hroom.kept k dev' hdev' hload fun hg => hk ((hgives k).mpr hg)
            · obtain ⟨dev, hdev, hload, -⟩ := hk.2.2.1
              obtain ⟨dev', hdev', hload', -⟩ := hsurvives dev hdev hload
              obtain ⟨x, hx, hunloaded⟩ := hroom.lost k ((hgives k).mp hk) hret
              rw [hdev', Option.some.injEq] at hx
              rw [← hx, hload'] at hunloaded
              simp at hunloaded
            · obtain ⟨-, hidle, hbefore⟩ := hroom.ended i hi
              have hidle' := (hout.takesIdle_iff hs).mp hidle
              rcases Nat.lt_trichotomy i k with hlt | heq | hlt
              · exact absurd hidle' (hk.2.2.2 i hlt)
              · exact heq
              · exact absurd ((hout.takesIdle_iff hs).mpr htakes) (hbefore k (hin htakes) hlt)
            · exact (hout.takesIdle_iff hs).mp (hroom.ended i hi).2.1
            · exact hroom.failed e he k (hin htakes) ((hout.takesIdle_iff hs).mpr htakes)
          simp only
          split
          · rename_i heq
            rw [heq] at hloaded
            exact ⟨hloaded.kept, hloaded.lost, hloaded.ended, hloaded.first, hloaded.failed⟩
          · rename_i heq
            rw [heq] at hloaded
            exact ⟨hloaded.kept, hloaded.lost, hloaded.ended, hloaded.first, hloaded.failed⟩

/-! ## The operations that load somewhere -/

/-- Every device that was loaded still is. -/
def AllSurvive (s s' : System) : Prop := ∀ k, Survives s s' k

/-- A load that fails loses nothing exactly when nothing is evicted in vain. -/
theorem LoadedAny.allSurvive_iff {r : System × String × Except XrmError Nat}
    (h : LoadedAny env xclbin s r) :
    ((∀ e, r.2.2 = .error e → AllSurvive s r.1) ↔
      ∀ k, s.Evicts env xclbin k → ∃ i, s.TakesIdle env xclbin i) := by
  constructor
  · intro hall k hk
    cases hret : r.2.2 with
    | error e => exact absurd (hall e hret k) (h.lost k hk (by simp [hret]))
    | ok i => exact ⟨i, h.first i hret ⟨k, hk⟩⟩
  · intro hex e he k
    refine h.kept k fun hk => ?_
    obtain ⟨i, hi⟩ := hex k hk
    exact h.failed e he ⟨k, hk⟩ i hi

/-- Whatever the outcome, only the device that was loaded is lost exactly when only it is
evicted. -/
theorem LoadedAny.lossless_iff {r : System × String × Except XrmError Nat}
    (h : LoadedAny env xclbin s r) :
    (((∀ e, r.2.2 = .error e → AllSurvive s r.1) ∧
        ∀ i, r.2.2 = .ok i → ∀ k, k ≠ i → Survives s r.1 k) ↔
      ∀ k, s.Evicts env xclbin k → s.TakesIdle env xclbin k) := by
  constructor
  · rintro ⟨hfails, hends⟩ k hk
    cases hret : r.2.2 with
    | error e => exact absurd (hfails e hret k) (h.lost k hk (by simp [hret]))
    | ok i =>
        by_cases hik : k = i
        · exact hik ▸ h.first i hret ⟨k, hk⟩
        · exact absurd (hends i hret k hik) (h.lost k hk (by simp [hret, Ne.symm hik]))
  · intro hex
    refine ⟨h.allSurvive_iff.mpr fun k hk => ⟨k, hex k hk⟩, fun i hi k hne => h.kept k fun hk => ?_⟩
    exact hne (h.ended i hi k hk (hex k hk)).symm

theorem initDevices_twice (s : System) (env : XrtEnv) :
    (s.initDevices env).initDevices env = s.initDevices env := by
  have hinit : (s.initDevices env).devicesInited = true := by
    rw [System.initDevices]
    split
    · assumption
    · split <;> rfl
  rw [System.initDevices, if_pos hinit]

/-- Loading a device with the number -1 is loading any device. -/
theorem loadOneDevice_any (s : System) (env : XrtEnv) (xclbin errmsg : String) :
    (s.loadOneDevice env (-1) xclbin errmsg).1 = (s.loadAnyDevice env xclbin "").1 ∧
      (s.loadOneDevice env (-1) xclbin errmsg).2.2 = (s.loadAnyDevice env xclbin "").2.2 := by
  have hinit : (s.initDevices env).loadAnyDevice env xclbin "" = s.loadAnyDevice env xclbin "" := by
    rw [System.loadAnyDevice, System.loadAnyDevice, initDevices_twice]
  have hrange : ¬((-1 : Int) < -1 ∨ (-1 : Int) ≥ (s.initDevices env).numDevice) := by omega
  rw [System.loadOneDevice]
  by_cases hx : xclbin = ""
  · rw [if_pos hx, System.loadAnyDevice, if_pos hx]
    exact ⟨rfl, rfl⟩
  · simp only [if_neg hx, if_neg hrange, ne_eq, not_true_eq_false, if_false, hinit]
    split <;>
    · rename_i heq
      rw [heq]
      exact ⟨rfl, rfl⟩

end System

/-- What a device is loaded with. -/
def DeviceData.content (dev : DeviceData) : Bool × Bool × String × List UInt8 × List CuData :=
  (dev.isLoaded, dev.isDisabled, dev.xclbinName, dev.uuid, dev.cuList)

namespace System

variable {s s' : System} {env : XrtEnv} {xclbin : String} {prop : CuProperty}

/-- The devices are loaded with the same. -/
def SameContent (s s' : System) : Prop :=
  s'.devList.map DeviceData.content = s.devList.map DeviceData.content

theorem SameContent.symm (h : SameContent s s') : SameContent s' s := Eq.symm h

theorem SameContent.at_ (h : SameContent s s') {k : Nat} {dev : DeviceData}
    (hdev : s.devList[k]? = some dev) : ∃ dev', s'.devList[k]? = some dev' ∧
      dev'.content = dev.content := by
  have hk : (s'.devList.map DeviceData.content)[k]? = some dev.content := by
    rw [h, List.getElem?_map, hdev, Option.map_some]
  rw [List.getElem?_map, Option.map_eq_some_iff] at hk
  exact hk

theorem Touched.sameContent (h : Touched prop s s') : SameContent s s' := by
  induction h with
  | refl => rfl
  | tail _ hstep ih =>
      obtain ⟨i, dev, dev', hdev, htouch, rfl⟩ := hstep
      refine Eq.trans ?_ ih
      have hsame : dev'.content = dev.content := by rw [htouch.frame]; rfl
      obtain ⟨hi, rfl⟩ := List.getElem?_eq_some_iff.mp hdev
      apply List.ext_getElem?
      intro j
      rw [List.getElem?_map, List.getElem?_map, setDev]
      by_cases hij : i = j
      · subst hij
        rw [List.getElem?_set_self hi, List.getElem?_eq_getElem hi, Option.map_some,
          Option.map_some, hsame]
      · rw [List.getElem?_set_ne hij]

theorem Touched.frame (h : Touched prop s s') : Frame s s' := by
  induction h with
  | refl => exact .refl s
  | tail _ hstep ih =>
      obtain ⟨i, dev, dev', -, -, rfl⟩ := hstep
      exact ih.trans (.setDev _ i dev')

theorem content_eq {dev dev' : DeviceData} (h : dev'.content = dev.content) :
    dev'.isLoaded = dev.isLoaded ∧ dev'.isDisabled = dev.isDisabled ∧
      dev'.xclbinName = dev.xclbinName ∧ dev'.uuid = dev.uuid ∧ dev'.cuList = dev.cuList := by
  simpa [DeviceData.content] using h

theorem busy_congr {dev dev' : DeviceData} (h : dev'.cuList = dev.cuList) :
    dev'.isDeviceBusy = dev.isDeviceBusy := by
  rw [DeviceData.isDeviceBusy, h, DeviceData.isDeviceBusy]

theorem SameContent.takesUnloaded (h : SameContent s s') {k : Nat}
    (hk : s.TakesUnloaded env xclbin k) : s'.TakesUnloaded env xclbin k := by
  obtain ⟨dev, hdev, hload, hen, htakes⟩ := hk
  obtain ⟨dev', hdev', hsame⟩ := h.at_ hdev
  obtain ⟨hl, hd, -⟩ := content_eq hsame
  exact ⟨dev', hdev', hl.trans hload, hd.trans hen, htakes⟩

theorem SameContent.yields (h : SameContent s s') {k : Nat} (hk : s.Yields env k) :
    s'.Yields env k := by
  obtain ⟨dev, hdev, hload, hbusy, hclose⟩ := hk
  obtain ⟨dev', hdev', hsame⟩ := h.at_ hdev
  obtain ⟨hl, -, -, -, hcus⟩ := content_eq hsame
  exact ⟨dev', hdev', hl.trans hload, (busy_congr hcus).trans hbusy, hclose⟩

theorem SameContent.takesIdle (h : SameContent s s') {k : Nat} (hk : s.TakesIdle env xclbin k) :
    s'.TakesIdle env xclbin k := by
  obtain ⟨dev, hdev, hbusy, hclose, hen, htakes⟩ := hk
  obtain ⟨dev', hdev', hsame⟩ := h.at_ hdev
  obtain ⟨hl, hd, -, -, hcus⟩ := content_eq hsame
  exact ⟨dev', hdev', (busy_congr hcus).trans hbusy, fun hload => hclose (hl.symm.trans hload),
    hd.trans hen, htakes⟩

theorem SameContent.evicts (h : SameContent s s') {k : Nat} (hk : s.Evicts env xclbin k) :
    s'.Evicts env xclbin k :=
  ⟨hk.1, fun j hj => hk.2.1 j (h.symm.takesUnloaded hj), h.yields hk.2.2.1,
    fun j hj ht => hk.2.2.2 j hj (h.symm.takesIdle ht)⟩

theorem SameContent.survives {s'' : System} (h : SameContent s s') {k : Nat}
    (hk : Survives s' s'' k) : Survives s s'' k := by
  intro dev hdev hload
  obtain ⟨dev', hdev', hsame⟩ := h.at_ hdev
  obtain ⟨hl, -, hname, huuid, hcus⟩ := content_eq hsame
  obtain ⟨x, hx, hxl, hxn, hxu, hxc⟩ := hk dev' hdev' (hl.trans hload)
  exact ⟨x, hx, hxl, hxn.trans hname, hxu.trans huuid, hxc.trans hcus⟩

theorem SameContent.bare (h : SameContent s s') (hs : s.Bare) : s'.Bare := by
  intro dev' hdev' hload
  obtain ⟨k, hk⟩ := List.getElem?_of_mem hdev'
  obtain ⟨dev, hdev, hsame⟩ := h.symm.at_ hk
  obtain ⟨hl, -, -, -, hcus⟩ := content_eq hsame
  rw [← hcus]
  exact hs dev (List.mem_of_getElem? hdev) (hl.trans hload)

/-- No CU of the loaded devices serves the request. -/
def Unserved (s : System) (prop : CuProperty) : Prop :=
  ∃ preCu, (s.allocTwice prop policyNull).2 = .missed preCu

/-- The allocation has to load the file, and that fails. -/
def LoadFails (s : System) (env : XrtEnv) (prop : CuProperty) (xclbin : String) : Prop :=
  prop.unnamed = false ∧ s.Unserved prop ∧
    ∃ e, ((s.allocTwice prop policyNull).1.loadAnyDevice env xclbin "").2.2 = .error e

theorem resAllocCuWithLoad_load (hnamed : prop.unnamed = false) (hun : s.Unserved prop)
    (updateId : Bool) {e : XrmError}
    (he : ((s.allocTwice prop policyNull).1.loadAnyDevice env xclbin "").2.2 = .error e) :
    (s.resAllocCuWithLoad env prop xclbin updateId).1 =
      ((s.allocTwice prop policyNull).1.loadAnyDevice env xclbin "").1 := by
  obtain ⟨preCu, hmissed⟩ := hun
  rw [System.resAllocCuWithLoad, if_neg (by simp [hnamed])]
  cases htwice : s.allocTwice prop policyNull with
  | mk s₁ result =>
      rw [htwice] at hmissed he
      simp only at hmissed he ⊢
      rw [hmissed]
      cases hload : s₁.loadAnyDevice env xclbin "" with
      | mk s₂ rest =>
          obtain ⟨msg, ret⟩ := rest
          rw [hload] at he
          simp only at he ⊢
          rw [hload, he]

/-- An allocation whose load fails loses nothing exactly when nothing is evicted in vain. -/
theorem withLoad_allSurvive_iff (hs : s.Bare) (hprobed : s.Probed) (updateId : Bool) :
    ((s.LoadFails env prop xclbin →
        AllSurvive s (s.resAllocCuWithLoad env prop xclbin updateId).1) ↔
      (prop.unnamed = false → s.Unserved prop →
        ∀ k, s.Evicts env xclbin k → ∃ i, s.TakesIdle env xclbin i)) := by
  have htouched : ∀ preCu, (s.allocTwice prop policyNull).2 = .missed preCu →
      Touched prop s (s.allocTwice prop policyNull).1 := by
    intro preCu hmissed
    have hattempt := s.allocTwice_attempt prop policyNull
    rw [hmissed] at hattempt
    exact hattempt.touched
  constructor
  · rintro hall hnamed ⟨preCu, hmissed⟩
    have ht := htouched preCu hmissed
    have hsame := ht.sameContent
    have hany := loadAnyDevice_loadedAny (hsame.bare hs) (ht.frame.probed hprobed) env xclbin ""
    have hsurvive := hany.allSurvive_iff.mp fun e he k => hsame.symm.survives (by
      rw [← resAllocCuWithLoad_load hnamed ⟨preCu, hmissed⟩ updateId he]
      exact hall ⟨hnamed, ⟨preCu, hmissed⟩, e, he⟩ k)
    intro k hk
    obtain ⟨i, hi⟩ := hsurvive k (hsame.evicts hk)
    exact ⟨i, hsame.symm.takesIdle hi⟩
  · rintro hex ⟨hnamed, ⟨preCu, hmissed⟩, e, he⟩ k
    have ht := htouched preCu hmissed
    have hsame := ht.sameContent
    have hany := loadAnyDevice_loadedAny (hsame.bare hs) (ht.frame.probed hprobed) env xclbin ""
    rw [resAllocCuWithLoad_load hnamed ⟨preCu, hmissed⟩ updateId he]
    refine hsame.survives (hany.allSurvive_iff.mpr (fun k hk => ?_) e he k)
    obtain ⟨i, hi⟩ := hex hnamed ⟨preCu, hmissed⟩ k (hsame.symm.evicts hk)
    exact ⟨i, hsame.takesIdle hi⟩

theorem resLoadAndAllocAllCu_load {D : Discipline} (hgap : D.gapless → env.Gapless)
    (hs : s.Sound D) (clientId : Nat) (pid : Int) :
    ((∀ e, (s.resLoadAndAllocAllCu env xclbin clientId pid).2 = .error e →
        AllSurvive s (s.resLoadAndAllocAllCu env xclbin clientId pid).1) ↔
      ∀ e, (s.loadAnyDevice env xclbin "").2.2 = .error e →
        AllSurvive s (s.loadAnyDevice env xclbin "").1) := by
  have hspec := (loadAnyDevice_spec hgap xclbin "" hs).2
  rw [System.resLoadAndAllocAllCu]
  cases hload : s.loadAnyDevice env xclbin "" with
  | mk s₁ rest =>
      obtain ⟨msg, ret⟩ := rest
      cases ret with
      | error e => simp
      | ok devId =>
          rw [hload] at hspec
          obtain ⟨dev, hdev, -⟩ := hspec devId rfl
          simp [hdev]

end System

open Scenario in
/-- One device is loaded and nobody uses it. -/
def idleRun : List Op := [.loadOneDevice (env 1 1) 0 "scaler.xclbin"]

namespace System

end System

end Xrm
