import Xrm.Library.Transition
import Xrm.Verification.DeviceTable

/-! # What can happen to a device

Every operation of the daemon changes a device by a sequence of a few acts. A discipline says
which acts a run may contain: a covered run has a reference for every channel, a balanced one
has no others, a fresh one never issues the id of a pool again that channels still carry
though its slot is gone, a metered one recycles clients only where nothing else is in use, and
in a gapless one the driver numbers the kernels of every image without gaps.
-/

namespace Xrm

open FixedTable

structure Discipline where
  covered : Prop
  balanced : Prop
  fresh : Prop
  metered : Prop
  gapless : Prop

/-- The discipline without its condition on the ids of the pools. -/
def Discipline.unfresh (D : Discipline) : Discipline := { D with fresh := False }

/-- Whether a pass wants a CU depends on the number of its clients. -/
def ByClients (wanted : CuData → Bool) : Prop :=
  ∀ cu cu' : CuData, cu.numClient = cu'.numClient → wanted cu = wanted cu'

theorem inUse_byClients : ByClients inUse := fun cu cu' h => by rw [inUse, inUse, h]

theorem unused_byClients : ByClients unused := fun cu cu' h => by rw [unused, unused, h]

namespace DeviceData

/-! ## The labels of a device -/

/-- An unloaded device has no uuid text; a loaded one is not disabled, and its text is that of
its uuid. -/
structure Labelled (dev : DeviceData) : Prop where
  unloaded : dev.isLoaded = false → dev.uuidStr = ""
  loaded : dev.isLoaded = true → dev.isDisabled = false ∧ dev.uuidStr = binToHexstr dev.uuid

/-- The device keeps its number and stays labelled. -/
structure Follows (dev dev' : DeviceData) : Prop where
  number : dev'.devLoadInfo.deviceId = dev.devLoadInfo.deviceId
  labelled : dev.Labelled → dev'.Labelled

namespace Follows

variable {dev dev' dev'' : DeviceData}

theorem refl (dev : DeviceData) : Follows dev dev := ⟨rfl, id⟩

theorem trans (h : Follows dev dev') (h' : Follows dev' dev'') : Follows dev dev'' :=
  ⟨h'.number.trans h.number, h'.labelled ∘ h.labelled⟩

/-- A change of nothing that the labels are about. -/
theorem congr (hnum : dev'.devLoadInfo.deviceId = dev.devLoadInfo.deviceId)
    (hload : dev'.isLoaded = dev.isLoaded) (hdis : dev'.isDisabled = dev.isDisabled)
    (huuid : dev'.uuid = dev.uuid) (hstr : dev'.uuidStr = dev.uuidStr) : Follows dev dev' := by
  refine ⟨hnum, fun h => ⟨?_, ?_⟩⟩
  · rw [hload, hstr]
    exact h.unloaded
  · rw [hload, hdis, huuid, hstr]
    exact h.loaded

/-- A device that is not loaded any more, or not yet. -/
theorem cleared (hload : dev'.isLoaded = false) (hstr : dev'.uuidStr = "")
    (hnum : dev'.devLoadInfo.deviceId = dev.devLoadInfo.deviceId) : Follows dev dev' :=
  ⟨hnum, fun _ => ⟨fun _ => hstr, by simp [hload]⟩⟩

end Follows

/-- No load of the device is in use but what slots of the client hold back unused. -/
def FreeBut (c : Nat) (dev : DeviceData) : Prop :=
  ∀ cu ∈ dev.cuList, cu.totalUsedLoadUnified =
    sumBy ReserveData.unused (cu.slots.filter fun r => r.clientIsActive && r.clientId == c)

/-! ## The acts -/

/-- One act on a device of an allocation, a release, a recycling or a load. -/
inductive Act (D : Discipline) : DeviceData → DeviceData → Prop where
  /-- Register the client and drop it again. -/
  | touch {dev dev₁ : DeviceData} {prop : CuProperty} (hc : prop.clientId ≠ 0)
      (hload : dev.isLoaded = true) (hreg : dev.allocClientFromDev prop = .ok dev₁) :
      Act D dev (dev₁.dropClient prop.clientId)
  /-- Register the client and take a channel for it. -/
  | grab {dev dev₁ : DeviceData} {prop : CuProperty} {svc cuId policyInfo chanId : Nat}
      {cu cu' : CuData} {preCu : Option CuData} (hs : prop.Received) (hsvc : svc ≠ 0)
      (hreg : dev.allocClientFromDev prop = .ok dev₁) (hcu : dev.cuList[cuId]? = some cu)
      (halloc : cu.allocChanClientFromCu prop svc policyInfo preCu = .allocated cu' chanId) :
      Act D dev (dev₁.grant prop cuId cu')
  /-- Register the client for nothing. -/
  | leak {dev dev₁ : DeviceData} {prop : CuProperty} (hD : D.covered → ¬D.balanced)
      (hload : D.covered → dev.isLoaded = true) (hc : prop.clientId ≠ 0)
      (hreg : dev.allocClientFromDev prop = .ok dev₁) : Act D dev dev₁
  /-- Take a channel for a client that is not registered. -/
  | steal {dev : DeviceData} {prop : CuProperty} {svc cuId policyInfo chanId : Nat}
      {cu cu' : CuData} {preCu : Option CuData} (hD : ¬D.covered) (hs : prop.Received)
      (hsvc : svc ≠ 0) (hcu : dev.cuList[cuId]? = some cu)
      (halloc : cu.allocChanClientFromCu prop svc policyInfo preCu = .allocated cu' chanId) :
      Act D dev (dev.grant prop cuId cu')
  /-- Drop a client for nothing. -/
  | overRelease {dev : DeviceData} {c : Nat} (hD : ¬D.covered) (hc : c ≠ 0) :
      Act D dev (dev.dropClient c)
  /-- Take all CUs of a device that was just loaded. -/
  | takeAll {dev : DeviceData} {svc c : Nat} {pid : Int}
      (hD : D.covered → dev.numCu ≤ 1 ∧ (D.balanced → dev.numCu = 1) ∧
        ∀ entry ∈ dev.clientProcs, entry = ClientData.zero)
      (hload : dev.isLoaded = true) (hsvc : svc ≠ 0) (hc : c ≠ 0)
      (hidle : ∀ cu ∈ dev.cuList, cu.Idle) :
      Act D dev (dev.allocAllCu svc c pid)
  | release {dev : DeviceData} {cuId : Nat} {cu : CuData} {res : CuResource}
      (hload : dev.isLoaded = true) (hcu : dev.cuList[cuId]? = some cu)
      (hres : res.clientId ≠ 0) : Act D dev (dev.releaseCu cuId cu res).1
  | recycleReserves {dev : DeviceData} {c : Nat} (hc : c ≠ 0) (tmpSum change : Int)
      (hmeter : D.metered → dev.FreeBut c) :
      Act D dev ({ dev with
        cuList := (DeviceData.recycleReserves c dev.cuList tmpSum).1 }.updateDeviceLoad change 0)
  | recycleHolder {dev : DeviceData} {c : Nat} (hc : c ≠ 0) (hload : dev.isLoaded = true)
      (hex : dev.isExcl = true)
      (hholder : dev.holder.clientId = c) :
      Act D dev { dev.releaseAllCuChanClientOnDev c with
        isExcl := false
        clientProcs := List.replicate maxDevClients ClientData.zero }
  | recycleEntry {dev : DeviceData} {c i : Nat} (hc : c ≠ 0) (hload : dev.isLoaded = true)
      (hex : dev.isExcl = false) (hi : i < dev.clientProcs.length)
      (hfound : dev.clientProcs[i].clientId = c) :
      Act D dev { dev.releaseAllCuChanClientOnDev c with
        clientProcs := dev.clientProcs.set i ClientData.zero }
  /-- Clear a device that is not loaded or not busy. -/
  | clear {dev dev' : DeviceData} (hidle : dev.isLoaded = true → ∀ cu ∈ dev.cuList, cu.Idle)
      (hcus : dev'.cuList = []) (hload' : dev'.isLoaded = false) (hex : dev'.isExcl = false)
      (hprocs : dev'.clientProcs = List.replicate maxDevClients ClientData.zero) : Act D dev dev'
  /-- Load a device that is not loaded. -/
  | load {dev dev' : DeviceData} (hload : dev.isLoaded = false)
      (hnumber : 0 < dev'.cuList.length ∧ dev'.cuList.length ≤ maxXilinxKernels)
      (hcus : ∀ cu ∈ dev'.cuList, cu.Untouched)
      (horder : D.gapless → ∀ cu ∈ dev'.cuList, cu.InOrder) (hload' : dev'.isLoaded = true)
      (hex : dev'.isExcl = dev.isExcl) (hprocs : dev'.clientProcs = dev.clientProcs)
      (hcurrent : dev'.devLoadInfo.devCurrentLoad = 0)
      (hrate : dev'.devLoadInfo.devLoadRate = 0) : Act D dev dev'
  /-- Change nothing of the bookkeeping. -/
  | mark {dev dev' : DeviceData} (hcus : dev'.cuList = dev.cuList)
      (hload : dev'.isLoaded = dev.isLoaded) (hex : dev'.isExcl = dev.isExcl)
      (hprocs : dev'.clientProcs = dev.clientProcs)
      (hinfo : dev'.devLoadInfo = dev.devLoadInfo) : Act D dev dev'

/-- One act on a device of an allocation, a release or a load. -/
inductive Work (D : Discipline) : DeviceData → DeviceData → Prop where
  /-- Register the client and drop it again. -/
  | touch {dev dev₁ : DeviceData} {prop : CuProperty} (hc : prop.clientId ≠ 0)
      (hload : dev.isLoaded = true) (hreg : dev.allocClientFromDev prop = .ok dev₁) :
      Work D dev (dev₁.dropClient prop.clientId)
  /-- Register the client and take a channel for it. -/
  | grab {dev dev₁ : DeviceData} {prop : CuProperty} {svc cuId policyInfo chanId : Nat}
      {cu cu' : CuData} {preCu : Option CuData} (hs : prop.Received) (hsvc : svc ≠ 0)
      (hreg : dev.allocClientFromDev prop = .ok dev₁) (hcu : dev.cuList[cuId]? = some cu)
      (halloc : cu.allocChanClientFromCu prop svc policyInfo preCu = .allocated cu' chanId) :
      Work D dev (dev₁.grant prop cuId cu')
  /-- Register the client for nothing. -/
  | leak {dev dev₁ : DeviceData} {prop : CuProperty} (hD : D.covered → ¬D.balanced)
      (hload : D.covered → dev.isLoaded = true) (hc : prop.clientId ≠ 0)
      (hreg : dev.allocClientFromDev prop = .ok dev₁) : Work D dev dev₁
  /-- Take a channel for a client that is not registered. -/
  | steal {dev : DeviceData} {prop : CuProperty} {svc cuId policyInfo chanId : Nat}
      {cu cu' : CuData} {preCu : Option CuData} (hD : ¬D.covered) (hs : prop.Received)
      (hsvc : svc ≠ 0) (hcu : dev.cuList[cuId]? = some cu)
      (halloc : cu.allocChanClientFromCu prop svc policyInfo preCu = .allocated cu' chanId) :
      Work D dev (dev.grant prop cuId cu')
  /-- Drop a client for nothing. -/
  | overRelease {dev : DeviceData} {c : Nat} (hD : ¬D.covered) (hc : c ≠ 0) :
      Work D dev (dev.dropClient c)
  /-- Take all CUs of a device that was just loaded. -/
  | takeAll {dev : DeviceData} {svc c : Nat} {pid : Int}
      (hD : D.covered → dev.numCu ≤ 1 ∧ (D.balanced → dev.numCu = 1) ∧
        ∀ entry ∈ dev.clientProcs, entry = ClientData.zero)
      (hload : dev.isLoaded = true) (hsvc : svc ≠ 0) (hc : c ≠ 0)
      (hidle : ∀ cu ∈ dev.cuList, cu.Idle) :
      Work D dev (dev.allocAllCu svc c pid)
  | release {dev : DeviceData} {cuId : Nat} {cu : CuData} {res : CuResource}
      (hload : dev.isLoaded = true) (hcu : dev.cuList[cuId]? = some cu)
      (hres : res.clientId ≠ 0) : Work D dev (dev.releaseCu cuId cu res).1
  /-- Clear a device that is not loaded or not busy. -/
  | clear {dev dev' : DeviceData} (hidle : dev.isLoaded = true → ∀ cu ∈ dev.cuList, cu.Idle)
      (hcus : dev'.cuList = []) (hload' : dev'.isLoaded = false) (hex : dev'.isExcl = false)
      (hprocs : dev'.clientProcs = List.replicate maxDevClients ClientData.zero)
      (hlabels : Follows dev dev') : Work D dev dev'
  /-- Load a device that is not loaded. -/
  | load {dev dev' : DeviceData} (hload : dev.isLoaded = false)
      (hnumber : 0 < dev'.cuList.length ∧ dev'.cuList.length ≤ maxXilinxKernels)
      (hcus : ∀ cu ∈ dev'.cuList, cu.Untouched)
      (horder : D.gapless → ∀ cu ∈ dev'.cuList, cu.InOrder) (hload' : dev'.isLoaded = true)
      (hex : dev'.isExcl = dev.isExcl) (hprocs : dev'.clientProcs = dev.clientProcs)
      (hcurrent : dev'.devLoadInfo.devCurrentLoad = 0)
      (hrate : dev'.devLoadInfo.devLoadRate = 0) (hlabels : Follows dev dev') : Work D dev dev'
  /-- Change nothing of the bookkeeping. -/
  | mark {dev dev' : DeviceData} (hcus : dev'.cuList = dev.cuList)
      (hload : dev'.isLoaded = dev.isLoaded) (hex : dev'.isExcl = dev.isExcl)
      (hprocs : dev'.clientProcs = dev.clientProcs)
      (hinfo : dev'.devLoadInfo = dev.devLoadInfo) (hlabels : Follows dev dev') : Work D dev dev'

theorem Work.act {D : Discipline} {dev dev' : DeviceData} (h : Work D dev dev') :
    Act D dev dev' := by
  cases h with
  | touch hc hload hreg => exact .touch hc hload hreg
  | grab hs hsvc hreg hcu halloc => exact .grab hs hsvc hreg hcu halloc
  | leak hD hload hc hreg => exact .leak hD hload hc hreg
  | steal hD hs hsvc hcu halloc => exact .steal hD hs hsvc hcu halloc
  | overRelease hD hc => exact .overRelease hD hc
  | takeAll hD hload hsvc hc hidle => exact .takeAll hD hload hsvc hc hidle
  | release hload hcu hres => exact .release hload hcu hres
  | clear hidle hcus hload' hex hprocs => exact .clear hidle hcus hload' hex hprocs
  | load hload hnumber hcus horder hload' hex hprocs hcurrent hrate =>
      exact .load hload hnumber hcus horder hload' hex hprocs hcurrent hrate
  | mark hcus hload hex hprocs hinfo => exact .mark hcus hload hex hprocs hinfo

theorem Work.acts {D : Discipline} {dev dev' : DeviceData}
    (h : Relation.ReflTransGen (Work D) dev dev') : Relation.ReflTransGen (Act D) dev dev' :=
  Relation.ReflTransGen.mono (fun _ _ => Work.act) _ _ h

/-- One act of the reservation or the relinquishing of pool `p` on a device, for clients with
`Q`. -/
inductive PoolActBy (Q : Nat → Prop) (p : Nat) : DeviceData → DeviceData → Prop where
  | charge {dev dev' : DeviceData} {prop : CuProperty} {wanted : CuData → Bool}
      (hc : Q prop.clientId) (hpass : dev.reservePass p prop wanted = some dev')
      (hwanted : ByClients wanted) : PoolActBy Q p dev dev'
  | reserveAll {dev : DeviceData} {c : Nat} {pid : Int} (hp : p ≠ 0) (hc : Q c)
      (hidle : ∀ cu ∈ dev.cuList, cu.Idle) : PoolActBy Q p dev (dev.reserveAll p c pid)
  | relinquish {dev : DeviceData} : PoolActBy Q p dev (dev.relinquishDev p).1
  | undo {dev dev' : DeviceData} {prop : CuProperty}
      (hundo : dev.relinquishCuFromDev p prop = .ok dev') : PoolActBy Q p dev dev'

/-- An act for clients that have an id. -/
abbrev PoolAct (p : Nat) : DeviceData → DeviceData → Prop := PoolActBy (· ≠ 0) p

/-! ## The invariant of a device -/

/-- The references of every client cover the `held` channels, in a balanced run exactly. -/
def Covered (D : Discipline) (dev : DeviceData) (held : Nat → Int) : Prop :=
  ∃ refs, dev.Tally refs ∧ ∀ c, c ≠ 0 → held c ≤ refs c ∧ (D.balanced → refs c = held c)

/-- The bookkeeping of a device is in order, as far as the discipline guarantees it. -/
structure Sound (D : Discipline) (dev : DeviceData) : Prop where
  consistent : ∀ cu ∈ dev.cuList, cu.Consistent
  exact : D.fresh → ∀ cu ∈ dev.cuList, cu.Exact
  numbered : ∀ cu ∈ dev.cuList, cu.Numbered D.gapless
  shape : dev.TableShape
  tally : D.covered → dev.Covered D dev.held
  unloaded : dev.isLoaded = false → dev.cuList = []
  absent : D.covered → dev.isLoaded = false →
    dev.isExcl = false ∧ ∀ entry ∈ dev.clientProcs, entry = ClientData.zero

variable {D : Discipline} {dev dev' : DeviceData}

theorem Sound.unfresh (h : dev.Sound D) : dev.Sound D.unfresh :=
  ⟨h.consistent, False.elim, h.numbered, h.shape, h.tally, h.unloaded, h.absent⟩

theorem Tally.congr {held : Nat → Int} (h : dev.Tally held)
    (hprocs : dev'.clientProcs = dev.clientProcs) : dev'.Tally held :=
  ⟨by rw [hprocs]; exact h.refs, by rw [hprocs]; exact h.once⟩

theorem TableShape.congr (h : dev.TableShape) (hex : dev'.isExcl = dev.isExcl)
    (hprocs : dev'.clientProcs = dev.clientProcs) : dev'.TableShape := by
  obtain ⟨hlen, hproper, hholder, halone⟩ := h
  refine ⟨by rw [hprocs]; exact hlen, by rw [hprocs]; exact hproper, ?_, ?_⟩
  · rw [hex, DeviceData.holder, hprocs]
    exact hholder
  · rw [hex, hprocs]
    exact halone

theorem Tally.ext {held held' : Nat → Int} (h : dev.Tally held)
    (heq : ∀ c, c ≠ 0 → held c = held' c) : dev.Tally held' :=
  ⟨fun c hc => (h.refs c hc).trans (heq c hc), h.once⟩

/-- The cover after a change of the references and the channels by the same amount. -/
theorem Covered.change {held held' refs' : Nat → Int} {refs : Nat → Int}
    (hrefs : ∀ c, c ≠ 0 → held c ≤ refs c ∧ (D.balanced → refs c = held c))
    (htally : dev'.Tally refs')
    (heq : ∀ c, c ≠ 0 → refs' c - refs c = held' c - held c) : dev'.Covered D held' := by
  refine ⟨refs', htally, fun c hc => ?_⟩
  have hle := (hrefs c hc).1
  have hd := heq c hc
  refine ⟨by omega, fun hB => ?_⟩
  have := (hrefs c hc).2 hB
  omega

theorem Covered.congr {held held' : Nat → Int} (h : dev.Covered D held)
    (hprocs : dev'.clientProcs = dev.clientProcs) (heq : ∀ c, c ≠ 0 → held c = held' c) :
    dev'.Covered D held' := by
  obtain ⟨refs, htally, hrefs⟩ := h
  exact .change hrefs (htally.congr hprocs) fun c hc => by have := heq c hc; omega

/-- An empty client table. -/
theorem shape_empty (hex : dev.isExcl = false)
    (hprocs : dev.clientProcs = List.replicate maxDevClients ClientData.zero) :
    dev.TableShape := by
  refine ⟨by rw [hprocs, List.length_replicate], ?_, by simp [hex], by simp [hex]⟩
  intro entry he
  rw [hprocs] at he
  rw [List.eq_of_mem_replicate he]
  exact ClientData.proper_zero

theorem tally_empty {held : Nat → Int}
    (hprocs : dev.clientProcs = List.replicate maxDevClients ClientData.zero)
    (hheld : ∀ c, c ≠ 0 → held c = 0) : dev.Tally held := by
  have hzero : ∀ c, c ≠ 0 → ∀ entry ∈ dev.clientProcs, entry.clientId ≠ c := by
    intro c hc entry he
    rw [hprocs] at he
    rw [List.eq_of_mem_replicate he]
    exact hc.symm
  constructor
  · intro c hc
    rw [hheld c hc, sumBy_refsOf_eq_zero (hzero c hc)]
  · intro c hc
    rw [sumBy_naming_eq_zero (hzero c hc)]
    decide

theorem Covered.of_empty {held : Nat → Int}
    (hprocs : dev.clientProcs = List.replicate maxDevClients ClientData.zero)
    (hheld : ∀ c, c ≠ 0 → held c = 0) : dev.Covered D held :=
  ⟨held, tally_empty hprocs hheld, fun _ _ => ⟨le_refl _, fun _ => rfl⟩⟩

/-! ## The channels held on a device -/

theorem heldBy_nonneg (c : Nat) (chan : ChannelData) : 0 ≤ heldBy c chan := by
  rw [heldBy]
  split <;> omega

theorem held_nonneg (dev : DeviceData) (c : Nat) : 0 ≤ dev.held c :=
  sumBy_nonneg fun _ _ => sumBy_nonneg fun chan _ => heldBy_nonneg c chan

theorem held_idle (hcons : ∀ cu ∈ dev.cuList, cu.Consistent)
    (hidle : ∀ cu ∈ dev.cuList, cu.Idle) {c : Nat} (hc : c ≠ 0) : dev.held c = 0 := by
  refine sumBy_eq_zero fun cu hcu => sumBy_eq_zero fun chan hchan => ?_
  rw [heldBy, if_neg]
  rw [((hcons cu hcu).idle_channels (hidle cu hcu) chan hchan).clientId]
  exact hc.symm

theorem held_setCu {i : Nat} {cu cu' : CuData} (hcu : dev.cuList[i]? = some cu) (c : Nat) :
    (dev.setCu i cu').held c =
      dev.held c - sumBy (heldBy c) cu.channels + sumBy (heldBy c) cu'.channels := by
  obtain ⟨hi, rfl⟩ := List.getElem?_eq_some_iff.mp hcu
  rw [held, setCu, set_eq_modify, sumBy_modify _ _ _ _ hi, held]

theorem held_channel_le {i : Nat} {cu : CuData} (hcu : dev.cuList[i]? = some cu) (c : Nat) :
    sumBy (heldBy c) cu.channels ≤ dev.held c :=
  le_sumBy (f := fun cu : CuData => sumBy (heldBy c) cu.channels)
    (fun _ _ => sumBy_nonneg fun chan _ => heldBy_nonneg c chan) (List.mem_of_getElem? hcu)

theorem forall_mem_setCu {P : CuData → Prop} {i : Nat} {cu' : CuData}
    (h : ∀ cu ∈ dev.cuList, P cu) (hcu' : P cu') : ∀ cu ∈ (dev.setCu i cu').cuList, P cu := by
  intro cu hcu
  rcases List.mem_or_eq_of_mem_set hcu with hcu | rfl
  · exact h cu hcu
  · exact hcu'

/-- A change of the client table alone. -/
theorem Sound.table (h : dev.Sound D) (hcus : dev'.cuList = dev.cuList)
    (hload : dev'.isLoaded = dev.isLoaded) (hshape : dev'.TableShape)
    (htally : D.covered → dev'.Covered D dev.held)
    (habsent : D.covered → dev.isLoaded = false →
      dev'.isExcl = false ∧ ∀ entry ∈ dev'.clientProcs, entry = ClientData.zero) :
    dev'.Sound D := by
  refine ⟨by rw [hcus]; exact h.consistent, by rw [hcus]; exact h.exact,
    by rw [hcus]; exact h.numbered, hshape, ?_, ?_, by rw [hload]; exact habsent⟩
  · intro hD
    have hheld : dev'.held = dev.held := by
      funext c
      rw [held, held, hcus]
    rw [hheld]
    exact htally hD
  · rw [hload, hcus]
    exact h.unloaded

/-- The invariant only looks at the CUs, the client table and the flags. -/
theorem Sound.congr (h : dev.Sound D) (hcus : dev'.cuList = dev.cuList)
    (hload : dev'.isLoaded = dev.isLoaded) (hex : dev'.isExcl = dev.isExcl)
    (hprocs : dev'.clientProcs = dev.clientProcs) : dev'.Sound D :=
  h.table hcus hload (h.shape.congr hex hprocs)
    (fun hD => (h.tally hD).congr hprocs fun _ _ => rfl)
    (by rw [hex, hprocs]; exact h.absent)

/-- A change of one CU together with the client table. A device with a CU is loaded. -/
theorem Sound.setCu (h : dev.Sound D) {i : Nat} {cu cu' : CuData} (hcu : dev.cuList[i]? = some cu)
    (hcus : dev'.cuList = dev.cuList.set i cu') (hload : dev'.isLoaded = dev.isLoaded)
    (hcons : cu'.Consistent) (hexact : D.fresh → cu'.Exact) (hkin : cu.Kin cu')
    (hshape : dev'.TableShape)
    (htally : D.covered → dev'.Covered D (dev.setCu i cu').held) : dev'.Sound D := by
  have hsome : dev.isLoaded ≠ false := by
    intro hl
    rw [h.unloaded hl] at hcu
    simp at hcu
  refine ⟨?_, ?_, ?_, hshape, ?_, ?_, ?_⟩
  · rw [hcus]
    exact forall_mem_setCu h.consistent hcons
  · intro hD
    rw [hcus]
    exact forall_mem_setCu (h.exact hD) (hexact hD)
  · rw [hcus]
    exact forall_mem_setCu h.numbered (hkin.numbered (h.numbered cu (List.mem_of_getElem? hcu)))
  · intro hD
    have hheld : dev'.held = (dev.setCu i cu').held := by
      funext c
      rw [held, held, hcus]
      rfl
    rw [hheld]
    exact htally hD
  · intro hl
    rw [hload] at hl
    exact absurd hl hsome
  · intro _ hl
    rw [hload] at hl
    exact absurd hl hsome

/-! ## Registering, granting -/

theorem grant_frame (dev : DeviceData) (prop : CuProperty) (cuId : Nat) (cu : CuData) :
    ∃ info, dev.grant prop cuId cu = { dev.setCu cuId cu with devLoadInfo := info } := by
  rw [grant]
  split
  · exact ⟨_, rfl⟩
  · exact ⟨_, rfl⟩

theorem heldBy_occupy {prop : CuProperty} {svc c i : Nat} {chans : List ChannelData}
    (hi : i < chans.length) (hfree : chans[i].Free) (hc : c ≠ 0) :
    sumBy (heldBy c) (chans.modify i (ChannelData.occupy prop svc)) =
      sumBy (heldBy c) chans + if c = prop.clientId then 1 else 0 := by
  have hother : heldBy c chans[i] = 0 := by
    rw [heldBy, hfree.clientId, if_neg hc.symm]
  have hown : heldBy c (chans[i].occupy prop svc) = if c = prop.clientId then 1 else 0 := by
    rw [heldBy, ChannelData.occupy]
    simp only [eq_comm]
  rw [sumBy_modify _ _ _ _ hi, hother, hown, sub_zero]

section Grant

variable {dev₁ : DeviceData} {prop : CuProperty} {svc cuId chanId policyInfo : Nat}
  {cu cu' : CuData} {preCu : Option CuData}

/-- What is left of the channels' owners after an allocation. -/
theorem held_allocated {idx : Option Nat} (hcu : dev.cuList[cuId]? = some cu)
    (halloc : cu.Allocated cu' prop svc idx chanId) {c : Nat} (hc : c ≠ 0) :
    (dev.setCu cuId cu').held c = plus dev.held prop.clientId c := by
  obtain ⟨hi, hfree⟩ := halloc.free
  rw [held_setCu hcu, halloc.eq, CuData.assignChannel_channels, heldBy_occupy hi hfree hc, plus]
  omega

theorem held_grab (hcons : cu.Consistent) (hcu : dev.cuList[cuId]? = some cu)
    (halloc : cu.allocChanClientFromCu prop svc policyInfo preCu = .allocated cu' chanId)
    {c : Nat} (hc : c ≠ 0) : (dev.setCu cuId cu').held c = plus dev.held prop.clientId c := by
  obtain ⟨idx, hallocated⟩ := CuData.allocated_of_allocChan hcons halloc
  exact held_allocated hcu hallocated hc

theorem Sound.grant (h : dev.Sound D) (hs : prop.Received) (hsvc : svc ≠ 0)
    (hcu : dev.cuList[cuId]? = some cu)
    (halloc : cu.allocChanClientFromCu prop svc policyInfo preCu = .allocated cu' chanId)
    (hcus : dev₁.cuList = dev.cuList) (hload : dev₁.isLoaded = dev.isLoaded)
    (hshape : dev₁.TableShape)
    (htally : D.covered → dev₁.Covered D (plus dev.held prop.clientId)) :
    (dev₁.grant prop cuId cu').Sound D := by
  have hcons := h.consistent cu (List.mem_of_getElem? hcu)
  obtain ⟨idx, hallocated⟩ := CuData.allocated_of_allocChan hcons halloc
  obtain ⟨info, hgrant⟩ := dev₁.grant_frame prop cuId cu'
  rw [hgrant]
  refine h.setCu hcu ?_ hload (hallocated.consistent hcons hs hsvc) ?_ hallocated.kin ?_ ?_
  · show dev₁.cuList.set cuId cu' = _
    rw [hcus]
  · exact fun hD => hallocated.exact hcons (h.exact hD cu (List.mem_of_getElem? hcu)) hs
  · exact hshape.congr rfl rfl
  · intro hD
    exact (htally hD).congr rfl fun c hc => (held_grab hcons hcu halloc hc).symm

/-- A registration and an allocation together. -/
theorem Sound.grab {dev₁ : DeviceData} (h : dev.Sound D) (hs : prop.Received) (hsvc : svc ≠ 0)
    (hreg : dev.allocClientFromDev prop = .ok dev₁) (hcu : dev.cuList[cuId]? = some cu)
    (halloc : cu.allocChanClientFromCu prop svc policyInfo preCu = .allocated cu' chanId) :
    (dev₁.grant prop cuId cu').Sound D := by
  have hregistered := allocClientFromDev_spec hreg
  have hframe := hregistered.frame
  refine h.grant hs hsvc hcu halloc ?_ ?_ (hregistered.shape h.shape hs.1) fun hD => ?_
  · rw [hframe]
  · rw [hframe]
  · obtain ⟨refs, htally, hrefs⟩ := h.tally hD
    refine .change hrefs (hregistered.tally h.shape htally hs.1) fun c _ => ?_
    simp only [plus]
    omega

end Grant

theorem Sound.touch {dev₁ : DeviceData} {prop : CuProperty} (h : dev.Sound D)
    (hc : prop.clientId ≠ 0) (hload : dev.isLoaded = true)
    (hreg : dev.allocClientFromDev prop = .ok dev₁) : (dev₁.dropClient prop.clientId).Sound D := by
  have hregistered := allocClientFromDev_spec hreg
  have hdropped := dev₁.dropClient_spec prop.clientId
  have hframe := hregistered.frame
  have hframe' := hdropped.frame
  have hshape := hregistered.shape h.shape hc
  refine h.table ?_ ?_ (hdropped.shape hshape hc) (fun hD => ?_) (by simp [hload])
  · rw [hframe', hframe]
  · rw [hframe', hframe]
  · obtain ⟨refs, htally, hrefs⟩ := h.tally hD
    have hreg := hregistered.tally h.shape htally hc
    have hle := (hrefs prop.clientId hc).1
    have hnonneg := dev.held_nonneg prop.clientId
    have hpos : 0 < plus refs prop.clientId prop.clientId := by
      simp only [plus, if_true]
      omega
    have hload₁ : dev₁.isLoaded = true := by rw [hframe]; exact hload
    have hdrop := hdropped.tally hshape hreg hc hload₁ hpos
    rw [minus_plus] at hdrop
    exact ⟨refs, hdrop, hrefs⟩

end DeviceData

end Xrm
