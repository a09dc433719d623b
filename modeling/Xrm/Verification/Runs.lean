import Mathlib.Data.List.GetD
import Xrm.Model.Session
import Xrm.Verification.DeviceLoad
import Xrm.Verification.PoolEvolves

/-! # Runs of the daemon

Every operation keeps the devices in order, under the conditions of the discipline, and so
does every run.
-/

namespace Xrm

open Relation

namespace DeviceData

variable {D : Discipline} {dev : DeviceData}

/-! ## Recycling a client -/

theorem recycleEntries_acts {c : Nat} (hc : c ≠ 0) (rounds pidIdx : Nat) (dev : DeviceData)
    (hsound : dev.Sound D) (hload : dev.isLoaded = true) (hex : dev.isExcl = false) :
    ReflTransGen (Act D) dev (recycleEntries c rounds pidIdx dev) := by
  induction rounds generalizing pidIdx dev with
  | zero => exact .refl
  | succ rounds ih =>
      rw [recycleEntries]
      simp only
      split
      · rename_i hentry
        have hi : pidIdx < dev.clientProcs.length := by
          by_contra hge
          rw [List.getD_eq_default _ _ (by omega)] at hentry
          exact hentry.1 rfl
        rw [List.getD_eq_getElem _ _ hi] at hentry
        have hframe := (releaseAllCuChanClientOnDev_spec hc hsound.consistent).frame
        have hprocs : (dev.releaseAllCuChanClientOnDev c).clientProcs = dev.clientProcs := by
          rw [hframe]
        have hact : Act D dev { dev.releaseAllCuChanClientOnDev c with
            clientProcs := dev.clientProcs.set pidIdx ClientData.zero } :=
          .recycleEntry hc hload hex hi hentry.2
        rw [hprocs]
        refine .head hact (ih _ _ (hact.sound hsound) ?_ ?_)
        · show (dev.releaseAllCuChanClientOnDev c).isLoaded = _
          rw [hframe]
          exact hload
        · show (dev.releaseAllCuChanClientOnDev c).isExcl = _
          rw [hframe]
          exact hex
      · exact ih _ dev hsound hload hex

/-- What the device loop of `recycleResource` makes of a loaded device in order. -/
def recycleOn (c : Nat) (tmpSum : Int) (dev : DeviceData) : DeviceData :=
  let dev := { dev with cuList := (recycleReserves c dev.cuList tmpSum).1 }.updateDeviceLoad
    (recycleReserves c dev.cuList tmpSum).2 0
  if dev.isExcl then
    if dev.holder.clientId = c then
      { dev.releaseAllCuChanClientOnDev c with
        isExcl := false
        clientProcs := List.replicate maxDevClients ClientData.zero }
    else dev
  else recycleEntries c maxDevClients 0 dev

theorem recycleOn_acts {c : Nat} (hs : dev.Sound D) (hc : c ≠ 0)
    (hload : dev.isLoaded = true) (hfree : D.metered → dev.FreeBut c) (tmpSum : Int) :
    ReflTransGen (Act D) dev (dev.recycleOn c tmpSum) := by
  have hact : Act D dev ({ dev with
      cuList := (recycleReserves c dev.cuList tmpSum).1 }.updateDeviceLoad
        (recycleReserves c dev.cuList tmpSum).2 0) :=
    .recycleReserves hc tmpSum _ hfree
  have hsound₁ := hact.sound hs
  rw [recycleOn]
  simp only
  generalize hdev₁ : { dev with
    cuList := (recycleReserves c dev.cuList tmpSum).1 }.updateDeviceLoad
      (recycleReserves c dev.cuList tmpSum).2 0 = dev₁ at hact hsound₁
  have hload₁ : dev₁.isLoaded = true := by
    rw [← hdev₁]
    exact hload
  split
  · rename_i hex
    split
    · rename_i hholder
      exact .tail (.single hact) (.recycleHolder hc hload₁ hex hholder)
    · exact .single hact
  · rename_i hex
    have hex : dev₁.isExcl = false := by simpa using hex
    exact .head hact (recycleEntries_acts hc maxDevClients 0 dev₁ hsound₁ hload₁ hex)

end DeviceData

namespace System

variable {D : Discipline} {s s' : System}

/-- No load is in use on a loaded device but what slots of the client hold back unused. -/
def FreeBut (c : Nat) (s : System) : Prop :=
  ∀ dev ∈ s.devList, dev.isLoaded = true → dev.FreeBut c

/-- The device loop passes over a device that is not loaded. -/
theorem recycleDevices_skip {c devId : Nat} {s : System}
    (h : ∀ dev, s.devList[devId]? = some dev → dev.isLoaded = false) (devIds : List Nat)
    (tmpSum : Int) : recycleDevices c (devId :: devIds) s tmpSum =
      recycleDevices c devIds s tmpSum := by
  rw [recycleDevices]
  split
  · rfl
  · rename_i dev hdev
    rw [if_pos (by simp [h dev hdev])]

/-- The device loop does not end at a device in order. -/
theorem recycleDevices_cons {c devId : Nat} {dev : DeviceData} (hs : dev.Sound D)
    (hdev : s.devList[devId]? = some dev) (hload : dev.isLoaded = true) (devIds : List Nat)
    (tmpSum : Int) : recycleDevices c (devId :: devIds) s tmpSum =
      recycleDevices c devIds (s.setDev devId (dev.recycleOn c tmpSum))
        (DeviceData.recycleReserves c dev.cuList tmpSum).2 := by
  have hsound := hs.recycleReserves (c := c) tmpSum
    (DeviceData.recycleReserves c dev.cuList tmpSum).2
  rw [recycleDevices, hdev]
  simp only
  rw [if_neg (by simp [hload]), DeviceData.recycleOn]
  simp only
  generalize ({ dev with
    cuList := (DeviceData.recycleReserves c dev.cuList tmpSum).1 }.updateDeviceLoad
      (DeviceData.recycleReserves c dev.cuList tmpSum).2 0) = dev₁ at hsound
  by_cases hex : dev₁.isExcl = true
  · have hproper := hsound.shape.proper dev₁.holder (by
      rw [DeviceData.holder_eq hsound.shape.pos]
      exact List.getElem_mem _)
    have hpos := hproper.ref_pos (hsound.shape.holder hex)
    rw [if_pos hex, if_pos hex, if_neg (by omega)]
    split <;> rfl
  · rw [if_neg hex, if_neg hex]

theorem recycleDevices_evolves {c : Nat} (hc : c ≠ 0) (devIds : List Nat) (hnodup : devIds.Nodup)
    (s : System) (tmpSum : Int) (hs : s.Sound D)
    (hfree : D.metered → ∀ devId ∈ devIds, ∀ dev, s.devList[devId]? = some dev →
      dev.isLoaded = true → dev.FreeBut c) :
    Evolves D s (recycleDevices c devIds s tmpSum) := by
  induction devIds generalizing s tmpSum with
  | nil => exact .refl D s
  | cons devId devIds ih =>
      obtain ⟨hnotin, hnodup⟩ := List.nodup_cons.mp hnodup
      by_cases hon : ∃ dev, s.devList[devId]? = some dev ∧ dev.isLoaded = true
      · obtain ⟨dev, hdev, hload⟩ := hon
        have hsound := hs dev (List.mem_of_getElem? hdev)
        have hacts := DeviceData.recycleOn_acts hsound hc hload
          (fun hD => hfree hD devId List.mem_cons_self dev hdev hload) tmpSum
        have hev := Evolves.setDev hdev hacts
        rw [recycleDevices_cons hsound hdev hload]
        refine hev.trans (ih hnodup _ _ (hev.sound hs) fun hD i hi x hx hxload => ?_)
        have hne : devId ≠ i := fun h => hnotin (h ▸ hi)
        rw [setDev, List.getElem?_set_ne hne] at hx
        exact hfree hD i (List.mem_cons_of_mem _ hi) x hx hxload
      · have hoff : ∀ dev, s.devList[devId]? = some dev → dev.isLoaded = false := by
          intro dev hdev
          simpa using fun hload => hon ⟨dev, hdev, hload⟩
        rw [recycleDevices_skip hoff]
        exact ih hnodup s tmpSum hs fun hD i hi => hfree hD i (List.mem_cons_of_mem _ hi)

theorem clientsOn_ne_zero (dev : DeviceData) : ∀ c ∈ clientsOn dev, c ≠ 0 := by
  intro c hc
  rw [clientsOn] at hc
  split at hc
  · split at hc
    · rename_i hholder
      rw [List.mem_singleton] at hc
      rw [hc]
      exact hholder
    · simp at hc
  · simpa using (List.mem_filter.mp hc).2

/-! ## Groups -/

/-- The loads of all declared groups are valid. -/
structure GroupsValid (s : System) : Prop where
  groups : ∀ group ∈ s.udfCuGroups, ∀ option ∈ group.optionUdfCuListProps,
    ∀ prop ∈ option.items, prop.requestLoadUnified ≤ maxSafeLoad
  groupsV2 : ∀ group ∈ s.udfCuGroupsV2, ∀ option ∈ group.optionUdfCuListProps,
    ∀ prop ∈ option.items, prop.requestLoadUnified ≤ maxSafeLoad

theorem GroupsValid.congr (h : s.GroupsValid) (hg : s'.udfCuGroups = s.udfCuGroups)
    (hg' : s'.udfCuGroupsV2 = s.udfCuGroupsV2) : s'.GroupsValid :=
  ⟨by rw [hg]; exact h.groups, by rw [hg']; exact h.groupsV2⟩

theorem GroupsValid.declare {info : UdfCuGroupInformation} (h : s.GroupsValid)
    (hinfo : ∀ option ∈ info.optionUdfCuListProps, ∀ prop ∈ option.items,
      prop.requestLoadUnified ≤ maxSafeLoad) : (s.resUdfCuGroupDeclare info).1.GroupsValid := by
  rw [resUdfCuGroupDeclare]
  split
  · exact h
  refine ⟨fun group hgroup => ?_, h.groupsV2⟩
  rcases List.mem_append.mp hgroup with hgroup | hgroup
  · exact h.groups group hgroup
  · rw [List.mem_singleton] at hgroup
    subst hgroup
    intro option hoption prop hprop
    obtain ⟨option₀, hoption₀, rfl⟩ := List.mem_map.mp hoption
    obtain ⟨prop₀, hprop₀, rfl⟩ := List.mem_map.mp (List.mem_of_mem_take hprop)
    exact hinfo option₀ (List.mem_of_mem_take hoption₀) prop₀ hprop₀

theorem GroupsValid.declareV2 {info : UdfCuGroupInformationV2} (h : s.GroupsValid)
    (hinfo : ∀ option ∈ info.optionUdfCuListProps, ∀ prop ∈ option.items,
      prop.requestLoadUnified ≤ maxSafeLoad) : (s.resUdfCuGroupDeclareV2 info).1.GroupsValid := by
  rw [resUdfCuGroupDeclareV2]
  split
  · exact h
  refine ⟨h.groups, fun group hgroup => ?_⟩
  rcases List.mem_append.mp hgroup with hgroup | hgroup
  · exact h.groupsV2 group hgroup
  · rw [List.mem_singleton] at hgroup
    subst hgroup
    intro option hoption prop hprop
    obtain ⟨option₀, hoption₀, rfl⟩ := List.mem_map.mp hoption
    obtain ⟨prop₀, hprop₀, rfl⟩ := List.mem_map.mp (List.mem_of_mem_take hprop)
    exact hinfo option₀ (List.mem_of_mem_take hoption₀) prop₀ hprop₀

theorem GroupsValid.undeclare (h : s.GroupsValid) (name : String) :
    (s.resUdfCuGroupUndeclare name).1.GroupsValid := by
  rw [resUdfCuGroupUndeclare]
  split
  · exact h
  · exact ⟨fun group hgroup => h.groups group (List.mem_of_mem_eraseIdx hgroup), h.groupsV2⟩

theorem GroupsValid.undeclareV2 (h : s.GroupsValid) (name : String) :
    (s.resUdfCuGroupUndeclareV2 name).1.GroupsValid := by
  rw [resUdfCuGroupUndeclareV2]
  split
  · exact h
  · exact ⟨h.groups, fun group hgroup => h.groupsV2 group (List.mem_of_mem_eraseIdx hgroup)⟩

/-- The options of a valid group make requests that the library would send. -/
theorem groupOption_received {groupProp : CuGroupProperty} {option : CuListProperty}
    (hc : groupProp.clientId ≠ 0)
    (h : ∀ prop ∈ option.items, prop.requestLoadUnified ≤ maxSafeLoad) :
    ∀ prop ∈ (groupOption groupProp option).items, prop.Received := by
  intro prop hprop
  obtain ⟨prop₀, hprop₀, rfl⟩ := List.mem_map.mp (List.mem_of_mem_take hprop)
  exact ⟨hc, h prop₀ hprop₀⟩

theorem groupOptionV2_sent {groupProp : CuGroupProperty} {option : CuListPropertyV2}
    (hc : groupProp.clientId ≠ 0)
    (h : ∀ prop ∈ option.items, prop.requestLoadUnified ≤ maxSafeLoad) :
    ∀ prop ∈ (groupOptionV2 groupProp option).items, prop.Received := by
  intro prop hprop
  obtain ⟨prop₀, hprop₀, rfl⟩ := List.mem_map.mp (List.mem_of_mem_take hprop)
  exact ⟨hc, h prop₀ hprop₀⟩

theorem allocOptions_evolves {α : Type}
    {alloc : System → α → System × Except XrmError CuListResource} (options : List α)
    (halloc : ∀ option ∈ options, ∀ s, Develops D s (alloc s option).1) (s : System)
    (e : XrmError) : Develops D s (allocOptions alloc options s e).1 := by
  induction options generalizing s e with
  | nil => exact evolves_refl D s
  | cons option options ih =>
      have hev := halloc option (by simp) s
      rw [allocOptions]
      split
      · rename_i heq
        rw [heq] at hev
        exact hev
      · rename_i heq
        rw [heq] at hev
        exact hev.trans (ih (fun o ho => halloc o (by simp [ho])) _ _)

theorem resAllocCuGroup_evolves (D : Discipline) (hs : s.GroupsValid)
    {groupProp : CuGroupProperty} (hc : groupProp.clientId ≠ 0) :
    Develops D s (s.resAllocCuGroup groupProp).1 := by
  rw [resAllocCuGroup]
  split
  · exact evolves_refl D s
  rename_i group hfind
  refine allocOptions_evolves _ (fun option hoption s => ?_) s _
  exact resAllocCuList_evolves D s _ (groupOption_received hc
    (hs.groups group (List.mem_of_find?_eq_some hfind) option (List.mem_of_mem_take hoption)))

theorem resAllocCuGroupV2_evolves (D : Discipline) (hs : s.GroupsValid)
    {groupProp : CuGroupProperty} (hc : groupProp.clientId ≠ 0) :
    Develops D s (s.resAllocCuGroupV2 groupProp).1 := by
  rw [resAllocCuGroupV2]
  split
  · exact evolves_refl D s
  rename_i group hfind
  refine allocOptions_evolves _ (fun option hoption s => ?_) s _
  exact resAllocCuListV2_evolves D s _ (groupOptionV2_sent hc
    (hs.groupsV2 group (List.mem_of_find?_eq_some hfind) option (List.mem_of_mem_take hoption)))

/-! ## The conditions on a step -/

/-- The policy branches of `resAllocCuV2` that keep the discipline. -/
def PolicyOk (D : Discipline) (s : System) (propV2 : CuPropertyV2) : Prop :=
  if propV2.constraintType = constraintNull then
    if propV2.policyInfo = policyDevMostUsedFirst ∨
        propV2.policyInfo = policyDevLeastUsedFirst then
      DevLoadOk D (cuPropertyCopyFromV2 propV2) propV2.policyInfo
        (s.devLoadOrder propV2.policyInfo) s
    else if propV2.policyInfo = policyCuMostUsedFirst ∨
        propV2.policyInfo = policyCuLeastUsedFirst then
      s.PreCuIsFull propV2
    else True
  else D.balanced → s.FromDevHasRoom (i32 propV2.deviceIndex) propV2

/-- What keeps the references of the clients in step with their channels. -/
def ReferencesOk (D : Discipline) (s : System) : Op → Prop
  | .resAllocCuV2 propV2 _ => s.PolicyOk D propV2
  | .resAllocLeastUsedCuFromDev deviceId prop _ => s.LeastUsedOk D deviceId prop
  | .resLoadAndAllocAllCu env xclbin _ _ => s.LoadAllOk D env xclbin
  | _ => True

/-- A reservation gets an id that no channel carries where its pool has no slot any more. -/
@[reducible] def FreshOk (s : System) : Op → Prop
  | .resReserveCuPool _ => s.NoOrphan s.getNextReservePoolId
  | .resReserveCuPoolV2 _ => s.NoOrphan s.getNextReservePoolId
  | _ => True

instance (s : System) (op : Op) : Decidable (s.FreshOk op) := by
  apply Op.casesOn (motive := fun op => Decidable (s.FreshOk op)) op <;> intros <;> infer_instance

/-- The clients are recycled one after another while no other load is in use. -/
def RecyclesFree : List Nat → System → Prop
  | [], _ => True
  | c :: clients, s => s.FreeBut c ∧ RecyclesFree clients (s.recycleResource c)

/-- A client is recycled only while no load of others is in use. -/
def MeterOk (s : System) : Op → Prop
  | .recycleResource clientId => s.FreeBut clientId
  | .resetDevice _ devId => ∀ dev, s.devList[devId]? = some dev → dev.deviceHandle = true →
      RecyclesFree (clientsOn dev) s
  | _ => True

/-- The driver of the operation numbers the kernels of every image without gaps. -/
def NumbersOk : Op → Prop
  | .loadDevices env _ => env.Gapless
  | .loadOneDevice env _ _ => env.Gapless
  | .resAllocCuWithLoad env _ _ _ => env.Gapless
  | .resAllocCuLeastUsedWithLoad env _ _ _ => env.Gapless
  | .resLoadAndAllocAllCu env _ _ _ => env.Gapless
  | _ => True

/-- A step of a run under the discipline. Every discipline asks for operations as the library
sends them. -/
structure StepOk (D : Discipline) (s : System) (op : Op) : Prop where
  sent : op.Sent
  references : D.covered → s.ReferencesOk D op
  fresh : D.fresh → s.FreshOk op
  metered : D.metered → s.MeterOk op
  gapless : D.gapless → NumbersOk op

/-- All runs whose operations are as the library sends them. -/
def allRuns : Discipline := ⟨False, False, False, False, False⟩

/-- The runs in which no id is issued again that an orphaned channel carries. -/
def freshRuns : Discipline := ⟨False, False, True, False, False⟩

/-- The runs in which the references of every client cover its channels. -/
def coveredRuns : Discipline := ⟨True, False, False, False, False⟩

/-- The runs in which the references of every client are its channels. -/
def balancedRuns : Discipline := ⟨True, True, False, False, False⟩

/-- The runs in which a client is recycled only while no load of others is in use. -/
def meteredRuns : Discipline := ⟨False, False, False, True, False⟩

/-- The runs in which the driver numbers the kernels of every image without gaps. -/
def gaplessRuns : Discipline := ⟨False, False, False, False, True⟩

instance (s : System) (op : Op) : Decidable (StepOk allRuns s op) :=
  decidable_of_iff op.Sent ⟨fun h => ⟨h, False.elim, False.elim, False.elim, False.elim⟩,
    fun h => h.sent⟩

instance (s : System) (op : Op) : Decidable (StepOk freshRuns s op) :=
  decidable_of_iff (op.Sent ∧ s.FreshOk op)
    ⟨fun h => ⟨h.1, False.elim, fun _ => h.2, False.elim, False.elim⟩,
      fun h => ⟨h.sent, h.fresh trivial⟩⟩

/-- All steps of the operations from a state obey the discipline. -/
def StepsOk (D : Discipline) : List Op → System → Prop
  | [], _ => True
  | op :: ops, s => StepOk D s op ∧ StepsOk D ops (step s op)

instance decidableStepsOk (D : Discipline) [∀ s op, Decidable (StepOk D s op)] :
    (ops : List Op) → (s : System) → Decidable (StepsOk D ops s)
  | [], _ => .isTrue trivial
  | op :: ops, s =>
      have := decidableStepsOk D ops (step s op)
      inferInstanceAs (Decidable (StepOk D s op ∧ StepsOk D ops (step s op)))

/-- The states of the runs under the discipline. -/
def Reachable (D : Discipline) (limit : Nat) : System → Prop :=
  Transition.Reaches step (StepOk D) (initSystem limit)

/-- The operations that keep the references right whatever the state is. -/
def plain : Op → Bool
  | .resAllocCuV2 _ _ => false
  | .resAllocLeastUsedCuFromDev _ _ _ => false
  | .resLoadAndAllocAllCu _ _ _ _ => false
  | _ => true

theorem stepsOk_of_plain (hF : ¬D.fresh) (hM : ¬D.metered) (hG : ¬D.gapless) (ops : List Op)
    (h : ∀ op ∈ ops, op.Sent ∧ plain op = true) (s : System) : StepsOk D ops s := by
  induction ops generalizing s with
  | nil => trivial
  | cons op ops ih =>
      obtain ⟨hsent, hplain⟩ := h op (by simp)
      refine ⟨⟨hsent, fun _ => ?_, fun hD => absurd hD hF, fun hD => absurd hD hM,
        fun hD => absurd hD hG⟩, ih (fun o ho => h o (by simp [ho])) _⟩
      cases op <;> trivial

theorem Reachable.run {limit : Nat} (h : Reachable D limit s) (ops : List Op)
    (hok : StepsOk D ops s) : Reachable D limit (ops.foldl step s) := by
  induction ops generalizing s with
  | nil => exact h
  | cons op ops ih => exact ih (Transition.Reaches.next op h hok.1) hok.2

/-! ## What holds all along a run -/

/-- The load records of all devices are right as far as the discipline guarantees it. -/
def Recorded (D : Discipline) (s : System) : Prop := ∀ dev ∈ s.devList, dev.Recorded D

theorem Evolves.recorded (h : Evolves D s s') (hs : s.Sound D) (hr : s.Recorded D) :
    s'.Recorded D := by
  have hboth : ∀ dev ∈ s'.devList, dev.Sound D ∧ dev.Recorded D := by
    refine h.devs.invariant (fun dev hdev => ⟨hs dev hdev, hr dev hdev⟩) (fun dev hprobed => ?_) ?_
    · obtain ⟨devId, call, rfl⟩ := hprobed
      exact ⟨sound_probed ⟨devId, call, rfl⟩, Nat.zero_le _,
        by simp [DeviceData.probed, DeviceData.openDevice],
        by simp [DeviceData.probed, DeviceData.openDevice],
        by simp [DeviceData.probed, DeviceData.openDevice]⟩
    · rintro dev dev' ⟨hsound, hrec⟩ hact
      exact ⟨hact.sound hsound, hact.recorded hsound hrec⟩
  exact fun dev hdev => (hboth dev hdev).2

theorem PoolEvolves.recorded {p : Nat} (h : PoolEvolves p s s') (hs : s.Sound D)
    (hr : s.Recorded D) : s'.Recorded D := by
  have hboth : ∀ dev ∈ s'.devList, dev.Sound D.unfresh ∧ dev.Recorded D.unfresh := by
    refine h.devs.invariant (fun dev hdev => ⟨(hs dev hdev).unfresh, (hr dev hdev).number,
      (hr dev hdev).populated, (hr dev hdev).rate, (hr dev hdev).current⟩)
      (fun _ hfalse => hfalse.elim) ?_
    rintro dev dev' ⟨hsound, hrec⟩ hact
    exact ⟨hact.sound hsound False.elim, hact.recorded hsound hrec⟩
  intro dev hdev
  have hrec := (hboth dev hdev).2
  exact ⟨hrec.number, hrec.populated, hrec.rate, hrec.current⟩

/-- What holds in every state of a run. -/
structure Good (D : Discipline) (s : System) : Prop where
  sound : s.Sound D
  groupsValid : s.GroupsValid
  probed : s.Probed
  recorded : s.Recorded D

theorem Evolves.good (hev : Evolves D s s') (h : s.Good D) : s'.Good D :=
  ⟨hev.sound h.sound, h.groupsValid.congr hev.groups hev.groupsV2, hev.frame.probed h.probed,
    hev.recorded h.sound h.recorded⟩

theorem Good.evolves (h : s.Good D) (hev : Develops D s s') : s'.Good D := hev.toEvolves.good h

theorem Good.poolEvolves {p : Nat} (h : s.Good D) (hev : PoolEvolves p s s')
    (hfresh : D.fresh → s.NoOrphan p) : s'.Good D :=
  ⟨hev.sound h.sound hfresh, h.groupsValid.congr hev.groups hev.groupsV2,
    hev.frame.probed h.probed, hev.recorded h.sound h.recorded⟩

theorem Good.relinquish (h : s.Good D) (p : Nat) : (s.resRelinquishCuPool p).1.Good D := by
  have hev := (resRelinquishCuPool_acts p s).evolves
  exact ⟨h.sound.resRelinquishCuPool p, h.groupsValid.congr hev.groups hev.groupsV2,
    hev.frame.probed h.probed, hev.recorded h.sound h.recorded⟩

theorem Good.recycle {c : Nat} (h : s.Good D) (hc : c ≠ 0) (hfree : D.metered → s.FreeBut c) :
    (s.recycleResource c).Good D := by
  have hev : Evolves D s (recycleDevices c (List.range s.numDevice) s 0) :=
    recycleDevices_evolves hc _ List.nodup_range s 0 h.sound
      fun hD _ _ dev hdev => hfree hD dev (List.mem_of_getElem? hdev)
  have hgood := hev.good h
  exact ⟨hgood.sound, hgood.groupsValid.congr rfl rfl, hgood.probed, hgood.recorded⟩

theorem Good.recycleAll {clients : List Nat} (h : s.Good D) (hclients : ∀ c ∈ clients, c ≠ 0)
    (hfree : D.metered → RecyclesFree clients s) : (clients.foldl recycleResource s).Good D := by
  induction clients generalizing s with
  | nil => exact h
  | cons c clients ih =>
      exact ih (h.recycle (hclients c (by simp)) fun hD => (hfree hD).1)
        (fun d hd => hclients d (by simp [hd])) fun hD => (hfree hD).2

theorem Good.reset (h : s.Good D) (env : XrtEnv) (devId : Nat)
    (hfree : D.metered → s.MeterOk (.resetDevice env devId)) :
    (s.resetDevice env devId).1.Good D := by
  rw [resetDevice]
  split
  · exact h
  rename_i dev hdev
  split
  · rename_i hhandle
    have hrecycled := h.recycleAll (clientsOn_ne_zero dev) fun hD => hfree hD dev hdev hhandle
    have hunload := unloadOneDevice_evolves D ((clientsOn dev).foldl recycleResource s) env devId ""
    simp only
    split
    · exact hrecycled.evolves hunload
    · rename_i dev' hdev'
      exact (hrecycled.evolves hunload).evolves
        (evolves_setDev hdev' (.single (.mark rfl rfl rfl rfl rfl (.congr rfl rfl rfl rfl rfl))))
  · exact h

theorem resAllocCuV2_evolves (hs : s.Sound D) {propV2 : CuPropertyV2} (updateId : Bool)
    (hsent : propV2.Received) (hok : D.covered → s.PolicyOk D propV2) :
    Develops D s (s.resAllocCuV2 propV2 updateId).1 := by
  rw [resAllocCuV2]
  split
  · exact evolves_refl D s
  split
  · rename_i hnull
    split
    · rename_i hpolicy
      refine resAllocCuByDevLoad_evolves hs propV2 updateId hsent ?_
      by_cases hD : D.covered
      · have hD := hok hD
        rwa [PolicyOk, if_pos hnull, if_pos hpolicy] at hD
      · exact devLoadOk_of_uncovered hD _ _ _ _
    · rename_i hpolicy
      split
      · rename_i hpolicy'
        refine resAllocCuByCuLoad_evolves hs propV2 updateId hsent fun hD => ?_
        have hD := hok hD
        rwa [PolicyOk, if_pos hnull, if_neg hpolicy, if_pos hpolicy'] at hD
      · exact (s.resAllocCu_allocates _ updateId).evolves hsent
  · rename_i hnull
    split
    · refine resAllocCuFromDevByCuLoad_evolves hs _ propV2 updateId hsent fun hD => ?_
      have hD := hok hD
      rwa [PolicyOk, if_neg hnull] at hD
    · exact evolves_refl D s

theorem listDevice_evolves (D : Discipline) (s : System) (env : XrtEnv) (devId : Nat) :
    Develops D s (s.listDevice env devId) := by
  rw [listDevice]
  split
  · exact evolves_refl D s
  rename_i dev hdev
  split
  · exact evolves_refl D s
  · refine evolves_setDev hdev (.single ?_)
    rw [DeviceData.openDevice]
    exact .mark rfl rfl rfl rfl rfl (.congr rfl rfl rfl rfl rfl)

/-! ## Every step keeps the devices in order -/

/-- The operations on the declared groups. -/
def declares : Op → Bool
  | .resUdfCuGroupDeclare _ => true
  | .resUdfCuGroupDeclareV2 _ => true
  | .resUdfCuGroupUndeclare _ => true
  | .resUdfCuGroupUndeclareV2 _ => true
  | _ => false

/-- What an operation of a command does: acts of allocations, releases and loads, acts on one
pool, or a change of the declared groups only. -/
inductive Moves (D : Discipline) (op : Op) (s s' : System) : Prop where
  | evolves (h : Evolves D s s')
  | pool {p : Nat} (h : PoolEvolves p s s') (hfresh : D.fresh → s.NoOrphan p)
  | relinquish {p : Nat} (h : s' = (s.resRelinquishCuPool p).1)
  | declare (hdeclares : declares op = true) (hdevs : s'.devList = s.devList)
      (hframe : Frame s s') (h : s'.GroupsValid)

theorem Moves.good {op : Op} (hm : Moves D op s s') (h : s.Good D) : s'.Good D := by
  cases hm with
  | evolves hev => exact hev.good h
  | pool hev hfresh => exact h.poolEvolves hev hfresh
  | relinquish heq => exact heq ▸ h.relinquish _
  | declare _ hdevs hframe hg =>
      exact ⟨by rw [Sound, hdevs]; exact h.sound, hg, hframe.probed h.probed,
        by rw [Recorded, hdevs]; exact h.recorded⟩

theorem Moves.frame {op : Op} (hm : Moves D op s s') : Frame s s' := by
  cases hm with
  | evolves hev => exact hev.frame
  | pool hev _ => exact hev.frame
  | relinquish heq => exact heq ▸ (resRelinquishCuPool_acts _ s).evolves.frame
  | declare _ _ hframe _ => exact hframe

theorem declare_frame (hdevs : s'.devList = s.devList)
    (hinited : s'.devicesInited = s.devicesInited) (hid : s'.clientId = s.clientId)
    (hnum : s'.numConcurrentClient = s.numConcurrentClient)
    (hlimit : s'.limitConcurrentClient = s.limitConcurrentClient) : Frame s s' :=
  ⟨by rw [Probed, Probed, hdevs, hinited]; exact id, hid, hnum, hlimit⟩

/-- The operations that load and allocate, and release what was allocated. -/
def acts : Op → Bool
  | .createContext => false
  | .recycleResource _ => false
  | .resetDevice _ _ => false
  | .resUdfCuGroupDeclare _ => false
  | .resUdfCuGroupDeclareV2 _ => false
  | .resUdfCuGroupUndeclare _ => false
  | .resUdfCuGroupUndeclareV2 _ => false
  | .resReserveCuPool _ => false
  | .resReserveCuPoolV2 _ => false
  | .resRelinquishCuPool _ => false
  | .resRelinquishCuPoolV2 _ => false
  | _ => true

theorem Good.develops {op : Op} (h : s.Good D) (hok : StepOk D s op) (hacts : acts op = true) :
    Develops D s (step s op) := by
  obtain ⟨hsent, hrefs, -, -, hgap⟩ := hok
  cases op with
  | getDeviceNumber env => exact initDevices_evolves D s env
  | listDevice env devId => exact listDevice_evolves D s env devId
  | loadDevices env entries => exact loadDevices_evolves s hgap entries ""
  | loadOneDevice env devId xclbin => exact loadOneDevice_evolves hgap devId xclbin "" h.sound
  | unloadOneDevice env devId => exact unloadOneDevice_evolves D s env devId ""
  | enableOneDevice env devId => exact enableOneDevice_evolves D s env devId ""
  | disableOneDevice env devId => exact disableOneDevice_evolves D s env devId ""
  | resAllocCu prop updateId => exact (s.resAllocCu_allocates prop updateId).evolves hsent
  | resAllocCuFromDev deviceId prop updateId =>
      exact (s.resAllocCuFromDev_allocates deviceId prop updateId).evolves hsent
  | resAllocLeastUsedCuFromDev deviceId prop updateId =>
      exact resAllocLeastUsedCuFromDev_evolves h.sound deviceId prop updateId hsent hrefs
  | resAllocCuV2 propV2 updateId => exact resAllocCuV2_evolves h.sound updateId hsent hrefs
  | resAllocCuWithLoad env prop xclbin updateId =>
      exact resAllocCuWithLoad_evolves h.sound hgap prop xclbin updateId hsent
  | resAllocCuLeastUsedWithLoad env prop xclbin updateId =>
      exact resAllocCuLeastUsedWithLoad_evolves h.sound hgap prop xclbin updateId hsent
  | resLoadAndAllocAllCu env xclbin clientId clientProcessId =>
      exact resLoadAndAllocAllCu_evolves h.sound hgap xclbin clientId clientProcessId hsent hrefs
  | resAllocCuList listProp => exact resAllocCuList_evolves D s listProp hsent
  | resAllocCuListV2 listProp => exact resAllocCuListV2_evolves D s listProp hsent
  | resAllocCuGroup groupProp => exact resAllocCuGroup_evolves D h.groupsValid hsent
  | resAllocCuGroupV2 groupProp => exact resAllocCuGroupV2_evolves D h.groupsValid hsent
  | resReleaseCu res => exact resReleaseCu_evolves D s hsent
  | resReleaseCuList listRes => exact releaseList_evolves D _ s listRes hsent
  | resReleaseCuListV2 listRes => exact releaseList_evolves D _ s listRes hsent
  | resReleaseCuGroup groupRes => exact releaseList_evolves D _ s groupRes hsent
  | resReleaseCuGroupV2 groupRes => exact releaseList_evolves D _ s groupRes hsent
  | _ => simp [acts] at hacts

/-- An operation of a command under the discipline. -/
theorem Good.moves {op : Op} (h : s.Good D) (hok : StepOk D s op) (hcmd : op.commanded = true) :
    Moves D op s (step s op) := by
  by_cases hacts : acts op = true
  · exact .evolves (h.develops hok hacts).toEvolves
  obtain ⟨hsent, -, hfresh, -, -⟩ := hok
  cases op with
  | createContext => simp [Op.commanded] at hcmd
  | recycleResource clientId => simp [Op.commanded] at hcmd
  | resetDevice env devId => simp [Op.commanded] at hcmd
  | resUdfCuGroupDeclare info =>
      refine .declare rfl ?_ (declare_frame ?_ ?_ ?_ ?_ ?_) (h.groupsValid.declare hsent) <;>
      · simp only [step, resUdfCuGroupDeclare]
        split <;> rfl
  | resUdfCuGroupDeclareV2 info =>
      refine .declare rfl ?_ (declare_frame ?_ ?_ ?_ ?_ ?_) (h.groupsValid.declareV2 hsent) <;>
      · simp only [step, resUdfCuGroupDeclareV2]
        split <;> rfl
  | resUdfCuGroupUndeclare name =>
      refine .declare rfl ?_ (declare_frame ?_ ?_ ?_ ?_ ?_) (h.groupsValid.undeclare name) <;>
      · simp only [step, resUdfCuGroupUndeclare]
        split <;> rfl
  | resUdfCuGroupUndeclareV2 name =>
      refine .declare rfl ?_ (declare_frame ?_ ?_ ?_ ?_ ?_) (h.groupsValid.undeclareV2 name) <;>
      · simp only [step, resUdfCuGroupUndeclareV2]
        split <;> rfl
  | resReserveCuPool poolProp =>
      exact .pool (resReserveCuPool_acts s poolProp hsent.1 hsent.2).evolves hfresh
  | resReserveCuPoolV2 poolProp =>
      exact .pool (resReserveCuPoolV2_acts s poolProp hsent.1 hsent.2).evolves hfresh
  | resRelinquishCuPool reservePoolId => exact .relinquish rfl
  | resRelinquishCuPoolV2 reservePoolId => exact .relinquish rfl
  | _ => exact absurd rfl hacts

theorem createContext_devList (s : System) : s.createContext.1.devList = s.devList ∧
    s.createContext.1.devicesInited = s.devicesInited ∧
      s.createContext.1.udfCuGroups = s.udfCuGroups ∧
        s.createContext.1.udfCuGroupsV2 = s.udfCuGroupsV2 := by
  rw [createContext]
  split <;> exact ⟨rfl, rfl, rfl, rfl⟩

theorem Good.createContext (h : s.Good D) : s.createContext.1.Good D := by
  obtain ⟨hdevs, hinited, hg, hg'⟩ := s.createContext_devList
  exact ⟨by rw [Sound, hdevs]; exact h.sound, h.groupsValid.congr hg hg',
    by rw [Probed, hdevs, hinited]; exact h.probed, by rw [Recorded, hdevs]; exact h.recorded⟩

/-- The step lemma: an operation under the discipline keeps everything in order. -/
theorem Good.next {op : Op} (h : s.Good D) (hok : StepOk D s op) : (step s op).Good D := by
  cases hcmd : op.commanded with
  | true => exact (h.moves hok hcmd).good h
  | false =>
      cases op with
      | createContext => exact h.createContext
      | recycleResource clientId => exact h.recycle hok.sent hok.metered
      | resetDevice env devId => exact h.reset env devId hok.metered
      | _ => simp [Op.commanded] at hcmd

/-- The run lemma: every reachable state is in order. -/
theorem Reachable.good {limit : Nat} (h : Reachable D limit s) : s.Good D := by
  refine Transition.Reaches.invariant h ?_ fun _ _ hgood hok => hgood.next hok
  exact ⟨by simp [Sound, initSystem], ⟨by simp [initSystem], by simp [initSystem]⟩, fun _ => rfl,
    by simp [Recorded, initSystem]⟩

/-! ## The states inside an operation -/

/-- The states that an operation passes through: the devices have evolved by acts of
allocations, releases and loads, or by acts on one pool. -/
inductive Within (D : Discipline) (s : System) : System → Prop where
  | evolves {s' : System} (h : Evolves D s s') : Within D s s'
  | pool {s' : System} {p : Nat} (h : PoolEvolves p s s') : Within D s s'

theorem Within.refl (D : Discipline) (s : System) : s.Within D s := .evolves (Evolves.refl D s)

theorem Within.good {limit : Nat} (hin : s.Within D s') (hF : ¬D.fresh)
    (h : Reachable D limit s) : s'.Good D := by
  cases hin with
  | evolves hev => exact hev.good h.good
  | pool hev => exact h.good.poolEvolves hev fun hD => absurd hD hF

end System

end Xrm
