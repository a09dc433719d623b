import Xrm.Verification.Runs

/-! # The labels of the devices

The load record of a device carries its place in the device table, and no operation changes it.
What a device says about the xclbin it is loaded with, and whether it is disabled, only changes
where it is loaded or cleared.
-/

namespace Xrm

namespace DeviceData

/-! ## One device -/

section Follows

variable {dev dev' : DeviceData} {prop : CuProperty}

theorem updateDeviceLoad_follows (dev : DeviceData) (change set : Int) :
    Follows dev (dev.updateDeviceLoad change set) := ⟨rfl, fun h => ⟨h.unloaded, h.loaded⟩⟩

/-- A change of the tables and of the load. -/
theorem Follows.relist (dev : DeviceData) (procs : List ClientData) (cus : List CuData)
    (change set : Int) : Follows dev
      ({ dev with clientProcs := procs, cuList := cus }.updateDeviceLoad change set) := by
  rw [updateDeviceLoad]
  exact ⟨rfl, fun h => ⟨h.unloaded, h.loaded⟩⟩

theorem registered_follows (h : dev.allocClientFromDev prop = .ok dev') : Follows dev dev' := by
  rw [(allocClientFromDev_spec h).frame]
  exact ⟨rfl, fun h => ⟨h.unloaded, h.loaded⟩⟩

theorem dropClient_follows (dev : DeviceData) (c : Nat) : Follows dev (dev.dropClient c) := by
  rw [(dev.dropClient_spec c).frame]
  exact ⟨rfl, fun h => ⟨h.unloaded, h.loaded⟩⟩

theorem grant_follows (dev : DeviceData) (prop : CuProperty) (cuId : Nat) (cu : CuData) :
    Follows dev (dev.grant prop cuId cu) := by
  rw [grant]
  split <;> exact ⟨rfl, fun h => ⟨h.unloaded, h.loaded⟩⟩

/-! ### Releasing -/

theorem returnLoad_follows (dev : DeviceData) (cu : CuData) (p : Nat) (load : Int) :
    Follows dev (dev.returnLoad cu p load).1 := by
  rw [returnLoad]
  split
  · split
    · split
      · exact .refl dev
      · exact updateDeviceLoad_follows dev _ _
    · exact updateDeviceLoad_follows dev _ _
  · exact updateDeviceLoad_follows dev _ _

theorem releaseChannels_follows (res : CuResource) (chans : List ChannelData) (dev : DeviceData)
    (cu : CuData) : Follows dev (releaseChannels res chans dev cu).dev := by
  induction chans generalizing dev cu with
  | nil => exact .refl dev
  | cons chan chans ih =>
      rw [releaseChannels]
      split
      · exact ((returnLoad_follows dev cu _ _).trans (dropClient_follows _ _)).trans (ih _ _)
      · exact ih _ _

theorem releaseCu_follows (dev : DeviceData) (cuId : Nat) (cu : CuData) (res : CuResource) :
    Follows dev (dev.releaseCu cuId cu res).1 := by
  have hscan := releaseChannels_follows res cu.channels dev cu
  exact ⟨hscan.number, fun h => ⟨(hscan.labelled h).unloaded, (hscan.labelled h).loaded⟩⟩

theorem releaseClientChannels_follows (c : Nat) (chans : List ChannelData) (dev : DeviceData)
    (cu : CuData) : Follows dev (releaseClientChannels c chans dev cu).1 := by
  induction chans generalizing dev cu with
  | nil => exact .refl dev
  | cons chan chans ih =>
      rw [releaseClientChannels]
      split
      · exact ih _ _
      · refine Follows.trans ?_ (ih _ _)
        split
        · exact updateDeviceLoad_follows dev _ _
        · split
          · exact .refl dev
          · exact updateDeviceLoad_follows dev _ _

theorem releaseAllOnCu_follows (c : Nat) (dev : DeviceData) (cu : CuData) :
    Follows dev (releaseAllOnCu c dev cu).1 := by
  rw [releaseAllOnCu]
  split
  · exact .refl dev
  · exact releaseClientChannels_follows c _ _ _

theorem releaseAllOnCus_follows (c : Nat) (cus : List CuData) (dev : DeviceData) :
    Follows dev (releaseAllOnCus c cus dev).1 := by
  induction cus generalizing dev with
  | nil => exact .refl dev
  | cons cu cus ih => exact (releaseAllOnCu_follows c dev cu).trans (ih _)

theorem releaseAllCuChanClientOnDev_follows (dev : DeviceData) (c : Nat) :
    Follows dev (dev.releaseAllCuChanClientOnDev c) := by
  have hcus := releaseAllOnCus_follows c dev.cuList dev
  exact ⟨hcus.number, fun h => ⟨(hcus.labelled h).unloaded, (hcus.labelled h).loaded⟩⟩

theorem emptied_follows (dev : DeviceData) (c : Nat) : Follows dev
    { dev.releaseAllCuChanClientOnDev c with
      isExcl := false
      clientProcs := List.replicate maxDevClients ClientData.zero } := by
  have hall := releaseAllCuChanClientOnDev_follows dev c
  exact ⟨hall.number, fun h => ⟨(hall.labelled h).unloaded, (hall.labelled h).loaded⟩⟩

theorem recycleEntries_follows (c rounds i : Nat) (dev : DeviceData) :
    Follows dev (recycleEntries c rounds i dev) := by
  induction rounds generalizing i dev with
  | zero => exact .refl dev
  | succ rounds ih =>
      rw [recycleEntries]
      simp only
      split
      · have hall := releaseAllCuChanClientOnDev_follows dev c
        have hentry : Follows dev { dev.releaseAllCuChanClientOnDev c with
            clientProcs := (dev.releaseAllCuChanClientOnDev c).clientProcs.set i
              ClientData.zero } :=
          ⟨hall.number, fun h => ⟨(hall.labelled h).unloaded, (hall.labelled h).loaded⟩⟩
        exact hentry.trans (ih _ _)
      · exact ih _ _

/-! ### Pools -/

theorem reservePass_follows {p : Nat} {wanted : CuData → Bool}
    (h : dev.reservePass p prop wanted = some dev') : Follows dev dev' := by
  rw [reservePass, Option.map_eq_some_iff] at h
  obtain ⟨cus, -, rfl⟩ := h
  exact ⟨rfl, fun h => ⟨h.unloaded, h.loaded⟩⟩

theorem reserveAll_follows (dev : DeviceData) (p c : Nat) (pid : Int) :
    Follows dev (dev.reserveAll p c pid) := by
  rw [reserveAll]
  exact .relist dev _ _ _ _

theorem allocAllCu_follows (dev : DeviceData) (svc c : Nat) (pid : Int) :
    Follows dev (dev.allocAllCu svc c pid) := by
  rw [allocAllCu]
  exact .relist dev _ _ _ _

theorem relinquishCus_follows (p : Nat) (cus : List CuData) (dev : DeviceData) :
    Follows dev (relinquishCus p cus dev).1 := by
  induction cus generalizing dev with
  | nil => exact .refl dev
  | cons cu cus ih =>
      rw [relinquishCus]
      split
      · exact ih dev
      · split
        · exact .refl dev
        · exact (updateDeviceLoad_follows dev _ _).trans (ih _)

theorem relinquishDev_follows (dev : DeviceData) (p : Nat) :
    Follows dev (dev.relinquishDev p).1 := by
  rw [relinquishDev]
  split
  · exact .refl dev
  · have hcus := relinquishCus_follows p dev.cuList dev
    exact ⟨hcus.number, fun h => ⟨(hcus.labelled h).unloaded, (hcus.labelled h).loaded⟩⟩

theorem relinquishCuFromDev_follows {p : Nat} (h : dev.relinquishCuFromDev p prop = .ok dev') :
    Follows dev dev' := by
  rw [relinquishCuFromDev] at h
  split at h
  · simp at h
  split at h
  · simp at h
  split at h
  · simp at h
  split at h
  · simp at h
  · rw [Except.ok.injEq] at h
    subst h
    exact ⟨rfl, fun h => ⟨h.unloaded, h.loaded⟩⟩

/-! ### Every act -/

/-- The step lemma: every act of an allocation, a release or a load keeps the number of the device
and its labels. -/
theorem Work.follows {D : Discipline} (h : Work D dev dev') : Follows dev dev' := by
  cases h with
  | touch _ _ hreg => exact (registered_follows hreg).trans (dropClient_follows _ _)
  | grab _ _ hreg _ _ => exact (registered_follows hreg).trans (grant_follows _ _ _ _)
  | leak _ _ _ hreg => exact registered_follows hreg
  | steal _ _ _ _ _ => exact grant_follows _ _ _ _
  | overRelease _ _ => exact dropClient_follows _ _
  | takeAll _ _ _ _ _ => exact allocAllCu_follows _ _ _ _
  | release _ _ _ => exact releaseCu_follows _ _ _ _
  | clear _ _ _ _ _ hlabels => exact hlabels
  | load _ _ _ _ _ _ _ _ _ hlabels => exact hlabels
  | mark _ _ _ _ _ hlabels => exact hlabels

/-- So does every act on a pool. -/
theorem PoolActBy.follows {Q : Nat → Prop} {p : Nat} (h : PoolActBy Q p dev dev') :
    Follows dev dev' := by
  cases h with
  | charge _ hpass _ => exact reservePass_follows hpass
  | reserveAll _ _ _ => exact reserveAll_follows _ _ _ _
  | relinquish => exact relinquishDev_follows _ _
  | undo hundo => exact relinquishCuFromDev_follows hundo

end Follows

end DeviceData

namespace System

variable {s s' : System} {p : Nat}

/-! ## The table -/

/-- Every device carries its place in the table. -/
def Numbered (s : System) : Prop :=
  ∀ (i : Nat) (dev : DeviceData), s.devList[i]? = some dev → dev.devLoadInfo.deviceId = i

/-- Every device carries its place in the table, and its labels are right. -/
def Labelled (s : System) : Prop :=
  ∀ (i : Nat) (dev : DeviceData), s.devList[i]? = some dev →
    dev.devLoadInfo.deviceId = i ∧ dev.Labelled

namespace Labelled

theorem congr (h : s.Labelled) (hdevs : s'.devList = s.devList) : s'.Labelled := by
  rw [Labelled, hdevs]
  exact h

theorem setDev (h : s.Labelled) {i : Nat} {dev dev' : DeviceData}
    (hdev : s.devList[i]? = some dev) (hfollows : dev.Follows dev') :
    (s.setDev i dev').Labelled := by
  intro j x hx
  by_cases hij : i = j
  · subst hij
    rw [getElem?_setDev_self hdev dev', Option.some.injEq] at hx
    obtain ⟨hnum, hlab⟩ := h i dev hdev
    rw [← hx]
    exact ⟨hfollows.number.trans hnum, hfollows.labelled hlab⟩
  · rw [getElem?_setDev_ne hij] at hx
    exact h j x hx

/-- Allocations, releases and loads keep the labels right. -/
theorem develops {D : Discipline} (h : s.Labelled) (hev : Develops D s s') : s'.Labelled := by
  refine hev.origins.invariant h ?_ fun i dev dev' hdev hwork => ?_
  · rintro i _ ⟨call, rfl⟩
    exact ⟨rfl, fun _ => rfl, by simp [DeviceData.probed, DeviceData.openDevice]⟩
  · exact ⟨hwork.follows.number.trans hdev.1, hwork.follows.labelled hdev.2⟩

/-- Reservations keep the labels right, and so does the end of one. -/
theorem poolActs (h : s.Labelled) (hacts : PoolActs p s s') : s'.Labelled := by
  induction hacts with
  | refl => exact h
  | tail _ hstep ih =>
      cases hstep with
      | act hdev hact => exact ih.setDev hdev hact.follows
      | updateId => exact ih

theorem initDevices (h : s.Labelled) (env : XrtEnv) : (s.initDevices env).Labelled :=
  h.develops (initDevices_evolves allRuns s env)

theorem deviceLoadXclbin (h : s.Labelled) (env : XrtEnv) (attempt devId : Nat)
    (xclbin errmsg : String) : (s.deviceLoadXclbin env attempt devId xclbin errmsg).1.Labelled :=
  h.develops (deviceLoadXclbin_evolves s (fun hD : allRuns.gapless => hD.elim) attempt devId
    xclbin errmsg)

/-! ### Recycling -/

theorem recycleDevices (h : s.Labelled) (c : Nat) (devIds : List Nat) (tmpSum : Int) :
    (System.recycleDevices c devIds s tmpSum).Labelled := by
  induction devIds generalizing s tmpSum with
  | nil => exact h
  | cons devId devIds ih =>
      rw [System.recycleDevices]
      split
      · exact ih h _
      rename_i dev hdev
      split
      · exact ih h _
      have hnum := DeviceData.Follows.relist dev dev.clientProcs
        (DeviceData.recycleReserves c dev.cuList tmpSum).1
        (DeviceData.recycleReserves c dev.cuList tmpSum).2 0
      simp only
      generalize DeviceData.updateDeviceLoad
        { dev with cuList := (DeviceData.recycleReserves c dev.cuList tmpSum).1 }
        (DeviceData.recycleReserves c dev.cuList tmpSum).2 0 = dev₁ at hnum ⊢
      split
      · split
        · exact h.setDev hdev hnum
        split
        · refine ih (h.setDev hdev ?_) _
          exact hnum.trans (dev₁.emptied_follows c)
        · exact ih (h.setDev hdev hnum) _
      · exact ih (h.setDev hdev (hnum.trans (DeviceData.recycleEntries_follows c _ _ dev₁))) _

theorem recycleResource (h : s.Labelled) (c : Nat) : (s.recycleResource c).Labelled :=
  h.recycleDevices c (List.range s.numDevice) 0

theorem resetDevice (h : s.Labelled) (env : XrtEnv) (devId : Nat) :
    (s.resetDevice env devId).1.Labelled := by
  have hclients : ∀ clients : List Nat, ∀ s : System, s.Labelled →
      (clients.foldl System.recycleResource s).Labelled := by
    intro clients
    induction clients with
    | nil => exact fun _ hs => hs
    | cons c clients ih => exact fun _ hs => ih _ (hs.recycleResource c)
  rw [System.resetDevice]
  split
  · exact h
  rename_i dev _
  split
  · have hunload := (hclients (clientsOn dev) s h).develops
      (unloadOneDevice_evolves allRuns _ env devId "")
    simp only
    split
    · exact hunload
    · rename_i dev' hdev'
      exact hunload.setDev hdev' (.congr rfl rfl rfl rfl rfl)
  · exact h

/-! ### Every step -/

/-- The step lemma: an operation under the discipline keeps the labels of the devices right. -/
theorem next {D : Discipline} {op : Op} (h : s.Labelled) (hgood : s.Good D)
    (hok : StepOk D s op) : (step s op).Labelled := by
  by_cases hacts : acts op = true
  · exact h.develops (hgood.develops hok hacts)
  obtain ⟨hsent, -⟩ := hok
  cases op with
  | createContext => exact h.congr s.createContext_devList.1
  | recycleResource clientId => exact h.recycleResource clientId
  | resetDevice env devId => exact h.resetDevice env devId
  | resUdfCuGroupDeclare info =>
      refine h.congr ?_
      simp only [step, resUdfCuGroupDeclare]
      split <;> rfl
  | resUdfCuGroupDeclareV2 info =>
      refine h.congr ?_
      simp only [step, resUdfCuGroupDeclareV2]
      split <;> rfl
  | resUdfCuGroupUndeclare name =>
      refine h.congr ?_
      simp only [step, resUdfCuGroupUndeclare]
      split <;> rfl
  | resUdfCuGroupUndeclareV2 name =>
      refine h.congr ?_
      simp only [step, resUdfCuGroupUndeclareV2]
      split <;> rfl
  | resReserveCuPool poolProp =>
      exact h.poolActs (resReserveCuPool_acts s poolProp hsent.1 hsent.2)
  | resReserveCuPoolV2 poolProp =>
      exact h.poolActs (resReserveCuPoolV2_acts s poolProp hsent.1 hsent.2)
  | resRelinquishCuPool reservePoolId => exact h.poolActs (resRelinquishCuPool_acts reservePoolId s)
  | resRelinquishCuPoolV2 reservePoolId =>
      exact h.poolActs (resRelinquishCuPool_acts reservePoolId s)
  | _ => exact absurd rfl hacts

end Labelled

/-- The run lemma: in every reachable state each device carries its place in the table, and its
labels are right. -/
theorem Reachable.labelled {D : Discipline} {limit : Nat} (h : Reachable D limit s) :
    s.Labelled := by
  have hboth : s.Good D ∧ s.Labelled := by
    refine Transition.Reaches.invariant (I := fun s : System => s.Good D ∧ s.Labelled) h ?_ ?_
    · exact ⟨@Reachable.good D _ limit .refl, by simp [Labelled, initSystem]⟩
    · exact fun s op hs hok => ⟨hs.1.next hok, hs.2.next hs.1 hok⟩
  exact hboth.2

theorem Labelled.numbered (h : s.Labelled) : s.Numbered := fun i dev hdev => (h i dev hdev).1

theorem Reachable.numbered {D : Discipline} {limit : Nat} (h : Reachable D limit s) :
    s.Numbered := h.labelled.numbered

/-- The numbers of the devices, in the order of the table. -/
theorem Numbered.deviceIds (h : s.Numbered) :
    s.devList.map (·.devLoadInfo.deviceId) = List.range s.numDevice := by
  apply List.ext_getElem
  · simp [numDevice]
  · intro i hi _
    rw [List.length_map] at hi
    rw [List.getElem_map, List.getElem_range]
    exact h i _ (List.getElem?_eq_getElem hi)

end System

end Xrm
