import Xrm.Verification.GivingBack
import Xrm.Verification.Loans

/-! # Releases of any record

What a release does with a record of the wire, whatever its fields say. Free channels carry ids
as well, all of them zero, and a record of zeros names them.
-/

namespace Xrm

open FixedTable

namespace System

variable {s s' : System} {res : CuResource}

/-! ## The channel that a record names -/

/-- The record is for this CU of this loaded device. -/
structure For (s : System) (res : CuResource) (dev : DeviceData) (cu : CuData) : Prop where
  deviceId : 0 ≤ res.deviceId
  device : s.devList[res.deviceId.toNat]? = some dev
  loaded : dev.isLoaded = true
  cuId : 0 ≤ res.cuId
  cu : dev.cuList[res.cuId.toNat]? = some cu

theorem For.unique {dev dev' : DeviceData} {cu cu' : CuData} (h : s.For res dev cu)
    (h' : s.For res dev' cu') : dev = dev' ∧ cu = cu' := by
  have hdev := h.device
  rw [h'.device, Option.some.injEq] at hdev
  subst hdev
  have hcu := h.cu
  rw [h'.cu, Option.some.injEq] at hcu
  exact ⟨rfl, hcu.symm⟩

/-- The record names the live channel `i`: same device, CU, channel, service, pool and client. -/
def NamesLive (s : System) (res : CuResource) (i : Nat) : Prop :=
  ∃ dev cu chan, s.For res dev cu ∧ cu.channels[i]? = some chan ∧ res.names chan = true ∧
    chan.clientId ≠ 0

/-- The record names a free channel. -/
def NamesFree (s : System) (res : CuResource) : Prop :=
  ∃ dev cu, s.For res dev cu ∧ ∃ chan ∈ cu.channels, res.names chan = true ∧ chan.clientId = 0

/-- Channel `i` of the record's CU is free now, everything else is as it was: the other devices,
CUs and channels, and the tables of the CU agree with its channels. -/
def Frees (s s' : System) (res : CuResource) (i : Nat) : Prop :=
  ∃ dev dev' cu cu', s.For res dev cu ∧ s' = s.setDev res.deviceId.toNat dev' ∧
    dev'.cuList = dev.cuList.set res.cuId.toNat cu' ∧ cu'.Consistent ∧
      cu'.channels = cu.channels.modify i ChannelData.clear ∧
        cu'.numChanInuse = cu.numChanInuse - 1

/-- A release of the record acts on live channels only: it succeeds when the record names one and
frees that one, and otherwise changes nothing; a second release changes nothing either. -/
structure ReleasesExactly (s : System) (res : CuResource) : Prop where
  success : (s.resReleaseCu res).2 = .ok () ↔ ∃ i, s.NamesLive res i
  frees : ∀ i, s.NamesLive res i → s.Frees (s.resReleaseCu res).1 res i
  refused : (¬∃ i, s.NamesLive res i) → (s.resReleaseCu res).1 = s
  again : ((s.resReleaseCu res).1.resReleaseCu res).1 = (s.resReleaseCu res).1

/-! ## One release -/

/-- The channels of all CUs are numbered in order. -/
def Ordered (s : System) : Prop := ∀ dev ∈ s.devList, ∀ cu ∈ dev.cuList, cu.InOrder

theorem Good.ordered (h : s.Good gaplessRuns) : s.Ordered := fun dev hdev cu hcu =>
  (h.sound dev hdev).numbered cu hcu (.inr trivial)

/-- A record that names a channel passes the checks. -/
theorem release_eq (h : s.Good gaplessRuns) {dev : DeviceData} {cu : CuData}
    (hfor : s.For res dev cu) {chan : ChannelData} (hchan : chan ∈ cu.channels)
    (hn : res.names chan = true) :
    s.resReleaseCu res =
      (s.setDev res.deviceId.toNat (dev.releaseCu res.cuId.toNat cu res).1,
        (dev.releaseCu res.cuId.toNat cu res).2) := by
  have hmem := List.mem_of_getElem? hfor.device
  have hcumem := List.mem_of_getElem? hfor.cu
  obtain ⟨i, hi⟩ := List.getElem?_of_mem hchan
  have hid := (h.ordered dev hmem cu hcumem).channelId hi
  have hlen := ((h.sound dev hmem).consistent cu hcumem).channels.length
  have hlt := (List.getElem?_eq_some_iff.mp hi).1
  have hnamed := (CuResource.names_iff.mp hn).2.2.2
  exact Lends.resReleaseCu_eq ⟨hfor.deviceId, hfor.cuId, by omega⟩ hfor.device hfor.loaded hfor.cu
    (h.recorded dev hmem).number (by simp only [CuResource.place]; omega)

/-- A release that succeeds names a channel. -/
theorem for_of_released (hok : (s.resReleaseCu res).2 = .ok ()) :
    ∃ dev cu, s.For res dev cu ∧ ∃ chan ∈ cu.channels, res.names chan = true := by
  rw [resReleaseCu] at hok
  split at hok
  · simp at hok
  rename_i hdevId
  split at hok
  · simp at hok
  rename_i hcuId
  split at hok
  · simp at hok
  split at hok
  · simp at hok
  rename_i dev hdev
  split at hok
  · simp at hok
  rename_i hload
  split at hok
  · simp at hok
  rename_i cu hcu
  refine ⟨dev, cu, ⟨by omega, hdev, by simpa using hload, by omega, hcu⟩, ?_⟩
  rw [DeviceData.releaseCu, DeviceData.released_eq] at hok
  by_cases hany : cu.channels.any res.names = true
  · exact List.any_eq_true.mp hany
  · rw [if_neg hany] at hok
    simp at hok

theorem released_iff (h : s.Good gaplessRuns) (res : CuResource) :
    (s.resReleaseCu res).2 = .ok () ↔
      ∃ dev cu, s.For res dev cu ∧ ∃ chan ∈ cu.channels, res.names chan = true := by
  constructor
  · exact for_of_released
  · rintro ⟨dev, cu, hfor, chan, hchan, hn⟩
    have hany : cu.channels.any res.names = true := List.any_eq_true.mpr ⟨chan, hchan, hn⟩
    rw [release_eq h hfor hchan hn]
    simp only [DeviceData.releaseCu, DeviceData.released_eq, hany, if_true]

theorem NamesLive.clientId {i : Nat} (h : s.NamesLive res i) : res.clientId ≠ 0 := by
  obtain ⟨dev, cu, chan, -, -, hn, hlive⟩ := h
  rwa [← (CuResource.names_iff.mp hn).2.2.1]

theorem NamesFree.clientId (h : s.NamesFree res) : res.clientId = 0 := by
  obtain ⟨dev, cu, -, chan, -, hn, hfree⟩ := h
  rwa [← (CuResource.names_iff.mp hn).2.2.1]

/-- A named channel is live or free. -/
theorem names_iff_live_or_free (s : System) (res : CuResource) :
    (∃ dev cu, s.For res dev cu ∧ ∃ chan ∈ cu.channels, res.names chan = true) ↔
      (∃ i, s.NamesLive res i) ∨ s.NamesFree res := by
  constructor
  · rintro ⟨dev, cu, hfor, chan, hchan, hn⟩
    by_cases hc : chan.clientId = 0
    · exact .inr ⟨dev, cu, hfor, chan, hchan, hn, hc⟩
    · obtain ⟨i, hi⟩ := List.getElem?_of_mem hchan
      exact .inl ⟨i, dev, cu, chan, hfor, hi, hn, hc⟩
  · rintro (⟨i, dev, cu, chan, hfor, hi, hn, -⟩ | ⟨dev, cu, hfor, chan, hchan, hn, -⟩)
    · exact ⟨dev, cu, hfor, chan, List.mem_of_getElem? hi, hn⟩
    · exact ⟨dev, cu, hfor, chan, hchan, hn⟩

/-- A release that does not succeed changes nothing. -/
theorem release_same (h : s.Good gaplessRuns) (hno : (s.resReleaseCu res).2 ≠ .ok ()) :
    (s.resReleaseCu res).1 = s := by
  cases hret : (s.resReleaseCu res).2 with
  | ok u => exact absurd hret hno
  | error e => exact (h.sound.attached.release res).2 e hret

/-- The named channel is the only one that is cleared. -/
theorem map_release_eq {cu : CuData} (horder : cu.InOrder) {i : Nat} {chan : ChannelData}
    (hi : cu.channels[i]? = some chan) (hn : res.names chan = true) :
    cu.channels.map res.release = cu.channels.modify i ChannelData.clear := by
  refine List.ext_getElem? fun j => ?_
  rw [List.getElem?_map, List.getElem?_modify]
  cases hj : cu.channels[j]? with
  | none => rfl
  | some x =>
      by_cases hij : i = j
      · subst hij
        rw [hi, Option.some.injEq] at hj
        subst hj
        simp [CuResource.release, hn]
      · have hnot : ¬res.names x = true := fun hnx =>
          hij (DeviceData.names_unique horder hi hn hj hnx).symm
        simp [CuResource.release, hnot, hij]

theorem inService_modify {chans : List ChannelData} {i : Nat} {chan : ChannelData}
    (hi : chans[i]? = some chan) (hlive : chan.clientId ≠ 0) :
    sumBy inService (chans.modify i ChannelData.clear) = sumBy inService chans - 1 := by
  obtain ⟨hlt, rfl⟩ := List.getElem?_eq_some_iff.mp hi
  rw [sumBy_modify _ _ _ _ hlt, inService, inService, if_pos hlive, ChannelData.clear_clientId,
    if_neg (by simp), add_zero]

/-- A release of a named live channel. -/
theorem NamesLive.frees (h : s.Good gaplessRuns) {i : Nat} (hlive : s.NamesLive res i) :
    s.Frees (s.resReleaseCu res).1 res i := by
  have hres := hlive.clientId
  obtain ⟨dev, cu, chan, hfor, hi, hn, hc⟩ := hlive
  have hmem := List.mem_of_getElem? hfor.device
  have hcumem := List.mem_of_getElem? hfor.cu
  have hcons := (h.sound dev hmem).consistent cu hcumem
  obtain ⟨cu', hreleased, hdev', -, -⟩ := dev.releaseCu_spec hcons hres res.cuId.toNat
  have hchans := hreleased.channels.trans (map_release_eq (h.ordered dev hmem cu hcumem) hi hn)
  rw [release_eq h hfor (List.mem_of_getElem? hi) hn]
  refine ⟨dev, _, cu, cu', hfor, rfl, ?_, hreleased.consistent, hchans, ?_⟩
  · rw [hdev']
    obtain ⟨hcus, -⟩ := DeviceData.releaseChannels_users res cu.channels dev cu
    simp [DeviceData.setCu, hcus]
  · rw [hreleased.consistent.channels.inUse, hcons.channels.inUse, hchans,
      inService_modify hi hc]

/-- The release again: what the record named is free, and the record is not one of zeros. -/
theorem NamesLive.again (h : s.Good gaplessRuns) {i : Nat} (hlive : s.NamesLive res i) :
    ((s.resReleaseCu res).1.resReleaseCu res).1 = (s.resReleaseCu res).1 := by
  have hres := hlive.clientId
  have hgood : (s.resReleaseCu res).1.Good gaplessRuns :=
    h.evolves (resReleaseCu_evolves gaplessRuns s hres)
  obtain ⟨dev, dev', cu, cu', hfor, hs', hcus, -, hchans, -⟩ := hlive.frees h
  obtain ⟨dev₁, cu₁, chan, hfor₁, hi, hn, -⟩ := hlive
  obtain ⟨rfl, rfl⟩ := hfor.unique hfor₁
  refine release_same hgood fun hok => ?_
  obtain ⟨dev₂, cu₂, hfor₂, x, hx, hnx⟩ := for_of_released hok
  have hdev₂ := hfor₂.device
  rw [hs', setDev, List.getElem?_set_self (List.getElem?_eq_some_iff.mp hfor.device).1,
    Option.some.injEq] at hdev₂
  subst hdev₂
  have hcu₂ := hfor₂.cu
  rw [hcus, List.getElem?_set_self (List.getElem?_eq_some_iff.mp hfor.cu).1,
    Option.some.injEq] at hcu₂
  subst hcu₂
  have hclient := (CuResource.names_iff.mp hnx).2.2.1
  rw [hchans] at hx
  obtain ⟨j, hj⟩ := List.getElem?_of_mem hx
  rw [List.getElem?_modify] at hj
  obtain ⟨y, hy, hyx⟩ := Option.map_eq_some_iff.mp hj
  by_cases hij : i = j
  · rw [if_pos hij] at hyx
    rw [← hyx, ChannelData.clear_clientId] at hclient
    exact hres hclient.symm
  · rw [if_neg hij] at hyx
    subst hyx
    have horder := h.ordered dev (List.mem_of_getElem? hfor.device) cu
      (List.mem_of_getElem? hfor.cu)
    exact hij (DeviceData.names_unique horder hi hn hy hnx).symm

/-- A release of the record does right exactly when it names no free channel. -/
theorem Good.releasesExactly_iff (h : s.Good gaplessRuns) (res : CuResource) :
    s.ReleasesExactly res ↔ ¬s.NamesFree res := by
  constructor
  · intro hexact hfree
    have hok := (released_iff h res).mpr ((names_iff_live_or_free s res).mpr (.inr hfree))
    obtain ⟨i, hlive⟩ := hexact.success.mp hok
    exact hlive.clientId hfree.clientId
  · intro hnot
    have hsuccess : (s.resReleaseCu res).2 = .ok () ↔ ∃ i, s.NamesLive res i := by
      rw [released_iff h, names_iff_live_or_free]
      exact or_iff_left hnot
    have hrefused : (¬∃ i, s.NamesLive res i) → (s.resReleaseCu res).1 = s :=
      fun hno => release_same h fun hok => hno (hsuccess.mp hok)
    refine ⟨hsuccess, fun i hlive => hlive.frees h, hrefused, ?_⟩
    by_cases hlive : ∃ i, s.NamesLive res i
    · obtain ⟨i, hi⟩ := hlive
      exact hi.again h
    · rw [hrefused hlive, hrefused hlive]

/-! ## Runs with releases of any record -/

/-- None of the records that a list release comes to names a free channel. -/
def ReleasesOk : List CuResource → System → Prop
  | [], _ => True
  | res :: rest, s => ¬s.NamesFree res ∧
      ((s.resReleaseCu res).2 = .ok () → ReleasesOk rest (s.resReleaseCu res).1)

/-- A step of a run in which the releases may have any record that names no free channel. -/
def ReleaseStepOk (s : System) : Op → Prop
  | .resReleaseCu res => ¬s.NamesFree res
  | .resReleaseCuList listRes => ReleasesOk (listRes.cuResources.take listRes.cuNum.toNat) s
  | .resReleaseCuListV2 listRes => ReleasesOk (listRes.cuResources.take listRes.cuNum.toNat) s
  | .resReleaseCuGroup groupRes => ReleasesOk (groupRes.cuResources.take groupRes.cuNum.toNat) s
  | .resReleaseCuGroupV2 groupRes => ReleasesOk (groupRes.cuResources.take groupRes.cuNum.toNat) s
  | op => StepOk gaplessRuns s op

/-- The states of these runs. -/
def ReachableReleasing (limit : Nat) : System → Prop :=
  Transition.Reaches step ReleaseStepOk (initSystem limit)

theorem Good.releaseAny (h : s.Good gaplessRuns) (hnot : ¬s.NamesFree res) :
    (s.resReleaseCu res).1.Good gaplessRuns := by
  by_cases hres : res.clientId = 0
  · rw [((h.releasesExactly_iff res).mpr hnot).refused]
    · exact h
    · rintro ⟨i, hlive⟩
      exact hlive.clientId hres
  · exact h.evolves (resReleaseCu_evolves gaplessRuns s hres)

theorem Good.releaseInOrder (l : List CuResource) (h : s.Good gaplessRuns)
    (hok : ReleasesOk l s) : (releaseInOrder l s).1.Good gaplessRuns := by
  induction l generalizing s with
  | nil => exact h
  | cons res rest ih =>
      have hone := h.releaseAny hok.1
      have hrest := hok.2
      rw [System.releaseInOrder]
      generalize s.resReleaseCu res = r at hone hrest ⊢
      obtain ⟨s₁, ret⟩ := r
      cases ret with
      | ok u => exact ih hone (hrest rfl)
      | error e => exact hone

theorem Good.releaseListAny (h : s.Good gaplessRuns) (maxNum : Nat) {listRes : CuListResource}
    (hok : ReleasesOk (listRes.cuResources.take listRes.cuNum.toNat) s) :
    (releaseList maxNum s listRes).1.Good gaplessRuns := by
  rw [releaseList]
  split
  · exact h
  · exact h.releaseInOrder _ hok

/-- The step lemma. -/
theorem Good.releaseStep {op : Op} (h : s.Good gaplessRuns) (hok : s.ReleaseStepOk op) :
    (step s op).Good gaplessRuns := by
  cases op with
  | resReleaseCu res => exact h.releaseAny hok
  | resReleaseCuList listRes => exact h.releaseListAny _ hok
  | resReleaseCuListV2 listRes => exact h.releaseListAny _ hok
  | resReleaseCuGroup groupRes => exact h.releaseListAny _ hok
  | resReleaseCuGroupV2 groupRes => exact h.releaseListAny _ hok
  | _ => exact h.next hok

/-- The run lemma. -/
theorem ReachableReleasing.good {limit : Nat} (h : ReachableReleasing limit s) :
    s.Good gaplessRuns := by
  have hinit : (initSystem limit).Good gaplessRuns := by
    have hrun : Reachable gaplessRuns limit (initSystem limit) := .refl
    exact hrun.good
  exact Transition.Reaches.invariant h hinit fun _ _ hgood hok => hgood.releaseStep hok

end System

namespace Scenario

/-- Client 1 holds a channel of the only CU. -/
def heldRun : List Op :=
  [.loadOneDevice (env 1 1) 0 "scaler.xclbin", .resAllocCu (request 1 0 500000) true]

end Scenario

namespace System

open Scenario

theorem reachableReleasing_heldRun : ReachableReleasing 8 (after heldRun) := by
  have hload : ∀ s : System, s.ReleaseStepOk (.loadOneDevice (env 1 1) 0 "scaler.xclbin") :=
    fun s => ⟨trivial, False.elim, False.elim, False.elim, fun _ => env_gapless 1 1⟩
  have halloc : ∀ s : System, s.ReleaseStepOk (.resAllocCu (request 1 0 500000) true) :=
    fun s => ⟨by decide, False.elim, False.elim, False.elim, fun _ => trivial⟩
  have hfirst : ReachableReleasing 8 (step (initSystem 8)
      (.loadOneDevice (env 1 1) 0 "scaler.xclbin")) := Transition.Reaches.next _ .refl (hload _)
  have hsecond : ReachableReleasing 8 (step (step (initSystem 8)
      (.loadOneDevice (env 1 1) 0 "scaler.xclbin")) (.resAllocCu (request 1 0 500000) true)) :=
    Transition.Reaches.next _ hfirst (halloc _)
  rw [after, heldRun, List.foldl_cons, List.foldl_cons, List.foldl_nil]
  exact hsecond

end System

end Xrm
