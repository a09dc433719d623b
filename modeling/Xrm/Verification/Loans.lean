import Xrm.Verification.DeviceLending
import Xrm.Verification.Following
import Xrm.Verification.Runs

/-! # Loans

The channels that allocations have taken since a state, and nothing else, set the later state
apart from it. Releasing one of them removes it from the list, so that in whatever order all are
released the earlier state comes back.
-/

namespace Xrm

open FixedTable

/-- Where the channel of the record is: device, CU and channel. -/
def CuResource.place (res : CuResource) : Nat × Nat × Nat :=
  (res.deviceId.toNat, res.cuId.toNat, res.channelId.toNat)

/-- A CU that a request with a name matches has a name. -/
theorem CuData.named_of_matches {cu : CuData} {prop : CuProperty} (hnamed : prop.unnamed = false)
    (hmatch : cu.matchesCu prop = true) : cu.Named := by
  have hempty : ∀ {given own : String}, CuData.nameEqual given own = true → own = "" →
      given = "" := by
    intro given own heq hown
    rw [CuData.nameEqual, hown, Bool.or_eq_true, beq_iff_eq, beq_iff_eq] at heq
    exact heq.elim id Eq.symm
  simp only [CuData.matchesCu, Bool.and_eq_true] at hmatch
  obtain ⟨⟨hkernel, halias⟩, hname⟩ := hmatch
  by_contra hno
  rw [CuData.Named] at hno
  push Not at hno
  obtain ⟨hkernel₀, halias₀, hname₀⟩ := hno
  simp [CuProperty.unnamed, hempty hkernel hkernel₀, hempty halias halias₀,
    hempty hname hname₀] at hnamed

namespace System

variable {D : Discipline} {s₀ s s' : System} {prop : CuProperty} {svc : Nat}

def channelAt (s : System) (place : Nat × Nat × Nat) : Option ChannelData := do
  let dev ← s.devList[place.1]?
  let cu ← dev.cuList[place.2.1]?
  cu.channels[place.2.2]?

theorem channelAt_eq {i j k : Nat} {dev : DeviceData} {cu : CuData}
    (hdev : s.devList[i]? = some dev) (hcu : dev.cuList[j]? = some cu) :
    s.channelAt (i, j, k) = cu.channels[k]? := by
  simp [channelAt, hdev, hcu]

theorem channelAt_eq_some {place : Nat × Nat × Nat} {chan : ChannelData}
    (h : s.channelAt place = some chan) : ∃ dev cu, s.devList[place.1]? = some dev ∧
      dev.cuList[place.2.1]? = some cu ∧ cu.channels[place.2.2]? = some chan := by
  simpa [channelAt, Option.bind_eq_some_iff] using h

theorem channelAt_setDev {i j : Nat} {dev dev' : DeviceData} {cu' : CuData}
    (hdev : s.devList[i]? = some dev) (hj : j < dev.cuList.length)
    (hcus : dev'.cuList = dev.cuList.set j cu') (place : Nat × Nat × Nat) :
    (s.setDev i dev').channelAt place =
      if place.1 = i ∧ place.2.1 = j then cu'.channels[place.2.2]? else s.channelAt place := by
  by_cases hi : place.1 = i
  · have hdev' := getElem?_setDev_self hdev dev'
    by_cases hj' : place.2.1 = j
    · rw [if_pos ⟨hi, hj'⟩, channelAt, hi, hdev', hj']
      simp [hcus, hj]
    · rw [if_neg fun h => hj' h.2, channelAt, channelAt, hi, hdev', hdev]
      simp [hcus, List.getElem?_set_ne (Ne.symm hj')]
  · rw [if_neg fun h => hi h.1, channelAt, channelAt, getElem?_setDev_ne (Ne.symm hi)]

/-- A change of one channel changes no other. -/
theorem channelAt_setDev_ne {i j k : Nat} {dev dev' : DeviceData} {cu cu' : CuData}
    (hdev : s.devList[i]? = some dev) (hcu : dev.cuList[j]? = some cu)
    (hcus : dev'.cuList = dev.cuList.set j cu')
    (hchans : ∀ k', k' ≠ k → cu'.channels[k']? = cu.channels[k']?) {place : Nat × Nat × Nat}
    (hne : place ≠ (i, j, k)) : (s.setDev i dev').channelAt place = s.channelAt place := by
  rw [channelAt_setDev hdev (List.getElem?_eq_some_iff.mp hcu).1 hcus]
  obtain ⟨i', j', k'⟩ := place
  split
  · rename_i hplace
    obtain ⟨rfl, rfl⟩ := hplace
    have hk : k' ≠ k := fun hk => hne (by rw [hk])
    rw [channelAt_eq hdev hcu]
    exact hchans k' hk
  · rfl

/-! ## What is on loan -/

/-- The record is about a channel that is free in `s`, on a CU whose channels are in order. -/
structure Lendable (s : System) (res : CuResource) : Prop where
  nonneg : 0 ≤ res.deviceId ∧ 0 ≤ res.cuId ∧ 0 ≤ res.channelId
  clientId : res.clientId ≠ 0
  free : ∃ chan, s.channelAt res.place = some chan ∧ chan.Free
  order : ∀ dev cu, s.devList[res.place.1]? = some dev → dev.cuList[res.place.2.1]? = some cu →
    cu.InOrder

/-- `s` is `s₀` with the channels of the records taken. -/
structure Lends (s₀ s : System) (lent : List CuResource) : Prop where
  frame : s = { s₀ with devList := s.devList }
  devs : List.Forall₂ DeviceData.Extends s₀.devList s.devList
  lendable : ∀ res ∈ lent, s₀.Lendable res
  named : ∀ res ∈ lent, ∃ chan, s.channelAt res.place = some chan ∧ res.names chan = true
  nodup : (lent.map (·.place)).Nodup
  others : ∀ place, place ∉ lent.map (·.place) → s.channelAt place = s₀.channelAt place

namespace Lends

variable {lent : List CuResource}

theorem refl (h : s.Sound D) : s.Lends s [] where
  frame := rfl
  devs := forall₂_refl fun dev hdev => .refl (h dev hdev)
  lendable := by simp
  named := by simp
  nodup := List.nodup_nil
  others := fun _ _ => rfl

theorem perm {lent' : List CuResource} (h : s₀.Lends s lent) (hp : lent.Perm lent') :
    s₀.Lends s lent' where
  frame := h.frame
  devs := h.devs
  lendable := fun res hres => h.lendable res (hp.mem_iff.mpr hres)
  named := fun res hres => h.named res (hp.mem_iff.mpr hres)
  nodup := (hp.map (·.place)).nodup_iff.mp h.nodup
  others := fun place hplace => h.others place fun hmem =>
    hplace ((hp.map (·.place)).mem_iff.mp hmem)

/-- When nothing is on loan any more, the earlier state is back. -/
theorem eq (h : s₀.Lends s []) (h₀ : s₀.Good D) : s = s₀ := by
  have hdevs : s.devList = s₀.devList := by
    refine forall₂_eq h.devs fun i dev₀ dev hdev₀ hdev hextends => ?_
    have hmem := List.mem_of_getElem? hdev₀
    refine hextends.eq (h₀.sound dev₀ hmem) (h₀.recorded dev₀ hmem).rate
      fun j cu₀ cu hcu₀ hcu => List.ext_getElem? fun k => ?_
    rw [← channelAt_eq hdev hcu, ← channelAt_eq hdev₀ hcu₀]
    exact h.others _ (by simp)
  rw [h.frame, hdevs]

theorem device (h : s₀.Lends s lent) {i : Nat} {dev : DeviceData}
    (hdev : s.devList[i]? = some dev) :
    ∃ dev₀, s₀.devList[i]? = some dev₀ ∧ dev₀.Extends dev := forall₂_getElem? h.devs hdev

theorem setDev (h : s₀.Lends s lent) {i : Nat} {dev₀ dev' : DeviceData}
    (hdev₀ : s₀.devList[i]? = some dev₀) (hextends : dev₀.Extends dev') :
    s.setDev i dev' = { s₀ with devList := (s.setDev i dev').devList } ∧
      List.Forall₂ DeviceData.Extends s₀.devList (s.setDev i dev').devList := by
  constructor
  · show { s with devList := s.devList.set i dev' } = _
    rw [h.frame]
    rfl
  · exact forall₂_set h.devs hdev₀ hextends

theorem inOrder_of_matches (hsound₀ : s₀.Sound D) {i j : Nat} {dev₀ : DeviceData} {cu₀ : CuData}
    (hdev₀ : s₀.devList[i]? = some dev₀) (hcu₀ : dev₀.cuList[j]? = some cu₀)
    (hnamed : prop.unnamed = false) (hmatch : cu₀.matchesCu prop = true) : cu₀.InOrder :=
  (hsound₀ dev₀ (List.mem_of_getElem? hdev₀)).numbered cu₀ (List.mem_of_getElem? hcu₀)
    (.inl (CuData.named_of_matches hnamed hmatch))

theorem grab (h : s₀.Lends s lent) (h₀ : s₀.Good D) {i : Nat} {dev dev' : DeviceData}
    {res : CuResource} (hs : prop.Received) (hsvc : svc ≠ 0) (hshared : prop.devExcl = false)
    (hnamed : prop.unnamed = false) (hdev : s.devList[i]? = some dev)
    (hg : DeviceData.Grab prop svc i dev dev' res) :
    s₀.Lends (s.setDev i dev') (res :: lent) := by
  obtain ⟨dev₁, policyInfo, cuId, cu', chanId, hreg, ⟨cu, pre, hcu, hmatch, halloc⟩, rfl, rfl⟩ := hg
  obtain ⟨dev₀, hdev₀, hextends⟩ := h.device hdev
  obtain ⟨cu₀, hcu₀, hcuExt⟩ := forall₂_getElem? hextends.cus hcu
  have hsound₀ := h₀.sound dev₀ (List.mem_of_getElem? hdev₀)
  obtain ⟨idx, hallocated⟩ := CuData.allocated_of_allocChan hcuExt.consistent halloc
  obtain ⟨hk, hfree⟩ := hallocated.free
  have hload : dev.isLoaded = true := by
    by_contra hl
    rw [hextends.isLoaded, Bool.not_eq_true] at hl
    rw [hsound₀.unloaded hl] at hcu₀
    simp at hcu₀
  have hgrab := hextends.grab hsound₀.shape hs hsvc hshared hload hreg hcu hallocated
  obtain ⟨hframe, hdevs⟩ := h.setDev hdev₀ hgrab
  have hcus : (dev₁.grant prop cuId cu').cuList = dev.cuList.set cuId cu' := by
    obtain ⟨info, hgrant⟩ := dev₁.grant_frame prop cuId cu'
    rw [hgrant, ← DeviceData.registered_cuList hreg]
    rfl
  have hj : cuId < dev.cuList.length := (List.getElem?_eq_some_iff.mp hcu).1
  have hchan := channelAt_setDev hdev hj hcus
  have hchans : cu'.channels = cu.channels.modify chanId (ChannelData.occupy prop svc) := by
    rw [hallocated.eq, CuData.assignChannel_channels]
  have hmatch₀ : cu₀.matchesCu prop = true := by
    rw [← hmatch, CuData.matchesCu, CuData.matchesCu, hcuExt.kin.toCuInfo]
  have horder₀ := inOrder_of_matches h₀.sound hdev₀ hcu₀ hnamed hmatch₀
  have horder : cu.InOrder := by
    rw [CuData.InOrder, hcuExt.kin.channelIds]
    exact horder₀
  have hat : s.channelAt (i, cuId, chanId) = some cu.channels[chanId] := by
    rw [channelAt_eq hdev hcu, List.getElem?_eq_getElem hk]
  -- a channel on loan is not free, so this one is not on loan
  have hnew : (i, cuId, chanId) ∉ lent.map (·.place) := by
    intro hmem
    obtain ⟨res, hres, hplace⟩ := List.mem_map.mp hmem
    obtain ⟨chan, hchan, hn⟩ := h.named res hres
    rw [hplace, hat, Option.some.injEq] at hchan
    rw [hchan] at hfree
    exact (h.lendable res hres).clientId
      ((CuResource.names_iff.mp hn).2.2.1.symm.trans hfree.clientId)
  have hat₀ : s₀.channelAt (i, cuId, chanId) = some cu.channels[chanId] := by
    rw [← h.others _ hnew, hat]
  have hother : ∀ {place}, place ≠ (i, cuId, chanId) →
      (s.setDev i (dev₁.grant prop cuId cu')).channelAt place = s.channelAt place := by
    refine channelAt_setDev_ne hdev hcu hcus fun k hk => ?_
    rw [hchans, List.getElem?_modify]
    simp [Ne.symm hk]
  have hplace : (dev₁.grantedResource i prop svc cuId cu' chanId).place = (i, cuId, chanId) := rfl
  refine ⟨hframe, hdevs, ?_, ?_, ?_, ?_⟩
  · intro res hres
    rcases List.mem_cons.mp hres with rfl | hres
    · refine ⟨⟨Int.natCast_nonneg _, Int.natCast_nonneg _, Int.natCast_nonneg _⟩, hs.1,
        ⟨_, hat₀, hfree⟩, fun dev cu hdev hcu => ?_⟩
      rw [hplace] at hdev hcu
      rw [hdev₀, Option.some.injEq] at hdev
      subst hdev
      rw [hcu₀, Option.some.injEq] at hcu
      rwa [← hcu]
    · exact h.lendable res hres
  · intro res hres
    rcases List.mem_cons.mp hres with rfl | hres
    · refine ⟨cu.channels[chanId].occupy prop svc, ?_, ?_⟩
      · rw [hplace, hchan, if_pos ⟨rfl, rfl⟩, hchans]
        simp [hk]
      · have hid := horder.channelId (List.getElem?_eq_getElem hk)
        refine CuResource.names_iff.mpr ⟨rfl, rfl, rfl, ?_⟩
        show ((cu.channels[chanId]).channelId : Int) = (chanId : Nat)
        rw [hid]
    · obtain ⟨chan, hchan', hn⟩ := h.named res hres
      refine ⟨chan, ?_, hn⟩
      rwa [hother fun heq => hnew (List.mem_map.mpr ⟨res, hres, heq⟩)]
  · rw [List.map_cons]
    exact List.nodup_cons.mpr ⟨hnew, h.nodup⟩
  · intro place hplace'
    rw [List.map_cons, List.mem_cons, not_or, hplace] at hplace'
    rw [hother hplace'.1, h.others place hplace'.2]

theorem resReleaseCu_eq {res : CuResource} {dev : DeviceData} {cu : CuData}
    (hnonneg : 0 ≤ res.deviceId ∧ 0 ≤ res.cuId ∧ 0 ≤ res.channelId)
    (hdev : s.devList[res.place.1]? = some dev) (hload : dev.isLoaded = true)
    (hcu : dev.cuList[res.place.2.1]? = some cu) (hnumber : dev.cuList.length ≤ maxXilinxKernels)
    (hchannel : res.place.2.2 < maxKernelChannels) :
    s.resReleaseCu res =
      (s.setDev res.place.1 (dev.releaseCu res.place.2.1 cu res).1,
        (dev.releaseCu res.place.2.1 cu res).2) := by
  obtain ⟨hi, hj, hk⟩ := hnonneg
  simp only [CuResource.place] at hdev hcu hchannel ⊢
  have hlt := (List.getElem?_eq_some_iff.mp hdev).1
  have hlt' := (List.getElem?_eq_some_iff.mp hcu).1
  rw [resReleaseCu, if_neg (by rw [numDevice]; omega), if_neg (by omega), if_neg (by omega), hdev]
  simp [hload, hcu]

/-- The release of a channel on loan succeeds and takes it off the list. -/
theorem release (h₀ : s₀.Good D) {res : CuResource} (h : s₀.Lends s (res :: lent)) :
    (s.resReleaseCu res).2 = .ok () ∧ s₀.Lends (s.resReleaseCu res).1 lent := by
  obtain ⟨hnonneg, hclient, ⟨chan₀, hchan₀, hfree⟩, horder₀⟩ := h.lendable res (by simp)
  obtain ⟨chan, hchan, hn⟩ := h.named res (by simp)
  obtain ⟨hnotin, hnodup⟩ := List.nodup_cons.mp h.nodup
  obtain ⟨dev, cu, hdev, hcu, hat⟩ := channelAt_eq_some hchan
  obtain ⟨dev₀', cu₀', hdev₀', hcu₀', hat₀⟩ := channelAt_eq_some hchan₀
  obtain ⟨dev₀, hdev₀, hextends⟩ := h.device hdev
  obtain ⟨cu₀, hcu₀, hcuExt⟩ := forall₂_getElem? hextends.cus hcu
  rw [hdev₀, Option.some.injEq] at hdev₀'
  subst hdev₀'
  rw [hcu₀, Option.some.injEq] at hcu₀'
  subst hcu₀'
  have hmem₀ := List.mem_of_getElem? hdev₀
  have hsound₀ := h₀.sound dev₀ hmem₀
  have horder₀ := horder₀ dev₀ cu₀ hdev₀ hcu₀
  have horder : cu.InOrder := by
    rw [CuData.InOrder, hcuExt.kin.channelIds]
    exact horder₀
  have hload : dev.isLoaded = true := by
    by_contra hl
    rw [hextends.isLoaded, Bool.not_eq_true] at hl
    rw [hsound₀.unloaded hl] at hcu₀
    simp at hcu₀
  have hnumber : dev.cuList.length ≤ maxXilinxKernels := by
    rw [← hextends.cus.length_eq]
    exact (h₀.recorded dev₀ hmem₀).number
  have hchannel : res.place.2.2 < maxKernelChannels := by
    rw [← hcuExt.consistent.channels.length]
    exact (List.getElem?_eq_some_iff.mp hat).1
  obtain ⟨hok, hextends', cu', hcus, hchans⟩ :=
    hextends.release hsound₀ hload hcu₀ hcu hat₀ hat hfree horder hn hclient
  rw [resReleaseCu_eq hnonneg hdev hload hcu hnumber hchannel]
  refine ⟨hok, ?_⟩
  obtain ⟨hframe, hdevs⟩ := h.setDev hdev₀ hextends'
  have hother : ∀ {place}, place ≠ res.place →
      (s.setDev res.place.1 (dev.releaseCu res.place.2.1 cu res).1).channelAt place =
        s.channelAt place := by
    refine channelAt_setDev_ne hdev hcu hcus fun k hk => ?_
    rw [hchans, List.getElem?_map]
    cases hx : cu.channels[k]? with
    | none => rfl
    | some x =>
        have hnx : ¬res.names x = true := fun hnx =>
          hk (DeviceData.names_unique horder hat hn hx hnx)
        rw [Option.map_some, CuResource.release, if_neg hnx]
  refine ⟨hframe, hdevs, fun r hr => h.lendable r (by simp [hr]), ?_, hnodup, ?_⟩
  · intro r hr
    obtain ⟨x, hx, hnx⟩ := h.named r (by simp [hr])
    refine ⟨x, ?_, hnx⟩
    rwa [hother fun heq => hnotin (List.mem_map.mpr ⟨r, hr, heq⟩)]
  · intro place hplace
    by_cases hsame : place = res.place
    · -- the channel is as free as it was
      have hid : chan.channelId = chan₀.channelId := by
        rw [horder.channelId hat, horder₀.channelId hat₀]
      rw [hsame, hchan₀, channelAt_setDev hdev (List.getElem?_eq_some_iff.mp hcu).1 hcus,
        if_pos ⟨rfl, rfl⟩, hchans, List.getElem?_map, hat, Option.map_some, CuResource.release,
        if_pos hn, hfree, ChannelData.clear, ChannelData.clear, hid]
    · rw [hother hsame]
      refine h.others place ?_
      rw [List.map_cons, List.mem_cons, not_or]
      exact ⟨hsame, hplace⟩

/-- Releasing all that is on loan, in any order, brings the earlier state back. -/
theorem releaseInOrder (h₀ : s₀.Good D) (h : s₀.Lends s lent) :
    System.releaseInOrder lent s = (s₀, .ok ()) := by
  rw [← List.append_nil lent] at h
  obtain ⟨hok, hrest⟩ := releaseFirst (fun h => h.release h₀) h
  exact Prod.ext (hrest.eq h₀) hok

end Lends

end System

end Xrm
