import Xrm.Verification.Following
import Xrm.Verification.Held
import Xrm.Verification.Releases

/-! # Held channels, gained and lost

What allocations add to the held channels, and what a release takes from them. A list allocation
that fails has lost all it had gained.
-/

namespace Xrm

variable {D : Discipline} {prop : CuProperty} {svc : Nat}

/-! ## One CU -/

/-- The CU can be named. -/
def CuInfo.Named (info : CuInfo) : Prop :=
  info.kernelName ≠ "" ∨ info.kernelAlias ≠ "" ∨ info.cuName ≠ ""

namespace CuData

variable {cu cu' : CuData} {keep : ChannelData → Bool}

/-- The channels of the CU are cleared, but those to be kept. -/
structure Clears (keep : ChannelData → Bool) (cu cu' : CuData) : Prop where
  toCuInfo : cu'.toCuInfo = cu.toCuInfo
  channels : cu'.channels = cu.channels.map fun chan => if keep chan then chan else chan.clear

theorem Clears.heldAt (h : Clears keep cu cu') (k : Nat) :
    cu'.heldAt k = (cu.heldAt k).filter fun held => keep held.1 := by
  rw [CuData.heldAt, CuData.heldAt, h.channels, h.toCuInfo, List.getElem?_map]
  cases cu.channels[k]? with
  | none => rfl
  | some chan =>
      by_cases hload : chan.channelLoadUnified = 0
      · cases hkeep : keep chan <;> simp [hkeep, hload]
      · cases hkeep : keep chan <;> simp [hkeep, hload, Option.filter]

/-- An allocation adds one channel to those that are held. -/
theorem Allocated.heldAt {idx : Option Nat} {chanId : Nat}
    (h : cu.Allocated cu' prop svc idx chanId) : cu.heldAt chanId = none ∧
      ∃ chan : ChannelData, cu'.heldAt chanId = some (chan.occupy prop svc, cu.toCuInfo) ∧
        ∀ k, k ≠ chanId → cu'.heldAt k = cu.heldAt k := by
  obtain ⟨hk, hfree⟩ := h.free
  have hchans : cu'.channels = cu.channels.modify chanId (ChannelData.occupy prop svc) := by
    rw [h.eq, CuData.assignChannel_channels]
  have hload : prop.requestLoadUnified ≠ 0 := by
    have := h.pos
    omega
  have hchan := List.getElem?_eq_getElem hk
  refine ⟨?_, cu.channels[chanId], ?_, fun k hne => ?_⟩
  · simp [CuData.heldAt, hchan, hfree.load]
  · rw [CuData.heldAt, hchans, h.kin.toCuInfo, List.getElem?_modify, hchan]
    simp [ChannelData.occupy, hload]
  · rw [CuData.heldAt, CuData.heldAt, hchans, h.kin.toCuInfo, List.getElem?_modify]
    simp [Ne.symm hne]

end CuData

namespace System

variable {s₀ s s₁ s' : System} {res : CuResource} {l : List CuResource}

theorem heldAt_of_cu {i j k : Nat} {dev : DeviceData} {cu : CuData}
    (hdev : s.devList[i]? = some dev) (hcu : dev.cuList[j]? = some cu) :
    s.heldAt (i, j, k) = cu.heldAt k := by
  simp [heldAt, DeviceData.heldAt, CuData.heldAt, hdev, hcu]

theorem heldAt_eq_some {place : Nat × Nat × Nat} {held : Holding}
    (h : s.heldAt place = some held) : ∃ dev cu, s.devList[place.1]? = some dev ∧
      dev.cuList[place.2.1]? = some cu ∧ cu.channels[place.2.2]? = some held.1 ∧
        held.1.channelLoadUnified ≠ 0 ∧ cu.toCuInfo = held.2 := by
  obtain ⟨dev, hdev, h⟩ := Option.bind_eq_some_iff.mp h
  obtain ⟨cu, chan, hcu, hchan, hload, rfl⟩ := DeviceData.heldAt_eq_some.mp h
  exact ⟨dev, cu, hdev, hcu, hchan, hload, rfl⟩

/-- A change of one CU changes what is held there. -/
theorem heldAt_setCu {i j : Nat} {dev dev' : DeviceData} {cu cu' : CuData}
    (hdev : s.devList[i]? = some dev) (hcu : dev.cuList[j]? = some cu)
    (hcus : dev'.cuList = dev.cuList.set j cu') (place : Nat × Nat × Nat) :
    (s.setDev i dev').heldAt place =
      if place.1 = i ∧ place.2.1 = j then cu'.heldAt place.2.2 else s.heldAt place := by
  obtain ⟨i', j', k⟩ := place
  have hj := (List.getElem?_eq_some_iff.mp hcu).1
  have hdev' := getElem?_setDev_self hdev dev'
  by_cases hi : i' = i
  · subst hi
    by_cases hjj : j' = j
    · subst hjj
      rw [if_pos ⟨rfl, rfl⟩]
      exact heldAt_of_cu hdev' (by rw [hcus, List.getElem?_set_self hj])
    · rw [if_neg fun h => hjj h.2, heldAt, heldAt, hdev, hdev']
      simp [DeviceData.heldAt, hcus, List.getElem?_set_ne (Ne.symm hjj)]
  · rw [if_neg fun h => hi h.1, heldAt, heldAt, getElem?_setDev_ne (Ne.symm hi)]

/-! ## Gained channels -/

end System

/-- The record is about the channel that is held, on a CU that can be named. -/
structure CuResource.Tells (res : CuResource) (held : Holding) : Prop where
  named : held.2.Named
  nonneg : 0 ≤ res.deviceId ∧ 0 ≤ res.cuId ∧ 0 ≤ res.channelId
  allocServiceId : held.1.allocServiceId = res.allocServiceId
  poolId : held.1.poolId = res.poolId
  clientId : held.1.clientId = res.clientId
  channelLoadUnified : held.1.channelLoadUnified = res.channelLoadUnified
  channelLoadOriginal : held.1.channelLoadOriginal = res.channelLoadOriginal

namespace System

variable {s₀ s s₁ s' : System} {res : CuResource} {l : List CuResource}

/-- Nothing but the channels of the records has been gained, under the next service id. -/
structure Gains (s s' : System) (l : List CuResource) : Prop where
  allocServiceId : s'.allocServiceId = s.allocServiceId
  issued : ∀ res ∈ l, res.allocServiceId = s.getNextAllocServiceId
  free : ∀ res ∈ l, s.heldAt res.place = none
  told : ∀ res ∈ l, ∃ held, s'.heldAt res.place = some held ∧ res.Tells held
  nodup : (l.map (·.place)).Nodup
  others : ∀ place, place ∉ l.map (·.place) → s'.heldAt place = s.heldAt place

theorem Calm.nextId (h : Calm s s') : s'.getNextAllocServiceId = s.getNextAllocServiceId := by
  rw [getNextAllocServiceId, getNextAllocServiceId, h.allocServiceId]

theorem Gains.nextId (h : Gains s s' l) : s'.getNextAllocServiceId = s.getNextAllocServiceId := by
  rw [getNextAllocServiceId, getNextAllocServiceId, h.allocServiceId]

theorem Calm.gains (h : Calm s s') : Gains s s' [] where
  allocServiceId := h.allocServiceId
  issued := by simp
  free := by simp
  told := by simp
  nodup := List.nodup_nil
  others := fun place _ => h.held place

theorem Gains.calm (h : Gains s s' []) : Calm s s' :=
  ⟨fun place => h.others place (by simp), h.allocServiceId⟩

theorem Gains.perm {l' : List CuResource} (h : Gains s s' l) (hp : l.Perm l') : Gains s s' l' where
  allocServiceId := h.allocServiceId
  issued := fun res hres => h.issued res (hp.mem_iff.mpr hres)
  free := fun res hres => h.free res (hp.mem_iff.mpr hres)
  told := fun res hres => h.told res (hp.mem_iff.mpr hres)
  nodup := (hp.map (·.place)).nodup_iff.mp h.nodup
  others := fun place hplace => h.others place fun hmem =>
    hplace ((hp.map (·.place)).mem_iff.mp hmem)

theorem Gains.calm_after (h : Gains s₀ s l) (h' : Calm s s') : Gains s₀ s' l where
  allocServiceId := h'.allocServiceId.trans h.allocServiceId
  issued := h.issued
  free := h.free
  told := fun res hres => by rw [h'.held]; exact h.told res hres
  nodup := h.nodup
  others := fun place hplace => by rw [h'.held, h.others place hplace]

/-- One more channel is gained. -/
theorem Gains.cons {held : Holding} (h : Gains s₀ s l) (hid : s'.allocServiceId = s.allocServiceId)
    (hsvc : res.allocServiceId = s.getNextAllocServiceId) (hfree : s.heldAt res.place = none)
    (hheld : s'.heldAt res.place = some held)
    (htells : res.Tells held) (hothers : ∀ place, place ≠ res.place →
      s'.heldAt place = s.heldAt place) : Gains s₀ s' (res :: l) := by
  have hnew : res.place ∉ l.map (·.place) := by
    intro hmem
    obtain ⟨r, hr, hplace⟩ := List.mem_map.mp hmem
    obtain ⟨held', hheld', -⟩ := h.told r hr
    rw [hplace, hfree] at hheld'
    cases hheld'
  refine ⟨hid.trans h.allocServiceId, ?_, ?_, ?_, List.nodup_cons.mpr ⟨hnew, h.nodup⟩, ?_⟩
  · exact List.forall_mem_cons.mpr ⟨hsvc.trans h.nextId, h.issued⟩
  · intro r hr
    rcases List.mem_cons.mp hr with rfl | hr
    · rw [← h.others _ hnew, hfree]
    · exact h.free r hr
  · intro r hr
    rcases List.mem_cons.mp hr with rfl | hr
    · exact ⟨held, hheld, htells⟩
    · rw [hothers _ fun heq => hnew (heq ▸ List.mem_map_of_mem hr)]
      exact h.told r hr
  · intro place hplace
    rw [List.map_cons, List.mem_cons, not_or] at hplace
    rw [hothers place hplace.1, h.others place hplace.2]

/-- Taking a channel of a CU that can be named gains it. -/
theorem gains_of_allocated {i cuId chanId : Nat} {idx : Option Nat} {dev dev' : DeviceData}
    {cu cu' : CuData} (hdev : s.devList[i]? = some dev) (hcu : dev.cuList[cuId]? = some cu)
    (halloc : cu.Allocated cu' prop svc idx chanId) (hnamed : cu.Named)
    (hsvc : svc = s.getNextAllocServiceId) (hcus : dev'.cuList = dev.cuList.set cuId cu')
    (dev₁ : DeviceData) (h : Gains s₀ s l) :
    Gains s₀ (s.setDev i dev') (dev₁.grantedResource i prop svc cuId cu' chanId :: l) := by
  obtain ⟨hnone, chan, hsome, hothers⟩ := halloc.heldAt
  have hplace : (dev₁.grantedResource i prop svc cuId cu' chanId).place = (i, cuId, chanId) := rfl
  have hset := heldAt_setCu hdev hcu hcus
  have hheld : (s.setDev i dev').heldAt
      (dev₁.grantedResource i prop svc cuId cu' chanId).place =
        some (chan.occupy prop svc, cu.toCuInfo) := by
    rw [hplace, hset, if_pos ⟨rfl, rfl⟩]
    exact hsome
  refine h.cons rfl hsvc ?_ hheld ?_ ?_
  · rw [hplace, heldAt_of_cu hdev hcu]
    exact hnone
  · exact ⟨hnamed, ⟨Int.natCast_nonneg _, Int.natCast_nonneg _, Int.natCast_nonneg _⟩,
      rfl, rfl, rfl, rfl,
      rfl⟩
  · rintro ⟨i', j', k'⟩ hne
    rw [hplace] at hne
    rw [hset]
    split
    · rename_i hsame
      obtain ⟨rfl, rfl⟩ := hsame
      rw [hothers k' fun hk => hne (by rw [hk]), heldAt_of_cu hdev hcu]
    · rfl

/-! ## Released channels -/

theorem resReleaseCu_allocServiceId (s : System) (res : CuResource) :
    (s.resReleaseCu res).1.allocServiceId = s.allocServiceId := by
  rw [resReleaseCu]
  repeat' split
  all_goals rfl

/-- A release that passes the checks frees the channels that its record names, on its CU. -/
structure FreesNamed (s : System) (res : CuResource) (dev : DeviceData) (cu : CuData) : Prop where
  record : s.For res dev cu
  success : (s.resReleaseCu res).2 = .ok () ↔ ∃ chan ∈ cu.channels, res.names chan = true
  held : ∀ place, (s.resReleaseCu res).1.heldAt place =
    if place.1 = res.deviceId.toNat ∧ place.2.1 = res.cuId.toNat then
      (s.heldAt place).filter fun held => !res.names held.1
    else s.heldAt place

theorem resReleaseCu_frees (h : s.Sound D) (hres : res.clientId ≠ 0) :
    ((s.resReleaseCu res).2 ≠ .ok () ∧ (s.resReleaseCu res).1 = s) ∨
      ∃ dev cu, s.FreesNamed res dev cu := by
  cases hr : s.resReleaseCu res with
  | mk s' ret =>
      have heq := hr
      rw [resReleaseCu] at heq
      split at heq
      · obtain ⟨rfl, rfl⟩ := Prod.mk.inj heq
        exact .inl ⟨by simp, rfl⟩
      rename_i hdevId
      split at heq
      · obtain ⟨rfl, rfl⟩ := Prod.mk.inj heq
        exact .inl ⟨by simp, rfl⟩
      rename_i hcuId
      split at heq
      · obtain ⟨rfl, rfl⟩ := Prod.mk.inj heq
        exact .inl ⟨by simp, rfl⟩
      split at heq
      · obtain ⟨rfl, rfl⟩ := Prod.mk.inj heq
        exact .inl ⟨by simp, rfl⟩
      rename_i dev hdev
      split at heq
      · obtain ⟨rfl, rfl⟩ := Prod.mk.inj heq
        exact .inl ⟨by simp, rfl⟩
      rename_i hload
      split at heq
      · obtain ⟨rfl, rfl⟩ := Prod.mk.inj heq
        exact .inl ⟨by simp, rfl⟩
      rename_i cu hcu
      have hcons := (h dev (List.mem_of_getElem? hdev)).consistent cu (List.mem_of_getElem? hcu)
      obtain ⟨cu', hreleased, hdev', hret, -⟩ := dev.releaseCu_spec hcons hres res.cuId.toNat
      obtain ⟨hcus, -⟩ := DeviceData.releaseChannels_users res cu.channels dev cu
      have hset : (dev.releaseCu res.cuId.toNat cu res).1.cuList =
          dev.cuList.set res.cuId.toNat cu' := by
        rw [hdev', DeviceData.setCu, hcus]
      have hclears : cu.Clears (fun chan => !res.names chan) cu' :=
        ⟨hreleased.toCuInfo, hreleased.channels.trans (List.map_congr_left fun chan _ => by
          cases hn : res.names chan <;> simp [CuResource.release, hn])⟩
      generalize dev.releaseCu res.cuId.toNat cu res = r at heq hset hret
      obtain ⟨dev', ret'⟩ := r
      obtain ⟨rfl, rfl⟩ := Prod.mk.inj heq
      simp only at hset hret
      refine .inr ⟨dev, cu, ⟨by omega, hdev, by simpa using hload, by omega, hcu⟩, ?_, ?_⟩
      · rw [hr]
        simp only
        rw [hret]
        by_cases hany : cu.channels.any res.names = true
        · rw [if_pos hany]
          exact iff_of_true rfl (List.any_eq_true.mp hany)
        · rw [if_neg hany]
          exact iff_of_false (by simp) fun hex => hany (List.any_eq_true.mpr hex)
      · rintro ⟨i, j, k⟩
        rw [hr]
        simp only
        rw [heldAt_setCu hdev hcu hset]
        split
        · rename_i hplace
          obtain ⟨rfl, rfl⟩ := hplace
          rw [hclears.heldAt, heldAt_of_cu hdev hcu]
        · rfl

/-- A channel that is held after a release was held before. -/
theorem held_of_released (h : s.Sound D) (hres : res.clientId ≠ 0) {place : Nat × Nat × Nat}
    {held : Holding} (hheld : (s.resReleaseCu res).1.heldAt place = some held) :
    s.heldAt place = some held := by
  rcases resReleaseCu_frees h hres with ⟨-, hsame⟩ | ⟨dev, cu, hfrees⟩
  · rwa [hsame] at hheld
  · rw [hfrees.held] at hheld
    split at hheld
    · exact (Option.filter_eq_some_iff.mp hheld).1
    · exact hheld

/-- A release takes a held channel back when it succeeds with a record of the channel's place and
service id. -/
theorem released_held_iff (h : s.Sound D) (hres : res.clientId ≠ 0) {place : Nat × Nat × Nat}
    {held : Holding} (hheld : s.heldAt place = some held) (hnamed : held.2.Named) :
    (s.resReleaseCu res).1.heldAt place = some held ↔
      ¬((s.resReleaseCu res).2 = .ok () ∧ res.place = place ∧
        res.allocServiceId = held.1.allocServiceId) := by
  rcases resReleaseCu_frees h hres with ⟨hno, hsame⟩ | ⟨dev, cu, hfrees⟩
  · rw [hsame]
    exact iff_of_true hheld fun htaken => hno htaken.1
  obtain ⟨dev', cu', hdev', hcu', hchan, -, hinfo⟩ := heldAt_eq_some hheld
  obtain ⟨i, j, k⟩ := place
  simp only at hdev' hcu' hchan
  rw [hfrees.held]
  by_cases hplace : i = res.deviceId.toNat ∧ j = res.cuId.toNat
  · obtain ⟨rfl, rfl⟩ := hplace
    have hdev := hfrees.record.device
    rw [hdev', Option.some.injEq] at hdev
    subst hdev
    have hcu := hfrees.record.cu
    rw [hcu', Option.some.injEq] at hcu
    subst hcu
    have horder : cu'.InOrder := (h dev' (List.mem_of_getElem? hdev')).numbered cu'
      (List.mem_of_getElem? hcu') (.inl (by rw [← hinfo] at hnamed; exact hnamed))
    have hk := horder.channelId hchan
    rw [if_pos ⟨rfl, rfl⟩, hheld, Option.filter_eq_some_iff, hfrees.success]
    constructor
    · rintro ⟨-, hnot⟩ ⟨⟨chan, hmem, hn⟩, hsame, -⟩
      -- the named channel stands at the place of the record
      obtain ⟨k', hk'⟩ := List.getElem?_of_mem hmem
      have hid := horder.channelId hk'
      have hchanId := (CuResource.names_iff.mp hn).2.2.2
      have hkk : res.channelId.toNat = k := by
        simpa [CuResource.place] using congrArg (fun place => place.2.2) hsame
      obtain rfl : k' = k := by omega
      rw [hchan, Option.some.injEq] at hk'
      rw [hk', hn] at hnot
      simp at hnot
    · intro hnot
      refine ⟨rfl, ?_⟩
      rw [Bool.not_eq_true', Bool.eq_false_iff]
      intro hn
      refine hnot ⟨⟨held.1, List.mem_of_getElem? hchan, hn⟩, ?_, ?_⟩
      · have hchanId := (CuResource.names_iff.mp hn).2.2.2
        rw [CuResource.place, ← hchanId, hk, Int.toNat_natCast]
      · exact (CuResource.names_iff.mp hn).1.symm
  · rw [if_neg hplace]
    refine iff_of_true hheld ?_
    rintro ⟨-, hsame, -⟩
    rw [CuResource.place, Prod.mk.injEq, Prod.mk.injEq] at hsame
    exact hplace ⟨hsame.1.symm, hsame.2.1.symm⟩

/-- The release of a record of a held channel succeeds and frees that channel. -/
theorem released_of_tells (h : s.Good D) {held : Holding} (hheld : s.heldAt res.place = some held)
    (htells : res.Tells held) : res.clientId ≠ 0 ∧ (s.resReleaseCu res).2 = .ok () ∧
      ∀ place, (s.resReleaseCu res).1.heldAt place =
        if place = res.place then none else s.heldAt place := by
  obtain ⟨dev, cu, hdev, hcu, hchan, hload, hinfo⟩ := heldAt_eq_some hheld
  have hmem := List.mem_of_getElem? hdev
  have hsound := h.sound dev hmem
  have hcons := hsound.consistent cu (List.mem_of_getElem? hcu)
  have hlive : held.1.Live :=
    (hcons.channels.proper _ (List.mem_of_getElem? hchan)).resolve_left fun hfree =>
      hload hfree.load
  have hclient : res.clientId ≠ 0 := by
    rw [← htells.clientId]
    exact hlive.clientId
  have hloaded : dev.isLoaded = true := by
    by_contra hno
    rw [hsound.unloaded (Bool.eq_false_of_not_eq_true hno)] at hcu
    simp at hcu
  have horder : cu.InOrder := hsound.numbered cu (List.mem_of_getElem? hcu)
    (.inl (by have := htells.named; rw [← hinfo] at this; exact this))
  have hn : res.names held.1 = true := by
    refine CuResource.names_iff.mpr ⟨htells.allocServiceId, htells.poolId, htells.clientId, ?_⟩
    rw [horder.channelId hchan]
    exact Int.toNat_of_nonneg htells.nonneg.2.2
  have hchannel : res.place.2.2 < maxKernelChannels := by
    rw [← hcons.channels.length]
    exact (List.getElem?_eq_some_iff.mp hchan).1
  have hok : (s.resReleaseCu res).2 = .ok () := by
    obtain ⟨cu', -, -, hret, -⟩ := dev.releaseCu_spec hcons hclient res.place.2.1
    rw [Lends.resReleaseCu_eq htells.nonneg hdev hloaded hcu (h.recorded dev hmem).number hchannel]
    exact hret.trans (if_pos (List.any_eq_true.mpr ⟨_, List.mem_of_getElem? hchan, hn⟩))
  refine ⟨hclient, hok, ?_⟩
  obtain ⟨dev', cu', hfrees⟩ :=
    (resReleaseCu_frees h.sound hclient).resolve_left fun hno => hno.1 hok
  rintro ⟨i, j, k⟩
  rw [hfrees.held]
  by_cases hplace : i = res.deviceId.toNat ∧ j = res.cuId.toNat
  · obtain ⟨rfl, rfl⟩ := hplace
    rw [if_pos ⟨rfl, rfl⟩]
    split
    · rename_i hsame
      rw [hsame, hheld]
      simp [hn]
    · rename_i hne
      cases hx : s.heldAt (res.deviceId.toNat, res.cuId.toNat, k) with
      | none => rfl
      | some x =>
          obtain ⟨dev'', cu'', hdev'', hcu'', hchan'', -⟩ := heldAt_eq_some hx
          obtain rfl : dev = dev'' := Option.some.inj (hdev.symm.trans hdev'')
          obtain rfl : cu = cu'' := Option.some.inj (hcu.symm.trans hcu'')
          have hnot : res.names x.1 = false := by
            rw [Bool.eq_false_iff]
            intro hnx
            have hk := DeviceData.names_unique horder hchan hn hchan'' hnx
            simp only at hk
            exact hne (by rw [hk, CuResource.place])
          simp [hnot]
  · rw [if_neg hplace, if_neg]
    intro hsame
    rw [CuResource.place, Prod.mk.injEq, Prod.mk.injEq] at hsame
    exact hplace ⟨hsame.1, hsame.2.1⟩

/-- The release of a gained channel takes it off the list. -/
theorem Gains.release (h : Gains s₀ s (res :: l)) (hgood : s.Good D) :
    (s.resReleaseCu res).2 = .ok () ∧ Gains s₀ (s.resReleaseCu res).1 l := by
  obtain ⟨held, hheld, htells⟩ := h.told res (by simp)
  obtain ⟨-, hok, hafter⟩ := released_of_tells hgood hheld htells
  obtain ⟨hnotin, hnodup⟩ := List.nodup_cons.mp h.nodup
  have hid := resReleaseCu_allocServiceId s res
  refine ⟨hok, hid.trans h.allocServiceId, fun r hr => h.issued r (by simp [hr]),
    fun r hr => h.free r (by simp [hr]), fun r hr => ?_, hnodup, fun place hplace => ?_⟩
  · have hne : r.place ≠ res.place := fun heq => hnotin (List.mem_map.mpr ⟨r, hr, heq⟩)
    rw [hafter, if_neg hne]
    exact h.told r (by simp [hr])
  · rw [hafter]
    split
    · rename_i hsame
      rw [hsame]
      exact (h.free res (by simp)).symm
    · rename_i hne
      refine h.others place ?_
      rw [List.map_cons, List.mem_cons, not_or]
      exact ⟨hne, hplace⟩

/-! ## List allocations -/

/-- What a list allocation has gained so far, in a state in order. -/
structure Collects (D : Discipline) (s₀ s : System) (l : List CuResource) : Prop where
  good : s.Good D
  gains : Gains s₀ s l

/-- The steps of list allocations collect. -/
theorem collects_follows (D : Discipline) (s₀ : System) :
    Follows CuProperty.Received s₀.getNextAllocServiceId (Collects D s₀) where
  nextId h := h.gains.nextId
  perm h hp := ⟨h.good, h.gains.perm hp⟩
  touch h hq ht := by
    have htouch : Touched _ _ _ := .single ht
    exact ⟨h.good.evolves (htouch.evolves hq.1), h.gains.calm_after htouch.calm⟩
  grab h hq hnamed hdev hg := by
    refine ⟨h.good.evolves (evolves_setDev hdev (.single (hg.act hq (nextId_ne_zero _)))), ?_⟩
    obtain ⟨dev₁, policyInfo, cuId, cu', chanId, hreg, ⟨cu, pre, hcu, hmatch, halloc⟩, rfl, rfl⟩ :=
      hg
    obtain ⟨idx, hallocated⟩ := CuData.allocated_of_allocChan
      ((h.good.sound _ (List.mem_of_getElem? hdev)).consistent cu (List.mem_of_getElem? hcu)) halloc
    refine gains_of_allocated hdev hcu hallocated (CuData.named_of_matches hnamed hmatch)
      h.gains.nextId.symm ?_ dev₁ h.gains
    rw [grant_cuList, DeviceData.registered_cuList hreg]
  release h := by
    obtain ⟨held, hheld, htells⟩ := h.gains.told _ List.mem_cons_self
    have hclient := (released_of_tells h.good hheld htells).1
    obtain ⟨hok, hrest⟩ := h.gains.release h.good
    exact ⟨hok, h.good.evolves (resReleaseCu_evolves D _ hclient), hrest⟩

theorem Collects.refl (h : s.Good D) : Collects D s s [] := ⟨h, (Calm.refl s).gains⟩

end System

end Xrm
