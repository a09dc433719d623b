import Xrm.Verification.Granting

/-! # Channels that stay

What allocations in progress leave of the live channels: a search that fails touches none, and the
release of what an attempt has taken touches only the channels that the attempt has taken itself.
-/

namespace Xrm

open FixedTable Relation

namespace System

variable {D : Discipline} {s s' s₁ : System} {prop : CuProperty} {svc : Nat} {res : CuResource}
  {gone gone' : List (Nat × Nat × Nat)}

/-! ## Live channels -/

/-- What the image says of the CU at a place. -/
def infoAt (s : System) (place : Nat × Nat × Nat) : Option CuInfo := do
  let dev ← s.devList[place.1]?
  let cu ← dev.cuList[place.2.1]?
  return cu.toCuInfo

theorem infoAt_eq {i j k : Nat} {dev : DeviceData} {cu : CuData}
    (hdev : s.devList[i]? = some dev) (hcu : dev.cuList[j]? = some cu) :
    s.infoAt (i, j, k) = some cu.toCuInfo := by
  simp [infoAt, hdev, hcu]

/-- `s'` has the live channels of `s`, but for those at some places, and the same CUs. -/
structure Spares (s s' : System) (gone : List (Nat × Nat × Nat)) : Prop where
  live : ∀ place chan, place ∉ gone → s.liveAt place = some chan → s'.liveAt place = some chan
  infos : ∀ place, s'.infoAt place = s.infoAt place
  numDevice : s'.numDevice = s.numDevice

theorem Spares.refl (s : System) : s.Spares s [] := ⟨fun _ _ _ h => h, fun _ => rfl, rfl⟩

theorem Spares.trans (h : s.Spares s₁ gone) (h' : s₁.Spares s' gone') :
    s.Spares s' (gone ++ gone') where
  live := fun place chan hgone hlive =>
    h'.live place chan (fun hmem => hgone (List.mem_append_right _ hmem))
      (h.live place chan (fun hmem => hgone (List.mem_append_left _ hmem)) hlive)
  infos := fun place => (h'.infos place).trans (h.infos place)
  numDevice := h'.numDevice.trans h.numDevice

theorem Spares.mono (h : s.Spares s' gone) (hgone : ∀ place ∈ gone, s.liveAt place = none) :
    s.Spares s' [] where
  live := fun place chan _ hlive =>
    h.live place chan (fun hmem => by rw [hgone place hmem] at hlive; simp at hlive) hlive
  infos := h.infos
  numDevice := h.numDevice

/-- A change of one CU that keeps its image data. -/
theorem spares_setDev {i j : Nat} {dev dev' : DeviceData} {cu cu' : CuData}
    (hdev : s.devList[i]? = some dev) (hcu : dev.cuList[j]? = some cu)
    (hcus : dev'.cuList = dev.cuList.set j cu') (hinfo : cu'.toCuInfo = cu.toCuInfo)
    (hchans : ∀ k chan, (i, j, k) ∉ gone → cu.channels[k]? = some chan →
      chan.channelLoadUnified ≠ 0 → cu'.channels[k]? = some chan) :
    s.Spares (s.setDev i dev') gone where
  live := by
    intro place chan hgone hlive
    have hj := (List.getElem?_eq_some_iff.mp hcu).1
    rw [liveAt, Option.filter_eq_some_iff] at hlive ⊢
    refine ⟨?_, hlive.2⟩
    rw [channelAt_setDev hdev hj hcus]
    split
    · rename_i hplace
      obtain ⟨i', j', k⟩ := place
      obtain ⟨rfl, rfl⟩ := hplace
      rw [channelAt_eq hdev hcu] at hlive
      exact hchans k chan hgone hlive.1 (by simpa using hlive.2)
    · exact hlive.1
  infos := by
    rintro ⟨i', j', k⟩
    by_cases hi : i' = i
    · subst hi
      rw [infoAt, infoAt, getElem?_setDev_self hdev dev', hdev]
      by_cases hj : j' = j
      · subst hj
        obtain ⟨hj, rfl⟩ := List.getElem?_eq_some_iff.mp hcu
        simp [hcus, hinfo, hj]
      · simp [hcus, List.getElem?_set_ne (Ne.symm hj)]
    · rw [infoAt, infoAt, getElem?_setDev_ne (Ne.symm hi)]
  numDevice := List.length_set

theorem spares_setDev_same {i : Nat} {dev dev' : DeviceData} (hdev : s.devList[i]? = some dev)
    (hcus : dev'.cuList = dev.cuList) : s.Spares (s.setDev i dev') [] where
  live := by
    intro place chan _ hlive
    rwa [liveAt, sameChannels_setDev hdev hcus]
  infos := by
    rintro ⟨i', j', k⟩
    by_cases hi : i' = i
    · subst hi
      rw [infoAt, infoAt, getElem?_setDev_self hdev dev', hdev]
      simp [hcus]
    · rw [infoAt, infoAt, getElem?_setDev_ne (Ne.symm hi)]
  numDevice := List.length_set

/-- Touched devices keep their channels. -/
theorem TouchStep.spares (h : TouchStep prop s s') : s.Spares s' [] := by
  obtain ⟨i, dev, dev', hdev, htouch, rfl⟩ := h
  exact spares_setDev_same hdev htouch.cuList

theorem Touched.spares (h : Touched prop s s') : s.Spares s' [] := by
  induction h with
  | refl => exact .refl s
  | tail _ hstep ih => exact ih.trans hstep.spares

/-! ## Results that hold -/

end System

/-- The channel carries the request. -/
structure ChannelData.Carries (chan : ChannelData) (prop : CuProperty) (svc : Nat) : Prop where
  clientId : chan.clientId = prop.clientId
  poolId : chan.poolId = prop.poolId
  unified : chan.channelLoadUnified = prop.requestLoadUnified
  original : chan.channelLoadOriginal = prop.requestLoadOriginal
  allocServiceId : chan.allocServiceId = svc

/-- The result reports the request. -/
structure CuResource.Reports (res : CuResource) (prop : CuProperty) (svc : Nat) : Prop where
  nonneg : 0 ≤ res.deviceId ∧ 0 ≤ res.cuId ∧ 0 ≤ res.channelId
  clientId : res.clientId = prop.clientId
  poolId : res.poolId = prop.poolId
  unified : res.channelLoadUnified = prop.requestLoadUnified
  original : res.channelLoadOriginal = prop.requestLoadOriginal
  allocServiceId : res.allocServiceId = svc

namespace System

variable {D : Discipline} {s s' s₁ : System} {prop : CuProperty} {svc devId : Nat}
  {res : CuResource} {gone : List (Nat × Nat × Nat)}

/-- The result reports the request and names a live channel that carries it, on a CU that
matches. -/
structure Holds (s : System) (prop : CuProperty) (svc : Nat) (res : CuResource) : Prop where
  reports : res.Reports prop svc
  carried : ∃ chan, s.liveAt res.place = some chan ∧ chan.Carries prop svc
  matched : ∃ dev cu, s.devList[res.place.1]? = some dev ∧
    dev.cuList[res.place.2.1]? = some cu ∧ cu.matchesCu prop = true

theorem Holds.spared (h : s.Holds prop svc res) (hspares : s.Spares s' gone)
    (hstays : res.place ∉ gone) : s'.Holds prop svc res where
  reports := h.reports
  carried := by
    obtain ⟨chan, hlive, hcarries⟩ := h.carried
    exact ⟨chan, hspares.live _ chan hstays hlive, hcarries⟩
  matched := by
    obtain ⟨dev, cu, hdev, hcu, hmatch⟩ := h.matched
    have hinfo : s'.infoAt res.place = some cu.toCuInfo := by
      rw [hspares.infos]
      exact infoAt_eq hdev hcu
    simp only [infoAt, Option.bind_eq_bind, Option.pure_def, Option.bind_eq_some_iff,
      Option.some.injEq] at hinfo
    obtain ⟨dev', hdev', cu', hcu', hsame⟩ := hinfo
    refine ⟨dev', cu', hdev', hcu', ?_⟩
    rw [← hmatch, CuData.matchesCu, CuData.matchesCu, hsame]

/-- A request that takes a channel spares the others. -/
theorem spares_of_grab (hsound : s.Sound D) (hs : prop.Sent) {dev dev' : DeviceData}
    (hdev : s.devList[devId]? = some dev) (hg : DeviceData.Grab prop svc devId dev dev' res) :
    s.Spares (s.setDev devId dev') [] ∧ (s.setDev devId dev').Holds prop svc res ∧
      s.liveAt res.place = none ∧ res.deviceId = devId := by
  obtain ⟨dev₁, policyInfo, cuId, cu', chanId, hreg, ⟨cu, pre, hcu, hmatch, halloc⟩, rfl, rfl⟩ := hg
  have hcons := (hsound _ (List.mem_of_getElem? hdev)).consistent cu (List.mem_of_getElem? hcu)
  obtain ⟨idx, hallocated⟩ := CuData.allocated_of_allocChan hcons halloc
  obtain ⟨hk, hfree⟩ := hallocated.free
  have hcus : (dev₁.grant prop cuId cu').cuList = dev.cuList.set cuId cu' := by
    rw [grant_cuList, DeviceData.registered_cuList hreg]
  have hchans : cu'.channels = cu.channels.modify chanId (ChannelData.occupy prop svc) := by
    rw [hallocated.eq, CuData.assignChannel_channels]
  have hinfo : cu'.toCuInfo = cu.toCuInfo := hallocated.kin.toCuInfo
  have hload : prop.requestLoadUnified ≠ 0 := by
    have := hs.2.1
    omega
  have hj : cuId < dev.cuList.length := (List.getElem?_eq_some_iff.mp hcu).1
  refine ⟨?_, ⟨⟨?_, rfl, rfl, rfl, rfl, rfl⟩, ?_, ?_⟩, ?_, rfl⟩
  · refine spares_setDev hdev hcu hcus hinfo fun k chan _ hchan hne => ?_
    have hother : k ≠ chanId := by
      rintro rfl
      rw [List.getElem?_eq_getElem hk, Option.some.injEq] at hchan
      exact hne (hchan ▸ hfree.load)
    rw [hchans, List.getElem?_modify]
    simpa [Ne.symm hother] using hchan
  · exact ⟨Int.natCast_nonneg _, Int.natCast_nonneg _, Int.natCast_nonneg _⟩
  · refine ⟨cu.channels[chanId].occupy prop svc, ?_, ⟨rfl, rfl, rfl, rfl, rfl⟩⟩
    rw [liveAt, Option.filter_eq_some_iff]
    refine ⟨?_, by simpa [ChannelData.occupy] using hload⟩
    rw [channelAt_setDev hdev hj hcus, if_pos ⟨rfl, rfl⟩, hchans]
    exact (List.getElem?_modify_eq _ _ _).trans (by rw [List.getElem?_eq_getElem hk]; rfl)
  · refine ⟨_, cu', getElem?_setDev_self hdev _, ?_, ?_⟩
    · rw [hcus]
      exact List.getElem?_set_self hj
    · rw [← hmatch, CuData.matchesCu, CuData.matchesCu, hinfo]
  · rw [liveAt, Option.filter_eq_none_iff]
    intro chan hchan
    rw [show CuResource.place _ = (devId, cuId, chanId) from rfl, channelAt_eq hdev hcu,
      List.getElem?_eq_getElem hk, Option.some.injEq] at hchan
    simp [← hchan, hfree.load]

/-! ## Releases -/

theorem spares_self (s : System) (gone : List (Nat × Nat × Nat)) : s.Spares s gone :=
  ⟨fun _ _ _ h => h, fun _ => rfl, rfl⟩

/-- A release changes no channel but the one that its record names. -/
theorem Holds.spares_release (h : s.Holds prop svc res) (hsound : s.Sound D)
    (hnamed : prop.unnamed = false) (hs : prop.Sent) :
    s.Spares (s.resReleaseCu res).1 [res.place] := by
  obtain ⟨dev, cu, hdev, hcu, hmatch⟩ := h.matched
  have hcons := (hsound _ (List.mem_of_getElem? hdev)).consistent cu (List.mem_of_getElem? hcu)
  have horder : cu.InOrder := Lends.inOrder_of_matches hsound hdev hcu hnamed hmatch
  have hclient : res.clientId ≠ 0 := by
    rw [h.reports.clientId]
    exact hs.1
  rw [resReleaseCu]
  split
  · exact spares_self s _
  split
  · exact spares_self s _
  split
  · exact spares_self s _
  split
  · exact spares_self s _
  rename_i x hx
  obtain rfl : x = dev := Option.some.inj (hx.symm.trans hdev)
  split
  · exact spares_self s _
  split
  · exact spares_self s _
  rename_i y hy
  obtain rfl : y = cu := Option.some.inj (hy.symm.trans hcu)
  obtain ⟨cu', hreleased, hdev', -, -⟩ := x.releaseCu_spec hcons hclient res.cuId.toNat
  have hcus : (x.releaseCu res.cuId.toNat y res).1.cuList = x.cuList.set res.cuId.toNat cu' := by
    rw [hdev', DeviceData.setCu, (DeviceData.releaseChannels_frame hclient y.channels x y
      (hsound _ (List.mem_of_getElem? hdev)).shape).1]
  change s.Spares (s.setDev res.place.1 (x.releaseCu res.cuId.toNat y res).1) _
  refine spares_setDev hdev hcu hcus hreleased.toCuInfo fun k chan hgone hchan _ => ?_
  have hother : ¬ res.names chan = true := by
    intro hn
    have hid : (chan.channelId : Int) = res.channelId := (CuResource.names_iff.mp hn).2.2.2
    have hk : (chan.channelId : Int) = k := horder.channelId hchan
    have hplace : res.channelId.toNat = k := by omega
    exact hgone (List.mem_singleton.mpr (by rw [← hplace]; rfl))
  rw [hreleased.channels, List.getElem?_map, hchan, Option.map_some, CuResource.release,
    if_neg hother]

/-! ## Batches -/

/-- What lies between two states of an allocation in progress. -/
structure Kept (D : Discipline) (s s' : System) : Prop where
  spares : s.Spares s' []
  sound : s'.Sound D
  nextId : s'.getNextAllocServiceId = s.getNextAllocServiceId

theorem Kept.refl (hsound : s.Sound D) : Kept D s s := ⟨.refl s, hsound, rfl⟩

theorem Kept.trans (h : Kept D s s₁) (h' : Kept D s₁ s') : Kept D s s' :=
  ⟨h.spares.trans h'.spares, h'.sound, h'.nextId.trans h.nextId⟩

theorem Touched.kept (h : Touched prop s s') (hsound : s.Sound D) (hs : prop.Sent) :
    Kept D s s' := ⟨h.spares, (h.evolves hs.1).sound hsound, h.nextId⟩

/-- Results that hold for requests as the library sends them. -/
structure Serves (s : System) (svc : Nat) (prop : CuProperty) (res : CuResource) : Prop where
  holds : s.Holds prop svc res
  named : prop.unnamed = false
  sent : prop.Sent

/-- The requests have been served since `s`, each with a channel of its own. -/
structure Batch (D : Discipline) (svc : Nat) (s s' : System) (props : List CuProperty)
    (done : List CuResource) : Prop extends Kept D s s' where
  serves : List.Forall₂ (s'.Serves svc) props done
  fresh : ∀ res ∈ done, s.liveAt res.place = none
  apart : (done.map (·.place)).Nodup

namespace Batch

variable {props : List CuProperty} {done : List CuResource}

theorem start (svc : Nat) (hsound : s.Sound D) : Batch D svc s s [] [] :=
  { Kept.refl hsound with
    serves := .nil
    fresh := by simp
    apart := List.nodup_nil }

theorem live (h : Batch D svc s s' props done) :
    ∀ res ∈ done, s'.liveAt res.place ≠ none := by
  refine forall₂_right h.serves fun prop res hserves => ?_
  obtain ⟨chan, hlive, -⟩ := hserves.holds.carried
  simp [hlive]

theorem kept (h : Batch D svc s s₁ props done) (hkept : Kept D s₁ s') :
    Batch D svc s s' props done :=
  { h.toKept.trans hkept with
    serves := h.serves.imp fun _ _ hserves =>
      ⟨hserves.holds.spared hkept.spares (by simp), hserves.named, hserves.sent⟩
    fresh := h.fresh
    apart := h.apart }

/-- What is served later is served since an earlier state, too. -/
theorem after (h : Batch D svc s₁ s' props done) (hkept : Kept D s s₁) :
    Batch D svc s s' props done :=
  { hkept.trans h.toKept with
    serves := h.serves
    fresh := fun res hres => by
      by_contra hlive
      obtain ⟨chan, hchan⟩ := Option.ne_none_iff_exists'.mp hlive
      have hlater := hkept.spares.live _ chan (by simp) hchan
      rw [h.fresh res hres] at hlater
      simp at hlater
    apart := h.apart }

/-- One more request is served. -/
theorem grab (h : Batch D svc s s₁ props done) (hs : prop.Sent) (hnamed : prop.unnamed = false)
    (hsvc : svc ≠ 0) {dev dev' : DeviceData} (hdev : s₁.devList[devId]? = some dev)
    (hg : DeviceData.Grab prop svc devId dev dev' res) :
    Batch D svc s (s₁.setDev devId dev') (props ++ [prop]) (done ++ [res]) := by
  obtain ⟨hspares, hholds, hfree, -⟩ := spares_of_grab h.sound hs hdev hg
  have hsound : (s₁.setDev devId dev').Sound D :=
    (evolves_setDev hdev (.single (hg.act hs.received hsvc))).sound h.sound
  have hkept := h.kept ⟨hspares, hsound, rfl⟩
  refine { hkept with serves := ?_, fresh := ?_, apart := ?_ }
  · exact List.rel_append hkept.serves (.cons ⟨hholds, hnamed, hs⟩ .nil)
  · intro res' hres
    rcases List.mem_append.mp hres with hres | hres
    · exact h.fresh res' hres
    · rw [List.mem_singleton.mp hres]
      -- a live channel would have stayed live
      by_contra hlive
      obtain ⟨chan, hchan⟩ := Option.ne_none_iff_exists'.mp hlive
      rw [h.spares.live _ chan (by simp) hchan] at hfree
      simp at hfree
  · rw [List.map_append, List.map_cons, List.map_nil, List.nodup_append]
    refine ⟨h.apart, List.nodup_singleton _, ?_⟩
    intro place hplace other hother heq
    obtain ⟨res', hres, rfl⟩ := List.mem_map.mp hplace
    rw [List.mem_singleton.mp hother] at heq
    exact h.live res' hres (heq ▸ hfree)

end Batch

theorem Serves.spared (h : s.Serves svc prop res) (hspares : s.Spares s' gone)
    (hstays : res.place ∉ gone) : s'.Serves svc prop res :=
  ⟨h.holds.spared hspares hstays, h.named, h.sent⟩

theorem Serves.clientId (h : s.Serves svc prop res) : res.clientId ≠ 0 := by
  rw [h.holds.reports.clientId]
  exact h.sent.1

/-- Releasing results changes no channel but theirs. -/
theorem spares_releaseInOrder {props : List CuProperty} {done : List CuResource}
    (hserves : List.Forall₂ (s.Serves svc) props done) (hapart : (done.map (·.place)).Nodup)
    (hsound : s.Sound D) : s.Spares (releaseInOrder done s).1 (done.map (·.place)) := by
  induction done generalizing s props with
  | nil => exact .refl s
  | cons res rest ih =>
      obtain ⟨prop, props, hone, hrest, rfl⟩ := List.forall₂_cons_right_iff.mp hserves
      obtain ⟨hnotin, hapart⟩ := List.nodup_cons.mp hapart
      have hrelease := hone.holds.spares_release hsound hone.named hone.sent
      have hsound' : (s.resReleaseCu res).1.Sound D :=
        (resReleaseCu_evolves D s hone.clientId).sound hsound
      have hrest' : List.Forall₂ ((s.resReleaseCu res).1.Serves svc) props rest := by
        refine forall₂_imp_mem hrest fun prop' res' hres hserves => hserves.spared hrelease ?_
        intro hplace
        refine hnotin (List.mem_map.mpr ⟨res', hres, ?_⟩)
        exact List.mem_singleton.mp hplace
      have hall := hrelease.trans (ih hrest' hapart hsound')
      rw [releaseInOrder]
      split
      · rename_i heq
        rw [heq] at hall
        exact hall
      · rename_i heq
        rw [heq] at hrelease
        exact hrelease.trans (spares_self _ _)

theorem Batch.release {props : List CuProperty} {done : List CuResource}
    (h : Batch D svc s s' props done) : Kept D s (releaseInOrder done s').1 where
  spares := (h.spares.trans (spares_releaseInOrder h.serves h.apart h.sound)).mono
    (by simpa using h.fresh)
  sound := (releaseInOrder_evolves D done s'
    (forall₂_right h.serves fun _ _ hserves => hserves.clientId)).sound h.sound
  nextId := (releaseInOrder_nextId done s').trans h.nextId

/-! ## Several CUs on one device -/

/-- The outcome of a loop over the items on a device: all are served there, or nothing is left. -/
def OnDevice (D : Discipline) (svc devId : Nat) (s : System) (props : List CuProperty) :
    System × Option (List CuResource) → Prop
  | (s', some done) => Batch D svc s s' props done ∧ ∀ res ∈ done, res.deviceId = devId
  | (s', none) => Kept D s s'

theorem allocItemsOnDev_batch {props : List CuProperty} (hq : ∀ prop ∈ props, prop.Sent)
    {served : List CuProperty} {done : List CuResource} (hsvc : svc = s.getNextAllocServiceId)
    (h : Batch D svc s s₁ served done) (hdone : ∀ res ∈ done, res.deviceId = devId)
    (hload : ∀ dev, s₁.devList[devId]? = some dev → dev.isLoaded = true) :
    OnDevice D svc devId s (served ++ props) (allocItemsOnDev devId props s₁ done) := by
  induction props generalizing s₁ served done with
  | nil =>
      rw [List.append_nil]
      exact ⟨h, hdone⟩
  | cons prop props ih =>
      have hs : prop.Sent := hq prop (by simp)
      rw [allocItemsOnDev]
      split
      · exact h.release
      rename_i dev hdev
      split
      · exact h.release
      rename_i dev₁ hreg
      split
      · rename_i dev' res halloc
        obtain ⟨hnamed, hg⟩ := allocCuFromDev_ok hreg halloc
        rw [h.nextId, ← hsvc] at hg
        have hnext := h.grab hs hnamed (by rw [hsvc]; exact nextId_ne_zero _) hdev hg
        have hall := ih (fun p hp => hq p (by simp [hp])) hnext ?_ ?_
        · simpa using hall
        · intro res' hres
          rcases List.mem_append.mp hres with hres | hres
          · exact hdone res' hres
          · rw [List.mem_singleton.mp hres]
            exact (spares_of_grab h.sound hs hdev hg).2.2.2
        · intro x hx
          rw [getElem?_setDev_self hdev, Option.some.injEq] at hx
          rw [← hx, grab_isLoaded hg]
          exact hload dev hdev
      · have htouch : Touched prop s₁ (s₁.setDev devId (dev₁.dropClient prop.clientId)) :=
          .single ⟨devId, dev, _, hdev, ⟨hload dev hdev, dev₁, hreg, rfl⟩, rfl⟩
        exact (h.kept (htouch.kept h.sound hs)).release

/-- The outcome of the search for a device that takes all items. -/
def OnSomeDevice (D : Discipline) (svc : Nat) (s : System) (props : List CuProperty)
    (usedDevIds devIds : List Nat) : System × Option (Nat × List CuResource) → Prop
  | (s', some (devId, done)) => Batch D svc s s' props done ∧
      (∀ res ∈ done, res.deviceId = devId) ∧ devId ∈ devIds ∧ devId ∉ usedDevIds
  | (s', none) => Kept D s s'

theorem allocOnSameDevice_batch {props : List CuProperty} (hq : ∀ prop ∈ props, prop.Sent)
    (usedDevIds devIds : List Nat) (hsound : s.Sound D) (hsvc : svc = s.getNextAllocServiceId) :
    OnSomeDevice D svc s props usedDevIds devIds
      (allocOnSameDevice props usedDevIds devIds s) := by
  induction devIds generalizing s with
  | nil => exact .refl hsound
  | cons devId devIds ih =>
      have hskip : ∀ {s₁ : System}, Kept D s s₁ → OnSomeDevice D svc s props usedDevIds
          (devId :: devIds) (allocOnSameDevice props usedDevIds devIds s₁) := by
        intro s₁ hkept
        have hrest := ih hkept.sound (by rw [hsvc, hkept.nextId])
        rcases hr : allocOnSameDevice props usedDevIds devIds s₁ with ⟨s', _ | ⟨devId', done⟩⟩
        · rw [hr] at hrest
          exact hkept.trans hrest
        · rw [hr] at hrest
          obtain ⟨hbatch, hdone, hmem, hused⟩ := hrest
          exact ⟨hbatch.after hkept, hdone, by simp [hmem], hused⟩
      rw [allocOnSameDevice]
      split
      · rename_i hfree
        rw [Bool.and_eq_true] at hfree
        have hload : ∀ dev, s.devList[devId]? = some dev → dev.isLoaded = true := by
          intro dev hdev
          rw [hdev] at hfree
          exact DeviceData.isLoaded_of_isFreeForClient hfree.1
        have hone := allocItemsOnDev_batch hq hsvc (Batch.start svc hsound) (by simp) hload
        split
        · rename_i s₁ done heq
          rw [heq] at hone
          obtain ⟨hbatch, hdone⟩ := hone
          exact ⟨hbatch, hdone, by simp, by simpa using hfree.2⟩
        · rename_i s₁ heq
          rw [heq] at hone
          exact hskip hone
      · exact hskip (.refl hsound)

end System

end Xrm
