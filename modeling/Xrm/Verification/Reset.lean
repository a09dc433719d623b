import Xrm.Verification.InUse
import Xrm.Verification.Recycling

/-! # Resetting a device

A reset recycles the clients that the device's client table names and unloads the device, which a
busy device refuses. A client that is known from a reservation only is not in the table.
-/

namespace Xrm

open FixedTable

/-! ## Who occupies a device -/

namespace CuData

def HasChannelOf (cu : CuData) (c : Nat) : Prop := ∃ chan ∈ cu.channels, chan.clientId = c

def HasSlotOf (cu : CuData) (c : Nat) : Prop := ∃ r ∈ cu.slots, r.clientId = c

variable {cu cu' : CuData} {c d : Nat}

theorem SlotsRecycled.hasChannel (h : SlotsRecycled c 0 cu cu') (d : Nat) :
    cu'.HasChannelOf d ↔ cu.HasChannelOf d := by
  rw [HasChannelOf, h.users.channels, HasChannelOf]

theorem SlotsRecycled.hasSlot (h : SlotsRecycled c 0 cu cu') (d : Nat) :
    cu'.HasSlotOf d ↔ d ≠ c ∧ cu.HasSlotOf d := by
  rw [HasSlotOf, h.slots, List.take_zero, List.nil_append, List.drop_zero]
  constructor
  · rintro ⟨r, hr, rfl⟩
    obtain ⟨hmem, hne⟩ := List.mem_filter.mp hr
    exact ⟨by simpa using hne, r, hmem, rfl⟩
  · rintro ⟨hne, r, hr, rfl⟩
    exact ⟨r, List.mem_filter.mpr ⟨hr, by simpa using hne⟩, rfl⟩

theorem hasChannel_of_left (h : DeviceData.Left c cu cu') (hd : d ≠ 0) :
    cu'.HasChannelOf d ↔ d ≠ c ∧ cu.HasChannelOf d := by
  rw [HasChannelOf, h.channels]
  constructor
  · rintro ⟨chan', hmem, heq⟩
    obtain ⟨chan, hchan, rfl⟩ := List.mem_map.mp hmem
    rw [ChannelData.leave] at heq
    split at heq
    · exact absurd heq.symm hd
    · rename_i hne
      exact ⟨heq ▸ hne, chan, hchan, heq⟩
  · rintro ⟨hne, chan, hchan, heq⟩
    refine ⟨chan.leave c, List.mem_map_of_mem hchan, ?_⟩
    rw [ChannelData.leave, if_neg (heq ▸ hne), heq]

theorem hasSlot_of_left (h : DeviceData.Left c cu cu') (d : Nat) :
    cu'.HasSlotOf d ↔ cu.HasSlotOf d := by
  rw [HasSlotOf, h.slots, HasSlotOf]
  constructor
  · rintro ⟨r', hmem, heq⟩
    obtain ⟨r, hr, rfl⟩ := List.mem_map.mp hmem
    exact ⟨r, hr, heq⟩
  · rintro ⟨r, hr, heq⟩
    exact ⟨_, List.mem_map_of_mem hr, heq⟩

/-- Load is in use on a CU exactly when someone has a channel or a slot there. -/
theorem Consistent.idle_iff (h : cu.Consistent) :
    cu.Idle ↔ ∀ c, c ≠ 0 → ¬cu.HasChannelOf c ∧ ¬cu.HasSlotOf c := by
  constructor
  · intro hidle c hc
    refine ⟨fun ⟨chan, hchan, heq⟩ => hc ?_, fun ⟨r, hr, _⟩ => ?_⟩
    · rw [← heq, (h.idle_channels hidle chan hchan).clientId]
    · rw [h.idle_slots hidle] at hr
      simp at hr
  · intro hnone
    have hload : sumBy (·.channelLoadUnified) cu.channels = 0 := by
      refine sumBy_eq_zero fun chan hchan => ?_
      apply ChannelData.Free.load
      apply (h.channels.proper chan hchan).free
      by_contra hc
      exact (hnone _ hc).1 ⟨chan, hchan, rfl⟩
    have hslots : cu.slots = [] := by
      apply List.eq_nil_iff_forall_not_mem.mpr
      intro r hr
      exact (hnone _ (h.slots.active r hr).clientId).2 ⟨r, hr, rfl⟩
    have htotal := h.ledger.total_eq
    rw [hslots, hload] at htotal
    simpa [Idle] using htotal

end CuData

namespace DeviceData

variable {D : Discipline} {dev dev' dev'' : DeviceData} {c d : Nat}

def HasChannelOf (dev : DeviceData) (c : Nat) : Prop := ∃ cu ∈ dev.cuList, cu.HasChannelOf c

def HasSlotOf (dev : DeviceData) (c : Nat) : Prop := ∃ cu ∈ dev.cuList, cu.HasSlotOf c

/-- The client has a channel or a reserve slot on some CU of the device. -/
def OccupiedBy (dev : DeviceData) (c : Nat) : Prop := dev.HasChannelOf c ∨ dev.HasSlotOf c

/-- A device is busy exactly when it is occupied. -/
theorem Sound.busy_iff (h : dev.Sound D) :
    dev.isDeviceBusy = true ↔ ∃ c, c ≠ 0 ∧ dev.OccupiedBy c := by
  constructor
  · intro hbusy
    by_contra hnone
    rw [isDeviceBusy, List.any_eq_true] at hbusy
    obtain ⟨cu, hcu, htotal⟩ := hbusy
    have hidle : cu.Idle := by
      refine (h.consistent cu hcu).idle_iff.mpr fun c hc => ⟨fun hchan => ?_, fun hslot => ?_⟩
      · exact hnone ⟨c, hc, .inl ⟨cu, hcu, hchan⟩⟩
      · exact hnone ⟨c, hc, .inr ⟨cu, hcu, hslot⟩⟩
    rw [CuData.Idle] at hidle
    simp [hidle] at htotal
  · rintro ⟨c, hc, hocc⟩
    by_contra hbusy
    have hidle := idle_of_not_busy (by simpa using hbusy)
    rcases hocc with ⟨cu, hcu, hchan⟩ | ⟨cu, hcu, hslot⟩
    · exact ((h.consistent cu hcu).idle_iff.mp (hidle cu hcu) c hc).1 hchan
    · exact ((h.consistent cu hcu).idle_iff.mp (hidle cu hcu) c hc).2 hslot

theorem Sound.not_occupied (h : dev.Sound D) (hload : dev.isLoaded = false) (c : Nat) :
    ¬dev.OccupiedBy c := by
  have hnil := h.unloaded hload
  rintro (⟨cu, hcu, -⟩ | ⟨cu, hcu, -⟩) <;> simp [hnil] at hcu

/-! ## What recycling one client takes from a device -/

/-- Recycling client `c` takes channels, slots and entries of nobody else. -/
structure Sheds (c : Nat) (dev dev' : DeviceData) : Prop where
  isLoaded : dev'.isLoaded = dev.isLoaded
  deviceHandle : dev'.deviceHandle = dev.deviceHandle
  others : ∀ d, d ≠ 0 → d ≠ c → (dev'.OccupiedBy d ↔ dev.OccupiedBy d)
  channel : dev'.HasChannelOf c → dev.HasChannelOf c
  slot : dev'.HasSlotOf c → dev.HasSlotOf c
  clients : ∀ d, d ≠ c → d ∈ System.clientsOn dev → d ∈ System.clientsOn dev'

theorem Sheds.refl (c : Nat) (dev : DeviceData) : Sheds c dev dev :=
  ⟨rfl, rfl, fun _ _ _ => Iff.rfl, id, id, fun _ _ => id⟩

theorem Sheds.trans (h : Sheds c dev dev') (h' : Sheds c dev' dev'') : Sheds c dev dev'' where
  isLoaded := h'.isLoaded.trans h.isLoaded
  deviceHandle := h'.deviceHandle.trans h.deviceHandle
  others := fun d hd hdc => (h'.others d hd hdc).trans (h.others d hd hdc)
  channel := h.channel ∘ h'.channel
  slot := h.slot ∘ h'.slot
  clients := fun d hd hmem => h'.clients d hd (h.clients d hd hmem)

theorem Sheds.occupied (h : Sheds c dev dev') (hocc : dev'.OccupiedBy c) : dev.OccupiedBy c :=
  hocc.imp h.channel h.slot

theorem clientsOn_congr (hex : dev'.isExcl = dev.isExcl)
    (hprocs : dev'.clientProcs = dev.clientProcs) :
    System.clientsOn dev' = System.clientsOn dev := by
  rw [System.clientsOn, hex, holder, hprocs, System.clientsOn, holder]

theorem mem_clientsOn_shared (hex : dev.isExcl = false) :
    d ∈ System.clientsOn dev ↔ d ≠ 0 ∧ ∃ entry ∈ dev.clientProcs, entry.clientId = d := by
  simp [System.clientsOn, hex, and_comm]

theorem mem_clientsOn_excl (hex : dev.isExcl = true) (hmem : d ∈ System.clientsOn dev) :
    d = dev.holder.clientId := by
  rw [System.clientsOn, if_pos hex] at hmem
  split at hmem
  · simpa using hmem
  · simp at hmem

theorem recycleReserves_sheds (hcons : ∀ cu ∈ dev.cuList, cu.Consistent) (tmpSum change : Int) :
    Sheds c dev ({ dev with cuList := (recycleReserves c dev.cuList tmpSum).1 }.updateDeviceLoad
        change 0) ∧
      ¬({ dev with cuList := (recycleReserves c dev.cuList tmpSum).1 }.updateDeviceLoad
        change 0).HasSlotOf c := by
  have hrec := recycleReserves_spec c dev.cuList tmpSum hcons
  have hchannel : ∀ d, ({ dev with
      cuList := (recycleReserves c dev.cuList tmpSum).1 }.updateDeviceLoad change 0).HasChannelOf
        d ↔
        dev.HasChannelOf d := fun d =>
    forall₂_exists_iff hrec fun _ _ h => h.hasChannel d
  have hslot : ∀ d, ({ dev with
      cuList := (recycleReserves c dev.cuList tmpSum).1 }.updateDeviceLoad change 0).HasSlotOf d ↔
        ∃ cu ∈ dev.cuList, d ≠ c ∧ cu.HasSlotOf d := fun d =>
    forall₂_exists_iff hrec fun _ _ h => h.hasSlot d
  refine ⟨⟨rfl, rfl, fun d _ hdc => ?_, (hchannel c).mp, fun h => ?_, ?_⟩, fun h => ?_⟩
  · refine or_congr (hchannel d) ((hslot d).trans ?_)
    simp [HasSlotOf, hdc]
  · obtain ⟨cu, -, hne, -⟩ := (hslot c).mp h
    exact absurd rfl hne
  · intro d _ hmem
    rwa [clientsOn_congr (by rfl) (by rfl)]
  · obtain ⟨cu, -, hne, -⟩ := (hslot c).mp h
    exact absurd rfl hne

/-- Freeing an entry of one client leaves the other clients in the table. -/
theorem clientsOn_set {i : Nat} (hex : dev.isExcl = false) (hex' : dev'.isExcl = false)
    (hprocs : dev'.clientProcs = dev.clientProcs.set i ClientData.zero)
    (hfound : (dev.clientProcs.getD i ClientData.zero).clientId = c) (hdc : d ≠ c)
    (hmem : d ∈ System.clientsOn dev) : d ∈ System.clientsOn dev' := by
  rw [mem_clientsOn_shared hex] at hmem
  obtain ⟨hd, entry, hentry, heq⟩ := hmem
  refine (mem_clientsOn_shared hex').mpr ⟨hd, entry, ?_, heq⟩
  rw [hprocs]
  obtain ⟨j, hj, rfl⟩ := List.getElem_of_mem hentry
  have hij : i ≠ j := by
    rintro rfl
    rw [List.getD_eq_getElem _ _ hj] at hfound
    exact hdc (heq.symm.trans hfound)
  exact List.mem_of_getElem? (by rw [List.getElem?_set_ne hij, List.getElem?_eq_getElem hj])

/-- Releasing all channels of the client, whatever becomes of the table. -/
theorem sheds_of_left {dev₁ : DeviceData} (dev' : DeviceData) (hc : c ≠ 0)
    (hleft : LeftDevice c dev dev₁)
    (hcus : dev'.cuList = dev₁.cuList) (hload : dev'.isLoaded = dev.isLoaded)
    (hhandle : dev'.deviceHandle = dev.deviceHandle)
    (hclients : ∀ d, d ≠ c → d ∈ System.clientsOn dev → d ∈ System.clientsOn dev') :
    Sheds c dev dev' ∧ ¬dev'.HasChannelOf c := by
  have hchannel : ∀ d, d ≠ 0 →
      (dev'.HasChannelOf d ↔ ∃ cu ∈ dev.cuList, d ≠ c ∧ cu.HasChannelOf d) := by
    intro d hd
    rw [HasChannelOf, hcus]
    exact forall₂_exists_iff hleft.cus fun _ _ h => CuData.hasChannel_of_left h hd
  have hslot : ∀ d, dev'.HasSlotOf d ↔ dev.HasSlotOf d := by
    intro d
    rw [HasSlotOf, hcus]
    exact forall₂_exists_iff hleft.cus fun _ _ h => CuData.hasSlot_of_left h d
  have hnone : ¬dev'.HasChannelOf c := by
    intro h
    obtain ⟨cu, -, hne, -⟩ := (hchannel c hc).mp h
    exact hne rfl
  refine ⟨⟨hload, hhandle, fun d hd hdc => ?_, fun h => absurd h hnone, (hslot c).mp, hclients⟩,
    hnone⟩
  refine or_congr ((hchannel d hd).trans ?_) (hslot d)
  simp [HasChannelOf, hdc]

/-- The loop over the client table releases the channels of a client that the table names. -/
theorem recycleEntries_sheds (hc : c ≠ 0) (rounds i : Nat) (dev : DeviceData)
    (hcons : ∀ cu ∈ dev.cuList, cu.Consistent) (hex : dev.isExcl = false) :
    Sheds c dev (recycleEntries c rounds i dev) ∧
      ((∃ j entry, i ≤ j ∧ j < i + rounds ∧ dev.clientProcs[j]? = some entry ∧
          entry.clientId = c ∧ entry.ref ≠ 0) →
        ¬(recycleEntries c rounds i dev).HasChannelOf c) := by
  induction rounds generalizing i dev with
  | zero =>
      refine ⟨.refl c dev, ?_⟩
      rintro ⟨j, entry, hle, hlt, -⟩
      omega
  | succ rounds ih =>
      rw [recycleEntries]
      simp only
      by_cases hentry : (dev.clientProcs.getD i ClientData.zero).ref ≠ 0 ∧
          (dev.clientProcs.getD i ClientData.zero).clientId = c
      · rw [if_pos hentry]
        have hspec := releaseAllCuChanClientOnDev_spec hc hcons
        have hframe := hspec.frame
        have hprocs : (dev.releaseAllCuChanClientOnDev c).clientProcs = dev.clientProcs := by
          rw [hframe]
        have hexcl : (dev.releaseAllCuChanClientOnDev c).isExcl = dev.isExcl := by rw [hframe]
        have hload : (dev.releaseAllCuChanClientOnDev c).isLoaded = dev.isLoaded := by rw [hframe]
        have hhandle : (dev.releaseAllCuChanClientOnDev c).deviceHandle = dev.deviceHandle := by
          rw [hframe]
        rw [hprocs]
        obtain ⟨hsheds, hnone⟩ := sheds_of_left { dev.releaseAllCuChanClientOnDev c with
            clientProcs := dev.clientProcs.set i ClientData.zero } hc hspec rfl hload hhandle
          fun d hdc => clientsOn_set hex (hexcl.trans hex) rfl hentry.2 hdc
        have hrest := ih (i + 1) { dev.releaseAllCuChanClientOnDev c with
            clientProcs := dev.clientProcs.set i ClientData.zero }
          (forall₂_forall hspec.cus fun _ _ _ h => h.consistent) (hexcl.trans hex)
        exact ⟨hsheds.trans hrest.1, fun _ h => hnone (hrest.1.channel h)⟩
      · rw [if_neg hentry]
        obtain ⟨hsheds, hnone⟩ := ih (i + 1) dev hcons hex
        refine ⟨hsheds, ?_⟩
        rintro ⟨j, entry, hle, hlt, hj, hcl, href⟩
        refine hnone ⟨j, entry, ?_, by omega, hj, hcl, href⟩
        have hij : i ≠ j := by
          rintro rfl
          apply hentry
          rw [List.getD_eq_getElem?_getD, hj]
          exact ⟨href, hcl⟩
        omega

/-- What recycling the client takes from a loaded device: nothing of the others, and all of the
client if the table names it. -/
theorem recycleOn_sheds (hs : dev.Sound D) (hc : c ≠ 0) (tmpSum : Int) :
    Sheds c dev (dev.recycleOn c tmpSum) ∧
      (c ∈ System.clientsOn dev → ¬(dev.recycleOn c tmpSum).OccupiedBy c) := by
  obtain ⟨hsheds₁, hslot₁⟩ := recycleReserves_sheds (c := c) hs.consistent tmpSum
    (recycleReserves c dev.cuList tmpSum).2
  have hsound₁ := hs.recycleReserves (c := c) tmpSum (recycleReserves c dev.cuList tmpSum).2
  have hsame : System.clientsOn ({ dev with
      cuList := (recycleReserves c dev.cuList tmpSum).1 }.updateDeviceLoad
        (recycleReserves c dev.cuList tmpSum).2 0) = System.clientsOn dev :=
    clientsOn_congr rfl rfl
  rw [recycleOn]
  simp only
  generalize ({ dev with
    cuList := (recycleReserves c dev.cuList tmpSum).1 }.updateDeviceLoad
      (recycleReserves c dev.cuList tmpSum).2 0) = dev₁ at hsheds₁ hslot₁ hsound₁ hsame
  by_cases hex : dev₁.isExcl = true
  · rw [if_pos hex]
    by_cases hown : dev₁.holder.clientId = c
    · rw [if_pos hown]
      have hspec := releaseAllCuChanClientOnDev_spec hc hsound₁.consistent
      have hframe := hspec.frame
      have hload : (dev₁.releaseAllCuChanClientOnDev c).isLoaded = dev₁.isLoaded := by rw [hframe]
      have hhandle : (dev₁.releaseAllCuChanClientOnDev c).deviceHandle = dev₁.deviceHandle := by
        rw [hframe]
      obtain ⟨hsheds, hnone⟩ := sheds_of_left { dev₁.releaseAllCuChanClientOnDev c with
          isExcl := false
          clientProcs := List.replicate maxDevClients ClientData.zero } hc hspec rfl hload hhandle
        fun d hdc hmem => absurd ((mem_clientsOn_excl hex hmem).trans hown) hdc
      refine ⟨hsheds₁.trans hsheds, fun _ hocc => ?_⟩
      rcases hocc with hchan | hslot
      · exact hnone hchan
      · exact hslot₁ (hsheds.slot hslot)
    · rw [if_neg hown]
      refine ⟨hsheds₁, fun hmem => ?_⟩
      rw [← hsame] at hmem
      exact absurd (mem_clientsOn_excl hex hmem).symm hown
  · rw [if_neg hex]
    have hex : dev₁.isExcl = false := by simpa using hex
    obtain ⟨hsheds, hnone⟩ := recycleEntries_sheds hc maxDevClients 0 dev₁ hsound₁.consistent hex
    refine ⟨hsheds₁.trans hsheds, fun hmem hocc => ?_⟩
    rcases hocc with hchan | hslot
    · rw [← hsame, mem_clientsOn_shared hex] at hmem
      obtain ⟨-, entry, hentry, hcl⟩ := hmem
      obtain ⟨j, hj, rfl⟩ := List.getElem_of_mem hentry
      have hpos := (hsound₁.shape.proper _ hentry).ref_pos (hcl ▸ hc)
      have hlen := hsound₁.shape.length
      exact hnone ⟨j, _, by omega, by omega, List.getElem?_eq_getElem hj, hcl, by omega⟩ hchan
    · exact hslot₁ (hsheds.slot hslot)

end DeviceData

namespace System

variable {D : Discipline} {s : System} {i : Nat} {dev : DeviceData}

theorem recycleDevices_sheds (hD : ¬D.metered) {c : Nat} (hc : c ≠ 0) (devIds : List Nat)
    (hs : s.Sound D) (tmpSum : Int) (hdev : s.devList[i]? = some dev) :
    ∃ dev', (recycleDevices c devIds s tmpSum).devList[i]? = some dev' ∧
      DeviceData.Sheds c dev dev' ∧ (i ∈ devIds → dev.isLoaded = true →
        c ∈ clientsOn dev → ¬dev'.OccupiedBy c) := by
  induction devIds generalizing s tmpSum dev with
  | nil => exact ⟨dev, hdev, .refl c dev, by simp⟩
  | cons devId devIds ih =>
      by_cases hon : ∃ x, s.devList[devId]? = some x ∧ x.isLoaded = true
      · obtain ⟨x, hx, hload⟩ := hon
        have hsound := hs x (List.mem_of_getElem? hx)
        have hacts := DeviceData.recycleOn_acts hsound hc hload (fun h => absurd h hD) tmpSum
        rw [recycleDevices_cons hsound hx hload]
        have hset := (Evolves.setDev hx hacts).sound hs
        by_cases hi : devId = i
        · subst hi
          rw [hdev, Option.some.injEq] at hx
          subst hx
          obtain ⟨hsheds, hgone⟩ := DeviceData.recycleOn_sheds hsound hc tmpSum
          obtain ⟨dev', hdev', hsheds', -⟩ := ih hset
            (DeviceData.recycleReserves c dev.cuList tmpSum).2
            (getElem?_setDev_self hdev (dev.recycleOn c tmpSum))
          exact ⟨dev', hdev', hsheds.trans hsheds', fun _ _ hmem hocc =>
            hgone hmem (hsheds'.occupied hocc)⟩
        · obtain ⟨dev', hdev', hsheds, hgone⟩ := ih hset
            (DeviceData.recycleReserves c x.cuList tmpSum).2
            ((getElem?_setDev_ne hi (x.recycleOn c tmpSum)).trans hdev)
          exact ⟨dev', hdev', hsheds, fun hmem =>
            hgone ((List.mem_cons.mp hmem).resolve_left (Ne.symm hi))⟩
      · have hoff : ∀ x, s.devList[devId]? = some x → x.isLoaded = false := by
          intro x hx
          simpa using fun hload => hon ⟨x, hx, hload⟩
        rw [recycleDevices_skip hoff]
        obtain ⟨dev', hdev', hsheds, hgone⟩ := ih hs tmpSum hdev
        refine ⟨dev', hdev', hsheds, fun hmem hload => hgone ?_ hload⟩
        rcases List.mem_cons.mp hmem with rfl | hmem
        · rw [hoff dev hdev] at hload
          simp at hload
        · exact hmem

theorem recycleResource_sheds (hD : ¬D.metered) {c : Nat} (hc : c ≠ 0) (hs : s.Sound D)
    (hdev : s.devList[i]? = some dev) :
    ∃ dev', (s.recycleResource c).devList[i]? = some dev' ∧ DeviceData.Sheds c dev dev' ∧
      (dev.isLoaded = true → c ∈ clientsOn dev → ¬dev'.OccupiedBy c) := by
  obtain ⟨dev', hdev', hsheds, hgone⟩ :=
    recycleDevices_sheds hD hc (List.range s.numDevice) hs 0 hdev
  obtain ⟨hi, -⟩ := List.getElem?_eq_some_iff.mp hdev
  exact ⟨dev', hdev', hsheds, hgone (List.mem_range.mpr hi)⟩

/-- What recycling the clients of the table leaves on a device: what belongs to the others. -/
structure Stripped (clients : List Nat) (dev dev' : DeviceData) : Prop where
  isLoaded : dev'.isLoaded = dev.isLoaded
  deviceHandle : dev'.deviceHandle = dev.deviceHandle
  gone : ∀ c ∈ clients, ¬dev'.OccupiedBy c
  others : ∀ c, c ≠ 0 → c ∉ clients → (dev'.OccupiedBy c ↔ dev.OccupiedBy c)

/-- Each of the clients is in the table when its turn comes, or is gone from the device. -/
theorem recycleAll_stripped (hD : ¬D.metered) {clients : List Nat} (hne : ∀ c ∈ clients, c ≠ 0)
    (hs : s.Good D) (hdev : s.devList[i]? = some dev)
    (hmem : ∀ c ∈ clients, dev.isLoaded = true ∧ c ∈ clientsOn dev ∨ ¬dev.OccupiedBy c) :
    ∃ dev', (clients.foldl recycleResource s).devList[i]? = some dev' ∧
      Stripped clients dev dev' := by
  induction clients generalizing s dev with
  | nil => exact ⟨dev, hdev, rfl, rfl, by simp, fun _ _ _ => Iff.rfl⟩
  | cons c clients ih =>
      have hc : c ≠ 0 := hne c (by simp)
      obtain ⟨dev₁, hdev₁, hsheds, hgone⟩ := recycleResource_sheds hD hc hs.sound hdev
      have hgone₁ : ¬dev₁.OccupiedBy c := by
        intro hocc
        rcases hmem c (by simp) with ⟨hload, hin⟩ | hnone
        · exact hgone hload hin hocc
        · exact hnone (hsheds.occupied hocc)
      have hrest : ∀ d ∈ clients,
          dev₁.isLoaded = true ∧ d ∈ clientsOn dev₁ ∨ ¬dev₁.OccupiedBy d := by
        intro d hd
        by_cases hdc : d = c
        · exact .inr (hdc ▸ hgone₁)
        · rcases hmem d (by simp [hd]) with ⟨hload, hin⟩ | hnone
          · exact .inl ⟨hsheds.isLoaded.trans hload, hsheds.clients d hdc hin⟩
          · exact .inr fun hocc => hnone ((hsheds.others d (hne d (by simp [hd])) hdc).mp hocc)
      obtain ⟨dev', hdev', hstripped⟩ := ih (fun d hd => hne d (by simp [hd]))
        (hs.recycle hc fun h => absurd h hD) hdev₁ hrest
      refine ⟨dev', hdev', hstripped.isLoaded.trans hsheds.isLoaded,
        hstripped.deviceHandle.trans hsheds.deviceHandle, fun d hd => ?_, fun d hd hnot => ?_⟩
      · rcases List.mem_cons.mp hd with rfl | hd
        · by_cases hagain : d ∈ clients
          · exact hstripped.gone d hagain
          · exact fun hocc => hgone₁ ((hstripped.others d hc hagain).mp hocc)
        · exact hstripped.gone d hd
      · simp only [List.mem_cons, not_or] at hnot
        exact (hstripped.others d hd hnot.2).trans (hsheds.others d hd hnot.1)

/-- A device is idle after that exactly if only these clients occupied it. -/
theorem Stripped.idle_iff {clients : List Nat} {dev dev' : DeviceData}
    (h : Stripped clients dev dev') (hs : dev'.Sound D) :
    dev'.isDeviceBusy = false ↔ ∀ c, c ≠ 0 → dev.OccupiedBy c → c ∈ clients := by
  constructor
  · intro hidle c hc hocc
    by_contra hnot
    have hbusy := hs.busy_iff.mpr ⟨c, hc, (h.others c hc hnot).mpr hocc⟩
    rw [hidle] at hbusy
    simp at hbusy
  · intro hall
    by_contra hbusy
    obtain ⟨c, hc, hocc⟩ := hs.busy_iff.mp (by simpa using hbusy)
    by_cases hin : c ∈ clients
    · exact h.gone c hin hocc
    · exact hin (hall c hc ((h.others c hc hin).mp hocc))

end System

/-! ## The reset -/

/-- What a reset is for: no xclbin, no CU, no channel, no slot, no client and no handle. -/
structure DeviceData.Emptied (dev : DeviceData) : Prop where
  isLoaded : dev.isLoaded = false
  numCu : dev.numCu = 0
  occupied : ∀ c, c ≠ 0 → ¬dev.OccupiedBy c
  clientProcs : ∀ entry ∈ dev.clientProcs, entry = ClientData.zero
  deviceHandle : dev.deviceHandle = false

namespace DeviceData

variable {D : Discipline} {dev : DeviceData}

theorem emptied_cleared (h : dev.isDeviceBusy = false) :
    ({ dev.deviceClearInfo with deviceHandle := false } : DeviceData).Emptied := by
  rw [deviceClearInfo_of_not_busy h]
  refine ⟨rfl, rfl, ?_, fun entry he => (List.mem_replicate.mp he).2, rfl⟩
  rintro c - (⟨cu, hcu, -⟩ | ⟨cu, hcu, -⟩) <;> simp [flushDevData] at hcu

/-- Unloading a device with a willing driver and closing it empties it exactly if it is not
busy. -/
theorem unload_emptied_iff (hs : dev.Sound D) (devId : Nat) {call : XrtCall}
    (hcall : call.closeContext = 0) (errmsg : String) :
    ({ (dev.unloadOneDevice devId call errmsg).1 with deviceHandle := false } :
      DeviceData).Emptied ↔ dev.isDeviceBusy = false := by
  rw [unloadOneDevice]
  by_cases hload : dev.isLoaded = true
  · rw [if_neg (by simp [hload])]
    by_cases hbusy : dev.isDeviceBusy = true
    · rw [if_pos hbusy]
      constructor
      · intro h
        have hoff : dev.isLoaded = false := h.isLoaded
        rw [hload] at hoff
        simp at hoff
      · intro h
        rw [hbusy] at h
        simp at h
    · have hidle : dev.isDeviceBusy = false := by simpa using hbusy
      rw [if_neg hbusy, if_neg (by simp [hcall])]
      exact ⟨fun _ => hidle, emptied_cleared⟩
  · have hoff : dev.isLoaded = false := by simpa using hload
    rw [if_pos (by simp [hoff])]
    have hidle := not_busy_of_empty (hs.unloaded hoff)
    exact ⟨fun _ => hidle, emptied_cleared⟩

end DeviceData

namespace System

variable {D : Discipline} {s : System} {i devId : Nat} {dev : DeviceData}

theorem recycleDevices_length (hD : ¬D.metered) {c : Nat} (hc : c ≠ 0) (devIds : List Nat)
    (hs : s.Sound D) (tmpSum : Int) :
    (recycleDevices c devIds s tmpSum).devList.length = s.devList.length := by
  induction devIds generalizing s tmpSum with
  | nil => rfl
  | cons devId devIds ih =>
      by_cases hon : ∃ x, s.devList[devId]? = some x ∧ x.isLoaded = true
      · obtain ⟨x, hx, hload⟩ := hon
        have hsound := hs x (List.mem_of_getElem? hx)
        have hacts := DeviceData.recycleOn_acts hsound hc hload (fun h => absurd h hD) tmpSum
        rw [recycleDevices_cons hsound hx hload, ih ((Evolves.setDev hx hacts).sound hs)]
        exact List.length_set
      · have hoff : ∀ x, s.devList[devId]? = some x → x.isLoaded = false := by
          intro x hx
          simpa using fun hload => hon ⟨x, hx, hload⟩
        rw [recycleDevices_skip hoff]
        exact ih hs tmpSum

/-- Recycling clients neither loads nor opens a device. -/
theorem recycleAll_labels (hD : ¬D.metered) {clients : List Nat} (hne : ∀ c ∈ clients, c ≠ 0)
    (hs : s.Good D) {dev' : DeviceData}
    (hdev' : (clients.foldl recycleResource s).devList[i]? = some dev') :
    ∃ dev, s.devList[i]? = some dev ∧ dev'.isLoaded = dev.isLoaded ∧
      dev'.deviceHandle = dev.deviceHandle := by
  induction clients generalizing s with
  | nil => exact ⟨dev', hdev', rfl, rfl⟩
  | cons c clients ih =>
      have hc : c ≠ 0 := hne c (by simp)
      rw [List.foldl_cons] at hdev'
      obtain ⟨dev₁, hdev₁, hload, hhandle⟩ := ih (fun d hd => hne d (by simp [hd]))
        (hs.recycle hc fun h => absurd h hD) hdev'
      have hi : i < s.devList.length := by
        obtain ⟨hi, -⟩ := List.getElem?_eq_some_iff.mp hdev₁
        rwa [recycleResource, decNumConcurrentClient, recycleDevices_length hD hc _ hs.sound] at hi
      have hdev := List.getElem?_eq_getElem hi
      obtain ⟨x, hx, hsheds, -⟩ := recycleResource_sheds hD hc hs.sound hdev
      rw [hdev₁, Option.some.injEq] at hx
      subst hx
      exact ⟨_, hdev, hload.trans hsheds.isLoaded, hhandle.trans hsheds.deviceHandle⟩

/-- The system that a reset leaves. -/
theorem resetDevice_devList (hs : s.Good D) (hD : ¬D.metered) (hdev : s.devList[devId]? = some dev)
    (hhandle : dev.deviceHandle = true) {dev₁ : DeviceData}
    (hdev₁ : ((clientsOn dev).foldl recycleResource s).devList[devId]? = some dev₁)
    (env : XrtEnv) :
    (s.resetDevice env devId).1.devList =
      ((clientsOn dev).foldl recycleResource s).devList.set devId
        { (dev₁.unloadOneDevice devId (env.call 0 devId) "").1 with deviceHandle := false } := by
  have hgood := hs.recycleAll (clientsOn_ne_zero dev) fun h => absurd h hD
  rw [resetDevice, hdev]
  simp only
  rw [if_pos hhandle]
  generalize (clientsOn dev).foldl recycleResource s = s₁ at hdev₁ hgood
  have hinit : s₁.initDevices env = s₁ := by
    cases hinited : s₁.devicesInited with
    | true => rw [System.initDevices, if_pos hinited]
    | false =>
        rw [hgood.probed hinited] at hdev₁
        simp at hdev₁
  obtain ⟨hi, -⟩ := List.getElem?_eq_some_iff.mp hdev₁
  have hindex : s₁.devIndex devId = some devId := by
    rw [devIndex, if_pos ⟨by omega, by simpa [numDevice] using hi⟩, Int.toNat_natCast]
  have hunload : (s₁.unloadOneDevice env devId "").1 =
      s₁.setDev devId (dev₁.unloadOneDevice devId (env.call 0 devId) "").1 := by
    rw [unloadOneDevice, hinit]
    simp only [hindex, onDevice, hdev₁]
  have hset := getElem?_setDev_self hdev₁ (dev₁.unloadOneDevice devId (env.call 0 devId) "").1
  generalize s₁.unloadOneDevice env devId "" = unloaded at hunload
  obtain ⟨s₂, errmsg, ret⟩ := unloaded
  simp only at hunload ⊢
  rw [hunload, hset]
  simp only [setDev, List.set_set]

/-- The reset empties the device, and leaves no device loaded with a closed handle that was not so
before. -/
structure EmptiedBy (s : System) (devId : Nat) (s' : System) : Prop where
  device : ∃ dev', s'.devList[devId]? = some dev' ∧ dev'.Emptied
  stranded : ∀ (i : Nat) (dev' : DeviceData), s'.devList[i]? = some dev' → dev'.isLoaded = true →
    dev'.deviceHandle = false →
      ∃ dev, s.devList[i]? = some dev ∧ dev.isLoaded = true ∧ dev.deviceHandle = false

/-- A reset empties the device. In every reachable state, whatever the device carries, a reset of
a device with an open handle whose unlock succeeds empties it exactly if everyone who occupies the
device is a client that its table names. -/
theorem reset_empties {limit : Nat} (h : Reachable allRuns limit s)
    (hdev : s.devList[devId]? = some dev) (hhandle : dev.deviceHandle = true) (env : XrtEnv)
    (hunlock : (env.call 0 devId).closeContext = 0) :
    s.EmptiedBy devId (s.resetDevice env devId).1 ↔
      ∀ c, c ≠ 0 → dev.OccupiedBy c → c ∈ clientsOn dev := by
  have hgood := h.good
  have hD : ¬allRuns.metered := id
  have hsound := hgood.sound dev (List.mem_of_getElem? hdev)
  have hmem : ∀ c ∈ clientsOn dev,
      dev.isLoaded = true ∧ c ∈ clientsOn dev ∨ ¬dev.OccupiedBy c := by
    intro c hc
    by_cases hload : dev.isLoaded = true
    · exact .inl ⟨hload, hc⟩
    · exact .inr (hsound.not_occupied (by simpa using hload) c)
  obtain ⟨dev₁, hdev₁, hstripped⟩ := recycleAll_stripped hD (clientsOn_ne_zero dev) hgood hdev hmem
  have hrecycled := hgood.recycleAll (clientsOn_ne_zero dev) fun h => absurd h hD
  have hsound₁ := hrecycled.sound dev₁ (List.mem_of_getElem? hdev₁)
  have hunload := DeviceData.unload_emptied_iff hsound₁ devId hunlock ""
  obtain ⟨hi, -⟩ := List.getElem?_eq_some_iff.mp hdev₁
  rw [← hstripped.idle_iff hsound₁, ← hunload]
  constructor
  · rintro ⟨⟨dev', hdev', hemptied⟩, -⟩
    rw [resetDevice_devList hgood hD hdev hhandle hdev₁, List.getElem?_set_self hi,
      Option.some.injEq] at hdev'
    rwa [hdev']
  · intro hemptied
    refine ⟨⟨_, ?_, hemptied⟩, fun i dev' hdev' hload hclosed => ?_⟩
    · rw [resetDevice_devList hgood hD hdev hhandle hdev₁, List.getElem?_set_self hi]
    · rw [resetDevice_devList hgood hD hdev hhandle hdev₁] at hdev'
      by_cases hi' : devId = i
      · subst hi'
        rw [List.getElem?_set_self hi, Option.some.injEq] at hdev'
        subst hdev'
        rw [hemptied.isLoaded] at hload
        simp at hload
      · rw [List.getElem?_set_ne hi'] at hdev'
        obtain ⟨x, hx, hl, hh⟩ := recycleAll_labels hD (clientsOn_ne_zero dev) hgood hdev'
        exact ⟨x, hx, hl ▸ hload, hh ▸ hclosed⟩

end System

open Scenario in
/-- Client 1 has a channel and a pool, and client 2 has a channel of that pool. -/
def mixedRun : List Op :=
  [.loadOneDevice (env 1 1) 0 "scaler.xclbin", .resAllocCu (request 1 0 300000) true,
    .resReserveCuPool (pool 1 [request 1 0 500000]), .resAllocCu (request 2 1 200000) true]

open Scenario in
/-- Client 1 has reserved a pool, and nothing is allocated. -/
def untakenRun : List Op :=
  [.loadOneDevice (env 1 1) 0 "scaler.xclbin", .resReserveCuPool (pool 1 [request 1 0 500000])]

namespace System

open Scenario

theorem reset_empties_mixed :
    (after mixedRun).EmptiedBy 0 ((after mixedRun).resetDevice (env 1 1) 0).1 := by
  obtain ⟨dev, hdev⟩ : ∃ dev, (after mixedRun).devList[0]? = some dev :=
    Option.isSome_iff_exists.mp (by decide +kernel)
  have hnamed : ∀ dev ∈ (after mixedRun).devList, dev.deviceHandle = true ∧ ∀ cu ∈ dev.cuList,
      (∀ chan ∈ cu.channels, chan.clientId ≠ 0 → chan.clientId ∈ clientsOn dev) ∧
        ∀ r ∈ cu.slots, r.clientId ∈ clientsOn dev := by
    decide +kernel
  obtain ⟨hhandle, hcus⟩ := hnamed dev (List.mem_of_getElem? hdev)
  apply (reset_empties (reachable_after mixedRun (by decide +kernel)) hdev hhandle (env 1 1)
    rfl).mpr
  rintro c hc (⟨cu, hcu, chan, hchan, rfl⟩ | ⟨cu, hcu, r, hr, rfl⟩)
  · exact (hcus cu hcu).1 chan hchan hc
  · exact (hcus cu hcu).2 r hr

/-- A client that only holds a reservation keeps the device busy: the reset closes the handle of a
device that stays loaded. -/
theorem reset_empties_fails : ∃ limit s, Reachable allRuns limit s ∧ ∃ env devId dev,
    s.devList[devId]? = some dev ∧ dev.deviceHandle = true ∧
      (env.call 0 devId).closeContext = 0 ∧ ¬s.EmptiedBy devId (s.resetDevice env devId).1 ∧
        ∃ dev', (s.resetDevice env devId).1.devList[devId]? = some dev' ∧ dev'.isLoaded = true ∧
          dev'.deviceHandle = false := by
  obtain ⟨dev, hdev⟩ : ∃ dev, (after untakenRun).devList[0]? = some dev :=
    Option.isSome_iff_exists.mp (by decide +kernel)
  obtain ⟨dev', hdev'⟩ : ∃ dev', ((after untakenRun).resetDevice (env 1 1) 0).1.devList[0]? =
      some dev' := Option.isSome_iff_exists.mp (by decide +kernel)
  have hopen : ∀ dev ∈ (after untakenRun).devList, dev.deviceHandle = true := by decide +kernel
  have hleft : ∀ dev' ∈ ((after untakenRun).resetDevice (env 1 1) 0).1.devList,
      dev'.isLoaded = true ∧ dev'.deviceHandle = false := by decide +kernel
  obtain ⟨hload, hclosed⟩ := hleft dev' (List.mem_of_getElem? hdev')
  refine ⟨8, _, reachable_after untakenRun (by decide +kernel), env 1 1, 0, dev, hdev,
    hopen dev (List.mem_of_getElem? hdev), rfl, fun h => ?_, dev', hdev', hload, hclosed⟩
  obtain ⟨x, hx, hemptied⟩ := h.device
  rw [hdev', Option.some.injEq] at hx
  subst hx
  rw [hemptied.isLoaded] at hload
  simp at hload

end System

end Xrm
