import Xrm.Library.Ticket
import Xrm.Verification.Handing
import Xrm.Verification.Reset

/-! # What is taken back

Releases and recyclings take held channels back, and nothing else does: which channels, step by
step of the lists that they work off.
-/

namespace Xrm

open FixedTable

variable {D : Discipline} {c : Nat}

/-! ## Recycling a client on a device -/

/-- The channel is not one of client `c`. -/
def Holding.isOther (c : Nat) (held : Holding) : Bool := held.1.clientId != c

namespace DeviceData

variable {dev dev' : DeviceData}

theorem Left.heldAt {cu cu' : CuData} (h : Left c cu cu') (k : Nat) :
    cu'.heldAt k = (cu.heldAt k).filter (Holding.isOther c) := by
  have hclears : cu.Clears (fun chan => chan.clientId != c) cu' := by
    refine ⟨h.toCuInfo, h.channels.trans (List.map_congr_left fun chan _ => ?_)⟩
    by_cases hc : chan.clientId = c <;> simp [ChannelData.leave, hc]
  exact hclears.heldAt k

theorem releaseAllCuChanClientOnDev_heldAt (hc : c ≠ 0)
    (hcons : ∀ cu ∈ dev.cuList, cu.Consistent) (place : Nat × Nat) :
    (dev.releaseAllCuChanClientOnDev c).heldAt place =
      (dev.heldAt place).filter (Holding.isOther c) :=
  heldAt_of_forall₂ (f := Option.filter (Holding.isOther c)) rfl
    ((releaseAllCuChanClientOnDev_spec hc hcons).cus.imp fun _ _ h => h.heldAt) place

theorem recycleReserves_heldAt (hcons : ∀ cu ∈ dev.cuList, cu.Consistent) (tmpSum change set : Int)
    (place : Nat × Nat) : ({ dev with
      cuList := (recycleReserves c dev.cuList tmpSum).1 }.updateDeviceLoad change set).heldAt
        place =
        dev.heldAt place :=
  heldAt_of_forall₂ (f := id) rfl
    ((recycleReserves_spec c dev.cuList tmpSum hcons).imp fun _ _ h => h.users.heldAt) place

/-- The loop over the client table takes back all channels of the client if it comes to an entry of
the client, and none otherwise. -/
theorem recycleEntries_heldAt (hc : c ≠ 0) (rounds i : Nat) (dev : DeviceData)
    (hcons : ∀ cu ∈ dev.cuList, cu.Consistent) (place : Nat × Nat) :
    ((∃ j entry, i ≤ j ∧ j < i + rounds ∧ dev.clientProcs[j]? = some entry ∧ entry.ref ≠ 0 ∧
        entry.clientId = c) ∧
      (recycleEntries c rounds i dev).heldAt place =
        (dev.heldAt place).filter (Holding.isOther c)) ∨
      (¬∃ j entry, i ≤ j ∧ j < i + rounds ∧ dev.clientProcs[j]? = some entry ∧ entry.ref ≠ 0 ∧
        entry.clientId = c) ∧
      (recycleEntries c rounds i dev).heldAt place = dev.heldAt place := by
  induction rounds generalizing i dev with
  | zero =>
      refine .inr ⟨?_, rfl⟩
      rintro ⟨j, entry, hle, hlt, -⟩
      omega
  | succ rounds ih =>
      rw [recycleEntries]
      simp only
      by_cases hentry : (dev.clientProcs.getD i ClientData.zero).ref ≠ 0 ∧
          (dev.clientProcs.getD i ClientData.zero).clientId = c
      · rw [if_pos hentry]
        have hhere : dev.clientProcs[i]? = some (dev.clientProcs.getD i ClientData.zero) := by
          rw [List.getD_eq_getElem?_getD] at hentry ⊢
          cases hget : dev.clientProcs[i]? with
          | none =>
              rw [hget] at hentry
              exact absurd rfl hentry.1
          | some entry => rfl
        refine .inl ⟨⟨i, _, by omega, by omega, hhere, hentry⟩, ?_⟩
        have hreleased := releaseAllCuChanClientOnDev_heldAt hc hcons place
        have hcons' := forall₂_forall (releaseAllCuChanClientOnDev_spec hc hcons).cus
          fun _ _ _ h => h.consistent
        rcases ih (i + 1) { dev.releaseAllCuChanClientOnDev c with
            clientProcs := (dev.releaseAllCuChanClientOnDev c).clientProcs.set i ClientData.zero }
          hcons' with ⟨-, hrest⟩ | ⟨-, hrest⟩
        · rw [hrest]
          show ((dev.releaseAllCuChanClientOnDev c).heldAt place).filter _ = _
          rw [hreleased]
          cases dev.heldAt place with
          | none => rfl
          | some held => by_cases h : held.isOther c = true <;> simp [Option.filter, h]
        · exact hrest.trans hreleased
      · rw [if_neg hentry]
        rcases ih (i + 1) dev hcons with ⟨⟨j, entry, hle, hlt, hj⟩, hrest⟩ | ⟨hnone, hrest⟩
        · exact .inl ⟨⟨j, entry, by omega, by omega, hj⟩, hrest⟩
        · refine .inr ⟨?_, hrest⟩
          rintro ⟨j, entry, hle, hlt, hj, href, hcl⟩
          refine hnone ⟨j, entry, ?_, by omega, hj, href, hcl⟩
          have hij : i ≠ j := by
            rintro rfl
            apply hentry
            rw [List.getD_eq_getElem?_getD, hj]
            exact ⟨href, hcl⟩
          omega

/-- Recycling takes back all channels of the client on a device that knows the client, and none on
the others. -/
theorem recycleOn_heldAt (hs : dev.Sound D) (hc : c ≠ 0) (tmpSum : Int) (place : Nat × Nat) :
    (dev.recycleOn c tmpSum).heldAt place =
      if c ∈ System.clientsOn dev then (dev.heldAt place).filter (Holding.isOther c)
      else dev.heldAt place := by
  have hbefore := recycleReserves_heldAt (c := c) hs.consistent tmpSum
    (recycleReserves c dev.cuList tmpSum).2 0 place
  have hsound₁ := hs.recycleReserves (c := c) tmpSum (recycleReserves c dev.cuList tmpSum).2
  have hsame : System.clientsOn ({ dev with
      cuList := (recycleReserves c dev.cuList tmpSum).1 }.updateDeviceLoad
        (recycleReserves c dev.cuList tmpSum).2 0) = System.clientsOn dev :=
    clientsOn_congr rfl rfl
  rw [recycleOn, ← hsame, ← hbefore]
  simp only
  generalize ({ dev with
    cuList := (recycleReserves c dev.cuList tmpSum).1 }.updateDeviceLoad
      (recycleReserves c dev.cuList tmpSum).2 0) = dev₁ at hsound₁
  by_cases hex : dev₁.isExcl = true
  · rw [if_pos hex]
    by_cases hown : dev₁.holder.clientId = c
    · have hmem : c ∈ System.clientsOn dev₁ := by
        rw [System.clientsOn, if_pos hex, if_pos (hsound₁.shape.holder hex), hown]
        exact List.mem_singleton_self c
      rw [if_pos hown, if_pos hmem]
      exact releaseAllCuChanClientOnDev_heldAt hc hsound₁.consistent place
    · rw [if_neg hown, if_neg fun hmem => hown (mem_clientsOn_excl hex hmem).symm]
  · rw [if_neg hex]
    have hex : dev₁.isExcl = false := by simpa using hex
    rcases recycleEntries_heldAt hc maxDevClients 0 dev₁ hsound₁.consistent place with
      ⟨⟨j, entry, -, -, hj, -, hcl⟩, hheld⟩ | ⟨hnone, hheld⟩
    · rw [hheld, if_pos]
      exact (mem_clientsOn_shared hex).mpr ⟨hc, entry, List.mem_of_getElem? hj, hcl⟩
    · rw [hheld, if_neg]
      intro hmem
      obtain ⟨-, entry, hentry, hcl⟩ := (mem_clientsOn_shared hex).mp hmem
      obtain ⟨j, hj, rfl⟩ := List.getElem_of_mem hentry
      have hpos := (hsound₁.shape.proper _ hentry).ref_pos (hcl ▸ hc)
      have hlen := hsound₁.shape.length
      exact hnone ⟨j, _, by omega, by omega, List.getElem?_eq_getElem hj, by omega, hcl⟩

end DeviceData

namespace System

variable {s s' : System} {place : Nat × Nat × Nat} {held : Holding}

/-! ## Recycling a client -/

/-- A recycling of client `c` takes the channel back: it is the client's, and its device knows the
client. -/
def Recycles (s : System) (c : Nat) (place : Nat × Nat × Nat) (held : Holding) : Prop :=
  held.1.clientId = c ∧ ∃ dev, s.devList[place.1]? = some dev ∧ c ∈ clientsOn dev

theorem recycleDevices_heldAt (hD : ¬D.metered) (hc : c ≠ 0) (devIds : List Nat)
    (hnodup : devIds.Nodup) (hs : s.Sound D) (tmpSum : Int) (place : Nat × Nat × Nat) :
    (recycleDevices c devIds s tmpSum).allocServiceId = s.allocServiceId ∧
      ∀ held, (recycleDevices c devIds s tmpSum).heldAt place = some held ↔
        s.heldAt place = some held ∧ ¬(place.1 ∈ devIds ∧ s.Recycles c place held) := by
  induction devIds generalizing s tmpSum with
  | nil => simp [recycleDevices]
  | cons devId devIds ih =>
      obtain ⟨hnotin, hrest⟩ := List.nodup_cons.mp hnodup
      by_cases hon : ∃ dev, s.devList[devId]? = some dev ∧ dev.isLoaded = true
      · obtain ⟨dev, hdev, hload⟩ := hon
        have hsound := hs dev (List.mem_of_getElem? hdev)
        have hacts := DeviceData.recycleOn_acts hsound hc hload (fun h => absurd h hD) tmpSum
        rw [recycleDevices_cons hsound hdev hload]
        obtain ⟨hid, hheld⟩ := ih hrest ((Evolves.setDev hdev hacts).sound hs)
          (DeviceData.recycleReserves c dev.cuList tmpSum).2
        refine ⟨hid, fun held => (hheld held).trans ?_⟩
        rw [heldAt_setDev hdev]
        by_cases hplace : place.1 = devId
        · rw [if_pos hplace, DeviceData.recycleOn_heldAt hsound hc, hplace]
          have hbefore : s.heldAt place = dev.heldAt place.2 := by
            rw [heldAt, hplace, hdev]
            rfl
          have hrecycles : s.Recycles c place held ↔
              held.1.clientId = c ∧ c ∈ clientsOn dev := by
            rw [Recycles, hplace]
            simp [hdev]
          rw [hbefore, hrecycles]
          by_cases hmem : c ∈ clientsOn dev
          · rw [if_pos hmem, Option.filter_eq_some_iff]
            simp [hnotin, hmem, Holding.isOther]
          · rw [if_neg hmem]
            simp [hnotin, hmem]
        · rw [if_neg hplace]
          have hsame : (s.setDev devId (dev.recycleOn c tmpSum)).Recycles c place held ↔
              s.Recycles c place held := by
            rw [Recycles, Recycles, getElem?_setDev_ne (Ne.symm hplace)]
          rw [hsame, List.mem_cons]
          simp only [hplace, false_or]
      · have hoff : ∀ dev, s.devList[devId]? = some dev → dev.isLoaded = false := by
          intro dev hdev
          by_contra hload
          exact hon ⟨dev, hdev, by simpa using hload⟩
        rw [recycleDevices_skip hoff]
        obtain ⟨hid, hheld⟩ := ih hrest hs tmpSum
        refine ⟨hid, fun held => (hheld held).trans ?_⟩
        by_cases hplace : place.1 = devId
        · have hnone : s.heldAt place = none := by
            rw [heldAt, hplace]
            cases hdev : s.devList[devId]? with
            | none => rfl
            | some dev =>
                have hcus := (hs dev (List.mem_of_getElem? hdev)).unloaded (hoff dev hdev)
                exact DeviceData.heldAt_dormant (by simp [DeviceData.Dormant, hcus]) place.2
          simp [hnone]
        · rw [List.mem_cons]
          simp only [hplace, false_or]

/-- A channel is held after a recycling exactly if it was held before and has not been taken
back. -/
theorem recycleResource_heldAt (hD : ¬D.metered) (hc : c ≠ 0) (hs : s.Sound D) :
    (s.recycleResource c).heldAt place = some held ↔
      s.heldAt place = some held ∧ ¬s.Recycles c place held := by
  obtain ⟨-, hheld⟩ := recycleDevices_heldAt hD hc (List.range s.numDevice) List.nodup_range hs 0
    place
  refine (hheld held).trans (and_congr_right fun h => not_congr (and_iff_right_of_imp fun hr => ?_))
  obtain ⟨-, dev, hdev, -⟩ := hr
  exact List.mem_range.mpr (List.getElem?_eq_some_iff.mp hdev).1

theorem recycleResource_allocServiceId (hD : ¬D.metered) (hc : c ≠ 0) (hs : s.Sound D) :
    (s.recycleResource c).allocServiceId = s.allocServiceId :=
  (recycleDevices_heldAt hD hc (List.range s.numDevice) List.nodup_range hs 0 (0, 0, 0)).1

/-- While the references of every client cover its channels, a recycling takes back all channels of
the client. -/
theorem recycles_iff_of_covered (hs : s.Sound D) (hD : D.covered) (hc : c ≠ 0)
    (hheld : s.heldAt place = some held) :
    s.Recycles c place held ↔ held.1.clientId = c := by
  refine and_iff_left_of_imp fun hclient => ?_
  obtain ⟨dev, cu, hdev, hcu, hchan, -⟩ := heldAt_eq_some hheld
  have hsound := hs dev (List.mem_of_getElem? hdev)
  refine ⟨dev, hdev, ?_⟩
  by_contra hnot
  have hnone : ∀ entry ∈ dev.clientProcs, entry.clientId ≠ c := by
    intro entry hentry heq
    by_cases hex : dev.isExcl = true
    · have hholder : dev.holder.clientId ≠ c := by
        intro hholder
        rw [clientsOn, if_pos hex, if_pos (hsound.shape.holder hex), hholder] at hnot
        exact hnot (List.mem_singleton_self c)
      exact hsound.shape.not_mem hex hc hholder entry hentry heq
    · exact hnot ((DeviceData.mem_clientsOn_shared (Bool.eq_false_of_not_eq_true hex)).mpr
        ⟨hc, entry, hentry, heq⟩)
  -- without an entry of the client no channel would change if it left
  have hleft := List.forall₂_same.mp (DeviceData.held_absent hsound hD hc hnone) cu
    (List.mem_of_getElem? hcu)
  have hkept := hleft.heldAt place.2.2
  rw [← heldAt_of_cu hdev hcu, hheld] at hkept
  simp [Holding.isOther, hclient, Option.filter] at hkept

/-! ## Steps that only take channels back -/

/-- The held channels that `takes` does not name stay, as far as their CU can be named, and none is
added. -/
structure Drops (takes : Nat × Nat × Nat → Holding → Prop) (s s' : System) : Prop where
  allocServiceId : s'.allocServiceId = s.allocServiceId
  held : ∀ place held, s'.heldAt place = some held → s.heldAt place = some held
  stays : ∀ place held, s.heldAt place = some held → held.2.Named →
    (s'.heldAt place = some held ↔ ¬takes place held)

variable {takes takes' : Nat × Nat × Nat → Holding → Prop} {s₁ : System}

theorem Calm.drops (h : Calm s s') : Drops (fun _ _ => False) s s' where
  allocServiceId := h.allocServiceId
  held := fun place held hheld => by rw [← h.held, hheld]
  stays := fun place held hheld _ => by simp [h.held, hheld]

theorem Drops.congr (h : Drops takes s s')
    (hiff : ∀ place held, takes place held ↔ takes' place held) : Drops takes' s s' where
  allocServiceId := h.allocServiceId
  held := h.held
  stays := fun place held hheld hnamed => by rw [h.stays place held hheld hnamed, hiff]

theorem Drops.trans (h : Drops takes s s₁) (h' : Drops takes' s₁ s') :
    Drops (fun place held => takes place held ∨ takes' place held) s s' where
  allocServiceId := h'.allocServiceId.trans h.allocServiceId
  held := fun place held hheld => h.held place held (h'.held place held hheld)
  stays := fun place held hheld hnamed => by
    have hfirst := h.stays place held hheld hnamed
    rw [not_or, ← hfirst]
    constructor
    · intro hlast
      have hmid := h'.held place held hlast
      exact ⟨hmid, (h'.stays place held hmid hnamed).mp hlast⟩
    · rintro ⟨hmid, hnot⟩
      exact (h'.stays place held hmid hnamed).mpr hnot

/-! ### Releases -/

/-- A release of the record takes the channel back: it succeeds, and the record has the place and
the service id of the channel. -/
def ReleasesAt (s : System) (res : CuResource) (place : Nat × Nat × Nat) (held : Holding) : Prop :=
  (s.resReleaseCu res).2 = .ok () ∧ res.place = place ∧
    res.allocServiceId = held.1.allocServiceId

/-- Releases in order take the channel back, before the first of them fails. -/
def ReleasesInOrder : List CuResource → System → Nat × Nat × Nat → Holding → Prop
  | [], _, _, _ => False
  | res :: rest, s, place, held => s.ReleasesAt res place held ∨
      (s.resReleaseCu res).2 = .ok () ∧ ReleasesInOrder rest (s.resReleaseCu res).1 place held

/-- The release of a list takes the channel back. -/
def ReleasesOf (maxNum : Nat) (s : System) (listRes : CuListResource) (place : Nat × Nat × Nat)
    (held : Holding) : Prop :=
  (0 ≤ listRes.cuNum ∧ listRes.cuNum ≤ maxNum) ∧
    ReleasesInOrder (listRes.cuResources.take listRes.cuNum.toNat) s place held

theorem resReleaseCu_drops (hs : s.Sound D) {res : CuResource} (hres : res.clientId ≠ 0) :
    Drops (s.ReleasesAt res) s (s.resReleaseCu res).1 where
  allocServiceId := resReleaseCu_allocServiceId s res
  held := fun _ _ => held_of_released hs hres
  stays := fun _ _ => released_held_iff hs hres

theorem releaseInOrder_drops (l : List CuResource) (hl : ∀ res ∈ l, res.clientId ≠ 0)
    (hs : s.Sound D) : Drops (ReleasesInOrder l s) s (releaseInOrder l s).1 := by
  induction l generalizing s with
  | nil => exact (Calm.refl s).drops
  | cons res rest ih =>
      have hres := hl res (by simp)
      have hfirst := resReleaseCu_drops hs hres
      have hev : Develops D s _ := resReleaseCu_evolves D s hres
      rw [releaseInOrder]
      split
      · rename_i s₁ heq
        rw [heq] at hfirst hev
        have hrest := ih (fun r hr => hl r (by simp [hr])) (hev.sound hs)
        exact (hfirst.trans hrest).congr fun place held => by rw [ReleasesInOrder, heq]; simp
      · rename_i s₁ e heq
        rw [heq] at hfirst
        exact hfirst.congr fun place held => by rw [ReleasesInOrder, heq]; simp

theorem releaseList_drops (maxNum : Nat) (listRes : CuListResource)
    (hl : ∀ res ∈ listRes.cuResources, res.clientId ≠ 0) (hs : s.Sound D) :
    Drops (s.ReleasesOf maxNum listRes) s (releaseList maxNum s listRes).1 := by
  rw [releaseList]
  split
  · rename_i hrange
    refine (Calm.refl s).drops.congr fun place held => ?_
    rw [false_iff, ReleasesOf]
    omega
  · rename_i hrange
    refine (releaseInOrder_drops _ (fun res hres => hl res (List.mem_of_mem_take hres)) hs).congr
      fun place held => ?_
    rw [ReleasesOf, and_iff_right (by omega)]

/-! ### Recyclings -/

theorem recycleResource_drops (hD : ¬D.metered) (hc : c ≠ 0) (hs : s.Sound D) :
    Drops (s.Recycles c) s (s.recycleResource c) where
  allocServiceId := recycleResource_allocServiceId hD hc hs
  held := fun _ _ hheld => ((recycleResource_heldAt hD hc hs).mp hheld).1
  stays := fun _ _ hheld _ => by rw [recycleResource_heldAt hD hc hs, and_iff_right hheld]

theorem recycleAll_drops (hD : ¬D.metered) (clients : List Nat) (hne : ∀ c ∈ clients, c ≠ 0)
    (hgood : s.Good D) : Drops (Ticket.TakenIn recycleResource Recycles clients s) s
      (clients.foldl recycleResource s) := by
  induction clients generalizing s with
  | nil => exact (Calm.refl s).drops
  | cons c clients ih =>
      have hc := hne c (by simp)
      exact (recycleResource_drops hD hc hgood.sound).trans
        (ih (fun d hd => hne d (by simp [hd])) (hgood.recycle hc fun h => absurd h hD))

/-- A reset of the device takes the channel back: one of the recyclings does that it makes. -/
def ResetTakes (s : System) (devId : Nat) (place : Nat × Nat × Nat) (held : Holding) : Prop :=
  ∃ dev, s.devList[devId]? = some dev ∧ dev.deviceHandle = true ∧
    Ticket.TakenIn recycleResource Recycles (clientsOn dev) s place held

theorem resetDevice_drops (hD : ¬D.metered) (hgood : s.Good D) (env : XrtEnv) (devId : Nat) :
    Drops (s.ResetTakes devId) s (s.resetDevice env devId).1 := by
  rw [resetDevice]
  split
  · rename_i hnone
    exact (Calm.refl s).drops.congr fun place held => by simp [ResetTakes, hnone]
  rename_i dev hdev
  split
  · rename_i hhandle
    have hrecycled := recycleAll_drops hD (clientsOn dev) (clientsOn_ne_zero dev) hgood
    have hgood' := hgood.recycleAll (clientsOn_ne_zero dev) fun h => absurd h hD
    have hunload := unloadOneDevice_calm hgood'.sound hgood'.probed env devId ""
    have hboth : ∀ {s' : System}, Calm ((clientsOn dev).foldl recycleResource s) s' →
        Drops (s.ResetTakes devId) s s' := fun hcalm =>
      (hrecycled.trans hcalm.drops).congr fun place held => by simp [ResetTakes, hdev, hhandle]
    simp only
    split
    · exact hboth hunload
    · rename_i dev' hdev'
      exact hboth (hunload.trans (calm_setDev hdev' (DeviceData.heldAt_congr rfl)))
  · rename_i hhandle
    exact (Calm.refl s).drops.congr fun place held => by simp [ResetTakes, hdev, hhandle]

/-! ## All operations -/

/-- The operation takes the channel back. -/
def TakesBack (s : System) : Op → Nat × Nat × Nat → Holding → Prop
  | .recycleResource clientId => s.Recycles clientId
  | .resetDevice _ devId => s.ResetTakes devId
  | .resReleaseCu res => s.ReleasesAt res
  | .resReleaseCuList listRes => s.ReleasesOf maxListCuNum listRes
  | .resReleaseCuListV2 listRes => s.ReleasesOf maxListCuNumV2 listRes
  | .resReleaseCuGroup groupRes => s.ReleasesOf maxGroupCuNum groupRes
  | .resReleaseCuGroupV2 groupRes => s.ReleasesOf maxGroupCuNumV2 groupRes
  | _ => fun _ _ => False

/-- The step would use up the last service id, after which they start again at 1. -/
def Wraps (s : System) (op : Op) : Prop := s.allocServiceId = maxId ∧ s.returned op ≠ none

instance (s : System) (op : Op) : Decidable (s.Wraps op) :=
  inferInstanceAs (Decidable (s.allocServiceId = maxId ∧ s.returned op ≠ none))

end System

/-- An allocation that uses up the service id of a success, as the commands ask for it. -/
def Op.updatesId : Op → Bool
  | .resAllocCu _ updateId => updateId
  | .resAllocCuFromDev _ _ updateId => updateId
  | .resAllocLeastUsedCuFromDev _ _ updateId => updateId
  | .resAllocCuV2 _ updateId => updateId
  | .resAllocCuWithLoad _ _ _ updateId => updateId
  | .resAllocCuLeastUsedWithLoad _ _ _ updateId => updateId
  | _ => true

namespace System

variable {s s' : System} {op : Op}

/-- The operation of a command, before the service ids start again. -/
structure StepCounted (s : System) (op : Op) : Prop where
  sent : op.Sent
  updatesId : op.updatesId = true
  unwrapped : ¬s.Wraps op

instance (s : System) (op : Op) : Decidable (s.StepCounted op) :=
  decidable_of_iff (op.Sent ∧ op.updatesId = true ∧ ¬s.Wraps op)
    ⟨fun h => ⟨h.1, h.2.1, h.2.2⟩, fun h => ⟨h.sent, h.updatesId, h.unwrapped⟩⟩

theorem StepCounted.ok (h : s.StepCounted op) : StepOk allRuns s op :=
  ⟨h.sent, False.elim, False.elim, False.elim, False.elim⟩

/-- What a step does to the held channels: an allocation adds channels, the other steps take
channels back. -/
inductive Shifts (s : System) (op : Op) (s' : System) : Prop where
  | hands (h : Hands (Adds s) s s' (s.returned op))
      (htakes : ∀ place held, ¬s.TakesBack op place held)
  | drops (hnone : s.returned op = none) (h : Drops (s.TakesBack op) s s')

theorem Calm.shifts (h : Calm s s') (hnone : s.returned op = none)
    (htakes : ∀ place held, ¬s.TakesBack op place held) : Shifts s op s' :=
  .drops hnone (h.drops.congr fun place held => iff_of_false id (htakes place held))

theorem calm_of_devList (hdevs : s'.devList = s.devList)
    (hid : s'.allocServiceId = s.allocServiceId) : Calm s s' :=
  ⟨fun place => by rw [heldAt, heldAt, hdevs], hid⟩

theorem Good.shifts (h : s.Good allRuns) (hsent : op.Sent) (hupdates : op.updatesId = true) :
    Shifts s op (step s op) := by
  have hgap : ∀ {env : XrtEnv}, allRuns.gapless → env.Gapless := False.elim
  have hD : ¬allRuns.metered := id
  cases op with
  | createContext =>
      refine (calm_of_devList s.createContext_devList.1 ?_).shifts rfl fun _ _ => id
      show s.createContext.1.allocServiceId = s.allocServiceId
      rw [System.createContext]
      split <;> rfl
  | recycleResource clientId => exact .drops rfl (recycleResource_drops hD hsent h.sound)
  | getDeviceNumber env => exact (initDevices_calm h.probed env).shifts rfl fun _ _ => id
  | listDevice env devId => exact (listDevice_calm s env devId).shifts rfl fun _ _ => id
  | loadDevices env entries =>
      exact (loadDevices_calm hgap entries "" h.sound h.probed).shifts rfl fun _ _ => id
  | loadOneDevice env devId xclbin =>
      exact (loadOneDevice_calm hgap devId xclbin "" h.sound h.probed).shifts rfl fun _ _ => id
  | unloadOneDevice env devId =>
      exact (unloadOneDevice_calm h.sound h.probed env devId "").shifts rfl fun _ _ => id
  | enableOneDevice env devId =>
      exact (enableOneDevice_calm h.sound h.probed env devId "").shifts rfl fun _ _ => id
  | disableOneDevice env devId =>
      exact (disableOneDevice_calm h.sound h.probed env devId "").shifts rfl fun _ _ => id
  | resetDevice env devId => exact .drops rfl (resetDevice_drops hD h env devId)
  | resAllocCu prop updateId =>
      obtain rfl : updateId = true := hupdates
      exact .hands ((s.resAllocCu_allocates prop true).hands h hsent).adds fun _ _ => id
  | resAllocCuFromDev deviceId prop updateId =>
      obtain rfl : updateId = true := hupdates
      exact .hands ((s.resAllocCuFromDev_allocates deviceId prop true).hands h hsent).adds
        fun _ _ => id
  | resAllocLeastUsedCuFromDev deviceId prop updateId =>
      obtain rfl : updateId = true := hupdates
      exact .hands (resAllocLeastUsedCuFromDev_hands h hsent deviceId) fun _ _ => id
  | resAllocCuV2 propV2 updateId =>
      obtain rfl : updateId = true := hupdates
      exact .hands (resAllocCuV2_hands h hsent) fun _ _ => id
  | resAllocCuWithLoad env prop xclbin updateId =>
      obtain rfl : updateId = true := hupdates
      exact .hands (resAllocCuWithLoad_hands h hgap hsent xclbin) fun _ _ => id
  | resAllocCuLeastUsedWithLoad env prop xclbin updateId =>
      obtain rfl : updateId = true := hupdates
      exact .hands (resAllocCuLeastUsedWithLoad_hands h hgap hsent xclbin) fun _ _ => id
  | resLoadAndAllocAllCu env xclbin clientId clientProcessId =>
      exact .hands (resLoadAndAllocAllCu_hands h hgap xclbin clientId clientProcessId)
        fun _ _ => id
  | resAllocCuList listProp => exact .hands (resAllocCuList_hands h hsent).adds fun _ _ => id
  | resAllocCuListV2 listProp => exact .hands (resAllocCuListV2_hands h hsent).adds fun _ _ => id
  | resAllocCuGroup groupProp => exact .hands (resAllocCuGroup_hands h hsent).adds fun _ _ => id
  | resAllocCuGroupV2 groupProp =>
      exact .hands (resAllocCuGroupV2_hands h hsent).adds fun _ _ => id
  | resReleaseCu res => exact .drops rfl (resReleaseCu_drops h.sound hsent)
  | resReleaseCuList listRes => exact .drops rfl (releaseList_drops _ listRes hsent h.sound)
  | resReleaseCuListV2 listRes => exact .drops rfl (releaseList_drops _ listRes hsent h.sound)
  | resReleaseCuGroup groupRes => exact .drops rfl (releaseList_drops _ groupRes hsent h.sound)
  | resReleaseCuGroupV2 groupRes => exact .drops rfl (releaseList_drops _ groupRes hsent h.sound)
  | resUdfCuGroupDeclare info =>
      refine (calm_of_devList ?_ ?_).shifts rfl fun _ _ => id <;>
      · simp only [step, resUdfCuGroupDeclare]
        split <;> rfl
  | resUdfCuGroupDeclareV2 info =>
      refine (calm_of_devList ?_ ?_).shifts rfl fun _ _ => id <;>
      · simp only [step, resUdfCuGroupDeclareV2]
        split <;> rfl
  | resUdfCuGroupUndeclare name =>
      refine (calm_of_devList ?_ ?_).shifts rfl fun _ _ => id <;>
      · simp only [step, resUdfCuGroupUndeclare]
        split <;> rfl
  | resUdfCuGroupUndeclareV2 name =>
      refine (calm_of_devList ?_ ?_).shifts rfl fun _ _ => id <;>
      · simp only [step, resUdfCuGroupUndeclareV2]
        split <;> rfl
  | resReserveCuPool poolProp =>
      exact ((resReserveCuPool_acts s poolProp hsent.1 hsent.2).calm h.sound).shifts rfl
        fun _ _ => id
  | resReserveCuPoolV2 poolProp =>
      exact ((resReserveCuPoolV2_acts s poolProp hsent.1 hsent.2).calm h.sound).shifts rfl
        fun _ _ => id
  | resRelinquishCuPool reservePoolId =>
      exact ((resRelinquishCuPool_acts reservePoolId s).calm h.sound).shifts rfl fun _ _ => id
  | resRelinquishCuPoolV2 reservePoolId =>
      exact ((resRelinquishCuPool_acts reservePoolId s).calm h.sound).shifts rfl fun _ _ => id

end System

end Xrm
