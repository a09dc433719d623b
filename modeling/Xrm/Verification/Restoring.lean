import Xrm.Verification.GivingBack

/-! # Failed reservations

A reservation that fails is given back by the id of its pool. Whatever the attempt has charged,
merged and undone until then, the CUs end up as they were.
-/

namespace Xrm

open FixedTable

/-! ## What acts on a pool leave -/

namespace CuData

variable {cu cu' cu'' : CuData} {p i : Nat} {prop : CuProperty}

/-- The channels and the slots of a CU determine its accounts. -/
theorem Consistent.eq_of_slots (h : cu.Consistent) (h' : cu'.Consistent)
    (husers : cu.SameUsers cu') (hslots : cu'.slots = cu.slots) : cu' = cu := by
  have hreserve : cu'.numReserve = cu.numReserve := by
    rw [← h'.slots_length, hslots, h.slots_length]
  have hinuse : cu'.numChanInuse = cu.numChanInuse := by
    rw [h'.channels.inUse, husers.channels, h.channels.inUse]
  have htotal : cu'.totalUsedLoadUnified = cu.totalUsedLoadUnified := by
    rw [h'.ledger.total_eq, husers.channels, hslots, h.ledger.total_eq]
  have hreserved : cu'.totalReservedLoadUnified = cu.totalReservedLoadUnified := by
    rw [h'.ledger.reserved_eq, hslots, h.ledger.reserved_eq]
  have hreserves : cu'.reserves = cu.reserves := by
    have hfilled := h'.slots.filled
    rw [hreserve] at hfilled
    refine hfilled.ext h.slots.filled ?_
    rw [CuData.slots, CuData.slots, hreserve] at hslots
    exact hslots
  obtain ⟨hinfo, hchans, hclients, hnum⟩ := husers
  cases cu
  cases cu'
  simp only [CuData.mk.injEq]
  exact ⟨hinfo, hchans, hinuse, hclients, hnum, hreserves, hreserve, htotal, hreserved⟩

/-- No load of the pool's slots is in use. -/
def Unspent (p : Nat) (cu : CuData) : Prop :=
  ∀ r ∈ cu.slots, r.reservePoolId = p → r.reserveUsedLoadUnified = 0

/-- The CUs differ in what pool `p` has reserved at most, and in nothing that is in use. -/
structure Beside (p : Nat) (cu cu' : CuData) : Prop where
  users : cu.SameUsers cu'
  others : cu'.slots.filter (·.reservePoolId != p) = cu.slots.filter (·.reservePoolId != p)
  unspent : cu.Unspent p → cu'.Unspent p

theorem Beside.refl (p : Nat) (cu : CuData) : Beside p cu cu := ⟨SameUsers.refl cu, rfl, id⟩

theorem Beside.trans (h : Beside p cu cu') (h' : Beside p cu' cu'') : Beside p cu cu'' :=
  ⟨h.users.trans h'.users, h'.others.trans h.others, fun hu => h'.unspent (h.unspent hu)⟩

/-- A reservation only grows or opens the slot of its pool. -/
theorem Reserved.beside (h : Reserved p prop cu cu') : Beside p cu cu' := by
  refine ⟨h.users, ?_, fun hu => ?_⟩
  · rw [h.slots]
    rcases reservedSlots_cases p prop cu.slots with ⟨i, hi, hp, heq⟩ | ⟨-, heq⟩
    · rw [heq]
      exact filter_modify_of_not (fun _ => by simp [hp]) fun _ => by simp [grow, hp]
    · rw [heq, List.filter_append]
      simp [newSlot]
  · intro r hr
    rw [h.slots] at hr
    rcases reservedSlots_cases p prop cu.slots with ⟨i, hi, hp, heq⟩ | ⟨-, heq⟩
    · rw [heq] at hr
      exact forall_mem_modify (f := grow prop.requestLoadUnified) hu (fun r hr => hu r hr) r hr
    · rw [heq] at hr
      rcases List.mem_append.mp hr with hr | hr
      · exact hu r hr
      · rw [List.mem_singleton.mp hr]
        exact fun _ => rfl

theorem beside_whole (hcu : cu.Consistent) (h : cu.Idle) (p c : Nat) (pid : Int) :
    Beside p cu (cu.reserveWhole p c pid) := by
  have hslots := (reserveWhole_filled hcu h p c pid).2
  refine ⟨⟨rfl, rfl, rfl, rfl⟩, ?_, fun _ r hr _ => ?_⟩
  · rw [hslots, hcu.idle_slots h]
    simp [wholeSlot]
  · rw [hslots, List.mem_singleton] at hr
    rw [hr]
    rfl

/-- Giving back the slot of the pool leaves the slots of the others. -/
theorem SlotRemoved.beside (hcu : cu.Consistent) (hi : i < cu.slots.length)
    (hp : cu.slots[i].reservePoolId = p) (h : SlotRemoved i cu cu') : Beside p cu cu' := by
  have hothers := (@filter_of_nodup_key _ (·.reservePoolId) _ hcu.slots.nodup i hi).2
  rw [hp] at hothers
  refine ⟨h.users, ?_, fun hu r hr => ?_⟩
  · rw [h.slots, ← hothers, List.filter_filter]
    simp
  · rw [h.slots] at hr
    exact hu r (List.mem_of_mem_eraseIdx hr)

theorem WithoutPool.beside (h : WithoutPool p cu cu') : Beside p cu cu' := by
  refine ⟨h.users, ?_, fun hu r hr => ?_⟩
  · rw [h.slots, List.filter_filter]
    simp
  · rw [h.slots] at hr
    exact hu r (List.mem_of_mem_filter hr)

/-- A CU of which an unspent pool is taken away again is what it was. -/
theorem WithoutPool.restores {cu₀ : CuData} (h : WithoutPool p cu cu')
    (hbeside : Beside p cu₀ cu) (hcu₀ : cu₀.Consistent) (hcu' : cu'.Consistent)
    (hnew : ∀ r ∈ cu₀.slots, r.reservePoolId ≠ p) : cu' = cu₀ := by
  refine hcu₀.eq_of_slots hcu' (hbeside.users.trans h.users) ?_
  rw [h.slots, hbeside.others, List.filter_eq_self]
  simpa using hnew

end CuData

namespace DeviceData

variable {dev dev' : DeviceData} {p : Nat}

/-- An act on pool `p` leaves the slots of the other pools and what is in use. -/
theorem PoolAct.beside (h : PoolAct p dev dev') (hcons : ∀ cu ∈ dev.cuList, cu.Consistent)
    (hunloaded : dev.isLoaded = false → dev.cuList = []) :
    dev.SameButAccounts dev' ∧ List.Forall₂ (CuData.Beside p) dev.cuList dev'.cuList := by
  cases h with
  | charge hc hpass =>
      rw [reservePass, Option.map_eq_some_iff] at hpass
      obtain ⟨cus', hsearch, rfl⟩ := hpass
      obtain ⟨pre, cu, post, cu', hcus, rfl, -, -, hres⟩ := reserveSearch_spec hsearch
      have hcu := hcons cu (by simp [hcus])
      have hsteps : List.Forall₂ (CuData.Beside p) dev.cuList (pre ++ cu' :: post) := by
        rw [hcus]
        exact List.rel_append (forall₂_refl fun cu _ => .refl p cu)
          (.cons (CuData.reserveLoadFromCu_spec hcu hres).beside
            (forall₂_refl fun cu _ => .refl p cu))
      exact ⟨⟨rfl, hsteps.length_eq.symm⟩, hsteps⟩
  | reserveAll hp hc hidle =>
      refine ⟨⟨rfl, List.length_map _⟩, ?_⟩
      show List.Forall₂ _ dev.cuList (dev.cuList.map _)
      rw [List.forall₂_map_right_iff, List.forall₂_same]
      exact fun cu hcu => CuData.beside_whole (hcons cu hcu) (hidle cu hcu) p _ _
  | relinquish =>
      obtain ⟨hsame, hcus, -⟩ := dev.relinquishDev_spec p hunloaded
      refine ⟨hsame, ?_⟩
      rw [hcus, relinquishedUpTo]
      conv_lhs => rw [← List.takeWhile_append_dropWhile (l := dev.cuList)
        (p := fun cu => !cu.blocks p)]
      refine List.rel_append ?_ (forall₂_refl fun cu _ => .refl p cu)
      rw [List.forall₂_map_right_iff, List.forall₂_same]
      intro cu hcu
      have hb : cu.blocks p = false := by simpa using List.mem_takeWhile_imp hcu
      exact ((hcons cu ((List.takeWhile_sublist _).mem hcu)).withoutPool hb).beside
  | undo hundo =>
      rw [relinquishCuFromDev] at hundo
      split at hundo
      · simp at hundo
      split at hundo
      · simp at hundo
      split at hundo
      · simp at hundo
      split at hundo
      · simp at hundo
      rename_i cuId cu i hfind
      rw [Except.ok.injEq] at hundo
      obtain ⟨j, hj, hcu, -, hi, hp, -, hused⟩ := findUndo_spec hfind
      rw [zero_add] at hj
      subst hj hundo
      have hcu' := hcons cu (List.mem_of_getElem? hcu)
      rw [← hcu'.slot_eq hi] at hused
      have hsteps := forall₂_set (forall₂_refl fun cu _ => CuData.Beside.refl p cu) hcu
        ((CuData.giveBackSlot_spec hcu' hi hused).beside hcu' hi hp)
      exact ⟨⟨rfl, hsteps.length_eq.symm⟩, hsteps⟩

theorem SameButAccounts.trans {dev₁ : DeviceData} (h : dev.SameButAccounts dev₁)
    (h' : dev₁.SameButAccounts dev') : dev.SameButAccounts dev' :=
  ⟨by rw [h'.1, h.1], h'.2.trans h.2⟩

/-- Where the CUs are equal as well, only the load record is left. -/
theorem SameButAccounts.sameButLoad (h : dev.SameButAccounts dev')
    (hcus : dev'.cuList = dev.cuList) : SameButLoad dev dev' := by
  rw [SameButLoad, h.1, hcus]

end DeviceData

namespace System

variable {D : Discipline} {s s' s₁ : System} {p : Nat}

/-- The states differ in the load records and in what pool `p` has reserved. -/
structure Beside (p : Nat) (s s' : System) : Prop where
  devices : List.Forall₂ (fun dev dev' => DeviceData.SameButAccounts dev dev' ∧
    List.Forall₂ (CuData.Beside p) dev.cuList dev'.cuList) s.devList s'.devList
  frame : s' = { s with devList := s'.devList, reservePoolId := s'.reservePoolId }

theorem PoolActs.beside (h : PoolActs p s s') (hsound : s.Sound D) : Beside p s s' := by
  induction h with
  | refl =>
      exact ⟨forall₂_refl fun dev _ => ⟨⟨rfl, rfl⟩, forall₂_refl fun cu _ => .refl p cu⟩, rfl⟩
  | tail hacts hstep ih =>
      have hsound' := (PoolActs.evolves hacts).sound (D := D.unfresh)
        (fun dev hdev => (hsound dev hdev).unfresh) False.elim
      cases hstep with
      | act hdev hact =>
          have hdev' := hsound' _ (List.mem_of_getElem? hdev)
          obtain ⟨hsame, hcus⟩ := hact.beside hdev'.consistent hdev'.unloaded
          refine ⟨?_, ?_⟩
          · obtain ⟨dev₀, hdev₀, hsame₀, hcus₀⟩ := forall₂_getElem? ih.devices hdev
            exact forall₂_set ih.devices hdev₀
              ⟨hsame₀.trans hsame, forall₂_trans hcus₀ hcus fun _ _ _ h h' => h.trans h'⟩
          · rw [System.setDev, ih.frame]
      | updateId => exact ⟨ih.devices, by rw [System.updateReservePoolId, ih.frame]⟩

/-! ## Giving the pool up -/

/-- The pool has no slot. -/
def Unreserved (p : Nat) (s : System) : Prop :=
  ∀ dev ∈ s.devList, ∀ cu ∈ dev.cuList, ∀ r ∈ cu.slots, r.reservePoolId ≠ p

instance (p : Nat) (s : System) : Decidable (s.Unreserved p) :=
  inferInstanceAs (Decidable (∀ dev ∈ s.devList, ∀ cu ∈ dev.cuList, ∀ r ∈ cu.slots, _))

/-- The devices are what they were but for their load records, and all else is unchanged. -/
structure Restored (s s' : System) : Prop where
  devices : List.Forall₂ DeviceData.SameButLoad s.devList s'.devList
  frame : s' = { s with devList := s'.devList }

theorem Restored.refl (s : System) : Restored s s :=
  ⟨forall₂_refl fun dev _ => DeviceData.SameButLoad.refl dev, rfl⟩

theorem Sound.cus_consistent (h : s.Sound D) : ∀ cu ∈ s.cus, cu.Consistent := by
  intro cu hcu
  obtain ⟨dev, hdev, hmem⟩ := List.mem_flatMap.mp hcu
  exact (h dev hdev).consistent cu hmem

theorem Beside.cus (h : Beside p s s') : List.Forall₂ (CuData.Beside p) s.cus s'.cus :=
  List.rel_flatMap h.devices fun _ _ hdev => hdev.2

/-- Devices of the same shape with the same CUs all in all have the same CUs each. -/
theorem sameButLoad_of_flatMap {devs devs' : List DeviceData}
    (h : List.Forall₂ DeviceData.SameButAccounts devs devs')
    (hcus : devs'.flatMap (·.cuList) = devs.flatMap (·.cuList)) :
    List.Forall₂ DeviceData.SameButLoad devs devs' := by
  induction h with
  | nil => exact .nil
  | cons hdev _ ih =>
      rw [List.flatMap_cons, List.flatMap_cons] at hcus
      obtain ⟨hfirst, hrest⟩ := List.append_inj hcus hdev.2
      exact .cons (hdev.sameButLoad hfirst) (ih hrest)

theorem DevActsBy.frame (h : DevActs p s s') : s' = { s with devList := s'.devList } := by
  induction h with
  | refl => rfl
  | tail _ hstep ih =>
      obtain ⟨i, dev, dev', -, -, rfl⟩ := hstep
      rw [System.setDev, ih]

/-- Giving up a pool that is new in `s` leads back to `s`, from any state that acts on the pool
have led to. -/
theorem DevActsBy.restores (h : DevActs p s s₁) (hp : p ≠ 0) (hsound : s.Sound D)
    (hnew : s.Unreserved p) :
    ∃ s', s₁.resRelinquishCuPool p = (s', .ok ()) ∧ Restored s s' := by
  have hbeside := h.acts.beside hsound
  have hsound₁ : s₁.Sound D.unfresh :=
    h.acts.evolves.sound (fun dev hdev => (hsound dev hdev).unfresh) False.elim
  have hsound' := hsound₁.resRelinquishCuPool p
  have hnew₀ : ∀ cu ∈ s.cus, ∀ r ∈ cu.slots, r.reservePoolId ≠ p := by
    intro cu hcu
    obtain ⟨dev, hdev, hmem⟩ := List.mem_flatMap.mp hcu
    exact hnew dev hdev cu hmem
  have hleaves := hsound₁.leavesPool p
  generalize s₁.resRelinquishCuPool p = r at hleaves hsound'
  cases hleaves with
  | invalid hzero => exact absurd hzero hp
  | blocked _ hleft hr hpool hused =>
      -- no load of the pool is in use, since no slot of it was there to use
      have hunspent := forall₂_forall hbeside.cus fun cu₀ hcu₀ cu hbes =>
        hbes.unspent fun r hr hpool => absurd hpool (hnew₀ cu₀ hcu₀ r hr)
      exact absurd (hunspent _ (by rw [hleft.before]; simp) _ hr hpool) hused
  | @left s' _ hleft =>
      obtain ⟨done', hcus', hwithout⟩ := hleft.after
      rw [List.append_nil] at hcus'
      rw [← hcus'] at hwithout
      have hequal : s'.cus = s.cus := by
        refine forall₂_eq (forall₂_trans (T := fun cu₀ cu' => ∃ cu, CuData.Beside p cu₀ cu ∧
          CuData.WithoutPool p cu cu') hbeside.cus hwithout fun _ cu _ h h' => ⟨cu, h, h'⟩) ?_
        rintro i cu₀ cu' hcu₀ hcu' ⟨cu, hbes, hwo⟩
        have hmem := List.mem_of_getElem? hcu₀
        exact hwo.restores hbes (hsound.cus_consistent cu₀ hmem)
          (hsound'.cus_consistent cu' (List.mem_of_getElem? hcu')) (hnew₀ cu₀ hmem)
      refine ⟨s', rfl, ?_, ?_⟩
      · refine sameButLoad_of_flatMap ?_ hequal
        exact forall₂_trans hbeside.devices hleft.devices fun _ _ _ h h' => h.1.trans h'
      · rw [hleft.frame, h.frame]

/-! ## Failed pool requests -/

/-- A pool request that fails has been rejected, or what it did is given up. -/
theorem resReserveCuPool_failed {poolProp : CuPoolProperty} (hc : poolProp.clientId ≠ 0)
    (hs : ∀ prop ∈ poolProp.cuListProp.items, prop.clientId ≠ 0)
    (hfail : (s.resReserveCuPool poolProp).2 = 0) :
    (s.resReserveCuPool poolProp).1 = s ∨ ∃ s₁, DevActs s.getNextReservePoolId s s₁ ∧
      (s.resReserveCuPool poolProp).1 = (s₁.resRelinquishCuPool s.getNextReservePoolId).1 := by
  have hx := reserveXclbins_acts (Q := (· ≠ 0)) (p := s.getNextReservePoolId) poolProp.xclbinUuid
    poolProp.clientProcessId hc poolProp.xclbinNum.toNat s []
  rw [resReserveCuPool] at hfail ⊢
  split
  · exact .inl rfl
  rename_i hcount
  split
  · exact .inl rfl
  rename_i hnum
  rw [if_neg hcount, if_neg hnum] at hfail
  simp only at hfail ⊢
  split at hfail
  · rename_i s₁ heq
    rw [heq] at hx
    exact .inr ⟨s₁, hx, rfl⟩
  rename_i s₁ devIds heq
  rw [heq] at hx
  have hcopies := reserveCopies_acts (Q := (· ≠ 0)) (p := s.getNextReservePoolId) hs
    poolProp.cuListNum.toNat s₁
  split at hfail
  · rename_i s₂ heq₁
    rw [heq₁] at hcopies
    exact .inr ⟨s₂, hx.trans hcopies, rfl⟩
  · exact absurd hfail (nextId_ne_zero _)

theorem resReserveCuPoolV2_failed {poolProp : CuPoolPropertyV2} (hc : poolProp.clientId ≠ 0)
    (hs : ∀ prop ∈ poolProp.cuListProp.items, prop.clientId ≠ 0)
    (hfail : (s.resReserveCuPoolV2 poolProp).2.1 = 0) :
    (s.resReserveCuPoolV2 poolProp).1 = s ∨ ∃ s₁, DevActs s.getNextReservePoolId s s₁ ∧
      (s.resReserveCuPoolV2 poolProp).1 = (s₁.resRelinquishCuPool s.getNextReservePoolId).1 := by
  have hd := reserveDeviceIds_acts (Q := (· ≠ 0)) (p := s.getNextReservePoolId)
    poolProp.clientProcessId hc
    (poolProp.deviceIdListProp.deviceIds.take poolProp.deviceIdListProp.deviceNum.toNat) s
  rw [resReserveCuPoolV2] at hfail ⊢
  simp only at hfail ⊢
  split
  · exact .inl rfl
  rename_i hcount
  split
  · exact .inl rfl
  rename_i hnum
  rw [if_neg hcount, if_neg hnum] at hfail
  split at hfail
  · rename_i s₁ heq
    rw [heq] at hd
    exact .inr ⟨s₁, hd, rfl⟩
  rename_i s₁ heq
  rw [heq] at hd
  have hx := reserveXclbins_acts (Q := (· ≠ 0)) (p := s.getNextReservePoolId) poolProp.xclbinUuid
    poolProp.clientProcessId hc poolProp.xclbinNum.toNat s₁ []
  split at hfail
  · rename_i s₂ heq₁
    rw [heq₁] at hx
    exact .inr ⟨s₂, hd.trans hx, rfl⟩
  rename_i s₂ devIds heq₁
  rw [heq₁] at hx
  have hcopies := reserveCopiesV2_acts (Q := (· ≠ 0)) (p := s.getNextReservePoolId) hs
    poolProp.cuListNum.toNat s₂ []
  split at hfail
  · rename_i s₃ heq₂
    rw [heq₂] at hcopies
    exact .inr ⟨s₃, (hd.trans hx).trans hcopies, rfl⟩
  · exact absurd hfail (nextId_ne_zero _)

/-- The load records of the loaded devices are the same. -/
def SameLoads (s s' : System) : Prop :=
  List.Forall₂ (fun dev dev' : DeviceData => dev.isLoaded = true →
    dev'.devLoadInfo.devCurrentLoad = dev.devLoadInfo.devCurrentLoad ∧
      dev'.devLoadInfo.devLoadRate = dev.devLoadInfo.devLoadRate) s.devList s'.devList

/-- Equal CUs go with equal load records where these are right. -/
theorem Restored.sameLoads (h : Restored s s') (hD : D.metered) (hrec : s.Recorded D)
    (hrec' : s'.Recorded D) : SameLoads s s' := by
  refine List.forall₂_iff_get.mpr ⟨h.devices.length_eq, fun i hi hi' hload => ?_⟩
  have hdev : DeviceData.SameButLoad (s.devList.get ⟨i, hi⟩) (s'.devList.get ⟨i, hi'⟩) :=
    h.devices.get hi hi'
  have hmeter := (hrec _ (List.get_mem s.devList ⟨i, hi⟩)).metered hD hload
  have hmem' := List.get_mem s'.devList ⟨i, hi'⟩
  generalize s.devList.get ⟨i, hi⟩ = dev at hdev hmeter hload
  generalize s'.devList.get ⟨i, hi'⟩ = dev' at hdev hmem'
  obtain ⟨hcus, hload', -, -⟩ := DeviceData.sameButLoad_iff_fields hdev
  have hmeter' := (hrec' dev' hmem').metered hD (hload'.trans hload)
  have hcurrent : dev'.devLoadInfo.devCurrentLoad = dev.devLoadInfo.devCurrentLoad := by
    rw [hmeter'.current, hmeter.current, DeviceData.usedLoad, DeviceData.usedLoad, hcus]
  refine ⟨hcurrent, ?_⟩
  rw [hmeter'.rate, hmeter.rate, DeviceData.loadRate, DeviceData.loadRate, hcurrent,
    DeviceData.numCu, DeviceData.numCu, hcus]

/-- A reservation that fails restores every slot, in its order, and every account of every CU, and
uses up no pool id; where the load records of the devices are right, they are restored as well. -/
theorem failed_reservation {limit : Nat} (h : Reachable D limit s)
    (hnew : s.Unreserved s.getNextReservePoolId) :
    (∀ poolProp, (Op.resReserveCuPool poolProp).Sent → (s.resReserveCuPool poolProp).2 = 0 →
      Restored s (s.resReserveCuPool poolProp).1 ∧
        (D.metered → SameLoads s (s.resReserveCuPool poolProp).1)) ∧
      ∀ poolProp, (Op.resReserveCuPoolV2 poolProp).Sent →
        (s.resReserveCuPoolV2 poolProp).2.1 = 0 →
          Restored s (s.resReserveCuPoolV2 poolProp).1 ∧
            (D.metered → SameLoads s (s.resReserveCuPoolV2 poolProp).1) := by
  have hback : ∀ s', (s' = s ∨ ∃ s₁, DevActs s.getNextReservePoolId s s₁ ∧
      s' = (s₁.resRelinquishCuPool s.getNextReservePoolId).1) →
        Restored s s' ∧ (D.metered → SameLoads s s') := by
    rintro s' (rfl | ⟨s₁, hacts, rfl⟩)
    · exact ⟨.refl s', fun _ => forall₂_refl fun _ _ _ => ⟨rfl, rfl⟩⟩
    · obtain ⟨s', heq, hrestored⟩ := hacts.restores (nextId_ne_zero _) h.good.sound hnew
      have hrec := ((hacts.acts.trans (resRelinquishCuPool_acts _ s₁)).evolves).recorded
        h.good.sound h.good.recorded
      rw [heq] at hrec ⊢
      exact ⟨hrestored, fun hD => hrestored.sameLoads hD h.good.recorded hrec⟩
  exact ⟨fun _ hs hfail => hback _ (resReserveCuPool_failed hs.1 hs.2 hfail),
    fun _ hs hfail => hback _ (resReserveCuPoolV2_failed hs.1 hs.2 hfail)⟩

end System

open Scenario in
/-- Client 2 has reserved on one of four CUs. -/
def fourRun : List Op :=
  [.loadOneDevice (env 2 2) 0 "scaler.xclbin", .loadOneDevice (env 2 2) 1 "scaler.xclbin",
    .resReserveCuPool (pool 2 [request 2 0 300000])]

open Scenario in
/-- A whole device and two copies of a list, of which one fits. -/
def widePool : CuPoolProperty :=
  { pool 1 [request 1 0 600000, request 1 0 300000, request 1 0 700000] with
    cuListNum := 2
    xclbinUuid := [1]
    xclbinNum := 1 }

namespace System

open Scenario

theorem failed_reservation_wide :
    Restored (after fourRun) ((after fourRun).resReserveCuPool widePool).1 ∧
      SameLoads (after fourRun) ((after fourRun).resReserveCuPool widePool).1 := by
  have hrun : Reachable meteredRuns 8 (after fourRun) := by
    refine reachable_after fourRun ⟨⟨trivial, False.elim, False.elim, fun _ => trivial,
      False.elim⟩, ⟨trivial, False.elim, False.elim, fun _ => trivial, False.elim⟩,
      ⟨by decide, False.elim, False.elim, fun _ => trivial, False.elim⟩, trivial⟩
  obtain ⟨hrestored, hloads⟩ := (failed_reservation hrun (by decide +kernel)).1 widePool
    (by decide) (by decide +kernel)
  exact ⟨hrestored, hloads trivial⟩

example : ((after fourRun).resReserveCuPool { widePool with cuListNum := 1 }).2 = 2 := by
  decide +kernel

end System

end Xrm
