import Mathlib.Algebra.Group.Action.Defs
import Mathlib.Algebra.Order.BigOperators.Group.List
import Mathlib.Algebra.Order.Ring.Nat
import Xrm.Model.Available
import Xrm.Verification.Lasting
import Xrm.Verification.Seizing

/-! # How many pools are available

The query reserves pools until none is granted, and gives them up again. It comes to an end unless
the pools ask for nothing.
-/

namespace Xrm

open FixedTable

/-! ## The pools of a query -/

namespace CuData

variable {cu cu' cu'' : CuData} {n p : Nat}

/-- The CUs differ in what pools with ids above `n` have reserved, and none of that is in use. -/
structure Above (n : Nat) (cu cu' : CuData) : Prop where
  users : cu.SameUsers cu'
  kept : cu'.slots.filter (·.reservePoolId ≤ n) = cu.slots
  unspent : ∀ r ∈ cu'.slots, n < r.reservePoolId → r.reserveUsedLoadUnified = 0

theorem Issued.slots (h : cu.Issued n) {r : ReserveData} (hr : r ∈ cu.slots) :
    r.reservePoolId ≤ n := h.pledges r.pledge (List.mem_map_of_mem hr)

theorem Issued.above (h : cu.Issued n) : Above n cu cu := by
  refine ⟨SameUsers.refl cu, ?_, fun r hr hlt => ?_⟩
  · rw [List.filter_eq_self]
    exact fun r hr => by simpa using h.slots hr
  · have := h.slots hr
    omega

theorem Above.beside (h : Above n cu cu') (hb : Beside p cu' cu'') (hp : n < p) :
    Above n cu cu'' := by
  have hfilter : ∀ slots : List ReserveData, slots.filter (·.reservePoolId ≤ n) =
      (slots.filter (·.reservePoolId != p)).filter (·.reservePoolId ≤ n) := by
    intro slots
    rw [List.filter_filter]
    refine List.filter_congr fun r _ => ?_
    by_cases hr : r.reservePoolId ≤ n
    · have hne : r.reservePoolId ≠ p := by omega
      simp [hr, hne]
    · simp [hr]
  refine ⟨h.users.trans hb.users, ?_, fun r hr hlt => ?_⟩
  · rw [hfilter, hb.others, ← hfilter, h.kept]
  · by_cases hpool : r.reservePoolId = p
    · exact hb.unspent (fun r hr hpool => h.unspent r hr (by omega)) r hr hpool
    · have hmem : r ∈ cu''.slots.filter (·.reservePoolId != p) :=
        List.mem_filter.mpr ⟨hr, by simpa using hpool⟩
      rw [hb.others] at hmem
      exact h.unspent r (List.mem_of_mem_filter hmem) hlt

/-- Without the pools the CU is what it was. -/
theorem Above.eq (h : Above n cu cu') (hcu : cu.Consistent) (hcu' : cu'.Consistent)
    (hnone : ∀ r ∈ cu'.slots, r.reservePoolId ≤ n) : cu' = cu := by
  refine hcu.eq_of_slots hcu' h.users ?_
  rw [← h.kept, eq_comm, List.filter_eq_self]
  exact fun r hr => by simpa using hnone r hr

end CuData

namespace System

variable {s s' s₀ s₁ : System} {n p id limit fuel : Nat} {ids : List Nat}

/-- The states differ in the load records and in what pools with ids above `n` have reserved. -/
structure Above (n : Nat) (s s' : System) : Prop where
  devices : List.Forall₂ (fun dev dev' => DeviceData.SameButAccounts dev dev' ∧
    List.Forall₂ (CuData.Above n) dev.cuList dev'.cuList) s.devList s'.devList
  frame : s' = { s with devList := s'.devList, reservePoolId := s'.reservePoolId }

theorem Issued.above (h : s.Issued n) : Above n s s :=
  ⟨forall₂_refl fun dev hdev => ⟨⟨rfl, rfl⟩, forall₂_refl fun cu hcu => (h dev hdev cu hcu).above⟩,
    rfl⟩

theorem Above.beside (h : Above n s s₁) (hb : Beside p s₁ s') (hp : n < p) : Above n s s' := by
  refine ⟨forall₂_trans h.devices hb.devices fun _ _ _ hdev hdev' =>
    ⟨hdev.1.trans hdev'.1, forall₂_trans hdev.2 hdev'.2 fun _ _ _ hcu hcu' => hcu.beside hcu' hp⟩,
    ?_⟩
  rw [hb.frame, h.frame]

theorem Above.cus (h : Above n s s') : List.Forall₂ (CuData.Above n) s.cus s'.cus :=
  List.rel_flatMap h.devices fun _ _ hdev => hdev.2

/-- Without the pools the devices are what they were. -/
theorem Above.restored (h : Above n s s') (hsound : s.Sound allRuns) (hsound' : s'.Sound allRuns)
    (hnone : ∀ cu ∈ s'.cus, ∀ r ∈ cu.slots, r.reservePoolId ≤ n) :
    Restored { s with reservePoolId := s'.reservePoolId } s' := by
  have hequal : s'.cus = s.cus := by
    refine forall₂_eq h.cus fun i cu cu' hcu hcu' habove => ?_
    have hmem := List.mem_of_getElem? hcu'
    exact habove.eq (hsound.cus_consistent cu (List.mem_of_getElem? hcu))
      (hsound'.cus_consistent cu' hmem) (hnone cu' hmem)
  refine ⟨sameButLoad_of_flatMap (h.devices.imp fun _ _ hdev => hdev.1) hequal, ?_⟩
  rw [h.frame]

/-! ### Reserving -/

/-- The outcome for clients that have an id, where the slots of the pool get an owner. -/
theorem PoolEndsBy.own {Q : Nat → Prop} (h : PoolEndsBy Q s s' id)
    (hn : n < s.getNextReservePoolId) : PoolEnds (s.own n) (s'.own n) id := by
  cases h with
  | refused => exact .refused
  | abandoned hacts =>
      have hend : PoolEnds (s.own n) _ 0 := .abandoned (hacts.own hn)
      rwa [show (s.own n).getNextReservePoolId = s.getNextReservePoolId from rfl,
        own_resRelinquishCuPool] at hend
  | @granted s₁ hacts =>
      have hend : PoolEnds (s.own n) (s₁.own n).updateReservePoolId
        (s.own n).getNextReservePoolId := .granted (hacts.own hn)
      exact hend

theorem PoolEndsBy.acts (h : PoolEnds s s' id) : PoolActs s.getNextReservePoolId s s' := by
  cases h with
  | refused => exact .refl _ _
  | abandoned hacts => exact hacts.acts.trans (resRelinquishCuPool_acts _ _)
  | granted hacts => exact hacts.acts.trans (updateReservePoolId_acts _ _)

/-- Acts on one pool leave the slots of the others. -/
theorem Beside.hasSlot {q : Nat} (h : Beside p s s') (hq : q ≠ p) :
    HasSlot q s' ↔ HasSlot q s := by
  have hkept : ∀ cu : CuData, cu.HasSlot q ↔
      ∃ r ∈ cu.slots.filter (·.reservePoolId != p), r.reservePoolId = q := by
    intro cu
    simp only [CuData.HasSlot, List.mem_filter, bne_iff_ne, and_assoc]
    refine exists_congr fun r => and_congr_right fun _ => ⟨fun hpool => ⟨?_, hpool⟩, And.right⟩
    rwa [hpool]
  refine forall₂_exists_iff h.cus fun cu cu' hbeside => ?_
  rw [hkept, hkept, hbeside.others]

/-- What a query has reserved so far: the pools with the next ids, all of which have a slot. -/
structure PoolsTried (s₀ s : System) (ids : List Nat) : Prop where
  above : Above s₀.reservePoolId s₀ s
  sound : s.Sound allRuns
  issued : s.Issued s.reservePoolId
  inOrder : ids = List.range' (s₀.reservePoolId + 1) ids.length
  counter : s.reservePoolId = s₀.reservePoolId + ids.length
  holds : ∀ id ∈ ids, HasSlot id s

theorem Issued.tried (h : s.Issued s.reservePoolId) (hsound : s.Sound allRuns) :
    PoolsTried s s [] :=
  ⟨h.above, hsound, h, rfl, rfl, by simp⟩

theorem PoolsTried.next (h : PoolsTried s₀ s ids) (hid : s.reservePoolId < maxId) :
    s.getNextReservePoolId = s₀.reservePoolId + 1 + ids.length := by
  rw [getNextReservePoolId_eq hid, h.counter]
  omega

/-- The pools that are there keep their slots. -/
theorem PoolsTried.others (h : PoolsTried s₀ s ids) (hends : PoolEnds s s' id)
    (hid : s.reservePoolId < maxId) : ∀ q ∈ ids, HasSlot q s' := by
  intro q hq
  have hnext := h.next hid
  have hle : q < s.getNextReservePoolId := by
    rw [h.inOrder, List.mem_range'] at hq
    obtain ⟨i, hi, rfl⟩ := hq
    omega
  exact ((hends.acts.beside h.sound).hasSlot (by omega)).mpr (h.holds q hq)

theorem PoolsTried.granted (h : PoolsTried s₀ s ids) (hends : PoolEnds s s' id)
    (hid : s.reservePoolId < maxId) (hpos : id ≠ 0) (hholds : HasSlot id s') :
    PoolsTried s₀ s' (ids ++ [id]) := by
  have hcounts := hends.counts h.sound hid
  have hnext := h.next hid
  obtain ⟨heq, hcounter⟩ := hcounts.counter.resolve_left fun hzero => hpos hzero.1
  refine ⟨h.above.beside (hends.acts.beside h.sound) (by omega),
    hends.acts.evolves.sound h.sound False.elim, hcounts.issued h.issued, ?_, ?_, ?_⟩
  · rw [List.length_append, List.length_singleton, List.range'_concat, ← h.inOrder, heq, h.counter]
    congr 2
    omega
  · rw [hcounter, h.counter, List.length_append, List.length_singleton, add_assoc]
  · rw [List.forall_mem_append]
    exact ⟨h.others hends hid, by simpa using hholds⟩

theorem PoolsTried.refused (h : PoolsTried s₀ s ids) (hends : PoolEnds s s' 0)
    (hid : s.reservePoolId < maxId) : PoolsTried s₀ s' ids := by
  have hcounts := hends.counts h.sound hid
  have hnext := h.next hid
  have hcounter : s'.reservePoolId = s.reservePoolId := by
    rcases hcounts.counter with ⟨-, hcounter⟩ | ⟨hzero, -⟩
    · exact hcounter
    · omega
  exact ⟨h.above.beside (hends.acts.beside h.sound) (by omega),
    hends.acts.evolves.sound h.sound False.elim, hcounts.issued h.issued, h.inOrder,
    hcounter.trans h.counter, h.others hends hid⟩

/-- The pools of the slots in use, slot by slot. -/
def slotPools (s : System) : List Nat := s.cus.flatMap fun cu => cu.slots.map (·.reservePoolId)

theorem HasSlot.mem (h : HasSlot p s) : p ∈ s.slotPools := by
  obtain ⟨cu, hcu, r, hr, hpool⟩ := h
  exact List.mem_flatMap.mpr ⟨cu, hcu, List.mem_map.mpr ⟨r, hr, hpool⟩⟩

/-- How many slots the CUs have. -/
def maxSlots (s : System) : Nat := s.cus.length * maxKernelReserves

theorem length_slotPools_le (hsound : s.Sound allRuns) : s.slotPools.length ≤ s.maxSlots := by
  have hcu : ∀ n ∈ s.cus.map fun cu => (cu.slots.map (·.reservePoolId)).length,
      n ≤ maxKernelReserves := by
    intro n hn
    obtain ⟨cu, hcu, rfl⟩ := List.mem_map.mp hn
    rw [List.length_map, CuData.slots, List.length_take]
    have := (hsound.cus_consistent cu hcu).slots.filled.length
    omega
  have hslots := List.sum_le_card_nsmul _ _ hcu
  rw [List.length_map, smul_eq_mul] at hslots
  calc
    s.slotPools.length = (s.cus.map fun cu => (cu.slots.map (·.reservePoolId)).length).sum := by
      rw [slotPools, List.length_flatMap]
    _ ≤ s.cus.length * maxKernelReserves := hslots

theorem PoolsTried.length_le (h : PoolsTried s₀ s ids) : ids.length ≤ s₀.maxSlots := by
  have hnodup : ids.Nodup := by
    rw [h.inOrder]
    exact List.nodup_range'
  have hlength : s.cus.length = s₀.cus.length := h.above.cus.length_eq.symm
  rw [maxSlots, ← hlength]
  exact ((hnodup.subperm fun id hid => (h.holds id hid).mem).length_le).trans
    (length_slotPools_le h.sound)

/-! ### Giving back -/

/-- Giving up a pool of the query. -/
theorem Above.relinquish (h : Above n s₀ s) (hsound : s.Sound allRuns) (hp : n < p) :
    Above n s₀ (s.resRelinquishCuPool p).1 ∧ (s.resRelinquishCuPool p).1.Sound allRuns ∧
      (s.resRelinquishCuPool p).1.reservePoolId = s.reservePoolId ∧
        ∀ cu' ∈ (s.resRelinquishCuPool p).1.cus, ∃ cu ∈ s.cus,
          cu'.slots = cu.slots.filter (·.reservePoolId != p) := by
  have hbeside := (resRelinquishCuPool_acts p s).beside hsound
  refine ⟨h.beside hbeside hp, hsound.resRelinquishCuPool p,
    (resRelinquishCuPool_devActs p s).reservePoolId, ?_⟩
  have hleaves := hsound.leavesPool p
  generalize s.resRelinquishCuPool p = r at hleaves
  cases hleaves with
  | invalid hzero => omega
  | blocked _ hleft hr hpool hused =>
      -- nothing of the pool is in use
      have hunspent := forall₂_forall h.cus fun cu₀ hcu₀ cu habove => habove.unspent
      exact absurd (hunspent _ (by rw [hleft.before]; simp) _ hr (by omega)) hused
  | left _ hleft =>
      obtain ⟨done', hcus, hwithout⟩ := hleft.after
      rw [List.append_nil] at hcus
      rw [← hcus] at hwithout
      exact forall₂_forall hwithout fun cu hcu cu' hw => ⟨cu, hcu, hw.slots⟩

theorem Above.giveBack (h : Above n s₀ s) (hsound : s.Sound allRuns) (hids : ∀ id ∈ ids, n < id)
    (hpools : ∀ cu ∈ s.cus, ∀ r ∈ cu.slots, r.reservePoolId ≤ n ∨ r.reservePoolId ∈ ids)
    (hsound₀ : s₀.Sound allRuns) :
    Restored { s₀ with reservePoolId := s.reservePoolId }
      (ids.foldl (fun s id => (s.resRelinquishCuPool id).1) s) := by
  induction ids generalizing s with
  | nil =>
      exact h.restored hsound₀ hsound fun cu hcu r hr =>
        (hpools cu hcu r hr).resolve_right (List.not_mem_nil)
  | cons id ids ih =>
      obtain ⟨habove, hsound', hcounter, hslots⟩ := h.relinquish hsound (hids id (by simp))
      have hrest := ih habove hsound' (fun q hq => hids q (by simp [hq])) ?_
      · rw [hcounter] at hrest
        exact hrest
      · intro cu' hcu' r hr
        obtain ⟨cu, hcu, hfilter⟩ := hslots cu' hcu'
        rw [hfilter, List.mem_filter] at hr
        have hne : r.reservePoolId ≠ id := by simpa using hr.2
        have hmem := hpools cu hcu r hr.1
        rw [List.mem_cons] at hmem
        exact hmem.imp_right fun hmem => hmem.resolve_left hne

theorem PoolsTried.giveBack (h : PoolsTried s₀ s ids) (hsound₀ : s₀.Sound allRuns) :
    Restored { s₀ with reservePoolId := s₀.reservePoolId + ids.length }
      (ids.foldl (fun s id => (s.resRelinquishCuPool id).1) s) := by
  rw [← h.counter]
  refine h.above.giveBack h.sound (fun id hid => ?_) (fun cu hcu r hr => ?_) hsound₀
  · rw [h.inOrder, List.mem_range'] at hid
    obtain ⟨i, hi, rfl⟩ := hid
    omega
  · have hle := (issued_iff_cus.mp h.issued cu hcu).slots hr
    rw [h.counter] at hle
    rw [h.inOrder, List.mem_range']
    by_cases hold : r.reservePoolId ≤ s₀.reservePoolId
    · exact .inl hold
    · exact .inr ⟨r.reservePoolId - (s₀.reservePoolId + 1), by omega, by omega⟩

/-! ### The query -/

/-- A pool request whose pools have slots, whatever the clients. -/
structure Seizes (reserve : System → System × Nat) : Prop where
  ends : ∀ s, PoolEndsBy (fun _ => True) s (reserve s).1 (reserve s).2
  holds : ∀ {s : System} {n : Nat}, (s.own n).Sound allRuns → s.Populated →
    n < s.getNextReservePoolId → (reserve s).2 ≠ 0 → HasSlot (reserve s).2 (reserve s).1

theorem poolResult_eq_ok {r : System × Nat} (h : poolResult r = (s', .ok id)) :
    r = (s', id) ∧ id ≠ 0 := by
  obtain ⟨s, q⟩ := r
  rw [poolResult, Prod.mk.injEq] at h
  obtain ⟨rfl, h⟩ := h
  split at h
  · simp at h
  · rename_i hq
    rw [Except.ok.injEq] at h
    subst h
    exact ⟨rfl, hq⟩

theorem poolResult_eq_error {r : System × Nat} {e : XrmError}
    (h : poolResult r = (s', .error e)) : r = (s', 0) ∧ e = .error := by
  obtain ⟨s, q⟩ := r
  rw [poolResult, Prod.mk.injEq] at h
  obtain ⟨rfl, h⟩ := h
  split at h
  · rename_i hq
    rw [Except.error.injEq] at h
    exact ⟨Prod.ext rfl hq, h.symm⟩
  · simp at h

/-- The slots are used up by pools that have some. -/
theorem Seizes.supply {reserve : System → System × Nat} (hr : Seizes reserve)
    (hgood : s₀.Good allRuns) (hids : s₀.reservePoolId + s₀.maxSlots < maxId) :
    Drain.Supply (fun s => poolResult (reserve s))
      (fun s ids => PoolsTried s₀ (s.own s₀.reservePoolId) ids)
      (fun s ids e => PoolsTried s₀ (s.own s₀.reservePoolId) ids ∧ e = .error)
      fun _ ids => s₀.maxSlots - ids.length := by
  have hlt : ∀ {s : System} {ids : List Nat}, PoolsTried s₀ (s.own s₀.reservePoolId) ids →
      s.reservePoolId < maxId ∧ s₀.reservePoolId < s.getNextReservePoolId := by
    intro s ids h
    have hle := h.length_le
    have hcounter : s.reservePoolId = s₀.reservePoolId + ids.length := h.counter
    have hlt : s.reservePoolId < maxId := by omega
    rw [getNextReservePoolId_eq hlt]
    omega
  have hmore : ∀ {s s' : System} {ids : List Nat} {id : Nat},
      PoolsTried s₀ (s.own s₀.reservePoolId) ids → poolResult (reserve s) = (s', .ok id) →
        PoolsTried s₀ (s'.own s₀.reservePoolId) (ids ++ [id]) := by
    intro s s' ids id h hok
    obtain ⟨hcounter, hnext⟩ := hlt h
    obtain ⟨heq, hpos⟩ := poolResult_eq_ok hok
    have hends := (hr.ends s).own hnext
    have hpop : (s.own s₀.reservePoolId).Populated :=
      populated_of_same (h.above.devices.imp fun _ _ hdev => hdev.1) hgood.populated
    have hholds := hr.holds h.sound (populated_own.mp hpop) hnext
    rw [heq] at hends hholds
    exact h.granted hends hcounter hpos (hasSlot_own.mpr (hholds hpos))
  refine ⟨hmore, fun h hok => ?_, fun {s s' ids e} h herr => ?_⟩
  · have hle := (hmore h hok).length_le
    rw [List.length_append, List.length_singleton] at hle ⊢
    omega
  · obtain ⟨hcounter, hnext⟩ := hlt h
    obtain ⟨heq, he⟩ := poolResult_eq_error herr
    have hends := (hr.ends s).own hnext
    rw [heq] at hends
    exact ⟨h.refused hends hcounter, he⟩

/-! ### What the pools of a query leave -/

theorem Issued.reserves (h : s.Issued n) (hsound : s.Sound allRuns) :
    ∀ cu ∈ s.cus, ∀ r ∈ cu.reserves, r.reservePoolId ≤ n := by
  intro cu hcu r hr
  rw [(hsound.cus_consistent cu hcu).slots.filled.eq_append, List.mem_append] at hr
  rcases hr with hr | hr
  · exact (issued_iff_cus.mp h cu hcu).slots hr
  · rw [List.eq_of_mem_replicate hr]
    exact Nat.zero_le n

theorem Restored.cus (h : Restored s s') : s'.cus = s.cus := by
  have hlists : s.devList.map (·.cuList) = s'.devList.map (·.cuList) := by
    rw [← List.forall₂_eq_eq_eq, List.forall₂_map_left_iff, List.forall₂_map_right_iff]
    exact h.devices.imp fun _ _ hdev => (DeviceData.sameButLoad_iff_fields hdev).1.symm
  rw [System.cus, System.cus, List.flatMap_def, List.flatMap_def, hlists]

/-- A query for such pools comes to an end and gives back what it has reserved. -/
theorem Seizes.borrows {reserve : System → System × Nat} (hr : Seizes reserve)
    (hgood : s.Good allRuns) (hissued : s.Issued s.reservePoolId)
    (hids : s.reservePoolId + s.maxSlots < maxId) (hfuel : s.maxSlots < fuel) :
    ∃ n s', availableNum (fun s => poolResult (reserve s)) resRelinquishCuPool fuel s =
        some (s', .ok n) ∧ Restored { s with reservePoolId := s.reservePoolId + n } s' := by
  have hstart : PoolsTried s (s.own s.reservePoolId) [] := by
    rw [own_of_le (hissued.reserves hgood.sound)]
    exact hissued.tried hgood.sound
  obtain ⟨s₁, ids, e, hends, htried, rfl⟩ := (hr.supply hgood hids).ends hstart
    (by rw [List.length_nil, Nat.sub_zero]; exact hfuel)
  have hrestored := htried.giveBack hgood.sound
  rw [own_relinquishAll] at hrestored
  -- what is left are the slots of the start
  have hcus : (own s.reservePoolId (ids.foldl (fun s id => (s.resRelinquishCuPool id).1) s₁)).cus =
      s.cus := hrestored.cus
  have hfinal := own_of_own_le fun cu hcu =>
    hissued.reserves hgood.sound cu (by rwa [hcus] at hcu)
  rw [hfinal] at hrestored
  refine ⟨ids.length, _, ?_, hrestored⟩
  rw [availableNum, hends, Option.map_some]
  simp

theorem seizes_resReserveCuPool {poolProp : CuPoolProperty}
    (hitems : 0 < poolProp.cuListProp.cuNum → poolProp.cuListProp.items ≠ [])
    (hasks : ¬poolProp.AsksNothing) : Seizes fun s => s.resReserveCuPool poolProp where
  ends _ := resReserveCuPool_ends trivial fun _ _ => trivial
  holds hsound hpop hn hne := hasSlot_resReserveCuPool hitems hasks hpop hn hsound rfl hne

theorem seizes_resReserveCuPoolV2 {poolProp : CuPoolPropertyV2}
    (hitems : 0 < poolProp.cuListProp.cuNum → poolProp.cuListProp.items ≠ [])
    (hdevices : 0 < poolProp.deviceIdListProp.deviceNum → poolProp.deviceIdListProp.deviceIds ≠ [])
    (hasks : ¬poolProp.AsksNothing) :
    Seizes fun s => ((s.resReserveCuPoolV2 poolProp).1, (s.resReserveCuPoolV2 poolProp).2.1) where
  ends _ := resReserveCuPoolV2_ends trivial fun _ _ => trivial
  holds hsound hpop hn hne :=
    hasSlot_resReserveCuPoolV2 hitems hdevices hasks hpop hn hsound rfl hne

/-! ### Pools that ask for nothing -/

theorem poolResult_updated (s : System) :
    poolResult (s.updateReservePoolId, s.getNextReservePoolId) =
      (s.updateReservePoolId, .ok s.getNextReservePoolId) := by
  have hne : s.getNextReservePoolId ≠ 0 := by
    rw [getNextReservePoolId, nextId]
    split <;> omega
  rw [poolResult, if_neg hne]

theorem nothing_granted {poolProp : CuPoolProperty} (h : poolProp.AsksNothing) (s : System) :
    s.resReserveCuPool poolProp = (s.updateReservePoolId, s.getNextReservePoolId) := by
  obtain ⟨hlists, hxclbins, hnum, hle⟩ := h
  rw [resReserveCuPool, if_neg (by omega), if_neg (by omega), hlists, hxclbins]
  rfl

theorem nothing_grantedV2 {poolProp : CuPoolPropertyV2} (h : poolProp.AsksNothing) (s : System) :
    (s.resReserveCuPoolV2 poolProp).1 = s.updateReservePoolId ∧
      (s.resReserveCuPoolV2 poolProp).2.1 = s.getNextReservePoolId := by
  obtain ⟨hlists, hxclbins, hdevices, hnum, hle⟩ := h
  have hfew : ¬(poolProp.cuListNum < 0 ∨ poolProp.xclbinNum < 0 ∨
      poolProp.deviceIdListProp.deviceNum < 0 ∨
        poolProp.deviceIdListProp.deviceNum > maxXilinxDevices) := by
    rw [hlists, hxclbins, hdevices]
    decide
  rw [resReserveCuPoolV2]
  simp only
  rw [if_neg hfew, if_neg (by omega), hlists, hxclbins, hdevices]
  exact ⟨rfl, rfl⟩

/-- Such pools are granted again and again. -/
theorem nothing_endless {poolProp : CuPoolProperty} (h : poolProp.AsksNothing) (s : System)
    (fuel : Nat) : s.checkCuPoolAvailableNum poolProp fuel = none := by
  have hall : ∀ s : System, True → ∃ s' a,
      poolResult (s.resReserveCuPool poolProp) = (s', .ok a) ∧ True := fun s _ =>
    ⟨_, _, by rw [nothing_granted h, poolResult_updated], trivial⟩
  rw [checkCuPoolAvailableNum, availableNum, Drain.run_eq_none hall trivial, Option.map_none]

theorem nothing_endlessV2 {poolProp : CuPoolPropertyV2} (h : poolProp.AsksNothing) (s : System)
    (fuel : Nat) : s.checkCuPoolAvailableNumV2 poolProp fuel = none := by
  have hall : ∀ s : System, True → ∃ s' a,
      poolResult ((s.resReserveCuPoolV2 poolProp).1, (s.resReserveCuPoolV2 poolProp).2.1) =
        (s', .ok a) ∧ True := fun s _ => by
    obtain ⟨hstate, hid⟩ := nothing_grantedV2 h s
    exact ⟨_, _, by rw [hstate, hid, poolResult_updated], trivial⟩
  rw [checkCuPoolAvailableNumV2, availableNum, Drain.run_eq_none hall trivial, Option.map_none]

/-! ### In a run -/

/-- A query for pools came to an end, and the system is as it was but for the load records and the
ids that were used. -/
def Borrowed (s : System) (query : Option (System × Except XrmError Nat)) : Prop :=
  ∃ n s', query = some (s', .ok n) ∧ Restored { s with reservePoolId := s.reservePoolId + n } s'

/-- The queries for pools, which are the pools of no client: they come to an end unless the pools
ask for nothing. -/
structure PoolQueriesBorrow (s : System) (fuel : Nat) : Prop where
  checkCuPoolAvailableNum : ∀ poolProp : CuPoolProperty, poolProp.clientId = 0 →
    (∀ prop ∈ poolProp.cuListProp.items, prop.clientId ≠ 0) →
      (0 < poolProp.cuListProp.cuNum → poolProp.cuListProp.items ≠ []) →
        ¬poolProp.AsksNothing → s.Borrowed (s.checkCuPoolAvailableNum poolProp fuel)
  checkCuPoolAvailableNumV2 : ∀ poolProp : CuPoolPropertyV2, poolProp.clientId = 0 →
    (∀ prop ∈ poolProp.cuListProp.items, prop.clientId ≠ 0) →
      (0 < poolProp.cuListProp.cuNum → poolProp.cuListProp.items ≠ []) →
        (0 < poolProp.deviceIdListProp.deviceNum → poolProp.deviceIdListProp.deviceIds ≠ []) →
          ¬poolProp.AsksNothing → s.Borrowed (s.checkCuPoolAvailableNumV2 poolProp fuel)
  nothing : ∀ poolProp : CuPoolProperty, poolProp.AsksNothing →
    ∀ fuel, s.checkCuPoolAvailableNum poolProp fuel = none
  nothingV2 : ∀ poolProp : CuPoolPropertyV2, poolProp.AsksNothing →
    ∀ fuel, s.checkCuPoolAvailableNumV2 poolProp fuel = none

theorem pool_queries_borrow {ops : List Op} (hok : StepsOk allRuns ops (initSystem limit))
    (hs : ops.foldl step (initSystem limit) = s)
    (hids : (poolIds ops (initSystem limit)).length + s.maxSlots < maxId)
    (hfuel : s.maxSlots < fuel) : s.PoolQueriesBorrow fuel := by
  have hstart : (initSystem limit).Good allRuns := Reachable.good .refl
  have hnone : (initSystem limit).Issued 0 := by simp [Issued, initSystem]
  have hlt :
      (initSystem limit).reservePoolId + (poolIds ops (initSystem limit)).length < maxId := by
    show 0 + _ < maxId
    omega
  have hgood : s.Good allRuns := hs ▸ (Reachable.run .refl ops hok).good
  obtain ⟨-, hissued, hcounter⟩ := hstart.run_counts hnone hok hlt
  rw [hs] at hissued hcounter
  have hroom : s.reservePoolId + s.maxSlots < maxId := by
    rw [hcounter]
    show 0 + _ + _ < maxId
    omega
  exact ⟨fun _ _ _ hitems hasks =>
      (seizes_resReserveCuPool hitems hasks).borrows hgood hissued hroom hfuel,
    fun _ _ _ hitems hdevices hasks =>
      (seizes_resReserveCuPoolV2 hitems hdevices hasks).borrows hgood hissued hroom hfuel,
    fun poolProp hasks fuel => nothing_endless hasks s fuel,
    fun poolProp hasks fuel => nothing_endlessV2 hasks s fuel⟩

open Scenario in
/-- With a part of the first CU reserved for client 1. -/
theorem pool_queries_borrow_pledged : (after pledgedRun).Borrowed
    ((after pledgedRun).checkCuPoolAvailableNum (pool 0 [request 2 0 300000])
      (2 * maxKernelReserves + 1)) := by
  have hids : (poolIds pledgedRun (initSystem 8)).length = 1 := by decide +kernel
  have hcus : (after pledgedRun).cus.length = 2 := by decide +kernel
  have hslots : (after pledgedRun).maxSlots = 2 * maxKernelReserves := by rw [maxSlots, hcus]
  have hborrow : (after pledgedRun).PoolQueriesBorrow (2 * maxKernelReserves + 1) :=
    @pool_queries_borrow _ 8 _ pledgedRun (by decide +kernel) rfl
      (by rw [hids, hslots]; decide) (by rw [hslots]; exact Nat.lt_succ_self _)
  exact hborrow.checkCuPoolAvailableNum _ rfl (by decide) (by decide) (fun h => by cases h.1)

open Scenario in
example : ((after pledgedRun).checkCuPoolAvailableNum (pool 0 [request 2 0 300000]) 6).map (·.2) =
    some (.ok 5) := by decide +kernel

end System

end Xrm
