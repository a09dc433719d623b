import Mathlib.Data.List.TakeWhile
import Xrm.Verification.DeviceSound

/-! # Pools on a device

What reserving, undoing and relinquishing do to the CUs of a device.
-/

namespace Xrm

open FixedTable

/-! ## The loops over the CUs -/

/-- The first wanted CU that matches and takes the load is charged, the others stay. -/
theorem reserveSearch_spec {p : Nat} {prop : CuProperty} {wanted : CuData → Bool}
    {cus cus' : List CuData} (h : reserveSearch p prop wanted cus = some cus') :
    ∃ pre cu post cu', cus = pre ++ cu :: post ∧ cus' = pre ++ cu' :: post ∧
      wanted cu = true ∧ cu.matchesKernel prop = true ∧ cu.reserveLoadFromCu p prop = .ok cu' := by
  induction cus generalizing cus' with
  | nil => simp [reserveSearch] at h
  | cons cu cus ih =>
      have hskip : (reserveSearch p prop wanted cus).map (cu :: ·) = some cus' →
          ∃ pre cu₁ post cu', cu :: cus = pre ++ cu₁ :: post ∧ cus' = pre ++ cu' :: post ∧
            wanted cu₁ = true ∧ cu₁.matchesKernel prop = true ∧
              cu₁.reserveLoadFromCu p prop = .ok cu' := by
        intro hmap
        obtain ⟨rest, hrest, rfl⟩ := Option.map_eq_some_iff.mp hmap
        obtain ⟨pre, cu₁, post, cu', rfl, rfl, hfound⟩ := ih hrest
        exact ⟨cu :: pre, cu₁, post, cu', rfl, rfl, hfound⟩
      rw [reserveSearch] at h
      split at h
      · rename_i hw
        rw [Bool.and_eq_true] at hw
        split at h
        · rename_i cu' hres
          rw [Option.some.injEq] at h
          exact ⟨[], cu, cus, cu', rfl, h.symm, hw.1, hw.2, hres⟩
        · exact hskip h
      · exact hskip h

namespace CuData

/-- Pool `p` has a slot on the CU that is in use. -/
def blocks (p : Nat) (cu : CuData) : Bool :=
  match cu.slots.findIdx? (·.reservePoolId == p) with
  | none => false
  | some i => (cu.slot i).reserveUsedLoadUnified != 0

/-- The CU without the slot of pool `p`. -/
def relinquished (p : Nat) (cu : CuData) : CuData :=
  match cu.slots.findIdx? (·.reservePoolId == p) with
  | none => cu
  | some i => cu.giveBackSlot i

variable {cu : CuData} {p : Nat}

theorem relinquished_cases (p : Nat) (hcu : cu.Consistent) (hb : cu.blocks p = false) :
    (cu.relinquished p = cu ∧ ∀ r ∈ cu.slots, r.reservePoolId ≠ p) ∨
      ∃ i, ∃ hi : i < cu.slots.length, cu.slots[i].reservePoolId = p ∧
        cu.slots[i].reserveUsedLoadUnified = 0 ∧ SlotRemoved i cu (cu.relinquished p) := by
  rw [blocks] at hb
  rw [relinquished]
  cases hfind : cu.slots.findIdx? (·.reservePoolId == p) with
  | none =>
      rw [List.findIdx?_eq_none_iff] at hfind
      exact .inl ⟨rfl, fun r hr => by simpa using hfind r hr⟩
  | some i =>
      rw [hfind] at hb
      rw [List.findIdx?_eq_some_iff_getElem] at hfind
      obtain ⟨hi, hp, -⟩ := hfind
      have hused : (cu.slot i).reserveUsedLoadUnified = 0 := by simpa using hb
      have hremoved := giveBackSlot_spec hcu hi hused
      rw [hcu.slot_eq hi] at hused
      exact .inr ⟨i, hi, by simpa using hp, hused, hremoved⟩

end CuData

namespace DeviceData

/-- The CU loop of the relinquish functions, up to the first CU that blocks. -/
theorem relinquishCus_spec (p : Nat) (cus : List CuData) (dev : DeviceData) :
    SameButLoad dev (relinquishCus p cus dev).1 ∧
      (relinquishCus p cus dev).2.1 =
        (cus.takeWhile (fun cu => !cu.blocks p)).map (·.relinquished p) ++
          cus.dropWhile (fun cu => !cu.blocks p) ∧
      (relinquishCus p cus dev).2.2 = cus.all fun cu => !cu.blocks p := by
  induction cus generalizing dev with
  | nil => exact ⟨rfl, rfl, rfl⟩
  | cons cu cus ih =>
      rw [relinquishCus]
      cases hfind : (cu.reserves.take cu.numReserve).findIdx? (·.reservePoolId == p) with
      | none =>
          have hb : cu.blocks p = false := by
            rw [CuData.blocks, CuData.slots, hfind]
          have hr : cu.relinquished p = cu := by
            rw [CuData.relinquished, CuData.slots, hfind]
          obtain ⟨hdev, hcus, hdone⟩ := ih dev
          simp only [List.takeWhile_cons, List.dropWhile_cons, List.all_cons, hb, Bool.not_false,
            if_true, List.map_cons, hr, Bool.true_and]
          exact ⟨hdev, by rw [hcus]; rfl, hdone⟩
      | some i =>
          have hr : cu.relinquished p = cu.giveBackSlot i := by
            rw [CuData.relinquished, CuData.slots, hfind]
          by_cases hused : (cu.slot i).reserveUsedLoadUnified ≠ 0
          · have hb : cu.blocks p = true := by
              rw [CuData.blocks, CuData.slots, hfind]
              simpa using hused
            simp only [if_pos hused, List.takeWhile_cons, List.dropWhile_cons, List.all_cons, hb,
              Bool.not_true, Bool.false_and, Bool.false_eq_true, if_false, List.map_nil,
              List.nil_append]
            exact ⟨rfl, trivial, trivial⟩
          · have hb : cu.blocks p = false := by
              rw [CuData.blocks, CuData.slots, hfind]
              simpa using hused
            obtain ⟨hdev, hcus, hdone⟩ :=
              ih (dev.updateDeviceLoad (-(cu.slot i).reserveLoadUnified) (-1))
            simp only [if_neg hused, List.takeWhile_cons, List.dropWhile_cons, List.all_cons, hb,
              Bool.not_false, if_true, List.map_cons, hr, Bool.true_and]
            exact ⟨(dev.sameButLoad_updateDeviceLoad _ _).trans hdev, by rw [hcus]; rfl, hdone⟩

/-- What `findUndo` has found. -/
theorem findUndo_spec {p : Nat} {prop : CuProperty} {k cuId i : Nat} {cus : List CuData}
    {cu : CuData} (h : findUndo p prop k cus = some (cuId, cu, i)) :
    ∃ j, cuId = k + j ∧ cus[j]? = some cu ∧ cu.matchesKernel prop = true ∧
      ∃ hi : i < cu.slots.length, cu.slots[i].reservePoolId = p ∧
        cu.slots[i].reserveLoadUnified = prop.requestLoadUnified ∧
          cu.slots[i].reserveUsedLoadUnified = 0 := by
  induction cus generalizing k with
  | nil => simp [findUndo] at h
  | cons cu₁ cus ih =>
      have hskip : findUndo p prop (k + 1) cus = some (cuId, cu, i) →
          ∃ j, cuId = k + j ∧ (cu₁ :: cus)[j]? = some cu ∧ cu.matchesKernel prop = true ∧
            ∃ hi : i < cu.slots.length, cu.slots[i].reservePoolId = p ∧
              cu.slots[i].reserveLoadUnified = prop.requestLoadUnified ∧
                cu.slots[i].reserveUsedLoadUnified = 0 := by
        intro hrest
        obtain ⟨j, rfl, hj, hspec⟩ := ih hrest
        exact ⟨j + 1, by omega, by simpa using hj, hspec⟩
      rw [findUndo] at h
      split at h
      · rename_i hmatch
        split at h
        · rename_i i' hslot
          simp only [Option.some.injEq, Prod.mk.injEq] at h
          obtain ⟨rfl, rfl, rfl⟩ := h
          rw [undoSlot, List.findIdx?_eq_some_iff_getElem] at hslot
          obtain ⟨hi, hp, -⟩ := hslot
          simp only [Bool.and_eq_true, beq_iff_eq] at hp
          exact ⟨0, rfl, rfl, hmatch, hi, hp.1.1, hp.1.2, hp.2⟩
        · exact hskip h
      · exact hskip h

/-! ## The acts on a pool keep the device in order -/

variable {D : Discipline} {dev dev' : DeviceData} {p : Nat}

/-- No channel of the device carries the id of pool `p` without a slot for it. -/
def NoOrphan (p : Nat) (dev : DeviceData) : Prop := ∀ cu ∈ dev.cuList, CuData.NoOrphan p cu

instance (p : Nat) (dev : DeviceData) : Decidable (dev.NoOrphan p) :=
  inferInstanceAs (Decidable (∀ cu ∈ dev.cuList, CuData.NoOrphan p cu))

/-- What an act on pool `p` may do to a CU. -/
inductive PoolStep (p : Nat) : CuData → CuData → Prop where
  | same (cu : CuData) : PoolStep p cu cu
  | charged {cu cu' : CuData} {prop : CuProperty} (hc : prop.clientId ≠ 0)
      (h : CuData.Reserved p prop cu cu') : PoolStep p cu cu'
  | whole {cu : CuData} {c : Nat} {pid : Int} (hp : p ≠ 0) (hc : c ≠ 0) (h : cu.Idle) :
      PoolStep p cu (cu.reserveWhole p c pid)
  | removed {cu cu' : CuData} {i : Nat} (hused : (cu.slot i).reserveUsedLoadUnified = 0)
      (h : CuData.SlotRemoved i cu cu') : PoolStep p cu cu'

theorem PoolStep.users {cu cu' : CuData} (h : PoolStep p cu cu') : cu.SameUsers cu' := by
  cases h with
  | same => exact CuData.SameUsers.refl cu
  | charged _ h => exact h.users
  | whole => exact ⟨rfl, rfl, rfl, rfl⟩
  | removed _ h => exact h.users

theorem PoolStep.consistent {cu cu' : CuData} (h : PoolStep p cu cu') (hcu : cu.Consistent) :
    cu'.Consistent := by
  cases h with
  | same => exact hcu
  | charged hs h => exact h.consistent hcu hs
  | whole hp hc h => exact CuData.reserveWhole_consistent hcu h hp hc
  | removed _ h => exact h.consistent hcu

theorem PoolStep.exact {cu cu' : CuData} (h : PoolStep p cu cu') (hcu : cu.Consistent)
    (hx : cu.Exact) (hfresh : CuData.NoOrphan p cu) : cu'.Exact := by
  cases h with
  | same => exact hx
  | charged hs h => exact h.exact hx hfresh
  | whole hp hc h => exact CuData.reserveWhole_exact hcu h
  | removed _ h => exact h.exact hx

theorem PoolStep.noOrphan {cu cu' : CuData} (h : PoolStep p cu cu') (hcu : cu.Consistent)
    (hx : cu.Exact) (hfresh : CuData.NoOrphan p cu) : CuData.NoOrphan p cu' := by
  cases h with
  | same => exact hfresh
  | charged hs h => exact h.noOrphan
  | whole hp hc h =>
      intro _ chan hchan
      rw [(hcu.idle_channels h chan hchan).poolId]
      exact hp.symm
  | removed hused h => exact h.noOrphan hcu hx hused hfresh

/-- What relinquishing does to a CU. -/
def Shrunk (cu cu' : CuData) : Prop :=
  cu' = cu ∨ ∃ i, (cu.slot i).reserveUsedLoadUnified = 0 ∧ CuData.SlotRemoved i cu cu'

/-- Relinquishing a pool removes slots; the table and the flags stay. -/
theorem relinquishDev_steps (p : Nat) (hcons : ∀ cu ∈ dev.cuList, cu.Consistent) :
    List.Forall₂ Shrunk dev.cuList (dev.relinquishDev p).1.cuList ∧
      (dev.relinquishDev p).1.isLoaded = dev.isLoaded ∧
        (dev.relinquishDev p).1.isExcl = dev.isExcl ∧
          (dev.relinquishDev p).1.clientProcs = dev.clientProcs := by
  have hsame : ∀ cu, Shrunk cu cu := fun cu => .inl rfl
  rw [relinquishDev]
  split
  · exact ⟨forall₂_refl fun cu _ => hsame cu, rfl, rfl, rfl⟩
  · obtain ⟨hdev, hcus, -⟩ := relinquishCus_spec p dev.cuList dev
    obtain ⟨-, hload, hex, hprocs⟩ := sameButLoad_iff_fields hdev
    refine ⟨?_, hload, hex, hprocs⟩
    show List.Forall₂ _ dev.cuList (relinquishCus p dev.cuList dev).2.1
    rw [hcus]
    conv_lhs => rw [← List.takeWhile_append_dropWhile (l := dev.cuList)
      (p := fun cu => !cu.blocks p)]
    refine List.rel_append ?_ (forall₂_refl fun cu _ => hsame cu)
    rw [List.forall₂_map_right_iff, List.forall₂_same]
    intro cu hcu
    have hb : cu.blocks p = false := by simpa using List.mem_takeWhile_imp hcu
    have hcu' := hcons cu ((List.takeWhile_sublist _).mem hcu)
    rcases CuData.relinquished_cases p hcu' hb with ⟨heq, -⟩ | ⟨i, hi, -, hused, hremoved⟩
    · exact .inl heq
    · rw [← hcu'.slot_eq hi] at hused
      exact .inr ⟨i, hused, hremoved⟩

/-- Relinquishing keeps the device in order, whatever pool it is. -/
theorem Sound.relinquishDev (h : dev.Sound D) (p : Nat) : (dev.relinquishDev p).1.Sound D := by
  obtain ⟨hsteps, hload, hex, hprocs⟩ := relinquishDev_steps p h.consistent
  refine h.accounts hsteps ?_ ?_ ?_ hload hex hprocs
  · rintro cu cu' (rfl | ⟨i, hused, hremoved⟩)
    · exact CuData.SameUsers.refl _
    · exact hremoved.users
  · rintro cu hcu cu' (rfl | ⟨i, hused, hremoved⟩)
    · exact h.consistent _ hcu
    · exact hremoved.consistent (h.consistent cu hcu)
  · rintro hF cu hcu cu' (rfl | ⟨i, hused, hremoved⟩)
    · exact h.exact hF _ hcu
    · exact hremoved.exact (h.exact hF cu hcu)

/-- An act on a pool is a step of each CU; the table and the flags stay. -/
theorem PoolAct.steps (h : PoolAct p dev dev') (hcons : ∀ cu ∈ dev.cuList, cu.Consistent) :
    List.Forall₂ (PoolStep p) dev.cuList dev'.cuList ∧ dev'.isLoaded = dev.isLoaded ∧
      dev'.isExcl = dev.isExcl ∧ dev'.clientProcs = dev.clientProcs := by
  cases h with
  | charge hs hpass =>
      rw [reservePass, Option.map_eq_some_iff] at hpass
      obtain ⟨cus', hsearch, rfl⟩ := hpass
      obtain ⟨pre, cu, post, cu', hcus, rfl, -, -, hres⟩ := reserveSearch_spec hsearch
      refine ⟨?_, rfl, rfl, rfl⟩
      have hcu := hcons cu (by simp [hcus])
      show List.Forall₂ _ dev.cuList (pre ++ cu' :: post)
      rw [hcus]
      exact List.rel_append (forall₂_refl fun cu _ => .same cu)
        (.cons (.charged hs (CuData.reserveLoadFromCu_spec hcu hres))
          (forall₂_refl fun cu _ => .same cu))
  | reserveAll hp hc hidle =>
      refine ⟨?_, rfl, rfl, rfl⟩
      show List.Forall₂ _ dev.cuList (dev.cuList.map _)
      rw [List.forall₂_map_right_iff, List.forall₂_same]
      exact fun cu hcu => .whole hp hc (hidle cu hcu)
  | relinquish =>
      obtain ⟨hsteps, hrest⟩ := relinquishDev_steps p hcons
      refine ⟨hsteps.imp ?_, hrest⟩
      rintro cu cu' (rfl | ⟨i, hused, hremoved⟩)
      · exact .same _
      · exact .removed hused hremoved
  | undo hundo =>
      rw [relinquishCuFromDev] at hundo
      split at hundo
      · simp at hundo
      split at hundo
      · simp at hundo
      split at hundo
      · simp at hundo
      split at hundo
      · simp at hundo
      · rename_i cuId cu i hfind
        rw [Except.ok.injEq] at hundo
        obtain ⟨j, hj, hcu, -, hi, -, -, hused⟩ := findUndo_spec hfind
        rw [zero_add] at hj
        subst hj
        have hcu' := hcons cu (List.mem_of_getElem? hcu)
        rw [← hcu'.slot_eq hi] at hused
        subst hundo
        exact ⟨forall₂_set (forall₂_refl fun cu _ => .same cu) hcu
            (.removed hused (CuData.giveBackSlot_spec hcu' hi hused)),
          rfl, rfl, rfl⟩

/-- Every act on a pool keeps the device in order. -/
theorem PoolAct.sound (h : PoolAct p dev dev') (hs : dev.Sound D)
    (hfresh : D.fresh → dev.NoOrphan p) : dev'.Sound D := by
  obtain ⟨hsteps, hload, hex, hprocs⟩ := h.steps hs.consistent
  exact hs.accounts hsteps (fun _ _ hstep => hstep.users)
    (fun cu hcu _ hstep => hstep.consistent (hs.consistent cu hcu))
    (fun hF cu hcu _ hstep => hstep.exact (hs.consistent cu hcu) (hs.exact hF cu hcu)
      (hfresh hF cu hcu)) hload hex hprocs

theorem PoolAct.noOrphan (h : PoolAct p dev dev') (hcons : ∀ cu ∈ dev.cuList, cu.Consistent)
    (hx : ∀ cu ∈ dev.cuList, cu.Exact) (hn : dev.NoOrphan p) : dev'.NoOrphan p := by
  obtain ⟨hsteps, -⟩ := h.steps hcons
  exact forall₂_forall hsteps fun cu hcu cu' hstep =>
    hstep.noOrphan (hcons cu hcu) (hx cu hcu) (hn cu hcu)

end DeviceData

end Xrm
