import Mathlib.Data.List.Basic
import Xrm.Library.Writes
import Xrm.Verification.Layout

/-! # What the CU table is built from

The loops over the sections of an image are a row of writes into the CU table: the hardware
kernels in their order, then the PS kernels, then the soft kernels. The number that a write
leaves in `ipLayoutIndex` is its place in this row.
-/

namespace Xrm

/-- What a CU is built from: the entry of the IP layout at a position, or a soft kernel. -/
inductive Origin where
  | ip (position : Nat)
  | soft
  deriving Repr, DecidableEq

/-- A CU as it is written into the table. -/
structure Building where
  slot : Nat
  number : Nat
  origin : Origin
  fill : CuData → CuData

namespace Layout

variable {call : XrtCall} {layout layout' : Layout} {cuType : CuType} {base : Nat}

/-- The entries of a type with their positions in the layout. -/
def positions (ipType : IpType) (ips : List (IpData × Nat)) : List (IpData × Nat) :=
  ips.filter fun ip => ip.1.ipType = ipType

/-- The kernels of a domain, the first with running number `n`. -/
def buildIps (call : XrtCall) (cuType : CuType) (base : Nat) :
    Nat → List (IpData × Nat) → List Building
  | _, [] => []
  | n, ip :: ips =>
      { slot := if call.ipName2Index ip.1.name < 0 then n
          else (call.ipName2Index ip.1.name).toNat + base
        number := n
        origin := .ip ip.2
        fill := fun cu =>
          { cu.initFromLayout n cuType ip.1.name (kernelNameOf ip.1.name) with
            instanceName := instanceNameOf ip.1.name
            baseAddr := ip.1.baseAddress } } :: buildIps call cuType base (n + 1) ips

/-- The CUs of a soft kernel. -/
def buildInstances (name : String) : Nat → Nat → List Building
  | _, 0 => []
  | n, count + 1 =>
      { slot := n
        number := n
        origin := .soft
        fill := fun cu => cu.initFromLayout n .softKernel name name } ::
        buildInstances name (n + 1) count

def buildSoftKernels : Nat → List SoftKernel → List Building
  | _, [] => []
  | n, sk :: sks =>
      buildInstances sk.name n sk.numInstances ++ buildSoftKernels (n + sk.numInstances) sks

/-- The kernels of the IP layout, in the order in which they get their numbers. -/
def buildLayout (call : XrtCall) (ips : List IpData) : List Building :=
  let kernels := positions .kernel ips.zipIdx
  let psKernels := positions .psKernel ips.zipIdx
  buildIps call .ipKernel 0 0 kernels ++
    buildIps call .ipPsKernel kernels.length kernels.length psKernels

/-- All CUs of an image. -/
def buildImage (call : XrtCall) (axlf : Axlf) : List Building :=
  match axlf.ipLayout with
  | none => []
  | some ips =>
      buildLayout call ips ++ buildSoftKernels (buildLayout call ips).length axlf.softKernels

/-- The table after a row of writes. -/
def writeAll (builds : List Building) (cuList : List CuData) : List CuData :=
  Writes.putAll Building.slot Building.fill builds cuList

@[simp] theorem writeAll_nil (cuList : List CuData) : writeAll [] cuList = cuList := rfl

@[simp] theorem writeAll_cons (b : Building) (builds : List Building) (cuList : List CuData) :
    writeAll (b :: builds) cuList = writeAll builds (cuList.modify b.slot b.fill) := rfl

theorem writeAll_append (builds builds' : List Building) (cuList : List CuData) :
    writeAll (builds ++ builds') cuList = writeAll builds' (writeAll builds cuList) :=
  Writes.putAll_append

/-! ## The numbers -/

@[simp] theorem length_buildIps (n : Nat) (ips : List (IpData × Nat)) :
    (buildIps call cuType base n ips).length = ips.length := by
  induction ips generalizing n with
  | nil => rfl
  | cons ip ips ih => rw [buildIps, List.length_cons, List.length_cons, ih]

@[simp] theorem length_buildInstances (name : String) (n count : Nat) :
    (buildInstances name n count).length = count := by
  induction count generalizing n with
  | zero => rfl
  | succ count ih => rw [buildInstances, List.length_cons, ih]

theorem number_buildIps (n : Nat) (ips : List (IpData × Nat)) :
    (buildIps call cuType base n ips).map Building.number = List.range' n ips.length := by
  induction ips generalizing n with
  | nil => rfl
  | cons ip ips ih => rw [buildIps, List.map_cons, ih, List.length_cons, List.range'_succ]

theorem number_buildInstances (name : String) (n count : Nat) :
    (buildInstances name n count).map Building.number = List.range' n count := by
  induction count generalizing n with
  | zero => rfl
  | succ count ih => rw [buildInstances, List.map_cons, ih, List.range'_succ]

theorem number_buildSoftKernels (n : Nat) (sks : List SoftKernel) :
    (buildSoftKernels n sks).map Building.number =
      List.range' n (buildSoftKernels n sks).length := by
  induction sks generalizing n with
  | nil => rfl
  | cons sk sks ih =>
      rw [buildSoftKernels, List.map_append, number_buildInstances, ih, List.length_append,
        length_buildInstances, List.range'_append_1]

theorem range'_append_range' (m n : Nat) :
    List.range' 0 m ++ List.range' m n = List.range (m + n) := by
  rw [List.range_eq_range', ← List.range'_append_1, Nat.zero_add]

theorem number_buildLayout (call : XrtCall) (ips : List IpData) :
    (buildLayout call ips).map Building.number = List.range (buildLayout call ips).length := by
  simp only [buildLayout, List.map_append, number_buildIps, List.length_append, length_buildIps]
  rw [range'_append_range']

/-- The number of a CU is its place in the row. -/
theorem number_buildImage (call : XrtCall) (axlf : Axlf) :
    (buildImage call axlf).map Building.number = List.range (buildImage call axlf).length := by
  rw [buildImage]
  split
  · rfl
  · rw [List.map_append, number_buildLayout, number_buildSoftKernels, List.length_append,
      List.range_eq_range', range'_append_range']

/-! ## The loops are these writes -/

/-- One round of the loops over the IP layout. -/
theorem placeIp_eq {ip : IpData} (position : Nat)
    (h : placeIp call cuType base ip layout = (layout', .ok ())) :
    layout'.numCu = layout.numCu + 1 ∧ layout'.numHardwareCu = layout.numHardwareCu ∧
      layout'.cuList =
        writeAll (buildIps call cuType base layout.numCu [(ip, position)]) layout.cuList := by
  rw [placeIp] at h
  simp only at h
  split at h
  · simp at h
  · split at h
    · rename_i hneg
      split at h
      · obtain rfl := (Prod.mk.inj h).1
        simp [placeAt, buildIps, hneg]
      · simp at h
    · rename_i hpos
      obtain rfl := (Prod.mk.inj h).1
      simp [placeAt, buildIps, hpos]

theorem placeKernels_eq {ips : List IpData} {k : Nat}
    (h : placeKernels call ips layout = (layout', .ok ())) :
    layout'.numCu = layout.numCu + (positions .kernel (ips.zipIdx k)).length ∧
      layout'.numHardwareCu =
        layout.numHardwareCu + (positions .kernel (ips.zipIdx k)).length ∧
      layout'.cuList =
        writeAll (buildIps call .ipKernel 0 layout.numCu (positions .kernel (ips.zipIdx k)))
          layout.cuList := by
  induction ips generalizing layout k with
  | nil =>
      obtain rfl := (Prod.mk.inj h).1
      exact ⟨rfl, rfl, rfl⟩
  | cons ip ips ih =>
      rw [placeKernels] at h
      by_cases hip : ip.ipType = .kernel
      · rw [if_pos hip] at h
        split at h
        · rename_i layout₁ heq
          obtain ⟨hnum, hhw, hcus⟩ := placeIp_eq k heq
          obtain ⟨hnum', hhw', hcus'⟩ := ih (k := k + 1) h
          have hpos : positions .kernel ((ip :: ips).zipIdx k) =
              (ip, k) :: positions .kernel (ips.zipIdx (k + 1)) := by
            simp [positions, hip]
          simp only at hnum hhw hcus
          rw [hpos, hnum', hhw', hcus', hnum, hhw, hcus]
          refine ⟨?_, ?_, rfl⟩
          · rw [List.length_cons]
            omega
          · rw [List.length_cons]
            omega
        · simp at h
      · rw [if_neg hip] at h
        have hpos : positions .kernel ((ip :: ips).zipIdx k) =
            positions .kernel (ips.zipIdx (k + 1)) := by
          simp [positions, hip]
        rw [hpos]
        exact ih h

theorem placePsKernels_eq {ips : List IpData} {k : Nat}
    (h : placePsKernels call ips layout = (layout', .ok ())) :
    layout'.numCu = layout.numCu + (positions .psKernel (ips.zipIdx k)).length ∧
      layout'.cuList =
        writeAll (buildIps call .ipPsKernel layout.numHardwareCu layout.numCu
          (positions .psKernel (ips.zipIdx k))) layout.cuList := by
  induction ips generalizing layout k with
  | nil =>
      obtain rfl := (Prod.mk.inj h).1
      exact ⟨rfl, rfl⟩
  | cons ip ips ih =>
      rw [placePsKernels] at h
      by_cases hip : ip.ipType = .psKernel
      · rw [if_pos hip] at h
        split at h
        · rename_i layout₁ heq
          obtain ⟨hnum, hhw, hcus⟩ := placeIp_eq k heq
          obtain ⟨hnum', hcus'⟩ := ih (k := k + 1) h
          have hpos : positions .psKernel ((ip :: ips).zipIdx k) =
              (ip, k) :: positions .psKernel (ips.zipIdx (k + 1)) := by
            simp [positions, hip]
          rw [hpos, hnum', hcus', hnum, hhw, hcus]
          refine ⟨?_, rfl⟩
          rw [List.length_cons]
          omega
        · simp at h
      · rw [if_neg hip] at h
        have hpos : positions .psKernel ((ip :: ips).zipIdx k) =
            positions .psKernel (ips.zipIdx (k + 1)) := by
          simp [positions, hip]
        rw [hpos]
        exact ih h

theorem placeInstances_eq (name : String) (count : Nat) (layout : Layout) :
    (placeInstances name count layout).numCu = layout.numCu + count ∧
      (placeInstances name count layout).cuList =
        writeAll (buildInstances name layout.numCu count) layout.cuList := by
  induction count generalizing layout with
  | zero => exact ⟨rfl, rfl⟩
  | succ count ih =>
      rw [placeInstances]
      obtain ⟨hnum, hcus⟩ := ih
        { layout with
          numCu := layout.numCu + 1
          cuList := layout.cuList.modify layout.numCu fun cu =>
            cu.initFromLayout layout.numCu .softKernel name name }
      rw [hnum, hcus]
      refine ⟨?_, rfl⟩
      simp only
      omega

theorem placeSoftKernels_eq {sks : List SoftKernel}
    (h : placeSoftKernels sks layout = (layout', .ok ())) :
    layout'.numCu = layout.numCu + (buildSoftKernels layout.numCu sks).length ∧
      layout'.cuList = writeAll (buildSoftKernels layout.numCu sks) layout.cuList := by
  induction sks generalizing layout with
  | nil =>
      obtain rfl := (Prod.mk.inj h).1
      exact ⟨rfl, rfl⟩
  | cons sk sks ih =>
      obtain ⟨-, h⟩ := placeSoftKernels_cons_ok h
      obtain ⟨hnum, hcus⟩ := placeInstances_eq sk.name sk.numInstances layout
      obtain ⟨hnum', hcus'⟩ := ih h
      rw [hnum', hcus', hnum, hcus, buildSoftKernels, writeAll_append, List.length_append,
        length_buildInstances]
      refine ⟨?_, rfl⟩
      omega

theorem length_buildLayout (call : XrtCall) (ips : List IpData) :
    (buildLayout call ips).length =
      (positions .kernel ips.zipIdx).length + (positions .psKernel ips.zipIdx).length := by
  simp only [buildLayout, List.length_append, length_buildIps]

/-- The table that an image sets up. -/
theorem ofImage_eq {axlf : Axlf} (h : ofImage call axlf = (layout, .ok ())) :
    layout.numCu = (buildImage call axlf).length ∧
      layout.cuList = writeAll (buildImage call axlf) empty.cuList := by
  rw [ofImage] at h
  rw [buildImage]
  cases hips : axlf.ipLayout with
  | none =>
      rw [hips] at h
      obtain rfl := (Prod.mk.inj h).1
      exact ⟨rfl, rfl⟩
  | some ips =>
  rw [hips] at h
  simp only at h
  split at h
  · simp at h
  rename_i layout₁ heq₁
  obtain ⟨hnum₁, hhw₁, hcus₁⟩ := placeKernels_eq (k := 0) heq₁
  split at h
  · simp at h
  rename_i layout₂ heq₂
  obtain ⟨hnum₂, hcus₂⟩ := placePsKernels_eq (k := 0) heq₂
  obtain ⟨hnum₃, hcus₃⟩ := placeSoftKernels_eq h
  have hzero : empty.numCu = 0 ∧ empty.numHardwareCu = 0 := ⟨rfl, rfl⟩
  rw [hzero.1, Nat.zero_add] at hnum₁
  rw [hzero.2, Nat.zero_add] at hhw₁
  rw [hzero.1] at hcus₁
  have hnum : layout₂.numCu = (buildLayout call ips).length := by
    rw [hnum₂, hnum₁, length_buildLayout]
  have hcus : layout₂.cuList = writeAll (buildLayout call ips) empty.cuList := by
    rw [hcus₂, hcus₁, hnum₁, hhw₁, buildLayout, writeAll_append]
  simp only
  rw [hnum₃, hcus₃, hnum, hcus, List.length_append, writeAll_append]
  exact ⟨rfl, rfl⟩

/-- A table that is set up is not overfull. -/
theorem ofImage_numCu_le {axlf : Axlf} (h : ofImage call axlf = (layout, .ok ())) :
    layout.numCu ≤ maxXilinxKernels := by
  have hsoft {sks : List SoftKernel} {layout layout' : Layout}
      (hle : layout.numCu ≤ maxXilinxKernels)
      (h : placeSoftKernels sks layout = (layout', .ok ())) :
      layout'.numCu ≤ maxXilinxKernels := by
    induction sks generalizing layout with
    | nil =>
        obtain rfl := (Prod.mk.inj h).1
        exact hle
    | cons sk sks ih =>
        obtain ⟨hmax, h⟩ := placeSoftKernels_cons_ok h
        apply ih _ h
        rw [(placeInstances_eq sk.name sk.numInstances layout).1]
        exact hmax
  rw [ofImage] at h
  split at h
  · obtain rfl := (Prod.mk.inj h).1
    exact Nat.zero_le _
  split at h
  · simp at h
  rename_i layout₁ heq₁
  split at h
  · simp at h
  rename_i layout₂ heq₂
  exact hsoft ((placePsKernels_laid heq₂).bound
    ((placeKernels_laid heq₁).1.bound (Nat.zero_le _))) h

end Layout

/-! ## Kernels numbered apart -/

/-- The driver numbers the kernels of a domain from 0 on without repetition, or does not number
them at all. -/
def XrtCall.NumbersApart (call : XrtCall) (domain : List IpData) : Prop :=
  (∀ ip ∈ domain, call.ipName2Index ip.name = XrmError.invalid.code) ∨
    ((∀ ip ∈ domain, 0 ≤ call.ipName2Index ip.name ∧
        call.ipName2Index ip.name < domain.length) ∧
      (domain.map fun ip => call.ipName2Index ip.name).Nodup)

/-- The driver numbers both kernel domains of the image so. -/
def XrtCall.NumbersImageApart (call : XrtCall) (axlf : Axlf) : Prop :=
  ∀ ips, axlf.ipLayout = some ips →
    call.NumbersApart (ofType .kernel ips) ∧ call.NumbersApart (ofType .psKernel ips)

namespace Layout

variable {call : XrtCall} {cuType : CuType} {base : Nat}

theorem map_fst_positions (ipType : IpType) (ips : List IpData) (k : Nat) :
    (positions ipType (ips.zipIdx k)).map Prod.fst = ofType ipType ips := by
  induction ips generalizing k with
  | nil => rfl
  | cons ip ips ih =>
      have htail := ih (k + 1)
      simp only [positions, ofType] at htail ⊢
      by_cases hip : ip.ipType = ipType
      · simp [hip, htail]
      · simp [hip, htail]

/-- The slots of a domain are the ones from its base on, each of them once. -/
theorem slots_buildIps {ips : List (IpData × Nat)}
    (h : call.NumbersApart (ips.map Prod.fst)) :
    ((buildIps call cuType base base ips).map Building.slot).Perm
      (List.range' base ips.length) := by
  rcases h with h | ⟨hrange, hnodup⟩
  · have hturn : ∀ n, (buildIps call cuType base n ips).map Building.slot =
        List.range' n ips.length := by
      induction ips with
      | nil => exact fun _ => rfl
      | cons ip ips ih =>
          intro n
          have hneg : call.ipName2Index ip.1.name < 0 := by
            rw [h ip.1 (by simp)]
            decide
          rw [buildIps, List.map_cons, if_pos hneg, List.length_cons, List.range'_succ,
            ih (fun ip hip => h ip (by simp only [List.map_cons, List.mem_cons, hip, or_true]))]
    rw [hturn base]
  · have hgiven : ∀ n, (buildIps call cuType base n ips).map Building.slot =
        ips.map fun ip => (call.ipName2Index ip.1.name).toNat + base := by
      have hpos : ∀ ip ∈ ips, 0 ≤ call.ipName2Index ip.1.name := fun ip hip =>
        (hrange ip.1 (List.mem_map_of_mem hip)).1
      clear hrange hnodup
      induction ips with
      | nil => exact fun _ => rfl
      | cons ip ips ih =>
          intro n
          have hneg : ¬call.ipName2Index ip.1.name < 0 := by
            have := hpos ip List.mem_cons_self
            omega
          rw [buildIps, List.map_cons, if_neg hneg, List.map_cons,
            ih fun ip hip => hpos ip (List.mem_cons_of_mem _ hip)]
    rw [hgiven base]
    apply List.Subperm.perm_of_length_le
    · apply List.Nodup.subperm
      · rw [List.map_map] at hnodup
        apply List.Nodup.of_map (fun n : Nat => (n : Int) - base)
        rw [List.map_map]
        convert hnodup using 1
        apply List.map_congr_left
        intro ip hip
        have hpos := (hrange ip.1 (List.mem_map_of_mem hip)).1
        simp only [Function.comp_apply]
        omega
      · intro slot hslot
        obtain ⟨ip, hip, rfl⟩ := List.mem_map.mp hslot
        have hlt := hrange ip.1 (List.mem_map_of_mem hip)
        rw [List.length_map] at hlt
        rw [List.mem_range'_1]
        omega
    · simp

theorem slots_buildInstances (name : String) (n count : Nat) :
    (buildInstances name n count).map Building.slot = List.range' n count := by
  induction count generalizing n with
  | zero => rfl
  | succ count ih => rw [buildInstances, List.map_cons, ih, List.range'_succ]

theorem slots_buildSoftKernels (n : Nat) (sks : List SoftKernel) :
    (buildSoftKernels n sks).map Building.slot =
      List.range' n (buildSoftKernels n sks).length := by
  induction sks generalizing n with
  | nil => rfl
  | cons sk sks ih =>
      rw [buildSoftKernels, List.map_append, slots_buildInstances, ih, List.length_append,
        length_buildInstances, List.range'_append_1]

/-- The slots of an image's CUs are the first ones of the table, each of them once. -/
theorem slots_buildImage {axlf : Axlf} (h : call.NumbersImageApart axlf) :
    ((buildImage call axlf).map Building.slot).Perm
      (List.range (buildImage call axlf).length) := by
  rw [buildImage]
  split
  · exact List.Perm.refl _
  · rename_i ips hips
    obtain ⟨hkernels, hps⟩ := h ips hips
    rw [← map_fst_positions _ ips 0] at hkernels hps
    have hlayout : ((buildLayout call ips).map Building.slot).Perm
        (List.range (buildLayout call ips).length) := by
      rw [length_buildLayout, ← range'_append_range', buildLayout, List.map_append]
      exact (slots_buildIps hkernels).append (slots_buildIps hps)
    rw [List.map_append, List.length_append, ← range'_append_range', ← List.range_eq_range',
      slots_buildSoftKernels]
    exact hlayout.append_right _

end Layout

end Xrm
