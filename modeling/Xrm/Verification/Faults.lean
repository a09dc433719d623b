import Xrm.Library.Guard
import Xrm.Model.Faults
import Xrm.Verification.MemBanks

/-! # Loads without a fault

When loading an image stays inside the fixed arrays, divides by a number of CUs and frees its
buffer once, and that a load that fails then leaves a cleared device.
-/

namespace Xrm

open Guard

namespace FixedArray

variable {array : FixedArray}

theorem access_guards (array : FixedArray) (index : Int) :
    Guards (array.access index) () (0 ≤ index ∧ index < array.size) := by
  constructor
  · intro h
    rw [access, if_pos h]
  · intro h
    exact ⟨.outside array index, by rw [access, if_neg h]⟩

theorem access_natCast_guards (array : FixedArray) (index : Nat) :
    Guards (array.access index) () (index < array.size) :=
  (array.access_guards index).congr (by omega)

theorem accessFrom_guards (array : FixedArray) (index n : Nat) :
    Guards (array.accessFrom index n) () (n = 0 ∨ index + n ≤ array.size) := by
  induction n generalizing index with
  | zero => exact (guards_ok ()).congr (by simp)
  | succ n ih =>
      exact ((array.access_natCast_guards index).bind fun _ => ih (index + 1)).congr (by omega)

end FixedArray

namespace Checked

variable {call : XrtCall} {cuType : CuType} {base : Nat} {ip : IpData} {layout : Layout}

/-! ## The layout -/

/-- Where a kernel goes: behind the others, or where the driver says. -/
def slotOf (call : XrtCall) (base : Nat) (ip : IpData) (numCu : Nat) : Nat :=
  if call.ipName2Index ip.name < 0 then numCu else (call.ipName2Index ip.name).toNat + base

/-- The driver has given the kernel an index or left it to the daemon. -/
def Answered (call : XrtCall) (ip : IpData) : Prop :=
  call.ipName2Index ip.name = XrmError.invalid.code ∨ 0 ≤ call.ipName2Index ip.name

theorem placeAt_guards (layout : Layout) (cuType : CuType) (ip : IpData) (i : Nat) :
    Guards (placeAt layout cuType ip i) (layout.placeAt cuType ip i, .ok ())
      (i < maxXilinxKernels) := by
  have haccess := FixedArray.cuList.access_natCast_guards i
  rw [FixedArray.size] at haccess
  have hplaced := haccess.map fun _ =>
    (layout.placeAt cuType ip i, (.ok () : Except (Option String) Unit))
  exact hplaced

/-- One round of the loops, as long as there is room in the table. -/
theorem placeIp_guards (cuType : CuType) (base : Nat) (h : Answered call ip)
    (hroom : layout.numCu < maxXilinxKernels) :
    Guards (placeIp call cuType base ip layout) (Layout.placeIp call cuType base ip layout)
        (slotOf call base ip layout.numCu < maxXilinxKernels) ∧
      ∃ layout', Layout.placeIp call cuType base ip layout = (layout', .ok ()) ∧
        layout'.numCu = layout.numCu + 1 ∧ layout'.numHardwareCu = layout.numHardwareCu := by
  have hmax : ¬layout.numCu + 1 > maxXilinxKernels := by omega
  rw [placeIp, Layout.placeIp, slotOf]
  simp only [hmax, if_false]
  rcases h with h | h
  · have hneg : call.ipName2Index ip.name < 0 := by rw [h]; decide
    rw [if_pos hneg, if_pos hneg, if_pos hneg, if_pos h, if_pos h]
    exact ⟨placeAt_guards _ _ _ _, _, rfl, rfl, rfl⟩
  · have hneg : ¬call.ipName2Index ip.name < 0 := by omega
    rw [if_neg hneg, if_neg hneg, if_neg hneg]
    exact ⟨placeAt_guards _ _ _ _, _, rfl, rfl, rfl⟩

/-- The table is full: the kernel counts, but is not placed. -/
theorem placeIp_full (call : XrtCall) (cuType : CuType) (base : Nat) (ip : IpData)
    (hfull : layout.numCu = maxXilinxKernels) :
    ∃ e, placeIp call cuType base ip layout =
      .ok ({ layout with numCu := maxXilinxKernels + 1 }, .error e) := by
  rw [placeIp, hfull]
  exact ⟨_, rfl⟩

/-- The loops have met one kernel too many: a fault, or a count beyond the table. -/
def Overfull (r : Except Fault (Layout × Except (Option String) Unit)) : Prop :=
  (∃ fault, r = .error fault) ∨ ∃ layout e, r = .ok (layout, .error e) ∧
    layout.numCu = maxXilinxKernels + 1 ∧ layout.Untouched

/-- The hardware kernels fit the table. -/
theorem placeKernels_fits (ips : List IpData) (layout : Layout)
    (hanswered : ∀ ip ∈ ofType .kernel ips,
      Answered call ip ∧ call.ipName2Index ip.name < maxXilinxKernels)
    (hfits : layout.numCu + (ofType .kernel ips).length ≤ maxXilinxKernels) :
    placeKernels call ips layout = .ok (Layout.placeKernels call ips layout) ∧
      ∃ layout', Layout.placeKernels call ips layout = (layout', .ok ()) := by
  induction ips generalizing layout with
  | nil => exact ⟨rfl, layout, rfl⟩
  | cons ip ips ih =>
      rw [placeKernels, Layout.placeKernels]
      by_cases hip : ip.ipType = .kernel
      · have hdomain : ofType .kernel (ip :: ips) = ip :: ofType .kernel ips := by
          simp [ofType, hip]
        rw [hdomain] at hanswered hfits
        rw [List.length_cons] at hfits
        rw [if_pos hip, if_pos hip]
        obtain ⟨hans, hlt⟩ := hanswered ip List.mem_cons_self
        have hroom : ({ layout with numHardwareCu := layout.numHardwareCu + 1 } : Layout).numCu <
            maxXilinxKernels := by
          simp only
          omega
        obtain ⟨hguards, layout₁, heq, hnum, -⟩ := placeIp_guards .ipKernel 0 hans hroom
        have hslot : slotOf call 0 ip layout.numCu < maxXilinxKernels := by
          rw [slotOf]
          split
          · omega
          · omega
        rw [hguards.ok hslot, heq]
        apply ih
        · exact fun ip hip => hanswered ip (List.mem_cons_of_mem _ hip)
        · simp only at hnum
          omega
      · have hdomain : ofType .kernel (ip :: ips) = ofType .kernel ips := by simp [ofType, hip]
        rw [hdomain] at hanswered hfits
        rw [if_neg hip, if_neg hip]
        exact ih _ hanswered hfits

/-- The PS kernels fit behind the hardware kernels. -/
theorem placePsKernels_fits (ips : List IpData) (layout : Layout)
    (hanswered : ∀ ip ∈ ofType .psKernel ips,
      Answered call ip ∧ call.ipName2Index ip.name + layout.numHardwareCu < maxXilinxKernels)
    (hfits : layout.numCu + (ofType .psKernel ips).length ≤ maxXilinxKernels) :
    placePsKernels call ips layout = .ok (Layout.placePsKernels call ips layout) ∧
      ∃ layout', Layout.placePsKernels call ips layout = (layout', .ok ()) := by
  induction ips generalizing layout with
  | nil => exact ⟨rfl, layout, rfl⟩
  | cons ip ips ih =>
      rw [placePsKernels, Layout.placePsKernels]
      by_cases hip : ip.ipType = .psKernel
      · have hdomain : ofType .psKernel (ip :: ips) = ip :: ofType .psKernel ips := by
          simp [ofType, hip]
        rw [hdomain] at hanswered hfits
        rw [List.length_cons] at hfits
        rw [if_pos hip, if_pos hip]
        obtain ⟨hans, hlt⟩ := hanswered ip List.mem_cons_self
        have hroom : layout.numCu < maxXilinxKernels := by omega
        obtain ⟨hguards, layout₁, heq, hnum, hhw⟩ :=
          placeIp_guards .ipPsKernel layout.numHardwareCu hans hroom
        have hslot : slotOf call layout.numHardwareCu ip layout.numCu < maxXilinxKernels := by
          rw [slotOf]
          split
          · omega
          · omega
        rw [hguards.ok hslot, heq]
        apply ih
        · intro ip hip
          rw [hhw]
          exact hanswered ip (List.mem_cons_of_mem _ hip)
        · omega
      · have hdomain : ofType .psKernel (ip :: ips) = ofType .psKernel ips := by
          simp [ofType, hip]
        rw [hdomain] at hanswered hfits
        rw [if_neg hip, if_neg hip]
        exact ih _ hanswered hfits

/-- One round in a table that is not overfull yet goes on with one CU more, or faults. -/
theorem placeIp_overfull {k : Layout → Except Fault (Layout × Except (Option String) Unit)}
    (h : Answered call ip) (hu : layout.Untouched) (hle : layout.numCu ≤ maxXilinxKernels)
    (hk : ∀ layout' : Layout, layout'.Untouched → layout'.numCu = layout.numCu + 1 →
      layout'.numCu ≤ maxXilinxKernels → Overfull (k layout')) :
    Overfull ((placeIp call cuType base ip layout).bind fun
      | (layout, .ok ()) => k layout
      | (layout, .error e) => .ok (layout, .error e)) := by
  rcases Nat.lt_or_ge layout.numCu maxXilinxKernels with hlt | hge
  · obtain ⟨hguards, layout', heq, hnum, -⟩ := placeIp_guards cuType base h hlt
    have hu' := Layout.placeIp_untouched hu call cuType base ip
    rw [heq] at hu'
    by_cases hslot : slotOf call base ip layout.numCu < maxXilinxKernels
    · rw [hguards.ok hslot, heq]
      exact hk layout' hu' hnum (by omega)
    · obtain ⟨fault, hfault⟩ := hguards.fault hslot
      rw [hfault]
      exact .inl ⟨fault, rfl⟩
  · have hfull : layout.numCu = maxXilinxKernels := by omega
    obtain ⟨e, he⟩ := placeIp_full call cuType base ip hfull
    rw [he]
    exact .inr ⟨_, e, rfl, rfl, hu.length, hu.cus⟩

theorem placeKernels_overfull {ips : List IpData}
    (hanswered : ∀ ip ∈ ofType .kernel ips, Answered call ip) (hu : layout.Untouched)
    (hle : layout.numCu ≤ maxXilinxKernels)
    (hover : maxXilinxKernels < layout.numCu + (ofType .kernel ips).length) :
    Overfull (placeKernels call ips layout) := by
  induction ips generalizing layout with
  | nil =>
      simp only [ofType, List.filter_nil, List.length_nil] at hover
      omega
  | cons ip ips ih =>
      rw [placeKernels]
      by_cases hip : ip.ipType = .kernel
      · have hdomain : ofType .kernel (ip :: ips) = ip :: ofType .kernel ips := by
          simp [ofType, hip]
        rw [hdomain] at hanswered hover
        rw [List.length_cons] at hover
        rw [if_pos hip]
        apply placeIp_overfull (hanswered ip List.mem_cons_self)
        · exact ⟨hu.length, hu.cus⟩
        · exact hle
        · intro layout' hu' hnum hle'
          simp only at hnum
          exact ih (fun ip hip => hanswered ip (List.mem_cons_of_mem _ hip)) hu' hle' (by omega)
      · have hdomain : ofType .kernel (ip :: ips) = ofType .kernel ips := by simp [ofType, hip]
        rw [hdomain] at hanswered hover
        rw [if_neg hip]
        exact ih hanswered hu hle hover

theorem placePsKernels_overfull {ips : List IpData}
    (hanswered : ∀ ip ∈ ofType .psKernel ips, Answered call ip) (hu : layout.Untouched)
    (hle : layout.numCu ≤ maxXilinxKernels)
    (hover : maxXilinxKernels < layout.numCu + (ofType .psKernel ips).length) :
    Overfull (placePsKernels call ips layout) := by
  induction ips generalizing layout with
  | nil =>
      simp only [ofType, List.filter_nil, List.length_nil] at hover
      omega
  | cons ip ips ih =>
      rw [placePsKernels]
      by_cases hip : ip.ipType = .psKernel
      · have hdomain : ofType .psKernel (ip :: ips) = ip :: ofType .psKernel ips := by
          simp [ofType, hip]
        rw [hdomain] at hanswered hover
        rw [List.length_cons] at hover
        rw [if_pos hip]
        apply placeIp_overfull (hanswered ip List.mem_cons_self) hu hle
        intro layout' hu' hnum hle'
        exact ih (fun ip hip => hanswered ip (List.mem_cons_of_mem _ hip)) hu' hle' (by omega)
      · have hdomain : ofType .psKernel (ip :: ips) = ofType .psKernel ips := by
          simp [ofType, hip]
        rw [hdomain] at hanswered hover
        rw [if_neg hip]
        exact ih hanswered hu hle hover

/-! ### Soft kernels -/

theorem placeInstances_guards (name : String) (n : Nat) (layout : Layout) :
    Guards (placeInstances name n layout) (Layout.placeInstances name n layout)
      (n = 0 ∨ layout.numCu + n ≤ maxXilinxKernels) := by
  induction n generalizing layout with
  | zero => exact (guards_ok _).congr (by simp)
  | succ n ih =>
      have haccess := FixedArray.cuList.access_natCast_guards layout.numCu
      rw [FixedArray.size] at haccess
      rw [placeInstances, Layout.placeInstances]
      refine (haccess.bind fun _ => ih _).congr ?_
      simp only
      omega

/-- The first soft kernel that does not fit the table, if any, is noticed: the 32-bit sum that is
checked does not wrap. -/
def SoftSafe : Nat → List SoftKernel → Prop
  | _, [] => True
  | numCu, sk :: sks =>
      if numCu + sk.numInstances ≤ maxXilinxKernels then SoftSafe (numCu + sk.numInstances) sks
      else maxXilinxKernels < (numCu + sk.numInstances) % 2 ^ 32

theorem placeSoftKernels_guards (sks : List SoftKernel) (layout : Layout)
    (hle : layout.numCu ≤ maxXilinxKernels) :
    Guards (placeSoftKernels sks layout) (Layout.placeSoftKernels sks layout)
      (SoftSafe layout.numCu sks) := by
  induction sks generalizing layout with
  | nil => exact guards_ok _
  | cons sk sks ih =>
      rw [placeSoftKernels, Layout.placeSoftKernels, SoftSafe]
      have hinstances := placeInstances_guards sk.name sk.numInstances layout
      by_cases hfits : layout.numCu + sk.numInstances ≤ maxXilinxKernels
      · have hmod : (layout.numCu + sk.numInstances) % 2 ^ 32 = layout.numCu + sk.numInstances := by
          rw [Nat.mod_eq_of_lt]
          simp only [maxXilinxKernels] at hfits
          omega
        have hnum := (Layout.placeInstances_eq sk.name sk.numInstances layout).1
        rw [hmod, if_neg (by omega), if_neg (by omega), if_neg (by omega), if_pos hfits]
        refine (hinstances.bind fun _ => ih _ (by omega)).congr ?_
        rw [hnum]
        simp [hfits]
      · rw [if_neg hfits]
        by_cases hmod : (layout.numCu + sk.numInstances) % 2 ^ 32 > maxXilinxKernels
        · rw [if_pos hmod, if_pos hmod]
          exact (guards_ok _).congr (by simpa using hmod)
        · rw [if_neg hmod]
          apply guards_of_fault (by omega)
          obtain ⟨fault, hfault⟩ := hinstances.fault (by omega)
          exact ⟨fault, by rw [hfault]; rfl⟩

/-! ### The image -/

/-- The number of kernels in the IP layout. -/
def kernelCount (ips : List IpData) : Nat :=
  (ofType .kernel ips).length + (ofType .psKernel ips).length

/-- The number of CUs that the soft kernels ask for. -/
def softCount (sks : List SoftKernel) : Nat := (sks.map SoftKernel.numInstances).sum

theorem answered_of_apart {domain : List IpData} (h : call.NumbersApart domain) :
    ∀ ip ∈ domain, Answered call ip ∧ call.ipName2Index ip.name < domain.length := by
  intro ip hip
  rcases h with h | ⟨h, -⟩
  · have hneg : call.ipName2Index ip.name < 0 := by
      rw [h ip hip]
      decide
    exact ⟨.inl (h ip hip), by omega⟩
  · exact ⟨.inr (h ip hip).1, (h ip hip).2⟩

section Image

variable {axlf : Axlf} {ips : List IpData}

/-- An image whose kernels fit the table comes to its soft kernels. -/
theorem ofImage_fits (happart : call.NumbersImageApart axlf) (hips : axlf.ipLayout = some ips)
    (hle : kernelCount ips ≤ maxXilinxKernels) :
    ∃ layout : Layout, layout.numCu = kernelCount ips ∧
      ofImage call axlf = placeSoftKernels axlf.softKernels layout ∧
      Layout.ofImage call axlf = Layout.placeSoftKernels axlf.softKernels layout := by
  rw [kernelCount] at hle
  obtain ⟨hkernels, hps⟩ := happart ips hips
  have hempty : Layout.empty.numCu = 0 ∧ Layout.empty.numHardwareCu = 0 := ⟨rfl, rfl⟩
  obtain ⟨hk, layout₁, heq₁⟩ := placeKernels_fits ips Layout.empty
    (fun ip hip => ⟨(answered_of_apart hkernels ip hip).1, by
      have := (answered_of_apart hkernels ip hip).2
      omega⟩) (by omega)
  obtain ⟨hlaid, hhw⟩ := Layout.placeKernels_laid heq₁
  have hnum₁ := hlaid.numCu
  obtain ⟨hp, layout₂, heq₂⟩ := placePsKernels_fits ips layout₁
    (fun ip hip => ⟨(answered_of_apart hps ip hip).1, by
      have := (answered_of_apart hps ip hip).2
      omega⟩) (by omega)
  have hnum₂ := (Layout.placePsKernels_laid heq₂).numCu
  refine ⟨layout₂, ?_, ?_, ?_⟩
  · rw [hnum₂, hnum₁, hempty.1, Nat.zero_add, kernelCount]
  · rw [ofImage, hips]
    simp only
    rw [hk, heq₁]
    change (placePsKernels call ips layout₁).bind _ = _
    rw [hp, heq₂]
    rfl
  · rw [Layout.ofImage, hips]
    simp only [heq₁, heq₂]

/-- An image with too many kernels faults, or its count goes beyond the table. -/
theorem ofImage_overfull (happart : call.NumbersImageApart axlf) (hips : axlf.ipLayout = some ips)
    (hover : maxXilinxKernels < kernelCount ips) : Overfull (ofImage call axlf) := by
  rw [kernelCount] at hover
  obtain ⟨hkernels, hps⟩ := happart ips hips
  have hanswered : ∀ ip ∈ ofType .kernel ips, Answered call ip := fun ip hip =>
    (answered_of_apart hkernels ip hip).1
  have hanswered' : ∀ ip ∈ ofType .psKernel ips, Answered call ip := fun ip hip =>
    (answered_of_apart hps ip hip).1
  have hempty : Layout.empty.numCu = 0 ∧ Layout.empty.numHardwareCu = 0 := ⟨rfl, rfl⟩
  rw [ofImage, hips]
  simp only
  rcases Nat.lt_or_ge maxXilinxKernels (ofType .kernel ips).length with hlt | hge
  · have hkernels := placeKernels_overfull hanswered Layout.empty_untouched (by omega) (by omega)
    rcases hkernels with ⟨fault, hfault⟩ | ⟨layout, e, hlayout, hrest⟩
    · rw [hfault]
      exact .inl ⟨fault, rfl⟩
    · rw [hlayout]
      exact .inr ⟨layout, e, rfl, hrest⟩
  · obtain ⟨hk, layout₁, heq₁⟩ := placeKernels_fits ips Layout.empty
      (fun ip hip => ⟨hanswered ip hip, by
        have := (answered_of_apart hkernels ip hip).2
        omega⟩) (by omega)
    have hnum₁ := (Layout.placeKernels_laid heq₁).1.numCu
    have hu := Layout.placeKernels_untouched call ips Layout.empty_untouched
    rw [heq₁] at hu
    change layout₁.Untouched at hu
    rw [hk, heq₁]
    have hps := placePsKernels_overfull hanswered' hu (by omega) (by omega)
    change Overfull ((placePsKernels call ips layout₁).bind _)
    rcases hps with ⟨fault, hfault⟩ | ⟨layout, e, hlayout, hrest⟩
    · rw [hfault]
      exact .inl ⟨fault, rfl⟩
    · rw [hlayout]
      exact .inr ⟨layout, e, rfl, hrest⟩

/-- The soft kernels are taken exactly when all their CUs fit; the count never goes beyond the
table. -/
theorem placeSoftKernels_verdict (sks : List SoftKernel) (layout : Layout)
    (hle : layout.numCu ≤ maxXilinxKernels) :
    ((Layout.placeSoftKernels sks layout).2 = .ok () ↔
        layout.numCu + softCount sks ≤ maxXilinxKernels) ∧
      (Layout.placeSoftKernels sks layout).1.numCu ≤ maxXilinxKernels ∧
      ((Layout.placeSoftKernels sks layout).2 = .ok () →
        (Layout.placeSoftKernels sks layout).1.numCu = layout.numCu + softCount sks) := by
  induction sks generalizing layout with
  | nil => exact ⟨⟨fun _ => hle, fun _ => rfl⟩, hle, fun _ => rfl⟩
  | cons sk sks ih =>
      have hcount : softCount (sk :: sks) = sk.numInstances + softCount sks := by
        simp [softCount]
      rw [Layout.placeSoftKernels, hcount]
      split
      · rename_i hmod
        have hover : maxXilinxKernels < layout.numCu + sk.numInstances :=
          lt_of_lt_of_le hmod (Nat.mod_le _ _)
        refine ⟨⟨by simp, fun h => ?_⟩, hle, by simp⟩
        omega
      split
      · refine ⟨⟨by simp, fun h => ?_⟩, hle, by simp⟩
        omega
      · have hnum := (Layout.placeInstances_eq sk.name sk.numInstances layout).1
        have hrest := ih (Layout.placeInstances sk.name sk.numInstances layout) (by omega)
        rw [hnum, Nat.add_assoc] at hrest
        exact hrest

end Image

/-! ## The device while an image is read -/

/-- A reading without a fault, with the number of CUs. -/
def asRead (r : DeviceData × String × Except XrmError Unit) : Read :=
  (r.1, r.1.numCu, r.2.1, r.2.2)

section Device

variable {dev : DeviceData} {axlf : Axlf} {ips : List IpData} {errmsg : String}

/-- What comes of the layout of an image whose kernels fit the table. -/
theorem ofImage_verdict (happart : call.NumbersImageApart axlf) (hips : axlf.ipLayout = some ips)
    (hle : kernelCount ips ≤ maxXilinxKernels) :
    Guards (ofImage call axlf) (Layout.ofImage call axlf)
        (SoftSafe (kernelCount ips) axlf.softKernels) ∧
      ((Layout.ofImage call axlf).2 = .ok () ↔
        kernelCount ips + softCount axlf.softKernels ≤ maxXilinxKernels) ∧
      ((Layout.ofImage call axlf).1.cuList.take (Layout.ofImage call axlf).1.numCu).length =
        (Layout.ofImage call axlf).1.numCu ∧
      ((Layout.ofImage call axlf).2 = .ok () →
        (Layout.ofImage call axlf).1.numCu = kernelCount ips + softCount axlf.softKernels) := by
  obtain ⟨layout₀, hnum₀, hchecked, hplain⟩ := ofImage_fits happart hips hle
  have hsoft := placeSoftKernels_guards axlf.softKernels layout₀ (by omega)
  obtain ⟨hok, hbound, hnum⟩ := placeSoftKernels_verdict axlf.softKernels layout₀ (by omega)
  have hu := Layout.ofImage_untouched call axlf
  rw [← hchecked, ← hplain, hnum₀] at hsoft
  rw [← hplain, hnum₀] at hok hnum
  rw [← hplain] at hbound
  refine ⟨hsoft, hok, ?_, hnum⟩
  rw [List.length_take, hu.length]
  exact Nat.min_eq_left hbound

theorem xclbinGetLayout_guards (dev : DeviceData) (errmsg : String)
    (happart : call.NumbersImageApart axlf) (hips : axlf.ipLayout = some ips)
    (hle : kernelCount ips ≤ maxXilinxKernels) :
    Guards (xclbinGetLayout dev call axlf errmsg) (asRead (dev.xclbinGetLayout call axlf errmsg))
      (SoftSafe (kernelCount ips) axlf.softKernels ∧
        (kernelCount ips + softCount axlf.softKernels ≤ maxXilinxKernels →
          0 < kernelCount ips + softCount axlf.softKernels)) := by
  obtain ⟨hguards, hok, hlen, hnum⟩ := ofImage_verdict happart hips hle
  rw [xclbinGetLayout, DeviceData.xclbinGetLayout]
  refine hguards.bind fun _ => ?_
  cases hof : Layout.ofImage call axlf with
  | mk layout ret =>
      rw [hof] at hok hnum hlen
      simp only at hlen
      cases ret with
      | error e =>
          have hnot : ¬kernelCount ips + softCount axlf.softKernels ≤ maxXilinxKernels := by
            simpa using hok.not.mp (by simp)
          simp only [asRead, DeviceData.numCu, hlen]
          exact (guards_ok _).congr (by simp [hnot])
      | ok u =>
          have hnum := hnum rfl
          have hfits := hok.mp rfl
          simp only at hnum
          simp only
          by_cases hzero : layout.numCu = 0
          · rw [if_pos hzero]
            exact guards_of_fault (by omega) ⟨_, rfl⟩
          · rw [if_neg hzero]
            split <;>
            · simp only [asRead, DeviceData.numCu, DeviceData.updateDeviceLoad, hlen]
              exact (guards_ok _).congr (by simp only [iff_true]; omega)

/-! ### The memory banks -/

theorem setMemBank_guards (banks : MemTopologyList) (cu : CuData) (conn : Connection) :
    Guards (setMemBank banks cu conn) (cu.setMemBank banks conn)
      (conn.ipLayoutIndex = cu.ipLayoutIndex →
        0 ≤ conn.memDataIndex ∧ conn.memDataIndex < maxDdrMap) := by
  rw [setMemBank]
  by_cases h : conn.ipLayoutIndex = cu.ipLayoutIndex
  · rw [if_pos h]
    have haccess := FixedArray.memTopologyList.access_guards conn.memDataIndex
    rw [FixedArray.size] at haccess
    exact (haccess.map fun _ => cu.setMemBank banks conn).congr (by simp [h])
  · rw [if_neg h, CuData.setMemBank, if_neg h]
    exact (guards_ok _).congr (by simp [h])

/-- The two loops that attach the banks. -/
theorem setMemBanks_guards (banks : MemTopologyList) (conns : List Connection)
    (cus : List CuData) :
    Guards (cus.mapM fun cu => conns.foldlM (setMemBank banks) cu)
      (cus.map fun cu => conns.foldl (CuData.setMemBank banks) cu)
      (∀ cu ∈ cus, ∀ conn ∈ conns, conn.ipLayoutIndex = cu.ipLayoutIndex →
        0 ≤ conn.memDataIndex ∧ conn.memDataIndex < maxDdrMap) := by
  apply guards_mapM
  intro cu _
  apply guards_foldlM (I := fun cu' : CuData => cu'.ipLayoutIndex = cu.ipLayoutIndex)
  · intro cu' conn hindex
    rw [CuData.setMemBank_ipLayoutIndex, hindex]
  · intro cu' conn hindex
    rw [← hindex]
    exact setMemBank_guards banks cu' conn
  · rfl

/-- The running numbers of the CUs are those below their count. -/
theorem index_lt {layout : Layout} (hof : Layout.ofImage call axlf = (layout, .ok ()))
    (hpos : 0 < layout.numCu) :
    ∀ cu ∈ layout.cuList.take layout.numCu, cu.ipLayoutIndex < layout.numCu := by
  obtain ⟨hnum, hcus⟩ := Layout.ofImage_eq hof
  intro cu hcu
  have hmem := List.mem_of_mem_take hcu
  rw [hcus] at hmem
  refine Writes.forall_mem_putAll (P := fun cu : CuData => cu.ipLayoutIndex < layout.numCu) ?_ ?_ cu
    hmem
  · intro cu hcu
    rw [List.eq_of_mem_replicate hcu]
    exact hpos
  · intro b hb cu _
    have hnumber := List.mem_map_of_mem (f := Building.number) hb
    rw [Layout.number_buildImage, List.mem_range] at hnumber
    rw [(b.fill_spec hb cu).1, hnum]
    exact hnumber

theorem exists_index {layout : Layout} (happart : call.NumbersImageApart axlf)
    (hof : Layout.ofImage call axlf = (layout, .ok ())) {k : Nat} (hk : k < layout.numCu) :
    ∃ cu ∈ layout.cuList.take layout.numCu, cu.ipLayoutIndex = k := by
  obtain ⟨hnum, hcus⟩ := Layout.ofImage_eq hof
  have hle := Layout.ofImage_numCu_le hof
  have hmem : k ∈ (Layout.buildImage call axlf).map Building.number := by
    rw [Layout.number_buildImage, List.mem_range, ← hnum]
    exact hk
  obtain ⟨b, hb, rfl⟩ := List.mem_map.mp hmem
  have hslots := Layout.slots_buildImage happart
  have hslot : b.slot < layout.numCu := by
    rw [hnum, ← List.mem_range]
    exact hslots.mem_iff.mp (List.mem_map_of_mem hb)
  have hlast := Writes.lastAt_of_nodup (hslots.nodup_iff.mpr List.nodup_range) hb
  have hsize : Layout.empty.cuList.length = maxXilinxKernels := List.length_replicate
  obtain ⟨cu₀, hat⟩ : ∃ cu₀, layout.cuList[b.slot]? = some (b.fill cu₀) := by
    rw [hcus]
    exact Writes.exists_getElem?_putAll (by omega) hlast
  refine ⟨b.fill cu₀, ?_, (b.fill_spec hb cu₀).1⟩
  apply List.mem_of_getElem? (i := b.slot)
  rw [List.getElem?_take, if_pos hslot, hat]

/-! ### All sections -/

/-- The other sections of an image with `numCu` CUs stay inside the arrays: as many banks and
connections as there is room for, no values missing in the keyvalue metadata, and, unless it is
refused, a bank index in range for every connection of a CU. -/
def SectionsSafe (dev : DeviceData) (axlf : Axlf) (numCu : Nat) : Prop :=
  DeviceData.BanksFit axlf ∧ (axlf.connectivity.getD []).length ≤ maxConnectionEntries ∧
    axlf.keyvalueMetadata ≠ .incomplete ∧
      ((∀ message, axlf.keyvalueMetadata ≠ .malformed message) →
        ∀ conn ∈ dev.connectionsFor axlf, 0 ≤ conn.ipLayoutIndex → conn.ipLayoutIndex < numCu →
          0 ≤ conn.memDataIndex ∧ conn.memDataIndex < maxDdrMap)

theorem copyBank_guards (topology : MemTopology) (list : MemTopologyList) (i : Nat) :
    Guards (copyBank topology list i) (topology.copyBank list i) (i + 3 ≤ maxDdrMap) := by
  have haccess := FixedArray.memTopologyList.accessFrom_guards i 3
  rw [FixedArray.size] at haccess
  exact (haccess.map fun _ => topology.copyBank list i).congr (by omega)

theorem memTopology_guards (dev : DeviceData) (axlf : Axlf) :
    Guards (xclbinGetMemTopology dev axlf) (dev.xclbinGetMemTopology axlf)
      (DeviceData.BanksFit axlf) := by
  rw [xclbinGetMemTopology, DeviceData.xclbinGetMemTopology, DeviceData.BanksFit]
  cases axlf.memTopology with
  | none => exact (guards_ok _).congr (by simp)
  | some topology =>
      have hloop := guards_foldlM (I := fun _ : MemTopologyList => True) (fun _ _ _ => trivial)
        (fun list i _ => copyBank_guards topology list i) (List.range topology.banks.length)
        (b := dev.memTopologyList) trivial
      refine (hloop.map fun list => { dev with memTopologyList := list }).congr ?_
      simp only [Option.some.injEq, forall_eq', List.mem_range]
      constructor
      · intro h i hi
        omega
      · intro h
        by_contra hover
        have hlast := h (topology.banks.length - 1)
        simp only [maxDdrMap] at hover hlast
        omega

theorem connectivity_guards (dev : DeviceData) (axlf : Axlf) :
    Guards (xclbinGetConnectivity dev axlf) (dev.xclbinGetConnectivity axlf)
      ((axlf.connectivity.getD []).length ≤ maxConnectionEntries) := by
  have haccess := FixedArray.connectList.accessFrom_guards 0 (axlf.connectivity.getD []).length
  rw [FixedArray.size] at haccess
  exact (haccess.map fun _ => dev.xclbinGetConnectivity axlf).congr (by omega)

theorem xclbinGetKeyvalues_guards (dev : DeviceData) (axlf : Axlf) (errmsg : String) :
    Guards (xclbinGetKeyvalues dev axlf errmsg) (dev.xclbinGetKeyvalues axlf errmsg)
      (axlf.keyvalueMetadata ≠ .incomplete) := by
  rw [xclbinGetKeyvalues]
  by_cases h : axlf.keyvalueMetadata = .incomplete
  · rw [if_pos h]
    exact (guards_error Fault.uncaught _).congr (by simp [h])
  · rw [if_neg h]
    exact (guards_ok _).congr (by simp [h])

/-- The bank loops over the CUs that keyvalues have been set for. -/
theorem banks_guards {layout : Layout} {cus : List CuData} (kvs : List KeyValue)
    (happart : call.NumbersImageApart axlf) (hof : Layout.ofImage call axlf = (layout, .ok ()))
    (hpos : 0 < layout.numCu)
    (hcus : cus = (layout.cuList.take layout.numCu).map fun cu =>
      kvs.foldl (fun cu kv => cu.setKeyValue kv) cu)
    (banks : MemTopologyList) (conns : List Connection) :
    Guards (cus.mapM fun cu => conns.foldlM (setMemBank banks) cu)
      (cus.map fun cu => conns.foldl (CuData.setMemBank banks) cu)
      (∀ conn ∈ conns, 0 ≤ conn.ipLayoutIndex → conn.ipLayoutIndex < layout.numCu →
        0 ≤ conn.memDataIndex ∧ conn.memDataIndex < maxDdrMap) := by
  refine (setMemBanks_guards banks conns cus).congr ?_
  simp only [hcus, List.forall_mem_map, (CuData.setKeyValues_memBank kvs _).1]
  constructor
  · intro h cu hcu conn hconn hindex
    have hlt := index_lt hof hpos cu hcu
    exact h conn hconn (by omega) (by omega)
  · intro h conn hconn hlo hhi
    have hk : conn.ipLayoutIndex.toNat < layout.numCu := by omega
    obtain ⟨cu, hcu, hindex⟩ := exists_index happart hof hk
    exact h cu hcu conn hconn (by omega)

theorem hardwareKernelExisting_iff (hips : axlf.ipLayout = some ips) :
    hardwareKernelExisting axlf = true ↔ 0 < kernelCount ips := by
  have hcount : 0 < kernelCount ips ↔
      0 < (ofType .kernel ips).length ∨ 0 < (ofType .psKernel ips).length := by
    rw [kernelCount]
    omega
  rw [hcount, hardwareKernelExisting, hips, List.length_pos_iff_exists_mem,
    List.length_pos_iff_exists_mem]
  simp only [ofType, List.mem_filter, List.any_eq_true, bne_iff_ne, decide_eq_true_eq]
  constructor
  · rintro ⟨ip, hip, hne⟩
    cases htype : ip.ipType with
    | kernel => exact .inl ⟨ip, hip, htype⟩
    | psKernel => exact .inr ⟨ip, hip, htype⟩
    | other => exact absurd htype hne
  · rintro (⟨ip, hip, htype⟩ | ⟨ip, hip, htype⟩)
    · exact ⟨ip, hip, by simp [htype]⟩
    · exact ⟨ip, hip, by simp [htype]⟩

/-- The sections behind the layout, once its CUs are on the device. -/
theorem sections_guards {layout : Layout} (happart : call.NumbersImageApart axlf)
    (hof : Layout.ofImage call axlf = (layout, .ok ())) (hpos : 0 < layout.numCu)
    (dev : DeviceData) (errmsg : String) :
    let dev₁ := { dev with cuList := layout.cuList.take layout.numCu }.updateDeviceLoad 0 0
    Guards
      ((xclbinGetMemTopology (dev₁.xclbinGetUuid axlf) axlf).bind fun dev =>
        (xclbinGetConnectivity dev axlf).bind fun dev =>
          (xclbinGetKeyvalues dev axlf errmsg).bind fun
            | (dev, errmsg, .error _) => .ok (dev, dev₁.numCu, errmsg, .error .error)
            | (dev, errmsg, .ok ()) =>
                (dev.cuList.mapM fun cu =>
                    dev.connectList.foldlM (setMemBank dev.memTopologyList) cu).bind
                  fun cuList => .ok ({ dev with cuList := cuList }, dev₁.numCu, errmsg, .ok ()))
      (asRead
        (match (((dev₁.xclbinGetUuid axlf).xclbinGetMemTopology axlf).xclbinGetConnectivity
            axlf).xclbinGetKeyvalues axlf errmsg with
        | (dev, errmsg, .error _) => (dev, errmsg, .error .error)
        | (dev, errmsg, .ok ()) =>
            ({ dev with
                cuList := dev.cuList.map fun cu =>
                  dev.connectList.foldl (CuData.setMemBank dev.memTopologyList) cu },
              errmsg, .ok ())))
      (SectionsSafe dev axlf layout.numCu) := by
  intro dev₁
  have hmem := memTopology_guards (dev₁.xclbinGetUuid axlf) axlf
  have hconn := connectivity_guards ((dev₁.xclbinGetUuid axlf).xclbinGetMemTopology axlf) axlf
  refine hmem.bind fun _ => hconn.bind fun _ => ?_
  refine (xclbinGetKeyvalues_guards _ axlf errmsg).bind fun _ => ?_
  rw [DeviceData.xclbinGetSections_eq, DeviceData.xclbinGetKeyvalues]
  cases hkv : axlf.keyvalueMetadata with
  | incomplete => contradiction
  | absent =>
      have hcus : layout.cuList.take layout.numCu = (layout.cuList.take layout.numCu).map fun cu =>
          ([] : List KeyValue).foldl (fun cu kv => cu.setKeyValue kv) cu := by simp
      have hbanks := banks_guards [] happart hof hpos hcus (dev₁.tableFor axlf)
        (dev.connectionsFor axlf)
      simp only [asRead, DeviceData.numCu, List.length_map, ne_eq, reduceCtorEq, not_false_eq_true,
        implies_true, true_imp_iff]
      exact hbanks.map fun cuList => _
  | malformed message =>
      simp only [asRead]
      exact (guards_ok _).congr (by simp)
  | entries kvs =>
      have hbanks := banks_guards kvs happart hof hpos rfl (dev₁.tableFor axlf)
        (dev.connectionsFor axlf)
      simp only [asRead, DeviceData.numCu, List.length_map, ne_eq, reduceCtorEq, not_false_eq_true,
        implies_true, true_imp_iff]
      exact hbanks.map fun cuList => _

theorem xclbinGetInfo_guards (dev : DeviceData) (errmsg : String)
    (happart : call.NumbersImageApart axlf) (hips : axlf.ipLayout = some ips)
    (hle : kernelCount ips ≤ maxXilinxKernels) :
    Guards (xclbinGetInfo dev call axlf errmsg) (asRead (dev.xclbinGetInfo call axlf errmsg))
      (SoftSafe (kernelCount ips) axlf.softKernels ∧
        (kernelCount ips + softCount axlf.softKernels ≤ maxXilinxKernels →
          0 < kernelCount ips + softCount axlf.softKernels ∧
            (0 < kernelCount ips →
              SectionsSafe dev axlf (kernelCount ips + softCount axlf.softKernels)))) := by
  have hlayout := xclbinGetLayout_guards dev errmsg happart hips hle
  obtain ⟨-, hok, hlen, hnum⟩ := ofImage_verdict happart hips hle
  have hker := hardwareKernelExisting_iff hips
  have hsplit : (SoftSafe (kernelCount ips) axlf.softKernels ∧
      (kernelCount ips + softCount axlf.softKernels ≤ maxXilinxKernels →
        0 < kernelCount ips + softCount axlf.softKernels ∧
          (0 < kernelCount ips →
            SectionsSafe dev axlf (kernelCount ips + softCount axlf.softKernels)))) ↔
      (SoftSafe (kernelCount ips) axlf.softKernels ∧
        (kernelCount ips + softCount axlf.softKernels ≤ maxXilinxKernels →
          0 < kernelCount ips + softCount axlf.softKernels)) ∧
        (kernelCount ips + softCount axlf.softKernels ≤ maxXilinxKernels → 0 < kernelCount ips →
          SectionsSafe dev axlf (kernelCount ips + softCount axlf.softKernels)) := by
    tauto
  rw [xclbinGetInfo, DeviceData.xclbinGetInfo]
  refine Guards.congr (hlayout.bind fun _ => ?_) hsplit
  rw [DeviceData.xclbinGetLayout]
  cases hof : Layout.ofImage call axlf with
  | mk layout ret =>
      rw [hof] at hok hnum hlen
      simp only at hlen
      cases ret with
      | error e =>
          have hnot : ¬kernelCount ips + softCount axlf.softKernels ≤ maxXilinxKernels := by
            simpa using hok.not.mp (by simp)
          exact (guards_ok _).congr (by simp [hnot])
      | ok u =>
          have hnum := hnum rfl
          have hfits := hok.mp rfl
          simp only at hnum
          simp only
          by_cases hexists : hardwareKernelExisting axlf = true
          swap
          · rw [if_neg hexists]
            rw [hker] at hexists
            exact (guards_ok _).congr (by simp [hexists])
          rw [if_pos hexists]
          rw [hker] at hexists
          simp only [hfits, hexists, true_imp_iff]
          rw [← hnum]
          exact sections_guards happart hof (by omega) dev errmsg

/-! ## Clearing -/

theorem scanBusy_guards (h : dev.isDeviceBusy = false) (cuId n : Nat) :
    Guards (scanBusy dev cuId n) false (n = 0 ∨ cuId + n ≤ maxXilinxKernels) := by
  induction n generalizing cuId with
  | zero => exact (guards_ok _).congr (by simp)
  | succ n ih =>
      have haccess := FixedArray.cuList.access_natCast_guards cuId
      rw [FixedArray.size] at haccess
      have hfree : (dev.cuList[cuId]?.map CuData.totalUsedLoadUnified).getD 0 = 0 := by
        cases hcu : dev.cuList[cuId]? with
        | none => rfl
        | some cu => exact DeviceData.idle_of_not_busy h cu (List.mem_of_getElem? hcu)
      rw [scanBusy]
      simp only [hfree, ne_eq, not_true_eq_false, if_false]
      exact (haccess.bind fun _ => ih (cuId + 1)).congr (by omega)

/-- Clearing a device that is not in use. -/
theorem deviceClearInfo_guards (h : dev.isDeviceBusy = false) (numCu : Nat) (bufferFreed : Bool) :
    Guards (deviceClearInfo dev numCu bufferFreed) dev.deviceClearInfo
      (numCu ≤ maxXilinxKernels ∧ bufferFreed = false) := by
  have hscan : Guards (scanBusy dev 0 numCu) false (numCu ≤ maxXilinxKernels) :=
    (scanBusy_guards h 0 numCu).congr (by omega)
  rw [deviceClearInfo, DeviceData.deviceClearInfo_of_not_busy h]
  refine hscan.bind fun _ => ?_
  rw [if_neg (by simp)]
  cases bufferFreed with
  | true => exact guards_of_fault (by simp) ⟨_, rfl⟩
  | false => exact (guards_ok _).congr (by simp)

/-! ## Loading -/

/-- The image is read without a fault: its layout has CUs, no more kernels than the table, and
soft kernels whose count does not wrap; and once there is a kernel, the other sections stay
inside the arrays. -/
def ImageSafe (dev : DeviceData) (axlf : Axlf) : Prop :=
  ∃ ips, axlf.ipLayout = some ips ∧ kernelCount ips ≤ maxXilinxKernels ∧
    SoftSafe (kernelCount ips) axlf.softKernels ∧
      (kernelCount ips + softCount axlf.softKernels ≤ maxXilinxKernels →
        0 < kernelCount ips + softCount axlf.softKernels ∧
          (0 < kernelCount ips →
            SectionsSafe dev axlf (kernelCount ips + softCount axlf.softKernels)))

/-- The load comes to no fault: it does not start, the file is missing, the driver refuses it, or
the image is read without a fault. -/
def LoadSafe (dev : DeviceData) (env : XrtEnv) (call : XrtCall) (xclbin : String) : Prop :=
  dev.isDisabled = true ∨ dev.isLoaded = true ∨
    match env.file xclbin with
    | .missing => True
    | .unreadable => False
    | .image axlf => call.lockDevice ≠ 0 ∨ call.loadXclBin ≠ 0 ∨ ImageSafe dev axlf

/-- A reading that ends beside the table cannot be cleaned up without a fault. -/
theorem overfull_faults (hover : Overfull (ofImage call axlf)) (dev : DeviceData) (devId : Nat)
    (xclbin errmsg : String) :
    ∃ fault, (xclbinGetInfo dev call axlf errmsg).bind (afterRead call devId xclbin) =
      .error fault := by
  rcases hover with ⟨fault, hfault⟩ | ⟨layout, e, hlayout, hnum, hu⟩
  · exact ⟨fault, by rw [xclbinGetInfo, xclbinGetLayout, hfault]; rfl⟩
  · have hbusy : DeviceData.isDeviceBusy { dev with cuList := layout.cuList.take layout.numCu } =
        false := by
      apply DeviceData.not_busy_of_untouched
      intro cu hcu
      exact hu.cus cu (List.mem_of_mem_take hcu)
    obtain ⟨fault, hfault⟩ := (deviceClearInfo_guards hbusy layout.numCu false).fault (by omega)
    refine ⟨fault, ?_⟩
    rw [xclbinGetInfo, xclbinGetLayout, hlayout]
    change (deviceClearInfo { dev with cuList := layout.cuList.take layout.numCu } layout.numCu
      false).bind _ = _
    rw [hfault]
    rfl

/-- What follows the reading of an image, without the faults. -/
def finish (call : XrtCall) (devId : Nat) (xclbin : String) :
    DeviceData × String × Except XrmError Unit → DeviceData × String × Except XrmError Unit
  | (dev, errmsg, .error _) =>
      (dev.deviceClearInfo, errmsg ++ DeviceData.loadFailure devId xclbin, .error .error)
  | (dev, errmsg, .ok ()) =>
      if call.openContext ≠ 0 then
        (dev.deviceClearInfo,
          errmsg ++ "Unable to lock device" ++ DeviceData.loadFailure devId xclbin, .error .error)
      else
        ({ dev with memBuffer := none, xclbinName := xclbin, isLoaded := true }, errmsg, .ok ())

/-- What follows the reading of an image whose device can be cleared. -/
theorem afterRead_asRead_guards {r : DeviceData × String × Except XrmError Unit}
    (call : XrtCall) (devId : Nat) (xclbin : String)
    (hclear : Guards (deviceClearInfo r.1 r.1.numCu false) r.1.deviceClearInfo True) :
    Guards (afterRead call devId xclbin (asRead r))
      (finish call devId xclbin r) True := by
  obtain ⟨dev, errmsg, ret⟩ := r
  cases ret with
  | error e => exact hclear.map _
  | ok u =>
      simp only [asRead, afterRead, finish]
      by_cases hopen : call.openContext ≠ 0
      · rw [if_pos hopen, if_pos hopen]
        exact hclear.map fun dev => (dev, errmsg ++ "Unable to lock device" ++
          DeviceData.loadFailure devId xclbin, (.error .error : Except XrmError Unit))
      · rw [if_neg hopen, if_neg hopen]
        exact guards_ok _

/-- Reading an image and what follows it. -/
theorem afterRead_guards (happart : call.NumbersImageApart axlf) (dev : DeviceData) (devId : Nat)
    (xclbin errmsg : String) :
    Guards ((xclbinGetInfo dev call axlf errmsg).bind (afterRead call devId xclbin))
      (finish call devId xclbin (dev.xclbinGetInfo call axlf errmsg)) (ImageSafe dev axlf) := by
  cases hips : axlf.ipLayout with
  | none =>
      apply guards_of_fault
      · rintro ⟨ips, hsome, -⟩
        rw [hips] at hsome
        simp at hsome
      · exact ⟨.divisionByZero, by rw [xclbinGetInfo, xclbinGetLayout, ofImage, hips]; rfl⟩
  | some ips =>
      rcases Nat.lt_or_ge maxXilinxKernels (kernelCount ips) with hover | hle
      · apply guards_of_fault
        · rintro ⟨ips', hsome, hle, -⟩
          rw [hips, Option.some.injEq] at hsome
          subst hsome
          omega
        · exact overfull_faults (ofImage_overfull happart hips hover) dev devId xclbin errmsg
      · have hinfo := xclbinGetInfo_guards dev errmsg happart hips hle
        have hrelay := dev.xclbinGetInfo_relayout call axlf errmsg
        have hbusy := DeviceData.not_busy_of_untouched hrelay.untouched
        have hclear : Guards (deviceClearInfo (dev.xclbinGetInfo call axlf errmsg).1
            (dev.xclbinGetInfo call axlf errmsg).1.numCu false)
            (dev.xclbinGetInfo call axlf errmsg).1.deviceClearInfo True :=
          (deviceClearInfo_guards hbusy _ false).congr
            ⟨fun _ => ⟨hrelay.number, rfl⟩, fun _ => trivial⟩
        have hafter := afterRead_asRead_guards call devId xclbin hclear
        refine (hinfo.bind fun _ => hafter).congr ?_
        simp only [ImageSafe, hips, Option.some.injEq, exists_eq_left', and_true, hle, true_and]

/-- The device that an image is read for: opened, with the image in its buffer. -/
theorem opened_frame (dev : DeviceData) (call : XrtCall) :
    (if dev.deviceHandle then dev else dev.openDevice call).cuList = dev.cuList ∧
      (if dev.deviceHandle then dev else dev.openDevice call).connectList = dev.connectList := by
  split
  · exact ⟨rfl, rfl⟩
  · exact ⟨rfl, rfl⟩

/-- Loading comes to a fault exactly when it is not safe, and does what the model of the load does
otherwise. -/
theorem deviceLoadXclbin_guards (env : XrtEnv) (xclbin : String)
    (happart : ∀ axlf, env.file xclbin = .image axlf → call.NumbersImageApart axlf)
    (hrest : dev.isLoaded = false → dev.cuList = []) (devId : Nat) (errmsg : String) :
    Guards (deviceLoadXclbin dev devId env call xclbin errmsg)
      (dev.deviceLoadXclbin devId env call xclbin errmsg) (LoadSafe dev env call xclbin) := by
  rw [deviceLoadXclbin, DeviceData.deviceLoadXclbin, LoadSafe]
  cases hdisabled : dev.isDisabled with
  | true => exact (guards_ok _).congr (by simp)
  | false =>
      cases hload : dev.isLoaded with
      | true => exact (guards_ok _).congr (by simp)
      | false =>
          simp only [Bool.false_eq_true, if_false, false_or]
          obtain ⟨hcus, hconns⟩ := opened_frame dev call
          rw [hrest hload] at hcus
          have hbusy := DeviceData.not_busy_of_empty hcus
          have hnum : (if dev.deviceHandle then dev else dev.openDevice call).numCu = 0 := by
            rw [DeviceData.numCu, hcus]
            rfl
          cases hfile : env.file xclbin with
          | missing =>
              have hclear := deviceClearInfo_guards hbusy 0 false
              rw [← hnum] at hclear
              exact (hclear.map _).congr (by simp [hnum])
          | unreadable =>
              have hclear := deviceClearInfo_guards hbusy 0 true
              rw [← hnum] at hclear
              exact (hclear.map _).congr (by simp)
          | image axlf =>
              have hbuffered : DeviceData.isDeviceBusy
                  { (if dev.deviceHandle then dev else dev.openDevice call) with
                    memBuffer := some axlf } = false := hbusy
              have hclear := deviceClearInfo_guards hbuffered 0 false
              rw [← hnum] at hclear
              rw [DeviceData.xclbinLoadToDevice]
              by_cases hlock : call.lockDevice ≠ 0
              · rw [if_pos hlock]
                exact (hclear.map _).congr (by simp [hlock, hnum])
              rw [if_neg hlock]
              by_cases hxcl : call.loadXclBin ≠ 0
              · rw [if_pos hxcl]
                exact (hclear.map _).congr (by simp [hxcl, hnum])
              rw [if_neg hxcl]
              have hread := afterRead_guards (happart axlf hfile)
                { (if dev.deviceHandle then dev else dev.openDevice call) with
                  memBuffer := some axlf } devId xclbin errmsg
              refine hread.congr ?_
              simp only [hlock, hxcl, false_or, ImageSafe, SectionsSafe, DeviceData.connectionsFor,
                hconns]

/-! ## Loads that fail -/

/-- The device is as one that is not loaded: no CU, no buffer, and every record of an image reset;
only the handle, the flag `isDisabled` and the load record are its own. -/
structure Cleared (dev : DeviceData) : Prop where
  notLoaded : dev.isLoaded = false
  numCu : dev.numCu = 0
  cuList : dev.cuList = []
  memBuffer : dev.memBuffer = none
  flushed : dev = { dev.flushDevData with deviceHandle := dev.deviceHandle }

theorem cleared_of_not_busy (h : dev.isDeviceBusy = false) : Cleared dev.deviceClearInfo := by
  rw [DeviceData.deviceClearInfo_of_not_busy h]
  exact ⟨rfl, rfl, rfl, rfl, rfl⟩

/-- The file holds the image that the device is loaded with. -/
def HoldsLoaded (dev : DeviceData) (env : XrtEnv) (xclbin : String) : Prop :=
  ∃ axlf, env.file xclbin = .image axlf ∧ binToHexstr axlf.uuid = dev.uuidStr

theorem deviceReloadXclbin_ok_iff (dev : DeviceData) (devId : Nat) (env : XrtEnv)
    (xclbin errmsg : String) :
    (dev.deviceReloadXclbin devId env xclbin errmsg).2 = .ok () ↔ HoldsLoaded dev env xclbin := by
  rw [DeviceData.deviceReloadXclbin, HoldsLoaded]
  cases env.file xclbin with
  | missing => simp
  | unreadable => simp
  | image axlf =>
      by_cases huuid : binToHexstr axlf.uuid = dev.uuidStr
      · simp [huuid]
      · simp [huuid]

/-- What follows the reading of an image leaves the device loaded or cleared. -/
theorem finish_cleared {r : DeviceData × String × Except XrmError Unit}
    (hbusy : r.1.isDeviceBusy = false) (call : XrtCall) (devId : Nat) (xclbin : String)
    (hfail : (finish call devId xclbin r).2.2 ≠ .ok ()) :
    Cleared (finish call devId xclbin r).1 := by
  obtain ⟨dev, errmsg, ret⟩ := r
  cases ret with
  | error e => exact cleared_of_not_busy hbusy
  | ok u =>
      rw [finish] at hfail ⊢
      split
      · exact cleared_of_not_busy hbusy
      · rename_i hopen
        rw [if_neg hopen] at hfail
        exact absurd rfl hfail

/-- A load that starts and fails leaves the device cleared. -/
theorem cleared_of_failed (hdisabled : dev.isDisabled = false) (hload : dev.isLoaded = false)
    (hcus : dev.cuList = []) (devId : Nat) (env : XrtEnv) (xclbin : String)
    (hfail : (dev.deviceLoadXclbin devId env call xclbin errmsg).2.2 ≠ .ok ()) :
    Cleared (dev.deviceLoadXclbin devId env call xclbin errmsg).1 := by
  have hopened := (opened_frame dev call).1
  rw [hcus] at hopened
  have hbusy := DeviceData.not_busy_of_empty hopened
  rw [DeviceData.deviceLoadXclbin] at hfail ⊢
  simp only [hdisabled, hload, Bool.false_eq_true, if_false] at hfail ⊢
  cases hfile : env.file xclbin with
  | missing => exact cleared_of_not_busy hbusy
  | unreadable => exact cleared_of_not_busy hbusy
  | image axlf =>
      have hbuffered : DeviceData.isDeviceBusy
          { (if dev.deviceHandle then dev else dev.openDevice call) with
            memBuffer := some axlf } = false := hbusy
      rw [hfile] at hfail
      simp only at hfail ⊢
      rw [DeviceData.xclbinLoadToDevice] at hfail ⊢
      by_cases hlock : call.lockDevice ≠ 0
      · rw [if_pos hlock]
        exact cleared_of_not_busy hbuffered
      rw [if_neg hlock] at hfail ⊢
      by_cases hxcl : call.loadXclBin ≠ 0
      · rw [if_pos hxcl]
        exact cleared_of_not_busy hbuffered
      rw [if_neg hxcl] at hfail ⊢
      have hrelay := DeviceData.xclbinGetInfo_relayout
        { (if dev.deviceHandle then dev else dev.openDevice call) with memBuffer := some axlf }
        call axlf errmsg
      exact finish_cleared (DeviceData.not_busy_of_untouched hrelay.untouched) call devId xclbin
        hfail

/-- The load meets no fault, and if it fails it leaves the device as one that is not loaded. -/
def LoadsCleanly (dev : DeviceData) (devId : Nat) (env : XrtEnv) (call : XrtCall)
    (xclbin errmsg : String) : Prop :=
  ∃ r, deviceLoadXclbin dev devId env call xclbin errmsg = .ok r ∧
    (r.2.2 ≠ .ok () → Cleared r.1)

/-- Before a load: a disabled device is as one that is not loaded, and for a loaded one the file
holds its image. -/
def StartsClean (dev : DeviceData) (env : XrtEnv) (xclbin : String) : Prop :=
  if dev.isDisabled then Cleared dev
  else dev.isLoaded = true → HoldsLoaded dev env xclbin

theorem failed_cleared_iff (hrest : dev.isLoaded = false → dev.cuList = []) (devId : Nat)
    (env : XrtEnv) (call : XrtCall) (xclbin errmsg : String) :
    ((dev.deviceLoadXclbin devId env call xclbin errmsg).2.2 ≠ .ok () →
        Cleared (dev.deviceLoadXclbin devId env call xclbin errmsg).1) ↔
      StartsClean dev env xclbin := by
  rw [StartsClean]
  cases hdisabled : dev.isDisabled with
  | true =>
      rw [DeviceData.deviceLoadXclbin, if_pos hdisabled]
      simp
  | false =>
      cases hload : dev.isLoaded with
      | false =>
          simp only [Bool.false_eq_true, if_false, false_imp_iff, iff_true]
          exact cleared_of_failed hdisabled hload (hrest hload) devId env xclbin
      | true =>
          have hnot : ¬Cleared dev := by
            intro h
            rw [h.notLoaded] at hload
            cases hload
          rw [DeviceData.deviceLoadXclbin, if_neg (by simp [hdisabled]), if_pos hload]
          simp only [Bool.false_eq_true, if_false, true_imp_iff, hnot, imp_false, not_not]
          exact deviceReloadXclbin_ok_iff dev devId env xclbin errmsg

/-- With a driver that numbers the kernels of each domain apart or not at all, on a device that
has no CUs unless it is loaded: a load is without a fault and clean on failure exactly when it is
safe and starts clean. -/
theorem loadsCleanly_iff (devId : Nat) {env : XrtEnv} {xclbin : String} (errmsg : String)
    (happart : ∀ axlf, env.file xclbin = .image axlf → call.NumbersImageApart axlf)
    (hrest : dev.isLoaded = false → dev.cuList = []) :
    LoadsCleanly dev devId env call xclbin errmsg ↔
      LoadSafe dev env call xclbin ∧ StartsClean dev env xclbin := by
  have hguards := deviceLoadXclbin_guards env xclbin happart hrest devId errmsg
  have hclean := failed_cleared_iff hrest devId env call xclbin errmsg
  rw [← hclean, LoadsCleanly]
  constructor
  · rintro ⟨r, hr, hfail⟩
    obtain ⟨hsafe, rfl⟩ := hguards.eq_of_ok hr
    exact ⟨hsafe, hfail⟩
  · rintro ⟨hsafe, hfail⟩
    exact ⟨_, hguards.ok hsafe, hfail⟩

theorem call_numbersImageApart (axlf : Axlf) : Scenario.call.NumbersImageApart axlf :=
  fun _ _ => ⟨.inl fun _ _ => rfl, .inl fun _ _ => rfl⟩

/-- An image with one kernel is loaded without a fault. -/
theorem loadsCleanly_iff_one :
    LoadsCleanly DeviceData.bareCard 0 (Scenario.env 1 1) Scenario.call "one.xclbin" "" := by
  apply (loadsCleanly_iff 0 "" (fun axlf _ => call_numbersImageApart axlf) fun _ => rfl).mpr
  constructor
  · right
    right
    right
    right
    have hfit : DeviceData.BanksFit (Scenario.image 1) := fun _ h => nomatch h
    exact ⟨_, rfl, by decide, trivial, fun _ => ⟨by decide, fun _ =>
      ⟨hfit, by decide, by decide, fun _ => by decide⟩⟩⟩
  · exact fun h => absurd h (by decide)

/-- An image without kernels makes the daemon divide by 0; with 145 kernels the clean-up scans
beyond the table. -/
theorem loadsCleanly_faults :
    deviceLoadXclbin DeviceData.bareCard 0 (Scenario.env 1 0) Scenario.call "none.xclbin" "" =
        .error .divisionByZero ∧
      deviceLoadXclbin DeviceData.bareCard 0 (Scenario.env 1 145) Scenario.call "many.xclbin" "" =
        .error (.outside .cuList 144) ∧
      ¬LoadsCleanly DeviceData.bareCard 0 (Scenario.env 1 0) Scenario.call "none.xclbin" "" ∧
      ¬LoadsCleanly DeviceData.bareCard 0 (Scenario.env 1 145) Scenario.call "many.xclbin" "" := by
  have hnone : deviceLoadXclbin DeviceData.bareCard 0 (Scenario.env 1 0) Scenario.call
      "none.xclbin" "" = .error .divisionByZero := rfl
  have hmany : deviceLoadXclbin DeviceData.bareCard 0 (Scenario.env 1 145) Scenario.call
      "many.xclbin" "" = .error (.outside .cuList 144) := by decide +kernel
  refine ⟨hnone, hmany, ?_, ?_⟩
  · rintro ⟨r, hr, -⟩
    rw [hnone] at hr
    cases hr
  · rintro ⟨r, hr, -⟩
    rw [hmany] at hr
    cases hr

end Device

end Checked

end Xrm
