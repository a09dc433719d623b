import Xrm.Verification.DevicePool

/-! # The CU table of an xclbin

The table that the layout of an image sets up: nobody has used its CUs, and when the driver
numbers the kernels without gaps, all of them have been set up.
-/

namespace Xrm

open FixedTable

/-! ## CUs nobody has used -/

namespace Layout

/-- The table has its size, and nobody has used a CU of it. -/
structure Untouched (layout : Layout) : Prop where
  length : layout.cuList.length = maxXilinxKernels
  cus : ∀ cu ∈ layout.cuList, cu.Untouched

variable {layout : Layout}

theorem empty_untouched : empty.Untouched := by
  refine ⟨List.length_replicate, fun cu hcu => ?_⟩
  rw [List.eq_of_mem_replicate hcu]
  exact CuData.blank_untouched

theorem placeAt_untouched (h : layout.Untouched) (cuType : CuType) (ip : IpData) (i : Nat) :
    (layout.placeAt cuType ip i).Untouched := by
  refine ⟨by simpa [placeAt] using h.length, forall_mem_modify h.cus fun cu hcu => ?_⟩
  have hinit := CuData.initFromLayout_untouched (h.cus cu hcu) (layout.numCu - 1) cuType ip.name
    (kernelNameOf ip.name)
  exact hinit.congr fun hn => hn

theorem placeIp_untouched (h : layout.Untouched) (call : XrtCall) (cuType : CuType) (base : Nat)
    (ip : IpData) : (placeIp call cuType base ip layout).1.Untouched := by
  have h' : ({ layout with numCu := layout.numCu + 1 } : Layout).Untouched := ⟨h.length, h.cus⟩
  rw [placeIp]
  simp only
  split
  · exact h'
  · split
    · split
      · exact placeAt_untouched h' _ _ _
      · exact h'
    · exact placeAt_untouched h' _ _ _

theorem placeKernels_untouched (call : XrtCall) (ips : List IpData) (h : layout.Untouched) :
    (placeKernels call ips layout).1.Untouched := by
  induction ips generalizing layout with
  | nil => exact h
  | cons ip ips ih =>
      rw [placeKernels]
      split
      · have h' : ({ layout with numHardwareCu := layout.numHardwareCu + 1 } : Layout).Untouched :=
          ⟨h.length, h.cus⟩
        have hplace := placeIp_untouched h' call .ipKernel 0 ip
        split
        · rename_i heq
          rw [heq] at hplace
          exact ih hplace
        · rename_i heq
          rw [heq] at hplace
          exact hplace
      · exact ih h

theorem placePsKernels_untouched (call : XrtCall) (ips : List IpData) (h : layout.Untouched) :
    (placePsKernels call ips layout).1.Untouched := by
  induction ips generalizing layout with
  | nil => exact h
  | cons ip ips ih =>
      rw [placePsKernels]
      split
      · have hplace := placeIp_untouched h call .ipPsKernel layout.numHardwareCu ip
        split
        · rename_i heq
          rw [heq] at hplace
          exact ih hplace
        · rename_i heq
          rw [heq] at hplace
          exact hplace
      · exact ih h

theorem placeInstances_untouched (name : String) (n : Nat) (h : layout.Untouched) :
    (placeInstances name n layout).Untouched := by
  induction n generalizing layout with
  | zero => exact h
  | succ n ih =>
      exact ih ⟨by simpa using h.length, forall_mem_modify h.cus fun cu hcu =>
        CuData.initFromLayout_untouched (h.cus cu hcu) _ _ _ _⟩

theorem placeSoftKernels_untouched (sks : List SoftKernel) (h : layout.Untouched) :
    (placeSoftKernels sks layout).1.Untouched := by
  induction sks generalizing layout with
  | nil => exact h
  | cons sk sks ih =>
      rw [placeSoftKernels]
      split
      · exact h
      split
      · exact h
      · exact ih (placeInstances_untouched sk.name sk.numInstances h)

/-- A loop that succeeds has had room for every soft kernel. -/
theorem placeSoftKernels_cons_ok {sk : SoftKernel} {sks : List SoftKernel}
    (h : placeSoftKernels (sk :: sks) layout = (layout', .ok ())) :
    layout.numCu + sk.numInstances ≤ maxXilinxKernels ∧
      placeSoftKernels sks (placeInstances sk.name sk.numInstances layout) =
        (layout', .ok ()) := by
  rw [placeSoftKernels] at h
  split at h
  · simp at h
  split at h
  · simp at h
  · rename_i hmax
    exact ⟨by omega, h⟩

theorem ofImage_untouched (call : XrtCall) (axlf : Axlf) : (ofImage call axlf).1.Untouched := by
  rw [ofImage]
  split
  · exact empty_untouched
  · rename_i ips _
    have h₁ := placeKernels_untouched call ips empty_untouched
    split
    · rename_i heq
      rw [heq] at h₁
      exact h₁
    · rename_i heq
      rw [heq] at h₁
      have h₂ := placePsKernels_untouched call ips h₁
      split
      · rename_i heq
        rw [heq] at h₂
        exact h₂
      · rename_i heq
        rw [heq] at h₂
        exact placeSoftKernels_untouched axlf.softKernels h₂

end Layout

/-! ## Numbering without gaps -/

/-- The driver numbers the kernels of a domain without gaps, or does not number them at all,
or refuses one of them. -/
def XrtCall.Numbers (call : XrtCall) (domain : List IpData) : Prop :=
  (∃ ip ∈ domain, call.ipName2Index ip.name < 0 ∧
      call.ipName2Index ip.name ≠ XrmError.invalid.code) ∨
    (∀ ip ∈ domain, call.ipName2Index ip.name = XrmError.invalid.code) ∨
      ∀ i < domain.length, ∃ ip ∈ domain, call.ipName2Index ip.name = (i : Int)

def ofType (ipType : IpType) (ips : List IpData) : List IpData :=
  ips.filter fun ip => ip.ipType = ipType

/-- The driver numbers both kernel domains of the image without gaps. -/
def XrtCall.NumbersImage (call : XrtCall) (axlf : Axlf) : Prop :=
  ∀ ips, axlf.ipLayout = some ips →
    call.Numbers (ofType .kernel ips) ∧ call.Numbers (ofType .psKernel ips)

/-- The driver numbers the kernels of every image without gaps. -/
def XrtEnv.Gapless (env : XrtEnv) : Prop :=
  ∀ attempt devId xclbin axlf, env.file xclbin = .image axlf →
    (env.call attempt devId).NumbersImage axlf

namespace Layout

variable {layout layout' layout'' : Layout} {call : XrtCall} {cuType : CuType} {base : Nat}

/-- Entry `i` of the table has been set up. -/
def Placed (layout : Layout) (i : Nat) : Prop :=
  ∃ cu, layout.cuList[i]? = some cu ∧ cu.channels = cuInitChannels

/-- The entries of a domain of kernels have been placed, where the driver or the order of the
image puts them. -/
structure Laid (call : XrtCall) (base : Nat) (domain : List IpData) (layout layout' : Layout) :
    Prop where
  length : layout'.cuList.length = layout.cuList.length
  numCu : layout'.numCu = layout.numCu + domain.length
  bound : layout.numCu ≤ maxXilinxKernels → layout'.numCu ≤ maxXilinxKernels
  keeps : ∀ i, layout.Placed i → layout'.Placed i
  answered : ∀ ip ∈ domain,
    call.ipName2Index ip.name = XrmError.invalid.code ∨ 0 ≤ call.ipName2Index ip.name
  inTurn : (∀ ip ∈ domain, call.ipName2Index ip.name = XrmError.invalid.code) →
    layout'.numCu ≤ layout.cuList.length →
      ∀ i, layout.numCu ≤ i → i < layout'.numCu → layout'.Placed i
  given : ∀ ip ∈ domain, ∀ i : Nat, call.ipName2Index ip.name = (i : Int) →
    i + base < layout.cuList.length → layout'.Placed (i + base)

theorem Laid.nil : Laid call base [] layout layout where
  length := rfl
  numCu := rfl
  bound := id
  keeps := fun _ h => h
  answered := by simp
  inTurn := fun _ _ i h h' => by omega
  given := by simp

theorem placed_modify {cus : List CuData} {i j : Nat} {f : CuData → CuData}
    (hf : ∀ cu, (f cu).channels = cuInitChannels) {n m n' m' : Nat}
    (h : ({ cuList := cus, numCu := n, numHardwareCu := m } : Layout).Placed j) :
    ({ cuList := cus.modify i f, numCu := n', numHardwareCu := m' } : Layout).Placed j := by
  obtain ⟨cu, hcu, hchans⟩ := h
  simp only at hcu
  by_cases hij : i = j
  · subst hij
    refine ⟨f cu, ?_, hf cu⟩
    simp [hcu]
  · refine ⟨cu, ?_, hchans⟩
    simp [hij, hcu]

theorem placed_modify_self {cus : List CuData} {i : Nat} {f : CuData → CuData}
    (hf : ∀ cu, (f cu).channels = cuInitChannels) (hi : i < cus.length) {n m : Nat} :
    ({ cuList := cus.modify i f, numCu := n, numHardwareCu := m } : Layout).Placed i := by
  refine ⟨f cus[i], ?_, hf _⟩
  simp [hi]

theorem placeAt_placed (layout : Layout) (cuType : CuType) (ip : IpData) {i : Nat}
    (hi : i < layout.cuList.length) : (layout.placeAt cuType ip i).Placed i := by
  refine placed_modify_self (fun cu => ?_) hi
  simp only [CuData.initFromLayout_channels]

theorem placeAt_keeps (layout : Layout) (cuType : CuType) (ip : IpData) (i : Nat) {j : Nat}
    (h : layout.Placed j) : (layout.placeAt cuType ip i).Placed j := by
  refine placed_modify (fun cu => ?_) h
  simp only [CuData.initFromLayout_channels]

/-- One round of the loops: a kernel goes where the driver says, or behind the others. -/
theorem placeIp_laid {ip : IpData} (h : placeIp call cuType base ip layout = (layout', .ok ())) :
    Laid call base [ip] layout layout' := by
  rw [placeIp] at h
  simp only at h
  split at h
  · simp at h
  rename_i hmax
  have hbound : layout.numCu + 1 ≤ maxXilinxKernels := by simpa using hmax
  have hlength : ∀ i,
      ({ layout with numCu := layout.numCu + 1 }.placeAt cuType ip i).cuList.length =
      layout.cuList.length := fun i => List.length_modify _ _ _
  split at h
  · rename_i hneg
    split at h
    · rename_i hinvalid
      obtain rfl := (Prod.mk.inj h).1
      refine ⟨hlength _, rfl, fun _ => hbound, fun i hi => placeAt_keeps _ _ _ _ hi, ?_, ?_, ?_⟩
      · simp [hinvalid]
      · intro _ hle i hi hi'
        have heq : i = layout.numCu := by
          have : i < layout.numCu + 1 := hi'
          omega
        subst heq
        exact placeAt_placed _ _ _ (show layout.numCu < layout.cuList.length from hle)
      · intro ip' hip i hi
        rw [List.mem_singleton.mp hip] at hi
        omega
    · simp at h
  · rename_i hpos
    obtain rfl := (Prod.mk.inj h).1
    refine ⟨hlength _, rfl, fun _ => hbound, fun i hi => placeAt_keeps _ _ _ _ hi, ?_, ?_, ?_⟩
    · simp only [List.mem_singleton, forall_eq]
      exact .inr (by omega)
    · intro hall
      have := hall ip (by simp)
      rw [this] at hpos
      exact absurd hpos (by decide)
    · intro ip' hip i hi hlt
      rw [List.mem_singleton.mp hip] at hi
      rw [hi, Int.toNat_natCast]
      exact placeAt_placed _ _ _ hlt

theorem Laid.append {domain domain' : List IpData} (h : Laid call base domain layout layout')
    (h' : Laid call base domain' layout' layout'') :
    Laid call base (domain ++ domain') layout layout'' where
  length := h'.length.trans h.length
  numCu := by rw [h'.numCu, h.numCu, List.length_append]; omega
  bound := fun hle => h'.bound (h.bound hle)
  keeps := fun i hi => h'.keeps i (h.keeps i hi)
  answered := by
    intro ip hip
    rcases List.mem_append.mp hip with hip | hip
    · exact h.answered ip hip
    · exact h'.answered ip hip
  inTurn := by
    intro hall hle i hi hi'
    have hnum := h'.numCu
    by_cases hlt : i < layout'.numCu
    · exact h'.keeps i (h.inTurn (fun ip hip => hall ip (List.mem_append_left _ hip))
        (by omega) i hi hlt)
    · exact h'.inTurn (fun ip hip => hall ip (List.mem_append_right _ hip))
        (by rw [h.length]; exact hle) i (by omega) hi'
  given := by
    intro ip hip i hi hlt
    rcases List.mem_append.mp hip with hip | hip
    · exact h'.keeps _ (h.given ip hip i hi hlt)
    · exact h'.given ip hip i hi (by rw [h.length]; exact hlt)

theorem placeIp_numHardwareCu (call : XrtCall) (cuType : CuType) (base : Nat) (ip : IpData)
    (layout : Layout) :
    (placeIp call cuType base ip layout).1.numHardwareCu = layout.numHardwareCu := by
  rw [placeIp]
  simp only
  split
  · rfl
  · split
    · split <;> rfl
    · rfl

/-- The count of the hardware kernels is not part of the table. -/
theorem Laid.hardware {domain : List IpData} {n : Nat}
    (h : Laid call base domain { layout with numHardwareCu := n } layout') :
    Laid call base domain layout layout' :=
  ⟨h.length, h.numCu, h.bound, h.keeps, h.answered, h.inTurn, h.given⟩

theorem placeKernels_laid {ips : List IpData}
    (h : placeKernels call ips layout = (layout', .ok ())) :
    Laid call 0 (ofType .kernel ips) layout layout' ∧
      layout'.numHardwareCu = layout.numHardwareCu + (ofType .kernel ips).length := by
  induction ips generalizing layout with
  | nil =>
      obtain rfl := (Prod.mk.inj h).1
      exact ⟨.nil, rfl⟩
  | cons ip ips ih =>
      rw [placeKernels] at h
      by_cases hip : ip.ipType = .kernel
      · rw [if_pos hip] at h
        have hhw := placeIp_numHardwareCu call .ipKernel 0 ip
          { layout with numHardwareCu := layout.numHardwareCu + 1 }
        split at h
        · rename_i layout₁ heq
          rw [heq] at hhw
          simp only at hhw
          obtain ⟨hrest, hnum⟩ := ih h
          have hdomain : ofType .kernel (ip :: ips) = [ip] ++ ofType .kernel ips := by
            simp [ofType, hip]
          rw [hdomain]
          refine ⟨(placeIp_laid heq).hardware.append hrest, ?_⟩
          rw [hnum, hhw, List.length_append, List.length_singleton]
          omega
        · simp at h
      · rw [if_neg hip] at h
        have hdomain : ofType .kernel (ip :: ips) = ofType .kernel ips := by simp [ofType, hip]
        rw [hdomain]
        exact ih h

theorem placePsKernels_laid {ips : List IpData}
    (h : placePsKernels call ips layout = (layout', .ok ())) :
    Laid call layout.numHardwareCu (ofType .psKernel ips) layout layout' := by
  induction ips generalizing layout with
  | nil =>
      obtain rfl := (Prod.mk.inj h).1
      exact .nil
  | cons ip ips ih =>
      rw [placePsKernels] at h
      by_cases hip : ip.ipType = .psKernel
      · rw [if_pos hip] at h
        have hhw := placeIp_numHardwareCu call .ipPsKernel layout.numHardwareCu ip layout
        split at h
        · rename_i layout₁ heq
          rw [heq] at hhw
          have hrest := ih h
          rw [hhw] at hrest
          have hdomain : ofType .psKernel (ip :: ips) = [ip] ++ ofType .psKernel ips := by
            simp [ofType, hip]
          rw [hdomain]
          exact (placeIp_laid heq).append hrest
        · simp at h
      · rw [if_neg hip] at h
        have hdomain : ofType .psKernel (ip :: ips) = ofType .psKernel ips := by
          simp [ofType, hip]
        rw [hdomain]
        exact ih h

/-- A domain numbered without gaps fills the entries from its base on. -/
theorem Laid.filled {domain : List IpData} (h : Laid call base domain layout layout')
    (hnumbers : call.Numbers domain) (hbase : base = layout.numCu)
    (hle : layout'.numCu ≤ layout.cuList.length) :
    ∀ i, layout.numCu ≤ i → i < layout'.numCu → layout'.Placed i := by
  rcases hnumbers with ⟨ip, hip, hneg, hne⟩ | hall | hcover
  · rcases h.answered ip hip with heq | hpos
    · exact absurd heq hne
    · omega
  · exact h.inTurn hall hle
  · intro i hi hi'
    have hnum := h.numCu
    obtain ⟨ip, hip, hidx⟩ := hcover (i - layout.numCu) (by omega)
    have hplaced := h.given ip hip (i - layout.numCu) hidx (by omega)
    rwa [hbase, Nat.sub_add_cancel hi] at hplaced

theorem placeInstances_placed (name : String) (n : Nat) (h : ∀ i < layout.numCu, layout.Placed i)
    (hle : layout.numCu + n ≤ layout.cuList.length) :
    (placeInstances name n layout).cuList.length = layout.cuList.length ∧
      (placeInstances name n layout).numCu = layout.numCu + n ∧
      ∀ i < layout.numCu + n, (placeInstances name n layout).Placed i := by
  induction n generalizing layout with
  | zero => exact ⟨rfl, rfl, h⟩
  | succ n ih =>
      rw [placeInstances]
      have hchans : ∀ cu : CuData,
          (cu.initFromLayout layout.numCu .softKernel name name).channels = cuInitChannels :=
        fun cu => CuData.initFromLayout_channels cu _ _ _ _
      have hnext := @ih { layout with
          numCu := layout.numCu + 1
          cuList := layout.cuList.modify layout.numCu fun cu =>
            cu.initFromLayout layout.numCu .softKernel name name }
        (fun i hi => by
          by_cases heq : i = layout.numCu
          · rw [heq]
            exact placed_modify_self hchans (by omega)
          · have hlt : i < layout.numCu + 1 := hi
            exact placed_modify hchans (h i (by omega)))
        (by simp only [List.length_modify]; omega)
      simp only [List.length_modify] at hnext
      rwa [Nat.add_assoc, Nat.add_comm 1] at hnext

theorem placeSoftKernels_placed {sks : List SoftKernel}
    (hlen : layout.cuList.length = maxXilinxKernels) (h : ∀ i < layout.numCu, layout.Placed i)
    (hok : placeSoftKernels sks layout = (layout', .ok ())) :
    ∀ i < layout'.numCu, layout'.Placed i := by
  induction sks generalizing layout with
  | nil =>
      obtain rfl := (Prod.mk.inj hok).1
      exact h
  | cons sk sks ih =>
      obtain ⟨hmax, hok⟩ := placeSoftKernels_cons_ok hok
      obtain ⟨hlen', hnum, hplaced⟩ :=
        placeInstances_placed sk.name sk.numInstances h (by omega)
      exact ih (hlen'.trans hlen) (by rw [hnum]; exact hplaced) hok

/-- When the driver numbers the kernels without gaps, every CU of the table is set up. -/
theorem ofImage_placed {axlf : Axlf}
    (hnumbers : call.NumbersImage axlf)
    (hok : ofImage call axlf = (layout, .ok ())) : ∀ i < layout.numCu, layout.Placed i := by
  rw [ofImage] at hok
  split at hok
  · obtain rfl := (Prod.mk.inj hok).1
    exact fun i hi => absurd hi (Nat.not_lt_zero i)
  rename_i ips hips
  obtain ⟨hkernels, hps⟩ := hnumbers ips hips
  split at hok
  · simp at hok
  rename_i layout₁ heq₁
  obtain ⟨hlaid₁, hhw⟩ := placeKernels_laid heq₁
  have hlen₁ : layout₁.cuList.length = maxXilinxKernels := by
    rw [hlaid₁.length]
    exact List.length_replicate
  have hbound₁ := hlaid₁.bound (Nat.zero_le _)
  have hfilled₁ := hlaid₁.filled hkernels rfl (by rw [← hlaid₁.length, hlen₁]; exact hbound₁)
  split at hok
  · simp at hok
  rename_i layout₂ heq₂
  have hlaid₂ := placePsKernels_laid heq₂
  have hbase : layout₁.numHardwareCu = layout₁.numCu := by rw [hhw, hlaid₁.numCu]; rfl
  have hfilled₂ := hlaid₂.filled hps hbase (by rw [hlen₁]; exact hlaid₂.bound hbound₁)
  refine placeSoftKernels_placed (by rw [hlaid₂.length, hlen₁]) (fun i hi => ?_) hok
  by_cases hlt : i < layout₁.numCu
  · exact hlaid₂.keeps i (hfilled₁ i (Nat.zero_le i) hlt)
  · exact hfilled₂ i (by omega) hi

theorem placeInstances_numCu (name : String) (n : Nat) (layout : Layout) :
    (placeInstances name n layout).numCu = layout.numCu + n := by
  induction n generalizing layout with
  | zero => rfl
  | succ n ih =>
      rw [placeInstances, ih]
      exact Nat.add_right_comm _ _ _

theorem placeSoftKernels_le {sks : List SoftKernel}
    (hok : placeSoftKernels sks layout = (layout', .ok ())) : layout.numCu ≤ layout'.numCu := by
  induction sks generalizing layout with
  | nil => exact (congrArg Layout.numCu (Prod.mk.inj hok).1).le
  | cons sk sks ih =>
      have hle := ih (placeSoftKernels_cons_ok hok).2
      rw [placeInstances_numCu] at hle
      omega

/-- An image with a kernel gives a CU. -/
theorem ofImage_populated {axlf : Axlf} (hok : ofImage call axlf = (layout, .ok ()))
    (hkernel : hardwareKernelExisting axlf = true) : 0 < layout.numCu := by
  rw [hardwareKernelExisting] at hkernel
  rw [ofImage] at hok
  cases hips : axlf.ipLayout with
  | none => simp [hips] at hkernel
  | some ips =>
      simp only [hips, List.any_eq_true, bne_iff_ne] at hkernel hok
      obtain ⟨ip, hip, hother⟩ := hkernel
      split at hok
      · simp at hok
      rename_i layout₁ heq₁
      have hnum₁ := (placeKernels_laid heq₁).1.numCu
      split at hok
      · simp at hok
      rename_i layout₂ heq₂
      have hnum₂ := (placePsKernels_laid heq₂).numCu
      have hle := placeSoftKernels_le hok
      have hdomain : ip ∈ ofType .kernel ips ∨ ip ∈ ofType .psKernel ips := by
        rw [ofType, ofType, List.mem_filter, List.mem_filter]
        cases htype : ip.ipType <;> simp_all
      rcases hdomain with hmem | hmem <;> have := List.length_pos_of_mem hmem <;> omega

end Layout

/-! ## The later sections of the image -/

theorem CuData.setKeyValue_untouched {cu : CuData} (h : cu.Untouched) (kv : KeyValue) :
    (cu.setKeyValue kv).Untouched := by
  rw [setKeyValue]
  split
  · rename_i hkey
    refine h.congr fun _ => .inl ?_
    rw [← hkey.2]
    exact hkey.1
  · exact h

theorem CuData.setMemBank_untouched {cu : CuData} (h : cu.Untouched) (banks : MemTopologyList)
    (conn : Connection) : (cu.setMemBank banks conn).Untouched := by
  rw [setMemBank]
  split
  · exact h.congr fun hn => hn
  · exact h

theorem foldl_untouched {α : Type*} {f : CuData → α → CuData}
    (hf : ∀ cu x, cu.Untouched → (f cu x).Untouched) (xs : List α) {cu : CuData}
    (h : cu.Untouched) : (xs.foldl f cu).Untouched := by
  induction xs generalizing cu with
  | nil => exact h
  | cons x xs ih => exact ih (hf cu x h)


end Xrm
