import Xrm.Verification.Granting

/-! # Allocation by the load of the CUs

Both functions that choose by load choose what the scan over the CUs in turn chooses; in the
default pool that is a CU with the most, or the least, load in use.
-/

namespace Xrm

open Choice

variable {prop : CuProperty} {propV2 : CuPropertyV2} {svc policyInfo devId : Nat}

/-! ## What the policy promises -/

/-- The CU is able to serve and, of all that are, has the most or the least in use. -/
structure BestUsed (policyInfo : Nat) (used : PreCu → Int) (able : PreCu → Prop) (q : PreCu) :
    Prop where
  isAble : able q
  most : policyInfo = policyCuMostUsedFirst → ∀ q', able q' → used q' ≤ used q
  least : policyInfo = policyCuLeastUsedFirst → ∀ q', able q' → used q ≤ used q'

/-- The result of an allocation by load: there is one exactly when some CU is able to serve, and
it is on a best one. -/
structure ByUse (policyInfo : Nat) (used : PreCu → Int) (able : PreCu → Prop)
    (r : Except XrmError CuResource) : Prop where
  complete : (∃ res, r = .ok res) ↔ ∃ q, able q
  best : ∀ res, r = .ok res →
    ∃ q, res.deviceId = q.devId ∧ res.cuId = q.cuId ∧ BestUsed policyInfo used able q

theorem ByUse.congr {used : PreCu → Int} {P Q : PreCu → Prop} {r : Except XrmError CuResource}
    (h : ByUse policyInfo used P r) (hPQ : ∀ q, P q ↔ Q q) : ByUse policyInfo used Q r := by
  have heq : P = Q := funext fun q => propext (hPQ q)
  rwa [← heq]

/-! ## The scan in the default pool -/

/-- The load in use, as the policy ranks it. -/
def rank (policyInfo : Nat) (cu : CuData) : Int :=
  if isMostUsedFirst policyInfo then cu.totalUsedLoadUnified else -cu.totalUsedLoadUnified

theorem beats_iff_rank (hp : prop.poolId = 0) (cu pre : CuData) :
    cu.beats prop policyInfo pre = true ↔ rank policyInfo pre < rank policyInfo cu := by
  rw [CuData.beats, if_pos hp, rank, rank]
  split <;> simp

/-- A CU that settles a request by load is filled by it, or is empty: no other one ranks
higher. -/
theorem rank_le_of_settles (hp : prop.poolId = 0)
    (hpolicy : isMostUsedFirst policyInfo = true ∨ isLeastUsedFirst policyInfo = true)
    {cu cu' : CuData} (h : cu.Settles prop policyInfo) (hcons' : cu'.Consistent)
    (hfits' : cu'.Fits prop) : rank policyInfo cu' ≤ rank policyInfo cu := by
  have hnot := h.notDefers
  simp only [CuData.Defers, CuData.share_default hp, Option.mem_def, Option.some.injEq,
    exists_eq_left', not_or, not_and, Decidable.not_not] at hnot
  simp only [CuData.Fits, CuData.share_default hp, Option.mem_def, Option.some.injEq,
    exists_eq_left'] at hfits'
  have hnonneg := hcons'.total_nonneg
  rw [rank, rank]
  split
  · rename_i hmost
    have := hnot.1 hmost
    omega
  · rename_i hmost
    have := hnot.2 (hpolicy.resolve_left hmost)
    omega

/-- In the default pool the scan ends with a best CU, if all CUs have channels left. -/
theorem Picks.byUse {l : List PreCu} {r : Except XrmError CuResource}
    (h : Picks r (choose prop policyInfo none l).chosen) (hp : prop.poolId = 0)
    (hpolicy : policyInfo = policyCuMostUsedFirst ∨ policyInfo = policyCuLeastUsedFirst)
    (hcons : ∀ q ∈ l, q.cu.Consistent) (hchan : ∀ q ∈ l, q.cu.HasChannel) :
    ByUse policyInfo (·.cu.totalUsedLoadUnified) (fun q => q ∈ l ∧ q.cu.Fits prop) r := by
  have hpolicy' : isMostUsedFirst policyInfo = true ∨ isLeastUsedFirst policyInfo = true := by
    rcases hpolicy with rfl | rfl
    · exact .inl rfl
    · exact .inr rfl
  have hable : ∀ q ∈ l, (decide (q.cu.Settles prop policyInfo) = true ∨
      decide (q.cu.Fits prop ∧ q.cu.Defers prop policyInfo) = true) ↔ q.cu.Fits prop := by
    intro q hq
    rw [decide_eq_true_iff, decide_eq_true_iff]
    constructor
    · rintro (hs | hd)
      · exact hs.fits
      · exact hd.1
    · intro hfits
      by_cases hd : q.cu.Defers prop policyInfo
      · exact .inr ⟨hfits, hd⟩
      · exact .inl ⟨hfits, hd, hchan q hq⟩
  have hbest : ∀ q, (choose prop policyInfo none l).chosen = some q →
      ∀ q', q' ∈ l ∧ q'.cu.Fits prop → rank policyInfo q'.cu ≤ rank policyInfo q.cu := by
    intro q hq q' hq'
    refine scan_max (m := fun q : PreCu => rank policyInfo q.cu)
      (List.pairwise_of_forall fun b a _ _ => ?_) (fun a ha hs b hb hable' => ?_) hq hq'.1
      ((hable q' hq'.1).mpr hq'.2)
    · split
      · rename_i hbeats
        exact le_of_lt ((beats_iff_rank hp a.cu b.cu).mp hbeats)
      · rename_i hbeats
        exact not_lt.mp fun hlt => hbeats ((beats_iff_rank hp a.cu b.cu).mpr hlt)
    · exact rank_le_of_settles hp hpolicy' (of_decide_eq_true hs) (hcons b hb)
        ((hable b hb).mp hable')
  cases hc : (choose prop policyInfo none l).chosen with
  | none =>
      rw [hc] at h
      cases h
      refine ⟨⟨by simp, ?_⟩, by simp⟩
      rintro ⟨q, hq, hfits⟩
      have hnone := scan_chosen_eq_none_iff.mp hc q hq
      have := (hable q hq).mpr hfits
      simp [hnone] at this
  | some q =>
      rw [hc] at h
      obtain ⟨hmem, hcan⟩ := scan_chosen hc
      have hq : q ∈ l ∧ q.cu.Fits prop := ⟨hmem, (hable q hmem).mp hcan⟩
      obtain @⟨res, _, hdev, hcu⟩ := h
      refine ⟨⟨fun _ => ⟨q, hq⟩, fun _ => ⟨res, rfl⟩⟩, fun res' hres => ?_⟩
      obtain rfl : res = res' := by simpa using hres
      refine ⟨q, hdev, hcu, hq, ?_, ?_⟩
      · rintro rfl q' hq'
        exact hbest q hc q' hq'
      · rintro rfl q' hq'
        have := hbest q hc q' hq'
        simp only [rank, policyCuLeastUsedFirst, isMostUsedFirst, policyCuMostUsedFirst,
          policyDevMostUsedFirst] at this
        simpa using this

namespace System

variable {D : Discipline} {s : System}

/-! ## The default pool -/

/-- A matching CU on a usable device with room for the load in its default pool. -/
structure HasRoom (s : System) (prop : CuProperty) (q : PreCu) : Prop where
  asks : s.Asks prop q
  room : q.cu.totalUsedLoadUnified + prop.requestLoadUnified ≤ maxChanLoad

theorem Asks.mem {q : PreCu} (h : s.Asks prop q) : ∃ dev ∈ s.devList, q.cu ∈ dev.cuList := by
  obtain ⟨⟨dev, hdev, -, hget⟩, -⟩ := h
  exact ⟨dev, List.mem_of_getElem? hdev, List.mem_of_getElem? hget⟩

theorem Asks.consistent {q : PreCu} (h : s.Asks prop q) (hsound : s.Sound D) :
    q.cu.Consistent := by
  obtain ⟨dev, hdev, hcu⟩ := h.mem
  exact (hsound dev hdev).consistent _ hcu

theorem fits_default_iff (hp : prop.poolId = 0) (cu : CuData) : cu.Fits prop ↔
    cu.totalUsedLoadUnified + prop.requestLoadUnified ≤ maxChanLoad := by
  simp [CuData.Fits, CuData.share_default hp]

/-- A request names a kernel. -/
theorem unnamed_of_kernel (h : propV2.kernelName ≠ "" ∨ propV2.kernelAlias ≠ "") :
    (cuPropertyCopyFromV2 propV2).unnamed = false := by
  simp only [CuProperty.unnamed, cuPropertyCopyFromV2, Bool.and_eq_false_iff, beq_eq_false_iff_ne]
  tauto

end System

end Xrm
