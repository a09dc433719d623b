import Xrm.Verification.LeastUsed

/-! # The sums of the admission test

The daemon does not bound the load of a request, and adds it to the load in use in 32 bits. The
sum decides an admission rightly exactly as long as it does not wrap.
-/

namespace Xrm

namespace CuData

variable {cu cu' : CuData} {prop : CuProperty} {svc policyInfo chanId : Nat}

/-- No more than the whole load of the CU is in use, and no slot lends more than it holds. -/
structure WithinLimits (cu : CuData) : Prop where
  total : cu.totalUsedLoadUnified ≤ maxChanLoad
  slots : ∀ r ∈ cu.slots, r.reserveUsedLoadUnified ≤ r.reserveLoadUnified

theorem Consistent.withinLimits (h : cu.Consistent) : cu.WithinLimits :=
  ⟨h.ledger.total_le, h.ledger.used_le_load⟩

/-- An allocation keeps the limits: it compares the very numbers that it stores. -/
theorem WithinLimits.allocated (h : cu.WithinLimits) (hcu : cu.Consistent)
    {pre : Option CuData}
    (halloc : cu.allocChanClientFromCu prop svc policyInfo pre = .allocated cu' chanId) :
    cu'.WithinLimits := by
  obtain ⟨idx, hpos, hadm, -, -, rfl⟩ := allocated_of_allocChan hcu halloc
  have hslots : (cu.assignChannel prop svc idx chanId).slots =
      (cu.assignChannel prop svc idx chanId).reserves.take cu.numReserve := by
    rw [CuData.slots, assignChannel_numReserve]
  cases idx with
  | none =>
      obtain ⟨hreserves, htotal⟩ := assignChannel_none cu prop svc chanId
      refine ⟨?_, fun r hr => h.slots r ?_⟩
      · rw [htotal]
        exact hadm.2
      · rwa [hslots, hreserves] at hr
  | some i =>
      obtain ⟨hreserves, htotal⟩ := assignChannel_some cu prop svc chanId i
      refine ⟨by rw [htotal]; exact h.total, fun r hr => ?_⟩
      obtain ⟨hfind, -, hle⟩ := hadm
      obtain ⟨-, hi, -⟩ := isReservePoolUsingCu_eq_some hfind
      rw [hcu.slot_eq hi] at hle
      rw [hslots, hreserves, List.take_modify] at hr
      obtain ⟨j, hj, hget⟩ := List.getElem_of_mem hr
      rw [List.getElem_modify] at hget
      rw [← hget]
      split
      · rename_i hij
        subst hij
        exact hle
      · exact h.slots _ (List.getElem_mem _)

/-! ## Exact sums -/

/-- The allocation on the CU compares the load that it would really have, refuses a request that
does not fit and keeps the limits. -/
structure AdmitsExactly (cu : CuData) (prop : CuProperty) : Prop where
  sum : 0 < prop.requestLoadUnified → ∀ share ∈ cu.share prop,
    i32 (share.1 + prop.requestLoadUnified) = share.1 + prop.requestLoadUnified
  refused : ¬cu.Fits prop → ∀ svc policyInfo pre, ∃ e,
    cu.allocChanClientFromCu prop svc policyInfo pre = .refused e
  limits : ∀ svc policyInfo pre cu' chanId,
    cu.allocChanClientFromCu prop svc policyInfo pre = .allocated cu' chanId → cu'.WithinLimits

/-- The filter for the least used CUs compares the load that the CU would really have, and only
lets CUs with room pass. -/
structure FiltersExactly (cu : CuData) (prop : CuProperty) : Prop where
  sum : cu.matchesCu prop = true →
    i32 (prop.requestLoadUnified + cu.totalUsedLoadUnified) =
      prop.requestLoadUnified + cu.totalUsedLoadUnified
  room : ∀ devId cuId, candidates prop devId cuId [cu] ≠ [] → cu.HasRoom prop

theorem refused_of_nonpos (h : prop.requestLoadUnified ≤ 0) (pre : Option CuData) :
    cu.allocChanClientFromCu prop svc policyInfo pre = .refused .invalid := by
  rw [allocChanClientFromCu]
  simp only [if_pos h]

theorem admitsExactly_iff (hcu : cu.Consistent) :
    cu.AdmitsExactly prop ↔ (0 < prop.requestLoadUnified →
      ∀ share ∈ cu.share prop, share.1 + prop.requestLoadUnified ≤ 2147483647) := by
  constructor
  · intro h hpos share hshare
    have hsum := h.sum hpos share hshare
    rw [i32] at hsum
    omega
  · intro h
    have hsum : 0 < prop.requestLoadUnified → ∀ share ∈ cu.share prop,
        i32 (share.1 + prop.requestLoadUnified) = share.1 + prop.requestLoadUnified := by
      intro hpos share hshare
      have hle := h hpos share hshare
      have hge := (share_bounds hcu hshare).1
      rw [maxChanLoad] at hge
      exact i32_eq (by omega) (by omega)
    refine ⟨hsum, fun hfits svc policyInfo pre => ?_, fun _ _ _ _ _ halloc =>
      hcu.withinLimits.allocated hcu halloc⟩
    by_cases hpos : 0 < prop.requestLoadUnified
    · rw [allocChan_eq_of_exact hcu hpos (hsum hpos), if_neg hfits]
      exact ⟨_, rfl⟩
    · exact ⟨_, refused_of_nonpos (not_lt.mp hpos) pre⟩

theorem filtersExactly_iff (hcu : cu.Consistent)
    (hload : i32 prop.requestLoadUnified = prop.requestLoadUnified) :
    cu.FiltersExactly prop ↔ (cu.matchesCu prop = true →
      prop.requestLoadUnified + cu.totalUsedLoadUnified ≤ 2147483647) := by
  have hnonneg := hcu.total_nonneg
  constructor
  · intro h hmatch
    have hsum := h.sum hmatch
    rw [i32] at hsum
    omega
  · intro h
    have hsum : cu.matchesCu prop = true →
        i32 (prop.requestLoadUnified + cu.totalUsedLoadUnified) =
          prop.requestLoadUnified + cu.totalUsedLoadUnified := by
      intro hmatch
      have hle := h hmatch
      rw [i32] at hload ⊢
      omega
    refine ⟨hsum, fun devId cuId hne => ?_⟩
    by_cases hmatch : cu.matchesCu prop = true
    · rw [HasRoom, ← hsum hmatch]
      by_contra hle
      exact hne (by simp [candidates, hle])
    · exact absurd (by simp [candidates, hmatch]) hne

theorem exact_of_safe (hcu : cu.Consistent)
    (hload : i32 prop.requestLoadUnified = prop.requestLoadUnified)
    (hsafe : prop.requestLoadUnified ≤ maxSafeLoad) :
    cu.AdmitsExactly prop ∧ cu.FiltersExactly prop := by
  have htotal := hcu.ledger.total_le
  rw [maxSafeLoad, maxChanLoad] at hsafe
  rw [maxChanLoad] at htotal
  refine ⟨(admitsExactly_iff hcu).mpr fun _ share hshare => ?_,
    (filtersExactly_iff hcu hload).mpr fun _ => by omega⟩
  have hle := (share_bounds hcu hshare).2.1
  rw [maxChanLoad] at hle
  omega

end CuData

namespace System

variable {s s₁ : System} {dev : DeviceData} {cu : CuData}

/-- In every run whose loads are at most `maxSafeLoad` every CU keeps its limits, in every state
of the run and in every state inside an operation. There the sums of a request for any load of
32 bits are exact as long as they do not wrap, which no load up to `maxSafeLoad` does. -/
theorem admission_exact {limit : Nat} (h : Reachable allRuns limit s) (hin : s.Within allRuns s₁)
    (hdev : dev ∈ s₁.devList) (hcu : cu ∈ dev.cuList) :
    cu.WithinLimits ∧ ∀ prop : CuProperty, i32 prop.requestLoadUnified = prop.requestLoadUnified →
      (cu.AdmitsExactly prop ↔ (0 < prop.requestLoadUnified →
        ∀ share ∈ cu.share prop, share.1 + prop.requestLoadUnified ≤ 2147483647)) ∧
      (cu.FiltersExactly prop ↔ (cu.matchesCu prop = true →
        prop.requestLoadUnified + cu.totalUsedLoadUnified ≤ 2147483647)) ∧
      (prop.requestLoadUnified ≤ maxSafeLoad → cu.AdmitsExactly prop ∧ cu.FiltersExactly prop) := by
  have hcons := ((hin.good id h).sound dev hdev).consistent cu hcu
  exact ⟨hcons.withinLimits, fun prop hload => ⟨CuData.admitsExactly_iff hcons,
    CuData.filtersExactly_iff hcons hload, CuData.exact_of_safe hcons hload⟩⟩

theorem admission_exact_squeezed : ∃ dev ∈ (Scenario.after squeezedRun).devList,
    ∃ cu ∈ dev.cuList, cu.WithinLimits ∧ ∀ prop : CuProperty,
      i32 prop.requestLoadUnified = prop.requestLoadUnified →
        (cu.AdmitsExactly prop ↔ (0 < prop.requestLoadUnified →
          ∀ share ∈ cu.share prop, share.1 + prop.requestLoadUnified ≤ 2147483647)) ∧
        (cu.FiltersExactly prop ↔ (cu.matchesCu prop = true →
          prop.requestLoadUnified + cu.totalUsedLoadUnified ≤ 2147483647)) ∧
        (prop.requestLoadUnified ≤ maxSafeLoad →
          cu.AdmitsExactly prop ∧ cu.FiltersExactly prop) := by
  have hsome : ∃ dev ∈ (Scenario.after squeezedRun).devList, ∃ cu ∈ dev.cuList,
      cu.totalUsedLoadUnified = 700000 := by decide +kernel
  obtain ⟨dev, hdev, cu, hcu, -⟩ := hsome
  exact ⟨dev, hdev, cu, hcu, admission_exact (reachable_after squeezedRun (by decide +kernel))
    (.refl _ _) hdev hcu⟩

open Scenario in
/-- The sum of the largest load and a load in use is negative in 32 bits, so the request is
admitted although it fits nowhere. -/
theorem admission_exact_fails : ∃ limit s, Reachable allRuns limit s ∧
    ∃ prop : CuProperty, i32 prop.requestLoadUnified = prop.requestLoadUnified ∧
      (s.resAllocCu prop true).2.toOption.isSome = true ∧
        ∃ dev ∈ s.devList, ∃ cu ∈ dev.cuList, ¬cu.Fits prop ∧ ¬cu.AdmitsExactly prop ∧
          ¬cu.FiltersExactly prop := by
  have hsome : ∃ dev ∈ (after squeezedRun).devList, ∃ cu ∈ dev.cuList,
      ¬cu.Fits (request 2 0 2147483647) ∧ cu.matchesCu (request 2 0 2147483647) = true ∧
        cu.totalUsedLoadUnified = 700000 := by decide +kernel
  obtain ⟨dev, hdev, cu, hcu, hfits, hmatch, htotal⟩ := hsome
  refine ⟨8, _, reachable_after squeezedRun (by decide +kernel), request 2 0 2147483647,
    by decide, by decide +kernel, dev, hdev, cu, hcu,
    hfits, fun hadmits => ?_, fun hfilters => ?_⟩
  · have hsum := hadmits.sum (by decide) (cu.totalUsedLoadUnified, maxChanLoad)
      (CuData.share_default rfl)
    rw [htotal] at hsum
    exact absurd hsum (by decide)
  · have hsum := hfilters.sum hmatch
    rw [htotal] at hsum
    exact absurd hsum (by decide)

end System

end Xrm
