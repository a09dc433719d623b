import Xrm.Verification.LoadPolicy

/-! # Allocation by load inside a pool

Inside a reserve pool the comparison of two CUs adds the load of the request on one side and
reads the other CU at the index of the first one's slot. The search ends with a best CU when the
slots are such that these comparisons come out as the used loads do.
-/

namespace Xrm

open Choice

variable {prop : CuProperty} {propV2 : CuPropertyV2} {policyInfo devId : Nat}

/-! ## The slot of the pool -/

/-- The load in use in the slot of pool `p`. -/
def usedOf (p : Nat) (cu : CuData) : Int :=
  ((cu.slots.find? (·.reservePoolId == p)).map (·.reserveUsedLoadUnified)).getD 0

theorem find?_slot {cu : CuData} (hcu : cu.Consistent) {p : Nat} {r : ReserveData} :
    cu.slots.find? (·.reservePoolId == p) = some r ↔ r ∈ cu.slots ∧ r.reservePoolId = p := by
  constructor
  · intro h
    exact ⟨List.mem_of_find?_eq_some h, by simpa using List.find?_some h⟩
  · rintro ⟨hmem, rfl⟩
    cases hfind : cu.slots.find? (·.reservePoolId == r.reservePoolId) with
    | none =>
        rw [List.find?_eq_none] at hfind
        simpa using hfind r hmem
    | some r' =>
        have hpool : r'.reservePoolId = r.reservePoolId := by simpa using List.find?_some hfind
        rw [List.inj_on_of_nodup_map hcu.slots.nodup (List.mem_of_find?_eq_some hfind) hmem hpool]

/-- In a pool a request fits when the slot of the pool has room for it. -/
theorem fits_pool_iff {cu : CuData} (hcu : cu.Consistent) (hp : prop.poolId ≠ 0) :
    cu.Fits prop ↔ ∃ r ∈ cu.slots, r.reservePoolId = prop.poolId ∧
      r.reserveUsedLoadUnified + prop.requestLoadUnified ≤ r.reserveLoadUnified := by
  rw [CuData.Fits, CuData.share, if_neg hp]
  constructor
  · rintro ⟨share, hshare, hle⟩
    obtain ⟨r, hr, rfl⟩ := Option.map_eq_some_iff.mp hshare
    obtain ⟨hmem, hpool⟩ := (find?_slot hcu).mp hr
    exact ⟨r, hmem, hpool, hle⟩
  · rintro ⟨r, hmem, hpool, hle⟩
    exact ⟨_, Option.map_eq_some_iff.mpr ⟨r, (find?_slot hcu).mpr ⟨hmem, hpool⟩, rfl⟩, hle⟩

/-! ## The comparisons of the search -/

/-- The load in use, as the policy ranks it. -/
def poolRank (p policyInfo : Nat) (cu : CuData) : Int :=
  if isMostUsedFirst policyInfo then usedOf p cu else -usedOf p cu

/-- The CU takes the place of another one as the remembered one: its own use of the pool with
the request is more (less) than what the other CU has in use at the same index. -/
def TakesPlace (prop : CuProperty) (policyInfo : Nat) (q r : PreCu) : Bool :=
  (q.cu.isReservePoolUsingCu prop.poolId).any fun i =>
    if isMostUsedFirst policyInfo then
      decide ((r.cu.slot i).reserveUsedLoadUnified <
        usedOf prop.poolId q.cu + prop.requestLoadUnified)
    else
      decide (usedOf prop.poolId q.cu + prop.requestLoadUnified <
        (r.cu.slot i).reserveUsedLoadUnified)

theorem beats_eq_takesPlace (hp : prop.poolId ≠ 0) {q : PreCu} (hcons : q.cu.Consistent)
    (r : PreCu) : q.cu.beats prop policyInfo r.cu = TakesPlace prop policyInfo q r := by
  rw [CuData.beats, if_neg hp, TakesPlace]
  cases hfind : q.cu.isReservePoolUsingCu prop.poolId with
  | none => rfl
  | some i =>
      have hshare := CuData.share_pool hcons hp
      rw [hfind, Option.map_some, CuData.share, if_neg hp] at hshare
      obtain ⟨r', hr', heq⟩ := Option.map_eq_some_iff.mp hshare
      simp only [Prod.mk.injEq] at heq
      simp only [Option.any_some, usedOf, hr', Option.map_some, Option.getD_some, heq.1, gt_iff_lt]

/-- The slots with room are such that the search can trust what it compares. Of two CUs that are
in use short of the request (in use at all), the later one takes the place of the earlier one only
if it is used as much (as little), and leaves it only if it is not used more (less). A CU that the
request fills up (that is empty) ends the search, so none is better than it; unless its channels
have run out, when another one has to be as good. -/
structure ComparesRight (prop : CuProperty) (policyInfo : Nat) (able : PreCu → Prop) : Prop where
  inOrder : ∀ r q, able r → able q → r.Precedes q → r.cu.Defers prop policyInfo →
    q.cu.Defers prop policyInfo →
      if TakesPlace prop policyInfo q r = true then
        poolRank prop.poolId policyInfo r.cu ≤ poolRank prop.poolId policyInfo q.cu
      else poolRank prop.poolId policyInfo q.cu ≤ poolRank prop.poolId policyInfo r.cu
  atOnce : ∀ q r, able q → able r → ¬q.cu.Defers prop policyInfo → q.cu.HasChannel →
    poolRank prop.poolId policyInfo r.cu ≤ poolRank prop.poolId policyInfo q.cu
  passedOver : ∀ q r, able q → able r → r.cu.Defers prop policyInfo ∨ r.cu.HasChannel →
    ∃ r', able r' ∧ (r'.cu.Defers prop policyInfo ∨ r'.cu.HasChannel) ∧
      poolRank prop.poolId policyInfo q.cu ≤ poolRank prop.poolId policyInfo r'.cu

/-- What a search ends with among such CUs ranks highest. -/
theorem ComparesRight.rank_le {able : PreCu → Prop} {l : List PreCu} {q r : PreCu}
    (h : ComparesRight prop policyInfo able) (hp : prop.poolId ≠ 0)
    (hable : ∀ q, able q ↔ q ∈ l ∧ q.cu.Fits prop) (hcons : ∀ q ∈ l, q.cu.Consistent)
    (hl : l.Pairwise PreCu.Precedes) (hq : (choose prop policyInfo none l).chosen = some q)
    (hr : able r) :
    poolRank prop.poolId policyInfo r.cu ≤ poolRank prop.poolId policyInfo q.cu := by
  have hends : ∀ q : PreCu, decide (q.cu.Settles prop policyInfo) = true ∨
      decide (q.cu.Fits prop ∧ q.cu.Defers prop policyInfo) = true →
        q.cu.Fits prop ∧ (q.cu.Defers prop policyInfo ∨ q.cu.HasChannel) := by
    intro q hq
    rw [decide_eq_true_iff, decide_eq_true_iff] at hq
    rcases hq with hs | hd
    · exact ⟨hs.fits, .inr hs.hasChannel⟩
    · exact ⟨hd.1, .inl hd.2⟩
  obtain ⟨hmem, hcan⟩ := scan_chosen hq
  have hqable : able q := (hable q).mpr ⟨hmem, (hends q hcan).1⟩
  obtain ⟨r', hr', hserves, hle⟩ := h.passedOver r q hr hqable (hends q hcan).2
  refine hle.trans (scan_max (m := fun q : PreCu => poolRank prop.poolId policyInfo q.cu)
    (hl.imp_of_mem fun {b a} hb ha hprec hdb hda => ?_) (fun a ha hs b hb hb' => ?_) hq
    ((hable r').mp hr').1 ?_)
  · have hdb := of_decide_eq_true hdb
    have hda := of_decide_eq_true hda
    rw [beats_eq_takesPlace hp (hcons a ha)]
    exact h.inOrder b a ((hable b).mpr ⟨hb, hdb.1⟩) ((hable a).mpr ⟨ha, hda.1⟩) hprec hdb.2 hda.2
  · have hs := of_decide_eq_true hs
    exact h.atOnce a b ((hable a).mpr ⟨ha, hs.fits⟩) ((hable b).mpr ⟨hb, (hends b hb').1⟩)
      hs.notDefers hs.hasChannel
  · rw [decide_eq_true_iff, decide_eq_true_iff]
    have hfits := ((hable r').mp hr').2
    by_cases hd : r'.cu.Defers prop policyInfo
    · exact .inr ⟨hfits, hd⟩
    · exact .inl ⟨hfits, hd, hserves.resolve_left hd⟩

namespace System

variable {D : Discipline} {s : System}

/-! ## The functions -/

/-- A matching CU on a usable device whose slot of the request's pool has room for the load. -/
structure HasSlotRoom (s : System) (prop : CuProperty) (q : PreCu) : Prop where
  asks : s.Asks prop q
  room : ∃ r ∈ q.cu.slots, r.reservePoolId = prop.poolId ∧
    r.reserveUsedLoadUnified + prop.requestLoadUnified ≤ r.reserveLoadUnified

/-- The CU of a result, if there is one, has the most (least) of the pool in use. -/
def ChoosesBest (prop : CuProperty) (policyInfo : Nat) (able : PreCu → Prop)
    (r : Except XrmError CuResource) : Prop :=
  ∀ res, r = .ok res → ∃ q, res.deviceId = q.devId ∧ res.cuId = q.cuId ∧
    BestUsed policyInfo (fun q => usedOf prop.poolId q.cu) able q

theorem chooses_best_of_picks {able : PreCu → Prop} {l : List PreCu}
    {r : Except XrmError CuResource} (h : Picks r (choose prop policyInfo none l).chosen)
    (hright : ComparesRight prop policyInfo able) (hp : prop.poolId ≠ 0)
    (hpolicy : policyInfo = policyCuMostUsedFirst ∨ policyInfo = policyCuLeastUsedFirst)
    (hable : ∀ q, able q ↔ q ∈ l ∧ q.cu.Fits prop) (hcons : ∀ q ∈ l, q.cu.Consistent)
    (hl : l.Pairwise PreCu.Precedes) : ChoosesBest prop policyInfo able r := by
  rintro res rfl
  generalize hq : (choose prop policyInfo none l).chosen = c at h
  cases h with
  | @ok _ q hdev hcu =>
      have hrank : ∀ r, able r →
          poolRank prop.poolId policyInfo r.cu ≤ poolRank prop.poolId policyInfo q.cu :=
        fun r hr => hright.rank_le hp hable hcons hl hq hr
      have hqable : able q := by
        obtain ⟨hmem, hcan⟩ := scan_chosen hq
        rw [decide_eq_true_iff, decide_eq_true_iff] at hcan
        exact (hable q).mpr ⟨hmem, hcan.elim (fun hs => hs.fits) fun hd => hd.1⟩
      refine ⟨q, hdev, hcu, hqable, ?_, ?_⟩
      · rintro rfl r hr
        exact hrank r hr
      · rintro rfl r hr
        have hle : -usedOf prop.poolId r.cu ≤ -usedOf prop.poolId q.cu := hrank r hr
        omega

theorem hasSlotRoom_iff (hsound : s.Sound D) (hp : prop.poolId ≠ 0) (q : PreCu) :
    s.HasSlotRoom prop q ↔ s.Asks prop q ∧ q.cu.Fits prop := by
  constructor
  · exact fun h => ⟨h.asks, (fits_pool_iff (h.asks.consistent hsound) hp).mpr h.room⟩
  · exact fun h => ⟨h.1, (fits_pool_iff (h.1.consistent hsound) hp).mp h.2⟩

/-- Inside a pool, the allocation by the load of the CUs chooses a CU with the most (least) of
the pool in use whenever the slots are such that its comparisons come out right. -/
theorem by_cu_load_in_pool {limit : Nat} (h : Reachable allRuns limit s) (hs : propV2.Sent)
    (hkernel : propV2.kernelName ≠ "" ∨ propV2.kernelAlias ≠ "") (hp : propV2.poolId ≠ 0)
    (hpolicy : propV2.policyInfo = policyCuMostUsedFirst ∨
      propV2.policyInfo = policyCuLeastUsedFirst) (updateId : Bool) :
    (ComparesRight (cuPropertyCopyFromV2 propV2) propV2.policyInfo
        (s.HasSlotRoom (cuPropertyCopyFromV2 propV2)) →
      ChoosesBest (cuPropertyCopyFromV2 propV2) propV2.policyInfo
        (s.HasSlotRoom (cuPropertyCopyFromV2 propV2)) (s.resAllocCuByCuLoad propV2 updateId).2) ∧
      ∀ deviceId : Int,
        ComparesRight (cuPropertyCopyFromV2 propV2) propV2.policyInfo
            (fun q => s.HasSlotRoom (cuPropertyCopyFromV2 propV2) q ∧ deviceId = q.devId) →
          ChoosesBest (cuPropertyCopyFromV2 propV2) propV2.policyInfo
            (fun q => s.HasSlotRoom (cuPropertyCopyFromV2 propV2) q ∧ deviceId = q.devId)
            (s.resAllocCuFromDevByCuLoad deviceId propV2 updateId).2 := by
  have hsound := h.good.sound
  have hp' : (cuPropertyCopyFromV2 propV2).poolId ≠ 0 := hp
  constructor
  · intro hright
    have hasks : ∀ q ∈ s.inTurn (cuPropertyCopyFromV2 propV2),
        s.Asks (cuPropertyCopyFromV2 propV2) q := fun q hq => mem_inTurn.mp hq
    refine chooses_best_of_picks (resAllocCuByCuLoad_delivers hsound hs updateId).picks hright hp'
      hpolicy (fun q => ?_) (fun q hq => (hasks q hq).consistent hsound) (inTurn_ordered s _)
    rw [mem_inTurn, hasSlotRoom_iff hsound hp']
  · intro deviceId hright
    rcases registerOn_cases hsound deviceId (unnamed_of_kernel hkernel) with
      ⟨devId, dev, dev₁, hid, hdev, husable, hreg, hregOn⟩ | ⟨⟨e, hregOn⟩, -⟩
    · have hasks : ∀ q ∈ inTurnOn (cuPropertyCopyFromV2 propV2) devId dev,
          s.Asks (cuPropertyCopyFromV2 propV2) q := fun q hq =>
        ((mem_inTurnOn_iff hid hdev husable).mp hq).1
      have hpicks := (resAllocCuFromDevByCuLoad_delivers hsound hs updateId hdev
        husable.isLoaded hreg hregOn).picks
      refine chooses_best_of_picks hpicks hright hp' hpolicy (fun q => ?_)
        (fun q hq => (hasks q hq).consistent hsound) (inTurnOn_ordered _ devId dev)
      rw [mem_inTurnOn_iff hid hdev husable, hasSlotRoom_iff hsound hp']
      exact and_right_comm
    · rw [resAllocCuFromDevByCuLoad]
      simp only [hregOn]
      simp [ChoosesBest]

end System

open Scenario in
/-- A pool with a slot on each CU of a device; the first one is used more than the second. -/
def pooledRun : List Op :=
  [.loadOneDevice (env 1 2) 0 "scaler.xclbin",
    .resReserveCuPool (pool 1 [request 1 0 600000, request 1 0 700000]),
    .resAllocCu (request 1 1 550000) true, .resAllocCu (request 1 1 520000) true]

namespace System

open Scenario in
theorem comparesRight_pooled : ComparesRight (request 1 1 20000) policyCuMostUsedFirst
    ((after pooledRun).HasSlotRoom (request 1 1 20000)) := by
  have horder : ∀ r ∈ (after pooledRun).inTurn (request 1 1 20000),
      ∀ q ∈ (after pooledRun).inTurn (request 1 1 20000), r.Precedes q →
        if TakesPlace (request 1 1 20000) policyCuMostUsedFirst q r = true then
          poolRank 1 policyCuMostUsedFirst r.cu ≤ poolRank 1 policyCuMostUsedFirst q.cu
        else poolRank 1 policyCuMostUsedFirst q.cu ≤ poolRank 1 policyCuMostUsedFirst r.cu := by
    decide +kernel
  have hdefers : ∀ q ∈ (after pooledRun).inTurn (request 1 1 20000),
      q.cu.Defers (request 1 1 20000) policyCuMostUsedFirst := by
    decide +kernel
  refine ⟨fun r q hr hq hprec _ _ => ?_, fun q r hq _ hnot _ => ?_, fun q r hq _ _ => ?_⟩
  · exact horder r (mem_inTurn.mpr hr.asks) q (mem_inTurn.mpr hq.asks) hprec
  · exact absurd (hdefers q (mem_inTurn.mpr hq.asks)) hnot
  · exact ⟨q, hq, .inl (hdefers q (mem_inTurn.mpr hq.asks)), le_refl _⟩

open Scenario in
theorem by_cu_load_in_pool_pooled :
    ChoosesBest (request 1 1 20000) policyCuMostUsedFirst
      ((after pooledRun).HasSlotRoom (request 1 1 20000))
      ((after pooledRun).resAllocCuByCuLoad (requestV2 1 1 20000 policyCuMostUsedFirst) true).2 :=
  (@by_cu_load_in_pool (requestV2 1 1 20000 policyCuMostUsedFirst) _ _
    (reachable_after pooledRun (by decide +kernel)) (by decide) (by decide) (by decide)
    (by decide) true).1 comparesRight_pooled

open Scenario in
/-- A request for 40000 goes to the second CU, which uses less of the pool. -/
theorem by_cu_load_in_pool_fails : ¬∀ limit s propV2, Reachable allRuns limit s →
    propV2.Sent → propV2.poolId ≠ 0 → propV2.policyInfo = policyCuMostUsedFirst →
      ChoosesBest (cuPropertyCopyFromV2 propV2) propV2.policyInfo
        (s.HasSlotRoom (cuPropertyCopyFromV2 propV2)) (s.resAllocCuByCuLoad propV2 true).2 := by
  intro hall
  have h := hall 8 _ (requestV2 1 1 40000 policyCuMostUsedFirst)
    (reachable_after pooledRun (by decide +kernel)) (by decide) (by decide) rfl
  have hgiven : (((after pooledRun).resAllocCuByCuLoad
      (requestV2 1 1 40000 policyCuMostUsedFirst) true).2.toOption.map (·.cuId)) = some 1 := by
    decide +kernel
  have hmost : ∃ q ∈ (after pooledRun).inTurn (request 1 1 40000), usedOf 1 q.cu = 550000 ∧
      ∃ r ∈ q.cu.slots, r.reservePoolId = 1 ∧
        r.reserveUsedLoadUnified + 40000 ≤ r.reserveLoadUnified := by decide +kernel
  have hless : ∀ q ∈ (after pooledRun).inTurn (request 1 1 40000),
      q.cuId = 1 → usedOf 1 q.cu = 520000 := by decide +kernel
  cases hr : ((after pooledRun).resAllocCuByCuLoad
      (requestV2 1 1 40000 policyCuMostUsedFirst) true).2 with
  | error e => simp [hr, Except.toOption] at hgiven
  | ok res =>
      rw [hr] at hgiven
      simp only [Except.toOption, Option.map_some, Option.some.injEq] at hgiven
      obtain ⟨q, -, hcu, hbest⟩ := h res hr
      obtain ⟨q', hq', hused', hroom'⟩ := hmost
      have hle := hbest.most rfl q' ⟨mem_inTurn.mp hq', hroom'⟩
      have hused := hless q (mem_inTurn.mpr hbest.isAble.asks) (by omega)
      simp only [cuPropertyCopyFromV2, requestV2] at hle
      omega

end System

end Xrm
