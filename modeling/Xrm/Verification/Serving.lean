import Xrm.Library.Choice
import Xrm.Verification.Access
import Xrm.Verification.Runs

/-! # What a CU can serve

The admission test of an allocation, apart from the policy and from the channels.
-/

namespace Xrm

open FixedTable

variable {prop : CuProperty} {svc policyInfo : Nat}

/-- A request for some load, none whose sums wrap. -/
structure CuProperty.Bounded (prop : CuProperty) : Prop where
  clientId : prop.clientId ≠ 0
  pos : 0 < prop.requestLoadUnified
  le : prop.requestLoadUnified ≤ maxSafeLoad

theorem CuProperty.Sent.bounded (h : prop.Sent) : prop.Bounded :=
  ⟨h.1, h.2.1, h.received.2⟩

namespace CuData

variable {cu pre : CuData}

/-! ## Room for a request -/

/-- The load in use and the size of what the request draws from: the default pool of the CU,
or the CU's slot of the request's pool. -/
def share (cu : CuData) (prop : CuProperty) : Option (Int × Int) :=
  if prop.poolId = 0 then some (cu.totalUsedLoadUnified, maxChanLoad)
  else
    (cu.slots.find? (·.reservePoolId == prop.poolId)).map fun r =>
      (r.reserveUsedLoadUnified, r.reserveLoadUnified)

/-- The load of the request fits into its share of the CU. -/
def Fits (cu : CuData) (prop : CuProperty) : Prop :=
  ∃ share ∈ cu.share prop, share.1 + prop.requestLoadUnified ≤ share.2

instance (cu : CuData) (prop : CuProperty) : Decidable (cu.Fits prop) :=
  inferInstanceAs (Decidable (∃ share ∈ cu.share prop, share.1 + prop.requestLoadUnified ≤ share.2))

/-- A channel of the CU is free. -/
def HasChannel (cu : CuData) : Prop := ∃ chan ∈ cu.channels, chan.channelLoadUnified = 0

instance (cu : CuData) : Decidable cu.HasChannel :=
  inferInstanceAs (Decidable (∃ chan ∈ cu.channels, chan.channelLoadUnified = 0))

/-- The CU can serve the request: its names match, the load fits and a channel is free. -/
structure Serves (cu : CuData) (prop : CuProperty) : Prop where
  names : cu.matchesCu prop = true
  fits : cu.Fits prop
  hasChannel : cu.HasChannel

/-- The policy looks for a better CU before it uses this one: the request does not fill its
share, or the share is in use already. -/
def Defers (cu : CuData) (prop : CuProperty) (policyInfo : Nat) : Prop :=
  ∃ share ∈ cu.share prop,
    isMostUsedFirst policyInfo = true ∧ share.1 + prop.requestLoadUnified ≠ share.2 ∨
      isLeastUsedFirst policyInfo = true ∧ share.1 ≠ 0

instance (cu : CuData) (prop : CuProperty) (policyInfo : Nat) :
    Decidable (cu.Defers prop policyInfo) :=
  inferInstanceAs (Decidable (∃ share ∈ cu.share prop,
    isMostUsedFirst policyInfo = true ∧ share.1 + prop.requestLoadUnified ≠ share.2 ∨
      isLeastUsedFirst policyInfo = true ∧ share.1 ≠ 0))

/-- The comparison with the CU remembered so far: inside a pool it adds the load of the request
on one side and reads the other CU at the index of this CU's slot. -/
def beats (prop : CuProperty) (policyInfo : Nat) (cu pre : CuData) : Bool :=
  if prop.poolId = 0 then
    if isMostUsedFirst policyInfo then decide (cu.totalUsedLoadUnified > pre.totalUsedLoadUnified)
    else decide (cu.totalUsedLoadUnified < pre.totalUsedLoadUnified)
  else
    (cu.isReservePoolUsingCu prop.poolId).any fun i =>
      if isMostUsedFirst policyInfo then
        decide ((cu.slot i).reserveUsedLoadUnified + prop.requestLoadUnified >
          (pre.slot i).reserveUsedLoadUnified)
      else
        decide ((cu.slot i).reserveUsedLoadUnified + prop.requestLoadUnified <
          (pre.slot i).reserveUsedLoadUnified)

/-- The slot that the request draws from. -/
def slotFor (cu : CuData) (prop : CuProperty) : Option Nat :=
  if prop.poolId = 0 then none else cu.isReservePoolUsingCu prop.poolId

/-- A channel is free exactly when not all of them are counted as in use. -/
theorem hasChannel_iff (hcu : cu.Consistent) :
    cu.HasChannel ↔ cu.numChanInuse < maxKernelChannels := by
  constructor
  · rintro ⟨chan, hchan, hload⟩
    have hfree := (hcu.channels.proper chan hchan).free_of_load hload
    have hinUse := hcu.channels.inUse
    have hlen := hcu.channels.length
    obtain ⟨before, after, hsplit⟩ := List.append_of_mem hchan
    have hbefore := sumBy_inService_le before
    have hafter := sumBy_inService_le after
    rw [hsplit, sumBy_append, sumBy_cons, inService, if_neg (by simp [hfree.clientId])] at hinUse
    rw [hsplit, List.length_append, List.length_cons] at hlen
    omega
  · intro hlt
    obtain ⟨chan, hchan, hfree⟩ := hcu.channels.exists_free hlt
    exact ⟨chan, hchan, hfree.load⟩

@[simp] theorem share_default (hp : prop.poolId = 0) :
    cu.share prop = some (cu.totalUsedLoadUnified, maxChanLoad) := by
  rw [share, if_pos hp]

/-- The share of a pool is the slot that `isReservePoolUsingCu` finds. -/
theorem share_pool (hcu : cu.Consistent) (hp : prop.poolId ≠ 0) :
    cu.share prop = (cu.isReservePoolUsingCu prop.poolId).map fun i =>
      ((cu.slot i).reserveUsedLoadUnified, (cu.slot i).reserveLoadUnified) := by
  rw [share, if_neg hp]
  cases hfind : cu.isReservePoolUsingCu prop.poolId with
  | none =>
      have hnone : cu.slots.find? (·.reservePoolId == prop.poolId) = none := by
        rw [List.find?_eq_none]
        intro r hr
        simpa using (isReservePoolUsingCu_eq_none hp).mp hfind r hr
      simp [hnone]
  | some i =>
      obtain ⟨-, hi, hpool⟩ := isReservePoolUsingCu_eq_some hfind
      have hidx : cu.slots.findIdx? (·.reservePoolId == prop.poolId) = some i := by
        rwa [isReservePoolUsingCu, if_neg (by omega)] at hfind
      have hsome : cu.slots.find? (·.reservePoolId == prop.poolId) = some cu.slots[i] := by
        rw [List.find?_eq_some_iff_getElem]
        rw [List.findIdx?_eq_some_iff_getElem] at hidx
        obtain ⟨hi', hp', hbefore⟩ := hidx
        exact ⟨hp', i, hi', rfl, fun j hj => by simpa using hbefore j hj⟩
      rw [hsome, Option.map_some, Option.map_some, hcu.slot_eq hi]

/-- What a share can hold. -/
theorem share_bounds (hcu : cu.Consistent) {share : Int × Int} (h : cu.share prop = some share) :
    -maxChanLoad < share.1 ∧ share.1 ≤ maxChanLoad ∧ share.2 ≤ 2 * maxChanLoad := by
  rw [CuData.share] at h
  split at h
  · rw [Option.some.injEq] at h
    subst h
    have h0 := hcu.total_nonneg
    have h1 := hcu.ledger.total_le
    rw [maxChanLoad] at *
    exact ⟨by omega, h1, by omega⟩
  · rw [Option.map_eq_some_iff] at h
    obtain ⟨r, hr, rfl⟩ := h
    have hmem := List.mem_of_find?_eq_some hr
    exact ⟨hcu.ledger.used_ge hcu.channels.proper hmem (hcu.slots.active r hmem),
      hcu.ledger.used_le hcu.channels.proper hmem,
      hcu.ledger.reserveLoad_le hcu.channels.proper hmem⟩

/-- The numbers of the admission test do not overflow. -/
theorem share_i32 (hcu : cu.Consistent) (hs : prop.Bounded) {share : Int × Int}
    (h : cu.share prop = some share) :
    i32 (share.1 + prop.requestLoadUnified) = share.1 + prop.requestLoadUnified := by
  obtain ⟨-, hpos, hmax⟩ := hs
  obtain ⟨hge, hle, -⟩ := share_bounds hcu h
  rw [maxSafeLoad, maxChanLoad] at hmax
  rw [maxChanLoad] at hge hle
  exact i32_eq (by omega) (by omega)

/-- A request that fits has no load whose sums wrap. -/
theorem Fits.bounded (h : cu.Fits prop) (hcu : cu.Consistent) (hc : prop.clientId ≠ 0)
    (hpos : 0 < prop.requestLoadUnified) : prop.Bounded := by
  obtain ⟨share, hshare, hle⟩ := h
  obtain ⟨hge, -, hmax⟩ := share_bounds hcu hshare
  refine ⟨hc, hpos, ?_⟩
  rw [maxSafeLoad, maxChanLoad]
  rw [maxChanLoad] at hge hmax
  omega

/-! ## The admission test of the code -/

theorem isLeastUsedFirst_of_most (h : isMostUsedFirst policyInfo = true) :
    isLeastUsedFirst policyInfo = false := by
  simp only [isMostUsedFirst, isLeastUsedFirst, policyCuMostUsedFirst, policyDevMostUsedFirst,
    policyCuLeastUsedFirst, policyDevLeastUsedFirst, Bool.or_eq_true, beq_iff_eq] at *
  rcases h with rfl | rfl <;> rfl

/-- The chain of tests on a share, with its outcomes. -/
theorem tests_eq (share : Int × Int) (load : Int) (policyInfo : Nat)
    (refused most least taken : AllocChan) :
    (if share.1 + load > share.2 then refused
      else if isMostUsedFirst policyInfo = true ∧ share.1 + load ≠ share.2 then most
      else if isLeastUsedFirst policyInfo = true ∧ share.1 ≠ 0 then least
      else taken) =
    if share.1 + load ≤ share.2 then
      if isMostUsedFirst policyInfo = true ∧ share.1 + load ≠ share.2 ∨
          isLeastUsedFirst policyInfo = true ∧ share.1 ≠ 0 then
        if isMostUsedFirst policyInfo then most else least
      else taken
    else refused := by
  by_cases hfits : share.1 + load ≤ share.2
  case neg => rw [if_pos (by omega), if_neg hfits]
  rw [if_neg (by omega), if_pos hfits]
  by_cases hmost : isMostUsedFirst policyInfo = true ∧ share.1 + load ≠ share.2
  · rw [if_pos hmost, if_pos (.inl hmost), if_pos hmost.1]
  rw [if_neg hmost]
  by_cases hleast : isLeastUsedFirst policyInfo = true ∧ share.1 ≠ 0
  · have hnot : ¬isMostUsedFirst policyInfo = true := fun h => by
      rw [isLeastUsedFirst_of_most h] at hleast
      simp at hleast
    rw [if_pos hleast, if_pos (.inr hleast), if_neg hnot]
  · rw [if_neg hleast, if_neg (by tauto)]

/-- No channel is taken for a load that is not positive. -/
theorem pos_of_allocChan {pre : Option CuData} {cu' : CuData} {chanId : Nat}
    (h : cu.allocChanClientFromCu prop svc policyInfo pre = .allocated cu' chanId) :
    0 < prop.requestLoadUnified := by
  by_contra hle
  rw [allocChanClientFromCu] at h
  simp [show prop.requestLoadUnified ≤ 0 by omega] at h

/-- An allocation on a CU whose sum is exact: a request that does not fit is refused, one that the
policy holds back compares the CU with the one remembered, and any other one takes a channel. -/
theorem allocChan_eq_of_exact (hcu : cu.Consistent) (hpos : 0 < prop.requestLoadUnified)
    (hexact : ∀ share, cu.share prop = some share →
      i32 (share.1 + prop.requestLoadUnified) = share.1 + prop.requestLoadUnified)
    (pre : Option CuData) :
    cu.allocChanClientFromCu prop svc policyInfo pre =
      if cu.Fits prop then
        if cu.Defers prop policyInfo then .furtherCheck (pre.all (cu.beats prop policyInfo))
        else cu.takeChannel prop svc (cu.slotFor prop)
      else .refused .noKernel := by
  rw [allocChanClientFromCu]
  simp only [if_neg (not_le.mpr hpos)]
  by_cases hp : prop.poolId = 0
  · have hshare := @share_default _ cu hp
    have hi32 := hexact _ hshare
    have htests := tests_eq (cu.totalUsedLoadUnified, maxChanLoad) prop.requestLoadUnified
      policyInfo
    simp only at hi32 htests
    rw [if_neg (by simpa using hp), hi32, htests]
    simp only [Fits, Defers, hshare, slotFor, if_pos hp, Option.mem_def, Option.some.injEq,
      exists_eq_left']
    by_cases hmost : isMostUsedFirst policyInfo = true
    · cases pre <;> simp [beats, hp, hmost]
    · cases pre <;> simp [beats, hp, hmost]
  · have hshare := share_pool hcu hp
    rw [if_pos hp]
    cases hfind : cu.isReservePoolUsingCu prop.poolId with
    | none =>
        rw [hfind, Option.map_none] at hshare
        simp [Fits, hshare]
    | some i =>
        rw [hfind, Option.map_some] at hshare
        have hi32 := hexact _ hshare
        have htests := tests_eq
          ((cu.slot i).reserveUsedLoadUnified, (cu.slot i).reserveLoadUnified)
          prop.requestLoadUnified policyInfo
        simp only at hi32 htests
        obtain ⟨-, hi, -⟩ := isReservePoolUsingCu_eq_some hfind
        have hactive : (cu.slot i).clientIsActive = true := by
          rw [hcu.slot_eq hi]
          exact (hcu.slots.active _ (List.getElem_mem hi)).active
        simp only [hactive, Bool.not_true, Bool.false_eq_true, if_false]
        rw [hi32, htests]
        simp only [Fits, Defers, hshare, slotFor, if_neg hp, hfind, Option.mem_def,
          Option.some.injEq, exists_eq_left']
        by_cases hmost : isMostUsedFirst policyInfo = true
        · cases pre <;> simp [beats, hp, hfind, hmost]
        · cases pre <;> simp [beats, hp, hfind, hmost]

theorem allocChan_eq (hcu : cu.Consistent) (hs : prop.Bounded) (pre : Option CuData) :
    cu.allocChanClientFromCu prop svc policyInfo pre =
      if cu.Fits prop then
        if cu.Defers prop policyInfo then .furtherCheck (pre.all (cu.beats prop policyInfo))
        else cu.takeChannel prop svc (cu.slotFor prop)
      else .refused .noKernel :=
  allocChan_eq_of_exact hcu hs.pos (fun _ h => share_i32 hcu hs h) pre

/-- An allocation on the CU takes a channel at once. -/
structure Settles (cu : CuData) (prop : CuProperty) (policyInfo : Nat) : Prop where
  fits : cu.Fits prop
  notDefers : ¬cu.Defers prop policyInfo
  hasChannel : cu.HasChannel

instance (cu : CuData) (prop : CuProperty) (policyInfo : Nat) :
    Decidable (cu.Settles prop policyInfo) :=
  decidable_of_iff (cu.Fits prop ∧ ¬cu.Defers prop policyInfo ∧ cu.HasChannel)
    ⟨fun h => ⟨h.1, h.2.1, h.2.2⟩, fun h => ⟨h.1, h.2, h.3⟩⟩

theorem Settles.allocated (h : cu.Settles prop policyInfo) (hcu : cu.Consistent)
    (hs : prop.Bounded) (svc : Nat) (pre : Option CuData) :
    ∃ cu' chanId, cu.allocChanClientFromCu prop svc policyInfo pre = .allocated cu' chanId := by
  obtain ⟨chanId, -, -, htake⟩ := takeChannel_eq_allocated hcu.channels
    ((hasChannel_iff hcu).mp h.hasChannel) prop svc (cu.slotFor prop)
  rw [allocChan_eq hcu hs, if_pos h.fits, if_neg h.notDefers, htake]
  exact ⟨_, chanId, rfl⟩

theorem furtherCheck_of_defers (h : cu.Defers prop policyInfo) (hfits : cu.Fits prop)
    (hcu : cu.Consistent) (hs : prop.Bounded) (svc : Nat) (pre : Option CuData) :
    cu.allocChanClientFromCu prop svc policyInfo pre =
      .furtherCheck (pre.all (cu.beats prop policyInfo)) := by
  rw [allocChan_eq hcu hs, if_pos hfits, if_pos h]

/-- A CU on which the policy neither takes a channel nor waits refuses the request. -/
theorem refused_of_not_settles (h : ¬cu.Settles prop policyInfo)
    (hdefers : ¬(cu.Fits prop ∧ cu.Defers prop policyInfo)) (hcu : cu.Consistent)
    (hs : prop.Bounded) (svc : Nat) (pre : Option CuData) :
    cu.allocChanClientFromCu prop svc policyInfo pre = .refused .noKernel := by
  rw [allocChan_eq hcu hs]
  split
  · rename_i hfits
    have hdefers' : ¬cu.Defers prop policyInfo := fun hd => hdefers ⟨hfits, hd⟩
    rw [if_neg hdefers', takeChannel_full fun hlt =>
      h ⟨hfits, hdefers', (hasChannel_iff hcu).mpr hlt⟩]
  · rfl

theorem not_defers_of_policy (hmost : isMostUsedFirst policyInfo = false)
    (hleast : isLeastUsedFirst policyInfo = false) : ¬cu.Defers prop policyInfo := by
  rintro ⟨share, -, ⟨h, -⟩ | ⟨h, -⟩⟩
  · rw [hmost] at h
    simp at h
  · rw [hleast] at h
    simp at h

theorem not_defers_null : ¬cu.Defers prop policyNull :=
  not_defers_of_policy (by decide) (by decide)

/-- Without a policy, a CU settles a request that fits when it has a channel for it. -/
theorem settles_null_iff : cu.Settles prop policyNull ↔ cu.Fits prop ∧ cu.HasChannel :=
  ⟨fun h => ⟨h.fits, h.hasChannel⟩, fun h => ⟨h.1, not_defers_null, h.2⟩⟩

/-- The CU gives a channel exactly when the load fits and a channel is free. -/
theorem gives_iff (hcu : cu.Consistent) (hs : prop.Bounded) :
    cu.Gives prop svc ↔ cu.Fits prop ∧ cu.HasChannel := by
  rw [← settles_null_iff]
  constructor
  · rintro ⟨cu', chanId, h⟩
    by_contra hno
    rw [refused_of_not_settles hno (fun hd => not_defers_null hd.2) hcu hs] at h
    simp at h
  · intro h
    exact h.allocated hcu hs svc none

end CuData

end Xrm
