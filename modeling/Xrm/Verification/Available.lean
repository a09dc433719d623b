import Mathlib.Order.MinMax
import Xrm.Model.Available
import Xrm.Verification.Guarantee
import Xrm.Verification.Undo

/-! # How many are available

A query counts exactly the allocations that fit one after the other, and leaves nothing behind but
the service ids it has used.
-/

namespace Xrm

open FixedTable

variable {D : Discipline} {prop : CuProperty}

/-! ## Room for requests of one kind -/

namespace CuData

variable {cu cu' : CuData} {svc chanId : Nat} {idx : Option Nat}

/-- How many requests of the kind the CU can serve one after the other: they need a channel each,
and their load out of the same share. -/
def roomFor (cu : CuData) (prop : CuProperty) : Int :=
  if cu.matchesCu prop then
    match cu.share prop with
    | none => 0
    | some share =>
        max 0 (min (maxKernelChannels - cu.numChanInuse)
          ((share.2 - share.1) / prop.requestLoadUnified))
  else 0

theorem roomFor_nonneg (cu : CuData) (prop : CuProperty) : 0 ≤ cu.roomFor prop := by
  rw [roomFor]
  split
  · split
    · exact le_refl 0
    · exact le_max_left 0 _
  · exact le_refl 0

/-- There is room exactly when the next request can be served. -/
theorem roomFor_pos_iff (hcu : cu.Consistent) (hpos : 0 < prop.requestLoadUnified) :
    0 < cu.roomFor prop ↔ cu.Serves prop := by
  have hchan := hasChannel_iff hcu
  have hdiv : ∀ share : Int × Int, 0 < (share.2 - share.1) / prop.requestLoadUnified ↔
      share.1 + prop.requestLoadUnified ≤ share.2 := by
    intro share
    rw [Int.lt_iff_add_one_le, zero_add, Int.le_ediv_iff_mul_le hpos, one_mul]
    omega
  rw [roomFor]
  constructor
  · intro h
    split at h
    · rename_i hmatch
      split at h
      · omega
      · rename_i share hshare
        have hmin := (lt_max_iff.mp h).resolve_left (lt_irrefl 0)
        obtain ⟨hfree, hroom⟩ := lt_min_iff.mp hmin
        exact ⟨hmatch, ⟨share, hshare, (hdiv share).mp hroom⟩, hchan.mpr (by omega)⟩
    · omega
  · rintro ⟨hmatch, ⟨share, hshare, hfits⟩, hfree⟩
    rw [if_pos hmatch, hshare]
    have hlt := hchan.mp hfree
    exact lt_max_of_lt_right (lt_min (by omega) ((hdiv share).mpr hfits))

/-- An allocation draws its load from the share of the request. -/
theorem Allocated.share (h : cu.Allocated cu' prop svc idx chanId) (hcu : cu.Consistent)
    (hs : prop.Received) (hsvc : svc ≠ 0) : ∃ share, cu.share prop = some share ∧
      share.1 + prop.requestLoadUnified ≤ share.2 ∧
        cu'.share prop = some (share.1 + prop.requestLoadUnified, share.2) := by
  have hbooks := hcu.books_alloc h.pos hs.2 h.admits
  have hbooked := cu.booked_assignChannel prop svc chanId idx
  rw [← h.eq] at hbooked
  cases idx with
  | none =>
      have hp : prop.poolId = 0 := h.admits.1
      obtain ⟨-, hsum, hle⟩ := hbooks.default rfl
      refine ⟨_, share_default hp, hle, ?_⟩
      rw [share_default hp, (hbooked.default rfl).2, hsum]
  | some i =>
      obtain ⟨hi, hpool, hsum, hle⟩ := hbooks.drawn i rfl
      refine ⟨_, share_of_slot hcu (List.getElem_mem hi) hpool, hle, ?_⟩
      have hslots : cu'.slots = cu.slots.modify i (ReserveData.draw prop.requestLoadUnified) := by
        rw [slots, hbooked.numReserve, (hbooked.drawn i rfl).1, slots_modify]
      have hi' : i < cu'.slots.length := by rwa [hslots, List.length_modify]
      have hget : cu'.slots[i] = cu.slots[i].draw prop.requestLoadUnified := by
        simp only [hslots, List.getElem_modify_eq]
      have hshare : cu'.share prop =
          some (cu'.slots[i].reserveUsedLoadUnified, cu'.slots[i].reserveLoadUnified) :=
        share_of_slot (h.consistent hcu hs hsvc) (List.getElem_mem hi') (by rw [hget]; exact hpool)
      rw [hshare, hget, ReserveData.draw_used hsum]
      rfl

/-- An allocation leaves room for one request less. -/
theorem Allocated.roomFor (h : cu.Allocated cu' prop svc idx chanId) (hcu : cu.Consistent)
    (hs : prop.Received) (hsvc : svc ≠ 0) (hmatch : cu.matchesCu prop = true) :
    cu'.roomFor prop = cu.roomFor prop - 1 := by
  obtain ⟨share, hshare, hle, hshare'⟩ := h.share hcu hs hsvc
  have hmatch' : cu'.matchesCu prop = true := by
    rw [← hmatch, matchesCu, matchesCu, h.kin.toCuInfo]
  have hinUse : cu'.numChanInuse = cu.numChanInuse + 1 := by
    rw [h.eq, assignChannel_numChanInuse]
  have hroom := h.room
  have hone : 1 ≤ (share.2 - share.1) / prop.requestLoadUnified := by
    rw [Int.le_ediv_iff_mul_le h.pos]
    omega
  have hless : (share.2 - (share.1 + prop.requestLoadUnified)) / prop.requestLoadUnified =
      (share.2 - share.1) / prop.requestLoadUnified - 1 := by
    have hsplit : share.2 - (share.1 + prop.requestLoadUnified) =
        share.2 - share.1 + -1 * prop.requestLoadUnified := by omega
    rw [hsplit, Int.add_mul_ediv_right _ _ h.pos.ne']
    rfl
  rw [CuData.roomFor, CuData.roomFor, if_pos hmatch, if_pos hmatch', hshare, hshare']
  simp only
  rw [hinUse, hless]
  omega

end CuData

/-- The room on a device, if the client of the request may use it. -/
def DeviceData.roomFor (dev : DeviceData) (prop : CuProperty) : Int :=
  if dev.Usable prop then sumBy (·.roomFor prop) dev.cuList else 0

theorem DeviceData.roomFor_nonneg (dev : DeviceData) (prop : CuProperty) :
    0 ≤ dev.roomFor prop := by
  rw [DeviceData.roomFor]
  split
  · exact sumBy_nonneg fun cu _ => cu.roomFor_nonneg prop
  · exact le_refl 0

namespace System

variable {s₀ s s' : System} {svc : Nat} {lent : List CuResource}

/-- How many requests of the kind can be served one after the other. -/
def roomFor (s : System) (prop : CuProperty) : Int := sumBy (·.roomFor prop) s.devList

theorem roomFor_nonneg (s : System) (prop : CuProperty) : 0 ≤ s.roomFor prop :=
  sumBy_nonneg fun dev _ => dev.roomFor_nonneg prop

/-- While there is room somewhere, a CU is eligible. -/
theorem exists_eligible (hsound : s.Sound D) (hpos : 0 < prop.requestLoadUnified)
    (hroom : s.roomFor prop ≠ 0) : ∃ q, s.Eligible prop q := by
  by_contra hno
  refine hroom (sumBy_eq_zero fun dev hdev => ?_)
  obtain ⟨i, hi⟩ := List.mem_iff_getElem?.mp hdev
  rw [DeviceData.roomFor]
  split
  · rename_i husable
    refine sumBy_eq_zero fun cu hcu => ?_
    obtain ⟨j, hj⟩ := List.mem_iff_getElem?.mp hcu
    by_contra hne
    have hcons := (hsound dev hdev).consistent cu hcu
    have hserves := (CuData.roomFor_pos_iff hcons hpos).mp
      (lt_of_le_of_ne (cu.roomFor_nonneg prop) (Ne.symm hne))
    exact hno ⟨⟨i, j, cu⟩, ⟨⟨dev, hi, husable, hj⟩, hserves.names⟩, hserves.fits,
      hserves.hasChannel⟩
  · rfl

/-- A channel that is taken leaves room for one request less. -/
theorem roomFor_grab (hsound : s.Sound D) (hs : prop.Received) (hsvc : svc ≠ 0)
    {i : Nat} {dev dev' : DeviceData} {res : CuResource} (hdev : s.devList[i]? = some dev)
    (hgrab : DeviceData.Grab prop svc i dev dev' res) :
    (s.setDev i dev').roomFor prop = s.roomFor prop - 1 := by
  obtain ⟨dev₁, policyInfo, cuId, cu', chanId, hreg, ⟨cu, pre, hcu, hmatch, halloc⟩, rfl, rfl⟩ :=
    hgrab
  have hdevSound := hsound dev (List.mem_of_getElem? hdev)
  have hcons := hdevSound.consistent cu (List.mem_of_getElem? hcu)
  obtain ⟨idx, hallocated⟩ := CuData.allocated_of_allocChan hcons halloc
  have hload : dev.isLoaded = true := by
    by_contra hl
    rw [hdevSound.unloaded (by simpa using hl)] at hcu
    simp at hcu
  have husable : dev.Usable prop := DeviceData.usable_of_registered hdevSound.shape hload hreg
  have husable₁ : dev₁.Usable prop :=
    ((DeviceData.allocClientFromDev_spec hreg).usable_iff hdevSound.shape.pos rfl).mpr husable
  have husable' := DeviceData.grant_usable husable₁ cuId cu'
  have hcus : (dev₁.grant prop cuId cu').cuList = dev.cuList.set cuId cu' := by
    obtain ⟨info, hgrant⟩ := dev₁.grant_frame prop cuId cu'
    rw [hgrant, ← DeviceData.registered_cuList hreg]
    rfl
  obtain ⟨hi, hdevEq⟩ := List.getElem?_eq_some_iff.mp hdev
  obtain ⟨hj, hcuEq⟩ := List.getElem?_eq_some_iff.mp hcu
  have hless := hallocated.roomFor hcons hs hsvc hmatch
  have hset : sumBy (·.roomFor prop) (dev.cuList.set cuId cu') =
      sumBy (·.roomFor prop) dev.cuList - 1 := by
    rw [set_eq_modify, sumBy_modify _ _ _ _ hj, hcuEq, hless]
    omega
  have hdev' : (dev₁.grant prop cuId cu').roomFor prop = dev.roomFor prop - 1 := by
    rw [DeviceData.roomFor, DeviceData.roomFor, if_pos husable, if_pos husable', hcus, hset]
  rw [roomFor, roomFor, System.setDev]
  simp only
  rw [set_eq_modify, sumBy_modify _ _ _ _ hi, hdevEq, hdev']
  omega

/-! ## Borrowing -/

theorem Good.withId (h : s.Good D) (n : Nat) : { s with allocServiceId := n }.Good D :=
  ⟨h.sound, h.groupsValid.congr rfl rfl, h.probed, h.recorded⟩

/-- `s` is `s₀` with the channels of the records taken, whatever service ids were used for it. -/
def Lent (s₀ s : System) (lent : List CuResource) : Prop :=
  { s₀ with allocServiceId := s.allocServiceId }.Lends s lent

theorem Lent.of_lends {n : Nat} (h : { s₀ with allocServiceId := n }.Lends s lent) :
    s₀.Lent s lent := by
  have hid : s.allocServiceId = n := by rw [h.frame]
  rw [Lent, hid]
  exact h

theorem Lent.withId (h : s₀.Lent s lent) (n : Nat) :
    s₀.Lent { s with allocServiceId := n } lent := Lends.withId h n

/-- Requests that are not exclusive only lend. -/
theorem Lent.follows (h₀ : s₀.Good D) (n : Nat) :
    Follows CuProperty.Sharing (nextId n) { s₀ with allocServiceId := n }.Lends :=
  Lends.follows (h₀.withId n)

theorem Lent.eq (h : s₀.Lent s []) (h₀ : s₀.Good D) :
    s = { s₀ with allocServiceId := s.allocServiceId } := Lends.eq h (h₀.withId _)

variable {α : Type} {alloc : System → System × Except XrmError α}
  {release : System → α → System × Except XrmError Unit} {owned : α → List CuResource}

/-- What an allocation takes is lent, and its release gives it back. -/
structure Borrows (s₀ : System) (alloc : System → System × Except XrmError α)
    (release : System → α → System × Except XrmError Unit) (owned : α → List CuResource) :
    Prop where
  granted : ∀ {s s' : System} {a : α} {l : List CuResource}, s₀.Lent s l →
    alloc s = (s', .ok a) → s₀.Lent s' (owned a ++ l)
  refused : ∀ {s s' : System} {e : XrmError} {l : List CuResource}, s₀.Lent s l →
    alloc s = (s', .error e) → s₀.Lent s' l
  released : ∀ {s : System} {a : α} {l : List CuResource}, s₀.Lent s (owned a ++ l) →
    s₀.Lent (release s a).1 l

theorem Borrows.returned (h : s₀.Borrows alloc release owned) {taken : List α}
    (hlent : s₀.Lent s (taken.flatMap owned ++ lent)) :
    s₀.Lent (taken.foldl (fun s a => (release s a).1) s) lent := by
  induction taken generalizing s with
  | nil => exact hlent
  | cons a taken ih =>
      rw [List.flatMap_cons, List.append_assoc] at hlent
      exact ih (h.released hlent)

/-- Behind the loans so far. -/
theorem Borrows.more (h : s₀.Borrows alloc release owned) {taken : List α} {a : α}
    (hlent : s₀.Lent s (taken.flatMap owned)) (hr : alloc s = (s', .ok a)) :
    s₀.Lent s' ((taken ++ [a]).flatMap owned) := by
  have hmore := h.granted hlent hr
  rw [List.flatMap_append, List.flatMap_singleton]
  exact Lends.perm hmore List.perm_append_comm

/-- A query that comes to its end has borrowed all that it took. -/
theorem Borrows.availableNum {I : System → List α → Prop} {J : System → List α → XrmError → Prop}
    {left : System → List α → Nat} {fuel : Nat} (h : s₀.Borrows alloc release owned)
    (h₀ : s₀.Good D) (hsupply : Drain.Supply alloc I J left)
    (hlent : ∀ {s : System} {l : List α} {e : XrmError}, J s l e → s₀.Lent s (l.flatMap owned))
    (hstart : I s₀ []) (hfuel : left s₀ [] < fuel) :
    ∃ n s' taken ret, J s' taken ret ∧ System.availableNum alloc release fuel s₀ =
      some ({ s₀ with allocServiceId := n },
        if taken.isEmpty && ret == .invalid then .error .invalid else .ok taken.length) := by
  obtain ⟨s', taken, ret, hrun, hJ⟩ := hsupply.ends hstart hfuel
  have hback : s₀.Lent (taken.foldl (fun s a => (release s a).1) s') [] :=
    h.returned (by rw [List.append_nil]; exact hlent hJ)
  generalize hs₁ : taken.foldl (fun s a => (release s a).1) s' = s₁ at hback
  refine ⟨s₁.allocServiceId, s', taken, ret, hJ, ?_⟩
  rw [System.availableNum, hrun, Option.map_some]
  simp only
  rw [hs₁, ← hback.eq h₀]

/-! ## Single CUs -/

theorem Touched.eq_of_sharing (h : Touched prop s s') (hsound : s.Sound D)
    (hq : prop.Sharing) : s' = s := by
  induction h with
  | refl => rfl
  | tail _ hstep ih =>
      subst ih
      exact (Lends.refl hsound).touchStep hq hstep

theorem borrows_resAllocCu (h₀ : s₀.Good D) (hq : prop.Sharing) :
    s₀.Borrows (fun s => s.resAllocCu prop true) resReleaseCu fun res => [res] where
  granted {s s' res l} hlent hr := by
    have halloc := s.resAllocCu_allocates prop true
    rw [show s.resAllocCu prop true = (s', .ok res) from hr] at halloc
    rcases (Lent.follows h₀ s.allocServiceId).allocates hlent hq halloc with
      ⟨_, _, heq, -⟩ | ⟨s₁, res', heq, hlends⟩
    · simp at heq
    · rw [finishAlloc, Prod.mk.injEq, Except.ok.injEq] at heq
      obtain ⟨rfl, rfl⟩ := heq
      exact (Lent.of_lends hlends).withId _
  refused {s s' e l} hlent hr := by
    have halloc := s.resAllocCu_allocates prop true
    rw [show s.resAllocCu prop true = (s', .error e) from hr] at halloc
    rcases (Lent.follows h₀ s.allocServiceId).allocates hlent hq halloc with
      ⟨_, _, heq, hlends⟩ | ⟨s₁, res', heq, -⟩
    · rw [Prod.mk.injEq] at heq
      obtain ⟨rfl, -⟩ := heq
      exact Lent.of_lends hlends
    · rw [finishAlloc] at heq
      simp at heq
  released {s res l} hlent := Lent.of_lends (Lends.release (h₀.withId _) hlent).2

/-- An allocation that succeeds uses room for one request. -/
theorem resAllocCu_uses (hgood : s.Good D) (hq : prop.Sharing) {res : CuResource}
    (hr : s.resAllocCu prop true = (s', .ok res)) :
    s'.Good D ∧ s'.roomFor prop = s.roomFor prop - 1 := by
  have halloc := s.resAllocCu_allocates prop true
  rw [hr] at halloc
  refine ⟨hgood.evolves (halloc.evolves hq.received), ?_⟩
  cases halloc with
  | granted hnamed hattempt =>
      cases hattempt with
      | acquired htouch hdev hgrab =>
          obtain rfl := htouch.eq_of_sharing hgood.sound hq
          exact roomFor_grab hgood.sound hq.received (nextId_ne_zero _) hdev hgrab

theorem resAllocCu_noKernel (hgood : s.Good D) (hs : prop.Sent) (hnamed : prop.unnamed = false)
    {e : XrmError} (hr : s.resAllocCu prop true = (s', .error e)) :
    s.roomFor prop = 0 ∧ e = .noKernel := by
  have hfirst := resAllocCu_affinityFirst hgood.sound hs hnamed true
  constructor
  · by_contra hroom
    obtain ⟨res, hres⟩ := hfirst.complete (exists_eligible hgood.sound hs.2.1 hroom)
    rw [hr] at hres
    simp at hres
  · rw [resAllocCu, if_neg (by simp [hnamed])] at hr
    split at hr
    · simp [finishAlloc] at hr
    · rw [Prod.mk.injEq, Except.error.injEq] at hr
      exact hr.2.symm

/-- The query counts exactly the room for requests of its kind, however the CUs are shared with
other clients, and leaves the system as it is but for the counter of the service ids. -/
theorem query_counts_room {limit fuel : Nat} (h : Reachable allRuns limit s) (hs : prop.Sent)
    (hnamed : prop.unnamed = false) (hshared : prop.devExcl = false)
    (hfuel : s.roomFor prop < fuel) : ∃ n, s.checkCuAvailableNum prop fuel =
      some ({ s with allocServiceId := n }, .ok (s.roomFor prop).toNat) := by
  have hgood := h.good
  have hq : prop.Sharing := ⟨hs.received, hshared⟩
  have hb := borrows_resAllocCu hgood hq
  have hsupply : Drain.Supply (fun s => s.resAllocCu prop true)
      (fun s' taken => s'.Good allRuns ∧ s.Lent s' (taken.flatMap fun res => [res]) ∧
        s'.roomFor prop + taken.length = s.roomFor prop)
      (fun s' taken ret => s.Lent s' (taken.flatMap fun res => [res]) ∧
        taken.length = s.roomFor prop ∧ ret = .noKernel)
      fun s' _ => (s'.roomFor prop).toNat := by
    refine ⟨fun hI hr => ?_, fun {_ s' _ _} hI hr => ?_, fun hI hr => ?_⟩
    · obtain ⟨hgood', hlent, hcount⟩ := hI
      obtain ⟨hgood'', hless⟩ := resAllocCu_uses hgood' hq hr
      refine ⟨hgood'', hb.more hlent hr, ?_⟩
      rw [hless, List.length_append, List.length_singleton]
      omega
    · obtain ⟨-, hless⟩ := resAllocCu_uses hI.1 hq hr
      have hnonneg := roomFor_nonneg s' prop
      rw [hless] at hnonneg ⊢
      omega
    · obtain ⟨hgood', hlent, hcount⟩ := hI
      obtain ⟨hnone, hret⟩ := resAllocCu_noKernel hgood' hs hnamed hr
      exact ⟨hb.refused hlent hr, by omega, hret⟩
  have hnonneg := roomFor_nonneg s prop
  obtain ⟨n, s', taken, ret, ⟨-, hlength, hret⟩, heq⟩ := @Borrows.availableNum allRuns s _ _ _ _
    _ _ _ fuel hb hgood hsupply (fun hJ => hJ.1) ⟨hgood, Lends.refl hgood.sound, by simp⟩ (by omega)
  refine ⟨n, ?_⟩
  rw [checkCuAvailableNum, heq, ← hlength, hret]
  simp

open Scenario in
/-- The room on the devices that client 2 may use, around what the others hold and have reserved. -/
theorem query_counts_room_lent : ∃ n,
    (after lendingRun).checkCuAvailableNum (request 2 0 150000) 100 =
      some ({ after lendingRun with allocServiceId := n }, .ok 21) := by
  have hroom : (after lendingRun).roomFor (request 2 0 150000) = 21 := by decide +kernel
  have hfuel : (after lendingRun).roomFor (request 2 0 150000) < (100 : Nat) := by
    rw [hroom]
    decide
  obtain ⟨n, h⟩ := query_counts_room (reachable_after lendingRun (by decide +kernel)) (by decide)
    (by decide) rfl hfuel
  exact ⟨n, by rw [h, hroom]; rfl⟩

open Scenario in
/-- A query for a device alone may take one: that of client 2's channel is its own afterwards. -/
example : ((after lendingRun).devList.map (·.isExcl),
    ((after lendingRun).checkCuAvailableNum { request 2 0 150000 with devExcl := true } 100).map
      fun r => r.1.devList.map (·.isExcl)) =
        ([false, true, false], some [true, true, false]) := by
  decide +kernel

/-! ## Lists -/

theorem Follows.beside {Q : CuProperty → Prop} {L : System → List CuResource → Prop}
    (hL : Follows Q svc L) (l : List CuResource) : Follows Q svc fun s lent => L s (lent ++ l) where
  nextId h := hL.nextId h
  perm h hp := hL.perm h (hp.append_right l)
  touch h hq ht := hL.touch h hq ht
  grab h hq hnamed hdev hg := hL.grab h hq hnamed hdev hg
  release h := hL.release h

/-- The channels lent are different ones of the CUs. -/
theorem Lent.length_le (h : s₀.Lent s lent) (h₀ : s₀.Good D) :
    lent.length ≤ s₀.numDevice * (maxXilinxKernels * maxKernelChannels) := by
  have hsub : lent.map (·.place) ⊆ List.range s₀.numDevice ×ˢ
      (List.range maxXilinxKernels ×ˢ List.range maxKernelChannels) := by
    intro place hplace
    obtain ⟨res, hres, rfl⟩ := List.mem_map.mp hplace
    obtain ⟨chan, hchan, -⟩ := (h.lendable res hres).free
    obtain ⟨dev, cu, hdev, hcu, hat⟩ := channelAt_eq_some hchan
    have hmem := List.mem_of_getElem? hdev
    have hcons := (h₀.sound dev hmem).consistent cu (List.mem_of_getElem? hcu)
    have hkernels := (h₀.recorded dev hmem).number
    have hi := (List.getElem?_eq_some_iff.mp hdev).1
    have hj := (List.getElem?_eq_some_iff.mp hcu).1
    have hk := (List.getElem?_eq_some_iff.mp hat).1
    rw [hcons.channels.length] at hk
    show (res.place.1, res.place.2.1, res.place.2.2) ∈ _
    rw [List.mem_product, List.mem_product, List.mem_range, List.mem_range, List.mem_range]
    exact ⟨hi, by omega, hk⟩
  have hle := (List.Nodup.subperm h.nodup hsub).length_le
  rwa [List.length_map, List.length_product, List.length_product, List.length_range,
    List.length_range, List.length_range] at hle

/-- A query whose every success takes a channel comes to an end, and it only borrows. -/
theorem query_borrows {fuel : Nat} (h₀ : s₀.Good D) (hb : s₀.Borrows alloc release owned)
    (hsome : ∀ {s s' : System} {l : List CuResource} {a : α}, s₀.Lent s l →
      alloc s = (s', .ok a) → owned a ≠ [])
    (hfuel : s₀.numDevice * (maxXilinxKernels * maxKernelChannels) < fuel) :
    ∃ n num, availableNum alloc release fuel s₀ = some ({ s₀ with allocServiceId := n }, num) := by
  have hmore : ∀ {s s' : System} {taken : List α} {a : α},
      (s₀.Lent s (taken.flatMap owned) ∧ taken.length ≤ (taken.flatMap owned).length) →
        alloc s = (s', .ok a) → s₀.Lent s' ((taken ++ [a]).flatMap owned) ∧
          (taken ++ [a]).length ≤ ((taken ++ [a]).flatMap owned).length := by
    rintro s s' taken a ⟨hlent, hle⟩ hr
    refine ⟨hb.more hlent hr, ?_⟩
    have hpos := List.length_pos_iff.mpr (hsome hlent hr)
    rw [List.flatMap_append, List.flatMap_singleton, List.length_append, List.length_append,
      List.length_singleton]
    omega
  have hsupply : Drain.Supply alloc
      (fun s taken => s₀.Lent s (taken.flatMap owned) ∧
        taken.length ≤ (taken.flatMap owned).length)
      (fun s taken _ => s₀.Lent s (taken.flatMap owned))
      fun _ taken => s₀.numDevice * (maxXilinxKernels * maxKernelChannels) - taken.length := by
    refine ⟨hmore, fun hI hr => ?_, fun hI hr => hb.refused hI.1 hr⟩
    obtain ⟨hlent, hle⟩ := hmore hI hr
    have hbound := hlent.length_le h₀
    rw [List.length_append, List.length_singleton] at hle ⊢
    omega
  obtain ⟨n, _, taken, ret, -, heq⟩ := @Borrows.availableNum D s₀ _ _ _ _ _ _ _ fuel hb h₀ hsupply
    (fun hJ => hJ) ⟨Lends.refl h₀.sound, Nat.le_refl _⟩ hfuel
  exact ⟨n, _, heq⟩

/-- The entries that a release of the list goes over. -/
def released (maxNum : Nat) (listRes : CuListResource) : List CuResource :=
  if listRes.cuNum < 0 ∨ listRes.cuNum > maxNum then []
  else listRes.cuResources.take listRes.cuNum.toNat

/-- The result list has an entry for each of the `n` items. -/
structure Itemwise (n : Nat) (listRes : CuListResource) : Prop where
  cuNum : listRes.cuNum = listRes.cuResources.length
  length : listRes.cuResources.length = n

theorem itemwise_listResource (done : List CuResource) :
    Itemwise done.length (listResource done) := ⟨rfl, rfl⟩

theorem Itemwise.released {n maxNum : Nat} {listRes : CuListResource} (h : Itemwise n listRes)
    (hle : n ≤ maxNum) : released maxNum listRes = listRes.cuResources := by
  have hnum := h.cuNum
  have hlength := h.length
  rw [System.released, if_neg (by omega), hnum, Int.toNat_natCast, List.take_length]

/-- List allocations borrow, as their releases go over all that they have taken. -/
theorem borrows_of_ends {alloc : System → System × Except XrmError CuListResource} {maxNum : Nat}
    (h₀ : s₀.Good D)
    (hends : ∀ {s : System} {l : List CuResource}, s₀.Lent s l →
      ListEnds (fun s' lent => { s₀ with allocServiceId := s.allocServiceId }.Lends s' (lent ++ l))
        (alloc s))
    (hitems : ∀ {s s' : System} {l : List CuResource} {listRes : CuListResource}, s₀.Lent s l →
      alloc s = (s', .ok listRes) → ∃ n, 0 < n ∧ n ≤ maxNum ∧ Itemwise n listRes) :
    s₀.Borrows alloc (releaseList maxNum) (released maxNum) where
  granted {s s' listRes l} hlent hr := by
    have hend := hends hlent
    obtain ⟨n, -, hle, hn⟩ := hitems hlent hr
    rw [hr] at hend
    cases hend with
    | granted h =>
        rw [hn.released hle]
        exact (Lent.of_lends h).withId _
  refused {s s' e l} hlent hr := by
    have hend := hends hlent
    rw [hr] at hend
    cases hend with
    | refused h => exact Lent.of_lends h
  released {s listRes l} hlent := by
    rw [releaseList]
    split
    · rename_i hout
      rwa [System.released, if_pos hout] at hlent
    · rename_i hin
      rw [System.released, if_neg hin] at hlent
      exact Lent.of_lends ((Lent.follows h₀ _).releaseFirst hlent).2

theorem list_query_borrows {alloc : System → System × Except XrmError CuListResource}
    {maxNum fuel : Nat} (h₀ : s₀.Good D)
    (hends : ∀ {s : System} {l : List CuResource}, s₀.Lent s l →
      ListEnds (fun s' lent => { s₀ with allocServiceId := s.allocServiceId }.Lends s' (lent ++ l))
        (alloc s))
    (hitems : ∀ {s s' : System} {l : List CuResource} {listRes : CuListResource}, s₀.Lent s l →
      alloc s = (s', .ok listRes) → ∃ n, 0 < n ∧ n ≤ maxNum ∧ Itemwise n listRes)
    (hfuel : s₀.numDevice * (maxXilinxKernels * maxKernelChannels) < fuel) :
    ∃ n num, availableNum alloc (releaseList maxNum) fuel s₀ =
      some ({ s₀ with allocServiceId := n }, num) := by
  refine query_borrows h₀ (borrows_of_ends h₀ hends hitems) (fun hlent hr => ?_) hfuel
  obtain ⟨n, hpos, hle, hn⟩ := hitems hlent hr
  rw [hn.released hle, ← List.length_pos_iff, hn.length]
  exact hpos

theorem resAllocCuList_itemwise {listProp : CuListProperty} {listRes : CuListResource}
    (hr : s.resAllocCuList listProp = (s', .ok listRes)) :
    Itemwise listProp.items.length listRes ∧ 0 < listProp.cuNum ∧
      listProp.items.length ≤ maxListCuNum := by
  rw [resAllocCuList] at hr
  split at hr
  · simp at hr
  rename_i hnum
  have hle : listProp.items.length ≤ maxListCuNum := by
    rw [CuListProperty.items, List.length_take]
    omega
  refine ⟨?_, by omega, hle⟩
  split at hr
  · split at hr
    · rename_i heq
      rw [Prod.mk.injEq, Except.ok.injEq] at hr
      rw [← hr.2, ← allocOnSameDevice_length heq]
      exact itemwise_listResource _
    · simp at hr
  · split at hr
    · rename_i done heq
      have hlength := allocItems_length heq
      rw [List.length_nil, Nat.zero_add] at hlength
      rw [Prod.mk.injEq, Except.ok.injEq] at hr
      rw [← hr.2, ← hlength]
      exact itemwise_listResource _
    · simp at hr

theorem length_recordAll (st : ListV2State) (indices : List Nat) (results : List CuResource) :
    (st.recordAll indices results).cuResources.length = st.cuResources.length := by
  induction indices generalizing st results with
  | nil => cases results <;> rfl
  | cons index indices ih =>
      cases results with
      | nil => rfl
      | cons res results =>
          rw [ListV2State.recordAll, ih, ListV2State.record, List.length_set]

theorem length_allocItemV2 (props : List CuPropertyV2) (index : Nat) (propV2 : CuPropertyV2)
    (rest : List Nat) (st : ListV2State) :
    (allocItemV2 props index propV2 rest st).1.cuResources.length = st.cuResources.length := by
  rw [allocItemV2]
  simp only
  split
  · split <;> simp [ListV2State.record]
  split
  · split <;> simp [ListV2State.record]
  split
  · split
    · simp [length_recordAll]
    · rfl
  · rfl

/-- The rounds keep an entry for each item. -/
theorem length_allocItemsV2 (props : List CuPropertyV2) (rest : List Nat) (st : ListV2State) :
    (allocItemsV2 props rest st).1.cuResources.length = st.cuResources.length := by
  induction rest generalizing st with
  | nil => rfl
  | cons index rest ih =>
      rw [allocItemsV2]
      split
      · exact ih st
      split
      · exact ih st
      · rename_i propV2 _
        have hone := length_allocItemV2 props index propV2 rest
          { st with itemFlags := markHandled st.itemFlags [index] }
        simp only
        split
        · rename_i heq
          rw [heq] at hone
          rw [ih, hone]
        · rename_i heq
          rwa [heq] at hone

theorem resAllocCuListV2_itemwise {listProp : CuListPropertyV2} {listRes : CuListResource}
    (hr : s.resAllocCuListV2 listProp = (s', .ok listRes)) :
    Itemwise listProp.items.length listRes ∧ 0 < listProp.cuNum ∧
      listProp.items.length ≤ maxListCuNumV2 := by
  rw [resAllocCuListV2] at hr
  split at hr
  · simp at hr
  rename_i hnum
  have hle : listProp.items.length ≤ maxListCuNumV2 := by
    rw [CuListPropertyV2.items, List.length_take]
    omega
  refine ⟨?_, by omega, hle⟩
  simp only at hr
  split at hr
  · rename_i st heq
    have hlength := length_allocItemsV2 listProp.items (List.range listProp.items.length)
      { s := s
        itemFlags := listProp.items.map fun _ => ⟨false, false⟩
        cuResources := listProp.items.map fun _ => CuResource.zero
        usedDevIds := [] }
    rw [heq, List.length_map] at hlength
    rw [Prod.mk.injEq, Except.ok.injEq] at hr
    rw [← hr.2, ← hlength]
    exact itemwise_listResource _
  · simp at hr

/-- The result of a group is that of one of its options. -/
theorem allocOptions_ok {β : Type} {alloc : System → β → System × Except XrmError CuListResource}
    {options : List β} {e : XrmError} {listRes : CuListResource}
    (hr : allocOptions alloc options s e = (s', .ok listRes)) :
    ∃ option ∈ options, ∃ s₁ s₂, alloc s₁ option = (s₂, .ok listRes) := by
  induction options generalizing s e with
  | nil => simp [allocOptions] at hr
  | cons option options ih =>
      rw [allocOptions] at hr
      split at hr
      · rename_i s₂ listRes' heq
        rw [Prod.mk.injEq, Except.ok.injEq] at hr
        obtain ⟨-, rfl⟩ := hr
        exact ⟨option, by simp, s, s₂, heq⟩
      · obtain ⟨option', hoption', hok⟩ := ih hr
        exact ⟨option', by simp [hoption'], hok⟩

/-- Queries for lists and groups that ask for no device alone: they come to an end and leave the
system as it is but for the counter of the service ids. -/
structure QueriesBorrow (s : System) (fuel : Nat) : Prop where
  checkCuListAvailableNum : ∀ listProp : CuListProperty,
    (∀ prop ∈ listProp.items, prop.Sent ∧ prop.devExcl = false) →
      (0 < listProp.cuNum → listProp.items ≠ []) → ∃ n num,
        s.checkCuListAvailableNum listProp fuel = some ({ s with allocServiceId := n }, num)
  checkCuListAvailableNumV2 : ∀ listProp : CuListPropertyV2,
    (∀ prop ∈ listProp.items, prop.Sent ∧ prop.devExcl = false) →
      (0 < listProp.cuNum → listProp.items ≠ []) → ∃ n num,
        s.checkCuListAvailableNumV2 listProp fuel = some ({ s with allocServiceId := n }, num)
  checkCuGroupAvailableNum : ∀ groupProp : CuGroupProperty, groupProp.clientId ≠ 0 →
    (∀ group ∈ s.udfCuGroups, group.udfCuGroupName = groupProp.udfCuGroupName →
      ∀ option ∈ group.optionUdfCuListProps, (0 < option.cuNum → option.items ≠ []) ∧
        ∀ prop ∈ option.items, prop.devExcl = false) → ∃ n num,
      s.checkCuGroupAvailableNum groupProp fuel = some ({ s with allocServiceId := n }, num)

/-- The result of a group has the length of one of its options. -/
theorem resAllocCuGroup_itemwise {groupProp : CuGroupProperty} {listRes : CuListResource}
    (hgroups : ∀ group ∈ s.udfCuGroups, group.udfCuGroupName = groupProp.udfCuGroupName →
      ∀ option ∈ group.optionUdfCuListProps, 0 < option.cuNum → option.items ≠ [])
    (hr : s.resAllocCuGroup groupProp = (s', .ok listRes)) :
    ∃ n, 0 < n ∧ n ≤ maxGroupCuNum ∧ Itemwise n listRes := by
  rw [resAllocCuGroup] at hr
  split at hr
  · simp at hr
  rename_i group hfind
  obtain ⟨option, hoption, s₁, s₂, hok⟩ := allocOptions_ok hr
  obtain ⟨hone, hnum, hle⟩ := resAllocCuList_itemwise hok
  have hname : group.udfCuGroupName = groupProp.udfCuGroupName := by
    simpa using List.find?_some hfind
  have hitems := hgroups group (List.mem_of_find?_eq_some hfind) hname option
    (List.mem_of_mem_take hoption) hnum
  have hlength : (groupOption groupProp option).items.length = option.items.length := by
    simp only [CuListProperty.items, groupOption, List.length_take, List.length_map]
    omega
  rw [hlength] at hone hle
  exact ⟨_, List.length_pos_iff.mpr hitems, hle, hone⟩

theorem queries_borrow {limit fuel : Nat} (h : Reachable allRuns limit s)
    (hfuel : s.numDevice * (maxXilinxKernels * maxKernelChannels) < fuel) :
    s.QueriesBorrow fuel where
  checkCuListAvailableNum listProp hq hitems := by
    refine list_query_borrows h.good (fun hlent => ?_) (fun _ hr => ?_) hfuel
    · exact resAllocCuList_ends ((Lent.follows h.good _).beside _) hlent
        fun prop hprop => ⟨(hq prop hprop).1.received, (hq prop hprop).2⟩
    · obtain ⟨hone, hnum, hle⟩ := resAllocCuList_itemwise hr
      exact ⟨_, List.length_pos_iff.mpr (hitems hnum), hle, hone⟩
  checkCuListAvailableNumV2 listProp hq hitems := by
    refine list_query_borrows h.good (fun hlent => ?_) (fun _ hr => ?_) hfuel
    · exact resAllocCuListV2_ends ((Lent.follows h.good _).beside _) hlent
        fun prop hprop => ⟨(hq prop hprop).1.received, (hq prop hprop).2⟩
    · obtain ⟨hone, hnum, hle⟩ := resAllocCuListV2_itemwise hr
      exact ⟨_, List.length_pos_iff.mpr (hitems hnum), hle, hone⟩
  checkCuGroupAvailableNum groupProp hc hgroups := by
    have hsame : ∀ {s' : System} {l : List CuResource}, s.Lent s' l →
        s'.udfCuGroups = s.udfCuGroups := fun hlent => by rw [Lends.frame hlent]
    refine list_query_borrows h.good (fun hlent => ?_) (fun hlent hr => ?_) hfuel
    · refine resAllocCuGroup_ends ((Lent.follows h.good _).beside _) hlent ?_
      rw [hsame hlent]
      intro group hmem hname option hoption prop hprop
      have hvalid := h.good.groupsValid.groups group hmem option hoption
      refine ⟨groupOption_received hc hvalid prop hprop, ?_⟩
      obtain ⟨prop₀, hprop₀, rfl⟩ := List.mem_map.mp (List.mem_of_mem_take hprop)
      exact (hgroups group hmem hname option hoption).2 prop₀ hprop₀
    · refine resAllocCuGroup_itemwise ?_ hr
      rw [hsame hlent]
      exact fun group hmem hname option hoption => (hgroups group hmem hname option hoption).1

open Scenario in
/-- The list of four items with three different constraints. -/
theorem queries_borrow_lent : ∃ n num,
    (after lendingRun).checkCuListAvailableNumV2 lendingList
        (3 * (maxXilinxKernels * maxKernelChannels) + 1) =
      some ({ after lendingRun with allocServiceId := n }, num) := by
  have hdevices : (after lendingRun).numDevice = 3 := by decide +kernel
  have hborrow :
      (after lendingRun).QueriesBorrow (3 * (maxXilinxKernels * maxKernelChannels) + 1) :=
    queries_borrow (reachable_after lendingRun (by decide +kernel))
      (by rw [hdevices]; exact Nat.lt_succ_self _)
  exact hborrow.checkCuListAvailableNumV2 lendingList (by decide) (by decide)

end System

end Xrm
