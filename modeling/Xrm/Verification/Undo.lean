import Xrm.Verification.Loans
import Xrm.Verification.Scenario

/-! # Undoing allocations

Requests that are not exclusive leave nothing behind but the channels they took, however many
devices they tried first, so that releases lead back to the state before.
-/

namespace Xrm

/-- A request of a client that would share its device. -/
structure CuProperty.Sharing (prop : CuProperty) : Prop where
  received : prop.Received
  shared : prop.devExcl = false

namespace System

variable {D : Discipline} {s₀ s s' s₁ : System} {prop : CuProperty} {svc : Nat}

namespace Lends

variable {lent done : List CuResource}

/-! ## Attempts -/

theorem touchStep (h : s₀.Lends s lent) (hq : prop.Sharing) (ht : TouchStep prop s s') :
    s' = s := by
  obtain ⟨i, dev, dev', hdev, ⟨hload, dev₁, hreg, rfl⟩, rfl⟩ := ht
  obtain ⟨dev₀, hdev₀, hextends⟩ := h.device hdev
  have hno : ¬dev.Upgrades prop := fun hup => by simpa [hq.shared] using hup.1
  rw [DeviceData.touch_eq hextends.shape hload hq.received.1 hreg hno]
  obtain ⟨hi, rfl⟩ := List.getElem?_eq_some_iff.mp hdev
  simp [System.setDev]

theorem follows (h₀ : s₀.Good D) :
    Follows CuProperty.Sharing s₀.getNextAllocServiceId s₀.Lends where
  nextId h := by rw [h.frame]; rfl
  perm h hperm := h.perm hperm
  touch h hq ht := by rwa [h.touchStep hq ht]
  grab h hq hnamed hdev hg := h.grab h₀ hq.received (nextId_ne_zero _) hq.shared hnamed hdev hg
  release h := h.release h₀

end Lends

/-! ## All allocations -/

/-- The service ids are no part of what is lent. -/
theorem Lends.withId {lent : List CuResource} (h : s₀.Lends s lent) (n : Nat) :
    { s₀ with allocServiceId := n }.Lends { s with allocServiceId := n } lent where
  frame := by
    rw [h.frame]
  devs := h.devs
  lendable := fun res hres =>
    have hl := h.lendable res hres
    ⟨hl.nonneg, hl.clientId, hl.free, hl.order⟩
  named := h.named
  nodup := h.nodup
  others := h.others

/-- Released one by one, in any order, the resources lead back from `s'` to `s`, but for the
counter of the service ids. -/
def Undone (s s' : System) (resources : List CuResource) : Prop :=
  ∀ l : List CuResource, l.Perm resources →
    releaseInOrder l s' = ({ s with allocServiceId := s'.allocServiceId }, .ok ())

theorem Lends.undone {lent : List CuResource} (h₀ : s₀.Good D) (h : s₀.Lends s lent) (n : Nat) :
    s₀.Undone { s with allocServiceId := n } lent := by
  intro l hl
  have hgood : Good D { s₀ with allocServiceId := n } :=
    ⟨h₀.sound, h₀.groupsValid.congr rfl rfl, h₀.probed, h₀.recorded⟩
  exact ((h.withId n).perm hl.symm).releaseInOrder hgood

/-- Releases lead back from the success of a list allocation. -/
theorem undone_of_ends (h : s.Good D) {r : System × Except XrmError CuListResource}
    (hr : ListEnds s.Lends r) {listRes : CuListResource} (heq : r = (s', .ok listRes)) :
    s.Undone s' listRes.cuResources := by
  cases hr with
  | refused => simp at heq
  | granted hlends =>
      rw [Prod.mk.injEq, Except.ok.injEq] at heq
      obtain ⟨rfl, rfl⟩ := heq
      exact hlends.undone h _

/-! ## Release undoes allocation -/

/-- Releases undo every allocation of `s` that does not ask for a device alone. -/
structure ReleaseUndoes (s : System) : Prop where
  resAllocCu : ∀ (prop : CuProperty) (updateId : Bool) (s' : System) (res : CuResource),
    prop.Sent → prop.devExcl = false → s.resAllocCu prop updateId = (s', .ok res) →
      s.Undone s' [res]
  resAllocCuFromDev : ∀ (deviceId : Int) (prop : CuProperty) (updateId : Bool) (s' : System)
    (res : CuResource), prop.Sent → prop.devExcl = false →
      s.resAllocCuFromDev deviceId prop updateId = (s', .ok res) → s.Undone s' [res]
  resAllocCuList : ∀ (listProp : CuListProperty) (s' : System) (listRes : CuListResource),
    (∀ prop ∈ listProp.items, prop.Sent ∧ prop.devExcl = false) →
      s.resAllocCuList listProp = (s', .ok listRes) → s.Undone s' listRes.cuResources
  resAllocCuListV2 : ∀ (listProp : CuListPropertyV2) (s' : System) (listRes : CuListResource),
    (∀ prop ∈ listProp.items, prop.Sent ∧ prop.devExcl = false) →
      s.resAllocCuListV2 listProp = (s', .ok listRes) → s.Undone s' listRes.cuResources
  resAllocCuGroup : ∀ (groupProp : CuGroupProperty) (s' : System) (listRes : CuListResource),
    groupProp.clientId ≠ 0 →
      (∀ group ∈ s.udfCuGroups, group.udfCuGroupName = groupProp.udfCuGroupName →
        ∀ option ∈ group.optionUdfCuListProps, ∀ prop ∈ option.items, prop.devExcl = false) →
      s.resAllocCuGroup groupProp = (s', .ok listRes) → s.Undone s' listRes.cuResources

theorem undone_of_allocates (h : s.Good D) (hs : prop.Received) (hshared : prop.devExcl = false)
    {updateId : Bool} {res : CuResource} (ha : Allocates prop updateId s (s', .ok res)) :
    s.Undone s' [res] := by
  rcases (Lends.follows h).allocates (.refl h.sound) ⟨hs, hshared⟩ ha with
    ⟨s₁, e, heq, -⟩ | ⟨s₁, res', heq, hlends⟩
  · simp at heq
  rw [finishAlloc, Prod.mk.injEq, Except.ok.injEq] at heq
  obtain ⟨rfl, rfl⟩ := heq
  split
  · exact hlends.undone h _
  · exact hlends.undone h s₁.allocServiceId

/-- Release undoes allocation: in every reachable state, whatever was allocated without asking
for a device alone can be released one by one, in any order, and the state before the
allocation is back, but for the counter of the service ids. -/
theorem release_undoes_allocation {limit : Nat} (h : Reachable allRuns limit s) :
    s.ReleaseUndoes where
  resAllocCu prop updateId _ _ hs hshared heq :=
    undone_of_allocates h.good hs.received hshared (heq ▸ s.resAllocCu_allocates prop updateId)
  resAllocCuFromDev deviceId prop updateId _ _ hs hshared heq :=
    undone_of_allocates h.good hs.received hshared
      (heq ▸ s.resAllocCuFromDev_allocates deviceId prop updateId)
  resAllocCuList _ _ _ hq heq :=
    undone_of_ends h.good (resAllocCuList_ends (Lends.follows h.good) (.refl h.good.sound)
      fun prop hprop => ⟨(hq prop hprop).1.received, (hq prop hprop).2⟩) heq
  resAllocCuListV2 _ _ _ hq heq :=
    undone_of_ends h.good (resAllocCuListV2_ends (Lends.follows h.good) (.refl h.good.sound)
      fun prop hprop => ⟨(hq prop hprop).1.received, (hq prop hprop).2⟩) heq
  resAllocCuGroup groupProp _ _ hc hshared heq := by
    refine undone_of_ends h.good (resAllocCuGroup_ends (Lends.follows h.good) (.refl h.good.sound)
      fun group hmem hname option hoption prop hprop => ⟨?_, ?_⟩) heq
    · exact groupOption_received hc (h.good.groupsValid.groups group hmem option hoption) prop hprop
    · obtain ⟨prop₀, hprop₀, rfl⟩ := List.mem_map.mp (List.mem_of_mem_take hprop)
      exact hshared group hmem hname option hoption prop₀ hprop₀

end System

open Scenario in
/-- Client 1 reserves a part of a CU of device 0, client 2 holds a channel on device 0 and
client 3 has device 1 alone. -/
def lendingRun : List Op :=
  [.loadOneDevice (env 3 2) 0 "scaler.xclbin", .loadOneDevice (env 3 2) 1 "scaler.xclbin",
    .loadOneDevice (env 3 2) 2 "scaler.xclbin",
    .resReserveCuPool (pool 1 [request 1 0 300000]),
    .resAllocCu (request 2 0 200000) true,
    .resAllocCuFromDev 1 { request 3 0 200000 with devExcl := true } true]

open Scenario in
/-- Client 2 wants a CU anywhere, two on one virtual device and one on device 2, all out of the
default pool. -/
def lendingList : CuListPropertyV2 where
  cuProps := [0, 2 * 2 ^ 32, 1 * 2 ^ 32 + 2, 2 * 2 ^ 32].map fun deviceInfo =>
    { kernelName := "scaler"
      kernelAlias := ""
      cuName := ""
      devExcl := false
      deviceInfo := deviceInfo
      policyInfo := policyNull
      requestLoadUnified := 100000
      requestLoadOriginal := 0
      clientId := 2
      clientProcessId := 0
      poolId := 0 }
  cuNum := 4

namespace System

theorem release_undoes_allocation_mixed : ∃ s' listRes,
    (Scenario.after lendingRun).resAllocCuListV2 lendingList = (s', .ok listRes) ∧
      listRes.cuNum = 4 ∧ (Scenario.after lendingRun).Undone s' listRes.cuResources := by
  have hok : ((Scenario.after lendingRun).resAllocCuListV2 lendingList).2.toOption.map (·.cuNum) =
      some 4 := by decide +kernel
  cases hr : (Scenario.after lendingRun).resAllocCuListV2 lendingList with
  | mk s' r =>
      rw [hr] at hok
      cases r with
      | error e => simp [Except.toOption] at hok
      | ok listRes =>
          refine ⟨s', listRes, rfl, by simpa [Except.toOption] using hok, ?_⟩
          exact (release_undoes_allocation (reachable_after lendingRun
            (by decide +kernel))).resAllocCuListV2 lendingList s' listRes (by decide) hr

end System

end Xrm
