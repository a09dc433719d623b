import Xrm.Verification.Scanning
import Xrm.Verification.Scenario

/-! # Allocation without a policy

The search finds a CU exactly when one is eligible, and prefers those that are in use already.
-/

namespace Xrm

open Choice

variable {prop : CuProperty} {svc policyInfo devId : Nat} {wanted : CuData → Bool}

/-! ## The order of the search -/

/-- The order of the devices and of the CUs on them. -/
def PreCu.Before (q r : PreCu) : Prop :=
  q.devId < r.devId ∨ q.devId = r.devId ∧ q.cuId < r.cuId

/-- The order in which the CUs are tried: those in use come first. -/
def PreCu.Precedes (q r : PreCu) : Prop :=
  inUse q.cu = true ∧ inUse r.cu = false ∨ inUse q.cu = inUse r.cu ∧ q.Before r

instance (q r : PreCu) : Decidable (q.Before r) :=
  inferInstanceAs (Decidable (q.devId < r.devId ∨ q.devId = r.devId ∧ q.cuId < r.cuId))

instance (q r : PreCu) : Decidable (q.Precedes r) :=
  inferInstanceAs (Decidable
    (inUse q.cu = true ∧ inUse r.cu = false ∨ inUse q.cu = inUse r.cu ∧ q.Before r))

theorem unused_eq (cu : CuData) : unused cu = !inUse cu := by
  rw [unused, inUse]
  cases cu.numClient <;> simp

theorem matching_ordered (k : Nat) (cus : List CuData) :
    (matching prop wanted devId k cus).Pairwise PreCu.Before := by
  induction cus generalizing k with
  | nil => exact .nil
  | cons cu cus ih =>
      rw [matching]
      split
      · refine .cons (fun q hq => ?_) (ih (k + 1))
        obtain ⟨hdev, hle, -⟩ := mem_matching.mp hq
        exact .inr ⟨hdev.symm, show k < q.cuId by omega⟩
      · exact ih (k + 1)

/-- Two orders one after the other, when the first list is in use and the second is not. -/
theorem precedes_append {l₁ l₂ : List PreCu} (h₁ : l₁.Pairwise PreCu.Before)
    (h₂ : l₂.Pairwise PreCu.Before) (huse : ∀ q ∈ l₁, inUse q.cu = true)
    (hidle : ∀ q ∈ l₂, unused q.cu = true) : (l₁ ++ l₂).Pairwise PreCu.Precedes := by
  have hnot : ∀ q ∈ l₂, inUse q.cu = false := fun q hq => by
    have := hidle q hq
    rw [unused_eq] at this
    simpa using this
  refine List.pairwise_append.mpr ⟨?_, ?_, fun q hq r hr => .inl ⟨huse q hq, hnot r hr⟩⟩
  · exact h₁.imp_of_mem fun hq hr h => .inr ⟨by rw [huse _ hq, huse _ hr], h⟩
  · exact h₂.imp_of_mem fun hq hr h => .inr ⟨by rw [hnot _ hq, hnot _ hr], h⟩

/-! ## What the allocation must find -/

/-- The result of an allocation among the eligible CUs: there is one if some CU is eligible, and
it is on the first eligible CU in use or, if none is in use, on the first eligible one. -/
structure AffinityFirst (eligible : PreCu → Prop) (r : Except XrmError CuResource) : Prop where
  complete : (∃ q, eligible q) → ∃ res, r = .ok res
  sound : ∀ res, r = .ok res → ∃ q, eligible q ∧ res.deviceId = q.devId ∧ res.cuId = q.cuId ∧
    (inUse q.cu = true ∨ ∀ q', eligible q' → inUse q'.cu = false) ∧
      ∀ q', eligible q' → inUse q'.cu = inUse q.cu → ¬q'.Before q

/-- A scan in the order of the search puts the CUs in use first. -/
theorem Picks.affinityFirst {l : List PreCu} {r : Except XrmError CuResource}
    (h : Picks r (choose prop policyNull none l).chosen) (hl : l.Pairwise PreCu.Precedes) :
    AffinityFirst (fun q => q ∈ l ∧ q.cu.Fits prop ∧ q.cu.HasChannel) r := by
  have hsettles : ∀ q : PreCu, decide (q.cu.Settles prop policyNull) = true ↔
      q.cu.Fits prop ∧ q.cu.HasChannel := fun q => by
    rw [decide_eq_true_iff, CuData.settles_null_iff]
  cases ho : choose prop policyNull none l with
  | remembered best =>
      rw [ho, choose_null_remembered ho, Outcome.chosen] at h
      obtain ⟨hnone, -⟩ := scan_remembered_iff.mp ho
      cases h
      refine ⟨?_, by simp⟩
      rintro ⟨q, hq, hspec⟩
      have := hnone q hq
      rw [(hsettles q).mpr hspec] at this
      simp at this
  | settled q =>
      rw [ho, Outcome.chosen] at h
      rw [choose, scan_settled_iff, List.find?_eq_some_iff_append] at ho
      obtain ⟨hq, pre, post, rfl, hpre⟩ := ho
      obtain @⟨res, _, hdev, hcu⟩ := h
      refine ⟨fun _ => ⟨res, rfl⟩, ?_⟩
      rintro res' hres
      obtain rfl : res = res' := by simpa using hres
      have hafter : ∀ q', q' ∈ pre ++ q :: post → q'.cu.Fits prop ∧ q'.cu.HasChannel →
          q' = q ∨ q.Precedes q' := by
        intro q' hmem hspec
        rcases List.mem_append.mp hmem with hmem | hmem
        · have := hpre q' hmem
          rw [(hsettles q').mpr hspec] at this
          simp at this
        · rcases List.mem_cons.mp hmem with rfl | hmem
          · exact .inl rfl
          · exact .inr ((List.pairwise_cons.mp (List.pairwise_append.mp hl).2.1).1 q' hmem)
      refine ⟨q, ⟨by simp, (hsettles q).mp hq⟩, hdev, hcu, ?_, ?_⟩
      · cases huse : inUse q.cu with
        | true => exact .inl rfl
        | false =>
            refine .inr fun q' hq' => ?_
            rcases hafter q' hq'.1 hq'.2 with rfl | ⟨h, -⟩ | ⟨h, -⟩
            · exact huse
            · rw [huse] at h
              simp at h
            · rw [← h, huse]
      · intro q' hq' heq hbefore
        rcases hafter q' hq'.1 hq'.2 with rfl | ⟨h, h'⟩ | ⟨-, h⟩
        · rcases hbefore with h | ⟨-, h⟩ <;> omega
        · rw [heq, h] at h'
          simp at h'
        · rw [PreCu.Before] at hbefore h
          omega

theorem AffinityFirst.congr {P Q : PreCu → Prop} {r : Except XrmError CuResource}
    (h : AffinityFirst P r) (hPQ : ∀ q, P q ↔ Q q) : AffinityFirst Q r := by
  have heq : P = Q := funext fun q => propext (hPQ q)
  rwa [← heq]

namespace System

variable {D : Discipline} {s : System} {devWanted : DeviceData → Bool}

/-- A CU that the request may be served from: its device is usable by the client, its names
match, the load fits and a channel is free. -/
structure Eligible (s : System) (prop : CuProperty) (q : PreCu) : Prop where
  asks : s.Asks prop q
  fits : q.cu.Fits prop
  hasChannel : q.cu.HasChannel

theorem offered_ordered (devIds : List Nat) (h : devIds.Pairwise (· < ·)) :
    (s.offered prop devWanted wanted devIds).Pairwise PreCu.Before := by
  induction devIds with
  | nil => exact .nil
  | cons devId devIds ih =>
      obtain ⟨hlt, hrest⟩ := List.pairwise_cons.mp h
      rw [offered_cons]
      refine List.pairwise_append.mpr ⟨?_, ih hrest, ?_⟩
      · rw [offered, List.flatMap_cons, List.flatMap_nil, List.append_nil]
        split
        · exact .nil
        · split
          · exact matching_ordered 0 _
          · exact .nil
      · intro q hq r hr
        obtain ⟨hqdev, -⟩ := mem_offered.mp hq
        obtain ⟨hrdev, -⟩ := mem_offered.mp hr
        rw [List.mem_singleton] at hqdev
        exact .inl (by rw [hqdev]; exact hlt _ hrdev)

theorem inTurn_ordered (s : System) (prop : CuProperty) :
    (s.inTurn prop).Pairwise PreCu.Precedes :=
  precedes_append (offered_ordered _ List.pairwise_lt_range)
    (offered_ordered _ List.pairwise_lt_range) (fun _ hq => (mem_offered.mp hq).2.1)
    fun _ hq => (mem_offered.mp hq).2.1

theorem resAllocCu_picks (hsound : s.Sound D) (hs : prop.Sent) (hnamed : prop.unnamed = false)
    (updateId : Bool) : Picks (s.resAllocCu prop updateId).2
      (choose prop policyNull none (s.inTurn prop)).chosen := by
  have hfound := allocTwice_found hsound hs.bounded policyNull
  rw [resAllocCu, if_neg (by simp [hnamed])]
  cases ho : choose prop policyNull none (s.inTurn prop) with
  | settled q =>
      rw [ho] at hfound
      generalize s.allocTwice prop policyNull = r at hfound ⊢
      obtain ⟨s', r⟩ := r
      cases hfound with
      | acquired hdev hcu => exact .ok hdev hcu
  | remembered best =>
      rw [ho] at hfound
      rw [choose_null_remembered ho]
      generalize s.allocTwice prop policyNull = r at hfound ⊢
      obtain ⟨s', r⟩ := r
      cases hfound with
      | missed => exact .error

theorem resAllocCu_affinityFirst (hsound : s.Sound D) (hs : prop.Sent)
    (hnamed : prop.unnamed = false) (updateId : Bool) :
    AffinityFirst (s.Eligible prop) (s.resAllocCu prop updateId).2 := by
  refine ((resAllocCu_picks hsound hs hnamed updateId).affinityFirst
    (s.inTurn_ordered prop)).congr fun q => ?_
  rw [mem_inTurn]
  exact ⟨fun h => ⟨h.1, h.2.1, h.2.2⟩, fun h => ⟨h.asks, h.fits, h.hasChannel⟩⟩

/-! ## On a given device -/

/-- The matching CUs of one device: first those in use, then the others. -/
def inTurnOn (prop : CuProperty) (devId : Nat) (dev : DeviceData) : List PreCu :=
  matching prop inUse devId 0 dev.cuList ++ matching prop unused devId 0 dev.cuList

theorem mem_inTurnOn {dev : DeviceData} {q : PreCu} : q ∈ inTurnOn prop devId dev ↔
    q.devId = devId ∧ dev.cuList[q.cuId]? = some q.cu ∧ q.cu.matchesCu prop = true := by
  rw [inTurnOn, List.mem_append, mem_matching, mem_matching, unused_eq]
  simp only [Nat.zero_le, Nat.sub_zero, true_and]
  cases inUse q.cu <;> simp

/-- The matching CUs of a usable device are those that the request asks for there. -/
theorem mem_inTurnOn_iff {dev : DeviceData} {deviceId : Int} (hid : deviceId = devId)
    (hdev : s.devList[devId]? = some dev) (husable : dev.Usable prop) {q : PreCu} :
    q ∈ inTurnOn prop devId dev ↔ s.Asks prop q ∧ deviceId = q.devId := by
  rw [mem_inTurnOn]
  constructor
  · rintro ⟨hq, hget, hmatch⟩
    exact ⟨⟨⟨dev, by rw [hq, hdev], husable, hget⟩, hmatch⟩, by rw [hid, hq]⟩
  · rintro ⟨⟨⟨dev', hdev', -, hget⟩, hmatch⟩, hid'⟩
    have hq : q.devId = devId := by omega
    rw [hq, hdev, Option.some.injEq] at hdev'
    subst hdev'
    exact ⟨hq, hget, hmatch⟩

theorem inTurnOn_ordered (prop : CuProperty) (devId : Nat) (dev : DeviceData) :
    (inTurnOn prop devId dev).Pairwise PreCu.Precedes :=
  precedes_append (matching_ordered 0 _) (matching_ordered 0 _)
    (fun _ hq => (mem_matching.mp hq).2.2.2.1) fun _ hq => (mem_matching.mp hq).2.2.2.1

/-- The checks in front of an allocation on a given device pass exactly when the device exists
and is usable. -/
theorem registerOn_cases (hsound : s.Sound D) (deviceId : Int) (hnamed : prop.unnamed = false) :
    (∃ (devId : Nat) (dev dev₁ : DeviceData),
      deviceId = devId ∧ s.devList[devId]? = some dev ∧ dev.Usable prop ∧
        dev.allocClientFromDev prop = .ok dev₁ ∧
          s.registerOn deviceId prop = .ok (devId, dev₁)) ∨
      (∃ e, s.registerOn deviceId prop = .error e) ∧
        ∀ (devId : Nat) (dev : DeviceData), deviceId = devId → s.devList[devId]? = some dev →
          ¬dev.Usable prop := by
  rw [registerOn]
  cases hidx : s.devIndex deviceId with
  | none =>
      refine .inr ⟨⟨_, rfl⟩, fun devId dev hid hdev => ?_⟩
      have hlt := (List.getElem?_eq_some_iff.mp hdev).1
      rw [devIndex, if_pos ⟨by omega, by rw [hid, numDevice]; omega⟩] at hidx
      simp at hidx
  | some devId =>
      have hid : deviceId = (devId : Int) := by
        rw [devIndex] at hidx
        split at hidx
        · rename_i hrange
          rw [Option.some.injEq] at hidx
          omega
        · simp at hidx
      have hsame : ∀ devId' : Nat, deviceId = (devId' : Int) → devId' = devId := fun _ h => by
        omega
      simp only [hnamed, Bool.false_eq_true, if_false]
      cases hdev : s.devList[devId]? with
      | none =>
          refine .inr ⟨⟨_, rfl⟩, fun devId' dev hid' hdev' => ?_⟩
          rw [hsame devId' hid', hdev] at hdev'
          simp at hdev'
      | some dev =>
          have hshape := (hsound dev (List.mem_of_getElem? hdev)).shape
          simp only
          by_cases husable : dev.Usable prop
          · obtain ⟨dev₁, hreg⟩ := husable.registers
            exact .inl ⟨devId, dev, dev₁, hid, hdev, husable, hreg,
              by rw [if_pos husable.isFree, hreg]⟩
          · refine .inr ⟨?_, fun devId' dev' hid' hdev' => ?_⟩
            · split
              · rename_i hfree
                split
                · rename_i dev₁ hreg
                  exact absurd (DeviceData.usable_of_registered hshape
                    (DeviceData.isLoaded_of_isFreeForClient hfree) hreg) husable
                · exact ⟨_, rfl⟩
              · exact ⟨_, rfl⟩
            · rw [hsame devId' hid', hdev, Option.some.injEq] at hdev'
              rwa [← hdev']

theorem resAllocCuFromDev_affinityFirst (hsound : s.Sound D) (hs : prop.Sent)
    (hnamed : prop.unnamed = false) (deviceId : Int) (updateId : Bool) :
    AffinityFirst (fun q => s.Eligible prop q ∧ deviceId = q.devId)
      (s.resAllocCuFromDev deviceId prop updateId).2 := by
  rw [resAllocCuFromDev]
  rcases registerOn_cases hsound deviceId hnamed with
    ⟨devId, dev, dev₁, hid, hdev, husable, hreg, hregOn⟩ | ⟨⟨e, hregOn⟩, hno⟩
  · have hcons := (hsound dev (List.mem_of_getElem? hdev)).consistent
    rw [← DeviceData.registered_cuList hreg] at hcons
    have hfound :=
      @searchCuTwice_found _ s.getNextAllocServiceId policyNull devId hs.bounded dev₁.cuList
      hcons
    rw [DeviceData.registered_cuList hreg] at hfound
    have hsettle := @Found.settle _ _ _ devId _ _ hfound dev₁ fun q hq =>
      (mem_inTurnOn.mp (choose_settled_mem hq)).1
    have hfirst : Picks (s.resAllocCuFromDev deviceId prop updateId).2
        (choose prop policyNull none (inTurnOn prop devId dev)).chosen := by
      rw [resAllocCuFromDev, hregOn]
      simp only [DeviceData.registered_cuList hreg]
      rw [inTurnOn]
      generalize dev₁.settle devId prop s.getNextAllocServiceId (searchCuTwice prop
        s.getNextAllocServiceId policyNull devId dev.cuList) = r at hsettle ⊢
      obtain ⟨dev', r⟩ := r
      cases ho : choose prop policyNull none (matching prop inUse devId 0 dev.cuList ++
          matching prop unused devId 0 dev.cuList) with
      | settled q =>
          rw [ho] at hsettle
          cases hsettle with
          | acquired hd hc => exact .ok hd hc
      | remembered best =>
          rw [ho] at hsettle
          rw [choose_null_remembered ho]
          cases hsettle with
          | missed => exact .error
    rw [resAllocCuFromDev] at hfirst
    refine (hfirst.affinityFirst (inTurnOn_ordered prop devId dev)).congr fun q => ?_
    rw [mem_inTurnOn_iff hid hdev husable]
    exact ⟨fun h => ⟨⟨h.1.1, h.2.1, h.2.2⟩, h.1.2⟩, fun h =>
      ⟨⟨h.1.asks, h.2⟩, h.1.fits, h.1.hasChannel⟩⟩
  · rw [hregOn]
    refine ⟨?_, by simp⟩
    rintro ⟨q, ⟨⟨⟨dev, hdev, husable, -⟩, -⟩, -, -⟩, hid⟩
    exact absurd husable (hno q.devId dev hid hdev)

/-- In every state that the daemon reaches, the allocation of a CU is sound, complete and
prefers CUs in use, over all devices as on a given one. -/
theorem resAllocCu_first_fit {limit : Nat} (h : Reachable allRuns limit s) (hs : prop.Sent)
    (hnamed : prop.unnamed = false) (updateId : Bool) :
    AffinityFirst (s.Eligible prop) (s.resAllocCu prop updateId).2 ∧
      ∀ deviceId : Int, AffinityFirst (fun q => s.Eligible prop q ∧ deviceId = q.devId)
        (s.resAllocCuFromDev deviceId prop updateId).2 :=
  ⟨resAllocCu_affinityFirst h.good.sound hs hnamed updateId, fun deviceId =>
    resAllocCuFromDev_affinityFirst h.good.sound hs hnamed deviceId updateId⟩

end System

open Scenario in
/-- The first CU of a device is in use, the second one is not. -/
def occupiedRun : List Op :=
  [.loadOneDevice (env 1 2) 0 "scaler.xclbin", .resAllocCu (request 1 0 400000) true]

namespace System

open Scenario in
theorem resAllocCu_first_fit_shared :
    AffinityFirst ((after occupiedRun).Eligible (request 2 0 300000))
        ((after occupiedRun).resAllocCu (request 2 0 300000) true).2 ∧
      ∀ deviceId : Int,
        AffinityFirst (fun q => (after occupiedRun).Eligible (request 2 0 300000) q ∧
            deviceId = q.devId)
          ((after occupiedRun).resAllocCuFromDev deviceId (request 2 0 300000) true).2 :=
  resAllocCu_first_fit (reachable_after occupiedRun (by decide +kernel)) (by decide) (by decide)
    true

end System

open Scenario in
/-- Client 2 asks for more than fits into 32 bits beside the load of client 1, and the release of
the latter wraps the used load back to the largest number. -/
def wrappedRun : List Op :=
  [.loadOneDevice (env 1 1) 0 "scaler.xclbin", .resAllocCu (request 1 0 1) true,
    .resAllocCu (request 2 0 2147483647) true, .resReleaseCu (recordOf 0 1 1)]

namespace System

/-- After it the CU is in use more than twice over, and the daemon allocates another load on it. -/
theorem resAllocCu_first_fit_fails :
    ¬AffinityFirst ((Scenario.after wrappedRun).Eligible (Scenario.request 3 0 1))
      ((Scenario.after wrappedRun).resAllocCu (Scenario.request 3 0 1) true).2 := by
  intro h
  have hserved : ((Scenario.after wrappedRun).resAllocCu (Scenario.request 3 0 1)
      true).2.toOption.isSome := by
    decide +kernel
  have hfull : ∀ dev ∈ (Scenario.after wrappedRun).devList, ∀ cu ∈ dev.cuList,
      ¬cu.Fits (Scenario.request 3 0 1) := by
    decide +kernel
  cases hr : ((Scenario.after wrappedRun).resAllocCu (Scenario.request 3 0 1) true).2 with
  | error e => simp [hr, Except.toOption] at hserved
  | ok res =>
      obtain ⟨q, heligible, -⟩ := h.sound res hr
      obtain ⟨dev, hdev, -, hcu⟩ := heligible.asks.device
      exact hfull dev (List.mem_of_getElem? hdev) q.cu (List.mem_of_getElem? hcu)
        heligible.fits

end System

end Xrm
