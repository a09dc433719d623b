import Xrm.Verification.Search

/-! # Attempts to allocate one CU

What the device loops of the allocation functions leave behind: the client was registered and
dropped again on some devices, and on the last one it may have taken a channel.
-/

namespace Xrm

open Relation

namespace System

variable {D : Discipline} {s s' s₁ s₂ : System} {prop : CuProperty} {svc : Nat}

/-! ## Touched devices -/

def TouchStep (prop : CuProperty) (s s' : System) : Prop :=
  ∃ i dev dev', s.devList[i]? = some dev ∧ DeviceData.Touch prop dev dev' ∧ s' = s.setDev i dev'

/-- The client of the request was registered and dropped again on some devices. -/
def Touched (prop : CuProperty) : System → System → Prop := ReflTransGen (TouchStep prop)

theorem Touched.evolves (h : Touched prop s s') (hc : prop.clientId ≠ 0) : Develops D s s' := by
  induction h with
  | refl => exact evolves_refl D s
  | tail _ hstep ih =>
      obtain ⟨i, dev, dev', hdev, htouch, rfl⟩ := hstep
      exact ih.trans (evolves_setDev hdev (.single (htouch.act hc)))

theorem Touched.nextId (h : Touched prop s s') :
    s'.getNextAllocServiceId = s.getNextAllocServiceId := by
  induction h with
  | refl => rfl
  | tail _ hstep ih =>
      obtain ⟨i, dev, dev', -, -, rfl⟩ := hstep
      exact ih

/-- What a relation keeps for one device of the table. -/
theorem getElem?_setDev {i j : Nat} {dev dev' x : DeviceData} (hdev : s.devList[i]? = some dev)
    (hx : s.devList[j]? = some x) :
    (s.setDev i dev').devList[j]? = some x ∨
      i = j ∧ x = dev ∧ (s.setDev i dev').devList[j]? = some dev' := by
  by_cases hij : i = j
  · subst hij
    rw [hdev, Option.some.injEq] at hx
    exact .inr ⟨rfl, hx.symm, getElem?_setDev_self hdev dev'⟩
  · exact .inl (by rw [getElem?_setDev_ne hij, hx])

/-- Touched devices keep their CUs and stay loaded. -/
theorem Touched.device (h : Touched prop s s') {i : Nat} {dev : DeviceData}
    (hdev : s.devList[i]? = some dev) :
    ∃ dev', s'.devList[i]? = some dev' ∧ dev'.cuList = dev.cuList ∧
      dev'.isLoaded = dev.isLoaded := by
  induction h with
  | refl => exact ⟨dev, hdev, rfl, rfl⟩
  | tail _ hstep ih =>
      obtain ⟨j, x, x', hx, htouch, rfl⟩ := hstep
      obtain ⟨dev', hdev', hcus, hload⟩ := ih
      rcases getElem?_setDev hx hdev' with hsame | ⟨-, rfl, hnew⟩
      · exact ⟨dev', hsame, hcus, hload⟩
      · exact ⟨_, hnew, htouch.cuList.trans hcus, htouch.isLoaded.trans hload⟩

/-! ## Attempts -/

/-- The outcome of an attempt: without a resource devices were only touched, with one its
channel was taken last. -/
inductive Attempt (prop : CuProperty) (svc : Nat) (s : System) :
    System → Option CuResource → Prop where
  | missed {s' : System} (h : Touched prop s s') : Attempt prop svc s s' none
  | acquired {s₁ : System} {i : Nat} {dev dev' : DeviceData} {res : CuResource}
      (h : Touched prop s s₁) (hdev : s₁.devList[i]? = some dev)
      (hgrab : DeviceData.Grab prop svc i dev dev' res) :
      Attempt prop svc s (s₁.setDev i dev') (some res)

theorem Attempt.evolves {r : Option CuResource} (h : Attempt prop svc s s' r) (hs : prop.Received)
    (hsvc : svc ≠ 0) : Develops D s s' := by
  cases h with
  | missed h => exact h.evolves hs.1
  | acquired h hdev hgrab =>
      exact (h.evolves hs.1).trans (evolves_setDev hdev (.single (hgrab.act hs hsvc)))

theorem Attempt.after {r : Option CuResource} (h : Touched prop s s₁)
    (h' : Attempt prop svc s₁ s' r) : Attempt prop svc s s' r := by
  cases h' with
  | missed h' => exact .missed (h.trans h')
  | acquired h' hdev hgrab => exact .acquired (h.trans h') hdev hgrab

theorem Attempt.touched (h : Attempt prop svc s s' none) : Touched prop s s' := by
  cases h with
  | missed h => exact h

theorem Attempt.clientId {res : CuResource} (h : Attempt prop svc s s' (some res)) :
    res.clientId = prop.clientId := by
  cases h with
  | acquired _ _ hgrab => exact hgrab.clientId

end System

/-- The resource of a pass. -/
def PassResult.found : PassResult → Option CuResource
  | .acquired res => some res
  | .missed _ => none

namespace System

variable {D : Discipline} {s s' s₁ s₂ : System} {prop : CuProperty} {svc : Nat}

/-- One round of the device loop. -/
theorem attempt_of_tryDevice (prop : CuProperty) (svc policyInfo : Nat) (wanted : CuData → Bool)
    (preCu : Option PreCu) {i : Nat} {dev : DeviceData} (hdev : s.devList[i]? = some dev)
    (hload : dev.isLoaded = true) :
    Attempt prop svc s (s.setDev i (dev.tryDevice i prop svc policyInfo wanted preCu).1)
      (dev.tryDevice i prop svc policyInfo wanted preCu).2.found := by
  rcases DeviceData.tryDevice_cases hload with ⟨res, hres, hgrab⟩ | ⟨q, hq, htouch | hsame⟩
  · rw [hres]
    exact .acquired .refl hdev hgrab
  · rw [hq]
    exact .missed (.single ⟨i, dev, _, hdev, htouch, rfl⟩)
  · rw [hq, hsame]
    obtain ⟨hi, rfl⟩ := List.getElem?_eq_some_iff.mp hdev
    have hself : s.setDev i s.devList[i] = s := by simp [setDev]
    rw [hself]
    exact .missed .refl

theorem allocPass_attempt (prop : CuProperty) (policyInfo : Nat) (devWanted : DeviceData → Bool)
    (wanted : CuData → Bool) (devIds : List Nat) (s : System) (preCu : Option PreCu) :
    Attempt prop s.getNextAllocServiceId s
      (allocPass prop policyInfo devWanted wanted devIds s preCu).1
      (allocPass prop policyInfo devWanted wanted devIds s preCu).2.found := by
  induction devIds generalizing s preCu with
  | nil => exact .missed .refl
  | cons devId devIds ih =>
      rw [allocPass]
      split
      · exact ih s preCu
      · rename_i dev hdev
        split
        · rename_i hwanted
          rw [Bool.and_eq_true] at hwanted
          have htry := attempt_of_tryDevice prop s.getNextAllocServiceId policyInfo wanted preCu
            hdev (DeviceData.isLoaded_of_isFreeForClient hwanted.1)
          split
          · rename_i heq
            rw [heq] at htry
            exact htry
          · rename_i dev₁ preCu₁ heq
            rw [heq] at htry
            exact .after htry.touched (ih (s.setDev devId dev₁) preCu₁)
        · exact ih s preCu

theorem allocTwice_attempt (s : System) (prop : CuProperty) (policyInfo : Nat) :
    Attempt prop s.getNextAllocServiceId s (s.allocTwice prop policyInfo).1
      (s.allocTwice prop policyInfo).2.found := by
  have hfirst := allocPass_attempt prop policyInfo anyDevice inUse
    (List.range s.numDevice) s none
  rw [allocTwice]
  split
  · rename_i heq
    rw [heq] at hfirst
    exact hfirst
  · rename_i s₁ preCu heq
    rw [heq] at hfirst
    have hsecond := allocPass_attempt prop policyInfo anyDevice unused
      (List.range s₁.numDevice) s₁ preCu
    rw [hfirst.touched.nextId] at hsecond
    exact .after hfirst.touched hsecond

end System

end Xrm
