import Xrm.Verification.FirstFit
import Xrm.Verification.Twins

/-! # Requests on twin states

The same requests of a client give the same results on twin states, and leave twins again.
-/

namespace Xrm

variable {prop : CuProperty} {c policyInfo : Nat}

namespace System

variable {s t : System} {devWanted : DeviceData → Bool} {wanted : CuData → Bool}

/-! ## One CU -/

/-- A device that the client may not use is passed over. -/
theorem allocPass_skip {devId : Nat} {devIds : List Nat} {dev : DeviceData}
    (hdev : s.devList[devId]? = some dev) (hshape : dev.TableShape) (hno : ¬dev.Usable prop)
    (preCu : Option PreCu) :
    allocPass prop policyInfo devWanted wanted (devId :: devIds) s preCu =
      allocPass prop policyInfo devWanted wanted devIds s preCu := by
  rw [allocPass, hdev]
  simp only
  split
  · rename_i hfree
    rw [Bool.and_eq_true] at hfree
    have hload := DeviceData.isLoaded_of_isFreeForClient hfree.1
    have hrefused : dev.tryDevice devId prop s.getNextAllocServiceId policyInfo wanted preCu =
        (dev, .missed preCu) := by
      rw [DeviceData.tryDevice]
      split
      · rfl
      · rename_i dev₁ hreg
        exact absurd (DeviceData.usable_of_registered hshape hload hreg) hno
    have hself : s.setDev devId dev = s := by
      obtain ⟨hi, rfl⟩ := List.getElem?_eq_some_iff.mp hdev
      simp [setDev]
    rw [hrefused]
    simp only [hself]
  · rfl

namespace Twin

theorem allocPass (hc : prop.clientId ≠ 0) (hblind : Blind devWanted) (devIds : List Nat)
    (preCu : Option PreCu) (h : s.Twin prop.clientId t) :
    AlikeOn prop.clientId (System.allocPass prop policyInfo devWanted wanted devIds s preCu)
      (System.allocPass prop policyInfo devWanted wanted devIds t preCu) := by
  induction devIds generalizing s t preCu with
  | nil => exact ⟨h, rfl⟩
  | cons devId devIds ih =>
      rcases h.device devId with ⟨hnone, hnone'⟩ | ⟨dev, dev', hdev, hdev', htwin⟩
      · rw [System.allocPass, System.allocPass, hnone, hnone']
        exact ih preCu h
      by_cases husable : dev.Usable prop
      · have husable' := (htwin.access prop rfl).mpr husable
        have hwanted : devWanted dev' = devWanted dev := by
          rw [htwin.frame]
          apply hblind
        have htry := htwin.tryDevice husable.isLoaded hc devId s.getNextAllocServiceId policyInfo
          wanted preCu
        rw [System.allocPass, System.allocPass]
        simp only [hdev, hdev', husable.isFree, husable'.isFree, hwanted, h.nextId, Bool.true_and]
        split
        · generalize dev.tryDevice devId prop s.getNextAllocServiceId policyInfo wanted preCu = r
            at htry ⊢
          generalize dev'.tryDevice devId prop s.getNextAllocServiceId policyInfo wanted preCu = r'
            at htry ⊢
          obtain ⟨dev₁, r⟩ := r
          obtain ⟨dev₁', r'⟩ := r'
          obtain ⟨htwin₁, rfl⟩ := htry
          cases r' with
          | acquired res => exact ⟨h.setDev htwin₁ devId, rfl⟩
          | missed preCu₁ => exact ih preCu₁ (h.setDev htwin₁ devId)
        · exact ih preCu h
      · have husable' : ¬dev'.Usable prop := fun h => husable ((htwin.access prop rfl).mp h)
        rw [allocPass_skip hdev htwin.shape husable, allocPass_skip hdev' htwin.shape' husable']
        exact ih preCu h

theorem allocTwice (h : s.Twin prop.clientId t) (hc : prop.clientId ≠ 0) (policyInfo : Nat) :
    AlikeOn prop.clientId (s.allocTwice prop policyInfo) (t.allocTwice prop policyInfo) := by
  have hfirst : AlikeOn prop.clientId
      (System.allocPass prop policyInfo anyDevice inUse (List.range s.numDevice) s none)
      (System.allocPass prop policyInfo anyDevice inUse (List.range s.numDevice) t none) :=
    h.allocPass hc blind_anyDevice _ none
  rw [System.allocTwice, System.allocTwice, h.numDevice]
  generalize System.allocPass prop policyInfo anyDevice inUse (List.range s.numDevice) s none = r
    at hfirst ⊢
  generalize System.allocPass prop policyInfo anyDevice inUse (List.range s.numDevice) t none = r'
    at hfirst ⊢
  obtain ⟨s₁, r⟩ := r
  obtain ⟨t₁, r'⟩ := r'
  obtain ⟨htwin, rfl⟩ := hfirst
  cases r' with
  | acquired res => exact ⟨htwin, rfl⟩
  | missed preCu =>
      simp only
      rw [htwin.numDevice]
      exact htwin.allocPass hc blind_anyDevice _ preCu

theorem updateAllocServiceId (h : s.Twin c t) :
    s.updateAllocServiceId.Twin c t.updateAllocServiceId where
  frame := by
    rw [System.updateAllocServiceId, System.updateAllocServiceId, h.frame]
  devs := h.devs

theorem finishAlloc (h : s.Twin c t) (updateId : Bool) (res : CuResource) :
    AlikeOn c (s.finishAlloc updateId res) (t.finishAlloc updateId res) := by
  cases updateId with
  | false => exact ⟨h, rfl⟩
  | true => exact ⟨h.updateAllocServiceId, rfl⟩

theorem resAllocCu (h : s.Twin prop.clientId t) (hc : prop.clientId ≠ 0) (updateId : Bool) :
    AlikeOn prop.clientId (s.resAllocCu prop updateId) (t.resAllocCu prop updateId) := by
  have htwice := h.allocTwice hc policyNull
  rw [System.resAllocCu, System.resAllocCu]
  split
  · exact ⟨h, rfl⟩
  · generalize s.allocTwice prop policyNull = r at htwice ⊢
    generalize t.allocTwice prop policyNull = r' at htwice ⊢
    obtain ⟨s₁, r⟩ := r
    obtain ⟨t₁, r'⟩ := r'
    obtain ⟨htwin, rfl⟩ := htwice
    cases r' with
    | acquired res => exact htwin.finishAlloc updateId res
    | missed preCu => exact ⟨htwin, rfl⟩

/-! ## Releasing -/

theorem resReleaseCu {res : CuResource} (hc : res.clientId ≠ 0) (h : s.Twin res.clientId t) :
    AlikeOn res.clientId (s.resReleaseCu res) (t.resReleaseCu res) := by
  rw [System.resReleaseCu, System.resReleaseCu, h.numDevice]
  split
  · exact ⟨h, rfl⟩
  split
  · exact ⟨h, rfl⟩
  split
  · exact ⟨h, rfl⟩
  rcases h.device res.deviceId.toNat with ⟨hnone, hnone'⟩ | ⟨dev, dev', hdev, hdev', htwin⟩
  · rw [hnone, hnone']
    exact ⟨h, rfl⟩
  rw [hdev, hdev']
  simp only [htwin.isLoaded, htwin.cuList]
  split
  · exact ⟨h, rfl⟩
  split
  · exact ⟨h, rfl⟩
  · rename_i cu hcu
    obtain ⟨hrel, heq⟩ := htwin.releaseCu hc res.cuId.toNat cu
    exact ⟨h.setDev hrel _, heq⟩

theorem releaseInOrder (hc : c ≠ 0) (l : List CuResource) (hl : ∀ res ∈ l, res.clientId = c)
    (h : s.Twin c t) : AlikeOn c (System.releaseInOrder l s) (System.releaseInOrder l t) := by
  induction l generalizing s t with
  | nil => exact ⟨h, rfl⟩
  | cons res rest ih =>
      obtain rfl := hl res (by simp)
      have hone := h.resReleaseCu hc
      rw [System.releaseInOrder, System.releaseInOrder]
      generalize s.resReleaseCu res = r at hone ⊢
      generalize t.resReleaseCu res = r' at hone ⊢
      obtain ⟨s₁, r⟩ := r
      obtain ⟨t₁, r'⟩ := r'
      obtain ⟨htwin, rfl⟩ := hone
      cases r' with
      | ok u => exact ih (fun res hres => hl res (by simp [hres])) htwin
      | error e => exact ⟨htwin, rfl⟩

/-! ## Lists -/

theorem allocItems (hc : c ≠ 0) (props : List CuProperty)
    (hprops : ∀ prop ∈ props, prop.clientId = c) (done : List CuResource)
    (hdone : ∀ res ∈ done, res.clientId = c) (h : s.Twin c t) :
    AlikeOn c (System.allocItems props s done) (System.allocItems props t done) := by
  induction props generalizing s t done with
  | nil => exact ⟨h, rfl⟩
  | cons prop props ih =>
      obtain rfl := hprops prop (by simp)
      have hone := h.resAllocCu hc false
      have hclient : ∀ res, (s.resAllocCu prop false).2 = .ok res →
          res.clientId = prop.clientId := fun _ hres =>
        (s.resAllocCu_allocates prop false).clientId hres
      rw [System.allocItems, System.allocItems]
      generalize s.resAllocCu prop false = r at hone hclient ⊢
      generalize t.resAllocCu prop false = r' at hone ⊢
      obtain ⟨s₁, r⟩ := r
      obtain ⟨t₁, r'⟩ := r'
      obtain ⟨htwin, rfl⟩ := hone
      cases r' with
      | ok res =>
          refine ih (fun p hp => hprops p (by simp [hp])) _ ?_ htwin
          intro r hr
          rcases List.mem_append.mp hr with hr | hr
          · exact hdone r hr
          · rw [List.mem_singleton.mp hr]
            exact hclient res rfl
      | error e => exact ⟨(htwin.releaseInOrder hc done hdone).1, rfl⟩

/-- The search on a device that the client is registered on. -/
theorem allocCuFromDev {dev dev' : DeviceData} (h : s.Twin c t)
    (hdev : dev.Twin prop.clientId dev') (devId : Nat) :
    (∃ dev₁ dev₁' res, s.allocCuFromDev devId dev prop = .ok (dev₁, res) ∧
      t.allocCuFromDev devId dev' prop = .ok (dev₁', res) ∧ dev₁.Twin prop.clientId dev₁') ∨
        (∃ e, s.allocCuFromDev devId dev prop = .error e) ∧
          ∃ e, t.allocCuFromDev devId dev' prop = .error e := by
  rw [System.allocCuFromDev, System.allocCuFromDev, h.nextId, hdev.cuList]
  split
  · exact .inr ⟨⟨_, rfl⟩, _, rfl⟩
  cases searchCuTwice prop s.getNextAllocServiceId policyNull devId dev.cuList with
  | acquired cuId cu chanId =>
      refine .inl ⟨_, _, _, rfl, ?_, hdev.grant prop cuId cu⟩
      simp only [hdev.grantedResource]
  | missed preCu => exact .inr ⟨⟨_, rfl⟩, _, rfl⟩

theorem allocItemsOnDev (hc : c ≠ 0) (devId : Nat) (props : List CuProperty)
    (hprops : ∀ prop ∈ props, prop.clientId = c) (done : List CuResource)
    (hdone : ∀ res ∈ done, res.clientId = c)
    (hload : ∀ dev, s.devList[devId]? = some dev → dev.isLoaded = true) (h : s.Twin c t) :
    AlikeOn c (System.allocItemsOnDev devId props s done)
      (System.allocItemsOnDev devId props t done) := by
  induction props generalizing s t done with
  | nil => exact ⟨h, rfl⟩
  | cons prop props ih =>
      obtain rfl := hprops prop (by simp)
      have hback := h.releaseInOrder hc done hdone
      rcases h.device devId with ⟨hnone, hnone'⟩ | ⟨dev, dev', hdev, hdev', htwin⟩
      · rw [System.allocItemsOnDev, System.allocItemsOnDev, hnone, hnone']
        exact ⟨hback.1, rfl⟩
      rcases htwin.registers (hload dev hdev) hc with
        ⟨dev₁, dev₁', hreg, hreg', htwin₁⟩ | ⟨⟨e, hreg⟩, e', hreg'⟩
      · rcases h.allocCuFromDev htwin₁ devId with
          ⟨dev₂, dev₂', res, halloc, halloc', htwin₂⟩ | ⟨⟨e, halloc⟩, e', halloc'⟩
        · obtain ⟨-, hgrab⟩ := allocCuFromDev_ok hreg halloc
          rw [System.allocItemsOnDev, System.allocItemsOnDev, hdev, hdev']
          simp only [hreg, hreg', halloc, halloc']
          refine ih (fun p hp => hprops p (by simp [hp])) _ ?_ ?_ (h.setDev htwin₂ devId)
          · intro r hr
            rcases List.mem_append.mp hr with hr | hr
            · exact hdone r hr
            · rw [List.mem_singleton.mp hr]
              exact hgrab.clientId
          · intro x hx
            rw [getElem?_setDev_self hdev, Option.some.injEq] at hx
            rw [← hx, grab_isLoaded hgrab]
            exact hload dev hdev
        · rw [System.allocItemsOnDev, System.allocItemsOnDev, hdev, hdev']
          simp only [hreg, hreg', halloc, halloc']
          exact ⟨((h.setDev (htwin₁.dropClient hc) devId).releaseInOrder hc done hdone).1, rfl⟩
      · rw [System.allocItemsOnDev, System.allocItemsOnDev, hdev, hdev']
        simp only [hreg, hreg']
        exact ⟨hback.1, rfl⟩

/-- A device that the client of the first item may not use is passed over. -/
theorem allocOnSameDevice_skip {props : List CuProperty} {usedDevIds devIds : List Nat}
    {devId : Nat} {dev : DeviceData} (hdev : s.devList[devId]? = some dev)
    (hshape : dev.TableShape) (hno : ¬dev.Usable prop) :
    System.allocOnSameDevice (prop :: props) usedDevIds (devId :: devIds) s =
      System.allocOnSameDevice (prop :: props) usedDevIds devIds s := by
  rw [System.allocOnSameDevice, hdev]
  split
  · rename_i hfree
    rw [Bool.and_eq_true] at hfree
    have hload := DeviceData.isLoaded_of_isFreeForClient hfree.1
    have hrefused : System.allocItemsOnDev devId (prop :: props) s [] = (s, none) := by
      rw [System.allocItemsOnDev, hdev]
      simp only
      split
      · rfl
      · rename_i dev₁ hreg
        exact absurd (DeviceData.usable_of_registered hshape hload hreg) hno
    rw [hrefused]
  · rfl

theorem allocOnSameDevice {props : List CuProperty} (usedDevIds devIds : List Nat)
    (hprops : ∀ p ∈ prop :: props, p.clientId = prop.clientId) (hc : prop.clientId ≠ 0)
    (h : s.Twin prop.clientId t) : AlikeOn prop.clientId
      (System.allocOnSameDevice (prop :: props) usedDevIds devIds s)
      (System.allocOnSameDevice (prop :: props) usedDevIds devIds t) := by
  induction devIds generalizing s t with
  | nil => exact ⟨h, rfl⟩
  | cons devId devIds ih =>
      rcases h.device devId with ⟨hnone, hnone'⟩ | ⟨dev, dev', hdev, hdev', htwin⟩
      · rw [System.allocOnSameDevice, System.allocOnSameDevice, hnone, hnone']
        exact ih h
      by_cases husable : dev.Usable prop
      · have husable' := (htwin.access prop rfl).mpr husable
        have hitems := h.allocItemsOnDev hc devId (prop :: props) hprops [] (by simp)
          fun x hx => by
            rw [hdev, Option.some.injEq] at hx
            rw [← hx]
            exact husable.isLoaded
        rw [System.allocOnSameDevice, System.allocOnSameDevice, hdev, hdev']
        simp only [List.head?_cons, Option.map_some, Option.getD_some, husable.isFree,
          husable'.isFree, Bool.true_and]
        split
        · generalize System.allocItemsOnDev devId (prop :: props) s [] = r at hitems ⊢
          generalize System.allocItemsOnDev devId (prop :: props) t [] = r' at hitems ⊢
          obtain ⟨s₁, r⟩ := r
          obtain ⟨t₁, r'⟩ := r'
          obtain ⟨htwin₁, rfl⟩ := hitems
          cases r' with
          | none => exact ih htwin₁
          | some done => exact ⟨htwin₁, rfl⟩
        · exact ih h
      · have husable' : ¬dev'.Usable prop := fun h => husable ((htwin.access prop rfl).mp h)
        rw [allocOnSameDevice_skip hdev htwin.shape husable,
          allocOnSameDevice_skip hdev' htwin.shape' husable']
        exact ih h

theorem resAllocCuList {listProp : CuListProperty} (hc : c ≠ 0)
    (hprops : ∀ prop ∈ listProp.items, prop.clientId = c)
    (hfilled : 0 < listProp.cuNum → listProp.items ≠ []) (h : s.Twin c t) :
    AlikeOn c (s.resAllocCuList listProp) (t.resAllocCuList listProp) := by
  rw [System.resAllocCuList, System.resAllocCuList]
  split
  · exact ⟨h, rfl⟩
  rename_i hnum
  split
  · cases hitems : listProp.items with
    | nil => exact absurd hitems (hfilled (by omega))
    | cons prop props =>
        rw [hitems] at hprops
        obtain rfl := hprops prop (by simp)
        have hsame := h.allocOnSameDevice [] (List.range s.numDevice) hprops hc
        rw [h.numDevice]
        generalize System.allocOnSameDevice (prop :: props) [] (List.range s.numDevice) s = r
          at hsame ⊢
        generalize System.allocOnSameDevice (prop :: props) [] (List.range s.numDevice) t = r'
          at hsame ⊢
        obtain ⟨s₁, r⟩ := r
        obtain ⟨t₁, r'⟩ := r'
        obtain ⟨htwin, rfl⟩ := hsame
        cases r' with
        | none => exact ⟨htwin, rfl⟩
        | some found => exact ⟨htwin.updateAllocServiceId, rfl⟩
  · have hall := h.allocItems hc listProp.items hprops [] (by simp)
    generalize System.allocItems listProp.items s [] = r at hall ⊢
    generalize System.allocItems listProp.items t [] = r' at hall ⊢
    obtain ⟨s₁, r⟩ := r
    obtain ⟨t₁, r'⟩ := r'
    obtain ⟨htwin, rfl⟩ := hall
    cases r' with
    | none => exact ⟨htwin, rfl⟩
    | some done => exact ⟨htwin.updateAllocServiceId, rfl⟩

end Twin

end System

end Xrm
