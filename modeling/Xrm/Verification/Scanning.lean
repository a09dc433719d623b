import Xrm.Verification.Serving

/-! # The search as a scan

The CU loops and the device loops of the allocations, registering and dropping the client as
they go, find what one scan over the matching CUs of the usable devices finds.
-/

namespace Xrm

open Choice

variable {prop : CuProperty} {svc policyInfo devId : Nat} {wanted : CuData → Bool}

/-! ## The CUs of one device -/

/-- The wanted CUs of a list that match the request, from CU `cuId` on. -/
def matching (prop : CuProperty) (wanted : CuData → Bool) (devId : Nat) :
    Nat → List CuData → List PreCu
  | _, [] => []
  | cuId, cu :: cus =>
      if wanted cu && cu.matchesCu prop then
        { devId := devId, cuId := cuId, cu := cu } :: matching prop wanted devId (cuId + 1) cus
      else matching prop wanted devId (cuId + 1) cus

def choose (prop : CuProperty) (policyInfo : Nat) (best : Option PreCu) (l : List PreCu) :
    Outcome PreCu :=
  scan (fun q => decide (q.cu.Settles prop policyInfo))
    (fun q => decide (q.cu.Fits prop ∧ q.cu.Defers prop policyInfo))
    (fun q r => q.cu.beats prop policyInfo r.cu) best l

/-- The CUs in the order of the search that have room but that the policy passes over at first:
the request does not fill their share, or the share is in use. -/
def waiting (prop : CuProperty) (policyInfo : Nat) (l : List PreCu) : List PreCu :=
  l.filter fun q => decide (q.cu.Fits prop ∧ q.cu.Defers prop policyInfo)

/-- The CU on which a search ends: the first one that the policy takes at once or, when there is
none, a waiting one that beats the one remembered before it and that none after it beats. -/
def EndsOn (prop : CuProperty) (policyInfo : Nat) (l : List PreCu) (q : PreCu) : Prop :=
  l.find? (fun q => decide (q.cu.Settles prop policyInfo)) = some q ∨
    (∀ q ∈ l, ¬q.cu.Settles prop policyInfo) ∧
      ∃ before after, waiting prop policyInfo l = before ++ q :: after ∧
        (∀ r, keep (fun q r : PreCu => q.cu.beats prop policyInfo r.cu) none before = some r →
          q.cu.beats prop policyInfo r.cu = true) ∧
        ∀ r ∈ after, r.cu.beats prop policyInfo q.cu = false

theorem choose_chosen_iff {l : List PreCu} {q : PreCu} :
    (choose prop policyInfo none l).chosen = some q ↔ EndsOn prop policyInfo l q := by
  rw [choose, scan_chosen_eq_some_iff, EndsOn, waiting]
  refine or_congr .rfl (and_congr (by simp) ?_)
  refine exists₂_congr fun before after => and_congr_right fun _ => and_congr ?_ .rfl
  cases keep (fun q r : PreCu => q.cu.beats prop policyInfo r.cu) none before <;> simp

theorem EndsOn.fits {l : List PreCu} {q : PreCu} (h : EndsOn prop policyInfo l q) :
    q ∈ l ∧ q.cu.Fits prop := by
  obtain ⟨hmem, hcan⟩ := scan_chosen (choose_chosen_iff.mpr h)
  rw [decide_eq_true_iff, decide_eq_true_iff] at hcan
  rcases hcan with hs | hd
  · exact ⟨hmem, hs.fits⟩
  · exact ⟨hmem, hd.1⟩

theorem mem_matching {k : Nat} {cus : List CuData} {q : PreCu} :
    q ∈ matching prop wanted devId k cus ↔
      q.devId = devId ∧ k ≤ q.cuId ∧ cus[q.cuId - k]? = some q.cu ∧ wanted q.cu = true ∧
        q.cu.matchesCu prop = true := by
  induction cus generalizing k with
  | nil => simp [matching]
  | cons cu cus ih =>
      have hrest : q ∈ matching prop wanted devId (k + 1) cus ↔
          q.devId = devId ∧ k + 1 ≤ q.cuId ∧ (cu :: cus)[q.cuId - k]? = some q.cu ∧
            wanted q.cu = true ∧ q.cu.matchesCu prop = true := by
        rw [ih]
        refine and_congr_right fun _ => and_congr_right fun hle => ?_
        rw [show q.cuId - k = (q.cuId - (k + 1)) + 1 by omega, List.getElem?_cons_succ]
      have hfirst : (cu :: cus)[q.cuId - k]? = some q.cu → q.cuId = k → q.cu = cu := by
        intro hget heq
        rw [heq, Nat.sub_self, List.getElem?_cons_zero, Option.some.injEq] at hget
        exact hget.symm
      rw [matching]
      split
      · rename_i hw
        rw [Bool.and_eq_true] at hw
        rw [List.mem_cons, hrest]
        constructor
        · rintro (rfl | ⟨hdev, hle, h⟩)
          · simp [hw]
          · exact ⟨hdev, by omega, h⟩
        · rintro ⟨hdev, hle, hget, hspec⟩
          by_cases heq : q.cuId = k
          · refine .inl ?_
            cases q
            simp only [PreCu.mk.injEq]
            exact ⟨hdev, heq, hfirst hget heq⟩
          · exact .inr ⟨hdev, by omega, hget, hspec⟩
      · rename_i hw
        rw [hrest]
        constructor
        · rintro ⟨hdev, hle, h⟩
          exact ⟨hdev, by omega, h⟩
        · rintro ⟨hdev, hle, hget, hspec⟩
          refine ⟨hdev, ?_, hget, hspec⟩
          by_contra hlt
          rw [hfirst hget (by omega)] at hspec
          simp [hspec] at hw

/-- The outcome of a search beside that of a scan. -/
inductive Found (prop : CuProperty) (svc policyInfo : Nat) : CuSearch → Outcome PreCu → Prop where
  | acquired {q : PreCu} {pre : Option CuData} {cu' : CuData} {chanId : Nat}
      (h : q.cu.allocChanClientFromCu prop svc policyInfo pre = .allocated cu' chanId) :
      Found prop svc policyInfo (.acquired q.cuId cu' chanId) (.settled q)
  | missed {best : Option PreCu} : Found prop svc policyInfo (.missed best) (.remembered best)

/-- The CU loop is a scan over the matching CUs. -/
theorem searchCu_found (hs : prop.Bounded) (k : Nat) (cus : List CuData) (best : Option PreCu)
    (hcons : ∀ cu ∈ cus, cu.Consistent) :
    Found prop svc policyInfo (searchCu prop svc policyInfo wanted devId k cus best)
      (choose prop policyInfo best (matching prop wanted devId k cus)) := by
  induction cus generalizing k best with
  | nil => exact .missed
  | cons cu cus ih =>
      have hrest := fun best => ih (k + 1) best fun cu hcu => hcons cu (by simp [hcu])
      have hcu := hcons cu (by simp)
      rw [searchCu, matching]
      split
      case isFalse => exact hrest best
      rw [choose, scan]
      by_cases hsettles : cu.Settles prop policyInfo
      · obtain ⟨cu', chanId, halloc⟩ := hsettles.allocated hcu hs svc (best.map (·.cu))
        rw [halloc, if_pos (by simpa using hsettles)]
        exact .acquired (q := { devId := devId, cuId := k, cu := cu }) halloc
      rw [if_neg (by simpa using hsettles)]
      by_cases hdefers : cu.Fits prop ∧ cu.Defers prop policyInfo
      · rw [CuData.furtherCheck_of_defers hdefers.2 hdefers.1 hcu hs,
          if_pos (by simpa using hdefers), better]
        cases hbeats : best.all fun r => cu.beats prop policyInfo r.cu with
        | true =>
            have hall : (best.map (·.cu)).all (cu.beats prop policyInfo) = true := by
              cases best with
              | none => rfl
              | some r => exact hbeats
            rw [hall]
            exact hrest _
        | false =>
            have hall : (best.map (·.cu)).all (cu.beats prop policyInfo) = false := by
              cases best with
              | none => simp at hbeats
              | some r => exact hbeats
            rw [hall]
            exact hrest best
      · rw [CuData.refused_of_not_settles hsettles hdefers hcu hs, if_neg (by simpa using hdefers)]
        exact hrest best

theorem searchCuTwice_found (hs : prop.Bounded) (cus : List CuData)
    (hcons : ∀ cu ∈ cus, cu.Consistent) :
    Found prop svc policyInfo (searchCuTwice prop svc policyInfo devId cus)
      (choose prop policyInfo none
        (matching prop inUse devId 0 cus ++ matching prop unused devId 0 cus)) := by
  have hfirst := @searchCu_found _ svc policyInfo devId inUse hs 0 cus none hcons
  rw [choose, scan_append, searchCuTwice]
  rw [choose] at hfirst
  generalize scan (fun q : PreCu => decide (q.cu.Settles prop policyInfo))
    (fun q => decide (q.cu.Fits prop ∧ q.cu.Defers prop policyInfo))
    (fun q r => q.cu.beats prop policyInfo r.cu) none (matching prop inUse devId 0 cus) = o
    at hfirst ⊢
  generalize searchCu prop svc policyInfo inUse devId 0 cus none = search at hfirst ⊢
  cases hfirst with
  | acquired h => exact .acquired h
  | missed => exact searchCu_found hs 0 cus _ hcons

/-! ## The CUs of several devices -/

inductive PassFound : PassResult → Outcome PreCu → Prop where
  | acquired {res : CuResource} {q : PreCu} (hdev : res.deviceId = q.devId)
      (hcu : res.cuId = q.cuId) : PassFound (.acquired res) (.settled q)
  | missed {best : Option PreCu} : PassFound (.missed best) (.remembered best)

theorem Found.settle {search : CuSearch} {o : Outcome PreCu}
    (h : Found prop svc policyInfo search o)
    (dev : DeviceData) (hdev : ∀ q, o = .settled q → q.devId = devId) :
    PassFound (dev.settle devId prop svc search).2 o := by
  cases h with
  | acquired h => exact .acquired (by rw [hdev _ rfl]; rfl) rfl
  | missed => exact .missed

/-- The result of an allocation is on the CU that was chosen. -/
inductive Picks : Except XrmError CuResource → Option PreCu → Prop where
  | ok {res : CuResource} {q : PreCu} (hdev : res.deviceId = q.devId) (hcu : res.cuId = q.cuId) :
      Picks (.ok res) (some q)
  | error {e : XrmError} : Picks (.error e) none

/-- Without a policy nothing is remembered. -/
theorem choose_null_remembered {l : List PreCu} {best : Option PreCu}
    (h : choose prop policyNull none l = .remembered best) : best = none := by
  obtain ⟨-, hkeep⟩ := scan_remembered_iff.mp h
  rw [← hkeep, keep_eq_none_iff, List.filter_eq_nil_iff]
  intro q _
  simp [CuData.not_defers_null]

theorem choose_settled_mem {best : Option PreCu} {l : List PreCu} {q : PreCu}
    (h : choose prop policyInfo best l = .settled q) : q ∈ l :=
  List.mem_of_find?_eq_some (scan_settled_iff.mp h)

namespace System

variable {D : Discipline} {s s' : System} {devWanted : DeviceData → Bool}

/-- The wanted CUs on the usable devices, in the order of the devices. -/
def offered (s : System) (prop : CuProperty) (devWanted : DeviceData → Bool)
    (wanted : CuData → Bool) (devIds : List Nat) : List PreCu :=
  devIds.flatMap fun devId =>
    match s.devList[devId]? with
    | none => []
    | some dev =>
        if dev.Usable prop ∧ devWanted dev = true then matching prop wanted devId 0 dev.cuList
        else []

/-- A CU that the request's client may ask for: it stands at its place on a usable device, and
its names match. -/
structure Asks (s : System) (prop : CuProperty) (q : PreCu) : Prop where
  device : ∃ dev, s.devList[q.devId]? = some dev ∧ dev.Usable prop ∧
    dev.cuList[q.cuId]? = some q.cu
  names : q.cu.matchesCu prop = true

theorem mem_offered {devIds : List Nat} {q : PreCu} :
    q ∈ s.offered prop devWanted wanted devIds ↔
      q.devId ∈ devIds ∧ wanted q.cu = true ∧ q.cu.matchesCu prop = true ∧
        ∃ dev, s.devList[q.devId]? = some dev ∧ dev.Usable prop ∧ devWanted dev = true ∧
          dev.cuList[q.cuId]? = some q.cu := by
  rw [offered, List.mem_flatMap]
  constructor
  · rintro ⟨devId, hmem, hq⟩
    cases hdev : s.devList[devId]? with
    | none => simp [hdev] at hq
    | some dev =>
        rw [hdev] at hq
        simp only at hq
        split at hq
        · rename_i hok
          obtain ⟨rfl, -, hget, hw, hmatch⟩ := mem_matching.mp hq
          exact ⟨hmem, hw, hmatch, dev, hdev, hok.1, hok.2, hget⟩
        · simp at hq
  · rintro ⟨hmem, hw, hmatch, dev, hdev, husable, hwanted, hget⟩
    refine ⟨q.devId, hmem, ?_⟩
    rw [hdev]
    simp only
    rw [if_pos ⟨husable, hwanted⟩, mem_matching]
    exact ⟨rfl, Nat.zero_le _, hget, hw, hmatch⟩

theorem offered_cons (devId : Nat) (devIds : List Nat) :
    s.offered prop devWanted wanted (devId :: devIds) =
      s.offered prop devWanted wanted [devId] ++ s.offered prop devWanted wanted devIds := by
  simp [offered]

/-- A test of devices that does not look at the client table. -/
def Blind (devWanted : DeviceData → Bool) : Prop :=
  ∀ (dev : DeviceData) (isExcl : Bool) (clientProcs : List ClientData),
    devWanted { dev with isExcl := isExcl, clientProcs := clientProcs } = devWanted dev

theorem blind_anyDevice : Blind anyDevice := fun _ _ _ => rfl

/-- Registering and dropping the client changes nothing about what is offered. -/
theorem TouchStep.offered (h : TouchStep prop s s') (hsound : s.Sound D) (hc : prop.clientId ≠ 0)
    (hblind : Blind devWanted) (wanted : CuData → Bool) (devIds : List Nat) :
    s'.offered prop devWanted wanted devIds = s.offered prop devWanted wanted devIds := by
  obtain ⟨i, dev, dev', hdev, htouch, rfl⟩ := h
  have hshape := (hsound dev (List.mem_of_getElem? hdev)).shape
  rw [System.offered, System.offered]
  congr 1
  funext devId
  by_cases hi : i = devId
  · subst hi
    have hwanted : devWanted dev' = devWanted dev := by
      rw [htouch.frame]
      exact hblind dev _ _
    rw [getElem?_setDev_self hdev dev', hdev]
    simp only [htouch.usable_iff hshape hc rfl, hwanted, htouch.cuList]
  · rw [getElem?_setDev_ne hi]

theorem Touched.offered (h : Touched prop s s') (hsound : s.Sound D) (hc : prop.clientId ≠ 0)
    (hblind : Blind devWanted) (wanted : CuData → Bool) (devIds : List Nat) :
    s'.offered prop devWanted wanted devIds = s.offered prop devWanted wanted devIds := by
  induction h with
  | refl => rfl
  | tail hprev hstep ih =>
      have hprev' : Touched prop s _ := hprev
      rw [hstep.offered ((hprev'.evolves hc).sound hsound) hc hblind, ih]

theorem Touched.numDevice (h : Touched prop s s') : s'.numDevice = s.numDevice := by
  induction h with
  | refl => rfl
  | tail _ hstep ih =>
      obtain ⟨i, dev, dev', -, -, rfl⟩ := hstep
      rw [numDevice_setDev, ih]

theorem tryDevice_found (hsound : s.Sound D) (hs : prop.Bounded) {dev : DeviceData}
    (hdev : s.devList[devId]? = some dev) (husable : dev.Usable prop) (best : Option PreCu) :
    PassFound (dev.tryDevice devId prop svc policyInfo wanted best).2
      (choose prop policyInfo best (matching prop wanted devId 0 dev.cuList)) := by
  obtain ⟨dev₁, hreg⟩ := husable.registers
  have hcons := (hsound dev (List.mem_of_getElem? hdev)).consistent
  rw [DeviceData.tryDevice, hreg, ← DeviceData.registered_cuList hreg]
  rw [← DeviceData.registered_cuList hreg] at hcons
  refine (searchCu_found hs 0 dev₁.cuList best hcons).settle dev₁ fun q hq => ?_
  exact (mem_matching.mp (choose_settled_mem hq)).1

/-- The device loop is a scan over what the usable devices offer. -/
theorem allocPass_found (hsound : s.Sound D) (hs : prop.Bounded) (hblind : Blind devWanted)
    (devIds : List Nat) (best : Option PreCu) :
    PassFound (allocPass prop policyInfo devWanted wanted devIds s best).2
      (choose prop policyInfo best (s.offered prop devWanted wanted devIds)) := by
  induction devIds generalizing s best with
  | nil => exact .missed
  | cons devId devIds ih =>
      have hskip : s.offered prop devWanted wanted [devId] = [] →
          choose prop policyInfo best (s.offered prop devWanted wanted (devId :: devIds)) =
            choose prop policyInfo best (s.offered prop devWanted wanted devIds) := by
        intro h
        rw [offered_cons, h, List.nil_append]
      rw [allocPass]
      split
      · rename_i hnone
        rw [hskip (by simp [System.offered, hnone])]
        exact ih hsound best
      rename_i dev hdev
      have hshape := (hsound dev (List.mem_of_getElem? hdev)).shape
      split
      case isFalse hno =>
        rw [hskip]
        · exact ih hsound best
        · have hnot : ¬(dev.Usable prop ∧ devWanted dev = true) := by
            rintro ⟨husable, hwanted⟩
            exact hno (by simp [husable.isFree, hwanted])
          simp [System.offered, hdev, hnot]
      rename_i hyes
      rw [Bool.and_eq_true] at hyes
      have hload := DeviceData.isLoaded_of_isFreeForClient hyes.1
      by_cases husable : dev.Usable prop
      · have hone : s.offered prop devWanted wanted [devId] =
            matching prop wanted devId 0 dev.cuList := by
          simp [System.offered, hdev, husable, hyes.2]
        have hfound := @tryDevice_found _ s.getNextAllocServiceId policyInfo _ wanted _ _ hsound hs
          _ hdev husable best
        have hattempt := attempt_of_tryDevice prop s.getNextAllocServiceId policyInfo wanted best
          hdev hload
        rw [offered_cons, hone, choose, scan_append]
        rw [choose] at hfound
        generalize scan (fun q : PreCu => decide (q.cu.Settles prop policyInfo))
          (fun q => decide (q.cu.Fits prop ∧ q.cu.Defers prop policyInfo))
          (fun q r => q.cu.beats prop policyInfo r.cu) best
          (matching prop wanted devId 0 dev.cuList) = o at hfound ⊢
        generalize dev.tryDevice devId prop s.getNextAllocServiceId policyInfo wanted best = r
          at hfound hattempt ⊢
        obtain ⟨dev', r⟩ := r
        cases hfound with
        | acquired hd hc => exact .acquired hd hc
        | missed =>
            have htouch := hattempt.touched
            rw [← htouch.offered hsound hs.1 hblind]
            exact ih ((htouch.evolves hs.1).sound hsound) _
      · have hrefused : dev.tryDevice devId prop s.getNextAllocServiceId policyInfo wanted best =
            (dev, .missed best) := by
          rw [DeviceData.tryDevice]
          split
          · rfl
          · rename_i dev₁ hreg
            exact absurd (DeviceData.usable_of_registered hshape hload hreg) husable
        have hself : s.setDev devId dev = s := by
          obtain ⟨hi, rfl⟩ := List.getElem?_eq_some_iff.mp hdev
          simp [setDev]
        rw [hrefused, hskip (by simp [System.offered, hdev, husable])]
        simp only [hself]
        exact ih hsound best

/-- The matching CUs on the usable devices: first those in use, then the others. -/
def inTurn (s : System) (prop : CuProperty) : List PreCu :=
  s.offered prop anyDevice inUse (List.range s.numDevice) ++
    s.offered prop anyDevice unused (List.range s.numDevice)

theorem allocTwice_found (hsound : s.Sound D) (hs : prop.Bounded) (policyInfo : Nat) :
    PassFound (s.allocTwice prop policyInfo).2
      (choose prop policyInfo none (s.inTurn prop)) := by
  have hfirst := @allocPass_found _ policyInfo inUse _ _ _ hsound hs blind_anyDevice
    (List.range s.numDevice) none
  have hattempt := allocPass_attempt prop policyInfo anyDevice inUse
    (List.range s.numDevice) s none
  rw [inTurn, choose, scan_append, allocTwice]
  rw [choose] at hfirst
  generalize scan (fun q : PreCu => decide (q.cu.Settles prop policyInfo))
    (fun q => decide (q.cu.Fits prop ∧ q.cu.Defers prop policyInfo))
    (fun q r => q.cu.beats prop policyInfo r.cu) none
    (s.offered prop anyDevice inUse (List.range s.numDevice)) = o at hfirst ⊢
  generalize allocPass prop policyInfo anyDevice inUse (List.range s.numDevice) s none = r
    at hfirst hattempt ⊢
  obtain ⟨s₁, r⟩ := r
  cases hfirst with
  | acquired hd hc => exact .acquired hd hc
  | missed =>
      have htouch := hattempt.touched
      have hev : Develops D s s₁ := htouch.evolves hs.1
      have hnum : s₁.numDevice = s.numDevice := htouch.numDevice
      rw [← htouch.offered hsound hs.1 blind_anyDevice, ← hnum]
      exact allocPass_found (hev.sound hsound) hs blind_anyDevice _ _

theorem mem_inTurn {q : PreCu} : q ∈ s.inTurn prop ↔ s.Asks prop q := by
  have hlt : ∀ dev, s.devList[q.devId]? = some dev → q.devId < s.numDevice := fun dev h =>
    (List.getElem?_eq_some_iff.mp h).1
  rw [inTurn, List.mem_append, mem_offered, mem_offered]
  constructor
  · rintro (⟨-, -, hmatch, dev, hdev, husable, -, hget⟩ |
      ⟨-, -, hmatch, dev, hdev, husable, -, hget⟩)
    · exact ⟨⟨dev, hdev, husable, hget⟩, hmatch⟩
    · exact ⟨⟨dev, hdev, husable, hget⟩, hmatch⟩
  · rintro ⟨⟨dev, hdev, husable, hget⟩, hmatch⟩
    have hmem : q.devId ∈ List.range s.numDevice := List.mem_range.mpr (hlt dev hdev)
    by_cases huse : q.cu.numClient = 0
    · exact .inr ⟨hmem, by simpa [unused] using huse, hmatch, dev, hdev, husable, rfl, hget⟩
    · refine .inl ⟨hmem, ?_, hmatch, dev, hdev, husable, rfl, hget⟩
      simp only [inUse, decide_eq_true_eq]
      omega

theorem Asks.ext {q q' : PreCu} (h : s.Asks prop q) (h' : s.Asks prop q')
    (hdev : q.devId = q'.devId) (hcu : q.cuId = q'.cuId) : q = q' := by
  obtain ⟨⟨dev, hd, -, hget⟩, -⟩ := h
  obtain ⟨⟨dev', hd', -, hget'⟩, -⟩ := h'
  rw [hdev, hd', Option.some.injEq] at hd
  subst hd
  rw [hcu, hget', Option.some.injEq] at hget
  cases q
  cases q'
  simp_all

end System

end Xrm
