import Xrm.Verification.LoadPolicy
import Xrm.Verification.Numbering

/-! # Allocation by the load of the devices

The comparison of two load records is no strict weak order. It sorts the records all the same
when they come in the order of their numbers, as they do in every state the daemon reaches.
-/

namespace Xrm

open Choice

variable {prop : CuProperty} {propV2 : CuPropertyV2} {policyInfo devId : Nat}

/-! ## The comparison -/

/-- A comparison is a strict weak order on the elements of a list. -/
structure StrictWeakOn {α : Type*} (less : α → α → Bool) (l : List α) : Prop where
  irrefl : ∀ a ∈ l, less a a = false
  trans : ∀ a ∈ l, ∀ b ∈ l, ∀ c ∈ l, less a b = true → less b c = true → less a c = true
  incomparable : ∀ a ∈ l, ∀ b ∈ l, ∀ c ∈ l, less a b = false → less b a = false →
    less b c = false → less c b = false → less a c = false ∧ less c a = false

namespace DeviceLoadInfo

variable {a b info last : DeviceLoadInfo} {infos l sorted : List DeviceLoadInfo}

/-- The record with the lower rate has the higher number. -/
def Inverted (a b : DeviceLoadInfo) : Prop :=
  a.devLoadRate < b.devLoadRate ∧ b.deviceId < a.deviceId

def NoInversion (infos : List DeviceLoadInfo) : Prop :=
  ∀ a ∈ infos, ∀ b ∈ infos, ¬Inverted a b

theorem less_iff : a.less b = true ↔ a.devLoadRate < b.devLoadRate ∨ a.deviceId < b.deviceId := by
  simp [less]

theorem not_less_iff :
    a.less b = false ↔ b.devLoadRate ≤ a.devLoadRate ∧ b.deviceId ≤ a.deviceId := by
  simp [less]

/-- Of two inverted records each is less than the other one; without any, the rates and the
numbers never disagree. -/
theorem strictWeakOn_iff : StrictWeakOn less infos ↔ NoInversion infos := by
  constructor
  · rintro ⟨hirrefl, htrans, -⟩ a ha b hb ⟨hrate, hid⟩
    have hself := htrans a ha b hb a ha (less_iff.mpr (.inl hrate)) (less_iff.mpr (.inr hid))
    rw [hirrefl a ha] at hself
    simp at hself
  · intro h
    refine ⟨fun a _ => not_less_iff.mpr ⟨le_refl _, le_refl _⟩, ?_, ?_⟩
    · intro a ha b hb c hc hab hbc
      have h₁ := h a ha b hb
      have h₂ := h b hb a ha
      have h₃ := h b hb c hc
      have h₄ := h c hc b hb
      rw [less_iff] at hab hbc ⊢
      simp only [Inverted] at h₁ h₂ h₃ h₄
      omega
    · intro a _ b _ c _ hab hba hbc hcb
      rw [not_less_iff] at hab hba hbc hcb
      rw [not_less_iff, not_less_iff]
      omega

/-! ## The sort -/

/-- The rates of the records rise. -/
def ByRate (l : List DeviceLoadInfo) : Prop :=
  l.Pairwise fun a b => a.devLoadRate ≤ b.devLoadRate

theorem linearInsert_perm (info : DeviceLoadInfo) (l : List DeviceLoadInfo) :
    (linearInsert info l).Perm (info :: l) := by
  induction l with
  | nil => exact .refl _
  | cons last rest ih =>
      rw [linearInsert]
      split
      · exact (ih.cons last).trans (.swap info last rest)
      · exact .refl _

theorem sublist_linearInsert (info : DeviceLoadInfo) (l : List DeviceLoadInfo) :
    l.Sublist (linearInsert info l) := by
  induction l with
  | nil => exact List.nil_sublist _
  | cons last rest ih =>
      rw [linearInsert]
      split
      · exact ih.cons_cons last
      · exact List.sublist_cons_self info _

/-- A record is moved past those of a greater rate, if it is not inverted with any. -/
theorem linearInsert_byRate (hl : ByRate l.reverse) (h : ∀ a ∈ l, ¬Inverted a info) :
    ByRate (linearInsert info l).reverse := by
  rw [ByRate, List.pairwise_reverse] at hl ⊢
  induction l with
  | nil => exact List.pairwise_singleton _ _
  | cons last rest ih =>
      obtain ⟨hlast, hrest⟩ := List.pairwise_cons.mp hl
      rw [linearInsert]
      split
      · rename_i hless
        refine List.pairwise_cons.mpr
          ⟨fun a ha => ?_, ih hrest fun a ha => h a (List.mem_cons_of_mem _ ha)⟩
        rcases List.mem_cons.mp ((linearInsert_perm info rest).mem_iff.mp ha) with rfl | ha
        · have hno := h last List.mem_cons_self
          rw [less_iff] at hless
          rw [Inverted] at hno
          omega
        · exact hlast a ha
      · rename_i hless
        have hle := (not_less_iff.mp (Bool.eq_false_of_not_eq_true hless)).1
        refine List.pairwise_cons.mpr ⟨fun a ha => ?_, hl⟩
        rcases List.mem_cons.mp ha with rfl | ha
        · exact hle
        · exact (hlast a ha).trans hle

/-- The record is below the first one of a reversed prefix. -/
def ToFront (info : DeviceLoadInfo) (sorted : List DeviceLoadInfo) : Prop :=
  (sorted.getLast?.any fun first => info.less first) = true

theorem front_byRate (hl : ByRate sorted.reverse) (h : ∀ a ∈ sorted, ¬Inverted a info)
    (hfront : ToFront info sorted) : ByRate (sorted ++ [info]).reverse := by
  rw [List.reverse_append, List.reverse_singleton, List.singleton_append, ByRate,
    List.pairwise_cons]
  refine ⟨fun a ha => ?_, hl⟩
  rw [ToFront, ← List.head?_reverse] at hfront
  rw [ByRate] at hl
  have hmem : ∀ x ∈ sorted.reverse, ¬Inverted x info := fun x hx => h x (List.mem_reverse.mp hx)
  cases hrev : sorted.reverse with
  | nil => simp [hrev] at ha
  | cons first rest =>
      rw [hrev] at hfront hl ha hmem
      have hless : info.less first = true := by simpa using hfront
      have hno := hmem first List.mem_cons_self
      have hle : info.devLoadRate ≤ first.devLoadRate := by
        rw [less_iff] at hless
        rw [Inverted] at hno
        omega
      rcases List.mem_cons.mp ha with rfl | ha
      · exact hle
      · exact hle.trans ((List.pairwise_cons.mp hl).1 a ha)

theorem sortDevLoads_perm (infos sorted : List DeviceLoadInfo) :
    (sortDevLoads sorted infos).Perm (sorted ++ infos) := by
  induction infos generalizing sorted with
  | nil =>
      rw [sortDevLoads, List.append_nil]
      exact List.reverse_perm sorted
  | cons info infos ih =>
      rw [sortDevLoads]
      split
      · exact (ih _).trans (by rw [List.append_assoc, List.singleton_append])
      · refine (ih _).trans (((linearInsert_perm info sorted).append_right infos).trans ?_)
        exact List.perm_middle.symm

/-- Records that are in the sorted part keep their order. -/
theorem sublist_sortDevLoads (infos sorted : List DeviceLoadInfo) :
    sorted.reverse.Sublist (sortDevLoads sorted infos) := by
  induction infos generalizing sorted with
  | nil => exact .refl _
  | cons info infos ih =>
      rw [sortDevLoads]
      split
      · refine List.Sublist.trans ?_ (ih (sorted ++ [info]))
        rw [List.reverse_append]
        exact List.sublist_append_right _ _
      · exact (List.Sublist.reverse (sublist_linearInsert info sorted)).trans (ih _)

/-- The sort orders the records by their rates if none is inverted with one behind it. -/
theorem sortDevLoads_byRate (hsorted : ByRate sorted.reverse)
    (h : ∀ a ∈ sorted, ∀ b ∈ infos, ¬Inverted a b)
    (hinfos : infos.Pairwise fun a b => ¬Inverted a b) :
    ByRate (sortDevLoads sorted infos) := by
  induction infos generalizing sorted with
  | nil => exact hsorted
  | cons info infos ih =>
      obtain ⟨hinfo, hrest⟩ := List.pairwise_cons.mp hinfos
      have hfirst : ∀ a ∈ sorted, ¬Inverted a info := fun a ha => h a ha info List.mem_cons_self
      have hothers : ∀ a, a = info ∨ a ∈ sorted → ∀ b ∈ infos, ¬Inverted a b := by
        rintro a (rfl | ha) b hb
        · exact hinfo b hb
        · exact h a ha b (List.mem_cons_of_mem _ hb)
      rw [sortDevLoads]
      split
      · rename_i hfront
        refine ih (front_byRate hsorted hfirst hfront) (fun a ha => hothers a ?_) hrest
        simpa [or_comm] using ha
      · refine ih (linearInsert_byRate hsorted hfirst) (fun a ha => hothers a ?_) hrest
        simpa using (linearInsert_perm info sorted).mem_iff.mp ha

/-- The sort orders the records by their rates from every initial order exactly when no two of
them are inverted. -/
theorem sorts_iff : (∀ l, l.Perm infos → ByRate (sortDevLoads [] l)) ↔ NoInversion infos := by
  constructor
  · rintro h a ha b hb ⟨hrate, hid⟩
    -- the inverted records in front, the one with the lower rate first
    have hne : b ≠ a := fun heq => by
      rw [heq] at hrate
      exact lt_irrefl _ hrate
    have hmem : b ∈ infos.erase a := (List.mem_erase_of_ne hne).mpr hb
    have hperm : (a :: b :: (infos.erase a).erase b).Perm infos :=
      (((List.perm_cons_erase hmem).symm).cons a).trans (List.perm_cons_erase ha).symm
    have hfront : b.less a = true := less_iff.mpr (.inr hid)
    have hstep : sortDevLoads [] (a :: b :: (infos.erase a).erase b) =
        sortDevLoads [a, b] ((infos.erase a).erase b) := by
      simp [sortDevLoads, linearInsert, hfront]
    have hsorted := h _ hperm
    rw [hstep] at hsorted
    have hpair := hsorted.sublist (sublist_sortDevLoads _ [a, b])
    simp only [List.reverse_cons, List.reverse_nil, List.nil_append, List.singleton_append,
      List.pairwise_cons, List.mem_singleton, forall_eq] at hpair
    omega
  · intro h l hl
    refine sortDevLoads_byRate .nil (by simp) (List.pairwise_of_forall_mem_list ?_)
    exact fun a ha b hb => h a (hl.mem_iff.mp ha) b (hl.mem_iff.mp hb)

end DeviceLoadInfo

namespace System

variable {D : Discipline} {s : System}

/-! ## The order of the devices -/

/-- The load records of the devices. -/
def devLoads (s : System) : List DeviceLoadInfo := s.devList.map (·.devLoadInfo)

theorem Numbered.ascending (h : s.Numbered) :
    s.devLoads.Pairwise fun a b => a.deviceId < b.deviceId := by
  have hids : s.devLoads.map (·.deviceId) = List.range s.numDevice := by
    rw [devLoads, List.map_map]
    exact h.deviceIds
  have hlt : (s.devLoads.map (·.deviceId)).Pairwise (· < ·) := by
    rw [hids]
    exact List.pairwise_lt_range
  exact List.pairwise_map.mp hlt

/-- In the order of their numbers no record is inverted with one behind it. -/
theorem Numbered.sorts (h : s.Numbered) :
    DeviceLoadInfo.ByRate (sortDevLoads [] s.devLoads) := by
  refine DeviceLoadInfo.sortDevLoads_byRate .nil (by simp) (h.ascending.imp fun hlt hinv => ?_)
  have := hinv.2
  omega

theorem Numbered.devLoadOrder_perm (h : s.Numbered) (policyInfo : Nat) :
    (s.devLoadOrder policyInfo).Perm (List.range s.numDevice) := by
  have hperm : ((sortDevLoads [] s.devLoads).map (·.deviceId)).Perm (List.range s.numDevice) := by
    rw [← h.deviceIds]
    refine ((DeviceLoadInfo.sortDevLoads_perm s.devLoads []).map _).trans ?_
    rw [List.nil_append, devLoads, List.map_map]
    exact .refl _
  rw [devLoadOrder]
  split
  · exact hperm
  · exact (List.reverse_perm _).trans hperm

/-- The order contains every device that carries its number. -/
theorem mem_devLoadOrder {dev : DeviceData} (hmem : dev ∈ s.devList) (policyInfo : Nat) :
    dev.devLoadInfo.deviceId ∈ s.devLoadOrder policyInfo := by
  have hinfo : dev.devLoadInfo ∈ sortDevLoads [] s.devLoads := by
    rw [(DeviceLoadInfo.sortDevLoads_perm s.devLoads []).mem_iff, List.nil_append]
    exact List.mem_map_of_mem hmem
  have hid : dev.devLoadInfo.deviceId ∈ (sortDevLoads [] s.devLoads).map (·.deviceId) :=
    List.mem_map_of_mem hinfo
  rw [devLoadOrder]
  split
  · exact hid
  · exact List.mem_reverse.mpr hid

/-- The load rate of a device of the table. -/
def rateOf (s : System) (i : Nat) : Int :=
  ((s.devList[i]?).map (·.devLoadInfo.devLoadRate)).getD 0

theorem rateOf_eq {dev : DeviceData} {i : Nat} (hdev : s.devList[i]? = some dev) :
    s.rateOf i = dev.devLoadInfo.devLoadRate := by
  rw [rateOf, hdev]
  rfl

theorem Numbered.rateOf (h : s.Numbered) {info : DeviceLoadInfo} (hinfo : info ∈ s.devLoads) :
    s.rateOf info.deviceId = info.devLoadRate := by
  obtain ⟨dev, hdev, rfl⟩ := List.mem_map.mp hinfo
  obtain ⟨i, hi, rfl⟩ := List.mem_iff_getElem.mp hdev
  have hget : s.devList[i]? = some s.devList[i] := List.getElem?_eq_getElem hi
  rw [h i _ hget]
  exact rateOf_eq hget

/-- The sorted numbers of the devices rise by their rates. -/
theorem Numbered.sortedIds (h : s.Numbered) :
    ((sortDevLoads [] s.devLoads).map (·.deviceId)).Pairwise
      fun i j => s.rateOf i ≤ s.rateOf j := by
  rw [List.pairwise_map]
  have hmem : ∀ info ∈ sortDevLoads [] s.devLoads, info ∈ s.devLoads := fun info hinfo => by
    simpa using (DeviceLoadInfo.sortDevLoads_perm s.devLoads []).mem_iff.mp hinfo
  refine h.sorts.imp_of_mem fun ha hb hle => ?_
  rw [h.rateOf (hmem _ ha), h.rateOf (hmem _ hb)]
  exact hle

/-- The device has at least (at most) the rate of the other one. -/
def BetterDev (s : System) (policyInfo i j : Nat) : Prop :=
  (policyInfo = policyDevMostUsedFirst → s.rateOf j ≤ s.rateOf i) ∧
    (policyInfo = policyDevLeastUsedFirst → s.rateOf i ≤ s.rateOf j)

theorem Numbered.devLoadOrder_ordered (h : s.Numbered) (policyInfo : Nat) :
    (s.devLoadOrder policyInfo).Pairwise (s.BetterDev policyInfo) := by
  have hsorted := h.sortedIds
  rw [devLoads] at hsorted
  rw [devLoadOrder]
  split
  · rename_i hleast
    refine hsorted.imp fun hle => ⟨fun hmost => ?_, fun _ => hle⟩
    rw [hleast] at hmost
    simp [policyDevMostUsedFirst, policyDevLeastUsedFirst] at hmost
  · rename_i hleast
    rw [List.pairwise_reverse]
    exact hsorted.imp fun hle => ⟨fun _ => hle, fun h => absurd h hleast⟩

/-! ## The choice of the device -/

/-- The device can serve the request: some CU of it is eligible. -/
def CanServe (s : System) (prop : CuProperty) (i : Nat) : Prop :=
  ∃ q, s.Eligible prop q ∧ q.devId = i

/-- The result of an allocation by the load of the devices: there is one exactly when some
device can serve, its channel is granted, and it is on a device with the highest (lowest) load
rate of all that can serve. -/
structure ServesBest (s : System) (prop : CuProperty) (policyInfo : Nat)
    (r : System × Except XrmError CuResource) : Prop where
  complete : (∃ res, r.2 = .ok res) ↔ ∃ i, s.CanServe prop i
  granted : ∀ res, r.2 = .ok res → Grants channelAt s r.1 prop res
  best : ∀ res, r.2 = .ok res → s.CanServe prop res.place.1 ∧
    ∀ i, s.CanServe prop i → s.BetterDev policyInfo res.place.1 i

/-- The search on a device that can serve ends on some CU. -/
theorem CanServe.ends {i : Nat} (h : s.CanServe prop i) (policyInfo : Nat) :
    ∃ q, EndsOn prop policyInfo (s.onDev prop i) q := by
  obtain ⟨q, heligible, hq⟩ := h
  have hmem : q ∈ s.onDev prop i := mem_onDev.mpr ⟨heligible.asks, hq⟩
  cases hc : (choose prop policyInfo none (s.onDev prop i)).chosen with
  | some r => exact ⟨r, choose_chosen_iff.mp hc⟩
  | none =>
      obtain ⟨hsettles, hdefers⟩ := scan_chosen_eq_none_iff.mp hc q hmem
      by_cases hd : q.cu.Defers prop policyInfo
      · simp [heligible.fits, hd] at hdefers
      · have hs : q.cu.Settles prop policyInfo := ⟨heligible.fits, hd, heligible.hasChannel⟩
        simp [hs] at hsettles

theorem CanServe.mem {i : Nat} (h : s.CanServe prop i) : i < s.numDevice := by
  obtain ⟨q, ⟨⟨⟨dev, hdev, -⟩, -⟩, -, -⟩, rfl⟩ := h
  exact (List.getElem?_eq_some_iff.mp hdev).1

/-- The allocation by the load of the devices ends on the first choice in their order. -/
theorem byDevLoad_delivers (hsound : s.Sound D) (hnum : s.Numbered) (hs : propV2.Sent)
    (updateId : Bool) :
    Delivers (cuPropertyCopyFromV2 propV2) s (s.resAllocCuByDevLoad propV2 updateId)
      (s.firstChosen (cuPropertyCopyFromV2 propV2) propV2.policyInfo
        (s.devLoadOrder propV2.policyInfo)) := by
  have hs' : (cuPropertyCopyFromV2 propV2).Sent := hs
  have hperm := hnum.devLoadOrder_perm propV2.policyInfo
  exact allocByDevLoad_delivers hs' updateId _ (hperm.nodup_iff.mpr List.nodup_range)
    fun devId _ dev hdev => hsound dev (List.mem_of_getElem? hdev)

theorem servesBest_iff (hsound : s.Sound D) (hnum : s.Numbered) (hs : propV2.Sent)
    (updateId : Bool) :
    s.ServesBest (cuPropertyCopyFromV2 propV2) propV2.policyInfo
        (s.resAllocCuByDevLoad propV2 updateId) ↔
      ∀ q, s.EndsOnFirst (cuPropertyCopyFromV2 propV2) propV2.policyInfo
        (s.devLoadOrder propV2.policyInfo) q → q.cu.HasChannel := by
  have hperm := hnum.devLoadOrder_perm propV2.policyInfo
  have hordered := hnum.devLoadOrder_ordered propV2.policyInfo
  have hdelivers := byDevLoad_delivers hsound hnum hs updateId
  have hgrants := hdelivers.grants_iff
  simp only [firstChosen_iff] at hgrants
  rw [← hgrants]
  refine ⟨fun h => h.granted, fun hgranted => ?_⟩
  have hchan := hgrants.mp hgranted
  have hvisited : ∀ i, s.CanServe (cuPropertyCopyFromV2 propV2) i →
      i ∈ s.devLoadOrder propV2.policyInfo := fun i hi =>
    hperm.mem_iff.mpr (List.mem_range.mpr hi.mem)
  generalize s.resAllocCuByDevLoad propV2 updateId = r at hdelivers hgranted ⊢
  cases hfirst : s.firstChosen (cuPropertyCopyFromV2 propV2) propV2.policyInfo
      (s.devLoadOrder propV2.policyInfo) with
  | none =>
      rw [hfirst] at hdelivers
      cases hdelivers with
      | refused hsame =>
          refine ⟨⟨by simp, ?_⟩, by simp, by simp⟩
          rintro ⟨i, hi⟩
          obtain ⟨q, hq⟩ := hi.ends propV2.policyInfo
          have hnone := List.findSome?_eq_none_iff.mp hfirst i (hvisited i hi)
          rw [choose_chosen_iff.mpr hq] at hnone
          simp at hnone
  | some q =>
      rw [hfirst] at hdelivers
      have hends := firstChosen_iff.mp hfirst
      have hq := hchan q hends
      obtain ⟨before, devId, post, horder, hon, hbefore⟩ := hends
      obtain ⟨hmem, hfits⟩ := hon.fits
      obtain ⟨hasks, hdevId⟩ := mem_onDev.mp hmem
      have hserves : s.CanServe (cuPropertyCopyFromV2 propV2) q.devId :=
        ⟨q, ⟨hasks, hfits, hq⟩, rfl⟩
      cases hdelivers with
      | hollow _ _ _ hno => exact absurd hq hno
      | @granted s' res _ hdev hcu hgrants _ _ =>
          have hplace : res.place.1 = q.devId := by simp [CuResource.place, hdev]
          refine ⟨⟨fun _ => ⟨_, hserves⟩, fun _ => ⟨res, rfl⟩⟩, hgranted, fun res' hres => ?_⟩
          obtain rfl : res = res' := by simpa using hres
          rw [hplace]
          refine ⟨hserves, fun i hi => ?_⟩
          have hin := hvisited i hi
          rw [horder] at hin hordered
          obtain ⟨r, hr⟩ := hi.ends propV2.policyInfo
          rcases List.mem_append.mp hin with hin | hin
          · exact absurd hr (hbefore i hin r)
          · rw [← hdevId] at hin hordered
            rcases List.mem_cons.mp hin with rfl | hin
            · exact ⟨fun _ => le_refl _, fun _ => le_refl _⟩
            · exact (List.pairwise_cons.mp (List.pairwise_append.mp hordered).2.1).1 i hin

/-- The comparison of the load records is a strict weak order, and its sort orders any records by
their rates from every initial order, exactly when no two of the records are inverted. In every
state that the daemon reaches, the allocation by the load of the devices takes the best device
that can serve exactly when the CU on which its search ends has a free channel. -/
theorem by_dev_load {limit : Nat} (h : Reachable allRuns limit s) (hs : propV2.Sent)
    (updateId : Bool) :
    (∀ infos, StrictWeakOn DeviceLoadInfo.less infos ↔ DeviceLoadInfo.NoInversion infos) ∧
      (∀ infos, (∀ l, l.Perm infos → DeviceLoadInfo.ByRate (sortDevLoads [] l)) ↔
        DeviceLoadInfo.NoInversion infos) ∧
      (s.ServesBest (cuPropertyCopyFromV2 propV2) propV2.policyInfo
          (s.resAllocCuByDevLoad propV2 updateId) ↔
        ∀ q, s.EndsOnFirst (cuPropertyCopyFromV2 propV2) propV2.policyInfo
          (s.devLoadOrder propV2.policyInfo) q → q.cu.HasChannel) :=
  ⟨fun _ => DeviceLoadInfo.strictWeakOn_iff, fun _ => DeviceLoadInfo.sorts_iff,
    servesBest_iff h.good.sound h.numbered hs updateId⟩

end System

open Scenario in
/-- Two devices, the first of them in use. -/
def unevenRun : List Op :=
  [.loadOneDevice (env 2 1) 0 "scaler.xclbin", .loadOneDevice (env 2 1) 1 "scaler.xclbin",
    .resAllocCuFromDev 0 (request 1 0 400000) true]

namespace System

open Scenario in
theorem by_dev_load_uneven :
    (∀ infos, StrictWeakOn DeviceLoadInfo.less infos ↔ DeviceLoadInfo.NoInversion infos) ∧
      (∀ infos, (∀ l, l.Perm infos → DeviceLoadInfo.ByRate (sortDevLoads [] l)) ↔
        DeviceLoadInfo.NoInversion infos) ∧
      ((after unevenRun).ServesBest (request 2 0 300000) policyDevMostUsedFirst
          ((after unevenRun).resAllocCuByDevLoad
            (requestV2 2 0 300000 policyDevMostUsedFirst) true) ↔
        ∀ q, (after unevenRun).EndsOnFirst (request 2 0 300000) policyDevMostUsedFirst
          ((after unevenRun).devLoadOrder policyDevMostUsedFirst) q → q.cu.HasChannel) :=
  by_dev_load (reachable_after unevenRun (by decide +kernel))
    (by decide : (requestV2 2 0 300000 policyDevMostUsedFirst).Sent) true

open Scenario in
/-- The records of the two devices are each less than the other one, and the sort leaves them in
the wrong order when the second one comes first. -/
theorem by_dev_load_fails : ∃ limit s, Reachable allRuns limit s ∧
    ¬StrictWeakOn DeviceLoadInfo.less s.devLoads ∧
      ¬DeviceLoadInfo.ByRate (sortDevLoads [] s.devLoads.reverse) := by
  refine ⟨8, after unevenRun, reachable_after unevenRun (by decide +kernel), fun h => ?_, ?_⟩
  · have hloads : (after unevenRun).devLoads =
        [{ devLoadRate := 400, deviceId := 0, devCurrentLoad := 400000 },
          { devLoadRate := 0, deviceId := 1, devCurrentLoad := 0 }] := by decide +kernel
    rw [hloads] at h
    have hnone := DeviceLoadInfo.strictWeakOn_iff.mp h
      { devLoadRate := 0, deviceId := 1, devCurrentLoad := 0 } (by simp)
      { devLoadRate := 400, deviceId := 0, devCurrentLoad := 400000 } (by simp)
    exact hnone ⟨by decide, by decide⟩
  · rw [DeviceLoadInfo.ByRate]
    decide +kernel

end System

end Xrm
