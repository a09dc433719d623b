import Xrm.Verification.ShareEvolves

/-! # Releases, lists and groups -/

namespace Xrm

open Relation

variable {D : Discipline} {prop : CuProperty} {svc : Nat}

namespace System

variable {s s' s₁ : System} {Q : CuProperty → Prop}

/-! ## Releasing -/

theorem resReleaseCu_evolves (D : Discipline) (s : System) {res : CuResource}
    (hres : res.clientId ≠ 0) : Develops D s (s.resReleaseCu res).1 := by
  rw [resReleaseCu]
  split
  · exact evolves_refl D s
  split
  · exact evolves_refl D s
  split
  · exact evolves_refl D s
  split
  · exact evolves_refl D s
  rename_i dev hdev
  split
  · exact evolves_refl D s
  rename_i hload
  split
  · exact evolves_refl D s
  rename_i cu hcu
  exact evolves_setDev hdev (.single (.release (by simpa using hload) hcu hres))

theorem releaseInOrder_evolves (D : Discipline) (l : List CuResource) (s : System)
    (hl : ∀ res ∈ l, res.clientId ≠ 0) : Develops D s (releaseInOrder l s).1 := by
  induction l generalizing s with
  | nil => exact evolves_refl D s
  | cons res rest ih =>
      have hev := resReleaseCu_evolves D s (hl res (by simp))
      rw [releaseInOrder]
      split
      · rename_i heq
        rw [heq] at hev
        exact hev.trans (ih _ fun r hr => hl r (by simp [hr]))
      · rename_i heq
        rw [heq] at hev
        exact hev

theorem releaseList_evolves (D : Discipline) (maxNum : Nat) (s : System)
    (listRes : CuListResource) (hl : ∀ res ∈ listRes.cuResources, res.clientId ≠ 0) :
    Develops D s (releaseList maxNum s listRes).1 := by
  rw [releaseList]
  split
  · exact evolves_refl D s
  · exact releaseInOrder_evolves D _ s fun res hr => hl res (List.mem_of_mem_take hr)

/-! ## Allocations in progress -/

/-- What a list allocation has done so far for requests that satisfy `Q`: it touched devices and
took channels, which are listed in the order they were taken. -/
inductive Taken (Q : CuProperty → Prop) (svc : Nat) (s : System) :
    System → List CuResource → Prop where
  | start : Taken Q svc s s []
  | touch {s₁ s₂ : System} {done : List CuResource} {prop : CuProperty} (hq : Q prop)
      (h : Taken Q svc s s₁ done) (ht : TouchStep prop s₁ s₂) : Taken Q svc s s₂ done
  | grab {s₁ : System} {done : List CuResource} {prop : CuProperty} {i : Nat}
      {dev dev' : DeviceData} {res : CuResource} (hq : Q prop) (hnamed : prop.unnamed = false)
      (h : Taken Q svc s s₁ done) (hdev : s₁.devList[i]? = some dev)
      (hg : DeviceData.Grab prop svc i dev dev' res) :
      Taken Q svc s (s₁.setDev i dev') (done ++ [res])

namespace Taken

theorem evolves {done : List CuResource} (hQ : ∀ prop, Q prop → prop.Received) (hsvc : svc ≠ 0)
    (h : Taken Q svc s s' done) : Develops D s s' := by
  induction h with
  | start => exact evolves_refl D s
  | touch hq _ ht ih =>
      obtain ⟨i, dev, dev', hdev, htouch, rfl⟩ := ht
      exact ih.trans (evolves_setDev hdev (.single (htouch.act (hQ _ hq).1)))
  | grab hq _ _ hdev hg ih =>
      exact ih.trans (evolves_setDev hdev (.single (hg.act (hQ _ hq) hsvc)))

theorem clientId {done : List CuResource} (hQ : ∀ prop, Q prop → prop.Received)
    (h : Taken Q svc s s' done) : ∀ res ∈ done, res.clientId ≠ 0 := by
  induction h with
  | start => simp
  | touch _ _ _ ih => exact ih
  | grab hq _ _ _ hg ih =>
      intro res hres
      rcases List.mem_append.mp hres with hres | hres
      · exact ih res hres
      · rw [List.mem_singleton.mp hres, hg.clientId]
        exact (hQ _ hq).1

theorem nextId {done : List CuResource} (h : Taken Q svc s s' done) :
    s'.getNextAllocServiceId = s.getNextAllocServiceId := by
  induction h with
  | start => rfl
  | touch _ _ ht ih =>
      obtain ⟨i, dev, dev', -, -, rfl⟩ := ht
      exact ih
  | grab _ _ _ _ _ ih => exact ih

theorem touched {done : List CuResource} (hq : Q prop) (h : Taken Q svc s s₁ done)
    (ht : Touched prop s₁ s') : Taken Q svc s s' done := by
  induction ht with
  | refl => exact h
  | tail _ hstep ih => exact .touch hq ih hstep

theorem attempt {done : List CuResource} {r : Option CuResource} (hq : Q prop)
    (hnamed : prop.unnamed = false) (h : Taken Q svc s s₁ done)
    (ha : Attempt prop svc s₁ s' r) : Taken Q svc s s' (done ++ r.toList) := by
  cases ha with
  | missed ht => simpa using h.touched hq ht
  | acquired ht hdev hg => exact .grab hq hnamed (h.touched hq ht) hdev hg

end Taken

/-! ## Several CUs on one device -/

theorem grab_isLoaded {i : Nat} {dev dev' : DeviceData} {res : CuResource}
    (h : DeviceData.Grab prop svc i dev dev' res) : dev'.isLoaded = dev.isLoaded := by
  obtain ⟨dev₁, policyInfo, cuId, cu', chanId, hreg, -, rfl, -⟩ := h
  rw [DeviceData.grant_isLoaded, DeviceData.registered_isLoaded hreg]

theorem allocCuFromDev_ok {devId : Nat} {dev dev₁ dev' : DeviceData} {res : CuResource}
    (hreg : dev.allocClientFromDev prop = .ok dev₁)
    (h : s.allocCuFromDev devId dev₁ prop = .ok (dev', res)) : prop.unnamed = false ∧
      DeviceData.Grab prop s.getNextAllocServiceId devId dev dev' res := by
  rw [allocCuFromDev] at h
  split at h
  · simp at h
  rename_i hnamed
  split at h
  · rename_i cuId cu' chanId hsearch
    rw [Except.ok.injEq, Prod.mk.injEq] at h
    obtain ⟨rfl, rfl⟩ := h
    have hacq := acquired_of_searchCuTwice policyNull devId hsearch
    rw [DeviceData.registered_cuList hreg] at hacq
    exact ⟨by simpa using hnamed, dev₁, policyNull, cuId, cu', chanId, hreg, hacq, rfl, rfl⟩
  · simp at h

/-- The outcome of a loop that takes channels item by item: all of them, or what was taken is
released again. -/
def Progress (Q : CuProperty → Prop) (svc : Nat) (s : System)
    (r : System × Option (List CuResource)) : Prop :=
  (∃ done, r.2 = some done ∧ Taken Q svc s r.1 done) ∨
    ∃ s₁ done, r.2 = none ∧ Taken Q svc s s₁ done ∧ r.1 = (releaseInOrder done s₁).1

theorem Progress.evolves {r : System × Option (List CuResource)}
    (hQ : ∀ prop, Q prop → prop.Received) (hsvc : svc ≠ 0) (h : Progress Q svc s r) :
    Develops D s r.1 := by
  rcases h with ⟨done, -, h⟩ | ⟨s₁, done, -, h, heq⟩
  · exact h.evolves hQ hsvc
  · rw [heq]
    exact (h.evolves hQ hsvc).trans (releaseInOrder_evolves D done s₁ (h.clientId hQ))

theorem allocItemsOnDev_progress {devId : Nat} (props : List CuProperty)
    (hq : ∀ prop ∈ props, Q prop) (s₁ : System) (done : List CuResource)
    (hsvc : svc = s.getNextAllocServiceId)
    (h : Taken Q svc s s₁ done)
    (hload : ∀ dev, s₁.devList[devId]? = some dev → dev.isLoaded = true) :
    Progress Q svc s (allocItemsOnDev devId props s₁ done) := by
  induction props generalizing s₁ done with
  | nil => exact .inl ⟨done, rfl, h⟩
  | cons prop props ih =>
      rw [allocItemsOnDev]
      split
      · exact .inr ⟨s₁, done, rfl, h, rfl⟩
      rename_i dev hdev
      split
      · exact .inr ⟨s₁, done, rfl, h, rfl⟩
      rename_i dev₁ hreg
      split
      · rename_i dev' res halloc
        obtain ⟨hnamed, hg⟩ := allocCuFromDev_ok hreg halloc
        rw [h.nextId, ← hsvc] at hg
        refine ih (fun p hp => hq p (by simp [hp])) _ _
          (.grab (hq prop (by simp)) hnamed h hdev hg) ?_
        intro x hx
        rw [getElem?_setDev_self hdev, Option.some.injEq] at hx
        subst hx
        rw [grab_isLoaded hg]
        exact hload dev hdev
      · refine .inr ⟨_, done, rfl, h.touch (hq prop (by simp)) ?_, rfl⟩
        exact ⟨devId, dev, _, hdev, ⟨hload dev hdev, dev₁, hreg, rfl⟩, rfl⟩

/-- The device loop of a same-device list: devices that failed are given back, and one may
hold all items. -/
inductive SameDevice (Q : CuProperty → Prop) (svc : Nat) :
    System → System × Option (Nat × List CuResource) → Prop where
  | failed {s : System} : SameDevice Q svc s (s, none)
  | found {s s' : System} {devId : Nat} {done : List CuResource} (h : Taken Q svc s s' done) :
      SameDevice Q svc s (s', some (devId, done))
  | retry {s s₁ : System} {done : List CuResource} {r : System × Option (Nat × List CuResource)}
      (h : Taken Q svc s s₁ done) (hr : SameDevice Q svc (releaseInOrder done s₁).1 r) :
      SameDevice Q svc s r

theorem releaseInOrder_nextId (l : List CuResource) (s : System) :
    (releaseInOrder l s).1.getNextAllocServiceId = s.getNextAllocServiceId := by
  have hone : ∀ (s : System) (res : CuResource),
      (s.resReleaseCu res).1.getNextAllocServiceId = s.getNextAllocServiceId := by
    intro s res
    rw [resReleaseCu]
    repeat' split
    all_goals rfl
  induction l generalizing s with
  | nil => rfl
  | cons res rest ih =>
      have hres := hone s res
      rw [releaseInOrder]
      split
      · rename_i heq
        rw [heq] at hres
        rw [ih, hres]
      · rename_i heq
        rw [heq] at hres
        exact hres

theorem allocOnSameDevice_spec (props : List CuProperty) (hq : ∀ prop ∈ props, Q prop)
    (usedDevIds devIds : List Nat) (s : System) (hsvc : svc = s.getNextAllocServiceId) :
    SameDevice Q svc s (allocOnSameDevice props usedDevIds devIds s) := by
  induction devIds generalizing s with
  | nil => exact .failed
  | cons devId devIds ih =>
      rw [allocOnSameDevice]
      split
      · rename_i hfree
        have hload : ∀ dev, s.devList[devId]? = some dev → dev.isLoaded = true := by
          intro dev hdev
          rw [hdev, Bool.and_eq_true] at hfree
          exact DeviceData.isLoaded_of_isFreeForClient hfree.1
        have hprogress := allocItemsOnDev_progress props hq s [] hsvc .start hload
        split
        · rename_i s₁ done heq
          rw [heq] at hprogress
          rcases hprogress with ⟨done', hdone, htaken⟩ | ⟨s₂, done', hnone, -, -⟩
          · rw [Option.some.injEq] at hdone
            rw [hdone]
            exact .found htaken
          · simp at hnone
        · rename_i s₁ heq
          rw [heq] at hprogress
          rcases hprogress with ⟨done', hsome, -⟩ | ⟨s₂, done', -, htaken, hrel⟩
          · simp at hsome
          · simp only at hrel
            rw [hrel]
            refine .retry htaken (ih _ ?_)
            rw [releaseInOrder_nextId, htaken.nextId, hsvc]
      · exact ih s hsvc

theorem SameDevice.evolves {r : System × Option (Nat × List CuResource)}
    (hQ : ∀ prop, Q prop → prop.Received) (hsvc : svc ≠ 0) (h : SameDevice Q svc s r) :
    Develops D s r.1 := by
  induction h with
  | failed => exact evolves_refl D _
  | found h => exact h.evolves hQ hsvc
  | retry h _ ih =>
      exact ((h.evolves hQ hsvc).trans (releaseInOrder_evolves D _ _ (h.clientId hQ))).trans ih

theorem SameDevice.clientId {r : System × Option (Nat × List CuResource)}
    (hQ : ∀ prop, Q prop → prop.Received) (h : SameDevice Q svc s r) {devId : Nat}
    {done : List CuResource}
    (hr : r.2 = some (devId, done)) : ∀ res ∈ done, res.clientId ≠ 0 := by
  induction h with
  | failed => simp at hr
  | found h =>
      simp only [Option.some.injEq, Prod.mk.injEq] at hr
      rw [← hr.2]
      exact h.clientId hQ
  | retry _ _ ih => exact ih hr

/-! ## Lists -/

theorem allocItems_progress (props : List CuProperty) (hq : ∀ prop ∈ props, Q prop)
    (s₁ : System) (done : List CuResource) (hsvc : svc = s.getNextAllocServiceId)
    (h : Taken Q svc s s₁ done) : Progress Q svc s (allocItems props s₁ done) := by
  induction props generalizing s₁ done with
  | nil => exact .inl ⟨done, rfl, h⟩
  | cons prop props ih =>
      have hone := s₁.resAllocCu_allocates prop false
      rw [allocItems]
      split
      · rename_i s₂ res heq
        rw [heq] at hone
        generalize hr : (s₂, Except.ok res) = r at hone
        cases hone with
        | failed => simp at hr
        | granted hnamed hattempt =>
            rw [finishAlloc, Prod.mk.injEq, Except.ok.injEq] at hr
            obtain ⟨rfl, rfl⟩ := hr
            rw [h.nextId, ← hsvc] at hattempt
            exact ih (fun p hp => hq p (by simp [hp])) _ _
              (h.attempt (hq prop (by simp)) hnamed hattempt)
      · rename_i s₂ e heq
        rw [heq] at hone
        generalize hr : (s₂, Except.error e) = r at hone
        cases hone with
        | failed htouched =>
            rw [Prod.mk.injEq] at hr
            obtain ⟨rfl, -⟩ := hr
            exact .inr ⟨s₂, done, rfl, h.touched (hq prop (by simp)) htouched, rfl⟩
        | granted _ hattempt => simp [finishAlloc] at hr

theorem updateAllocServiceId_evolves (D : Discipline) (s : System) :
    Develops D s s.updateAllocServiceId :=
  evolves_of_devs rfl ⟨id, rfl, rfl, rfl⟩ rfl rfl rfl

theorem resAllocCuList_evolves (D : Discipline) (s : System) (listProp : CuListProperty)
    (hs : ∀ prop ∈ listProp.items, prop.Received) : Develops D s (s.resAllocCuList listProp).1 := by
  rw [resAllocCuList]
  split
  · exact evolves_refl D s
  split
  · have hsame := (allocOnSameDevice_spec listProp.items hs [] (List.range s.numDevice) s
      rfl).evolves (D := D) (fun _ => id) (nextId_ne_zero _)
    split
    · rename_i heq
      rw [heq] at hsame
      exact hsame.trans (updateAllocServiceId_evolves D _)
    · rename_i heq
      rw [heq] at hsame
      exact hsame
  · have hitems := (allocItems_progress listProp.items hs s [] rfl .start).evolves (D := D)
      (fun _ => id) (nextId_ne_zero _)
    split
    · rename_i heq
      rw [heq] at hitems
      exact hitems.trans (updateAllocServiceId_evolves D _)
    · rename_i heq
      rw [heq] at hitems
      exact hitems

/-! ## Lists with device constraints -/

theorem releaseAllocated_evolves (D : Discipline) (flags : List ItemFlag)
    (results : List CuResource) (s : System)
    (h : ∀ (i : Nat) (flag : ItemFlag) (res : CuResource),
      flags[i]? = some flag → results[i]? = some res → flag.allocated = true →
      res.clientId ≠ 0) : Develops D s (releaseAllocated flags results s) := by
  induction flags generalizing results s with
  | nil => exact evolves_refl D s
  | cons flag flags ih =>
      cases results with
      | nil => exact evolves_refl D s
      | cons res results =>
          have hrest := fun s => ih results s fun i f r hf hr ha => h (i + 1) f r hf hr ha
          rw [releaseAllocated]
          split
          · rename_i hallocated
            exact (resReleaseCu_evolves D s (h 0 flag res rfl rfl hallocated)).trans (hrest _)
          · exact hrest s

namespace ListV2State

/-- Every item marked allocated has a result of the kind. -/
def Results (P : CuResource → Prop) (st : ListV2State) : Prop :=
  ∀ (i : Nat) (flag : ItemFlag) (res : CuResource), st.itemFlags[i]? = some flag →
    st.cuResources[i]? = some res → flag.allocated = true → P res

section Results

variable {P : CuResource → Prop}

theorem Results.setSystem {st : ListV2State} (h : st.Results P) (s : System) :
    Results P { st with s } := h

theorem Results.marked {st : ListV2State} (h : st.Results P) (indices : List Nat) :
    Results P { st with itemFlags := markHandled st.itemFlags indices } := by
  have hone : ∀ (flags : List ItemFlag) (k : Nat) (i : Nat) (flag : ItemFlag),
      (flags.modify k fun flag => { flag with handled := true })[i]? = some flag →
        ∃ flag₀, flags[i]? = some flag₀ ∧ flag₀.allocated = flag.allocated := by
    intro flags k i flag hflag
    rw [List.getElem?_modify, Option.map_eq_map, Option.map_eq_some_iff] at hflag
    obtain ⟨flag₀, hflag₀, rfl⟩ := hflag
    exact ⟨flag₀, hflag₀, by split <;> rfl⟩
  have hall : ∀ (indices : List Nat) (flags : List ItemFlag) (i : Nat) (flag : ItemFlag),
      (markHandled flags indices)[i]? = some flag →
        ∃ flag₀, flags[i]? = some flag₀ ∧ flag₀.allocated = flag.allocated := by
    intro indices
    induction indices with
    | nil => exact fun flags i flag hflag => ⟨flag, hflag, rfl⟩
    | cons k indices ih =>
        intro flags i flag hflag
        obtain ⟨flag₁, hflag₁, heq₁⟩ := ih _ i flag hflag
        obtain ⟨flag₀, hflag₀, heq₀⟩ := hone flags k i flag₁ hflag₁
        exact ⟨flag₀, hflag₀, heq₀.trans heq₁⟩
  intro i flag res hflag hres ha
  obtain ⟨flag₀, hflag₀, heq⟩ := hall indices st.itemFlags i flag hflag
  exact h i flag₀ res hflag₀ hres (heq.trans ha)

theorem Results.record {st : ListV2State} (h : st.Results P) (index : Nat) {res : CuResource}
    (hres : P res) : (st.record index res).Results P := by
  intro i flag r hflag hr ha
  simp only [ListV2State.record] at hflag hr
  by_cases hi : index = i
  · subst hi
    rw [List.getElem?_set_self'] at hr
    obtain ⟨_, -, rfl⟩ := Option.map_eq_some_iff.mp hr
    exact hres
  · rw [List.getElem?_modify, Option.map_eq_map, Option.map_eq_some_iff] at hflag
    obtain ⟨flag₀, hflag₀, heq⟩ := hflag
    rw [if_neg hi] at heq
    rw [List.getElem?_set_ne hi] at hr
    exact h i flag₀ r hflag₀ hr (by rw [heq]; exact ha)

theorem Results.recordAll {st : ListV2State} (h : st.Results P) (indices : List Nat)
    (results : List CuResource) (hres : ∀ res ∈ results, P res) :
    (st.recordAll indices results).Results P := by
  induction indices generalizing st results with
  | nil => exact h
  | cons index indices ih =>
      cases results with
      | nil => exact h
      | cons res results =>
          exact ih (h.record index (hres res (by simp))) results fun r hr => hres r (by simp [hr])

/-- Nothing is marked at the start. -/
theorem results_start (P : CuResource → Prop) (s : System) {α : Type} (items : List α)
    (results : List CuResource) : Results P
      { s := s
        itemFlags := items.map fun _ => ⟨false, false⟩
        cuResources := results
        usedDevIds := [] } := by
  intro i flag res hflag _ ha
  rw [List.getElem?_map, Option.map_eq_some_iff] at hflag
  obtain ⟨_, -, rfl⟩ := hflag
  simp at ha

end Results

theorem recordAll_s (st : ListV2State) (indices : List Nat) (results : List CuResource) :
    (st.recordAll indices results).s = st.s := by
  induction indices generalizing st results with
  | nil => rfl
  | cons index indices ih =>
      cases results with
      | nil => rfl
      | cons res results => exact ih _ _

end ListV2State

/-- A sub-list has what all items have. -/
theorem forall_subList {P : CuProperty → Prop} {props : List CuPropertyV2}
    (h : ∀ propV2 ∈ props, P (cuPropertyCopyFromV2 propV2)) (indices : List Nat) :
    ∀ prop ∈ (indices.filterMap fun i => props[i]?).map cuPropertyCopyFromV2, P prop := by
  intro prop hprop
  obtain ⟨propV2, hmem, rfl⟩ := List.mem_map.mp hprop
  obtain ⟨i, -, hi⟩ := List.mem_filterMap.mp hmem
  exact h propV2 (List.mem_of_getElem? hi)

theorem allocItemV2_evolves (D : Discipline) {props : List CuPropertyV2}
    (hs : ∀ prop ∈ props, prop.Received) (index : Nat) {propV2 : CuPropertyV2}
    (hp : propV2.Received)
    (rest : List Nat) (st : ListV2State) (hst : st.Results fun res => res.clientId ≠ 0) :
    Develops D st.s (allocItemV2 props index propV2 rest st).1.s ∧
      (allocItemV2 props index propV2 rest st).1.Results fun res => res.clientId ≠ 0 := by
  have hp' : (cuPropertyCopyFromV2 propV2).Received := hp
  rw [allocItemV2]
  simp only
  split
  · have hone := st.s.resAllocCu_allocates (cuPropertyCopyFromV2 propV2) false
    have hev := hone.evolves (D := D) hp'
    split
    · rename_i heq
      rw [heq] at hone hev
      refine ⟨hev, ListV2State.Results.record hst index ?_⟩
      rw [hone.clientId rfl]
      exact hp'.1
    · rename_i heq
      rw [heq] at hev
      exact ⟨hev, hst⟩
  split
  · have hone := st.s.resAllocCuFromDev_allocates (i32 propV2.deviceIndex)
      (cuPropertyCopyFromV2 propV2) false
    have hev := hone.evolves (D := D) hp'
    split
    · rename_i heq
      rw [heq] at hone hev
      refine ⟨hev, ListV2State.Results.record hst index ?_⟩
      rw [hone.clientId rfl]
      exact hp'.1
    · rename_i heq
      rw [heq] at hev
      exact ⟨hev, hst⟩
  split
  · have hsub : ∀ prop ∈ ((index :: subListIndices props st.itemFlags propV2.deviceIndex
        rest).filterMap fun i => props[i]?).map cuPropertyCopyFromV2, prop.Received :=
      forall_subList hs _
    have hmark := hst.marked (index :: subListIndices props st.itemFlags propV2.deviceIndex
      rest)
    have hsame := allocOnSameDevice_spec _ hsub st.usedDevIds (List.range st.s.numDevice) st.s rfl
    have hev := hsame.evolves (D := D) (fun _ => id) (nextId_ne_zero _)
    split
    · rename_i s₁ devId done heq
      rw [heq] at hsame hev
      constructor
      · simp only [ListV2State.recordAll_s]
        exact hev
      · exact (hmark.setSystem s₁).recordAll _ done (hsame.clientId (fun _ => id) rfl)
    · rename_i heq
      rw [heq] at hev
      exact ⟨hev, hmark⟩
  · exact ⟨evolves_refl D _, hst⟩

theorem allocItemsV2_evolves (D : Discipline) {props : List CuPropertyV2}
    (hs : ∀ prop ∈ props, prop.Received) (indices : List Nat) (st : ListV2State)
    (hst : st.Results fun res => res.clientId ≠ 0) :
    Develops D st.s (allocItemsV2 props indices st).1.s ∧
      (allocItemsV2 props indices st).1.Results fun res => res.clientId ≠ 0 := by
  induction indices generalizing st with
  | nil => exact ⟨evolves_refl D _, hst⟩
  | cons index rest ih =>
      rw [allocItemsV2]
      split
      · exact ih st hst
      split
      · exact ih st hst
      rename_i propV2 hprop
      have hp := hs propV2 (List.mem_of_getElem? hprop)
      obtain ⟨hev, howned⟩ := allocItemV2_evolves D hs index hp rest
        { st with itemFlags := markHandled st.itemFlags [index] } (hst.marked [index])
      simp only
      split
      · rename_i heq
        rw [heq] at hev howned
        obtain ⟨hrest, hrest'⟩ := ih _ howned
        exact ⟨hev.trans hrest, hrest'⟩
      · rename_i heq
        rw [heq] at hev howned
        exact ⟨hev, howned⟩

theorem resAllocCuListV2_evolves (D : Discipline) (s : System) (listProp : CuListPropertyV2)
    (hs : ∀ prop ∈ listProp.items, prop.Received) :
    Develops D s (s.resAllocCuListV2 listProp).1 := by
  rw [resAllocCuListV2]
  split
  · exact evolves_refl D s
  obtain ⟨hev, howned⟩ := allocItemsV2_evolves D hs (List.range listProp.items.length) _
    (ListV2State.results_start _ s listProp.items _)
  simp only
  split
  · rename_i heq
    rw [heq] at hev
    exact hev.trans (updateAllocServiceId_evolves D _)
  · rename_i heq
    rw [heq] at hev howned
    exact hev.trans (releaseAllocated_evolves D _ _ _ howned)

end System

end Xrm
