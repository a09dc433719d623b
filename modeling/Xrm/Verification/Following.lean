import Mathlib.Data.List.GetD
import Xrm.Verification.ListEvolves

/-! # List allocations, followed step by step

A list allocation takes channels one by one and gives them back when an item fails. Whatever
relation between the state and the resources taken so far the single steps keep, the whole
allocation keeps it.
-/

namespace Xrm

namespace System

variable {s s' : System} {prop : CuProperty} {svc : Nat} {Q : CuProperty → Prop}
  {L : System → List CuResource → Prop} {l done : List CuResource}

/-- The single steps of an allocation for requests that satisfy `Q` keep `L`, which relates a state
to the resources taken so far. -/
structure Follows (Q : CuProperty → Prop) (svc : Nat) (L : System → List CuResource → Prop) :
    Prop where
  nextId : ∀ {s : System} {lent : List CuResource}, L s lent → s.getNextAllocServiceId = svc
  perm : ∀ {s : System} {lent lent' : List CuResource}, L s lent → lent.Perm lent' → L s lent'
  touch : ∀ {s s' : System} {lent : List CuResource} {prop : CuProperty}, L s lent → Q prop →
    TouchStep prop s s' → L s' lent
  grab : ∀ {s : System} {lent : List CuResource} {prop : CuProperty} {i : Nat}
    {dev dev' : DeviceData} {res : CuResource}, L s lent → Q prop → prop.unnamed = false →
      s.devList[i]? = some dev → DeviceData.Grab prop svc i dev dev' res →
        L (s.setDev i dev') (res :: lent)
  release : ∀ {s : System} {lent : List CuResource} {res : CuResource}, L s (res :: lent) →
    (s.resReleaseCu res).2 = .ok () ∧ L (s.resReleaseCu res).1 lent

/-- If a release takes the first resource off the list, releases take the first ones off. -/
theorem releaseFirst (hrelease : ∀ {s : System} {l : List CuResource} {res : CuResource},
    L s (res :: l) → (s.resReleaseCu res).2 = .ok () ∧ L (s.resReleaseCu res).1 l)
    (h : L s (done ++ l)) :
    (releaseInOrder done s).2 = .ok () ∧ L (releaseInOrder done s).1 l := by
  induction done generalizing s with
  | nil => exact ⟨rfl, h⟩
  | cons res done ih =>
      obtain ⟨hok, hrest⟩ := hrelease h
      rw [releaseInOrder]
      split
      · rename_i heq
        rw [heq] at hrest
        exact ih hrest
      · rename_i heq
        rw [heq] at hok
        simp at hok

namespace Follows

/-! ## Attempts -/

theorem touched (hL : Follows Q svc L) (h : L s l) (hq : Q prop) (ht : Touched prop s s') :
    L s' l := by
  induction ht with
  | refl => exact h
  | tail _ hstep ih => exact hL.touch ih hq hstep

theorem attempt (hL : Follows Q svc L) (h : L s l) (hq : Q prop) (hnamed : prop.unnamed = false)
    {r : Option CuResource} (ha : Attempt prop svc s s' r) : L s' (r.toList ++ l) := by
  cases ha with
  | missed ht => exact hL.touched h hq ht
  | acquired ht hdev hg => exact hL.grab (hL.touched h hq ht) hq hnamed hdev hg

theorem taken (hL : Follows Q svc L) (h : L s l) (ht : Taken Q svc s s' done) :
    L s' (done ++ l) := by
  induction ht with
  | start => exact h
  | touch hq _ hstep ih => exact hL.touch ih hq hstep
  | grab hq hnamed _ hdev hg ih =>
      refine hL.perm (hL.grab ih hq hnamed hdev hg) ?_
      rw [List.append_assoc]
      exact List.perm_middle.symm

theorem releaseFirst (hL : Follows Q svc L) (h : L s (done ++ l)) :
    (releaseInOrder done s).2 = .ok () ∧ L (releaseInOrder done s).1 l :=
  System.releaseFirst (fun h => hL.release h) h

theorem progress (hL : Follows Q svc L) (h : L s l)
    {r : System × Option (List CuResource)} (hp : Progress Q svc s r) :
    L r.1 (r.2.getD [] ++ l) := by
  rcases hp with ⟨done, hdone, ht⟩ | ⟨s₁, done, hnone, ht, heq⟩
  · rw [hdone]
    exact hL.taken h ht
  · rw [hnone, heq]
    exact (hL.releaseFirst (hL.taken h ht)).2

theorem sameDevice (hL : Follows Q svc L) (h : L s l)
    {r : System × Option (Nat × List CuResource)} (hr : SameDevice Q svc s r) :
    L r.1 ((r.2.map (·.2)).getD [] ++ l) := by
  induction hr with
  | failed => exact h
  | found ht => exact hL.taken h ht
  | retry ht _ ih => exact ih (hL.releaseFirst (hL.taken h ht)).2

/-- A single allocation that leaves the service id alone: with a failure nothing more is taken. -/
theorem allocates (hL : Follows Q svc L) (h : L s l) (hq : Q prop) {updateId : Bool}
    {r : System × Except XrmError CuResource} (ha : Allocates prop updateId s r) :
    (∃ s' e, r = (s', .error e) ∧ L s' l) ∨
      ∃ s₁ res, r = s₁.finishAlloc updateId res ∧ L s₁ (res :: l) := by
  cases ha with
  | failed ht => exact .inl ⟨_, _, rfl, hL.touched h hq ht⟩
  | granted hnamed ha =>
      rw [hL.nextId h] at ha
      exact .inr ⟨_, _, rfl, hL.attempt h hq hnamed ha⟩

end Follows

/-! ## The items of a list with device constraints -/

/-- The results of the items marked allocated. -/
def lentOf : List ItemFlag → List CuResource → List CuResource
  | flag :: flags, res :: results =>
      if flag.allocated then res :: lentOf flags results else lentOf flags results
  | _, _ => []

theorem lentOf_congr {flags flags' : List ItemFlag} (results : List CuResource)
    (h : flags'.map (·.allocated) = flags.map (·.allocated)) :
    lentOf flags' results = lentOf flags results := by
  induction flags generalizing flags' results with
  | nil =>
      rw [List.map_nil, List.map_eq_nil_iff] at h
      rw [h]
  | cons flag flags ih =>
      cases flags' with
      | nil => simp at h
      | cons flag' flags' =>
          rw [List.map_cons, List.map_cons, List.cons.injEq] at h
          cases results with
          | nil => rfl
          | cons res results => rw [lentOf, lentOf, h.1, ih results h.2]

theorem lentOf_eq_nil {flags : List ItemFlag} (results : List CuResource)
    (h : ∀ flag ∈ flags, flag.allocated = false) : lentOf flags results = [] := by
  induction flags generalizing results with
  | nil => rfl
  | cons flag flags ih =>
      cases results with
      | nil => rfl
      | cons res results =>
          rw [lentOf, h flag (by simp)]
          exact ih results fun f hf => h f (by simp [hf])

theorem lentOf_eq_self {flags : List ItemFlag} {results : List CuResource}
    (hlength : flags.length = results.length) (h : ∀ flag ∈ flags, flag.allocated = true) :
    lentOf flags results = results := by
  induction flags generalizing results with
  | nil =>
      rw [List.length_nil, eq_comm, List.length_eq_zero_iff] at hlength
      rw [hlength]
      rfl
  | cons flag flags ih =>
      cases results with
      | nil => simp at hlength
      | cons res results =>
          rw [lentOf, if_pos (h flag (by simp)),
            ih (by simpa using hlength) fun f hf => h f (by simp [hf])]

/-- An item that is recorded adds its result. -/
theorem lentOf_record {flags : List ItemFlag} {results : List CuResource} {i : Nat}
    {flag : ItemFlag} (res : CuResource) (hflag : flags[i]? = some flag)
    (hnot : flag.allocated = false) (hi : i < results.length) :
    (lentOf (flags.modify i fun flag => { flag with allocated := true })
      (results.set i res)).Perm (res :: lentOf flags results) := by
  induction flags generalizing results i with
  | nil => simp at hflag
  | cons head flags ih =>
      cases results with
      | nil => simp at hi
      | cons first results =>
          cases i with
          | zero =>
              rw [List.getElem?_cons_zero, Option.some.injEq] at hflag
              rw [List.modify_zero_cons, List.set_cons_zero, lentOf, if_pos rfl, lentOf, hflag,
                hnot]
              exact List.Perm.refl _
          | succ i =>
              rw [List.getElem?_cons_succ] at hflag
              have hrest := ih hflag (by simpa using hi)
              rw [List.modify_succ_cons, List.set_cons_succ, lentOf, lentOf]
              split
              · exact (hrest.cons first).trans (List.Perm.swap res first _)
              · exact hrest

/-- Releasing the allocated items, in the order of the list. -/
theorem Follows.releaseAllocated (hL : Follows Q svc L) (lent : List CuResource)
    (flags : List ItemFlag) (results : List CuResource)
    (h : L s (lentOf flags results ++ lent)) :
    L (System.releaseAllocated flags results s) lent := by
  induction flags generalizing results s with
  | nil => exact h
  | cons flag flags ih =>
      cases results with
      | nil => exact h
      | cons res results =>
          rw [System.releaseAllocated]
          rw [lentOf] at h
          split
          · rename_i hallocated
            rw [if_pos hallocated] at h
            exact ih results (hL.release h).2
          · rename_i hnot
            rw [if_neg hnot] at h
            exact ih results h

/-! ## The flags of the items -/

theorem getElem?_markHandled (flags : List ItemFlag) (indices : List Nat) (i : Nat) :
    (markHandled flags indices)[i]? =
      flags[i]?.map fun flag => { flag with handled := flag.handled || decide (i ∈ indices) } := by
  induction indices generalizing flags with
  | nil => simp [markHandled]
  | cons k indices ih =>
      have hstep : markHandled flags (k :: indices) =
          markHandled (flags.modify k fun flag => { flag with handled := true }) indices := rfl
      rw [hstep, ih, List.getElem?_modify]
      cases flags[i]? with
      | none => rfl
      | some flag =>
          by_cases hik : k = i
          · simp [hik]
          · simp [hik, Ne.symm hik]

theorem lentOf_markHandled (flags : List ItemFlag) (indices : List Nat)
    (results : List CuResource) :
    lentOf (markHandled flags indices) results = lentOf flags results := by
  refine lentOf_congr results (List.ext_getElem? fun i => ?_)
  rw [List.getElem?_map, List.getElem?_map, getElem?_markHandled, Option.map_map]
  rfl

namespace ListV2State

/-- The results that the state holds. -/
def lent (st : ListV2State) : List CuResource := lentOf st.itemFlags st.cuResources

/-- The states of the flags when more items are allocated. -/
structure Records (st st' : ListV2State) (indices : List Nat) (done : List CuResource) :
    Prop where
  flags : ∀ i : Nat, st'.itemFlags[i]? = st.itemFlags[i]?.map fun flag =>
    { flag with allocated := flag.allocated || decide (i ∈ indices) }
  results : st'.cuResources.length = st.cuResources.length
  lent : st'.lent.Perm (done ++ st.lent)

theorem records_record (st : ListV2State) {index : Nat} {flag : ItemFlag} (res : CuResource)
    (hflag : st.itemFlags[index]? = some flag) (hnot : flag.allocated = false)
    (hresults : st.cuResources.length = st.itemFlags.length) :
    st.Records (st.record index res) [index] [res] where
  flags := by
    intro i
    rw [record, List.getElem?_modify]
    cases st.itemFlags[i]? with
    | none => rfl
    | some flag =>
        by_cases hik : index = i
        · simp [hik]
        · simp [hik, Ne.symm hik]
  results := List.length_set
  lent := lentOf_record res hflag hnot
    (by rw [hresults]; exact (List.getElem?_eq_some_iff.mp hflag).1)

theorem Records.trans {st st₁ st₂ : ListV2State} {indices indices₁ : List Nat}
    {done done₁ : List CuResource} (h : st.Records st₁ indices done)
    (h₁ : st₁.Records st₂ indices₁ done₁) :
    st.Records st₂ (indices ++ indices₁) (done₁ ++ done) where
  flags := by
    intro i
    rw [h₁.flags, h.flags, Option.map_map]
    congr 1
    funext flag
    simp [Bool.or_assoc, Bool.decide_or]
  results := h₁.results.trans h.results
  lent := by
    rw [List.append_assoc]
    exact h₁.lent.trans (h.lent.append_left done₁)

theorem records_recordAll (st : ListV2State) {indices : List Nat} {done : List CuResource}
    (hlength : indices.length = done.length) (hnodup : indices.Nodup)
    (hnot : ∀ i ∈ indices, ∃ flag, st.itemFlags[i]? = some flag ∧ flag.allocated = false)
    (hresults : st.cuResources.length = st.itemFlags.length) :
    ∃ done', done'.Perm done ∧ st.Records (st.recordAll indices done) indices done' := by
  induction indices generalizing st done with
  | nil =>
      rw [List.length_nil, eq_comm, List.length_eq_zero_iff] at hlength
      subst hlength
      exact ⟨[], List.Perm.refl _, fun i => by simp [recordAll], rfl, List.Perm.refl _⟩
  | cons index indices ih =>
      cases done with
      | nil => simp at hlength
      | cons res done =>
          obtain ⟨hnotin, hnodup⟩ := List.nodup_cons.mp hnodup
          obtain ⟨flag, hflag, hfree⟩ := hnot index (by simp)
          have hone := records_record st res hflag hfree hresults
          have hfree' : ∀ i ∈ indices, ∃ flag, (st.record index res).itemFlags[i]? = some flag ∧
              flag.allocated = false := by
            intro i hi
            obtain ⟨flag, hflag, hfree⟩ := hnot i (by simp [hi])
            have hne : i ≠ index := fun heq => hnotin (heq ▸ hi)
            refine ⟨_, by rw [hone.flags, hflag]; rfl, ?_⟩
            simp [hfree, hne]
          have hresults' : (st.record index res).cuResources.length =
              (st.record index res).itemFlags.length := by
            rw [hone.results, hresults]
            simp [record]
          obtain ⟨done', hperm, hrest⟩ := ih (st.record index res) (by simpa using hlength) hnodup
            hfree' hresults'
          refine ⟨done' ++ [res], ?_, hone.trans hrest⟩
          exact (List.perm_append_singleton res done').trans (hperm.cons res)

/-- The state between two rounds: all items that are handled are allocated, and their results
are all that was taken. -/
structure Between (L : System → List CuResource → Prop) (props : List CuPropertyV2)
    (st : ListV2State) : Prop where
  kept : L st.s st.lent
  settled : ∀ flag ∈ st.itemFlags, flag.allocated = flag.handled
  flags : st.itemFlags.length = props.length
  results : st.cuResources.length = props.length

/-- A round that marks items and allocates the same items. -/
theorem Between.round {props : List CuPropertyV2} {st st₁ st' : ListV2State}
    {indices marked : List Nat} {done : List CuResource} (h : st.Between L props)
    (hr : st₁.Records st' indices done) (hst₁ : st₁.itemFlags = markHandled st.itemFlags marked)
    (hresults₁ : st₁.cuResources = st.cuResources)
    (hkept : L st'.s st'.lent) (hsame : ∀ i, i ∈ marked ↔ i ∈ indices) :
    st'.Between L props ∧ ∀ (i : Nat) (flag : ItemFlag), st'.itemFlags[i]? = some flag →
      (i ∈ marked ∨ ∃ flag₀ ∈ st.itemFlags[i]?, flag₀.handled = true) → flag.handled = true := by
  have hflags : ∀ i : Nat, st'.itemFlags[i]? = st.itemFlags[i]?.map fun flag =>
      ({ handled := flag.handled || decide (i ∈ marked)
         allocated := flag.allocated || decide (i ∈ marked) } : ItemFlag) := by
    intro i
    rw [hr.flags, hst₁, getElem?_markHandled, Option.map_map]
    simp only [hsame i]
    rfl
  refine ⟨⟨hkept, ?_, ?_, ?_⟩, ?_⟩
  · intro flag hflag
    obtain ⟨i, hi⟩ := List.mem_iff_getElem?.mp hflag
    rw [hflags, Option.map_eq_some_iff] at hi
    obtain ⟨flag₀, hflag₀, rfl⟩ := hi
    simp only [h.settled flag₀ (List.mem_of_getElem? hflag₀)]
  · rw [← h.flags]
    have hmap : st'.itemFlags = st.itemFlags.mapIdx fun i flag =>
        ({ handled := flag.handled || decide (i ∈ marked)
           allocated := flag.allocated || decide (i ∈ marked) } : ItemFlag) :=
      List.ext_getElem? fun i => by rw [hflags, List.getElem?_mapIdx]
    rw [hmap, List.length_mapIdx]
  · rw [hr.results, hresults₁, h.results]
  · intro i flag hi hor
    rw [hflags, Option.map_eq_some_iff] at hi
    obtain ⟨flag₀, hflag₀, rfl⟩ := hi
    rcases hor with hmem | ⟨flag₁, hflag₁, hhandled⟩
    · simp [hmem]
    · rw [hflag₀, Option.mem_some_iff] at hflag₁
      simp [hflag₁, hhandled]

end ListV2State

/-! ## The rounds -/

theorem allocItemsOnDev_length {devId : Nat} {props : List CuProperty}
    {done done' : List CuResource}
    (h : allocItemsOnDev devId props s done = (s', some done')) :
    done'.length = done.length + props.length := by
  induction props generalizing s done with
  | nil =>
      rw [allocItemsOnDev, Prod.mk.injEq, Option.some.injEq] at h
      rw [← h.2]
      rfl
  | cons prop props ih =>
      rw [allocItemsOnDev] at h
      split at h
      · simp at h
      split at h
      · simp at h
      split at h
      · rw [ih h, List.length_append, List.length_singleton, List.length_cons]
        omega
      · simp at h

theorem allocOnSameDevice_length {props : List CuProperty} {usedDevIds devIds : List Nat}
    {devId : Nat} {done : List CuResource}
    (h : allocOnSameDevice props usedDevIds devIds s = (s', some (devId, done))) :
    done.length = props.length := by
  induction devIds generalizing s with
  | nil => simp [allocOnSameDevice] at h
  | cons devId' devIds ih =>
      rw [allocOnSameDevice] at h
      split at h
      · split at h
        · rename_i heq
          simp only [Prod.mk.injEq, Option.some.injEq] at h
          rw [← h.2.2, allocItemsOnDev_length heq, List.length_nil, Nat.zero_add]
        · exact ih h
      · exact ih h

/-- The items of a sub-list are there and not yet allocated. -/
theorem subListIndices_spec {props : List CuPropertyV2} {flags : List ItemFlag}
    {deviceIndex i : Nat} {rest : List Nat}
    (hi : i ∈ subListIndices props flags deviceIndex rest) : i ∈ rest ∧
      (flags.getD i ⟨false, false⟩).handled = false ∧ i < props.length := by
  obtain ⟨hmem, hsel⟩ := List.mem_filter.mp hi
  rw [Bool.and_eq_true, Bool.not_eq_true'] at hsel
  refine ⟨hmem, hsel.1, ?_⟩
  by_contra hge
  rw [List.getElem?_eq_none (by omega)] at hsel
  simp at hsel

/-- The outcome of a round or of all rounds: the results are all that was taken, and with success
the items are handled. -/
structure Rounds (L : System → List CuResource → Prop) (props : List CuPropertyV2)
    (indices : List Nat)
    (st : ListV2State) (r : ListV2State × Except XrmError Unit) : Prop where
  kept : L r.1.s r.1.lent
  between : r.2 = .ok () → r.1.Between L props
  handled : r.2 = .ok () → ∀ (i : Nat) (flag : ItemFlag), r.1.itemFlags[i]? = some flag →
    (i ∈ indices ∨ ∃ flag₀ ∈ st.itemFlags[i]?, flag₀.handled = true) → flag.handled = true

theorem length_markHandled (flags : List ItemFlag) (indices : List Nat) :
    (markHandled flags indices).length = flags.length := by
  induction indices generalizing flags with
  | nil => rfl
  | cons k indices ih =>
      have hstep : markHandled flags (k :: indices) =
          markHandled (flags.modify k fun flag => { flag with handled := true }) indices := rfl
      rw [hstep, ih, List.length_modify]

section Round

variable {props : List CuPropertyV2} {index : Nat} {propV2 : CuPropertyV2} {rest : List Nat}
  {st : ListV2State}

/-- An item that is not handled is not allocated. -/
theorem ListV2State.Between.free (h : st.Between L props) (marked : List Nat) {i : Nat}
    (hi : i < props.length) (hnot : (st.itemFlags.getD i ⟨false, false⟩).handled = false) :
    ∃ flag, (markHandled st.itemFlags marked)[i]? = some flag ∧ flag.allocated = false := by
  rw [← h.flags] at hi
  rw [List.getD_eq_getElem _ _ hi] at hnot
  refine ⟨_, by rw [getElem?_markHandled, List.getElem?_eq_getElem hi]; rfl, ?_⟩
  exact (h.settled _ (List.getElem_mem hi)).trans hnot

/-- Marking items changes nothing of what was taken. -/
theorem ListV2State.Between.marked (h : st.Between L props) (marked : List Nat) :
    L st.s (lentOf (markHandled st.itemFlags marked) st.cuResources) ∧
      st.cuResources.length = (markHandled st.itemFlags marked).length := by
  rw [lentOf_markHandled, length_markHandled, h.results, h.flags]
  exact ⟨h.kept, rfl⟩

/-- A round that allocates one item, from any device or from one device. -/
theorem ListV2State.Between.granted (hL : Follows Q svc L) (h : st.Between L props)
    (hq : Q (cuPropertyCopyFromV2 propV2)) (hlt : index < props.length)
    (hnot : (st.itemFlags.getD index ⟨false, false⟩).handled = false) {res : CuResource}
    (ha : Allocates (cuPropertyCopyFromV2 propV2) false st.s (s', .ok res)) :
    Rounds L props [index] st (ListV2State.record
      { st with s := s', itemFlags := markHandled st.itemFlags [index] } index res, .ok ()) := by
  obtain ⟨hkept, hresults⟩ := h.marked [index]
  obtain ⟨flag, hflag, hfree⟩ := h.free [index] hlt hnot
  rcases hL.allocates hkept hq ha with ⟨s₁, e, heq, -⟩ | ⟨s₁, res', heq, hmore⟩
  · simp at heq
  rw [finishAlloc, Prod.mk.injEq, Except.ok.injEq] at heq
  obtain ⟨rfl, rfl⟩ := heq
  have hrecords := ListV2State.records_record { st with
    s := s', itemFlags := markHandled st.itemFlags [index] } res hflag hfree hresults
  have hkept' := hL.perm hmore hrecords.lent.symm
  obtain ⟨hbetween, hhandled⟩ := h.round hrecords rfl rfl hkept' fun i => Iff.rfl
  exact ⟨hkept', fun _ => hbetween, fun _ => hhandled⟩

/-- A round that fails to allocate its item. -/
theorem ListV2State.Between.refused (hL : Follows Q svc L) (h : st.Between L props)
    (hq : Q (cuPropertyCopyFromV2 propV2)) {e : XrmError}
    (ha : Allocates (cuPropertyCopyFromV2 propV2) false st.s (s', .error e)) :
    Rounds L props [index] st
      ({ st with s := s', itemFlags := markHandled st.itemFlags [index] }, .error e) := by
  obtain ⟨hkept, -⟩ := h.marked [index]
  rcases hL.allocates hkept hq ha with ⟨s₁, e', heq, hmore⟩ | ⟨s₁, res, heq, -⟩
  · obtain ⟨rfl, -⟩ := Prod.mk.injEq _ _ _ _ ▸ heq
    exact ⟨hmore, by simp, by simp⟩
  · simp [finishAlloc] at heq

/-- A round for the items of a virtual device. -/
theorem ListV2State.Between.subList (hL : Follows Q svc L) (h : st.Between L props)
    (hlt : index < props.length)
    (hnot : (st.itemFlags.getD index ⟨false, false⟩).handled = false)
    (hnodup : (index :: rest).Nodup) {indices : List Nat}
    (hindices : indices = index :: subListIndices props (markHandled st.itemFlags [index])
      propV2.deviceIndex rest) {done : List CuResource} (hlength : indices.length = done.length)
    (hkept : L s' (done ++ lentOf (markHandled st.itemFlags (index :: indices))
      st.cuResources)) (usedDevIds : List Nat) :
    Rounds L props [index] st
      ({ ListV2State.recordAll { st with
          s := s', itemFlags := markHandled st.itemFlags (index :: indices) }
          indices done with usedDevIds }, .ok ()) := by
  obtain ⟨hnotin, hrest⟩ := List.nodup_cons.mp hnodup
  have hmember : ∀ i ∈ indices, i < props.length ∧
      (st.itemFlags.getD i ⟨false, false⟩).handled = false := by
    intro i hi
    rw [hindices] at hi
    rcases List.mem_cons.mp hi with rfl | hi
    · exact ⟨hlt, hnot⟩
    · obtain ⟨hmem, hhandled, hi⟩ := subListIndices_spec hi
      have hne : i ≠ index := fun heq => hnotin (heq ▸ hmem)
      rw [List.getD_eq_getElem?_getD, getElem?_markHandled] at hhandled
      refine ⟨hi, ?_⟩
      rw [List.getD_eq_getElem?_getD]
      cases hflag : st.itemFlags[i]? with
      | none => rfl
      | some flag => simpa [hflag, hne] using hhandled
  have hnodup' : indices.Nodup := by
    rw [hindices]
    refine List.nodup_cons.mpr ⟨fun hmem => hnotin (subListIndices_spec hmem).1, ?_⟩
    exact hrest.filter _
  obtain ⟨done', hperm, hrecords⟩ := ListV2State.records_recordAll { st with
    s := s', itemFlags := markHandled st.itemFlags (index :: indices) } hlength hnodup'
    (fun i hi => h.free _ (hmember i hi).1 (hmember i hi).2) (h.marked _).2
  have hkept' : L (ListV2State.recordAll { st with
      s := s', itemFlags := markHandled st.itemFlags (index :: indices) } indices done).s
      (ListV2State.recordAll { st with
        s := s', itemFlags := markHandled st.itemFlags (index :: indices) } indices done).lent := by
    rw [ListV2State.recordAll_s]
    exact hL.perm hkept ((hperm.symm.append_right _).trans hrecords.lent.symm)
  have hround := h.round hrecords rfl rfl hkept' fun i => by simp [hindices]
  refine ⟨hkept', fun _ => ?_, fun _ i flag hi hor => hround.2 i flag hi ?_⟩
  · exact ⟨hround.1.kept, hround.1.settled, hround.1.flags, hround.1.results⟩
  · exact hor.imp_left fun hmem => by simp_all

theorem allocItemV2_rounds (hL : Follows Q svc L)
    (hq : ∀ propV2 ∈ props, Q (cuPropertyCopyFromV2 propV2))
    (hprop : props[index]? = some propV2) (hnodup : (index :: rest).Nodup)
    (h : st.Between L props)
    (hnot : (st.itemFlags.getD index ⟨false, false⟩).handled = false) :
    Rounds L props [index] st (allocItemV2 props index propV2 rest
      { st with itemFlags := markHandled st.itemFlags [index] }) := by
  have hq' := hq propV2 (List.mem_of_getElem? hprop)
  have hlt := (List.getElem?_eq_some_iff.mp hprop).1
  rw [allocItemV2]
  simp only
  split
  · have hone := st.s.resAllocCu_allocates (cuPropertyCopyFromV2 propV2) false
    split
    · rename_i heq
      rw [heq] at hone
      exact h.granted hL hq' hlt hnot hone
    · rename_i heq
      rw [heq] at hone
      exact h.refused hL hq' hone
  split
  · have hone := st.s.resAllocCuFromDev_allocates (i32 propV2.deviceIndex)
      (cuPropertyCopyFromV2 propV2) false
    split
    · rename_i heq
      rw [heq] at hone
      exact h.granted hL hq' hlt hnot hone
    · rename_i heq
      rw [heq] at hone
      exact h.refused hL hq' hone
  split
  · generalize hindices : index :: subListIndices props (markHandled st.itemFlags [index])
      propV2.deviceIndex rest = indices
    have hsub : ∀ prop ∈ (indices.filterMap fun i => props[i]?).map cuPropertyCopyFromV2,
        Q prop := forall_subList hq _
    have hmark : markHandled (markHandled st.itemFlags [index]) indices =
        markHandled st.itemFlags (index :: indices) := rfl
    obtain ⟨hkept, -⟩ := h.marked (index :: indices)
    have hsame := hL.sameDevice hkept
      (allocOnSameDevice_spec _ hsub st.usedDevIds (List.range st.s.numDevice) st.s
        (hL.nextId hkept).symm)
    rw [hmark]
    split
    · rename_i s₁ devId done heq
      rw [heq] at hsame
      have hlength := allocOnSameDevice_length heq
      rw [List.length_map, List.filterMap_length_eq_length.mpr] at hlength
      · exact h.subList hL hlt hnot hnodup hindices.symm hlength.symm hsame _
      · intro i hi
        rw [← hindices] at hi
        rcases List.mem_cons.mp hi with rfl | hi
        · simp [hprop]
        · simp [(subListIndices_spec hi).2.2]
    · rename_i heq
      rw [heq] at hsame
      exact ⟨hsame, by simp, by simp⟩
  · exact ⟨(h.marked [index]).1, by simp, by simp⟩

theorem allocItemsV2_rounds (hL : Follows Q svc L)
    (hq : ∀ propV2 ∈ props, Q (cuPropertyCopyFromV2 propV2)) (indices : List Nat)
    (hnodup : indices.Nodup) (hlt : ∀ i ∈ indices, i < props.length) (h : st.Between L props) :
    Rounds L props indices st (allocItemsV2 props indices st) := by
  induction indices generalizing st with
  | nil =>
      refine ⟨h.kept, fun _ => h, fun _ i flag hi hor => ?_⟩
      rcases hor with hmem | ⟨flag₀, hflag₀, hhandled⟩
      · simp at hmem
      · rw [show st.itemFlags[i]? = some flag from hi, Option.mem_some_iff] at hflag₀
        rwa [hflag₀]
  | cons index rest ih =>
      obtain ⟨-, hrest⟩ := List.nodup_cons.mp hnodup
      have hi := hlt index (by simp)
      have hlt' : ∀ i ∈ rest, i < props.length := fun i hi => hlt i (by simp [hi])
      have hflags := h.flags
      rw [allocItemsV2]
      split
      · rename_i hhandled
        have hr := ih hrest hlt' h
        refine ⟨hr.kept, hr.between, fun hok i flag hflag hor => hr.handled hok i flag hflag ?_⟩
        rcases hor with hmem | hor
        · rcases List.mem_cons.mp hmem with rfl | hmem
          · rw [List.getD_eq_getElem _ _ (by omega)] at hhandled
            exact .inr ⟨_, List.getElem?_eq_getElem (by omega), hhandled⟩
          · exact .inl hmem
        · exact .inr hor
      rename_i hnot
      rw [List.getElem?_eq_getElem hi]
      have hround :=
        allocItemV2_rounds hL hq (List.getElem?_eq_getElem hi) hnodup h (by simpa using hnot)
      simp only
      split
      · rename_i st₁ heq
        rw [heq] at hround
        have hr := ih hrest hlt' (hround.between rfl)
        refine ⟨hr.kept, hr.between, fun hok i flag hflag hor => hr.handled hok i flag hflag ?_⟩
        by_cases hmem : i ∈ rest
        · exact .inl hmem
        · have hlen : i < st₁.itemFlags.length := by
            have := (List.getElem?_eq_some_iff.mp hflag).1
            have := (hr.between hok).flags
            have := (hround.between rfl).flags
            simp only at *
            omega
          refine .inr ⟨_, List.getElem?_eq_getElem hlen, ?_⟩
          refine hround.handled rfl i _ (List.getElem?_eq_getElem hlen) ?_
          exact hor.imp_left fun h => by simpa [hmem] using h
      · rename_i heq
        rw [heq] at hround
        exact ⟨hround.kept, by simp, by simp⟩

end Round

/-! ## All list allocations -/

/-- The outcome of a list allocation: nothing is kept, or a list of results. -/
inductive ListEnds (L : System → List CuResource → Prop) :
    System × Except XrmError CuListResource → Prop where
  | refused {s' : System} {e : XrmError} (h : L s' []) : ListEnds L (s', .error e)
  | granted {s₁ : System} {done : List CuResource} (h : L s₁ done)
      (hlength : done.length ≤ maxListCuNumV2) :
      ListEnds L (s₁.updateAllocServiceId, .ok (listResource done))

theorem allocItems_length {props : List CuProperty}
    (h : allocItems props s done = (s', some l)) : l.length = done.length + props.length := by
  induction props generalizing s done with
  | nil =>
      rw [allocItems, Prod.mk.injEq, Option.some.injEq] at h
      rw [← h.2]
      rfl
  | cons prop props ih =>
      rw [allocItems] at h
      split at h
      · rw [ih h, List.length_append, List.length_singleton, List.length_cons]
        omega
      · simp at h

theorem items_length_le {listProp : CuListProperty} (h : listProp.cuNum ≤ maxListCuNum) :
    listProp.items.length ≤ maxListCuNumV2 := by
  rw [CuListProperty.items, List.length_take, maxListCuNumV2]
  rw [maxListCuNum] at h
  omega

theorem resAllocCuList_ends (hL : Follows Q svc L) (h : L s []) {listProp : CuListProperty}
    (hq : ∀ prop ∈ listProp.items, Q prop) : ListEnds L (s.resAllocCuList listProp) := by
  have hsvc := (hL.nextId h).symm
  rw [resAllocCuList]
  split
  · exact .refused h
  rename_i hnum
  have hle : listProp.items.length ≤ maxListCuNumV2 := items_length_le (by omega)
  split
  · have hsame := hL.sameDevice h
      (allocOnSameDevice_spec listProp.items hq [] (List.range s.numDevice) s hsvc)
    split
    · rename_i heq
      rw [heq] at hsame
      refine .granted (by simpa using hsame) ?_
      rw [allocOnSameDevice_length heq]
      exact hle
    · rename_i heq
      rw [heq] at hsame
      exact .refused hsame
  · have hitems := hL.progress h (allocItems_progress listProp.items hq s [] hsvc .start)
    split
    · rename_i heq
      rw [heq] at hitems
      refine .granted (by simpa using hitems) ?_
      rw [allocItems_length heq, List.length_nil, Nat.zero_add]
      exact hle
    · rename_i heq
      rw [heq] at hitems
      exact .refused hitems

theorem resAllocCuListV2_ends (hL : Follows Q svc L) (h : L s []) {listProp : CuListPropertyV2}
    (hq : ∀ propV2 ∈ listProp.items, Q (cuPropertyCopyFromV2 propV2)) :
    ListEnds L (s.resAllocCuListV2 listProp) := by
  rw [resAllocCuListV2]
  split
  · exact .refused h
  rename_i hnum
  have hnone : lentOf (listProp.items.map fun _ => ⟨false, false⟩)
      (listProp.items.map fun _ => CuResource.zero) = [] := by
    refine lentOf_eq_nil _ fun flag hflag => ?_
    obtain ⟨_, -, rfl⟩ := List.mem_map.mp hflag
    rfl
  have hstart : ListV2State.Between L listProp.items
      { s := s
        itemFlags := listProp.items.map fun _ => ⟨false, false⟩
        cuResources := listProp.items.map fun _ => CuResource.zero
        usedDevIds := [] } := by
    refine ⟨?_, ?_, List.length_map _, List.length_map _⟩
    · rw [ListV2State.lent, hnone]
      exact h
    · intro flag hflag
      obtain ⟨_, -, rfl⟩ := List.mem_map.mp hflag
      rfl
  have hrounds := allocItemsV2_rounds hL hq (List.range listProp.items.length) List.nodup_range
    (fun i hi => List.mem_range.mp hi) hstart
  simp only
  split
  · rename_i st heq
    rw [heq] at hrounds
    have hbetween := hrounds.between rfl
    have hall : st.lent = st.cuResources := by
      refine lentOf_eq_self (hbetween.flags.trans hbetween.results.symm) fun flag hflag => ?_
      obtain ⟨i, hi⟩ := List.mem_iff_getElem?.mp hflag
      have hlt : i < listProp.items.length := by
        rw [← hbetween.flags]
        exact (List.getElem?_eq_some_iff.mp hi).1
      rw [hbetween.settled flag hflag]
      exact hrounds.handled rfl i flag hi (.inl (List.mem_range.mpr hlt))
    refine .granted (hall ▸ hrounds.kept) ?_
    rw [hbetween.results, CuListPropertyV2.items, List.length_take]
    omega
  · rename_i st e heq
    rw [heq] at hrounds
    refine .refused (hL.releaseAllocated [] st.itemFlags st.cuResources ?_)
    rw [List.append_nil]
    exact hrounds.kept

theorem allocOptions_ends {α : Type}
    {alloc : System → α → System × Except XrmError CuListResource} (options : List α)
    (halloc : ∀ option ∈ options, ∀ s, L s [] → ListEnds L (alloc s option)) (h : L s [])
    (e : XrmError) : ListEnds L (allocOptions alloc options s e) := by
  induction options generalizing s e with
  | nil => exact .refused h
  | cons option options ih =>
      have hone := halloc option (by simp) s h
      rw [allocOptions]
      generalize alloc s option = r at hone
      cases hone with
      | refused h' => exact ih (fun o ho => halloc o (by simp [ho])) h' _
      | granted h' hlength => exact .granted h' hlength

/-- The items of a group's options, as they are requested. -/
theorem resAllocCuGroup_ends (hL : Follows Q svc L) (h : L s []) {groupProp : CuGroupProperty}
    (hq : ∀ group ∈ s.udfCuGroups, group.udfCuGroupName = groupProp.udfCuGroupName →
      ∀ option ∈ group.optionUdfCuListProps, ∀ prop ∈ (groupOption groupProp option).items,
        Q prop) : ListEnds L (s.resAllocCuGroup groupProp) := by
  rw [resAllocCuGroup]
  split
  · exact .refused h
  rename_i group hfind
  have hmem := List.mem_of_find?_eq_some hfind
  have hname : group.udfCuGroupName = groupProp.udfCuGroupName := by
    simpa using List.find?_some hfind
  exact allocOptions_ends _ (fun option hoption s h => resAllocCuList_ends hL h
    (hq group hmem hname option (List.mem_of_mem_take hoption))) h _

theorem resAllocCuGroupV2_ends (hL : Follows Q svc L) (h : L s []) {groupProp : CuGroupProperty}
    (hq : ∀ group ∈ s.udfCuGroupsV2, group.udfCuGroupName = groupProp.udfCuGroupName →
      ∀ option ∈ group.optionUdfCuListProps, ∀ prop ∈ (groupOptionV2 groupProp option).items,
        Q (cuPropertyCopyFromV2 prop)) : ListEnds L (s.resAllocCuGroupV2 groupProp) := by
  rw [resAllocCuGroupV2]
  split
  · exact .refused h
  rename_i group hfind
  have hmem := List.mem_of_find?_eq_some hfind
  have hname : group.udfCuGroupName = groupProp.udfCuGroupName := by
    simpa using List.find?_some hfind
  exact allocOptions_ends _ (fun option hoption s h => resAllocCuListV2_ends hL h
    (hq group hmem hname option (List.mem_of_mem_take hoption))) h _

end System

end Xrm
