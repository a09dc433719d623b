import Xrm.Verification.Recording
import Xrm.Verification.Undo

/-! # Version 2 allocations beside version 1

For requests that name a kernel or an alias the version 2 allocations do what the version 1
allocations do: lists without a device constraint, lists on one virtual device, and single
requests on a given device without a policy.
-/

namespace Xrm

variable {s s' : System} {prop : CuProperty} {propV2 : CuPropertyV2} {svc policyInfo devId : Nat}

/-- The two allocations succeed together, with the same result and the same state. -/
def Agree {α : Type} (r r' : System × Except XrmError α) : Prop :=
  ∀ (s' : System) (res : α), r = (s', .ok res) ↔ r' = (s', .ok res)

theorem agree_of_errors {α : Type} {e e' : XrmError} :
    Agree ((s, .error e) : System × Except XrmError α) (s', .error e') := by
  intro s₁ res
  simp

/-- The list request for the items. -/
def listRequest (items : List CuProperty) (sameDevice : Bool) : CuListProperty where
  cuProps := items
  cuNum := items.length
  sameDevice := sameDevice

def listRequestV2 (items : List CuPropertyV2) : CuListPropertyV2 where
  cuProps := items
  cuNum := items.length

@[simp] theorem listRequest_items (items : List CuProperty) (sameDevice : Bool) :
    (listRequest items sameDevice).items = items := by
  simp [listRequest, CuListProperty.items]

@[simp] theorem listRequestV2_items (items : List CuPropertyV2) :
    (listRequestV2 items).items = items := by
  simp [listRequestV2, CuListPropertyV2.items]

namespace System

/-- Without a CU name the copy asks for all that the version 2 request asks for. -/
theorem asked_eq (h : propV2.cuName = "") : asked propV2 = cuPropertyCopyFromV2 propV2 := by
  rw [asked, h]
  rfl

theorem map_asked {items : List CuPropertyV2} (h : ∀ propV2 ∈ items, propV2.cuName = "") :
    items.map asked = items.map cuPropertyCopyFromV2 :=
  List.map_congr_left fun propV2 hpropV2 => asked_eq (h propV2 hpropV2)

/-! ## Lists without a device constraint -/

/-- The rounds for the items `post` behind the items `pre`, when no item has a constraint: they
do what the item loop of version 1 does. -/
theorem allocItemsV2_unconstrained {props : List CuPropertyV2}
    (hnull : ∀ propV2 ∈ props, propV2.constraintType = constraintNull)
    (post pre : List CuPropertyV2) (hprops : props = pre ++ post) (st : ListV2State)
    (done : List CuResource) (hdone : done.length = pre.length)
    (hflags : st.itemFlags =
      (pre.map fun _ => ⟨true, true⟩) ++ post.map fun _ => ⟨false, false⟩)
    (hresults : st.cuResources = done ++ post.map fun _ => CuResource.zero) :
    (∃ st' done', allocItemsV2 props (List.range' pre.length post.length) st = (st', .ok ()) ∧
        allocItems (post.map cuPropertyCopyFromV2) st.s done = (st'.s, some done') ∧
          st'.cuResources = done') ∨
      ∃ st' e s', allocItemsV2 props (List.range' pre.length post.length) st = (st', .error e) ∧
        allocItems (post.map cuPropertyCopyFromV2) st.s done = (s', none) := by
  induction post generalizing pre st done with
  | nil => exact .inl ⟨st, done, rfl, rfl, by simpa using hresults⟩
  | cons propV2 post ih =>
      have hget : props[pre.length]? = some propV2 := by simp [hprops]
      have hflag : st.itemFlags.getD pre.length ⟨false, false⟩ = ⟨false, false⟩ := by
        simp [hflags]
      have hconstraint := hnull propV2 (by simp [hprops])
      have hmark : markHandled st.itemFlags [pre.length] =
          (pre.map fun _ => ⟨true, true⟩) ++ ⟨true, false⟩ ::
            post.map fun _ => ⟨false, false⟩ := by
        have hmid := FixedTable.modify_mid (pre.map fun _ => (⟨true, true⟩ : ItemFlag))
          (post.map fun _ => ⟨false, false⟩) ⟨false, false⟩
          fun flag => { flag with handled := true }
        rw [List.length_map] at hmid
        rw [hflags, markHandled, List.foldl_cons, List.foldl_nil, List.map_cons, hmid]
      rw [List.length_cons, List.range'_succ, allocItemsV2, hflag, hget]
      simp only [Bool.false_eq_true, if_false]
      rw [allocItemV2]
      simp only [hconstraint, if_true]
      rw [List.map_cons, allocItems]
      cases halloc : st.s.resAllocCu (cuPropertyCopyFromV2 propV2) false with
      | mk s₁ r =>
          cases r with
          | error e => exact .inr ⟨_, e, _, rfl, rfl⟩
          | ok res =>
              simp only
              have hrest := ih (pre ++ [propV2]) (by simp [hprops])
                ({ st with s := s₁, itemFlags := markHandled st.itemFlags [pre.length] }.record
                  pre.length res) (done ++ [res]) (by simp [hdone])
                (by
                  have hmid := FixedTable.modify_mid (pre.map fun _ => (⟨true, true⟩ : ItemFlag))
                    (post.map fun _ => ⟨false, false⟩) ⟨true, false⟩
                    fun flag => { flag with allocated := true }
                  rw [List.length_map] at hmid
                  simp only [ListV2State.record, hmark, hmid]
                  simp)
                (by simp [ListV2State.record, hresults, ← hdone])
              rw [List.length_append, List.length_singleton] at hrest
              exact hrest

/-! ## Lists on one virtual device -/

theorem recordAll_s (st : ListV2State) (indices : List Nat) (results : List CuResource) :
    (st.recordAll indices results).s = st.s := by
  induction indices generalizing st results with
  | nil => rfl
  | cons index indices ih =>
      cases results with
      | nil => rfl
      | cons res results =>
          rw [ListV2State.recordAll, ih]
          rfl

theorem recordAll_handled (st : ListV2State) (indices : List Nat) (results : List CuResource) :
    (st.recordAll indices results).itemFlags.map (·.handled) = st.itemFlags.map (·.handled) := by
  induction indices generalizing st results with
  | nil => rfl
  | cons index indices ih =>
      cases results with
      | nil => rfl
      | cons res results =>
          rw [ListV2State.recordAll, ih, ListV2State.record]
          refine List.ext_getElem? fun i => ?_
          simp only [List.getElem?_map, List.getElem?_modify]
          split <;> cases st.itemFlags[i]? <;> rfl

theorem handled_congr {flags flags' : List ItemFlag}
    (h : flags.map (·.handled) = flags'.map (·.handled)) (i : Nat) :
    (flags.getD i ⟨false, false⟩).handled = (flags'.getD i ⟨false, false⟩).handled := by
  have hi := congrArg (fun l : List Bool => l[i]?) h
  simp only [List.getElem?_map] at hi
  rw [List.getD_eq_getElem?_getD, List.getD_eq_getElem?_getD]
  cases hflag : flags[i]? <;> cases hflag' : flags'[i]? <;> simp_all

/-- The results of all items are recorded in their order. -/
theorem recordAll_cuResources (st : ListV2State) (results pre post : List CuResource)
    (hlength : post.length = results.length) (hst : st.cuResources = pre ++ post) :
    (st.recordAll (List.range' pre.length results.length) results).cuResources =
      pre ++ results := by
  induction results generalizing st pre post with
  | nil =>
      rw [List.length_nil, List.length_eq_zero_iff] at hlength
      rw [hlength] at hst
      exact hst
  | cons res results ih =>
      cases post with
      | nil => simp at hlength
      | cons old post =>
          have hrest := ih (st.record pre.length res) (pre ++ [res]) post (by simpa using hlength)
            (by simp [ListV2State.record, hst])
          rw [List.length_append, List.length_singleton] at hrest
          rw [List.length_cons, List.range'_succ, ListV2State.recordAll, hrest,
            List.append_assoc, List.singleton_append]

/-- Rounds for items that are handled do nothing. -/
theorem allocItemsV2_handled {props : List CuPropertyV2} (indices : List Nat) (st : ListV2State)
    (h : ∀ i ∈ indices, (st.itemFlags.getD i ⟨false, false⟩).handled = true) :
    allocItemsV2 props indices st = (st, .ok ()) := by
  induction indices with
  | nil => rfl
  | cons index indices ih =>
      rw [allocItemsV2, if_pos (h index (by simp)), ih fun i hi => h i (by simp [hi])]

theorem filterMap_suffix {α : Type} (pre post : List α) :
    (List.range' pre.length post.length).filterMap (fun i => (pre ++ post)[i]?) = post := by
  induction post generalizing pre with
  | nil => rfl
  | cons a post ih =>
      have hrest := ih (pre ++ [a])
      rw [List.length_append, List.length_singleton, List.append_assoc,
        List.singleton_append] at hrest
      rw [List.length_cons, List.range'_succ, List.filterMap_cons, hrest]
      simp

/-- The first round, when all items are on one virtual device, is the same-device allocation of
version 1 for all of them. -/
theorem allocItemsV2_virtual {props : List CuPropertyV2} (hne : props ≠ []) {index : Nat}
    (hvirtual : ∀ propV2 ∈ props, propV2.constraintType = constraintVirtualDeviceIndex ∧
      propV2.deviceIndex = index) (st : ListV2State)
    (hflags : st.itemFlags = props.map fun _ => ⟨false, false⟩)
    (hresults : st.cuResources = props.map fun _ => CuResource.zero)
    (hused : st.usedDevIds = []) :
    (∃ st' devId done', allocItemsV2 props (List.range props.length) st = (st', .ok ()) ∧
        allocOnSameDevice (props.map cuPropertyCopyFromV2) [] (List.range st.s.numDevice) st.s =
          (st'.s, some (devId, done')) ∧ st'.cuResources = done') ∨
      ∃ st' e s', allocItemsV2 props (List.range props.length) st = (st', .error e) ∧
        allocOnSameDevice (props.map cuPropertyCopyFromV2) [] (List.range st.s.numDevice) st.s =
          (s', none) := by
  cases props with
  | nil => exact absurd rfl hne
  | cons propV2 post =>
      have hlen : (propV2 :: post).length = post.length + 1 := List.length_cons
      obtain ⟨hconstraint, hindex⟩ := hvirtual propV2 (by simp)
      have hmark : markHandled st.itemFlags [0] =
          ⟨true, false⟩ :: post.map fun _ => (⟨false, false⟩ : ItemFlag) := by
        simp [markHandled, hflags]
      -- the sub-list takes all items behind the first one
      have hsub : subListIndices (propV2 :: post) (markHandled st.itemFlags [0]) propV2.deviceIndex
          (List.range' 1 post.length) = List.range' 1 post.length := by
        rw [subListIndices, List.filter_eq_self]
        intro i hi
        obtain ⟨k, rfl⟩ : ∃ k, i = k + 1 := ⟨i - 1, by
          have := (List.mem_range'_1.mp hi).1
          omega⟩
        have hk : k < post.length := by
          have := (List.mem_range'_1.mp hi).2
          omega
        obtain ⟨hc, hd⟩ := hvirtual post[k] (by simp)
        simp [hmark, hk, hc, hd, hindex]
      have hlist : ((0 :: List.range' 1 post.length).filterMap fun i => (propV2 :: post)[i]?) =
          propV2 :: post := by
        have hall := filterMap_suffix [] (propV2 :: post)
        rwa [hlen, List.length_nil, List.nil_append, List.range'_succ] at hall
      have hfirst : (st.itemFlags.getD 0 ⟨false, false⟩).handled = false := by simp [hflags]
      have hnull : propV2.constraintType ≠ constraintNull := by
        rw [hconstraint]
        decide
      have hhardware : propV2.constraintType ≠ constraintHardwareDeviceIndex := by
        rw [hconstraint]
        decide
      rw [hlen, List.range_eq_range', List.range'_succ, allocItemsV2, hfirst]
      simp only [Bool.false_eq_true, if_false, List.getElem?_cons_zero]
      rw [allocItemV2]
      simp only [if_neg hnull, if_neg hhardware, if_pos hconstraint, hsub, hlist, hused]
      cases halloc : allocOnSameDevice ((propV2 :: post).map cuPropertyCopyFromV2) []
          (List.range st.s.numDevice) st.s with
      | mk s₁ r =>
          cases r with
          | none => exact .inr ⟨_, _, _, rfl, rfl⟩
          | some r =>
              obtain ⟨devId, done⟩ := r
              simp only
              have hdone := allocOnSameDevice_length halloc
              refine .inl ⟨_, devId, done, allocItemsV2_handled _ _ fun i hi => ?_, ?_, ?_⟩
              · have hi' : i < post.length + 1 := by
                  have := (List.mem_range'_1.mp hi).2
                  omega
                rw [handled_congr (recordAll_handled _ _ _), List.getD_eq_getElem?_getD,
                  getElem?_markHandled]
                simp [hmark, hi, hi']
              · rw [recordAll_s]
              · have hrecord := recordAll_cuResources
                  { st with
                    s := s₁
                    itemFlags :=
                      markHandled (markHandled st.itemFlags [0]) (0 :: List.range' 1 post.length) }
                  done [] ((propV2 :: post).map fun _ => CuResource.zero)
                  (by rw [hdone]; simp) (by rw [List.nil_append]; exact hresults)
                rw [hdone, List.length_map, hlen, List.length_nil, List.range'_succ,
                  hused] at hrecord
                exact hrecord

/-! ## Single requests on a given device -/

/-- Without a policy no CU asks for a further check. -/
theorem allocChan_null_ne {cu : CuData} {pre : Option CuData} {b : Bool} :
    cu.allocChanClientFromCu prop svc policyNull pre ≠ .furtherCheck b := by
  have hmost : ¬isMostUsedFirst policyNull = true := by decide
  have hleast : ¬isLeastUsedFirst policyNull = true := by decide
  have hnot : ∀ idx, cu.takeChannel prop svc idx ≠ .furtherCheck b := by
    intro idx
    rw [CuData.takeChannel]
    split
    · simp
    · split
      · split <;> simp
      · simp
  rw [CuData.allocChanClientFromCu]
  simp only
  split
  · simp
  split
  · cases hfind : cu.isReservePoolUsingCu prop.poolId with
    | none => simp
    | some i =>
        simp only
        split
        · simp
        split
        · simp
        rw [if_neg fun hm => hmost hm.1, if_neg fun hl => hleast hl.1]
        exact hnot _
  · split
    · simp
    rw [if_neg fun hm => hmost hm.1, if_neg fun hl => hleast hl.1]
    exact hnot _

theorem searchCuTwice_null_ne {cus : List CuData} {q : PreCu} :
    searchCuTwice prop svc policyNull devId cus ≠ .missed (some q) := fun h => by
  obtain ⟨pre, b, hfurther⟩ := (remembered_of_searchCuTwice h).further
  exact allocChan_null_ne hfurther

/-- Without a policy, the allocation on a given device by the load of its CUs is the plain one. -/
theorem fromDevByCuLoad_null (s : System) (deviceId : Int) (hname : propV2.cuName = "")
    (hpolicy : propV2.policyInfo = policyNull) (updateId : Bool) :
    s.resAllocCuFromDevByCuLoad deviceId propV2 updateId =
      s.resAllocCuFromDev deviceId (asked propV2) updateId := by
  rw [asked_eq hname, resAllocCuFromDevByCuLoad, resAllocCuFromDev, hpolicy]
  simp only
  cases s.registerOn deviceId (cuPropertyCopyFromV2 propV2) with
  | error e => rfl
  | ok r =>
      obtain ⟨devId, dev⟩ := r
      simp only
      cases hsearch : searchCuTwice (cuPropertyCopyFromV2 propV2) s.getNextAllocServiceId policyNull
          devId dev.cuList with
      | acquired cuId cu chanId => rfl
      | missed best =>
          cases best with
          | none => rfl
          | some q => exact absurd hsearch searchCuTwice_null_ne

/-! ## The versions agree -/

theorem lists_agree_unconstrained (s : System) {items : List CuPropertyV2}
    (hlen : items.length ≤ 16) (hnames : ∀ propV2 ∈ items, propV2.cuName = "")
    (hnull : ∀ propV2 ∈ items, propV2.constraintType = constraintNull) :
    Agree (s.resAllocCuListV2 (listRequestV2 items))
      (s.resAllocCuList (listRequest (items.map asked) false)) := by
  rw [resAllocCuListV2, resAllocCuList, listRequestV2_items, listRequest_items, map_asked hnames]
  have hnum : (listRequestV2 items).cuNum = items.length := rfl
  have hnum' : (listRequest (items.map cuPropertyCopyFromV2) false).cuNum = items.length := by
    simp [listRequest]
  rw [hnum, hnum']
  by_cases hempty : (items.length : Int) ≤ 0
  · rw [if_pos (.inl hempty), if_pos (.inl hempty)]
    exact agree_of_errors
  · rw [if_neg (by simp only [maxListCuNumV2]; omega), if_neg (by simp only [maxListCuNum]; omega)]
    have hrounds := allocItemsV2_unconstrained hnull items [] rfl
      { s := s
        itemFlags := items.map fun _ => ⟨false, false⟩
        cuResources := items.map fun _ => CuResource.zero
        usedDevIds := [] } [] rfl rfl rfl
    rw [List.length_nil, ← List.range_eq_range'] at hrounds
    simp only [listRequest, Bool.false_eq_true, if_false]
    rcases hrounds with ⟨st', done', heq, heq', hdone⟩ | ⟨st', e, s', heq, heq'⟩
    · rw [heq, heq', ← hdone]
      exact fun _ _ => .rfl
    · rw [heq, heq']
      exact agree_of_errors

theorem lists_agree_virtual (s : System) {items : List CuPropertyV2} {index : Nat}
    (hlen : items.length ≤ 16) (hnames : ∀ propV2 ∈ items, propV2.cuName = "")
    (hvirtual : ∀ propV2 ∈ items, propV2.constraintType = constraintVirtualDeviceIndex ∧
      propV2.deviceIndex = index) :
    Agree (s.resAllocCuListV2 (listRequestV2 items))
      (s.resAllocCuList (listRequest (items.map asked) true)) := by
  rw [resAllocCuListV2, resAllocCuList, listRequestV2_items, listRequest_items, map_asked hnames]
  have hnum : (listRequestV2 items).cuNum = items.length := rfl
  have hnum' : (listRequest (items.map cuPropertyCopyFromV2) true).cuNum = items.length := by
    simp [listRequest]
  rw [hnum, hnum']
  by_cases hempty : (items.length : Int) ≤ 0
  · rw [if_pos (.inl hempty), if_pos (.inl hempty)]
    exact agree_of_errors
  · rw [if_neg (by simp only [maxListCuNumV2]; omega), if_neg (by simp only [maxListCuNum]; omega)]
    have hne : items ≠ [] := by
      rintro rfl
      simp at hempty
    have hrounds := allocItemsV2_virtual hne hvirtual
      { s := s
        itemFlags := items.map fun _ => ⟨false, false⟩
        cuResources := items.map fun _ => CuResource.zero
        usedDevIds := [] } rfl rfl rfl
    simp only [listRequest, if_true]
    rcases hrounds with ⟨st', devId, done', heq, heq', hdone⟩ | ⟨st', e, s', heq, heq'⟩
    · rw [heq, heq', ← hdone]
      exact fun _ _ => .rfl
    · rw [heq, heq']
      exact agree_of_errors

/-- For requests that name a kernel or an alias, a version 2 list of at most 16 items without
constraints agrees with the version 1 list on any devices, one on a single virtual device with the
version 1 list on the same device, and the allocation on a given device without a policy is the
one of version 1. -/
theorem versions_agree (s : System) :
    (∀ items : List CuPropertyV2, items.length ≤ 16 →
      (∀ propV2 ∈ items, propV2.cuName = "") →
        ((∀ propV2 ∈ items, propV2.constraintType = constraintNull) →
          Agree (s.resAllocCuListV2 (listRequestV2 items))
            (s.resAllocCuList (listRequest (items.map asked) false))) ∧
        ∀ index, (∀ propV2 ∈ items, propV2.constraintType = constraintVirtualDeviceIndex ∧
            propV2.deviceIndex = index) →
          Agree (s.resAllocCuListV2 (listRequestV2 items))
            (s.resAllocCuList (listRequest (items.map asked) true))) ∧
    ∀ (propV2 : CuPropertyV2) (deviceId : Int) (updateId : Bool), propV2.cuName = "" →
      propV2.policyInfo = policyNull →
        s.resAllocCuFromDevByCuLoad deviceId propV2 updateId =
          s.resAllocCuFromDev deviceId (asked propV2) updateId :=
  ⟨fun _ hlen hnames => ⟨lists_agree_unconstrained s hlen hnames, fun _ =>
    lists_agree_virtual s hlen hnames⟩, fun _ deviceId updateId hname hpolicy =>
      fromDevByCuLoad_null s deviceId hname hpolicy updateId⟩

open Scenario

/-- Two items for one virtual device, where the first device has no room for the second item. -/
def virtualItems : List CuPropertyV2 :=
  [{ requestV2 1 0 600000 0 with deviceInfo := constraintVirtualDeviceIndex * 2 ^ 32 + 5 },
    { requestV2 1 0 500000 0 with deviceInfo := constraintVirtualDeviceIndex * 2 ^ 32 + 5 }]

/-- Two devices, and client 2 on the first. -/
def twoRun : List Op :=
  [.loadOneDevice (env 2 2) 0 "scaler.xclbin", .loadOneDevice (env 2 2) 1 "scaler.xclbin",
    .resAllocCu (request 2 0 700000) true]

/-- Both versions take the second device. -/
theorem versions_agree_virtual : ∃ s' res,
    (after twoRun).resAllocCuListV2 (listRequestV2 virtualItems) = (s', .ok res) ∧
      (after twoRun).resAllocCuList (listRequest (virtualItems.map asked) true) = (s', .ok res) ∧
        res.cuResources.map (fun r => (r.deviceId, r.cuId)) = [(1, 0), (1, 1)] := by
  have hplaces : ((after twoRun).resAllocCuListV2 (listRequestV2 virtualItems)).2.toOption.map
      (fun res => res.cuResources.map fun r => (r.deviceId, r.cuId)) =
        some [(1, 0), (1, 1)] := by
    decide +kernel
  have hagree := ((versions_agree (after twoRun)).1 virtualItems (by decide) (by decide)).2 5
    (by decide)
  cases heq : (after twoRun).resAllocCuListV2 (listRequestV2 virtualItems) with
  | mk s' r =>
      rw [heq] at hplaces
      cases r with
      | error e => cases hplaces
      | ok res =>
          exact ⟨s', res, rfl, (hagree s' res).mp heq, by simpa [Except.toOption] using hplaces⟩

end System

end Xrm
