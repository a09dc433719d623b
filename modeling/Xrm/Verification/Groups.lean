import Xrm.Library.Fallback
import Xrm.Verification.Declarations
import Xrm.Verification.Handing
import Xrm.Verification.Lists

/-! # Allocating a group

The optional lists of a group are tried in the order of the declaration. An option that fails leaves
a twin of the state before, so the next one finds the CUs as they were.
-/

namespace Xrm

open Choice Fallback

namespace System

variable {s s' : System} {groupProp : CuGroupProperty}

/-- The requests that the optional lists of the group stand for. -/
def groupRequests (s : System) (groupProp : CuGroupProperty) : List CuListProperty :=
  match s.udfCuGroups.find? (·.udfCuGroupName == groupProp.udfCuGroupName) with
  | none => []
  | some group =>
      (group.optionUdfCuListProps.take group.optionUdfCuListNum.toNat).map (groupOption groupProp)

theorem allocOptions_eq {α β : Type} (alloc : System → β → System × Except XrmError CuListResource)
    (f : α → β) (options : List α) (s : System) (e : XrmError) :
    allocOptions (fun s option => alloc s (f option)) options s e =
      tryAll alloc (options.map f) s e := by
  induction options generalizing s e with
  | nil => rfl
  | cons option options ih =>
      rw [allocOptions, List.map_cons, tryAll]
      cases hr : alloc s (f option) with
      | mk s' r =>
          cases r with
          | ok listRes => rfl
          | error e' => exact ih s' e'

/-- A group allocation tries its requests in turn. -/
theorem resAllocCuGroup_eq (s : System) (groupProp : CuGroupProperty) :
    ∃ e, s.resAllocCuGroup groupProp =
      tryAll resAllocCuList (s.groupRequests groupProp) s e := by
  rw [resAllocCuGroup, groupRequests]
  cases s.udfCuGroups.find? (·.udfCuGroupName == groupProp.udfCuGroupName) with
  | none => exact ⟨.invalid, rfl⟩
  | some group =>
      exact ⟨.error, allocOptions_eq resAllocCuList (groupOption groupProp) _ s .error⟩

theorem groupOption_items (groupProp : CuGroupProperty) (option : CuListProperty) :
    ∀ prop ∈ (groupOption groupProp option).items, prop.clientId = groupProp.clientId := by
  intro prop hprop
  obtain ⟨udfCuProp, -, rfl⟩ := List.mem_map.mp (List.mem_of_mem_take hprop)
  rfl

/-- The requests of a group are requests of its client, with as many items as they count. -/
theorem groupRequests_spec {limit : Nat} (h : ReachableFilled limit s)
    (hc : groupProp.clientId ≠ 0) {listProp : CuListProperty}
    (hmem : listProp ∈ s.groupRequests groupProp) :
    (∀ prop ∈ listProp.items, CuProperty.Of groupProp.clientId prop) ∧
      (0 < listProp.cuNum → listProp.items ≠ []) := by
  rw [groupRequests] at hmem
  split at hmem
  · simp at hmem
  rename_i group hfind
  obtain ⟨option, hoption, rfl⟩ := List.mem_map.mp hmem
  have hgroup := List.mem_of_find?_eq_some hfind
  have hoption := List.mem_of_mem_take hoption
  constructor
  · intro prop hprop
    exact ⟨groupOption_received hc
      (h.reachable.good.groupsValid.groups group hgroup option hoption) prop hprop,
      groupOption_items groupProp option prop hprop⟩
  · intro hpos hempty
    have hfilled := h.groupsDistinct.filled group hgroup option hoption
    rw [CuListProperty.Filled] at hfilled
    have hlength := congrArg List.length hempty
    simp only [CuListProperty.items, groupOption, List.length_take, List.length_map,
      List.length_nil] at hlength hpos
    omega

/-- An option that fails is not seen by the options after it. -/
theorem unseen_resAllocCuList {limit : Nat} (h : ReachableFilled limit s)
    (hc : groupProp.clientId ≠ 0) : Unseen resAllocCuList
      (fun s' => s.Twin groupProp.clientId s' ∧ s'.Good allRuns) s
        (s.groupRequests groupProp) where
  same := by
    rintro s' ⟨htwin, -⟩ listProp hmem
    obtain ⟨hof, hfilled⟩ := groupRequests_spec h hc hmem
    exact (htwin.resAllocCuList hc (fun prop hprop => (hof prop hprop).clientId) hfilled).2
  back := by
    rintro s' ⟨htwin, hgood⟩ listProp hmem hfails
    obtain ⟨hof, -⟩ := groupRequests_spec h hc hmem
    obtain ⟨e, he⟩ := not_works_iff.mp hfails
    exact ⟨htwin.trans (resAllocCuList_rolledBack hgood hc hof he),
      hgood.evolves (resAllocCuList_evolves allRuns s' listProp
        fun prop hprop => (hof prop hprop).received)⟩

/-- A group is allocated as the first of its optional lists whose list allocation succeeds from the
state of the request; the CUs that the options before it took and gave back do not show. When no
option can be allocated, or the group is not declared, nothing is taken. -/
theorem group_first_option {limit : Nat} (h : ReachableFilled limit s)
    (hc : groupProp.clientId ≠ 0) :
    (∀ listProp, FirstOf (Works resAllocCuList s) (s.groupRequests groupProp) listProp →
      (s.resAllocCuGroup groupProp).2 = (s.resAllocCuList listProp).2 ∧
        (s.resAllocCuList listProp).1.Twin groupProp.clientId (s.resAllocCuGroup groupProp).1) ∧
      ((∀ listProp ∈ s.groupRequests groupProp, ¬Works resAllocCuList s listProp) →
        (∃ e, (s.resAllocCuGroup groupProp).2 = .error e) ∧
          s.Twin groupProp.clientId (s.resAllocCuGroup groupProp).1) := by
  have hunseen := unseen_resAllocCuList h hc
  have hstart : s.Twin groupProp.clientId s ∧ s.Good allRuns :=
    ⟨h.reachable.good.sound.twin, h.reachable.good⟩
  obtain ⟨e, heq⟩ := s.resAllocCuGroup_eq groupProp
  rw [heq]
  constructor
  · intro listProp hfirst
    obtain ⟨s₁, ⟨htwin, -⟩, hrun⟩ := tryAll_first hunseen hstart hfirst e
    obtain ⟨hof, hfilled⟩ := groupRequests_spec h hc hfirst.mem
    have halike := htwin.resAllocCuList hc (fun prop hprop => (hof prop hprop).clientId) hfilled
    rw [hrun]
    exact ⟨halike.2, halike.1⟩
  · intro hnone
    obtain ⟨⟨htwin, -⟩, herror⟩ := tryAll_none hunseen hstart hnone e
    exact ⟨herror, htwin⟩

end System

open Scenario in
/-- A group of two CUs is declared, and no CU has the name that its first optional list gives. -/
def pairRun : List Op :=
  [.loadOneDevice (env 1 2) 0 "scaler.xclbin",
    .resUdfCuGroupDeclare
      { udfCuGroupName := "pair"
        optionUdfCuListProps := ["scaler:other", "scaler:scaler_1"].map fun cuName =>
          { cuProps := ["scaler:scaler_1", cuName].map fun cuName =>
              { request 0 0 600000 with kernelName := "", cuName := cuName }
            cuNum := 2
            sameDevice := false }
        optionUdfCuListNum := 2 }]

/-- Client 1 asks for the group. -/
def pairRequest : CuGroupProperty where
  udfCuGroupName := "pair"
  clientId := 1
  clientProcessId := 0
  poolId := 0

namespace System

open Scenario in
theorem group_first_option_second :
    (∀ listProp, FirstOf (Works resAllocCuList (after pairRun))
        ((after pairRun).groupRequests pairRequest) listProp →
      ((after pairRun).resAllocCuGroup pairRequest).2 =
          ((after pairRun).resAllocCuList listProp).2 ∧
        ((after pairRun).resAllocCuList listProp).1.Twin 1
          ((after pairRun).resAllocCuGroup pairRequest).1) ∧
      ((∀ listProp ∈ (after pairRun).groupRequests pairRequest,
          ¬Works resAllocCuList (after pairRun) listProp) →
        (∃ e, ((after pairRun).resAllocCuGroup pairRequest).2 = .error e) ∧
          (after pairRun).Twin 1 ((after pairRun).resAllocCuGroup pairRequest).1) :=
  group_first_option
    (ReachableFilled.run .refl pairRun (by decide +kernel) (by decide)) (by decide)

open Scenario in
example : ((after pairRun).groupRequests pairRequest).map
    (fun listProp => ((after pairRun).resAllocCuList listProp).2.toOption.isSome) =
      [false, true] := by decide +kernel

/-! ## Groups with device constraints -/

/-- A request without a name finds no CU on any device. -/
theorem allocItemsOnDev_unnamed {prop : CuProperty} (hunnamed : prop.unnamed = true) (devId : Nat)
    (props : List CuProperty) (s : System) (done : List CuResource) :
    (allocItemsOnDev devId (prop :: props) s done).2 = none := by
  rw [allocItemsOnDev]
  split
  · rfl
  split
  · rfl
  rw [allocCuFromDev, if_pos hunnamed]

theorem allocOnSameDevice_unnamed {prop : CuProperty} (hunnamed : prop.unnamed = true)
    (props : List CuProperty) (usedDevIds devIds : List Nat) (s : System) :
    (allocOnSameDevice (prop :: props) usedDevIds devIds s).2 = none := by
  induction devIds generalizing s with
  | nil => rfl
  | cons devId devIds ih =>
      rw [allocOnSameDevice]
      split
      · have hnone := allocItemsOnDev_unnamed hunnamed devId props s []
        generalize allocItemsOnDev devId (prop :: props) s [] = r at hnone ⊢
        obtain ⟨s₁, r⟩ := r
        simp only at hnone
        rw [hnone]
        exact ih s₁
      · exact ih s

theorem resAllocCuFromDev_unnamed {prop : CuProperty} (hunnamed : prop.unnamed = true)
    (s : System) (deviceId : Int) (updateId : Bool) :
    ∃ e, s.resAllocCuFromDev deviceId prop updateId = (s, .error e) := by
  rw [resAllocCuFromDev, registerOn]
  cases s.devIndex deviceId with
  | none => exact ⟨_, rfl⟩
  | some devId => exact ⟨.invalid, by simp only [if_pos hunnamed]⟩

/-- The round of an item without a name fails, whatever its constraint is. -/
theorem allocItemV2_unnamed {props : List CuPropertyV2} {index : Nat} {propV2 : CuPropertyV2}
    (hitem : props[index]? = some propV2)
    (hunnamed : (cuPropertyCopyFromV2 propV2).unnamed = true) (rest : List Nat)
    (st : ListV2State) : ∃ st' e, allocItemV2 props index propV2 rest st = (st', .error e) := by
  rw [allocItemV2]
  simp only
  split
  · rw [resAllocCu, if_pos hunnamed]
    exact ⟨_, _, rfl⟩
  split
  · obtain ⟨e, he⟩ := resAllocCuFromDev_unnamed hunnamed st.s (i32 propV2.deviceIndex) false
    rw [he]
    exact ⟨_, _, rfl⟩
  split
  · rw [List.filterMap_cons, hitem, List.map_cons]
    have hnone := allocOnSameDevice_unnamed hunnamed
      (((subListIndices props st.itemFlags propV2.deviceIndex rest).filterMap
        fun i => props[i]?).map cuPropertyCopyFromV2) st.usedDevIds
      (List.range st.s.numDevice) st.s
    generalize allocOnSameDevice _ st.usedDevIds (List.range st.s.numDevice) st.s = r at hnone ⊢
    obtain ⟨s₁, r⟩ := r
    simp only at hnone
    rw [hnone]
    exact ⟨_, _, rfl⟩
  · exact ⟨_, _, rfl⟩

/-- A list whose first item has no name fails. -/
theorem resAllocCuListV2_unnamed {listProp : CuListPropertyV2} (hpos : 0 < listProp.items.length)
    (hunnamed : ∀ propV2 ∈ listProp.items, (cuPropertyCopyFromV2 propV2).unnamed = true)
    (s : System) : ∃ e, (s.resAllocCuListV2 listProp).2 = .error e := by
  rw [resAllocCuListV2]
  split
  · exact ⟨_, rfl⟩
  simp only
  obtain ⟨propV2, props, hitems⟩ := List.exists_cons_of_length_pos hpos
  have hname := hunnamed propV2 (by rw [hitems]; simp)
  rw [hitems, List.length_cons, List.range_succ_eq_map, allocItemsV2]
  simp only [List.map_cons, List.getD_cons_zero, List.getElem?_cons_zero, Bool.false_eq_true,
    if_false]
  have hitem : (propV2 :: props)[0]? = some propV2 := rfl
  obtain ⟨st', e, he⟩ := allocItemV2_unnamed hitem hname ((List.range props.length).map Nat.succ)
    { s := s
      itemFlags := markHandled (⟨false, false⟩ :: props.map fun _ => ⟨false, false⟩) [0]
      cuResources := CuResource.zero :: props.map fun _ => CuResource.zero
      usedDevIds := [] }
  rw [he]
  exact ⟨e, rfl⟩

/-- The items of a group's request have no name left: the group names CUs, and the list allocation
takes over the names of kernels only. -/
theorem groupOptionV2_unnamed (groupProp : CuGroupProperty) (option : CuListPropertyV2) :
    ∀ propV2 ∈ (groupOptionV2 groupProp option).items,
      (cuPropertyCopyFromV2 propV2).unnamed = true := by
  intro propV2 hpropV2
  obtain ⟨udfCuProp, -, rfl⟩ := List.mem_map.mp (List.mem_of_mem_take hpropV2)
  rfl

end System

/-- The optional lists of a declaration have the entries that their counts say. -/
def Op.Whole : Op → Prop
  | .resUdfCuGroupDeclare info => ∀ option ∈ info.optionUdfCuListProps, option.Filled
  | .resUdfCuGroupDeclareV2 info =>
      ∀ option ∈ info.optionUdfCuListProps, option.cuNum ≤ option.cuProps.length
  | _ => True

instance (op : Op) : Decidable op.Whole := by
  apply Op.casesOn (motive := fun op => Decidable op.Whole) op <;> intros <;> unfold Op.Whole <;>
    infer_instance

namespace System

variable {s : System} {groupProp : CuGroupProperty}

/-- A step of a run whose declarations have all their entries. -/
def StepWhole (s : System) (op : Op) : Prop := StepOk allRuns s op ∧ op.Whole

instance (s : System) (op : Op) : Decidable (s.StepWhole op) :=
  inferInstanceAs (Decidable (StepOk allRuns s op ∧ op.Whole))

/-- The states reached by these runs. -/
def ReachableWhole (limit : Nat) : System → Prop :=
  Transition.Reaches step StepWhole (initSystem limit)

/-- The optional lists of the declared groups have the entries that their counts say. -/
def GroupsWhole (s : System) : Prop :=
  ∀ group ∈ s.udfCuGroupsV2, ∀ option ∈ group.optionUdfCuListProps,
    option.cuNum ≤ option.cuProps.length

theorem ReachableWhole.filled {limit : Nat} (h : ReachableWhole limit s) :
    ReachableFilled limit s := by
  refine Transition.Reaches.mono h fun s op hok => ⟨hok.1, ?_⟩
  cases op with
  | resUdfCuGroupDeclare info => exact hok.2
  | _ => trivial

theorem GroupsWhole.declareV2 {info : UdfCuGroupInformationV2} (h : s.GroupsWhole)
    (hwhole : ∀ option ∈ info.optionUdfCuListProps, option.cuNum ≤ option.cuProps.length) :
    (s.resUdfCuGroupDeclareV2 info).1.GroupsWhole := by
  rw [resUdfCuGroupDeclareV2]
  split
  · exact h
  intro group hgroup option hoption
  rcases List.mem_append.mp hgroup with hgroup | hgroup
  · exact h group hgroup option hoption
  · rw [List.mem_singleton.mp hgroup] at hoption
    obtain ⟨given, hgiven, rfl⟩ := List.mem_map.mp hoption
    have hnum := hwhole given (List.mem_of_mem_take hgiven)
    simp only [declaredOptionV2, CuListPropertyV2.items, List.length_map, List.length_take]
    omega

/-- The step lemma. -/
theorem GroupsWhole.next {op : Op} (h : s.GroupsWhole) (hgood : s.Good allRuns)
    (hok : StepOk allRuns s op) (hwhole : op.Whole) : (step s op).GroupsWhole := by
  have hcongr : (step s op).udfCuGroupsV2 = s.udfCuGroupsV2 → (step s op).GroupsWhole := by
    intro heq
    rw [GroupsWhole, heq]
    exact h
  cases hop : declares op with
  | false => exact hcongr (congrArg Prod.snd (hgood.next_declared id hok hop))
  | true =>
      cases op with
      | resUdfCuGroupDeclare info =>
          refine hcongr ?_
          rw [step, resUdfCuGroupDeclare]
          split <;> rfl
      | resUdfCuGroupDeclareV2 info => exact h.declareV2 hwhole
      | resUdfCuGroupUndeclare name =>
          refine hcongr ?_
          rw [step, resUdfCuGroupUndeclare]
          split <;> rfl
      | resUdfCuGroupUndeclareV2 name =>
          intro group hgroup
          rw [step, resUdfCuGroupUndeclareV2] at hgroup
          split at hgroup
          · exact h group hgroup
          · exact h group (List.mem_of_mem_eraseIdx hgroup)
      | _ => simp [declares] at hop

/-- The run lemma. -/
theorem ReachableWhole.groupsWhole {limit : Nat} (h : ReachableWhole limit s) : s.GroupsWhole := by
  have hrun : Reachable allRuns limit (initSystem limit) := .refl
  exact (Transition.Reaches.invariant (I := fun s => s.Good allRuns ∧ s.GroupsWhole) h
    ⟨hrun.good, by simp [GroupsWhole, initSystem]⟩ fun s op hs hok =>
      ⟨hs.1.next hok.1, hs.2.next hs.1 hok.1 hok.2⟩).2

/-- No version 2 group can ever be allocated, whatever is declared and free: the names of its CUs
do not reach the list allocation, which rejects requests without a name. The failure takes no
channel and uses up no service id. -/
theorem group_v2_never {limit : Nat} (h : ReachableWhole limit s) (hc : groupProp.clientId ≠ 0) :
    (∃ e, (s.resAllocCuGroupV2 groupProp).2 = .error e) ∧
      Calm s (s.resAllocCuGroupV2 groupProp).1 := by
  have hfails : ∃ e, (s.resAllocCuGroupV2 groupProp).2 = .error e := by
    rw [resAllocCuGroupV2]
    split
    · exact ⟨_, rfl⟩
    rename_i group hfind
    rw [allocOptions_eq resAllocCuListV2 (groupOptionV2 groupProp)]
    refine tryAll_fails (fun s listProp hmem => not_works_iff.mpr ?_) s _
    obtain ⟨option, hoption, rfl⟩ := List.mem_map.mp hmem
    by_cases hnum : 0 < option.cuNum
    · refine resAllocCuListV2_unnamed ?_ (groupOptionV2_unnamed groupProp option) s
      have hwhole := h.groupsWhole group (List.mem_of_find?_eq_some hfind) option
        (List.mem_of_mem_take hoption)
      simp only [CuListPropertyV2.items, groupOptionV2, List.length_take, List.length_map]
      omega
    · rw [resAllocCuListV2, if_pos (.inl (by simpa [groupOptionV2] using hnum))]
      exact ⟨_, rfl⟩
  refine ⟨hfails, ?_⟩
  obtain ⟨e, he⟩ := hfails
  have hhands := resAllocCuGroupV2_hands h.filled.reachable.good hc
  rw [he] at hhands
  generalize (s.resAllocCuGroupV2 groupProp).1 = s' at hhands ⊢
  cases hhands with
  | refused hcalm => exact hcalm

end System

open Scenario in
/-- A version 2 group of one CU is declared, and the CU is free. -/
def soloRun : List Op :=
  [.loadOneDevice (env 1 1) 0 "scaler.xclbin",
    .resUdfCuGroupDeclareV2
      { udfCuGroupName := "solo"
        optionUdfCuListProps :=
          [{ cuProps :=
              [{ requestV2 0 0 100000 0 with kernelName := "", cuName := "scaler:scaler_1" }]
             cuNum := 1 }]
        optionUdfCuListNum := 1 }]

namespace System

open Scenario in
theorem group_v2_never_solo :
    (∃ e, ((after soloRun).resAllocCuGroupV2 { pairRequest with udfCuGroupName := "solo" }).2 =
        .error e) ∧
      Calm (after soloRun)
        ((after soloRun).resAllocCuGroupV2 { pairRequest with udfCuGroupName := "solo" }).1 :=
  group_v2_never (Transition.Reaches.refl.run (by decide +kernel : Transition.AllOk step StepWhole
    soloRun (initSystem 8))) (by decide)

end System

end Xrm
