import Xrm.Model.Indices
import Xrm.Verification.Declarations
import Xrm.Verification.Scenario

/-! # Existence

What the queries for existing compute units answer. The query for a list whose items may be on any
device looks at its first item only.
-/

namespace Xrm

/-! ## Compute units and their names -/

/-- The CU carries the names that the request gives. -/
def CuProperty.Names (prop : CuProperty) (cu : CuData) : Prop :=
  (prop.kernelName ≠ "" → cu.kernelName = prop.kernelName) ∧
    (prop.kernelAlias ≠ "" → cu.kernelAlias = prop.kernelAlias) ∧
      (prop.cuName ≠ "" → cu.cuName = prop.cuName)

theorem nameEqual_iff (given own : String) :
    CuData.nameEqual given own = true ↔ (given ≠ "" → own = given) := by
  rw [CuData.nameEqual, Bool.or_eq_true, beq_iff_eq, beq_iff_eq]
  tauto

theorem CuData.matchesCu_iff (cu : CuData) (prop : CuProperty) :
    cu.matchesCu prop = true ↔ prop.Names cu := by
  rw [matchesCu, Bool.and_eq_true, Bool.and_eq_true, nameEqual_iff, nameEqual_iff, nameEqual_iff,
    and_assoc]
  rfl

/-- The device has a CU of the item, which gives some name. -/
def DeviceData.Has (dev : DeviceData) (prop : CuProperty) : Prop :=
  prop.unnamed = false ∧ ∃ cu ∈ dev.cuList, prop.Names cu

theorem DeviceData.resIsCuExistingOnDev_iff (dev : DeviceData) (prop : CuProperty) :
    dev.resIsCuExistingOnDev prop = true ↔ dev.Has prop := by
  rw [resIsCuExistingOnDev, Bool.and_eq_true, List.any_eq_true, Has]
  simp [CuData.matchesCu_iff]

namespace System

variable {s : System}

/-- Some loaded device has a CU of the item. -/
def Has (s : System) (prop : CuProperty) : Prop :=
  ∃ dev ∈ s.devList, dev.isLoaded = true ∧ dev.Has prop

theorem resIsCuExisting_iff (s : System) (prop : CuProperty) :
    s.resIsCuExisting prop = true ↔ s.Has prop := by
  simp [resIsCuExisting, Has, DeviceData.resIsCuExistingOnDev_iff]

/-! ## Lists -/

/-- The list exists: one loaded device has a CU of every item, or each item has one on some loaded
device. -/
def ListExists (s : System) (listProp : CuListProperty) : Prop :=
  1 ≤ listProp.cuNum ∧ listProp.cuNum ≤ maxListCuNum ∧
    if listProp.sameDevice then
      ∃ dev ∈ s.devList, dev.isLoaded = true ∧ ∀ prop ∈ listProp.items, dev.Has prop
    else ∀ prop ∈ listProp.items, s.Has prop

/-- A list for any device of which the first item exists, but not all. -/
def Mixed (s : System) (listProp : CuListProperty) : Prop :=
  listProp.sameDevice = false ∧ 1 ≤ listProp.cuNum ∧ listProp.cuNum ≤ maxListCuNum ∧
    (∀ prop ∈ listProp.items.head?, s.Has prop) ∧ ∃ prop ∈ listProp.items, ¬s.Has prop

theorem Mixed.not_listExists {listProp : CuListProperty} (h : s.Mixed listProp) :
    ¬s.ListExists listProp := by
  obtain ⟨hsame, -, -, -, prop, hprop, hnot⟩ := h
  rintro ⟨-, -, hall⟩
  rw [hsame] at hall
  exact hnot (hall prop hprop)

/-- Once an item was found, the others are not looked for. -/
theorem listFound_of_found (s : System) (props : List CuProperty) :
    s.listFound props true = true := by
  induction props with
  | nil => rfl
  | cons prop props ih => simpa [listFound] using ih

theorem listFound_iff (s : System) (props : List CuProperty) :
    s.listFound props false = true ↔ ∀ prop ∈ props.head?, s.Has prop := by
  cases props with
  | nil => simp [listFound]
  | cons prop props =>
      rw [listFound, Bool.false_or, Bool.and_eq_true, resIsCuExisting_iff, List.head?_cons]
      constructor
      · rintro ⟨hhas, -⟩ x hx
        rw [Option.mem_some_iff.mp hx] at hhas
        exact hhas
      · intro hall
        have hhas := hall prop rfl
        rw [(resIsCuExisting_iff s prop).mpr hhas]
        exact ⟨hhas, s.listFound_of_found props⟩

/-- What the query for a list answers. -/
theorem resIsCuListExisting_iff (s : System) (listProp : CuListProperty) :
    s.resIsCuListExisting listProp = true ↔ s.ListExists listProp ∨ s.Mixed listProp := by
  rw [resIsCuListExisting, ListExists, Mixed]
  by_cases hrange : listProp.cuNum ≤ 0 ∨ listProp.cuNum > maxListCuNum
  · rw [if_pos hrange]
    simp only [Bool.false_eq_true, false_iff, not_or]
    exact ⟨fun h => by omega, fun h => by omega⟩
  rw [if_neg hrange]
  have hone : 1 ≤ listProp.cuNum := by omega
  have hmax : listProp.cuNum ≤ maxListCuNum := by omega
  simp only [hone, hmax, true_and]
  cases hsame : listProp.sameDevice with
  | true => simp [DeviceData.resIsCuExistingOnDev_iff]
  | false =>
      simp only [Bool.false_eq_true, if_false, true_and, listFound_iff]
      constructor
      · intro hhead
        by_cases hall : ∀ prop ∈ listProp.items, s.Has prop
        · exact .inl hall
        · simp only [not_forall] at hall
          obtain ⟨prop, hprop, hnot⟩ := hall
          exact .inr ⟨hhead, prop, hprop, hnot⟩
      · rintro (hall | ⟨hhead, -⟩)
        · exact fun prop hprop => hall prop (List.mem_of_mem_head? hprop)
        · exact hhead

theorem resIsCuListExisting_right_iff (s : System) (listProp : CuListProperty) :
    (s.resIsCuListExisting listProp = true ↔ s.ListExists listProp) ↔ ¬s.Mixed listProp := by
  rw [resIsCuListExisting_iff]
  constructor
  · exact fun h hmixed => hmixed.not_listExists (h.mp (.inr hmixed))
  · exact fun h => ⟨fun hor => hor.resolve_right h, .inl⟩

/-! ## Groups -/

/-- The optional lists of a declared group, by the names of their CUs. -/
def options (group : UdfCuGroupInformation) : List CuListProperty :=
  (group.optionUdfCuListProps.take group.optionUdfCuListNum.toNat).map Indexed.nameOption

/-- The group is declared and one of its optional lists exists. -/
def GroupExists (s : System) (name : String) : Prop :=
  ∃ group ∈ s.udfCuGroups, group.udfCuGroupName = name ∧
    ∃ option ∈ options group, s.ListExists option

/-- An optional list of the group is mixed. -/
def GroupMixed (s : System) (name : String) : Prop :=
  ∃ group ∈ s.udfCuGroups, group.udfCuGroupName = name ∧ ∃ option ∈ options group, s.Mixed option

/-- A name is found exactly where its group is. -/
theorem find_group (h : s.GroupsDistinct) (name : String) (group : UdfCuGroupInformation) :
    s.udfCuGroups.find? (·.udfCuGroupName == name) = some group ↔
      group ∈ s.udfCuGroups ∧ group.udfCuGroupName = name := by
  constructor
  · exact fun hfind => ⟨List.mem_of_find?_eq_some hfind, by simpa using List.find?_some hfind⟩
  · rintro ⟨hmem, hname⟩
    cases hfind : s.udfCuGroups.find? (·.udfCuGroupName == name) with
    | none =>
        have hno := List.find?_eq_none.mp hfind group hmem
        simp [hname] at hno
    | some found =>
        have hfound : found ∈ s.udfCuGroups := List.mem_of_find?_eq_some hfind
        have hsame : found.udfCuGroupName = name := by simpa using List.find?_some hfind
        rw [List.inj_on_of_nodup_map h.names hfound hmem (hsame.trans hname.symm)]

theorem resIsCuGroupExisting_iff (h : s.GroupsDistinct) (name : String) :
    s.resIsCuGroupExisting name = true ↔ s.GroupExists name ∨ s.GroupMixed name := by
  have hany : s.resIsCuGroupExisting name = true ↔
      ∃ group, s.udfCuGroups.find? (·.udfCuGroupName == name) = some group ∧
        ∃ option ∈ options group, s.resIsCuListExisting option = true := by
    rw [resIsCuGroupExisting]
    cases s.udfCuGroups.find? (·.udfCuGroupName == name) with
    | none => simp
    | some group =>
        simp only [options, List.any_eq_true, Option.some.injEq, exists_eq_left', List.mem_map,
          exists_exists_and_eq_and]
  rw [hany, GroupExists, GroupMixed]
  simp only [find_group h, resIsCuListExisting_iff]
  constructor
  · rintro ⟨group, ⟨hgroup, hname⟩, option, hoption, hex | hmixed⟩
    · exact .inl ⟨group, hgroup, hname, option, hoption, hex⟩
    · exact .inr ⟨group, hgroup, hname, option, hoption, hmixed⟩
  · rintro (⟨group, hgroup, hname, option, hoption, hex⟩ |
      ⟨group, hgroup, hname, option, hoption, hmixed⟩)
    · exact ⟨group, ⟨hgroup, hname⟩, option, hoption, .inl hex⟩
    · exact ⟨group, ⟨hgroup, hname⟩, option, hoption, .inr hmixed⟩

end System

/-! ## The verdicts -/

namespace System

variable {s : System}

/-- The queries for existing compute units. In every reachable state, the query for a list answers
whether the list exists exactly unless the list is mixed, and the query for a group exactly when
the group exists or none of its optional lists is mixed. -/
theorem existence_verdicts {limit : Nat} (h : ReachableFilled limit s) :
    (∀ listProp, (s.resIsCuListExisting listProp = true ↔ s.ListExists listProp) ↔
      ¬s.Mixed listProp) ∧
    ∀ name, (s.resIsCuGroupExisting name = true ↔ s.GroupExists name) ↔
      s.GroupExists name ∨ ¬s.GroupMixed name := by
  refine ⟨s.resIsCuListExisting_right_iff, fun name => ?_⟩
  rw [resIsCuGroupExisting_iff h.groupsDistinct]
  tauto

end System

namespace Scenario

/-- An item that names a CU. -/
def namedItem (cuName : String) : CuProperty :=
  { request 0 0 500000 with kernelName := "", cuName := cuName }

/-- A group with one optional list: a CU that the image has and one that it does not have. -/
def pairGroup : UdfCuGroupInformation where
  udfCuGroupName := "pair"
  optionUdfCuListProps :=
    [{ cuProps := [namedItem "scaler:scaler_1", namedItem "encoder:encoder_1"], cuNum := 2,
       sameDevice := false }]
  optionUdfCuListNum := 1

/-- One device is loaded, and the group is declared. -/
def pairRun : List Op :=
  [.loadOneDevice (env 1 1) 0 "scaler.xclbin", .resUdfCuGroupDeclare pairGroup]

/-- The list of the group's option. -/
def pairList : CuListProperty where
  cuProps := [namedItem "scaler:scaler_1", namedItem "encoder:encoder_1"]
  cuNum := 2
  sameDevice := false

end Scenario

namespace System

open Scenario

theorem reachableFilled_pairRun : ReachableFilled 8 (after pairRun) := by
  have hinit : ReachableFilled 8 (initSystem 8) := .refl
  exact hinit.run pairRun (by decide +kernel) (by decide +kernel)

theorem existence_verdicts_pair :
    ((after pairRun).resIsCuGroupExisting "pair" = true ↔ (after pairRun).GroupExists "pair") ↔
      (after pairRun).GroupExists "pair" ∨ ¬(after pairRun).GroupMixed "pair" :=
  (existence_verdicts reachableFilled_pairRun).2 "pair"

/-- Of two items the first exists, and both queries answer that all do. -/
theorem existence_verdicts_fail : ∃ limit s listProp, ReachableFilled limit s ∧
    listProp.cuNum = 2 ∧ (∀ prop ∈ listProp.items, prop.unnamed = false) ∧
      s.resIsCuListExisting listProp = true ∧ ¬s.ListExists listProp ∧
        s.resIsCuGroupExisting "pair" = true ∧ ¬s.GroupExists "pair" := by
  have hlist : (after pairRun).Mixed pairList := by
    refine ⟨rfl, by decide, by decide, fun prop hprop => ?_, namedItem "encoder:encoder_1",
      by decide, fun hhas => ?_⟩
    · have hfirst : namedItem "scaler:scaler_1" = prop := Option.mem_some_iff.mp hprop
      rw [← hfirst]
      exact (resIsCuExisting_iff _ _).mp (by decide +kernel)
    · have hno : (after pairRun).resIsCuExisting (namedItem "encoder:encoder_1") = false := by
        decide +kernel
      rw [(resIsCuExisting_iff _ _).mpr hhas] at hno
      simp at hno
  have hgroup : ∀ group ∈ (after pairRun).udfCuGroups, ∀ option ∈ options group,
      option.sameDevice = false ∧
        ∃ prop ∈ option.items, (after pairRun).resIsCuExisting prop = false := by decide +kernel
  refine ⟨8, after pairRun, pairList, reachableFilled_pairRun, rfl, by decide, by decide +kernel,
    hlist.not_listExists, by decide +kernel, ?_⟩
  rintro ⟨group, hmem, -, option, hoption, -, -, hall⟩
  obtain ⟨hsame, prop, hprop, hno⟩ := hgroup group hmem option hoption
  rw [hsame] at hall
  rw [(resIsCuExisting_iff _ _).mpr (hall prop hprop)] at hno
  simp at hno

end System

end Xrm
