import Xrm.Verification.Runs

/-! # The declared groups

Only the operations on the groups change them; their names are distinct, and each of their optional
lists has the entries that it says it has.
-/

namespace Xrm

namespace System

variable {D : Discipline} {s s' : System}

/-- The declared groups of both versions. -/
def declared (s : System) : List UdfCuGroupInformation × List UdfCuGroupInformationV2 :=
  (s.udfCuGroups, s.udfCuGroupsV2)

@[simp] theorem declared_setDev (s : System) (i : Nat) (dev : DeviceData) :
    (s.setDev i dev).declared = s.declared := rfl

theorem Evolves.declared (h : Evolves D s s') : s'.declared = s.declared :=
  Prod.ext h.groups h.groupsV2

theorem PoolEvolves.declared {p : Nat} (h : PoolEvolves p s s') : s'.declared = s.declared :=
  Prod.ext h.groups h.groupsV2

theorem recycleResource_declared (hs : s.Good D) (hD : ¬ D.metered) {c : Nat}
    (hc : c ≠ 0) : (s.recycleResource c).declared = s.declared := by
  have hev : Evolves D s (recycleDevices c (List.range s.numDevice) s 0) :=
    recycleDevices_evolves hc _ List.nodup_range s 0 hs.sound fun h => absurd h hD
  exact hev.declared

theorem recycleAll_declared (hs : s.Good D) (hD : ¬ D.metered)
    {clients : List Nat} (hclients : ∀ c ∈ clients, c ≠ 0) :
    (clients.foldl recycleResource s).declared = s.declared := by
  induction clients generalizing s with
  | nil => rfl
  | cons c clients ih =>
      have hc : c ≠ 0 := hclients c (by simp)
      have hgood : (s.recycleResource c).Good D := hs.recycle hc fun h => absurd h hD
      rw [List.foldl_cons, ih hgood fun x hx => hclients x (by simp [hx])]
      exact recycleResource_declared hs hD hc

theorem resetDevice_declared (hs : s.Good D) (hD : ¬ D.metered) (env : XrtEnv)
    (devId : Nat) : (s.resetDevice env devId).1.declared = s.declared := by
  rw [resetDevice]
  split
  · rfl
  rename_i dev hdev
  split
  · have hrecycled := recycleAll_declared hs hD (clientsOn_ne_zero dev)
    have hunload := unloadOneDevice_evolves D ((clientsOn dev).foldl recycleResource s) env devId ""
    simp only
    split
    · exact hunload.declared.trans hrecycled
    · exact (declared_setDev _ _ _).trans (hunload.declared.trans hrecycled)
  · rfl


/-- The step lemma: what is no operation on the groups leaves them alone. -/
theorem Good.next_declared {op : Op} (h : s.Good D) (hD : ¬ D.metered) (hok : StepOk D s op)
    (hop : declares op = false) : (step s op).declared = s.declared := by
  cases hcmd : op.commanded with
  | false =>
      cases op with
      | createContext =>
          obtain ⟨-, -, hg, hg'⟩ := s.createContext_devList
          exact Prod.ext hg hg'
      | recycleResource clientId => exact recycleResource_declared h hD hok.sent
      | resetDevice env devId => exact resetDevice_declared h hD env devId
      | _ => simp [Op.commanded] at hcmd
  | true =>
      cases h.moves hok hcmd with
      | evolves hev => exact hev.declared
      | pool hev _ => exact hev.declared
      | relinquish heq => exact heq ▸ (resRelinquishCuPool_acts _ s).evolves.declared
      | declare hdeclares _ _ _ => simp [hop] at hdeclares

/-! ## Names and entries -/

end System

/-- The array of a list has the entries that its count says. -/
def CuListProperty.Filled (listProp : CuListProperty) : Prop :=
  listProp.cuNum ≤ listProp.cuProps.length

instance (listProp : CuListProperty) : Decidable listProp.Filled := by
  unfold CuListProperty.Filled
  infer_instance

/-- The optional lists of a declaration are filled. -/
def Op.Filled : Op → Prop
  | .resUdfCuGroupDeclare info => ∀ option ∈ info.optionUdfCuListProps, option.Filled
  | _ => True

instance (op : Op) : Decidable op.Filled := by
  apply Op.casesOn (motive := fun op => Decidable op.Filled) op <;> intros <;> unfold Op.Filled <;>
    infer_instance

namespace System

variable {s s' : System}

/-- The names of the declared groups are distinct, and their optional lists are filled. -/
structure GroupsDistinct (s : System) : Prop where
  names : (s.udfCuGroups.map (·.udfCuGroupName)).Nodup
  namesV2 : (s.udfCuGroupsV2.map (·.udfCuGroupName)).Nodup
  filled : ∀ group ∈ s.udfCuGroups, ∀ option ∈ group.optionUdfCuListProps, option.Filled

theorem GroupsDistinct.congr (h : s.GroupsDistinct) (hdeclared : s'.declared = s.declared) :
    s'.GroupsDistinct := by
  obtain ⟨hgroups, hgroupsV2⟩ := Prod.mk.inj hdeclared
  exact ⟨by rw [hgroups]; exact h.names, by rw [hgroupsV2]; exact h.namesV2,
    by rw [hgroups]; exact h.filled⟩

theorem declaredOption_filled {option : CuListProperty} (h : option.Filled) :
    (declaredOption option).Filled := by
  simp only [CuListProperty.Filled, declaredOption, CuListProperty.items, List.length_map,
    List.length_take] at h ⊢
  omega

/-- A new name keeps the names of a table distinct. -/
theorem nodup_map_concat {α : Type} {name : α → String} {l : List α} {x : α}
    (h : (l.map name).Nodup) (hnew : ¬ l.any (fun y => name y == name x) = true) :
    ((l ++ [x]).map name).Nodup := by
  rw [List.map_append, List.map_singleton, List.nodup_append]
  refine ⟨h, List.nodup_singleton _, fun a ha b hb => ?_⟩
  obtain ⟨y, hy, rfl⟩ := List.mem_map.mp ha
  rw [List.mem_singleton.mp hb]
  intro heq
  exact hnew (List.any_eq_true.mpr ⟨y, hy, beq_iff_eq.mpr heq⟩)

theorem GroupsDistinct.declare {info : UdfCuGroupInformation} (h : s.GroupsDistinct)
    (hfilled : ∀ option ∈ info.optionUdfCuListProps, option.Filled) :
    (s.resUdfCuGroupDeclare info).1.GroupsDistinct := by
  rw [resUdfCuGroupDeclare]
  split
  · exact h
  · rename_i hnew
    refine ⟨nodup_map_concat h.names hnew, h.namesV2, fun group hgroup option hoption => ?_⟩
    rcases List.mem_append.mp hgroup with hgroup | hgroup
    · exact h.filled group hgroup option hoption
    · rw [List.mem_singleton.mp hgroup] at hoption
      obtain ⟨given, hgiven, rfl⟩ := List.mem_map.mp hoption
      exact declaredOption_filled (hfilled given (List.mem_of_mem_take hgiven))

theorem GroupsDistinct.declareV2 {info : UdfCuGroupInformationV2} (h : s.GroupsDistinct) :
    (s.resUdfCuGroupDeclareV2 info).1.GroupsDistinct := by
  rw [resUdfCuGroupDeclareV2]
  split
  · exact h
  · rename_i hnew
    exact ⟨h.names, nodup_map_concat h.namesV2 hnew, h.filled⟩

theorem GroupsDistinct.undeclare (h : s.GroupsDistinct) (name : String) :
    (s.resUdfCuGroupUndeclare name).1.GroupsDistinct := by
  rw [resUdfCuGroupUndeclare]
  split
  · exact h
  · exact ⟨h.names.sublist ((List.eraseIdx_sublist _ _).map _), h.namesV2,
      fun group hgroup => h.filled group (List.mem_of_mem_eraseIdx hgroup)⟩

theorem GroupsDistinct.undeclareV2 (h : s.GroupsDistinct) (name : String) :
    (s.resUdfCuGroupUndeclareV2 name).1.GroupsDistinct := by
  rw [resUdfCuGroupUndeclareV2]
  split
  · exact h
  · exact ⟨h.names, h.namesV2.sublist ((List.eraseIdx_sublist _ _).map _), h.filled⟩

theorem GroupsDistinct.next {op : Op} (h : s.GroupsDistinct) (hgood : s.Good allRuns)
    (hok : StepOk allRuns s op) (hfilled : op.Filled) : (step s op).GroupsDistinct := by
  cases hop : declares op with
  | false => exact h.congr (hgood.next_declared id hok hop)
  | true =>
      cases op with
      | resUdfCuGroupDeclare info => exact h.declare hfilled
      | resUdfCuGroupDeclareV2 info => exact h.declareV2
      | resUdfCuGroupUndeclare name => exact h.undeclare name
      | resUdfCuGroupUndeclareV2 name => exact h.undeclareV2 name
      | _ => simp [declares] at hop

/-- The states reached by the runs whose declarations are filled. -/
def ReachableFilled (limit : Nat) : System → Prop :=
  Transition.Reaches step (fun s op => StepOk allRuns s op ∧ op.Filled) (initSystem limit)

theorem ReachableFilled.reachable {limit : Nat} (h : ReachableFilled limit s) :
    Reachable allRuns limit s :=
  Transition.Reaches.mono h fun _ _ hok => hok.1

theorem ReachableFilled.run {limit : Nat} (h : ReachableFilled limit s) (ops : List Op)
    (hok : StepsOk allRuns ops s) (hfilled : ∀ op ∈ ops, op.Filled) :
    ReachableFilled limit (ops.foldl step s) := by
  induction ops generalizing s with
  | nil => exact h
  | cons op ops ih =>
      have hnext : ReachableFilled limit (step s op) :=
        h.next op ⟨hok.1, hfilled op List.mem_cons_self⟩
      exact ih hnext hok.2 fun x hx => hfilled x (List.mem_cons_of_mem _ hx)

/-- The run lemma. -/
theorem ReachableFilled.groupsDistinct {limit : Nat} (h : ReachableFilled limit s) :
    s.GroupsDistinct := by
  have hinit : (initSystem limit).GroupsDistinct :=
    ⟨List.nodup_nil, List.nodup_nil, by simp [initSystem]⟩
  have hgood : (initSystem limit).Good allRuns := by
    have hrun : Reachable allRuns limit (initSystem limit) := .refl
    exact hrun.good
  exact (Transition.Reaches.invariant (I := fun s => s.Good allRuns ∧ s.GroupsDistinct) h
    ⟨hgood, hinit⟩ fun s op hs hok => ⟨hs.1.next hok.1, hs.2.next hs.1 hok.1 hok.2⟩).2

end System

end Xrm
