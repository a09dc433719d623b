import Xrm.Verification.AvailablePools
import Xrm.Verification.Endless
import Xrm.Verification.Groups
import Xrm.Verification.Ranges
import Xrm.Verification.Settling

/-! # Queries that come to an end

A query repeats an allocation, or a reservation, until one fails. Each of those that succeed leaves
less for the next, unless it asks for nothing or may come back to a CU that never fills up.
-/

namespace Xrm

open Procedure

namespace System

variable {s : System} {α : Type}

/-! ## What the queries use up -/

/-- The channels that are left are used up. -/
theorem Drains.supply {alloc : System → System × Except XrmError α} (h : Drains alloc) :
    Drain.Supply alloc (fun s _ => s.Countable) (fun _ _ _ => True)
      fun s _ => s.spare.toNat where
  taken hs heq := (h.ok heq hs).1
  less hs heq := by
    obtain ⟨hs', hless⟩ := h.ok heq hs
    have hleft := hs'.spare_nonneg
    omega
  failed _ _ := trivial

theorem supply_resAllocCuV2 (propV2 : CuPropertyV2) :
    Drain.Supply (fun s : System => s.resAllocCuV2 propV2 true) (fun s _ => s.Supplies propV2)
      (fun _ _ _ => True) fun s _ => s.free.toNat := by
  have hone : ∀ {s s' : System} {res : CuResource}, s.Supplies propV2 →
      s.resAllocCuV2 propV2 true = (s', .ok res) → s'.Supplies propV2 ∧ s'.free + 1 = s.free := by
    intro s s' res hs heq
    have hconsumes := resAllocCuV2_consumes hs true res
    rw [heq] at hconsumes
    exact hconsumes rfl
  refine ⟨fun hs heq => (hone hs heq).1, fun hs heq => ?_, fun _ _ => trivial⟩
  obtain ⟨hs', hfree⟩ := hone hs heq
  have hleft := hs'.free_nonneg
  omega

/-- A query for what is used up comes to an end. -/
theorem availableNum_ends {alloc : System → System × Except XrmError α}
    {I : System → List α → Prop} {J : System → List α → XrmError → Prop}
    {left : System → List α → Nat} (h : Drain.Supply alloc I J left) (hs : I s [])
    (release : System → α → System × Except XrmError Unit) :
    ∃ fuel r, availableNum alloc release fuel s = some r := by
  obtain ⟨s', l, e, hrun, -⟩ := h.ends hs (Nat.lt_succ_self _)
  exact ⟨_, _, by rw [availableNum, hrun, Option.map_some]⟩

/-- A list of which the count says that it is empty is refused. -/
theorem drains_list {listProp : CuListProperty}
    (hitems : 0 < listProp.cuNum → listProp.items ≠ []) :
    Drains fun s => s.resAllocCuList listProp := by
  by_cases hnum : 0 < listProp.cuNum
  · exact drains_resAllocCuList (hitems hnum)
  · refine .of_results fun s => ?_
    rw [resAllocCuList, if_pos (.inl (by omega))]
    exact ⟨by simp, fun _ _ => .refl s⟩

theorem drains_listV2 {listProp : CuListPropertyV2}
    (hitems : 0 < listProp.cuNum → listProp.items ≠ []) :
    Drains fun s => s.resAllocCuListV2 listProp := by
  by_cases hnum : 0 < listProp.cuNum
  · exact drains_resAllocCuListV2 (hitems hnum)
  · refine .of_results fun s => ?_
    rw [resAllocCuListV2, if_pos (.inl (by omega))]
    exact ⟨by simp, fun _ _ => .refl s⟩

/-! ### Groups -/

/-- The optional lists of the declared groups have the entries that their counts promise. -/
structure Stocked (s : System) : Prop where
  groups : ∀ group ∈ s.udfCuGroups,
    ∀ option ∈ group.optionUdfCuListProps.take group.optionUdfCuListNum.toNat,
      0 < option.cuNum → option.items ≠ []
  groupsV2 : ∀ group ∈ s.udfCuGroupsV2,
    ∀ option ∈ group.optionUdfCuListProps.take group.optionUdfCuListNum.toNat,
      0 < option.cuNum → option.items ≠ []

theorem Stocked.congr {s' : System} (h : s.Stocked) (hdeclared : s'.declared = s.declared) :
    s'.Stocked := by
  obtain ⟨hgroups, hgroupsV2⟩ := Prod.mk.inj hdeclared
  exact ⟨by rw [hgroups]; exact h.groups, by rw [hgroupsV2]; exact h.groupsV2⟩

theorem groupOption_items_ne_nil {groupProp : CuGroupProperty} {option : CuListProperty}
    (h : option.items ≠ []) : (groupOption groupProp option).items ≠ [] := by
  intro hnil
  apply h
  simp only [CuListProperty.items, groupOption, List.take_eq_nil_iff, List.map_eq_nil_iff] at hnil ⊢
  tauto

theorem groupOptionV2_items_ne_nil {groupProp : CuGroupProperty} {option : CuListPropertyV2}
    (h : option.items ≠ []) : (groupOptionV2 groupProp option).items ≠ [] := by
  intro hnil
  apply h
  simp only [CuListPropertyV2.items, groupOptionV2, List.take_eq_nil_iff,
    List.map_eq_nil_iff] at hnil ⊢
  tauto

theorem allocOptions_declared {β : Type}
    {alloc : System → β → System × Except XrmError CuListResource}
    (hone : ∀ s option, (alloc s option).1.declared = s.declared) (options : List β) (s : System)
    (e : XrmError) : (allocOptions alloc options s e).1.declared = s.declared := by
  induction options generalizing s e with
  | nil => rfl
  | cons option options ih =>
      have hoption := hone s option
      rw [allocOptions]
      split
      · rename_i heq
        rw [heq] at hoption
        exact hoption
      · rename_i heq
        rw [heq] at hoption
        exact (ih _ _).trans hoption

theorem resAllocCuGroup_declared (s : System) (groupProp : CuGroupProperty) :
    (s.resAllocCuGroup groupProp).1.declared = s.declared := by
  rw [resAllocCuGroup]
  split
  · rfl
  · exact allocOptions_declared (fun s _ => resAllocCuList_declared s _) _ _ _

theorem resAllocCuGroupV2_declared (s : System) (groupProp : CuGroupProperty) :
    (s.resAllocCuGroupV2 groupProp).1.declared = s.declared := by
  rw [resAllocCuGroupV2]
  split
  · rfl
  · exact allocOptions_declared (fun s _ => resAllocCuListV2_declared s _) _ _ _

/-- Of a stocked group one list is taken. -/
theorem Stocked.spends_group (h : s.Stocked) {groupProp : CuGroupProperty}
    {listRes : CuListResource} {s' : System}
    (heq : s.resAllocCuGroup groupProp = (s', .ok listRes)) : Spends 1 s s' := by
  rw [resAllocCuGroup] at heq
  split at heq
  · simp at heq
  · rename_i group hfind
    have hgroup := List.mem_of_find?_eq_some hfind
    refine (drains_allocOptions (fun option hoption => drains_list fun hnum => ?_) .error).ok heq
    exact groupOption_items_ne_nil (h.groups group hgroup option hoption hnum)

theorem Stocked.spends_groupV2 (h : s.Stocked) {groupProp : CuGroupProperty}
    {listRes : CuListResource} {s' : System}
    (heq : s.resAllocCuGroupV2 groupProp = (s', .ok listRes)) : Spends 1 s s' := by
  rw [resAllocCuGroupV2] at heq
  split at heq
  · simp at heq
  · rename_i group hfind
    have hgroup := List.mem_of_find?_eq_some hfind
    refine (drains_allocOptions (fun option hoption => drains_listV2 fun hnum => ?_) .error).ok heq
    exact groupOptionV2_items_ne_nil (h.groupsV2 group hgroup option hoption hnum)

/-- What the queries for groups need of the state, and leave. -/
structure GroupsReady (s : System) : Prop where
  countable : s.Countable
  stocked : s.Stocked
  fit : Indexed.GroupsFit s

/-- What the queries for pools need: ids for the pools that they may reserve before they come to an
end. -/
structure PoolsReady (s : System) : Prop where
  good : s.Good allRuns
  issued : s.Issued s.reservePoolId
  ids : s.reservePoolId + s.maxSlots < maxId

/-- What the queries need of a state: room, ids, stocked groups and numbered devices. -/
structure Ready (s : System) : Prop extends s.InRoom, s.PoolsReady where
  stocked : s.Stocked
  numbered : s.Numbered

theorem GroupsReady.supply {alloc : System → System × Except XrmError CuListResource}
    (hdeclared : ∀ s, (alloc s).1.declared = s.declared)
    (hspends : ∀ {s s' listRes}, s.Stocked → alloc s = (s', .ok listRes) → Spends 1 s s') :
    Drain.Supply alloc (fun s _ => s.GroupsReady) (fun _ _ _ => True)
      fun s _ => s.spare.toNat where
  taken {s s' _ _} hs heq := by
    have hsame := hdeclared s
    rw [heq] at hsame
    exact ⟨(hspends hs.stocked heq hs.countable).1, hs.stocked.congr hsame, hs.fit.congr hsame⟩
  less hs heq := by
    obtain ⟨hs', hless⟩ := hspends hs.stocked heq hs.countable
    have hleft := hs'.spare_nonneg
    omega
  failed _ _ := trivial

end System

namespace Indexed

variable {s : System} {α β : Type}

/-! ## The functions on groups -/

theorem tryOptions_eq {num : α → Int} {cuRoom cuListIdx : Nat} {options : List α}
    {attempt : α → SystemProcedure (Except XrmError CuListResource)}
    {alloc : System → α → System × Except XrmError CuListResource}
    (hone : ∀ option s, attempt option s = .ok (alloc s option).2 (alloc s option).1)
    (h : cuListIdx + options.length ≤ maxUdfCuGroupOptionListNum)
    (hnums : ∀ option ∈ options, num option ≤ cuRoom) (e : XrmError) :
    tryOptions cuRoom attempt cuListIdx (options.map fun option => (num option, option)) e s =
      .ok (System.allocOptions alloc options s e).2 (System.allocOptions alloc options s e).1 := by
  induction options generalizing cuListIdx e s with
  | nil => rfl
  | cons option options ih =>
      rw [List.length_cons] at h
      rw [List.map_cons, tryOptions, bind_ok (useEntry_eq (by omega) (by omega)),
        bind_ok (useBelow_eq (hnums option (by simp))), bind_ok (hone option s),
        System.allocOptions]
      cases halloc : alloc s option with
      | mk s' r =>
          cases r with
          | ok listRes => rfl
          | error e' => exact ih (by omega) (fun o ho => hnums o (by simp [ho])) e'

/-- A table of groups, each with its name and its optional lists beside their counts. -/
def tableOf {γ : Type} (name : γ → String) (options : γ → List α) (num : α → Int)
    (groups : List γ) : List (String × List (Int × α)) :=
  groups.map fun group => (name group, (options group).map fun option => (num option, option))

theorem onGroup_eq {γ : Type} {name : γ → String} {options : γ → List α} {num : α → Int}
    {groups : System → List γ} {room cuRoom : Nat} {wanted : String}
    {attempt : α → SystemProcedure (Except XrmError CuListResource)}
    {alloc : System → α → System × Except XrmError CuListResource}
    (hfit : TableFits room cuRoom (countsOf (tableOf name options num (groups s))))
    (hone : ∀ option s, attempt option s = .ok (alloc s option).2 (alloc s option).1)
    {r : System × Except XrmError CuListResource}
    (hnone : (groups s).find? (name · == wanted) = none → r = (s, .error .invalid))
    (hsome : ∀ {group}, (groups s).find? (name · == wanted) = some group →
      r = System.allocOptions alloc (options group) s .error) :
    onGroup room cuRoom (fun s => tableOf name options num (groups s)) wanted attempt s =
      .ok r.2 r.1 := by
  have hlen := hfit.length
  rw [countsOf, tableOf, List.length_map, List.length_map] at hlen
  have hnames : ((tableOf name options num (groups s)).map Prod.fst) = (groups s).map name := by
    simp [tableOf]
  rw [onGroup, bind_ok (p := get) rfl, hnames,
    bind_ok (findGroup_eq wanted _ (by rw [List.length_map]; omega))]
  cases hfind : ((groups s).map name).findIdx? fun x => x == wanted with
  | none =>
      have hmissing : (groups s).find? (name · == wanted) = none := by
        rw [List.find?_eq_none]
        intro group hgroup
        have hother := List.findIdx?_eq_none_iff.mp hfind _ (List.mem_map_of_mem hgroup)
        simpa using hother
      rw [hnone hmissing]
      rfl
  | some i =>
      obtain ⟨hi, hname, hbefore⟩ := List.findIdx?_eq_some_iff_getElem.mp hfind
      rw [List.length_map] at hi
      have hfound : (groups s).find? (name · == wanted) = some (groups s)[i] := by
        rw [List.find?_eq_some_iff_getElem]
        refine ⟨by simpa using hname, i, hi, rfl, fun j hj => ?_⟩
        simpa using hbefore j hj
      have hoptions := hfit.options _
        (List.mem_map_of_mem (List.mem_map_of_mem (List.getElem_mem hi)))
      simp only [List.map_map, Function.comp_def] at hoptions
      rw [hsome hfound]
      simp only [Option.map_some, Nat.add_zero, tableOf, List.getElem?_map,
        List.getElem?_eq_getElem hi, Option.getD_some]
      refine tryOptions_eq hone ?_ (fun option hoption => ?_) _
      · simpa using hoptions.1
      · exact hoptions.2 _ (List.mem_map_of_mem hoption)

theorem resAllocCuGroup_eq (hs : GroupsFit s) (groupProp : CuGroupProperty) :
    resAllocCuGroup groupProp s =
      .ok (s.resAllocCuGroup groupProp).2 (s.resAllocCuGroup groupProp).1 :=
  onGroup_eq (by have hfit := hs.1; rwa [← countsOf_groupOptions] at hfit)
    (fun _ _ => resAllocCuList_eq _) (fun h => by rw [System.resAllocCuGroup, h])
    fun h => by rw [System.resAllocCuGroup, h]

theorem resAllocCuGroupV2_eq (hs : GroupsFit s) (groupProp : CuGroupProperty) :
    resAllocCuGroupV2 groupProp s =
      .ok (s.resAllocCuGroupV2 groupProp).2 (s.resAllocCuGroupV2 groupProp).1 :=
  onGroup_eq (by have hfit := hs.2; rwa [← countsOf_groupOptionsV2] at hfit)
    (fun _ _ => resAllocCuListV2_eq _) (fun h => by rw [System.resAllocCuGroupV2, h])
    fun h => by rw [System.resAllocCuGroupV2, h]

/-! ## Pools with a report that has room for their copies -/

theorem reserveCopiesV2_eq (p : Nat) (listProp : CuListPropertyV2) {n i : Nat}
    (h : i + n ≤ maxPoolCuListNum) (infos : List (List Nat)) :
    reserveCopiesV2 p listProp n i s =
      .ok (s.reserveCopiesV2 p listProp n infos).2.isSome
        (s.reserveCopiesV2 p listProp n infos).1 := by
  induction n generalizing s i infos with
  | zero => rfl
  | succ n ih =>
      rw [reserveCopiesV2, bind_ok (useEntry_eq (by omega) (by omega)),
        bind_ok (resReserveCuListV2_eq p listProp), System.reserveCopiesV2]
      cases hret : s.resReserveCuListV2 p listProp with
      | mk s' r =>
          cases r with
          | ok deviceIds => exact ih (by omega) (infos ++ [deviceIds])
          | error e => rfl

theorem resReserveCuPoolV2_eq {poolProp : CuPoolPropertyV2}
    (hnum : poolProp.cuListNum ≤ maxPoolCuListNum) :
    resReserveCuPoolV2 poolProp s =
      .ok (s.resReserveCuPoolV2 poolProp).2.1 (s.resReserveCuPoolV2 poolProp).1 := by
  rw [resReserveCuPoolV2, System.resReserveCuPoolV2]
  simp only
  split
  · rfl
  split
  · rfl
  rw [bind_ok (p := get) rfl,
    bind_ok (reserveDeviceIds_eq _ _ _ _ (length_take_deviceIds _ (by omega)))]
  cases s.reserveDeviceIds s.getNextReservePoolId poolProp.clientId poolProp.clientProcessId
      (poolProp.deviceIdListProp.deviceIds.take poolProp.deviceIdListProp.deviceNum.toNat) with
  | mk s₁ reserved =>
  cases reserved with
  | false => rfl
  | true =>
  simp only [if_true]
  rw [bind_ok (call_eq _)]
  cases s₁.reserveXclbins s.getNextReservePoolId poolProp.xclbinUuid poolProp.clientId
      poolProp.clientProcessId poolProp.xclbinNum.toNat [] with
  | mk s₂ xclbins =>
  cases xclbins with
  | none => rfl
  | some xclbinDevIds =>
  simp only
  rw [bind_ok (reserveCopiesV2_eq _ _ (by omega) [])]
  cases s₂.reserveCopiesV2 s.getNextReservePoolId poolProp.cuListProp poolProp.cuListNum.toNat
      [] with
  | mk s₃ infos => cases infos <;> rfl

/-! ## The queries -/

/-- A query uses up a supply. -/
theorem ends_repeatCall {taken : β → Option α} {p : SystemProcedure β}
    {take : System → System × Except XrmError α} {I : System → List α → Prop}
    {J : System → List α → XrmError → Prop} {left : System → List α → Nat}
    (h : Drain.Supply take I J left)
    (hp : ∀ {s l}, I s l → ∃ b, p s = .ok b (take s).1 ∧ taken b = (take s).2.toOption)
    {l : List α} (hs : I s l) {fuel : Nat} (hfuel : left s l < fuel) :
    Ends (repeatCall taken p fuel l) s fun _ _ => True := by
  induction fuel generalizing s l with
  | zero => omega
  | succ fuel ih =>
      obtain ⟨b, hb, htaken⟩ := hp hs
      rw [Ends, repeatCall, bind_ok hb, htaken]
      cases hr : take s with
      | mk s' r =>
          cases r with
          | ok a =>
              exact ih (h.taken hs hr)
                ((h.less hs hr).trans_le (Nat.lt_succ_iff.mp hfuel))
          | error e => exact ⟨_, _, rfl, trivial⟩

theorem ends_available_iff {taken : β → Option α} {p : SystemProcedure β}
    {giveBack : System → α → System} {fuel : Nat} :
    Ends (available fuel taken p giveBack) s (fun _ _ => True) ↔
      Ends (repeatCall taken p fuel []) s fun _ _ => True := by
  simp only [available, ends_bind, ends_modify]

/-- A query for what is used up comes to an end. -/
theorem ends_available {taken : β → Option α} {p : SystemProcedure β}
    {take : System → System × Except XrmError α} {I : System → List α → Prop}
    {J : System → List α → XrmError → Prop} {left : System → List α → Nat}
    (h : Drain.Supply take I J left)
    (hp : ∀ {s l}, I s l → ∃ b, p s = .ok b (take s).1 ∧ taken b = (take s).2.toOption)
    (hs : I s []) (giveBack : System → α → System) :
    ∃ fuel, Ends (available fuel taken p giveBack) s fun _ _ => True :=
  ⟨left s [] + 1, ends_available_iff.mpr (ends_repeatCall h hp hs (Nat.lt_succ_self _))⟩

theorem ends_listQuery (hs : s.Countable) {listProp : CuListProperty}
    (hitems : 0 < listProp.cuNum → listProp.items ≠ [])
    (giveBack : System → CuListResource → System) :
    ∃ fuel, Ends (available fuel Except.toOption (resAllocCuList listProp) giveBack) s
      fun _ _ => True :=
  ends_available (System.drains_list hitems).supply
    (fun _ => ⟨_, resAllocCuList_eq listProp, rfl⟩) hs giveBack

theorem ends_listQueryV2 (hs : s.Countable) {listProp : CuListPropertyV2}
    (hitems : 0 < listProp.cuNum → listProp.items ≠ [])
    (giveBack : System → CuListResource → System) :
    ∃ fuel, Ends (available fuel Except.toOption (resAllocCuListV2 listProp) giveBack) s
      fun _ _ => True :=
  ends_available (System.drains_listV2 hitems).supply
    (fun _ => ⟨_, resAllocCuListV2_eq listProp, rfl⟩) hs giveBack

theorem ends_groupQuery (hs : s.GroupsReady) (groupProp : CuGroupProperty)
    (giveBack : System → CuListResource → System) :
    ∃ fuel, Ends (available fuel Except.toOption (resAllocCuGroup groupProp) giveBack) s
      fun _ _ => True :=
  ends_available
    (System.GroupsReady.supply (fun s => s.resAllocCuGroup_declared groupProp)
      fun hs => hs.spends_group)
    (fun hs => ⟨_, resAllocCuGroup_eq hs.fit groupProp, rfl⟩) hs giveBack

theorem ends_groupQueryV2 (hs : s.GroupsReady) (groupProp : CuGroupProperty)
    (giveBack : System → CuListResource → System) :
    ∃ fuel, Ends (available fuel Except.toOption (resAllocCuGroupV2 groupProp) giveBack) s
      fun _ _ => True :=
  ends_available
    (System.GroupsReady.supply (fun s => s.resAllocCuGroupV2_declared groupProp)
      fun hs => hs.spends_groupV2)
    (fun hs => ⟨_, resAllocCuGroupV2_eq hs.fit groupProp, rfl⟩) hs giveBack

/-! ### Pools -/

theorem takenPool_eq (r : System × Nat) :
    takenPool r.2 = (System.poolResult r).2.toOption := by
  rw [takenPool, System.poolResult]
  split <;> rfl

theorem ends_seizes {reserve : System → System × Nat} (hr : System.Seizes reserve)
    {p : SystemProcedure Nat} (hp : ∀ s, p s = .ok (reserve s).2 (reserve s).1)
    (hs : s.PoolsReady) (giveBack : System → Nat → System) :
    ∃ fuel, Ends (available fuel takenPool p giveBack) s fun _ _ => True := by
  refine ends_available (hr.supply hs.good hs.ids) (fun _ => ⟨_, hp _, takenPool_eq _⟩) ?_ giveBack
  rw [System.own_of_le (hs.issued.reserves hs.good.sound)]
  exact hs.issued.tried hs.good.sound

/-- A query for pools that ask for nothing never comes to an end. -/
theorem not_ends_nothing {p : SystemProcedure Nat} {f : System → System} {id : System → Nat}
    (hp : ∀ s, p s = .ok (id s) (f s)) (hid : ∀ s, id s ≠ 0)
    {giveBack : System → Nat → System} (fuel : Nat) :
    ¬Ends (available fuel takenPool p giveBack) s fun _ _ => True := by
  rw [ends_available_iff]
  generalize ([] : List Nat) = l
  induction fuel generalizing s l with
  | zero => simp [repeatCall]
  | succ fuel ih =>
      rw [Ends, repeatCall, bind_ok (hp s), takenPool, if_neg (hid s)]
      exact ih _

theorem ends_poolQuery (hs : s.PoolsReady) {poolProp : CuPoolProperty}
    (hitems : 0 < poolProp.cuListProp.cuNum → poolProp.cuListProp.items ≠ [])
    (giveBack : System → Nat → System) :
    (∃ fuel, Ends (available fuel takenPool (resReserveCuPool poolProp) giveBack) s
      fun _ _ => True) ↔ ¬poolProp.AsksNothing := by
  constructor
  · rintro ⟨fuel, hends⟩ hnothing
    refine not_ends_nothing (f := System.updateReservePoolId)
      (fun s => ?_) (fun s => nextId_ne_zero s.reservePoolId) fuel hends
    rw [resReserveCuPool_eq, System.nothing_granted hnothing]
    rfl
  · exact fun hasks =>
      ends_seizes (System.seizes_resReserveCuPool hitems hasks) (fun _ => resReserveCuPool_eq _) hs
        giveBack

/-- A pool whose report is too short for its copies is not reserved; the query ends at once. -/
theorem ends_poolQueryV2 (hs : s.PoolsReady) {poolProp : CuPoolPropertyV2}
    (hitems : 0 < poolProp.cuListProp.cuNum → poolProp.cuListProp.items ≠ [])
    (hdevices : 0 < poolProp.deviceIdListProp.deviceNum → poolProp.deviceIdListProp.deviceIds ≠ [])
    (giveBack : System → Nat → System) :
    (∃ fuel, Ends (available fuel takenPool (resReserveCuPoolV2 poolProp) giveBack) s
      fun _ _ => True) ↔ Inside (resReserveCuPoolV2 poolProp) s ∧ ¬poolProp.AsksNothing := by
  constructor
  · rintro ⟨fuel, hends⟩
    have hinside : Inside (resReserveCuPoolV2 poolProp) s := by
      rw [ends_available_iff] at hends
      cases fuel with
      | zero => simp [repeatCall] at hends
      | succ fuel => exact ((inside_bind _ _).mp hends.inside).1
    refine ⟨hinside, fun hnothing => ?_⟩
    have hnum : poolProp.cuListNum ≤ maxPoolCuListNum := by rw [hnothing.1]; decide
    refine not_ends_nothing (f := System.updateReservePoolId)
      (fun s => ?_) (fun s => nextId_ne_zero s.reservePoolId) fuel hends
    obtain ⟨hstate, hid⟩ := System.nothing_grantedV2 hnothing s
    rw [resReserveCuPoolV2_eq hnum, hstate, hid]
    rfl
  · rintro ⟨hinside, hasks⟩
    by_cases hnum : poolProp.cuListNum ≤ maxPoolCuListNum
    · exact ends_seizes (System.seizes_resReserveCuPoolV2 hitems hdevices hasks)
        (fun _ => resReserveCuPoolV2_eq hnum) hs giveBack
    · obtain ⟨p, s', heq, -⟩ := settles_resReserveCuPoolV2 poolProp s hinside
      have hzero : p = 0 := by
        by_contra hne
        exact hnum (le_of_resReserveCuPoolV2 hne heq).1
      refine ⟨1, ends_available_iff.mpr ?_⟩
      rw [Ends, repeatCall, bind_ok heq, hzero, takenPool, if_pos rfl]
      exact ⟨_, _, rfl, trivial⟩

end Indexed

namespace IndexingCommand

variable {conv : Conversion} {t : DataTree} {s : System}

/-! ## The commands -/

/-- A list that has been read has the entries that its count says. -/
theorem readCuListProp_items {dir : List String} {poolId : Nat → Nat}
    (h : 0 < (readCuListProp conv t dir poolId).cuNum) :
    (readCuListProp conv t dir poolId).items ≠ [] := by
  rw [← List.length_pos_iff, CuListProperty.items, List.length_take]
  simp only [readCuListProp, List.length_map, List.length_range]
  simp only [readCuListProp] at h
  rw [rounds]
  change 0 < min _ (valueOf conv t .int32 (dir ++ ["cuNum"])).toNat
  omega

theorem readCuListPropV2_items {listDir dir : List String} {poolId : Nat → Nat}
    (h : 0 < (readCuListPropV2 conv t listDir dir poolId).cuNum) :
    (readCuListPropV2 conv t listDir dir poolId).items ≠ [] := by
  rw [← List.length_pos_iff, CuListPropertyV2.items, List.length_take]
  simp only [readCuListPropV2, List.length_map, List.length_range]
  simp only [readCuListPropV2] at h
  rw [rounds]
  change 0 < min _ (valueOf conv t .int32 (listDir ++ ["cuNum"])).toNat
  omega

theorem readDeviceIds_ne_nil (h : 0 < (readDeviceIds conv t).deviceNum) :
    (readDeviceIds conv t).deviceIds ≠ [] := by
  rw [← List.length_pos_iff]
  simp only [readDeviceIds, List.length_map, List.length_range]
  simp only [readDeviceIds] at h
  rw [rounds]
  change 0 < (valueOf conv t .int32 (Command.deviceIdListDir ++ ["deviceNum"])).toNat
  omega

/-- A query for pools asks for something. -/
def LoopEnds (conv : Conversion) (t : DataTree) : IndexingCommand → Prop
  | checkCuPoolAvailableNum => ¬(queryPool conv t).AsksNothing
  | checkCuPoolAvailableNumV2 => ¬(queryPoolV2 conv t).AsksNothing
  | _ => True

/-- The commands without a query have no loop that is watched. -/
theorem ends_body_of_not_queries {c : IndexingCommand} (hc : ¬c.Queries) :
    (∃ fuel, Ends (c.body conv fuel t) s fun _ _ => True) ↔
      ∀ fuel, Inside (c.body conv fuel t) s := by
  have hfuel : ∀ fuel, c.body conv fuel t = c.body conv 0 t := by
    intro fuel
    cases c with
    | checkCuListAvailableNum | checkCuListAvailableNumV2 | checkCuGroupAvailableNum
    | checkCuGroupAvailableNumV2 | checkCuPoolAvailableNum | checkCuPoolAvailableNumV2 =>
        exact absurd trivial hc
    | _ => rfl
  simp only [hfuel, exists_const, forall_const]
  exact (settles_body hc conv 0 t).ends_iff

/-- What the commands that index need, once they have read their request, to come to an end. -/
theorem ends_body (hs : s.Ready) {c : IndexingCommand} (hc : c.Complete conv t) :
    (∃ fuel, Ends (c.body conv fuel t) s fun _ _ => True) ↔
      c.Within conv t s ∧ c.LoopEnds conv t := by
  have hcount : s.Countable := hs.good.sound.countable
  have hgroups : s.GroupsReady := ⟨hcount, hs.stocked, hs.groups, hs.groupsV2⟩
  have hpools : s.PoolsReady := hs.toPoolsReady
  cases c with
  | checkCuListAvailableNum =>
      exact iff_of_true (Indexed.ends_listQuery hcount readCuListProp_items _) ⟨trivial, trivial⟩
  | checkCuListAvailableNumV2 =>
      exact iff_of_true (Indexed.ends_listQueryV2 hcount readCuListPropV2_items _)
        ⟨trivial, trivial⟩
  | checkCuGroupAvailableNum =>
      exact iff_of_true (Indexed.ends_groupQuery hgroups _ _) ⟨trivial, trivial⟩
  | checkCuGroupAvailableNumV2 =>
      exact iff_of_true (Indexed.ends_groupQueryV2 hgroups _ _) ⟨trivial, trivial⟩
  | checkCuPoolAvailableNum =>
      refine (Indexed.ends_poolQuery hpools readCuListProp_items _).trans ?_
      exact (and_iff_right trivial).symm
  | checkCuPoolAvailableNumV2 =>
      refine (Indexed.ends_poolQueryV2 hpools readCuListPropV2_items
        readDeviceIds_ne_nil _).trans ?_
      rw [Indexed.inside_resReserveCuPoolV2]
      exact Iff.rfl
  | _ =>
      refine (ends_body_of_not_queries ?_).trans ?_
      · exact id
      · exact (inside_body hs.toInRoom hc).trans (and_iff_left trivial).symm

end IndexingCommand

/-! ## Runs -/

namespace System

variable {s : System}

/-- A step of a run whose declarations have all their entries, and find room. -/
def StepFits (s : System) (op : Op) : Prop := s.StepWhole op ∧ s.DeclarationFits op

theorem stepsOk_of_allOk {ops : List Op} (h : Transition.AllOk step StepFits ops s) :
    StepsOk allRuns ops s := by
  induction ops generalizing s with
  | nil => trivial
  | cons op ops ih => exact ⟨h.1.1.1, ih h.2⟩

theorem stocked_of_run {limit : Nat} (h : ReachableWhole limit s) : s.Stocked := by
  refine ⟨fun group hgroup option hoption hnum => ?_, fun group hgroup option hoption hnum => ?_⟩
  · have hfilled :=
      h.filled.groupsDistinct.filled group hgroup option (List.mem_of_mem_take hoption)
    rw [CuListProperty.Filled] at hfilled
    rw [← List.length_pos_iff, CuListProperty.items, List.length_take]
    omega
  · have hwhole := h.groupsWhole group hgroup option (List.mem_of_mem_take hoption)
    rw [← List.length_pos_iff, CuListPropertyV2.items, List.length_take]
    omega

/-- The run lemma. -/
theorem ready_of_run {limit : Nat} {ops : List Op}
    (hok : Transition.AllOk step StepFits ops (initSystem limit))
    (hs : ops.foldl step (initSystem limit) = s) (hnum : s.numDevice ≤ maxXilinxDevices)
    (hids : (poolIds ops (initSystem limit)).length + s.maxSlots < maxId) : s.Ready := by
  have hruns := stepsOk_of_allOk hok
  have hreaches : Transition.Reaches step StepFits (initSystem limit) s :=
    hs ▸ Transition.Reaches.run .refl hok
  have hwhole : ReachableWhole limit s := hreaches.mono fun _ _ h => h.1
  have hroom : s.InRoom :=
    Indexed.inRoom_of_run (hreaches.mono fun _ _ h => ⟨h.1.1, h.2⟩) hnum
  have hstart : (initSystem limit).Good allRuns := Reachable.good .refl
  have hnone : (initSystem limit).Issued 0 := by simp [Issued, initSystem]
  have hlt :
      (initSystem limit).reservePoolId + (poolIds ops (initSystem limit)).length < maxId := by
    change 0 + _ < maxId
    omega
  obtain ⟨-, hissued, hcounter⟩ := hstart.run_counts hnone hruns hlt
  rw [hs] at hissued hcounter
  exact
    { toInRoom := hroom
      good := hs ▸ (Reachable.run .refl ops hruns).good
      issued := hissued
      ids := by
        rw [hcounter]
        change 0 + _ + _ < maxId
        omega
      stocked := stocked_of_run hwhole
      numbered := Reachable.numbered (hreaches.mono fun _ _ h => h.1.1) }

end System

end Xrm
