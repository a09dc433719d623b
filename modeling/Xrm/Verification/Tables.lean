import Xrm.Library.Transition
import Xrm.Model.Tables

/-! # The tables as ordered maps

Read through what a declaration says, the slots in use are a bounded ordered map: the stale
contents of the slots and the fields that the copies leave out do not show. Loading a plugin keeps
the bound by its own test. Declaring a group does not look at the size of its array, so the bound
is kept as long as there is room.
-/

namespace Xrm

open NamedTable Transition

/-! ## Reading arrays -/

section Arrays

variable {α β γ : Type} {size : Nat}

/-- The first `n` entries of an array. -/
def firstOf (n : Int) (f : Fin size → α) : List α :=
  ((List.finRange size).filter fun i : Fin size => (i.val : Int) < n).map f

theorem map_firstOf (g : α → β) (n : Int) (f : Fin size → α) :
    (firstOf n f).map g = firstOf n (g ∘ f) := List.map_map

/-- The entries that a loop has copied do not depend on what the array held. -/
theorem firstOf_copyFirst (n : Int) (f : α → β) (src : Fin size → α) (des : Fin size → β) :
    firstOf n (copyFirst n f src des) = (firstOf n src).map f := by
  rw [map_firstOf, firstOf, firstOf]
  apply List.map_congr_left
  intro i hi
  have hlt : (i : Int) < n := by simpa using (List.mem_filter.mp hi).2
  rw [copyFirst, if_pos hlt, Function.comp_apply]

end Arrays

@[simp]
theorem strncpy_strncpy (s : String) : strncpy (strncpy s) = strncpy s := by
  simp [strncpy, List.take_take]

/-! ## What a declaration says -/

/-- What a declaration says of a CU. -/
structure DeclaredCu where
  cuName : String
  devExcl : Bool
  requestLoadUnified : Int
  requestLoadOriginal : Int

structure DeclaredCuV2 extends DeclaredCu where
  deviceInfo : Nat
  memoryInfo : Nat

structure DeclaredList where
  cuNum : Int
  cuProps : List DeclaredCu
  sameDevice : Bool

structure DeclaredListV2 where
  cuNum : Int
  cuProps : List DeclaredCuV2

/-- A declared group with options of type `O`. -/
structure Declared (O : Type) where
  udfCuGroupName : String
  optionUdfCuListNum : Int
  options : List O

/-- The name of a CU is the text that its array of characters can hold. -/
def CuProperty.declared (cu : CuProperty) : DeclaredCu where
  cuName := strncpy cu.cuName
  devExcl := cu.devExcl
  requestLoadUnified := cu.requestLoadUnified
  requestLoadOriginal := cu.requestLoadOriginal

def UdfCuPropertyV2.declared (cu : UdfCuPropertyV2) : DeclaredCuV2 where
  cuName := strncpy cu.cuName
  devExcl := cu.devExcl
  deviceInfo := cu.deviceInfo
  memoryInfo := cu.memoryInfo
  requestLoadUnified := cu.requestLoadUnified
  requestLoadOriginal := cu.requestLoadOriginal

def UdfCuList.declared (option : UdfCuList) : DeclaredList where
  cuNum := option.cuNum
  cuProps := (firstOf option.cuNum option.cuProps).map CuProperty.declared
  sameDevice := option.sameDevice

def UdfCuListV2.declared (option : UdfCuListV2) : DeclaredListV2 where
  cuNum := option.cuNum
  cuProps := (firstOf option.cuNum option.cuProps).map UdfCuPropertyV2.declared

@[simp]
theorem CuProperty.declared_copyUdf (cu : CuProperty) : cu.copyUdf.declared = cu.declared := by
  simp [declared, copyUdf]

@[simp]
theorem UdfCuPropertyV2.declared_copyUdf (cu : UdfCuPropertyV2) :
    cu.copyUdf.declared = cu.declared := by
  simp [declared, copyUdf]

@[simp]
theorem UdfCuList.declared_copy (option : UdfCuList) : option.copy.declared = option.declared := by
  simp [declared, copy, firstOf_copyFirst, List.map_map, Function.comp_def]

@[simp]
theorem UdfCuListV2.declared_copy (option : UdfCuListV2) :
    option.copy.declared = option.declared := by
  simp [declared, copy, firstOf_copyFirst, List.map_map, Function.comp_def]

/-! ## A table of groups -/

/-- An operation on a table does what the operation on the map does, and reports it. -/
def Tracks {σ γ : Type} (contents : σ → γ) (size : Nat) (t : Table σ) :
    Table σ × Except XrmError Unit → Option (List γ) → Prop
  | (t', ret), some l => ret = .ok () ∧ t'.view contents = l ∧ t'.Fits size
  | (t', ret), none => ret ≠ .ok () ∧ t' = t

theorem Tracks.cases {σ γ : Type} {contents : σ → γ} {size : Nat} {t : Table σ}
    {r : Table σ × Except XrmError Unit} {o : Option (List γ)} (h : Tracks contents size t r o) :
    (∃ l, o = some l ∧ r.2 = .ok () ∧ r.1.view contents = l ∧ r.1.Fits size) ∨
      (o = none ∧ r.2 ≠ .ok () ∧ r.1 = t) := by
  cases o with
  | some l => exact .inl ⟨l, rfl, h⟩
  | none => exact .inr ⟨rfl, h⟩

namespace UdfCuGroup

variable {L O : Type} {read : L → O} {copyList : L → L} {t : Table (UdfCuGroup L)}
  {info src : UdfCuGroup L} {name : String} {size : Nat}

def declared (read : L → O) (group : UdfCuGroup L) : Declared O where
  udfCuGroupName := group.udfCuGroupName
  optionUdfCuListNum := group.optionUdfCuListNum
  options := (firstOf group.optionUdfCuListNum group.optionUdfCuListProps).map read

/-- A copied slot says the same, whatever the slot held before. -/
theorem declared_copyTo (hcopy : ∀ option, read (copyList option) = read option)
    (src des : UdfCuGroup L) : (src.copyTo copyList des).declared read = src.declared read := by
  simp [declared, copyTo, firstOf_copyFirst, List.map_map, Function.comp_def, hcopy]

theorem find_eq (read : L → O) (name : String) (t : Table (UdfCuGroup L)) :
    find name t =
      (t.view (declared read)).findIdx? fun group => group.udfCuGroupName == cStr name := by
  rw [find, Table.view, List.findIdx?_map]
  rfl

theorem find_eq_none_iff (read : L → O) :
    find name t = none ↔ cStr name ∉ (t.view (declared read)).map Declared.udfCuGroupName := by
  rw [find_eq read, List.findIdx?_eq_none_iff]
  simp

theorem declareIn_tracks (hcopy : ∀ option, read (copyList option) = read option)
    (hfits : t.Fits size) (hname : cStr info.udfCuGroupName = info.udfCuGroupName)
    (hroom : find info.udfCuGroupName t = none → t.num < size) :
    Tracks (declared read) size t (declareIn copyList info t)
      (declare Declared.udfCuGroupName size (info.declared read) (t.view (declared read))) := by
  rw [declare, declareIn, Table.length_view hfits]
  cases hfind : find info.udfCuGroupName t with
  | some i =>
      have hmem : ¬ cStr info.udfCuGroupName ∉
          (t.view (declared read)).map Declared.udfCuGroupName := by
        rw [← find_eq_none_iff, hfind]
        simp
      rw [not_not, hname] at hmem
      rw [if_pos (.inl hmem)]
      exact ⟨by simp, rfl⟩
  | none =>
      have hnew : (info.declared read).udfCuGroupName ∉
          (t.view (declared read)).map Declared.udfCuGroupName := by
        have hnot := (find_eq_none_iff read).mp hfind
        rwa [hname] at hnot
      rw [if_neg (not_or.mpr ⟨hnew, Nat.not_le.mpr (hroom hfind)⟩)]
      exact ⟨rfl, Table.view_append hfits (hroom hfind) (declared_copyTo hcopy info),
        hfits.append (hroom hfind)⟩

theorem undeclareIn_tracks (hcopy : ∀ option, read (copyList option) = read option)
    (hfits : t.Fits size) (hname : cStr name = name)
    (hmap : BoundedMap Declared.udfCuGroupName size (t.view (declared read))) :
    Tracks (declared read) size t (undeclareIn copyList name t)
      (undeclare Declared.udfCuGroupName name (t.view (declared read))) := by
  rw [undeclare, undeclareIn]
  cases hfind : find name t with
  | none =>
      have hnot := (find_eq_none_iff read).mp hfind
      rw [hname] at hnot
      rw [if_neg hnot]
      exact ⟨by simp, rfl⟩
  | some i =>
      have hmem : name ∈ (t.view (declared read)).map Declared.udfCuGroupName := by
        by_contra hnot
        rw [← hname, ← find_eq_none_iff, hfind] at hnot
        simp at hnot
      rw [find_eq read, hname] at hfind
      have hi : i < t.num := by
        rw [← Table.length_view hfits]
        exact (List.findIdx?_eq_some_iff_getElem.mp hfind).1
      rw [if_pos hmem, filter_eq_eraseIdx hmap.nodup hfind]
      exact ⟨rfl, Table.view_erase (declared_copyTo hcopy) hfits hi, hfits.erase⟩

end UdfCuGroup

/-! ## The table of plugins -/

/-- The plugin that a file offers under a name, if its interface is the one the daemon knows. -/
def DynamicLinker.offered (linker : DynamicLinker) (xrmPluginFileName xrmPluginName : String) :
    Option PluginData :=
  match linker.dlopen (cStr xrmPluginFileName) with
  | .error _ => none
  | .ok pluginHandle =>
      match linker.dlsym pluginHandle (cStr xrmPluginName) with
      | .error _ => none
      | .ok plugin =>
          if plugin.apiVersion = some apiVersion1 ∧ plugin.pluginVersion ≠ none then some plugin
          else none

namespace Tables

variable {t : Tables} {linker : DynamicLinker} {xrmPluginFileName xrmPluginName errmsg : String}

/-- The entries of the loaded plugins. -/
def plugins (t : Tables) : List PluginInformation := t.xrmPluginList.view id

theorem findPlugin_eq (t : Tables) (xrmPluginName : String) :
    t.findPlugin xrmPluginName =
      t.plugins.findIdx? fun plugin => plugin.xrmPluginName == cStr xrmPluginName := by
  rw [findPlugin, plugins, Table.view, List.map_id]

theorem findPlugin_eq_none_iff :
    t.findPlugin xrmPluginName = none ↔
      cStr xrmPluginName ∉ t.plugins.map PluginInformation.xrmPluginName := by
  rw [findPlugin_eq, List.findIdx?_eq_none_iff]
  simp

/-- A plugin is loaded if the table has room, the name is new and the file offers it. -/
theorem loadOneXrmPlugin_eq (t : Tables) (linker : DynamicLinker)
    (xrmPluginFileName xrmPluginName errmsg : String) :
    (∃ plugin, t.xrmPluginList.num < maxPluginNum ∧ t.findPlugin xrmPluginName = none ∧
      linker.offered xrmPluginFileName xrmPluginName = some plugin ∧
      t.loadOneXrmPlugin linker xrmPluginFileName xrmPluginName errmsg =
        ({ t with
            xrmPluginList := t.xrmPluginList.append fun _ =>
              { xrmPluginName := xrmPluginName
                xrmPluginFileName := xrmPluginFileName
                pluginData := plugin } },
          errmsg, .ok ())) ∨
    ((maxPluginNum ≤ t.xrmPluginList.num ∨ t.findPlugin xrmPluginName ≠ none ∨
      linker.offered xrmPluginFileName xrmPluginName = none) ∧
      ∃ text, t.loadOneXrmPlugin linker xrmPluginFileName xrmPluginName errmsg =
        (t, text, .error .error)) := by
  by_cases hnum : t.xrmPluginList.num ≥ maxPluginNum
  · exact .inr ⟨.inl hnum, _, by rw [loadOneXrmPlugin, if_pos hnum]⟩
  rw [loadOneXrmPlugin, if_neg hnum, DynamicLinker.offered]
  cases hfind : t.findPlugin xrmPluginName with
  | some pluginId => exact .inr ⟨.inr (.inl (by simp)), _, rfl⟩
  | none =>
      cases linker.dlopen (cStr xrmPluginFileName) with
      | error errorMsg => exact .inr ⟨.inr (.inr rfl), _, rfl⟩
      | ok pluginHandle =>
          cases hsym : linker.dlsym pluginHandle (cStr xrmPluginName) with
          | error errorMsg => exact .inr ⟨.inr (.inr (by simp [hsym])), _, by simp [hsym]; rfl⟩
          | ok plugin =>
              by_cases hoffered : plugin.apiVersion = some apiVersion1 ∧ plugin.pluginVersion ≠ none
              · refine .inl ⟨plugin, Nat.not_le.mp hnum, rfl, ?_, ?_⟩
                · simp [hsym, hoffered]
                · simp [hsym, hoffered]
              · refine .inr ⟨.inr (.inr ?_), ?_⟩
                · simp only [hsym, if_neg hoffered]
                · simp only [hsym]
                  split_ifs with h1 h2 h3
                  · exact ⟨_, rfl⟩
                  · exact ⟨_, rfl⟩
                  · exact ⟨_, rfl⟩
                  · exact absurd ⟨not_not.mp h2, h3⟩ hoffered

/-- Loading leaves the other tables alone. -/
theorem loadOneXrmPlugin_frame (t : Tables) (linker : DynamicLinker)
    (xrmPluginFileName xrmPluginName errmsg : String) :
    (t.loadOneXrmPlugin linker xrmPluginFileName xrmPluginName errmsg).1 =
      { t with
        xrmPluginList :=
          (t.loadOneXrmPlugin linker xrmPluginFileName xrmPluginName errmsg).1.xrmPluginList } := by
  rcases loadOneXrmPlugin_eq t linker xrmPluginFileName xrmPluginName errmsg with
    ⟨plugin, -, -, -, heq⟩ | ⟨-, text, heq⟩
  · rw [heq]
  · rw [heq]

theorem unloadOneXrmPlugin_frame (t : Tables) (xrmPluginName errmsg : String) :
    (t.unloadOneXrmPlugin xrmPluginName errmsg).1 =
      { t with
        xrmPluginList := (t.unloadOneXrmPlugin xrmPluginName errmsg).1.xrmPluginList } := by
  rw [unloadOneXrmPlugin]
  split
  · rfl
  · rfl

/-- The entries of the plugins make a map keyed by their names. -/
theorem loadOneXrmPlugin_tracks (hfits : t.xrmPluginList.Fits maxPluginNum)
    (hname : cStr xrmPluginName = xrmPluginName) :
    Tracks id maxPluginNum t.xrmPluginList
      ((t.loadOneXrmPlugin linker xrmPluginFileName xrmPluginName errmsg).1.xrmPluginList,
        (t.loadOneXrmPlugin linker xrmPluginFileName xrmPluginName errmsg).2.2)
      ((linker.offered xrmPluginFileName xrmPluginName).bind fun plugin =>
        declare PluginInformation.xrmPluginName maxPluginNum
          { xrmPluginName := xrmPluginName
            xrmPluginFileName := xrmPluginFileName
            pluginData := plugin } t.plugins) := by
  have hlen : t.plugins.length = t.xrmPluginList.num := Table.length_view hfits
  rcases loadOneXrmPlugin_eq t linker xrmPluginFileName xrmPluginName errmsg with
    ⟨plugin, hroom, hfind, hoffered, heq⟩ | ⟨hwhy, text, heq⟩
  · rw [findPlugin_eq_none_iff, hname] at hfind
    rw [heq, hoffered, Option.bind_some, declare, hlen,
      if_neg (not_or.mpr ⟨hfind, Nat.not_le.mpr hroom⟩)]
    exact ⟨rfl, Table.view_append hfits hroom fun _ => rfl, hfits.append hroom⟩
  · have hnone : ((linker.offered xrmPluginFileName xrmPluginName).bind fun plugin =>
        declare PluginInformation.xrmPluginName maxPluginNum
          { xrmPluginName := xrmPluginName
            xrmPluginFileName := xrmPluginFileName
            pluginData := plugin } t.plugins) = none := by
      cases hoffered : linker.offered xrmPluginFileName xrmPluginName with
      | none => rfl
      | some plugin =>
          rw [Option.bind_some, declare, hlen, if_pos]
          rcases hwhy with hfull | hfind | hno
          · exact .inr hfull
          · rw [Ne, findPlugin_eq_none_iff, not_not, hname] at hfind
            exact .inl hfind
          · rw [hoffered] at hno
            exact absurd hno (Option.some_ne_none plugin)
    rw [heq, hnone]
    exact ⟨by simp, rfl⟩

theorem unloadOneXrmPlugin_tracks (hfits : t.xrmPluginList.Fits maxPluginNum)
    (hname : cStr xrmPluginName = xrmPluginName)
    (hmap : BoundedMap PluginInformation.xrmPluginName maxPluginNum t.plugins) :
    Tracks id maxPluginNum t.xrmPluginList
      ((t.unloadOneXrmPlugin xrmPluginName errmsg).1.xrmPluginList,
        (t.unloadOneXrmPlugin xrmPluginName errmsg).2.2)
      (undeclare PluginInformation.xrmPluginName xrmPluginName t.plugins) := by
  rw [undeclare, unloadOneXrmPlugin]
  cases hfind : t.findPlugin xrmPluginName with
  | none =>
      have hnot := findPlugin_eq_none_iff.mp hfind
      rw [hname] at hnot
      rw [if_neg hnot]
      exact ⟨by simp, rfl⟩
  | some pluginId =>
      have hmem : xrmPluginName ∈ t.plugins.map PluginInformation.xrmPluginName := by
        by_contra hnot
        rw [← hname, ← findPlugin_eq_none_iff, hfind] at hnot
        simp at hnot
      rw [findPlugin_eq, hname] at hfind
      have hi : pluginId < t.xrmPluginList.num := by
        have hlen : t.plugins.length = t.xrmPluginList.num := Table.length_view hfits
        rw [← hlen]
        exact (List.findIdx?_eq_some_iff_getElem.mp hfind).1
      rw [if_pos hmem, filter_eq_eraseIdx hmap.nodup hfind]
      exact ⟨rfl, Table.view_erase (fun _ _ => rfl) hfits hi, hfits.erase⟩

end Tables

/-! ## The three maps -/

/-- What the daemon's tables are for: three ordered maps. -/
structure NamedMaps where
  groups : List (Declared DeclaredList)
  groupsV2 : List (Declared DeclaredListV2)
  plugins : List PluginInformation

namespace NamedMaps

open Tables

def empty : NamedMaps := ⟨[], [], []⟩

/-- The maps after an operation, if it succeeds. -/
def step (m : NamedMaps) : TableOp → Option NamedMaps
  | .resUdfCuGroupDeclare info =>
      (declare Declared.udfCuGroupName maxUdfCuGroupNum (info.declared UdfCuList.declared)
        m.groups).map fun groups => { m with groups := groups }
  | .resUdfCuGroupDeclareV2 info =>
      (declare Declared.udfCuGroupName maxUdfCuGroupNumV2 (info.declared UdfCuListV2.declared)
        m.groupsV2).map fun groupsV2 => { m with groupsV2 := groupsV2 }
  | .resUdfCuGroupUndeclare name =>
      (undeclare Declared.udfCuGroupName name m.groups).map fun groups =>
        { m with groups := groups }
  | .resUdfCuGroupUndeclareV2 name =>
      (undeclare Declared.udfCuGroupName name m.groupsV2).map fun groupsV2 =>
        { m with groupsV2 := groupsV2 }
  | .loadOneXrmPlugin linker xrmPluginFileName xrmPluginName _ =>
      ((linker.offered xrmPluginFileName xrmPluginName).bind fun plugin =>
        declare PluginInformation.xrmPluginName maxPluginNum
          { xrmPluginName := xrmPluginName
            xrmPluginFileName := xrmPluginFileName
            pluginData := plugin } m.plugins).map fun plugins => { m with plugins := plugins }
  | .unloadOneXrmPlugin xrmPluginName _ =>
      (undeclare PluginInformation.xrmPluginName xrmPluginName m.plugins).map fun plugins =>
        { m with plugins := plugins }

/-- A failing operation changes nothing. -/
def next (m : NamedMaps) (op : TableOp) : NamedMaps := (m.step op).getD m

/-- Names are distinct and the sizes of the tables are kept. -/
structure Bounded (m : NamedMaps) : Prop where
  groups : BoundedMap Declared.udfCuGroupName maxUdfCuGroupNum m.groups
  groupsV2 : BoundedMap Declared.udfCuGroupName maxUdfCuGroupNumV2 m.groupsV2
  plugins : BoundedMap PluginInformation.xrmPluginName maxPluginNum m.plugins

theorem bounded_empty : empty.Bounded := ⟨boundedMap_nil, boundedMap_nil, boundedMap_nil⟩

theorem Bounded.step {m m' : NamedMaps} {op : TableOp} (h : m.Bounded) (hm : m.step op = some m') :
    m'.Bounded := by
  cases op with
  | resUdfCuGroupDeclare info =>
      obtain ⟨groups, hgroups, rfl⟩ := Option.map_eq_some_iff.mp hm
      exact { h with groups := h.groups.declare hgroups }
  | resUdfCuGroupDeclareV2 info =>
      obtain ⟨groupsV2, hgroups, rfl⟩ := Option.map_eq_some_iff.mp hm
      exact { h with groupsV2 := h.groupsV2.declare hgroups }
  | resUdfCuGroupUndeclare name =>
      obtain ⟨groups, hgroups, rfl⟩ := Option.map_eq_some_iff.mp hm
      exact { h with groups := h.groups.undeclare hgroups }
  | resUdfCuGroupUndeclareV2 name =>
      obtain ⟨groupsV2, hgroups, rfl⟩ := Option.map_eq_some_iff.mp hm
      exact { h with groupsV2 := h.groupsV2.undeclare hgroups }
  | loadOneXrmPlugin linker xrmPluginFileName xrmPluginName errmsg =>
      obtain ⟨plugins, hplugins, rfl⟩ := Option.map_eq_some_iff.mp hm
      obtain ⟨plugin, -, hdeclared⟩ := Option.bind_eq_some_iff.mp hplugins
      exact { h with plugins := h.plugins.declare hdeclared }
  | unloadOneXrmPlugin xrmPluginName errmsg =>
      obtain ⟨plugins, hplugins, rfl⟩ := Option.map_eq_some_iff.mp hm
      exact { h with plugins := h.plugins.undeclare hplugins }

theorem Bounded.next {m : NamedMaps} (h : m.Bounded) (op : TableOp) : (m.next op).Bounded := by
  rw [NamedMaps.next]
  cases hm : m.step op with
  | none => exact h
  | some m' => exact h.step hm

end NamedMaps

namespace Tables

variable {t : Tables} {op : TableOp}

/-- The maps that the tables hold. -/
def maps (t : Tables) : NamedMaps where
  groups := t.udfCuGroups.view (UdfCuGroup.declared UdfCuList.declared)
  groupsV2 := t.udfCuGroupsV2.view (UdfCuGroup.declared UdfCuListV2.declared)
  plugins := t.plugins

/-- The arrays have their sizes, and the counts are within them. -/
structure Fits (t : Tables) : Prop where
  udfCuGroups : t.udfCuGroups.Fits maxUdfCuGroupNum
  udfCuGroupsV2 : t.udfCuGroupsV2.Fits maxUdfCuGroupNumV2
  xrmPluginList : t.xrmPluginList.Fits maxPluginNum

/-- An operation stays inside the arrays, and it succeeds and does what the maps do, or fails with
the maps and changes nothing. -/
def Follows (t : Tables) (op : TableOp) : Prop :=
  t.perform? op = some (t.perform op) ∧
    match t.maps.step op with
    | some m => (t.perform op).2 = .ok () ∧ (t.next op).maps = m
    | none => (t.perform op).2 ≠ .ok () ∧ t.next op = t

end Tables

/-- A declaration whose name `c_str()` does not cut, whose counts stay within its arrays, and which
finds room in the table if its name is new. -/
structure UdfCuGroup.Declarable {L : Type} (size cuRoom : Nat) (cuNum : L → Int)
    (t : Table (UdfCuGroup L)) (info : UdfCuGroup L) : Prop where
  name : cStr info.udfCuGroupName = info.udfCuGroupName
  options : info.optionUdfCuListNum ≤ maxUdfCuGroupOptionListNum
  cus : ∀ i : Fin maxUdfCuGroupOptionListNum, (i.val : Int) < info.optionUdfCuListNum →
    cuNum (info.optionUdfCuListProps i) ≤ cuRoom
  room : UdfCuGroup.find info.udfCuGroupName t = none → t.num < size

namespace Tables

/-- The operations that the tables can take. -/
def Admits (t : Tables) : TableOp → Prop
  | .resUdfCuGroupDeclare info =>
      info.Declarable maxUdfCuGroupNum maxListCuNum UdfCuList.cuNum t.udfCuGroups
  | .resUdfCuGroupDeclareV2 info =>
      info.Declarable maxUdfCuGroupNumV2 maxListCuNumV2 UdfCuListV2.cuNum t.udfCuGroupsV2
  | .resUdfCuGroupUndeclare name => cStr name = name
  | .resUdfCuGroupUndeclareV2 name => cStr name = name
  | .loadOneXrmPlugin _ _ xrmPluginName _ => cStr xrmPluginName = xrmPluginName
  | .unloadOneXrmPlugin xrmPluginName _ => cStr xrmPluginName = xrmPluginName

variable {t : Tables} {op : TableOp}

/-- A declaration that finds room is made inside the array. -/
theorem Fits.performs (h : t.Fits) (hok : t.Admits op) : t.perform? op = some (t.perform op) := by
  rw [perform?, if_neg]
  cases op with
  | resUdfCuGroupDeclare info =>
      rintro ⟨hnew, hfull⟩
      have hroom := hok.room hnew
      have hlength := h.udfCuGroups.length
      omega
  | resUdfCuGroupDeclareV2 info =>
      rintro ⟨hnew, hfull⟩
      have hroom := hok.room hnew
      have hlength := h.udfCuGroupsV2.length
      omega
  | _ => exact id

/-- What holds of one table holds of the tables when the operation leaves the others alone. -/
theorem Fits.follows_of_tracks {σ γ : Type} {contents : σ → γ} {size : Nat} {table : Table σ}
    {r : Table σ × Except XrmError Unit} {o : Option (List γ)} (h : t.Fits)
    (htracks : Tracks contents size table r o) (hinside : t.perform? op = some (t.perform op))
    (put : List γ → NamedMaps) (hstep : t.maps.step op = o.map put) (hret : (t.perform op).2 = r.2)
    (hnext : r.1.Fits size → (t.next op).maps = put (r.1.view contents) ∧ (t.next op).Fits)
    (hsame : r.1 = table → t.next op = t) : t.Follows op ∧ (t.next op).Fits := by
  rw [Follows, hstep, hret]
  rcases htracks.cases with ⟨l, rfl, hok, rfl, hfits⟩ | ⟨rfl, hfail, heq⟩
  · exact ⟨⟨hinside, hok, (hnext hfits).1⟩, (hnext hfits).2⟩
  · rw [hsame heq]
    exact ⟨⟨hinside, hfail, rfl⟩, h⟩

/-- An operation that the tables can take does what it does on the maps. -/
theorem Fits.follows (h : t.Fits) (hmaps : t.maps.Bounded) (hok : t.Admits op) :
    t.Follows op ∧ (t.next op).Fits := by
  have hinside := h.performs hok
  cases op with
  | resUdfCuGroupDeclare info =>
      apply h.follows_of_tracks (UdfCuGroup.declareIn_tracks UdfCuList.declared_copy h.udfCuGroups
        hok.name hok.room) hinside (fun groups => { t.maps with groups := groups }) rfl rfl
      · exact fun hfits => ⟨rfl, { h with udfCuGroups := hfits }⟩
      · exact congrArg fun table => { t with udfCuGroups := table }
  | resUdfCuGroupDeclareV2 info =>
      apply h.follows_of_tracks (UdfCuGroup.declareIn_tracks UdfCuListV2.declared_copy
        h.udfCuGroupsV2 hok.name hok.room) hinside
        (fun groupsV2 => { t.maps with groupsV2 := groupsV2 })
        rfl rfl
      · exact fun hfits => ⟨rfl, { h with udfCuGroupsV2 := hfits }⟩
      · exact congrArg fun table => { t with udfCuGroupsV2 := table }
  | resUdfCuGroupUndeclare name =>
      apply h.follows_of_tracks (UdfCuGroup.undeclareIn_tracks UdfCuList.declared_copy
        h.udfCuGroups hok hmaps.groups) hinside (fun groups => { t.maps with groups := groups })
        rfl rfl
      · exact fun hfits => ⟨rfl, { h with udfCuGroups := hfits }⟩
      · exact congrArg fun table => { t with udfCuGroups := table }
  | resUdfCuGroupUndeclareV2 name =>
      apply h.follows_of_tracks (UdfCuGroup.undeclareIn_tracks UdfCuListV2.declared_copy
        h.udfCuGroupsV2 hok hmaps.groupsV2) hinside
        (fun groupsV2 => { t.maps with groupsV2 := groupsV2 }) rfl rfl
      · exact fun hfits => ⟨rfl, { h with udfCuGroupsV2 := hfits }⟩
      · exact congrArg fun table => { t with udfCuGroupsV2 := table }
  | loadOneXrmPlugin linker xrmPluginFileName xrmPluginName errmsg =>
      have hframe := t.loadOneXrmPlugin_frame linker xrmPluginFileName xrmPluginName errmsg
      apply h.follows_of_tracks (loadOneXrmPlugin_tracks h.xrmPluginList hok) hinside
        (fun plugins => { t.maps with plugins := plugins }) rfl rfl
      · intro hfits
        rw [show t.next (.loadOneXrmPlugin linker xrmPluginFileName xrmPluginName errmsg) =
          (t.loadOneXrmPlugin linker xrmPluginFileName xrmPluginName errmsg).1 from rfl, hframe]
        exact ⟨rfl, { h with xrmPluginList := hfits }⟩
      · intro hsame
        exact hframe.trans (congrArg (fun table => { t with xrmPluginList := table }) hsame)
  | unloadOneXrmPlugin xrmPluginName errmsg =>
      have hframe := t.unloadOneXrmPlugin_frame xrmPluginName errmsg
      apply h.follows_of_tracks
        (unloadOneXrmPlugin_tracks h.xrmPluginList hok hmaps.plugins) hinside
        (fun plugins => { t.maps with plugins := plugins }) rfl rfl
      · intro hfits
        rw [show t.next (.unloadOneXrmPlugin xrmPluginName errmsg) =
          (t.unloadOneXrmPlugin xrmPluginName errmsg).1 from rfl, hframe]
        exact ⟨rfl, { h with xrmPluginList := hfits }⟩
      · intro hsame
        exact hframe.trans (congrArg (fun table => { t with xrmPluginList := table }) hsame)

/-! ## Runs from the start -/

variable {groups : List (UdfCuGroup UdfCuList)} {groupsV2 : List (UdfCuGroup UdfCuListV2)}
  {plugins : List PluginInformation}

theorem init_fits (hgroups : groups.length = maxUdfCuGroupNum)
    (hgroupsV2 : groupsV2.length = maxUdfCuGroupNumV2) (hplugins : plugins.length = maxPluginNum) :
    (init groups groupsV2 plugins).Fits :=
  ⟨⟨by rw [init, List.length_map, hgroups], Nat.zero_le _⟩,
    ⟨by rw [init, List.length_map, hgroupsV2], Nat.zero_le _⟩,
    ⟨by rw [init, List.length_map, hplugins], Nat.zero_le _⟩⟩

/-- The tables simulate the maps. -/
structure Simulates (t : Tables) (m : NamedMaps) : Prop where
  fits : t.Fits
  maps : t.maps = m
  bounded : m.Bounded

theorem Simulates.next {m : NamedMaps} (h : t.Simulates m) (hok : t.Admits op) :
    (t.next op).Simulates (m.next op) := by
  obtain ⟨hfits, rfl, hbounded⟩ := h
  obtain ⟨hfollows, hnext⟩ := hfits.follows hbounded hok
  refine ⟨hnext, ?_, hbounded.next op⟩
  rw [Follows] at hfollows
  rw [NamedMaps.next]
  cases hm : t.maps.step op with
  | none =>
      rw [hm] at hfollows
      rw [hfollows.2.2, Option.getD_none]
  | some m =>
      rw [hm] at hfollows
      rw [hfollows.2.2, Option.getD_some]

/-- From any contents of the arrays, a run whose declarations find room keeps the tables the lists
of what is declared and loaded, in order, with distinct names and within their sizes. -/
theorem tables_are_maps (hgroups : groups.length = maxUdfCuGroupNum)
    (hgroupsV2 : groupsV2.length = maxUdfCuGroupNumV2) (hplugins : plugins.length = maxPluginNum)
    {ops : List TableOp} (hok : AllOk next Admits ops (init groups groupsV2 plugins)) (n : ℕ) :
    let t := (ops.take n).foldl next (init groups groupsV2 plugins)
    t.maps = (ops.take n).foldl NamedMaps.next .empty ∧ t.maps.Bounded ∧
      t.maps.groups.length = t.udfCuGroups.num ∧ t.maps.groupsV2.length = t.udfCuGroupsV2.num ∧
      t.maps.plugins.length = t.xrmPluginList.num ∧
      ∀ op, ops[n]? = some op → t.Follows op := by
  have hstart : (init groups groupsV2 plugins).Simulates .empty :=
    ⟨init_fits hgroups hgroupsV2 hplugins, rfl, NamedMaps.bounded_empty⟩
  have hsim : Simulates _ ((ops.take n).foldl NamedMaps.next .empty) :=
    (hok.take n).simulation hstart fun t m op h hop => h.next hop
  have hbounded := hsim.maps ▸ hsim.bounded
  refine ⟨hsim.maps, hbounded, Table.length_view hsim.fits.udfCuGroups,
    Table.length_view hsim.fits.udfCuGroupsV2, Table.length_view hsim.fits.xrmPluginList, ?_⟩
  intro op hop
  exact (hsim.fits.follows hbounded (hok.getElem hop)).1

end Tables

/-! ## A full table -/

/-- An option of two CUs, with something behind them. -/
def pairOption : UdfCuList where
  cuProps := fun i =>
    { CuProperty.zero with cuName := if i.val < 2 then "scaler" else "stale", devExcl := true }
  cuNum := 2
  sameDevice := true

def pairGroup (name : String) : UdfCuGroup UdfCuList where
  udfCuGroupName := name
  optionUdfCuListProps := fun _ => pairOption
  optionUdfCuListNum := 1

def staleGroupV2 : UdfCuGroup UdfCuListV2 where
  udfCuGroupName := "stale"
  optionUdfCuListProps := fun _ => ⟨fun _ => UdfCuPropertyV2.zero, 64⟩
  optionUdfCuListNum := 8

/-- The tables of a daemon that starts, with something in every slot. -/
def startTables : Tables :=
  .init (List.replicate maxUdfCuGroupNum (pairGroup "stale"))
    (List.replicate maxUdfCuGroupNumV2 staleGroupV2)
    (List.replicate maxPluginNum ⟨"stale", "stale.so", PluginData.zero⟩)

/-- A linker with one plugin. -/
def pluginLinker : DynamicLinker where
  dlopen := fun _ => .ok 1
  dlsym := fun _ xrmPluginName =>
    if xrmPluginName = "xrmPlugin" then
      .ok { PluginData.zero with pluginVersion := some 1, apiVersion := some 1 }
    else .error "undefined symbol"

/-- Declare two groups, one of them twice, remove the first one and load a plugin. -/
def namedRun : List Tables.TableOp :=
  [.resUdfCuGroupDeclare (pairGroup "a"), .resUdfCuGroupDeclare (pairGroup "b"),
    .resUdfCuGroupDeclare (pairGroup "a"), .resUdfCuGroupUndeclare "a",
    .loadOneXrmPlugin pluginLinker "plugin.so" "xrmPlugin" ""]

/-- A name that is not cut can be declared while there is room. -/
theorem pairGroup_declarable {t : NamedTable.Table (UdfCuGroup UdfCuList)} {name : String}
    (hname : cStr name = name) (hroom : t.num < maxUdfCuGroupNum) :
    (pairGroup name).Declarable maxUdfCuGroupNum maxListCuNum UdfCuList.cuNum t where
  name := hname
  options := show (1 : Int) ≤ maxUdfCuGroupOptionListNum by decide
  cus := fun _ _ => show (2 : Int) ≤ maxListCuNum by decide
  room := fun _ => hroom

namespace Tables

theorem tables_are_maps_named :
    let t := namedRun.foldl next startTables
    t.maps.groups.map Declared.udfCuGroupName = ["b"] ∧
      t.maps.plugins.map PluginInformation.xrmPluginName = ["xrmPlugin"] ∧
      t.maps = namedRun.foldl NamedMaps.next .empty ∧ t.maps.Bounded := by
  have hok : AllOk next Admits namedRun startTables :=
    ⟨pairGroup_declarable (by decide) (by decide), pairGroup_declarable (by decide) (by decide),
      pairGroup_declarable (by decide) (by decide +kernel), (by decide : cStr "a" = "a"),
      (by decide : cStr "xrmPlugin" = "xrmPlugin"), trivial⟩
  have hmaps := tables_are_maps (List.length_replicate ..) (List.length_replicate ..)
    (List.length_replicate ..) hok 5
  exact ⟨by decide +kernel, by decide +kernel, hmaps.1, hmaps.2.1⟩

/-- Thirty-three new names. -/
def manyNames : List String :=
  (List.range 33).map fun i => String.ofList [Char.ofNat (65 + i)]

/-- The declaration that finds the table full does not fail: it writes behind the end of the
array. -/
theorem tables_overflow :
    let t := ((manyNames.take 32).map fun name =>
      TableOp.resUdfCuGroupDeclare (pairGroup name)).foldl next startTables
    let op := TableOp.resUdfCuGroupDeclare (pairGroup "a")
    t.udfCuGroups.num = maxUdfCuGroupNum ∧ (t.perform? op).isNone ∧ ¬ t.Follows op := by
  have hnone : ((((manyNames.take 32).map fun name =>
      TableOp.resUdfCuGroupDeclare (pairGroup name)).foldl next startTables).perform?
        (.resUdfCuGroupDeclare (pairGroup "a"))).isNone := by decide +kernel
  refine ⟨by decide +kernel, hnone, fun hfollows => ?_⟩
  rw [hfollows.1] at hnone
  cases hnone

end Tables

end Xrm
