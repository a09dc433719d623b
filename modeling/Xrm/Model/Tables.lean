import Xrm.Library.NamedTable
import Xrm.Model.AllocList

/-! # The tables of groups and plugins

The arrays behind the declared groups and the loaded plugins, slot by slot. A slot that is not in
use keeps what it held, and the copies between slots write only some of the fields.
-/

namespace Xrm

open NamedTable

/-- `for (i = 0; i < n; i++) des[i] = f(src[i])`. -/
def copyFirst {α β : Type} {size : Nat} (n : Int) (f : α → β) (src : Fin size → α)
    (des : Fin size → β) : Fin size → β := fun i => if (i : Int) < n then f (src i) else des i

/-! ## Slots of the group tables -/

/-- A request after `memset` to zero. -/
def CuProperty.zero : CuProperty where
  kernelName := ""
  kernelAlias := ""
  cuName := ""
  devExcl := false
  requestLoadUnified := 0
  requestLoadOriginal := 0
  clientId := 0
  clientProcessId := 0
  poolId := 0

/-- A version 2 request with the memory constraint that only the group table stores. -/
structure UdfCuPropertyV2 extends CuPropertyV2 where
  memoryInfo : Nat
  deriving Repr, DecidableEq

def UdfCuPropertyV2.zero : UdfCuPropertyV2 where
  kernelName := ""
  kernelAlias := ""
  cuName := ""
  devExcl := false
  deviceInfo := 0
  policyInfo := 0
  requestLoadUnified := 0
  requestLoadOriginal := 0
  clientId := 0
  clientProcessId := 0
  poolId := 0
  memoryInfo := 0

/-- The fields of a CU that the first version of the group functions copies. -/
def CuProperty.copyUdf (src : CuProperty) : CuProperty :=
  { CuProperty.zero with
    cuName := strncpy src.cuName
    devExcl := src.devExcl
    requestLoadUnified := src.requestLoadUnified
    requestLoadOriginal := src.requestLoadOriginal }

/-- The fields of a CU that the second version copies. -/
def UdfCuPropertyV2.copyUdf (src : UdfCuPropertyV2) : UdfCuPropertyV2 :=
  { UdfCuPropertyV2.zero with
    cuName := strncpy src.cuName
    devExcl := src.devExcl
    deviceInfo := src.deviceInfo
    memoryInfo := src.memoryInfo
    requestLoadUnified := src.requestLoadUnified
    requestLoadOriginal := src.requestLoadOriginal }

/-- An option of a group, with all entries of its array. -/
structure UdfCuList where
  cuProps : Fin maxListCuNum → CuProperty
  cuNum : Int
  sameDevice : Bool

structure UdfCuListV2 where
  cuProps : Fin maxListCuNumV2 → UdfCuPropertyV2
  cuNum : Int

/-- Clear the destination and copy the option, CU by CU. -/
def UdfCuList.copy (src : UdfCuList) : UdfCuList where
  cuProps := copyFirst src.cuNum CuProperty.copyUdf src.cuProps fun _ => CuProperty.zero
  cuNum := src.cuNum
  sameDevice := src.sameDevice

def UdfCuListV2.copy (src : UdfCuListV2) : UdfCuListV2 where
  cuProps := copyFirst src.cuNum UdfCuPropertyV2.copyUdf src.cuProps fun _ => UdfCuPropertyV2.zero
  cuNum := src.cuNum

/-- A group whose options are of type `L`: one slot of a group table, or a declaration. -/
structure UdfCuGroup (L : Type) where
  udfCuGroupName : String
  optionUdfCuListProps : Fin maxUdfCuGroupOptionListNum → L
  optionUdfCuListNum : Int

namespace UdfCuGroup

variable {L : Type}

/-- Copy a group into a slot: the options behind `optionUdfCuListNum` stay in the slot. -/
def copyTo (copyList : L → L) (src des : UdfCuGroup L) : UdfCuGroup L where
  udfCuGroupName := src.udfCuGroupName
  optionUdfCuListNum := src.optionUdfCuListNum
  optionUdfCuListProps := copyFirst src.optionUdfCuListNum copyList src.optionUdfCuListProps
    des.optionUdfCuListProps

/-- Flush a slot. The number of options is cleared before the loop that reads it, so the options
stay. -/
def flush (slot : UdfCuGroup L) : UdfCuGroup L :=
  { slot with udfCuGroupName := "", optionUdfCuListNum := 0 }

/-- The loop that looks for a name among the slots in use. -/
def find (name : String) (t : Table (UdfCuGroup L)) : Option Nat :=
  t.used.findIdx? (·.udfCuGroupName == cStr name)

/-- Declare a group behind the others. The size of the array is not checked. -/
def declareIn (copyList : L → L) (info : UdfCuGroup L) (t : Table (UdfCuGroup L)) :
    Table (UdfCuGroup L) × Except XrmError Unit :=
  match find info.udfCuGroupName t with
  | some _ => (t, .error .invalid)
  | none => (t.append (info.copyTo copyList), .ok ())

/-- Remove the group of the name and move the ones behind it down. -/
def undeclareIn (copyList : L → L) (name : String) (t : Table (UdfCuGroup L)) :
    Table (UdfCuGroup L) × Except XrmError Unit :=
  match find name t with
  | none => (t, .error .invalid)
  | some i => (t.erase (copyTo copyList) flush i, .ok ())

end UdfCuGroup

/-! ## Slots of the plugin table -/

def maxPluginNum : Nat := 32
def maxPluginFuncId : Nat := 7

/-- The version of the plugin interface that the daemon accepts. -/
def apiVersion1 : Int := 1

/-- The functions of a plugin, each by its address or, for the two the daemon calls here, by the
value it returns; a missing function is `none`. -/
structure PluginData where
  pluginVersion : Option Int
  apiVersion : Option Int
  pluginFunc : Fin (maxPluginFuncId + 1) → Nat
  extData : Fin 4 → Nat

/-- Plugin data after `memset` to zero. -/
def PluginData.zero : PluginData where
  pluginVersion := none
  apiVersion := none
  pluginFunc := fun _ => 0
  extData := fun _ => 0

structure PluginInformation where
  xrmPluginName : String
  xrmPluginFileName : String
  pluginData : PluginData

namespace PluginInformation

/-- All fields of a plugin are copied. -/
def copyTo (src _des : PluginInformation) : PluginInformation where
  xrmPluginName := src.xrmPluginName
  xrmPluginFileName := src.xrmPluginFileName
  pluginData := src.pluginData

def flush (_slot : PluginInformation) : PluginInformation where
  xrmPluginName := ""
  xrmPluginFileName := ""
  pluginData := PluginData.zero

end PluginInformation

/-- The dynamic linker: the handle of a file and the symbol of a name in it, or its error text. -/
structure DynamicLinker where
  dlopen : String → Except String Nat
  dlsym : Nat → String → Except String PluginData

/-! ## The tables -/

structure Tables where
  udfCuGroups : Table (UdfCuGroup UdfCuList)
  udfCuGroupsV2 : Table (UdfCuGroup UdfCuListV2)
  xrmPluginList : Table PluginInformation

namespace Tables

def resUdfCuGroupDeclare (t : Tables) (info : UdfCuGroup UdfCuList) :
    Tables × Except XrmError Unit :=
  match UdfCuGroup.declareIn UdfCuList.copy info t.udfCuGroups with
  | (groups, ret) => ({ t with udfCuGroups := groups }, ret)

def resUdfCuGroupDeclareV2 (t : Tables) (info : UdfCuGroup UdfCuListV2) :
    Tables × Except XrmError Unit :=
  match UdfCuGroup.declareIn UdfCuListV2.copy info t.udfCuGroupsV2 with
  | (groups, ret) => ({ t with udfCuGroupsV2 := groups }, ret)

def resUdfCuGroupUndeclare (t : Tables) (name : String) : Tables × Except XrmError Unit :=
  match UdfCuGroup.undeclareIn UdfCuList.copy name t.udfCuGroups with
  | (groups, ret) => ({ t with udfCuGroups := groups }, ret)

def resUdfCuGroupUndeclareV2 (t : Tables) (name : String) : Tables × Except XrmError Unit :=
  match UdfCuGroup.undeclareIn UdfCuListV2.copy name t.udfCuGroupsV2 with
  | (groups, ret) => ({ t with udfCuGroupsV2 := groups }, ret)

/-- The loop that looks for a plugin. -/
def findPlugin (t : Tables) (xrmPluginName : String) : Option Nat :=
  t.xrmPluginList.used.findIdx? (·.xrmPluginName == cStr xrmPluginName)

/-- The version that a loaded plugin reports, kept in a `uint32_t`. -/
def versionOf (t : Tables) (pluginId : Nat) : Nat :=
  let pluginVersion := (t.xrmPluginList.slots[pluginId]?.bind (·.pluginData.pluginVersion)).getD 0
  (pluginVersion % 2 ^ 32).toNat

/-- Load one plugin: its symbol, of the right interface, goes behind the others. -/
def loadOneXrmPlugin (t : Tables) (linker : DynamicLinker)
    (xrmPluginFileName xrmPluginName : String)
    (errmsg : String) : Tables × String × Except XrmError Unit :=
  if t.xrmPluginList.num ≥ maxPluginNum then
    (t, errmsg ++ s!"Plugin loading has reached the limitation ({maxPluginNum})", .error .error)
  else
    match t.findPlugin xrmPluginName with
    | some pluginId =>
        (t, errmsg ++ "plugin " ++ xrmPluginName ++ s!" (version {t.versionOf pluginId})" ++
          " is already loaded", .error .error)
    | none =>
        match linker.dlopen (cStr xrmPluginFileName) with
        | .error errorMsg => (t, errmsg ++ errorMsg, .error .error)
        | .ok pluginHandle =>
            match linker.dlsym pluginHandle (cStr xrmPluginName) with
            | .error errorMsg => (t, errmsg ++ errorMsg, .error .error)
            | .ok plugin =>
                if plugin.apiVersion = none then
                  (t, errmsg ++ "There is No API version function in plugin", .error .error)
                else if plugin.apiVersion ≠ some apiVersion1 then
                  (t, errmsg ++ "Plugin API version not match", .error .error)
                else if plugin.pluginVersion = none then
                  (t, errmsg ++ "There is No plugin version function in plugin", .error .error)
                else
                  ({ t with
                      xrmPluginList := t.xrmPluginList.append fun _ =>
                        { xrmPluginName := xrmPluginName
                          xrmPluginFileName := xrmPluginFileName
                          pluginData := plugin } },
                    errmsg, .ok ())

/-- Unload one plugin and move the ones behind it down. -/
def unloadOneXrmPlugin (t : Tables) (xrmPluginName errmsg : String) :
    Tables × String × Except XrmError Unit :=
  match t.findPlugin xrmPluginName with
  | none => (t, errmsg ++ "XRM Plugin not loaded", .error .error)
  | some pluginId =>
      ({ t with
          xrmPluginList := t.xrmPluginList.erase PluginInformation.copyTo PluginInformation.flush
            pluginId },
        errmsg, .ok ())

/-! ## Runs -/

/-- The operations on the tables. -/
inductive TableOp where
  | resUdfCuGroupDeclare (info : UdfCuGroup UdfCuList)
  | resUdfCuGroupDeclareV2 (info : UdfCuGroup UdfCuListV2)
  | resUdfCuGroupUndeclare (name : String)
  | resUdfCuGroupUndeclareV2 (name : String)
  | loadOneXrmPlugin (linker : DynamicLinker) (xrmPluginFileName xrmPluginName errmsg : String)
  | unloadOneXrmPlugin (xrmPluginName errmsg : String)

/-- The tables after an operation that stays inside the arrays, and its return value. -/
def perform (t : Tables) : TableOp → Tables × Except XrmError Unit
  | .resUdfCuGroupDeclare info => t.resUdfCuGroupDeclare info
  | .resUdfCuGroupDeclareV2 info => t.resUdfCuGroupDeclareV2 info
  | .resUdfCuGroupUndeclare name => t.resUdfCuGroupUndeclare name
  | .resUdfCuGroupUndeclareV2 name => t.resUdfCuGroupUndeclareV2 name
  | .loadOneXrmPlugin linker xrmPluginFileName xrmPluginName errmsg =>
      match t.loadOneXrmPlugin linker xrmPluginFileName xrmPluginName errmsg with
      | (t, _, ret) => (t, ret)
  | .unloadOneXrmPlugin xrmPluginName errmsg =>
      match t.unloadOneXrmPlugin xrmPluginName errmsg with
      | (t, _, ret) => (t, ret)

def next (t : Tables) (op : TableOp) : Tables := (t.perform op).1

/-- The operation declares a group in the slot behind the array. -/
def Overruns (t : Tables) : TableOp → Prop
  | .resUdfCuGroupDeclare info =>
      UdfCuGroup.find info.udfCuGroupName t.udfCuGroups = none ∧
        t.udfCuGroups.slots.length ≤ t.udfCuGroups.num
  | .resUdfCuGroupDeclareV2 info =>
      UdfCuGroup.find info.udfCuGroupName t.udfCuGroupsV2 = none ∧
        t.udfCuGroupsV2.slots.length ≤ t.udfCuGroupsV2.num
  | _ => False

instance (t : Tables) (op : TableOp) : Decidable (t.Overruns op) := by
  cases op <;> unfold Overruns <;> infer_instance

/-- The tables after an operation and its return value; nothing where it writes behind an array,
which the daemon does not survive. -/
def perform? (t : Tables) (op : TableOp) : Option (Tables × Except XrmError Unit) :=
  if t.Overruns op then none else some (t.perform op)

/-- `initXrmPlugins` and `initUdfCuGroups`: every slot is flushed, whatever it held. -/
def init (groups : List (UdfCuGroup UdfCuList)) (groupsV2 : List (UdfCuGroup UdfCuListV2))
    (plugins : List PluginInformation) : Tables where
  udfCuGroups := ⟨groups.map UdfCuGroup.flush, 0⟩
  udfCuGroupsV2 := ⟨groupsV2.map UdfCuGroup.flush, 0⟩
  xrmPluginList := ⟨plugins.map PluginInformation.flush, 0⟩

end Tables

end Xrm
