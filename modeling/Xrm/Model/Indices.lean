import Xrm.Model.System
import Xrm.Model.Wire
import Xrm.Model.Handlers

/-! # Indices

The commands on lists, groups and pools with every entry of a fixed array that a count or an id of
the request leads them to, each behind the test that the code makes before it, if it makes one. The
entries that the daemon finds by itself, in its loops over devices and CUs and in the records of its
own allocations, are left out.
-/

namespace Xrm

open Procedure

/-! ## Reading the requests -/

/-- The value under a path, once the handler has found one there. -/
def valueOf (conv : Conversion) (t : DataTree) (ty : IntType) (path : List String) : Int :=
  (getInt? conv t ty path).getD 0

def idOf (conv : Conversion) (t : DataTree) (path : List String) : Nat :=
  (valueOf conv t .uint64 path).toNat

/-- A name, as it is copied into a request. -/
def nameOf (t : DataTree) (path : List String) : String := strncpy (t.textD path)

/-- The request for one CU in the part of the tree under `dir`, its fields numbered by `suffix`. -/
def readCuProp (conv : Conversion) (t : DataTree) (dir : List String) (suffix : String)
    (poolId : Nat) : CuProperty where
  kernelName := nameOf t (dir ++ ["kernelName" ++ suffix])
  kernelAlias := nameOf t (dir ++ ["kernelAlias" ++ suffix])
  cuName := ""
  devExcl := valueOf conv t .int32 (dir ++ ["devExcl" ++ suffix]) != 0
  requestLoadUnified := valueOf conv t .int32 (dir ++ ["requestLoadUnified" ++ suffix])
  requestLoadOriginal := valueOf conv t .int32 (dir ++ ["requestLoadOriginal" ++ suffix])
  clientId := idOf conv t (parameters ++ ["clientId"])
  clientProcessId := valueOf conv t .int32 (parameters ++ ["clientProcessId"])
  poolId := poolId

def readCuPropV2 (conv : Conversion) (t : DataTree) (dir : List String) (suffix : String)
    (poolId : Nat) : CuPropertyV2 where
  kernelName := nameOf t (dir ++ ["kernelName" ++ suffix])
  kernelAlias := nameOf t (dir ++ ["kernelAlias" ++ suffix])
  cuName := ""
  devExcl := valueOf conv t .int32 (dir ++ ["devExcl" ++ suffix]) != 0
  deviceInfo := (u64 (valueOf conv t .int64 (dir ++ ["deviceInfo" ++ suffix]))).toNat
  policyInfo := (u64 (valueOf conv t .int64 (dir ++ ["policyInfo" ++ suffix]))).toNat
  requestLoadUnified := valueOf conv t .int32 (dir ++ ["requestLoadUnified" ++ suffix])
  requestLoadOriginal := valueOf conv t .int32 (dir ++ ["requestLoadOriginal" ++ suffix])
  clientId := idOf conv t (parameters ++ ["clientId"])
  clientProcessId := valueOf conv t .int32 (parameters ++ ["clientProcessId"])
  poolId := poolId

/-- The pool of entry `i` of a list request. -/
def entryPoolId (conv : Conversion) (t : DataTree) (i : Nat) : Nat :=
  idOf conv t (parameters ++ ["poolId" ++ toString i])

/-- The list of a request, its entries under `dir`. -/
def readCuListProp (conv : Conversion) (t : DataTree) (dir : List String) (poolId : Nat → Nat) :
    CuListProperty where
  cuProps := (List.range (rounds (dir ++ ["cuNum"]) conv t)).map fun i =>
    readCuProp conv t dir (toString i) (poolId i)
  cuNum := valueOf conv t .int32 (dir ++ ["cuNum"])
  sameDevice := valueOf conv t .int32 (dir ++ ["sameDevice"]) != 0

/-- The list of a request of the second version: its count under `listDir`, its entries under
`dir`. -/
def readCuListPropV2 (conv : Conversion) (t : DataTree) (listDir dir : List String)
    (poolId : Nat → Nat) : CuListPropertyV2 where
  cuProps := (List.range (rounds (listDir ++ ["cuNum"]) conv t)).map fun i =>
    readCuPropV2 conv t dir (toString i) (poolId i)
  cuNum := valueOf conv t .int32 (listDir ++ ["cuNum"])

/-- A list of which the names only are read. -/
def readNameList (conv : Conversion) (t : DataTree) : CuListProperty :=
  let listProp := readCuListProp conv t parameters fun _ => 0
  { listProp with
    cuProps := listProp.cuProps.map fun prop =>
      { prop with
        devExcl := false
        requestLoadUnified := 0
        requestLoadOriginal := 0
        clientId := 0
        clientProcessId := 0 } }

/-- The record of a release, its fields numbered by `suffix`. -/
def readRecord (conv : Conversion) (t : DataTree) (suffix : String) : CuResource :=
  { CuResource.zero with
    deviceId := valueOf conv t .int32 (parameters ++ ["deviceId" ++ suffix])
    cuId := valueOf conv t .int32 (parameters ++ ["cuId" ++ suffix])
    channelId := valueOf conv t .int32 (parameters ++ ["channelId" ++ suffix])
    allocServiceId := idOf conv t (parameters ++ ["allocServiceId" ++ suffix])
    clientId := idOf conv t (parameters ++ ["clientId"])
    channelLoadUnified := valueOf conv t .int32 (parameters ++ ["channelLoadUnified" ++ suffix])
    channelLoadOriginal := valueOf conv t .int32 (parameters ++ ["channelLoadOriginal" ++ suffix])
    poolId := idOf conv t (parameters ++ ["poolId" ++ suffix]) }

def readRecords (conv : Conversion) (t : DataTree) : CuListResource where
  cuResources := (List.range (rounds (parameters ++ ["cuNum"]) conv t)).map fun i =>
    readRecord conv t (toString i)
  cuNum := valueOf conv t .int32 (parameters ++ ["cuNum"])

def readGroupProp (conv : Conversion) (t : DataTree) : CuGroupProperty where
  udfCuGroupName := t.textD (parameters ++ ["udfCuGroupName"])
  clientId := idOf conv t (parameters ++ ["clientId"])
  clientProcessId := valueOf conv t .int32 (parameters ++ ["clientProcessId"])
  poolId := idOf conv t (parameters ++ ["poolId"])

/-- The part of a declaration for its optional list `cuListIdx`. -/
def optionDir (cuListIdx : Nat) : List String :=
  parameters ++ ["optionUdfCuListProps" ++ toString cuListIdx]

def readOption (conv : Conversion) (t : DataTree) (cuListIdx : Nat) : CuListProperty :=
  let dir := optionDir cuListIdx
  { cuProps := (List.range (rounds (dir ++ ["cuNum"]) conv t)).map fun i =>
      { readCuProp conv t dir (toString i) 0 with
        kernelName := ""
        kernelAlias := ""
        cuName := nameOf t (dir ++ ["cuName" ++ toString i])
        clientId := 0
        clientProcessId := 0 }
    cuNum := valueOf conv t .int32 (dir ++ ["cuNum"])
    sameDevice := valueOf conv t .int32 (dir ++ ["sameDevice"]) != 0 }

def readOptionV2 (conv : Conversion) (t : DataTree) (cuListIdx : Nat) : CuListPropertyV2 :=
  let dir := optionDir cuListIdx
  { cuProps := (List.range (rounds (dir ++ ["cuNum"]) conv t)).map fun i =>
      { readCuPropV2 conv t dir (toString i) 0 with
        kernelName := ""
        kernelAlias := ""
        cuName := nameOf t (dir ++ ["cuName" ++ toString i])
        policyInfo := policyNull
        clientId := 0
        clientProcessId := 0 }
    cuNum := valueOf conv t .int32 (dir ++ ["cuNum"]) }

/-- The number of optional lists of a declaration. -/
def optionNumPath : List String := parameters ++ ["optionUdfCuListNum"]

def readGroup (conv : Conversion) (t : DataTree) : UdfCuGroupInformation where
  udfCuGroupName := t.textD (parameters ++ ["udfCuGroupName"])
  optionUdfCuListProps := (List.range (rounds optionNumPath conv t)).map (readOption conv t)
  optionUdfCuListNum := valueOf conv t .int32 optionNumPath

def readGroupV2 (conv : Conversion) (t : DataTree) : UdfCuGroupInformationV2 where
  udfCuGroupName := t.textD (parameters ++ ["udfCuGroupName"])
  optionUdfCuListProps := (List.range (rounds optionNumPath conv t)).map (readOptionV2 conv t)
  optionUdfCuListNum := valueOf conv t .int32 optionNumPath

/-- A pool request whose list is under `dir`; a query does not fill in the client. -/
def readPoolProp (conv : Conversion) (t : DataTree) (dir : List String) (clientId : Nat)
    (clientProcessId : Int) : CuPoolProperty where
  cuListProp := readCuListProp conv t dir fun _ => 0
  cuListNum := valueOf conv t .int32 (parameters ++ ["cuListNum"])
  xclbinUuid := hexstrToBin (t.textD (parameters ++ ["xclbinUuidStr"])) uuidTextLen
  xclbinNum := valueOf conv t .int32 (parameters ++ ["xclbinNum"])
  clientId := clientId
  clientProcessId := clientProcessId

def readDeviceIds (conv : Conversion) (t : DataTree) : DeviceIdListPropertyV2 where
  deviceIds := (List.range (rounds (Command.deviceIdListDir ++ ["deviceNum"]) conv t)).map fun i =>
    idOf conv t (Command.deviceIdListDir ++ ["deviceIds" ++ toString i])
  deviceNum := valueOf conv t .int32 (Command.deviceIdListDir ++ ["deviceNum"])

def readPoolPropV2 (conv : Conversion) (t : DataTree) (dir : List String) (clientId : Nat)
    (clientProcessId : Int) : CuPoolPropertyV2 where
  cuListProp := readCuListPropV2 conv t Command.cuListDir dir fun _ => 0
  cuListNum := valueOf conv t .int32 (parameters ++ ["cuListNum"])
  xclbinUuid := hexstrToBin (t.textD (parameters ++ ["xclbinUuidStr"])) uuidTextLen
  xclbinNum := valueOf conv t .int32 (parameters ++ ["xclbinNum"])
  deviceIdListProp := readDeviceIds conv t
  clientId := clientId
  clientProcessId := clientProcessId

/-! ## Using entries -/

section Uses

variable {σ : Type}

/-- Entry `i` of an array with `room` entries is used. -/
def useEntry (i : Int) (room : Nat) : Procedure σ Unit :=
  if 0 ≤ i ∧ i < room then return () else overflow

/-- The entries `i`, `i + 1` and so on are used, `n` in all. -/
def useFrom (room : Nat) : Nat → Nat → Procedure σ Unit
  | 0, _ => return ()
  | n + 1, i => do
      useEntry i room
      useFrom room n (i + 1)

/-- A loop over the entries below a count. -/
def useBelow (count : Int) (room : Nat) : Procedure σ Unit := useFrom room count.toNat 0

/-- Uses behind a test that refuses the request. -/
def guarded (refused : Prop) [Decidable refused] (p : Procedure σ Unit) : Procedure σ Unit :=
  if refused then return () else p

/-- A function without an index from the request. -/
def call {α : Type} (f : σ → σ × α) : Procedure σ α := do
  let r := f (← get)
  modify fun _ => r.1
  return r.2

end Uses

/-! ## The functions of the system -/

namespace DeviceData

def resIsCuExistingOnDev (dev : DeviceData) (prop : CuProperty) : Bool :=
  !prop.unnamed && dev.cuList.any fun cu => cu.matchesCu prop

end DeviceData

namespace System

/-- Whether the CU is on some loaded device. -/
def resIsCuExisting (s : System) (prop : CuProperty) : Bool :=
  s.devList.any fun dev => dev.isLoaded && dev.resIsCuExistingOnDev prop

/-- The item loop of `resIsCuListExisting`; an item that was found is not looked for again, and
neither are the items after it. -/
def listFound (s : System) : List CuProperty → Bool → Bool
  | [], _ => true
  | prop :: props, cuFound =>
      let cuFound := cuFound || s.resIsCuExisting prop
      cuFound && s.listFound props cuFound

def resIsCuListExisting (s : System) (listProp : CuListProperty) : Bool :=
  if listProp.cuNum ≤ 0 ∨ listProp.cuNum > maxListCuNum then false
  else if listProp.sameDevice then
    s.devList.any fun dev =>
      dev.isLoaded && listProp.items.all fun prop => dev.resIsCuExistingOnDev prop
  else s.listFound listProp.items false

end System

namespace Indexed

abbrev SystemProcedure (α : Type) := Procedure System α

/-! ### Lists -/

def resIsCuListExisting (listProp : CuListProperty) : SystemProcedure Bool := do
  guarded (listProp.cuNum ≤ 0 ∨ listProp.cuNum > maxListCuNum)
    (useBelow listProp.cuNum maxListCuNum)
  call fun s => (s, s.resIsCuListExisting listProp)

/-- The properties and the resources are used by the item loops. -/
def resAllocCuList (listProp : CuListProperty) :
    SystemProcedure (Except XrmError CuListResource) := do
  guarded (listProp.cuNum ≤ 0 ∨ listProp.cuNum > maxListCuNum)
    (useBelow listProp.cuNum maxListCuNum)
  call fun s => s.resAllocCuList listProp

def resAllocCuListV2 (listProp : CuListPropertyV2) :
    SystemProcedure (Except XrmError CuListResource) := do
  guarded (listProp.cuNum ≤ 0 ∨ listProp.cuNum > maxListCuNumV2)
    (useBelow listProp.cuNum maxListCuNumV2)
  call fun s => s.resAllocCuListV2 listProp

/-! ### Releases -/

/-- The number of a device may be the number of devices; the number of the CU is compared with those
of the device before it is used, the number of the channel is never used. -/
def resReleaseCu (res : CuResource) : SystemProcedure (Except XrmError Unit) := do
  let s ← get
  if res.deviceId < 0 ∨ res.deviceId > s.numDevice then return .error .invalid
  else if res.cuId < 0 ∨ res.cuId > maxXilinxKernels then return .error .invalid
  else if res.channelId < 0 ∨ res.channelId > maxKernelChannels then return .error .invalid
  else
    useEntry res.deviceId maxXilinxDevices
    match s.devList[res.deviceId.toNat]? with
    | none => return .error .error
    | some dev =>
        if !dev.isLoaded then return .error .error
        else if res.cuId ≥ dev.numCu then return .error .error
        else
          useEntry res.cuId maxXilinxKernels
          call fun s => s.resReleaseCu res

/-- The loop of a release over the records in an array with room for `room` of them. -/
def releaseInOrder (room : Nat) : Nat → List CuResource → SystemProcedure (Except XrmError Unit)
  | _, [] => return .ok ()
  | i, res :: rest => do
      useEntry i room
      match ← resReleaseCu res with
      | .ok () => releaseInOrder room (i + 1) rest
      | .error e => return .error e

/-- The list and group releases: `maxNum` is the limit of the list. -/
def releaseList (maxNum : Nat) (listRes : CuListResource) :
    SystemProcedure (Except XrmError Unit) :=
  if listRes.cuNum < 0 ∨ listRes.cuNum > maxNum then return .error .invalid
  else releaseInOrder maxNum 0 (listRes.cuResources.take listRes.cuNum.toNat)

/-- The number of the CU is not compared with those of the device. -/
def checkCuStat (res : CuResource) : SystemProcedure Bool := do
  let s ← get
  if res.deviceId < 0 ∨ res.deviceId > s.numDevice then return false
  else if res.cuId < 0 ∨ res.cuId > maxXilinxKernels then return false
  else
    useEntry res.deviceId maxXilinxDevices
    useEntry res.cuId maxXilinxKernels
    return true

/-! ### One CU of a given device -/

/-- The functions that allocate on a given device, by the test that they open with. -/
def onDevice {α : Type} (deviceId : Int) (f : System → System × α) : SystemProcedure α := do
  let s ← get
  guarded (deviceId < 0 ∨ deviceId > (s.numDevice : Int) - 1)
    (useEntry deviceId maxXilinxDevices)
  call f

/-! ### Groups -/

/-- The search for a name among those of the declared groups. -/
def findGroup (room : Nat) (name : String) : Nat → List String → SystemProcedure (Option Nat)
  | _, [] => return none
  | i, udfCuGroupName :: rest => do
      useEntry i room
      if udfCuGroupName == name then return some i else findGroup room name (i + 1) rest

/-- A loop over optional lists: for each of them, from number `cuListIdx` on, its CUs as many as its
count says. -/
def useOptions (cuRoom : Nat) : Nat → List Int → SystemProcedure Unit
  | _, [] => return ()
  | cuListIdx, cuNum :: cuNums => do
      useEntry cuListIdx maxUdfCuGroupOptionListNum
      useBelow cuNum cuRoom
      useOptions cuRoom (cuListIdx + 1) cuNums

/-- The counts of the optional lists of a group. -/
def optionNums (info : UdfCuGroupInformation) : List Int :=
  (info.optionUdfCuListProps.take info.optionUdfCuListNum.toNat).map (·.cuNum)

def optionNumsV2 (info : UdfCuGroupInformationV2) : List Int :=
  (info.optionUdfCuListProps.take info.optionUdfCuListNum.toNat).map (·.cuNum)

/-- Declare a group behind the others, in an array with room for `room` of them. -/
def declareGroup (room cuRoom : Nat) (names : System → List String) (name : String)
    (cuNums : List Int) (f : System → System × Except XrmError Unit) :
    SystemProcedure (Except XrmError Unit) := do
  let declared := names (← get)
  match ← findGroup room name 0 declared with
  | some _ => return .error .invalid
  | none =>
      useEntry declared.length room
      useOptions cuRoom 0 cuNums
      call f

/-- The names of the declared groups. -/
def groupNames (s : System) : List String := s.udfCuGroups.map (·.udfCuGroupName)

def groupNamesV2 (s : System) : List String := s.udfCuGroupsV2.map (·.udfCuGroupName)

def resUdfCuGroupDeclare (info : UdfCuGroupInformation) : SystemProcedure (Except XrmError Unit) :=
  declareGroup maxUdfCuGroupNum maxListCuNum groupNames info.udfCuGroupName (optionNums info)
    fun s => s.resUdfCuGroupDeclare info

def resUdfCuGroupDeclareV2 (info : UdfCuGroupInformationV2) :
    SystemProcedure (Except XrmError Unit) :=
  declareGroup maxUdfCuGroupNumV2 maxListCuNumV2 groupNamesV2 info.udfCuGroupName
    (optionNumsV2 info) fun s => s.resUdfCuGroupDeclareV2 info

/-- Move the groups behind number `i` down, given the counts of their optional lists. -/
def moveDown (room cuRoom : Nat) : Nat → List (List Int) → SystemProcedure Unit
  | _, [] => return ()
  | i, cuNums :: rest => do
      useEntry i room
      useEntry ((i + 1 : Nat) : Int) room
      useOptions cuRoom 0 cuNums
      moveDown room cuRoom (i + 1) rest

/-- Remove the group of the name; the last of the entries is cleared. -/
def undeclareGroup (room cuRoom : Nat) (groups : System → List (String × List Int)) (name : String)
    (f : System → System × Except XrmError Unit) : SystemProcedure (Except XrmError Unit) := do
  let declared := groups (← get)
  match ← findGroup room name 0 (declared.map Prod.fst) with
  | none => return .error .invalid
  | some i =>
      moveDown room cuRoom i ((declared.drop (i + 1)).map Prod.snd)
      useEntry ((declared.length - 1 : Nat) : Int) room
      call f

/-- The declared groups with the counts of their optional lists. -/
def groupCounts (s : System) : List (String × List Int) :=
  s.udfCuGroups.map fun info => (info.udfCuGroupName, optionNums info)

def groupCountsV2 (s : System) : List (String × List Int) :=
  s.udfCuGroupsV2.map fun info => (info.udfCuGroupName, optionNumsV2 info)

def resUdfCuGroupUndeclare (name : String) : SystemProcedure (Except XrmError Unit) :=
  undeclareGroup maxUdfCuGroupNum maxListCuNum groupCounts name
    fun s => s.resUdfCuGroupUndeclare name

def resUdfCuGroupUndeclareV2 (name : String) : SystemProcedure (Except XrmError Unit) :=
  undeclareGroup maxUdfCuGroupNumV2 maxListCuNumV2 groupCountsV2 name
    fun s => s.resUdfCuGroupUndeclareV2 name

/-- The loop over the optional lists of a declared group, up to the first for which the attempt
succeeds. The CUs of a list are copied before its count is looked at. -/
def tryOptions {α β : Type} (cuRoom : Nat) (attempt : α → SystemProcedure (Except XrmError β)) :
    Nat → List (Int × α) → XrmError → SystemProcedure (Except XrmError β)
  | _, [], e => return .error e
  | cuListIdx, (cuNum, option) :: options, _ => do
      useEntry cuListIdx maxUdfCuGroupOptionListNum
      useBelow cuNum cuRoom
      match ← attempt option with
      | .ok b => return .ok b
      | .error e => tryOptions cuRoom attempt (cuListIdx + 1) options e

/-- The functions that try the optional lists of a declared group. -/
def onGroup {α β : Type} (room cuRoom : Nat) (groups : System → List (String × List (Int × α)))
    (name : String) (attempt : α → SystemProcedure (Except XrmError β)) :
    SystemProcedure (Except XrmError β) := do
  let declared := groups (← get)
  match ← findGroup room name 0 (declared.map Prod.fst) with
  | none => return .error .invalid
  | some i => tryOptions cuRoom attempt 0 ((declared[i]?.map Prod.snd).getD []) .error

/-- The declared groups with their optional lists, each beside its count. -/
def groupOptions (s : System) : List (String × List (Int × CuListProperty)) :=
  s.udfCuGroups.map fun info =>
    (info.udfCuGroupName,
      (info.optionUdfCuListProps.take info.optionUdfCuListNum.toNat).map fun option =>
        (option.cuNum, option))

def groupOptionsV2 (s : System) : List (String × List (Int × CuListPropertyV2)) :=
  s.udfCuGroupsV2.map fun info =>
    (info.udfCuGroupName,
      (info.optionUdfCuListProps.take info.optionUdfCuListNum.toNat).map fun option =>
        (option.cuNum, option))

def resAllocCuGroup (groupProp : CuGroupProperty) :
    SystemProcedure (Except XrmError CuListResource) :=
  onGroup maxUdfCuGroupNum maxListCuNum groupOptions groupProp.udfCuGroupName fun option =>
    resAllocCuList (System.groupOption groupProp option)

def resAllocCuGroupV2 (groupProp : CuGroupProperty) :
    SystemProcedure (Except XrmError CuListResource) :=
  onGroup maxUdfCuGroupNumV2 maxListCuNumV2 groupOptionsV2 groupProp.udfCuGroupName fun option =>
    resAllocCuListV2 (System.groupOptionV2 groupProp option)

/-- The list of the CU names of an optional list. -/
def nameOption (option : CuListProperty) : CuListProperty :=
  System.groupOption
    { udfCuGroupName := "", clientId := 0, clientProcessId := 0, poolId := 0 } option

def resIsCuGroupExisting (name : String) : SystemProcedure (Except XrmError Unit) :=
  onGroup maxUdfCuGroupNum maxListCuNum groupOptions name fun option => do
    if ← resIsCuListExisting (nameOption option) then return .ok () else return .error .error

end Indexed

namespace System

/-- Whether the named CUs of some optional list of the declared group exist. -/
def resIsCuGroupExisting (s : System) (name : String) : Bool :=
  match s.udfCuGroups.find? (·.udfCuGroupName == name) with
  | none => false
  | some group =>
      (group.optionUdfCuListProps.take group.optionUdfCuListNum.toNat).any fun option =>
        s.resIsCuListExisting (Indexed.nameOption option)

end System

namespace Indexed

/-! ### Pools -/

/-- Each copy of the list uses its properties. -/
def resReserveCuPool (poolProp : CuPoolProperty) : SystemProcedure Nat := do
  guarded (poolProp.cuListNum < 0 ∨ poolProp.xclbinNum < 0 ∨ poolProp.cuListProp.cuNum < 0 ∨
      poolProp.cuListProp.cuNum > maxListCuNum)
    (useBelow poolProp.cuListProp.cuNum maxListCuNum)
  call fun s => s.resReserveCuPool poolProp

/-- The number of the device is compared with the entries of the array, not with the devices. -/
def resReserveDevice (reservePoolId deviceId clientId : Nat) (clientProcessId : Int) :
    SystemProcedure (Except XrmError Unit) := do
  let devId := i32 ((deviceId % 2 ^ 32 : Nat) : Int)
  guarded (devId < 0 ∨ devId > maxXilinxDevices - 1)
    (useEntry devId maxXilinxDevices)
  call fun s =>
    match s.resReserveDevice reservePoolId deviceId clientId clientProcessId with
    | .ok s' => (s', .ok ())
    | .error e => (s, .error e)

def reserveDeviceIds (reservePoolId clientId : Nat) (clientProcessId : Int) :
    Nat → List Nat → SystemProcedure Bool
  | _, [] => return true
  | i, deviceId :: deviceIds => do
      useEntry i maxXilinxDevices
      match ← resReserveDevice reservePoolId deviceId clientId clientProcessId with
      | .ok () => reserveDeviceIds reservePoolId clientId clientProcessId (i + 1) deviceIds
      | .error _ => return false

/-- The entries of the list, and those of its report. -/
def resReserveCuListV2 (reservePoolId : Nat) (listProp : CuListPropertyV2) :
    SystemProcedure (Except XrmError (List Nat)) := do
  guarded (listProp.cuNum ≤ 0 ∨ listProp.cuNum > maxListCuNumV2)
    (useBelow listProp.cuNum maxListCuNumV2)
  call fun s => s.resReserveCuListV2 reservePoolId listProp

/-- Reserve `n` copies of the list, from number `i` on; copy number `i` is handed entry `i` of the
report. -/
def reserveCopiesV2 (reservePoolId : Nat) (listProp : CuListPropertyV2) :
    Nat → Nat → SystemProcedure Bool
  | 0, _ => return true
  | n + 1, i => do
      useEntry i maxPoolCuListNum
      match ← resReserveCuListV2 reservePoolId listProp with
      | .ok _ => reserveCopiesV2 reservePoolId listProp n (i + 1)
      | .error _ => return false

def resReserveCuPoolV2 (poolProp : CuPoolPropertyV2) : SystemProcedure Nat := do
  let deviceNum := poolProp.deviceIdListProp.deviceNum
  if poolProp.cuListNum < 0 ∨ poolProp.xclbinNum < 0 ∨ deviceNum < 0 ∨
      deviceNum > maxXilinxDevices then return 0
  else if poolProp.cuListProp.cuNum < 0 ∨ poolProp.cuListProp.cuNum > maxListCuNumV2 then return 0
  else
    let reservePoolId := (← get).getNextReservePoolId
    if ← reserveDeviceIds reservePoolId poolProp.clientId poolProp.clientProcessId 0
        (poolProp.deviceIdListProp.deviceIds.take deviceNum.toNat) then
      match ← call fun s => s.reserveXclbins reservePoolId poolProp.xclbinUuid poolProp.clientId
          poolProp.clientProcessId poolProp.xclbinNum.toNat [] with
      | none => call fun s => s.abandonPool reservePoolId
      | some _ =>
          if ← reserveCopiesV2 reservePoolId poolProp.cuListProp poolProp.cuListNum.toNat 0 then
            call fun s => (s.updateReservePoolId, reservePoolId)
          else call fun s => s.abandonPool reservePoolId
    else call fun s => s.abandonPool reservePoolId

/-! ## The commands -/

/-- Repeat a call until it fails; `fuel` bounds how long it is watched. -/
def repeatCall {α β : Type} (taken : β → Option α) (p : SystemProcedure β) :
    Nat → List α → SystemProcedure (List α)
  | 0, _ => stuck
  | fuel + 1, done => do
      match taken (← p) with
      | some a => repeatCall taken p fuel (done ++ [a])
      | none => return done

/-- Count how often a call succeeds, and give back what the calls have taken. -/
def available {α β : Type} (fuel : Nat) (taken : β → Option α) (p : SystemProcedure β)
    (giveBack : System → α → System) : SystemProcedure Unit := do
  let done ← repeatCall taken p fuel []
  modify fun s => done.foldl giveBack s

/-- The pool of a reservation; 0 where it failed. -/
def takenPool (reservePoolId : Nat) : Option Nat :=
  if reservePoolId = 0 then none else some reservePoolId

/-- An allocation of several CUs, and the loop over its resources that the response is made in. -/
def answerList (room : Nat) (p : SystemProcedure (Except XrmError CuListResource)) :
    SystemProcedure Unit := do
  match ← p with
  | .ok listRes => useBelow listRes.cuNum room
  | .error _ => return ()

/-- The loop over the copies of the list, for each of them over its items. -/
def useInfor (cuNum : Int) : Nat → Nat → SystemProcedure Unit
  | 0, _ => return ()
  | n + 1, i => do
      useEntry i maxPoolCuListNum
      useBelow cuNum maxListCuNumV2
      useInfor cuNum n (i + 1)

/-- A reservation of the second version, and the loops over its report. -/
def answerPool (poolProp : CuPoolPropertyV2) : SystemProcedure Unit := do
  let reservePoolId ← resReserveCuPoolV2 poolProp
  if reservePoolId > 0 then useInfor poolProp.cuListProp.cuNum poolProp.cuListNum.toNat 0
  else return ()

end Indexed

/-- The commands that use a count or an id of the request as an index. -/
inductive IndexingCommand where
  | isCuListExisting
  | isCuGroupExisting
  | cuAllocFromDev
  | cuAllocLeastUsedFromDev
  | cuRelease
  | cuReleaseV2
  | cuCheckStatus
  | cuListAlloc
  | cuListAllocV2
  | cuListRelease
  | cuListReleaseV2
  | checkCuListAvailableNum
  | checkCuListAvailableNumV2
  | udfCuGroupDeclare
  | udfCuGroupDeclareV2
  | udfCuGroupUndeclare
  | udfCuGroupUndeclareV2
  | cuGroupAlloc
  | cuGroupAllocV2
  | cuGroupRelease
  | cuGroupReleaseV2
  | checkCuGroupAvailableNum
  | checkCuGroupAvailableNumV2
  | cuPoolReserve
  | cuPoolReserveV2
  | checkCuPoolAvailableNum
  | checkCuPoolAvailableNumV2
  deriving Repr, DecidableEq

namespace IndexingCommand

def handler : IndexingCommand → Handler
  | isCuListExisting => Command.isCuListExisting
  | isCuGroupExisting => Command.isCuGroupExisting
  | cuAllocFromDev => Command.cuAllocFromDev
  | cuAllocLeastUsedFromDev => Command.cuAllocLeastUsedFromDev
  | cuRelease => Command.cuRelease
  | cuReleaseV2 => Command.cuReleaseV2
  | cuCheckStatus => Command.cuCheckStatus
  | cuListAlloc => Command.cuListAlloc
  | cuListAllocV2 => Command.cuListAllocV2
  | cuListRelease => Command.cuListRelease
  | cuListReleaseV2 => Command.cuListReleaseV2
  | checkCuListAvailableNum => Command.checkCuListAvailableNum
  | checkCuListAvailableNumV2 => Command.checkCuListAvailableNumV2
  | udfCuGroupDeclare => Command.udfCuGroupDeclare
  | udfCuGroupDeclareV2 => Command.udfCuGroupDeclareV2
  | udfCuGroupUndeclare => Command.udfCuGroupUndeclare
  | udfCuGroupUndeclareV2 => Command.udfCuGroupUndeclareV2
  | cuGroupAlloc => Command.cuGroupAlloc
  | cuGroupAllocV2 => Command.cuGroupAllocV2
  | cuGroupRelease => Command.cuGroupRelease
  | cuGroupReleaseV2 => Command.cuGroupReleaseV2
  | checkCuGroupAvailableNum => Command.checkCuGroupAvailableNum
  | checkCuGroupAvailableNumV2 => Command.checkCuGroupAvailableNumV2
  | cuPoolReserve => Command.cuPoolReserve
  | cuPoolReserveV2 => Command.cuPoolReserveV2
  | checkCuPoolAvailableNum => Command.checkCuPoolAvailableNum
  | checkCuPoolAvailableNumV2 => Command.checkCuPoolAvailableNumV2

/-- The list of a list request. -/
def listOf (conv : Conversion) (t : DataTree) : CuListProperty :=
  readCuListProp conv t parameters (entryPoolId conv t)

def listOfV2 (conv : Conversion) (t : DataTree) : CuListPropertyV2 :=
  readCuListPropV2 conv t parameters parameters (entryPoolId conv t)

/-- The pool of a reservation request. -/
def poolOf (conv : Conversion) (t : DataTree) : CuPoolProperty :=
  readPoolProp conv t Command.cuListDir (idOf conv t (parameters ++ ["clientId"]))
    (valueOf conv t .int32 (parameters ++ ["clientProcessId"]))

def poolOfV2 (conv : Conversion) (t : DataTree) : CuPoolPropertyV2 :=
  readPoolPropV2 conv t Command.cuListDir (idOf conv t (parameters ++ ["clientId"]))
    (valueOf conv t .int32 (parameters ++ ["clientProcessId"]))

/-- The pool of a query: it is reserved for nobody. -/
def queryPool (conv : Conversion) (t : DataTree) : CuPoolProperty :=
  readPoolProp conv t parameters 0 0

def queryPoolV2 (conv : Conversion) (t : DataTree) : CuPoolPropertyV2 :=
  readPoolPropV2 conv t parameters 0 0

open Indexed in
/-- What a command does with the request that it has read. -/
def body (conv : Conversion) (fuel : Nat) (t : DataTree) : IndexingCommand → SystemProcedure Unit
  | isCuListExisting => do
      let _ ← resIsCuListExisting (readNameList conv t)
  | isCuGroupExisting => do
      let _ ← resIsCuGroupExisting (readGroupProp conv t).udfCuGroupName
  | cuAllocFromDev => do
      let _ ← onDevice (valueOf conv t .int32 (parameters ++ ["deviceId"])) fun s =>
        s.resAllocCuFromDev (valueOf conv t .int32 (parameters ++ ["deviceId"]))
          (readCuProp conv t parameters "" (idOf conv t (parameters ++ ["poolId"]))) true
  | cuAllocLeastUsedFromDev => do
      let _ ← onDevice (valueOf conv t .int32 (parameters ++ ["deviceId"])) fun s =>
        s.resAllocLeastUsedCuFromDev (valueOf conv t .int32 (parameters ++ ["deviceId"]))
          (readCuProp conv t parameters "" (idOf conv t (parameters ++ ["poolId"]))) true
  | cuRelease => do
      let _ ← resReleaseCu (readRecord conv t "")
  | cuReleaseV2 => do
      let _ ← resReleaseCu (readRecord conv t "")
  | cuCheckStatus => do
      let _ ← checkCuStat (readRecord conv t "")
  | cuListAlloc => answerList maxListCuNum (resAllocCuList (listOf conv t))
  | cuListAllocV2 => answerList maxListCuNumV2 (resAllocCuListV2 (listOfV2 conv t))
  | cuListRelease => do
      let _ ← releaseList maxListCuNum (readRecords conv t)
  | cuListReleaseV2 => do
      let _ ← releaseList maxListCuNumV2 (readRecords conv t)
  | checkCuListAvailableNum =>
      available fuel Except.toOption (resAllocCuList (listOf conv t)) fun s listRes =>
        (s.resReleaseCuList listRes).1
  | checkCuListAvailableNumV2 =>
      available fuel Except.toOption (resAllocCuListV2 (listOfV2 conv t)) fun s listRes =>
        (s.resReleaseCuListV2 listRes).1
  | udfCuGroupDeclare => do
      let _ ← resUdfCuGroupDeclare (readGroup conv t)
  | udfCuGroupDeclareV2 => do
      let _ ← resUdfCuGroupDeclareV2 (readGroupV2 conv t)
  | udfCuGroupUndeclare => do
      let _ ← resUdfCuGroupUndeclare (readGroupProp conv t).udfCuGroupName
  | udfCuGroupUndeclareV2 => do
      let _ ← resUdfCuGroupUndeclareV2 (readGroupProp conv t).udfCuGroupName
  | cuGroupAlloc => answerList maxGroupCuNum (resAllocCuGroup (readGroupProp conv t))
  | cuGroupAllocV2 => answerList maxGroupCuNumV2 (resAllocCuGroupV2 (readGroupProp conv t))
  | cuGroupRelease => do
      let _ ← releaseList maxGroupCuNum (readRecords conv t)
  | cuGroupReleaseV2 => do
      let _ ← releaseList maxGroupCuNumV2 (readRecords conv t)
  | checkCuGroupAvailableNum =>
      available fuel Except.toOption (resAllocCuGroup (readGroupProp conv t)) fun s groupRes =>
        (s.resReleaseCuGroup groupRes).1
  | checkCuGroupAvailableNumV2 =>
      available fuel Except.toOption (resAllocCuGroupV2 (readGroupProp conv t)) fun s groupRes =>
        (s.resReleaseCuGroupV2 groupRes).1
  | cuPoolReserve => do
      let _ ← resReserveCuPool (poolOf conv t)
  | cuPoolReserveV2 => answerPool (poolOfV2 conv t)
  | checkCuPoolAvailableNum =>
      available fuel takenPool (resReserveCuPool (queryPool conv t)) fun s reservePoolId =>
        (s.resRelinquishCuPool reservePoolId).1
  | checkCuPoolAvailableNumV2 =>
      available fuel takenPool (resReserveCuPoolV2 (queryPoolV2 conv t)) fun s reservePoolId =>
        (s.resRelinquishCuPoolV2 reservePoolId).1

/-- A procedure of the system, run by the daemon. -/
def onSystem {α : Type} (p : Procedure System α) : DaemonProcedure System α := fun d =>
  match p d.system with
  | .ok a s => .ok a { d with system := s }
  | .exception s => .exception { d with system := s }
  | .overflow s => .overflow { d with system := s }
  | .stuck s => .stuck { d with system := s }

/-- `processCmd` of the command, but for its lock and its response. -/
def processCmd (conv : Conversion) (fuel : Nat) (t : DataTree) (c : IndexingCommand) :
    DaemonProcedure System Unit := do
  demandAll conv t (c.handler.reads conv t)
  onSystem (c.body conv fuel t)

end IndexingCommand

end Xrm
