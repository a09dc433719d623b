import Xrm.Library.PropertyTree
import Xrm.Model.Load

/-! # Resource records on the wire

The command handlers of the daemon write the records they return into a property tree, and the
library reads them back. The JSON text in between holds the same tree.
-/

namespace Xrm

open PropertyTree

/-! ## Uuids -/

/-- The value of a hexadecimal digit, computed on bytes. -/
def hexValue (c : Char) : UInt8 :=
  if c.toNat < 'a'.toNat then c.toNat.toUInt8 - '0'.toNat.toUInt8
  else c.toNat.toUInt8 - 'a'.toNat.toUInt8 + 10

def hexPairs : List Char → List UInt8
  | a :: b :: cs => (((hexValue a <<< 4) &&& 0xF0) ||| (hexValue b &&& 0xF)) :: hexPairs cs
  | _ => []

/-- The first `insz` characters, as bytes; a shorter text is filled up with zeros. -/
def hexstrToBin (s : String) (insz : Nat) : List UInt8 :=
  hexPairs (((cStr s).toList ++ List.replicate insz '\x00').take insz)

/-- `2 * sizeof(uuid_t)`. -/
def uuidTextLen : Nat := 32

/-! The daemon and the library each have their own copy of the two functions, with one text. -/

def Daemon.binToHexstr (bytes : List UInt8) : String := Xrm.binToHexstr bytes

def Daemon.hexstrToBin (s : String) (insz : Nat) : List UInt8 := Xrm.hexstrToBin s insz

def Lib.binToHexstr (bytes : List UInt8) : String := Xrm.binToHexstr bytes

def Lib.hexstrToBin (s : String) (insz : Nat) : List UInt8 := Xrm.hexstrToBin s insz

/-! ## The daemon's side -/

namespace CuType

def code : CuType → Int
  | null => 0
  | ipKernel => 1
  | softKernel => 2
  | ipPsKernel => 3

end CuType

/-- The fields that every handler puts for an entry, up to the ids. -/
def cuFields (r : CuResource) : List (String × String) :=
  [("xclbinFileName", r.xclbinFileName),
    ("uuidStr", r.uuidStr),
    ("kernelPluginFileName", r.kernelPluginFileName),
    ("kernelName", r.kernelName),
    ("instanceName", r.instanceName),
    ("cuName", r.cuName),
    ("kernelAlias", r.kernelAlias),
    ("deviceId", r.deviceId.repr),
    ("cuId", r.cuId.repr)]

/-- The memory fields of an entry. `cast` is the type they are cast to before they are put. -/
def memoryFields (cast : Int → Int) (r : CuResource) : List (String × String) :=
  [("baseAddr", (cast r.baseAddr).repr),
    ("membankId", (cast r.membankId).repr),
    ("membankType", (cast r.membankType).repr),
    ("membankSize", (cast r.membankSize).repr),
    ("membankBaseAddr", (cast r.membankBaseAddr).repr)]

/-- An entry of an allocation. -/
def allocatedFields (cast : Int → Int) (r : CuResource) : List (String × String) :=
  cuFields r ++ [("channelId", r.channelId.repr), ("cuType", r.cuType.code.repr)] ++
    memoryFields cast r ++
    [("allocServiceId", (r.allocServiceId : Int).repr),
      ("channelLoadOriginal", r.channelLoadOriginal.repr),
      ("poolId", (r.poolId : Int).repr)]

/-- An entry of a reservation, which has no channel. -/
def reservedFields (r : CuResource) : List (String × String) :=
  cuFields r ++ [("cuType", r.cuType.code.repr)] ++ memoryFields id r ++
    [("poolId", (r.poolId : Int).repr)]

def dataPath : String := "response.data."

/-- The answer of a handler that returns a list of resources. -/
def putResources (fields : CuResource → List (String × String)) (l : List CuResource) :
    PropertyTree :=
  putItems fields dataPath
    ((empty.putInt "response.status.value" 0).putInt "response.data.cuNum" l.length) 0 l

namespace Daemon

def cuListAlloc (l : List CuResource) : PropertyTree := putResources (allocatedFields id) l

def cuGroupAlloc (l : List CuResource) : PropertyTree := putResources (allocatedFields id) l

/-- The handler of the query casts the memory fields to `int32_t`. -/
def allocationQuery (l : List CuResource) : PropertyTree := putResources (allocatedFields i32) l

/-- At most 48 entries of a reservation are put. -/
def reservationQuery (l : List CuResource) : PropertyTree :=
  putResources reservedFields (l.take 48)

def cuListAllocV2 (l : List CuResource) : PropertyTree := putResources (allocatedFields id) l

def cuGroupAllocV2 (l : List CuResource) : PropertyTree := putResources (allocatedFields id) l

def allocationQueryV2 (l : List CuResource) : PropertyTree := putResources (allocatedFields i32) l

def reservationQueryV2 (l : List CuResource) : PropertyTree :=
  putResources reservedFields (l.take 48)

end Daemon

/-! ## The library's side -/

/-- A resource as the library hands it to the application. -/
structure XrmCuResource where
  xclbinFileName : String
  kernelPluginFileName : String
  kernelName : String
  kernelAlias : String
  instanceName : String
  cuName : String
  uuid : List UInt8
  deviceId : Int
  cuId : Int
  channelId : Int
  cuType : Int
  baseAddr : Int
  membankId : Int
  membankType : Int
  membankSize : Int
  membankBaseAddr : Int
  allocServiceId : Int
  channelLoad : Int
  poolId : Int
  deriving Repr, DecidableEq

/-- The value that an unsigned 64-bit field holds after `x` has been stored in it. -/
def u64 (x : Int) : Int := x % 2 ^ 64

/-- Read entry `i` of an allocation. The pool id is read as an `int32_t`. -/
def getAllocated (t : PropertyTree) (i : Nat) : Option XrmCuResource := do
  let xclbinFileName ← t.get (item dataPath "xclbinFileName" i)
  let uuidStr ← t.get (item dataPath "uuidStr" i)
  let kernelPluginFileName ← t.get (item dataPath "kernelPluginFileName" i)
  let kernelName ← t.get (item dataPath "kernelName" i)
  let kernelAlias ← t.get (item dataPath "kernelAlias" i)
  let instanceName ← t.get (item dataPath "instanceName" i)
  let cuName ← t.get (item dataPath "cuName" i)
  let deviceId ← t.getInt .int32 (item dataPath "deviceId" i)
  let cuId ← t.getInt .int32 (item dataPath "cuId" i)
  let channelId ← t.getInt .int32 (item dataPath "channelId" i)
  let cuType ← t.getInt .int32 (item dataPath "cuType" i)
  let allocServiceId ← t.getInt .uint64 (item dataPath "allocServiceId" i)
  let channelLoad ← t.getInt .int32 (item dataPath "channelLoadOriginal" i)
  let baseAddr ← t.getInt .uint64 (item dataPath "baseAddr" i)
  let membankId ← t.getInt .uint32 (item dataPath "membankId" i)
  let membankType ← t.getInt .uint32 (item dataPath "membankType" i)
  let membankSize ← t.getInt .uint64 (item dataPath "membankSize" i)
  let membankBaseAddr ← t.getInt .uint64 (item dataPath "membankBaseAddr" i)
  let poolId ← t.getInt .int32 (item dataPath "poolId" i)
  return {
    xclbinFileName := strncpy xclbinFileName
    kernelPluginFileName := strncpy kernelPluginFileName
    kernelName := strncpy kernelName
    kernelAlias := strncpy kernelAlias
    instanceName := strncpy instanceName
    cuName := strncpy cuName
    uuid := hexstrToBin uuidStr uuidTextLen
    deviceId := deviceId
    cuId := cuId
    channelId := channelId
    cuType := cuType
    baseAddr := baseAddr
    membankId := membankId
    membankType := membankType
    membankSize := membankSize
    membankBaseAddr := membankBaseAddr
    allocServiceId := allocServiceId
    channelLoad := channelLoad
    poolId := u64 poolId }

/-- Read entry `i` of a reservation. What is not read stays zero. -/
def getReserved (t : PropertyTree) (i : Nat) : Option XrmCuResource := do
  let xclbinFileName ← t.get (item dataPath "xclbinFileName" i)
  let uuidStr ← t.get (item dataPath "uuidStr" i)
  let kernelPluginFileName ← t.get (item dataPath "kernelPluginFileName" i)
  let kernelName ← t.get (item dataPath "kernelName" i)
  let kernelAlias ← t.get (item dataPath "kernelAlias" i)
  let instanceName ← t.get (item dataPath "instanceName" i)
  let cuName ← t.get (item dataPath "cuName" i)
  let deviceId ← t.getInt .int32 (item dataPath "deviceId" i)
  let cuId ← t.getInt .int32 (item dataPath "cuId" i)
  let baseAddr ← t.getInt .uint64 (item dataPath "baseAddr" i)
  let membankId ← t.getInt .uint32 (item dataPath "membankId" i)
  let membankType ← t.getInt .uint32 (item dataPath "membankType" i)
  let membankSize ← t.getInt .uint64 (item dataPath "membankSize" i)
  let membankBaseAddr ← t.getInt .uint64 (item dataPath "membankBaseAddr" i)
  let cuType ← t.getInt .int32 (item dataPath "cuType" i)
  let poolId ← t.getInt .uint64 (item dataPath "poolId" i)
  return {
    xclbinFileName := strncpy xclbinFileName
    kernelPluginFileName := strncpy kernelPluginFileName
    kernelName := strncpy kernelName
    kernelAlias := strncpy kernelAlias
    instanceName := strncpy instanceName
    cuName := strncpy cuName
    uuid := hexstrToBin uuidStr uuidTextLen
    deviceId := deviceId
    cuId := cuId
    channelId := 0
    cuType := cuType
    baseAddr := baseAddr
    membankId := membankId
    membankType := membankType
    membankSize := membankSize
    membankBaseAddr := membankBaseAddr
    allocServiceId := 0
    channelLoad := 0
    poolId := poolId }

/-- Read a list of resources. `none` is the exception that a getter throws. -/
def getResources (entry : PropertyTree → Nat → Option XrmCuResource) (t : PropertyTree) :
    Option (Int × List XrmCuResource) := do
  let ret ← t.getInt .int32 "response.status.value"
  if ret = 0 then
    let cuNum ← t.getInt .int32 "response.data.cuNum"
    let cuResources ← (List.range cuNum.toNat).mapM (entry t)
    return (ret, cuResources)
  else return (ret, [])

def xrmCuListAlloc := getResources getAllocated
def xrmCuGroupAlloc := getResources getAllocated
def xrmAllocationQuery := getResources getAllocated
def xrmReservationQuery := getResources getReserved
def xrmCuListAllocV2 := getResources getAllocated
def xrmCuGroupAllocV2 := getResources getAllocated
def xrmAllocationQueryV2 := getResources getAllocated
def xrmReservationQueryV2 := getResources getReserved

/-! ## Commands that return a list -/

inductive ListCommand where
  | cuListAlloc
  | cuGroupAlloc
  | allocationQuery
  | reservationQuery
  | cuListAllocV2
  | cuGroupAllocV2
  | allocationQueryV2
  | reservationQueryV2
  deriving Repr, DecidableEq

namespace ListCommand

/-- The entries that the daemon's list of resources has room for. -/
def maxCuNum : ListCommand → Nat
  | cuListAlloc => maxListCuNum
  | cuGroupAlloc => maxGroupCuNum
  | allocationQuery => maxListCuNum
  | reservationQuery => 128
  | cuListAllocV2 => maxListCuNumV2
  | cuGroupAllocV2 => maxGroupCuNumV2
  | allocationQueryV2 => maxListCuNumV2
  | reservationQueryV2 => 128

/-- The command returns reservations, whose entries name no channel. -/
def isReservation : ListCommand → Bool
  | reservationQuery | reservationQueryV2 => true
  | _ => false

/-- The handler of the command casts the memory fields. -/
def isQuery : ListCommand → Bool
  | allocationQuery | allocationQueryV2 => true
  | _ => false

/-- What the handler of the command puts. -/
def encode : ListCommand → List CuResource → PropertyTree
  | cuListAlloc => Daemon.cuListAlloc
  | cuGroupAlloc => Daemon.cuGroupAlloc
  | allocationQuery => Daemon.allocationQuery
  | reservationQuery => Daemon.reservationQuery
  | cuListAllocV2 => Daemon.cuListAllocV2
  | cuGroupAllocV2 => Daemon.cuGroupAllocV2
  | allocationQueryV2 => Daemon.allocationQueryV2
  | reservationQueryV2 => Daemon.reservationQueryV2

/-- What the library reads from the answer to the command. -/
def decode : ListCommand → PropertyTree → Option (Int × List XrmCuResource)
  | cuListAlloc => xrmCuListAlloc
  | cuGroupAlloc => xrmCuGroupAlloc
  | allocationQuery => xrmAllocationQuery
  | reservationQuery => xrmReservationQuery
  | cuListAllocV2 => xrmCuListAllocV2
  | cuGroupAllocV2 => xrmCuGroupAllocV2
  | allocationQueryV2 => xrmAllocationQueryV2
  | reservationQueryV2 => xrmReservationQueryV2

end ListCommand

/-! ## Releasing a decoded record -/

/-- The library's release request. `clientId` is that of the context, `unifiedLoad` the load that
is computed from the channel's. -/
def xrmCuRelease (clientId unifiedLoad : Int) (x : XrmCuResource) : PropertyTree :=
  empty.putAll
    [("request.name", "cuRelease"),
      ("request.requestId", (1 : Int).repr),
      ("request.parameters.deviceId", x.deviceId.repr),
      ("request.parameters.cuId", x.cuId.repr),
      ("request.parameters.channelId", x.channelId.repr),
      ("request.parameters.cuType", x.cuType.repr),
      ("request.parameters.allocServiceId", x.allocServiceId.repr),
      ("request.parameters.echoClientId", "echo"),
      ("request.parameters.clientId", clientId.repr),
      ("request.parameters.channelLoadUnified", unifiedLoad.repr),
      ("request.parameters.channelLoadOriginal", x.channelLoad.repr),
      ("request.parameters.poolId", x.poolId.repr)]

/-- The parameters that the release handler reads. -/
structure ReleaseParameters where
  deviceId : Int
  cuId : Int
  channelId : Int
  cuType : Int
  allocServiceId : Int
  clientId : Int
  channelLoadUnified : Int
  channelLoadOriginal : Int
  poolId : Int
  deriving Repr, DecidableEq

def Daemon.cuRelease (t : PropertyTree) : Option ReleaseParameters := do
  let deviceId ← t.getInt .int32 "request.parameters.deviceId"
  let cuId ← t.getInt .int32 "request.parameters.cuId"
  let channelId ← t.getInt .int32 "request.parameters.channelId"
  let cuType ← t.getInt .int32 "request.parameters.cuType"
  let allocServiceId ← t.getInt .uint64 "request.parameters.allocServiceId"
  let clientId ← t.getInt .uint64 "request.parameters.clientId"
  let channelLoadUnified ← t.getInt .int32 "request.parameters.channelLoadUnified"
  let channelLoadOriginal ← t.getInt .int32 "request.parameters.channelLoadOriginal"
  let poolId ← t.getInt .uint64 "request.parameters.poolId"
  return {
    deviceId := deviceId
    cuId := cuId
    channelId := channelId
    cuType := cuType
    allocServiceId := allocServiceId
    clientId := clientId
    channelLoadUnified := channelLoadUnified
    channelLoadOriginal := channelLoadOriginal
    poolId := poolId }

end Xrm
