import Mathlib.Data.List.TakeWhile

/-! # Data model of the resource manager

The limits, the error codes and the records of the daemon, under the names of the source.
Request fields and loads are 32-bit integers in the source; the additions that are not
checked before they are made go through `i32`.
-/

namespace Xrm

/-! ## Limits -/

def maxXilinxDevices : Nat := 16
def maxXilinxKernels : Nat := 144
def maxKernelChannels : Nat := 1000
def maxKernelReserves : Nat := 1000
def maxDevClients : Nat := maxXilinxKernels * 8
def maxNameLen : Nat := 256
def maxListCuNum : Nat := 16
def maxListCuNumV2 : Nat := 64
def maxGroupCuNum : Nat := 16
def maxGroupCuNumV2 : Nat := 64
def maxUdfCuGroupNum : Nat := 32
def maxUdfCuGroupNumV2 : Nat := 64
def maxUdfCuGroupOptionListNum : Nat := 8
def maxPoolCuListNum : Nat := 8
def maxDdrMap : Nat := 64

/-- The load of a whole channel or CU, in the unified granularity. -/
def maxChanLoad : Int := 1000000

/-- The original load of a whole channel, in the granularity of 100. -/
def maxChanLoad100 : Int := 100

/-- The last value of the 64-bit id counters. -/
def maxId : Nat := 0xFFFFFFFFFFFFFFFF

/-- The value a 32-bit signed integer holds after `x` has been stored in it. -/
def i32 (x : Int) : Int := (x + 2147483648) % 4294967296 - 2147483648

/-- The text up to its first NUL character, as `c_str()` ends it. -/
def cStr (s : String) : String := String.ofList (s.toList.takeWhile fun c => c.toNat != 0)

theorem cStr_eq {s : String} (h : ∀ c ∈ s.toList, c.toNat ≠ 0) : cStr s = s := by
  rw [cStr, List.takeWhile_eq_self_iff.mpr, String.ofList_toList]
  intro c hc
  simpa using h c hc

/-- What `strncpy` leaves of a string in a field of `maxNameLen` characters. -/
def strncpy (s : String) : String := String.ofList (s.toList.take (maxNameLen - 1))

/-! ## Error codes -/

inductive XrmError where
  | error
  | invalid
  | noDev
  | noKernel
  | noChan
  | deviceIsBusy
  | deviceIsLocked
  deriving Repr, DecidableEq

namespace XrmError

def code : XrmError → Int
  | error => -1
  | invalid => -2
  | noDev => -3
  | noKernel => -4
  | noChan => -5
  | deviceIsBusy => -32
  | deviceIsLocked => -33

end XrmError

/-! ## Requests -/

/-- One compute-unit request. An empty name is a name that is not given. -/
structure CuProperty where
  kernelName : String
  kernelAlias : String
  cuName : String
  devExcl : Bool
  requestLoadUnified : Int
  requestLoadOriginal : Int
  clientId : Nat
  clientProcessId : Int
  poolId : Nat
  deriving Repr, DecidableEq

structure CuPropertyV2 where
  kernelName : String
  kernelAlias : String
  cuName : String
  devExcl : Bool
  deviceInfo : Nat
  policyInfo : Nat
  requestLoadUnified : Int
  requestLoadOriginal : Int
  clientId : Nat
  clientProcessId : Int
  poolId : Nat
  deriving Repr, DecidableEq

/-- A list of CU requests. `cuProps` are the entries the request fills in, `cuNum` is the
count it claims. -/
structure CuListProperty where
  cuProps : List CuProperty
  cuNum : Int
  sameDevice : Bool
  deriving Repr, DecidableEq

structure CuListPropertyV2 where
  cuProps : List CuPropertyV2
  cuNum : Int
  deriving Repr, DecidableEq

structure CuGroupProperty where
  udfCuGroupName : String
  clientId : Nat
  clientProcessId : Int
  poolId : Nat
  deriving Repr, DecidableEq

structure UdfCuGroupInformation where
  udfCuGroupName : String
  optionUdfCuListProps : List CuListProperty
  optionUdfCuListNum : Int
  deriving Repr, DecidableEq

structure UdfCuGroupInformationV2 where
  udfCuGroupName : String
  optionUdfCuListProps : List CuListPropertyV2
  optionUdfCuListNum : Int
  deriving Repr, DecidableEq

structure CuPoolProperty where
  cuListProp : CuListProperty
  cuListNum : Int
  xclbinUuid : List UInt8
  xclbinNum : Int
  clientId : Nat
  clientProcessId : Int
  deriving Repr, DecidableEq

structure DeviceIdListPropertyV2 where
  deviceIds : List Nat
  deviceNum : Int
  deriving Repr, DecidableEq

structure CuPoolPropertyV2 where
  cuListProp : CuListPropertyV2
  cuListNum : Int
  xclbinUuid : List UInt8
  xclbinNum : Int
  deviceIdListProp : DeviceIdListPropertyV2
  clientId : Nat
  clientProcessId : Int
  deriving Repr, DecidableEq

/-! ## Compute units -/

inductive CuType where
  | null
  | ipKernel
  | softKernel
  | ipPsKernel
  deriving Repr, DecidableEq

structure ChannelData where
  channelId : Int
  allocServiceId : Nat
  poolId : Nat
  clientId : Nat
  clientProcessId : Int
  channelLoadUnified : Int
  channelLoadOriginal : Int
  deriving Repr, DecidableEq

/-- A channel record after `memset` to zero. -/
def ChannelData.zero : ChannelData where
  channelId := 0
  allocServiceId := 0
  poolId := 0
  clientId := 0
  clientProcessId := 0
  channelLoadUnified := 0
  channelLoadOriginal := 0

structure ReserveData where
  reservePoolId : Nat
  reserveLoadUnified : Int
  reserveUsedLoadUnified : Int
  clientIsActive : Bool
  clientId : Nat
  clientProcessId : Int
  deriving Repr, DecidableEq

/-- A reserve slot after `memset` to zero. -/
def ReserveData.zero : ReserveData where
  reservePoolId := 0
  reserveLoadUnified := 0
  reserveUsedLoadUnified := 0
  clientIsActive := false
  clientId := 0
  clientProcessId := 0

/-- The fields of a compute unit that are set once, when its xclbin is loaded. -/
structure CuInfo where
  ipLayoutIndex : Nat
  cuType : CuType
  kernelName : String
  kernelAlias : String
  cuName : String
  instanceName : String
  kernelPluginFileName : String
  maxCapacity : Nat
  baseAddr : Nat
  membankId : Int
  membankType : Nat
  membankSize : Nat
  membankBaseAddr : Nat
  deriving Repr, DecidableEq

/-- A compute unit. `channels`, `clients` and `reserves` are the fixed arrays of the source:
`numClient` and `numReserve` count the entries in use at their front. -/
structure CuData extends CuInfo where
  channels : List ChannelData
  numChanInuse : Int
  clients : List Nat
  numClient : Nat
  reserves : List ReserveData
  numReserve : Nat
  totalUsedLoadUnified : Int
  totalReservedLoadUnified : Int
  deriving Repr, DecidableEq

/-! ## Devices and the system -/

structure ClientData where
  clientId : Nat
  clientProcessId : Int
  ref : Int
  deriving Repr, DecidableEq

/-- A client entry after `memset` to zero. -/
def ClientData.zero : ClientData where
  clientId := 0
  clientProcessId := 0
  ref := 0

structure DeviceLoadInfo where
  devLoadRate : Int
  deviceId : Nat
  devCurrentLoad : Int
  deriving Repr, DecidableEq

/-! ### The sections of an xclbin image -/

inductive IpType where
  | kernel
  | psKernel
  | other
  deriving Repr, DecidableEq

structure IpData where
  ipType : IpType
  name : String
  baseAddress : Nat
  deriving Repr, DecidableEq

structure SoftKernel where
  name : String
  numInstances : Nat
  deriving Repr, DecidableEq

structure MemData where
  memType : Nat
  memSize : Nat
  memBaseAddress : Nat
  deriving Repr, DecidableEq

def MemData.zero : MemData := ⟨0, 0, 0⟩

/-- The memory topology section: its banks, and what the 48 bytes behind them read as, which is
one more entry and the type of another. -/
structure MemTopology where
  banks : List MemData
  behind : MemData
  behindType : Nat
  deriving Repr, DecidableEq

structure Connection where
  ipLayoutIndex : Int
  memDataIndex : Int
  deriving Repr, DecidableEq

/-- One entry of the `key_values` metadata; a missing text is empty, `maxCapacity` is the
number `strtoull` reads. -/
structure KeyValue where
  key : String
  aliasName : String
  plugin : String
  maxCapacity : Option Nat
  deriving Repr, DecidableEq

/-- The keyvalue section: absent, not JSON (with the parser's message), JSON without `key_values`
or with a key that has no `value`, or its entries. -/
inductive KeyvalueMetadata where
  | absent
  | malformed (message : String)
  | incomplete
  | entries (keyValues : List KeyValue)
  deriving Repr, DecidableEq

/-- What the daemon reads of an xclbin image. -/
structure Axlf where
  uuid : List UInt8
  ipLayout : Option (List IpData)
  softKernels : List SoftKernel
  memTopology : Option MemTopology
  connectivity : Option (List Connection)
  keyvalueMetadata : KeyvalueMetadata
  deriving Repr, DecidableEq

/-! ### Device records -/

/-- The fixed array of memory banks. -/
structure MemTopologyList where
  banks : List MemData
  length_banks : banks.length = maxDdrMap
  deriving Repr, DecidableEq

namespace MemTopologyList

def zero : MemTopologyList := ⟨List.replicate maxDdrMap MemData.zero, List.length_replicate⟩

/-- The bank at `index`. -/
def entry (list : MemTopologyList) (index : Nat) : MemData := list.banks.getD index MemData.zero

def set (list : MemTopologyList) (index : Nat) (bank : MemData) : MemTopologyList :=
  ⟨list.banks.set index bank, by rw [List.length_set, list.length_banks]⟩

def setType (list : MemTopologyList) (index memType : Nat) : MemTopologyList :=
  ⟨list.banks.modify index fun bank => { bank with memType := memType },
    by rw [List.length_modify, list.length_banks]⟩

end MemTopologyList

/-- A device. `cuList` are the CUs below `numCu`; the entries above it are blank. -/
structure DeviceData where
  xclbinName : String
  isDisabled : Bool
  isLoaded : Bool
  isExcl : Bool
  memBuffer : Option Axlf
  deviceHandle : Bool
  uuid : List UInt8
  uuidStr : String
  cuList : List CuData
  memTopologyList : MemTopologyList
  connectList : List Connection
  clientProcs : List ClientData
  devLoadInfo : DeviceLoadInfo
  deriving Repr, DecidableEq

def DeviceData.numCu (dev : DeviceData) : Nat := dev.cuList.length

/-- The daemon's state. `devList` are the probed devices, the group tables their declared
entries. -/
structure System where
  devList : List DeviceData
  devicesInited : Bool
  clientId : Nat
  numConcurrentClient : Nat
  limitConcurrentClient : Nat
  allocServiceId : Nat
  reservePoolId : Nat
  udfCuGroups : List UdfCuGroupInformation
  udfCuGroupsV2 : List UdfCuGroupInformationV2
  deriving Repr, DecidableEq

def System.numDevice (s : System) : Nat := s.devList.length

/-! ## Results -/

/-- An allocated channel, as it is returned to the client and handed back on release. -/
structure CuResource where
  xclbinFileName : String
  kernelPluginFileName : String
  kernelName : String
  kernelAlias : String
  instanceName : String
  cuName : String
  uuidStr : String
  deviceId : Int
  cuId : Int
  channelId : Int
  cuType : CuType
  baseAddr : Nat
  membankId : Int
  membankType : Nat
  membankSize : Nat
  membankBaseAddr : Nat
  allocServiceId : Nat
  clientId : Nat
  channelLoadUnified : Int
  channelLoadOriginal : Int
  poolId : Nat
  deriving Repr, DecidableEq

/-- A resource list: its entries and the count the caller gives with them. -/
structure CuListResource where
  cuResources : List CuResource
  cuNum : Int
  deriving Repr, DecidableEq

/-- The devices a pool was reserved on, item by item. -/
structure CuPoolResInforV2 where
  cuListResInfor : List (List Nat)
  xclbinResInfor : List Nat
  deriving Repr, DecidableEq

end Xrm
