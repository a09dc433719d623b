import Xrm.Library.Listing
import Xrm.Model.System

/-! # Queries -/

namespace Xrm

/-- What a query asks for: a service id and names, of which empty ones are not given. -/
structure AllocationQueryInfoV2 where
  allocServiceId : Nat
  kernelName : String
  kernelAlias : String
  deriving Repr, DecidableEq

structure ReservationQueryInfoV2 where
  poolId : Nat
  kernelName : String
  kernelAlias : String
  deriving Repr, DecidableEq

def maxPoolCuNum : Nat := 128

/-- The names of the CU are those of the query, where it gives them. -/
def CuInfo.answers (cu : CuInfo) (allocQuery : AllocationQueryInfoV2) : Bool :=
  CuData.nameEqual allocQuery.kernelName cu.kernelName &&
    CuData.nameEqual allocQuery.kernelAlias cu.kernelAlias

/-- The entry of a channel in the result of a query. -/
def DeviceData.queriedResource (dev : DeviceData) (devId : Nat) (cu : CuData) (cuId : Nat)
    (chan : ChannelData) (chanId allocServiceId : Nat) : CuResource :=
  dev.locate devId cuId
    { CuResource.zero with
      kernelPluginFileName := strncpy cu.kernelPluginFileName
      kernelName := strncpy cu.kernelName
      instanceName := strncpy cu.instanceName
      kernelAlias := strncpy cu.kernelAlias
      cuName := strncpy cu.cuName
      cuType := cu.cuType
      baseAddr := cu.baseAddr
      membankId := cu.membankId
      membankType := cu.membankType
      membankSize := cu.membankSize
      membankBaseAddr := cu.membankBaseAddr
      channelId := chanId
      allocServiceId := allocServiceId
      poolId := chan.poolId
      clientId := chan.clientId
      channelLoadUnified := chan.channelLoadUnified
      channelLoadOriginal := chan.channelLoadOriginal }

/-- The entry of a reserved CU in the result of a query. -/
def DeviceData.reservedResource (dev : DeviceData) (devId : Nat) (cu : CuData) (cuId poolId : Nat) :
    CuResource :=
  dev.locate devId cuId
    { CuResource.zero with
      kernelPluginFileName := strncpy cu.kernelPluginFileName
      kernelName := strncpy cu.kernelName
      instanceName := strncpy cu.instanceName
      kernelAlias := strncpy cu.kernelAlias
      cuName := strncpy cu.cuName
      cuType := cu.cuType
      baseAddr := cu.baseAddr
      membankId := cu.membankId
      membankType := cu.membankType
      membankSize := cu.membankSize
      membankBaseAddr := cu.membankBaseAddr
      poolId := poolId }

namespace System

/-- List the channels with the service id on the CUs with the names, if there are at most
`maxNum`. -/
def queryAllocation (maxNum : Nat) (s : System) (allocQuery : AllocationQueryInfoV2) :
    Except XrmError CuListResource :=
  let allocServiceId := allocQuery.allocServiceId
  if allocServiceId = 0 then .error .invalid
  else do
    let cuResources ← s.devList.zipIdx.foldlM (fun found (dev, devId) =>
      dev.cuList.zipIdx.foldlM (fun found (cu, cuId) =>
        if cu.answers allocQuery then
          cu.channels.zipIdx.foldlM (fun found (chan, chanId) =>
            if chan.allocServiceId = allocServiceId then
              Listing.push maxNum .error found
                (dev.queriedResource devId cu cuId chan chanId allocServiceId)
            else .ok found) found
        else .ok found) found) []
    .ok (listResource cuResources)

def resAllocationQuery (s : System) (allocQuery : AllocationQueryInfoV2) :
    Except XrmError CuListResource :=
  queryAllocation maxListCuNum s allocQuery

def resAllocationQueryV2 (s : System) (allocQuery : AllocationQueryInfoV2) :
    Except XrmError CuListResource :=
  queryAllocation maxListCuNumV2 s allocQuery

/-! ## Reservations -/

/-- The CUs with the names on which the pool has a slot, the first `maxPoolCuNum` of them. -/
def queryReservation (s : System) (poolId : Nat) (wanted : CuInfo → Bool) :
    Except XrmError CuListResource :=
  if poolId = 0 then .error .invalid
  else
    let cuResources := s.devList.zipIdx.flatMap fun (dev, devId) =>
      dev.cuList.zipIdx.flatMap fun (cu, cuId) =>
        if wanted cu.toCuInfo then
          ((cu.reserves.take cu.numReserve).filter (·.reservePoolId == poolId)).map fun _ =>
            dev.reservedResource devId cu cuId poolId
        else []
    .ok (listResource (cuResources.take maxPoolCuNum))

def resReservationQuery (s : System) (reservePoolId : Nat) : Except XrmError CuListResource :=
  s.queryReservation reservePoolId fun _ => true

def resReservationQueryV2 (s : System) (reserveQueryInfo : ReservationQueryInfoV2) :
    Except XrmError CuListResource :=
  s.queryReservation reserveQueryInfo.poolId fun cu =>
    CuData.nameEqual reserveQueryInfo.kernelName cu.kernelName &&
      CuData.nameEqual reserveQueryInfo.kernelAlias cu.kernelAlias

/-! ## Capacities -/

/-- The capacity of the first CU of a loaded device that has the text; 0 without one. -/
def capacityOf (s : System) (own : CuData → String) (given : String) : Nat :=
  let cus := (s.devList.filter (·.isLoaded)).flatMap (·.cuList)
  ((cus.find? fun cu => own cu == given).map (·.maxCapacity)).getD 0

/-- The capacity of the kernel; where both texts are given they have to agree on it. -/
def getCuMaxCapacity (s : System) (kernelName kernelAlias : String) : Nat :=
  let maxCapacity := s.capacityOf (·.kernelName) kernelName
  let maxCapacityWithAlias := s.capacityOf (·.kernelAlias) kernelAlias
  if kernelName = "" then if kernelAlias = "" then 0 else maxCapacityWithAlias
  else if kernelAlias ≠ "" ∧ maxCapacity ≠ maxCapacityWithAlias then 0
  else maxCapacity

/-! ## What allocations return -/

/-- The resources of a single allocation that succeeds. -/
def oneReturned (r : Except XrmError CuResource) : Option (List CuResource) :=
  r.toOption.map fun res => [res]

/-- The resources of a list allocation that succeeds. -/
def listReturned (r : Except XrmError CuListResource) : Option (List CuResource) :=
  r.toOption.map (·.cuResources)

/-- The resources that an allocation returns, if it succeeds. -/
def returned (s : System) : Op → Option (List CuResource)
  | .resAllocCu prop updateId => oneReturned (s.resAllocCu prop updateId).2
  | .resAllocCuFromDev deviceId prop updateId =>
      oneReturned (s.resAllocCuFromDev deviceId prop updateId).2
  | .resAllocLeastUsedCuFromDev deviceId prop updateId =>
      oneReturned (s.resAllocLeastUsedCuFromDev deviceId prop updateId).2
  | .resAllocCuV2 propV2 updateId => oneReturned (s.resAllocCuV2 propV2 updateId).2
  | .resAllocCuWithLoad env prop xclbin updateId =>
      oneReturned (s.resAllocCuWithLoad env prop xclbin updateId).2
  | .resAllocCuLeastUsedWithLoad env prop xclbin updateId =>
      oneReturned (s.resAllocCuLeastUsedWithLoad env prop xclbin updateId).2
  | .resLoadAndAllocAllCu env xclbin clientId clientProcessId =>
      listReturned (s.resLoadAndAllocAllCu env xclbin clientId clientProcessId).2
  | .resAllocCuList listProp => listReturned (s.resAllocCuList listProp).2
  | .resAllocCuListV2 listProp => listReturned (s.resAllocCuListV2 listProp).2
  | .resAllocCuGroup groupProp => listReturned (s.resAllocCuGroup groupProp).2
  | .resAllocCuGroupV2 groupProp => listReturned (s.resAllocCuGroupV2 groupProp).2
  | _ => none

end System

end Xrm
