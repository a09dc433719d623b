import Xrm.Model.Reserve

/-! # The daemon as a state machine -/

namespace Xrm

namespace System

/-- The state after `initSystem`, with the configured limit of concurrent clients. -/
def initSystem (limitConcurrentClient : Nat) : System where
  devList := []
  devicesInited := false
  clientId := 0
  numConcurrentClient := 0
  limitConcurrentClient := limitConcurrentClient
  allocServiceId := 0
  reservePoolId := 0
  udfCuGroups := []
  udfCuGroupsV2 := []

/-- Grant a new client id; 0 when the limit of concurrent clients is reached. -/
def createContext (s : System) : System × Nat :=
  if s.numConcurrentClient < s.limitConcurrentClient then
    ({ s with
        numConcurrentClient := s.numConcurrentClient + 1
        clientId := nextId s.clientId },
      nextId s.clientId)
  else (s, 0)

/-- Open the device if it has no handle. -/
def listDevice (s : System) (env : XrtEnv) (devId : Nat) : System :=
  match s.devList[devId]? with
  | none => s
  | some dev =>
      if dev.deviceHandle then s else s.setDev devId (dev.openDevice (env.call 0 devId))

end System

/-! ## Operations -/

/-- The operations of the daemon. Those that call the driver carry its answers. -/
inductive Op where
  | createContext
  | recycleResource (clientId : Nat)
  | getDeviceNumber (env : XrtEnv)
  | listDevice (env : XrtEnv) (devId : Nat)
  | loadDevices (env : XrtEnv) (entries : List (Option Int × String))
  | loadOneDevice (env : XrtEnv) (devId : Int) (xclbin : String)
  | unloadOneDevice (env : XrtEnv) (devId : Int)
  | enableOneDevice (env : XrtEnv) (devId : Int)
  | disableOneDevice (env : XrtEnv) (devId : Int)
  | resetDevice (env : XrtEnv) (devId : Nat)
  | resAllocCu (prop : CuProperty) (updateId : Bool)
  | resAllocCuFromDev (deviceId : Int) (prop : CuProperty) (updateId : Bool)
  | resAllocLeastUsedCuFromDev (deviceId : Int) (prop : CuProperty) (updateId : Bool)
  | resAllocCuV2 (propV2 : CuPropertyV2) (updateId : Bool)
  | resAllocCuWithLoad (env : XrtEnv) (prop : CuProperty) (xclbin : String) (updateId : Bool)
  | resAllocCuLeastUsedWithLoad (env : XrtEnv) (prop : CuProperty) (xclbin : String)
      (updateId : Bool)
  | resLoadAndAllocAllCu (env : XrtEnv) (xclbin : String) (clientId : Nat)
      (clientProcessId : Int)
  | resAllocCuList (listProp : CuListProperty)
  | resAllocCuListV2 (listProp : CuListPropertyV2)
  | resAllocCuGroup (groupProp : CuGroupProperty)
  | resAllocCuGroupV2 (groupProp : CuGroupProperty)
  | resReleaseCu (res : CuResource)
  | resReleaseCuList (listRes : CuListResource)
  | resReleaseCuListV2 (listRes : CuListResource)
  | resReleaseCuGroup (groupRes : CuListResource)
  | resReleaseCuGroupV2 (groupRes : CuListResource)
  | resUdfCuGroupDeclare (info : UdfCuGroupInformation)
  | resUdfCuGroupDeclareV2 (info : UdfCuGroupInformationV2)
  | resUdfCuGroupUndeclare (name : String)
  | resUdfCuGroupUndeclareV2 (name : String)
  | resReserveCuPool (poolProp : CuPoolProperty)
  | resReserveCuPoolV2 (poolProp : CuPoolPropertyV2)
  | resRelinquishCuPool (reservePoolId : Nat)
  | resRelinquishCuPoolV2 (reservePoolId : Nat)

/-- The state after an operation. -/
def step (s : System) : Op → System
  | .createContext => s.createContext.1
  | .recycleResource clientId => s.recycleResource clientId
  | .getDeviceNumber env => s.initDevices env
  | .listDevice env devId => s.listDevice env devId
  | .loadDevices env entries => (s.loadDevices env entries "").1
  | .loadOneDevice env devId xclbin => (s.loadOneDevice env devId xclbin "").1
  | .unloadOneDevice env devId => (s.unloadOneDevice env devId "").1
  | .enableOneDevice env devId => (s.enableOneDevice env devId "").1
  | .disableOneDevice env devId => (s.disableOneDevice env devId "").1
  | .resetDevice env devId => (s.resetDevice env devId).1
  | .resAllocCu prop updateId => (s.resAllocCu prop updateId).1
  | .resAllocCuFromDev deviceId prop updateId => (s.resAllocCuFromDev deviceId prop updateId).1
  | .resAllocLeastUsedCuFromDev deviceId prop updateId =>
      (s.resAllocLeastUsedCuFromDev deviceId prop updateId).1
  | .resAllocCuV2 propV2 updateId => (s.resAllocCuV2 propV2 updateId).1
  | .resAllocCuWithLoad env prop xclbin updateId =>
      (s.resAllocCuWithLoad env prop xclbin updateId).1
  | .resAllocCuLeastUsedWithLoad env prop xclbin updateId =>
      (s.resAllocCuLeastUsedWithLoad env prop xclbin updateId).1
  | .resLoadAndAllocAllCu env xclbin clientId clientProcessId =>
      (s.resLoadAndAllocAllCu env xclbin clientId clientProcessId).1
  | .resAllocCuList listProp => (s.resAllocCuList listProp).1
  | .resAllocCuListV2 listProp => (s.resAllocCuListV2 listProp).1
  | .resAllocCuGroup groupProp => (s.resAllocCuGroup groupProp).1
  | .resAllocCuGroupV2 groupProp => (s.resAllocCuGroupV2 groupProp).1
  | .resReleaseCu res => (s.resReleaseCu res).1
  | .resReleaseCuList listRes => (s.resReleaseCuList listRes).1
  | .resReleaseCuListV2 listRes => (s.resReleaseCuListV2 listRes).1
  | .resReleaseCuGroup groupRes => (s.resReleaseCuGroup groupRes).1
  | .resReleaseCuGroupV2 groupRes => (s.resReleaseCuGroupV2 groupRes).1
  | .resUdfCuGroupDeclare info => (s.resUdfCuGroupDeclare info).1
  | .resUdfCuGroupDeclareV2 info => (s.resUdfCuGroupDeclareV2 info).1
  | .resUdfCuGroupUndeclare name => (s.resUdfCuGroupUndeclare name).1
  | .resUdfCuGroupUndeclareV2 name => (s.resUdfCuGroupUndeclareV2 name).1
  | .resReserveCuPool poolProp => (s.resReserveCuPool poolProp).1
  | .resReserveCuPoolV2 poolProp => (s.resReserveCuPoolV2 poolProp).1
  | .resRelinquishCuPool reservePoolId => (s.resRelinquishCuPool reservePoolId).1
  | .resRelinquishCuPoolV2 reservePoolId => (s.resRelinquishCuPoolV2 reservePoolId).1

/-! ## What clients send -/

/-- A load that the library sends. -/
def ValidLoad (load : Int) : Prop := 1 ≤ load ∧ load ≤ maxChanLoad

instance (load : Int) : Decidable (ValidLoad load) :=
  inferInstanceAs (Decidable (1 ≤ load ∧ load ≤ maxChanLoad))

/-- A request as the library sends it. -/
def CuProperty.Sent (prop : CuProperty) : Prop :=
  prop.clientId ≠ 0 ∧ ValidLoad prop.requestLoadUnified

def CuPropertyV2.Sent (prop : CuPropertyV2) : Prop :=
  prop.clientId ≠ 0 ∧ ValidLoad prop.requestLoadUnified

instance (prop : CuProperty) : Decidable prop.Sent :=
  inferInstanceAs (Decidable (prop.clientId ≠ 0 ∧ ValidLoad prop.requestLoadUnified))

instance (prop : CuPropertyV2) : Decidable prop.Sent :=
  inferInstanceAs (Decidable (prop.clientId ≠ 0 ∧ ValidLoad prop.requestLoadUnified))

/-- The largest load whose sum with any load in use is a 32-bit number. -/
def maxSafeLoad : Int := 2147483647 - maxChanLoad

/-- A request of which only this much is known: it is of a client, and its sums do not wrap. -/
def CuProperty.Received (prop : CuProperty) : Prop :=
  prop.clientId ≠ 0 ∧ prop.requestLoadUnified ≤ maxSafeLoad

def CuPropertyV2.Received (prop : CuPropertyV2) : Prop :=
  prop.clientId ≠ 0 ∧ prop.requestLoadUnified ≤ maxSafeLoad

instance (prop : CuProperty) : Decidable prop.Received :=
  inferInstanceAs (Decidable (prop.clientId ≠ 0 ∧ prop.requestLoadUnified ≤ maxSafeLoad))

instance (prop : CuPropertyV2) : Decidable prop.Received :=
  inferInstanceAs (Decidable (prop.clientId ≠ 0 ∧ prop.requestLoadUnified ≤ maxSafeLoad))

/-- The operations as the library sends them. The daemon checks neither condition: that every client
id is nonzero, also in the records to release, and that no load to allocate or to declare is so
large that its sums wrap. -/
@[reducible] def Op.Sent : Op → Prop
  | .recycleResource clientId => clientId ≠ 0
  | .resAllocCu prop _ => prop.Received
  | .resAllocCuFromDev _ prop _ => prop.Received
  | .resAllocLeastUsedCuFromDev _ prop _ => prop.Received
  | .resAllocCuV2 propV2 _ => propV2.Received
  | .resAllocCuWithLoad _ prop _ _ => prop.Received
  | .resAllocCuLeastUsedWithLoad _ prop _ _ => prop.Received
  | .resLoadAndAllocAllCu _ _ clientId _ => clientId ≠ 0
  | .resAllocCuList listProp => ∀ prop ∈ listProp.items, prop.Received
  | .resAllocCuListV2 listProp => ∀ prop ∈ listProp.items, prop.Received
  | .resAllocCuGroup groupProp => groupProp.clientId ≠ 0
  | .resAllocCuGroupV2 groupProp => groupProp.clientId ≠ 0
  | .resReleaseCu res => res.clientId ≠ 0
  | .resReleaseCuList listRes => ∀ res ∈ listRes.cuResources, res.clientId ≠ 0
  | .resReleaseCuListV2 listRes => ∀ res ∈ listRes.cuResources, res.clientId ≠ 0
  | .resReleaseCuGroup groupRes => ∀ res ∈ groupRes.cuResources, res.clientId ≠ 0
  | .resReleaseCuGroupV2 groupRes => ∀ res ∈ groupRes.cuResources, res.clientId ≠ 0
  | .resUdfCuGroupDeclare info =>
      ∀ option ∈ info.optionUdfCuListProps, ∀ prop ∈ option.items,
        prop.requestLoadUnified ≤ maxSafeLoad
  | .resUdfCuGroupDeclareV2 info =>
      ∀ option ∈ info.optionUdfCuListProps, ∀ prop ∈ option.items,
        prop.requestLoadUnified ≤ maxSafeLoad
  | .resReserveCuPool poolProp =>
      poolProp.clientId ≠ 0 ∧ ∀ prop ∈ poolProp.cuListProp.items, prop.clientId ≠ 0
  | .resReserveCuPoolV2 poolProp =>
      poolProp.clientId ≠ 0 ∧ ∀ prop ∈ poolProp.cuListProp.items, prop.clientId ≠ 0
  | _ => True

instance (op : Op) : Decidable op.Sent := by
  cases op <;> infer_instance

end Xrm
