import Xrm.Model.Available
import Xrm.Model.CheckedLoads
import Xrm.Model.Indices
import Xrm.Model.Query
import Xrm.Model.Tables

/-! # Dispatch

How the daemon answers one request: `session::handleCmd`, the dispatch to the registered commands,
and what each of them does with the system once it has read the request.
-/

namespace Xrm

open Procedure

/-! ## The daemon and its surroundings -/

/-- What the daemon runs on: the conversion of a text to an integer type, the answers of the driver
and the files for each call of a command, and the dynamic linker. -/
structure Services where
  convert : Conversion
  env : Nat → XrtEnv
  linker : DynamicLinker

/-- What the commands work on. Of the tables they use the plugins only; the groups are those of the
system. -/
structure Machine where
  system : System
  tables : Tables

abbrev MachineProcedure (α : Type) := DaemonProcedure Machine α

section Calls

variable {α : Type}

/-- A procedure of the system, run by the daemon. -/
def inSystem (p : Procedure System α) : MachineProcedure α :=
  focus (fun d => d.system.system) (fun d s => { d with system := { d.system with system := s } }) p

def modifySystem (f : System → System) : MachineProcedure Unit := inSystem (modify f)

def modifyTables (f : Tables → Tables) : MachineProcedure Unit :=
  modify fun d => { d with system := { d.system with tables := f d.system.tables } }

/-- A question that leaves the system as it is. -/
def ask (f : System → α) : MachineProcedure α := inSystem (call fun s => (s, f s))

/-- An operation that may come to a fault. An exception ends in `main`; behind any other fault the
behaviour is undefined. -/
def checked (f : System → Except Fault (System × α)) : MachineProcedure α :=
  inSystem fun s =>
    match f s with
    | .ok (s, a) => .ok a s
    | .error .uncaught => .exception s
    | .error _ => .overflow s

/-- A query whose loop may not end. -/
def watched (f : System → Option (System × α)) : MachineProcedure Unit :=
  inSystem fun s =>
    match f s with
    | some (s, _) => .ok () s
    | none => .stuck s

def underLock (p : MachineProcedure Unit) : MachineProcedure Unit := do
  enterLock
  p
  exitLock

end Calls

/-- A text that is passed on; one that starts with its end is empty. -/
def textOf (text : String) : String := if emptyText text then "" else text

/-! ## Devices -/

/-- `listCommand::processCmd` under the lock. -/
def listDevices (sv : Services) (t : DataTree) : MachineProcedure Unit := do
  modifySystem fun s => s.initDevices (sv.env 0)
  let numDev ← ask System.numDevice
  demandAll sv.convert t [.value ["request", "requestId"] (.int .int32)]
  let strDevId := t.textD ["request", "device"]
  if emptyText strDevId then
    modifySystem fun s => (List.range numDev).foldl (fun s devId => s.listDevice (sv.env 0) devId) s
  else
    let listStartDevId ← require (stoi strDevId)
    if listStartDevId < 0 ∨ listStartDevId ≥ numDev then return ()
    else modifySystem fun s => s.listDevice (sv.env 0) listStartDevId.toNat

/-- An operation on one device, with its message and its return value. -/
abbrev DeviceOperation := XrtEnv → Int → System → System × String × Except XrmError Unit

/-- The operation on the devices in turn, up to the first on which it fails. -/
def inTurn (f : DeviceOperation) (env : XrtEnv) : List Nat → System → System
  | [], s => s
  | devId :: devIds, s =>
      match f env devId s with
      | (s, _, .ok ()) => inTurn f env devIds s
      | (s, _, .error _) => s

/-- The loop over the entries of `unload`, `enableDevices` and `disableDevices`, from the `k`-th on,
up to the first that fails. With `all`, -2 stands for all devices and ends the loop. -/
def forEachDevice (sv : Services) (ty : IntType) (all : Bool) (f : DeviceOperation) :
    Nat → List DataTree → MachineProcedure Unit
  | _, [] => return ()
  | k, it :: rest => do
      let devId ← require (sv.convert ty it.data)
      if all ∧ devId = -2 then
        modifySystem fun s =>
          let s := s.initDevices (sv.env k)
          inTurn f (sv.env k) (List.range s.numDevice) s
      else
        match ← inSystem (call (f (sv.env k) devId)) with
        | (_, .ok ()) => forEachDevice sv ty all f (k + 1) rest
        | (_, .error _) => return ()

def unloadDevice : DeviceOperation := fun env devId s => s.unloadOneDevice env devId ""

/-- The number is handed on as an `int32_t`. -/
def enableDevice : DeviceOperation := fun env devId s => s.enableOneDevice env (i32 devId) ""

def disableDevice : DeviceOperation := fun env devId s => s.disableOneDevice env (i32 devId) ""

/-- The loop of `system::loadDevices` over the entries of the request, from number `attempt` on. -/
def loadDevices (sv : Services) : Nat → List DataTree → MachineProcedure Unit
  | _, [] => return ()
  | attempt, kv :: rest => do
      let strDevId := kv.textD ["device"]
      if emptyText strDevId then return ()
      else
        let devId ← require (stoi strDevId)
        let xclbin := textOf (kv.textD ["xclbin"])
        let numDevice ← ask System.numDevice
        if devId < -2 ∨ devId = -1 ∨ devId ≥ numDevice ∨ xclbin = "" then return ()
        else if devId = -2 then
          -- where one of the devices fails, the next entry is still looked at
          let _ ← checked fun s =>
            Checked.loadAllDevices (sv.env 0) attempt xclbin (List.range s.numDevice) s ""
          loadDevices sv (attempt + 1) rest
        else
          match ← checked fun s =>
              Checked.loadXclbin s (sv.env 0) attempt devId.toNat xclbin "" with
          | (_, .ok ()) => loadDevices sv (attempt + 1) rest
          | (_, .error _) => return ()

/-! ## Plugins -/

namespace Tables

/-- The loop of `system::loadXrmPlugins`, up to the first plugin that is not loaded. -/
def loadXrmPlugins (linker : DynamicLinker) : List DataTree → Tables → Tables
  | [], t => t
  | kv :: rest, t =>
      let xrmPluginFileName := kv.textD ["xrmPluginFileName"]
      let xrmPluginName := kv.textD ["xrmPluginName"]
      if emptyText xrmPluginFileName ∨ emptyText xrmPluginName then t
      else
        match t.loadOneXrmPlugin linker xrmPluginFileName xrmPluginName "" with
        | (t, _, .ok ()) => loadXrmPlugins linker rest t
        | (t, _, .error _) => t

/-- The loop of `system::unloadXrmPlugins`. -/
def unloadXrmPlugins : List DataTree → Tables → Tables
  | [], t => t
  | kv :: rest, t =>
      let xrmPluginName := kv.textD ["xrmPluginName"]
      if emptyText xrmPluginName then t
      else
        match t.unloadOneXrmPlugin xrmPluginName "" with
        | (t, _, .ok ()) => unloadXrmPlugins rest t
        | (t, _, .error _) => t

end Tables

/-! ## The registered commands -/

inductive RegisteredCommand where
  | list
  | load
  | loadOneDevice
  | unload
  | unloadOneDevice
  | enableDevices
  | disableDevices
  | enableOneDevice
  | disableOneDevice
  | createContext
  | echoContext
  | destroyContext
  | isDaemonRunning
  | isCuExisting
  | cuAlloc
  | cuPoolRelinquish
  | cuPoolRelinquishV2
  | cuGetMaxCapacity
  | allocationQuery
  | allocationQueryV2
  | reservationQuery
  | reservationQueryV2
  | checkCuAvailableNum
  | checkCuAvailableNumV2
  | loadXrmPlugins
  | unloadXrmPlugins
  | execXrmPluginFunc
  | cuAllocWithLoad
  | cuAllocLeastUsedWithLoad
  | loadAndAllCuAlloc
  | cuAllocV2
  /-- A command that uses a count or an id of the request as an index. -/
  | indexing (c : IndexingCommand)
  deriving Repr, DecidableEq

namespace RegisteredCommand

def handler : RegisteredCommand → Handler
  | list => Command.list
  | load => Command.load
  | loadOneDevice => Command.loadOneDevice
  | unload => Command.unload
  | unloadOneDevice => Command.unloadOneDevice
  | enableDevices => Command.enableDevices
  | disableDevices => Command.disableDevices
  | enableOneDevice => Command.enableOneDevice
  | disableOneDevice => Command.disableOneDevice
  | createContext => Command.createContext
  | echoContext => Command.echoContext
  | destroyContext => Command.destroyContext
  | isDaemonRunning => Command.isDaemonRunning
  | isCuExisting => Command.isCuExisting
  | cuAlloc => Command.cuAlloc
  | cuPoolRelinquish => Command.cuPoolRelinquish
  | cuPoolRelinquishV2 => Command.cuPoolRelinquishV2
  | cuGetMaxCapacity => Command.cuGetMaxCapacity
  | allocationQuery => Command.allocationQuery
  | allocationQueryV2 => Command.allocationQueryV2
  | reservationQuery => Command.reservationQuery
  | reservationQueryV2 => Command.reservationQueryV2
  | checkCuAvailableNum => Command.checkCuAvailableNum
  | checkCuAvailableNumV2 => Command.checkCuAvailableNumV2
  | loadXrmPlugins => Command.loadXrmPlugins
  | unloadXrmPlugins => Command.unloadXrmPlugins
  | execXrmPluginFunc => Command.execXrmPluginFunc
  | cuAllocWithLoad => Command.cuAllocWithLoad
  | cuAllocLeastUsedWithLoad => Command.cuAllocLeastUsedWithLoad
  | loadAndAllCuAlloc => Command.loadAndAllCuAlloc
  | cuAllocV2 => Command.cuAllocV2
  | indexing c => c.handler

section Bodies

variable (sv : Services) (t : DataTree)

/-- The device under `deviceId`. -/
def deviceIdOf : Int := valueOf sv.convert t .int32 (parameters ++ ["deviceId"])

/-- The client and the pool of a request. -/
def clientIdOf : Nat := idOf sv.convert t (parameters ++ ["clientId"])

def poolIdOf : Nat := idOf sv.convert t (parameters ++ ["poolId"])

/-- The request for one CU. -/
def propOf : CuProperty := readCuProp sv.convert t parameters "" (poolIdOf sv t)

def propOfV2 : CuPropertyV2 := readCuPropV2 sv.convert t parameters "" (poolIdOf sv t)

/-- The image under `xclbinFileName`. -/
def xclbinFileNameOf : String := textOf (t.textD (parameters ++ ["xclbinFileName"]))

def kernelNameOf : String := nameOf t (parameters ++ ["kernelName"])

def kernelAliasOf : String := nameOf t (parameters ++ ["kernelAlias"])

def allocQueryOf : AllocationQueryInfoV2 where
  allocServiceId := idOf sv.convert t (parameters ++ ["allocServiceId"])
  kernelName := kernelNameOf t
  kernelAlias := kernelAliasOf t

def reserveQueryOf : ReservationQueryInfoV2 where
  poolId := poolIdOf sv t
  kernelName := kernelNameOf t
  kernelAlias := kernelAliasOf t

/-- What a command does with the request `t`, whose part that it needs is `part`. -/
def body (fuel : Nat) (part : DataTree) : RegisteredCommand → MachineProcedure Unit
  | list => underLock (listDevices sv t)
  | load => underLock do
      modifySystem fun s => s.initDevices (sv.env 0)
      loadDevices sv 0 part.items
  | loadOneDevice => underLock do
      modifySystem fun s => s.initDevices (sv.env 0)
      demandAll sv.convert t [.value (parameters ++ ["xclbinFileName"]) .text,
        .value (parameters ++ ["deviceId"]) (.int .int32)]
      let _ ← checked fun s =>
        Checked.loadOneDevice s (sv.env 0) (deviceIdOf sv t) (xclbinFileNameOf t) ""
  | unload => underLock (forEachDevice sv .int32 true unloadDevice 0 part.items)
  | unloadOneDevice =>
      underLock (modifySystem fun s => (s.unloadOneDevice (sv.env 0) (deviceIdOf sv t) "").1)
  | enableDevices => underLock (forEachDevice sv .uint32 false enableDevice 0 part.items)
  | disableDevices => underLock (forEachDevice sv .uint32 false disableDevice 0 part.items)
  | enableOneDevice =>
      underLock (modifySystem fun s => (s.enableOneDevice (sv.env 0) (deviceIdOf sv t) "").1)
  | disableOneDevice =>
      underLock (modifySystem fun s => (s.disableOneDevice (sv.env 0) (deviceIdOf sv t) "").1)
  | createContext => underLock (modifySystem fun s => s.createContext.1)
  | echoContext => return ()
  | destroyContext => underLock do
      demandAll sv.convert t [.value (parameters ++ ["clientId"]) (.int .uint64)]
      if clientIdOf sv t = 0 then return ()
      else modifySystem fun s => s.recycleResource (clientIdOf sv t)
  | isDaemonRunning => return ()
  | isCuExisting => underLock do
      let _ ← ask fun s =>
        s.resIsCuExisting
          { CuProperty.zero with kernelName := kernelNameOf t, kernelAlias := kernelAliasOf t }
  | cuAlloc => underLock (modifySystem fun s => (s.resAllocCu (propOf sv t) true).1)
  | cuPoolRelinquish =>
      underLock (modifySystem fun s => (s.resRelinquishCuPool (poolIdOf sv t)).1)
  | cuPoolRelinquishV2 =>
      underLock (modifySystem fun s => (s.resRelinquishCuPoolV2 (poolIdOf sv t)).1)
  | cuGetMaxCapacity => underLock do
      let _ ← ask fun s => s.getCuMaxCapacity (kernelNameOf t) (kernelAliasOf t)
  | allocationQuery => underLock do
      let _ ← ask fun s => s.resAllocationQuery (allocQueryOf sv t)
  | allocationQueryV2 => underLock do
      let _ ← ask fun s => s.resAllocationQueryV2 (allocQueryOf sv t)
  | reservationQuery => underLock do
      let _ ← ask fun s => s.resReservationQuery (poolIdOf sv t)
  | reservationQueryV2 => underLock do
      let _ ← ask fun s => s.resReservationQueryV2 (reserveQueryOf sv t)
  | checkCuAvailableNum =>
      underLock (watched fun s => s.checkCuAvailableNum (propOf sv t) fuel)
  | checkCuAvailableNumV2 =>
      underLock (watched fun s => s.checkCuAvailableNumV2 (propOfV2 sv t) fuel)
  | loadXrmPlugins =>
      underLock (modifyTables fun tables => tables.loadXrmPlugins sv.linker part.items)
  | unloadXrmPlugins =>
      underLock (modifyTables fun tables => tables.unloadXrmPlugins part.items)
  -- the function that runs is the plugin's own
  | execXrmPluginFunc => return ()
  | cuAllocWithLoad => underLock do
      let _ ← checked fun s =>
        Checked.resAllocCuWithLoad s (sv.env 0) (propOf sv t) (xclbinFileNameOf t) true
  | cuAllocLeastUsedWithLoad => underLock do
      let _ ← checked fun s =>
        Checked.resAllocCuLeastUsedWithLoad s (sv.env 0) (propOf sv t) (xclbinFileNameOf t) true
  | loadAndAllCuAlloc => underLock do
      let _ ← checked fun s =>
        Checked.resLoadAndAllocAllCu s (sv.env 0) (xclbinFileNameOf t) (clientIdOf sv t)
          (valueOf sv.convert t .int32 (parameters ++ ["clientProcessId"]))
  | cuAllocV2 => underLock (modifySystem fun s => (s.resAllocCuV2 (propOfV2 sv t) true).1)
  | indexing c => underLock (inSystem (c.body sv.convert fuel t))

/-- The body of a command, if the request has the part that it needs. -/
def runBody (fuel : Nat) (c : RegisteredCommand) : MachineProcedure Unit :=
  match c.handler.part with
  | none => c.body sv t fuel t
  | some path =>
      match t.getChild? path with
      | none => return ()
      | some part => c.body sv t fuel part

/-- `processCmd` of a command -/
def processCmd (fuel : Nat) (c : RegisteredCommand) : MachineProcedure Response := do
  demandAll sv.convert t (c.handler.reads sv.convert t)
  c.runBody sv t fuel
  return .command c.handler.name

end Bodies

end RegisteredCommand

open RegisteredCommand in
/-- `commandRegistry::registerAll` -/
def registry : List RegisteredCommand :=
  [list, load, loadOneDevice, unload, unloadOneDevice, enableDevices, disableDevices,
    enableOneDevice, disableOneDevice, createContext, echoContext, destroyContext, isDaemonRunning,
    isCuExisting, indexing .isCuListExisting, indexing .isCuGroupExisting, cuAlloc,
    indexing .cuAllocFromDev, indexing .cuAllocLeastUsedFromDev, indexing .cuRelease,
    indexing .cuListAlloc, indexing .cuListRelease, indexing .udfCuGroupDeclare,
    indexing .udfCuGroupUndeclare, indexing .cuGroupAlloc, indexing .cuGroupRelease,
    indexing .cuPoolReserve, cuPoolRelinquish, cuGetMaxCapacity, indexing .cuCheckStatus,
    allocationQuery, reservationQuery, checkCuAvailableNum, indexing .checkCuListAvailableNum,
    indexing .checkCuGroupAvailableNum, indexing .checkCuPoolAvailableNum, loadXrmPlugins,
    unloadXrmPlugins, execXrmPluginFunc, cuAllocWithLoad, cuAllocLeastUsedWithLoad,
    loadAndAllCuAlloc, cuAllocV2, indexing .cuReleaseV2, indexing .cuListAllocV2,
    indexing .cuListReleaseV2, indexing .udfCuGroupDeclareV2, indexing .udfCuGroupUndeclareV2,
    indexing .cuGroupAllocV2, indexing .cuGroupReleaseV2, indexing .cuPoolReserveV2,
    cuPoolRelinquishV2, allocationQueryV2, reservationQueryV2, checkCuAvailableNumV2,
    indexing .checkCuListAvailableNumV2, indexing .checkCuGroupAvailableNumV2,
    indexing .checkCuPoolAvailableNumV2]

/-- The command that is registered under a name. -/
def findCommand (name : String) : Option RegisteredCommand :=
  registry.find? fun c => c.handler.name == name

/-! ## Handling a request -/

/-- `commandRegistry::dispatch` -/
def dispatch (sv : Services) (fuel : Nat) (name : String) (t : DataTree) :
    MachineProcedure Response :=
  match findCommand name with
  | some c => c.processCmd sv t fuel
  | none => return .failed ("unsupported cmd name: " ++ name)

/-- The response to the tree of a request. -/
def respond (sv : Services) (fuel : Nat) (t : DataTree) : MachineProcedure Response :=
  let name := t.textD ["request", "name"]
  let recordClientId := t.textD (parameters ++ ["recordClientId"])
  if emptyText name then return .failed "request name is not provided"
  else if emptyText (t.textD ["request", "requestId"]) then
    return .failed "request requestId is not provided"
  else do
    unless emptyText recordClientId do
      demandAll sv.convert t [.value (parameters ++ ["clientId"]) (.int .uint64),
        .value (parameters ++ ["clientProcessId"]) (.int .int32)]
    dispatch sv fuel name t

/-- `session::handleCmd`, from what the parser makes of the bytes received: a tree, or the message
of its error. -/
def handleCmd (sv : Services) (fuel : Nat) (m_cmdtree : Except String DataTree) :
    MachineProcedure Unit := do
  let outrsp ←
    match m_cmdtree with
    | .error message => pure (.failed ("Input Json file format error: " ++ message))
    | .ok t => respond sv fuel t
  modify fun d => { d with responses := d.responses ++ [outrsp] }

end Xrm
