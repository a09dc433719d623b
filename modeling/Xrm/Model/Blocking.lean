import Xrm.Library.Retry
import Xrm.Model.Wire

/-! # Blocking allocations

The allocation calls of the library: what they check themselves, what they send to the daemon and
read from its answer, and the blocking variants, which repeat them.
-/

namespace Xrm

def XrmCuResource.zero : XrmCuResource where
  xclbinFileName := ""
  kernelPluginFileName := ""
  kernelName := ""
  kernelAlias := ""
  instanceName := ""
  cuName := ""
  uuid := List.replicate 16 0
  deviceId := 0
  cuId := 0
  channelId := 0
  cuType := 0
  baseAddr := 0
  membankId := 0
  membankType := 0
  membankSize := 0
  membankBaseAddr := 0
  allocServiceId := 0
  channelLoad := 0
  poolId := 0

namespace Client

open PropertyTree

/-! ## Requests of the application -/

structure XrmContext where
  xrmApiVersion : Nat
  xrmClientId : Nat
  /-- `getpid()` -/
  clientProcessId : Int
  deriving Repr, DecidableEq

structure XrmCuProperty where
  kernelName : String
  kernelAlias : String
  devExcl : Bool
  requestLoad : Int
  poolId : Nat
  deriving Repr, DecidableEq

structure XrmCuListProperty where
  cuProps : List XrmCuProperty
  cuNum : Int
  sameDevice : Bool
  deriving Repr, DecidableEq

structure XrmCuGroupProperty where
  udfCuGroupName : String
  poolId : Nat
  deriving Repr, DecidableEq

def xrmApiVersion1 : Nat := 1

/-- `XRM_ERROR_CONNECT_FAIL` -/
def connectFail : Int := -21

/-- The load of a request in the granularity of 1000000. -/
def xrmRetrieveLoadInfo (origGranLoad : Int) : Int :=
  let granularityOf100 := origGranLoad % 2 ^ 8
  let granularityOf1000000 := origGranLoad / 2 ^ 8 % 2 ^ 20
  if granularityOf100 = 0 ∧ granularityOf1000000 = 0 then XrmError.invalid.code
  else if granularityOf100 ≠ 0 ∧ granularityOf1000000 ≠ 0 then XrmError.invalid.code
  else if granularityOf100 < 0 ∨ granularityOf100 > 100 then XrmError.invalid.code
  else if granularityOf1000000 < 0 ∨ granularityOf1000000 > 1000000 then XrmError.invalid.code
  else if granularityOf100 ≠ 0 then granularityOf100 * 10000
  else granularityOf1000000

/-- The names are C strings. -/
def XrmCuProperty.unnamed (cuProp : XrmCuProperty) : Bool :=
  cuProp.kernelName == "" && cuProp.kernelAlias == ""

def flag (b : Bool) : Int := if b then 1 else 0

/-! ## Exchanges with the daemon -/

/-- What `xrmJsonRequest` gets for a request; none if it does not return `XRM_SUCCESS`. -/
abbrev Daemon := PropertyTree → Option PropertyTree

/-- The end of a call: the code it returns, and what it has stored for the application, if it has
stored anything; or the exception of a getter. -/
inductive Reply (ρ : Type) where
  | returned (ret : Int) (res : Option ρ)
  | thrown
  deriving Repr, DecidableEq

namespace Reply

variable {ρ : Type}

def invalid (res : Option ρ) : Reply ρ := .returned XrmError.invalid.code res

/-- The code that is returned. -/
def ret? : Reply ρ → Option Int
  | .returned ret _ => some ret
  | .thrown => none

end Reply

/-- One request. The application's `res` has been set to zero before. -/
def exchange {ρ : Type} (daemon : Daemon) (request : PropertyTree) (zero : ρ)
    (read : PropertyTree → Option ρ) : Reply ρ :=
  match daemon request with
  | none => .returned connectFail (some zero)
  | some rsp =>
      match rsp.getInt .int32 "response.status.value" with
      | none => .thrown
      | some ret =>
          if ret = 0 then
            match read rsp with
            | none => .thrown
            | some res => .returned ret (some res)
          else .returned ret (some zero)

/-- A query whose answer is a flag. `none` is the exception of a getter. -/
def query (daemon : Daemon) (request : PropertyTree) (field : String) : Option Bool :=
  match daemon request with
  | none => some false
  | some rsp => do
      let value ← rsp.getInt .int32 "response.status.value"
      if value = 0 then
        let existing ← rsp.getInt .int32 field
        return existing = 1
      else return false

/-- What every request says first. -/
def requestHead (name : String) : PropertyTree :=
  empty.putAll [("request.name", name), ("request.requestId", (1 : Int).repr)]

def clientFields (ctx : XrmContext) : List (String × String) :=
  [("request.parameters.echoClientId", "echo"),
    ("request.parameters.clientId", (ctx.xrmClientId : Int).repr)]

def processField (ctx : XrmContext) : List (String × String) :=
  [("request.parameters.clientProcessId", ctx.clientProcessId.repr)]

/-! ## Allocating a compute unit -/

/-- Read the answer for one compute unit. Its fields have no number. -/
def getCuResource (t : PropertyTree) : Option XrmCuResource := do
  let xclbinFileName ← t.get "response.data.xclbinFileName"
  let uuidStr ← t.get "response.data.uuidStr"
  let kernelPluginFileName ← t.get "response.data.kernelPluginFileName"
  let kernelName ← t.get "response.data.kernelName"
  let kernelAlias ← t.get "response.data.kernelAlias"
  let instanceName ← t.get "response.data.instanceName"
  let cuName ← t.get "response.data.cuName"
  let deviceId ← t.getInt .int32 "response.data.deviceId"
  let cuId ← t.getInt .int32 "response.data.cuId"
  let channelId ← t.getInt .int32 "response.data.channelId"
  let cuType ← t.getInt .int32 "response.data.cuType"
  let allocServiceId ← t.getInt .uint64 "response.data.allocServiceId"
  let channelLoad ← t.getInt .int32 "response.data.channelLoadOriginal"
  let baseAddr ← t.getInt .uint64 "response.data.baseAddr"
  let membankId ← t.getInt .uint32 "response.data.membankId"
  let membankType ← t.getInt .uint32 "response.data.membankType"
  let membankSize ← t.getInt .uint64 "response.data.membankSize"
  let membankBaseAddr ← t.getInt .uint64 "response.data.membankBaseAddr"
  let poolId ← t.getInt .uint64 "response.data.poolId"
  return {
    xclbinFileName := strncpy xclbinFileName
    kernelPluginFileName := strncpy kernelPluginFileName
    kernelName := strncpy kernelName
    kernelAlias := strncpy kernelAlias
    instanceName := strncpy instanceName
    cuName := strncpy cuName
    uuid := hexstrToBin uuidStr uuidTextLen
    deviceId := deviceId
    cuId := cuId
    channelId := channelId
    cuType := cuType
    baseAddr := baseAddr
    membankId := membankId
    membankType := membankType
    membankSize := membankSize
    membankBaseAddr := membankBaseAddr
    allocServiceId := allocServiceId
    channelLoad := channelLoad
    poolId := poolId }

def cuAllocRequest (ctx : XrmContext) (cuProp : XrmCuProperty) : PropertyTree :=
  (requestHead "cuAlloc").putAll (clientFields ctx ++ processField ctx ++
    [("request.parameters.kernelName", cuProp.kernelName),
      ("request.parameters.kernelAlias", cuProp.kernelAlias),
      ("request.parameters.devExcl", (flag cuProp.devExcl).repr),
      ("request.parameters.requestLoadUnified", (xrmRetrieveLoadInfo cuProp.requestLoad).repr),
      ("request.parameters.requestLoadOriginal", cuProp.requestLoad.repr),
      ("request.parameters.poolId", (cuProp.poolId : Int).repr)])

/-- The pointers may be NULL; of `cuRes` nothing else matters. -/
def xrmCuAlloc (context : Option XrmContext) (cuProp : Option XrmCuProperty) (cuRes : Bool)
    (daemon : Daemon) : Reply XrmCuResource :=
  match context, cuProp, cuRes with
  | some ctx, some cuProp, true =>
      if ctx.xrmApiVersion ≠ xrmApiVersion1 then .invalid none
      else if cuProp.unnamed then .invalid none
      else if xrmRetrieveLoadInfo cuProp.requestLoad < 0 then .invalid none
      else exchange daemon (cuAllocRequest ctx cuProp) XrmCuResource.zero getCuResource
  | _, _, _ => .invalid none

def isCuExistingRequest (ctx : XrmContext) (cuProp : XrmCuProperty) : PropertyTree :=
  (requestHead "isCuExisting").putAll
    ([("request.parameters.kernelName", cuProp.kernelName),
      ("request.parameters.kernelAlias", cuProp.kernelAlias)] ++ clientFields ctx)

def xrmIsCuExisting (context : Option XrmContext) (cuProp : Option XrmCuProperty)
    (daemon : Daemon) : Option Bool :=
  match context, cuProp with
  | some ctx, some cuProp =>
      if ctx.xrmApiVersion ≠ xrmApiVersion1 then some false
      else if cuProp.unnamed then some false
      else query daemon (isCuExistingRequest ctx cuProp) "response.data.isCuExisting"
  | _, _ => some false

/-! ## Allocating a list -/

structure XrmCuListResource where
  cuResources : List XrmCuResource
  cuNum : Int
  deriving Repr, DecidableEq

/-- All entries are zero. -/
def XrmCuListResource.zero : XrmCuListResource := ⟨[], 0⟩

/-- Read the answer for a list of compute units. -/
def getCuListResource (t : PropertyTree) : Option XrmCuListResource := do
  let cuNum ← t.getInt .int32 "response.data.cuNum"
  let cuResources ← (List.range cuNum.toNat).mapM (getAllocated t)
  return ⟨cuResources, cuNum⟩

def parametersPath : String := "request.parameters."

/-- Put the properties of a list, checking each before it is put. -/
def putCuProps : Nat → List XrmCuProperty → PropertyTree → Option PropertyTree
  | _, [], t => some t
  | i, cuProp :: cuProps, t =>
      if cuProp.unnamed then none
      else if xrmRetrieveLoadInfo cuProp.requestLoad < 0 then none
      else putCuProps (i + 1) cuProps (t.putItem parametersPath i
        [("kernelName", cuProp.kernelName), ("kernelAlias", cuProp.kernelAlias),
          ("devExcl", (flag cuProp.devExcl).repr),
          ("requestLoadUnified", (xrmRetrieveLoadInfo cuProp.requestLoad).repr),
          ("requestLoadOriginal", cuProp.requestLoad.repr),
          ("poolId", (cuProp.poolId : Int).repr)])

def XrmCuListProperty.outOfRange (cuListProp : XrmCuListProperty) : Bool :=
  cuListProp.cuNum ≤ 0 || cuListProp.cuNum > maxListCuNum

/-- The properties that the library looks at. -/
def XrmCuListProperty.requested (cuListProp : XrmCuListProperty) : List XrmCuProperty :=
  cuListProp.cuProps.take cuListProp.cuNum.toNat

def cuListAllocRequest (ctx : XrmContext) (cuListProp : XrmCuListProperty) :
    Option PropertyTree :=
  putCuProps 0 cuListProp.requested
    ((requestHead "cuListAlloc").putAll
      (("request.parameters.cuNum", cuListProp.cuNum.repr) :: clientFields ctx ++
        processField ctx ++ [("request.parameters.sameDevice", (flag cuListProp.sameDevice).repr)]))

def xrmCuListAlloc (context : Option XrmContext) (cuListProp : Option XrmCuListProperty)
    (cuListRes : Bool) (daemon : Daemon) : Reply XrmCuListResource :=
  match context, cuListProp, cuListRes with
  | some ctx, some cuListProp, true =>
      if ctx.xrmApiVersion ≠ xrmApiVersion1 then .invalid none
      else if cuListProp.outOfRange then .invalid (some XrmCuListResource.zero)
      else
        match cuListAllocRequest ctx cuListProp with
        | none => .invalid (some XrmCuListResource.zero)
        | some request => exchange daemon request XrmCuListResource.zero getCuListResource
  | _, _, _ => .invalid none

/-- The query looks at the names only. -/
def putNames : Nat → List XrmCuProperty → PropertyTree → Option PropertyTree
  | _, [], t => some t
  | i, cuProp :: cuProps, t =>
      if cuProp.unnamed then none
      else putNames (i + 1) cuProps (t.putItem parametersPath i
        [("kernelName", cuProp.kernelName), ("kernelAlias", cuProp.kernelAlias)])

def isCuListExistingRequest (ctx : XrmContext) (cuListProp : XrmCuListProperty) :
    Option PropertyTree :=
  putNames 0 cuListProp.requested
    ((requestHead "isCuListExisting").putAll
      (("request.parameters.cuNum", cuListProp.cuNum.repr) :: clientFields ctx ++
        [("request.parameters.sameDevice", (flag cuListProp.sameDevice).repr)]))

def xrmIsCuListExisting (context : Option XrmContext) (cuListProp : Option XrmCuListProperty)
    (daemon : Daemon) : Option Bool :=
  match context, cuListProp with
  | some ctx, some cuListProp =>
      if ctx.xrmApiVersion ≠ xrmApiVersion1 then some false
      else if cuListProp.outOfRange then some false
      else
        match isCuListExistingRequest ctx cuListProp with
        | none => some false
        | some request => query daemon request "response.data.isCuListExisting"
  | _, _ => some false

/-! ## Allocating a group -/

def cuGroupAllocRequest (ctx : XrmContext) (cuGroupProp : XrmCuGroupProperty) : PropertyTree :=
  (requestHead "cuGroupAlloc").putAll
    ([("request.parameters.udfCuGroupName", cuGroupProp.udfCuGroupName),
      ("request.parameters.poolId", (cuGroupProp.poolId : Int).repr)] ++ clientFields ctx ++
        processField ctx)

def xrmCuGroupAlloc (context : Option XrmContext) (cuGroupProp : Option XrmCuGroupProperty)
    (cuGroupRes : Bool) (daemon : Daemon) : Reply XrmCuListResource :=
  match context, cuGroupProp, cuGroupRes with
  | some ctx, some cuGroupProp, true =>
      if ctx.xrmApiVersion ≠ xrmApiVersion1 then .invalid none
      else if cuGroupProp.udfCuGroupName = "" then .invalid none
      else exchange daemon (cuGroupAllocRequest ctx cuGroupProp) XrmCuListResource.zero
        getCuListResource
  | _, _, _ => .invalid none

def isCuGroupExistingRequest (ctx : XrmContext) (cuGroupProp : XrmCuGroupProperty) :
    PropertyTree :=
  (requestHead "isCuGroupExisting").putAll
    (("request.parameters.udfCuGroupName", cuGroupProp.udfCuGroupName) :: clientFields ctx)

def xrmIsCuGroupExisting (context : Option XrmContext) (cuGroupProp : Option XrmCuGroupProperty)
    (daemon : Daemon) : Option Bool :=
  match context, cuGroupProp with
  | some ctx, some cuGroupProp =>
      if ctx.xrmApiVersion ≠ xrmApiVersion1 then some false
      else if cuGroupProp.udfCuGroupName = "" then some false
      else query daemon (isCuGroupExistingRequest ctx cuGroupProp)
        "response.data.isCuGroupExisting"
  | _, _ => some false

/-! ## Blocking calls -/

/-- The loop ends with success, without a connection, and with an exception. -/
def Reply.final {ρ : Type} : Reply ρ → Bool
  | .returned ret _ => ret == 0 || ret == connectFail
  | .thrown => true

/-- The replies of the attempts made so far, and the reply of the call once it has ended. -/
abbrev Progress (ρ : Type) := List (Reply ρ) × Option (Reply ρ)

/-- What the blocking calls share: their own checks, the query and the loop, of which `fuel` rounds
at most are run. The pause between two attempts is all that depends on the interval. -/
def blockingAlloc {ρ : Type} (refused : Bool) (existing : Option Bool) (alloc : Nat → Reply ρ)
    (fuel : Nat) : Progress ρ :=
  if refused then ([], some (.invalid none))
  else
    match existing with
    | none => ([], some .thrown)
    | some false => ([], some (.returned XrmError.noKernel.code none))
    | some true => Retry.loop Reply.final alloc fuel 0

def maxInterval : Nat := 1000000

def cuRefused (context : Option XrmContext) (cuProp : Option XrmCuProperty) (interval : Nat)
    (cuRes : Bool) : Bool :=
  match context, cuProp, cuRes with
  | some ctx, some cuProp, true =>
      ctx.xrmApiVersion != xrmApiVersion1 || cuProp.unnamed ||
        decide (xrmRetrieveLoadInfo cuProp.requestLoad < 0) || decide (interval > maxInterval)
  | _, _, _ => true

/-- `query` is the daemon when it is asked whether the CU exists, `daemon n` in attempt `n`. -/
def xrmCuBlockingAlloc (context : Option XrmContext) (cuProp : Option XrmCuProperty)
    (interval : Nat) (cuRes : Bool) (query : Daemon) (daemon : Nat → Daemon) (fuel : Nat) :
    Progress XrmCuResource :=
  blockingAlloc (cuRefused context cuProp interval cuRes) (xrmIsCuExisting context cuProp query)
    (fun n => xrmCuAlloc context cuProp cuRes (daemon n)) fuel

def cuListRefused (context : Option XrmContext) (cuListProp : Option XrmCuListProperty)
    (interval : Nat) (cuListRes : Bool) : Bool :=
  match context, cuListProp, cuListRes with
  | some ctx, some cuListProp, true =>
      ctx.xrmApiVersion != xrmApiVersion1 || cuListProp.outOfRange ||
        decide (interval > maxInterval)
  | _, _, _ => true

def xrmCuListBlockingAlloc (context : Option XrmContext) (cuListProp : Option XrmCuListProperty)
    (interval : Nat) (cuListRes : Bool) (query : Daemon) (daemon : Nat → Daemon) (fuel : Nat) :
    Progress XrmCuListResource :=
  blockingAlloc (cuListRefused context cuListProp interval cuListRes)
    (xrmIsCuListExisting context cuListProp query)
    (fun n => xrmCuListAlloc context cuListProp cuListRes (daemon n)) fuel

def cuGroupRefused (context : Option XrmContext) (cuGroupProp : Option XrmCuGroupProperty)
    (interval : Nat) (cuGroupRes : Bool) : Bool :=
  match context, cuGroupProp, cuGroupRes with
  | some ctx, some cuGroupProp, true =>
      ctx.xrmApiVersion != xrmApiVersion1 || cuGroupProp.udfCuGroupName == "" ||
        decide (interval > maxInterval)
  | _, _, _ => true

def xrmCuGroupBlockingAlloc (context : Option XrmContext)
    (cuGroupProp : Option XrmCuGroupProperty) (interval : Nat) (cuGroupRes : Bool)
    (query : Daemon) (daemon : Nat → Daemon) (fuel : Nat) : Progress XrmCuListResource :=
  blockingAlloc (cuGroupRefused context cuGroupProp interval cuGroupRes)
    (xrmIsCuGroupExisting context cuGroupProp query)
    (fun n => xrmCuGroupAlloc context cuGroupProp cuGroupRes (daemon n)) fuel

end Client

end Xrm
