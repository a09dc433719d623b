import Xrm.Library.Procedure
import Xrm.Library.DataTree
import Xrm.Library.PropertyTree

/-! # Command handlers

How the daemon answers one request: `session::handleCmd`, the dispatch, and the handlers of the
registered commands, with what each of them reads of the request and where it holds the lock.
-/

namespace Xrm

open Procedure

/-! ## Reading a request -/

/-- The conversion of a text to an integer type. -/
abbrev Conversion := IntType → String → Option Int

/-- The type that a parameter is read as. -/
inductive ValueType where
  | text
  | int (ty : IntType)
  deriving Repr, DecidableEq

/-- What a handler asks of the request, statement by statement. -/
inductive Demand where
  /-- A `get` without a default. -/
  | value (path : List String) (ty : ValueType)
  /-- Entry `i` of an array with room for `room` entries is written. -/
  | slot (i room : Nat)
  deriving Repr, DecidableEq

def getInt? (conv : Conversion) (t : DataTree) (ty : IntType) (path : List String) : Option Int :=
  (t.text? path).bind (conv ty)

namespace Demand

def Met (conv : Conversion) (t : DataTree) : Demand → Prop
  | value path .text => (t.text? path).isSome
  | value path (.int ty) => (getInt? conv t ty path).isSome
  | slot i room => i < room

instance (conv : Conversion) (t : DataTree) (d : Demand) : Decidable (d.Met conv t) := by
  rcases d with ⟨path, _ | ty⟩ | ⟨i, room⟩ <;> unfold Met <;> infer_instance

end Demand

/-- The demands that a request puts on itself: its counts say how many entries are read. -/
abbrev Reads := Conversion → DataTree → List Demand

/-- One read: of a field, or the write of the entry that the fields so far are stored in. -/
inductive Field where
  | value (name : String) (ty : ValueType)
  | store
  deriving Repr, DecidableEq

namespace Field

def text (name : String) : Field := value name .text
def int32 (name : String) : Field := value name (.int .int32)
def int64 (name : String) : Field := value name (.int .int64)
def uint32 (name : String) : Field := value name (.int .uint32)
def uint64 (name : String) : Field := value name (.int .uint64)

/-- The demand of a field under `dir`, for entry `i` of an array. -/
def demand (dir : List String) (suffix : String) (i room : Nat) : Field → Demand
  | value name ty => .value (dir ++ [name ++ suffix]) ty
  | store => .slot i room

end Field

/-- `request.parameters` -/
def parameters : List String := ["request", "parameters"]

/-- The fields of the part of the request under `dir`. -/
def fields (dir : List String) (fs : List Field) : Reads :=
  fun _ _ => fs.map (Field.demand dir "" 0 1)

/-- The number of rounds of a loop up to the count under `path`. -/
def rounds (path : List String) (conv : Conversion) (t : DataTree) : Nat :=
  ((getInt? conv t .int32 path).getD 0).toNat

/-- The fields of every entry below the number under `count`, each with the entry's number behind
its name. -/
def entries (count dir : List String) (room : Nat) (fs : List Field) : Reads := fun conv t =>
  (List.range (rounds count conv t)).flatMap fun i => fs.map (Field.demand dir (toString i) i room)

/-- One list of reads after the other. -/
def inOrder (rs : List Reads) : Reads := fun conv t => rs.flatMap fun r => r conv t

/-- The fields of request.parameters. -/
def params (fs : List Field) : Reads := fields parameters fs

/-- The entries under request.parameters, as many as the parameter `count` says. -/
def paramEntries (count : String) (room : Nat) (fs : List Field) : Reads :=
  entries (parameters ++ [count]) parameters room fs

/-! ## Handlers -/

/-- A registered command. Where it needs a part of the request and that is missing, it answers
without its body. -/
structure Handler where
  name : String
  reads : Reads
  part : Option (List String)

/-- `request.requestId`, read as a number. -/
def requestId : Reads := fields ["request"] [.int32 "requestId"]

def command (name : String) (reads : Reads) : Handler := ⟨name, reads, none⟩

/-- A command that needs a part of the request. -/
def partCommand (name : String) (part : List String) : Handler := ⟨name, requestId, some part⟩

namespace Command

/-! ### Devices and plugins -/

def list : Handler := command "list" (fields [] [])
def load : Handler := partCommand "load" parameters

def loadOneDevice : Handler := partCommand "loadOneDevice" parameters

def unload : Handler := partCommand "unload" (parameters ++ ["device"])

def enableDevices : Handler := partCommand "enableDevices" (parameters ++ ["device"])

def disableDevices : Handler := partCommand "disableDevices" (parameters ++ ["device"])

/-- A command for the device under `deviceId`. -/
def oneDevice (name : String) : Handler :=
  command name (inOrder [requestId, params [.int32 "deviceId"]])

def unloadOneDevice : Handler := oneDevice "unloadOneDevice"
def enableOneDevice : Handler := oneDevice "enableOneDevice"
def disableOneDevice : Handler := oneDevice "disableOneDevice"

def loadXrmPlugins : Handler := partCommand "loadXrmPlugins" parameters
def unloadXrmPlugins : Handler := partCommand "unloadXrmPlugins" parameters

def execXrmPluginFunc : Handler :=
  command "execXrmPluginFunc"
    (inOrder [requestId, params [.text "xrmPluginName", .uint32 "funcId", .text "input"]])

/-! ### Contexts -/

def createContext : Handler := command "createContext" (params [.text "context"])

def echoContext : Handler := command "echoContext" (params [.text "context"])

def destroyContext : Handler := command "destroyContext" (params [.text "context"])

def isDaemonRunning : Handler := command "isDaemonRunning" (params [.text "echo"])

/-! ### Allocation -/

/-- The fields of a request for one CU, behind its own ones. -/
def cuFields (own : List Field) : List Field :=
  own ++ [.text "kernelName", .text "kernelAlias", .int32 "devExcl", .int32 "requestLoadUnified",
    .int32 "requestLoadOriginal", .uint64 "clientId", .int32 "clientProcessId", .uint64 "poolId"]

def cuFieldsV2 : List Field :=
  [.text "kernelName", .text "kernelAlias", .int32 "devExcl", .int64 "deviceInfo",
    .int64 "memoryInfo", .int64 "policyInfo", .int32 "requestLoadUnified",
    .int32 "requestLoadOriginal", .uint64 "clientId", .int32 "clientProcessId", .uint64 "poolId"]

/-- The fields of an entry of a list request. -/
def entryFields : List Field :=
  [.text "kernelName", .text "kernelAlias", .int32 "devExcl", .int32 "requestLoadUnified",
    .int32 "requestLoadOriginal"]

def entryFieldsV2 : List Field :=
  [.text "kernelName", .text "kernelAlias", .int32 "devExcl", .int64 "deviceInfo",
    .int64 "memoryInfo", .int64 "policyInfo", .int32 "requestLoadUnified",
    .int32 "requestLoadOriginal"]

def listReads : Reads :=
  inOrder [
    params [.int32 "cuNum", .int32 "sameDevice", .uint64 "clientId", .int32 "clientProcessId"],
    paramEntries "cuNum" 16 (entryFields ++ [.uint64 "poolId", .store])]

def listReadsV2 : Reads :=
  inOrder [
    params [.int32 "cuNum", .uint64 "clientId", .int32 "clientProcessId"],
    paramEntries "cuNum" 64 (entryFieldsV2 ++ [.uint64 "poolId", .store])]

def groupReads : Reads :=
  params [.text "udfCuGroupName", .uint64 "clientId", .int32 "clientProcessId", .uint64 "poolId"]

def cuAlloc : Handler := command "cuAlloc" (params (cuFields []))

def cuAllocFromDev : Handler := command "cuAllocFromDev" (params (cuFields [.int32 "deviceId"]))

def cuAllocLeastUsedFromDev : Handler :=
  command "cuAllocLeastUsedFromDev" (params (cuFields [.int32 "deviceId"]))

def cuListAlloc : Handler := command "cuListAlloc" listReads
def cuGroupAlloc : Handler := command "cuGroupAlloc" groupReads

def cuAllocWithLoad : Handler :=
  command "cuAllocWithLoad" (params (cuFields [] ++ [.text "xclbinFileName"]))

def cuAllocLeastUsedWithLoad : Handler :=
  command "cuAllocLeastUsedWithLoad" (params (cuFields [] ++ [.text "xclbinFileName"]))

def loadAndAllCuAlloc : Handler :=
  command "loadAndAllCuAlloc"
    (params [.text "xclbinFileName", .uint64 "clientId", .int32 "clientProcessId"])

def cuAllocV2 : Handler := command "cuAllocV2" (params cuFieldsV2)
def cuListAllocV2 : Handler := command "cuListAllocV2" listReadsV2
def cuGroupAllocV2 : Handler := command "cuGroupAllocV2" groupReads

/-! ### Release -/

def cuReleaseReads : Reads :=
  params [.int32 "deviceId", .int32 "cuId", .int32 "channelId", .int32 "cuType",
    .uint64 "allocServiceId", .uint64 "clientId", .int32 "channelLoadUnified",
    .int32 "channelLoadOriginal", .uint64 "poolId"]

/-- The records of a release, in an array with room for `room` of them. -/
def recordReads (room : Nat) : Reads :=
  inOrder [
    params [.int32 "cuNum", .uint64 "clientId"],
    paramEntries "cuNum" room [.int32 "deviceId", .int32 "cuId", .int32 "channelId",
      .int32 "cuType", .uint64 "allocServiceId", .int32 "channelLoadUnified",
      .int32 "channelLoadOriginal", .uint64 "poolId", .store]]

def cuRelease : Handler := command "cuRelease" cuReleaseReads
def cuListRelease : Handler := command "cuListRelease" (recordReads 16)
def cuGroupRelease : Handler := command "cuGroupRelease" (recordReads 16)
def cuReleaseV2 : Handler := command "cuReleaseV2" cuReleaseReads
def cuListReleaseV2 : Handler := command "cuListReleaseV2" (recordReads 64)
def cuGroupReleaseV2 : Handler := command "cuGroupReleaseV2" (recordReads 64)

/-! ### User defined groups -/

/-- The optional lists of a declaration; `head` is read before the list itself, `fs` for each of
its entries. -/
def optionLists (room : Nat) (head fs : List Field) : Reads := fun conv t =>
  (List.range (rounds (parameters ++ ["optionUdfCuListNum"]) conv t)).flatMap fun cuListIdx =>
    let udfCuListStr := parameters ++ ["optionUdfCuListProps" ++ toString cuListIdx]
    head.map (Field.demand udfCuListStr "" cuListIdx 8) ++
      entries (udfCuListStr ++ ["cuNum"]) udfCuListStr room fs conv t

def udfCuGroupDeclare : Handler :=
  command "udfCuGroupDeclare"
    (inOrder [params [.text "udfCuGroupName", .int32 "optionUdfCuListNum"],
      optionLists 16 [.int32 "sameDevice", .store, .int32 "cuNum"]
        [.text "cuName", .store, .int32 "devExcl", .int32 "requestLoadUnified",
          .int32 "requestLoadOriginal"]])

def udfCuGroupDeclareV2 : Handler :=
  command "udfCuGroupDeclareV2"
    (inOrder [params [.text "udfCuGroupName", .int32 "optionUdfCuListNum"],
      optionLists 64 [.int32 "cuNum", .store]
        [.text "cuName", .store, .int32 "devExcl", .int64 "deviceInfo", .int64 "memoryInfo",
          .int32 "requestLoadUnified", .int32 "requestLoadOriginal"]])

def udfCuGroupUndeclare : Handler := command "udfCuGroupUndeclare" (params [.text "udfCuGroupName"])

def udfCuGroupUndeclareV2 : Handler :=
  command "udfCuGroupUndeclareV2" (params [.text "udfCuGroupName"])

/-! ### Queries -/

def cuGetMaxCapacity : Handler :=
  command "cuGetMaxCapacity" (params [.text "kernelName", .text "kernelAlias"])

def cuCheckStatus : Handler :=
  command "cuCheckStatus"
    (params [.int32 "deviceId", .int32 "cuId", .int32 "channelId", .int32 "cuType",
      .uint64 "allocServiceId"])

def allocationQueryReads : Reads :=
  params [.uint64 "allocServiceId", .text "kernelName", .text "kernelAlias"]

def allocationQuery : Handler := command "allocationQuery" allocationQueryReads
def allocationQueryV2 : Handler := command "allocationQueryV2" allocationQueryReads

def reservationQuery : Handler := command "reservationQuery" (params [.uint64 "poolId"])

def reservationQueryV2 : Handler :=
  command "reservationQueryV2" (params [.uint64 "poolId", .text "kernelName", .text "kernelAlias"])

def isCuExisting : Handler :=
  command "isCuExisting" (params [.text "kernelName", .text "kernelAlias"])

def isCuListExisting : Handler :=
  command "isCuListExisting"
    (inOrder [params [.int32 "cuNum", .int32 "sameDevice"],
      paramEntries "cuNum" 16 [.text "kernelName", .text "kernelAlias", .store]])

def isCuGroupExisting : Handler := command "isCuGroupExisting" (params [.text "udfCuGroupName"])

/-! ### Pools -/

/-- The image of a pool request. -/
def xclbinReads : Reads := params [.text "xclbinUuidStr", .int32 "xclbinNum"]

def cuListDir : List String := parameters ++ ["cuList"]

def deviceIdListDir : List String := parameters ++ ["deviceIdList"]

def cuPoolReserve : Handler :=
  command "cuPoolReserve"
    (inOrder [params [.int32 "cuListNum"], fields cuListDir [.int32 "cuNum", .int32 "sameDevice"],
      params [.uint64 "clientId", .int32 "clientProcessId"],
      entries (cuListDir ++ ["cuNum"]) cuListDir 16 (entryFields ++ [.store]), xclbinReads])

/-- The reads of a pool request of the second version, whose entries are under `dir`. -/
def poolReadsV2 (dir : List String) : Reads :=
  inOrder [params [.int32 "cuListNum"], fields cuListDir [.int32 "cuNum"],
    fields deviceIdListDir [.int32 "deviceNum"],
    params [.uint64 "clientId", .int32 "clientProcessId"],
    entries (cuListDir ++ ["cuNum"]) dir 64 (entryFieldsV2 ++ [.store]),
    entries (deviceIdListDir ++ ["deviceNum"]) deviceIdListDir 16 [.uint64 "deviceIds", .store],
    xclbinReads]

def cuPoolReserveV2 : Handler := command "cuPoolReserveV2" (poolReadsV2 cuListDir)

def cuPoolRelinquish : Handler := command "cuPoolRelinquish" (params [.uint64 "poolId"])

def cuPoolRelinquishV2 : Handler := command "cuPoolRelinquishV2" (params [.uint64 "poolId"])

/-! ### Availability -/

def checkCuAvailableNum : Handler := command "checkCuAvailableNum" (params (cuFields []))

def checkCuListAvailableNum : Handler := command "checkCuListAvailableNum" listReads
def checkCuGroupAvailableNum : Handler := command "checkCuGroupAvailableNum" groupReads

def checkCuPoolAvailableNum : Handler :=
  command "checkCuPoolAvailableNum"
    (inOrder [params [.int32 "cuListNum", .int32 "cuNum", .uint64 "clientId",
        .int32 "clientProcessId", .int32 "sameDevice"],
      paramEntries "cuNum" 16 (entryFields ++ [.store]), xclbinReads])

def checkCuAvailableNumV2 : Handler := command "checkCuAvailableNumV2" (params cuFieldsV2)

def checkCuListAvailableNumV2 : Handler := command "checkCuListAvailableNumV2" listReadsV2

def checkCuGroupAvailableNumV2 : Handler := command "checkCuGroupAvailableNumV2" groupReads

-- its entries are read under request.parameters, not under the list
def checkCuPoolAvailableNumV2 : Handler :=
  command "checkCuPoolAvailableNumV2" (poolReadsV2 parameters)

end Command

/-! ## Running a handler -/

/-- `text.c_str()[0] == '\\0'` -/
def emptyText (text : String) : Bool := text.toList.headD '\x00' == '\x00'

/-- The value of a digit of base 16 or less. -/
def digitValue? (base : Nat) (c : Char) : Option Nat :=
  let v :=
    if c.isDigit then c.toNat - '0'.toNat
    else if 'a' ≤ c ∧ c ≤ 'f' then c.toNat - 'a'.toNat + 10
    else if 'A' ≤ c ∧ c ≤ 'F' then c.toNat - 'A'.toNat + 10
    else 16
  if v < base then some v else none

/-- The base of the digits `cs`, with what is left of them behind its mark. -/
def baseOf : List Char → Nat × List Char
  | '0' :: x :: d :: cs =>
      if (x = 'x' ∨ x = 'X') ∧ (digitValue? 16 d).isSome then (16, d :: cs)
      else (8, '0' :: x :: d :: cs)
  | '0' :: cs => (8, '0' :: cs)
  | cs => (10, cs)

/-- The digits at the start, read as a number; none where there is not one. -/
def leadingNumber (base : Nat) (cs : List Char) : Option Nat :=
  match cs.map (digitValue? base) |>.takeWhile Option.isSome with
  | [] => none
  | ds => some (ds.foldl (fun n d => n * base + d.getD 0) 0)

/-- `std::stoi(text, nullptr, 0)`; none where it throws. -/
def stoi (text : String) : Option Int :=
  let cs := text.toList.dropWhile fun c => c ∈ [' ', '\t', '\n', '\x0b', '\x0c', '\r']
  let (sign, cs) : Int × List Char :=
    match cs with
    | '-' :: cs => (-1, cs)
    | '+' :: cs => (1, cs)
    | cs => (1, cs)
  let (base, cs) := baseOf cs
  (leadingNumber base cs).bind fun n =>
    if IntType.int32.Has (sign * n) then some (sign * n) else none

/-- A response: the text of a failure, or what the handler of a command puts into it. -/
inductive Response where
  | failed (data : String)
  | command (name : String)
  deriving Repr, DecidableEq

/-- The daemon while it works on a command: the system, `m_lock`, and the responses queued. -/
structure DaemonState (σ : Type) where
  system : σ
  locked : Bool
  responses : List Response

section Run

variable {σ : Type}

abbrev DaemonProcedure (σ α : Type) := Procedure (DaemonState σ) α

def enterLock : DaemonProcedure σ Unit := do
  if (← get).locked then stuck else modify fun d => { d with locked := true }

def exitLock : DaemonProcedure σ Unit := modify fun d => { d with locked := false }

def demand (conv : Conversion) (t : DataTree) : Demand → DaemonProcedure σ Unit
  | .value path .text => do
      let _ ← require (t.text? path)
  | .value path (.int ty) => do
      let _ ← require (getInt? conv t ty path)
  | .slot i room => if i < room then return () else overflow

def demandAll (conv : Conversion) (t : DataTree) : List Demand → DaemonProcedure σ Unit
  | [] => return ()
  | d :: ds => do
      demand conv t d
      demandAll conv t ds

end Run

end Xrm
