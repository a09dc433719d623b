import Xrm.Library.FixedTable
import Xrm.Model.Types

/-! # Compute units

The functions of the daemon that work on a single compute unit.
-/

namespace Xrm

/-- The id after `id`: the counters run from 1 to `maxId` and start again at 1. -/
def nextId (id : Nat) : Nat := if id = maxId then 1 else id + 1

/-! ## Allocation policies -/

def policyNull : Nat := 0
def policyCuMostUsedFirst : Nat := 1
def policyCuLeastUsedFirst : Nat := 2
def policyDevMostUsedFirst : Nat := 3
def policyDevLeastUsedFirst : Nat := 4

def isMostUsedFirst (policyInfo : Nat) : Bool :=
  policyInfo == policyCuMostUsedFirst || policyInfo == policyDevMostUsedFirst

def isLeastUsedFirst (policyInfo : Nat) : Bool :=
  policyInfo == policyCuLeastUsedFirst || policyInfo == policyDevLeastUsedFirst

/-! ## Initial contents -/

/-- The channel table that `cuInitChannels` sets up. -/
def cuInitChannels : List ChannelData :=
  (List.range maxKernelChannels).map fun i : Nat => { ChannelData.zero with channelId := i }

namespace CuData

/-- A CU entry as `flushDevData` leaves it. -/
def blank : CuData where
  ipLayoutIndex := 0
  cuType := .null
  kernelName := ""
  kernelAlias := ""
  cuName := ""
  instanceName := ""
  kernelPluginFileName := ""
  maxCapacity := 0
  baseAddr := 0
  membankId := 0
  membankType := 0
  membankSize := 0
  membankBaseAddr := 0
  channels := List.replicate maxKernelChannels ChannelData.zero
  numChanInuse := 0
  clients := List.replicate maxKernelChannels 0
  numClient := 0
  reserves := List.replicate maxKernelReserves ReserveData.zero
  numReserve := 0
  totalUsedLoadUnified := 0
  totalReservedLoadUnified := 0

/-! ## Names -/

/-- A name that is not given equals every name. -/
def nameEqual (given own : String) : Bool := given == "" || own == given

/-- The match of the allocation functions. -/
def matchesCu (cu : CuData) (prop : CuProperty) : Bool :=
  nameEqual prop.kernelName cu.kernelName && nameEqual prop.kernelAlias cu.kernelAlias &&
    nameEqual prop.cuName cu.cuName

/-- The match of the reservation functions, which do not look at the CU name. -/
def matchesKernel (cu : CuData) (prop : CuProperty) : Bool :=
  nameEqual prop.kernelName cu.kernelName && nameEqual prop.kernelAlias cu.kernelAlias

/-! ## Channels and clients -/

/-- The first free channel. -/
def cuFindFreeChannelId (cu : CuData) : Option Nat :=
  if cu.numChanInuse ≥ maxKernelChannels then none
  else cu.channels.findIdx? (·.channelLoadUnified == 0)

/-- The position of the client among those attached to the CU. -/
def isClientUsingCu (cu : CuData) (clientId : Nat) : Option Nat :=
  (cu.clients.take cu.numClient).findIdx? (· == clientId)

/-- Add the client behind the ones already attached. -/
def addClientToCu (cu : CuData) (clientId : Nat) : CuData :=
  match cu.isClientUsingCu clientId with
  | some _ => cu
  | none =>
      { cu with
        clients := cu.clients.set (cu.clients.findIdx (· == 0)) clientId
        numClient := cu.numClient + 1 }

/-- Remove the client and fill the hole. -/
def removeClientOnCu (cu : CuData) (clientId : Nat) : CuData :=
  match cu.isClientUsingCu clientId with
  | none => cu
  | some i =>
      { cu with
        clients := FixedTable.closeGap 0 cu.clients i cu.numClient
        numClient := cu.numClient - 1 }

/-! ## Reserve slots -/

def slot (cu : CuData) (i : Nat) : ReserveData := cu.reserves.getD i ReserveData.zero

def modifySlot (cu : CuData) (i : Nat) (f : ReserveData → ReserveData) : CuData :=
  { cu with reserves := cu.reserves.modify i f }

/-- The index of the pool's slot on the CU. -/
def isReservePoolUsingCu (cu : CuData) (reservePoolId : Nat) : Option Nat :=
  if reservePoolId < 1 then none
  else (cu.reserves.take cu.numReserve).findIdx? (·.reservePoolId == reservePoolId)

/-- Remove slot `i`: the slots after it move down and the last one is emptied. -/
def removeSlot (cu : CuData) (i : Nat) : CuData :=
  { cu with
    reserves := FixedTable.closeGap ReserveData.zero cu.reserves i cu.numReserve
    numReserve := cu.numReserve - 1 }

/-! ## Allocating a channel -/

/-- The outcome of `allocChanClientFromCu`. `furtherCheck` is the code
`XRM_FURTHER_CHECK`; it says whether the CU becomes the remembered one. -/
inductive AllocChan where
  | refused (e : XrmError)
  | furtherCheck (takesOver : Bool)
  | allocated (cu : CuData) (chanId : Nat)
  deriving Repr, DecidableEq

/-- Take channel `chanId` for the request, out of the pool's slot `reserveIdx` or out of the
default pool. -/
def assignChannel (cu : CuData) (prop : CuProperty) (allocServiceId : Nat)
    (reserveIdx : Option Nat) (chanId : Nat) : CuData :=
  let chan := fun c : ChannelData =>
    { c with
      clientId := prop.clientId
      clientProcessId := prop.clientProcessId
      channelLoadUnified := prop.requestLoadUnified
      channelLoadOriginal := prop.requestLoadOriginal
      allocServiceId := allocServiceId
      poolId := prop.poolId }
  let cu := { cu with channels := cu.channels.modify chanId chan }
  let cu :=
    match reserveIdx with
    | some i => cu.modifySlot i fun r =>
        { r with
          reserveUsedLoadUnified := i32 (r.reserveUsedLoadUnified + prop.requestLoadUnified) }
    | none =>
        { cu with
          totalUsedLoadUnified := i32 (cu.totalUsedLoadUnified + prop.requestLoadUnified) }
  { cu with numChanInuse := cu.numChanInuse + 1 }.addClientToCu prop.clientId

/-- The two branches that end `allocChanClientFromCu`: an unused CU gives channel 0, any
other one its first free channel. -/
def takeChannel (cu : CuData) (prop : CuProperty) (allocServiceId : Nat)
    (reserveIdx : Option Nat) : AllocChan :=
  if cu.numChanInuse = 0 then
    .allocated (cu.assignChannel prop allocServiceId reserveIdx 0) 0
  else if cu.numChanInuse < maxKernelChannels then
    match cu.cuFindFreeChannelId with
    | none => .refused .noKernel
    | some chanId =>
        .allocated (cu.assignChannel prop allocServiceId reserveIdx chanId) chanId
  else
    .refused .noKernel

/-- Allocate a channel of the CU. `preCu` is the candidate remembered so far; the
comparison reads its slot at the index of the pool's slot on this CU. -/
def allocChanClientFromCu (cu : CuData) (prop : CuProperty) (allocServiceId : Nat)
    (policyInfo : Nat) (preCu : Option CuData) : AllocChan :=
  let load := prop.requestLoadUnified
  if load ≤ 0 then
    .refused .invalid
  else if prop.poolId ≠ 0 then
    match cu.isReservePoolUsingCu prop.poolId with
    | none => .refused .noKernel
    | some reserveIdx =>
        let used := (cu.slot reserveIdx).reserveUsedLoadUnified
        let reserved := (cu.slot reserveIdx).reserveLoadUnified
        let preUsed := fun pre : CuData => (pre.slot reserveIdx).reserveUsedLoadUnified
        if !(cu.slot reserveIdx).clientIsActive then
          .refused .noKernel
        else if i32 (used + load) > reserved then
          .refused .noKernel
        else if isMostUsedFirst policyInfo ∧ i32 (used + load) ≠ reserved then
          .furtherCheck (preCu.all fun pre => i32 (used + load) > preUsed pre)
        else if isLeastUsedFirst policyInfo ∧ used ≠ 0 then
          .furtherCheck (preCu.all fun pre => i32 (used + load) < preUsed pre)
        else
          cu.takeChannel prop allocServiceId (some reserveIdx)
  else
    let total := cu.totalUsedLoadUnified
    if i32 (total + load) > maxChanLoad then
      .refused .noKernel
    else if isMostUsedFirst policyInfo ∧ i32 (total + load) ≠ maxChanLoad then
      .furtherCheck (preCu.all fun pre => total > pre.totalUsedLoadUnified)
    else if isLeastUsedFirst policyInfo ∧ total ≠ 0 then
      .furtherCheck (preCu.all fun pre => total < pre.totalUsedLoadUnified)
    else
      cu.takeChannel prop allocServiceId none

/-! ## Reserving load -/

/-- Reserve the load of the request on the CU, in the pool's slot or in a new one. A new slot
keeps the used load its entry holds. -/
def reserveLoadFromCu (cu : CuData) (reservePoolId : Nat) (prop : CuProperty) :
    Except XrmError CuData :=
  let load := prop.requestLoadUnified
  if reservePoolId < 1 then .error .invalid
  else if load ≤ 0 ∨ load > maxChanLoad then .error .invalid
  else if i32 (cu.totalUsedLoadUnified + load) ≤ maxChanLoad ∧
      i32 (cu.totalReservedLoadUnified + load) ≤ maxChanLoad then
    let charged := { cu with
      totalUsedLoadUnified := i32 (cu.totalUsedLoadUnified + load)
      totalReservedLoadUnified := i32 (cu.totalReservedLoadUnified + load) }
    match cu.isReservePoolUsingCu reservePoolId with
    | some reserveIdx =>
        .ok (charged.modifySlot reserveIdx fun r =>
          { r with reserveLoadUnified := i32 (r.reserveLoadUnified + load) })
    | none =>
        if cu.numReserve < maxKernelReserves then
          .ok { charged.modifySlot cu.numReserve fun r =>
            { r with
              reserveLoadUnified := load
              reservePoolId := reservePoolId
              clientIsActive := true
              clientId := prop.clientId
              clientProcessId := prop.clientProcessId } with
            numReserve := cu.numReserve + 1 }
        else .error .noKernel
  else .error .noKernel

/-- Reserve the whole CU: its first slot and its counters are overwritten. -/
def reserveWhole (cu : CuData) (reservePoolId clientId : Nat) (clientProcessId : Int) :
    CuData :=
  { cu.modifySlot 0 fun _ =>
      { reservePoolId := reservePoolId
        reserveLoadUnified := maxChanLoad
        reserveUsedLoadUnified := 0
        clientIsActive := true
        clientId := clientId
        clientProcessId := clientProcessId } with
    totalUsedLoadUnified := maxChanLoad
    totalReservedLoadUnified := maxChanLoad
    numReserve := 1 }

/-- Give back slot `i`, whose load nobody uses. -/
def giveBackSlot (cu : CuData) (i : Nat) : CuData :=
  { cu with
    totalUsedLoadUnified := i32 (cu.totalUsedLoadUnified - (cu.slot i).reserveLoadUnified)
    totalReservedLoadUnified :=
      i32 (cu.totalReservedLoadUnified - (cu.slot i).reserveLoadUnified) }.removeSlot i

end CuData

end Xrm
