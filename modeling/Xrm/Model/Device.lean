import Xrm.Model.Cu

/-! # Devices

The client table of a device, the search for a CU on it, and the release of what a client
holds there.
-/

namespace Xrm

namespace DeviceData

/-- Set the current load of the device, or change it when `setCurLoadVal` is negative. -/
def updateDeviceLoad (dev : DeviceData) (loadChangeVal setCurLoadVal : Int) : DeviceData :=
  let devCurrentLoad :=
    if setCurLoadVal ≥ 0 then setCurLoadVal
    else dev.devLoadInfo.devCurrentLoad + loadChangeVal
  { dev with
    devLoadInfo :=
      { dev.devLoadInfo with
        devCurrentLoad := devCurrentLoad
        devLoadRate := i32 ((devCurrentLoad * 1000).tdiv (dev.numCu * maxChanLoad)) } }

def setCu (dev : DeviceData) (cuId : Nat) (cu : CuData) : DeviceData :=
  { dev with cuList := dev.cuList.set cuId cu }

/-- Some CU of the device has load in use. -/
def isDeviceBusy (dev : DeviceData) : Bool := dev.cuList.any (·.totalUsedLoadUnified != 0)

/-! ## The client table -/

/-- `clientProcs[0]`, the holder of an exclusive device. -/
def holder (dev : DeviceData) : ClientData := dev.clientProcs.getD 0 ClientData.zero

/-- The test of `getNextFreeDevForClient` on one device. -/
def isFreeForClient (dev : DeviceData) (clientId : Nat) : Bool :=
  dev.isLoaded && (!dev.isExcl || dev.holder.clientId == clientId)

def addRef (entry : ClientData) : ClientData := { entry with ref := entry.ref + 1 }

/-- Drop a reference; an entry without references is free again. -/
def dropRef (entry : ClientData) : ClientData :=
  if entry.ref - 1 = 0 then ClientData.zero else { entry with ref := entry.ref - 1 }

/-- Register the client on the device, exclusively if the request asks for it. -/
def allocClientFromDev (dev : DeviceData) (prop : CuProperty) : Except XrmError DeviceData :=
  let clientId := prop.clientId
  if dev.isExcl then
    if dev.holder.clientId = clientId then
      .ok { dev with clientProcs := dev.clientProcs.modify 0 addRef }
    else .error .noDev
  else if prop.devExcl then
    if dev.clientProcs.any fun entry => entry.clientId != 0 && entry.clientId != clientId then
      .error .noDev
    else
      let ref := dev.clientProcs.foldl
        (fun ref entry => if entry.clientId = clientId then entry.ref else ref) 0
      .ok { dev with
        isExcl := true
        clientProcs :=
          { clientId := clientId, clientProcessId := prop.clientProcessId, ref := ref + 1 } ::
            List.replicate (maxDevClients - 1) ClientData.zero }
  else
    match dev.clientProcs.findIdx? (·.clientId == clientId) with
    | some pidIdx => .ok { dev with clientProcs := dev.clientProcs.modify pidIdx addRef }
    | none =>
        match dev.clientProcs.findIdx? (·.clientId == 0) with
        | some pidIdx =>
            .ok { dev with
              clientProcs := dev.clientProcs.set pidIdx
                { clientId := clientId, clientProcessId := prop.clientProcessId, ref := 1 } }
        | none => .error .noDev

/-- Drop a reference of the client; the last one also ends exclusive access. -/
def releaseClientOnDev (dev : DeviceData) (clientId : Nat) : Except XrmError DeviceData :=
  if !dev.isLoaded then .error .noDev
  else if dev.isExcl then
    if dev.holder.clientId ≠ clientId then .error .invalid
    else
      .ok { dev with
        isExcl := dev.holder.ref - 1 != 0
        clientProcs := dev.clientProcs.modify 0 dropRef }
  else
    match dev.clientProcs.findIdx? (·.clientId == clientId) with
    | some pidIdx => .ok { dev with clientProcs := dev.clientProcs.modify pidIdx dropRef }
    | none => .error .invalid

/-- `releaseClientOnDev` where the caller does not look at the return code. -/
def dropClient (dev : DeviceData) (clientId : Nat) : DeviceData :=
  match dev.releaseClientOnDev clientId with
  | .ok dev => dev
  | .error _ => dev

end DeviceData

/-! ## Searching a CU -/

/-- The CU that `preCu` points to. -/
structure PreCu where
  devId : Nat
  cuId : Nat
  cu : CuData
  deriving Repr, DecidableEq

/-- The outcome of a search: a CU with a channel taken on it, or the candidate remembered. -/
inductive CuSearch where
  | acquired (cuId : Nat) (cu : CuData) (chanId : Nat)
  | missed (preCu : Option PreCu)
  deriving Repr, DecidableEq

/-- First attempt of an allocation: the CUs that are in use already. -/
def inUse (cu : CuData) : Bool := cu.numClient > 0

/-- Second attempt of an allocation: the CUs that nobody uses. -/
def unused (cu : CuData) : Bool := cu.numClient == 0

/-- The CU loop of the allocation functions, from CU `cuId` on. -/
def searchCu (prop : CuProperty) (allocServiceId policyInfo : Nat) (wanted : CuData → Bool)
    (devId : Nat) : Nat → List CuData → Option PreCu → CuSearch
  | _, [], preCu => .missed preCu
  | cuId, cu :: cus, preCu =>
      if wanted cu && cu.matchesCu prop then
        match cu.allocChanClientFromCu prop allocServiceId policyInfo (preCu.map (·.cu)) with
        | .allocated cu chanId => .acquired cuId cu chanId
        | .furtherCheck true =>
            searchCu prop allocServiceId policyInfo wanted devId (cuId + 1) cus
              (some { devId := devId, cuId := cuId, cu := cu })
        | _ => searchCu prop allocServiceId policyInfo wanted devId (cuId + 1) cus preCu
      else searchCu prop allocServiceId policyInfo wanted devId (cuId + 1) cus preCu

/-- The affinity pass and, if it acquires nothing, the pass over the unused CUs. -/
def searchCuTwice (prop : CuProperty) (allocServiceId policyInfo devId : Nat)
    (cus : List CuData) : CuSearch :=
  match searchCu prop allocServiceId policyInfo inUse devId 0 cus none with
  | .acquired cuId cu chanId => .acquired cuId cu chanId
  | .missed preCu => searchCu prop allocServiceId policyInfo unused devId 0 cus preCu

/-! ## Granting a channel -/

/-- A result record as the request handlers initialise it. -/
def CuResource.zero : CuResource where
  xclbinFileName := ""
  kernelPluginFileName := ""
  kernelName := ""
  kernelAlias := ""
  instanceName := ""
  cuName := ""
  uuidStr := ""
  deviceId := 0
  cuId := 0
  channelId := 0
  cuType := .null
  baseAddr := 0
  membankId := 0
  membankType := 0
  membankSize := 0
  membankBaseAddr := 0
  allocServiceId := 0
  clientId := 0
  channelLoadUnified := 0
  channelLoadOriginal := 0
  poolId := 0

/-- The part of the result that `allocChanClientFromCu` fills in. -/
def CuData.cuResource (cu : CuData) (prop : CuProperty) (allocServiceId chanId : Nat) :
    CuResource :=
  { CuResource.zero with
    kernelName := strncpy cu.kernelName
    instanceName := strncpy cu.instanceName
    kernelAlias := strncpy cu.kernelAlias
    cuName := strncpy cu.cuName
    kernelPluginFileName := strncpy cu.kernelPluginFileName
    cuType := cu.cuType
    channelId := chanId
    clientId := prop.clientId
    channelLoadUnified := prop.requestLoadUnified
    channelLoadOriginal := prop.requestLoadOriginal
    allocServiceId := allocServiceId
    baseAddr := cu.baseAddr
    membankId := cu.membankId
    membankType := cu.membankType
    membankSize := cu.membankSize
    membankBaseAddr := cu.membankBaseAddr
    poolId := prop.poolId }

namespace DeviceData

/-- The part of the result that the search loops fill in. -/
def locate (dev : DeviceData) (devId cuId : Nat) (res : CuResource) : CuResource :=
  { res with
    deviceId := devId
    cuId := cuId
    xclbinFileName := strncpy dev.xclbinName
    uuidStr := strncpy dev.uuidStr }

/-- Store the CU on which a channel was taken; a default-pool channel adds to the device's
load. -/
def grant (dev : DeviceData) (prop : CuProperty) (cuId : Nat) (cu : CuData) : DeviceData :=
  if prop.poolId ≠ 0 then dev.setCu cuId cu
  else (dev.setCu cuId cu).updateDeviceLoad prop.requestLoadUnified (-1)

/-- The resource that goes with `grant`. -/
def grantedResource (dev : DeviceData) (devId : Nat) (prop : CuProperty) (allocServiceId : Nat)
    (cuId : Nat) (cu : CuData) (chanId : Nat) : CuResource :=
  dev.locate devId cuId (cu.cuResource prop allocServiceId chanId)

/-- The allocation on the remembered CU; its return code is not looked at. -/
def allocPreCu (dev : DeviceData) (devId : Nat) (prop : CuProperty) (allocServiceId cuId : Nat) :
    DeviceData × CuResource :=
  match dev.cuList[cuId]? with
  | none => (dev, dev.locate devId cuId CuResource.zero)
  | some cu =>
      match cu.allocChanClientFromCu prop allocServiceId policyNull none with
      | .allocated cu chanId =>
          (dev.grant prop cuId cu,
            dev.grantedResource devId prop allocServiceId cuId cu chanId)
      | _ => (dev, dev.locate devId cuId CuResource.zero)

/-! ## Releasing one channel -/

end DeviceData

/-- A channel record after a release; it keeps its number. -/
def ChannelData.clear (chan : ChannelData) : ChannelData :=
  { ChannelData.zero with channelId := chan.channelId }

/-- Whether the record names the channel. -/
def CuResource.names (res : CuResource) (chan : ChannelData) : Bool :=
  chan.allocServiceId == res.allocServiceId && chan.poolId == res.poolId &&
    chan.clientId == res.clientId && chan.channelId == res.channelId

namespace DeviceData

/-- Return a load to the default pool of a CU of the device. -/
def returnToDefaultPool (dev : DeviceData) (cu : CuData) (load : Int) : DeviceData × CuData :=
  (dev.updateDeviceLoad (-load) (-1),
    { cu with totalUsedLoadUnified := i32 (cu.totalUsedLoadUnified - load) })

/-- Return a load to slot `reserveIdx` of a CU. -/
def returnToSlot (dev : DeviceData) (cu : CuData) (reserveIdx : Nat) (load : Int) :
    DeviceData × CuData :=
  (dev, cu.modifySlot reserveIdx fun r =>
    { r with reserveUsedLoadUnified := i32 (r.reserveUsedLoadUnified - load) })

/-- Where `resReleaseCu` returns the load of a channel of pool `poolId`. -/
def returnLoad (dev : DeviceData) (cu : CuData) (poolId : Nat) (load : Int) :
    DeviceData × CuData :=
  if poolId ≠ 0 then
    match cu.isReservePoolUsingCu poolId with
    | some reserveIdx =>
        if (cu.slot reserveIdx).clientIsActive then dev.returnToSlot cu reserveIdx load
        else dev.returnToDefaultPool cu load
    | none => dev.returnToDefaultPool cu load
  else dev.returnToDefaultPool cu load

/-- The state of the channel loop of `resReleaseCu`: the device and the CU with their
counters, the channels passed, how many others the client has, and whether one matched. -/
structure ReleaseScan where
  dev : DeviceData
  cu : CuData
  channels : List ChannelData
  procChanCnt : Nat
  released : Bool

/-- The channel loop of `resReleaseCu`. -/
def releaseChannels (res : CuResource) : List ChannelData → DeviceData → CuData → ReleaseScan
  | [], dev, cu =>
      { dev := dev, cu := cu, channels := [], procChanCnt := 0, released := false }
  | chan :: chans, dev, cu =>
      if res.names chan then
        let (dev, cu) := dev.returnLoad cu res.poolId chan.channelLoadUnified
        let scan := releaseChannels res chans (dev.dropClient res.clientId)
          { cu with numChanInuse := cu.numChanInuse - 1 }
        { scan with channels := chan.clear :: scan.channels, released := true }
      else
        let scan := releaseChannels res chans dev cu
        { scan with
          channels := chan :: scan.channels
          procChanCnt :=
            if chan.clientId = res.clientId then scan.procChanCnt + 1 else scan.procChanCnt }

/-- Release the channels of CU `cuId` that the record names, and detach the client from the
CU when none of its channels is left. -/
def releaseCu (dev : DeviceData) (cuId : Nat) (cu : CuData) (res : CuResource) :
    DeviceData × Except XrmError Unit :=
  let scan := releaseChannels res cu.channels dev cu
  let cu := { scan.cu with channels := scan.channels }
  let cu := if scan.procChanCnt = 0 then cu.removeClientOnCu res.clientId else cu
  (scan.dev.setCu cuId cu, if scan.released then .ok () else .error .error)

/-! ## Releasing all channels of a client -/

/-- The slot that the load of a recycled channel returns to. -/
def activeSlot (cu : CuData) (poolId : Nat) : Option Nat :=
  (cu.reserves.take cu.numReserve).findIdx? fun r =>
    r.clientIsActive && r.reservePoolId == poolId

/-- The channel loop of `releaseAllCuChanClientOnDev`. -/
def releaseClientChannels (clientId : Nat) :
    List ChannelData → DeviceData → CuData → DeviceData × CuData × List ChannelData
  | [], dev, cu => (dev, cu, [])
  | chan :: chans, dev, cu =>
      if chan.clientId = 0 ∨ chan.clientId ≠ clientId then
        let (dev, cu, rest) := releaseClientChannels clientId chans dev cu
        (dev, cu, chan :: rest)
      else
        let (dev, cu) :=
          if chan.poolId = 0 then dev.returnToDefaultPool cu chan.channelLoadUnified
          else
            match activeSlot cu chan.poolId with
            | some reserveIdx => dev.returnToSlot cu reserveIdx chan.channelLoadUnified
            | none => dev.returnToDefaultPool cu chan.channelLoadUnified
        let (dev, cu, rest) := releaseClientChannels clientId chans dev
          { cu with numChanInuse := cu.numChanInuse - 1 }
        (dev, cu, chan.clear :: rest)

/-- The body of the CU loop of `releaseAllCuChanClientOnDev`. -/
def releaseAllOnCu (clientId : Nat) (dev : DeviceData) (cu : CuData) : DeviceData × CuData :=
  if clientId ≠ 0 ∧ cu.isClientUsingCu clientId = none then (dev, cu)
  else
    let (dev, cu, channels) :=
      releaseClientChannels clientId cu.channels dev (cu.removeClientOnCu clientId)
    (dev, { cu with channels := channels })

/-- The CU loop of `releaseAllCuChanClientOnDev`. -/
def releaseAllOnCus (clientId : Nat) : List CuData → DeviceData → DeviceData × List CuData
  | [], dev => (dev, [])
  | cu :: cus, dev =>
      let (dev, cu) := releaseAllOnCu clientId dev cu
      let (dev, cus) := releaseAllOnCus clientId cus dev
      (dev, cu :: cus)

/-- Release all channels of the client on the device. -/
def releaseAllCuChanClientOnDev (dev : DeviceData) (clientId : Nat) : DeviceData :=
  let (dev, cus) := releaseAllOnCus clientId dev.cuList dev
  { dev with cuList := cus }

/-! ## Recycling a client on one device -/

/-- The slot loop of `recycleResource` on one CU, from slot `reserveIdx` on. The loop makes at
most `numReserve` rounds; `tmpSum` collects the load it gives back. -/
def recycleSlots (clientId : Nat) : Nat → Nat → CuData → Int → CuData × Int
  | 0, _, cu, tmpSum => (cu, tmpSum)
  | rounds + 1, reserveIdx, cu, tmpSum =>
      if reserveIdx < cu.numReserve then
        let r := cu.slot reserveIdx
        if r.clientIsActive ∧ r.clientId = clientId then
          let tmp := r.reserveLoadUnified - r.reserveUsedLoadUnified
          recycleSlots clientId rounds reserveIdx
            ({ cu with
                totalUsedLoadUnified := i32 (cu.totalUsedLoadUnified - tmp)
                totalReservedLoadUnified :=
                  i32 (cu.totalReservedLoadUnified - r.reserveLoadUnified) }.removeSlot reserveIdx)
            (tmpSum - tmp)
        else recycleSlots clientId rounds (reserveIdx + 1) cu tmpSum
      else (cu, tmpSum)

/-- The CU loop around `recycleSlots`. -/
def recycleReserves (clientId : Nat) : List CuData → Int → List CuData × Int
  | [], tmpSum => ([], tmpSum)
  | cu :: cus, tmpSum =>
      let (cu, tmpSum) := recycleSlots clientId cu.numReserve 0 cu tmpSum
      let (cus, tmpSum) := recycleReserves clientId cus tmpSum
      (cu :: cus, tmpSum)

/-- The client-table loop of `recycleResource` on a shared device, from entry `pidIdx` on. -/
def recycleEntries (clientId : Nat) : Nat → Nat → DeviceData → DeviceData
  | 0, _, dev => dev
  | rounds + 1, pidIdx, dev =>
      let entry := dev.clientProcs.getD pidIdx ClientData.zero
      if entry.ref ≠ 0 ∧ entry.clientId = clientId then
        let dev := dev.releaseAllCuChanClientOnDev clientId
        recycleEntries clientId rounds (pidIdx + 1)
          { dev with clientProcs := dev.clientProcs.set pidIdx ClientData.zero }
      else recycleEntries clientId rounds (pidIdx + 1) dev

end DeviceData

end Xrm
