import Mathlib.Data.List.Sort
import Xrm.Model.Load

/-! # Allocating and releasing single CUs

An allocation that fails may still have changed the state, so each function returns the
state beside its result.
-/

namespace Xrm

/-- None of the three names is given. -/
def CuProperty.unnamed (prop : CuProperty) : Bool :=
  prop.kernelName == "" && prop.kernelAlias == "" && prop.cuName == ""

/-- The request of a version 2 property. The CU name is left out, the device constraint and
the policy are read from the property itself. -/
def cuPropertyCopyFromV2 (prop : CuPropertyV2) : CuProperty where
  kernelName := prop.kernelName
  kernelAlias := prop.kernelAlias
  cuName := ""
  devExcl := prop.devExcl
  requestLoadUnified := prop.requestLoadUnified
  requestLoadOriginal := prop.requestLoadOriginal
  clientId := prop.clientId
  clientProcessId := prop.clientProcessId
  poolId := prop.poolId

/-- The result of one pass over the devices. -/
inductive PassResult where
  | acquired (res : CuResource)
  | missed (preCu : Option PreCu)
  deriving Repr, DecidableEq

namespace DeviceData

/-- Use what a search on a registered device has found; without a CU the client is released
again. -/
def settle (dev : DeviceData) (devId : Nat) (prop : CuProperty) (allocServiceId : Nat) :
    CuSearch → DeviceData × PassResult
  | .acquired cuId cu chanId =>
      (dev.grant prop cuId cu,
        .acquired (dev.grantedResource devId prop allocServiceId cuId cu chanId))
  | .missed preCu => (dev.dropClient prop.clientId, .missed preCu)

/-- One round of the device loop: register the client, search, settle. -/
def tryDevice (dev : DeviceData) (devId : Nat) (prop : CuProperty)
    (allocServiceId policyInfo : Nat) (wanted : CuData → Bool) (preCu : Option PreCu) :
    DeviceData × PassResult :=
  match dev.allocClientFromDev prop with
  | .error _ => (dev, .missed preCu)
  | .ok dev =>
      dev.settle devId prop allocServiceId
        (searchCu prop allocServiceId policyInfo wanted devId 0 dev.cuList preCu)

end DeviceData

namespace System

def getNextAllocServiceId (s : System) : Nat := nextId s.allocServiceId

def updateAllocServiceId (s : System) : System :=
  { s with allocServiceId := nextId s.allocServiceId }

/-- The end of a successful allocation. -/
def finishAlloc (s : System) (updateId : Bool) (res : CuResource) :
    System × Except XrmError CuResource :=
  (if updateId then s.updateAllocServiceId else s, .ok res)

/-- The device loop of the allocation functions. `allocDevForClient` hands out, in order, the
devices that are free for the client. -/
def allocPass (prop : CuProperty) (policyInfo : Nat) (devWanted : DeviceData → Bool)
    (wanted : CuData → Bool) : List Nat → System → Option PreCu → System × PassResult
  | [], s, preCu => (s, .missed preCu)
  | devId :: devIds, s, preCu =>
      match s.devList[devId]? with
      | none => allocPass prop policyInfo devWanted wanted devIds s preCu
      | some dev =>
          if dev.isFreeForClient prop.clientId && devWanted dev then
            match dev.tryDevice devId prop s.getNextAllocServiceId policyInfo wanted preCu with
            | (dev, .acquired res) => (s.setDev devId dev, .acquired res)
            | (dev, .missed preCu) =>
                allocPass prop policyInfo devWanted wanted devIds (s.setDev devId dev) preCu
          else allocPass prop policyInfo devWanted wanted devIds s preCu

/-- Every device will do. -/
def anyDevice (_ : DeviceData) : Bool := true

/-- The affinity pass over the devices, then the pass over the unused CUs. -/
def allocTwice (s : System) (prop : CuProperty) (policyInfo : Nat) : System × PassResult :=
  match allocPass prop policyInfo anyDevice inUse (List.range s.numDevice) s none with
  | (s, .acquired res) => (s, .acquired res)
  | (s, .missed preCu) =>
      allocPass prop policyInfo anyDevice unused (List.range s.numDevice) s preCu

/-- Allocate one CU on any device. -/
def resAllocCu (s : System) (prop : CuProperty) (updateId : Bool) :
    System × Except XrmError CuResource :=
  if prop.unnamed then (s, .error .invalid)
  else
    match s.allocTwice prop policyNull with
    | (s, .acquired res) => s.finishAlloc updateId res
    | (s, .missed _) => (s, .error .noKernel)

/-! ## Allocation on a given device -/

/-- The checks and the registration that open the functions for a given device. -/
def registerOn (s : System) (deviceId : Int) (prop : CuProperty) :
    Except XrmError (Nat × DeviceData) :=
  match s.devIndex deviceId with
  | none => .error .invalid
  | some devId =>
      if prop.unnamed then .error .invalid
      else
        match s.devList[devId]? with
        | none => .error .invalid
        | some dev =>
            if dev.isFreeForClient prop.clientId then
              match dev.allocClientFromDev prop with
              | .ok dev => .ok (devId, dev)
              | .error _ => .error .noDev
            else .error .noDev

/-- Allocate one CU on the given device. -/
def resAllocCuFromDev (s : System) (deviceId : Int) (prop : CuProperty) (updateId : Bool) :
    System × Except XrmError CuResource :=
  match s.registerOn deviceId prop with
  | .error e => (s, .error e)
  | .ok (devId, dev) =>
      match dev.settle devId prop s.getNextAllocServiceId
          (searchCuTwice prop s.getNextAllocServiceId policyNull devId dev.cuList) with
      | (dev, .acquired res) => (s.setDev devId dev).finishAlloc updateId res
      | (dev, .missed _) => (s.setDev devId dev, .error .noKernel)

/-- Allocate one CU on the given device by the load of its CUs. A remembered CU is used
whether or not the allocation on it succeeds. -/
def resAllocCuFromDevByCuLoad (s : System) (deviceId : Int) (propV2 : CuPropertyV2)
    (updateId : Bool) : System × Except XrmError CuResource :=
  let prop := cuPropertyCopyFromV2 propV2
  let svc := s.getNextAllocServiceId
  match s.registerOn deviceId prop with
  | .error e => (s, .error e)
  | .ok (devId, dev) =>
      match searchCuTwice prop svc propV2.policyInfo devId dev.cuList with
      | .missed (some preCu) =>
          let (dev, res) := dev.allocPreCu devId prop svc preCu.cuId
          (s.setDev devId dev).finishAlloc updateId res
      | search =>
          match dev.settle devId prop svc search with
          | (dev, .acquired res) => (s.setDev devId dev).finishAlloc updateId res
          | (dev, .missed _) => (s.setDev devId dev, .error .noKernel)

/-! ## Allocation by load -/

/-- Allocate one CU by the load of the CUs of all devices. The client is released on every
device that gave nothing, also on that of the remembered CU. -/
def resAllocCuByCuLoad (s : System) (propV2 : CuPropertyV2) (updateId : Bool) :
    System × Except XrmError CuResource :=
  let prop := cuPropertyCopyFromV2 propV2
  match s.allocTwice prop propV2.policyInfo with
  | (s, .acquired res) => s.finishAlloc updateId res
  | (s, .missed none) => (s, .error .noKernel)
  | (s, .missed (some preCu)) =>
      match s.devList[preCu.devId]? with
      | none => (s, .error .noKernel)
      | some dev =>
          let (dev, res) := dev.allocPreCu preCu.devId prop s.getNextAllocServiceId preCu.cuId
          (s.setDev preCu.devId dev).finishAlloc updateId res

end System

/-- The comparison that sorts the load records. -/
def DeviceLoadInfo.less (a b : DeviceLoadInfo) : Bool :=
  decide (a.devLoadRate < b.devLoadRate) || decide (a.deviceId < b.deviceId)

/-- Move the record left past the greater ones of a reversed prefix. -/
def linearInsert (info : DeviceLoadInfo) : List DeviceLoadInfo → List DeviceLoadInfo
  | [] => [info]
  | last :: rest =>
      if info.less last then last :: linearInsert info rest else info :: last :: rest

/-- `std::sort` on at most 16 records, an insertion sort: a record below the first one goes
to the front, any other one is inserted from the right. `sorted` is the reversed prefix. -/
def sortDevLoads : List DeviceLoadInfo → List DeviceLoadInfo → List DeviceLoadInfo
  | sorted, [] => sorted.reverse
  | sorted, info :: infos =>
      let toFront := sorted.getLast?.any fun first => info.less first
      sortDevLoads (if toFront then sorted ++ [info] else linearInsert info sorted) infos

namespace System

/-- The devices in the order in which `resAllocCuByDevLoad` visits them. -/
def devLoadOrder (s : System) (policyInfo : Nat) : List Nat :=
  let devIds := (sortDevLoads [] (s.devList.map (·.devLoadInfo))).map (·.deviceId)
  if policyInfo = policyDevLeastUsedFirst then devIds else devIds.reverse

/-- The device loop of `resAllocCuByDevLoad`. Devices that are not loaded are visited too. -/
def allocByDevLoad (prop : CuProperty) (policyInfo : Nat) (updateId : Bool) :
    List Nat → System → System × Except XrmError CuResource
  | [], s => (s, .error .noKernel)
  | devId :: devIds, s =>
      match s.devList[devId]? with
      | none => allocByDevLoad prop policyInfo updateId devIds s
      | some dev =>
          match dev.allocClientFromDev prop with
          | .error _ => allocByDevLoad prop policyInfo updateId devIds s
          | .ok dev =>
              let svc := s.getNextAllocServiceId
              match searchCu prop svc policyInfo (fun _ => true) devId 0 dev.cuList none with
              | .missed (some preCu) =>
                  let (dev, res) := dev.allocPreCu devId prop svc preCu.cuId
                  (s.setDev devId dev).finishAlloc updateId res
              | search =>
                  match dev.settle devId prop svc search with
                  | (dev, .acquired res) => (s.setDev devId dev).finishAlloc updateId res
                  | (dev, .missed _) =>
                      allocByDevLoad prop policyInfo updateId devIds (s.setDev devId dev)

/-- Allocate one CU by the load of the devices. -/
def resAllocCuByDevLoad (s : System) (propV2 : CuPropertyV2) (updateId : Bool) :
    System × Except XrmError CuResource :=
  allocByDevLoad (cuPropertyCopyFromV2 propV2) propV2.policyInfo updateId
    (s.devLoadOrder propV2.policyInfo) s

end System

/-! ## Version 2 requests -/

def constraintNull : Nat := 0
def constraintHardwareDeviceIndex : Nat := 1
def constraintVirtualDeviceIndex : Nat := 2

/-- Bits 39 - 32 of the device information. -/
def CuPropertyV2.constraintType (prop : CuPropertyV2) : Nat := prop.deviceInfo / 2 ^ 32 % 2 ^ 8

/-- Bits 31 - 0 of the device information. -/
def CuPropertyV2.deviceIndex (prop : CuPropertyV2) : Nat := prop.deviceInfo % 2 ^ 32

namespace System

/-- Allocate one CU for a version 2 request. -/
def resAllocCuV2 (s : System) (propV2 : CuPropertyV2) (updateId : Bool) :
    System × Except XrmError CuResource :=
  if propV2.kernelName == "" && propV2.kernelAlias == "" && propV2.cuName == "" then
    (s, .error .invalid)
  else if propV2.constraintType = constraintNull then
    if propV2.policyInfo = policyDevMostUsedFirst ∨
        propV2.policyInfo = policyDevLeastUsedFirst then
      s.resAllocCuByDevLoad propV2 updateId
    else if propV2.policyInfo = policyCuMostUsedFirst ∨
        propV2.policyInfo = policyCuLeastUsedFirst then
      s.resAllocCuByCuLoad propV2 updateId
    else s.resAllocCu (cuPropertyCopyFromV2 propV2) updateId
  else if propV2.constraintType = constraintHardwareDeviceIndex then
    s.resAllocCuFromDevByCuLoad (i32 propV2.deviceIndex) propV2 updateId
  else (s, .error .invalid)

end System

/-! ## The least used CU -/

/-- A CU that may be shared: its load in use, its device and its index. -/
structure Candidate where
  totalUsedLoadUnified : Int
  devId : Nat
  cuId : Nat
  deriving Repr, DecidableEq

/-- The order of `std::sort` on the candidate tuples. -/
def Candidate.le (a b : Candidate) : Bool :=
  decide (a.totalUsedLoadUnified < b.totalUsedLoadUnified) ||
    (decide (a.totalUsedLoadUnified = b.totalUsedLoadUnified) &&
      (decide (a.devId < b.devId) || (decide (a.devId = b.devId) && decide (a.cuId ≤ b.cuId))))

def sortCandidates (candidates : List Candidate) : List Candidate :=
  candidates.insertionSort fun a b => a.le b = true

/-- The CUs of a device that match and whose total load leaves room for the request. -/
def candidates (prop : CuProperty) (devId : Nat) : Nat → List CuData → List Candidate
  | _, [] => []
  | cuId, cu :: cus =>
      if cu.matchesCu prop &&
          decide (i32 (prop.requestLoadUnified + cu.totalUsedLoadUnified) ≤ maxChanLoad) then
        { totalUsedLoadUnified := cu.totalUsedLoadUnified, devId := devId, cuId := cuId } ::
          candidates prop devId (cuId + 1) cus
      else candidates prop devId (cuId + 1) cus

/-- The candidate loop of `resAllocLeastUsedCuFromDev`. Every candidate that fails releases
the client once. -/
def shareCandidates (prop : CuProperty) (allocServiceId devId : Nat) :
    List Candidate → DeviceData → DeviceData × PassResult
  | [], dev => (dev, .missed none)
  | candidate :: rest, dev =>
      match dev.cuList[candidate.cuId]? with
      | none => (dev, .missed none)
      | some cu =>
          match cu.allocChanClientFromCu prop allocServiceId policyNull none with
          | .allocated cu chanId =>
              (dev.grant prop candidate.cuId cu,
                .acquired (dev.grantedResource devId prop allocServiceId candidate.cuId cu chanId))
          | _ => shareCandidates prop allocServiceId devId rest (dev.dropClient prop.clientId)

namespace System

/-- Allocate an unused CU of the given device or share its least used one. Without a candidate
the client stays registered. -/
def resAllocLeastUsedCuFromDev (s : System) (deviceId : Int) (prop : CuProperty)
    (updateId : Bool) : System × Except XrmError CuResource :=
  match s.registerOn deviceId prop with
  | .error e => (s, .error e)
  | .ok (devId, dev) =>
      let svc := s.getNextAllocServiceId
      match searchCu prop svc policyNull unused devId 0 dev.cuList none with
      | .acquired cuId cu chanId =>
          (s.setDev devId (dev.grant prop cuId cu)).finishAlloc updateId
            (dev.grantedResource devId prop svc cuId cu chanId)
      | .missed _ =>
          match shareCandidates prop svc devId
              (sortCandidates (candidates prop devId 0 dev.cuList)) dev with
          | (dev, .acquired res) => (s.setDev devId dev).finishAlloc updateId res
          | (dev, .missed _) => (s.setDev devId dev, .error .noKernel)

/-! ## Allocation that loads an xclbin -/

/-- The attempt on the device that was just loaded. -/
def allocOnLoaded (s : System) (devId : Nat) (prop : CuProperty) (wanted : CuData → Bool) :
    System × Except XrmError PassResult :=
  match s.devList[devId]? with
  | none => (s, .error .invalid)
  | some dev =>
      match dev.allocClientFromDev prop with
      | .error e => (s, .error e)
      | .ok dev =>
          let svc := s.getNextAllocServiceId
          match dev.settle devId prop svc
              (searchCu prop svc policyNull wanted devId 0 dev.cuList none) with
          | (dev, result) => (s.setDev devId dev, .ok result)

/-- Allocate one CU or, failing that, load the xclbin on some device and allocate there. -/
def resAllocCuWithLoad (s : System) (env : XrtEnv) (prop : CuProperty) (xclbin : String)
    (updateId : Bool) : System × Except XrmError CuResource :=
  if prop.unnamed then (s, .error .invalid)
  else
    match s.allocTwice prop policyNull with
    | (s, .acquired res) => s.finishAlloc updateId res
    | (s, .missed _) =>
        match s.loadAnyDevice env xclbin "" with
        | (s, _, .error e) => (s, .error e)
        | (s, _, .ok devId) =>
            match s.allocOnLoaded devId prop unused with
            | (s, .error e) => (s, .error e)
            | (s, .ok (.missed _)) => (s, .error .noKernel)
            | (s, .ok (.acquired res)) => s.finishAlloc updateId res

/-- The loop that collects the candidates of all devices with the xclbin; the client is
registered on each of them for the time of the search. -/
def collectCandidates (prop : CuProperty) (xclbin : String) :
    List Nat → System → System × List Candidate
  | [], s => (s, [])
  | devId :: devIds, s =>
      match s.devList[devId]? with
      | none => collectCandidates prop xclbin devIds s
      | some dev =>
          if dev.isFreeForClient prop.clientId && dev.xclbinName == xclbin then
            match dev.allocClientFromDev prop with
            | .error _ => collectCandidates prop xclbin devIds s
            | .ok dev =>
                let (s, rest) := collectCandidates prop xclbin devIds
                  (s.setDev devId (dev.dropClient prop.clientId))
                (s, candidates prop devId 0 dev.cuList ++ rest)
          else collectCandidates prop xclbin devIds s

/-- The candidate loop over several devices. -/
def shareAnywhere (prop : CuProperty) (updateId : Bool) :
    List Candidate → System → System × Except XrmError CuResource
  | [], s => (s, .error .noKernel)
  | candidate :: rest, s =>
      match s.devList[candidate.devId]? with
      | none => shareAnywhere prop updateId rest s
      | some dev =>
          match dev.allocClientFromDev prop with
          | .error e =>
              match rest with
              | [] => (s, .error e)
              | _ => shareAnywhere prop updateId rest s
          | .ok dev =>
              let svc := s.getNextAllocServiceId
              match dev.cuList[candidate.cuId]? with
              | none => shareAnywhere prop updateId rest s
              | some cu =>
                  match cu.allocChanClientFromCu prop svc policyNull none with
                  | .allocated cu chanId =>
                      (s.setDev candidate.devId
                          (dev.grant prop candidate.cuId cu)).finishAlloc updateId
                        (dev.grantedResource candidate.devId prop svc candidate.cuId cu chanId)
                  | .refused e =>
                      let s := s.setDev candidate.devId (dev.dropClient prop.clientId)
                      match rest with
                      | [] => (s, .error e)
                      | _ => shareAnywhere prop updateId rest s
                  | .furtherCheck _ =>
                      shareAnywhere prop updateId rest
                        (s.setDev candidate.devId (dev.dropClient prop.clientId))

/-- The last phase of `resAllocCuLeastUsedWithLoad`. -/
def shareLeastUsed (s : System) (prop : CuProperty) (xclbin : String) (updateId : Bool) :
    System × Except XrmError CuResource :=
  let (s, found) := collectCandidates prop xclbin (List.range s.numDevice) s
  shareAnywhere prop updateId (sortCandidates found) s

/-- Allocate an unused CU of a device with the xclbin, or one on a device loaded with it now,
or share the least used one. -/
def resAllocCuLeastUsedWithLoad (s : System) (env : XrtEnv) (prop : CuProperty)
    (xclbin : String) (updateId : Bool) : System × Except XrmError CuResource :=
  if prop.unnamed then (s, .error .invalid)
  else
    match allocPass prop policyNull (fun dev => dev.xclbinName == xclbin) unused
        (List.range s.numDevice) s none with
    | (s, .acquired res) => s.finishAlloc updateId res
    | (s, .missed _) =>
        match s.loadAnyDevice env xclbin "" with
        | (s, _, .error _) => s.shareLeastUsed prop xclbin updateId
        | (s, _, .ok devId) =>
            match s.allocOnLoaded devId prop (fun _ => true) with
            | (s, .ok (.acquired res)) => s.finishAlloc updateId res
            | (s, _) => s.shareLeastUsed prop xclbin updateId

/-! ## Loading a device and taking all of it -/

end System

/-- Take channel 0 of a CU of a device that was just loaded, with the whole load. -/
def CuData.takeWhole (cu : CuData) (allocServiceId clientId : Nat) (clientProcessId : Int) :
    CuData :=
  { cu with
    totalUsedLoadUnified := maxChanLoad
    numChanInuse := 1
    clients := cu.clients.set 0 clientId
    numClient := 1
    channels := cu.channels.modify 0 fun chan =>
      { chan with
        channelLoadUnified := maxChanLoad
        channelLoadOriginal := maxChanLoad100
        allocServiceId := allocServiceId
        clientId := clientId
        clientProcessId := clientProcessId } }

namespace DeviceData

/-- The number of CUs that `resLoadAndAllocAllCu` takes. -/
def allocAllNum (dev : DeviceData) : Nat :=
  if dev.numCu < maxListCuNum then dev.numCu else maxListCuNum

/-- Take the first `allocAllNum` CUs; the client gets one reference for all of them. -/
def allocAllCu (dev : DeviceData) (allocServiceId clientId : Nat) (clientProcessId : Int) :
    DeviceData :=
  { dev with
    clientProcs := dev.clientProcs.set 0
      { clientId := clientId, clientProcessId := clientProcessId, ref := 1 }
    cuList := (dev.cuList.take dev.allocAllNum).map (fun cu : CuData =>
        cu.takeWhole allocServiceId clientId clientProcessId) ++
      dev.cuList.drop dev.allocAllNum }.updateDeviceLoad 0 (maxChanLoad * dev.allocAllNum)

/-- The resource of CU `cuId` in the result. -/
def allocAllResource (dev : DeviceData) (devId allocServiceId clientId : Nat) (cuId : Nat)
    (cu : CuData) : CuResource :=
  dev.locate devId cuId
    (cu.cuResource
      { kernelName := "", kernelAlias := "", cuName := "", devExcl := false
        requestLoadUnified := maxChanLoad, requestLoadOriginal := maxChanLoad100
        clientId := clientId, clientProcessId := 0, poolId := 0 }
      allocServiceId 0)

end DeviceData

namespace System

/-- Load the xclbin on some device and allocate its CUs, at most `maxListCuNum`. -/
def resLoadAndAllocAllCu (s : System) (env : XrtEnv) (xclbin : String) (clientId : Nat)
    (clientProcessId : Int) : System × Except XrmError CuListResource :=
  match s.loadAnyDevice env xclbin "" with
  | (s, _, .error e) => (s, .error e)
  | (s, _, .ok devId) =>
      match s.devList[devId]? with
      | none => (s, .error .invalid)
      | some dev =>
          let svc := s.getNextAllocServiceId
          let cuResources := (dev.cuList.take dev.allocAllNum).zipIdx.map fun (cu, cuId) =>
            dev.allocAllResource devId svc clientId cuId cu
          ((s.setDev devId (dev.allocAllCu svc clientId clientProcessId)).updateAllocServiceId,
            .ok { cuResources := cuResources, cuNum := dev.allocAllNum })

/-! ## Releasing single CUs -/

/-- Release the channel that the record names. -/
def resReleaseCu (s : System) (res : CuResource) : System × Except XrmError Unit :=
  if res.deviceId < 0 ∨ res.deviceId > s.numDevice then (s, .error .invalid)
  else if res.cuId < 0 ∨ res.cuId > maxXilinxKernels then (s, .error .invalid)
  else if res.channelId < 0 ∨ res.channelId > maxKernelChannels then (s, .error .invalid)
  else
    match s.devList[res.deviceId.toNat]? with
    | none => (s, .error .error)
    | some dev =>
        if !dev.isLoaded then (s, .error .error)
        else
          match dev.cuList[res.cuId.toNat]? with
          | none => (s, .error .error)
          | some cu =>
              let (dev, ret) := dev.releaseCu res.cuId.toNat cu res
              (s.setDev res.deviceId.toNat dev, ret)

/-- Release the resources in order, up to the first one that fails. -/
def releaseInOrder : List CuResource → System → System × Except XrmError Unit
  | [], s => (s, .ok ())
  | res :: rest, s =>
      match s.resReleaseCu res with
      | (s, .ok ()) => releaseInOrder rest s
      | (s, .error e) => (s, .error e)

/-- The list and group releases: `maxNum` is the limit of the list. -/
def releaseList (maxNum : Nat) (s : System) (listRes : CuListResource) :
    System × Except XrmError Unit :=
  if listRes.cuNum < 0 ∨ listRes.cuNum > maxNum then (s, .error .invalid)
  else releaseInOrder (listRes.cuResources.take listRes.cuNum.toNat) s

def resReleaseCuList (s : System) (listRes : CuListResource) : System × Except XrmError Unit :=
  releaseList maxListCuNum s listRes

def resReleaseCuListV2 (s : System) (listRes : CuListResource) :
    System × Except XrmError Unit :=
  releaseList maxListCuNumV2 s listRes

def resReleaseCuGroup (s : System) (groupRes : CuListResource) :
    System × Except XrmError Unit :=
  releaseList maxGroupCuNum s groupRes

def resReleaseCuGroupV2 (s : System) (groupRes : CuListResource) :
    System × Except XrmError Unit :=
  releaseList maxGroupCuNumV2 s groupRes

/-! ## Recycling a client -/

/-- `decNumConcurrentClient`. -/
def decNumConcurrentClient (s : System) : System :=
  { s with numConcurrentClient := s.numConcurrentClient - 1 }

/-- The device loop of `recycleResource`. An exclusive device without references ends it. -/
def recycleDevices (clientId : Nat) : List Nat → System → Int → System
  | [], s, _ => s
  | devId :: devIds, s, tmpSum =>
      match s.devList[devId]? with
      | none => recycleDevices clientId devIds s tmpSum
      | some dev =>
          if !dev.isLoaded then recycleDevices clientId devIds s tmpSum
          else
            let (cuList, tmpSum) := DeviceData.recycleReserves clientId dev.cuList tmpSum
            let dev := { dev with cuList := cuList }.updateDeviceLoad tmpSum 0
            if dev.isExcl then
              if dev.holder.ref = 0 then s.setDev devId dev
              else if dev.holder.clientId = clientId then
                let dev := dev.releaseAllCuChanClientOnDev clientId
                recycleDevices clientId devIds
                  (s.setDev devId { dev with
                    isExcl := false
                    clientProcs := List.replicate maxDevClients ClientData.zero })
                  tmpSum
              else recycleDevices clientId devIds (s.setDev devId dev) tmpSum
            else
              recycleDevices clientId devIds
                (s.setDev devId (DeviceData.recycleEntries clientId maxDevClients 0 dev)) tmpSum

/-- Recycle all resources of a client whose connection is broken. -/
def recycleResource (s : System) (clientId : Nat) : System :=
  (recycleDevices clientId (List.range s.numDevice) s 0).decNumConcurrentClient

/-- The clients that `resetDevice` recycles. -/
def clientsOn (dev : DeviceData) : List Nat :=
  if dev.isExcl then
    if dev.holder.clientId ≠ 0 then [dev.holder.clientId] else []
  else (dev.clientProcs.map (·.clientId)).filter (· ≠ 0)

/-- Recycle the clients of the device, unload it and close its handle. -/
def resetDevice (s : System) (env : XrtEnv) (devId : Nat) : System × Except XrmError Unit :=
  match s.devList[devId]? with
  | none => (s, .error .error)
  | some dev =>
      if dev.deviceHandle then
        let s := (clientsOn dev).foldl recycleResource s
        let (s, _, _) := s.unloadOneDevice env devId ""
        match s.devList[devId]? with
        | none => (s, .ok ())
        | some dev => (s.setDev devId { dev with deviceHandle := false }, .ok ())
      else (s, .error .error)

end System

end Xrm
