import Xrm.Model.Device

/-! # Loading and unloading devices

What the XRT driver and the file system answer is a parameter: each operation is given the
outcome of every call it may make.
-/

namespace Xrm

/-! ## Outcomes of the outside calls -/

inductive XclbinFile where
  | missing
  | unreadable
  | image (axlf : Axlf)
  deriving Repr, DecidableEq

/-- The driver's answers during one attempt on one device. -/
structure XrtCall where
  opens : Bool
  lockDevice : Int
  loadXclBin : Int
  ipName2Index : String → Int
  openContext : Int
  closeContext : Int

/-- The outside world during one operation: the number of devices probed, the xclbin files,
and the driver's answers by attempt and device. -/
structure XrtEnv where
  probe : Int
  file : String → XclbinFile
  call : Nat → Nat → XrtCall

/-! ## Hexadecimal text -/

def hexDigit (n : Nat) : Char := "0123456789abcdef".toList.getD n '0'

def binToHexstr (bytes : List UInt8) : String :=
  String.ofList (bytes.flatMap fun b => [hexDigit (b.toNat / 16), hexDigit (b.toNat % 16)])

namespace DeviceData

/-! ## Clearing a device -/

/-- Reset the device record. The flag `isDisabled` and the load record stay. -/
def flushDevData (dev : DeviceData) : DeviceData :=
  { dev with
    xclbinName := ""
    isLoaded := false
    isExcl := false
    memBuffer := none
    deviceHandle := false
    uuid := List.replicate 16 0
    uuidStr := ""
    cuList := []
    memTopologyList := MemTopologyList.zero
    connectList := []
    clientProcs := List.replicate maxDevClients ClientData.zero }

/-- Clear a device that is not busy; its handle stays. -/
def deviceClearInfo (dev : DeviceData) : DeviceData :=
  if dev.isDeviceBusy then dev
  else { dev.flushDevData with deviceHandle := dev.deviceHandle }

def openDevice (dev : DeviceData) (call : XrtCall) : DeviceData :=
  { dev with deviceHandle := call.opens }

/-- The record of a device right after it was probed. -/
def probed (devId : Nat) (call : XrtCall) : DeviceData :=
  openDevice
    { xclbinName := ""
      isDisabled := false
      isLoaded := false
      isExcl := false
      memBuffer := none
      deviceHandle := false
      uuid := List.replicate 16 0
      uuidStr := ""
      cuList := []
      memTopologyList := MemTopologyList.zero
      connectList := []
      clientProcs := List.replicate maxDevClients ClientData.zero
      devLoadInfo := { devLoadRate := 0, deviceId := devId, devCurrentLoad := 0 } }
    call

end DeviceData

/-! ## Reading the layout of an xclbin -/

/-- The CU table under construction. -/
structure Layout where
  cuList : List CuData
  numCu : Nat
  numHardwareCu : Nat
  deriving Repr, DecidableEq

/-- The CU table of a device that is not loaded. -/
def Layout.empty : Layout where
  cuList := List.replicate maxXilinxKernels CuData.blank
  numCu := 0
  numHardwareCu := 0

/-- The fields of a CU entry that the layout sets for every kind of kernel. -/
def CuData.initFromLayout (cu : CuData) (ipLayoutIndex : Nat) (cuType : CuType)
    (cuName kernelName : String) : CuData :=
  { cu with
    ipLayoutIndex := ipLayoutIndex
    cuType := cuType
    cuName := cuName
    kernelName := kernelName
    channels := cuInitChannels
    numChanInuse := 0
    numClient := 0
    totalUsedLoadUnified := 0
    totalReservedLoadUnified := 0
    reserves := List.replicate maxKernelReserves ReserveData.zero
    numReserve := 0 }

/-- The kernel name of `kernelName:instanceName`. -/
def kernelNameOf (cuName : String) : String :=
  String.ofList (cuName.toList.takeWhile (· != ':'))

/-- The instance name of `kernelName:instanceName`. -/
def instanceNameOf (cuName : String) : String :=
  String.ofList (cuName.toList.drop ((kernelNameOf cuName).toList.length + 1))

namespace Layout

/-- Set up entry `i` of the table for an IP of the layout. -/
def placeAt (layout : Layout) (cuType : CuType) (ip : IpData) (i : Nat) : Layout :=
  { layout with
    cuList := layout.cuList.modify i fun cu =>
      { cu.initFromLayout (layout.numCu - 1) cuType ip.name (kernelNameOf ip.name) with
        instanceName := instanceNameOf ip.name
        baseAddr := ip.baseAddress } }

/-- One round of the loops over the IP layout: `base` is where the indices of the kernel
domain start. An error may come with a message. -/
def placeIp (call : XrtCall) (cuType : CuType) (base : Nat) (ip : IpData) (layout : Layout) :
    Layout × Except (Option String) Unit :=
  let layout := { layout with numCu := layout.numCu + 1 }
  if layout.numCu > maxXilinxKernels then
    (layout, .error (some s!"cu number in xclbin is out range of {maxXilinxKernels}"))
  else
    let cuId := call.ipName2Index ip.name
    if cuId < 0 then
      if cuId = XrmError.invalid.code then
        (layout.placeAt cuType ip (layout.numCu - 1), .ok ())
      else (layout, .error none)
    else (layout.placeAt cuType ip (cuId.toNat + base), .ok ())

/-- The loop over the hardware kernels. -/
def placeKernels (call : XrtCall) : List IpData → Layout → Layout × Except (Option String) Unit
  | [], layout => (layout, .ok ())
  | ip :: ips, layout =>
      if ip.ipType = .kernel then
        match placeIp call .ipKernel 0 ip
            { layout with numHardwareCu := layout.numHardwareCu + 1 } with
        | (layout, .ok ()) => placeKernels call ips layout
        | (layout, .error e) => (layout, .error e)
      else placeKernels call ips layout

/-- The loop over the PS kernels. -/
def placePsKernels (call : XrtCall) :
    List IpData → Layout → Layout × Except (Option String) Unit
  | [], layout => (layout, .ok ())
  | ip :: ips, layout =>
      if ip.ipType = .psKernel then
        match placeIp call .ipPsKernel layout.numHardwareCu ip layout with
        | (layout, .ok ()) => placePsKernels call ips layout
        | (layout, .error e) => (layout, .error e)
      else placePsKernels call ips layout

/-- Append `n` CUs of a soft kernel. -/
def placeInstances (name : String) : Nat → Layout → Layout
  | 0, layout => layout
  | n + 1, layout =>
      placeInstances name n
        { layout with
          numCu := layout.numCu + 1
          cuList := layout.cuList.modify layout.numCu fun cu =>
            cu.initFromLayout layout.numCu .softKernel name name }

/-- The loop over the soft-kernel sections. The sum that is checked has 32 bits; when it wraps, the
writes run out of the table and the load ends here. -/
def placeSoftKernels : List SoftKernel → Layout → Layout × Except (Option String) Unit
  | [], layout => (layout, .ok ())
  | sk :: sks, layout =>
      if (layout.numCu + sk.numInstances) % 2 ^ 32 > maxXilinxKernels then
        (layout, .error (some s!"soft kernel number in xclbin is out range of {maxXilinxKernels}"))
      else if layout.numCu + sk.numInstances > maxXilinxKernels then (layout, .error none)
      else placeSoftKernels sks (placeInstances sk.name sk.numInstances layout)

/-- The three loops over the sections of the image. -/
def ofImage (call : XrtCall) (axlf : Axlf) : Layout × Except (Option String) Unit :=
  match axlf.ipLayout with
  | none => (empty, .ok ())
  | some ips =>
      match placeKernels call ips empty with
      | (layout, .error e) => (layout, .error e)
      | (layout, .ok ()) =>
          match placePsKernels call ips layout with
          | (layout, .error e) => (layout, .error e)
          | (layout, .ok ()) => placeSoftKernels axlf.softKernels layout

end Layout

/-- The image has a hardware or PS kernel. -/
def hardwareKernelExisting (axlf : Axlf) : Bool :=
  match axlf.ipLayout with
  | none => false
  | some ips => ips.any fun ip => ip.ipType != .other

namespace MemTopology

/-- What the file holds in the place of bank `index`. -/
def entry (topology : MemTopology) (index : Nat) : MemData :=
  (topology.banks ++ [topology.behind, { MemData.zero with memType := topology.behindType }]).getD
    index MemData.zero

/-- Copy bank `i`. The copy of its tag has 64 bytes in place of 16: it goes on over the next entry
and the type of the one after that, with what follows in the file. -/
def copyBank (topology : MemTopology) (list : MemTopologyList) (i : Nat) : MemTopologyList :=
  ((list.set i (topology.entry i)).set (i + 1) (topology.entry (i + 1))).setType (i + 2)
    (topology.entry (i + 2)).memType

end MemTopology

namespace DeviceData

/-- Read the CU table. The load rate is set while `numCu` may still be 0, where the division
of the source is undefined and the one here gives 0. -/
def xclbinGetLayout (dev : DeviceData) (call : XrtCall) (axlf : Axlf) (errmsg : String) :
    DeviceData × String × Except XrmError Unit :=
  match Layout.ofImage call axlf with
  | (layout, .error e) =>
      ({ dev with cuList := layout.cuList.take layout.numCu }, e.getD errmsg, .error .error)
  | (layout, .ok ()) =>
      let dev := { dev with cuList := layout.cuList.take layout.numCu }.updateDeviceLoad 0 0
      if hardwareKernelExisting axlf then (dev, errmsg, .ok ())
      else (dev, "No hardware kernel existing in xclbin", .error .error)

def xclbinGetUuid (dev : DeviceData) (axlf : Axlf) : DeviceData :=
  { dev with uuid := axlf.uuid, uuidStr := dev.uuidStr ++ binToHexstr axlf.uuid }

def xclbinGetMemTopology (dev : DeviceData) (axlf : Axlf) : DeviceData :=
  match axlf.memTopology with
  | some topology =>
      { dev with
        memTopologyList :=
          (List.range topology.banks.length).foldl topology.copyBank dev.memTopologyList }
  | none => dev

def xclbinGetConnectivity (dev : DeviceData) (axlf : Axlf) : DeviceData :=
  match axlf.connectivity with
  | some connections => { dev with connectList := connections }
  | none => dev

end DeviceData

/-- Set alias, plugin and capacity of a CU of the kernel; texts that are not given stay. -/
def CuData.setKeyValue (kv : KeyValue) (cu : CuData) : CuData :=
  if kv.key ≠ "" ∧ kv.key = cu.kernelName then
    { cu with
      kernelAlias := if kv.aliasName = "" then cu.kernelAlias else kv.aliasName
      kernelPluginFileName := if kv.plugin = "" then cu.kernelPluginFileName else kv.plugin
      maxCapacity := kv.maxCapacity.getD cu.maxCapacity }
  else cu

/-- Attach the bank of a connection to the CU of its layout index. -/
def CuData.setMemBank (list : MemTopologyList) (cu : CuData) (conn : Connection) : CuData :=
  if conn.ipLayoutIndex = cu.ipLayoutIndex then
    let bank := list.entry conn.memDataIndex.toNat
    { cu with
      membankId := conn.memDataIndex
      membankType := bank.memType
      membankSize := bank.memSize
      membankBaseAddr := bank.memBaseAddress }
  else cu

namespace DeviceData

def xclbinGetKeyvalues (dev : DeviceData) (axlf : Axlf) (errmsg : String) :
    DeviceData × String × Except XrmError Unit :=
  match axlf.keyvalueMetadata with
  | .absent => (dev, errmsg, .ok ())
  | .malformed message =>
      (dev, "Keyvalues metadata Json format is not right: " ++ message, .error .invalid)
  -- only `main` catches the exception of the reader, and the daemon ends
  | .incomplete => (dev, errmsg, .error .error)
  | .entries kvs =>
      ({ dev with
          cuList := dev.cuList.map fun cu => kvs.foldl (fun cu kv => cu.setKeyValue kv) cu },
        errmsg, .ok ())

def xclbinGetInfo (dev : DeviceData) (call : XrtCall) (axlf : Axlf) (errmsg : String) :
    DeviceData × String × Except XrmError Unit :=
  match dev.xclbinGetLayout call axlf errmsg with
  | (dev, errmsg, .error _) => (dev, errmsg, .error .error)
  | (dev, errmsg, .ok ()) =>
      let dev := ((dev.xclbinGetUuid axlf).xclbinGetMemTopology axlf).xclbinGetConnectivity axlf
      match dev.xclbinGetKeyvalues axlf errmsg with
      | (dev, errmsg, .error _) => (dev, errmsg, .error .error)
      | (dev, errmsg, .ok ()) =>
          ({ dev with
              cuList := dev.cuList.map fun cu =>
                dev.connectList.foldl (CuData.setMemBank dev.memTopologyList) cu },
            errmsg, .ok ())

/-- Load the image on the device under the driver's lock; the unlock is not checked. -/
def xclbinLoadToDevice (devId : Nat) (call : XrtCall) (errmsg : String) :
    String × Except Int Unit :=
  if call.lockDevice ≠ 0 then (s!"Failed to lock device {devId}", .error call.lockDevice)
  else if call.loadXclBin ≠ 0 then
    (s!"xclLoadXclBin failed, rc = {call.loadXclBin}", .error call.loadXclBin)
  else (errmsg, .ok ())

/-- The end of every error text of `deviceLoadXclbin`. -/
def loadFailure (devId : Nat) (xclbin : String) : String :=
  ", failed to load " ++ xclbin ++ s!" to device {devId}"

/-- The error of `deviceLoadXclbin` on a device that is loaded already, if any. -/
def deviceReloadXclbin (dev : DeviceData) (devId : Nat) (env : XrtEnv) (xclbin errmsg : String) :
    String × Except XrmError Unit :=
  match env.file xclbin with
  | .missing =>
      ("Failed to open xclbin file " ++ xclbin ++ loadFailure devId xclbin, .error .error)
  | .unreadable =>
      ("Failed to read xclbin file " ++ xclbin ++ loadFailure devId xclbin, .error .error)
  | .image axlf =>
      let uuidStr := binToHexstr axlf.uuid
      if uuidStr = dev.uuidStr then (errmsg, .ok ())
      else
        (s!"device {devId} is already loaded with xclbin (" ++ dev.xclbinName ++ " uuid: " ++
            dev.uuidStr ++ "), failed to load " ++ xclbin ++ " (uuid: " ++ uuidStr ++
            s!") to device {devId}",
          .error .error)

/-- Load the xclbin file on the device; a failure leaves it cleared. -/
def deviceLoadXclbin (dev : DeviceData) (devId : Nat) (env : XrtEnv) (call : XrtCall)
    (xclbin errmsg : String) : DeviceData × String × Except XrmError Unit :=
  if dev.isDisabled then
    (dev, s!"device {devId} is disabled" ++ loadFailure devId xclbin, .error .error)
  else if dev.isLoaded then
    (dev, dev.deviceReloadXclbin devId env xclbin errmsg)
  else
    let dev := if dev.deviceHandle then dev else dev.openDevice call
    match env.file xclbin with
    | .missing =>
        (dev.deviceClearInfo,
          "Failed to open xclbin file " ++ xclbin ++ loadFailure devId xclbin, .error .error)
    | .unreadable =>
        (dev.deviceClearInfo,
          "Failed to read xclbin file " ++ xclbin ++ loadFailure devId xclbin, .error .error)
    | .image axlf =>
        let dev := { dev with memBuffer := some axlf }
        match xclbinLoadToDevice devId call errmsg with
        | (errmsg, .error _) =>
            (dev.deviceClearInfo, errmsg ++ loadFailure devId xclbin, .error .error)
        | (errmsg, .ok ()) =>
            match dev.xclbinGetInfo call axlf errmsg with
            | (dev, errmsg, .error _) =>
                (dev.deviceClearInfo, errmsg ++ loadFailure devId xclbin, .error .error)
            | (dev, errmsg, .ok ()) =>
                if call.openContext ≠ 0 then
                  (dev.deviceClearInfo,
                    errmsg ++ "Unable to lock device" ++ loadFailure devId xclbin, .error .error)
                else
                  ({ dev with memBuffer := none, xclbinName := xclbin, isLoaded := true },
                    errmsg, .ok ())

/-- Unload the device; a busy one is refused. -/
def unloadOneDevice (dev : DeviceData) (devId : Nat) (call : XrtCall) (errmsg : String) :
    DeviceData × String × Except XrmError Unit :=
  if !dev.isLoaded then (dev.deviceClearInfo, errmsg, .ok ())
  else if dev.isDeviceBusy then (dev, s!"Device  {devId} is busy", .error .deviceIsBusy)
  else if call.closeContext ≠ 0 then
    (dev, s!"Fail to unlock xclbin from device  {devId}", .error .deviceIsLocked)
  else (dev.deviceClearInfo, errmsg, .ok ())

/-- Disable the device, unloading it first. -/
def disableOneDevice (dev : DeviceData) (devId : Nat) (call : XrtCall) (errmsg : String) :
    DeviceData × String × Except XrmError Unit :=
  if dev.isDisabled then (dev, errmsg, .ok ())
  else if !dev.isLoaded then ({ dev with isDisabled := true }, errmsg, .ok ())
  else if dev.isDeviceBusy then (dev, s!"Device  {devId} is busy", .error .deviceIsBusy)
  else if call.closeContext ≠ 0 then
    (dev, s!"Fail to unlock xclbin from device  {devId}", .error .deviceIsLocked)
  else ({ dev.deviceClearInfo with isDisabled := true }, errmsg, .ok ())

end DeviceData

/-! ## The device table -/

namespace System

def setDev (s : System) (devId : Nat) (dev : DeviceData) : System :=
  { s with devList := s.devList.set devId dev }

/-- Probe the devices at their first use. -/
def initDevices (s : System) (env : XrtEnv) : System :=
  if s.devicesInited then s
  else if env.probe ≤ 0 ∨ env.probe > maxXilinxDevices then { s with devicesInited := true }
  else
    { s with
      devicesInited := true
      devList := (List.range env.probe.toNat).map fun devId =>
        DeviceData.probed devId (env.call 0 devId) }

/-- A device number of a request that exists. -/
def devIndex (s : System) (devId : Int) : Option Nat :=
  if 0 ≤ devId ∧ devId < s.numDevice then some devId.toNat else none

/-- The error text for a device number that does not exist. -/
def invalidDevice (devId : Int) : String := s!"Invalid device id [{devId}] passed in"

/-- Run a device function on device `devId`. -/
def onDevice (s : System) (devId : Nat) (errmsg : String)
    (f : DeviceData → DeviceData × String × Except XrmError Unit) :
    System × String × Except XrmError Unit :=
  match s.devList[devId]? with
  | none => (s, errmsg, .error .invalid)
  | some dev =>
      match f dev with
      | (dev, errmsg, ret) => (s.setDev devId dev, errmsg, ret)

def unloadOneDevice (s : System) (env : XrtEnv) (devId : Int) (errmsg : String) :
    System × String × Except XrmError Unit :=
  let s := s.initDevices env
  match s.devIndex devId with
  | none => (s, invalidDevice devId, .error .invalid)
  | some i => s.onDevice i errmsg fun dev => dev.unloadOneDevice i (env.call 0 i) errmsg

def enableOneDevice (s : System) (env : XrtEnv) (devId : Int) (errmsg : String) :
    System × String × Except XrmError Unit :=
  let s := s.initDevices env
  match s.devIndex devId with
  | none => (s, invalidDevice devId, .error .invalid)
  | some i => s.onDevice i errmsg fun dev => ({ dev with isDisabled := false }, errmsg, .ok ())

def disableOneDevice (s : System) (env : XrtEnv) (devId : Int) (errmsg : String) :
    System × String × Except XrmError Unit :=
  let s := s.initDevices env
  match s.devIndex devId with
  | none => (s, invalidDevice devId, .error .invalid)
  | some i => s.onDevice i errmsg fun dev => dev.disableOneDevice i (env.call 0 i) errmsg

/-- Load the xclbin on device `devId`, as the `attempt`-th attempt of the operation. -/
def deviceLoadXclbin (s : System) (env : XrtEnv) (attempt devId : Nat)
    (xclbin errmsg : String) : System × String × Except XrmError Unit :=
  s.onDevice devId errmsg fun dev =>
    dev.deviceLoadXclbin devId env (env.call attempt devId) xclbin errmsg

/-! ## Loading on any device -/

/-- The first loop of `loadAnyDevice`, over the devices that are not loaded. -/
def loadUnloaded (env : XrtEnv) (xclbin : String) :
    List Nat → System → String → XrmError → System × String × Except XrmError Nat
  | [], s, errmsg, e => (s, errmsg, .error e)
  | devId :: devIds, s, errmsg, e =>
      if (s.devList[devId]?.map (·.isLoaded)).getD false then
        loadUnloaded env xclbin devIds s errmsg e
      else
        match s.deviceLoadXclbin env 0 devId xclbin errmsg with
        | (s, errmsg, .ok ()) => (s, errmsg, .ok devId)
        | (s, errmsg, .error e) => loadUnloaded env xclbin devIds s errmsg e

/-- The second loop of `loadAnyDevice`, over the devices that are not busy. -/
def loadNotBusy (env : XrtEnv) (xclbin : String) :
    List Nat → System → String → XrmError → System × String × Except XrmError Nat
  | [], s, errmsg, e => (s, errmsg, .error e)
  | devId :: devIds, s, errmsg, e =>
      if (s.devList[devId]?.map (·.isDeviceBusy)).getD false then
        loadNotBusy env xclbin devIds s errmsg e
      else
        match s.onDevice devId errmsg fun dev =>
            dev.unloadOneDevice devId (env.call 1 devId) errmsg with
        | (s, errmsg, .error _) => loadNotBusy env xclbin devIds s errmsg e
        | (s, errmsg, .ok ()) =>
            match s.deviceLoadXclbin env 1 devId xclbin errmsg with
            | (s, errmsg, .ok ()) => (s, errmsg, .ok devId)
            | (s, errmsg, .error e) => loadNotBusy env xclbin devIds s errmsg e

/-- Load the xclbin on a device that is not loaded or, failing that, on one not in use. -/
def loadAnyDevice (s : System) (env : XrtEnv) (xclbin errmsg : String) :
    System × String × Except XrmError Nat :=
  let s := s.initDevices env
  if xclbin = "" then
    (s, errmsg ++ "request parameters xclbin is not provided", .error .invalid)
  else
    match loadUnloaded env xclbin (List.range s.numDevice) s "" .error with
    | (s, _, .ok devId) => (s, errmsg, .ok devId)
    | (s, loadErrmsg, .error e) =>
        match loadNotBusy env xclbin (List.range s.numDevice) s loadErrmsg e with
        | (s, _, .ok devId) => (s, errmsg, .ok devId)
        | (s, loadErrmsg, .error e) => (s, errmsg ++ loadErrmsg, .error e)

/-- Load one device: the given one, or any when the number is -1. -/
def loadOneDevice (s : System) (env : XrtEnv) (devId : Int) (xclbin errmsg : String) :
    System × String × Except XrmError Nat :=
  let s := s.initDevices env
  if xclbin = "" then
    (s, errmsg ++ "request parameters xclbin is not provided", .error .invalid)
  else if devId < -1 ∨ devId ≥ s.numDevice then
    (s, errmsg ++ "device id is out of range", .error .invalid)
  else if devId ≠ -1 then
    match s.deviceLoadXclbin env 0 devId.toNat xclbin "" with
    | (s, _, .ok ()) => (s, errmsg, .ok devId.toNat)
    | (s, loadErrmsg, .error e) => (s, errmsg ++ loadErrmsg, .error e)
  else
    match s.loadAnyDevice env xclbin "" with
    | (s, _, .ok i) => (s, errmsg, .ok i)
    | (s, loadErrmsg, .error e) => (s, errmsg ++ loadErrmsg, .error e)

/-- The loop of `loadDevices` over all devices, which stops at the first failure. -/
def loadAllDevices (env : XrtEnv) (attempt : Nat) (xclbin : String) :
    List Nat → System → String → String → Except XrmError Unit →
      System × String × String × Except XrmError Unit
  | [], s, errmsg, loadErrmsg, ret => (s, errmsg, loadErrmsg, ret)
  | devId :: devIds, s, errmsg, loadErrmsg, _ =>
      match s.deviceLoadXclbin env attempt devId xclbin loadErrmsg with
      | (s, loadErrmsg, .ok ()) =>
          loadAllDevices env attempt xclbin devIds s errmsg loadErrmsg (.ok ())
      | (s, loadErrmsg, .error e) => (s, errmsg ++ loadErrmsg, loadErrmsg, .error e)

/-- The loop of `loadDevices` over the entries of the request, each with its device and its
xclbin, either of them missing when empty. A failure on one device of an entry for all
devices ends that entry only. -/
def loadEntries (env : XrtEnv) :
    Nat → List (Option Int × String) → System → String → String → Except XrmError Unit →
      System × String × Except XrmError Unit
  | _, [], s, errmsg, _, ret => (s, errmsg, ret)
  | attempt, (device, xclbin) :: entries, s, errmsg, loadErrmsg, ret =>
      match device with
      | none => (s, errmsg ++ "request parameters device is not provided", .error .invalid)
      | some devId =>
          if devId < -2 ∨ devId = -1 ∨ devId ≥ s.numDevice then
            (s, errmsg ++ s!"device {devId} not found", .error .invalid)
          else if xclbin = "" then
            (s, errmsg ++ "request parameters xclbin is not provided", .error .invalid)
          else if devId = -2 then
            match loadAllDevices env attempt xclbin (List.range s.numDevice) s errmsg loadErrmsg
                ret with
            | (s, errmsg, loadErrmsg, ret) =>
                loadEntries env (attempt + 1) entries s errmsg loadErrmsg ret
          else
            match s.deviceLoadXclbin env attempt devId.toNat xclbin loadErrmsg with
            | (s, loadErrmsg, .ok ()) =>
                loadEntries env (attempt + 1) entries s errmsg loadErrmsg (.ok ())
            | (s, loadErrmsg, .error e) => (s, errmsg ++ loadErrmsg, .error e)

def loadDevices (s : System) (env : XrtEnv) (entries : List (Option Int × String))
    (errmsg : String) : System × String × Except XrmError Unit :=
  loadEntries env 0 entries (s.initDevices env) errmsg "" (.error .error)

end System

end Xrm
