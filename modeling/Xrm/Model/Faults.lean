import Xrm.Model.Load

/-! # Faults of a load

The functions that load an image once more, with the accesses to the fixed arrays, the division,
the release of the buffer and the exception that the source does not check. Behind a fault the
behaviour of the daemon is undefined, or it has ended, so the load ends there.
-/

namespace Xrm

def maxRegsPerIp : Nat := 1
def maxConnectionEntries : Nat := maxDdrMap * maxXilinxKernels * maxRegsPerIp

inductive FixedArray where
  | cuList
  | memTopologyList
  | connectList
  deriving Repr, DecidableEq

def FixedArray.size : FixedArray → Nat
  | .cuList => maxXilinxKernels
  | .memTopologyList => maxDdrMap
  | .connectList => maxConnectionEntries

inductive Fault where
  | divisionByZero
  | outside (array : FixedArray) (index : Int)
  | freedTwice
  | uncaught
  deriving Repr, DecidableEq

namespace FixedArray

/-- Access the entry at `index`. -/
def access (array : FixedArray) (index : Int) : Except Fault Unit :=
  if 0 ≤ index ∧ index < array.size then .ok () else .error (.outside array index)

/-- Access the entries from `index` on, `n` of them in their order. -/
def accessFrom (array : FixedArray) : Nat → Nat → Except Fault Unit
  | _, 0 => .ok ()
  | index, n + 1 => (array.access index).bind fun _ => array.accessFrom (index + 1) n

end FixedArray

namespace Checked

/-! ## Reading the layout -/

def placeAt (layout : Layout) (cuType : CuType) (ip : IpData) (i : Nat) :
    Except Fault (Layout × Except (Option String) Unit) :=
  (FixedArray.cuList.access i).bind fun _ => .ok (layout.placeAt cuType ip i, .ok ())

def placeIp (call : XrtCall) (cuType : CuType) (base : Nat) (ip : IpData) (layout : Layout) :
    Except Fault (Layout × Except (Option String) Unit) :=
  let layout := { layout with numCu := layout.numCu + 1 }
  if layout.numCu > maxXilinxKernels then
    .ok (layout, .error (some s!"cu number in xclbin is out range of {maxXilinxKernels}"))
  else
    let cuId := call.ipName2Index ip.name
    if cuId < 0 then
      if cuId = XrmError.invalid.code then placeAt layout cuType ip (layout.numCu - 1)
      else .ok (layout, .error none)
    else placeAt layout cuType ip (cuId.toNat + base)

def placeKernels (call : XrtCall) :
    List IpData → Layout → Except Fault (Layout × Except (Option String) Unit)
  | [], layout => .ok (layout, .ok ())
  | ip :: ips, layout =>
      if ip.ipType = .kernel then
        (placeIp call .ipKernel 0 ip
            { layout with numHardwareCu := layout.numHardwareCu + 1 }).bind fun
          | (layout, .ok ()) => placeKernels call ips layout
          | (layout, .error e) => .ok (layout, .error e)
      else placeKernels call ips layout

def placePsKernels (call : XrtCall) :
    List IpData → Layout → Except Fault (Layout × Except (Option String) Unit)
  | [], layout => .ok (layout, .ok ())
  | ip :: ips, layout =>
      if ip.ipType = .psKernel then
        (placeIp call .ipPsKernel layout.numHardwareCu ip layout).bind fun
          | (layout, .ok ()) => placePsKernels call ips layout
          | (layout, .error e) => .ok (layout, .error e)
      else placePsKernels call ips layout

def placeInstances (name : String) : Nat → Layout → Except Fault Layout
  | 0, layout => .ok layout
  | n + 1, layout =>
      (FixedArray.cuList.access layout.numCu).bind fun _ =>
        placeInstances name n
          { layout with
            numCu := layout.numCu + 1
            cuList := layout.cuList.modify layout.numCu fun cu =>
              cu.initFromLayout layout.numCu .softKernel name name }

/-- The loop over the soft-kernel sections. The sum that is checked has 32 bits. -/
def placeSoftKernels :
    List SoftKernel → Layout → Except Fault (Layout × Except (Option String) Unit)
  | [], layout => .ok (layout, .ok ())
  | sk :: sks, layout =>
      if (layout.numCu + sk.numInstances) % 2 ^ 32 > maxXilinxKernels then
        .ok (layout,
          .error (some s!"soft kernel number in xclbin is out range of {maxXilinxKernels}"))
      else (placeInstances sk.name sk.numInstances layout).bind (placeSoftKernels sks)

def ofImage (call : XrtCall) (axlf : Axlf) :
    Except Fault (Layout × Except (Option String) Unit) :=
  match axlf.ipLayout with
  | none => .ok (Layout.empty, .ok ())
  | some ips =>
      (placeKernels call ips Layout.empty).bind fun
        | (layout, .error e) => .ok (layout, .error e)
        | (layout, .ok ()) =>
            (placePsKernels call ips layout).bind fun
              | (layout, .error e) => .ok (layout, .error e)
              | (layout, .ok ()) => placeSoftKernels axlf.softKernels layout

/-- What reading an image gives: the device, its `numCu`, the message and the result. -/
abbrev Read : Type := DeviceData × Nat × String × Except XrmError Unit

def xclbinGetLayout (dev : DeviceData) (call : XrtCall) (axlf : Axlf) (errmsg : String) :
    Except Fault Read :=
  (ofImage call axlf).bind fun
    | (layout, .error e) =>
        .ok ({ dev with cuList := layout.cuList.take layout.numCu }, layout.numCu, e.getD errmsg,
          .error .error)
    | (layout, .ok ()) =>
        -- `updateDeviceLoad` divides by `numCu`
        if layout.numCu = 0 then .error .divisionByZero
        else
          let dev := { dev with cuList := layout.cuList.take layout.numCu }.updateDeviceLoad 0 0
          if hardwareKernelExisting axlf then .ok (dev, layout.numCu, errmsg, .ok ())
          else .ok (dev, layout.numCu, "No hardware kernel existing in xclbin", .error .error)

/-! ## The other sections -/

/-- Bank `i` is written into its entry and over the next two. -/
def copyBank (topology : MemTopology) (list : MemTopologyList) (i : Nat) :
    Except Fault MemTopologyList :=
  (FixedArray.memTopologyList.accessFrom i 3).bind fun _ => .ok (topology.copyBank list i)

def xclbinGetMemTopology (dev : DeviceData) (axlf : Axlf) : Except Fault DeviceData :=
  match axlf.memTopology with
  | some topology =>
      ((List.range topology.banks.length).foldlM (copyBank topology) dev.memTopologyList).bind
        fun list => .ok { dev with memTopologyList := list }
  | none => .ok dev

def xclbinGetConnectivity (dev : DeviceData) (axlf : Axlf) : Except Fault DeviceData :=
  (FixedArray.connectList.accessFrom 0 (axlf.connectivity.getD []).length).bind fun _ =>
    .ok (dev.xclbinGetConnectivity axlf)

def setMemBank (list : MemTopologyList) (cu : CuData) (conn : Connection) :
    Except Fault CuData :=
  if conn.ipLayoutIndex = cu.ipLayoutIndex then
    (FixedArray.memTopologyList.access conn.memDataIndex).bind fun _ =>
      .ok (cu.setMemBank list conn)
  else .ok cu

/-- The keyvalue metadata, whose reader may throw. -/
def xclbinGetKeyvalues (dev : DeviceData) (axlf : Axlf) (errmsg : String) :
    Except Fault (DeviceData × String × Except XrmError Unit) :=
  if axlf.keyvalueMetadata = .incomplete then .error .uncaught
  else .ok (dev.xclbinGetKeyvalues axlf errmsg)

def xclbinGetInfo (dev : DeviceData) (call : XrtCall) (axlf : Axlf) (errmsg : String) :
    Except Fault Read :=
  (xclbinGetLayout dev call axlf errmsg).bind fun
    | (dev, numCu, errmsg, .error _) => .ok (dev, numCu, errmsg, .error .error)
    | (dev, numCu, errmsg, .ok ()) =>
        (xclbinGetMemTopology (dev.xclbinGetUuid axlf) axlf).bind fun dev =>
          (xclbinGetConnectivity dev axlf).bind fun dev =>
            (xclbinGetKeyvalues dev axlf errmsg).bind fun
              | (dev, errmsg, .error _) => .ok (dev, numCu, errmsg, .error .error)
              | (dev, errmsg, .ok ()) =>
                  (dev.cuList.mapM fun cu =>
                      dev.connectList.foldlM (setMemBank dev.memTopologyList) cu).bind
                    fun cuList => .ok ({ dev with cuList := cuList }, numCu, errmsg, .ok ())

/-! ## Clearing -/

/-- The scan of `isDeviceBusy`, from CU `cuId` on and over `n` of them. -/
def scanBusy (dev : DeviceData) : Nat → Nat → Except Fault Bool
  | _, 0 => .ok false
  | cuId, n + 1 =>
      (FixedArray.cuList.access cuId).bind fun _ =>
        if (dev.cuList[cuId]?.map CuData.totalUsedLoadUnified).getD 0 ≠ 0 then .ok true
        else scanBusy dev (cuId + 1) n

/-- Clear a device with `numCu` CUs. The buffer may have been freed already. -/
def deviceClearInfo (dev : DeviceData) (numCu : Nat) (bufferFreed : Bool) :
    Except Fault DeviceData :=
  (scanBusy dev 0 numCu).bind fun busy =>
    if busy then .ok dev
    else if bufferFreed then .error .freedTwice
    else .ok { dev.flushDevData with deviceHandle := dev.deviceHandle }

/-! ## Loading -/

/-- What follows the reading of an image. -/
def afterRead (call : XrtCall) (devId : Nat) (xclbin : String) :
    Read → Except Fault (DeviceData × String × Except XrmError Unit)
  | (dev, numCu, errmsg, .error _) =>
      (deviceClearInfo dev numCu false).bind fun dev =>
        .ok (dev, errmsg ++ DeviceData.loadFailure devId xclbin, .error .error)
  | (dev, numCu, errmsg, .ok ()) =>
      if call.openContext ≠ 0 then
        (deviceClearInfo dev numCu false).bind fun dev =>
          .ok (dev, errmsg ++ "Unable to lock device" ++ DeviceData.loadFailure devId xclbin,
            .error .error)
      else
        .ok ({ dev with memBuffer := none, xclbinName := xclbin, isLoaded := true }, errmsg, .ok ())

def deviceLoadXclbin (dev : DeviceData) (devId : Nat) (env : XrtEnv) (call : XrtCall)
    (xclbin errmsg : String) : Except Fault (DeviceData × String × Except XrmError Unit) :=
  if dev.isDisabled then
    .ok (dev, s!"device {devId} is disabled" ++ DeviceData.loadFailure devId xclbin, .error .error)
  else if dev.isLoaded then
    .ok (dev, dev.deviceReloadXclbin devId env xclbin errmsg)
  else
    let dev := if dev.deviceHandle then dev else dev.openDevice call
    match env.file xclbin with
    | .missing =>
        (deviceClearInfo dev dev.numCu false).bind fun dev =>
          .ok (dev, "Failed to open xclbin file " ++ xclbin ++ DeviceData.loadFailure devId xclbin,
            .error .error)
    | .unreadable =>
        -- `xclbinReadFile` frees the buffer and leaves the pointer
        (deviceClearInfo dev dev.numCu true).bind fun dev =>
          .ok (dev, "Failed to read xclbin file " ++ xclbin ++ DeviceData.loadFailure devId xclbin,
            .error .error)
    | .image axlf =>
        let dev := { dev with memBuffer := some axlf }
        match DeviceData.xclbinLoadToDevice devId call errmsg with
        | (errmsg, .error _) =>
            (deviceClearInfo dev dev.numCu false).bind fun dev =>
              .ok (dev, errmsg ++ DeviceData.loadFailure devId xclbin, .error .error)
        | (errmsg, .ok ()) =>
            (xclbinGetInfo dev call axlf errmsg).bind (afterRead call devId xclbin)

end Checked

end Xrm
