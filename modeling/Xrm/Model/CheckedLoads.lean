import Xrm.Model.Alloc
import Xrm.Model.Faults

/-! # Faults of the operations that load

The operations that load images on the way, once more with the faults of the loads they make.
-/

namespace Xrm

namespace Checked

/-- The system, the message and the result, where no load has come to a fault. -/
abbrev Loads (α : Type) : Type := Except Fault (System × String × Except XrmError α)

/-- `System.deviceLoadXclbin` -/
def loadXclbin (s : System) (env : XrtEnv) (attempt devId : Nat) (xclbin errmsg : String) :
    Loads Unit :=
  match s.devList[devId]? with
  | none => .ok (s, errmsg, .error .invalid)
  | some dev =>
      (deviceLoadXclbin dev devId env (env.call attempt devId) xclbin errmsg).bind fun r =>
        .ok (s.setDev devId r.1, r.2)

/-! ## Loading on any device -/

def loadUnloaded (env : XrtEnv) (xclbin : String) :
    List Nat → System → String → XrmError → Loads Nat
  | [], s, errmsg, e => .ok (s, errmsg, .error e)
  | devId :: devIds, s, errmsg, e =>
      if (s.devList[devId]?.map (·.isLoaded)).getD false then
        loadUnloaded env xclbin devIds s errmsg e
      else
        (loadXclbin s env 0 devId xclbin errmsg).bind fun
          | (s, errmsg, .ok ()) => .ok (s, errmsg, .ok devId)
          | (s, errmsg, .error e) => loadUnloaded env xclbin devIds s errmsg e

def loadNotBusy (env : XrtEnv) (xclbin : String) :
    List Nat → System → String → XrmError → Loads Nat
  | [], s, errmsg, e => .ok (s, errmsg, .error e)
  | devId :: devIds, s, errmsg, e =>
      if (s.devList[devId]?.map (·.isDeviceBusy)).getD false then
        loadNotBusy env xclbin devIds s errmsg e
      else
        match s.onDevice devId errmsg fun dev =>
            dev.unloadOneDevice devId (env.call 1 devId) errmsg with
        | (s, errmsg, .error _) => loadNotBusy env xclbin devIds s errmsg e
        | (s, errmsg, .ok ()) =>
            (loadXclbin s env 1 devId xclbin errmsg).bind fun
              | (s, errmsg, .ok ()) => .ok (s, errmsg, .ok devId)
              | (s, errmsg, .error e) => loadNotBusy env xclbin devIds s errmsg e

def loadAnyDevice (s : System) (env : XrtEnv) (xclbin errmsg : String) : Loads Nat :=
  let s := s.initDevices env
  if xclbin = "" then
    .ok (s, errmsg ++ "request parameters xclbin is not provided", .error .invalid)
  else
    (loadUnloaded env xclbin (List.range s.numDevice) s "" .error).bind fun
      | (s, _, .ok devId) => .ok (s, errmsg, .ok devId)
      | (s, loadErrmsg, .error e) =>
          (loadNotBusy env xclbin (List.range s.numDevice) s loadErrmsg e).bind fun
            | (s, _, .ok devId) => .ok (s, errmsg, .ok devId)
            | (s, loadErrmsg, .error e) => .ok (s, errmsg ++ loadErrmsg, .error e)

def loadOneDevice (s : System) (env : XrtEnv) (devId : Int) (xclbin errmsg : String) : Loads Nat :=
  let s := s.initDevices env
  if xclbin = "" then
    .ok (s, errmsg ++ "request parameters xclbin is not provided", .error .invalid)
  else if devId < -1 ∨ devId ≥ s.numDevice then
    .ok (s, errmsg ++ "device id is out of range", .error .invalid)
  else if devId ≠ -1 then
    (loadXclbin s env 0 devId.toNat xclbin "").bind fun
      | (s, _, .ok ()) => .ok (s, errmsg, .ok devId.toNat)
      | (s, loadErrmsg, .error e) => .ok (s, errmsg ++ loadErrmsg, .error e)
  else
    (loadAnyDevice s env xclbin "").bind fun
      | (s, _, .ok i) => .ok (s, errmsg, .ok i)
      | (s, loadErrmsg, .error e) => .ok (s, errmsg ++ loadErrmsg, .error e)

/-! ## The entries of a load request -/

def loadAllDevices (env : XrtEnv) (attempt : Nat) (xclbin : String) :
    List Nat → System → String → Loads Unit
  | [], s, loadErrmsg => .ok (s, loadErrmsg, .ok ())
  | devId :: devIds, s, loadErrmsg =>
      (loadXclbin s env attempt devId xclbin loadErrmsg).bind fun
        | (s, loadErrmsg, .ok ()) => loadAllDevices env attempt xclbin devIds s loadErrmsg
        | (s, loadErrmsg, .error e) => .ok (s, loadErrmsg, .error e)

/-! ## Allocations that load -/

def resAllocCuWithLoad (s : System) (env : XrtEnv) (prop : CuProperty) (xclbin : String)
    (updateId : Bool) : Except Fault (System × Except XrmError CuResource) :=
  if prop.unnamed then .ok (s, .error .invalid)
  else
    match s.allocTwice prop policyNull with
    | (s, .acquired res) => .ok (s.finishAlloc updateId res)
    | (s, .missed _) =>
        (loadAnyDevice s env xclbin "").bind fun
          | (s, _, .error e) => .ok (s, .error e)
          | (s, _, .ok devId) =>
              match s.allocOnLoaded devId prop unused with
              | (s, .error e) => .ok (s, .error e)
              | (s, .ok (.missed _)) => .ok (s, .error .noKernel)
              | (s, .ok (.acquired res)) => .ok (s.finishAlloc updateId res)

def resAllocCuLeastUsedWithLoad (s : System) (env : XrtEnv) (prop : CuProperty) (xclbin : String)
    (updateId : Bool) : Except Fault (System × Except XrmError CuResource) :=
  if prop.unnamed then .ok (s, .error .invalid)
  else
    match System.allocPass prop policyNull (fun dev => dev.xclbinName == xclbin) unused
        (List.range s.numDevice) s none with
    | (s, .acquired res) => .ok (s.finishAlloc updateId res)
    | (s, .missed _) =>
        (loadAnyDevice s env xclbin "").bind fun
          | (s, _, .error _) => .ok (s.shareLeastUsed prop xclbin updateId)
          | (s, _, .ok devId) =>
              match s.allocOnLoaded devId prop (fun _ => true) with
              | (s, .ok (.acquired res)) => .ok (s.finishAlloc updateId res)
              | (s, _) => .ok (s.shareLeastUsed prop xclbin updateId)

def resLoadAndAllocAllCu (s : System) (env : XrtEnv) (xclbin : String) (clientId : Nat)
    (clientProcessId : Int) : Except Fault (System × Except XrmError CuListResource) :=
  (loadAnyDevice s env xclbin "").bind fun
    | (s, _, .error e) => .ok (s, .error e)
    | (s, _, .ok devId) =>
        match s.devList[devId]? with
        | none => .ok (s, .error .invalid)
        | some dev =>
            let svc := s.getNextAllocServiceId
            let cuResources := (dev.cuList.take dev.allocAllNum).zipIdx.map fun (cu, cuId) =>
              dev.allocAllResource devId svc clientId cuId cu
            .ok
              ((s.setDev devId (dev.allocAllCu svc clientId clientProcessId)).updateAllocServiceId,
              .ok { cuResources := cuResources, cuNum := dev.allocAllNum })

end Checked

end Xrm
