import Xrm.Model.Alloc

/-! # Allocating lists and groups of CUs -/

namespace Xrm

/-- The entries of the list that its count covers. -/
def CuListProperty.items (listProp : CuListProperty) : List CuProperty :=
  listProp.cuProps.take listProp.cuNum.toNat

def CuListPropertyV2.items (listProp : CuListPropertyV2) : List CuPropertyV2 :=
  listProp.cuProps.take listProp.cuNum.toNat

/-- The result list of a successful allocation. -/
def listResource (cuResources : List CuResource) : CuListResource where
  cuResources := cuResources
  cuNum := cuResources.length

namespace System

/-! ## Several CUs on one device -/

/-- `allocCuFromDev`: one CU of a device on which the client is registered. -/
def allocCuFromDev (s : System) (devId : Nat) (dev : DeviceData) (prop : CuProperty) :
    Except XrmError (DeviceData × CuResource) :=
  if prop.unnamed then .error .invalid
  else
    match searchCuTwice prop s.getNextAllocServiceId policyNull devId dev.cuList with
    | .acquired cuId cu chanId =>
        .ok (dev.grant prop cuId cu,
          dev.grantedResource devId prop s.getNextAllocServiceId cuId cu chanId)
    | .missed _ => .error .noKernel

/-- The item loop of the same-device allocations. `done` are the items allocated so far; they
are released when an item fails. -/
def allocItemsOnDev (devId : Nat) :
    List CuProperty → System → List CuResource → System × Option (List CuResource)
  | [], s, done => (s, some done)
  | prop :: props, s, done =>
      match s.devList[devId]? with
      | none => ((releaseInOrder done s).1, none)
      | some dev =>
          match dev.allocClientFromDev prop with
          | .error _ => ((releaseInOrder done s).1, none)
          | .ok dev =>
              match s.allocCuFromDev devId dev prop with
              | .ok (dev, res) =>
                  allocItemsOnDev devId props (s.setDev devId dev) (done ++ [res])
              | .error _ =>
                  ((releaseInOrder done (s.setDev devId (dev.dropClient prop.clientId))).1, none)

/-- The device loop of the same-device allocations: the devices free for the client of the
first item and not in `usedDevIds`. -/
def allocOnSameDevice (props : List CuProperty) (usedDevIds : List Nat) :
    List Nat → System → System × Option (Nat × List CuResource)
  | [], s => (s, none)
  | devId :: devIds, s =>
      let clientId := (props.head?.map (·.clientId)).getD 0
      let isFree := (s.devList[devId]?.map (·.isFreeForClient clientId)).getD false
      if isFree && !usedDevIds.contains devId then
        match allocItemsOnDev devId props s [] with
        | (s, some done) => (s, some (devId, done))
        | (s, none) => allocOnSameDevice props usedDevIds devIds s
      else allocOnSameDevice props usedDevIds devIds s

/-! ## Lists -/

/-- The item loop of a list whose items may come from any device. -/
def allocItems : List CuProperty → System → List CuResource → System × Option (List CuResource)
  | [], s, done => (s, some done)
  | prop :: props, s, done =>
      match s.resAllocCu prop false with
      | (s, .ok res) => allocItems props s (done ++ [res])
      | (s, .error _) => ((releaseInOrder done s).1, none)

/-- Allocate a list of CUs. -/
def resAllocCuList (s : System) (listProp : CuListProperty) :
    System × Except XrmError CuListResource :=
  if listProp.cuNum ≤ 0 ∨ listProp.cuNum > maxListCuNum then (s, .error .invalid)
  else if listProp.sameDevice then
    match allocOnSameDevice listProp.items [] (List.range s.numDevice) s with
    | (s, some (_, done)) => (s.updateAllocServiceId, .ok (listResource done))
    | (s, none) => (s, .error .noKernel)
  else
    match allocItems listProp.items s [] with
    | (s, some done) => (s.updateAllocServiceId, .ok (listResource done))
    | (s, none) => (s, .error .noKernel)

/-! ## Lists with device constraints -/

structure ItemFlag where
  handled : Bool
  allocated : Bool
  deriving Repr, DecidableEq

/-- The state of the item loop: the flags and results by item, and the devices of the
virtual indices so far. -/
structure ListV2State where
  s : System
  itemFlags : List ItemFlag
  cuResources : List CuResource
  usedDevIds : List Nat

/-- The items after `index` that have the same virtual device index and are not handled. -/
def subListIndices (props : List CuPropertyV2) (itemFlags : List ItemFlag) (deviceIndex : Nat)
    (indices : List Nat) : List Nat :=
  indices.filter fun i =>
    !(itemFlags.getD i ⟨false, false⟩).handled &&
      (props[i]?.map fun prop =>
        prop.constraintType == constraintVirtualDeviceIndex &&
          prop.deviceIndex == deviceIndex).getD false

/-- Mark the items handled. -/
def markHandled (itemFlags : List ItemFlag) (indices : List Nat) : List ItemFlag :=
  indices.foldl (fun flags i => flags.modify i fun flag => { flag with handled := true })
    itemFlags

namespace ListV2State

/-- Record the result of item `index`. -/
def record (st : ListV2State) (index : Nat) (res : CuResource) : ListV2State :=
  { st with
    itemFlags := st.itemFlags.modify index fun flag => { flag with allocated := true }
    cuResources := st.cuResources.set index res }

/-- Record the results of a sub-list at the items it was made of. -/
def recordAll (st : ListV2State) : List Nat → List CuResource → ListV2State
  | index :: indices, res :: results => (st.record index res).recordAll indices results
  | _, _ => st

end ListV2State

/-- `insertDeviceIdList`. -/
def insertDeviceIdList (devIds : List Nat) (devId : Nat) : List Nat :=
  if devIds.contains devId then devIds
  else if devIds.length < maxXilinxDevices then devIds ++ [devId]
  else devIds

/-- One round of the item loop, for an item that is not handled. `rest` are the items after
it. -/
def allocItemV2 (props : List CuPropertyV2) (index : Nat) (propV2 : CuPropertyV2)
    (rest : List Nat) (st : ListV2State) : ListV2State × Except XrmError Unit :=
  let prop := cuPropertyCopyFromV2 propV2
  if propV2.constraintType = constraintNull then
    match st.s.resAllocCu prop false with
    | (s, .ok res) => ({ st with s := s }.record index res, .ok ())
    | (s, .error e) => ({ st with s := s }, .error e)
  else if propV2.constraintType = constraintHardwareDeviceIndex then
    match st.s.resAllocCuFromDev (i32 propV2.deviceIndex) prop false with
    | (s, .ok res) => ({ st with s := s }.record index res, .ok ())
    | (s, .error e) => ({ st with s := s }, .error e)
  else if propV2.constraintType = constraintVirtualDeviceIndex then
    let indices := index :: subListIndices props st.itemFlags propV2.deviceIndex rest
    let st := { st with itemFlags := markHandled st.itemFlags indices }
    let subList := (indices.filterMap fun i => props[i]?).map cuPropertyCopyFromV2
    match allocOnSameDevice subList st.usedDevIds (List.range st.s.numDevice) st.s with
    | (s, some (devId, done)) =>
        ({ (ListV2State.recordAll { st with s := s } indices done) with
            usedDevIds := insertDeviceIdList st.usedDevIds devId }, .ok ())
    | (s, none) => ({ st with s := s }, .error .noKernel)
  else (st, .error .invalid)

/-- The item loop. -/
def allocItemsV2 (props : List CuPropertyV2) :
    List Nat → ListV2State → ListV2State × Except XrmError Unit
  | [], st => (st, .ok ())
  | index :: rest, st =>
      if (st.itemFlags.getD index ⟨false, false⟩).handled then allocItemsV2 props rest st
      else
        match props[index]? with
        | none => allocItemsV2 props rest st
        | some propV2 =>
            let st := { st with itemFlags := markHandled st.itemFlags [index] }
            match allocItemV2 props index propV2 rest st with
            | (st, .ok ()) => allocItemsV2 props rest st
            | (st, .error e) => (st, .error e)

/-- Release the items that were allocated, in the order of the list; the return codes are not
looked at. -/
def releaseAllocated : List ItemFlag → List CuResource → System → System
  | flag :: flags, res :: results, s =>
      releaseAllocated flags results (if flag.allocated then (s.resReleaseCu res).1 else s)
  | _, _, s => s

/-- Allocate a list of CUs with device constraints. -/
def resAllocCuListV2 (s : System) (listProp : CuListPropertyV2) :
    System × Except XrmError CuListResource :=
  if listProp.cuNum ≤ 0 ∨ listProp.cuNum > maxListCuNumV2 then (s, .error .invalid)
  else
    let props := listProp.items
    let start : ListV2State :=
      { s := s
        itemFlags := props.map fun _ => ⟨false, false⟩
        cuResources := props.map fun _ => CuResource.zero
        usedDevIds := [] }
    match allocItemsV2 props (List.range props.length) start with
    | (st, .ok ()) => (st.s.updateAllocServiceId, .ok (listResource st.cuResources))
    | (st, .error e) => (releaseAllocated st.itemFlags st.cuResources st.s, .error e)

/-! ## Groups -/

/-- The list request made of an option of a group, for a client and a pool. -/
def groupOption (groupProp : CuGroupProperty) (option : CuListProperty) : CuListProperty :=
  { cuNum := option.cuNum
    sameDevice := option.sameDevice
    cuProps := option.items.map fun udfCuProp =>
      { kernelName := ""
        kernelAlias := ""
        cuName := udfCuProp.cuName
        devExcl := udfCuProp.devExcl
        requestLoadUnified := udfCuProp.requestLoadUnified
        requestLoadOriginal := udfCuProp.requestLoadOriginal
        clientId := groupProp.clientId
        clientProcessId := groupProp.clientProcessId
        poolId := groupProp.poolId } }

def groupOptionV2 (groupProp : CuGroupProperty) (option : CuListPropertyV2) :
    CuListPropertyV2 :=
  { cuNum := option.cuNum
    cuProps := option.items.map fun udfCuProp =>
      { kernelName := ""
        kernelAlias := ""
        cuName := udfCuProp.cuName
        devExcl := udfCuProp.devExcl
        deviceInfo := udfCuProp.deviceInfo
        policyInfo := policyNull
        requestLoadUnified := udfCuProp.requestLoadUnified
        requestLoadOriginal := udfCuProp.requestLoadOriginal
        clientId := groupProp.clientId
        clientProcessId := groupProp.clientProcessId
        poolId := groupProp.poolId } }

/-- Try the options of a group in order; `alloc` is the list allocation of its version. -/
def allocOptions {α : Type} (alloc : System → α → System × Except XrmError CuListResource) :
    List α → System → XrmError → System × Except XrmError CuListResource
  | [], s, e => (s, .error e)
  | option :: options, s, _ =>
      match alloc s option with
      | (s, .ok listRes) => (s, .ok listRes)
      | (s, .error e) => allocOptions alloc options s e

/-- Allocate the first option of the declared group that fits. -/
def resAllocCuGroup (s : System) (groupProp : CuGroupProperty) :
    System × Except XrmError CuListResource :=
  match s.udfCuGroups.find? (·.udfCuGroupName == groupProp.udfCuGroupName) with
  | none => (s, .error .invalid)
  | some group =>
      allocOptions (fun s option => s.resAllocCuList (groupOption groupProp option))
        (group.optionUdfCuListProps.take group.optionUdfCuListNum.toNat) s .error

def resAllocCuGroupV2 (s : System) (groupProp : CuGroupProperty) :
    System × Except XrmError CuListResource :=
  match s.udfCuGroupsV2.find? (·.udfCuGroupName == groupProp.udfCuGroupName) with
  | none => (s, .error .invalid)
  | some group =>
      allocOptions (fun s option => s.resAllocCuListV2 (groupOptionV2 groupProp option))
        (group.optionUdfCuListProps.take group.optionUdfCuListNum.toNat) s .error

/-- What a declaration keeps of an option. -/
def declaredOption (option : CuListProperty) : CuListProperty :=
  { option with
    cuProps := option.items.map fun prop =>
      { prop with
        kernelName := ""
        kernelAlias := ""
        clientId := 0
        clientProcessId := 0
        poolId := 0 } }

def declaredOptionV2 (option : CuListPropertyV2) : CuListPropertyV2 :=
  { option with
    cuProps := option.items.map fun prop =>
      { prop with
        kernelName := ""
        kernelAlias := ""
        policyInfo := policyNull
        clientId := 0
        clientProcessId := 0
        poolId := 0 } }

/-- Declare a group behind the others. The number of groups is not checked. -/
def resUdfCuGroupDeclare (s : System) (info : UdfCuGroupInformation) :
    System × Except XrmError Unit :=
  if s.udfCuGroups.any (·.udfCuGroupName == info.udfCuGroupName) then (s, .error .invalid)
  else
    ({ s with
        udfCuGroups := s.udfCuGroups ++
          [{ info with
              optionUdfCuListProps :=
                (info.optionUdfCuListProps.take info.optionUdfCuListNum.toNat).map
                  declaredOption }] },
      .ok ())

def resUdfCuGroupDeclareV2 (s : System) (info : UdfCuGroupInformationV2) :
    System × Except XrmError Unit :=
  if s.udfCuGroupsV2.any (·.udfCuGroupName == info.udfCuGroupName) then (s, .error .invalid)
  else
    ({ s with
        udfCuGroupsV2 := s.udfCuGroupsV2 ++
          [{ info with
              optionUdfCuListProps :=
                (info.optionUdfCuListProps.take info.optionUdfCuListNum.toNat).map
                  declaredOptionV2 }] },
      .ok ())

/-- Remove the group of the name; the groups after it move down. -/
def resUdfCuGroupUndeclare (s : System) (name : String) : System × Except XrmError Unit :=
  match s.udfCuGroups.findIdx? (·.udfCuGroupName == name) with
  | none => (s, .error .invalid)
  | some i => ({ s with udfCuGroups := s.udfCuGroups.eraseIdx i }, .ok ())

def resUdfCuGroupUndeclareV2 (s : System) (name : String) : System × Except XrmError Unit :=
  match s.udfCuGroupsV2.findIdx? (·.udfCuGroupName == name) with
  | none => (s, .error .invalid)
  | some i => ({ s with udfCuGroupsV2 := s.udfCuGroupsV2.eraseIdx i }, .ok ())

end System

end Xrm
