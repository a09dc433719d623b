import Xrm.Model.AllocList

/-! # Reserve pools -/

namespace Xrm

/-- Neither kernel name nor alias is given. -/
def CuProperty.kernelUnnamed (prop : CuProperty) : Bool :=
  prop.kernelName == "" && prop.kernelAlias == ""

/-! ## Reserving one CU -/

/-- The CU loop of the reservation functions: the first wanted CU that matches and takes the
load. -/
def reserveSearch (reservePoolId : Nat) (prop : CuProperty) (wanted : CuData → Bool) :
    List CuData → Option (List CuData)
  | [] => none
  | cu :: cus =>
      if wanted cu && cu.matchesKernel prop then
        match cu.reserveLoadFromCu reservePoolId prop with
        | .ok cu => some (cu :: cus)
        | .error _ => (reserveSearch reservePoolId prop wanted cus).map (cu :: ·)
      else (reserveSearch reservePoolId prop wanted cus).map (cu :: ·)

namespace DeviceData

/-- Store the CUs after a reservation of the request's load. -/
def chargeReserve (dev : DeviceData) (prop : CuProperty) (cuList : List CuData) : DeviceData :=
  { dev with cuList := cuList }.updateDeviceLoad prop.requestLoadUnified (-1)

/-- One pass over the CUs of a device. -/
def reservePass (dev : DeviceData) (reservePoolId : Nat) (prop : CuProperty)
    (wanted : CuData → Bool) : Option DeviceData :=
  (reserveSearch reservePoolId prop wanted dev.cuList).map (dev.chargeReserve prop)

/-- Reserve load on a CU of the device, an already used CU if possible. -/
def reserveCuFromDev (dev : DeviceData) (reservePoolId : Nat) (prop : CuProperty) :
    Except XrmError DeviceData :=
  if prop.kernelUnnamed then .error .invalid
  else
    match dev.reservePass reservePoolId prop inUse with
    | some dev => .ok dev
    | none =>
        match dev.reservePass reservePoolId prop unused with
        | some dev => .ok dev
        | none => .error .noKernel

/-- The slot that `relinquishCuFromDev` gives back on a CU: the pool's, with exactly the load
of the request and nothing of it in use. -/
def undoSlot (reservePoolId : Nat) (prop : CuProperty) (cu : CuData) : Option Nat :=
  (cu.reserves.take cu.numReserve).findIdx? fun r =>
    r.reservePoolId == reservePoolId && r.reserveLoadUnified == prop.requestLoadUnified &&
      r.reserveUsedLoadUnified == 0

/-- The CU loop of `relinquishCuFromDev`, from CU `cuId` on: the CU and the slot found. -/
def findUndo (reservePoolId : Nat) (prop : CuProperty) : Nat → List CuData →
    Option (Nat × CuData × Nat)
  | _, [] => none
  | cuId, cu :: cus =>
      if cu.matchesKernel prop then
        match undoSlot reservePoolId prop cu with
        | some i => some (cuId, cu, i)
        | none => findUndo reservePoolId prop (cuId + 1) cus
      else findUndo reservePoolId prop (cuId + 1) cus

/-- Undo one reservation on the device. -/
def relinquishCuFromDev (dev : DeviceData) (reservePoolId : Nat) (prop : CuProperty) :
    Except XrmError DeviceData :=
  if reservePoolId = 0 then .error .invalid
  else if prop.kernelUnnamed then .error .invalid
  else if !dev.isLoaded then .error .error
  else
    match findUndo reservePoolId prop 0 dev.cuList with
    | none => .error .error
    | some (cuId, cu, i) =>
        .ok ((dev.setCu cuId (cu.giveBackSlot i)).updateDeviceLoad
          (-(cu.slot i).reserveLoadUnified) (-1))

/-! ## Relinquishing a pool -/

/-- The CU loop of the relinquish functions; it stops at a slot in use. -/
def relinquishCus (reservePoolId : Nat) :
    List CuData → DeviceData → DeviceData × List CuData × Bool
  | [], dev => (dev, [], true)
  | cu :: cus, dev =>
      match (cu.reserves.take cu.numReserve).findIdx? (·.reservePoolId == reservePoolId) with
      | none =>
          let (dev, cus, done) := relinquishCus reservePoolId cus dev
          (dev, cu :: cus, done)
      | some i =>
          if (cu.slot i).reserveUsedLoadUnified ≠ 0 then (dev, cu :: cus, false)
          else
            let (dev, cus, done) := relinquishCus reservePoolId cus
              (dev.updateDeviceLoad (-(cu.slot i).reserveLoadUnified) (-1))
            (dev, cu.giveBackSlot i :: cus, done)

/-- Relinquish the pool's slots on one device. -/
def relinquishDev (dev : DeviceData) (reservePoolId : Nat) : DeviceData × Bool :=
  if !dev.isLoaded then (dev, true)
  else
    let (dev, cus, done) := relinquishCus reservePoolId dev.cuList dev
    ({ dev with cuList := cus }, done)

/-! ## Reserving a whole device -/

/-- Reserve all CUs of the device. -/
def reserveAll (dev : DeviceData) (reservePoolId clientId : Nat) (clientProcessId : Int) :
    DeviceData :=
  { dev with
    cuList := dev.cuList.map fun cu : CuData =>
      cu.reserveWhole reservePoolId clientId clientProcessId
    }.updateDeviceLoad 0 (dev.numCu * maxChanLoad)

end DeviceData

namespace System

def getNextReservePoolId (s : System) : Nat := nextId s.reservePoolId

def updateReservePoolId (s : System) : System :=
  { s with reservePoolId := nextId s.reservePoolId }

/-- The device loop of the relinquish functions. -/
def relinquishDevs (reservePoolId : Nat) : List Nat → System → System × Except XrmError Unit
  | [], s => (s, .ok ())
  | devId :: devIds, s =>
      match s.devList[devId]? with
      | none => relinquishDevs reservePoolId devIds s
      | some dev =>
          match dev.relinquishDev reservePoolId with
          | (dev, true) => relinquishDevs reservePoolId devIds (s.setDev devId dev)
          | (dev, false) => (s.setDev devId dev, .error .error)

/-- Relinquish a pool, CU by CU, up to a slot in use. -/
def resRelinquishCuPool (s : System) (reservePoolId : Nat) : System × Except XrmError Unit :=
  if reservePoolId = 0 then (s, .error .invalid)
  else relinquishDevs reservePoolId (List.range s.numDevice) s

/-- The list version is the pool version: it relinquishes the whole pool. -/
def resRelinquishCuList (s : System) (reservePoolId : Nat) : System × Except XrmError Unit :=
  s.resRelinquishCuPool reservePoolId

def resRelinquishCuPoolV2 (s : System) (reservePoolId : Nat) :
    System × Except XrmError Unit :=
  s.resRelinquishCuPool reservePoolId

def resRelinquishCuListV2 (s : System) (reservePoolId : Nat) :
    System × Except XrmError Unit :=
  s.resRelinquishCuList reservePoolId

/-! ## Reserving one CU on any device -/

/-- The device loop of `resReserveCu`, over the devices free for the client. -/
def reserveDevs (reservePoolId : Nat) (prop : CuProperty) (wanted : CuData → Bool) :
    List Nat → System → Option (System × Nat)
  | [], _ => none
  | devId :: devIds, s =>
      match s.devList[devId]? with
      | none => reserveDevs reservePoolId prop wanted devIds s
      | some dev =>
          if dev.isFreeForClient prop.clientId then
            match dev.reservePass reservePoolId prop wanted with
            | some dev => some (s.setDev devId dev, devId)
            | none => reserveDevs reservePoolId prop wanted devIds s
          else reserveDevs reservePoolId prop wanted devIds s

/-- Reserve load on one CU and tell its device. -/
def resReserveCu (s : System) (reservePoolId : Nat) (prop : CuProperty) :
    Except XrmError (System × Nat) :=
  if prop.kernelUnnamed then .error .invalid
  else
    match reserveDevs reservePoolId prop inUse (List.range s.numDevice) s with
    | some found => .ok found
    | none =>
        match reserveDevs reservePoolId prop unused (List.range s.numDevice) s with
        | some found => .ok found
        | none => .error .noKernel

/-- `reserveCuFromDev` on a device of the table. -/
def reserveCuFromDev (s : System) (reservePoolId : Nat) (devId : Int) (prop : CuProperty) :
    Except XrmError System :=
  match s.devIndex devId with
  | none => .error .invalid
  | some i =>
      match s.devList[i]? with
      | none => .error .invalid
      | some dev =>
          match dev.reserveCuFromDev reservePoolId prop with
          | .ok dev => .ok (s.setDev i dev)
          | .error e => .error e

/-! ## Reserving lists -/

/-- The item loop on one device. A failing item relinquishes the pool. -/
def reserveItemsOnDev (reservePoolId devId : Nat) :
    List CuProperty → System → System × Except XrmError Unit
  | [], s => (s, .ok ())
  | prop :: props, s =>
      match s.reserveCuFromDev reservePoolId devId prop with
      | .ok s => reserveItemsOnDev reservePoolId devId props s
      | .error e => ((s.resRelinquishCuList reservePoolId).1, .error e)

/-- The device loop of a same-device list. -/
def reserveOnSameDevice (reservePoolId : Nat) (props : List CuProperty) :
    List Nat → System → XrmError → System × Except XrmError Unit
  | [], s, e => (s, .error e)
  | devId :: devIds, s, e =>
      let clientId := (props.head?.map (·.clientId)).getD 0
      if (s.devList[devId]?.map (·.isFreeForClient clientId)).getD false then
        match reserveItemsOnDev reservePoolId devId props s with
        | (s, .ok ()) => (s, .ok ())
        | (s, .error e) => reserveOnSameDevice reservePoolId props devIds s e
      else reserveOnSameDevice reservePoolId props devIds s e

/-- The item loop of a list over all devices. -/
def reserveItems (reservePoolId : Nat) :
    List CuProperty → System → System × Except XrmError Unit
  | [], s => (s, .ok ())
  | prop :: props, s =>
      match s.resReserveCu reservePoolId prop with
      | .ok (s, _) => reserveItems reservePoolId props s
      | .error e => ((s.resRelinquishCuList reservePoolId).1, .error e)

/-- Reserve one copy of a list. -/
def resReserveCuList (s : System) (reservePoolId : Nat) (listProp : CuListProperty) :
    System × Except XrmError Unit :=
  if listProp.cuNum ≤ 0 ∨ listProp.cuNum > maxListCuNum then (s, .error .invalid)
  else if listProp.sameDevice then
    reserveOnSameDevice reservePoolId listProp.items (List.range s.numDevice) s .error
  else reserveItems reservePoolId listProp.items s

/-! ## Reserving lists with device constraints -/

/-- Undo the first items of a sub-list on a device; `false` when one cannot be undone. -/
def undoItems (reservePoolId devId : Nat) : List CuProperty → System → System × Bool
  | [], s => (s, true)
  | prop :: props, s =>
      match s.devList[devId]? with
      | none => (s, false)
      | some dev =>
          match dev.relinquishCuFromDev reservePoolId prop with
          | .ok dev => undoItems reservePoolId devId props (s.setDev devId dev)
          | .error _ => (s, false)

/-- The outcome of a sub-list on one device. -/
inductive SubListResult where
  | reserved
  | undone (e : XrmError)
  | stuck (e : XrmError)
  deriving Repr, DecidableEq

/-- The item loop of a sub-list on one device. A failing item undoes the ones in `done`. -/
def reserveSubItems (reservePoolId devId : Nat) :
    List CuProperty → List CuProperty → System → System × SubListResult
  | [], _, s => (s, .reserved)
  | prop :: props, done, s =>
      match s.reserveCuFromDev reservePoolId devId prop with
      | .ok s => reserveSubItems reservePoolId devId props (done ++ [prop]) s
      | .error e =>
          match undoItems reservePoolId devId done s with
          | (s, true) => (s, .undone e)
          | (s, false) => (s, .stuck e)

/-- The device loop of `resReserveCuSubListFromSameDevice`. -/
def reserveSubList (reservePoolId : Nat) (props : List CuProperty) (usedDevIds : List Nat) :
    List Nat → System → XrmError → System × Except XrmError Nat
  | [], s, e => (s, .error e)
  | devId :: devIds, s, e =>
      let clientId := (props.head?.map (·.clientId)).getD 0
      let isFree := (s.devList[devId]?.map (·.isFreeForClient clientId)).getD false
      if isFree && !usedDevIds.contains devId then
        match reserveSubItems reservePoolId devId props [] s with
        | (s, .reserved) => (s, .ok devId)
        | (s, .undone e) => reserveSubList reservePoolId props usedDevIds devIds s e
        | (s, .stuck e) => (s, .error e)
      else reserveSubList reservePoolId props usedDevIds devIds s e

/-- Reserve a sub-list on a device that is not in `usedDevIds`. -/
def resReserveCuSubListFromSameDevice (s : System) (reservePoolId : Nat)
    (props : List CuProperty) (usedDevIds : List Nat) : System × Except XrmError Nat :=
  reserveSubList reservePoolId props usedDevIds (List.range s.numDevice) s .error

/-- The state of the item loop: the flags, the device reported for each item, and the devices
of the virtual indices so far. -/
structure ReserveV2State where
  s : System
  itemFlags : List ItemFlag
  deviceIds : List Nat
  usedDevIds : List Nat

/-- Report the device for the items. -/
def reportDevice (deviceIds : List Nat) (devId : Nat) (indices : List Nat) : List Nat :=
  indices.foldl (fun ids i => ids.set i devId) deviceIds

/-- One round of the item loop, for an item that is not handled. -/
def reserveItemV2 (reservePoolId : Nat) (props : List CuPropertyV2) (index : Nat)
    (propV2 : CuPropertyV2) (rest : List Nat) (st : ReserveV2State) :
    ReserveV2State × Except XrmError Unit :=
  let prop := cuPropertyCopyFromV2 propV2
  if propV2.constraintType = constraintNull then
    match st.s.resReserveCu reservePoolId prop with
    | .ok (s, devId) =>
        ({ st with s := s, deviceIds := reportDevice st.deviceIds devId [index] }, .ok ())
    | .error e => (st, .error e)
  else if propV2.constraintType = constraintHardwareDeviceIndex then
    match st.s.reserveCuFromDev reservePoolId (i32 propV2.deviceIndex) prop with
    | .ok s =>
        ({ st with
            s := s
            deviceIds := reportDevice st.deviceIds propV2.deviceIndex [index] }, .ok ())
    | .error e => (st, .error e)
  else if propV2.constraintType = constraintVirtualDeviceIndex then
    let indices := index :: subListIndices props st.itemFlags propV2.deviceIndex rest
    let st := { st with itemFlags := markHandled st.itemFlags indices }
    let subList := (indices.filterMap fun i => props[i]?).map cuPropertyCopyFromV2
    match st.s.resReserveCuSubListFromSameDevice reservePoolId subList st.usedDevIds with
    | (s, .ok devId) =>
        ({ st with
            s := s
            usedDevIds := insertDeviceIdList st.usedDevIds devId
            deviceIds := reportDevice st.deviceIds devId indices }, .ok ())
    | (s, .error e) => ({ st with s := s }, .error e)
  else (st, .error .invalid)

/-- The item loop. -/
def reserveItemsV2 (reservePoolId : Nat) (props : List CuPropertyV2) :
    List Nat → ReserveV2State → ReserveV2State × Except XrmError Unit
  | [], st => (st, .ok ())
  | index :: rest, st =>
      if (st.itemFlags.getD index ⟨false, false⟩).handled then
        reserveItemsV2 reservePoolId props rest st
      else
        match props[index]? with
        | none => reserveItemsV2 reservePoolId props rest st
        | some propV2 =>
            let st := { st with itemFlags := markHandled st.itemFlags [index] }
            match reserveItemV2 reservePoolId props index propV2 rest st with
            | (st, .ok ()) => reserveItemsV2 reservePoolId props rest st
            | (st, .error e) => (st, .error e)

/-- Reserve one copy of a list with device constraints and report the device of each item. -/
def resReserveCuListV2 (s : System) (reservePoolId : Nat) (listProp : CuListPropertyV2) :
    System × Except XrmError (List Nat) :=
  if listProp.cuNum ≤ 0 ∨ listProp.cuNum > maxListCuNumV2 then (s, .error .invalid)
  else
    let props := listProp.items
    let start : ReserveV2State :=
      { s := s
        itemFlags := props.map fun _ => ⟨false, false⟩
        deviceIds := props.map fun _ => 0
        usedDevIds := [] }
    match reserveItemsV2 reservePoolId props (List.range props.length) start with
    | (st, .ok ()) => (st.s, .ok st.deviceIds)
    | (st, .error e) => ((st.s.resRelinquishCuListV2 reservePoolId).1, .error e)

/-! ## Reserving whole devices -/

/-- The device loop of `resReserveCuOfXclbin`. -/
def reserveXclbinDevs (reservePoolId : Nat) (uuid : List UInt8) (clientId : Nat)
    (clientProcessId : Int) : List Nat → System → Option (System × Nat)
  | [], _ => none
  | devId :: devIds, s =>
      match s.devList[devId]? with
      | none => reserveXclbinDevs reservePoolId uuid clientId clientProcessId devIds s
      | some dev =>
          if dev.isLoaded && dev.uuid == uuid && !dev.isDeviceBusy then
            some (s.setDev devId (dev.reserveAll reservePoolId clientId clientProcessId), devId)
          else reserveXclbinDevs reservePoolId uuid clientId clientProcessId devIds s

/-- Reserve a device that is loaded with the xclbin and not busy. -/
def resReserveCuOfXclbin (s : System) (reservePoolId : Nat) (uuid : List UInt8)
    (clientId : Nat) (clientProcessId : Int) : Except XrmError (System × Nat) :=
  if reservePoolId = 0 then .error .invalid
  else
    match reserveXclbinDevs reservePoolId uuid clientId clientProcessId
        (List.range s.numDevice) s with
    | some found => .ok found
    | none => .error .noKernel

/-- Reserve the given device. -/
def resReserveDevice (s : System) (reservePoolId deviceId clientId : Nat)
    (clientProcessId : Int) : Except XrmError System :=
  let devId := i32 ((deviceId % 2 ^ 32 : Nat) : Int)
  if reservePoolId = 0 then .error .invalid
  else if devId < 0 ∨ devId > maxXilinxDevices - 1 then .error .invalid
  else
    match s.devList[devId.toNat]? with
    | none => .error .noKernel
    | some dev =>
        if !dev.isLoaded then .error .noKernel
        else if dev.isDeviceBusy then .error .noKernel
        else
          .ok (s.setDev devId.toNat (dev.reserveAll reservePoolId clientId clientProcessId))

/-! ## Pools -/

/-- Reserve `n` devices of the xclbin and tell which. -/
def reserveXclbins (reservePoolId : Nat) (uuid : List UInt8) (clientId : Nat)
    (clientProcessId : Int) : Nat → System → List Nat → System × Option (List Nat)
  | 0, s, devIds => (s, some devIds)
  | n + 1, s, devIds =>
      match s.resReserveCuOfXclbin reservePoolId uuid clientId clientProcessId with
      | .ok (s, devId) =>
          reserveXclbins reservePoolId uuid clientId clientProcessId n s (devIds ++ [devId])
      | .error _ => (s, none)

/-- Reserve `n` copies of the list. -/
def reserveCopies (reservePoolId : Nat) (listProp : CuListProperty) :
    Nat → System → System × Bool
  | 0, s => (s, true)
  | n + 1, s =>
      match s.resReserveCuList reservePoolId listProp with
      | (s, .ok ()) => reserveCopies reservePoolId listProp n s
      | (s, .error _) => (s, false)

/-- Give up a reservation. -/
def abandonPool (s : System) (reservePoolId : Nat) : System × Nat :=
  ((s.resRelinquishCuPool reservePoolId).1, 0)

/-- Reserve a pool: whole devices first, then the copies of the list. The result is the pool's
id, or 0. -/
def resReserveCuPool (s : System) (poolProp : CuPoolProperty) : System × Nat :=
  if poolProp.cuListNum < 0 ∨ poolProp.xclbinNum < 0 then (s, 0)
  else if poolProp.cuListProp.cuNum < 0 ∨ poolProp.cuListProp.cuNum > maxListCuNum then (s, 0)
  else
    let reservePoolId := s.getNextReservePoolId
    match reserveXclbins reservePoolId poolProp.xclbinUuid poolProp.clientId
        poolProp.clientProcessId poolProp.xclbinNum.toNat s [] with
    | (s, none) => s.abandonPool reservePoolId
    | (s, some _) =>
        match reserveCopies reservePoolId poolProp.cuListProp poolProp.cuListNum.toNat s with
        | (s, false) => s.abandonPool reservePoolId
        | (s, true) => (s.updateReservePoolId, reservePoolId)

/-- Reserve the given devices. -/
def reserveDeviceIds (reservePoolId clientId : Nat) (clientProcessId : Int) :
    List Nat → System → System × Bool
  | [], s => (s, true)
  | deviceId :: deviceIds, s =>
      match s.resReserveDevice reservePoolId deviceId clientId clientProcessId with
      | .ok s => reserveDeviceIds reservePoolId clientId clientProcessId deviceIds s
      | .error _ => (s, false)

/-- Reserve `n` copies of the list with device constraints. -/
def reserveCopiesV2 (reservePoolId : Nat) (listProp : CuListPropertyV2) :
    Nat → System → List (List Nat) → System × Option (List (List Nat))
  | 0, s, infos => (s, some infos)
  | n + 1, s, infos =>
      match s.resReserveCuListV2 reservePoolId listProp with
      | (s, .ok deviceIds) =>
          reserveCopiesV2 reservePoolId listProp n s (infos ++ [deviceIds])
      | (s, .error _) => (s, none)

/-- The report of a pool that was not reserved. -/
def noInfor : CuPoolResInforV2 where
  cuListResInfor := []
  xclbinResInfor := []

/-- Reserve a pool: the given devices, then devices of the xclbin, then the copies of the
list. The result is the pool's id, or 0, with the devices reserved. -/
def resReserveCuPoolV2 (s : System) (poolProp : CuPoolPropertyV2) :
    System × Nat × CuPoolResInforV2 :=
  let deviceNum := poolProp.deviceIdListProp.deviceNum
  if poolProp.cuListNum < 0 ∨ poolProp.xclbinNum < 0 ∨ deviceNum < 0 ∨
      deviceNum > maxXilinxDevices then (s, 0, noInfor)
  else if poolProp.cuListProp.cuNum < 0 ∨ poolProp.cuListProp.cuNum > maxListCuNumV2 then
    (s, 0, noInfor)
  else
    let reservePoolId := s.getNextReservePoolId
    match reserveDeviceIds reservePoolId poolProp.clientId poolProp.clientProcessId
        (poolProp.deviceIdListProp.deviceIds.take deviceNum.toNat) s with
    | (s, false) =>
        let (s, failed) := s.abandonPool reservePoolId
        (s, failed, noInfor)
    | (s, true) =>
        match reserveXclbins reservePoolId poolProp.xclbinUuid poolProp.clientId
            poolProp.clientProcessId poolProp.xclbinNum.toNat s [] with
        | (s, none) =>
            let (s, failed) := s.abandonPool reservePoolId
            (s, failed, noInfor)
        | (s, some xclbinDevIds) =>
            match reserveCopiesV2 reservePoolId poolProp.cuListProp poolProp.cuListNum.toNat
                s [] with
            | (s, none) =>
                let (s, failed) := s.abandonPool reservePoolId
                (s, failed, noInfor)
            | (s, some infos) =>
                (s.updateReservePoolId, reservePoolId,
                  { cuListResInfor := infos, xclbinResInfor := xclbinDevIds })

end System

end Xrm
