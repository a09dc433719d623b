import Xrm.Library.Drain
import Xrm.Model.System

/-! # How many are available

The queries take what they count, as often as it can be had, and give everything back.
-/

namespace Xrm

namespace System

/-- The loops of a query: allocate until an allocation fails, then release in the same order; the
return codes of the releases are not looked at. With nothing allocated an invalid request is told
from one that finds nothing. -/
def availableNum {α : Type} (alloc : System → System × Except XrmError α)
    (release : System → α → System × Except XrmError Unit) (fuel : Nat) (s : System) :
    Option (System × Except XrmError Nat) :=
  (Drain.run alloc fuel s []).map fun (s, taken, ret) =>
    (taken.foldl (fun s a => (release s a).1) s,
      if taken.isEmpty && ret == .invalid then .error .invalid else .ok taken.length)

def checkCuAvailableNum (s : System) (prop : CuProperty) (fuel : Nat) :
    Option (System × Except XrmError Nat) :=
  availableNum (fun s => s.resAllocCu prop true) resReleaseCu fuel s

def checkCuAvailableNumV2 (s : System) (propV2 : CuPropertyV2) (fuel : Nat) :
    Option (System × Except XrmError Nat) :=
  availableNum (fun s => s.resAllocCuV2 propV2 true) resReleaseCu fuel s

def checkCuListAvailableNum (s : System) (listProp : CuListProperty) (fuel : Nat) :
    Option (System × Except XrmError Nat) :=
  availableNum (fun s => s.resAllocCuList listProp) resReleaseCuList fuel s

def checkCuListAvailableNumV2 (s : System) (listProp : CuListPropertyV2) (fuel : Nat) :
    Option (System × Except XrmError Nat) :=
  availableNum (fun s => s.resAllocCuListV2 listProp) resReleaseCuListV2 fuel s

def checkCuGroupAvailableNum (s : System) (groupProp : CuGroupProperty) (fuel : Nat) :
    Option (System × Except XrmError Nat) :=
  availableNum (fun s => s.resAllocCuGroup groupProp) resReleaseCuGroup fuel s

def checkCuGroupAvailableNumV2 (s : System) (groupProp : CuGroupProperty) (fuel : Nat) :
    Option (System × Except XrmError Nat) :=
  availableNum (fun s => s.resAllocCuGroupV2 groupProp) resReleaseCuGroupV2 fuel s

/-- The id of a pool as a result; 0 says that nothing was reserved. -/
def poolResult (r : System × Nat) : System × Except XrmError Nat :=
  (r.1, if r.2 = 0 then .error .error else .ok r.2)

/-- The pool of the query is that of no client; its items carry the client of the request. -/
def checkCuPoolAvailableNum (s : System) (poolProp : CuPoolProperty) (fuel : Nat) :
    Option (System × Except XrmError Nat) :=
  availableNum (fun s => poolResult (s.resReserveCuPool poolProp)) resRelinquishCuPool fuel s

def checkCuPoolAvailableNumV2 (s : System) (poolProp : CuPoolPropertyV2) (fuel : Nat) :
    Option (System × Except XrmError Nat) :=
  availableNum
    (fun s =>
      let (s, reservePoolId, _) := s.resReserveCuPoolV2 poolProp
      poolResult (s, reservePoolId))
    resRelinquishCuPoolV2 fuel s

end System

end Xrm
