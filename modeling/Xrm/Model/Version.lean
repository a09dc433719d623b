import Mathlib.Algebra.Group.Int.Defs
import Xrm.Library.DataTree
import Xrm.Library.Scan
import Xrm.Model.Types

/-! # The version of XRT

Which functions the daemon takes from the XRT library depends on the version that the version
file of the installation reports.
-/

namespace Xrm

structure Version where
  major : Int := 0
  minor : Int := 0
  revision : Int := 0
  deriving Repr, DecidableEq

namespace Version

/-- The `int` that a conversion stores: `strtol` saturates, the assignment cuts. -/
def stored (x : Int) : Int := i32 (max (-(2 ^ 63)) (min x (2 ^ 63 - 1)))

/-- `sscanf(version.c_str(), "%d.%d.%d", &major, &minor, &revision)`. -/
def ofString (version : String) : Version :=
  let read := (Scan.ints '.' 3 (cStr version).toList).map stored
  { major := read.getD 0 0
    minor := read.getD 1 0
    revision := read.getD 2 0 }

/-- `operator<`. -/
def lt (v other : Version) : Bool :=
  if v.major < other.major then true
  else if v.minor < other.minor then true
  else if v.revision < other.revision then true
  else false

/-- `operator==`. -/
def eq (v other : Version) : Bool :=
  v.major == other.major && v.minor == other.minor && v.revision == other.revision

/-- `operator<<`. -/
def print (v : Version) : String :=
  v.major.repr ++ "." ++ v.minor.repr ++ "." ++ v.revision.repr

end Version

/-! ## Functions that depend on the version -/

variable {α : Type}

/-- The function pointers taken from the library, of the type `α` of addresses. -/
structure LibVersionDepFunctions (α : Type) where
  xclLockDevice : Option α := none
  xclUnlockDevice : Option α := none
  xclCuName2Index : Option α := none
  xclIPName2Index25 : Option α := none
  xclIPName2Index26 : Option α := none

/-- What `dlopen` and `dlsym` find of the library, and the version file. -/
structure XrtInstallation (α : Type) where
  libXrtCore : Option (String → Option α)
  versionFile : Option DataTree

def initLibVersionDepFunctions (xrt : XrtInstallation α) : LibVersionDepFunctions α :=
  match xrt.libXrtCore with
  | none => {}
  | some dlsym =>
      let funcs : LibVersionDepFunctions α :=
        { xclLockDevice := dlsym "xclLockDevice"
          xclUnlockDevice := dlsym "xclUnlockDevice"
          xclCuName2Index := dlsym "xclCuName2Index" }
      match xrt.versionFile with
      | none => funcs
      | some xrtVersionPtree =>
          let xrtBuildVersion := cStr (xrtVersionPtree.textD ["BUILD_VERSION"])
          if xrtBuildVersion = "" then funcs
          else if (Version.ofString xrtBuildVersion).lt (Version.ofString "2.6.0") then
            { funcs with xclIPName2Index25 := dlsym "xclIPName2Index" }
          else
            { funcs with xclIPName2Index26 := dlsym "xclIPName2Index" }

/-- What the code at an address answers when it is called with the index by reference, as the
returned value and the index, and when it is called without. -/
structure NameCalls (α : Type) where
  threeArgs : α → String → Int × Nat
  twoArgs : α → String → Int

def wrapIPName2Index (funcs : LibVersionDepFunctions α) (call : NameCalls α) (ipName : String) :
    Int :=
  match funcs.xclCuName2Index, funcs.xclIPName2Index25, funcs.xclIPName2Index26 with
  | some f, _, _ | none, some f, _ =>
      match call.threeArgs f ipName with
      | (ret, cuId) => if ret = 0 then i32 cuId else ret
  | none, none, some f => call.twoArgs f ipName
  | none, none, none => XrmError.invalid.code

end Xrm
