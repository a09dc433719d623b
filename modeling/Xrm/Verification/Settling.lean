import Xrm.Model.Indices

/-! # Commands that return

The functions of the system throw nothing and only the queries have loops without a bound: wherever
one of them stays inside its arrays, it returns.
-/

namespace Xrm

open Procedure

section Uses

variable {σ α : Type}

theorem settles_useEntry (i : Int) (room : Nat) : Settles (useEntry i room : Procedure σ Unit) :=
  (settles_pure ()).ite settles_overflow

theorem settles_useFrom (room n i : Nat) : Settles (useFrom room n i : Procedure σ Unit) := by
  induction n generalizing i with
  | zero => exact settles_pure ()
  | succ n ih => exact (settles_useEntry i room).bind fun _ => ih (i + 1)

theorem settles_useBelow (count : Int) (room : Nat) :
    Settles (useBelow count room : Procedure σ Unit) := settles_useFrom room count.toNat 0

theorem settles_guarded {refused : Prop} [Decidable refused] {p : Procedure σ Unit}
    (h : Settles p) : Settles (guarded refused p) := (settles_pure ()).ite h

theorem settles_call (f : σ → σ × α) : Settles (call f) :=
  settles_get.bind fun _ => (settles_modify _).bind fun _ => settles_pure _

/-- A call behind the uses of the entries that it makes. -/
theorem settles_guarded_call {refused : Prop} [Decidable refused] (count : Int) (room : Nat)
    (f : σ → σ × α) : Settles (do guarded refused (useBelow count room); call f) :=
  (settles_guarded (settles_useBelow count room)).bind fun _ => settles_call f

end Uses

namespace Indexed

/-! ## The functions of the system -/

theorem settles_resReleaseCu (res : CuResource) : Settles (resReleaseCu res) := by
  refine settles_get.bind fun s => ?_
  refine (settles_pure _).ite ((settles_pure _).ite ((settles_pure _).ite ?_))
  refine (settles_useEntry _ _).bind fun _ => ?_
  cases s.devList[res.deviceId.toNat]? with
  | none => exact settles_pure _
  | some dev =>
      refine (settles_pure _).ite ((settles_pure _).ite ?_)
      exact (settles_useEntry _ _).bind fun _ => settles_call _

theorem settles_releaseInOrder (room i : Nat) (l : List CuResource) :
    Settles (releaseInOrder room i l) := by
  induction l generalizing i with
  | nil => exact settles_pure _
  | cons res rest ih =>
      refine (settles_useEntry _ _).bind fun _ => (settles_resReleaseCu res).bind fun r => ?_
      cases r with
      | ok _ => exact ih (i + 1)
      | error e => exact settles_pure _

theorem settles_releaseList (maxNum : Nat) (listRes : CuListResource) :
    Settles (releaseList maxNum listRes) :=
  (settles_pure _).ite (settles_releaseInOrder _ _ _)

theorem settles_checkCuStat (res : CuResource) : Settles (checkCuStat res) := by
  refine settles_get.bind fun s => (settles_pure _).ite ((settles_pure _).ite ?_)
  exact (settles_useEntry _ _).bind fun _ => (settles_useEntry _ _).bind fun _ => settles_pure _

theorem settles_onDevice {α : Type} (deviceId : Int) (f : System → System × α) :
    Settles (onDevice deviceId f) :=
  settles_get.bind fun _ => (settles_guarded (settles_useEntry _ _)).bind fun _ => settles_call f

/-! ## Groups -/

theorem settles_findGroup (room : Nat) (name : String) (i : Nat) (names : List String) :
    Settles (findGroup room name i names) := by
  induction names generalizing i with
  | nil => exact settles_pure _
  | cons x names ih =>
      exact (settles_useEntry _ _).bind fun _ => (settles_pure _).ite (ih (i + 1))

theorem settles_useOptions (cuRoom cuListIdx : Nat) (cuNums : List Int) :
    Settles (useOptions cuRoom cuListIdx cuNums) := by
  induction cuNums generalizing cuListIdx with
  | nil => exact settles_pure _
  | cons cuNum cuNums ih =>
      exact (settles_useEntry _ _).bind fun _ => (settles_useBelow _ _).bind fun _ =>
        ih (cuListIdx + 1)

theorem settles_declareGroup (room cuRoom : Nat) (names : System → List String) (name : String)
    (cuNums : List Int) (f : System → System × Except XrmError Unit) :
    Settles (declareGroup room cuRoom names name cuNums f) := by
  refine settles_get.bind fun s => (settles_findGroup _ _ _ _).bind fun found => ?_
  cases found with
  | some i => exact settles_pure _
  | none =>
      exact (settles_useEntry _ _).bind fun _ => (settles_useOptions _ _ _).bind fun _ =>
        settles_call f

theorem settles_moveDown (room cuRoom i : Nat) (groups : List (List Int)) :
    Settles (moveDown room cuRoom i groups) := by
  induction groups generalizing i with
  | nil => exact settles_pure _
  | cons cuNums groups ih =>
      exact (settles_useEntry _ _).bind fun _ => (settles_useEntry _ _).bind fun _ =>
        (settles_useOptions _ _ _).bind fun _ => ih (i + 1)

theorem settles_undeclareGroup (room cuRoom : Nat) (groups : System → List (String × List Int))
    (name : String) (f : System → System × Except XrmError Unit) :
    Settles (undeclareGroup room cuRoom groups name f) := by
  refine settles_get.bind fun s => (settles_findGroup _ _ _ _).bind fun found => ?_
  cases found with
  | none => exact settles_pure _
  | some i =>
      exact (settles_moveDown _ _ _ _).bind fun _ => (settles_useEntry _ _).bind fun _ =>
        settles_call f

theorem settles_tryOptions {α β : Type} (cuRoom : Nat)
    {attempt : α → SystemProcedure (Except XrmError β)} (h : ∀ option, Settles (attempt option))
    (cuListIdx : Nat) (options : List (Int × α)) (e : XrmError) :
    Settles (tryOptions cuRoom attempt cuListIdx options e) := by
  induction options generalizing cuListIdx e with
  | nil => exact settles_pure _
  | cons option options ih =>
      refine (settles_useEntry _ _).bind fun _ => (settles_useBelow _ _).bind fun _ => ?_
      refine (h option.2).bind fun r => ?_
      cases r with
      | ok b => exact settles_pure _
      | error e => exact ih (cuListIdx + 1) e

theorem settles_onGroup {α β : Type} (room cuRoom : Nat)
    (groups : System → List (String × List (Int × α))) (name : String)
    {attempt : α → SystemProcedure (Except XrmError β)} (h : ∀ option, Settles (attempt option)) :
    Settles (onGroup room cuRoom groups name attempt) := by
  refine settles_get.bind fun s => (settles_findGroup _ _ _ _).bind fun found => ?_
  cases found with
  | none => exact settles_pure _
  | some i => exact settles_tryOptions cuRoom h _ _ _

/-! ## Lists and pools -/

theorem settles_resIsCuListExisting (listProp : CuListProperty) :
    Settles (resIsCuListExisting listProp) := settles_guarded_call _ _ _

theorem settles_resAllocCuList (listProp : CuListProperty) : Settles (resAllocCuList listProp) :=
  settles_guarded_call _ _ _

theorem settles_resAllocCuListV2 (listProp : CuListPropertyV2) :
    Settles (resAllocCuListV2 listProp) := settles_guarded_call _ _ _

theorem settles_resReserveCuPool (poolProp : CuPoolProperty) :
    Settles (resReserveCuPool poolProp) := settles_guarded_call _ _ _

theorem settles_reserveDeviceIds (p c : Nat) (pid : Int) (i : Nat) (deviceIds : List Nat) :
    Settles (reserveDeviceIds p c pid i deviceIds) := by
  induction deviceIds generalizing i with
  | nil => exact settles_pure _
  | cons deviceId deviceIds ih =>
      have hone : Settles (resReserveDevice p deviceId c pid) :=
        (settles_guarded (settles_useEntry _ _)).bind fun _ => settles_call _
      refine (settles_useEntry _ _).bind fun _ => hone.bind fun r => ?_
      cases r with
      | ok _ => exact ih (i + 1)
      | error e => exact settles_pure _

theorem settles_reserveCopiesV2 (p : Nat) (listProp : CuListPropertyV2) (n i : Nat) :
    Settles (reserveCopiesV2 p listProp n i) := by
  induction n generalizing i with
  | zero => exact settles_pure _
  | succ n ih =>
      have hone : Settles (resReserveCuListV2 p listProp) := settles_guarded_call _ _ _
      refine (settles_useEntry _ _).bind fun _ => hone.bind fun r => ?_
      cases r with
      | ok deviceIds => exact ih (i + 1)
      | error e => exact settles_pure _

theorem settles_resReserveCuPoolV2 (poolProp : CuPoolPropertyV2) :
    Settles (resReserveCuPoolV2 poolProp) := by
  refine (settles_pure _).ite ((settles_pure _).ite ?_)
  refine settles_get.bind fun s => (settles_reserveDeviceIds _ _ _ _ _).bind fun reserved => ?_
  refine Settles.ite ?_ (settles_call _)
  refine (settles_call _).bind fun xclbins => ?_
  cases xclbins with
  | none => exact settles_call _
  | some xclbinDevIds =>
      exact (settles_reserveCopiesV2 _ _ _ _).bind fun _ => (settles_call _).ite (settles_call _)

/-! ## Answers -/

theorem settles_answerList (room : Nat) {p : SystemProcedure (Except XrmError CuListResource)}
    (h : Settles p) : Settles (answerList room p) := by
  refine h.bind fun r => ?_
  cases r with
  | ok listRes => exact settles_useBelow _ _
  | error e => exact settles_pure _

theorem settles_useInfor (cuNum : Int) (n i : Nat) : Settles (useInfor cuNum n i) := by
  induction n generalizing i with
  | zero => exact settles_pure _
  | succ n ih =>
      exact (settles_useEntry _ _).bind fun _ => (settles_useBelow _ _).bind fun _ => ih (i + 1)

theorem settles_answerPool (poolProp : CuPoolPropertyV2) : Settles (answerPool poolProp) :=
  (settles_resReserveCuPoolV2 poolProp).bind fun _ =>
    (settles_useInfor _ _ _).ite (settles_pure _)

end Indexed

namespace IndexingCommand

/-- The commands that repeat a call until it fails. -/
def Queries : IndexingCommand → Prop
  | checkCuListAvailableNum | checkCuListAvailableNumV2 | checkCuGroupAvailableNum
  | checkCuGroupAvailableNumV2 | checkCuPoolAvailableNum | checkCuPoolAvailableNumV2 => True
  | _ => False

open Indexed in
theorem settles_body {c : IndexingCommand} (hc : ¬c.Queries) (conv : Conversion) (fuel : Nat)
    (t : DataTree) : Settles (c.body conv fuel t) := by
  have hdiscard : ∀ {α : Type} {p : SystemProcedure α}, Settles p →
      Settles (p >>= fun _ => pure ()) := fun hp => hp.bind fun _ => settles_pure ()
  cases c with
  | isCuListExisting => exact hdiscard (settles_resIsCuListExisting _)
  | isCuGroupExisting =>
      exact hdiscard (settles_onGroup _ _ _ _ fun option =>
        (settles_resIsCuListExisting _).bind fun _ => (settles_pure _).ite (settles_pure _))
  | cuAllocFromDev | cuAllocLeastUsedFromDev => exact hdiscard (settles_onDevice _ _)
  | cuRelease | cuReleaseV2 => exact hdiscard (settles_resReleaseCu _)
  | cuCheckStatus => exact hdiscard (settles_checkCuStat _)
  | cuListAlloc => exact settles_answerList _ (settles_resAllocCuList _)
  | cuListAllocV2 => exact settles_answerList _ (settles_resAllocCuListV2 _)
  | cuListRelease | cuListReleaseV2 | cuGroupRelease | cuGroupReleaseV2 =>
      exact hdiscard (settles_releaseList _ _)
  | udfCuGroupDeclare | udfCuGroupDeclareV2 => exact hdiscard (settles_declareGroup _ _ _ _ _ _)
  | udfCuGroupUndeclare | udfCuGroupUndeclareV2 => exact hdiscard (settles_undeclareGroup _ _ _ _ _)
  | cuGroupAlloc =>
      exact settles_answerList _ (settles_onGroup _ _ _ _ fun _ => settles_resAllocCuList _)
  | cuGroupAllocV2 =>
      exact settles_answerList _ (settles_onGroup _ _ _ _ fun _ => settles_resAllocCuListV2 _)
  | cuPoolReserve => exact hdiscard (settles_resReserveCuPool _)
  | cuPoolReserveV2 => exact settles_answerPool _
  | checkCuListAvailableNum | checkCuListAvailableNumV2 | checkCuGroupAvailableNum
  | checkCuGroupAvailableNumV2 | checkCuPoolAvailableNum | checkCuPoolAvailableNumV2 =>
      exact absurd trivial hc

end IndexingCommand

end Xrm
