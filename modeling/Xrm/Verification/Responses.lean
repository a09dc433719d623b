import Xrm.Model.Dispatch
import Xrm.Verification.CheckedLoads
import Xrm.Verification.Ending

/-! # Responses

Which requests are answered: those that give every value that their command reads without a
default, keep it inside its arrays, load no image that comes to a fault, and start no query without
an end.
-/

namespace Xrm

open Procedure Guard

/-! ## Rules of the calls -/

section Rules

variable {α : Type} {d : DaemonState Machine} {Q : α → DaemonState Machine → Prop}

/-- The daemon with another state of the system. -/
def DaemonState.withSystem (d : DaemonState Machine) (s : System) : DaemonState Machine :=
  { d with system := { d.system with system := s } }

@[simp]
theorem DaemonState.withSystem_responses (d : DaemonState Machine) (s : System) :
    (d.withSystem s).responses = d.responses := rfl

@[simp]
theorem DaemonState.withSystem_system (d : DaemonState Machine) (s : System) :
    (d.withSystem s).system.system = s := rfl

@[simp]
theorem ends_inSystem (p : Procedure System α) :
    Ends (inSystem p) d Q ↔ Ends p d.system.system fun a s => Q a (d.withSystem s) :=
  ends_focus _ _ p

@[simp]
theorem ends_modifySystem (f : System → System) {Q : Unit → DaemonState Machine → Prop} :
    Ends (modifySystem f) d Q ↔ Q () (d.withSystem (f d.system.system)) := by
  rw [modifySystem, ends_inSystem, ends_modify]

@[simp]
theorem ends_modifyTables (f : Tables → Tables) {Q : Unit → DaemonState Machine → Prop} :
    Ends (modifyTables f) d Q ↔
      Q () { d with system := { d.system with tables := f d.system.tables } } := ends_modify _

@[simp]
theorem ends_call {σ : Type} (f : σ → σ × α) {s : σ} {Q : α → σ → Prop} :
    Ends (call f) s Q ↔ Q (f s).2 (f s).1 := by
  simp [call]

@[simp]
theorem ends_ask (f : System → α) :
    Ends (ask f) d Q ↔ Q (f d.system.system) d := by
  rw [ask, ends_inSystem, ends_call]
  rfl

/-- A checked operation that comes to a fault where it is not safe. -/
theorem ends_checked {f : System → Except Fault (System × α)} {x : System × α} {safe : Prop}
    (h : Guards (f d.system.system) x safe) :
    Ends (checked f) d Q ↔ safe ∧ Q x.2 (d.withSystem x.1) := by
  refine (ends_inSystem _).trans ?_
  by_cases hsafe : safe
  · simp [Ends, h.ok hsafe, hsafe]
  · obtain ⟨e, he⟩ := h.fault hsafe
    refine iff_of_false (fun hends => ?_) fun hboth => hsafe hboth.1
    obtain ⟨a, s', heq, -⟩ := hends
    simp only [he] at heq
    cases e <;> cases heq

@[simp]
theorem ends_watched (f : System → Option (System × α)) {Q : Unit → DaemonState Machine → Prop} :
    Ends (watched f) d Q ↔ ∃ r, f d.system.system = some r ∧ Q () (d.withSystem r.1) := by
  refine (ends_inSystem _).trans ?_
  cases hf : f d.system.system with
  | none => simp [Ends, hf]
  | some r =>
      simp only [Ends, hf, Option.some.injEq, exists_eq_left']
      constructor
      · rintro ⟨_, _, heq, h⟩
        cases heq
        exact h
      · exact fun h => ⟨(), r.1, rfl, h⟩

@[simp]
theorem ends_underLock (p : MachineProcedure Unit) {Q : Unit → DaemonState Machine → Prop} :
    Ends (underLock p) d Q ↔ d.locked = false ∧
      Ends p { d with locked := true } fun _ d' => Q () { d' with locked := false } := by
  simp [underLock]

end Rules

/-! ## What the commands need -/

section Conditions

variable (sv : Services)

/-- Up to the first device on which the operation fails, every entry is an integer. -/
def DevicesGiven (ty : IntType) (all : Bool) (f : DeviceOperation) :
    Nat → List DataTree → System → Prop
  | _, [], _ => True
  | k, it :: rest, s =>
      ∃ devId, sv.convert ty it.data = some devId ∧
        (¬ (all ∧ devId = -2) → (f (sv.env k) devId s).2.2 = .ok () →
          DevicesGiven ty all f (k + 1) rest (f (sv.env k) devId s).1)

/-- Up to the first entry that ends the loads, the device of every entry is a number, and its image
can be loaded there. -/
def LoadsGiven : Nat → List DataTree → System → Prop
  | _, [], _ => True
  | attempt, kv :: rest, s =>
      emptyText (kv.textD ["device"]) = true ∨
        ∃ devId, stoi (kv.textD ["device"]) = some devId ∧
          if devId < -2 ∨ devId = -1 ∨ devId ≥ s.numDevice ∨ textOf (kv.textD ["xclbin"]) = "" then
            True
          else if devId = -2 then
            Checked.AllSafe (sv.env 0) attempt (textOf (kv.textD ["xclbin"]))
                (List.range s.numDevice) s "" ∧
              LoadsGiven (attempt + 1) rest
                (System.loadAllDevices (sv.env 0) attempt (textOf (kv.textD ["xclbin"]))
                  (List.range s.numDevice) s "" "" (.ok ())).1
          else
            Checked.XclbinSafe (sv.env 0) attempt devId.toNat (textOf (kv.textD ["xclbin"])) s ∧
              ((s.deviceLoadXclbin (sv.env 0) attempt devId.toNat (textOf (kv.textD ["xclbin"]))
                  "").2.2 = .ok () →
                LoadsGiven (attempt + 1) rest
                  (s.deviceLoadXclbin (sv.env 0) attempt devId.toNat (textOf (kv.textD ["xclbin"]))
                    "").1)

namespace RegisteredCommand

/-- What a command needs once it has the values that it reads first: the values that it reads later,
images that can be loaded, indices that lead into the arrays, and a query that comes to an end. -/
def Accepts (t part : DataTree) (s : System) : RegisteredCommand → Prop
  | list =>
      (getInt? sv.convert t .int32 ["request", "requestId"]).isSome ∧
        (emptyText (t.textD ["request", "device"]) ∨ (stoi (t.textD ["request", "device"])).isSome)
  | load => LoadsGiven sv 0 part.items (s.initDevices (sv.env 0))
  | loadOneDevice =>
      AllMet sv.convert t [.value (parameters ++ ["xclbinFileName"]) .text,
          .value (parameters ++ ["deviceId"]) (.int .int32)] ∧
        Checked.OneSafe (sv.env 0) (deviceIdOf sv t) (xclbinFileNameOf t) (s.initDevices (sv.env 0))
  | unload => DevicesGiven sv .int32 true unloadDevice 0 part.items s
  | enableDevices => DevicesGiven sv .uint32 false enableDevice 0 part.items s
  | disableDevices => DevicesGiven sv .uint32 false disableDevice 0 part.items s
  | destroyContext => AllMet sv.convert t [.value (parameters ++ ["clientId"]) (.int .uint64)]
  | cuAllocWithLoad => Checked.WithLoadSafe (sv.env 0) (propOf sv t) (xclbinFileNameOf t) s
  | cuAllocLeastUsedWithLoad =>
      Checked.LeastUsedWithLoadSafe (sv.env 0) (propOf sv t) (xclbinFileNameOf t) s
  | loadAndAllCuAlloc => Checked.AnySafe (sv.env 0) (xclbinFileNameOf t) s
  | checkCuAvailableNumV2 => s.NoneHollow (propOfV2 sv t)
  | indexing c => c.Within sv.convert t s ∧ c.LoopEnds sv.convert t
  | _ => True

/-- What a command needs to come to its end: the values that it reads, and what its body needs if
the request has the part for it. -/
def Passes (t : DataTree) (s : System) (c : RegisteredCommand) : Prop :=
  AllMet sv.convert t (c.handler.reads sv.convert t) ∧
    match c.handler.part with
    | none => c.Accepts sv t t s
    | some path => ∀ part, t.getChild? path = some part → c.Accepts sv t part s

end RegisteredCommand

/-- A request that can be answered: it is not JSON, it lacks a name or an id, or the client that it
records is given and, if its command is registered, the command has what it needs. -/
def Answerable (s : System) : Except String DataTree → Prop
  | .error _ => True
  | .ok t =>
      emptyText (t.textD ["request", "name"]) ∨ emptyText (t.textD ["request", "requestId"]) ∨
        (emptyText (t.textD (parameters ++ ["recordClientId"])) ∨
          AllMet sv.convert t [.value (parameters ++ ["clientId"]) (.int .uint64),
            .value (parameters ++ ["clientProcessId"]) (.int .int32)]) ∧
        ∀ c, findCommand (t.textD ["request", "name"]) = some c → c.Passes sv t s

/-- The command ends with one more response and the lock free. -/
def Responds (m_cmdtree : Except String DataTree) (d : DaemonState Machine) : Prop :=
  ∃ fuel d' r, handleCmd sv fuel m_cmdtree d = .ok () d' ∧ d'.locked = false ∧
    d'.responses = d.responses ++ [r]

end Conditions

/-! ## The loops over the entries -/

section Loops

variable {sv : Services} {rs : List Response}

theorem ends_forEachDevice (ty : IntType) (all : Bool) (f : DeviceOperation) (k : Nat)
    (its : List DataTree) (d : DaemonState Machine) :
    Ends (forEachDevice sv ty all f k its) d (fun _ d' => d'.responses = rs) ↔
      DevicesGiven sv ty all f k its d.system.system ∧ d.responses = rs := by
  induction its generalizing d k with
  | nil => simp [forEachDevice, DevicesGiven]
  | cons it rest ih =>
      simp only [forEachDevice, DevicesGiven, ends_bind, ends_require, ends_ite,
        ← exists_and_right]
      refine exists_congr fun devId => ?_
      rw [and_assoc]
      refine and_congr_right fun _ => ?_
      by_cases hall : all = true ∧ devId = -2
      · simp [hall]
      · rw [if_neg hall]
        simp only [ends_inSystem, ends_call, hall, not_false_eq_true, true_implies]
        generalize f (sv.env k) devId d.system.system = r
        obtain ⟨s, errmsg, ret⟩ := r
        cases ret with
        | ok _ => simp [ih]
        | error e => simp

theorem ends_loadDevices (henv : ∀ k, (sv.env k).Apart) (attempt : Nat) (its : List DataTree)
    (d : DaemonState Machine) (hs : d.system.system.AtRest) :
    Ends (loadDevices sv attempt its) d (fun _ d' => d'.responses = rs) ↔
      LoadsGiven sv attempt its d.system.system ∧ d.responses = rs := by
  induction its generalizing d attempt with
  | nil => simp [loadDevices, LoadsGiven]
  | cons kv rest ih =>
      simp only [loadDevices, LoadsGiven, ends_bind, ends_require, ends_ite, ends_ask, ends_pure]
      by_cases hdev : emptyText (kv.textD ["device"]) = true
      · simp [hdev]
      simp only [hdev, Bool.false_eq_true, if_false, false_or, ← exists_and_right]
      refine exists_congr fun devId => ?_
      rw [and_assoc]
      refine and_congr_right fun _ => ?_
      -- the entry ends the loads, names all devices, or names one
      split
      · simp
      split
      · have hall := Checked.loadAllDevices_guards (henv 0) attempt (textOf (kv.textD ["xclbin"]))
          (List.range d.system.system.numDevice) hs "" ""
        rw [ends_checked hall, ih _ _ (hs.loadAllDevices _ _ _ _ _ _ _), and_assoc]
        rfl
      · have hone := Checked.loadXclbin_guards (henv 0) hs attempt devId.toNat
          (textOf (kv.textD ["xclbin"])) ""
        have hafter := hs.deviceLoadXclbin (sv.env 0) attempt devId.toNat
          (textOf (kv.textD ["xclbin"])) ""
        rw [ends_checked hone, and_assoc]
        refine and_congr_right fun _ => ?_
        generalize d.system.system.deviceLoadXclbin (sv.env 0) attempt devId.toNat
          (textOf (kv.textD ["xclbin"])) "" = r at hafter ⊢
        obtain ⟨s, errmsg, ret⟩ := r
        cases ret with
        | ok _ => simp [ih _ (d.withSystem s) hafter]
        | error e => simp

end Loops

/-! ## Commands -/

section Commands

variable {sv : Services} {t part : DataTree} {s : System} {tables : Tables} {rs : List Response}

/-- The lock is free, with the responses as they were. -/
abbrev Free (rs : List Response) : Unit → DaemonState Machine → Prop :=
  fun _ d => d.locked = false ∧ d.responses = rs

/-- An operation under the lock that may come to a fault. -/
theorem ends_underLock_checked {α : Type} {f : System → Except Fault (System × α)}
    {x : System × α} {safe : Prop} (h : Guards (f s) x safe) :
    Ends (underLock do let _ ← checked f) ⟨⟨s, tables⟩, false, rs⟩ (Free rs) ↔ safe := by
  have hends := @ends_checked α ⟨⟨s, tables⟩, true, rs⟩ (fun _ d => d.responses = rs) f x safe h
  simpa [Free] using hends

namespace RegisteredCommand

/-- A query for one CU comes to an end. -/
theorem exists_fuel_checkCuAvailableNum (hs : s.Ready) :
    ∃ fuel, Ends (checkCuAvailableNum.body sv t fuel part) ⟨⟨s, tables⟩, false, rs⟩ (Free rs) := by
  obtain ⟨fuel, r, hr⟩ := System.availableNum_ends
    (System.drains_resAllocCu (propOf sv t) true).supply hs.good.sound.countable
    System.resReleaseCu
  exact ⟨fuel, by simpa [body, Free, System.checkCuAvailableNum] using ⟨_, _, hr⟩⟩

/-- A query for one CU under a policy comes to an end unless a CU to which it may come is hollow. -/
theorem exists_fuel_checkCuAvailableNumV2 (hs : s.Ready) :
    (∃ fuel,
        Ends (checkCuAvailableNumV2.body sv t fuel part) ⟨⟨s, tables⟩, false, rs⟩ (Free rs)) ↔
      s.NoneHollow (propOfV2 sv t) := by
  constructor
  · rintro ⟨fuel, hends⟩
    by_contra hhollow
    obtain ⟨i, htries, hfeeds⟩ := System.exists_feedsAt hs.good.sound hs.numbered hhollow
    have hnone := hfeeds.query_endless htries fuel
    simp [body, hnone] at hends
  · intro hsolid
    have hsupplies : s.Supplies (propOfV2 sv t) :=
      ⟨fun dev hdev cu hcu => ((hs.good.sound dev hdev).consistent cu hcu).tallied, hsolid⟩
    obtain ⟨fuel, r, hr⟩ := System.availableNum_ends (System.supply_resAllocCuV2 (propOfV2 sv t))
      hsupplies System.resReleaseCu
    exact ⟨fuel, by simpa [body, Free, System.checkCuAvailableNumV2] using ⟨_, _, hr⟩⟩

/-- What the body of a command needs. -/
theorem exists_fuel_body (henv : ∀ k, (sv.env k).Apart) (hs : s.Ready) {c : RegisteredCommand}
    (hreads : AllMet sv.convert t (c.handler.reads sv.convert t)) :
    (∃ fuel, Ends (c.body sv t fuel part) ⟨⟨s, tables⟩, false, rs⟩ (Free rs)) ↔
      c.Accepts sv t part s := by
  have hrest : s.AtRest := hs.good.sound.atRest
  have hinit : (s.initDevices (sv.env 0)).AtRest := hrest.initDevices (sv.env 0)
  cases c with
  | list =>
      cases hdev : emptyText (t.textD ["request", "device"]) <;>
        simp [body, Accepts, Free, listDevices, AllMet, Demand.Met, hdev, Option.isSome_iff_exists]
  | load =>
      have hloads := @ends_loadDevices sv rs henv 0 part.items
        (DaemonState.withSystem ⟨⟨s, tables⟩, true, rs⟩ (s.initDevices (sv.env 0))) hinit
      simpa [body, Accepts, Free] using hloads
  | loadOneDevice =>
      have hload := @ends_checked _
        (DaemonState.withSystem ⟨⟨s, tables⟩, true, rs⟩ (s.initDevices (sv.env 0)))
        (fun _ d => d.responses = rs)
        (fun s => Checked.loadOneDevice s (sv.env 0) (deviceIdOf sv t) (xclbinFileNameOf t) "") _ _
        (Checked.loadOneDevice_guards (henv 0) hinit (deviceIdOf sv t) (xclbinFileNameOf t) "")
      simpa [body, Accepts, Free] using fun _ => hload
  | unload => simp [body, Accepts, Free, ends_forEachDevice]
  | enableDevices => simp [body, Accepts, Free, ends_forEachDevice]
  | disableDevices => simp [body, Accepts, Free, ends_forEachDevice]
  | destroyContext =>
      simp only [body, Accepts, ends_underLock, ends_bind, ends_demandAll, exists_const]
      by_cases hclient : clientIdOf sv t = 0 <;> simp [hclient, Free]
  | checkCuAvailableNum => exact iff_of_true (exists_fuel_checkCuAvailableNum hs) trivial
  | checkCuAvailableNumV2 => exact exists_fuel_checkCuAvailableNumV2 hs
  | cuAllocWithLoad =>
      exact (exists_const _).trans (ends_underLock_checked
        (Checked.resAllocCuWithLoad_guards (henv 0) hrest _ _ true))
  | cuAllocLeastUsedWithLoad =>
      exact (exists_const _).trans (ends_underLock_checked
        (Checked.resAllocCuLeastUsedWithLoad_guards (henv 0) hrest _ _ true))
  | loadAndAllCuAlloc =>
      exact (exists_const _).trans (ends_underLock_checked
        (Checked.resLoadAndAllocAllCu_guards (henv 0) hrest _ _ _))
  | indexing c =>
      rw [Accepts, ← IndexingCommand.ends_body hs hreads]
      simp [body, Free]
  | _ => simp [body, Accepts, Free]

/-- What a command needs. -/
theorem exists_fuel_processCmd (henv : ∀ k, (sv.env k).Apart) (hs : s.Ready)
    (c : RegisteredCommand) :
    (∃ fuel, Ends (c.processCmd sv t fuel) ⟨⟨s, tables⟩, false, rs⟩ fun _ => Free rs ()) ↔
      c.Passes sv t s := by
  simp only [processCmd, ends_bind, ends_demandAll, ends_pure, exists_and_left, Passes]
  refine and_congr_right fun hreads => ?_
  cases hpart : c.handler.part with
  | none =>
      simp only [runBody, hpart]
      exact exists_fuel_body henv hs hreads
  | some path =>
      cases hchild : t.getChild? path with
      | none => simp [runBody, hpart, hchild, Free]
      | some part =>
          simp only [runBody, hpart, hchild, Option.some.injEq, forall_eq']
          exact exists_fuel_body henv hs hreads

end RegisteredCommand

theorem exists_fuel_dispatch (henv : ∀ k, (sv.env k).Apart) (hs : s.Ready) (name : String) :
    (∃ fuel, Ends (dispatch sv fuel name t) ⟨⟨s, tables⟩, false, rs⟩ fun _ => Free rs ()) ↔
      ∀ c, findCommand name = some c → c.Passes sv t s := by
  cases hfind : findCommand name with
  | none => simp [dispatch, hfind, Free]
  | some c =>
      simp only [dispatch, hfind, Option.some.injEq, forall_eq']
      exact c.exists_fuel_processCmd henv hs

theorem exists_fuel_respond (henv : ∀ k, (sv.env k).Apart) (hs : s.Ready) (t : DataTree) :
    (∃ fuel, Ends (respond sv fuel t) ⟨⟨s, tables⟩, false, rs⟩ fun _ => Free rs ()) ↔
      Answerable sv s (.ok t) := by
  simp only [respond, Answerable, ends_ite]
  cases hname : emptyText (t.textD ["request", "name"]) with
  | true => simp [Free]
  | false =>
      cases hid : emptyText (t.textD ["request", "requestId"]) with
      | true => simp [Free]
      | false =>
          cases hrec : emptyText (t.textD (parameters ++ ["recordClientId"])) with
          | true => simpa using exists_fuel_dispatch henv hs _
          | false => simpa using fun _ => exists_fuel_dispatch henv hs _

theorem responds_iff_of_ready (henv : ∀ k, (sv.env k).Apart) (hs : s.Ready)
    (m_cmdtree : Except String DataTree) :
    Responds sv m_cmdtree ⟨⟨s, tables⟩, false, rs⟩ ↔ Answerable sv s m_cmdtree := by
  have hends : Responds sv m_cmdtree ⟨⟨s, tables⟩, false, rs⟩ ↔
      ∃ fuel, Ends (handleCmd sv fuel m_cmdtree) ⟨⟨s, tables⟩, false, rs⟩
        fun _ d => d.locked = false ∧ ∃ r, d.responses = rs ++ [r] := by
    constructor
    · rintro ⟨fuel, d, r, h, hlocked, hr⟩
      exact ⟨fuel, (), d, h, hlocked, r, hr⟩
    · rintro ⟨fuel, _, d, h, hlocked, r, hr⟩
      exact ⟨fuel, d, r, h, hlocked, hr⟩
  rw [hends]
  cases m_cmdtree with
  | error message => simp [handleCmd, Answerable]
  | ok t => simpa [handleCmd, Free] using exists_fuel_respond henv hs t

end Commands

/-! ## A daemon that exits -/

/-- The surroundings of a small installation without plugins. -/
def smallServices : Services where
  convert := IntType.read
  env := fun _ => Scenario.env 1 1
  linker :=
    { dlopen := fun _ => .error "no such file"
      dlsym := fun _ _ => .error "undefined symbol" }

/-- Tables without an entry. -/
def noTables : Tables := .init [] [] []

/-- The request of a client that gives nothing but its context. -/
def contextRequest (name : String) : DataTree :=
  .branch [("request",
    .branch [("name", .leaf name), ("requestId", .leaf "1"),
      ("parameters", .branch [("context", .leaf "xrm")])])]

theorem answerable_createContext (s : System) :
    Answerable smallServices s (.ok (contextRequest "createContext")) := by
  have hfind : findCommand "createContext" = some .createContext := by decide
  refine .inr (.inr ⟨.inl (by decide), fun c hc => ?_⟩)
  change findCommand "createContext" = some c at hc
  rw [hfind, Option.some.injEq] at hc
  subst hc
  exact ⟨by decide, trivial⟩

theorem not_answerable_cuAlloc (s : System) :
    ¬Answerable smallServices s (.ok (contextRequest "cuAlloc")) := by
  have hfind : findCommand "cuAlloc" = some .cuAlloc := by decide
  rintro (hname | hid | ⟨-, hcommands⟩)
  · revert hname
    decide
  · revert hid
    decide
  · obtain ⟨hreads, -⟩ := hcommands .cuAlloc hfind
    revert hreads
    decide

open Scenario in
/-- A loaded card with a channel of client 1 in use. -/
def answerRun : List Op :=
  [.loadOneDevice (env 1 1) 0 "scaler.xclbin", .resAllocCu (request 1 0 300000) true]

end Xrm
