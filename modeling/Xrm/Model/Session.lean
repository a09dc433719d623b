import Xrm.Model.System

/-! # Sessions

A session is a chain of asynchronous operations on one connection: it waits for a read, handles
the command that was read, waits for the response to be written, and reads again.
-/

namespace Xrm

/-! ## Completions -/

/-- The error code with which an asynchronous operation completes. -/
inductive ErrorCode where
  | success
  | eof
  | connectionReset
  | other (value : Int)
  deriving Repr, DecidableEq

/-- The codes of a read after which `doRead` recycles the client. -/
def ErrorCode.closes (ec : ErrorCode) : Bool := ec == .eof || ec == .connectionReset

/-- The operation that a session waits for. -/
inductive Waiting where
  | read
  | write
  | nothing
  deriving Repr, DecidableEq

/-! ## Commands -/

/-- The operations that a command may run under the lock: clients are not created, recycled or
reset by them. -/
def Op.commanded : Op → Bool
  | .createContext => false
  | .recycleResource _ => false
  | .resetDevice _ _ => false
  | _ => true

/-- An operation of a command, as the library sends it. -/
structure CommandOp where
  op : Op
  commanded : op.commanded = true
  sent : op.Sent

/-- What a command does to the system. A command that is not well formed does nothing. -/
inductive Request where
  | createContext
  | destroyContext (clientId : Nat)
  | operations (ops : List CommandOp)

/-- A command: the client that it asks to record for the session, and what it does. -/
structure Command where
  record : Option (Nat × Int)
  request : Request

/-- The effect of a command on the system. -/
def System.processCmd (s : System) : Request → System
  | .createContext => s.createContext.1
  | .destroyContext clientId => if clientId ≠ 0 then s.recycleResource clientId else s
  | .operations ops => ops.foldl (fun s o => step s o.op) s

/-! ## One session -/

structure Session where
  clientId : Nat
  clientProcessId : Int
  waiting : Waiting
  deriving Repr, DecidableEq

namespace Session

/-- A session right after `start`. -/
def start : Session where
  clientId := 0
  clientProcessId := 0
  waiting := .read

/-- Record the client if the command asks for it; then the response is written. -/
def handleCmd (session : Session) (cmd : Command) : Session :=
  let session :=
    match cmd.record with
    | some (clientId, clientProcessId) =>
        { session with clientId := clientId, clientProcessId := clientProcessId }
    | none => session
  { session with waiting := .write }

/-- The client of the session, if one is recorded. -/
def client (session : Session) : List Nat :=
  if session.clientId ≠ 0 then [session.clientId] else []

/-- A read completes. The result includes the clients that are recycled. -/
def doRead (session : Session) (ec : ErrorCode) (length : Nat) (cmd : Command) :
    Session × List Nat :=
  let recycled := if ec.closes then session.client else []
  if length = 0 then ({ session with waiting := .nothing }, recycled)
  else (session.handleCmd cmd, recycled)

/-- A write completes. The result includes the clients that are recycled. -/
def doWrite (session : Session) (ec : ErrorCode) : Session × List Nat :=
  if ec ≠ .success then ({ session with waiting := .nothing }, session.client)
  else ({ session with waiting := .read }, [])

end Session

/-! ## The daemon -/

/-- The system with the sessions in the order of their connections. -/
structure Daemon where
  system : System
  sessions : List Session

/-- What can happen to the daemon: a connection, a completion on session `k`, or the thread
that resets devices at work. -/
inductive Event where
  | accept
  | doRead (k : Nat) (ec : ErrorCode) (length : Nat) (cmd : Command)
  | doWrite (k : Nat) (ec : ErrorCode)
  | getDeviceNumber (env : XrtEnv)
  | resetDevice (env : XrtEnv) (devId : Nat)

namespace Daemon

def start (limitConcurrentClient : Nat) : Daemon where
  system := System.initSystem limitConcurrentClient
  sessions := []

/-- Session `k`, if it waits for the operation. -/
def waits (d : Daemon) (k : Nat) (waiting : Waiting) : Option Session :=
  (d.sessions[k]?).filter (·.waiting == waiting)

/-- The daemon after the event; a session only completes what it waits for. -/
def step (d : Daemon) : Event → Daemon
  | .accept => { d with sessions := d.sessions ++ [Session.start] }
  | .doRead k ec length cmd =>
      match d.waits k .read with
      | none => d
      | some session =>
          let (session, recycled) := session.doRead ec length cmd
          let system := recycled.foldl System.recycleResource d.system
          { system := if length = 0 then system else system.processCmd cmd.request
            sessions := d.sessions.set k session }
  | .doWrite k ec =>
      match d.waits k .write with
      | none => d
      | some session =>
          let (session, recycled) := session.doWrite ec
          { system := recycled.foldl System.recycleResource d.system
            sessions := d.sessions.set k session }
  | .getDeviceNumber env => { d with system := d.system.initDevices env }
  | .resetDevice env devId => { d with system := (d.system.resetDevice env devId).1 }

end Daemon

end Xrm
