import Xrm.Verification.Runs

/-! # The accounts of the clients

The daemon counts the clients that it has granted an id. Every recycling lowers the count, but
the end of a client can recycle it several times, and a device reset recycles clients that live
on.
-/

namespace Xrm

open Transition

/-! ## What changes the count -/

namespace System

variable {D : Discipline} {s : System}

theorem Good.recycle_frame {c : Nat} (h : s.Good allRuns) (hc : c ≠ 0) :
    (s.recycleResource c).Good allRuns ∧
      (s.recycleResource c).numConcurrentClient = s.numConcurrentClient - 1 ∧
      (s.recycleResource c).limitConcurrentClient = s.limitConcurrentClient := by
  have hev : Evolves allRuns s (recycleDevices c (List.range s.numDevice) s 0) :=
    recycleDevices_evolves hc _ List.nodup_range s 0 h.sound False.elim
  refine ⟨h.recycle hc False.elim, ?_, hev.frame.limit⟩
  rw [recycleResource, decNumConcurrentClient]
  exact congrArg (· - 1) hev.frame.numClient

theorem Good.recycleAll_frame {clients : List Nat} (h : s.Good allRuns)
    (hclients : ∀ c ∈ clients, c ≠ 0) :
    (clients.foldl recycleResource s).Good allRuns ∧
      (clients.foldl recycleResource s).numConcurrentClient =
        s.numConcurrentClient - clients.length ∧
      (clients.foldl recycleResource s).limitConcurrentClient = s.limitConcurrentClient := by
  induction clients generalizing s with
  | nil => exact ⟨h, rfl, rfl⟩
  | cons c clients ih =>
      obtain ⟨hgood, hnum, hlimit⟩ := h.recycle_frame (hclients c (by simp))
      obtain ⟨hgood', hnum', hlimit'⟩ := ih hgood fun d hd => hclients d (by simp [hd])
      refine ⟨hgood', ?_, hlimit'.trans hlimit⟩
      rw [List.foldl_cons, hnum', hnum, List.length_cons]
      omega

/-- The clients that `resetDevice` recycles. -/
def resetClients (s : System) (devId : Nat) : List Nat :=
  match s.devList[devId]? with
  | none => []
  | some dev => if dev.deviceHandle then clientsOn dev else []

theorem Good.reset_frame (h : s.Good allRuns) (env : XrtEnv) (devId : Nat) :
    (s.resetDevice env devId).1.Good allRuns ∧
      (s.resetDevice env devId).1.numConcurrentClient =
        s.numConcurrentClient - (s.resetClients devId).length ∧
      (s.resetDevice env devId).1.limitConcurrentClient = s.limitConcurrentClient := by
  refine ⟨h.reset env devId False.elim, ?_⟩
  rw [resetDevice, resetClients]
  cases s.devList[devId]? with
  | none => exact ⟨rfl, rfl⟩
  | some dev =>
      dsimp only
      by_cases hhandle : dev.deviceHandle = true
      · obtain ⟨hgood, hnum, hlimit⟩ := h.recycleAll_frame (clientsOn_ne_zero dev)
        have hframe :=
          (unloadOneDevice_evolves allRuns ((clientsOn dev).foldl recycleResource s) env devId
            "").frame
        rw [if_pos hhandle, if_pos hhandle]
        split
        · exact ⟨hframe.numClient.trans hnum, hframe.limit.trans hlimit⟩
        · exact ⟨hframe.numClient.trans hnum, hframe.limit.trans hlimit⟩
      · rw [if_neg hhandle, if_neg hhandle]
        exact ⟨rfl, rfl⟩

theorem Good.operations_frame (h : s.Good allRuns) (ops : List CommandOp) :
    (ops.foldl (fun s o => step s o.op) s).Good allRuns ∧
      Frame s (ops.foldl (fun s o => step s o.op) s) := by
  induction ops generalizing s with
  | nil => exact ⟨h, Frame.refl s⟩
  | cons o ops ih =>
      have hok : StepOk allRuns s o.op :=
        ⟨o.sent, False.elim, False.elim, False.elim, False.elim⟩
      obtain ⟨hgood, hframe⟩ := ih (h.next hok)
      exact ⟨hgood, (h.moves hok o.commanded).frame.trans hframe⟩

end System

/-! ## Clients -/

/-- A client that was granted an id, with the session that asked for it. -/
structure Client where
  session : Nat
  clientId : Nat
  deriving Repr, DecidableEq

/-- The daemon with the clients that were granted an id and have not ended yet. -/
structure Accounts where
  daemon : Daemon
  clients : List Client

namespace Accounts

def start (limit : Nat) : Accounts where
  daemon := Daemon.start limit
  clients := []

/-- The clients that end when session `k` stops. -/
def ofSession (k : Nat) (client : Client) : Bool := client.session == k

/-- The clients that end when the context of client `c` is destroyed. -/
def ofId (c : Nat) (client : Client) : Bool := client.clientId == c

/-- The clients that the event ends: those of a session that stops, or whose context is
destroyed. -/
def ends (d : Daemon) : Event → Client → Bool
  | .doRead k _ length cmd =>
      match d.waits k .read with
      | none => fun _ => false
      | some _ =>
          if length = 0 then ofSession k
          else
            match cmd.request with
            | .destroyContext clientId => ofId clientId
            | _ => fun _ => false
  | .doWrite k ec =>
      match d.waits k .write with
      | none => fun _ => false
      | some _ => if ec ≠ .success then ofSession k else fun _ => false
  | _ => fun _ => false

/-- The client that the event grants an id. -/
def grants (d : Daemon) : Event → List Client
  | .doRead k ec length cmd =>
      match d.waits k .read with
      | none => []
      | some session =>
          if length = 0 then []
          else
            match cmd.request with
            | .createContext =>
                let id := (((session.doRead ec length cmd).2.foldl System.recycleResource
                  d.system).createContext).2
                if id ≠ 0 then [{ session := k, clientId := id }] else []
            | _ => []
  | _ => []

/-- The daemon and its clients after the event. -/
def next (a : Accounts) (event : Event) : Accounts where
  daemon := a.daemon.step event
  clients := a.clients.filter (!ends a.daemon event ·) ++ grants a.daemon event

/-- How often the request recycles a client. -/
def requestCalls : Request → Nat
  | .destroyContext clientId => if clientId ≠ 0 then 1 else 0
  | _ => 0

/-- How often the event recycles a client: once for a read that finds the connection closed or a
write that fails, when the session has recorded a client, once for a context destroyed, and once
for every client on a device that is reset. -/
def calls (d : Daemon) : Event → Nat
  | .doRead k ec length cmd =>
      match d.waits k .read with
      | none => 0
      | some session =>
          (session.doRead ec length cmd).2.length +
            if length = 0 then 0 else requestCalls cmd.request
  | .doWrite k ec =>
      match d.waits k .write with
      | none => 0
      | some session => (session.doWrite ec).2.length
  | .resetDevice _ devId => (d.system.resetClients devId).length
  | _ => 0

/-- The event recycles as many clients as it ends, or all there are. -/
def EndsOnce (a : Accounts) (event : Event) : Prop :=
  min (calls a.daemon event) a.clients.length =
    (a.clients.filter (ends a.daemon event ·)).length

/-- The daemon knows how many clients there are, never more than the limit, and refuses a new
one exactly when the limit is reached. -/
structure Counted (limit : Nat) (a : Accounts) : Prop where
  count : a.daemon.system.numConcurrentClient = a.clients.length
  bounded : a.daemon.system.numConcurrentClient ≤ limit
  refuses : a.daemon.system.createContext.2 = 0 ↔ a.clients.length = limit

/-! ## One event -/

/-- What holds whether the count is right or not. -/
structure InOrder (limit : Nat) (a : Accounts) : Prop where
  good : a.daemon.system.Good System.allRuns
  limit_eq : a.daemon.system.limitConcurrentClient = limit
  bounded : a.daemon.system.numConcurrentClient ≤ limit
  nonzero : ∀ client ∈ a.clients, client.clientId ≠ 0

variable {limit : Nat} {a : Accounts}

theorem createContext_eq_zero (s : System) :
    s.createContext.2 = 0 ↔ s.limitConcurrentClient ≤ s.numConcurrentClient := by
  rw [System.createContext]
  split
  · have := nextId_ne_zero s.clientId
    simp only
    omega
  · simp only [true_iff]
    omega

theorem InOrder.counted_iff (hin : InOrder limit a) :
    Counted limit a ↔ a.daemon.system.numConcurrentClient = a.clients.length := by
  have hlimit := hin.limit_eq
  have hle := hin.bounded
  refine ⟨fun h => h.count, fun h => ⟨h, hle, ?_⟩⟩
  rw [createContext_eq_zero]
  omega

theorem createContext_count (s : System) :
    s.createContext.1.limitConcurrentClient = s.limitConcurrentClient ∧
      s.createContext.1.numConcurrentClient =
        s.numConcurrentClient + if s.createContext.2 = 0 then 0 else 1 := by
  by_cases hlt : s.numConcurrentClient < s.limitConcurrentClient
  · simp [System.createContext, hlt, nextId_ne_zero]
  · simp [System.createContext, hlt]

/-- What an event does to the system: the calls lower the count, and a client that is granted an
id raises it. -/
structure Moved (limit : Nat) (s s' : System) (calls grants : Nat) : Prop where
  good : s'.Good System.allRuns
  limit_eq : s'.limitConcurrentClient = limit
  num : s'.numConcurrentClient = s.numConcurrentClient - calls + grants
  bounded : s'.numConcurrentClient ≤ limit

theorem client_ne_zero {session : Session} : ∀ c ∈ session.client, c ≠ 0 := by
  intro c hc
  rw [Session.client] at hc
  split at hc
  · rename_i hne
    rwa [List.mem_singleton.mp hc]
  · simp at hc

theorem doRead_ne_zero (session : Session) (ec : ErrorCode) (length : Nat) (cmd : Command) :
    ∀ c ∈ (session.doRead ec length cmd).2, c ≠ 0 := by
  have hif : ∀ c ∈ (if ec.closes then session.client else []), c ≠ 0 := by
    intro c hc
    split at hc
    · exact client_ne_zero c hc
    · simp at hc
  rw [Session.doRead]
  split <;> exact hif

theorem doWrite_ne_zero {session : Session} {ec : ErrorCode} :
    ∀ c ∈ (session.doWrite ec).2, c ≠ 0 := by
  rw [Session.doWrite]
  split
  · exact client_ne_zero
  · simp

theorem Moved.recycles {s : System} {clients : List Nat} (h : s.Good System.allRuns)
    (hlimit : s.limitConcurrentClient = limit) (hle : s.numConcurrentClient ≤ limit)
    (hclients : ∀ c ∈ clients, c ≠ 0) :
    Moved limit s (clients.foldl System.recycleResource s) clients.length 0 := by
  obtain ⟨hgood, hnum, hlimit'⟩ := h.recycleAll_frame hclients
  exact ⟨hgood, hlimit'.trans hlimit, hnum, by omega⟩

theorem Moved.request {s : System} (h : s.Good System.allRuns)
    (hlimit : s.limitConcurrentClient = limit) (hle : s.numConcurrentClient ≤ limit)
    (request : Request) :
    Moved limit s (s.processCmd request) (requestCalls request)
      (match request with
        | .createContext => if s.createContext.2 = 0 then 0 else 1
        | _ => 0) := by
  cases request with
  | createContext =>
      obtain ⟨hlimit', hnum⟩ := createContext_count s
      have hiff := createContext_eq_zero s
      refine ⟨h.createContext, hlimit'.trans hlimit, hnum, ?_⟩
      show s.createContext.1.numConcurrentClient ≤ limit
      rw [hnum]
      split <;> omega
  | destroyContext clientId =>
      rw [System.processCmd, requestCalls]
      by_cases hc : clientId ≠ 0
      · rw [if_pos hc, if_pos hc]
        have hmoved : Moved limit s ([clientId].foldl System.recycleResource s) _ 0 :=
          Moved.recycles h hlimit hle (by simpa using hc)
        exact hmoved
      · rw [if_neg hc, if_neg hc]
        exact ⟨h, hlimit, rfl, hle⟩
  | operations ops =>
      obtain ⟨hgood, hframe⟩ := h.operations_frame ops
      exact ⟨hgood, hframe.limit.trans hlimit, hframe.numClient,
        by rw [System.processCmd, hframe.numClient]; exact hle⟩

/-- The step lemma for the system. -/
theorem InOrder.moved (hin : InOrder limit a) (event : Event) :
    Moved limit a.daemon.system (a.daemon.step event).system (calls a.daemon event)
      (grants a.daemon event).length := by
  have hsame : Moved limit a.daemon.system a.daemon.system 0 0 :=
    ⟨hin.good, hin.limit_eq, rfl, hin.bounded⟩
  cases event with
  | accept => exact hsame
  | doRead k ec length cmd =>
      rw [Daemon.step, calls, grants]
      cases a.daemon.waits k .read with
      | none => exact hsame
      | some session =>
          have hrecycled := Moved.recycles hin.good hin.limit_eq hin.bounded
            (doRead_ne_zero session ec length cmd)
          by_cases hlength : length = 0
          · simp only [hlength, if_true] at hrecycled ⊢
            exact hrecycled
          · simp only [hlength, if_false]
            have hrequest := Moved.request hrecycled.good hrecycled.limit_eq hrecycled.bounded
              cmd.request
            refine ⟨hrequest.good, hrequest.limit_eq, ?_, hrequest.bounded⟩
            rw [hrequest.num, hrecycled.num]
            generalize cmd.request = request
            cases request with
            | createContext =>
                simp only [requestCalls, ne_eq, ite_not]
                split <;> rfl
            | destroyContext clientId =>
                simp only [List.length_nil]
                omega
            | operations ops => rfl
  | doWrite k ec =>
      rw [Daemon.step, calls]
      cases a.daemon.waits k .write with
      | none => exact hsame
      | some session =>
          exact Moved.recycles hin.good hin.limit_eq hin.bounded doWrite_ne_zero
  | getDeviceNumber env =>
      have hev := System.initDevices_evolves System.allRuns a.daemon.system env
      exact ⟨hin.good.evolves hev, hev.frame.limit.trans hin.limit_eq, hev.frame.numClient,
        hev.frame.numClient.le.trans hin.bounded⟩
  | resetDevice env devId =>
      obtain ⟨hgood, hnum, hlimit⟩ := hin.good.reset_frame env devId
      have hle := hin.bounded
      exact ⟨hgood, hlimit.trans hin.limit_eq, hnum, by
        show (a.daemon.system.resetDevice env devId).1.numConcurrentClient ≤ limit
        omega⟩

theorem grants_ne_zero (d : Daemon) (event : Event) :
    ∀ client ∈ grants d event, client.clientId ≠ 0 := by
  intro client hclient
  cases event with
  | doRead k ec length cmd =>
      rw [grants] at hclient
      split at hclient
      · simp at hclient
      split at hclient
      · simp at hclient
      split at hclient
      · simp only at hclient
        split at hclient
        · rename_i hid
          rwa [List.mem_singleton.mp hclient]
        · simp at hclient
      · simp at hclient
  | _ => simp [grants] at hclient

theorem InOrder.next (hin : InOrder limit a) (event : Event) : InOrder limit (a.next event) := by
  have hmoved := hin.moved event
  refine ⟨hmoved.good, hmoved.limit_eq, hmoved.bounded, fun client hclient => ?_⟩
  rcases List.mem_append.mp hclient with hclient | hclient
  · exact hin.nonzero client (List.mem_of_mem_filter hclient)
  · exact grants_ne_zero a.daemon event client hclient

/-- The step lemma: an event keeps the count right exactly when it recycles as many clients as
it ends. -/
theorem counted_next (hin : InOrder limit a) (hcounted : Counted limit a) (event : Event) :
    Counted limit (a.next event) ↔ a.EndsOnce event := by
  have hmoved := hin.moved event
  have hcount := hcounted.count
  have hsplit : (a.clients.filter (ends a.daemon event ·)).length +
      (a.clients.filter (!ends a.daemon event ·)).length = a.clients.length := by
    rw [← List.length_append, (List.filter_append_perm _ a.clients).length_eq]
  have hnum : (a.next event).daemon.system.numConcurrentClient =
      a.clients.length - calls a.daemon event + (grants a.daemon event).length := by
    rw [← hcount]
    exact hmoved.num
  have hlength : (a.next event).clients.length =
      (a.clients.filter (!ends a.daemon event ·)).length + (grants a.daemon event).length :=
    List.length_append
  rw [(hin.next event).counted_iff, EndsOnce]
  omega

/-! ## All runs -/

/-- The daemon and its clients after the events. -/
def after (limit : Nat) (events : List Event) : Accounts := events.foldl next (start limit)

/-- The daemon knows its clients exactly in the runs in which every event recycles as many
clients as it ends. -/
theorem clients_counted (limit : Nat) (events : List Event) :
    (∀ n, Counted limit (after limit (events.take n))) ↔
      AllOk next EndsOnce events (start limit) := by
  have hinit : System.Reachable System.allRuns limit (System.initSystem limit) := .refl
  have hin : InOrder limit (start limit) :=
    ⟨hinit.good, rfl, Nat.zero_le _, by simp [start]⟩
  refine always_iff_allOk (I := InOrder limit) (P := Counted limit)
    (fun _ event hin => hin.next event)
    (fun _ event hin hcounted => counted_next hin hcounted event) events hin ?_
  exact hin.counted_iff.mpr rfl

/-- Two clients are created, and the first one destroys its context and closes its connection:
the second one is forgotten. -/
def departureRun : List Event :=
  [.accept, .accept, .doRead 0 .success 100 ⟨none, .createContext⟩, .doWrite 0 .success,
    .doRead 1 .success 100 ⟨none, .createContext⟩, .doWrite 1 .success,
    .doRead 0 .success 100 ⟨some (1, 7), .operations []⟩, .doWrite 0 .success,
    .doRead 0 .success 100 ⟨none, .destroyContext 1⟩, .doWrite 0 .success,
    .doRead 0 .eof 0 ⟨none, .operations []⟩]

theorem clients_not_counted :
    ¬∀ limit (events : List Event), ∀ n, Counted limit (after limit (events.take n)) := by
  intro hall
  have hcount := (hall 8 departureRun 11).count
  exact absurd hcount (by decide +kernel)

end Accounts

end Xrm
