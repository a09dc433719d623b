import Xrm.Library.Transition
import Xrm.Model.Session

/-! # The end of a session

When a session stops, its client must have been recycled by the session's own callbacks, and
never before. The callbacks recycle after some error codes only, and then they may go on.
-/

namespace Xrm

open Transition

/-- The completion of an operation of the session. -/
inductive Completion where
  | read (ec : ErrorCode) (length : Nat) (cmd : Command)
  | write (ec : ErrorCode)

/-- A session with what it has recorded and what its callbacks have recycled so far. -/
structure History where
  session : Session
  recorded : List Nat
  recycled : List Nat

/-- The client that the command asks to record. -/
def Command.recordedId (cmd : Command) : List Nat := cmd.record.toList.map (·.1)

namespace History

def start : History where
  session := Session.start
  recorded := []
  recycled := []

/-- The history after a completion; a session only completes what it waits for. -/
def next (h : History) : Completion → History
  | .read ec length cmd =>
      if h.session.waiting = .read then
        { session := (h.session.doRead ec length cmd).1
          recorded := if length = 0 then h.recorded else h.recorded ++ cmd.recordedId
          recycled := h.recycled ++ (h.session.doRead ec length cmd).2 }
      else h
  | .write ec =>
      if h.session.waiting = .write then
        { session := (h.session.doWrite ec).1
          recorded := h.recorded
          recycled := h.recycled ++ (h.session.doWrite ec).2 }
      else h

/-- Every client that was recorded has been recycled once when the session has stopped, and not
before. -/
def RecyclesOnce (h : History) : Prop :=
  ∀ c ∈ h.recorded, c ≠ 0 →
    (h.session.waiting = .nothing → h.recycled.count c = 1) ∧
      (h.session.waiting ≠ .nothing → c ∉ h.recycled)

/-- The completion stops the session only in a way that recycles the one client recorded, and
does not recycle it before. -/
def EndsWell (h : History) : Completion → Prop
  | .read ec length _ =>
      h.session.waiting = .read →
        if length = 0 then ∀ c ∈ h.recorded, c ≠ 0 → ec.closes = true ∧ c = h.session.clientId
        else ec.closes = true → h.session.clientId = 0
  | .write ec =>
      h.session.waiting = .write → ec ≠ .success →
        ∀ c ∈ h.recorded, c ≠ 0 → c = h.session.clientId

/-! ## One completion -/

/-- The session's client was recorded, and only recorded clients are recycled. -/
structure InOrder (h : History) : Prop where
  client : ∀ c ∈ h.session.client, c ∈ h.recorded
  recycled : ∀ c ∈ h.recycled, c ≠ 0 ∧ c ∈ h.recorded

variable {h : History}

theorem mem_client {session : Session} {c : Nat} :
    c ∈ session.client ↔ c ≠ 0 ∧ c = session.clientId := by
  rw [Session.client]
  split
  · rename_i hne
    rw [List.mem_singleton]
    exact ⟨fun heq => ⟨heq ▸ hne, heq⟩, fun heq => heq.2⟩
  · rename_i hzero
    simp only [List.not_mem_nil, false_iff]
    rintro ⟨hne, rfl⟩
    exact hzero hne

theorem handleCmd_client {session : Session} {cmd : Command} {c : Nat}
    (hc : c ∈ (session.handleCmd cmd).client) : c ∈ session.client ∨ c ∈ cmd.recordedId := by
  rw [mem_client] at hc ⊢
  rw [Command.recordedId]
  rw [Session.handleCmd] at hc
  cases hrecord : cmd.record with
  | none =>
      rw [hrecord] at hc
      exact .inl hc
  | some ids =>
      rw [hrecord] at hc
      exact .inr (by simpa using hc.2)

theorem InOrder.next (hin : h.InOrder) (completion : Completion) : (h.next completion).InOrder := by
  cases completion with
  | read ec length cmd =>
      rw [History.next]
      split
      · have hsub : ∀ c ∈ (if ec.closes then h.session.client else []),
            c ≠ 0 ∧ c ∈ h.recorded := by
          intro c hc
          split at hc
          · exact ⟨(mem_client.mp hc).1, hin.client c hc⟩
          · simp at hc
        by_cases hlength : length = 0
        · simp only [Session.doRead, hlength, if_true]
          refine ⟨hin.client, fun c hc => ?_⟩
          rcases List.mem_append.mp hc with hc | hc
          · exact hin.recycled c hc
          · exact hsub c hc
        · simp only [Session.doRead, hlength, if_false]
          refine ⟨fun c hc => ?_, fun c hc => ?_⟩
          · rcases handleCmd_client hc with hc | hc
            · exact List.mem_append_left _ (hin.client c hc)
            · exact List.mem_append_right _ hc
          · rcases List.mem_append.mp hc with hc | hc
            · exact ⟨(hin.recycled c hc).1, List.mem_append_left _ (hin.recycled c hc).2⟩
            · exact ⟨(hsub c hc).1, List.mem_append_left _ (hsub c hc).2⟩
      · exact hin
  | write ec =>
      rw [History.next]
      split
      · by_cases hec : ec = .success
        · simp only [Session.doWrite, hec, ne_eq, not_true_eq_false, if_false, List.append_nil]
          exact ⟨hin.client, hin.recycled⟩
        · simp only [Session.doWrite, hec, ne_eq, not_false_eq_true, if_true]
          refine ⟨hin.client, fun c hc => ?_⟩
          rcases List.mem_append.mp hc with hc | hc
          · exact hin.recycled c hc
          · exact ⟨(mem_client.mp hc).1, hin.client c hc⟩
      · exact hin

/-- While a session goes on, nothing at all has been recycled. -/
theorem RecyclesOnce.none (hin : h.InOrder) (honce : h.RecyclesOnce)
    (hwait : h.session.waiting ≠ .nothing) : h.recycled = [] := by
  refine List.eq_nil_iff_forall_not_mem.mpr fun c hc => ?_
  obtain ⟨hne, hrec⟩ := hin.recycled c hc
  exact (honce c hrec hne).2 hwait hc

theorem count_client {session : Session} {c : Nat} (hc : c ≠ 0) :
    session.client.count c = if c = session.clientId then 1 else 0 := by
  rw [Session.client]
  by_cases hzero : session.clientId = 0
  · rw [if_neg (by simpa using hzero), if_neg (by rw [hzero]; exact hc)]
    rfl
  · rw [if_pos hzero]
    by_cases heq : c = session.clientId
    · rw [if_pos heq, heq, List.count_singleton_self]
    · rw [if_neg heq, List.count_eq_zero, List.mem_singleton]
      exact heq

/-- The step lemma: a completion keeps the law exactly when it ends well. -/
theorem recyclesOnce_next (hin : h.InOrder) (honce : h.RecyclesOnce) (completion : Completion) :
    (h.next completion).RecyclesOnce ↔ h.EndsWell completion := by
  cases completion with
  | read ec length cmd =>
      rw [EndsWell, History.next]
      by_cases hwait : h.session.waiting = .read
      swap
      · rw [if_neg hwait]
        exact iff_of_true honce fun hread => absurd hread hwait
      have hnil := honce.none hin (by rw [hwait]; decide)
      simp only [hwait, if_true, forall_const, hnil, List.nil_append]
      by_cases hlength : length = 0
      · simp only [RecyclesOnce, Session.doRead, hlength, if_true, ne_eq, not_true_eq_false,
          false_implies, forall_const, and_true]
        refine forall_congr' fun c => forall_congr' fun _ => forall_congr' fun hc => ?_
        cases hcloses : ec.closes with
        | true => simp [count_client hc]
        | false => simp
      · simp only [RecyclesOnce, Session.doRead, hlength, if_false]
        have hgoes : (h.session.handleCmd cmd).waiting ≠ .nothing := by
          show Waiting.write ≠ .nothing
          decide
        constructor
        · intro hall hcloses
          by_contra hclient
          have hmem : h.session.clientId ∈ h.session.client := mem_client.mpr ⟨hclient, rfl⟩
          refine (hall _ (List.mem_append_left _ (hin.client _ hmem)) hclient).2 hgoes ?_
          rwa [if_pos hcloses]
        · intro hzero c _ hc
          refine ⟨fun hstop => absurd hstop hgoes, fun _ hmem => ?_⟩
          split at hmem
          · rename_i hcloses
            obtain ⟨hne, heq⟩ := mem_client.mp hmem
            exact hne (heq.trans (hzero hcloses))
          · simp at hmem
  | write ec =>
      rw [EndsWell, History.next]
      by_cases hwait : h.session.waiting = .write
      swap
      · rw [if_neg hwait]
        exact iff_of_true honce fun hwrite => absurd hwrite hwait
      have hnil := honce.none hin (by rw [hwait]; decide)
      simp only [hwait, if_true, forall_const, hnil, List.nil_append]
      by_cases hec : ec = .success
      · refine iff_of_true ?_ fun hne => absurd hec hne
        simp [RecyclesOnce, Session.doWrite, hec]
      · simp only [RecyclesOnce, Session.doWrite, hec, ne_eq, not_false_eq_true, if_true,
          forall_const, not_true_eq_false, false_implies, and_true]
        refine forall_congr' fun c => forall_congr' fun _ => forall_congr' fun hc => ?_
        rw [count_client hc]
        simp

/-! ## All runs -/

/-- The history of a session after the completions. -/
def after (completions : List Completion) : History := completions.foldl next start

/-- The client of a session is recycled once, when it ends, exactly in the runs in which no read
that delivers bytes recycles it, and the session stops by a read that finds the connection closed
or by a failed write, with the one client recorded that there ever was. -/
theorem recycled_once (completions : List Completion) :
    (∀ n, (after (completions.take n)).RecyclesOnce) ↔ AllOk next EndsWell completions start := by
  refine always_iff_allOk (I := InOrder) (P := RecyclesOnce)
    (fun _ completion hin => hin.next completion)
    (fun _ completion hin honce => recyclesOnce_next hin honce completion) completions ?_ ?_
  · exact ⟨by simp [start, Session.start, Session.client], by simp [start]⟩
  · simp [RecyclesOnce, start]

/-- The connection of a client times out after it was recorded. -/
theorem not_recycled_once :
    ¬∀ completions : List Completion, ∀ n, (after (completions.take n)).RecyclesOnce := by
  intro hall
  have hstop := hall
    [.read .success 100 ⟨some (1, 7), .operations []⟩, .write .success,
      .read (.other 110) 0 ⟨none, .operations []⟩] 3 1 (by decide) (by decide)
  exact absurd (hstop.1 (by decide)) (by decide)

end History

end Xrm
