import Xrm.Model.Handlers

/-! # Demands

The rules of what a handler asks of a request and of the lock that it holds.
-/

namespace Xrm

open Procedure

section Rules

variable {σ : Type} {d : DaemonState σ}

/-! ## The lock -/

@[simp]
theorem ends_enterLock {Q : Unit → DaemonState σ → Prop} :
    Ends enterLock d Q ↔ d.locked = false ∧ Q () { d with locked := true } := by
  simp only [enterLock, ends_bind, ends_get, ends_ite, ends_stuck, ends_modify]
  cases d.locked <;> simp

@[simp]
theorem ends_exitLock {Q : Unit → DaemonState σ → Prop} :
    Ends exitLock d Q ↔ Q () { d with locked := false } := ends_modify _

/-! ## Demands -/

/-- The request meets all of the demands. -/
def AllMet (conv : Conversion) (t : DataTree) (ds : List Demand) : Prop :=
  ∀ x ∈ ds, x.Met conv t

instance (conv : Conversion) (t : DataTree) (ds : List Demand) :
    Decidable (AllMet conv t ds) := by
  unfold AllMet
  infer_instance

@[simp]
theorem ends_demand (conv : Conversion) (t : DataTree) (x : Demand)
    {Q : Unit → DaemonState σ → Prop} :
    Ends (demand conv t x) d Q ↔ x.Met conv t ∧ Q () d := by
  rcases x with ⟨path, _ | ty⟩ | ⟨i, room⟩
  · simp [demand, Demand.Met, Option.isSome_iff_exists]
  · simp [demand, Demand.Met, Option.isSome_iff_exists]
  · simp only [demand, Demand.Met, ends_ite, ends_pure, ends_overflow]
    by_cases h : i < room <;> simp [h]

@[simp]
theorem ends_demandAll (conv : Conversion) (t : DataTree) (ds : List Demand)
    {Q : Unit → DaemonState σ → Prop} :
    Ends (demandAll conv t ds) d Q ↔ AllMet conv t ds ∧ Q () d := by
  induction ds with
  | nil => simp [demandAll, AllMet]
  | cons x ds ih =>
      simp only [demandAll, ends_bind, ends_demand, ih, AllMet, List.forall_mem_cons, and_assoc]

end Rules

end Xrm
