import Mathlib.Data.Nat.Init

/-! # Loops without a bound

`while (true)` with a body that either goes round again or leaves the loop with a result.
-/

namespace Loop

variable {σ ρ : Type*} {body : σ → σ × Option ρ} {s s' : σ}

/-- The first `fuel` rounds. -/
def run (body : σ → σ × Option ρ) : ℕ → σ → σ × Option ρ
  | 0, s => (s, none)
  | fuel + 1, s =>
      match (body s).2 with
      | some r => ((body s).1, some r)
      | none => run body fuel (body s).1

/-- Some number of rounds ends the loop. -/
def Ends (body : σ → σ × Option ρ) (s : σ) : Prop := ∃ fuel, (run body fuel s).2.isSome

/-- The states in which a round of the loop begins. -/
inductive Passes (body : σ → σ × Option ρ) (s : σ) : σ → Prop where
  | start : Passes body s s
  | again {s' : σ} (h : Passes body s s') (hbody : (body s').2 = none) :
      Passes body s (body s').1

/-- What every round keeps holds whenever a round begins. -/
theorem Passes.invariant {I : σ → Prop} (h : Passes body s s') (h0 : I s)
    (hstep : ∀ s, I s → (body s).2 = none → I (body s).1) : I s' := by
  induction h with
  | start => exact h0
  | again _ hbody ih => exact hstep _ ih hbody

/-- A loop ends if a measure goes down in every round that does not leave it. -/
theorem ends_of_decreasing {I : σ → Prop} (measure : σ → ℕ)
    (hkeep : ∀ s, I s → (body s).2 = none → I (body s).1)
    (hless : ∀ s, I s → (body s).2 = none → measure (body s).1 < measure s) (h : I s) :
    Ends body s := by
  induction hn : measure s using Nat.strongRecOn generalizing s with
  | ind n ih =>
      cases hbody : (body s).2 with
      | some r => exact ⟨1, by simp [run, hbody]⟩
      | none =>
          obtain ⟨fuel, hfuel⟩ :=
            ih _ (hn ▸ hless s h hbody) (hkeep s h hbody) rfl
          exact ⟨fuel + 1, by simpa [run, hbody] using hfuel⟩

/-- A loop goes on forever if every round keeps a property under which it does not end. -/
theorem not_ends_of_invariant {I : σ → Prop} (hnone : ∀ s, I s → (body s).2 = none)
    (hkeep : ∀ s, I s → I (body s).1) (h : I s) : ¬Ends body s := by
  rintro ⟨fuel, hfuel⟩
  induction fuel generalizing s with
  | zero => simp [run] at hfuel
  | succ fuel ih =>
      rw [run, hnone s h] at hfuel
      exact ih (hkeep s h) hfuel

end Loop
