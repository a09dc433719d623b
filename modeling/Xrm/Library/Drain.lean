import Mathlib.Data.List.Basic

/-! # Taking until nothing is left

Something is taken out of a state again and again, until an attempt fails.
-/

namespace Drain

variable {σ α ε : Type*} {take : σ → σ × Except ε α} {I : σ → List α → Prop}
  {J : σ → List α → ε → Prop} {left : σ → List α → ℕ} {s : σ} {l : List α} {fuel : ℕ}

/-- Take until an attempt fails, `fuel` attempts at most: the state, what was taken and the error
of the last attempt. -/
def run (take : σ → σ × Except ε α) : ℕ → σ → List α → Option (σ × List α × ε)
  | 0, _, _ => none
  | fuel + 1, s, taken =>
      match take s with
      | (s, .ok a) => run take fuel s (taken ++ [a])
      | (s, .error e) => some (s, taken, e)

/-- What holds of the state and of what was taken so far: every attempt that succeeds keeps it and
leaves less, and one that fails ends with `J`. -/
structure Supply (take : σ → σ × Except ε α) (I : σ → List α → Prop)
    (J : σ → List α → ε → Prop) (left : σ → List α → ℕ) : Prop where
  taken : ∀ {s s' l a}, I s l → take s = (s', .ok a) → I s' (l ++ [a])
  less : ∀ {s s' l a}, I s l → take s = (s', .ok a) → left s' (l ++ [a]) < left s l
  failed : ∀ {s s' l e}, I s l → take s = (s', .error e) → J s' l e

/-- A supply is used up. -/
theorem Supply.ends (h : Supply take I J left) (hs : I s l) (hfuel : left s l < fuel) :
    ∃ s' l' e, run take fuel s l = some (s', l', e) ∧ J s' l' e := by
  induction fuel generalizing s l with
  | zero => omega
  | succ fuel ih =>
      cases hr : take s with
      | mk s₁ r =>
          cases r with
          | ok a =>
              have hless := h.less hs hr
              obtain ⟨s', l', e, hrun, hJ⟩ := ih (h.taken hs hr) (by omega)
              exact ⟨s', l', e, by rw [run, hr]; exact hrun, hJ⟩
          | error e => exact ⟨s₁, l, e, by rw [run, hr], h.failed hs hr⟩

/-- Where every attempt succeeds nothing is used up. -/
theorem run_eq_none {I : σ → Prop} (hsome : ∀ s, I s → ∃ s' a, take s = (s', .ok a) ∧ I s')
    (hs : I s) (fuel : ℕ) (l : List α) : run take fuel s l = none := by
  induction fuel generalizing s l with
  | zero => rfl
  | succ fuel ih =>
      obtain ⟨s', a, hr, hs'⟩ := hsome s hs
      rw [run, hr]
      exact ih hs' _

end Drain
