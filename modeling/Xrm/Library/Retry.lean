import Mathlib.Data.List.Basic

/-! # Retry loops

A loop makes one attempt after another until the result of one is final.
-/

namespace Retry

variable {α : Type*} {final : α → Bool} {attempt : ℕ → α}

/-- The attempts from number `n` on, `fuel` of them at most: the results so far and, once one of
them is final, the result of the loop. -/
def loop (final : α → Bool) (attempt : ℕ → α) : ℕ → ℕ → List α × Option α
  | 0, _ => ([], none)
  | fuel + 1, n =>
      if final (attempt n) then ([attempt n], some (attempt n))
      else
        let rest := loop final attempt fuel (n + 1)
        (attempt n :: rest.1, rest.2)

/-- The attempts before number `n` are all made again. -/
def GoesOn (final : α → Bool) (attempt : ℕ → α) (n : ℕ) : Prop :=
  ∀ k < n, final (attempt k) = false

theorem goesOn_succ {n : ℕ} :
    GoesOn final attempt (n + 1) ↔
      final (attempt 0) = false ∧ GoesOn final (fun k => attempt (k + 1)) n := by
  constructor
  · exact fun h => ⟨h 0 (by omega), fun k hk => h (k + 1) (by omega)⟩
  · rintro ⟨hzero, hrest⟩ k hk
    cases k with
    | zero => exact hzero
    | succ k => exact hrest k (by omega)

theorem loop_shift (final : α → Bool) (attempt : ℕ → α) (fuel n : ℕ) :
    loop final attempt fuel (n + 1) = loop final (fun k => attempt (k + 1)) fuel n := by
  induction fuel generalizing n with
  | zero => rfl
  | succ fuel ih => simp only [loop, ih]

/-- As long as no result is final the loop makes one attempt for each unit of fuel. -/
theorem loop_of_goesOn {fuel : ℕ} (h : GoesOn final attempt fuel) :
    loop final attempt fuel 0 = ((List.range fuel).map attempt, none) := by
  induction fuel generalizing attempt with
  | zero => rfl
  | succ fuel ih =>
      obtain ⟨hzero, hrest⟩ := goesOn_succ.mp h
      rw [loop, if_neg (by simp [hzero]), loop_shift, ih hrest, List.range_succ_eq_map]
      simp [Function.comp_def]

/-- The first final result ends the loop. -/
theorem loop_of_final {n fuel : ℕ} (h : GoesOn final attempt n) (hfinal : final (attempt n) = true)
    (hfuel : n < fuel) :
    loop final attempt fuel 0 = ((List.range (n + 1)).map attempt, some (attempt n)) := by
  induction n generalizing attempt fuel with
  | zero =>
      cases fuel with
      | zero => omega
      | succ fuel =>
          rw [loop, if_pos hfinal]
          rfl
  | succ n ih =>
      cases fuel with
      | zero => omega
      | succ fuel =>
          obtain ⟨hzero, hrest⟩ := goesOn_succ.mp h
          rw [loop, if_neg (by simp [hzero]), loop_shift, ih hrest hfinal (by omega),
            List.range_succ_eq_map (n := n + 1)]
          simp [Function.comp_def]

/-- Either all the fuel is spent, or some attempt before is the first final one. -/
theorem goesOn_or_final (final : α → Bool) (attempt : ℕ → α) (fuel : ℕ) :
    GoesOn final attempt fuel ∨
      ∃ n < fuel, GoesOn final attempt n ∧ final (attempt n) = true := by
  induction fuel with
  | zero => exact .inl fun k hk => absurd hk (by omega)
  | succ fuel ih =>
      rcases ih with h | ⟨n, hn, h, hfinal⟩
      · cases hlast : final (attempt fuel) with
        | true => exact .inr ⟨fuel, by omega, h, hlast⟩
        | false =>
            refine .inl fun k hk => ?_
            rcases Nat.lt_succ_iff_lt_or_eq.mp hk with hk | rfl
            · exact h k hk
            · exact hlast
      · exact .inr ⟨n, by omega, h, hfinal⟩

/-- What the loop returns is the first final result. -/
theorem returns_iff {a : α} :
    (∃ fuel, (loop final attempt fuel 0).2 = some a) ↔
      ∃ n, GoesOn final attempt n ∧ final (attempt n) = true ∧ attempt n = a := by
  constructor
  · rintro ⟨fuel, hret⟩
    rcases goesOn_or_final final attempt fuel with h | ⟨n, hn, h, hfinal⟩
    · rw [loop_of_goesOn h] at hret
      simp at hret
    · rw [loop_of_final h hfinal hn, Option.some.injEq] at hret
      exact ⟨n, h, hfinal, hret⟩
  · rintro ⟨n, h, hfinal, rfl⟩
    exact ⟨n + 1, by rw [loop_of_final h hfinal (Nat.lt_succ_self n)]⟩

/-- The attempts are made in their order, the next one only after a result that is not final. -/
theorem loop_results (final : α → Bool) (attempt : ℕ → α) (fuel : ℕ) :
    ∃ m, (loop final attempt fuel 0).1 = (List.range m).map attempt ∧
      GoesOn final attempt (m - 1) := by
  rcases goesOn_or_final final attempt fuel with h | ⟨n, hn, h, hfinal⟩
  · exact ⟨fuel, by rw [loop_of_goesOn h], fun k hk => h k (by omega)⟩
  · exact ⟨n + 1, by rw [loop_of_final h hfinal hn], h⟩

theorem dropLast_map_range (m : ℕ) :
    ((List.range m).map attempt).dropLast = (List.range (m - 1)).map attempt := by
  cases m with
  | zero => rfl
  | succ m => rw [List.range_succ, List.map_append, List.map_singleton, List.dropLast_concat,
      Nat.add_sub_cancel]

theorem GoesOn.succ {n : ℕ} (h : GoesOn final attempt n) (hlast : final (attempt n) = false) :
    GoesOn final attempt (n + 1) := by
  intro k hk
  rcases Nat.lt_succ_iff_lt_or_eq.mp hk with hk | rfl
  · exact h k hk
  · exact hlast

/-- The results after which the loop makes another attempt. -/
theorem retried_iff {a : α} :
    (∃ fuel, a ∈ (loop final attempt fuel 0).1.dropLast) ↔
      ∃ n, GoesOn final attempt (n + 1) ∧ attempt n = a := by
  constructor
  · rintro ⟨fuel, hmem⟩
    obtain ⟨m, heq, hgo⟩ := loop_results final attempt fuel
    rw [heq, dropLast_map_range] at hmem
    obtain ⟨k, hk, rfl⟩ := List.mem_map.mp hmem
    rw [List.mem_range] at hk
    exact ⟨k, fun j hj => hgo j (by omega), rfl⟩
  · rintro ⟨n, h, rfl⟩
    refine ⟨n + 2, ?_⟩
    rcases goesOn_or_final final attempt (n + 2) with hall | ⟨m, hm, hgo, hfinal⟩
    · rw [loop_of_goesOn hall, dropLast_map_range]
      exact List.mem_map.mpr ⟨n, List.mem_range.mpr (by omega), rfl⟩
    · have hnm : n < m := by
        by_contra hle
        rw [h m (by omega)] at hfinal
        simp at hfinal
      rw [loop_of_final hgo hfinal hm, dropLast_map_range]
      exact List.mem_map.mpr ⟨n, List.mem_range.mpr (by omega), rfl⟩

/-- The results of the attempts that are made. -/
theorem exists_goesOn_of_mem {fuel : ℕ} {a : α} (h : a ∈ (loop final attempt fuel 0).1) :
    ∃ n, GoesOn final attempt n ∧ attempt n = a := by
  obtain ⟨m, heq, hgo⟩ := loop_results final attempt fuel
  rw [heq] at h
  obtain ⟨k, hk, rfl⟩ := List.mem_map.mp h
  rw [List.mem_range] at hk
  exact ⟨k, fun j hj => hgo j (by omega), rfl⟩

/-- Only results of a kind that is never final are retried, exactly when the first result that is
not of the kind is final. -/
theorem retried_all_iff {P : α → Prop} (hP : ∀ a, P a → final a = false) :
    (∀ fuel, ∀ a ∈ (loop final attempt fuel 0).1.dropLast, P a) ↔
      ∀ n, (∀ k < n, P (attempt k)) → final (attempt n) = true ∨ P (attempt n) := by
  constructor
  · intro h n hbefore
    cases hfinal : final (attempt n) with
    | true => exact .inl rfl
    | false =>
        have hgo : GoesOn final attempt n := fun k hk => hP _ (hbefore k hk)
        obtain ⟨fuel, hmem⟩ := retried_iff.mpr ⟨n, hgo.succ hfinal, rfl⟩
        exact .inr (h fuel _ hmem)
  · intro h fuel a hmem
    obtain ⟨n, hgo, rfl⟩ := retried_iff.mp ⟨fuel, hmem⟩
    have hall : ∀ m ≤ n, P (attempt m) := by
      intro m
      induction m using Nat.strongRecOn with
      | ind m ih =>
          intro hm
          rcases h m fun k hk => ih k hk (by omega) with hfinal | hp
          · rw [hgo m (by omega)] at hfinal
            simp at hfinal
          · exact hp
    exact hall n (Nat.le_refl n)

end Retry
