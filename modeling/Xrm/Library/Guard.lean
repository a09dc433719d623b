import Mathlib.Logic.Basic

/-! # Guarded computations

A computation that ends with a fault where an access is not allowed, beside the value that it has
where all accesses are.
-/

namespace Guard

variable {ε α β : Type*}

/-- The computation gives `x` if the condition holds, and faults if not. -/
structure Guards (c : Except ε α) (x : α) (safe : Prop) : Prop where
  ok : safe → c = .ok x
  fault : ¬safe → ∃ e, c = .error e

variable {c : Except ε α} {x : α} {safe safe' : Prop} {k : α → Except ε β} {y : β}

theorem guards_ok (x : α) : Guards (.ok x : Except ε α) x True :=
  ⟨fun _ => rfl, fun h => absurd trivial h⟩

theorem guards_error (e : ε) (x : α) : Guards (.error e : Except ε α) x False :=
  ⟨False.elim, fun _ => ⟨e, rfl⟩⟩

theorem guards_of_fault (hnot : ¬safe) (h : ∃ e, c = .error e) : Guards c x safe :=
  ⟨fun hs => absurd hs hnot, fun _ => h⟩

theorem Guards.congr (h : Guards c x safe) (hiff : safe' ↔ safe) : Guards c x safe' :=
  ⟨fun hs => h.ok (hiff.mp hs), fun hs => h.fault fun hs' => hs (hiff.mpr hs')⟩

/-- One computation after another. -/
theorem Guards.bind (h : Guards c x safe) (h' : safe → Guards (k x) y safe') :
    Guards (c.bind k) y (safe ∧ safe') := by
  constructor
  · rintro ⟨hs, hs'⟩
    rw [h.ok hs]
    exact (h' hs).ok hs'
  · intro hnot
    by_cases hs : safe
    · rw [h.ok hs]
      exact (h' hs).fault fun hs' => hnot ⟨hs, hs'⟩
    · obtain ⟨e, he⟩ := h.fault hs
      exact ⟨e, by rw [he]; rfl⟩

/-- A computation and a function on its value. -/
theorem Guards.map (f : α → β) (h : Guards c x safe) :
    Guards (c.bind fun a => .ok (f a)) (f x) safe := by
  constructor
  · intro hs
    rw [h.ok hs]
    rfl
  · intro hs
    obtain ⟨e, he⟩ := h.fault hs
    exact ⟨e, by rw [he]; rfl⟩

/-- A computation without a fault has the value. -/
theorem Guards.eq_of_ok (h : Guards c x safe) {y : α} (hc : c = .ok y) : safe ∧ y = x := by
  by_cases hs : safe
  · rw [h.ok hs, Except.ok.injEq] at hc
    exact ⟨hs, hc.symm⟩
  · obtain ⟨e, he⟩ := h.fault hs
    rw [he] at hc
    cases hc

/-- Doing something for every element of a list. -/
theorem guards_mapM {f : α → Except ε β} {g : α → β} {safe : α → Prop} (l : List α)
    (h : ∀ x ∈ l, Guards (f x) (g x) (safe x)) :
    Guards (l.mapM f) (l.map g) (∀ x ∈ l, safe x) := by
  induction l with
  | nil => exact (guards_ok _).congr (by simp)
  | cons x l ih =>
      have htail := ih fun x hx => h x (List.mem_cons_of_mem _ hx)
      rw [List.mapM_cons, List.map_cons]
      refine ((h x List.mem_cons_self).bind fun _ =>
        htail.bind fun _ => guards_ok (g x :: l.map g)).congr ?_
      simp

/-- A loop over a list whose accumulator keeps `I`. -/
theorem guards_foldlM {f : β → α → Except ε β} {g : β → α → β} {safe : α → Prop} {I : β → Prop}
    (hI : ∀ b x, I b → I (g b x)) (h : ∀ b x, I b → Guards (f b x) (g b x) (safe x)) (l : List α)
    {b : β} (hb : I b) : Guards (l.foldlM f b) (l.foldl g b) (∀ x ∈ l, safe x) := by
  induction l generalizing b with
  | nil => exact (guards_ok _).congr (by simp)
  | cons x l ih =>
      rw [List.foldlM_cons, List.foldl_cons]
      refine ((h b x hb).bind fun _ => ih (hI b x hb)).congr ?_
      simp

end Guard
