import Mathlib.Data.List.Basic
import Mathlib.Logic.Relation

/-! # Transition systems

Runs of a deterministic system under a discipline on its steps, and systems whose state is a
family of components that evolve one at a time.
-/

namespace Transition

open Relation

/-! ## Runs -/

section Run

variable {σ α : Type*} {step : σ → α → σ} {ok : σ → α → Prop} {s₀ s : σ}

/-- The states that a run from `s₀` reaches whose steps all satisfy `ok`. -/
inductive Reaches (step : σ → α → σ) (ok : σ → α → Prop) (s₀ : σ) : σ → Prop where
  | refl : Reaches step ok s₀ s₀
  | next {s : σ} (a : α) (h : Reaches step ok s₀ s) (hok : ok s a) :
      Reaches step ok s₀ (step s a)

/-- A property that every disciplined step keeps holds in every state reached. -/
theorem Reaches.invariant {I : σ → Prop} (h : Reaches step ok s₀ s) (h0 : I s₀)
    (hstep : ∀ s a, I s → ok s a → I (step s a)) : I s := by
  induction h with
  | refl => exact h0
  | next a _ hok ih => exact hstep _ a ih hok

theorem Reaches.mono {ok' : σ → α → Prop} (h : Reaches step ok s₀ s)
    (himp : ∀ s a, ok s a → ok' s a) : Reaches step ok' s₀ s := by
  induction h with
  | refl => exact .refl
  | next a _ hok ih => exact ih.next a (himp _ a hok)

/-- All steps of the actions from `s` satisfy `ok`. -/
def AllOk (step : σ → α → σ) (ok : σ → α → Prop) : List α → σ → Prop
  | [], _ => True
  | a :: l, s => ok s a ∧ AllOk step ok l (step s a)

theorem Reaches.run {l : List α} (h : Reaches step ok s₀ s) (hok : AllOk step ok l s) :
    Reaches step ok s₀ (l.foldl step s) := by
  induction l generalizing s with
  | nil => exact h
  | cons a l ih => exact ih (h.next a hok.1) hok.2

/-- If `G` implies `P`, the steps that satisfy `ok` keep `G`, and from `G` only they keep `P`, then
`P` holds all along a run exactly when all of its steps satisfy `ok`. -/
theorem always_iff_allOk_of_good {G P : σ → Prop} (hstep : ∀ s a, G s → ok s a → G (step s a))
    (hP : ∀ s, G s → P s) (hok : ∀ s a, G s → P (step s a) → ok s a) (l : List α) {s : σ}
    (hs : G s) : (∀ n, P ((l.take n).foldl step s)) ↔ AllOk step ok l s := by
  induction l generalizing s with
  | nil => simp [AllOk, hP s hs]
  | cons a l ih =>
      constructor
      · intro hall
        have ha : ok s a := hok s a hs (hall 1)
        exact ⟨ha, (ih (hstep s a hs ha)).mp fun n => hall (n + 1)⟩
      · rintro ⟨ha, hrest⟩ n
        cases n with
        | zero => exact hP s hs
        | succ n => exact (ih (hstep s a hs ha)).mpr hrest n

/-- If, where `I` holds, a step keeps `P` exactly when it satisfies `ok`, then `P` holds all along
a run exactly when all of its steps do. -/
theorem always_iff_allOk {I P : σ → Prop} (hI : ∀ s a, I s → I (step s a))
    (hP : ∀ s a, I s → P s → (P (step s a) ↔ ok s a)) (l : List α) {s : σ} (hs : I s) (h : P s) :
    (∀ n, P ((l.take n).foldl step s)) ↔ AllOk step ok l s :=
  always_iff_allOk_of_good (G := fun s => I s ∧ P s)
    (fun s a hG ha => ⟨hI s a hG.1, (hP s a hG.1 hG.2).mpr ha⟩) (fun _ hG => hG.2)
    (fun s a hG hnext => (hP s a hG.1 hG.2).mp hnext) l ⟨hs, h⟩

theorem AllOk.getElem {l : List α} {n : ℕ} {a : α} (h : AllOk step ok l s) (ha : l[n]? = some a) :
    ok ((l.take n).foldl step s) a := by
  induction l generalizing s n with
  | nil => simp at ha
  | cons b l ih =>
      cases n with
      | zero =>
          rw [List.getElem?_cons_zero, Option.some.injEq] at ha
          exact ha ▸ h.1
      | succ n => exact ih h.2 ha

theorem AllOk.take {l : List α} (h : AllOk step ok l s) (n : ℕ) :
    AllOk step ok (l.take n) s := by
  induction l generalizing s n with
  | nil => simpa using h
  | cons a l ih =>
      cases n with
      | zero => trivial
      | succ n => exact ⟨h.1, ih h.2 n⟩

instance decidableAllOk [∀ s a, Decidable (ok s a)] :
    (l : List α) → (s : σ) → Decidable (AllOk step ok l s)
  | [], _ => .isTrue trivial
  | a :: l, s =>
      have := decidableAllOk l (step s a)
      inferInstanceAs (Decidable (ok s a ∧ AllOk step ok l (step s a)))

theorem AllOk.drop {l : List α} (h : AllOk step ok l s) (n : ℕ) :
    AllOk step ok (l.drop n) ((l.take n).foldl step s) := by
  induction l generalizing s n with
  | nil => simp [AllOk]
  | cons a l ih =>
      cases n with
      | zero => exact h
      | succ n => exact ih h.2 n

/-- Two systems that stay related over every disciplined step are related after a run. -/
theorem AllOk.simulation {τ : Type*} {step' : τ → α → τ} {R : σ → τ → Prop} {t : τ} {l : List α}
    (h : AllOk step ok l s) (h0 : R s t)
    (hstep : ∀ s t a, R s t → ok s a → R (step s a) (step' t a)) :
    R (l.foldl step s) (l.foldl step' t) := by
  induction l generalizing s t with
  | nil => exact h0
  | cons a l ih => exact ih h.2 (hstep s t a h0 h.1)

/-- Along every run of allowed steps `P` comes to hold: it holds now, or some step is allowed and
every allowed step leads to such a state. -/
inductive Inevitable (step : σ → α → σ) (may : σ → α → Prop) (P : σ → Prop) : σ → Prop where
  | now {s : σ} (h : P s) : Inevitable step may P s
  | later {s : σ} (can : ∃ a, may s a) (all : ∀ a, may s a → Inevitable step may P (step s a)) :
      Inevitable step may P s

/-- Where a property that excludes `P` is kept by the allowed steps, `P` is not inevitable. -/
theorem Inevitable.not_of {may : σ → α → Prop} {P B : σ → Prop} (h : Inevitable step may P s)
    (hB : ∀ s a, B s → may s a → B (step s a)) (hP : ∀ s, B s → ¬ P s) : ¬ B s := by
  induction h with
  | now h => exact fun hs => hP _ hs h
  | later can _ ih =>
      intro hs
      obtain ⟨a, ha⟩ := can
      exact ih a ha (hB _ a hs ha)

/-- A measure that every allowed step lowers makes `P` inevitable, if some step is allowed until
then. -/
theorem Inevitable.of_measure {may : σ → α → Prop} {I P : σ → Prop} (μ : σ → ℕ)
    (hI : ∀ s a, I s → may s a → I (step s a))
    (hμ : ∀ s a, I s → ¬ P s → may s a → μ (step s a) < μ s)
    (hcan : ∀ s, I s → ¬ P s → ∃ a, may s a) (hs : I s) : Inevitable step may P s := by
  induction hn : μ s using Nat.strongRecOn generalizing s with
  | ind n ih =>
      by_cases hP : P s
      · exact .now hP
      · subst hn
        exact .later (hcan s hs hP) fun a ha =>
          ih _ (hμ s a hs hP ha) (hI s a hs ha) rfl

end Run

/-! ## Components -/

section Components

variable {α : Type*} {new : α → Prop} {R : α → α → Prop} {l l' l'' : List α}

/-- Every component of `l'` has evolved from one of `l` or from a new one. -/
def Evolves (new : α → Prop) (R : α → α → Prop) (l l' : List α) : Prop :=
  ∀ x' ∈ l', ∃ x, (x ∈ l ∨ new x) ∧ ReflTransGen R x x'

theorem Evolves.refl (l : List α) : Evolves new R l l := fun x hx => ⟨x, .inl hx, .refl⟩

theorem Evolves.trans (h : Evolves new R l l') (h' : Evolves new R l' l'') :
    Evolves new R l l'' := by
  intro x'' hx''
  obtain ⟨x', hx' | hx', hr'⟩ := h' x'' hx''
  · obtain ⟨x, hx, hr⟩ := h x' hx'
    exact ⟨x, hx, hr.trans hr'⟩
  · exact ⟨x', .inr hx', hr'⟩

/-- One component evolves, the others stay. -/
theorem Evolves.set {i : ℕ} {x x' : α} (hx : l[i]? = some x) (hr : ReflTransGen R x x') :
    Evolves new R l (l.set i x') := by
  intro y hy
  rcases List.mem_or_eq_of_mem_set hy with hy | rfl
  · exact ⟨y, .inl hy, .refl⟩
  · exact ⟨x, .inl (List.mem_of_getElem? hx), hr⟩

/-- A property of components that `R` keeps holds of all of them, before and after. -/
theorem Evolves.invariant {I : α → Prop} (h : Evolves new R l l') (hl : ∀ x ∈ l, I x)
    (hnew : ∀ x, new x → I x) (hR : ∀ x x', I x → R x x' → I x') : ∀ x ∈ l', I x := by
  intro x' hx'
  obtain ⟨x, hx, hr⟩ := h x' hx'
  have hI : I x := by
    rcases hx with hx | hx
    · exact hl x hx
    · exact hnew x hx
  clear hx'
  induction hr with
  | refl => exact hI
  | tail _ hstep ih => exact hR _ _ ih hstep

/-- Every component of `l'` has evolved from the one of `l` at its place or from a new one. -/
def Originates (new : ℕ → α → Prop) (R : α → α → Prop) (l l' : List α) : Prop :=
  ∀ (i : ℕ) (x' : α), l'[i]? = some x' → ∃ x, (l[i]? = some x ∨ new i x) ∧ ReflTransGen R x x'

section Originates

variable {new : ℕ → α → Prop}

theorem Originates.refl (l : List α) : Originates new R l l := fun _ x hx => ⟨x, .inl hx, .refl⟩

theorem Originates.trans (h : Originates new R l l') (h' : Originates new R l' l'') :
    Originates new R l l'' := by
  intro i x'' hx''
  obtain ⟨x', hx' | hx', hr'⟩ := h' i x'' hx''
  · obtain ⟨x, hx, hr⟩ := h i x' hx'
    exact ⟨x, hx, hr.trans hr'⟩
  · exact ⟨x', .inr hx', hr'⟩

/-- One component evolves, the others stay. -/
theorem Originates.set {i : ℕ} {x x' : α} (hx : l[i]? = some x) (hr : ReflTransGen R x x') :
    Originates new R l (l.set i x') := by
  intro j y hy
  by_cases hij : i = j
  · subst hij
    obtain ⟨hi, -⟩ := List.getElem?_eq_some_iff.mp hx
    rw [List.getElem?_set_self hi, Option.some.injEq] at hy
    exact ⟨x, .inl hx, hy ▸ hr⟩
  · rw [List.getElem?_set_ne hij] at hy
    exact ⟨y, .inl hy, .refl⟩

/-- A property of a component at its place that `R` keeps holds everywhere, before and after. -/
theorem Originates.invariant {I : ℕ → α → Prop} (h : Originates new R l l')
    (hl : ∀ (i : ℕ) (x : α), l[i]? = some x → I i x) (hnew : ∀ i x, new i x → I i x)
    (hR : ∀ i x x', I i x → R x x' → I i x') (i : ℕ) (x' : α) (hx' : l'[i]? = some x') :
    I i x' := by
  obtain ⟨x, hx, hr⟩ := h i x' hx'
  have hI : I i x := hx.elim (hl i x) (hnew i x)
  clear hx'
  induction hr with
  | refl => exact hI
  | tail _ hstep ih => exact hR i _ _ ih hstep

end Originates

/-- Every component of `l` has evolved at its place, and there are no new ones beside them. -/
structure InPlace (R : α → α → Prop) (l l' : List α) : Prop where
  places : ∀ (i : ℕ) (x : α), l[i]? = some x → ∃ x', l'[i]? = some x' ∧ ReflTransGen R x x'
  length : l ≠ [] → l'.length = l.length

theorem InPlace.refl (l : List α) : InPlace R l l := ⟨fun _ x hx => ⟨x, hx, .refl⟩, fun _ => rfl⟩

theorem InPlace.trans (h : InPlace R l l') (h' : InPlace R l' l'') : InPlace R l l'' where
  places := by
    intro i x hx
    obtain ⟨x', hx', hr⟩ := h.places i x hx
    obtain ⟨x'', hx'', hr'⟩ := h'.places i x' hx'
    exact ⟨x'', hx'', hr.trans hr'⟩
  length := by
    intro hl
    have hlength := h.length hl
    rw [← List.length_pos_iff] at hl
    rw [h'.length (List.length_pos_iff.mp (by omega)), hlength]

/-- One component evolves, the others stay. -/
theorem InPlace.set {i : ℕ} {x x' : α} (hx : l[i]? = some x) (hr : ReflTransGen R x x') :
    InPlace R l (l.set i x') where
  places := by
    intro j y hy
    by_cases hij : i = j
    · subst hij
      rw [hx, Option.some.injEq] at hy
      obtain ⟨hi, -⟩ := List.getElem?_eq_some_iff.mp hx
      exact ⟨x', by simp [hi], hy ▸ hr⟩
    · exact ⟨y, by rw [List.getElem?_set_ne hij, hy], .refl⟩
  length := fun _ => List.length_set

end Components

end Transition
