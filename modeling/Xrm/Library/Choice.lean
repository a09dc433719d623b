import Mathlib.Data.List.Induction
import Mathlib.Order.Lattice

/-! # Choosing while scanning

A scan over a list stops at the first element that settles it. An element that defers instead
takes the place of the one remembered so far when it beats it.
-/

namespace Choice

variable {α : Type*}

/-- What a scan ends with. -/
inductive Outcome (α : Type*) where
  | settled (a : α)
  | remembered (best : Option α)
  deriving Repr, DecidableEq

/-- The element that a scan ends with, if any. -/
def Outcome.chosen : Outcome α → Option α
  | .settled a => some a
  | .remembered best => best

/-! ## Keeping the best -/

/-- The element remembered after `a`. -/
def better (beats : α → α → Bool) (best : Option α) (a : α) : Option α :=
  if best.all (beats a) then some a else best

/-- The element remembered after a list. -/
def keep (beats : α → α → Bool) (best : Option α) (l : List α) : Option α :=
  l.foldl (better beats) best

section Keep

variable {beats : α → α → Bool} {best : Option α} {a q : α} {l : List α}

@[simp] theorem keep_nil : keep beats best [] = best := rfl

@[simp] theorem keep_cons :
    keep beats best (a :: l) = keep beats (better beats best a) l := rfl

theorem keep_append (l₁ l₂ : List α) :
    keep beats best (l₁ ++ l₂) = keep beats (keep beats best l₁) l₂ :=
  List.foldl_append

theorem better_isSome : (better beats best a).isSome := by
  rw [better]
  cases best with
  | none => rfl
  | some b => split <;> rfl

theorem keep_isSome (h : best.isSome) : (keep beats best l).isSome := by
  induction l generalizing best with
  | nil => exact h
  | cons a l ih => exact ih better_isSome

/-- Only an empty list leaves nothing to remember. -/
theorem keep_eq_none_iff : keep beats none l = none ↔ l = [] := by
  constructor
  · intro h
    cases l with
    | nil => rfl
    | cons a l =>
        have hsome : (keep beats (better beats none a) l).isSome := keep_isSome better_isSome
        rw [← keep_cons, h] at hsome
        simp at hsome
  · rintro rfl
    rfl

/-- What is remembered comes from the list, unless it was there before. -/
theorem keep_mem (h : keep beats best l = some q) : best = some q ∨ q ∈ l := by
  induction l generalizing best with
  | nil => exact .inl h
  | cons a l ih =>
      rcases ih h with hq | hq
      · rw [better] at hq
        split at hq
        · rw [Option.some.injEq] at hq
          exact .inr (by simp [hq])
        · exact .inl hq
      · exact .inr (by simp [hq])

/-- An element that nothing after it beats stays. -/
theorem keep_stays (h : ∀ a ∈ l, beats a q = false) : keep beats (some q) l = some q := by
  induction l with
  | nil => rfl
  | cons a l ih =>
      have ha : better beats (some q) a = some q := by simp [better, h a (by simp)]
      rw [keep_cons, ha]
      exact ih fun b hb => h b (by simp [hb])

/-- The element that a list leaves behind took the place of the one before it, and nothing
after it took its place. -/
theorem keep_eq_some_iff : keep beats none l = some q ↔
    ∃ pre post, l = pre ++ q :: post ∧ (keep beats none pre).all (beats q) = true ∧
      ∀ a ∈ post, beats a q = false := by
  constructor
  · intro h
    induction l using List.reverseRecOn with
    | nil => simp at h
    | append_singleton l a ih =>
        rw [keep_append, keep_cons, keep_nil, better] at h
        split at h
        · rename_i hbeats
          rw [Option.some.injEq] at h
          subst h
          exact ⟨l, [], rfl, hbeats, by simp⟩
        · rename_i hbeats
          obtain ⟨pre, post, rfl, hpre, hpost⟩ := ih h
          refine ⟨pre, post ++ [a], by simp, hpre, ?_⟩
          intro b hb
          rcases List.mem_append.mp hb with hb | hb
          · exact hpost b hb
          · rw [List.mem_singleton.mp hb]
            rw [h] at hbeats
            simpa using hbeats
  · rintro ⟨pre, post, rfl, hpre, hpost⟩
    rw [keep_append, keep_cons, better, if_pos hpre]
    exact keep_stays hpost

/-- When every comparison of an element with an earlier one goes the way of a measure, an element
of the greatest measure is kept. -/
theorem keep_max {β : Type*} [LinearOrder β] {m : α → β} {b : α}
    (hbeats : l.Pairwise fun b a => if beats a b = true then m b ≤ m a else m a ≤ m b)
    (h : keep beats none l = some q) (hb : b ∈ l) : m b ≤ m q := by
  induction l using List.reverseRecOn generalizing q with
  | nil => simp at hb
  | append_singleton l a ih =>
      obtain ⟨hsub, -, hlast⟩ := List.pairwise_append.mp hbeats
      have hlast : ∀ b ∈ l, if beats a b = true then m b ≤ m a else m a ≤ m b :=
        fun b hb => hlast b hb a (by simp)
      rw [keep_append, keep_cons, keep_nil, better] at h
      split at h
      · rename_i hall
        rw [Option.some.injEq] at h
        subst h
        rcases List.mem_append.mp hb with hb | hb
        · cases hkeep : keep beats none l with
          | none =>
              rw [keep_eq_none_iff.mp hkeep] at hb
              simp at hb
          | some p =>
              rw [hkeep, Option.all_some] at hall
              have hp := hlast p ((keep_mem hkeep).resolve_left (by simp))
              rw [if_pos hall] at hp
              exact le_trans (ih hsub hkeep hb) hp
        · rw [List.mem_singleton.mp hb]
      · rename_i hall
        have hq := hlast q ((keep_mem h).resolve_left (by simp))
        rcases List.mem_append.mp hb with hb | hb
        · exact ih hsub h hb
        · rw [h, Option.all_some] at hall
          rw [if_neg hall] at hq
          rw [List.mem_singleton.mp hb]
          exact hq

end Keep

/-! ## Scanning -/

/-- Scan a list from a remembered element on. -/
def scan (settles defers : α → Bool) (beats : α → α → Bool) :
    Option α → List α → Outcome α
  | best, [] => .remembered best
  | best, a :: l =>
      if settles a then .settled a
      else if defers a then scan settles defers beats (better beats best a) l
      else scan settles defers beats best l

section Scan

variable {settles defers : α → Bool} {beats : α → α → Bool} {best : Option α} {a q : α}
  {l : List α}

/-- A scan finds the first element that settles it; without one it remembers the best of
those that defer. -/
theorem scan_eq (best : Option α) (l : List α) :
    scan settles defers beats best l =
      match l.find? settles with
      | some a => .settled a
      | none => .remembered (keep beats best (l.filter defers)) := by
  induction l generalizing best with
  | nil => rfl
  | cons a l ih =>
      rw [scan]
      by_cases hs : settles a = true
      · simp [hs]
      · rw [if_neg hs, List.find?_cons_of_neg hs]
        by_cases hd : defers a = true
        · rw [if_pos hd, List.filter_cons_of_pos hd, ih]
          rfl
        · rw [if_neg hd, List.filter_cons_of_neg hd, ih]

theorem scan_settled_iff : scan settles defers beats best l = .settled q ↔
    l.find? settles = some q := by
  rw [scan_eq]
  cases l.find? settles <;> simp

theorem scan_remembered_iff {b : Option α} :
    scan settles defers beats best l = .remembered b ↔
      (∀ a ∈ l, settles a = false) ∧ keep beats best (l.filter defers) = b := by
  rw [scan_eq]
  cases hfind : l.find? settles with
  | some a =>
      have ha := List.find?_some hfind
      have hmem := List.mem_of_find?_eq_some hfind
      simp only [reduceCtorEq, false_iff, not_and]
      intro hnone
      simp [hnone a hmem] at ha
  | none =>
      have hnone : ∀ a ∈ l, settles a = false := by simpa using hfind
      simpa using fun _ => hnone

/-- A scan goes through a list in parts. -/
theorem scan_append (best : Option α) (l₁ l₂ : List α) :
    scan settles defers beats best (l₁ ++ l₂) =
      match scan settles defers beats best l₁ with
      | .settled a => .settled a
      | .remembered best => scan settles defers beats best l₂ := by
  induction l₁ generalizing best with
  | nil => rfl
  | cons a l₁ ih =>
      rw [List.cons_append, scan, scan]
      split
      · rfl
      · split <;> exact ih _

/-- What a scan ends with is an element of the list that settles it or defers. -/
theorem scan_chosen (h : (scan settles defers beats none l).chosen = some q) :
    q ∈ l ∧ (settles q = true ∨ defers q = true) := by
  cases ho : scan settles defers beats none l with
  | settled a =>
      rw [ho, Outcome.chosen, Option.some.injEq] at h
      subst h
      have hfind := scan_settled_iff.mp ho
      exact ⟨List.mem_of_find?_eq_some hfind, .inl (List.find?_some hfind)⟩
  | remembered b =>
      rw [ho, Outcome.chosen] at h
      subst h
      obtain ⟨-, hkeep⟩ := scan_remembered_iff.mp ho
      obtain ⟨hmem, hdefers⟩ := List.mem_filter.mp ((keep_mem hkeep).resolve_left (by simp))
      exact ⟨hmem, .inr hdefers⟩

/-- A scan ends with nothing exactly when no element settles it or defers. -/
theorem scan_chosen_eq_none_iff : (scan settles defers beats none l).chosen = none ↔
    ∀ a ∈ l, settles a = false ∧ defers a = false := by
  cases ho : scan settles defers beats none l with
  | settled a =>
      have hfind := scan_settled_iff.mp ho
      have hmem := List.mem_of_find?_eq_some hfind
      have hsettles := List.find?_some hfind
      simp only [Outcome.chosen, reduceCtorEq, false_iff]
      intro hnone
      simp [(hnone a hmem).1] at hsettles
  | remembered b =>
      obtain ⟨hnone, hkeep⟩ := scan_remembered_iff.mp ho
      rw [Outcome.chosen, ← hkeep, keep_eq_none_iff, List.filter_eq_nil_iff]
      constructor
      · intro h a ha
        exact ⟨hnone a ha, by simpa using h a ha⟩
      · intro h a ha
        simp [(h a ha).2]

/-- A scan ends with the first element that settles it or, without one, with a deferring element
that took the place of the one before it and kept it. -/
theorem scan_chosen_eq_some_iff : (scan settles defers beats none l).chosen = some q ↔
    l.find? settles = some q ∨ (∀ a ∈ l, settles a = false) ∧
      ∃ pre post, l.filter defers = pre ++ q :: post ∧
        (keep beats none pre).all (beats q) = true ∧ ∀ a ∈ post, beats a q = false := by
  rw [← keep_eq_some_iff, ← @scan_settled_iff _ settles defers beats none,
    ← scan_remembered_iff]
  cases scan settles defers beats none l <;> simp [Outcome.chosen]

/-- When the elements that settle are the greatest, and every comparison of deferring elements goes
the way of the measure, a scan ends with a greatest element of those that settle or defer. -/
theorem scan_max {β : Type*} [LinearOrder β] {m : α → β} {b : α}
    (hbeats : l.Pairwise fun b a => defers b = true → defers a = true →
      if beats a b = true then m b ≤ m a else m a ≤ m b)
    (hgreatest : ∀ a ∈ l, settles a = true → ∀ b ∈ l,
      settles b = true ∨ defers b = true → m b ≤ m a)
    (h : (scan settles defers beats none l).chosen = some q) (hb : b ∈ l)
    (hable : settles b = true ∨ defers b = true) : m b ≤ m q := by
  cases ho : scan settles defers beats none l with
  | settled a =>
      rw [ho, Outcome.chosen, Option.some.injEq] at h
      subst h
      have hfind := scan_settled_iff.mp ho
      exact hgreatest a (List.mem_of_find?_eq_some hfind) (List.find?_some hfind) b hb hable
  | remembered c =>
      rw [ho, Outcome.chosen] at h
      subst h
      obtain ⟨hnone, hkeep⟩ := scan_remembered_iff.mp ho
      have hdefers : defers b = true := hable.resolve_left (by simp [hnone b hb])
      refine keep_max (List.pairwise_filter.mpr (hbeats.imp fun hpair hb ha => ?_)) hkeep
        (List.mem_filter.mpr ⟨hb, hdefers⟩)
      exact hpair hb ha

end Scan

/-! ## The first of a list -/

section First

variable {α : Type*} {p : α → Prop} {R : α → α → Prop} {l : List α} {a b : α}

/-- The first element of the list that satisfies the predicate. -/
def FirstOf (p : α → Prop) (l : List α) (a : α) : Prop :=
  ∃ before after, l = before ++ a :: after ∧ p a ∧ ∀ b ∈ before, ¬p b

theorem FirstOf.mem (h : FirstOf p l a) : a ∈ l := by
  obtain ⟨before, after, rfl, -, -⟩ := h
  simp

theorem FirstOf.holds (h : FirstOf p l a) : p a := by
  obtain ⟨-, -, -, ha, -⟩ := h
  exact ha

/-- The first one is the head, or the head fails and it is the first of the rest. -/
theorem firstOf_cons : FirstOf p (b :: l) a ↔ p b ∧ a = b ∨ ¬p b ∧ FirstOf p l a := by
  constructor
  · rintro ⟨before, after, heq, ha, hbefore⟩
    cases before with
    | nil =>
        obtain ⟨rfl, rfl⟩ := List.cons.inj heq
        exact .inl ⟨ha, rfl⟩
    | cons c before =>
        obtain ⟨rfl, rfl⟩ := List.cons.inj heq
        exact .inr ⟨hbefore b (by simp), before, after, rfl, ha,
          fun c hc => hbefore c (by simp [hc])⟩
  · rintro (⟨hb, rfl⟩ | ⟨hb, before, after, rfl, ha, hbefore⟩)
    · exact ⟨[], l, rfl, hb, by simp⟩
    · exact ⟨b :: before, after, rfl, ha, by simpa [hb] using hbefore⟩

theorem exists_firstOf (hb : b ∈ l) (h : p b) : ∃ a, FirstOf p l a := by
  induction l with
  | nil => simp at hb
  | cons c l ih =>
      by_cases hc : p c
      · exact ⟨c, firstOf_cons.mpr (.inl ⟨hc, rfl⟩)⟩
      · rcases List.mem_cons.mp hb with rfl | hb
        · exact absurd h hc
        · obtain ⟨a, ha⟩ := ih hb
          exact ⟨a, firstOf_cons.mpr (.inr ⟨hc, ha⟩)⟩

/-- In an ordered list the first one stands before all others that satisfy the predicate. -/
theorem FirstOf.least (h : FirstOf p l a) (hl : l.Pairwise R) (hb : b ∈ l) (hp : p b) :
    b = a ∨ R a b := by
  obtain ⟨before, after, rfl, -, hbefore⟩ := h
  rcases List.mem_append.mp hb with hb | hb
  · exact absurd hp (hbefore b hb)
  · rcases List.mem_cons.mp hb with rfl | hb
    · exact .inl rfl
    · exact .inr ((List.pairwise_cons.mp (List.pairwise_append.mp hl).2.1).1 b hb)

end First

end Choice
