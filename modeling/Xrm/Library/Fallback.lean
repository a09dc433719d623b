import Xrm.Library.Choice

/-! # Falling back

Alternatives are tried in turn until one works. An attempt that fails need not restore the state;
it is enough that no later attempt sees the difference.
-/

namespace Fallback

open Choice

variable {σ α β ε : Type*} {attempt : σ → α → σ × Except ε β} {alike : σ → Prop} {l : List α}
  {a : α} {s s' : σ} {e : ε}

/-- Try the alternatives in turn; when none works, the last error is the result. -/
def tryAll (attempt : σ → α → σ × Except ε β) : List α → σ → ε → σ × Except ε β
  | [], s, e => (s, .error e)
  | a :: l, s, _ =>
      match attempt s a with
      | (s, .ok b) => (s, .ok b)
      | (s, .error e) => tryAll attempt l s e

/-- The alternative works in the state. -/
def Works (attempt : σ → α → σ × Except ε β) (s : σ) (a : α) : Prop :=
  ∃ b, (attempt s a).2 = .ok b

theorem not_works_iff : ¬Works attempt s a ↔ ∃ e, (attempt s a).2 = .error e := by
  rw [Works]
  cases (attempt s a).2 <;> simp

/-- The states that attempts do not tell from `s`: an attempt has the same result in all of them,
and one that fails ends in another of them. -/
structure Unseen (attempt : σ → α → σ × Except ε β) (alike : σ → Prop) (s : σ) (l : List α) :
    Prop where
  same : ∀ s', alike s' → ∀ a ∈ l, (attempt s' a).2 = (attempt s a).2
  back : ∀ s', alike s' → ∀ a ∈ l, ¬Works attempt s' a → alike (attempt s' a).1

theorem Unseen.works_iff (h : Unseen attempt alike s l) (hs : alike s') (ha : a ∈ l) :
    Works attempt s' a ↔ Works attempt s a := by
  rw [Works, Works, h.same s' hs a ha]

theorem Unseen.tail (h : Unseen attempt alike s (a :: l)) : Unseen attempt alike s l :=
  ⟨fun t ht b hb => h.same t ht b (by simp [hb]), fun t ht b hb => h.back t ht b (by simp [hb])⟩

theorem tryAll_cons_works (h : Works attempt s a) (l : List α) (e : ε) :
    tryAll attempt (a :: l) s e = attempt s a := by
  obtain ⟨b, hb⟩ := h
  rw [tryAll]
  cases hr : attempt s a with
  | mk s' r =>
      rw [hr] at hb
      simp only at hb
      rw [hb]

theorem tryAll_cons_fails (h : ¬Works attempt s a) (l : List α) (e : ε) :
    ∃ e', tryAll attempt (a :: l) s e = tryAll attempt l (attempt s a).1 e' := by
  obtain ⟨e', he'⟩ := not_works_iff.mp h
  refine ⟨e', ?_⟩
  rw [tryAll]
  cases hr : attempt s a with
  | mk s' r =>
      rw [hr] at he'
      simp only at he'
      rw [he']

/-- The result is that of the first alternative that works in the state before all attempts. -/
theorem tryAll_first (h : Unseen attempt alike s l) (hs : alike s')
    (ha : FirstOf (Works attempt s) l a) (e : ε) :
    ∃ s₁, alike s₁ ∧ tryAll attempt l s' e = attempt s₁ a := by
  induction l generalizing s' e with
  | nil => simpa using ha.mem
  | cons b l ih =>
      have hworks := h.works_iff hs (List.mem_cons_self (a := b) (l := l))
      rcases firstOf_cons.mp ha with ⟨hb, rfl⟩ | ⟨hb, hfirst⟩
      · exact ⟨s', hs, tryAll_cons_works (hworks.mpr hb) l e⟩
      · have hfails : ¬Works attempt s' b := fun hw => hb (hworks.mp hw)
        obtain ⟨e', heq⟩ := tryAll_cons_fails hfails l e
        rw [heq]
        exact ih h.tail (h.back s' hs b (by simp) hfails) hfirst e'

/-- When no alternative works in the state before, none is found, and nothing is told from it. -/
theorem tryAll_none (h : Unseen attempt alike s l) (hs : alike s')
    (hnone : ∀ a ∈ l, ¬Works attempt s a) (e : ε) :
    alike (tryAll attempt l s' e).1 ∧ ∃ e', (tryAll attempt l s' e).2 = .error e' := by
  induction l generalizing s' e with
  | nil => exact ⟨hs, e, rfl⟩
  | cons b l ih =>
      have hfails : ¬Works attempt s' b := fun hw =>
        hnone b (by simp) ((h.works_iff hs (by simp)).mp hw)
      obtain ⟨e', heq⟩ := tryAll_cons_fails hfails l e
      rw [heq]
      exact ih h.tail (h.back s' hs b (by simp) hfails) (fun a ha => hnone a (by simp [ha])) e'

/-- Alternatives that work in no state are tried in vain. -/
theorem tryAll_fails (h : ∀ s, ∀ a ∈ l, ¬Works attempt s a) (s : σ) (e : ε) :
    ∃ e', (tryAll attempt l s e).2 = .error e' := by
  induction l generalizing s e with
  | nil => exact ⟨e, rfl⟩
  | cons a l ih =>
      obtain ⟨e', heq⟩ := tryAll_cons_fails (h s a (by simp)) l e
      rw [heq]
      exact ih (fun s b hb => h s b (by simp [hb])) _ e'

end Fallback
