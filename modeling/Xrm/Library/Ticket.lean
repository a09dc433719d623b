import Xrm.Library.Transition

/-! # Slots whose occupants carry tickets

The steps of a system put occupants into slots and take them out again. A counter issues the
tickets: what a step puts in has a higher ticket than everything before. Then an occupant is in its
slot after a run exactly if it was there before and no step has taken it out.
-/

namespace Ticket

open Transition

variable {σ α κ ω : Type*} {look : σ → κ → Option ω} {count : σ → ℕ} {ticket : ω → ℕ}
  {sure : ω → Prop} {step : σ → α → σ} {takes : σ → α → κ → ω → Prop}

/-- What a step from `s` to `s'` does to the slots. Which occupants it takes out is said of those
that are `sure` only. -/
structure Turns (look : σ → κ → Option ω) (count : σ → ℕ) (ticket : ω → ℕ) (sure : ω → Prop)
    (takes : κ → ω → Prop) (s s' : σ) : Prop where
  mono : count s ≤ count s'
  fresh : ∀ k e, look s' k = some e →
    look s k = some e ∨ count s < ticket e ∧ ticket e ≤ count s'
  stays : ∀ k e, look s k = some e → sure e → (look s' k = some e ↔ ¬takes k e)

/-- All tickets in use have been issued. -/
def Issued (look : σ → κ → Option ω) (count : σ → ℕ) (ticket : ω → ℕ) (s : σ) : Prop :=
  ∀ k e, look s k = some e → ticket e ≤ count s

theorem Turns.issued {t : κ → ω → Prop} {s s' : σ} (h : Turns look count ticket sure t s s')
    (hs : Issued look count ticket s) : Issued look count ticket s' := by
  intro k e he
  rcases h.fresh k e he with hold | hnew
  · exact Nat.le_trans (hs k e hold) h.mono
  · exact hnew.2

/-- Some step of the run takes the occupant out of the slot. -/
def TakenIn (step : σ → α → σ) (takes : σ → α → κ → ω → Prop) :
    List α → σ → κ → ω → Prop
  | [], _, _, _ => False
  | a :: l, s, k, e => takes s a k e ∨ TakenIn step takes l (step s a) k e

/-- A run with steps of this kind, from `s`. -/
def Run (step : σ → α → σ) (takes : σ → α → κ → ω → Prop) (look : σ → κ → Option ω)
    (count : σ → ℕ) (ticket : ω → ℕ) (sure : ω → Prop) : List α → σ → Prop :=
  AllOk step fun s a => Turns look count ticket sure (takes s a) s (step s a)

theorem Run.mono {l : List α} {s : σ} (h : Run step takes look count ticket sure l s) :
    count s ≤ count (l.foldl step s) := by
  induction l generalizing s with
  | nil => exact Nat.le_refl _
  | cons a l ih => exact Nat.le_trans h.1.mono (ih h.2)

theorem Run.issued {l : List α} {s : σ} (h : Run step takes look count ticket sure l s)
    (hs : Issued look count ticket s) : Issued look count ticket (l.foldl step s) := by
  induction l generalizing s with
  | nil => exact hs
  | cons a l ih => exact ih h.2 (h.1.issued hs)

/-- An occupant with a ticket issued before has been in its slot before. -/
theorem Run.before {l : List α} {s : σ} (h : Run step takes look count ticket sure l s) {k : κ}
    {e : ω} (hticket : ticket e ≤ count s) (he : look (l.foldl step s) k = some e) :
    look s k = some e := by
  induction l generalizing s with
  | nil => exact he
  | cons a l ih =>
      have hnext := ih h.2 (Nat.le_trans hticket h.1.mono) he
      exact (h.1.fresh k e hnext).resolve_right fun hlate => by omega

/-- Such an occupant is in its slot after a run exactly if it was there before and no step has taken
it out. -/
theorem Run.look_iff {l : List α} {s : σ} (h : Run step takes look count ticket sure l s)
    {k : κ} {e : ω} (he : sure e) (hticket : ticket e ≤ count s) :
    look (l.foldl step s) k = some e ↔ look s k = some e ∧ ¬TakenIn step takes l s k e := by
  induction l generalizing s with
  | nil => simp [TakenIn]
  | cons a l ih =>
      obtain ⟨hturn, hrest⟩ := h
      have hold : look (step s a) k = some e → look s k = some e := fun hnew =>
        (hturn.fresh k e hnew).resolve_right fun hlate => by omega
      rw [List.foldl_cons, ih hrest (Nat.le_trans hticket hturn.mono), TakenIn, not_or]
      constructor
      · rintro ⟨hnew, hnot⟩
        exact ⟨hold hnew, (hturn.stays k e (hold hnew) he).mp hnew, hnot⟩
      · rintro ⟨hbefore, hkept, hnot⟩
        exact ⟨(hturn.stays k e hbefore he).mpr hkept, hnot⟩

end Ticket
