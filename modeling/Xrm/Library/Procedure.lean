import Mathlib.Data.List.Basic

/-! # Procedures

Procedures on a state that return a value, throw an exception, write outside an array, or never
return; and the rules for what holds when they have returned.
-/

/-- How a procedure ends, and the state that it leaves. -/
inductive Outcome (σ α : Type) where
  | ok (a : α) (s : σ)
  | exception (s : σ)
  | overflow (s : σ)
  | stuck (s : σ)
  deriving Repr, DecidableEq

def Procedure (σ α : Type) : Type := σ → Outcome σ α

namespace Procedure

variable {σ α β : Type}

def bind (p : Procedure σ α) (f : α → Procedure σ β) : Procedure σ β := fun s =>
  match p s with
  | .ok a s' => f a s'
  | .exception s' => .exception s'
  | .overflow s' => .overflow s'
  | .stuck s' => .stuck s'

instance : Monad (Procedure σ) where
  pure a := fun s => .ok a s
  bind := bind

def exception : Procedure σ α := fun s => .exception s
def overflow : Procedure σ α := fun s => .overflow s
def stuck : Procedure σ α := fun s => .stuck s

/-- The state itself. -/
def get : Procedure σ σ := fun s => .ok s s

/-- Change the state. -/
def modify (f : σ → σ) : Procedure σ Unit := fun s => .ok () (f s)

/-- The value of a computation that throws where it has none. -/
def require : Option α → Procedure σ α
  | some a => pure a
  | none => exception

/-- A procedure on a part of the state. -/
def focus {τ : Type} (view : τ → σ) (store : τ → σ → τ) (p : Procedure σ α) : Procedure τ α :=
  fun t =>
    match p (view t) with
    | .ok a s => .ok a (store t s)
    | .exception s => .exception (store t s)
    | .overflow s => .overflow (store t s)
    | .stuck s => .stuck (store t s)

/-- From `s` the procedure returns, and `Q` holds of the value and the state that it returns. -/
def Ends (p : Procedure σ α) (s : σ) (Q : α → σ → Prop) : Prop := ∃ a s', p s = .ok a s' ∧ Q a s'

variable {s : σ} {Q : α → σ → Prop}

@[simp]
theorem ends_pure (a : α) : Ends (pure a) s Q ↔ Q a s := by
  constructor
  · rintro ⟨_, _, h, hq⟩
    cases h
    exact hq
  · exact fun hq => ⟨a, s, rfl, hq⟩

@[simp]
theorem ends_bind (p : Procedure σ α) (f : α → Procedure σ β) {Q : β → σ → Prop} :
    Ends (p >>= f) s Q ↔ Ends p s fun a s' => Ends (f a) s' Q := by
  change Ends (bind p f) s Q ↔ _
  unfold Ends bind
  cases p s <;> simp

@[simp]
theorem ends_exception : Ends (exception : Procedure σ α) s Q ↔ False := by
  simp [Ends, exception]

@[simp]
theorem ends_overflow : Ends (overflow : Procedure σ α) s Q ↔ False := by
  simp [Ends, overflow]

@[simp]
theorem ends_stuck : Ends (stuck : Procedure σ α) s Q ↔ False := by
  simp [Ends, stuck]

@[simp]
theorem ends_get {Q : σ → σ → Prop} : Ends get s Q ↔ Q s s := by
  simp [Ends, get]

@[simp]
theorem ends_modify (f : σ → σ) {Q : Unit → σ → Prop} : Ends (modify f) s Q ↔ Q () (f s) := by
  constructor
  · rintro ⟨_, _, h, hq⟩
    cases h
    exact hq
  · exact fun hq => ⟨(), f s, rfl, hq⟩

@[simp]
theorem ends_require (o : Option α) : Ends (require o) s Q ↔ ∃ a, o = some a ∧ Q a s := by
  cases o <;> simp [require]

@[simp]
theorem ends_ite (c : Prop) [Decidable c] (p q : Procedure σ α) :
    Ends (if c then p else q) s Q ↔ if c then Ends p s Q else Ends q s Q := by
  split <;> rfl

@[simp]
theorem ends_focus {τ : Type} (view : τ → σ) (store : τ → σ → τ) (p : Procedure σ α) {t : τ}
    {Q : α → τ → Prop} :
    Ends (focus view store p) t Q ↔ Ends p (view t) fun a s => Q a (store t s) := by
  unfold Ends focus
  cases p (view t) <;> simp

theorem Ends.mono {p : Procedure σ α} {Q' : α → σ → Prop} (h : Ends p s Q)
    (himp : ∀ a s', Q a s' → Q' a s') : Ends p s Q' := by
  obtain ⟨a, s', hp, hq⟩ := h
  exact ⟨a, s', hp, himp a s' hq⟩

/-! ## Writes outside an array -/

/-- From `s` the procedure does not write outside an array, whether it returns or not. -/
def Inside (p : Procedure σ α) (s : σ) : Prop := ∀ s', p s ≠ .overflow s'

@[simp]
theorem inside_pure (a : α) : Inside (pure a) s := by
  intro s' h
  cases h

theorem inside_bind (p : Procedure σ α) (f : α → Procedure σ β) :
    Inside (p >>= f) s ↔ Inside p s ∧ ∀ a s', p s = .ok a s' → Inside (f a) s' := by
  change Inside (bind p f) s ↔ _
  unfold Inside bind
  cases p s <;> simp

theorem bind_ok {p : Procedure σ α} {a : α} {s' : σ} (h : p s = .ok a s')
    (f : α → Procedure σ β) : (p >>= f) s = f a s' := by
  change bind p f s = _
  rw [bind, h]

/-- A procedure that returns: what follows decides. -/
theorem inside_bind_ok {p : Procedure σ α} {a : α} {s' : σ} (h : p s = .ok a s')
    (f : α → Procedure σ β) : Inside (p >>= f) s ↔ Inside (f a) s' := by
  rw [inside_bind, h]
  constructor
  · exact fun hinside => hinside.2 a s' rfl
  · refine fun hinside => ⟨fun _ hover => ?_, fun a₁ s₁ heq => ?_⟩
    · rw [h] at hover
      cases hover
    · cases heq
      exact hinside

theorem ok_of_bind {p : Procedure σ α} {f : α → Procedure σ β} {b : β} {s' : σ}
    (h : (p >>= f) s = .ok b s') : ∃ a s₁, p s = .ok a s₁ ∧ f a s₁ = .ok b s' := by
  change bind p f s = _ at h
  unfold bind at h
  split at h
  · exact ⟨_, _, ‹_›, h⟩
  all_goals simp at h

theorem Ends.inside {p : Procedure σ α} (h : Ends p s Q) : Inside p s := by
  obtain ⟨a, s', hp, -⟩ := h
  intro s₁ hover
  rw [hp] at hover
  cases hover

@[simp]
theorem inside_exception : Inside (exception : Procedure σ α) s := by
  intro s' h
  cases h

@[simp]
theorem inside_stuck : Inside (stuck : Procedure σ α) s := by
  intro s' h
  cases h

@[simp]
theorem not_inside_overflow : ¬ Inside (overflow : Procedure σ α) s := fun h => h s rfl

@[simp]
theorem inside_require (o : Option α) : Inside (require o) s := by
  cases o <;> simp [require]

@[simp]
theorem inside_get_bind (f : σ → Procedure σ β) : Inside (get >>= f) s ↔ Inside (f s) s :=
  inside_bind_ok rfl f

@[simp]
theorem inside_modify (f : σ → σ) : Inside (modify f) s := by
  intro s' h
  cases h

theorem inside_ite (c : Prop) [Decidable c] (p q : Procedure σ α) :
    Inside (if c then p else q) s ↔ if c then Inside p s else Inside q s := by
  split <;> rfl

/-! ## Procedures that return -/

/-- Wherever the procedure stays inside the arrays it returns. -/
def Settles (p : Procedure σ α) : Prop := ∀ s, Inside p s → Ends p s fun _ _ => True

theorem Settles.ends_iff {p : Procedure σ α} (h : Settles p) :
    Ends p s (fun _ _ => True) ↔ Inside p s := ⟨Ends.inside, h s⟩

theorem settles_pure (a : α) : Settles (pure a : Procedure σ α) := fun s _ => ⟨a, s, rfl, trivial⟩

theorem settles_overflow : Settles (overflow : Procedure σ α) := fun _ h =>
  absurd h not_inside_overflow

theorem settles_get : Settles (get : Procedure σ σ) := fun s _ => ⟨s, s, rfl, trivial⟩

theorem settles_modify (f : σ → σ) : Settles (modify f) := fun s _ => ⟨(), f s, rfl, trivial⟩

theorem Settles.bind {p : Procedure σ α} {f : α → Procedure σ β} (h : Settles p)
    (hf : ∀ a, Settles (f a)) : Settles (p >>= f) := by
  intro s hinside
  rw [inside_bind] at hinside
  rw [ends_bind]
  obtain ⟨a, s', heq, -⟩ := h s hinside.1
  exact ⟨a, s', heq, hf a s' (hinside.2 a s' heq)⟩

theorem Settles.ite {c : Prop} [Decidable c] {p q : Procedure σ α} (hp : Settles p)
    (hq : Settles q) : Settles (if c then p else q) := by
  split
  · exact hp
  · exact hq

end Procedure
