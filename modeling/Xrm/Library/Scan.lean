import Mathlib.Data.List.Basic

/-! # Formatted input

What the conversion `%d` reads from the front of a text, and a row of such conversions with a
separator between them.
-/

namespace Scan

/-- The white space that a conversion skips. -/
def isSpace (c : Char) : Bool := c.toNat == 32 || (9 ≤ c.toNat && c.toNat ≤ 13)

/-- A sign or none, and what follows it. -/
def sign : List Char → Int × List Char
  | '-' :: cs => (-1, cs)
  | '+' :: cs => (1, cs)
  | cs => (1, cs)

/-- `%d`: the number in front and the rest of the text. -/
def int (cs : List Char) : Option (Int × List Char) :=
  match sign (cs.dropWhile isSpace) with
  | (σ, rest) =>
      if rest.takeWhile Char.isDigit = [] then
        none
      else
        some (σ * Nat.ofDigitChars 10 (rest.takeWhile Char.isDigit) 0, rest.dropWhile Char.isDigit)

/-- `%d` up to `n` times with `sep` between: the numbers that are assigned. -/
def ints (sep : Char) : Nat → List Char → List Int
  | 0, _ => []
  | n + 1, cs =>
      match int cs with
      | none => []
      | some (x, c :: rest) => x :: if c = sep then ints sep n rest else []
      | some (x, []) => [x]

/-! ## What was written is read back -/

theorem isSpace_of_isDigit {c : Char} (h : c.isDigit = true) : isSpace c = false := by
  simp only [Char.isDigit, Bool.and_eq_true, decide_eq_true_eq] at h
  have hc : 48 ≤ c.toNat := h.1
  simp only [isSpace, Bool.or_eq_false_iff, beq_eq_false_iff_ne, Bool.and_eq_false_iff,
    decide_eq_false_iff_not]
  omega

theorem isDigit_of_mem {n : Nat} {c : Char} (h : c ∈ Nat.toDigits 10 n) : c.isDigit = true :=
  Nat.isDigit_of_mem_toDigits (by decide) (by decide) h

/-- A text that starts with a digit has no sign in front. -/
theorem sign_of_isDigit {c : Char} {cs : List Char} (h : c.isDigit = true) :
    sign (c :: cs) = (1, c :: cs) := by
  have hminus : c ≠ '-' := by
    rintro rfl
    exact absurd h (by decide)
  have hplus : c ≠ '+' := by
    rintro rfl
    exact absurd h (by decide)
  simp [sign, hminus, hplus]

section

variable {rest : List Char} (hrest : ∀ c ∈ rest.head?, c.isDigit = false)

include hrest

theorem takeWhile_digits (n : Nat) :
    (Nat.toDigits 10 n ++ rest).takeWhile Char.isDigit = Nat.toDigits 10 n := by
  rw [List.takeWhile_append_of_pos fun c hc => isDigit_of_mem hc]
  cases rest with
  | nil => simp
  | cons c cs => simp [hrest c (by simp)]

theorem dropWhile_digits (n : Nat) :
    (Nat.toDigits 10 n ++ rest).dropWhile Char.isDigit = rest := by
  rw [List.dropWhile_append_of_pos fun c hc => isDigit_of_mem hc]
  cases rest with
  | nil => simp
  | cons c cs => simp [hrest c (by simp)]

theorem int_repr (x : Int) : int (x.repr.toList ++ rest) = some (x, rest) := by
  have hne (n : Nat) : Nat.toDigits 10 n ≠ [] := by
    have hpos := Nat.length_toDigits_pos (b := 10) (n := n)
    intro h
    simp [h] at hpos
  cases x with
  | ofNat n =>
      have hlist : (Int.ofNat n).repr.toList = Nat.toDigits 10 n := Nat.toList_repr
      have hsign : sign ((Nat.toDigits 10 n ++ rest).dropWhile isSpace) =
          (1, Nat.toDigits 10 n ++ rest) := by
        cases hdigits : Nat.toDigits 10 n with
        | nil => exact absurd hdigits (hne n)
        | cons c cs =>
            have hc : c.isDigit = true := isDigit_of_mem (n := n) (by simp [hdigits])
            simp [isSpace_of_isDigit hc, sign_of_isDigit hc]
      rw [hlist, int, hsign]
      simp only [takeWhile_digits hrest, dropWhile_digits hrest, hne, if_false, Int.one_mul,
        Nat.ofDigitChars_ten_toDigits]
      rfl
  | negSucc n =>
      have hlist : (Int.negSucc n).repr.toList = '-' :: Nat.toDigits 10 (n + 1) := by
        change ("-" ++ (n + 1).repr).toList = _
        rw [String.toList_append, Nat.toList_repr]
        rfl
      have hsign : sign (('-' :: (Nat.toDigits 10 (n + 1) ++ rest)).dropWhile isSpace) =
          (-1, Nat.toDigits 10 (n + 1) ++ rest) := rfl
      rw [hlist, List.cons_append, int, hsign]
      simp only [takeWhile_digits hrest, dropWhile_digits hrest, hne, if_false,
        Nat.ofDigitChars_ten_toDigits]
      rw [Int.negSucc_eq, Int.neg_one_mul, Int.natCast_add, Int.natCast_one]

end

/-- A row of numbers is read back number by number. -/
theorem ints_cons {sep : Char} (hsep : sep.isDigit = false) (n : Nat) (x : Int) (cs : List Char) :
    ints sep (n + 1) (x.repr.toList ++ sep :: cs) = x :: ints sep n cs := by
  rw [ints, int_repr (by simpa using hsep)]
  simp

theorem ints_last {sep : Char} (n : Nat) (x : Int) : ints sep (n + 1) x.repr.toList = [x] := by
  have hint : int (x.repr.toList ++ []) = some (x, []) := int_repr (by simp) x
  rw [List.append_nil] at hint
  rw [ints, hint]

end Scan
