import Mathlib.Algebra.Group.Int.Defs
import Mathlib.Data.List.DropRight
import Mathlib.Data.List.Basic

/-! # Property trees

Trees of texts that are read by path. A number is put as its decimal text; reading fails when
the path is missing or the text does not fit the type that is asked for.
-/

/-! ## Decimal texts -/

namespace Decimal

/-- The digits `cs`, read as a number. -/
def digits (cs : List Char) : Option Nat :=
  if cs ≠ [] ∧ cs.all Char.isDigit then some (Nat.ofDigitChars 10 cs 0) else none

/-- The characters of a text without the blanks around it. -/
def trim (s : String) : List Char :=
  (s.toList.dropWhile Char.isWhitespace).rdropWhile Char.isWhitespace

/-- Read an integer: a sign or none, and digits. -/
def readInt (s : String) : Option Int :=
  match trim s with
  | '-' :: cs => (digits cs).map fun n => -(n : Int)
  | '+' :: cs => (digits cs).map fun n => (n : Int)
  | cs => (digits cs).map fun n => (n : Int)

theorem digits_toDigits (n : Nat) : digits (Nat.toDigits 10 n) = some n := by
  have hdig : (Nat.toDigits 10 n).all Char.isDigit = true := by
    rw [List.all_eq_true]
    intro c hc
    exact Nat.isDigit_of_mem_toDigits (by decide) (by decide) hc
  simp [digits, hdig]

theorem isWhitespace_of_isDigit {c : Char} (h : c.isDigit = true) : c.isWhitespace = false := by
  simp only [Char.isDigit, Bool.and_eq_true, decide_eq_true_eq] at h
  simp only [Char.isWhitespace, Bool.or_eq_false_iff, decide_eq_false_iff_not]
  refine ⟨⟨⟨?_, ?_⟩, ?_⟩, ?_⟩ <;> (rintro rfl; revert h; decide)

theorem trim_eq {s : String} (h : ∀ c ∈ s.toList, c.isWhitespace = false) : trim s = s.toList := by
  have hdrop : s.toList.dropWhile Char.isWhitespace = s.toList := by
    rw [List.dropWhile_eq_self_iff]
    intro hl
    simp [h _ (List.getElem_mem hl)]
  rw [trim, hdrop, List.rdropWhile_eq_self_iff]
  intro hne
  simp [h _ (List.getLast_mem hne)]

theorem isWhitespace_of_mem_repr {n : Nat} {c : Char} (h : c ∈ n.repr.toList) :
    c.isWhitespace = false := by
  rw [Nat.toList_repr] at h
  exact isWhitespace_of_isDigit (Nat.isDigit_of_mem_toDigits (by decide) (by decide) h)

theorem readInt_repr_nat (n : Nat) : readInt n.repr = some (n : Int) := by
  rw [readInt, trim_eq fun c hc => isWhitespace_of_mem_repr hc, Nat.toList_repr]
  have hdig : ∀ c ∈ Nat.toDigits 10 n, c.isDigit = true := fun c hc =>
    Nat.isDigit_of_mem_toDigits (by decide) (by decide) hc
  -- a text of digits has no sign
  split
  · rename_i cs heq
    exact absurd (hdig '-' (by rw [heq]; exact List.mem_cons_self)) (by decide)
  · rename_i cs heq
    exact absurd (hdig '+' (by rw [heq]; exact List.mem_cons_self)) (by decide)
  · rw [digits_toDigits]
    rfl

theorem readInt_repr (x : Int) : readInt x.repr = some x := by
  cases x with
  | ofNat n => exact readInt_repr_nat n
  | negSucc n =>
      have hlist : (Int.negSucc n).repr.toList = '-' :: Nat.toDigits 10 (n + 1) := by
        change ("-" ++ (n + 1).repr).toList = _
        rw [String.toList_append, Nat.toList_repr]
        rfl
      have htrim : trim (Int.negSucc n).repr = '-' :: Nat.toDigits 10 (n + 1) := by
        rw [← hlist]
        apply trim_eq
        intro c hc
        rw [hlist, List.mem_cons] at hc
        rcases hc with rfl | hc
        · decide
        · exact isWhitespace_of_mem_repr (by rwa [Nat.toList_repr])
      rw [readInt, htrim]
      simp only [digits_toDigits]
      rfl

end Decimal

/-! ## Integer types -/

/-- An integer type, by its least and its greatest value. -/
structure IntType where
  lo : Int
  hi : Int
  deriving Repr, DecidableEq

namespace IntType

def int32 : IntType := ⟨-2 ^ 31, 2 ^ 31 - 1⟩
def int64 : IntType := ⟨-2 ^ 63, 2 ^ 63 - 1⟩
def uint32 : IntType := ⟨0, 2 ^ 32 - 1⟩
def uint64 : IntType := ⟨0, 2 ^ 64 - 1⟩

/-- The type has the value `x`. -/
def Has (ty : IntType) (x : Int) : Prop := ty.lo ≤ x ∧ x ≤ ty.hi

instance (ty : IntType) (x : Int) : Decidable (ty.Has x) := by
  unfold Has
  infer_instance

/-- Read an integer of the type. A text that does not fit is refused, its sign included. -/
def read (ty : IntType) (s : String) : Option Int :=
  (Decimal.readInt s).bind fun x => if ty.Has x then some x else none

theorem read_repr (ty : IntType) (x : Int) :
    ty.read x.repr = if ty.Has x then some x else none := by
  rw [read, Decimal.readInt_repr, Option.bind_some]

end IntType

/-! ## Trees -/

/-- A tree, as the texts that have been put into it, the latest first. -/
structure PropertyTree where
  entries : List (String × String)
  deriving Repr, DecidableEq

namespace PropertyTree

def empty : PropertyTree := ⟨[]⟩

def put (t : PropertyTree) (path text : String) : PropertyTree := ⟨(path, text) :: t.entries⟩

def putInt (t : PropertyTree) (path : String) (x : Int) : PropertyTree := t.put path x.repr

/-- The text under a path. -/
def get (t : PropertyTree) (path : String) : Option String := t.entries.lookup path

/-- The integer of type `ty` under a path. -/
def getInt (t : PropertyTree) (ty : IntType) (path : String) : Option Int :=
  (t.get path).bind ty.read

/-- Put the texts of a list, one after the other. -/
def putAll (t : PropertyTree) (l : List (String × String)) : PropertyTree :=
  l.foldl (fun t e => t.put e.1 e.2) t

theorem get_put (t : PropertyTree) (path p text : String) :
    (t.put path text).get p = if p = path then some text else t.get p := by
  simp only [get, put, List.lookup_cons]
  by_cases h : p = path
  · simp [h]
  · simp [h, beq_eq_false_iff_ne.mpr h]

theorem getInt_of_get {t : PropertyTree} {path : String} {x : Int} (h : t.get path = some x.repr)
    (ty : IntType) : t.getInt ty path = if ty.Has x then some x else none := by
  rw [getInt, h, Option.bind_some, ty.read_repr]

/-- The last text that was put under a path is the one that is found. -/
theorem get_putAll (t : PropertyTree) (l : List (String × String)) (p : String) :
    (t.putAll l).get p = (l.reverse.lookup p).or (t.get p) := by
  have hentries : ∀ t : PropertyTree, (t.putAll l).entries = l.reverse ++ t.entries := by
    induction l with
    | nil => intro t; rfl
    | cons e l ih =>
        intro t
        change (putAll (t.put e.1 e.2) l).entries = _
        rw [ih]
        simp [put]
  rw [get, hentries, List.lookup_append]
  rfl

/-! ## Numbered paths -/

/-- The path of the field `name` of item `i`. -/
def item (base name : String) (i : Nat) : String := base ++ name ++ toString i

/-- A name that does not end in a digit, so that a number can follow it. -/
def Plain (name : String) : Prop := ∀ c ∈ name.toList.getLast?, c.isDigit = false

instance (name : String) : Decidable (Plain name) :=
  decidable_of_iff ((name.toList.getLast?.all fun c => !c.isDigit) = true) (by
    rw [Plain]
    cases name.toList.getLast? <;> simp)

theorem item_toList (base name : String) (i : Nat) :
    (item base name i).toList = base.toList ++ name.toList ++ Nat.toDigits 10 i := by
  simp [item]

/-- The number at the end of a text is all that goes when its last digits are dropped. -/
theorem rdropWhile_isDigit {name : String} (h : Plain name) (i : Nat) :
    (name.toList ++ Nat.toDigits 10 i).rdropWhile Char.isDigit = name.toList := by
  have hdig : ∀ c ∈ (Nat.toDigits 10 i).reverse, c.isDigit = true := by
    intro c hc
    rw [List.mem_reverse] at hc
    exact Nat.isDigit_of_mem_toDigits (by decide) (by decide) hc
  have hname : name.toList.rdropWhile Char.isDigit = name.toList := by
    rw [List.rdropWhile_eq_self_iff]
    intro hne
    simp [h _ (by rw [List.getLast?_eq_getLast_of_ne_nil hne]; rfl)]
  rw [List.rdropWhile, List.reverse_append, List.dropWhile_append_of_pos hdig]
  exact hname

theorem item_inj {base name name' : String} {i i' : Nat} (h : Plain name) (h' : Plain name') :
    item base name i = item base name' i' ↔ name = name' ∧ i = i' := by
  constructor
  · intro heq
    have hlist : name.toList ++ Nat.toDigits 10 i = name'.toList ++ Nat.toDigits 10 i' := by
      have := congrArg String.toList heq
      rw [item_toList, item_toList, List.append_assoc, List.append_assoc] at this
      exact List.append_cancel_left this
    have hname : name = name' := by
      rw [← String.toList_inj, ← rdropWhile_isDigit h i, ← rdropWhile_isDigit h' i', hlist]
    subst hname
    have hdigits : Nat.toDigits 10 i = Nat.toDigits 10 i' := List.append_cancel_left hlist
    have := congrArg (fun ds => Nat.ofDigitChars 10 ds 0) hdigits
    exact ⟨rfl, by simpa using this⟩
  · rintro ⟨rfl, rfl⟩
    rfl

/-- A numbered path is not one that ends in something else. -/
theorem item_ne {base name path : String} {i : Nat} (h : Plain path) : path ≠ item base name i := by
  rintro rfl
  have hne : Nat.toDigits 10 i ≠ [] := Nat.toDigits_ne_nil
  have hlast : (Nat.toDigits 10 i).getLast hne ∈ (item base name i).toList.getLast? := by
    rw [item_toList, List.getLast?_append_of_ne_nil _ hne, List.getLast?_eq_getLast_of_ne_nil hne]
    rfl
  have := Nat.isDigit_of_mem_toDigits (by decide) (by decide) (List.getLast_mem hne)
  rw [h _ hlast] at this
  exact absurd this (by decide)

/-- Put the fields of a record as those of item `i`. -/
def putItem (t : PropertyTree) (base : String) (i : Nat) (fields : List (String × String)) :
    PropertyTree :=
  t.putAll (fields.map fun e => (item base e.1 i, e.2))

theorem lookup_item {base name : String} {i k : Nat} (hname : Plain name)
    (fields : List (String × String)) (h : ∀ e ∈ fields, Plain e.1) :
    (fields.map fun e => (item base e.1 k, e.2)).lookup (item base name i) =
      if i = k then fields.lookup name else none := by
  induction fields with
  | nil => simp
  | cons e fields ih =>
      have hrest := ih fun e' he' => h e' (List.mem_cons_of_mem _ he')
      have heq : item base name i = item base e.1 k ↔ name = e.1 ∧ i = k :=
        item_inj hname (h e List.mem_cons_self)
      rw [List.map_cons, List.lookup_cons, List.lookup_cons, hrest]
      by_cases hik : i = k
      · subst hik
        by_cases hn : name = e.1
        · simp [hn]
        · have hne : (item base name i == item base e.1 i) = false := by
            rw [beq_eq_false_iff_ne]
            exact fun hi => hn (heq.mp hi).1
          simp [hne, beq_eq_false_iff_ne.mpr hn]
      · have hne : (item base name i == item base e.1 k) = false := by
          rw [beq_eq_false_iff_ne]
          exact fun hi => hik (heq.mp hi).2
        simp [hne, hik]

/-- An item holds its own fields; the others are left alone. -/
theorem get_putItem (t : PropertyTree) {base name : String} {i k : Nat} (hname : Plain name)
    (fields : List (String × String)) (h : ∀ e ∈ fields, Plain e.1) :
    (t.putItem base k fields).get (item base name i) =
      if i = k then (fields.reverse.lookup name).or (t.get (item base name i))
      else t.get (item base name i) := by
  rw [putItem, get_putAll, ← List.map_reverse,
    lookup_item hname _ fun e he => h e (List.mem_reverse.mp he)]
  split <;> simp

theorem get_putItem_plain (t : PropertyTree) {base path : String} {k : Nat} (hpath : Plain path)
    (fields : List (String × String)) : (t.putItem base k fields).get path = t.get path := by
  have hnone : ((fields.map fun e => (item base e.1 k, e.2)).reverse.lookup path) = none := by
    rw [List.lookup_eq_none_iff]
    intro e he
    rw [List.mem_reverse, List.mem_map] at he
    obtain ⟨f, -, rfl⟩ := he
    exact bne_iff_ne.mpr (item_ne hpath)
  rw [putItem, get_putAll, hnone, Option.none_or]

/-- Put the records of a list as items `k`, `k + 1` and so on. -/
def putItems {ρ : Type} (fields : ρ → List (String × String)) (base : String) :
    PropertyTree → Nat → List ρ → PropertyTree
  | t, _, [] => t
  | t, k, r :: rs => putItems fields base (t.putItem base k (fields r)) (k + 1) rs

section Items

variable {ρ : Type} {fields : ρ → List (String × String)} {base : String}

theorem get_putItems_plain {path : String} (hpath : Plain path) (rs : List ρ)
    (t : PropertyTree) (k : Nat) : (putItems fields base t k rs).get path = t.get path := by
  induction rs generalizing t k with
  | nil => rfl
  | cons r rs ih => rw [putItems, ih, get_putItem_plain t hpath]

theorem get_putItems_lt {name : String} (hname : Plain name)
    (h : ∀ r, ∀ e ∈ fields r, Plain e.1) (rs : List ρ) (t : PropertyTree) (k i : Nat)
    (hi : i < k) :
    (putItems fields base t k rs).get (item base name i) = t.get (item base name i) := by
  induction rs generalizing t k with
  | nil => rfl
  | cons r rs ih =>
      rw [putItems, ih _ (k + 1) (by omega), get_putItem t hname _ (h r), if_neg (by omega)]

/-- Item `i` of a list holds the fields of its record `i`. -/
theorem get_putItems {name : String} (hname : Plain name)
    (h : ∀ r, ∀ e ∈ fields r, Plain e.1) {rs : List ρ} {r : ρ} {i : Nat}
    (hi : rs[i]? = some r) (t : PropertyTree) (k : Nat) :
    (putItems fields base t k rs).get (item base name (k + i)) =
      ((fields r).reverse.lookup name).or (t.get (item base name (k + i))) := by
  induction rs generalizing t k i with
  | nil => simp at hi
  | cons r' rs ih =>
      rw [putItems]
      cases i with
      | zero =>
          obtain rfl : r' = r := by simpa using hi
          rw [get_putItems_lt hname h _ _ _ _ (by omega), get_putItem t hname _ (h r'),
            if_pos (by omega)]
      | succ i =>
          have := ih (i := i) (by simpa using hi) (t.putItem base k (fields r')) (k + 1)
          rw [show k + 1 + i = k + (i + 1) by omega] at this
          rw [this, get_putItem t hname _ (h r'), if_neg (by omega)]

end Items

end PropertyTree
