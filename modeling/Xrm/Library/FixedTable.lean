import Mathlib.Algebra.BigOperators.Group.List.Lemmas
import Mathlib.Data.List.Nodup
import Mathlib.Data.List.Perm.Subperm
import Mathlib.Tactic.Abel

/-! # Fixed tables

Arrays of a fixed size whose entries in use stand at the front, kept as lists: removal
closes the gap, and a measure of the table is the sum over its entries.
-/

namespace FixedTable

variable {α : Type*}

/-! ## Closing a gap -/

/-- `k` steps of the loop `a[i] = a[i + 1]; i++`. -/
def shiftDown : Nat → Nat → List α → List α
  | 0, _, l => l
  | k + 1, i, l =>
      match l[i + 1]? with
      | some y => shiftDown k (i + 1) (l.set i y)
      | none => l

/-- Remove entry `i` of the first `n`: the entries after it move down by one and the last
of them becomes `z`. -/
def closeGap (z : α) (l : List α) (i n : Nat) : List α :=
  (shiftDown (n - 1 - i) i l).set (n - 1) z

theorem shiftDown_eq (k i : Nat) (l : List α) (h : i + k < l.length) :
    shiftDown k i l = l.take i ++ (l.drop (i + 1)).take k ++ l.drop (i + k) := by
  induction k generalizing i l with
  | zero => simp [shiftDown]
  | succ k ih =>
      have hi : i + 1 < l.length := by omega
      rw [shiftDown, List.getElem?_eq_getElem hi]
      simp only
      rw [ih (i + 1) (l.set i l[i + 1]) (by simp; omega)]
      have htake : (l.set i l[i + 1]).take (i + 1) = l.take i ++ [l[i + 1]] := by
        rw [List.take_add_one, List.take_set_of_le (le_refl i)]
        simp [show i < l.length by omega]
      have hdrop : (l.set i l[i + 1]).drop (i + 1 + 1) = l.drop (i + 1 + 1) :=
        List.drop_set_of_lt (by omega)
      have hrest : (l.set i l[i + 1]).drop (i + 1 + k) = l.drop (i + (k + 1)) := by
        rw [List.drop_set_of_lt (by omega)]
        congr 1
        omega
      rw [htake, hdrop, hrest, List.drop_eq_getElem_cons hi, List.take_succ_cons]
      simp only [List.append_assoc, List.cons_append, List.nil_append]

theorem map_closeGap {β : Type*} (f : α → β) (z : α) (l : List α) (i n : Nat) :
    (closeGap z l i n).map f = closeGap (f z) (l.map f) i n := by
  have hshift : ∀ (k i : Nat) (l : List α),
      (shiftDown k i l).map f = shiftDown k i (l.map f) := by
    intro k
    induction k with
    | zero => exact fun i l => rfl
    | succ k ih =>
        intro i l
        rw [shiftDown, shiftDown, List.getElem?_map]
        cases l[i + 1]? with
        | none => rfl
        | some x =>
            simp only [Option.map_some]
            rw [ih, List.map_set]
  rw [closeGap, closeGap, List.map_set, hshift]

/-- The closed form of `closeGap`. -/
theorem closeGap_eq (z : α) (l : List α) (i n : Nat) (hi : i < n) (hn : n ≤ l.length) :
    closeGap z l i n = (l.take n).eraseIdx i ++ z :: l.drop n := by
  have hlen : i + (n - 1 - i) < l.length := by omega
  have hpos : i + (n - 1 - i) = n - 1 := by omega
  have hcut : (l.take n).eraseIdx i = l.take i ++ (l.drop (i + 1)).take (n - 1 - i) := by
    rw [List.eraseIdx_eq_take_drop_succ, List.take_take, List.drop_take]
    congr 2
    · omega
    · omega
  have hsize : (l.take i ++ (l.drop (i + 1)).take (n - 1 - i)).length = n - 1 := by
    simp
    omega
  have htail : l.drop (n - 1) = l[n - 1] :: l.drop n := by
    rw [List.drop_eq_getElem_cons (by omega)]
    congr 2
    omega
  rw [closeGap, shiftDown_eq _ _ _ hlen, hpos, hcut, htail,
    List.set_append_right _ _ (by omega)]
  simp [hsize]

/-! ## Tables with their entries in use at the front -/

/-- A table of `size` entries of which the first `n` are in use and the others hold `z`. -/
structure Filled (z : α) (size : ℕ) (l : List α) (n : ℕ) : Prop where
  length : l.length = size
  le : n ≤ size
  rest : ∀ x ∈ l.drop n, x = z

theorem Filled.eq_append {z : α} {size n : ℕ} {l : List α} (h : Filled z size l n) :
    l = l.take n ++ List.replicate (size - n) z := by
  have hdrop : l.drop n = List.replicate (size - n) z := by
    rw [List.eq_replicate_iff]
    exact ⟨by simp [h.length], h.rest⟩
  rw [← hdrop, List.take_append_drop]

theorem Filled.getElem_eq {z : α} {size n i : ℕ} {l : List α} (h : Filled z size l n)
    (hn : n ≤ i) (hi : i < l.length) : l[i] = z := by
  refine h.rest _ (List.mem_iff_getElem.mpr ⟨i - n, by simp; omega, ?_⟩)
  rw [List.getElem_drop]
  congr 1
  omega

theorem filled_replicate (z : α) (size : ℕ) : Filled z size (List.replicate size z) 0 := by
  refine ⟨by simp, by omega, ?_⟩
  intro x hx
  simpa using List.eq_of_mem_replicate hx

/-- Two tables with the same entries in use are equal. -/
theorem Filled.ext {z : α} {size n : ℕ} {l l' : List α} (h : Filled z size l n)
    (h' : Filled z size l' n) (htake : l.take n = l'.take n) : l = l' := by
  rw [h.eq_append, h'.eq_append, htake]

/-- Changing an entry in use keeps the others. -/
theorem Filled.modify {z : α} {size n i : ℕ} {l : List α} (h : Filled z size l n) (hi : i < n)
    (f : α → α) : Filled z size (l.modify i f) n := by
  refine ⟨by simp [h.length], h.le, ?_⟩
  intro x hx
  rw [List.drop_modify_of_lt _ _ _ _ hi] at hx
  exact h.rest x hx

/-- Writing behind the entries in use appends. -/
theorem Filled.push {z : α} {size n : ℕ} {l : List α} (h : Filled z size l n) (hn : n < size)
    (f : α → α) :
    Filled z size (l.modify n f) (n + 1) ∧ (l.modify n f).take (n + 1) = l.take n ++ [f z] := by
  have hlen : n < l.length := by rw [h.length]; exact hn
  have hz : l[n] = z := h.getElem_eq (le_refl n) hlen
  constructor
  · refine ⟨by simp [h.length], by omega, ?_⟩
    intro x hx
    rw [List.drop_modify_of_lt _ _ _ _ (Nat.lt_succ_self n)] at hx
    refine h.rest x (List.mem_of_mem_drop (i := 1) ?_)
    rwa [List.drop_drop]
  · rw [List.take_add_one, List.take_modify, List.modify_eq_self (by rw [List.length_take]; omega)]
    simp [hlen, hz]

theorem set_eq_modify (l : List α) (i : ℕ) (x : α) : l.set i x = l.modify i fun _ => x := by
  apply List.ext_getElem?
  intro j
  rw [List.getElem?_set, List.getElem?_modify]
  by_cases hij : i = j
  · subst hij
    by_cases hi : i < l.length <;> simp [hi]
  · simp [hij]

/-- Closing the gap removes exactly the entry. -/
theorem Filled.closeGap {z : α} {size n i : ℕ} {l : List α} (h : Filled z size l n)
    (hi : i < n) :
    Filled z size (closeGap z l i n) (n - 1) ∧
      (FixedTable.closeGap z l i n).take (n - 1) = (l.take n).eraseIdx i := by
  have hn : n ≤ l.length := by rw [h.length]; exact h.le
  have hle := h.le
  have hlen := h.length
  have hsize : ((l.take n).eraseIdx i).length = n - 1 := by
    rw [List.length_eraseIdx_of_lt (by simp; omega)]
    simp
    omega
  rw [closeGap_eq z l i n hi hn]
  constructor
  · refine ⟨?_, by omega, ?_⟩
    · simp [hsize]
      omega
    · intro x hx
      rw [List.drop_append_of_le_length (by omega), ← hsize, List.drop_length] at hx
      rcases List.mem_cons.mp (by simpa using hx) with hx | hx
      · exact hx
      · exact h.rest x hx
  · rw [List.take_append_of_le_length (by omega), ← hsize, List.take_length]

/-! ## Changing one entry -/

theorem perm_cons_eraseIdx (l : List α) (i : ℕ) (hi : i < l.length) :
    l.Perm (l[i] :: l.eraseIdx i) :=
  (List.getElem_cons_eraseIdx_perm hi).symm

/-- A renaming of the entries commutes with changing one of them. -/
theorem map_modify {β : Type*} {f : α → β} {g : α → α} {h : β → β}
    (hcomm : ∀ x, f (g x) = h (f x)) (l : List α) (i : ℕ) :
    (l.modify i g).map f = (l.map f).modify i h := by
  apply List.ext_getElem?
  intro j
  rw [List.getElem?_map, List.getElem?_modify, List.getElem?_modify, List.getElem?_map]
  cases l[j]? with
  | none => rfl
  | some x =>
      by_cases hij : i = j
      · simp [hij, hcomm]
      · simp [hij]

/-- A change of the entry between two parts of a list. -/
theorem modify_mid (pre post : List α) (a : α) (f : α → α) :
    (pre ++ a :: post).modify pre.length f = pre ++ f a :: post := by
  rw [List.modify_eq_take_cons_drop (by simp)]
  simp

theorem modify_perm (l : List α) (i : ℕ) (f : α → α) (hi : i < l.length) :
    (l.modify i f).Perm (f l[i] :: l.eraseIdx i) := by
  have hi' : i < (l.modify i f).length := by simpa using hi
  have hperm := perm_cons_eraseIdx (l.modify i f) i hi'
  rwa [List.getElem_modify_eq, List.eraseIdx_modify_of_eq] at hperm

theorem forall_mem_modify {P : α → Prop} {l : List α} {i : ℕ} {f : α → α}
    (h : ∀ x ∈ l, P x) (hf : ∀ x ∈ l, P (f x)) : ∀ x ∈ l.modify i f, P x := by
  intro x hx
  by_cases hi : i < l.length
  · rcases List.mem_cons.mp ((modify_perm l i f hi).mem_iff.mp hx) with hx | hx
    · subst hx
      exact hf _ (List.getElem_mem hi)
    · exact h x (List.mem_of_mem_eraseIdx hx)
  · rw [List.modify_eq_self (by omega)] at hx
    exact h x hx

theorem map_modify_eq {β : Type*} {g : α → β} {f : α → α} (h : ∀ x, g (f x) = g x)
    (l : List α) (i : ℕ) : (l.modify i f).map g = l.map g := by
  induction l generalizing i with
  | nil => simp
  | cons x xs ih =>
      cases i with
      | zero => simp [h]
      | succ i => simp [ih i]

/-- A change of one entry of a list that a function does not see. -/
theorem map_modify_at {β : Type*} {l : List α} {i : ℕ} {f : α → α} {g : α → β}
    (h : ∀ hi : i < l.length, g (f l[i]) = g l[i]) : (l.modify i f).map g = l.map g := by
  refine List.ext_getElem (by simp) fun j hj hj' => ?_
  rw [List.getElem_map, List.getElem_map, List.getElem_modify]
  split
  · rename_i hij
    subst hij
    apply h
  · rfl

/-- Changing an entry that the filter drops before and after. -/
theorem filter_modify_of_not {l : List α} {i : ℕ} {f : α → α} {P : α → Bool}
    (hold : ∀ hi : i < l.length, ¬P l[i]) (hnew : ∀ hi : i < l.length, ¬P (f l[i])) :
    (l.modify i f).filter P = l.filter P := by
  induction l generalizing i with
  | nil => simp
  | cons x l ih =>
      cases i with
      | zero =>
          have hx : ¬P x := hold (by simp)
          have hfx : ¬P (f x) := hnew (by simp)
          rw [List.modify_zero_cons, List.filter_cons_of_neg hfx, List.filter_cons_of_neg hx]
      | succ i =>
          have hrest := ih (fun hi => hold (by simpa using hi)) fun hi => hnew (by simpa using hi)
          rw [List.modify_succ_cons, List.filter_cons, List.filter_cons, hrest]

/-! ## Tables side by side -/

section SideBySide

variable {β : Type*} {R : α → β → Prop} {l : List α} {l' : List β}

theorem forall₂_getElem? (h : List.Forall₂ R l l') {i : ℕ} {y : β} (hy : l'[i]? = some y) :
    ∃ x, l[i]? = some x ∧ R x y := by
  induction h generalizing i with
  | nil => simp at hy
  | cons hr _ ih =>
      cases i with
      | zero =>
          rw [List.getElem?_cons_zero, Option.some.injEq] at hy
          exact ⟨_, rfl, hy ▸ hr⟩
      | succ i => exact ih hy

theorem forall₂_set (h : List.Forall₂ R l l') {i : ℕ} {x : α} {y : β} (hx : l[i]? = some x)
    (hr : R x y) : List.Forall₂ R l (l'.set i y) := by
  induction h generalizing i with
  | nil => simp at hx
  | cons hr' h ih =>
      cases i with
      | zero =>
          rw [List.getElem?_cons_zero, Option.some.injEq] at hx
          exact .cons (hx ▸ hr) h
      | succ i => exact .cons hr' (ih hx)

theorem forall₂_forall {P : β → Prop} (h : List.Forall₂ R l l')
    (hP : ∀ x ∈ l, ∀ y, R x y → P y) : ∀ y ∈ l', P y := by
  intro y hy
  obtain ⟨i, hi⟩ := List.mem_iff_getElem?.mp hy
  obtain ⟨x, hx, hr⟩ := forall₂_getElem? h hi
  exact hP x (List.mem_of_getElem? hx) y hr

theorem forall₂_right {P : β → Prop} (h : List.Forall₂ R l l') (hR : ∀ x y, R x y → P y) :
    ∀ y ∈ l', P y := forall₂_forall h fun x _ y => hR x y

/-- Some entry is such on one side exactly when some entry is on the other. -/
theorem forall₂_exists_iff {P : α → Prop} {Q : β → Prop} (h : List.Forall₂ R l l')
    (hR : ∀ x y, R x y → (Q y ↔ P x)) : (∃ y ∈ l', Q y) ↔ ∃ x ∈ l, P x := by
  induction h with
  | nil => simp
  | cons hr _ ih => rw [List.exists_mem_cons_iff, List.exists_mem_cons_iff, ih, hR _ _ hr]

theorem forall₂_imp_mem {S : α → β → Prop} (h : List.Forall₂ R l l')
    (himp : ∀ x, ∀ y ∈ l', R x y → S x y) : List.Forall₂ S l l' := by
  induction h with
  | nil => exact .nil
  | cons hr _ ih =>
      exact .cons (himp _ _ (by simp) hr) (ih fun x y hy => himp x y (by simp [hy]))

theorem forall₂_getElem?_rel (h : List.Forall₂ R l l') (i : ℕ) :
    Option.Rel R l[i]? l'[i]? := by
  induction h generalizing i with
  | nil => exact .none
  | cons hr _ ih =>
      cases i with
      | zero => exact .some hr
      | succ i => exact ih i

theorem forall₂_trans {γ : Type*} {S : β → γ → Prop} {T : α → γ → Prop} {l'' : List γ}
    (h : List.Forall₂ R l l') (h' : List.Forall₂ S l' l'') (hT : ∀ x y z, R x y → S y z → T x z) :
    List.Forall₂ T l l'' := by
  induction h generalizing l'' with
  | nil =>
      cases h' with
      | nil => exact .nil
  | cons hr _ ih =>
      cases h' with
      | cons hs hrest => exact .cons (hT _ _ _ hr hs) (ih hrest)

theorem forall₂_refl {R : α → α → Prop} {l : List α} (h : ∀ x ∈ l, R x x) :
    List.Forall₂ R l l := List.forall₂_same.mpr h

/-- A relation that says that the entries are the same. -/
theorem forall₂_eq {R : α → α → Prop} {l l' : List α} (h : List.Forall₂ R l l')
    (heq : ∀ (i : ℕ) (x y : α), l[i]? = some x → l'[i]? = some y → R x y → y = x) : l' = l := by
  induction h with
  | nil => rfl
  | cons hr _ ih =>
      rw [heq 0 _ _ rfl rfl hr, ih fun i => heq (i + 1)]

end SideBySide

/-! ## Sums over a table -/

section Sum

variable {M : Type*} [AddCommGroup M]

/-- The sum of a measure over the entries. -/
def sumBy (f : α → M) (l : List α) : M := (l.map f).sum

@[simp] theorem sumBy_nil (f : α → M) : sumBy f [] = 0 := rfl

@[simp] theorem sumBy_cons (f : α → M) (x : α) (l : List α) :
    sumBy f (x :: l) = f x + sumBy f l := by
  simp [sumBy]

@[simp] theorem sumBy_append (f : α → M) (l l' : List α) :
    sumBy f (l ++ l') = sumBy f l + sumBy f l' := by
  simp [sumBy]

theorem sumBy_congr {f g : α → M} {l : List α} (h : ∀ x ∈ l, f x = g x) :
    sumBy f l = sumBy g l := by
  rw [sumBy, sumBy, List.map_congr_left h]

theorem sumBy_eq_zero {f : α → M} {l : List α} (h : ∀ x ∈ l, f x = 0) : sumBy f l = 0 := by
  induction l with
  | nil => rfl
  | cons x xs ih =>
      rw [sumBy_cons, h x (by simp), ih (fun y hy => h y (by simp [hy])), add_zero]

theorem sumBy_map {β : Type*} (f : β → M) (g : α → β) (l : List α) :
    sumBy f (l.map g) = sumBy (f ∘ g) l := by
  simp [sumBy]

theorem sumBy_add (f g : α → M) (l : List α) :
    sumBy (fun x => f x + g x) l = sumBy f l + sumBy g l := by
  induction l with
  | nil => simp
  | cons x xs ih =>
      simp only [sumBy_cons, ih]
      abel

theorem sumBy_modify (f : α → M) (l : List α) (i : ℕ) (g : α → α) (hi : i < l.length) :
    sumBy f (l.modify i g) = sumBy f l - f l[i] + f (g l[i]) := by
  induction l generalizing i with
  | nil => simp at hi
  | cons x xs ih =>
      cases i with
      | zero =>
          simp only [List.modify_zero_cons, sumBy_cons, List.getElem_cons_zero]
          abel
      | succ i =>
          have hi' : i < xs.length := by simpa using hi
          simp only [List.modify_succ_cons, sumBy_cons, List.getElem_cons_succ, ih i hi']
          abel

theorem sumBy_eraseIdx (f : α → M) (l : List α) (i : ℕ) (hi : i < l.length) :
    sumBy f (l.eraseIdx i) = sumBy f l - f l[i] := by
  induction l generalizing i with
  | nil => simp at hi
  | cons x xs ih =>
      cases i with
      | zero => simp
      | succ i =>
          have hi' : i < xs.length := by simpa using hi
          simp only [List.eraseIdx_cons_succ, sumBy_cons, List.getElem_cons_succ, ih i hi']
          abel

theorem sumBy_comm {β : Type*} (f : α → β → M) (l : List α) (l' : List β) :
    sumBy (fun x => sumBy (f x) l') l = sumBy (fun y => sumBy (f · y) l) l' := by
  induction l with
  | nil => exact (sumBy_eq_zero fun y _ => rfl).symm
  | cons x xs ih =>
      simp only [sumBy_cons, ih]
      rw [← sumBy_add]

/-- The entries that a filter drops account for the difference of the sums. -/
theorem sumBy_filter (f : α → M) (p : α → Bool) (l : List α) :
    sumBy f (l.filter p) = sumBy f l - sumBy (fun x => if p x then 0 else f x) l := by
  induction l with
  | nil => simp
  | cons x xs ih =>
      by_cases hx : p x = true
      · simp only [List.filter_cons, hx, if_true, sumBy_cons, ih]
        abel
      · simpa [hx] using ih

end Sum

section Order

theorem sumBy_nonneg {f : α → ℤ} {l : List α} (h : ∀ x ∈ l, 0 ≤ f x) : 0 ≤ sumBy f l := by
  induction l with
  | nil => simp
  | cons x xs ih =>
      have hx := h x (by simp)
      have hxs := ih (fun y hy => h y (by simp [hy]))
      simp only [sumBy_cons]
      omega

theorem le_sumBy {f : α → ℤ} {l : List α} (h : ∀ x ∈ l, 0 ≤ f x) {x : α} (hx : x ∈ l) :
    f x ≤ sumBy f l := by
  induction l with
  | nil => simp at hx
  | cons y ys ih =>
      have hy := h y (by simp)
      have hys : 0 ≤ sumBy f ys := sumBy_nonneg fun z hz => h z (by simp [hz])
      simp only [sumBy_cons]
      rcases List.mem_cons.mp hx with hx | hx
      · subst hx
        omega
      · have := ih (fun z hz => h z (by simp [hz])) hx
        omega

theorem sumBy_le_sumBy {f g : α → ℤ} {l : List α} (h : ∀ x ∈ l, f x ≤ g x) :
    sumBy f l ≤ sumBy g l := by
  induction l with
  | nil => simp
  | cons x xs ih =>
      have hx := h x (by simp)
      have hxs := ih (fun y hy => h y (by simp [hy]))
      simp only [sumBy_cons]
      omega

/-- Lists of one length, compared entry by entry. -/
theorem sumBy_le_of_getElem? {β : Type*} {f : α → ℤ} {g : β → ℤ} {l : List α} {l' : List β}
    (hlen : l.length = l'.length)
    (h : ∀ (i : ℕ) (x : α) (y : β), l[i]? = some x → l'[i]? = some y → f x ≤ g y) :
    sumBy f l ≤ sumBy g l' := by
  induction l generalizing l' with
  | nil =>
      rw [List.length_nil, eq_comm, List.length_eq_zero_iff] at hlen
      simp [hlen]
  | cons x xs ih =>
      cases l' with
      | nil => simp at hlen
      | cons y ys =>
          have hxy := h 0 x y rfl rfl
          have hrest := ih (by simpa using hlen) fun i => h (i + 1)
          simp only [sumBy_cons]
          omega

/-- Where no entry is greater and the sums are the same, the entries are. -/
theorem eq_of_sumBy_eq {β : Type*} {f : α → ℤ} {g : β → ℤ} {l : List α} {l' : List β}
    (hlen : l.length = l'.length)
    (h : ∀ (i : ℕ) (x : α) (y : β), l[i]? = some x → l'[i]? = some y → f x ≤ g y)
    (hsum : sumBy f l = sumBy g l') {i : ℕ} {x : α} {y : β} (hx : l[i]? = some x)
    (hy : l'[i]? = some y) : f x = g y := by
  induction l generalizing l' i with
  | nil => simp at hx
  | cons x₀ xs ih =>
      cases l' with
      | nil => simp at hy
      | cons y₀ ys =>
          have hlen' : xs.length = ys.length := by simpa using hlen
          have hhead := h 0 x₀ y₀ rfl rfl
          have htail := sumBy_le_of_getElem? hlen' fun i => h (i + 1)
          simp only [sumBy_cons] at hsum
          cases i with
          | zero =>
              rw [List.getElem?_cons_zero, Option.some.injEq] at hx hy
              subst hx hy
              omega
          | succ i =>
              rw [List.getElem?_cons_succ] at hx hy
              exact ih hlen' (fun i => h (i + 1)) (by omega) hx hy

/-- Counting is summing an indicator. -/
theorem sumBy_indicator (p : α → Prop) [DecidablePred p] (l : List α) :
    sumBy (fun x => if p x then (1 : ℤ) else 0) l = ((l.filter fun x => p x).length : ℤ) := by
  induction l with
  | nil => simp
  | cons x xs ih =>
      by_cases hx : p x
      · simp [hx, ih]
        omega
      · simp [hx, ih]

end Order

end FixedTable
