import Xrm.Library.FixedTable

/-! # Named tables

An array whose first slots hold named entries, used as an ordered map. Entries are appended
behind the others. Removal copies every later slot over the one before it by a function of both
slots, so that what the overwritten slot held may show through.
-/

namespace NamedTable

open FixedTable

variable {σ γ κ : Type*}

/-! ## Ordered maps with a bound -/

section OrderedMap

variable [DecidableEq κ] {key : γ → κ} {size : ℕ} {l l' : List γ} {e : γ} {k : κ}

/-- Append an entry with a new name, if there is room. -/
def declare (key : γ → κ) (size : ℕ) (e : γ) (l : List γ) : Option (List γ) :=
  if key e ∈ l.map key ∨ size ≤ l.length then none else some (l ++ [e])

/-- Remove the entry of the name, if there is one. -/
def undeclare (key : γ → κ) (k : κ) (l : List γ) : Option (List γ) :=
  if k ∈ l.map key then some (l.filter fun e => key e ≠ k) else none

/-- No name stands twice, and the bound is kept. -/
structure BoundedMap (key : γ → κ) (size : ℕ) (l : List γ) : Prop where
  nodup : (l.map key).Nodup
  le : l.length ≤ size

omit [DecidableEq κ] in
theorem boundedMap_nil : BoundedMap key size [] := ⟨List.nodup_nil, Nat.zero_le _⟩

theorem BoundedMap.declare (h : BoundedMap key size l)
    (hl : NamedTable.declare key size e l = some l') : BoundedMap key size l' := by
  rw [NamedTable.declare] at hl
  split at hl
  · simp at hl
  rename_i hnew
  rw [Option.some.injEq] at hl
  rw [not_or] at hnew
  subst hl
  refine ⟨?_, by simp only [List.length_append, List.length_singleton]; omega⟩
  rw [List.map_append, List.nodup_append]
  refine ⟨h.nodup, List.nodup_singleton _, ?_⟩
  intro a ha b hb
  rw [List.map_singleton, List.mem_singleton] at hb
  rw [hb]
  exact fun heq => hnew.1 (heq ▸ ha)

theorem BoundedMap.undeclare (h : BoundedMap key size l)
    (hl : NamedTable.undeclare key k l = some l') : BoundedMap key size l' := by
  rw [NamedTable.undeclare] at hl
  split at hl
  · rw [Option.some.injEq] at hl
    subst hl
    have hsub : List.Sublist (l.filter fun e => key e ≠ k) l := List.filter_sublist
    exact ⟨h.nodup.sublist (hsub.map key), hsub.length_le.trans h.le⟩
  · simp at hl

/-- The position of a name is where removal closes the gap. -/
theorem filter_eq_eraseIdx (h : (l.map key).Nodup) {i : ℕ}
    (hi : l.findIdx? (fun e => key e == k) = some i) :
    (l.filter fun e => key e ≠ k) = l.eraseIdx i := by
  induction l generalizing i with
  | nil => simp at hi
  | cons e l ih =>
      rw [List.map_cons, List.nodup_cons] at h
      rw [List.findIdx?_cons] at hi
      by_cases hk : key e = k
      · have hrest : (l.filter fun e => key e ≠ k) = l := by
          rw [List.filter_eq_self]
          intro x hx
          have hne : key x ≠ k := fun heq => h.1 (hk ▸ heq ▸ List.mem_map_of_mem hx)
          simpa using hne
        obtain rfl : i = 0 := by simpa [hk, eq_comm] using hi
        rw [List.filter_cons_of_neg (by simpa using hk), hrest, List.eraseIdx_zero,
          List.tail_cons]
      · have hnot : (key e == k) = false := by simpa using hk
        simp only [hnot, Bool.false_eq_true, if_false, Option.map_eq_some_iff] at hi
        obtain ⟨j, hj, rfl⟩ := hi
        rw [List.filter_cons_of_pos (by simpa using hk), ih h.2 hj, List.eraseIdx_cons_succ]

end OrderedMap

/-! ## Tables -/

/-- The slots and how many of them are in use. -/
structure Table (σ : Type*) where
  slots : List σ
  num : ℕ

variable {t : Table σ} {contents : σ → γ} {copy : σ → σ → σ} {flush write : σ → σ} {i size : ℕ}

namespace Table

/-- The slots in use. -/
def used (t : Table σ) : List σ := t.slots.take t.num

/-- What the slots in use hold. -/
def view (contents : σ → γ) (t : Table σ) : List γ := t.used.map contents

/-- Write into the first slot that is not in use. -/
def append (write : σ → σ) (t : Table σ) : Table σ where
  slots := t.slots.modify t.num write
  num := t.num + 1

end Table

/-- `k` steps of the loop that copies slot `i + 1` over slot `i`. -/
def moveDown (copy : σ → σ → σ) : ℕ → ℕ → List σ → List σ
  | 0, _, l => l
  | k + 1, i, l =>
      match l[i + 1]? with
      | some src => moveDown copy k (i + 1) (l.modify i (copy src))
      | none => l

namespace Table

/-- Move the slots behind slot `i` down, and flush the last one in use. -/
def erase (copy : σ → σ → σ) (flush : σ → σ) (i : ℕ) (t : Table σ) : Table σ where
  slots := (moveDown copy (t.num - 1 - i) i t.slots).modify (t.num - 1) flush
  num := t.num - 1

/-- The array has its size, and no more slots are in use than there are. -/
structure Fits (size : ℕ) (t : Table σ) : Prop where
  length : t.slots.length = size
  le : t.num ≤ size

end Table

/-- Seen through what the slots hold, the copies are assignments, if a copy holds the same. -/
theorem map_moveDown (hcopy : ∀ src des, contents (copy src des) = contents src) (k i : ℕ)
    (l : List σ) : (moveDown copy k i l).map contents = shiftDown k i (l.map contents) := by
  induction k generalizing i l with
  | zero => rfl
  | succ k ih =>
      rw [moveDown, shiftDown, List.getElem?_map]
      cases hsrc : l[i + 1]? with
      | none => rfl
      | some src =>
          have hset : (l.modify i (copy src)).map contents =
              (l.map contents).set i (contents src) := by
            apply List.ext_getElem?
            intro j
            simp only [List.getElem?_map, List.getElem?_modify, List.getElem?_set,
              List.length_map]
            by_cases hij : i = j
            · subst hij
              cases hi : l[i]? with
              | none => simp [List.getElem?_eq_none_iff.mp hi]
              | some des =>
                  simp [(List.getElem?_eq_some_iff.mp hi).1, hcopy]
            · simp [hij]
          simp only [Option.map_some]
          rw [ih, hset]

theorem length_moveDown (k i : ℕ) (l : List σ) : (moveDown copy k i l).length = l.length := by
  induction k generalizing i l with
  | zero => rfl
  | succ k ih =>
      rw [moveDown]
      split
      · rw [ih, List.length_modify]
      · rfl

namespace Table

theorem length_view (h : t.Fits size) : (t.view contents).length = t.num := by
  rw [view, List.length_map, used, List.length_take, h.length, Nat.min_eq_left h.le]

theorem Fits.append (h : t.Fits size) (hroom : t.num < size) : (t.append write).Fits size :=
  ⟨by rw [Table.append, List.length_modify, h.length], hroom⟩

theorem Fits.erase (h : t.Fits size) : (t.erase copy flush i).Fits size :=
  ⟨by rw [Table.erase, List.length_modify, length_moveDown, h.length],
    (Nat.sub_le _ _).trans h.le⟩

theorem view_append (h : t.Fits size) (hroom : t.num < size) {e : γ}
    (hwrite : ∀ old, contents (write old) = e) :
    (t.append write).view contents = t.view contents ++ [e] := by
  have hlt : t.num < t.slots.length := by rw [h.length]; exact hroom
  rw [view, view, used, used, append, List.take_add_one, List.take_modify,
    List.modify_eq_self (by rw [List.length_take]; omega)]
  simp [hlt, hwrite]

/-- Removal closes the gap in what the table holds. -/
theorem view_erase (hcopy : ∀ src des, contents (copy src des) = contents src)
    (h : t.Fits size) (hi : i < t.num) :
    (t.erase copy flush i).view contents = (t.view contents).eraseIdx i := by
  have hnum : t.num ≤ t.slots.length := h.le.trans h.length.ge
  have hlen : i + (t.num - 1 - i) < (t.slots.map contents).length := by
    rw [List.length_map]
    omega
  have hpos : i + (t.num - 1 - i) = t.num - 1 := by omega
  have hcut : ((t.slots.map contents).take t.num).eraseIdx i =
      (t.slots.map contents).take i ++
        ((t.slots.map contents).drop (i + 1)).take (t.num - 1 - i) := by
    rw [List.eraseIdx_eq_take_drop_succ, List.take_take, List.drop_take]
    congr 2
    · omega
    · omega
  have hused : (t.erase copy flush i).used =
      (moveDown copy (t.num - 1 - i) i t.slots).take (t.num - 1) := by
    show ((moveDown copy (t.num - 1 - i) i t.slots).modify (t.num - 1) flush).take (t.num - 1) = _
    rw [List.take_modify, List.modify_eq_self (by rw [List.length_take]; omega)]
  rw [view, view, hused, used, List.map_take, map_moveDown hcopy, shiftDown_eq _ _ _ hlen, hpos,
    List.map_take, hcut, List.take_append_of_le_length, List.take_of_length_le]
  · simp only [List.length_append, List.length_take, List.length_drop, List.length_map]
    omega
  · simp only [List.length_append, List.length_take, List.length_drop, List.length_map]
    omega

end Table

end NamedTable
