import Mathlib.Data.List.Basic

/-! # Listings of bounded length

Nested loops over lists put entries into a listing that has room for `room` entries only. They
list all entries if these fit, and fail otherwise. An entry that shows the positions of the loops
is listed once.
-/

namespace Listing

variable {ε α β : Type*}

/-! ## Room -/

/-- Put the entries behind those found so far, if there is room for all. -/
def pushAll (room : ℕ) (e : ε) (found entries : List β) : Except ε (List β) :=
  if found.length + entries.length ≤ room then .ok (found ++ entries) else .error e

/-- Put one more entry behind those found so far. -/
def push (room : ℕ) (e : ε) (found : List β) (entry : β) : Except ε (List β) :=
  if found.length ≥ room then .error e else .ok (found ++ [entry])

variable {room : ℕ} {e : ε} {found : List β}

theorem pushAll_nil (h : found.length ≤ room) : pushAll room e found [] = .ok found := by
  rw [pushAll, List.length_nil, Nat.add_zero, if_pos h, List.append_nil]

theorem push_eq (room : ℕ) (e : ε) (found : List β) (entry : β) :
    push room e found entry = pushAll room e found [entry] := by
  rw [push, pushAll, List.length_singleton]
  by_cases h : found.length ≥ room
  · rw [if_pos h, if_neg (by omega)]
  · rw [if_neg h, if_pos (by omega)]

/-- A loop whose rounds list their entries lists the entries of all rounds. -/
theorem foldlM_eq {f : List β → α → Except ε (List β)} {g : α → List β} (l : List α)
    (hf : ∀ found x, found.length ≤ room → x ∈ l → f found x = pushAll room e found (g x))
    (h : found.length ≤ room) : l.foldlM f found = pushAll room e found (l.flatMap g) := by
  induction l generalizing found with
  | nil => exact (pushAll_nil h).symm
  | cons x l ih =>
      rw [List.foldlM_cons, hf found x h (by simp), List.flatMap_cons, pushAll, pushAll,
        List.length_append]
      by_cases hfit : found.length + (g x).length ≤ room
      · have hrest := ih (fun found y h hy => hf found y h (by simp [hy]))
          (show (found ++ g x).length ≤ room by rwa [List.length_append])
        rw [if_pos hfit]
        show l.foldlM f (found ++ g x) = _
        rw [hrest, pushAll, List.length_append, List.append_assoc, Nat.add_assoc]
      · rw [if_neg hfit, if_neg (by omega)]
        rfl

/-! ## Positions -/

theorem mem_flatMap_zipIdx {l : List α} {g : α × ℕ → List β} {y : β} :
    y ∈ l.zipIdx.flatMap g ↔ ∃ i x, l[i]? = some x ∧ y ∈ g (x, i) := by
  rw [List.mem_flatMap]
  constructor
  · rintro ⟨⟨x, i⟩, hmem, hy⟩
    exact ⟨i, x, List.mem_zipIdx_iff_getElem?.mp hmem, hy⟩
  · rintro ⟨i, x, hx, hy⟩
    exact ⟨(x, i), List.mem_zipIdx_iff_getElem?.mpr hx, hy⟩

/-- If every entry shows the position of its round, the rounds list nothing twice. -/
theorem nodup_flatMap_zipIdx {κ : Type*} {g : α × ℕ → List κ} (key : κ → ℕ) (l : List α) (n : ℕ)
    (hkey : ∀ x i, ∀ y ∈ g (x, i), key y = i) (hg : ∀ x i, (g (x, i)).Nodup) :
    ((l.zipIdx n).flatMap g).Nodup := by
  induction l generalizing n with
  | nil => exact List.nodup_nil
  | cons x l ih =>
      rw [List.zipIdx_cons, List.flatMap_cons, List.nodup_append]
      refine ⟨hg x n, ih (n + 1), fun y hy z hz => ?_⟩
      obtain ⟨⟨x', i⟩, hmem, hz⟩ := List.mem_flatMap.mp hz
      have hle := (List.mem_zipIdx hmem).1
      rintro rfl
      have hn := hkey x n y hy
      have hi := hkey x' i y hz
      omega

end Listing
