import Mathlib.Data.List.Induction

/-! # A row of writes into a table

Each write changes the entry of its slot. What an entry holds in the end is decided by the last
write into its slot.
-/

namespace Writes

variable {α ω : Type*} (slot : ω → ℕ) (fill : ω → α → α)

/-- Make the writes one after another. -/
def putAll (ws : List ω) (l : List α) : List α :=
  ws.foldl (fun l w => l.modify (slot w) (fill w)) l

/-- The last write into slot `j`. -/
def lastAt (j : ℕ) (ws : List ω) : Option ω := (ws.filter fun w => slot w = j).getLast?

variable {slot fill} {ws ws' : List ω} {w : ω} {l : List α} {j : ℕ}

@[simp] theorem putAll_nil : putAll slot fill [] l = l := rfl

@[simp] theorem putAll_cons :
    putAll slot fill (w :: ws) l = putAll slot fill ws (l.modify (slot w) (fill w)) := rfl

theorem putAll_append :
    putAll slot fill (ws ++ ws') l = putAll slot fill ws' (putAll slot fill ws l) :=
  List.foldl_append

@[simp] theorem length_putAll : (putAll slot fill ws l).length = l.length := by
  induction ws generalizing l with
  | nil => rfl
  | cons w ws ih => rw [putAll_cons, ih, List.length_modify]

theorem lastAt_append_singleton :
    lastAt slot j (ws ++ [w]) = if slot w = j then some w else lastAt slot j ws := by
  by_cases h : slot w = j
  · simp [lastAt, List.filter_append, h]
  · simp [lastAt, List.filter_append, h]

theorem slot_of_lastAt (h : lastAt slot j ws = some w) : w ∈ ws ∧ slot w = j := by
  have hmem := List.mem_of_getLast? h
  simpa using hmem

/-- Where no two writes go into one slot, every write is the last one into its slot. -/
theorem lastAt_of_nodup (h : (ws.map slot).Nodup) (hw : w ∈ ws) :
    lastAt slot (slot w) ws = some w := by
  induction ws using List.reverseRecOn with
  | nil => simp at hw
  | append_singleton ws w' ih =>
      rw [lastAt_append_singleton]
      rw [List.map_append, List.map_singleton, List.nodup_append] at h
      rcases List.mem_append.mp hw with hw | hw
      · have hne : slot w' ≠ slot w :=
          (h.2.2 _ (List.mem_map_of_mem hw) _ (List.mem_singleton_self _)).symm
        rw [if_neg hne]
        exact ih h.1 hw
      · rw [List.mem_singleton.mp hw, if_pos rfl]

/-- What all writes keep holds of every entry in the end. -/
theorem forall_mem_putAll {P : α → Prop} (hP : ∀ x ∈ l, P x)
    (hfill : ∀ w ∈ ws, ∀ x, P x → P (fill w x)) : ∀ x ∈ putAll slot fill ws l, P x := by
  induction ws generalizing l with
  | nil => exact hP
  | cons w ws ih =>
      rw [putAll_cons]
      apply ih
      · intro x hx
        obtain ⟨i, hi, rfl⟩ := List.getElem_of_mem hx
        rw [List.length_modify] at hi
        rw [List.getElem_modify]
        split
        · exact hfill w List.mem_cons_self _ (hP _ (List.getElem_mem hi))
        · exact hP _ (List.getElem_mem hi)
      · exact fun w' hw' => hfill w' (List.mem_cons_of_mem w hw')

/-- An entry is in the end what the last write into its slot makes of a value that all writes
keep in `P`. -/
theorem getElem?_putAll {P : α → Prop} (hP : ∀ x ∈ l, P x)
    (hfill : ∀ w ∈ ws, ∀ x, P x → P (fill w x)) (hj : j < l.length)
    (h : lastAt slot j ws = some w) :
    ∃ x, P x ∧ (putAll slot fill ws l)[j]? = some (fill w x) := by
  induction ws using List.reverseRecOn with
  | nil => simp [lastAt] at h
  | append_singleton ws w' ih =>
      have hbefore : ∀ w ∈ ws, ∀ x, P x → P (fill w x) := fun w hw =>
        hfill w (List.mem_append_left _ hw)
      rw [lastAt_append_singleton] at h
      rw [putAll_append, putAll_cons, putAll_nil, List.getElem?_modify]
      split at h
      · rename_i heq
        obtain rfl := Option.some.inj h
        have hlt : j < (putAll slot fill ws l).length := by rwa [length_putAll]
        refine ⟨(putAll slot fill ws l)[j],
          forall_mem_putAll hP hbefore _ (List.getElem_mem hlt), ?_⟩
        rw [heq, List.getElem?_eq_getElem hlt]
        simp
      · rename_i hne
        simpa [hne] using ih hbefore h

theorem exists_getElem?_putAll (hj : j < l.length) (h : lastAt slot j ws = some w) :
    ∃ x, (putAll slot fill ws l)[j]? = some (fill w x) := by
  obtain ⟨x, -, hx⟩ := getElem?_putAll (P := fun _ => True) (fun _ _ => trivial)
    (fun w _ x _ => (trivial : (fun _ => True) (fill w x))) hj h
  exact ⟨x, hx⟩

end Writes
