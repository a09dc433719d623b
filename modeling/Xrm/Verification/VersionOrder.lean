import Mathlib.Data.Prod.Lex
import Mathlib.Order.Basic
import Xrm.Model.Version

/-! # The order of versions

`operator<` tests each component without asking that the ones before it are equal. It is the
lexicographic order on versions where the one that is ahead in an earlier component is not
behind in a later one, and on no others.
-/

namespace Xrm

namespace Version

variable {a b c : Version}

/-- A version, as the lexicographic order reads it. -/
def key (v : Version) : Int ×ₗ Int ×ₗ Int := toLex (v.major, toLex (v.minor, v.revision))

theorem key_lt : a.key < b.key ↔
    a.major < b.major ∨ a.major = b.major ∧
      (a.minor < b.minor ∨ a.minor = b.minor ∧ a.revision < b.revision) := by
  simp only [key, Prod.Lex.toLex_lt_toLex]

theorem key_injective : Function.Injective key := by
  intro a b h
  simp only [key, EmbeddingLike.apply_eq_iff_eq, Prod.mk.injEq] at h
  cases a
  cases b
  simp_all

/-- What `operator<` computes: some component is smaller. -/
theorem lt_iff : a.lt b = true ↔
    a.major < b.major ∨ a.minor < b.minor ∨ a.revision < b.revision := by
  simp only [lt]
  grind

theorem eq_iff : a.eq b = true ↔ a = b := by
  cases a
  cases b
  simp [eq, and_assoc]

/-- A version that is ahead by an earlier component is not behind by a later one. -/
def Ranks (a b : Version) : Prop :=
  (b.major < a.major → b.minor ≤ a.minor ∧ b.revision ≤ a.revision) ∧
    (a.major = b.major → b.minor < a.minor → b.revision ≤ a.revision)

instance : Decidable (Ranks a b) := inferInstanceAs (Decidable (_ ∧ _))

theorem lt_of_key_lt (h : a.key < b.key) : a.lt b = true := by
  rw [key_lt] at h
  rw [lt_iff]
  omega

theorem lt_iff_key_lt : (a.lt b = true ↔ a.key < b.key) ↔ a.Ranks b := by
  rw [lt_iff, key_lt, Ranks]
  omega

theorem lt_irrefl (a : Version) : a.lt a = false := by
  rw [Bool.eq_false_iff]
  intro h
  rw [lt_iff] at h
  omega

/-- On the versions of `S` the comparison is the lexicographic order, a strict total one. -/
structure Ordered (S : Set Version) : Prop where
  lexicographic : ∀ a ∈ S, ∀ b ∈ S, a.lt b = true ↔ a.key < b.key
  irreflexive : ∀ a ∈ S, a.lt a = false
  transitive : ∀ a ∈ S, ∀ b ∈ S, ∀ c ∈ S, a.lt b = true → b.lt c = true → a.lt c = true
  atLeastOne : ∀ a ∈ S, ∀ b ∈ S, a.lt b = true ∨ a.eq b = true ∨ b.lt a = true
  atMostOne : ∀ a ∈ S, ∀ b ∈ S, ¬(a.lt b = true ∧ a.eq b = true) ∧
    ¬(a.lt b = true ∧ b.lt a = true) ∧ ¬(a.eq b = true ∧ b.lt a = true)

theorem ordered_of_lexicographic {S : Set Version}
    (h : ∀ a ∈ S, ∀ b ∈ S, a.lt b = true ↔ a.key < b.key) : Ordered S where
  lexicographic := h
  irreflexive a _ := lt_irrefl a
  transitive a ha b hb c hc hab hbc := by
    rw [h a ha b hb] at hab
    rw [h b hb c hc] at hbc
    rw [h a ha c hc]
    exact lt_trans hab hbc
  atLeastOne a ha b hb := by
    rw [h a ha b hb, h b hb a ha, eq_iff, ← key_injective.eq_iff]
    exact lt_trichotomy a.key b.key
  atMostOne a ha b hb := by
    rw [h a ha b hb, h b hb a ha, eq_iff, ← key_injective.eq_iff]
    refine ⟨?_, ?_, ?_⟩
    · rintro ⟨hlt, heq⟩
      exact hlt.ne heq
    · rintro ⟨hlt, hgt⟩
      exact lt_asymm hlt hgt
    · rintro ⟨heq, hgt⟩
      exact hgt.ne heq.symm

/-- The comparison orders a set of versions right exactly when they rank each other. -/
theorem ordered_iff {S : Set Version} : Ordered S ↔ ∀ a ∈ S, ∀ b ∈ S, a.Ranks b := by
  constructor
  · intro h a ha b hb
    exact lt_iff_key_lt.mp (h.lexicographic a ha b hb)
  · intro h
    apply ordered_of_lexicographic
    intro a ha b hb
    exact lt_iff_key_lt.mpr (h a ha b hb)

/-! ## What the version file says -/

theorem stored_eq {x : Int} (hlo : -2147483648 ≤ x) (hhi : x ≤ 2147483647) : stored x = x := by
  simp only [stored, i32]
  omega

theorem toNat_ne_zero_of_mem_repr {x : Int} {c : Char} (h : c ∈ x.repr.toList) : c.toNat ≠ 0 := by
  have hdigit {n : Nat} (hc : c ∈ Nat.toDigits 10 n) : c.toNat ≠ 0 := by
    have hd := Scan.isDigit_of_mem hc
    simp only [Char.isDigit, Bool.and_eq_true, decide_eq_true_eq] at hd
    have hlow : 48 ≤ c.toNat := hd.1
    omega
  cases x with
  | ofNat n =>
      apply hdigit (n := n)
      rw [← Nat.toList_repr]
      exact h
  | negSucc n =>
      have hlist : (Int.negSucc n).repr.toList = '-' :: Nat.toDigits 10 (n + 1) := by
        change ("-" ++ (n + 1).repr).toList = _
        rw [String.toList_append, Nat.toList_repr]
        rfl
      rw [hlist, List.mem_cons] at h
      cases h with
      | inl h =>
          rw [h]
          decide
      | inr h => exact hdigit h

/-- The components fit the type of the source. -/
def InRange (v : Version) : Prop :=
  ∀ x ∈ [v.major, v.minor, v.revision], -2147483648 ≤ x ∧ x ≤ 2147483647

theorem toList_print (v : Version) : v.print.toList =
    v.major.repr.toList ++ '.' :: (v.minor.repr.toList ++ '.' :: v.revision.repr.toList) := by
  simp [print]

/-- A version that is printed is read back. -/
theorem ofString_print {v : Version} (h : v.InRange) : ofString v.print = v := by
  have hcStr : cStr v.print = v.print := by
    apply cStr_eq
    intro c hc
    simp only [toList_print, List.mem_append, List.mem_cons] at hc
    rcases hc with hc | rfl | hc | rfl | hc
    · exact toNat_ne_zero_of_mem_repr hc
    · decide
    · exact toNat_ne_zero_of_mem_repr hc
    · decide
    · exact toNat_ne_zero_of_mem_repr hc
  have hread : Scan.ints '.' 3 v.print.toList = [v.major, v.minor, v.revision] := by
    rw [toList_print, Scan.ints_cons (by decide), Scan.ints_cons (by decide), Scan.ints_last]
  have hstored : ∀ x ∈ [v.major, v.minor, v.revision], stored x = x := by
    intro x hx
    exact stored_eq (h x hx).1 (h x hx).2
  rw [ofString, hcStr, hread, List.map_congr_left hstored]
  rfl

end Version

/-! ## The function that is bound -/

namespace XrtInstallation

variable {α : Type} {xrt : XrtInstallation α} {v : Version} {f : α}

/-- The first version whose `xclIPName2Index` takes two arguments. -/
def version26 : Version := ⟨2, 6, 0⟩

theorem ofString_version26 : Version.ofString "2.6.0" = version26 :=
  Version.ofString_print (v := version26) (by simp [Version.InRange, version26])

/-- The library is there with the function at `f`, and the version file reports `v`. -/
def Reports (xrt : XrtInstallation α) (v : Version) (f : α) : Prop :=
  ∃ dlsym tree, xrt.libXrtCore = some dlsym ∧ xrt.versionFile = some tree ∧
    cStr (tree.textD ["BUILD_VERSION"]) ≠ "" ∧
    v = Version.ofString (cStr (tree.textD ["BUILD_VERSION"])) ∧ dlsym "xclIPName2Index" = some f

/-- Before 2.6.0 the function is bound with three arguments, from there on with two. -/
structure Bound (xrt : XrtInstallation α) : Prop where
  threeArgsOnly : ∀ f, (initLibVersionDepFunctions xrt).xclIPName2Index25 = some f →
    ∃ v, xrt.Reports v f ∧ v.key < version26.key
  before : ∀ v f, xrt.Reports v f → v.key < version26.key →
    (initLibVersionDepFunctions xrt).xclIPName2Index25 = some f ∧
      (initLibVersionDepFunctions xrt).xclIPName2Index26 = none
  onward : ∀ v f, xrt.Reports v f → version26.key ≤ v.key →
    (initLibVersionDepFunctions xrt).xclIPName2Index25 = none ∧
      (initLibVersionDepFunctions xrt).xclIPName2Index26 = some f

/-- What an installation that reports `v` gets bound. -/
theorem bound_of_reports (h : xrt.Reports v f) :
    (initLibVersionDepFunctions xrt).xclIPName2Index25 =
        (if v.lt version26 then some f else none) ∧
      (initLibVersionDepFunctions xrt).xclIPName2Index26 =
        (if v.lt version26 then none else some f) := by
  obtain ⟨dlsym, tree, hlib, hfile, htext, rfl, hf⟩ := h
  simp only [initLibVersionDepFunctions, hlib, hfile, htext, if_false, ofString_version26]
  split <;> simp [*]

/-- With three arguments the function is bound only for a version that tests below 2.6.0. -/
theorem reports_of_bound25 (h : (initLibVersionDepFunctions xrt).xclIPName2Index25 = some f) :
    ∃ v, xrt.Reports v f ∧ v.lt version26 = true := by
  cases hlib : xrt.libXrtCore with
  | none => simp [initLibVersionDepFunctions, hlib] at h
  | some dlsym =>
      cases hfile : xrt.versionFile with
      | none => simp [initLibVersionDepFunctions, hlib, hfile] at h
      | some tree =>
          simp only [initLibVersionDepFunctions, hlib, hfile, ofString_version26] at h
          split at h
          · simp at h
          · rename_i htext
            split at h
            · rename_i hlt
              exact ⟨_, ⟨dlsym, tree, hlib, hfile, htext, rfl, h⟩, hlt⟩
            · simp at h

/-- The function is bound right exactly when no reported version is ahead of 2.6.0 by one component
and behind by a later one. -/
theorem bound_iff : xrt.Bound ↔ ∀ v f, xrt.Reports v f → v.Ranks version26 := by
  constructor
  · intro h v f hreports
    rw [← Version.lt_iff_key_lt]
    refine ⟨?_, Version.lt_of_key_lt⟩
    intro hlt
    by_contra hkey
    have honward := (h.onward v f hreports (not_lt.mp hkey)).1
    simp [bound_of_reports hreports, hlt] at honward
  · intro h
    have hlt {v : Version} {f : α} (hreports : xrt.Reports v f) :
        v.lt version26 = true ↔ v.key < version26.key :=
      Version.lt_iff_key_lt.mpr (h v f hreports)
    refine ⟨?_, ?_, ?_⟩
    · intro f hf
      obtain ⟨v, hreports, hv⟩ := reports_of_bound25 hf
      exact ⟨v, hreports, (hlt hreports).mp hv⟩
    · intro v f hreports hkey
      simp [bound_of_reports hreports, (hlt hreports).mpr hkey]
    · intro v f hreports hkey
      have hv : ¬v.lt version26 = true := by
        rw [hlt hreports]
        exact not_lt.mpr hkey
      simp [bound_of_reports hreports, hv]

/-- Versions compare as the lexicographic order does, and `xclIPName2Index` is bound as its
version takes it, exactly where the versions rank each other. -/
theorem versions_compare (S : Set Version) {α : Type} (xrt : XrtInstallation α) :
    (Version.Ordered S ↔ ∀ a ∈ S, ∀ b ∈ S, a.Ranks b) ∧
      (xrt.Bound ↔ ∀ v f, xrt.Reports v f → v.Ranks version26) :=
  ⟨Version.ordered_iff, bound_iff⟩

/-- An installation of version 3.0.0. -/
def nextMajor : XrtInstallation Nat where
  libXrtCore := some fun name => if name = "xclIPName2Index" then some 26 else none
  versionFile := some (DataTree.branch [("BUILD_VERSION", DataTree.leaf "3.0.0")])

/-- Versions 3.0.0 and 2.9.0 are each smaller than the other, and the function of 3.0.0 is bound
with three arguments. -/
theorem versions_compare_both_ways :
    ¬Version.Ordered Set.univ ∧
      (⟨3, 0, 0⟩ : Version).lt ⟨2, 9, 0⟩ = true ∧ (⟨2, 9, 0⟩ : Version).lt ⟨3, 0, 0⟩ = true ∧
      nextMajor.Reports ⟨3, 0, 0⟩ 26 ∧
      (initLibVersionDepFunctions nextMajor).xclIPName2Index25 = some 26 ∧ ¬nextMajor.Bound := by
  have hreports : nextMajor.Reports ⟨3, 0, 0⟩ 26 := by
    refine ⟨_, _, rfl, rfl, ?_, ?_, rfl⟩
    · decide
    · decide
  refine ⟨?_, by decide, by decide, hreports, by simp [bound_of_reports hreports]; decide, ?_⟩
  · intro h
    have hrank := Version.ordered_iff.mp h ⟨3, 0, 0⟩ (Set.mem_univ _) ⟨2, 9, 0⟩ (Set.mem_univ _)
    exact absurd hrank (by decide)
  · intro h
    exact absurd (bound_iff.mp h _ _ hreports) (by decide)

end XrtInstallation

end Xrm
