import Xrm.Verification.CuReserve

/-! # The client table of a device

An entry counts the references of one client. Registering adds a reference, dropping takes
one away, and whatever the order the table keeps its shape.
-/

namespace Xrm

open FixedTable

/-! ## Entries -/

namespace ClientData

/-- The entry is free, or a client has references. -/
def Proper (entry : ClientData) : Prop :=
  entry = zero ∨ entry.clientId ≠ 0 ∧ 0 < entry.ref

theorem proper_zero : zero.Proper := .inl rfl

theorem Proper.eq_zero {entry : ClientData} (h : entry.Proper) (hc : entry.clientId = 0) :
    entry = zero := by
  rcases h with h | h
  · exact h
  · exact absurd hc h.1

theorem Proper.ref_nonneg {entry : ClientData} (h : entry.Proper) : 0 ≤ entry.ref := by
  rcases h with h | h
  · rw [h]
    exact le_refl 0
  · exact h.2.le

theorem Proper.ref_pos {entry : ClientData} (h : entry.Proper) (hc : entry.clientId ≠ 0) :
    0 < entry.ref := by
  rcases h with h | h
  · rw [h] at hc
    exact absurd rfl hc
  · exact h.2

theorem Proper.addRef {entry : ClientData} (h : entry.Proper) (hc : entry.clientId ≠ 0) :
    (DeviceData.addRef entry).Proper :=
  .inr ⟨hc, by have := h.ref_pos hc; simp only [DeviceData.addRef]; omega⟩

theorem Proper.dropRef {entry : ClientData} (h : entry.Proper) (hc : entry.clientId ≠ 0) :
    (DeviceData.dropRef entry).Proper := by
  have := h.ref_pos hc
  rw [DeviceData.dropRef]
  split
  · exact proper_zero
  · exact .inr ⟨hc, by simp only; omega⟩

end ClientData

/-! ## Measures -/

/-- The references of client `c` in an entry. -/
def refsOf (c : Nat) (entry : ClientData) : Int := if entry.clientId = c then entry.ref else 0

/-- 1 for an entry that names client `c`. -/
def naming (c : Nat) (entry : ClientData) : Int := if entry.clientId = c then 1 else 0

theorem refsOf_zero {c : Nat} : refsOf c ClientData.zero = 0 := by
  rw [refsOf]
  split <;> rfl

theorem naming_zero {c : Nat} (hc : c ≠ 0) : naming c ClientData.zero = 0 := by
  rw [naming, if_neg]
  exact hc.symm

theorem sumBy_refsOf_eq_zero {c : Nat} {entries : List ClientData}
    (h : ∀ entry ∈ entries, entry.clientId ≠ c) : sumBy (refsOf c) entries = 0 :=
  sumBy_eq_zero fun entry he => if_neg (h entry he)

theorem sumBy_naming_eq_zero {c : Nat} {entries : List ClientData}
    (h : ∀ entry ∈ entries, entry.clientId ≠ c) : sumBy (naming c) entries = 0 :=
  sumBy_eq_zero fun entry he => if_neg (h entry he)

theorem naming_nonneg (c : Nat) (entry : ClientData) : 0 ≤ naming c entry := by
  rw [naming]
  split <;> omega

theorem refsOf_nonneg {entry : ClientData} (h : entry.Proper) (c : Nat) : 0 ≤ refsOf c entry := by
  rw [refsOf]
  split
  · exact h.ref_nonneg
  · exact le_refl 0

theorem refsOf_dropRef (d : Nat) (entry : ClientData) :
    refsOf d (DeviceData.dropRef entry) =
      refsOf d entry - if entry.clientId = d then 1 else 0 := by
  rw [DeviceData.dropRef]
  split
  · rw [refsOf_zero, refsOf]
    split <;> omega
  · simp only [refsOf]
    split <;> omega

theorem naming_dropRef_le {d : Nat} (hd : d ≠ 0) (entry : ClientData) :
    naming d (DeviceData.dropRef entry) ≤ naming d entry := by
  rw [DeviceData.dropRef]
  split
  · rw [naming_zero hd]
    exact naming_nonneg d entry
  · exact le_refl _

/-- The reference count that the exclusive branch of `allocClientFromDev` carries over. -/
theorem foldl_ref_eq {c : Nat} {entries : List ClientData} (a : Int)
    (hone : sumBy (naming c) entries ≤ 1) :
    entries.foldl (fun ref entry => if entry.clientId = c then entry.ref else ref) a =
      sumBy (refsOf c) entries + if sumBy (naming c) entries = 0 then a else 0 := by
  induction entries generalizing a with
  | nil => simp
  | cons entry entries ih =>
      have hrest : 0 ≤ sumBy (naming c) entries := sumBy_nonneg fun e _ => naming_nonneg c e
      rw [sumBy_cons, naming] at hone
      rw [List.foldl_cons, sumBy_cons, sumBy_cons, naming, refsOf]
      by_cases hc : entry.clientId = c
      · rw [if_pos hc] at hone
        rw [if_pos hc, if_pos hc, if_pos hc, ih _ (by omega), if_pos (by omega),
          if_neg (by omega)]
        omega
      · rw [if_neg hc] at hone
        rw [if_neg hc, if_neg hc, if_neg hc, ih _ (by omega)]
        simp only [zero_add]

theorem foldl_ref_nonneg {c : Nat} {entries : List ClientData} {a : Int} (ha : 0 ≤ a)
    (hp : ∀ entry ∈ entries, entry.Proper) :
    0 ≤ entries.foldl (fun ref entry => if entry.clientId = c then entry.ref else ref) a := by
  induction entries generalizing a with
  | nil => exact ha
  | cons entry entries ih =>
      rw [List.foldl_cons]
      refine ih ?_ fun e he => hp e (by simp [he])
      split
      · exact (hp entry (by simp)).ref_nonneg
      · exact ha

namespace DeviceData

/-! ## Shape and tally -/

/-- The shape of a client table: an exclusive device has its holder in front and nobody
behind. -/
structure TableShape (dev : DeviceData) : Prop where
  length : dev.clientProcs.length = maxDevClients
  proper : ∀ entry ∈ dev.clientProcs, entry.Proper
  holder : dev.isExcl = true → dev.holder.clientId ≠ 0
  alone : dev.isExcl = true → ∀ entry ∈ dev.clientProcs.tail, entry = ClientData.zero

/-- The references of every client are `held` of them, in one entry at most. -/
structure Tally (dev : DeviceData) (held : Nat → Int) : Prop where
  refs : ∀ c, c ≠ 0 → sumBy (refsOf c) dev.clientProcs = held c
  once : ∀ c, c ≠ 0 → sumBy (naming c) dev.clientProcs ≤ 1

/-- The channels of client `c` on the device. -/
def held (dev : DeviceData) (c : Nat) : Int :=
  sumBy (fun cu : CuData => sumBy (heldBy c) cu.channels) dev.cuList

/-- One more for client `c`. -/
def plus (held : Nat → Int) (c : Nat) : Nat → Int := fun d => held d + if d = c then 1 else 0

/-- One less for client `c`. -/
def minus (held : Nat → Int) (c : Nat) : Nat → Int := fun d => held d - if d = c then 1 else 0

theorem minus_plus (held : Nat → Int) (c : Nat) : minus (plus held c) c = held := by
  funext d
  simp only [minus, plus]
  omega

variable {dev dev' : DeviceData} {held : Nat → Int} {prop : CuProperty} {c : Nat}

theorem TableShape.pos (h : dev.TableShape) : 0 < dev.clientProcs.length := by
  rw [h.length]
  decide

theorem holder_eq (hpos : 0 < dev.clientProcs.length) :
    dev.holder = dev.clientProcs[0] := by
  simp [DeviceData.holder, List.getD, hpos]

/-- What only changes one entry, naming the client before and after or not. -/
theorem TableShape.modify (h : dev.TableShape) {i : Nat} {f : ClientData → ClientData}
    (hf : ∀ hi : i < dev.clientProcs.length, (f dev.clientProcs[i]).Proper)
    (hex : dev.isExcl = false) :
    { dev with clientProcs := dev.clientProcs.modify i f }.TableShape := by
  refine ⟨by simpa using h.length, ?_, by simp [hex], by simp [hex]⟩
  intro entry he
  by_cases hi : i < dev.clientProcs.length
  · rcases List.mem_cons.mp ((modify_perm _ i f hi).mem_iff.mp he) with rfl | he
    · exact hf hi
    · exact h.proper entry (List.mem_of_mem_eraseIdx he)
  · rw [show dev.clientProcs.modify i f = dev.clientProcs from
      List.modify_eq_self (by omega)] at he
    exact h.proper entry he

theorem findIdx?_clientId {i : Nat} {entries : List ClientData}
    (h : entries.findIdx? (·.clientId == c) = some i) :
    ∃ hi : i < entries.length, entries[i].clientId = c := by
  rw [List.findIdx?_eq_some_iff_getElem] at h
  obtain ⟨hi, hc, -⟩ := h
  exact ⟨hi, by simpa using hc⟩

/-! ## Registering a client -/

/-- What a successful registration has done, by the branch taken. -/
inductive Registered (dev : DeviceData) (prop : CuProperty) : DeviceData → Prop where
  | again (hex : dev.isExcl = true) (hholder : dev.holder.clientId = prop.clientId) :
      Registered dev prop { dev with clientProcs := dev.clientProcs.modify 0 addRef }
  | exclusive (hex : dev.isExcl = false) (hprop : prop.devExcl = true)
      (halone : ∀ entry ∈ dev.clientProcs, entry.clientId = 0 ∨ entry.clientId = prop.clientId) :
      Registered dev prop
        { dev with
          isExcl := true
          clientProcs :=
            { clientId := prop.clientId
              clientProcessId := prop.clientProcessId
              ref := dev.clientProcs.foldl (fun ref entry =>
                if entry.clientId = prop.clientId then entry.ref else ref) 0 + 1 } ::
              List.replicate (maxDevClients - 1) ClientData.zero }
  | found (hex : dev.isExcl = false) (hprop : prop.devExcl = false) (i : Nat)
      (hfind : dev.clientProcs.findIdx? (·.clientId == prop.clientId) = some i) :
      Registered dev prop { dev with clientProcs := dev.clientProcs.modify i addRef }
  | opened (hex : dev.isExcl = false) (hprop : prop.devExcl = false)
      (hnew : ∀ entry ∈ dev.clientProcs, entry.clientId ≠ prop.clientId) (i : Nat)
      (hfind : dev.clientProcs.findIdx? (·.clientId == 0) = some i) :
      Registered dev prop
        { dev with
          clientProcs := dev.clientProcs.modify i fun _ =>
            { clientId := prop.clientId, clientProcessId := prop.clientProcessId, ref := 1 } }

theorem allocClientFromDev_spec (h : dev.allocClientFromDev prop = .ok dev') :
    Registered dev prop dev' := by
  rw [allocClientFromDev] at h
  simp only at h
  by_cases hex : dev.isExcl = true
  · rw [if_pos hex] at h
    split at h
    · rename_i hholder
      rw [← Except.ok.inj h]
      exact .again hex hholder
    · simp at h
  · have hex' : dev.isExcl = false := by simpa using hex
    rw [if_neg hex] at h
    by_cases hprop : prop.devExcl = true
    · rw [if_pos hprop] at h
      split at h
      · simp at h
      · rename_i hother
        rw [← Except.ok.inj h]
        refine .exclusive hex' hprop fun entry he => ?_
        simp only [List.any_eq_true, Bool.and_eq_true, bne_iff_ne, not_exists, not_and,
          Decidable.not_not] at hother
        by_cases h0 : entry.clientId = 0
        · exact .inl h0
        · exact .inr (hother entry he h0)
    · have hprop' : prop.devExcl = false := by simpa using hprop
      rw [if_neg hprop] at h
      split at h
      · rename_i i hfind
        rw [← Except.ok.inj h]
        exact .found hex' hprop' i hfind
      · rename_i hnone
        split at h
        · rename_i i hfind
          rw [← Except.ok.inj h]
          rw [List.findIdx?_eq_none_iff] at hnone
          rw [set_eq_modify]
          exact .opened hex' hprop' (fun entry he => by simpa using hnone entry he) i hfind
        · simp at h

/-- A registration touches the client table and the flag only. -/
theorem Registered.frame (h : Registered dev prop dev') :
    dev' = { dev with isExcl := dev'.isExcl, clientProcs := dev'.clientProcs } := by
  cases h <;> rfl

theorem Registered.shape (h : Registered dev prop dev') (hs : dev.TableShape)
    (hc : prop.clientId ≠ 0) : dev'.TableShape := by
  have hpos := hs.pos
  have hholder := holder_eq hpos
  cases h with
  | again hex hh =>
      rw [hholder] at hh
      have hne : dev.clientProcs[0].clientId ≠ 0 := by rwa [hh]
      refine ⟨by simpa using hs.length, ?_, ?_, ?_⟩
      · intro entry he
        rcases List.mem_cons.mp ((modify_perm _ 0 addRef hpos).mem_iff.mp he) with rfl | he
        · exact (hs.proper _ (List.getElem_mem hpos)).addRef hne
        · exact hs.proper entry (List.mem_of_mem_eraseIdx he)
      · intro _
        simp [DeviceData.holder, List.getD, hpos, addRef, hne]
      · intro _ entry he
        refine hs.alone hex entry ?_
        cases hl : dev.clientProcs with
        | nil => simp [hl] at hpos
        | cons e es => simpa [hl] using he
  | exclusive hex hprop halone =>
      have href := foldl_ref_nonneg (c := prop.clientId) (le_refl 0) hs.proper
      refine ⟨by rw [List.length_cons, List.length_replicate]; rfl, ?_, ?_, ?_⟩
      · intro entry he
        rcases List.mem_cons.mp he with rfl | he
        · exact .inr ⟨hc, by simp only; omega⟩
        · rw [List.eq_of_mem_replicate he]
          exact ClientData.proper_zero
      · intro _
        exact hc
      · intro _ entry he
        exact List.eq_of_mem_replicate he
  | found hex hprop i hfind =>
      obtain ⟨hi, hfound⟩ := findIdx?_clientId hfind
      refine hs.modify (fun hi => ?_) hex
      exact (hs.proper _ (List.getElem_mem hi)).addRef (by rwa [hfound])
  | opened hex hprop hnew i hfind =>
      refine hs.modify (fun _ => ?_) hex
      exact .inr ⟨hc, show (0 : Int) < 1 by decide⟩

/-- A registration adds one reference of the client. -/
theorem Registered.tally (h : Registered dev prop dev') (hs : dev.TableShape)
    (ht : dev.Tally held) (hc : prop.clientId ≠ 0) : dev'.Tally (plus held prop.clientId) := by
  have hpos := hs.pos
  have hholder := holder_eq hpos
  have hadd : ∀ i (hi : i < dev.clientProcs.length),
      dev.clientProcs[i].clientId = prop.clientId →
        { dev with clientProcs := dev.clientProcs.modify i addRef }.Tally
          (plus held prop.clientId) := by
    intro i hi hfound
    constructor
    · intro d hd
      have := ht.refs d hd
      rw [sumBy_modify _ _ _ _ hi]
      simp only [refsOf, addRef, hfound, plus]
      by_cases hdc : d = prop.clientId
      · subst hdc
        simp only [if_true]
        omega
      · simp only [if_neg hdc, if_neg (Ne.symm hdc)]
        omega
    · intro d hd
      have := ht.once d hd
      rw [sumBy_modify _ _ _ _ hi]
      simp only [naming, addRef]
      omega
  cases h with
  | again hex hh =>
      rw [hholder] at hh
      exact hadd 0 hpos hh
  | exclusive hex hprop halone =>
      have hzero : ∀ d, d ≠ 0 → d ≠ prop.clientId → ∀ entry ∈ dev.clientProcs,
          entry.clientId ≠ d := by
        intro d hd hdc entry he
        rcases halone entry he with h0 | h0
        · rw [h0]
          exact hd.symm
        · rw [h0]
          exact hdc.symm
      have href := foldl_ref_eq 0 (ht.once prop.clientId hc)
      rw [ite_self, add_zero, ht.refs _ hc] at href
      constructor
      · intro d hd
        simp only [sumBy_cons, href]
        rw [sumBy_eq_zero fun entry he => by rw [List.eq_of_mem_replicate he, refsOf_zero]]
        simp only [refsOf, plus]
        by_cases hdc : d = prop.clientId
        · subst hdc
          simp
        · rw [if_neg (Ne.symm hdc), if_neg hdc, ← ht.refs d hd,
            sumBy_refsOf_eq_zero (hzero d hd hdc)]
      · intro d hd
        simp only [sumBy_cons]
        rw [sumBy_eq_zero fun entry he => by rw [List.eq_of_mem_replicate he, naming_zero hd]]
        simp only [naming]
        split <;> omega
  | found hex hprop i hfind =>
      obtain ⟨hi, hfound⟩ := findIdx?_clientId hfind
      exact hadd i hi hfound
  | opened hex hprop hnew i hfind =>
      obtain ⟨hi, hfree⟩ := findIdx?_clientId hfind
      have hz := (hs.proper _ (List.getElem_mem hi)).eq_zero hfree
      constructor
      · intro d hd
        have := ht.refs d hd
        rw [sumBy_modify _ _ _ _ hi, hz, refsOf_zero]
        simp only [refsOf, plus]
        by_cases hdc : d = prop.clientId
        · subst hdc
          simp only [if_true]
          omega
        · simp only [if_neg hdc, if_neg (Ne.symm hdc)]
          omega
      · intro d hd
        have := ht.once d hd
        rw [sumBy_modify _ _ _ _ hi, hz, naming_zero hd]
        simp only [naming]
        by_cases hdc : d = prop.clientId
        · subst hdc
          rw [if_pos rfl, sumBy_naming_eq_zero hnew]
          omega
        · rw [if_neg (Ne.symm hdc)]
          omega

/-! ## Dropping a client -/

/-- What a release of the client does to the table, by the branch taken. -/
inductive Dropped (dev : DeviceData) (c : Nat) : DeviceData → Prop where
  | refused (h : dev.isLoaded = false ∨
      (dev.isExcl = true ∧ dev.holder.clientId ≠ c) ∨
      (dev.isExcl = false ∧ ∀ entry ∈ dev.clientProcs, entry.clientId ≠ c)) : Dropped dev c dev
  | holder (hload : dev.isLoaded = true) (hex : dev.isExcl = true)
      (hholder : dev.holder.clientId = c) :
      Dropped dev c
        { dev with
          isExcl := dev.holder.ref - 1 != 0
          clientProcs := dev.clientProcs.modify 0 dropRef }
  | entry (hload : dev.isLoaded = true) (hex : dev.isExcl = false) (i : Nat)
      (hfind : dev.clientProcs.findIdx? (·.clientId == c) = some i) :
      Dropped dev c { dev with clientProcs := dev.clientProcs.modify i dropRef }

theorem dropClient_spec (dev : DeviceData) (c : Nat) : Dropped dev c (dev.dropClient c) := by
  rw [dropClient, releaseClientOnDev]
  by_cases hload : dev.isLoaded = true
  · rw [if_neg (by simp [hload])]
    by_cases hex : dev.isExcl = true
    · rw [if_pos hex]
      by_cases hh : dev.holder.clientId = c
      · rw [if_neg (by simpa using hh)]
        exact .holder hload hex hh
      · rw [if_pos hh]
        exact .refused (.inr (.inl ⟨hex, hh⟩))
    · rw [if_neg hex]
      have hex' : dev.isExcl = false := by simpa using hex
      cases hfind : dev.clientProcs.findIdx? (·.clientId == c) with
      | some i => exact .entry hload hex' i hfind
      | none =>
          rw [List.findIdx?_eq_none_iff] at hfind
          exact .refused (.inr (.inr ⟨hex', fun entry he => by simpa using hfind entry he⟩))
  · rw [if_pos (by simpa using hload)]
    exact .refused (.inl (by simpa using hload))

theorem Dropped.frame (h : Dropped dev c dev') :
    dev' = { dev with isExcl := dev'.isExcl, clientProcs := dev'.clientProcs } := by
  cases h <;> rfl

theorem Dropped.shape (h : Dropped dev c dev') (hs : dev.TableShape) (hc : c ≠ 0) :
    dev'.TableShape := by
  have hpos := hs.pos
  have hholder := holder_eq hpos
  cases h with
  | refused => exact hs
  | holder hload hex hh =>
      rw [hholder] at hh
      have hne : dev.clientProcs[0].clientId ≠ 0 := by rwa [hh]
      have hproper := (hs.proper _ (List.getElem_mem hpos)).dropRef hne
      refine ⟨by simpa using hs.length, ?_, ?_, ?_⟩
      · intro entry he
        rcases List.mem_cons.mp ((modify_perm _ 0 dropRef hpos).mem_iff.mp he) with rfl | he
        · exact hproper
        · exact hs.proper entry (List.mem_of_mem_eraseIdx he)
      · intro hex'
        rw [hholder] at hex'
        have href : ¬dev.clientProcs[0].ref - 1 = 0 := by simpa using hex'
        simp [DeviceData.holder, List.getD, hpos, dropRef, href, hne]
      · intro _ entry he
        refine hs.alone hex entry ?_
        cases hl : dev.clientProcs with
        | nil => simp [hl] at hpos
        | cons e es => simpa [hl] using he
  | entry hload hex i hfind =>
      obtain ⟨hi, hfound⟩ := findIdx?_clientId hfind
      refine hs.modify (fun hi => ?_) hex
      exact (hs.proper _ (List.getElem_mem hi)).dropRef (by rwa [hfound])

/-- On a loaded device the drop takes one reference of a client that has some. -/
theorem Dropped.tally (h : Dropped dev c dev') (hs : dev.TableShape) (ht : dev.Tally held)
    (hc : c ≠ 0) (hload : dev.isLoaded = true) (hheld : 0 < held c) :
    dev'.Tally (minus held c) := by
  have hpos := hs.pos
  have hholder := holder_eq hpos
  have hsome : ∃ entry ∈ dev.clientProcs, entry.clientId = c := by
    by_contra hno
    push Not at hno
    have := ht.refs c hc
    rw [sumBy_refsOf_eq_zero hno] at this
    omega
  have hdrop : ∀ (b : Bool) i (hi : i < dev.clientProcs.length),
      dev.clientProcs[i].clientId = c →
        { dev with isExcl := b, clientProcs := dev.clientProcs.modify i dropRef }.Tally
          (minus held c) := by
    intro b i hi hfound
    constructor
    · intro d hd
      have := ht.refs d hd
      rw [sumBy_modify _ _ _ _ hi, refsOf_dropRef, hfound, minus]
      simp only [eq_comm]
      omega
    · intro d hd
      have := ht.once d hd
      have := naming_dropRef_le hd dev.clientProcs[i]
      rw [sumBy_modify _ _ _ _ hi]
      omega
  cases h with
  | refused hr =>
      exfalso
      obtain ⟨entry, he, hentry⟩ := hsome
      rcases hr with hr | ⟨hex, hh⟩ | ⟨-, hno⟩
      · simp [hload] at hr
      · rw [hholder] at hh
        cases hl : dev.clientProcs with
        | nil => simp [hl] at hpos
        | cons e es =>
            simp only [hl, List.getElem_cons_zero] at hh
            rw [hl] at he
            rcases List.mem_cons.mp he with rfl | he
            · exact hh hentry
            · have := hs.alone hex entry (by simpa [hl] using he)
              rw [this] at hentry
              exact hc hentry.symm
      · exact hno entry he hentry
  | holder _ hex hh =>
      rw [hholder] at hh
      exact hdrop _ 0 hpos hh
  | entry _ hex i hfind =>
      obtain ⟨hi, hfound⟩ := findIdx?_clientId hfind
      exact hdrop _ i hi hfound

/-! ## Registering and dropping -/

theorem dropRef_addRef {entry : ClientData} (h : entry.ref ≠ 0) :
    dropRef (addRef entry) = entry := by
  simp [dropRef, addRef, h]

theorem modify_modify_self {l : List ClientData} {i : Nat} {f g : ClientData → ClientData}
    (h : ∀ hi : i < l.length, g (f l[i]) = l[i]) : (l.modify i f).modify i g = l := by
  refine List.ext_getElem (by simp) fun j hj hj' => ?_
  rw [List.getElem_modify, List.getElem_modify]
  by_cases hij : i = j
  · subst hij
    rw [if_pos rfl, if_pos rfl, h hj']
  · rw [if_neg hij, if_neg hij]

theorem findIdx?_modify {l : List ClientData} {i : Nat} {f : ClientData → ClientData}
    (hf : ∀ entry, (f entry).clientId = entry.clientId) (c : Nat) :
    (l.modify i f).findIdx? (·.clientId == c) = l.findIdx? (·.clientId == c) := by
  have hmap : ∀ l : List ClientData, l.findIdx? (·.clientId == c) =
      (l.map (·.clientId)).findIdx? (· == c) := by
    intro l
    rw [List.findIdx?_map]
    rfl
  rw [hmap, hmap, map_modify_eq hf]

theorem dropClient_holder (dev : DeviceData) (entry : ClientData) (entries : List ClientData)
    (hload : dev.isLoaded = true) (hc : entry.clientId = c) :
    ({ dev with isExcl := true, clientProcs := entry :: entries } : DeviceData).dropClient c =
      { dev with isExcl := entry.ref - 1 != 0, clientProcs := dropRef entry :: entries } := by
  simp [dropClient, releaseClientOnDev, DeviceData.holder, hload, hc]

theorem dropClient_entry (dev : DeviceData) {procs : List ClientData} {i : Nat}
    (hload : dev.isLoaded = true) (hex : dev.isExcl = false)
    (hfind : procs.findIdx? (·.clientId == c) = some i) :
    ({ dev with clientProcs := procs } : DeviceData).dropClient c =
      { dev with clientProcs := procs.modify i dropRef } := by
  simp [dropClient, releaseClientOnDev, hload, hex, hfind]

/-- A client that is not in the table cannot be dropped. -/
theorem dropClient_not_mem (hs : dev.TableShape) (hnone : ∀ entry ∈ dev.clientProcs,
    entry.clientId ≠ c) : dev.dropClient c = dev := by
  have hpos := hs.pos
  have hholder : dev.holder.clientId ≠ c := by
    rw [holder_eq hpos]
    exact hnone _ (List.getElem_mem hpos)
  have hfind : dev.clientProcs.findIdx? (·.clientId == c) = none := by
    rw [List.findIdx?_eq_none_iff]
    intro entry he
    simpa using hnone entry he
  rw [dropClient, releaseClientOnDev, hfind]
  by_cases hload : dev.isLoaded = true
  · by_cases hex : dev.isExcl = true
    · simp [hload, hex, hholder]
    · simp [hload, hex]
  · simp [hload]

/-- Registering the client makes the device exclusive although others would see it shared. -/
def Upgrades (dev : DeviceData) (prop : CuProperty) : Prop :=
  prop.devExcl = true ∧ dev.isExcl = false ∧
    (∀ entry ∈ dev.clientProcs, entry.clientId = 0 ∨ entry.clientId = prop.clientId) ∧
      ∃ entry ∈ dev.clientProcs, entry.clientId = prop.clientId

theorem foldl_ref_none {entries : List ClientData} (a : Int)
    (h : ∀ entry ∈ entries, entry.clientId ≠ c) :
    entries.foldl (fun ref entry => if entry.clientId = c then entry.ref else ref) a = a := by
  induction entries with
  | nil => rfl
  | cons entry entries ih =>
      rw [List.foldl_cons, if_neg (h entry (by simp))]
      exact ih fun e he => h e (by simp [he])

theorem eq_replicate_zero (hs : dev.TableShape)
    (h : ∀ entry ∈ dev.clientProcs, entry.clientId = 0) :
    dev.clientProcs = List.replicate maxDevClients ClientData.zero :=
  List.eq_replicate_iff.mpr
    ⟨hs.length, fun entry he => (hs.proper entry he).eq_zero (h entry he)⟩

/-- Registering a client and dropping it again changes nothing, unless it upgrades the
client's shared access to an exclusive one. -/
theorem touch_eq (hs : dev.TableShape) (hload : dev.isLoaded = true) (hc : prop.clientId ≠ 0)
    (hreg : dev.allocClientFromDev prop = .ok dev') (hno : ¬dev.Upgrades prop) :
    dev'.dropClient prop.clientId = dev := by
  cases allocClientFromDev_spec hreg with
  | again hex hh =>
      have hpos := hs.pos
      have hholder := holder_eq hpos
      cases hl : dev.clientProcs with
      | nil => simp [hl] at hpos
      | cons entry entries =>
          simp only [hl, List.getElem_cons_zero] at hholder
          rw [hholder] at hh
          have hne : entry.ref ≠ 0 := by
            have := (hs.proper entry (by simp [hl])).ref_pos (by rw [hh]; exact hc)
            omega
          have hdrop := dropClient_holder dev (addRef entry) entries hload hh
          rw [dropRef_addRef hne] at hdrop
          rw [List.modify_zero_cons, hex, hdrop]
          simp only [addRef, add_sub_cancel_right]
          rw [show (entry.ref != 0) = true from by simpa using hne, ← hex, ← hl]
  | exclusive hex hprop halone =>
      have hnone : ∀ entry ∈ dev.clientProcs, entry.clientId ≠ prop.clientId := by
        intro entry he heq
        exact hno ⟨hprop, hex, halone, entry, he, heq⟩
      have hempty := eq_replicate_zero hs fun entry he =>
        (halone entry he).resolve_right (hnone entry he)
      have hback : ClientData.zero :: List.replicate (maxDevClients - 1) ClientData.zero =
          dev.clientProcs := by
        rw [hempty, ← List.replicate_succ]
        rfl
      have hdrop := dropClient_holder dev
        { clientId := prop.clientId, clientProcessId := prop.clientProcessId, ref := 0 + 1 }
        (List.replicate (maxDevClients - 1) ClientData.zero) hload rfl
      rw [foldl_ref_none 0 hnone, hdrop]
      simp only [dropRef, zero_add, sub_self, if_true, hback]
      rw [show ((0 : Int) != 0) = false from rfl, ← hex]
  | found hex hprop i hfind =>
      obtain ⟨hi, hfound⟩ := findIdx?_clientId hfind
      have hne : dev.clientProcs[i].ref ≠ 0 := by
        have := (hs.proper _ (List.getElem_mem hi)).ref_pos (by rw [hfound]; exact hc)
        omega
      have hback : (dev.clientProcs.modify i addRef).modify i dropRef = dev.clientProcs :=
        modify_modify_self fun hi => dropRef_addRef hne
      have hsame : ∀ entry, (addRef entry).clientId = entry.clientId := fun _ => rfl
      rw [← findIdx?_modify hsame] at hfind
      rw [dropClient_entry dev hload hex hfind, hback]
  | opened hex hprop hnew i hfind =>
      obtain ⟨hi, hfree⟩ := findIdx?_clientId hfind
      have hz := (hs.proper _ (List.getElem_mem hi)).eq_zero hfree
      have hfind' : (dev.clientProcs.modify i fun _ =>
          { clientId := prop.clientId, clientProcessId := prop.clientProcessId
            ref := 1 }).findIdx? (·.clientId == prop.clientId) = some i := by
        rw [List.findIdx?_eq_some_iff_getElem]
        refine ⟨by simpa using hi, by simp, fun j hj => ?_⟩
        have hj' : j < dev.clientProcs.length := by omega
        rw [List.getElem_modify, if_neg (by omega)]
        simpa using hnew _ (List.getElem_mem hj')
      have hback : (dev.clientProcs.modify i fun _ =>
          { clientId := prop.clientId, clientProcessId := prop.clientProcessId
            ref := 1 }).modify i dropRef = dev.clientProcs :=
        modify_modify_self fun hi => by simp [dropRef, hz]
      rw [dropClient_entry dev hload hex hfind', hback]

end DeviceData

end Xrm
