import Xrm.Verification.DeviceLoad

/-! # Channels on loan

A CU, a device or a system extends another one when it differs from it by more channels that
are taken. Extensions grow by allocations and shrink by releases, and one without a channel more
is the same CU, device or system, to the order of its tables.
-/

namespace Xrm

open FixedTable

/-! ## CUs -/

namespace CuData

variable {cu₀ cu cu' : CuData}

/-- The CU is `cu₀` with more of its channels taken; the clients that came with them are behind
the others. -/
structure Extends (cu₀ cu : CuData) : Prop where
  consistent : cu.Consistent
  kin : cu₀.Kin cu
  slots : cu.slots = cu₀.slots.map (·.follow cu₀.channels cu.channels)
  channels : ∀ (i : Nat) (chan₀ : ChannelData), cu₀.channels[i]? = some chan₀ →
    chan₀.Free ∨ cu.channels[i]? = some chan₀
  tenants : cu₀.tenants <+: cu.tenants

theorem Extends.refl (h : cu.Consistent) : cu.Extends cu where
  consistent := h
  kin := ⟨rfl, rfl⟩
  slots := by simp only [ReserveData.follow_self, List.map_id']
  channels := fun _ _ h => .inr h
  tenants := List.prefix_refl _

/-- Two CUs that hold the same tables are equal. -/
theorem ext_tables (hinfo : cu.toCuInfo = cu₀.toCuInfo) (hchans : cu.channels = cu₀.channels)
    (hcons₀ : cu₀.Consistent) (hcons : cu.Consistent) (hslots : cu.slots = cu₀.slots)
    (htenants : cu.tenants = cu₀.tenants) : cu = cu₀ := by
  have hnumReserve : cu.numReserve = cu₀.numReserve := by
    rw [← hcons.slots_length, ← hcons₀.slots_length, hslots]
  have hnumClient : cu.numClient = cu₀.numClient := by
    rw [← hcons.clients.numClient_eq, ← hcons₀.clients.numClient_eq, htenants]
  have hreserves : cu.reserves = cu₀.reserves := by
    have hfilled := hcons.slots.filled
    rw [hnumReserve] at hfilled
    refine hfilled.ext hcons₀.slots.filled ?_
    rw [← hnumReserve]
    exact hslots.trans (by rw [slots, hnumReserve])
  have hclients : cu.clients = cu₀.clients := by
    have hfilled := hcons.clients.filled
    rw [hnumClient] at hfilled
    refine hfilled.ext hcons₀.clients.filled ?_
    rw [← hnumClient]
    exact htenants.trans (by rw [tenants, hnumClient])
  have hinUse : cu.numChanInuse = cu₀.numChanInuse := by
    rw [hcons.channels.inUse, hcons₀.channels.inUse, hchans]
  have htotal : cu.totalUsedLoadUnified = cu₀.totalUsedLoadUnified := by
    rw [hcons.ledger.total_eq, hcons₀.ledger.total_eq, hchans, hslots]
  have hreserved : cu.totalReservedLoadUnified = cu₀.totalReservedLoadUnified := by
    rw [hcons.ledger.reserved_eq, hcons₀.ledger.reserved_eq, hslots]
  cases cu
  cases cu₀
  simp_all

theorem Extends.eq (h : cu₀.Extends cu) (hcons₀ : cu₀.Consistent)
    (hchans : cu.channels = cu₀.channels) : cu = cu₀ := by
  refine ext_tables h.kin.toCuInfo hchans hcons₀ h.consistent ?_ ?_
  · rw [h.slots, hchans]
    simp only [ReserveData.follow_self, List.map_id']
  · -- every client of the extension has a channel, so it was there before
    have hsub : cu.tenants ⊆ cu₀.tenants := by
      intro c hc
      rw [show c ∈ cu₀.tenants ↔ _ from hcons₀.clients.mem_iff c, ← hchans]
      exact (h.consistent.clients.mem_iff c).mp hc
    have hle := (List.Nodup.subperm h.consistent.clients.nodup hsub).length_le
    exact (h.tenants.eq_of_length_le hle).symm

theorem Extends.channels_length (h : cu₀.Extends cu) :
    cu₀.channels.length = cu.channels.length := by
  have hlen := congrArg List.length h.kin.channelIds
  simpa using hlen.symm

theorem Extends.heldBy_le (h : cu₀.Extends cu) {c : Nat} (hc : c ≠ 0) (i : Nat)
    (chan₀ chan : ChannelData) (hchan₀ : cu₀.channels[i]? = some chan₀)
    (hchan : cu.channels[i]? = some chan) : heldBy c chan₀ ≤ heldBy c chan := by
  rcases h.channels i chan₀ hchan₀ with hfree | hsame
  · rw [heldBy, hfree.clientId, if_neg hc.symm]
    exact DeviceData.heldBy_nonneg c chan
  · rw [hsame, Option.some.injEq] at hchan
    rw [hchan]

theorem Extends.take {prop : CuProperty} {svc chanId : Nat} {idx : Option Nat}
    (h : cu₀.Extends cu) (halloc : cu.Allocated cu' prop svc idx chanId) (hs : prop.Received)
    (hsvc : svc ≠ 0) : cu₀.Extends cu' := by
  obtain ⟨hi, hfree⟩ := halloc.free
  have hchans : cu'.channels = cu.channels.modify chanId (ChannelData.occupy prop svc) := by
    rw [halloc.eq, assignChannel_channels]
  refine ⟨halloc.consistent h.consistent hs hsvc, ?_, ?_, ?_, ?_⟩
  · exact ⟨halloc.kin.toCuInfo.trans h.kin.toCuInfo,
      halloc.kin.channelIds.trans h.kin.channelIds⟩
  · have hmove := h.consistent.accounts.slots_move (moves_occupy svc hi hfree)
      (h.consistent.books_alloc halloc.pos hs.2 halloc.admits)
        (cu.booked_assignChannel prop svc chanId idx)
    rw [← halloc.eq, ← hchans, h.slots, List.map_map] at hmove
    rw [hmove]
    exact List.map_congr_left fun r _ => ReserveData.follow_follow _ _ _ r
  · intro i chan₀ hchan₀
    rcases h.channels i chan₀ hchan₀ with hfree₀ | hsame
    · exact .inl hfree₀
    · by_cases hic : chanId = i
      · subst hic
        rw [List.getElem?_eq_getElem hi, Option.some.injEq] at hsame
        exact .inl (hsame ▸ hfree)
      · refine .inr ?_
        rw [hchans, List.getElem?_modify, hsame]
        simp [hic]
  · refine h.tenants.trans ?_
    have hle := h.consistent.clients.numClient_le
    have hinUse := h.consistent.channels.inUse
    have hroom := halloc.room
    have hadd := (h.consistent.clients.add_spec (by omega) prop.clientId).2
    have htenants : cu'.tenants = (cu.addClientToCu prop.clientId).tenants := by
      rw [halloc.eq, CuData.tenants, CuData.tenants,
        (assignChannel_clients cu prop svc idx chanId).1,
        (assignChannel_clients cu prop svc idx chanId).2]
    rw [htenants, hadd]
    split
    · exact List.prefix_refl _
    · exact List.prefix_append _ _

theorem Extends.release {res : CuResource} (h : cu₀.Extends cu) (hcons₀ : cu₀.Consistent)
    (hrel : DeviceData.Released res cu cu')
    (hlent : ∀ (i : Nat) (chan chan₀ : ChannelData), cu.channels[i]? = some chan →
      res.names chan = true → cu₀.channels[i]? = some chan₀ → chan₀.Free) :
    cu₀.Extends cu' := by
  have hkept : ∀ (i : Nat) (chan₀ : ChannelData), cu₀.channels[i]? = some chan₀ →
      chan₀.Free ∨ cu'.channels[i]? = some chan₀ := by
    intro i chan₀ hchan₀
    refine or_iff_not_imp_left.mpr fun hfree => ?_
    have hsame := (h.channels i chan₀ hchan₀).resolve_left hfree
    have hnames : ¬res.names chan₀ = true := fun hn => hfree (hlent i _ _ hsame hn hchan₀)
    rw [hrel.channels, List.getElem?_map, hsame, Option.map_some, CuResource.release, if_neg hnames]
  refine ⟨hrel.consistent, ?_, ?_, hkept, ?_⟩
  · exact ⟨hrel.kin.toCuInfo.trans h.kin.toCuInfo, hrel.kin.channelIds.trans h.kin.channelIds⟩
  · rw [hrel.slots, h.slots, List.map_map]
    exact List.map_congr_left fun r _ => ReserveData.follow_follow _ _ _ r
  · rcases hrel.tenants with hsame | herase
    · rw [hsame]
      exact h.tenants
    · -- the client has no channel any more, so it had none before
      have hgone : res.clientId ∉ cu₀.tenants := by
        intro hmem
        obtain ⟨hc, chan₀, hchan₀, hclient⟩ := (hcons₀.clients.mem_iff _).mp hmem
        obtain ⟨i, hi⟩ := List.mem_iff_getElem?.mp hchan₀
        have hsame := (hkept i chan₀ hi).resolve_left fun hfree => hc (hclient ▸ hfree.clientId)
        have hstill : res.clientId ∈ cu'.tenants :=
          (hrel.consistent.clients.mem_iff _).mpr
            ⟨hc, chan₀, List.mem_of_getElem? hsame, hclient⟩
        rw [herase] at hstill
        exact List.Nodup.not_mem_erase h.consistent.clients.nodup hstill
      obtain ⟨rest, hrest⟩ := h.tenants
      rw [herase, ← hrest, List.erase_append_right _ hgone]
      exact List.prefix_append _ _

end CuData

/-! ## Client tables -/

/-- Entry `i` of the table was `entry₀` and has got references; those of a client are added to
its first entry. -/
structure GrownAt (entries : List ClientData) (i : Nat) (entry₀ entry : ClientData) : Prop where
  kept : entry₀ = ClientData.zero ∨
    entry.clientId = entry₀.clientId ∧ entry.clientProcessId = entry₀.clientProcessId
  le : entry₀.ref ≤ entry.ref
  first : entry₀.ref < entry.ref →
    entries.findIdx? (·.clientId == entry.clientId) = some i

/-- A change of an entry of other clients. -/
theorem findIdx?_modify_other {l : List ClientData} {i d : Nat} {f : ClientData → ClientData}
    (h : ∀ hi : i < l.length, l[i].clientId ≠ d ∧ (f l[i]).clientId ≠ d) :
    (l.modify i f).findIdx? (·.clientId == d) = l.findIdx? (·.clientId == d) := by
  induction l generalizing i with
  | nil => simp
  | cons entry entries ih =>
      cases i with
      | zero =>
          obtain ⟨hbefore, hafter⟩ := h (by simp)
          rw [List.getElem_cons_zero] at hbefore hafter
          simp [List.findIdx?_cons, hbefore, hafter]
      | succ i =>
          have hrest := ih fun hi => h (Nat.succ_lt_succ hi)
          rw [List.modify_succ_cons, List.findIdx?_cons, List.findIdx?_cons, hrest]

/-- The table is `entries₀` with more references. -/
structure Grown (entries₀ entries : List ClientData) : Prop where
  length : entries₀.length = entries.length
  entry : ∀ (i : Nat) (entry₀ entry : ClientData), entries₀[i]? = some entry₀ →
    entries[i]? = some entry → GrownAt entries i entry₀ entry

namespace Grown

open DeviceData

variable {entries₀ entries : List ClientData} {c i : Nat}

theorem refl (entries : List ClientData) : Grown entries entries := by
  refine ⟨rfl, fun i entry₀ entry hentry₀ hentry => ?_⟩
  rw [hentry₀, Option.some.injEq] at hentry
  subst hentry
  exact ⟨.inr ⟨rfl, rfl⟩, le_refl _, fun h => absurd h (lt_irrefl _)⟩

theorem refsOf_le (h : Grown entries₀ entries) (hproper : ∀ entry ∈ entries, entry.Proper)
    (c i : Nat) (entry₀ entry : ClientData) (hentry₀ : entries₀[i]? = some entry₀)
    (hentry : entries[i]? = some entry) : refsOf c entry₀ ≤ refsOf c entry := by
  obtain ⟨hkept, hle, -⟩ := h.entry i entry₀ entry hentry₀ hentry
  rcases hkept with hzero | ⟨hid, -⟩
  · rw [hzero, refsOf_zero]
    exact refsOf_nonneg (hproper entry (List.mem_of_getElem? hentry)) c
  · rw [refsOf, refsOf, hid]
    split
    · exact hle
    · exact le_refl 0

theorem eq (h : Grown entries₀ entries) (hproper₀ : ∀ entry ∈ entries₀, entry.Proper)
    (hproper : ∀ entry ∈ entries, entry.Proper)
    (hrefs : ∀ c, c ≠ 0 → sumBy (refsOf c) entries₀ = sumBy (refsOf c) entries) :
    entries = entries₀ := by
  refine List.ext_getElem? fun i => ?_
  cases hentry : entries[i]? with
  | none =>
      rw [List.getElem?_eq_none_iff, ← h.length] at hentry
      exact (List.getElem?_eq_none_iff.mpr hentry).symm
  | some entry =>
      have hi : i < entries₀.length := by
        rw [h.length]
        exact (List.getElem?_eq_some_iff.mp hentry).1
      have hentry₀ := List.getElem?_eq_getElem hi
      generalize entries₀[i] = entry₀ at hentry₀
      have hproper₀ := hproper₀ entry₀ (List.mem_of_getElem? hentry₀)
      have hproper' := hproper entry (List.mem_of_getElem? hentry)
      obtain ⟨hkept, -, -⟩ := h.entry i entry₀ entry hentry₀ hentry
      rw [hentry₀, Option.some.injEq]
      by_cases hc : entry.clientId = 0
      · rw [hproper'.eq_zero hc]
        rcases hkept with hzero | ⟨hid, -⟩
        · exact hzero.symm
        · exact (hproper₀.eq_zero (hid.symm.trans hc)).symm
      · have heq := eq_of_sumBy_eq h.length (h.refsOf_le hproper _) (hrefs _ hc) hentry₀ hentry
        have hpos := hproper'.ref_pos hc
        rw [refsOf, refsOf, if_pos rfl] at heq
        split at heq
        · rename_i hid
          have hpid : entry.clientProcessId = entry₀.clientProcessId := by
            rcases hkept with hzero | ⟨-, hpid⟩
            · exact absurd (hid.symm.trans (congrArg _ hzero)) hc
            · exact hpid
          cases entry
          cases entry₀
          simp_all
        · omega

/-- A client with more references than before has them in its first entry. -/
theorem surplus (h : Grown entries₀ entries) (hproper₀ : ∀ entry ∈ entries₀, entry.Proper)
    (hlt : sumBy (refsOf c) entries₀ < sumBy (refsOf c) entries) :
    ∃ (i : Nat) (entry₀ entry : ClientData), entries₀[i]? = some entry₀ ∧
      entries[i]? = some entry ∧ entry₀.ref < entry.ref ∧ entry.clientId = c := by
  by_contra hno
  push Not at hno
  have hle : sumBy (refsOf c) entries ≤ sumBy (refsOf c) entries₀ := by
    refine sumBy_le_of_getElem? h.length.symm fun i entry entry₀ hentry hentry₀ => ?_
    obtain ⟨hkept, -, -⟩ := h.entry i entry₀ entry hentry₀ hentry
    by_cases hid : entry.clientId = c
    · have hge : ¬entry₀.ref < entry.ref := fun hlt => hno i entry₀ entry hentry₀ hentry hlt hid
      rw [refsOf, if_pos hid]
      rcases hkept with hzero | ⟨hid₀, -⟩
      · rw [hzero] at hge ⊢
        rw [refsOf_zero]
        exact not_lt.mp hge
      · rw [refsOf, if_pos (hid₀.symm.trans hid)]
        exact not_lt.mp hge
    · rw [refsOf, if_neg hid]
      exact refsOf_nonneg (hproper₀ entry₀ (List.mem_of_getElem? hentry₀)) c
  omega

/-- A change of entry `i` that leaves the first entries of the other clients where they are. -/
theorem modify (h : Grown entries₀ entries) (hproper₀ : ∀ entry ∈ entries₀, entry.Proper)
    (hproper : ∀ entry ∈ entries, entry.Proper) {f : ClientData → ClientData}
    (hi : ∀ entry₀ entry, entries₀[i]? = some entry₀ → entries[i]? = some entry →
      GrownAt (entries.modify i f) i entry₀ (f entry))
    (hfirst : ∀ (j d : Nat), j ≠ i → d ≠ 0 → entries.findIdx? (·.clientId == d) = some j →
      (entries.modify i f).findIdx? (·.clientId == d) = some j) :
    Grown entries₀ (entries.modify i f) := by
  refine ⟨by rw [List.length_modify, h.length], fun j entry₀ entry hentry₀ hentry => ?_⟩
  rw [List.getElem?_modify, Option.map_eq_map, Option.map_eq_some_iff] at hentry
  obtain ⟨entry', hentry', rfl⟩ := hentry
  by_cases hij : i = j
  · subst hij
    rw [if_pos rfl]
    exact hi entry₀ entry' hentry₀ hentry'
  · rw [if_neg hij]
    obtain ⟨hkept, hle, hfirst'⟩ := h.entry j entry₀ entry' hentry₀ hentry'
    refine ⟨hkept, hle, fun hlt => hfirst j _ (Ne.symm hij) (fun hc => ?_) (hfirst' hlt)⟩
    have hnonneg := (hproper₀ entry₀ (List.mem_of_getElem? hentry₀)).ref_nonneg
    rw [(hproper entry' (List.mem_of_getElem? hentry')).eq_zero hc] at hlt
    exact absurd hlt (not_lt.mpr hnonneg)

theorem again (h : Grown entries₀ entries) (hproper₀ : ∀ entry ∈ entries₀, entry.Proper)
    (hproper : ∀ entry ∈ entries, entry.Proper)
    (hfind : entries.findIdx? (·.clientId == c) = some i) :
    Grown entries₀ (entries.modify i addRef) := by
  have hsame : ∀ entry, (addRef entry).clientId = entry.clientId := fun _ => rfl
  obtain ⟨hi, hfound⟩ := findIdx?_clientId hfind
  refine h.modify hproper₀ hproper (fun entry₀ entry hentry₀ hentry => ?_) fun j d _ _ hd => ?_
  · obtain ⟨hkept, hle, -⟩ := h.entry i entry₀ entry hentry₀ hentry
    rw [List.getElem?_eq_getElem hi, Option.some.injEq] at hentry
    refine ⟨hkept, by simp only [addRef]; omega, fun _ => ?_⟩
    rw [findIdx?_modify hsame, hsame, ← hentry, hfound, hfind]
  · rw [findIdx?_modify hsame, hd]

theorem opened (h : Grown entries₀ entries) (hproper₀ : ∀ entry ∈ entries₀, entry.Proper)
    (hproper : ∀ entry ∈ entries, entry.Proper)
    (hnew : ∀ entry ∈ entries, entry.clientId ≠ c)
    (hfind : entries.findIdx? (·.clientId == 0) = some i) (pid : Int) :
    Grown entries₀ (entries.modify i fun _ =>
      { clientId := c, clientProcessId := pid, ref := 1 }) := by
  obtain ⟨hi, hfree⟩ := findIdx?_clientId hfind
  have hz := (hproper _ (List.getElem_mem hi)).eq_zero hfree
  refine h.modify hproper₀ hproper (fun entry₀ entry hentry₀ hentry => ?_)
    fun j d hj hd hfirst => ?_
  · obtain ⟨hkept, -, -⟩ := h.entry i entry₀ entry hentry₀ hentry
    rw [List.getElem?_eq_getElem hi, Option.some.injEq] at hentry
    have hzero : entry₀ = ClientData.zero := by
      rcases hkept with hzero | ⟨hid, -⟩
      · exact hzero
      · exact (hproper₀ entry₀ (List.mem_of_getElem? hentry₀)).eq_zero
          (by rw [← hid, ← hentry, hfree])
    refine ⟨.inl hzero, by rw [hzero]; exact Int.one_nonneg, fun _ => ?_⟩
    rw [List.findIdx?_eq_some_iff_getElem]
    refine ⟨by simpa using hi, by simp, fun k hk => ?_⟩
    have hk' : k < entries.length := by omega
    rw [List.getElem_modify, if_neg (by omega)]
    simpa using hnew _ (List.getElem_mem hk')
  · have hdc : d ≠ c := by
      obtain ⟨hjlt, hjd⟩ := findIdx?_clientId hfirst
      rw [← hjd]
      exact hnew _ (List.getElem_mem hjlt)
    rw [findIdx?_modify_other fun _ => ⟨by rw [hz]; exact hd.symm, hdc.symm⟩, hfirst]

theorem dropped (h : Grown entries₀ entries) (hproper₀ : ∀ entry ∈ entries₀, entry.Proper)
    (hproper : ∀ entry ∈ entries, entry.Proper) (hc : c ≠ 0)
    (hlt : sumBy (refsOf c) entries₀ < sumBy (refsOf c) entries) :
    ∃ i entry₀ entry, entries.findIdx? (·.clientId == c) = some i ∧
      entries₀[i]? = some entry₀ ∧ entries[i]? = some entry ∧ entry₀.ref < entry.ref ∧
        Grown entries₀ (entries.modify i dropRef) := by
  obtain ⟨i, entry₀, entry, hentry₀, hentry, hmore, hid⟩ := h.surplus hproper₀ hlt
  obtain ⟨hkept, -, hfirst⟩ := h.entry i entry₀ entry hentry₀ hentry
  have hfind := hfirst hmore
  rw [hid] at hfind
  have hnonneg := (hproper₀ entry₀ (List.mem_of_getElem? hentry₀)).ref_nonneg
  refine ⟨i, entry₀, entry, hfind, hentry₀, hentry, hmore, ?_⟩
  have hlater : (dropRef entry).clientId = 0 ∨ (dropRef entry).clientId = c := by
    rw [dropRef]
    split
    · exact .inl rfl
    · exact .inr hid
  refine h.modify hproper₀ hproper (fun entry₀' entry' hentry₀' hentry' => ?_)
    fun j d hj hd hfirst => ?_
  · rw [hentry₀, Option.some.injEq] at hentry₀'
    rw [hentry, Option.some.injEq] at hentry'
    subst hentry₀' hentry'
    rw [dropRef]
    by_cases hlast : entry.ref - 1 = 0
    · -- the entry is emptied, so it was free before
      have hzero : entry₀ = ClientData.zero := by
        by_contra hne
        have := (hproper₀ entry₀ (List.mem_of_getElem? hentry₀)).resolve_left hne
        omega
      rw [if_pos hlast, hzero]
      exact ⟨.inl rfl, le_refl _, fun h => absurd h (lt_irrefl _)⟩
    · rw [if_neg hlast]
      refine ⟨hkept, by simp only; omega, fun _ => ?_⟩
      show (entries.modify i dropRef).findIdx? (·.clientId == entry.clientId) = some i
      obtain ⟨hi, hfound⟩ := List.getElem?_eq_some_iff.mp hentry
      rw [hid]
      rw [List.findIdx?_eq_some_iff_getElem] at hfind ⊢
      obtain ⟨_, -, hbefore⟩ := hfind
      refine ⟨by simpa using hi, ?_, fun k hk => ?_⟩
      · rw [List.getElem_modify, if_pos rfl, hfound, dropRef, if_neg hlast]
        simpa using hid
      · rw [List.getElem_modify, if_neg (by omega)]
        exact hbefore k hk
  · have hdc : d ≠ c := by
      rintro rfl
      rw [hfind, Option.some.injEq] at hfirst
      exact hj hfirst.symm
    refine (findIdx?_modify_other fun hi => ?_).trans hfirst
    rw [List.getElem?_eq_getElem hi, Option.some.injEq] at hentry
    rw [hentry, hid]
    refine ⟨hdc.symm, ?_⟩
    rcases hlater with hzero | hsame
    · rw [hzero]
      exact hd.symm
    · rw [hsame]
      exact hdc.symm

end Grown

end Xrm
