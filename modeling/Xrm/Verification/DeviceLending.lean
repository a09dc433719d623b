import Xrm.Verification.Lending

/-! # Devices with channels on loan

A device that a client is registered on and takes a channel of extends the device before, and
the release of the channel undoes both.
-/

namespace Xrm

open FixedTable

namespace DeviceData

variable {D : Discipline} {dev₀ dev dev' dev₁ : DeviceData} {prop : CuProperty} {c : Nat}

/-! ## References -/

/-- What a registration that is not exclusive does to the client table. -/
structure Joined (dev : DeviceData) (c : Nat) (dev' : DeviceData) : Prop where
  isExcl : dev'.isExcl = dev.isExcl
  refs : ∀ d, d ≠ 0 → sumBy (refsOf d) dev'.clientProcs =
    sumBy (refsOf d) dev.clientProcs + if d = c then 1 else 0
  grown : ∀ {entries₀ : List ClientData}, (∀ entry ∈ entries₀, entry.Proper) →
    Grown entries₀ dev.clientProcs → Grown entries₀ dev'.clientProcs

theorem refs_addRef {entries : List ClientData} {i : Nat} (hi : i < entries.length)
    (hfound : entries[i].clientId = c) (d : Nat) : sumBy (refsOf d) (entries.modify i addRef) =
      sumBy (refsOf d) entries + if d = c then 1 else 0 := by
  rw [sumBy_modify _ _ _ _ hi, refsOf, refsOf, addRef]
  simp only [hfound, eq_comm]
  split <;> omega

theorem refs_dropRef {entries : List ClientData} {i : Nat} (hi : i < entries.length)
    (hfound : entries[i].clientId = c) (d : Nat) : sumBy (refsOf d) (entries.modify i dropRef) =
      sumBy (refsOf d) entries - if d = c then 1 else 0 := by
  rw [sumBy_modify _ _ _ _ hi, refsOf_dropRef, hfound]
  simp only [eq_comm]
  split <;> omega

/-- The holder of an exclusive device is found first. -/
theorem findIdx?_holder (hs : dev.TableShape) (hholder : dev.holder.clientId = c) :
    dev.clientProcs.findIdx? (·.clientId == c) = some 0 := by
  have hpos := hs.pos
  rw [List.findIdx?_eq_some_iff_getElem]
  refine ⟨hpos, ?_, by simp⟩
  rw [← holder_eq hpos, hholder, beq_self_eq_true]

theorem Registered.joined (h : Registered dev prop dev') (hs : dev.TableShape)
    (hshared : prop.devExcl = false) : Joined dev prop.clientId dev' := by
  cases h with
  | again hex hholder =>
      have hfind := findIdx?_holder hs hholder
      obtain ⟨hi, hfound⟩ := findIdx?_clientId hfind
      exact ⟨rfl, fun d _ => refs_addRef hi hfound d,
        fun hproper₀ hgrown => hgrown.again hproper₀ hs.proper hfind⟩
  | exclusive hex hprop => simp [hshared] at hprop
  | found hex hprop i hfind =>
      obtain ⟨hi, hfound⟩ := findIdx?_clientId hfind
      exact ⟨rfl, fun d _ => refs_addRef hi hfound d,
        fun hproper₀ hgrown => hgrown.again hproper₀ hs.proper hfind⟩
  | opened hex hprop hnew i hfind =>
      obtain ⟨hi, hfree⟩ := findIdx?_clientId hfind
      have hz := (hs.proper _ (List.getElem_mem hi)).eq_zero hfree
      refine ⟨rfl, fun d hd => ?_, fun hproper₀ hgrown =>
        hgrown.opened hproper₀ hs.proper hnew hfind prop.clientProcessId⟩
      rw [sumBy_modify _ _ _ _ hi, hz, refsOf_zero, refsOf]
      simp only [eq_comm]
      omega

/-- What the drop of a client does to the table. -/
structure Parted (entries₀ : List ClientData) (dev : DeviceData) (c : Nat) (dev' : DeviceData) :
    Prop where
  isExcl : dev'.isExcl = dev.isExcl
  refs : ∀ d, d ≠ 0 → sumBy (refsOf d) dev'.clientProcs =
    sumBy (refsOf d) dev.clientProcs - if d = c then 1 else 0
  grown : Grown entries₀ dev'.clientProcs

/-- A client loses a reference that came later. An exclusive device had its holder before. -/
theorem Dropped.parted {entries₀ : List ClientData} (h : Dropped dev c dev')
    (hs : dev.TableShape) (hgrown : Grown entries₀ dev.clientProcs)
    (hproper₀ : ∀ entry ∈ entries₀, entry.Proper)
    (hholder₀ : dev.isExcl = true → ∀ entry₀, entries₀[0]? = some entry₀ → entry₀.ref ≠ 0)
    (hload : dev.isLoaded = true) (hc : c ≠ 0)
    (hlt : sumBy (refsOf c) entries₀ < sumBy (refsOf c) dev.clientProcs) :
    Parted entries₀ dev c dev' := by
  obtain ⟨i, entry₀, entry, hfind, hentry₀, hentry, hmore, hdropped⟩ :=
    hgrown.dropped hproper₀ hs.proper hc hlt
  obtain ⟨hi, hfound⟩ := findIdx?_clientId hfind
  cases h with
  | refused hr =>
      exfalso
      rcases hr with hr | ⟨hex, hne⟩ | ⟨-, hnone⟩
      · simp [hload] at hr
      · exact hs.not_mem hex hc hne _ (List.getElem_mem hi) hfound
      · exact hnone _ (List.getElem_mem hi) hfound
  | holder _ hex hholder =>
      rw [findIdx?_holder hs hholder, Option.some.injEq] at hfind
      subst hfind
      have hentry' : dev.holder = entry := by
        rw [holder_eq hi]
        rwa [List.getElem?_eq_getElem hi, Option.some.injEq] at hentry
      have hpos := (hproper₀ entry₀ (List.mem_of_getElem? hentry₀)).ref_nonneg
      have hne := hholder₀ hex entry₀ hentry₀
      refine ⟨?_, fun d _ => refs_dropRef hi hfound d, hdropped⟩
      show (dev.holder.ref - 1 != 0) = dev.isExcl
      rw [hentry', hex, bne_iff_ne]
      omega
  | entry _ hex j hfind' =>
      rw [hfind, Option.some.injEq] at hfind'
      subst hfind'
      exact ⟨rfl, fun d _ => refs_dropRef hi hfound d, hdropped⟩

/-! ## Extensions -/

/-- The device is `dev₀` with more of its channels taken. -/
structure Extends (dev₀ dev : DeviceData) : Prop where
  frame : dev =
    { dev₀ with
      clientProcs := dev.clientProcs
      cuList := dev.cuList
      devLoadInfo := dev.devLoadInfo }
  shape : dev.TableShape
  cus : List.Forall₂ CuData.Extends dev₀.cuList dev.cuList
  table : Grown dev₀.clientProcs dev.clientProcs
  refs : ∀ c, c ≠ 0 → sumBy (refsOf c) dev.clientProcs - sumBy (refsOf c) dev₀.clientProcs =
    dev.held c - dev₀.held c
  load : Tracks dev₀ dev (dev.usedLoad - dev₀.usedLoad)
  deviceId : dev.devLoadInfo.deviceId = dev₀.devLoadInfo.deviceId
  idle : dev₀.isLoaded = false → dev = dev₀

theorem Extends.refl (h : dev.Sound D) : dev.Extends dev where
  frame := rfl
  shape := h.shape
  cus := forall₂_refl fun cu hcu => .refl (h.consistent cu hcu)
  table := .refl _
  refs := fun _ _ => by rw [sub_self, sub_self]
  load := (Tracks.refl dev).congr rfl rfl (sub_self _).symm
  deviceId := rfl
  idle := fun _ => rfl

theorem Extends.isLoaded (h : dev₀.Extends dev) : dev.isLoaded = dev₀.isLoaded := by
  rw [h.frame]

theorem Extends.isExcl (h : dev₀.Extends dev) : dev.isExcl = dev₀.isExcl := by
  rw [h.frame]

theorem Extends.consistent (h : dev₀.Extends dev) : ∀ cu ∈ dev.cuList, cu.Consistent := by
  intro cu hcu
  obtain ⟨i, hi⟩ := List.mem_iff_getElem?.mp hcu
  obtain ⟨cu₀, -, hextends⟩ := forall₂_getElem? h.cus hi
  exact hextends.consistent

/-- An extension without another channel is the device itself. -/
theorem Extends.eq (h : dev₀.Extends dev) (hs₀ : dev₀.Sound D)
    (hrated : dev₀.isLoaded = true → dev₀.Rated)
    (hchans : ∀ (i : Nat) (cu₀ cu : CuData), dev₀.cuList[i]? = some cu₀ →
      dev.cuList[i]? = some cu → cu.channels = cu₀.channels) : dev = dev₀ := by
  cases hload : dev₀.isLoaded with
  | false => exact h.idle hload
  | true =>
      have hcus : dev.cuList = dev₀.cuList := by
        refine forall₂_eq h.cus fun i cu₀ cu hcu₀ hcu hextends => ?_
        exact hextends.eq (hs₀.consistent cu₀ (List.mem_of_getElem? hcu₀))
          (hchans i cu₀ cu hcu₀ hcu)
      have hprocs : dev.clientProcs = dev₀.clientProcs := by
        refine h.table.eq hs₀.shape.proper h.shape.proper fun c hc => ?_
        have hrefs := h.refs c hc
        rw [held, held, hcus] at hrefs
        omega
      have hused : dev.usedLoad - dev₀.usedLoad = 0 := by rw [usedLoad, usedLoad, hcus, sub_self]
      have hcurrent := h.load.current
      have hrate := h.load.rate (hrated hload)
      rw [hused, add_zero] at hcurrent
      have hinfo : dev.devLoadInfo = dev₀.devLoadInfo := by
        have hrate₀ := hrated hload
        rw [Rated, loadRate] at hrate₀
        rw [loadRate, numCu, hcus, hcurrent, ← numCu, ← hrate₀] at hrate
        have hid := h.deviceId
        cases hl : dev.devLoadInfo
        cases hl₀ : dev₀.devLoadInfo
        rw [hl, hl₀] at hrate hcurrent hid
        simp_all
      rw [h.frame, hcus, hprocs, hinfo]

/-- The client of a request that is not exclusive takes a channel. -/
theorem Extends.grab {svc cuId chanId : Nat} {idx : Option Nat} {cu cu' : CuData}
    (h : dev₀.Extends dev) (hs₀ : dev₀.TableShape) (hs : prop.Received) (hsvc : svc ≠ 0)
    (hshared : prop.devExcl = false) (hload : dev.isLoaded = true)
    (hreg : dev.allocClientFromDev prop = .ok dev₁) (hcu : dev.cuList[cuId]? = some cu)
    (halloc : cu.Allocated cu' prop svc idx chanId) :
    dev₀.Extends (dev₁.grant prop cuId cu') := by
  have hregistered := allocClientFromDev_spec hreg
  have hjoined := hregistered.joined h.shape hshared
  have hframe₁ := hregistered.frame
  rw [hjoined.isExcl] at hframe₁
  have hcons := h.consistent cu (List.mem_of_getElem? hcu)
  have hcu₁ : dev₁.cuList[cuId]? = some cu := by rw [hframe₁]; exact hcu
  have htracks := tracks_grant hs hcons hcu₁ halloc
  have hid : (dev₁.grant prop cuId cu').devLoadInfo.deviceId = dev₁.devLoadInfo.deviceId := by
    rw [DeviceData.grant]
    split <;> rfl
  obtain ⟨info, hgrant⟩ := dev₁.grant_frame prop cuId cu'
  rw [hgrant] at htracks hid ⊢
  have hset : (dev₁.setCu cuId cu').cuList = dev.cuList.set cuId cu' := by rw [hframe₁]; rfl
  obtain ⟨cu₀, hcu₀, hextends⟩ := forall₂_getElem? h.cus hcu
  refine ⟨?_, ?_, ?_, ?_, ?_, ?_, ?_, ?_⟩
  · show ({ dev₁.setCu cuId cu' with devLoadInfo := info } : DeviceData) =
      { dev₀ with
        clientProcs := dev₁.clientProcs
        cuList := dev₁.cuList.set cuId cu'
        devLoadInfo := info }
    rw [hframe₁, h.frame]
    rfl
  · exact (hregistered.shape h.shape hs.1).congr rfl rfl
  · show List.Forall₂ _ _ (dev₁.setCu cuId cu').cuList
    rw [hset]
    exact forall₂_set h.cus hcu₀ (hextends.take halloc hs hsvc)
  · exact hjoined.grown hs₀.proper h.table
  · intro c hc
    have hheld : (dev.setCu cuId cu').held c = _ := held_allocated hcu halloc hc
    have hheld' : (dev₁.setCu cuId cu').held c = (dev.setCu cuId cu').held c := by
      rw [held, hset]
      rfl
    have hrefs := h.refs c hc
    have hmore := hjoined.refs c hc
    show sumBy (refsOf c) dev₁.clientProcs - _ = (dev₁.setCu cuId cu').held c - _
    rw [hheld', hheld, plus]
    omega
  · have hsame : Tracks dev dev₁ (dev₁.usedLoad - dev.usedLoad) := by
      refine (Tracks.refl dev).congr ?_ ?_ ?_ <;> rw [hframe₁]
      · rfl
      · exact (sub_self _).symm
    exact (h.load.chain hsame).chain htracks
  · rw [hid, hframe₁]
    exact h.deviceId
  · intro hunloaded
    rw [h.isLoaded, hunloaded] at hload
    simp at hload

/-! ## Releases -/

section Release

variable {res : CuResource} {cu₀ cu : CuData} {chanId cuId : Nat} {chan : ChannelData}

/-- A record names no other channel of a CU. -/
theorem names_unique (horder : cu.InOrder) (hchan : cu.channels[chanId]? = some chan)
    (hn : res.names chan = true) {i : Nat} {x : ChannelData} (hx : cu.channels[i]? = some x)
    (hnx : res.names x = true) : i = chanId := by
  have hi := horder.channelId hx
  have hchanId := horder.channelId hchan
  have hid := (CuResource.names_iff.mp hn).2.2.2
  have hidx := (CuResource.names_iff.mp hnx).2.2.2
  omega

/-- The channel that a record names, between the others. -/
theorem names_split (horder : cu.InOrder) (hchan : cu.channels[chanId]? = some chan)
    (hn : res.names chan = true) : ∃ pre post, cu.channels = pre ++ chan :: post ∧
      (∀ x ∈ pre, ¬res.names x = true) ∧ ∀ x ∈ post, ¬res.names x = true := by
  obtain ⟨hi, heq⟩ := List.getElem?_eq_some_iff.mp hchan
  refine ⟨cu.channels.take chanId, cu.channels.drop (chanId + 1), ?_, ?_, ?_⟩
  · rw [← heq, List.getElem_cons_drop, List.take_append_drop]
  · intro x hx hnx
    obtain ⟨j, hj, rfl⟩ := List.mem_take_iff_getElem.mp hx
    have := names_unique horder hchan hn (List.getElem?_eq_getElem (by omega)) hnx
    omega
  · intro x hx hnx
    obtain ⟨j, hj, rfl⟩ := List.mem_drop_iff_getElem.mp hx
    have := names_unique horder hchan hn (List.getElem?_eq_getElem (by omega)) hnx
    omega

theorem dropClient_info_eq (dev : DeviceData) (info : DeviceLoadInfo) (c : Nat) :
    ({ dev with devLoadInfo := info } : DeviceData).dropClient c =
      { dev.dropClient c with devLoadInfo := info } := by
  have hholder₀ : ({ dev with devLoadInfo := info } : DeviceData).holder = dev.holder := rfl
  rw [dropClient, dropClient, releaseClientOnDev, releaseClientOnDev, hholder₀]
  by_cases hload : dev.isLoaded = true
  · by_cases hex : dev.isExcl = true
    · by_cases hholder : dev.holder.clientId = c
      · simp [hload, hex, hholder]
      · simp [hload, hex, hholder]
    · cases hfind : dev.clientProcs.findIdx? (·.clientId == c) with
      | none => simp [hload, hex]
      | some i => simp [hload, hex]
  · simp [hload]

/-- The channel loop of a release that names one channel drops the client once. -/
theorem releaseChannels_one {pre post : List ChannelData} (hn : res.names chan = true)
    (hpre : ∀ x ∈ pre, ¬res.names x = true) (hpost : ∀ x ∈ post, ¬res.names x = true)
    (dev : DeviceData) (cu : CuData) :
    SameButLoad (dev.dropClient res.clientId)
        (releaseChannels res (pre ++ chan :: post) dev cu).dev ∧
      (releaseChannels res (pre ++ chan :: post) dev cu).dev.devLoadInfo.deviceId =
        dev.devLoadInfo.deviceId := by
  induction pre with
  | nil =>
      rw [List.nil_append, releaseChannels, if_pos hn]
      simp only
      rw [(releaseChannels_none hpost _ _).1]
      have hsame := dev.returnLoad_sameButLoad cu res.poolId chan.channelLoadUnified
      have hid : (dev.returnLoad cu res.poolId chan.channelLoadUnified).1.devLoadInfo.deviceId =
          dev.devLoadInfo.deviceId := by
        rw [returnLoad]
        split
        · split
          · split <;> rfl
          · rfl
        · rfl
      rw [SameButLoad] at hsame ⊢
      rw [hsame, dropClient_info_eq]
      exact ⟨rfl, hid⟩
  | cons x pre ih =>
      rw [List.cons_append, releaseChannels, if_neg (hpre x (by simp))]
      exact ih fun y hy => hpre y (by simp [hy])

/-- A client that has taken a channel has more of them than before. -/
theorem Extends.held_lt (h : dev₀.Extends dev) {chan₀ : ChannelData}
    (hcu₀ : dev₀.cuList[cuId]? = some cu₀) (hcu : dev.cuList[cuId]? = some cu)
    (hchan₀ : cu₀.channels[chanId]? = some chan₀) (hchan : cu.channels[chanId]? = some chan)
    (hfree : chan₀.Free) (hclient : chan.clientId = c) (hc : c ≠ 0) :
    dev₀.held c < dev.held c := by
  have hle : ∀ (i : Nat) (cu₀ cu : CuData), dev₀.cuList[i]? = some cu₀ →
      dev.cuList[i]? = some cu → sumBy (heldBy c) cu₀.channels ≤ sumBy (heldBy c) cu.channels := by
    intro i cu₀ cu hcu₀ hcu
    obtain ⟨x, hx, hextends⟩ := forall₂_getElem? h.cus hcu
    rw [hcu₀, Option.some.injEq] at hx
    subst hx
    exact sumBy_le_of_getElem? hextends.channels_length (hextends.heldBy_le hc)
  have htotal : dev₀.held c ≤ dev.held c := sumBy_le_of_getElem? h.cus.length_eq hle
  refine htotal.lt_of_ne fun heq => ?_
  -- with the same sums, the channel would have had its client before
  have hsame := eq_of_sumBy_eq h.cus.length_eq hle heq hcu₀ hcu
  obtain ⟨x, hx, hextends⟩ := forall₂_getElem? h.cus hcu
  rw [hcu₀, Option.some.injEq] at hx
  subst hx
  have hone := eq_of_sumBy_eq hextends.channels_length (hextends.heldBy_le hc) hsame hchan₀ hchan
  rw [heldBy, heldBy, hfree.clientId, if_neg hc.symm, if_pos hclient] at hone
  omega

/-- The release of a channel that was taken. -/
theorem Extends.release (h : dev₀.Extends dev) (hs₀ : dev₀.Sound D)
    (hload : dev.isLoaded = true) {chan₀ : ChannelData}
    (hcu₀ : dev₀.cuList[cuId]? = some cu₀) (hcu : dev.cuList[cuId]? = some cu)
    (hchan₀ : cu₀.channels[chanId]? = some chan₀) (hchan : cu.channels[chanId]? = some chan)
    (hfree : chan₀.Free) (horder : cu.InOrder) (hn : res.names chan = true)
    (hres : res.clientId ≠ 0) :
    (dev.releaseCu cuId cu res).2 = .ok () ∧ dev₀.Extends (dev.releaseCu cuId cu res).1 ∧
      ∃ cu', (dev.releaseCu cuId cu res).1.cuList = dev.cuList.set cuId cu' ∧
        cu'.channels = cu.channels.map res.release := by
  have hcons := h.consistent cu (List.mem_of_getElem? hcu)
  have hcons₀ := hs₀.consistent cu₀ (List.mem_of_getElem? hcu₀)
  have hclient := (CuResource.names_iff.mp hn).2.2.1
  obtain ⟨pre, post, hsplit, hpre, hpost⟩ := names_split horder hchan hn
  obtain ⟨hscan, hid⟩ := releaseChannels_one hn hpre hpost dev cu
  rw [← hsplit] at hscan hid
  have htracks := tracks_release h.shape hcons hcu hres
  obtain ⟨cu', hreleased, heq, hret, -⟩ := dev.releaseCu_spec hcons hres cuId
  -- the device has lost one reference of the client
  have hlt : sumBy (refsOf res.clientId) dev₀.clientProcs <
      sumBy (refsOf res.clientId) dev.clientProcs := by
    have hrefs := h.refs res.clientId hres
    have := h.held_lt hcu₀ hcu hchan₀ hchan hfree hclient hres
    omega
  have hholder₀ : dev.isExcl = true → ∀ entry₀, dev₀.clientProcs[0]? = some entry₀ →
      entry₀.ref ≠ 0 := by
    intro hex entry₀ hentry₀
    rw [h.isExcl] at hex
    have hholder := hs₀.shape.holder hex
    obtain ⟨hpos, rfl⟩ := List.getElem?_eq_some_iff.mp hentry₀
    rw [holder_eq hpos] at hholder
    exact ((hs₀.shape.proper _ (List.getElem_mem hpos)).ref_pos hholder).ne'
  have hparted := (dev.dropClient_spec res.clientId).parted h.shape h.table hs₀.shape.proper
    hholder₀ hload hres hlt
  have hframe := (dev.dropClient_spec res.clientId).frame
  rw [hparted.isExcl] at hframe
  rw [heq] at htracks ⊢
  generalize (releaseChannels res cu.channels dev cu).dev = scan at hscan hid htracks
  have hscan' : scan =
      { dev with clientProcs := scan.clientProcs, devLoadInfo := scan.devLoadInfo } := by
    rw [hscan, hframe]
  have hprocs : scan.clientProcs = (dev.dropClient res.clientId).clientProcs := by rw [hscan]
  have hset : (scan.setCu cuId cu').cuList = dev.cuList.set cuId cu' := by rw [hscan']; rfl
  obtain ⟨x, hx, hextends⟩ := forall₂_getElem? h.cus hcu
  rw [hcu₀, Option.some.injEq] at hx
  subst hx
  refine ⟨?_, ⟨?_, ?_, ?_, ?_, ?_, ?_, ?_, ?_⟩, cu', hset, hreleased.channels⟩
  · rw [hret, if_pos]
    exact List.any_eq_true.mpr ⟨chan, List.mem_of_getElem? hchan, hn⟩
  · show scan.setCu cuId cu' =
      { dev₀ with
        clientProcs := scan.clientProcs
        cuList := scan.cuList.set cuId cu'
        devLoadInfo := scan.devLoadInfo }
    rw [hscan', h.frame]
    rfl
  · refine ((dev.dropClient_spec res.clientId).shape h.shape hres).congr ?_ hprocs
    rw [hparted.isExcl]
    show scan.isExcl = _
    rw [hscan']
  · rw [hset]
    refine forall₂_set h.cus hcu₀ (hextends.release hcons₀ hreleased ?_)
    intro i y y₀ hy hny hy₀
    rw [names_unique horder hchan hn hy hny, hchan₀, Option.some.injEq] at hy₀
    rwa [← hy₀]
  · show Grown _ scan.clientProcs
    rw [hprocs]
    exact hparted.grown
  · intro d hd
    have hheld : (scan.setCu cuId cu').held d = (dev.setCu cuId cu').held d := by
      rw [held, hset]
      rfl
    have hone : sumBy (namedBy res) cu.channels = 1 := by
      have hpre₀ : sumBy (namedBy res) pre = 0 := sumBy_eq_zero fun y hy => if_neg (hpre y hy)
      have hpost₀ : sumBy (namedBy res) post = 0 := sumBy_eq_zero fun y hy => if_neg (hpost y hy)
      rw [hsplit, sumBy_append, sumBy_cons, hpre₀, hpost₀, namedBy, if_pos hn]
      rfl
    have hrefs := h.refs d hd
    have hless := hparted.refs d hd
    show sumBy (refsOf d) scan.clientProcs - _ = (scan.setCu cuId cu').held d - _
    rw [hheld, held_setCu hcu, hreleased.channels, heldBy_release hd, hone, hprocs]
    omega
  · exact h.load.chain htracks
  · rw [show (scan.setCu cuId cu').devLoadInfo = scan.devLoadInfo from rfl, hid]
    exact h.deviceId
  · intro hunloaded
    rw [h.isLoaded, hunloaded] at hload
    simp at hload

end Release

end DeviceData

end Xrm
