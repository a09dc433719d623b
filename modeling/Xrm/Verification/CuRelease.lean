import Xrm.Verification.CuSteps

/-! # Releasing the channels of a compute unit

The channel loops return one channel after the other; the invariant of both is that the
accounts are in order for the channels passed so far, cleared, followed by the others as they
are.
-/

namespace Xrm

open FixedTable

/-! ## Returning the load of one channel -/

namespace CuData

/-- The fields that a change of the accounts leaves alone. -/
structure SameUsers (cu cu' : CuData) : Prop where
  toCuInfo : cu'.toCuInfo = cu.toCuInfo
  channels : cu'.channels = cu.channels
  clients : cu'.clients = cu.clients
  numClient : cu'.numClient = cu.numClient

theorem SameUsers.refl (cu : CuData) : SameUsers cu cu := ⟨rfl, rfl, rfl, rfl⟩

theorem SameUsers.kin {cu cu' : CuData} (h : SameUsers cu cu') : cu.Kin cu' :=
  ⟨h.toCuInfo, by rw [h.channels]⟩

theorem SameUsers.trans {cu₁ cu₂ cu₃ : CuData} (h : SameUsers cu₁ cu₂) (h' : SameUsers cu₂ cu₃) :
    SameUsers cu₁ cu₃ :=
  ⟨h'.toCuInfo.trans h.toCuInfo, h'.channels.trans h.channels, h'.clients.trans h.clients,
    h'.numClient.trans h.numClient⟩

variable {cu cu' : CuData} {chan : ChannelData} {chans pre post : List ChannelData} {p : Nat}

theorem activeSlot_eq (h : SlotTable cu.reserves cu.numReserve) (hp : p ≠ 0) :
    DeviceData.activeSlot cu p = cu.isReservePoolUsingCu p := by
  rw [DeviceData.activeSlot, isReservePoolUsingCu, if_neg (by omega)]
  have heq : ∀ r ∈ cu.reserves.take cu.numReserve,
      (r.clientIsActive && r.reservePoolId == p) = (r.reservePoolId == p) := by
    intro r hr
    rw [(h.active r hr).active, Bool.true_and]
  generalize cu.reserves.take cu.numReserve = slots at heq
  induction slots with
  | nil => rfl
  | cons r rs ih =>
      simp only [List.findIdx?_cons, heq r (by simp), ih fun r hr => heq r (by simp [hr])]

theorem isReservePoolUsingCu_zero : cu.isReservePoolUsingCu 0 = none := rfl

/-- The accounts have room for a channel's load to come back. -/
theorem Accounts.books_return (h : cu.Accounts chans) (hc : chan ∈ chans) :
    cu.Books chan.poolId (-chan.channelLoadUnified) (cu.isReservePoolUsingCu chan.poolId) := by
  have hload := h.ledger.load_le h.channels.proper hc
  have hload0 := (h.channels.proper chan hc).load_nonneg
  rw [maxChanLoad] at hload
  constructor
  · intro hnone
    have h0 := h.ledger.total_nonneg h.channels.proper
    have h1 := h.ledger.total_le
    rw [maxChanLoad] at h1
    refine ⟨?_, i32_eq (by omega) (by omega), by rw [maxChanLoad]; omega⟩
    intro r hr
    by_cases hp : chan.poolId = 0
    · rw [hp]
      exact (h.slots.active r hr).poolId
    · exact (isReservePoolUsingCu_eq_none hp).mp hnone r hr
  · intro i hsome
    obtain ⟨-, hi, hpool⟩ := isReservePoolUsingCu_eq_some hsome
    have hmem := List.getElem_mem hi
    have h0 := h.ledger.used_ge h.channels.proper hmem (h.slots.active _ hmem)
    have h1 := h.ledger.used_le h.channels.proper hmem
    have h2 := h.ledger.used_le_load _ hmem
    rw [maxChanLoad] at h0 h1
    exact ⟨hi, hpool, i32_eq (by omega) (by omega), by omega⟩

/-- A channel that is returned keeps the accounts. -/
theorem Accounts.returned (h : cu.Accounts (pre ++ chan :: post)) (hc : chan.clientId ≠ 0)
    (hbooked : Booked cu cu' (-chan.channelLoadUnified) (cu.isReservePoolUsingCu chan.poolId))
    (hn : cu'.numChanInuse = cu.numChanInuse - 1) :
    cu'.Accounts (pre ++ chan.clear :: post) ∧
      cu'.slots = cu.slots.map
        (·.follow (pre ++ chan :: post) (pre ++ chan.clear :: post)) := by
  have hmem : chan ∈ pre ++ chan :: post := by simp
  have hbooks := h.books_return hmem
  have hchan := h.channels.clear hc
  rw [← hn] at hchan
  exact ⟨h.move moves_clear hbooks hbooked hchan, h.slots_move moves_clear hbooks hbooked⟩

/-- The effect of a channel loop: `chans` have become `chans'`, and the accounts and the slots
have followed. -/
structure Cleared (cu cu' : CuData) (chans chans' : List ChannelData) : Prop where
  accounts : cu'.Accounts chans'
  slots : cu'.slots = cu.slots.map (·.follow chans chans')
  users : SameUsers cu cu'

theorem Cleared.refl (h : cu.Accounts chans) : Cleared cu cu chans chans := by
  refine ⟨h, ?_, SameUsers.refl cu⟩
  simp only [ReserveData.follow_self, List.map_id']

theorem Cleared.trans {cu₁ cu₂ cu₃ : CuData} {chans₁ chans₂ chans₃ : List ChannelData}
    (h : Cleared cu₁ cu₂ chans₁ chans₂) (h' : Cleared cu₂ cu₃ chans₂ chans₃) :
    Cleared cu₁ cu₃ chans₁ chans₃ := by
  refine ⟨h'.accounts, ?_, h.users.trans h'.users⟩
  rw [h'.slots, h.slots, List.map_map]
  exact List.map_congr_left fun r _ => ReserveData.follow_follow _ _ _ r

/-- One round of a channel loop that releases the channel. -/
theorem Accounts.cleared (h : cu.Accounts (pre ++ chan :: post)) (hc : chan.clientId ≠ 0)
    (hbooked : Booked cu cu' (-chan.channelLoadUnified) (cu.isReservePoolUsingCu chan.poolId))
    (husers : SameUsers cu cu') (hn : cu'.numChanInuse = cu.numChanInuse) :
    Cleared cu { cu' with numChanInuse := cu'.numChanInuse - 1 } (pre ++ chan :: post)
      (pre ++ chan.clear :: post) := by
  have hbooked' : Booked cu { cu' with numChanInuse := cu'.numChanInuse - 1 }
      (-chan.channelLoadUnified) (cu.isReservePoolUsingCu chan.poolId) :=
    ⟨hbooked.numReserve, hbooked.totalReserved, hbooked.default, hbooked.drawn⟩
  obtain ⟨haccounts, hslots⟩ := h.returned hc hbooked' (by rw [← hn])
  exact ⟨haccounts, hslots,
    ⟨husers.toCuInfo, husers.channels, husers.clients, husers.numClient⟩⟩

end CuData

/-! ## The device during a loop -/

namespace DeviceData

/-- Everything but the load record is the same. -/
def SameButLoad (dev dev' : DeviceData) : Prop :=
  dev' = { dev with devLoadInfo := dev'.devLoadInfo }

theorem SameButLoad.refl (dev : DeviceData) : SameButLoad dev dev := rfl

theorem SameButLoad.trans {dev₁ dev₂ dev₃ : DeviceData} (h : SameButLoad dev₁ dev₂)
    (h' : SameButLoad dev₂ dev₃) : SameButLoad dev₁ dev₃ := by
  rw [SameButLoad, h', h]

theorem sameButLoad_updateDeviceLoad (dev : DeviceData) (change set : Int) :
    SameButLoad dev (dev.updateDeviceLoad change set) := rfl

/-- The load rate that goes with the current load of the device. -/
def loadRate (dev : DeviceData) : Int :=
  i32 ((dev.devLoadInfo.devCurrentLoad * 1000).tdiv (dev.numCu * maxChanLoad))

/-- The load record of the device has taken part in a change of the load in use. -/
structure Tracks (dev dev' : DeviceData) (change : Int) : Prop where
  current : dev'.devLoadInfo.devCurrentLoad = dev.devLoadInfo.devCurrentLoad + change
  rate : dev.devLoadInfo.devLoadRate = dev.loadRate → dev'.devLoadInfo.devLoadRate = dev'.loadRate

theorem Tracks.refl (dev : DeviceData) : Tracks dev dev 0 := ⟨(add_zero _).symm, id⟩

theorem Tracks.trans {dev₁ dev₂ dev₃ : DeviceData} {a b : Int} (h : Tracks dev₁ dev₂ a)
    (h' : Tracks dev₂ dev₃ b) : Tracks dev₁ dev₃ (a + b) :=
  ⟨by rw [h'.current, h.current, add_assoc], h'.rate ∘ h.rate⟩

theorem Tracks.chain {dev₁ dev₂ dev₃ : DeviceData} {a b c : Int} (h : Tracks dev₁ dev₂ (b - a))
    (h' : Tracks dev₂ dev₃ (c - b)) : Tracks dev₁ dev₃ (c - a) := by
  have heq : b - a + (c - b) = c - a := by omega
  exact heq ▸ h.trans h'

/-- The load record and the number of CUs are all that counts. -/
theorem Tracks.congr {dev₁ dev₂ dev₃ : DeviceData} {a b : Int} (h : Tracks dev₁ dev₂ a)
    (hinfo : dev₃.devLoadInfo = dev₂.devLoadInfo) (hnum : dev₃.numCu = dev₂.numCu) (hab : a = b) :
    Tracks dev₁ dev₃ b := by
  have hrate : dev₃.loadRate = dev₂.loadRate := by rw [loadRate, loadRate, hinfo, hnum]
  exact ⟨by rw [hinfo, h.current, hab], by rw [hinfo, hrate]; exact h.rate⟩

theorem tracks_updateDeviceLoad (dev : DeviceData) (change : Int) :
    Tracks dev (dev.updateDeviceLoad change (-1)) change := ⟨rfl, fun _ => rfl⟩

theorem dropClient_info (dev : DeviceData) (c : Nat) :
    (dev.dropClient c).devLoadInfo = dev.devLoadInfo ∧ (dev.dropClient c).numCu = dev.numCu := by
  rw [dropClient]
  split
  · rename_i dev' hdev'
    rw [releaseClientOnDev] at hdev'
    split at hdev'
    · simp at hdev'
    split at hdev'
    · split at hdev'
      · simp at hdev'
      · obtain rfl := Except.ok.inj hdev'
        exact ⟨rfl, rfl⟩
    · split at hdev'
      · obtain rfl := Except.ok.inj hdev'
        exact ⟨rfl, rfl⟩
      · simp at hdev'
  · exact ⟨rfl, rfl⟩

/-- What returning the load of a channel does, to slot `idx` or to the default pool. -/
structure Returned (dev dev' : DeviceData) (cu cu' : CuData) (load : Int) (idx : Option Nat) :
    Prop where
  frame : SameButLoad dev dev'
  users : CuData.SameUsers cu cu'
  numChanInuse : cu'.numChanInuse = cu.numChanInuse
  booked : CuData.Booked cu cu' (-load) idx
  default : idx = none → Tracks dev dev' (-load)
  drawn : ∀ i, idx = some i → dev' = dev

/-- The device follows the load in use on the CU. -/
theorem Returned.tracks {dev dev' : DeviceData} {cu cu' : CuData} {load : Int} {idx : Option Nat}
    {p : Nat} (h : Returned dev dev' cu cu' load idx) (hbooks : cu.Books p (-load) idx) :
    Tracks dev dev' (cu'.totalUsedLoadUnified - cu.totalUsedLoadUnified) := by
  cases idx with
  | none =>
      obtain ⟨-, hfit, -⟩ := hbooks.default rfl
      obtain ⟨-, htotal⟩ := h.booked.default rfl
      exact (h.default rfl).congr rfl rfl (by rw [htotal, hfit]; omega)
  | some i =>
      obtain ⟨-, htotal⟩ := h.booked.drawn i rfl
      rw [h.drawn i rfl, htotal, sub_self]
      exact .refl dev

variable (dev : DeviceData) (cu : CuData) (load : Int)

theorem returnToDefaultPool_spec : Returned dev (dev.returnToDefaultPool cu load).1 cu
    (dev.returnToDefaultPool cu load).2 load none where
  frame := rfl
  users := ⟨rfl, rfl, rfl, rfl⟩
  numChanInuse := rfl
  booked := ⟨rfl, rfl, fun _ => ⟨rfl, by rw [← sub_eq_add_neg]; rfl⟩, by simp⟩
  default := fun _ => dev.tracks_updateDeviceLoad (-load)
  drawn := by simp

theorem returnToSlot_spec (i : Nat) : Returned dev (dev.returnToSlot cu i load).1 cu
    (dev.returnToSlot cu i load).2 load (some i) where
  frame := rfl
  users := ⟨rfl, rfl, rfl, rfl⟩
  numChanInuse := rfl
  booked := by
    refine ⟨rfl, rfl, by simp, fun j hj => ?_⟩
    rw [Option.some.injEq] at hj
    subst hj
    refine ⟨?_, rfl⟩
    simp only [returnToSlot, CuData.modifySlot, sub_eq_add_neg]
    rfl
  default := by simp
  drawn := fun _ _ => rfl

/-- Where and how a release returns a load. -/
theorem returnLoad_spec {cu : CuData} (h : SlotTable cu.reserves cu.numReserve) (p : Nat) :
    Returned dev (dev.returnLoad cu p load).1 cu (dev.returnLoad cu p load).2 load
      (cu.isReservePoolUsingCu p) := by
  rw [returnLoad]
  by_cases hp : p = 0
  · rw [if_neg (by simpa using hp), hp, CuData.isReservePoolUsingCu_zero]
    exact dev.returnToDefaultPool_spec cu load
  · rw [if_pos hp]
    cases hfind : cu.isReservePoolUsingCu p with
    | none => exact dev.returnToDefaultPool_spec cu load
    | some i =>
        obtain ⟨-, hi, -⟩ := CuData.isReservePoolUsingCu_eq_some hfind
        have hle := h.filled.le
        have hlen := h.filled.length
        have hactive : (cu.slot i).clientIsActive = true := by
          rw [CuData.slot_eq (by omega) hi]
          exact (h.active _ (List.getElem_mem hi)).active
        simp only [hactive, if_true]
        exact dev.returnToSlot_spec cu load i

end DeviceData

/-! ## The channel loops -/

/-- The channel after a release of the record. -/
def CuResource.release (res : CuResource) (chan : ChannelData) : ChannelData :=
  if res.names chan then chan.clear else chan

/-- The channel after the client has been recycled. -/
def ChannelData.leave (c : Nat) (chan : ChannelData) : ChannelData :=
  if chan.clientId = c then chan.clear else chan

theorem CuResource.names_iff {res : CuResource} {chan : ChannelData} :
    res.names chan = true ↔ chan.allocServiceId = res.allocServiceId ∧
      chan.poolId = res.poolId ∧ chan.clientId = res.clientId ∧
        (chan.channelId : Int) = res.channelId := by
  simp [names, and_assoc]

namespace DeviceData

/-- The channel loop of `resReleaseCu` clears the channels that the record names. -/
theorem releaseChannels_cleared {res : CuResource} (hres : res.clientId ≠ 0)
    (chans : List ChannelData) (dev : DeviceData) {cu : CuData} {pre : List ChannelData}
    (h : cu.Accounts (pre ++ chans)) :
    (releaseChannels res chans dev cu).channels = chans.map res.release ∧
      CuData.Cleared cu (releaseChannels res chans dev cu).cu (pre ++ chans)
        (pre ++ chans.map res.release) ∧
      Tracks dev (releaseChannels res chans dev cu).dev
        ((releaseChannels res chans dev cu).cu.totalUsedLoadUnified -
          cu.totalUsedLoadUnified) := by
  induction chans generalizing dev cu pre with
  | nil => exact ⟨rfl, CuData.Cleared.refl h, (Tracks.refl dev).congr rfl rfl (sub_self _).symm⟩
  | cons chan chans ih =>
      rw [releaseChannels]
      by_cases hn : res.names chan = true
      · obtain ⟨-, hpool, hclient, -⟩ := CuResource.names_iff.mp hn
        have hreturned := dev.returnLoad_spec chan.channelLoadUnified h.slots chan.poolId
        have hstep := h.cleared (by rw [hclient]; exact hres) hreturned.booked hreturned.users
          hreturned.numChanInuse
        have htracks := hreturned.tracks (h.books_return (by simp))
        have hrest := hstep.accounts
        rw [List.append_cons] at hrest
        rw [hpool] at hrest
        have hih := ih ((dev.returnLoad cu res.poolId chan.channelLoadUnified).1.dropClient
          res.clientId) hrest
        have hrel : res.release chan = chan.clear := by rw [CuResource.release, if_pos hn]
        rw [← List.append_cons, ← List.append_cons] at hih
        simp only [hn, if_true, List.map_cons, hrel]
        rw [hpool] at hstep htracks
        obtain ⟨hinfo, hcus⟩ := (dev.returnLoad cu res.poolId
          chan.channelLoadUnified).1.dropClient_info res.clientId
        exact ⟨by rw [hih.1], hstep.trans hih.2.1,
          (htracks.congr hinfo hcus rfl).chain hih.2.2⟩
      · have hrel : res.release chan = chan := by rw [CuResource.release, if_neg hn]
        rw [List.append_cons] at h
        have hih := ih dev h
        rw [← List.append_cons, ← List.append_cons] at hih
        simp only [if_neg hn, List.map_cons, hrel]
        exact ⟨by rw [hih.1], hih.2.1, hih.2.2⟩

/-- The channel loop of a recycled client clears its channels. -/
theorem releaseClientChannels_cleared {c : Nat} (hc : c ≠ 0) (chans : List ChannelData)
    (dev : DeviceData) {cu : CuData} {pre : List ChannelData} (h : cu.Accounts (pre ++ chans)) :
    SameButLoad dev (releaseClientChannels c chans dev cu).1 ∧
      (releaseClientChannels c chans dev cu).2.2 = chans.map (·.leave c) ∧
      CuData.Cleared cu (releaseClientChannels c chans dev cu).2.1 (pre ++ chans)
        (pre ++ chans.map (·.leave c)) ∧
      Tracks dev (releaseClientChannels c chans dev cu).1
        ((releaseClientChannels c chans dev cu).2.1.totalUsedLoadUnified -
          cu.totalUsedLoadUnified) := by
  induction chans generalizing dev cu pre with
  | nil =>
      exact ⟨rfl, rfl, CuData.Cleared.refl h,
        (Tracks.refl dev).congr rfl rfl (sub_self _).symm⟩
  | cons chan chans ih =>
      rw [releaseClientChannels]
      by_cases hn : chan.clientId = c
      · have hne : ¬(chan.clientId = 0 ∨ chan.clientId ≠ c) := by simp [hn, hc]
        have hleave : chan.leave c = chan.clear := by rw [ChannelData.leave, if_pos hn]
        rw [if_neg hne]
        generalize hret : (if chan.poolId = 0 then _ else _ : DeviceData × CuData) = ret
        have hreturned : Returned dev ret.1 cu ret.2 chan.channelLoadUnified
            (cu.isReservePoolUsingCu chan.poolId) := by
          rw [← hret]
          by_cases hp : chan.poolId = 0
          · rw [if_pos hp, hp, CuData.isReservePoolUsingCu_zero]
            exact dev.returnToDefaultPool_spec cu chan.channelLoadUnified
          · rw [if_neg hp, CuData.activeSlot_eq h.slots hp]
            cases cu.isReservePoolUsingCu chan.poolId with
            | none => exact dev.returnToDefaultPool_spec cu chan.channelLoadUnified
            | some i => exact dev.returnToSlot_spec cu chan.channelLoadUnified i
        have hstep := h.cleared (by rw [hn]; exact hc) hreturned.booked hreturned.users
          hreturned.numChanInuse
        have htracks := hreturned.tracks (h.books_return (by simp))
        have hrest := hstep.accounts
        rw [List.append_cons] at hrest
        have hih := ih ret.1 hrest
        rw [← List.append_cons, ← List.append_cons] at hih
        simp only [List.map_cons, hleave]
        exact ⟨hreturned.frame.trans hih.1, by rw [hih.2.1], hstep.trans hih.2.2.1,
          htracks.chain hih.2.2.2⟩
      · have hleave : chan.leave c = chan := by rw [ChannelData.leave, if_neg hn]
        rw [List.append_cons] at h
        have hih := ih dev h
        rw [← List.append_cons, ← List.append_cons] at hih
        simp only [hn, ne_eq, not_false_eq_true, or_true, if_true, List.map_cons, hleave]
        exact ⟨hih.1, by rw [hih.2.1], hih.2.2⟩

/-! ## The CU after the loops -/

/-- A record that names no channel leaves the device and the CU alone. -/
theorem releaseChannels_none {res : CuResource} {chans : List ChannelData}
    (h : ∀ chan ∈ chans, ¬res.names chan = true) (dev : DeviceData) (cu : CuData) :
    (releaseChannels res chans dev cu).dev = dev ∧ (releaseChannels res chans dev cu).cu = cu := by
  induction chans generalizing dev cu with
  | nil => exact ⟨rfl, rfl⟩
  | cons chan chans ih =>
      rw [releaseChannels, if_neg (h chan (by simp))]
      exact ih (fun c hc => h c (by simp [hc])) dev cu

theorem procChanCnt_eq_zero_iff (res : CuResource) (chans : List ChannelData) (dev : DeviceData)
    (cu : CuData) : (releaseChannels res chans dev cu).procChanCnt = 0 ↔
      ∀ chan ∈ chans, res.names chan = true ∨ chan.clientId ≠ res.clientId := by
  induction chans generalizing dev cu with
  | nil => simp [releaseChannels]
  | cons chan chans ih =>
      rw [releaseChannels]
      by_cases hn : res.names chan = true
      · simp only [hn, if_true, ih, List.forall_mem_cons, true_or, true_and]
      · simp only [List.forall_mem_cons, hn, Bool.false_eq_true, false_or]
        by_cases hc : chan.clientId = res.clientId
        · simp [hc]
        · simp [hc, ih]

theorem released_eq (res : CuResource) (chans : List ChannelData) (dev : DeviceData)
    (cu : CuData) : (releaseChannels res chans dev cu).released = chans.any res.names := by
  induction chans generalizing dev cu with
  | nil => rfl
  | cons chan chans ih =>
      rw [releaseChannels]
      by_cases hn : res.names chan = true
      · simp [hn]
      · simp [hn, ih]

end DeviceData

theorem exists_client_map {f : ChannelData → ChannelData} {c d : Nat} {chans : List ChannelData}
    (hf : ∀ chan, f chan = chan ∨ chan.clientId = c ∧ f chan = chan.clear) (hd : d ≠ 0)
    (hdc : d ≠ c) : (∃ chan ∈ chans.map f, chan.clientId = d) ↔
      ∃ chan ∈ chans, chan.clientId = d := by
  simp only [List.mem_map, exists_exists_and_eq_and]
  refine exists_congr fun chan => and_congr_right fun _ => ?_
  rcases hf chan with h | ⟨hc, h⟩
  · rw [h]
  · rw [h, ChannelData.clear_clientId, hc]
    exact iff_of_false hd.symm hdc.symm

theorem exists_client_map_gone {f : ChannelData → ChannelData} {c : Nat}
    {chans : List ChannelData}
    (hf : ∀ chan, f chan = chan ∨ chan.clientId = c ∧ f chan = chan.clear)
    (hgone : ∀ chan ∈ chans, chan.clientId = c → f chan = chan.clear) :
    ∀ d, d ≠ 0 → ((∃ chan ∈ chans.map f, chan.clientId = d) ↔
      d ≠ c ∧ ∃ chan ∈ chans, chan.clientId = d) := by
  intro d hd
  by_cases hdc : d = c
  · subst hdc
    refine iff_of_false ?_ (by simp)
    rintro ⟨chan, hmem, hd'⟩
    obtain ⟨chan₀, hmem₀, rfl⟩ := List.mem_map.mp hmem
    have hclear : f chan₀ = chan₀.clear := by
      rcases hf chan₀ with heq | ⟨-, heq⟩
      · exact hgone chan₀ hmem₀ (by rwa [heq] at hd')
      · exact heq
    rw [hclear] at hd'
    exact hd hd'.symm
  · rw [exists_client_map hf hd hdc]
    simp [hdc]

theorem CuResource.release_or (res : CuResource) (chan : ChannelData) :
    res.release chan = chan ∨ chan.clientId = res.clientId ∧ res.release chan = chan.clear := by
  rw [release]
  split
  · rename_i hn
    exact .inr ⟨(names_iff.mp hn).2.2.1, rfl⟩
  · exact .inl rfl

theorem ChannelData.leave_or (c : Nat) (chan : ChannelData) :
    chan.leave c = chan ∨ chan.clientId = c ∧ chan.leave c = chan.clear := by
  rw [leave]
  split
  · rename_i hc
    exact .inr ⟨hc, rfl⟩
  · exact .inl rfl

namespace CuData

variable {cu cu' : CuData} {c : Nat}

/-- The client's last channels are gone, and the client with them. -/
theorem Cleared.consistent_remove {f : ChannelData → ChannelData} (hcu : cu.Consistent)
    (h : Cleared cu cu' cu.channels (cu.channels.map f))
    (hf : ∀ chan, f chan = chan ∨ chan.clientId = c ∧ f chan = chan.clear)
    (hgone : ∀ chan ∈ cu.channels, chan.clientId = c → f chan = chan.clear) :
    ({ cu' with channels := cu.channels.map f }.removeClientOnCu c).Consistent := by
  have haccounts : ({ cu' with channels := cu.channels.map f }.removeClientOnCu c).Accounts
      (cu.channels.map f) :=
    h.accounts.congr (by simp) (by simp) (by simp) (by simp) (by simp)
  refine Accounts.consistent (by simpa using haccounts) ?_
  have htable : ClientTable cu.channels { cu' with channels := cu.channels.map f }.clients
      { cu' with channels := cu.channels.map f }.numClient := by
    simp only [h.users.clients, h.users.numClient]
    exact hcu.clients
  rw [removeClientOnCu_channels]
  exact htable.remove (exists_client_map_gone hf hgone)

theorem Cleared.consistent_keep {f : ChannelData → ChannelData} (hcu : cu.Consistent)
    (h : Cleared cu cu' cu.channels (cu.channels.map f))
    (hf : ∀ chan, f chan = chan ∨ chan.clientId = c ∧ f chan = chan.clear)
    (hkept : ∃ chan ∈ cu.channels, chan.clientId = c ∧ f chan = chan) :
    { cu' with channels := cu.channels.map f }.Consistent := by
  have haccounts : { cu' with channels := cu.channels.map f }.Accounts (cu.channels.map f) :=
    h.accounts.congr rfl rfl rfl rfl rfl
  refine Accounts.consistent haccounts ?_
  have htable : ClientTable cu.channels cu'.clients cu'.numClient := by
    rw [h.users.clients, h.users.numClient]
    exact hcu.clients
  refine htable.congr fun d hd => ?_
  by_cases hdc : d = c
  · subst hdc
    obtain ⟨chan, hmem, hc, heq⟩ := hkept
    exact iff_of_true ⟨chan, List.mem_map.mpr ⟨chan, hmem, heq⟩, hc⟩ ⟨chan, hmem, hc⟩
  · exact exists_client_map hf hd hdc

end CuData

namespace DeviceData

variable {dev : DeviceData} {cu : CuData} {c cuId : Nat} {res : CuResource}

/-- What a release of the record does to the CU. -/
structure Released (res : CuResource) (cu cu' : CuData) : Prop where
  consistent : cu'.Consistent
  toCuInfo : cu'.toCuInfo = cu.toCuInfo
  channels : cu'.channels = cu.channels.map res.release
  slots : cu'.slots = cu.slots.map (·.follow cu.channels cu'.channels)
  tenants : cu'.tenants = cu.tenants ∨ cu'.tenants = cu.tenants.erase res.clientId

theorem removeClientOnCu_slots (cu : CuData) (c : Nat) :
    (cu.removeClientOnCu c).slots = cu.slots := by
  rw [CuData.slots, CuData.slots, CuData.removeClientOnCu_reserves,
    CuData.removeClientOnCu_numReserve]

theorem removeClientOnCu_toCuInfo (cu : CuData) (c : Nat) :
    (cu.removeClientOnCu c).toCuInfo = cu.toCuInfo := by
  obtain ⟨_, _, h⟩ := cu.removeClientOnCu_frame c
  rw [h]

theorem map_channelId_eq {f : ChannelData → ChannelData} {c : Nat}
    (hf : ∀ chan, f chan = chan ∨ chan.clientId = c ∧ f chan = chan.clear)
    (chans : List ChannelData) : (chans.map f).map (·.channelId) = chans.map (·.channelId) := by
  rw [List.map_map]
  refine List.map_congr_left fun chan _ => ?_
  rcases hf chan with heq | ⟨-, heq⟩
  · rw [Function.comp_apply, heq]
  · rw [Function.comp_apply, heq, ChannelData.clear_channelId]

theorem Released.kin {cu' : CuData} (h : Released res cu cu') : cu.Kin cu' :=
  ⟨h.toCuInfo, by rw [h.channels]; exact map_channelId_eq res.release_or _⟩

/-- A release on a CU keeps its bookkeeping in order. -/
theorem releaseCu_spec (dev : DeviceData) (hcu : cu.Consistent) (hres : res.clientId ≠ 0)
    (cuId : Nat) :
    ∃ cu', Released res cu cu' ∧
      (dev.releaseCu cuId cu res).1 = (releaseChannels res cu.channels dev cu).dev.setCu cuId cu' ∧
      (dev.releaseCu cuId cu res).2 =
        (if cu.channels.any res.names then .ok () else .error .error) ∧
      Tracks dev (releaseChannels res cu.channels dev cu).dev
        (cu'.totalUsedLoadUnified - cu.totalUsedLoadUnified) := by
  have haccounts : cu.Accounts ([] ++ cu.channels) := hcu.accounts
  obtain ⟨hchans, hcleared, htracks⟩ := releaseChannels_cleared hres cu.channels dev haccounts
  simp only [List.nil_append] at hcleared
  rw [releaseCu]
  simp only [released_eq, hchans]
  refine ⟨_, ?_, rfl, trivial, htracks.congr rfl rfl ?_⟩
  rotate_left
  · congr 1
    split <;> simp
  have htable : ClientTable cu.channels (releaseChannels res cu.channels dev cu).cu.clients
      (releaseChannels res cu.channels dev cu).cu.numClient := by
    rw [hcleared.users.clients, hcleared.users.numClient]
    exact hcu.clients
  have htenants : (releaseChannels res cu.channels dev cu).cu.tenants = cu.tenants := by
    rw [CuData.tenants, CuData.tenants, hcleared.users.clients, hcleared.users.numClient]
  by_cases hcnt : (releaseChannels res cu.channels dev cu).procChanCnt = 0
  · rw [if_pos hcnt]
    rw [procChanCnt_eq_zero_iff] at hcnt
    refine ⟨hcleared.consistent_remove hcu res.release_or ?_, ?_, by simp, ?_, .inr ?_⟩
    · intro chan hmem hc
      rw [CuResource.release, if_pos ((hcnt chan hmem).resolve_right (by simpa using hc))]
    · rw [removeClientOnCu_toCuInfo]
      exact hcleared.users.toCuInfo
    · rw [removeClientOnCu_slots, CuData.removeClientOnCu_channels]
      exact hcleared.slots
    · rw [← htenants]
      exact (@ClientTable.remove_spec _ { (releaseChannels res cu.channels dev cu).cu with
        channels := cu.channels.map res.release } htable res.clientId).2
  · rw [if_neg hcnt]
    rw [procChanCnt_eq_zero_iff] at hcnt
    push Not at hcnt
    obtain ⟨chan, hmem, hn, hc⟩ := hcnt
    refine ⟨hcleared.consistent_keep hcu res.release_or ⟨chan, hmem, hc, ?_⟩,
      hcleared.users.toCuInfo, rfl, hcleared.slots, .inl htenants⟩
    rw [CuResource.release, if_neg (by simpa using hn)]

/-- What recycling a client's channels does to a CU. -/
structure Left (c : Nat) (cu cu' : CuData) : Prop where
  consistent : cu'.Consistent
  toCuInfo : cu'.toCuInfo = cu.toCuInfo
  channels : cu'.channels = cu.channels.map (·.leave c)
  slots : cu'.slots = cu.slots.map (·.follow cu.channels cu'.channels)

theorem Left.kin {cu' : CuData} (h : Left c cu cu') : cu.Kin cu' :=
  ⟨h.toCuInfo, by rw [h.channels]; exact map_channelId_eq (ChannelData.leave_or c) _⟩

theorem releaseAllOnCu_spec (dev : DeviceData) (hcu : cu.Consistent) (hc : c ≠ 0) :
    SameButLoad dev (releaseAllOnCu c dev cu).1 ∧ Left c cu (releaseAllOnCu c dev cu).2 ∧
      Tracks dev (releaseAllOnCu c dev cu).1
        ((releaseAllOnCu c dev cu).2.totalUsedLoadUnified - cu.totalUsedLoadUnified) := by
  rw [releaseAllOnCu]
  by_cases hnone : cu.isClientUsingCu c = none
  · rw [if_pos ⟨hc, hnone⟩]
    have hnotin := CuData.isClientUsingCu_eq_none.mp hnone
    have hleave : cu.channels.map (·.leave c) = cu.channels := by
      calc
        _ = cu.channels.map id := by
          refine List.map_congr_left fun chan hmem => ?_
          rw [ChannelData.leave, if_neg, id]
          rintro rfl
          exact hnotin ((hcu.clients.mem_iff _).mpr ⟨hc, chan, hmem, rfl⟩)
        _ = cu.channels := List.map_id _
    exact ⟨rfl, ⟨hcu, rfl, hleave.symm, by simp only [ReserveData.follow_self, List.map_id']⟩,
      (Tracks.refl dev).congr rfl rfl (sub_self _).symm⟩
  · rw [if_neg (by simp [hnone])]
    have hremoved : (cu.removeClientOnCu c).Accounts ([] ++ cu.channels) :=
      hcu.accounts.congr (by simp) (by simp) (by simp) (by simp) (by simp)
    obtain ⟨hdev, hchans, hcleared, htracks⟩ :=
      releaseClientChannels_cleared hc cu.channels dev hremoved
    simp only [List.nil_append] at hcleared
    have hleft : ∀ chan ∈ cu.channels, chan.clientId = c → chan.leave c = chan.clear :=
      fun chan _ hc' => by rw [ChannelData.leave, if_pos hc']
    have hgone := exists_client_map_gone (ChannelData.leave_or c) hleft
    refine ⟨hdev, ⟨?_, ?_, hchans, ?_⟩, htracks.congr rfl rfl (by simp)⟩
    · refine CuData.Accounts.consistent ?_ ?_
      · simp only [hchans]
        exact hcleared.accounts.congr rfl rfl rfl rfl rfl
      · have htable := hcu.clients.remove hgone
        simp only [hchans, hcleared.users.clients, hcleared.users.numClient]
        exact htable
    · rw [← removeClientOnCu_toCuInfo cu c]
      exact hcleared.users.toCuInfo
    · simp only [hchans]
      rw [← removeClientOnCu_slots cu c]
      exact hcleared.slots

end DeviceData

end Xrm
