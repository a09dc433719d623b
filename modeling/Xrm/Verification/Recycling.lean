import Xrm.Verification.Conservation

/-! # Recycling a client -/

namespace Xrm

open FixedTable

/-! ## What a complete recycling is -/

/-- The load that channels of client `c` draw from pool `p`. -/
def drawnBy (c p : Nat) (chan : ChannelData) : Int :=
  if chan.clientId = c ∧ chan.poolId = p then chan.channelLoadUnified else 0

/-- A CU after client `c` has been recycled: its channels are cleared, its slots are gone, and
the slots of the others get back what the client drew from them. -/
structure CuData.Recycled (c : Nat) (cu cu' : CuData) : Prop where
  channels : cu'.channels =
    cu.channels.map fun chan => if chan.clientId = c then chan.clear else chan
  clients : c ∉ cu'.tenants
  slots : cu'.slots = (cu.slots.filter (·.clientId != c)).map fun r : ReserveData =>
    { r with
      reserveUsedLoadUnified :=
        r.reserveUsedLoadUnified - sumBy (drawnBy c r.reservePoolId) cu.channels }

structure DeviceData.Recycled (c : Nat) (dev dev' : DeviceData) : Prop where
  cus : List.Forall₂ (CuData.Recycled c) dev.cuList dev'.cuList
  clientProcs : dev'.clientProcs =
    dev.clientProcs.map fun entry => if entry.clientId = c then ClientData.zero else entry
  isExcl : dev'.isExcl = (dev.isExcl && dev.holder.clientId != c)

def System.Recycled (c : Nat) (s s' : System) : Prop :=
  List.Forall₂ (DeviceData.Recycled c) s.devList s'.devList

namespace CuData

variable {cu cu₁ cu₂ : CuData} {c : Nat}

theorem drawn_leave (c p : Nat) (chans : List ChannelData) :
    sumBy (drawnFrom p) (chans.map (·.leave c)) - sumBy (drawnFrom p) chans =
      -sumBy (drawnBy c p) chans := by
  have hsplit : sumBy (drawnFrom p) (chans.map (·.leave c)) + sumBy (drawnBy c p) chans =
      sumBy (drawnFrom p) chans := by
    rw [sumBy_map, ← sumBy_add]
    refine sumBy_congr fun chan _ => ?_
    show drawnFrom p (chan.leave c) + drawnBy c p chan = drawnFrom p chan
    by_cases hc : chan.clientId = c
    · have hclear : drawnFrom p chan.clear = 0 := by
        rw [drawnFrom, ChannelData.clear_load, ite_self]
      rw [ChannelData.leave, if_pos hc, hclear, zero_add, drawnBy, drawnFrom]
      simp only [hc, true_and]
    · rw [ChannelData.leave, if_neg hc, drawnBy, if_neg fun h => hc h.1, add_zero]
  omega

/-- Giving up the slots and then the channels recycles the CU. -/
theorem recycled_of_left (hc : c ≠ 0) (hslots : SlotsRecycled c 0 cu cu₁)
    (hleft : DeviceData.Left c cu₁ cu₂) : cu.Recycled c cu₂ := by
  have hchans := hslots.users.channels
  refine ⟨by rw [hleft.channels, hchans]; rfl, fun hmem => ?_, ?_⟩
  · obtain ⟨-, chan, hchan, heq⟩ := (hleft.consistent.clients.mem_iff c).mp hmem
    rw [hleft.channels] at hchan
    obtain ⟨chan₀, -, rfl⟩ := List.mem_map.mp hchan
    rw [ChannelData.leave] at heq
    split at heq
    · exact hc heq.symm
    · rename_i hne
      exact hne heq
  · rw [hleft.slots, hslots.slots, List.take_zero, List.nil_append, List.drop_zero, hchans]
    refine List.map_congr_left fun r _ => ?_
    rw [ReserveData.follow, hleft.channels, hchans,
      drawn_leave c r.reservePoolId cu.channels, Int.sub_eq_add_neg]

theorem left_self (hcu : cu.Consistent) (hnone : sumBy (heldBy c) cu.channels = 0) :
    DeviceData.Left c cu cu := by
  have hleave : cu.channels.map (·.leave c) = cu.channels := by
    calc
      _ = cu.channels.map id := by
        refine List.map_congr_left fun chan hmem => ?_
        rw [ChannelData.leave, if_neg, id]
        intro heq
        have hle : heldBy c chan ≤ sumBy (heldBy c) cu.channels :=
          le_sumBy (fun chan _ => DeviceData.heldBy_nonneg c chan) hmem
        rw [heldBy, if_pos heq] at hle
        omega
      _ = cu.channels := List.map_id _
  exact ⟨hcu, rfl, hleave.symm, by simp only [ReserveData.follow_self, List.map_id']⟩

end CuData

namespace DeviceData

variable {D : Discipline} {dev dev₁ dev₂ : DeviceData} {c : Nat}

/-! ## The client table -/

theorem recycleEntries_absent (hnone : ∀ entry ∈ dev.clientProcs, entry.clientId ≠ c)
    (rounds pidIdx : Nat) : recycleEntries c rounds pidIdx dev = dev := by
  induction rounds generalizing pidIdx with
  | zero => rfl
  | succ rounds ih =>
      rw [recycleEntries]
      simp only
      rw [if_neg]
      · exact ih _
      · rintro ⟨href, heq⟩
        by_cases hi : pidIdx < dev.clientProcs.length
        · rw [List.getD_eq_getElem _ _ hi] at heq
          exact hnone _ (List.getElem_mem hi) heq
        · rw [List.getD_eq_default _ _ (by omega)] at href
          exact href rfl

/-- The loop over the client table stops at the client's only entry. -/
theorem recycleEntries_found {i : Nat} (hi : i < dev.clientProcs.length)
    (hfound : dev.clientProcs[i].clientId = c) (href : dev.clientProcs[i].ref ≠ 0)
    (hother : ∀ entry ∈ dev.clientProcs.eraseIdx i, entry.clientId ≠ c) (hc : c ≠ 0)
    (hprocs : (dev.releaseAllCuChanClientOnDev c).clientProcs = dev.clientProcs)
    (rounds pidIdx : Nat) (hle : pidIdx ≤ i) (hlt : i < pidIdx + rounds) :
    recycleEntries c rounds pidIdx dev =
      { dev.releaseAllCuChanClientOnDev c with
        clientProcs := dev.clientProcs.set i ClientData.zero } := by
  induction rounds generalizing pidIdx with
  | zero => omega
  | succ rounds ih =>
      rw [recycleEntries]
      simp only
      rw [List.getD_eq_getElem _ _ (show pidIdx < dev.clientProcs.length by omega)]
      by_cases heq : pidIdx = i
      · subst heq
        rw [if_pos ⟨href, hfound⟩, hprocs]
        refine recycleEntries_absent (fun entry he => ?_) _ _
        simp only at he
        rw [set_eq_modify, (modify_perm _ _ _ hi).mem_iff, List.mem_cons] at he
        rcases he with rfl | he
        · exact hc.symm
        · exact hother entry he
      · rw [if_neg, ih (pidIdx + 1) (by omega) (by omega)]
        rintro ⟨-, hsame⟩
        refine hother _ ?_ hsame
        exact List.mem_eraseIdx_iff_getElem.mpr ⟨pidIdx, by omega, heq, rfl⟩

/-- The table without the client's entries. -/
def forget (c : Nat) (entry : ClientData) : ClientData :=
  if entry.clientId = c then ClientData.zero else entry

theorem map_forget_absent {entries : List ClientData}
    (hnone : ∀ entry ∈ entries, entry.clientId ≠ c) : entries.map (forget c) = entries := by
  calc
    _ = entries.map id := List.map_congr_left fun entry he => if_neg (hnone entry he)
    _ = entries := List.map_id _

theorem map_forget_found {entries : List ClientData} {i : Nat} (hi : i < entries.length)
    (hfound : entries[i].clientId = c)
    (hother : ∀ entry ∈ entries.eraseIdx i, entry.clientId ≠ c) :
    entries.map (forget c) = entries.set i ClientData.zero := by
  refine List.ext_getElem (by simp) fun j hj hj' => ?_
  rw [List.length_map] at hj
  rw [List.getElem_map, List.getElem_set]
  by_cases hij : i = j
  · subst hij
    rw [if_pos rfl, forget, if_pos hfound]
  · rw [if_neg hij, forget, if_neg]
    exact hother _ (List.mem_eraseIdx_iff_getElem.mpr ⟨j, hj, Ne.symm hij, rfl⟩)

/-! ## One device -/

theorem held_absent (hs : dev.Sound D) (hD : D.covered) (hc : c ≠ 0)
    (hnone : ∀ entry ∈ dev.clientProcs, entry.clientId ≠ c) :
    List.Forall₂ (Left c) dev.cuList dev.cuList := by
  obtain ⟨refs, htally, hrefs⟩ := hs.tally hD
  have hzero : dev.held c ≤ 0 := by
    have h := htally.refs c hc
    rw [sumBy_refsOf_eq_zero hnone] at h
    have := (hrefs c hc).1
    omega
  refine List.forall₂_same.mpr fun cu hcu => CuData.left_self (hs.consistent cu hcu) ?_
  obtain ⟨i, hi, rfl⟩ := List.getElem_of_mem hcu
  have hle := held_channel_le (List.getElem?_eq_getElem hi) c
  have hnonneg : 0 ≤ sumBy (heldBy c) dev.cuList[i].channels :=
    sumBy_nonneg fun chan _ => heldBy_nonneg c chan
  omega

/-- What the second half of the device loop does to the CUs and the table. -/
structure Cleared (c : Nat) (dev dev' : DeviceData) : Prop where
  cus : List.Forall₂ (Left c) dev.cuList dev'.cuList
  clientProcs : dev'.clientProcs = dev.clientProcs.map (forget c)
  isExcl : dev'.isExcl = (dev.isExcl && dev.holder.clientId != c)

theorem cleared_absent (hs : dev.Sound D) (hD : D.covered) (hc : c ≠ 0)
    (hnone : ∀ entry ∈ dev.clientProcs, entry.clientId ≠ c) : Cleared c dev dev := by
  refine ⟨held_absent hs hD hc hnone, (map_forget_absent hnone).symm, ?_⟩
  have hholder : dev.holder.clientId ≠ c := by
    rw [holder_eq hs.shape.pos]
    exact hnone _ (List.getElem_mem hs.shape.pos)
  simp [hholder]

theorem cleared_shared (hs : dev.Sound D) (hD : D.covered) (hc : c ≠ 0)
    (hex : dev.isExcl = false) : Cleared c dev (recycleEntries c maxDevClients 0 dev) := by
  cases hfind : dev.clientProcs.findIdx? (·.clientId == c) with
  | none =>
      have hnone : ∀ entry ∈ dev.clientProcs, entry.clientId ≠ c := by
        intro entry he
        rw [List.findIdx?_eq_none_iff] at hfind
        simpa using hfind entry he
      rw [recycleEntries_absent hnone]
      exact cleared_absent hs hD hc hnone
  | some i =>
      obtain ⟨hi, hfound⟩ := findIdx?_clientId hfind
      obtain ⟨refs, htally, -⟩ := hs.tally hD
      have hother := once_other (htally.once c hc) hi hfound
      have hpos := (hs.shape.proper _ (List.getElem_mem hi)).ref_pos (by rw [hfound]; exact hc)
      have hleft := releaseAllCuChanClientOnDev_spec hc hs.consistent
      have hframe := hleft.frame
      have hprocs : (dev.releaseAllCuChanClientOnDev c).clientProcs = dev.clientProcs := by
        rw [hframe]
      have hexcl : (dev.releaseAllCuChanClientOnDev c).isExcl = dev.isExcl := by
        rw [hframe]
      have hlen := hs.shape.length
      rw [recycleEntries_found hi hfound (by omega) hother hc hprocs maxDevClients 0 (by omega)
        (by omega)]
      refine ⟨hleft.cus, (map_forget_found hi hfound hother).symm, ?_⟩
      show (dev.releaseAllCuChanClientOnDev c).isExcl = _
      rw [hexcl, hex]
      rfl

theorem cleared_holder (hs : dev.Sound D) (hc : c ≠ 0) (hex : dev.isExcl = true)
    (hholder : dev.holder.clientId = c) :
    Cleared c dev { dev.releaseAllCuChanClientOnDev c with
      isExcl := false
      clientProcs := List.replicate maxDevClients ClientData.zero } := by
  have hleft := releaseAllCuChanClientOnDev_spec hc hs.consistent
  refine ⟨hleft.cus, ?_, by simp [hholder]⟩
  symm
  refine List.eq_replicate_iff.mpr ⟨by rw [List.length_map, hs.shape.length], fun entry he => ?_⟩
  obtain ⟨entry₀, he₀, rfl⟩ := List.mem_map.mp he
  by_cases hentry : entry₀.clientId = c
  · rw [forget, if_pos hentry]
  · rw [forget, if_neg hentry]
    by_contra hne
    have hzero : entry₀.clientId ≠ 0 := fun h =>
      hne ((hs.shape.proper _ he₀).eq_zero h)
    exact hs.shape.not_mem hex hzero (by rw [hholder]; exact Ne.symm hentry) entry₀ he₀ rfl

theorem recycled_of_cleared {tmpSum change set : Int} (hc : c ≠ 0)
    (hcons : ∀ cu ∈ dev.cuList, cu.Consistent)
    (h : Cleared c ({ dev with
      cuList := (recycleReserves c dev.cuList tmpSum).1 }.updateDeviceLoad change set) dev₂) :
    Recycled c dev dev₂ := by
  refine ⟨?_, h.clientProcs, h.isExcl⟩
  have hslots := recycleReserves_spec c dev.cuList tmpSum hcons
  have hleft := h.cus
  have hcus : ({ dev with cuList := (recycleReserves c dev.cuList tmpSum).1
    }.updateDeviceLoad change set).cuList = (recycleReserves c dev.cuList tmpSum).1 := rfl
  rw [hcus] at hleft
  clear hcus h
  generalize (recycleReserves c dev.cuList tmpSum).1 = cus at hslots hleft
  generalize dev.cuList = cus₀ at hslots hcons
  generalize dev₂.cuList = cus₂ at hleft
  induction hslots generalizing cus₂ with
  | nil =>
      rw [List.forall₂_nil_left_iff.mp hleft]
      exact .nil
  | cons hone _ ih =>
      obtain ⟨cu₂, rest, hhead, htail, rfl⟩ := List.forall₂_cons_left_iff.mp hleft
      exact .cons (CuData.recycled_of_left hc hone hhead)
        (ih (fun cu hcu => hcons cu (by simp [hcu])) rest htail)

theorem recycled_unloaded (hs : dev.Sound D) (hD : D.covered) (hc : c ≠ 0)
    (hload : dev.isLoaded = false) : Recycled c dev dev := by
  obtain ⟨hexcl, hzero⟩ := hs.absent hD hload
  have hnone : ∀ entry ∈ dev.clientProcs, entry.clientId ≠ c := by
    intro entry he
    rw [hzero entry he]
    exact hc.symm
  refine ⟨?_, (map_forget_absent hnone).symm, by rw [hexcl]; rfl⟩
  rw [hs.unloaded hload]
  exact .nil

theorem recycleOn_recycled (hs : dev.Sound D) (hD : D.covered) (hc : c ≠ 0)
    (hload : dev.isLoaded = true) (tmpSum : Int) :
    Recycled c dev (dev.recycleOn c tmpSum) ∧ (dev.recycleOn c tmpSum).Sound D := by
  have hsound₁ := hs.recycleReserves (c := c) tmpSum (recycleReserves c dev.cuList tmpSum).2
  have hclear : ∀ {dev₂ : DeviceData}, Cleared c ({ dev with
      cuList := (recycleReserves c dev.cuList tmpSum).1 }.updateDeviceLoad
        (recycleReserves c dev.cuList tmpSum).2 0) dev₂ → Recycled c dev dev₂ :=
    fun h => recycled_of_cleared hc hs.consistent h
  have hload₁ : ({ dev with
      cuList := (recycleReserves c dev.cuList tmpSum).1 }.updateDeviceLoad
        (recycleReserves c dev.cuList tmpSum).2 0).isLoaded = true := hload
  rw [recycleOn]
  simp only
  generalize ({ dev with
    cuList := (recycleReserves c dev.cuList tmpSum).1 }.updateDeviceLoad
      (recycleReserves c dev.cuList tmpSum).2 0) = dev₁ at hsound₁ hclear hload₁
  split
  · rename_i hex
    split
    · rename_i hown
      exact ⟨hclear (cleared_holder hsound₁ hc hex hown),
        hsound₁.recycleHolder hc hload₁ hex hown⟩
    · rename_i hown
      exact ⟨hclear (cleared_absent hsound₁ hD hc (hsound₁.shape.not_mem hex hc hown)), hsound₁⟩
  · rename_i hex
    have hex : dev₁.isExcl = false := by simpa using hex
    exact ⟨hclear (cleared_shared hsound₁ hD hc hex), acts_sound
      (recycleEntries_acts hc maxDevClients 0 dev₁ hsound₁ hload₁ hex) hsound₁⟩

end DeviceData

namespace System

variable {D : Discipline} {s : System} {c : Nat}

/-! ## All devices -/

/-- The device loop recycles the client on each device once. -/
theorem recycleDevices_spec (hD : D.covered) (hc : c ≠ 0) (devIds : List Nat)
    (hnodup : devIds.Nodup) (s : System) (tmpSum : Int) (hs : s.Sound D) :
    (recycleDevices c devIds s tmpSum).devList.length = s.devList.length ∧
      ∀ i dev, s.devList[i]? = some dev → ∃ dev',
        (recycleDevices c devIds s tmpSum).devList[i]? = some dev' ∧
          (i ∈ devIds → DeviceData.Recycled c dev dev') ∧ (i ∉ devIds → dev' = dev) := by
  induction devIds generalizing s tmpSum with
  | nil => exact ⟨rfl, fun i dev hdev => ⟨dev, hdev, by simp, fun _ => rfl⟩⟩
  | cons devId devIds ih =>
      rw [List.nodup_cons] at hnodup
      by_cases hon : ∃ dev, s.devList[devId]? = some dev ∧ dev.isLoaded = true
      · obtain ⟨dev, hdev, hload⟩ := hon
        have hsound := hs dev (List.mem_of_getElem? hdev)
        obtain ⟨hrec, hsound₂⟩ := DeviceData.recycleOn_recycled hsound hD hc hload tmpSum
        rw [recycleDevices_cons hsound hdev hload]
        generalize dev.recycleOn c tmpSum = dev₂ at hrec hsound₂
        have hset : (s.setDev devId dev₂).Sound D := by
          intro x hx
          rcases List.mem_or_eq_of_mem_set hx with hx | rfl
          · exact hs x hx
          · exact hsound₂
        obtain ⟨hlen, hall⟩ := ih hnodup.2 (s.setDev devId dev₂) _ hset
        refine ⟨by rw [hlen, setDev, List.length_set], fun i x hx => ?_⟩
        by_cases hi : devId = i
        · -- the rest of the loop does not come back to this device
          subst hi
          rw [hdev, Option.some.injEq] at hx
          subst hx
          obtain ⟨x', hx', -, hsame⟩ := hall devId dev₂ (getElem?_setDev_self hdev dev₂)
          refine ⟨x', hx', fun _ => ?_, fun hno => absurd (by simp) hno⟩
          rw [hsame hnodup.1]
          exact hrec
        · obtain ⟨x', hx', hin, hout⟩ := hall i x (by rw [getElem?_setDev_ne hi, hx])
          refine ⟨x', hx', fun hmem => hin ?_, fun hno => hout ?_⟩
          · exact (List.mem_cons.mp hmem).resolve_left (Ne.symm hi)
          · exact fun hmem => hno (by simp [hmem])
      · have hoff : ∀ dev, s.devList[devId]? = some dev → dev.isLoaded = false := by
          intro dev hdev
          simpa using fun hload => hon ⟨dev, hdev, hload⟩
        rw [recycleDevices_skip hoff]
        obtain ⟨hlen, hall⟩ := ih hnodup.2 s tmpSum hs
        refine ⟨hlen, fun i x hx => ?_⟩
        obtain ⟨x', hx', hin, hout⟩ := hall i x hx
        refine ⟨x', hx', fun hmem => ?_, fun hno => hout fun hmem => hno (by simp [hmem])⟩
        rcases List.mem_cons.mp hmem with rfl | hmem
        · by_cases hi : i ∈ devIds
          · exact hin hi
          · rw [hout hi]
            exact DeviceData.recycled_unloaded (hs x (List.mem_of_getElem? hx)) hD hc (hoff x hx)
        · exact hin hmem

theorem recycleResource_recycled (hD : D.covered) (hc : c ≠ 0) (hs : s.Sound D) :
    s.Recycled c (s.recycleResource c) := by
  obtain ⟨hlen, hall⟩ := recycleDevices_spec hD hc (List.range s.numDevice) List.nodup_range s 0 hs
  refine List.forall₂_iff_get.mpr ⟨hlen.symm, fun i hi hi' => ?_⟩
  obtain ⟨dev', hdev', hin, -⟩ := hall i s.devList[i] (List.getElem?_eq_getElem hi)
  obtain ⟨hi'', rfl⟩ := List.getElem?_eq_some_iff.mp hdev'
  exact hin (List.mem_range.mpr hi)

/-! ## Complete recycling -/

/-- The client has nothing left anywhere. -/
structure Without (c : Nat) (s : System) : Prop where
  channels : ∀ dev ∈ s.devList, ∀ cu ∈ dev.cuList, ∀ chan ∈ cu.channels, chan.clientId ≠ c
  clients : ∀ dev ∈ s.devList, ∀ cu ∈ dev.cuList, c ∉ cu.tenants
  slots : ∀ dev ∈ s.devList, ∀ cu ∈ dev.cuList, ∀ r ∈ cu.slots, r.clientId ≠ c
  clientProcs : ∀ dev ∈ s.devList, ∀ entry ∈ dev.clientProcs, entry.clientId ≠ c
  isExcl : ∀ dev ∈ s.devList, dev.isExcl = true → dev.holder.clientId ≠ c

theorem Recycled.without {s' : System} (hc : c ≠ 0) (h : s.Recycled c s') : s'.Without c := by
  have hcus : ∀ {P : CuData → Prop}, (∀ cu cu', CuData.Recycled c cu cu' → P cu') →
      ∀ dev ∈ s'.devList, ∀ cu ∈ dev.cuList, P cu := by
    intro P hP
    exact forall₂_right h fun dev dev' hdev => forall₂_right hdev.cus hP
  have hprocs : ∀ dev ∈ s'.devList, ∀ entry ∈ dev.clientProcs, entry.clientId ≠ c := by
    refine forall₂_right h fun dev dev' hdev entry he => ?_
    rw [hdev.clientProcs] at he
    obtain ⟨entry₀, -, rfl⟩ := List.mem_map.mp he
    split
    · exact hc.symm
    · assumption
  refine ⟨hcus fun cu cu' hcu chan hchan => ?_, hcus fun cu cu' hcu => hcu.clients,
    hcus fun cu cu' hcu r hr => ?_, hprocs, fun dev hdev _ => ?_⟩
  · rw [hcu.channels] at hchan
    obtain ⟨chan₀, -, rfl⟩ := List.mem_map.mp hchan
    split
    · exact hc.symm
    · assumption
  · rw [hcu.slots] at hr
    obtain ⟨r₀, hr₀, rfl⟩ := List.mem_map.mp hr
    simpa using (List.mem_filter.mp hr₀).2
  · rw [DeviceData.holder, List.getD_eq_getElem?_getD]
    cases hget : dev.clientProcs[0]? with
    | none => exact hc.symm
    | some entry => exact hprocs dev hdev entry (List.mem_of_getElem? hget)

/-- Complete recycling. In every run in which the references of the clients cover their
channels, recycling a client leaves nothing of it, and of the others it changes only the used
load of the slots that the client drew from. -/
theorem recycle_complete {limit : Nat} {s : System} (h : Reachable coveredRuns limit s) {c : Nat}
    (hc : c ≠ 0) : (s.recycleResource c).Without c ∧ s.Recycled c (s.recycleResource c) := by
  have hrec : s.Recycled c (s.recycleResource c) :=
    recycleResource_recycled trivial hc h.good.sound
  exact ⟨hrec.without hc, hrec⟩

end System

open Scenario in
def sharedRun : List Op :=
  [.loadOneDevice (env 1 1) 0 "scaler.xclbin", .resAllocCu (request 1 0 300000) true,
    .resAllocCu (request 2 0 200000) true]

open Scenario in
/-- Client 1 asks for the device in use most; the only device is not loaded. -/
def unloadedRun : List Op :=
  [.getDeviceNumber (env 1 1),
    .resAllocCuV2
      { kernelName := "scaler"
        kernelAlias := ""
        cuName := ""
        devExcl := false
        deviceInfo := 0
        policyInfo := policyDevMostUsedFirst
        requestLoadUnified := 300000
        requestLoadOriginal := 30
        clientId := 1
        clientProcessId := 0
        poolId := 0 } true]

namespace System

theorem recycle_complete_shared : ((Scenario.after sharedRun).recycleResource 1).Without 1 ∧
    (Scenario.after sharedRun).Recycled 1 ((Scenario.after sharedRun).recycleResource 1) :=
  recycle_complete (reachable_after sharedRun (stepsOk_of_plain id id id sharedRun (by decide) _))
    (by decide)

/-- A client that was registered on a device that is not loaded stays in its table. -/
theorem recycle_incomplete : ∃ limit s, Reachable allRuns limit s ∧ ∃ c, c ≠ 0 ∧
    ¬((s.recycleResource c).Without c ∧ s.Recycled c (s.recycleResource c)) := by
  refine ⟨8, Scenario.after unloadedRun, reachable_after unloadedRun (by decide +kernel), 1,
    by decide, fun hall => ?_⟩
  have hprocs := hall.1.clientProcs
  exact absurd hprocs (by decide +kernel)

end System

end Xrm
