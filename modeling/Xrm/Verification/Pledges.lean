import Xrm.Verification.Granting
import Xrm.Verification.Restoring

/-! # What the CUs pledge to the pools

A slot pledges load to the client of its pool. What channels draw from it comes and goes; the
pledge itself only goes when the pool is given up or its client is recycled.
-/

namespace Xrm

open FixedTable Relation

/-- The slot, whatever of its load is in use. -/
def ReserveData.pledge (r : ReserveData) : ReserveData := { r with reserveUsedLoadUnified := 0 }

namespace CuData

variable {cu cu' : CuData} {prop : CuProperty} {svc chanId n c : Nat} {idx : Option Nat}

/-- What the CU pledges to the pools. -/
def pledges (cu : CuData) : List ReserveData := cu.slots.map ReserveData.pledge

/-- The CU names no pool but 0 and those that have an id up to `n`. -/
structure Issued (n : Nat) (cu : CuData) : Prop where
  pledges : ∀ r ∈ cu.pledges, r.reservePoolId ≤ n
  channels : ∀ chan ∈ cu.channels, chan.poolId ≤ n

theorem pledges_nil (h : cu.slots = []) : cu.pledges = [] := by rw [pledges, h, List.map_nil]

/-- Slots that follow a change of the channels pledge what they did. -/
theorem pledges_follow {chans chans' : List ChannelData}
    (h : cu'.slots = cu.slots.map (·.follow chans chans')) : cu'.pledges = cu.pledges := by
  rw [pledges, h, List.map_map]
  rfl

theorem Allocated.pledges (h : cu.Allocated cu' prop svc idx chanId) (hcu : cu.Consistent)
    (hs : prop.Received) : cu'.pledges = cu.pledges := by
  obtain ⟨hi, hfree⟩ := h.free
  rw [h.eq]
  exact pledges_follow (hcu.accounts.slots_move (moves_occupy svc hi hfree)
    (hcu.books_alloc h.pos hs.2 h.admits) (cu.booked_assignChannel prop svc chanId idx))

/-- A request is served out of the default pool, or out of one that the CU has a slot of. -/
theorem Issued.admits (h : cu.Issued n) (hadm : cu.Admits prop idx) : prop.poolId ≤ n := by
  cases idx with
  | none => exact hadm.1 ▸ Nat.zero_le n
  | some i =>
      obtain ⟨-, hi, hp⟩ := isReservePoolUsingCu_eq_some hadm.1
      rw [← hp]
      exact h.pledges cu.slots[i].pledge (List.mem_map_of_mem (List.getElem_mem hi))

theorem Issued.allocated (h : cu.Issued n) (ha : cu.Allocated cu' prop svc idx chanId)
    (hcu : cu.Consistent) (hs : prop.Received) : cu'.Issued n := by
  refine ⟨by rw [ha.pledges hcu hs]; exact h.pledges, ?_⟩
  rw [ha.eq, assignChannel_channels]
  exact forall_mem_modify h.channels fun _ _ => h.admits ha.admits

/-- Channels that are kept or cleared name no other pool. -/
theorem Issued.cleared {f : ChannelData → ChannelData} (h : cu.Issued n)
    (hpledges : ∀ r ∈ cu'.pledges, r ∈ cu.pledges) (hchans : cu'.channels = cu.channels.map f)
    (hf : ∀ chan, f chan = chan ∨ chan.clientId = c ∧ f chan = chan.clear) : cu'.Issued n := by
  refine ⟨fun r hr => h.pledges r (hpledges r hr), fun chan hchan => ?_⟩
  rw [hchans] at hchan
  obtain ⟨chan₀, hchan₀, rfl⟩ := List.mem_map.mp hchan
  rcases hf chan₀ with heq | ⟨-, heq⟩
  · rw [heq]
    exact h.channels chan₀ hchan₀
  · rw [heq]
    exact Nat.zero_le n

theorem Issued.untouched (h : cu.Untouched) : cu.Issued n := by
  refine ⟨by simp [pledges_nil h.slots], fun chan hchan => ?_⟩
  rw [(h.free chan hchan).poolId]
  exact Nat.zero_le n

theorem Issued.mono {m : Nat} (h : cu.Issued n) (hle : n ≤ m) : cu.Issued m :=
  ⟨fun r hr => (h.pledges r hr).trans hle, fun chan hchan => (h.channels chan hchan).trans hle⟩

/-- The slots of a recycled client are gone. -/
theorem SlotsRecycled.pledges (h : SlotsRecycled c 0 cu cu') :
    cu'.pledges = cu.pledges.filter (·.clientId != c) := by
  rw [CuData.pledges, h.slots, List.take_zero, List.nil_append, List.drop_zero, CuData.pledges,
    List.filter_map]
  rfl

/-- An act on one pool leaves what is pledged to the others. -/
theorem Beside.pledges {p : Nat} (h : Beside p cu cu') :
    cu'.pledges.filter (·.reservePoolId != p) = cu.pledges.filter (·.reservePoolId != p) := by
  rw [CuData.pledges, CuData.pledges, List.filter_map, List.filter_map]
  exact congrArg (List.map ReserveData.pledge) h.others

theorem Issued.beside {p : Nat} (h : cu.Issued n) (hb : Beside p cu cu') (hp : p ≤ n) :
    cu'.Issued n := by
  refine ⟨fun r hr => ?_, by rw [hb.users.channels]; exact h.channels⟩
  by_cases hpool : r.reservePoolId = p
  · exact hpool ▸ hp
  · have hmem : r ∈ cu'.pledges.filter (·.reservePoolId != p) :=
      List.mem_filter.mpr ⟨hr, by simpa using hpool⟩
    rw [hb.pledges] at hmem
    exact h.pledges r (List.mem_of_mem_filter hmem)

end CuData

namespace DeviceData

variable {D : Discipline} {dev dev' : DeviceData} {prop : CuProperty} {n c : Nat}

/-! ## One device -/

/-- What is pledged on CU `j` of the device. -/
def pledgesAt (dev : DeviceData) (j : Nat) : List ReserveData :=
  ((dev.cuList.map CuData.pledges)[j]?).getD []

def Issued (n : Nat) (dev : DeviceData) : Prop := ∀ cu ∈ dev.cuList, cu.Issued n

theorem pledgesAt_congr (h : dev'.cuList.map CuData.pledges = dev.cuList.map CuData.pledges) :
    dev'.pledgesAt = dev.pledgesAt := by
  funext j
  rw [pledgesAt, h, pledgesAt]

theorem pledgesAt_nil (h : ∀ cu ∈ dev.cuList, cu.slots = []) (j : Nat) : dev.pledgesAt j = [] := by
  rw [pledgesAt]
  cases hget : (dev.cuList.map CuData.pledges)[j]? with
  | none => rfl
  | some l =>
      obtain ⟨cu, hcu, rfl⟩ := List.mem_map.mp (List.mem_of_getElem? hget)
      exact CuData.pledges_nil (h cu hcu)

/-- One CU is replaced by one that pledges the same. -/
theorem pledgesAt_set {cuId : Nat} {cu cu' : CuData} (hcu : dev.cuList[cuId]? = some cu)
    (hcus : dev'.cuList = dev.cuList.set cuId cu') (h : cu'.pledges = cu.pledges) :
    dev'.pledgesAt = dev.pledgesAt := by
  obtain ⟨hi, rfl⟩ := List.getElem?_eq_some_iff.mp hcu
  refine pledgesAt_congr ?_
  rw [hcus, set_eq_modify]
  exact map_modify_at fun _ => h

theorem issued_set {cuId : Nat} {cu' : CuData} (h : dev.Issued n)
    (hcus : dev'.cuList = dev.cuList.set cuId cu') (hcu' : cu'.Issued n) : dev'.Issued n := by
  rw [Issued, hcus]
  intro cu hcu
  rcases List.mem_or_eq_of_mem_set hcu with hcu | rfl
  · exact h cu hcu
  · exact hcu'

theorem LeftDevice.pledgesAt (h : LeftDevice c dev dev') : dev'.pledgesAt = dev.pledgesAt := by
  refine pledgesAt_congr ?_
  have hcus := h.cus
  generalize dev.cuList = cus at hcus
  generalize dev'.cuList = cus' at hcus
  induction hcus with
  | nil => rfl
  | cons hleft _ ih => rw [List.map_cons, List.map_cons, ih, CuData.pledges_follow hleft.slots]

/-- The channels that an allocation, a release or a load takes or gives back leave all pledges. -/
theorem Work.pledgesAt (h : Work D dev dev') (hs : dev.Sound D) :
    dev'.pledgesAt = dev.pledgesAt := by
  have hidle : (∀ cu ∈ dev.cuList, cu.Idle) → ∀ cu ∈ dev.cuList, cu.slots = [] :=
    fun hidle cu hcu => (hs.consistent cu hcu).idle_slots (hidle cu hcu)
  cases h with
  | touch hc hload hreg =>
      exact pledgesAt_congr (by rw [dropClient_cuList, registered_cuList hreg])
  | grab hsent hsvc hreg hcu halloc =>
      have hcons := hs.consistent _ (List.mem_of_getElem? hcu)
      obtain ⟨idx, halloc⟩ := CuData.allocated_of_allocChan hcons halloc
      refine pledgesAt_set hcu ?_ (halloc.pledges hcons hsent)
      rw [System.grant_cuList, registered_cuList hreg]
  | leak hD hload hc hreg => exact pledgesAt_congr (by rw [registered_cuList hreg])
  | steal hD hsent hsvc hcu halloc =>
      have hcons := hs.consistent _ (List.mem_of_getElem? hcu)
      obtain ⟨idx, halloc⟩ := CuData.allocated_of_allocChan hcons halloc
      exact pledgesAt_set hcu (System.grant_cuList _ _ _ _) (halloc.pledges hcons hsent)
  | overRelease hD hc => exact pledgesAt_congr (by rw [dropClient_cuList])
  | @takeAll svc c pid hD hload hsvc hc _ =>
      refine pledgesAt_congr ?_
      show ((dev.cuList.take _).map (fun cu => cu.takeWhole svc c pid) ++
        dev.cuList.drop _).map CuData.pledges = _
      rw [List.map_append, List.map_map]
      conv_rhs => rw [← List.take_append_drop dev.allocAllNum dev.cuList, List.map_append]
      rfl
  | release hload hcu hres =>
      obtain ⟨cu', hreleased, heq, -, -⟩ :=
        dev.releaseCu_spec (hs.consistent _ (List.mem_of_getElem? hcu)) hres _
      refine pledgesAt_set hcu ?_ (CuData.pledges_follow hreleased.slots)
      rw [heq, setCu, (releaseChannels_frame hres _ dev _ hs.shape).cuList]
  | clear hidle' hcus hload' hex hprocs =>
      have hnone : ∀ cu ∈ dev.cuList, cu.slots = [] := by
        cases hload : dev.isLoaded with
        | true => exact hidle (hidle' hload)
        | false => simp [hs.unloaded hload]
      funext j
      rw [pledgesAt_nil (by simp [hcus]), pledgesAt_nil hnone]
  | load hload hnumber hcus horder hload' hex hprocs hcurrent hrate =>
      funext j
      rw [pledgesAt_nil fun cu hcu => (hcus cu hcu).slots,
        pledgesAt_nil (by simp [hs.unloaded hload])]
  | mark hcus hload hex hprocs hinfo => exact pledgesAt_congr (by rw [hcus])

theorem works_pledgesAt (h : ReflTransGen (Work D) dev dev') (hs : dev.Sound D) :
    dev'.pledgesAt = dev.pledgesAt := by
  induction h with
  | refl => rfl
  | tail hworks hwork ih => rw [hwork.pledgesAt (acts_sound (Work.acts hworks) hs), ih]

/-! ### Recycling a client -/

theorem recycleReserves_pledgesAt (hcons : ∀ cu ∈ dev.cuList, cu.Consistent) (c : Nat)
    (tmpSum change : Int) (j : Nat) :
    ({ dev with cuList := (recycleReserves c dev.cuList tmpSum).1 }.updateDeviceLoad
      change 0).pledgesAt j = (dev.pledgesAt j).filter (·.clientId != c) := by
  have hmap : (recycleReserves c dev.cuList tmpSum).1.map CuData.pledges =
      (dev.cuList.map CuData.pledges).map (·.filter (·.clientId != c)) := by
    have hrec := recycleReserves_spec c dev.cuList tmpSum hcons
    generalize (recycleReserves c dev.cuList tmpSum).1 = cus at hrec
    generalize dev.cuList = cus₀ at hrec
    clear hcons
    induction hrec with
    | nil => rfl
    | cons hslots _ ih =>
        rw [List.map_cons, List.map_cons, List.map_cons, ih, CuData.SlotsRecycled.pledges hslots]
  show ((recycleReserves c dev.cuList tmpSum).1.map CuData.pledges)[j]?.getD [] = _
  rw [hmap, pledgesAt, List.getElem?_map]
  cases (dev.cuList.map CuData.pledges)[j]? <;> rfl

theorem recycleEntries_pledgesAt (hc : c ≠ 0) (rounds i : Nat) (dev : DeviceData)
    (hcons : ∀ cu ∈ dev.cuList, cu.Consistent) :
    (recycleEntries c rounds i dev).pledgesAt = dev.pledgesAt := by
  induction rounds generalizing i dev with
  | zero => rfl
  | succ rounds ih =>
      rw [recycleEntries]
      simp only
      split
      · have hleft := releaseAllCuChanClientOnDev_spec hc hcons
        rw [ih (i + 1) { dev.releaseAllCuChanClientOnDev c with
            clientProcs := (dev.releaseAllCuChanClientOnDev c).clientProcs.set i ClientData.zero }
          (forall₂_right hleft.cus fun _ _ h => h.consistent), ← hleft.pledgesAt]
        exact pledgesAt_congr rfl
      · exact ih (i + 1) dev hcons

/-- Only what was pledged to the client is gone. -/
theorem recycleOn_pledgesAt (hs : dev.Sound D) (hc : c ≠ 0) (tmpSum : Int) (j : Nat) :
    (dev.recycleOn c tmpSum).pledgesAt j = (dev.pledgesAt j).filter (·.clientId != c) := by
  have hcons := (hs.recycleReserves (c := c) tmpSum
    (recycleReserves c dev.cuList tmpSum).2).consistent
  rw [← recycleReserves_pledgesAt hs.consistent c tmpSum (recycleReserves c dev.cuList tmpSum).2 j,
    recycleOn]
  simp only
  generalize ({ dev with
    cuList := (recycleReserves c dev.cuList tmpSum).1 }.updateDeviceLoad
      (recycleReserves c dev.cuList tmpSum).2 0) = dev₁ at hcons
  split
  · split
    · rw [← (releaseAllCuChanClientOnDev_spec hc hcons).pledgesAt]
      exact congrFun (pledgesAt_congr rfl) j
    · rfl
  · rw [recycleEntries_pledgesAt hc _ _ dev₁ hcons]

/-! ### The ids of the pools -/

/-- No act names a pool that the device did not name. -/
theorem Act.issued (h : Act D dev dev') (hs : dev.Sound D) (hissued : dev.Issued n) :
    dev'.Issued n := by
  have hgrab : ∀ {prop : CuProperty} {svc cuId policyInfo chanId : Nat} {cu cu' : CuData}
      {preCu : Option CuData}, prop.Received → dev.cuList[cuId]? = some cu →
        cu.allocChanClientFromCu prop svc policyInfo preCu = .allocated cu' chanId →
          cu'.Issued n := by
    intro prop svc cuId policyInfo chanId cu cu' preCu hsent hcu halloc
    have hmem := List.mem_of_getElem? hcu
    obtain ⟨idx, halloc⟩ := CuData.allocated_of_allocChan (hs.consistent cu hmem) halloc
    exact (hissued cu hmem).allocated halloc (hs.consistent cu hmem) hsent
  have hleft : ∀ {c : Nat}, c ≠ 0 → (dev.releaseAllCuChanClientOnDev c).Issued n :=
    fun {c} hc => forall₂_forall (releaseAllCuChanClientOnDev_spec hc hs.consistent).cus
      fun cu hcu cu' h => (hissued cu hcu).cleared
        (by rw [CuData.pledges_follow h.slots]; exact fun _ hr => hr) h.channels
        (ChannelData.leave_or c)
  have hcongr : ∀ {dev₁ : DeviceData}, dev₁.cuList = dev.cuList → dev₁.Issued n :=
    fun hcus => by rw [Issued, hcus]; exact hissued
  cases h with
  | touch hc hload hreg => exact hcongr (by rw [dropClient_cuList, registered_cuList hreg])
  | @grab dev₁ prop _ cuId _ _ _ cu' _ hsent hsvc hreg hcu halloc =>
      have hcus : (dev₁.grant prop cuId cu').cuList = dev.cuList.set cuId cu' := by
        rw [System.grant_cuList, registered_cuList hreg]
      exact issued_set hissued hcus (hgrab hsent hcu halloc)
  | leak hD hload hc hreg => exact hcongr (registered_cuList hreg)
  | steal hD hsent hsvc hcu halloc =>
      exact issued_set hissued (System.grant_cuList _ _ _ _) (hgrab hsent hcu halloc)
  | overRelease hD hc => exact hcongr (dropClient_cuList _ _)
  | @takeAll svc c pid hD hload hsvc hc hidle =>
      refine takeAll_cus hissued fun cu hcu => ?_
      have hcons := hs.consistent cu hcu
      exact (hissued cu hcu).allocated (CuData.takeWhole_allocated hcons (hidle cu hcu) svc c pid)
        hcons (CuData.wholeProp_received pid hc)
  | @release cuId cu res hload hcu hres =>
      have hmem := List.mem_of_getElem? hcu
      obtain ⟨cu', hreleased, heq, -, -⟩ := dev.releaseCu_spec (hs.consistent _ hmem) hres cuId
      have hcus : (dev.releaseCu cuId cu res).1.cuList = dev.cuList.set cuId cu' := by
        rw [heq, setCu, (releaseChannels_frame hres _ dev _ hs.shape).cuList]
      exact issued_set hissued hcus ((hissued cu hmem).cleared
        (by rw [CuData.pledges_follow hreleased.slots]; exact fun _ hr => hr) hreleased.channels
        res.release_or)
  | @recycleReserves c hc tmpSum change hmeter =>
      refine forall₂_forall (recycleReserves_spec c dev.cuList tmpSum hs.consistent)
        fun cu hcu cu' h => ⟨fun r hr => ?_, ?_⟩
      swap
      · rw [h.users.channels]
        exact (hissued cu hcu).channels
      rw [h.pledges] at hr
      exact (hissued cu hcu).pledges r (List.mem_of_mem_filter hr)
  | recycleHolder hc hload hex hholder => exact hleft hc
  | recycleEntry hc hload hex hi hfound => exact hleft hc
  | clear hidle' hcus hload' hex hprocs => simp [Issued, hcus]
  | load hload hnumber hcus horder hload' hex hprocs hcurrent hrate =>
      exact fun cu hcu => .untouched (hcus cu hcu)
  | mark hcus hload hex hprocs hinfo => exact hcongr hcus

end DeviceData

end Xrm
