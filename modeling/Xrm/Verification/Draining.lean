import Xrm.Verification.CuTable
import Xrm.Verification.Following
import Xrm.Verification.Indices
import Xrm.Verification.Loans

/-! # Draining the channels

Whatever a request asks for, an allocation that succeeds takes at least one channel, and one that
fails gives back no more than it has taken. So allocating again and again comes to an end.
-/

namespace Xrm

open FixedTable Relation

variable {prop : CuProperty} {svc : Nat}

/-- 1 for a channel that carries a load. -/
def carries (chan : ChannelData) : Int := if chan.channelLoadUnified ≠ 0 then 1 else 0

theorem carries_nonneg (chan : ChannelData) : 0 ≤ carries chan := by
  rw [carries]
  split <;> omega

namespace CuData

variable {cu cu' : CuData}

instance (cu : CuData) : Decidable cu.Named := inferInstanceAs (Decidable (_ ∨ _ ∨ _))

/-- The channels that carry a load are counted. -/
structure Tallied (cu : CuData) : Prop where
  length : cu.channels.length = maxKernelChannels
  inUse : cu.numChanInuse = sumBy carries cu.channels

/-- The channels of a CU that can be named are counted right; those without a load belong to no
allocation. -/
structure Counts (cu : CuData) : Prop extends cu.Tallied where
  order : cu.InOrder
  idle : ∀ chan ∈ cu.channels, chan.channelLoadUnified = 0 → chan.allocServiceId = 0

def Countable (cu : CuData) : Prop := cu.Named → cu.Counts

/-- The channels that are left on a CU that can be named. -/
def spare (cu : CuData) : Int := if cu.Named then maxKernelChannels - cu.numChanInuse else 0

theorem Tallied.le (h : cu.Tallied) : cu.numChanInuse ≤ maxKernelChannels := by
  have hle := sumBy_le_sumBy (f := carries) (g := fun _ => 1) (l := cu.channels) fun chan _ => by
    rw [carries]
    split <;> omega
  have hone : sumBy (fun _ : ChannelData => (1 : Int)) cu.channels = cu.channels.length := by
    simp [sumBy]
  rw [h.inUse, ← h.length]
  omega

theorem Countable.spare_nonneg (h : cu.Countable) : 0 ≤ cu.spare := by
  rw [spare]
  split
  · rename_i hnamed
    have := (h hnamed).toTallied.le
    omega
  · exact le_refl 0

theorem Named.congr (h : cu'.toCuInfo = cu.toCuInfo) : cu'.Named ↔ cu.Named := by
  rw [Named, Named, h]

theorem Consistent.tallied (h : cu.Consistent) : cu.Tallied := by
  refine ⟨h.channels.length, ?_⟩
  rw [h.channels.inUse]
  refine sumBy_congr fun chan hchan => ?_
  rw [inService, carries]
  simp only [(h.channels.proper chan hchan).marks.1]

theorem Consistent.countable {any : Prop} (h : cu.Consistent) (hnum : cu.Numbered any) :
    cu.Countable := by
  intro hnamed
  refine ⟨h.tallied, hnum (.inl hnamed), fun chan hchan hload => ?_⟩
  by_contra hsvc
  have hmarks := (h.channels.proper chan hchan).marks
  exact hmarks.1.mpr (hmarks.2.mpr hsvc) hload

/-! ## Taking a channel -/

/-- The channel that is taken has carried no load. -/
theorem Tallied.takeChannel (h : cu.Tallied) {idx : Option Nat} {chanId : Nat}
    (htake : cu.takeChannel prop svc idx = .allocated cu' chanId) :
    cu' = cu.assignChannel prop svc idx chanId ∧
      ∃ hi : chanId < cu.channels.length, cu.channels[chanId].channelLoadUnified = 0 := by
  have hlen := h.length
  rw [CuData.takeChannel] at htake
  split at htake
  · rename_i hzero
    have hpos : 0 < cu.channels.length := by
      rw [hlen]
      decide
    rw [AllocChan.allocated.injEq] at htake
    obtain ⟨rfl, rfl⟩ := htake
    refine ⟨rfl, hpos, ?_⟩
    by_contra hload
    have hle : carries cu.channels[0] ≤ sumBy carries cu.channels :=
      le_sumBy (fun chan _ => carries_nonneg chan) (List.getElem_mem hpos)
    rw [carries, if_pos hload, ← h.inUse] at hle
    omega
  split at htake
  · split at htake
    · simp at htake
    · rename_i i hfind
      rw [AllocChan.allocated.injEq] at htake
      obtain ⟨rfl, rfl⟩ := htake
      rw [cuFindFreeChannelId] at hfind
      split at hfind
      · simp at hfind
      · rw [List.findIdx?_eq_some_iff_getElem] at hfind
        obtain ⟨hi, hload, -⟩ := hfind
        exact ⟨rfl, hi, by simpa using hload⟩
  · simp at htake

theorem Tallied.allocated (h : cu.Tallied) {policyInfo chanId : Nat} {preCu : Option CuData}
    (halloc : cu.allocChanClientFromCu prop svc policyInfo preCu = .allocated cu' chanId) :
    cu'.Tallied ∧ cu'.numChanInuse = cu.numChanInuse + 1 := by
  obtain ⟨hpos, idx, -, htake⟩ := allocChan_spec halloc
  obtain ⟨rfl, hi, hload⟩ := h.takeChannel htake
  refine ⟨⟨?_, ?_⟩, assignChannel_numChanInuse cu prop svc idx chanId⟩
  · rw [assignChannel_channels, List.length_modify]
    exact h.length
  · have hne : (cu.channels[chanId].occupy prop svc).channelLoadUnified ≠ 0 := by
      show prop.requestLoadUnified ≠ 0
      omega
    rw [assignChannel_numChanInuse, assignChannel_channels, sumBy_modify _ _ _ _ hi, h.inUse,
      carries, if_neg (by simpa using hload), carries, if_pos hne]
    omega

theorem Countable.allocated (h : cu.Countable) (hnamed : cu.Named)
    {policyInfo chanId : Nat} {preCu : Option CuData}
    (halloc : cu.allocChanClientFromCu prop svc policyInfo preCu = .allocated cu' chanId) :
    cu'.Countable ∧ cu'.spare = cu.spare - 1 := by
  obtain ⟨htallied, hnum⟩ := (h hnamed).toTallied.allocated halloc
  obtain ⟨hpos, idx, -, htake⟩ := allocChan_spec halloc
  obtain ⟨rfl, -⟩ := (h hnamed).takeChannel htake
  have hnamed' : (cu.assignChannel prop svc idx chanId).Named :=
    (Named.congr (assignChannel_toCuInfo cu prop svc idx chanId)).mpr hnamed
  refine ⟨fun _ => ⟨htallied, ?_, ?_⟩, ?_⟩
  · rw [InOrder, assignChannel_channels,
      map_modify_eq (f := ChannelData.occupy prop svc) fun _ => rfl]
    exact (h hnamed).order
  · intro chan hchan hzero
    rw [assignChannel_channels] at hchan
    obtain ⟨j, hj, rfl⟩ := List.mem_iff_getElem.mp hchan
    rw [List.getElem_modify] at hzero ⊢
    split at hzero
    · have hne : prop.requestLoadUnified ≠ 0 := by omega
      exact absurd hzero hne
    · rename_i hne
      rw [if_neg hne]
      exact (h hnamed).idle _ (List.getElem_mem _) hzero
  · rw [spare, spare, if_pos hnamed, if_pos hnamed', hnum]
    omega

end CuData

/-! ## Releasing -/

namespace DeviceData

variable {dev : DeviceData} {cu : CuData} {res : CuResource}

theorem returnLoad_counts (dev : DeviceData) (cu : CuData) (p : Nat) (load : Int) :
    (dev.returnLoad cu p load).2.toCuInfo = cu.toCuInfo ∧
      (dev.returnLoad cu p load).2.numChanInuse = cu.numChanInuse := by
  rw [returnLoad]
  split
  · split
    · split <;> exact ⟨rfl, rfl⟩
    · exact ⟨rfl, rfl⟩
  · exact ⟨rfl, rfl⟩

theorem releaseChannels_counts (res : CuResource) (chans : List ChannelData) (dev : DeviceData)
    (cu : CuData) :
    (releaseChannels res chans dev cu).channels = chans.map res.release ∧
      (releaseChannels res chans dev cu).cu.toCuInfo = cu.toCuInfo ∧
        (releaseChannels res chans dev cu).cu.numChanInuse =
          cu.numChanInuse - sumBy (namedBy res) chans := by
  induction chans generalizing dev cu with
  | nil => exact ⟨rfl, rfl, by simp [releaseChannels]⟩
  | cons chan chans ih =>
      rw [releaseChannels, List.map_cons, CuResource.release, sumBy_cons, namedBy]
      by_cases hn : res.names chan = true
      · obtain ⟨hinfo, hnum⟩ := dev.returnLoad_counts cu res.poolId chan.channelLoadUnified
        obtain ⟨hchans, hinfo', hnum'⟩ :=
          ih ((dev.returnLoad cu res.poolId chan.channelLoadUnified).1.dropClient res.clientId)
            { (dev.returnLoad cu res.poolId chan.channelLoadUnified).2 with
              numChanInuse :=
                (dev.returnLoad cu res.poolId chan.channelLoadUnified).2.numChanInuse - 1 }
        simp only [hn, if_true]
        refine ⟨by rw [hchans], hinfo'.trans hinfo, hnum'.trans ?_⟩
        simp only [hnum]
        omega
      · obtain ⟨hchans, hinfo, hnum⟩ := ih dev cu
        rw [if_neg hn, if_neg hn, if_neg hn, zero_add]
        exact ⟨by rw [← hchans], hinfo, hnum⟩

/-- A record names one channel at most. -/
theorem sumBy_namedBy_le (horder : cu.InOrder) (res : CuResource) :
    sumBy (namedBy res) cu.channels ≤ 1 := by
  have hzero : ∀ {chans : List ChannelData}, (∀ x ∈ chans, ¬res.names x = true) →
      sumBy (namedBy res) chans = 0 := fun hnot =>
    sumBy_eq_zero fun x hx => by rw [namedBy, if_neg (hnot x hx)]
  by_cases hsome : ∃ chan ∈ cu.channels, res.names chan = true
  · obtain ⟨chan, hchan, hn⟩ := hsome
    obtain ⟨i, hi⟩ := List.mem_iff_getElem?.mp hchan
    obtain ⟨pre, post, hsplit, hpre, hpost⟩ := names_split horder hi hn
    rw [hsplit, sumBy_append, sumBy_cons, hzero hpre, hzero hpost, namedBy, if_pos hn]
    omega
  · push Not at hsome
    rw [hzero fun x hx => by simpa using hsome x hx]
    omega

/-- A release gives back one channel at most. -/
theorem releaseCu_spare (dev : DeviceData) (h : cu.Countable) (hsvc : res.allocServiceId ≠ 0)
    (cuId : Nat) :
    ∃ cu' : CuData, (dev.releaseCu cuId cu res).1.cuList = dev.cuList.set cuId cu' ∧
      cu'.Countable ∧ cu'.spare ≤ cu.spare + 1 := by
  obtain ⟨hchans, hinfo, hnum⟩ := releaseChannels_counts res cu.channels dev cu
  refine ⟨_, congrArg (List.set · cuId _) (releaseChannels_cuList res cu.channels dev cu), ?_⟩
  -- whether the client leaves the CU makes no difference to its channels
  generalize hcu' : (if (releaseChannels res cu.channels dev cu).procChanCnt = 0 then
    ({ (releaseChannels res cu.channels dev cu).cu with
        channels := (releaseChannels res cu.channels dev cu).channels } :
        CuData).removeClientOnCu res.clientId
    else { (releaseChannels res cu.channels dev cu).cu with
        channels := (releaseChannels res cu.channels dev cu).channels }) = cu'
  have hinfo' : cu'.toCuInfo = cu.toCuInfo := by
    rw [← hcu', ← hinfo]
    split
    · rw [removeClientOnCu_toCuInfo]
    · rfl
  have hchans' : cu'.channels = cu.channels.map res.release := by
    rw [← hcu', ← hchans]
    split <;> simp
  have hnum' : cu'.numChanInuse = cu.numChanInuse - sumBy (namedBy res) cu.channels := by
    rw [← hcu', ← hnum]
    split <;> simp
  have hnamed := CuData.Named.congr hinfo'
  constructor
  · intro hn
    obtain ⟨⟨hlen, hinUse⟩, horder, hidle⟩ := h (hnamed.mp hn)
    refine ⟨⟨by rw [hchans', List.length_map, hlen], ?_⟩, ?_, ?_⟩
    rotate_left
    · rw [CuData.InOrder, hchans', map_channelId_eq res.release_or]
      exact horder
    · intro chan hchan hload
      rw [hchans'] at hchan
      obtain ⟨x, hx, rfl⟩ := List.mem_map.mp hchan
      rw [CuResource.release] at hload ⊢
      split at hload
      · rename_i hnx
        rw [if_pos hnx]
        rfl
      · rename_i hnx
        rw [if_neg hnx]
        exact hidle x hx hload
    · have hsplit : sumBy carries cu.channels =
          sumBy (fun chan => carries (res.release chan) + namedBy res chan) cu.channels := by
        refine sumBy_congr fun chan hchan => ?_
        rw [CuResource.release, namedBy]
        split
        · rename_i hnc
          have hload : chan.channelLoadUnified ≠ 0 := fun hzero => by
            have := hidle chan hchan hzero
            have := (CuResource.names_iff.mp hnc).1
            omega
          rw [carries, if_pos hload, carries, ChannelData.clear_load, if_neg (by simp)]
          rfl
        · rw [add_zero]
      rw [hnum', hchans', sumBy_map, hinUse, hsplit, sumBy_add]
      exact add_sub_cancel_right _ _
  · rw [CuData.spare, CuData.spare, hnum']
    by_cases hn : cu.Named
    · rw [if_pos (hnamed.mpr hn), if_pos hn]
      have := sumBy_namedBy_le (h hn).order res
      omega
    · rw [if_neg (fun hn' => hn (hnamed.mp hn')), if_neg hn]
      omega

end DeviceData

namespace System

variable {s s' s'' : System} {Q : CuProperty → Prop}

/-! ## The channels of the system -/

/-- The channels of all CUs can be counted. -/
def Countable (s : System) : Prop := ∀ dev ∈ s.devList, ∀ cu ∈ dev.cuList, cu.Countable

/-- What the CUs add up to. -/
def total (f : CuData → Int) (s : System) : Int := sumBy (fun dev => sumBy f dev.cuList) s.devList

theorem total_setDev (f : CuData → Int) {i : Nat} {dev : DeviceData}
    (hdev : s.devList[i]? = some dev) (dev' : DeviceData) :
    (s.setDev i dev').total f = s.total f - sumBy f dev.cuList + sumBy f dev'.cuList := by
  obtain ⟨hi, rfl⟩ := List.getElem?_eq_some_iff.mp hdev
  rw [total, total, System.setDev]
  simp only
  rw [set_eq_modify, sumBy_modify _ _ _ _ hi]

theorem total_setCu (f : CuData → Int) {i j : Nat} {dev dev' : DeviceData} {cu cu' : CuData}
    (hdev : s.devList[i]? = some dev) (hcu : dev.cuList[j]? = some cu)
    (hcus : dev'.cuList = dev.cuList.set j cu') :
    (s.setDev i dev').total f = s.total f - f cu + f cu' := by
  obtain ⟨hj, rfl⟩ := List.getElem?_eq_some_iff.mp hcu
  rw [total_setDev f hdev, hcus, set_eq_modify, sumBy_modify _ _ _ _ hj]
  omega

/-- The channels that are left. -/
def spare (s : System) : Int := s.total CuData.spare

theorem Sound.countable {D : Discipline} (h : s.Sound D) : s.Countable := fun dev hdev cu hcu =>
  ((h dev hdev).consistent cu hcu).countable ((h dev hdev).numbered cu hcu)

theorem Countable.spare_nonneg (h : s.Countable) : 0 ≤ s.spare :=
  sumBy_nonneg fun dev hdev => sumBy_nonneg fun cu hcu => (h dev hdev cu hcu).spare_nonneg

/-- A device is put back with other CUs. -/
theorem Countable.setDev (h : s.Countable) {dev' : DeviceData}
    (hcus : ∀ cu ∈ dev'.cuList, cu.Countable) (i : Nat) : (s.setDev i dev').Countable := by
  intro x hx cu hcu
  rcases List.mem_or_eq_of_mem_set hx with hx | rfl
  · exact h x hx cu hcu
  · exact hcus cu hcu

theorem Countable.setCu (h : s.Countable) {i j : Nat} {dev dev' : DeviceData} {cu cu' : CuData}
    (hdev : s.devList[i]? = some dev) (hcu : dev.cuList[j]? = some cu)
    (hcus : dev'.cuList = dev.cuList.set j cu') (hcu' : cu'.Countable) :
    (s.setDev i dev').Countable ∧ (s.setDev i dev').spare = s.spare - cu.spare + cu'.spare := by
  refine ⟨h.setDev (fun x hx => ?_) i, total_setCu CuData.spare hdev hcu hcus⟩
  rw [hcus] at hx
  rcases List.mem_or_eq_of_mem_set hx with hx | rfl
  · exact h dev (List.mem_of_getElem? hdev) x hx
  · exact hcu'

/-- At least `n` channels fewer are left. -/
def Spends (n : Int) (s s' : System) : Prop :=
  s.Countable → s'.Countable ∧ s'.spare + n ≤ s.spare

namespace Spends

variable {n m : Int}

theorem refl (s : System) : Spends 0 s s := fun h => ⟨h, by omega⟩

theorem trans (h : Spends n s s') (h' : Spends m s' s'') : Spends (n + m) s s'' := fun hs => by
  obtain ⟨hs', hn⟩ := h hs
  obtain ⟨hs'', hm⟩ := h' hs'
  exact ⟨hs'', by omega⟩

theorem mono (h : Spends n s s') (hle : m ≤ n) : Spends m s s' := fun hs => by
  obtain ⟨hs', hn⟩ := h hs
  exact ⟨hs', by omega⟩

theorem of_devs (h : Spends n s s') (hdevs : s''.devList = s'.devList) : Spends n s s'' := by
  intro hs
  rw [Countable, spare, total, hdevs]
  exact h hs

end Spends

/-! ## Single allocations and releases -/

theorem Touched.spends (h : Touched prop s s') : Spends 0 s s' := by
  induction h with
  | refl => exact .refl s
  | tail _ hstep ih =>
      obtain ⟨i, dev, dev', hdev, htouch, rfl⟩ := hstep
      have hsame : Spends 0 _ _ := fun hs => by
        have hcus := hs _ (List.mem_of_getElem? hdev)
        rw [← htouch.cuList] at hcus
        have hspare := total_setDev CuData.spare hdev dev'
        rw [htouch.cuList] at hspare
        exact ⟨hs.setDev hcus i, by rw [spare, spare, hspare]; omega⟩
      exact (ih.trans hsame).mono (by omega)

theorem spends_grab (hnamed : prop.unnamed = false) {i : Nat} {dev dev' : DeviceData}
    {res : CuResource} (hdev : s.devList[i]? = some dev)
    (hgrab : DeviceData.Grab prop svc i dev dev' res) : Spends 1 s (s.setDev i dev') := by
  obtain ⟨dev₁, policyInfo, cuId, cu', chanId, hreg, ⟨cu, pre, hcu, hmatch, halloc⟩, rfl, -⟩ :=
    hgrab
  intro hs
  obtain ⟨hcount, hone⟩ := (hs dev (List.mem_of_getElem? hdev) cu
    (List.mem_of_getElem? hcu)).allocated (CuData.named_of_matches hnamed hmatch) halloc
  obtain ⟨info, hgrant⟩ := dev₁.grant_frame prop cuId cu'
  have hcus : (dev₁.grant prop cuId cu').cuList = dev.cuList.set cuId cu' := by
    rw [hgrant, ← DeviceData.registered_cuList hreg]
    rfl
  obtain ⟨hs', hspare⟩ := hs.setCu hdev hcu hcus hcount
  exact ⟨hs', by omega⟩

theorem Attempt.spends {res : CuResource} (hnamed : prop.unnamed = false)
    (h : Attempt prop svc s s' (some res)) : Spends 1 s s' := by
  cases h with
  | acquired htouch hdev hgrab => exact htouch.spends.trans (spends_grab hnamed hdev hgrab)

/-- A release gives back one channel at most. -/
theorem spends_release {res : CuResource} (hsvc : res.allocServiceId ≠ 0) :
    Spends (-1) s (s.resReleaseCu res).1 := by
  have hnone : Spends (-1) s s := (Spends.refl s).mono (by omega)
  rw [resReleaseCu]
  split
  · exact hnone
  split
  · exact hnone
  split
  · exact hnone
  split
  · exact hnone
  rename_i dev hdev
  split
  · exact hnone
  split
  · exact hnone
  rename_i cu hcu
  show Spends (-1) s (s.setDev _ (dev.releaseCu _ cu res).1)
  intro hs
  obtain ⟨cu', hcus, hcount, hone⟩ := dev.releaseCu_spare
    (hs dev (List.mem_of_getElem? hdev) cu (List.mem_of_getElem? hcu)) hsvc res.cuId.toNat
  obtain ⟨hs', hspare⟩ := hs.setCu hdev hcu hcus hcount
  exact ⟨hs', by omega⟩

theorem spends_releaseInOrder (l : List CuResource) (hl : ∀ res ∈ l, res.allocServiceId ≠ 0)
    (s : System) : Spends (-l.length) s (releaseInOrder l s).1 := by
  induction l generalizing s with
  | nil => exact .refl s
  | cons res rest ih =>
      have hone := spends_release (s := s) (hl res (by simp))
      rw [releaseInOrder, List.length_cons]
      split
      · rename_i s₁ heq
        rw [heq] at hone
        exact (hone.trans (ih (fun r hr => hl r (by simp [hr])) s₁)).mono (by omega)
      · rename_i s₁ e heq
        rw [heq] at hone
        exact hone.mono (by omega)

/-! ## Allocations -/

/-- An allocation that takes a channel when it succeeds, and none when it fails. -/
structure Drains {α : Type} (alloc : System → System × Except XrmError α) : Prop where
  ok : ∀ {s s' a}, alloc s = (s', .ok a) → Spends 1 s s'
  error : ∀ {s s' e}, alloc s = (s', .error e) → Spends 0 s s'

theorem Drains.of_results {α : Type} {alloc : System → System × Except XrmError α}
    (h : ∀ s, (∀ a, (alloc s).2 = .ok a → Spends 1 s (alloc s).1) ∧
      ∀ e, (alloc s).2 = .error e → Spends 0 s (alloc s).1) : Drains alloc where
  ok {s s' a} heq := by
    have hok := (h s).1 a
    rw [heq] at hok
    exact hok rfl
  error {s s' e} heq := by
    have herror := (h s).2 e
    rw [heq] at herror
    exact herror rfl

theorem Allocates.spends {updateId : Bool} {r : System × Except XrmError CuResource}
    (h : Allocates prop updateId s r) :
    (∀ res, r.2 = .ok res → Spends 1 s r.1) ∧ ∀ e, r.2 = .error e → Spends 0 s r.1 := by
  cases h with
  | failed h => exact ⟨by simp, fun _ _ => h.spends⟩
  | granted hnamed h =>
      refine ⟨fun _ _ => (h.spends hnamed).of_devs ?_, by simp [finishAlloc]⟩
      rw [finishAlloc]
      split <;> rfl

theorem drains_resAllocCu (prop : CuProperty) (updateId : Bool) :
    Drains fun s => s.resAllocCu prop updateId :=
  .of_results fun s => (resAllocCu_allocates s prop updateId).spends

/-! ### Lists -/

theorem Taken.allocServiceId {done : List CuResource} (h : Taken Q svc s s' done) :
    ∀ res ∈ done, res.allocServiceId = svc := by
  induction h with
  | start => simp
  | touch _ _ _ ih => exact ih
  | grab _ _ _ _ hg ih =>
      obtain ⟨dev₁, policyInfo, cuId, cu', chanId, -, -, -, rfl⟩ := hg
      intro res hres
      rcases List.mem_append.mp hres with hres | hres
      · exact ih res hres
      · rw [List.mem_singleton.mp hres]
        rfl

theorem Taken.spends {done : List CuResource} (h : Taken Q svc s s' done) :
    Spends done.length s s' := by
  induction h with
  | start => exact .refl s
  | touch _ _ ht ih => exact (ih.trans (Touched.spends (.single ht))).mono (by omega)
  | grab _ hnamed _ hdev hg ih =>
      refine (ih.trans (spends_grab hnamed hdev hg)).mono ?_
      rw [List.length_append, List.length_singleton]
      omega

/-- What has been taken is given back. -/
theorem Taken.undone (hsvc : svc ≠ 0) {done : List CuResource} (h : Taken Q svc s s' done) :
    Spends 0 s (releaseInOrder done s').1 := by
  refine (h.spends.trans (spends_releaseInOrder done (fun res hres => ?_) s')).mono (by omega)
  rw [h.allocServiceId res hres]
  exact hsvc

theorem Progress.spends (hsvc : svc ≠ 0) {r : System × Option (List CuResource)}
    (h : Progress Q svc s r) :
    (∀ done, r.2 = some done → Spends done.length s r.1) ∧ (r.2 = none → Spends 0 s r.1) := by
  rcases h with ⟨done, hdone, h⟩ | ⟨s₁, done, hnone, h, heq⟩
  · refine ⟨fun done' hdone' => ?_, fun hnone => by simp [hdone] at hnone⟩
    rw [hdone, Option.some.injEq] at hdone'
    exact hdone' ▸ h.spends
  · refine ⟨fun done' hdone' => by simp [hnone] at hdone', fun _ => ?_⟩
    rw [heq]
    exact h.undone hsvc

theorem SameDevice.spends (hsvc : svc ≠ 0) {r : System × Option (Nat × List CuResource)}
    (h : SameDevice Q svc s r) :
    (∀ devId done, r.2 = some (devId, done) → Spends done.length s r.1) ∧
      (r.2 = none → Spends 0 s r.1) := by
  induction h with
  | failed => exact ⟨by simp, fun _ => .refl _⟩
  | found h =>
      refine ⟨fun devId done hr => ?_, by simp⟩
      rw [Option.some.injEq, Prod.mk.injEq] at hr
      exact hr.2 ▸ h.spends
  | retry h _ ih =>
      have hback := h.undone hsvc
      exact ⟨fun devId done hr => (hback.trans (ih.1 devId done hr)).mono (by omega),
        fun hr => (hback.trans (ih.2 hr)).mono (by omega)⟩

theorem drains_resAllocCuList {listProp : CuListProperty} (hitems : listProp.items ≠ []) :
    Drains fun s => s.resAllocCuList listProp := by
  have hpos := List.length_pos_iff.mpr hitems
  have hboth : ∀ s : System, (∀ a, (s.resAllocCuList listProp).2 = .ok a →
      Spends 1 s (s.resAllocCuList listProp).1) ∧
        ∀ e, (s.resAllocCuList listProp).2 = .error e →
          Spends 0 s (s.resAllocCuList listProp).1 := by
    intro s
    rw [resAllocCuList]
    split
    · exact ⟨by simp, fun _ _ => .refl s⟩
    split
    · have hsame := (allocOnSameDevice_spec (Q := fun _ => True) listProp.items
        (fun _ _ => trivial) [] (List.range s.numDevice) s rfl).spends (nextId_ne_zero _)
      split
      · rename_i s₁ devId done heq
        rw [heq] at hsame
        have hlength := allocOnSameDevice_length heq
        exact ⟨fun _ _ => ((hsame.1 devId done rfl).of_devs rfl).mono (by omega), by simp⟩
      · rename_i heq
        rw [heq] at hsame
        exact ⟨by simp, fun _ _ => hsame.2 rfl⟩
    · have hprogress := (allocItems_progress (Q := fun _ => True) listProp.items
        (fun _ _ => trivial) s [] rfl .start).spends (nextId_ne_zero _)
      split
      · rename_i s₁ done heq
        rw [heq] at hprogress
        have hlength := allocItems_length heq
        rw [List.length_nil] at hlength
        exact ⟨fun _ _ => ((hprogress.1 done rfl).of_devs rfl).mono (by omega), by simp⟩
      · rename_i heq
        rw [heq] at hprogress
        exact ⟨by simp, fun _ _ => hprogress.2 rfl⟩
  exact .of_results hboth

/-! ### Lists with device constraints -/

/-- 1 for an item that is marked allocated. -/
def taken (flag : ItemFlag) : Int := if flag.allocated then 1 else 0

theorem taken_nonneg (flag : ItemFlag) : 0 ≤ taken flag := by
  rw [taken]
  split <;> omega

/-- Of the results only those of marked items are released. -/
theorem spends_releaseAllocated (flags : List ItemFlag) (results : List CuResource) (s : System)
    (h : ∀ (i : Nat) (flag : ItemFlag) (res : CuResource), flags[i]? = some flag →
      results[i]? = some res → flag.allocated = true → res.allocServiceId ≠ 0) :
    Spends (-sumBy taken flags) s (releaseAllocated flags results s) := by
  have hself : Spends (-sumBy taken flags) s s := (Spends.refl s).mono (by
    have := sumBy_nonneg (f := taken) (l := flags) fun flag _ => taken_nonneg flag
    omega)
  induction flags generalizing results s with
  | nil => exact hself
  | cons flag flags ih =>
      cases results with
      | nil => exact hself
      | cons res results =>
          have hrest := fun s => ih results s (fun i f r hf hr ha => h (i + 1) f r hf hr ha)
            ((Spends.refl s).mono (by
              have := sumBy_nonneg (f := taken) (l := flags) fun flag _ => taken_nonneg flag
              omega))
          rw [releaseAllocated, sumBy_cons, taken]
          split
          · rename_i hallocated
            exact ((spends_release (h 0 flag res rfl rfl hallocated)).trans (hrest _)).mono
              (by omega)
          · exact (hrest s).mono (by omega)

theorem sumBy_taken_markHandled (flags : List ItemFlag) (indices : List Nat) :
    sumBy taken (markHandled flags indices) = sumBy taken flags := by
  induction indices generalizing flags with
  | nil => rfl
  | cons i indices ih =>
      rw [markHandled, List.foldl_cons, ← markHandled, ih, sumBy, sumBy,
        map_modify_eq (g := taken) (f := fun flag => { flag with handled := true }) fun _ => rfl]

theorem sumBy_taken_record (st : ListV2State) (index : Nat) (res : CuResource) :
    sumBy taken (st.record index res).itemFlags ≤ sumBy taken st.itemFlags + 1 := by
  rw [ListV2State.record]
  simp only
  by_cases hi : index < st.itemFlags.length
  · have hnonneg := taken_nonneg st.itemFlags[index]
    rw [sumBy_modify _ _ _ _ hi]
    simp only [taken, if_true] at hnonneg ⊢
    omega
  · rw [List.modify_eq_self (by omega)]
    omega

theorem sumBy_taken_recordAll (st : ListV2State) (indices : List Nat) (results : List CuResource) :
    sumBy taken (st.recordAll indices results).itemFlags ≤
      sumBy taken st.itemFlags + results.length := by
  induction indices generalizing st results with
  | nil =>
      rw [ListV2State.recordAll]
      omega
      simp
  | cons index indices ih =>
      cases results with
      | nil =>
          rw [ListV2State.recordAll, List.length_nil]
          omega
          simp
      | cons res results =>
          have hone := sumBy_taken_record st index res
          have hrest := ih (st.record index res) results
          rw [ListV2State.recordAll, List.length_cons]
          omega

/-- What a part of the item loop has done: of the channels at least as many are gone as items have
been marked. -/
structure Marks (st st' : ListV2State) (n : Int) : Prop where
  results : st'.Results fun res => res.allocServiceId ≠ 0
  spends : Spends n st.s st'.s
  marked : sumBy taken st'.itemFlags ≤ sumBy taken st.itemFlags + n

theorem Allocates.allocServiceId {updateId : Bool} {r : System × Except XrmError CuResource}
    (h : Allocates prop updateId s r) {res : CuResource} (hres : r.2 = .ok res) :
    res.allocServiceId ≠ 0 := by
  cases h with
  | failed h => simp at hres
  | granted _ h =>
      simp only [finishAlloc, Except.ok.injEq] at hres
      subst hres
      cases h with
      | acquired _ _ hgrab =>
          obtain ⟨dev₁, policyInfo, cuId, cu', chanId, -, -, -, rfl⟩ := hgrab
          exact nextId_ne_zero _

theorem SameDevice.allocServiceId {r : System × Option (Nat × List CuResource)}
    (h : SameDevice Q svc s r) {devId : Nat} {done : List CuResource}
    (hr : r.2 = some (devId, done)) : ∀ res ∈ done, res.allocServiceId = svc := by
  induction h with
  | failed => simp at hr
  | found h =>
      rw [Option.some.injEq, Prod.mk.injEq] at hr
      exact hr.2 ▸ h.allocServiceId
  | retry _ _ ih => exact ih hr

section Items

variable {st : ListV2State}

/-- An item of its own. -/
theorem Allocates.marks {updateId : Bool} {r : System × Except XrmError CuResource}
    (h : Allocates prop updateId st.s r) (hst : st.Results fun res => res.allocServiceId ≠ 0)
    (index : Nat) :
    (∀ res, r.2 = .ok res → Marks st ({ st with s := r.1 }.record index res) 1) ∧
      ∀ e, r.2 = .error e → Marks st { st with s := r.1 } 0 := by
  refine ⟨fun res hres => ⟨?_, h.spends.1 res hres, ?_⟩, fun e he => ⟨hst, h.spends.2 e he, ?_⟩⟩
  · exact ListV2State.Results.record (hst.setSystem r.1) index (h.allocServiceId hres)
  · exact sumBy_taken_record _ index res
  · simp

/-- One round of the item loop. -/
theorem allocItemV2_marks {props : List CuPropertyV2} {index : Nat} {propV2 : CuPropertyV2}
    (hprop : props[index]? = some propV2) (rest : List Nat)
    (hst : st.Results fun res => res.allocServiceId ≠ 0) :
    ((allocItemV2 props index propV2 rest st).2 = .ok () →
        ∃ n, 1 ≤ n ∧ Marks st (allocItemV2 props index propV2 rest st).1 n) ∧
      ((allocItemV2 props index propV2 rest st).2 ≠ .ok () →
        Marks st (allocItemV2 props index propV2 rest st).1 0) := by
  rw [allocItemV2]
  simp only
  split
  · have hone := (st.s.resAllocCu_allocates (cuPropertyCopyFromV2 propV2) false).marks hst index
    split
    · rename_i s₁ res heq
      rw [heq] at hone
      exact ⟨fun _ => ⟨1, le_refl 1, hone.1 res rfl⟩, by simp⟩
    · rename_i s₁ e heq
      rw [heq] at hone
      exact ⟨by simp, fun _ => hone.2 e rfl⟩
  split
  · have hone := (st.s.resAllocCuFromDev_allocates (i32 propV2.deviceIndex)
      (cuPropertyCopyFromV2 propV2) false).marks hst index
    split
    · rename_i s₁ res heq
      rw [heq] at hone
      exact ⟨fun _ => ⟨1, le_refl 1, hone.1 res rfl⟩, by simp⟩
    · rename_i s₁ e heq
      rw [heq] at hone
      exact ⟨by simp, fun _ => hone.2 e rfl⟩
  split
  · generalize hindices : index :: subListIndices props st.itemFlags propV2.deviceIndex rest =
      indices
    have hmarked := sumBy_taken_markHandled st.itemFlags indices
    have hsame := allocOnSameDevice_spec (Q := fun _ => True)
      ((indices.filterMap fun i => props[i]?).map cuPropertyCopyFromV2) (fun _ _ => trivial)
      st.usedDevIds (List.range st.s.numDevice) st.s rfl
    have hspends := hsame.spends (nextId_ne_zero _)
    split
    · rename_i s₁ devId done heq
      rw [heq] at hsame hspends
      have hlength := allocOnSameDevice_length heq
      have hpos : 1 ≤ done.length := by
        rw [hlength, ← hindices, List.filterMap_cons, hprop]
        simp
      refine ⟨fun _ => ⟨done.length, by omega, ?_, ?_, ?_⟩, by simp⟩
      · refine ListV2State.Results.recordAll ((hst.marked indices).setSystem s₁) indices done
          fun res hres => ?_
        rw [hsame.allocServiceId rfl res hres]
        exact nextId_ne_zero _
      · simp only [ListV2State.recordAll_s]
        exact hspends.1 devId done rfl
      · have hrecord := sumBy_taken_recordAll
          { st with s := s₁, itemFlags := markHandled st.itemFlags indices } indices done
        simp only at hrecord ⊢
        omega
    · rename_i s₁ heq
      rw [heq] at hspends
      exact ⟨by simp, fun _ => ⟨hst.marked indices, hspends.2 rfl, by simp [hmarked]⟩⟩
  · exact ⟨by simp, fun _ => ⟨hst, .refl st.s, by simp⟩⟩

theorem Marks.trans {st' st'' : ListV2State} {n m : Int} (h : Marks st st' n)
    (h' : Marks st' st'' m) : Marks st st'' (n + m) :=
  ⟨h'.results, h.spends.trans h'.spends, by have := h.marked; have := h'.marked; omega⟩

theorem marks_markHandled (hst : st.Results fun res => res.allocServiceId ≠ 0)
    (indices : List Nat) : Marks st { st with itemFlags := markHandled st.itemFlags indices } 0 :=
  ⟨hst.marked indices, .refl st.s, by simp [sumBy_taken_markHandled]⟩

/-- The item loop. Where it comes to an item, it takes a channel for it or ends. -/
theorem allocItemsV2_marks (props : List CuPropertyV2) (indices : List Nat)
    (hst : st.Results fun res => res.allocServiceId ≠ 0) :
    ∃ n, 0 ≤ n ∧ Marks st (allocItemsV2 props indices st).1 n ∧
      ((allocItemsV2 props indices st).2 = .ok () → ∀ index propV2, indices.head? = some index →
        props[index]? = some propV2 → (st.itemFlags.getD index ⟨false, false⟩).handled = false →
          1 ≤ n) := by
  induction indices generalizing st with
  | nil => exact ⟨0, le_refl 0, ⟨hst, .refl st.s, by simp [allocItemsV2]⟩, by simp⟩
  | cons index rest ih =>
      rw [allocItemsV2]
      split
      · rename_i hhandled
        obtain ⟨n, hn, hmarks, -⟩ := ih hst
        refine ⟨n, hn, hmarks, fun _ i propV2 hi _ hnot => ?_⟩
        obtain rfl : index = i := by simpa using hi
        rw [hhandled] at hnot
        cases hnot
      split
      · rename_i hnone
        obtain ⟨n, hn, hmarks, -⟩ := ih hst
        refine ⟨n, hn, hmarks, fun _ i propV2 hi hsome _ => ?_⟩
        obtain rfl : index = i := by simpa using hi
        rw [hnone] at hsome
        cases hsome
      rename_i propV2 hprop
      have hmark := marks_markHandled hst [index]
      obtain ⟨hok, herror⟩ := allocItemV2_marks hprop rest hmark.results
      simp only
      split
      · rename_i st₁ heq
        rw [heq] at hok
        obtain ⟨n, hn, hone⟩ := hok rfl
        obtain ⟨m, hm, hrest, -⟩ := ih hone.results
        exact ⟨0 + n + m, by omega, (hmark.trans hone).trans hrest, fun _ _ _ _ _ _ => by omega⟩
      · rename_i st₁ e heq
        rw [heq] at herror
        exact ⟨0 + 0, by omega, hmark.trans (herror (by simp)), by simp⟩

end Items

theorem drains_resAllocCuListV2 {listProp : CuListPropertyV2} (hitems : listProp.items ≠ []) :
    Drains fun s => s.resAllocCuListV2 listProp := by
  refine .of_results fun s => ?_
  rw [resAllocCuListV2]
  split
  · exact ⟨by simp, fun _ _ => .refl s⟩
  have hzero : sumBy taken (listProp.items.map fun _ => (⟨false, false⟩ : ItemFlag)) = 0 :=
    sumBy_eq_zero fun flag hflag => by
      obtain ⟨_, -, rfl⟩ := List.mem_map.mp hflag
      rfl
  obtain ⟨n, hn, hmarks, hpos⟩ := allocItemsV2_marks listProp.items
    (List.range listProp.items.length) (ListV2State.results_start
      (fun res => res.allocServiceId ≠ 0) s listProp.items
      (listProp.items.map fun _ => CuResource.zero))
  simp only
  split
  · rename_i st heq
    rw [heq] at hmarks hpos
    refine ⟨fun _ _ => (hmarks.spends.of_devs rfl).mono ?_, by simp⟩
    cases hprops : listProp.items with
    | nil => exact absurd hprops hitems
    | cons propV2 props =>
        refine hpos rfl 0 propV2 ?_ (by rw [hprops]; rfl) (by simp [hprops])
        rw [hprops, List.length_cons, List.range_succ_eq_map]
        rfl
  · rename_i st e heq
    rw [heq] at hmarks
    have hmarked := hmarks.marked
    simp only [hzero] at hmarked
    have hback := spends_releaseAllocated st.itemFlags st.cuResources st.s hmarks.results
    exact ⟨by simp, fun _ _ => (hmarks.spends.trans hback).mono (by omega)⟩

/-! ### Groups -/

/-- Of the optional lists of a group one is taken. -/
theorem drains_allocOptions {α : Type}
    {alloc : System → α → System × Except XrmError CuListResource} {options : List α}
    (h : ∀ option ∈ options, Drains fun s => alloc s option) (e : XrmError) :
    Drains fun s => allocOptions alloc options s e := by
  refine .of_results fun s => ?_
  induction options generalizing s e with
  | nil => exact ⟨by simp [allocOptions], fun _ _ => .refl s⟩
  | cons option options ih =>
      have hone := h option (by simp)
      rw [allocOptions]
      split
      · rename_i heq
        exact ⟨fun _ _ => hone.ok heq, by simp⟩
      · rename_i s₁ e₁ heq
        obtain ⟨hok, herror⟩ := ih (fun o ho => h o (by simp [ho])) e₁ s₁
        exact ⟨fun a ha => ((hone.error heq).trans (hok a ha)).mono (by omega),
          fun e' he' => ((hone.error heq).trans (herror e' he')).mono (by omega)⟩

end System

end Xrm
