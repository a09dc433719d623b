import Xrm.Verification.Scenario

/-! # Giving back several resources

A pool is relinquished CU by CU and a list is released record by record. Both loops end at the
first obstacle, and what they have given back before stays given back.
-/

namespace Xrm

open FixedTable

/-! ## Relinquishing a pool -/

/-- `cu'` is `cu` without what pool `p` had reserved on it. -/
structure CuData.WithoutPool (p : Nat) (cu cu' : CuData) : Prop where
  users : cu.SameUsers cu'
  numChanInuse : cu'.numChanInuse = cu.numChanInuse
  slots : cu'.slots = cu.slots.filter (·.reservePoolId != p)
  total : cu'.totalUsedLoadUnified = cu.totalUsedLoadUnified -
    sumBy (·.reserveLoadUnified) (cu.slots.filter (·.reservePoolId == p))
  reserved : cu'.totalReservedLoadUnified = cu.totalReservedLoadUnified -
    sumBy (·.reserveLoadUnified) (cu.slots.filter (·.reservePoolId == p))

/-- A list with one entry for the key, split there. -/
theorem filter_of_nodup_key {α : Type} {key : α → Nat} {l : List α} (hnodup : (l.map key).Nodup)
    {i : Nat} (hi : i < l.length) :
    l.filter (key · == key l[i]) = [l[i]] ∧ l.filter (key · != key l[i]) = l.eraseIdx i := by
  induction l generalizing i with
  | nil => simp at hi
  | cons a l ih =>
      rw [List.map_cons, List.nodup_cons] at hnodup
      cases i with
      | zero =>
          have hne : ∀ b ∈ l, key b ≠ key a := fun b hb heq =>
            hnodup.1 (List.mem_map.mpr ⟨b, hb, heq⟩)
          rw [List.getElem_cons_zero, List.filter_cons, List.filter_cons, List.eraseIdx_cons_zero]
          constructor
          · simpa [List.filter_eq_nil_iff] using hne
          · simpa [List.filter_eq_self] using hne
      | succ i =>
          have hi : i < l.length := by simpa using hi
          have hne : key a ≠ key l[i] := fun heq =>
            hnodup.1 (List.mem_map.mpr ⟨_, List.getElem_mem hi, heq.symm⟩)
          obtain ⟨hone, hothers⟩ := ih hnodup.2 hi
          rw [List.getElem_cons_succ, List.filter_cons, List.filter_cons, List.eraseIdx_cons_succ]
          simp [hne, hone, hothers]

theorem CuData.Consistent.withoutPool {cu : CuData} (hcu : cu.Consistent) {p : Nat}
    (hb : cu.blocks p = false) : CuData.WithoutPool p cu (cu.relinquished p) := by
  rcases CuData.relinquished_cases p hcu hb with ⟨heq, hnone⟩ | ⟨i, hi, hp, hused, hremoved⟩
  · have hno : cu.slots.filter (·.reservePoolId == p) = [] := by
      simpa [List.filter_eq_nil_iff] using hnone
    have hall : cu.slots.filter (·.reservePoolId != p) = cu.slots := by
      simpa [List.filter_eq_self] using hnone
    rw [heq]
    exact ⟨CuData.SameUsers.refl cu, rfl, hall.symm, by rw [hno]; simp, by rw [hno]; simp⟩
  · have hnodup : (cu.slots.map (·.reservePoolId)).Nodup := hcu.slots.nodup
    obtain ⟨hone, hothers⟩ := filter_of_nodup_key hnodup hi
    rw [hp] at hone hothers
    have hslot := hcu.slot_eq hi
    refine ⟨hremoved.users, hremoved.numChanInuse, hremoved.slots.trans hothers.symm, ?_, ?_⟩
    · rw [hremoved.total, hone, hslot, ReserveData.unused, hused]
      simp
    · rw [hremoved.reserved, hone, hslot]
      simp

/-- A CU blocks a pool whose slot on it is in use. -/
theorem CuData.Consistent.blocks_iff {cu : CuData} (hcu : cu.Consistent) (p : Nat) :
    cu.blocks p = true ↔
      ∃ r ∈ cu.slots, r.reservePoolId = p ∧ r.reserveUsedLoadUnified ≠ 0 := by
  rw [CuData.blocks]
  cases hfind : cu.slots.findIdx? (·.reservePoolId == p) with
  | none =>
      rw [List.findIdx?_eq_none_iff] at hfind
      refine iff_of_false (by simp) ?_
      rintro ⟨r, hr, hp, -⟩
      simpa [hp] using hfind r hr
  | some i =>
      rw [List.findIdx?_eq_some_iff_getElem] at hfind
      obtain ⟨hi, hp, -⟩ := hfind
      have hp : cu.slots[i].reservePoolId = p := by simpa using hp
      have hnodup : (cu.slots.map (·.reservePoolId)).Nodup := hcu.slots.nodup
      obtain ⟨hone, -⟩ := filter_of_nodup_key hnodup hi
      rw [hp] at hone
      simp only [bne_iff_ne, hcu.slot_eq hi]
      constructor
      · exact fun hused => ⟨_, List.getElem_mem hi, hp, hused⟩
      · rintro ⟨r, hr, hpr, hused⟩
        have hmem : r ∈ cu.slots.filter (·.reservePoolId == p) :=
          List.mem_filter.mpr ⟨hr, by simpa using hpr⟩
        rw [hone, List.mem_singleton] at hmem
        rwa [← hmem]

/-- The CUs after the loop: those in front of the first one that blocks the pool have lost
their slot of it. -/
def relinquishedUpTo (p : Nat) (cus : List CuData) : List CuData :=
  (cus.takeWhile fun cu => !cu.blocks p).map (·.relinquished p) ++
    cus.dropWhile fun cu => !cu.blocks p

theorem relinquishedUpTo_append (p : Nat) (cus cus' : List CuData) :
    relinquishedUpTo p (cus ++ cus') = relinquishedUpTo p cus ++
      if cus.all (fun cu => !cu.blocks p) then relinquishedUpTo p cus' else cus' := by
  induction cus with
  | nil => rfl
  | cons cu cus ih =>
      rw [relinquishedUpTo, relinquishedUpTo] at ih
      cases hb : cu.blocks p with
      | true => simp [relinquishedUpTo, hb]
      | false => simp [relinquishedUpTo, hb, ih]

namespace DeviceData

/-- The load record of a device may change and the accounts of its CUs. -/
def SameButAccounts (dev dev' : DeviceData) : Prop :=
  dev' = { dev with cuList := dev'.cuList, devLoadInfo := dev'.devLoadInfo } ∧
    dev'.cuList.length = dev.cuList.length

theorem relinquishDev_spec {dev : DeviceData} (p : Nat)
    (hunloaded : dev.isLoaded = false → dev.cuList = []) :
    dev.SameButAccounts (dev.relinquishDev p).1 ∧
      (dev.relinquishDev p).1.cuList = relinquishedUpTo p dev.cuList ∧
      (dev.relinquishDev p).2 = dev.cuList.all fun cu => !cu.blocks p := by
  rw [relinquishDev]
  split
  · rename_i hload
    rw [hunloaded (by simpa using hload)]
    exact ⟨⟨rfl, rfl⟩, rfl, rfl⟩
  · obtain ⟨hsame, hcus, hdone⟩ := relinquishCus_spec p dev.cuList dev
    refine ⟨⟨?_, ?_⟩, hcus, hdone⟩
    · rw [SameButLoad] at hsame
      show ({ (relinquishCus p dev.cuList dev).1 with
          cuList := (relinquishCus p dev.cuList dev).2.1 } : DeviceData) =
        { dev with
          cuList := (relinquishCus p dev.cuList dev).2.1
          devLoadInfo := (relinquishCus p dev.cuList dev).1.devLoadInfo }
      rw [hsame]
    · show (relinquishCus p dev.cuList dev).2.1.length = _
      rw [hcus, List.length_append, List.length_map, ← List.length_append,
        List.takeWhile_append_dropWhile]

end DeviceData

namespace System

variable {D : Discipline} {s s' : System} {p : Nat}

/-- The CUs of all devices, in the order of the loops. -/
def cus (s : System) : List CuData := s.devList.flatMap (·.cuList)

/-- The loop over the devices, on the part of the table that is left. -/
inductive RelinquishedDevs (p : Nat) : List DeviceData → List DeviceData → Bool → Prop where
  | nil : RelinquishedDevs p [] [] true
  | next {dev dev' : DeviceData} {devs devs' : List DeviceData} {done : Bool}
      (h : dev.relinquishDev p = (dev', true)) (hrest : RelinquishedDevs p devs devs' done) :
      RelinquishedDevs p (dev :: devs) (dev' :: devs') done
  | stopped {dev dev' : DeviceData} {devs : List DeviceData}
      (h : dev.relinquishDev p = (dev', false)) :
      RelinquishedDevs p (dev :: devs) (dev' :: devs) false

theorem relinquishDevs_spec (p : Nat) (pre post : List DeviceData) (s : System)
    (hs : s.devList = pre ++ post) : ∃ post' done, RelinquishedDevs p post post' done ∧
      relinquishDevs p (List.range' pre.length post.length) s =
        ({ s with devList := pre ++ post' }, if done then .ok () else .error .error) := by
  induction post generalizing pre s with
  | nil =>
      refine ⟨[], true, .nil, ?_⟩
      rw [← hs]
      rfl
  | cons dev post ih =>
      have hdev : s.devList[pre.length]? = some dev := by simp [hs]
      have hset : ∀ dev', s.setDev pre.length dev' =
          { s with devList := (pre ++ [dev']) ++ post } := by
        intro dev'
        simp [setDev, hs]
      rw [List.length_cons, List.range'_succ, relinquishDevs, hdev]
      simp only
      split
      · rename_i dev' heq
        have hlen : pre.length + 1 = (pre ++ [dev']).length := by simp
        obtain ⟨post', done, hrest, hloop⟩ :=
          ih (pre ++ [dev']) (s.setDev pre.length dev') (by rw [hset])
        rw [hlen, hloop]
        refine ⟨dev' :: post', done, .next heq hrest, ?_⟩
        simp [setDev]
      · rename_i dev' heq
        refine ⟨dev' :: post, false, .stopped heq, ?_⟩
        rw [hset]
        simp

/-- The loop gives back the CUs in front of the first one that blocks the pool. -/
theorem RelinquishedDevs.cus {devs devs' : List DeviceData} {done : Bool}
    (h : RelinquishedDevs p devs devs' done)
    (hunloaded : ∀ dev ∈ devs, dev.isLoaded = false → dev.cuList = []) :
    List.Forall₂ DeviceData.SameButAccounts devs devs' ∧
      devs'.flatMap (·.cuList) = relinquishedUpTo p (devs.flatMap (·.cuList)) ∧
      done = (devs.flatMap (·.cuList)).all fun cu => !cu.blocks p := by
  induction h with
  | nil => exact ⟨.nil, rfl, rfl⟩
  | @next dev dev' devs devs' done h _ ih =>
      obtain ⟨hdevs, hcus, hdone⟩ := ih fun d hd => hunloaded d (by simp [hd])
      obtain ⟨hsame, hcus₁, hdone₁⟩ := dev.relinquishDev_spec p (hunloaded dev (by simp))
      rw [h] at hsame hcus₁ hdone₁
      refine ⟨.cons hsame hdevs, ?_, ?_⟩
      · rw [List.flatMap_cons, List.flatMap_cons, relinquishedUpTo_append, if_pos hdone₁.symm,
          hcus, hcus₁]
      · rw [List.flatMap_cons, List.all_append, ← hdone₁, ← hdone, Bool.true_and]
  | @stopped dev dev' devs h =>
      obtain ⟨hsame, hcus, hdone⟩ := dev.relinquishDev_spec p (hunloaded dev (by simp))
      rw [h] at hsame hcus hdone
      have hrefl : List.Forall₂ DeviceData.SameButAccounts devs devs :=
        forall₂_refl fun _ _ => ⟨rfl, rfl⟩
      refine ⟨.cons hsame hrefl, ?_, ?_⟩
      · rw [List.flatMap_cons, List.flatMap_cons, relinquishedUpTo_append, ← hdone, hcus]
        rfl
      · rw [List.flatMap_cons, List.all_append, ← hdone, Bool.false_and]

/-- `s'` is `s` after the CUs `done` have lost their slot of pool `p`. -/
structure PoolLeft (p : Nat) (s s' : System) (done rest : List CuData) : Prop where
  before : s.cus = done ++ rest
  after : ∃ done', s'.cus = done' ++ rest ∧ List.Forall₂ (CuData.WithoutPool p) done done'
  unused : ∀ cu ∈ done, ∀ r ∈ cu.slots, r.reservePoolId = p → r.reserveUsedLoadUnified = 0
  devices : List.Forall₂ DeviceData.SameButAccounts s.devList s'.devList
  frame : s' = { s with devList := s'.devList }

/-- The outcomes of relinquishing a pool. -/
inductive LeavesPool (p : Nat) (s : System) : System × Except XrmError Unit → Prop where
  | invalid (hp : p = 0) : LeavesPool p s (s, .error .invalid)
  | left {s' : System} (hp : p ≠ 0) (h : PoolLeft p s s' s.cus []) :
      LeavesPool p s (s', .ok ())
  | blocked {s' : System} {done rest : List CuData} {cu : CuData} {r : ReserveData} (hp : p ≠ 0)
      (h : PoolLeft p s s' done (cu :: rest)) (hr : r ∈ cu.slots) (hpool : r.reservePoolId = p)
      (hused : r.reserveUsedLoadUnified ≠ 0) : LeavesPool p s (s', .error .error)

theorem Sound.leavesPool (hs : s.Sound D) (p : Nat) :
    s.LeavesPool p (s.resRelinquishCuPool p) := by
  rw [System.resRelinquishCuPool]
  split
  · rename_i hp
    exact .invalid hp
  rename_i hp
  obtain ⟨devs', done, hdevs, hloop⟩ := relinquishDevs_spec p [] s.devList s rfl
  obtain ⟨hsame, hcus, hdone⟩ := hdevs.cus fun dev hdev => (hs dev hdev).unloaded
  rw [show s.devList.flatMap (·.cuList) = s.cus from rfl] at hcus hdone
  have hcons : ∀ cu ∈ s.cus, cu.Consistent := by
    intro cu hcu
    obtain ⟨dev, hdev, hmem⟩ := List.mem_flatMap.mp hcu
    exact (hs dev hdev).consistent cu hmem
  have hpart : ∀ cu ∈ s.cus.takeWhile fun cu => !cu.blocks p,
      cu.Consistent ∧ cu.blocks p = false := by
    intro cu hcu
    exact ⟨hcons cu ((List.takeWhile_sublist _).mem hcu), by simpa using List.mem_takeWhile_imp hcu⟩
  have hleft : PoolLeft p s { s with devList := devs' } (s.cus.takeWhile fun cu => !cu.blocks p)
      (s.cus.dropWhile fun cu => !cu.blocks p) := by
    refine ⟨List.takeWhile_append_dropWhile.symm, ⟨_, hcus, ?_⟩, ?_, hsame, rfl⟩
    · rw [List.forall₂_map_right_iff, List.forall₂_same]
      exact fun cu hcu => (hpart cu hcu).1.withoutPool (hpart cu hcu).2
    · intro cu hcu r hr hpool
      by_contra hused
      obtain ⟨hcu, hb⟩ := hpart cu hcu
      rw [(hcu.blocks_iff p).mpr ⟨r, hr, hpool, hused⟩] at hb
      simp at hb
  rw [numDevice, List.range_eq_range', show 0 = ([] : List DeviceData).length from rfl, hloop,
    List.nil_append]
  cases hrest : s.cus.dropWhile fun cu => !cu.blocks p with
  | nil =>
      have hall := List.dropWhile_eq_nil_iff.mp hrest
      rw [hdone, if_pos (List.all_eq_true.mpr hall)]
      rw [hrest, List.takeWhile_eq_self_iff.mpr hall] at hleft
      exact .left hp hleft
  | cons cu rest =>
      have hb : cu.blocks p = true := by
        have := List.head_dropWhile_not (fun cu : CuData => !cu.blocks p) (l := s.cus)
          (by simp [hrest])
        simpa [hrest] using this
      have hmem : cu ∈ s.cus := (List.dropWhile_sublist _).mem (hrest ▸ List.mem_cons_self)
      have hnot : ¬s.cus.all (fun cu => !cu.blocks p) = true := by
        intro hall
        have := List.all_eq_true.mp hall cu hmem
        simp [hb] at this
      rw [hdone, if_neg hnot]
      rw [hrest] at hleft
      obtain ⟨r, hr, hpool, hused⟩ := ((hcons cu hmem).blocks_iff p).mp hb
      exact .blocked hp hleft hr hpool hused

end System

/-! ## Releasing a list -/

namespace DeviceData

variable {dev : DeviceData} {cu : CuData} {cuId : Nat} {res : CuResource}

theorem releaseChannels_users (res : CuResource) (chans : List ChannelData) (dev : DeviceData)
    (cu : CuData) : (releaseChannels res chans dev cu).dev.cuList = dev.cuList ∧
      (releaseChannels res chans dev cu).cu.clients = cu.clients ∧
      (releaseChannels res chans dev cu).cu.numClient = cu.numClient ∧
      (releaseChannels res chans dev cu).channels = chans.map res.release := by
  induction chans generalizing dev cu with
  | nil => exact ⟨rfl, rfl, rfl, rfl⟩
  | cons chan chans ih =>
      rw [releaseChannels]
      by_cases hn : res.names chan = true
      · rw [if_pos hn]
        have hdev := dev.returnLoad_sameButLoad cu res.poolId chan.channelLoadUnified
        have hcu : (dev.returnLoad cu res.poolId chan.channelLoadUnified).2.clients = cu.clients ∧
            (dev.returnLoad cu res.poolId chan.channelLoadUnified).2.numClient = cu.numClient := by
          rw [returnLoad]
          repeat' split
          all_goals exact ⟨rfl, rfl⟩
        generalize dev.returnLoad cu res.poolId chan.channelLoadUnified = r at hdev hcu
        obtain ⟨dev₁, cu₁⟩ := r
        simp only at hdev hcu ⊢
        obtain ⟨hcus, hclients, hnum, hchans⟩ :=
          ih (dev₁.dropClient res.clientId) { cu₁ with numChanInuse := cu₁.numChanInuse - 1 }
        refine ⟨?_, hclients.trans hcu.1, hnum.trans hcu.2, ?_⟩
        · rw [hcus, (dev₁.dropClient_spec res.clientId).frame, hdev]
        · rw [hchans, List.map_cons, CuResource.release, if_pos hn]
      · rw [if_neg hn]
        obtain ⟨hcus, hclients, hnum, hchans⟩ := ih dev cu
        refine ⟨hcus, hclients, hnum, ?_⟩
        simp only
        rw [hchans, List.map_cons, CuResource.release, if_neg hn]

/-- A release keeps the clients of a CU in step with its channels, whatever the record says. -/
theorem releaseCu_table (h : ClientTable cu.channels cu.clients cu.numClient) (cuId : Nat)
    (res : CuResource) : ∃ cu', (dev.releaseCu cuId cu res).1.cuList = dev.cuList.set cuId cu' ∧
      ClientTable cu'.channels cu'.clients cu'.numClient := by
  obtain ⟨hcus, hclients, hnum, hchans⟩ := releaseChannels_users res cu.channels dev cu
  have hcnt := procChanCnt_eq_zero_iff res cu.channels dev cu
  rw [releaseCu]
  generalize releaseChannels res cu.channels dev cu = scan at hcus hclients hnum hchans hcnt
  generalize hcu₁ : { scan.cu with channels := scan.channels } = cu₁
  have htable : ClientTable cu.channels cu₁.clients cu₁.numClient := by
    rw [← hcu₁]
    simp only [hclients, hnum]
    exact h
  rw [hchans] at hcu₁
  have hchans₁ : cu₁.channels = cu.channels.map res.release := by rw [← hcu₁]
  refine ⟨_, by rw [setCu, hcus], ?_⟩
  by_cases hzero : scan.procChanCnt = 0
  · rw [if_pos hzero, CuData.removeClientOnCu_channels]
    have hgone := hcnt.mp hzero
    refine htable.remove ?_
    rw [hchans₁]
    refine exists_client_map_gone res.release_or fun chan hchan hc => ?_
    rw [CuResource.release, if_pos ((hgone chan hchan).resolve_right (by simpa using hc))]
  · rw [if_neg hzero]
    rw [hcnt] at hzero
    push Not at hzero
    obtain ⟨chan, hchan, hn, hc⟩ := hzero
    refine htable.congr fun d hd => ?_
    rw [hchans₁]
    by_cases hdc : d = res.clientId
    · subst hdc
      refine iff_of_true ⟨chan, List.mem_map.mpr ⟨chan, hchan, ?_⟩, hc⟩ ⟨chan, hchan, hc⟩
      rw [CuResource.release, if_neg hn]
    · exact exists_client_map res.release_or hd hdc

/-- A release that names no channel changes nothing. -/
theorem releaseCu_failed (h : ClientTable cu.channels cu.clients cu.numClient)
    (hcu : dev.cuList[cuId]? = some cu) {e : XrmError}
    (hfail : (dev.releaseCu cuId cu res).2 = .error e) : (dev.releaseCu cuId cu res).1 = dev := by
  have hreleased := released_eq res cu.channels dev cu
  have hcnt := procChanCnt_eq_zero_iff res cu.channels dev cu
  obtain ⟨-, -, -, hchans⟩ := releaseChannels_users res cu.channels dev cu
  have hnone : ∀ chan ∈ cu.channels, ¬res.names chan = true := by
    intro chan hchan hn
    rw [releaseCu, hreleased, if_pos (List.any_eq_true.mpr ⟨chan, hchan, hn⟩)] at hfail
    simp at hfail
  obtain ⟨hdev, hcu'⟩ := releaseChannels_none hnone dev cu
  have hsame : cu.channels.map res.release = cu.channels := by
    refine (List.map_congr_left fun chan hchan => ?_).trans (List.map_id _)
    rw [CuResource.release, if_neg (hnone chan hchan), id]
  rw [hsame] at hchans
  have hset : dev.setCu cuId cu = dev := by
    obtain ⟨hi, rfl⟩ := List.getElem?_eq_some_iff.mp hcu
    simp [setCu]
  have hremove : (releaseChannels res cu.channels dev cu).procChanCnt = 0 →
      cu.removeClientOnCu res.clientId = cu := by
    intro hzero
    have hnot : cu.isClientUsingCu res.clientId = none := by
      refine CuData.isClientUsingCu_eq_none.mpr fun hmem => ?_
      obtain ⟨-, chan, hchan, hc⟩ := (h.mem_iff res.clientId).mp hmem
      exact (hcnt.mp hzero chan hchan).elim (hnone chan hchan) fun hne => hne hc
    rw [CuData.removeClientOnCu, hnot]
  rw [releaseCu]
  generalize releaseChannels res cu.channels dev cu = scan at hdev hcu' hchans hremove
  have hcu₁ : { scan.cu with channels := scan.channels } = cu := by rw [hcu', hchans]
  simp only [hcu₁, hdev]
  split
  · rename_i hzero
    rw [hremove hzero, hset]
  · exact hset

end DeviceData

namespace System

variable {D : Discipline} {s s' : System}

/-- On every CU the attached clients are those with channels. -/
def Attached (s : System) : Prop :=
  ∀ dev ∈ s.devList, ∀ cu ∈ dev.cuList, ClientTable cu.channels cu.clients cu.numClient

theorem Sound.attached (h : s.Sound D) : s.Attached :=
  fun dev hdev cu hcu => ((h dev hdev).consistent cu hcu).clients

/-- A release changes the state only if it succeeds, and keeps the clients attached. -/
theorem Attached.release (h : s.Attached) (res : CuResource) : (s.resReleaseCu res).1.Attached ∧
    ∀ e, (s.resReleaseCu res).2 = .error e → (s.resReleaseCu res).1 = s := by
  rw [resReleaseCu]
  split
  · exact ⟨h, fun _ _ => rfl⟩
  split
  · exact ⟨h, fun _ _ => rfl⟩
  split
  · exact ⟨h, fun _ _ => rfl⟩
  split
  · exact ⟨h, fun _ _ => rfl⟩
  rename_i dev hdev
  split
  · exact ⟨h, fun _ _ => rfl⟩
  split
  · exact ⟨h, fun _ _ => rfl⟩
  rename_i cu hcu
  have hmem := List.mem_of_getElem? hdev
  have htable := h dev hmem cu (List.mem_of_getElem? hcu)
  constructor
  · obtain ⟨cu', hcus, htable'⟩ := @DeviceData.releaseCu_table dev _ htable res.cuId.toNat res
    intro x hx y hy
    rcases List.mem_or_eq_of_mem_set hx with hx | rfl
    · exact h x hx y hy
    · have hy : y ∈ (dev.releaseCu res.cuId.toNat cu res).1.cuList := hy
      rw [hcus] at hy
      rcases List.mem_or_eq_of_mem_set hy with hy | rfl
      · exact h dev hmem y hy
      · exact htable'
  · intro e hfail
    have heq := DeviceData.releaseCu_failed htable hcu hfail
    simp only [heq]
    obtain ⟨hi, rfl⟩ := List.getElem?_eq_some_iff.mp hdev
    simp [setDev]

/-- The outcomes of releasing a list: the records in front of the first one that fails are
released one after another, and the failure changes nothing. -/
inductive ReleasesList (maxNum : Nat) (listRes : CuListResource) (s : System) :
    System × Except XrmError Unit → Prop where
  | invalid (hnum : listRes.cuNum < 0 ∨ listRes.cuNum > maxNum) :
      ReleasesList maxNum listRes s (s, .error .invalid)
  | released {s' : System} (hnum : 0 ≤ listRes.cuNum ∧ listRes.cuNum ≤ maxNum)
      (h : releaseInOrder (listRes.cuResources.take listRes.cuNum.toNat) s = (s', .ok ())) :
      ReleasesList maxNum listRes s (s', .ok ())
  | stopped {s' : System} {done rest : List CuResource} {res : CuResource} {e : XrmError}
      (hnum : 0 ≤ listRes.cuNum ∧ listRes.cuNum ≤ maxNum)
      (hlist : listRes.cuResources.take listRes.cuNum.toNat = done ++ res :: rest)
      (hdone : releaseInOrder done s = (s', .ok ()))
      (hfail : s'.resReleaseCu res = (s', .error e)) : ReleasesList maxNum listRes s (s', .error e)

theorem releaseInOrder_stopped (h : s.Attached) (l : List CuResource) {e : XrmError}
    (hfail : releaseInOrder l s = (s', .error e)) : ∃ done res rest, l = done ++ res :: rest ∧
      releaseInOrder done s = (s', .ok ()) ∧ s'.resReleaseCu res = (s', .error e) := by
  induction l generalizing s with
  | nil => simp [releaseInOrder] at hfail
  | cons res l ih =>
      obtain ⟨hattached, hsame⟩ := h.release res
      rw [releaseInOrder] at hfail
      split at hfail
      · rename_i s₁ heq
        rw [heq] at hattached
        obtain ⟨done, res', rest, rfl, hdone, hlast⟩ := ih hattached hfail
        refine ⟨res :: done, res', rest, rfl, ?_, hlast⟩
        rw [releaseInOrder, heq]
        exact hdone
      · rename_i s₁ e₁ heq
        rw [Prod.mk.injEq, Except.error.injEq] at hfail
        obtain ⟨rfl, rfl⟩ := hfail
        rw [heq] at hsame
        have hs := hsame e₁ rfl
        simp only at hs
        subst hs
        exact ⟨[], res, l, rfl, rfl, heq⟩

theorem Attached.releasesList (h : s.Attached) (maxNum : Nat) (listRes : CuListResource) :
    ReleasesList maxNum listRes s (releaseList maxNum s listRes) := by
  rw [releaseList]
  split
  · rename_i hnum
    exact .invalid hnum
  · rename_i hnum
    have hnum : 0 ≤ listRes.cuNum ∧ listRes.cuNum ≤ maxNum := by omega
    cases hr : releaseInOrder (listRes.cuResources.take listRes.cuNum.toNat) s with
    | mk s' r =>
        cases r with
        | ok _ => exact .released hnum hr
        | error e =>
            obtain ⟨done, res, rest, hlist, hdone, hfail⟩ := releaseInOrder_stopped h _ hr
            exact .stopped hnum hlist hdone hfail

/-! ## Up to the first obstacle -/

/-- What the multiple releases of a state do. -/
structure GivesBack (s : System) : Prop where
  pool : ∀ p : Nat, s.LeavesPool p (s.resRelinquishCuPool p)
  list : ∀ listRes : CuListResource,
    s.ReleasesList maxListCuNum listRes (s.resReleaseCuList listRes)
  listV2 : ∀ listRes : CuListResource,
    s.ReleasesList maxListCuNumV2 listRes (s.resReleaseCuListV2 listRes)
  group : ∀ groupRes : CuListResource,
    s.ReleasesList maxGroupCuNum groupRes (s.resReleaseCuGroup groupRes)
  groupV2 : ∀ groupRes : CuListResource,
    s.ReleasesList maxGroupCuNumV2 groupRes (s.resReleaseCuGroupV2 groupRes)

/-- In every reachable state a pool is relinquished up to the first CU on which it is in use, and
a list is released up to the first record that fails. -/
theorem gives_back {limit : Nat} (h : Reachable allRuns limit s) : s.GivesBack where
  pool p := h.good.sound.leavesPool p
  list listRes := h.good.sound.attached.releasesList _ listRes
  listV2 listRes := h.good.sound.attached.releasesList _ listRes
  group groupRes := h.good.sound.attached.releasesList _ groupRes
  groupV2 groupRes := h.good.sound.attached.releasesList _ groupRes

end System

open Scenario in
/-- A pool with a slot on each CU of a device, the second one in use. -/
def halfUsedRun : List Op :=
  [.loadOneDevice (env 1 2) 0 "scaler.xclbin",
    .resReserveCuPool (pool 1 [request 1 0 600000, request 1 0 700000]),
    .resAllocCu (request 1 1 650000) true]

namespace System

theorem gives_back_half : (Scenario.after halfUsedRun).GivesBack :=
  gives_back (reachable_after halfUsedRun (by decide +kernel))

/-- The first CU has lost its slot when the second one refuses. -/
theorem relinquish_stops_halfway : ¬∀ limit s, Reachable allRuns limit s → ∀ p,
    (s.resRelinquishCuPool p).2 = .ok () ∨ (s.resRelinquishCuPool p).1 = s := by
  intro h
  rcases h 8 _ (reachable_after halfUsedRun (by decide +kernel)) 1 with hok | hsame
  · exact absurd (congrArg (fun r => match r with | .ok _ => true | .error _ => false) hok)
      (by decide +kernel)
  · exact absurd (congrArg (fun s : System => s.cus.map (·.numReserve)) hsame) (by decide +kernel)

end System

end Xrm
