import Xrm.Verification.DeviceActs

/-! # The acts keep a device in order

One lemma for each act, and from them the preservation of the invariant by any act.
-/

namespace Xrm

open FixedTable

namespace DeviceData

variable {D : Discipline} {dev dev' : DeviceData}

/-! ## Releasing -/

/-- 1 for a channel that the record names. -/
def namedBy (res : CuResource) (chan : ChannelData) : Int := if res.names chan then 1 else 0

theorem namedBy_le (res : CuResource) (chan : ChannelData) :
    namedBy res chan ≤ heldBy res.clientId chan := by
  rw [namedBy, heldBy]
  split
  · rename_i hn
    rw [if_pos (CuResource.names_iff.mp hn).2.2.1]
  · split <;> omega

theorem namedBy_nonneg (res : CuResource) (chan : ChannelData) : 0 ≤ namedBy res chan := by
  rw [namedBy]
  split <;> omega

/-- What the channel loop of `resReleaseCu` leaves of the device. -/
structure ScanFrame (dev dev' : DeviceData) : Prop where
  cuList : dev'.cuList = dev.cuList
  isLoaded : dev'.isLoaded = dev.isLoaded
  shape : dev'.TableShape

theorem sameButLoad_iff_fields {dev dev' : DeviceData} (h : SameButLoad dev dev') :
    dev'.cuList = dev.cuList ∧ dev'.isLoaded = dev.isLoaded ∧ dev'.isExcl = dev.isExcl ∧
      dev'.clientProcs = dev.clientProcs := by
  rw [h]
  exact ⟨rfl, rfl, rfl, rfl⟩

theorem returnLoad_sameButLoad (dev : DeviceData) (cu : CuData) (p : Nat) (load : Int) :
    SameButLoad dev (dev.returnLoad cu p load).1 := by
  rw [returnLoad]
  split
  · split
    · split <;> rfl
    · rfl
  · rfl

/-- The channel loop drops the client once for each channel it releases. -/
theorem releaseChannels_frame {res : CuResource} (hres : res.clientId ≠ 0)
    (chans : List ChannelData) (dev : DeviceData) (cu : CuData) (hshape : dev.TableShape) :
    ScanFrame dev (releaseChannels res chans dev cu).dev := by
  induction chans generalizing dev cu with
  | nil => exact ⟨rfl, rfl, hshape⟩
  | cons chan chans ih =>
      rw [releaseChannels]
      by_cases hn : res.names chan = true
      · simp only [hn, if_true]
        obtain ⟨hcus, hload, hex, hprocs⟩ := sameButLoad_iff_fields
          (dev.returnLoad_sameButLoad cu res.poolId chan.channelLoadUnified)
        have hdropped := (dev.returnLoad cu res.poolId chan.channelLoadUnified).1.dropClient_spec
          res.clientId
        have hframe := hdropped.frame
        have hshape' := hdropped.shape (hshape.congr hex hprocs) hres
        obtain ⟨hc, hl, hs⟩ := ih _ { (dev.returnLoad cu res.poolId chan.channelLoadUnified).2 with
          numChanInuse :=
            (dev.returnLoad cu res.poolId chan.channelLoadUnified).2.numChanInuse - 1 } hshape'
        refine ⟨hc.trans ?_, hl.trans ?_, hs⟩
        · rw [hframe]
          exact hcus
        · rw [hframe]
          exact hload
      · simp only [if_neg hn]
        exact ih dev cu hshape

theorem releaseChannels_tally {res : CuResource} (hres : res.clientId ≠ 0)
    (chans : List ChannelData) (dev : DeviceData) (cu : CuData) {held : Nat → Int}
    (hshape : dev.TableShape) (hload : dev.isLoaded = true) (htally : dev.Tally held)
    (hheld : sumBy (namedBy res) chans ≤ held res.clientId) :
    (releaseChannels res chans dev cu).dev.Tally fun d =>
      held d - if d = res.clientId then sumBy (namedBy res) chans else 0 := by
  induction chans generalizing dev cu held with
  | nil => simpa [releaseChannels] using htally
  | cons chan chans ih =>
      have hrest : 0 ≤ sumBy (namedBy res) chans :=
        sumBy_nonneg fun chan _ => namedBy_nonneg res chan
      rw [sumBy_cons] at hheld
      rw [releaseChannels]
      by_cases hn : res.names chan = true
      · have hone : namedBy res chan = 1 := by rw [namedBy, if_pos hn]
        simp only [hn, if_true, sumBy_cons, hone]
        obtain ⟨hcus, hl, hex, hprocs⟩ := sameButLoad_iff_fields
          (dev.returnLoad_sameButLoad cu res.poolId chan.channelLoadUnified)
        have hdropped := (dev.returnLoad cu res.poolId chan.channelLoadUnified).1.dropClient_spec
          res.clientId
        have hframe := hdropped.frame
        have hshape₁ := hshape.congr hex hprocs
        have hdrop := hdropped.tally hshape₁ (htally.congr hprocs) hres (by rw [hl]; exact hload)
          (by omega)
        have hih := ih _ { (dev.returnLoad cu res.poolId chan.channelLoadUnified).2 with
          numChanInuse :=
            (dev.returnLoad cu res.poolId chan.channelLoadUnified).2.numChanInuse - 1 }
          (hdropped.shape hshape₁ hres) (by rw [hframe]; exact hl.trans hload) hdrop
          (by simp only [minus, if_true]; omega)
        refine hih.ext fun d _ => ?_
        simp only [minus]
        split <;> omega
      · have hzero : namedBy res chan = 0 := by rw [namedBy, if_neg hn]
        simp only [if_neg hn, sumBy_cons, hzero, zero_add]
        exact ih dev cu hshape hload htally (by omega)

theorem heldBy_release {res : CuResource} {c : Nat} (hc : c ≠ 0) (chans : List ChannelData) :
    sumBy (heldBy c) (chans.map res.release) =
      sumBy (heldBy c) chans - if c = res.clientId then sumBy (namedBy res) chans else 0 := by
  induction chans with
  | nil => simp
  | cons chan chans ih =>
      have hhead : heldBy c (res.release chan) =
          heldBy c chan - if c = res.clientId then namedBy res chan else 0 := by
        rw [CuResource.release, namedBy]
        by_cases hn : res.names chan = true
        · have hclient := (CuResource.names_iff.mp hn).2.2.1
          rw [if_pos hn, if_pos hn, heldBy, heldBy, ChannelData.clear_clientId, if_neg hc.symm,
            hclient]
          simp only [eq_comm]
          omega
        · rw [if_neg hn, if_neg hn, ite_self, sub_zero]
      simp only [List.map_cons, sumBy_cons, ih, hhead]
      split <;> omega

theorem Sound.release (h : dev.Sound D) {cuId : Nat} {cu : CuData} {res : CuResource}
    (hload : dev.isLoaded = true) (hcu : dev.cuList[cuId]? = some cu)
    (hres : res.clientId ≠ 0) : (dev.releaseCu cuId cu res).1.Sound D := by
  have hmem := List.mem_of_getElem? hcu
  have hcons := h.consistent cu hmem
  obtain ⟨cu', hreleased, heq, -, -⟩ := dev.releaseCu_spec hcons hres cuId
  have hframe := releaseChannels_frame hres cu.channels dev cu h.shape
  rw [heq]
  refine h.setCu hcu ?_ hframe.isLoaded hreleased.consistent ?_ hreleased.kin
    (hframe.shape.congr rfl rfl) fun hD => ?_
  · show (releaseChannels res cu.channels dev cu).dev.cuList.set cuId cu' = _
    rw [hframe.cuList]
  · intro hD
    have hx : cu.ExactOn cu.channels := h.exact hD cu hmem
    exact hx.follow hreleased.slots
  · obtain ⟨refs, htally, hrefs⟩ := h.tally hD
    have hle : sumBy (namedBy res) cu.channels ≤ refs res.clientId :=
      calc
        _ ≤ sumBy (heldBy res.clientId) cu.channels :=
          sumBy_le_sumBy fun chan _ => namedBy_le res chan
        _ ≤ dev.held res.clientId := held_channel_le hcu res.clientId
        _ ≤ refs res.clientId := (hrefs _ hres).1
    have hdropped := releaseChannels_tally hres cu.channels dev cu h.shape hload htally hle
    have hdropped' : ((releaseChannels res cu.channels dev cu).dev.setCu cuId cu').Tally _ :=
      hdropped.congr rfl
    refine .change hrefs hdropped' fun c hc => ?_
    rw [held_setCu hcu, hreleased.channels, heldBy_release hc]
    omega

/-! ## Recycling -/

/-- What the CU loop of `releaseAllCuChanClientOnDev` does. -/
theorem releaseAllOnCus_spec {c : Nat} (hc : c ≠ 0) (cus : List CuData) (dev : DeviceData)
    (hcons : ∀ cu ∈ cus, cu.Consistent) :
    SameButLoad dev (releaseAllOnCus c cus dev).1 ∧
      List.Forall₂ (Left c) cus (releaseAllOnCus c cus dev).2 ∧
      Tracks dev (releaseAllOnCus c cus dev).1
        (sumBy (·.totalUsedLoadUnified) (releaseAllOnCus c cus dev).2 -
          sumBy (·.totalUsedLoadUnified) cus) := by
  induction cus generalizing dev with
  | nil => exact ⟨rfl, .nil, (Tracks.refl dev).congr rfl rfl (by simp [releaseAllOnCus])⟩
  | cons cu cus ih =>
      obtain ⟨hdev, hleft, htracks⟩ := releaseAllOnCu_spec dev (hcons cu (by simp)) hc
      obtain ⟨hdev', hrest, htracks'⟩ :=
        ih (releaseAllOnCu c dev cu).1 fun cu hcu => hcons cu (by simp [hcu])
      refine ⟨hdev.trans hdev', .cons hleft hrest, (htracks.trans htracks').congr rfl rfl ?_⟩
      simp only [releaseAllOnCus, sumBy_cons]
      omega

/-- The load in use on all CUs of the device. -/
def usedLoad (dev : DeviceData) : Int := sumBy (·.totalUsedLoadUnified) dev.cuList

/-- What `releaseAllCuChanClientOnDev` does to a device. -/
structure LeftDevice (c : Nat) (dev dev' : DeviceData) : Prop where
  cus : List.Forall₂ (Left c) dev.cuList dev'.cuList
  frame : SameButLoad { dev with cuList := dev'.cuList } dev'
  tracks : Tracks dev dev' (dev'.usedLoad - dev.usedLoad)

theorem releaseAllCuChanClientOnDev_spec {c : Nat} (hc : c ≠ 0)
    (hcons : ∀ cu ∈ dev.cuList, cu.Consistent) :
    LeftDevice c dev (dev.releaseAllCuChanClientOnDev c) := by
  obtain ⟨hdev, hcus, htracks⟩ := releaseAllOnCus_spec hc dev.cuList dev hcons
  refine ⟨hcus, ?_, htracks.congr rfl ?_ rfl⟩
  · rw [SameButLoad] at hdev
    rw [SameButLoad, releaseAllCuChanClientOnDev]
    simp only
    rw [hdev]
  · show (releaseAllOnCus c dev.cuList dev).2.length = _
    rw [← hcus.length_eq, numCu, (sameButLoad_iff_fields hdev).1]

theorem heldBy_leave {c d : Nat} (hd : d ≠ 0) (chans : List ChannelData) :
    sumBy (heldBy d) (chans.map (·.leave c)) = if d = c then 0 else sumBy (heldBy d) chans := by
  rw [sumBy_map]
  by_cases hdc : d = c
  · subst hdc
    rw [if_pos rfl]
    refine sumBy_eq_zero fun chan _ => ?_
    simp only [Function.comp_apply, heldBy, ChannelData.leave]
    by_cases hcl : chan.clientId = d
    · rw [if_pos hcl, ChannelData.clear_clientId, if_neg hd.symm]
    · rw [if_neg hcl, if_neg hcl]
  · rw [if_neg hdc]
    refine sumBy_congr fun chan _ => ?_
    simp only [Function.comp_apply, heldBy, ChannelData.leave]
    by_cases hcl : chan.clientId = c
    · rw [if_pos hcl, ChannelData.clear_clientId, if_neg hd.symm,
        if_neg (by rw [hcl]; exact Ne.symm hdc)]
    · rw [if_neg hcl]

theorem LeftDevice.held {c d : Nat} (h : LeftDevice c dev dev') (hd : d ≠ 0) :
    dev'.held d = if d = c then 0 else dev.held d := by
  have hcus := h.cus
  rw [DeviceData.held, DeviceData.held]
  generalize dev.cuList = cus at hcus
  generalize dev'.cuList = cus' at hcus
  induction hcus with
  | nil => simp
  | cons hleft _ ih =>
      rw [sumBy_cons, sumBy_cons, ih, hleft.channels, heldBy_leave hd]
      split <;> omega

theorem LeftDevice.exact {c : Nat} (h : LeftDevice c dev dev')
    (hx : ∀ cu ∈ dev.cuList, cu.Exact) : ∀ cu ∈ dev'.cuList, cu.Exact := by
  refine forall₂_forall h.cus fun cu hcu cu' hleft => ?_
  have hexact : cu.ExactOn cu.channels := hx cu hcu
  exact hexact.follow hleft.slots

/-- A device on which the client has been recycled, whatever has become of its table. -/
theorem Sound.left {dev₁ : DeviceData} {c : Nat} (h : dev.Sound D) (hleft : LeftDevice c dev dev₁)
    (hcus : dev'.cuList = dev₁.cuList) (hload : dev'.isLoaded = dev.isLoaded)
    (hon : dev.isLoaded = true) (hshape : dev'.TableShape)
    (htally : D.covered → dev'.Covered D fun d => if d = c then 0 else dev.held d) :
    dev'.Sound D := by
  refine ⟨?_, ?_, ?_, hshape, ?_, ?_, by simp [hload, hon]⟩
  · rw [hcus]
    exact forall₂_forall hleft.cus fun _ _ _ hl => hl.consistent
  · intro hD
    rw [hcus]
    exact hleft.exact (h.exact hD)
  · rw [hcus]
    exact forall₂_forall hleft.cus fun cu hcu _ hl => hl.kin.numbered (h.numbered cu hcu)
  · intro hD
    refine (htally hD).congr rfl fun d hd => ?_
    have hheld : dev'.held d = dev₁.held d := by rw [DeviceData.held, hcus, DeviceData.held]
    rw [hheld]
    exact (hleft.held hd).symm
  · intro hl
    rw [hload] at hl
    have hnil := hleft.cus
    rw [h.unloaded hl] at hnil
    rw [hcus]
    exact List.forall₂_nil_left_iff.mp hnil

/-- An exclusive device has references of its holder only. -/
theorem TableShape.not_mem (h : dev.TableShape) (hex : dev.isExcl = true) {d : Nat} (hd : d ≠ 0)
    (hne : dev.holder.clientId ≠ d) : ∀ entry ∈ dev.clientProcs, entry.clientId ≠ d := by
  intro entry he
  have hpos := h.pos
  have heq := holder_eq hpos
  have halone := h.alone hex
  cases hl : dev.clientProcs with
  | nil => simp [hl] at hpos
  | cons e es =>
      simp only [hl, List.getElem_cons_zero] at heq
      rw [hl] at he
      rcases List.mem_cons.mp he with rfl | he
      · rwa [← heq]
      · rw [halone entry (by simpa [hl] using he)]
        exact hd.symm

theorem Sound.recycleHolder {c : Nat} (h : dev.Sound D) (hc : c ≠ 0)
    (hon : dev.isLoaded = true) (hex : dev.isExcl = true)
    (hholder : dev.holder.clientId = c) :
    ({ dev.releaseAllCuChanClientOnDev c with
      isExcl := false
      clientProcs := List.replicate maxDevClients ClientData.zero } : DeviceData).Sound D := by
  have hleft := releaseAllCuChanClientOnDev_spec hc h.consistent
  refine h.left hleft rfl ?_ hon (shape_empty rfl rfl) fun hD => ?_
  · show (dev.releaseAllCuChanClientOnDev c).isLoaded = _
    rw [hleft.frame]
  · obtain ⟨refs, htally, hrefs⟩ := h.tally hD
    refine .of_empty rfl fun d hd => ?_
    by_cases hdc : d = c
    · rw [if_pos hdc]
    · have hnone := h.shape.not_mem hex hd (by rw [hholder]; exact Ne.symm hdc)
      have hzero := htally.refs d hd
      rw [sumBy_refsOf_eq_zero hnone] at hzero
      have hle := (hrefs d hd).1
      have hnonneg := dev.held_nonneg d
      rw [if_neg hdc]
      omega

/-- A client has one entry at most. -/
theorem once_other {c i : Nat} {entries : List ClientData}
    (honce : sumBy (naming c) entries ≤ 1) (hi : i < entries.length)
    (hfound : entries[i].clientId = c) : ∀ entry ∈ entries.eraseIdx i, entry.clientId ≠ c := by
  intro entry he heq
  have hone : naming c entries[i] = 1 := by rw [naming, if_pos hfound]
  have hrest := sumBy_eraseIdx (naming c) entries i hi
  have hle : naming c entry ≤ sumBy (naming c) (entries.eraseIdx i) :=
    le_sumBy (fun e _ => naming_nonneg c e) he
  rw [naming, if_pos heq] at hle
  omega

/-- The references of a client are those of its only entry. -/
theorem refs_alone {c i : Nat} {entries : List ClientData}
    (honce : sumBy (naming c) entries ≤ 1) (hi : i < entries.length)
    (hfound : entries[i].clientId = c) : sumBy (refsOf c) entries = refsOf c entries[i] := by
  have hrefs := sumBy_eraseIdx (refsOf c) entries i hi
  rw [sumBy_refsOf_eq_zero (once_other honce hi hfound)] at hrefs
  omega

theorem Tally.clearEntry {refs : Nat → Int} {c i : Nat} (h : dev.Tally refs)
    (hi : i < dev.clientProcs.length) (hfound : dev.clientProcs[i].clientId = c)
    (hprocs : dev'.clientProcs = dev.clientProcs.set i ClientData.zero) :
    dev'.Tally fun d => if d = c then 0 else refs d := by
  rw [set_eq_modify] at hprocs
  constructor
  · intro d hd
    have hrefs := h.refs d hd
    rw [hprocs, sumBy_modify _ _ _ _ hi, refsOf_zero, add_zero]
    by_cases hdc : d = c
    · subst hdc
      rw [if_pos rfl, refs_alone (h.once d hd) hi hfound]
      omega
    · have hne : refsOf d dev.clientProcs[i] = 0 := by
        rw [refsOf, if_neg]
        rw [hfound]
        exact Ne.symm hdc
      simp only [if_neg hdc]
      omega
  · intro d hd
    have := h.once d hd
    have := naming_nonneg d dev.clientProcs[i]
    rw [hprocs, sumBy_modify _ _ _ _ hi, naming_zero hd]
    omega

theorem Sound.recycleEntry {c i : Nat} (h : dev.Sound D) (hc : c ≠ 0)
    (hon : dev.isLoaded = true) (hex : dev.isExcl = false) (hi : i < dev.clientProcs.length)
    (hfound : dev.clientProcs[i].clientId = c) :
    ({ dev.releaseAllCuChanClientOnDev c with
      clientProcs := dev.clientProcs.set i ClientData.zero } : DeviceData).Sound D := by
  have hleft := releaseAllCuChanClientOnDev_spec hc h.consistent
  have hframe := hleft.frame
  refine h.left hleft rfl ?_ hon ?_ fun hD => ?_
  · show (dev.releaseAllCuChanClientOnDev c).isLoaded = _
    rw [hframe]
  · have hzero : ∀ hi : i < dev.clientProcs.length, ClientData.zero.Proper :=
      fun _ => ClientData.proper_zero
    refine (h.shape.modify hzero hex).congr ?_ (set_eq_modify _ _ _)
    show (dev.releaseAllCuChanClientOnDev c).isExcl = _
    rw [hframe]
  · obtain ⟨refs, htally, hrefs⟩ := h.tally hD
    refine ⟨_, htally.clearEntry hi hfound rfl, fun d hd => ?_⟩
    by_cases hdc : d = c
    · simp only [if_pos hdc]
      exact ⟨le_refl _, fun _ => trivial⟩
    · simp only [if_neg hdc]
      exact hrefs d hd

/-- What the CU loop around `recycleSlots` does. -/
theorem recycleReserves_spec (c : Nat) (cus : List CuData) (tmpSum : Int)
    (hcons : ∀ cu ∈ cus, cu.Consistent) :
    List.Forall₂ (CuData.SlotsRecycled c 0) cus (DeviceData.recycleReserves c cus tmpSum).1 := by
  induction cus generalizing tmpSum with
  | nil => exact .nil
  | cons cu cus ih =>
      exact .cons (CuData.recycleSlots_spec c cu.numReserve (hcons cu (by simp)) (by omega) tmpSum)
        (ih _ fun cu hcu => hcons cu (by simp [hcu]))

theorem held_forall₂ {R : CuData → CuData → Prop} {cus cus' : List CuData}
    (h : List.Forall₂ R cus cus') (hR : ∀ cu cu', R cu cu' → cu'.channels = cu.channels)
    (c : Nat) : sumBy (fun cu : CuData => sumBy (heldBy c) cu.channels) cus' =
      sumBy (fun cu : CuData => sumBy (heldBy c) cu.channels) cus := by
  induction h with
  | nil => rfl
  | cons hr _ ih => rw [sumBy_cons, sumBy_cons, ih, hR _ _ hr]

/-- A change of the accounts of the CUs that leaves the channels and the table alone. -/
theorem Sound.accounts {R : CuData → CuData → Prop} (h : dev.Sound D)
    (hR : List.Forall₂ R dev.cuList dev'.cuList)
    (husers : ∀ cu cu', R cu cu' → cu.SameUsers cu')
    (hcons : ∀ cu ∈ dev.cuList, ∀ cu', R cu cu' → cu'.Consistent)
    (hexact : D.fresh → ∀ cu ∈ dev.cuList, ∀ cu', R cu cu' → cu'.Exact)
    (hload : dev'.isLoaded = dev.isLoaded) (hex : dev'.isExcl = dev.isExcl)
    (hprocs : dev'.clientProcs = dev.clientProcs) : dev'.Sound D := by
  refine ⟨forall₂_forall hR hcons, fun hD => forall₂_forall hR (hexact hD),
    forall₂_forall hR fun cu hcu cu' hr => (husers cu cu' hr).kin.numbered (h.numbered cu hcu),
    h.shape.congr hex hprocs, fun hD => ?_, fun hl => ?_,
    by rw [hload, hex, hprocs]; exact h.absent⟩
  · exact (h.tally hD).congr hprocs fun c _ =>
      (held_forall₂ hR (fun cu cu' hr => (husers cu cu' hr).channels) c).symm
  · rw [hload] at hl
    rw [h.unloaded hl] at hR
    exact List.forall₂_nil_left_iff.mp hR

theorem Sound.recycleReserves {c : Nat} (h : dev.Sound D) (tmpSum change : Int) :
    ({ dev with cuList := (DeviceData.recycleReserves c dev.cuList tmpSum).1 }.updateDeviceLoad
      change 0).Sound D :=
  h.accounts (recycleReserves_spec c dev.cuList tmpSum h.consistent)
    (fun _ _ hr => hr.users) (fun _ _ _ hr => hr.consistent)
    (fun hD cu hcu _ hr => hr.exact (h.exact hD cu hcu)) rfl rfl rfl

/-! ## Taking a whole device, loading and clearing -/

theorem Sound.clear (hcus : dev'.cuList = []) (hex : dev'.isExcl = false)
    (hprocs : dev'.clientProcs = List.replicate maxDevClients ClientData.zero) :
    dev'.Sound D := by
  refine ⟨by simp [hcus], by simp [hcus], by simp [hcus], shape_empty hex hprocs, fun _ => ?_,
    fun _ => hcus, fun _ _ => ⟨hex, ?_⟩⟩
  · refine .of_empty hprocs fun c _ => ?_
    rw [held, hcus]
    rfl
  · intro entry he
    rw [hprocs] at he
    exact List.eq_of_mem_replicate he

theorem Sound.load (h : dev.Sound D) (hload : dev.isLoaded = false)
    (hcus : ∀ cu ∈ dev'.cuList, cu.Untouched)
    (horder : D.gapless → ∀ cu ∈ dev'.cuList, cu.InOrder) (hload' : dev'.isLoaded = true)
    (hex : dev'.isExcl = dev.isExcl) (hprocs : dev'.clientProcs = dev.clientProcs) :
    dev'.Sound D := by
  refine ⟨fun cu hcu => (hcus cu hcu).consistent, fun _ cu hcu => (hcus cu hcu).exact,
    fun cu hcu hnamed => ?_, h.shape.congr hex hprocs, fun hD => ?_,
    by simp [hload'], by simp [hload']⟩
  · rcases hnamed with hnamed | hall
    · exact (hcus cu hcu).numbered hnamed
    · exact horder hall cu hcu
  refine (h.tally hD).congr hprocs fun c hc => ?_
  rw [held_idle (fun cu hcu => (hcus cu hcu).consistent) (fun cu hcu => (hcus cu hcu).totalUsed)
    hc, held, h.unloaded hload]
  rfl

theorem Sound.leak {dev₁ : DeviceData} {prop : CuProperty} (h : dev.Sound D)
    (hD : D.covered → ¬D.balanced) (hload : D.covered → dev.isLoaded = true)
    (hc : prop.clientId ≠ 0) (hreg : dev.allocClientFromDev prop = .ok dev₁) : dev₁.Sound D := by
  have hregistered := allocClientFromDev_spec hreg
  have hframe := hregistered.frame
  refine h.table ?_ ?_ (hregistered.shape h.shape hc) (fun hB => ?_) fun hB hl => ?_
  · rw [hframe]
  · rw [hframe]
  · obtain ⟨refs, htally, hrefs⟩ := h.tally hB
    refine ⟨_, hregistered.tally h.shape htally hc, fun c hc' => ⟨?_, fun hB' => ?_⟩⟩
    · have := (hrefs c hc').1
      simp only [plus]
      split <;> omega
    · exact absurd hB' (hD hB)
  · simp [hload hB] at hl

section TakeAll

variable {svc c : Nat} {pid : Int}

theorem takeAll_cus {P : CuData → Prop} (hall : ∀ cu ∈ dev.cuList, P cu)
    (htake : ∀ cu ∈ dev.cuList, P (cu.takeWhole svc c pid)) :
    ∀ cu ∈ (dev.allocAllCu svc c pid).cuList, P cu := by
  intro cu hcu
  rcases List.mem_append.mp hcu with hcu | hcu
  · obtain ⟨cu₀, hmem, rfl⟩ := List.mem_map.mp hcu
    exact htake cu₀ (List.mem_of_mem_take hmem)
  · exact hall cu (List.mem_of_mem_drop hcu)

theorem takeAll_shape (h : dev.TableShape) (hc : c ≠ 0) :
    (dev.allocAllCu svc c pid).TableShape := by
  have hpos := h.pos
  have hproper : ({ clientId := c, clientProcessId := pid, ref := 1 } : ClientData).Proper :=
    .inr ⟨hc, show (0 : Int) < 1 by decide⟩
  cases hl : dev.clientProcs with
  | nil => simp [hl] at hpos
  | cons e es =>
      have hprocs : (dev.allocAllCu svc c pid).clientProcs =
          { clientId := c, clientProcessId := pid, ref := 1 } :: es := by
        show dev.clientProcs.set 0 _ = _
        rw [hl, List.set_cons_zero]
      have hlen := h.length
      rw [hl] at hlen
      refine ⟨by rw [hprocs]; exact hlen, ?_, ?_, ?_⟩
      · intro entry he
        rw [hprocs] at he
        rcases List.mem_cons.mp he with rfl | he
        · exact hproper
        · exact h.proper entry (by rw [hl]; exact List.mem_cons_of_mem _ he)
      · intro _
        rw [DeviceData.holder, hprocs]
        exact hc
      · intro hex entry he
        rw [hprocs] at he
        exact h.alone hex entry (by rw [hl]; exact he)

theorem takeAll_held (htake : ∀ cu ∈ dev.cuList, cu.Allocated (cu.takeWhole svc c pid)
      (CuData.wholeProp c pid) svc none 0) (hnum : dev.numCu ≤ 1)
    (hzero : ∀ d, d ≠ 0 → dev.held d = 0) {d : Nat} (hd : d ≠ 0) :
    (dev.allocAllCu svc c pid).held d = if d = c ∧ dev.numCu = 1 then 1 else 0 := by
  have hsmall : dev.allocAllNum = dev.numCu := by
    rw [allocAllNum, if_pos]
    simp only [maxListCuNum]
    omega
  have hcus : (dev.allocAllCu svc c pid).cuList =
      dev.cuList.map fun cu => cu.takeWhole svc c pid := by
    show (dev.cuList.take dev.allocAllNum).map _ ++ dev.cuList.drop dev.allocAllNum = _
    rw [hsmall, numCu, List.take_length, List.drop_length, List.append_nil]
  have hbefore := hzero d hd
  rw [held] at hbefore
  rw [held, hcus]
  cases hl : dev.cuList with
  | nil => simp [numCu, hl]
  | cons cu cus =>
      have hmem : cu ∈ dev.cuList := by simp [hl]
      obtain ⟨hi, hfree⟩ := (htake cu hmem).free
      have hnil : cus = [] := by
        rw [numCu, hl, List.length_cons] at hnum
        exact List.length_eq_zero_iff.mp (by omega)
      have hone : dev.numCu = 1 := by
        rw [numCu, hl, hnil]
        rfl
      rw [hl, hnil] at hbefore
      rw [hnil]
      simp only [List.map_cons, List.map_nil, sumBy_cons, sumBy_nil, add_zero,
        (htake cu hmem).eq, CuData.assignChannel_channels] at hbefore ⊢
      rw [heldBy_occupy hi hfree hd, hbefore, zero_add]
      by_cases hdc : d = c
      · exact (if_pos hdc).trans (if_pos ⟨hdc, hone⟩).symm
      · exact (if_neg hdc).trans (if_neg fun h => hdc h.1).symm

theorem Sound.takeAll (h : dev.Sound D)
    (hD : D.covered → dev.numCu ≤ 1 ∧ (D.balanced → dev.numCu = 1) ∧
      ∀ entry ∈ dev.clientProcs, entry = ClientData.zero)
    (hload : dev.isLoaded = true) (hsvc : svc ≠ 0) (hc : c ≠ 0)
    (hidle : ∀ cu ∈ dev.cuList, cu.Idle) : (dev.allocAllCu svc c pid).Sound D := by
  have htake : ∀ cu ∈ dev.cuList, cu.Allocated (cu.takeWhole svc c pid)
      (CuData.wholeProp c pid) svc none 0 :=
    fun cu hcu => CuData.takeWhole_allocated (h.consistent cu hcu) (hidle cu hcu) svc c pid
  have hload' : (dev.allocAllCu svc c pid).isLoaded = true := hload
  refine ⟨?_, fun hF => ?_, ?_, takeAll_shape h.shape hc, fun hB => ?_, by simp [hload'],
    by simp [hload']⟩
  · exact takeAll_cus h.consistent fun cu hcu =>
      (htake cu hcu).consistent (h.consistent cu hcu) (CuData.wholeProp_received pid hc) hsvc
  · exact takeAll_cus (h.exact hF) fun cu hcu =>
      (htake cu hcu).exact (h.consistent cu hcu) (h.exact hF cu hcu)
        (CuData.wholeProp_received pid hc)
  · exact takeAll_cus h.numbered fun cu hcu =>
      (htake cu hcu).kin.numbered (h.numbered cu hcu)
  · obtain ⟨hle, hone, hempty⟩ := hD hB
    have hnone : ∀ d, d ≠ 0 → ∀ entry ∈ dev.clientProcs, entry.clientId ≠ d := by
      intro d hd entry he
      rw [hempty entry he]
      exact hd.symm
    have hheld := fun d (hd : d ≠ 0) =>
      takeAll_held htake hle (fun d hd => held_idle h.consistent hidle hd) hd
    have hpos := h.shape.pos
    have hfirst := List.getElem_mem hpos
    have hprocs : (dev.allocAllCu svc c pid).clientProcs = dev.clientProcs.modify 0 fun _ =>
        { clientId := c, clientProcessId := pid, ref := 1 } := set_eq_modify _ _ _
    refine ⟨fun d => if d = c then 1 else 0, ⟨fun d hd => ?_, fun d hd => ?_⟩, fun d hd => ?_⟩
    · rw [hprocs, sumBy_modify _ _ _ _ hpos, sumBy_refsOf_eq_zero (hnone d hd), refsOf,
        if_neg (hnone d hd _ hfirst), refsOf]
      simp only [eq_comm]
      omega
    · rw [hprocs, sumBy_modify _ _ _ _ hpos, sumBy_naming_eq_zero (hnone d hd), naming,
        if_neg (hnone d hd _ hfirst), naming]
      split <;> omega
    · rw [hheld d hd]
      by_cases hdc : d = c
      · simp only [hdc, true_and, if_true]
        refine ⟨by split <;> omega, fun hB' => ?_⟩
        rw [if_pos (hone hB')]
      · simp [hdc]

end TakeAll

/-! ## Every act -/

/-- Every act keeps the device in order. -/
theorem Act.sound (h : Act D dev dev') (hs : dev.Sound D) : dev'.Sound D := by
  cases h with
  | touch hc hload hreg => exact hs.touch hc hload hreg
  | grab hsent hsvc hreg hcu halloc => exact hs.grab hsent hsvc hreg hcu halloc
  | leak hD hload hc hreg => exact hs.leak hD hload hc hreg
  | steal hD hsent hsvc hcu halloc =>
      exact hs.grant hsent hsvc hcu halloc rfl rfl hs.shape fun hB => absurd hB hD
  | @overRelease c hD hc =>
      have hdropped := dev.dropClient_spec c
      have hframe := hdropped.frame
      refine hs.table ?_ ?_ (hdropped.shape hs.shape hc) (fun hB => absurd hB hD)
        fun hB => absurd hB hD
      · rw [hframe]
      · rw [hframe]
  | takeAll hD hload hsvc hc hidle => exact hs.takeAll hD hload hsvc hc hidle
  | release hload hcu hres => exact hs.release hload hcu hres
  | recycleReserves hc tmpSum change hmeter => exact hs.recycleReserves tmpSum change
  | recycleHolder hc hload hex hholder => exact hs.recycleHolder hc hload hex hholder
  | recycleEntry hc hload hex hi hfound => exact hs.recycleEntry hc hload hex hi hfound
  | clear hidle hcus hload' hex hprocs => exact Sound.clear hcus hex hprocs
  | load hload hnumber hcus horder hload' hex hprocs hcurrent hrate =>
      exact hs.load hload hcus horder hload' hex hprocs
  | mark hcus hload hex hprocs hinfo => exact hs.congr hcus hload hex hprocs

theorem acts_sound (h : Relation.ReflTransGen (Act D) dev dev') (hs : dev.Sound D) :
    dev'.Sound D := by
  induction h with
  | refl => exact hs
  | tail _ hact ih => exact hact.sound ih

end DeviceData

end Xrm
