import Xrm.Verification.Held

/-! # What a success has recorded

An allocation that succeeds has recorded the channel that it reports, whatever it loaded on the
way. The version 2 allocations do so exactly when the CU on which their search ends has a free
channel.
-/

namespace Xrm

open Choice

variable {D : Discipline} {prop : CuProperty} {propV2 : CuPropertyV2} {policyInfo devId : Nat}

namespace System

variable {s s' s₁ : System} {res : CuResource}

/-- No live channel changed. -/
def SameLive (s s' : System) : Prop := ∀ place, s'.liveAt place = s.liveAt place

theorem SameLive.refl (s : System) : SameLive s s := fun _ => rfl

theorem SameLive.trans (h : SameLive s s₁) (h' : SameLive s₁ s') : SameLive s s' :=
  fun place => (h' place).trans (h place)

theorem SameChannels.live (h : SameChannels s s') : SameLive s s' := fun place => by
  rw [liveAt, liveAt, h]

theorem Calm.live (h : Calm s s') : SameLive s s' := fun place => by
  rw [liveAt_eq, liveAt_eq, h.held]

/-! ## Success and the record -/

/-- Every success grants the channel that it reports. -/
def Honest (look : System → Nat × Nat × Nat → Option ChannelData) (s : System)
    (prop : CuProperty) (r : System × Except XrmError CuResource) : Prop :=
  ∀ res, r.2 = .ok res → Grants look s r.1 prop res

theorem Grants.live (h : Grants channelAt s s' prop res) : Grants liveAt s s' prop res where
  nonneg := h.nonneg
  free := by
    intro chan hchan
    rw [liveAt, Option.filter_eq_some_iff] at hchan
    exact h.free chan hchan.1
  taken := by
    obtain ⟨chan, hchan, hne, hspec⟩ := h.taken
    refine ⟨chan, ?_, hne, hspec⟩
    rw [liveAt, hchan, Option.filter_some, if_pos (by simpa using hne)]
  names := h.names
  others := fun place hne => by rw [liveAt, liveAt, h.others place hne]

theorem Grants.afterLive (h : Grants liveAt s₁ s' prop res) (hsame : SameLive s s₁) :
    Grants liveAt s s' prop res where
  nonneg := h.nonneg
  free := fun chan hchan => h.free chan (by rwa [hsame])
  taken := h.taken
  names := h.names
  others := fun place hne => by rw [h.others place hne, hsame]

theorem Allocates.honest {updateId : Bool} {r : System × Except XrmError CuResource}
    (h : Allocates prop updateId s r) (hsound : s.Sound D) (hc : prop.clientId ≠ 0) :
    Honest channelAt s prop r := fun _ hres => h.grants hsound hc hres

theorem Honest.afterLive {r : System × Except XrmError CuResource}
    (h : Honest channelAt s₁ prop r) (hsame : SameLive s s₁) : Honest liveAt s prop r :=
  fun res hres => (h res hres).live.afterLive hsame

theorem Attempt.honest (h : Attempt prop s.getNextAllocServiceId s s' (some res))
    (hsound : s.Sound D) (hc : prop.clientId ≠ 0) (updateId : Bool) :
    Honest channelAt s prop (s'.finishAlloc updateId res) := by
  intro res' hres
  simp only [finishAlloc, Except.ok.injEq] at hres
  subst hres
  exact (h.grants hsound hc).finish updateId

/-! ### Allocation of the least used CU -/

/-- The candidate loop takes a channel of a candidate's CU. -/
theorem shareCandidates_acquired {svc : Nat} {l : List Candidate} {dev dev' : DeviceData}
    (h : shareCandidates prop svc devId l dev = (dev', .acquired res)) :
    ∃ candidate ∈ l, ∃ cu cu' chanId, dev.cuList[candidate.cuId]? = some cu ∧
      cu.allocChanClientFromCu prop svc policyNull none = .allocated cu' chanId ∧
        dev'.cuList = dev.cuList.set candidate.cuId cu' ∧
          At res devId candidate.cuId chanId svc := by
  induction l generalizing dev with
  | nil => simp [shareCandidates] at h
  | cons candidate rest ih =>
      rw [shareCandidates] at h
      split at h
      · simp at h
      rename_i cu hcu
      split at h
      · rename_i cu' chanId halloc
        simp only [Prod.mk.injEq, PassResult.acquired.injEq] at h
        obtain ⟨rfl, rfl⟩ := h
        exact ⟨candidate, List.mem_cons_self, cu, cu', chanId, hcu, halloc, grant_cuList _ _ _ _,
          rfl, rfl, rfl, rfl⟩
      · obtain ⟨candidate', hmem, cu', cu'', chanId, hcu', halloc, hcus, hat⟩ := ih h
        rw [DeviceData.dropClient_cuList] at hcu' hcus
        exact ⟨candidate', List.mem_cons_of_mem _ hmem, cu', cu'', chanId, hcu', halloc, hcus, hat⟩

theorem resAllocLeastUsedCuFromDev_honest (hsound : s.Sound D) (hc : prop.clientId ≠ 0)
    (deviceId : Int)
    (updateId : Bool) :
    Honest channelAt s prop (s.resAllocLeastUsedCuFromDev deviceId prop updateId) := by
  rw [resAllocLeastUsedCuFromDev]
  split
  · exact fun _ h => by simp at h
  rename_i devId dev₁ hregOn
  obtain ⟨-, dev, hdev, hload, hreg⟩ := registerOn_spec hregOn
  have hcus := DeviceData.registered_cuList hreg
  have hcons := (hsound dev (List.mem_of_getElem? hdev)).consistent
  simp only
  split
  · rename_i cuId cu' chanId hsearch
    have hacq := acquired_of_searchCu hsearch
    rw [hcus] at hacq
    exact Attempt.honest (.acquired .refl hdev
      ⟨dev₁, policyNull, cuId, cu', chanId, hreg, hacq, rfl, rfl⟩) hsound hc updateId
  split
  · rename_i dev' res heq
    obtain ⟨candidate, hmem, cu, cu', chanId, hcu, halloc, hset, hat⟩ :=
      shareCandidates_acquired heq
    obtain ⟨-, j, x, hj, hx, hmatch, -⟩ := mem_candidates (mem_sortCandidates.mp hmem)
    rw [zero_add] at hj
    rw [← hj, hcu, Option.some.injEq] at hx
    subst hx
    rw [hcus] at hcu hset
    intro res' hres
    simp only [finishAlloc, Except.ok.injEq] at hres
    subst hres
    exact (grants_of_allocated hdev hcu (hcons cu (List.mem_of_getElem? hcu)) hmatch halloc
      hset hat).finish updateId
  · exact fun _ h => by simp at h

/-! ### Allocations that load -/

theorem resAllocCuWithLoad_honest (h : s.Good D) {env : XrtEnv} (hgap : D.gapless → env.Gapless)
    (hc : prop.clientId ≠ 0) (xclbin : String) (updateId : Bool) :
    Honest liveAt s prop (s.resAllocCuWithLoad env prop xclbin updateId) := by
  have htwice := s.allocTwice_attempt prop policyNull
  rw [resAllocCuWithLoad]
  split
  · exact fun _ h => by simp at h
  split
  · rename_i heq
    rw [heq] at htwice
    exact (htwice.honest h.sound hc updateId).afterLive (.refl s)
  rename_i s₁ q heq
  rw [heq] at htwice
  have htouch := htwice.touched
  have hgood : s₁.Good D := h.evolves (htouch.evolves hc)
  have hlive := (loadAnyDevice_calm hgap xclbin "" hgood.sound hgood.probed).live
  obtain ⟨hev, hjust⟩ := loadAnyDevice_spec hgap xclbin "" hgood.sound
  split
  · exact fun _ h => by simp at h
  rename_i s₂ msg devId heq₁
  rw [heq₁] at hlive hev hjust
  split
  · exact fun _ h => by simp at h
  · exact fun _ h => by simp at h
  · rename_i heq₂
    exact ((allocOnLoaded_attempt (hjust devId rfl) heq₂).honest (hev.sound hgood.sound) hc
      updateId).afterLive (htouch.sameChannels.live.trans hlive)

theorem resAllocCuLeastUsedWithLoad_honest (h : s.Good D) {env : XrtEnv}
    (hgap : D.gapless → env.Gapless) (hc : prop.clientId ≠ 0) (xclbin : String) (updateId : Bool) :
    Honest liveAt s prop (s.resAllocCuLeastUsedWithLoad env prop xclbin updateId) := by
  have hfirst := allocPass_attempt prop policyNull (fun dev => dev.xclbinName == xclbin) unused
    (List.range s.numDevice) s none
  rw [resAllocCuLeastUsedWithLoad]
  split
  · exact fun _ h => by simp at h
  rename_i hunnamed
  have hshare : ∀ {s₁ : System}, s₁.Sound D → SameLive s s₁ →
      Honest liveAt s prop (s₁.shareLeastUsed prop xclbin updateId) := fun hsound hsame =>
    ((shareLeastUsed_allocates _ (Bool.eq_false_of_not_eq_true hunnamed) xclbin
      updateId).honest hsound hc).afterLive hsame
  split
  · rename_i heq
    rw [heq] at hfirst
    exact (hfirst.honest h.sound hc updateId).afterLive (.refl s)
  rename_i s₁ q heq
  rw [heq] at hfirst
  have htouch := hfirst.touched
  have hgood : s₁.Good D := h.evolves (htouch.evolves hc)
  have hlive := (loadAnyDevice_calm hgap xclbin "" hgood.sound hgood.probed).live
  obtain ⟨hev, hjust⟩ := loadAnyDevice_spec hgap xclbin "" hgood.sound
  split
  · rename_i heq₁
    rw [heq₁] at hlive hev
    exact hshare (hev.sound hgood.sound) (htouch.sameChannels.live.trans hlive)
  rename_i s₂ msg devId heq₁
  rw [heq₁] at hlive hev hjust
  have hsound₂ := hev.sound hgood.sound
  have hbefore := htouch.sameChannels.live.trans hlive
  split
  · rename_i heq₂
    exact ((allocOnLoaded_attempt (hjust devId rfl) heq₂).honest hsound₂ hc updateId).afterLive
      hbefore
  · rename_i s₃ r hno heq₂
    cases r with
    | error e =>
        rw [allocOnLoaded_error heq₂]
        exact hshare hsound₂ hbefore
    | ok r =>
        have hattempt := allocOnLoaded_attempt (hjust devId rfl) heq₂
        cases r with
        | acquired res => exact absurd rfl (hno res)
        | missed q =>
            have htouch₂ := hattempt.touched
            have hev₂ : Develops D s₂ s₃ := htouch₂.evolves hc
            exact hshare (hev₂.sound hsound₂) (hbefore.trans htouch₂.sameChannels.live)

/-! ### Version 2 requests -/

theorem resAllocCu_delivers (hsound : s.Sound D) (hs : prop.Sent) (hnamed : prop.unnamed = false)
    (updateId : Bool) : Delivers prop s (s.resAllocCu prop updateId)
      (choose prop policyNull none (s.inTurn prop)).chosen := by
  have hfound := allocTwice_found hsound hs.bounded policyNull
  have hattempt := s.allocTwice_attempt prop policyNull
  rw [resAllocCu, if_neg (by simp [hnamed])]
  generalize ho : choose prop policyNull none (s.inTurn prop) = o at hfound ⊢
  generalize s.allocTwice prop policyNull = r at hfound hattempt ⊢
  obtain ⟨s₁, r⟩ := r
  cases hfound with
  | acquired hdev hcu =>
      exact hattempt.delivers hsound hs ho (mem_inTurn.mp (choose_settled_mem ho)) hdev hcu updateId
  | missed =>
      rw [choose_null_remembered ho]
      exact .refused hattempt.touched.sameChannels

/-- Where the allocation on a given device ends: on a CU of that device, if it is usable. -/
def EndsOnDev (s : System) (prop : CuProperty) (policyInfo : Nat) (deviceId : Int) (q : PreCu) :
    Prop :=
  ∃ devId dev, deviceId = (devId : Nat) ∧ prop.unnamed = false ∧ s.devList[devId]? = some dev ∧
    dev.Usable prop ∧ EndsOn prop policyInfo (inTurnOn prop devId dev) q

theorem fromDevByCuLoad_delivers (hsound : s.Sound D) (hs : propV2.Sent) (deviceId : Int)
    (updateId : Bool) :
    ∃ o, Delivers (cuPropertyCopyFromV2 propV2) s
        (s.resAllocCuFromDevByCuLoad deviceId propV2 updateId) o ∧
      ∀ q, o = some q ↔
        s.EndsOnDev (cuPropertyCopyFromV2 propV2) propV2.policyInfo deviceId q := by
  have hrefused : (∃ e, s.registerOn deviceId (cuPropertyCopyFromV2 propV2) = .error e) →
      Delivers (cuPropertyCopyFromV2 propV2) s
        (s.resAllocCuFromDevByCuLoad deviceId propV2 updateId) none := by
    rintro ⟨e, hregOn⟩
    rw [resAllocCuFromDevByCuLoad]
    simp only [hregOn]
    exact .refused (.refl s)
  cases hnamed : (cuPropertyCopyFromV2 propV2).unnamed with
  | true =>
      refine ⟨none, hrefused ?_, fun q => ?_⟩
      · rw [registerOn, hnamed]
        split <;> exact ⟨_, rfl⟩
      · simp [EndsOnDev, hnamed]
  | false =>
      rcases registerOn_cases hsound deviceId hnamed with
        ⟨devId, dev, dev₁, hid, hdev, husable, hreg, hregOn⟩ | ⟨herr, hno⟩
      · refine ⟨_, resAllocCuFromDevByCuLoad_delivers hsound hs updateId hdev husable.isLoaded hreg
          hregOn, fun q => ?_⟩
        rw [choose_chosen_iff]
        constructor
        · exact fun h => ⟨devId, dev, hid, hnamed, hdev, husable, h⟩
        · rintro ⟨devId', dev', hid', -, hdev', -, h⟩
          obtain rfl : devId = devId' := by omega
          rw [hdev, Option.some.injEq] at hdev'
          rwa [hdev']
      · refine ⟨none, hrefused herr, fun q => ?_⟩
        simp only [reduceCtorEq, false_iff]
        rintro ⟨devId, dev, hid, -, hdev, husable, -⟩
        exact hno devId dev hid hdev husable

/-- Where the allocation for a version 2 request ends. -/
def EndsV2 (s : System) (propV2 : CuPropertyV2) (q : PreCu) : Prop :=
  let prop := cuPropertyCopyFromV2 propV2
  if propV2.kernelName == "" && propV2.kernelAlias == "" && propV2.cuName == "" then False
  else if propV2.constraintType = constraintNull then
    if propV2.policyInfo = policyDevMostUsedFirst ∨
        propV2.policyInfo = policyDevLeastUsedFirst then
      s.EndsOnFirst prop propV2.policyInfo (s.devLoadOrder propV2.policyInfo) q
    else if propV2.policyInfo = policyCuMostUsedFirst ∨
        propV2.policyInfo = policyCuLeastUsedFirst then
      EndsOn prop propV2.policyInfo (s.inTurn prop) q
    else prop.unnamed = false ∧ EndsOn prop policyNull (s.inTurn prop) q
  else if propV2.constraintType = constraintHardwareDeviceIndex then
    s.EndsOnDev prop propV2.policyInfo (i32 propV2.deviceIndex) q
  else False

/-- Every version 2 allocation ends on a chosen CU. -/
theorem resAllocCuV2_delivers (hsound : s.Sound D) (hnum : s.Numbered) (hs : propV2.Sent)
    (updateId : Bool) :
    ∃ o, Delivers (cuPropertyCopyFromV2 propV2) s (s.resAllocCuV2 propV2 updateId) o ∧
      ∀ q, o = some q ↔ s.EndsV2 propV2 q := by
  have hs' : (cuPropertyCopyFromV2 propV2).Sent := hs
  simp only [EndsV2]
  rw [resAllocCuV2]
  split
  · exact ⟨none, .refused (.refl s), by simp⟩
  split
  · split
    · exact ⟨_, byDevLoad_delivers hsound hnum hs updateId, fun q => firstChosen_iff⟩
    split
    · exact ⟨_, resAllocCuByCuLoad_delivers hsound hs updateId, fun q => choose_chosen_iff⟩
    · cases hnamed : (cuPropertyCopyFromV2 propV2).unnamed with
      | true =>
          refine ⟨none, ?_, by simp⟩
          rw [resAllocCu, if_pos hnamed]
          exact .refused (.refl s)
      | false =>
          refine ⟨_, resAllocCu_delivers hsound hs' hnamed updateId, fun q => ?_⟩
          simp [choose_chosen_iff]
  split
  · exact fromDevByCuLoad_delivers hsound hs _ updateId
  · exact ⟨none, .refused (.refl s), by simp⟩

/-- The names that a version 2 request asks for, the name of the CU among them. -/
def asked (propV2 : CuPropertyV2) : CuProperty :=
  { cuPropertyCopyFromV2 propV2 with cuName := propV2.cuName }

/-- The CU of a granted channel, as it stood before. -/
theorem matches_iff {q : PreCu} {prop' : CuProperty} (hdev : res.deviceId = q.devId)
    (hcu : res.cuId = q.cuId) (hstands : s'.Stands q) :
    (∃ dev cu, s'.devList[res.place.1]? = some dev ∧ dev.cuList[res.place.2.1]? = some cu ∧
      cu.matchesCu prop' = true) ↔ q.cu.matchesCu prop' = true := by
  obtain ⟨dev, cu, hd, hc, hinfo⟩ := hstands
  have hplace : res.place.1 = q.devId ∧ res.place.2.1 = q.cuId := by
    simp [CuResource.place, hdev, hcu]
  have hsame : cu.matchesCu prop' = q.cu.matchesCu prop' := by
    rw [CuData.matchesCu, CuData.matchesCu, hinfo]
  rw [hplace.1, hplace.2, ← hsame]
  constructor
  · rintro ⟨dev', cu', hd', hc', hmatch⟩
    rw [hd, Option.some.injEq] at hd'
    subst hd'
    rw [hc, Option.some.injEq] at hc'
    rwa [hc']
  · exact fun hmatch => ⟨dev, cu, hd, hc, hmatch⟩

/-- An allocation that ends on a chosen CU records what the request asked for exactly when that
CU has a free channel and all names of the request. -/
theorem Delivers.honest_iff {r : System × Except XrmError CuResource} {o : Option PreCu}
    (h : Delivers (cuPropertyCopyFromV2 propV2) s r o) :
    Honest channelAt s (asked propV2) r ↔
      ∀ q, o = some q → q.cu.HasChannel ∧ q.cu.matchesCu (asked propV2) = true := by
  cases h with
  | refused h => simp [Honest]
  | @granted s' res q hdev hcu h hstands hchan =>
      have hiff := @matches_iff _ _ _ (asked propV2) hdev hcu hstands
      constructor
      · rintro hgrants q' hq'
        rw [Option.some.injEq] at hq'
        rw [← hq']
        exact ⟨hchan, hiff.mp (hgrants res rfl).names⟩
      · rintro hall res' hres'
        simp only [Except.ok.injEq] at hres'
        rw [← hres']
        exact ⟨h.nonneg, h.free, h.taken, hiff.mpr (hall q rfl).2, h.others⟩
  | @hollow s' res q _ _ h hchan =>
      constructor
      · intro hgrants
        obtain ⟨-, hfree, ⟨chan, hchan', hne, -⟩, -, -⟩ := hgrants res rfl
        exact absurd (hfree chan (by rw [← h]; exact hchan')) hne
      · intro hall
        exact absurd (hall q rfl).1 hchan

/-- In every state that the daemon reaches, a success of the version 1 allocations has recorded
exactly the channel that it reports. A success of the version 2 allocations has done so exactly
when the CU on which the search ends has a free channel and the names of the request. -/
theorem success_is_recorded {limit : Nat} (h : Reachable allRuns limit s) (hs : prop.Sent)
    (hs' : propV2.Sent) (updateId : Bool) :
    (Honest channelAt s prop (s.resAllocCu prop updateId) ∧
      (∀ deviceId, Honest channelAt s prop (s.resAllocCuFromDev deviceId prop updateId)) ∧
      (∀ deviceId, Honest channelAt s prop (s.resAllocLeastUsedCuFromDev deviceId prop updateId)) ∧
      ∀ env xclbin, Honest liveAt s prop (s.resAllocCuWithLoad env prop xclbin updateId) ∧
        Honest liveAt s prop (s.resAllocCuLeastUsedWithLoad env prop xclbin updateId)) ∧
    (Honest channelAt s (asked propV2) (s.resAllocCuByDevLoad propV2 updateId) ↔
      ∀ q, s.EndsOnFirst (cuPropertyCopyFromV2 propV2) propV2.policyInfo
        (s.devLoadOrder propV2.policyInfo) q →
          q.cu.HasChannel ∧ q.cu.matchesCu (asked propV2) = true) ∧
    (Honest channelAt s (asked propV2) (s.resAllocCuByCuLoad propV2 updateId) ↔
      ∀ q, EndsOn (cuPropertyCopyFromV2 propV2) propV2.policyInfo
        (s.inTurn (cuPropertyCopyFromV2 propV2)) q →
          q.cu.HasChannel ∧ q.cu.matchesCu (asked propV2) = true) ∧
    (∀ deviceId,
      Honest channelAt s (asked propV2) (s.resAllocCuFromDevByCuLoad deviceId propV2 updateId) ↔
        ∀ q, s.EndsOnDev (cuPropertyCopyFromV2 propV2) propV2.policyInfo deviceId q →
          q.cu.HasChannel ∧ q.cu.matchesCu (asked propV2) = true) ∧
    (Honest channelAt s (asked propV2) (s.resAllocCuV2 propV2 updateId) ↔
      ∀ q, s.EndsV2 propV2 q → q.cu.HasChannel ∧ q.cu.matchesCu (asked propV2) = true) := by
  have hgood := h.good
  have hsound := hgood.sound
  refine ⟨⟨?_, ?_, ?_, ?_⟩, ?_, ?_, ?_, ?_⟩
  · exact (s.resAllocCu_allocates prop updateId).honest hsound hs.1
  · exact fun deviceId => (s.resAllocCuFromDev_allocates deviceId prop updateId).honest hsound hs.1
  · exact fun deviceId => resAllocLeastUsedCuFromDev_honest hsound hs.1 deviceId updateId
  · exact fun env xclbin => ⟨resAllocCuWithLoad_honest hgood False.elim hs.1 xclbin updateId,
      resAllocCuLeastUsedWithLoad_honest hgood False.elim hs.1 xclbin updateId⟩
  · rw [(byDevLoad_delivers hsound h.numbered hs' updateId).honest_iff]
    simp only [firstChosen_iff]
  · rw [(resAllocCuByCuLoad_delivers hsound hs' updateId).honest_iff]
    simp only [choose_chosen_iff]
  · intro deviceId
    obtain ⟨o, hdelivers, ho⟩ := fromDevByCuLoad_delivers hsound hs' deviceId updateId
    rw [hdelivers.honest_iff]
    simp only [ho]
  · obtain ⟨o, hdelivers, ho⟩ := resAllocCuV2_delivers hsound h.numbered hs' updateId
    rw [hdelivers.honest_iff]
    simp only [ho]

open Scenario in
theorem success_is_recorded_uneven :
    (Honest channelAt (after unevenRun) (request 2 0 300000)
        ((after unevenRun).resAllocCu (request 2 0 300000) true) ∧
      (∀ deviceId, Honest channelAt (after unevenRun) (request 2 0 300000)
        ((after unevenRun).resAllocCuFromDev deviceId (request 2 0 300000) true)) ∧
      (∀ deviceId, Honest channelAt (after unevenRun) (request 2 0 300000)
        ((after unevenRun).resAllocLeastUsedCuFromDev deviceId (request 2 0 300000) true)) ∧
      ∀ env xclbin, Honest liveAt (after unevenRun) (request 2 0 300000)
          ((after unevenRun).resAllocCuWithLoad env (request 2 0 300000) xclbin true) ∧
        Honest liveAt (after unevenRun) (request 2 0 300000)
          ((after unevenRun).resAllocCuLeastUsedWithLoad env (request 2 0 300000) xclbin true)) ∧
    (Honest channelAt (after unevenRun) (asked (requestV2 2 0 300000 policyCuMostUsedFirst))
        ((after unevenRun).resAllocCuByDevLoad
          (requestV2 2 0 300000 policyCuMostUsedFirst) true) ↔
      ∀ q, (after unevenRun).EndsOnFirst (request 2 0 300000) policyCuMostUsedFirst
        ((after unevenRun).devLoadOrder policyCuMostUsedFirst) q →
          q.cu.HasChannel ∧
            q.cu.matchesCu (asked (requestV2 2 0 300000 policyCuMostUsedFirst)) = true) ∧
    (Honest channelAt (after unevenRun) (asked (requestV2 2 0 300000 policyCuMostUsedFirst))
        ((after unevenRun).resAllocCuByCuLoad
          (requestV2 2 0 300000 policyCuMostUsedFirst) true) ↔
      ∀ q, EndsOn (request 2 0 300000) policyCuMostUsedFirst
        ((after unevenRun).inTurn (request 2 0 300000)) q →
          q.cu.HasChannel ∧
            q.cu.matchesCu (asked (requestV2 2 0 300000 policyCuMostUsedFirst)) = true) ∧
    (∀ deviceId,
      Honest channelAt (after unevenRun) (asked (requestV2 2 0 300000 policyCuMostUsedFirst))
        ((after unevenRun).resAllocCuFromDevByCuLoad deviceId
          (requestV2 2 0 300000 policyCuMostUsedFirst) true) ↔
        ∀ q, (after unevenRun).EndsOnDev (request 2 0 300000) policyCuMostUsedFirst deviceId q →
          q.cu.HasChannel ∧
            q.cu.matchesCu (asked (requestV2 2 0 300000 policyCuMostUsedFirst)) = true) ∧
    (Honest channelAt (after unevenRun) (asked (requestV2 2 0 300000 policyCuMostUsedFirst))
        ((after unevenRun).resAllocCuV2 (requestV2 2 0 300000 policyCuMostUsedFirst) true) ↔
      ∀ q, (after unevenRun).EndsV2 (requestV2 2 0 300000 policyCuMostUsedFirst) q →
        q.cu.HasChannel ∧
          q.cu.matchesCu (asked (requestV2 2 0 300000 policyCuMostUsedFirst)) = true) :=
  success_is_recorded (reachable_after unevenRun (by decide +kernel))
    (by decide : (request 2 0 300000).Sent)
    (by decide : (requestV2 2 0 300000 policyCuMostUsedFirst).Sent) true

end System

/-! ## A CU without a free channel -/

namespace System

open Scenario in
/-- One device with one CU, `n` of whose channels carry the load 1. -/
structure Filled (n : Nat) (s : System) : Prop where
  reachable : Reachable allRuns 8 s
  device : ∃ dev cu, s.devList = [dev] ∧ dev.cuList = [cu] ∧ dev.Usable (request 1 0 1) ∧
    cu.kernelName = "scaler" ∧ cu.totalUsedLoadUnified = n ∧ cu.numChanInuse = n

/-- What an attempt did that took a channel of the only CU. -/
theorem Attempt.onlyCu {svc : Nat} (h : Attempt prop svc s s' (some res)) (hsound : s.Sound D)
    (hs : prop.Sent) {dev : DeviceData} {cu : CuData} (hdev : s.devList = [dev])
    (hcus : dev.cuList = [cu]) :
    ∃ dev' cu' idx chanId, s'.devList = [dev'] ∧ dev'.cuList = [cu'] ∧ dev'.Usable prop ∧
      cu.Allocated cu' prop svc idx chanId := by
  cases h with
  | @acquired s₁ i dev₂ dev₃ _ htouch hdev₁ hgrab =>
      have hgood : System.Sound D s₁ := (htouch.evolves hs.1).sound hsound
      obtain ⟨hi, -⟩ := List.getElem?_eq_some_iff.mp hdev₁
      have hlen : s₁.devList.length = 1 := by
        have := htouch.numDevice
        rw [numDevice, numDevice, hdev] at this
        exact this
      obtain rfl : i = 0 := by omega
      have hfirst : s.devList[0]? = some dev := by rw [hdev]; rfl
      obtain ⟨x, hx, hcus', -⟩ := htouch.device hfirst
      rw [hdev₁, Option.some.injEq] at hx
      subst hx
      obtain ⟨y, hy⟩ := List.length_eq_one_iff.mp hlen
      have hdevSound := hgood dev₂ (List.mem_of_getElem? hdev₁)
      obtain ⟨dev₁, policyInfo, cuId, cu', chanId, hreg, ⟨x, pre, hcu, -, halloc⟩, rfl, -⟩ := hgrab
      rw [hcus', hcus] at hcu
      obtain ⟨rfl, rfl⟩ : cuId = 0 ∧ x = cu := by
        cases cuId with
        | zero => simpa using hcu.symm
        | succ cuId => simp at hcu
      obtain ⟨idx, hallocated⟩ := CuData.allocated_of_allocChan
        (hdevSound.consistent x (by simp [hcus', hcus])) halloc
      have haccess := (DeviceData.allocClientFromDev_spec hreg).usable_iff hdevSound.shape.pos
        (rfl : prop.clientId = prop.clientId)
      refine ⟨_, cu', idx, chanId, ?_, ?_, DeviceData.grant_usable (haccess.mpr
        (DeviceData.usable_of_registered hdevSound.shape ?_ hreg)) 0 cu', hallocated⟩
      · rw [setDev, hy]
        rfl
      · rw [grant_cuList, DeviceData.registered_cuList hreg, hcus', hcus]
        rfl
      · by_contra hno
        have hempty := hdevSound.unloaded (Bool.eq_false_of_not_eq_true hno)
        simp [hcus', hcus] at hempty

open Scenario in
theorem filled_zero : Filled 0 (after [.loadOneDevice (env 1 1) 0 "scaler.xclbin"]) where
  reachable := reachable_after _ (by decide +kernel)
  device := ⟨_, _, rfl, rfl, by decide +kernel, by decide +kernel, by decide +kernel,
    by decide +kernel⟩

open Scenario in
/-- One more allocation of the load 1. -/
theorem Filled.next {n : Nat} (h : Filled n s) (hn : n < 1000) :
    Filled (n + 1) (step s (.resAllocCu (request 1 0 1) true)) := by
  obtain ⟨hreach, dev, cu, hdev, hcus, husable, hname, htotal, hinUse⟩ := h
  have hs : (request 1 0 1).Sent := by decide
  have hnamed : (request 1 0 1).unnamed = false := by decide
  have hsound := hreach.good.sound
  have hget : s.devList[0]? = some dev := by rw [hdev]; rfl
  have hcons := (hsound dev (List.mem_of_getElem? hget)).consistent cu (by simp [hcus])
  have heligible : s.Eligible (request 1 0 1) ⟨0, 0, cu⟩ := by
    refine ⟨⟨⟨dev, hget, husable, by simp [hcus]⟩, ?_⟩, ?_, ?_⟩
    · simp [CuData.matchesCu, CuData.nameEqual, request, hname]
    · refine ⟨_, CuData.share_default rfl, ?_⟩
      simp only [htotal, request, maxChanLoad]
      omega
    · rw [CuData.hasChannel_iff hcons, hinUse, maxKernelChannels]
      exact_mod_cast hn
  obtain ⟨res, hres⟩ := (resAllocCu_first_fit hreach hs hnamed true).1.complete ⟨_, heligible⟩
  refine ⟨hreach.next _ ⟨hs.received, False.elim, False.elim, False.elim, False.elim⟩, ?_⟩
  have halloc := s.resAllocCu_allocates (request 1 0 1) true
  rw [step]
  generalize s.resAllocCu (request 1 0 1) true = r at halloc hres
  cases halloc with
  | failed => simp at hres
  | @granted s₁ res' _ hattempt =>
      obtain ⟨dev', cu', idx, chanId, hdev', hcus', husable', hallocated⟩ :=
        hattempt.onlyCu hsound hs hdev hcus
      have hnone : idx = none := by
        cases idx with
        | none => rfl
        | some i =>
            have hslot := hallocated.admits.1
            simp [request, CuData.isReservePoolUsingCu] at hslot
      rw [hnone] at hallocated
      have hlist : (s₁.finishAlloc true res').1.devList = [dev'] := hdev'
      refine ⟨dev', cu', hlist, hcus', husable', ?_, ?_, ?_⟩
      · rw [← hname, hallocated.kin.toCuInfo]
      · have hone : (request 1 0 1).requestLoadUnified = 1 := rfl
        rw [hallocated.eq, (CuData.assignChannel_none _ _ _ _).2, htotal, hone,
          i32_eq (by omega) (by omega)]
        rfl
      · rw [hallocated.eq, CuData.assignChannel_numChanInuse, hinUse]
        rfl

theorem exists_filled {n : Nat} (hn : n ≤ 1000) : ∃ s, Filled n s := by
  induction n with
  | zero => exact ⟨_, filled_zero⟩
  | succ n ih =>
      obtain ⟨s, h⟩ := ih (by omega)
      exact ⟨_, h.next (by omega)⟩

open Scenario in
/-- When all channels of the only CU are in use, a version 2 request under a policy of the CUs
still succeeds, and has recorded nothing. -/
theorem success_is_recorded_fails : ∃ limit s, Reachable allRuns limit s ∧
    (requestV2 1 0 1 policyCuMostUsedFirst).Sent ∧
      ¬Honest channelAt s (asked (requestV2 1 0 1 policyCuMostUsedFirst))
        (s.resAllocCuV2 (requestV2 1 0 1 policyCuMostUsedFirst) true) := by
  obtain ⟨s, h⟩ := exists_filled (le_refl 1000)
  obtain ⟨hreach, dev, cu, hdev, hcus, husable, hname, htotal, hinUse⟩ := h
  have hs : (requestV2 1 0 1 policyCuMostUsedFirst).Sent := by decide
  have hsound := hreach.good.sound
  have hget : s.devList[0]? = some dev := by rw [hdev]; rfl
  have hcons := (hsound dev (List.mem_of_getElem? hget)).consistent cu (by simp [hcus])
  have hmem : (⟨0, 0, cu⟩ : PreCu) ∈ s.inTurn (request 1 0 1) := by
    refine mem_inTurn.mpr ⟨⟨dev, hget, husable, by simp [hcus]⟩, ?_⟩
    simp [CuData.matchesCu, CuData.nameEqual, request, hname]
  have hshare := @CuData.share_default (request 1 0 1) cu rfl
  have hfits : cu.Fits (request 1 0 1) := by
    refine ⟨_, hshare, ?_⟩
    simp [htotal, request, maxChanLoad]
  have hdefers : cu.Defers (request 1 0 1) policyCuMostUsedFirst := by
    refine ⟨_, hshare, .inl ⟨rfl, ?_⟩⟩
    simp [htotal, request, maxChanLoad]
  refine ⟨8, s, hreach, hs, fun hhonest => ?_⟩
  cases hchosen : (choose (request 1 0 1) policyCuMostUsedFirst none
      (s.inTurn (request 1 0 1))).chosen with
  | none =>
      have hnot := (scan_chosen_eq_none_iff.mp hchosen _ hmem).2
      simp [hfits, hdefers] at hnot
  | some q =>
      have hends : EndsOn (request 1 0 1) policyCuMostUsedFirst (s.inTurn (request 1 0 1)) q :=
        choose_chosen_iff.mp hchosen
      obtain ⟨o, hdelivers, ho⟩ := resAllocCuV2_delivers hsound hreach.numbered hs true
      have hchan := (hdelivers.honest_iff.mp hhonest q ((ho q).mpr hends)).1
      -- the only CU is the one that the search ends on
      obtain ⟨dev', hdev', -, hcu⟩ := (mem_inTurn.mp hends.fits.1).device
      have hdev₀ : dev' ∈ s.devList := List.mem_of_getElem? hdev'
      rw [hdev, List.mem_singleton] at hdev₀
      subst hdev₀
      have hcu₀ : q.cu ∈ dev'.cuList := List.mem_of_getElem? hcu
      rw [hcus, List.mem_singleton] at hcu₀
      rw [hcu₀, CuData.hasChannel_iff hcons, hinUse, maxKernelChannels] at hchan
      simp at hchan

end System

end Xrm
