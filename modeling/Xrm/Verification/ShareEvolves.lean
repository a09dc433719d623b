import Xrm.Verification.AllocEvolves

/-! # Sharing the least used CU, and allocations that load -/

namespace Xrm

open Relation

variable {D : Discipline} {prop : CuProperty} {svc : Nat}

/-! ## The candidates -/

/-- A candidate is a matching CU of the list with room for the load. -/
theorem mem_candidates {devId k : Nat} {cus : List CuData} {candidate : Candidate}
    (h : candidate ∈ candidates prop devId k cus) :
    candidate.devId = devId ∧ ∃ j cu, candidate.cuId = k + j ∧ cus[j]? = some cu ∧
      cu.matchesCu prop = true ∧ candidate.totalUsedLoadUnified = cu.totalUsedLoadUnified ∧
        i32 (prop.requestLoadUnified + cu.totalUsedLoadUnified) ≤ maxChanLoad := by
  induction cus generalizing k with
  | nil => simp [candidates] at h
  | cons cu cus ih =>
      have hskip : candidate ∈ candidates prop devId (k + 1) cus →
          candidate.devId = devId ∧ ∃ j cu₁, candidate.cuId = k + j ∧ (cu :: cus)[j]? = some cu₁ ∧
            cu₁.matchesCu prop = true ∧
              candidate.totalUsedLoadUnified = cu₁.totalUsedLoadUnified ∧
                i32 (prop.requestLoadUnified + cu₁.totalUsedLoadUnified) ≤ maxChanLoad := by
        intro hrest
        obtain ⟨hdev, j, cu₁, hj, hcu₁, hspec⟩ := ih hrest
        exact ⟨hdev, j + 1, cu₁, by omega, by simpa using hcu₁, hspec⟩
      rw [candidates] at h
      split at h
      · rename_i hmatch
        rw [Bool.and_eq_true, decide_eq_true_eq] at hmatch
        rcases List.mem_cons.mp h with rfl | hrest
        · exact ⟨rfl, 0, cu, rfl, rfl, hmatch.1, rfl, hmatch.2⟩
        · exact hskip hrest
      · exact hskip h

theorem mem_sortCandidates {l : List Candidate} {candidate : Candidate} :
    candidate ∈ sortCandidates l ↔ candidate ∈ l :=
  List.mem_insertionSort _

namespace DeviceData

variable {dev dev₁ : DeviceData}

/-! ## The candidate loop on one device -/

/-- The CU of the candidate gives the request a channel. -/
def GivesAt (dev : DeviceData) (prop : CuProperty) (svc : Nat) (candidate : Candidate) : Prop :=
  ∃ cu, dev.cuList[candidate.cuId]? = some cu ∧ cu.Gives prop svc

theorem givesAt_dropClient {candidate : Candidate} {c : Nat} :
    (dev.dropClient c).GivesAt prop svc candidate ↔ dev.GivesAt prop svc candidate := by
  rw [GivesAt, GivesAt, dropClient_cuList]

/-- Without a discipline on the references, whatever the candidate loop does is allowed. -/
theorem shareCandidates_uncovered (hD : ¬D.covered) (hs : prop.Received) (hsvc : svc ≠ 0)
    (devId : Nat) (l : List Candidate) (dev : DeviceData) :
    ReflTransGen (Work D) dev (shareCandidates prop svc devId l dev).1 := by
  induction l generalizing dev with
  | nil => exact .refl
  | cons candidate rest ih =>
      rw [shareCandidates]
      split
      · exact .refl
      rename_i cu hcu
      split
      · rename_i cu' chanId halloc
        exact .single (.steal hD hs hsvc hcu halloc)
      · exact .head (.overRelease hD hs.1) (ih _)

/-- A candidate that gives a channel ends the loop. -/
theorem shareCandidates_first (devId : Nat) {candidate : Candidate} (rest : List Candidate)
    (hgives : dev.GivesAt prop svc candidate) :
    ∃ cu cu' chanId, dev.cuList[candidate.cuId]? = some cu ∧
      cu.allocChanClientFromCu prop svc policyNull none = .allocated cu' chanId ∧
        shareCandidates prop svc devId (candidate :: rest) dev =
          (dev.grant prop candidate.cuId cu',
            .acquired (dev.grantedResource devId prop svc candidate.cuId cu' chanId)) := by
  obtain ⟨cu, hcu, cu', chanId, halloc⟩ := hgives
  refine ⟨cu, cu', chanId, hcu, halloc, ?_⟩
  rw [shareCandidates, hcu]
  simp only [halloc]

/-- Every candidate that gives nothing drops the client once. -/
theorem shareCandidates_none {devId : Nat} {l : List Candidate} {dev : DeviceData}
    (hmem : ∀ candidate ∈ l, ∃ cu, dev.cuList[candidate.cuId]? = some cu)
    (hno : ∀ candidate ∈ l, ¬dev.GivesAt prop svc candidate) :
    shareCandidates prop svc devId l dev =
      ((fun dev : DeviceData => dev.dropClient prop.clientId)^[l.length] dev, .missed none) := by
  induction l generalizing dev with
  | nil => rfl
  | cons candidate rest ih =>
      obtain ⟨cu, hcu⟩ := hmem candidate (by simp)
      have hrest := @ih (dev.dropClient prop.clientId)
        (fun c hc => by
          rw [dropClient_cuList]
          exact hmem c (by simp [hc]))
        (fun c hc => by
          rw [givesAt_dropClient]
          exact hno c (by simp [hc]))
      rw [shareCandidates, hcu]
      simp only
      split
      · rename_i cu' chanId halloc
        exact absurd ⟨cu, hcu, cu', chanId, halloc⟩ (hno candidate (by simp))
      · rw [hrest, List.length_cons, Function.iterate_succ_apply]

/-- Dropping a client that is not in the table any more changes nothing. -/
theorem iterate_dropClient {c : Nat} (hs : dev.TableShape)
    (hnone : ∀ entry ∈ dev.clientProcs, entry.clientId ≠ c) (n : Nat) :
    (fun dev : DeviceData => dev.dropClient c)^[n] dev = dev := by
  induction n with
  | zero => rfl
  | succ n ih => rw [Function.iterate_succ_apply, dropClient_not_mem hs hnone, ih]

theorem not_upgrades_of_new (hnone : ∀ entry ∈ dev.clientProcs, entry.clientId ≠ prop.clientId) :
    ¬dev.Upgrades prop := by
  rintro ⟨-, -, -, entry, he, heq⟩
  exact hnone entry he heq

/-! ## The least used CU of one device -/

/-- The sorted candidates of the device. -/
def shared (dev : DeviceData) (devId : Nat) (prop : CuProperty) : List Candidate :=
  sortCandidates (candidates prop devId 0 dev.cuList)

/-- What keeps the references right in the candidate loop: the first candidate gives a
channel, or none does and the client is not dropped twice. -/
def ShareOk (dev : DeviceData) (devId : Nat) (prop : CuProperty) (svc : Nat) : Prop :=
  (∃ candidate rest, dev.shared devId prop = candidate :: rest ∧ dev.GivesAt prop svc candidate) ∨
    (∀ candidate ∈ dev.shared devId prop, ¬dev.GivesAt prop svc candidate) ∧
      ((dev.shared devId prop).length ≤ 1 ∨
        ∀ entry ∈ dev.clientProcs, entry.clientId ≠ prop.clientId)

theorem shareCandidates_acts {devId : Nat} (hsound : dev.Sound D) (hload : dev.isLoaded = true)
    (hs : prop.Received) (hsvc : svc ≠ 0) (hreg : dev.allocClientFromDev prop = .ok dev₁)
    (hok : D.covered → dev.ShareOk devId prop svc)
    (hsome : D.covered → D.balanced → dev.shared devId prop ≠ []) :
    ReflTransGen (Work D) dev
      (shareCandidates prop svc devId (dev.shared devId prop) dev₁).1 := by
  have hcus := registered_cuList hreg
  by_cases hD : D.covered
  case neg =>
    refine .head (.leak (fun h => absurd h hD) (fun h => absurd h hD) hs.1 hreg) ?_
    exact shareCandidates_uncovered hD hs hsvc devId _ dev₁
  rcases hok hD with ⟨candidate, rest, hl, hgives⟩ | ⟨hno, hdrops⟩
  · have hgives₁ : dev₁.GivesAt prop svc candidate := by rwa [GivesAt, hcus]
    obtain ⟨cu, cu', chanId, hcu, halloc, heq⟩ :=
      shareCandidates_first devId rest hgives₁
    rw [hcus] at hcu
    rw [hl, heq]
    exact .single (.grab hs hsvc hreg hcu halloc)
  · have hmem : ∀ candidate ∈ dev.shared devId prop,
        ∃ cu, dev₁.cuList[candidate.cuId]? = some cu := by
      intro candidate hc
      obtain ⟨-, j, cu, hj, hcu, -⟩ := mem_candidates (mem_sortCandidates.mp hc)
      rw [zero_add] at hj
      exact ⟨cu, by rw [hcus, hj, hcu]⟩
    have hno₁ : ∀ candidate ∈ dev.shared devId prop, ¬dev₁.GivesAt prop svc candidate := by
      intro candidate hc
      rw [GivesAt, hcus]
      exact hno candidate hc
    rw [shareCandidates_none hmem hno₁]
    cases hl : dev.shared devId prop with
    | nil =>
        exact .single (.leak (fun hD hB => hsome hD hB hl) (fun _ => hload) hs.1 hreg)
    | cons candidate rest =>
        rw [List.length_cons, Function.iterate_succ_apply]
        have htouch : Work D dev (dev₁.dropClient prop.clientId) := .touch hs.1 hload hreg
        rcases hdrops with hone | hnew
        · have hrest : rest.length = 0 := by
            rw [hl, List.length_cons] at hone
            omega
          rw [hrest]
          exact .single htouch
        · rw [touch_eq hsound.shape hload hs.1 hreg (not_upgrades_of_new hnew),
            iterate_dropClient hsound.shape hnew]

end DeviceData

namespace System

variable {s s' : System}

/-- What keeps the discipline when a CU of the given device is shared. -/
def LeastUsedOk (D : Discipline) (s : System) (deviceId : Int) (prop : CuProperty) : Prop :=
  ∀ devId dev₁ dev, s.registerOn deviceId prop = .ok (devId, dev₁) →
    s.devList[devId]? = some dev →
      (∃ cuId cu chanId, searchCu prop s.getNextAllocServiceId policyNull unused devId 0
        dev.cuList none = .acquired cuId cu chanId) ∨
      dev.ShareOk devId prop s.getNextAllocServiceId ∧
        (D.balanced → dev.shared devId prop ≠ [])

theorem resAllocLeastUsedCuFromDev_evolves (hsound : s.Sound D) (deviceId : Int)
    (prop : CuProperty) (updateId : Bool) (hs : prop.Received)
    (hok : D.covered → s.LeastUsedOk D deviceId prop) :
    Develops D s (s.resAllocLeastUsedCuFromDev deviceId prop updateId).1 := by
  rw [resAllocLeastUsedCuFromDev]
  split
  · exact evolves_refl D s
  rename_i devId dev₁ hregOn
  obtain ⟨-, dev, hdev, hload, hreg⟩ := registerOn_spec hregOn
  have hcus := DeviceData.registered_cuList hreg
  simp only
  split
  · rename_i cuId cu' chanId hsearch
    obtain ⟨cu, pre, hcu, -, halloc⟩ := (acquired_of_searchCu hsearch).found
    rw [hcus] at hcu
    exact (evolves_setDev hdev (.single (.grab hs (nextId_ne_zero _) hreg hcu halloc))).trans
      (finishAlloc_evolves D _ updateId _)
  · rename_i hmissed
    have hnot : ¬∃ cuId cu chanId, searchCu prop s.getNextAllocServiceId policyNull unused devId 0
        dev.cuList none = .acquired cuId cu chanId := by
      rintro ⟨cuId, cu, chanId, h⟩
      rw [hcus, h] at hmissed
      simp at hmissed
    have hok' := fun hD => (hok hD devId dev₁ dev hregOn hdev).resolve_left hnot
    have hsvc : s.getNextAllocServiceId ≠ 0 := nextId_ne_zero _
    have hacts := DeviceData.shareCandidates_acts (hsound dev (List.mem_of_getElem? hdev)) hload
      hs hsvc hreg (fun hD => (hok' hD).1) fun hD => (hok' hD).2
    rw [DeviceData.shared, ← hcus] at hacts
    have hev := evolves_setDev hdev hacts
    split
    · rename_i heq
      rw [heq] at hev
      exact hev.trans (finishAlloc_evolves D _ updateId _)
    · rename_i heq
      rw [heq] at hev
      exact hev

/-! ## Allocation that loads an xclbin -/

theorem allocOnLoaded_attempt {devId : Nat} {wanted : CuData → Bool} {r : PassResult}
    (hjust : s.JustLoaded D devId) (h : s.allocOnLoaded devId prop wanted = (s', .ok r)) :
    Attempt prop s.getNextAllocServiceId s s' r.found := by
  obtain ⟨dev, hdev, hload, -, -⟩ := hjust
  rw [allocOnLoaded, hdev] at h
  simp only at h
  split at h
  · simp at h
  rename_i dev₁ hreg
  have hsettle := attempt_of_settle s.getNextAllocServiceId hdev hload hreg
    fun cuId cu' chanId (h : searchCu prop s.getNextAllocServiceId policyNull wanted devId 0
        dev₁.cuList none = .acquired cuId cu' chanId) => acquired_of_searchCu h
  rw [Prod.mk.injEq, Except.ok.injEq] at h
  obtain ⟨rfl, rfl⟩ := h
  exact hsettle

theorem allocOnLoaded_error {devId : Nat} {wanted : CuData → Bool} {e : XrmError}
    (h : s.allocOnLoaded devId prop wanted = (s', .error e)) : s' = s := by
  rw [allocOnLoaded] at h
  split at h
  · simp only [Prod.mk.injEq] at h
    exact h.1.symm
  · split at h
    · simp only [Prod.mk.injEq] at h
      exact h.1.symm
    · simp at h

theorem resAllocCuWithLoad_evolves (hsound : s.Sound D) {env : XrtEnv}
    (hgap : D.gapless → env.Gapless) (prop : CuProperty)
    (xclbin : String) (updateId : Bool) (hs : prop.Received) :
    Develops D s (s.resAllocCuWithLoad env prop xclbin updateId).1 := by
  have htwice := (s.allocTwice_attempt prop policyNull).evolves (D := D) hs (nextId_ne_zero _)
  rw [resAllocCuWithLoad]
  split
  · exact evolves_refl D s
  split
  · rename_i heq
    rw [heq] at htwice
    exact htwice.trans (finishAlloc_evolves D _ updateId _)
  rename_i s₁ q heq
  rw [heq] at htwice
  obtain ⟨hload, hjust⟩ := loadAnyDevice_spec hgap xclbin "" (htwice.sound hsound)
  split
  · rename_i heq₁
    rw [heq₁] at hload
    exact htwice.trans hload
  rename_i s₂ msg devId heq₁
  rw [heq₁] at hload hjust
  have hbefore := htwice.trans hload
  split
  · rename_i heq₂
    rw [allocOnLoaded_error heq₂]
    exact hbefore
  · rename_i heq₂
    have hattempt := allocOnLoaded_attempt (hjust devId rfl) heq₂
    exact hbefore.trans (hattempt.evolves hs (nextId_ne_zero _))
  · rename_i heq₂
    have hattempt := allocOnLoaded_attempt (hjust devId rfl) heq₂
    exact (hbefore.trans (hattempt.evolves hs (nextId_ne_zero _))).trans
      (finishAlloc_evolves D _ updateId _)

/-! ### Sharing on any device -/

/-- The candidate's device is loaded and its CU matches. -/
def Offers (s : System) (prop : CuProperty) (candidate : Candidate) : Prop :=
  ∃ dev cu, s.devList[candidate.devId]? = some dev ∧ dev.isLoaded = true ∧
    dev.cuList[candidate.cuId]? = some cu ∧ cu.matchesCu prop = true

theorem Offers.touched {candidate : Candidate} (h : s.Offers prop candidate)
    (htouch : Touched prop s s') : s'.Offers prop candidate := by
  obtain ⟨dev, cu, hdev, hload, hcu, hmatch⟩ := h
  obtain ⟨dev', hdev', hcus, hload'⟩ := htouch.device hdev
  exact ⟨dev', cu, hdev', hload'.trans hload, by rw [hcus, hcu], hmatch⟩

theorem collectCandidates_spec (prop : CuProperty) (xclbin : String) (devIds : List Nat)
    (s : System) :
    Touched prop s (collectCandidates prop xclbin devIds s).1 ∧
      ∀ candidate ∈ (collectCandidates prop xclbin devIds s).2,
        (collectCandidates prop xclbin devIds s).1.Offers prop candidate := by
  induction devIds generalizing s with
  | nil => exact ⟨.refl, by simp [collectCandidates]⟩
  | cons devId devIds ih =>
      rw [collectCandidates]
      split
      · exact ih s
      rename_i dev hdev
      split
      · rename_i hwanted
        rw [Bool.and_eq_true] at hwanted
        have hload := DeviceData.isLoaded_of_isFreeForClient hwanted.1
        split
        · exact ih s
        rename_i dev₁ hreg
        have htouch : Touched prop s (s.setDev devId (dev₁.dropClient prop.clientId)) :=
          .single ⟨devId, dev, _, hdev, ⟨hload, dev₁, hreg, rfl⟩, rfl⟩
        obtain ⟨hrest, hoffers⟩ := ih (s.setDev devId (dev₁.dropClient prop.clientId))
        refine ⟨htouch.trans hrest, fun candidate hc => ?_⟩
        rcases List.mem_append.mp hc with hc | hc
        · obtain ⟨hat, j, cu, hj, hcu, hmatch, -⟩ := mem_candidates hc
          rw [zero_add] at hj
          rw [DeviceData.registered_cuList hreg] at hcu
          have hoffer : s.Offers prop candidate :=
            ⟨dev, cu, by rw [hat, hdev], hload, by rw [hj, hcu], hmatch⟩
          exact hoffer.touched (htouch.trans hrest)
        · exact hoffers candidate hc
      · exact ih s

theorem Allocates.after {s₁ : System} {updateId : Bool}
    {r : System × Except XrmError CuResource} (htouch : Touched prop s s₁)
    (h : Allocates prop updateId s₁ r) : Allocates prop updateId s r := by
  cases h with
  | failed h => exact .failed (htouch.trans h)
  | granted hnamed h =>
      rw [htouch.nextId] at h
      exact .granted hnamed (.after htouch h)

theorem shareAnywhere_allocates (hnamed : prop.unnamed = false) (updateId : Bool)
    (l : List Candidate) (s : System) (hl : ∀ candidate ∈ l, s.Offers prop candidate) :
    Allocates prop updateId s (shareAnywhere prop updateId l s) := by
  induction l generalizing s with
  | nil => exact .failed .refl
  | cons candidate rest ih =>
      obtain ⟨dev, cu, hdev, hload, hcu, hmatch⟩ := hl candidate (by simp)
      have hrest : ∀ {s₁ : System}, Touched prop s s₁ →
          Allocates prop updateId s (shareAnywhere prop updateId rest s₁) := by
        intro s₁ htouch
        exact .after htouch (ih s₁ fun c hc => (hl c (by simp [hc])).touched htouch)
      rw [shareAnywhere, hdev]
      simp only
      split
      · split
        · exact .failed .refl
        · exact hrest .refl
      rename_i dev₁ hreg
      have htouch : Touched prop s (s.setDev candidate.devId (dev₁.dropClient prop.clientId)) :=
        .single ⟨candidate.devId, dev, _, hdev, ⟨hload, dev₁, hreg, rfl⟩, rfl⟩
      rw [DeviceData.registered_cuList hreg, hcu]
      simp only
      split
      · rename_i cu' chanId halloc
        exact .granted hnamed (.acquired .refl hdev
          ⟨dev₁, policyNull, candidate.cuId, cu', chanId, hreg, ⟨cu, none, hcu, hmatch, halloc⟩,
            rfl, rfl⟩)
      · split
        · exact .failed htouch
        · exact hrest htouch
      · exact hrest htouch

theorem shareLeastUsed_allocates (s : System) {prop : CuProperty} (hnamed : prop.unnamed = false)
    (xclbin : String) (updateId : Bool) :
    Allocates prop updateId s (s.shareLeastUsed prop xclbin updateId) := by
  obtain ⟨htouch, hoffers⟩ :=
    collectCandidates_spec prop xclbin (List.range s.numDevice) s
  exact .after htouch (shareAnywhere_allocates hnamed updateId _ _ fun candidate hc =>
    hoffers candidate (mem_sortCandidates.mp hc))

theorem resAllocCuLeastUsedWithLoad_evolves (hsound : s.Sound D) {env : XrtEnv}
    (hgap : D.gapless → env.Gapless)
    (prop : CuProperty) (xclbin : String) (updateId : Bool) (hs : prop.Received) :
    Develops D s (s.resAllocCuLeastUsedWithLoad env prop xclbin updateId).1 := by
  have hfirst := (allocPass_attempt prop policyNull (fun dev => dev.xclbinName == xclbin) unused
    (List.range s.numDevice) s none).evolves (D := D) hs (nextId_ne_zero _)
  rw [resAllocCuLeastUsedWithLoad]
  split
  · exact evolves_refl D s
  rename_i hunnamed
  have hshare : ∀ {s₁ : System}, Develops D s s₁ →
      Develops D s (s₁.shareLeastUsed prop xclbin updateId).1 := fun hev =>
    hev.trans ((shareLeastUsed_allocates _ (Bool.eq_false_of_not_eq_true hunnamed) xclbin
      updateId).evolves hs)
  split
  · rename_i heq
    rw [heq] at hfirst
    exact hfirst.trans (finishAlloc_evolves D _ updateId _)
  rename_i s₁ q heq
  rw [heq] at hfirst
  obtain ⟨hload, hjust⟩ := loadAnyDevice_spec hgap xclbin "" (hfirst.sound hsound)
  split
  · rename_i heq₁
    rw [heq₁] at hload
    exact hshare (hfirst.trans hload)
  rename_i s₂ msg devId heq₁
  rw [heq₁] at hload hjust
  have hbefore := hfirst.trans hload
  split
  · rename_i heq₂
    have hattempt := allocOnLoaded_attempt (hjust devId rfl) heq₂
    exact (hbefore.trans (hattempt.evolves hs (nextId_ne_zero _))).trans
      (finishAlloc_evolves D _ updateId _)
  · rename_i s₃ r hno heq₂
    cases r with
    | error e =>
        rw [allocOnLoaded_error heq₂]
        exact hshare hbefore
    | ok r =>
        have hattempt := allocOnLoaded_attempt (hjust devId rfl) heq₂
        exact hshare (hbefore.trans (hattempt.evolves hs (nextId_ne_zero _)))

/-! ## Loading a device and taking all of it -/

/-- The device that `resLoadAndAllocAllCu` takes has at most one CU, and has one when every
reference must have a channel. -/
def LoadAllOk (D : Discipline) (s : System) (env : XrtEnv) (xclbin : String) : Prop :=
  ∀ s₁ msg devId dev, s.loadAnyDevice env xclbin "" = (s₁, msg, .ok devId) →
    s₁.devList[devId]? = some dev → dev.numCu ≤ 1 ∧ (D.balanced → dev.numCu = 1)

theorem resLoadAndAllocAllCu_evolves (hsound : s.Sound D) {env : XrtEnv}
    (hgap : D.gapless → env.Gapless) (xclbin : String)
    (clientId : Nat) (clientProcessId : Int) (hc : clientId ≠ 0)
    (hok : D.covered → s.LoadAllOk D env xclbin) :
    Develops D s (s.resLoadAndAllocAllCu env xclbin clientId clientProcessId).1 := by
  obtain ⟨hload, hjust⟩ := loadAnyDevice_spec hgap xclbin "" hsound
  rw [resLoadAndAllocAllCu]
  split
  · rename_i heq
    rw [heq] at hload
    exact hload
  rename_i s₁ msg devId heq
  rw [heq] at hload hjust
  obtain ⟨dev, hdev, hloaded, huntouched, hzero⟩ := hjust devId rfl
  simp only at hdev ⊢
  rw [hdev]
  have hidle : ∀ cu ∈ dev.cuList, cu.Idle := fun cu hcu => (huntouched cu hcu).totalUsed
  have hact : DeviceData.Work D dev
      (dev.allocAllCu s₁.getNextAllocServiceId clientId clientProcessId) := by
    refine .takeAll (fun hD => ?_) hloaded (nextId_ne_zero _) hc hidle
    obtain ⟨hle, hone⟩ := hok hD s₁ msg devId dev heq hdev
    exact ⟨hle, hone, hzero hD⟩
  exact (hload.trans (evolves_setDev hdev (.single hact))).trans
    (evolves_of_devs rfl ⟨id, rfl, rfl, rfl⟩ rfl rfl rfl)

end System

end Xrm
