import Xrm.Model.Query
import Xrm.Verification.Gaining
import Xrm.Verification.Recording

/-! # What an allocation hands out

Every allocation leaves the channels alone that are held already. What it adds carries the next
service id, and so does what it reports; a success uses the id up, a failure adds nothing.
-/

namespace Xrm

variable {D : Discipline} {prop : CuProperty}

namespace System

variable {s₀ s s₁ s' : System} {res : CuResource} {l : List CuResource}

/-! ## Added channels -/

/-- The held channels stay. Those added to them carry the next service id, and so do the records,
but those about no channel, which carry none. -/
structure Adds (s s' : System) (l : List CuResource) : Prop where
  allocServiceId : s'.allocServiceId = s.allocServiceId
  kept : ∀ place held, s.heldAt place = some held → s'.heldAt place = some held
  added : ∀ place held, s'.heldAt place = some held →
    s.heldAt place = some held ∨ held.1.allocServiceId = s.getNextAllocServiceId
  issued : ∀ res ∈ l, res.allocServiceId = s.getNextAllocServiceId ∨ res.allocServiceId = 0

theorem Calm.adds (h : Calm s s') (hids : ∀ res ∈ l, res.allocServiceId = 0) : Adds s s' l where
  allocServiceId := h.allocServiceId
  kept := fun place held hheld => by rw [h.held, hheld]
  added := fun place held hheld => .inl (by rw [← h.held, hheld])
  issued := fun res hres => .inr (hids res hres)

theorem Adds.before (h : Adds s s' l) (hcalm : Calm s₀ s) : Adds s₀ s' l where
  allocServiceId := h.allocServiceId.trans hcalm.allocServiceId
  kept := fun place held hheld => h.kept place held (by rw [hcalm.held, hheld])
  added := fun place held hheld => by
    rw [← hcalm.held, ← hcalm.nextId]
    exact h.added place held hheld
  issued := fun res hres => by
    rw [← hcalm.nextId]
    exact h.issued res hres

theorem Gains.adds (h : Gains s s' l) : Adds s s' l where
  allocServiceId := h.allocServiceId
  kept := by
    intro place held hheld
    by_cases hmem : place ∈ l.map (·.place)
    · obtain ⟨res, hres, rfl⟩ := List.mem_map.mp hmem
      rw [h.free res hres] at hheld
      cases hheld
    · rw [h.others place hmem, hheld]
  added := by
    intro place held hheld
    by_cases hmem : place ∈ l.map (·.place)
    · obtain ⟨res, hres, rfl⟩ := List.mem_map.mp hmem
      obtain ⟨held', hheld', htells⟩ := h.told res hres
      rw [hheld', Option.some.injEq] at hheld
      subst hheld
      exact .inr (htells.allocServiceId.trans (h.issued res hres))
    · exact .inl (by rw [← h.others place hmem, hheld])
  issued := fun res hres => .inl (h.issued res hres)

/-- A change of one CU that takes a channel under the next service id. -/
theorem adds_of_allocated {i cuId chanId : Nat} {idx : Option Nat} {dev dev' : DeviceData}
    {cu cu' : CuData} (hdev : s.devList[i]? = some dev) (hcu : dev.cuList[cuId]? = some cu)
    (halloc : cu.Allocated cu' prop s.getNextAllocServiceId idx chanId)
    (hcus : dev'.cuList = dev.cuList.set cuId cu')
    (hres : res.allocServiceId = s.getNextAllocServiceId) : Adds s (s.setDev i dev') [res] where
  allocServiceId := rfl
  kept := by
    obtain ⟨hnone, -, -, hothers⟩ := halloc.heldAt
    rintro ⟨i', j', k'⟩ held hheld
    rw [heldAt_setCu hdev hcu hcus]
    split
    · rename_i hplace
      obtain ⟨rfl, rfl⟩ := hplace
      rw [heldAt_of_cu hdev hcu] at hheld
      rw [hothers k' fun hk => ?_, hheld]
      rw [hk, hnone] at hheld
      cases hheld
    · exact hheld
  added := by
    obtain ⟨-, chan, hsome, hothers⟩ := halloc.heldAt
    rintro ⟨i', j', k'⟩ held hheld
    rw [heldAt_setCu hdev hcu hcus] at hheld
    split at hheld
    · rename_i hplace
      obtain ⟨rfl, rfl⟩ := hplace
      simp only at hheld
      by_cases hk : k' = chanId
      · rw [hk, hsome, Option.some.injEq] at hheld
        rw [← hheld]
        exact .inr rfl
      · rw [hothers k' hk] at hheld
        exact .inl (by rw [heldAt_of_cu hdev hcu, hheld])
    · exact .inl hheld
  issued := by
    intro r hr
    rw [List.mem_singleton.mp hr]
    exact .inl hres

/-- The deferred attempt on a remembered CU adds a channel, or reports none. -/
theorem adds_of_preCu (prop : CuProperty) (cuId : Nat) {i : Nat} {dev dev₁ : DeviceData}
    (hdev : s.devList[i]? = some dev)
    (hcus : dev₁.cuList = dev.cuList) (hcons : ∀ cu ∈ dev.cuList, cu.Consistent) :
    Adds s (s.setDev i (dev₁.allocPreCu i prop s.getNextAllocServiceId cuId).1)
      [(dev₁.allocPreCu i prop s.getNextAllocServiceId cuId).2] := by
  have hcalm : Calm s (s.setDev i dev₁) := calm_setDev hdev (DeviceData.heldAt_congr hcus)
  rw [DeviceData.allocPreCu, hcus]
  split
  · exact hcalm.adds (by simp [DeviceData.locate, CuResource.zero])
  rename_i cu hcu
  split
  · rename_i halloc
    obtain ⟨idx, hallocated⟩ :=
      CuData.allocated_of_allocChan (hcons cu (List.mem_of_getElem? hcu)) halloc
    refine adds_of_allocated hdev hcu hallocated ?_ rfl
    rw [grant_cuList, hcus]
  · exact hcalm.adds (by simp [DeviceData.locate, CuResource.zero])

/-! ## Outcomes -/

/-- The outcome of an allocation: a failure changes no held channel. A success uses up the service
id, and `P` says what it has done before. -/
inductive Hands (P : System → List CuResource → Prop) (s : System) :
    System → Option (List CuResource) → Prop where
  | refused {s' : System} (h : Calm s s') : Hands P s s' none
  | handed {s₁ : System} {l : List CuResource} (h : P s₁ l) :
      Hands P s s₁.updateAllocServiceId (some l)

variable {r : Option (List CuResource)}

theorem Hands.mono {P P' : System → List CuResource → Prop} (h : Hands P s s' r)
    (himp : ∀ {s₁ : System} {l : List CuResource}, P s₁ l → P' s₁ l) : Hands P' s s' r := by
  cases h with
  | refused h => exact .refused h
  | handed h => exact .handed (himp h)

theorem Hands.before (h : Hands (Adds s) s s' r) (hcalm : Calm s₀ s) :
    Hands (Adds s₀) s₀ s' r := by
  cases h with
  | refused h => exact .refused (hcalm.trans h)
  | handed h => exact .handed (h.before hcalm)

/-- What an allocation hands out whose records are about channels: these channels, and as many as
a query can list. -/
structure Exactly (s s₁ : System) (l : List CuResource) : Prop where
  gains : Gains s s₁ l
  length : l.length ≤ maxListCuNumV2

theorem Hands.adds (h : Hands (Exactly s) s s' r) : Hands (Adds s) s s' r :=
  h.mono fun h => h.gains.adds

/-! ## Single allocations -/

theorem Attempt.exactly (h : Attempt prop s.getNextAllocServiceId s s' (some res))
    (hgood : s.Good D) (hq : prop.Received) (hnamed : prop.unnamed = false) :
    Exactly s s' [res] :=
  ⟨((collects_follows D s).attempt (Collects.refl hgood) hq hnamed h).gains,
    by simp [maxListCuNumV2]⟩

theorem Attempt.hands (h : Attempt prop s.getNextAllocServiceId s s' (some res))
    (hgood : s.Good D) (hq : prop.Received) (hnamed : prop.unnamed = false) :
    Hands (Exactly s) s (s'.finishAlloc true res).1 (oneReturned (s'.finishAlloc true res).2) :=
  .handed (h.exactly hgood hq hnamed)

/-- Whatever CU an attempt finds, it adds a channel there. -/
theorem Attempt.adds (h : Attempt prop s.getNextAllocServiceId s s' (some res))
    (hgood : s.Good D) (hq : prop.Received) : Adds s s' [res] := by
  cases h with
  | acquired htouch hdev hgrab =>
      obtain ⟨dev₁, policyInfo, cuId, cu', chanId, hreg, ⟨cu, pre, hcu, -, halloc⟩, rfl, rfl⟩ :=
        hgrab
      have hsound : System.Sound D _ := (hgood.evolves (htouch.evolves hq.1)).sound
      obtain ⟨idx, hallocated⟩ := CuData.allocated_of_allocChan
        ((hsound _ (List.mem_of_getElem? hdev)).consistent cu (List.mem_of_getElem? hcu)) halloc
      rw [← htouch.calm.nextId] at hallocated ⊢
      refine (adds_of_allocated hdev hcu hallocated ?_ rfl).before htouch.calm
      rw [grant_cuList, DeviceData.registered_cuList hreg]

theorem Attempt.handsAny (h : Attempt prop s.getNextAllocServiceId s s' (some res))
    (hgood : s.Good D) (hq : prop.Received) :
    Hands (Adds s) s (s'.finishAlloc true res).1 (oneReturned (s'.finishAlloc true res).2) :=
  .handed (h.adds hgood hq)

theorem Allocates.hands {r : System × Except XrmError CuResource} (h : Allocates prop true s r)
    (hgood : s.Good D) (hq : prop.Received) : Hands (Exactly s) s r.1 (oneReturned r.2) := by
  cases h with
  | failed h => exact .refused h.calm
  | granted hnamed h => exact h.hands hgood hq hnamed

/-- The candidate loop that takes nothing leaves the CUs alone. -/
theorem shareCandidates_missed {svc devId : Nat} {candidates : List Candidate}
    {dev dev' : DeviceData} {q : Option PreCu}
    (h : shareCandidates prop svc devId candidates dev = (dev', .missed q)) :
    dev'.cuList = dev.cuList := by
  induction candidates generalizing dev with
  | nil =>
      rw [shareCandidates, Prod.mk.injEq] at h
      rw [h.1]
  | cons candidate rest ih =>
      rw [shareCandidates] at h
      split at h
      · rw [Prod.mk.injEq] at h
        rw [h.1]
      split at h
      · simp at h
      · rw [ih h, DeviceData.dropClient_cuList]

theorem resAllocLeastUsedCuFromDev_hands (hgood : s.Good D) (hq : prop.Received)
    (deviceId : Int) : Hands (Adds s) s (s.resAllocLeastUsedCuFromDev deviceId prop true).1
      (oneReturned (s.resAllocLeastUsedCuFromDev deviceId prop true).2) := by
  rw [resAllocLeastUsedCuFromDev]
  split
  · exact .refused (.refl s)
  rename_i devId dev₁ hregOn
  obtain ⟨hnamed, dev, hdev, hload, hreg⟩ := registerOn_spec hregOn
  have hcus := DeviceData.registered_cuList hreg
  have hcons := (hgood.sound dev (List.mem_of_getElem? hdev)).consistent
  simp only
  split
  · rename_i cuId cu' chanId hsearch
    have hacq := acquired_of_searchCu hsearch
    rw [hcus] at hacq
    have hattempt : Attempt prop s.getNextAllocServiceId s _ _ :=
      .acquired .refl hdev ⟨dev₁, policyNull, cuId, cu', chanId, hreg, hacq, rfl, rfl⟩
    exact (hattempt.hands hgood hq hnamed).adds
  split
  · rename_i dev' res heq
    obtain ⟨candidate, -, cu, cu', chanId, hcu, halloc, hset, hat⟩ :=
      shareCandidates_acquired heq
    rw [hcus] at hcu hset
    obtain ⟨idx, hallocated⟩ :=
      CuData.allocated_of_allocChan (hcons cu (List.mem_of_getElem? hcu)) halloc
    exact .handed (adds_of_allocated hdev hcu hallocated hset hat.allocServiceId)
  · rename_i dev' q heq
    refine .refused (calm_setDev hdev (DeviceData.heldAt_congr ?_))
    rw [shareCandidates_missed heq, hcus]

/-! ### Version 2 requests -/

section V2

variable {propV2 : CuPropertyV2}

theorem resAllocCuFromDevByCuLoad_hands (hgood : s.Good D) (hq : propV2.Received)
    (deviceId : Int) : Hands (Adds s) s (s.resAllocCuFromDevByCuLoad deviceId propV2 true).1
      (oneReturned (s.resAllocCuFromDevByCuLoad deviceId propV2 true).2) := by
  have hq' : (cuPropertyCopyFromV2 propV2).Received := hq
  rw [resAllocCuFromDevByCuLoad]
  simp only
  split
  · exact .refused (.refl s)
  rename_i devId dev₁ hregOn
  obtain ⟨-, dev, hdev, hload, hreg⟩ := registerOn_spec hregOn
  split
  · exact .handed (adds_of_preCu _ _ hdev (DeviceData.registered_cuList hreg)
      (hgood.sound dev (List.mem_of_getElem? hdev)).consistent)
  · have hsettle := attempt_of_settle s.getNextAllocServiceId hdev hload hreg
      fun cuId cu' chanId => acquired_of_searchCuTwice propV2.policyInfo devId
    split
    · rename_i heq
      rw [heq] at hsettle
      exact Attempt.handsAny hsettle hgood hq'
    · rename_i heq
      rw [heq] at hsettle
      exact .refused hsettle.touched.calm

theorem resAllocCuByCuLoad_hands (hgood : s.Good D) (hq : propV2.Received) :
    Hands (Adds s) s (s.resAllocCuByCuLoad propV2 true).1
      (oneReturned (s.resAllocCuByCuLoad propV2 true).2) := by
  have hq' : (cuPropertyCopyFromV2 propV2).Received := hq
  have htwice := s.allocTwice_attempt (cuPropertyCopyFromV2 propV2) propV2.policyInfo
  rw [resAllocCuByCuLoad]
  simp only
  split
  · rename_i heq
    rw [heq] at htwice
    exact Attempt.handsAny htwice hgood hq'
  · rename_i heq
    rw [heq] at htwice
    exact .refused htwice.touched.calm
  · rename_i s₁ preCu heq
    rw [heq] at htwice
    have htouch := htwice.touched
    have hgood₁ : s₁.Good D := hgood.evolves (htouch.evolves hq'.1)
    split
    · exact .refused htouch.calm
    · rename_i dev hdev
      have hadds := adds_of_preCu (cuPropertyCopyFromV2 propV2) preCu.cuId hdev rfl
        (hgood₁.sound dev (List.mem_of_getElem? hdev)).consistent
      exact .handed (hadds.before htouch.calm)

/-- The device loop visits devices that are not loaded, too: it registers the client there and drops
it again. -/
theorem allocByDevLoad_hands (prop : CuProperty) (policyInfo : Nat) (devIds : List Nat)
    (hcons : ∀ dev ∈ s.devList, ∀ cu ∈ dev.cuList, cu.Consistent) :
    Hands (Adds s) s (allocByDevLoad prop policyInfo true devIds s).1
      (oneReturned (allocByDevLoad prop policyInfo true devIds s).2) := by
  induction devIds generalizing s with
  | nil => exact .refused (.refl s)
  | cons devId devIds ih =>
      rw [allocByDevLoad]
      split
      · exact ih hcons
      rename_i dev hdev
      split
      · exact ih hcons
      rename_i dev₁ hreg
      have hcus := DeviceData.registered_cuList hreg
      have hdevCons := hcons dev (List.mem_of_getElem? hdev)
      simp only
      generalize hsearch : searchCu prop s.getNextAllocServiceId policyInfo (fun _ => true) devId 0
        dev₁.cuList none = search
      cases search with
      | acquired cuId cu' chanId =>
          have hacq := acquired_of_searchCu hsearch
          rw [hcus] at hacq
          obtain ⟨cu, pre, hcu, -, halloc⟩ := hacq
          obtain ⟨idx, hallocated⟩ :=
            CuData.allocated_of_allocChan (hdevCons cu (List.mem_of_getElem? hcu)) halloc
          refine .handed (adds_of_allocated hdev hcu hallocated ?_ rfl)
          rw [grant_cuList, hcus]
      | missed preCu =>
          cases preCu with
          | some preCu => exact .handed (adds_of_preCu _ _ hdev hcus hdevCons)
          | none =>
              have hsame : (dev₁.dropClient prop.clientId).cuList = dev.cuList := by
                rw [DeviceData.dropClient_cuList, hcus]
              refine (ih fun x hx => ?_).before
                (calm_setDev hdev (DeviceData.heldAt_congr hsame))
              rcases List.mem_or_eq_of_mem_set hx with hx | rfl
              · exact hcons x hx
              · rw [hsame]
                exact hdevCons

theorem resAllocCuV2_hands (hgood : s.Good D) (hq : propV2.Received) :
    Hands (Adds s) s (s.resAllocCuV2 propV2 true).1
      (oneReturned (s.resAllocCuV2 propV2 true).2) := by
  rw [resAllocCuV2]
  split
  · exact .refused (.refl s)
  split
  · split
    · exact allocByDevLoad_hands _ _ _ fun dev hdev => (hgood.sound dev hdev).consistent
    split
    · exact resAllocCuByCuLoad_hands hgood hq
    · exact ((s.resAllocCu_allocates (cuPropertyCopyFromV2 propV2) true).hands hgood hq).adds
  split
  · exact resAllocCuFromDevByCuLoad_hands hgood hq _
  · exact .refused (.refl s)

end V2

/-! ### Allocations that load -/

theorem resAllocCuWithLoad_hands (hgood : s.Good D) {env : XrtEnv}
    (hgap : D.gapless → env.Gapless) (hq : prop.Received) (xclbin : String) :
    Hands (Adds s) s (s.resAllocCuWithLoad env prop xclbin true).1
      (oneReturned (s.resAllocCuWithLoad env prop xclbin true).2) := by
  have htwice := s.allocTwice_attempt prop policyNull
  rw [resAllocCuWithLoad]
  split
  · exact .refused (.refl s)
  split
  · rename_i heq
    rw [heq] at htwice
    exact Attempt.handsAny htwice hgood hq
  rename_i s₁ q heq
  rw [heq] at htwice
  have htouch := htwice.touched
  have hgood₁ : s₁.Good D := hgood.evolves (htouch.evolves hq.1)
  have hload := loadAnyDevice_calm hgap xclbin "" hgood₁.sound hgood₁.probed
  obtain ⟨hev, hjust⟩ := loadAnyDevice_spec hgap xclbin "" hgood₁.sound
  split
  · rename_i heq₁
    rw [heq₁] at hload
    exact .refused (htouch.calm.trans hload)
  rename_i s₂ msg devId heq₁
  rw [heq₁] at hload hev hjust
  have hbefore := htouch.calm.trans hload
  split
  · rename_i heq₂
    rw [allocOnLoaded_error heq₂]
    exact .refused hbefore
  · rename_i heq₂
    have hattempt := allocOnLoaded_attempt (hjust devId rfl) heq₂
    exact .refused (hbefore.trans hattempt.touched.calm)
  · rename_i heq₂
    exact (Attempt.handsAny (allocOnLoaded_attempt (hjust devId rfl) heq₂) (hgood₁.evolves hev)
      hq).before hbefore

theorem resAllocCuLeastUsedWithLoad_hands (hgood : s.Good D) {env : XrtEnv}
    (hgap : D.gapless → env.Gapless) (hq : prop.Received) (xclbin : String) :
    Hands (Adds s) s (s.resAllocCuLeastUsedWithLoad env prop xclbin true).1
      (oneReturned (s.resAllocCuLeastUsedWithLoad env prop xclbin true).2) := by
  have hfirst := allocPass_attempt prop policyNull (fun dev => dev.xclbinName == xclbin) unused
    (List.range s.numDevice) s none
  rw [resAllocCuLeastUsedWithLoad]
  split
  · exact .refused (.refl s)
  rename_i hunnamed
  have hshare : ∀ {s₁ : System}, s₁.Good D → Calm s s₁ →
      Hands (Adds s) s (s₁.shareLeastUsed prop xclbin true).1
        (oneReturned (s₁.shareLeastUsed prop xclbin true).2) := fun hgood₁ hcalm =>
    (((shareLeastUsed_allocates _ (Bool.eq_false_of_not_eq_true hunnamed) xclbin true).hands
      hgood₁ hq).adds).before hcalm
  split
  · rename_i heq
    rw [heq] at hfirst
    exact Attempt.handsAny hfirst hgood hq
  rename_i s₁ q heq
  rw [heq] at hfirst
  have htouch := hfirst.touched
  have hgood₁ : s₁.Good D := hgood.evolves (htouch.evolves hq.1)
  have hload := loadAnyDevice_calm hgap xclbin "" hgood₁.sound hgood₁.probed
  obtain ⟨hev, hjust⟩ := loadAnyDevice_spec hgap xclbin "" hgood₁.sound
  split
  · rename_i heq₁
    rw [heq₁] at hload hev
    exact hshare (hgood₁.evolves hev) (htouch.calm.trans hload)
  rename_i s₂ msg devId heq₁
  rw [heq₁] at hload hev hjust
  have hgood₂ := hgood₁.evolves hev
  have hbefore := htouch.calm.trans hload
  split
  · rename_i heq₂
    exact (Attempt.handsAny (allocOnLoaded_attempt (hjust devId rfl) heq₂) hgood₂ hq).before
      hbefore
  · rename_i s₃ r hno heq₂
    cases r with
    | error e =>
        rw [allocOnLoaded_error heq₂]
        exact hshare hgood₂ hbefore
    | ok r =>
        have hattempt := allocOnLoaded_attempt (hjust devId rfl) heq₂
        cases r with
        | acquired res => exact absurd rfl (hno res)
        | missed q =>
            have htouch₂ := hattempt.touched
            exact hshare (hgood₂.evolves (htouch₂.evolves hq.1)) (hbefore.trans htouch₂.calm)

/-! ### Loading a device and taking all of it -/

end System

/-- Taking all of an untouched device takes channels under the given service id only. -/
theorem DeviceData.allocAllCu_held {dev : DeviceData} (huntouched : ∀ cu ∈ dev.cuList, cu.Untouched)
    {svc clientId : Nat} {clientProcessId : Int} {place : Nat × Nat} {held : Holding}
    (hheld : (dev.allocAllCu svc clientId clientProcessId).heldAt place = some held) :
    held.1.allocServiceId = svc := by
  obtain ⟨cu, chan, hcu, hchan, hload, rfl⟩ := heldAt_eq_some.mp hheld
  have hmem : cu ∈ (dev.cuList.take dev.allocAllNum).map (fun cu : CuData =>
      cu.takeWhole svc clientId clientProcessId) ++ dev.cuList.drop dev.allocAllNum :=
    List.mem_of_getElem? hcu
  rcases List.mem_append.mp hmem with htaken | hleft
  · obtain ⟨cu₀, hmem₀, rfl⟩ := List.mem_map.mp htaken
    have hfree := (huntouched cu₀ (List.mem_of_mem_take hmem₀)).free
    simp only [CuData.takeWhole, List.getElem?_modify] at hchan
    obtain ⟨chan₀, hchan₀, rfl⟩ := Option.map_eq_some_iff.mp hchan
    split
    · rfl
    · rename_i hne
      rw [if_neg hne] at hload
      exact absurd (hfree chan₀ (List.mem_of_getElem? hchan₀)).load hload
  · exact absurd ((huntouched cu (List.mem_of_mem_drop hleft)).free chan
      (List.mem_of_getElem? hchan)).load hload

namespace System

variable {s₀ s s₁ s' : System} {res : CuResource} {l : List CuResource}

theorem resLoadAndAllocAllCu_hands (hgood : s.Good D) {env : XrtEnv}
    (hgap : D.gapless → env.Gapless) (xclbin : String) (clientId : Nat) (clientProcessId : Int) :
    Hands (Adds s) s (s.resLoadAndAllocAllCu env xclbin clientId clientProcessId).1
      (listReturned (s.resLoadAndAllocAllCu env xclbin clientId clientProcessId).2) := by
  have hload := loadAnyDevice_calm hgap xclbin "" hgood.sound hgood.probed
  obtain ⟨-, hjust⟩ := loadAnyDevice_spec hgap xclbin "" hgood.sound
  rw [resLoadAndAllocAllCu]
  split
  · rename_i heq
    rw [heq] at hload
    exact .refused hload
  rename_i s₁ msg devId heq
  rw [heq] at hload hjust
  split
  · exact .refused hload
  rename_i dev hdev
  obtain ⟨dev', hdev', -, huntouched, -⟩ := hjust devId rfl
  rw [hdev, Option.some.injEq] at hdev'
  subst hdev'
  refine .handed (Adds.before (s := s₁) ⟨rfl, ?_, ?_, ?_⟩ hload)
  · intro place held hheld
    rw [heldAt_setDev hdev, if_neg]
    · exact hheld
    · rintro rfl
      rw [heldAt, hdev, Option.bind_some,
        DeviceData.heldAt_dormant (DeviceData.dormant_of_untouched huntouched)] at hheld
      cases hheld
  · intro place held hheld
    rw [heldAt_setDev hdev] at hheld
    split at hheld
    · exact .inr (DeviceData.allocAllCu_held huntouched hheld)
    · exact .inl hheld
  · intro res hres
    obtain ⟨⟨cu, cuId⟩, -, rfl⟩ := List.mem_map.mp hres
    exact .inl rfl

/-! ## List allocations -/

theorem ListEnds.hands {r : System × Except XrmError CuListResource}
    (h : ListEnds (Collects D s) r) : Hands (Exactly s) s r.1 (listReturned r.2) := by
  cases h with
  | refused h => exact .refused h.gains.calm
  | granted h hlength => exact .handed ⟨h.gains, hlength⟩

theorem resAllocCuList_hands (hgood : s.Good D) {listProp : CuListProperty}
    (hq : ∀ prop ∈ listProp.items, prop.Received) :
    Hands (Exactly s) s (s.resAllocCuList listProp).1
      (listReturned (s.resAllocCuList listProp).2) :=
  (resAllocCuList_ends (collects_follows D s) (.refl hgood) hq).hands

theorem resAllocCuListV2_hands (hgood : s.Good D) {listProp : CuListPropertyV2}
    (hq : ∀ propV2 ∈ listProp.items, propV2.Received) : Hands (Exactly s) s
      (s.resAllocCuListV2 listProp).1 (listReturned (s.resAllocCuListV2 listProp).2) :=
  (resAllocCuListV2_ends (collects_follows D s) (.refl hgood) hq).hands

theorem resAllocCuGroup_hands (hgood : s.Good D) {groupProp : CuGroupProperty}
    (hc : groupProp.clientId ≠ 0) : Hands (Exactly s) s
      (s.resAllocCuGroup groupProp).1 (listReturned (s.resAllocCuGroup groupProp).2) := by
  refine (resAllocCuGroup_ends (collects_follows D s) (.refl hgood) ?_).hands
  exact fun group hmem _ option hoption =>
    groupOption_received hc (hgood.groupsValid.groups group hmem option hoption)

theorem resAllocCuGroupV2_hands (hgood : s.Good D) {groupProp : CuGroupProperty}
    (hc : groupProp.clientId ≠ 0) : Hands (Exactly s) s
      (s.resAllocCuGroupV2 groupProp).1 (listReturned (s.resAllocCuGroupV2 groupProp).2) := by
  refine (resAllocCuGroupV2_ends (collects_follows D s) (.refl hgood) ?_).hands
  exact fun group hmem _ option hoption =>
    groupOptionV2_sent hc (hgood.groupsValid.groupsV2 group hmem option hoption)

end System

end Xrm
