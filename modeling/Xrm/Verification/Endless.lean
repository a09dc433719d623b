import Xrm.Model.Available
import Xrm.Verification.DevicePolicy
import Xrm.Verification.Hollow

/-! # Queries without an end

An allocation by load never fails as long as a CU to which it may come is hollow, and leaves it
hollow.
-/

namespace Xrm

open Relation

variable {prop : CuProperty} {svc policyInfo : Nat}

namespace CuData

variable {cu : CuData}

/-! ## Hollow CUs -/

/-- The CU gives a channel or is remembered, whatever is remembered so far. -/
def Answers (cu : CuData) (prop : CuProperty) (policyInfo : Nat) : Prop :=
  ∀ svc preCu,
    (∃ cu' chanId, cu.allocChanClientFromCu prop svc policyInfo preCu = .allocated cu' chanId) ∨
      ∃ b, cu.allocChanClientFromCu prop svc policyInfo preCu = .furtherCheck b ∧
        (preCu = none → b = true)

/-- What the allocation does with a CU whose share has room. -/
theorem alloc_of_activeShare (hpos : 0 < prop.requestLoadUnified) {share : Int × Int}
    (hshare : cu.activeShare prop = some share) (hfits : prop.drawn share.1 ≤ share.2)
    (svc : Nat) (preCu : Option CuData) :
    (∃ b, cu.allocChanClientFromCu prop svc policyInfo preCu = .furtherCheck b ∧
        (preCu = none → b = true)) ∨
      ¬LooksFurther prop policyInfo share ∧ ∃ idx,
        cu.allocChanClientFromCu prop svc policyInfo preCu = cu.takeChannel prop svc idx := by
  rw [allocChanClientFromCu]
  simp only
  rw [if_neg (by omega)]
  rw [activeShare] at hshare
  by_cases hp : prop.poolId = 0
  · rw [if_pos hp, Option.some.injEq] at hshare
    subst hshare
    rw [if_neg (by simpa using hp), if_neg (by simpa [CuProperty.drawn] using hfits)]
    split
    · exact .inl ⟨_, rfl, by rintro rfl; rfl⟩
    split
    · exact .inl ⟨_, rfl, by rintro rfl; rfl⟩
    rename_i hmost hleast
    exact .inr ⟨by rintro (h | h); exacts [hmost h, hleast h], _, rfl⟩
  · rw [if_neg hp, Option.bind_eq_some_iff] at hshare
    obtain ⟨i, hfind, hslot⟩ := hshare
    split at hslot
    · rename_i hactive
      rw [Option.some.injEq] at hslot
      subst hslot
      rw [if_pos hp, hfind]
      simp only [hactive]
      rw [if_neg (by simp), if_neg (by simpa [CuProperty.drawn] using hfits)]
      split
      · exact .inl ⟨_, rfl, by rintro rfl; rfl⟩
      split
      · exact .inl ⟨_, rfl, by rintro rfl; rfl⟩
      rename_i hmost hleast
      exact .inr ⟨by rintro (h | h); exacts [hmost h, hleast h], _, rfl⟩
    · cases hslot

theorem Hollow.answers (h : cu.Hollow prop policyInfo) (htallied : cu.Tallied)
    (hpos : 0 < prop.requestLoadUnified) : cu.Answers prop policyInfo := by
  intro svc preCu
  obtain ⟨share, hshare, hless, hfurther⟩ := h
  rcases alloc_of_activeShare hpos hshare (hless 0 (Nat.zero_le _)) svc preCu with
    hanswer | ⟨hdirect, idx, htake⟩
  · exact .inr hanswer
  · left
    rw [htake]
    refine htallied.takes ?_ prop svc idx
    by_contra hfull
    have hfree : cu.freeChannels = 0 := by
      rw [freeChannels]
      omega
    rw [hfree] at hfurther
    exact hdirect hfurther

end CuData

/-! ## The search for a CU -/

/-- A search finds something if it has remembered a CU, or comes to one that answers. -/
theorem searchCu_ne_missed {wanted : CuData → Bool} {devId k : Nat} {cus : List CuData}
    {preCu : Option PreCu}
    (h : preCu ≠ none ∨ ∃ cu ∈ cus, wanted cu = true ∧ cu.matchesCu prop = true ∧
      cu.Answers prop policyInfo) :
    searchCu prop svc policyInfo wanted devId k cus preCu ≠ .missed none := by
  induction cus generalizing k preCu with
  | nil => simpa [searchCu] using h
  | cons cu cus ih =>
      rw [searchCu]
      by_cases hhere : (wanted cu && cu.matchesCu prop) = true
      · rw [if_pos hhere]
        cases halloc : cu.allocChanClientFromCu prop svc policyInfo (preCu.map (·.cu)) with
        | allocated cu' chanId => simp
        | furtherCheck b =>
            cases b with
            | true => exact ih (.inl (by simp))
            | false =>
                refine ih ?_
                rcases h with hsome | ⟨x, hx, hwanted, hmatch, hanswers⟩
                · exact .inl hsome
                rcases List.mem_cons.mp hx with rfl | hx
                · left
                  rintro rfl
                  rcases hanswers svc none with ⟨cu', chanId, h'⟩ | ⟨b, h', hb⟩
                  · exact absurd (halloc.symm.trans h') (by simp)
                  · have hfalse := halloc.symm.trans h'
                    rw [hb rfl] at hfalse
                    simp at hfalse
                · exact .inr ⟨x, hx, hwanted, hmatch, hanswers⟩
        | refused e =>
            refine ih ?_
            rcases h with hsome | ⟨x, hx, hwanted, hmatch, hanswers⟩
            · exact .inl hsome
            rcases List.mem_cons.mp hx with rfl | hx
            · rcases hanswers svc (preCu.map (·.cu)) with ⟨cu', chanId, h'⟩ | ⟨b, h', -⟩
              · exact absurd (halloc.symm.trans h') (by simp)
              · exact absurd (halloc.symm.trans h') (by simp)
            · exact .inr ⟨x, hx, hwanted, hmatch, hanswers⟩
      · rw [if_neg hhere]
        refine ih (h.imp_right ?_)
        rintro ⟨x, hx, hwanted, hmatch, hanswers⟩
        rcases List.mem_cons.mp hx with rfl | hx
        · exact absurd (by rw [hwanted, hmatch]; rfl) hhere
        · exact ⟨x, hx, hwanted, hmatch, hanswers⟩

theorem inUse_or_unused (cu : CuData) : inUse cu = true ∨ unused cu = true := by
  rw [inUse, unused, decide_eq_true_eq, beq_iff_eq]
  omega

/-! ## Devices -/

namespace DeviceData

variable {propV2 : CuPropertyV2} {i : Nat} {dev dev' dev₁ : DeviceData}

theorem Usable.pos (h : dev.Usable prop) : 0 < dev.clientProcs.length := by
  obtain ⟨entry, he, -⟩ := h.entry
  exact List.length_pos_of_mem he

theorem Usable.registered (h : dev.Usable prop) (hreg : dev.allocClientFromDev prop = .ok dev₁) :
    dev₁.Usable prop :=
  ((allocClientFromDev_spec hreg).usable_iff h.pos rfl).mpr h

theorem Usable.dropClient (h : dev.Usable prop) : (dev.dropClient prop.clientId).Usable prop :=
  ((dev.dropClient_spec _).usable_iff h.pos rfl).mpr h

/-- The device may be used, and has a CU that gives a channel or is remembered. -/
def Offers (dev : DeviceData) (prop : CuProperty) (policyInfo : Nat) (wanted : CuData → Bool) :
    Prop :=
  dev.Usable prop ∧
    ∃ cu ∈ dev.cuList, wanted cu = true ∧ cu.matchesCu prop = true ∧ cu.Answers prop policyInfo

theorem tryDevice_ne_missed {wanted : CuData → Bool} {preCu : Option PreCu}
    (h : preCu ≠ none ∨ dev.Offers prop policyInfo wanted) (svc devId : Nat) :
    (dev.tryDevice devId prop svc policyInfo wanted preCu).2 ≠ .missed none := by
  rw [tryDevice]
  split
  · rename_i hreg
    rcases h with hsome | ⟨husable, -⟩
    · simpa using hsome
    · obtain ⟨dev₁, hok⟩ := husable.registers
      simp [hok] at hreg
  · rename_i dev₁ hreg
    have hsearch :
        searchCu prop svc policyInfo wanted devId 0 dev₁.cuList preCu ≠ .missed none := by
      rw [registered_cuList hreg]
      exact searchCu_ne_missed (h.imp_right fun hoffers => hoffers.2)
    cases hcase : searchCu prop svc policyInfo wanted devId 0 dev₁.cuList preCu with
    | acquired cuId cu chanId => simp [settle]
    | missed q =>
        rw [hcase] at hsearch
        simpa [settle] using hsearch

/-- Device `i` may be used, and has a hollow CU for the request. -/
structure Feeds (propV2 : CuPropertyV2) (i : Nat) (dev : DeviceData) : Prop where
  number : dev.devLoadInfo.deviceId = i
  usable : dev.Usable (cuPropertyCopyFromV2 propV2)
  tallied : ∀ cu ∈ dev.cuList, cu.Tallied
  hollow : ∃ cu ∈ dev.cuList, cu.matchesCu (cuPropertyCopyFromV2 propV2) = true ∧
    cu.Hollow (cuPropertyCopyFromV2 propV2) propV2.policyInfo

theorem Feeds.congr (h : dev.Feeds propV2 i) (hfollows : dev.Follows dev')
    (hcus : dev'.cuList = dev.cuList) (husable : dev'.Usable (cuPropertyCopyFromV2 propV2)) :
    dev'.Feeds propV2 i :=
  ⟨hfollows.number.trans h.number, husable, by rw [hcus]; exact h.tallied, by rw [hcus]; exact h.hollow⟩

theorem Feeds.registered (h : dev.Feeds propV2 i)
    (hreg : dev.allocClientFromDev (cuPropertyCopyFromV2 propV2) = .ok dev₁) : dev₁.Feeds propV2 i :=
  h.congr (registered_follows hreg) (registered_cuList hreg) (h.usable.registered hreg)

theorem Feeds.dropClient (h : dev.Feeds propV2 i) :
    (dev.dropClient (cuPropertyCopyFromV2 propV2).clientId).Feeds propV2 i :=
  h.congr (dev.dropClient_follows _) (dev.dropClient_cuList _) h.usable.dropClient

theorem Feeds.touch (h : dev.Feeds propV2 i) (htouch : Touch (cuPropertyCopyFromV2 propV2) dev dev') :
    dev'.Feeds propV2 i := by
  obtain ⟨-, dev₁, hreg, rfl⟩ := htouch
  exact (h.registered hreg).dropClient

/-- A channel of a CU is taken. -/
theorem Feeds.grant (h : dev.Feeds propV2 i) {cuId chanId : Nat} {cu cu' : CuData}
    {preCu : Option CuData} (hcu : dev.cuList[cuId]? = some cu)
    (halloc : cu.allocChanClientFromCu (cuPropertyCopyFromV2 propV2) svc policyInfo preCu =
      .allocated cu' chanId) : (dev.grant (cuPropertyCopyFromV2 propV2) cuId cu').Feeds propV2 i := by
  have hcus : (dev.grant (cuPropertyCopyFromV2 propV2) cuId cu').cuList =
      dev.cuList.set cuId cu' := by
    obtain ⟨info, hgrant⟩ := dev.grant_frame (cuPropertyCopyFromV2 propV2) cuId cu'
    rw [hgrant]
    rfl
  have hmem := List.mem_of_getElem? hcu
  have htallied := h.tallied cu hmem
  refine ⟨(dev.grant_follows _ _ _).number.trans h.number, grant_usable h.usable _ _,
    fun x hx => ?_, ?_⟩
  · rw [hcus] at hx
    rcases List.mem_or_eq_of_mem_set hx with hx | rfl
    · exact h.tallied x hx
    · exact (htallied.allocated halloc).1
  · obtain ⟨x, hx, hmatch, hhollow⟩ := h.hollow
    obtain ⟨j, hj⟩ := List.getElem?_of_mem hx
    rw [hcus]
    obtain ⟨hlt, rfl⟩ := List.getElem?_eq_some_iff.mp hcu
    by_cases hsame : cuId = j
    · subst hsame
      obtain rfl : dev.cuList[cuId] = x := Option.some.inj (hcu.symm.trans hj)
      refine ⟨cu', List.mem_set hlt cu', ?_, ?_⟩
      · rw [htallied.matchesCu_allocated halloc]
        exact hmatch
      · exact (CuData.hollow_allocated_iff htallied halloc).mpr hhollow
    · refine ⟨x, List.mem_of_getElem? (i := j) ?_, hmatch, hhollow⟩
      rw [List.getElem?_set_ne hsame]
      exact hj

theorem Feeds.allocPreCu (h : dev.Feeds propV2 i) (devId svc cuId : Nat) :
    (dev.allocPreCu devId (cuPropertyCopyFromV2 propV2) svc cuId).1.Feeds propV2 i := by
  rcases dev.allocPreCu_cases devId (cuPropertyCopyFromV2 propV2) svc cuId with
    ⟨hsame, -⟩ | ⟨cu, cu', chanId, hcu, halloc, hgrant⟩
  · rw [hsame]
    exact h
  · rw [hgrant]
    exact h.grant hcu halloc

theorem Feeds.grab (h : dev.Feeds propV2 i) {devId : Nat} {res : CuResource}
    (hgrab : Grab (cuPropertyCopyFromV2 propV2) svc devId dev dev' res) : dev'.Feeds propV2 i := by
  obtain ⟨dev₁, policyInfo, cuId, cu', chanId, hreg, ⟨cu, pre, hcu, -, halloc⟩, rfl, -⟩ := hgrab
  rw [← registered_cuList hreg] at hcu
  exact (h.registered hreg).grant hcu halloc

/-- The hollow CU is wanted in one of the two passes. -/
theorem Feeds.offers (h : dev.Feeds propV2 i) (hpos : 0 < propV2.requestLoadUnified) :
    dev.Offers (cuPropertyCopyFromV2 propV2) propV2.policyInfo inUse ∨
      dev.Offers (cuPropertyCopyFromV2 propV2) propV2.policyInfo unused := by
  obtain ⟨cu, hcu, hmatch, hhollow⟩ := h.hollow
  have hanswers := hhollow.answers (h.tallied cu hcu) hpos
  exact (inUse_or_unused cu).imp (fun hwanted => ⟨h.usable, cu, hcu, hwanted, hmatch, hanswers⟩)
    fun hwanted => ⟨h.usable, cu, hcu, hwanted, hmatch, hanswers⟩

end DeviceData

/-! ## The system -/

namespace System

variable {propV2 : CuPropertyV2} {s s' s₁ : System} {i : Nat}

/-- Device `i` may be used, and has a hollow CU for the request. -/
def FeedsAt (propV2 : CuPropertyV2) (i : Nat) (s : System) : Prop :=
  ∃ dev, s.devList[i]? = some dev ∧ dev.Feeds propV2 i

theorem FeedsAt.setDev (h : s.FeedsAt propV2 i) {j : Nat} {dev dev' : DeviceData}
    (hdev : s.devList[j]? = some dev) (hstep : dev.Feeds propV2 i → dev'.Feeds propV2 i) :
    (s.setDev j dev').FeedsAt propV2 i := by
  obtain ⟨x, hx, hfeeds⟩ := h
  rcases getElem?_setDev hdev hx with hsame | ⟨-, rfl, hnew⟩
  · exact ⟨x, hsame, hfeeds⟩
  · exact ⟨dev', hnew, hstep hfeeds⟩

theorem Touched.feedsAt (h : Touched (cuPropertyCopyFromV2 propV2) s s')
    (hs : s.FeedsAt propV2 i) : s'.FeedsAt propV2 i := by
  induction h with
  | refl => exact hs
  | tail _ hstep ih =>
      obtain ⟨j, dev, dev', hdev, htouch, rfl⟩ := hstep
      exact ih.setDev hdev fun hfeeds => hfeeds.touch htouch

/-- The access to a device outlasts attempts that find nothing. -/
theorem Touched.offers {prop : CuProperty} {wanted : CuData → Bool} (h : Touched prop s s')
    (hs : ∃ dev, s.devList[i]? = some dev ∧ dev.Offers prop policyInfo wanted) :
    ∃ dev, s'.devList[i]? = some dev ∧ dev.Offers prop policyInfo wanted := by
  induction h with
  | refl => exact hs
  | tail _ hstep ih =>
      obtain ⟨j, dev, dev', hdev, htouch, rfl⟩ := hstep
      obtain ⟨x, hx, husable, hcu⟩ := ih
      rcases getElem?_setDev hdev hx with hsame | ⟨-, rfl, hnew⟩
      · exact ⟨x, hsame, husable, hcu⟩
      · refine ⟨dev', hnew, ?_, by rw [htouch.cuList]; exact hcu⟩
        obtain ⟨-, dev₁, hreg, rfl⟩ := htouch
        exact (husable.registered hreg).dropClient

/-- An allocation that succeeds, and leaves the hollow CU on device `i`. -/
def Endures (propV2 : CuPropertyV2) (i : Nat) (r : System × Except XrmError CuResource) : Prop :=
  (∃ res, r.2 = .ok res) ∧ r.1.FeedsAt propV2 i

theorem FeedsAt.finishAlloc (h : s.FeedsAt propV2 i) (updateId : Bool) (res : CuResource) :
    Endures propV2 i (s.finishAlloc updateId res) := by
  refine ⟨⟨res, rfl⟩, ?_⟩
  rw [System.finishAlloc]
  split <;> exact h

theorem Attempt.feedsAt {res : CuResource} (hs : s.FeedsAt propV2 i)
    (h : Attempt (cuPropertyCopyFromV2 propV2) svc s s' (some res)) : s'.FeedsAt propV2 i := by
  cases h with
  | acquired htouch hdev hgrab =>
      exact (htouch.feedsAt hs).setDev hdev fun hfeeds => hfeeds.grab hgrab

/-- A pass finds something if it has remembered a CU, or comes to a device that offers one. -/
theorem allocPass_ne_missed {prop : CuProperty} {wanted : CuData → Bool} {devIds : List Nat}
    {preCu : Option PreCu} (i : Nat) (s : System)
    (h : preCu ≠ none ∨ i ∈ devIds ∧
      ∃ dev, s.devList[i]? = some dev ∧ dev.Offers prop policyInfo wanted) :
    (allocPass prop policyInfo anyDevice wanted devIds s preCu).2 ≠ .missed none := by
  induction devIds generalizing s preCu with
  | nil => simpa [allocPass] using h
  | cons devId devIds ih =>
      rw [allocPass]
      split
      · rename_i hnone
        refine ih _ (h.imp_right ?_)
        rintro ⟨hi, dev, hdev, hoffers⟩
        refine ⟨(List.mem_cons.mp hi).resolve_left ?_, dev, hdev, hoffers⟩
        rintro rfl
        simp [hnone] at hdev
      rename_i dev hdev
      split
      · split
        · simp
        rename_i dev' q htry
        have hfound : preCu ≠ none ∨ dev.Offers prop policyInfo wanted → q ≠ none := by
          intro hany hq
          have hne := DeviceData.tryDevice_ne_missed hany s.getNextAllocServiceId devId
          rw [htry, hq] at hne
          exact hne rfl
        refine ih _ ?_
        rcases h with hsome | ⟨hi, x, hx, hoffers⟩
        · exact .inl (hfound (.inl hsome))
        by_cases hsame : devId = i
        · subst hsame
          obtain rfl : dev = x := Option.some.inj (hdev.symm.trans hx)
          exact .inl (hfound (.inr hoffers))
        · refine .inr ⟨(List.mem_cons.mp hi).resolve_left fun heq => hsame heq.symm, x, ?_, hoffers⟩
          rw [getElem?_setDev_ne hsame]
          exact hx
      · rename_i hnot
        refine ih _ (h.imp_right ?_)
        rintro ⟨hi, x, hx, hoffers⟩
        refine ⟨(List.mem_cons.mp hi).resolve_left ?_, x, hx, hoffers⟩
        rintro rfl
        obtain rfl : dev = x := Option.some.inj (hdev.symm.trans hx)
        exact hnot (by rw [hoffers.1.isFree]; rfl)

theorem mem_range_of_device {dev : DeviceData} (hdev : s.devList[i]? = some dev) :
    i ∈ List.range s.numDevice := by
  rw [List.mem_range, numDevice]
  exact (List.getElem?_eq_some_iff.mp hdev).1

theorem FeedsAt.allocTwice (h : s.FeedsAt propV2 i) (hpos : 0 < propV2.requestLoadUnified) :
    (s.allocTwice (cuPropertyCopyFromV2 propV2) propV2.policyInfo).2 ≠ .missed none := by
  have hfirst := allocPass_attempt (cuPropertyCopyFromV2 propV2) propV2.policyInfo anyDevice inUse
    (List.range s.numDevice) s none
  obtain ⟨dev, hdev, hfeeds⟩ := h
  rw [System.allocTwice]
  split
  · simp
  rename_i s₁ preCu heq
  rw [heq] at hfirst
  refine allocPass_ne_missed i s₁ ?_
  rcases hfeeds.offers hpos with hoffers | hoffers
  · have hne := @allocPass_ne_missed propV2.policyInfo (cuPropertyCopyFromV2 propV2) inUse
      (List.range s.numDevice) none i s (.inr ⟨mem_range_of_device hdev, dev, hdev, hoffers⟩)
    rw [heq] at hne
    exact .inl fun hnone => hne (by rw [hnone])
  · obtain ⟨dev', hdev', hoffers'⟩ := hfirst.touched.offers ⟨dev, hdev, hoffers⟩
    exact .inr ⟨mem_range_of_device hdev', dev', hdev', hoffers'⟩

/-! ## The allocations by load -/

theorem FeedsAt.resAllocCuByCuLoad (h : s.FeedsAt propV2 i) (hpos : 0 < propV2.requestLoadUnified)
    (updateId : Bool) : Endures propV2 i (s.resAllocCuByCuLoad propV2 updateId) := by
  have htwice := s.allocTwice_attempt (cuPropertyCopyFromV2 propV2) propV2.policyInfo
  have hfound := h.allocTwice hpos
  rw [System.resAllocCuByCuLoad]
  simp only
  split
  · rename_i heq
    rw [heq] at htwice
    exact (htwice.feedsAt h).finishAlloc updateId _
  · rename_i heq
    rw [heq] at hfound
    exact absurd rfl hfound
  · rename_i s₁ q heq
    obtain ⟨s₂, dev₂, -, hafter, hdev₂, -⟩ := allocTwice_remembered heq
    obtain ⟨dev, hdev, -⟩ := hafter.device hdev₂
    rw [heq] at htwice
    rw [hdev]
    exact ((htwice.touched.feedsAt h).setDev hdev fun hfeeds =>
      hfeeds.allocPreCu q.devId _ q.cuId).finishAlloc updateId _

theorem registerOn_of_usable {prop : CuProperty} {dev : DeviceData}
    (hdev : s.devList[i]? = some dev) (hnamed : prop.unnamed = false) (husable : dev.Usable prop) :
    ∃ dev₁, s.registerOn i prop = .ok (i, dev₁) ∧ dev.allocClientFromDev prop = .ok dev₁ := by
  obtain ⟨dev₁, hreg⟩ := husable.registers
  have hlt : i < s.numDevice := (List.getElem?_eq_some_iff.mp hdev).1
  have hindex : s.devIndex i = some i := by
    rw [devIndex, if_pos ⟨by omega, by omega⟩, Int.toNat_natCast]
  refine ⟨dev₁, ?_, hreg⟩
  simp only [registerOn, hindex, hnamed, hdev, husable.isFree, hreg, Bool.false_eq_true, if_false,
    if_true]

theorem FeedsAt.resAllocCuFromDevByCuLoad (h : s.FeedsAt propV2 i)
    (hpos : 0 < propV2.requestLoadUnified)
    (hnamed : (cuPropertyCopyFromV2 propV2).unnamed = false) (updateId : Bool) :
    Endures propV2 i (s.resAllocCuFromDevByCuLoad i propV2 updateId) := by
  obtain ⟨dev, hdev, hfeeds⟩ := id h
  obtain ⟨dev₁, hregOn, hreg⟩ := registerOn_of_usable hdev hnamed hfeeds.usable
  rw [System.resAllocCuFromDevByCuLoad]
  simp only
  rw [hregOn]
  simp only
  cases hsearch : searchCuTwice (cuPropertyCopyFromV2 propV2) s.getNextAllocServiceId
      propV2.policyInfo i dev₁.cuList with
  | acquired cuId cu' chanId =>
      obtain ⟨cu, pre, hcu, -, halloc⟩ := acquired_of_searchCuTwice propV2.policyInfo i hsearch
      exact (h.setDev hdev fun hfeeds =>
        (hfeeds.registered hreg).grant hcu halloc).finishAlloc updateId _
  | missed q =>
      cases q with
      | some q =>
          exact (h.setDev hdev fun hfeeds =>
            (hfeeds.registered hreg).allocPreCu i _ q.cuId).finishAlloc updateId _
      | none =>
          exfalso
          rw [searchCuTwice, DeviceData.registered_cuList hreg] at hsearch
          split at hsearch
          · simp at hsearch
          rename_i preCu hfirst
          refine searchCu_ne_missed ?_ hsearch
          rcases hfeeds.offers hpos with hoffers | hoffers
          · left
            rintro rfl
            exact searchCu_ne_missed (.inr hoffers.2) hfirst
          · exact .inr hoffers.2

theorem FeedsAt.allocByDevLoad (h : s.FeedsAt propV2 i) (hpos : 0 < propV2.requestLoadUnified)
    (updateId : Bool) {devIds : List Nat} (hi : i ∈ devIds) :
    Endures propV2 i (System.allocByDevLoad (cuPropertyCopyFromV2 propV2) propV2.policyInfo
      updateId devIds s) := by
  induction devIds generalizing s with
  | nil => simp at hi
  | cons devId devIds ih =>
      obtain ⟨x, hx, hfeeds⟩ := id h
      rw [System.allocByDevLoad]
      split
      · rename_i hnone
        refine ih h ((List.mem_cons.mp hi).resolve_left ?_)
        rintro rfl
        simp [hnone] at hx
      rename_i dev hdev
      split
      · rename_i hreg
        refine ih h ((List.mem_cons.mp hi).resolve_left ?_)
        rintro rfl
        obtain rfl : dev = x := Option.some.inj (hdev.symm.trans hx)
        obtain ⟨dev₁, hok⟩ := hfeeds.usable.registers
        simp [hok] at hreg
      rename_i dev₁ hreg
      simp only
      cases hsearch : searchCu (cuPropertyCopyFromV2 propV2) s.getNextAllocServiceId
          propV2.policyInfo (fun _ => true) devId 0 dev₁.cuList none with
      | acquired cuId cu' chanId =>
          obtain ⟨cu, pre, hcu, -, halloc⟩ := acquired_of_searchCu hsearch
          exact (h.setDev hdev fun hfeeds =>
            (hfeeds.registered hreg).grant hcu halloc).finishAlloc updateId _
      | missed q =>
          cases q with
          | some q =>
              exact (h.setDev hdev fun hfeeds =>
                (hfeeds.registered hreg).allocPreCu devId _ q.cuId).finishAlloc updateId _
          | none =>
              refine ih (h.setDev hdev fun hfeeds => (hfeeds.registered hreg).dropClient)
                ((List.mem_cons.mp hi).resolve_left ?_)
              rintro rfl
              obtain rfl : dev = x := Option.some.inj (hdev.symm.trans hx)
              obtain ⟨cu, hcu, hmatch, hhollow⟩ := hfeeds.hollow
              rw [DeviceData.registered_cuList hreg] at hsearch
              exact searchCu_ne_missed (.inr ⟨cu, hcu, rfl, hmatch,
                hhollow.answers (hfeeds.tallied cu hcu) hpos⟩) hsearch

/-- The step lemma: an allocation of the second version that may come to device `i` succeeds and
leaves a hollow CU there. -/
theorem FeedsAt.resAllocCuV2 (h : s.FeedsAt propV2 i) (htries : propV2.Tries i)
    (updateId : Bool) :
    Endures propV2 i (s.resAllocCuV2 propV2 updateId) := by
  obtain ⟨hpos, hwhere⟩ := htries
  have hgiven : ¬(propV2.kernelName == "" && propV2.kernelAlias == "" && propV2.cuName == "") =
      true := by
    rcases hwhere with ⟨-, hnamed⟩ | ⟨-, hnamed, -⟩
    · simpa [and_assoc] using hnamed
    · intro hempty
      rw [Bool.and_eq_true] at hempty
      simp [CuProperty.unnamed, cuPropertyCopyFromV2, hempty.1] at hnamed
  rw [System.resAllocCuV2, if_neg hgiven]
  rcases hwhere with ⟨hnull, -⟩ | ⟨hcon, hnamed, hindex⟩
  · rw [if_pos hnull]
    obtain ⟨dev, hdev, hfeeds⟩ := id h
    obtain ⟨cu, -, -, share, -, -, hfurther⟩ := hfeeds.hollow
    split
    · have hi : i ∈ s.devLoadOrder propV2.policyInfo := by
        rw [← hfeeds.number]
        exact mem_devLoadOrder (List.mem_of_getElem? hdev) _
      exact h.allocByDevLoad hpos updateId hi
    split
    · exact h.resAllocCuByCuLoad hpos updateId
    · rename_i hdevPolicy hcuPolicy
      exfalso
      rcases hfurther with ⟨hmost, -⟩ | ⟨hleast, -⟩
      · rw [isMostUsedFirst, Bool.or_eq_true, beq_iff_eq, beq_iff_eq] at hmost
        exact hmost.elim (fun hcu => hcuPolicy (.inl hcu)) fun hdev => hdevPolicy (.inl hdev)
      · rw [isLeastUsedFirst, Bool.or_eq_true, beq_iff_eq, beq_iff_eq] at hleast
        exact hleast.elim (fun hcu => hcuPolicy (.inr hcu)) fun hdev => hdevPolicy (.inr hdev)
  · rw [if_neg (by rw [hcon]; decide), if_pos hcon, hindex]
    exact h.resAllocCuFromDevByCuLoad hpos hnamed updateId

theorem exists_feedsAt {D : Discipline} (hsound : s.Sound D) (hnum : s.Numbered)
    (h : ¬s.NoneHollow propV2) :
    ∃ i, propV2.Tries i ∧ s.FeedsAt propV2 i := by
  simp only [NoneHollow, DeviceData.NoneHollow, not_forall, not_not] at h
  obtain ⟨i, dev, hdev, htries, ⟨dev₁, hreg⟩, cu, hcu, hmatch, hhollow⟩ := h
  have hdevSound := hsound dev (List.mem_of_getElem? hdev)
  have hload : dev.isLoaded = true := by
    by_contra hoff
    rw [hdevSound.unloaded (by simpa using hoff)] at hcu
    cases hcu
  exact ⟨i, htries, dev, hdev,
    { number := hnum i dev hdev
      usable := DeviceData.usable_of_registered hdevSound.shape hload hreg
      tallied := fun cu hcu => (hdevSound.consistent cu hcu).tallied
      hollow := ⟨cu, hcu, hmatch, hhollow⟩ }⟩

/-- A query that may come to a hollow CU never comes to its end. -/
theorem FeedsAt.query_endless (h : s.FeedsAt propV2 i) (htries : propV2.Tries i) (fuel : Nat) :
    s.checkCuAvailableNumV2 propV2 fuel = none := by
  have hstep : ∀ s : System, s.FeedsAt propV2 i → ∃ s' res,
      s.resAllocCuV2 propV2 true = (s', .ok res) ∧ s'.FeedsAt propV2 i := by
    intro s hs
    obtain ⟨⟨res, hres⟩, hnext⟩ := hs.resAllocCuV2 htries true
    exact ⟨_, res, Prod.ext rfl hres, hnext⟩
  rw [checkCuAvailableNumV2, availableNum, Drain.run_eq_none hstep h, Option.map_none]

end System

end Xrm
