import Xrm.Verification.LoadEvolves

/-! # Searching a CU -/

namespace Xrm

open Relation

variable {prop : CuProperty} {svc policyInfo devId : Nat} {wanted : CuData → Bool}

/-! ## Allocation on one CU -/

/-- A load in use with one more channel for the request. -/
def CuProperty.drawn (prop : CuProperty) (used : Int) : Int := i32 (used + prop.requestLoadUnified)

namespace CuData

/-- The CU gives the request a channel. -/
def Gives (cu : CuData) (prop : CuProperty) (svc : Nat) : Prop :=
  ∃ cu' chanId, cu.allocChanClientFromCu prop svc policyNull none = .allocated cu' chanId

/-- The load in use and the limit of what the request may draw on: the default pool, or the slot of
its pool while that is active. -/
def activeShare (cu : CuData) (prop : CuProperty) : Option (Int × Int) :=
  if prop.poolId = 0 then some (cu.totalUsedLoadUnified, maxChanLoad)
  else
    (cu.isReservePoolUsingCu prop.poolId).bind fun i =>
      if (cu.slot i).clientIsActive then
        some ((cu.slot i).reserveUsedLoadUnified, (cu.slot i).reserveLoadUnified)
      else none

/-- With this share in use, a CU is compared with the others before it gives a channel. -/
def LooksFurther (prop : CuProperty) (policyInfo : Nat) (share : Int × Int) : Prop :=
  isMostUsedFirst policyInfo = true ∧ prop.drawn share.1 ≠ share.2 ∨
    isLeastUsedFirst policyInfo = true ∧ share.1 ≠ 0

instance (prop : CuProperty) (policyInfo : Nat) (share : Int × Int) :
    Decidable (LooksFurther prop policyInfo share) :=
  inferInstanceAs (Decidable (_ ∨ _))

/-- What admits the request is its share. -/
theorem Admits.activeShare {cu : CuData} {idx : Option Nat} (h : cu.Admits prop idx) :
    ∃ share, cu.activeShare prop = some share ∧ prop.drawn share.1 ≤ share.2 := by
  cases idx with
  | none =>
      obtain ⟨hp, hfits⟩ := h
      exact ⟨_, if_pos hp, hfits⟩
  | some i =>
      obtain ⟨hfind, hactive, hfits⟩ := h
      have hp : prop.poolId ≠ 0 := (isReservePoolUsingCu_eq_some hfind).1
      refine ⟨((cu.slot i).reserveUsedLoadUnified, (cu.slot i).reserveLoadUnified), ?_, hfits⟩
      rw [CuData.activeShare, if_neg hp, hfind, Option.bind_some, if_pos hactive]

/-- What a CU has checked that asks for a further check. -/
theorem furtherCheck_spec {cu : CuData} {preCu : Option CuData} {b : Bool}
    (h : cu.allocChanClientFromCu prop svc policyInfo preCu = .furtherCheck b) :
    0 < prop.requestLoadUnified ∧ (∃ idx, cu.Admits prop idx) ∧
      ∃ share, cu.activeShare prop = some share ∧ LooksFurther prop policyInfo share := by
  have hnot : ∀ idx, cu.takeChannel prop svc idx ≠ .furtherCheck b := by
    intro idx
    rw [takeChannel]
    split
    · simp
    split
    · split <;> simp
    · simp
  rw [allocChanClientFromCu] at h
  simp only at h
  split at h
  · simp at h
  rename_i hload
  refine ⟨by omega, ?_⟩
  split at h
  · split at h
    · simp at h
    rename_i i hfind
    split at h
    · simp at h
    rename_i hactive
    split at h
    · simp at h
    rename_i hfits
    rw [Bool.not_eq_true', Bool.not_eq_false] at hactive
    rename_i hp _
    refine ⟨⟨some i, hfind, hactive, by omega⟩, _,
      by rw [activeShare, if_neg hp, hfind, Option.bind_some, if_pos hactive], ?_⟩
    split at h
    · rename_i hmost
      exact .inl hmost
    split at h
    · rename_i hleast
      exact .inr hleast
    · exact absurd h (hnot _)
  · rename_i hp
    split at h
    · simp at h
    rename_i hfits
    rw [Decidable.not_not] at hp
    refine ⟨⟨none, hp, by omega⟩, _, if_pos hp, ?_⟩
    split at h
    · rename_i hmost
      exact .inl hmost
    split at h
    · rename_i hleast
      exact .inr hleast
    · exact absurd h (hnot _)

/-- Without a policy a CU that admits the request takes a channel for it. -/
theorem alloc_of_admits {cu : CuData} {idx : Option Nat} (hpos : 0 < prop.requestLoadUnified)
    (h : cu.Admits prop idx) :
    cu.allocChanClientFromCu prop svc policyNull none = cu.takeChannel prop svc idx := by
  have hmost : ¬isMostUsedFirst policyNull = true := by decide
  have hleast : ¬isLeastUsedFirst policyNull = true := by decide
  rw [allocChanClientFromCu]
  simp only
  rw [if_neg (by omega)]
  cases idx with
  | none =>
      obtain ⟨hp, hfits⟩ := h
      rw [if_neg (by simpa using hp), if_neg (by omega), if_neg fun hm => hmost hm.1,
        if_neg fun hl => hleast hl.1]
  | some i =>
      obtain ⟨hfind, hactive, hfits⟩ := h
      have hp : prop.poolId ≠ 0 := (isReservePoolUsingCu_eq_some hfind).1
      rw [if_pos hp, hfind]
      simp only [hactive]
      rw [if_neg (by simp), if_neg (by omega), if_neg fun hm => hmost hm.1,
        if_neg fun hl => hleast hl.1]

/-- A CU that asks for a further check gives a channel when it has a free one. -/
theorem gives_of_furtherCheck {cu : CuData} {preCu : Option CuData} {b : Bool}
    (hcu : cu.Consistent)
    (h : cu.allocChanClientFromCu prop svc policyInfo preCu = .furtherCheck b)
    (hroom : cu.numChanInuse < maxKernelChannels) : cu.Gives prop svc := by
  obtain ⟨hpos, ⟨idx, hadmits⟩, -⟩ := furtherCheck_spec h
  obtain ⟨chanId, -, -, heq⟩ := takeChannel_eq_allocated hcu.channels hroom prop svc idx
  exact ⟨_, chanId, (alloc_of_admits hpos hadmits).trans heq⟩

/-- A CU without a free channel gives none. -/
theorem not_gives_of_full {cu : CuData} (hcu : cu.Consistent)
    (hfull : ¬cu.numChanInuse < maxKernelChannels) : ¬cu.Gives prop svc := by
  rintro ⟨cu', chanId, h⟩
  obtain ⟨idx, halloc⟩ := allocated_of_allocChan hcu h
  exact hfull halloc.room

end CuData

/-! ## The CU loop -/

/-- What a search has found: a CU of the list on which a channel was taken. -/
structure Acquired (prop : CuProperty) (svc policyInfo : Nat) (cus : List CuData) (cuId : Nat)
    (cu' : CuData) (chanId : Nat) : Prop where
  found : ∃ cu preCu, cus[cuId]? = some cu ∧ cu.matchesCu prop = true ∧
    cu.allocChanClientFromCu prop svc policyInfo preCu = .allocated cu' chanId

/-- What a search remembers: a CU of the list that asked for a further check. -/
structure Remembered (prop : CuProperty) (svc policyInfo devId : Nat) (cus : List CuData)
    (preCu : PreCu) : Prop where
  devId : preCu.devId = devId
  mem : cus[preCu.cuId]? = some preCu.cu
  names : preCu.cu.matchesCu prop = true
  further : ∃ pre b, preCu.cu.allocChanClientFromCu prop svc policyInfo pre = .furtherCheck b

theorem searchCu_acquired {k cuId chanId : Nat} {cus : List CuData} {preCu : Option PreCu}
    {cu' : CuData}
    (h : searchCu prop svc policyInfo wanted devId k cus preCu = .acquired cuId cu' chanId) :
    ∃ j cu pre, cuId = k + j ∧ cus[j]? = some cu ∧ wanted cu = true ∧ cu.matchesCu prop = true ∧
      cu.allocChanClientFromCu prop svc policyInfo pre = .allocated cu' chanId := by
  induction cus generalizing k preCu with
  | nil => simp [searchCu] at h
  | cons cu cus ih =>
      have hskip : ∀ preCu, searchCu prop svc policyInfo wanted devId (k + 1) cus preCu =
          .acquired cuId cu' chanId →
          ∃ j cu₁ pre, cuId = k + j ∧ (cu :: cus)[j]? = some cu₁ ∧ wanted cu₁ = true ∧
            cu₁.matchesCu prop = true ∧
              cu₁.allocChanClientFromCu prop svc policyInfo pre = .allocated cu' chanId := by
        intro preCu hrest
        obtain ⟨j, cu₁, pre, rfl, hj, hspec⟩ := ih hrest
        exact ⟨j + 1, cu₁, pre, by omega, by simpa using hj, hspec⟩
      rw [searchCu] at h
      split at h
      · rename_i hw
        rw [Bool.and_eq_true] at hw
        split at h
        · rename_i cu₁ chanId₁ halloc
          simp only [CuSearch.acquired.injEq] at h
          obtain ⟨rfl, rfl, rfl⟩ := h
          exact ⟨0, cu, _, rfl, rfl, hw.1, hw.2, halloc⟩
        · exact hskip _ h
        · exact hskip _ h
      · exact hskip _ h

theorem searchCu_missed {k : Nat} {cus : List CuData} {preCu : Option PreCu} {q : PreCu}
    (h : searchCu prop svc policyInfo wanted devId k cus preCu = .missed (some q)) :
    preCu = some q ∨ ∃ j, q.cuId = k + j ∧ q.devId = devId ∧ cus[j]? = some q.cu ∧
      q.cu.matchesCu prop = true ∧
        ∃ pre b, q.cu.allocChanClientFromCu prop svc policyInfo pre = .furtherCheck b := by
  induction cus generalizing k preCu with
  | nil => exact .inl (by simpa [searchCu] using h)
  | cons cu cus ih =>
      have hskip : ∀ preCu', searchCu prop svc policyInfo wanted devId (k + 1) cus preCu' =
          .missed (some q) →
          (preCu' = preCu ∨ preCu' = some { devId := devId, cuId := k, cu := cu } ∧
            cu.matchesCu prop = true ∧
              ∃ pre b, cu.allocChanClientFromCu prop svc policyInfo pre = .furtherCheck b) →
          preCu = some q ∨ ∃ j, q.cuId = k + j ∧ q.devId = devId ∧ (cu :: cus)[j]? = some q.cu ∧
            q.cu.matchesCu prop = true ∧
              ∃ pre b, q.cu.allocChanClientFromCu prop svc policyInfo pre = .furtherCheck b := by
        intro preCu' hrest hpre
        rcases ih hrest with hq | ⟨j, hj, hdev, hmem, hnames, hfurther⟩
        · rcases hpre with hpre | ⟨hpre, hnames, hfurther⟩
          · exact .inl (hpre.symm.trans hq)
          · rw [hpre, Option.some.injEq] at hq
            subst hq
            exact .inr ⟨0, rfl, rfl, rfl, hnames, hfurther⟩
        · exact .inr ⟨j + 1, by omega, hdev, by simpa using hmem, hnames, hfurther⟩
      rw [searchCu] at h
      split at h
      · rename_i hw
        rw [Bool.and_eq_true] at hw
        split at h
        · simp at h
        · rename_i hfurther
          exact hskip _ h (.inr ⟨rfl, hw.2, _, _, hfurther⟩)
        · exact hskip _ h (.inl rfl)
      · exact hskip _ h (.inl rfl)

theorem acquired_of_searchCu {cuId chanId : Nat} {cus : List CuData} {preCu : Option PreCu}
    {cu' : CuData}
    (h : searchCu prop svc policyInfo wanted devId 0 cus preCu = .acquired cuId cu' chanId) :
    Acquired prop svc policyInfo cus cuId cu' chanId := by
  obtain ⟨j, cu, pre, hj, hmem, -, hmatch, halloc⟩ := searchCu_acquired h
  rw [zero_add] at hj
  subst hj
  exact ⟨cu, pre, hmem, hmatch, halloc⟩

theorem remembered_of_searchCu {cus : List CuData} {preCu : Option PreCu} {q : PreCu}
    (h : searchCu prop svc policyInfo wanted devId 0 cus preCu = .missed (some q)) :
    preCu = some q ∨ Remembered prop svc policyInfo devId cus q := by
  rcases searchCu_missed h with hq | ⟨j, hj, hdev, hmem, hnames, hfurther⟩
  · exact .inl hq
  · rw [zero_add] at hj
    subst hj
    exact .inr ⟨hdev, hmem, hnames, hfurther⟩

theorem acquired_of_searchCuTwice (policyInfo devId : Nat) {cuId chanId : Nat}
    {cus : List CuData} {cu' : CuData}
    (h : searchCuTwice prop svc policyInfo devId cus = .acquired cuId cu' chanId) :
    Acquired prop svc policyInfo cus cuId cu' chanId := by
  rw [searchCuTwice] at h
  split at h
  · rename_i hfirst
    simp only [CuSearch.acquired.injEq] at h
    obtain ⟨rfl, rfl, rfl⟩ := h
    exact acquired_of_searchCu hfirst
  · exact acquired_of_searchCu h

theorem remembered_of_searchCuTwice {cus : List CuData} {q : PreCu}
    (h : searchCuTwice prop svc policyInfo devId cus = .missed (some q)) :
    Remembered prop svc policyInfo devId cus q := by
  rw [searchCuTwice] at h
  split at h
  · simp at h
  · rename_i preCu hfirst
    rcases remembered_of_searchCu h with hq | hq
    · rw [hq] at hfirst
      exact (remembered_of_searchCu hfirst).resolve_left (by simp)
    · exact hq

/-- A remembered CU with a free channel gives one. -/
theorem Remembered.gives {cus : List CuData} {q : PreCu}
    (h : Remembered prop svc policyInfo devId cus q) (hcons : ∀ cu ∈ cus, cu.Consistent)
    (hroom : q.cu.numChanInuse < maxKernelChannels) :
    ∃ cu, cus[q.cuId]? = some cu ∧ cu.Gives prop svc := by
  obtain ⟨pre, b, hfurther⟩ := h.further
  exact ⟨q.cu, h.mem,
    CuData.gives_of_furtherCheck (hcons _ (List.mem_of_getElem? h.mem)) hfurther hroom⟩

/-! ## Using what was found -/

namespace DeviceData

variable {D : Discipline} {dev dev₁ : DeviceData}

theorem isLoaded_of_isFreeForClient {c : Nat} (h : dev.isFreeForClient c = true) :
    dev.isLoaded = true := by
  rw [isFreeForClient, Bool.and_eq_true] at h
  exact h.1

theorem registered_cuList (hreg : dev.allocClientFromDev prop = .ok dev₁) :
    dev₁.cuList = dev.cuList := by
  rw [(allocClientFromDev_spec hreg).frame]

theorem registered_isLoaded (hreg : dev.allocClientFromDev prop = .ok dev₁) :
    dev₁.isLoaded = dev.isLoaded := by
  rw [(allocClientFromDev_spec hreg).frame]

theorem dropClient_isLoaded (dev : DeviceData) (c : Nat) :
    (dev.dropClient c).isLoaded = dev.isLoaded := by
  rw [(dev.dropClient_spec c).frame]

theorem dropClient_cuList (dev : DeviceData) (c : Nat) :
    (dev.dropClient c).cuList = dev.cuList := by
  rw [(dev.dropClient_spec c).frame]

theorem grant_isLoaded (dev : DeviceData) (prop : CuProperty) (cuId : Nat) (cu : CuData) :
    (dev.grant prop cuId cu).isLoaded = dev.isLoaded := by
  obtain ⟨info, h⟩ := dev.grant_frame prop cuId cu
  rw [h]
  rfl

/-! ### Registering for a search -/

/-- The client is registered for a search that finds nothing, and dropped again. -/
def Touch (prop : CuProperty) (dev dev' : DeviceData) : Prop :=
  dev.isLoaded = true ∧
    ∃ dev₁, dev.allocClientFromDev prop = .ok dev₁ ∧ dev' = dev₁.dropClient prop.clientId

/-- The client is registered on device `devId` and takes a channel there. -/
def Grab (prop : CuProperty) (svc devId : Nat) (dev dev' : DeviceData) (res : CuResource) :
    Prop :=
  ∃ dev₁ policyInfo cuId cu' chanId, dev.allocClientFromDev prop = .ok dev₁ ∧
    Acquired prop svc policyInfo dev.cuList cuId cu' chanId ∧
      dev' = dev₁.grant prop cuId cu' ∧
        res = dev₁.grantedResource devId prop svc cuId cu' chanId

theorem Touch.act {dev' : DeviceData} (h : Touch prop dev dev') (hc : prop.clientId ≠ 0) :
    Work D dev dev' := by
  obtain ⟨hload, dev₁, hreg, rfl⟩ := h
  exact .touch hc hload hreg

theorem Grab.act {dev' : DeviceData} {res : CuResource} (h : Grab prop svc devId dev dev' res)
    (hs : prop.Received) (hsvc : svc ≠ 0) : Work D dev dev' := by
  obtain ⟨dev₁, policyInfo, cuId, cu', chanId, hreg, ⟨cu, pre, hcu, -, halloc⟩, rfl, -⟩ := h
  exact .grab hs hsvc hreg hcu halloc

theorem Touch.isLoaded {dev' : DeviceData} (h : Touch prop dev dev') :
    dev'.isLoaded = dev.isLoaded := by
  obtain ⟨-, dev₁, hreg, rfl⟩ := h
  rw [dropClient_isLoaded, registered_isLoaded hreg]

theorem Touch.cuList {dev' : DeviceData} (h : Touch prop dev dev') :
    dev'.cuList = dev.cuList := by
  obtain ⟨-, dev₁, hreg, rfl⟩ := h
  rw [dropClient_cuList, registered_cuList hreg]

theorem Grab.clientId {dev' : DeviceData} {res : CuResource}
    (h : Grab prop svc devId dev dev' res) : res.clientId = prop.clientId := by
  obtain ⟨dev₁, policyInfo, cuId, cu', chanId, -, -, -, rfl⟩ := h
  rfl

/-- What a search from a registered device finds settles as a grab or a touch. -/
theorem settle_cases {search : CuSearch} (hload : dev.isLoaded = true)
    (hreg : dev.allocClientFromDev prop = .ok dev₁)
    (hsearch : ∀ cuId cu' chanId, search = .acquired cuId cu' chanId →
      Acquired prop svc policyInfo dev₁.cuList cuId cu' chanId) :
    (∃ res, (dev₁.settle devId prop svc search).2 = .acquired res ∧
        Grab prop svc devId dev (dev₁.settle devId prop svc search).1 res) ∨
      ∃ preCu, search = .missed preCu ∧
        (dev₁.settle devId prop svc search).2 = .missed preCu ∧
          Touch prop dev (dev₁.settle devId prop svc search).1 := by
  cases search with
  | acquired cuId cu' chanId =>
      have hacq := hsearch _ _ _ rfl
      rw [registered_cuList hreg] at hacq
      exact .inl ⟨_, rfl, dev₁, policyInfo, cuId, cu', chanId, hreg, hacq, rfl, rfl⟩
  | missed preCu => exact .inr ⟨preCu, rfl, rfl, hload, dev₁, hreg, rfl⟩

theorem tryDevice_cases {preCu : Option PreCu} (hload : dev.isLoaded = true) :
    (∃ res, (dev.tryDevice devId prop svc policyInfo wanted preCu).2 = .acquired res ∧
        Grab prop svc devId dev (dev.tryDevice devId prop svc policyInfo wanted preCu).1 res) ∨
      ∃ q, (dev.tryDevice devId prop svc policyInfo wanted preCu).2 = .missed q ∧
        (Touch prop dev (dev.tryDevice devId prop svc policyInfo wanted preCu).1 ∨
          (dev.tryDevice devId prop svc policyInfo wanted preCu).1 = dev) := by
  rw [tryDevice]
  split
  · exact .inr ⟨preCu, rfl, .inr rfl⟩
  · rename_i dev₁ hreg
    rcases settle_cases hload hreg fun cuId cu' chanId h => acquired_of_searchCu h with
      hgrab | ⟨q, -, hmissed, htouch⟩
    · exact .inl hgrab
    · exact .inr ⟨q, hmissed, .inl htouch⟩

/-- The allocation on the remembered CU takes a channel of it, or does nothing. -/
theorem allocPreCu_cases (dev : DeviceData) (devId : Nat) (prop : CuProperty) (svc cuId : Nat) :
    (dev.allocPreCu devId prop svc cuId).1 = dev ∧
        (∀ cu, dev.cuList[cuId]? = some cu → ¬cu.Gives prop svc) ∨
      ∃ cu cu' chanId, dev.cuList[cuId]? = some cu ∧
        cu.allocChanClientFromCu prop svc policyNull none = .allocated cu' chanId ∧
          (dev.allocPreCu devId prop svc cuId).1 = dev.grant prop cuId cu' := by
  rw [allocPreCu]
  split
  · rename_i hnone
    exact .inl ⟨rfl, by simp [hnone]⟩
  · rename_i cu hcu
    split
    · rename_i cu' chanId halloc
      exact .inr ⟨cu, cu', chanId, hcu, halloc, rfl⟩
    · rename_i hno
      refine .inl ⟨rfl, ?_⟩
      intro cu₁ hcu₁
      rw [hcu, Option.some.injEq] at hcu₁
      subst hcu₁
      rintro ⟨cu', chanId, halloc⟩
      exact hno cu' chanId halloc

end DeviceData

end Xrm
