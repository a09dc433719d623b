import Xrm.Verification.Pledges
import Xrm.Verification.Scenario

/-! # Reservations over runs

A reservation lasts until its pool is relinquished or its client is recycled, whatever the clients
do in between, and while the counter of the pools has not wrapped no id is issued twice.
-/

namespace Xrm

open FixedTable Relation

namespace DeviceData

variable {D : Discipline} {dev : DeviceData}

/-- The slots in use belong to pools that have an id. -/
theorem Sound.pledgesAt_nil (hs : dev.Sound D) (h : dev.Issued 0) (j : Nat) :
    dev.pledgesAt j = [] := by
  refine DeviceData.pledgesAt_nil (fun cu hcu => ?_) j
  rw [List.eq_nil_iff_forall_not_mem]
  intro r hr
  have hle := (h cu hcu).pledges r.pledge (List.mem_map_of_mem hr)
  exact ((hs.consistent cu hcu).slots.active r hr).poolId (Nat.le_zero.mp hle)

end DeviceData

namespace System

variable {D : Discipline} {s s' s₁ : System} {p q c n limit : Nat} {op : Op}

/-! ## What is pledged in a state -/

/-- What is pledged on the CU at a place. -/
def pledgesAt (s : System) (place : Nat × Nat) : List ReserveData :=
  match s.devList[place.1]? with
  | some dev => dev.pledgesAt place.2
  | none => []

/-- What is pledged to the client out of its pool, at every place. -/
def pledgedTo (s : System) (p c : Nat) (place : Nat × Nat) : List ReserveData :=
  (s.pledgesAt place).filter fun r => r.reservePoolId == p && r.clientId == c

theorem pledgesAt_of_dev {i : Nat} {dev : DeviceData} (hdev : s.devList[i]? = some dev) (j : Nat) :
    s.pledgesAt (i, j) = dev.pledgesAt j := by simp [pledgesAt, hdev]

theorem pledgesAt_devs (hdevs : s'.devList = s.devList) : s'.pledgesAt = s.pledgesAt := by
  funext place
  rw [pledgesAt, hdevs, pledgesAt]

theorem pledgedTo_congr (h : s'.pledgesAt = s.pledgesAt) (p c : Nat) :
    s'.pledgedTo p c = s.pledgedTo p c := by
  funext place
  rw [pledgedTo, h, pledgedTo]

/-- A device on which the client keeps its pledges. -/
theorem pledgedTo_setDev {i : Nat} {dev dev' : DeviceData} (hdev : s.devList[i]? = some dev)
    (h : ∀ j, (dev'.pledgesAt j).filter (fun r => r.reservePoolId == p && r.clientId == c) =
      (dev.pledgesAt j).filter fun r => r.reservePoolId == p && r.clientId == c) :
    (s.setDev i dev').pledgedTo p c = s.pledgedTo p c := by
  funext ⟨k, j⟩
  by_cases hk : i = k
  · subst hk
    rw [pledgedTo, pledgedTo, pledgesAt_of_dev (getElem?_setDev_self hdev dev'),
      pledgesAt_of_dev hdev, h]
  · rw [pledgedTo, pledgedTo, pledgesAt, pledgesAt, getElem?_setDev_ne hk]

/-- No pool but 0 and those with ids up to `n` is named anywhere. -/
def Issued (n : Nat) (s : System) : Prop := ∀ dev ∈ s.devList, dev.Issued n

theorem Issued.mono {m : Nat} (h : s.Issued n) (hle : n ≤ m) : s.Issued m :=
  fun dev hdev cu hcu => (h dev hdev cu hcu).mono hle

theorem Issued.unreserved (h : s.Issued n) (hlt : n < p) : s.Unreserved p := by
  intro dev hdev cu hcu r hr hp
  have hle := (h dev hdev cu hcu).pledges r.pledge (List.mem_map_of_mem hr)
  have heq : r.pledge.reservePoolId = p := hp
  omega

theorem Issued.noOrphan (h : s.Issued n) (hlt : n < p) : s.NoOrphan p := by
  intro dev hdev cu hcu _ chan hchan hp
  have hle := (h dev hdev cu hcu).channels chan hchan
  omega

theorem issued_iff_cus : s.Issued n ↔ ∀ cu ∈ s.cus, cu.Issued n := by
  simp only [cus, List.mem_flatMap]
  constructor
  · rintro h cu ⟨dev, hdev, hcu⟩
    exact h dev hdev cu hcu
  · exact fun h dev hdev cu hcu => h cu ⟨dev, hdev, hcu⟩

/-! ## What the operations keep -/

theorem Evolves.issued (h : Evolves D s s') (hs : s.Sound D) (hissued : s.Issued n) :
    s'.Issued n := by
  have hboth : ∀ dev ∈ s'.devList, dev.Sound D ∧ dev.Issued n := by
    refine h.devs.invariant (fun dev hdev => ⟨hs dev hdev, hissued dev hdev⟩) ?_ ?_
    · rintro dev ⟨devId, call, rfl⟩
      exact ⟨sound_probed ⟨devId, call, rfl⟩, fun cu hcu => by
        simp [DeviceData.probed, DeviceData.openDevice] at hcu⟩
    · rintro dev dev' ⟨hsound, hissued⟩ hact
      exact ⟨hact.sound hsound, hact.issued hsound hissued⟩
  exact fun dev hdev => (hboth dev hdev).2

/-- No pool gets an id, and none is newly named. -/
structure Quiet (s s' : System) : Prop where
  reservePoolId : s'.reservePoolId = s.reservePoolId
  issued : ∀ {n : Nat}, s.Issued n → s'.Issued n

theorem Quiet.of_devs (hid : s'.reservePoolId = s.reservePoolId)
    (hdevs : s'.devList = s.devList) : Quiet s s' :=
  ⟨hid, fun h => by rw [Issued, hdevs]; exact h⟩

theorem Quiet.trans (h : Quiet s s₁) (h' : Quiet s₁ s') : Quiet s s' :=
  ⟨h'.reservePoolId.trans h.reservePoolId, fun hissued => h'.issued (h.issued hissued)⟩

theorem Develops.quiet (h : Develops D s s') (hs : s.Sound D) : Quiet s s' :=
  ⟨h.reservePoolId, fun hissued => h.issued hs hissued⟩

/-- Of the CUs that the loops came to, the pool is gone; the others are as they were. -/
theorem PoolLeft.quiet {done rest : List CuData} (h : PoolLeft p s s' done rest) :
    Quiet s s' := by
  refine ⟨by rw [h.frame], fun {n} hissued => ?_⟩
  obtain ⟨done', hafter, hwithout⟩ := h.after
  rw [issued_iff_cus, h.before] at hissued
  rw [issued_iff_cus, hafter]
  intro cu' hcu'
  rcases List.mem_append.mp hcu' with hcu' | hcu'
  · refine forall₂_forall hwithout (fun cu hcu cu' hw => ?_) cu' hcu'
    have hcu := hissued cu (List.mem_append_left _ hcu)
    refine ⟨fun r hr => hcu.pledges r ?_, by rw [hw.users.channels]; exact hcu.channels⟩
    rw [CuData.pledges, hw.slots] at hr
    exact List.map_subset _ (List.filter_subset_self _) hr
  · exact hissued cu' (List.mem_append_right _ hcu')

theorem resRelinquishCuPool_quiet (hs : s.Sound D) (p : Nat) :
    Quiet s (s.resRelinquishCuPool p).1 := by
  have hleaves := hs.leavesPool p
  generalize s.resRelinquishCuPool p = r at hleaves
  cases hleaves with
  | invalid hp => exact .of_devs rfl rfl
  | left hp h => exact h.quiet
  | blocked hp h hr hpool hused => exact h.quiet

/-- Allocations, releases and loads keep all pledges. -/
theorem Develops.pledgesAt (h : Develops D s s') (hs : s.Sound D) (hprobed : s.Probed) :
    s'.pledgesAt = s.pledgesAt := by
  have hplaces := h.places hprobed
  funext ⟨i, j⟩
  cases hdev : s.devList[i]? with
  | some dev =>
      obtain ⟨dev', hdev', hworks⟩ := hplaces.places i dev hdev
      rw [pledgesAt_of_dev hdev', pledgesAt_of_dev hdev,
        DeviceData.works_pledgesAt hworks (hs dev (List.mem_of_getElem? hdev))]
  | none =>
      rw [System.pledgesAt, System.pledgesAt, hdev]
      cases hdev' : s'.devList[i]? with
      | none => rfl
      | some dev' =>
          have hmem := List.mem_of_getElem? hdev'
          by_cases hnil : s.devList = []
          · -- the devices have just been probed
            have hissued : s'.Issued 0 := h.issued hs (by simp [Issued, hnil])
            exact (h.sound hs dev' hmem).pledgesAt_nil (hissued dev' hmem) j
          · have hlength := hplaces.length hnil
            have hi := (List.getElem?_eq_some_iff.mp hdev').1
            rw [List.getElem?_eq_none_iff] at hdev
            omega

theorem Beside.pledgedTo (h : Beside q s s') (hq : q ≠ p) (c : Nat) :
    s'.pledgedTo p c = s.pledgedTo p c := by
  have hfilter : ∀ l : List ReserveData,
      l.filter (fun r => r.reservePoolId == p && r.clientId == c) =
        (l.filter (·.reservePoolId != q)).filter
          fun r => r.reservePoolId == p && r.clientId == c := by
    intro l
    rw [List.filter_filter]
    refine List.filter_congr fun r _ => ?_
    by_cases hr : r.reservePoolId = p
    · simp [hr, Ne.symm hq]
    · simp [hr]
  funext ⟨i, j⟩
  rw [System.pledgedTo, System.pledgedTo, System.pledgesAt, System.pledgesAt]
  have hdev := forall₂_getElem?_rel h.devices i
  generalize s.devList[i]? = o at hdev
  generalize s'.devList[i]? = o' at hdev
  cases hdev with
  | none => rfl
  | @some dev dev' hdev =>
      have hcu := forall₂_getElem?_rel hdev.2 j
      show (dev'.pledgesAt j).filter _ = (dev.pledgesAt j).filter _
      rw [DeviceData.pledgesAt, DeviceData.pledgesAt, List.getElem?_map, List.getElem?_map]
      generalize dev.cuList[j]? = o at hcu
      generalize dev'.cuList[j]? = o' at hcu
      cases hcu with
      | none => rfl
      | @some cu cu' hcu =>
          show cu'.pledges.filter _ = cu.pledges.filter _
          rw [hfilter cu'.pledges, hcu.pledges, ← hfilter]

theorem Beside.issued (h : Beside p s s') (hissued : s.Issued n) (hp : p ≤ n) : s'.Issued n := by
  refine forall₂_forall h.devices fun dev hdev dev' hrel => ?_
  exact forall₂_forall hrel.2 fun cu hcu cu' hb => (hissued dev hdev cu hcu).beside hb hp

/-! ### Recycling -/

/-- Recycling one client takes nothing that is pledged to another. -/
theorem recycleDevices_pledgedTo (hs : s.Sound allRuns) {d : Nat} (hd : d ≠ 0) (hdc : d ≠ c)
    (devIds : List Nat) (tmpSum : Int) :
    (recycleDevices d devIds s tmpSum).pledgedTo p c = s.pledgedTo p c ∧
      (recycleDevices d devIds s tmpSum).reservePoolId = s.reservePoolId := by
  induction devIds generalizing s tmpSum with
  | nil => exact ⟨rfl, rfl⟩
  | cons devId devIds ih =>
      by_cases hon : ∃ dev, s.devList[devId]? = some dev ∧ dev.isLoaded = true
      · obtain ⟨dev, hdev, hload⟩ := hon
        have hsound := hs dev (List.mem_of_getElem? hdev)
        have hacts := DeviceData.recycleOn_acts hsound hd hload False.elim tmpSum
        have hset := (Evolves.setDev hdev hacts).sound hs
        rw [recycleDevices_cons hsound hdev hload]
        obtain ⟨hpledged, hid⟩ := ih hset (DeviceData.recycleReserves d dev.cuList tmpSum).2
        refine ⟨hpledged.trans (pledgedTo_setDev hdev fun j => ?_), hid⟩
        rw [DeviceData.recycleOn_pledgesAt hsound hd, List.filter_filter]
        refine List.filter_congr fun r _ => ?_
        by_cases hr : r.clientId = c
        · simp [hr, Ne.symm hdc]
        · simp [hr]
      · have hoff : ∀ dev, s.devList[devId]? = some dev → dev.isLoaded = false := by
          intro dev hdev
          simpa using fun hload => hon ⟨dev, hdev, hload⟩
        rw [recycleDevices_skip hoff]
        exact ih hs tmpSum

theorem recycleResource_pledgedTo (hs : s.Sound allRuns) {d : Nat} (hd : d ≠ 0) (hdc : d ≠ c) :
    (s.recycleResource d).pledgedTo p c = s.pledgedTo p c := by
  rw [← (recycleDevices_pledgedTo hs hd hdc (List.range s.numDevice) 0).1]
  exact pledgedTo_congr (pledgesAt_devs rfl) p c

theorem recycleAll_pledgedTo {clients : List Nat} (h : s.Good allRuns)
    (hclients : ∀ d ∈ clients, d ≠ 0) (hc : c ∉ clients) :
    (clients.foldl recycleResource s).pledgedTo p c = s.pledgedTo p c := by
  induction clients generalizing s with
  | nil => rfl
  | cons d clients ih =>
      have hd := hclients d (by simp)
      have hrest := ih (h.recycle hd False.elim) (fun e he => hclients e (by simp [he]))
        fun hmem => hc (by simp [hmem])
      rw [List.foldl_cons, hrest]
      exact recycleResource_pledgedTo h.sound hd fun heq => hc (by simp [heq])

theorem recycleResource_quiet (hs : s.Sound allRuns) {d : Nat} (hd : d ≠ 0) :
    Quiet s (s.recycleResource d) := by
  have hev : Evolves allRuns s (recycleDevices d (List.range s.numDevice) s 0) :=
    recycleDevices_evolves hd _ List.nodup_range s 0 hs False.elim
  constructor
  · exact (@recycleDevices_pledgedTo s 0 (d + 1) hs d hd (Nat.succ_ne_self d).symm _ 0).2
  · exact fun hissued => hev.issued hs hissued

theorem recycleAll_quiet {clients : List Nat} (h : s.Good allRuns)
    (hclients : ∀ d ∈ clients, d ≠ 0) : Quiet s (clients.foldl recycleResource s) := by
  induction clients generalizing s with
  | nil => exact .of_devs rfl rfl
  | cons d clients ih =>
      have hd := hclients d (by simp)
      have hfirst := recycleResource_quiet h.sound hd
      apply hfirst.trans
      exact ih (h.recycle hd False.elim) fun e he => hclients e (by simp [he])

/-- A reset recycles the clients of the device, and the rest of it keeps what is pledged. -/
theorem resetDevice_spec (D : Discipline) (s : System) (env : XrtEnv) (devId : Nat) :
    (s.resetDevice env devId).1 = s ∨ ∃ dev, s.devList[devId]? = some dev ∧
      dev.deviceHandle = true ∧
        Develops D ((clientsOn dev).foldl recycleResource s) (s.resetDevice env devId).1 := by
  rw [resetDevice]
  split
  · exact .inl rfl
  rename_i dev hdev
  split
  · rename_i hhandle
    refine .inr ⟨dev, hdev, hhandle, ?_⟩
    have hunload := unloadOneDevice_evolves D ((clientsOn dev).foldl recycleResource s) env devId ""
    simp only
    split
    · exact hunload
    · rename_i dev' hdev'
      exact hunload.trans (evolves_setDev hdev' (.single (.mark rfl rfl rfl rfl rfl (.congr rfl rfl rfl rfl rfl))))
  · exact .inl rfl

/-! ### Pool requests -/

/-- The outcomes of a pool request: it leads back to the state, or the pool has the next id. -/
inductive PoolEndsBy (Q : Nat → Prop) (s : System) : System → Nat → Prop where
  | refused : PoolEndsBy Q s s 0
  | abandoned {s₁ : System} (h : DevActsBy Q s.getNextReservePoolId s s₁) :
      PoolEndsBy Q s (s₁.resRelinquishCuPool s.getNextReservePoolId).1 0
  | granted {s₁ : System} (h : DevActsBy Q s.getNextReservePoolId s s₁) :
      PoolEndsBy Q s s₁.updateReservePoolId s.getNextReservePoolId

abbrev PoolEnds : System → System → Nat → Prop := PoolEndsBy (· ≠ 0)

section

variable {Q : Nat → Prop}

theorem resReserveCuPool_ends {poolProp : CuPoolProperty} (hc : Q poolProp.clientId)
    (hs : ∀ prop ∈ poolProp.cuListProp.items, Q prop.clientId) :
    PoolEndsBy Q s (s.resReserveCuPool poolProp).1 (s.resReserveCuPool poolProp).2 := by
  have hx := reserveXclbins_acts (p := s.getNextReservePoolId) poolProp.xclbinUuid
    poolProp.clientProcessId hc poolProp.xclbinNum.toNat s []
  rw [resReserveCuPool]
  split
  · exact .refused
  split
  · exact .refused
  simp only
  split
  · rename_i s₁ heq
    rw [heq] at hx
    exact .abandoned hx
  rename_i s₁ devIds heq
  rw [heq] at hx
  have hcopies := reserveCopies_acts (p := s.getNextReservePoolId) hs
    poolProp.cuListNum.toNat s₁
  split
  · rename_i s₂ heq₁
    rw [heq₁] at hcopies
    exact .abandoned (hx.trans hcopies)
  · rename_i s₂ heq₁
    rw [heq₁] at hcopies
    exact .granted (hx.trans hcopies)

theorem resReserveCuPoolV2_ends {poolProp : CuPoolPropertyV2} (hc : Q poolProp.clientId)
    (hs : ∀ prop ∈ poolProp.cuListProp.items, Q prop.clientId) :
    PoolEndsBy Q s (s.resReserveCuPoolV2 poolProp).1 (s.resReserveCuPoolV2 poolProp).2.1 := by
  have hd := reserveDeviceIds_acts (p := s.getNextReservePoolId) poolProp.clientProcessId hc
    (poolProp.deviceIdListProp.deviceIds.take poolProp.deviceIdListProp.deviceNum.toNat) s
  rw [resReserveCuPoolV2]
  simp only
  split
  · exact .refused
  split
  · exact .refused
  split
  · rename_i s₁ heq
    rw [heq] at hd
    exact .abandoned hd
  rename_i s₁ heq
  rw [heq] at hd
  have hx := reserveXclbins_acts (p := s.getNextReservePoolId) poolProp.xclbinUuid
    poolProp.clientProcessId hc poolProp.xclbinNum.toNat s₁ []
  split
  · rename_i s₂ heq₁
    rw [heq₁] at hx
    exact .abandoned (hd.trans hx)
  rename_i s₂ devIds heq₁
  rw [heq₁] at hx
  have hcopies := reserveCopiesV2_acts (p := s.getNextReservePoolId) hs
    poolProp.cuListNum.toNat s₂ []
  split
  · rename_i s₃ heq₂
    rw [heq₂] at hcopies
    exact .abandoned ((hd.trans hx).trans hcopies)
  · rename_i s₃ infos heq₂
    rw [heq₂] at hcopies
    exact .granted ((hd.trans hx).trans hcopies)

end

theorem DevActsBy.reservePoolId (h : DevActs p s s') : s'.reservePoolId = s.reservePoolId := by
  rw [h.frame]

theorem getNextReservePoolId_eq (h : s.reservePoolId < maxId) :
    s.getNextReservePoolId = s.reservePoolId + 1 := by
  rw [getNextReservePoolId, nextId, if_neg (by omega)]

theorem DevActsBy.updateReservePoolId (h : DevActs p s s₁) (hid : s.reservePoolId < maxId) :
    s₁.updateReservePoolId.reservePoolId = s.reservePoolId + 1 := by
  show s₁.getNextReservePoolId = _
  rw [getNextReservePoolId, h.reservePoolId, ← getNextReservePoolId_eq hid, getNextReservePoolId]

/-- What one operation does to the ids of the pools while their counter does not wrap; `id` is
that of a pool it reserved, or 0. -/
structure Counts (s : System) (id : Nat) (s' : System) : Prop where
  counter : id = 0 ∧ s'.reservePoolId = s.reservePoolId ∨
    id = s.reservePoolId + 1 ∧ s'.reservePoolId = s.reservePoolId + 1
  issued : s.Issued s.reservePoolId → s'.Issued s'.reservePoolId

theorem Quiet.counts (h : Quiet s s') : Counts s 0 s' where
  counter := .inl ⟨rfl, h.reservePoolId⟩
  issued hissued := by rw [h.reservePoolId]; exact h.issued hissued

theorem PoolEndsBy.counts {id : Nat} (h : PoolEnds s s' id) (hs : s.Sound allRuns)
    (hid : s.reservePoolId < maxId) : Counts s id s' := by
  have hnext := getNextReservePoolId_eq hid
  cases h with
  | refused => exact (Quiet.of_devs rfl rfl).counts
  | abandoned hacts =>
      refine ⟨.inl ⟨rfl, ?_⟩, fun hissued => ?_⟩
      · rw [(resRelinquishCuPool_devActs _ _).reservePoolId, hacts.reservePoolId]
      have hnew := hissued.unreserved (p := s.getNextReservePoolId) (by omega)
      obtain ⟨s₂, heq, hrestored⟩ := hacts.restores (nextId_ne_zero _) hs hnew
      rw [heq, show s₂.reservePoolId = s.reservePoolId by rw [hrestored.frame]]
      intro dev' hdev' cu hcu
      obtain ⟨i, hi⟩ := List.mem_iff_getElem?.mp hdev'
      obtain ⟨dev, hdev, hsame⟩ := forall₂_getElem? hrestored.devices hi
      rw [(DeviceData.sameButLoad_iff_fields hsame).1] at hcu
      exact hissued dev (List.mem_of_getElem? hdev) cu hcu
  | granted hacts =>
      have hcounter := hacts.updateReservePoolId hid
      refine ⟨.inr ⟨hnext, hcounter⟩, fun hissued => ?_⟩
      rw [hcounter]
      exact (hacts.acts.beside hs).issued (hissued.mono (Nat.le_succ _)) (by omega)

/-! ## One step -/

/-- The operation does not give up pool `p` of client `c`: it neither relinquishes the pool nor
recycles the client. -/
def Respects (p c : Nat) (s : System) : Op → Prop
  | .recycleResource clientId => clientId ≠ c
  | .resetDevice _ devId => ∀ dev, s.devList[devId]? = some dev → dev.deviceHandle = true →
      c ∉ clientsOn dev
  | .resRelinquishCuPool reservePoolId => reservePoolId ≠ p
  | .resRelinquishCuPoolV2 reservePoolId => reservePoolId ≠ p
  | _ => True

theorem Good.keepsPledges (h : s.Good allRuns) (hok : StepOk allRuns s op)
    (hrespects : Respects p c s op) (hp : p ≤ s.reservePoolId) (hid : s.reservePoolId < maxId) :
    (step s op).pledgedTo p c = s.pledgedTo p c := by
  have hnext := getNextReservePoolId_eq hid
  by_cases hacts : acts op = true
  · have hdev := h.develops hok hacts
    exact pledgedTo_congr (hdev.pledgesAt h.sound h.probed) p c
  have hsent := hok.sent
  cases op with
  | createContext => exact pledgedTo_congr (pledgesAt_devs s.createContext_devList.1) p c
  | recycleResource d => exact recycleResource_pledgedTo h.sound hsent hrespects
  | resetDevice env devId =>
      rcases resetDevice_spec allRuns s env devId with heq | ⟨dev, hdev, hhandle, hdevelops⟩
      · exact congrArg (fun s : System => s.pledgedTo p c) heq
      · have hgood := h.recycleAll (clientsOn_ne_zero dev) False.elim
        have hkept := hdevelops.pledgesAt hgood.sound hgood.probed
        exact (pledgedTo_congr hkept p c).trans (recycleAll_pledgedTo h (clientsOn_ne_zero dev)
          (hrespects dev hdev hhandle))
  | resUdfCuGroupDeclare info =>
      refine pledgedTo_congr (pledgesAt_devs ?_) p c
      simp only [step, resUdfCuGroupDeclare]
      split <;> rfl
  | resUdfCuGroupDeclareV2 info =>
      refine pledgedTo_congr (pledgesAt_devs ?_) p c
      simp only [step, resUdfCuGroupDeclareV2]
      split <;> rfl
  | resUdfCuGroupUndeclare name =>
      refine pledgedTo_congr (pledgesAt_devs ?_) p c
      simp only [step, resUdfCuGroupUndeclare]
      split <;> rfl
  | resUdfCuGroupUndeclareV2 name =>
      refine pledgedTo_congr (pledgesAt_devs ?_) p c
      simp only [step, resUdfCuGroupUndeclareV2]
      split <;> rfl
  | resReserveCuPool poolProp =>
      exact ((resReserveCuPool_acts s poolProp hsent.1 hsent.2).beside h.sound).pledgedTo
        (by omega) c
  | resReserveCuPoolV2 poolProp =>
      exact ((resReserveCuPoolV2_acts s poolProp hsent.1 hsent.2).beside h.sound).pledgedTo
        (by omega) c
  | resRelinquishCuPool reservePoolId =>
      exact ((resRelinquishCuPool_acts reservePoolId s).beside h.sound).pledgedTo hrespects c
  | resRelinquishCuPoolV2 reservePoolId =>
      exact ((resRelinquishCuPool_acts reservePoolId s).beside h.sound).pledgedTo hrespects c
  | _ => exact absurd rfl hacts

/-- The id that the operation gives to a pool; 0 if it reserves none. -/
def poolId (s : System) : Op → Nat
  | .resReserveCuPool poolProp => (s.resReserveCuPool poolProp).2
  | .resReserveCuPoolV2 poolProp => (s.resReserveCuPoolV2 poolProp).2.1
  | _ => 0

theorem poolId_of_acts (h : acts op = true) : s.poolId op = 0 := by
  cases op <;> first | rfl | simp [acts] at h

theorem Good.counts (h : s.Good allRuns) (hok : StepOk allRuns s op)
    (hid : s.reservePoolId < maxId) : Counts s (s.poolId op) (step s op) := by
  by_cases hacts : acts op = true
  · rw [poolId_of_acts hacts]
    exact ((h.develops hok hacts).quiet h.sound).counts
  have hsent := hok.sent
  cases op with
  | createContext =>
      refine (Quiet.of_devs ?_ s.createContext_devList.1).counts
      show s.createContext.1.reservePoolId = s.reservePoolId
      rw [System.createContext]
      split <;> rfl
  | recycleResource d => exact (recycleResource_quiet h.sound hsent).counts
  | resetDevice env devId =>
      rcases resetDevice_spec allRuns s env devId with heq | ⟨dev, -, -, hdevelops⟩
      · rw [step, heq]
        exact (Quiet.of_devs rfl rfl).counts
      · have hclients := clientsOn_ne_zero dev
        have hgood := h.recycleAll hclients False.elim
        exact ((recycleAll_quiet h hclients).trans (hdevelops.quiet hgood.sound)).counts
  | resUdfCuGroupDeclare info =>
      refine (Quiet.of_devs ?_ ?_).counts <;>
      · simp only [step, resUdfCuGroupDeclare]
        split <;> rfl
  | resUdfCuGroupDeclareV2 info =>
      refine (Quiet.of_devs ?_ ?_).counts <;>
      · simp only [step, resUdfCuGroupDeclareV2]
        split <;> rfl
  | resUdfCuGroupUndeclare name =>
      refine (Quiet.of_devs ?_ ?_).counts <;>
      · simp only [step, resUdfCuGroupUndeclare]
        split <;> rfl
  | resUdfCuGroupUndeclareV2 name =>
      refine (Quiet.of_devs ?_ ?_).counts <;>
      · simp only [step, resUdfCuGroupUndeclareV2]
        split <;> rfl
  | resReserveCuPool poolProp =>
      exact (resReserveCuPool_ends (Q := (· ≠ 0)) hsent.1 hsent.2).counts h.sound hid
  | resReserveCuPoolV2 poolProp =>
      exact (resReserveCuPoolV2_ends (Q := (· ≠ 0)) hsent.1 hsent.2).counts h.sound hid
  | resRelinquishCuPool reservePoolId =>
      exact (resRelinquishCuPool_quiet h.sound reservePoolId).counts
  | resRelinquishCuPoolV2 reservePoolId =>
      exact (resRelinquishCuPool_quiet h.sound reservePoolId).counts
  | _ => exact absurd rfl hacts

/-! ## A whole run -/

/-- The ids that the operations give to pools, in order. -/
def poolIds : List Op → System → List Nat
  | [], _ => []
  | op :: ops, s =>
      (if s.poolId op = 0 then [] else [s.poolId op]) ++ poolIds ops (step s op)

/-- The counter has room for all of a run if it has room for the step and the rest of the run. -/
theorem Counts.length_poolIds (h : Counts s (s.poolId op) (step s op)) (ops : List Op) :
    (step s op).reservePoolId + (poolIds ops (step s op)).length =
      s.reservePoolId + (poolIds (op :: ops) s).length := by
  rw [poolIds]
  rcases h.counter with ⟨hid, hcounter⟩ | ⟨hid, hcounter⟩
  · simp [hid, hcounter]
  · simp [hid, hcounter]
    omega

/-- The next pool of a step is a new one as long as the counter has not wrapped. -/
theorem Issued.freshOk (h : s.Issued s.reservePoolId) (hid : s.reservePoolId < maxId) :
    s.FreshOk op := by
  have hnew : s.NoOrphan s.getNextReservePoolId :=
    h.noOrphan (by rw [getNextReservePoolId_eq hid]; exact Nat.lt_succ_self _)
  cases op <;> first | exact hnew | trivial

/-- The pools of a run get the ids in turn, and the counter goes through them. -/
theorem Good.run_counts {ops : List Op} (h : s.Good allRuns) (hissued : s.Issued s.reservePoolId)
    (hok : StepsOk allRuns ops s) (hids : s.reservePoolId + (poolIds ops s).length < maxId) :
    (StepsOk freshRuns ops s ∧
      poolIds ops s = List.range' (s.reservePoolId + 1) (poolIds ops s).length) ∧
      (ops.foldl step s).Issued (ops.foldl step s).reservePoolId ∧
        (ops.foldl step s).reservePoolId = s.reservePoolId + (poolIds ops s).length := by
  induction ops generalizing s with
  | nil => exact ⟨⟨trivial, rfl⟩, hissued, rfl⟩
  | cons op ops ih =>
      obtain ⟨hop, hrest⟩ := hok
      have hid : s.reservePoolId < maxId := by omega
      have hcounts := h.counts hop hid
      rw [← hcounts.length_poolIds] at hids
      obtain ⟨⟨hfresh, hrange⟩, hend⟩ := ih (h.next hop) (hcounts.issued hissued) hrest hids
      rw [hcounts.length_poolIds] at hend
      refine ⟨⟨⟨⟨hop.sent, False.elim, fun _ => hissued.freshOk hid, False.elim, False.elim⟩,
        hfresh⟩, ?_⟩, hend⟩
      rw [poolIds, List.length_append, ← List.range'_append_1, hrange, List.length_range']
      rcases hcounts.counter with ⟨hid, hcounter⟩ | ⟨hid, hcounter⟩
      · simp [hid, hcounter]
      · simp [hid, hcounter]

theorem Good.run_keepsPledges {later : List Op} (h : s.Good allRuns)
    (hok : StepsOk allRuns later s) (hrespects : Transition.AllOk step (Respects p c) later s)
    (hp : p ≤ s.reservePoolId) (hids : s.reservePoolId + (poolIds later s).length < maxId) :
    (later.foldl step s).pledgedTo p c = s.pledgedTo p c := by
  induction later generalizing s with
  | nil => rfl
  | cons op ops ih =>
      obtain ⟨hop, hrest⟩ := hok
      obtain ⟨hrespect, hrespects⟩ := hrespects
      have hid : s.reservePoolId < maxId := by omega
      have hcounts := h.counts hop hid
      rw [← hcounts.length_poolIds] at hids
      have hle : s.reservePoolId ≤ (step s op).reservePoolId := by
        rcases hcounts.counter with ⟨-, hcounter⟩ | ⟨-, hcounter⟩
        · exact hcounter.ge
        · omega
      rw [List.foldl_cons, ih (h.next hop) hrest hrespects (hp.trans hle) hids]
      exact h.keepsPledges hop hrespect hp hid

/-- Until their counter wraps, the pools get the ids 1, 2, 3 and so on, and the next one is named
nowhere when it is given out: no run needs the discipline of fresh ids so long. -/
theorem ids_issued_once {ops : List Op} (hok : StepsOk allRuns ops (initSystem limit))
    (hids : (poolIds ops (initSystem limit)).length < maxId) :
    poolIds ops (initSystem limit) =
        List.range' 1 (poolIds ops (initSystem limit)).length ∧
      StepsOk freshRuns ops (initSystem limit) ∧
        (ops.foldl step (initSystem limit)).Unreserved
          (ops.foldl step (initSystem limit)).getNextReservePoolId := by
  have hnone : (initSystem limit).Issued 0 := by simp [Issued, initSystem]
  have hrun := (Reachable.good .refl : (initSystem limit).Good allRuns).run_counts hnone hok
    (show 0 + _ < maxId by rw [Nat.zero_add]; exact hids)
  obtain ⟨⟨hfresh, hrange⟩, hissued, hcounter⟩ := hrun
  have hid : (ops.foldl step (initSystem limit)).reservePoolId < maxId := by
    rw [hcounter]
    show 0 + _ < maxId
    omega
  refine ⟨hrange, hfresh, hissued.unreserved ?_⟩
  rw [getNextReservePoolId_eq hid]
  exact Nat.lt_succ_self _

/-- Whatever else the clients do, what a client has reserved stays pledged to it, slot by slot on
the same CUs, until the pool is relinquished or the client recycled. -/
theorem reservation_lasts {later : List Op} (h : Reachable allRuns limit s)
    (hp : p ≤ s.reservePoolId) (hok : StepsOk allRuns later s)
    (hrespects : Transition.AllOk step (Respects p c) later s)
    (hids : s.reservePoolId + (poolIds later s).length < maxId) :
    (later.foldl step s).pledgedTo p c = s.pledgedTo p c :=
  h.good.run_keepsPledges hok hrespects hp hids

end System

/-! ## A pool among others -/

open Scenario in
/-- Client 1 has reserved on the first of two CUs. -/
def pledgedRun : List Op :=
  [.loadOneDevice (env 1 2) 0 "scaler.xclbin", .resReserveCuPool (pool 1 [request 1 0 400000])]

open Scenario in
/-- The clients use what is there, client 2 reserves as well and is recycled, and the device is to
be unloaded. -/
def busyRun : List Op :=
  [.resAllocCu (request 1 1 200000) true, .resAllocCu (request 2 0 300000) true,
    .resReserveCuPool (pool 2 [request 2 0 900000, request 2 0 900000]),
    .resReserveCuPool (pool 2 [request 2 0 300000]), .recycleResource 2, .resRelinquishCuPool 2,
    .unloadOneDevice (env 1 2) 0]

namespace System

open Scenario

theorem ids_issued_once_two :
    poolIds (pledgedRun ++ busyRun) (initSystem 8) = [1, 2] ∧
      StepsOk freshRuns (pledgedRun ++ busyRun) (initSystem 8) := by
  have hlength : (poolIds (pledgedRun ++ busyRun) (initSystem 8)).length = 2 := by decide +kernel
  obtain ⟨hids, hfresh, -⟩ := @ids_issued_once 8 (pledgedRun ++ busyRun) (by decide +kernel)
    (by rw [hlength]; decide)
  rw [hlength] at hids
  exact ⟨hids, hfresh⟩

theorem reservation_lasts_busy :
    (busyRun.foldl step (after pledgedRun)).pledgedTo 1 1 = (after pledgedRun).pledgedTo 1 1 :=
  reservation_lasts (reachable_after pledgedRun (by decide +kernel)) (by decide +kernel)
    (by decide +kernel)
    ⟨trivial, trivial, trivial, trivial, show 2 ≠ 1 by decide, show 2 ≠ 1 by decide, trivial,
      trivial⟩
    (by decide +kernel)

example : ((after pledgedRun).pledgedTo 1 1 (0, 0)).map (·.reserveLoadUnified) = [400000] := by
  decide +kernel

end System

end Xrm
