import Xrm.Verification.TakingBack

/-! # What a query lists

A query lists the held channels with the service id, on the CUs with the names. These are the
channels of one allocation that have not been taken back since.
-/

namespace Xrm

open Transition

variable {D : Discipline}

/-- What a record says of its channel. -/
structure Receipt where
  deviceId : Int
  cuId : Int
  channelId : Int
  allocServiceId : Nat
  poolId : Nat
  clientId : Nat
  channelLoadUnified : Int
  channelLoadOriginal : Int
  deriving Repr, DecidableEq

def CuResource.receipt (res : CuResource) : Receipt where
  deviceId := res.deviceId
  cuId := res.cuId
  channelId := res.channelId
  allocServiceId := res.allocServiceId
  poolId := res.poolId
  clientId := res.clientId
  channelLoadUnified := res.channelLoadUnified
  channelLoadOriginal := res.channelLoadOriginal

/-- What a record of the held channel says. -/
def Holding.receipt (held : Holding) (place : Nat × Nat × Nat) : Receipt where
  deviceId := place.1
  cuId := place.2.1
  channelId := place.2.2
  allocServiceId := held.1.allocServiceId
  poolId := held.1.poolId
  clientId := held.1.clientId
  channelLoadUnified := held.1.channelLoadUnified
  channelLoadOriginal := held.1.channelLoadOriginal

theorem CuResource.Tells.receipt {res : CuResource} {held : Holding} (h : res.Tells held) :
    held.receipt res.place = res.receipt := by
  obtain ⟨hdev, hcu, hchan⟩ := h.nonneg
  simp only [Holding.receipt, CuResource.receipt, CuResource.place, Int.toNat_of_nonneg hdev,
    Int.toNat_of_nonneg hcu, Int.toNat_of_nonneg hchan, h.allocServiceId, h.poolId, h.clientId,
    h.channelLoadUnified, h.channelLoadOriginal]

namespace System

variable {s : System} {query : AllocationQueryInfoV2} {place : Nat × Nat × Nat} {held : Holding}

/-! ## The listing -/

/-- The entries of a CU. -/
def cuEntries (query : AllocationQueryInfoV2) (dev : DeviceData) (devId : Nat) :
    CuData × Nat → List CuResource
  | (cu, cuId) =>
      if cu.answers query then
        cu.channels.zipIdx.flatMap fun (chan, chanId) =>
          if chan.allocServiceId = query.allocServiceId then
            [dev.queriedResource devId cu cuId chan chanId query.allocServiceId]
          else []
      else []

/-- The entries of a device. -/
def devEntries (query : AllocationQueryInfoV2) : DeviceData × Nat → List CuResource
  | (dev, devId) => dev.cuList.zipIdx.flatMap (cuEntries query dev devId)

/-- All entries that fit the query. -/
def entries (s : System) (query : AllocationQueryInfoV2) : List CuResource :=
  s.devList.zipIdx.flatMap (devEntries query)

/-- The query lists all entries that fit it if they have room. -/
theorem resAllocationQueryV2_eq (s : System) (hid : query.allocServiceId ≠ 0)
    (hroom : (s.entries query).length ≤ maxListCuNumV2) :
    s.resAllocationQueryV2 query = .ok (listResource (s.entries query)) := by
  have hchans : ∀ (dev : DeviceData) (devId : Nat) (cu : CuData) (cuId : Nat)
      (found : List CuResource), found.length ≤ maxListCuNumV2 →
      (if cu.answers query then
        cu.channels.zipIdx.foldlM (fun found (chan, chanId) =>
          if chan.allocServiceId = query.allocServiceId then
            Listing.push maxListCuNumV2 .error found
              (dev.queriedResource devId cu cuId chan chanId query.allocServiceId)
          else .ok found) found
      else (.ok found : Except XrmError (List CuResource))) =
        Listing.pushAll maxListCuNumV2 .error found (cuEntries query dev devId (cu, cuId)) := by
    intro dev devId cu cuId found hfound
    rw [cuEntries]
    split
    · refine Listing.foldlM_eq _ (fun found x hfound _ => ?_) hfound
      simp only
      split
      · exact Listing.push_eq _ _ _ _
      · exact (Listing.pushAll_nil hfound).symm
    · exact (Listing.pushAll_nil hfound).symm
  have hall : s.devList.zipIdx.foldlM (fun found (dev, devId) =>
      dev.cuList.zipIdx.foldlM (fun found (cu, cuId) =>
        if cu.answers query then
          cu.channels.zipIdx.foldlM (fun found (chan, chanId) =>
            if chan.allocServiceId = query.allocServiceId then
              Listing.push maxListCuNumV2 .error found
                (dev.queriedResource devId cu cuId chan chanId query.allocServiceId)
            else .ok found) found
        else .ok found) found) [] =
      Listing.pushAll maxListCuNumV2 XrmError.error [] (s.entries query) :=
    Listing.foldlM_eq _ (fun found x hfound _ => Listing.foldlM_eq _ (fun found y hfound _ =>
      hchans x.1 x.2 y.1 y.2 found hfound) hfound) (Nat.zero_le _)
  rw [resAllocationQueryV2, queryAllocation]
  simp only
  rw [if_neg hid, hall, Listing.pushAll, List.length_nil, Nat.zero_add, if_pos hroom,
    List.nil_append]
  rfl

theorem mem_cuEntries {dev : DeviceData} {devId cuId : Nat} {cu : CuData} {res : CuResource} :
    res ∈ cuEntries query dev devId (cu, cuId) ↔ cu.answers query = true ∧
      ∃ chanId chan, cu.channels[chanId]? = some chan ∧
        chan.allocServiceId = query.allocServiceId ∧
          res = dev.queriedResource devId cu cuId chan chanId query.allocServiceId := by
  rw [cuEntries]
  split
  · rename_i hanswers
    rw [Listing.mem_flatMap_zipIdx, and_iff_right hanswers]
    refine exists_congr fun chanId => exists_congr fun chan => and_congr_right fun _ => ?_
    simp only
    split
    · rename_i hid
      rw [List.mem_singleton, and_iff_right hid]
    · rename_i hid
      simp [hid]
  · rename_i hanswers
    simp [hanswers]

/-- The receipts of the entries are those of the held channels with the service id on the CUs with
the names. -/
theorem mem_receipts (hs : s.Sound D) (hid : query.allocServiceId ≠ 0) {receipt : Receipt} :
    receipt ∈ (s.entries query).map (·.receipt) ↔ ∃ place held, s.heldAt place = some held ∧
      held.1.allocServiceId = query.allocServiceId ∧ held.2.answers query = true ∧
        receipt = held.receipt place := by
  rw [List.mem_map]
  constructor
  · rintro ⟨res, hres, rfl⟩
    obtain ⟨devId, dev, hdev, hres⟩ := Listing.mem_flatMap_zipIdx.mp hres
    obtain ⟨cuId, cu, hcu, hres⟩ := Listing.mem_flatMap_zipIdx.mp hres
    obtain ⟨hanswers, chanId, chan, hchan, hsame, rfl⟩ := mem_cuEntries.mp hres
    have hproper := ((hs dev (List.mem_of_getElem? hdev)).consistent cu
      (List.mem_of_getElem? hcu)).channels.proper chan (List.mem_of_getElem? hchan)
    have hlive : chan.channelLoadUnified ≠ 0 := by
      intro hload
      rw [← hsame, hproper.free_of_load hload] at hid
      exact hid rfl
    refine ⟨(devId, cuId, chanId), (chan, cu.toCuInfo), ?_, hsame, hanswers, ?_⟩
    · rw [heldAt_of_cu hdev hcu, CuData.heldAt, hchan]
      exact if_neg hlive
    · simp only [CuResource.receipt, DeviceData.queriedResource, DeviceData.locate,
        Holding.receipt, hsame]
  · rintro ⟨⟨devId, cuId, chanId⟩, held, hheld, hsame, hanswers, rfl⟩
    obtain ⟨dev, cu, hdev, hcu, hchan, -, hinfo⟩ := heldAt_eq_some hheld
    refine ⟨dev.queriedResource devId cu cuId held.1 chanId query.allocServiceId, ?_, ?_⟩
    · refine Listing.mem_flatMap_zipIdx.mpr ⟨devId, dev, hdev, ?_⟩
      refine Listing.mem_flatMap_zipIdx.mpr ⟨cuId, cu, hcu, ?_⟩
      exact mem_cuEntries.mpr ⟨by rw [hinfo]; exact hanswers, chanId, held.1, hchan, hsame, rfl⟩
    · simp only [CuResource.receipt, DeviceData.queriedResource, DeviceData.locate,
        Holding.receipt, hsame]

/-- No channel is listed twice. -/
theorem nodup_entries (s : System) (query : AllocationQueryInfoV2) :
    ((s.entries query).map (·.place)).Nodup := by
  rw [entries, List.map_flatMap]
  refine Listing.nodup_flatMap_zipIdx (·.1) _ 0 ?_ ?_
  · intro dev devId place hplace
    obtain ⟨res, hres, rfl⟩ := List.mem_map.mp hplace
    obtain ⟨cuId, cu, -, hres⟩ := Listing.mem_flatMap_zipIdx.mp hres
    obtain ⟨-, chanId, chan, -, -, rfl⟩ := mem_cuEntries.mp hres
    rfl
  · intro dev devId
    rw [devEntries, List.map_flatMap]
    refine Listing.nodup_flatMap_zipIdx (·.2.1) _ 0 ?_ ?_
    · intro cu cuId place hplace
      obtain ⟨res, hres, rfl⟩ := List.mem_map.mp hplace
      obtain ⟨-, chanId, chan, -, -, rfl⟩ := mem_cuEntries.mp hres
      rfl
    · intro cu cuId
      rw [cuEntries]
      split
      · rw [List.map_flatMap]
        refine Listing.nodup_flatMap_zipIdx (·.2.2) _ 0 ?_ ?_
        · intro chan chanId place hplace
          obtain ⟨res, hres, rfl⟩ := List.mem_map.mp hplace
          simp only at hres
          split at hres
          · rw [List.mem_singleton.mp hres]
            rfl
          · cases hres
        · intro chan chanId
          simp only
          split
          · exact List.nodup_singleton _
          · exact List.nodup_nil
      · exact List.nodup_nil

theorem nodup_receipts (s : System) (query : AllocationQueryInfoV2) :
    ((s.entries query).map (·.receipt)).Nodup := by
  refine List.Nodup.of_map (fun receipt : Receipt => (receipt.deviceId.toNat,
    receipt.cuId.toNat, receipt.channelId.toNat)) ?_
  rw [List.map_map]
  exact s.nodup_entries query

/-! ## Runs -/

/-- What a step does to the held channels, with the service ids as tickets. -/
abbrev StepTurns (s : System) (op : Op) : Prop :=
  Ticket.Turns heldAt allocServiceId (fun held => held.1.allocServiceId) (fun held => held.2.Named)
    (s.TakesBack op) s (step s op)

theorem nextId_of_unwrapped {id : Nat} (h : id ≠ maxId) : nextId id = id + 1 := by
  rw [nextId, if_neg h]

/-- A success returns the next service id, and uses it up. -/
structure ReturnsNext (s s' : System) (l : List CuResource) : Prop where
  used : s'.allocServiceId = s.allocServiceId + 1
  issued : ∀ res ∈ l, res.allocServiceId = s.allocServiceId + 1 ∨ res.allocServiceId = 0

theorem Shifts.turns {op : Op} {s' : System} (h : Shifts s op s') (hwrap : ¬s.Wraps op) :
    Ticket.Turns heldAt allocServiceId (fun held => held.1.allocServiceId)
      (fun held => held.2.Named) (s.TakesBack op) s s' ∧
        ∀ l, s.returned op = some l → ReturnsNext s s' l := by
  cases h with
  | drops hnone h =>
      refine ⟨⟨h.allocServiceId.ge, fun place held hheld => .inl (h.held place held hheld),
        h.stays⟩, fun l hl => ?_⟩
      rw [hnone] at hl
      cases hl
  | hands h htakes =>
      rw [Wraps] at hwrap
      generalize s.returned op = r at h hwrap
      cases h with
      | refused h =>
          refine ⟨⟨h.allocServiceId.ge, fun place held hheld => .inl ?_, ?_⟩, by simp⟩
          · rw [← h.held, hheld]
          · intro place held hheld _
            exact iff_of_true ((h.held place).trans hheld) (htakes place held)
      | @handed s₁ l h =>
          have hnext := nextId_of_unwrapped fun hmax => hwrap ⟨hmax, by simp⟩
          have hid : s₁.updateAllocServiceId.allocServiceId = s.allocServiceId + 1 := by
            rw [← hnext, ← h.allocServiceId]
            rfl
          refine ⟨⟨by omega, fun place held hheld => ?_, fun place held hheld _ => ?_⟩, ?_⟩
          · refine (h.added place held hheld).imp_right fun hnew => ?_
            rw [getNextAllocServiceId, hnext] at hnew
            omega
          · exact iff_of_true (h.kept place held hheld) (htakes place held)
          · intro l' hl'
            rw [Option.some.injEq] at hl'
            refine ⟨hid, fun res hres => ?_⟩
            rw [← hnext]
            exact h.issued res (hl' ▸ hres)

/-- The state before the `k`-th operation of a run. -/
def stateAt (limit : Nat) (ops : List Op) (k : Nat) : System :=
  (ops.take k).foldl step (initSystem limit)

section Run

variable {limit i j k : Nat} {ops : List Op} {op : Op} {l : List CuResource}

theorem turns_of_counted (hgood : s.Good allRuns) (h : AllOk step StepCounted ops s) :
    Ticket.Run step TakesBack heldAt allocServiceId (fun held => held.1.allocServiceId)
      (fun held => held.2.Named) ops s ∧ (ops.foldl step s).Good allRuns := by
  induction ops generalizing s with
  | nil => exact ⟨trivial, hgood⟩
  | cons op ops ih =>
      obtain ⟨hrun, hlast⟩ := ih (hgood.next h.1.ok) h.2
      exact ⟨⟨((hgood.shifts h.1.sent h.1.updatesId).turns h.1.unwrapped).1, hrun⟩, hlast⟩

theorem initSystem_good (limit : Nat) : (initSystem limit).Good allRuns :=
  Reachable.good (show Reachable allRuns limit (initSystem limit) from .refl)

variable (h : AllOk step StepCounted ops (initSystem limit))

include h in
theorem stateAt_good (k : Nat) : (stateAt limit ops k).Good allRuns :=
  (turns_of_counted (initSystem_good limit) (h.take k)).2

theorem stateAt_succ (hop : ops[i]? = some op) :
    stateAt limit ops (i + 1) = step (stateAt limit ops i) op := by
  rw [stateAt, stateAt, List.take_add_one, hop, List.foldl_append]
  rfl

theorem stateAt_eq (hjk : j ≤ k) :
    stateAt limit ops k = ((ops.take k).drop j).foldl step (stateAt limit ops j) := by
  rw [stateAt, stateAt, ← List.foldl_append]
  congr 1
  conv_lhs => rw [← List.take_append_drop j (ops.take k)]
  rw [List.take_take, Nat.min_eq_left hjk]

include h in
theorem stateAt_run (hjk : j ≤ k) :
    Ticket.Run step TakesBack heldAt allocServiceId (fun held => held.1.allocServiceId)
      (fun held => held.2.Named) ((ops.take k).drop j) (stateAt limit ops j) := by
  have hdrop := (h.take k).drop j
  rw [List.take_take, Nat.min_eq_left hjk] at hdrop
  exact (turns_of_counted (stateAt_good h j) hdrop).1

include h in
theorem stateAt_mono (hjk : j ≤ k) :
    (stateAt limit ops j).allocServiceId ≤ (stateAt limit ops k).allocServiceId := by
  rw [stateAt_eq hjk]
  exact (stateAt_run h hjk).mono

include h in
theorem stateAt_issued (k : Nat) : Ticket.Issued heldAt allocServiceId
    (fun held => held.1.allocServiceId) (stateAt limit ops k) := by
  rw [stateAt_eq (Nat.zero_le k)]
  refine (stateAt_run h (Nat.zero_le k)).issued fun place held hheld => ?_
  simp [stateAt, initSystem, heldAt] at hheld

include h in
theorem stateAt_returned (hop : ops[j]? = some op)
    (hl : (stateAt limit ops j).returned op = some l) :
    ReturnsNext (stateAt limit ops j) (stateAt limit ops (j + 1)) l := by
  have hok := h.getElem hop
  rw [stateAt_succ hop]
  exact (((stateAt_good h j).shifts hok.sent hok.updatesId).turns hok.unwrapped).2 l hl

end Run

end System

/-- The allocations on any or a given device, and those of lists and groups. -/
def Op.allocatesItems : Op → Bool
  | .resAllocCu _ _ => true
  | .resAllocCuFromDev _ _ _ => true
  | .resAllocCuList _ => true
  | .resAllocCuListV2 _ => true
  | .resAllocCuGroup _ => true
  | _ => false

namespace System

variable {s : System} {op : Op} {l : List CuResource} {limit i j k : Nat} {ops : List Op}

theorem Good.exactly (h : s.Good allRuns) (hsent : op.Sent) (hupdates : op.updatesId = true)
    (hitems : op.allocatesItems = true) : Hands (Exactly s) s (step s op) (s.returned op) := by
  cases op with
  | resAllocCu prop updateId =>
      obtain rfl : updateId = true := hupdates
      exact (s.resAllocCu_allocates prop true).hands h hsent
  | resAllocCuFromDev deviceId prop updateId =>
      obtain rfl : updateId = true := hupdates
      exact (s.resAllocCuFromDev_allocates deviceId prop true).hands h hsent
  | resAllocCuList listProp => exact resAllocCuList_hands h hsent
  | resAllocCuListV2 listProp => exact resAllocCuListV2_hands h hsent
  | resAllocCuGroup groupProp => exact resAllocCuGroup_hands h hsent
  | _ => simp [Op.allocatesItems] at hitems

/-- A success holds the channels of its records under the next service id, and no others. -/
structure HoldsExactly (s s' : System) (l : List CuResource) : Prop where
  told : ∀ res ∈ l, ∃ held, s'.heldAt res.place = some held ∧ res.Tells held
  issued : ∀ res ∈ l, res.allocServiceId = s.allocServiceId + 1
  others : ∀ place held, s'.heldAt place = some held →
    held.1.allocServiceId = s.allocServiceId + 1 → ∃ res ∈ l, res.place = place
  length : l.length ≤ maxListCuNumV2

theorem stateAt_exactly (h : AllOk step StepCounted ops (initSystem limit))
    (hop : ops[i]? = some op) (hitems : op.allocatesItems = true)
    (hl : (stateAt limit ops i).returned op = some l) :
    HoldsExactly (stateAt limit ops i) (stateAt limit ops (i + 1)) l := by
  have hok := h.getElem hop
  have hissued := stateAt_issued h i
  have hhands := (stateAt_good h i).exactly hok.sent hok.updatesId hitems
  have hwrap : ¬(stateAt limit ops i).Wraps op := hok.unwrapped
  rw [stateAt_succ hop]
  generalize step (stateAt limit ops i) op = s' at hhands ⊢
  generalize stateAt limit ops i = s at hl hissued hhands hwrap ⊢
  rw [Wraps, hl] at hwrap
  have hnext := nextId_of_unwrapped fun hmax => hwrap ⟨hmax, by simp⟩
  rw [hl] at hhands
  cases hhands with
  | handed hexactly =>
      refine ⟨hexactly.gains.told, ?_, ?_, hexactly.length⟩
      · rw [← hnext]
        exact hexactly.gains.issued
      · intro place held hheld hid
        by_contra hno
        have hbefore := (hexactly.gains.others place fun hmem => by
          obtain ⟨res, hres, rfl⟩ := List.mem_map.mp hmem
          exact hno ⟨res, hres, rfl⟩).symm.trans hheld
        have hle := hissued place held hbefore
        simp only at hle
        omega

/-! ## Queries in a run -/

/-- The channel of the record has been taken back between the `i`-th and the `k`-th state. -/
def TakenBack (limit : Nat) (ops : List Op) (i k : Nat) (res : CuResource) : Prop :=
  ∃ held, (stateAt limit ops i).heldAt res.place = some held ∧
    Ticket.TakenIn step TakesBack ((ops.take k).drop i) (stateAt limit ops i) res.place held

/-- The CU of the held channel has the names of the query. -/
def Answers (s : System) (query : AllocationQueryInfoV2) (res : CuResource) : Prop :=
  ∃ held, s.heldAt res.place = some held ∧ held.2.answers query = true

/-- The query lists exactly the records that satisfy `P`, each once, with the same channel, pool,
client and load. -/
def Lists (s : System) (query : AllocationQueryInfoV2) (l : List CuResource)
    (P : CuResource → Prop) : Prop :=
  ∃ answer, s.resAllocationQueryV2 query = .ok (listResource answer) ∧
    (answer.map (·.receipt)).Nodup ∧
      ∀ receipt, receipt ∈ answer.map (·.receipt) ↔ ∃ res ∈ l, P res ∧ res.receipt = receipt

/-- The receipts that a query gets in a later state. -/
theorem stateAt_receipts (h : AllOk step StepCounted ops (initSystem limit))
    {svc : Nat} (hexactly : HoldsExactly (stateAt limit ops i) (stateAt limit ops (i + 1)) l)
    (hused : (stateAt limit ops (i + 1)).allocServiceId = (stateAt limit ops i).allocServiceId + 1)
    (hsvc : svc = (stateAt limit ops i).allocServiceId + 1) (hik : i < k)
    (kernelName kernelAlias : String) (receipt : Receipt) :
    receipt ∈ ((stateAt limit ops k).entries ⟨svc, kernelName, kernelAlias⟩).map (·.receipt) ↔
      ∃ res ∈ l, (¬TakenBack limit ops (i + 1) k res ∧
        (stateAt limit ops (i + 1)).Answers ⟨svc, kernelName, kernelAlias⟩ res) ∧
          res.receipt = receipt := by
  have hrun := stateAt_run h (show i + 1 ≤ k from hik)
  rw [mem_receipts (stateAt_good h k).sound (by simp [hsvc]), stateAt_eq (show i + 1 ≤ k from hik)]
  constructor
  · rintro ⟨place, held, hheld, hid, hanswers, rfl⟩
    simp only at hid
    have hticket : held.1.allocServiceId ≤ (stateAt limit ops (i + 1)).allocServiceId := by omega
    have hbefore := hrun.before hticket hheld
    obtain ⟨res, hres, rfl⟩ := hexactly.others place held hbefore (by omega)
    obtain ⟨held', hheld', htells⟩ := hexactly.told res hres
    obtain rfl : held = held' := Option.some.inj (hbefore.symm.trans hheld')
    refine ⟨res, hres, ⟨?_, held, hbefore, hanswers⟩, htells.receipt.symm⟩
    rintro ⟨held', hheld', htaken⟩
    obtain rfl : held = held' := Option.some.inj (hbefore.symm.trans hheld')
    exact ((hrun.look_iff htells.named hticket).mp hheld).2 htaken
  · rintro ⟨res, hres, ⟨hkept, held, hheld, hanswers⟩, rfl⟩
    obtain ⟨held', hheld', htells⟩ := hexactly.told res hres
    obtain rfl : held = held' := Option.some.inj (hheld.symm.trans hheld')
    have hid : held.1.allocServiceId = svc := by
      rw [htells.allocServiceId, hexactly.issued res hres, hsvc]
    refine ⟨res.place, held, (hrun.look_iff htells.named ?_).mpr ⟨hheld, fun htaken =>
      hkept ⟨held, hheld, htaken⟩⟩, hid, hanswers, htells.receipt.symm⟩
    omega

/-- What the later states of a run know of the service id of an allocation. -/
structure QueriedExactly (limit : Nat) (ops : List Op) (i : Nat) (l : List CuResource)
    (svc : Nat) : Prop where
  shared : ∀ res ∈ l, res.allocServiceId = svc
  unique : ∀ j op l', j ≠ i → ops[j]? = some op → (stateAt limit ops j).returned op = some l' →
    ∀ res ∈ l', res.allocServiceId ≠ svc
  all : ∀ k, i < k → Lists (stateAt limit ops k) ⟨svc, "", ""⟩ l fun res =>
    ¬TakenBack limit ops (i + 1) k res
  named : ∀ k, i < k → ∀ kernelName kernelAlias,
    Lists (stateAt limit ops k) ⟨svc, kernelName, kernelAlias⟩ l fun res =>
      ¬TakenBack limit ops (i + 1) k res ∧
        (stateAt limit ops (i + 1)).Answers ⟨svc, kernelName, kernelAlias⟩ res

theorem lists_of_receipts {query : AllocationQueryInfoV2} {P : CuResource → Prop}
    (hid : query.allocServiceId ≠ 0) (hlength : l.length ≤ maxListCuNumV2)
    (hreceipts : ∀ receipt, receipt ∈ (s.entries query).map (·.receipt) ↔
      ∃ res ∈ l, P res ∧ res.receipt = receipt) : Lists s query l P := by
  have hnodup := s.nodup_receipts query
  have hsub : (s.entries query).map (·.receipt) ⊆ l.map (·.receipt) := by
    intro receipt hmem
    obtain ⟨res, hres, -, rfl⟩ := (hreceipts receipt).mp hmem
    exact List.mem_map_of_mem hres
  have hle := (hnodup.subperm hsub).length_le
  rw [List.length_map, List.length_map] at hle
  exact ⟨s.entries query, resAllocationQueryV2_eq s hid (by omega), hnodup, hreceipts⟩

/-- The service id of an allocation is returned by no other one, and a query for it lists exactly
what has not been taken back of this one. -/
theorem query_lists_held (h : AllOk step StepCounted ops (initSystem limit))
    (hop : ops[i]? = some op) (hitems : op.allocatesItems = true)
    (hl : (stateAt limit ops i).returned op = some l) {res : CuResource} (hres : res ∈ l) :
    QueriedExactly limit ops i l res.allocServiceId := by
  have hexactly := stateAt_exactly h hop hitems hl
  have hnext := stateAt_returned h hop hl
  have hsvc := hexactly.issued res hres
  have hnamed : ∀ k, i < k → ∀ kernelName kernelAlias,
      Lists (stateAt limit ops k) ⟨res.allocServiceId, kernelName, kernelAlias⟩ l fun res' =>
        ¬TakenBack limit ops (i + 1) k res' ∧ (stateAt limit ops (i + 1)).Answers
          ⟨res.allocServiceId, kernelName, kernelAlias⟩ res' :=
    fun k hik kernelName kernelAlias => lists_of_receipts (by simp [hsvc]) hexactly.length
      (stateAt_receipts h hexactly hnext.used hsvc hik kernelName kernelAlias)
  refine ⟨fun res' hres' => (hexactly.issued res' hres').trans hsvc.symm, ?_, ?_, hnamed⟩
  · intro j op' l' hne hop' hl' res' hres'
    have hnext' := stateAt_returned h hop' hl'
    rcases Nat.lt_or_gt_of_ne hne with hji | hij
    · have hmono := stateAt_mono h (show j + 1 ≤ i from hji)
      have hused := hnext'.used
      rcases hnext'.issued res' hres' with hid | hid <;> omega
    · have hmono := stateAt_mono h (show i + 1 ≤ j from hij)
      have hused := hnext.used
      rcases hnext'.issued res' hres' with hid | hid <;> omega
  · intro k hik
    obtain ⟨answer, hquery, hnodup, hmem⟩ := hnamed k hik "" ""
    refine ⟨answer, hquery, hnodup, fun receipt => (hmem receipt).trans ?_⟩
    refine exists_congr fun res' => and_congr_right fun hres' => ?_
    refine and_congr_left fun _ => and_iff_left ?_
    obtain ⟨held, hheld, -⟩ := hexactly.told res' hres'
    exact ⟨held, hheld, rfl⟩

end System

open Scenario in
/-- Client 1 takes two CUs at once and client 2 shares one of them. -/
def sharedListRun : List Op :=
  [.loadOneDevice (env 2 2) 0 "scaler.xclbin", .loadOneDevice (env 2 2) 1 "scaler.xclbin",
    .resAllocCuList ⟨[request 1 0 700000, request 1 0 600000], 2, true⟩,
    .resAllocCu (request 2 0 200000) true, .recycleResource 2,
    .resAllocCu (request 2 0 300000) true]

namespace System

theorem query_lists_held_shared : ∃ l res,
    (stateAt 8 sharedListRun 2).returned (sharedListRun.getD 2 .createContext) = some l ∧
      l.length = 2 ∧ res ∈ l ∧ QueriedExactly 8 sharedListRun 2 l res.allocServiceId := by
  have htwo : ((stateAt 8 sharedListRun 2).returned (sharedListRun.getD 2 .createContext)).map
      List.length = some 2 := by decide +kernel
  cases hl : (stateAt 8 sharedListRun 2).returned (sharedListRun.getD 2 .createContext) with
  | none =>
      rw [hl] at htwo
      cases htwo
  | some l =>
      rw [hl] at htwo
      cases l with
      | nil => cases htwo
      | cons res rest =>
          refine ⟨res :: rest, res, rfl, by simpa using htwo, List.mem_cons_self, ?_⟩
          exact query_lists_held (by decide +kernel) rfl rfl hl List.mem_cons_self

end System

end Xrm
