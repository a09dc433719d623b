import Xrm.Verification.Placing
import Xrm.Verification.Undo

/-! # Placement of a list with device constraints

The rounds of the item loop serve the items out of order: an item with a virtual device takes all
items of that device with it. Between two rounds the items that are handled are placed as they ask
for, whatever the order.
-/

namespace Xrm

open FixedTable

namespace System

variable {D : Discipline} {s₀ s s' : System} {prop : CuProperty} {svc : Nat} {res : CuResource}
  {props : List CuPropertyV2} {indices : List Nat} {done : List CuResource}

/-! ## Single items -/

/-- An allocation that succeeds serves its request. -/
theorem Allocates.batch {updateId : Bool} (hsound : s.Sound D) (hs : prop.Sent)
    (h : Allocates prop updateId s (s', .ok res)) (hid : updateId = false) :
    Batch D s.getNextAllocServiceId s s' [prop] [res] := by
  generalize hr : (s', Except.ok res) = r at h
  cases h with
  | failed h => simp at hr
  | granted hnamed ha =>
      subst hid
      simp only [finishAlloc, Bool.false_eq_true, if_false, Prod.mk.injEq, Except.ok.injEq] at hr
      obtain ⟨rfl, rfl⟩ := hr
      cases ha with
      | acquired htouch hdev hg =>
          have hstart := (Batch.start s.getNextAllocServiceId hsound).kept (htouch.kept hsound hs)
          exact hstart.grab hs hnamed (nextId_ne_zero _) hdev hg

/-- A CU from a given device is on that device. -/
theorem resAllocCuFromDev_deviceId (hsound : s.Sound D) (hs : prop.Sent) {deviceId : Int}
    {updateId : Bool} (h : s.resAllocCuFromDev deviceId prop updateId = (s', .ok res)) :
    res.deviceId = deviceId := by
  rw [resAllocCuFromDev] at h
  split at h
  · simp at h
  rename_i devId dev₁ hreg
  have hindex := registerOn_devId hreg
  obtain ⟨-, dev, hdev, hload, hreg⟩ := registerOn_spec hreg
  rcases DeviceData.settle_cases hload hreg fun cuId cu' chanId =>
      acquired_of_searchCuTwice policyNull devId with
    ⟨res', hres, hg⟩ | ⟨preCu, -, hmissed, -⟩
  · generalize dev₁.settle devId prop s.getNextAllocServiceId _ = r at h hres hg
    obtain ⟨dev', found⟩ := r
    subst hres
    simp only [finishAlloc, Prod.mk.injEq, Except.ok.injEq] at h
    rw [← h.2, (spares_of_grab hsound hs hdev hg).2.2.2, hindex]
  · generalize dev₁.settle devId prop s.getNextAllocServiceId _ = r at h hmissed
    obtain ⟨dev', found⟩ := r
    subst hmissed
    simp at h

/-! ## Handled items -/

namespace ListV2State

variable {st st' : ListV2State}

/-- Item `i` is handled. -/
def Handled (st : ListV2State) (i : Nat) : Prop :=
  (st.itemFlags.getD i ⟨false, false⟩).handled = true

/-- Item `i` is handled, with the result. -/
structure Placed (props : List CuPropertyV2) (st : ListV2State) (i : Nat) (propV2 : CuPropertyV2)
    (res : CuResource) : Prop where
  handled : st.Handled i
  item : props[i]? = some propV2
  result : st.cuResources[i]? = some res

theorem handled_iff {i : Nat} : st.Handled i ↔
    ∃ flag, st.itemFlags[i]? = some flag ∧ flag.handled = true := by
  rw [Handled, List.getD_eq_getElem?_getD]
  cases st.itemFlags[i]? with
  | none => simp
  | some flag => simp

theorem recordAll_flags (st : ListV2State) (indices : List Nat) (done : List CuResource) :
    (st.recordAll indices done).itemFlags.map (·.handled) = st.itemFlags.map (·.handled) := by
  induction indices generalizing st done with
  | nil => rfl
  | cons index indices ih =>
      cases done with
      | nil => rfl
      | cons res done =>
          rw [recordAll, ih, record]
          refine List.ext_getElem? fun i => ?_
          rw [List.getElem?_map, List.getElem?_map, List.getElem?_modify]
          cases st.itemFlags[i]? with
          | none => rfl
          | some flag =>
              simp only [Option.map_eq_map, Option.map_some, Option.some.injEq]
              split <;> rfl

/-- What has been recorded at an item. -/
theorem recordAll_results (st : ListV2State) {indices : List Nat} {done : List CuResource}
    (hlength : indices.length = done.length) (hnodup : indices.Nodup)
    (hlt : ∀ i ∈ indices, i < st.cuResources.length) :
    (∀ i ∉ indices, (st.recordAll indices done).cuResources[i]? = st.cuResources[i]?) ∧
      ∀ k i : Nat, indices[k]? = some i →
        (st.recordAll indices done).cuResources[i]? = done[k]? := by
  induction indices generalizing st done with
  | nil => exact ⟨fun _ _ => rfl, by simp⟩
  | cons index indices ih =>
      cases done with
      | nil => simp at hlength
      | cons res done =>
          obtain ⟨hnotin, hnodup⟩ := List.nodup_cons.mp hnodup
          have hindex : index < st.cuResources.length := hlt index (by simp)
          obtain ⟨hother, hat⟩ := ih (st.record index res) (by simpa using hlength) hnodup
            fun i hi => by simpa [record] using hlt i (by simp [hi])
          constructor
          · intro i hi
            rw [List.mem_cons, not_or] at hi
            rw [recordAll, hother i hi.2]
            exact List.getElem?_set_ne (Ne.symm hi.1)
          · intro k i hk
            cases k with
            | zero =>
                obtain rfl : index = i := by simpa using hk
                rw [recordAll, hother index hnotin]
                exact List.getElem?_set_self hindex
            | succ k => exact hat k i hk

theorem recordAll_length (st : ListV2State) (indices : List Nat) (done : List CuResource) :
    (st.recordAll indices done).cuResources.length = st.cuResources.length := by
  induction indices generalizing st done with
  | nil => rfl
  | cons index indices ih =>
      cases done with
      | nil => rfl
      | cons res done => exact (ih (st.record index res) done).trans (List.length_set ..)

theorem handled_congr (h : st'.itemFlags.map (·.handled) = st.itemFlags.map (·.handled)) (i : Nat) :
    st'.Handled i ↔ st.Handled i := by
  have hat : st'.itemFlags[i]?.map (·.handled) = st.itemFlags[i]?.map (·.handled) := by
    rw [← List.getElem?_map, ← List.getElem?_map, h]
  rw [handled_iff, handled_iff]
  cases hx : st.itemFlags[i]? <;> cases hy : st'.itemFlags[i]? <;> simp_all

theorem handled_markHandled {marked : List Nat}
    (hflags : st'.itemFlags = markHandled st.itemFlags marked) {i : Nat}
    (hi : i < st.itemFlags.length) : st'.Handled i ↔ st.Handled i ∨ i ∈ marked := by
  rw [handled_iff, handled_iff, hflags, getElem?_markHandled, List.getElem?_eq_getElem hi]
  simp

/-- A round has marked items and recorded their results. -/
structure Round (props : List CuPropertyV2) (st st' : ListV2State) (indices : List Nat)
    (done : List CuResource) : Prop where
  flags : st'.itemFlags.length = props.length
  results : st'.cuResources.length = props.length
  handled : ∀ i < props.length, st'.Handled i ↔ st.Handled i ∨ i ∈ indices
  before : ∀ i propV2 res, st'.Placed props i propV2 res → i ∉ indices →
    st.Placed props i propV2 res
  new : ∀ i propV2 res, st'.Placed props i propV2 res → i ∈ indices →
    ∃ k : Nat, indices[k]? = some i ∧ done[k]? = some res

theorem round_recordAll (st₁ : ListV2State) (marked : List Nat)
    (hflags : st.itemFlags.length = props.length) (hresults : st.cuResources.length = props.length)
    (hlength : indices.length = done.length) (hnodup : indices.Nodup)
    (hlt : ∀ i ∈ indices, i < props.length) (hmarked : ∀ i, i ∈ marked ↔ i ∈ indices)
    (hflags₁ : st₁.itemFlags = markHandled st.itemFlags marked)
    (hresults₁ : st₁.cuResources = st.cuResources)
    (hflags' : st'.itemFlags = (st₁.recordAll indices done).itemFlags)
    (hresults' : st'.cuResources = (st₁.recordAll indices done).cuResources) :
    Round props st st' indices done := by
  obtain ⟨hother, hat⟩ := recordAll_results st₁ hlength hnodup
    fun i hi => by rw [hresults₁, hresults]; exact hlt i hi
  have hhandled : ∀ i < props.length, st'.Handled i ↔ st.Handled i ∨ i ∈ indices := by
    intro i hi
    have hsame : st'.itemFlags.map (·.handled) = st₁.itemFlags.map (·.handled) := by
      rw [hflags', recordAll_flags]
    rw [handled_congr hsame, ← hmarked]
    exact handled_markHandled hflags₁ (by omega)
  refine ⟨?_, ?_, hhandled, ?_, ?_⟩
  · have hlength' := congrArg List.length (recordAll_flags st₁ indices done)
    rw [List.length_map, List.length_map, hflags₁, length_markHandled, hflags] at hlength'
    rw [hflags', hlength']
  · rw [hresults', recordAll_length, hresults₁, hresults]
  · intro i propV2 res hplaced hi
    have hlt := (List.getElem?_eq_some_iff.mp hplaced.item).1
    refine ⟨((hhandled i hlt).mp hplaced.handled).resolve_right hi, hplaced.item, ?_⟩
    rw [← hresults₁, ← hother i hi, ← hresults']
    exact hplaced.result
  · intro i propV2 res hplaced hi
    obtain ⟨k, hk⟩ := List.mem_iff_getElem?.mp hi
    refine ⟨k, hk, ?_⟩
    rw [← hat k i hk, ← hresults']
    exact hplaced.result

end ListV2State

/-! ## Between the rounds -/

/-- The result of an item serves it, on the device that the item names by its number. -/
structure ServesItem (s : System) (svc : Nat) (propV2 : CuPropertyV2) (res : CuResource) :
    Prop where
  serves : s.Serves svc (cuPropertyCopyFromV2 propV2) res
  hardware : propV2.constraintType = constraintHardwareDeviceIndex →
    res.deviceId = propV2.deviceIndex

/-- The items that are handled are served, each with a channel of its own. -/
structure ServesItems (D : Discipline) (svc : Nat) (s₀ : System) (props : List CuPropertyV2)
    (st : ListV2State) : Prop where
  kept : Kept D s₀ st.s
  flags : st.itemFlags.length = props.length
  results : st.cuResources.length = props.length
  items : ∀ i propV2 res, st.Placed props i propV2 res → st.s.ServesItem svc propV2 res
  apart : ∀ i j propV2 propV2' res res', st.Placed props i propV2 res →
    st.Placed props j propV2' res' → i ≠ j → res.place ≠ res'.place

/-- A round for items that are not handled yet. -/
theorem ServesItems.round {st st' : ListV2State} {batch : List CuProperty}
    (h : ServesItems D svc s₀ props st) (hround : ListV2State.Round props st st' indices done)
    (hbatch : Batch D svc st.s st'.s batch done)
    (hnew : ∀ (k i : Nat) propV2 res, indices[k]? = some i → props[i]? = some propV2 →
      done[k]? = some res → st'.s.ServesItem svc propV2 res) :
    ServesItems D svc s₀ props st' where
  kept := h.kept.trans hbatch.toKept
  flags := hround.flags
  results := hround.results
  items := by
    intro i propV2 res hplaced
    by_cases hi : i ∈ indices
    · obtain ⟨k, hk, hres⟩ := hround.new i propV2 res hplaced hi
      exact hnew k i propV2 res hk hplaced.item hres
    · have hitem := h.items i propV2 res (hround.before i propV2 res hplaced hi)
      exact ⟨hitem.serves.spared hbatch.spares (by simp), hitem.hardware⟩
  apart := by
    -- a new channel was not live before the round
    have hapart : ∀ i j propV2 propV2' res res', st'.Placed props i propV2 res →
        st'.Placed props j propV2' res' → i ∈ indices → j ∉ indices →
          res.place ≠ res'.place := by
      intro i j propV2 propV2' res res' hplaced hplaced' hi hj heq
      obtain ⟨k, -, hres⟩ := hround.new i propV2 res hplaced hi
      have hfresh := hbatch.fresh res (List.mem_of_getElem? hres)
      have hitem := h.items j propV2' res' (hround.before j propV2' res' hplaced' hj)
      obtain ⟨chan, hlive, -⟩ := hitem.serves.holds.carried
      rw [← heq, hfresh] at hlive
      simp at hlive
    intro i j propV2 propV2' res res' hplaced hplaced' hne
    by_cases hi : i ∈ indices <;> by_cases hj : j ∈ indices
    · obtain ⟨k, hk, hres⟩ := hround.new i propV2 res hplaced hi
      obtain ⟨k', hk', hres'⟩ := hround.new j propV2' res' hplaced' hj
      intro heq
      have hplace : (done.map (·.place))[k]? = (done.map (·.place))[k']? := by
        rw [List.getElem?_map, List.getElem?_map, hres, hres', Option.map_some, Option.map_some,
          heq]
      have hlt : k < (done.map (·.place)).length := by
        rw [List.length_map]
        exact (List.getElem?_eq_some_iff.mp hres).1
      have hkk : k = k' := (List.getElem?_inj hlt hbatch.apart).mp hplace
      rw [hkk, hk', Option.some.injEq] at hk
      exact hne hk.symm
    · exact hapart i j propV2 propV2' res res' hplaced hplaced' hi hj
    · exact (hapart j i propV2' propV2 res' res hplaced' hplaced hj hi).symm
    · exact h.apart i j propV2 propV2' res res' (hround.before i propV2 res hplaced hi)
        (hround.before j propV2' res' hplaced' hj) hne

/-- The devices of the virtual indices. -/
structure ListV2State.Virtual (props : List CuPropertyV2) (st : ListV2State) : Prop where
  nodup : st.usedDevIds.Nodup
  bound : ∀ devId ∈ st.usedDevIds, devId < st.s.numDevice
  together : ∀ i j propV2 propV2', st.Handled i → props[i]? = some propV2 →
    props[j]? = some propV2' → propV2.constraintType = constraintVirtualDeviceIndex →
      propV2'.constraintType = constraintVirtualDeviceIndex →
        propV2'.deviceIndex = propV2.deviceIndex → st.Handled j
  used : ∀ i propV2 res, st.Placed props i propV2 res →
    propV2.constraintType = constraintVirtualDeviceIndex →
      ∃ devId ∈ st.usedDevIds, res.deviceId = devId
  same : ∀ i j propV2 propV2' res res', st.Placed props i propV2 res →
    st.Placed props j propV2' res' → propV2.constraintType = constraintVirtualDeviceIndex →
      propV2'.constraintType = constraintVirtualDeviceIndex →
        (res.deviceId = res'.deviceId ↔ propV2.deviceIndex = propV2'.deviceIndex)

/-- A round for items without a virtual device leaves those with one. -/
theorem ListV2State.Virtual.other {st st' : ListV2State} (h : st.Virtual props)
    (hround : ListV2State.Round props st st' indices done)
    (hno : ∀ i ∈ indices, ∀ propV2, props[i]? = some propV2 →
      propV2.constraintType ≠ constraintVirtualDeviceIndex)
    (hused : st'.usedDevIds = st.usedDevIds) (hnum : st'.s.numDevice = st.s.numDevice) :
    st'.Virtual props := by
  have hbefore : ∀ i propV2 res, st'.Placed props i propV2 res →
      propV2.constraintType = constraintVirtualDeviceIndex → st.Placed props i propV2 res := by
    intro i propV2 res hplaced hvirtual
    exact hround.before i propV2 res hplaced fun hi => hno i hi propV2 hplaced.item hvirtual
  refine ⟨by rw [hused]; exact h.nodup, by rw [hused, hnum]; exact h.bound, ?_, ?_, ?_⟩
  · intro i j propV2 propV2' hi hitem hitem' hvirtual hvirtual' hindex
    have hlt := (List.getElem?_eq_some_iff.mp hitem).1
    have hlt' := (List.getElem?_eq_some_iff.mp hitem').1
    have hi' := ((hround.handled i hlt).mp hi).resolve_right
      fun hmem => hno i hmem propV2 hitem hvirtual
    exact (hround.handled j hlt').mpr
      (.inl (h.together i j propV2 propV2' hi' hitem hitem' hvirtual hvirtual' hindex))
  · intro i propV2 res hplaced hvirtual
    rw [hused]
    exact h.used i propV2 res (hbefore i propV2 res hplaced hvirtual) hvirtual
  · intro i j propV2 propV2' res res' hplaced hplaced' hvirtual hvirtual'
    exact h.same i j propV2 propV2' res res' (hbefore i propV2 res hplaced hvirtual)
      (hbefore j propV2' res' hplaced' hvirtual') hvirtual hvirtual'

/-- A round for all items of a virtual device puts them on a device of their own. -/
theorem ListV2State.Virtual.subList {st st' : ListV2State} (h : st.Virtual props)
    (hround : ListV2State.Round props st st' indices done) {deviceIndex devId : Nat}
    (hindices : ∀ i propV2, props[i]? = some propV2 → (i ∈ indices ↔
      propV2.constraintType = constraintVirtualDeviceIndex ∧ propV2.deviceIndex = deviceIndex))
    (hdone : ∀ res ∈ done, res.deviceId = devId) (hnot : devId ∉ st.usedDevIds)
    (hlt : devId < st.s.numDevice) (hnum : st'.s.numDevice = st.s.numDevice)
    (hroom : st.s.numDevice ≤ maxXilinxDevices)
    (hused : st'.usedDevIds = insertDeviceIdList st.usedDevIds devId) : st'.Virtual props := by
  have hnodup : (st.usedDevIds ++ [devId]).Nodup :=
    List.nodup_append.mpr ⟨h.nodup, List.nodup_singleton _, fun x hx y hy heq =>
      hnot (List.mem_singleton.mp hy ▸ heq ▸ hx)⟩
  have hbound : ∀ x ∈ st.usedDevIds ++ [devId], x < st.s.numDevice := by
    intro x hx
    rcases List.mem_append.mp hx with hx | hx
    · exact h.bound x hx
    · rwa [List.mem_singleton.mp hx]
  have hlength : st.usedDevIds.length < maxXilinxDevices := by
    have hsub : st.usedDevIds ++ [devId] ⊆ List.range st.s.numDevice :=
      fun x hx => List.mem_range.mpr (hbound x hx)
    have hle := (hnodup.subperm hsub).length_le
    rw [List.length_append, List.length_singleton, List.length_range] at hle
    omega
  have hinsert : st'.usedDevIds = st.usedDevIds ++ [devId] := by
    rw [hused, insertDeviceIdList, if_neg (by simpa using hnot), if_pos hlength]
  have hnew : ∀ i propV2 res, st'.Placed props i propV2 res → i ∈ indices →
      res.deviceId = devId := by
    intro i propV2 res hplaced hi
    obtain ⟨k, -, hres⟩ := hround.new i propV2 res hplaced hi
    exact hdone res (List.mem_of_getElem? hres)
  -- the devices of the rounds before are not the new one
  have hold : ∀ i propV2 res, st'.Placed props i propV2 res → i ∉ indices →
      propV2.constraintType = constraintVirtualDeviceIndex → res.deviceId ≠ devId := by
    intro i propV2 res hplaced hi hvirtual heq
    obtain ⟨x, hx, hres⟩ := h.used i propV2 res (hround.before i propV2 res hplaced hi) hvirtual
    exact hnot (Int.ofNat_inj.mp (hres.symm.trans heq) ▸ hx)
  refine ⟨by rwa [hinsert], by rwa [hinsert, hnum], ?_, ?_, ?_⟩
  · intro i j propV2 propV2' hi hitem hitem' hvirtual hvirtual' hindex
    have hlti := (List.getElem?_eq_some_iff.mp hitem).1
    have hltj := (List.getElem?_eq_some_iff.mp hitem').1
    refine (hround.handled j hltj).mpr ?_
    rcases (hround.handled i hlti).mp hi with hbefore | hmem
    · exact .inl (h.together i j propV2 propV2' hbefore hitem hitem' hvirtual hvirtual' hindex)
    · have hsame := (hindices i propV2 hitem).mp hmem
      exact .inr ((hindices j propV2' hitem').mpr ⟨hvirtual', hindex.trans hsame.2⟩)
  · intro i propV2 res hplaced hvirtual
    rw [hinsert]
    by_cases hi : i ∈ indices
    · exact ⟨devId, by simp, hnew i propV2 res hplaced hi⟩
    · obtain ⟨x, hx, hres⟩ := h.used i propV2 res (hround.before i propV2 res hplaced hi) hvirtual
      exact ⟨x, by simp [hx], hres⟩
  · intro i j propV2 propV2' res res' hplaced hplaced' hvirtual hvirtual'
    have hi := hindices i propV2 hplaced.item
    have hj := hindices j propV2' hplaced'.item
    by_cases hmem : i ∈ indices <;> by_cases hmem' : j ∈ indices
    · refine iff_of_true ?_ ((hi.mp hmem).2.trans (hj.mp hmem').2.symm)
      rw [hnew i propV2 res hplaced hmem, hnew j propV2' res' hplaced' hmem']
    · refine iff_of_false ?_ fun hindex => hmem' (hj.mpr ⟨hvirtual', ?_⟩)
      · rw [hnew i propV2 res hplaced hmem]
        exact (hold j propV2' res' hplaced' hmem' hvirtual').symm
      · rw [← hindex, (hi.mp hmem).2]
    · refine iff_of_false ?_ fun hindex => hmem (hi.mpr ⟨hvirtual, ?_⟩)
      · rw [hnew j propV2' res' hplaced' hmem']
        exact hold i propV2 res hplaced hmem hvirtual
      · rw [hindex, (hj.mp hmem').2]
    · exact h.same i j propV2 propV2' res res' (hround.before i propV2 res hplaced hmem)
        (hround.before j propV2' res' hplaced' hmem') hvirtual hvirtual'

/-! ## The rounds -/

/-- The state between two rounds. -/
structure Between (D : Discipline) (svc : Nat) (s₀ : System) (props : List CuPropertyV2)
    (st : ListV2State) : Prop extends ServesItems D svc s₀ props st where
  virtual : st.Virtual props

section Rounds

variable {index : Nat} {propV2 : CuPropertyV2} {rest : List Nat} {st st' : ListV2State}

/-- Items that are served keep the requests they were made of. -/
theorem serves_of_subList (hlt : ∀ i ∈ indices, i < props.length)
    (h : List.Forall₂ (s'.Serves svc)
      ((indices.filterMap fun i => props[i]?).map cuPropertyCopyFromV2) done) {k i : Nat}
    (hk : indices[k]? = some i) (hitem : props[i]? = some propV2) (hres : done[k]? = some res) :
    s'.Serves svc (cuPropertyCopyFromV2 propV2) res := by
  induction indices generalizing done k with
  | nil => simp at hk
  | cons j indices ih =>
      have hjlt : j < props.length := hlt j (by simp)
      have hj : props[j]? = some props[j] := List.getElem?_eq_getElem hjlt
      rw [List.filterMap_cons_some hj, List.map_cons] at h
      obtain ⟨res', done, hone, hrest, rfl⟩ := List.forall₂_cons_left_iff.mp h
      cases k with
      | zero =>
          obtain rfl : j = i := by simpa using hk
          obtain rfl : res' = res := by simpa using hres
          rw [hitem, Option.some.injEq] at hj
          rwa [← hj] at hone
      | succ k => exact ih (fun x hx => hlt x (by simp [hx])) hrest hk hres

/-- A round for a single item, from any device or from one device. -/
theorem Between.single (h : Between D svc s₀ props st)
    (hprop : props[index]? = some propV2)
    (hno : propV2.constraintType ≠ constraintVirtualDeviceIndex)
    (hbatch : Batch D svc st.s s' [cuPropertyCopyFromV2 propV2] [res])
    (hhardware : propV2.constraintType = constraintHardwareDeviceIndex →
      res.deviceId = propV2.deviceIndex)
    (hst' : st' = ListV2State.record
      { st with s := s', itemFlags := markHandled st.itemFlags [index] } index res) :
    Between D svc s₀ props st' ∧ ListV2State.Round props st st' [index] [res] := by
  have hs : st'.s = s' := by rw [hst']; rfl
  have hlt := (List.getElem?_eq_some_iff.mp hprop).1
  have hround : ListV2State.Round props st st' [index] [res] :=
    ListV2State.round_recordAll
      { st with s := s', itemFlags := markHandled st.itemFlags [index] } [index] h.flags h.results
      rfl (List.nodup_singleton _) (by simpa using hlt) (fun _ => Iff.rfl) rfl rfl
      (by rw [hst']; rfl) (by rw [hst']; rfl)
  rw [← hs] at hbatch
  have hserves : st'.s.ServesItem svc propV2 res := by
    obtain ⟨hone, -⟩ := List.forall₂_cons.mp hbatch.serves
    exact ⟨hone, hhardware⟩
  refine ⟨{ h.toServesItems.round hround hbatch ?_ with virtual := ?_ }, hround⟩
  · intro k i propV2' res' hk hitem hres
    cases k with
    | zero =>
        obtain rfl : index = i := by simpa using hk
        obtain rfl : res = res' := by simpa using hres
        obtain rfl : propV2 = propV2' := Option.some.inj (hprop.symm.trans hitem)
        exact hserves
    | succ k => simp at hk
  · refine h.virtual.other hround (fun i hi propV2' hitem => ?_) (by rw [hst']; rfl)
      hbatch.spares.numDevice
    rw [List.mem_singleton.mp hi, hprop, Option.some.injEq] at hitem
    rwa [← hitem]

theorem Between.subList (h : Between D svc s₀ props st) (hroom : s₀.numDevice ≤ maxXilinxDevices)
    (hnodup : indices.Nodup) (hlt : ∀ i ∈ indices, i < props.length) (marked : List Nat)
    (hmarked : ∀ i, i ∈ marked ↔ i ∈ indices) {deviceIndex devId : Nat}
    (hindices : ∀ i propV2, props[i]? = some propV2 → (i ∈ indices ↔
      propV2.constraintType = constraintVirtualDeviceIndex ∧ propV2.deviceIndex = deviceIndex))
    (hbatch : Batch D svc st.s s'
      ((indices.filterMap fun i => props[i]?).map cuPropertyCopyFromV2) done)
    (hdone : ∀ res ∈ done, res.deviceId = devId) (hnot : devId ∉ st.usedDevIds)
    (hdevId : devId < st.s.numDevice)
    (hst' : st' = { ListV2State.recordAll
      { st with s := s', itemFlags := markHandled st.itemFlags marked } indices done with
        usedDevIds := insertDeviceIdList st.usedDevIds devId }) :
    Between D svc s₀ props st' ∧ ListV2State.Round props st st' indices done := by
  have hs : st'.s = s' := by rw [hst']; exact ListV2State.recordAll_s _ _ _
  have hlength : indices.length = done.length := by
    have hlength := hbatch.serves.length_eq
    rw [List.length_map, List.filterMap_length_eq_length.mpr] at hlength
    · exact hlength
    · intro i hi
      simpa using hlt i hi
  have hround : ListV2State.Round props st st' indices done :=
    ListV2State.round_recordAll
      { st with s := s', itemFlags := markHandled st.itemFlags marked } marked h.flags h.results
      hlength hnodup hlt hmarked rfl rfl (by subst hst'; rfl) (by subst hst'; rfl)
  rw [← hs] at hbatch
  have hnum : st.s.numDevice ≤ maxXilinxDevices := by
    rw [h.kept.spares.numDevice]
    exact hroom
  refine ⟨{ h.toServesItems.round hround hbatch ?_ with virtual := ?_ }, hround⟩
  · intro k i propV2' res hk hitem hres
    refine ⟨serves_of_subList hlt hbatch.serves hk hitem hres, fun hhardware => ?_⟩
    have hvirtual := ((hindices i propV2' hitem).mp (List.mem_of_getElem? hk)).1
    rw [hvirtual] at hhardware
    simp [constraintVirtualDeviceIndex, constraintHardwareDeviceIndex] at hhardware
  · exact h.virtual.subList hround hindices hdone hnot hdevId hbatch.spares.numDevice hnum
      (by subst hst'; rfl)

/-- The items that a virtual device takes with it are all items of the device. -/
theorem mem_subList (h : Between D svc s₀ props st) (hprop : props[index]? = some propV2)
    (hvirtual : propV2.constraintType = constraintVirtualDeviceIndex)
    (hnot : ¬ st.Handled index) (hall : ∀ i < props.length, i ∉ index :: rest → st.Handled i)
    (i : Nat) (propV2' : CuPropertyV2) (hitem : props[i]? = some propV2') :
    i ∈ index :: subListIndices props (markHandled st.itemFlags [index]) propV2.deviceIndex rest ↔
      propV2'.constraintType = constraintVirtualDeviceIndex ∧
        propV2'.deviceIndex = propV2.deviceIndex := by
  have hlt := (List.getElem?_eq_some_iff.mp hitem).1
  by_cases hi : i = index
  · subst hi
    obtain rfl : propV2 = propV2' := Option.some.inj (hprop.symm.trans hitem)
    simp [hvirtual]
  have hhandled : ((markHandled st.itemFlags [index]).getD i ⟨false, false⟩).handled = true ↔
      st.Handled i := by
    have hmarked : ({ st with itemFlags := markHandled st.itemFlags [index] } :
        ListV2State).itemFlags = markHandled st.itemFlags [index] := rfl
    refine (ListV2State.handled_markHandled hmarked ?_).trans ?_
    · rw [h.flags]
      exact hlt
    · simp [hi]
  have hselect : i ∈ subListIndices props (markHandled st.itemFlags [index])
      propV2.deviceIndex rest ↔ i ∈ rest ∧ ¬ st.Handled i ∧
        propV2'.constraintType = constraintVirtualDeviceIndex ∧
          propV2'.deviceIndex = propV2.deviceIndex := by
    rw [subListIndices, List.mem_filter, hitem, Bool.and_eq_true, Bool.not_eq_true',
      ← Bool.not_eq_true, hhandled]
    simp
  rw [List.mem_cons, or_iff_right hi, hselect]
  constructor
  · exact fun hmem => hmem.2.2
  · intro hsame
    -- were it handled, so would be the item that takes it along
    have hnoti : ¬ st.Handled i := fun hhandled =>
      hnot (h.virtual.together i index propV2' propV2 hhandled hitem hprop hsame.1 hvirtual
        hsame.2.symm)
    refine ⟨?_, hnoti, hsame⟩
    by_contra hmem
    exact hnoti (hall i hlt (by simp [hi, hmem]))

theorem allocItemV2_between (hsent : ∀ propV2 ∈ props, propV2.Sent)
    (hroom : s₀.numDevice ≤ maxXilinxDevices) (hsvc : svc = s₀.getNextAllocServiceId)
    (hprop : props[index]? = some propV2) (hnodup : (index :: rest).Nodup)
    (h : Between D svc s₀ props st) (hnot : ¬ st.Handled index)
    (hall : ∀ i < props.length, i ∉ index :: rest → st.Handled i)
    (hok : allocItemV2 props index propV2 rest
      { st with itemFlags := markHandled st.itemFlags [index] } = (st', .ok ())) :
    ∃ indices done, Between D svc s₀ props st' ∧ ListV2State.Round props st st' indices done ∧
      index ∈ indices := by
  have hs : (cuPropertyCopyFromV2 propV2).Sent := hsent propV2 (List.mem_of_getElem? hprop)
  have hsvc' : svc = st.s.getNextAllocServiceId := by rw [hsvc, h.kept.nextId]
  have hsound := h.kept.sound
  rw [allocItemV2] at hok
  simp only at hok
  split at hok
  · rename_i hnull
    have hone := st.s.resAllocCu_allocates (cuPropertyCopyFromV2 propV2) false
    split at hok
    · rename_i s₁ res heq
      rw [heq] at hone
      have hbatch := hone.batch hsound hs rfl
      rw [← hsvc'] at hbatch
      obtain ⟨hbetween, hround⟩ := h.single hprop (by rw [hnull]; decide) hbatch
        (fun hhardware => absurd (hnull.symm.trans hhardware) (by decide)) (Prod.mk.inj hok).1.symm
      exact ⟨_, _, hbetween, hround, by simp⟩
    · simp at hok
  split at hok
  · rename_i hhardware
    have hone := st.s.resAllocCuFromDev_allocates (i32 propV2.deviceIndex)
      (cuPropertyCopyFromV2 propV2) false
    split at hok
    · rename_i s₁ res heq
      have hdevice := resAllocCuFromDev_deviceId hsound hs heq
      rw [heq] at hone
      have hbatch := hone.batch hsound hs rfl
      rw [← hsvc'] at hbatch
      have hnonneg : 0 ≤ res.deviceId := by
        obtain ⟨hserves, -⟩ := List.forall₂_cons.mp hbatch.serves
        exact hserves.holds.reports.nonneg.1
      have hindex : propV2.deviceIndex < 2 ^ 32 := Nat.mod_lt _ (by decide)
      obtain ⟨hbetween, hround⟩ := h.single hprop (by rw [hhardware]; decide) hbatch
        (fun _ => by rw [i32] at hdevice; omega) (Prod.mk.inj hok).1.symm
      exact ⟨_, _, hbetween, hround, by simp⟩
    · simp at hok
  split at hok
  · rename_i hvirtual
    have hmem := mem_subList h hprop hvirtual hnot hall
    generalize hindices : index :: subListIndices props (markHandled st.itemFlags [index])
      propV2.deviceIndex rest = indices at hok hmem
    obtain ⟨hnotin, hrest⟩ := List.nodup_cons.mp hnodup
    have hnodup' : indices.Nodup := by
      rw [← hindices]
      exact List.nodup_cons.mpr ⟨fun hi => hnotin (subListIndices_spec hi).1, hrest.filter _⟩
    have hlt : ∀ i ∈ indices, i < props.length := by
      rw [← hindices]
      intro i hi
      rcases List.mem_cons.mp hi with rfl | hi
      · exact (List.getElem?_eq_some_iff.mp hprop).1
      · exact (subListIndices_spec hi).2.2
    have hsubSent : ∀ prop ∈ (indices.filterMap fun i => props[i]?).map cuPropertyCopyFromV2,
        prop.Sent := forall_subList hsent _
    have hsame := allocOnSameDevice_batch hsubSent st.usedDevIds (List.range st.s.numDevice)
      hsound hsvc'
    split at hok
    · rename_i s₁ devId done heq
      rw [heq] at hsame
      obtain ⟨hbatch, hdone, hdevId, hfresh⟩ := hsame
      obtain ⟨hbetween, hround⟩ := h.subList hroom hnodup' hlt (index :: indices)
        (fun i => by rw [← hindices]; simp) hmem hbatch hdone hfresh (List.mem_range.mp hdevId)
        (Prod.mk.inj hok).1.symm
      exact ⟨_, _, hbetween, hround, by rw [← hindices]; simp⟩
    · simp at hok
  · simp at hok

theorem allocItemsV2_between (hsent : ∀ propV2 ∈ props, propV2.Sent)
    (hroom : s₀.numDevice ≤ maxXilinxDevices) (hsvc : svc = s₀.getNextAllocServiceId)
    (hnodup : indices.Nodup) (hlt : ∀ i ∈ indices, i < props.length)
    (h : Between D svc s₀ props st)
    (hall : ∀ i < props.length, i ∉ indices → st.Handled i)
    (hok : allocItemsV2 props indices st = (st', .ok ())) :
    Between D svc s₀ props st' ∧ ∀ i < props.length, st'.Handled i := by
  induction indices generalizing st with
  | nil =>
      rw [allocItemsV2, Prod.mk.injEq] at hok
      rw [← hok.1]
      exact ⟨h, fun i hi => hall i hi (by simp)⟩
  | cons index rest ih =>
      have hindex := hlt index (by simp)
      have hlt' : ∀ i ∈ rest, i < props.length := fun i hi => hlt i (by simp [hi])
      have hrest := (List.nodup_cons.mp hnodup).2
      rw [allocItemsV2] at hok
      split at hok
      · rename_i hhandled
        refine ih hrest hlt' h (fun i hi hnotin => ?_) hok
        by_cases heq : i = index
        · rw [heq]
          exact hhandled
        · exact hall i hi (by simp [heq, hnotin])
      rename_i hnot
      rw [List.getElem?_eq_getElem hindex] at hok
      simp only at hok
      split at hok
      · rename_i st₁ heq
        obtain ⟨indices', done, hbetween, hround, hmem⟩ := allocItemV2_between hsent hroom hsvc
          (List.getElem?_eq_getElem hindex) hnodup h hnot hall heq
        refine ih hrest hlt' hbetween (fun i hi hnotin => (hround.handled i hi).mpr ?_) hok
        by_cases hi' : i = index
        · rw [hi']
          exact .inr hmem
        · exact .inl (hall i hi (by simp [hi', hnotin]))
      · simp at hok

end Rounds

/-! ## The list -/

/-- The results of a list, item by item: each names a live channel of its own that carries the
item, all have one new service id, and the devices are those that the items ask for. -/
structure Places (s s' : System) (listProp : CuListPropertyV2) (listRes : CuListResource) :
    Prop where
  cuNum : listRes.cuNum = listProp.items.length
  results : listRes.cuResources.length = listProp.items.length
  newId : s'.allocServiceId = s.getNextAllocServiceId ∧
    s.getNextAllocServiceId ≠ s.allocServiceId ∧ s.getNextAllocServiceId ≠ 0
  holds : ∀ (i : Nat) propV2 res, listProp.items[i]? = some propV2 →
    listRes.cuResources[i]? = some res →
      s'.Holds (cuPropertyCopyFromV2 propV2) s.getNextAllocServiceId res
  hardware : ∀ (i : Nat) propV2 res, listProp.items[i]? = some propV2 →
    listRes.cuResources[i]? = some res →
      propV2.constraintType = constraintHardwareDeviceIndex → res.deviceId = propV2.deviceIndex
  virtual : ∀ (i j : Nat) propV2 propV2' res res', listProp.items[i]? = some propV2 →
    listProp.items[j]? = some propV2' → listRes.cuResources[i]? = some res →
      listRes.cuResources[j]? = some res' →
        propV2.constraintType = constraintVirtualDeviceIndex →
          propV2'.constraintType = constraintVirtualDeviceIndex →
            (res.deviceId = res'.deviceId ↔ propV2.deviceIndex = propV2'.deviceIndex)
  apart : ∀ (i j : Nat) res res', listRes.cuResources[i]? = some res →
    listRes.cuResources[j]? = some res' → i ≠ j → res.place ≠ res'.place

/-- The state before the first round: no item is handled. -/
def startV2 (s : System) (props : List CuPropertyV2) : ListV2State where
  s := s
  itemFlags := props.map fun _ => ⟨false, false⟩
  cuResources := props.map fun _ => CuResource.zero
  usedDevIds := []

theorem between_startV2 (hsound : s.Sound D) (svc : Nat) (props : List CuPropertyV2) :
    Between D svc s props (s.startV2 props) := by
  have hno : ∀ i, ¬ (s.startV2 props).Handled i := by
    intro i hi
    obtain ⟨flag, hflag, hhandled⟩ := ListV2State.handled_iff.mp hi
    obtain ⟨-, -, rfl⟩ := List.mem_map.mp (List.mem_of_getElem? hflag)
    simp at hhandled
  refine ⟨⟨.refl hsound, List.length_map _, List.length_map _, ?_, ?_⟩,
    ⟨List.nodup_nil, by simp [startV2], ?_, ?_, ?_⟩⟩
  · exact fun i _ _ hplaced => absurd hplaced.handled (hno i)
  · exact fun i _ _ _ _ _ hplaced => absurd hplaced.handled (hno i)
  · exact fun i _ _ _ hi => absurd hi (hno i)
  · exact fun i _ _ hplaced => absurd hplaced.handled (hno i)
  · exact fun i _ _ _ _ _ hplaced => absurd hplaced.handled (hno i)

theorem nextId_ne (id : Nat) : nextId id ≠ id := by
  rw [nextId]
  split
  · rename_i heq
    rw [heq]
    decide
  · omega

/-- The results of a list with device constraints are placed as its items ask for, whatever the
constraints are and in whatever order they come. The tables have room for as many devices as the
limit says. -/
theorem list_v2_placement {limit : Nat} (h : Reachable allRuns limit s)
    (hroom : s.numDevice ≤ maxXilinxDevices) {listProp : CuListPropertyV2}
    (hsent : ∀ propV2 ∈ listProp.items, propV2.Sent) {listRes : CuListResource}
    (hok : s.resAllocCuListV2 listProp = (s', .ok listRes)) : s.Places s' listProp listRes := by
  rw [resAllocCuListV2] at hok
  split at hok
  · simp at hok
  simp only at hok
  split at hok
  · rename_i st heq
    have hstart := between_startV2 h.good.sound s.getNextAllocServiceId listProp.items
    obtain ⟨hbetween, hall⟩ := allocItemsV2_between hsent hroom rfl List.nodup_range
      (fun i hi => List.mem_range.mp hi) hstart
      (fun i hi hnotin => absurd (List.mem_range.mpr hi) hnotin) heq
    rw [Prod.mk.injEq, Except.ok.injEq] at hok
    obtain ⟨rfl, rfl⟩ := hok
    have hplaced : ∀ (i : Nat) propV2 res, listProp.items[i]? = some propV2 →
        st.cuResources[i]? = some res → st.Placed listProp.items i propV2 res :=
      fun i propV2 res hitem hres =>
        ⟨hall i (List.getElem?_eq_some_iff.mp hitem).1, hitem, hres⟩
    have hspares : st.s.Spares st.s.updateAllocServiceId [] := ⟨fun _ _ _ h => h, fun _ => rfl, rfl⟩
    refine ⟨?_, hbetween.results, ⟨hbetween.kept.nextId, nextId_ne _, nextId_ne_zero _⟩,
      ?_, ?_, ?_, ?_⟩
    · exact congrArg Int.ofNat hbetween.results
    · intro i propV2 res hitem hres
      have hitem := hbetween.items i propV2 res (hplaced i propV2 res hitem hres)
      exact hitem.serves.holds.spared hspares (by simp)
    · intro i propV2 res hitem hres
      exact (hbetween.items i propV2 res (hplaced i propV2 res hitem hres)).hardware
    · intro i j propV2 propV2' res res' hitem hitem' hres hres'
      exact hbetween.virtual.same i j propV2 propV2' res res' (hplaced i propV2 res hitem hres)
        (hplaced j propV2' res' hitem' hres')
    · intro i j res res' hres hres' hne
      have hitem : ∀ (i : Nat) res, st.cuResources[i]? = some res →
          ∃ propV2, listProp.items[i]? = some propV2 := by
        intro i res hres
        have hlt := (List.getElem?_eq_some_iff.mp hres).1
        rw [hbetween.results] at hlt
        exact ⟨_, List.getElem?_eq_getElem hlt⟩
      obtain ⟨propV2, hi⟩ := hitem i res hres
      obtain ⟨propV2', hj⟩ := hitem j res' hres'
      exact hbetween.apart i j propV2 propV2' res res' (hplaced i propV2 res hi hres)
        (hplaced j propV2' res' hj hres') hne
  · simp at hok

/-- Two items of one virtual device around an item of a given device, one of another virtual device
and one that may be anywhere. -/
def scatteredList : CuListPropertyV2 where
  cuProps := [2 * 2 ^ 32 + 7, 1 * 2 ^ 32 + 2, 2 * 2 ^ 32 + 9, 0, 2 * 2 ^ 32 + 7].map
    fun deviceInfo => { Scenario.requestV2 2 0 100000 policyNull with deviceInfo := deviceInfo }
  cuNum := 5

theorem list_v2_placement_scattered : ∃ s' listRes,
    (Scenario.after lendingRun).resAllocCuListV2 scatteredList = (s', .ok listRes) ∧
      (Scenario.after lendingRun).Places s' scatteredList listRes := by
  have hok : ((Scenario.after lendingRun).resAllocCuListV2 scatteredList).2.toOption.isSome := by
    decide +kernel
  cases hr : (Scenario.after lendingRun).resAllocCuListV2 scatteredList with
  | mk s' r =>
      rw [hr] at hok
      cases r with
      | error e => simp [Except.toOption] at hok
      | ok listRes =>
          refine ⟨s', listRes, rfl, ?_⟩
          exact list_v2_placement (reachable_after lendingRun (by decide +kernel))
            (by decide +kernel) (by decide) hr

/-- The CU after a release of zeros, which names its first channel: one channel less than none
is in use. -/
def zeroedRun : List Op :=
  [.loadOneDevice (Scenario.env 1 1) 0 "scaler.xclbin", .resReleaseCu (Scenario.recordOf 0 0 0)]

/-- Two items without constraints. -/
def pairList : CuListPropertyV2 where
  cuProps := List.replicate 2 (Scenario.requestV2 1 0 100000 policyNull)
  cuNum := 2

/-- After it both items of a list get the first channel. -/
theorem list_v2_placement_fails : ∃ s' listRes,
    (Scenario.after zeroedRun).resAllocCuListV2 pairList = (s', .ok listRes) ∧
      ¬(Scenario.after zeroedRun).Places s' pairList listRes := by
  have hok : ((Scenario.after zeroedRun).resAllocCuListV2 pairList).2.toOption.map
      (fun listRes => listRes.cuResources.map (·.place)) = some [(0, 0, 0), (0, 0, 0)] := by
    decide +kernel
  cases hr : (Scenario.after zeroedRun).resAllocCuListV2 pairList with
  | mk s' r =>
      rw [hr] at hok
      cases r with
      | error e => simp [Except.toOption] at hok
      | ok listRes =>
          have hplaces : listRes.cuResources.map (·.place) = [(0, 0, 0), (0, 0, 0)] :=
            Option.some.inj hok
          have hplace : ∀ i < 2, ∃ res, listRes.cuResources[i]? = some res ∧
              res.place = (0, 0, 0) := by
            intro i hi
            have hget : (listRes.cuResources.map (·.place))[i]? = some (0, 0, 0) := by
              rw [hplaces]
              obtain rfl | rfl : i = 0 ∨ i = 1 := by omega
              · rfl
              · rfl
            rwa [List.getElem?_map, Option.map_eq_some_iff] at hget
          obtain ⟨res, hres, hplace₀⟩ := hplace 0 (by decide)
          obtain ⟨res', hres', hplace₁⟩ := hplace 1 (by decide)
          exact ⟨s', listRes, rfl, fun h =>
            h.apart 0 1 res res' hres hres' (by decide) (hplace₀.trans hplace₁.symm)⟩

end System

end Xrm
