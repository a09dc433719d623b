import Xrm.Model.Indices
import Xrm.Verification.Declarations
import Xrm.Verification.Demands
import Xrm.Verification.Undo

/-! # Indices of the requests

Which requests stay inside the fixed arrays. The functions of the system look at the count of a list
before they use it, so they compute with their tests what they compute without; the handlers that
fill the arrays do not, and neither does the table of the declared groups nor the report of a pool.
Two tests let the number behind the last entry pass.
-/

namespace Xrm

open Procedure

/-! ## Using entries -/

section Uses

variable {σ α β : Type} {s : σ} {room : Nat}

theorem useEntry_eq {i : Int} (h0 : 0 ≤ i) (h : i < room) :
    (useEntry i room : Procedure σ Unit) s = .ok () s := by
  rw [useEntry, if_pos ⟨h0, h⟩]
  rfl

@[simp]
theorem inside_useEntry {i : Int} :
    Inside (useEntry i room : Procedure σ Unit) s ↔ 0 ≤ i ∧ i < room := by
  rw [useEntry, inside_ite]
  split <;> simp_all

theorem inside_useEntry_bind {i : Int} (f : Unit → Procedure σ β) :
    Inside (useEntry i room >>= f) s ↔ (0 ≤ i ∧ i < room) ∧ Inside (f ()) s := by
  by_cases h : 0 ≤ i ∧ i < room
  · rw [inside_bind_ok (useEntry_eq h.1 h.2)]
    exact ⟨fun hinside => ⟨h, hinside⟩, fun hinside => hinside.2⟩
  · rw [inside_bind, inside_useEntry]
    exact ⟨fun hinside => absurd hinside.1 h, fun hinside => absurd hinside.1 h⟩

theorem useFrom_eq {n i : Nat} (h : i + n ≤ room) :
    (useFrom room n i : Procedure σ Unit) s = .ok () s := by
  induction n generalizing i with
  | zero => rfl
  | succ n ih =>
      change Procedure.bind (useEntry i room) _ s = _
      rw [Procedure.bind, useEntry_eq (by omega) (by omega)]
      exact ih (by omega)

theorem useBelow_eq {count : Int} (h : count ≤ room) :
    (useBelow count room : Procedure σ Unit) s = .ok () s := useFrom_eq (by omega)

theorem inside_useBelow {count : Int} (h : count ≤ room) :
    Inside (useBelow count room : Procedure σ Unit) s := by
  simp [Inside, useBelow_eq h]

theorem call_eq (f : σ → σ × α) : call f s = .ok (f s).2 (f s).1 := rfl

theorem guarded_eq {refused : Prop} [Decidable refused] {p : Procedure σ Unit}
    (h : ¬ refused → p s = .ok () s) : guarded refused p s = .ok () s := by
  rw [guarded]
  split
  · rfl
  · rename_i hnot
    exact h hnot

/-- A loop behind the test of its count does not change what is called. -/
theorem guarded_call_eq {count : Int} {refused : Prop} [Decidable refused]
    (h : ¬ refused → count ≤ room) (f : σ → σ × α) :
    (guarded refused (useBelow count room) >>= fun _ => call f : Procedure σ α) s =
      .ok (f s).2 (f s).1 := by
  rw [bind_ok (guarded_eq fun hnot => useBelow_eq (h hnot)), call_eq]

end Uses

/-! ## The functions that test their count -/

namespace Indexed

variable {s : System}

theorem resIsCuListExisting_eq (listProp : CuListProperty) :
    resIsCuListExisting listProp s = .ok (s.resIsCuListExisting listProp) s :=
  guarded_call_eq (by omega) _

theorem resAllocCuList_eq (listProp : CuListProperty) :
    resAllocCuList listProp s =
      .ok (s.resAllocCuList listProp).2 (s.resAllocCuList listProp).1 :=
  guarded_call_eq (by omega) _

theorem resAllocCuListV2_eq (listProp : CuListPropertyV2) :
    resAllocCuListV2 listProp s =
      .ok (s.resAllocCuListV2 listProp).2 (s.resAllocCuListV2 listProp).1 :=
  guarded_call_eq (by omega) _

theorem resReserveCuPool_eq (poolProp : CuPoolProperty) :
    resReserveCuPool poolProp s =
      .ok (s.resReserveCuPool poolProp).2 (s.resReserveCuPool poolProp).1 :=
  guarded_call_eq (by omega) _

theorem resReserveCuListV2_eq (p : Nat) (listProp : CuListPropertyV2) :
    resReserveCuListV2 p listProp s =
      .ok (s.resReserveCuListV2 p listProp).2 (s.resReserveCuListV2 p listProp).1 :=
  guarded_call_eq (by omega) _

end Indexed

/-! ## Releases -/

/-- The record names the device behind the last entry of the table, and passes the tests of its
other numbers. -/
def CuResource.NamesBehind (res : CuResource) : Prop :=
  res.deviceId = maxXilinxDevices ∧ (0 ≤ res.cuId ∧ res.cuId ≤ maxXilinxKernels) ∧
    0 ≤ res.channelId ∧ res.channelId ≤ maxKernelChannels

instance (res : CuResource) : Decidable res.NamesBehind := by
  unfold CuResource.NamesBehind
  infer_instance

namespace System

/-- The devices and their CUs fit their tables. -/
structure Fits (s : System) : Prop where
  devices : s.numDevice ≤ maxXilinxDevices
  cus : ∀ dev ∈ s.devList, dev.numCu ≤ maxXilinxKernels

/-- The table of the devices is full, and the record names the number behind it. -/
def Overrun (s : System) (res : CuResource) : Prop :=
  s.numDevice = maxXilinxDevices ∧ res.NamesBehind

instance (s : System) (res : CuResource) : Decidable (s.Overrun res) := by
  unfold Overrun
  infer_instance

end System

namespace Indexed

variable {s : System}

theorem resReleaseCu_eq (hs : s.Fits) (res : CuResource) :
    resReleaseCu res s =
      if s.Overrun res then .overflow s
      else .ok (s.resReleaseCu res).2 (s.resReleaseCu res).1 := by
  rw [resReleaseCu, bind_ok (p := get) rfl, System.resReleaseCu]
  by_cases hdevId : res.deviceId < 0 ∨ res.deviceId > s.numDevice
  · have hnot : ¬ s.Overrun res := fun h => by have := h.1; have := h.2.1; omega
    rw [if_pos hdevId, if_pos hdevId, if_neg hnot]
    rfl
  rw [if_neg hdevId, if_neg hdevId]
  by_cases hcuId : res.cuId < 0 ∨ res.cuId > maxXilinxKernels
  · have hnot : ¬ s.Overrun res := fun h => by have := h.2.2.1; omega
    rw [if_pos hcuId, if_pos hcuId, if_neg hnot]
    rfl
  rw [if_neg hcuId, if_neg hcuId]
  by_cases hchanId : res.channelId < 0 ∨ res.channelId > maxKernelChannels
  · have hnot : ¬ s.Overrun res := fun h => by have := h.2.2.2; omega
    rw [if_pos hchanId, if_pos hchanId, if_neg hnot]
    rfl
  rw [if_neg hchanId, if_neg hchanId]
  by_cases hover : s.Overrun res
  · have hout : ¬ (0 ≤ res.deviceId ∧ res.deviceId < (maxXilinxDevices : Int)) := by
      have := hover.2.1
      omega
    rw [if_pos hover]
    change Procedure.bind (useEntry res.deviceId maxXilinxDevices) _ s = _
    rw [Procedure.bind, useEntry, if_neg hout]
    rfl
  · have hin : 0 ≤ res.deviceId ∧ res.deviceId < (maxXilinxDevices : Int) := by
      refine ⟨by omega, ?_⟩
      by_contra hge
      have hle := hs.devices
      exact hover ⟨by omega, by omega, by omega, by omega⟩
    rw [if_neg hover, bind_ok (useEntry_eq hin.1 hin.2)]
    cases hdev : s.devList[res.deviceId.toNat]? with
    | none => rfl
    | some dev =>
        simp only
        by_cases hload : (!dev.isLoaded) = true
        · rw [if_pos hload, if_pos hload]
          rfl
        rw [if_neg hload, if_neg hload]
        by_cases hnum : res.cuId ≥ dev.numCu
        · have hnone : dev.cuList[res.cuId.toNat]? = none := by
            rw [List.getElem?_eq_none_iff]
            rw [DeviceData.numCu] at hnum
            omega
          rw [if_pos hnum, hnone]
          rfl
        · have hroom := hs.cus dev (List.mem_of_getElem? hdev)
          rw [if_neg hnum, bind_ok (useEntry_eq (by omega) (by omega)), call_eq,
            System.resReleaseCu,
            if_neg hdevId, if_neg hcuId, if_neg hchanId, hdev]
          simp only
          rw [if_neg hload]

end Indexed

namespace DeviceData

theorem returnLoad_cuList (dev : DeviceData) (cu : CuData) (p : Nat) (load : Int) :
    (dev.returnLoad cu p load).1.cuList = dev.cuList := by
  rw [returnLoad]
  split
  · split
    · split <;> rfl
    · rfl
  · rfl

theorem releaseChannels_cuList (res : CuResource) (chans : List ChannelData) (dev : DeviceData)
    (cu : CuData) : (releaseChannels res chans dev cu).dev.cuList = dev.cuList := by
  induction chans generalizing dev cu with
  | nil => rfl
  | cons chan chans ih =>
      rw [releaseChannels]
      split
      · exact (ih _ _).trans (by rw [dropClient_cuList, returnLoad_cuList])
      · exact ih _ _

theorem releaseCu_numCu (dev : DeviceData) (cuId : Nat) (cu : CuData) (res : CuResource) :
    (dev.releaseCu cuId cu res).1.numCu = dev.numCu := by
  have h := releaseChannels_cuList res cu.channels dev cu
  simp only [releaseCu, setCu, numCu, List.length_set, h]

end DeviceData

namespace System

variable {s : System}

theorem resReleaseCu_numDevice (s : System) (res : CuResource) :
    (s.resReleaseCu res).1.numDevice = s.numDevice := by
  rw [resReleaseCu]
  repeat' split
  all_goals first | rfl | exact numDevice_setDev _ _ _

theorem Fits.release (hs : s.Fits) (res : CuResource) : (s.resReleaseCu res).1.Fits := by
  refine ⟨(resReleaseCu_numDevice s res).trans_le hs.devices, ?_⟩
  rw [resReleaseCu]
  split
  · exact hs.cus
  split
  · exact hs.cus
  split
  · exact hs.cus
  split
  · exact hs.cus
  rename_i dev hdev
  split
  · exact hs.cus
  split
  · exact hs.cus
  rename_i cu _
  intro dev' hdev'
  rcases List.mem_or_eq_of_mem_set hdev' with hmem | rfl
  · exact hs.cus dev' hmem
  · exact (DeviceData.releaseCu_numCu dev _ cu res).trans_le
      (hs.cus dev (List.mem_of_getElem? hdev))

/-- The record passes the tests of `checkCuStat` with a number behind the last entry. -/
def Misread (s : System) (res : CuResource) : Prop :=
  (0 ≤ res.deviceId ∧ res.deviceId ≤ s.numDevice) ∧
    (0 ≤ res.cuId ∧ res.cuId ≤ maxXilinxKernels) ∧
    (res.deviceId = maxXilinxDevices ∨ res.cuId = maxXilinxKernels)

instance (s : System) (res : CuResource) : Decidable (s.Misread res) := by
  unfold Misread
  infer_instance

/-- One of the records that are reached names the number behind a full table. -/
def Overruns : List CuResource → System → Prop
  | [], _ => False
  | res :: rest, s =>
      s.Overrun res ∨ (s.resReleaseCu res).2 = .ok () ∧ Overruns rest (s.resReleaseCu res).1

end System

namespace Indexed

variable {s : System}

theorem inside_resReleaseCu (hs : s.Fits) (res : CuResource) :
    Inside (resReleaseCu res) s ↔ ¬ s.Overrun res := by
  rw [Inside, resReleaseCu_eq hs]
  split <;> simp_all

theorem inside_releaseInOrder (hs : s.Fits) {room i : Nat} (l : List CuResource)
    (h : i + l.length ≤ room) : Inside (releaseInOrder room i l) s ↔ ¬ s.Overruns l := by
  induction l generalizing s i with
  | nil => simp [releaseInOrder, System.Overruns]
  | cons res rest ih =>
      rw [List.length_cons] at h
      rw [releaseInOrder, inside_bind_ok (useEntry_eq (by omega) (by omega)), System.Overruns]
      by_cases hover : s.Overrun res
      · rw [inside_bind, inside_resReleaseCu hs]
        simp [hover]
      · rw [inside_bind_ok (resReleaseCu_eq hs res |>.trans (if_neg hover))]
        cases hret : (s.resReleaseCu res).2 with
        | ok _ => simpa [hover] using ih (hs.release res) (by omega)
        | error e => simp [hover]

theorem inside_releaseList (hs : s.Fits) (maxNum : Nat) (listRes : CuListResource) :
    Inside (releaseList maxNum listRes) s ↔
      (0 ≤ listRes.cuNum → listRes.cuNum ≤ maxNum →
        ¬ s.Overruns (listRes.cuResources.take listRes.cuNum.toNat)) := by
  rw [releaseList, inside_ite]
  split
  · rename_i hout
    refine iff_of_true (inside_pure _) fun h0 hmax => ?_
    omega
  · rename_i hin
    have hlen := List.length_take_le listRes.cuNum.toNat listRes.cuResources
    rw [inside_releaseInOrder hs _ (by omega)]
    exact ⟨fun h _ _ => h, fun h => h (by omega) (by omega)⟩

theorem inside_checkCuStat (hs : s.Fits) (res : CuResource) :
    Inside (checkCuStat res) s ↔ ¬ s.Misread res := by
  rw [checkCuStat, inside_get_bind, inside_ite]
  have hdevices := hs.devices
  by_cases hdevId : res.deviceId < 0 ∨ res.deviceId > s.numDevice
  · rw [if_pos hdevId]
    refine iff_of_true (inside_pure _) fun hmis => ?_
    have := hmis.1
    omega
  rw [if_neg hdevId, inside_ite]
  by_cases hcuId : res.cuId < 0 ∨ res.cuId > maxXilinxKernels
  · rw [if_pos hcuId]
    refine iff_of_true (inside_pure _) fun hmis => ?_
    have := hmis.2.1
    omega
  rw [if_neg hcuId, inside_useEntry_bind, inside_useEntry_bind]
  constructor
  · rintro ⟨hdev, hcu, -⟩ ⟨-, -, heq | heq⟩ <;> omega
  · intro hmis
    have hne : ¬ (res.deviceId = maxXilinxDevices ∨ res.cuId = maxXilinxKernels) :=
      fun heq => hmis ⟨by omega, by omega, heq⟩
    refine ⟨by omega, by omega, inside_pure _⟩

theorem inside_onDevice {α : Type} (hs : s.Fits) (deviceId : Int) (f : System → System × α) :
    Inside (onDevice deviceId f) s := by
  have hdevices := hs.devices
  rw [onDevice, inside_get_bind,
    inside_bind_ok (guarded_eq fun hnot => useEntry_eq (by omega) (by omega))]
  simp [Inside, call_eq]

/-! ## Groups -/

theorem findGroup_eq {room i : Nat} (name : String) (names : List String)
    (h : i + names.length ≤ room) :
    findGroup room name i names s =
      .ok ((names.findIdx? fun x => x == name).map (· + i)) s := by
  induction names generalizing i with
  | nil => rfl
  | cons x names ih =>
      rw [List.length_cons] at h
      rw [findGroup, bind_ok (useEntry_eq (by omega) (by omega)), List.findIdx?_cons]
      by_cases hx : (x == name) = true
      · rw [if_pos hx, if_pos hx, Option.map_some, Nat.zero_add]
        rfl
      · rw [if_neg hx, if_neg hx, ih (by omega), Option.map_map]
        congr 2
        funext j
        simp only [Function.comp_apply]
        omega

/-- The lists of an option table fit their arrays. -/
def OptionsFit (cuRoom : Nat) (cuNums : List Int) : Prop :=
  cuNums.length ≤ maxUdfCuGroupOptionListNum ∧ ∀ cuNum ∈ cuNums, cuNum ≤ cuRoom

theorem useOptions_eq {cuRoom cuListIdx : Nat} {cuNums : List Int}
    (h : cuListIdx + cuNums.length ≤ maxUdfCuGroupOptionListNum)
    (hnums : ∀ cuNum ∈ cuNums, cuNum ≤ cuRoom) :
    useOptions cuRoom cuListIdx cuNums s = .ok () s := by
  induction cuNums generalizing cuListIdx with
  | nil => rfl
  | cons cuNum cuNums ih =>
      rw [List.length_cons] at h
      rw [useOptions, bind_ok (useEntry_eq (by omega) (by omega)),
        bind_ok (useBelow_eq (hnums cuNum (by simp)))]
      exact ih (by omega) fun n hn => hnums n (by simp [hn])

theorem OptionsFit.eq {cuRoom : Nat} {cuNums : List Int} (h : OptionsFit cuRoom cuNums) :
    useOptions cuRoom 0 cuNums s = .ok () s := useOptions_eq (by have := h.1; omega) h.2

theorem inside_declareGroup {room cuRoom : Nat} {names : System → List String} {name : String}
    {cuNums : List Int} (hroom : (names s).length ≤ room) (hfit : OptionsFit cuRoom cuNums)
    (f : System → System × Except XrmError Unit) :
    Inside (declareGroup room cuRoom names name cuNums f) s ↔
      name ∈ names s ∨ (names s).length < room := by
  rw [declareGroup, inside_get_bind, inside_bind_ok (findGroup_eq name _ (by omega))]
  cases hfind : (names s).findIdx? fun x => x == name with
  | some i =>
      refine iff_of_true (inside_pure _) (.inl ?_)
      obtain ⟨hi, heq, -⟩ := List.findIdx?_eq_some_iff_getElem.mp hfind
      rw [beq_iff_eq] at heq
      exact heq ▸ List.getElem_mem hi
  | none =>
      have hnot : name ∉ names s := fun hmem => by
        have := List.findIdx?_eq_none_iff.mp hfind name hmem
        simp at this
      simp only [Option.map_none]
      rw [inside_useEntry_bind, inside_bind_ok hfit.eq]
      simp only [hnot, false_or, Inside, call_eq]
      constructor
      · rintro ⟨⟨-, hlt⟩, -⟩
        exact_mod_cast hlt
      · exact fun hlt => ⟨⟨by omega, by exact_mod_cast hlt⟩, by simp⟩

/-- A table of groups, each with the counts of its optional lists, fits its array. -/
structure TableFits (room cuRoom : Nat) (groups : List (String × List Int)) : Prop where
  length : groups.length ≤ room
  options : ∀ group ∈ groups, OptionsFit cuRoom group.2

theorem moveDown_eq {room cuRoom i : Nat} {groups : List (List Int)}
    (h : i + groups.length + 1 ≤ room) (hfit : ∀ cuNums ∈ groups, OptionsFit cuRoom cuNums) :
    moveDown room cuRoom i groups s = .ok () s := by
  induction groups generalizing i with
  | nil => rfl
  | cons cuNums groups ih =>
      rw [List.length_cons] at h
      rw [moveDown, bind_ok (useEntry_eq (by omega) (by omega)),
        bind_ok (useEntry_eq (by omega) (by omega)), bind_ok (hfit cuNums (by simp)).eq]
      exact ih (by omega) fun x hx => hfit x (by simp [hx])

theorem inside_undeclareGroup {room cuRoom : Nat} {groups : System → List (String × List Int)}
    (h : TableFits room cuRoom (groups s)) (name : String)
    (f : System → System × Except XrmError Unit) :
    Inside (undeclareGroup room cuRoom groups name f) s := by
  have hlen := h.length
  rw [undeclareGroup, inside_get_bind,
    inside_bind_ok (findGroup_eq name _ (by rw [List.length_map]; omega))]
  cases hfind : ((groups s).map Prod.fst).findIdx? fun x => x == name with
  | none => exact inside_pure _
  | some i =>
      obtain ⟨hi, -, -⟩ := List.findIdx?_eq_some_iff_getElem.mp hfind
      rw [List.length_map] at hi
      simp only [Option.map_some, Nat.add_zero]
      rw [inside_bind_ok (moveDown_eq ?_ ?_), inside_bind_ok (useEntry_eq (by omega) (by omega))]
      · simp [Inside, call_eq]
      · rw [List.length_map, List.length_drop]
        omega
      · intro cuNums hmem
        obtain ⟨group, hgroup, rfl⟩ := List.mem_map.mp hmem
        exact h.options group (List.mem_of_mem_drop hgroup)

end Indexed

/-! ## The declared groups stay -/

namespace System

variable {s s' : System} {prop : CuProperty} {svc : Nat} {Q : CuProperty → Prop}

theorem Touched.declared (h : Touched prop s s') : s'.declared = s.declared := by
  induction h with
  | refl => rfl
  | tail _ hstep ih =>
      obtain ⟨i, dev, dev', -, -, rfl⟩ := hstep
      exact ih

theorem Attempt.declared {r : Option CuResource} (h : Attempt prop svc s s' r) :
    s'.declared = s.declared := by
  cases h with
  | missed h => exact h.declared
  | acquired h _ _ => exact h.declared

theorem finishAlloc_declared (s : System) (updateId : Bool) (res : CuResource) :
    (s.finishAlloc updateId res).1.declared = s.declared := by
  rw [finishAlloc]
  split <;> rfl

theorem Allocates.declared {updateId : Bool} {r : System × Except XrmError CuResource}
    (h : Allocates prop updateId s r) : r.1.declared = s.declared := by
  cases h with
  | failed h => exact h.declared
  | granted _ h => exact (finishAlloc_declared _ updateId _).trans h.declared

theorem resReleaseCu_declared (s : System) (res : CuResource) :
    (s.resReleaseCu res).1.declared = s.declared := by
  rw [resReleaseCu]
  repeat' split
  all_goals rfl

theorem releaseInOrder_declared (l : List CuResource) (s : System) :
    (releaseInOrder l s).1.declared = s.declared := by
  induction l generalizing s with
  | nil => rfl
  | cons res rest ih =>
      have hres := resReleaseCu_declared s res
      rw [releaseInOrder]
      split
      · rename_i heq
        rw [heq] at hres
        exact (ih _).trans hres
      · rename_i heq
        rw [heq] at hres
        exact hres

theorem Taken.declared {done : List CuResource} (h : Taken Q svc s s' done) :
    s'.declared = s.declared := by
  induction h with
  | start => rfl
  | touch _ _ ht ih =>
      obtain ⟨i, dev, dev', -, -, rfl⟩ := ht
      exact ih
  | grab _ _ _ _ _ ih => exact ih

theorem Progress.declared {r : System × Option (List CuResource)} (h : Progress Q svc s r) :
    r.1.declared = s.declared := by
  rcases h with ⟨done, -, h⟩ | ⟨s₁, done, -, h, heq⟩
  · exact h.declared
  · rw [heq]
    exact (releaseInOrder_declared done s₁).trans h.declared

theorem SameDevice.declared {r : System × Option (Nat × List CuResource)}
    (h : SameDevice Q svc s r) : r.1.declared = s.declared := by
  induction h with
  | failed => rfl
  | found h => exact h.declared
  | retry h _ ih => exact ih.trans ((releaseInOrder_declared _ _).trans h.declared)

theorem allocOnSameDevice_declared (props : List CuProperty) (usedDevIds devIds : List Nat)
    (s : System) : (allocOnSameDevice props usedDevIds devIds s).1.declared = s.declared :=
  (allocOnSameDevice_spec (Q := fun _ => True) props (fun _ _ => trivial) usedDevIds devIds s
    rfl).declared

theorem resAllocCuList_declared (s : System) (listProp : CuListProperty) :
    (s.resAllocCuList listProp).1.declared = s.declared := by
  rw [resAllocCuList]
  split
  · rfl
  split
  · have hsame := allocOnSameDevice_declared listProp.items [] (List.range s.numDevice) s
    split
    · rename_i heq
      rw [heq] at hsame
      exact hsame
    · rename_i heq
      rw [heq] at hsame
      exact hsame
  · have hitems := (allocItems_progress (Q := fun _ => True) listProp.items (fun _ _ => trivial) s
      [] rfl .start).declared
    split
    · rename_i heq
      rw [heq] at hitems
      exact hitems
    · rename_i heq
      rw [heq] at hitems
      exact hitems

theorem allocItemV2_declared (props : List CuPropertyV2) (index : Nat) (propV2 : CuPropertyV2)
    (rest : List Nat) (st : ListV2State) :
    (allocItemV2 props index propV2 rest st).1.s.declared = st.s.declared := by
  rw [allocItemV2]
  simp only
  split
  · have hone := (st.s.resAllocCu_allocates (cuPropertyCopyFromV2 propV2) false).declared
    split <;> (rename_i heq; rw [heq] at hone; exact hone)
  split
  · have hone := (st.s.resAllocCuFromDev_allocates (i32 propV2.deviceIndex)
      (cuPropertyCopyFromV2 propV2) false).declared
    split <;> (rename_i heq; rw [heq] at hone; exact hone)
  split
  · split
    · rename_i heq
      simp only [ListV2State.recordAll_s]
      exact (congrArg (fun r => r.1.declared) heq).symm.trans
        (allocOnSameDevice_declared _ _ _ _)
    · rename_i heq
      exact (congrArg (fun r => r.1.declared) heq).symm.trans
        (allocOnSameDevice_declared _ _ _ _)
  · rfl

theorem allocItemsV2_declared (props : List CuPropertyV2) (indices : List Nat) (st : ListV2State) :
    (allocItemsV2 props indices st).1.s.declared = st.s.declared := by
  induction indices generalizing st with
  | nil => rfl
  | cons index rest ih =>
      rw [allocItemsV2]
      split
      · exact ih st
      split
      · exact ih st
      rename_i propV2 _
      have hone := allocItemV2_declared props index propV2 rest
        { st with itemFlags := markHandled st.itemFlags [index] }
      simp only
      split
      · rename_i heq
        rw [heq] at hone
        exact (ih _).trans hone
      · rename_i heq
        rw [heq] at hone
        exact hone

theorem releaseAllocated_declared (flags : List ItemFlag) (results : List CuResource)
    (s : System) : (releaseAllocated flags results s).declared = s.declared := by
  induction flags generalizing results s with
  | nil => rfl
  | cons flag flags ih =>
      cases results with
      | nil => rfl
      | cons res results =>
          rw [releaseAllocated, ih]
          split
          · exact resReleaseCu_declared s res
          · rfl

theorem resAllocCuListV2_declared (s : System) (listProp : CuListPropertyV2) :
    (s.resAllocCuListV2 listProp).1.declared = s.declared := by
  rw [resAllocCuListV2]
  split
  · rfl
  simp only
  split
  · rename_i heq
    exact (congrArg (fun r => r.1.s.declared) heq).symm.trans (allocItemsV2_declared _ _ _)
  · rename_i heq
    exact (releaseAllocated_declared _ _ _).trans
      ((congrArg (fun r => r.1.s.declared) heq).symm.trans (allocItemsV2_declared _ _ _))

/-! ### The results of a list -/

theorem resAllocCuList_cuNum {s : System} {listProp : CuListProperty} {listRes : CuListResource}
    (h : (s.resAllocCuList listProp).2 = .ok listRes) : listRes.cuNum ≤ maxListCuNum := by
  have hitems : listProp.items.length ≤ listProp.cuNum.toNat := List.length_take_le _ _
  rw [resAllocCuList] at h
  split at h
  · simp at h
  split at h
  · split at h
    · rename_i heq
      have hlength := allocOnSameDevice_length heq
      simp only [Except.ok.injEq] at h
      rw [← h, listResource]
      simp only
      omega
    · simp at h
  · split at h
    · rename_i heq
      have hlength := allocItems_length heq
      rw [List.length_nil, Nat.zero_add] at hlength
      simp only [Except.ok.injEq] at h
      rw [← h, listResource]
      simp only
      omega
    · simp at h

theorem recordAll_length (st : ListV2State) (indices : List Nat) (results : List CuResource) :
    (st.recordAll indices results).cuResources.length = st.cuResources.length := by
  induction indices generalizing st results with
  | nil => rfl
  | cons index indices ih =>
      cases results with
      | nil => rfl
      | cons res results =>
          rw [ListV2State.recordAll, ih]
          exact List.length_set

theorem allocItemV2_length (props : List CuPropertyV2) (index : Nat) (propV2 : CuPropertyV2)
    (rest : List Nat) (st : ListV2State) :
    (allocItemV2 props index propV2 rest st).1.cuResources.length = st.cuResources.length := by
  rw [allocItemV2]
  simp only
  split
  · split
    · exact List.length_set
    · rfl
  split
  · split
    · exact List.length_set
    · rfl
  split
  · split
    · exact recordAll_length _ _ _
    · rfl
  · rfl

theorem allocItemsV2_length (props : List CuPropertyV2) (indices : List Nat) (st : ListV2State) :
    (allocItemsV2 props indices st).1.cuResources.length = st.cuResources.length := by
  induction indices generalizing st with
  | nil => rfl
  | cons index rest ih =>
      rw [allocItemsV2]
      split
      · exact ih st
      split
      · exact ih st
      rename_i propV2 _
      have hone := allocItemV2_length props index propV2 rest
        { st with itemFlags := markHandled st.itemFlags [index] }
      simp only
      split
      · rename_i heq
        rw [heq] at hone
        exact (ih _).trans hone
      · rename_i heq
        rw [heq] at hone
        exact hone

theorem resAllocCuListV2_cuNum {s : System} {listProp : CuListPropertyV2}
    {listRes : CuListResource} (h : (s.resAllocCuListV2 listProp).2 = .ok listRes) :
    listRes.cuNum ≤ maxListCuNumV2 := by
  have hitems : listProp.items.length ≤ listProp.cuNum.toNat := List.length_take_le _ _
  rw [resAllocCuListV2] at h
  split at h
  · simp at h
  simp only at h
  split at h
  · rename_i st heq
    have hlength : st.cuResources.length = listProp.items.length := by
      refine (congrArg (fun r => r.1.cuResources.length) heq).symm.trans ?_
      rw [allocItemsV2_length, List.length_map]
    simp only [Except.ok.injEq] at h
    rw [← h, listResource]
    simp only
    omega
  · simp at h

end System

namespace Indexed

variable {s : System} {α β : Type}

/-! ## The optional lists of a group -/

/-- A call that returns, leaves the declared groups and gives a result of the kind `P`. -/
def Keeps (P : Except XrmError β → Prop) (p : SystemProcedure (Except XrmError β)) : Prop :=
  ∀ s, Ends p s fun r s' => s'.declared = s.declared ∧ P r

theorem keeps_of_eq {P : Except XrmError β → Prop} {p : SystemProcedure (Except XrmError β)}
    {f : System → System × Except XrmError β} (heq : ∀ s, p s = .ok (f s).2 (f s).1)
    (hdeclared : ∀ s, (f s).1.declared = s.declared) (hP : ∀ s, P (f s).2) : Keeps P p :=
  fun s => ⟨_, _, heq s, hdeclared s, hP s⟩

theorem ends_tryOptions {P : Except XrmError β → Prop} (herror : ∀ e, P (.error e)) {cuRoom : Nat}
    {attempt : α → SystemProcedure (Except XrmError β)}
    (hkeeps : ∀ option, Keeps P (attempt option))
    {cuListIdx : Nat} {options : List (Int × α)}
    (h : cuListIdx + options.length ≤ maxUdfCuGroupOptionListNum)
    (hnums : ∀ option ∈ options, option.1 ≤ cuRoom) (e : XrmError) (s : System) :
    Ends (tryOptions cuRoom attempt cuListIdx options e) s
      fun r s' => s'.declared = s.declared ∧ P r := by
  induction options generalizing cuListIdx e s with
  | nil => exact ⟨_, _, rfl, rfl, herror e⟩
  | cons option options ih =>
      rw [List.length_cons] at h
      obtain ⟨r, s', hr, hdeclared, hP⟩ := hkeeps option.2 s
      rw [Ends, tryOptions, bind_ok (useEntry_eq (by omega) (by omega)),
        bind_ok (useBelow_eq (hnums option (by simp))), bind_ok hr]
      cases r with
      | ok b => exact ⟨_, _, rfl, hdeclared, hP⟩
      | error e =>
          refine (ih (by omega) (fun o ho => hnums o (by simp [ho])) e s').mono ?_
          rintro r₁ s₁ ⟨hdeclared₁, hP₁⟩
          exact ⟨hdeclared₁.trans hdeclared, hP₁⟩

/-- The counts of a table of groups with their optional lists. -/
def countsOf (groups : List (String × List (Int × α))) : List (String × List Int) :=
  groups.map fun group => (group.1, group.2.map Prod.fst)

theorem ends_onGroup {P : Except XrmError β → Prop} (herror : ∀ e, P (.error e))
    {room cuRoom : Nat} {groups : System → List (String × List (Int × α))}
    (hfit : TableFits room cuRoom (countsOf (groups s))) (name : String)
    {attempt : α → SystemProcedure (Except XrmError β)}
    (hkeeps : ∀ option, Keeps P (attempt option)) :
    Ends (onGroup room cuRoom groups name attempt) s
      fun r s' => s'.declared = s.declared ∧ P r := by
  have hlen := hfit.length
  rw [countsOf, List.length_map] at hlen
  rw [onGroup, ends_bind, ends_get, ends_bind]
  refine ⟨_, _, findGroup_eq name _ (by rw [List.length_map]; omega), ?_⟩
  cases hfind : ((groups s).map Prod.fst).findIdx? fun x => x == name with
  | none => exact ⟨_, _, rfl, rfl, herror _⟩
  | some i =>
      obtain ⟨hi, -, -⟩ := List.findIdx?_eq_some_iff_getElem.mp hfind
      rw [List.length_map] at hi
      have hoptions := hfit.options _ (List.mem_map.mpr ⟨_, List.getElem_mem hi, rfl⟩)
      simp only [Option.map_some, Nat.add_zero, List.getElem?_eq_getElem hi, Option.getD_some]
      refine ends_tryOptions herror hkeeps ?_ (fun option hoption => ?_) _ s
      · simpa using hoptions.1
      · exact hoptions.2 _ (List.mem_map.mpr ⟨option, hoption, rfl⟩)

theorem countsOf_groupOptions (s : System) : countsOf (groupOptions s) = groupCounts s := by
  simp [countsOf, groupOptions, groupCounts, optionNums, Function.comp_def]

theorem countsOf_groupOptionsV2 (s : System) :
    countsOf (groupOptionsV2 s) = groupCountsV2 s := by
  simp [countsOf, groupOptionsV2, groupCountsV2, optionNumsV2, Function.comp_def]

end Indexed

namespace System

/-- The counts of the daemon's own tables are within their arrays. -/
structure InRoom (s : System) : Prop extends s.Fits where
  groups : Indexed.TableFits maxUdfCuGroupNum maxListCuNum (Indexed.groupCounts s)
  groupsV2 : Indexed.TableFits maxUdfCuGroupNumV2 maxListCuNumV2 (Indexed.groupCountsV2 s)

end System

namespace Indexed

variable {s s' : System} {α β : Type}

/-- The tables of the groups fit. -/
def GroupsFit (s : System) : Prop :=
  TableFits maxUdfCuGroupNum maxListCuNum (groupCounts s) ∧
    TableFits maxUdfCuGroupNumV2 maxListCuNumV2 (groupCountsV2 s)

theorem GroupsFit.congr (h : GroupsFit s) (hdeclared : s'.declared = s.declared) :
    GroupsFit s' := by
  obtain ⟨hgroups, hgroupsV2⟩ := Prod.mk.inj hdeclared
  rw [GroupsFit, groupCounts, groupCountsV2, hgroups, hgroupsV2]
  exact h

theorem ends_resAllocCuGroup (hs : GroupsFit s) (groupProp : CuGroupProperty) :
    Ends (resAllocCuGroup groupProp) s fun r s' => s'.declared = s.declared ∧
      ∀ listRes, r = .ok listRes → listRes.cuNum ≤ maxGroupCuNum := by
  refine ends_onGroup (by simp) (by rw [countsOf_groupOptions]; exact hs.1) _ fun option => ?_
  exact keeps_of_eq (fun _ => resAllocCuList_eq _) (fun _ => System.resAllocCuList_declared _ _)
    fun _ _ => System.resAllocCuList_cuNum

theorem ends_resAllocCuGroupV2 (hs : GroupsFit s) (groupProp : CuGroupProperty) :
    Ends (resAllocCuGroupV2 groupProp) s fun r s' => s'.declared = s.declared ∧
      ∀ listRes, r = .ok listRes → listRes.cuNum ≤ maxGroupCuNumV2 := by
  refine ends_onGroup (by simp) (by rw [countsOf_groupOptionsV2]; exact hs.2) _ fun option => ?_
  exact keeps_of_eq (fun _ => resAllocCuListV2_eq _)
    (fun _ => System.resAllocCuListV2_declared _ _) fun _ _ => System.resAllocCuListV2_cuNum

theorem ends_resIsCuGroupExisting (hs : GroupsFit s) (name : String) :
    Ends (resIsCuGroupExisting name) s fun _ s' => s'.declared = s.declared ∧ True := by
  refine ends_onGroup (by simp) (by rw [countsOf_groupOptions]; exact hs.1) _ fun option s => ?_
  rw [ends_bind]
  refine ⟨_, _, resIsCuListExisting_eq _, ?_⟩
  beta_reduce
  rw [ends_ite]
  split <;> exact ⟨_, _, rfl, rfl, trivial⟩

/-! ## The loops of the commands -/

theorem inside_answerList {room : Nat} {p : SystemProcedure (Except XrmError CuListResource)}
    {Q : System → Prop}
    (h : Ends p s fun r s' => Q s' ∧ ∀ listRes, r = .ok listRes → listRes.cuNum ≤ room) :
    Inside (answerList room p) s := by
  obtain ⟨r, s', hr, -, hcuNum⟩ := h
  rw [answerList, inside_bind_ok hr]
  cases r with
  | ok listRes => exact inside_useBelow (hcuNum listRes rfl)
  | error e => exact inside_pure _

/-- A call that stays inside in every state it leads to may be repeated. -/
theorem inside_repeatCall {taken : β → Option α} {p : SystemProcedure β} {I : System → Prop}
    (hp : ∀ s, I s → Inside p s) (hI : ∀ s b s', I s → p s = .ok b s' → I s') (fuel : Nat)
    (done : List α) (hs : I s) : Inside (repeatCall taken p fuel done) s := by
  induction fuel generalizing s done with
  | zero => exact inside_stuck
  | succ fuel ih =>
      rw [repeatCall, inside_bind]
      refine ⟨hp s hs, fun b s' hb => ?_⟩
      cases taken b with
      | some a => exact ih _ (hI s b s' hs hb)
      | none => exact inside_pure _

theorem inside_available_iff {taken : β → Option α} {p : SystemProcedure β}
    {giveBack : System → α → System} (fuel : Nat) :
    Inside (available fuel taken p giveBack) s ↔ Inside (repeatCall taken p fuel []) s := by
  rw [available, inside_bind]
  exact ⟨fun h => h.1, fun h => ⟨h, fun _ _ _ => inside_modify _⟩⟩

theorem inside_available {taken : β → Option α} {p : SystemProcedure β}
    {giveBack : System → α → System} {I : System → Prop}
    (hp : ∀ s, I s → Ends p s fun _ s' => I s') (hs : I s) (fuel : Nat) :
    Inside (available fuel taken p giveBack) s := by
  refine (inside_available_iff fuel).mpr
    (inside_repeatCall (fun s h => (hp s h).inside) (fun s b s' h hb => ?_) fuel [] hs)
  obtain ⟨b₁, s₁, hb₁, hI⟩ := hp s h
  rw [hb, Outcome.ok.injEq] at hb₁
  exact hb₁.2 ▸ hI

/-! ## Pools -/

theorem resReserveDevice_eq (p deviceId c : Nat) (pid : Int) :
    resReserveDevice p deviceId c pid s =
      match s.resReserveDevice p deviceId c pid with
      | .ok s' => .ok (.ok ()) s'
      | .error e => .ok (.error e) s := by
  rw [resReserveDevice, bind_ok (guarded_eq fun hnot => useEntry_eq (by omega) (by omega)), call_eq]
  cases s.resReserveDevice p deviceId c pid <;> rfl

theorem reserveDeviceIds_eq {i : Nat} (p c : Nat) (pid : Int) (deviceIds : List Nat)
    (h : i + deviceIds.length ≤ maxXilinxDevices) :
    reserveDeviceIds p c pid i deviceIds s =
      .ok (s.reserveDeviceIds p c pid deviceIds).2 (s.reserveDeviceIds p c pid deviceIds).1 := by
  induction deviceIds generalizing s i with
  | nil => rfl
  | cons deviceId deviceIds ih =>
      rw [List.length_cons] at h
      rw [reserveDeviceIds, bind_ok (useEntry_eq (by omega) (by omega)), System.reserveDeviceIds]
      have hone := resReserveDevice_eq (s := s) p deviceId c pid
      cases hret : s.resReserveDevice p deviceId c pid with
      | ok s' =>
          rw [hret] at hone
          rw [bind_ok hone]
          exact ih (by omega)
      | error e =>
          rw [hret] at hone
          rw [bind_ok hone]
          rfl

/-- The report has room for the copies, or it is not reached that one too many is reserved. -/
theorem inside_reserveCopiesV2 (p : Nat) (listProp : CuListPropertyV2) (n : Nat) {i : Nat}
    (hi : i ≤ maxPoolCuListNum) (infos : List (List Nat)) :
    Inside (reserveCopiesV2 p listProp n i) s ↔
      i + n ≤ maxPoolCuListNum ∨
        (s.reserveCopiesV2 p listProp (maxPoolCuListNum - i) infos).2 = none := by
  induction n generalizing s i infos with
  | zero => exact iff_of_true (inside_pure _) (.inl hi)
  | succ n ih =>
      rw [reserveCopiesV2, inside_useEntry_bind]
      rcases Nat.eq_or_lt_of_le hi with rfl | hlt
      · rw [Nat.sub_self, System.reserveCopiesV2]
        simp
      obtain ⟨k, hk⟩ : ∃ k, maxPoolCuListNum - i = k + 1 :=
        ⟨maxPoolCuListNum - i - 1, by omega⟩
      rw [inside_bind_ok (resReserveCuListV2_eq p listProp), hk, System.reserveCopiesV2]
      cases hret : s.resReserveCuListV2 p listProp with
      | mk s' r =>
          cases r with
          | ok deviceIds =>
              have hrest := ih (s := s') (i := i + 1) hlt (infos ++ [deviceIds])
              rw [show maxPoolCuListNum - (i + 1) = k by omega] at hrest
              simp only [hrest]
              constructor
              · rintro ⟨-, hle | hnone⟩
                · exact .inl (by omega)
                · exact .inr hnone
              · rintro (hle | hnone)
                · exact ⟨by omega, .inl (by omega)⟩
                · exact ⟨by omega, .inr hnone⟩
          | error e => simp [hlt]

theorem le_of_reserveCopiesV2 {p : Nat} {listProp : CuListPropertyV2} {n i : Nat}
    (hi : i ≤ maxPoolCuListNum) (h : reserveCopiesV2 p listProp n i s = .ok true s') :
    i + n ≤ maxPoolCuListNum := by
  induction n generalizing s i with
  | zero => exact hi
  | succ n ih =>
      rw [reserveCopiesV2] at h
      obtain ⟨_, s₁, huse, h⟩ := ok_of_bind h
      have hlt : i < maxPoolCuListNum := by
        by_contra hge
        have hnot : ¬ ((0 : Int) ≤ i ∧ (i : Int) < maxPoolCuListNum) := by omega
        simp only [useEntry, if_neg hnot] at huse
        cases huse
      obtain ⟨r, s₂, -, h⟩ := ok_of_bind h
      cases r with
      | ok deviceIds =>
          have := ih hlt h
          omega
      | error e => cases h

/-- The request for as many copies of the list as the report has room for. -/
abbrev cutPool (poolProp : CuPoolPropertyV2) : CuPoolPropertyV2 :=
  { poolProp with cuListNum := maxPoolCuListNum }

theorem length_take_deviceIds (prop : DeviceIdListPropertyV2)
    (h : prop.deviceNum ≤ maxXilinxDevices) :
    0 + (prop.deviceIds.take prop.deviceNum.toNat).length ≤ maxXilinxDevices := by
  have := List.length_take_le prop.deviceNum.toNat prop.deviceIds
  omega

theorem inside_resReserveCuPoolV2 (poolProp : CuPoolPropertyV2) :
    Inside (resReserveCuPoolV2 poolProp) s ↔
      poolProp.cuListNum ≤ maxPoolCuListNum ∨
        (s.resReserveCuPoolV2 (cutPool poolProp)).2.1 = 0 := by
  rw [resReserveCuPoolV2, System.resReserveCuPoolV2]
  simp only
  by_cases hnum : poolProp.cuListNum < 0
  · rw [if_pos (.inl hnum)]
    exact iff_of_true (inside_pure _) (.inl (by omega))
  by_cases hother : poolProp.xclbinNum < 0 ∨ poolProp.deviceIdListProp.deviceNum < 0 ∨
      poolProp.deviceIdListProp.deviceNum > maxXilinxDevices
  · rw [if_pos (.inr hother), if_pos (.inr hother)]
    exact iff_of_true (inside_pure _) (.inr rfl)
  have hasked : ¬ (poolProp.cuListNum < 0 ∨ poolProp.xclbinNum < 0 ∨
      poolProp.deviceIdListProp.deviceNum < 0 ∨
      poolProp.deviceIdListProp.deviceNum > maxXilinxDevices) := by
    rintro (h | h)
    · exact hnum h
    · exact hother h
  have hcut : ¬ ((maxPoolCuListNum : Int) < 0 ∨ poolProp.xclbinNum < 0 ∨
      poolProp.deviceIdListProp.deviceNum < 0 ∨
      poolProp.deviceIdListProp.deviceNum > maxXilinxDevices) := by
    rintro (h | h)
    · omega
    · exact hother h
  rw [if_neg hasked, if_neg hcut]
  by_cases hcuNum : poolProp.cuListProp.cuNum < 0 ∨
      poolProp.cuListProp.cuNum > maxListCuNumV2
  · rw [if_pos hcuNum, if_pos hcuNum]
    exact iff_of_true (inside_pure _) (.inr rfl)
  rw [if_neg hcuNum, if_neg hcuNum, inside_get_bind,
    inside_bind_ok (reserveDeviceIds_eq _ _ _ _ (length_take_deviceIds _ (by omega)))]
  have hleaves : ∀ (s : System) (f : System → System × Nat), Inside (call f) s := by
    simp [Inside, call_eq]
  cases hdevices : s.reserveDeviceIds s.getNextReservePoolId poolProp.clientId
      poolProp.clientProcessId (poolProp.deviceIdListProp.deviceIds.take
        poolProp.deviceIdListProp.deviceNum.toNat) with
  | mk s₁ reserved =>
  cases reserved with
  | false => exact iff_of_true (hleaves _ _) (.inr rfl)
  | true =>
  simp only [if_true]
  rw [inside_bind_ok (call_eq _)]
  cases hxclbins : s₁.reserveXclbins s.getNextReservePoolId poolProp.xclbinUuid poolProp.clientId
      poolProp.clientProcessId poolProp.xclbinNum.toNat [] with
  | mk s₂ xclbins =>
  cases xclbins with
  | none => exact iff_of_true (hleaves _ _) (.inr rfl)
  | some xclbinDevIds =>
  simp only
  rw [inside_bind, inside_reserveCopiesV2 _ _ _ (Nat.zero_le _) [], Nat.zero_add, Nat.sub_zero,
    Int.toNat_natCast]
  constructor
  · rintro ⟨hle | hnone, -⟩
    · exact .inl (by omega)
    · right
      cases hcopies : s₂.reserveCopiesV2 s.getNextReservePoolId poolProp.cuListProp
          maxPoolCuListNum [] with
      | mk s₃ infos =>
        rw [hcopies] at hnone
        simp only at hnone
        rw [hnone]
        rfl
  · intro h
    refine ⟨?_, fun b s' _ => ?_⟩
    · rcases h with hle | hzero
      · exact .inl (by omega)
      · right
        cases hcopies : s₂.reserveCopiesV2 s.getNextReservePoolId poolProp.cuListProp
            maxPoolCuListNum [] with
        | mk s₃ infos =>
          rw [hcopies] at hzero
          cases infos with
          | none => rfl
          | some infos => exact absurd hzero (nextId_ne_zero _)
    · cases b <;> exact hleaves _ _

/-- A pool that has been reserved has no more copies than the report has room for. -/
theorem le_of_resReserveCuPoolV2 {poolProp : CuPoolPropertyV2} {p : Nat} (hp : p ≠ 0)
    (h : resReserveCuPoolV2 poolProp s = .ok p s') :
    poolProp.cuListNum ≤ maxPoolCuListNum ∧ poolProp.cuListProp.cuNum ≤ maxListCuNumV2 := by
  have habandon : ∀ (s₁ s₂ : System) (q : Nat),
      call (fun s : System => s.abandonPool q) s₁ ≠ .ok p s₂ := by
    intro s₁ s₂ q hcall
    rw [call_eq, Outcome.ok.injEq] at hcall
    exact hp hcall.1.symm
  rw [resReserveCuPoolV2] at h
  simp only at h
  split at h
  · cases h
    exact absurd rfl hp
  split at h
  · cases h
    exact absurd rfl hp
  rename_i hcuNum
  obtain ⟨s₁, s₂, -, h⟩ := ok_of_bind h
  obtain ⟨reserved, s₃, -, h⟩ := ok_of_bind h
  cases reserved with
  | false => exact absurd h (habandon _ _ _)
  | true =>
  obtain ⟨xclbins, s₄, -, h⟩ := ok_of_bind h
  cases xclbins with
  | none => exact absurd h (habandon _ _ _)
  | some xclbinDevIds =>
  obtain ⟨copied, s₅, hcopies, h⟩ := ok_of_bind h
  cases copied with
  | false => exact absurd h (habandon _ _ _)
  | true =>
      have hle := le_of_reserveCopiesV2 (Nat.zero_le _) hcopies
      exact ⟨by omega, by omega⟩

theorem useInfor_eq {cuNum : Int} (hcuNum : cuNum ≤ maxListCuNumV2) {n i : Nat}
    (h : i + n ≤ maxPoolCuListNum) : useInfor cuNum n i s = .ok () s := by
  induction n generalizing i with
  | zero => rfl
  | succ n ih =>
      rw [useInfor, bind_ok (useEntry_eq (by omega) (by omega)), bind_ok (useBelow_eq hcuNum)]
      exact ih (by omega)

theorem inside_answerPool (poolProp : CuPoolPropertyV2) :
    Inside (answerPool poolProp) s ↔ Inside (resReserveCuPoolV2 poolProp) s := by
  rw [answerPool, inside_bind]
  refine ⟨fun h => h.1, fun h => ⟨h, fun p s' hp => ?_⟩⟩
  split
  · rename_i hpos
    obtain ⟨hnum, hcuNum⟩ := le_of_resReserveCuPoolV2 (by omega) hp
    simp [Inside, useInfor_eq (s := s') hcuNum (n := poolProp.cuListNum.toNat) (i := 0) (by omega)]
  · exact inside_pure _

/-- A query fails at once where its report would be overrun and the first reservation stops short of
that. -/
theorem inside_availablePools (poolProp : CuPoolPropertyV2) {giveBack : System → Nat → System} :
    (∀ fuel, Inside (available fuel takenPool (resReserveCuPoolV2 poolProp) giveBack) s) ↔
      Inside (resReserveCuPoolV2 poolProp) s := by
  simp only [inside_available_iff]
  constructor
  · intro h
    have hone := h 1
    rw [repeatCall, inside_bind] at hone
    exact hone.1
  · intro h fuel
    by_cases hnum : poolProp.cuListNum ≤ maxPoolCuListNum
    · exact inside_repeatCall (I := fun _ => True)
        (fun s _ => (inside_resReserveCuPoolV2 poolProp).mpr (.inl hnum)) (fun _ _ _ _ _ => trivial)
        fuel [] trivial
    · cases fuel with
      | zero => exact inside_stuck
      | succ fuel =>
          rw [repeatCall, inside_bind]
          refine ⟨h, fun p s' hp => ?_⟩
          have hzero : p = 0 := by
            by_contra hne
            exact hnum (le_of_resReserveCuPoolV2 hne hp).1
          rw [hzero, takenPool, if_pos rfl]
          exact inside_pure _

end Indexed

end Xrm
