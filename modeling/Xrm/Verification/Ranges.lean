import Xrm.Verification.Indices

/-! # Ranges of the requests

The condition on a request under which its command stays inside the fixed arrays.
-/

namespace Xrm

open Procedure

section Reading

variable {conv : Conversion} {t : DataTree} {σ : Type} {d : DaemonState σ}

/-! ## Reading a request -/

theorem demandAll_eq {ds : List Demand} (h : AllMet conv t ds) :
    demandAll conv t ds d = .ok () d := by
  obtain ⟨a, d', heq, rfl⟩ : Ends (demandAll conv t ds) d fun _ d' => d' = d :=
    (ends_demandAll conv t ds).mpr ⟨h, rfl⟩
  exact heq

theorem allMet_of_demandAll {ds : List Demand} {a : Unit} {d' : DaemonState σ}
    (h : demandAll conv t ds d = .ok a d') : AllMet conv t ds ∧ d = d' :=
  (ends_demandAll (Q := fun _ d₁ => d₁ = d') conv t ds).mp ⟨a, d', h, rfl⟩

/-- What follows a reading matters where the reading comes to its end. -/
theorem inside_demandAll_bind {β : Type} {ds : List Demand} (p : DaemonProcedure σ β) :
    Inside (demandAll conv t ds >>= fun _ => p) d ↔
      Inside (demandAll conv t ds) d ∧ (AllMet conv t ds → Inside p d) := by
  rw [inside_bind]
  refine and_congr_right fun _ => ⟨fun h hmet => h () d (demandAll_eq hmet), fun h a d' hd => ?_⟩
  obtain ⟨hmet, rfl⟩ := allMet_of_demandAll hd
  exact h hmet

theorem demandAll_append (ds ds' : List Demand) :
    (demandAll conv t (ds ++ ds') : DaemonProcedure σ Unit) =
      demandAll conv t ds >>= fun _ => demandAll conv t ds' := by
  funext d
  induction ds generalizing d with
  | nil => rfl
  | cons x ds ih =>
      change Procedure.bind (demand conv t x) (fun _ => demandAll conv t (ds ++ ds')) d =
        Procedure.bind (Procedure.bind (demand conv t x) fun _ => demandAll conv t ds)
          (fun _ => demandAll conv t ds') d
      unfold Procedure.bind
      cases demand conv t x d with
      | ok a d' => exact ih d'
      | exception d' => rfl
      | overflow d' => rfl
      | stuck d' => rfl

theorem inside_demandAll_append (ds ds' : List Demand) :
    Inside (demandAll conv t (ds ++ ds')) d ↔
      Inside (demandAll conv t ds) d ∧ (AllMet conv t ds → Inside (demandAll conv t ds') d) := by
  rw [demandAll_append, inside_demandAll_bind]

theorem allMet_append {ds ds' : List Demand} :
    AllMet conv t (ds ++ ds') ↔ AllMet conv t ds ∧ AllMet conv t ds' := by
  simp only [AllMet, List.mem_append, or_imp, forall_and]

@[simp]
theorem inside_demand_value (path : List String) (ty : ValueType) :
    Inside (demand conv t (.value path ty)) d := by
  cases ty with
  | text =>
      rw [demand, inside_bind]
      exact ⟨inside_require _, fun _ _ _ => inside_pure _⟩
  | int ty =>
      rw [demand, inside_bind]
      exact ⟨inside_require _, fun _ _ _ => inside_pure _⟩

theorem inside_demand_slot {i room : Nat} :
    Inside (demand conv t (.slot i room)) d ↔ i < room := by
  rw [demand, inside_ite]
  split <;> simp_all

theorem inside_demandAll_cons (x : Demand) (ds : List Demand) :
    Inside (demandAll conv t (x :: ds)) d ↔
      Inside (demand conv t x) d ∧ (x.Met conv t → Inside (demandAll conv t ds) d) := by
  rw [demandAll, inside_bind]
  refine and_congr_right fun _ => ⟨fun h hmet => ?_, fun h a d' hd => ?_⟩
  · obtain ⟨a, d', heq, rfl⟩ : Ends (demand conv t x) d fun _ d' => d' = d :=
      (ends_demand conv t x).mpr ⟨hmet, rfl⟩
    exact h a d' heq
  · obtain ⟨hmet, rfl⟩ := (ends_demand (Q := fun _ d₁ => d₁ = d') conv t x).mp ⟨a, d', hd, rfl⟩
    exact h hmet

/-! ### The fields of one entry -/

/-- The request gives the values of the fields under `dir`, their names followed by `suffix`. -/
def Given (conv : Conversion) (t : DataTree) (dir : List String) (suffix : String)
    (fs : List Field) : Prop :=
  ∀ name ty, Field.value name ty ∈ fs → (Demand.value (dir ++ [name ++ suffix]) ty).Met conv t

/-- The fields that are read before an entry is used. -/
def beforeStore (fs : List Field) : List Field := fs.takeWhile (· ≠ .store)

theorem given_cons_value {dir : List String} {suffix name : String} {ty : ValueType}
    {fs : List Field} : Given conv t dir suffix (.value name ty :: fs) ↔
      (Demand.value (dir ++ [name ++ suffix]) ty).Met conv t ∧ Given conv t dir suffix fs := by
  constructor
  · exact fun h => ⟨h name ty (by simp), fun n u hmem => h n u (by simp [hmem])⟩
  · rintro ⟨hone, hrest⟩ n u hmem
    rcases List.mem_cons.mp hmem with heq | hmem
    · cases heq
      exact hone
    · exact hrest n u hmem

theorem given_cons_store {dir : List String} {suffix : String} {fs : List Field} :
    Given conv t dir suffix (.store :: fs) ↔ Given conv t dir suffix fs := by
  simp [Given]

/-- The fields of entry `i` are met if they are given and the entry is inside its array. -/
theorem allMet_fields {dir : List String} {suffix : String} {i room : Nat} {fs : List Field}
    (hstore : Field.store ∈ fs) : AllMet conv t (fs.map (Field.demand dir suffix i room)) ↔
      Given conv t dir suffix fs ∧ i < room := by
  have hall : ∀ fs : List Field, AllMet conv t (fs.map (Field.demand dir suffix i room)) ↔
      Given conv t dir suffix fs ∧ (Field.store ∈ fs → i < room) := by
    intro fs
    induction fs with
    | nil => simp [AllMet, Given]
    | cons f fs ih =>
        rw [List.map_cons, AllMet, List.forall_mem_cons]
        cases f with
        | value name ty =>
            rw [given_cons_value, and_assoc]
            refine and_congr_right fun _ => ?_
            simpa [AllMet] using ih
        | store =>
            rw [given_cons_store]
            change i < room ∧ AllMet conv t _ ↔ _
            rw [ih]
            simp only [List.mem_cons, true_or, forall_const]
            exact ⟨fun h => ⟨h.2.1, h.1⟩, fun h => ⟨h.2, h.1, fun _ => h.2⟩⟩
  rw [hall]
  exact and_congr_right fun _ => ⟨fun h => h hstore, fun h _ => h⟩

/-- Reading the fields of entry `i` uses the entry where the fields before it are given. -/
theorem inside_fields {dir : List String} {suffix : String} {i room : Nat} {fs : List Field}
    (hstore : Field.store ∈ fs) :
    Inside (demandAll conv t (fs.map (Field.demand dir suffix i room))) d ↔
      (Given conv t dir suffix (beforeStore fs) → i < room) := by
  induction fs with
  | nil => simp at hstore
  | cons f fs ih =>
      rw [List.map_cons, inside_demandAll_cons]
      cases f with
      | value name ty =>
          have hbefore : beforeStore (.value name ty :: fs) = .value name ty :: beforeStore fs := by
            simp [beforeStore]
          rw [hbefore, given_cons_value]
          have hrest := ih (by simpa using hstore)
          simp only [Field.demand, inside_demand_value, true_and, hrest, and_imp]
      | store =>
          have hbefore : beforeStore (.store :: fs) = [] := by simp [beforeStore]
          simp only [hbefore, Field.demand, inside_demand_slot]
          constructor
          · exact fun h _ => h.1
          · intro h
            have hlt : i < room := h (by simp [Given])
            refine ⟨hlt, fun _ => ?_⟩
            -- the entry is inside its array whatever else is read
            have hinside : ∀ fs : List Field,
                Inside (demandAll conv t (fs.map (Field.demand dir suffix i room))) d := by
              intro fs
              induction fs with
              | nil => exact inside_pure _
              | cons f fs ih =>
                  rw [List.map_cons, inside_demandAll_cons]
                  refine ⟨?_, fun _ => ih⟩
                  cases f with
                  | value name ty => exact inside_demand_value _ _
                  | store => exact inside_demand_slot.mpr hlt
            exact hinside fs

/-! ### Loops over entries -/

/-- A loop of readings: each round matters where the rounds before it come to their end. -/
theorem inside_rounds (g : Nat → List Demand) (n : Nat) :
    Inside (demandAll conv t ((List.range n).flatMap g)) d ↔
      ∀ i < n, (∀ j < i, AllMet conv t (g j)) → Inside (demandAll conv t (g i)) d := by
  induction n with
  | zero => exact iff_of_true (inside_pure _) fun i hi => absurd hi (Nat.not_lt_zero i)
  | succ n ih =>
      have hmet : AllMet conv t ((List.range n).flatMap g) ↔ ∀ j < n, AllMet conv t (g j) := by
        simp only [AllMet, List.mem_flatMap, List.mem_range, forall_exists_index, and_imp]
        exact ⟨fun h j hj x hx => h x j hj hx, fun h x j hj hx => h j hj x hx⟩
      rw [List.range_succ, List.flatMap_append, inside_demandAll_append, ih, hmet,
        List.flatMap_cons, List.flatMap_nil, List.append_nil]
      constructor
      · rintro ⟨hbefore, hlast⟩ i hi hgiven
        rcases Nat.lt_succ_iff_lt_or_eq.mp hi with hlt | rfl
        · exact hbefore i hlt hgiven
        · exact hlast hgiven
      · exact fun h => ⟨fun i hi => h i (by omega), h n (by omega)⟩

/-- The entries that the request counts fit an array with room for `room` of them, or the request
leaves out a value before the first that does not. -/
def EntriesFit (conv : Conversion) (t : DataTree) (count dir : List String) (room : Nat)
    (fs : List Field) : Prop :=
  rounds count conv t ≤ room ∨ (∃ i < room, ¬ Given conv t dir (toString i) fs) ∨
    ¬ Given conv t dir (toString room) (beforeStore fs)

theorem inside_entries {count dir : List String} {room : Nat} {fs : List Field}
    (hstore : Field.store ∈ fs) :
    Inside (demandAll conv t (entries count dir room fs conv t)) d ↔
      EntriesFit conv t count dir room fs := by
  rw [entries, inside_rounds]
  simp only [inside_fields hstore, allMet_fields hstore, EntriesFit]
  constructor
  · intro h
    by_contra hnot
    push Not at hnot
    obtain ⟨hlt, hgiven, hlast⟩ := hnot
    exact absurd (h room hlt (fun j hj => ⟨hgiven j hj, hj⟩) hlast) (lt_irrefl room)
  · intro h i hi hbefore hgiven
    by_contra hge
    have heq : i = room := by
      by_contra hne
      exact absurd (hbefore room (by omega)).2 (lt_irrefl room)
    subst heq
    rcases h with hle | ⟨j, hj, hnot⟩ | hnot
    · omega
    · exact hnot (hbefore j hj).1
    · exact hnot hgiven

theorem rounds_le_of_entries {count dir : List String} {room : Nat} {fs : List Field}
    (hstore : Field.store ∈ fs) (h : AllMet conv t (entries count dir room fs conv t)) :
    rounds count conv t ≤ room := by
  by_contra hlt
  have hone : AllMet conv t (fs.map (Field.demand dir (toString room) room room)) := by
    intro x hx
    refine h x (List.mem_flatMap.mpr ⟨room, List.mem_range.mpr (by omega), hx⟩)
  exact absurd ((allMet_fields hstore).mp hone).2 (lt_irrefl room)

theorem inside_params {dir : List String} {fs : List Field} (hstore : Field.store ∉ fs) :
    Inside (demandAll conv t (fields dir fs conv t)) d := by
  rw [fields]
  induction fs with
  | nil => exact inside_pure _
  | cons f fs ih =>
      simp only [List.mem_cons, not_or] at hstore
      rw [List.map_cons, inside_demandAll_cons]
      refine ⟨?_, fun _ => ih hstore.2⟩
      cases f with
      | value name ty => exact inside_demand_value _ _
      | store => exact absurd rfl hstore.1

theorem inside_inOrder_cons (r : Reads) (rs : List Reads) :
    Inside (demandAll conv t (inOrder (r :: rs) conv t)) d ↔
      Inside (demandAll conv t (r conv t)) d ∧
        (AllMet conv t (r conv t) → Inside (demandAll conv t (inOrder rs conv t)) d) := by
  rw [inOrder, List.flatMap_cons, inside_demandAll_append]
  rfl

@[simp]
theorem inside_inOrder_nil : Inside (demandAll conv t (inOrder [] conv t)) d := inside_pure _

theorem allMet_inOrder_cons {r : Reads} {rs : List Reads} :
    AllMet conv t (inOrder (r :: rs) conv t) ↔
      AllMet conv t (r conv t) ∧ AllMet conv t (inOrder rs conv t) := by
  rw [inOrder, List.flatMap_cons, allMet_append]
  rfl

/-! ### Optional lists -/

/-- The reading of optional list `cuListIdx`. -/
def optionReads (room : Nat) (head fs : List Field) (cuListIdx : Nat) : Reads := fun conv t =>
  head.map (Field.demand (optionDir cuListIdx) "" cuListIdx maxUdfCuGroupOptionListNum) ++
    entries (optionDir cuListIdx ++ ["cuNum"]) (optionDir cuListIdx) room fs conv t

theorem optionLists_eq (room : Nat) (head fs : List Field) :
    Command.optionLists room head fs conv t =
      (List.range (rounds optionNumPath conv t)).flatMap fun cuListIdx =>
        optionReads room head fs cuListIdx conv t := rfl

/-- The optional lists that the request counts fit their array, and so do the entries of each of
them, up to the first value that the request leaves out. -/
def OptionListsFit (conv : Conversion) (t : DataTree) (room : Nat) (head fs : List Field) : Prop :=
  ∀ j < rounds optionNumPath conv t,
    (∀ i < j, AllMet conv t (optionReads room head fs i conv t)) →
      (j < maxUdfCuGroupOptionListNum ∨ ¬ Given conv t (optionDir j) "" (beforeStore head)) ∧
      (j < maxUdfCuGroupOptionListNum → Given conv t (optionDir j) "" head →
        EntriesFit conv t (optionDir j ++ ["cuNum"]) (optionDir j) room fs)

theorem inside_optionLists {room : Nat} {head fs : List Field} (hhead : Field.store ∈ head)
    (hstore : Field.store ∈ fs) :
    Inside (demandAll conv t (Command.optionLists room head fs conv t)) d ↔
      OptionListsFit conv t room head fs := by
  rw [optionLists_eq, inside_rounds]
  refine forall₂_congr fun j _ => imp_congr_right fun _ => ?_
  rw [optionReads, inside_demandAll_append, inside_fields hhead, allMet_fields hhead,
    inside_entries hstore]
  refine and_congr ?_ ⟨fun h hlt hgiven => h ⟨hgiven, hlt⟩, fun h hmet => h hmet.2 hmet.1⟩
  tauto

/-- The counts of the lists that have been read are within their arrays. -/
theorem optionReads_fit {room : Nat} {head fs : List Field} (hhead : Field.store ∈ head)
    (hstore : Field.store ∈ fs) (h : AllMet conv t (Command.optionLists room head fs conv t)) :
    rounds optionNumPath conv t ≤ maxUdfCuGroupOptionListNum ∧
      ∀ j < rounds optionNumPath conv t, rounds (optionDir j ++ ["cuNum"]) conv t ≤ room := by
  rw [optionLists_eq] at h
  have hone : ∀ j < rounds optionNumPath conv t,
      AllMet conv t (optionReads room head fs j conv t) := fun j hj x hx =>
    h x (List.mem_flatMap.mpr ⟨j, List.mem_range.mpr hj, hx⟩)
  refine ⟨?_, fun j hj => ?_⟩
  · by_contra hlt
    have hover := (allMet_append.mp (hone maxUdfCuGroupOptionListNum (by omega))).1
    exact absurd ((allMet_fields hhead).mp hover).2 (lt_irrefl _)
  · exact rounds_le_of_entries hstore (allMet_append.mp (hone j hj)).2

/-! ### Lists behind their heads -/

/-- The single values that are read first, by the parts of the request they are in. -/
abbrev Heads := List (List String × List Field)

def Heads.reads (heads : Heads) : List Reads := heads.map fun head => fields head.1 head.2

theorem inside_heads {heads : Heads} (hheads : ∀ head ∈ heads, Field.store ∉ head.2)
    (rest : List Reads) : Inside (demandAll conv t (inOrder (heads.reads ++ rest) conv t)) d ↔
      (AllMet conv t (inOrder heads.reads conv t) →
        Inside (demandAll conv t (inOrder rest conv t)) d) := by
  induction heads with
  | nil => exact ⟨fun h _ => h, fun h => h (by simp [AllMet, Heads.reads, inOrder])⟩
  | cons head heads ih =>
      have hrest := ih fun x hx => hheads x (by simp [hx])
      simp only [Heads.reads, List.map_cons, List.cons_append] at hrest ⊢
      rw [inside_inOrder_cons, allMet_inOrder_cons, hrest, and_imp]
      exact ⟨fun h => h.2, fun h => ⟨inside_params (hheads head (by simp)), h⟩⟩

/-- The entries that the request counts fit their array, if the request gives the values that are
read before them. -/
def ListFits (conv : Conversion) (t : DataTree) (heads : Heads) (count dir : List String)
    (room : Nat) (fs : List Field) : Prop :=
  AllMet conv t (inOrder heads.reads conv t) → EntriesFit conv t count dir room fs

theorem inside_list {heads : Heads} (hheads : ∀ head ∈ heads, Field.store ∉ head.2)
    {count dir : List String} {room : Nat} {fs : List Field} (hstore : Field.store ∈ fs)
    (rest : List Reads) :
    Inside (demandAll conv t
        (inOrder (heads.reads ++ entries count dir room fs :: rest) conv t)) d ↔
      ListFits conv t heads count dir room fs ∧
        (AllMet conv t (inOrder heads.reads conv t) →
          AllMet conv t (entries count dir room fs conv t) →
            Inside (demandAll conv t (inOrder rest conv t)) d) := by
  rw [inside_heads hheads, inside_inOrder_cons, inside_entries hstore]
  exact ⟨fun h => ⟨fun hmet => (h hmet).1, fun hmet => (h hmet).2⟩,
    fun h hmet => ⟨h.1 hmet, h.2 hmet⟩⟩

/-- A list at the end of the request, or with single values behind it. -/
theorem inside_list_end (heads tail : Heads) (hheads : ∀ head ∈ heads, Field.store ∉ head.2)
    {count dir : List String} {room : Nat} {fs : List Field} (hstore : Field.store ∈ fs)
    (htail : ∀ head ∈ tail, Field.store ∉ head.2) :
    Inside (demandAll conv t
        (inOrder (heads.reads ++ entries count dir room fs :: tail.reads) conv t)) d ↔
      ListFits conv t heads count dir room fs := by
  have hrest : Inside (demandAll conv t (inOrder tail.reads conv t)) d := by
    have h : Inside (demandAll conv t (inOrder (tail.reads ++ []) conv t)) d :=
      (inside_heads htail []).mpr fun _ => inside_inOrder_nil
    rwa [List.append_nil] at h
  rw [inside_list hheads hstore]
  exact and_iff_left fun _ _ => hrest

theorem rounds_le_of_list (heads : Heads) {count dir : List String} {room : Nat}
    {fs : List Field} {rest : List Reads} (hstore : Field.store ∈ fs)
    (h : AllMet conv t (inOrder (heads.reads ++ entries count dir room fs :: rest) conv t)) :
    rounds count conv t ≤ room := by
  have hlist : AllMet conv t (entries count dir room fs conv t) := fun x hx =>
    h x (List.mem_flatMap.mpr ⟨_, List.mem_append_right _ (List.mem_cons_self ..), hx⟩)
  exact rounds_le_of_entries hstore hlist

end Reading

namespace IndexingCommand

variable {conv : Conversion} {t : DataTree} {fuel : Nat} {d : DaemonState System} {s : System}

/-! ## The commands -/

open Xrm.Field in
/-- What the commands read before and in the entries of their lists. -/
def listHeads : Heads :=
  [(parameters, [int32 "cuNum", int32 "sameDevice", uint64 "clientId", int32 "clientProcessId"])]

open Xrm.Field in
def listHeadsV2 : Heads :=
  [(parameters, [int32 "cuNum", uint64 "clientId", int32 "clientProcessId"])]

open Xrm.Field in
def nameHeads : Heads := [(parameters, [int32 "cuNum", int32 "sameDevice"])]

open Xrm.Field in
def recordHeads : Heads := [(parameters, [int32 "cuNum", uint64 "clientId"])]

open Xrm.Field in
def poolHeads : Heads :=
  [(parameters, [int32 "cuListNum"]), (Command.cuListDir, [int32 "cuNum", int32 "sameDevice"]),
    (parameters, [uint64 "clientId", int32 "clientProcessId"])]

open Xrm.Field in
def queryHeads : Heads :=
  [(parameters, [int32 "cuListNum", int32 "cuNum", uint64 "clientId", int32 "clientProcessId",
    int32 "sameDevice"])]

open Xrm.Field in
def poolHeadsV2 : Heads :=
  [(parameters, [int32 "cuListNum"]), (Command.cuListDir, [int32 "cuNum"]),
    (Command.deviceIdListDir, [int32 "deviceNum"]),
    (parameters, [uint64 "clientId", int32 "clientProcessId"])]

open Xrm.Field in
def xclbinTail : Heads := [(parameters, [text "xclbinUuidStr", int32 "xclbinNum"])]

open Xrm.Field in
def nameFields : List Field := [text "kernelName", text "kernelAlias", store]

open Xrm.Field Command in
def listFields : List Field := entryFields ++ [uint64 "poolId", store]

open Xrm.Field Command in
def listFieldsV2 : List Field := entryFieldsV2 ++ [uint64 "poolId", store]

open Xrm.Field Command in
def poolFields : List Field := entryFields ++ [store]

open Xrm.Field Command in
def poolFieldsV2 : List Field := entryFieldsV2 ++ [store]

open Xrm.Field in
def recordFields : List Field :=
  [int32 "deviceId", int32 "cuId", int32 "channelId", int32 "cuType", uint64 "allocServiceId",
    int32 "channelLoadUnified", int32 "channelLoadOriginal", uint64 "poolId", store]

open Xrm.Field in
def deviceFields : List Field := [uint64 "deviceIds", store]

open Xrm.Field in
def optionHead : List Field := [int32 "sameDevice", store, int32 "cuNum"]

open Xrm.Field in
def optionHeadV2 : List Field := [int32 "cuNum", store]

open Xrm.Field in
def optionFields : List Field :=
  [text "cuName", store, int32 "devExcl", int32 "requestLoadUnified", int32 "requestLoadOriginal"]

open Xrm.Field in
def optionFieldsV2 : List Field :=
  [text "cuName", store, int32 "devExcl", int64 "deviceInfo", int64 "memoryInfo",
    int32 "requestLoadUnified", int32 "requestLoadOriginal"]

open Xrm.Field in
def groupHeads : Heads := [(parameters, [text "udfCuGroupName", int32 "optionUdfCuListNum"])]

/-- The count of a list under `dir`. -/
def cuNumPath (dir : List String) : List String := dir ++ ["cuNum"]

def deviceNumPath : List String := Command.deviceIdListDir ++ ["deviceNum"]

/-- The request gives every value that the command reads. -/
def Complete (conv : Conversion) (t : DataTree) (c : IndexingCommand) : Prop :=
  AllMet conv t (c.handler.reads conv t)

/-- Both arrays of a pool request of the second version have room for what it counts; the entries of
its list are under `dir`. -/
def PoolFits (conv : Conversion) (t : DataTree) (dir : List String) : Prop :=
  ListFits conv t poolHeadsV2 (cuNumPath Command.cuListDir) dir maxListCuNumV2 poolFieldsV2 ∧
    (AllMet conv t (inOrder poolHeadsV2.reads conv t) →
      AllMet conv t (entries (cuNumPath Command.cuListDir) dir maxListCuNumV2 poolFieldsV2 conv t) →
        EntriesFit conv t deviceNumPath Command.deviceIdListDir maxXilinxDevices deviceFields)

/-- The report of the pool has room for the copies of its list, or so many as it has room for are
not reserved either. -/
def ReportFits (s : System) (poolProp : CuPoolPropertyV2) : Prop :=
  poolProp.cuListNum ≤ maxPoolCuListNum ∨
    (s.resReserveCuPoolV2 (Indexed.cutPool poolProp)).2.1 = 0

/-- The optional lists of a declaration fit their arrays, if the request gives the values that are
read before them. -/
def GroupFits (conv : Conversion) (t : DataTree) (room : Nat) (head fs : List Field) : Prop :=
  AllMet conv t (inOrder groupHeads.reads conv t) → OptionListsFit conv t room head fs

/-- The request keeps the command inside the arrays. -/
def InRange (conv : Conversion) (t : DataTree) (s : System) : IndexingCommand → Prop
  | isCuListExisting =>
      ListFits conv t nameHeads (cuNumPath parameters) parameters maxListCuNum nameFields
  | cuListAlloc | checkCuListAvailableNum =>
      ListFits conv t listHeads (cuNumPath parameters) parameters maxListCuNum listFields
  | cuListAllocV2 | checkCuListAvailableNumV2 =>
      ListFits conv t listHeadsV2 (cuNumPath parameters) parameters maxListCuNumV2 listFieldsV2
  | cuListRelease =>
      ListFits conv t recordHeads (cuNumPath parameters) parameters maxListCuNum recordFields ∧
        (cuListRelease.Complete conv t → ¬ s.Overruns (readRecords conv t).cuResources)
  | cuGroupRelease =>
      ListFits conv t recordHeads (cuNumPath parameters) parameters maxGroupCuNum recordFields ∧
        (cuGroupRelease.Complete conv t → ¬ s.Overruns (readRecords conv t).cuResources)
  | cuListReleaseV2 =>
      ListFits conv t recordHeads (cuNumPath parameters) parameters maxListCuNumV2 recordFields ∧
        (cuListReleaseV2.Complete conv t → ¬ s.Overruns (readRecords conv t).cuResources)
  | cuGroupReleaseV2 =>
      ListFits conv t recordHeads (cuNumPath parameters) parameters maxGroupCuNumV2 recordFields ∧
        (cuGroupReleaseV2.Complete conv t → ¬ s.Overruns (readRecords conv t).cuResources)
  | cuRelease => cuRelease.Complete conv t → ¬ s.Overrun (readRecord conv t "")
  | cuReleaseV2 => cuReleaseV2.Complete conv t → ¬ s.Overrun (readRecord conv t "")
  | cuCheckStatus => cuCheckStatus.Complete conv t → ¬ s.Misread (readRecord conv t "")
  | udfCuGroupDeclare =>
      GroupFits conv t maxListCuNum optionHead optionFields ∧
        (udfCuGroupDeclare.Complete conv t →
          (readGroup conv t).udfCuGroupName ∈ Indexed.groupNames s ∨
            s.udfCuGroups.length < maxUdfCuGroupNum)
  | udfCuGroupDeclareV2 =>
      GroupFits conv t maxListCuNumV2 optionHeadV2 optionFieldsV2 ∧
        (udfCuGroupDeclareV2.Complete conv t →
          (readGroupV2 conv t).udfCuGroupName ∈ Indexed.groupNamesV2 s ∨
            s.udfCuGroupsV2.length < maxUdfCuGroupNumV2)
  | cuPoolReserve =>
      ListFits conv t poolHeads (cuNumPath Command.cuListDir) Command.cuListDir maxListCuNum
        poolFields
  | checkCuPoolAvailableNum =>
      ListFits conv t queryHeads (cuNumPath parameters) parameters maxListCuNum poolFields
  | cuPoolReserveV2 =>
      PoolFits conv t Command.cuListDir ∧
        (cuPoolReserveV2.Complete conv t → ReportFits s (poolOfV2 conv t))
  | checkCuPoolAvailableNumV2 =>
      PoolFits conv t parameters ∧
        (checkCuPoolAvailableNumV2.Complete conv t → ReportFits s (queryPoolV2 conv t))
  | isCuGroupExisting | cuAllocFromDev | cuAllocLeastUsedFromDev | udfCuGroupUndeclare
  | udfCuGroupUndeclareV2 | cuGroupAlloc | cuGroupAllocV2 | checkCuGroupAvailableNum
  | checkCuGroupAvailableNumV2 => True

/-- What a command asks of the values that it has read, once it has read all of them. -/
def Within (conv : Conversion) (t : DataTree) (s : System) : IndexingCommand → Prop
  | cuListRelease | cuListReleaseV2 | cuGroupRelease | cuGroupReleaseV2 =>
      ¬ s.Overruns (readRecords conv t).cuResources
  | cuRelease | cuReleaseV2 => ¬ s.Overrun (readRecord conv t "")
  | cuCheckStatus => ¬ s.Misread (readRecord conv t "")
  | udfCuGroupDeclare =>
      (readGroup conv t).udfCuGroupName ∈ Indexed.groupNames s ∨
        s.udfCuGroups.length < maxUdfCuGroupNum
  | udfCuGroupDeclareV2 =>
      (readGroupV2 conv t).udfCuGroupName ∈ Indexed.groupNamesV2 s ∨
        s.udfCuGroupsV2.length < maxUdfCuGroupNumV2
  | cuPoolReserveV2 => ReportFits s (poolOfV2 conv t)
  | checkCuPoolAvailableNumV2 => ReportFits s (queryPoolV2 conv t)
  | _ => True

theorem inside_onSystem {α : Type} (p : Procedure System α) :
    Inside (onSystem p) d ↔ Inside p d.system := by
  unfold Inside onSystem
  cases p d.system <;> simp

theorem inside_processCmd {c : IndexingCommand} : Inside (c.processCmd conv fuel t) d ↔
    Inside (demandAll conv t (c.handler.reads conv t)) d ∧
      (c.Complete conv t → Inside (c.body conv fuel t) d.system) := by
  rw [processCmd, inside_demandAll_bind, inside_onSystem]
  rfl

theorem inside_discard {α : Type} {p : Procedure System α} :
    Inside (p >>= fun _ => pure ()) s ↔ Inside p s := by
  rw [inside_bind]
  exact ⟨fun h => h.1, fun h => ⟨h, fun _ _ _ => inside_pure _⟩⟩

/-- A command that reads no list. -/
theorem inside_params_reads {dir : List String} {fs : List Field} (hstore : Field.store ∉ fs) :
    Inside (demandAll conv t (fields dir fs conv t)) d ↔ True :=
  iff_of_true (inside_params hstore) trivial

/-! ### Releases -/

/-- The records of a complete release are as many as its count says. -/
theorem inside_records {maxNum : Nat} (hs : s.Fits)
    (h : rounds (cuNumPath parameters) conv t ≤ maxNum) :
    Inside (Indexed.releaseList maxNum (readRecords conv t) >>= fun _ => pure ()) s ↔
      ¬ s.Overruns (readRecords conv t).cuResources := by
  have hlength : (readRecords conv t).cuResources.length = (readRecords conv t).cuNum.toNat := by
    simp [readRecords, rounds, valueOf]
  have hroom : (readRecords conv t).cuNum.toNat ≤ maxNum := h
  rw [inside_discard, Indexed.inside_releaseList hs, ← hlength, List.take_length]
  constructor
  · intro hinside hover
    by_cases hneg : (readRecords conv t).cuNum < 0
    · have hnil : (readRecords conv t).cuResources = [] :=
        List.eq_nil_of_length_eq_zero (by omega)
      rw [hnil] at hover
      exact hover
    · exact hinside (by omega) (by omega) hover
  · exact fun h _ _ => h

/-! ### Declarations -/

/-- The counts of the optional lists that have been read. -/
def optionCounts (conv : Conversion) (t : DataTree) : List Int :=
  (List.range (rounds optionNumPath conv t)).map fun j =>
    valueOf conv t .int32 (cuNumPath (optionDir j))

theorem optionNums_readGroup : Indexed.optionNums (readGroup conv t) = optionCounts conv t := by
  have hlength : ((List.range (rounds optionNumPath conv t)).map (readOption conv t)).length =
      (readGroup conv t).optionUdfCuListNum.toNat := by
    simp [readGroup, rounds, valueOf]
  rw [Indexed.optionNums, ← hlength]
  change ((((List.range _).map _).take _).map _) = _
  rw [List.take_length, List.map_map]
  rfl

theorem optionNumsV2_readGroupV2 :
    Indexed.optionNumsV2 (readGroupV2 conv t) = optionCounts conv t := by
  have hlength : ((List.range (rounds optionNumPath conv t)).map (readOptionV2 conv t)).length =
      (readGroupV2 conv t).optionUdfCuListNum.toNat := by
    simp [readGroupV2, rounds, valueOf]
  rw [Indexed.optionNumsV2, ← hlength]
  change ((((List.range _).map _).take _).map _) = _
  rw [List.take_length, List.map_map]
  rfl

theorem optionCounts_fit {room : Nat} {head fs : List Field} (hhead : Field.store ∈ head)
    (hstore : Field.store ∈ fs) (h : AllMet conv t (Command.optionLists room head fs conv t)) :
    Indexed.OptionsFit room (optionCounts conv t) := by
  obtain ⟨hoptions, hcus⟩ := optionReads_fit hhead hstore h
  constructor
  · simpa [optionCounts] using hoptions
  · intro cuNum hmem
    obtain ⟨j, hj, rfl⟩ := List.mem_map.mp hmem
    have hle : (valueOf conv t .int32 (cuNumPath (optionDir j))).toNat ≤ room :=
      hcus j (List.mem_range.mp hj)
    omega

/-- The reads of a declaration. -/
theorem inside_group {room : Nat} {head fs : List Field} (hhead : Field.store ∈ head)
    (hstore : Field.store ∈ fs) :
    Inside (demandAll conv t
        (inOrder (groupHeads.reads ++ [Command.optionLists room head fs]) conv t)) d ↔
      GroupFits conv t room head fs := by
  rw [inside_heads (by decide)]
  refine imp_congr_right fun _ => ?_
  rw [inside_inOrder_cons, inside_optionLists hhead hstore]
  exact and_iff_left fun _ => inside_inOrder_nil

/-- The lists of a complete declaration fit their arrays. -/
theorem readGroup_fits (h : udfCuGroupDeclare.Complete conv t) :
    Indexed.OptionsFit maxListCuNum (Indexed.optionNums (readGroup conv t)) := by
  have hlists : AllMet conv t (Command.optionLists maxListCuNum optionHead optionFields conv t) :=
    fun x hx =>
      h x (List.mem_flatMap.mpr ⟨_, List.mem_cons_of_mem _ (List.mem_singleton_self _), hx⟩)
  rw [optionNums_readGroup]
  exact optionCounts_fit (by decide) (by decide) hlists

theorem readGroupV2_fits (h : udfCuGroupDeclareV2.Complete conv t) :
    Indexed.OptionsFit maxListCuNumV2 (Indexed.optionNumsV2 (readGroupV2 conv t)) := by
  have hlists :
      AllMet conv t (Command.optionLists maxListCuNumV2 optionHeadV2 optionFieldsV2 conv t) :=
    fun x hx =>
      h x (List.mem_flatMap.mpr ⟨_, List.mem_cons_of_mem _ (List.mem_singleton_self _), hx⟩)
  rw [optionNumsV2_readGroupV2]
  exact optionCounts_fit (by decide) (by decide) hlists

/-- The request names a declared group, or the table has room for one more. -/
theorem inside_declare (hs : s.InRoom) (h : udfCuGroupDeclare.Complete conv t) :
    Inside (Indexed.resUdfCuGroupDeclare (readGroup conv t)) s ↔
      (readGroup conv t).udfCuGroupName ∈ Indexed.groupNames s ∨
        s.udfCuGroups.length < maxUdfCuGroupNum := by
  have hlength : (Indexed.groupNames s).length = s.udfCuGroups.length := List.length_map ..
  have hroom : s.udfCuGroups.length ≤ maxUdfCuGroupNum := by
    simpa [Indexed.groupCounts] using hs.groups.length
  rw [← hlength] at hroom ⊢
  exact Indexed.inside_declareGroup hroom (readGroup_fits h) _

theorem inside_declareV2 (hs : s.InRoom) (h : udfCuGroupDeclareV2.Complete conv t) :
    Inside (Indexed.resUdfCuGroupDeclareV2 (readGroupV2 conv t)) s ↔
      (readGroupV2 conv t).udfCuGroupName ∈ Indexed.groupNamesV2 s ∨
        s.udfCuGroupsV2.length < maxUdfCuGroupNumV2 := by
  have hlength : (Indexed.groupNamesV2 s).length = s.udfCuGroupsV2.length := List.length_map ..
  have hroom : s.udfCuGroupsV2.length ≤ maxUdfCuGroupNumV2 := by
    simpa [Indexed.groupCountsV2] using hs.groupsV2.length
  rw [← hlength] at hroom ⊢
  exact Indexed.inside_declareGroup hroom (readGroupV2_fits h) _

/-! ### Allocations and queries -/

/-- An allocation of a list, or of a group, ends inside the arrays. -/
theorem inside_allocList (listProp : CuListProperty) :
    Inside (Indexed.answerList maxListCuNum (Indexed.resAllocCuList listProp)) s :=
  Indexed.inside_answerList (Q := fun _ => True)
    ⟨_, _, Indexed.resAllocCuList_eq listProp, trivial, fun _ h => System.resAllocCuList_cuNum h⟩

theorem inside_allocListV2 (listProp : CuListPropertyV2) :
    Inside (Indexed.answerList maxListCuNumV2 (Indexed.resAllocCuListV2 listProp)) s :=
  Indexed.inside_answerList (Q := fun _ => True)
    ⟨_, _, Indexed.resAllocCuListV2_eq listProp, trivial,
      fun _ h => System.resAllocCuListV2_cuNum h⟩

/-- A query whose calls end in every state. -/
theorem inside_query {α β : Type} {taken : β → Option α} {p : Indexed.SystemProcedure β}
    (f : System → System × β) {giveBack : System → α → System}
    (hp : ∀ s, p s = .ok (f s).2 (f s).1) (fuel : Nat) :
    Inside (Indexed.available fuel taken p giveBack) s :=
  Indexed.inside_available (I := fun _ => True) (fun s _ => ⟨_, _, hp s, trivial⟩) trivial fuel

/-- A query whose calls leave the declared groups. -/
theorem inside_groupQuery {α β : Type} {taken : β → Option α} {p : Indexed.SystemProcedure β}
    {P : β → Prop} {giveBack : System → α → System}
    (hp : ∀ s, Indexed.GroupsFit s → Ends p s fun r s' => s'.declared = s.declared ∧ P r)
    (hs : Indexed.GroupsFit s) (fuel : Nat) :
    Inside (Indexed.available fuel taken p giveBack) s :=
  Indexed.inside_available
    (fun s hfit => (hp s hfit).mono fun _ _ h => hfit.congr h.1) hs fuel

/-- The reads of a pool request of the second version. -/
theorem inside_pool (dir : List String) :
    Inside (demandAll conv t (Command.poolReadsV2 dir conv t)) d ↔ PoolFits conv t dir := by
  have hreads : Command.poolReadsV2 dir = inOrder (poolHeadsV2.reads ++
      entries (cuNumPath Command.cuListDir) dir maxListCuNumV2 poolFieldsV2 ::
        (Heads.reads [] ++
          entries deviceNumPath Command.deviceIdListDir maxXilinxDevices deviceFields ::
            Heads.reads xclbinTail)) := rfl
  rw [hreads, inside_list (by decide) (by decide)]
  refine and_congr_right fun _ => imp_congr_right fun _ => imp_congr_right fun _ => ?_
  rw [inside_list_end [] xclbinTail (by simp) (by decide) (by decide)]
  exact ⟨fun h => h (by simp [AllMet, Heads.reads, inOrder]), fun h _ => h⟩

/-- The command stays inside the arrays with what it has read. -/
theorem inside_body (hs : s.InRoom) {c : IndexingCommand} (hc : c.Complete conv t) :
    (∀ fuel, Inside (c.body conv fuel t) s) ↔ c.Within conv t s := by
  have hfits : s.Fits := hs.toFits
  have hgroups : Indexed.GroupsFit s := ⟨hs.groups, hs.groupsV2⟩
  cases c with
  | isCuListExisting =>
      refine iff_of_true (fun fuel => inside_discard.mpr ?_) trivial
      exact Ends.inside (Q := fun _ _ => True) ⟨_, _, Indexed.resIsCuListExisting_eq _, trivial⟩
  | isCuGroupExisting =>
      refine iff_of_true (fun fuel => inside_discard.mpr ?_) trivial
      exact (Indexed.ends_resIsCuGroupExisting hgroups _).inside
  | cuAllocFromDev =>
      exact iff_of_true (fun fuel => inside_discard.mpr (Indexed.inside_onDevice hfits _ _)) trivial
  | cuAllocLeastUsedFromDev =>
      exact iff_of_true (fun fuel => inside_discard.mpr (Indexed.inside_onDevice hfits _ _)) trivial
  | cuRelease =>
      exact (forall_const Nat).trans
        (inside_discard.trans (Indexed.inside_resReleaseCu hfits (readRecord conv t "")))
  | cuReleaseV2 =>
      exact (forall_const Nat).trans
        (inside_discard.trans (Indexed.inside_resReleaseCu hfits (readRecord conv t "")))
  | cuCheckStatus =>
      exact (forall_const Nat).trans
        (inside_discard.trans (Indexed.inside_checkCuStat hfits (readRecord conv t "")))
  | cuListAlloc => exact iff_of_true (fun fuel => inside_allocList _) trivial
  | cuListAllocV2 => exact iff_of_true (fun fuel => inside_allocListV2 _) trivial
  | cuListRelease =>
      exact (forall_const Nat).trans
        (inside_records hfits (rounds_le_of_list recordHeads (by decide) hc))
  | cuListReleaseV2 =>
      exact (forall_const Nat).trans
        (inside_records hfits (rounds_le_of_list recordHeads (by decide) hc))
  | cuGroupRelease =>
      exact (forall_const Nat).trans
        (inside_records hfits (rounds_le_of_list recordHeads (by decide) hc))
  | cuGroupReleaseV2 =>
      exact (forall_const Nat).trans
        (inside_records hfits (rounds_le_of_list recordHeads (by decide) hc))
  | checkCuListAvailableNum =>
      exact iff_of_true (inside_query (fun s => s.resAllocCuList _) fun s =>
        Indexed.resAllocCuList_eq _) trivial
  | checkCuListAvailableNumV2 =>
      exact iff_of_true (inside_query (fun s => s.resAllocCuListV2 _) fun s =>
        Indexed.resAllocCuListV2_eq _) trivial
  | udfCuGroupDeclare =>
      exact (forall_const Nat).trans (inside_discard.trans (inside_declare hs hc))
  | udfCuGroupDeclareV2 =>
      exact (forall_const Nat).trans (inside_discard.trans (inside_declareV2 hs hc))
  | udfCuGroupUndeclare =>
      exact iff_of_true
        (fun fuel => inside_discard.mpr (Indexed.inside_undeclareGroup hs.groups _ _)) trivial
  | udfCuGroupUndeclareV2 =>
      exact iff_of_true
        (fun fuel => inside_discard.mpr (Indexed.inside_undeclareGroup hs.groupsV2 _ _)) trivial
  | cuGroupAlloc =>
      exact iff_of_true
        (fun fuel => Indexed.inside_answerList (Indexed.ends_resAllocCuGroup hgroups _)) trivial
  | cuGroupAllocV2 =>
      exact iff_of_true
        (fun fuel => Indexed.inside_answerList (Indexed.ends_resAllocCuGroupV2 hgroups _)) trivial
  | checkCuGroupAvailableNum =>
      exact iff_of_true
        (inside_groupQuery (fun s hfit => Indexed.ends_resAllocCuGroup hfit _) hgroups) trivial
  | checkCuGroupAvailableNumV2 =>
      exact iff_of_true
        (inside_groupQuery (fun s hfit => Indexed.ends_resAllocCuGroupV2 hfit _) hgroups) trivial
  | cuPoolReserve =>
      refine iff_of_true (fun fuel => inside_discard.mpr ?_) trivial
      exact Ends.inside (Q := fun _ _ => True) ⟨_, _, Indexed.resReserveCuPool_eq _, trivial⟩
  | checkCuPoolAvailableNum =>
      exact iff_of_true (inside_query (fun s => s.resReserveCuPool _) fun s =>
        Indexed.resReserveCuPool_eq _) trivial
  | cuPoolReserveV2 =>
      exact (forall_const Nat).trans
        ((Indexed.inside_answerPool _).trans (Indexed.inside_resReserveCuPoolV2 _))
  | checkCuPoolAvailableNumV2 =>
      exact (Indexed.inside_availablePools _).trans (Indexed.inside_resReserveCuPoolV2 _)

/-- Both parts of a command, whatever bounds the loops. -/
theorem inside_command (hs : d.system.InRoom) {c : IndexingCommand} {P : Prop}
    (hreads : Inside (demandAll conv t (c.handler.reads conv t)) d ↔ P) :
    (∀ fuel, Inside (c.processCmd conv fuel t) d) ↔
      P ∧ (c.Complete conv t → c.Within conv t d.system) := by
  rw [← hreads]
  simp only [inside_processCmd]
  exact ⟨fun h => ⟨(h 0).1, fun hc => (inside_body hs hc).mp fun fuel => (h fuel).2 hc⟩,
    fun h fuel => ⟨h.1, fun hc => (inside_body hs hc).mpr (h.2 hc) fuel⟩⟩

/-- A command without a condition on what it has read. -/
theorem inside_command_of_within (hs : d.system.InRoom) {c : IndexingCommand} {P : Prop}
    (hreads : Inside (demandAll conv t (c.handler.reads conv t)) d ↔ P)
    (hwithin : c.Complete conv t → c.Within conv t d.system) :
    (∀ fuel, Inside (c.processCmd conv fuel t) d) ↔ P :=
  (inside_command hs hreads).trans (and_iff_left hwithin)

theorem indices_in_range (conv : Conversion) (t : DataTree) (c : IndexingCommand)
    {d : DaemonState System} (hs : d.system.InRoom) :
    (∀ fuel, Inside (c.processCmd conv fuel t) d) ↔ c.InRange conv t d.system := by
  cases c with
  | isCuListExisting =>
      refine inside_command_of_within hs ?_ fun _ => trivial
      exact inside_list_end nameHeads [] (by decide) (by decide) (by simp)
  | isCuGroupExisting | cuAllocFromDev | cuAllocLeastUsedFromDev | udfCuGroupUndeclare
  | udfCuGroupUndeclareV2 | cuGroupAlloc | cuGroupAllocV2 | checkCuGroupAvailableNum
  | checkCuGroupAvailableNumV2 =>
      exact inside_command_of_within hs (inside_params_reads (by decide)) fun _ => trivial
  | cuRelease =>
      exact (inside_command hs (inside_params_reads (by decide))).trans (and_iff_right trivial)
  | cuReleaseV2 =>
      exact (inside_command hs (inside_params_reads (by decide))).trans (and_iff_right trivial)
  | cuCheckStatus =>
      exact (inside_command hs (inside_params_reads (by decide))).trans (and_iff_right trivial)
  | cuListAlloc =>
      refine inside_command_of_within hs ?_ fun _ => trivial
      exact inside_list_end listHeads [] (by decide) (by decide) (by simp)
  | checkCuListAvailableNum =>
      refine inside_command_of_within hs ?_ fun _ => trivial
      exact inside_list_end listHeads [] (by decide) (by decide) (by simp)
  | cuListAllocV2 =>
      refine inside_command_of_within hs ?_ fun _ => trivial
      exact inside_list_end listHeadsV2 [] (by decide) (by decide) (by simp)
  | checkCuListAvailableNumV2 =>
      refine inside_command_of_within hs ?_ fun _ => trivial
      exact inside_list_end listHeadsV2 [] (by decide) (by decide) (by simp)
  | cuListRelease =>
      exact inside_command hs
        (inside_list_end recordHeads [] (by decide) (by decide) (by simp))
  | cuListReleaseV2 =>
      exact inside_command hs
        (inside_list_end recordHeads [] (by decide) (by decide) (by simp))
  | cuGroupRelease =>
      exact inside_command hs
        (inside_list_end recordHeads [] (by decide) (by decide) (by simp))
  | cuGroupReleaseV2 =>
      exact inside_command hs
        (inside_list_end recordHeads [] (by decide) (by decide) (by simp))
  | udfCuGroupDeclare => exact inside_command hs (inside_group (by decide) (by decide))
  | udfCuGroupDeclareV2 => exact inside_command hs (inside_group (by decide) (by decide))
  | cuPoolReserve =>
      refine inside_command_of_within hs ?_ fun _ => trivial
      exact inside_list_end poolHeads xclbinTail (by decide) (by decide) (by decide)
  | checkCuPoolAvailableNum =>
      refine inside_command_of_within hs ?_ fun _ => trivial
      exact inside_list_end queryHeads xclbinTail (by decide) (by decide) (by decide)
  | cuPoolReserveV2 => exact inside_command hs (inside_pool _)
  | checkCuPoolAvailableNumV2 => exact inside_command hs (inside_pool _)

/-- A request with the parameters given. -/
def requestOf (params : List (String × String)) : DataTree :=
  .branch [("request", .branch [("parameters",
    .branch (params.map fun param => (param.1, .leaf param.2)))])]

/-- A daemon that has just been started. -/
def started : DaemonState System := ⟨System.initSystem 1, false, []⟩

theorem started_inRoom : started.system.InRoom where
  devices := Nat.zero_le _
  cus := by simp [started, System.initSystem]
  groups := ⟨Nat.zero_le _, by simp [started, System.initSystem, Indexed.groupCounts]⟩
  groupsV2 := ⟨Nat.zero_le _, by simp [started, System.initSystem, Indexed.groupCountsV2]⟩

def statusRequest (cuId : String) : DataTree :=
  requestOf [("deviceId", "0"), ("cuId", cuId), ("channelId", "0"), ("cuType", "0"),
    ("allocServiceId", "0")]

theorem indices_in_range_cu_143 :
    Inside (cuCheckStatus.processCmd IntType.read 0 (statusRequest "143")) started :=
  (indices_in_range IntType.read (statusRequest "143") cuCheckStatus started_inRoom).mpr
    (fun _ => by decide) 0

/-- The status of the CU behind the last one of a device is asked of a daemon without devices: both
numbers pass the tests. -/
theorem indices_out_of_range : ¬ ∀ (conv : Conversion) (t : DataTree) (c : IndexingCommand)
    (d : DaemonState System), d.system.InRoom → ∀ fuel, Inside (c.processCmd conv fuel t) d := by
  intro hall
  have hover : cuCheckStatus.processCmd IntType.read 0 (statusRequest "144") started =
      .overflow started := rfl
  exact hall IntType.read (statusRequest "144") cuCheckStatus started started_inRoom 0 _ hover

end IndexingCommand

/-! ## Room along runs -/

namespace System

variable {s s' : System}

/-- A declaration finds room in its table, and its optional lists fit their arrays. -/
def DeclarationFits (s : System) : Op → Prop
  | .resUdfCuGroupDeclare info =>
      (info.udfCuGroupName ∈ Indexed.groupNames s ∨ s.udfCuGroups.length < maxUdfCuGroupNum) ∧
        Indexed.OptionsFit maxListCuNum (Indexed.optionNums info)
  | .resUdfCuGroupDeclareV2 info =>
      (info.udfCuGroupName ∈ Indexed.groupNamesV2 s ∨
        s.udfCuGroupsV2.length < maxUdfCuGroupNumV2) ∧
          Indexed.OptionsFit maxListCuNumV2 (Indexed.optionNumsV2 info)
  | _ => True

end System

namespace Indexed

variable {s : System}

theorem TableFits.eraseIdx {room cuRoom : Nat} {groups : List (String × List Int)}
    (h : TableFits room cuRoom groups) (i : Nat) : TableFits room cuRoom (groups.eraseIdx i) :=
  ⟨(List.length_eraseIdx_le _ _).trans h.length,
    fun group hgroup => h.options group (List.mem_of_mem_eraseIdx hgroup)⟩

theorem TableFits.append {room cuRoom : Nat} {groups : List (String × List Int)}
    (h : TableFits room cuRoom groups) {group : String × List Int} (hroom : groups.length < room)
    (hfit : OptionsFit cuRoom group.2) : TableFits room cuRoom (groups ++ [group]) := by
  refine ⟨by simp only [List.length_append, List.length_singleton]; omega, fun x hx => ?_⟩
  rcases List.mem_append.mp hx with hx | hx
  · exact h.options x hx
  · rw [List.mem_singleton.mp hx]
    exact hfit

theorem optionNums_declared (info : UdfCuGroupInformation) :
    optionNums { info with
        optionUdfCuListProps := (info.optionUdfCuListProps.take info.optionUdfCuListNum.toNat).map
          System.declaredOption } = optionNums info := by
  simp only [optionNums, ← List.map_take, List.take_take, Nat.min_self, List.map_map]
  rfl

theorem optionNumsV2_declared (info : UdfCuGroupInformationV2) :
    optionNumsV2 { info with
        optionUdfCuListProps := (info.optionUdfCuListProps.take info.optionUdfCuListNum.toNat).map
          System.declaredOptionV2 } = optionNumsV2 info := by
  simp only [optionNumsV2, ← List.map_take, List.take_take, Nat.min_self, List.map_map]
  rfl

theorem GroupsFit.declare {info : UdfCuGroupInformation} (h : GroupsFit s)
    (hfit : s.DeclarationFits (.resUdfCuGroupDeclare info)) :
    GroupsFit (s.resUdfCuGroupDeclare info).1 := by
  rw [System.resUdfCuGroupDeclare]
  split
  · exact h
  · rename_i hnew
    have hroom : s.udfCuGroups.length < maxUdfCuGroupNum := by
      refine hfit.1.resolve_left fun hmem => hnew ?_
      obtain ⟨group, hgroup, hname⟩ := List.mem_map.mp hmem
      exact List.any_eq_true.mpr ⟨group, hgroup, by simpa using hname⟩
    refine ⟨?_, h.2⟩
    simp only [groupCounts, List.map_append, List.map_cons, List.map_nil]
    refine h.1.append (by simpa [groupCounts] using hroom) ?_
    rw [optionNums_declared]
    exact hfit.2

theorem GroupsFit.declareV2 {info : UdfCuGroupInformationV2} (h : GroupsFit s)
    (hfit : s.DeclarationFits (.resUdfCuGroupDeclareV2 info)) :
    GroupsFit (s.resUdfCuGroupDeclareV2 info).1 := by
  rw [System.resUdfCuGroupDeclareV2]
  split
  · exact h
  · rename_i hnew
    have hroom : s.udfCuGroupsV2.length < maxUdfCuGroupNumV2 := by
      refine hfit.1.resolve_left fun hmem => hnew ?_
      obtain ⟨group, hgroup, hname⟩ := List.mem_map.mp hmem
      exact List.any_eq_true.mpr ⟨group, hgroup, by simpa using hname⟩
    refine ⟨h.1, ?_⟩
    simp only [groupCountsV2, List.map_append, List.map_cons, List.map_nil]
    refine h.2.append (by simpa [groupCountsV2] using hroom) ?_
    rw [optionNumsV2_declared]
    exact hfit.2

theorem GroupsFit.undeclare (h : GroupsFit s) (name : String) :
    GroupsFit (s.resUdfCuGroupUndeclare name).1 := by
  rw [System.resUdfCuGroupUndeclare]
  split
  · exact h
  · rename_i i hi
    refine ⟨?_, h.2⟩
    simp only [groupCounts, ← List.eraseIdx_map]
    exact h.1.eraseIdx i

theorem GroupsFit.undeclareV2 (h : GroupsFit s) (name : String) :
    GroupsFit (s.resUdfCuGroupUndeclareV2 name).1 := by
  rw [System.resUdfCuGroupUndeclareV2]
  split
  · exact h
  · rename_i i hi
    refine ⟨h.1, ?_⟩
    simp only [groupCountsV2, ← List.eraseIdx_map]
    exact h.2.eraseIdx i

/-- The step lemma: only a declaration that does not fit could overrun the tables. -/
theorem GroupsFit.next {op : Op} (h : GroupsFit s) (hgood : s.Good System.allRuns)
    (hok : System.StepOk System.allRuns s op) (hfit : s.DeclarationFits op) :
    GroupsFit (step s op) := by
  cases hdeclares : System.declares op with
  | false => exact h.congr (hgood.next_declared id hok hdeclares)
  | true =>
      cases op with
      | resUdfCuGroupDeclare info => exact h.declare hfit
      | resUdfCuGroupDeclareV2 info => exact h.declareV2 hfit
      | resUdfCuGroupUndeclare name => exact h.undeclare name
      | resUdfCuGroupUndeclareV2 name => exact h.undeclareV2 name
      | _ => simp [System.declares] at hdeclares

/-- A daemon with at most as many devices as its table has entries has room, if the declarations of
its run have found room. -/
theorem inRoom_of_run {limit : Nat}
    (h : Transition.Reaches step
      (fun s op => System.StepOk System.allRuns s op ∧ s.DeclarationFits op)
      (System.initSystem limit) s) (hnum : s.numDevice ≤ maxXilinxDevices) : s.InRoom := by
  have hinit : GroupsFit (System.initSystem limit) :=
    ⟨⟨Nat.zero_le _, by simp [groupCounts, System.initSystem]⟩,
      ⟨Nat.zero_le _, by simp [groupCountsV2, System.initSystem]⟩⟩
  have hgood : (System.initSystem limit).Good System.allRuns :=
    have hrun : System.Reachable System.allRuns limit (System.initSystem limit) := .refl
    hrun.good
  have hfit : s.Good System.allRuns ∧ GroupsFit s :=
    Transition.Reaches.invariant (I := fun s => s.Good System.allRuns ∧ GroupsFit s) h
      ⟨hgood, hinit⟩ fun s op hs hok => ⟨hs.1.next hok.1, hs.2.next hs.1 hok.1 hok.2⟩
  exact
    { devices := hnum
      cus := fun dev hdev => (hfit.1.recorded dev hdev).number
      groups := hfit.2.1
      groupsV2 := hfit.2.2 }

end Indexed

namespace IndexingCommand

variable {conv : Conversion} {t : DataTree} {s : System}

/-- A declaration that is in range finds room. -/
theorem declarationFits_of_inRange (h : udfCuGroupDeclare.InRange conv t s)
    (hc : udfCuGroupDeclare.Complete conv t) :
    s.DeclarationFits (.resUdfCuGroupDeclare (readGroup conv t)) :=
  ⟨h.2 hc, readGroup_fits hc⟩

theorem declarationFitsV2_of_inRange (h : udfCuGroupDeclareV2.InRange conv t s)
    (hc : udfCuGroupDeclareV2.Complete conv t) :
    s.DeclarationFits (.resUdfCuGroupDeclareV2 (readGroupV2 conv t)) :=
  ⟨h.2 hc, readGroupV2_fits hc⟩

end IndexingCommand

end Xrm
