import Xrm.Verification.Uuids

/-! # Records survive the wire -/

namespace Xrm

open PropertyTree

/-! ## Fields of the records -/

/-- The field of a record that the daemon returns: each number has its type, a name fits its
array, and the uuid is that of the loaded xclbin. -/
structure CuResource.Typed (r : CuResource) : Prop where
  xclbinFileName : r.xclbinFileName.toList.length < maxNameLen
  kernelPluginFileName : r.kernelPluginFileName.toList.length < maxNameLen
  kernelName : r.kernelName.toList.length < maxNameLen
  kernelAlias : r.kernelAlias.toList.length < maxNameLen
  instanceName : r.instanceName.toList.length < maxNameLen
  cuName : r.cuName.toList.length < maxNameLen
  uuidStr : ∃ uuid : List UInt8, uuid.length = 16 ∧ r.uuidStr = binToHexstr uuid
  deviceId : IntType.int32.Has r.deviceId
  cuId : IntType.int32.Has r.cuId
  channelId : IntType.int32.Has r.channelId
  baseAddr : IntType.uint64.Has r.baseAddr
  membankId : IntType.uint32.Has r.membankId
  membankType : IntType.uint32.Has r.membankType
  membankSize : IntType.uint64.Has r.membankSize
  membankBaseAddr : IntType.uint64.Has r.membankBaseAddr
  allocServiceId : IntType.uint64.Has r.allocServiceId
  channelLoadOriginal : IntType.int32.Has r.channelLoadOriginal
  poolId : IntType.uint64.Has r.poolId

/-- What the library's record must be for the daemon's `r`. -/
structure XrmCuResource.Holds (x : XrmCuResource) (r : CuResource) : Prop where
  xclbinFileName : x.xclbinFileName = r.xclbinFileName
  kernelPluginFileName : x.kernelPluginFileName = r.kernelPluginFileName
  kernelName : x.kernelName = r.kernelName
  kernelAlias : x.kernelAlias = r.kernelAlias
  instanceName : x.instanceName = r.instanceName
  cuName : x.cuName = r.cuName
  uuid : x.uuid.length = 16 ∧ binToHexstr x.uuid = r.uuidStr
  deviceId : x.deviceId = r.deviceId
  cuId : x.cuId = r.cuId
  channelId : x.channelId = r.channelId
  cuType : x.cuType = r.cuType.code
  baseAddr : x.baseAddr = r.baseAddr
  membankId : x.membankId = r.membankId
  membankType : x.membankType = r.membankType
  membankSize : x.membankSize = r.membankSize
  membankBaseAddr : x.membankBaseAddr = r.membankBaseAddr
  allocServiceId : x.allocServiceId = r.allocServiceId
  channelLoad : x.channelLoad = r.channelLoadOriginal
  poolId : x.poolId = r.poolId

theorem cuType_code_int32 (ty : CuType) : IntType.int32.Has ty.code := by
  cases ty <;> decide

theorem plain_of_mem {fields : List (String × String)} (names : List String)
    (h : fields.map Prod.fst = names) (hnames : ∀ name ∈ names, Plain name) :
    ∀ e ∈ fields, Plain e.1 := by
  subst h
  intro e he
  exact hnames e.1 (List.mem_map_of_mem he)

theorem plain_allocatedFields (cast : Int → Int) (r : CuResource) :
    ∀ e ∈ allocatedFields cast r, Plain e.1 :=
  plain_of_mem ["xclbinFileName", "uuidStr", "kernelPluginFileName", "kernelName",
    "instanceName", "cuName", "kernelAlias", "deviceId", "cuId", "channelId", "cuType", "baseAddr",
    "membankId", "membankType", "membankSize", "membankBaseAddr", "allocServiceId",
    "channelLoadOriginal", "poolId"] rfl (by decide)

theorem plain_reservedFields (r : CuResource) : ∀ e ∈ reservedFields r, Plain e.1 :=
  plain_of_mem ["xclbinFileName", "uuidStr", "kernelPluginFileName", "kernelName",
    "instanceName", "cuName", "kernelAlias", "deviceId", "cuId", "cuType", "baseAddr",
    "membankId", "membankType", "membankSize", "membankBaseAddr", "poolId"] rfl (by decide)

/-- The record names no channel, as in the answer to a reservation query. -/
def CuResource.Unallocated (r : CuResource) : Prop :=
  r.channelId = 0 ∧ r.allocServiceId = 0 ∧ r.channelLoadOriginal = 0

theorem u64_of_uint64 {x : Int} (h : IntType.uint64.Has x) : u64 x = x := by
  obtain ⟨hlo, hhi⟩ := h
  simp only [IntType.uint64] at hlo hhi
  unfold u64
  omega

theorem ite_none_bind {α β : Type} (p : Prop) [Decidable p] (a : α) (f : α → Option β) :
    (if p then some a else none).bind f = if p then f a else none := by
  split <;> rfl

/-! ## Reading an entry back -/

section Entry

variable {fields : CuResource → List (String × String)} {l : List CuResource} {i : Nat}
  {r : CuResource} {name : String}

theorem get_item_putResources (h : ∀ r, ∀ e ∈ fields r, Plain e.1) (hi : l[i]? = some r)
    (hname : Plain name) {text : String} (hl : (fields r).reverse.lookup name = some text) :
    (putResources fields l).get (item dataPath name i) = some text := by
  have hget : (putResources fields l).get (item dataPath name (0 + i)) = _ :=
    get_putItems hname h hi _ 0
  rwa [Nat.zero_add, hl, Option.some_or] at hget

theorem getInt_item_putResources (h : ∀ r, ∀ e ∈ fields r, Plain e.1) (hi : l[i]? = some r)
    (hname : Plain name) {x : Int} (hl : (fields r).reverse.lookup name = some x.repr)
    (ty : IntType) :
    (putResources fields l).getInt ty (item dataPath name i) = if ty.Has x then some x else none :=
  getInt_of_get (get_item_putResources h hi hname hl) ty

end Entry

/-- The library's record for `r`, when its memory fields went through `cast`. -/
def CuResource.received (cast : Int → Int) (r : CuResource) : XrmCuResource where
  xclbinFileName := strncpy r.xclbinFileName
  kernelPluginFileName := strncpy r.kernelPluginFileName
  kernelName := strncpy r.kernelName
  kernelAlias := strncpy r.kernelAlias
  instanceName := strncpy r.instanceName
  cuName := strncpy r.cuName
  uuid := hexstrToBin r.uuidStr uuidTextLen
  deviceId := r.deviceId
  cuId := r.cuId
  channelId := r.channelId
  cuType := r.cuType.code
  baseAddr := cast r.baseAddr
  membankId := cast r.membankId
  membankType := cast r.membankType
  membankSize := cast r.membankSize
  membankBaseAddr := cast r.membankBaseAddr
  allocServiceId := r.allocServiceId
  channelLoad := r.channelLoadOriginal
  poolId := u64 r.poolId

/-- The cast leaves the memory fields in the types that the library reads. -/
def CuResource.MemoryRead (cast : Int → Int) (r : CuResource) : Prop :=
  IntType.uint64.Has (cast r.baseAddr) ∧ IntType.uint32.Has (cast r.membankId) ∧
    IntType.uint32.Has (cast r.membankType) ∧ IntType.uint64.Has (cast r.membankSize) ∧
    IntType.uint64.Has (cast r.membankBaseAddr)

instance (cast : Int → Int) (r : CuResource) : Decidable (r.MemoryRead cast) := by
  unfold CuResource.MemoryRead
  infer_instance

theorem getAllocated_putResources {cast : Int → Int} {l : List CuResource} {i : Nat}
    {r : CuResource} (hi : l[i]? = some r) (ht : r.Typed) :
    getAllocated (putResources (allocatedFields cast) l) i =
      if r.MemoryRead cast ∧ IntType.int32.Has r.poolId then some (r.received cast) else none := by
  have hp := plain_allocatedFields cast
  have text : ∀ (name : String) {text : String}, Plain name →
      (allocatedFields cast r).reverse.lookup name = some text →
      (putResources (allocatedFields cast) l).get (item dataPath name i) = some text :=
    fun _ _ hname hl => get_item_putResources hp hi hname hl
  have int : ∀ (name : String) {x : Int}, Plain name →
      (allocatedFields cast r).reverse.lookup name = some x.repr → ∀ ty : IntType,
      (putResources (allocatedFields cast) l).getInt ty (item dataPath name i) =
        if ty.Has x then some x else none :=
    fun _ _ hname hl ty => getInt_item_putResources hp hi hname hl ty
  simp only [getAllocated, text "xclbinFileName" (by decide) rfl, text "uuidStr" (by decide) rfl,
    text "kernelPluginFileName" (by decide) rfl, text "kernelName" (by decide) rfl,
    text "kernelAlias" (by decide) rfl, text "instanceName" (by decide) rfl,
    text "cuName" (by decide) rfl, int "deviceId" (by decide) rfl, int "cuId" (by decide) rfl,
    int "channelId" (by decide) rfl, int "cuType" (by decide) rfl,
    int "allocServiceId" (by decide) rfl, int "channelLoadOriginal" (by decide) rfl,
    int "baseAddr" (by decide) rfl, int "membankId" (by decide) rfl,
    int "membankType" (by decide) rfl, int "membankSize" (by decide) rfl,
    int "membankBaseAddr" (by decide) rfl, int "poolId" (by decide) rfl,
    if_pos ht.deviceId, if_pos ht.cuId, if_pos ht.channelId, if_pos (cuType_code_int32 r.cuType),
    if_pos ht.allocServiceId, if_pos ht.channelLoadOriginal, Option.bind_eq_bind, Option.bind_some]
  simp only [ite_none_bind, CuResource.MemoryRead, and_assoc, ite_and]
  rfl

theorem getReserved_putResources {l : List CuResource} {i : Nat} {r : CuResource}
    (hi : l[i]? = some r) (ht : r.Typed) (hfree : r.Unallocated) :
    getReserved (putResources reservedFields l) i = some (r.received id) := by
  have text : ∀ (name : String) {text : String}, Plain name →
      (reservedFields r).reverse.lookup name = some text →
      (putResources reservedFields l).get (item dataPath name i) = some text :=
    fun _ _ hname hl => get_item_putResources plain_reservedFields hi hname hl
  have int : ∀ (name : String) {x : Int}, Plain name →
      (reservedFields r).reverse.lookup name = some x.repr → ∀ ty : IntType,
      (putResources reservedFields l).getInt ty (item dataPath name i) =
        if ty.Has x then some x else none :=
    fun _ _ hname hl ty => getInt_item_putResources plain_reservedFields hi hname hl ty
  simp only [getReserved, text "xclbinFileName" (by decide) rfl, text "uuidStr" (by decide) rfl,
    text "kernelPluginFileName" (by decide) rfl, text "kernelName" (by decide) rfl,
    text "kernelAlias" (by decide) rfl, text "instanceName" (by decide) rfl,
    text "cuName" (by decide) rfl, int "deviceId" (by decide) rfl, int "cuId" (by decide) rfl,
    int "cuType" (by decide) rfl, int "baseAddr" (by decide) rfl, int "membankId" (by decide) rfl,
    int "membankType" (by decide) rfl, int "membankSize" (by decide) rfl,
    int "membankBaseAddr" (by decide) rfl, int "poolId" (by decide) rfl, id,
    if_pos ht.deviceId, if_pos ht.cuId, if_pos (cuType_code_int32 r.cuType),
    if_pos ht.baseAddr, if_pos ht.membankId, if_pos ht.membankType, if_pos ht.membankSize,
    if_pos ht.membankBaseAddr, if_pos ht.poolId, Option.bind_eq_bind, Option.bind_some]
  rw [CuResource.received, hfree.1, hfree.2.1, hfree.2.2, u64_of_uint64 ht.poolId]
  rfl

/-! ## Which values come back -/

/-- The cast to `int32_t` gives an unsigned value back exactly when it is below `2 ^ 31`. -/
theorem i32_eq_iff {x : Int} (h : 0 ≤ x) : i32 x = x ↔ x < 2 ^ 31 := by
  unfold i32
  omega

theorem received_holds {cast : Int → Int} {r : CuResource} (ht : r.Typed) :
    (r.received cast).Holds r ↔ cast r.baseAddr = r.baseAddr ∧ cast r.membankId = r.membankId ∧
      cast r.membankType = r.membankType ∧ cast r.membankSize = r.membankSize ∧
      cast r.membankBaseAddr = r.membankBaseAddr := by
  constructor
  · intro h
    exact ⟨h.baseAddr, h.membankId, h.membankType, h.membankSize, h.membankBaseAddr⟩
  · rintro ⟨h1, h2, h3, h4, h5⟩
    obtain ⟨uuid, hlen, htext⟩ := ht.uuidStr
    have huuid : hexstrToBin r.uuidStr uuidTextLen = uuid := by
      rw [htext, hexstrToBin_binToHexstr hlen]
    exact {
      xclbinFileName := strncpy_eq ht.xclbinFileName
      kernelPluginFileName := strncpy_eq ht.kernelPluginFileName
      kernelName := strncpy_eq ht.kernelName
      kernelAlias := strncpy_eq ht.kernelAlias
      instanceName := strncpy_eq ht.instanceName
      cuName := strncpy_eq ht.cuName
      uuid := by
        change (hexstrToBin r.uuidStr uuidTextLen).length = 16 ∧
          binToHexstr (hexstrToBin r.uuidStr uuidTextLen) = r.uuidStr
        rw [huuid]
        exact ⟨hlen, htext.symm⟩
      deviceId := rfl
      cuId := rfl
      channelId := rfl
      cuType := rfl
      baseAddr := h1
      membankId := h2
      membankType := h3
      membankSize := h4
      membankBaseAddr := h5
      allocServiceId := rfl
      channelLoad := rfl
      poolId := u64_of_uint64 ht.poolId }

/-! ## Lists -/

theorem getInt_putResources_status (fields : CuResource → List (String × String))
    (l : List CuResource) :
    (putResources fields l).getInt .int32 "response.status.value" = some 0 := by
  have hget : (putResources fields l).get "response.status.value" = some (0 : Int).repr := by
    rw [putResources, get_putItems_plain (by decide), putInt, get_put, if_neg (by decide), putInt,
      get_put, if_pos rfl]
  rw [getInt_of_get hget, if_pos (by decide)]

theorem getInt_putResources_cuNum (fields : CuResource → List (String × String))
    {l : List CuResource} (h : l.length < 2 ^ 31) :
    (putResources fields l).getInt .int32 "response.data.cuNum" = some (l.length : Int) := by
  have hget : (putResources fields l).get "response.data.cuNum" =
      some (l.length : Int).repr := by
    rw [putResources, get_putItems_plain (by decide), putInt, get_put, if_pos rfl]
  rw [getInt_of_get hget, if_pos]
  simp only [IntType.Has, IntType.int32]
  omega

theorem mapM_range_eq {α β : Type} {entry : Nat → Option β} {f : α → Option β} {l : List α}
    (h : ∀ i a, l[i]? = some a → entry i = f a) :
    (List.range l.length).mapM entry = l.mapM f := by
  have hmap : (List.range l.length).map entry = l.map f := by
    apply List.ext_getElem (by simp)
    intro i _ hi
    rw [List.length_map] at hi
    simp only [List.getElem_map, List.getElem_range]
    exact h i l[i] (List.getElem?_eq_getElem hi)
  have hid : ∀ {γ : Type} (g : γ → Option β) (l : List γ), l.mapM g = (l.map g).mapM fun b => b :=
    fun g l => by rw [List.mapM_map]; rfl
  rw [hid, hmap, ← hid]

theorem mapM_forall₂_iff {α β : Type} {R : α → β → Prop} {f : α → Option β} (l : List α) :
    (∃ xs, l.mapM f = some xs ∧ List.Forall₂ R l xs) ↔ ∀ a ∈ l, ∃ x, f a = some x ∧ R a x := by
  induction l with
  | nil => exact ⟨fun _ => by simp, fun _ => ⟨[], rfl, .nil⟩⟩
  | cons a l ih =>
      rw [List.forall_mem_cons, ← ih, List.mapM_cons]
      constructor
      · rintro ⟨xs, hxs, hall⟩
        cases hall with
        | cons hR hrest =>
            rename_i x xs
            simp only [Option.bind_eq_bind, Option.bind_eq_some_iff, Option.pure_def,
              Option.some.injEq, List.cons.injEq] at hxs
            obtain ⟨x', hx', xs', hxs', rfl, rfl⟩ := hxs
            exact ⟨⟨x', hx', hR⟩, xs', hxs', hrest⟩
      · rintro ⟨⟨x, hx, hR⟩, xs, hxs, hrest⟩
        exact ⟨x :: xs, by simp [hx, hxs], .cons hR hrest⟩

/-- What the library reads is what it reads of each entry. -/
theorem getResources_putResources {fields : CuResource → List (String × String)}
    {entry : PropertyTree → Nat → Option XrmCuResource} {f : CuResource → Option XrmCuResource}
    {l : List CuResource} (hlen : l.length < 2 ^ 31)
    (h : ∀ i r, l[i]? = some r → entry (putResources fields l) i = f r) :
    getResources entry (putResources fields l) = (l.mapM f).map fun xs => (0, xs) := by
  simp only [getResources, getInt_putResources_status, getInt_putResources_cuNum fields hlen,
    Option.bind_eq_bind, Option.bind_some, if_pos, Int.toNat_natCast, mapM_range_eq h]
  cases l.mapM f <;> rfl

/-! ## The records that arrive -/

namespace ListCommand

/-- A list that the daemon can return to the command. -/
structure Returned (c : ListCommand) where
  items : List CuResource
  length_le : items.length ≤ c.maxCuNum
  typed : ∀ r ∈ items, r.Typed
  unallocated : c.isReservation = true → ∀ r ∈ items, r.Unallocated

/-- A release request for the decoded record `x`, from any client, names the daemon's channel
to the handler. -/
def Releases (x : XrmCuResource) (r : CuResource) : Prop :=
  ∀ clientId unifiedLoad, IntType.uint64.Has clientId → IntType.int32.Has unifiedLoad →
    Daemon.cuRelease (xrmCuRelease clientId unifiedLoad x) = some {
      deviceId := r.deviceId
      cuId := r.cuId
      channelId := r.channelId
      cuType := r.cuType.code
      allocServiceId := r.allocServiceId
      clientId := clientId
      channelLoadUnified := unifiedLoad
      channelLoadOriginal := r.channelLoadOriginal
      poolId := r.poolId }

/-- The library decodes the answer, and item by item to the daemon's values. -/
def Survives (c : ListCommand) (l : List CuResource) : Prop :=
  ∃ xs, c.decode (c.encode l) = some (0, xs) ∧
    List.Forall₂ (fun r x => x.Holds r ∧ Releases x r) l xs

/-- The values that survive each command. -/
def Fits (c : ListCommand) (l : List CuResource) : Prop :=
  if c.isReservation then l.length ≤ 48
  else ∀ r ∈ l, r.poolId < 2 ^ 31 ∧
    (c.isQuery = true → r.baseAddr < 2 ^ 31 ∧ r.membankId < 2 ^ 31 ∧ r.membankType < 2 ^ 31 ∧
      r.membankSize < 2 ^ 31 ∧ r.membankBaseAddr < 2 ^ 31)

end ListCommand

theorem XrmCuResource.Holds.releases {x : XrmCuResource} {r : CuResource} (h : x.Holds r)
    (ht : r.Typed) : ListCommand.Releases x r := by
  intro clientId unifiedLoad hclient hload
  have int : ∀ (path : String) {v : Int} (ty : IntType),
      (xrmCuRelease clientId unifiedLoad x).get path = some v.repr → ty.Has v →
      (xrmCuRelease clientId unifiedLoad x).getInt ty path = some v :=
    fun _ _ ty hget hty => by rw [getInt_of_get hget, if_pos hty]
  simp only [Daemon.cuRelease,
    int "request.parameters.deviceId" .int32 rfl (h.deviceId ▸ ht.deviceId),
    int "request.parameters.cuId" .int32 rfl (h.cuId ▸ ht.cuId),
    int "request.parameters.channelId" .int32 rfl (h.channelId ▸ ht.channelId),
    int "request.parameters.cuType" .int32 rfl (h.cuType ▸ cuType_code_int32 r.cuType),
    int "request.parameters.allocServiceId" .uint64 rfl (h.allocServiceId ▸ ht.allocServiceId),
    int "request.parameters.clientId" .uint64 rfl hclient,
    int "request.parameters.channelLoadUnified" .int32 rfl hload,
    int "request.parameters.channelLoadOriginal" .int32 rfl
      (h.channelLoad ▸ ht.channelLoadOriginal),
    int "request.parameters.poolId" .uint64 rfl (h.poolId ▸ ht.poolId),
    h.deviceId, h.cuId, h.channelId, h.cuType, h.allocServiceId, h.channelLoad, h.poolId,
    Option.bind_eq_bind, Option.bind_some]
  rfl

/-! ## Entries that survive -/

/-- An entry of an allocation survives exactly when the cast keeps its memory fields and its pool
id is an `int32_t`. -/
theorem allocated_survives_iff {cast : Int → Int} {r : CuResource} (ht : r.Typed) :
    (∃ x, (if r.MemoryRead cast ∧ IntType.int32.Has r.poolId then some (r.received cast)
        else none) = some x ∧ x.Holds r ∧ ListCommand.Releases x r) ↔
      r.poolId < 2 ^ 31 ∧ cast r.baseAddr = r.baseAddr ∧ cast r.membankId = r.membankId ∧
        cast r.membankType = r.membankType ∧ cast r.membankSize = r.membankSize ∧
        cast r.membankBaseAddr = r.membankBaseAddr := by
  constructor
  · rintro ⟨x, hx, hholds, -⟩
    split at hx
    · rename_i hread
      cases hx
      refine ⟨?_, (received_holds ht).mp hholds⟩
      have := hread.2.2
      simp only [IntType.int32] at this
      omega
    · cases hx
  · rintro ⟨hpool, hcast⟩
    have hread : r.MemoryRead cast := by
      obtain ⟨h1, h2, h3, h4, h5⟩ := hcast
      simp only [CuResource.MemoryRead, h1, h2, h3, h4, h5]
      exact ⟨ht.baseAddr, ht.membankId, ht.membankType, ht.membankSize, ht.membankBaseAddr⟩
    have hpool32 : IntType.int32.Has r.poolId := by
      simp only [IntType.Has, IntType.int32]
      omega
    have hholds := (received_holds ht).mpr hcast
    exact ⟨_, if_pos ⟨hread, hpool32⟩, hholds, hholds.releases ht⟩

namespace ListCommand

theorem survives_allocated_iff {c : ListCommand} {cast : Int → Int} {l : List CuResource}
    (hlen : l.length < 2 ^ 31) (ht : ∀ r ∈ l, r.Typed)
    (hencode : c.encode l = putResources (allocatedFields cast) l)
    (hdecode : c.decode = getResources getAllocated) :
    c.Survives l ↔ ∀ r ∈ l, r.poolId < 2 ^ 31 ∧ cast r.baseAddr = r.baseAddr ∧
      cast r.membankId = r.membankId ∧ cast r.membankType = r.membankType ∧
      cast r.membankSize = r.membankSize ∧ cast r.membankBaseAddr = r.membankBaseAddr := by
  have hread : getResources getAllocated (putResources (allocatedFields cast) l) = _ :=
    getResources_putResources hlen fun i r hi =>
      getAllocated_putResources hi (ht r (List.mem_of_getElem? hi))
  rw [Survives, hencode, hdecode, hread]
  simp only [Option.map_eq_some_iff, Prod.mk.injEq, true_and, exists_eq_right]
  rw [mapM_forall₂_iff]
  exact forall₂_congr fun r hr => allocated_survives_iff (ht r hr)

theorem survives_reserved_iff {c : ListCommand} {l : List CuResource}
    (ht : ∀ r ∈ l, r.Typed) (hfree : ∀ r ∈ l, r.Unallocated)
    (hencode : c.encode l = putResources reservedFields (l.take 48))
    (hdecode : c.decode = getResources getReserved) : c.Survives l ↔ l.length ≤ 48 := by
  have hmem : ∀ i r, (l.take 48)[i]? = some r → r ∈ l := fun i r hi =>
    List.mem_of_mem_take (List.mem_of_getElem? hi)
  have hread : getResources getReserved (putResources reservedFields (l.take 48)) = _ :=
    getResources_putResources (f := fun r => some (r.received id))
      (by rw [List.length_take]; omega) fun i r hi =>
      getReserved_putResources hi (ht r (hmem i r hi)) (hfree r (hmem i r hi))
  have hmap : (l.take 48).mapM (fun r => some (r.received id)) =
      some ((l.take 48).map (·.received id)) := by
    generalize l.take 48 = rs
    induction rs with
    | nil => rfl
    | cons r rs ih => simp [List.mapM_cons, ih]
  rw [Survives, hencode, hdecode, hread, hmap]
  simp only [Option.map_some, Option.some.injEq, Prod.mk.injEq, true_and, exists_eq_left']
  constructor
  · intro hall
    have := hall.length_eq
    simp only [List.length_map, List.length_take] at this
    omega
  · intro hlen
    rw [List.take_of_length_le hlen, List.forall₂_map_right_iff, List.forall₂_same]
    intro r hr
    have hholds : (r.received id).Holds r :=
      (received_holds (ht r hr)).mpr ⟨rfl, rfl, rfl, rfl, rfl⟩
    exact ⟨hholds, hholds.releases (ht r hr)⟩

theorem maxCuNum_lt (c : ListCommand) : c.maxCuNum < 2 ^ 31 := by
  cases c <;> decide

/-- The records of a list come back from the wire exactly when they fit what both sides write and
read. -/
theorem records_survive (c : ListCommand) (l : c.Returned) :
    c.Survives l.items ↔ c.Fits l.items := by
  have hlen : l.items.length < 2 ^ 31 := Nat.lt_of_le_of_lt l.length_le c.maxCuNum_lt
  have exact_iff : c.encode l.items = putResources (allocatedFields id) l.items →
      c.decode = getResources getAllocated → c.isReservation = false → c.isQuery = false →
      (c.Survives l.items ↔ c.Fits l.items) := by
    intro hencode hdecode hres hquery
    rw [survives_allocated_iff hlen l.typed hencode hdecode, Fits, hres, hquery]
    simp
  have query_iff : c.encode l.items = putResources (allocatedFields i32) l.items →
      c.decode = getResources getAllocated → c.isReservation = false → c.isQuery = true →
      (c.Survives l.items ↔ c.Fits l.items) := by
    intro hencode hdecode hres hquery
    rw [survives_allocated_iff hlen l.typed hencode hdecode, Fits, hres, hquery]
    simp only [Bool.false_eq_true, if_false, true_implies]
    apply forall₂_congr
    intro r hr
    rw [i32_eq_iff (l.typed r hr).baseAddr.1, i32_eq_iff (l.typed r hr).membankId.1,
      i32_eq_iff (l.typed r hr).membankType.1, i32_eq_iff (l.typed r hr).membankSize.1,
      i32_eq_iff (l.typed r hr).membankBaseAddr.1]
    omega
  have reserved_iff : c.encode l.items = putResources reservedFields (l.items.take 48) →
      c.decode = getResources getReserved → c.isReservation = true →
      (c.Survives l.items ↔ c.Fits l.items) := by
    intro hencode hdecode hres
    rw [survives_reserved_iff l.typed (l.unallocated hres) hencode hdecode, Fits, hres]
    simp
  cases c with
  | cuListAlloc => exact exact_iff rfl rfl rfl rfl
  | cuGroupAlloc => exact exact_iff rfl rfl rfl rfl
  | allocationQuery => exact query_iff rfl rfl rfl rfl
  | reservationQuery => exact reserved_iff rfl rfl rfl
  | cuListAllocV2 => exact exact_iff rfl rfl rfl rfl
  | cuGroupAllocV2 => exact exact_iff rfl rfl rfl rfl
  | allocationQueryV2 => exact query_iff rfl rfl rfl rfl
  | reservationQueryV2 => exact reserved_iff rfl rfl rfl

/-- A record of the loaded kernel with a given pool and memory bank. -/
def bankRecord (poolId membankBaseAddr : Nat) : CuResource where
  xclbinFileName := "/opt/scaler.xclbin"
  kernelPluginFileName := ""
  kernelName := "scaler"
  kernelAlias := ""
  instanceName := "scaler_1"
  cuName := "scaler:scaler_1"
  uuidStr := binToHexstr (List.replicate 16 0)
  deviceId := 0
  cuId := 0
  channelId := 0
  cuType := .ipKernel
  baseAddr := 0x1800000
  membankId := 0
  membankType := 1
  membankSize := 0x40000000
  membankBaseAddr := membankBaseAddr
  allocServiceId := 1
  clientId := 1
  channelLoadUnified := 300000
  channelLoadOriginal := 76800000
  poolId := poolId

theorem bankRecord_typed {poolId membankBaseAddr : Nat} (hpool : poolId < 2 ^ 64)
    (hbank : membankBaseAddr < 2 ^ 64) : (bankRecord poolId membankBaseAddr).Typed where
  xclbinFileName := (by decide : "/opt/scaler.xclbin".toList.length < maxNameLen)
  kernelPluginFileName := (by decide : "".toList.length < maxNameLen)
  kernelName := (by decide : "scaler".toList.length < maxNameLen)
  kernelAlias := (by decide : "".toList.length < maxNameLen)
  instanceName := (by decide : "scaler_1".toList.length < maxNameLen)
  cuName := (by decide : "scaler:scaler_1".toList.length < maxNameLen)
  uuidStr := ⟨List.replicate 16 0, rfl, rfl⟩
  deviceId := (by decide : IntType.int32.Has 0)
  cuId := (by decide : IntType.int32.Has 0)
  channelId := (by decide : IntType.int32.Has 0)
  baseAddr := (by decide : IntType.uint64.Has 0x1800000)
  membankId := (by decide : IntType.uint32.Has 0)
  membankType := (by decide : IntType.uint32.Has 1)
  membankSize := (by decide : IntType.uint64.Has 0x40000000)
  membankBaseAddr := ⟨by simp [IntType.uint64], by simp [IntType.uint64, bankRecord]; omega⟩
  allocServiceId := (by decide : IntType.uint64.Has 1)
  channelLoadOriginal := (by decide : IntType.int32.Has 76800000)
  poolId := ⟨by simp [IntType.uint64], by simp [IntType.uint64, bankRecord]; omega⟩

/-- The answer to an allocation query about a channel whose bank lies at `2 ^ 36`. -/
def highBank : Returned .allocationQuery where
  items := [bankRecord 0 (2 ^ 36)]
  length_le := by decide
  typed := by simpa using bankRecord_typed (by decide) (by decide)
  unallocated := by simp [isReservation]

/-- The answer to a list allocation from pool `2 ^ 31`. -/
def highPool : Returned .cuListAlloc where
  items := [bankRecord (2 ^ 31) 0]
  length_le := by decide
  typed := by simpa using bankRecord_typed (by decide) (by decide)
  unallocated := by simp [isReservation]

theorem records_lost :
    ¬ Survives .allocationQuery highBank.items ∧ ¬ Survives .cuListAlloc highPool.items := by
  have hquery : encode .allocationQuery highBank.items =
      putResources (allocatedFields i32) highBank.items := rfl
  have halloc : encode .cuListAlloc highPool.items =
      putResources (allocatedFields id) highPool.items := rfl
  constructor
  · rw [survives_allocated_iff (by decide) highBank.typed hquery rfl]
    simp [highBank, bankRecord, i32]
  · rw [survives_allocated_iff (by decide) highPool.typed halloc rfl]
    simp [highPool, bankRecord]

end ListCommand

end Xrm
