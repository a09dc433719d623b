import Xrm.Verification.Building
import Xrm.Verification.Loading
import Xrm.Verification.Scenario

/-! # The memory banks of the CUs

The connections of an image name the entries of the IP layout by their positions. The loop that
attaches the banks compares these with the running numbers of the CUs instead, which count the
hardware kernels first, then the PS kernels, then the soft kernels.
-/

namespace Xrm

open Layout

/-- A memory bank as a CU records it. -/
structure MemBank where
  id : Int
  memType : Nat
  memSize : Nat
  memBaseAddress : Nat
  deriving Repr, DecidableEq

namespace MemBank

def zero : MemBank := ⟨0, 0, 0, 0⟩

def ofBank (id : Int) (bank : MemData) : MemBank :=
  ⟨id, bank.memType, bank.memSize, bank.memBaseAddress⟩

theorem ofBank_eq_zero_iff {id : Int} {bank : MemData} :
    ofBank id bank = zero ↔ id = 0 ∧ bank = MemData.zero := by
  obtain ⟨memType, memSize, memBaseAddress⟩ := bank
  simp [ofBank, zero, MemData.zero]

end MemBank

namespace Connection

/-- The last connection for index `i`. -/
def lastFor (conns : List Connection) (i : Nat) : Option Connection :=
  (conns.filter fun conn => conn.ipLayoutIndex = (i : Int)).getLast?

/-- The bank that the table holds at the other end. -/
def bankIn (list : MemTopologyList) (conn : Connection) : MemBank :=
  .ofBank conn.memDataIndex (list.entry conn.memDataIndex.toNat)

/-- The bank at the other end, if there is such a bank. -/
def bank? (banks : List MemData) (conn : Connection) : Option MemBank :=
  if 0 ≤ conn.memDataIndex then
    banks[conn.memDataIndex.toNat]?.map (MemBank.ofBank conn.memDataIndex)
  else none

theorem bank?_eq_some_iff {banks : List MemData} {conn : Connection} {bank : MemBank} :
    conn.bank? banks = some bank ↔ 0 ≤ conn.memDataIndex ∧
      ∃ entry, banks[conn.memDataIndex.toNat]? = some entry ∧
        MemBank.ofBank conn.memDataIndex entry = bank := by
  rw [bank?]
  split
  · rename_i h
    rw [Option.map_eq_some_iff]
    simp [h]
  · rename_i h
    simp [h]

end Connection

namespace CuData

variable {cu : CuData}

def memBank (cu : CuData) : MemBank :=
  ⟨cu.membankId, cu.membankType, cu.membankSize, cu.membankBaseAddr⟩

@[simp] theorem setMemBank_ipLayoutIndex (list : MemTopologyList) (cu : CuData)
    (conn : Connection) : (cu.setMemBank list conn).ipLayoutIndex = cu.ipLayoutIndex := by
  rw [setMemBank]
  split <;> rfl

/-- The loop over the connections leaves the bank of the last one for the index of the CU. -/
theorem setMemBanks_eq (list : MemTopologyList) (conns : List Connection) (cu : CuData) :
    (conns.foldl (setMemBank list) cu).ipLayoutIndex = cu.ipLayoutIndex ∧
      (conns.foldl (setMemBank list) cu).memBank =
        ((Connection.lastFor conns cu.ipLayoutIndex).map (·.bankIn list)).getD cu.memBank := by
  induction conns using List.reverseRecOn with
  | nil => exact ⟨rfl, rfl⟩
  | append_singleton conns conn ih =>
      obtain ⟨hindex, hbank⟩ := ih
      rw [List.foldl_append, List.foldl_cons, List.foldl_nil]
      refine ⟨by rw [setMemBank_ipLayoutIndex, hindex], ?_⟩
      rw [setMemBank, hindex]
      by_cases h : conn.ipLayoutIndex = cu.ipLayoutIndex
      · simp [h, memBank, Connection.lastFor, Connection.bankIn, MemBank.ofBank]
      · simp [h, hbank, Connection.lastFor]

/-- The fields that tell which bank a CU gets. -/
theorem setKeyValues_memBank (kvs : List KeyValue) (cu : CuData) :
    (kvs.foldl (fun cu kv => cu.setKeyValue kv) cu).ipLayoutIndex = cu.ipLayoutIndex ∧
      (kvs.foldl (fun cu kv => cu.setKeyValue kv) cu).memBank = cu.memBank := by
  induction kvs generalizing cu with
  | nil => exact ⟨rfl, rfl⟩
  | cons kv kvs ih =>
      rw [List.foldl_cons, (ih _).1, (ih _).2, setKeyValue]
      split <;> exact ⟨rfl, rfl⟩

end CuData

/-- Whatever a CU is built from, it starts without a bank and with its running number. -/
theorem Building.fill_spec {call : XrtCall} {axlf : Axlf} {b : Building}
    (h : b ∈ buildImage call axlf) (cu : CuData) :
    (b.fill cu).ipLayoutIndex = b.number ∧ (b.fill cu).memBank = cu.memBank := by
  have hips {cuType : CuType} {base n : Nat} {ips : List (IpData × Nat)}
      (h : b ∈ buildIps call cuType base n ips) :
      (b.fill cu).ipLayoutIndex = b.number ∧ (b.fill cu).memBank = cu.memBank := by
    induction ips generalizing n with
    | nil => simp [buildIps] at h
    | cons ip ips ih =>
        rw [buildIps, List.mem_cons] at h
        rcases h with rfl | h
        · exact ⟨rfl, rfl⟩
        · exact ih h
  have hinstances {name : String} {n count : Nat} (h : b ∈ buildInstances name n count) :
      (b.fill cu).ipLayoutIndex = b.number ∧ (b.fill cu).memBank = cu.memBank := by
    induction count generalizing n with
    | zero => simp [buildInstances] at h
    | succ count ih =>
        rw [buildInstances, List.mem_cons] at h
        rcases h with rfl | h
        · exact ⟨rfl, rfl⟩
        · exact ih h
  have hsoft {n : Nat} {sks : List SoftKernel} (h : b ∈ buildSoftKernels n sks) :
      (b.fill cu).ipLayoutIndex = b.number ∧ (b.fill cu).memBank = cu.memBank := by
    induction sks generalizing n with
    | nil => simp [buildSoftKernels] at h
    | cons sk sks ih =>
        rw [buildSoftKernels, List.mem_append] at h
        exact h.elim hinstances ih
  rw [buildImage] at h
  split at h
  · simp at h
  · rw [List.mem_append, buildLayout, List.mem_append] at h
    rcases h with (h | h) | h
    · exact hips h
    · exact hips h
    · exact hsoft h

/-- The bank is due to a CU: for an entry of the IP layout it is the one of the last connection
for its position, and zeros without a connection. The running number of a soft kernel may be the
position of an IP in a layout of `count` entries, whose bank it must not get. -/
def Building.Due (banks : List MemData) (conns : List Connection) (count : Nat) (b : Building)
    (bank : MemBank) : Prop :=
  match b.origin with
  | .ip position =>
      match Connection.lastFor conns position with
      | some conn => conn.bank? banks = some bank
      | none => bank = MemBank.zero
  | .soft => b.number < count → bank = MemBank.zero

/-! ## The table of banks -/

namespace MemTopologyList

variable {list : MemTopologyList} {i k : Nat} {bank : MemData}

theorem entry_set (hi : i < maxDdrMap) :
    (list.set i bank).entry k = if i = k then bank else list.entry k := by
  rw [entry, set, entry, List.getD_eq_getElem?_getD, List.getElem?_set]
  split
  · rename_i h
    subst h
    simp [list.length_banks, hi]
  · rw [← List.getD_eq_getElem?_getD]

theorem entry_setType_of_ne {memType : Nat} (hne : i ≠ k) :
    (list.setType i memType).entry k = list.entry k := by
  rw [entry, setType, entry, List.getD_eq_getElem?_getD, List.getElem?_modify]
  simp [hne]

end MemTopologyList

/-- The loop leaves every bank of the section in its entry, if it stays in the table. -/
theorem MemTopology.entry_copyBanks (topology : MemTopology) (list : MemTopologyList) {n k : Nat}
    (hroom : n + 2 ≤ maxDdrMap) (hk : k < n) :
    ((List.range n).foldl topology.copyBank list).entry k = topology.entry k := by
  induction n with
  | zero => omega
  | succ n ih =>
      rw [List.range_succ, List.foldl_append, List.foldl_cons, List.foldl_nil, copyBank,
        MemTopologyList.entry_setType_of_ne (by omega), MemTopologyList.entry_set (by omega),
        MemTopologyList.entry_set (by omega)]
      by_cases hn : n = k
      · rw [if_neg (by omega), if_pos hn, hn]
      · rw [if_neg (by omega), if_neg hn, ih (by omega) (by omega)]

theorem MemTopology.entry_of_lt (topology : MemTopology) {k : Nat}
    (hk : k < topology.banks.length) : topology.entry k = topology.banks[k] := by
  rw [entry, List.getD_eq_getElem?_getD, List.getElem?_append_left hk, List.getElem?_eq_getElem hk,
    Option.getD_some]

namespace DeviceData

variable {dev dev' : DeviceData} {call : XrtCall} {axlf : Axlf} {errmsg errmsg' : String}

/-- The memory banks and connections that count: those of the image, and without such a section
those that the device still holds. -/
def banksFor (dev : DeviceData) (axlf : Axlf) : List MemData :=
  match axlf.memTopology with
  | some topology => topology.banks
  | none => dev.memTopologyList.banks

def connectionsFor (dev : DeviceData) (axlf : Axlf) : List Connection :=
  axlf.connectivity.getD dev.connectList

/-- The table of banks once the section has been read. -/
def tableFor (dev : DeviceData) (axlf : Axlf) : MemTopologyList :=
  match axlf.memTopology with
  | some topology => (List.range topology.banks.length).foldl topology.copyBank dev.memTopologyList
  | none => dev.memTopologyList

/-- The sections behind the layout. -/
theorem xclbinGetSections_eq (dev : DeviceData) (axlf : Axlf) :
    ((dev.xclbinGetUuid axlf).xclbinGetMemTopology axlf).xclbinGetConnectivity axlf =
      { dev.xclbinGetUuid axlf with
        memTopologyList := dev.tableFor axlf
        connectList := dev.connectionsFor axlf } := by
  simp only [xclbinGetConnectivity, tableFor, xclbinGetMemTopology, connectionsFor]
  cases axlf.memTopology <;> cases axlf.connectivity <;> rfl

/-- The section has so few banks that copying them stays in the table. -/
def BanksFit (axlf : Axlf) : Prop :=
  ∀ topology, axlf.memTopology = some topology → topology.banks.length + 2 ≤ maxDdrMap

theorem tableFor_entry (hfit : BanksFit axlf) {k : Nat} {bank : MemData}
    (hbank : (dev.banksFor axlf)[k]? = some bank) : (dev.tableFor axlf).entry k = bank := by
  rw [banksFor] at hbank
  rw [tableFor]
  cases htop : axlf.memTopology with
  | none =>
      simp only [htop] at hbank ⊢
      rw [MemTopologyList.entry, List.getD_eq_getElem?_getD, hbank, Option.getD_some]
  | some topology =>
      simp only [htop] at hbank ⊢
      obtain ⟨hk, rfl⟩ := List.getElem?_eq_some_iff.mp hbank
      rw [topology.entry_copyBanks _ (hfit topology htop) hk, topology.entry_of_lt hk]

/-- The first entry: the first bank, or without banks what the device still holds there. -/
def firstBank (dev : DeviceData) (axlf : Axlf) : MemData :=
  (dev.banksFor axlf).headD (dev.memTopologyList.entry 0)

theorem tableFor_entry_zero (hfit : BanksFit axlf) :
    (dev.tableFor axlf).entry 0 = dev.firstBank axlf := by
  cases hbanks : dev.banksFor axlf with
  | cons bank banks =>
      rw [firstBank, hbanks]
      exact tableFor_entry hfit (by rw [hbanks]; rfl)
  | nil =>
      rw [firstBank, hbanks, List.headD_nil, tableFor]
      rw [banksFor] at hbanks
      cases htop : axlf.memTopology with
      | none => rfl
      | some topology =>
          simp only [htop] at hbanks ⊢
          rw [hbanks]
          rfl

/-- The CUs that a successful reading of the image leaves on the device. -/
theorem xclbinGetInfo_cus (h : dev.xclbinGetInfo call axlf errmsg = (dev', errmsg', .ok ())) :
    ∃ layout, ofImage call axlf = (layout, .ok ()) ∧ ∃ kvs : List KeyValue,
      dev'.cuList = (layout.cuList.take layout.numCu).map fun cu =>
        (dev.connectionsFor axlf).foldl (CuData.setMemBank (dev.tableFor axlf))
          (kvs.foldl (fun cu kv => cu.setKeyValue kv) cu) := by
  rw [xclbinGetInfo, xclbinGetLayout] at h
  cases hof : ofImage call axlf with
  | mk layout ret =>
      cases ret with
      | error e => simp [hof] at h
      | ok u =>
          refine ⟨layout, rfl, ?_⟩
          simp only [hof] at h
          by_cases hker : hardwareKernelExisting axlf = true
          · rw [if_pos hker] at h
            simp only [xclbinGetSections_eq, xclbinGetKeyvalues] at h
            cases hkv : axlf.keyvalueMetadata with
            | absent =>
                simp only [hkv, Prod.mk.injEq] at h
                obtain ⟨rfl, -, -⟩ := h
                exact ⟨[], rfl⟩
            | malformed message => simp [hkv] at h
            | incomplete => simp [hkv] at h
            | entries kvs =>
                simp only [hkv, Prod.mk.injEq] at h
                obtain ⟨rfl, -, -⟩ := h
                refine ⟨kvs, ?_⟩
                simp only [List.map_map]
                rfl
          · rw [if_neg hker] at h
            simp at h

/-- The image's CUs fit the table, so the device has them all. -/
theorem length_cuList_of_xclbinGetInfo
    (h : dev.xclbinGetInfo call axlf errmsg = (dev', errmsg', .ok ())) :
    dev'.cuList.length = (buildImage call axlf).length := by
  obtain ⟨layout, hof, kvs, hcus⟩ := xclbinGetInfo_cus h
  obtain ⟨hnum, hlist⟩ := ofImage_eq hof
  have hle := ofImage_numCu_le hof
  have hsize : Layout.empty.cuList.length = maxXilinxKernels := List.length_replicate
  rw [hcus, List.length_map, List.length_take, hlist, writeAll, Writes.length_putAll, hsize,
    Nat.min_eq_left hle, hnum]

/-- What CU `j` of the table was built from: the last of the image's CUs that was put there. -/
def builtFrom (call : XrtCall) (axlf : Axlf) (j : Nat) : Option Building :=
  Writes.lastAt Building.slot j (buildImage call axlf)

/-- A CU gets the bank of the last connection for its running number. -/
theorem memBank_eq (h : dev.xclbinGetInfo call axlf errmsg = (dev', errmsg', .ok ())) {j : Nat}
    {cu : CuData} {b : Building} (hcu : dev'.cuList[j]? = some cu)
    (hb : builtFrom call axlf j = some b) :
    cu.memBank = ((Connection.lastFor (dev.connectionsFor axlf) b.number).map
      (·.bankIn (dev.tableFor axlf))).getD MemBank.zero := by
  obtain ⟨layout, hof, kvs, hcus⟩ := xclbinGetInfo_cus h
  obtain ⟨hnum, hlist⟩ := ofImage_eq hof
  rw [hcus, List.getElem?_map, Option.map_eq_some_iff] at hcu
  obtain ⟨cu₁, hcu₁, rfl⟩ := hcu
  rw [List.getElem?_take, hlist] at hcu₁
  split at hcu₁
  swap
  · simp at hcu₁
  have hj : j < Layout.empty.cuList.length := by
    have hlt := (List.getElem?_eq_some_iff.mp hcu₁).1
    rwa [writeAll, Writes.length_putAll] at hlt
  have hempty : ∀ cu ∈ Layout.empty.cuList, cu.memBank = MemBank.zero := by
    intro cu hcu
    rw [List.eq_of_mem_replicate hcu]
    rfl
  have hfill : ∀ b ∈ buildImage call axlf, ∀ cu : CuData, cu.memBank = MemBank.zero →
      (b.fill cu).memBank = MemBank.zero := fun b hb cu hcu => (b.fill_spec hb cu).2.trans hcu
  obtain ⟨cu₀, hzero, hat⟩ := Writes.getElem?_putAll (P := fun cu => cu.memBank = MemBank.zero)
    hempty hfill hj hb
  rw [writeAll, hat, Option.some.injEq] at hcu₁
  obtain ⟨hindex, hbank⟩ := b.fill_spec (Writes.slot_of_lastAt hb).1 cu₀
  obtain ⟨hkey, hkeyBank⟩ := CuData.setKeyValues_memBank kvs cu₁
  rw [(CuData.setMemBanks_eq _ _ _).2, hkey, hkeyBank, ← hcu₁, hindex, hbank, hzero]

/-! ## The banks that are due -/

/-- The number of entries of the IP layout. -/
def ipCount (axlf : Axlf) : Nat := (axlf.ipLayout.getD []).length

/-- Every CU has the bank that is due to it. -/
def BanksDue (dev : DeviceData) (call : XrtCall) (axlf : Axlf) (dev' : DeviceData) : Prop :=
  ∀ (j : Nat) (cu : CuData) (b : Building), dev'.cuList[j]? = some cu →
    builtFrom call axlf j = some b →
      b.Due (dev.banksFor axlf) (dev.connectionsFor axlf) (ipCount axlf) cu.memBank

/-- The connection leads to a bank that is all zeros and has number 0. -/
def LeadsToZeros (dev : DeviceData) (axlf : Axlf) (conn : Connection) : Prop :=
  conn.memDataIndex = 0 ∧ dev.firstBank axlf = MemData.zero

/-- The running number of the CU has the right connection. The last one for the position of its
IP names a bank, and the last one for the number names the same; where there is none, the other
leads to zeros. The number of a soft kernel has none while it is the position of an IP, or one that
leads to zeros. -/
def Wired (dev : DeviceData) (axlf : Axlf) (b : Building) : Prop :=
  match b.origin with
  | .ip position =>
      match Connection.lastFor (dev.connectionsFor axlf) position,
        Connection.lastFor (dev.connectionsFor axlf) b.number with
      | some due, some conn =>
          0 ≤ due.memDataIndex ∧ due.memDataIndex < (dev.banksFor axlf).length ∧
            conn.memDataIndex = due.memDataIndex
      | some due, none => 0 < (dev.banksFor axlf).length ∧ dev.LeadsToZeros axlf due
      | none, some conn => dev.LeadsToZeros axlf conn
      | none, none => True
  | .soft => b.number < ipCount axlf →
      ∀ conn ∈ Connection.lastFor (dev.connectionsFor axlf) b.number, dev.LeadsToZeros axlf conn

theorem bankIn_eq_zero_iff (hfit : BanksFit axlf) (conn : Connection) :
    conn.bankIn (dev.tableFor axlf) = MemBank.zero ↔ dev.LeadsToZeros axlf conn := by
  rw [Connection.bankIn, MemBank.ofBank_eq_zero_iff, LeadsToZeros, ← tableFor_entry_zero hfit]
  constructor
  · rintro ⟨hid, hbank⟩
    rw [hid] at hbank
    exact ⟨hid, hbank⟩
  · rintro ⟨hid, hbank⟩
    rw [hid]
    exact ⟨rfl, hbank⟩

/-- The bank that the running number leads to is due exactly when the connection is right. -/
theorem due_iff_wired (hfit : BanksFit axlf) (b : Building) :
    b.Due (dev.banksFor axlf) (dev.connectionsFor axlf) (ipCount axlf)
        (((Connection.lastFor (dev.connectionsFor axlf) b.number).map
          (·.bankIn (dev.tableFor axlf))).getD MemBank.zero) ↔ dev.Wired axlf b := by
  have hreach : ∀ due : Connection, ∀ bank : MemBank, due.bank? (dev.banksFor axlf) = some bank ↔
      0 ≤ due.memDataIndex ∧ due.memDataIndex < (dev.banksFor axlf).length ∧
        due.bankIn (dev.tableFor axlf) = bank := by
    intro due bank
    rw [Connection.bank?_eq_some_iff]
    constructor
    · rintro ⟨hlo, entry, hentry, rfl⟩
      have hlt := (List.getElem?_eq_some_iff.mp hentry).1
      refine ⟨hlo, by omega, ?_⟩
      rw [Connection.bankIn, tableFor_entry hfit hentry]
    · rintro ⟨hlo, hlt, rfl⟩
      have hget := List.getElem?_eq_getElem
        (show due.memDataIndex.toNat < (dev.banksFor axlf).length by omega)
      refine ⟨hlo, _, hget, ?_⟩
      rw [Connection.bankIn, tableFor_entry hfit hget]
  rw [Building.Due, Wired]
  cases b.origin with
  | ip position =>
      simp only
      cases hdue : Connection.lastFor (dev.connectionsFor axlf) position with
      | none =>
          cases Connection.lastFor (dev.connectionsFor axlf) b.number with
          | none => simp
          | some conn => exact bankIn_eq_zero_iff hfit conn
      | some due =>
          cases Connection.lastFor (dev.connectionsFor axlf) b.number with
          | none =>
              simp only [Option.map_none, Option.getD_none, hreach, bankIn_eq_zero_iff hfit,
                LeadsToZeros]
              constructor
              · rintro ⟨hlo, hlt, hzeros⟩
                exact ⟨by omega, hzeros⟩
              · rintro ⟨hlt, hzeros⟩
                exact ⟨by omega, by omega, hzeros⟩
          | some conn =>
              simp only [Option.map_some, Option.getD_some, hreach]
              refine and_congr_right fun _ => and_congr_right fun _ =>
                ⟨fun heq => ?_, fun heq => ?_⟩
              · exact (congrArg MemBank.id heq).symm
              · rw [Connection.bankIn, Connection.bankIn, heq]
  | soft =>
      cases Connection.lastFor (dev.connectionsFor axlf) b.number with
      | none => simp
      | some conn => simp [bankIn_eq_zero_iff hfit]

/-- The banks are attached right exactly when the running number of each CU has the connection of
what the CU was built from. -/
theorem banksDue_iff (h : dev.xclbinGetInfo call axlf errmsg = (dev', errmsg', .ok ()))
    (hfit : BanksFit axlf) : dev.BanksDue call axlf dev' ↔
      ∀ j < (buildImage call axlf).length, ∀ b, builtFrom call axlf j = some b →
        dev.Wired axlf b := by
  have hlen := length_cuList_of_xclbinGetInfo h
  constructor
  · intro hdue j hj b hb
    rw [← hlen] at hj
    have hat := hdue j dev'.cuList[j] b (List.getElem?_eq_getElem hj) hb
    rw [memBank_eq h (List.getElem?_eq_getElem hj) hb] at hat
    exact (due_iff_wired hfit b).mp hat
  · intro hwired j cu b hcu hb
    rw [memBank_eq h hcu hb]
    exact (due_iff_wired hfit b).mpr
      (hwired j (hlen ▸ (List.getElem?_eq_some_iff.mp hcu).1) b hb)

/-- An image whose layout lists `ips`, with soft kernels and connections to bank 3. -/
def wiredImage (ips : List IpData) (softKernels : List SoftKernel) (indices : List Int) : Axlf where
  uuid := [1]
  ipLayout := some ips
  softKernels := softKernels
  memTopology := some
    { banks := [⟨1, 64, 0⟩, ⟨1, 64, 64⟩, ⟨1, 64, 128⟩, ⟨1, 64, 192⟩]
      behind := MemData.zero
      behindType := 0 }
  connectivity := some (indices.map fun ipLayoutIndex => ⟨ipLayoutIndex, 3⟩)
  keyvalueMetadata := .absent

theorem wiredImage_fits (ips : List IpData) (softKernels : List SoftKernel) (indices : List Int) :
    BanksFit (wiredImage ips softKernels indices) := by
  rintro topology h
  obtain rfl := Option.some.inj h
  decide

/-- A hardware kernel and an IP of another type. -/
def someKernel : IpData := { ipType := .kernel, name := "scaler:scaler_1", baseAddress := 0 }

def someOther : IpData := { ipType := .other, name := "monitor", baseAddress := 0 }

/-- A card that is not loaded, with a driver that leaves the numbering to the daemon. -/
def bareCard : DeviceData := DeviceData.probed 0 Scenario.call

theorem exists_info_of_reads (dev : DeviceData) (call : XrtCall) (axlf : Axlf) (errmsg : String)
    (h : call.reads axlf = true) : ∃ dev' errmsg',
      dev.xclbinGetInfo call axlf errmsg = (dev', errmsg', .ok ()) := by
  have hok := (xclbinGetInfo_reading dev call axlf errmsg).2.1.mpr h
  exact ⟨_, _, Prod.ext rfl (Prod.ext rfl hok)⟩

/-- A kernel alone, connected to bank 3. -/
theorem banksDue_iff_wired : ∃ dev' errmsg',
    bareCard.xclbinGetInfo Scenario.call (wiredImage [someKernel] [] [0]) "" =
        (dev', errmsg', .ok ()) ∧
      (bareCard.BanksDue Scenario.call (wiredImage [someKernel] [] [0]) dev' ↔
        ∀ j < (buildImage Scenario.call (wiredImage [someKernel] [] [0])).length, ∀ b,
          builtFrom Scenario.call (wiredImage [someKernel] [] [0]) j = some b →
            bareCard.Wired (wiredImage [someKernel] [] [0]) b) := by
  obtain ⟨dev', errmsg', h⟩ := exists_info_of_reads bareCard Scenario.call
      (wiredImage [someKernel] [] [0]) "" (by decide +kernel)
  exact ⟨dev', errmsg', h, banksDue_iff h (wiredImage_fits _ _ _)⟩

/-- Behind an IP of another type a kernel misses the bank of its connection, and a soft kernel
gets the bank of the IP whose position is its running number. -/
theorem banksDue_shifted :
    (∃ dev' errmsg' cu,
      bareCard.xclbinGetInfo Scenario.call (wiredImage [someOther, someKernel] [] [1]) "" =
          (dev', errmsg', .ok ()) ∧
        dev'.cuList = [cu] ∧ cu.memBank = MemBank.zero ∧
        ¬bareCard.BanksDue Scenario.call (wiredImage [someOther, someKernel] [] [1]) dev') ∧
      ∃ dev' errmsg',
        bareCard.xclbinGetInfo Scenario.call
            (wiredImage [someKernel, someOther] [⟨"ps", 1⟩] [1]) "" =
            (dev', errmsg', .ok ()) ∧
          ¬bareCard.BanksDue Scenario.call (wiredImage [someKernel, someOther] [⟨"ps", 1⟩] [1])
            dev' := by
  constructor
  · obtain ⟨dev', errmsg', h⟩ := exists_info_of_reads bareCard Scenario.call
      (wiredImage [someOther, someKernel] [] [1]) "" (by decide +kernel)
    have hlen := length_cuList_of_xclbinGetInfo h
    have hone : (buildImage Scenario.call (wiredImage [someOther, someKernel] [] [1])).length = 1 :=
      rfl
    obtain ⟨cu, hcus⟩ := List.length_eq_one_iff.mp (hlen.trans hone)
    have hat : dev'.cuList[0]? = some cu := by rw [hcus]; rfl
    have hbank : cu.memBank = MemBank.zero := memBank_eq h hat rfl
    refine ⟨dev', errmsg', cu, h, hcus, hbank, fun hdue => ?_⟩
    have hnamed : Connection.bank? (bareCard.banksFor (wiredImage [someOther, someKernel] [] [1]))
        ⟨1, 3⟩ = some cu.memBank := hdue 0 cu _ hat rfl
    rw [hbank] at hnamed
    exact absurd hnamed (by decide)
  · obtain ⟨dev', errmsg', h⟩ := exists_info_of_reads bareCard Scenario.call
      (wiredImage [someKernel, someOther] [⟨"ps", 1⟩] [1]) "" (by decide +kernel)
    have hlen : dev'.cuList.length = 2 := length_cuList_of_xclbinGetInfo h
    have hat : dev'.cuList[1]? = some dev'.cuList[1] := List.getElem?_eq_getElem (by omega)
    have hbank := memBank_eq h hat rfl
    refine ⟨dev', errmsg', h, fun hdue => ?_⟩
    have hzero : dev'.cuList[1].memBank = MemBank.zero := hdue 1 _ _ hat rfl (by decide)
    rw [hzero] at hbank
    exact absurd hbank (by decide +kernel)

/-! ### Images in order -/

theorem origin_buildIps {cuType : CuType} {base n : Nat} {ips : List IpData} :
    ∀ b ∈ buildIps call cuType base n (ips.zipIdx n), b.origin = .ip b.number := by
  induction ips generalizing n with
  | nil => simp [buildIps]
  | cons ip ips ih =>
      intro b hb
      rw [List.zipIdx_cons, buildIps, List.mem_cons] at hb
      rcases hb with rfl | hb
      · rfl
      · exact ih b hb

theorem number_soft {n : Nat} {sks : List SoftKernel} :
    ∀ b ∈ buildSoftKernels n sks, b.origin = .soft ∧ n ≤ b.number := by
  intro b hb
  constructor
  · have hinstances {name : String} {n count : Nat} (h : b ∈ buildInstances name n count) :
        b.origin = .soft := by
      induction count generalizing n with
      | zero => simp [buildInstances] at h
      | succ count ih =>
          rw [buildInstances, List.mem_cons] at h
          rcases h with rfl | h
          · rfl
          · exact ih h
    induction sks generalizing n with
    | nil => simp [buildSoftKernels] at hb
    | cons sk sks ih =>
        rw [buildSoftKernels, List.mem_append] at hb
        exact hb.elim hinstances ih
  · have hnumber := List.mem_map_of_mem (f := Building.number) hb
    rw [number_buildSoftKernels, List.mem_range'_1] at hnumber
    exact hnumber.1

/-- Where the layout lists the hardware kernels first, then the PS kernels and nothing else, and
every connection names a bank, the banks are attached right. -/
theorem banksDue_of_sorted {kernels psKernels : List IpData}
    (h : dev.xclbinGetInfo call axlf errmsg = (dev', errmsg', .ok ())) (hfit : BanksFit axlf)
    (hbanks : ∀ conn ∈ dev.connectionsFor axlf,
      0 ≤ conn.memDataIndex ∧ conn.memDataIndex < (dev.banksFor axlf).length)
    (hips : axlf.ipLayout = some (kernels ++ psKernels))
    (hkernels : ∀ ip ∈ kernels, ip.ipType = .kernel)
    (hps : ∀ ip ∈ psKernels, ip.ipType = .psKernel) : dev.BanksDue call axlf dev' := by
  have hpos : positions .kernel (kernels ++ psKernels).zipIdx = kernels.zipIdx ∧
      positions .psKernel (kernels ++ psKernels).zipIdx = psKernels.zipIdx kernels.length := by
    have hself : ∀ (t : IpType) (ips : List IpData) (k : Nat), (∀ ip ∈ ips, ip.ipType = t) →
        positions t (ips.zipIdx k) = ips.zipIdx k := by
      intro t ips k hips
      rw [positions, List.filter_eq_self]
      intro ip hip
      simpa using hips ip.1 (List.fst_mem_of_mem_zipIdx hip)
    have hnone : ∀ (t u : IpType) (ips : List IpData) (k : Nat), t ≠ u →
        (∀ ip ∈ ips, ip.ipType = t) → positions u (ips.zipIdx k) = [] := by
      intro t u ips k hne hips
      rw [positions, List.filter_eq_nil_iff]
      intro ip hip
      simpa [hips ip.1 (List.fst_mem_of_mem_zipIdx hip)] using hne
    have happend (t : IpType) : positions t (kernels ++ psKernels).zipIdx =
        positions t kernels.zipIdx ++ positions t (psKernels.zipIdx kernels.length) := by
      simp only [positions, List.zipIdx_append, List.filter_append, Nat.zero_add]
    rw [happend, happend, hself _ _ _ hkernels, hself _ _ _ hps,
      hnone _ _ _ _ (by decide) hkernels, hnone _ _ _ _ (by decide) hps]
    simp
  have hsame : ∀ b : Building, b.origin = .ip b.number → dev.Wired axlf b := by
    intro b horigin
    rw [Wired, horigin]
    simp only
    cases hlast : Connection.lastFor (dev.connectionsFor axlf) b.number with
    | none => trivial
    | some conn =>
        have hmem := (List.mem_filter.mp (List.mem_of_getLast? hlast)).1
        exact ⟨(hbanks conn hmem).1, (hbanks conn hmem).2, rfl⟩
  rw [banksDue_iff h hfit]
  intro j hj b hb
  have hmem := (Writes.slot_of_lastAt hb).1
  rw [buildImage, hips, List.mem_append, buildLayout] at hmem
  simp only [hpos, List.mem_append, length_buildIps, List.length_append, List.length_zipIdx] at hmem
  rcases hmem with (hmem | hmem) | hmem
  · exact hsame b (origin_buildIps b hmem)
  · exact hsame b (origin_buildIps b hmem)
  · obtain ⟨horigin, hle⟩ := number_soft b hmem
    rw [Wired, horigin]
    intro hlt
    rw [ipCount, hips, Option.getD_some, List.length_append] at hlt
    omega

end DeviceData

end Xrm
