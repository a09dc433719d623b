import Xrm.Model.Wire
import Xrm.Verification.Numbering
import Xrm.Verification.Scenario

/-! # Uuids as text

Each byte is two digits, and each pair of digits is one byte again, so the text of a uuid can be
read back by either program.
-/

namespace Xrm

/-- The digits that `binToHexstr` writes. -/
def hexAlphabet : List Char := "0123456789abcdef".toList

/-! ## One byte -/

theorem hexByte (b : UInt8) :
    ((hexValue (hexDigit (b.toNat / 16)) <<< 4) &&& 0xF0) |||
      (hexValue (hexDigit (b.toNat % 16)) &&& 0xF) = b := by
  have hall : ∀ n < 256, ((hexValue (hexDigit (n / 16)) <<< 4) &&& 0xF0) |||
      (hexValue (hexDigit (n % 16)) &&& 0xF) = UInt8.ofNat n := by decide +kernel
  have := hall b.toNat b.toNat_lt
  rwa [UInt8.ofNat_toNat] at this

/-- Two digits are the text of the byte that they are read as. -/
theorem hexDigits_pair {a b : Char} (ha : a ∈ hexAlphabet) (hb : b ∈ hexAlphabet) :
    let byte := ((hexValue a <<< 4) &&& 0xF0) ||| (hexValue b &&& 0xF)
    hexDigit (byte.toNat / 16) = a ∧ hexDigit (byte.toNat % 16) = b := by
  have hall : (hexAlphabet.all fun a => hexAlphabet.all fun b =>
      let byte := ((hexValue a <<< 4) &&& 0xF0) ||| (hexValue b &&& 0xF)
      hexDigit (byte.toNat / 16) == a && hexDigit (byte.toNat % 16) == b) = true := by
    decide +kernel
  have hone := List.all_eq_true.mp (List.all_eq_true.mp hall a ha) b hb
  simpa only [Bool.and_eq_true, beq_iff_eq] using hone

theorem hexDigit_ne_nul {n : Nat} : (hexDigit n).toNat ≠ 0 := by
  have hall : ∀ n < 16, (hexDigit n).toNat ≠ 0 := by decide +kernel
  by_cases hn : n < 16
  · exact hall n hn
  · rw [hexDigit, List.getD_eq_default]
    · decide
    · simpa using hn

theorem hexAlphabet_ne_nul {c : Char} (hc : c ∈ hexAlphabet) : c.toNat ≠ 0 := by
  have hall : (hexAlphabet.all fun c => c.toNat != 0) = true := by decide +kernel
  simpa only [bne_iff_ne] using List.all_eq_true.mp hall c hc

/-! ## Texts -/

theorem strncpy_eq {s : String} (h : s.toList.length < maxNameLen) : strncpy s = s := by
  rw [strncpy, List.take_of_length_le (by omega), String.ofList_toList]

theorem hexPairs_bytes (bytes : List UInt8) :
    hexPairs (bytes.flatMap fun b => [hexDigit (b.toNat / 16), hexDigit (b.toNat % 16)]) =
      bytes := by
  induction bytes with
  | nil => rfl
  | cons b bytes ih =>
      simp only [List.flatMap_cons, List.cons_append, List.nil_append, hexPairs]
      rw [ih, hexByte]

/-- The digits of the bytes that an even number of digits are read as. -/
theorem bytes_hexPairs {n : Nat} {cs : List Char} (hlen : cs.length = 2 * n)
    (hcs : ∀ c ∈ cs, c ∈ hexAlphabet) :
    ((hexPairs cs).flatMap fun b => [hexDigit (b.toNat / 16), hexDigit (b.toNat % 16)]) = cs := by
  induction n generalizing cs with
  | zero =>
      rw [List.eq_nil_of_length_eq_zero hlen]
      rfl
  | succ n ih =>
      match cs, hlen, hcs with
      | a :: b :: cs, hlen, hcs =>
          obtain ⟨ha, hb⟩ := hexDigits_pair (hcs a (by simp)) (hcs b (by simp))
          have hcs' : cs.length = 2 * n := by simpa [Nat.mul_succ] using hlen
          have hrest := ih hcs' fun c hc => hcs c (by simp [hc])
          simp only [hexPairs, List.flatMap_cons, ha, hb, hrest, List.cons_append,
            List.nil_append]

theorem length_binToHexstr (bytes : List UInt8) :
    (binToHexstr bytes).toList.length = 2 * bytes.length := by
  rw [binToHexstr, String.toList_ofList, List.length_flatMap]
  simp [Nat.mul_comm]

/-- Bytes come back from their text. -/
theorem hexstrToBin_binToHexstr_length (bytes : List UInt8) :
    hexstrToBin (binToHexstr bytes) (2 * bytes.length) = bytes := by
  have htext : cStr (binToHexstr bytes) = binToHexstr bytes := by
    apply cStr_eq
    intro c hc
    rw [binToHexstr, String.toList_ofList, List.mem_flatMap] at hc
    obtain ⟨b, -, hc⟩ := hc
    rcases List.mem_pair.mp hc with rfl | rfl
    · exact hexDigit_ne_nul
    · exact hexDigit_ne_nul
  rw [hexstrToBin, htext, List.take_left' (length_binToHexstr bytes), binToHexstr,
    String.toList_ofList, hexPairs_bytes]

/-- The uuid comes back from its text. -/
theorem hexstrToBin_binToHexstr {uuid : List UInt8} (h : uuid.length = 16) :
    hexstrToBin (binToHexstr uuid) uuidTextLen = uuid := by
  have hback := hexstrToBin_binToHexstr_length uuid
  rwa [h] at hback

/-- Digits come back from the bytes that they are read as. -/
theorem binToHexstr_hexstrToBin {s : String} {n : Nat} (hlen : s.toList.length = 2 * n)
    (hs : ∀ c ∈ s.toList, c ∈ hexAlphabet) : binToHexstr (hexstrToBin s (2 * n)) = s := by
  have htext : cStr s = s := cStr_eq fun c hc => hexAlphabet_ne_nul (hs c hc)
  rw [hexstrToBin, htext, List.take_left' hlen, binToHexstr, bytes_hexPairs hlen hs,
    String.ofList_toList]

/-! ## The uuids of the daemon and of its clients -/

namespace System

/-- Either program reads back what either has written. A device that has been loaded has the uuid
of the image, and in every state that the daemon reaches the uuid that a client is told of a loaded
device, and the one that it names to reserve such a device, are that one. -/
theorem uuids_survive :
    (∀ binToHexstr ∈ [Daemon.binToHexstr, Lib.binToHexstr],
      ∀ hexstrToBin ∈ [Daemon.hexstrToBin, Lib.hexstrToBin],
        (∀ bytes, hexstrToBin (binToHexstr bytes) (2 * bytes.length) = bytes) ∧
          ∀ (n : Nat) (s : String), s.toList.length = 2 * n → (∀ c ∈ s.toList, c ∈ hexAlphabet) →
            binToHexstr (hexstrToBin s (2 * n)) = s) ∧
    (∀ (dev dev' : DeviceData) (devId : Nat) (env : XrtEnv) (call : XrtCall)
      (xclbin errmsg errmsg' : String), dev.isLoaded = false →
        dev.deviceLoadXclbin devId env call xclbin errmsg = (dev', errmsg', .ok ()) →
          ∃ axlf, env.file xclbin = .image axlf ∧ dev'.isLoaded = true ∧ dev'.uuid = axlf.uuid) ∧
    ∀ (D : Discipline) (limit : Nat) (s : System), Reachable D limit s → ∀ dev ∈ s.devList,
      dev.isLoaded = true → dev.uuid.length = 16 →
        Lib.hexstrToBin (strncpy dev.uuidStr) uuidTextLen = dev.uuid ∧
          ∀ uuid : List UInt8, uuid.length = 16 →
            (Daemon.hexstrToBin (Lib.binToHexstr uuid) uuidTextLen = dev.uuid ↔
              uuid = dev.uuid) := by
  refine ⟨?_, ?_, ?_⟩
  · intro enc henc dec hdec
    have henc' : enc = binToHexstr := by
      rcases List.mem_pair.mp henc with rfl | rfl <;> rfl
    have hdec' : dec = hexstrToBin := by
      rcases List.mem_pair.mp hdec with rfl | rfl <;> rfl
    subst henc' hdec'
    exact ⟨hexstrToBin_binToHexstr_length, fun n s hlen hs => binToHexstr_hexstrToBin hlen hs⟩
  · intro dev dev' devId env call xclbin errmsg errmsg' hload heq
    have hattempted := DeviceData.deviceLoadXclbin_attempted hload devId env call xclbin errmsg
    rw [heq] at hattempted
    cases hattempted with
    | loaded hfile _ _ h => exact ⟨_, hfile, h.isLoaded, h.uuid⟩
  · intro D limit s h dev hdev hload hlen
    obtain ⟨i, hi⟩ := List.getElem?_of_mem hdev
    have htext := ((h.labelled i dev hi).2.loaded hload).2
    have hfits : dev.uuidStr.toList.length < maxNameLen := by
      rw [htext, length_binToHexstr, hlen]
      decide
    refine ⟨?_, fun uuid huuid => ?_⟩
    · rw [Lib.hexstrToBin, strncpy_eq hfits, htext, hexstrToBin_binToHexstr hlen]
    · rw [Daemon.hexstrToBin, Lib.binToHexstr, hexstrToBin_binToHexstr huuid]

open Scenario in
/-- A card and a file with a full uuid. -/
def uuidEnv : XrtEnv :=
  { Scenario.env 1 1 with
    file := fun _ => .image { image 1 with uuid := (List.range 16).map UInt8.ofNat } }

open Scenario in
def labelledRun : List Op := [.loadOneDevice uuidEnv 0 "scaler.xclbin"]

open Scenario in
theorem uuids_survive_loaded :
    Lib.hexstrToBin (Daemon.binToHexstr [0x0f, 0xa0]) 4 = [0x0f, 0xa0] ∧
      Daemon.binToHexstr (Lib.hexstrToBin "0fa0" 4) = "0fa0" ∧
      ∃ dev ∈ (after labelledRun).devList,
        Lib.hexstrToBin (strncpy dev.uuidStr) uuidTextLen = dev.uuid ∧
          (Daemon.hexstrToBin (Lib.binToHexstr (List.replicate 16 0)) uuidTextLen = dev.uuid ↔
            List.replicate 16 0 = dev.uuid) := by
  have hpair := uuids_survive.1 Daemon.binToHexstr (by simp) Lib.hexstrToBin (by simp)
  have hdev : ∃ dev ∈ (after labelledRun).devList, dev.isLoaded = true ∧ dev.uuid.length = 16 := by
    decide +kernel
  obtain ⟨dev, hmem, hload, hlen⟩ := hdev
  have htold := uuids_survive.2.2 allRuns 8 (after labelledRun)
    (reachable_after labelledRun (by decide +kernel)) dev hmem hload hlen
  have hdigits : ("0fa0".toList.all fun c => hexAlphabet.contains c) = true := by decide
  have htext : ∀ c ∈ "0fa0".toList, c ∈ hexAlphabet := fun c hc =>
    List.contains_iff_mem.mp (List.all_eq_true.mp hdigits c hc)
  exact ⟨hpair.1 [0x0f, 0xa0], hpair.2 2 "0fa0" (by decide) htext, dev, hmem, htold.1,
    htold.2 (List.replicate 16 0) (by simp)⟩

end System

end Xrm
