import Xrm.Verification.Recycling

/-! # References and exclusive access -/

namespace Xrm

open FixedTable

namespace DeviceData

variable {D : Discipline} {dev : DeviceData}

/-! ## References -/

/-- Some channel of the device belongs to client `c`. -/
def Holds (dev : DeviceData) (c : Nat) : Prop :=
  ∃ cu ∈ dev.cuList, ∃ chan ∈ cu.channels, chan.clientId = c

theorem holds_iff (dev : DeviceData) (c : Nat) : dev.Holds c ↔ 0 < dev.held c := by
  constructor
  · rintro ⟨cu, hcu, chan, hchan, hc⟩
    obtain ⟨i, hi, rfl⟩ := List.getElem_of_mem hcu
    have hle := held_channel_le (List.getElem?_eq_getElem hi) c
    have hone : heldBy c chan ≤ sumBy (heldBy c) dev.cuList[i].channels :=
      le_sumBy (fun chan _ => heldBy_nonneg c chan) hchan
    rw [heldBy, if_pos hc] at hone
    omega
  · intro hpos
    by_contra hno
    have hzero : dev.held c = 0 := by
      refine sumBy_eq_zero fun cu hcu => sumBy_eq_zero fun chan hchan => ?_
      rw [heldBy, if_neg]
      exact fun hc => hno ⟨cu, hcu, chan, hchan, hc⟩
    omega

/-- The client table counts the channels of the clients. -/
structure Counted (dev : DeviceData) : Prop where
  refs : ∀ c, c ≠ 0 → sumBy (refsOf c) dev.clientProcs = dev.held c
  once : ∀ c, c ≠ 0 → sumBy (naming c) dev.clientProcs ≤ 1
  entry_iff : ∀ c, c ≠ 0 → ((∃ entry ∈ dev.clientProcs, entry.clientId = c) ↔ dev.Holds c)
  nonneg : ∀ entry ∈ dev.clientProcs, 0 ≤ entry.ref

theorem Sound.counted (h : dev.Sound D) (hD : D.covered) (hB : D.balanced) : dev.Counted := by
  obtain ⟨refs, htally, hrefs⟩ := h.tally hD
  have hsum : ∀ c, c ≠ 0 → sumBy (refsOf c) dev.clientProcs = dev.held c := by
    intro c hc
    rw [htally.refs c hc, (hrefs c hc).2 hB]
  refine ⟨hsum, htally.once, fun c hc => ?_, fun entry he => (h.shape.proper entry he).ref_nonneg⟩
  rw [holds_iff, ← hsum c hc]
  constructor
  · rintro ⟨entry, he, heq⟩
    have hpos := (h.shape.proper entry he).ref_pos (by rw [heq]; exact hc)
    have hle : refsOf c entry ≤ sumBy (refsOf c) dev.clientProcs :=
      le_sumBy (fun e he => refsOf_nonneg (h.shape.proper e he) c) he
    rw [refsOf, if_pos heq] at hle
    omega
  · intro hpos
    by_contra hno
    rw [sumBy_refsOf_eq_zero fun entry he heq => hno ⟨entry, he, heq⟩] at hpos
    omega

/-! ## Exclusive access -/

/-- An exclusive device has a holder, which has channels there, and nobody else has. -/
structure Exclusive (dev : DeviceData) : Prop where
  holder : dev.holder.clientId ≠ 0
  holds : dev.Holds dev.holder.clientId
  alone : ∀ c, c ≠ 0 → dev.Holds c → c = dev.holder.clientId

theorem Sound.exclusive (h : dev.Sound D) (hD : D.covered) (hB : D.balanced)
    (hex : dev.isExcl = true) : dev.Exclusive := by
  have hcounted := h.counted hD hB
  have hholder := h.shape.holder hex
  have hmem : dev.holder ∈ dev.clientProcs := by
    rw [holder_eq h.shape.pos]
    exact List.getElem_mem _
  refine ⟨hholder, (hcounted.entry_iff _ hholder).mp ⟨dev.holder, hmem, rfl⟩, fun c hc hholds => ?_⟩
  by_contra hne
  obtain ⟨entry, he, heq⟩ := (hcounted.entry_iff c hc).mpr hholds
  exact h.shape.not_mem hex hc (Ne.symm hne) entry he heq

end DeviceData

namespace System

/-! ## All runs -/

/-- Device reference counts. In every run in which each reference has its channel and each
channel its reference, the client tables count the channels of the clients. -/
theorem refs_counted {limit : Nat} {s : System} (h : Reachable balancedRuns limit s) :
    ∀ dev ∈ s.devList, dev.Counted :=
  fun dev hdev => (h.good.sound dev hdev).counted trivial trivial

theorem refs_counted_shared :
    ∃ s, Reachable balancedRuns 8 s ∧ ∀ dev ∈ s.devList, dev.Counted := by
  have hrun : Reachable balancedRuns 8 _ := reachable_after sharedRun
    (stepsOk_of_plain id id id sharedRun (by decide) _)
  exact ⟨_, hrun, refs_counted hrun⟩

/-- A client registered on a device that is not loaded has a reference without a channel. -/
theorem refs_not_counted :
    ∃ limit s, Reachable allRuns limit s ∧ ¬∀ dev ∈ s.devList, dev.Counted := by
  refine ⟨8, Scenario.after unloadedRun, reachable_after unloadedRun (by decide +kernel),
    fun hall => ?_⟩
  have hrefs := fun dev hdev => (hall dev hdev).refs 1 (by decide)
  exact absurd hrefs (by decide +kernel)

/-- Exclusive access. In the same runs an exclusive device has a holder with channels on it
and no channel of anybody else. -/
theorem exclusive_access {limit : Nat} {s : System} (h : Reachable balancedRuns limit s) :
    ∀ dev ∈ s.devList, dev.isExcl = true → dev.Exclusive :=
  fun dev hdev hex => (h.good.sound dev hdev).exclusive trivial trivial hex

end System

open Scenario in
/-- Client 1 takes a device for itself. -/
def exclusiveRun : List Op :=
  [.loadOneDevice (env 1 1) 0 "scaler.xclbin",
    .resAllocCu { request 1 0 300000 with devExcl := true } true]

open Scenario in
/-- Client 1 asks for exclusive access to the device in use most; the only device is not
loaded. -/
def unloadedExclusiveRun : List Op :=
  [.getDeviceNumber (env 1 1),
    .resAllocCuV2
      { kernelName := "scaler"
        kernelAlias := ""
        cuName := ""
        devExcl := true
        deviceInfo := 0
        policyInfo := policyDevMostUsedFirst
        requestLoadUnified := 300000
        requestLoadOriginal := 30
        clientId := 1
        clientProcessId := 0
        poolId := 0 } true]

namespace System

theorem exclusive_access_exclusive : ∃ s, Reachable balancedRuns 8 s ∧
    ∃ dev ∈ s.devList, dev.isExcl = true ∧ dev.Exclusive := by
  have hrun : Reachable balancedRuns 8 _ := reachable_after exclusiveRun
    (stepsOk_of_plain id id id exclusiveRun (by decide) _)
  have hex : ∃ dev ∈ (Scenario.after exclusiveRun).devList, dev.isExcl = true := by
    decide +kernel
  obtain ⟨dev, hdev, hex⟩ := hex
  exact ⟨_, hrun, dev, hdev, hex, exclusive_access hrun dev hdev hex⟩

/-- A device that is not loaded becomes exclusive to a client that holds nothing on it. -/
theorem exclusive_without_channel : ∃ limit s, Reachable allRuns limit s ∧
    ¬∀ dev ∈ s.devList, dev.isExcl = true → dev.Exclusive := by
  refine ⟨8, Scenario.after unloadedExclusiveRun,
    reachable_after unloadedExclusiveRun (by decide +kernel), fun hall => ?_⟩
  have hholds := fun dev hdev hex => (hall dev hdev hex).holds
  have hcus : ∀ dev ∈ (Scenario.after unloadedExclusiveRun).devList,
      dev.isExcl = true ∧ dev.cuList = [] := by decide +kernel
  have hsome : ∃ dev, dev ∈ (Scenario.after unloadedExclusiveRun).devList := by
    exact List.exists_mem_of_length_pos (by decide +kernel)
  obtain ⟨dev, hdev⟩ := hsome
  obtain ⟨hex, hnil⟩ := hcus dev hdev
  obtain ⟨cu, hcu, -⟩ := hholds dev hdev hex
  rw [hnil] at hcu
  simp at hcu

end System

end Xrm
