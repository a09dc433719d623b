import Xrm.Verification.Runs

/-! # A small installation

Devices whose driver never fails, all loaded with the same kind of image, and requests to
them. Concrete runs of the daemon are made of these.
-/

namespace Xrm

open Transition

namespace Scenario

/-- The driver when everything works; the CUs are placed in the order of the image. -/
def call : XrtCall where
  opens := true
  lockDevice := 0
  loadXclBin := 0
  ipName2Index := fun _ => XrmError.invalid.code
  openContext := 0
  closeContext := 0

/-- An image with `kernels` CUs of one kernel. -/
def image (kernels : Nat) : Axlf where
  uuid := [1]
  ipLayout := some (List.replicate kernels
    { ipType := .kernel, name := "scaler:scaler_1", baseAddress := 0 })
  softKernels := []
  memTopology := none
  connectivity := none
  keyvalueMetadata := .absent

/-- `devices` cards; every file is the image. -/
def env (devices kernels : Nat) : XrtEnv where
  probe := devices
  file := fun _ => .image (image kernels)
  call := fun _ _ => call

theorem env_gapless (devices kernels : Nat) : (env devices kernels).Gapless :=
  fun _ _ _ _ _ _ _ => ⟨.inr (.inl fun _ _ => rfl), .inr (.inl fun _ _ => rfl)⟩

/-- A request of client `c` for a load out of pool `p`. -/
def request (c p : Nat) (load : Int) : CuProperty where
  kernelName := "scaler"
  kernelAlias := ""
  cuName := ""
  devExcl := false
  requestLoadUnified := load
  requestLoadOriginal := 0
  clientId := c
  clientProcessId := 0
  poolId := p

/-- A version 2 request of client `c` for a load out of pool `p` under a policy. -/
def requestV2 (c p : Nat) (load : Int) (policyInfo : Nat) : CuPropertyV2 where
  kernelName := "scaler"
  kernelAlias := ""
  cuName := ""
  devExcl := false
  deviceInfo := 0
  policyInfo := policyInfo
  requestLoadUnified := load
  requestLoadOriginal := 0
  clientId := c
  clientProcessId := 0
  poolId := p

/-- A pool request of client `c` for one copy of a list. -/
def pool (c : Nat) (cuProps : List CuProperty) : CuPoolProperty where
  cuListProp := { cuProps := cuProps, cuNum := cuProps.length, sameDevice := false }
  cuListNum := 1
  xclbinUuid := []
  xclbinNum := 0
  clientId := c
  clientProcessId := 0

/-- A pool request that asks for nothing. -/
def noPool : CuPoolProperty where
  cuListProp := { cuProps := [], cuNum := 0, sameDevice := false }
  cuListNum := 0
  xclbinUuid := []
  xclbinNum := 0
  clientId := 1
  clientProcessId := 0

/-- A record for a channel of the first CU. -/
def recordOf (channelId : Int) (allocServiceId clientId : Nat) : CuResource where
  xclbinFileName := ""
  kernelPluginFileName := ""
  kernelName := ""
  kernelAlias := ""
  instanceName := ""
  cuName := ""
  uuidStr := ""
  deviceId := 0
  cuId := 0
  channelId := channelId
  cuType := .null
  baseAddr := 0
  membankId := 0
  membankType := 0
  membankSize := 0
  membankBaseAddr := 0
  allocServiceId := allocServiceId
  clientId := clientId
  channelLoadUnified := 0
  channelLoadOriginal := 0
  poolId := 0

/-- The daemon after the operations. -/
def after (ops : List Op) : System := ops.foldl step (System.initSystem 8)

end Scenario

namespace System

/-- Disciplined operations make a run. -/
theorem reachable_after {D : Discipline} (ops : List Op) (h : StepsOk D ops (initSystem 8)) :
    Reachable D 8 (Scenario.after ops) :=
  Reachable.run .refl ops h

/-- Pool requests that ask for nothing only move the counter of the pool ids. -/
theorem reachable_skip {limit : Nat} {s : System} (h : Reachable allRuns limit s) (n : Nat)
    (hn : s.reservePoolId + n ≤ maxId) :
    Reachable allRuns limit { s with reservePoolId := s.reservePoolId + n } := by
  induction n with
  | zero => exact h
  | succ n ih =>
      have hnext : step { s with reservePoolId := s.reservePoolId + n }
          (.resReserveCuPool Scenario.noPool) =
            { s with reservePoolId := s.reservePoolId + (n + 1) } := by
        have hid : nextId (s.reservePoolId + n) = s.reservePoolId + (n + 1) := by
          rw [nextId, if_neg (by omega), Nat.add_assoc]
        rw [← hid]
        rfl
      rw [← hnext]
      exact (ih (by omega)).next _
        ⟨by decide, False.elim, False.elim, False.elim, False.elim⟩

end System

end Xrm
