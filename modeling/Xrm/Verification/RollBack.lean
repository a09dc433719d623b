import Xrm.Verification.Alike
import Xrm.Verification.Undo

/-! # Rolling back

A list whose allocation fails leaves a twin of the state before, also when its requests are
exclusive: the same channels taken by requests that would share their devices are given back
exactly, and the two runs stay twins.
-/

namespace Xrm

variable {prop : CuProperty} {c : Nat}

/-- A request of the client. -/
structure CuProperty.Of (c : Nat) (prop : CuProperty) : Prop where
  received : prop.Received
  clientId : prop.clientId = c

/-- The request, without a demand for exclusive access. -/
def CuProperty.shared (prop : CuProperty) : CuProperty := { prop with devExcl := false }

namespace DeviceData

variable {dev dev' : DeviceData} {svc devId : Nat} {res : CuResource}

theorem Touch.twin (h : Touch prop dev dev') (hs : dev.TableShape) (hc : prop.clientId ≠ 0) :
    dev.Twin prop.clientId dev' := by
  obtain ⟨-, dev₁, hreg, rfl⟩ := h
  have hregistered := twin_registered hs hc hreg
  exact hregistered.trans (twin_dropClient hregistered.shape' hc)

/-- A client that may use a device exclusively may also share it. -/
theorem Usable.shared (h : dev.Usable prop) : dev.Usable prop.shared where
  isLoaded := h.isLoaded
  notHeld := h.notHeld
  alone := by simp [CuProperty.shared]
  entry := h.entry

/-- The channel that a request takes on one twin is taken on the other one by the request that
shares the device. -/
theorem Grab.shared {twin : DeviceData} (h : Grab prop svc devId dev dev' res)
    (ht : twin.Twin prop.clientId dev) (hload : dev.isLoaded = true) (hc : prop.clientId ≠ 0) :
    ∃ twin', Grab prop.shared svc devId twin twin' res ∧ twin'.Twin prop.clientId dev' := by
  obtain ⟨dev₁, policyInfo, cuId, cu', chanId, hreg, hacq, rfl, rfl⟩ := h
  have husable := (usable_of_registered ht.shape' hload hreg).shared
  obtain ⟨twin₁, hreg'⟩ := ((ht.access prop.shared rfl).mp husable).registers
  have hshadow : twin.Twin prop.clientId twin₁ := @twin_registered prop.shared _ _ ht.shape hc hreg'
  have htwin := hshadow.symm.trans (ht.trans (twin_registered ht.shape' hc hreg))
  refine ⟨twin₁.grant prop cuId cu', ?_, htwin.grant prop cuId cu'⟩
  refine ⟨twin₁, policyInfo, cuId, cu', chanId, hreg', ?_, rfl, ?_⟩
  · rw [← ht.cuList]
    exact ⟨hacq.found⟩
  · exact htwin.grantedResource devId prop svc cuId cu' chanId

end DeviceData

namespace System

variable {D : Discipline} {s s' s₁ t : System} {svc : Nat} {done : List CuResource}

theorem Sound.twin (h : s.Sound D) : s.Twin c s := .refl fun dev hdev => (h dev hdev).shape

/-- A change of one device that leaves a twin of it. -/
theorem Twin.setDev_right (h : t.Twin c s) {i : Nat} {dev dev' : DeviceData}
    (hdev : s.devList[i]? = some dev) (ht : dev.Twin c dev') : t.Twin c (s.setDev i dev') := by
  rcases h.device i with ⟨-, hnone⟩ | ⟨twin, x, htwin, hx, htwinx⟩
  · rw [hdev] at hnone
    simp at hnone
  · rw [hdev, Option.some.injEq] at hx
    subst hx
    have hself : t.setDev i twin = t := by
      obtain ⟨hi, rfl⟩ := List.getElem?_eq_some_iff.mp htwin
      simp [System.setDev]
    rw [← hself]
    exact h.setDev (htwinx.trans ht) i

theorem Twin.touchStep (h : t.Twin prop.clientId s) (ht : TouchStep prop s s')
    (hc : prop.clientId ≠ 0) : t.Twin prop.clientId s' := by
  obtain ⟨i, dev, dev', hdev, htouch, rfl⟩ := ht
  have hshape : dev.TableShape := by
    rcases h.device i with ⟨-, hnone⟩ | ⟨twin, x, -, hx, htwin⟩
    · rw [hdev] at hnone
      simp at hnone
    · rw [hdev, Option.some.injEq] at hx
      rw [hx]
      exact htwin.shape'
  exact h.setDev_right hdev (htouch.twin hshape hc)

/-- What requests of a client have taken, requests that share their devices could have taken as
well; the states after the two are twins. -/
theorem Taken.shadow (h₀ : s.Good D) (hsvc : svc ≠ 0)
    (h : Taken (CuProperty.Of c) svc s s₁ done) : ∃ t, s.Lends t done ∧ t.Twin c s₁ := by
  induction h with
  | start => exact ⟨s, .refl h₀.sound, h₀.sound.twin⟩
  | touch hq _ ht ih =>
      obtain ⟨t, hlends, htwin⟩ := ih
      obtain ⟨hs, rfl⟩ := hq
      exact ⟨t, hlends, htwin.touchStep ht hs.1⟩
  | @grab s₁ done prop i dev dev' res hq hnamed hprev hdev hg ih =>
      obtain ⟨t, hlends, htwin⟩ := ih
      obtain ⟨hs, rfl⟩ := hq
      rcases htwin.device i with ⟨-, hnone⟩ | ⟨twin, x, hgettwin, hx, htwinx⟩
      · rw [hdev] at hnone
        simp at hnone
      rw [hdev, Option.some.injEq] at hx
      subst hx
      have hsound := (hprev.evolves (fun _ hq => hq.received) hsvc).sound h₀.sound
      have hload : dev.isLoaded = true := by
        obtain ⟨_, _, _, _, _, _, ⟨cu, _, hcu, -⟩, -⟩ := hg
        by_contra hl
        rw [Bool.not_eq_true] at hl
        rw [(hsound dev (List.mem_of_getElem? hdev)).unloaded hl] at hcu
        simp at hcu
      obtain ⟨twin', hg', htwin'⟩ := hg.shared htwinx hload hs.1
      refine ⟨t.setDev i twin', ?_, htwin.setDev htwin' i⟩
      have hsent : prop.shared.Received := hs
      have hgrab := hlends.grab h₀ hsent hsvc rfl hnamed hgettwin hg'
      exact hgrab.perm (List.perm_append_singleton res done).symm

/-- When all that was taken is released again, a twin of the state before comes back. -/
theorem Taken.rolledBack (h₀ : s.Good D) (hsvc : svc ≠ 0) (hc : c ≠ 0)
    (h : Taken (CuProperty.Of c) svc s s₁ done) : s.Twin c (releaseInOrder done s₁).1 := by
  obtain ⟨t, hlends, htwin⟩ := h.shadow h₀ hsvc
  have hclient : ∀ res ∈ done, res.clientId = c := by
    clear htwin hlends
    induction h with
    | start => simp
    | touch _ _ _ ih => exact ih
    | grab hq _ _ _ hg ih =>
        intro res hres
        rcases List.mem_append.mp hres with hres | hres
        · exact ih res hres
        · rw [List.mem_singleton.mp hres, hg.clientId, hq.clientId]
  have hback := (htwin.releaseInOrder hc done hclient).1
  rwa [hlends.releaseInOrder h₀] at hback

theorem Progress.rolledBack {r : System × Option (List CuResource)} (h₀ : s.Good D)
    (hsvc : svc ≠ 0) (hc : c ≠ 0) (h : Progress (CuProperty.Of c) svc s r) (hnone : r.2 = none) :
    s.Twin c r.1 := by
  rcases h with ⟨done, hsome, -⟩ | ⟨s₁, done, -, htaken, heq⟩
  · rw [hnone] at hsome
    simp at hsome
  · rw [heq]
    exact htaken.rolledBack h₀ hsvc hc

theorem SameDevice.rolledBack {r : System × Option (Nat × List CuResource)} (h₀ : s.Good D)
    (hsvc : svc ≠ 0) (hc : c ≠ 0) (h : SameDevice (CuProperty.Of c) svc s r)
    (hnone : r.2 = none) : s.Twin c r.1 := by
  induction h with
  | failed => exact h₀.sound.twin
  | found => simp at hnone
  | retry htaken _ ih =>
      have hsent : ∀ prop, CuProperty.Of c prop → prop.Received := fun _ hq => hq.received
      have hev := (htaken.evolves hsent hsvc).trans
        (releaseInOrder_evolves D _ _ (htaken.clientId hsent))
      exact (htaken.rolledBack h₀ hsvc hc).trans (ih (h₀.evolves hev) hnone)

/-- A list allocation that fails leaves a twin of the state before. -/
theorem resAllocCuList_rolledBack {listProp : CuListProperty} (h₀ : s.Good D) (hc : c ≠ 0)
    (hprops : ∀ prop ∈ listProp.items, CuProperty.Of c prop) {e : XrmError}
    (hfail : (s.resAllocCuList listProp).2 = .error e) :
    s.Twin c (s.resAllocCuList listProp).1 := by
  have hsame := (allocOnSameDevice_spec listProp.items hprops [] (List.range s.numDevice) s
    rfl).rolledBack h₀ (nextId_ne_zero _) hc
  have hitems := (allocItems_progress listProp.items hprops s [] rfl .start).rolledBack h₀
    (nextId_ne_zero _) hc
  rw [resAllocCuList] at hfail ⊢
  split at hfail
  · rename_i hnum
    rw [if_pos hnum]
    exact h₀.sound.twin
  rename_i hnum
  rw [if_neg hnum]
  split
  · rename_i hsameDevice
    rw [if_pos hsameDevice] at hfail
    generalize allocOnSameDevice listProp.items [] (List.range s.numDevice) s = r at hsame hfail ⊢
    obtain ⟨s₁, r⟩ := r
    cases r with
    | none => exact hsame rfl
    | some found => simp at hfail
  · rename_i hsameDevice
    rw [if_neg hsameDevice] at hfail
    generalize allocItems listProp.items s [] = r at hitems hfail ⊢
    obtain ⟨s₁, r⟩ := r
    cases r with
    | none => exact hitems rfl
    | some done => simp at hfail

end System

end Xrm
