import Xrm.Verification.Placement
import Xrm.Verification.RollBack

/-! # Allocating a list

A list allocation serves every item or takes nothing.
-/

namespace Xrm

namespace System

variable {D : Discipline} {s s' s₁ : System} {svc c : Nat} {props props' : List CuProperty}
  {done done' : List CuResource} {listProp : CuListProperty} {listRes : CuListResource}

/-- What is served in two parts is served. -/
theorem Batch.append (h : Batch D svc s s₁ props done) (h' : Batch D svc s₁ s' props' done') :
    Batch D svc s s' (props ++ props') (done ++ done') := by
  have hfirst := h.kept h'.toKept
  have hsecond := h'.after h.toKept
  refine { hfirst with serves := ?_, fresh := ?_, apart := ?_ }
  · exact List.rel_append hfirst.serves h'.serves
  · intro res hres
    rcases List.mem_append.mp hres with hres | hres
    · exact h.fresh res hres
    · exact hsecond.fresh res hres
  · rw [List.map_append, List.nodup_append]
    refine ⟨h.apart, h'.apart, ?_⟩
    intro a ha b hb heq
    obtain ⟨res, hres, rfl⟩ := List.mem_map.mp ha
    obtain ⟨res', hres', rfl⟩ := List.mem_map.mp hb
    have hlive := h.live res hres
    rw [heq] at hlive
    exact hlive (h'.fresh res' hres')

/-- The item loop over all devices serves the items. -/
theorem allocItems_batch (hq : ∀ prop ∈ props', prop.Sent) (hsvc : svc = s.getNextAllocServiceId)
    (h : Batch D svc s s₁ props done) (hok : allocItems props' s₁ done = (s', some done')) :
    Batch D svc s s' (props ++ props') done' := by
  induction props' generalizing s₁ props done with
  | nil =>
      rw [allocItems, Prod.mk.injEq, Option.some.injEq] at hok
      obtain ⟨rfl, rfl⟩ := hok
      rwa [List.append_nil]
  | cons prop props' ih =>
      have halloc := s₁.resAllocCu_allocates prop false
      rw [allocItems] at hok
      split at hok
      · rename_i s₂ res heq
        rw [heq] at halloc
        have hone := halloc.batch (D := D) h.sound (hq prop (by simp)) rfl
        rw [h.nextId, ← hsvc] at hone
        have hall := ih (fun p hp => hq p (by simp [hp])) (h.append hone) hok
        simpa using hall
      · simp at hok

/-- The results of a list allocation, item by item: each names a channel of its own that was free
and now carries the item, under one new service id, and all are on one device if the list asks for
it. No other channel in use has changed. -/
structure ServesList (s s' : System) (listProp : CuListProperty) (listRes : CuListResource) :
    Prop where
  cuNum : listRes.cuNum = listProp.items.length
  newId : s'.allocServiceId = s.getNextAllocServiceId
  serves : List.Forall₂ (s'.Serves s.getNextAllocServiceId) listProp.items listRes.cuResources
  fresh : ∀ res ∈ listRes.cuResources, s.liveAt res.place = none
  apart : (listRes.cuResources.map (·.place)).Nodup
  spares : s.Spares s' []
  sameDevice : listProp.sameDevice = true →
    ∃ devId : Nat, ∀ res ∈ listRes.cuResources, res.deviceId = devId

theorem Batch.servesList (h : Batch D s.getNextAllocServiceId s s₁ listProp.items done)
    (hsame : listProp.sameDevice = true → ∃ devId : Nat, ∀ res ∈ done, res.deviceId = devId) :
    s.ServesList s₁.updateAllocServiceId listProp (listResource done) where
  cuNum := by rw [listResource, h.serves.length_eq]
  newId := h.nextId
  serves :=
    have hspares : s₁.Spares s₁.updateAllocServiceId [] := ⟨fun _ _ _ h => h, fun _ => rfl, rfl⟩
    h.serves.imp fun _ _ hserves =>
      ⟨hserves.holds.spared hspares (by simp), hserves.named, hserves.sent⟩
  fresh := h.fresh
  apart := h.apart
  spares := ⟨h.spares.live, h.spares.infos, h.spares.numDevice⟩
  sameDevice := hsame

theorem resAllocCuList_serves (hsound : s.Sound D) (hq : ∀ prop ∈ listProp.items, prop.Sent)
    (hok : s.resAllocCuList listProp = (s', .ok listRes)) : s.ServesList s' listProp listRes := by
  rw [resAllocCuList] at hok
  split at hok
  · simp at hok
  split at hok
  · have hsame := allocOnSameDevice_batch (D := D) hq [] (List.range s.numDevice) hsound rfl
    split at hok
    · rename_i s₁ devId done heq
      rw [heq] at hsame
      rw [Prod.mk.injEq, Except.ok.injEq] at hok
      obtain ⟨rfl, rfl⟩ := hok
      exact hsame.1.servesList fun _ => ⟨devId, hsame.2.1⟩
    · simp at hok
  · rename_i hsame
    split at hok
    · rename_i s₁ done heq
      rw [Prod.mk.injEq, Except.ok.injEq] at hok
      obtain ⟨rfl, rfl⟩ := hok
      have hall := allocItems_batch (D := D) hq rfl (.start _ hsound) heq
      exact hall.servesList fun h => absurd h hsame
    · simp at hok

/-- A list request of one client serves every item with a channel of its own or takes nothing: then
the devices are what they were but for the client's entries in their client tables, and the client
may use each of them for the same requests as before. -/
theorem list_all_or_nothing {limit : Nat} (h : Reachable allRuns limit s) (hc : c ≠ 0)
    (hq : ∀ prop ∈ listProp.items, prop.Sent ∧ prop.clientId = c) :
    (∀ s' listRes, s.resAllocCuList listProp = (s', .ok listRes) →
      s.ServesList s' listProp listRes) ∧
      ∀ s' e, s.resAllocCuList listProp = (s', .error e) → s.Twin c s' := by
  constructor
  · intro s' listRes hok
    exact resAllocCuList_serves h.good.sound (fun prop hprop => (hq prop hprop).1) hok
  · intro s' e hfail
    have hback := resAllocCuList_rolledBack h.good hc
      (fun prop hprop => ⟨(hq prop hprop).1.received, (hq prop hprop).2⟩) (congrArg Prod.snd hfail)
    rwa [congrArg Prod.fst hfail] at hback

/-- Two items of client 2 for one device. -/
def closeList : CuListProperty where
  cuProps := [Scenario.request 2 0 300000, Scenario.request 2 0 800000]
  cuNum := 2
  sameDevice := true

open Scenario in
theorem list_all_or_nothing_close :
    (∀ s' listRes, (after occupiedRun).resAllocCuList closeList = (s', .ok listRes) →
      (after occupiedRun).ServesList s' closeList listRes) ∧
      ∀ s' e, (after occupiedRun).resAllocCuList closeList = (s', .error e) →
        (after occupiedRun).Twin 2 s' :=
  list_all_or_nothing (reachable_after occupiedRun (by decide +kernel)) (by decide)
    (by decide)

open Scenario in
example : ((after occupiedRun).resAllocCuList closeList).2.toOption.map
    (·.cuResources.map fun res => (res.deviceId, res.cuId)) = some [(0, 0), (0, 1)] := by
  decide +kernel

end System

end Xrm
