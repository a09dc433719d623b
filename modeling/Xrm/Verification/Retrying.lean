import Xrm.Model.Blocking

/-! # Blocking allocations

When the blocking calls of the library retry only for want of a free resource, and end when the
request itself is rejected.
-/

namespace Xrm

namespace Client

variable {ρ : Type}

/-- The verdicts that the error codes document as the lack of a kernel, a device or a channel. -/
def Lacking (ret : Int) : Prop :=
  ret = XrmError.noKernel.code ∨ ret = XrmError.noDev.code ∨ ret = XrmError.noChan.code

instance (ret : Int) : Decidable (Lacking ret) := by
  unfold Lacking
  infer_instance

namespace Reply

def Unavailable (r : Reply ρ) : Prop := ∃ ret, r.ret? = some ret ∧ Lacking ret

/-- The request is rejected. -/
def Rejected (r : Reply ρ) : Prop := r.ret? = some XrmError.invalid.code

@[simp]
theorem rejected_invalid (res : Option ρ) : (invalid res).Rejected := rfl

theorem Unavailable.not_final {r : Reply ρ} (h : r.Unavailable) : r.final = false := by
  obtain ⟨ret, hret, hlack⟩ := h
  cases r with
  | thrown => simp [ret?] at hret
  | returned ret' res =>
      simp only [ret?, Option.some.injEq] at hret
      subst hret
      rcases hlack with rfl | rfl | rfl <;> rfl

theorem Rejected.not_final {r : Reply ρ} (h : r.Rejected) : r.final = false := by
  cases r with
  | thrown => simp [Rejected, ret?] at h
  | returned ret res =>
      simp only [Rejected, ret?, Option.some.injEq] at h
      subst h
      rfl

theorem Rejected.not_unavailable {r : Reply ρ} (h : r.Rejected) : ¬r.Unavailable := by
  rintro ⟨ret, hret, hlack⟩
  rw [h, Option.some.injEq] at hret
  subst hret
  revert hlack
  decide

end Reply

/-- A blocking call that does not spin: it retries only after a verdict that the resource is
unavailable, a rejected attempt ends it with that verdict, and so it does end with that verdict
where the call that it repeats rejects the request whatever the daemon answers. -/
structure Patient (alloc : Daemon → Reply ρ) (call : Nat → Progress ρ) : Prop where
  retries : ∀ fuel, ∀ r ∈ (call fuel).1.dropLast, r.Unavailable
  returns : ∀ fuel, ∀ r ∈ (call fuel).1, r.Rejected → ∃ fuel', (call fuel').2 = some r
  rejects : (∀ daemon, (alloc daemon).Rejected) →
    ∃ fuel r, (call fuel).2 = some r ∧ r.Rejected

/-! ## Answers -/

/-- The verdict of the daemon on a request; none where its answer has none. -/
def verdict (daemon : Daemon) (request : PropertyTree) : Option Int :=
  match daemon request with
  | none => some connectFail
  | some rsp => rsp.getInt .int32 "response.status.value"

/-- The first verdict that is not the lack of a resource is success or a lost connection, or there
is none in the answer. -/
def Settles (verdicts : Nat → Option Int) : Prop :=
  ∀ n, (∀ k < n, ∃ ret, verdicts k = some ret ∧ Lacking ret) →
    (∀ ret, verdicts n = some ret → ret = 0 ∨ ret = connectFail ∨ Lacking ret)

section Exchange

variable {daemon : Daemon} {request : PropertyTree} {zero : ρ} {read : PropertyTree → Option ρ}

theorem exchange_final_iff :
    (exchange daemon request zero read).final = true ↔
      ∀ ret, verdict daemon request = some ret → ret = 0 ∨ ret = connectFail := by
  rw [exchange, verdict]
  cases daemon request with
  | none => simp [Reply.final]
  | some rsp =>
      simp only
      cases rsp.getInt .int32 "response.status.value" with
      | none => simp [Reply.final]
      | some ret =>
          simp only
          by_cases hret : ret = 0
          · subst hret
            rw [if_pos rfl]
            cases read rsp with
            | none => simp [Reply.final]
            | some res => simp [Reply.final]
          · rw [if_neg hret]
            simp [Reply.final, hret]

theorem exchange_unavailable_iff :
    (exchange daemon request zero read).Unavailable ↔
      ∃ ret, verdict daemon request = some ret ∧ Lacking ret := by
  rw [exchange, verdict]
  cases daemon request with
  | none => simp [Reply.Unavailable, Reply.ret?]
  | some rsp =>
      simp only
      cases rsp.getInt .int32 "response.status.value" with
      | none => simp [Reply.Unavailable, Reply.ret?]
      | some ret =>
          simp only
          by_cases hret : ret = 0
          · subst hret
            have hlack : ¬Lacking 0 := by decide
            rw [if_pos rfl]
            cases read rsp with
            | none => simp [Reply.Unavailable, Reply.ret?, hlack]
            | some res => simp [Reply.Unavailable, Reply.ret?]
          · rw [if_neg hret]
            simp [Reply.Unavailable, Reply.ret?]

end Exchange

/-! ## The loop -/

section Loop

variable {refused : Bool} {existing : Option Bool} {alloc : Daemon → Reply ρ}
  {daemon : Nat → Daemon}

theorem blockingAlloc_refused (existing : Option Bool) (alloc : Nat → Reply ρ) (fuel : Nat) :
    blockingAlloc true existing alloc fuel = ([], some (.invalid none)) := rfl

theorem blockingAlloc_existing (alloc : Nat → Reply ρ) (fuel : Nat) :
    blockingAlloc false (some true) alloc fuel = Retry.loop Reply.final alloc fuel 0 := rfl

/-- A call that ends at once makes no attempt. -/
theorem patient_of_early {call : Nat → Progress ρ} {end_ : Reply ρ}
    (hcall : ∀ fuel, call fuel = ([], some end_))
    (hrej : (∀ d, (alloc d).Rejected) → end_.Rejected) : Patient alloc call := by
  refine ⟨fun fuel r hr => ?_, fun fuel r hr => ?_,
    fun hall => ⟨0, end_, by rw [hcall], hrej hall⟩⟩
  · simp [hcall] at hr
  · simp [hcall] at hr

theorem patient_of_refused (h : refused = true) :
    Patient alloc (blockingAlloc refused existing fun n => alloc (daemon n)) := by
  subst h
  exact patient_of_early (blockingAlloc_refused existing _) fun _ => Reply.rejected_invalid none

/-- Where the request is rejected, the loop does not end. -/
theorem not_patient_of_rejected (h : refused = false) (hrej : ∀ d, (alloc d).Rejected) :
    ¬Patient alloc (blockingAlloc refused existing fun n => alloc (daemon n)) := by
  intro hpat
  subst h
  obtain ⟨fuel, r, hret, hr⟩ := hpat.rejects hrej
  cases existing with
  | none =>
      rw [show (blockingAlloc false none _ fuel).2 = some .thrown from rfl,
        Option.some.injEq] at hret
      subst hret
      simp [Reply.Rejected, Reply.ret?] at hr
  | some b =>
      cases b with
      | false =>
          rw [show (blockingAlloc false (some false) _ fuel).2 =
            some (.returned XrmError.noKernel.code none) from rfl, Option.some.injEq] at hret
          subst hret
          revert hr
          simp [Reply.Rejected, Reply.ret?, XrmError.code]
      | true =>
          rw [blockingAlloc_existing] at hret
          obtain ⟨n, -, hfinal, -⟩ := Retry.returns_iff.mp ⟨fuel, hret⟩
          rw [(hrej (daemon n)).not_final] at hfinal
          simp at hfinal

/-- A request that is sent as it is: the daemon's verdicts decide. -/
theorem patient_iff_of_exchange {request : PropertyTree} {zero : ρ}
    {read : PropertyTree → Option ρ} (h : refused = false)
    (halloc : ∀ d, alloc d = exchange d request zero read) :
    Patient alloc (blockingAlloc refused existing fun n => alloc (daemon n)) ↔
      (existing = some true → Settles fun n => verdict (daemon n) request) := by
  have hnot : ¬∀ d, (alloc d).Rejected := by
    intro hall
    have hone := hall fun _ => none
    rw [halloc] at hone
    revert hone
    simp [exchange, Reply.Rejected, Reply.ret?, connectFail, XrmError.code]
  have hloop : (∀ fuel,
      ∀ r ∈ (Retry.loop Reply.final (fun n => alloc (daemon n)) fuel 0).1.dropLast,
      r.Unavailable) ↔ Settles fun n => verdict (daemon n) request := by
    rw [Retry.retried_all_iff fun r hr => hr.not_final, Settles]
    simp only [halloc, exchange_final_iff, exchange_unavailable_iff]
    refine forall_congr' fun n => forall_congr' fun _ => ?_
    cases verdict (daemon n) request with
    | none => simp
    | some ret => simp [or_assoc]
  subst h
  constructor
  · rintro hpat rfl
    exact hloop.mp fun fuel r hr => hpat.retries fuel r hr
  · intro hset
    cases existing with
    | none => exact patient_of_early (fun _ => rfl) fun hall => absurd hall hnot
    | some b =>
        cases b with
        | false => exact patient_of_early (fun _ => rfl) fun hall => absurd hall hnot
        | true =>
            have hretry := hloop.mpr (hset rfl)
            refine ⟨hretry, fun fuel r hr hrej => ?_, fun hall => absurd hall hnot⟩
            -- after a rejected attempt the loop goes on, so there is none
            obtain ⟨n, hgo, rfl⟩ := Retry.exists_goesOn_of_mem hr
            obtain ⟨fuel', hmem⟩ := Retry.retried_iff.mpr ⟨n, hgo.succ hrej.not_final, rfl⟩
            exact absurd (hretry fuel' _ hmem) hrej.not_unavailable

end Loop

/-! ## The three calls -/

section Calls

variable {context : Option XrmContext} {interval : Nat} {res : Bool} {query : Daemon}
  {daemon : Nat → Daemon}

theorem cuRefused_eq_false {cuProp : Option XrmCuProperty}
    (h : cuRefused context cuProp interval res = false) :
    ∃ ctx prop, context = some ctx ∧ cuProp = some prop ∧
      ∀ d, xrmCuAlloc context cuProp res d =
        exchange d (cuAllocRequest ctx prop) XrmCuResource.zero getCuResource := by
  cases context with
  | none => simp [cuRefused] at h
  | some ctx =>
      cases cuProp with
      | none => simp [cuRefused] at h
      | some prop =>
          cases res with
          | false => simp [cuRefused] at h
          | true =>
              simp only [cuRefused, Bool.or_eq_false_iff, bne_eq_false_iff_eq,
                decide_eq_false_iff_not] at h
              obtain ⟨⟨⟨hversion, hnamed⟩, hload⟩, -⟩ := h
              refine ⟨ctx, prop, rfl, rfl, fun d => ?_⟩
              simp [xrmCuAlloc, hversion, hnamed, hload]

theorem cuListRefused_eq_false {listProp : Option XrmCuListProperty}
    (h : cuListRefused context listProp interval res = false) :
    ∃ ctx prop, context = some ctx ∧ listProp = some prop ∧
      ∀ d, xrmCuListAlloc context listProp res d =
        match cuListAllocRequest ctx prop with
        | none => .invalid (some XrmCuListResource.zero)
        | some request => exchange d request XrmCuListResource.zero getCuListResource := by
  cases context with
  | none => simp [cuListRefused] at h
  | some ctx =>
      cases listProp with
      | none => simp [cuListRefused] at h
      | some prop =>
          cases res with
          | false => simp [cuListRefused] at h
          | true =>
              simp only [cuListRefused, Bool.or_eq_false_iff, bne_eq_false_iff_eq,
                decide_eq_false_iff_not] at h
              obtain ⟨⟨hversion, hrange⟩, -⟩ := h
              refine ⟨ctx, prop, rfl, rfl, fun d => ?_⟩
              cases hrequest : cuListAllocRequest ctx prop with
              | none =>
                  simp only [xrmCuListAlloc, hversion, hrange, hrequest, ne_eq, not_true_eq_false,
                    if_false, Bool.false_eq_true]
              | some request =>
                  simp only [xrmCuListAlloc, hversion, hrange, hrequest, ne_eq, not_true_eq_false,
                    if_false, Bool.false_eq_true]

theorem cuGroupRefused_eq_false {groupProp : Option XrmCuGroupProperty}
    (h : cuGroupRefused context groupProp interval res = false) :
    ∃ ctx prop, context = some ctx ∧ groupProp = some prop ∧
      ∀ d, xrmCuGroupAlloc context groupProp res d =
        exchange d (cuGroupAllocRequest ctx prop) XrmCuListResource.zero getCuListResource := by
  cases context with
  | none => simp [cuGroupRefused] at h
  | some ctx =>
      cases groupProp with
      | none => simp [cuGroupRefused] at h
      | some prop =>
          cases res with
          | false => simp [cuGroupRefused] at h
          | true =>
              simp only [cuGroupRefused, Bool.or_eq_false_iff, bne_eq_false_iff_eq,
                beq_eq_false_iff_ne, decide_eq_false_iff_not] at h
              obtain ⟨⟨hversion, hnamed⟩, -⟩ := h
              refine ⟨ctx, prop, rfl, rfl, fun d => ?_⟩
              simp [xrmCuGroupAlloc, hversion, hnamed]

/-- The properties of a list are put exactly when every one is named and has a load. -/
theorem putCuProps_isSome (cuProps : List XrmCuProperty) (i : Nat) (t : PropertyTree) :
    (putCuProps i cuProps t).isSome ↔
      ∀ prop ∈ cuProps, prop.unnamed = false ∧ 0 ≤ xrmRetrieveLoadInfo prop.requestLoad := by
  induction cuProps generalizing i t with
  | nil => simp [putCuProps]
  | cons prop cuProps ih =>
      rw [putCuProps]
      by_cases hnamed : prop.unnamed
      · simp [hnamed]
      · rw [if_neg hnamed]
        by_cases hload : xrmRetrieveLoadInfo prop.requestLoad < 0
        · simp [hload]
        · rw [if_neg hload, ih]
          simp [hnamed, Int.not_lt.mp hload]

/-- The blocking calls do not spin. For every request and all answers of the daemon, a call retries
only for want of a resource and ends when its request is rejected exactly when it refuses the
request itself or, where the resource exists, the first verdict of the daemon that is not the lack
of a resource ends the loop; for a list, when all its entries are named and have a load besides. -/
theorem blocking_calls_patient (context : Option XrmContext) (interval : Nat) (res : Bool)
    (query : Daemon) (daemon : Nat → Daemon) :
    (∀ cuProp, Patient (xrmCuAlloc context cuProp res)
        (xrmCuBlockingAlloc context cuProp interval res query daemon) ↔
      (cuRefused context cuProp interval res = false → ∀ ctx prop, context = some ctx →
        cuProp = some prop → xrmIsCuExisting context cuProp query = some true →
          Settles fun n => verdict (daemon n) (cuAllocRequest ctx prop))) ∧
    (∀ listProp, Patient (xrmCuListAlloc context listProp res)
        (xrmCuListBlockingAlloc context listProp interval res query daemon) ↔
      (cuListRefused context listProp interval res = false → ∀ ctx prop, context = some ctx →
        listProp = some prop →
          (∀ cuProp ∈ prop.requested,
            cuProp.unnamed = false ∧ 0 ≤ xrmRetrieveLoadInfo cuProp.requestLoad) ∧
          (xrmIsCuListExisting context listProp query = some true →
            ∀ request, cuListAllocRequest ctx prop = some request →
              Settles fun n => verdict (daemon n) request))) ∧
    (∀ groupProp, Patient (xrmCuGroupAlloc context groupProp res)
        (xrmCuGroupBlockingAlloc context groupProp interval res query daemon) ↔
      (cuGroupRefused context groupProp interval res = false → ∀ ctx prop, context = some ctx →
        groupProp = some prop → xrmIsCuGroupExisting context groupProp query = some true →
          Settles fun n => verdict (daemon n) (cuGroupAllocRequest ctx prop))) := by
  refine ⟨fun cuProp => ?_, fun listProp => ?_, fun groupProp => ?_⟩
  · cases href : cuRefused context cuProp interval res with
    | true => exact ⟨fun _ h => by simp at h, fun _ => patient_of_refused href⟩
    | false =>
        obtain ⟨ctx, prop, rfl, rfl, halloc⟩ := cuRefused_eq_false href
        refine (patient_iff_of_exchange href halloc).trans ⟨?_, fun h => h rfl ctx prop rfl rfl⟩
        rintro h - _ _ ⟨⟩ ⟨⟩
        exact h
  · cases href : cuListRefused context listProp interval res with
    | true => exact ⟨fun _ h => by simp at h, fun _ => patient_of_refused href⟩
    | false =>
        obtain ⟨ctx, prop, rfl, rfl, halloc⟩ := cuListRefused_eq_false href
        have hput := putCuProps_isSome prop.requested 0
          ((requestHead "cuListAlloc").putAll
            (("request.parameters.cuNum", prop.cuNum.repr) :: clientFields ctx ++
              processField ctx ++ [("request.parameters.sameDevice", (flag prop.sameDevice).repr)]))
        rw [← cuListAllocRequest] at hput
        cases hreq : cuListAllocRequest ctx prop with
        | none =>
            rw [hreq] at hput halloc
            refine ⟨fun hpat => absurd hpat ?_, fun h => ?_⟩
            · exact not_patient_of_rejected href fun d => by simp [halloc d]
            · exact absurd (hput.mpr (h rfl ctx prop rfl rfl).1) (by simp)
        | some request =>
            rw [hreq] at hput halloc
            refine (patient_iff_of_exchange href halloc).trans ⟨?_, fun h hex => ?_⟩
            · rintro h - _ _ ⟨⟩ ⟨⟩
              refine ⟨hput.mp rfl, fun hex request' hreq' => ?_⟩
              rw [hreq, Option.some.injEq] at hreq'
              rw [← hreq']
              exact h hex
            · exact (h rfl ctx prop rfl rfl).2 hex request hreq
  · cases href : cuGroupRefused context groupProp interval res with
    | true => exact ⟨fun _ h => by simp at h, fun _ => patient_of_refused href⟩
    | false =>
        obtain ⟨ctx, prop, rfl, rfl, halloc⟩ := cuGroupRefused_eq_false href
        refine (patient_iff_of_exchange href halloc).trans ⟨?_, fun h => h rfl ctx prop rfl rfl⟩
        rintro h - _ _ ⟨⟩ ⟨⟩
        exact h

end Calls

/-! ## A list with a wrong load -/

def listContext : XrmContext := ⟨1, 1, 0⟩

/-- The second compute unit is requested without a load. -/
def unloadedList : XrmCuListProperty where
  cuProps := [⟨"scaler", "", false, 50, 0⟩, ⟨"scaler", "", false, 0, 0⟩]
  cuNum := 2
  sameDevice := false

/-- The daemon has the kernel, but none of it is free. -/
def busyDaemon : Daemon := fun _ =>
  some ((PropertyTree.empty.putInt "response.status.value" (-4)).putInt
    "response.data.isCuListExisting" 1)

def kernelDaemon : Daemon := fun _ =>
  some ((PropertyTree.empty.putInt "response.status.value" 0).putInt
    "response.data.isCuListExisting" 1)

/-- Every attempt is rejected, and the call never returns. -/
theorem blocking_list_spins :
    (∀ d, (xrmCuListAlloc (some listContext) (some unloadedList) true d).Rejected) ∧
      ∀ fuel, (xrmCuListBlockingAlloc (some listContext) (some unloadedList) 0 true kernelDaemon
        (fun _ => busyDaemon) fuel).2 = none := by
  have hrej : ∀ d, (xrmCuListAlloc (some listContext) (some unloadedList) true d).Rejected := by
    intro d
    have hnone : cuListAllocRequest listContext unloadedList = none := by decide +kernel
    have hversion : listContext.xrmApiVersion = xrmApiVersion1 := rfl
    have hrange : unloadedList.outOfRange = false := by decide
    simp [xrmCuListAlloc, hversion, hrange, hnone]
  refine ⟨hrej, fun fuel => ?_⟩
  have href : cuListRefused (some listContext) (some unloadedList) 0 true = false := by decide
  have hex : xrmIsCuListExisting (some listContext) (some unloadedList) kernelDaemon =
      some true := by decide +kernel
  rw [xrmCuListBlockingAlloc, href, hex, blockingAlloc_existing,
    Retry.loop_of_goesOn fun n _ => (hrej _).not_final]

end Client

end Xrm
