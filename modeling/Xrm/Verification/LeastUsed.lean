import Xrm.Verification.Recording

/-! # Sharing the least used CU

The allocations of the least used CU collect candidates by the total load of the CUs and try them
in the order of that load. A request from a pool draws on a slot, whose room the total load says
nothing about.
-/

namespace Xrm

open Choice

variable {D : Discipline} {prop : CuProperty} {svc devId : Nat}

/-! ## Candidates -/

/-- The total load leaves room for the request. -/
def CuData.HasRoom (cu : CuData) (prop : CuProperty) : Prop :=
  prop.requestLoadUnified + cu.totalUsedLoadUnified ≤ maxChanLoad

instance (cu : CuData) (prop : CuProperty) : Decidable (cu.HasRoom prop) :=
  inferInstanceAs (Decidable (prop.requestLoadUnified + cu.totalUsedLoadUnified ≤ maxChanLoad))

/-- The candidate for a CU. -/
def PreCu.candidate (q : PreCu) : Candidate where
  totalUsedLoadUnified := q.cu.totalUsedLoadUnified
  devId := q.devId
  cuId := q.cuId

theorem room_i32 {cu : CuData} (hcu : cu.Consistent) (hs : prop.Bounded) :
    i32 (prop.requestLoadUnified + cu.totalUsedLoadUnified) ≤ maxChanLoad ↔ cu.HasRoom prop := by
  obtain ⟨-, hpos, hmax⟩ := hs
  have h0 := hcu.total_nonneg
  have h1 := hcu.ledger.total_le
  rw [maxChanLoad] at h1
  rw [maxSafeLoad, maxChanLoad] at hmax
  rw [CuData.HasRoom, i32_eq (by omega) (by omega)]

/-- The candidates of a device are its matching CUs with room. -/
theorem mem_candidates_iff (hs : prop.Bounded) {cus : List CuData}
    (hcons : ∀ cu ∈ cus, cu.Consistent)
    {candidate : Candidate} :
    candidate ∈ candidates prop devId 0 cus ↔ ∃ q : PreCu, q.candidate = candidate ∧
      q ∈ matching prop (fun _ => true) devId 0 cus ∧ q.cu.HasRoom prop := by
  generalize 0 = k
  induction cus generalizing k with
  | nil => simp [candidates, matching]
  | cons cu cus ih =>
      have hrest := ih (fun cu hcu => hcons cu (by simp [hcu])) (k + 1)
      have hroom := room_i32 (hcons cu (by simp)) hs
      rw [candidates, matching]
      by_cases hmatch : cu.matchesCu prop = true
      · by_cases hr : cu.HasRoom prop
        · rw [if_pos (by simp [hmatch, hroom.mpr hr]), if_pos (by simp [hmatch]),
            List.mem_cons, hrest]
          constructor
          · rintro (rfl | ⟨q, hq, hmem, hroom'⟩)
            · exact ⟨⟨devId, k, cu⟩, rfl, by simp, hr⟩
            · exact ⟨q, hq, by simp [hmem], hroom'⟩
          · rintro ⟨q, hq, hmem, hroom'⟩
            rcases List.mem_cons.mp hmem with rfl | hmem
            · exact .inl hq.symm
            · exact .inr ⟨q, hq, hmem, hroom'⟩
        · rw [if_neg (by simp [hroom.not.mpr hr]), if_pos (by simp [hmatch]), hrest]
          constructor
          · rintro ⟨q, hq, hmem, hroom'⟩
            exact ⟨q, hq, by simp [hmem], hroom'⟩
          · rintro ⟨q, hq, hmem, hroom'⟩
            rcases List.mem_cons.mp hmem with rfl | hmem
            · exact absurd hroom' hr
            · exact ⟨q, hq, hmem, hroom'⟩
      · rw [if_neg (by simp [hmatch]), if_neg (by simp [hmatch]), hrest]

/-- The candidates are tried in the order of their loads. -/
theorem sortCandidates_sorted (l : List Candidate) :
    (sortCandidates l).Pairwise fun a b => a.totalUsedLoadUnified ≤ b.totalUsedLoadUnified := by
  have htotal : Std.Total fun a b : Candidate => a.le b = true := ⟨fun a b => by
    simp only [Candidate.le, Bool.or_eq_true, Bool.and_eq_true, decide_eq_true_eq]
    omega⟩
  have htrans : IsTrans Candidate fun a b => a.le b = true := ⟨fun a b c => by
    simp only [Candidate.le, Bool.or_eq_true, Bool.and_eq_true, decide_eq_true_eq]
    omega⟩
  refine (List.pairwise_insertionSort _ l).imp fun h => ?_
  simp only [Candidate.le, Bool.or_eq_true, Bool.and_eq_true, decide_eq_true_eq] at h
  omega

/-! ## On a given device -/

namespace DeviceData

variable {dev : DeviceData}

/-- The candidate loop takes the first candidate that gives a channel. -/
theorem shareCandidates_takes {l : List Candidate} {candidate : Candidate}
    (hfirst : FirstOf (dev.GivesAt prop svc) l candidate)
    (hmem : ∀ candidate ∈ l, ∃ cu, dev.cuList[candidate.cuId]? = some cu) :
    ∃ dev' res, shareCandidates prop svc devId l dev = (dev', .acquired res) ∧
      res.deviceId = devId ∧ res.cuId = candidate.cuId := by
  induction l generalizing dev with
  | nil => simp [FirstOf] at hfirst
  | cons c rest ih =>
      rcases firstOf_cons.mp hfirst with ⟨hgives, rfl⟩ | ⟨hno, hfirst⟩
      · obtain ⟨cu, cu', chanId, -, -, heq⟩ := shareCandidates_first devId rest hgives
        exact ⟨_, _, heq, rfl, rfl⟩
      · obtain ⟨cu, hcu⟩ := hmem c (by simp)
        have hsame : (dev.dropClient prop.clientId).GivesAt prop svc = dev.GivesAt prop svc :=
          funext fun _ => propext givesAt_dropClient
        have hrest := @ih (dev.dropClient prop.clientId) (by rwa [hsame]) fun c hc => by
          rw [dropClient_cuList]
          exact hmem c (by simp [hc])
        rw [shareCandidates, hcu]
        simp only
        split
        · rename_i cu' chanId halloc
          exact absurd ⟨cu, hcu, cu', chanId, halloc⟩ hno
        · exact hrest

end DeviceData

namespace System

variable {s s' : System} {res : CuResource}

/-- What the sharing of the least used CU is for: there is a result exactly when some CU is
eligible, and when all CUs that are asked for are in use, the one of the result has the least
load of all eligible ones. -/
structure SharesLeast (asks eligible : PreCu → Prop) (r : Except XrmError CuResource) : Prop where
  complete : (∃ res, r = .ok res) ↔ ∃ q, eligible q
  least : (∀ q, asks q → inUse q.cu = true) → ∀ res, r = .ok res →
    ∃ q, eligible q ∧ res.deviceId = q.devId ∧ res.cuId = q.cuId ∧
      ∀ q', eligible q' → q.cu.totalUsedLoadUnified ≤ q'.cu.totalUsedLoadUnified

/-- What the search finds: an unused eligible CU if there is one, otherwise an eligible CU with
room in its total load that has the least load of all these. -/
inductive FindsLeast (phase eligible : PreCu → Prop) (prop : CuProperty) :
    Except XrmError CuResource → Prop where
  | unused {res : CuResource} {q : PreCu} (hdev : res.deviceId = q.devId)
      (hcu : res.cuId = q.cuId) (h : eligible q) (hphase : phase q) :
      FindsLeast phase eligible prop (.ok res)
  | shared {res : CuResource} {q : PreCu} (hdev : res.deviceId = q.devId)
      (hcu : res.cuId = q.cuId) (h : eligible q) (hroom : q.cu.HasRoom prop)
      (hnone : ∀ q, eligible q → ¬phase q)
      (hleast : ∀ q', eligible q' → q'.cu.HasRoom prop →
        q.cu.totalUsedLoadUnified ≤ q'.cu.totalUsedLoadUnified) :
      FindsLeast phase eligible prop (.ok res)
  | error {e : XrmError} (hnone : ∀ q, eligible q → ¬phase q ∧ ¬q.cu.HasRoom prop) :
      FindsLeast phase eligible prop (.error e)

/-- The search does what it is for exactly when no eligible CU is missed: one of those in the
first phase or with room in the total load is eligible too. -/
theorem FindsLeast.sharesLeast_iff {phase asks eligible : PreCu → Prop}
    {r : Except XrmError CuResource} (h : FindsLeast phase eligible prop r)
    (hphase : ∀ q, phase q → inUse q.cu = false) (hasks : ∀ q, eligible q → asks q) :
    SharesLeast asks eligible r ↔
      ∀ q, eligible q → ∃ q', eligible q' ∧ (phase q' ∨ q'.cu.HasRoom prop) := by
  cases h with
  | @unused res q hdev hcu h hph =>
      refine ⟨fun _ _ _ => ⟨q, h, .inl hph⟩, fun _ => ⟨⟨fun _ => ⟨q, h⟩, fun _ => ⟨res, rfl⟩⟩, ?_⟩⟩
      intro hall
      have huse := hall q (hasks q h)
      rw [hphase q hph] at huse
      simp at huse
  | @shared res q hdev hcu h hroom hnone hleast =>
      refine ⟨fun _ _ _ => ⟨q, h, .inr hroom⟩,
        fun _ => ⟨⟨fun _ => ⟨q, h⟩, fun _ => ⟨res, rfl⟩⟩, ?_⟩⟩
      rintro - res' hres
      obtain rfl : res = res' := by simpa using hres
      refine ⟨q, h, hdev, hcu, fun q' hq' => ?_⟩
      by_cases hroom' : q'.cu.HasRoom prop
      · exact hleast q' hq' hroom'
      · rw [CuData.HasRoom] at hroom hroom'
        omega
  | @error e hnone =>
      constructor
      · rintro ⟨hcomplete, -⟩ q hq
        obtain ⟨res, hres⟩ := hcomplete.mpr ⟨q, hq⟩
        simp at hres
      · intro hall
        refine ⟨⟨by simp, ?_⟩, by simp⟩
        rintro ⟨q, hq⟩
        obtain ⟨q', hq', hcase⟩ := hall q hq
        obtain ⟨hno, hno'⟩ := hnone q' hq'
        exact absurd hcase (not_or.mpr ⟨hno, hno'⟩)

theorem eligible_of_settles {q : PreCu} (hasks : s.Asks prop q)
    (h : q.cu.Settles prop policyNull) : s.Eligible prop q :=
  ⟨hasks, h.fits, h.hasChannel⟩

/-- Without a policy, the search for an unused CU on a device finds one when one is eligible. -/
theorem unused_none {best : Option PreCu} {cus : List CuData}
    (ho : choose prop policyNull none (matching prop unused devId 0 cus) = .remembered best)
    (hl : ∀ q, s.Eligible prop q → q.devId = devId → cus[q.cuId]? = some q.cu) :
    ∀ q, s.Eligible prop q → q.devId = devId → inUse q.cu = true := by
  intro q hq hdev
  obtain ⟨hnone, -⟩ := scan_remembered_iff.mp ho
  by_contra huse
  have hmem : q ∈ matching prop unused devId 0 cus :=
    mem_matching.mpr ⟨hdev, Nat.zero_le _, hl q hq hdev, by simp [unused_eq, huse], hq.asks.names⟩
  have hsettles : q.cu.Settles prop policyNull :=
    CuData.settles_null_iff.mpr ⟨hq.fits, hq.hasChannel⟩
  have hno := hnone q hmem
  simp [hsettles] at hno

theorem resAllocLeastUsedCuFromDev_findsLeast (hsound : s.Sound D) (hs : prop.Bounded)
    (hnamed : prop.unnamed = false) (deviceId : Int) (updateId : Bool) :
    FindsLeast (fun q => inUse q.cu = false) (fun q => s.Eligible prop q ∧ deviceId = q.devId) prop
      (s.resAllocLeastUsedCuFromDev deviceId prop updateId).2 := by
  rw [resAllocLeastUsedCuFromDev]
  rcases registerOn_cases hsound deviceId hnamed with
    ⟨devId, dev, dev₁, hid, hdev, husable, hreg, hregOn⟩ | ⟨⟨e, hregOn⟩, hno⟩
  · have hcus := DeviceData.registered_cuList hreg
    have hcons := (hsound dev (List.mem_of_getElem? hdev)).consistent
    have hfound := @searchCu_found _ s.getNextAllocServiceId policyNull devId unused hs 0 dev.cuList
      none hcons
    have hget : ∀ q, s.Eligible prop q → q.devId = devId → dev.cuList[q.cuId]? = some q.cu := by
      rintro q ⟨⟨⟨dev', hdev', -, hq⟩, -⟩, -, -⟩ rfl
      rw [hdev, Option.some.injEq] at hdev'
      rwa [hdev']
    have hasks : ∀ {wanted : CuData → Bool} {q : PreCu},
        q ∈ matching prop wanted devId 0 dev.cuList →
        s.Asks prop q ∧ q.devId = devId := by
      intro wanted q hq
      obtain ⟨rfl, -, hq, -, hmatch⟩ := mem_matching.mp hq
      exact ⟨⟨⟨dev, hdev, husable, hq⟩, hmatch⟩, rfl⟩
    rw [hregOn]
    simp only [hcus]
    generalize ho : choose prop policyNull none (matching prop unused devId 0 dev.cuList) = o
      at hfound
    generalize searchCu prop s.getNextAllocServiceId policyNull unused devId 0 dev.cuList none =
      search at hfound ⊢
    cases hfound with
    | @acquired q pre cu' chanId halloc =>
        obtain ⟨hq, hqdev⟩ := hasks (choose_settled_mem ho)
        have hsettles : q.cu.Settles prop policyNull := by
          simpa using List.find?_some (scan_settled_iff.mp ho)
        have hunused := (mem_matching.mp (choose_settled_mem ho)).2.2.2.1
        refine .unused (q := q) (by rw [hqdev]; rfl) rfl
          ⟨eligible_of_settles hq hsettles, by rw [hid, hqdev]⟩ ?_
        simpa [unused_eq] using hunused
    | missed =>
        have hinUse := unused_none ho hget
        have hcands : ∀ c, c ∈ sortCandidates (candidates prop devId 0 dev.cuList) ↔
            ∃ q : PreCu, q.candidate = c ∧ q ∈ matching prop (fun _ => true) devId 0 dev.cuList ∧
              q.cu.HasRoom prop := fun c => by
          rw [mem_sortCandidates, mem_candidates_iff hs hcons]
        have hplace : ∀ q : PreCu, q ∈ matching prop (fun _ => true) devId 0 dev.cuList →
            dev₁.cuList[q.candidate.cuId]? = some q.cu := fun q hq => by
          rw [hcus]
          exact (mem_matching.mp hq).2.2.1
        have hgives : ∀ q : PreCu, q ∈ matching prop (fun _ => true) devId 0 dev.cuList →
            (dev₁.GivesAt prop s.getNextAllocServiceId q.candidate ↔ s.Eligible prop q) := by
          intro q hq
          obtain ⟨hq', -⟩ := hasks hq
          have hiff := @CuData.gives_iff _ s.getNextAllocServiceId _
            (hcons q.cu (List.mem_of_getElem? (mem_matching.mp hq).2.2.1)) hs
          constructor
          · rintro ⟨cu, hcu, h⟩
            rw [hplace q hq, Option.some.injEq] at hcu
            subst hcu
            obtain ⟨hfits, hchan⟩ := hiff.mp h
            exact ⟨hq', hfits, hchan⟩
          · exact fun h => ⟨q.cu, hplace q hq, hiff.mpr ⟨h.fits, h.hasChannel⟩⟩
        have hall : ∀ q, s.Eligible prop q → q.devId = devId →
            q ∈ matching prop (fun _ => true) devId 0 dev.cuList := fun q hq hqdev =>
          mem_matching.mpr ⟨hqdev, Nat.zero_le _, hget q hq hqdev, rfl, hq.asks.names⟩
        have hsome : ∀ c ∈ sortCandidates (candidates prop devId 0 dev.cuList),
            ∃ cu, dev₁.cuList[c.cuId]? = some cu := by
          intro c hc
          obtain ⟨q, rfl, hq, -⟩ := (hcands c).mp hc
          exact ⟨q.cu, hplace q hq⟩
        by_cases hany : ∃ c ∈ sortCandidates (candidates prop devId 0 dev.cuList),
            dev₁.GivesAt prop s.getNextAllocServiceId c
        · obtain ⟨c, hc, hcgives⟩ := hany
          obtain ⟨first, hfirst⟩ := exists_firstOf hc hcgives
          obtain ⟨dev', res, heq, hresdev, hrescu⟩ :=
            @DeviceData.shareCandidates_takes _ _ devId _ _ _ hfirst hsome
          obtain ⟨q, rfl, hq, hroom⟩ := (hcands first).mp hfirst.mem
          have hqdev := (hasks hq).2
          rw [heq]
          refine .shared (q := q) (by rw [hqdev, hresdev]) hrescu
            ⟨(hgives q hq).mp hfirst.holds, by rw [hid, hqdev]⟩ hroom ?_ ?_
          · rintro r ⟨hr, hrdev⟩ hunused
            simp [hinUse r hr (by omega)] at hunused
          · rintro r ⟨hr, hrdev⟩ hrroom
            have hrmem := hall r hr (by omega)
            rcases hfirst.least (sortCandidates_sorted _) ((hcands _).mpr ⟨r, rfl, hrmem, hrroom⟩)
              ((hgives r hrmem).mpr hr) with heq' | hle
            · have : r.cu.totalUsedLoadUnified = q.cu.totalUsedLoadUnified :=
                congrArg Candidate.totalUsedLoadUnified heq'
              omega
            · exact hle
        · push Not at hany
          rw [DeviceData.shareCandidates_none hsome hany]
          refine .error ?_
          rintro q ⟨hq, hqdev⟩
          have hqmem := hall q hq (by omega)
          refine ⟨by simp [hinUse q hq (by omega)], fun hroom => ?_⟩
          exact hany _ ((hcands _).mpr ⟨q, rfl, hqmem, hroom⟩) ((hgives q hqmem).mpr hq)
  · rw [hregOn]
    refine .error ?_
    rintro q ⟨⟨⟨⟨dev, hdev, husable, -⟩, -⟩, -, -⟩, hid⟩
    exact absurd husable (hno q.devId dev hid hdev)

/-! ## On any device with the xclbin -/

theorem Touched.asks_iff (h : Touched prop s s') (hsound : s.Sound D) (hc : prop.clientId ≠ 0)
    {q : PreCu} : s'.Asks prop q ↔ s.Asks prop q := by
  rw [← mem_inTurn, ← mem_inTurn, inTurn, inTurn, h.numDevice,
    h.offered hsound hc blind_anyDevice, h.offered hsound hc blind_anyDevice]

/-- The test for the devices that are loaded with the xclbin. -/
def hasXclbin (xclbin : String) (dev : DeviceData) : Bool := dev.xclbinName == xclbin

theorem blind_hasXclbin (xclbin : String) : Blind (hasXclbin xclbin) := fun _ _ _ => rfl

/-- The candidates of all devices are the matching CUs with room on the usable devices that are
loaded with the xclbin. -/
theorem mem_collectCandidates (hs : prop.Bounded) {xclbin : String} {candidate : Candidate}
    (devIds : List Nat) (hsound : s.Sound D) :
    candidate ∈ (collectCandidates prop xclbin devIds s).2 ↔ ∃ q : PreCu, q.candidate = candidate ∧
      q ∈ s.offered prop (hasXclbin xclbin) (fun _ => true) devIds ∧ q.cu.HasRoom prop := by
  induction devIds generalizing s with
  | nil => simp [collectCandidates, System.offered]
  | cons devId devIds ih =>
      have hskip : s.offered prop (hasXclbin xclbin) (fun _ => true) [devId] = [] →
          s.offered prop (hasXclbin xclbin) (fun _ => true) (devId :: devIds) =
            s.offered prop (hasXclbin xclbin) (fun _ => true) devIds := by
        intro h
        rw [offered_cons, h, List.nil_append]
      rw [collectCandidates]
      split
      · rename_i hnone
        rw [hskip (by simp [System.offered, hnone])]
        exact ih hsound
      rename_i dev hdev
      split
      case isFalse hno =>
        rw [hskip]
        · exact ih hsound
        · have hnot : ¬(dev.Usable prop ∧ hasXclbin xclbin dev = true) := by
            rintro ⟨husable, hwanted⟩
            rw [hasXclbin] at hwanted
            exact hno (by simp [husable.isFree, hwanted])
          simp [System.offered, hdev, hnot]
      rename_i hyes
      rw [Bool.and_eq_true] at hyes
      have hload := DeviceData.isLoaded_of_isFreeForClient hyes.1
      have hdevSound := hsound dev (List.mem_of_getElem? hdev)
      split
      · rename_i e herr
        rw [hskip]
        · exact ih hsound
        · have hnot : ¬(dev.Usable prop ∧ hasXclbin xclbin dev = true) := by
            rintro ⟨husable, -⟩
            obtain ⟨dev₁, hreg⟩ := husable.registers
            rw [herr] at hreg
            simp at hreg
          simp [System.offered, hdev, hnot]
      rename_i dev₁ hreg
      have husable := DeviceData.usable_of_registered hdevSound.shape hload hreg
      have hone : s.offered prop (hasXclbin xclbin) (fun _ => true) [devId] =
          matching prop (fun _ => true) devId 0 dev.cuList := by
        have hwanted : hasXclbin xclbin dev = true := hyes.2
        simp [System.offered, hdev, husable, hwanted]
      have htouch : Touched prop s (s.setDev devId (dev₁.dropClient prop.clientId)) :=
        .single ⟨devId, dev, _, hdev, ⟨hload, dev₁, hreg, rfl⟩, rfl⟩
      have hrest := ih ((htouch.evolves hs.1).sound hsound)
      simp only [List.mem_append]
      rw [hrest, htouch.offered hsound hs.1 (blind_hasXclbin xclbin), offered_cons, hone,
        DeviceData.registered_cuList hreg, mem_candidates_iff hs hdevSound.consistent]
      simp only [List.mem_append]
      constructor
      · rintro (⟨q, hq, hmem, hroom⟩ | ⟨q, hq, hmem, hroom⟩)
        · exact ⟨q, hq, .inl hmem, hroom⟩
        · exact ⟨q, hq, .inr hmem, hroom⟩
      · rintro ⟨q, hq, hmem | hmem, hroom⟩
        · exact .inl ⟨q, hq, hmem, hroom⟩
        · exact .inr ⟨q, hq, hmem, hroom⟩

/-- One round of the candidate loop. -/
theorem shareAnywhere_cons (hsound : s.Sound D) (hs : prop.Bounded) (updateId : Bool)
    (rest : List Candidate) {q : PreCu} (hq : s.Asks prop q) :
    (∃ s' res, shareAnywhere prop updateId (q.candidate :: rest) s = (s', .ok res) ∧
        s.Eligible prop q ∧ res.deviceId = q.devId ∧ res.cuId = q.cuId) ∨
      ∃ s₁, Touched prop s s₁ ∧ ¬s.Eligible prop q ∧
        shareAnywhere prop updateId (q.candidate :: rest) s =
          shareAnywhere prop updateId rest s₁ := by
  obtain ⟨⟨dev, hdev, husable, hcu⟩, -⟩ := id hq
  obtain ⟨dev₁, hreg⟩ := husable.registers
  have hcons := (hsound dev (List.mem_of_getElem? hdev)).consistent q.cu (List.mem_of_getElem? hcu)
  have htouch : Touched prop s (s.setDev q.devId (dev₁.dropClient prop.clientId)) :=
    .single ⟨q.devId, dev, _, hdev, ⟨husable.isLoaded, dev₁, hreg, rfl⟩, rfl⟩
  rw [shareAnywhere]
  simp only [PreCu.candidate, hdev, hreg, DeviceData.registered_cuList hreg, hcu]
  by_cases hsettles : q.cu.Settles prop policyNull
  · obtain ⟨cu', chanId, halloc⟩ := hsettles.allocated hcons hs s.getNextAllocServiceId none
    rw [halloc]
    exact .inl ⟨_, _, rfl, eligible_of_settles hq hsettles, rfl, rfl⟩
  · rw [CuData.refused_of_not_settles hsettles (fun h => CuData.not_defers_null h.2) hcons hs]
    refine .inr ⟨_, htouch, fun h => ?_, ?_⟩
    · exact hsettles (CuData.settles_null_iff.mpr ⟨h.fits, h.hasChannel⟩)
    · cases rest with
      | nil => rfl
      | cons c rest => rfl

theorem Touched.eligible_iff (h : Touched prop s s') (hsound : s.Sound D)
    (hc : prop.clientId ≠ 0) {q : PreCu} : s'.Eligible prop q ↔ s.Eligible prop q := by
  have hasks := h.asks_iff hsound hc (q := q)
  exact ⟨fun hq => ⟨hasks.mp hq.asks, hq.fits, hq.hasChannel⟩, fun hq =>
    ⟨hasks.mpr hq.asks, hq.fits, hq.hasChannel⟩⟩

/-- The candidate loop takes the first candidate that is eligible, and fails without one. -/
theorem shareAnywhere_takes (hsound : s.Sound D) (hs : prop.Bounded) (updateId : Bool)
    {l : List PreCu} (hl : ∀ q ∈ l, s.Asks prop q) :
    (∃ q s' res, FirstOf (s.Eligible prop) l q ∧
        shareAnywhere prop updateId (l.map PreCu.candidate) s = (s', .ok res) ∧
          res.deviceId = q.devId ∧ res.cuId = q.cuId) ∨
      ∃ s' e, (∀ q ∈ l, ¬s.Eligible prop q) ∧
        shareAnywhere prop updateId (l.map PreCu.candidate) s = (s', .error e) := by
  induction l generalizing s with
  | nil => exact .inr ⟨s, _, by simp, rfl⟩
  | cons q l ih =>
      rw [List.map_cons]
      rcases shareAnywhere_cons hsound hs updateId (l.map PreCu.candidate) (hl q (by simp)) with
        ⟨s', res, heq, hq, hdev, hcu⟩ | ⟨s₁, htouch, hno, heq⟩
      · exact .inl ⟨q, s', res, firstOf_cons.mpr (.inl ⟨hq, rfl⟩), heq, hdev, hcu⟩
      · have hsame : s₁.Eligible prop = s.Eligible prop :=
          funext fun _ => propext (htouch.eligible_iff hsound hs.1)
        rw [heq]
        rcases ih ((htouch.evolves hs.1).sound hsound) fun r hr =>
            (htouch.asks_iff hsound hs.1).mpr (hl r (by simp [hr])) with
          ⟨r, s', res, hfirst, heq', hdev, hcu⟩ | ⟨s', e, hnone, heq'⟩
        · rw [hsame] at hfirst
          exact .inl ⟨r, s', res, firstOf_cons.mpr (.inr ⟨hno, hfirst⟩), heq', hdev, hcu⟩
        · rw [hsame] at hnone
          exact .inr ⟨s', e, by simpa [hno] using hnone, heq'⟩

theorem exists_candidates {P : PreCu → Prop} (l : List Candidate)
    (h : ∀ candidate ∈ l, ∃ q : PreCu, q.candidate = candidate ∧ P q) :
    ∃ qs : List PreCu, qs.map PreCu.candidate = l ∧ ∀ q ∈ qs, P q := by
  induction l with
  | nil => exact ⟨[], rfl, by simp⟩
  | cons candidate l ih =>
      obtain ⟨q, hq, hP⟩ := h candidate (by simp)
      obtain ⟨qs, hqs, hPs⟩ := ih fun c hc => h c (by simp [hc])
      exact ⟨q :: qs, by rw [List.map_cons, hq, hqs], by simpa [hP] using hPs⟩

/-- The CU's device is loaded with the xclbin. -/
def OnXclbin (s : System) (xclbin : String) (q : PreCu) : Prop :=
  ∃ dev, s.devList[q.devId]? = some dev ∧ dev.xclbinName = xclbin

theorem mem_offered_xclbin {xclbin : String} {q : PreCu} :
    q ∈ s.offered prop (hasXclbin xclbin) (fun _ => true) (List.range s.numDevice) ↔
      s.Asks prop q ∧ s.OnXclbin xclbin q := by
  rw [mem_offered]
  constructor
  · rintro ⟨-, -, hmatch, dev, hdev, husable, hwanted, hcu⟩
    exact ⟨⟨⟨dev, hdev, husable, hcu⟩, hmatch⟩, dev, hdev, by simpa [hasXclbin] using hwanted⟩
  · rintro ⟨⟨⟨dev, hdev, husable, hcu⟩, hmatch⟩, dev', hdev', hname⟩
    rw [hdev, Option.some.injEq] at hdev'
    subst hdev'
    have hlt : q.devId < s.numDevice := (List.getElem?_eq_some_iff.mp hdev).1
    exact ⟨List.mem_range.mpr hlt, rfl, hmatch, dev, hdev, husable, by simp [hasXclbin, hname], hcu⟩

/-- The sharing phase finds the least used of the eligible CUs with room in their total load. -/
theorem shareLeastUsed_findsLeast (hsound : s.Sound D) (hs : prop.Bounded) (xclbin : String)
    (updateId : Bool) :
    FindsLeast (fun _ => False) (fun q => s.Eligible prop q ∧ s.OnXclbin xclbin q) prop
      (s.shareLeastUsed prop xclbin updateId).2 := by
  obtain ⟨htouch, -⟩ := collectCandidates_spec prop xclbin (List.range s.numDevice) s
  have hmem : ∀ candidate, candidate ∈
      sortCandidates (collectCandidates prop xclbin (List.range s.numDevice) s).2 ↔
        ∃ q : PreCu, q.candidate = candidate ∧ (s.Asks prop q ∧ s.OnXclbin xclbin q) ∧
          q.cu.HasRoom prop := fun candidate => by
    simp only [mem_sortCandidates, mem_collectCandidates hs _ hsound, mem_offered_xclbin]
  have hsorted := sortCandidates_sorted
    (collectCandidates prop xclbin (List.range s.numDevice) s).2
  rw [shareLeastUsed]
  generalize collectCandidates prop xclbin (List.range s.numDevice) s = r at htouch hmem hsorted ⊢
  obtain ⟨s₁, found⟩ := r
  simp only at htouch hmem hsorted ⊢
  have hsound₁ : s₁.Sound D := (htouch.evolves hs.1).sound hsound
  have heligible : s₁.Eligible prop = s.Eligible prop :=
    funext fun _ => propext (htouch.eligible_iff hsound hs.1)
  obtain ⟨qs, hqs, hasks⟩ := exists_candidates _ fun candidate hc => (hmem candidate).mp hc
  rw [← hqs, List.pairwise_map] at hsorted
  rw [← hqs]
  have hlist : ∀ q, s.Eligible prop q → s.OnXclbin xclbin q → q.cu.HasRoom prop →
      ∃ r ∈ qs, r.candidate = q.candidate := by
    intro q hq hon hroom
    have hc := (hmem q.candidate).mpr ⟨q, rfl, ⟨hq.asks, hon⟩, hroom⟩
    rw [← hqs] at hc
    exact List.mem_map.mp hc
  have hsame : ∀ q r, s.Eligible prop q → s.Asks prop r → r.candidate = q.candidate → r = q :=
    fun q r hq hr heq => hr.ext hq.asks (congrArg Candidate.devId heq)
      (congrArg Candidate.cuId heq)
  rcases shareAnywhere_takes hsound₁ hs updateId fun q hq =>
      (htouch.asks_iff hsound hs.1).mpr (hasks q hq).1.1 with
    ⟨q, s', res, hfirst, heq, hdev, hcu⟩ | ⟨s', e, hnone, heq⟩
  · rw [heligible] at hfirst
    rw [heq]
    obtain ⟨⟨-, hon⟩, hroom⟩ := hasks q hfirst.mem
    refine .shared hdev hcu ⟨hfirst.holds, hon⟩ hroom (by simp) ?_
    rintro q' ⟨hq', hon'⟩ hroom'
    obtain ⟨r, hr, hcand⟩ := hlist q' hq' hon' hroom'
    obtain rfl := hsame q' r hq' (hasks r hr).1.1 hcand
    rcases hfirst.least hsorted hr hq' with rfl | hle
    · exact le_refl _
    · exact hle
  · rw [heligible] at hnone
    rw [heq]
    refine .error ?_
    rintro q ⟨hq, hon⟩
    refine ⟨id, fun hroom => ?_⟩
    obtain ⟨r, hr, hcand⟩ := hlist q hq hon hroom
    obtain rfl := hsame q r hq (hasks r hr).1.1 hcand
    exact hnone r hr hq

/-- The state in which `resAllocCuLeastUsedWithLoad` comes to its sharing phase, if it does: no
unused CU was found on the devices with the xclbin, and loading it gave none either. -/
def sharingStart (s : System) (env : XrtEnv) (prop : CuProperty) (xclbin : String) :
    Option System :=
  match allocPass prop policyNull (fun dev => dev.xclbinName == xclbin) unused
      (List.range s.numDevice) s none with
  | (_, .acquired _) => none
  | (s, .missed _) =>
      match s.loadAnyDevice env xclbin "" with
      | (s, _, .error _) => some s
      | (s, _, .ok devId) =>
          match s.allocOnLoaded devId prop (fun _ => true) with
          | (_, .ok (.acquired _)) => none
          | (s, _) => some s

theorem sharingStart_spec {s₁ : System} {env : XrtEnv} (hgap : D.gapless → env.Gapless)
    (hsound : s.Sound D) (hc : prop.clientId ≠ 0) (hnamed : prop.unnamed = false) {xclbin : String}
    (h : s.sharingStart env prop xclbin = some s₁) (updateId : Bool) :
    s₁.Sound D ∧ s.resAllocCuLeastUsedWithLoad env prop xclbin updateId =
      s₁.shareLeastUsed prop xclbin updateId := by
  have hfirst := allocPass_attempt prop policyNull (fun dev => dev.xclbinName == xclbin) unused
    (List.range s.numDevice) s none
  rw [sharingStart] at h
  rw [resAllocCuLeastUsedWithLoad, if_neg (by simp [hnamed])]
  generalize allocPass prop policyNull (fun dev => dev.xclbinName == xclbin) unused
    (List.range s.numDevice) s none = r at h hfirst ⊢
  obtain ⟨s₂, r⟩ := r
  cases r with
  | acquired res => simp at h
  | missed best =>
      have hsound₂ : s₂.Sound D := (hfirst.touched.evolves hc).sound hsound
      obtain ⟨hev, hjust⟩ := loadAnyDevice_spec hgap xclbin "" hsound₂
      simp only at h ⊢
      generalize s₂.loadAnyDevice env xclbin "" = r at h hev hjust ⊢
      obtain ⟨s₃, msg, r⟩ := r
      have hsound₃ : s₃.Sound D := hev.sound hsound₂
      cases r with
      | error e =>
          simp only [Option.some.injEq] at h
          subst h
          exact ⟨hsound₃, rfl⟩
      | ok devId =>
          simp only at h ⊢
          cases hr : s₃.allocOnLoaded devId prop fun _ => true with
          | mk s₄ r =>
              rw [hr] at h
              cases r with
              | error e =>
                  simp only [Option.some.injEq] at h
                  rw [← h, allocOnLoaded_error hr]
                  exact ⟨hsound₃, rfl⟩
              | ok r =>
                  have hattempt := allocOnLoaded_attempt (hjust devId rfl) hr
                  cases r with
                  | acquired res => simp at h
                  | missed best =>
                      simp only [Option.some.injEq] at h
                      subst h
                      have htouch := hattempt.touched
                      exact ⟨(htouch.evolves hc).sound hsound₃, rfl⟩

/-- A request of the default pool finds room in the total load of every CU that it fits. -/
theorem hasRoom_of_default (hp : prop.poolId = 0) {q : PreCu} (h : s.Eligible prop q) :
    q.cu.HasRoom prop := by
  have hfits := (fits_default_iff hp q.cu).mp h.fits
  rw [CuData.HasRoom]
  omega

/-- In every state that the daemon reaches, the allocation of the least used CU of a device is
complete and picks the least used CU exactly when a pool request that some CU can serve also has
one that is unused or whose total load leaves room; so does the sharing phase over the devices
with the xclbin, where the total load must leave room. -/
theorem least_used_sharing {limit : Nat} (h : Reachable allRuns limit s) (hs : prop.Sent)
    (hnamed : prop.unnamed = false) (updateId : Bool) :
    (∀ deviceId : Int,
      SharesLeast (fun q => s.Asks prop q ∧ deviceId = q.devId)
          (fun q => s.Eligible prop q ∧ deviceId = q.devId)
          (s.resAllocLeastUsedCuFromDev deviceId prop updateId).2 ↔
        (prop.poolId ≠ 0 → ∀ q, s.Eligible prop q ∧ deviceId = q.devId →
          ∃ q', (s.Eligible prop q' ∧ deviceId = q'.devId) ∧
            (inUse q'.cu = false ∨ q'.cu.HasRoom prop))) ∧
    ∀ env xclbin s₁, s.sharingStart env prop xclbin = some s₁ →
      (SharesLeast (fun q => s₁.Asks prop q ∧ s₁.OnXclbin xclbin q)
          (fun q => s₁.Eligible prop q ∧ s₁.OnXclbin xclbin q)
          (s.resAllocCuLeastUsedWithLoad env prop xclbin updateId).2 ↔
        (prop.poolId ≠ 0 → ∀ q, s₁.Eligible prop q ∧ s₁.OnXclbin xclbin q →
          ∃ q', (s₁.Eligible prop q' ∧ s₁.OnXclbin xclbin q') ∧ q'.cu.HasRoom prop)) := by
  have hsound := h.good.sound
  constructor
  · intro deviceId
    have hfinds := resAllocLeastUsedCuFromDev_findsLeast hsound hs.bounded hnamed deviceId updateId
    rw [hfinds.sharesLeast_iff (fun q hq => hq) fun q hq => ⟨hq.1.asks, hq.2⟩]
    refine ⟨fun hall _ => hall, fun hall q hq => ?_⟩
    by_cases hp : prop.poolId = 0
    · exact ⟨q, hq, .inr (hasRoom_of_default hp hq.1)⟩
    · exact hall hp q hq
  · intro env xclbin s₁ hstart
    obtain ⟨hsound₁, heq⟩ := sharingStart_spec False.elim hsound hs.1 hnamed hstart updateId
    have hfinds := shareLeastUsed_findsLeast hsound₁ hs.bounded xclbin updateId
    rw [heq, hfinds.sharesLeast_iff (fun q hq => hq.elim) fun q hq => ⟨hq.1.asks, hq.2⟩]
    simp only [false_or]
    refine ⟨fun hall _ => hall, fun hall q hq => ?_⟩
    by_cases hp : prop.poolId = 0
    · exact ⟨q, hq, hasRoom_of_default hp hq.1⟩
    · exact hall hp q hq

end System

open Scenario in
/-- One CU, in use, and a pool with a slot on it that takes most of its load. -/
def squeezedRun : List Op :=
  [.loadOneDevice (env 1 1) 0 "scaler.xclbin", .resAllocCu (request 1 0 100000) true,
    .resReserveCuPool (pool 1 [request 1 0 600000])]

namespace System

open Scenario in
theorem least_used_sharing_squeezed :
    (∀ deviceId : Int,
      SharesLeast (fun q => (after squeezedRun).Asks (request 1 1 400000) q ∧ deviceId = q.devId)
          (fun q => (after squeezedRun).Eligible (request 1 1 400000) q ∧ deviceId = q.devId)
          ((after squeezedRun).resAllocLeastUsedCuFromDev deviceId (request 1 1 400000) true).2 ↔
        ((request 1 1 400000).poolId ≠ 0 →
          ∀ q, (after squeezedRun).Eligible (request 1 1 400000) q ∧ deviceId = q.devId →
            ∃ q', ((after squeezedRun).Eligible (request 1 1 400000) q' ∧ deviceId = q'.devId) ∧
              (inUse q'.cu = false ∨ q'.cu.HasRoom (request 1 1 400000)))) ∧
    ∀ env xclbin s₁,
      (after squeezedRun).sharingStart env (request 1 1 400000) xclbin = some s₁ →
        (SharesLeast (fun q => s₁.Asks (request 1 1 400000) q ∧ s₁.OnXclbin xclbin q)
            (fun q => s₁.Eligible (request 1 1 400000) q ∧ s₁.OnXclbin xclbin q)
            ((after squeezedRun).resAllocCuLeastUsedWithLoad env (request 1 1 400000) xclbin
              true).2 ↔
          ((request 1 1 400000).poolId ≠ 0 →
            ∀ q, s₁.Eligible (request 1 1 400000) q ∧ s₁.OnXclbin xclbin q →
              ∃ q', (s₁.Eligible (request 1 1 400000) q' ∧ s₁.OnXclbin xclbin q') ∧
                q'.cu.HasRoom (request 1 1 400000))) :=
  least_used_sharing (reachable_after squeezedRun (by decide +kernel)) (by decide) (by decide) true

open Scenario in
/-- The slot of the pool has room for the request, but the total load of the CU has none, so the
CU is no candidate. -/
theorem least_used_sharing_fails : ∃ limit s, Reachable allRuns limit s ∧
    ¬SharesLeast (fun q => s.Asks (request 1 1 400000) q ∧ (0 : Int) = q.devId)
      (fun q => s.Eligible (request 1 1 400000) q ∧ (0 : Int) = q.devId)
      (s.resAllocLeastUsedCuFromDev 0 (request 1 1 400000) true).2 := by
  refine ⟨8, after squeezedRun, reachable_after squeezedRun (by decide +kernel), fun h => ?_⟩
  have hfails : ((after squeezedRun).resAllocLeastUsedCuFromDev 0 (request 1 1 400000) true).2 =
      .error .noKernel := by decide +kernel
  have hserves : ∃ q ∈ (after squeezedRun).inTurn (request 1 1 400000),
      q.devId = 0 ∧ q.cu.Fits (request 1 1 400000) ∧ q.cu.HasChannel := by decide +kernel
  obtain ⟨q, hq, hdev, hfits, hchan⟩ := hserves
  obtain ⟨res, hres⟩ := h.complete.mpr ⟨q, ⟨mem_inTurn.mp hq, hfits, hchan⟩, by rw [hdev]; rfl⟩
  rw [hfails] at hres
  simp at hres

end System

end Xrm
