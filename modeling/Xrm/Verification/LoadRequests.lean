import Xrm.Verification.MakingRoom

/-! # Load requests

A request to load names devices and xclbins. What it returns is the verdict of the last device it
tried, which need not be what became of all of them.
-/

namespace Xrm

/-! ## Hexadecimal text -/

theorem hexDigit_inj {m n : Nat} (hm : m < 16) (hn : n < 16) (h : hexDigit m = hexDigit n) :
    m = n := by
  have hall : ∀ i j : Fin 16, hexDigit i = hexDigit j → i = j := by decide
  exact congrArg Fin.val (hall ⟨m, hm⟩ ⟨n, hn⟩ h)

/-- Different bytes have different texts. -/
theorem binToHexstr_inj {a b : List UInt8} (h : binToHexstr a = binToHexstr b) : a = b := by
  have hdigits := congrArg String.toList h
  simp only [binToHexstr, String.toList_ofList] at hdigits
  clear h
  induction a generalizing b with
  | nil =>
      cases b with
      | nil => rfl
      | cons y ys => simp at hdigits
  | cons x xs ih =>
      cases b with
      | nil => simp at hdigits
      | cons y ys =>
          simp only [List.flatMap_cons, List.cons_append, List.nil_append, List.cons.injEq]
            at hdigits
          obtain ⟨hhigh, hlow, hrest⟩ := hdigits
          have hx := x.toNat_lt
          have hy := y.toNat_lt
          have hdiv := hexDigit_inj (by omega) (by omega) hhigh
          have hmod := hexDigit_inj (Nat.mod_lt _ (by omega)) (Nat.mod_lt _ (by omega)) hlow
          have hxy : x = y := UInt8.toNat_inj.mp (by omega)
          rw [hxy, ih hrest]

namespace System

variable {s s' : System} {env : XrtEnv} {xclbin : String}

/-! ## One device -/

/-- Device `i` is loaded with the xclbin of the file. -/
def LoadedWith (s : System) (env : XrtEnv) (xclbin : String) (i : Nat) : Prop :=
  ∃ dev axlf, s.devList[i]? = some dev ∧ dev.isLoaded = true ∧ env.file xclbin = .image axlf ∧
    dev.uuid = axlf.uuid

/-- Every loaded device is as it was. -/
def KeepsLoaded (s s' : System) : Prop :=
  ∀ (i : Nat) (dev : DeviceData), s.devList[i]? = some dev → dev.isLoaded = true →
    s'.devList[i]? = some dev

theorem KeepsLoaded.loadedWith (h : KeepsLoaded s s') {i : Nat}
    (hi : s.LoadedWith env xclbin i) : s'.LoadedWith env xclbin i := by
  obtain ⟨dev, axlf, hdev, hload, hfile, huuid⟩ := hi
  exact ⟨dev, axlf, h i dev hdev hload, hload, hfile, huuid⟩

theorem deviceLoadXclbin_keeps (s : System) (env : XrtEnv) (attempt devId : Nat)
    (xclbin errmsg : String) :
    KeepsLoaded s (s.deviceLoadXclbin env attempt devId xclbin errmsg).1 :=
  fun _ _ hdev hload => Keeps.deviceLoadXclbin hload hdev env attempt devId xclbin errmsg

/-- A single load succeeds exactly when the device is loaded with the file afterwards. -/
theorem deviceLoadXclbin_ok_iff (hlab : s.Labelled) (attempt devId : Nat) (errmsg : String) :
    (s.deviceLoadXclbin env attempt devId xclbin errmsg).2.2 = .ok () ↔
      (s.deviceLoadXclbin env attempt devId xclbin errmsg).1.LoadedWith env xclbin devId := by
  cases hdev : s.devList[devId]? with
  | none =>
      rw [System.deviceLoadXclbin, onDevice, hdev]
      simp [LoadedWith, hdev]
  | some dev =>
      cases hload : dev.isLoaded with
      | false =>
          obtain ⟨r, hr, heq⟩ := deviceLoadXclbin_at hdev hload env attempt xclbin errmsg
          rw [heq]
          cases hr with
          | spared hnot h =>
              simp only [reduceCtorEq, false_iff]
              rintro ⟨x, axlf, hx, hl, -⟩
              rw [getElem?_setDev_self hdev, Option.some.injEq] at hx
              rw [← hx, h.isLoaded] at hl
              simp at hl
          | loaded hfile htakes hen h =>
              simp only [true_iff]
              exact ⟨_, _, getElem?_setDev_self hdev _, h.isLoaded, hfile, h.uuid⟩
      | true =>
          obtain ⟨hen, hstr⟩ := (hlab devId dev hdev).2.loaded hload
          have hsame : s.deviceLoadXclbin env attempt devId xclbin errmsg =
              (s, dev.deviceReloadXclbin devId env xclbin errmsg) := by
            rw [System.deviceLoadXclbin, onDevice, hdev]
            simp only [DeviceData.deviceLoadXclbin, hen, hload, if_true, Bool.false_eq_true,
              if_false, setDev_self hdev]
          rw [hsame, DeviceData.deviceReloadXclbin]
          cases hfile : env.file xclbin with
          | missing => simp [LoadedWith, hdev, hfile]
          | unreadable => simp [LoadedWith, hdev, hfile]
          | image axlf =>
              simp only
              by_cases huuid : binToHexstr axlf.uuid = dev.uuidStr
              · rw [if_pos huuid]
                simp only [true_iff]
                exact ⟨dev, axlf, hdev, hload, hfile, (binToHexstr_inj (huuid.trans hstr)).symm⟩
              · rw [if_neg huuid]
                simp only [reduceCtorEq, false_iff]
                rintro ⟨x, axlf', hx, -, hfile', hu⟩
                rw [hdev, Option.some.injEq] at hx
                rw [hfile, XclbinFile.image.injEq] at hfile'
                subst hx hfile'
                exact huuid (by rw [hstr, hu])

/-! ## The loop over all devices -/

theorem KeepsLoaded.trans {s'' : System} (h : KeepsLoaded s s') (h' : KeepsLoaded s' s'') :
    KeepsLoaded s s'' := fun i dev hdev hload => h' i dev (h i dev hdev hload) hload

theorem deviceLoadXclbin_numDevice (s : System) (env : XrtEnv) (attempt devId : Nat)
    (xclbin errmsg : String) :
    (s.deviceLoadXclbin env attempt devId xclbin errmsg).1.numDevice = s.numDevice := by
  rw [System.deviceLoadXclbin, onDevice]
  split
  · rfl
  · exact numDevice_setDev s devId _

/-- What becomes of the devices that are loaded one after another up to the first failure. -/
structure Tried (env : XrtEnv) (xclbin : String) (devIds : List Nat) (s : System)
    (errmsg : String) (ret : Except XrmError Unit)
    (r : System × String × String × Except XrmError Unit) : Prop where
  labelled : r.1.Labelled
  numDevice : r.1.numDevice = s.numDevice
  keeps : KeepsLoaded s r.1
  loaded : r.2.2.2 = .ok () → r.2.1 = errmsg ∧ ∀ i ∈ devIds, r.1.LoadedWith env xclbin i
  failed : ∀ e, devIds ≠ [] → r.2.2.2 = .error e →
    r.2.1 = errmsg ++ r.2.2.1 ∧ ∃ i ∈ devIds, ¬r.1.LoadedWith env xclbin i
  idle : devIds = [] → r.1 = s ∧ r.2.1 = errmsg ∧ r.2.2.2 = ret

theorem loadAllDevices_tried (env : XrtEnv) (attempt : Nat) (xclbin : String)
    (devIds : List Nat) (s : System) (hlab : s.Labelled) (errmsg loadErrmsg : String)
    (ret : Except XrmError Unit) :
    Tried env xclbin devIds s errmsg ret
      (loadAllDevices env attempt xclbin devIds s errmsg loadErrmsg ret) := by
  induction devIds generalizing s loadErrmsg ret with
  | nil => exact ⟨hlab, rfl, fun _ _ h _ => h, fun _ => ⟨rfl, by simp⟩, by simp,
      fun _ => ⟨rfl, rfl, rfl⟩⟩
  | cons devId devIds ih =>
      have hok : (s.deviceLoadXclbin env attempt devId xclbin loadErrmsg).2.2 = .ok () ↔ _ :=
        deviceLoadXclbin_ok_iff hlab attempt devId loadErrmsg
      have hkeeps := s.deviceLoadXclbin_keeps env attempt devId xclbin loadErrmsg
      have hnum := s.deviceLoadXclbin_numDevice env attempt devId xclbin loadErrmsg
      have hlab' := hlab.deviceLoadXclbin env attempt devId xclbin loadErrmsg
      rw [loadAllDevices]
      generalize s.deviceLoadXclbin env attempt devId xclbin loadErrmsg = r at hok hkeeps hnum hlab'
      obtain ⟨s₁, loadErrmsg₁, ret₁⟩ := r
      cases ret₁ with
      | ok u =>
          have htried := ih s₁ hlab' loadErrmsg₁ (.ok ())
          simp only at hkeeps hnum hok
          refine ⟨htried.labelled, htried.numDevice.trans hnum, hkeeps.trans htried.keeps,
            fun h => ⟨(htried.loaded h).1, fun i hi => ?_⟩, fun e _ he => ?_, by simp⟩
          · rcases List.mem_cons.mp hi with rfl | hi
            · exact htried.keeps.loadedWith (hok.mp trivial)
            · exact (htried.loaded h).2 i hi
          · by_cases hnil : devIds = []
            · have hret := (htried.idle hnil).2.2
              rw [hret] at he
              simp at he
            · obtain ⟨hmsg, i, hi, hnot⟩ := htried.failed e hnil he
              exact ⟨hmsg, i, List.mem_cons_of_mem _ hi, hnot⟩
      | error e =>
          exact ⟨hlab', hnum, hkeeps, by simp, fun _ _ _ => ⟨rfl, devId, List.mem_cons_self,
            fun h => by simpa using hok.mpr h⟩, by simp⟩

/-! ## The entries of a request -/

/-- The devices that an entry is for. -/
def targets (s : System) (devId : Int) : List Nat :=
  if devId = -2 then List.range s.numDevice else [devId.toNat]

/-- The entry is refused as it stands. -/
def Refused (s : System) (entry : Int × String) : Prop :=
  (entry.1 < -2 ∨ entry.1 = -1 ∨ entry.1 ≥ s.numDevice) ∨ entry.2 = ""

instance (s : System) (entry : Int × String) : Decidable (s.Refused entry) :=
  inferInstanceAs (Decidable (_ ∨ _))

/-- The devices that the entry names are loaded with its xclbin. -/
def EntryLoaded (s : System) (env : XrtEnv) (entry : Int × String) : Prop :=
  ¬s.Refused entry ∧ ∀ i ∈ s.targets entry.1, s.LoadedWith env entry.2 i

end System

/-- What becomes of an entry. -/
inductive LoadOutcome where
  | refused
  | idle
  | loaded
  | failed (message : String)
  deriving Repr, DecidableEq

/-- The entry is refused or one of its devices fails. -/
def LoadOutcome.fails : LoadOutcome → Bool
  | .refused => true
  | .failed _ => true
  | _ => false

namespace System

variable {s s' : System} {env : XrtEnv}

/-- What the entries of the request come to, up to the one that ends it: one that is refused, or
one for a single device that fails. -/
def outcomes (env : XrtEnv) : Nat → List (Int × String) → System → String → List LoadOutcome
  | _, [], _, _ => []
  | attempt, entry :: entries, s, loadErrmsg =>
      if s.Refused entry then [.refused]
      else if s.targets entry.1 = [] then
        .idle :: outcomes env (attempt + 1) entries s loadErrmsg
      else
        match loadAllDevices env attempt entry.2 (s.targets entry.1) s "" loadErrmsg (.ok ()) with
        | (s, _, loadErrmsg, .ok ()) =>
            .loaded :: outcomes env (attempt + 1) entries s loadErrmsg
        | (s, _, loadErrmsg, .error _) =>
            .failed loadErrmsg ::
              (if entry.1 = -2 then outcomes env (attempt + 1) entries s loadErrmsg else [])

/-- The last entry that was refused or tried a device. -/
def lastTried (l : List LoadOutcome) : Option LoadOutcome := (l.filter (· ≠ .idle)).getLast?

@[simp] theorem lastTried_nil : lastTried [] = none := rfl

@[simp] theorem lastTried_idle (l : List LoadOutcome) : lastTried (.idle :: l) = lastTried l := by
  simp [lastTried]

theorem lastTried_cons {o : LoadOutcome} (ho : o ≠ .idle) (l : List LoadOutcome) :
    lastTried (o :: l) = some ((lastTried l).getD o) := by
  simp only [lastTried, List.filter_cons, decide_eq_true ho, if_true, List.getLast?_cons]

/-- The message and the verdict so far only matter where no device is tried. -/
theorem loadAllDevices_start (env : XrtEnv) (attempt : Nat) (xclbin : String)
    {devIds : List Nat} (hne : devIds ≠ []) (s : System) (errmsg loadErrmsg : String)
    (ret : Except XrmError Unit) :
    loadAllDevices env attempt xclbin devIds s errmsg loadErrmsg ret =
      ((loadAllDevices env attempt xclbin devIds s "" loadErrmsg (.ok ())).1,
        errmsg ++ (loadAllDevices env attempt xclbin devIds s "" loadErrmsg (.ok ())).2.1,
        (loadAllDevices env attempt xclbin devIds s "" loadErrmsg (.ok ())).2.2) := by
  induction devIds generalizing s loadErrmsg ret with
  | nil => exact absurd rfl hne
  | cons devId devIds ih =>
      rw [loadAllDevices, loadAllDevices]
      cases s.deviceLoadXclbin env attempt devId xclbin loadErrmsg with
      | mk s₁ rest =>
          obtain ⟨loadErrmsg₁, ret₁⟩ := rest
          cases ret₁ with
          | ok u =>
              cases devIds with
              | nil => simp [loadAllDevices]
              | cons j js => exact ih (by simp) s₁ loadErrmsg₁ (.ok ())
          | error e => simp

/-- A request for one device is one for the list of it. -/
theorem loadAllDevices_single (env : XrtEnv) (attempt : Nat) (xclbin : String) (devId : Nat)
    (s : System) (errmsg loadErrmsg : String) (ret : Except XrmError Unit) :
    loadAllDevices env attempt xclbin [devId] s errmsg loadErrmsg ret =
      match s.deviceLoadXclbin env attempt devId xclbin loadErrmsg with
      | (s, loadErrmsg, .ok ()) => (s, errmsg, loadErrmsg, .ok ())
      | (s, loadErrmsg, .error e) => (s, errmsg ++ loadErrmsg, loadErrmsg, .error e) := by
  rw [loadAllDevices]
  rfl

/-- The device list of the request, with the missing values that the daemon allows for. -/
def given (entries : List (Int × String)) : List (Option Int × String) :=
  entries.map fun entry => (some entry.1, entry.2)

/-- What the outcomes of its entries say about a request. -/
structure Answered (env : XrtEnv) (entries : List (Int × String)) (s : System) (errmsg : String)
    (ret : Except XrmError Unit) (l : List LoadOutcome)
    (r : System × String × Except XrmError Unit) : Prop where
  numDevice : r.1.numDevice = s.numDevice
  keeps : KeepsLoaded s r.1
  quiet : lastTried l = none → r.1 = s ∧ r.2.2 = ret
  verdict : ∀ o, lastTried l = some o → (r.2.2 = .ok () ↔ o.fails = false)
  text : ∃ post, r.2.1 = errmsg ++ post ∧
    ∀ m, .failed m ∈ l → ∃ before after, post = before ++ m ++ after
  loaded : (∀ o ∈ l, o.fails = false) → ∀ entry ∈ entries, r.1.EntryLoaded env entry
  failed : ∀ o, lastTried l = some o → o.fails = true → ∃ entry ∈ entries,
    ¬r.1.EntryLoaded env entry

theorem refused_congr (h : s'.numDevice = s.numDevice) (entry : Int × String) :
    s'.Refused entry ↔ s.Refused entry := by rw [Refused, h, Refused]

theorem targets_congr (h : s'.numDevice = s.numDevice) (devId : Int) :
    s'.targets devId = s.targets devId := by rw [targets, h, targets]

theorem KeepsLoaded.entryLoaded (h : KeepsLoaded s s') (hnum : s'.numDevice = s.numDevice)
    {entry : Int × String} (he : s.EntryLoaded env entry) : s'.EntryLoaded env entry := by
  refine ⟨(refused_congr hnum entry).not.mpr he.1, fun i hi => ?_⟩
  rw [targets_congr hnum] at hi
  exact h.loadedWith (he.2 i hi)

/-- One round of the loop, for an entry that is not refused. -/
theorem loadEntries_cons {entry : Int × String} (hnot : ¬s.Refused entry) (env : XrtEnv)
    (attempt : Nat) (entries : List (Int × String)) (errmsg loadErrmsg : String)
    (ret : Except XrmError Unit) :
    loadEntries env attempt (given (entry :: entries)) s errmsg loadErrmsg ret =
      match loadAllDevices env attempt entry.2 (s.targets entry.1) s errmsg loadErrmsg ret with
      | (s, errmsg, loadErrmsg, .ok ()) =>
          loadEntries env (attempt + 1) (given entries) s errmsg loadErrmsg (.ok ())
      | (s, errmsg, loadErrmsg, .error e) =>
          if entry.1 = -2 then
            loadEntries env (attempt + 1) (given entries) s errmsg loadErrmsg (.error e)
          else (s, errmsg, .error e) := by
  obtain ⟨devId, xclbin⟩ := entry
  obtain ⟨hrange, hx⟩ := not_or.mp hnot
  simp only at hrange hx
  rw [given, List.map_cons, loadEntries, if_neg hrange, if_neg hx, ← given, targets]
  by_cases hall : devId = -2
  · simp only [if_pos hall]
    cases loadAllDevices env attempt xclbin (List.range s.numDevice) s errmsg loadErrmsg ret with
    | mk s₁ rest =>
        obtain ⟨errmsg₁, loadErrmsg₁, ret₁⟩ := rest
        cases ret₁ with
        | ok u => rfl
        | error e => rfl
  · simp only [if_neg hall, loadAllDevices_single]
    cases s.deviceLoadXclbin env attempt devId.toNat xclbin loadErrmsg with
    | mk s₁ rest =>
        obtain ⟨loadErrmsg₁, ret₁⟩ := rest
        cases ret₁ with
        | ok u => rfl
        | error e => rfl

theorem loadEntries_refused {entry : Int × String} (href : s.Refused entry) (env : XrtEnv)
    (attempt : Nat) (entries : List (Int × String)) (errmsg loadErrmsg : String)
    (ret : Except XrmError Unit) :
    ∃ message, loadEntries env attempt (given (entry :: entries)) s errmsg loadErrmsg ret =
      (s, errmsg ++ message, .error .invalid) := by
  obtain ⟨devId, xclbin⟩ := entry
  rw [given, List.map_cons, loadEntries]
  by_cases hrange : devId < -2 ∨ devId = -1 ∨ devId ≥ s.numDevice
  · exact ⟨_, by rw [if_pos hrange]⟩
  · rcases href with href | href
    · exact absurd href hrange
    · exact ⟨_, by rw [if_neg hrange, if_pos href]⟩

/-- An entry that ends the request. -/
theorem Answered.last {s₁ : System} {entry : Int × String} {entries : List (Int × String)}
    {o : LoadOutcome} {errmsg post : String} {e : XrmError} {ret : Except XrmError Unit}
    (hfails : o.fails = true) (hnum : s₁.numDevice = s.numDevice) (hkeeps : KeepsLoaded s s₁)
    (hpost : ∀ m, o = .failed m → post = m) (hnot : ¬s₁.EntryLoaded env entry) :
    Answered env (entry :: entries) s errmsg ret [o] (s₁, errmsg ++ post, .error e) := by
  have hidle : o ≠ .idle := by
    rintro rfl
    simp [LoadOutcome.fails] at hfails
  refine ⟨hnum, hkeeps, by simp [lastTried_cons hidle], fun o' ho' => ?_,
    ⟨post, rfl, fun m hm => ?_⟩, by simp [hfails],
    fun _ _ _ => ⟨entry, List.mem_cons_self, hnot⟩⟩
  · rw [lastTried_cons hidle, lastTried_nil, Option.getD_none, Option.some.injEq] at ho'
    rw [← ho', hfails]
    simp
  · rw [hpost m (List.mem_singleton.mp hm).symm]
    exact ⟨"", "", by simp⟩

/-- An entry after which the request goes on. -/
theorem Answered.cons {s₁ : System} {entry : Int × String} {entries : List (Int × String)}
    {o : LoadOutcome} {errmsg post : String} {ret ret₁ : Except XrmError Unit}
    {l : List LoadOutcome} {r : System × String × Except XrmError Unit}
    (hidle : o ≠ .idle) (hnum : s₁.numDevice = s.numDevice) (hkeeps : KeepsLoaded s s₁)
    (hret : ret₁ = .ok () ↔ o.fails = false) (hpost : ∀ m, o = .failed m → post = m)
    (hloaded : s₁.EntryLoaded env entry ↔ o.fails = false)
    (h : Answered env entries s₁ (errmsg ++ post) ret₁ l r) :
    Answered env (entry :: entries) s errmsg ret (o :: l) r := by
  obtain ⟨after, htext, hmsgs⟩ := h.text
  refine ⟨h.numDevice.trans hnum, hkeeps.trans h.keeps, by simp [lastTried_cons hidle],
    fun o' ho' => ?_, ⟨post ++ after, by rw [htext, String.append_assoc], fun m hm => ?_⟩,
    fun hall x hx => ?_, fun o' ho' hfails => ?_⟩
  · rw [lastTried_cons hidle, Option.some.injEq] at ho'
    cases hlast : lastTried l with
    | none =>
        rw [hlast, Option.getD_none] at ho'
        rw [(h.quiet hlast).2, ← ho']
        exact hret
    | some o'' =>
        rw [hlast, Option.getD_some] at ho'
        rw [← ho']
        exact h.verdict o'' hlast
  · rcases List.mem_cons.mp hm with hm | hm
    · exact ⟨"", after, by rw [hpost m hm.symm, String.empty_append]⟩
    · obtain ⟨before, rest, heq⟩ := hmsgs m hm
      exact ⟨post ++ before, rest, by rw [heq]; simp only [String.append_assoc]⟩
  · rcases List.mem_cons.mp hx with rfl | hx
    · exact h.keeps.entryLoaded h.numDevice (hloaded.mpr (hall o List.mem_cons_self))
    · exact h.loaded (fun o ho => hall o (List.mem_cons_of_mem _ ho)) x hx
  · rw [lastTried_cons hidle, Option.some.injEq] at ho'
    cases hlast : lastTried l with
    | none =>
        rw [hlast, Option.getD_none] at ho'
        rw [(h.quiet hlast).1]
        exact ⟨entry, List.mem_cons_self, fun hl => by simp [← ho', hloaded.mp hl] at hfails⟩
    | some o'' =>
        rw [hlast, Option.getD_some] at ho'
        obtain ⟨x, hx, hnot⟩ := h.failed o'' hlast (ho' ▸ hfails)
        exact ⟨x, List.mem_cons_of_mem _ hx, hnot⟩

/-- An entry without a device to try. -/
theorem Answered.skip {entry : Int × String} {entries : List (Int × String)} {errmsg : String}
    {ret : Except XrmError Unit} {l : List LoadOutcome}
    {r : System × String × Except XrmError Unit} (href : ¬s.Refused entry)
    (hnil : s.targets entry.1 = []) (h : Answered env entries s errmsg ret l r) :
    Answered env (entry :: entries) s errmsg ret (.idle :: l) r := by
  obtain ⟨post, htext, hmsgs⟩ := h.text
  refine ⟨h.numDevice, h.keeps, by simpa using h.quiet, by simpa using h.verdict,
    ⟨post, htext, fun m hm => hmsgs m (by simpa using hm)⟩, fun hall x hx => ?_,
    fun o ho hfails => ?_⟩
  · rcases List.mem_cons.mp hx with rfl | hx
    · refine ⟨(refused_congr h.numDevice x).not.mpr href, fun i hi => ?_⟩
      rw [targets_congr h.numDevice, hnil] at hi
      simp at hi
    · exact h.loaded (fun o ho => hall o (List.mem_cons_of_mem _ ho)) x hx
  · rw [lastTried_idle] at ho
    obtain ⟨x, hx, hnot⟩ := h.failed o ho hfails
    exact ⟨x, List.mem_cons_of_mem _ hx, hnot⟩

theorem loadEntries_answered (env : XrtEnv) (entries : List (Int × String)) (attempt : Nat)
    (s : System) (hlab : s.Labelled) (errmsg loadErrmsg : String) (ret : Except XrmError Unit) :
    Answered env entries s errmsg ret (outcomes env attempt entries s loadErrmsg)
      (loadEntries env attempt (given entries) s errmsg loadErrmsg ret) := by
  induction entries generalizing attempt s errmsg loadErrmsg ret with
  | nil =>
      exact ⟨rfl, fun _ _ h _ => h, fun _ => ⟨rfl, rfl⟩, by simp [outcomes],
        ⟨"", by simp [given, loadEntries], by simp [outcomes]⟩, by simp, by simp [outcomes]⟩
  | cons entry entries ih =>
      rw [outcomes]
      by_cases href : s.Refused entry
      · obtain ⟨message, heq⟩ := loadEntries_refused href env attempt entries errmsg loadErrmsg ret
        rw [if_pos href, heq]
        exact .last rfl rfl (fun _ _ h _ => h) (by simp) fun hl => hl.1 href
      rw [if_neg href, loadEntries_cons href]
      by_cases hnil : s.targets entry.1 = []
      · have hall : entry.1 = -2 := by
          by_contra hne
          simp [targets, hne] at hnil
        rw [if_pos hnil, hnil, loadAllDevices]
        have hrest := (ih (attempt + 1) s hlab errmsg loadErrmsg ret).skip href hnil
        cases ret with
        | ok u => exact hrest
        | error e =>
            simp only [if_pos hall]
            exact hrest
      rw [if_neg hnil, loadAllDevices_start env attempt entry.2 hnil s errmsg loadErrmsg ret]
      have htried := loadAllDevices_tried env attempt entry.2 (s.targets entry.1) s hlab ""
        loadErrmsg (.ok ())
      cases hload : loadAllDevices env attempt entry.2 (s.targets entry.1) s "" loadErrmsg
          (.ok ()) with
      | mk s₁ rest =>
          obtain ⟨errmsg₁, loadErrmsg₁, ret₁⟩ := rest
          rw [hload] at htried
          have hnum := htried.numDevice
          have hkeeps := htried.keeps
          have hrest := ih (attempt + 1) s₁ htried.labelled (errmsg ++ errmsg₁) loadErrmsg₁ ret₁
          simp only at hnum hkeeps
          cases ret₁ with
          | ok u =>
              have hloaded : s₁.EntryLoaded env entry := by
                refine ⟨(refused_congr hnum entry).not.mpr href, fun i hi => ?_⟩
                rw [targets_congr hnum] at hi
                exact (htried.loaded rfl).2 i hi
              exact .cons (by simp) hnum hkeeps (by simp [LoadOutcome.fails]) (by simp)
                (by simp [LoadOutcome.fails, hloaded]) hrest
          | error e =>
              obtain ⟨hmsg, i, hi, hnot⟩ := htried.failed e hnil rfl
              simp only [String.empty_append] at hmsg hnot
              have hfailed : ¬s₁.EntryLoaded env entry := fun hl =>
                hnot (hl.2 i (by rw [targets_congr hnum]; exact hi))
              have hpost : ∀ m, LoadOutcome.failed loadErrmsg₁ = .failed m → errmsg₁ = m := by
                rintro m hm
                rw [LoadOutcome.failed.injEq] at hm
                rw [hmsg, hm]
              by_cases hall : entry.1 = -2
              · simp only [if_pos hall]
                exact .cons (by simp) hnum hkeeps (by simp [LoadOutcome.fails]) hpost
                  (by simp [LoadOutcome.fails, hfailed]) hrest
              · simp only [if_neg hall]
                exact .last rfl hnum hkeeps hpost hfailed

/-! ## The verdict -/

/-- A refused entry ends the request. -/
theorem lastTried_refused (env : XrtEnv) (entries : List (Int × String)) (attempt : Nat)
    (s : System) (loadErrmsg : String)
    (h : .refused ∈ outcomes env attempt entries s loadErrmsg) :
    lastTried (outcomes env attempt entries s loadErrmsg) = some .refused := by
  induction entries generalizing attempt s loadErrmsg with
  | nil => simp [outcomes] at h
  | cons entry entries ih =>
      rw [outcomes] at h ⊢
      split at h
      · rename_i href
        rw [if_pos href]
        rfl
      rename_i href
      rw [if_neg href]
      split at h
      · rename_i hnil
        rw [if_pos hnil, lastTried_idle]
        exact ih _ _ _ (by simpa using h)
      rename_i hnil
      rw [if_neg hnil]
      cases hload : loadAllDevices env attempt entry.2 (s.targets entry.1) s "" loadErrmsg
          (.ok ()) with
      | mk s₁ rest =>
          obtain ⟨errmsg₁, loadErrmsg₁, ret₁⟩ := rest
          rw [hload] at h
          cases ret₁ with
          | ok u =>
              have hrest := ih _ _ _ (by simpa using h)
              simp only
              rw [lastTried_cons (by simp), hrest, Option.getD_some]
          | error e =>
              by_cases hall : entry.1 = -2
              · simp only [if_pos hall] at h ⊢
                have hrest := ih _ _ _ (by simpa using h)
                rw [lastTried_cons (by simp), hrest, Option.getD_some]
              · simp [if_neg hall] at h

/-- Two devices, the second of which cannot be locked. -/
def lockedEnv : XrtEnv :=
  { Scenario.env 2 1 with
    call := fun _ devId =>
      if devId = 1 then { Scenario.call with lockDevice := -1 } else Scenario.call }

end System

end Xrm
