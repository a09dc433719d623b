import Xrm.Library.Transition
import Xrm.Model.Framing

/-! # Framing of requests and responses -/

namespace Xrm

open Transition

/-! ## What is written -/

theorem lengthBytes_length (n : Nat) : (lengthBytes n).length = 4 := rfl

theorem totalLen_lengthBytes {n : Nat} (rest : List UInt8) (h : n < 2 ^ 31) :
    totalLen ((lengthBytes n ++ rest).take 4) = n := by
  have htake : (lengthBytes n ++ rest).take 4 = lengthBytes n := by
    rw [List.take_left' (lengthBytes_length n)]
  rw [htake]
  simp only [totalLen, lengthBytes, List.getD_cons_zero, List.getD_cons_succ, i32,
    Nat.toUInt8_eq, UInt8.toNat_ofNat']
  omega

/-- The response leaves the session whole: it fits the buffer behind the four length bytes, or its
last byte is the one that the end of the buffer holds anyway. -/
def CText.Fits (last : UInt8) (rsp : CText) : Prop :=
  rsp.bytes.length ≤ maxLength - 5 ∨
    rsp.bytes.length = maxLength - 4 ∧ rsp.bytes.getLast? = some last

/-- The bytes behind the four length bytes. -/
def payload (last : UInt8) (rsp : CText) : List UInt8 :=
  ((rsp.bytes ++ List.replicate (maxLength - 5) 0).take (maxLength - 5) ++ [last]).take
    rsp.bytes.length

theorem written_eq (last : UInt8) (rsp : CText) :
    written last rsp.bytes = lengthBytes rsp.bytes.length ++ payload last rsp := by
  rw [written, outdata, List.append_assoc, Nat.add_comm, ← lengthBytes_length rsp.bytes.length,
    List.take_length_add_append]
  rfl

theorem payload_of_le {last : UInt8} {rsp : CText} (h : rsp.bytes.length ≤ maxLength - 5) :
    payload last rsp = rsp.bytes := by
  rw [payload, List.take_append_of_le_length (by simp; omega), List.take_take, Nat.min_eq_left h,
    List.take_left' rfl]

theorem payload_of_lt {last : UInt8} {rsp : CText} (h : maxLength - 5 < rsp.bytes.length) :
    payload last rsp = rsp.bytes.take (maxLength - 5) ++ [last] := by
  have hcopied : (rsp.bytes ++ List.replicate (maxLength - 5) 0).take (maxLength - 5) =
      rsp.bytes.take (maxLength - 5) := List.take_append_of_le_length (by omega)
  rw [payload, hcopied, List.take_of_length_le]
  simp only [List.length_append, List.length_take, List.length_singleton]
  omega

theorem payload_of_fits {last : UInt8} {rsp : CText} (h : rsp.Fits last) :
    payload last rsp = rsp.bytes := by
  rcases h with h | ⟨hlen, hlast⟩
  · exact payload_of_le h
  · have hsplit : rsp.bytes = rsp.bytes.dropLast ++ [last] :=
      (List.dropLast_append_getLast? last hlast).symm
    rw [payload_of_lt (by rw [hlen]; decide)]
    conv_rhs => rw [hsplit, List.dropLast_eq_take, hlen]
    rfl

/-- Nothing that starts like the response is sent unless the response fits. -/
theorem fits_of_prefix_payload {last : UInt8} {rsp : CText}
    (h : rsp.bytes <+: payload last rsp) : rsp.Fits last := by
  rcases Nat.lt_or_ge (maxLength - 5) rsp.bytes.length with hlt | hle
  · have hpayload := @payload_of_lt last _ hlt
    have hlen : (payload last rsp).length = maxLength - 4 := by
      rw [hpayload]
      simp only [List.length_append, List.length_take, List.length_singleton]
      rw [Nat.min_eq_left (by omega)]
      rfl
    have hle := h.length_le
    have heq : rsp.bytes = payload last rsp := by
      apply h.eq_of_length
      rw [hlen] at hle ⊢
      simp only [maxLength] at hlt hle ⊢
      omega
    refine .inr ⟨by rw [heq, hlen], ?_⟩
    rw [heq, hpayload, List.getLast?_append]
    rfl
  · exact .inl hle

theorem CText.Fits.length_lt {last : UInt8} {rsp : CText} (h : rsp.Fits last) :
    rsp.bytes.length < maxLength - 3 := by
  rcases h with h | ⟨h, -⟩ <;> (simp only [maxLength] at h ⊢; omega)

/-! ## Exchanges -/

/-- A request with the response it got. -/
structure Exchange where
  request : CText
  response : CText

namespace Link

/-- What has happened on the link is right: the session handled the requests one by one with
exactly their bytes, and the calls returned exactly the responses to them. -/
def Delivered (link : Link) : Prop :=
  link.handled.map Prod.fst <+: link.sent.map CText.bytes ∧
    link.returned <+: link.handled.map fun h => some h.2.bytes

/-- A step that the framing can take: the request fits the buffer of the session and arrives in
one read, the response fits the buffer behind its length, and the length arrives in one read. -/
def StepOk (link : Link) (event : Event) : Prop :=
  link.Enabled event →
    match event with
    | .request req => req.bytes.length ≤ maxLength
    | .daemonRead length rsp => length = link.toDaemon.length ∧ rsp.Fits link.lastOutByte
    | .lengthRead length => length = 4
    | .responseRead _ => True

/-- What may happen to a call while it waits. -/
def May (link : Link) (event : Event) : Prop := link.Enabled event ∧ link.StepOk event

/-- The call that is under way returns, with everything delivered. -/
def Returns (link : Link) : Prop :=
  Inevitable step May (fun link => link.call = .idle ∧ link.Delivered) link

/-- The states of a link on which the framing works. -/
inductive Good : Link → Prop where
  | idle (last : UInt8) (l : List Exchange) : Good {
      toDaemon := []
      toLibrary := []
      lastOutByte := last
      call := .idle
      sent := l.map (·.request)
      handled := l.map fun x => (x.request.bytes, x.response)
      returned := l.map fun x => some x.response.bytes }
  | asked (last : UInt8) (l : List Exchange) (req : CText) (h : req.bytes.length ≤ maxLength) :
      Good {
        toDaemon := req.bytes
        toLibrary := []
        lastOutByte := last
        call := .length
        sent := l.map (·.request) ++ [req]
        handled := l.map fun x => (x.request.bytes, x.response)
        returned := l.map fun x => some x.response.bytes }
  | answered (last : UInt8) (l : List Exchange) (x : Exchange) (h : x.response.Fits last) :
      Good {
        toDaemon := []
        toLibrary := lengthBytes x.response.bytes.length ++ x.response.bytes
        lastOutByte := last
        call := .length
        sent := (l ++ [x]).map (·.request)
        handled := (l ++ [x]).map fun x => (x.request.bytes, x.response)
        returned := l.map fun x => some x.response.bytes }
  | reading (last : UInt8) (l : List Exchange) (x : Exchange) (h : x.response.Fits last)
      (got rest : List UInt8) (hrest : rest ≠ []) (heq : got ++ rest = x.response.bytes) :
      Good {
        toDaemon := []
        toLibrary := rest
        lastOutByte := last
        call := .response x.response.bytes.length got
        sent := (l ++ [x]).map (·.request)
        handled := (l ++ [x]).map fun x => (x.request.bytes, x.response)
        returned := l.map fun x => some x.response.bytes }

variable {link : Link} {event : Event}

theorem Good.delivered (h : link.Good) : link.Delivered := by
  cases h with
  | idle last l => simp [Delivered, Function.comp_def]
  | asked last l req h => simp [Delivered, Function.comp_def]
  | answered last l x h => simp [Delivered, Function.comp_def]
  | reading last l x h got rest hrest heq => simp [Delivered, Function.comp_def]

theorem Good.step (h : link.Good) (hok : link.StepOk event) : (link.step event).Good := by
  by_cases hen : link.Enabled event
  · rw [Link.step, if_pos hen]
    have hok := hok hen
    cases h with
    | idle last l =>
        cases event with
        | request req => exact .asked last l req hok
        | daemonRead length rsp => simp [Enabled] at hen; omega
        | lengthRead length => simp [Enabled] at hen
        | responseRead length => simp [Enabled] at hen
    | asked last l req h =>
        cases event with
        | request req => simp [Enabled] at hen
        | daemonRead length rsp =>
            obtain ⟨rfl, hfits⟩ := hok
            have := Good.answered last l ⟨req, rsp⟩ hfits
            simpa [act, written_eq, payload_of_fits hfits] using this
        | lengthRead length => simp [Enabled] at hen; omega
        | responseRead length => simp [Enabled] at hen
    | answered last l x h =>
        cases event with
        | request req => simp [Enabled] at hen
        | daemonRead length rsp => simp [Enabled] at hen; omega
        | lengthRead length =>
            obtain rfl : length = 4 := hok
            have hlt := h.length_lt
            have htotal := totalLen_lengthBytes x.response.bytes
              (show x.response.bytes.length < 2 ^ 31 by simp only [maxLength] at hlt; omega)
            have := Good.reading last l x h [] x.response.bytes x.response.ne_nil rfl
            simpa [act, htotal, List.drop_left' (lengthBytes_length _)] using this
        | responseRead length => simp [Enabled] at hen
    | reading last l x h got rest hrest heq =>
        cases event with
        | request req => simp [Enabled] at hen
        | daemonRead length rsp => simp [Enabled] at hen; omega
        | lengthRead length => simp [Enabled] at hen
        | responseRead length =>
            obtain ⟨-, -, hlen⟩ : 0 < length ∧ length ≤ maxLength - got.length ∧
              length ≤ rest.length := hen
            have htotal : x.response.bytes.length = got.length + rest.length := by
              rw [← heq, List.length_append]
            by_cases hdone : length = rest.length
            · have := Good.idle last (l ++ [x])
              simpa [act, htotal, hdone, heq] using this
            · have := Good.reading last l x h (got ++ rest.take length) (rest.drop length)
                (by rw [ne_eq, List.drop_eq_nil_iff]; omega) (by simpa using heq)
              have hmore : ¬ rest.length ≤ length := by omega
              simpa [act, htotal, Nat.min_eq_left hlen, hmore] using this
  · rwa [Link.step, if_neg hen]

/-- What is left of a call, as the number of bytes that the library may still have to read. -/
def remaining (link : Link) : Nat :=
  match link.call with
  | .idle => 0
  | .length => if link.toLibrary = [] then maxLength + 1 else link.toLibrary.length
  | .response _ _ => link.toLibrary.length

/-- The step lemma for the progress of a call. -/
theorem Good.remaining_step (h : link.Good) (hcall : link.call ≠ .idle) (hmay : link.May event) :
    (link.step event).remaining < link.remaining := by
  obtain ⟨hen, hok⟩ := hmay
  have hok := hok hen
  rw [Link.step, if_pos hen]
  cases h with
  | idle last l => simp at hcall
  | asked last l req h =>
      cases event with
      | request req => simp [Enabled] at hen
      | daemonRead length rsp =>
          obtain ⟨rfl, hfits⟩ := hok
          have hlt := hfits.length_lt
          simp only [remaining, act, written_eq, payload_of_fits hfits, List.nil_append]
          rw [if_neg (by simp [lengthBytes]), if_pos trivial, List.length_append,
            lengthBytes_length]
          simp only [maxLength] at hlt ⊢
          omega
      | lengthRead length => simp [Enabled] at hen; omega
      | responseRead length => simp [Enabled] at hen
  | answered last l x h =>
      cases event with
      | request req => simp [Enabled] at hen
      | daemonRead length rsp => simp [Enabled] at hen; omega
      | lengthRead length =>
          obtain rfl : length = 4 := hok
          simp [remaining, act, lengthBytes]
          omega
      | responseRead length => simp [Enabled] at hen
  | reading last l x h got rest hrest heq =>
      cases event with
      | request req => simp [Enabled] at hen
      | daemonRead length rsp => simp [Enabled] at hen; omega
      | lengthRead length => simp [Enabled] at hen
      | responseRead length =>
          obtain ⟨hpos, -, hlen⟩ : 0 < length ∧ length ≤ maxLength - got.length ∧
            length ≤ rest.length := hen
          have htotal : x.response.bytes.length = got.length + rest.length := by
            rw [← heq, List.length_append]
          by_cases hdone : length = rest.length
          · simpa [remaining, act, htotal, hdone] using List.length_pos_iff.mpr hrest
          · have hmore : ¬ rest.length ≤ length := by omega
            simp [remaining, act, htotal, Nat.min_eq_left hlen, hmore]
            omega

/-- The session can answer with something. -/
def CText.ok : CText where
  bytes := [0x7B, 0x7D]
  ne_nil := by decide
  noZero := by decide

/-- While a call is under way, some step is allowed. -/
theorem Good.can_step (h : link.Good) (hcall : link.call ≠ .idle) : ∃ event, link.May event := by
  cases h with
  | idle last l => simp at hcall
  | asked last l req h =>
      have hpos := List.length_pos_iff.mpr req.ne_nil
      exact ⟨.daemonRead req.bytes.length CText.ok, ⟨hpos, h, Nat.le_refl _⟩,
        fun _ => ⟨rfl, .inl (by decide)⟩⟩
  | answered last l x h =>
      exact ⟨.lengthRead 4, ⟨rfl, by decide, by decide, by simp [lengthBytes]⟩, fun _ => rfl⟩
  | reading last l x h got rest hrest heq =>
      have hpos := List.length_pos_iff.mpr hrest
      have hlt := h.length_lt
      have htotal := congrArg List.length heq
      rw [List.length_append] at htotal
      exact ⟨.responseRead 1, ⟨by decide, by simp only [maxLength] at hlt ⊢; omega, hpos⟩,
        fun _ => trivial⟩

/-- A call returns, whatever the steps are that the framing can take. -/
theorem Good.returns (h : link.Good) : link.Returns := by
  refine Inevitable.of_measure (I := Good) remaining (fun s a hs ha => hs.step ha.2) ?_ ?_ h
  · intro s a hs hnot ha
    exact hs.remaining_step (fun hidle => hnot ⟨hidle, hs.delivered⟩) ha
  · intro s hs hnot
    exact hs.can_step fun hidle => hnot ⟨hidle, hs.delivered⟩

/-! ## Links on which the framing has failed -/

/-- The states from which no allowed step leads back: a command or a returned response is wrong, a
request cannot be read at once, or a response that does not fit is under way. -/
inductive Lost (link : Link) : Prop where
  | command (i : Nat) (req : CText) (h : List UInt8 × CText) (hsent : link.sent[i]? = some req)
      (hhandled : link.handled[i]? = some h) (hne : h.1 ≠ req.bytes)
  | response (i : Nat) (h : List UInt8 × CText) (r : Option (List UInt8))
      (hhandled : link.handled[i]? = some h) (hreturned : link.returned[i]? = some r)
      (hne : r ≠ some h.2.bytes)
  | oversized (hcall : link.call = .length) (hlib : link.toLibrary = [])
      (hlong : maxLength < link.toDaemon.length)
  | unfit (hs : List (List UInt8 × CText)) (cmd : List UInt8) (rsp : CText)
      (hfit : ¬ rsp.Fits link.lastOutByte) (hdaemon : link.toDaemon = [])
      (hhandled : link.handled = hs ++ [(cmd, rsp)])
      (hreturned : link.returned = hs.map fun h => some h.2.bytes)
      (hcall : link.call = .length ∧
          link.toLibrary = lengthBytes rsp.bytes.length ++ payload link.lastOutByte rsp ∨
        ∃ total got, link.call = .response total got ∧
          got ++ link.toLibrary = payload link.lastOutByte rsp)

theorem Lost.not_returned (h : link.Lost) : ¬ (link.call = .idle ∧ link.Delivered) := by
  rintro ⟨hidle, hcommands, hresponses⟩
  cases h with
  | command i req h hsent hhandled hne =>
      obtain ⟨rest, hrest⟩ := hcommands
      have hmap : (link.handled.map Prod.fst)[i]? = some h.1 := by simp [hhandled]
      have hget : (link.sent.map CText.bytes)[i]? = some h.1 := by
        rw [← hrest, List.getElem?_append_left (List.getElem?_eq_some_iff.mp hmap).1, hmap]
      rw [List.getElem?_map, hsent] at hget
      exact hne (Option.some.inj hget).symm
  | response i h r hhandled hreturned hne =>
      obtain ⟨rest, hrest⟩ := hresponses
      have hget : (link.handled.map fun h => some h.2.bytes)[i]? = some r := by
        rw [← hrest, List.getElem?_append_left (List.getElem?_eq_some_iff.mp hreturned).1,
          hreturned]
      rw [List.getElem?_map, hhandled] at hget
      exact hne (Option.some.inj hget).symm
  | oversized hcall => rw [hcall] at hidle; cases hidle
  | unfit hs cmd rsp hfit hdaemon hhandled hreturned hcall =>
      rcases hcall with ⟨hcall, -⟩ | ⟨total, got, hcall, -⟩ <;>
        (rw [hcall] at hidle; cases hidle)

/-- The records of a link only grow. -/
theorem step_grows (link : Link) (event : Event) :
    link.sent <+: (link.step event).sent ∧ link.handled <+: (link.step event).handled ∧
      link.returned <+: (link.step event).returned := by
  rw [step]
  split
  · cases event with
    | request req => exact ⟨List.prefix_append _ _, List.prefix_rfl, List.prefix_rfl⟩
    | daemonRead length rsp => exact ⟨List.prefix_rfl, List.prefix_append _ _, List.prefix_rfl⟩
    | lengthRead length =>
        rw [act]
        split
        · exact ⟨List.prefix_rfl, List.prefix_rfl, List.prefix_append _ _⟩
        · exact ⟨List.prefix_rfl, List.prefix_rfl, List.prefix_rfl⟩
    | responseRead length =>
        rw [act]
        split
        · dsimp only
          split
          · exact ⟨List.prefix_rfl, List.prefix_rfl, List.prefix_append _ _⟩
          · exact ⟨List.prefix_rfl, List.prefix_rfl, List.prefix_rfl⟩
        · exact ⟨List.prefix_rfl, List.prefix_rfl, List.prefix_rfl⟩
  · exact ⟨List.prefix_rfl, List.prefix_rfl, List.prefix_rfl⟩

theorem getElem?_mono {α : Type} {l l' : List α} {i : Nat} {a : α} (h : l <+: l')
    (hi : l[i]? = some a) : l'[i]? = some a := by
  obtain ⟨rest, rfl⟩ := h
  rw [List.getElem?_append_left (List.getElem?_eq_some_iff.mp hi).1, hi]

theorem Lost.step (h : link.Lost) (hmay : link.May event) : (link.step event).Lost := by
  obtain ⟨hgrow_sent, hgrow_handled, hgrow_returned⟩ := step_grows link event
  obtain ⟨hen, hok⟩ := hmay
  have hok := hok hen
  cases h with
  | command i req h hsent hhandled hne =>
      exact .command i req h (getElem?_mono hgrow_sent hsent)
        (getElem?_mono hgrow_handled hhandled) hne
  | response i h r hhandled hreturned hne =>
      exact .response i h r (getElem?_mono hgrow_handled hhandled)
        (getElem?_mono hgrow_returned hreturned) hne
  | oversized hcall hlib hlong =>
      cases event with
      | request req => simp [Enabled, hcall] at hen
      | daemonRead length rsp =>
          obtain ⟨rfl, -⟩ := hok
          exact absurd hen.2.1 (by omega)
      | lengthRead length => simp [Enabled, hlib] at hen; omega
      | responseRead length => simp [Enabled, hcall] at hen
  | unfit hs cmd rsp hfit hdaemon hhandled hreturned hcall =>
      rw [Link.step, if_pos hen]
      cases event with
      | request req =>
          have hidle : link.call = .idle := hen
          simp [hidle] at hcall
      | daemonRead length rsp => simp [Enabled, hdaemon] at hen; omega
      | lengthRead length =>
          obtain rfl : length = 4 := hok
          obtain ⟨-, hlib⟩ | ⟨total, got, hresponse, -⟩ := hcall
          · refine .unfit hs cmd rsp hfit hdaemon hhandled hreturned (.inr ⟨_, [], rfl, ?_⟩)
            simp [act, hlib, List.drop_left' (lengthBytes_length _)]
          · simp [Enabled, hresponse] at hen
      | responseRead length =>
          obtain ⟨hlength, -⟩ | ⟨total, got, hresponse, hgot⟩ := hcall
          · simp [Enabled, hlength] at hen
          · have hprefix : got ++ link.toLibrary.take length <+: payload link.lastOutByte rsp := by
              refine ⟨link.toLibrary.drop length, ?_⟩
              rw [List.append_assoc, List.take_append_drop, hgot]
            by_cases hdone : total ≤ (got ++ link.toLibrary.take length).length
            · -- the call returns, but not with the response
              refine .response hs.length (cmd, rsp) (some (got ++ link.toLibrary.take length))
                ?_ ?_ ?_
              · simp only [act, hresponse, if_pos hdone, hhandled]
                simp
              · simp only [act, hresponse, if_pos hdone, hreturned]
                simp
              · intro heq
                rw [Option.some.inj heq] at hprefix
                exact hfit (fits_of_prefix_payload hprefix)
            · refine .unfit hs cmd rsp ?_ ?_ ?_ ?_
                (.inr ⟨total, got ++ link.toLibrary.take length, ?_, ?_⟩)
              all_goals simp only [act, hresponse, if_neg hdone]
              · exact hfit
              · exact hdaemon
              · exact hhandled
              · exact hreturned
              · rw [List.append_assoc, List.take_append_drop, hgot]

/-- The step lemma for the other direction: a step that the framing cannot take loses the link. -/
theorem Good.lost (h : link.Good) (hnot : ¬ link.StepOk event) : (link.step event).Lost := by
  have hen : link.Enabled event := by
    by_contra hen
    exact hnot fun h => absurd h hen
  rw [Link.step, if_pos hen]
  cases h with
  | idle last l =>
      cases event with
      | request req =>
          refine .oversized rfl rfl ?_
          by_contra hle
          exact hnot fun _ => by simpa [act] using hle
      | daemonRead length rsp => simp [Enabled] at hen; omega
      | lengthRead length => simp [Enabled] at hen
      | responseRead length => simp [Enabled] at hen
  | asked last l req h =>
      cases event with
      | request req => simp [Enabled] at hen
      | daemonRead length rsp =>
          by_cases hlength : length = req.bytes.length
          · have hfit : ¬ rsp.Fits last := fun hfits => hnot fun _ => ⟨hlength, hfits⟩
            refine .unfit (l.map fun x => (x.request.bytes, x.response)) _ rsp hfit ?_ rfl ?_
              (.inl ⟨rfl, ?_⟩)
            · simp [act, hlength]
            · simp [act, Function.comp_def]
            · simp [act, written_eq]
          · refine .command l.length req (req.bytes.take length, rsp) ?_ ?_ ?_
            · simp [act]
            · simp [act]
            · intro heq
              have hle := hen.2.2
              have := congrArg List.length heq
              simp only [List.length_take] at this
              simp only at hle
              omega
      | lengthRead length => simp [Enabled] at hen; omega
      | responseRead length => simp [Enabled] at hen
  | answered last l x h =>
      cases event with
      | request req => simp [Enabled] at hen
      | daemonRead length rsp => simp [Enabled] at hen; omega
      | lengthRead length =>
          have hlength : length ≠ 4 := fun heq => hnot fun _ => heq
          exact .response l.length (x.request.bytes, x.response) none (by simp [act, hlength])
            (by simp [act, hlength]) (by simp)
      | responseRead length => simp [Enabled] at hen
  | reading last l x h got rest hrest heq =>
      cases event with
      | request req => simp [Enabled] at hen
      | daemonRead length rsp => simp [Enabled] at hen; omega
      | lengthRead length => simp [Enabled] at hen
      | responseRead length => exact absurd (fun _ => trivial) hnot

/-- All along a run every command is a request and every call returns its response, exactly when
the framing can take each step. -/
theorem calls_framed (last : UInt8) (events : List Event) :
    (∀ n, let link := (events.take n).foldl step (start last); link.Delivered ∧ link.Returns) ↔
      AllOk step StepOk events (start last) := by
  refine always_iff_allOk_of_good (G := Good) (P := fun link => link.Delivered ∧ link.Returns)
    (fun _ _ h hok => h.step hok) (fun _ h => ⟨h.delivered, h.returns⟩) ?_ events
    (Good.idle last [])
  intro link event hgood hnext
  by_contra hnot
  exact hnext.2.not_of (fun _ _ h hmay => h.step hmay) (fun _ h => h.not_returned)
    (hgood.lost hnot)

/-- A request of two bytes that arrives in two reads. -/
def splitRequest : List Event :=
  [.request CText.ok, .daemonRead 1 CText.ok, .daemonRead 1 CText.ok]

theorem calls_not_framed : ¬ (splitRequest.foldl step (start 0)).Delivered := by
  rintro ⟨h, -⟩
  have hhandled : (splitRequest.foldl step (start 0)).handled.map Prod.fst = [[0x7B], [0x7D]] := by
    decide
  have hsent : (splitRequest.foldl step (start 0)).sent.map CText.bytes = [[0x7B, 0x7D]] := by
    decide
  rw [hhandled, hsent] at h
  exact absurd h (by decide)

end Link

end Xrm
