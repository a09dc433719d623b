import Xrm.Model.Reading

/-! # The loop that reads a response ends

The loop is left once as many bytes have come as the response is long. The buffer bounds what a
read takes, so a response that is longer than the buffer is never read to its end: when the
buffer is full, the reads deliver nothing and the loop goes on forever.
-/

namespace Xrm

/-- All bytes that arrive. -/
def arriving (stream : List Arrival) : List UInt8 := stream.flatMap Arrival.received

@[simp] theorem arriving_nil : arriving [] = [] := rfl

@[simp] theorem arriving_bytes (first : UInt8) (more : List UInt8) (stream : List Arrival) :
    arriving (.bytes first more :: stream) = first :: more ++ arriving stream := rfl

@[simp] theorem arriving_interrupted (stream : List Arrival) :
    arriving (.interrupted :: stream) = arriving stream := rfl

@[simp] theorem arriving_rest (left : List UInt8) (stream : List Arrival) :
    arriving (Arrival.rest left stream) = left ++ arriving stream := by
  cases left <;> rfl

theorem length_rest_le (left : List UInt8) (stream : List Arrival) :
    (Arrival.rest left stream).length ≤ stream.length + 1 := by
  cases left <;> simp [Arrival.rest]

namespace Reading

section

variable {totalLen : Int} {r r' : Reading} {out : Option (Except XrmError Nat)}

/-- The loop is left behind a read that delivered `replyLength` bytes. -/
def leave (totalLen : Int) (r : Reading) (replyLength : Nat) : Option (Except XrmError Nat) :=
  if totalLen ≤ r.jsonRsp.length then some (.ok replyLength) else none

theorem leave_eq_none {replyLength : Nat} :
    leave totalLen r replyLength = none ↔ (r.jsonRsp.length : Int) < totalLen := by
  simp [leave]

/-- What a round can do. -/
inductive Round (totalLen : Int) (r : Reading) : Reading → Option (Except XrmError Nat) → Prop where
  | full (hfull : maxLength ≤ r.jsonRsp.length) : Round totalLen r r (leave totalLen r 0)
  | closed (hroom : r.jsonRsp.length < maxLength) (hstream : r.stream = []) :
      Round totalLen r r (some (.error .error))
  | interrupted {stream : List Arrival} (hroom : r.jsonRsp.length < maxLength)
      (hstream : r.stream = .interrupted :: stream) :
      Round totalLen r { r with stream } (leave totalLen r 0)
  | received {reply : List UInt8} {stream : List Arrival} (hne : reply ≠ [])
      (hfits : r.jsonRsp.length + reply.length ≤ maxLength)
      (hbytes : reply ++ arriving stream = arriving r.stream)
      (hlen : stream.length ≤ r.stream.length) :
      Round totalLen r ⟨stream, r.jsonRsp ++ reply⟩
        (leave totalLen ⟨stream, r.jsonRsp ++ reply⟩ reply.length)

theorem round (totalLen : Int) (r : Reading) :
    Round totalLen r (readRound totalLen r).1 (readRound totalLen r).2 := by
  rcases r with ⟨stream, jsonRsp⟩
  rcases Nat.lt_or_ge jsonRsp.length maxLength with hroom | hfull
  · have hsize : maxLength - jsonRsp.length ≠ 0 := by omega
    cases stream with
    | nil =>
        simp only [readRound, readSome, hsize, if_false]
        exact .closed hroom rfl
    | cons arrival stream =>
        cases arrival with
        | interrupted =>
            simp only [readRound, readSome, hsize, if_false, List.append_nil]
            exact .interrupted hroom rfl
        | bytes first more =>
            simp only [readRound, readSome, hsize, if_false]
            apply Round.received
            · simp [hsize]
            · have htake := List.length_take_le (maxLength - jsonRsp.length) (first :: more)
              change jsonRsp.length + _ ≤ maxLength
              omega
            · simp [← List.append_assoc]
            · exact length_rest_le _ _
  · have hsize : maxLength - jsonRsp.length = 0 := by omega
    simp only [readRound, readSome, hsize, if_true, List.append_nil]
    exact .full hfull

/-- The buffer holds what has been read. -/
def Fits (r : Reading) : Prop := r.jsonRsp.length ≤ maxLength

theorem Round.fits (h : Round totalLen r r' out) (hfits : r.Fits) : r'.Fits := by
  cases h with
  | full => exact hfits
  | closed => exact hfits
  | interrupted => exact hfits
  | received _ hfits =>
      rw [Fits, List.length_append]
      exact hfits

/-- A round moves bytes from the connection to the buffer, and none is lost. -/
theorem Round.bytes (h : Round totalLen r r' out) :
    r'.jsonRsp ++ arriving r'.stream = r.jsonRsp ++ arriving r.stream := by
  cases h with
  | full => rfl
  | closed => rfl
  | interrupted _ hstream => simp [hstream]
  | received _ _ hbytes => rw [← hbytes, List.append_assoc]

/-- The response ends within the buffer, or the connection ends before the buffer is full. -/
def Bounded (totalLen : Int) (r : Reading) : Prop :=
  totalLen ≤ maxLength ∨ (r.jsonRsp ++ arriving r.stream).length < maxLength

theorem Round.bounded (h : Round totalLen r r' out) : Bounded totalLen r' ↔ Bounded totalLen r := by
  rw [Bounded, Bounded, h.bytes]

/-- A round that goes on has read at least one byte, or a signal has interrupted its read. -/
theorem Round.advances (h : Round totalLen r r' none) (hbounded : Bounded totalLen r) :
    r.jsonRsp.length < r'.jsonRsp.length ∧ r'.stream.length ≤ r.stream.length ∨
      r.stream = .interrupted :: r'.stream := by
  generalize hout : (none : Option (Except XrmError Nat)) = out at h
  cases h with
  | full hfull =>
      have hgoes := leave_eq_none.mp hout.symm
      rw [Bounded, List.length_append] at hbounded
      omega
  | closed => simp at hout
  | interrupted _ hstream => exact .inr hstream
  | received hne _ _ hlen =>
      have hpos := List.length_pos_iff.mpr hne
      refine .inl ⟨?_, hlen⟩
      simpa using hpos

/-- What the loop still has in front of it. -/
def work (r : Reading) : Nat := r.stream.length + (arriving r.stream).length

theorem Round.work_lt (h : Round totalLen r r' none) (hbounded : Bounded totalLen r) :
    r'.work < r.work := by
  have hbytes := congrArg List.length h.bytes
  simp only [List.length_append] at hbytes
  simp only [work]
  rcases h.advances hbounded with ⟨hmore, hlen⟩ | hstream
  · omega
  · rw [hstream, arriving_interrupted, List.length_cons]
    omega

/-- A response that is longer than the buffer is still arriving when the buffer is full. -/
theorem Round.goes_on (h : Round totalLen r r' out) (hfits : r.Fits)
    (hbounded : ¬Bounded totalLen r) : out = none := by
  have hnext := h.fits hfits
  simp only [Bounded, not_or, Int.not_le, not_lt, List.length_append] at hbounded
  have hleave {r' : Reading} (hr' : r'.Fits) (replyLength : Nat) :
      leave totalLen r' replyLength = none := by
    rw [leave_eq_none]
    simp only [Fits] at hr'
    omega
  cases h with
  | full => exact hleave hfits _
  | closed hroom hstream =>
      simp only [hstream, arriving_nil, List.length_nil] at hbounded
      omega
  | interrupted => exact hleave hfits _
  | received => exact hleave hnext _

/-- The reading of a response at its start. -/
def fresh (stream : List Arrival) : Reading := ⟨stream, []⟩

theorem fresh_fits (stream : List Arrival) : (fresh stream).Fits := Nat.zero_le _

theorem bounded_fresh {stream : List Arrival} :
    Bounded totalLen (fresh stream) ↔
      totalLen ≤ maxLength ∨ (arriving stream).length < maxLength := Iff.rfl

/-- The loop always ends, writes no more than the buffer holds, and each round that goes on reads
at least one byte, interrupted reads apart. -/
structure Responsive (totalLen : Int) (stream : List Arrival) : Prop where
  ends : Loop.Ends (readRound totalLen) (fresh stream)
  fits : ∀ r, Loop.Passes (readRound totalLen) (fresh stream) r →
    r.Fits ∧ (readRound totalLen r).1.Fits
  advances : ∀ r, Loop.Passes (readRound totalLen) (fresh stream) r →
    (readRound totalLen r).2 = none →
      r.jsonRsp.length < (readRound totalLen r).1.jsonRsp.length ∨
        r.stream.head? = some .interrupted

/-- The buffer is never overrun, whatever the length that is announced. -/
theorem fits_of_passes {stream : List Arrival}
    (h : Loop.Passes (readRound totalLen) (fresh stream) r) : r.Fits :=
  h.invariant (fresh_fits stream) fun r hr _ => (round totalLen r).fits hr

theorem bounded_of_passes {stream : List Arrival}
    (h : Loop.Passes (readRound totalLen) (fresh stream) r) (h0 : Bounded totalLen (fresh stream)) :
    Bounded totalLen r :=
  h.invariant h0 fun r hr _ => (round totalLen r).bounded.mpr hr

theorem ends_of_bounded (h : Bounded totalLen r) : Loop.Ends (readRound totalLen) r := by
  apply Loop.ends_of_decreasing (I := Bounded totalLen) work _ _ h
  · intro r hr _
    exact (round totalLen r).bounded.mpr hr
  · intro r hr hnone
    exact Round.work_lt (hnone ▸ round totalLen r) hr

theorem not_ends_of_not_bounded (hfits : r.Fits) (h : ¬Bounded totalLen r) :
    ¬Loop.Ends (readRound totalLen) r := by
  apply Loop.not_ends_of_invariant (I := fun r => r.Fits ∧ ¬Bounded totalLen r) _ _ ⟨hfits, h⟩
  · rintro r ⟨hfits, hr⟩
    exact (round totalLen r).goes_on hfits hr
  · rintro r ⟨hfits, hr⟩
    exact ⟨(round totalLen r).fits hfits, (round totalLen r).bounded.not.mpr hr⟩

end

/-- The loop of a response ends exactly when the announced length fits the buffer or the
connection ends before the buffer is full. -/
theorem responsive_iff (first second third fourth : UInt8) (stream : List Arrival) :
    Responsive (totalLen [first, second, third, fourth]) stream ↔
      totalLen [first, second, third, fourth] ≤ maxLength ∨
        (arriving stream).length < maxLength := by
  rw [← bounded_fresh]
  constructor
  · intro h
    by_contra hbounded
    exact not_ends_of_not_bounded (fresh_fits stream) hbounded h.ends
  · intro h
    refine ⟨ends_of_bounded h, ?_, ?_⟩
    · intro r hr
      exact ⟨fits_of_passes hr, (round _ r).fits (fits_of_passes hr)⟩
    · intro r hr hnone
      have hadvances := Round.advances (hnone ▸ round _ r) (bounded_of_passes hr h)
      rcases hadvances with ⟨hmore, -⟩ | hstream
      · exact .inl hmore
      · exact .inr (by simp [hstream])

/-- As many bytes as the buffer holds, and one more. -/
def flood : List Arrival := [.bytes 32 (List.replicate maxLength 32)]

theorem length_flood : (arriving flood).length = maxLength + 1 := by
  rw [flood, arriving_bytes, arriving_nil, List.append_nil, List.length_cons,
    List.length_replicate]

/-- 131073 bytes are announced and arrive: the loop does not end. -/
theorem responsive_iff_flood : ¬Responsive (totalLen [1, 0, 2, 0]) flood ∧
    ∀ fuel, (Loop.run (readRound (totalLen [1, 0, 2, 0])) fuel (fresh flood)).2 = none := by
  have hlen : totalLen [1, 0, 2, 0] = (maxLength : Int) + 1 := by decide
  have hbounded : ¬Bounded (totalLen [1, 0, 2, 0]) (fresh flood) := by
    rw [bounded_fresh, length_flood, hlen]
    omega
  have hends := not_ends_of_not_bounded (fresh_fits flood) hbounded
  refine ⟨fun h => hends h.ends, ?_⟩
  intro fuel
  by_contra hsome
  exact hends ⟨fuel, Option.isSome_iff_ne_none.mpr hsome⟩

end Reading

/-! ## The answer to a request -/

/-- The loop that reads the length always ends, and the whole does unless a response longer than
the buffer arrives. -/
theorem readResponse_ends_iff (stream : List Arrival) :
    (∃ fuel, (readResponse fuel stream).isSome) ↔
      ∀ tmp rest, readLength stream = .ok (tmp, rest) →
        totalLen tmp ≤ maxLength ∨ (arriving rest).length < maxLength := by
  cases hlength : readLength stream with
  | error e => simp [readResponse, hlength]
  | ok read =>
      rcases read with ⟨tmp, rest⟩
      have hloop : (∃ fuel, (readResponse fuel stream).isSome) ↔
          Loop.Ends (readRound (totalLen tmp)) (Reading.fresh rest) := by
        apply exists_congr
        intro fuel
        simp only [readResponse, hlength, Reading.fresh]
        rcases Loop.run (readRound (totalLen tmp)) fuel ⟨rest, []⟩ with ⟨r, _ | _ | replyLength⟩
        · simp
        · simp
        · by_cases hzero : replyLength = 0 <;> simp [hzero]
      rw [hloop]
      constructor
      · intro h tmp' rest' heq
        cases heq
        by_contra hbounded
        exact Reading.not_ends_of_not_bounded (Reading.fresh_fits rest) hbounded h
      · intro h
        exact Reading.ends_of_bounded (Reading.bounded_fresh.mpr (h tmp rest rfl))

/-- A read of the link's library is the round of the loop that takes just these bytes. -/
theorem Link.responseRead_call {link : Link} {announced : Int} {jsonRsp more : List UInt8}
    {first : UInt8} {length : Nat} (stream : List Arrival)
    (hcall : link.call = .response announced jsonRsp) (h : link.Enabled (.responseRead length))
    (hbytes : link.toLibrary.take length = first :: more) :
    (link.act (.responseRead length)).call =
      match readRound announced ⟨.bytes first more :: stream, jsonRsp⟩ with
      | (r, none) => .response announced r.jsonRsp
      | (_, some _) => .idle := by
  simp only [Link.Enabled, hcall] at h
  obtain ⟨hpos, hroom, hlen⟩ := h
  have hsize : maxLength - jsonRsp.length ≠ 0 := by omega
  have htake : (first :: more).take (maxLength - jsonRsp.length) = first :: more := by
    rw [← hbytes, List.take_take, Nat.min_eq_right hroom]
  simp only [Link.act, hcall, hbytes, readRound, readSome, hsize, if_false, htake]
  by_cases hdone : announced ≤ ((jsonRsp ++ first :: more).length : Nat)
  · simp only [hdone, if_true]
  · simp only [hdone, if_false]

end Xrm
