import Mathlib.Algebra.Group.Int.Defs
import Mathlib.Algebra.Group.Nat.Defs
import Xrm.Model.Types

/-! # The connection between the library and a session

Each direction is a stream of bytes, and a read takes any part of what is under way. A request is
sent as it is; a response follows four bytes that hold its length.
-/

namespace Xrm

/-- A text that is not empty and holds no zero byte, as both sides send them. -/
structure CText where
  bytes : List UInt8
  ne_nil : bytes ≠ []
  noZero : (0 : UInt8) ∉ bytes

/-- The size of the buffers on both sides. -/
def maxLength : Nat := 131072

/-! ## The session's output -/

/-- The length of a response, lowest byte first. -/
def lengthBytes (n : Nat) : List UInt8 :=
  [n.toUInt8, (n / 2 ^ 8).toUInt8, (n / 2 ^ 16).toUInt8, (n / 2 ^ 24).toUInt8]

/-- `m_outdata` after the response has been copied: `strncpy` fills up with zeros and leaves the
last byte of the buffer as it was. -/
def outdata (last : UInt8) (rsp : List UInt8) : List UInt8 :=
  lengthBytes rsp.length ++ (rsp ++ List.replicate (maxLength - 5) 0).take (maxLength - 5) ++ [last]

/-- The bytes that are written: no more than the buffer holds. -/
def written (last : UInt8) (rsp : List UInt8) : List UInt8 :=
  (outdata last rsp).take (rsp.length + 4)

/-! ## The library's input -/

/-- The length that the library computes from the four bytes it has read. -/
def totalLen (tmp : List UInt8) : Int :=
  i32 ((tmp.getD 0 0).toNat + (tmp.getD 1 0).toNat * 2 ^ 8 + (tmp.getD 2 0).toNat * 2 ^ 16 +
    (tmp.getD 3 0).toNat * 2 ^ 24)

/-- Where the library is in `xrmJsonRequest`. -/
inductive Call where
  | idle
  | length
  | response (totalLen : Int) (jsonRsp : List UInt8)
  deriving Repr, DecidableEq

/-! ## The link -/

/-- A connection. `sent`, `handled` and `returned` record what has happened on it: the requests of
the calls, the commands that the session handled with their responses, and what the calls
returned, where `none` is an error. -/
structure Link where
  toDaemon : List UInt8
  toLibrary : List UInt8
  lastOutByte : UInt8
  call : Call
  sent : List CText
  handled : List (List UInt8 × CText)
  returned : List (Option (List UInt8))

namespace Link

def start (lastOutByte : UInt8) : Link where
  toDaemon := []
  toLibrary := []
  lastOutByte := lastOutByte
  call := .idle
  sent := []
  handled := []
  returned := []

/-- A step of one side. A read says how many bytes it delivers, the session's also which response
the command gets. -/
inductive Event where
  | request (req : CText)
  | daemonRead (length : Nat) (rsp : CText)
  | lengthRead (length : Nat)
  | responseRead (length : Nat)

/-- The step can happen: there is a call or not, and a read delivers at least one byte, no more
than the buffer takes and no more than have arrived. -/
def Enabled (link : Link) : Event → Prop
  | .request _ => link.call = .idle
  | .daemonRead length _ => 0 < length ∧ length ≤ maxLength ∧ length ≤ link.toDaemon.length
  | .lengthRead length =>
      link.call = .length ∧ 0 < length ∧ length ≤ 4 ∧ length ≤ link.toLibrary.length
  | .responseRead length =>
      match link.call with
      | .response _ jsonRsp =>
          0 < length ∧ length ≤ maxLength - jsonRsp.length ∧ length ≤ link.toLibrary.length
      | _ => False

instance (link : Link) (event : Event) : Decidable (link.Enabled event) := by
  cases event with
  | responseRead length =>
      unfold Enabled
      cases link.call <;> infer_instance
  | _ =>
      unfold Enabled
      infer_instance

/-- What a step does that can happen. -/
def act (link : Link) : Event → Link
  | .request req =>
      { link with
        toDaemon := link.toDaemon ++ req.bytes, call := .length, sent := link.sent ++ [req] }
  | .daemonRead length rsp =>
      -- `m_indata` is ended behind the bytes read, which hold no zero
      { link with
        toDaemon := link.toDaemon.drop length
        toLibrary := link.toLibrary ++ written link.lastOutByte rsp.bytes
        handled := link.handled ++ [(link.toDaemon.take length, rsp)] }
  | .lengthRead length =>
      -- one read has to deliver all four bytes
      if length ≠ 4 then
        { link with
          toLibrary := link.toLibrary.drop length
          call := .idle
          returned := link.returned ++ [none] }
      else
        { link with
          toLibrary := link.toLibrary.drop length
          call := .response (totalLen (link.toLibrary.take length)) [] }
  | .responseRead length =>
      match link.call with
      | .response totalLen jsonRsp =>
          let jsonRsp := jsonRsp ++ link.toLibrary.take length
          if totalLen ≤ jsonRsp.length then
            { link with
              toLibrary := link.toLibrary.drop length
              call := .idle
              returned := link.returned ++ [some jsonRsp] }
          else
            { link with
              toLibrary := link.toLibrary.drop length
              call := .response totalLen jsonRsp }
      | _ => link

def step (link : Link) (event : Event) : Link :=
  if link.Enabled event then link.act event else link

end Link

end Xrm
