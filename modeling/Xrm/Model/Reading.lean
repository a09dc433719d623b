import Xrm.Library.Loop
import Xrm.Model.Framing

/-! # Reading a response

The two loops of `xrmJsonRequest` that read a response, with everything that a read can come back
with: bytes, an interruption, or the error of a connection that is closed.
-/

namespace Xrm

/-- What a read meets: the next bytes to arrive, at least one, or a signal. -/
inductive Arrival where
  | bytes (first : UInt8) (more : List UInt8)
  | interrupted
  deriving Repr, DecidableEq

/-- The bytes that arrive. -/
def Arrival.received : Arrival → List UInt8
  | .bytes first more => first :: more
  | .interrupted => []

/-- What is left of bytes that have been read in part. -/
def Arrival.rest : List UInt8 → List Arrival → List Arrival
  | [], stream => stream
  | first :: more, stream => .bytes first more :: stream

/-- The value of `ec` after a read. -/
inductive ReadError where
  | interrupted
  | closed
  deriving Repr, DecidableEq

/-- `read_some` into a buffer of `size` bytes: the bytes read, and the error or none. When nothing
more arrives the connection is closed or broken. Into a buffer of size 0 nothing is read. -/
def readSome (size : Nat) (stream : List Arrival) :
    List UInt8 × Option ReadError × List Arrival :=
  if size = 0 then ([], none, stream)
  else
    match stream with
    | [] => ([], some .closed, [])
    | .interrupted :: stream => ([], some .interrupted, stream)
    | .bytes first more :: stream =>
        ((first :: more).take size, none, Arrival.rest ((first :: more).drop size) stream)

/-- The loop that reads the length: interrupted reads are made again. -/
def readLength : List Arrival → Except XrmError (List UInt8 × List Arrival)
  | [] => .error .error
  | .interrupted :: stream => readLength stream
  | .bytes first more :: stream =>
      match readSome 4 (.bytes first more :: stream) with
      | (tmp, _, stream) => if tmp.length ≠ 4 then .error .error else .ok (tmp, stream)

/-- The loop that reads the response: what is still to arrive, and the buffer up to `cur_len`. -/
structure Reading where
  stream : List Arrival
  jsonRsp : List UInt8

/-- One round of the loop. It is left with `replyLength` or with an error. -/
def readRound (totalLen : Int) (r : Reading) : Reading × Option (Except XrmError Nat) :=
  match readSome (maxLength - r.jsonRsp.length) r.stream with
  | (_, some .closed, stream) => ({ r with stream }, some (.error .error))
  | (reply, _, stream) =>
      let jsonRsp := r.jsonRsp ++ reply
      ({ stream, jsonRsp },
        if totalLen ≤ jsonRsp.length then some (.ok reply.length) else none)

/-- The answer to a request, as far as `fuel` rounds of the second loop come: `rc` and the
buffer. -/
def readResponse (fuel : Nat) (stream : List Arrival) : Option (Except XrmError (List UInt8)) :=
  match readLength stream with
  | .error e => some (.error e)
  | .ok (tmp, stream) =>
      match Loop.run (readRound (totalLen tmp)) fuel { stream, jsonRsp := [] } with
      | (_, none) => none
      | (_, some (.error e)) => some (.error e)
      | (r, some (.ok replyLength)) =>
          if replyLength = 0 then some (.error .error) else some (.ok r.jsonRsp)

end Xrm
