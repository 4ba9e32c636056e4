import FramedLink.Link.Window

set_option autoImplicit false
set_option relaxedAutoImplicit false

/-!
# Conversations over a link

Everything that is written to a link or read from it is a request, whether it is a single call or a
longer one that is built on calls. Requests follow one another, each with a deadline of its own, and
the link answers them in order.

## Main definitions

* `FramedLink.Request`, `FramedLink.Answer` — what can be asked of a link, and what it answers.
* `FramedLink.Answer.timedOut` — a request was not answered in time.
* `FramedLink.Request.perform` — carry out one request.
* `FramedLink.Link.converse` — carry out a sequence of requests.
-/

namespace FramedLink

/-- What can be asked of a link. -/
inductive Request where
  /-- Write some bytes. -/
  | write (data : List UInt8)
  /-- Write every byte. -/
  | writeAll (data : List UInt8)
  /-- Read at most `n` bytes. -/
  | readAvailable (n : Nat)
  /-- Read one byte. -/
  | readByte
  /-- Skip to a byte. -/
  | waitForByte (value : UInt8)
  /-- Send data in stuffed form. -/
  | sendStuffed (data : List UInt8)
  /-- Receive as much data as a buffer holds. -/
  | receiveInto (buffer : Array UInt8)
  deriving DecidableEq, Repr

/-- What a link answers. -/
inductive Answer where
  /-- How many bytes were taken. -/
  | taken (result : Except LinkError Nat)
  /-- The request is done. -/
  | done (result : Except LinkError Unit)
  /-- The bytes that were read. -/
  | bytes (result : Except LinkError (List UInt8))
  /-- The byte that was read. -/
  | byte (result : Except LinkError UInt8)
  /-- How a receipt ended, and what is in the buffer then. -/
  | received (result : Except FrameError Unit) (buffer : Array UInt8)
  deriving Repr

/-- The request was not answered in time. -/
def Answer.timedOut : Answer → Bool
  | taken (.error .timeout) | done (.error .timeout) | bytes (.error .timeout)
  | byte (.error .timeout) | received (.error (.link .timeout)) _ => true
  | _ => false

variable {σ : Type} [Link σ]

/-- Carry out one request. -/
def Request.perform (deadline : Deadline) (link : σ) : Request → Answer × σ
  | write data => Prod.map .taken id (Link.write data deadline link)
  | writeAll data => Prod.map .done id (Link.writeAll data deadline link)
  | readAvailable n => Prod.map .bytes id (Link.readAvailable n deadline link)
  | readByte => Prod.map .byte id (Link.readByte deadline link)
  | waitForByte value => Prod.map .done id (Link.waitForByte value deadline link)
  | sendStuffed data => Prod.map .done id (Link.sendStuffed data deadline link)
  | receiveInto buffer =>
    let (result, window, link) := Link.receiveInto deadline (.ofBuffer buffer) link
    (.received result window.buffer, link)

/-- Carry out a sequence of requests, each with its deadline. -/
def Link.converse (link : σ) : List (Request × Deadline) → List Answer × σ
  | [] => ([], link)
  | (request, deadline) :: rest =>
    let (answer, link) := request.perform deadline link
    let (answers, link) := converse link rest
    (answer :: answers, link)

end FramedLink
