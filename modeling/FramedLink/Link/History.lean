import FramedLink.Link.Memory

set_option autoImplicit false
set_option relaxedAutoImplicit false

/-!
# Histories of a memory link

Whatever can be done to a memory link is an operation, and operations follow one another in any
order: traffic is arranged, time passes, bytes are written, taken away and read. A history is such
a sequence, each operation with the link on which it is carried out. The longer calls on links need
no operations of their own: **a search for a byte is a sequence of reads of single bytes, and a
complete write is a sequence of writes.**

## Main definitions

* `FramedLink.MemoryLink.Operation`, `FramedLink.MemoryLink.Answer` — what can be done to a link,
  and what the link answers.
* `FramedLink.MemoryLink.perform` — carry out one operation.
* `FramedLink.MemoryLink.after` — the link after a sequence of operations.
* `FramedLink.MemoryLink.Step`, `FramedLink.MemoryLink.history` — an operation with the link before
  it; those of a sequence.

## Main results

* `FramedLink.MemoryLink.after_waitForByte`, `FramedLink.MemoryLink.after_writeAll` — the longer
  calls as sequences of operations.
-/

namespace FramedLink.MemoryLink

/-! ## Operations -/

/-- What can be done to a memory link. -/
inductive Operation where
  /-- Queue bytes to be read. -/
  | pushInbound (data : List UInt8)
  /-- Queue a pause. -/
  | pushDelay (span : Nat)
  /-- Queue a failure of a read. -/
  | pushReadError (kind : IoErrorKind)
  /-- Limit how many bytes a single read returns. -/
  | setReadChunk (n : Nat)
  /-- Let the next write fail. -/
  | failNextWrite (kind : IoErrorKind)
  /-- Hold up the next writes. -/
  | stallWrites (span : Nat)
  /-- Call off every call from now on. -/
  | cancel
  /-- Let some time pass. -/
  | advance (span : Nat)
  /-- Let time pass up to an instant. -/
  | advanceTo (instant : Nat)
  /-- Take away the bytes written so far. -/
  | takeOutbound
  /-- Move the bytes written so far into the inbound queue. -/
  | loopBack
  /-- Write some bytes. -/
  | write (data : List UInt8) (deadline : Deadline)
  /-- Read at most `n` bytes. -/
  | readAvailable (n : Nat) (deadline : Deadline)
  /-- Read one byte. -/
  | readByte (deadline : Deadline)
  deriving DecidableEq, Repr

/-- What a memory link answers. -/
inductive Answer where
  /-- It is done. -/
  | done
  /-- The bytes that were taken away. -/
  | taken (bytes : List UInt8)
  /-- How a write ended. -/
  | written (result : Except LinkError Nat)
  /-- How a read ended. -/
  | bytes (result : Except LinkError (List UInt8))
  /-- How the read of one byte ended. -/
  | byte (result : Except LinkError UInt8)
  deriving Repr

/-- Carry out one operation. -/
def perform (p : MemoryLink) : Operation → Answer × MemoryLink
  | .pushInbound data => (.done, p.pushInbound data)
  | .pushDelay span => (.done, p.pushDelay span)
  | .pushReadError kind => (.done, p.pushReadError kind)
  | .setReadChunk n => (.done, p.setReadChunk n)
  | .failNextWrite kind => (.done, p.failNextWrite kind)
  | .stallWrites span => (.done, p.stallWrites span)
  | .cancel => (.done, p.cancel)
  | .advance span => (.done, p.advance span)
  | .advanceTo instant => (.done, { p with clock := p.clock.advanceTo instant })
  | .takeOutbound => Prod.map .taken id p.takeOutbound
  | .loopBack => (.done, p.loopBack)
  | .write data deadline => Prod.map .written id (Link.write data deadline p)
  | .readAvailable n deadline => Prod.map .bytes id (Link.readAvailable n deadline p)
  | .readByte deadline => Prod.map .byte id (Link.readByte deadline p)

/-- The link after a sequence of operations. -/
def after (p : MemoryLink) : List Operation → MemoryLink
  | [] => p
  | op :: ops => (p.perform op).2.after ops

/-! ## Histories -/

/-- An operation, with the link on which it is carried out. -/
structure Step where
  /-- The link before the operation. -/
  before : MemoryLink
  /-- The operation. -/
  operation : Operation

namespace Step

/-- What the link answers. -/
def answer (s : Step) : Answer := (s.before.perform s.operation).1

/-- The link after the operation. -/
def after (s : Step) : MemoryLink := (s.before.perform s.operation).2

end Step

/-- The steps of a sequence of operations, each on the link that those before it have left. -/
def history (p : MemoryLink) : List Operation → List Step
  | [] => []
  | op :: ops => ⟨p, op⟩ :: (p.perform op).2.history ops

/-! ## Longer calls -/

/-- **A search for a byte is a sequence of reads of single bytes.** -/
theorem after_waitForByte (value : UInt8) (deadline : Deadline) (p : MemoryLink) :
    ∃ n, p.after (List.replicate n (.readByte deadline)) =
      (Link.waitForByte value deadline p).2 := by
  fun_induction Link.waitForByte value deadline p with
  | case1 p e q hread => exact ⟨1, congrArg Prod.snd hread⟩
  | case2 p q hread => exact ⟨1, congrArg Prod.snd hread⟩
  | case3 p b q hread hb ih =>
    obtain ⟨n, hn⟩ := ih
    refine ⟨n + 1, ?_⟩
    rw [List.replicate_succ, after, perform, hread]
    exact hn

/-- **A complete write is a sequence of writes.** -/
theorem after_writeAll (data : List UInt8) (deadline : Deadline) (p : MemoryLink) :
    ∃ pieces : List (List UInt8), p.after (pieces.map (.write · deadline)) =
      (Link.writeAll data deadline p).2 := by
  show ∃ pieces : List (List UInt8), p.after (pieces.map (.write · deadline)) =
    (Link.writeAllBy Link.write data deadline p).2
  fun_induction Link.writeAllBy Link.write data deadline p with
  | case1 p => exact ⟨[], rfl⟩
  | case2 p b rest e q hwrite => exact ⟨[b :: rest], congrArg Prod.snd hwrite⟩
  | case3 p b rest q hwrite => exact ⟨[b :: rest], congrArg Prod.snd hwrite⟩
  | case4 p b rest n q hwrite ih =>
    obtain ⟨pieces, hpieces⟩ := ih
    refine ⟨(b :: rest) :: pieces, ?_⟩
    rw [List.map_cons, after, perform, hwrite]
    exact hpieces

end FramedLink.MemoryLink
