import FramedLink.Link

set_option autoImplicit false
set_option relaxedAutoImplicit false

/-!
# The observed link

A link together with a record of the primitive calls that have been made on it, in order, each
with its result. Everything else that is done with an observed link is made of these calls:
whatever the link below brings of its own for writing everything, an observed link writes by
repeated partial writes.

## Main definitions

* `FramedLink.Call` — a read or a write, with its result.
* `FramedLink.Call.Fails`, `FramedLink.Call.Breaks` — a call failed for another reason than lack of
  time; it failed in this way, or moved nothing.
* `FramedLink.Observed` — a link with a record, and its `Link` instance.
* `FramedLink.Observed.accepted` — the bytes that the link below has taken.
-/

namespace FramedLink

/-! ## Calls -/

/-- One of the primitive calls of a link, with its result. -/
inductive Call where
  /-- A read of at most `n` bytes. -/
  | read (n : Nat) (result : Except LinkError (List UInt8))
  /-- A write of some bytes. -/
  | write (data : List UInt8) (result : Except LinkError Nat)

namespace Call

/-- The bytes that the link has taken in a call. -/
def accepted : Call → List UInt8
  | write data (.ok n) => data.take n
  | _ => []

/-- A read takes no bytes. -/
@[simp] theorem accepted_read (n : Nat) (result : Except LinkError (List UInt8)) :
    (read n result).accepted = [] := rfl

/-- Is a call a read? -/
def isRead : Call → Bool
  | read .. => true
  | write .. => false

/-- The call failed with an error that is not a mere lack of time. -/
inductive Fails : Call → LinkError → Prop
  /-- A read failed. -/
  | read {n : Nat} {e : LinkError} (serious : e ≠ .timeout) : Fails (.read n (.error e)) e
  /-- A write failed. -/
  | write {data : List UInt8} {e : LinkError} (serious : e ≠ .timeout) :
      Fails (.write data (.error e)) e

/-- The link cannot be used after this call: the call failed, or it moved no byte at all, which
means that the other end is gone. -/
inductive Breaks : Call → LinkError → Prop
  /-- The call failed. -/
  | failed {c : Call} {e : LinkError} (fails : c.Fails e) : Breaks c e
  /-- A read yielded nothing. -/
  | readNothing {n : Nat} : Breaks (.read n (.ok [])) .closed
  /-- A write took nothing. -/
  | wroteNothing {data : List UInt8} : Breaks (.write data (.ok 0)) .closed

end Call

/-! ## Links with a record -/

/-- A link with a record of the calls made on it. -/
structure Observed (σ : Type) where
  /-- The link. -/
  link : σ
  /-- The calls made so far, in order. -/
  calls : List Call

namespace Observed

variable {σ : Type}

/-- A link on which no call has been made yet. -/
def ofLink (link : σ) : Observed σ := ⟨link, []⟩

/-- The bytes that the link has taken so far. -/
def accepted (p : Observed σ) : List UInt8 := p.calls.flatMap Call.accepted

variable [Link σ]

/-- Write to the link and record the call. -/
def write (data : List UInt8) (deadline : Deadline) (p : Observed σ) :
    Except LinkError Nat × Observed σ :=
  let (r, link) := Link.write data deadline p.link
  (r, ⟨link, p.calls ++ [.write data r]⟩)

/-- Read from the link and record the call. -/
def readAvailable (n : Nat) (deadline : Deadline) (p : Observed σ) :
    Except LinkError (List UInt8) × Observed σ :=
  let (r, link) := Link.readAvailable n deadline p.link
  (r, ⟨link, p.calls ++ [.read n r]⟩)

/-- What is read from an observed link is read from the link, and recorded. -/
theorem of_readAvailable {n : Nat} {deadline : Deadline} {p q : Observed σ}
    {r : Except LinkError (List UInt8)} (h : readAvailable n deadline p = (r, q)) :
    Link.readAvailable n deadline p.link = (r, q.link) ∧ q.calls = p.calls ++ [.read n r] := by
  obtain ⟨rfl, rfl⟩ := Prod.mk.inj h
  exact ⟨rfl, rfl⟩

/-- What is written to an observed link is written to the link, and recorded. -/
theorem of_write {data : List UInt8} {deadline : Deadline} {p q : Observed σ}
    {r : Except LinkError Nat} (h : write data deadline p = (r, q)) :
    Link.write data deadline p.link = (r, q.link) ∧ q.calls = p.calls ++ [.write data r] := by
  obtain ⟨rfl, rfl⟩ := Prod.mk.inj h
  exact ⟨rfl, rfl⟩

instance : Link (Observed σ) where
  now p := Link.now p.link
  write := write
  readAvailable := readAvailable
  supply p := Link.supply p.link
  length_le_of_read h := Link.length_le_of_read (of_readAvailable h).1
  supply_le_of_read h := Link.supply_le_of_read (of_readAvailable h).1
  supply_lt_of_read hn h := Link.supply_lt_of_read hn (of_readAvailable h).1

end Observed

end FramedLink
