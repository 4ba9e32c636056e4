import FramedLink.Error
import FramedLink.Time

set_option autoImplicit false
set_option relaxedAutoImplicit false

/-!
# Links

A link is a blocking, byte-oriented connection to a device. It is a state, and every call leads from
the state before to a result and the state after; time passes inside the state. A link brings
two primitive calls, `write` and `readAvailable`; the other calls are built on those two.

A link also says how many more reads can succeed (`supply`). A read that succeeds uses some of
this up, a read that fails adds nothing. Hence **every loop that reads until something happens
comes to an end**, also on a link whose clock stands still.

## Main definitions

* `FramedLink.Link` — the class of links.
* `FramedLink.Link.writeAllBy` — write everything, by repeated partial writes.
* `FramedLink.Link.readByte`, `FramedLink.Link.waitForByte` — read one byte; skip to a byte.
* `FramedLink.Link.writePieces` — write several byte strings one after another.

## Main results

* `FramedLink.Link.supply_readByte`, `FramedLink.Link.supply_waitForByte` — what these calls
  leave of the supply.

## Design

The outcome of a call is a pair `Except ε α × σ`, so that a failed call too leaves a state
behind: a failure may have cost time, bytes or a queued event.
-/

namespace FramedLink

/-- Write every byte of `data` by repeated calls of `write`. A write that takes nothing means
that the other end is gone. -/
def Link.writeAllBy {σ : Type} (write : List UInt8 → Deadline → σ → Except LinkError Nat × σ)
    (data : List UInt8) (deadline : Deadline) (link : σ) : Except LinkError Unit × σ :=
  match data with
  | [] => (.ok (), link)
  | b :: rest =>
    match write (b :: rest) deadline link with
    | (.error e, link) => (.error e, link)
    | (.ok 0, link) => (.error .closed, link)
    | (.ok (n + 1), link) => writeAllBy write (rest.drop n) deadline link
termination_by data.length

/-- A blocking, byte-oriented connection whose states are the values of `σ`. -/
class Link (σ : Type) where
  /-- The instant that the clock of the link shows. -/
  now : σ → Nat
  /-- Write some bytes; the result is how many were taken. -/
  write : List UInt8 → Deadline → σ → Except LinkError Nat × σ
  /-- Read at most the given number of bytes: whatever is there, waiting for the first one. -/
  readAvailable : Nat → Deadline → σ → Except LinkError (List UInt8) × σ
  /-- Write every byte. -/
  writeAll : List UInt8 → Deadline → σ → Except LinkError Unit × σ := Link.writeAllBy write
  /-- A bound on the number of reads that can still succeed. -/
  supply : σ → Nat
  /-- A read returns at most what it was asked for. -/
  length_le_of_read {n : Nat} {deadline : Deadline} {link link' : σ} {bytes : List UInt8} :
    readAvailable n deadline link = (.ok bytes, link') → bytes.length ≤ n
  /-- A read never adds to the supply. -/
  supply_le_of_read {n : Nat} {deadline : Deadline} {link link' : σ}
    {r : Except LinkError (List UInt8)} :
    readAvailable n deadline link = (r, link') → supply link' ≤ supply link
  /-- A successful read uses up some of the supply. -/
  supply_lt_of_read {n : Nat} {deadline : Deadline} {link link' : σ} {bytes : List UInt8} :
    0 < n → readAvailable n deadline link = (.ok bytes, link') → supply link' < supply link

namespace Link

variable {σ : Type} [Link σ]

/-! ## Writing -/

/-- Write a single byte. -/
def writeByte (b : UInt8) (deadline : Deadline) (link : σ) : Except LinkError Unit × σ :=
  writeAll [b] deadline link

/-- Write byte strings one after another, each of them completely. -/
def writePieces (pieces : List (List UInt8)) (deadline : Deadline) (link : σ) :
    Except LinkError Unit × σ :=
  match pieces with
  | [] => (.ok (), link)
  | piece :: rest =>
    match writeAll piece deadline link with
    | (.error e, link) => (.error e, link)
    | (.ok (), link) => writePieces rest deadline link

/-! ## Reading -/

/-- Read exactly one byte. A read that yields nothing means that the other end is gone. -/
def readByte (deadline : Deadline) (link : σ) : Except LinkError UInt8 × σ :=
  match readAvailable 1 deadline link with
  | (.error e, link) => (.error e, link)
  | (.ok [], link) => (.error .closed, link)
  | (.ok (b :: _), link) => (.ok b, link)

/-- Reading a byte lowers the supply, and failing to read one does not raise it. -/
theorem supply_readByte {deadline : Deadline} {link link' : σ} {r : Except LinkError UInt8}
    (h : readByte deadline link = (r, link')) :
    supply link' ≤ supply link ∧ (r.isOk = true → supply link' < supply link) := by
  unfold readByte at h
  split at h
  · next e q hq =>
    obtain ⟨rfl, rfl⟩ := Prod.mk.inj h
    exact ⟨supply_le_of_read hq, by simp [Except.isOk, Except.toBool]⟩
  · next q hq =>
    obtain ⟨rfl, rfl⟩ := Prod.mk.inj h
    have := supply_lt_of_read (by decide) hq
    exact ⟨by omega, by simp [Except.isOk, Except.toBool]⟩
  · next b bs q hq =>
    obtain ⟨rfl, rfl⟩ := Prod.mk.inj h
    have := supply_lt_of_read (by decide) hq
    exact ⟨by omega, fun _ => this⟩

/-- Read and drop bytes until `value` has been read. -/
def waitForByte (value : UInt8) (deadline : Deadline) (link : σ) : Except LinkError Unit × σ :=
  match _read : readByte deadline link with
  | (.error e, link') => (.error e, link')
  | (.ok b, link') => if b = value then (.ok (), link') else waitForByte value deadline link'
termination_by supply link
decreasing_by exact (supply_readByte _read).2 rfl

/-- The search for a byte ends with the byte or goes on behind another one. -/
theorem waitForByte_of_readByte {value b : UInt8} {deadline : Deadline} {link link' : σ}
    (h : readByte deadline link = (.ok b, link')) :
    waitForByte value deadline link =
      if b = value then (.ok (), link') else waitForByte value deadline link' := by
  rw [waitForByte]
  split <;> next hq => rw [h] at hq; cases hq <;> rfl

/-- A search ends when no byte can be read. -/
theorem waitForByte_of_readByte_error {value : UInt8} {e : LinkError} {deadline : Deadline}
    {link link' : σ} (h : readByte deadline link = (.error e, link')) :
    waitForByte value deadline link = (.error e, link') := by
  rw [waitForByte]
  split <;> next hq => rw [h] at hq; cases hq <;> rfl

/-- Finding a byte lowers the supply, and failing to find it does not raise it. -/
theorem supply_waitForByte {value : UInt8} {deadline : Deadline} {link link' : σ}
    {r : Except LinkError Unit} (h : waitForByte value deadline link = (r, link')) :
    supply link' ≤ supply link ∧ (r.isOk = true → supply link' < supply link) := by
  fun_induction waitForByte value deadline link with
  | case1 link e q hq =>
    obtain ⟨rfl, rfl⟩ := Prod.mk.inj h
    exact ⟨(supply_readByte hq).1, by simp [Except.isOk, Except.toBool]⟩
  | case2 link q hq =>
    obtain ⟨rfl, rfl⟩ := Prod.mk.inj h
    have := (supply_readByte hq).2 rfl
    exact ⟨by omega, fun _ => this⟩
  | case3 link b q hq hb ih =>
    have := (supply_readByte hq).2 rfl
    have := ih h
    exact ⟨by omega, fun hr => by have := this.2 hr; omega⟩

end Link

end FramedLink
