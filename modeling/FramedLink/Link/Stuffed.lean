import FramedLink.Link
import FramedLink.Stuffing

set_option autoImplicit false
set_option relaxedAutoImplicit false

/-!
# Stuffed data over a link

Data is sent piece by piece, each piece in a write of its own. It is received optimistically: a
read asks for as many raw bytes as data bytes are still missing, as if none of them were
stuffed, and what it yields is decoded at once. Only when the bytes read end inside a pair is
one more byte fetched. A stuffed form is never shorter than the data behind it, so **a receiver
never reads past the end of the data that it waits for**.

## Main definitions

* `FramedLink.Link.sendStuffed` — send data in stuffed form.
* `FramedLink.Link.receiveSome` — one optimistic read, decoded.
* `FramedLink.Link.receiveStuffed` — receive a given number of data bytes.

## Main results

* `FramedLink.Link.supply_receiveSome`, `FramedLink.Link.supply_receiveStuffed` — what these
  calls leave of the supply.
-/

namespace FramedLink.Link

open Stuffing

variable {σ : Type} [Link σ]

/-- Send `data` in stuffed form. -/
def sendStuffed (data : List UInt8) (deadline : Deadline) (link : σ) :
    Except LinkError Unit × σ :=
  writePieces (pieces data) deadline link

/-! ## One read -/

/-- Decode the rest of the bytes of a read, where `done` holds the bytes decoded so far, the last
first. The second half of a pair that is cut off by the end of the read is fetched from the
link. -/
def decodeRead (deadline : Deadline) (done raw : List UInt8) (link : σ) :
    Except FrameError (List UInt8) × σ :=
  match raw with
  | [] => (.ok done.reverse, link)
  | b :: raw =>
    if b = escape then
      match raw with
      | [] =>
        match readByte deadline link with
        | (.error e, link) => (.error (.link e), link)
        | (.ok code, link) => ((decodeCode code).map fun value => (value :: done).reverse, link)
      | code :: raw =>
        match decodeCode code with
        | .ok value => decodeRead deadline (value :: done) raw link
        | .error e => (.error e, link)
    else decodeRead deadline (b :: done) raw link

/-- The bytes decoded so far stand in front of what is decoded next.

**Proof sketch.** Induction on the course of the decoding, for any bytes in front of those decoded
so far. -/
theorem decodeRead_eq (deadline : Deadline) (done raw : List UInt8) (link : σ) :
    decodeRead deadline done raw link =
      ((decodeRead deadline [] raw link).1.map (done.reverse ++ ·),
        (decodeRead deadline [] raw link).2) := by
  suffices h : ∀ xs ys : List UInt8, decodeRead deadline (ys ++ xs) raw link =
      ((decodeRead deadline ys raw link).1.map (xs.reverse ++ ·),
        (decodeRead deadline ys raw link).2) by
    simpa using h done []
  intro xs ys
  fun_induction decodeRead deadline ys raw link generalizing xs with
  | case1 ys => simp [decodeRead, Except.map]
  | case2 ys e link' hr => simp [decodeRead, hr, Except.map]
  | case3 ys code link' hr =>
    cases h : decodeCode code <;> simp [decodeRead, hr, h, Except.map]
  | case4 ys code raw value hv ih => simpa [decodeRead, hv] using ih xs
  | case5 ys code raw e he => simp [decodeRead, he, Except.map]
  | case6 ys b raw hb ih =>
    rw [decodeRead.eq_def]
    simpa [hb] using ih xs

/-- Read once, asking for `n` raw bytes, and decode what was read. The result holds between one
and `n` bytes unless the link yields nothing. -/
def receiveSome (n : Nat) (deadline : Deadline) (link : σ) : Except FrameError (List UInt8) × σ :=
  match readAvailable n deadline link with
  | (.error e, link) => (.error (.link e), link)
  | (.ok raw, link) => decodeRead deadline [] raw link

/-- Decoding a read does not raise the supply. -/
theorem supply_decodeRead {deadline : Deadline} {done raw : List UInt8} {link link' : σ}
    {r : Except FrameError (List UInt8)} (h : decodeRead deadline done raw link = (r, link')) :
    supply link' ≤ supply link := by
  fun_induction decodeRead deadline done raw link <;>
    first
    | (obtain ⟨-, rfl⟩ := Prod.mk.inj h; exact Nat.le_refl _)
    | (next hq => obtain ⟨-, rfl⟩ := Prod.mk.inj h; exact (supply_readByte hq).1)
    | (next ih => exact ih h)

/-- Receiving some data lowers the supply, and failing to does not raise it. -/
theorem supply_receiveSome {n : Nat} {deadline : Deadline} {link link' : σ}
    {r : Except FrameError (List UInt8)} (h : receiveSome n deadline link = (r, link')) :
    supply link' ≤ supply link ∧ (0 < n → r.isOk = true → supply link' < supply link) := by
  unfold receiveSome at h
  split at h
  · next e q hq =>
    obtain ⟨rfl, rfl⟩ := Prod.mk.inj h
    exact ⟨supply_le_of_read hq, by simp [Except.isOk, Except.toBool]⟩
  · next raw q hq =>
    have hle := supply_decodeRead h
    have hread := supply_le_of_read hq
    exact ⟨by omega, fun hn _ => by have := supply_lt_of_read hn hq; omega⟩

/-! ## A given number of bytes -/

/-- Receive `missing` more data bytes after those in `done`, the last first. A read that yields
nothing is repeated. -/
def receiveFrom (done : List UInt8) (missing : Nat) (deadline : Deadline) (link : σ) :
    Except FrameError (List UInt8) × σ :=
  if _more : 0 < missing then
    match _read : receiveSome missing deadline link with
    | (.error e, link') => (.error e, link')
    | (.ok bytes, link') =>
      receiveFrom (bytes.reverse ++ done) (missing - bytes.length) deadline link'
  else (.ok done.reverse, link)
termination_by supply link
decreasing_by exact (supply_receiveSome _read).2 _more rfl

/-- Data is received as long as reads succeed. -/
theorem receiveFrom_of_receiveSome {done bytes : List UInt8} {missing : Nat} {deadline : Deadline}
    {link link' : σ} (hmissing : 0 < missing)
    (h : receiveSome missing deadline link = (.ok bytes, link')) :
    receiveFrom done missing deadline link =
      receiveFrom (bytes.reverse ++ done) (missing - bytes.length) deadline link' := by
  rw [receiveFrom, dif_pos hmissing]
  split <;> next hq => rw [h] at hq; cases hq <;> rfl

/-- A read that fails ends the receipt. -/
theorem receiveFrom_of_receiveSome_error {done : List UInt8} {missing : Nat} {e : FrameError}
    {deadline : Deadline} {link link' : σ} (hmissing : 0 < missing)
    (h : receiveSome missing deadline link = (.error e, link')) :
    receiveFrom done missing deadline link = (.error e, link') := by
  rw [receiveFrom, dif_pos hmissing]
  split <;> next hq => rw [h] at hq; cases hq <;> rfl

/-- Receive exactly `n` data bytes. -/
def receiveStuffed (n : Nat) (deadline : Deadline) (link : σ) :
    Except FrameError (List UInt8) × σ :=
  receiveFrom [] n deadline link

/-- Receiving data does not raise the supply. -/
theorem supply_receiveFrom {done : List UInt8} {missing : Nat} {deadline : Deadline}
    {link link' : σ} {r : Except FrameError (List UInt8)}
    (h : receiveFrom done missing deadline link = (r, link')) : supply link' ≤ supply link := by
  fun_induction receiveFrom done missing deadline link with
  | case1 done missing link hn e q hq =>
    obtain ⟨rfl, rfl⟩ := Prod.mk.inj h
    exact (supply_receiveSome hq).1
  | case2 done missing link hn bytes q hq ih =>
    have := (supply_receiveSome hq).1
    have := ih h
    omega
  | case3 done missing link hn =>
    obtain ⟨-, rfl⟩ := Prod.mk.inj h
    exact Nat.le_refl _

/-- Receiving data does not raise the supply. -/
theorem supply_receiveStuffed {n : Nat} {deadline : Deadline} {link link' : σ}
    {r : Except FrameError (List UInt8)} (h : receiveStuffed n deadline link = (r, link')) :
    supply link' ≤ supply link :=
  supply_receiveFrom h

end FramedLink.Link
