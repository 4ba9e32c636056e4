import FramedLink.Proofs.Attempt

set_option autoImplicit false
set_option relaxedAutoImplicit false

/-!
# What reading and writing preserve

Whatever a wait does to its link, it does by reads. A relation between the states of a link that
each single read respects, and that can be chained, therefore relates the states before and
after a whole wait, and after each of its parts. The inductions over the loops of a wait are
done here, once for all such relations, and so are those over the loops that send a frame. There the
result of the last write belongs to the relation. For reads, it is a relation of its own that also
tells if one of them has failed.

## Main definitions

* `FramedLink.Link.Chains` — a relation that reads respect and that can be chained.
* `FramedLink.Link.ReadChains` — such a relation that tells if a read has failed.
* `FramedLink.Link.WritesByParts` — a link writes everything by repeated partial writes.
* `FramedLink.Link.WriteChains` — a relation that writes respect and that can be chained.

## Main results

* `FramedLink.Link.Chains.receiveFrom`, `FramedLink.Link.Chains.attempt`,
  `FramedLink.Link.Chains.awaitReply` — such a relation holds across each part of a wait.
* `FramedLink.Link.ReadChains.receiveFrom`, `FramedLink.Link.ReadChains.attempt_accepted` — no read
  has failed where data has been received, or a frame accepted.
* `FramedLink.Link.WriteChains.sendFrame` — such a relation holds across the sending of a frame.
-/

namespace FramedLink.Link

open Stuffing

variable {σ : Type} [Link σ]

/-! ## Reading -/

/-- A relation between the state of a link before some reads, the state after them, and whether one
of them may have failed, that every read before `deadline` respects, and that can be chained as long
as no read fails. -/
structure ReadChains (deadline : Deadline) (W : σ → σ → Bool → Prop) : Prop where
  /-- Nothing happens. -/
  refl (link : σ) : W link link false
  /-- One thing happens after another. -/
  trans {link₁ link₂ link₃ : σ} {failed : Bool} :
    W link₁ link₂ false → W link₂ link₃ failed → W link₁ link₃ failed
  /-- It need not be known that no read has failed. -/
  weaken {link link' : σ} : W link link' false → W link link' true
  /-- A read succeeds. -/
  read {n : Nat} {bytes : List UInt8} {link link' : σ} : 0 < n →
    readAvailable n deadline link = (.ok bytes, link') → W link link' false
  /-- A read fails. -/
  failed {n : Nat} {e : LinkError} {link link' : σ} : 0 < n →
    readAvailable n deadline link = (.error e, link') → W link link' true

namespace ReadChains

variable {deadline : Deadline} {W : σ → σ → Bool → Prop} (hW : ReadChains deadline W)
  {link link' : σ}

include hW

/-- What holds if no read has failed holds anyway. -/
lemma of_false {failed : Bool} (h : W link link' false) : W link link' failed := by
  cases failed with
  | false => exact h
  | true => exact hW.weaken h

/-- No read has failed where a byte has been read. -/
lemma readByte {r : Except LinkError UInt8} (h : readByte deadline link = (r, link')) :
    W link link' (!r.isOk) := by
  unfold Link.readByte at h
  split at h <;> next hq => obtain ⟨rfl, rfl⟩ := Prod.mk.inj h; first
    | exact hW.failed Nat.one_pos hq
    | exact hW.of_false (hW.read Nat.one_pos hq)

/-- No read has failed where a byte has been found. -/
lemma waitForByte {value : UInt8} {r : Except LinkError Unit}
    (h : waitForByte value deadline link = (r, link')) : W link link' (!r.isOk) := by
  fun_induction Link.waitForByte value deadline link with
  | case1 link e q hq => obtain ⟨rfl, rfl⟩ := Prod.mk.inj h; exact hW.readByte hq
  | case2 link q hq => obtain ⟨rfl, rfl⟩ := Prod.mk.inj h; exact hW.readByte hq
  | case3 link b q hq hb ih => exact hW.trans (hW.readByte hq) (ih h)

/-- No read has failed where raw bytes have been decoded. -/
lemma decodeRead {done raw : List UInt8} {r : Except FrameError (List UInt8)}
    (h : decodeRead deadline done raw link = (r, link')) : W link link' (!r.isOk) := by
  fun_induction Link.decodeRead deadline done raw link with
  | case2 done e q hq => obtain ⟨rfl, rfl⟩ := Prod.mk.inj h; exact hW.readByte hq
  | case3 done code q hq =>
    -- the second half of the pair is there, even if it is damaged
    obtain ⟨-, rfl⟩ := Prod.mk.inj h
    exact hW.of_false (hW.readByte hq)
  | case4 done code raw value hv ih => exact ih h
  | case6 done b raw hb ih => exact ih h
  | _ => obtain ⟨-, rfl⟩ := Prod.mk.inj h; exact hW.of_false (hW.refl _)

/-- No read has failed where a read has been decoded. -/
lemma receiveSome {n : Nat} {r : Except FrameError (List UInt8)} (hn : 0 < n)
    (h : receiveSome n deadline link = (r, link')) : W link link' (!r.isOk) := by
  unfold Link.receiveSome at h
  split at h
  · next hq => obtain ⟨rfl, rfl⟩ := Prod.mk.inj h; exact hW.failed hn hq
  · next hq => exact hW.trans (hW.read hn hq) (hW.decodeRead h)

/-- No read has failed where data has been received. -/
lemma receiveFrom {done : List UInt8} {n : Nat} {r : Except FrameError (List UInt8)}
    (h : receiveFrom done n deadline link = (r, link')) : W link link' (!r.isOk) := by
  fun_induction Link.receiveFrom done n deadline link with
  | case1 done n link hn e q hq =>
    obtain ⟨rfl, rfl⟩ := Prod.mk.inj h
    exact hW.receiveSome hn hq
  | case2 done n link hn bytes q hq ih => exact hW.trans (hW.receiveSome hn hq) (ih h)
  | case3 done n link hn => obtain ⟨rfl, rfl⟩ := Prod.mk.inj h; exact hW.refl _

/-- Whatever becomes of an attempt, at most its last read has failed. -/
lemma attempt {expect : Expectation} {r : Except DeviceError Verdict}
    (h : attempt expect deadline link = (r, link')) : W link link' true := by
  cases attempt_iff.mp h with
  | headerFailed header => exact hW.receiveFrom header
  | undersized header announced => exact hW.weaken (hW.receiveFrom header)
  | oversized header announced exceeds => exact hW.weaken (hW.receiveFrom header)
  | payloadFailed header announced fits payload =>
    exact hW.trans (hW.receiveFrom header) (hW.receiveFrom payload)
  | judged header announced fits received =>
    exact hW.weaken (hW.trans (hW.receiveFrom header) (hW.receiveFrom received))

/-- No read has failed where a frame has been accepted. -/
lemma attempt_accepted {expect : Expectation} {reply : Reply}
    (h : Link.attempt expect deadline link = (.ok (.accepted reply), link')) :
    W link link' false := by
  obtain ⟨raw, ⟨link₁, hraw, hpayload⟩, -⟩ := attempt_accepted_iff.mp h
  exact hW.trans (hW.receiveFrom hraw) (hW.receiveFrom hpayload)

end ReadChains

/-! ## A whole wait -/

/-- A relation between the states of a link that every read before `deadline` respects, and that
can be chained. -/
structure Chains (deadline : Deadline) (R : σ → σ → Prop) : Prop where
  /-- Nothing happens. -/
  refl (link : σ) : R link link
  /-- One thing happens after another. -/
  trans {link₁ link₂ link₃ : σ} : R link₁ link₂ → R link₂ link₃ → R link₁ link₃
  /-- One read happens. -/
  read {n : Nat} {r : Except LinkError (List UInt8)} {link link' : σ} :
    readAvailable n deadline link = (r, link') → R link link'

namespace Chains

variable {deadline : Deadline} {R : σ → σ → Prop} (hR : Chains deadline R) {link link' : σ}

include hR

/-- It may be forgotten whether a read has failed. -/
lemma readChains : ReadChains deadline fun link link' _ => R link link' where
  refl := hR.refl
  trans := hR.trans
  weaken := id
  read _ := hR.read
  failed _ := hR.read

/-- The reading of one byte keeps what every read keeps. -/
lemma readByte {r : Except LinkError UInt8} (h : readByte deadline link = (r, link')) :
    R link link' :=
  hR.readChains.readByte h

/-- The search for a byte keeps what every read keeps. -/
lemma waitForByte {value : UInt8} {r : Except LinkError Unit}
    (h : waitForByte value deadline link = (r, link')) : R link link' :=
  hR.readChains.waitForByte h

/-- Decoding keeps what every read keeps. -/
lemma decodeRead {done raw : List UInt8} {r : Except FrameError (List UInt8)}
    (h : decodeRead deadline done raw link = (r, link')) : R link link' :=
  hR.readChains.decodeRead h

/-- A read that is decoded keeps what every read keeps. -/
lemma receiveSome {n : Nat} {r : Except FrameError (List UInt8)}
    (h : receiveSome n deadline link = (r, link')) : R link link' := by
  unfold Link.receiveSome at h
  split at h
  · next hq => obtain ⟨-, rfl⟩ := Prod.mk.inj h; exact hR.read hq
  · next hq => exact hR.trans (hR.read hq) (hR.decodeRead h)

/-- Receiving data keeps what every read keeps. -/
lemma receiveFrom {done : List UInt8} {n : Nat} {r : Except FrameError (List UInt8)}
    (h : receiveFrom done n deadline link = (r, link')) : R link link' :=
  hR.readChains.receiveFrom h

/-- An attempt keeps what every read keeps. -/
lemma attempt {expect : Expectation} {r : Except DeviceError Verdict}
    (h : attempt expect deadline link = (r, link')) : R link link' :=
  hR.readChains.attempt h

/-- Where an attempt starts, everything that reads keep has been kept. -/
lemma starts {expect : Expectation} {start : σ} (h : Starts expect deadline link start) :
    R link start := by
  induction h with
  | first live found => exact hR.waitForByte found
  | later live found tried starts ih =>
    exact hR.trans (hR.waitForByte found) (hR.trans (hR.attempt tried) ih)

/-- A wait keeps what every read keeps. -/
lemma awaitReply (expect : Expectation) (link : σ) :
    R link (awaitReply expect deadline link).link := by
  fun_induction Link.awaitReply expect deadline link with
  | case1 link hexp => exact hR.refl _
  | case2 link hexp e q hfound htime => exact hR.waitForByte hfound
  | case3 link hexp e q hfound htime => exact hR.waitForByte hfound
  | case4 link hexp q hfound e q' htried =>
    exact hR.trans (hR.waitForByte hfound) (hR.attempt htried)
  | case5 link hexp q hfound reply q' htried =>
    exact hR.trans (hR.waitForByte hfound) (hR.attempt htried)
  | case6 link hexp q hfound why q' htried rest ih =>
    exact hR.trans (hR.waitForByte hfound) (hR.trans (hR.attempt htried) ih)

end Chains

/-! ## Writing -/

/-- A link writes everything by repeated partial writes. -/
def WritesByParts (σ : Type) [Link σ] : Prop :=
  ∀ (data : List UInt8) (deadline : Deadline) (link : σ),
    writeAll data deadline link = writeAllBy write data deadline link

/-- A relation between the state of a link before some writes, the state after them and their
result that every write before `deadline` respects, and that can be chained as long as the writes
succeed. -/
structure WriteChains (deadline : Deadline) (W : σ → σ → Except LinkError Unit → Prop) :
    Prop where
  /-- Nothing happens. -/
  refl (link : σ) : W link link (.ok ())
  /-- One thing happens after another. -/
  trans {link₁ link₂ link₃ : σ} {r : Except LinkError Unit} :
    W link₁ link₂ (.ok ()) → W link₂ link₃ r → W link₁ link₃ r
  /-- Some bytes are written. -/
  wrote {data : List UInt8} {n : Nat} {link link' : σ} :
    write data deadline link = (.ok (n + 1), link') → W link link' (.ok ())
  /-- A write takes nothing. -/
  wroteNothing {data : List UInt8} {link link' : σ} :
    write data deadline link = (.ok 0, link') → W link link' (.error .closed)
  /-- A write fails. -/
  failed {data : List UInt8} {e : LinkError} {link link' : σ} :
    write data deadline link = (.error e, link') → W link link' (.error e)

namespace WriteChains

variable {deadline : Deadline} {W : σ → σ → Except LinkError Unit → Prop}
  (hW : WriteChains deadline W) {link link' : σ} {r : Except LinkError Unit}

include hW

/-- Repeated writes keep what every write keeps. -/
lemma writeAllBy {data : List UInt8} (h : writeAllBy write data deadline link = (r, link')) :
    W link link' r := by
  fun_induction Link.writeAllBy write data deadline link with
  | case1 link => cases h; exact hW.refl _
  | case2 link b rest e q hwrite => cases h; exact hW.failed hwrite
  | case3 link b rest q hwrite => cases h; exact hW.wroteNothing hwrite
  | case4 link b rest n q hwrite ih => exact hW.trans (hW.wrote hwrite) (ih h)

/-- The writing of several byte strings keeps what every write keeps. -/
lemma writePieces (hparts : WritesByParts σ) {pieces : List (List UInt8)}
    (h : writePieces pieces deadline link = (r, link')) : W link link' r := by
  induction pieces generalizing link with
  | nil => cases h; exact hW.refl _
  | cons piece rest ih =>
    rw [Link.writePieces, hparts] at h
    rcases hpiece : Link.writeAllBy write piece deadline link with ⟨e | _, q⟩ <;>
      rw [hpiece] at h
    · cases h
      exact hW.writeAllBy hpiece
    · exact hW.trans (hW.writeAllBy hpiece) (ih h)

/-- The sending of a frame keeps what every write keeps. -/
lemma sendFrame (hparts : WritesByParts σ) {header : FrameHeader} {payload : List UInt8}
    (h : sendFrame header payload deadline link = (r, link')) : W link link' r :=
  hW.writePieces hparts h

end WriteChains

end FramedLink.Link
