import FramedLink.Proofs.Attempt
import FramedLink.Proofs.Bytewise
import Mathlib.Algebra.GroupWithZero.Nat

set_option autoImplicit false
set_option relaxedAutoImplicit false

/-!
# Bytes that arrive in time

Bytes arrive in time if they are queued, the pauses before and between them end before the
deadline, and no failure stands among them. The receiver then gets each of them, and **what it
does not ask for still arrives in time:** the pauses that are over have moved the clock by no
more than their length. Whole frames are followed through the queue in this way.

## Main definitions

* `FramedLink.MemoryLink.totalDelay` — the length of all pauses of a queue.
* `FramedLink.MemoryLink.Arriving` — given bytes arrive in time, and a given queue follows them.

## Main results

* `FramedLink.MemoryLink.Arriving.readByte` — one byte is read, and the others still arrive.
* `FramedLink.MemoryLink.Arriving.receiveStuffed` — data whose stuffed form arrives is received.
* `FramedLink.MemoryLink.Arriving.waitForByte` — a marker behind other bytes is found.
-/

namespace FramedLink.MemoryLink

open Link Stuffing

variable {deadline : Deadline} {behind : List Inbound} {b : UInt8} {bytes rest : List UInt8}
  {p : MemoryLink}

/-! ## Arrival -/

/-- The pause that an entry stands for. -/
def delayOf : Inbound → Nat
  | .delay span => span
  | _ => 0

/-- The length of all pauses of a queue. -/
def totalDelay (queue : List Inbound) : Nat := (queue.map delayOf).sum

/-- An empty queue holds no pause. -/
@[simp] lemma totalDelay_nil : totalDelay [] = 0 := rfl

/-- The pauses of a queue are that of its first entry and those of the others. -/
@[simp] lemma totalDelay_cons (entry : Inbound) (queue : List Inbound) :
    totalDelay (entry :: queue) = delayOf entry + totalDelay queue := by
  simp [totalDelay]

/-- There is no pause among bytes. -/
lemma totalDelay_map_byte (bytes : List UInt8) : totalDelay (bytes.map .byte) = 0 := by
  induction bytes with
  | nil => rfl
  | cons b bytes ih => rw [List.map_cons, totalDelay_cons, ih]; rfl

/-- `bytes` arrive before `deadline`, with nothing but pauses among them, and `behind` is what
the queue holds after them. -/
structure Arriving (deadline : Deadline) (behind : List Inbound) (bytes : List UInt8)
    (p : MemoryLink) : Prop where
  /-- Nobody has called off the reading. -/
  active : p.cancelled = false
  /-- The queue holds the bytes, no failure and only pauses that end in time. -/
  queued : ∃ front, p.inbound = front ++ behind ∧ front.filterMap Inbound.byte? = bytes ∧
    (∀ kind, .failure kind ∉ front) ∧ p.clock.now + totalDelay front < deadline.instant

namespace Arriving

/-- A deadline before which something arrives has not expired. -/
lemma not_expired (h : Arriving deadline behind bytes p) :
    ¬ deadline.expired (Link.now p) = true := by
  obtain ⟨front, -, -, -, htime⟩ := h.queued
  show ¬ decide (deadline.instant ≤ p.clock.now) = true
  rw [decide_eq_true_eq]
  omega

/-- What follows the bytes that arrive is pending when they are all gone. -/
lemma pendingBytes_eq (h : Arriving deadline behind bytes p) :
    p.pendingBytes = bytes ++ behind.filterMap Inbound.byte? := by
  obtain ⟨front, hqueue, rfl, -, -⟩ := h.queued
  rw [pendingBytes, hqueue, List.filterMap_append]

/-- If nothing follows the bytes that arrive, they are all that is pending. -/
lemma pendingBytes_eq_of_nil (h : Arriving deadline [] bytes p) : p.pendingBytes = bytes := by
  rw [h.pendingBytes_eq, List.filterMap_nil, List.append_nil]

/-! ## Single bytes -/

/-- The pauses before the first byte that arrives end in time.

**Proof sketch.** Induction on the front of the queue. Each pause is shorter than the time that
is left, so the clock moves past it, and by no more than its length. -/
lemma settle_front (behind : List Inbound) {front : List Inbound} (clock : ManualClock)
    (hbytes : front.filterMap Inbound.byte? = b :: bytes)
    (hfail : ∀ kind, .failure kind ∉ front)
    (htime : clock.now + totalDelay front < deadline.instant) :
    ∃ clock' front', settle deadline clock (front ++ behind) =
        (.ok (), clock', .byte b :: (front' ++ behind)) ∧
      front'.filterMap Inbound.byte? = bytes ∧ (∀ kind, .failure kind ∉ front') ∧
      clock'.now + totalDelay front' < deadline.instant := by
  induction front generalizing clock with
  | nil => cases hbytes
  | cons entry front ih =>
    have hfail' : ∀ kind, .failure kind ∉ front := fun kind hk =>
      hfail kind (List.mem_cons_of_mem entry hk)
    cases entry with
    | byte b' =>
      simp only [List.filterMap_cons, Inbound.byte?_byte, List.cons.injEq] at hbytes
      obtain ⟨rfl, hbytes⟩ := hbytes
      refine ⟨clock, front, by rw [List.cons_append, settle], hbytes, hfail', ?_⟩
      simpa [delayOf] using htime
    | delay span =>
      simp only [List.filterMap_cons, Inbound.byte?_delay] at hbytes
      simp only [totalDelay_cons, delayOf] at htime
      have hspan : ¬ deadline.remaining clock.now ≤ span := by
        unfold Deadline.remaining
        omega
      have hclock : (clock.advance span).now ≤ clock.now + span := by
        show clock.now + min span maxTimeout ≤ _
        omega
      obtain ⟨clock', front', hsettle, hrest⟩ := ih (clock.advance span) hbytes hfail'
        (by omega)
      refine ⟨clock', front', ?_, hrest⟩
      rw [List.cons_append, settle, if_neg hspan, hsettle]
    | failure kind => exact absurd List.mem_cons_self (hfail kind)

/-- **One byte is read, and the others still arrive.** -/
theorem readByte (h : Arriving deadline behind (b :: bytes) p) :
    ∃ q, Link.readByte deadline p = (.ok b, q) ∧ Arriving deadline behind bytes q := by
  obtain ⟨front, hqueue, hbytes, hfail, htime⟩ := h.queued
  obtain ⟨clock, front', hsettle, hbytes', hfail', htime'⟩ :=
    settle_front behind p.clock hbytes hfail htime
  rw [← hqueue] at hsettle
  refine ⟨_, readByte_of_settle_ok h.active hsettle, h.active, front', rfl, hbytes', hfail', htime'⟩

/-! ## Data -/

/-- A byte of data whose stuffed form arrives is received. -/
lemma readDatum (h : Arriving deadline behind (encodeByte b ++ bytes) p) :
    ∃ q, Link.readDatum deadline p = (.ok b, q) ∧ Arriving deadline behind bytes q := by
  unfold Link.readDatum
  by_cases hr : isReserved b = true
  · rw [encodeByte, if_pos hr] at h
    obtain ⟨q, hq, h'⟩ := h.readByte
    obtain ⟨q', hq', h''⟩ := h'.readByte
    refine ⟨q', ?_, h''⟩
    rw [hq]
    simp only [if_pos]
    rw [hq']
    dsimp only
    rw [decodeCode_codeOf hr]
  · rw [encodeByte, if_neg hr] at h
    obtain ⟨q, hq, h'⟩ := h.readByte
    refine ⟨q, ?_, h'⟩
    have hb : b ≠ escape := by
      rintro rfl
      exact hr rfl
    rw [hq]
    simp only [if_neg hb]

/-- Data whose stuffed form arrives is received byte by byte. -/
lemma receiveEach (done : List UInt8) {data : List UInt8}
    (h : Arriving deadline behind (encode data ++ bytes) p) :
    ∃ q, Link.receiveEach deadline done data.length p = (.ok (done.reverse ++ data), q) ∧
      Arriving deadline behind bytes q := by
  induction data generalizing done p with
  | nil => exact ⟨p, by rw [List.append_nil]; rfl, h⟩
  | cons b data ih =>
    rw [encode_cons, List.append_assoc] at h
    obtain ⟨q, hq, h'⟩ := h.readDatum
    obtain ⟨q', hq', h''⟩ := ih (b :: done) h'
    refine ⟨q', ?_, h''⟩
    rw [List.length_cons, Link.receiveEach, hq]
    simpa using hq'

/-- **Data whose stuffed form arrives is received,** in reads of any size. -/
theorem receiveStuffed {data : List UInt8} {n : Nat} (hn : data.length = n)
    (h : Arriving deadline behind (encode data ++ bytes) p) :
    ∃ q, Link.receiveStuffed n deadline p = (.ok data, q) ∧ Arriving deadline behind bytes q := by
  obtain ⟨q, hq, h'⟩ := h.receiveEach []
  rw [hn] at hq
  exact ⟨q, receiveFrom_of_receiveEach hq, h'⟩

/-- **A byte that stands behind other bytes is found.** -/
theorem waitForByte {skipped : List UInt8} (hb : b ∉ skipped)
    (h : Arriving deadline behind (skipped ++ b :: bytes) p) :
    ∃ q, Link.waitForByte b deadline p = (.ok (), q) ∧ Arriving deadline behind bytes q := by
  induction skipped generalizing p with
  | nil =>
    obtain ⟨q, hq, h'⟩ := h.readByte
    refine ⟨q, ?_, h'⟩
    rw [waitForByte_of_readByte hq, if_pos rfl]
  | cons c skipped ih =>
    rw [List.mem_cons, not_or] at hb
    obtain ⟨q, hq, h'⟩ := h.readByte
    obtain ⟨q', hq', h''⟩ := ih hb.2 h'
    refine ⟨q', ?_, h''⟩
    rw [waitForByte_of_readByte hq, if_neg (Ne.symm hb.1), hq']

end Arriving

end FramedLink.MemoryLink
