import FramedLink.Proofs.Arrival

set_option autoImplicit false
set_option relaxedAutoImplicit false

/-!
# Queues of bytes

A queue that holds nothing but bytes has no pauses and no failures. Every byte of it is read at
once, time passes only when it is empty, and the only failure is a lack of bytes. **On such a
queue every attempt comes to a verdict,** and a wait ends without an error.

## Main definitions

* `FramedLink.MemoryLink.HoldsBytes` — nothing but bytes is queued.

## Main results

* `FramedLink.MemoryLink.HoldsBytes.arriving` — all bytes of such a queue arrive in time.
* `FramedLink.MemoryLink.HoldsBytes.chains` — reads from such a queue leave one.
* `FramedLink.MemoryLink.HoldsBytes.attempt_isOk` — an attempt comes to a verdict.
* `FramedLink.MemoryLink.HoldsBytes.awaitReply_of_not_mem` — without a marker, a wait times out.
-/

namespace FramedLink.MemoryLink

open Link Stuffing

variable {expect : Expectation} {deadline : Deadline} {b : UInt8} {bytes : List UInt8} {n : Nat}
  {p q : MemoryLink}

/-! ## Queues of bytes -/

/-- The front of a queue that holds nothing but bytes. -/
lemma frontBytes_map_byte (n : Nat) (bytes : List UInt8) :
    frontBytes n (bytes.map .byte) = bytes.take n := by
  induction n generalizing bytes with
  | zero => simp [frontBytes]
  | succ n ih =>
    cases bytes with
    | nil => rfl
    | cons b bytes => rw [List.map_cons, frontBytes_cons_byte, ih, List.take_succ_cons]

/-- Nothing but bytes is queued, and nobody has called off the reading. -/
structure HoldsBytes (p : MemoryLink) : Prop where
  /-- Nobody has called off the reading. -/
  active : p.cancelled = false
  /-- Nothing but bytes is queued. -/
  queued : p.inbound = p.pendingBytes.map .byte

/-- A queue of bytes on a link that is not called off. -/
lemma holdsBytes_map (hactive : p.cancelled = false) (bytes : List UInt8) :
    ({ p with inbound := bytes.map .byte } : MemoryLink).HoldsBytes :=
  ⟨hactive, by rw [pendingBytes, filterMap_map_byte]⟩

namespace HoldsBytes

/-- As long as there is time, the bytes of a queue of bytes arrive in time. -/
lemma arriving (h : p.HoldsBytes) (hlive : ¬ deadline.expired (Link.now p) = true) :
    Arriving deadline [] p.pendingBytes p := by
  refine ⟨h.active, p.inbound, by rw [List.append_nil], rfl, ?_, ?_⟩
  · intro kind hk
    rw [h.queued] at hk
    simp at hk
  · rw [h.queued, totalDelay_map_byte]
    simpa [Deadline.expired, Link.now] using hlive

/-- The first byte of a queue of bytes is read at once. -/
lemma readByte_cons (h : p.HoldsBytes) (deadline : Deadline)
    (hbytes : p.pendingBytes = b :: bytes) :
    Link.readByte deadline p = (.ok b, { p with inbound := bytes.map .byte }) := by
  have hqueue := h.queued
  rw [hbytes] at hqueue
  exact readByte_of_settle_ok h.active (by rw [hqueue]; rfl)

/-- A read of an empty queue times out. -/
lemma readAvailable_nil (h : p.HoldsBytes) (deadline : Deadline) (hn : 0 < n)
    (hbytes : p.pendingBytes = []) :
    Link.readAvailable n deadline p =
      (.error .timeout, { p with clock := expire p.clock deadline, inbound := [] }) := by
  have hqueue := h.queued
  rw [hbytes] at hqueue
  exact readAvailable_of_settle_error hn h.active (by rw [hqueue]; rfl)

/-- Where there is no byte, the reading of one times out. -/
lemma readByte_nil (h : p.HoldsBytes) (deadline : Deadline) (hbytes : p.pendingBytes = []) :
    Link.readByte deadline p =
      (.error .timeout, { p with clock := expire p.clock deadline, inbound := [] }) := by
  unfold Link.readByte
  rw [h.readAvailable_nil deadline (by decide) hbytes]

/-- A read from a queue of bytes takes as many of them as it may. -/
lemma readAvailable (h : p.HoldsBytes) (deadline : Deadline) (hn : 0 < n)
    (hbytes : p.pendingBytes ≠ []) :
    Link.readAvailable n deadline p =
      (.ok (p.pendingBytes.take (min n p.readChunk)),
        { p with inbound := (p.pendingBytes.drop (min n p.readChunk)).map .byte }) := by
  have hsettle : settle deadline p.clock p.inbound = (.ok (), p.clock, p.inbound) := by
    rw [h.queued]
    obtain ⟨b, bytes, hcons⟩ := List.exists_cons_of_ne_nil hbytes
    rw [hcons]
    rfl
  have hfront : frontBytes (min n p.readChunk) p.inbound =
      p.pendingBytes.take (min n p.readChunk) := by
    rw [← frontBytes_map_byte, ← h.queued]
  have hrest : p.inbound.drop (p.pendingBytes.take (min n p.readChunk)).length =
      (p.pendingBytes.drop (min n p.readChunk)).map .byte := by
    have hqueue := map_frontBytes_append (min n p.readChunk) p.inbound
    rw [hfront] at hqueue
    have hsplit : (p.pendingBytes.take (min n p.readChunk)).map .byte ++
        (p.pendingBytes.drop (min n p.readChunk)).map .byte = p.inbound := by
      rw [← List.map_append, List.take_append_drop, ← h.queued]
    exact List.append_cancel_left (hqueue.trans hsplit.symm)
  rw [readAvailable_of_settle_ok hn h.active hsettle, hfront, hrest]

/-- A read from a queue of bytes leaves one. Time passes only if it is empty. -/
lemma of_readAvailable {r : Except LinkError (List UInt8)} (h : p.HoldsBytes)
    (hr : Link.readAvailable n deadline p = (r, q)) :
    q.HoldsBytes ∧ (q.clock = p.clock ∨ q.pendingBytes = []) := by
  rcases Nat.eq_zero_or_pos n with rfl | hn
  · obtain ⟨-, rfl⟩ := Prod.mk.inj (readAvailable_zero.symm.trans hr)
    exact ⟨h, .inl rfl⟩
  by_cases hbytes : p.pendingBytes = []
  · obtain ⟨-, rfl⟩ := Prod.mk.inj ((h.readAvailable_nil deadline hn hbytes).symm.trans hr)
    exact ⟨⟨h.active, rfl⟩, .inr rfl⟩
  · obtain ⟨-, rfl⟩ := Prod.mk.inj ((h.readAvailable deadline hn hbytes).symm.trans hr)
    exact ⟨holdsBytes_map h.active _, .inl rfl⟩

/-- Reads from a queue of bytes leave one. Time passes only once it is empty. -/
lemma chains (deadline : Deadline) :
    Chains deadline fun p q : MemoryLink => p.HoldsBytes →
      q.HoldsBytes ∧ q.pendingBytes <:+ p.pendingBytes ∧
        (q.clock = p.clock ∨ q.pendingBytes = []) where
  refl p hp := ⟨hp, List.suffix_refl _, .inl rfl⟩
  trans := by
    intro p q r hpq hqr hp
    obtain ⟨hq, hsuffix, hclock⟩ := hpq hp
    obtain ⟨hr, hsuffix', hclock'⟩ := hqr hq
    refine ⟨hr, hsuffix'.trans hsuffix, ?_⟩
    rcases hclock with hclock | hnil
    · rw [← hclock]
      exact hclock'
    · rw [hnil] at hsuffix'
      exact .inr (List.suffix_nil.mp hsuffix')
  read := by
    intro n r p q h hp
    obtain ⟨hq, hclock⟩ := hp.of_readAvailable h
    exact ⟨hq, (chains_pendingBytes deadline).read h, hclock⟩

/-! ## Failures -/

/-- Reading from a queue of bytes fails only for lack of bytes. -/
lemma readByte_error {e : LinkError} (h : p.HoldsBytes)
    (hr : Link.readByte deadline p = (.error e, q)) : e = .timeout := by
  rcases hpending : p.pendingBytes with - | ⟨b, bytes⟩
  · rw [h.readByte_nil deadline hpending] at hr
    cases hr
    rfl
  · rw [h.readByte_cons deadline hpending] at hr
    cases hr

/-- Receiving a byte of data fails on a damaged pair or for lack of bytes. -/
lemma readDatum_error {e : FrameError} (h : p.HoldsBytes)
    (hr : Link.readDatum deadline p = (.error e, q)) :
    (∃ code, e = .invalidEscape code) ∨ e = .link .timeout := by
  unfold Link.readDatum at hr
  split at hr
  · next e' q' hb =>
    obtain ⟨he, -⟩ := Prod.mk.inj hr
    rw [h.readByte_error hb] at he
    exact .inr (Except.error.inj he).symm
  next b q' hb =>
  split at hr
  · split at hr
    · next e' q'' hcode =>
      obtain ⟨he, -⟩ := Prod.mk.inj hr
      rw [((chains deadline).readByte hb h).1.readByte_error hcode] at he
      exact .inr (Except.error.inj he).symm
    · exact .inl (decodeCode_eq_error (Prod.mk.inj hr).1)
  · cases hr

/-- Receiving data one by one fails in the same two ways. -/
lemma receiveEach_error {done : List UInt8} {n : Nat} {e : FrameError} (h : p.HoldsBytes)
    (hr : Link.receiveEach deadline done n p = (.error e, q)) :
    (∃ code, e = .invalidEscape code) ∨ e = .link .timeout := by
  induction n generalizing done p with
  | zero => cases hr
  | succ n ih =>
    rw [Link.receiveEach] at hr
    rcases hd : Link.readDatum deadline p with ⟨e' | value, p₁⟩ <;> rw [hd] at hr
    · obtain ⟨he, -⟩ := Prod.mk.inj hr
      obtain rfl := Except.error.inj he
      exact h.readDatum_error hd
    · exact ih ((chains deadline).readDatum hd h).1 hr

/-- A failure to receive data from a queue of bytes rejects the frame. -/
lemma ofFailure_receiveFrom {done : List UInt8} {n : Nat} {e : FrameError} (h : p.HoldsBytes)
    (hr : receiveFrom done n deadline p = (.error e, q)) :
    ∃ why, Verdict.ofFailure e = .ok (.rejected why) := by
  obtain ⟨lost, he, -⟩ := receiveEach_of_receiveFrom_error hr
  obtain ⟨code, rfl⟩ | rfl := h.receiveEach_error he
  · exact ⟨_, rfl⟩
  · exact ⟨_, rfl⟩

/-- **An attempt on a queue of bytes comes to a verdict.** -/
theorem attempt_isOk {r : Except DeviceError Verdict} (h : p.HoldsBytes)
    (htried : Link.attempt expect deadline p = (r, q)) : ∃ verdict, r = .ok verdict := by
  cases attempt_iff.mp htried with
  | headerFailed header =>
    obtain ⟨why, hwhy⟩ := h.ofFailure_receiveFrom header
    exact ⟨_, hwhy⟩
  | undersized header announced => exact ⟨_, rfl⟩
  | oversized header announced exceeds => exact ⟨_, rfl⟩
  | payloadFailed header announced fits payload =>
    obtain ⟨why, hwhy⟩ := ((chains deadline).receiveFrom header h).1.ofFailure_receiveFrom payload
    exact ⟨_, hwhy⟩
  | judged header announced fits received => exact ⟨_, rfl⟩

/-- A search for a byte that is not there times out. -/
lemma waitForByte_of_not_mem {value : UInt8} (h : p.HoldsBytes) (deadline : Deadline)
    (hmem : value ∉ p.pendingBytes) :
    ∃ q, Link.waitForByte value deadline p = (.error .timeout, q) := by
  generalize hpending : p.pendingBytes = bytes at hmem
  induction bytes generalizing p with
  | nil => exact ⟨_, waitForByte_of_readByte_error (h.readByte_nil deadline hpending)⟩
  | cons b bytes ih =>
    rw [List.mem_cons, not_or] at hmem
    have hread := h.readByte_cons deadline hpending
    have hrest := pendingBytes_readByte hread
    rw [hpending] at hrest
    obtain ⟨q, hq⟩ := ih ((chains deadline).readByte hread h).1 (List.cons.inj hrest).2.symm hmem.2
    refine ⟨q, ?_⟩
    rw [waitForByte_of_readByte hread, if_neg (Ne.symm hmem.1), hq]

/-- A wait on bytes without a marker times out. -/
lemma awaitReply_of_not_mem (h : p.HoldsBytes) (hmem : marker ∉ p.pendingBytes) :
    (Link.awaitReply expect deadline p).result = .ok .timedOut := by
  by_cases hlive : deadline.expired (Link.now p) = true
  · rw [awaitReply_expired _ hlive]
  · obtain ⟨q, hfound⟩ := h.waitForByte_of_not_mem deadline hmem
    rw [awaitReply_unmarked _ hlive hfound]
    rfl

end HoldsBytes

end FramedLink.MemoryLink
