import FramedLink.Proofs.Soundness

set_option autoImplicit false
set_option relaxedAutoImplicit false

/-!
# Waits that nothing can end

If no frame can meet an expectation, a wait reads on until a read fails. Whether it then times
out or reports a failure, and when, is up to the queue and the deadline alone: **it makes no
difference which bytes were taken for markers, headers and payloads on the way.**

## Main definitions

* `FramedLink.MemoryLink.exhaust` — read until a read fails.
* `FramedLink.MemoryLink.Follows` — one state is reached from another by reads that succeed.
* `FramedLink.MemoryLink.Yields` — what receiving data can come to.

## Main results

* `FramedLink.MemoryLink.awaitReply_of_not_meets` — a wait that nothing can end comes to what
  reading to the end comes to.
-/

namespace FramedLink.MemoryLink

open Link Stuffing

variable {expect : Expectation} {deadline : Deadline} {p q : MemoryLink}

/-! ## Reading to the end -/

/-- Read and drop bytes until a read fails. -/
def exhaust (deadline : Deadline) (p : MemoryLink) : LinkError × MemoryLink :=
  match _read : readByte deadline p with
  | (.error e, q) => (e, q)
  | (.ok _, q) => exhaust deadline q
termination_by Link.supply p
decreasing_by exact (supply_readByte _read).2 rfl

/-- A byte that is read is one of those that are read until nothing is left. -/
lemma exhaust_of_readByte {b : UInt8} (h : readByte deadline p = (.ok b, q)) :
    exhaust deadline p = exhaust deadline q := by
  rw [exhaust]
  split <;> next hq => rw [h] at hq; cases hq <;> rfl

/-- A byte that cannot be read is the end of it. -/
lemma exhaust_of_readByte_error {e : LinkError} (h : readByte deadline p = (.error e, q)) :
    exhaust deadline p = (e, q) := by
  rw [exhaust]
  split <;> next hq => rw [h] at hq; cases hq <;> rfl

/-- The read chunk does not matter to it. -/
lemma exhaust_setReadChunk (deadline : Deadline) (p : MemoryLink) (c : Nat) :
    exhaust deadline (p.setReadChunk c) =
      ((exhaust deadline p).1, (exhaust deadline p).2.setReadChunk c) := by
  fun_induction exhaust deadline p with
  | case1 p e q hq =>
    exact exhaust_of_readByte_error (by rw [readByte_setReadChunk, hq])
  | case2 p b q hq ih =>
    have hread : readByte deadline (p.setReadChunk c) = (.ok b, q.setReadChunk c) := by
      rw [readByte_setReadChunk, hq]
    rw [exhaust_of_readByte hread, ih]

/-! ## Time -/

/-- Waiting for a byte that arrives in time does not use up the time. -/
lemma settle_live {clock clock' : ManualClock} {queue queue' : List Inbound}
    (h : settle deadline clock queue = (.ok (), clock', queue'))
    (hlive : clock.now < deadline.instant) : clock'.now < deadline.instant := by
  fun_induction settle deadline clock queue with
  | case2 clock b rest =>
    obtain ⟨rfl, -⟩ := Prod.mk.inj (Prod.mk.inj h).2
    exact hlive
  | case5 clock span rest remaining hspan ih =>
    refine ih h ?_
    show clock.now + min span maxTimeout < deadline.instant
    simp only [remaining, Deadline.remaining] at hspan
    omega
  | _ => cases h

/-- Waiting in vain uses up the time. -/
lemma settle_timeout {clock clock' : ManualClock} {queue queue' : List Inbound}
    (h : settle deadline clock queue = (.error .timeout, clock', queue')) :
    deadline.instant ≤ clock'.now := by
  fun_induction settle deadline clock queue with
  | case1 clock =>
    obtain ⟨rfl, -⟩ := Prod.mk.inj (Prod.mk.inj h).2
    exact Nat.le_max_right _ _
  | case4 clock span rest remaining hspan =>
    obtain ⟨rfl, -⟩ := Prod.mk.inj (Prod.mk.inj h).2
    exact Nat.le_max_right _ _
  | case5 clock span rest remaining hspan ih => exact ih h
  | _ => cases h

/-- Reading to the end of the time uses it up. -/
lemma expired_of_exhaust (h : exhaust deadline p = (.timeout, q)) :
    deadline.expired (Link.now q) = true := by
  fun_induction exhaust deadline p with
  | case1 p e q' hq =>
    obtain ⟨rfl, rfl⟩ := Prod.mk.inj h
    rcases readByte_cases deadline p with ⟨-, hread⟩ | ⟨-, e, clock, inbound, hs, hread⟩ |
      ⟨-, b, clock, rest, -, hread⟩ <;> rw [hq] at hread <;> cases hread
    simpa [Deadline.expired, Link.now] using settle_timeout hs
  | case2 p b q' hq ih => exact ih h

/-! ## Reads that succeed -/

/-- `q` is reached from `p` by reads that succeed: reading to the end comes to the same, and the
time is not used up. -/
structure Follows (deadline : Deadline) (p q : MemoryLink) : Prop where
  /-- Reading to the end comes to the same. -/
  exhaust_eq : exhaust deadline p = exhaust deadline q
  /-- The time is not used up. -/
  live : ¬ deadline.expired (Link.now p) = true → ¬ deadline.expired (Link.now q) = true

namespace Follows

/-- Nothing has been read. -/
lemma refl (p : MemoryLink) : Follows deadline p p := ⟨rfl, id⟩

/-- Reads followed by reads. -/
lemma trans {q' : MemoryLink} (h : Follows deadline p q) (h' : Follows deadline q q') :
    Follows deadline p q' :=
  ⟨h.exhaust_eq.trans h'.exhaust_eq, h'.live ∘ h.live⟩

end Follows

/-- One byte has been read. -/
lemma follows_readByte {b : UInt8} (h : readByte deadline p = (.ok b, q)) :
    Follows deadline p q := by
  refine ⟨exhaust_of_readByte h, ?_⟩
  rcases readByte_cases deadline p with ⟨-, hread⟩ | ⟨-, e, clock, inbound, -, hread⟩ |
    ⟨-, b, clock, rest, hs, hread⟩ <;> rw [h] at hread <;> cases hread
  intro hlive
  have hlive' : p.clock.now < deadline.instant := by
    simpa [Deadline.expired, Link.now] using hlive
  simpa [Deadline.expired, Link.now] using settle_live hs hlive'

/-- The bytes that have been put back are read again. -/
lemma follows_unread (hactive : q.cancelled = false) (bytes : List UInt8) :
    Follows deadline (q.unread bytes) q := by
  induction bytes with
  | nil => exact .refl q
  | cons b bytes ih => exact (follows_readByte (readByte_unread_cons hactive)).trans ih

/-- Several bytes have been read at once. -/
lemma follows_readAvailable {n : Nat} {bytes : List UInt8} (hn : 0 < n)
    (h : Link.readAvailable n deadline p = (.ok bytes, q)) : Follows deadline p q := by
  obtain ⟨b, bs, -, -, hread, hactive⟩ := readByte_of_readAvailable hn h
  exact (follows_readByte hread).trans (follows_unread hactive bs)

/-- A byte has been searched for and found. -/
lemma follows_waitForByte {value : UInt8} (h : waitForByte value deadline p = (.ok (), q)) :
    Follows deadline p q := by
  fun_induction waitForByte value deadline p with
  | case1 p e q' hq => cases h
  | case2 p q' hq => cases h; exact follows_readByte hq
  | case3 p b q' hq hb ih => exact (follows_readByte hq).trans (ih h)

/-- A search that fails has read until nothing was left. -/
lemma exhaust_of_waitForByte_error {value : UInt8} {e : LinkError}
    (h : waitForByte value deadline p = (.error e, q)) : exhaust deadline p = (e, q) := by
  fun_induction waitForByte value deadline p with
  | case1 p e' q' hq => cases h; exact exhaust_of_readByte_error hq
  | case2 p q' hq => cases h
  | case3 p b q' hq hb ih => exact (exhaust_of_readByte hq).trans (ih h)

/-! ## Receiving data -/

/-- What receiving data can come to: data or a damaged pair, after reads that succeed, or the
failure of a read. -/
inductive Yields (deadline : Deadline) (p : MemoryLink) :
    Except FrameError (List UInt8) → MemoryLink → Prop
  /-- All reads succeed. -/
  | data {bytes : List UInt8} {q : MemoryLink} (follows : Follows deadline p q) :
      Yields deadline p (.ok bytes) q
  /-- All reads succeed, but a pair is damaged. -/
  | damaged {code : UInt8} {q : MemoryLink} (follows : Follows deadline p q) :
      Yields deadline p (.error (.invalidEscape code)) q
  /-- The last read fails. -/
  | failed {e : LinkError} {q : MemoryLink} (exhausted : exhaust deadline p = (e, q)) :
      Yields deadline p (.error (.link e)) q

/-- What receiving comes to behind reads that succeed, it comes to before them. -/
lemma Yields.of_follows {r : Except FrameError (List UInt8)} {q' : MemoryLink}
    (h : Follows deadline p q) (h' : Yields deadline q r q') : Yields deadline p r q' := by
  cases h' with
  | data follows => exact .data (h.trans follows)
  | damaged follows => exact .damaged (h.trans follows)
  | failed exhausted => exact .failed (h.exhaust_eq.trans exhausted)

/-- What the decoding of raw bytes comes to.

**Proof sketch.** Induction on the raw bytes. The link is read from only if a pair is cut off at
their end. -/
lemma yields_decodeRead {done raw : List UInt8} {r : Except FrameError (List UInt8)}
    (h : decodeRead deadline done raw p = (r, q)) : Yields deadline p r q := by
  fun_induction decodeRead deadline done raw p with
  | case1 done => cases h; exact .data (.refl _)
  | case2 done e q' hq => cases h; exact .failed (exhaust_of_readByte_error hq)
  | case3 done code q' hq =>
    obtain ⟨rfl, rfl⟩ := Prod.mk.inj h
    cases hvalue : decodeCode code with
    | ok value => exact .data (follows_readByte hq)
    | error e =>
      obtain ⟨code', rfl⟩ := decodeCode_eq_error hvalue
      exact .damaged (follows_readByte hq)
  | case4 done code raw value hv ih => exact ih h
  | case5 done code raw e he =>
    obtain ⟨code', rfl⟩ := decodeCode_eq_error he
    cases h
    exact .damaged (.refl _)
  | case6 done b raw hb ih => exact ih h

/-- What a read that is decoded comes to. -/
lemma yields_receiveSome {n : Nat} {r : Except FrameError (List UInt8)} (hn : 0 < n)
    (h : receiveSome n deadline p = (r, q)) : Yields deadline p r q := by
  unfold receiveSome at h
  split at h
  · next e q' hread =>
    cases h
    exact .failed (exhaust_of_readByte_error (readByte_of_readAvailable_error hn hread))
  · next raw q' hread => exact (yields_decodeRead h).of_follows (follows_readAvailable hn hread)

/-- **Receiving data comes to data, a damaged pair or the failure of a read.** -/
theorem yields_receiveFrom {done : List UInt8} {n : Nat} {r : Except FrameError (List UInt8)}
    (h : receiveFrom done n deadline p = (r, q)) : Yields deadline p r q := by
  fun_induction receiveFrom done n deadline p with
  | case1 done n p hn e q' hq => cases h; exact yields_receiveSome hn hq
  | case2 done n p hn bytes q' hq ih =>
    cases yields_receiveSome hn hq with
    | data follows => exact (ih h).of_follows follows
  | case3 done n p hn => cases h; exact .data (.refl _)

/-! ## Attempts and waits -/

/-- An attempt comes to a verdict after reads that succeed, or fails as its last read.

**Proof sketch.** One case for each course of an attempt. Behind a header that is received in full,
reading to the end comes to what it comes to before it. -/
lemma exhaust_attempt {r : Except DeviceError Verdict}
    (h : attempt expect deadline p = (r, q)) :
    (∃ verdict, r = .ok verdict ∧ Follows deadline p q) ∨
      ∃ e, exhaust deadline p = (e, q) ∧ r = Verdict.ofFailure (.link e) := by
  cases attempt_iff.mp h with
  | headerFailed header =>
    cases yields_receiveFrom header with
    | damaged follows => exact .inl ⟨_, rfl, follows⟩
    | failed exhausted => exact .inr ⟨_, exhausted, rfl⟩
  | undersized header announced =>
    cases yields_receiveFrom header with
    | data follows => exact .inl ⟨_, rfl, follows⟩
  | oversized header announced exceeds =>
    cases yields_receiveFrom header with
    | data follows => exact .inl ⟨_, rfl, follows⟩
  | payloadFailed header announced fits payload =>
    cases yields_receiveFrom header with
    | data follows =>
      cases (yields_receiveFrom payload).of_follows follows with
      | damaged follows' => exact .inl ⟨_, rfl, follows'⟩
      | failed exhausted => exact .inr ⟨_, exhausted, rfl⟩
  | judged header announced fits received =>
    cases yields_receiveFrom header with
    | data follows =>
      cases (yields_receiveFrom received).of_follows follows with
      | data follows' => exact .inl ⟨_, rfl, follows'⟩

/-- **A wait that nothing can end comes to what reading to the end comes to:** it times out if
that runs out of time, reports its failure otherwise, and ends at the same instant.

**Proof sketch.** Induction on the course of the wait. A search or an attempt whose reads succeed
does not change what reading to the end comes to. If one of them runs out of time, the wait is
over, since the deadline has passed. -/
theorem awaitReply_of_not_meets (hmeets : ∀ raw payload, ¬ expect.Meets raw payload)
    (hlive : ¬ deadline.expired (Link.now p) = true) :
    (awaitReply expect deadline p).result =
        (if (exhaust deadline p).1.isTimeout then .ok .timedOut
          else .error (.link (exhaust deadline p).1)) ∧
      (awaitReply expect deadline p).link.clock = (exhaust deadline p).2.clock := by
  fun_induction awaitReply expect deadline p with
  | case1 p hexp => exact absurd hexp hlive
  | case2 p hexp e q hfound htime =>
    rw [exhaust_of_waitForByte_error hfound]
    exact ⟨(if_pos htime).symm, rfl⟩
  | case3 p hexp e q hfound htime =>
    rw [exhaust_of_waitForByte_error hfound]
    exact ⟨(if_neg htime).symm, rfl⟩
  | case4 p hexp q hfound e q' htried =>
    obtain ⟨verdict, hverdict, -⟩ | ⟨e', hexhaust, he⟩ := exhaust_attempt htried
    · cases hverdict
    · rw [(follows_waitForByte hfound).exhaust_eq, hexhaust]
      cases e' <;> cases he <;> exact ⟨rfl, rfl⟩
  | case5 p hexp q hfound reply q' htried =>
    obtain ⟨wire, raw, -, -, h, -⟩ := pendingBytes_attempt_accepted htried
    exact absurd h (hmeets raw reply.payload)
  | case6 p hexp q hfound why q' htried rest ih =>
    obtain ⟨verdict, -, hfollows⟩ | ⟨e', hexhaust, he⟩ := exhaust_attempt htried
    · have hboth := (follows_waitForByte hfound).trans hfollows
      rw [hboth.exhaust_eq]
      exact ih (hboth.live hlive)
    · rw [(follows_waitForByte hfound).exhaust_eq, hexhaust]
      -- Only a lack of time rejects the frame, and then the wait is over.
      have htimeout : e' = .timeout := by
        cases e' <;> first | rfl | cases he
      subst htimeout
      have hrest : rest = ⟨.ok .timedOut, [], q'⟩ :=
        awaitReply_expired q' (expired_of_exhaust hexhaust)
      rw [hrest]
      exact ⟨rfl, rfl⟩

end FramedLink.MemoryLink
