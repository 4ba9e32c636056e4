import FramedLink.Proofs.Reading

set_option autoImplicit false
set_option relaxedAutoImplicit false

/-!
# Receiving one byte at a time

A receiver reads as much as it can use, and how much it gets at once is up to the link. This
file compares it with a receiver that asks for one byte of data at a time. On a memory link the
two agree in what they receive, in how they fail and in the time they take. They differ in one
respect: **when a pair is damaged, the bytes of the read that lie behind it have been taken from
the link and are lost.**

## Main definitions

* `FramedLink.Link.readDatum`, `FramedLink.Link.receiveEach` — receive one byte of data; a given
  number of them, one by one.

## Main results

* `FramedLink.MemoryLink.receiveEach_of_receiveFrom`,
  `FramedLink.MemoryLink.receiveEach_of_receiveFrom_error` — receiving data against receiving
  its bytes one by one.
* `FramedLink.MemoryLink.receiveEach_setReadChunk` — the read chunk does not matter to the
  latter.
* `FramedLink.MemoryLink.attempt_setReadChunk_one` — an attempt against the attempt on a link
  that hands out single bytes.
-/

namespace FramedLink

namespace Link

open Stuffing

variable {σ : Type} [Link σ]

/-- Receive one byte of data: one byte of the link, or the two of a pair. -/
def readDatum (deadline : Deadline) (link : σ) : Except FrameError UInt8 × σ :=
  match readByte deadline link with
  | (.error e, link) => (.error (.link e), link)
  | (.ok b, link) =>
    if b = escape then
      match readByte deadline link with
      | (.error e, link) => (.error (.link e), link)
      | (.ok code, link) => (decodeCode code, link)
    else (.ok b, link)

/-- Receive `n` bytes of data one by one, after those in `done`, the last first. -/
def receiveEach (deadline : Deadline) (done : List UInt8) :
    Nat → σ → Except FrameError (List UInt8) × σ
  | 0, link => (.ok done.reverse, link)
  | n + 1, link =>
    match readDatum deadline link with
    | (.error e, link) => (.error e, link)
    | (.ok value, link) => receiveEach deadline (value :: done) n link

/-- Receiving a byte of data keeps what every read keeps. -/
lemma Chains.readDatum {deadline : Deadline} {R : σ → σ → Prop} (hR : Chains deadline R)
    {r : Except FrameError UInt8} {link link' : σ} (h : readDatum deadline link = (r, link')) :
    R link link' := by
  unfold Link.readDatum at h
  split at h
  · next hb => obtain ⟨-, rfl⟩ := Prod.mk.inj h; exact hR.readByte hb
  next hb =>
  split at h
  · split at h <;> next hcode =>
      obtain ⟨-, rfl⟩ := Prod.mk.inj h
      exact hR.trans (hR.readByte hb) (hR.readByte hcode)
  · obtain ⟨-, rfl⟩ := Prod.mk.inj h
    exact hR.readByte hb

end Link

namespace MemoryLink

open Link Stuffing

variable {deadline : Deadline} {p q : MemoryLink}

/-! ## One read -/

/-- A plain byte that has been put back is received at once. -/
lemma readDatum_unread_plain {b : UInt8} {bs : List UInt8} (hc : p.cancelled = false)
    (hb : b ≠ escape) : readDatum deadline (p.unread (b :: bs)) = (.ok b, p.unread bs) := by
  unfold readDatum
  rw [readByte_unread_cons hc]
  simp only [if_neg hb]

/-- A pair that has been put back is received at once. -/
lemma readDatum_unread_pair {code : UInt8} {bs : List UInt8} (hc : p.cancelled = false) :
    readDatum deadline (p.unread (escape :: code :: bs)) = (decodeCode code, p.unread bs) := by
  unfold readDatum
  rw [readByte_unread_cons hc]
  simp only [if_pos]
  rw [readByte_unread_cons hc]

/-- A pair of which only the first half has been put back is completed from the link. -/
lemma readDatum_unread_escape (hc : p.cancelled = false) :
    readDatum deadline (p.unread [escape]) =
      match readByte deadline p with
      | (.error e, q) => (.error (.link e), q)
      | (.ok code, q) => (decodeCode code, q) := by
  unfold readDatum
  rw [readByte_unread_cons hc, unread_nil]
  simp only [if_pos]
  rcases readByte deadline p with ⟨e | code, q⟩ <;> rfl

/-- A read that decodes to data is the receipt of that data one by one.

**Proof sketch.** Induction on the raw bytes. A plain byte or a pair that has been put back is
received from there, and of a pair that is cut off the second half comes from the link, as it does
in the read. -/
lemma receiveEach_of_decodeRead {done raw bytes : List UInt8} {n : Nat}
    (hc : p.cancelled = false) (hn : raw.length ≤ n)
    (h : decodeRead deadline done raw p = (.ok bytes, q)) :
    ∃ new, bytes = done.reverse ++ new ∧ new.length ≤ raw.length ∧
      receiveEach deadline done n (p.unread raw) =
        receiveEach deadline bytes.reverse (n - new.length) q := by
  fun_induction decodeRead deadline done raw p generalizing n with
  | case1 done =>
    cases h
    exact ⟨[], by simp⟩
  | case2 done e q' hr => cases h
  | case3 done code q' hr =>
    obtain ⟨hcode, rfl⟩ := Prod.mk.inj h
    obtain ⟨n, rfl⟩ : ∃ k, n = k + 1 := ⟨n - 1, by simp at hn; omega⟩
    cases hv : decodeCode code with
    | error e => rw [hv] at hcode; cases hcode
    | ok value =>
      rw [hv] at hcode
      obtain rfl := Except.ok.inj hcode
      refine ⟨[value], by simp, by simp, ?_⟩
      rw [receiveEach, readDatum_unread_escape hc, hr]
      simp [hv]
  | case4 done code raw value hv ih =>
    simp only [List.length_cons] at hn
    obtain ⟨n, rfl⟩ : ∃ k, n = k + 1 := ⟨n - 1, by omega⟩
    obtain ⟨new, rfl, hlen, hrec⟩ := ih (n := n) (by omega) h
    refine ⟨value :: new, by simp, by simp; omega, ?_⟩
    rw [receiveEach, readDatum_unread_pair hc, hv]
    simpa using hrec
  | case5 done code raw e he => cases h
  | case6 done b raw hb ih =>
    simp only [List.length_cons] at hn
    obtain ⟨n, rfl⟩ : ∃ k, n = k + 1 := ⟨n - 1, by omega⟩
    obtain ⟨new, rfl, hlen, hrec⟩ := ih (n := n) (by omega) h
    refine ⟨b :: new, by simp, by simp; omega, ?_⟩
    rw [receiveEach, readDatum_unread_plain hc hb]
    simpa using hrec

/-- A read that fails to decode fails as the receipt one by one, which leaves the bytes behind a
damaged pair.

**Proof sketch.** Induction on the raw bytes, as for a read that succeeds. At a damaged pair the
bytes behind it are still put back, and these are the bytes that the read has lost. -/
lemma receiveEach_of_decodeRead_error {done raw : List UInt8} {e : FrameError} {n : Nat}
    (hc : p.cancelled = false) (hn : raw.length ≤ n)
    (h : decodeRead deadline done raw p = (.error e, q)) :
    ∃ lost, receiveEach deadline done n (p.unread raw) = (.error e, q.unread lost) ∧
      (lost = [] ∨ (∃ code, e = .invalidEscape code) ∧ lost.length + 2 ≤ raw.length) := by
  fun_induction decodeRead deadline done raw p generalizing n with
  | case1 done => cases h
  | case2 done e' q' hr =>
    obtain ⟨n, rfl⟩ : ∃ k, n = k + 1 := ⟨n - 1, by simp at hn; omega⟩
    refine ⟨[], ?_, .inl rfl⟩
    rw [receiveEach, readDatum_unread_escape hc, hr]
    exact h
  | case3 done code q' hr =>
    obtain ⟨hcode, rfl⟩ := Prod.mk.inj h
    obtain ⟨n, rfl⟩ : ∃ k, n = k + 1 := ⟨n - 1, by simp at hn; omega⟩
    cases hv : decodeCode code with
    | ok value => rw [hv] at hcode; cases hcode
    | error e' =>
      rw [hv] at hcode
      obtain rfl := Except.error.inj hcode
      refine ⟨[], ?_, .inl rfl⟩
      rw [receiveEach, readDatum_unread_escape hc, hr]
      simp [hv]
  | case4 done code raw value hv ih =>
    simp only [List.length_cons] at hn
    obtain ⟨n, rfl⟩ : ∃ k, n = k + 1 := ⟨n - 1, by omega⟩
    obtain ⟨lost, hrec, hlost⟩ := ih (n := n) (by omega) h
    have hlonger : raw.length ≤ (escape :: code :: raw).length := by simp; omega
    refine ⟨lost, ?_, hlost.imp_right fun h => ⟨h.1, Nat.le_trans h.2 hlonger⟩⟩
    rw [receiveEach, readDatum_unread_pair hc, hv]
    exact hrec
  | case5 done code raw e' he =>
    cases h
    simp only [List.length_cons] at hn
    obtain ⟨n, rfl⟩ : ∃ k, n = k + 1 := ⟨n - 1, by omega⟩
    refine ⟨raw, ?_, .inr ⟨?_, by simp⟩⟩
    · rw [receiveEach, readDatum_unread_pair hc, he]
    · exact decodeCode_eq_error he
  | case6 done b raw hb ih =>
    simp only [List.length_cons] at hn
    obtain ⟨n, rfl⟩ : ∃ k, n = k + 1 := ⟨n - 1, by omega⟩
    obtain ⟨lost, hrec, hlost⟩ := ih (n := n) (by omega) h
    have hlonger : raw.length ≤ (b :: raw).length := by simp
    refine ⟨lost, ?_, hlost.imp_right fun h => ⟨h.1, Nat.le_trans h.2 hlonger⟩⟩
    rw [receiveEach, readDatum_unread_plain hc hb]
    exact hrec

/-! ## A given number of bytes -/

/-- Receiving data begins with the reading of one byte, and the link matters only through that. -/
lemma receiveEach_congr {done : List UInt8} {n : Nat} (hn : 0 < n)
    (h : readByte deadline p = readByte deadline q) :
    receiveEach deadline done n p = receiveEach deadline done n q := by
  obtain ⟨n, rfl⟩ : ∃ k, n = k + 1 := ⟨n - 1, by omega⟩
  rw [receiveEach, receiveEach]
  unfold readDatum
  rw [h]

/-- Bytes taken by one read are received one by one as if they had been put back. -/
lemma receiveEach_of_readAvailable (done : List UInt8) {raw : List UInt8} {n m : Nat}
    (hn : 0 < n) (hm : 0 < m)
    (h : Link.readAvailable n deadline p = (.ok raw, q)) :
    q.cancelled = false ∧ raw.length ≤ p.readChunk ∧
      receiveEach deadline done m p = receiveEach deadline done m (q.unread raw) := by
  obtain ⟨b, bs, rfl, hle, hread, hc⟩ := readByte_of_readAvailable hn h
  refine ⟨hc, hle, receiveEach_congr hm ?_⟩
  rw [hread, readByte_unread_cons hc]

/-- **Data that is received is received one by one as well,** and the link is left the same.

**Proof sketch.** Induction on the reads. The bytes of a read are received one by one as if they had
been put back, and this ends where the next read starts. -/
theorem receiveEach_of_receiveFrom {done bytes : List UInt8} {n : Nat}
    (h : receiveFrom done n deadline p = (.ok bytes, q)) :
    receiveEach deadline done n p = (.ok bytes, q) := by
  fun_induction receiveFrom done n deadline p with
  | case1 done n p hn e q' hq => cases h
  | case2 done n p hn new q' hq ih =>
    unfold receiveSome at hq
    split at hq
    · cases hq
    next raw p₁ hread =>
    obtain ⟨hc, -, hput⟩ := receiveEach_of_readAvailable done hn hn hread
    have hdec : decodeRead deadline done raw p₁ = (.ok (done.reverse ++ new), q') := by
      rw [decodeRead_eq, hq]
      rfl
    obtain ⟨new', hnew, -, hrec⟩ := receiveEach_of_decodeRead hc (length_le_of_read hread) hdec
    obtain rfl := List.append_cancel_left hnew
    rw [hput, hrec]
    simpa using ih h
  | case3 done n p hn =>
    obtain rfl : n = 0 := by omega
    rw [receiveEach]
    exact h

/-- **A receipt that fails fails one by one as well.** The link is left the same, but for bytes
that were read together with a damaged pair and stood behind it.

**Proof sketch.** Induction on the reads. Only the last one fails, and what it loses was read
together with the damaged pair, so it is shorter than a read by the pair. -/
theorem receiveEach_of_receiveFrom_error {done : List UInt8} {n : Nat} {e : FrameError}
    (h : receiveFrom done n deadline p = (.error e, q)) :
    ∃ lost, receiveEach deadline done n p = (.error e, q.unread lost) ∧
      (lost = [] ∨ (∃ code, e = .invalidEscape code) ∧ lost.length + 2 ≤ min n p.readChunk) := by
  fun_induction receiveFrom done n deadline p with
  | case1 done n p hn e q' hq =>
    cases h
    unfold receiveSome at hq
    split at hq
    · next e' q' hread =>
      cases hq
      have hbyte := readByte_of_readAvailable_error hn hread
      obtain ⟨n, rfl⟩ : ∃ k, n = k + 1 := ⟨n - 1, by omega⟩
      refine ⟨[], ?_, .inl rfl⟩
      rw [receiveEach]
      unfold readDatum
      rw [hbyte]
      rfl
    · next raw p₁ hread =>
      obtain ⟨hc, hle, hput⟩ := receiveEach_of_readAvailable done hn hn hread
      have hlen := length_le_of_read hread
      have hdec : decodeRead deadline done raw p₁ = (.error e, q) := by
        rw [decodeRead_eq, hq]
        rfl
      obtain ⟨lost, hrec, hlost⟩ := receiveEach_of_decodeRead_error hc hlen hdec
      have hread : raw.length ≤ min n p.readChunk := Nat.le_min.mpr ⟨hlen, hle⟩
      exact ⟨lost, hput.trans hrec, hlost.imp_right fun h => ⟨h.1, Nat.le_trans h.2 hread⟩⟩
  | case2 done n p hn new q' hq ih =>
    obtain ⟨lost, hrec, hlost⟩ := ih h
    have hchunk := ((chains_keepsSettings deadline).receiveSome hq).readChunk
    unfold receiveSome at hq
    split at hq
    · cases hq
    next raw p₁ hread =>
    obtain ⟨hc, -, hput⟩ := receiveEach_of_readAvailable done hn hn hread
    have hdec : decodeRead deadline done raw p₁ = (.ok (done.reverse ++ new), q') := by
      rw [decodeRead_eq, hq]
      rfl
    obtain ⟨new', hnew, -, hstep⟩ := receiveEach_of_decodeRead hc (length_le_of_read hread) hdec
    obtain rfl := List.append_cancel_left hnew
    have hless : min (n - new.length) q'.readChunk ≤ min n p.readChunk := by omega
    refine ⟨lost, ?_, hlost.imp_right fun h => ⟨h.1, Nat.le_trans h.2 hless⟩⟩
    rw [hput, hstep]
    simpa using hrec
  | case3 done n p hn => cases h

/-- Data that is received one by one is received in larger reads as well. -/
theorem receiveFrom_of_receiveEach {done bytes : List UInt8} {n : Nat}
    (h : receiveEach deadline done n p = (.ok bytes, q)) :
    receiveFrom done n deadline p = (.ok bytes, q) := by
  rcases hr : receiveFrom done n deadline p with ⟨e | bytes', q'⟩
  · obtain ⟨lost, he, -⟩ := receiveEach_of_receiveFrom_error hr
    rw [h] at he
    cases he
  · rw [← h, receiveEach_of_receiveFrom hr]

/-! ## Links that hand out single bytes -/

/-- The read chunk does not matter to the reading of a single byte of data. -/
lemma readDatum_setReadChunk (deadline : Deadline) (p : MemoryLink) (c : Nat) :
    readDatum deadline (p.setReadChunk c) =
      ((readDatum deadline p).1, (readDatum deadline p).2.setReadChunk c) := by
  unfold readDatum
  rw [readByte_setReadChunk]
  rcases readByte deadline p with ⟨e | b, q⟩
  · rfl
  dsimp only
  by_cases hb : b = escape
  · simp only [if_pos hb]
    rw [readByte_setReadChunk]
    rcases readByte deadline q with ⟨e | code, q'⟩ <;> rfl
  · simp only [if_neg hb]

/-- The read chunk does not matter to data received one by one. -/
theorem receiveEach_setReadChunk (deadline : Deadline) (done : List UInt8) (n : Nat)
    (p : MemoryLink) (c : Nat) :
    receiveEach deadline done n (p.setReadChunk c) =
      ((receiveEach deadline done n p).1, (receiveEach deadline done n p).2.setReadChunk c) := by
  induction n generalizing done p with
  | zero => rfl
  | succ n ih =>
    rw [receiveEach, receiveEach, readDatum_setReadChunk]
    rcases readDatum deadline p with ⟨e | value, q⟩
    · rfl
    · exact ih (value :: done) q

/-- A link that hands out single bytes is read one by one. -/
lemma receiveStuffed_setReadChunk_one (n : Nat) (deadline : Deadline) (p : MemoryLink) :
    receiveStuffed n deadline (p.setReadChunk 1) =
      ((receiveEach deadline [] n p).1, (receiveEach deadline [] n p).2.setReadChunk 1) := by
  rw [← receiveEach_setReadChunk]
  rcases hr : receiveStuffed n deadline (p.setReadChunk 1) with ⟨e | bytes, q⟩
  · obtain ⟨lost, he, rfl | ⟨-, hl⟩⟩ := receiveEach_of_receiveFrom_error hr
    · rw [he, unread_nil]
    · have : (p.setReadChunk 1).readChunk = 1 := rfl
      omega
  · exact (receiveEach_of_receiveFrom hr).symm

/-- What is received by reads of any size is received byte by byte. -/
lemma receiveStuffed_one_of_receiveFrom {bytes : List UInt8} {n : Nat}
    (h : receiveFrom [] n deadline p = (.ok bytes, q)) :
    receiveStuffed n deadline (p.setReadChunk 1) = (.ok bytes, q.setReadChunk 1) := by
  rw [receiveStuffed_setReadChunk_one, receiveEach_of_receiveFrom h]

/-- **An attempt takes the course that it takes on a link that hands out single bytes.** Only
an attempt that fails on a damaged pair may take more bytes from the link: those that were read
together with the pair.

**Proof sketch.** One case for each course of an attempt. A receipt that succeeds is the same byte
by byte, and one that fails has lost no more than the bytes behind a damaged pair. -/
theorem attempt_setReadChunk_one {expect : Expectation} {r : Except DeviceError Verdict}
    (h : attempt expect deadline p = (r, q)) :
    ∃ lost, attempt expect deadline (p.setReadChunk 1) = (r, (q.unread lost).setReadChunk 1) ∧
      (lost = [] ∨ (∃ code, r = .ok (.rejected (.malformed (.invalidEscape code)))) ∧
        lost.length + 2 ≤ p.readChunk) := by
  have hone := receiveStuffed_setReadChunk_one
  cases attempt_iff.mp h with
  | headerFailed header =>
    obtain ⟨lost, he, hlost⟩ := receiveEach_of_receiveFrom_error header
    refine ⟨lost, attempt_iff.mpr (.headerFailed ?_), hlost.imp_right ?_⟩
    · rw [hone, he]
    · rintro ⟨⟨code, rfl⟩, hl⟩
      exact ⟨⟨code, rfl⟩, by omega⟩
  | undersized header announced =>
    have hheader := receiveStuffed_one_of_receiveFrom header
    exact ⟨[], attempt_iff.mpr (.undersized hheader announced), .inl rfl⟩
  | oversized header announced exceeds =>
    have hheader := receiveStuffed_one_of_receiveFrom header
    exact ⟨[], attempt_iff.mpr (.oversized hheader announced exceeds), .inl rfl⟩
  | payloadFailed header announced fits payload =>
    have hchunk := ((chains_keepsSettings deadline).receiveFrom header).readChunk
    have hheader := receiveStuffed_one_of_receiveFrom header
    obtain ⟨lost, he, hlost⟩ := receiveEach_of_receiveFrom_error payload
    refine ⟨lost, attempt_iff.mpr (.payloadFailed hheader announced fits ?_), hlost.imp_right ?_⟩
    · rw [hone, he]
    · rintro ⟨⟨code, rfl⟩, hl⟩
      exact ⟨⟨code, rfl⟩, by omega⟩
  | judged header announced fits received =>
    have hheader := receiveStuffed_one_of_receiveFrom header
    have hpayload := receiveStuffed_one_of_receiveFrom received
    exact ⟨[], attempt_iff.mpr (.judged hheader announced fits hpayload), .inl rfl⟩

end MemoryLink

end FramedLink
