import FramedLink.Proofs.Exhaustion
import FramedLink.Proofs.Segmentation

set_option autoImplicit false
set_option relaxedAutoImplicit false

/-!
# Read chunks that can be told apart

A wait asks its link for at most a header or the largest payload that it reads at all. A larger
read chunk is never used up. A read chunk of one byte acts like one of two bytes, since a damaged
pair is all that two bytes can hold. **Any other two read chunks can be told apart** by a wait
that some frame can end: a damaged pair is placed at the end of the smaller one, so that the
larger one loses the marker behind the pair.

## Main definitions

* `FramedLink.Expectation.readLimit` — the most bytes that a wait asks for at once.
* `FramedLink.Expectation.reach` — how far a read reaches.
* `FramedLink.MemoryLink.Rechunked` — a link with another read chunk that leaves the longest
  reads as they are.
* `FramedLink.MemoryLink.Asks` — how much data an attempt asks for, and where.
* `FramedLink.Device.SameEnd` — two waits end with the same result and at the same instant.

## Main results

* `FramedLink.MemoryLink.agree_of_reach_eq` — read chunks of the same reach make no difference.
* `FramedLink.MemoryLink.exists_not_agree` — read chunks of different reach make one.
* `FramedLink.Device.waitFor_setReadChunk` — when the read chunk makes no difference to a wait of
  a device.
-/

namespace FramedLink

/-! ## How much is read at once -/

/-- The most bytes that a wait asks for at once: a header or the largest payload. -/
def Expectation.readLimit (expect : Expectation) : Nat :=
  max headerSize (min expect.maxPayloadSize maxPayload)

/-- How far a read reaches on a link with the read chunk `c`. Reads of one byte count as reads of
two, since a pair is always read to its end. -/
def Expectation.reach (expect : Expectation) (c : Nat) : Nat := max 2 (min c expect.readLimit)

/-- No header announces more than fits into its length field. -/
lemma FrameHeader.payloadLength_le {header : FrameHeader} {size : Nat}
    (h : header.payloadLength = some size) : size ≤ maxPayload := by
  unfold payloadLength at h
  split at h
  · have hlength := header.length.toNat_lt
    obtain rfl := Option.some.inj h
    unfold maxPayload
    omega
  · cases h

namespace MemoryLink

open Link Stuffing

variable {expect : Expectation} {deadline : Deadline} {p q : MemoryLink} {c n : Nat}

/-! ## Read chunks that are never exhausted -/

/-- A read does not depend on the read chunk where that leaves its size as it is. -/
lemma readAvailable_setReadChunk (h : min n (p.setReadChunk c).readChunk = min n p.readChunk) :
    Link.readAvailable n deadline (p.setReadChunk c) =
      ((Link.readAvailable n deadline p).1,
        (Link.readAvailable n deadline p).2.setReadChunk c) := by
  rcases Nat.eq_zero_or_pos n with rfl | hn
  · rw [readAvailable_zero, readAvailable_zero]
  rcases Bool.eq_false_or_eq_true p.cancelled with hc | hc
  · rw [readAvailable_cancelled (p := p.setReadChunk c) hn hc, readAvailable_cancelled hn hc]
  rcases hs : settle deadline p.clock p.inbound with ⟨e | _, clock, inbound⟩
  · rw [readAvailable_of_settle_error (p := p.setReadChunk c) hn hc hs,
      readAvailable_of_settle_error hn hc hs]
    rfl
  · rw [readAvailable_of_settle_ok (p := p.setReadChunk c) hn hc hs,
      readAvailable_of_settle_ok hn hc hs, h]
    rfl

/-- The read chunk does not matter to decoding, which reads single bytes.

**Proof sketch.** Induction on the raw bytes. Only at the end of the read can a byte be fetched, and
that byte is the same whatever the read chunk. -/
lemma decodeRead_setReadChunk (done raw : List UInt8) (c : Nat) :
    decodeRead deadline done raw (p.setReadChunk c) =
      ((decodeRead deadline done raw p).1, (decodeRead deadline done raw p).2.setReadChunk c) := by
  fun_induction decodeRead deadline done raw p with
  | case1 done => rfl
  | case2 done e q hq => simp [decodeRead, readByte_setReadChunk, hq]
  | case3 done code q hq => simp [decodeRead, readByte_setReadChunk, hq]
  | case4 done code raw value hv ih => simpa [decodeRead, hv] using ih
  | case5 done code raw e he => simp [decodeRead, he]
  | case6 done b raw hb ih =>
    rw [decodeRead.eq_def]
    simpa [hb] using ih

/-- It does not matter to a read that it does not cut short. -/
lemma receiveSome_setReadChunk (deadline : Deadline)
    (h : min n (p.setReadChunk c).readChunk = min n p.readChunk) :
    receiveSome n deadline (p.setReadChunk c) =
      ((receiveSome n deadline p).1, (receiveSome n deadline p).2.setReadChunk c) := by
  unfold receiveSome
  rw [readAvailable_setReadChunk h]
  rcases Link.readAvailable n deadline p with ⟨e | raw, q⟩
  · rfl
  · exact decodeRead_setReadChunk [] raw c

/-- Receiving data does not depend on the read chunk where that leaves all reads as they are.

**Proof sketch.** Induction on the reads. The first of them is the same on both links and leaves the
read chunk as it is, so the condition still holds for the smaller reads that follow. -/
lemma receiveFrom_setReadChunk {done : List UInt8}
    (h : ∀ m ≤ n, min m (p.setReadChunk c).readChunk = min m p.readChunk) :
    receiveFrom done n deadline (p.setReadChunk c) =
      ((receiveFrom done n deadline p).1, (receiveFrom done n deadline p).2.setReadChunk c) := by
  fun_induction receiveFrom done n deadline p with
  | case1 done n p hn e q hq =>
    have hsome := receiveSome_setReadChunk deadline (h n (Nat.le_refl n))
    rw [hq] at hsome
    rw [receiveFrom_of_receiveSome_error hn hsome]
  | case2 done n p hn bytes q hq ih =>
    have hsome := receiveSome_setReadChunk deadline (h n (Nat.le_refl n))
    rw [hq] at hsome
    have hchunk := ((chains_keepsSettings deadline).receiveSome hq).readChunk
    rw [receiveFrom_of_receiveSome hn hsome]
    apply ih
    intro m hm
    rw [hchunk]
    exact h m (by omega)
  | case3 done n p hn => rw [receiveFrom, dif_neg hn]

/-- A receipt within the limit does not depend on the read chunk where that leaves the longest
reads as they are. -/
lemma receiveStuffed_setReadChunk {r : Except FrameError (List UInt8)}
    (hn : n ≤ expect.readLimit)
    (h : min expect.readLimit (p.setReadChunk c).readChunk = min expect.readLimit p.readChunk)
    (hr : receiveStuffed n deadline p = (r, q)) :
    receiveStuffed n deadline (p.setReadChunk c) = (r, q.setReadChunk c) := by
  have hchunks : ∀ m ≤ n, min m (p.setReadChunk c).readChunk = min m p.readChunk := by
    intro m hm
    omega
  rw [receiveStuffed] at hr ⊢
  rw [receiveFrom_setReadChunk hchunks, hr]

/-- An attempt does not depend on the read chunk where that leaves the longest reads as they are.

**Proof sketch.** An attempt receives a header, and a payload only if that is within the limit.
Neither of them is longer than the longest read, so both are received alike, and the attempt takes
the same course. -/
lemma attempt_setReadChunk {r : Except DeviceError Verdict}
    (h : min expect.readLimit (p.setReadChunk c).readChunk = min expect.readLimit p.readChunk)
    (htried : attempt expect deadline p = (r, q)) :
    attempt expect deadline (p.setReadChunk c) = (r, q.setReadChunk c) := by
  have hheader : headerSize ≤ expect.readLimit := Nat.le_max_left _ _
  have hpayload (raw : List UInt8) (size : Nat)
      (announced : (FrameHeader.ofBytes raw).payloadLength = some size)
      (fits : size ≤ expect.maxPayloadSize) : size ≤ expect.readLimit := by
    have hmax := FrameHeader.payloadLength_le announced
    unfold Expectation.readLimit
    omega
  cases attempt_iff.mp htried with
  | headerFailed header =>
    exact attempt_iff.mpr (.headerFailed (receiveStuffed_setReadChunk hheader h header))
  | undersized header announced =>
    exact attempt_iff.mpr (.undersized (receiveStuffed_setReadChunk hheader h header) announced)
  | oversized header announced exceeds =>
    exact attempt_iff.mpr
      (.oversized (receiveStuffed_setReadChunk hheader h header) announced exceeds)
  | payloadFailed header announced fits payload =>
    have hchunk := ((chains_keepsSettings deadline).receiveFrom header).readChunk
    exact attempt_iff.mpr (.payloadFailed (receiveStuffed_setReadChunk hheader h header) announced
      fits (receiveStuffed_setReadChunk (hpayload _ _ announced fits) (hchunk ▸ h) payload))
  | judged header announced fits received =>
    have hchunk := ((chains_keepsSettings deadline).receiveFrom header).readChunk
    exact attempt_iff.mpr (.judged (receiveStuffed_setReadChunk hheader h header) announced fits
      (receiveStuffed_setReadChunk (hpayload _ _ announced fits) (hchunk ▸ h) received))

/-- `q` is `p` with the read chunk `c`, which leaves the longest reads of a wait as they are. -/
def Rechunked (expect : Expectation) (c : Nat) (p q : MemoryLink) : Prop :=
  min expect.readLimit (p.setReadChunk c).readChunk = min expect.readLimit p.readChunk ∧
    q = p.setReadChunk c

/-- Two links that differ in the read chunk only still do so after the same reads. -/
lemma Rechunked.of_keepsSettings {p' : MemoryLink} (h : Rechunked expect c p q)
    (hkeeps : KeepsSettings p p') : Rechunked expect c p' (p'.setReadChunk c) := by
  refine ⟨?_, rfl⟩
  rw [hkeeps.readChunk]
  exact h.1

/-- **A wait is mirrored with every read chunk that leaves the longest reads as they are.** -/
theorem mirrors_rechunked (expect : Expectation) (deadline : Deadline) (c : Nat) :
    Mirrors expect deadline (Rechunked expect c) (Rechunked expect c) where
  clock := by
    rintro p q ⟨-, rfl⟩
    rfl
  found := by
    rintro p q p' r h - hfound
    have hback := h.of_keepsSettings ((chains_keepsSettings deadline).waitForByte hfound)
    refine ⟨p'.setReadChunk c, ?_, rfl, fun _ => hback⟩
    rw [h.2, waitForByte_setReadChunk, hfound]
  tried := by
    rintro p q p' r h htried
    have hback := h.of_keepsSettings ((chains_keepsSettings deadline).attempt htried)
    refine ⟨p'.setReadChunk c, ?_, rfl, fun _ _ => hback⟩
    rw [h.2, attempt_setReadChunk h.1 htried]

/-- **Read chunks of the same reach make no difference.**

**Proof sketch.** If both read chunks are at most two, neither wait loses a marker behind a damaged
pair, and such waits agree. Otherwise both chunks cut the longest reads at the same size, and the
one wait mirrors the other. -/
theorem agree_of_reach_eq (deadline : Deadline) (p : MemoryLink) {c₁ c₂ : Nat}
    (h : expect.reach c₁ = expect.reach c₂) :
    Agree (awaitReply expect deadline (p.setReadChunk c₁))
      (awaitReply expect deadline (p.setReadChunk c₂)) := by
  have hlimit : headerSize ≤ expect.readLimit := Nat.le_max_left _ _
  unfold Expectation.reach headerSize at *
  by_cases hsmall : c₁ ≤ 2 ∧ c₂ ≤ 2
  · refine agree_of_keepsMarkers (keepsMarkers_of_le_two ?_) (keepsMarkers_of_le_two ?_)
    · show max c₁ 1 ≤ 2
      omega
    · show max c₂ 1 ≤ 2
      omega
  · have hmin : min expect.readLimit (max c₁ 1) = min expect.readLimit (max c₂ 1) := by omega
    exact (mirrors_rechunked expect deadline c₁).agree ⟨hmin, rfl⟩

/-! ## A damaged frame in front of another -/

/-- A byte that completes no pair. -/
def badCode : UInt8 := 0x42

/-- Decoding a read stops at the damaged pair.

**Proof sketch.** Induction on the number of plain bytes in front of the pair. -/
lemma decodeRead_damaged (done : List UInt8) (z : Nat) (rest : List UInt8) :
    decodeRead deadline done (List.replicate z 0 ++ escape :: badCode :: rest) p =
      (.error (.invalidEscape badCode), p) := by
  induction z generalizing done with
  | zero => rfl
  | succ z ih =>
    rw [List.replicate_succ, List.cons_append, decodeRead.eq_def]
    exact ih (0 :: done)

/-- A receipt whose first read covers a damaged pair loses the rest of that read.

**Proof sketch.** Cut the pending bytes where the read ends. It takes the plain bytes, the pair and
`extra` bytes of the rest, and its decoding stops at the pair. What the link still holds is the rest
without these `extra` bytes. -/
lemma HoldsBytes.receiveStuffed_damaged {z : Nat} {rest : List UInt8} (h : p.HoldsBytes)
    (deadline : Deadline)
    (hpending : p.pendingBytes = List.replicate z 0 ++ escape :: badCode :: rest)
    (hz : z + 2 ≤ min n p.readChunk) :
    receiveStuffed n deadline p = (.error (.invalidEscape badCode),
      { p with inbound := (rest.drop (min n p.readChunk - (z + 2))).map .byte }) := by
  have hn : 0 < n := by omega
  have hread := h.readAvailable deadline hn (by rw [hpending]; simp)
  -- The read ends behind the pair, `extra` bytes into the rest.
  obtain ⟨extra, hextra⟩ : ∃ extra, min n p.readChunk = z + 2 + extra :=
    ⟨min n p.readChunk - (z + 2), by omega⟩
  have hbehind : z + 2 + extra - z = extra + 2 := by omega
  have htake : p.pendingBytes.take (min n p.readChunk) =
      List.replicate z 0 ++ escape :: badCode :: rest.take extra := by
    rw [hpending, hextra, List.take_append, List.length_replicate,
      List.take_of_length_le (by rw [List.length_replicate]; omega), hbehind]
    rfl
  have hdrop : p.pendingBytes.drop (min n p.readChunk) = rest.drop extra := by
    rw [hpending, hextra, List.drop_append, List.length_replicate,
      List.drop_of_length_le (by rw [List.length_replicate]; omega), hbehind]
    rfl
  have hsome : receiveSome n deadline p = (.error (.invalidEscape badCode),
      { p with inbound := (rest.drop extra).map .byte }) := by
    unfold receiveSome
    rw [hread, htake, hdrop]
    exact decodeRead_damaged [] z _
  rw [receiveStuffed, receiveFrom_of_receiveSome_error hn hsome, hextra, Nat.add_sub_cancel_left]

/-- `Asks expect head n`: behind the complete data `head`, an attempt asks for `n` bytes of data.
-/
inductive Asks (expect : Expectation) : List UInt8 → Nat → Prop
  /-- An attempt starts with the header. -/
  | header : Asks expect [] headerSize
  /-- The payload follows a header that announces it. -/
  | payload {raw : List UInt8} {size : Nat} (length_raw : raw.length = headerSize)
      (announced : (FrameHeader.ofBytes raw).payloadLength = some size)
      (fits : size ≤ expect.maxPayloadSize) : Asks expect raw size

/-- An attempt that asks for data in which a pair is damaged is rejected, and loses the rest of
the read that covers the pair.

**Proof sketch.** The data that is asked for is the header or the payload. In the first case the
receipt of the header meets the pair; in the second, the header arrives in full, and the receipt of
the payload meets it. -/
lemma HoldsBytes.attempt_damaged {head rest : List UInt8} {z : Nat} (h : p.HoldsBytes)
    (hlive : ¬ deadline.expired (Link.now p) = true) (hasks : Asks expect head n)
    (hpending : p.pendingBytes =
      encode head ++ (List.replicate z 0 ++ escape :: badCode :: rest))
    (hz : z + 2 ≤ min n p.readChunk) :
    ∃ q, attempt expect deadline p =
        (.ok (.rejected (.malformed (.invalidEscape badCode))), q) ∧ q.HoldsBytes ∧
      q.pendingBytes = rest.drop (min n p.readChunk - (z + 2)) ∧
      ¬ deadline.expired (Link.now q) = true := by
  have hleft (q : MemoryLink) (bytes : List UInt8) :
      ({ q with inbound := bytes.map .byte } : MemoryLink).pendingBytes = bytes :=
    filterMap_map_byte bytes
  cases hasks with
  | header =>
    have hheader := h.receiveStuffed_damaged deadline hpending hz
    exact ⟨_, attempt_iff.mpr (.headerFailed hheader), holdsBytes_map h.active _, hleft p _, hlive⟩
  | payload length_raw announced fits =>
    have harriving := h.arriving hlive
    rw [hpending] at harriving
    obtain ⟨q, hq, harriving'⟩ := harriving.receiveStuffed length_raw
    have hholds := ((HoldsBytes.chains deadline).receiveFrom hq h).1
    have hchunk := ((chains_keepsSettings deadline).receiveFrom hq).readChunk
    have hqpending := harriving'.pendingBytes_eq_of_nil
    rw [← hchunk] at hz ⊢
    have hpayload := hholds.receiveStuffed_damaged deadline hqpending hz
    exact ⟨_, attempt_iff.mpr (.payloadFailed hq announced fits hpayload),
      holdsBytes_map hholds.active _, hleft q _, harriving'.not_expired⟩

/-! ## Waits that tell two read chunks apart -/

/-- A wait finds the frame behind a damaged one exactly if the read that covers the damaged pair
ends with the pair.

**Proof sketch.** The search finds the first marker, and the attempt behind it is rejected. If its
read has ended with the pair, the frame is left as it is and is found. If not, the read has taken
the marker of the frame along; no other marker stands in a stuffed form, and the wait times out. -/
lemma HoldsBytes.awaitReply_damaged {head raw payload : List UInt8} {z : Nat} (h : p.HoldsBytes)
    (hlive : ¬ deadline.expired (Link.now p) = true) (hasks : Asks expect head n)
    (hpending : p.pendingBytes = marker :: (encode head ++ (List.replicate z 0 ++
      escape :: badCode :: wireBytes raw payload)))
    (hz : z + 2 ≤ min n p.readChunk) (hmeets : expect.Meets raw payload) :
    (∃ reply, (awaitReply expect deadline p).result = .ok (.matched reply)) ↔
      min n p.readChunk = z + 2 := by
  have harriving := h.arriving hlive
  rw [hpending, ← List.nil_append (marker :: _)] at harriving
  obtain ⟨q, hfound, hq⟩ := harriving.waitForByte List.not_mem_nil
  have hchunk := ((chains_keepsSettings deadline).waitForByte hfound).readChunk
  have hqpending := hq.pendingBytes_eq_of_nil
  have hholds := ((HoldsBytes.chains deadline).waitForByte hfound h).1
  obtain ⟨q', htried, hholds', hpending', hlive'⟩ :=
    hholds.attempt_damaged hq.not_expired hasks hqpending (hchunk ▸ hz)
  rw [awaitReply_marked _ hlive hfound, htried]
  rw [hchunk] at hpending'
  by_cases hexact : min n p.readChunk = z + 2
  · -- The frame is left as it is, and found.
    have hall := hholds'.arriving hlive'
    rw [hpending', hexact, Nat.sub_self, List.drop_zero, ← List.append_nil (wireBytes raw payload),
      ← List.nil_append (wireBytes raw payload)] at hall
    have hresult := (hall.awaitReply (.noise List.not_mem_nil) hmeets).1
    exact iff_of_true ⟨_, hresult⟩ hexact
  · -- The marker of the frame is gone.
    obtain ⟨extra, hextra⟩ : ∃ extra, min n p.readChunk - (z + 2) = extra + 1 :=
      ⟨min n p.readChunk - (z + 2) - 1, by omega⟩
    have hmem : marker ∉ q'.pendingBytes := by
      rw [hpending', hextra, wireBytes, List.drop_succ_cons]
      exact fun hm => marker_not_mem_encode _ (List.mem_of_mem_drop hm)
    have hresult : (awaitReply expect deadline q').result = .ok .timedOut :=
      hholds'.awaitReply_of_not_mem hmem
    refine iff_of_false ?_ hexact
    rintro ⟨reply, hreply⟩
    rw [hresult] at hreply
    cases hreply

/-- The header of a frame with a payload of `size` bytes, all other fields zero. -/
def announce (size : Nat) : List UInt8 :=
  leBytes (UInt16.ofNat (headerSize + size)) ++ [0, 0, 0, 0, 0, 0]

/-- A header that announces so many bytes of payload. -/
lemma payloadLength_announce {size : Nat} (hsize : size ≤ maxPayload) :
    (FrameHeader.ofBytes (announce size)).payloadLength = some size := by
  have hlength : (FrameHeader.ofBytes (announce size)).length =
      UInt16.ofNat (headerSize + size) := leValue_leBytes _
  unfold maxPayload headerSize at hsize
  have hvalue : (UInt16.ofNat (headerSize + size)).toNat = headerSize + size := by
    rw [UInt16.toNat_ofNat']
    unfold headerSize
    omega
  rw [FrameHeader.payloadLength, hlength, hvalue, if_pos (Nat.le_add_right _ _),
    Nat.add_sub_cancel_left]

/-- An attempt can be brought to ask for more than `size` bytes, unless that is over the limit. -/
lemma exists_asks {size : Nat} (hsize : size < expect.readLimit) :
    ∃ head n, Asks expect head n ∧ size < n := by
  by_cases hheader : size < headerSize
  · exact ⟨[], headerSize, .header, hheader⟩
  · unfold Expectation.readLimit at hsize
    have hpayload : size + 1 ≤ maxPayload := by omega
    exact ⟨announce (size + 1), size + 1,
      .payload rfl (payloadLength_announce hpayload) (by omega), Nat.lt_succ_self size⟩

/-- **Read chunks of different reach make a difference** to a wait that some frame can end: there
is a queue on which the wait ends with a reply for the one of them and times out for the other.

**Proof sketch.** The queue holds a damaged frame and one that passes all checks. The damaged
pair is placed so that the smaller reach ends with it, while the larger one takes the next marker
along. -/
lemma exists_not_agree (deadline : Deadline) {c₁ c₂ : Nat} {raw payload : List UInt8}
    (hmeets : expect.Meets raw payload) (h : expect.reach c₁ < expect.reach c₂) :
    ∃ bytes : List UInt8, ∀ p : MemoryLink, p.cancelled = false → p.inbound = bytes.map .byte →
      ¬ deadline.expired (Link.now p) = true →
      (awaitReply expect deadline (p.setReadChunk c₁)).result ≠
        (awaitReply expect deadline (p.setReadChunk c₂)).result := by
  obtain ⟨z, hz⟩ : ∃ z, expect.reach c₁ = z + 2 :=
    ⟨expect.reach c₁ - 2, by unfold Expectation.reach; omega⟩
  have hlimit : z + 2 < expect.readLimit := by
    unfold Expectation.reach at h hz
    omega
  obtain ⟨head, n, hasks, hn⟩ := exists_asks hlimit
  refine ⟨marker :: (encode head ++ (List.replicate z 0 ++
    escape :: badCode :: wireBytes raw payload)), ?_⟩
  intro p hactive hqueue hlive hsame
  have hpending : p.pendingBytes = marker :: (encode head ++ (List.replicate z 0 ++
      escape :: badCode :: wireBytes raw payload)) := by
    rw [pendingBytes, hqueue, filterMap_map_byte]
  have hholds (c : Nat) : (p.setReadChunk c).HoldsBytes := ⟨hactive, by
    show p.inbound = p.pendingBytes.map .byte
    rw [hpending, hqueue]⟩
  -- The smaller read chunk acts like the one that ends with the damaged pair.
  have hreach : expect.reach c₁ = expect.reach (z + 2) := by
    rw [hz]
    unfold Expectation.reach
    omega
  have hagree : Agree (awaitReply expect deadline (p.setReadChunk c₁))
      (awaitReply expect deadline (p.setReadChunk (z + 2))) := agree_of_reach_eq deadline p hreach
  have hchunk₁ : min n (p.setReadChunk (z + 2)).readChunk = z + 2 := by
    show min n (max (z + 2) 1) = z + 2
    omega
  have hchunk₂ : z + 2 < min n (p.setReadChunk c₂).readChunk := by
    show z + 2 < min n (max c₂ 1)
    unfold Expectation.reach at h hz
    omega
  have hfirst := ((hholds (z + 2)).awaitReply_damaged hlive hasks hpending (by omega) hmeets).mpr
    hchunk₁
  have hsecond := ((hholds c₂).awaitReply_damaged hlive hasks hpending (by omega) hmeets).mp
  rw [← hagree.result, hsame] at hfirst
  have := hsecond hfirst
  omega

/-- A wait that nothing can end comes to the same whatever the read chunk. -/
lemma awaitReply_setReadChunk_of_not_meets (deadline : Deadline) (p : MemoryLink)
    (hmeets : ∀ raw payload, ¬ expect.Meets raw payload)
    (c : Nat) :
    (awaitReply expect deadline (p.setReadChunk c)).result =
        (awaitReply expect deadline p).result ∧
      (awaitReply expect deadline (p.setReadChunk c)).link.clock =
        (awaitReply expect deadline p).link.clock := by
  by_cases hlive : deadline.expired (Link.now p) = true
  · rw [awaitReply_expired p hlive, awaitReply_expired (p.setReadChunk c) hlive]
    exact ⟨rfl, rfl⟩
  · obtain ⟨hresult, hclock⟩ := awaitReply_of_not_meets hmeets hlive
    obtain ⟨hresult', hclock'⟩ := awaitReply_of_not_meets (p := p.setReadChunk c) hmeets hlive
    rw [exhaust_setReadChunk] at hresult' hclock'
    exact ⟨hresult'.trans hresult.symm, hclock'.trans hclock.symm⟩

end MemoryLink

/-! ## Devices -/

namespace Device

/-- Limit how many bytes a single read of the link returns. -/
def setReadChunk (c : Nat) (d : Device MemoryLink) : Device MemoryLink :=
  { d with link := d.link.setReadChunk c }

/-- Two waits end with the same result and at the same instant. -/
def SameEnd (r s : Run MemoryLink WaitOutcome) : Prop :=
  r.result = s.result ∧ r.device.link.clock = s.device.link.clock

/-- Waits of a device end alike if the waits on its link do. -/
lemma sameEnd_iff {d : Device MemoryLink} {sequence : UInt16} {types : List MessageType}
    {timeout c₁ c₂ : Nat} :
    SameEnd ((d.setReadChunk c₁).waitFor sequence types timeout)
        ((d.setReadChunk c₂).waitFor sequence types timeout) ↔
      (Link.awaitReply ⟨sequence, types, d.config.maxPayloadSize⟩ (d.deadlineAfter timeout)
          (d.link.setReadChunk c₁)).result =
        (Link.awaitReply ⟨sequence, types, d.config.maxPayloadSize⟩ (d.deadlineAfter timeout)
          (d.link.setReadChunk c₂)).result ∧
      (Link.awaitReply ⟨sequence, types, d.config.maxPayloadSize⟩ (d.deadlineAfter timeout)
          (d.link.setReadChunk c₁)).link.clock =
        (Link.awaitReply ⟨sequence, types, d.config.maxPayloadSize⟩ (d.deadlineAfter timeout)
          (d.link.setReadChunk c₂)).link.clock := by
  rw [SameEnd, waitFor_result, waitFor_result, waitFor_link, waitFor_link]
  exact Iff.rfl

/-- It does not matter which of two runs is named first. -/
lemma SameEnd.symm {r s : Run MemoryLink WaitOutcome} (h : SameEnd r s) : SameEnd s r :=
  ⟨h.1.symm, h.2.symm⟩

/-- Read chunks of different reach are told apart by a wait on some device. -/
lemma exists_not_sameEnd {expect : Expectation} {c₁ c₂ : Nat} {raw payload : List UInt8}
    (hmeets : expect.Meets raw payload) (h : expect.reach c₁ < expect.reach c₂) :
    ∃ (d : Device MemoryLink) (timeout : Nat), d.config.maxPayloadSize = expect.maxPayloadSize ∧
      ¬ SameEnd ((d.setReadChunk c₁).waitFor expect.sequence expect.types timeout)
        ((d.setReadChunk c₂).waitFor expect.sequence expect.types timeout) := by
  obtain ⟨bytes, hbytes⟩ := MemoryLink.exists_not_agree (.after 0 1) hmeets h
  refine ⟨⟨{ inbound := bytes.map .byte }, 0, { maxPayloadSize := expect.maxPayloadSize }⟩, 1,
    rfl, ?_⟩
  intro hsame
  have hlive : ¬ (Deadline.after 0 1).expired 0 = true := by decide
  exact hbytes _ rfl rfl hlive (sameEnd_iff.mp hsame).1

/-- **When the read chunk makes no difference.** A wait ends alike under two read chunks if it
loses no marker under either of them. It ends alike on every link, in every state and with every
timeout exactly if no frame at all can meet its expectation, or the two read chunks have the same
reach: both read at most two bytes at once, both as many as a header or the largest payload has,
or both the same number.

**Proof sketch.** Waits that lose no marker agree. A wait that no frame can end reads the queue to
its end, whatever the read chunk, and read chunks of the same reach make no difference. Otherwise
some frame meets the expectation, and the reaches differ; then a queue with this frame behind a
damaged one tells the two waits apart. -/
theorem waitFor_setReadChunk (sequence : UInt16) (types : List MessageType)
    (maxPayloadSize c₁ c₂ : Nat) :
    (∀ (d : Device MemoryLink) (timeout : Nat), d.config.maxPayloadSize = maxPayloadSize →
      MemoryLink.KeepsMarkers ⟨sequence, types, maxPayloadSize⟩ (d.deadlineAfter timeout)
        (d.link.setReadChunk c₁) →
      MemoryLink.KeepsMarkers ⟨sequence, types, maxPayloadSize⟩ (d.deadlineAfter timeout)
        (d.link.setReadChunk c₂) →
      SameEnd ((d.setReadChunk c₁).waitFor sequence types timeout)
        ((d.setReadChunk c₂).waitFor sequence types timeout)) ∧
    ((∀ (d : Device MemoryLink) (timeout : Nat), d.config.maxPayloadSize = maxPayloadSize →
      SameEnd ((d.setReadChunk c₁).waitFor sequence types timeout)
        ((d.setReadChunk c₂).waitFor sequence types timeout)) ↔
      (∀ raw payload, ¬ Expectation.Meets ⟨sequence, types, maxPayloadSize⟩ raw payload) ∨
        Expectation.reach ⟨sequence, types, maxPayloadSize⟩ c₁ =
          Expectation.reach ⟨sequence, types, maxPayloadSize⟩ c₂) := by
  refine ⟨?_, ?_, ?_⟩
  · rintro d timeout rfl h₁ h₂
    have hagree := MemoryLink.agree_of_keepsMarkers h₁ h₂
    exact sameEnd_iff.mpr ⟨hagree.result, hagree.clock⟩
  · intro h
    by_contra hdiffer
    rw [not_or, not_forall] at hdiffer
    obtain ⟨⟨raw, hraw⟩, hreach⟩ := hdiffer
    obtain ⟨payload, hpayload⟩ := not_forall.mp hraw
    have hmeets := not_not.mp hpayload
    rcases Nat.lt_or_gt_of_ne hreach with hlt | hgt
    · obtain ⟨d, timeout, hsize, hends⟩ := exists_not_sameEnd hmeets hlt
      exact hends (h d timeout hsize)
    · obtain ⟨d, timeout, hsize, hends⟩ := exists_not_sameEnd hmeets hgt
      exact hends (h d timeout hsize).symm
  · rintro (hmeets | hreach) d timeout rfl
    · obtain ⟨hresult₁, hclock₁⟩ := MemoryLink.awaitReply_setReadChunk_of_not_meets
        (d.deadlineAfter timeout) d.link hmeets c₁
      obtain ⟨hresult₂, hclock₂⟩ := MemoryLink.awaitReply_setReadChunk_of_not_meets
        (d.deadlineAfter timeout) d.link hmeets c₂
      exact sameEnd_iff.mpr ⟨hresult₁.trans hresult₂.symm, hclock₁.trans hclock₂.symm⟩
    · have hagree := MemoryLink.agree_of_reach_eq (d.deadlineAfter timeout) d.link hreach
      exact sameEnd_iff.mpr ⟨hagree.result, hagree.clock⟩

/-- A device whose peer has sent a frame with a damaged pair, and then an acknowledgement of
number 8. -/
def damagedPair : Device MemoryLink :=
  .ofLink
    (MemoryLink.pushInbound {} ([Stuffing.marker, 10, Stuffing.escape, MemoryLink.badCode] ++
      wireBytes [10, 0, 0, 2, 0, 160, 239, 87] [8, 0]))
    {}

/-- **The size of reads may decide whether a reply is found:** reads of single bytes find the
acknowledgement, reads of eight bytes lose its marker. -/
theorem not_waitFor_setReadChunk :
    ¬ ∀ (d : Device MemoryLink) (sequence : UInt16) (types : List MessageType)
        (timeout c₁ c₂ : Nat), 0 < c₁ → 0 < c₂ →
        SameEnd ((d.setReadChunk c₁).waitFor sequence types timeout)
          ((d.setReadChunk c₂).waitFor sequence types timeout) := by
  intro h
  have hresult := (sameEnd_iff.mp (h damagedPair 8 [.ack] 10 1 8 (by decide) (by decide))).1
  revert hresult
  decide +kernel

end Device

end FramedLink
