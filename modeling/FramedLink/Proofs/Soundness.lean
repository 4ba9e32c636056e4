import FramedLink.Device
import FramedLink.Proofs.Acceptance
import FramedLink.Proofs.Bytewise
import Mathlib.Control.Monad.Basic

set_option autoImplicit false
set_option relaxedAutoImplicit false

/-!
# Where a reply comes from

Every byte that a wait takes from a memory link is the front of what is pending there. This file
follows the pending bytes through the parts of a wait. **A reply is made of the bytes behind one
marker, decoded:** not of bytes that an earlier attempt has left in the buffer, and the bytes
behind the frame are still pending.

## Main results

* `FramedLink.MemoryLink.pendingBytes_receiveEach` — received data is the front of the pending
  bytes, decoded.
* `FramedLink.MemoryLink.pendingBytes_attempt_accepted` — what an accepted attempt has read.
* `FramedLink.MemoryLink.pendingBytes_awaitReply_matched` — what a wait with a reply has read.
* `FramedLink.Device.waitFor_matched` — the same for a device.
-/

namespace FramedLink

namespace MemoryLink

open Link Stuffing

variable {expect : Expectation} {deadline : Deadline} {p q : MemoryLink} {reply : Reply}

/-! ## Data -/

/-- The bytes read for one byte of data are its stuffed form, or its plain form. -/
lemma pendingBytes_readDatum {value : UInt8} (h : readDatum deadline p = (.ok value, q)) :
    ∃ wire, p.pendingBytes = wire ++ q.pendingBytes ∧ decode wire = .ok [value] := by
  unfold readDatum at h
  split at h
  · cases h
  next b p₁ hb =>
  have hfront := pendingBytes_readByte hb
  split at h
  · next hesc =>
    subst hesc
    split at h
    · cases h
    next code p₂ hcode =>
    obtain ⟨hvalue, rfl⟩ := Prod.mk.inj h
    refine ⟨[escape, code], ?_, ?_⟩
    · rw [hfront, pendingBytes_readByte hcode]
      rfl
    · rw [decode_escape, hvalue]
      rfl
  · next hesc =>
    obtain ⟨hvalue, rfl⟩ := Prod.mk.inj h
    obtain rfl := Except.ok.inj hvalue
    exact ⟨[b], hfront, decode_plain hesc []⟩

/-- **Received data is the front of the pending bytes, decoded.**

**Proof sketch.** Induction on the number of bytes. The stuffed form of the first is taken from the
front, and the rest is received from what is left. -/
theorem pendingBytes_receiveEach {done bytes : List UInt8} {n : Nat}
    (h : receiveEach deadline done n p = (.ok bytes, q)) :
    ∃ wire data, p.pendingBytes = wire ++ q.pendingBytes ∧ bytes = done.reverse ++ data ∧
      data.length = n ∧ decode wire = .ok data := by
  induction n generalizing done p with
  | zero =>
    cases h
    exact ⟨[], [], rfl, by simp, rfl, rfl⟩
  | succ n ih =>
    rw [receiveEach] at h
    rcases hd : readDatum deadline p with ⟨e | value, p₁⟩ <;> rw [hd] at h
    · cases h
    obtain ⟨wire, hwire, hvalue⟩ := pendingBytes_readDatum hd
    obtain ⟨wire', data, hwire', rfl, rfl, hdata⟩ := ih h
    refine ⟨wire ++ wire', value :: data, ?_, by simp, rfl, ?_⟩
    · rw [hwire, hwire', List.append_assoc]
    · rw [decode_append hvalue, hdata]
      rfl

/-- A receipt in larger reads takes the same bytes. -/
lemma pendingBytes_receiveStuffed {data : List UInt8} {n : Nat}
    (h : receiveStuffed n deadline p = (.ok data, q)) :
    ∃ wire, p.pendingBytes = wire ++ q.pendingBytes ∧ decode wire = .ok data := by
  obtain ⟨wire, data', hwire, rfl, -, hdata⟩ :=
    pendingBytes_receiveEach (receiveEach_of_receiveFrom h)
  exact ⟨wire, hwire, hdata⟩

/-! ## Frames -/

/-- Finding the marker takes the bytes before it, and no marker among them. -/
lemma pendingBytes_waitForByte {value : UInt8} (h : waitForByte value deadline p = (.ok (), q)) :
    ∃ skipped, value ∉ skipped ∧ p.pendingBytes = skipped ++ value :: q.pendingBytes := by
  fun_induction waitForByte value deadline p with
  | case1 p e q' hq => cases h
  | case2 p q' hq =>
    cases h
    exact ⟨[], List.not_mem_nil, pendingBytes_readByte hq⟩
  | case3 p b q' hq hb ih =>
    obtain ⟨skipped, hskip, hbytes⟩ := ih h
    refine ⟨b :: skipped, ?_, ?_⟩
    · rw [List.mem_cons, not_or]
      exact ⟨Ne.symm hb, hskip⟩
    · rw [pendingBytes_readByte hq, hbytes, List.cons_append]

/-- **What an accepted attempt has read** is a frame that passes all checks. -/
theorem pendingBytes_attempt_accepted
    (h : attempt expect deadline p = (.ok (.accepted reply), q)) :
    ∃ wire raw, p.pendingBytes = wire ++ q.pendingBytes ∧
      decode wire = .ok (raw ++ reply.payload) ∧ expect.Meets raw reply.payload ∧
      reply.messageType = (FrameHeader.ofBytes raw).messageType := by
  obtain ⟨raw, ⟨p₁, header, received⟩, hmeets, hkind⟩ := attempt_accepted_iff.mp h
  obtain ⟨wire, hwire, hraw⟩ := pendingBytes_receiveStuffed header
  obtain ⟨wire', hwire', hpayload⟩ := pendingBytes_receiveStuffed received
  refine ⟨wire ++ wire', raw, ?_, ?_, hmeets, hkind⟩
  · rw [hwire, hwire', List.append_assoc]
  · rw [decode_append hraw, hpayload]
    rfl

/-! ## Waits -/

/-- **What a wait with a reply has read** ends with a marker and a frame that passes all checks.

**Proof sketch.** Induction on the wait. An accepted attempt has read a frame, and a marker stands
in front of it. A rejected attempt and the bytes before its marker belong to what is skipped. -/
theorem pendingBytes_awaitReply_matched
    (h : (awaitReply expect deadline p).result = .ok (.matched reply)) :
    ∃ skipped wire raw, p.pendingBytes = skipped ++ marker :: wire ++
        (awaitReply expect deadline p).link.pendingBytes ∧
      decode wire = .ok (raw ++ reply.payload) ∧ expect.Meets raw reply.payload ∧
      reply.messageType = (FrameHeader.ofBytes raw).messageType := by
  fun_induction awaitReply expect deadline p with
  | case1 p hexp => cases h
  | case2 p hexp e q hfound htime => cases h
  | case3 p hexp e q hfound htime => cases h
  | case4 p hexp q hfound e q' htried => cases h
  | case5 p hexp q hfound reply' q' htried =>
    obtain rfl := WaitOutcome.matched.inj (Except.ok.inj h)
    obtain ⟨skipped, -, hskipped⟩ := pendingBytes_waitForByte hfound
    obtain ⟨wire, raw, hwire, hrest⟩ := pendingBytes_attempt_accepted htried
    refine ⟨skipped, wire, raw, ?_, hrest⟩
    rw [hskipped, hwire, List.append_assoc, List.cons_append]
  | case6 p hexp q hfound why q' htried rest ih =>
    obtain ⟨skipped', wire, raw, hwire, hrest⟩ := ih h
    -- The rejected attempt and the bytes before its marker belong to what is skipped.
    have hbefore : q'.pendingBytes <:+ p.pendingBytes :=
      (chains_pendingBytes deadline).trans ((chains_pendingBytes deadline).waitForByte hfound)
        ((chains_pendingBytes deadline).attempt htried)
    obtain ⟨skipped, hskipped⟩ := hbefore
    refine ⟨skipped ++ skipped', wire, raw, ?_, hrest⟩
    rw [← hskipped, hwire]
    simp only [List.append_assoc, rest]

end MemoryLink

/-! ## Devices -/

/-- **A reply is one frame that the peer has sent.** What a wait with a reply takes from the
link ends with a marker and bytes that decode to eight bytes of a header and the payload of the
reply. The header announces this payload, whose size is within the limits, and its check is the
one that belongs to it; the kind is the one of the reply and an expected one; the payload is the
awaited number, low byte first, and the body of the reply.

**Proof sketch.** The wait of a device is that of its link. What the accepted attempt has read meets
the expectation, and the parts of the statement are those of `Meets`. -/
theorem Device.waitFor_matched (d : Device MemoryLink) (sequence : UInt16)
    (types : List MessageType) (timeout : Nat) (reply : Reply)
    (h : (d.waitFor sequence types timeout).result = .ok (.matched reply)) :
    ∃ skipped wire raw,
      d.link.pendingBytes = skipped ++ Stuffing.marker :: wire ++
        (d.waitFor sequence types timeout).device.link.pendingBytes ∧
      Stuffing.decode wire = .ok (raw ++ reply.payload) ∧
      raw.length = headerSize ∧
      (FrameHeader.ofBytes raw).payloadLength = some reply.payload.length ∧
      2 ≤ reply.payload.length ∧ reply.payload.length ≤ d.config.maxPayloadSize ∧
      (FrameHeader.ofBytes raw).verify reply.payload = true ∧
      (FrameHeader.ofBytes raw).messageType = reply.messageType ∧ reply.messageType ∈ types ∧
      reply.payload = leBytes sequence ++ reply.body := by
  rw [waitFor_result] at h
  rw [waitFor_link]
  obtain ⟨skipped, wire, raw, hwire, hdecode, hmeets, htype⟩ :=
    MemoryLink.pendingBytes_awaitReply_matched h
  obtain ⟨body, hbody⟩ := hmeets.answers
  refine ⟨skipped, wire, raw, hwire, hdecode, hmeets.length_raw, hmeets.announced, hmeets.two_le,
    hmeets.fits, hmeets.verified, htype.symm, ?_, ?_⟩
  · rw [htype]
    exact hmeets.expected
  · rw [Reply.body, hbody]
    simp [leBytes]

/-- A device whose peer has acknowledged number 7, with one byte too many, and then number 8. -/
def Device.twoReplies : Device MemoryLink :=
  .ofLink
    (MemoryLink.pushInbound {}
      [115, 11, 0, 0, 1, 0, 160, 62, 233, 7, 0, 1, 115, 10, 0, 0, 2, 0, 160, 239, 87, 8, 0])
    {}

/-- The second reply is found where the second frame is. -/
theorem Device.twoReplies_waitFor :
    (twoReplies.waitFor 8 [.ack] 10).result = .ok (.matched ⟨.ack, [8, 0]⟩) ∧
      ∃ skipped wire raw,
        twoReplies.link.pendingBytes = skipped ++ Stuffing.marker :: wire ++
          (twoReplies.waitFor 8 [.ack] 10).device.link.pendingBytes ∧
        Stuffing.decode wire = .ok (raw ++ [8, 0]) ∧ raw.length = headerSize := by
  have hresult :
      (twoReplies.waitFor 8 [.ack] 10).result = .ok (.matched ⟨.ack, [8, 0]⟩) := by
    decide +kernel
  obtain ⟨skipped, wire, raw, hwire, hdecode, hlen, -⟩ :=
    waitFor_matched twoReplies 8 [.ack] 10 ⟨.ack, [8, 0]⟩ hresult
  exact ⟨hresult, skipped, wire, raw, hwire, hdecode, hlen⟩

end FramedLink
