import FramedLink.Device
import FramedLink.Proofs.Acceptance
import FramedLink.Proofs.Arrival
import Mathlib.Control.Monad.Basic

set_option autoImplicit false
set_option relaxedAutoImplicit false

/-!
# No reply is missed

A peer may send a lot before the awaited reply: noise without a marker, replies to other
numbers, frames of other kinds, frames whose check does not fit, and headers that announce a
payload that is not read. **If what stands before the reply consists of such parts and the reply
arrives in time, it is found.** Each rejected frame is left exactly at its end, so the next
search starts at the first byte behind it.

## Main definitions

* `FramedLink.Expectation.Skippable` — a frame that is rejected and left at its end.
* `FramedLink.Expectation.Skipped` — noise and such frames, one after another.

## Main results

* `FramedLink.MemoryLink.Arriving.attempt` — an attempt at a complete frame judges it.
* `FramedLink.MemoryLink.Arriving.awaitReply` — a wait finds the reply behind what is skipped.
* `FramedLink.Device.waitFor_eq_matched` — the same for a device.
-/

namespace FramedLink

/-! ## What stands before a reply -/

/-- A frame on the wire that is rejected and left at its end. -/
inductive Expectation.Skippable (expect : Expectation) : List UInt8 → Prop
  /-- The frame is complete, and fails its check, is of another kind, has no room for a number
  or answers another one. -/
  | refused {raw payload : List UInt8} (length_raw : raw.length = headerSize)
      (announced : (FrameHeader.ofBytes raw).payloadLength = some payload.length)
      (fits : payload.length ≤ expect.maxPayloadSize) (fails : ¬ expect.Meets raw payload) :
      Skippable expect (wireBytes raw payload)
  /-- There is only a header, and its length leaves no room for it. -/
  | undersized {raw : List UInt8} (length_raw : raw.length = headerSize)
      (announced : (FrameHeader.ofBytes raw).payloadLength = none) :
      Skippable expect (wireBytes raw [])
  /-- There is only a header, and it announces too large a payload. -/
  | oversized {raw : List UInt8} {size : Nat} (length_raw : raw.length = headerSize)
      (announced : (FrameHeader.ofBytes raw).payloadLength = some size)
      (exceeds : expect.maxPayloadSize < size) : Skippable expect (wireBytes raw [])

/-- Noise and skippable frames, one after another. -/
inductive Expectation.Skipped (expect : Expectation) : List UInt8 → Prop
  /-- There is only noise. -/
  | noise {noise : List UInt8} (unmarked : Stuffing.marker ∉ noise) : Skipped expect noise
  /-- Noise and a frame come first. -/
  | frame {noise frame rest : List UInt8} (unmarked : Stuffing.marker ∉ noise)
      (skippable : expect.Skippable frame) (skipped : Skipped expect rest) :
      Skipped expect (noise ++ frame ++ rest)

namespace MemoryLink.Arriving

open Link Stuffing

variable {expect : Expectation} {deadline : Deadline} {behind : List Inbound}
  {bytes raw payload : List UInt8} {p : MemoryLink}

/-! ## Attempts -/

/-- **An attempt at a complete frame judges it,** and ends behind it. -/
theorem attempt (hraw : raw.length = headerSize)
    (hsize : (FrameHeader.ofBytes raw).payloadLength = some payload.length)
    (hfits : payload.length ≤ expect.maxPayloadSize)
    (h : Arriving deadline behind (encode (raw ++ payload) ++ bytes) p) :
    ∃ q, Link.attempt expect deadline p =
        (.ok (expect.judge (FrameHeader.ofBytes raw) payload), q) ∧
      Arriving deadline behind bytes q := by
  rw [encode_append, List.append_assoc] at h
  obtain ⟨q, hq, h'⟩ := h.receiveStuffed hraw
  obtain ⟨q', hq', h''⟩ := h'.receiveStuffed rfl
  exact ⟨q', attempt_iff.mpr (.judged hq hsize hfits hq'), h''⟩

/-- An attempt at a skippable frame rejects it, and ends behind it.

**Proof sketch.** One case for each reason to skip. A frame that is received in full fails a check,
hence it is not accepted; of the others only the header is received. -/
lemma attempt_skippable {frame : List UInt8} (hskip : expect.Skippable (marker :: frame))
    (h : Arriving deadline behind (frame ++ bytes) p) :
    ∃ why q, Link.attempt expect deadline p = (.ok (.rejected why), q) ∧
      Arriving deadline behind bytes q := by
  generalize hwire : marker :: frame = wire at hskip
  cases hskip with
  | refused length_raw announced fits fails =>
    obtain rfl := (List.cons.inj hwire).2
    obtain ⟨q, hq, h'⟩ := h.attempt length_raw announced fits
    rcases hverdict : expect.judge (FrameHeader.ofBytes _) _ with reply | why
    · obtain ⟨hverify, hexpected, hanswers, -⟩ := Expectation.judge_eq_accepted_iff.mp hverdict
      exact absurd ⟨length_raw, announced, fits, hverify, hexpected, hanswers⟩ fails
    · rw [hverdict] at hq
      exact ⟨why, q, hq, h'⟩
  | undersized length_raw announced =>
    obtain rfl := (List.cons.inj hwire).2
    rw [List.append_nil] at h
    obtain ⟨q, hq, h'⟩ := h.receiveStuffed length_raw
    exact ⟨_, q, attempt_iff.mpr (.undersized hq announced), h'⟩
  | oversized length_raw announced exceeds =>
    obtain rfl := (List.cons.inj hwire).2
    rw [List.append_nil] at h
    obtain ⟨q, hq, h'⟩ := h.receiveStuffed length_raw
    exact ⟨_, q, attempt_iff.mpr (.oversized hq announced exceeds), h'⟩

/-! ## Waits -/

/-- **A wait finds the reply behind what is skipped,** and ends behind it.

**Proof sketch.** Induction on what is skipped. The search for a marker takes the noise, the
attempt after it takes the frame, and the rest still arrives in time: the deadline has not
passed, and the wait goes on. -/
theorem awaitReply {skipped : List UInt8} (hskipped : expect.Skipped skipped)
    (hmeets : expect.Meets raw payload)
    (h : Arriving deadline behind (skipped ++ wireBytes raw payload ++ bytes) p) :
    (Link.awaitReply expect deadline p).result =
        .ok (.matched ⟨(FrameHeader.ofBytes raw).messageType, payload⟩) ∧
      Arriving deadline behind bytes (Link.awaitReply expect deadline p).link := by
  induction hskipped generalizing p with
  | noise unmarked =>
    have hlive := h.not_expired
    rw [List.append_assoc] at h
    obtain ⟨q, hfound, h'⟩ := h.waitForByte unmarked
    obtain ⟨q', htried, h''⟩ := h'.attempt hmeets.length_raw hmeets.announced hmeets.fits
    rw [hmeets.judge_eq] at htried
    rw [awaitReply_marked _ hlive hfound, htried]
    exact ⟨rfl, h''⟩
  | @frame noise frame rest unmarked skippable skipped ih =>
    have hlive := h.not_expired
    obtain ⟨body, rfl⟩ : ∃ body, frame = marker :: body := by
      cases skippable <;> exact ⟨_, rfl⟩
    simp only [List.append_assoc, List.cons_append] at h
    obtain ⟨q, hfound, h'⟩ := h.waitForByte unmarked
    obtain ⟨why, q', htried, h''⟩ := h'.attempt_skippable skippable
    rw [← List.append_assoc] at h''
    rw [awaitReply_marked _ hlive hfound, htried]
    exact ih h''

end MemoryLink.Arriving

/-! ## Devices -/

/-- **A reply that arrives in time is found.** Let the queue start with bytes that are skipped
and a frame that passes all checks, with pauses anywhere among them that add up to less than the
timeout, and no failure. Then the wait ends with this frame, and everything behind the frame is
still pending. -/
theorem Device.waitFor_eq_matched (d : Device MemoryLink) (sequence : UInt16)
    (types : List MessageType) (timeout : Nat) (front behind : List Inbound)
    (skipped raw payload : List UInt8)
    (hactive : d.link.cancelled = false) (hqueue : d.link.inbound = front ++ behind)
    (hfront : front.filterMap Inbound.byte? = skipped ++ wireBytes raw payload)
    (hfailure : ∀ kind, .failure kind ∉ front)
    (hdelay : MemoryLink.totalDelay front < min timeout maxTimeout)
    (hskipped : Expectation.Skipped ⟨sequence, types, d.config.maxPayloadSize⟩ skipped)
    (hmeets : Expectation.Meets ⟨sequence, types, d.config.maxPayloadSize⟩ raw payload) :
    (d.waitFor sequence types timeout).result =
        .ok (.matched ⟨(FrameHeader.ofBytes raw).messageType, payload⟩) ∧
      (d.waitFor sequence types timeout).device.link.pendingBytes =
        behind.filterMap Inbound.byte? := by
  have harriving : MemoryLink.Arriving (d.deadlineAfter timeout) behind
      (skipped ++ wireBytes raw payload ++ []) d.link := by
    refine ⟨hactive, front, hqueue, by rw [hfront, List.append_nil], hfailure, ?_⟩
    show d.link.clock.now + _ < d.link.clock.now + min timeout maxTimeout
    omega
  obtain ⟨hresult, hrest⟩ := harriving.awaitReply hskipped hmeets
  rw [waitFor_result, waitFor_link]
  exact ⟨hresult, hrest.pendingBytes_eq⟩

/-- What the peer of `lateReply` sends: noise, an acknowledgement of number 7 and one of number 8,
with pauses before and inside the frames. -/
def Device.lateQueue : List Inbound :=
  [.delay 3, .byte 1] ++ [115, 11, 0, 0, 1, 0, 160, 62, 233].map .byte ++ [.delay 4] ++
    [7, 0, 1, 115, 10, 0, 0, 2, 0, 160, 239, 87].map .byte ++ [.delay 2] ++ [8, 0].map .byte

/-- A device whose peer takes its time. -/
def Device.lateReply : Device MemoryLink := .ofLink { inbound := lateQueue ++ [.byte 9] } {}

/-- The reply is found within ten units of time, and the byte behind it is left. -/
theorem Device.lateReply_waitFor :
    MemoryLink.totalDelay lateQueue = 9 ∧
      (lateReply.waitFor 8 [.ack] 10).result = .ok (.matched ⟨.ack, [8, 0]⟩) ∧
      (lateReply.waitFor 8 [.ack] 10).device.link.pendingBytes = [9] := by
  have hrefused : ¬ Expectation.Meets ⟨8, [.ack], maxPayload⟩ [11, 0, 0, 1, 0, 160, 62, 233]
      [7, 0, 1] := by
    intro h
    obtain ⟨body, hbody⟩ := h.answers
    simp [leBytes] at hbody
  have hskipped : Expectation.Skipped ⟨8, [.ack], maxPayload⟩
      ([1] ++ wireBytes [11, 0, 0, 1, 0, 160, 62, 233] [7, 0, 1] ++ []) :=
    .frame (by decide) (.refused rfl (by decide) (by decide) hrefused) (.noise (by decide))
  have hmeets : Expectation.Meets ⟨8, [.ack], maxPayload⟩ [10, 0, 0, 2, 0, 160, 239, 87] [8, 0] :=
    ⟨rfl, by decide, by decide, by decide +kernel, by decide, ⟨[], rfl⟩⟩
  obtain ⟨hresult, hrest⟩ := waitFor_eq_matched lateReply 8 [.ack] 10 lateQueue [.byte 9] _ _ _ rfl
    rfl (by decide) (by intro kind; simp [lateQueue]) (by decide) hskipped hmeets
  exact ⟨by decide, hresult, hrest⟩

end FramedLink
