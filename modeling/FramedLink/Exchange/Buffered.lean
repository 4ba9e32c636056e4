import FramedLink.Exchange
import FramedLink.Link.Window

set_option autoImplicit false
set_option relaxedAutoImplicit false

/-!
# Waiting with one buffer

A wait receives the payloads of all its attempts into one buffer. Each attempt that reads a
payload changes the size of the buffer to that of the payload and keeps what the attempt before
has left in it, and the attempt that is accepted hands the buffer out. **What stood in the buffer
never shows:** a payload is judged and handed out only after all of it has been written.

## Main definitions

* `FramedLink.resize` — change the size of a buffer, keeping what it holds.
* `FramedLink.Link.attemptInto`, `FramedLink.Link.awaitInto` — an attempt and a wait with a
  buffer.

## Main results

* `FramedLink.Link.awaitInto_eq` — a wait does not depend on what its buffer holds.
-/

namespace FramedLink

/-- Change the size of a buffer: drop bytes at its end, or add zeros there. -/
def resize (buffer : Array UInt8) (size : Nat) : Array UInt8 :=
  buffer.extract 0 size ++ Array.replicate (size - buffer.size) 0

/-- The buffer has the size that was asked for. -/
@[simp] theorem size_resize (buffer : Array UInt8) (size : Nat) :
    (resize buffer size).size = size := by
  simp only [resize, Array.size_append, Array.size_extract, Array.size_replicate]
  omega

namespace Link

variable {σ : Type} [Link σ]

/-- Read and judge the frame after a marker. The payload is received into `buffer`. -/
def attemptInto (expect : Expectation) (deadline : Deadline) (buffer : Array UInt8) (link : σ) :
    Except DeviceError Verdict × Array UInt8 × σ :=
  match receiveInto deadline (.ofBuffer (Array.replicate headerSize 0)) link with
  | (.error e, _, link) => (Verdict.ofFailure e, buffer, link)
  | (.ok (), raw, link) =>
    let header := FrameHeader.ofBytes raw.buffer.toList
    match header.payloadLength with
    | none => (.ok (.rejected (.undersized header.length)), buffer, link)
    | some size =>
      if size > expect.maxPayloadSize then (.ok (.rejected (.oversized size)), buffer, link)
      else
        match receiveInto deadline (.ofBuffer (resize buffer size)) link with
        | (.error e, payload, link) => (Verdict.ofFailure e, payload.buffer, link)
        | (.ok (), payload, link) =>
          (.ok (expect.judge header payload.buffer.toList), payload.buffer, link)

/-- An attempt judges the frame as if its payload had been received into a new buffer.

**Proof sketch.** The two attempts go side by side. A receipt into a buffer yields the data of a
receipt as a list if the buffer has the size that is asked for, whatever it holds. -/
theorem attempt_eq_attemptInto (expect : Expectation) (deadline : Deadline)
    (buffer : Array UInt8) (link : σ) :
    attempt expect deadline link =
      let (verdict, _, link') := attemptInto expect deadline buffer link
      (verdict, link') := by
  have hraw := receiveStuffed_size deadline (Array.replicate headerSize 0) link
  rw [Array.size_replicate] at hraw
  unfold attempt attemptInto
  rw [hraw]
  rcases receiveInto deadline (.ofBuffer (Array.replicate headerSize 0)) link with
    ⟨e | _, raw, link₁⟩
  · rfl
  dsimp only [Except.map]
  cases hlen : (FrameHeader.ofBytes raw.buffer.toList).payloadLength with
  | none => rfl
  | some size =>
    have hpayload := receiveStuffed_size deadline (resize buffer size) link₁
    rw [size_resize] at hpayload
    simp only [hpayload]
    by_cases hsize : size > expect.maxPayloadSize
    · simp only [if_pos hsize]
    · simp only [if_neg hsize]
      rcases receiveInto deadline (.ofBuffer (resize buffer size)) link₁ with
        ⟨e | _, payload, link₂⟩ <;> rfl

/-- Read frames, their payloads into `buffer`, until one meets the expectation or the deadline
passes. -/
def awaitInto (expect : Expectation) (deadline : Deadline) (buffer : Array UInt8) (link : σ) :
    WaitReport σ :=
  if deadline.expired (now link) then ⟨.ok .timedOut, [], link⟩
  else
    match _found : waitForByte Stuffing.marker deadline link with
    | (.error e, link') =>
      if e.isTimeout then ⟨.ok .timedOut, [], link'⟩ else ⟨.error (.link e), [], link'⟩
    | (.ok (), link') =>
      match _tried : attemptInto expect deadline buffer link' with
      | (.error e, _, link'') => ⟨.error e, [], link''⟩
      | (.ok (.accepted reply), _, link'') => ⟨.ok (.matched reply), [], link''⟩
      | (.ok (.rejected why), buffer', link'') =>
        let rest := awaitInto expect deadline buffer' link''
        { rest with discarded := ⟨why, deadline.remaining (now link'')⟩ :: rest.discarded }
termination_by supply link
decreasing_by
  have h := attempt_eq_attemptInto expect deadline buffer link'
  rw [_tried] at h
  have := (supply_waitForByte _found).2 rfl
  have := supply_attempt h
  omega

/-- **A wait does not depend on what its buffer holds:** it is the wait that receives every
payload into a new one.

**Proof sketch.** Induction on the wait; each attempt is one that receives its payload into a new
buffer. -/
theorem awaitInto_eq (expect : Expectation) (deadline : Deadline) (buffer : Array UInt8)
    (link : σ) : awaitInto expect deadline buffer link = awaitReply expect deadline link := by
  fun_induction awaitInto expect deadline buffer link with
  | case1 buffer link hexp => rw [awaitReply, if_pos hexp]
  | case2 buffer link hexp e link' hfound htime =>
    rw [awaitReply_unmarked _ hexp hfound, if_pos htime]
  | case3 buffer link hexp e link' hfound htime =>
    rw [awaitReply_unmarked _ hexp hfound, if_neg htime]
  | case4 buffer link hexp link' hfound e buffer' link'' htried =>
    rw [awaitReply_marked _ hexp hfound, attempt_eq_attemptInto expect deadline buffer, htried]
  | case5 buffer link hexp link' hfound reply buffer' link'' htried =>
    rw [awaitReply_marked _ hexp hfound, attempt_eq_attemptInto expect deadline buffer, htried]
  | case6 buffer link hexp link' hfound why buffer' link'' htried rest ih =>
    rw [awaitReply_marked _ hexp hfound, attempt_eq_attemptInto expect deadline buffer, htried]
    simp only [rest, ih]

end Link

end FramedLink
