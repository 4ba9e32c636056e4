import FramedLink.Header
import FramedLink.Link.Stuffed

set_option autoImplicit false
set_option relaxedAutoImplicit false

/-!
# Frames over a link

A frame goes out as a bare marker, the stuffed header and the stuffed payload. A reply is
awaited by a loop of *attempts* under one deadline. Each attempt starts after the next marker,
reads a header and the payload it announces, and checks the frame. **An attempt that fails
discards that frame and nothing else;** the loop goes on with whatever time is left. Only a
failure of the link ends the wait with an error.

## Main definitions

* `FramedLink.Reply`, `FramedLink.WaitOutcome` — how a wait ends, short of an error.
* `FramedLink.Expectation` — what a wait is looking for.
* `FramedLink.Rejection` — why a frame was discarded.
* `FramedLink.Link.sendFrame` — send one frame.
* `FramedLink.Link.attempt` — read and check one frame.
* `FramedLink.Link.awaitReply` — the loop of attempts.

## Main results

* `FramedLink.Link.supply_attempt` — an attempt does not raise the supply of its link, so the
  loop comes to an end.
-/

namespace FramedLink

/-! ## Outcomes -/

/-- A frame accepted by a wait. -/
structure Reply where
  /-- The kind of the frame. -/
  messageType : MessageType
  /-- The whole payload. It starts with the sequence number that is answered. -/
  payload : List UInt8
  deriving DecidableEq, Repr

/-- The payload after the sequence number. -/
def Reply.body (r : Reply) : List UInt8 := r.payload.drop 2

/-- How a wait ends, short of an error. -/
inductive WaitOutcome where
  /-- A frame of an expected kind answered the awaited number. -/
  | matched (reply : Reply)
  /-- The deadline passed first. -/
  | timedOut
  deriving DecidableEq, Repr

/-- The kind of the accepted frame, if there is one. -/
def WaitOutcome.messageType? : WaitOutcome → Option MessageType
  | matched reply => some reply.messageType
  | timedOut => none

/-- What a wait is looking for. -/
structure Expectation where
  /-- The sequence number that has to be answered. -/
  sequence : UInt16
  /-- The kinds of frame that may answer it. -/
  types : List MessageType
  /-- The largest payload that is read at all. -/
  maxPayloadSize : Nat
  deriving DecidableEq, Repr

/-- Why a frame was discarded. -/
inductive Rejection where
  /-- Its bytes are no stuffed form. -/
  | malformed (e : FrameError)
  /-- It was not complete at the deadline. -/
  | incomplete
  /-- Its length leaves no room for a header. -/
  | undersized (length : UInt16)
  /-- Its payload is larger than what is read. -/
  | oversized (size : Nat)
  /-- Its check does not fit. -/
  | crcMismatch
  /-- It is of another kind. -/
  | unexpectedType (messageType : MessageType)
  /-- Its payload has no room for a sequence number. -/
  | missingSequence (size : Nat)
  /-- It answers another number. -/
  | sequenceMismatch (echoed : UInt16)
  deriving DecidableEq, Repr

/-- The text of a rejection. -/
def Rejection.describe : Rejection → String
  | malformed e => "malformed: " ++ e.message
  | incomplete => "frame incomplete at deadline"
  | undersized length => "length " ++ toString length ++ " below header size"
  | oversized size => "payload of " ++ toString size ++ " bytes over limit"
  | crcMismatch => "crc mismatch"
  | unexpectedType messageType => "unexpected type " ++ messageType.describe
  | missingSequence size => "payload of " ++ toString size ++ " bytes has no sequence"
  | sequenceMismatch echoed => "acknowledges sequence " ++ toString echoed

/-- How one attempt ends. -/
inductive Verdict where
  | accepted (reply : Reply)
  | rejected (why : Rejection)
  deriving DecidableEq, Repr

/-- A discarded frame: why, and the time that was left after it. -/
structure Discard where
  /-- The reason. -/
  why : Rejection
  /-- The time left to the deadline. -/
  remaining : Nat
  deriving DecidableEq, Repr

/-- How a wait went: its result, the frames discarded on the way, and the link afterwards. -/
structure WaitReport (σ : Type) where
  /-- The result of the wait. -/
  result : Except DeviceError WaitOutcome
  /-- The discarded frames, in order. -/
  discarded : List Discard
  /-- The link afterwards. -/
  link : σ

/-! ## Judging a frame -/

/-- Check kind and echoed number of a frame whose check fits. -/
def Expectation.matchReply (expect : Expectation) (messageType : MessageType)
    (payload : List UInt8) : Verdict :=
  if expect.types.contains messageType then
    match payload with
    | low :: high :: _ =>
      let echoed := leValue low high
      if echoed = expect.sequence then .accepted ⟨messageType, payload⟩
      else .rejected (.sequenceMismatch echoed)
    | short => .rejected (.missingSequence short.length)
  else .rejected (.unexpectedType messageType)

/-- Judge a complete frame. -/
def Expectation.judge (expect : Expectation) (header : FrameHeader) (payload : List UInt8) :
    Verdict :=
  if header.verify payload then expect.matchReply header.messageType payload
  else .rejected .crcMismatch

/-- What a failure to receive means for the attempt: damaged bytes and a passed deadline end
the attempt, everything else ends the wait. -/
def Verdict.ofFailure (e : FrameError) : Except DeviceError Verdict :=
  if e.isMalformed then .ok (.rejected (.malformed e))
  else if e.isTimeout then .ok (.rejected .incomplete)
  else .error (.ofFrame e)

/-! ## Frames on the wire -/

/-- The byte strings written one after another to send a frame. -/
def framePieces (header : FrameHeader) (payload : List UInt8) : List (List UInt8) :=
  [Stuffing.marker] :: (Stuffing.pieces header.toBytes ++ Stuffing.pieces payload)

/-- A frame on the wire: a bare marker, then header and payload in stuffed form. -/
def frameBytes (header : FrameHeader) (payload : List UInt8) : List UInt8 :=
  Stuffing.marker :: Stuffing.encode (header.toBytes ++ payload)

/-- **What is written to send a frame is the frame.** -/
theorem flatten_framePieces (header : FrameHeader) (payload : List UInt8) :
    (framePieces header payload).flatten = frameBytes header payload := by
  simp [framePieces, frameBytes, Stuffing.flatten_pieces, Stuffing.encode_append]

namespace Link

variable {σ : Type} [Link σ]

/-- Send a complete frame. -/
def sendFrame (header : FrameHeader) (payload : List UInt8) (deadline : Deadline) (link : σ) :
    Except LinkError Unit × σ :=
  writePieces (framePieces header payload) deadline link

/-! ## Waiting -/

/-- Read and judge the frame after a marker. -/
def attempt (expect : Expectation) (deadline : Deadline) (link : σ) :
    Except DeviceError Verdict × σ :=
  match receiveStuffed headerSize deadline link with
  | (.error e, link) => (Verdict.ofFailure e, link)
  | (.ok raw, link) =>
    let header := FrameHeader.ofBytes raw
    match header.payloadLength with
    | none => (.ok (.rejected (.undersized header.length)), link)
    | some size =>
      if size > expect.maxPayloadSize then (.ok (.rejected (.oversized size)), link)
      else
        match receiveStuffed size deadline link with
        | (.error e, link) => (Verdict.ofFailure e, link)
        | (.ok payload, link) => (.ok (expect.judge header payload), link)

/-- An attempt does not raise the supply of its link. -/
theorem supply_attempt {expect : Expectation} {deadline : Deadline} {link link' : σ}
    {r : Except DeviceError Verdict} (h : attempt expect deadline link = (r, link')) :
    supply link' ≤ supply link := by
  unfold attempt at h
  split at h
  · next hq => obtain ⟨-, rfl⟩ := Prod.mk.inj h; exact supply_receiveStuffed hq
  next hq =>
  have hle := supply_receiveStuffed hq
  dsimp only at h
  split at h
  · obtain ⟨-, rfl⟩ := Prod.mk.inj h; exact hle
  split at h
  · obtain ⟨-, rfl⟩ := Prod.mk.inj h; exact hle
  split at h
  · next hq' =>
    obtain ⟨-, rfl⟩ := Prod.mk.inj h
    have := supply_receiveStuffed hq'
    omega
  · next hq' =>
    obtain ⟨-, rfl⟩ := Prod.mk.inj h
    have := supply_receiveStuffed hq'
    omega

/-- Read frames until one meets the expectation or the deadline passes. -/
def awaitReply (expect : Expectation) (deadline : Deadline) (link : σ) : WaitReport σ :=
  if deadline.expired (now link) then ⟨.ok .timedOut, [], link⟩
  else
    match _found : waitForByte Stuffing.marker deadline link with
    | (.error e, link') =>
      if e.isTimeout then ⟨.ok .timedOut, [], link'⟩ else ⟨.error (.link e), [], link'⟩
    | (.ok (), link') =>
      match _tried : attempt expect deadline link' with
      | (.error e, link'') => ⟨.error e, [], link''⟩
      | (.ok (.accepted reply), link'') => ⟨.ok (.matched reply), [], link''⟩
      | (.ok (.rejected why), link'') =>
        let rest := awaitReply expect deadline link''
        { rest with discarded := ⟨why, deadline.remaining (now link'')⟩ :: rest.discarded }
termination_by supply link
decreasing_by
  have := (supply_waitForByte _found).2 rfl
  have := supply_attempt _tried
  omega

/-! ## The course of a wait -/

section Course

variable {expect : Expectation} {deadline : Deadline} (link : σ) {link' link'' : σ}

/-- A wait whose deadline has passed does not touch the link. -/
theorem awaitReply_expired (h : deadline.expired (now link) = true) :
    awaitReply expect deadline link = ⟨.ok .timedOut, [], link⟩ := by
  rw [awaitReply, if_pos h]

/-- A wait that finds no marker ends. -/
theorem awaitReply_unmarked {e : LinkError} (h : ¬ deadline.expired (now link) = true)
    (hfound : waitForByte Stuffing.marker deadline link = (.error e, link')) :
    awaitReply expect deadline link =
      ⟨if e.isTimeout then .ok .timedOut else .error (.link e), [], link'⟩ := by
  rw [awaitReply, if_neg h]
  split
  · next hq =>
    rw [hfound] at hq
    cases hq
    split <;> rfl
  · next hq => rw [hfound] at hq; cases hq

/-- What a wait does after a marker is settled by its attempt. -/
theorem awaitReply_marked (h : ¬ deadline.expired (now link) = true)
    (hfound : waitForByte Stuffing.marker deadline link = (.ok (), link')) :
    awaitReply expect deadline link =
      match attempt expect deadline link' with
      | (.error e, link'') => ⟨.error e, [], link''⟩
      | (.ok (.accepted reply), link'') => ⟨.ok (.matched reply), [], link''⟩
      | (.ok (.rejected why), link'') =>
        let rest := awaitReply expect deadline link''
        { rest with discarded := ⟨why, deadline.remaining (now link'')⟩ :: rest.discarded } := by
  rw [awaitReply, if_neg h]
  split
  · next hq => rw [hfound] at hq; cases hq
  · next q hq =>
    rw [hfound] at hq
    cases hq
    split <;> next htried => rw [htried]

end Course

end Link

end FramedLink
