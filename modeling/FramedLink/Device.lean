import FramedLink.Event
import FramedLink.Exchange.Buffered

set_option autoImplicit false
set_option relaxedAutoImplicit false

/-!
# Devices

A device is a link together with the number of the next outbound frame. Its operations number
frames, send them and wait for the reply that answers their number. **Every operation has one
budget of time:** the deadline is fixed when it starts, and all that the operation does is bound
by it.

## Main definitions

* `FramedLink.Device` — a link, a sequence counter and a configuration.
* `FramedLink.Device.Run` — how an operation went: its result, the device afterwards and the
  events on the way.
* `FramedLink.Device.send`, `waitFor`, `request`, `ping`, `reset` — the operations.
-/

namespace FramedLink

/-- The settings of a device. -/
structure DeviceConfig where
  /-- The largest inbound payload that is read. Frames that announce more are discarded. -/
  maxPayloadSize : Nat := maxPayload
  /-- The number of the first outbound frame. -/
  initialSequence : UInt16 := 0
  deriving DecidableEq, Repr

/-- A connection to a device. -/
structure Device (σ : Type) where
  /-- The link. -/
  link : σ
  /-- The number of the next outbound frame. -/
  sequence : UInt16
  /-- The settings. -/
  config : DeviceConfig

namespace Device

/-- How an operation went. -/
structure Run (σ : Type) (α : Type) where
  /-- The result. -/
  result : Except DeviceError α
  /-- The device afterwards. -/
  device : Device σ
  /-- What happened on the way. -/
  events : List Event

namespace Run

variable {σ α β : Type}

/-- Go on with `next` if the result is a value. -/
def andThen (r : Run σ α) (next : α → Device σ → Run σ β) : Run σ β :=
  match r.result with
  | .error e => ⟨.error e, r.device, r.events⟩
  | .ok a => let s := next a r.device; { s with events := r.events ++ s.events }

/-- Change the value of the result and report one more event. -/
def finish (r : Run σ α) (value : α → β) (event : α → List Event) : Run σ β :=
  r.andThen fun a device => ⟨.ok (value a), device, event a⟩

/-- The result that is made of a result. -/
@[simp] theorem result_finish (r : Run σ α) (value : α → β) (event : α → List Event) :
    (r.finish value event).result = r.result.map value := by
  unfold finish andThen
  cases r.result <;> rfl

/-- Reporting does nothing to the device. -/
@[simp] theorem device_finish (r : Run σ α) (value : α → β) (event : α → List Event) :
    (r.finish value event).device = r.device := by
  unfold finish andThen
  cases r.result <;> rfl

/-- No event of a run is lost when it is finished. -/
theorem events_finish (r : Run σ α) (value : α → β) (event : α → List Event) :
    (r.finish value event).events =
      r.events ++ match r.result with | .ok a => event a | .error _ => [] := by
  unfold finish andThen
  cases r.result with
  | ok a => rfl
  | error e => exact (List.append_nil r.events).symm

end Run

/-- The kinds of frame that answer a command. -/
def replyTypes : List MessageType := [.ack, .nack]

variable {σ : Type} [Link σ]

/-- A device on `link` that has not sent anything yet. -/
def ofLink (link : σ) (config : DeviceConfig) : Device σ := ⟨link, config.initialSequence, config⟩

/-- The deadline of an operation that starts now. -/
def deadlineAfter (d : Device σ) (timeout : Nat) : Deadline := .after (Link.now d.link) timeout

/-! ## Sending -/

/-- The header of the next outbound frame. It uses up one sequence number. -/
def prepareHeader (messageType : MessageType) (payload : List UInt8) (d : Device σ) :
    Except DeviceError FrameHeader × Device σ :=
  let (header, sequence) := FrameHeader.prepare d.sequence messageType payload
  (header.mapError .ofFrame, { d with sequence })

omit [Link σ] in
/-- **A frame gets the next number unless its payload is too large,** and then no number is used
up. -/
theorem prepareHeader_cases (messageType : MessageType) (payload : List UInt8) (d : Device σ) :
    (maxPayload < payload.length ∧ d.prepareHeader messageType payload =
      (.error (.frame (.payloadTooLarge payload.length maxPayload)), d)) ∨
    (payload.length ≤ maxPayload ∧ ∃ header, header.sequence = d.sequence ∧
      d.prepareHeader messageType payload =
        (.ok header, { d with sequence := d.sequence + 1 })) := by
  unfold prepareHeader FrameHeader.prepare
  by_cases hsize : payload.length > maxPayload
  · rw [if_pos hsize]
    exact .inl ⟨hsize, rfl⟩
  · rw [if_neg hsize]
    exact .inr ⟨Nat.le_of_not_lt hsize, _, rfl, rfl⟩

/-- Send a frame whose header has been prepared. -/
def sendFrameUntil (header : FrameHeader) (payload : List UInt8) (deadline : Deadline)
    (d : Device σ) : Run σ Unit :=
  match Link.sendFrame header payload deadline d.link with
  | (.error e, link) => ⟨.error (.link e), { d with link }, []⟩
  | (.ok (), link) =>
    ⟨.ok (), { d with link },
      [.sentFrame header.sequence header.messageType payload.length]⟩

/-- Send a frame whose header has been prepared, within `timeout`. -/
def sendFrame (header : FrameHeader) (payload : List UInt8) (timeout : Nat) (d : Device σ) :
    Run σ Unit :=
  d.sendFrameUntil header payload (d.deadlineAfter timeout)

/-- Prepare and send a frame. The result is its number. -/
def sendUntil (messageType : MessageType) (payload : List UInt8) (deadline : Deadline)
    (d : Device σ) : Run σ UInt16 :=
  match d.prepareHeader messageType payload with
  | (.error e, d) => ⟨.error e, d, []⟩
  | (.ok header, d) =>
    (d.sendFrameUntil header payload deadline).finish (fun _ => header.sequence) fun _ => []

/-- **All that the sending of a frame can come to.** Its payload is too large, and nothing is done;
or it is numbered and handed to the link. -/
theorem sendUntil_cases (messageType : MessageType) (payload : List UInt8) (deadline : Deadline)
    (d : Device σ) :
    (maxPayload < payload.length ∧ d.sendUntil messageType payload deadline =
      ⟨.error (.frame (.payloadTooLarge payload.length maxPayload)), d, []⟩) ∨
    (payload.length ≤ maxPayload ∧ ∃ header, header.sequence = d.sequence ∧
      d.sendUntil messageType payload deadline =
        (({ d with sequence := d.sequence + 1 } : Device σ).sendFrameUntil header payload
          deadline).finish (fun _ => header.sequence) fun _ => []) := by
  unfold sendUntil
  obtain ⟨hsize, hprepare⟩ | ⟨hsize, header, hnumber, hprepare⟩ :=
    d.prepareHeader_cases messageType payload <;> rw [hprepare]
  · exact .inl ⟨hsize, rfl⟩
  · exact .inr ⟨hsize, header, hnumber, rfl⟩

/-- Prepare and send a frame within `timeout`. The result is its number. -/
def send (messageType : MessageType) (payload : List UInt8) (timeout : Nat) (d : Device σ) :
    Run σ UInt16 :=
  d.sendUntil messageType payload (d.deadlineAfter timeout)

/-! ## Waiting -/

/-- Wait for a frame of one of the kinds `types` that answers `sequence`. -/
def waitUntil (sequence : UInt16) (types : List MessageType) (deadline : Deadline)
    (d : Device σ) : Run σ WaitOutcome :=
  let report := Link.awaitInto ⟨sequence, types, d.config.maxPayloadSize⟩ deadline #[] d.link
  ⟨report.result, { d with link := report.link }, report.events sequence⟩

/-- Wait at most `timeout` for a frame of one of the kinds `types` that answers `sequence`. -/
def waitFor (sequence : UInt16) (types : List MessageType) (timeout : Nat) (d : Device σ) :
    Run σ WaitOutcome :=
  d.waitUntil sequence types (d.deadlineAfter timeout)

/-- **The result of a wait is that of the wait on the link,** whatever its buffer holds. -/
theorem waitFor_result (sequence : UInt16) (types : List MessageType) (timeout : Nat)
    (d : Device σ) : (d.waitFor sequence types timeout).result =
      (Link.awaitReply ⟨sequence, types, d.config.maxPayloadSize⟩ (d.deadlineAfter timeout)
        d.link).result := by
  rw [waitFor, waitUntil, Link.awaitInto_eq]

/-- A wait leaves the link as the wait on the link does. -/
theorem waitFor_link (sequence : UInt16) (types : List MessageType) (timeout : Nat)
    (d : Device σ) : (d.waitFor sequence types timeout).device.link =
      (Link.awaitReply ⟨sequence, types, d.config.maxPayloadSize⟩ (d.deadlineAfter timeout)
        d.link).link := by
  rw [waitFor, waitUntil, Link.awaitInto_eq]

/-- Wait at most `timeout` for an acknowledgement of `sequence`, positive or negative. -/
def waitForReply (sequence : UInt16) (timeout : Nat) (d : Device σ) : Run σ WaitOutcome :=
  d.waitFor sequence replyTypes timeout

/-- Is `sequence` acknowledged positively within `timeout`? -/
def waitForAck (sequence : UInt16) (timeout : Nat) (d : Device σ) : Run σ Bool :=
  (d.waitForReply sequence timeout).finish (fun o => o.messageType? == some .ack) fun _ => []

/-! ## Commands -/

/-- Send a frame and wait for its acknowledgement, all within `timeout`. A frame that cannot be
sent in time counts as unanswered. -/
def request (messageType : MessageType) (payload : List UInt8) (timeout : Nat) (d : Device σ) :
    Run σ WaitOutcome :=
  let deadline := d.deadlineAfter timeout
  let sent := d.sendUntil messageType payload deadline
  match sent.result with
  | .error e =>
    if e.isTimeout then
      ⟨.ok .timedOut, sent.device, sent.events ++ [.sendTimedOut messageType]⟩
    else ⟨.error e, sent.device, sent.events⟩
  | .ok _ => sent.andThen fun sequence d => d.waitUntil sequence replyTypes deadline

/-- **All that a request can come to.** Its frame is not sent in time; its frame is not sent for
another reason; or its frame is sent, and its reply is awaited until the same deadline. -/
theorem request_cases (messageType : MessageType) (payload : List UInt8) (timeout : Nat)
    (d : Device σ) :
    let deadline := d.deadlineAfter timeout
    let sent := d.sendUntil messageType payload deadline
    (sent.result = .error (.link .timeout) ∧ d.request messageType payload timeout =
      ⟨.ok .timedOut, sent.device, sent.events ++ [.sendTimedOut messageType]⟩) ∨
    (∃ e, e ≠ .link .timeout ∧ sent.result = .error e ∧
      d.request messageType payload timeout = ⟨.error e, sent.device, sent.events⟩) ∨
    ∃ sequence, sent.result = .ok sequence ∧
      let wait := sent.device.waitUntil sequence replyTypes deadline
      d.request messageType payload timeout =
        ⟨wait.result, wait.device, sent.events ++ wait.events⟩ := by
  unfold request
  cases hsent : (d.sendUntil messageType payload (d.deadlineAfter timeout)).result with
  | error e =>
    by_cases he : e = .link .timeout
    · subst he
      exact .inl ⟨hsent, by simp [hsent, DeviceError.isTimeout]⟩
    · have htime : e.isTimeout = false := by
        rw [← Bool.not_eq_true, DeviceError.isTimeout_iff]
        exact he
      exact .inr (.inl ⟨e, he, hsent, by simp [hsent, htime]⟩)
  | ok sequence => exact .inr (.inr ⟨sequence, hsent, by simp [hsent, Run.andThen]⟩)

/-- Does the device answer within `timeout`? -/
def ping (timeout : Nat) (d : Device σ) : Run σ Bool :=
  (d.request .ping [] timeout).finish (fun o => o.messageType? == some .ack)
    fun o => [.pingFinished (o.messageType? == some .ack)]

/-- Tell the device to leave binary mode and to reset. No reply is awaited. -/
def reset (timeout : Nat) (d : Device σ) : Run σ Unit :=
  (d.send .exit [] timeout).finish (fun _ => ()) fun sequence => [.resetSent sequence]

/-! ## Display -/

/-- The text that shows the state of a device, without its link. -/
def describe (d : Device σ) : String :=
  "FlarmDevice \x7b sequence: " ++ toString d.sequence ++ ", config: DeviceConfig \x7b " ++
    "max_payload_size: " ++ toString d.config.maxPayloadSize ++ ", initial_sequence: " ++
    toString d.config.initialSequence ++ " \x7d \x7d"

end Device

end FramedLink
