import FramedLink.Device

set_option autoImplicit false
set_option relaxedAutoImplicit false

/-!
# Sessions

A session is a sequence of operations on one device, each on the device that the one before has
left. What an operation is asked to do, and what it answers, are values here, so that something
can be said of all operations at once and of all sequences of them.

## Main definitions

* `FramedLink.Device.Operation`, `FramedLink.Device.Answer` — what a device is asked to do, and what
  it answers.
* `FramedLink.Device.perform` — carry out one operation.
* `FramedLink.Device.after` — the device after a session.
* `FramedLink.Device.Transmission`, `FramedLink.Device.transmissions` — a frame that was handed to
  the link, and how its sending ended; those of a session.
-/

namespace FramedLink.Device

variable {σ : Type} [Link σ]

/-! ## Operations -/

/-- What a device may be asked to do. -/
inductive Operation where
  /-- Number a frame, but do not send it. -/
  | prepareHeader (messageType : MessageType) (payload : List UInt8)
  /-- Send a frame that has been numbered. -/
  | sendFrame (header : FrameHeader) (payload : List UInt8) (timeout : Nat)
  /-- Number and send a frame. -/
  | send (messageType : MessageType) (payload : List UInt8) (timeout : Nat)
  /-- Wait for a frame of some kinds. -/
  | waitFor (sequence : UInt16) (types : List MessageType) (timeout : Nat)
  /-- Wait for an acknowledgement, positive or negative. -/
  | waitForReply (sequence : UInt16) (timeout : Nat)
  /-- Wait for a positive acknowledgement. -/
  | waitForAck (sequence : UInt16) (timeout : Nat)
  /-- Send a frame and wait for its acknowledgement. -/
  | request (messageType : MessageType) (payload : List UInt8) (timeout : Nat)
  /-- Ask whether the device answers. -/
  | ping (timeout : Nat)
  /-- Tell the device to reset. -/
  | reset (timeout : Nat)
  deriving DecidableEq, Repr

/-- The time that an operation may take. To number a frame takes none. -/
def Operation.timeout : Operation → Nat
  | prepareHeader .. => 0
  | sendFrame _ _ timeout | send _ _ timeout | waitFor _ _ timeout | waitForReply _ timeout
  | waitForAck _ timeout | request _ _ timeout | ping timeout | reset timeout => timeout

/-- What an operation answers. -/
inductive Answer where
  /-- The header of the numbered frame. -/
  | header (header : FrameHeader)
  /-- It is done. -/
  | done
  /-- The number of the frame that was sent. -/
  | number (sequence : UInt16)
  /-- How a wait ended. -/
  | outcome (outcome : WaitOutcome)
  /-- Was there a positive acknowledgement? -/
  | acknowledged (yes : Bool)
  deriving DecidableEq, Repr

/-- The run with another form of its value. -/
def Run.map {α β : Type} (r : Run σ α) (value : α → β) : Run σ β :=
  ⟨r.result.map value, r.device, r.events⟩

omit [Link σ] in
/-- The result that is made of a result. -/
@[simp] theorem Run.result_map {α β : Type} (r : Run σ α) (value : α → β) :
    (r.map value).result = r.result.map value := rfl

/-- Carry out one operation. -/
def perform (d : Device σ) : Operation → Run σ Answer
  | .prepareHeader messageType payload =>
    let (header, d) := d.prepareHeader messageType payload
    ⟨header.map .header, d, []⟩
  | .sendFrame header payload timeout => (d.sendFrame header payload timeout).map fun _ => .done
  | .send messageType payload timeout => (d.send messageType payload timeout).map .number
  | .waitFor sequence types timeout => (d.waitFor sequence types timeout).map .outcome
  | .waitForReply sequence timeout => (d.waitForReply sequence timeout).map .outcome
  | .waitForAck sequence timeout => (d.waitForAck sequence timeout).map .acknowledged
  | .request messageType payload timeout => (d.request messageType payload timeout).map .outcome
  | .ping timeout => (d.ping timeout).map .acknowledged
  | .reset timeout => (d.reset timeout).map fun _ => .done

/-- The device after a session. -/
def after (d : Device σ) : List Operation → Device σ
  | [] => d
  | op :: ops => (d.perform op).device.after ops

/-! ## Transmissions -/

/-- A frame that was handed to the link, and how its sending ended. -/
structure Transmission where
  /-- The header of the frame. -/
  header : FrameHeader
  /-- Its payload. -/
  payload : List UInt8
  /-- The result of sending it. -/
  result : Except LinkError Unit

/-- The frame on the wire. -/
def Transmission.wire (t : Transmission) : List UInt8 := frameBytes t.header t.payload

/-- Hand a frame to the link. -/
def transmit (header : FrameHeader) (payload : List UInt8) (timeout : Nat) (d : Device σ) :
    Transmission :=
  ⟨header, payload, (Link.sendFrame header payload (d.deadlineAfter timeout) d.link).1⟩

/-- Number a frame and hand it to the link, unless its payload is too large. -/
def transmitNext? (messageType : MessageType) (payload : List UInt8) (timeout : Nat)
    (d : Device σ) : Option Transmission :=
  match (d.prepareHeader messageType payload).1 with
  | .ok header => some (d.transmit header payload timeout)
  | .error _ => none

/-- The frame that an operation hands to the link. -/
def transmission? (d : Device σ) : Operation → Option Transmission
  | .sendFrame header payload timeout => some (d.transmit header payload timeout)
  | .send messageType payload timeout | .request messageType payload timeout =>
    d.transmitNext? messageType payload timeout
  | .ping timeout => d.transmitNext? .ping [] timeout
  | .reset timeout => d.transmitNext? .exit [] timeout
  | .prepareHeader .. | .waitFor .. | .waitForReply .. | .waitForAck .. => none

/-- The frames that a session hands to the link, in order. -/
def transmissions (d : Device σ) : List Operation → List Transmission
  | [] => []
  | op :: ops => (d.transmission? op).toList ++ (d.perform op).device.transmissions ops

end FramedLink.Device
