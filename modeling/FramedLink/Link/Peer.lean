import FramedLink.Header
import FramedLink.Link.Memory
import FramedLink.Stuffing

set_option autoImplicit false
set_option relaxedAutoImplicit false

/-!
# A link to a simulated device

The other end of this link is a device that follows a plan: it greets whoever connects, then
answers the frames that it receives one by one with what the plan says, and falls silent. It may
hang up after its last answer. Apart from that the link is a memory link.

The device recognises a frame as a device does: it starts at a marker and ends when as many
bytes have arrived, behind the stuffing, as the length field says.

## Main definitions

* `FramedLink.FrameReceiver` — the frames in a stream of bytes, byte by byte.
* `FramedLink.PeerLink` — the state of the link, and its `Link` instance.
-/

namespace FramedLink

/-! ## Recognising frames -/

/-- The state of a receiver of frames. -/
structure FrameReceiver where
  /-- The frame in progress as it was received, empty before its marker. -/
  wire : Array UInt8 := #[]
  /-- The number of bytes of the frame behind the stuffing. -/
  size : Nat := 0
  /-- The length field, as far as it has been received. -/
  length : Nat := 0
  /-- The next byte completes a pair. -/
  escaped : Bool := false
  /-- The complete frames, as they were received. -/
  frames : Array (List UInt8) := #[]

namespace FrameReceiver

/-- Take in a byte of the frame behind the stuffing. The first two bytes are the length field.
The frame ends when it has a whole header and that length. -/
def takeData (r : FrameReceiver) (b : UInt8) : FrameReceiver :=
  let length := r.length + (if r.size = 0 then b.toNat else if r.size = 1 then 256 * b.toNat else 0)
  let r := { r with length, size := r.size + 1, escaped := false }
  if headerSize ≤ r.size ∧ r.length ≤ r.size then { frames := r.frames.push r.wire.toList } else r

/-- Take in a byte from the wire. -/
def takeByte (r : FrameReceiver) (b : UInt8) : FrameReceiver :=
  if b = Stuffing.marker then { frames := r.frames, wire := #[b] }
  else if r.wire.isEmpty then r
  else
    let r := { r with wire := r.wire.push b }
    if r.escaped then
      r.takeData (if b = Stuffing.markerCode then Stuffing.marker else Stuffing.escape)
    else if b = Stuffing.escape then { r with escaped := true }
    else r.takeData b

/-- Take in bytes from the wire. -/
def take (r : FrameReceiver) (bytes : List UInt8) : FrameReceiver := bytes.foldl takeByte r

end FrameReceiver

/-! ## The device -/

/-- What a simulated device does. -/
structure PeerPlan where
  /-- What it sends at first. -/
  greeting : List UInt8 := []
  /-- What it sends after the first frame, after the second one and so on. -/
  replies : List (List UInt8) := []
  /-- Does it hang up after its last answer, or after the first frame if it has none? -/
  hangsUp : Bool := false
  deriving DecidableEq, Repr

/-- The state of a link to a simulated device. -/
structure PeerLink where
  /-- The link to the device. -/
  memory : MemoryLink
  /-- What the device has received. -/
  receiver : FrameReceiver := {}
  /-- The answers that the device has not sent yet. -/
  replies : List (List UInt8)
  /-- Does the device hang up after its last answer? -/
  hangsUp : Bool
  /-- Has it hung up? -/
  closed : Bool := false

namespace PeerLink

/-- A fresh connection to a device. -/
def connect (plan : PeerPlan) : PeerLink :=
  { memory := MemoryLink.pushInbound {} plan.greeting, replies := plan.replies,
    hangsUp := plan.hangsUp }

/-- The frames that the device has received, as they came over the wire. -/
def frames (p : PeerLink) : List (List UInt8) := p.receiver.frames.toList

/-- Let the device answer one frame. -/
def answer (p : PeerLink) : PeerLink :=
  match p.replies with
  | [] => { p with closed := p.closed || p.hangsUp }
  | reply :: replies =>
    { p with
      memory := p.memory.pushInbound reply
      replies
      closed := p.closed || (p.hangsUp && replies.isEmpty) }

/-- Deliver bytes to the device, which answers each frame that they complete. -/
def deliver (data : List UInt8) : PeerLink → PeerLink
  | { memory, receiver, replies, hangsUp, closed } =>
    let before := receiver.frames.size
    let receiver := receiver.take data
    (List.range (receiver.frames.size - before)).foldl (fun p _ => p.answer)
      { memory, receiver, replies, hangsUp, closed }

/-- The failure of a write to a device that has hung up. -/
def brokenPipe : LinkError := .io ⟨.brokenPipe, some "Broken pipe (os error 32)"⟩

/-- Write to the device. -/
def write (data : List UInt8) (deadline : Deadline) : PeerLink →
    Except LinkError Nat × PeerLink
  | { memory, receiver, replies, hangsUp, closed } =>
    if closed && !memory.cancelled then
      (.error brokenPipe, { memory, receiver, replies, hangsUp, closed })
    else
      match MemoryLink.write data deadline memory with
      | (.error e, memory) => (.error e, { memory, receiver, replies, hangsUp, closed })
      | (.ok n, memory) => (.ok n, deliver data { memory, receiver, replies, hangsUp, closed })

/-- Read from the device. When it has hung up, all that it had sent can still be read. -/
def readAvailable (n : Nat) (deadline : Deadline) (p : PeerLink) :
    Except LinkError (List UInt8) × PeerLink :=
  if p.closed && p.memory.inbound.isEmpty && !p.memory.cancelled && n != 0 then (.error .closed, p)
  else
    let r := Link.readAvailable n deadline p.memory
    (r.1, { p with memory := r.2 })

instance : Link PeerLink where
  now p := Link.now p.memory
  write := write
  readAvailable := readAvailable
  supply p := Link.supply p.memory
  length_le_of_read {n deadline p p' bytes} h := by
    unfold readAvailable at h
    split at h
    · simp at h
    · generalize hr : Link.readAvailable n deadline p.memory = r at h
      obtain ⟨r, memory⟩ := r
      obtain ⟨rfl, -⟩ := Prod.mk.inj h
      exact Link.length_le_of_read hr
  supply_le_of_read {n deadline p p' r} h := by
    unfold readAvailable at h
    split at h
    · obtain ⟨-, rfl⟩ := Prod.mk.inj h
      exact Nat.le_refl _
    · generalize hr : Link.readAvailable n deadline p.memory = r at h
      obtain ⟨r, memory⟩ := r
      obtain ⟨-, rfl⟩ := Prod.mk.inj h
      exact Link.supply_le_of_read hr
  supply_lt_of_read {n deadline p p' bytes} hn h := by
    unfold readAvailable at h
    split at h
    · simp at h
    · generalize hr : Link.readAvailable n deadline p.memory = r at h
      obtain ⟨r, memory⟩ := r
      obtain ⟨rfl, rfl⟩ := Prod.mk.inj h
      exact Link.supply_lt_of_read hn hr

end PeerLink

end FramedLink
