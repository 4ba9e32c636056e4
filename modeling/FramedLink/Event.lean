import FramedLink.Exchange
import FramedLink.Text.Quoted

set_option autoImplicit false
set_option relaxedAutoImplicit false

/-!
# Events worth a line in the log

An operation reports what happened on the way as a list of events. An event knows its level,
the part of the program that it comes from, a message and a list of named values; how these are
laid out on a line is decided elsewhere.

## Main definitions

* `FramedLink.Event` — what may be logged.
* `FramedLink.Level` — how important it is.
* `FramedLink.Event.level`, `source`, `message`, `fields` — the parts of a line.
* `FramedLink.WaitReport.events` — the events of a wait.

## Main results

* `FramedLink.WaitReport.mem_events` — all that a wait can report.
-/

namespace FramedLink

/-- The levels of importance, the most important first. -/
inductive Level where
  | error
  | warn
  | info
  | debug
  | trace
  deriving DecidableEq, Repr

namespace Level

/-- The name of a level on a line. -/
def label : Level → String
  | error => "ERROR"
  | warn => "WARN"
  | info => "INFO"
  | debug => "DEBUG"
  | trace => "TRACE"

/-- The rank of a level: the less important, the higher. -/
def rank : Level → Nat
  | error => 0
  | warn => 1
  | info => 2
  | debug => 3
  | trace => 4

end Level

/-- A named value of an event. -/
inductive FieldValue where
  | number (n : Nat)
  | boolean (b : Bool)
  | text (s : String)
  deriving DecidableEq, Repr

/-- What may be logged. -/
inductive Event where
  /-- An escape byte was followed by a byte that completes no pair. -/
  | unknownEscape (code : UInt8)
  /-- A frame went out completely. -/
  | sentFrame (sequence : UInt16) (messageType : MessageType) (payloadLength : Nat)
  /-- A wait found its reply. -/
  | matchedReply (sequence : UInt16) (messageType : MessageType)
  /-- A wait discarded a frame. -/
  | discardedFrame (sequence : UInt16) (discard : Discard)
  /-- A wait ran into its deadline. -/
  | noMatchingReply (sequence : UInt16)
  /-- The frame of a request could not be sent in time. -/
  | sendTimedOut (messageType : MessageType)
  /-- A ping is over. -/
  | pingFinished (alive : Bool)
  /-- The command to reset was sent. -/
  | resetSent (sequence : UInt16)
  /-- A connection over a local socket was made. -/
  | connectedLocal (path : String)
  /-- A connection over the network was made. -/
  | connectedRemote (addr : String)
  /-- An address of a host did not answer. -/
  | connectionFailed (addr : String) (reason : String)
  /-- The ping command has its answer, with the latency as text. -/
  | pingReported (alive : Bool) (latency : String)
  deriving DecidableEq, Repr

namespace Event

/-- How important an event is. -/
def level : Event → Level
  | unknownEscape _ | noMatchingReply _ => .trace
  | resetSent _ | connectedLocal _ | connectedRemote _ => .info
  | _ => .debug

/-- The part of the program that an event comes from. -/
def source : Event → String
  | unknownEscape _ => "flarmlink_frame::escape"
  | sentFrame .. | matchedReply .. | discardedFrame .. | noMatchingReply _ =>
    "flarmlink_device::exchange"
  | sendTimedOut _ | pingFinished _ | resetSent _ => "flarmlink_device::device"
  | connectedLocal _ | connectedRemote _ | connectionFailed .. => "flarmlink_transport::stream"
  | pingReported .. => "flarmlink::cmd::ping"

/-- The message of an event. -/
def message : Event → String
  | unknownEscape _ => "unknown escape code"
  | sentFrame .. => "sent frame"
  | matchedReply .. => "matched reply"
  | discardedFrame .. => "discarded frame"
  | noMatchingReply _ => "no matching reply before deadline"
  | sendTimedOut _ => "send did not complete before deadline"
  | pingFinished _ => "binary ping finished"
  | resetSent _ => "sent binary reset"
  | connectedLocal _ => "connected over unix domain socket"
  | connectedRemote _ => "connected over tcp"
  | connectionFailed .. => "tcp connect attempt failed"
  | pingReported .. => "ping finished"

/-- The named values of an event, in order. -/
def fields : Event → List (String × FieldValue)
  | unknownEscape code => [("code", .number code.toNat)]
  | sentFrame sequence messageType payloadLength =>
    [("sequence", .number sequence.toNat), ("message_type", .text messageType.describe),
      ("payload_len", .number payloadLength)]
  | matchedReply sequence messageType =>
    [("sequence", .number sequence.toNat), ("message_type", .text messageType.describe)]
  | discardedFrame sequence discard =>
    [("sequence", .number sequence.toNat), ("reason", .text discard.why.describe),
      ("remaining", .text (Text.span discard.remaining))]
  | noMatchingReply sequence => [("sequence", .number sequence.toNat)]
  | sendTimedOut messageType => [("message_type", .text messageType.describe)]
  | pingFinished alive => [("alive", .boolean alive)]
  | resetSent sequence => [("sequence", .number sequence.toNat)]
  | connectedLocal path => [("path", .text (Text.quoted path))]
  | connectedRemote addr => [("socket_addr", .text addr)]
  | connectionFailed addr reason => [("socket_addr", .text addr), ("error", .text reason)]
  | pingReported alive latency => [("alive", .boolean alive), ("latency_ms", .text latency)]

/-- The events behind a framing error. -/
def ofFrameError : FrameError → List Event
  | .invalidEscape code => [unknownEscape code]
  | _ => []

/-- The events behind a discarded frame. -/
def ofDiscard (sequence : UInt16) (discard : Discard) : List Event :=
  match discard.why with
  | .malformed e => ofFrameError e ++ [discardedFrame sequence discard]
  | _ => [discardedFrame sequence discard]

/-- Nothing but discarded frames and damaged pairs is behind a discarded frame. -/
theorem mem_ofDiscard {sequence : UInt16} {discard : Discard} {event : Event}
    (h : event ∈ ofDiscard sequence discard) :
    (∃ code, event = unknownEscape code) ∨ event = discardedFrame sequence discard := by
  unfold ofDiscard at h
  split at h
  · next e _ =>
    obtain h | h := List.mem_append.mp h
    · cases e with
      | invalidEscape code => exact .inl ⟨code, List.mem_singleton.mp h⟩
      | _ => exact absurd h List.not_mem_nil
    · exact .inr (List.mem_singleton.mp h)
  · exact .inr (List.mem_singleton.mp h)

end Event

/-- The events of a wait for `sequence`: the discarded frames, then how it ended. -/
def WaitReport.events {σ : Type} (r : WaitReport σ) (sequence : UInt16) : List Event :=
  r.discarded.flatMap (Event.ofDiscard sequence) ++
    match r.result with
    | .ok (.matched reply) => [.matchedReply sequence reply.messageType]
    | .ok .timedOut => [.noMatchingReply sequence]
    | .error _ => []

/-- **All that a wait can report:** frames that it has discarded, the reply that it has found, or
that it has found none in time. -/
theorem WaitReport.mem_events {σ : Type} {r : WaitReport σ} {sequence : UInt16} {event : Event}
    (h : event ∈ r.events sequence) :
    (∃ code, event = .unknownEscape code) ∨
      (∃ discard, event = .discardedFrame sequence discard) ∨
      (∃ reply, r.result = .ok (.matched reply) ∧
        event = .matchedReply sequence reply.messageType) ∨
      r.result = .ok .timedOut ∧ event = .noMatchingReply sequence := by
  unfold WaitReport.events at h
  obtain h | h := List.mem_append.mp h
  · obtain ⟨discard, -, hmem⟩ := List.mem_flatMap.mp h
    obtain hcode | hframe := Event.mem_ofDiscard hmem
    · exact .inl hcode
    · exact .inr (.inl ⟨discard, hframe⟩)
  · refine .inr (.inr ?_)
    split at h
    · next reply hresult => exact .inl ⟨reply, hresult, List.mem_singleton.mp h⟩
    · next hresult => exact .inr ⟨hresult, List.mem_singleton.mp h⟩
    · exact absurd h List.not_mem_nil

end FramedLink
