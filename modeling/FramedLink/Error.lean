import FramedLink.IoError
import FramedLink.Text.Number

set_option autoImplicit false
set_option relaxedAutoImplicit false

/-!
# Errors of the link, of the framing and of the device

Each layer adds the causes that it can tell apart, and carries the causes of the layer below.

## Main definitions

* `FramedLink.LinkError` — why a link operation failed.
* `FramedLink.FrameError` — why bytes are not the transmission of any data, why a frame cannot
  be built, or why the link below failed.
* `FramedLink.DeviceError` — why an operation on a device failed; `DeviceError.ofFrame` brings a
  link failure back to the surface.

## Main results

* `FramedLink.map_eq_ok_iff`, `FramedLink.map_eq_error_iff` — when a mapped result is a value or
  an error.
-/

namespace FramedLink

/-! ## The link -/

/-- Why a link operation failed. -/
inductive LinkError where
  /-- No connection to the endpoint could be made. -/
  | connect (addr : String) (source : IoError)
  /-- The stream below failed. -/
  | io (source : IoError)
  /-- The deadline passed first. -/
  | timeout
  /-- The operation was called off. -/
  | cancelled
  /-- The other end is gone. -/
  | closed
  deriving DecidableEq, Repr

namespace LinkError

/-- The text of a link error. -/
def message : LinkError → String
  | connect addr source => "failed to connect to " ++ addr ++ ": " ++ source.message
  | io source => "transport I/O error: " ++ source.message
  | timeout => "deadline passed before the operation completed"
  | cancelled => "operation cancelled"
  | closed => "port closed"

/-- Only the deadline stood in the way. -/
def isTimeout : LinkError → Bool
  | timeout => true
  | _ => false

/-- Only a timeout is one. -/
theorem isTimeout_iff (e : LinkError) : e.isTimeout = true ↔ e = timeout := by
  cases e <;> simp [isTimeout]

end LinkError

/-! ## The framing -/

/-- Why framing failed. -/
inductive FrameError where
  /-- The escape byte was followed by a byte that completes no pair. -/
  | invalidEscape (code : UInt8)
  /-- The input ended on an escape byte. -/
  | truncatedEscape
  /-- The payload does not fit the length field of the header. -/
  | payloadTooLarge (size : Nat) (max : Nat)
  /-- The link below failed. -/
  | link (source : LinkError)
  deriving DecidableEq, Repr

namespace FrameError

/-- The text of a framing error. -/
def message : FrameError → String
  | invalidEscape code =>
    "invalid escape sequence (0x78 followed by " ++ Hex.marked code ++ ")"
  | truncatedEscape => "truncated escape sequence"
  | payloadTooLarge size max =>
    "payload too large (" ++ toString size ++ " bytes, max " ++ toString max ++ ")"
  | link source => "frame transport error: " ++ source.message

/-- The bytes on the wire were damaged or foreign. -/
def isMalformed : FrameError → Bool
  | invalidEscape _ | truncatedEscape => true
  | _ => false

/-- Only the deadline stood in the way. -/
def isTimeout : FrameError → Bool
  | link source => source.isTimeout
  | _ => false

end FrameError

/-! ## The device -/

/-- Why an operation on a device failed. Damaged frames and unanswered waits are not among the
causes: the former are discarded, the latter have an outcome of their own. -/
inductive DeviceError where
  /-- The link failed and should be given up. -/
  | link (source : LinkError)
  /-- The outbound frame could not be built. -/
  | frame (source : FrameError)
  deriving DecidableEq, Repr

namespace DeviceError

/-- The text of a device error. -/
def message : DeviceError → String
  | link source => "transport error: " ++ source.message
  | frame source => "frame error: " ++ source.message

/-- A send ran into its deadline. -/
def isTimeout : DeviceError → Bool
  | link .timeout => true
  | _ => false

/-- Only the timeout of a link is one. -/
theorem isTimeout_iff (e : DeviceError) : e.isTimeout = true ↔ e = link .timeout := by
  rcases e with (_ | _ | _ | _ | _) | _ <;> simp [isTimeout]

/-- The operation was called off. -/
def isCancelled : DeviceError → Bool
  | link .cancelled => true
  | _ => false

/-- A framing error as a device error: a link failure inside it comes to the surface. -/
def ofFrame : FrameError → DeviceError
  | .link source => .link source
  | e => .frame e

end DeviceError

/-! ## Results -/

section Results

variable {ε α β : Type} {r : Except ε α} {f : α → β}

/-- A mapped result is a value exactly if the result is. -/
theorem map_eq_ok_iff {b : β} : r.map f = .ok b ↔ ∃ a, r = .ok a ∧ f a = b := by
  cases r <;> simp [Except.map]

/-- A mapped result is an error exactly if the result is the same error. -/
theorem map_eq_error_iff {e : ε} : r.map f = .error e ↔ r = .error e := by
  cases r <;> simp [Except.map]

end Results

end FramedLink
