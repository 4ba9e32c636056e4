set_option autoImplicit false
set_option relaxedAutoImplicit false

/-!
# Failures reported by the operating system

A failed read, write or connect carries a *kind* and a text. The text is the kind's own
description unless the system supplied a more precise one.

## Main definitions

* `FramedLink.IoErrorKind` — the kinds of failure; `IoErrorKind.describe` is their wording.
* `FramedLink.IoError` — a kind with an optional text of its own; `IoError.message`,
  `IoError.ofNumber`.
* `FramedLink.IoErrorKind.isInterruption` — the kinds that only mean "try again".
-/

namespace FramedLink

/-- The kinds of input/output failure. -/
inductive IoErrorKind where
  | notFound
  | permissionDenied
  | connectionRefused
  | connectionReset
  | connectionAborted
  | notConnected
  | addrInUse
  | brokenPipe
  | alreadyExists
  | wouldBlock
  | invalidInput
  | invalidData
  | timedOut
  | writeZero
  | interrupted
  | unexpectedEof
  | outOfMemory
  | other
  deriving DecidableEq, Repr

namespace IoErrorKind

/-- The description of a kind, used when the failure brings no text of its own. -/
def describe : IoErrorKind → String
  | notFound => "entity not found"
  | permissionDenied => "permission denied"
  | connectionRefused => "connection refused"
  | connectionReset => "connection reset"
  | connectionAborted => "connection aborted"
  | notConnected => "not connected"
  | addrInUse => "address in use"
  | brokenPipe => "broken pipe"
  | alreadyExists => "entity already exists"
  | wouldBlock => "operation would block"
  | invalidInput => "invalid input parameter"
  | invalidData => "invalid data"
  | timedOut => "timed out"
  | writeZero => "write zero"
  | interrupted => "operation interrupted"
  | unexpectedEof => "unexpected end of file"
  | outOfMemory => "out of memory"
  | other => "other error"

/-- The kinds with which a blocking call reports that its time slice ended or that a signal
arrived: nothing is wrong with the link, and the call may be repeated. -/
def isInterruption : IoErrorKind → Bool
  | wouldBlock | timedOut | interrupted => true
  | _ => false

/-- The kind behind a number by which the operating system tells failures apart. -/
def ofNumber (n : Nat) : IoErrorKind :=
  match n with
  | 1 | 13 => permissionDenied
  | 2 => notFound
  | 4 => interrupted
  | 11 => wouldBlock
  | 12 => outOfMemory
  | 17 => alreadyExists
  | 22 => invalidInput
  | 32 => brokenPipe
  | 98 => addrInUse
  | 103 => connectionAborted
  | 104 => connectionReset
  | 107 => notConnected
  | 110 => timedOut
  | 111 => connectionRefused
  | _ => other

end IoErrorKind

/-- A failure of the operating system. -/
structure IoError where
  /-- What went wrong. -/
  kind : IoErrorKind
  /-- A text more precise than the description of the kind. -/
  text : Option String := none
  deriving DecidableEq, Repr

namespace IoError

/-- The text of a failure: its own, or the description of its kind. -/
def message (e : IoError) : String := e.text.getD e.kind.describe

/-- The failure with a number of the operating system, and its words for it. -/
def ofNumber (n : Nat) (words : String) : IoError :=
  ⟨.ofNumber n, some (words ++ " (os error " ++ toString n ++ ")")⟩

end IoError

end FramedLink
