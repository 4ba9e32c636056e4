import FramedLink.Error

set_option autoImplicit false
set_option relaxedAutoImplicit false

/-!
# Failures of commands

A command that fails ends the program with a status that tells the class of the failure and
with a message: what the command was doing, then what went wrong.

## Main definitions

* `FramedLink.ExitStatus` — the classes of outcomes; `ExitStatus.code` is the number reported.
* `FramedLink.Failure` — a status and a message.
* `FramedLink.Failure.ofIo`, `ofLink`, `ofFrame`, `ofDevice` — the failure behind an error of
  each layer.
-/

namespace FramedLink

/-- The classes of outcomes of a command. -/
inductive ExitStatus where
  | success
  /-- The peer refused, is missing or is gone. -/
  | failure
  /-- The link failed. -/
  | link
  | permissionDenied
  /-- The data cannot be sent. -/
  | dataInvalid
  /-- An argument has no meaning. -/
  | usage
  | timeout
  /-- The program met with what should not happen. -/
  | internal
  | cancelled
  deriving DecidableEq, Repr

/-- The number that a program reports for a class. -/
def ExitStatus.code : ExitStatus → Nat
  | success => 0
  | failure => 1
  | link => 3
  | permissionDenied => 50
  | dataInvalid => 60
  | usage => 64
  | timeout => 124
  | internal => 125
  | cancelled => 130

/-- The failure of a command. -/
structure Failure where
  /-- The class of the failure. -/
  status : ExitStatus
  /-- What was being done, and what went wrong. -/
  message : String
  deriving DecidableEq, Repr

namespace Failure

/-- A failure of the operating system. -/
def ofIo (context : String) (e : IoError) : Failure :=
  let status :=
    match e.kind with
    | .permissionDenied => ExitStatus.permissionDenied
    | .timedOut | .wouldBlock => .timeout
    | .connectionRefused | .notFound => .failure
    | _ => .link
  ⟨status, context ++ ": " ++ e.message⟩

/-- A failure of the link. What the operating system says is passed on as it is. -/
def ofLink (context : String) (e : LinkError) : Failure :=
  match e with
  | .connect _ source | .io source => ofIo context source
  | .timeout => ⟨.timeout, context ++ ": " ++ e.message⟩
  | .cancelled => ⟨.cancelled, context ++ ": " ++ e.message⟩
  | .closed => ⟨.failure, context ++ ": " ++ e.message⟩

/-- A failure of the framing. -/
def ofFrame (context : String) (e : FrameError) : Failure :=
  match e with
  | .link source => ofLink context source
  | .payloadTooLarge .. => ⟨.dataInvalid, context ++ ": " ++ e.message⟩
  | _ => ⟨.internal, context ++ ": " ++ e.message⟩

/-- A failure of the device. -/
def ofDevice (context : String) : DeviceError → Failure
  | .link source => ofLink context source
  | .frame source => ofFrame context source

end Failure

end FramedLink
