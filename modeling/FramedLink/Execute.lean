import FramedLink.CommandLine
import FramedLink.Device
import FramedLink.Network

set_option autoImplicit false
set_option relaxedAutoImplicit false

/-!
# Executing commands

A command whose arguments have been read is a job: it connects to the device, works with it and
prints a report. So **no connection is made for a command with a wrong argument**, and **a
checked reset is sent only to a device that has answered.**

## Main definitions

* `FramedLink.Job` — what there is to do; `FramedLink.Command.job` reads the arguments.
* `FramedLink.Execution` — how a command went.
* `FramedLink.Command.execute` — execute a command.
-/

namespace FramedLink

/-- What is known of how the program was built. -/
structure Build where
  /-- The name of the program. -/
  name : String := "flarmlink"
  /-- Its version. -/
  version : String := "0.1.0"
  /-- The machine, system and interface that it was built for. -/
  target : String
  /-- The system. -/
  targetSystem : String
  /-- The machine. -/
  targetMachine : String
  deriving DecidableEq, Repr

/-- How a command went. -/
structure Execution (σ : Type) where
  /-- The class of its outcome, or why it failed. -/
  result : Except Failure ExitStatus
  /-- What was printed. -/
  printed : List UInt8 := []
  /-- What happened on the way. -/
  events : List Event := []
  /-- The link to the device afterwards, if there was a connection. -/
  link : Option σ := none

/-! ## Jobs -/

/-- A command whose arguments have been read. -/
inductive Job where
  /-- Print the version of the program. -/
  | version (extended : Bool)
  /-- Ping a device. -/
  | ping (target : Target) (timeout : Nat)
  /-- Reset a device, if `check` is set only when it answers. -/
  | reset (target : Target) (timeout : Nat) (check : Bool)
  /-- Send a frame to a device, and wait for the reply if `wait` is set. -/
  | send (target : Target) (timeout : Nat) (type : MessageType) (payload : List UInt8)
    (wait : Bool)
  deriving DecidableEq, Repr

/-- The job of a command. The timeout is read before the payload. -/
def Command.job : Command → Except Failure Job
  | .version extended => .ok (.version extended)
  | .ping t => do return .ping t (← Argument.timeout t.timeout)
  | .reset t check => do return .reset t (← Argument.timeout t.timeout) check
  | .send t type data wait => do
    let timeout ← Argument.timeout t.timeout
    let payload ← Argument.payload (data.getD "")
    return .send t timeout (.ofCode type) payload wait

/-- The device that a job works with. -/
def Job.target? : Job → Option Target
  | .version _ => none
  | .ping t _ | .reset t _ _ | .send t _ _ _ _ => some t

/-! ## Versions -/

/-- The line with name and version. -/
def Build.line (b : Build) : String := b.name ++ " " ++ b.version

/-- What is printed about the program. -/
def Build.print (b : Build) (localSockets : Bool) (extended : Bool) : List UInt8 :=
  if extended then
    lineBytes
      ["name: " ++ b.name, "version: " ++ b.version, "target: " ++ b.target,
        "target_os: " ++ b.targetSystem, "target_arch: " ++ b.targetMachine,
        "protocol_version: " ++ toString protocolVersion,
        "start_frame: " ++ Hex.marked Stuffing.marker, "unix_sockets: " ++ toString localSockets]
  else lineBytes [b.line]

/-! ## Connections -/

variable {σ : Type} [Link σ]

/-- Connect to a device. The result comes with what happened on the way. -/
def Target.connect (network : Network σ) (t : Target) :
    Except Failure (Device σ) × List Event :=
  let opened (r : Except LinkError σ × List Event) : Except Failure (Device σ) × List Event :=
    ((r.1.mapError (Failure.ofLink "connect failed")).map (Device.ofLink · {}), r.2)
  if t.isLocal then
    match network.dialSocket with
    | none => (.error ⟨.usage, "--unix is only supported on Unix platforms"⟩, [])
    | some dialSocket => opened (Network.connectSocket dialSocket t.addr)
  else opened (network.connectRemote t.addr)

/-- Connect to a device and work with it. -/
def Target.withDevice (network : Network σ) (t : Target)
    (work : Device σ → Execution σ) : Execution σ :=
  match t.connect network with
  | (.error failure, events) => { result := .error failure, events }
  | (.ok device, events) =>
    let done := work device
    { done with events := events ++ done.events }

/-- Go on with the value of an operation on a device. -/
def Device.Run.report {α : Type} (r : Device.Run σ α) (context : String)
    (next : α → Device σ → Execution σ) : Execution σ :=
  match r.result with
  | .error e =>
    { result := .error (.ofDevice context e), events := r.events, link := some r.device.link }
  | .ok a =>
    let done := next a r.device
    { done with events := r.events ++ done.events }

/-! ## Execution -/

/-- A time in hundredths of a millisecond, rounded to the nearest. -/
def hundredths (nanos : Nat) : Nat := (nanos + 5000) / 10000

/-- Ping a device. -/
def executePing (format : Format) (t : Target) (timeout : Nat) (d : Device σ) : Execution σ :=
  (d.ping timeout).report "ping failed" fun alive d' =>
    let latency := if alive then some (hundredths (Link.now d'.link - Link.now d.link)) else none
    let shown :=
      match latency with
      | some n => "Some(" ++ String.ofList (latencyMillis n).describe ++ ")"
      | none => "None"
    { result := .ok (if alive then .success else .timeout)
      printed := PingReport.print ⟨t.addr, d.sequence, alive, latency⟩ format
      events := [.pingReported alive shown]
      link := some d'.link }

/-- Reset a device without asking whether it answers. -/
def executeReset (format : Format) (t : Target) (timeout : Nat) (d : Device σ) : Execution σ :=
  (d.reset timeout).report "reset failed" fun () d' =>
    { result := .ok .success
      printed := ExchangeReport.print ⟨t.addr, .exit, d.sequence, "sent", []⟩ format
      link := some d'.link }

/-- Reset a device that answers. -/
def executeCheckedReset (format : Format) (t : Target) (timeout : Nat) (d : Device σ) :
    Execution σ :=
  (d.ping timeout).report "ping failed" fun alive d' =>
    if alive then executeReset format t timeout d'
    else
      { result :=
          .error ⟨.timeout, t.addr ++ " did not answer in binary mode, not resetting"⟩
        link := some d'.link }

/-- The word for the end of an exchange, the body of the reply and the class of the outcome. -/
def WaitOutcome.summary : WaitOutcome → String × List UInt8 × ExitStatus
  | matched reply =>
    if reply.messageType = .ack then ("ack", reply.body, .success)
    else ("nack", reply.body, .failure)
  | timedOut => ("timeout", [], .timeout)

/-- Send a frame. -/
def executeSend (format : Format) (t : Target) (type : MessageType) (payload : List UInt8)
    (timeout : Nat) (d : Device σ) : Execution σ :=
  (d.send type payload timeout).report "send failed" fun sequence d' =>
    { result := .ok .success
      printed := ExchangeReport.print ⟨t.addr, type, sequence, "sent", []⟩ format
      link := some d'.link }

/-- Send a frame and wait for the reply. -/
def executeRequest (format : Format) (t : Target) (type : MessageType) (payload : List UInt8)
    (timeout : Nat) (d : Device σ) : Execution σ :=
  (d.request type payload timeout).report "request failed" fun outcome d' =>
    let (word, body, status) := outcome.summary
    { result := .ok status
      printed := ExchangeReport.print ⟨t.addr, type, d.sequence, word, body⟩ format
      link := some d'.link }

/-- Execute a job. -/
def Job.execute (network : Network σ) (build : Build) (format : Format) : Job → Execution σ
  | .version extended =>
    { result := .ok .success, printed := build.print network.dialSocket.isSome extended }
  | .ping t timeout => t.withDevice network (executePing format t timeout)
  | .reset t timeout check =>
    t.withDevice network
      (if check then executeCheckedReset format t timeout else executeReset format t timeout)
  | .send t timeout type payload wait =>
    t.withDevice network
      (if wait then executeRequest format t type payload timeout
        else executeSend format t type payload timeout)

/-- Execute a command. -/
def Command.execute (network : Network σ) (build : Build) (format : Format) (c : Command) :
    Execution σ :=
  match c.job with
  | .error failure => { result := .error failure }
  | .ok job => job.execute network build format

/-- The number that the program reports for a command. -/
def Execution.exitCode (e : Execution σ) : Nat :=
  match e.result with
  | .ok status => status.code
  | .error failure => failure.status.code

end FramedLink
