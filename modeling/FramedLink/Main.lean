import FramedLink.Link.Recorded
import FramedLink.Link.Stream
import FramedLink.Program
import Std.Async.DNS
import Std.Async.Select
import Std.Async.TCP
import Std.Async.Timer

set_option autoImplicit false
set_option relaxedAutoImplicit false

/-!
# The program

The program on a live network. What arrives over a link is recorded, and the program is run over
the record as often as the record grows, until the run is settled: then what it prints is final.
What a run writes is sent as soon as it is known, and a run over a longer record writes the same
bytes first.

The system behind it has no local sockets to offer.

## Main definitions

* `FramedLink.LiveLink` — an open link and its record.
* `main` — the program.
-/

namespace FramedLink

open Std.Async

/-! ## Failures of the system -/

/-- The number by which the system tells failures apart, which may come with its sign turned. -/
def failureNumber (n : UInt32) : Nat :=
  if n.toNat < UInt32.size / 2 then n.toNat else UInt32.size - n.toNat

/-- A failure of the system, as the program reports it. -/
def liveFailure (e : IO.Error) : IoError :=
  match e with
  | .alreadyExists _ n words | .invalidArgument _ n words | .permissionDenied _ n words
  | .resourceExhausted _ n words | .inappropriateType _ n words | .noSuchThing _ n words
  | .interrupted _ n words | .noFileOrDirectory _ n words
  | .otherError n words | .resourceBusy n words | .resourceVanished n words
  | .unsupportedOperation n words | .hardwareFault n words | .unsatisfiedConstraints n words
  | .illegalOperation n words | .protocolError n words | .timeExpired n words =>
    .ofNumber (failureNumber n) words.capitalize
  | .unexpectedEof => ⟨.unexpectedEof, none⟩
  | .userError words => ⟨.other, some words⟩

/-- Try an action of the system. -/
def attemptLive {α : Type} (action : IO α) : IO (Except IoError α) := do
  try
    return .ok (← action)
  catch e =>
    return .error (liveFailure e)

/-- The timer behind a time limit: whole milliseconds, not less than the limit. -/
def timerSpan (nanos : Nat) : Std.Time.Millisecond.Offset := .ofNat (nanos / 1000000 + 1)

/-! ## Opening a link -/

/-- The address of a service of a host, as the system takes it and as it is shown. -/
def liveAddress (addr : Std.Net.IPAddr) (service : UInt16) : Std.Net.SocketAddress × String :=
  match addr with
  | .v4 a => (.v4 ⟨a, service⟩, toString a ++ ":" ++ toString service)
  | .v6 a => (.v6 ⟨a, service⟩, "[" ++ toString a ++ "]:" ++ toString service)

/-- Connect to an address, within the time limit of connections. -/
def dialLive (addr : Std.Net.SocketAddress) : IO TCP.Socket.Client := do
  let client ← TCP.Socket.Client.mk
  let connect : Async Bool := do
    client.connect addr
    return true
  let giveUp : Async Bool := do
    sleep (timerSpan ({} : LinkConfig).connectTimeout)
    return false
  if ← (Async.race connect giveUp).block then
    client.noDelay
    return client
  else throw (.timeExpired 110 "connection timed out")

/-- The attempts to connect to a host: the addresses tried, with their failures, and the link to
the one that answered. -/
structure LiveDialling where
  /-- The addresses that were tried, or why there are none. -/
  addrs : Except IoError (List String)
  /-- Why addresses did not answer. -/
  failures : List (String × IoError)
  /-- The link to the address that answered. -/
  client : Option TCP.Socket.Client

/-- Connect to a service of a host. The addresses after the one that answers are not tried. -/
def dialHost (host : String) (service : UInt16) : IO LiveDialling := do
  match ← attemptLive (DNS.getAddrInfo host (toString service)).block with
  | .error e =>
    let text := "failed to lookup address information: " ++ e.message
    return ⟨.error ⟨.other, some text⟩, [], none⟩
  | .ok addrs =>
    let mut shown : List String := []
    let mut failures : List (String × IoError) := []
    for addr in addrs.toList.eraseDups do
      let (live, text) := liveAddress addr service
      shown := shown ++ [text]
      match ← attemptLive (dialLive live) with
      | .ok client => return ⟨.ok shown, failures, some client⟩
      | .error e => failures := failures ++ [(text, e)]
    return ⟨.ok shown, failures, none⟩

/-- The network of a program that has dialled a host, or none, with the record of the link. -/
def LiveDialling.network (d : LiveDialling) (record : RecordedLink) : Network RecordedLink where
  dialSocket := none
  resolve _ _ := d.addrs
  dial addr :=
    match d.failures.lookup addr with
    | some e => .error e
    | none => .ok record

/-! ## Running over a link -/

/-- An open link and its record. -/
structure LiveLink where
  /-- The link. -/
  client : TCP.Socket.Client
  /-- The instant at which it was opened. -/
  opened : Nat
  /-- What has arrived. -/
  record : RecordedLink := {}
  /-- The number of bytes sent. -/
  sent : Nat := 0

namespace LiveLink

/-- The time since the link was opened. -/
def elapsed (live : LiveLink) : IO Nat := do return (← IO.monoNanosNow) - live.opened

/-- Wait for something to arrive, at most `span`. -/
def receive? (live : LiveLink) (span : Nat) : IO (Option Arrival) := do
  let waiting : Async (Option Arrival) := do
    let timer ← Selector.sleep (timerSpan span)
    Selectable.one #[
      .case (live.client.recvSelector 65536) fun bytes =>
        return some (.ofBytes ((bytes.map ByteArray.toList).getD [])),
      .case timer fun _ => return none]
  match ← attemptLive waiting.block with
  | .ok arrival => return arrival
  | .error e => return some (.failure e)

/-- Send what a run has written beyond what has been sent. -/
def sendRest (live : LiveLink) (outbound : Array UInt8) : IO LiveLink := do
  let rest := outbound.extract live.sent outbound.size
  if rest.isEmpty then return live
  match ← attemptLive (live.client.send ⟨rest⟩).block with
  | .ok () => return { live with sent := outbound.size }
  | .error e => return { live with record := { live.record with limit := some (live.sent, e) } }

/-- Run a program over the record of a link until the run is settled. -/
partial def settle (live : LiveLink) (run : RecordedLink → Transcript RecordedLink) :
    IO (Transcript RecordedLink) := do
  let done := run live.record
  let link := done.link.getD live.record
  let sent ← live.sendRest link.outbound
  if sent.record.limit.isSome && live.record.limit.isNone then sent.settle run
  else
    let now ← sent.elapsed
    if link.settledAt now then return done
    match ← sent.receive? (link.now - now) with
    | none => sent.settle run
    | some arrival =>
      let arrivals := sent.record.arrivals ++ [(← sent.elapsed, arrival)]
      { sent with record := { sent.record with arrivals } }.settle run

end LiveLink

/-! ## The program -/

/-- The host and the service that a command line asks for, if it asks for any. -/
def remoteOf? (args : List String) (envAddr : Option String) : Option (String × UInt16) := do
  let invocation ← (Invocation.parse args envAddr).toOption
  let job ← invocation.command.job.toOption
  let target ← job.target?
  if target.isLocal then none else (Endpoint.readAddress target.addr).toOption

/-- How this program was built. -/
def liveBuild : Build :=
  { target := "unknown", targetSystem := "unknown", targetMachine := "unknown" }

/-- Run the program on the live network. -/
def runLive (args : List String) (envAddr : Option String) : IO (Transcript RecordedLink) := do
  let dialling ← match remoteOf? args envAddr with
    | none => pure ⟨.ok [], [], none⟩
    | some (host, service) => dialHost host service
  let run (record : RecordedLink) : Transcript RecordedLink :=
    Program.run (dialling.network record) liveBuild args envAddr
  match dialling.client with
  | none => return run {}
  | some client => LiveLink.settle { client, opened := ← IO.monoNanosNow } run

end FramedLink

/-- The program: it takes the address of the device from its arguments, or from the environment,
and reports the class of the outcome. -/
def main (args : List String) : IO UInt32 := do
  let done ← FramedLink.runLive args (← IO.getEnv "FLARMLINK_ADDR")
  let output ← IO.getStdout
  output.write ⟨done.printed.toArray⟩
  output.flush
  let log ← IO.getStderr
  for line in done.logged do
    log.putStrLn line
  return UInt32.ofNat done.exitCode
