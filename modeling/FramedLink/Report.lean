import FramedLink.Decimal
import FramedLink.MessageType
import FramedLink.Text.Json
import FramedLink.Text.Table

set_option autoImplicit false
set_option relaxedAutoImplicit false

/-!
# Reports

What a command found out is printed in one of four formats: as a line of JSON, as a table, as a
sentence, or bare, with nothing but the answer itself.

## Main definitions

* `FramedLink.Format` — the formats.
* `FramedLink.PingReport`, `FramedLink.ExchangeReport` — the findings.
* `FramedLink.PingReport.print`, `FramedLink.ExchangeReport.print` — what is printed.
-/

namespace FramedLink

/-- The formats of a report. -/
inductive Format where
  | json
  | table
  | pretty
  | raw
  deriving DecidableEq, Repr

/-- The format of a report that goes to another program. -/
def Format.default : Format := json

/-- A text as the bytes that are printed. -/
def textBytes (text : String) : List UInt8 := text.toUTF8.toList

/-- Lines of text as the bytes that are printed. -/
def lineBytes (lines : List String) : List UInt8 :=
  textBytes (String.join (lines.map (· ++ "\n")))

/-! ## Pings -/

/-- The finding of a ping. -/
structure PingReport where
  /-- The address of the device. -/
  addr : String
  /-- The number of the ping. -/
  sequence : UInt16
  /-- Did the device answer? -/
  alive : Bool
  /-- How long the answer took, in hundredths of a millisecond. -/
  latency : Option Nat
  deriving DecidableEq, Repr

/-- A latency in milliseconds. -/
def latencyMillis (hundredths : Nat) : Decimal.Binary := (Decimal.Binary.ofNat hundredths).div 100

namespace PingReport

/-- The answer in words. -/
def status (r : PingReport) : String := if r.alive then "alive" else "no response"

/-- The latency with two decimals and its unit, or a dash. -/
def latencyText (r : PingReport) : String :=
  match r.latency with
  | some hundredths => String.ofList ((latencyMillis hundredths).fixed 2) ++ "ms"
  | none => "-"

/-- The report as JSON. -/
def toJson (r : PingReport) : Text.Json :=
  .object
    [("addr", .text r.addr), ("sequence", .nat r.sequence.toNat), ("alive", .boolean r.alive),
      ("latency_ms",
        match r.latency with
        | some hundredths => .number (String.ofList (latencyMillis hundredths).describe)
        | none => .null)]

/-- What is printed. -/
def print (r : PingReport) : Format → List UInt8
  | .json => lineBytes [r.toJson.render]
  | .table =>
    lineBytes (Text.table ["DEVICE", "SEQ", "STATUS", "LATENCY"]
      [r.addr, toString r.sequence, r.status, r.latencyText])
  | .pretty =>
    lineBytes [r.addr ++ ": " ++ r.status ++ " (seq=" ++ toString r.sequence ++ ", latency=" ++
      r.latencyText ++ ")"]
  | .raw => lineBytes [if r.alive then "1" else "0"]

end PingReport

/-! ## Exchanges -/

/-- The finding of an exchange of frames. -/
structure ExchangeReport where
  /-- The address of the device. -/
  addr : String
  /-- The kind of the frame sent. -/
  messageType : MessageType
  /-- The number of the frame sent. -/
  sequence : UInt16
  /-- How the exchange ended, in a word. -/
  outcome : String
  /-- The body of the reply. -/
  body : List UInt8
  deriving DecidableEq, Repr

namespace ExchangeReport

/-- The body of the reply in hexadecimal. -/
def bodyText (r : ExchangeReport) : String := String.ofList (Hex.ofBytes r.body)

/-- The report as JSON. -/
def toJson (r : ExchangeReport) : Text.Json :=
  .object
    [("addr", .text r.addr), ("message_type", .text r.messageType.describe),
      ("sequence", .nat r.sequence.toNat), ("outcome", .text r.outcome),
      ("body", .text r.bodyText)]

/-- What is printed. In the bare format it is the body itself, without a line end. -/
def print (r : ExchangeReport) : Format → List UInt8
  | .json => lineBytes [r.toJson.render]
  | .table =>
    lineBytes (Text.table ["DEVICE", "TYPE", "SEQ", "OUTCOME", "BODY"]
      [r.addr, r.messageType.describe, toString r.sequence, r.outcome, r.bodyText])
  | .pretty =>
    lineBytes [r.messageType.describe ++ " seq=" ++ toString r.sequence ++ " -> " ++ r.outcome ++
      " body=" ++ r.bodyText]
  | .raw => r.body

end ExchangeReport

end FramedLink
