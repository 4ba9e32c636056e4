import FramedLink.Text.Number

set_option autoImplicit false
set_option relaxedAutoImplicit false

/-!
# Message types

The type of a frame is one byte. Ten values have a name; every other byte is carried through
as it is. A *reply* is one of the two kinds with which a device answers a command.

## Main definitions

* `FramedLink.MessageType` — the named kinds, and `other` for a byte without a name.
* `FramedLink.MessageType.code`, `FramedLink.MessageType.ofCode` — to the wire byte and back.

## Main results

* `FramedLink.MessageType.code_ofCode` — every byte survives the way through its type.
-/

namespace FramedLink

/-- The kind of a frame. A value `other b` built by hand may carry the byte of a named kind; it
then differs from that kind, although both look alike on the wire. -/
inductive MessageType where
  | error
  | ping
  | setBaudRate
  | flashUpload
  /-- Leave binary mode and reset. -/
  | exit
  | selectRecord
  | getRecordInfo
  | getIgcData
  | ack
  | nack
  | other (code : UInt8)
  deriving DecidableEq, Repr

namespace MessageType

/-- The byte of a type on the wire. -/
def code : MessageType → UInt8
  | error => 0x00
  | ping => 0x01
  | setBaudRate => 0x02
  | flashUpload => 0x10
  | exit => 0x12
  | selectRecord => 0x20
  | getRecordInfo => 0x21
  | getIgcData => 0x22
  | ack => 0xA0
  | nack => 0xB7
  | other b => b

/-- The type of a byte on the wire: the named kind if there is one. -/
def ofCode (b : UInt8) : MessageType :=
  if b = 0x00 then error
  else if b = 0x01 then ping
  else if b = 0x02 then setBaudRate
  else if b = 0x10 then flashUpload
  else if b = 0x12 then exit
  else if b = 0x20 then selectRecord
  else if b = 0x21 then getRecordInfo
  else if b = 0x22 then getIgcData
  else if b = 0xA0 then ack
  else if b = 0xB7 then nack
  else other b

/-- The name of a type. Bytes without a name share one. -/
def name : MessageType → String
  | error => "ERROR"
  | ping => "PING"
  | setBaudRate => "SETBAUDRATE"
  | flashUpload => "FLASHUPLOAD"
  | exit => "EXIT"
  | selectRecord => "SELECTRECORD"
  | getRecordInfo => "GETRECORDINFO"
  | getIgcData => "GETIGCDATA"
  | ack => "ACK"
  | nack => "NACK"
  | other _ => "OTHER"

/-- The kinds with which a device answers a command. -/
def isReply : MessageType → Bool
  | ack | nack => true
  | _ => false

/-- The text of a type: its name, then its byte in brackets. -/
def describe (t : MessageType) : String := t.name ++ " (" ++ Hex.marked t.code ++ ")"

/-- **Every byte survives the way through its type.** -/
theorem code_ofCode (b : UInt8) : (ofCode b).code = b := by
  unfold ofCode
  repeat' split
  all_goals simp_all [code]

/-- A type read from the wire is read again from its own byte. -/
theorem ofCode_code_ofCode (b : UInt8) : ofCode (ofCode b).code = ofCode b := by
  rw [code_ofCode]

end MessageType

end FramedLink
