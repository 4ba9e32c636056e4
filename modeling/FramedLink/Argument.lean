import FramedLink.Failure
import FramedLink.Text.Blank
import FramedLink.Text.Number
import FramedLink.Text.Quoted
import FramedLink.Time

set_option autoImplicit false
set_option relaxedAutoImplicit false

/-!
# Values of arguments

How a timeout, a payload and the byte of a message type are written on the command line.

* A **timeout** is a whole number of seconds, or of milliseconds with the unit `ms` behind it;
  the unit `s` may be given too. Blanks around it do not matter. It is not zero.
* A **payload** is written in hexadecimal, two digits for each byte; white space of ASCII may
  stand anywhere.
* A **byte** is written in decimal, or in hexadecimal after `0x`. Blanks around it do not matter.

In each of them a number may have a plus in front.

## Main definitions

* `FramedLink.Argument.timeout` — the nanoseconds of a timeout.
* `FramedLink.Argument.payload` — the bytes of a payload.
* `FramedLink.Argument.byte` — the value of a byte.
-/

namespace FramedLink.Argument

/-- A text without `ending` at its end, if it ends so. -/
def stripEnd? (ending text : List Char) : Option (List Char) :=
  if ending.isSuffixOf text then some (text.take (text.length - ending.length)) else none

/-- A text without `start` at its beginning, if it begins so. -/
def stripStart? (start text : List Char) : Option (List Char) :=
  if start.isPrefixOf text then some (text.drop start.length) else none

/-- What is left of a text without its ending. -/
theorem stripEnd?_eq_some_iff (ending text rest : List Char) :
    stripEnd? ending text = some rest ↔ text = rest ++ ending := by
  unfold stripEnd?
  split
  · next h =>
    obtain ⟨front, rfl⟩ := List.isSuffixOf_iff_suffix.mp h
    simp [eq_comm]
  · next h =>
    refine iff_of_false nofun ?_
    rintro rfl
    exact h (List.isSuffixOf_iff_suffix.mpr (List.suffix_append rest ending))

/-- What is left of a text without its beginning. -/
theorem stripStart?_eq_some_iff (start text rest : List Char) :
    stripStart? start text = some rest ↔ text = start ++ rest := by
  unfold stripStart?
  split
  · next h =>
    obtain ⟨back, rfl⟩ := List.isPrefixOf_iff_prefix.mp h
    simp [eq_comm]
  · next h =>
    refine iff_of_false nofun ?_
    rintro rfl
    exact h (List.isPrefixOf_iff_prefix.mpr (List.prefix_append start rest))

/-! ## Timeouts -/

/-- The largest number of a timeout. -/
def maxCount : Nat := UInt64.size - 1

/-- A number and the nanoseconds of its unit. -/
def splitUnit (text : List Char) : List Char × Nat :=
  match stripEnd? ['m', 's'] text with
  | some number => (number, millis 1)
  | none =>
    match stripEnd? ['s'] text with
    | some number => (number, seconds 1)
    | none => (text, seconds 1)

/-- The nanoseconds of a timeout. -/
def timeout (input : String) : Except Failure Nat :=
  let text := Text.trim input.toList
  if text.isEmpty then .error ⟨.usage, "duration must not be empty"⟩
  else
    let (number, unit) := splitUnit text
    match Text.readNumber? 10 maxCount number with
    | none => .error ⟨.usage, "invalid duration value: " ++ String.ofList text⟩
    | some 0 => .error ⟨.usage, "duration must be greater than zero"⟩
    | some count => .ok (count * unit)

/-! ## Payloads -/

/-- The white space that may stand in a payload. -/
def isLayout (c : Char) : Bool :=
  c == ' ' || c == '\t' || c == '\n' || c == '\x0c' || c == '\r'

/-- The size of a text, in bytes. -/
def textSize (text : List Char) : Nat := text.foldr (fun c size => c.utf8Size + size) 0

/-- Read pairs of digits, where `done` holds the bytes read so far, the last first. -/
def readPairs? (done : List UInt8) : List Char → Option (List UInt8)
  | [] => some done.reverse
  | [_] => none
  | a :: b :: rest =>
    match Text.readNumber? 16 255 [a, b] with
    | some n => readPairs? (UInt8.ofNat n :: done) rest
    | none => none

/-- The bytes of a payload. An odd number of characters is noticed before a wrong one, and a
character beyond ASCII counts for as many as it has bytes. -/
def payload (input : String) : Except Failure (List UInt8) :=
  let digits := input.toList.filter (!isLayout ·)
  if textSize digits % 2 = 1 then .error ⟨.usage, "hex payload has an odd number of digits"⟩
  else
    match readPairs? [] digits with
    | some bytes => .ok bytes
    | none => .error ⟨.usage, "invalid hex payload: " ++ input⟩

/-! ## Bytes -/

/-- The value of a byte, or why the text is none. -/
def byte (input : String) : Except String UInt8 :=
  let text := Text.trim input.toList
  let value? :=
    match (stripStart? ['0', 'x'] text).or (stripStart? ['0', 'X'] text) with
    | some digits => Text.readNumber? 16 255 digits
    | none => Text.readNumber? 10 255 text
  match value? with
  | some n => .ok (UInt8.ofNat n)
  | none => .error ("expected a byte value, got " ++ Text.quoted (String.ofList text))

end FramedLink.Argument
