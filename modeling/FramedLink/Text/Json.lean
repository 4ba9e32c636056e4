import FramedLink.Text.Number

set_option autoImplicit false
set_option relaxedAutoImplicit false

/-!
# JSON on one line

A value is written without any space, the members of an object in the order given.

## Main definitions

* `FramedLink.Text.Json` — the values that are written: numbers already laid out, texts and
  objects.
* `FramedLink.Text.Json.render` — a value on one line.
-/

namespace FramedLink.Text

/-- A value to be written. -/
inductive Json where
  | null
  | boolean (b : Bool)
  /-- A number in its final layout. -/
  | number (layout : String)
  | text (s : String)
  | object (members : List (String × Json))

namespace Json

/-- A natural number. -/
def nat (n : Nat) : Json := number (toString n)

/-- A character inside a text. Only quotes, backslashes and the controls below the space are
not written as they are. -/
def textChar (c : Char) : List Char :=
  if c = '"' then ['\\', '"']
  else if c = '\\' then ['\\', '\\']
  else if c = '\n' then ['\\', 'n']
  else if c = '\r' then ['\\', 'r']
  else if c = '\t' then ['\\', 't']
  else if c.toNat = 8 then ['\\', 'b']
  else if c.toNat = 12 then ['\\', 'f']
  else if c.toNat < 32 then ['\\', 'u', '0', '0'] ++ Hex.ofByte (UInt8.ofNat c.toNat)
  else [c]

/-- A text between quotes. -/
def quote (s : String) : List Char := '"' :: s.toList.flatMap textChar ++ ['"']

mutual

/-- A value on one line. -/
def chars : Json → List Char
  | null => ['n', 'u', 'l', 'l']
  | boolean b => (toString b).toList
  | number layout => layout.toList
  | text s => quote s
  | object members => '\x7b' :: memberChars members ++ ['\x7d']

/-- The members of an object, with commas between them. -/
def memberChars : List (String × Json) → List Char
  | [] => []
  | [(name, value)] => quote name ++ ':' :: value.chars
  | (name, value) :: rest => quote name ++ ':' :: value.chars ++ ',' :: memberChars rest

end

/-- A value on one line. -/
def render (j : Json) : String := String.ofList j.chars

end Json

end FramedLink.Text
