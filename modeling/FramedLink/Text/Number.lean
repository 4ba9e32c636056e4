set_option autoImplicit false
set_option relaxedAutoImplicit false

/-!
# Numbers as text

Bytes are written with two lower-case hexadecimal digits each, the high half first.

A number without a sign of its own may be written with a plus in front. It has at least one
digit and must not exceed a given bound; leading zeros do not matter.

A duration is written in the largest of the units second, millisecond, microsecond and
nanosecond that it reaches, with as many decimals as it takes to be exact and none to spare.

## Main definitions

* `FramedLink.Hex.digit` — the hexadecimal digit of a number below sixteen.
* `FramedLink.Hex.ofByte`, `FramedLink.Hex.ofBytes` — the digits of a byte and of a byte string.
* `FramedLink.Hex.digitValue?` — the value of a digit, of either letter case.
* `FramedLink.Text.readNumber?` — the number written by a text, up to a bound.
* `FramedLink.Text.span` — the text of a duration.
-/

namespace FramedLink

/-! ## Bytes as hexadecimal digits -/

namespace Hex

/-- The lower-case digit of a number below sixteen. -/
def digit (n : Nat) : Char :=
  if n < 10 then Char.ofNat (48 + n) else Char.ofNat (87 + n)

/-- The two digits of a byte, the high half first. -/
def ofByte (b : UInt8) : List Char := [digit (b.toNat / 16), digit (b.toNat % 16)]

/-- The digits of a byte string, two for each byte. -/
def ofBytes (bytes : List UInt8) : List Char := bytes.flatMap ofByte

/-- A byte as text, with the mark of hexadecimal notation in front. -/
def marked (b : UInt8) : String := "0x" ++ String.ofList (ofByte b)

/-- The value of a digit, of either letter case. -/
def digitValue? (c : Char) : Option Nat :=
  if '0' ≤ c ∧ c ≤ '9' then some (c.toNat - 48)
  else if 'a' ≤ c ∧ c ≤ 'f' then some (c.toNat - 87)
  else if 'A' ≤ c ∧ c ≤ 'F' then some (c.toNat - 55)
  else none

/-- A byte string has two digits for each of its bytes. -/
theorem length_ofBytes (bytes : List UInt8) : (ofBytes bytes).length = 2 * bytes.length := by
  induction bytes with
  | nil => rfl
  | cons b bytes ih =>
    simp only [ofBytes, List.flatMap_cons, List.length_append, List.length_cons] at ih ⊢
    simp only [ih, ofByte, List.length_cons, List.length_nil]
    omega

end Hex

namespace Text

/-! ## Reading numbers -/

/-- The value of a digit in a radix of at most sixteen. -/
def digitIn? (radix : Nat) (c : Char) : Option Nat := (Hex.digitValue? c).filter (· < radix)

/-- Go on with the number `value` over more digits. -/
def readDigits? (radix bound : Nat) (value : Nat) : List Char → Option Nat
  | [] => some value
  | c :: rest =>
    match digitIn? radix c with
    | none => none
    | some d =>
      let value := value * radix + d
      if value ≤ bound then readDigits? radix bound value rest else none

/-- The number written by a text: a plus at most, then digits. The number must not exceed
`bound`. -/
def readNumber? (radix bound : Nat) : List Char → Option Nat
  | [] => none
  | ['+'] => none
  | '+' :: digits => readDigits? radix bound 0 digits
  | digits => readDigits? radix bound 0 digits

/-! ## Durations -/

/-- The decimals of `rest / 10 ^ width`, without trailing zeros and with the point in front. -/
def decimals (width rest : Nat) : List Char :=
  let digits := (Nat.toDigits 10 rest)
  let padded := List.replicate (width - digits.length) '0' ++ digits
  match (padded.reverse.dropWhile (· == '0')).reverse with
  | [] => []
  | kept => '.' :: kept

/-- A duration in a unit of `one` nanoseconds, which is `10 ^ width`. -/
def spanIn (width one : Nat) (unit : String) (nanos : Nat) : String :=
  toString (nanos / one) ++ String.ofList (decimals width (nanos % one)) ++ unit

/-- The text of a duration given in nanoseconds. -/
def span (nanos : Nat) : String :=
  if 1000000000 ≤ nanos then spanIn 9 1000000000 "s" nanos
  else if 1000000 ≤ nanos then spanIn 6 1000000 "ms" nanos
  else if 1000 ≤ nanos then spanIn 3 1000 "µs" nanos
  else spanIn 0 1 "ns" nanos

end Text

end FramedLink
