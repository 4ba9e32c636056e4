set_option autoImplicit false
set_option relaxedAutoImplicit false

/-!
# Binary fractions as decimals

A measured quantity is a fraction with a mantissa of fifty-three bits. It is written either with
a fixed number of decimals, or with the fewest digits that no other such fraction is nearer to.
All arithmetic is exact, on natural numbers.

## Main definitions

* `FramedLink.Decimal.roundRatio` — the nearest integer to a ratio, ties to the even one.
* `FramedLink.Decimal.Binary` — a binary fraction, and `Binary.ofRatio`, the one nearest to a
  ratio.
* `FramedLink.Decimal.Binary.fixed` — the text with a fixed number of decimals.
* `FramedLink.Decimal.Binary.shortest` — the fewest digits that read back.
* `FramedLink.Decimal.Binary.describe` — those digits as text, positionally below `10 ^ 16` and
  with an exponent from there on, with at least one decimal in the former case.
-/

namespace FramedLink.Decimal

/-- The integer nearest to `num / den`, the even one of two that are equally near. -/
def roundRatio (num den : Nat) : Nat :=
  let whole := num / den
  let twice := 2 * (num % den)
  if twice < den ∨ (twice = den ∧ whole % 2 = 0) then whole else whole + 1

/-- The digits of a number, the most significant first. -/
def digits (n : Nat) : List Char := Nat.toDigits 10 n

/-- The power of `base` to an exponent; a negative exponent counts as zero. -/
def power (base : Nat) (exponent : Int) : Nat := Nat.pow base exponent.toNat

/-! ## Binary fractions -/

/-- The binary fraction `mantissa * 2 ^ exponent`. The mantissa has fifty-three bits, unless the
fraction is zero. -/
structure Binary where
  /-- The mantissa. -/
  mantissa : Nat
  /-- The exponent. -/
  exponent : Int
  deriving DecidableEq, Repr

namespace Binary

/-- The number of bits of a mantissa. -/
def precision : Nat := 53

/-- The least number that has more bits than a mantissa. -/
def mantissaBound : Nat := Nat.pow 2 precision

/-- The least mantissa. -/
def leastMantissa : Nat := Nat.pow 2 (precision - 1)

/-- Is `mantissa * 2 ^ exponent` at least `num / den`? -/
def ratioFits (num den : Nat) (exponent : Int) : Bool :=
  decide (num * power 2 (-exponent) < mantissaBound * den * power 2 exponent)

/-- The binary fraction nearest to `num / den`, the one with the even mantissa of two that are
equally near. The exponent is the least one that leaves the mantissa within its bits. -/
def ofRatio (num den : Nat) : Binary :=
  if num = 0 then ⟨0, 0⟩
  else
    let guess : Int := (Nat.log2 num : Int) - (Nat.log2 den : Int) - precision
    let exponent := if ratioFits num den guess then guess else guess + 1
    let mantissa := roundRatio (num * power 2 (-exponent)) (den * power 2 exponent)
    if mantissa = mantissaBound then ⟨leastMantissa, exponent + 1⟩ else ⟨mantissa, exponent⟩

/-- The binary fraction nearest to a natural number. -/
def ofNat (n : Nat) : Binary := ofRatio n 1

/-- The binary fraction nearest to the quotient of `x` and `n`. -/
def div (x : Binary) (n : Nat) : Binary :=
  ofRatio (x.mantissa * power 2 x.exponent) (n * power 2 (-x.exponent))

/-! ## A fixed number of decimals -/

/-- The text of `x` with `places` decimals, rounded to the nearest, a tie to the even digit. -/
def fixed (x : Binary) (places : Nat) : List Char :=
  let scaled :=
    roundRatio (x.mantissa * power 2 x.exponent * power 10 places) (power 2 (-x.exponent))
  let text := digits scaled
  let padded := List.replicate (places + 1 - text.length) '0' ++ text
  let whole := padded.length - places
  padded.take whole ++ '.' :: padded.drop whole

/-! ## The fewest digits -/

/-- The decimal `value * 10 ^ exponent`. -/
structure Digits where
  /-- The digits, as one number. -/
  value : Nat
  /-- The power of ten of the last digit. -/
  exponent : Int
  deriving DecidableEq, Repr

/-- Does `x` lie nearest to the decimal `d`? The decimals that read as `x` reach halfway to its
two neighbours, the ends included when its mantissa is even. -/
def readsBack (x : Binary) (d : Digits) : Bool :=
  let below := if x.mantissa = leastMantissa then 4 * x.mantissa - 1 else 4 * x.mantissa - 2
  let above := 4 * x.mantissa + 2
  let unit := power 2 x.exponent * power 10 (-d.exponent)
  let value := 4 * d.value * power 10 d.exponent * power 2 (-x.exponent)
  if x.mantissa % 2 = 0 then decide (below * unit ≤ value ∧ value ≤ above * unit)
  else decide (below * unit < value ∧ value < above * unit)

/-- The decimal nearest to `x` among the two around it whose last digit counts
`10 ^ exponent`, if it reads as `x`. -/
def nearest? (x : Binary) (exponent : Int) : Option Digits :=
  let num := x.mantissa * power 2 x.exponent * power 10 (-exponent)
  let den := power 2 (-x.exponent) * power 10 exponent
  let low := num / den
  let near := roundRatio num den
  let far := if near = low then low + 1 else low
  if x.readsBack ⟨near, exponent⟩ then some ⟨near, exponent⟩
  else if x.readsBack ⟨far, exponent⟩ then some ⟨far, exponent⟩
  else none

/-- The fewest digits that read as `x`: the first hit, going from coarse decimals to fine ones,
without trailing zeros. -/
def shortest (x : Binary) : Digits :=
  if x.mantissa = 0 then ⟨0, 0⟩
  else
    let coarsest : Int := ((digits (x.mantissa * power 2 x.exponent)).length : Int)
    let finest : Int := if x.exponent < 0 then x.exponent else 0
    let steps := List.range (coarsest - finest + 1).toNat
    let hit := steps.findSome? fun step => x.nearest? (coarsest - Int.ofNat step)
    hit.getD ⟨x.mantissa * power 2 x.exponent * power 5 (-x.exponent), finest⟩

/-- The text of the fewest digits that read as `x`. Below `10 ^ 16` it is positional and has at
least one decimal; from there on it has an exponent with its sign. -/
def describe (x : Binary) : List Char :=
  let d := x.shortest
  let text := digits d.value
  let point : Int := text.length + d.exponent
  if d.value = 0 then ['0', '.', '0']
  else if 0 ≤ d.exponent ∧ point ≤ 16 then
    text ++ List.replicate d.exponent.toNat '0' ++ ['.', '0']
  else if 0 < point ∧ point ≤ 16 then
    text.take point.toNat ++ '.' :: text.drop point.toNat
  else if -5 < point ∧ point ≤ 0 then
    ['0', '.'] ++ List.replicate (-point).toNat '0' ++ text
  else
    let sign := if point ≤ 0 then '-' else '+'
    let tail := 'e' :: sign :: digits (point - 1).natAbs
    match text with
    | [] => []
    | [d] => d :: tail
    | d :: rest => d :: '.' :: rest ++ tail

end Binary

end FramedLink.Decimal
