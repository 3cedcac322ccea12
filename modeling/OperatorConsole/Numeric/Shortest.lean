import OperatorConsole.Numeric.Binary64

/-!
# Shortest decimal text

The decimal of fewest digits that rounds to a given magnitude, the nearest of
those, and its text.
-/

namespace OperatorConsole.Numeric

/-- The decimal `coefficient * 10 ^ exponent`. -/
structure Decimal where
  coefficient : Nat
  exponent : Int
deriving DecidableEq, Repr

namespace Binary64

/-- The multiples of `10 ^ exponent` on both sides of a magnitude, the nearer
one first, as far as they round to it.  All comparisons are made in quarters of
the last bit, where the bounds of the rounding interval are whole numbers. -/
def onGrid (value : Binary64) (exponent : Int) : List Nat :=
  let bits := value.exponent - 2
  let scale := Nat.pow 2 bits.toNat * Nat.pow 10 (-exponent).toNat
  let unit := Nat.pow 2 (-bits).toNat * Nat.pow 10 exponent.toNat
  let middle := 4 * value.mantissa
  let below :=
    if value.mantissa = Nat.pow 2 52 ∧ value.exponent ≠ leastExponent then 1
    else 2
  let inside (candidate : Nat) : Bool :=
    let low := (middle - below) * scale
    let high := (middle + 2) * scale
    if value.mantissa % 2 = 0 then
      low ≤ candidate * unit && candidate * unit ≤ high
    else low < candidate * unit && candidate * unit < high
  let floor := middle * scale / unit
  let nearFirst :=
    if 2 * (middle * scale - floor * unit) ≤ unit then [floor, floor + 1]
    else [floor + 1, floor]
  nearFirst.filter inside

/-- Search the grids from `10 ^ exponent` down. -/
def shortestFrom (value : Binary64) : Nat → Int → Decimal
  | 0, exponent => ⟨0, exponent⟩
  | steps + 1, exponent =>
      match value.onGrid exponent with
      | coefficient :: _ => ⟨coefficient, exponent⟩
      | [] => shortestFrom value steps (exponent - 1)

/-- The nearest decimal on the coarsest grid that has one which rounds to the
magnitude.  Grids from `10 ^ 309` to `10 ^ (-326)` cover every magnitude. -/
def shortest (value : Binary64) : Decimal :=
  shortestFrom value 636 309

end Binary64

/-- How decimals are written: positional between two powers of ten, with an
exponent outside. -/
structure DecimalStyle where
  leastPositional : Int
  greatestPositional : Int
  plusSign : Bool
deriving DecidableEq, Repr

namespace Decimal

def zeros (count : Nat) : List Char :=
  List.replicate count '0'

/-- Digits with a point after the first `whole` of them. -/
def positional (digits : List Char) (whole : Int) : List Char :=
  if whole ≤ 0 then
    ['0', '.'] ++ zeros (-whole).toNat ++ digits
  else if (digits.length : Int) ≤ whole then
    digits ++ zeros (whole.toNat - digits.length) ++ ['.', '0']
  else
    digits.take whole.toNat ++ ['.'] ++ digits.drop whole.toNat

/-- One digit before the point, the others after it, and the exponent. -/
def scientific (style : DecimalStyle) (digits : List Char) (power : Int) :
    List Char :=
  let fraction := digits.drop 1
  let sign :=
    if power < 0 then ['-'] else if style.plusSign then ['+'] else []
  digits.take 1 ++ (if fraction.isEmpty then [] else '.' :: fraction) ++
    ['e'] ++ sign ++ Nat.toDigits 10 power.natAbs

/-- The text of a decimal without zeros at the end of its coefficient. -/
def text (style : DecimalStyle) (decimal : Decimal) : List Char :=
  if decimal.coefficient = 0 then ['0', '.', '0']
  else
    let digits := Nat.toDigits 10 decimal.coefficient
    let power := decimal.exponent + digits.length - 1
    if style.leastPositional ≤ power ∧ power ≤ style.greatestPositional then
      positional digits (power + 1)
    else scientific style digits power

end Decimal

end OperatorConsole.Numeric
