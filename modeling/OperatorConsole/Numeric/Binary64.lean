/-!
# Binary64 numbers

Finite 64-bit floating point magnitudes as exact values
`mantissa * 2 ^ exponent`.  Every operation computes the exact result as a
ratio of naturals and rounds it once, to the nearest magnitude and to the even
one of two.
-/

namespace OperatorConsole.Numeric

/-- The magnitude `mantissa * 2 ^ exponent`. -/
structure Binary64 where
  mantissa : Nat
  exponent : Int
deriving DecidableEq, Repr

namespace Binary64

def leastExponent : Int := -1074
def greatestExponent : Int := 971
def mantissaBound : Nat := Nat.pow 2 53

def zero : Binary64 := ⟨0, leastExponent⟩

/-- `numerator / denominator / 2 ^ exponent` as a ratio. -/
def scaleDown (numerator denominator : Nat) (exponent : Int) : Nat × Nat :=
  (numerator * Nat.pow 2 (-exponent).toNat,
    denominator * Nat.pow 2 exponent.toNat)

/-- The natural number nearest to a ratio; of two equally near, the even one. -/
def roundRatio (numerator denominator : Nat) : Nat :=
  let quotient := numerator / denominator
  let twice := 2 * (numerator % denominator)
  if twice < denominator then quotient
  else if denominator < twice then quotient + 1
  else quotient + quotient % 2

/-- The exponent at which a ratio has a mantissa of 53 bits, or the least
one. -/
def exponentFor (numerator denominator : Nat) : Int :=
  let guess : Int := (Nat.log2 numerator : Int) - Nat.log2 denominator - 52
  let scaled := scaleDown numerator denominator guess
  let adjusted :=
    if scaled.1 < Nat.pow 2 52 * scaled.2 then guess - 1 else guess
  max adjusted leastExponent

/-- The magnitude nearest to a ratio, or `none` beyond the greatest one. -/
def ofRatio? (numerator denominator : Nat) : Option Binary64 :=
  if numerator = 0 then some zero
  else
    let exponent := exponentFor numerator denominator
    let scaled := scaleDown numerator denominator exponent
    let mantissa := roundRatio scaled.1 scaled.2
    let rounded : Binary64 :=
      if mantissa = mantissaBound then ⟨Nat.pow 2 52, exponent + 1⟩
      else ⟨mantissa, exponent⟩
    if rounded.exponent > greatestExponent then none else some rounded

/-- The magnitude as a ratio. -/
def ratio (value : Binary64) : Nat × Nat :=
  (value.mantissa * Nat.pow 2 value.exponent.toNat,
    Nat.pow 2 (-value.exponent).toNat)

def ofNat? (value : Nat) : Option Binary64 :=
  ofRatio? value 1

def mul? (left right : Binary64) : Option Binary64 :=
  let l := left.ratio
  let r := right.ratio
  ofRatio? (l.1 * r.1) (l.2 * r.2)

def div? (left right : Binary64) : Option Binary64 :=
  let l := left.ratio
  let r := right.ratio
  ofRatio? (l.1 * r.2) (l.2 * r.1)

/-- `significand * 10 ^ exponent`, in steps that each round: the significand,
the power of ten, and their product or quotient.  A power beyond `10 ^ 308` is
taken off first when it divides; when it multiplies, only zero stays in
range. -/
def ofDecimal? (significand : Nat) (exponent : Int) : Option Binary64 := do
  scale (← ofNat? significand) exponent
where
  scale (value : Binary64) (exponent : Int) : Option Binary64 :=
    if exponent.natAbs ≤ 308 then do
      let power ← ofNat? (Nat.pow 10 exponent.natAbs)
      if 0 ≤ exponent then value.mul? power else value.div? power
    else if value.mantissa = 0 then some value
    else if 0 ≤ exponent then none
    else do
      let power ← ofNat? (Nat.pow 10 308)
      scale (← value.div? power) (exponent + 308)
  termination_by exponent.natAbs

end Binary64

end OperatorConsole.Numeric
