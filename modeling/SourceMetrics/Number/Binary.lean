/-!
# Binary floating-point numbers, exactly

Averages and confidences are binary floating-point numbers of 53 significant bits. They are held as
`mantissa * 2 ^ exponent` with natural mantissa, and every operation is a rounded quotient of
natural numbers, so no machine arithmetic is involved. Nothing in a report is negative, and the
numbers here are not either; `Signed` adds a sign and the two kinds of value beyond them for numbers
that are read from a configuration.

A rounded quotient goes to the nearest number of 53 bits, and from halfway to the even one.
Exponents go down to `-1074`, below which the mantissa gets shorter.

## Main definitions

* `Number.roundDiv` — a quotient rounded to a natural number
* `Number.Binary`, `Binary.ofRatio` — the numbers, and the nearest one to a quotient
* `Binary.roundTo` — the nearest number to the value rounded to some decimal places
* `Number.Signed` — with sign, infinities and the undefined value
-/

namespace SourceMetrics

namespace Number

/-- The quotient rounded to the nearest natural number, from halfway to the even one. -/
def roundDiv (num den : Nat) : Nat :=
  let q := num / den
  let r := num % den
  if 2 * r < den || (2 * r == den && q % 2 == 0) then q else q + 1

/-- The number `mantissa * 2 ^ exponent`. -/
structure Binary where
  mantissa : Nat
  exponent : Int
  deriving DecidableEq, Repr

namespace Binary

/-- The least exponent, at which the mantissa may have fewer than 53 bits. -/
def minExponent : Int := -1074

/-- The fraction `num / den` times `2 ^ shift`, as a fraction. -/
def scaled (num den : Nat) (shift : Int) : Nat × Nat :=
  if shift < 0 then (num, den * Nat.pow 2 shift.natAbs) else (num * Nat.pow 2 shift.natAbs, den)

/-- The nearest number to the fraction `num / den`. The shift makes the quotient a number of 53
bits; if rounding carries into a 54th, that bit goes into the exponent. -/
def ofRatio (num den : Nat) : Binary :=
  if num = 0 then ⟨0, 0⟩
  else
    let guess : Int := 52 - (num.log2 - den.log2 : Int)
    let tight := scaled num den guess
    let exact := if tight.1 < tight.2 * Nat.pow 2 52 then guess + 1 else guess
    let shift := min exact (-minExponent)
    let fraction := scaled num den shift
    let m := roundDiv fraction.1 fraction.2
    if m = Nat.pow 2 53 then ⟨Nat.pow 2 52, 1 - shift⟩ else ⟨m, -shift⟩

/-- The nearest number to a natural number. -/
def ofNat (n : Nat) : Binary := ofRatio n 1

/-- The value as a fraction. -/
def toRatio (x : Binary) : Nat × Nat := scaled x.mantissa 1 x.exponent

/-- The nearest number to the product. -/
def mul (x y : Binary) : Binary :=
  let a := x.toRatio
  let b := y.toRatio
  ofRatio (a.1 * b.1) (a.2 * b.2)

/-- The nearest number to the quotient. -/
def div (x y : Binary) : Binary :=
  let a := x.toRatio
  let b := y.toRatio
  ofRatio (a.1 * b.2) (a.2 * b.1)

/-- The value times `10 ^ places`, rounded to a natural number. -/
def scaleTo (x : Binary) (places : Nat) : Nat :=
  let a := x.toRatio
  roundDiv (a.1 * Nat.pow 10 places) a.2

/-- The nearest number to the value rounded to `places` decimal places. -/
def roundTo (x : Binary) (places : Nat) : Binary :=
  ofRatio (x.scaleTo places) (Nat.pow 10 places)

/-- Whether the value exceeds an integer. -/
def exceeds (x : Binary) (n : Int) : Bool :=
  let a := x.toRatio
  decide (n * a.2 < a.1)

/-- Whether the value is beyond the largest finite number of 64-bit arithmetic. -/
def overflows (x : Binary) : Bool :=
  let a := x.toRatio
  decide (a.2 * Nat.pow 2 1024 ≤ a.1)

end Binary

/-- A number with a sign, an infinity, or no number at all. -/
inductive Signed where
  | undefined
  | infinite (negative : Bool)
  | finite (negative : Bool) (magnitude : Binary)
  deriving DecidableEq, Repr

namespace Signed

/-- The number written `digits * 10 ^ exponent`, with a sign. Exponents far beyond the range of
finite numbers are decided without computing the power. -/
def ofDecimal (negative : Bool) (digits : Nat) (exponent : Int) : Signed :=
  let size : Int := (toString digits).length
  if digits = 0 || size + exponent < -400 then finite negative ⟨0, 0⟩
  else if 400 < size + exponent then infinite negative
  else
    let x :=
      if exponent < 0 then Binary.ofRatio digits (Nat.pow 10 exponent.natAbs)
      else Binary.ofRatio (digits * Nat.pow 10 exponent.natAbs) 1
    if x.overflows then infinite negative else finite negative x

/-- A finite number that is not negative. -/
def ofBinary (x : Binary) : Signed := finite false x

/-- Whether the value is zero, of either sign. -/
def isZero : Signed → Bool
  | finite _ x => x.mantissa == 0
  | _ => false

end Signed

end Number

end SourceMetrics
