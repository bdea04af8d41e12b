import SourceMetrics.Number.Binary

/-!
# Decimal text of a number

Two ways to write a binary number in decimal. `fixed` has a given number of places. `shortest` has
the fewest digits that read back as the same number, and of those the nearest to its value: for one,
two, … seventeen digits it tries the two neighbours of the value on the grid of that many digits,
and takes the first grid on which one lies in the interval of values that round to the number. The
ends of the interval belong to it if the mantissa is even, since halfway goes to the even mantissa.

The shortest form is written positionally while the point stands at most sixteen digits to the right
of the first digit and at most three zeros follow it on the left, always with a digit behind the
point; otherwise with an exponent of a sign and at least two digits.

## Main definitions

* `Number.Binary.fixed` — a given number of places
* `Number.Binary.shortestDigits` — the fewest digits that read back
* `Number.Binary.shortest`, `Number.Signed.shortest` — their text
-/

namespace SourceMetrics

namespace Number

/-- The number `digits * 10 ^ exponent`. -/
structure Decimal where
  digits : Nat
  exponent : Int
  deriving DecidableEq, Repr

namespace Decimal

/-- The value as a fraction. -/
def toRatio (d : Decimal) : Nat × Nat :=
  if d.exponent < 0 then (d.digits, Nat.pow 10 d.exponent.natAbs)
  else (d.digits * Nat.pow 10 d.exponent.natAbs, 1)

/-- Drops zeros at the end of the digits, at most `fuel` of them. -/
def dropZeros : Nat → Decimal → Decimal
  | 0, d => d
  | fuel + 1, d =>
    if d.digits % 10 = 0 && d.digits ≠ 0 then dropZeros fuel ⟨d.digits / 10, d.exponent + 1⟩ else d

end Decimal

namespace Binary

/-- Whether a fraction rounds to `x`, which is not zero. The distance to the smaller neighbour is
halved where the mantissa is the least of its exponent. -/
def roundsTo (x : Binary) (num den : Nat) : Bool :=
  let narrow := x.mantissa == Nat.pow 2 52 && minExponent < x.exponent
  let low := if narrow then 4 * x.mantissa - 1 else 4 * x.mantissa - 2
  let high := 4 * x.mantissa + 2
  let lower := scaled low 4 x.exponent
  let upper := scaled high 4 x.exponent
  if x.mantissa % 2 == 0 then
    decide (lower.1 * den ≤ num * lower.2) && decide (num * upper.2 ≤ upper.1 * den)
  else decide (lower.1 * den < num * lower.2) && decide (num * upper.2 < upper.1 * den)

/-- The exponent of the first decimal digit, plus one: the value is at least `10 ^ (k - 1)` and less
than `10 ^ k`. -/
def decimalPoint (x : Binary) : Int :=
  let a := x.toRatio
  if a.2 ≤ a.1 then (toString (a.1 / a.2)).length
  else
    -- The first digit of a value below one stands where the inverse has its last.
    let inverse := a.2 / a.1
    let k : Int := (toString inverse).length
    if a.1 * Nat.pow 10 (k.natAbs - 1) = a.2 then 2 - k else 1 - k

/-- The neighbours of the value with `count` digits that round to it, the nearer one first. -/
def candidates (x : Binary) (count : Nat) : List Decimal :=
  let a := x.toRatio
  let step : Int := x.decimalPoint - count
  let scale := Nat.pow 10 step.natAbs
  let fraction := if step < 0 then (a.1 * scale, a.2) else (a.1, a.2 * scale)
  let below := fraction.1 / fraction.2
  let order :=
    if roundDiv fraction.1 fraction.2 = below then [below, below + 1] else [below + 1, below]
  (order.map (Decimal.mk · step)).filter fun d => x.roundsTo d.toRatio.1 d.toRatio.2

/-- The fewest digits that read back as the number, and of those the nearest to it. -/
def shortestDigits (x : Binary) : Decimal :=
  if x.mantissa = 0 then ⟨0, 0⟩
  else
    match ((List.range 17).map (· + 1)).findSome? fun count => (x.candidates count).head? with
    | some d => d.dropZeros 20
    | none => ⟨x.scaleTo 0, 0⟩

/-- The text with exactly `places` decimal places. -/
def fixed (x : Binary) (places : Nat) : String :=
  let n := x.scaleTo places
  if places = 0 then toString n
  else
    let tail := toString (n % Nat.pow 10 places)
    let zeros := String.ofList (List.replicate (places - tail.length) '0')
    toString (n / Nat.pow 10 places) ++ "." ++ zeros ++ tail

/-- The text of the exponent of a decimal number: a sign and at least two digits. -/
def exponentText (e : Int) : String :=
  let digits := toString e.natAbs
  (if e < 0 then "e-" else "e+") ++ (if digits.length < 2 then "0" ++ digits else digits)

/-- The shortest text that reads back as the number. -/
def shortest (x : Binary) : String :=
  let d := x.shortestDigits
  let digits := (toString d.digits).toList
  let point : Int := digits.length + d.exponent
  let zeros (n : Nat) : List Char := List.replicate n '0'
  if d.digits = 0 then "0.0"
  else if point ≤ -4 || 16 < point then
    let mantissa :=
      match digits with
      | first :: second :: rest => first :: '.' :: second :: rest
      | short => short
    String.ofList mantissa ++ exponentText (point - 1)
  else if point ≤ 0 then String.ofList ('0' :: '.' :: (zeros point.natAbs ++ digits))
  else if d.exponent < 0 then
    String.ofList (digits.take point.natAbs ++ '.' :: digits.drop point.natAbs)
  else String.ofList (digits ++ zeros d.exponent.natAbs ++ ['.', '0'])

end Binary

/-- The shortest text of a number with a sign. -/
def Signed.shortest : Signed → String
  | undefined => "NaN"
  | infinite negative => if negative then "-Infinity" else "Infinity"
  | finite negative x => (if negative then "-" else "") ++ x.shortest

end Number

end SourceMetrics
