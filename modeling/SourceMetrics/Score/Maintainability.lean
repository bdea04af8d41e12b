/-!
# Maintainability index

The index of a text with `L` lines and cyclomatic complexity `C` is
`(171 - 5.2 ln (2 L) - 0.23 C - 16.2 ln L) * 100 / 171`, rounded to the nearest integer and kept
between 0 and 100; `2 L` stands for the volume of the classic formula. A text without lines or
without complexity has the full index.

The logarithms are those of binary floating-point arithmetic, and the formula is evaluated from left
to right.

## Main definitions

* `Maintainability.raw` — the value of the formula before it is scaled
* `maintainabilityIndex` — the index
-/

namespace SourceMetrics

namespace Maintainability

/-- The value of the formula on its own scale, for at least one line and one path. -/
def raw (cyclomatic lines : Nat) : Float :=
  171 - 5.2 * Float.log (Float.ofNat (2 * lines)) - 0.23 * Float.ofNat cyclomatic
    - 16.2 * Float.log (Float.ofNat lines)

/-- The value on the scale of 100, rounded with halves up. Values below zero give zero. -/
def scaled (value : Float) : Nat := (value * 100 / 171 + 0.5).toUInt64.toNat

end Maintainability

/-- The maintainability index of a text with the given cyclomatic complexity and number of lines.
Values below one count as one. -/
def maintainabilityIndex (cyclomatic lines : Int) : Nat :=
  if lines = 0 || cyclomatic = 0 then 100
  else
    let c := (max 1 cyclomatic).toNat
    let l := (max 1 lines).toNat
    min 100 (Maintainability.scaled (Maintainability.raw c l))

end SourceMetrics
