/-!
# Depth of brace nesting

The depth of a text is the largest number of braces open at once. A closing brace with nothing to
close is ignored. A text that includes the braces of its own body discounts them by a base.

## Main definitions

* `Nesting.deepest` — the largest depth reached
* `nestingDepth` — the same less a base, never below zero
-/

namespace SourceMetrics

namespace Nesting

/-- The depth after a character. -/
def after (depth : Nat) (c : Char) : Nat :=
  if c = '\x7b' then depth + 1 else if c = '\x7d' then depth - 1 else depth

/-- The largest depth reached in a text that starts at depth `depth`. -/
def deepestFrom (depth : Nat) : List Char → Nat
  | [] => depth
  | c :: rest => max depth (deepestFrom (after depth c) rest)

/-- The largest depth reached in a text. -/
def deepest (cs : List Char) : Nat := deepestFrom 0 cs

end Nesting

/-- The depth of brace nesting beyond `base`. -/
def nestingDepth (base : Int) (cs : List Char) : Nat := ((Nesting.deepest cs : Int) - base).toNat

end SourceMetrics
