import SourceMetrics.Construct.Scan
import SourceMetrics.Number.Total

/-!
# Cognitive complexity

Cognitive complexity measures how hard the control flow is to follow. A structure that nests costs
one more than the nesting it stands at; `else`, `else if`, logical operators and labelled jumps cost
one wherever they stand. Case labels cost nothing, and neither does the `while` that ends a `do`.

## Main definitions

* `Cognitive.increment` — the cost of a structure at a nesting
* `Cognitive.cost` — the cost of a construct
* `cognitive` — the complexity of a text
-/

namespace SourceMetrics

namespace Cognitive

/-- The cost of a structure that nests, at a nesting. -/
def increment (nesting : Int) : Nat := 1 + nesting.toNat

@[simp] theorem increment_natCast (nesting : Nat) : increment nesting = 1 + nesting := rfl

/-- The kinds that cost more the deeper they stand. -/
def growsWithNesting : ConstructKind → Bool
  | .ifBranch | .forLoop | .whileLoop | .doLoop | .switch | .catchClause | .ternary => true
  | .elseIf | .elseBranch | .caseLabel | .logicalAnd | .logicalOr | .labeledJump => false

/-- The kinds that cost the same everywhere. -/
def isFlat : ConstructKind → Bool
  | .elseBranch | .elseIf | .logicalAnd | .logicalOr | .labeledJump => true
  | .ifBranch | .forLoop | .whileLoop | .doLoop | .switch | .caseLabel | .catchClause
  | .ternary => false

/-- The cost of a construct. -/
def cost (c : Construct) : Nat :=
  if c.doWhileTail then 0
  else if growsWithNesting c.kind then increment c.nesting
  else if isFlat c.kind then 1
  else 0

/-- The cost of all constructs found. -/
def ofConstructs (found : List Construct) : Nat := Number.total (found.map cost)

end Cognitive

/-- The cognitive complexity of a masked text; blank text costs nothing. -/
def cognitive (cs : List Char) : Nat :=
  if Text.allBlank cs then 0 else Cognitive.ofConstructs (constructs cs)

end SourceMetrics
