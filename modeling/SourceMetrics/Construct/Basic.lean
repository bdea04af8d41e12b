/-!
# Control constructs

The places where control flow branches, loops or joins: conditionals, loops, `switch` and its
labels, handlers, logical operators, conditional operators and jumps to a label. Each is found at a
line, with a nesting: the number of bodies of enclosing constructs around it.

## Main definitions

* `ConstructKind` — what kinds there are
* `ConstructKind.opensNesting` — the kinds whose body is nested
* `Construct` — an occurrence
-/

namespace SourceMetrics

/-- The kinds of control constructs. -/
inductive ConstructKind where
  | ifBranch
  | elseIf
  | elseBranch
  | forLoop
  | whileLoop
  | doLoop
  | switch
  | caseLabel
  | catchClause
  | logicalAnd
  | logicalOr
  | ternary
  | labeledJump
  deriving DecidableEq, Repr

namespace ConstructKind

/-- The name of a kind in reports. -/
def label : ConstructKind → String
  | ifBranch => "if"
  | elseIf => "else_if"
  | elseBranch => "else"
  | forLoop => "for"
  | whileLoop => "while"
  | doLoop => "do"
  | switch => "switch"
  | caseLabel => "case"
  | catchClause => "catch"
  | logicalAnd => "logical_and"
  | logicalOr => "logical_or"
  | ternary => "ternary"
  | labeledJump => "labeled_jump"

/-- Whether the brace that opens the body of the construct opens a level of nesting. -/
def opensNesting : ConstructKind → Bool
  | ifBranch | elseIf | elseBranch | forLoop | whileLoop | doLoop | switch | catchClause => true
  | caseLabel | logicalAnd | logicalOr | ternary | labeledJump => false

end ConstructKind

/-- An occurrence of a control construct. -/
structure Construct where
  kind : ConstructKind
  /-- The line it stands on, counted from one. -/
  line : Nat
  /-- The number of nested bodies around it. -/
  nesting : Nat
  /-- Whether it is the `while` that closes the body of a `do`: a decision, but no new structure. -/
  doWhileTail : Bool := false
  deriving DecidableEq, Repr

end SourceMetrics
