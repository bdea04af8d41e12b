import SourceMetrics.Construct.Scan
import SourceMetrics.Number.Total

/-!
# Cyclomatic complexity

Cyclomatic complexity is one more than the number of decisions. Conditionals, loops, `switch` and
handlers always count; case labels, logical operators and conditional operators count if the
counting rules say so. A plain `else` and a labelled jump decide nothing.

## Main definitions

* `CountingRules` — which optional decisions count
* `CountingRules.categories` — the decisions that count, with their names in a breakdown
* `Cyclomatic.breakdown`, `cyclomatic` — decisions by category, and the complexity
* `Risk` — what a complexity means
-/

namespace SourceMetrics

/-- Which optional decisions count. -/
structure CountingRules where
  cases : Bool := true
  logical : Bool := true
  ternary : Bool := true
  deriving DecidableEq, Repr

namespace CountingRules

/-- The decisions that always count, with their names. -/
def always : List (ConstructKind × String) :=
  [(.ifBranch, "if_statements"), (.elseIf, "else_if_statements"), (.whileLoop, "while_loops"),
   (.forLoop, "for_loops"), (.doLoop, "do_while_loops"), (.switch, "switch_statements"),
   (.catchClause, "catch_blocks")]

/-- The decisions that count under the rules, with their names. -/
def categories (rules : CountingRules) : List (ConstructKind × String) :=
  always ++ (if rules.cases then [(.caseLabel, "case_statements")] else []) ++
    (if rules.logical then [(.logicalAnd, "logical_and"), (.logicalOr, "logical_or")] else []) ++
    (if rules.ternary then [(.ternary, "ternary_operators")] else [])

/-- Whether a kind of construct counts as a decision. -/
def counts (rules : CountingRules) (kind : ConstructKind) : Bool :=
  rules.categories.any (·.1 == kind)

end CountingRules

namespace Cyclomatic

/-- The number of decisions in each category. -/
def breakdown (rules : CountingRules) (found : List Construct) : List (String × Nat) :=
  rules.categories.map fun category =>
    (category.2, found.countP fun construct => construct.kind == category.1)

/-- The complexity of the constructs found: one more than the decisions of all categories. -/
def ofConstructs (rules : CountingRules) (found : List Construct) : Nat :=
  1 + Number.total ((breakdown rules found).map Prod.snd)

end Cyclomatic

/-- The cyclomatic complexity of a masked text; blank text has complexity one. -/
def cyclomatic (rules : CountingRules) (cs : List Char) : Nat :=
  if Text.allBlank cs then 1 else Cyclomatic.ofConstructs rules (constructs cs)

/-- What a cyclomatic complexity means. -/
structure Risk where
  classification : String
  description : String
  deriving DecidableEq, Repr

/-- The meaning of a complexity. -/
def Risk.ofComplexity (n : Int) : Risk :=
  if n ≤ 5 then ⟨"Simple", "Low Risk"⟩
  else if n ≤ 10 then ⟨"Moderate", "Medium Risk"⟩
  else if n ≤ 20 then ⟨"Complex", "High Risk"⟩
  else if n ≤ 50 then ⟨"Very Complex", "Very High Risk"⟩
  else ⟨"Extremely Complex", "Unmaintainable"⟩

/-- Both parts of a meaning in one text. -/
def Risk.text (r : Risk) : String := r.classification ++ " - " ++ r.description

/-- Cyclomatic complexity with the decisions of each category. -/
structure CyclomaticDetail where
  total : Nat
  breakdown : List (String × Nat)
  deriving DecidableEq, Repr

/-- The cyclomatic complexity of a masked text in detail; blank text has no categories. -/
def cyclomaticDetail (rules : CountingRules) (cs : List Char) : CyclomaticDetail :=
  if Text.allBlank cs then ⟨1, []⟩
  else
    let found := constructs cs
    ⟨Cyclomatic.ofConstructs rules found, Cyclomatic.breakdown rules found⟩

end SourceMetrics
