import SourceMetrics.Proofs.Construct.Scan
import SourceMetrics.Score.Cyclomatic

/-!
# Decisions, line by line

Which constructs count as decisions depends on their kinds, and the kind of a construct depends on
its token and, for a question mark, on whether it is answered; neither braces nor what is waited for
play a part. So the cyclomatic complexity of a text is one more than a sum over its lines, and a
line enters the sum with its own tokens and the text behind it.

## Main definitions

* `Token.decides` — whether a token counts as a decision
* `Scan.decisions`, `Scan.lineDecisions` — the decisions of a line, and of each of some lines
* `textDecisions` — the decisions of a text

## Main results

* `Cyclomatic.ofConstructs_eq` — no construct counts in two categories
* `Scan.decisions_le` — a line in front of a text that answers more
* `cyclomatic_eq` — the complexity of a text as a sum over its lines
-/

namespace SourceMetrics

/-! ### Categories -/

/-- A construct counts in one category or in none. -/
theorem CountingRules.total_categories (rules : CountingRules) (kind : ConstructKind) :
    Number.total (rules.categories.map fun category => if kind == category.1 then 1 else 0) =
      if rules.counts kind then 1 else 0 := by
  obtain ⟨cases, logical, ternary⟩ := rules
  cases cases <;> cases logical <;> cases ternary <;> cases kind <;> rfl

theorem Number.total_map_add {α : Type} (f g : α → Nat) (xs : List α) :
    total (xs.map fun x => f x + g x) = total (xs.map f) + total (xs.map g) := by
  induction xs with
  | nil => rfl
  | cons x rest ih =>
    simp only [List.map_cons, total_cons, ih]
    omega

theorem Number.total_map_zero {α : Type} (xs : List α) : total (xs.map fun _ => 0) = 0 := by
  induction xs with
  | nil => rfl
  | cons x rest ih => rw [List.map_cons, total_cons, ih]

/-- The complexity counts the constructs that are decisions. -/
theorem Cyclomatic.ofConstructs_eq (rules : CountingRules) (found : List Construct) :
    ofConstructs rules found = 1 + found.countP fun c => rules.counts c.kind := by
  rw [ofConstructs, breakdown, List.map_map]
  congr 1
  induction found with
  | nil => exact Number.total_map_zero _
  | cons c rest ih =>
    rw [List.countP_cons, ← ih, ← rules.total_categories, ← Number.total_map_add]
    congr 1
    refine List.map_congr_left fun category _ => ?_
    simp only [Function.comp, List.countP_cons]

/-! ### Tokens -/

/-- The kind of construct that a token is. A question mark is one if `isTernary` holds. -/
def Token.kind? (isTernary : Bool) : Token → Option ConstructKind
  | .keyword kind => some kind
  | .jump => some .labeledJump
  | .logical kind => some kind
  | .question => if isTernary then some .ternary else none
  | .openParen | .closeParen | .semicolon | .openBrace | .closeBrace => none

/-- Whether a token counts as a decision. -/
def Token.decides (rules : CountingRules) (isTernary : Bool) (t : Token) : Bool :=
  (t.kind? isTernary).any rules.counts

namespace Scan

theorem kind_construct? (s : Scan) (line : Nat) (isTernary : Bool) (t : Token) :
    (s.construct? line isTernary t).map Construct.kind = t.kind? isTernary := by
  cases t <;> cases isTernary <;> rfl

/-- The decisions among some tokens do not depend on the state of the scan. -/
theorem countP_found (rules : CountingRules) (isTernary : Nat → Bool) (line : Nat) (s : Scan)
    (ts : List (Nat × Token)) :
    ((found isTernary line s ts).countP fun c => rules.counts c.kind) =
      ts.countP fun t => t.2.decides rules (isTernary t.1) := by
  induction ts generalizing s with
  | nil => rfl
  | cons t rest ih =>
    obtain ⟨column, token⟩ := t
    have hkind := s.kind_construct? line (isTernary column) token
    rw [found, List.countP_append, ih, List.countP_cons, Nat.add_comm, Token.decides, ← hkind]
    cases s.construct? line (isTernary column) token <;> simp

/-! ### Lines -/

/-- The decisions of a line with the text `tail` behind it. -/
def decisions (rules : CountingRules) (body tail : List Char) : Nat :=
  (Token.scan body).countP fun t => t.2.decides rules (answered body tail t.1)

theorem countP_decides_le {f g : Nat → Bool} {ts : List (Nat × Token)}
    (h : ∀ column, (column, Token.question) ∈ ts → f column = true → g column = true)
    (rules : CountingRules) :
    (ts.countP fun t => t.2.decides rules (f t.1)) ≤
      ts.countP fun t => t.2.decides rules (g t.1) := by
  refine List.countP_mono_left fun t ht hdecides => ?_
  obtain ⟨column, token⟩ := t
  cases token with
  | question =>
    cases hf : f column with
    | true => simpa [hf, h column ht hf] using hdecides
    | false => simp [hf, Token.decides, Token.kind?] at hdecides
  | _ => exact hdecides

/-- A question mark of a line is answered in front of a text that answers more. -/
theorem answered_of_prolongs {tail tail' : List Char} (h : Ternary.Prolongs tail tail')
    (htail : Ternary.Unseen tail.head?) (htail' : Ternary.Unseen tail'.head?) (body : List Char)
    (column : Nat) (hanswered : answered body tail column = true) :
    answered body tail' column = true :=
  h.append htail htail' (body.drop (column + 1)) _ hanswered

/-- In front of texts that answer alike, the question marks of a line are answered alike. -/
theorem answered_eq_of_prolongs {tail tail' : List Char} (h : Ternary.Prolongs tail tail')
    (h' : Ternary.Prolongs tail' tail) (htail : Ternary.Unseen tail.head?)
    (htail' : Ternary.Unseen tail'.head?) (body : List Char) :
    answered body tail = answered body tail' := by
  funext column
  rw [Bool.eq_iff_iff]
  exact ⟨answered_of_prolongs h htail htail' body column,
    answered_of_prolongs h' htail' htail body column⟩

/-- A line has no fewer decisions in front of a text that answers more. -/
theorem decisions_le {tail tail' : List Char} (h : Ternary.Prolongs tail tail')
    (htail : Ternary.Unseen tail.head?) (htail' : Ternary.Unseen tail'.head?)
    (rules : CountingRules) (body : List Char) :
    decisions rules body tail ≤ decisions rules body tail' :=
  countP_decides_le (fun column _ => answered_of_prolongs h htail htail' body column) rules

/-- The decisions of each of some lines with nothing behind them. -/
def lineDecisions (rules : CountingRules) : List Text.Line → List Nat
  | [] => []
  | l :: rest =>
    decisions rules l.body (l.ending ++ Text.Line.text rest) :: lineDecisions rules rest

@[simp] theorem lineDecisions_nil (rules : CountingRules) : lineDecisions rules [] = [] := rfl

@[simp] theorem lineDecisions_cons (rules : CountingRules) (l : Text.Line)
    (rest : List Text.Line) :
    lineDecisions rules (l :: rest) =
      decisions rules l.body (l.ending ++ Text.Line.text rest) :: lineDecisions rules rest := rfl

theorem lineDecisions_drop (rules : CountingRules) (ls : List Text.Line) (n : Nat) :
    lineDecisions rules (ls.drop n) = (lineDecisions rules ls).drop n := by
  induction n generalizing ls with
  | zero => rfl
  | succ n ih =>
    cases ls with
    | nil => rfl
    | cons l rest => exact ih rest

theorem countP_ofLines (rules : CountingRules) (number : Nat) (s : Scan) (ls : List Text.Line) :
    ((ofLines number s ls).countP fun c => rules.counts c.kind) =
      Number.total (lineDecisions rules ls) := by
  induction ls generalizing number s with
  | nil => rfl
  | cons l rest ih =>
    rw [ofLines, List.countP_append, ih, ofLine, countP_found, lineDecisions_cons,
      Number.total_cons, decisions]

end Scan

/-- The decisions of a text. -/
def textDecisions (rules : CountingRules) (cs : List Char) : Nat :=
  Number.total (Scan.lineDecisions rules (Text.Line.split cs))

/-- Blank text needs no rule of its own: it has no constructs. -/
theorem cyclomatic_eq_ofConstructs (rules : CountingRules) (cs : List Char) :
    cyclomatic rules cs = Cyclomatic.ofConstructs rules (constructs cs) := by
  rw [cyclomatic]
  split
  next h => rw [constructs_of_allBlank h, Cyclomatic.ofConstructs_eq]; rfl
  next => rfl

/-- **The complexity of a text as a sum over its lines.** -/
theorem cyclomatic_eq (rules : CountingRules) (cs : List Char) :
    cyclomatic rules cs = 1 + textDecisions rules cs := by
  rw [textDecisions, ← Scan.countP_ofLines rules 1 {}, ← Scan.constructs_eq_ofLines,
    ← Cyclomatic.ofConstructs_eq, cyclomatic_eq_ofConstructs]

end SourceMetrics
