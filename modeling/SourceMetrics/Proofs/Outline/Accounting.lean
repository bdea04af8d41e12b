import SourceMetrics.Proofs.Outline.Span
import SourceMetrics.Proofs.Outline.WellFormed

/-!
# The score of a file and the scores of its entities

The file is scored on the whole masked text and every entity on its own. No decision of an entity is
missing from the file, and those of entities beside each other are different decisions of the file,
because the entities cover different lines. The bookkeeping is done with the decisions of the first
lines of the file: a declaration adds at most the decisions between the line before it and its last
one, and a forest those between its bounds.

## Main definitions

* `Analysis.Accounts` — the score of a file accounts for the scores of its entities

## Main results

* `Declaration.Covers.take_add_textDecisions_le` — the decisions of a declaration
* `Outline.Forest.take_add_total_le` — the decisions of a forest
* `Scanner.score_accounts` — the score of a file accounts for its entities
-/

namespace SourceMetrics

open Text (Line)
open Scan (lineDecisions lineDecisions_drop)

/-- What is left of the lines of a text behind some of them. -/
theorem Text.Line.Chained.drop {ls : List Line} (h : Line.Chained ls) (n : Nat) :
    Line.Chained (ls.drop n) := by
  induction n generalizing ls with
  | zero => exact h
  | succ n ih =>
    cases ls with
    | nil => exact h
    | cons l rest => exact ih h.2.2.2

theorem Number.total_take_mono (xs : List Nat) {m n : Nat} (h : m ≤ n) :
    total (xs.take m) ≤ total (xs.take n) := by
  obtain ⟨k, rfl⟩ := Nat.exists_eq_add_of_le h
  rw [List.take_add, total_append]
  exact Nat.le_add_right _ _

theorem Number.total_take_le (xs : List Nat) (n : Nat) : total (xs.take n) ≤ total xs := by
  conv_rhs => rw [← List.take_append_drop n xs, total_append]
  exact Nat.le_add_right _ _

namespace Declaration.Covers

variable {masked : List Char} {a b : Nat} {d : Declaration}

/-- The decisions of a declaration are among those of the lines that it covers. -/
theorem take_add_textDecisions_le (h : d.Covers (Text.lines masked) a b)
    (hb : b < (Text.lines masked).length) (rules : CountingRules) :
    Number.total ((lineDecisions rules (Line.split masked)).take a) +
        textDecisions rules (d.spanText (Text.lines masked)) ≤
      Number.total ((lineDecisions rules (Line.split masked)).take (b + 1)) := by
  have hle := h.le
  obtain ⟨bodies, hspan, hlength, hexcerpt⟩ :=
    h.excerpt (by rwa [Text.lines, List.length_map] at hb)
  have hdecisions := hexcerpt.textDecisions_le ((Line.chained_split masked).drop a) rules
  rw [lineDecisions_drop, hlength] at hdecisions
  have htake : (lineDecisions rules (Line.split masked)).take (b + 1) =
      (lineDecisions rules (Line.split masked)).take a ++
        ((lineDecisions rules (Line.split masked)).drop a).take (b + 1 - a) := by
    rw [← List.take_add, show a + (b + 1 - a) = b + 1 by omega]
  rw [htake, Number.total_append, Text.lines, hspan]
  exact Nat.add_le_add_left hdecisions _

/-- The braces of a declaration nest no deeper than those of the whole text. -/
theorem deepest_spanText_le (h : d.Covers (Text.lines masked) a b)
    (hb : b < (Text.lines masked).length) :
    Nesting.deepest (d.spanText (Text.lines masked)) ≤ Nesting.deepest masked := by
  obtain ⟨bodies, hspan, -, hexcerpt⟩ := h.excerpt (by rwa [Text.lines, List.length_map] at hb)
  have hbraces := hexcerpt.braces_isPrefix ((Line.chained_split masked).drop a)
  have htext : masked = Line.text ((Line.split masked).take a) ++
      Line.text ((Line.split masked).drop a) := by
    rw [← Line.text_append, List.take_append_drop, Line.text_split]
  rw [Text.lines, hspan]
  conv_rhs => rw [htext]
  exact Nesting.deepest_le_of_braces hbraces

end Declaration.Covers

/-- The decisions of entities beside each other are different decisions of the text. -/
theorem Outline.Forest.take_add_total_le {masked : List Char} {first stop : Nat} {es : List Entity}
    (h : Forest (Text.lines masked) first stop es) (hle : first ≤ stop)
    (hstop : stop ≤ (Text.lines masked).length) (rules : CountingRules) :
    Number.total ((lineDecisions rules (Line.split masked)).take first) +
        Number.total (es.map fun e =>
          textDecisions rules (e.declaration.spanText (Text.lines masked))) ≤
      Number.total ((lineDecisions rules (Line.split masked)).take stop) := by
  induction es generalizing first with
  | nil => exact Number.total_take_mono _ hle
  | cons e rest ih =>
    cases h with
    | @cons _ _ a b d members _ covers le lt leaf inner after =>
      have hbefore := Number.total_take_mono (lineDecisions rules (Line.split masked)) le
      have hfirst := covers.take_add_textDecisions_le (by omega) rules
      have hrest := ih after lt
      rw [List.map_cons, Number.total_cons, Entity.declaration_node]
      omega

/-! ### Scores -/

namespace Entity

theorem mapAll_eq_map (f : Declaration → Declaration) (es : List Entity) :
    mapAll f es = es.map (map f) := by
  induction es with
  | nil => rfl
  | cons e rest ih => rw [mapAll, ih, List.map_cons]

theorem declaration_map (f : Declaration → Declaration) (e : Entity) :
    (map f e).declaration = f e.declaration := by
  cases e
  rfl

/-- Going through the changed entities parents first is going through the entities. -/
theorem preorderAll_mapAll (f : Declaration → Declaration) :
    ∀ es : List Entity, preorderAll (mapAll f es) = (preorderAll es).map (map f)
  | [] => rfl
  | .node d members :: rest => by
    rw [mapAll, map, preorderAll_cons, preorderAll_cons, preorderAll_mapAll f members,
      preorderAll_mapAll f rest, List.map_cons, List.map_append, map]

end Entity

/-- The score of a declaration, from the lines of its masked source. -/
def Declaration.scoreIn (rules : CountingRules) (lines : List (List Char)) (d : Declaration) :
    Score :=
  measure rules (d.spanText lines) d.linesOfCode (if d.hasBody then 1 else 0)

/-- The complexities of some scores beyond one, added up. -/
def Score.decisions : List Score → Int
  | [] => 0
  | score :: rest => (score.cyclomatic : Int) - 1 + decisions rest

theorem decisions_scoreIn (rules : CountingRules) (lines : List (List Char)) (es : List Entity) :
    Score.decisions (es.map fun e => e.declaration.scoreIn rules lines) =
      Number.total (es.map fun e => textDecisions rules (e.declaration.spanText lines)) := by
  induction es with
  | nil => rfl
  | cons e rest ih =>
    have hfirst : (e.declaration.scoreIn rules lines).cyclomatic =
        1 + textDecisions rules (e.declaration.spanText lines) := cyclomatic_eq rules _
    simp only [List.map_cons, Score.decisions, Number.total_cons, ih, hfirst]
    omega

/-- A declaration that covers lines of a text scores no more than the text. -/
theorem Declaration.Covers.scoreIn_le {masked : List Char} {a b : Nat} {d : Declaration}
    (h : d.Covers (Text.lines masked) a b) (hb : b < (Text.lines masked).length)
    (rules : CountingRules) (lineCount : Int) :
    (d.scoreIn rules (Text.lines masked)).cyclomatic ≤
      (measure rules masked lineCount 0).cyclomatic ∧
      ((d.scoreIn rules (Text.lines masked)).nestingDepth : Int) ≤
        if d.hasBody then max 0 (((measure rules masked lineCount 0).nestingDepth : Int) - 1)
        else (measure rules masked lineCount 0).nestingDepth := by
  constructor
  · have hlines := h.take_add_textDecisions_le hb rules
    have hall := Number.total_take_le (lineDecisions rules (Line.split masked)) (b + 1)
    simp only [scoreIn, measure, cyclomatic_eq]
    rw [← textDecisions] at hall
    omega
  · have hdeepest := h.deepest_spanText_le hb
    simp only [scoreIn, measure, nestingDepth]
    split <;> omega

namespace Dialect

variable (d : Dialect) (rules : CountingRules) (source : List Char)

/-- The scores of the entities at the top. -/
theorem scores_entities :
    (d.analyze rules source).entities.map (·.declaration.score) =
      ((d.outline (mask d.rules source)).entities.map fun e =>
        e.declaration.scoreIn rules (Text.lines (mask d.rules source))).map some := by
  rw [analyze, Entity.mapAll_eq_map, List.map_map, List.map_map]
  refine List.map_congr_left fun e _ => ?_
  simp only [Function.comp, Entity.declaration_map]
  rfl

theorem exists_of_mem_entities {e : Entity}
    (he : e ∈ Entity.preorderAll (d.analyze rules source).entities) :
    ∃ e₀ ∈ Entity.preorderAll (d.outline (mask d.rules source)).entities,
      e.declaration = e₀.declaration.measured rules (Text.lines (mask d.rules source)) := by
  rw [analyze, Entity.preorderAll_mapAll, List.mem_map] at he
  obtain ⟨e₀, he₀, rfl⟩ := he
  exact ⟨e₀, he₀, Entity.declaration_map _ e₀⟩

end Dialect

/-- The score of a file accounts for the scores of its entities. -/
structure Analysis.Accounts (analysis : Analysis) : Prop where
  /-- The complexities beyond one of the entities at the top do not add up to more than that
  of the file. -/
  top : ∃ scores : List Score, analysis.entities.map (·.declaration.score) = scores.map some ∧
    Score.decisions scores ≤ (analysis.score.cyclomatic : Int) - 1
  /-- No entity is more complex than the file or nests deeper, where one with a body discounts its
  own braces. -/
  each : ∀ e ∈ Entity.preorderAll analysis.entities, ∃ score, e.declaration.score = some score ∧
    score.cyclomatic ≤ analysis.score.cyclomatic ∧
    (score.nestingDepth : Int) ≤
      if e.declaration.hasBody then max 0 ((analysis.score.nestingDepth : Int) - 1)
      else analysis.score.nestingDepth

/-- In any dialect the score of a file accounts for its entities. -/
theorem Dialect.accounts_analyze (d : Dialect) (rules : CountingRules) (source : List Char) :
    (d.analyze rules source).Accounts where
  top := by
    refine ⟨_, d.scores_entities rules source, ?_⟩
    have htotal := (d.forest_outline (mask d.rules source)).take_add_total_le (Nat.zero_le _)
      (Nat.le_refl _) rules
    have hall := Number.total_take_le (lineDecisions rules (Line.split (mask d.rules source)))
      (Text.lines (mask d.rules source)).length
    have hfile : (d.analyze rules source).score.cyclomatic =
        1 + textDecisions rules (mask d.rules source) := cyclomatic_eq rules _
    rw [decisions_scoreIn, hfile, textDecisions]
    omega
  each e he := by
    obtain ⟨e₀, he₀, heq⟩ := d.exists_of_mem_entities rules source he
    obtain ⟨a, b, covers, -, hb, -⟩ := (d.forest_outline (mask d.rules source)).of_mem he₀
    rw [heq]
    exact ⟨_, rfl, covers.scoreIn_le hb rules (Text.lines source).length⟩

namespace Scanner

/-- **The score of a file accounts for its entities**, whichever scanner of the library analyses it
and whatever counts as a decision. -/
theorem score_accounts {s : Scanner} (hs : s ∈ builtinScanners) (rules : CountingRules)
    (source : List Char) :
    ∃ analysis, s.analyze rules source = .ok analysis ∧ analysis.Accounts :=
  ⟨s.dialect.analyze rules source, by rw [analyze, failure_of_mem_builtin hs],
    s.dialect.accounts_analyze rules source⟩

/-- A function whose conditional operator goes over a form feed, and a class behind it. -/
theorem score_accounts_formFeed :
    let source :=
      "function f(a) \x7b return a ?\x0c 1 : 2; \x7d\nclass B \x7b g() \x7b if (x) \x7b\x7d".toList
    JavaScript.scanner ∈ builtinScanners ∧
      ∃ analysis, JavaScript.scanner.analyze { cases := false } source = .ok analysis ∧
        analysis.Accounts := by
  intro source
  have hmem : JavaScript.scanner ∈ builtinScanners := by simp [builtinScanners]
  exact ⟨hmem, score_accounts hmem { cases := false } source⟩

end Scanner

end SourceMetrics
