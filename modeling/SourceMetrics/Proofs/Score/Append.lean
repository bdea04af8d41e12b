import SourceMetrics.Proofs.Score.Cyclomatic

/-!
# Texts one after the other

The complexity of a text is one more than the decisions of its lines. If one text ends with a line
break and another follows, the lines of both are those of the whole. A line of the second text has
the same text behind it as before. A line of the first has more, and through it only the answers to
its question marks can change: the second text may bring a colon that was missing, but it takes none
away. So the decisions of both parts are decisions of the whole, and no others come in unless
conditional operators count.

## Main results

* `Ternary.prolongs_append` — what is answered stays answered
* `Scan.total_lineDecisions_append_le` — the decisions of some lines with others behind them
* `Scan.lineDecisions_eq_map` — lines do not matter to each other if conditional operators do not
  count
* `cyclomatic_superadditive` — the complexity of two texts, one after the other
-/

namespace SourceMetrics

open Text (Line)

/-- A text that ends with a line break decides nothing behind the break, so more text changes no
answer that is found. -/
theorem Ternary.prolongs_append {cs : List Char} (h : ∀ c ∈ cs.getLast?, Text.isLineBreak c = true)
    (more : List Char) : Prolongs cs (cs ++ more) := by
  rcases List.eq_nil_or_concat cs with rfl | ⟨xs, c, rfl⟩
  · exact prolongs_nil more
  · have hc : Text.isLineBreak c = true := h c (by simp)
    have hbreak : Prolongs [c] (c :: more) := fun s hs => by
      rw [Search.run_of_isLineBreak hc] at hs
      cases hs
    rw [List.concat_eq_append, List.append_assoc]
    exact hbreak.append (unseen_of_isLineBreak hc) (unseen_of_isLineBreak hc) xs

namespace Scan

/-! ### More lines -/

/-- Some lines have no fewer decisions with other lines behind them. -/
theorem total_lineDecisions_append_le (rules : CountingRules) {ls ms : List Line}
    (hchained : Line.Chained (ls ++ ms))
    (hlast : ∀ c ∈ (Line.text ls).getLast?, Text.isLineBreak c = true) :
    Number.total (lineDecisions rules ls) + Number.total (lineDecisions rules ms) ≤
      Number.total (lineDecisions rules (ls ++ ms)) := by
  induction ls with
  | nil => simp
  | cons l rest ih =>
    -- what stands behind the body of the line ends as the text does
    have hbehind : ∀ c ∈ (l.ending ++ Line.text rest).getLast?, Text.isLineBreak c = true := by
      intro c hc
      refine hlast c ?_
      rw [Line.text_cons, List.getLast?_append, Option.mem_def.mp hc, Option.some_or]
      rfl
    have hrest : ∀ c ∈ (Line.text rest).getLast?, Text.isLineBreak c = true := by
      intro c hc
      refine hbehind c ?_
      rw [List.getLast?_append, Option.mem_def.mp hc, Option.some_or]
      rfl
    have hline : decisions rules l.body (l.ending ++ Line.text rest) ≤
        decisions rules l.body (l.ending ++ Line.text (rest ++ ms)) := by
      have hprolongs := Ternary.prolongs_append hbehind (Line.text ms)
      rw [List.append_assoc, ← Line.text_append] at hprolongs
      exact decisions_le hprolongs (Line.Chained.of_append hchained).1.unseen hchained.unseen rules
        l.body
    have hlines := ih hchained.2.2.2 hrest
    simp only [List.cons_append, lineDecisions_cons, Number.total_cons]
    omega

/-! ### Without conditional operators -/

theorem decisions_eq_of_not_ternary {rules : CountingRules} (h : rules.ternary = false)
    (body tail tail' : List Char) : decisions rules body tail = decisions rules body tail' := by
  have hternary : rules.counts .ternary = false := by
    obtain ⟨cases, logical, ternary⟩ := rules
    cases h
    cases cases <;> cases logical <;> rfl
  refine List.countP_congr fun t _ => ?_
  obtain ⟨column, token⟩ := t
  cases token with
  | question =>
    cases answered body tail column <;> cases answered body tail' column <;>
      simp [Token.decides, Token.kind?, hternary]
  | _ => rfl

/-- If conditional operators do not count, a line has the same decisions in every text. -/
theorem lineDecisions_eq_map {rules : CountingRules} (h : rules.ternary = false) (ls : List Line) :
    lineDecisions rules ls = ls.map fun l => decisions rules l.body [] := by
  induction ls with
  | nil => rfl
  | cons l rest ih => rw [lineDecisions_cons, List.map_cons, ih, decisions_eq_of_not_ternary h]

end Scan

/-! ### The complexity of both texts -/

theorem textDecisions_append_le (rules : CountingRules) {a b : List Char} (h : Text.Cuttable a b) :
    textDecisions rules a + textDecisions rules b ≤ textDecisions rules (a ++ b) := by
  have hsplit := Line.split_append h
  rw [textDecisions, textDecisions, textDecisions, hsplit]
  refine Scan.total_lineDecisions_append_le rules (hsplit ▸ Line.chained_split (a ++ b)) ?_
  rw [Line.text_split]
  exact h.1

theorem textDecisions_append {rules : CountingRules} (hrules : rules.ternary = false)
    {a b : List Char} (h : Text.Cuttable a b) :
    textDecisions rules (a ++ b) = textDecisions rules a + textDecisions rules b := by
  simp only [textDecisions, Line.split_append h, Scan.lineDecisions_eq_map hrules, List.map_append,
    Number.total_append]

/-- **Complexity is superadditive over whole lines.** A text with another one behind it has all
decisions of both, and no others if conditional operators do not count. -/
theorem cyclomatic_superadditive (rules : CountingRules) {a : List Char}
    (h : a.getLast? = some '\n') (b : List Char) :
    cyclomatic rules a + cyclomatic rules b ≤ cyclomatic rules (a ++ b) + 1 ∧
      (rules.ternary = false →
        cyclomatic rules a + cyclomatic rules b = cyclomatic rules (a ++ b) + 1) := by
  have hcut : Text.Cuttable a b := by simp [Text.Cuttable, h, Text.isLineBreak]
  rw [cyclomatic_eq, cyclomatic_eq, cyclomatic_eq]
  constructor
  · have hle := textDecisions_append_le rules hcut
    omega
  · intro hrules
    have heq := textDecisions_append hrules hcut
    omega

/-- A question mark at the end of a text is answered in the next one: the whole has a decision that
neither part has, but only if conditional operators count. -/
theorem cyclomatic_superadditive_question :
    "x = a ?\n".toList.getLast? = some '\n' ∧
      cyclomatic {} "x = a ?\n".toList + cyclomatic {} "b : c;\n".toList ≤
        cyclomatic {} ("x = a ?\n".toList ++ "b : c;\n".toList) + 1 ∧
      cyclomatic { ternary := false } "x = a ?\n".toList +
          cyclomatic { ternary := false } "b : c;\n".toList =
        cyclomatic { ternary := false } ("x = a ?\n".toList ++ "b : c;\n".toList) + 1 := by
  have hlast : "x = a ?\n".toList.getLast? = some '\n' := by decide
  refine ⟨hlast, (cyclomatic_superadditive {} hlast "b : c;\n".toList).1, ?_⟩
  exact (cyclomatic_superadditive { ternary := false } hlast "b : c;\n".toList).2 rfl

example :
    cyclomatic {} "x = a ?\n".toList = 1 ∧ cyclomatic {} "b : c;\n".toList = 1 ∧
      cyclomatic {} ("x = a ?\n".toList ++ "b : c;\n".toList) = 2 := by decide

end SourceMetrics
