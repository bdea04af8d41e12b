import SourceMetrics.Proofs.Construct.Wrapping
import SourceMetrics.Proofs.Outline.Span
import SourceMetrics.Score.Measure

/-!
# A score depends on lines, not on their breaks

Which characters end the lines of a text does not matter to its score, and neither does whether the
last line is ended. Constructs are found line by line; only the search for the colon of a
conditional operator goes on from line to line, and it passes over any break. Breaks are blank and
no braces.

## Main results

* `Ternary.prolongs_of_bodies_eq` — searches find a colon in texts with the same lines alike
* `constructs_eq_of_lines_eq` — texts with the same lines have the same constructs
* `measure_eq_of_lines_eq` — and the same score
-/

namespace SourceMetrics

open Text (Line)

namespace Ternary

variable {l l' : Line} {rest rest' : List Line}

/-- Whatever breaks end a line, a search passes over them. -/
theorem Prolongs.endings (hl : Line.Chained (l :: rest)) (hl' : Line.Chained (l' :: rest'))
    (h : Prolongs (Line.text rest) (Line.text rest')) :
    Prolongs (l.ending ++ Line.text rest) (l'.ending ++ Line.text rest') := by
  obtain ⟨-, hending, hlast, -⟩ := hl
  obtain ⟨-, hending', hlast', -⟩ := hl'
  intro s hs
  by_cases hne : l.ending = []
  · rw [hne, hlast hne] at hs
    cases hs
  · rw [Search.isSome_run_breaks hne hending] at hs
    have hs' := h _ hs
    by_cases hne' : l'.ending = []
    · rw [hlast' hne'] at hs'
      cases hs'
    · rwa [Search.isSome_run_breaks hne' hending']

/-- Searches find a colon in texts with the same lines alike. -/
theorem prolongs_of_bodies_eq {ls ls' : List Line} (hls : Line.Chained ls) (hls' : Line.Chained ls')
    (h : ls.map Line.body = ls'.map Line.body) : Prolongs (Line.text ls) (Line.text ls') := by
  induction ls generalizing ls' with
  | nil => exact prolongs_nil _
  | cons l rest ih =>
    cases ls' with
    | nil => cases h
    | cons l' rest' =>
      obtain ⟨hbody, hrest⟩ := List.cons_eq_cons.mp h
      rw [Line.text_cons, Line.text_cons, hbody]
      exact ((ih hls.2.2.2 hls'.2.2.2 hrest).endings hls hls').append hls.unseen hls'.unseen _

end Ternary

namespace Scan

theorem ofLines_eq_of_bodies_eq {ls ls' : List Line} (hls : Line.Chained ls)
    (hls' : Line.Chained ls') (h : ls.map Line.body = ls'.map Line.body) (number : Nat) (s : Scan) :
    ofLines number s ls = ofLines number s ls' := by
  induction ls generalizing ls' number s with
  | nil =>
    rw [List.map_nil, eq_comm, List.map_eq_nil_iff] at h
    rw [h]
  | cons l rest ih =>
    cases ls' with
    | nil => cases h
    | cons l' rest' =>
      obtain ⟨hbody, hrest⟩ := List.cons_eq_cons.mp h
      have hprolongs := (Ternary.prolongs_of_bodies_eq hls.2.2.2 hls'.2.2.2 hrest).endings hls hls'
      have hprolongs' :=
        (Ternary.prolongs_of_bodies_eq hls'.2.2.2 hls.2.2.2 hrest.symm).endings hls' hls
      have hanswered := answered_eq_of_prolongs hprolongs hprolongs' hls.unseen hls'.unseen l.body
      rw [ofLines, ofLines, ofLine, ofLine, hanswered, hbody, ih hls.2.2.2 hls'.2.2.2 hrest]

end Scan

variable {cs ds : List Char}

/-- **Texts with the same lines have the same constructs.** -/
theorem constructs_eq_of_lines_eq (h : Text.lines cs = Text.lines ds) :
    constructs cs = constructs ds := by
  rw [Scan.constructs_eq_ofLines, Scan.constructs_eq_ofLines]
  exact Scan.ofLines_eq_of_bodies_eq (Line.chained_split cs) (Line.chained_split ds) h 1 {}

theorem deepest_eq_of_lines_eq (h : Text.lines cs = Text.lines ds) :
    Nesting.deepest cs = Nesting.deepest ds := by
  have hbraces : ∀ xs, xs.filter isBrace = (Text.lines xs).flatten.filter isBrace := fun xs => by
    rw [Text.lines, ← List.flatMap_def, filter_isBrace_flatMap_body (Line.chained_split xs),
      Line.text_split]
  rw [Nesting.deepest, Nesting.deepest, ← Nesting.deepestFrom_filter_isBrace, hbraces, h, ← hbraces,
    Nesting.deepestFrom_filter_isBrace]

/-- A text is blank if all its lines are. -/
theorem allBlank_eq_all_lines (cs : List Char) :
    Text.allBlank cs = (Text.lines cs).all Text.allBlank := by
  have hlines : ∀ ls : List Line, Line.Chained ls →
      Text.allBlank (Line.text ls) = (ls.map Line.body).all Text.allBlank := by
    intro ls hls
    induction ls with
    | nil => rfl
    | cons l rest ih =>
      obtain ⟨-, hending, -, hrest⟩ := hls
      have hblank : Text.allBlank l.ending = true :=
        List.all_eq_true.mpr fun c hc => Ternary.isBlank_of_isLineBreak (hending c hc)
      rw [List.map_cons, List.all_cons, ← ih hrest, Line.text_cons]
      simp only [Text.allBlank, List.all_append] at hblank ⊢
      rw [hblank, Bool.true_and]
  rw [Text.lines, ← hlines _ (Line.chained_split cs), Line.text_split]

/-- **Texts with the same lines have the same score.** -/
theorem measure_eq_of_lines_eq (h : Text.lines cs = Text.lines ds) (rules : CountingRules)
    (lines base : Int) : measure rules cs lines base = measure rules ds lines base := by
  have hconstructs := constructs_eq_of_lines_eq h
  have hdepth := deepest_eq_of_lines_eq h
  have hblank : Text.allBlank cs = Text.allBlank ds := by
    rw [allBlank_eq_all_lines, h, ← allBlank_eq_all_lines]
  simp only [measure, cyclomatic, cognitive, nestingDepth, hconstructs, hdepth, hblank]

end SourceMetrics
