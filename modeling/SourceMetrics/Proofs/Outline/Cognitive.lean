import SourceMetrics.Proofs.Construct.Below
import SourceMetrics.Proofs.Construct.Wrapping
import SourceMetrics.Proofs.Outline.Accounting

/-!
# The cognitive complexity of a file and of its entities

An entity is scored on its own text, the file on the whole text, and the two scans may see different
nesting around the same construct. A declaration inside the argument list of a call is the plainest
case: inside parentheses no brace opens a body, so the file does not count the nesting in the
declaration, while the declaration on its own does. The other two cases need a `do` that is broken
off: the file takes a `while` in the declaration for the end of that `do`, and the declaration does
not.

Away from these places a file is at least as complex as everything declared in it. The scan of the
declaration then starts below that of the file and stays below it, every construct of the excerpt is
found by both, and whatever else the file has costs more.

## Main definitions

* `Analysis.Outweighs` — no entity is more complex than the file
* `Declaration.Apart` — a declaration can be read apart from what stands around it

## Main results

* `Excerpt.cost_le` — an excerpt costs no more than its lines in the source
* `Scanner.cognitive_entity_le` — a file is at least as complex as what is declared apart in it
* `Scanner.entity_outweighs_file` — and not always as what is declared elsewhere
-/

namespace SourceMetrics

open Text (Line)
open Cognitive (ofConstructs ofConstructs_append)

namespace Scan

/-- The constructs of the last lines are found last, from the state behind the others. -/
theorem exists_ofLines_append (xs ys : List Line) (number : Nat) (s : Scan) :
    ∃ first, ofLines number s (xs ++ ys) =
      first ++ ofLines (number + xs.length) (s.afterLines (xs.map Line.body)) ys := by
  induction xs generalizing number s with
  | nil => exact ⟨[], rfl⟩
  | cons l rest ih =>
    obtain ⟨first, hfirst⟩ := ih (number + 1) (s.afterLine l.body)
    refine ⟨ofLine number s l.body (l.ending ++ Line.text (rest ++ ys)) ++ first, ?_⟩
    rw [List.cons_append, ofLines, hfirst, List.append_assoc, List.length_cons,
      show number + 1 + rest.length = number + (rest.length + 1) by omega]
    rfl

/-- A line costs no more in the scan below, in front of a text that answers less. -/
theorem Below.ofLine {ahead body tail tail' : List Char} {lo hi : Scan}
    (h : Below (body.filter isBrace ++ ahead) lo hi) (hprolongs : Ternary.Prolongs tail tail')
    (htail : Ternary.Unseen tail.head?) (htail' : Ternary.Unseen tail'.head?)
    (number number' : Nat) :
    ofConstructs (Scan.ofLine number lo body tail) ≤
        ofConstructs (Scan.ofLine number' hi body tail') ∧
      Below ahead (lo.afterLine body) (hi.afterLine body) := by
  have hstart := h.beginLine body
  rw [← Token.filterMap_brace?_scan] at hstart
  exact hstart.found (fun column _ => answered_of_prolongs hprolongs htail htail' body column) _ _

/-- A line that is cut behind a closing brace costs no more in the scan below than the
whole line above. -/
theorem Below.ofLine_cut {xs : List Char} {lo hi : Scan}
    (h : Below ((xs ++ ['\x7d']).filter isBrace) lo hi) (ys tail : List Char)
    (number number' : Nat) :
    ofConstructs (Scan.ofLine number lo (xs ++ ['\x7d']) []) ≤
      ofConstructs (Scan.ofLine number' hi (xs ++ '\x7d' :: ys) tail) := by
  have hstart := h.beginLine xs
  have hcut : Token.scan (xs ++ ['\x7d']) = Token.scan xs ++ [(xs.length, .closeBrace)] :=
    Token.scan_append_closeBrace xs
  have hwhole : Token.scan (xs ++ '\x7d' :: ys) = Token.scan xs ++ [(xs.length, .closeBrace)] ++
      Token.scanFrom 0 (xs.length + 1) (some '\x7d') ys := by
    rw [Token.scan_append_closeBrace, List.append_cons]
  rw [← Token.filterMap_brace?_scan, hcut, ← List.append_nil (List.filterMap _ _)] at hstart
  obtain ⟨hfound, -⟩ := hstart.found (g := answered (xs ++ '\x7d' :: ys) tail)
    (fun column hmem => answered_of_cut (by simpa using hmem) ys tail) number number'
  rw [Scan.ofLine, Scan.ofLine, beginLine_append_closeBrace, beginLine_append_closeBrace, hcut,
    hwhole, found_append _ number' (hi.beginLine xs), ofConstructs_append]
  exact hfound.trans (Nat.le_add_right _ _)

end Scan

/-- The cost of a text without line breaks. -/
theorem Scan.ofLines_of_no_break {body : List Char} (h : ∀ c ∈ body, Text.isLineBreak c = false)
    (number : Nat) (s : Scan) : ofLines number s (Line.split body) = ofLine number s body [] := by
  rw [Line.split_of_no_break h, Line.unfinished]
  split
  next hnil => subst hnil; rfl
  next => exact List.append_nil _

/-- **An excerpt costs no more than its lines in the source**, if its scan starts below that
of the source. -/
theorem Excerpt.cost_le {bodies : List (List Char)} {ls : List Line} (h : Excerpt bodies ls)
    (hls : Line.Chained ls) {lo hi : Scan}
    (hbelow : Scan.Below ((joinLines bodies).filter isBrace) lo hi) (number number' : Nat) :
    ofConstructs (Scan.ofLines number lo (Line.split (joinLines bodies))) ≤
      ofConstructs (Scan.ofLines number' hi ls) := by
  induction h generalizing lo hi number number' with
  | whole l more =>
    rw [joinLines, ← List.append_nil (List.filter _ _)] at hbelow
    have hline := (hbelow.ofLine (Ternary.prolongs_nil _) unseen_nil hls.unseen number number').1
    rw [joinLines, Scan.ofLines_of_no_break hls.1, Scan.ofLines, ofConstructs_append]
    exact hline.trans (Nat.le_add_right _ _)
  | @cut l xs ys body_eq more =>
    have hbody : ∀ c ∈ xs ++ ['\x7d'], Text.isLineBreak c = false := by
      intro c hc
      refine hls.1 c ?_
      rw [body_eq, List.append_cons]
      exact List.mem_append_left _ hc
    have hline := hbelow.ofLine_cut ys (l.ending ++ Line.text more) number number'
    rw [joinLines, Scan.ofLines_of_no_break hbody, Scan.ofLines, ofConstructs_append, body_eq]
    exact hline.trans (Nat.le_add_right _ _)
  | @cons bodies ls l rest ih =>
    obtain ⟨hbody, hending, hlast, hrest⟩ := id hls
    have hne : l.ending ≠ [] := fun hnil => rest.lines_ne_nil (hlast hnil)
    have hbraces : (joinLines (l.body :: bodies)).filter isBrace =
        l.body.filter isBrace ++ (joinLines bodies).filter isBrace := by
      rw [joinLines_cons rest.bodies_ne_nil, List.filter_append,
        List.filter_cons_of_neg (by decide)]
    rw [hbraces] at hbelow
    obtain ⟨hline, hafter⟩ := hbelow.ofLine ((rest.prolongs hrest).lineBreak hne hending)
      (Ternary.unseen_of_isLineBreak (by decide)) hls.unseen number number'
    rw [joinLines_cons rest.bodies_ne_nil, Line.split_body_append hbody, Scan.ofLines, Scan.ofLines,
      Line.text_split, ofConstructs_append, ofConstructs_append]
    exact Nat.add_le_add hline (ih hrest hafter _ _)

/-! ### Declarations -/

/-- The declaration can be read apart from the text around it: where its first line starts, no
parenthesis is open and no `do` waits for its body or its end, and it closes no brace that it did
not open, or at least is in no body of a `do`. -/
def Declaration.Apart (masked : List Char) (d : Declaration) : Prop :=
  let before := Scan.afterLines {} ((Text.lines masked).take (d.lineStart - 1).toNat)
  before.Quiet ∧
    (some .doLoop ∉ before.braces ∨ NeverOverclosed (d.spanText (Text.lines masked)))

instance (masked : List Char) (d : Declaration) : Decidable (d.Apart masked) :=
  inferInstanceAs (Decidable (_ ∧ (_ ∨ _)))

/-- A declaration that can be read apart is not more complex than the text. -/
theorem Declaration.Covers.cognitive_le {masked : List Char} {a b : Nat} {d : Declaration}
    (h : d.Covers (Text.lines masked) a b) (hb : b < (Text.lines masked).length)
    (hapart : d.Apart masked) : cognitive (d.spanText (Text.lines masked)) ≤ cognitive masked := by
  obtain ⟨hquiet, hdo⟩ := hapart
  have ha : (d.lineStart - 1).toNat = a := by
    rw [h.lineStart]
    omega
  rw [ha] at hquiet hdo
  obtain ⟨bodies, hspan, -, hexcerpt⟩ := h.excerpt (by rwa [Text.lines, List.length_map] at hb)
  rw [← Text.lines] at hspan
  rw [neverOverclosed_iff, ← covered_filter_isBrace_iff, hspan] at hdo
  have hcost := hexcerpt.cost_le ((Line.chained_split masked).drop a) (hquiet.below hdo) 1
    (1 + ((Line.split masked).take a).length)
  obtain ⟨first, hfirst⟩ := Scan.exists_ofLines_append ((Line.split masked).take a)
    ((Line.split masked).drop a) 1 {}
  rw [List.take_append_drop, ← Scan.constructs_eq_ofLines, List.map_take, ← Text.lines] at hfirst
  rw [cognitive_eq, cognitive_eq, hspan, Scan.constructs_eq_ofLines, hfirst, ofConstructs_append]
  exact hcost.trans (Nat.le_add_left _ _)

/-- In any dialect, every entity has a score, and it is not more complex than the file if it can be
read apart. -/
theorem Dialect.cognitive_le (d : Dialect) (rules : CountingRules) (source : List Char) {e : Entity}
    (he : e ∈ Entity.preorderAll (d.analyze rules source).entities) :
    ∃ score, e.declaration.score = some score ∧
      (e.declaration.Apart (d.analyze rules source).masked →
        score.cognitive ≤ (d.analyze rules source).score.cognitive) := by
  obtain ⟨e₀, he₀, heq⟩ := d.exists_of_mem_entities rules source he
  obtain ⟨a, b, covers, -, hb, -⟩ := (d.forest_outline (mask d.rules source)).of_mem he₀
  rw [heq]
  exact ⟨_, rfl, covers.cognitive_le hb⟩

namespace Scanner

/-- **A file is at least as complex as what is declared apart in it**, whichever scanner of the
library analyses it. -/
theorem cognitive_entity_le {s : Scanner} (hs : s ∈ builtinScanners) (rules : CountingRules)
    (source : List Char) :
    ∃ analysis, s.analyze rules source = .ok analysis ∧
      ∀ e ∈ Entity.preorderAll analysis.entities, ∃ score, e.declaration.score = some score ∧
        (e.declaration.Apart analysis.masked → score.cognitive ≤ analysis.score.cognitive) :=
  ⟨s.dialect.analyze rules source, by rw [analyze, failure_of_mem_builtin hs],
    fun _ he => s.dialect.cognitive_le rules source he⟩

/-- A function in the body of a `do`, behind a condition that opens a body too. -/
theorem cognitive_entity_le_insideDo :
    let source := "if (a) \x7b do \x7b\nfunction f() \x7b\n if (b) \x7b while (c);\n".toList ++
      "\x7d\x7d \x7d while (d);".toList
    ∃ analysis, JavaScript.scanner.analyze {} source = .ok analysis ∧
      ∃ e ∈ Entity.preorderAll analysis.entities, e.declaration.name = "f" ∧
        e.declaration.Apart analysis.masked ∧
        ∃ score, e.declaration.score = some score ∧ score.cognitive ≤ analysis.score.cognitive := by
  intro source
  have hmem : JavaScript.scanner ∈ builtinScanners := by simp [builtinScanners]
  obtain ⟨analysis, hanalysis, hle⟩ := cognitive_entity_le hmem {} source
  cases hanalysis
  have hfound : (Entity.preorderAll (JavaScript.dialect.analyze {} source).entities).any fun e =>
      e.declaration.name = "f" ∧
        e.declaration.Apart (JavaScript.dialect.analyze {} source).masked := by
    decide +kernel
  obtain ⟨e, he, hfound⟩ := List.any_eq_true.mp hfound
  obtain ⟨hname, hapart⟩ := of_decide_eq_true hfound
  obtain ⟨score, hscore, hcognitive⟩ := hle e he
  exact ⟨_, rfl, e, he, hname, hapart, score, hscore, hcognitive hapart⟩

end Scanner

/-- No entity is more complex than the file. -/
def Analysis.Outweighs (analysis : Analysis) : Prop :=
  ∀ e ∈ Entity.preorderAll analysis.entities, ∀ score ∈ e.declaration.score,
    score.cognitive ≤ analysis.score.cognitive

instance (analysis : Analysis) : Decidable analysis.Outweighs :=
  inferInstanceAs (Decidable (∀ e ∈ Entity.preorderAll analysis.entities,
    ∀ score ∈ e.declaration.score, score.cognitive ≤ analysis.score.cognitive))

/-- **An entity can be more complex than the file**: inside the parentheses of a call, behind a `do`
that has no end, and behind a brace that ends the body of a `do`. -/
theorem Scanner.entity_outweighs_file :
    (∃ analysis, JavaScript.scanner.analyze {}
        "run(\nfunction f() \x7b\n  if (a) \x7b\n    if (b) \x7b\x7d\n  \x7d\n\x7d\n)\n".toList =
          .ok analysis ∧ ¬analysis.Outweighs) ∧
      (∃ analysis, Java.scanner.analyze {}
        "do \x7b\x7d\nint f(while (x)) \x7b\n  if (a) \x7b\x7d\n  if (b) \x7b\x7d\n\x7d\n".toList =
          .ok analysis ∧ ¬analysis.Outweighs) ∧
      ∃ analysis, Java.scanner.analyze {}
        (String.toList
          "do \x7b\n@A(\x7d) int f(while (x)) \x7b\n  if (a) \x7b\x7d\n  if (b) \x7b\x7d\n\x7d\n") =
          .ok analysis ∧ ¬analysis.Outweighs := by
  refine ⟨⟨_, rfl, ?_⟩, ⟨_, rfl, ?_⟩, ⟨_, rfl, ?_⟩⟩ <;> decide +kernel

end SourceMetrics
