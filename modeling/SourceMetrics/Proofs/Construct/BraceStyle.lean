import Mathlib.Data.List.DropRight
import SourceMetrics.Proofs.Construct.Wrapping
import SourceMetrics.Proofs.Score.Cyclomatic
import SourceMetrics.Proofs.Score.Nesting

/-!
# An opening brace on a line of its own

An opening brace may stand at the end of a header or at the start of the next line: the constructs
are the same, each with the same nesting, and only the lines behind the break are counted one
higher. The scan is the same because a line can be cut in front of a brace. No token reaches over
the cut, a line that begins with a brace ends no wait for a body, and the first part of the line
still begins as the whole line did.

That last point is why something has to stand in front of the brace. A brace that begins its line
would leave an empty line behind, and an empty line ends the wait for a body.

## Main results

* `Ternary.isSome_answer?_lineFeed` — a line feed in front of a brace answers no question mark
* `Scan.ofLine_cut`, `Scan.afterLine_cut` — a line cut in front of a brace
* `exists_constructs_lineFeed` — the constructs of both styles, with their lines
* `constructs_openBrace_style` — the style of braces changes no score
-/

namespace SourceMetrics

open Text (Line)

/-! ### Question marks in front of the break -/

namespace Ternary

/-- A brace is read alike behind any character. -/
theorem Search.run_openBrace_before (s : Search) (b : Char) (rest : List Char) :
    ({ s with before := b }).run ('\x7b' :: rest) = s.run ('\x7b' :: rest) := by
  rw [run_cons, run_cons]
  simp [step, pass]

theorem unseen_openBrace (rest : List Char) : Unseen ('\x7b' :: rest).head? :=
  unseen_of_ne (by decide) (by decide) (by decide) (by decide)

theorem unseen_lineFeed (rest : List Char) : Unseen ('\n' :: rest).head? :=
  unseen_of_isLineBreak (by decide)

theorem Search.isSome_run_lineFeed (s : Search) (rest : List Char) :
    (s.run ('\n' :: '\x7b' :: rest)).isSome = (s.run ('\x7b' :: rest)).isSome := by
  rw [run_of_isLineBreak (by decide), Option.isSome_map, run_openBrace_before]

/-- **A line feed in front of a brace answers no question mark**, and takes no answer away. -/
theorem isSome_answer?_lineFeed (xs rest : List Char) :
    (answer? (xs ++ '\n' :: '\x7b' :: rest)).isSome = (answer? (xs ++ '\x7b' :: rest)).isSome := by
  have hfeed := unseen_lineFeed ('\x7b' :: rest)
  have hbrace := unseen_openBrace rest
  rcases Search.start.run_append xs with heq | ⟨-, s, n, heq⟩
  · rw [answer?, answer?, heq _ hfeed, heq _ hbrace]
  · rw [answer?, answer?, heq _ hfeed, heq _ hbrace, Option.isSome_map, Option.isSome_map,
      s.isSome_run_lineFeed]

end Ternary

/-! ### Columns -/

namespace Token

/-- A line that stands some columns further right has its tokens there. -/
theorem scanFrom_add (k : Nat) (cs : List Char) (skip column : Nat) (before : Option Char) :
    scanFrom skip (column + k) before cs =
      (scanFrom skip column before cs).map fun t => (t.1 + k, t.2) := by
  induction cs generalizing skip column before with
  | nil => rfl
  | cons c rest ih =>
    have hnext : ∀ skip, scanFrom skip (column + k + 1) (some c) rest =
        (scanFrom skip (column + 1) (some c) rest).map fun t => (t.1 + k, t.2) := fun skip => by
      rw [← ih, Nat.add_right_comm]
    cases skip with
    | succ skip => exact hnext skip
    | zero =>
      rw [scanFrom, scanFrom]
      cases at? before (c :: rest) with
      | none => exact hnext 0
      | some found => exact congrArg ((column + k, found.1) :: ·) (hnext (found.2 - 1))

/-- The tokens of a line that is cut in front of a brace. -/
theorem scan_append_openBrace (xs ys : List Char) :
    scan (xs ++ '\x7b' :: ys) =
      scan xs ++ (scan ('\x7b' :: ys)).map fun t => (t.1 + xs.length, t.2) := by
  have hbefore : ∀ column before, scanFrom 0 column before ('\x7b' :: ys) =
      (column, .openBrace) :: scanFrom 0 (column + 1) (some '\x7b') ys := fun column before => by
    rw [scanFrom, at?_openBrace]
  have hcut : scan (xs ++ '\x7b' :: ys) =
      scan xs ++ scanFrom 0 (0 + xs.length) (xs.getLast?.or none) ('\x7b' :: ys) :=
    scanFrom_append_brace (by decide) xs 0 0 none (Nat.zero_le _)
  rw [hcut, scan.eq_1 ('\x7b' :: ys), ← scanFrom_add, hbefore, hbefore]

end Token

namespace Scan

theorem found_map_column (f : Nat → Bool) (k line : Nat) (s : Scan) (ts : List (Nat × Token)) :
    found f line s (ts.map fun t => (t.1 + k, t.2)) =
      found (fun column => f (column + k)) line s ts := by
  induction ts generalizing s with
  | nil => rfl
  | cons t rest ih => rw [List.map_cons, found, found, ih]

theorem afterTokens_map_column (k : Nat) (s : Scan) (ts : List (Nat × Token)) :
    s.afterTokens (ts.map fun t => (t.1 + k, t.2)) = s.afterTokens ts := by
  rw [afterTokens, afterTokens, List.foldl_map]

theorem afterTokens_append (s : Scan) (xs ys : List (Nat × Token)) :
    s.afterTokens (xs ++ ys) = (s.afterTokens xs).afterTokens ys :=
  List.foldl_append

/-! ### A line cut in front of a brace -/

/-- A line that begins with a brace ends no wait. -/
theorem beginLine_openBrace (s : Scan) (ys : List Char) : s.beginLine ('\x7b' :: ys) = s := by
  have hhead : (Text.trimStart ('\x7b' :: ys)).head? = some '\x7b' := by
    rw [Text.trimStart, List.dropWhile_cons_of_neg (by decide), List.head?_cons]
  rw [beginLine, if_pos hhead]

/-- What a line begins with is decided by its first part, if that is not blank. -/
theorem beginLine_append {xs : List Char} (hxs : ∃ c ∈ xs, Text.isBlank c = false) (s : Scan)
    (ys : List Char) : s.beginLine (xs ++ ys) = s.beginLine xs := by
  have hne : Text.trimStart xs ≠ [] := by
    obtain ⟨c, hc, hblank⟩ := hxs
    intro hnil
    rw [List.dropWhile_eq_nil_iff.mp hnil c hc] at hblank
    cases hblank
  have htrim : Text.trimStart (xs ++ ys) = Text.trimStart xs ++ ys := by
    rw [Text.trimStart, Text.trimStart, List.dropWhile_append,
      if_neg (by rwa [List.isEmpty_iff])]
  rw [beginLine, beginLine, htrim, List.head?_append_of_ne_nil _ hne]

variable {xs : List Char}

/-- **A line cut in front of a brace**: the state behind it. -/
theorem afterLine_cut (hxs : ∃ c ∈ xs, Text.isBlank c = false) (s : Scan) (ys : List Char) :
    s.afterLine (xs ++ '\x7b' :: ys) = (s.afterLine xs).afterLine ('\x7b' :: ys) := by
  rw [afterLine, beginLine_append hxs, Token.scan_append_openBrace, afterTokens_append,
    afterTokens_map_column, afterLine, afterLine, beginLine_openBrace]

theorem answered_append (xs ys tail : List Char) (column : Nat) :
    answered (xs ++ ys) tail (column + xs.length) = answered ys tail column := by
  rw [answered, answered, Nat.add_right_comm, Nat.add_comm _ xs.length, List.drop_length_add_append]

/-- What is answered in the first part of a line is answered with the rest of the line behind it. -/
theorem found_answered_append (xs ys tail : List Char) (number : Nat) (s : Scan) :
    found (answered (xs ++ ys) tail) number s (Token.scan xs) =
      found (answered xs (ys ++ tail)) number s (Token.scan xs) := by
  refine found_congr (fun column hmem => ?_) _ _
  obtain ⟨pre, post, rfl, rfl, -⟩ := Token.exists_of_mem_scan_question hmem
  rw [List.append_assoc, List.cons_append, isSome_answered_append, isSome_answered_append,
    List.append_assoc]

/-- **A line cut in front of a brace**: its constructs. -/
theorem ofLine_cut (hxs : ∃ c ∈ xs, Text.isBlank c = false) (number : Nat) (s : Scan)
    (ys tail : List Char) :
    ofLine number s (xs ++ '\x7b' :: ys) tail =
      ofLine number s xs ('\x7b' :: ys ++ tail) ++
        ofLine number (s.afterLine xs) ('\x7b' :: ys) tail := by
  have hsecond : (fun column => answered (xs ++ '\x7b' :: ys) tail (column + xs.length)) =
      answered ('\x7b' :: ys) tail := funext fun column => answered_append xs _ tail column
  rw [ofLine, beginLine_append hxs, Token.scan_append_openBrace, found_append,
    found_answered_append,
    found_map_column, hsecond, ofLine, ofLine.eq_1 number (s.afterLine xs), beginLine_openBrace,
    afterLine]

/-! ### Later lines -/

/-- A line further down in the text has its constructs one line further down. -/
theorem found_succ (f : Nat → Bool) (line : Nat) (s : Scan) (ts : List (Nat × Token)) :
    found f (line + 1) s ts = (found f line s ts).map (Construct.shift 1 0) := by
  have hconstruct : ∀ (s : Scan) isTernary t, s.construct? (line + 1) isTernary t =
      (s.construct? line isTernary t).map (Construct.shift 1 0) := by
    intro s isTernary t
    cases t <;> cases isTernary <;> rfl
  induction ts generalizing s with
  | nil => rfl
  | cons t rest ih => rw [found, found, ih, hconstruct, List.map_append, Option.toList_map]

theorem ofLines_succ (number : Nat) (s : Scan) (ls : List Line) :
    ofLines (number + 1) s ls = (ofLines number s ls).map (Construct.shift 1 0) := by
  induction ls generalizing number s with
  | nil => rfl
  | cons l rest ih => rw [ofLines, ofLines, ih, ofLine, found_succ, ← ofLine, List.map_append]

/-- Lines in front of two texts that answer the same question marks. -/
theorem exists_ofLines_append_congr {ys zs : List Line}
    (h : ∀ pre, (Ternary.answer? (pre ++ Line.text ys)).isSome =
      (Ternary.answer? (pre ++ Line.text zs)).isSome) (xs : List Line) (number : Nat) (s : Scan) :
    ∃ first next after, ofLines number s (xs ++ ys) = first ++ ofLines next after ys ∧
      ofLines number s (xs ++ zs) = first ++ ofLines next after zs := by
  induction xs generalizing number s with
  | nil => exact ⟨[], number, s, rfl, rfl⟩
  | cons l rest ih =>
    obtain ⟨first, next, after, hys, hzs⟩ := ih (number + 1) (s.afterLine l.body)
    have hanswered : answered l.body (l.ending ++ Line.text (rest ++ zs)) =
        answered l.body (l.ending ++ Line.text (rest ++ ys)) := by
      funext column
      simp only [answered, Line.text_append, ← List.append_assoc, h]
    refine ⟨ofLine number s l.body (l.ending ++ Line.text (rest ++ ys)) ++ first, next, after,
      ?_, ?_⟩
    · rw [List.cons_append, ofLines, hys, List.append_assoc]
    · rw [List.cons_append, ofLines, hzs, List.append_assoc, ofLine, ofLine, hanswered]

end Scan

/-! ### Both styles -/

/-- The lines of a text that begins with characters of its first line. -/
theorem Text.Line.split_append_of_no_break {body : List Char}
    (h : ∀ c ∈ body, Text.isLineBreak c = false) {ys : List Char} {l : Line} {more : List Line}
    (hys : split ys = l :: more) : split (body ++ ys) = ⟨body ++ l.body, l.ending⟩ :: more := by
  induction body with
  | nil => exact hys
  | cons c body ih =>
    rw [List.cons_append, split_cons_of_not_break (h c List.mem_cons_self),
      ih fun d hd => h d (List.mem_cons_of_mem c hd), prepend, List.cons_append]

/-- The lines of a text that begins with a brace. -/
theorem Text.Line.exists_split_openBrace (back : List Char) :
    ∃ b ending more, split ('\x7b' :: back) = ⟨'\x7b' :: b, ending⟩ :: more ∧
      '\x7b' :: back = '\x7b' :: b ++ (ending ++ text more) := by
  obtain ⟨b, ending, more, hsplit⟩ : ∃ b ending more,
      split ('\x7b' :: back) = ⟨'\x7b' :: b, ending⟩ :: more := by
    rw [split_cons_of_not_break (by decide)]
    cases split back with
    | nil => exact ⟨[], [], [], rfl⟩
    | cons l more => exact ⟨l.body, l.ending, more, rfl⟩
  refine ⟨b, ending, more, hsplit, ?_⟩
  rw [← text_split ('\x7b' :: back), hsplit, text_cons]

/-- The constructs of both styles: those behind the break are one line further down. -/
theorem exists_constructs_lineFeed {whole body : List Char} (back : List Char)
    (hwhole : ∀ c ∈ whole.getLast?, Text.isLineBreak c = true)
    (hbody : ∀ c ∈ body, Text.isLineBreak c = false) (hblank : ∃ c ∈ body, Text.isBlank c = false) :
    ∃ before behind, constructs (whole ++ (body ++ '\x7b' :: back)) = before ++ behind ∧
      constructs (whole ++ (body ++ '\n' :: '\x7b' :: back)) =
        before ++ behind.map (Construct.shift 1 0) := by
  obtain ⟨b, ending, more, hsplit, hback⟩ := Line.exists_split_openBrace back
  have hcut : ∀ ys, Text.Cuttable whole (body ++ ys) := by
    intro ys
    obtain ⟨c, hc, -⟩ := hblank
    obtain ⟨d, rest, rfl⟩ := List.exists_cons_of_ne_nil (List.ne_nil_of_mem hc)
    refine ⟨hwhole, fun h => ?_⟩
    have hd : d = '\n' := Option.some.inj h.2
    exact absurd (hbody d List.mem_cons_self) (by rw [hd]; decide)
  have hone := Line.split_append_of_no_break hbody hsplit
  have htwo := Line.split_body_append hbody ('\x7b' :: back)
  rw [hsplit] at htwo
  -- the lines in front of the break look at the two texts behind them alike
  have hanswers : ∀ pre,
      (Ternary.answer? (pre ++ Line.text (Line.split (body ++ '\x7b' :: back)))).isSome =
        (Ternary.answer? (pre ++
          Line.text (Line.split (body ++ '\n' :: '\x7b' :: back)))).isSome := by
    intro pre
    rw [Line.text_split, Line.text_split, ← List.append_assoc, ← List.append_assoc,
      Ternary.isSome_answer?_lineFeed]
  obtain ⟨first, number, s, hfirst, hsecond⟩ :=
    Scan.exists_ofLines_append_congr hanswers (Line.split whole) 1 {}
  have hline : Scan.ofLine number s body ('\n' :: '\x7b' :: back) =
      Scan.ofLine number s body ('\x7b' :: back) := by
    refine Scan.found_congr (fun column _ => ?_) _ _
    exact Ternary.isSome_answer?_lineFeed _ _
  refine ⟨first ++ Scan.ofLine number s body ('\x7b' :: back),
    Scan.ofLines number (s.afterLine body) (⟨'\x7b' :: b, ending⟩ :: more), ?_, ?_⟩
  · rw [Scan.constructs_eq_ofLines, Line.split_append (hcut _), hfirst, hone, Scan.ofLines,
      Scan.ofLine_cut hblank, Scan.afterLine_cut hblank, ← hback, Scan.ofLines]
    simp only [List.append_assoc]
  · rw [Scan.constructs_eq_ofLines, Line.split_append (hcut _), hsecond, htwo, Scan.ofLines,
      Line.text_cons, ← hback, List.singleton_append, hline, Scan.ofLines_succ, List.append_assoc]

/-! ### Scores -/

/-- What a construct is and how deep it stands, without its line. -/
def Construct.shape (c : Construct) : ConstructKind × Nat × Bool :=
  (c.kind, c.nesting, c.doWhileTail)

variable {found found' : List Construct}

theorem Cyclomatic.ofConstructs_eq_of_shape
    (h : found.map Construct.shape = found'.map Construct.shape)
    (rules : CountingRules) : ofConstructs rules found = ofConstructs rules found' := by
  have hcount : ∀ found : List Construct, (found.countP fun c => rules.counts c.kind) =
      (found.map Construct.shape).countP fun shape => rules.counts shape.1 := fun found => by
    rw [List.countP_map]
    rfl
  rw [ofConstructs_eq, ofConstructs_eq, hcount, hcount, h]

theorem Cognitive.ofConstructs_eq_of_shape
    (h : found.map Construct.shape = found'.map Construct.shape) :
    ofConstructs found = ofConstructs found' := by
  have hcost : ∀ found : List Construct, found.map cost =
      (found.map Construct.shape).map fun shape => cost ⟨shape.1, 0, shape.2.1, shape.2.2⟩ :=
    fun found => by
      rw [List.map_map]
      rfl
  rw [ofConstructs, ofConstructs, hcost, hcost, h]

/-- The constructs of both styles differ in their lines only. -/
theorem shape_constructs_lineFeed {front : List Char} (back : List Char)
    (h : ∃ c ∈ front.rtakeWhile (fun c => !Text.isLineBreak c), Text.isBlank c = false) :
    (constructs (front ++ '\n' :: '\x7b' :: back)).map Construct.shape =
      (constructs (front ++ '\x7b' :: back)).map Construct.shape := by
  have hwhole : ∀ c ∈ (front.rdropWhile fun c => !Text.isLineBreak c).getLast?,
      Text.isLineBreak c = true := by
    intro c hc
    obtain ⟨hne, rfl⟩ := List.mem_getLast?_eq_getLast hc
    simpa using List.rdropWhile_last_not _ front hne
  have hbody : ∀ c ∈ front.rtakeWhile fun c => !Text.isLineBreak c, Text.isLineBreak c = false :=
    fun c hc => by simpa using List.mem_rtakeWhile_imp hc
  obtain ⟨before, behind, hone, htwo⟩ := exists_constructs_lineFeed back hwhole hbody h
  rw [← List.append_assoc, List.rdropWhile_append_rtakeWhile] at hone htwo
  have hshift : (behind.map (Construct.shift 1 0)).map Construct.shape =
      behind.map Construct.shape := List.map_map
  rw [hone, htwo, List.map_append, List.map_append, hshift]

/-- **The style of braces changes no score.** An opening brace with something in front of it on its
line may be put on a line of its own: the constructs are the same, with the same nesting, and so are
cyclomatic and cognitive complexity and the depth of brace nesting. -/
theorem constructs_openBrace_style (front back : List Char)
    (h : ∃ c ∈ front.rtakeWhile (fun c => !Text.isLineBreak c), Text.isBlank c = false) :
    (constructs (front ++ '\n' :: '\x7b' :: back)).map
        (fun c => (c.kind, c.nesting, c.doWhileTail)) =
      (constructs (front ++ '\x7b' :: back)).map (fun c => (c.kind, c.nesting, c.doWhileTail)) ∧
    (∀ rules : CountingRules, cyclomatic rules (front ++ '\n' :: '\x7b' :: back) =
      cyclomatic rules (front ++ '\x7b' :: back)) ∧
    cognitive (front ++ '\n' :: '\x7b' :: back) = cognitive (front ++ '\x7b' :: back) ∧
    ∀ base : Int, nestingDepth base (front ++ '\n' :: '\x7b' :: back) =
      nestingDepth base (front ++ '\x7b' :: back) := by
  have hshape := shape_constructs_lineFeed back h
  have hbraces : (front ++ '\n' :: '\x7b' :: back).filter isBrace =
      (front ++ '\x7b' :: back).filter isBrace := by
    rw [List.filter_append, List.filter_append, List.filter_cons_of_neg (by decide)]
  refine ⟨hshape, fun rules => ?_, ?_, fun base => ?_⟩
  · rw [cyclomatic_eq_ofConstructs, cyclomatic_eq_ofConstructs,
      Cyclomatic.ofConstructs_eq_of_shape hshape]
  · rw [cognitive_eq, cognitive_eq, Cognitive.ofConstructs_eq_of_shape hshape]
  · rw [nestingDepth, nestingDepth, Nesting.deepest, Nesting.deepest,
      ← Nesting.deepestFrom_filter_isBrace, hbraces, Nesting.deepestFrom_filter_isBrace]

/-- A condition inside the parentheses of a header, in the body of a `do`, with a brace behind an
arrow further on. -/
theorem constructs_openBrace_style_arrow :
    let front := "do \x7b\r\n  while (a ? b : c)".toList
    let back := " f(x => \x7b if (y) \x7b\x7d \x7d) \x7d \x7d while (z)".toList
    (∃ c ∈ front.rtakeWhile (fun c => !Text.isLineBreak c), Text.isBlank c = false) ∧
      (constructs (front ++ '\n' :: '\x7b' :: back)).map
          (fun c => (c.kind, c.nesting, c.doWhileTail)) =
        (constructs (front ++ '\x7b' :: back)).map
          (fun c => (c.kind, c.nesting, c.doWhileTail)) := by
  intro front back
  have h : ∃ c ∈ front.rtakeWhile (fun c => !Text.isLineBreak c), Text.isBlank c = false :=
    ⟨')', by decide, by decide⟩
  exact ⟨h, (constructs_openBrace_style front back h).1⟩

/-- An empty line in front of the brace ends the wait for a body. -/
example : (constructs "if (a)\n\x7b if (b)".toList).map Construct.nesting = [0, 1] ∧
    (constructs "if (a)\n\n\x7b if (b)".toList).map Construct.nesting = [0, 0] := by
  decide

end SourceMetrics
