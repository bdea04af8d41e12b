import Mathlib.Data.List.Infix
import Mathlib.Logic.Function.Iterate
import Mathlib.Tactic.Ring
import SourceMetrics.Proofs.Construct.Braces
import SourceMetrics.Score.Cognitive

/-!
# Wrapping a text in a block

A text that is put into the body of an `if` has the same constructs as before, each one line further
down and one body further in. In a bare block they are only one line further down. The text may be
broken in every way but one: it may leave parentheses and braces open, end in the middle of a header
or of a line, but it must not close a brace that it did not open.

The proof takes the wrapper off from both ends. The line that closes the block adds a closing brace
behind everything: it is seen by no token and answers no question mark. The line that opens the
block leaves a state that differs from the initial one by a brace around everything, and the rest of
the scan runs in step with the scan of the text alone.

## Main definitions

* `inIf`, `inBlock` — a text in the body of an `if`, and in a block
* `NeverOverclosed` — a text that closes no brace it did not open
* `Cognitive.growing` — the number of constructs that cost more in a deeper place

## Main results

* `constructs_append_closing` — a closing line adds nothing
* `constructs_wrapped` — the constructs of a wrapped text, and its complexity
-/

namespace SourceMetrics

/-! ### The closing line -/

/-- The line that closes a block. -/
def closing : List Char := ['\x7d', '\n']

theorem Ternary.Search.run_closing : ∀ s : Search, s.run closing = none :=
  run_closeBrace fun s => by rw [run_of_isLineBreak (by decide), run_nil, Option.map_none]

theorem Ternary.answer?_append_closing (cs : List Char) :
    answer? (cs ++ closing) = answer? cs := by
  have hbrace : Unseen closing.head? :=
    unseen_of_ne (c := '\x7d') (by decide) (by decide) (by decide) (by decide)
  exact answer?_append_of_run_eq_none hbrace Search.run_closing cs

namespace Scan

theorem answered_append_closing (body tail : List Char) (column : Nat) :
    answered body (tail ++ closing) column = answered body tail column := by
  rw [answered, ← List.append_assoc, Ternary.answer?_append_closing, answered]

/-- A line does not begin with an opening brace because a closing one is put behind it. -/
theorem beginLine_append_closeBrace (s : Scan) (body rest : List Char) :
    s.beginLine (body ++ '\x7d' :: rest) = s.beginLine body := by
  have hhead : (Text.trimStart (body ++ '\x7d' :: rest)).head? = some '\x7b' ↔
      (Text.trimStart body).head? = some '\x7b' := by
    rw [Text.trimStart, Text.trimStart, List.dropWhile_append]
    split
    next hnil =>
      rw [List.isEmpty_iff.mp hnil, List.dropWhile_cons_of_neg (by decide)]
      simp
    next => exact Token.head?_append_brace_eq_iff (by decide) _
  rw [beginLine, beginLine]
  simp only [hhead]

/-- The last line with the closing brace of a block behind it has no other constructs. -/
theorem ofLine_append_closeBrace (number : Nat) (s : Scan) (body : List Char) :
    ofLine number s (body ++ ['\x7d']) ['\n'] = ofLine number s body [] := by
  have hlast : ∀ (f : Nat → Bool) (s : Scan), found f number s [(body.length, .closeBrace)] = [] :=
    fun f s => rfl
  have hscan : Token.scan (body ++ ['\x7d']) = Token.scan body ++ [(body.length, .closeBrace)] :=
    Token.scan_append_closeBrace body
  rw [ofLine, ofLine, beginLine_append_closeBrace, hscan, found_append, hlast, List.append_nil]
  refine found_congr (fun column hmem => ?_) _ _
  obtain ⟨xs, ys, rfl, rfl, -⟩ := Token.exists_of_mem_scan_question hmem
  rw [List.append_assoc, List.cons_append, isSome_answered_append, isSome_answered_append,
    List.append_nil, List.append_assoc]
  exact congrArg Option.isSome (Ternary.answer?_append_closing ys)

theorem ofLines_append_closing (body : List Char) (ls : List Text.Line) (number : Nat) (s : Scan) :
    ofLines number s (ls ++ [⟨body ++ ['\x7d'], ['\n']⟩]) =
      ofLines number s (ls ++ Text.Line.unfinished body) := by
  induction ls generalizing number s with
  | nil =>
    have hline := ofLine_append_closeBrace number s body
    rw [List.nil_append, List.nil_append, ofLines, ofLines, Text.Line.text_nil, List.append_nil,
      List.append_nil, hline, Text.Line.unfinished]
    split
    next hnil => subst hnil; rfl
    next => simp [ofLines]
  | cons l rest ih =>
    have htext : Text.Line.text (rest ++ [⟨body ++ ['\x7d'], ['\n']⟩]) =
        Text.Line.text (rest ++ Text.Line.unfinished body) ++ closing := by
      rw [Text.Line.unfinished]
      split
      next hnil => subst hnil; simp [closing]
      next => simp [closing]
    rw [List.cons_append, List.cons_append, ofLines, ofLines, ih, htext, ← List.append_assoc,
      ofLine, ofLine]
    congr 1
    exact found_congr (fun column _ => answered_append_closing _ _ column) _ _

end Scan

/-- **A closing line adds nothing**, whether or not the text in front of it ends its last line. -/
theorem constructs_append_closing (cs : List Char) :
    constructs (cs ++ closing) = constructs cs := by
  obtain ⟨whole, body, rfl, hwhole, hbody⟩ := Text.exists_last_line cs
  have hcut : ∀ ys : List Char, ys.head? ≠ some '\n' → Text.Cuttable whole ys := fun ys hys =>
    ⟨hwhole, fun h => hys h.2⟩
  have hhead : body.head? ≠ some '\n' := fun h =>
    absurd (hbody '\n' (List.mem_of_head? h)) (by decide)
  have hhead' : (body ++ closing).head? ≠ some '\n' := by
    cases body with
    | nil => decide
    | cons c body => exact hhead
  have hlast : Text.Line.split (body ++ closing) = [⟨body ++ ['\x7d'], ['\n']⟩] := by
    have hclosed : ∀ c ∈ body ++ ['\x7d'], Text.isLineBreak c = false := by
      intro c hc
      rcases List.mem_append.mp hc with hc | hc
      · exact hbody c hc
      · rw [List.mem_singleton.mp hc]
        decide
    have hsplit := Text.Line.split_body_append hclosed []
    rwa [List.append_assoc] at hsplit
  rw [Scan.constructs_eq_ofLines, Scan.constructs_eq_ofLines, List.append_assoc,
    Text.Line.split_append (hcut _ hhead'), Text.Line.split_append (hcut _ hhead), hlast,
    Text.Line.split_of_no_break hbody]
  exact Scan.ofLines_append_closing body _ 1 {}

/-! ### The opening line -/

/-- A text that closes no brace it did not open. -/
def NeverOverclosed (cs : List Char) : Prop :=
  ∀ start, start <+: cs → start.count '\x7d' ≤ start.count '\x7b'

theorem neverOverclosed_iff (cs : List Char) : NeverOverclosed cs ↔ Covered 0 cs := by
  simp only [covered_iff, Nat.add_zero, NeverOverclosed]

instance (cs : List Char) : Decidable (NeverOverclosed cs) :=
  decidable_of_iff _ (neverOverclosed_iff cs).symm

theorem NeverOverclosed.covered_lines {cs : List Char} (h : NeverOverclosed cs) :
    Covered 0 ((Text.Line.split cs).flatMap Text.Line.body) := by
  rw [← covered_filter_isBrace_iff, filter_isBrace_flatMap_body (Text.Line.chained_split cs),
    Text.Line.text_split, covered_filter_isBrace_iff]
  exact (neverOverclosed_iff cs).mp h

/-- A first line that leaves just one brace open, around everything that follows. -/
theorem constructs_opening {head cs : List Char} {outer : Option ConstructKind}
    (hhead : head.any Text.isLineBreak = false)
    (hafter : ({} : Scan).afterLine head = ({} : Scan).under outer) (h : NeverOverclosed cs) :
    constructs (head ++ '\n' :: cs) =
      Scan.ofLine 1 {} head ('\n' :: cs) ++
        (constructs cs).map (Construct.shift 1 outer.isSome.toNat) := by
  have hbody : ∀ c ∈ head, Text.isLineBreak c = false := by
    simpa [List.any_eq_false] using hhead
  rw [Scan.constructs_eq_ofLines, Text.Line.split_body_append hbody, Scan.ofLines,
    Text.Line.text_split, hafter, Scan.ofLines_under outer _ 1 {} h.covered_lines,
    ← Scan.constructs_eq_ofLines]
  rfl

/-! ### Wrapped texts -/

/-- A text in the body of an `if`. -/
def inIf (cs : List Char) : List Char := "if (w) \x7b\n".toList ++ cs ++ "\x7d\n".toList

/-- A text in a block. -/
def inBlock (cs : List Char) : List Char := "\x7b\n".toList ++ cs ++ "\x7d\n".toList

/-- The line with which `inIf` begins. -/
def ifHead : List Char := ['i', 'f', ' ', '(', 'w', ')', ' ', '\x7b']

theorem inIf_eq (cs : List Char) : inIf cs = ifHead ++ '\n' :: (cs ++ closing) := by
  have hhead : "if (w) \x7b\n".toList = ifHead ++ ['\n'] := by decide
  have hclosing : "\x7d\n".toList = closing := by decide
  calc inIf cs
      = ifHead ++ ['\n'] ++ cs ++ closing :=
        congrArg₂ (fun first last => first ++ cs ++ last) hhead hclosing
    _ = ifHead ++ '\n' :: (cs ++ closing) := by simp

theorem inBlock_eq (cs : List Char) : inBlock cs = ['\x7b'] ++ '\n' :: (cs ++ closing) := by
  have hhead : "\x7b\n".toList = ['\x7b', '\n'] := by decide
  have hclosing : "\x7d\n".toList = closing := by decide
  calc inBlock cs
      = ['\x7b', '\n'] ++ cs ++ closing :=
        congrArg₂ (fun first last => first ++ cs ++ last) hhead hclosing
    _ = ['\x7b'] ++ '\n' :: (cs ++ closing) := by simp

/-- A wrapped text is one in which the wrapper closes what it opens. -/
theorem neverOverclosed_inIf {cs : List Char} (h : NeverOverclosed cs) :
    NeverOverclosed (inIf cs) := by
  obtain ⟨hinner, hdepth⟩ := ((neverOverclosed_iff cs).mp h).succ
  have hopen : ifHead.foldl Nesting.after 0 = 1 := by decide
  have hhead : Covered 0 ifHead := by simp [ifHead, Covered]
  have hclosing : Covered (cs.foldl Nesting.after (0 + 1)) closing := by
    rw [hdepth]
    simp [closing, Covered]
  have htail : Covered 1 ('\n' :: (cs ++ closing)) := by
    refine ⟨by decide, ?_⟩
    rw [Nesting.after_of_not_isBrace (by decide), covered_append_iff]
    exact ⟨hinner, hclosing⟩
  rw [neverOverclosed_iff, inIf_eq, covered_append_iff, hopen]
  exact ⟨hhead, htail⟩

theorem constructs_inIf {cs : List Char} (h : NeverOverclosed cs) :
    constructs (inIf cs) =
      ⟨.ifBranch, 1, 0, false⟩ :: (constructs cs).map (Construct.shift 1 1) := by
  have hscan : Token.scan ifHead =
      [(0, .keyword .ifBranch), (3, .openParen), (5, .closeParen), (7, .openBrace)] := by
    decide
  have hafter : ({} : Scan).afterLine ifHead = ({} : Scan).under (some .ifBranch) := by
    decide
  have hline : ∀ tail, Scan.ofLine 1 {} ifHead tail = [⟨.ifBranch, 1, 0, false⟩] := by
    intro tail
    rw [Scan.ofLine, hscan]
    rfl
  rw [inIf_eq, ← List.cons_append, ← List.append_assoc, constructs_append_closing,
    constructs_opening (by decide) hafter h, hline]
  rfl

theorem constructs_inBlock {cs : List Char} (h : NeverOverclosed cs) :
    constructs (inBlock cs) = (constructs cs).map (Construct.shift 1 0) := by
  have hscan : Token.scan ['\x7b'] = [(0, .openBrace)] := by decide
  have hafter : ({} : Scan).afterLine ['\x7b'] = ({} : Scan).under none := by decide
  have hline : ∀ tail, Scan.ofLine 1 {} ['\x7b'] tail = [] := by
    intro tail
    rw [Scan.ofLine, hscan]
    rfl
  rw [inBlock_eq, ← List.cons_append, ← List.append_assoc, constructs_append_closing,
    constructs_opening (by decide) hafter h, hline]
  rfl

/-! ### Cognitive complexity -/

theorem cognitive_eq (cs : List Char) : cognitive cs = Cognitive.ofConstructs (constructs cs) := by
  rw [cognitive]
  split
  next h => rw [constructs_of_allBlank h]; rfl
  next => rfl

namespace Cognitive

/-- Whether a construct costs more in a deeper place. -/
def grows (c : Construct) : Bool := !c.doWhileTail && growsWithNesting c.kind

/-- The number of constructs of a text that cost more in a deeper place. -/
def growing (cs : List Char) : Nat := (constructs cs).countP grows

theorem cost_shift (c : Construct) : cost (c.shift 1 1) = cost c + (grows c).toNat := by
  obtain ⟨kind, line, nesting, tail⟩ := c
  simp only [cost, grows, Construct.shift]
  cases tail <;> cases kind <;> rfl

theorem total_cost_shift (found : List Construct) :
    ofConstructs (found.map (Construct.shift 1 1)) = ofConstructs found + found.countP grows := by
  induction found with
  | nil => rfl
  | cons c rest ih =>
    simp only [ofConstructs, List.map_cons, Number.total_cons, List.countP_cons, cost_shift] at ih ⊢
    rw [ih]
    cases grows c <;> simp <;> omega

/-- One more `if` around a text costs one for itself and one for each construct that grows. -/
theorem cognitive_inIf {cs : List Char} (h : NeverOverclosed cs) :
    cognitive (inIf cs) = cognitive cs + growing cs + 1 := by
  have hhead : ∀ rest, ofConstructs (⟨.ifBranch, 1, 0, false⟩ :: rest) = ofConstructs rest + 1 :=
    fun rest => Nat.add_comm _ _
  rw [cognitive_eq, cognitive_eq, constructs_inIf h, hhead, total_cost_shift, growing]

theorem growing_inIf {cs : List Char} (h : NeverOverclosed cs) :
    growing (inIf cs) = growing cs + 1 := by
  rw [growing, constructs_inIf h, List.countP_cons, List.countP_map]
  rfl

end Cognitive

theorem neverOverclosed_iterate {cs : List Char} (h : NeverOverclosed cs) (depth : Nat) :
    NeverOverclosed (inIf^[depth] cs) := by
  induction depth with
  | zero => exact h
  | succ depth ih =>
    rw [Function.iterate_succ_apply']
    exact neverOverclosed_inIf ih

theorem growing_iterate {cs : List Char} (h : NeverOverclosed cs) (depth : Nat) :
    Cognitive.growing (inIf^[depth] cs) = Cognitive.growing cs + depth := by
  induction depth with
  | zero => rfl
  | succ depth ih =>
    rw [Function.iterate_succ_apply', Cognitive.growing_inIf (neverOverclosed_iterate h depth), ih,
      Nat.add_assoc]

theorem cognitive_iterate {cs : List Char} (h : NeverOverclosed cs) (depth : Nat) :
    cognitive (inIf^[depth] cs) =
      cognitive cs + depth * Cognitive.growing cs + depth * (depth + 1) / 2 := by
  induction depth with
  | zero => simp
  | succ depth ih =>
    have htriangle : (depth + 1) * (depth + 1 + 1) / 2 = depth * (depth + 1) / 2 + (depth + 1) := by
      rw [show (depth + 1) * (depth + 1 + 1) = depth * (depth + 1) + 2 * (depth + 1) by ring,
        Nat.add_mul_div_left _ _ (by decide)]
    rw [Function.iterate_succ_apply', Cognitive.cognitive_inIf (neverOverclosed_iterate h depth),
      growing_iterate h, ih, htriangle, Nat.succ_mul]
    omega

/-- **Wrapping a text.** In the body of an `if`, the constructs of a text follow that of the `if`,
one line further down and one body further in; in a block they are one line further down. So every
`if` around a text raises its cognitive complexity by one for each construct that grows with
nesting, besides its own cost. -/
theorem constructs_wrapped (cs : List Char)
    (h : ∀ start, start <+: cs → start.count '\x7d' ≤ start.count '\x7b') :
    constructs (inIf cs) =
        ⟨.ifBranch, 1, 0, false⟩ ::
          (constructs cs).map (fun c => { c with line := c.line + 1, nesting := c.nesting + 1 }) ∧
      constructs (inBlock cs) = (constructs cs).map (fun c => { c with line := c.line + 1 }) ∧
      ∀ depth : Nat,
        cognitive (inIf^[depth] cs) =
          cognitive cs + depth * Cognitive.growing cs + depth * (depth + 1) / 2 :=
  ⟨constructs_inIf h, constructs_inBlock h, cognitive_iterate h⟩

/-- A text with an open brace, an open parenthesis, the end of a `do` and no final line break. -/
theorem constructs_wrapped_unfinished :
    (∀ start, start <+: "do \x7b f( \x7d while (a ? b : c) \x7b if (".toList →
        start.count '\x7d' ≤ start.count '\x7b') ∧
      ∀ depth : Nat,
        cognitive (inIf^[depth] "do \x7b f( \x7d while (a ? b : c) \x7b if (".toList) =
          cognitive "do \x7b f( \x7d while (a ? b : c) \x7b if (".toList +
            depth * Cognitive.growing "do \x7b f( \x7d while (a ? b : c) \x7b if (".toList +
              depth * (depth + 1) / 2 := by
  have h : ∀ start, start <+: "do \x7b f( \x7d while (a ? b : c) \x7b if (".toList →
      start.count '\x7d' ≤ start.count '\x7b' := by
    intro start hstart
    have hall : ∀ start ∈ "do \x7b f( \x7d while (a ? b : c) \x7b if (".toList.inits,
        start.count '\x7d' ≤ start.count '\x7b' := by decide
    exact hall start ((List.mem_inits _ _).mpr hstart)
  exact ⟨h, (constructs_wrapped _ h).2.2⟩

end SourceMetrics
