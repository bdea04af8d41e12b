import SourceMetrics.Proofs.Construct.Scan
import SourceMetrics.Score.Nesting

/-!
# The braces of a text and the stack of a scan

The stack of a scan has an entry for each open brace, so its height is the depth of brace nesting at
the place that has been reached. A text in which no prefix closes more than it opens never empties a
stack that was there before it.

## Main definitions

* `Covered` — a text that never closes more braces than are open
* `Scan.under` — a scan with one more brace open around everything

## Main results

* `covered_iff` — the condition on prefixes
* `Scan.length_braces_afterTokens` — the height of the stack is the depth of the braces
* `Scan.ofLines_under` — a scan under one more brace
-/

namespace SourceMetrics

/-! ### Texts that close what they open -/

/-- A text that never closes more braces than the `depth` that are open and those it opens
itself. -/
def Covered (depth : Nat) : List Char → Prop
  | [] => True
  | c :: rest => (c = '\x7d' → 0 < depth) ∧ Covered (Nesting.after depth c) rest

instance Covered.instDecidable : ∀ (depth : Nat) (cs : List Char), Decidable (Covered depth cs)
  | _, [] => inferInstanceAs (Decidable True)
  | depth, c :: rest =>
    have := instDecidable (Nesting.after depth c) rest
    inferInstanceAs (Decidable ((c = '\x7d' → 0 < depth) ∧ Covered (Nesting.after depth c) rest))

theorem Nesting.after_of_not_isBrace {c : Char} (h : isBrace c = false) (depth : Nat) :
    after depth c = depth := by
  have hne := (Bool.not_eq_true _ ▸ h : ¬isBrace c = true)
  rw [isBrace_iff, not_or] at hne
  rw [after, if_neg hne.1, if_neg hne.2]

theorem covered_filter_isBrace_iff (cs : List Char) (depth : Nat) :
    Covered depth (cs.filter isBrace) ↔ Covered depth cs := by
  induction cs generalizing depth with
  | nil => rfl
  | cons c rest ih =>
    by_cases hc : isBrace c = true
    · rw [List.filter_cons_of_pos hc, Covered, Covered, ih]
    · have hclose : c ≠ '\x7d' := fun h => hc (isBrace_iff.mpr (.inr h))
      rw [List.filter_cons_of_neg hc, ih, Covered,
        Nesting.after_of_not_isBrace (by simpa using hc)]
      simp [hclose]

theorem Nesting.foldl_after_filter_isBrace (cs : List Char) (depth : Nat) :
    (cs.filter isBrace).foldl Nesting.after depth = cs.foldl Nesting.after depth := by
  induction cs generalizing depth with
  | nil => rfl
  | cons c rest ih =>
    by_cases hc : isBrace c = true
    · rw [List.filter_cons_of_pos hc, List.foldl_cons, List.foldl_cons, ih]
    · rw [List.filter_cons_of_neg hc, ih, List.foldl_cons,
        Nesting.after_of_not_isBrace (by simpa using hc)]

/-- Line breaks are no braces, so a text has the braces of its lines. -/
theorem filter_isBrace_flatMap_body {ls : List Text.Line} (h : Text.Line.Chained ls) :
    (ls.flatMap Text.Line.body).filter isBrace = (Text.Line.text ls).filter isBrace := by
  induction ls with
  | nil => rfl
  | cons l rest ih =>
    obtain ⟨-, hending, -, hrest⟩ := h
    have hbreaks : l.ending.filter isBrace = [] := by
      rw [List.filter_eq_nil_iff]
      intro c hc hbrace
      have hbreak := hending c hc
      rcases isBrace_iff.mp hbrace with rfl | rfl <;> exact absurd hbreak (by decide)
    rw [List.flatMap_cons, Text.Line.text_cons, List.filter_append, List.filter_append,
      List.filter_append, hbreaks, List.nil_append, ih hrest]

theorem covered_append_iff (xs ys : List Char) (depth : Nat) :
    Covered depth (xs ++ ys) ↔ Covered depth xs ∧ Covered (xs.foldl Nesting.after depth) ys := by
  induction xs generalizing depth with
  | nil => simp [Covered]
  | cons c xs ih => rw [List.cons_append, Covered, Covered, ih, and_assoc, List.foldl_cons]

/-- With one more brace open, a covered text stays covered and ends one deeper. -/
theorem Covered.succ {cs : List Char} {depth : Nat} (h : Covered depth cs) :
    Covered (depth + 1) cs ∧
      cs.foldl Nesting.after (depth + 1) = cs.foldl Nesting.after depth + 1 := by
  induction cs generalizing depth with
  | nil => exact ⟨trivial, rfl⟩
  | cons c rest ih =>
    have hafter : Nesting.after (depth + 1) c = Nesting.after depth c + 1 := by
      have hpos := h.1
      simp only [Nesting.after]
      split_ifs with hopen hclose
      · rfl
      · have := hpos hclose
        omega
      · rfl
    obtain ⟨hrest, hfold⟩ := ih h.2
    rw [Covered, List.foldl_cons, List.foldl_cons, hafter]
    exact ⟨⟨fun _ => Nat.succ_pos depth, hrest⟩, hfold⟩

theorem covered_iff (cs : List Char) (depth : Nat) :
    Covered depth cs ↔
      ∀ start, start <+: cs → start.count '\x7d' ≤ start.count '\x7b' + depth := by
  induction cs generalizing depth with
  | nil => simp [Covered]
  | cons c rest ih =>
    have hcons : (∀ start, start <+: c :: rest →
          start.count '\x7d' ≤ start.count '\x7b' + depth) ↔
        ∀ start, start <+: rest →
          (c :: start).count '\x7d' ≤ (c :: start).count '\x7b' + depth := by
      constructor
      · intro h start hstart
        exact h _ (List.cons_prefix_cons.mpr ⟨rfl, hstart⟩)
      · intro h start hstart
        rcases List.prefix_cons_iff.mp hstart with rfl | ⟨start, rfl, htail⟩
        · simp
        · exact h start htail
    rw [hcons, Covered, ih]
    simp only [List.count_cons, Nesting.after, beq_iff_eq]
    by_cases hopen : c = '\x7b'
    · simp only [hopen, if_true, if_false, Char.reduceEq, false_implies, true_and]
      exact forall₂_congr fun start _ => by omega
    · by_cases hclose : c = '\x7d'
      · simp only [hclose, Char.reduceEq, if_true, if_false, true_implies]
        constructor
        · rintro ⟨hpos, h⟩ start hstart
          have := h start hstart
          omega
        · intro h
          have hpos : 1 ≤ depth := by simpa using h [] List.nil_prefix
          refine ⟨hpos, fun start hstart => ?_⟩
          have := h start hstart
          omega
      · simp only [hopen, hclose, if_false, false_implies, true_and, Nat.add_zero]

/-! ### The height of the stack -/

namespace Scan

theorem braces_endStatement (s : Scan) : s.endStatement.braces = s.braces := by
  rw [endStatement, endBody]
  split_ifs
  · cases s.waiting <;> rfl
  · rfl

@[simp] theorem braces_beginLine (s : Scan) (line : List Char) :
    (s.beginLine line).braces = s.braces := by
  rw [beginLine]
  split_ifs
  · rfl
  · exact s.braces_endStatement

theorem braces_keyword (s : Scan) (kind : ConstructKind) : (s.keyword kind).braces = s.braces := by
  rw [keyword]
  split_ifs <;> rfl

/-- A token changes the height of the stack as its brace changes the depth. -/
theorem length_braces_advance (s : Scan) (t : Token) :
    (s.advance t).braces.length = t.brace?.toList.foldl Nesting.after s.braces.length := by
  cases t with
  | keyword kind => exact congrArg List.length (s.braces_keyword kind)
  | jump => exact congrArg List.length s.braces_endStatement
  | logical _ => rfl
  | question => rfl
  | openParen => rfl
  | closeParen => rfl
  | semicolon => exact congrArg List.length s.braces_endStatement
  | openBrace =>
    rw [advance, openBrace]
    split_ifs <;> rfl
  | closeBrace =>
    rw [advance, closeBrace]
    cases s.braces <;> rfl

/-- **The height of the stack is the depth of the braces.** -/
theorem length_braces_afterTokens (s : Scan) (ts : List (Nat × Token)) :
    (s.afterTokens ts).braces.length =
      (ts.filterMap fun p => p.2.brace?).foldl Nesting.after s.braces.length := by
  induction ts generalizing s with
  | nil => rfl
  | cons t rest ih =>
    rw [afterTokens_cons, ih, length_braces_advance]
    cases hbrace : t.2.brace? <;> simp [hbrace]

theorem length_braces_afterLine (s : Scan) (body : List Char) :
    (s.afterLine body).braces.length = body.foldl Nesting.after s.braces.length := by
  rw [afterLine, length_braces_afterTokens, Token.filterMap_brace?_scan, braces_beginLine,
    Nesting.foldl_after_filter_isBrace]

/-! ### One more brace around everything -/

/-- The scan with one more brace open, around all the others. -/
def under (outer : Option ConstructKind) (s : Scan) : Scan :=
  { s with braces := s.braces ++ [outer] }

theorem nesting_under (outer : Option ConstructKind) (s : Scan) :
    (s.under outer).nesting = s.nesting + outer.isSome.toNat := by
  simp only [nesting, under, List.countP_append, List.countP_singleton]
  cases outer <;> rfl

@[simp] theorem afterDo_under (outer : Option ConstructKind) (s : Scan) :
    (s.under outer).afterDo = s.afterDo := rfl

theorem endBody_under (outer : Option ConstructKind) (s : Scan) :
    (s.under outer).endBody = s.endBody.under outer := by
  obtain ⟨braces, parens, waiting, afterDo⟩ := s
  cases waiting <;> rfl

theorem endStatement_under (outer : Option ConstructKind) (s : Scan) :
    (s.under outer).endStatement = s.endStatement.under outer := by
  rw [endStatement, endStatement, apply_ite (under outer), endBody_under]
  rfl

theorem beginLine_under (outer : Option ConstructKind) (s : Scan) (line : List Char) :
    (s.under outer).beginLine line = (s.beginLine line).under outer := by
  rw [beginLine, beginLine, apply_ite (under outer), endStatement_under]

/-- A token does the same under one more brace, unless it closes that brace. -/
theorem advance_under (outer : Option ConstructKind) (s : Scan) (t : Token)
    (h : t = .closeBrace → s.braces ≠ []) :
    (s.under outer).advance t = (s.advance t).under outer := by
  cases t with
  | keyword kind =>
    simp only [advance, keyword, apply_ite (under outer)]
    rfl
  | jump => exact endStatement_under outer s
  | logical _ => rfl
  | question => rfl
  | openParen => rfl
  | closeParen => rfl
  | semicolon => exact endStatement_under outer s
  | openBrace =>
    simp only [advance, openBrace, apply_ite (under outer)]
    rfl
  | closeBrace =>
    obtain ⟨closed, rest, hbraces⟩ := List.exists_cons_of_ne_nil (h rfl)
    simp only [advance, closeBrace, under, hbraces, List.cons_append]

end Scan

/-- The construct some lines further down and some bodies further in. -/
def Construct.shift (lines bodies : Nat) (c : Construct) : Construct :=
  { c with line := c.line + lines, nesting := c.nesting + bodies }

namespace Scan

variable (outer : Option ConstructKind)

theorem construct?_under (s : Scan) (line : Nat) (isTernary : Bool) (t : Token) :
    (s.under outer).construct? (line + 1) isTernary t =
      (s.construct? line isTernary t).map (Construct.shift 1 outer.isSome.toNat) := by
  cases t with
  | question => cases isTernary <;> simp [construct?, nesting_under, Construct.shift]
  | _ => simp [construct?, nesting_under, Construct.shift]

/-- The tokens of a line under one more brace: the same constructs, one line further down. -/
theorem found_under (isTernary : Nat → Bool) (line : Nat) (ts : List (Nat × Token)) (s : Scan)
    (h : Covered s.braces.length (ts.filterMap fun p => p.2.brace?)) :
    found isTernary (line + 1) (s.under outer) ts =
        (found isTernary line s ts).map (Construct.shift 1 outer.isSome.toNat) ∧
      (s.under outer).afterTokens ts = (s.afterTokens ts).under outer := by
  induction ts generalizing s with
  | nil => exact ⟨rfl, rfl⟩
  | cons t rest ih =>
    obtain ⟨column, t⟩ := t
    have hsplit : Covered s.braces.length
        (t.brace?.toList ++ rest.filterMap fun p => p.2.brace?) := by
      cases hbrace : t.brace? <;> simpa [hbrace] using h
    rw [covered_append_iff, ← length_braces_advance] at hsplit
    have hstep : (s.under outer).advance t = (s.advance t).under outer := by
      apply advance_under
      rintro rfl hnil
      have hpos := hsplit.1.1 rfl
      rw [hnil] at hpos
      exact absurd hpos (Nat.lt_irrefl 0)
    obtain ⟨hfound, hafter⟩ := ih (s.advance t) hsplit.2
    refine ⟨?_, ?_⟩
    · rw [found, found, construct?_under, hstep, hfound, List.map_append, Option.toList_map]
    · rw [afterTokens_cons, afterTokens_cons, hstep, hafter]

/-- **Lines under one more brace.** The constructs are those without it, one line further down, and
one body further in if the brace opens a body. -/
theorem ofLines_under (ls : List Text.Line) (number : Nat) (s : Scan)
    (h : Covered s.braces.length (ls.flatMap Text.Line.body)) :
    ofLines (number + 1) (s.under outer) ls =
      (ofLines number s ls).map (Construct.shift 1 outer.isSome.toNat) := by
  induction ls generalizing number s with
  | nil => rfl
  | cons l rest ih =>
    rw [List.flatMap_cons, covered_append_iff] at h
    have hline : Covered (s.beginLine l.body).braces.length
        ((Token.scan l.body).filterMap fun p => p.2.brace?) := by
      rw [braces_beginLine, Token.filterMap_brace?_scan, covered_filter_isBrace_iff]
      exact h.1
    obtain ⟨hfound, hafter⟩ := found_under outer
      (answered l.body (l.ending ++ Text.Line.text rest)) number _ _ hline
    have hrest : Covered (s.afterLine l.body).braces.length (rest.flatMap Text.Line.body) := by
      rw [length_braces_afterLine]
      exact h.2
    rw [ofLines, ofLines, ofLine, ofLine, beginLine_under, hfound, List.map_append,
      ← ih (number + 1) (s.afterLine l.body) hrest, afterLine, beginLine_under, hafter, afterLine]

end Scan

end SourceMetrics
