import SourceMetrics.Proofs.Construct.BraceStyle

/-!
# Indentation and trailing blanks

Blanks at the ends of a line change no construct: not its line, not its nesting, and not whether it
is the tail of a `do`. Tokens are found in the same places of what stands between the blanks, since
a blank next to a word, a question mark or an operator counts as much as the end of the line. A line
begins with a brace or does not, whatever blanks are in front of it.

What is not confined to a line is the search for the colon of a conditional operator. Between two
lines it passes the blanks at the end of the one, a break, and the blanks at the start of the other.
There is always a character to pass, the break, and one blank or many makes no difference to the
search.

Two texts may differ here in the number of their lines. A last line of blanks without a break is a
line, and without the blanks it is none.

## Main definitions

* `Text.Respaced` — a line with other blanks at its ends
* `Text.Reindented` — a text with other blanks at the ends of its lines

## Main results

* `Token.scan_respaced` — the tokens of a line with other blanks
* `Ternary.prolongs_of_reindented` — searches find a colon in both texts alike
* `constructs_reindented` — indentation and trailing blanks change no score
-/

namespace SourceMetrics

namespace Text

/-! ### Other blanks at the ends of lines -/

/-- Blanks that end no line. -/
def Spacing (cs : List Char) : Prop := ∀ c ∈ cs, isBlank c = true ∧ isLineBreak c = false

instance (cs : List Char) : Decidable (Spacing cs) := List.decidableBAll _ cs

/-- The second line is the first with other blanks in front and behind. -/
inductive Respaced : List Char → List Char → Prop
  | intro (left core right left' right' : List Char) (line : core.all (!isLineBreak ·) = true)
      (hleft : Spacing left) (hright : Spacing right) (hleft' : Spacing left')
      (hright' : Spacing right') : Respaced (left ++ (core ++ right)) (left' ++ (core ++ right'))

/-- The second text is the first with other blanks at the ends of its lines, the last of which has
no break. -/
inductive Reindented : List Char → List Char → Prop
  | last {body body' : List Char} (spaced : Respaced body body') : Reindented body body'
  | line {body body' rest rest' : List Char} {c : Char} (spaced : Respaced body body')
      (ends : isLineBreak c = true) (more : Reindented rest rest') :
      Reindented (body ++ c :: rest) (body' ++ c :: rest')

variable {body body' cs ds : List Char}

theorem Respaced.symm (h : Respaced body body') : Respaced body' body := by
  obtain ⟨left, core, right, left', right', hline, hleft, hright, hleft', hright'⟩ := h
  exact ⟨left', core, right', left, right, hline, hleft', hright', hleft, hright⟩

theorem Respaced.no_break (h : Respaced body body') : ∀ c ∈ body, isLineBreak c = false := by
  obtain ⟨left, core, right, -, -, hline, hleft, hright, -, -⟩ := h
  intro c hc
  rcases List.mem_append.mp hc with hc | hc
  · exact (hleft c hc).2
  · rcases List.mem_append.mp hc with hc | hc
    · simpa using List.all_eq_true.mp hline c hc
    · exact (hright c hc).2

theorem Reindented.symm (h : Reindented cs ds) : Reindented ds cs := by
  induction h with
  | last spaced => exact .last spaced.symm
  | line spaced ends _ ih => exact .line spaced.symm ends ih

/-- A line up to a break that is no carriage return. -/
theorem Line.split_append_break (h : ∀ c ∈ body, isLineBreak c = false) {c : Char}
    (hc : isLineBreak c = true) (hreturn : c ≠ '\r') (rest : List Char) :
    split (body ++ c :: rest) = ⟨body, [c]⟩ :: split rest := by
  have hbreak : split (c :: rest) = ⟨[], [c]⟩ :: split rest :=
    split_cons_of_break hc fun hcrlf => hreturn hcrlf.1
  rw [split_append_of_no_break h hbreak, List.append_nil]

end Text

open Text (Line Spacing Respaced Reindented)

/-! ### Tokens -/

namespace Token

variable {blanks : List Char}

theorem isLabelChar_of_isBlank {c : Char} (h : Text.isBlank c = true) : isLabelChar c = false := by
  have hdollar : c ≠ '$' := Ternary.ne_of_isBlank h (by decide)
  simp [isLabelChar, isWord_of_isBlank h, hdollar]

/-- Behind a blank, a token is found as at the start of the line. -/
theorem at?_blank_before {b : Char} (hb : Text.isBlank b = true) (cs : List Char) :
    at? (some b) cs = at? none cs := by
  cases cs with
  | nil => rfl
  | cons c rest =>
    have hne : ∀ {d : Char}, Text.isBlank d = false → b ≠ d := fun hd => Ternary.ne_of_isBlank hb hd
    have hstarts : startsWord (some b) = startsWord none := by
      simp [startsWord, isWord_of_isBlank hb, hne (d := '.') (by decide),
        hne (d := '$') (by decide)]
    have hword : word? (some b) (c :: rest) = word? none (c :: rest) := by
      simp [word?, hne (d := '#') (by decide)]
    rw [at?_cons, at?_cons, Ternary.standsAlone_of_isBlank hb, hstarts, hword]

theorem scanFrom_blank_before {b : Char} (hb : Text.isBlank b = true) (column : Nat)
    (cs : List Char) : scanFrom 0 column (some b) cs = scanFrom 0 column none cs := by
  cases cs with
  | nil => rfl
  | cons c rest => rw [scanFrom, scanFrom, at?_blank_before hb]

/-- Blanks in front of a line move its tokens to the right. -/
theorem scanFrom_blanks_append (h : ∀ c ∈ blanks, Text.isBlank c = true) (column : Nat)
    (cs : List Char) :
    scanFrom 0 column none (blanks ++ cs) = scanFrom 0 (column + blanks.length) none cs := by
  induction blanks generalizing column with
  | nil => rfl
  | cons b blanks ih =>
    have hb := h b List.mem_cons_self
    rw [List.cons_append, scanFrom, at?_of_isBlank hb]
    simp only
    rw [scanFrom_blank_before hb, ih fun c hc => h c (List.mem_cons_of_mem b hc), List.length_cons,
      Nat.add_assoc, Nat.add_comm 1]

/-- A run of blanks goes on behind the text only if there is nothing else. -/
theorem takeWhile_isBlank_append {xs : List Char} (hxs : ∃ c ∈ xs, Text.isBlank c = false)
    (ys : List Char) : (xs ++ ys).takeWhile Text.isBlank = xs.takeWhile Text.isBlank := by
  obtain ⟨c, hc, hblank⟩ := hxs
  rw [List.takeWhile_append, if_neg]
  intro hlength
  have hall := (List.takeWhile_prefix Text.isBlank).eq_of_length hlength
  rw [List.takeWhile_eq_self_iff.mp hall c hc] at hblank
  cases hblank

section Append

variable (h : ∀ c ∈ blanks, Text.isBlank c = true)

include h

theorem takeWhile_append_blanks {p : Char → Bool} (hp : ∀ c, Text.isBlank c = true → p c = false)
    (xs : List Char) : (xs ++ blanks).takeWhile p = xs.takeWhile p := by
  cases blanks with
  | nil => rw [List.append_nil]
  | cons b blanks => exact takeWhile_append_cons (hp b (h b List.mem_cons_self)) xs

theorem head?_append_blanks_eq_iff {c : Char} (hc : Text.isBlank c = false) (xs : List Char) :
    (xs ++ blanks).head? = some c ↔ xs.head? = some c := by
  cases blanks with
  | nil => rw [List.append_nil]
  | cons b blanks =>
    exact head?_append_brace_eq_iff (Ternary.ne_of_isBlank (h b List.mem_cons_self) hc).symm xs

theorem elseIfLength?_append_blanks (xs : List Char) :
    elseIfLength? (xs ++ blanks) = elseIfLength? xs := by
  by_cases hxs : ∃ c ∈ xs, Text.isBlank c = false
  · simp only [elseIfLength?, takeWhile_isBlank_append hxs,
      List.drop_append_of_le_length (length_takeWhile_le Text.isBlank xs),
      takeWhile_append_blanks h fun _ => isWord_of_isBlank]
  · -- nothing but blanks, so there is no `if`
    have hnone : ∀ {ys : List Char}, (∀ c ∈ ys, Text.isBlank c = true) →
        elseIfLength? ys = none := by
      intro ys hys
      simp [elseIfLength?, List.takeWhile_eq_self_iff.mpr hys]
    have hblank : ∀ c ∈ xs, Text.isBlank c = true := by simpa using hxs
    rw [hnone hblank, hnone fun c hc => (List.mem_append.mp hc).elim (hblank c) (h c)]

theorem labelLength?_append_blanks (xs : List Char) :
    labelLength? (xs ++ blanks) = labelLength? xs := by
  by_cases hxs : ∃ c ∈ xs, Text.isBlank c = false
  · have hfirst := length_takeWhile_le Text.isBlank xs
    have hlabel := length_takeWhile_drop_le isLabelChar hfirst
    have hdrop : ∀ {n : Nat}, n ≤ xs.length → (xs ++ blanks).drop n = xs.drop n ++ blanks :=
      fun hn => List.drop_append_of_le_length hn
    simp only [labelLength?, takeWhile_isBlank_append hxs]
    rw [hdrop hfirst, takeWhile_append_blanks h fun _ => isLabelChar_of_isBlank, hdrop hlabel]
    generalize (xs.takeWhile Text.isBlank).length +
      ((xs.drop (xs.takeWhile Text.isBlank).length).takeWhile isLabelChar).length = n at hlabel ⊢
    by_cases hgap : ∃ c ∈ xs.drop n, Text.isBlank c = false
    · rw [takeWhile_isBlank_append hgap, hdrop (length_takeWhile_drop_le Text.isBlank hlabel)]
      simp only [Bool.and_eq_true, beq_iff_eq, head?_append_blanks_eq_iff h (c := ';') (by decide)]
    · -- nothing but blanks behind the label, so there is no semicolon
      have hblank : ∀ c ∈ xs.drop n, Text.isBlank c = true := by simpa using hgap
      have hblank' : ∀ c ∈ xs.drop n ++ blanks, Text.isBlank c = true := fun c hc =>
        (List.mem_append.mp hc).elim (hblank c) (h c)
      have hend : ∀ ys : List Char, (∀ c ∈ ys.drop n, Text.isBlank c = true) →
          (ys.drop (n + ((ys.drop n).takeWhile Text.isBlank).length)).head? = none := by
        intro ys hys
        rw [List.takeWhile_eq_self_iff.mpr hys, ← List.drop_drop, List.drop_length, List.head?_nil]
      have hend' := hend (xs ++ blanks) (by rwa [hdrop hlabel])
      rw [hdrop hlabel] at hend'
      simp [hend xs hblank, hend']
  · -- nothing but blanks, so there is no label
    have hnone : ∀ {ys : List Char}, (∀ c ∈ ys, Text.isBlank c = true) →
        labelLength? ys = none := by
      intro ys hys
      simp [labelLength?, List.takeWhile_eq_self_iff.mpr hys]
    have hblank : ∀ c ∈ xs, Text.isBlank c = true := by simpa using hxs
    rw [hnone hblank, hnone fun c hc => (List.mem_append.mp hc).elim (hblank c) (h c)]

theorem word?_append_blanks (before : Option Char) (xs : List Char) :
    word? before (xs ++ blanks) = word? before xs := by
  simp only [word?, takeWhile_append_blanks h fun _ => isWord_of_isBlank,
    List.drop_append_of_le_length (length_takeWhile_le Text.isWord xs),
    elseIfLength?_append_blanks h, labelLength?_append_blanks h]

/-- A token in front of blanks at the end of the line is found without looking at them. -/
theorem at?_append_blanks (before : Option Char) (c : Char) (xs : List Char) :
    at? before (c :: xs ++ blanks) = at? before (c :: xs) := by
  have hstands : Ternary.standsAlone before (xs ++ blanks).head? =
      Ternary.standsAlone before xs.head? := by
    cases xs with
    | cons d xs => rfl
    | nil =>
      cases blanks with
      | nil => rfl
      | cons b blanks => exact (Ternary.unseen_of_isBlank (h b List.mem_cons_self)).2 before
  rw [List.cons_append, at?_cons, at?_cons, ← List.cons_append, word?_append_blanks h, hstands]
  simp only [head?_append_blanks_eq_iff h (c := '&') (by decide),
    head?_append_blanks_eq_iff h (c := '|') (by decide)]

end Append

/-- **The tokens of a line with other blanks at its ends** are those of what stands between. -/
theorem scan_respaced {left right : List Char} (hleft : ∀ c ∈ left, Text.isBlank c = true)
    (hright : ∀ c ∈ right, Text.isBlank c = true) (core : List Char) :
    scan (left ++ (core ++ right)) = (scan core).map fun t => (t.1 + left.length, t.2) := by
  rw [scan, scanFrom_blanks_append hleft, scanFrom_append (at?_append_blanks hright) core 0 _ none
    (Nat.zero_le _), scanFrom_of_allBlank hright, List.append_nil, scanFrom_add, ← scan]

end Token

/-! ### Lines -/

namespace Scan

variable {left right : List Char} (hleft : ∀ c ∈ left, Text.isBlank c = true)
  (hright : ∀ c ∈ right, Text.isBlank c = true)

include hleft hright

theorem beginLine_respaced (s : Scan) (core : List Char) :
    s.beginLine (left ++ (core ++ right)) = s.beginLine core := by
  have hhead : (Text.trimStart (left ++ (core ++ right))).head? = some '\x7b' ↔
      (Text.trimStart core).head? = some '\x7b' := by
    rw [Text.trimStart, List.dropWhile_append_of_pos hleft, ← Text.trimStart, Text.trimStart,
      List.dropWhile_append, Text.trimStart]
    split
    next hnil => rw [List.isEmpty_iff.mp hnil, List.dropWhile_eq_nil_iff.mpr hright]
    next => exact Token.head?_append_blanks_eq_iff hright (by decide) _
  rw [beginLine, beginLine]
  simp only [hhead]

theorem afterLine_respaced (s : Scan) (core : List Char) :
    s.afterLine (left ++ (core ++ right)) = s.afterLine core := by
  rw [afterLine, beginLine_respaced hleft hright, Token.scan_respaced hleft hright,
    afterTokens_map_column, ← afterLine]

/-- The constructs of a line are those of what stands between its blanks. -/
theorem ofLine_respaced (number : Nat) (s : Scan) (core tail : List Char) :
    ofLine number s (left ++ (core ++ right)) tail = ofLine number s core (right ++ tail) := by
  have hanswered : (fun column => answered (left ++ (core ++ right)) tail (column + left.length)) =
      answered (core ++ right) tail := funext fun column => answered_append left _ tail column
  rw [ofLine, beginLine_respaced hleft hright, Token.scan_respaced hleft hright, found_map_column,
    hanswered, found_answered_append, ← ofLine]

end Scan

/-! ### Searches -/

namespace Text

/-- Blanks between two texts, at least one. -/
def Gap (cs : List Char) : Prop := cs ≠ [] ∧ ∀ c ∈ cs, isBlank c = true

theorem Spacing.isBlank {cs : List Char} (h : Spacing cs) : ∀ c ∈ cs, isBlank c = true :=
  fun c hc => (h c hc).1

theorem Gap.append {cs ds : List Char} (h : Gap cs) (hds : Spacing ds) : Gap (cs ++ ds) :=
  ⟨List.append_ne_nil_of_left_ne_nil h.1 ds, fun c hc =>
    (List.mem_append.mp hc).elim (h.2 c) (hds.isBlank c)⟩

/-- The blanks at the end of a line and its break. -/
theorem Spacing.gap_concat {cs : List Char} (h : Spacing cs) {b : Char}
    (hb : isLineBreak b = true) : Gap (cs ++ [b]) := by
  refine ⟨by simp, fun c hc => ?_⟩
  rcases List.mem_append.mp hc with hc | hc
  · exact h.isBlank c hc
  · rw [List.mem_singleton.mp hc]
    exact Ternary.isBlank_of_isLineBreak hb

end Text

open Text (Gap)

namespace Ternary

theorem unseen_blanks {blanks : List Char} (h : ∀ c ∈ blanks, Text.isBlank c = true) :
    Unseen blanks.head? := by
  cases blanks with
  | nil => exact ⟨by simp, fun _ => rfl⟩
  | cons b blanks => exact unseen_of_isBlank (h b List.mem_cons_self)

theorem unseen_gap_append {gap : List Char} (h : Gap gap) (rest : List Char) :
    Unseen (gap ++ rest).head? := by
  rw [List.head?_append_of_ne_nil _ h.1]
  exact unseen_blanks h.2

/-- No search finds anything in blanks. -/
theorem prolongs_blanks {blanks : List Char} (h : ∀ c ∈ blanks, Text.isBlank c = true)
    (ys : List Char) : Prolongs blanks ys := by
  intro s hs
  by_cases hne : blanks = []
  · rw [hne] at hs
    cases hs
  · rw [← List.append_nil blanks, Search.isSome_run_blanks hne h] at hs
    cases hs

/-- The blanks between two texts may be other blanks. -/
theorem Prolongs.gap {xs ys gap gap' : List Char} (h : Prolongs xs ys) (hgap : Gap gap)
    (hgap' : Gap gap') : Prolongs (gap ++ xs) (gap' ++ ys) := by
  intro s hs
  rw [Search.isSome_run_blanks hgap.1 hgap.2] at hs
  rw [Search.isSome_run_blanks hgap'.1 hgap'.2]
  exact h _ hs

/-- **Searches that come to the start of a line find a colon in both texts alike.** -/
theorem prolongs_of_reindented {cs ds : List Char} (h : Reindented cs ds) :
    ∀ {gap gap' : List Char}, Gap gap → Gap gap' → Prolongs (gap ++ cs) (gap' ++ ds) := by
  -- the blanks at the end of a line, its break and the indentation of the next line are one gap
  induction h with
  | last spaced =>
    intro gap gap' hgap hgap'
    obtain ⟨left, core, right, left', right', -, hleft, hright, hleft', hright'⟩ := spaced
    rw [← List.append_assoc, ← List.append_assoc gap']
    exact ((prolongs_blanks hright.isBlank _).append (unseen_blanks hright.isBlank)
      (unseen_blanks hright'.isBlank) _).gap (hgap.append hleft) (hgap'.append hleft')
  | @line _ _ rest rest' c spaced ends _ ih =>
    intro gap gap' hgap hgap'
    obtain ⟨left, core, right, left', right', -, hleft, hright, hleft', hright'⟩ := spaced
    have hnext := hright.gap_concat ends
    have hnext' := hright'.gap_concat ends
    have hrest := (ih hnext hnext').append (unseen_gap_append hnext _) (unseen_gap_append hnext' _)
    simpa only [List.append_assoc, List.singleton_append] using
      (hrest _).gap (hgap.append hleft) (hgap'.append hleft')

end Ternary

/-! ### Constructs -/

namespace Scan

theorem ofLine_eq_of_prolongs {tail tail' : List Char} (h : Ternary.Prolongs tail tail')
    (h' : Ternary.Prolongs tail' tail) (htail : Ternary.Unseen tail.head?)
    (htail' : Ternary.Unseen tail'.head?) (number : Nat) (s : Scan) (body : List Char) :
    ofLine number s body tail = ofLine number s body tail' := by
  rw [ofLine, ofLine, answered_eq_of_prolongs h h' htail htail']

/-- A last line without a break, which may be no line at all. -/
theorem ofLines_unfinished (number : Nat) (s : Scan) (body : List Char) :
    ofLines number s (Line.unfinished body) = ofLine number s body [] := by
  rw [Line.unfinished]
  split
  next hnil => rw [hnil]; rfl
  next => simp [ofLines]

theorem ofLines_reindented {cs ds : List Char} (h : Reindented cs ds) (hreturn : '\r' ∉ cs)
    (number : Nat) (s : Scan) :
    ofLines number s (Line.split cs) = ofLines number s (Line.split ds) := by
  induction h generalizing number s with
  | last spaced =>
    rw [Line.split_of_no_break spaced.no_break, Line.split_of_no_break spaced.symm.no_break,
      ofLines_unfinished, ofLines_unfinished]
    obtain ⟨left, core, right, left', right', -, hleft, hright, hleft', hright'⟩ := spaced
    rw [ofLine_respaced hleft.isBlank hright.isBlank,
      ofLine_respaced hleft'.isBlank hright'.isBlank, List.append_nil, List.append_nil]
    exact ofLine_eq_of_prolongs (Ternary.prolongs_blanks hright.isBlank _)
      (Ternary.prolongs_blanks hright'.isBlank _) (Ternary.unseen_blanks hright.isBlank)
      (Ternary.unseen_blanks hright'.isBlank) _ _ _
  | @line body body' rest rest' c spaced ends more ih =>
    have hc : c ≠ '\r' := fun hc => hreturn (hc ▸ by simp)
    have hrest : '\r' ∉ rest := fun hmem => hreturn (by simp [hmem])
    rw [Line.split_append_break spaced.no_break ends hc,
      Line.split_append_break spaced.symm.no_break ends hc, ofLines, ofLines, Line.text_split,
      Line.text_split]
    obtain ⟨left, core, right, left', right', -, hleft, hright, hleft', hright'⟩ := spaced
    have hgap := hright.gap_concat ends
    have hgap' := hright'.gap_concat ends
    have hline : ofLine number s core (right ++ ([c] ++ rest)) =
        ofLine number s core (right' ++ ([c] ++ rest')) := by
      rw [← List.append_assoc, ← List.append_assoc]
      exact ofLine_eq_of_prolongs (Ternary.prolongs_of_reindented more hgap hgap')
        (Ternary.prolongs_of_reindented more.symm hgap' hgap) (Ternary.unseen_gap_append hgap _)
        (Ternary.unseen_gap_append hgap' _) number s core
    rw [ofLine_respaced hleft.isBlank hright.isBlank,
      ofLine_respaced hleft'.isBlank hright'.isBlank,
      afterLine_respaced hleft.isBlank hright.isBlank,
      afterLine_respaced hleft'.isBlank hright'.isBlank, ih hrest, hline]

end Scan

/-- **Indentation and trailing blanks change no score.** A text without carriage returns
has the same constructs, each on the same line, with the same nesting and as much the
tail of a `do`, whatever blanks its lines begin and end with, and so the same cyclomatic
and cognitive complexity. -/
theorem constructs_reindented {cs ds : List Char} (hreturn : '\r' ∉ cs) (h : Reindented cs ds) :
    constructs ds = constructs cs ∧
      (∀ rules : CountingRules, cyclomatic rules ds = cyclomatic rules cs) ∧
      cognitive ds = cognitive cs := by
  have hconstructs : constructs ds = constructs cs := by
    rw [Scan.constructs_eq_ofLines, Scan.constructs_eq_ofLines,
      Scan.ofLines_reindented h hreturn]
  refine ⟨hconstructs, fun rules => ?_, ?_⟩
  · rw [cyclomatic_eq_ofConstructs, cyclomatic_eq_ofConstructs, hconstructs]
  · rw [cognitive_eq, cognitive_eq, hconstructs]

/-- A conditional operator over three lines, with its colons at the ends of lines and a label on the
way, and a last line of blanks that is gone. -/
theorem constructs_reindented_conditional :
    let cs := "do a ? \n  b ? c :\n:: d : e;  \n  \x7b while (f) break g ;\t\n \t".toList
    let ds := "\tdo a ?\nb ? c :  \n \t:: d : e;\n\x7b while (f) break g ; \n".toList
    '\r' ∉ cs ∧ Reindented cs ds ∧ constructs ds = constructs cs := by
  intro cs ds
  have hreturn : '\r' ∉ cs := by decide
  have h : Reindented cs ds :=
    .line (.intro [] "do a ?".toList [' '] ['\t'] [] (by decide) (by decide) (by decide)
      (by decide) (by decide)) (c := '\n') (by decide) <|
    .line (.intro [' ', ' '] "b ? c :".toList [] [] [' ', ' '] (by decide) (by decide) (by decide)
      (by decide) (by decide)) (c := '\n') (by decide) <|
    .line (.intro [] ":: d : e;".toList [' ', ' '] [' ', '\t'] [] (by decide) (by decide)
      (by decide) (by decide) (by decide)) (c := '\n') (by decide) <|
    .line (.intro [' ', ' '] "\x7b while (f) break g ;".toList ['\t'] [] [' '] (by decide)
      (by decide) (by decide) (by decide) (by decide)) (c := '\n') (by decide) <|
    .last (.intro [' ', '\t'] [] [] [] [] (by decide) (by decide) (by decide) (by decide)
      (by decide))
  exact ⟨hreturn, h, (constructs_reindented hreturn h).1⟩

end SourceMetrics
