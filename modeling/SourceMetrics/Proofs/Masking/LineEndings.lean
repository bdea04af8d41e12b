import SourceMetrics.Proofs.Masking.Literal
import SourceMetrics.Proofs.Masking.Pieces
import SourceMetrics.Proofs.Outline.WellFormed
import SourceMetrics.Proofs.Score.Lines

/-!
# Line feeds with and without carriage returns

A text may end its lines with line feeds or with carriage returns and line feeds. Masking commutes
with going from the one to the other, piece by piece: marks are within lines, so they are found at
the same places, and blanking keeps both characters. There are two places to look at. A line comment
leaves out a carriage return in front of the line feed that ends it. A literal that is ended by a
line feed takes that carriage return in, as the last of its contents, where it is kept.

What does not commute is an escaped line feed in a literal that may not span lines. The escape
character passes over the line feed, and so the literal goes on in the next line; it passes over the
carriage return in the other text, and the literal ends. Without such literals, analyses agree: the
masked texts have the same lines, and entities and scores depend on nothing else.

## Main definitions

* `Text.crlf` — a text with a carriage return in front of every line feed
* `Masking.Rules.InLine` — marks within lines
* `Masking.Piece.StaysInLine` — no literal goes on behind a line feed that it may not span

## Main results

* `Masking.Delimiter.enclose_crlf` — contents in a text with carriage returns
* `mask_crlf` — masking commutes with putting in carriage returns
* `Scanner.analyze_crlf` — and an analysis does not see them
-/

namespace SourceMetrics

namespace Text

/-! ### Carriage returns in front of line feeds -/

/-- The text with a carriage return in front of every line feed. -/
def crlf (cs : List Char) : List Char := cs.flatMap fun c => if c = '\n' then ['\r', '\n'] else [c]

@[simp] theorem crlf_nil : crlf [] = [] := rfl

theorem crlf_append (xs ys : List Char) : crlf (xs ++ ys) = crlf xs ++ crlf ys :=
  List.flatMap_append

@[simp] theorem crlf_lineFeed (rest : List Char) :
    crlf ('\n' :: rest) = '\r' :: '\n' :: crlf rest := rfl

theorem crlf_cons {c : Char} (h : c ≠ '\n') (rest : List Char) :
    crlf (c :: rest) = c :: crlf rest := by
  rw [crlf, List.flatMap_cons, if_neg h, List.singleton_append, ← crlf]

theorem crlf_of_not_mem {cs : List Char} (h : '\n' ∉ cs) : crlf cs = cs := by
  induction cs with
  | nil => rfl
  | cons c rest ih =>
    rw [List.mem_cons, not_or] at h
    rw [crlf_cons (Ne.symm h.1), ih h.2]

theorem head?_crlf_ne (cs : List Char) : (crlf cs).head? ≠ some '\n' := by
  cases cs with
  | nil => simp
  | cons c rest =>
    by_cases hc : c = '\n'
    · rw [hc, crlf_lineFeed]
      simp
    · rw [crlf_cons hc]
      simpa using hc

/-- The text is not empty and within a line. -/
def InLine (cs : List Char) : Prop := cs ≠ [] ∧ '\n' ∉ cs ∧ '\r' ∉ cs

instance (cs : List Char) : Decidable (InLine cs) := inferInstanceAs (Decidable (_ ∧ _ ∧ _))

variable {mark : List Char}

theorem InLine.crlf_eq (h : InLine mark) : crlf mark = mark := crlf_of_not_mem h.2.1

theorem InLine.isPrefixOf_break (h : InLine mark) {c : Char} (hc : c = '\n' ∨ c = '\r')
    (rest : List Char) : mark.isPrefixOf (c :: rest) = false := by
  obtain ⟨hne, hfeed, hreturn⟩ := h
  obtain ⟨m, mark, rfl⟩ := List.exists_cons_of_ne_nil hne
  have hm : m ≠ c := by
    rintro rfl
    obtain rfl | rfl := hc
    · exact hfeed List.mem_cons_self
    · exact hreturn List.mem_cons_self
  simp [List.isPrefixOf, hm]

/-- A mark within a line stands in front of both texts or of neither. -/
theorem InLine.isPrefixOf_crlf (h : InLine mark) (cs : List Char) :
    mark.isPrefixOf (crlf cs) = mark.isPrefixOf cs := by
  obtain ⟨-, hfeed, hreturn⟩ := h
  induction mark generalizing cs with
  | nil => simp
  | cons m mark ih =>
    rw [List.mem_cons, not_or] at hfeed hreturn
    cases cs with
    | nil => rfl
    | cons c rest =>
      by_cases hc : c = '\n'
      · rw [hc, crlf_lineFeed, List.isPrefixOf_cons_cons, List.isPrefixOf_cons_cons,
          beq_false_of_ne (Ne.symm hfeed.1), beq_false_of_ne (Ne.symm hreturn.1), Bool.false_and,
          Bool.false_and]
      · rw [crlf_cons hc, List.isPrefixOf_cons_cons, List.isPrefixOf_cons_cons,
          ih rest hfeed.2 hreturn.2]

theorem InLine.indexOf?_crlf (h : InLine mark) (cs : List Char) :
    indexOf? mark (crlf cs) = (indexOf? mark cs).map fun k => (crlf (cs.take k)).length := by
  induction cs with
  | nil =>
    have hne : ¬mark.isEmpty = true := by simpa using h.1
    rw [crlf_nil, indexOf?, if_neg hne, Option.map_none]
  | cons c rest ih =>
    by_cases hc : c = '\n'
    · rw [hc, crlf_lineFeed, indexOf?, indexOf?, indexOf?, h.isPrefixOf_break (.inr rfl),
        h.isPrefixOf_break (.inl rfl), h.isPrefixOf_break (.inl rfl), ih]
      cases indexOf? mark rest <;> simp
    · have hstart := h.isPrefixOf_crlf (c :: rest)
      rw [crlf_cons hc] at hstart
      rw [crlf_cons hc, indexOf?, indexOf?, hstart, ih]
      split
      · rfl
      · cases indexOf? mark rest <;> simp [crlf_cons hc]

/-- A text without carriage returns has the same lines as with them in front of line feeds. -/
theorem lines_crlf {cs : List Char} (h : '\r' ∉ cs) : lines (crlf cs) = lines cs := by
  have hprepend : ∀ (c : Char) (ls ls' : List Line), ls.map Line.body = ls'.map Line.body →
      (Line.prepend c ls).map Line.body = (Line.prepend c ls').map Line.body := by
    intro c ls ls' hls
    cases ls <;> cases ls' <;> simp_all [Line.prepend]
  induction cs using Line.induction_on with
  | nil => rfl
  | crlf rest => exact absurd List.mem_cons_self h
  | lineBreak c rest hbreak hrn ih =>
    rw [List.mem_cons, not_or] at h
    have ih := ih h.2
    by_cases hc : c = '\n'
    · subst hc
      rw [crlf_lineFeed, lines, Line.split_crlf, lines, Line.split_cons_of_break hbreak hrn]
      exact congrArg ([] :: ·) ih
    · rw [crlf_cons hc, lines, Line.split_cons_of_break hbreak fun hr => h.1 hr.1.symm, lines,
        Line.split_cons_of_break hbreak hrn]
      exact congrArg ([] :: ·) ih
  | character c rest hbreak ih =>
    rw [List.mem_cons, not_or] at h
    have hc : c ≠ '\n' := by
      rintro rfl
      exact absurd hbreak (by decide)
    rw [crlf_cons hc, lines, Line.split_cons_of_not_break hbreak, lines,
      Line.split_cons_of_not_break hbreak]
    exact hprepend c _ _ (ih h.2)

end Text

namespace Masking

open Text (crlf InLine)

/-! ### Contents -/

/-- What a literal takes of the break in front of which it ends: the carriage return. -/
def Delimiter.overhang (after : List Char) : Delimiter → List Char
  | comment _ => []
  | literal quote => if quote.multiline = false ∧ after.head? = some '\n' then ['\r'] else []

section Literal

variable {quote : Quote} {escape : Option Char} (hmark : InLine quote.mark)
  (hfeed : escape ≠ some '\n') (hreturn : escape ≠ some '\r')

include hmark

theorem endsAt_crlf_iff {cs : List Char} (h : cs.head? ≠ some '\n') :
    quote.EndsAt (crlf cs) ↔ quote.EndsAt cs := by
  rw [Quote.EndsAt, Quote.EndsAt, hmark.isPrefixOf_crlf]
  simp only [h, Text.head?_crlf_ne, false_and, or_false]

include hreturn in
/-- A carriage return is taken like any other character. -/
theorem contentsLength_return (rest : List Char) :
    contentsLength quote escape ('\r' :: rest) = 1 + contentsLength quote escape rest := by
  refine contentsLength_of_not_escape ?_ fun h => absurd h.symm hreturn
  rw [Quote.EndsAt, hmark.isPrefixOf_break (.inr rfl)]
  simp

include hfeed in
/-- So is a line feed, if the literal may span lines. -/
theorem contentsLength_lineFeed (hmultiline : quote.multiline = true) (rest : List Char) :
    contentsLength quote escape ('\n' :: rest) = 1 + contentsLength quote escape rest := by
  refine contentsLength_of_not_escape ?_ fun h => absurd h.symm hfeed
  rw [Quote.EndsAt, hmark.isPrefixOf_break (.inl rfl), hmultiline]
  simp

include hfeed hreturn in
theorem contentsLength_crlf {cs : List Char}
    (hspan : quote.multiline = false → '\n' ∉ cs.take (contentsLength quote escape cs)) :
    contentsLength quote escape (crlf cs) =
      (crlf (cs.take (contentsLength quote escape cs)) ++
        (Delimiter.literal quote).overhang (cs.drop (contentsLength quote escape cs))).length := by
  induction cs using contents_induction quote escape with
  | nil => simp [contentsLength, Delimiter.overhang]
  | ends cs hends =>
    rw [contentsLength_of_endsAt hends, List.take_zero, List.drop_zero, Text.crlf_nil,
      List.nil_append]
    obtain hstart | ⟨hhead, hsingle⟩ := hends
    · have hhead : cs.head? ≠ some '\n' := by
        intro hhead
        obtain ⟨rest, rfl⟩ := List.head?_eq_some_iff.mp hhead
        rw [hmark.isPrefixOf_break (.inl rfl)] at hstart
        cases hstart
      rw [contentsLength_of_endsAt ((endsAt_crlf_iff hmark hhead).mpr (.inl hstart)),
        Delimiter.overhang, if_neg fun h => hhead h.2, List.length_nil]
    · obtain ⟨rest, rfl⟩ := List.head?_eq_some_iff.mp hhead
      rw [Text.crlf_lineFeed, contentsLength_return hmark hreturn,
        contentsLength_of_endsAt (.inr ⟨rfl, hsingle⟩), Delimiter.overhang, if_pos ⟨hsingle, hhead⟩,
        List.length_singleton]
  | escaped c d rest hends hc ih =>
    have hlength := contentsLength_of_escape hends hc
    have hne : c ≠ '\n' := by
      rintro rfl
      exact hfeed hc.symm
    have hends' := mt (endsAt_crlf_iff hmark (by simpa using hne)).mp hends
    rw [hlength, Nat.add_comm 2] at hspan ⊢
    simp only [List.take_succ_cons, List.mem_cons, not_or] at hspan
    have ih := ih fun h => (hspan h).2.2
    rw [List.take_succ_cons, List.take_succ_cons, List.drop_succ_cons, List.drop_succ_cons]
    rw [Text.crlf_cons hne] at hends' ⊢
    by_cases hd : d = '\n'
    · subst hd
      have hmultiline : quote.multiline = true := by
        by_contra hsingle
        exact (hspan (by simpa using hsingle)).2.1 rfl
      rw [Text.crlf_lineFeed] at hends' ⊢
      rw [contentsLength_of_escape hends' hc, contentsLength_lineFeed hmark hfeed hmultiline, ih,
        Text.crlf_cons hne, Text.crlf_lineFeed]
      simp only [List.cons_append, List.length_cons]
      omega
    · rw [Text.crlf_cons hd] at hends' ⊢
      rw [contentsLength_of_escape hends' hc, ih, Text.crlf_cons hne, Text.crlf_cons hd]
      simp only [List.cons_append, List.length_cons]
      omega
  | character c rest hends hc ih =>
    have hlength := contentsLength_of_not_escape hends hc
    rw [hlength, Nat.add_comm 1] at hspan ⊢
    simp only [List.take_succ_cons, List.mem_cons, not_or] at hspan
    have ih := ih fun h => (hspan h).2
    rw [List.take_succ_cons, List.drop_succ_cons]
    by_cases hne : c = '\n'
    · subst hne
      have hmultiline : quote.multiline = true := by
        by_contra hsingle
        exact hends (.inr ⟨rfl, by simpa using hsingle⟩)
      rw [Text.crlf_lineFeed, contentsLength_return hmark hreturn,
        contentsLength_lineFeed hmark hfeed hmultiline, ih, Text.crlf_lineFeed]
      simp only [List.cons_append, List.length_cons]
      omega
    · have hends' := mt (endsAt_crlf_iff hmark (by simpa using hne)).mp hends
      rw [Text.crlf_cons hne] at hends' ⊢
      rw [contentsLength_of_not_escape hends' fun h => by rw [hc h, Text.crlf_nil], ih,
        Text.crlf_cons hne]
      simp only [List.cons_append, List.length_cons]
      omega

end Literal

/-- The marks of an opener. -/
def Opener.marks : Opener → List (List Char)
  | delimiter d => [d.opening, d.closing]
  | line marker => [marker]

/-- All marks are within lines, and the escape character ends no line. -/
def Rules.InLine (rules : Rules) : Prop :=
  (∀ o ∈ rules.openers, ∀ mark ∈ o.marks, Text.InLine mark) ∧ rules.escape ≠ some '\n' ∧
    rules.escape ≠ some '\r'

instance (rules : Rules) : Decidable rules.InLine := inferInstanceAs (Decidable (_ ∧ _ ∧ _))

/-- The piece is no literal that goes on behind a line feed which it may not span. -/
def Piece.StaysInLine : Piece → Prop
  | .enclosed (.literal quote) contents _ => quote.multiline = false → '\n' ∉ contents
  | _ => True

instance (p : Piece) : Decidable p.StaysInLine :=
  match p with
  | .enclosed (.literal quote) contents _ =>
    inferInstanceAs (Decidable (quote.multiline = false → '\n' ∉ contents))
  | .enclosed (.comment _) _ _ | .code _ | .lineComment _ => inferInstanceAs (Decidable True)

theorem Rules.InLine.mark {rules : Rules} (h : rules.InLine) {o : Opener} (ho : o ∈ rules.openers) :
    Text.InLine o.mark := by
  refine h.1 o ho o.mark ?_
  cases o <;> simp [Opener.marks, Opener.mark]

theorem Rules.InLine.wellFormed {rules : Rules} (h : rules.InLine) :
    ∀ o ∈ rules.openers, o.WellFormed := by
  intro o ho
  cases o with
  | delimiter d => exact (h.mark ho).1
  | line marker =>
    obtain ⟨hne, hfeed, hreturn⟩ := h.mark ho
    exact ⟨hne, fun hhead => hreturn (List.mem_of_mem_head? hhead), hfeed⟩

section Contents

variable {escape : Option Char} {d : Delimiter}

theorem Delimiter.overhang_of_isPrefixOf (hclosing : InLine d.closing) {after : List Char}
    (h : d.closing.isPrefixOf after = true) : d.overhang after = [] := by
  cases d with
  | comment _ => rfl
  | literal quote =>
    refine if_neg fun hfeed => ?_
    obtain ⟨rest, rfl⟩ := List.head?_eq_some_iff.mp hfeed.2
    rw [hclosing.isPrefixOf_break (.inl rfl)] at h
    cases h

/-- What is left of the text behind the overhang has the closing mark in front if the
other text has. -/
theorem Delimiter.exists_overhang_append (hclosing : InLine d.closing) (after : List Char) :
    ∃ rest, crlf after = d.overhang after ++ rest ∧
      d.closing.isPrefixOf rest = d.closing.isPrefixOf after := by
  by_cases hover : d.overhang after = []
  · exact ⟨crlf after, by rw [hover, List.nil_append], hclosing.isPrefixOf_crlf after⟩
  · cases d with
    | comment _ => exact absurd rfl hover
    | literal quote =>
      rw [overhang] at hover ⊢
      split at hover
      next h =>
        obtain ⟨rest, rfl⟩ := List.head?_eq_some_iff.mp h.2
        rw [if_pos h]
        exact ⟨'\n' :: crlf rest, rfl, by
          rw [hclosing.isPrefixOf_break (.inl rfl), hclosing.isPrefixOf_break (.inl rfl)]⟩
      next => exact absurd rfl hover

theorem Delimiter.reach_crlf (hclosing : InLine d.closing) (hfeed : escape ≠ some '\n')
    (hreturn : escape ≠ some '\r') {inner : List Char}
    (h : (d.enclose escape inner).StaysInLine) :
    d.reach escape (crlf inner) = (crlf (inner.take (d.reach escape inner)) ++
      d.overhang (inner.drop (d.reach escape inner))).length := by
  cases d with
  | literal quote => exact contentsLength_crlf hclosing hfeed hreturn h
  | comment marks =>
    rw [closing] at hclosing
    rw [reach, hclosing.indexOf?_crlf, overhang, List.append_nil, reach]
    cases Text.indexOf? marks.2 inner with
    | some k => rfl
    | none => rw [Option.map_none, Option.getD_none, Option.getD_none, List.take_length]

/-- **Contents in a text with carriage returns** are those of the text without, and the overhang. -/
theorem Delimiter.enclose_crlf (hclosing : InLine d.closing) (hfeed : escape ≠ some '\n')
    (hreturn : escape ≠ some '\r') {inner : List Char}
    (h : (d.enclose escape inner).StaysInLine) :
    d.enclose escape (crlf inner) =
      .enclosed d (crlf (inner.take (d.reach escape inner)) ++
          d.overhang (inner.drop (d.reach escape inner)))
        (d.closing.isPrefixOf (inner.drop (d.reach escape inner))) := by
  rw [enclose, reach_crlf hclosing hfeed hreturn h]
  obtain ⟨rest, hrest, hclosed⟩ :=
    exists_overhang_append hclosing (inner.drop (d.reach escape inner))
  have hinner : crlf inner = (crlf (inner.take (d.reach escape inner)) ++
      d.overhang (inner.drop (d.reach escape inner))) ++ rest := by
    rw [List.append_assoc, ← hrest, ← Text.crlf_append, List.take_append_drop]
  rw [hinner, List.take_left, List.drop_left, hclosed]

theorem blankOut_crlf (cs : List Char) : blankOut (crlf cs) = crlf (blankOut cs) := by
  induction cs with
  | nil => rfl
  | cons c rest ih =>
    by_cases hc : c = '\n'
    · rw [hc, Text.crlf_lineFeed]
      exact congrArg ('\r' :: '\n' :: ·) ih
    · have hne : (if c = '\n' || c = '\r' then c else ' ') ≠ '\n' := by
        split
        · exact hc
        · decide
      rw [Text.crlf_cons hc, blankOut, List.map_cons, blankOut, List.map_cons, Text.crlf_cons hne]
      exact congrArg _ ih

theorem Delimiter.crlf_shown {mark : List Char} (h : InLine mark) :
    crlf (d.shown mark) = d.shown mark := by
  cases d with
  | comment _ => rw [shown, ← blankOut_crlf, h.crlf_eq]
  | literal _ => exact h.crlf_eq

theorem Delimiter.blankOut_overhang (after : List Char) :
    blankOut (d.overhang after) = d.overhang after := by
  cases d with
  | comment _ => rfl
  | literal quote =>
    rw [overhang]
    split <;> rfl

theorem Piece.text_enclosed_append (xs ys : List Char) :
    (enclosed d (xs ++ ys) false).text = (enclosed d xs false).text ++ ys := by
  simp [text]

theorem Piece.masked_enclosed_append (xs ys : List Char) :
    (enclosed d (xs ++ ys) false).masked = (enclosed d xs false).masked ++ blankOut ys := by
  cases d <;> simp [masked, Delimiter.shown, blankOut]

section Enclosed

variable (hopening : InLine d.opening) (hclosing : InLine d.closing) (contents : List Char)
  (closed : Bool)

include hopening hclosing

theorem crlf_text_enclosed :
    crlf (Piece.enclosed d contents closed).text =
      (Piece.enclosed d (crlf contents) closed).text := by
  have hend : crlf (if closed then d.closing else []) = if closed then d.closing else [] := by
    split
    · exact hclosing.crlf_eq
    · rfl
  rw [Piece.text, Piece.text, Text.crlf_append, Text.crlf_append, hopening.crlf_eq, hend]

theorem crlf_masked_enclosed :
    crlf (Piece.enclosed d contents closed).masked =
      (Piece.enclosed d (crlf contents) closed).masked := by
  have hend : crlf (d.shown (if closed then d.closing else [])) =
      d.shown (if closed then d.closing else []) := by
    split
    · exact Delimiter.crlf_shown hclosing
    · cases d <;> rfl
  rw [Piece.masked, Piece.masked, Text.crlf_append, Text.crlf_append, Delimiter.crlf_shown hopening,
    hend, blankOut_crlf]

end Enclosed

end Contents

/-! ### Pieces -/

theorem lineCommentLength_of_lineFeed {line : List Char} (h : '\n' ∉ line) (rest : List Char) :
    lineCommentLength (line ++ '\n' :: rest) =
      if line.getLast? = some '\r' then line.length - 1 else line.length := by
  have hline : (line ++ '\n' :: rest).takeWhile (· ≠ '\n') = line := by
    rw [List.takeWhile_append_of_pos fun c hc => by simpa using ne_of_mem_of_not_mem hc h]
    simp
  rw [lineCommentLength, hline]

/-- Without carriage returns of its own, a text has the same line comments. -/
theorem lineComment_crlf {cs : List Char} (h : '\r' ∉ cs) :
    (crlf cs).take (lineCommentLength (crlf cs)) = cs.take (lineCommentLength cs) ∧
      '\n' ∉ cs.take (lineCommentLength cs) := by
  by_cases hfeed : '\n' ∈ cs
  · obtain ⟨line, rest, rfl, hline⟩ := List.eq_append_cons_of_mem hfeed
    have hlast : ¬line.getLast? = some '\r' := fun hlast =>
      h (List.mem_append_left _ (List.mem_of_getLast? hlast))
    have hcrlf : crlf (line ++ '\n' :: rest) = (line ++ ['\r']) ++ '\n' :: crlf rest := by
      rw [Text.crlf_append, Text.crlf_of_not_mem hline, Text.crlf_lineFeed, List.append_assoc]
      rfl
    rw [hcrlf, lineCommentLength_of_lineFeed (by simpa using hline), if_pos (by simp),
      lineCommentLength_of_lineFeed hline, if_neg hlast, List.length_append, List.length_singleton,
      Nat.add_sub_cancel, List.append_assoc, List.take_left, List.take_left]
    exact ⟨rfl, hline⟩
  · rw [Text.crlf_of_not_mem hfeed]
    exact ⟨rfl, fun hmem => hfeed (List.mem_of_mem_take hmem)⟩

section Pieces

variable {rules : Rules}

theorem mask_of_piece? {cs rest : List Char} {p : Piece} (h : piece? rules cs = some p)
    (hne : p.text ≠ []) (hcs : cs = p.text ++ rest) :
    mask rules cs = p.masked ++ mask rules rest := by
  cases cs with
  | nil => exact absurd (List.append_eq_nil_iff.mp hcs.symm).1 hne
  | cons c more =>
    have hfirst : first rules c more = p := by simp only [first, h, if_neg hne]
    have hrest : more.drop (p.text.length - 1) = rest := by
      have htext := text_first_append rules c more
      rw [hfirst, hcs] at htext
      exact List.append_cancel_left htext
    rw [mask_cons, hfirst, hrest]

theorem mask_of_piece?_eq_none {c : Char} {rest : List Char} (h : piece? rules (c :: rest) = none) :
    mask rules (c :: rest) = c :: mask rules rest := by
  have hfirst : first rules c rest = .code c := by simp only [first, h]
  rw [mask_cons, hfirst]
  rfl

variable (hrules : rules.InLine)

include hrules

/-- Line feeds and carriage returns outside comments and literals are code. -/
theorem mask_of_break {c : Char} (hc : c = '\n' ∨ c = '\r') (rest : List Char) :
    mask rules (c :: rest) = c :: mask rules rest := by
  refine mask_of_piece?_eq_none (List.findSome?_eq_none_iff.mpr fun o ho => ?_)
  rw [← Option.not_isSome_iff_eq_none, Opener.isSome_piece?_iff,
    (hrules.mark ho).isPrefixOf_break hc]
  exact Bool.false_ne_true

theorem Delimiter.mask_overhang {d : Delimiter} {after rest : List Char}
    (h : crlf after = d.overhang after ++ rest) :
    mask rules (crlf after) = d.overhang after ++ mask rules rest := by
  rw [h]
  cases d with
  | comment _ => rfl
  | literal quote =>
    rw [overhang]
    split
    · exact mask_of_break hrules (.inr rfl) rest
    · rfl

/-- An opener finds something in front of both texts or of neither. -/
theorem isSome_piece?_crlf_iff {o : Opener} (ho : o ∈ rules.openers) (cs : List Char) :
    (o.piece? rules.escape (crlf cs)).isSome = true ↔ (o.piece? rules.escape cs).isSome = true := by
  rw [Opener.isSome_piece?_iff, Opener.isSome_piece?_iff, (hrules.mark ho).isPrefixOf_crlf]

theorem piece?_crlf_eq_none {cs : List Char} (h : piece? rules cs = none) :
    piece? rules (crlf cs) = none := by
  refine List.findSome?_eq_none_iff.mpr fun o ho => ?_
  rw [← Option.not_isSome_iff_eq_none, isSome_piece?_crlf_iff hrules ho,
    List.findSome?_eq_none_iff.mp h o ho]
  exact Bool.false_ne_true

/-- The same opener finds the pieces in front of both texts. -/
theorem exists_opener_of_piece? {cs : List Char} {p : Piece} (h : piece? rules cs = some p) :
    ∃ o ∈ rules.openers, ∃ q, o.piece? rules.escape cs = some p ∧
      o.piece? rules.escape (crlf cs) = some q ∧ piece? rules (crlf cs) = some q := by
  have hsome := fun o ho => isSome_piece?_crlf_iff hrules (o := o) ho cs
  obtain ⟨q, hq⟩ : ∃ q, piece? rules (crlf cs) = some q := by
    obtain ⟨o, ho, hp⟩ := List.exists_of_findSome?_eq_some h
    refine Option.isSome_iff_exists.mp (List.findSome?_isSome_iff.mpr ⟨o, ho, ?_⟩)
    exact (hsome o ho).mpr (Option.isSome_of_mem hp)
  obtain ⟨o, ho, hp, hq'⟩ := exists_of_findSome?_eq_some_of_isSome h hq
    (fun o ho hp => (hsome o ho).mpr (Option.isSome_of_mem hp))
    fun o ho hq => (hsome o ho).mp (Option.isSome_of_mem hq)
  exact ⟨o, ho, q, hp, hq', hq⟩

/-- **The masked form of a piece is that of the same piece with carriage returns.** -/
theorem mask_crlf_of_piece? {cs rest : List Char} {p : Piece} (hreturn : '\r' ∉ cs)
    (h : piece? rules cs = some p) (hcs : cs = p.text ++ rest) (hstays : p.StaysInLine) :
    mask rules (crlf cs) = crlf p.masked ++ mask rules (crlf rest) := by
  obtain ⟨o, ho, q, hp, hq, hpiece⟩ := exists_opener_of_piece? hrules h
  have hne : q.text ≠ [] := ((hrules.wellFormed o ho).length_mark_le hq).1
  have htext : crlf cs = crlf p.text ++ crlf rest := by rw [← Text.crlf_append, ← hcs]
  cases o with
  | line marker =>
    rw [Opener.piece?, Option.ite_none_right_eq_some, Option.some.injEq] at hp hq
    obtain ⟨-, rfl⟩ := hp
    obtain ⟨-, rfl⟩ := hq
    obtain ⟨hcomment, hfeed⟩ := lineComment_crlf hreturn
    have hspaces : '\n' ∉ (Piece.lineComment (cs.take (lineCommentLength cs))).masked := by
      rw [Piece.masked, List.mem_replicate]
      simp
    rw [hcomment] at hpiece hne
    rw [Piece.text, Text.crlf_of_not_mem hfeed] at htext
    rw [Text.crlf_of_not_mem hspaces, mask_of_piece? hpiece hne htext]
  | delimiter d =>
    have hopening : InLine d.opening := hrules.1 _ ho _ (by simp [Opener.marks])
    have hclosing : InLine d.closing := hrules.1 _ ho _ (by simp [Opener.marks])
    rw [Opener.piece?, Option.ite_none_right_eq_some, Option.some.injEq] at hp hq
    obtain ⟨hopen, rfl⟩ := hp
    obtain ⟨-, rfl⟩ := hq
    obtain ⟨inner, rfl⟩ := List.isPrefixOf_iff_prefix.mp hopen
    have hinner : (crlf (d.opening ++ inner)).drop d.opening.length = crlf inner := by
      rw [Text.crlf_append, hopening.crlf_eq, List.drop_left]
    rw [List.drop_left] at hcs hstays htext ⊢
    rw [hinner, Delimiter.enclose_crlf hclosing hrules.2.1 hrules.2.2 hstays] at hpiece hne
    have hcontents := List.take_append_drop (d.reach rules.escape inner) inner
    rw [Delimiter.enclose] at hcs htext ⊢
    rw [crlf_text_enclosed hopening hclosing] at htext
    rw [crlf_masked_enclosed hopening hclosing]
    generalize inner.take (d.reach rules.escape inner) = contents at *
    generalize inner.drop (d.reach rules.escape inner) = after at *
    cases hclosed : d.closing.isPrefixOf after with
    | true =>
      rw [hclosed] at htext hpiece hne
      rw [Delimiter.overhang_of_isPrefixOf hclosing hclosed, List.append_nil] at hpiece hne
      exact mask_of_piece? hpiece hne htext
    | false =>
      -- The literal may end one character later, which is the carriage return of what follows.
      rw [hclosed] at hcs htext hpiece hne
      obtain rfl : after = rest := by
        rw [← hcontents, Piece.text, if_neg Bool.false_ne_true, List.append_nil,
          List.append_assoc] at hcs
        exact List.append_cancel_left (List.append_cancel_left hcs)
      obtain ⟨more, hmore, -⟩ := Delimiter.exists_overhang_append hclosing after
      rw [hmore, ← List.append_assoc, ← Piece.text_enclosed_append] at htext
      rw [mask_of_piece? hpiece hne htext, Piece.masked_enclosed_append,
        Delimiter.blankOut_overhang, List.append_assoc, Delimiter.mask_overhang hrules hmore]

end Pieces

end Masking

open Masking
open Text (crlf)

/-- **Masking commutes with putting in carriage returns**, if every literal stays in its line that
has to. -/
theorem mask_crlf {rules : Rules} (hrules : rules.InLine) {cs : List Char} (hreturn : '\r' ∉ cs)
    (hstays : ∀ p ∈ pieces rules cs, p.StaysInLine) :
    mask rules (crlf cs) = crlf (mask rules cs) := by
  fun_induction pieces rules cs with
  | case1 => rfl
  | case2 c rest ih =>
    obtain ⟨hfirst, hlater⟩ := List.forall_mem_cons.mp hstays
    have htext := text_first_append rules c rest
    have hrest : '\r' ∉ rest.drop ((first rules c rest).text.length - 1) := fun hmem =>
      hreturn (List.mem_cons_of_mem c (List.mem_of_mem_drop hmem))
    rw [mask_cons, Text.crlf_append, ← ih hrest hlater]
    cases hpiece : piece? rules (c :: rest) with
    | some p =>
      have hp : first rules c rest = p := by
        rw [first_eq_getD hrules.wellFormed, hpiece, Option.getD_some]
      rw [hp] at hfirst htext ⊢
      exact mask_crlf_of_piece? hrules hreturn hpiece htext.symm hfirst
    | none =>
      have hcode : first rules c rest = .code c := by
        rw [first_eq_getD hrules.wellFormed, hpiece, Option.getD_none]
      rw [hcode]
      by_cases hc : c = '\n'
      · subst hc
        rw [Text.crlf_lineFeed, mask_of_break hrules (.inr rfl), mask_of_break hrules (.inl rfl)]
        rfl
      · have hnone := piece?_crlf_eq_none hrules hpiece
        rw [Text.crlf_cons hc] at hnone ⊢
        rw [mask_of_piece?_eq_none hnone, Piece.masked, Text.crlf_cons hc]
        rfl

/-! ### Analyses -/

/-- Masking puts in no carriage return. -/
theorem return_not_mem_mask {cs : List Char} (h : '\r' ∉ cs) (rules : Rules) :
    '\r' ∉ mask rules cs := by
  have hveils := forall₂_veils_mask rules cs
  generalize mask rules cs = ms at hveils ⊢
  induction hveils with
  | nil => exact List.not_mem_nil
  | cons hm _ ih =>
    rw [List.mem_cons, not_or] at h ⊢
    refine ⟨?_, ih h.2⟩
    obtain rfl | ⟨rfl, -⟩ := hm
    · exact h.1
    · decide

/-- In any dialect with marks within lines, an analysis does not see carriage returns. -/
theorem Dialect.analyze_crlf_eq {d : Dialect} (hrules : d.rules.InLine) (rules : CountingRules)
    {cs : List Char} (hreturn : '\r' ∉ cs) (hstays : ∀ p ∈ pieces d.rules cs, p.StaysInLine) :
    d.analyze rules (crlf cs) =
      { d.analyze rules cs with masked := crlf (d.analyze rules cs).masked } := by
  have hmask := mask_crlf hrules hreturn hstays
  have hlines := Text.lines_crlf (return_not_mem_mask hreturn d.rules)
  simp only [analyze, outline, hmask, hlines, Text.lines_crlf hreturn,
    measure_eq_of_lines_eq hlines]

namespace Scanner

theorem inLine_of_mem_builtin {s : Scanner} (h : s ∈ builtinScanners) : s.dialect.rules.InLine := by
  revert s
  decide

/-- **A carriage return in front of every line feed changes no analysis** by a scanner of the
library: the entities with their places and scores, the warnings and the score of the file
are the same, unless the text has a literal that goes on behind an escaped line feed and may
not span lines. -/
theorem analyze_crlf {s : Scanner} (hs : s ∈ builtinScanners) (rules : CountingRules)
    {cs : List Char} (hreturn : '\r' ∉ cs)
    (hstays : ∀ p ∈ pieces s.dialect.rules cs, p.StaysInLine) :
    ∃ analysis analysis', s.analyze rules cs = .ok analysis ∧
      s.analyze rules (crlf cs) = .ok analysis' ∧
      analysis'.entities = analysis.entities ∧ analysis'.warnings = analysis.warnings ∧
      analysis'.score = analysis.score ∧ analysis'.masked = crlf analysis.masked := by
  have hanalyze := Dialect.analyze_crlf_eq (inLine_of_mem_builtin hs) rules hreturn hstays
  refine ⟨s.dialect.analyze rules cs, s.dialect.analyze rules (crlf cs), ?_, ?_, ?_⟩
  · rw [analyze, failure_of_mem_builtin hs]
  · rw [analyze, failure_of_mem_builtin hs]
  · rw [hanalyze]
    exact ⟨rfl, rfl, rfl, rfl⟩

/-- A line comment, a template of two lines with an escaped line feed, and a string
without its end. -/
theorem analyze_crlf_template :
    let cs := "f(\n// (\nlet s = `a\\\n\x7b`, t = \"x\n) \x7b if (b) \x7b\x7d \x7d".toList
    '\r' ∉ cs ∧ (∀ p ∈ pieces JavaScript.dialect.rules cs, p.StaysInLine) ∧
      ∃ analysis analysis', JavaScript.scanner.analyze {} cs = .ok analysis ∧
        JavaScript.scanner.analyze {} (crlf cs) = .ok analysis' ∧
        analysis'.entities = analysis.entities ∧ analysis'.warnings = analysis.warnings ∧
        analysis'.score = analysis.score ∧ analysis'.masked = crlf analysis.masked := by
  intro cs
  have hmem : JavaScript.scanner ∈ builtinScanners := by simp [builtinScanners]
  have hreturn : '\r' ∉ cs := by decide
  have hstays : ∀ p ∈ pieces JavaScript.dialect.rules cs, p.StaysInLine := by decide +kernel
  exact ⟨hreturn, hstays, analyze_crlf hmem {} hreturn hstays⟩

/-- **An escaped line feed in a string tells the texts apart.** The string goes on in the next line,
but with a carriage return it ends, and what it held is code. -/
theorem cyclomatic_crlf_ne :
    let cs := "s = \"a\\\nif (b) c\";\n".toList
    '\r' ∉ cs ∧ ∃ analysis analysis', Java.scanner.analyze {} cs = .ok analysis ∧
      Java.scanner.analyze {} (crlf cs) = .ok analysis' ∧
      analysis.score.cyclomatic = 1 ∧ analysis'.score.cyclomatic = 2 := by
  refine ⟨by decide, _, _, rfl, rfl, ?_, ?_⟩ <;> decide +kernel

end Scanner

end SourceMetrics
