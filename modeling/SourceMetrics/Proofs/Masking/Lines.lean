import SourceMetrics.Number.Total
import SourceMetrics.Proofs.Masking.Pieces
import SourceMetrics.Registry.Default

/-!
# When masking keeps the lines of a text

A masked text is to have the lines of its source, each as long as before, so that every line number
and column means the same in both. Blanking spares line feeds and carriage returns, a line comment
ends in front of a line feed, but a text is cut into lines at other characters as well. So the lines
are kept unless a comment or a literal holds such a character, or a line comment a carriage return
in its middle.

Masking never makes a line break, and lines and their breaks together are as long as the text. The
lines are therefore kept exactly if no break is lost, and the breaks can be counted piece by piece.

## Main definitions

* `Masking.Piece.KeepsBreaks` — masking a piece loses no line break
* `Text.FeedsOnly` — lines end with line feeds, alone or behind carriage returns

## Main results

* `Masking.countP_pieces` — breaks are lost in pieces that do not keep them, and nowhere else
* `lineLengths_mask_eq_iff` — the lines of a masked text have the lengths of those of the source
  exactly if every piece keeps its breaks
-/

namespace SourceMetrics

open Text (isLineBreak)

/-! ### Lines and breaks make up a text -/

namespace Text

/-- Adds one to the length of the first line. -/
def lengthen : List Nat → List Nat
  | [] => [1]
  | n :: rest => (n + 1) :: rest

theorem total_lengthen (lengths : List Nat) :
    Number.total (lengthen lengths) = Number.total lengths + 1 := by
  cases lengths with
  | nil => rfl
  | cons n rest =>
    simp only [lengthen, Number.total_cons]
    omega

/-- The lengths of the lines of a text. -/
def lineLengths (cs : List Char) : List Nat := (lines cs).map List.length

theorem lineLengths_crlf (rest : List Char) :
    lineLengths ('\r' :: '\n' :: rest) = 0 :: lineLengths rest := by
  rw [lineLengths, lines, Line.split_crlf]
  rfl

theorem lineLengths_of_break {c : Char} (h : isLineBreak c = true) {rest : List Char}
    (hrn : ¬(c = '\r' ∧ rest.head? = some '\n')) :
    lineLengths (c :: rest) = 0 :: lineLengths rest := by
  rw [lineLengths, lines, Line.split_cons_of_break h hrn]
  rfl

theorem lineLengths_of_not_break {c : Char} (h : isLineBreak c = false) (rest : List Char) :
    lineLengths (c :: rest) = lengthen (lineLengths rest) := by
  rw [lineLengths, lines, Line.split_cons_of_not_break h, lineLengths, lines]
  cases Line.split rest <;> rfl

/-- The lines of a text and its line breaks are together as long as the text. -/
theorem total_lineLengths_add (cs : List Char) :
    Number.total (lineLengths cs) + cs.countP isLineBreak = cs.length := by
  induction cs using Line.induction_on with
  | nil => rfl
  | crlf rest ih =>
    rw [lineLengths_crlf, Number.total_cons, List.countP_cons_of_pos (by decide),
      List.countP_cons_of_pos (by decide), List.length_cons, List.length_cons]
    omega
  | lineBreak c rest hbreak hrn ih =>
    rw [lineLengths_of_break hbreak hrn, Number.total_cons, List.countP_cons_of_pos hbreak,
      List.length_cons]
    omega
  | character c rest hbreak ih =>
    rw [lineLengths_of_not_break hbreak, total_lengthen,
      List.countP_cons_of_neg (by simp [hbreak]), List.length_cons]
    omega

end Text

namespace Masking

open Text (lineLengths)

/-! ### Hidden breaks -/

theorem Veils.isLineBreak_of_isLineBreak {m c : Char} (h : Veils m c) (hm : isLineBreak m = true) :
    isLineBreak c = true :=
  h.eq_of_isLineBreak hm ▸ hm

theorem countP_le_of_veils {ms cs : List Char} (h : List.Forall₂ Veils ms cs) :
    ms.countP isLineBreak ≤ cs.countP isLineBreak := by
  induction h with
  | nil => exact Nat.le_refl _
  | @cons m c ms cs hm _ ih =>
    have hfirst : (if isLineBreak m = true then 1 else 0) ≤
        if isLineBreak c = true then 1 else 0 := by
      split
      next hbreak => rw [if_pos (hm.isLineBreak_of_isLineBreak hbreak)]
      next => exact Nat.zero_le _
    rw [List.countP_cons, List.countP_cons]
    omega

/-- If no break is lost, then neither the first nor a later one is. -/
theorem Veils.isLineBreak_eq_of_countP {m c : Char} {ms cs : List Char} (hm : Veils m c)
    (hms : List.Forall₂ Veils ms cs)
    (hcount : (m :: ms).countP isLineBreak = (c :: cs).countP isLineBreak) :
    isLineBreak m = isLineBreak c ∧ ms.countP isLineBreak = cs.countP isLineBreak := by
  have hle := countP_le_of_veils hms
  rw [List.countP_cons, List.countP_cons] at hcount
  cases hbreak : isLineBreak m with
  | true =>
    have hbreak' := hm.isLineBreak_of_isLineBreak hbreak
    simp only [hbreak, hbreak', if_true] at hcount
    exact ⟨hbreak'.symm, by omega⟩
  | false =>
    cases hbreak' : isLineBreak c with
    | true =>
      simp only [hbreak, hbreak', if_true, Bool.false_eq_true, if_false] at hcount
      omega
    | false =>
      simp only [hbreak, hbreak', Bool.false_eq_true, if_false] at hcount
      exact ⟨rfl, by omega⟩

/-- If no break is lost, lines end at the same places. -/
theorem lineLengths_eq_of_veils {ms cs : List Char} (h : List.Forall₂ Veils ms cs)
    (hcount : ms.countP isLineBreak = cs.countP isLineBreak) : lineLengths ms = lineLengths cs := by
  induction cs using Text.Line.induction_on generalizing ms with
  | nil =>
    cases h
    rfl
  | crlf rest ih =>
    cases h with
    | @cons m _ _ _ hm hms =>
      obtain ⟨hreturn, hfeed⟩ := hm.isLineBreak_eq_of_countP hms hcount
      cases hms with
      | @cons n _ ms _ hn hms =>
        obtain rfl := hm.eq_of_isLineBreak (hreturn.trans (by decide))
        obtain rfl := hn.lineFeed_iff.mpr rfl
        rw [Text.lineLengths_crlf, Text.lineLengths_crlf,
          ih hms (hn.isLineBreak_eq_of_countP hms hfeed).2]
  | lineBreak c rest hbreak hrn ih =>
    cases h with
    | @cons m _ ms _ hm hms =>
      obtain ⟨hfirst, hlater⟩ := hm.isLineBreak_eq_of_countP hms hcount
      obtain rfl := hm.eq_of_isLineBreak (hfirst.trans hbreak)
      have hrn' : ¬(m = '\r' ∧ ms.head? = some '\n') := by
        rintro ⟨hm, hhead⟩
        refine hrn ⟨hm, ?_⟩
        cases hms with
        | nil => cases hhead
        | cons hn _ =>
          rw [List.head?_cons, Option.some.injEq] at hhead ⊢
          exact hn.lineFeed_iff.mp hhead
      rw [Text.lineLengths_of_break hbreak hrn', Text.lineLengths_of_break hbreak hrn,
        ih hms hlater]
  | character c rest hbreak ih =>
    cases h with
    | @cons m _ ms _ hm hms =>
      obtain ⟨hfirst, hlater⟩ := hm.isLineBreak_eq_of_countP hms hcount
      rw [Text.lineLengths_of_not_break (hfirst.trans hbreak), Text.lineLengths_of_not_break hbreak,
        ih hms hlater]

/-! ### Breaks of pieces -/

/-- The character ends no line, or blanking leaves it alone. -/
def Spared (c : Char) : Prop := isLineBreak c = true → c = '\n' ∨ c = '\r'

/-- Masking the piece loses no line break: a line comment has none, and between marks all are line
feeds and carriage returns. The marks of comments are masked too. -/
def Piece.KeepsBreaks : Piece → Prop
  | .code _ => True
  | .lineComment cs => ∀ c ∈ cs, isLineBreak c = false
  | .enclosed (.comment marks) contents closed =>
    ∀ c ∈ (Piece.enclosed (.comment marks) contents closed).text, Spared c
  | .enclosed (.literal _) contents _ => ∀ c ∈ contents, Spared c

theorem countP_blankOut (cs : List Char) :
    (blankOut cs).countP isLineBreak ≤ cs.countP isLineBreak ∧
      ((blankOut cs).countP isLineBreak = cs.countP isLineBreak ↔ ∀ c ∈ cs, Spared c) := by
  induction cs with
  | nil => simp [blankOut]
  | cons c rest ih =>
    obtain ⟨hle, hiff⟩ := ih
    rw [List.forall_mem_cons, ← hiff, List.countP_cons]
    by_cases hkept : c = '\n' ∨ c = '\r'
    · have hspared : Spared c := fun _ => hkept
      have hcons : blankOut (c :: rest) = c :: blankOut rest := by
        rw [blankOut, List.map_cons, if_pos (by simpa using hkept), blankOut]
      rw [hcons, List.countP_cons]
      simp only [hspared, true_and]
      omega
    · have hcons : blankOut (c :: rest) = ' ' :: blankOut rest := by
        rw [blankOut, List.map_cons, if_neg (by simpa using hkept), blankOut]
      rw [hcons, List.countP_cons_of_neg (by decide)]
      cases hbreak : isLineBreak c with
      | true =>
        have hlost : ¬Spared c := fun h => hkept (h hbreak)
        simp only [hlost, false_and, if_true, iff_false]
        omega
      | false =>
        have hspared : Spared c := fun h => by rw [hbreak] at h; cases h
        simp only [hspared, true_and, Bool.false_eq_true, if_false]
        omega

theorem Piece.masked_comment (marks : List Char × List Char) (contents : List Char)
    (closed : Bool) : (Piece.enclosed (.comment marks) contents closed).masked =
      blankOut (Piece.enclosed (.comment marks) contents closed).text := by
  rw [masked, text, blankOut_append, blankOut_append]
  rfl

theorem Piece.countP_masked (p : Piece) :
    p.masked.countP isLineBreak ≤ p.text.countP isLineBreak ∧
      (p.masked.countP isLineBreak = p.text.countP isLineBreak ↔ p.KeepsBreaks) := by
  match p with
  | .code _ => exact ⟨Nat.le_refl _, iff_of_true rfl trivial⟩
  | .lineComment cs =>
    have hspaces : (List.replicate cs.length ' ').countP isLineBreak = 0 := by
      rw [List.countP_replicate, if_neg (by decide)]
    rw [masked, hspaces, text, KeepsBreaks, eq_comm, List.countP_eq_zero]
    exact ⟨Nat.zero_le _, by simp only [Bool.not_eq_true]⟩
  | .enclosed (.comment marks) contents closed =>
    rw [Piece.masked_comment]
    exact countP_blankOut _
  | .enclosed (.literal quote) contents closed =>
    obtain ⟨hle, hiff⟩ := countP_blankOut contents
    simp only [masked, text, Delimiter.shown, List.countP_append, KeepsBreaks, ← hiff]
    omega

/-- **Breaks are lost in pieces that do not keep them, and nowhere else.** -/
theorem countP_pieces (ps : List Piece) :
    (ps.flatMap Piece.masked).countP isLineBreak ≤ (ps.flatMap Piece.text).countP isLineBreak ∧
      ((ps.flatMap Piece.masked).countP isLineBreak = (ps.flatMap Piece.text).countP isLineBreak ↔
        ∀ p ∈ ps, p.KeepsBreaks) := by
  induction ps with
  | nil => simp
  | cons p rest ih =>
    obtain ⟨hle, hiff⟩ := p.countP_masked
    obtain ⟨hle', hiff'⟩ := ih
    rw [List.flatMap_cons, List.flatMap_cons, List.countP_append, List.countP_append,
      List.forall_mem_cons, ← hiff, ← hiff']
    omega

end Masking

open Masking

/-! ### Texts with line feeds only -/

namespace Text

/-- Every line break of the text is a line feed or a carriage return in front of one. -/
def FeedsOnly (cs : List Char) : Prop :=
  ∀ xs c ys, cs = xs ++ c :: ys → isLineBreak c = true →
    c = '\n' ∨ c = '\r' ∧ ys.head? = some '\n'

theorem FeedsOnly.suffix {pre cs : List Char} (h : FeedsOnly (pre ++ cs)) : FeedsOnly cs := by
  intro xs c ys hcs
  exact h (pre ++ xs) c ys (by rw [hcs, List.append_assoc])

theorem FeedsOnly.spared {cs : List Char} (h : FeedsOnly cs) {c : Char} (hc : c ∈ cs) :
    Spared c := by
  obtain ⟨xs, ys, hcs⟩ := List.append_of_mem hc
  exact fun hbreak => (h xs c ys hcs hbreak).imp_right And.left

end Text

namespace Masking

/-- A line comment in a text with line feeds only holds no break. -/
theorem not_isLineBreak_of_mem_lineComment {cs : List Char} (h : Text.FeedsOnly cs) :
    ∀ c ∈ cs.take (lineCommentLength cs), isLineBreak c = false := by
  intro c hc
  by_contra hbreak
  have hline : ∀ d ∈ cs.takeWhile (· ≠ '\n'), d ≠ '\n' := fun d hd => by
    simpa using List.mem_takeWhile_imp hd
  obtain ⟨xs, ys, hcut⟩ := List.append_of_mem hc
  have hrest : ∀ more, cs.takeWhile (· ≠ '\n') = xs ++ c :: ys ++ more →
      c = '\r' ∧ (ys ++ (more ++ cs.dropWhile (· ≠ '\n'))).head? = some '\n' := by
    intro more hmore
    have hcs : cs = xs ++ c :: (ys ++ (more ++ cs.dropWhile (· ≠ '\n'))) := by
      conv_lhs => rw [← List.takeWhile_append_dropWhile (p := (· ≠ '\n')) (l := cs), hmore]
      simp only [List.append_assoc, List.cons_append]
    exact (h xs c _ hcs (by simpa using hbreak)).resolve_left (hline c (by rw [hmore]; simp))
  cases ys with
  | nil =>
    obtain ⟨hwhole, hlast⟩ | hreturn := takeWhile_eq_lineComment cs
    · obtain ⟨rfl, -⟩ := hrest [] (by rw [hwhole, hcut, List.append_nil])
      exact hlast (by simp [hcut])
    · obtain ⟨-, hhead⟩ := hrest ['\r'] (by rw [hreturn, hcut])
      cases hhead
  | cons d ys =>
    obtain ⟨more, hmore⟩ : ∃ more, cs.takeWhile (· ≠ '\n') = xs ++ c :: d :: ys ++ more := by
      obtain ⟨hwhole, -⟩ | hreturn := takeWhile_eq_lineComment cs
      · exact ⟨[], by rw [hwhole, hcut, List.append_nil]⟩
      · exact ⟨['\r'], by rw [hreturn, hcut]⟩
    obtain ⟨-, hhead⟩ := hrest more hmore
    exact hline d (by rw [hmore]; simp) (Option.some.inj hhead)

end Masking

/-- In a text with line feeds only, every piece keeps its breaks. -/
theorem Text.FeedsOnly.keepsBreaks {rules : Rules} {cs : List Char} (h : FeedsOnly cs) {p : Piece}
    (hp : p ∈ pieces rules cs) : p.KeepsBreaks := by
  obtain ⟨pre, c, rest, rfl, rfl⟩ := exists_of_mem_pieces hp
  have hrest := h.suffix
  obtain hcode | ⟨hpiece, -⟩ := first_eq_or rules c rest
  · rw [hcode]
    trivial
  · have htext := text_isPrefix_of_piece? hpiece
    obtain ⟨o, -, ho⟩ := List.exists_of_findSome?_eq_some hpiece
    cases o with
    | line marker =>
      rw [Opener.piece?, Option.ite_none_right_eq_some, Option.some.injEq] at ho
      rw [← ho.2]
      exact not_isLineBreak_of_mem_lineComment hrest
    | delimiter d =>
      rw [Opener.piece?, Option.ite_none_right_eq_some, Option.some.injEq, Delimiter.enclose] at ho
      have hspared : ∀ c' ∈ (first rules c rest).text, Spared c' := fun c' hc' =>
        hrest.spared (htext.subset hc')
      rw [← ho.2] at hspared ⊢
      cases d with
      | comment marks => exact hspared
      | literal quote =>
        intro c' hc'
        refine hspared c' ?_
        rw [Piece.text]
        exact List.mem_append_right _ (List.mem_append_left _ hc')

/-! ### The lines of a masked text -/

/-- **The lines of a masked text are as long as those of the source exactly if every piece keeps its
breaks**, and every piece does where lines end with line feeds, alone or behind carriage returns. -/
theorem lineLengths_mask_eq_iff (rules : Rules) (cs : List Char) :
    (Text.lineLengths (mask rules cs) = Text.lineLengths cs ↔
        ∀ p ∈ pieces rules cs, p.KeepsBreaks) ∧
      (Text.FeedsOnly cs → Text.lineLengths (mask rules cs) = Text.lineLengths cs) := by
  have hveils := forall₂_veils_mask rules cs
  have hpieces := (countP_pieces (pieces rules cs)).2
  rw [← mask_eq_masked_pieces, text_pieces] at hpieces
  have hiff : Text.lineLengths (mask rules cs) = Text.lineLengths cs ↔
      ∀ p ∈ pieces rules cs, p.KeepsBreaks := by
    refine ⟨fun hlines => hpieces.mp ?_,
      fun hkept => lineLengths_eq_of_veils hveils (hpieces.mpr hkept)⟩
    have hmask := Text.total_lineLengths_add (mask rules cs)
    have hsource := Text.total_lineLengths_add cs
    rw [hlines, hveils.length_eq] at hmask
    omega
  exact ⟨hiff, fun hfeeds => hiff.mpr fun _ hp => hfeeds.keepsBreaks hp⟩

/-- A comment that holds a form feed takes a line from the text, and so does a line comment that
goes on behind a carriage return. -/
theorem lineLengths_mask_ne :
    Text.lineLengths (mask Java.scanner.dialect.rules "/*\x0c*/ int x;".toList) = [12] ∧
      Text.lineLengths "/*\x0c*/ int x;".toList = [2, 9] ∧
      Text.lineLengths (mask Java.scanner.dialect.rules "// a\rint x;".toList) = [11] ∧
      Text.lineLengths "// a\rint x;".toList = [4, 6] := by
  decide

end SourceMetrics
