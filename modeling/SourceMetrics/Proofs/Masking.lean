import Mathlib.Data.List.Forall2
import Mathlib.Data.List.TakeWhile
import Mathlib.Data.Option.Basic
import SourceMetrics.Masking
import SourceMetrics.Proofs.Text.Line

/-!
# What masking leaves of a text

A masked text has, place for place, the character of the source or a space, and every line feed of
the source stands. This is a statement about pairs of characters, `Masking.Veils`, and it holds for
any rules: each region is blanked over a stretch of the source, and `maskFrom` goes along that
stretch.

A space never ends a line, but it may stand where a line ended: a form feed inside a comment is gone
after masking. So the masked text has at most as many lines as the source. That no line is gained
needs the line feeds: with a space for the second half of a double break, the first half alone would
still end a line, and what follows the space would be one line more.

## Main definitions

* `Masking.Veils` — what may stand in a masked text for a character

## Main results

* `forall₂_veils_mask` — every character of a masked text stands for one of the source
* `length_lines_mask_le` — masking adds no line
-/

namespace SourceMetrics

namespace Masking

/-- The character `m` may stand for `c` in a masked text. -/
def Veils (m c : Char) : Prop := m = c ∨ (m = ' ' ∧ c ≠ '\n')

theorem veils_refl (c : Char) : Veils c c := .inl rfl

theorem forall₂_veils_refl (cs : List Char) : List.Forall₂ Veils cs cs :=
  List.forall₂_same.mpr fun c _ => veils_refl c

/-- Only a line feed stands for a line feed, and a line feed for nothing else. -/
theorem Veils.lineFeed_iff {m c : Char} (h : Veils m c) : m = '\n' ↔ c = '\n' := by
  obtain rfl | ⟨rfl, hc⟩ := h
  · rfl
  · exact iff_of_false (by decide) hc

/-- A character that ends a line stands for itself. -/
theorem Veils.eq_of_isLineBreak {m c : Char} (h : Veils m c) (hm : Text.isLineBreak m = true) :
    m = c := by
  obtain rfl | ⟨rfl, -⟩ := h
  · rfl
  · cases hm

/-! ### Regions -/

/-- A masked form of the first characters of a text. -/
def VeilsStart (ms cs : List Char) : Prop := ∃ xs ys, cs = xs ++ ys ∧ List.Forall₂ Veils ms xs

theorem forall₂_veils_blankOut (cs : List Char) : List.Forall₂ Veils (blankOut cs) cs := by
  rw [blankOut, List.forall₂_map_left_iff, List.forall₂_same]
  intro c _
  split
  · exact veils_refl c
  · next h => exact .inr ⟨rfl, fun hc => h (by simp [hc])⟩

theorem veilsStart_of_blockComment? {marks : List Char × List Char} {cs ms : List Char}
    (h : blockComment? marks cs = some ms) : VeilsStart ms cs := by
  rw [blockComment?, Option.ite_none_right_eq_some] at h
  obtain ⟨-, h⟩ := h
  cases h
  exact ⟨_, _, (List.take_append_drop _ cs).symm, forall₂_veils_blankOut _⟩

theorem lineCommentLength_le (cs : List Char) :
    lineCommentLength cs ≤ (cs.takeWhile (· ≠ '\n')).length := by
  rw [lineCommentLength]
  split <;> omega

theorem veilsStart_of_lineComment? {marker cs ms : List Char}
    (h : lineComment? marker cs = some ms) : VeilsStart ms cs := by
  rw [lineComment?, Option.ite_none_right_eq_some] at h
  obtain ⟨-, h⟩ := h
  cases h
  let body := cs.takeWhile (· ≠ '\n')
  have hbody : body <+: cs := List.takeWhile_prefix _
  refine ⟨body.take (lineCommentLength cs), cs.drop (lineCommentLength cs), ?_, ?_⟩
  · rw [List.prefix_iff_eq_take.mp hbody, List.take_take, Nat.min_eq_left (lineCommentLength_le cs),
      List.take_append_drop]
  · have hlength : (body.take (lineCommentLength cs)).length = lineCommentLength cs :=
      List.length_take_of_le (lineCommentLength_le cs)
    rw [List.forall₂_iff_get]
    refine ⟨by rw [List.length_replicate, hlength], fun i _ hi => .inr ⟨by simp, ?_⟩⟩
    have hmem := List.mem_of_mem_take (List.get_mem (body.take (lineCommentLength cs)) ⟨i, hi⟩)
    simpa using List.mem_takeWhile_imp hmem

theorem veilsStart_of_literal? {escape : Option Char} {quote : Quote} {cs ms : List Char}
    (h : literal? escape quote cs = some ms) : VeilsStart ms cs := by
  rw [literal?, Option.ite_none_right_eq_some] at h
  obtain ⟨hquote, h⟩ := h
  cases h
  obtain ⟨inner, rfl⟩ := List.isPrefixOf_iff_prefix.mp hquote
  rw [List.drop_left]
  set length := contentsLength quote escape inner with hlength
  have hclosing : ∃ rest, inner.drop length =
      (if quote.mark.isPrefixOf (inner.drop length) then quote.mark else []) ++ rest := by
    split
    · next hmark =>
      obtain ⟨rest, hrest⟩ := List.isPrefixOf_iff_prefix.mp hmark
      exact ⟨rest, hrest.symm⟩
    · exact ⟨_, rfl⟩
  obtain ⟨rest, hrest⟩ := hclosing
  refine ⟨quote.mark ++ inner.take length ++
    (if quote.mark.isPrefixOf (inner.drop length) then quote.mark else []), rest, ?_, ?_⟩
  · rw [List.append_assoc, ← hrest, List.append_assoc, List.take_append_drop]
  · exact List.rel_append (List.rel_append (forall₂_veils_refl _) (forall₂_veils_blankOut _))
      (forall₂_veils_refl _)

/-- Whatever starts here, its masked form is one of the first characters of the text. -/
theorem veilsStart_of_region? {rules : Rules} {cs ms : List Char} (h : region? rules cs = some ms) :
    VeilsStart ms cs := by
  rw [region?, Option.orElse_eq_some, Option.orElse_eq_some] at h
  obtain h | ⟨-, h | ⟨-, h⟩⟩ := h
  · obtain ⟨marks, -, h⟩ := List.exists_of_findSome?_eq_some h
    exact veilsStart_of_blockComment? h
  · obtain ⟨marker, -, h⟩ := List.exists_of_findSome?_eq_some h
    exact veilsStart_of_lineComment? h
  · obtain ⟨quote, -, h⟩ := List.exists_of_findSome?_eq_some h
    exact veilsStart_of_literal? h

/-! ### The whole text -/

theorem VeilsStart.tail {m c : Char} {ms cs : List Char} (h : VeilsStart (m :: ms) (c :: cs)) :
    Veils m c ∧ VeilsStart ms cs := by
  obtain ⟨xs, ys, hcs, hveils⟩ := h
  cases hveils with
  | cons hm hms =>
    obtain ⟨rfl, rfl⟩ := List.cons_eq_cons.mp hcs
    exact ⟨hm, _, ys, rfl, hms⟩

/-- The step of the walk: the pending characters stand for the next ones of the source. -/
theorem forall₂_veils_maskFrom (rules : Rules) (pending cs : List Char)
    (h : VeilsStart pending cs) : List.Forall₂ Veils (maskFrom rules pending cs) cs := by
  fun_induction maskFrom rules pending cs with
  | case1 => exact .nil
  | case2 m pending c rest ih => exact .cons h.tail.1 (ih h.tail.2)
  | case3 c rest m pending hregion ih =>
    have hstart := veilsStart_of_region? hregion
    exact .cons hstart.tail.1 (ih hstart.tail.2)
  | case4 c rest _ ih => exact .cons (veils_refl c) (ih ⟨[], rest, rfl, .nil⟩)

end Masking

open Masking

/-- Every character of a masked text stands for one of the source. -/
theorem forall₂_veils_mask (rules : Rules) (cs : List Char) :
    List.Forall₂ Veils (mask rules cs) cs :=
  forall₂_veils_maskFrom rules [] cs ⟨[], cs, rfl, .nil⟩

/-! ### Lines of a masked text -/

namespace Text.Line

theorem length_split_cons_of_not_break {c : Char} (h : isLineBreak c = false) (rest : List Char) :
    (split (c :: rest)).length = max 1 (split rest).length := by
  rw [split_cons_of_not_break h]
  cases split rest <;> simp [prepend]

/-- A character in front adds at most one line. -/
theorem length_split_cons_le (c : Char) (rest : List Char) :
    (split (c :: rest)).length ≤ (split rest).length + 1 := by
  by_cases hbreak : isLineBreak c = true
  · by_cases hrn : c = '\r' ∧ rest.head? = some '\n'
    · obtain ⟨rfl, hhead⟩ := hrn
      obtain ⟨more, rfl⟩ := List.head?_eq_some_iff.mp hhead
      rw [split_crlf, split_cons_of_break (by decide) (by simp)]
      simp
    · rw [split_cons_of_break hbreak hrn, List.length_cons]
  · rw [length_split_cons_of_not_break (by simpa using hbreak)]
    omega

/-- Hiding characters behind spaces adds no line, as long as the line feeds stand. -/
theorem length_split_le_of_veils {ms cs : List Char} (h : List.Forall₂ Veils ms cs) :
    (split ms).length ≤ (split cs).length := by
  induction cs using induction_on generalizing ms with
  | nil =>
    cases h
    exact le_rfl
  | crlf rest ih =>
    cases h with
    | @cons m _ _ _ hm hms =>
      cases hms with
      | @cons n _ ms' _ hn hms' =>
        obtain rfl := hn.lineFeed_iff.mpr rfl
        have hline : (split (m :: '\n' :: ms')).length = (split ms').length + 1 := by
          obtain rfl | ⟨rfl, -⟩ := hm
          · rw [split_crlf, List.length_cons]
          · rw [length_split_cons_of_not_break (by decide),
              split_cons_of_break (by decide) (by simp), List.length_cons]
            omega
        rw [hline, split_crlf, List.length_cons]
        exact Nat.succ_le_succ (ih hms')
  | lineBreak c rest hbreak hrn ih =>
    cases h with
    | @cons m _ ms' _ _ hms =>
      rw [split_cons_of_break hbreak hrn, List.length_cons]
      exact (length_split_cons_le m ms').trans (Nat.succ_le_succ (ih hms))
  | character c rest hbreak ih =>
    cases h with
    | @cons m _ ms' _ hm hms =>
      have hm' : isLineBreak m = false := by
        by_contra hne
        have hmbreak : isLineBreak m = true := by simpa using hne
        rw [hm.eq_of_isLineBreak hmbreak, hbreak] at hmbreak
        cases hmbreak
      have hle := ih hms
      rw [length_split_cons_of_not_break hm', length_split_cons_of_not_break hbreak]
      omega

end Text.Line

/-- Masking adds no line. -/
theorem length_lines_mask_le (rules : Rules) (cs : List Char) :
    (Text.lines (mask rules cs)).length ≤ (Text.lines cs).length := by
  rw [Text.lines, Text.lines, List.length_map, List.length_map]
  exact Text.Line.length_split_le_of_veils (forall₂_veils_mask rules cs)

end SourceMetrics
