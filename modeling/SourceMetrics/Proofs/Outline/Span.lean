import SourceMetrics.Proofs.Outline.Forest
import SourceMetrics.Proofs.Score.Cyclomatic
import SourceMetrics.Proofs.Score.Nesting
import SourceMetrics.Scanner

/-!
# The text of a declaration within its source

A declaration is scored on a text of its own: the lines that it covers, joined by line feeds and cut
behind the brace that closes it. `Excerpt` relates the lines of that text to those of the source
from the first covered line on. Tokens of the excerpt are tokens of the source, since a cut behind a
brace divides no token. A question mark that is answered in the excerpt is answered in the source,
where other line breaks stand between the lines and more text behind them. And the braces of the
excerpt are the first ones of the source from there on.

## Main definitions

* `Excerpt` — the first of some lines, the last of them possibly cut

## Main results

* `Excerpt.textDecisions_le` — an excerpt has no more decisions than its lines in the source
* `Excerpt.braces_isPrefix` — and no other braces
* `Declaration.Covers.excerpt` — the text of a declaration is an excerpt
-/

namespace SourceMetrics

open Text Scan

/-- The texts are the bodies of the first of some lines; the last one may be cut behind
a closing brace. -/
inductive Excerpt : List (List Char) → List Line → Prop
  | whole (l : Line) (more : List Line) : Excerpt [l.body] (l :: more)
  | cut {l : Line} {xs ys : List Char} (body_eq : l.body = xs ++ '\x7d' :: ys)
      (more : List Line) : Excerpt [xs ++ ['\x7d']] (l :: more)
  | cons {bodies : List (List Char)} {ls : List Line} (l : Line) (rest : Excerpt bodies ls) :
      Excerpt (l.body :: bodies) (l :: ls)

namespace Excerpt

variable {bodies : List (List Char)} {ls : List Line}

theorem bodies_ne_nil (h : Excerpt bodies ls) : bodies ≠ [] := by
  cases h <;> exact List.cons_ne_nil _ _

theorem lines_ne_nil (h : Excerpt bodies ls) : ls ≠ [] := by
  cases h <;> exact List.cons_ne_nil _ _

end Excerpt

theorem joinLines_cons {bodies : List (List Char)} (h : bodies ≠ []) (body : List Char) :
    joinLines (body :: bodies) = body ++ '\n' :: joinLines bodies := by
  cases bodies with
  | nil => exact absurd rfl h
  | cons next rest => rfl

theorem unseen_nil : Ternary.Unseen ([] : List Char).head? := ⟨by simp, fun _ => rfl⟩

theorem unseen_closeBrace (zs : List Char) : Ternary.Unseen ('\x7d' :: zs).head? :=
  Ternary.unseen_of_ne (by decide) (by decide) (by decide) (by decide)

namespace Scan

/-- A question mark that is answered in a line cut behind a closing brace is answered in
the whole line. -/
theorem answered_of_cut {xs : List Char} {column : Nat}
    (hmem : (column, Token.question) ∈ Token.scan xs) (ys tail : List Char)
    (hanswered : answered (xs ++ ['\x7d']) [] column = true) :
    answered (xs ++ '\x7d' :: ys) tail column = true := by
  obtain ⟨pre, post, rfl, rfl, -⟩ := Token.exists_of_mem_scan_question hmem
  have hpost := (Ternary.prolongs_closeBrace ('\x7d' :: (ys ++ tail))).append (unseen_closeBrace _)
    (unseen_closeBrace _) post
  simp only [List.append_assoc, List.cons_append, isSome_answered_append] at hanswered ⊢
  exact hpost _ hanswered

/-- A line that is cut behind a closing brace has no more decisions than the whole line. -/
theorem decisions_cut_le (xs ys tail : List Char) (rules : CountingRules) :
    decisions rules (xs ++ ['\x7d']) [] ≤ decisions rules (xs ++ '\x7d' :: ys) tail := by
  rw [decisions, decisions, Token.scan_append_closeBrace, Token.scan_append_closeBrace,
    List.countP_append, List.countP_append]
  exact Nat.add_le_add (countP_decides_le (fun column hmem => answered_of_cut hmem ys tail) rules)
    (Nat.zero_le _)

/-- The decisions of a text without line breaks. -/
theorem textDecisions_of_no_break {body : List Char}
    (h : ∀ c ∈ body, isLineBreak c = false) (rules : CountingRules) :
    textDecisions rules body = decisions rules body [] := by
  rw [textDecisions, Line.split_of_no_break h, Line.unfinished]
  split
  next hnil => subst hnil; rfl
  next => rfl

end Scan

namespace Excerpt

variable {bodies : List (List Char)} {ls : List Line}

/-- What is answered in an excerpt is answered in the source. -/
theorem prolongs (h : Excerpt bodies ls) (hls : Line.Chained ls) :
    Ternary.Prolongs (joinLines bodies) (Line.text ls) := by
  induction h with
  | whole l more =>
    have hend := (Ternary.prolongs_nil (l.ending ++ Line.text more)).append unseen_nil hls.unseen
      l.body
    rwa [List.append_nil, ← Line.text_cons] at hend
  | @cut l xs ys body_eq more =>
    have hend :=
      (Ternary.prolongs_closeBrace ('\x7d' :: (ys ++ (l.ending ++ Line.text more)))).append
        (unseen_closeBrace _) (unseen_closeBrace _) xs
    rw [joinLines, Line.text_cons, body_eq, List.append_assoc, List.cons_append]
    exact hend
  | @cons bodies ls l rest ih =>
    obtain ⟨-, hending, hlast, hrest⟩ := id hls
    have hne : l.ending ≠ [] := fun hnil => rest.lines_ne_nil (hlast hnil)
    rw [joinLines_cons rest.bodies_ne_nil, Line.text_cons]
    exact ((ih hrest).lineBreak hne hending).append (Ternary.unseen_of_isLineBreak (by decide))
      hls.unseen l.body

/-- An excerpt has no more decisions than its lines have in the source. -/
theorem textDecisions_le (h : Excerpt bodies ls) (hls : Line.Chained ls) (rules : CountingRules) :
    textDecisions rules (joinLines bodies) ≤
      Number.total ((lineDecisions rules ls).take bodies.length) := by
  induction h with
  | whole l more =>
    have hline := decisions_le (Ternary.prolongs_nil _) unseen_nil hls.unseen rules l.body
    rw [joinLines, textDecisions_of_no_break hls.1]
    simpa using hline
  | @cut l xs ys body_eq more =>
    have hbody : ∀ c ∈ xs ++ ['\x7d'], isLineBreak c = false := by
      intro c hc
      refine hls.1 c ?_
      rw [body_eq, List.append_cons]
      exact List.mem_append_left _ hc
    have hline := decisions_cut_le xs ys (l.ending ++ Line.text more) rules
    rw [joinLines, textDecisions_of_no_break hbody]
    simpa [body_eq] using hline
  | @cons bodies ls l rest ih =>
    obtain ⟨hbody, hending, hlast, hrest⟩ := id hls
    have hne : l.ending ≠ [] := fun hnil => rest.lines_ne_nil (hlast hnil)
    have hline := decisions_le ((rest.prolongs hrest).lineBreak hne hending)
      (Ternary.unseen_of_isLineBreak (by decide)) hls.unseen rules l.body
    rw [textDecisions, joinLines_cons rest.bodies_ne_nil, Line.split_body_append hbody,
      lineDecisions_cons, Line.text_split, lineDecisions_cons, List.length_cons,
      List.take_succ_cons, Number.total_cons, Number.total_cons]
    exact Nat.add_le_add hline (ih hrest)

/-- The braces of an excerpt are the first ones of its lines. -/
theorem braces_isPrefix (h : Excerpt bodies ls) (hls : Line.Chained ls) :
    (joinLines bodies).filter isBrace <+: (Line.text ls).filter isBrace := by
  induction h with
  | whole l more =>
    rw [joinLines, Line.text_cons]
    exact (List.prefix_append _ _).filter isBrace
  | @cut l xs ys body_eq more =>
    have hstart : xs ++ ['\x7d'] <+: xs ++ '\x7d' :: ys := ⟨ys, by simp⟩
    rw [joinLines, Line.text_cons, body_eq]
    exact (hstart.trans (List.prefix_append _ _)).filter isBrace
  | @cons bodies ls l rest ih =>
    obtain ⟨-, hending, -, hrest⟩ := hls
    have hbreaks : ∀ ending : List Char, (∀ c ∈ ending, isLineBreak c = true) →
        ending.filter isBrace = [] := by
      intro ending hbreak
      rw [List.filter_eq_nil_iff]
      intro c hc hbrace
      rcases isBrace_iff.mp hbrace with rfl | rfl <;> exact absurd (hbreak _ hc) (by decide)
    rw [joinLines_cons rest.bodies_ne_nil, Line.text_cons, ← List.singleton_append]
    simp only [List.filter_append, hbreaks _ hending, hbreaks ['\n'] (by simp [isLineBreak]),
      List.nil_append]
    exact (List.prefix_append_right_inj _).mpr (ih hrest)

end Excerpt

/-! ### The text of a declaration -/

theorem mapLast_cons {α : Type} (f : α → α) {x : α} {rest : List α} (h : rest ≠ []) :
    mapLast f (x :: rest) = x :: mapLast f rest := by
  cases rest with
  | nil => exact absurd rfl h
  | cons y rest => rfl

theorem length_mapLast {α : Type} (f : α → α) (xs : List α) :
    (mapLast f xs).length = xs.length := by
  fun_induction mapLast f xs <;> simp_all

theorem sliceBound_natCast (length n : Nat) : sliceBound length (n : Int) = min n length := by
  rw [sliceBound, if_neg (by omega), Int.toNat_natCast]

theorem slice_natCast {α : Type} (a b : Nat) (xs : List α) :
    slice (a : Int) (b : Int) xs = (xs.take b).drop a := by
  rw [slice, sliceBound_natCast, sliceBound_natCast,
    List.take_eq_take_iff.mpr (by omega : _ = min b xs.length)]
  by_cases ha : a ≤ xs.length
  · rw [Nat.min_eq_left ha]
  · rw [List.drop_eq_nil_of_le (by rw [List.length_take]; omega),
      List.drop_eq_nil_of_le (by rw [List.length_take]; omega)]

namespace Declaration

variable {lines : List (List Char)} {a b : Nat} {d : Declaration}

theorem mapFirst_padFirst (h : d.columnStart = 0) (texts : List (List Char)) :
    mapFirst d.padFirst texts = texts := by
  cases texts with
  | nil => rfl
  | cons line rest => simp [mapFirst, padFirst, h, sliceFrom, sliceBound]

/-- The text of a declaration that covers some lines. -/
theorem Covers.spanText_eq (h : d.Covers lines a b) :
    d.spanText lines = joinLines (mapLast d.cutLast ((lines.drop a).take (b - a + 1))) := by
  have hle := h.le
  rw [spanText, mapFirst_padFirst h.columnStart, h.lineStart, h.lineEnd, Int.add_sub_cancel,
    ← Int.natCast_succ, slice_natCast, List.drop_take, show b + 1 - a = b - a + 1 by omega]

theorem cutLast_of_closesAt {xs ys : List Char}
    (h : d.columnEnd = some ((xs.length + 1 : Nat) : Int)) :
    d.cutLast (xs ++ '\x7d' :: ys) = xs ++ ['\x7d'] := by
  have hbound : min (xs.length + 1) (xs ++ '\x7d' :: ys).length = xs.length + 1 := by
    rw [List.length_append, List.length_cons]
    omega
  rw [cutLast, h]
  simp only [sliceTo, sliceBound_natCast, hbound]
  rw [List.take_length_add_append, List.take_one, List.head?_cons, Option.toList_some]

/-- The lines of a source up to number `n`, the last one cut as the declaration says. -/
theorem excerpt_mapLast {ls : List Line} {n : Nat} (hn : n < ls.length)
    (hcut : ∀ k ∈ d.columnEnd, ∃ line m, (ls.map Line.body)[n]? = some line ∧ ClosesAt line m ∧
      k = (m : Int)) :
    Excerpt (mapLast d.cutLast ((ls.map Line.body).take (n + 1))) ls := by
  induction ls generalizing n with
  | nil => exact absurd hn (Nat.not_lt_zero n)
  | cons l rest ih =>
    rw [List.map_cons, List.take_succ_cons]
    cases n with
    | zero =>
      rw [List.take_zero, mapLast]
      cases hcolumn : d.columnEnd with
      | none =>
        rw [cutLast, hcolumn]
        exact .whole l rest
      | some k =>
        obtain ⟨line, m, hline, ⟨xs, ys, rfl, rfl⟩, rfl⟩ := hcut k hcolumn
        have hbody : l.body = xs ++ '\x7d' :: ys := by simpa using hline
        rw [hbody, cutLast_of_closesAt hcolumn]
        exact .cut hbody rest
    | succ n =>
      have hrest := ih (Nat.lt_of_succ_lt_succ hn) hcut
      rw [mapLast_cons]
      · exact .cons l hrest
      · intro hnil
        rw [hnil] at hrest
        exact hrest.bodies_ne_nil rfl

/-- **The text of a declaration is an excerpt** of the lines from its first one on. -/
theorem Covers.excerpt {ls : List Line} (h : d.Covers (ls.map Line.body) a b) (hb : b < ls.length) :
    ∃ bodies, d.spanText (ls.map Line.body) = joinLines bodies ∧ bodies.length = b + 1 - a ∧
      Excerpt bodies (ls.drop a) := by
  have hle := h.le
  refine ⟨_, h.spanText_eq, ?_, ?_⟩
  · rw [length_mapLast, List.length_take, List.length_drop, List.length_map]
    omega
  · rw [← List.map_drop]
    refine excerpt_mapLast (by rw [List.length_drop]; omega) fun k hk => ?_
    obtain ⟨line, m, hline, hcloses, rfl⟩ := h.columnEnd k hk
    refine ⟨line, m, ?_, hcloses, rfl⟩
    rw [List.map_drop, List.getElem?_drop, show a + (b - a) = b by omega, hline]

end Declaration

end SourceMetrics
