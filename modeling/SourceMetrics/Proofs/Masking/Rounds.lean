import Mathlib.Logic.Function.Iterate
import SourceMetrics.Proofs.Masking.LineEndings

/-!
# Masking in rounds

A text is masked in rounds: each takes the comment or literal at the front of what is left, or else
one character, and shows its masked form. Nothing in a round sees to it that it takes anything. A
mark without characters opens a comment wherever the text stands, and a line comment gives back a
carriage return in front of the line feed; a round that takes nothing leaves everything as it was,
and so do all later ones.

With proper marks no round stands still. The rounds are then as many as the pieces of the text, so
at most as many as its characters, and what they show is the masked text.

What a round does not take for a comment or a literal it shows as it is. So a mark of a comment that
no literal shows does not come up in a masked text at all.

## Main definitions

* `Masking.Rules.Proper` — marks with which every round takes something
* `Masking.Progress`, `Masking.Progress.round` — what is shown and what is left, and one round

## Main results

* `Masking.Rules.Proper.text_ne_nil` — every round takes something
* `Masking.iterate_round` — the rounds end, with the masked text
* `Masking.mark_not_infix_mask` — a masked text shows no mark of a comment
* `mask_in_rounds` — masking ends and keeps every character in its place
-/

namespace SourceMetrics

namespace Masking

/-! ### Proper marks -/

/-- Rules whose marks have characters, and whose line comments do not start with the end
of a line. -/
structure Rules.Proper (rules : Rules) : Prop where
  comment : ∀ marks ∈ rules.blockComments, marks.1 ≠ []
  line : ∀ marker ∈ rules.lineComments,
    marker ≠ [] ∧ marker.head? ≠ some '\r' ∧ marker.head? ≠ some '\n'
  quote : ∀ mark ∈ rules.multilineQuotes ++ rules.quotes, mark ≠ []

theorem mem_insertQuote {q r : Quote} {rest : List Quote} :
    r ∈ insertQuote q rest ↔ r = q ∨ r ∈ rest := by
  induction rest with
  | nil => simp [insertQuote]
  | cons s rest ih =>
    rw [insertQuote]
    split
    · exact List.mem_cons
    · rw [List.mem_cons, ih, List.mem_cons, or_left_comm]

/-- The order of the quotes leaves none out. -/
theorem mark_mem_of_mem_delimiters {rules : Rules} {q : Quote} (h : q ∈ rules.delimiters) :
    q.mark ∈ rules.multilineQuotes ++ rules.quotes := by
  have hsorted : ∀ quotes : List Quote, q ∈ quotes.foldr insertQuote [] → q ∈ quotes := by
    intro quotes hq
    induction quotes with
    | nil => exact hq
    | cons r rest ih =>
      rcases mem_insertQuote.mp hq with rfl | hq
      · exact List.mem_cons_self
      · exact List.mem_cons_of_mem r (ih hq)
  rcases List.mem_append.mp (hsorted _ h) with hq | hq
  · obtain ⟨mark, hmark, rfl⟩ := List.mem_map.mp hq
    exact List.mem_append_left _ hmark
  · obtain ⟨mark, hmark, rfl⟩ := List.mem_map.mp hq
    exact List.mem_append_right _ hmark

/-- What a comment or a literal at the front of a text can be. -/
theorem piece?_cases {rules : Rules} {cs : List Char} {p : Piece} (h : piece? rules cs = some p) :
    (∃ marks ∈ rules.blockComments, ∃ inner,
        p = (Delimiter.comment marks).enclose rules.escape inner) ∨
      (∃ marker ∈ rules.lineComments, marker <+: cs ∧
        p = .lineComment (cs.take (lineCommentLength cs))) ∨
      ∃ quote : Quote, quote.mark ∈ rules.multilineQuotes ++ rules.quotes ∧ ∃ inner,
        p = (Delimiter.literal quote).enclose rules.escape inner := by
  obtain ⟨o, ho, hp⟩ := List.exists_of_findSome?_eq_some h
  rw [Rules.openers, List.mem_append, List.mem_append] at ho
  rcases ho with ho | ho | ho
  · obtain ⟨marks, hmarks, rfl⟩ := List.mem_map.mp ho
    rw [Opener.piece?, Option.ite_none_right_eq_some] at hp
    exact .inl ⟨marks, hmarks, _, (Option.some.inj hp.2).symm⟩
  · obtain ⟨marker, hmarker, rfl⟩ := List.mem_map.mp ho
    rw [Opener.piece?, Option.ite_none_right_eq_some] at hp
    exact .inr (.inl ⟨marker, hmarker, List.isPrefixOf_iff_prefix.mp hp.1,
      (Option.some.inj hp.2).symm⟩)
  · obtain ⟨quote, hquote, rfl⟩ := List.mem_map.mp ho
    rw [Opener.piece?, Option.ite_none_right_eq_some] at hp
    exact .inr (.inr ⟨quote, mark_mem_of_mem_delimiters hquote, _, (Option.some.inj hp.2).symm⟩)

/-- A line comment takes something unless it starts with the end of its line. -/
theorem take_lineCommentLength_ne_nil {c : Char} (hreturn : c ≠ '\r') (hfeed : c ≠ '\n')
    (rest : List Char) : (c :: rest).take (lineCommentLength (c :: rest)) ≠ [] := by
  have hline : (c :: rest).takeWhile (· ≠ '\n') = c :: rest.takeWhile (· ≠ '\n') :=
    List.takeWhile_cons_of_pos (by simpa using hfeed)
  intro hnil
  rcases takeWhile_eq_lineComment (c :: rest) with ⟨htake, -⟩ | htake
  · rw [hnil, hline] at htake
    cases htake
  · rw [hnil, hline] at htake
    exact hreturn (List.cons_eq_cons.mp htake).1

/-- **With proper marks every round takes something.** -/
theorem Rules.Proper.text_ne_nil {rules : Rules} (h : rules.Proper) {cs : List Char} {p : Piece}
    (hp : piece? rules cs = some p) : p.text ≠ [] := by
  rcases piece?_cases hp with
    ⟨marks, hmarks, inner, rfl⟩ | ⟨marker, hmarker, hstart, rfl⟩ | ⟨quote, hquote, inner, rfl⟩
  · exact List.append_ne_nil_of_left_ne_nil (h.comment marks hmarks) _
  · obtain ⟨hne, hreturn, hfeed⟩ := h.line marker hmarker
    obtain ⟨c, marker, rfl⟩ := List.exists_cons_of_ne_nil hne
    obtain ⟨rest, rfl⟩ := hstart
    exact take_lineCommentLength_ne_nil (fun hc => hreturn (congrArg some hc))
      (fun hc => hfeed (congrArg some hc)) _
  · exact List.append_ne_nil_of_left_ne_nil (h.quote quote.mark hquote) _

/-! ### Rounds -/

/-- Where masking stands: the masked form of what has been read, and the text that has not. -/
structure Progress where
  shown : List Char
  left : List Char
  deriving DecidableEq, Repr

/-- One round: the comment or literal at the front, or else one character. At the end of the text
there is nothing to do. -/
def Progress.round (rules : Rules) (p : Progress) : Progress :=
  match p.left with
  | [] => p
  | c :: rest =>
    match region? rules (c :: rest) with
    | some masked => ⟨p.shown ++ masked, (c :: rest).drop masked.length⟩
    | none => ⟨p.shown ++ [c], rest⟩

/-- A round takes the first piece of what is left. -/
theorem round_cons {rules : Rules} (h : rules.Proper) (shown : List Char) (c : Char)
    (rest : List Char) :
    Progress.round rules ⟨shown, c :: rest⟩ =
      ⟨shown ++ (first rules c rest).masked,
        rest.drop ((first rules c rest).text.length - 1)⟩ := by
  simp only [Progress.round, region?_eq, first]
  cases hpiece : piece? rules (c :: rest) with
  | none => rfl
  | some p =>
    have hne := h.text_ne_nil hpiece
    have hpos : p.text.length = p.text.length - 1 + 1 :=
      (Nat.succ_pred_eq_of_pos (List.length_pos_iff.mpr hne)).symm
    simp only [Option.map_some, if_neg hne, p.length_masked]
    rw [hpos, List.drop_succ_cons, Nat.add_sub_cancel]

/-- **The rounds end with the masked text**, after one round for each piece. -/
theorem iterate_round {rules : Rules} (h : rules.Proper) (shown cs : List Char) :
    (Progress.round rules)^[(pieces rules cs).length] ⟨shown, cs⟩ =
      ⟨shown ++ mask rules cs, []⟩ := by
  fun_induction pieces rules cs generalizing shown with
  | case1 => simp [mask, maskFrom]
  | case2 c rest ih =>
    rw [List.length_cons, Function.iterate_succ_apply, round_cons h, ih, List.append_assoc,
      ← mask_cons]

/-- A text has at most as many pieces as characters. -/
theorem length_pieces_le (rules : Rules) (cs : List Char) :
    (pieces rules cs).length ≤ cs.length := by
  fun_induction pieces rules cs with
  | case1 => exact Nat.le_refl 0
  | case2 c rest ih =>
    rw [List.length_drop] at ih
    rw [List.length_cons, List.length_cons]
    omega

/-- A round that takes nothing is repeated for ever: a line feed that opens a line comment. -/
example : Progress.round { lineComments := [['\n']] } ⟨[], ['\n', 'a']⟩ = ⟨[], ['\n', 'a']⟩ := by
  decide

/-! ### What a masked text shows -/

section Shown

variable {rules : Rules} {c : Char}

theorem notMem_blankOut (hc : c ∉ [' ', '\n', '\r']) (cs : List Char) : c ∉ blankOut cs := by
  rw [blankOut, List.mem_map]
  rintro ⟨d, -, rfl⟩
  refine hc ?_
  split
  next hbreak => exact List.mem_cons_of_mem _ (by simpa using hbreak)
  next => exact List.mem_cons_self

/-- A comment or a literal shows blanks, ends of lines and quotes. -/
theorem notMem_masked (hc : c ∉ [' ', '\n', '\r'])
    (hquotes : ∀ mark ∈ rules.multilineQuotes ++ rules.quotes, c ∉ mark)
    {cs : List Char} {p : Piece} (hp : piece? rules cs = some p) : c ∉ p.masked := by
  rcases piece?_cases hp with
    ⟨marks, -, inner, rfl⟩ | ⟨marker, -, -, rfl⟩ | ⟨quote, hquote, inner, rfl⟩
  · simp only [Delimiter.enclose, Piece.masked, Delimiter.shown, List.mem_append,
      notMem_blankOut hc, or_false, not_false_eq_true]
  · intro hmem
    exact hc (List.eq_of_mem_replicate hmem ▸ List.mem_cons_self)
  · have hmark := hquotes quote.mark hquote
    simp only [Delimiter.enclose, Piece.masked, Delimiter.shown, Delimiter.opening,
      Delimiter.closing, List.mem_append, notMem_blankOut hc, hmark, false_or]
    split
    · exact hmark
    · exact List.not_mem_nil

/-- A character that no literal shows is shown only where it stands in code. -/
theorem exists_of_mask_eq_append (hc : c ∉ [' ', '\n', '\r'])
    (hquotes : ∀ mark ∈ rules.multilineQuotes ++ rules.quotes, c ∉ mark) (hrules : rules.Proper)
    {cs xs ys : List Char} (h : mask rules cs = xs ++ c :: ys) :
    ∃ rest, piece? rules (c :: rest) = none ∧ ys = mask rules rest := by
  fun_induction pieces rules cs generalizing xs with
  | case1 => exact absurd h.symm (List.append_ne_nil_of_right_ne_nil _ (List.cons_ne_nil c ys))
  | case2 d rest ih =>
    cases hpiece : piece? rules (d :: rest) with
    | some p =>
      -- the character is not in the first piece, so it is behind it
      have hfirst : first rules d rest = p := by
        simp only [first, hpiece, if_neg (hrules.text_ne_nil hpiece)]
      have hshown := notMem_masked hc hquotes hpiece
      rw [mask_cons, hfirst] at h
      rw [hfirst] at ih
      rcases List.append_eq_append_iff.mp h with ⟨more, -, hmore⟩ | ⟨more, hmasked, hmore⟩
      · exact ih hmore
      · cases more with
        | nil => exact ih (show _ = [] ++ c :: ys from hmore.symm)
        | cons e more =>
          obtain ⟨rfl, -⟩ := List.cons_eq_cons.mp hmore
          exact absurd (by simp [hmasked]) hshown
    | none =>
      have hfirst : first rules d rest = .code d := by simp only [first, hpiece]
      have hnext : rest.drop ((first rules d rest).text.length - 1) = rest := by rw [hfirst]; rfl
      rw [hnext] at ih
      rw [mask_of_piece?_eq_none hpiece] at h
      cases xs with
      | nil =>
        obtain ⟨rfl, rfl⟩ := List.cons_eq_cons.mp h
        exact ⟨rest, hpiece, rfl⟩
      | cons e xs => exact ih (List.cons_eq_cons.mp h).2

/-- **A masked text shows no mark of a comment**, if its first character is in no quote. -/
theorem mark_not_infix_mask (hc : c ∉ [' ', '\n', '\r'])
    (hquotes : ∀ mark ∈ rules.multilineQuotes ++ rules.quotes, c ∉ mark) (hrules : rules.Proper)
    {o : Opener} (ho : o ∈ rules.openers) {d : Char} (hd : d ≠ ' ') (hmark : o.mark = [c, d])
    (cs : List Char) : ¬[c, d] <:+: mask rules cs := by
  rintro ⟨xs, zs, h⟩
  rw [List.append_assoc] at h
  obtain ⟨rest, hnone, hrest⟩ := exists_of_mask_eq_append hc hquotes hrules h.symm
  have hveils := forall₂_veils_mask rules rest
  rw [← hrest] at hveils
  cases hveils with
  | @cons _ e _ more hde _ =>
    obtain rfl | ⟨hspace, -⟩ := hde
    · -- the mark stands in the text, and there it would have opened a comment
      have hopens : (o.piece? rules.escape (c :: d :: more)).isSome = true := by
        rw [Opener.isSome_piece?_iff, hmark]
        simp
      rw [List.findSome?_eq_none_iff.mp hnone o ho] at hopens
      cases hopens
    · exact hd hspace

end Shown

theorem proper_of_mem_builtin {s : Scanner} (h : s ∈ builtinScanners) : s.dialect.rules.Proper := by
  simp only [builtinScanners, List.mem_cons, List.not_mem_nil, or_false] at h
  rcases h with rfl | rfl | rfl | rfl <;> exact ⟨by decide, by decide, by decide⟩

end Masking

open Masking

/-- No scanner of the library shows a mark of a comment. -/
theorem Scanner.mark_not_infix_masked {s : Scanner} (h : s ∈ builtinScanners) (cs : List Char) :
    ¬['/', '/'] <:+: mask s.dialect.rules cs ∧ ¬['/', '*'] <:+: mask s.dialect.rules cs := by
  have hmarks : ∀ s ∈ builtinScanners,
      (∀ mark ∈ s.dialect.rules.multilineQuotes ++ s.dialect.rules.quotes, '/' ∉ mark) ∧
        .line ['/', '/'] ∈ s.dialect.rules.openers ∧
        .delimiter (.comment (['/', '*'], ['*', '/'])) ∈ s.dialect.rules.openers := by decide
  obtain ⟨hquotes, hline, hcomment⟩ := hmarks s h
  have hproper := proper_of_mem_builtin h
  exact ⟨mark_not_infix_mask (by decide) hquotes hproper hline (by decide) rfl cs,
    mark_not_infix_mask (by decide) hquotes hproper hcomment (by decide) rfl cs⟩

/-- **Masking ends and keeps every character in its place.** With marks that have characters and
line comments that do not start with the end of a line, the rounds of masking end, after no more of
them than the text has characters. The masked text is as long as the text and has each of its
characters, or a space for one that is no line feed. With the rules of the library it shows no mark
of a comment. -/
theorem mask_in_rounds :
    (∀ rules : Rules, (∀ marks ∈ rules.blockComments, marks.1 ≠ []) →
      (∀ marker ∈ rules.lineComments,
        marker ≠ [] ∧ marker.head? ≠ some '\r' ∧ marker.head? ≠ some '\n') →
      (∀ mark ∈ rules.multilineQuotes ++ rules.quotes, mark ≠ []) → ∀ cs : List Char,
        (∃ n ≤ cs.length, (Progress.round rules)^[n] ⟨[], cs⟩ = ⟨mask rules cs, []⟩) ∧
        (mask rules cs).length = cs.length ∧
        ∀ (k : Nat) (c : Char), cs[k]? = some c →
          (mask rules cs)[k]? = some c ∨ (mask rules cs)[k]? = some ' ' ∧ c ≠ '\n') ∧
    ∀ s ∈ builtinScanners, ∀ cs : List Char,
      ¬['/', '/'] <:+: mask s.dialect.rules cs ∧ ¬['/', '*'] <:+: mask s.dialect.rules cs := by
  refine ⟨fun rules hcomment hline hquote cs => ?_, fun s hs cs => s.mark_not_infix_masked hs cs⟩
  have hproper : rules.Proper := ⟨hcomment, hline, hquote⟩
  have hveils := forall₂_veils_mask rules cs
  refine ⟨⟨_, length_pieces_le rules cs, iterate_round hproper [] cs⟩, hveils.length_eq, ?_⟩
  intro k c hk
  obtain ⟨hlt, rfl⟩ := List.getElem?_eq_some_iff.mp hk
  have hlt' : k < (mask rules cs).length := by rwa [hveils.length_eq]
  rw [List.getElem?_eq_getElem hlt', Option.some.injEq, Option.some.injEq]
  exact hveils.get hlt' hlt

/-- A marker that holds a line feed, a comment without its end and a literal that ends with its
escape character. -/
theorem mask_in_rounds_unfinished :
    let rules : Rules :=
      { lineComments := [['#', '\n', '#']], blockComments := [(['('], [])]
        multilineQuotes := [['\x60']] }
    let cs := "(a`b\n#\n#`c\\".toList
    ((∀ marks ∈ rules.blockComments, marks.1 ≠ []) ∧
      (∀ marker ∈ rules.lineComments,
        marker ≠ [] ∧ marker.head? ≠ some '\r' ∧ marker.head? ≠ some '\n') ∧
      (∀ mark ∈ rules.multilineQuotes ++ rules.quotes, mark ≠ [])) ∧
      ∃ n ≤ cs.length, (Progress.round rules)^[n] ⟨[], cs⟩ = ⟨mask rules cs, []⟩ := by
  intro rules cs
  have hcomment : ∀ marks ∈ rules.blockComments, marks.1 ≠ [] := by decide
  have hline : ∀ marker ∈ rules.lineComments,
      marker ≠ [] ∧ marker.head? ≠ some '\r' ∧ marker.head? ≠ some '\n' := by decide
  have hquote : ∀ mark ∈ rules.multilineQuotes ++ rules.quotes, mark ≠ [] := by decide
  exact ⟨⟨hcomment, hline, hquote⟩, (mask_in_rounds.1 rules hcomment hline hquote cs).1⟩

end SourceMetrics
