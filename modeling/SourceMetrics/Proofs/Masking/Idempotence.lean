import SourceMetrics.Proofs.Masking.Rounds

/-!
# Masking a masked text

A masked text may be masked again, and is left as it is. The second run goes over the same pieces.
Where the first run found a comment there are blanks, and no mark starts with one. Where it found a
literal, the quotes stand where they stood, and the first thing behind the opening quote that can
end the literal is what ended it before: its contents are blanks now, and hide no quote and no
escape character.

That no mark shows up that was not there before is the relation `Veils` once more. Every character
of a masked text is the character of the source or a space, so a mark without spaces that stands in
the masked text stands in the source, at the same place. It does not matter which pieces meet there.

One thing the second run sees otherwise. An escape character takes a line feed into a literal that
may not span lines. The line feed is kept and the escape character is not, so the literal ends there
the next time.

## Main definitions

* `Masking.Rules.Visible` — marks without blanks
* `Masking.Quote.Ends` — a literal ends in front of a text

## Main results

* `Masking.isPrefix_of_veils` — no mark shows up in a masked text
* `Masking.mask_masked_append` — the masked form of a piece is left as it is
* `Masking.staysInLine_of_no_escaped_lineFeed` — without escaped line feeds literals stay in line
* `mask_mask` — a masked text is left as it is
* `Scanner.mask_again` — so are the masked texts of the library, and complexity does not change
-/

namespace SourceMetrics

namespace Masking

/-! ### Marks without blanks -/

/-- What masking writes for a character it hides. -/
def hidden : List Char := [' ', '\n', '\r']

/-- Rules whose marks and escape character are not among what masking writes for hidden
characters. -/
structure Rules.Visible (rules : Rules) : Prop where
  inLine : rules.InLine
  mark : ∀ o ∈ rules.openers, ' ' ∉ o.mark
  escape : rules.escape ≠ some ' '

theorem mem_hidden_of_mem_blankOut {c : Char} {cs : List Char} (h : c ∈ blankOut cs) :
    c ∈ hidden := by
  by_contra hc
  exact notMem_blankOut hc cs h

theorem blankOut_blankOut (cs : List Char) : blankOut (blankOut cs) = blankOut cs := by
  rw [blankOut, blankOut, List.map_map]
  refine List.map_congr_left fun c _ => ?_
  by_cases hc : (c = '\n' || c = '\r') = true
  · simp only [Function.comp_apply, if_pos hc]
  · simp only [Function.comp_apply, if_neg hc]
    rfl

/-- A line feed is hidden by itself only. -/
theorem lineFeed_mem_blankOut {cs : List Char} (h : '\n' ∈ blankOut cs) : '\n' ∈ cs := by
  obtain ⟨c, hc, heq⟩ := List.mem_map.mp h
  split at heq
  · exact heq ▸ hc
  · cases heq

/-- **No mark shows up in a masked text** that is not in the source. -/
theorem isPrefix_of_veils {mark ms cs : List Char} (hmark : ' ' ∉ mark)
    (hveils : List.Forall₂ Veils ms cs) (h : mark <+: ms) : mark <+: cs := by
  induction mark generalizing ms cs with
  | nil => exact List.nil_prefix
  | cons m mark ih =>
    rw [List.mem_cons, not_or] at hmark
    obtain ⟨more, rfl⟩ := h
    cases hveils with
    | @cons _ c _ rest hm hrest =>
      obtain rfl | ⟨hspace, -⟩ := hm
      · obtain ⟨more', hmore'⟩ := ih hmark.2 hrest (List.prefix_append _ _)
        exact ⟨more', by rw [← hmore', List.cons_append]⟩
      · exact absurd hspace.symm hmark.1

section Visible

variable {rules : Rules} (hrules : rules.Visible)

include hrules

/-- What opens nothing in the source opens nothing in a masked form of it. -/
theorem piece?_eq_none_of_veils {ms cs : List Char} (hveils : List.Forall₂ Veils ms cs)
    (h : piece? rules cs = none) : piece? rules ms = none := by
  refine List.findSome?_eq_none_iff.mpr fun o ho => ?_
  rw [← Option.not_isSome_iff_eq_none, Opener.isSome_piece?_iff]
  intro hstart
  have hsource := isPrefix_of_veils (hrules.mark o ho) hveils (List.isPrefixOf_iff_prefix.mp hstart)
  have hsome : (o.piece? rules.escape cs).isSome = true :=
    Opener.isSome_piece?_iff.mpr (List.isPrefixOf_iff_prefix.mpr hsource)
  rw [List.findSome?_eq_none_iff.mp h o ho] at hsome
  cases hsome

/-- No mark starts with what masking writes for a hidden character. -/
theorem not_isPrefixOf_hidden {o : Opener} (ho : o ∈ rules.openers) {c : Char} (hc : c ∈ hidden)
    (rest : List Char) : ¬o.mark.isPrefixOf (c :: rest) = true := by
  have hinLine := hrules.inLine.mark ho
  rcases List.mem_cons.mp hc with rfl | hc
  · intro hstart
    obtain ⟨m, mark, hmark⟩ := List.exists_cons_of_ne_nil hinLine.1
    obtain ⟨more, hmore⟩ := List.isPrefixOf_iff_prefix.mp hstart
    rw [hmark] at hmore
    obtain rfl : m = ' ' := (List.cons_eq_cons.mp hmore).1
    exact hrules.mark o ho (hmark ▸ List.mem_cons_self)
  · rw [hinLine.isPrefixOf_break (by simpa using hc)]
    exact Bool.false_ne_true

/-- Hidden characters are left as they are. -/
theorem mask_hidden_append {blanks : List Char} (h : ∀ c ∈ blanks, c ∈ hidden) (rest : List Char) :
    mask rules (blanks ++ rest) = blanks ++ mask rules rest := by
  induction blanks with
  | nil => rfl
  | cons c blanks ih =>
    have hnone : piece? rules (c :: (blanks ++ rest)) = none := by
      refine List.findSome?_eq_none_iff.mpr fun o ho => ?_
      rw [← Option.not_isSome_iff_eq_none, Opener.isSome_piece?_iff]
      exact not_isPrefixOf_hidden hrules ho (h c List.mem_cons_self) _
    rw [List.cons_append, mask_of_piece?_eq_none hnone,
      ih fun d hd => h d (List.mem_cons_of_mem c hd), List.cons_append]

end Visible

/-! ### Literals -/

section Literal

variable {quote : Quote} {escape : Option Char}

/-- A literal ends where it can, or with the text. -/
theorem endsAt_drop_contentsLength (quote : Quote) (escape : Option Char) (cs : List Char) :
    cs.drop (contentsLength quote escape cs) = [] ∨
      quote.EndsAt (cs.drop (contentsLength quote escape cs)) := by
  induction cs using contents_induction quote escape with
  | nil => exact .inl rfl
  | ends cs hends =>
    rw [contentsLength_of_endsAt hends]
    exact .inr hends
  | escaped c d rest hends hc ih =>
    rw [contentsLength_of_escape hends hc, Nat.add_comm]
    exact ih
  | character c rest hends hc ih =>
    rw [contentsLength_of_not_escape hends hc, Nat.add_comm]
    exact ih

/-- Contents of hidden characters go on up to the first place where the literal can end. -/
theorem contentsLength_hidden {blanks after : List Char} (hblanks : ∀ c ∈ blanks, c ∈ hidden)
    (hquote : ∀ c ∈ hidden, ∀ rest, ¬quote.mark.isPrefixOf (c :: rest) = true)
    (hescape : ∀ c ∈ hidden, some c ≠ escape) (hspan : quote.multiline = false → '\n' ∉ blanks)
    (hafter : after = [] ∨ quote.EndsAt after) :
    contentsLength quote escape (blanks ++ after) = blanks.length := by
  induction blanks with
  | nil =>
    rcases hafter with rfl | hends
    · rfl
    · exact contentsLength_of_endsAt hends
  | cons c blanks ih =>
    have hc := hblanks c List.mem_cons_self
    have hends : ¬quote.EndsAt (c :: (blanks ++ after)) := by
      rintro (hstart | ⟨hfeed, hsingle⟩)
      · exact hquote c hc _ hstart
      · obtain rfl : c = '\n' := by simpa using hfeed
        exact hspan hsingle List.mem_cons_self
    rw [List.cons_append, contentsLength_of_not_escape hends fun heq => absurd heq (hescape c hc),
      ih (fun d hd => hblanks d (List.mem_cons_of_mem c hd))
        fun hsingle hmem => hspan hsingle (List.mem_cons_of_mem c hmem),
      List.length_cons, Nat.add_comm]

/-- A line feed in the contents of a literal that may not span lines is escaped. -/
theorem exists_escaped_lineFeed {cs : List Char} (hsingle : quote.multiline = false)
    (h : '\n' ∈ cs.take (contentsLength quote escape cs)) : ∃ e ∈ escape, [e, '\n'] <:+: cs := by
  induction cs using contents_induction quote escape with
  | nil => cases h
  | ends cs hends =>
    rw [contentsLength_of_endsAt hends] at h
    cases h
  | escaped c d rest hends hc ih =>
    rw [contentsLength_of_escape hends hc, Nat.add_comm, List.take_succ_cons,
      List.take_succ_cons] at h
    rcases List.mem_cons.mp h with rfl | h
    · exact absurd (.inr ⟨rfl, hsingle⟩) hends
    · rcases List.mem_cons.mp h with rfl | h
      · exact ⟨c, hc.symm, [], rest, rfl⟩
      · obtain ⟨e, he, hin⟩ := ih h
        exact ⟨e, he, hin.trans (List.suffix_append [c, d] rest).isInfix⟩
  | character c rest hends hc ih =>
    rw [contentsLength_of_not_escape hends hc, Nat.add_comm, List.take_succ_cons] at h
    rcases List.mem_cons.mp h with rfl | h
    · exact absurd (.inr ⟨rfl, hsingle⟩) hends
    · obtain ⟨e, he, hin⟩ := ih h
      exact ⟨e, he, hin.trans (List.suffix_cons c rest).isInfix⟩

end Literal

/-- **Without escaped line feeds, literals stay in their lines.** -/
theorem staysInLine_of_no_escaped_lineFeed {rules : Rules} {cs : List Char}
    (h : ∀ e ∈ rules.escape, ¬[e, '\n'] <:+: cs) : ∀ p ∈ pieces rules cs, p.StaysInLine := by
  intro p hp
  obtain ⟨pre, c, rest, rfl, rfl⟩ := exists_of_mem_pieces hp
  obtain hcode | ⟨hpiece, -⟩ := first_eq_or rules c rest
  · rw [hcode]
    trivial
  · obtain ⟨o, -, ho⟩ := List.exists_of_findSome?_eq_some hpiece
    cases o with
    | line marker =>
      rw [Opener.piece?, Option.ite_none_right_eq_some, Option.some.injEq] at ho
      rw [← ho.2]
      trivial
    | delimiter d =>
      rw [Opener.piece?, Option.ite_none_right_eq_some, Option.some.injEq] at ho
      rw [← ho.2, Delimiter.enclose]
      cases d with
      | comment marks => trivial
      | literal quote =>
        intro hsingle hmem
        obtain ⟨e, he, hin⟩ := exists_escaped_lineFeed hsingle hmem
        exact h e he (hin.trans ((List.drop_suffix _ _).isInfix.trans
          (List.suffix_append pre (c :: rest)).isInfix))

/-! ### Pieces -/

/-- Contents between marks are found by these marks. -/
theorem Opener.eq_delimiter_of_piece? {escape : Option Char} {cs contents : List Char} {o : Opener}
    {d : Delimiter} {closed : Bool} (h : o.piece? escape cs = some (.enclosed d contents closed)) :
    o = .delimiter d := by
  cases o with
  | line marker =>
    rw [piece?, Option.ite_none_right_eq_some] at h
    cases h.2
  | delimiter d' =>
    rw [piece?, Option.ite_none_right_eq_some] at h
    cases h.2
    rfl

/-- A literal ends in front of a text, with its closing quote or without one. -/
def Quote.Ends (quote : Quote) (closed : Bool) (rest : List Char) : Prop :=
  let after := (if closed then quote.mark else []) ++ rest
  (after = [] ∨ quote.EndsAt after) ∧ quote.mark.isPrefixOf after = closed

/-- A literal that is found ends in front of what follows it. -/
theorem Opener.ends_of_piece? {escape : Option Char} {cs rest contents : List Char} {quote : Quote}
    {closed : Bool} (h : (Opener.delimiter (.literal quote)).piece? escape cs =
      some (.enclosed (.literal quote) contents closed))
    (hcs : cs = (Piece.enclosed (.literal quote) contents closed).text ++ rest) :
    quote.Ends closed rest := by
  rw [piece?, Option.ite_none_right_eq_some, Option.some.injEq] at h
  obtain ⟨hopen, h⟩ := h
  obtain ⟨inner, rfl⟩ := List.isPrefixOf_iff_prefix.mp hopen
  rw [List.drop_left, Delimiter.enclose, Piece.enclosed.injEq] at h
  obtain ⟨-, hcontents, hclosed⟩ := h
  have hinner : inner = contents ++ ((if closed then quote.mark else []) ++ rest) := by
    rw [Piece.text, List.append_assoc, List.append_assoc] at hcs
    exact List.append_cancel_left hcs
  have hafter : inner.drop (contentsLength quote escape inner) =
      (if closed then quote.mark else []) ++ rest := by
    rw [← List.append_right_inj contents, ← hinner]
    exact hcontents ▸ List.take_append_drop _ _
  have hends := endsAt_drop_contentsLength quote escape inner
  rw [hafter] at hends
  exact ⟨hends, hafter ▸ hclosed⟩

section Pieces

variable {rules : Rules} (hrules : rules.Visible)

include hrules

/-- A literal with hidden contents has them up to where it can end. -/
theorem Delimiter.enclose_hidden {quote : Quote} (ho : .delimiter (.literal quote) ∈ rules.openers)
    {blanks after : List Char} (hblanks : ∀ c ∈ blanks, c ∈ hidden)
    (hspan : quote.multiline = false → '\n' ∉ blanks) (hafter : after = [] ∨ quote.EndsAt after) :
    (Delimiter.literal quote).enclose rules.escape (blanks ++ after) =
      .enclosed (.literal quote) blanks (quote.mark.isPrefixOf after) := by
  have hescape : ∀ c ∈ hidden, some c ≠ rules.escape := by
    intro c hc heq
    simp only [hidden, List.mem_cons, List.not_mem_nil, or_false] at hc
    rcases hc with rfl | rfl | rfl
    · exact hrules.escape heq.symm
    · exact hrules.inLine.2.1 heq.symm
    · exact hrules.inLine.2.2 heq.symm
  have hreach : (Delimiter.literal quote).reach rules.escape (blanks ++ after) = blanks.length :=
    contentsLength_hidden hblanks (fun c hc => not_isPrefixOf_hidden hrules ho hc) hescape
      hspan hafter
  rw [enclose, hreach, List.take_left, List.drop_left, closing]

/-- What ended a literal ends it again in front of the masked rest of the text. -/
theorem Quote.Ends.mask_rest {quote : Quote} (ho : .delimiter (.literal quote) ∈ rules.openers)
    {rest : List Char} {closed : Bool} (h : quote.Ends closed rest) :
    quote.Ends closed (mask rules rest) := by
  cases closed with
  | true =>
    have hstart : quote.mark.isPrefixOf (quote.mark ++ mask rules rest) = true := by
      rw [List.isPrefixOf_iff_prefix]
      exact List.prefix_append _ _
    exact ⟨.inr (.inl hstart), hstart⟩
  | false =>
    -- the text or the line ends here, and both do so in the masked text
    obtain ⟨rfl | hstart | ⟨hfeed, hsingle⟩, hclosed⟩ := h
    · exact ⟨.inl rfl, hclosed⟩
    · rw [hclosed] at hstart
      cases hstart
    · obtain ⟨more, rfl⟩ := List.head?_eq_some_iff.mp hfeed
      rw [mask_of_break hrules.inLine (.inl rfl)]
      exact ⟨.inr (.inr ⟨rfl, hsingle⟩), (hrules.inLine.mark ho).isPrefixOf_break (.inl rfl) _⟩

/-- The quotes of a literal find it again, with its contents hidden. -/
theorem Opener.piece?_masked_literal {rest contents : List Char} {quote : Quote} {closed : Bool}
    (ho : .delimiter (.literal quote) ∈ rules.openers)
    (hstays : (Piece.enclosed (.literal quote) contents closed).StaysInLine)
    (hends : quote.Ends closed rest) :
    (Opener.delimiter (.literal quote)).piece? rules.escape
        ((Piece.enclosed (.literal quote) contents closed).masked ++ mask rules rest) =
      some (.enclosed (.literal quote) (blankOut contents) closed) := by
  obtain ⟨hafter, hclosed⟩ := Quote.Ends.mask_rest hrules ho hends
  rw [Piece.masked, List.append_assoc, List.append_assoc, piece?, Option.ite_none_right_eq_some]
  refine ⟨List.isPrefixOf_iff_prefix.mpr (List.prefix_append _ _), congrArg some ?_⟩
  rw [Delimiter.shown, List.drop_left, Delimiter.shown, Delimiter.closing,
    Delimiter.enclose_hidden hrules ho (fun c hc => mem_hidden_of_mem_blankOut hc)
      (fun hsingle hmem => hstays hsingle (lineFeed_mem_blankOut hmem)) hafter, hclosed]

/-- **A literal is found again**: no other opener finds something before its quotes do. -/
theorem piece?_masked_literal {cs rest contents : List Char} {quote : Quote} {closed : Bool}
    (h : piece? rules cs = some (.enclosed (.literal quote) contents closed))
    (hcs : cs = (Piece.enclosed (.literal quote) contents closed).text ++ rest)
    (hstays : (Piece.enclosed (.literal quote) contents closed).StaysInLine) :
    piece? rules ((Piece.enclosed (.literal quote) contents closed).masked ++ mask rules rest) =
      some (.enclosed (.literal quote) (blankOut contents) closed) := by
  obtain ⟨o, ho, hp⟩ := List.exists_of_findSome?_eq_some h
  obtain rfl := Opener.eq_delimiter_of_piece? hp
  have hfound := Opener.piece?_masked_literal hrules ho hstays (Opener.ends_of_piece? hp hcs)
  have hsome : (Opener.piece? rules.escape
      ((Piece.enclosed (.literal quote) contents closed).masked ++ mask rules rest)
      (.delimiter (.literal quote))).isSome = true := Option.isSome_of_eq_some hfound
  have hveils := forall₂_veils_mask rules cs
  rw [mask_of_piece? h ((hrules.inLine.wellFormed _ ho).length_mark_le hp).1 hcs] at hveils
  obtain ⟨q, hq⟩ := Option.isSome_iff_exists.mp (List.findSome?_isSome_iff.mpr ⟨_, ho, hsome⟩)
  -- the openers are tried in the same order, and each finds something in both texts or in neither
  obtain ⟨o, -, hp', hq'⟩ := exists_of_findSome?_eq_some_of_isSome h hq
    (fun o _ hp => Opener.eq_delimiter_of_piece? hp ▸ hsome) fun o ho hq => by
      have hstart := Opener.isSome_piece?_iff.mp (Option.isSome_of_eq_some hq)
      rw [Opener.isSome_piece?_iff, List.isPrefixOf_iff_prefix]
      exact isPrefix_of_veils (hrules.mark o ho) hveils (List.isPrefixOf_iff_prefix.mp hstart)
  obtain rfl := Opener.eq_delimiter_of_piece? hp'
  rw [piece?, hq, ← hq', hfound]

/-- **The masked form of a piece is left as it is.** -/
theorem mask_masked_append {cs rest : List Char} {p : Piece} (h : piece? rules cs = some p)
    (hcs : cs = p.text ++ rest) (hstays : p.StaysInLine) :
    mask rules (p.masked ++ mask rules rest) = p.masked ++ mask rules (mask rules rest) := by
  cases p with
  | code c =>
    obtain ⟨o, -, hp⟩ := List.exists_of_findSome?_eq_some h
    cases o <;> simp [Opener.piece?, Delimiter.enclose] at hp
  | lineComment cs =>
    exact mask_hidden_append hrules
      (fun c hc => (List.eq_of_mem_replicate hc) ▸ List.mem_cons_self) _
  | enclosed d contents closed =>
    cases d with
    | comment marks =>
      refine mask_hidden_append hrules (fun c hc => ?_) _
      simp only [Piece.masked, Delimiter.shown, ← blankOut_append] at hc
      exact mem_hidden_of_mem_blankOut hc
    | literal quote =>
      obtain ⟨o, ho, hp⟩ := List.exists_of_findSome?_eq_some h
      obtain rfl := Opener.eq_delimiter_of_piece? hp
      have hne : (Piece.enclosed (.literal quote) (blankOut contents) closed).text ≠ [] :=
        List.append_ne_nil_of_left_ne_nil (hrules.inLine.mark ho).1 _
      rw [mask_of_piece? (piece?_masked_literal hrules h hcs hstays) hne rfl, Piece.masked,
        blankOut_blankOut]
      rfl

/-- The masked form of the first piece is left as it is. -/
theorem mask_masked_first_append {c : Char} {rest : List Char}
    (hstays : (first rules c rest).StaysInLine) :
    let later := rest.drop ((first rules c rest).text.length - 1)
    mask rules ((first rules c rest).masked ++ mask rules later) =
      (first rules c rest).masked ++ mask rules (mask rules later) := by
  intro later
  have htext := text_first_append rules c rest
  cases hpiece : piece? rules (c :: rest) with
  | some p =>
    have hfirst : first rules c rest = p := by
      rw [first_eq_getD hrules.inLine.wellFormed, hpiece, Option.getD_some]
    rw [← hfirst] at hpiece
    exact mask_masked_append hrules hpiece htext.symm hstays
  | none =>
    have hfirst : first rules c rest = .code c := by
      rw [first_eq_getD hrules.inLine.wellFormed, hpiece, Option.getD_none]
    have hveils := forall₂_veils_mask rules (c :: rest)
    rw [mask_cons, hfirst] at hveils
    rw [hfirst]
    simp only [later, hfirst]
    exact mask_of_piece?_eq_none (piece?_eq_none_of_veils hrules hveils hpiece)

end Pieces

/-- **A masked text is left as it is**, if no literal goes on behind a line feed that it
may not span. -/
theorem mask_mask {rules : Rules} (hrules : rules.Visible) {cs : List Char}
    (hstays : ∀ p ∈ pieces rules cs, p.StaysInLine) :
    mask rules (mask rules cs) = mask rules cs := by
  fun_induction pieces rules cs with
  | case1 => rfl
  | case2 c rest ih =>
    obtain ⟨hfirst, hlater⟩ := List.forall_mem_cons.mp hstays
    rw [mask_cons, mask_masked_first_append hrules hfirst, ih hlater]

theorem visible_of_mem_builtin {s : Scanner} (h : s ∈ builtinScanners) :
    s.dialect.rules.Visible := by
  have hmarks : ∀ s ∈ builtinScanners,
      (∀ o ∈ s.dialect.rules.openers, ' ' ∉ o.mark) ∧ s.dialect.rules.escape ≠ some ' ' := by decide
  exact ⟨Scanner.inLine_of_mem_builtin h, (hmarks s h).1, (hmarks s h).2⟩

end Masking

open Masking

/-- **Masking again changes nothing.** With the rules of the library, a masked text is its own
masked form, if the text has no line feed behind a backslash. So it does not matter whether the
complexity of a source or of its masked text is asked for. -/
theorem Scanner.mask_again {s : Scanner} (hs : s ∈ builtinScanners) {cs : List Char}
    (h : ¬['\\', '\n'] <:+: cs) :
    mask s.dialect.rules (mask s.dialect.rules cs) = mask s.dialect.rules cs ∧
      ∀ counting : CountingRules, ∃ analysis, s.analyze counting cs = .ok analysis ∧
        cyclomaticDetail counting (mask s.dialect.rules analysis.masked) =
          cyclomaticDetail counting (mask s.dialect.rules cs) := by
  have hescape : ∀ s ∈ builtinScanners, s.dialect.rules.escape = some '\\' := by decide
  have hstays : ∀ p ∈ pieces s.dialect.rules cs, p.StaysInLine := by
    refine staysInLine_of_no_escaped_lineFeed fun e he => ?_
    rw [hescape s hs] at he
    cases he
    exact h
  have hagain := mask_mask (visible_of_mem_builtin hs) hstays
  refine ⟨hagain, fun counting => ⟨s.dialect.analyze counting cs, ?_, congrArg _ hagain⟩⟩
  rw [analyze, failure_of_mem_builtin hs]

/-- Quotes side by side and three in a row, comments next to each other and across the quotes,
escaped quotes, and literals and a comment without their ends. -/
theorem Scanner.mask_again_seams :
    let cs := "a = \"x\\\"/*\"\"\"\"\"//\"\"y\"\"\"/**//* ' *//\n'\\'' \"\\\\\"b\"c\n/**\"/".toList
    let rules := Java.scanner.dialect.rules
    ¬['\\', '\n'] <:+: cs ∧ mask rules cs ≠ cs ∧ mask rules (mask rules cs) = mask rules cs ∧
      ∃ analysis, Java.scanner.analyze {} cs = .ok analysis ∧
        cyclomaticDetail {} (mask rules analysis.masked) = cyclomaticDetail {} (mask rules cs) := by
  intro cs rules
  have hs : Java.scanner ∈ builtinScanners := by decide
  have hcs : ¬['\\', '\n'] <:+: cs := by decide
  exact ⟨hcs, by decide, (Scanner.mask_again hs hcs).1, (Scanner.mask_again hs hcs).2 {}⟩

-- A line feed behind a backslash is kept and the backslash is not, so the literal ends there next
-- time.
example :
    let rules := Java.scanner.dialect.rules
    let cs := "\"a\\\n\" + b".toList
    mask rules (mask rules cs) ≠ mask rules cs := by decide

end SourceMetrics
