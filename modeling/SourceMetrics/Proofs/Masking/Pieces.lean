import SourceMetrics.Proofs.Masking

/-!
# The pieces of a text

Masking goes along a text character by character and holds the masked form of the region it is in.
Seen from further away, it takes the text apart: into characters of code, line comments, and
contents enclosed by marks. `pieces` is that view. The pieces make up the text, their masked forms
make up the masked text, and which piece comes first depends on what stands at the front of the text
and on nothing before it. Statements about comments and literals are statements about pieces.

Block comments and literals differ in how their end is found and in whether their marks are shown,
and in nothing else; both are a `Delimiter` here.

## Main definitions

* `Masking.Delimiter`, `Masking.Piece` — what a text is made of
* `Masking.piece?` — the comment or literal at the front of a text
* `Masking.pieces` — the pieces of a text
* `Masking.Opener.WellFormed` — marks that open no piece without characters

## Main results

* `Masking.region?_eq` — a region is the masked form of a piece
* `Masking.text_pieces` — the pieces make up the text
* `Masking.mask_eq_masked_pieces` — their masked forms make up the masked text
-/

namespace SourceMetrics

namespace Text

/-- A piece stands where it is found. -/
theorem isPrefix_drop_of_indexOf? {piece cs : List Char} {k : Nat}
    (h : indexOf? piece cs = some k) : piece <+: cs.drop k := by
  induction cs generalizing k with
  | nil =>
    rw [indexOf?, Option.ite_none_right_eq_some] at h
    rw [List.isEmpty_iff.mp h.1]
    exact List.nil_prefix
  | cons c rest ih =>
    rw [indexOf?] at h
    split at h
    next hstart =>
      cases h
      exact List.isPrefixOf_iff_prefix.mp hstart
    next =>
      obtain ⟨k, hk, rfl⟩ := Option.map_eq_some_iff.mp h
      exact ih hk

/-- A piece that is not found has characters. -/
theorem ne_nil_of_indexOf?_eq_none {piece cs : List Char} (h : indexOf? piece cs = none) :
    piece ≠ [] := by
  rintro rfl
  cases cs <;> simp [indexOf?] at h

end Text

/-- If the first hits of two searches are hits of both, they are at the same place. -/
theorem exists_of_findSome?_eq_some_of_isSome {α β γ : Type} {l : List α} {f : α → Option β}
    {g : α → Option γ} {b : β} {c : γ} (hf : l.findSome? f = some b) (hg : l.findSome? g = some c)
    (hfg : ∀ a ∈ l, f a = some b → (g a).isSome) (hgf : ∀ a ∈ l, g a = some c → (f a).isSome) :
    ∃ a ∈ l, f a = some b ∧ g a = some c := by
  induction l with
  | nil => cases hf
  | cons a l ih =>
    rw [List.findSome?_cons] at hf hg
    cases hfa : f a with
    | some b' =>
      rw [hfa] at hf
      cases hf
      obtain ⟨c', hga⟩ := Option.isSome_iff_exists.mp (hfg a List.mem_cons_self hfa)
      rw [hga] at hg
      cases hg
      exact ⟨a, List.mem_cons_self, hfa, hga⟩
    | none =>
      have hga : g a = none := by
        cases hga : g a with
        | none => rfl
        | some c' =>
          rw [hga] at hg
          cases hg
          have hsome := hgf a List.mem_cons_self hga
          rw [hfa] at hsome
          cases hsome
      rw [hfa] at hf
      rw [hga] at hg
      obtain ⟨a', ha', h⟩ := ih hf hg (fun a' ha' => hfg a' (List.mem_cons_of_mem a ha'))
        fun a' ha' => hgf a' (List.mem_cons_of_mem a ha')
      exact ⟨a', List.mem_cons_of_mem a ha', h⟩

namespace Masking

/-! ### Delimiters and pieces -/

/-- The marks around the contents of a block comment or a literal. -/
inductive Delimiter where
  | comment (marks : List Char × List Char)
  | literal (quote : Quote)
  deriving DecidableEq, Repr

namespace Delimiter

/-- The mark in front of the contents. -/
def opening : Delimiter → List Char
  | comment marks => marks.1
  | literal quote => quote.mark

/-- The mark behind the contents. -/
def closing : Delimiter → List Char
  | comment marks => marks.2
  | literal quote => quote.mark

/-- The masked form of a mark: those of comments are hidden. -/
def shown (mark : List Char) : Delimiter → List Char
  | comment _ => blankOut mark
  | literal _ => mark

/-- How many characters behind the opening mark are contents. -/
def reach (escape : Option Char) (inner : List Char) : Delimiter → Nat
  | comment marks => (Text.indexOf? marks.2 inner).getD inner.length
  | literal quote => contentsLength quote escape inner

end Delimiter

/-- A piece of a text. -/
inductive Piece where
  /-- A character outside comments and literals. -/
  | code (c : Char)
  | lineComment (text : List Char)
  /-- Contents between marks. The closing mark is missing if the text or, for some literals, the
  line ends first. -/
  | enclosed (delimiter : Delimiter) (contents : List Char) (closed : Bool)
  deriving DecidableEq, Repr

namespace Piece

/-- The characters of a piece. -/
def text : Piece → List Char
  | code c => [c]
  | lineComment cs => cs
  | enclosed d contents closed => d.opening ++ (contents ++ if closed then d.closing else [])

/-- The masked form of a piece. -/
def masked : Piece → List Char
  | code c => [c]
  | lineComment cs => List.replicate cs.length ' '
  | enclosed d contents closed =>
    d.shown d.opening ++ (blankOut contents ++ d.shown (if closed then d.closing else []))

end Piece

@[simp] theorem length_blankOut (cs : List Char) : (blankOut cs).length = cs.length :=
  List.length_map _

theorem blankOut_append (xs ys : List Char) : blankOut (xs ++ ys) = blankOut xs ++ blankOut ys :=
  List.map_append

theorem Delimiter.length_shown (d : Delimiter) (mark : List Char) :
    (d.shown mark).length = mark.length := by
  cases d with
  | comment _ => exact length_blankOut mark
  | literal _ => rfl

@[simp] theorem Piece.length_masked (p : Piece) : p.masked.length = p.text.length := by
  cases p with
  | code c => rfl
  | lineComment cs => exact List.length_replicate
  | enclosed d contents closed =>
    simp only [masked, text, List.length_append, d.length_shown, length_blankOut]

/-! ### The piece at the front of a text -/

/-- The contents at the front of a text, up to their closing mark. -/
def Delimiter.enclose (escape : Option Char) (inner : List Char) (d : Delimiter) : Piece :=
  .enclosed d (inner.take (d.reach escape inner))
    (d.closing.isPrefixOf (inner.drop (d.reach escape inner)))

/-- What can open a comment or a literal. -/
inductive Opener where
  | delimiter (delimiter : Delimiter)
  | line (marker : List Char)
  deriving DecidableEq, Repr

/-- The comment or literal that an opener finds at the front of a text. -/
def Opener.piece? (escape : Option Char) (cs : List Char) : Opener → Option Piece
  | delimiter d =>
    if d.opening.isPrefixOf cs then some (d.enclose escape (cs.drop d.opening.length)) else none
  | line marker =>
    if marker.isPrefixOf cs then some (.lineComment (cs.take (lineCommentLength cs))) else none

/-- What opens comments and literals, in the order in which it is tried. -/
def Rules.openers (rules : Rules) : List Opener :=
  rules.blockComments.map (fun marks => .delimiter (.comment marks)) ++
    (rules.lineComments.map Opener.line ++
      rules.delimiters.map fun quote => .delimiter (.literal quote))

/-- The comment or literal at the front of a text. -/
def piece? (rules : Rules) (cs : List Char) : Option Piece :=
  rules.openers.findSome? (·.piece? rules.escape cs)

/-- The first piece of a text. -/
def first (rules : Rules) (c : Char) (rest : List Char) : Piece :=
  match piece? rules (c :: rest) with
  | some p => if p.text = [] then .code c else p
  | none => .code c

/-- The pieces of a text. -/
def pieces (rules : Rules) : List Char → List Piece
  | [] => []
  | c :: rest =>
    first rules c rest :: pieces rules (rest.drop ((first rules c rest).text.length - 1))
termination_by cs => cs.length
decreasing_by
  simp only [List.length_drop, List.length_cons]
  omega

/-! ### Pieces are stretches of the text -/

/-- A line comment takes the line it is on, up to a carriage return at the end of that line. -/
theorem takeWhile_eq_lineComment (cs : List Char) :
    cs.takeWhile (· ≠ '\n') = cs.take (lineCommentLength cs) ∧
        (cs.take (lineCommentLength cs)).getLast? ≠ some '\r' ∨
      cs.takeWhile (· ≠ '\n') = cs.take (lineCommentLength cs) ++ ['\r'] := by
  set body := cs.takeWhile (· ≠ '\n') with hbody
  have htake : body = cs.take body.length := List.prefix_iff_eq_take.mp (List.takeWhile_prefix _)
  rw [lineCommentLength, ← hbody]
  by_cases hlast : body.getLast? = some '\r'
  · obtain ⟨xs, hxs⟩ := List.getLast?_eq_some_iff.mp hlast
    refine .inr ?_
    rw [if_pos hlast]
    have hdrop : cs.take (body.length - 1) = body.dropLast := by
      rw [List.dropLast_eq_take, htake, List.take_take, List.length_take]
      congr 1
      omega
    rw [hdrop, hxs, List.dropLast_concat]
  · refine .inl ?_
    rw [if_neg hlast, ← htake]
    exact ⟨rfl, hlast⟩

theorem Opener.text_isPrefix {escape : Option Char} {cs : List Char} {o : Opener} {p : Piece}
    (h : o.piece? escape cs = some p) : p.text <+: cs := by
  cases o with
  | delimiter d =>
    rw [piece?, Option.ite_none_right_eq_some] at h
    obtain ⟨hopening, h⟩ := h
    cases h
    obtain ⟨inner, rfl⟩ := List.isPrefixOf_iff_prefix.mp hopening
    rw [List.drop_left, Delimiter.enclose, Piece.text]
    refine (List.prefix_append_right_inj _).mpr ?_
    conv_rhs => rw [← List.take_append_drop (d.reach escape inner) inner]
    refine (List.prefix_append_right_inj _).mpr ?_
    split
    next hclosing => exact List.isPrefixOf_iff_prefix.mp hclosing
    next => exact List.nil_prefix
  | line marker =>
    rw [piece?, Option.ite_none_right_eq_some] at h
    cases h.2
    exact List.take_prefix _ _

theorem text_isPrefix_of_piece? {rules : Rules} {cs : List Char} {p : Piece}
    (h : piece? rules cs = some p) : p.text <+: cs := by
  obtain ⟨o, -, ho⟩ := List.exists_of_findSome?_eq_some h
  exact o.text_isPrefix ho

section First

variable (rules : Rules) (c : Char) (rest : List Char)

theorem first_eq_or :
    first rules c rest = .code c ∨
      piece? rules (c :: rest) = some (first rules c rest) ∧ (first rules c rest).text ≠ [] := by
  rw [first]
  split
  next p hp =>
    split
    · exact .inl rfl
    next hne => exact .inr ⟨hp, hne⟩
  next => exact .inl rfl

/-- The first piece is a stretch at the front, and the rest of the text stands behind it. -/
theorem text_first_append :
    (first rules c rest).text ++ rest.drop ((first rules c rest).text.length - 1) = c :: rest := by
  obtain hcode | ⟨hpiece, hne⟩ := first_eq_or rules c rest
  · rw [hcode]
    rfl
  · obtain ⟨more, hmore⟩ := text_isPrefix_of_piece? hpiece
    obtain ⟨d, text, htext⟩ := List.exists_cons_of_ne_nil hne
    rw [htext] at hmore ⊢
    obtain ⟨rfl, rfl⟩ := List.cons_eq_cons.mp (List.cons_append ▸ hmore)
    rw [List.length_cons, Nat.add_sub_cancel, List.drop_left, List.cons_append]

theorem text_first_ne_nil : (first rules c rest).text ≠ [] := by
  obtain hcode | ⟨-, hne⟩ := first_eq_or rules c rest
  · rw [hcode]
    exact List.cons_ne_nil c []
  · exact hne

end First

/-! ### Well-formed openers -/

/-- The mark of an opener. -/
def Opener.mark : Opener → List Char
  | delimiter d => d.opening
  | line marker => marker

/-- An opener a text can be taken apart with: its mark has characters, and that of a line comment is
in one line and does not start with a carriage return. -/
def Opener.WellFormed : Opener → Prop
  | delimiter d => d.opening ≠ []
  | line marker => marker ≠ [] ∧ marker.head? ≠ some '\r' ∧ '\n' ∉ marker

instance (o : Opener) : Decidable o.WellFormed :=
  match o with
  | .delimiter d => inferInstanceAs (Decidable (d.opening ≠ []))
  | .line _ => inferInstanceAs (Decidable (_ ∧ _ ∧ _))

namespace Opener

variable {escape : Option Char} {cs : List Char} {o : Opener} {p : Piece}

theorem isSome_piece?_iff : (o.piece? escape cs).isSome = true ↔ o.mark.isPrefixOf cs = true := by
  cases o with
  | delimiter d =>
    rw [piece?, mark]
    split <;> simp [*]
  | line marker =>
    rw [piece?, mark]
    split <;> simp [*]

/-- A marker stands in the line that its comment takes, but for a carriage return at the end. -/
theorem marker_isPrefix_takeWhile {marker : List Char} (hfeed : '\n' ∉ marker)
    (h : marker.isPrefixOf cs = true) : marker <+: cs.takeWhile (· ≠ '\n') := by
  obtain ⟨rest, rfl⟩ := List.isPrefixOf_iff_prefix.mp h
  rw [List.takeWhile_append_of_pos fun c hc => by simpa using ne_of_mem_of_not_mem hc hfeed]
  exact List.prefix_append _ _

/-- A piece is not empty, and at most one character shorter than the mark that opens it. -/
theorem WellFormed.length_mark_le (ho : o.WellFormed) (h : o.piece? escape cs = some p) :
    p.text ≠ [] ∧ o.mark.length ≤ p.text.length + 1 := by
  cases o with
  | delimiter d =>
    rw [piece?, Option.ite_none_right_eq_some, Option.some.injEq] at h
    obtain ⟨-, rfl⟩ := h
    rw [Delimiter.enclose, Piece.text, mark, List.length_append]
    exact ⟨List.append_ne_nil_of_left_ne_nil ho _, by omega⟩
  | line marker =>
    obtain ⟨hne, hreturn, hfeed⟩ := ho
    rw [piece?, Option.ite_none_right_eq_some, Option.some.injEq] at h
    obtain ⟨hstart, rfl⟩ := h
    have hmarker := marker_isPrefix_takeWhile hfeed hstart
    rw [mark, Piece.text]
    obtain ⟨hline, -⟩ | hline := takeWhile_eq_lineComment cs
    · rw [hline] at hmarker
      exact ⟨hmarker.ne_nil hne, hmarker.length_le.trans (Nat.le_succ _)⟩
    · rw [hline] at hmarker
      refine ⟨fun hnil => ?_, by simpa using hmarker.length_le⟩
      rw [hnil] at hmarker
      obtain ⟨c, marker, rfl⟩ := List.exists_cons_of_ne_nil hne
      obtain ⟨rest, hrest⟩ := hmarker
      exact hreturn (congrArg some (List.cons_eq_cons.mp hrest).1)

end Opener

/-- With well-formed openers, what starts a piece is not taken for code. -/
theorem first_eq_getD {rules : Rules} (hrules : ∀ o ∈ rules.openers, o.WellFormed) (c : Char)
    (rest : List Char) :
    first rules c rest = (piece? rules (c :: rest)).getD (.code c) := by
  rw [first]
  cases hpiece : piece? rules (c :: rest) with
  | none => rfl
  | some p =>
    obtain ⟨o, ho, hp⟩ := List.exists_of_findSome?_eq_some hpiece
    exact if_neg ((hrules o ho).length_mark_le hp).1

/-! ### All pieces -/

theorem pieces_cons (rules : Rules) (c : Char) (rest : List Char) :
    pieces rules (c :: rest) =
      first rules c rest :: pieces rules (rest.drop ((first rules c rest).text.length - 1)) := by
  rw [pieces]

/-- What stands behind the first piece is taken apart on its own. -/
theorem pieces_tail {rules : Rules} {cs : List Char} {p : Piece} {after : List Piece}
    (h : pieces rules cs = p :: after) :
    ∃ rest, cs = p.text ++ rest ∧ after = pieces rules rest := by
  cases cs with
  | nil =>
    rw [pieces] at h
    cases h
  | cons c rest =>
    rw [pieces_cons] at h
    obtain ⟨rfl, rfl⟩ := List.cons_eq_cons.mp h
    exact ⟨_, (text_first_append rules c rest).symm, rfl⟩

/-- **The pieces make up the text.** -/
theorem text_pieces (rules : Rules) (cs : List Char) :
    (pieces rules cs).flatMap Piece.text = cs := by
  fun_induction pieces rules cs with
  | case1 => rfl
  | case2 c rest ih => rw [List.flatMap_cons, ih, text_first_append]

/-- A piece is the comment, the literal or the character at the front of what is left
of the text. -/
theorem exists_of_mem_pieces {rules : Rules} {cs : List Char} {p : Piece}
    (h : p ∈ pieces rules cs) : ∃ pre c rest, cs = pre ++ c :: rest ∧ p = first rules c rest := by
  fun_induction pieces rules cs with
  | case1 => cases h
  | case2 c rest ih =>
    obtain rfl | h := List.mem_cons.mp h
    · exact ⟨[], c, rest, rfl, rfl⟩
    · obtain ⟨pre, d, more, hmore, hp⟩ := ih h
      refine ⟨(first rules c rest).text ++ pre, d, more, ?_, hp⟩
      rw [List.append_assoc, ← hmore, text_first_append]

theorem text_ne_nil_of_mem_pieces {rules : Rules} {cs : List Char} {p : Piece}
    (h : p ∈ pieces rules cs) : p.text ≠ [] := by
  obtain ⟨pre, c, rest, -, rfl⟩ := exists_of_mem_pieces h
  exact text_first_ne_nil rules c rest

/-- Contents stand between marks of the rules. -/
theorem delimiter_mem_openers {rules : Rules} {cs contents : List Char} {d : Delimiter}
    {closed : Bool} (h : .enclosed d contents closed ∈ pieces rules cs) :
    .delimiter d ∈ rules.openers := by
  obtain ⟨pre, c, rest, -, hfirst⟩ := exists_of_mem_pieces h
  obtain hcode | ⟨hpiece, -⟩ := first_eq_or rules c rest
  · rw [hcode] at hfirst
    cases hfirst
  · rw [← hfirst] at hpiece
    obtain ⟨o, ho, hp⟩ := List.exists_of_findSome?_eq_some hpiece
    cases o with
    | line marker =>
      rw [Opener.piece?, Option.ite_none_right_eq_some] at hp
      cases hp.2
    | delimiter d' =>
      rw [Opener.piece?, Option.ite_none_right_eq_some] at hp
      cases hp.2
      exact ho

/-! ### Masked pieces -/

theorem blockComment?_eq (escape : Option Char) (marks : List Char × List Char) (cs : List Char) :
    blockComment? marks cs =
      ((Opener.delimiter (.comment marks)).piece? escape cs).map Piece.masked := by
  rw [blockComment?, Opener.piece?, Delimiter.opening]
  split
  next hopening =>
    obtain ⟨inner, rfl⟩ := List.isPrefixOf_iff_prefix.mp hopening
    have hmasked : ∀ n, blankOut ((marks.1 ++ inner).take (marks.1.length + n)) =
        blankOut marks.1 ++ blankOut (inner.take n) := fun n => by
      rw [List.take_length_add_append, blankOut_append]
    rw [List.drop_left]
    cases hclosing : Text.indexOf? marks.2 inner with
    | some k =>
      obtain ⟨more, hmore⟩ := Text.isPrefix_drop_of_indexOf? hclosing
      have hinner : inner.take (k + marks.2.length) = inner.take k ++ marks.2 := by
        rw [List.take_add, ← hmore, List.take_left]
      simp only [Delimiter.enclose, Delimiter.reach, hclosing, Option.getD_some, Delimiter.closing,
        ← hmore, List.isPrefixOf_iff_prefix.mpr (List.prefix_append marks.2 more), Nat.add_assoc,
        hmasked, hinner, blankOut_append]
      rfl
    | none =>
      have hempty : marks.2.isPrefixOf [] = false := by
        cases hmark : marks.2 with
        | nil => exact absurd hmark (Text.ne_nil_of_indexOf?_eq_none hclosing)
        | cons c mark => rfl
      simp only [Delimiter.enclose, Delimiter.reach, hclosing, Option.getD_none, Delimiter.closing,
        List.drop_length, hempty, List.length_append, hmasked]
      simp [Piece.masked, Delimiter.shown, Delimiter.opening, blankOut]
  next => rfl

theorem lineComment?_eq (escape : Option Char) (marker cs : List Char) :
    lineComment? marker cs = ((Opener.line marker).piece? escape cs).map Piece.masked := by
  have hle : lineCommentLength cs ≤ cs.length :=
    (lineCommentLength_le cs).trans (List.takeWhile_prefix _).length_le
  rw [lineComment?, Opener.piece?]
  split
  · rw [Option.map_some, Piece.masked, List.length_take, Nat.min_eq_left hle]
  · rfl

theorem literal?_eq (escape : Option Char) (quote : Quote) (cs : List Char) :
    literal? escape quote cs =
      ((Opener.delimiter (.literal quote)).piece? escape cs).map Piece.masked := by
  rw [literal?, Opener.piece?, Delimiter.opening]
  split
  · exact congrArg some (List.append_assoc _ _ _)
  · rfl

/-- A region is the masked form of the piece at the front. -/
theorem region?_eq (rules : Rules) (cs : List Char) :
    region? rules cs = (piece? rules cs).map Piece.masked := by
  simp only [region?, piece?, Rules.openers, List.findSome?_append, List.findSome?_map,
    Option.map_or, List.map_findSome?, Function.comp_def, blockComment?_eq rules.escape,
    lineComment?_eq rules.escape, literal?_eq, Option.orElse_eq_orElse, Option.orElse_eq_or]

theorem maskFrom_eq_append (rules : Rules) (pending cs : List Char)
    (h : pending.length ≤ cs.length) :
    maskFrom rules pending cs = pending ++ mask rules (cs.drop pending.length) := by
  induction pending generalizing cs with
  | nil => rfl
  | cons m pending ih =>
    cases cs with
    | nil => exact absurd h (Nat.not_succ_le_zero _)
    | cons c rest =>
      rw [maskFrom, ih rest (Nat.le_of_succ_le_succ h)]
      rfl

/-- The masked form of the first piece is masked on its own. -/
theorem mask_cons (rules : Rules) (c : Char) (rest : List Char) :
    mask rules (c :: rest) =
      (first rules c rest).masked ++
        mask rules (rest.drop ((first rules c rest).text.length - 1)) := by
  rw [mask, maskFrom, region?_eq, first]
  cases hpiece : piece? rules (c :: rest) with
  | none => rfl
  | some p =>
    have hlength := p.length_masked
    have hle := (text_isPrefix_of_piece? hpiece).length_le
    rw [List.length_cons] at hle
    cases hmasked : p.masked with
    | nil =>
      rw [hmasked, List.length_nil, eq_comm, List.length_eq_zero_iff] at hlength
      simp only [Option.map_some, hmasked, if_pos hlength]
      rfl
    | cons m pending =>
      rw [hmasked, List.length_cons] at hlength
      have hne : p.text ≠ [] := fun hnil => by simp [hnil] at hlength
      simp only [Option.map_some, hmasked, if_neg hne]
      rw [maskFrom_eq_append rules pending rest (by omega), ← hlength]
      rfl

/-- **The masked forms of the pieces make up the masked text.** -/
theorem mask_eq_masked_pieces (rules : Rules) (cs : List Char) :
    mask rules cs = (pieces rules cs).flatMap Piece.masked := by
  fun_induction pieces rules cs with
  | case1 => rfl
  | case2 c rest ih => rw [List.flatMap_cons, ← ih, mask_cons]

end Masking

end SourceMetrics
