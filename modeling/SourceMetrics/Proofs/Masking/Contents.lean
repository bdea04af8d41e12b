import Mathlib.Data.List.Forall2
import SourceMetrics.Proofs.Masking.Literal
import SourceMetrics.Proofs.Masking.Pieces
import SourceMetrics.Registry.Default

/-!
# Contents of comments and literals do not matter

Two texts that differ only in the contents of one comment or literal are masked alike, and so a
language is outlined alike in both. What has to be shown is that masking reaches that comment in
step: a mark may overlap the contents, and would be seen in one text only.

It does not happen because both texts have a piece that starts where the comment starts. Up to there
every piece of either text ends before the comment opens. A piece that ends within the characters
two texts share, with one character to spare, is a piece of both: its marks are within, and had the
other text an earlier end for it or another mark in its place, its own piece would reach beyond. The
spare character is for line comments, which leave out a carriage return that their marker may
include.

## Main definitions

* `Masking.Encloses` — the places between which a text has the contents of a comment or a literal
* `Masking.AgreeOutside` — texts that differ between two places only, and in no line break

## Main results

* `Masking.Opener.piece?_eq_of_take` — a piece is found in all texts that share its characters
* `Masking.Encloses.mask_eq` — masking does not show contents
* `analyze_eq_of_agreeOutside` — and an analysis does not see them
-/

namespace SourceMetrics

/-! ### Texts with the same first characters -/

namespace Text

theorem isPrefixOf_eq_of_take {mark xs ys : List Char} {n : Nat} (h : xs.take n = ys.take n)
    (hn : mark.length ≤ n) : mark.isPrefixOf xs = mark.isPrefixOf ys := by
  have hmark : xs.take mark.length = ys.take mark.length := by
    rw [← Nat.min_eq_left hn, ← List.take_take, ← List.take_take, h]
  rw [Bool.eq_iff_iff, List.isPrefixOf_iff_prefix, List.isPrefixOf_iff_prefix,
    List.prefix_iff_eq_take, List.prefix_iff_eq_take, hmark]

/-- What one of the texts begins with, the other does too. -/
theorem exists_append_of_take (front rest : List Char) {ys : List Char} {n : Nat}
    (h : (front ++ rest).take n = ys.take n) (hn : front.length ≤ n) :
    ∃ rest', ys = front ++ rest' ∧
      rest.take (n - front.length) = rest'.take (n - front.length) := by
  refine ⟨ys.drop front.length, ?_, ?_⟩
  · have hfront : ys.take front.length = front := by
      rw [← Nat.min_eq_left hn, ← List.take_take, ← h, List.take_take, Nat.min_eq_left hn,
        List.take_left]
    conv_lhs => rw [← List.take_append_drop front.length ys, hfront]
  · have hdrop := congrArg (List.drop front.length) h
    rwa [List.drop_take, List.drop_take, List.drop_left] at hdrop

theorem indexOf?_of_isPrefixOf {piece cs : List Char} (h : piece.isPrefixOf cs = true) :
    indexOf? piece cs = some 0 := by
  cases cs with
  | nil => rw [indexOf?, if_pos (by simpa using h)]
  | cons c rest => rw [indexOf?, if_pos h]

theorem indexOf?_eq_of_take {piece xs ys : List Char} {k n : Nat} (h : indexOf? piece xs = some k)
    (htake : xs.take n = ys.take n) (hk : k + piece.length ≤ n) : indexOf? piece ys = some k := by
  induction xs generalizing ys k n with
  | nil =>
    rw [indexOf?, Option.ite_none_right_eq_some] at h
    obtain ⟨hempty, h⟩ := h
    cases h
    rw [List.isEmpty_iff.mp hempty]
    exact indexOf?_of_isPrefixOf rfl
  | cons c rest ih =>
    have hpiece := isPrefixOf_eq_of_take htake ((Nat.le_add_left _ k).trans hk)
    rw [indexOf?] at h
    split at h
    next hstart =>
      cases h
      exact indexOf?_of_isPrefixOf (hpiece ▸ hstart)
    next hstart =>
      obtain ⟨k, hk', rfl⟩ := Option.map_eq_some_iff.mp h
      obtain ⟨rest', rfl, htake'⟩ := exists_append_of_take [c] rest htake (by simp; omega)
      rw [List.singleton_append] at hpiece ⊢
      rw [indexOf?, if_neg (hpiece ▸ hstart), ih hk' htake' (by simp; omega), Option.map_some]

end Text

namespace Masking

/-! ### Where contents end -/

section Enclosed

variable {escape : Option Char} {xs ys : List Char} {n : Nat}

/-- The contents at the front of a text end within its first `n` characters, and so does their
closing mark. -/
def Delimiter.EndsWithin (escape : Option Char) (n : Nat) (inner : List Char) (d : Delimiter) :
    Prop :=
  d.reach escape inner < n ∧
    (d.closing.isPrefixOf (inner.drop (d.reach escape inner)) = true →
      d.reach escape inner + d.closing.length ≤ n)

theorem Delimiter.EndsWithin.tail {d : Delimiter} (front rest : List Char)
    (h : d.EndsWithin escape n (front ++ rest))
    (hreach : d.reach escape (front ++ rest) = front.length + d.reach escape rest) :
    d.EndsWithin escape (n - front.length) rest := by
  obtain ⟨hcontents, hclosing⟩ := h
  rw [hreach] at hcontents hclosing
  rw [List.drop_length_add_append] at hclosing
  refine ⟨by omega, fun hclosed => ?_⟩
  have hle := hclosing hclosed
  omega

theorem Quote.endsAt_iff_of_take {quote : Quote} (htake : xs.take n = ys.take n)
    (h₁ : (Delimiter.literal quote).EndsWithin escape n xs)
    (h₂ : (Delimiter.literal quote).EndsWithin escape n ys) :
    quote.EndsAt xs ↔ quote.EndsAt ys := by
  -- A quote at the front is the closing one, so it is within the shared characters.
  have hmark : ∀ {cs}, (Delimiter.literal quote).EndsWithin escape n cs →
      quote.mark.isPrefixOf cs = true → quote.mark.length ≤ n := by
    intro cs h hstart
    have hreach : (Delimiter.literal quote).reach escape cs = 0 :=
      contentsLength_of_endsAt (.inl hstart)
    have hle := h.2 (by rwa [hreach])
    rw [hreach, Nat.zero_add] at hle
    exact hle
  have hhead : xs.head? = ys.head? := by
    have hhead := congrArg List.head? htake
    rwa [List.head?_take, List.head?_take, if_neg (Nat.ne_zero_of_lt h₁.1),
      if_neg (Nat.ne_zero_of_lt h₁.1)] at hhead
  rw [Quote.EndsAt, Quote.EndsAt, hhead]
  refine or_congr_left ⟨fun h => ?_, fun h => ?_⟩
  · rwa [← Text.isPrefixOf_eq_of_take htake (hmark h₁ h)]
  · rwa [Text.isPrefixOf_eq_of_take htake (hmark h₂ h)]

theorem contentsLength_eq_of_take (quote : Quote) (htake : xs.take n = ys.take n)
    (hxs : n ≤ xs.length) (h₁ : (Delimiter.literal quote).EndsWithin escape n xs)
    (h₂ : (Delimiter.literal quote).EndsWithin escape n ys) :
    contentsLength quote escape xs = contentsLength quote escape ys := by
  induction xs using contents_induction quote escape generalizing ys n with
  | nil => exact absurd (Nat.lt_of_lt_of_le h₁.1 hxs) (Nat.not_lt_zero _)
  | ends xs hends =>
    rw [contentsLength_of_endsAt hends,
      contentsLength_of_endsAt ((Quote.endsAt_iff_of_take htake h₁ h₂).mp hends)]
  | escaped c d rest hends hc ih =>
    have hends' := mt (Quote.endsAt_iff_of_take htake h₁ h₂).mpr hends
    have hlength := contentsLength_of_escape hends hc
    have hlt : contentsLength quote escape (c :: d :: rest) < n := h₁.1
    obtain ⟨rest', rfl, htake'⟩ :=
      Text.exists_append_of_take [c, d] rest htake (by simp; omega)
    have hlength' : contentsLength quote escape ([c, d] ++ rest') =
        2 + contentsLength quote escape rest' := contentsLength_of_escape hends' hc
    rw [hlength, hlength', ih htake' (by simp at hxs ⊢; omega)
      (h₁.tail [c, d] rest hlength) (h₂.tail [c, d] rest' hlength')]
  | character c rest hends hc ih =>
    have hends' := mt (Quote.endsAt_iff_of_take htake h₁ h₂).mpr hends
    have hlength := contentsLength_of_not_escape hends hc
    have hlt : contentsLength quote escape (c :: rest) < n := h₁.1
    obtain ⟨rest', rfl, htake'⟩ :=
      Text.exists_append_of_take [c] rest htake (by simp; omega)
    have hc' : ¬some c = escape := by
      intro heq
      rw [hc heq] at hlt hxs hlength
      rw [hlength] at hlt
      exact absurd (Nat.lt_of_lt_of_le hlt hxs) (by simp)
    have hlength' : contentsLength quote escape ([c] ++ rest') =
        1 + contentsLength quote escape rest' :=
      contentsLength_of_not_escape hends' fun heq => absurd heq hc'
    rw [hlength, hlength', ih htake' (by simp at hxs ⊢; omega)
      (h₁.tail [c] rest hlength) (h₂.tail [c] rest' hlength')]

theorem Delimiter.reach_eq_of_take {d : Delimiter} (htake : xs.take n = ys.take n)
    (hxs : n ≤ xs.length) (h₁ : d.EndsWithin escape n xs) (h₂ : d.EndsWithin escape n ys) :
    d.reach escape xs = d.reach escape ys := by
  cases d with
  | literal quote => exact contentsLength_eq_of_take quote htake hxs h₁ h₂
  | comment marks =>
    obtain ⟨hcontents, hclosing⟩ := h₁
    cases hindex : Text.indexOf? marks.2 xs with
    | none =>
      rw [reach, hindex, Option.getD_none] at hcontents
      omega
    | some k =>
      have hreach : (comment marks).reach escape xs = k := by rw [reach, hindex, Option.getD_some]
      rw [hreach] at hclosing
      have hle := hclosing (List.isPrefixOf_iff_prefix.mpr (Text.isPrefix_drop_of_indexOf? hindex))
      rw [hreach, reach, Text.indexOf?_eq_of_take hindex htake hle, Option.getD_some]

/-- **Contents that end within the characters two texts share are contents in both.** -/
theorem Delimiter.enclose_eq_of_take {d : Delimiter} (htake : xs.take n = ys.take n)
    (hxs : n ≤ xs.length) (h₁ : d.EndsWithin escape n xs) (h₂ : d.EndsWithin escape n ys) :
    d.enclose escape xs = d.enclose escape ys := by
  have hreach := reach_eq_of_take htake hxs h₁ h₂
  rw [enclose, enclose, ← hreach]
  obtain ⟨hlt, hclosing⟩ := h₁
  have hclosing' := h₂.2
  rw [← hreach] at hclosing'
  generalize d.reach escape xs = k at *
  have hcontents : xs.take k = ys.take k := by
    rw [← Nat.min_eq_left hlt.le, ← List.take_take, ← List.take_take, htake]
  have hafter : (xs.drop k).take (n - k) = (ys.drop k).take (n - k) := by
    rw [← List.drop_take, ← List.drop_take, htake]
  have hclosed : d.closing.isPrefixOf (xs.drop k) = d.closing.isPrefixOf (ys.drop k) := by
    by_cases hle : d.closing.length ≤ n - k
    · exact Text.isPrefixOf_eq_of_take hafter hle
    · rw [Bool.eq_iff_iff]
      refine iff_of_false (fun h => hle ?_) (fun h => hle ?_)
      · have := hclosing h
        omega
      · have := hclosing' h
        omega
  rw [hcontents, hclosed]

theorem Delimiter.endsWithin_of_length {d : Delimiter} (hxs : n ≤ xs.length)
    (h : (d.enclose escape xs).text.length < d.opening.length + n) : d.EndsWithin escape n xs := by
  rw [enclose, Piece.text, List.length_append, List.length_append, List.length_take] at h
  refine ⟨by omega, fun hclosed => ?_⟩
  rw [if_pos hclosed] at h
  omega

end Enclosed

/-! ### Pieces of texts with the same first characters -/

namespace Opener

variable {escape : Option Char} {cs : List Char} {o : Opener} {p : Piece}

/-- The length of a line comment depends on line feeds and carriage returns only. -/
theorem lineCommentLength_blankOut (cs : List Char) :
    lineCommentLength (blankOut cs) = lineCommentLength cs := by
  have hkept : ∀ x, x = '\n' ∨ x = '\r' → ∀ c : Char,
      (if c = '\n' || c = '\r' then c else ' ') = x ↔ c = x := by
    rintro x hx c
    split
    · rfl
    next hc =>
      obtain rfl | rfl := hx <;> simp_all
  have hline : (blankOut cs).takeWhile (· ≠ '\n') = blankOut (cs.takeWhile (· ≠ '\n')) := by
    rw [blankOut, List.takeWhile_map, blankOut]
    congr 2
    funext c
    simp only [Function.comp_apply, ne_eq, hkept '\n' (.inl rfl) c]
  have hlast : ∀ xs : List Char, (blankOut xs).getLast? = some '\r' ↔ xs.getLast? = some '\r' := by
    intro xs
    rw [blankOut, List.getLast?_map]
    cases xs.getLast? with
    | none => simp
    | some c => simpa using hkept '\r' (.inr rfl) c
  simp only [lineCommentLength, hline, hlast, length_blankOut]

/-- **A piece is found in all texts that share its characters and one more.** -/
theorem piece?_eq_of_take {ds : List Char} {q : Piece} {n : Nat} (hp : o.piece? escape cs = some p)
    (hq : o.piece? escape ds = some q) (htake : cs.take n = ds.take n)
    (hbreaks : blankOut cs = blankOut ds) (hn : n ≤ cs.length) (hpn : p.text.length < n)
    (hqn : q.text.length < n) : p = q := by
  cases o with
  | line marker =>
    rw [piece?, Option.ite_none_right_eq_some, Option.some.injEq] at hp hq
    obtain ⟨-, rfl⟩ := hp
    obtain ⟨-, rfl⟩ := hq
    have hlength : lineCommentLength cs = lineCommentLength ds := by
      rw [← lineCommentLength_blankOut, hbreaks, lineCommentLength_blankOut]
    rw [Piece.text, List.length_take] at hpn
    have hle : lineCommentLength ds ≤ n := by omega
    rw [hlength, ← Nat.min_eq_left hle, ← List.take_take, ← List.take_take, htake]
  | delimiter d =>
    rw [piece?, Option.ite_none_right_eq_some, Option.some.injEq] at hp hq
    obtain ⟨hopen, rfl⟩ := hp
    obtain ⟨-, rfl⟩ := hq
    have hlength := congrArg List.length hbreaks
    rw [length_blankOut, length_blankOut] at hlength
    have hle : d.opening.length ≤ n := by
      rw [Delimiter.enclose, Piece.text, List.length_append] at hpn
      omega
    have htake' : (cs.drop d.opening.length).take (n - d.opening.length) =
        (ds.drop d.opening.length).take (n - d.opening.length) := by
      rw [← List.drop_take, ← List.drop_take, htake]
    have hcs : n - d.opening.length ≤ (cs.drop d.opening.length).length := by
      rw [List.length_drop]
      omega
    have hds : n - d.opening.length ≤ (ds.drop d.opening.length).length := by
      rw [List.length_drop]
      omega
    exact Delimiter.enclose_eq_of_take htake' hcs
      (Delimiter.endsWithin_of_length hcs (by omega))
      (Delimiter.endsWithin_of_length hds (by omega))

end Opener

section First

variable {rules : Rules} (hrules : ∀ o ∈ rules.openers, o.WellFormed)

include hrules

variable {cs ds : List Char} {n : Nat}

/-- What opens a piece that ends within the shared characters opens one in the other text too. -/
theorem isSome_piece?_of_take {o : Opener} (ho : o ∈ rules.openers) {p : Piece}
    (hp : o.piece? rules.escape cs = some p) (htake : cs.take n = ds.take n)
    (hn : p.text.length < n) : (o.piece? rules.escape ds).isSome = true := by
  have hmark := ((hrules o ho).length_mark_le hp).2
  have hstart := Opener.isSome_piece?_iff.mp (Option.isSome_of_mem hp)
  rw [Text.isPrefixOf_eq_of_take htake (hmark.trans hn)] at hstart
  exact Opener.isSome_piece?_iff.mpr hstart

/-- Texts with the same first characters have the same first piece, if it ends within
them in both. -/
theorem first_piece_eq_of_take {p q : Piece} {after after' : List Piece}
    (hp : pieces rules cs = p :: after) (hq : pieces rules ds = q :: after')
    (htake : cs.take n = ds.take n) (hbreaks : blankOut cs = blankOut ds) (hn : n ≤ cs.length)
    (hpn : p.text.length < n) (hqn : q.text.length < n) : p = q := by
  obtain ⟨c, xs, rfl⟩ : ∃ c xs, cs = c :: xs := by
    cases cs with
    | nil => rw [pieces] at hp; cases hp
    | cons c xs => exact ⟨c, xs, rfl⟩
  obtain ⟨ys, rfl, -⟩ := Text.exists_append_of_take [c] xs htake (Nat.zero_lt_of_lt hpn)
  rw [List.singleton_append] at htake hbreaks hq
  rw [pieces_cons, first_eq_getD hrules] at hp hq
  obtain ⟨rfl, -⟩ := List.cons_eq_cons.mp hp
  obtain ⟨rfl, -⟩ := List.cons_eq_cons.mp hq
  cases hcs : piece? rules (c :: xs) with
  | none =>
    cases hds : piece? rules (c :: ys) with
    | none => rfl
    | some q =>
      rw [hds, Option.getD_some] at hqn
      obtain ⟨o, ho, hq⟩ := List.exists_of_findSome?_eq_some hds
      have hsome := isSome_piece?_of_take hrules ho hq htake.symm hqn
      rw [List.findSome?_eq_none_iff.mp hcs o ho] at hsome
      cases hsome
  | some p =>
    rw [hcs, Option.getD_some] at hpn
    cases hds : piece? rules (c :: ys) with
    | none =>
      obtain ⟨o, ho, hp⟩ := List.exists_of_findSome?_eq_some hcs
      have hsome := isSome_piece?_of_take hrules ho hp htake hpn
      rw [List.findSome?_eq_none_iff.mp hds o ho] at hsome
      cases hsome
    | some q =>
      rw [hds, Option.getD_some] at hqn
      obtain ⟨o, -, hp, hq⟩ := exists_of_findSome?_eq_some_of_isSome hcs hds
        (fun o ho hp => isSome_piece?_of_take hrules ho hp htake hpn)
        fun o ho hq => isSome_piece?_of_take hrules ho hq htake.symm hqn
      exact o.piece?_eq_of_take hp hq htake hbreaks hn hpn hqn

end First

/-! ### Texts that differ in contents only -/

/-- The text has, from `a` to `b`, the contents of a comment or a literal with these marks. -/
def Encloses (rules : Rules) (d : Delimiter) (a b : Nat) (cs : List Char) : Prop :=
  ∃ before contents after, pieces rules cs = before ++ .enclosed d contents true :: after ∧
    a = (before.flatMap Piece.text).length + d.opening.length ∧ b = a + contents.length

/-- Both characters are line feeds or neither is, and so for carriage returns. -/
def SameBreak (c d : Char) : Prop := (c = '\n' ↔ d = '\n') ∧ (c = '\r' ↔ d = '\r')

instance (c d : Char) : Decidable (SameBreak c d) := inferInstanceAs (Decidable (_ ∧ _))

/-- The texts differ from `a` to `b` at most, and have their line feeds and carriage returns at the
same places. -/
structure AgreeOutside (a b : Nat) (cs ds : List Char) : Prop where
  breaks : List.Forall₂ SameBreak cs ds
  outside : ∀ i, i < a ∨ b ≤ i → cs[i]? = ds[i]?

namespace AgreeOutside

variable {a b : Nat} {cs ds : List Char}

theorem blankOut_eq (h : AgreeOutside a b cs ds) : blankOut cs = blankOut ds := by
  rw [blankOut, blankOut, ← List.forall₂_eq_eq_eq, List.forall₂_map_left_iff,
    List.forall₂_map_right_iff]
  refine h.breaks.imp fun c d hcd => ?_
  obtain ⟨hfeed, hreturn⟩ := hcd
  by_cases hc : c = '\n' ∨ c = '\r'
  · obtain rfl | rfl := hc
    · rw [hfeed.mp rfl]
    · rw [hreturn.mp rfl]
  · rw [if_neg (by simpa using hc), if_neg (by simpa [← hfeed, ← hreturn] using hc)]

theorem take_eq (h : AgreeOutside a b cs ds) : cs.take a = ds.take a := by
  refine List.ext_getElem? fun i => ?_
  rw [List.getElem?_take, List.getElem?_take]
  split
  next hi => exact h.outside i (.inl hi)
  next => rfl

theorem drop_eq (h : AgreeOutside a b cs ds) : cs.drop b = ds.drop b := by
  refine List.ext_getElem? fun i => ?_
  rw [List.getElem?_drop, List.getElem?_drop]
  exact h.outside _ (.inr (Nat.le_add_right b i))

theorem of_take_drop (breaks : List.Forall₂ SameBreak cs ds) (htake : cs.take a = ds.take a)
    (hdrop : cs.drop b = ds.drop b) : AgreeOutside a b cs ds where
  breaks
  outside i hi := by
    obtain hi | hi := hi
    · rw [← List.getElem?_take_of_lt hi, htake, List.getElem?_take_of_lt hi]
    · rw [← Nat.add_sub_of_le hi, ← List.getElem?_drop, hdrop, List.getElem?_drop]

/-- Texts that agree outside still do so behind what both begin with. -/
theorem tail {front : List Char} (h : AgreeOutside (front.length + a) (front.length + b)
    (front ++ cs) (front ++ ds)) : AgreeOutside a b cs ds where
  breaks := by
    have hbreaks := List.forall₂_drop front.length h.breaks
    rwa [List.drop_left, List.drop_left] at hbreaks
  outside i hi := by
    have hout := h.outside (front.length + i) (by omega)
    rwa [List.getElem?_append_right (Nat.le_add_right _ _),
      List.getElem?_append_right (Nat.le_add_right _ _), Nat.add_sub_cancel_left] at hout

end AgreeOutside

namespace Encloses

variable {rules : Rules} {d : Delimiter} {a b : Nat} {cs ds : List Char}

theorem le_length (h : Encloses rules d a b cs) : a ≤ cs.length := by
  obtain ⟨before, contents, after, hpieces, rfl, -⟩ := h
  rw [← text_pieces rules cs, hpieces, List.flatMap_append, List.flatMap_cons, Piece.text]
  simp only [List.length_append]
  omega

theorem mem_openers (h : Encloses rules d a b cs) : .delimiter d ∈ rules.openers := by
  obtain ⟨before, contents, after, hpieces, -, -⟩ := h
  exact delimiter_mem_openers (hpieces ▸ List.mem_append_right before List.mem_cons_self)

/-- The contents are those of the first piece, or there are pieces in front. -/
theorem here_or_later (h : Encloses rules d a b cs) :
    (∃ contents rest, a = d.opening.length ∧ b = a + contents.length ∧
        cs = d.opening ++ (contents ++ (d.closing ++ rest)) ∧
        mask rules cs =
          d.shown d.opening ++ (blankOut contents ++ d.shown d.closing) ++ mask rules rest) ∨
      ∃ p rest a' b', pieces rules cs = p :: pieces rules rest ∧ cs = p.text ++ rest ∧
        a = p.text.length + a' ∧ b = p.text.length + b' ∧ a' < a ∧ d.opening.length ≤ a' ∧
        Encloses rules d a' b' rest := by
  obtain ⟨before, contents, after, hpieces, rfl, rfl⟩ := h
  cases before with
  | nil =>
    obtain ⟨rest, rfl, hafter⟩ := pieces_tail hpieces
    refine .inl ⟨contents, rest, by simp, rfl, ?_, ?_⟩
    · simp only [Piece.text, if_true, List.append_assoc]
    · rw [mask_eq_masked_pieces, hpieces, List.nil_append, List.flatMap_cons, hafter,
        ← mask_eq_masked_pieces, Piece.masked, if_pos rfl]
  | cons p before =>
    rw [List.cons_append] at hpieces
    have hne : p.text ≠ [] := text_ne_nil_of_mem_pieces (hpieces ▸ List.mem_cons_self)
    have hpos := List.length_pos_iff.mpr hne
    obtain ⟨rest, rfl, hafter⟩ := pieces_tail hpieces
    refine .inr ⟨p, rest, (before.flatMap Piece.text).length + d.opening.length,
      (before.flatMap Piece.text).length + d.opening.length + contents.length, ?_, rfl, ?_, ?_, ?_,
      Nat.le_add_left _ _, before, contents, after, hafter.symm, rfl, rfl⟩
    · rw [hpieces, hafter]
    all_goals
      rw [List.flatMap_cons, List.length_append]
      omega

/-- **Masking does not show contents.** -/
theorem mask_eq (hrules : ∀ o ∈ rules.openers, o.WellFormed) (hcs : Encloses rules d a b cs)
    (hds : Encloses rules d a b ds) (h : AgreeOutside a b cs ds) :
    mask rules cs = mask rules ds := by
  have hopening : 0 < d.opening.length := List.length_pos_iff.mpr (hrules _ hcs.mem_openers)
  -- The pieces in front of the contents go one by one, until the contents are those of the first.
  induction a using Nat.strong_induction_on generalizing b cs ds with
  | _ a ih =>
    obtain ⟨contents, rest, ha, hb, hcs', hmask⟩ |
      ⟨p, rest, a', b', hp, hcs', ha, hb, hlt, hle, hrest⟩ := hcs.here_or_later
    · obtain ⟨contents', rest', -, hb', hds', hmask'⟩ | ⟨q, _, a', _, _, _, ha', _, hlt, hle, _⟩ :=
        hds.here_or_later
      · have hlength : contents.length = contents'.length := by omega
        have hrest : rest = rest' := by
          have hbehind := h.drop_eq
          rw [hcs', hds', hb, ha, List.drop_length_add_append, List.drop_length_add_append,
            List.drop_left, hlength, List.drop_left] at hbehind
          exact List.append_cancel_left hbehind
        have hcontents : blankOut contents = blankOut contents' := by
          have hblank := h.blankOut_eq
          simp only [hcs', hds', blankOut_append] at hblank
          exact (List.append_inj (List.append_cancel_left hblank) (by simpa using hlength)).1
        rw [hmask, hmask', hcontents, hrest]
      · omega
    · obtain ⟨contents', rest', ha', -⟩ |
        ⟨q, rest', a'', b'', hq, hds', ha', hb', -, hle', hrest'⟩ := hds.here_or_later
      · omega
      · have hpq : p = q := first_piece_eq_of_take hrules hp hq h.take_eq h.blankOut_eq
          hcs.le_length (by omega) (by omega)
        subst hpq
        obtain rfl : a' = a'' := by omega
        obtain rfl : b' = b'' := by omega
        rw [hcs', hds', ha, hb] at h
        rw [mask_eq_masked_pieces, mask_eq_masked_pieces, hp, hq, List.flatMap_cons,
          List.flatMap_cons, ← mask_eq_masked_pieces, ← mask_eq_masked_pieces,
          ih a' hlt hrest hrest' h.tail]

end Encloses

end Masking

open Masking

/-! ### Analyses of texts that differ in contents only -/

/-- **Contents of comments and literals do not influence the analysis.** Where two texts differ only
between the marks of one comment or literal that both have there, and in no line break, they are
masked alike, and every dialect with these rules finds the same entities with the same scores. -/
theorem analyze_eq_of_agreeOutside {rules : Rules} (hrules : ∀ o ∈ rules.openers, o.WellFormed)
    {d : Delimiter} {a b : Nat} {cs ds : List Char} (hcs : Encloses rules d a b cs)
    (hds : Encloses rules d a b ds) (h : AgreeOutside a b cs ds) :
    mask rules cs = mask rules ds ∧
      ∀ (dialect : Dialect) (counting : CountingRules), dialect.rules = rules →
        (dialect.analyze counting cs).entities = (dialect.analyze counting ds).entities ∧
          (dialect.analyze counting cs).warnings = (dialect.analyze counting ds).warnings := by
  have hmask := hcs.mask_eq hrules hds h
  refine ⟨hmask, fun dialect counting hdialect => ?_⟩
  subst hdialect
  rw [Dialect.analyze, Dialect.analyze, hmask]
  exact ⟨rfl, rfl⟩

/-- A text block of two lines, which holds an open brace in one text and an open comment
in the other. -/
theorem analyze_eq_of_agreeOutside_textBlock :
    let cs := "f('\"', \"\"\"\n\x7b if\n\"\"\");".toList
    let ds := "f('\"', \"\"\"\n\" /*\n\"\"\");".toList
    let quote : Delimiter := .literal ⟨"\"\"\"".toList, true⟩
    Encloses Java.dialect.rules quote 10 16 cs ∧ Encloses Java.dialect.rules quote 10 16 ds ∧
      AgreeOutside 10 16 cs ds ∧ mask Java.dialect.rules cs = mask Java.dialect.rules ds ∧
      (Java.dialect.analyze {} cs).entities = (Java.dialect.analyze {} ds).entities := by
  intro cs ds quote
  have hrules : ∀ o ∈ Java.dialect.rules.openers, o.WellFormed := by decide
  let before : List Piece :=
    [.code 'f', .code '(', .enclosed (.literal ⟨['\''], false⟩) ['"'] true, .code ',', .code ' ']
  have hcs : Encloses Java.dialect.rules quote 10 16 cs :=
    ⟨before, "\n\x7b if\n".toList, [.code ')', .code ';'], by decide +kernel, by decide, by decide⟩
  have hds : Encloses Java.dialect.rules quote 10 16 ds :=
    ⟨before, "\n\" /*\n".toList, [.code ')', .code ';'], by decide +kernel, by decide, by decide⟩
  have hagree : AgreeOutside 10 16 cs ds := .of_take_drop (by decide) (by decide) (by decide)
  obtain ⟨hmask, hanalyze⟩ := analyze_eq_of_agreeOutside hrules hcs hds hagree
  exact ⟨hcs, hds, hagree, hmask, (hanalyze Java.dialect {} rfl).1⟩

/-- **The marker of line comments has to be in one line.** One that goes on behind a line
feed can end inside a literal of the next line, so that the contents of the literal show in
what stands before. -/
theorem mask_ne_of_marker_in_two_lines :
    let rules : Rules := { lineComments := ["a\n\"X".toList] }
    let cs := "a\n\"X\"".toList
    let ds := "a\n\"Y\"".toList
    let quote : Delimiter := .literal ⟨['"'], false⟩
    (∀ o ∈ rules.openers, o.mark ≠ []) ∧
      (∀ marker ∈ rules.lineComments, marker.head? ≠ some '\r' ∧ marker.head? ≠ some '\n') ∧
      Encloses rules quote 3 4 cs ∧ Encloses rules quote 3 4 ds ∧ AgreeOutside 3 4 cs ds ∧
      mask rules cs ≠ mask rules ds := by
  intro rules cs ds quote
  refine ⟨by decide, by decide, ?_, ?_, .of_take_drop (by decide) (by decide) (by decide),
    by decide⟩
  · exact ⟨[.lineComment ['a'], .code '\n'], ['X'], [], by decide +kernel, by decide, by decide⟩
  · exact ⟨[.code 'a', .code '\n'], ['Y'], [], by decide +kernel, by decide, by decide⟩

end SourceMetrics
