import SourceMetrics.Proofs.Outline.Fields

/-!
# Matching braces

A block ends where the braces from its opening brace on balance for the first time. The scan counts
them over the lines, from the column of the opening brace on the first of them and from the start on
the others, and stops at the closing brace that brings the count back to zero. As a brace changes
the count by one, the count is positive all the way from the opening brace to that one.

So the count is positive in front of a brace that opens inside the block, and behind the block it is
zero. It has to come back on the way to what it was in front of the inner brace, and it does so
before the block ends: inner blocks are closed, and they end inside.

## Main definitions

* `Place.Before`, `Place.Within` — the order of places, and the places on some lines
* `charAt?`, `textBefore`, `between` — what stands at a place, before it, and between two
* `IsBlock` — a stretch from an opening brace to the brace that closes it
* `LineReading`, `LinesReading` — how reading on for a closing brace ends

## Main results

* `lineReading_closeLine`, `linesReading_closeLines` — it ends so within a line and over lines
* `blockEnd?_cases` — what reading on from an opening brace finds
* `IsBlock.exists_inner` — a brace that opens inside a block is closed inside
* `Extent.ofBlock_exact` — blocks are found exactly, and they are nested
-/

namespace SourceMetrics

open Outline (balanceBefore)

/-! ### Places -/

/-- The first place comes before the second. -/
def Place.Before (p q : Place) : Prop :=
  p.line < q.line ∨ p.line = q.line ∧ p.column < q.column

instance (p q : Place) : Decidable (p.Before q) := inferInstanceAs (Decidable (_ ∨ _))

/-- The place behind the character at a place. -/
def Place.next (p : Place) : Place := ⟨p.line, p.column + 1⟩

/-- The place is on one of the lines, at most behind its last character. -/
def Place.Within (lines : List (List Char)) (p : Place) : Prop :=
  ∃ line, lines[p.line]? = some line ∧ p.column ≤ line.length

/-- The character at a place. -/
def charAt? (lines : List (List Char)) (p : Place) : Option Char :=
  lines[p.line]?.bind fun cs => cs[p.column]?

/-- The text before a place. -/
def textBefore (lines : List (List Char)) (p : Place) : List Char :=
  (lines.take p.line).flatten ++ (lines.getD p.line []).take p.column

/-- The text from one place up to another. -/
def between (lines : List (List Char)) (p q : Place) : List Char :=
  (textBefore lines q).drop (textBefore lines p).length

/-- The text from an opening brace through a closing one is the shortest in which braces balance. -/
structure IsBlock (lines : List (List Char)) (start last : Place) : Prop where
  closes : charAt? lines last = some '\x7d'
  before : start.Before last
  balanced : braceBalance (between lines start last.next) = 0
  shortest : ∀ p, p.Within lines → start.Before p → p.Before last.next →
    braceBalance (between lines start p) ≠ 0

namespace Place

variable {p q r : Place}

theorem Before.trans (h : p.Before q) (h' : q.Before r) : p.Before r := by
  rw [Before] at h h' ⊢
  omega

theorem Before.not_before (h : p.Before q) : ¬q.Before p := by
  rw [Before] at h ⊢
  omega

theorem before_or_eq_or_before (p q : Place) : p.Before q ∨ p = q ∨ q.Before p := by
  rw [Before, Before, Place.mk.injEq]
  omega

theorem before_next_iff : p.Before q.next ↔ ¬q.Before p := by
  simp only [Before, next]
  omega

theorem Before.line_le (h : p.Before q) : p.line ≤ q.line := by
  rw [Before] at h
  omega

theorem Before.next (h : p.Before q) : p.next.Before q.next := by
  simp only [Before, Place.next] at h ⊢
  omega

end Place

variable {lines : List (List Char)} {p q : Place} {c : Char}

theorem charAt?_eq_some_iff :
    charAt? lines p = some c ↔ ∃ cs, lines[p.line]? = some cs ∧ cs[p.column]? = some c :=
  Option.bind_eq_some_iff

theorem within_of_charAt? (h : charAt? lines p = some c) :
    p.Within lines ∧ p.next.Within lines := by
  obtain ⟨line, hline, hc⟩ := charAt?_eq_some_iff.mp h
  obtain ⟨hlt, -⟩ := List.getElem?_eq_some_iff.mp hc
  exact ⟨⟨line, hline, hlt.le⟩, line, hline, hlt⟩

/-- A place has at least the text before it that an earlier place has. -/
theorem textBefore_isPrefix (hp : p.Within lines) (h : ¬q.Before p) :
    textBefore lines p <+: textBefore lines q := by
  obtain ⟨line, hline, -⟩ := hp
  rw [Place.Before] at h
  by_cases hlines : p.line = q.line
  · rw [textBefore, textBefore, hlines, List.prefix_append_right_inj]
    exact List.take_prefix_take_left (by omega)
  · have hnext : lines.take (p.line + 1) <+: lines.take q.line :=
      List.take_prefix_take_left (by omega)
    have htake : textBefore lines p <+: (lines.take (p.line + 1)).flatten := by
      rw [textBefore, List.take_add_one, hline, List.flatten_append, List.prefix_append_right_inj,
        List.getD, hline]
      simpa using List.take_prefix _ _
    obtain ⟨more, hmore⟩ := hnext
    refine htake.trans ?_
    rw [textBefore, ← hmore, List.flatten_append, List.append_assoc]
    exact List.prefix_append _ _

/-- Opening less closing braces before a place. -/
def balanceAt (lines : List (List Char)) (p : Place) : Int := braceBalance (textBefore lines p)

theorem braceBalance_between (hp : p.Within lines) (h : ¬q.Before p) :
    braceBalance (between lines p q) = balanceAt lines q - balanceAt lines p := by
  obtain ⟨more, hmore⟩ := textBefore_isPrefix hp h
  rw [between, balanceAt, balanceAt, ← hmore, List.drop_left, braceBalance_append]
  omega

theorem balanceAt_eq {line : List Char} {k : Nat} (h : lines[k]? = some line) (column : Nat) :
    balanceAt lines ⟨k, column⟩ = balanceBefore lines k + braceBalance (line.take column) := by
  rw [balanceAt, textBefore, braceBalance_append, List.getD, h]
  rfl

theorem balanceAt_add {line : List Char} {k : Nat} (h : lines[k]? = some line) (column n : Nat) :
    balanceAt lines ⟨k, column + n⟩ =
      balanceAt lines ⟨k, column⟩ + braceBalance ((line.drop column).take n) := by
  rw [balanceAt_eq h, balanceAt_eq h, List.take_add, braceBalance_append, Int.add_assoc]

theorem balanceAt_nextLine {line : List Char} {k : Nat} (h : lines[k]? = some line) (column : Nat) :
    balanceAt lines ⟨k + 1, 0⟩ = balanceAt lines ⟨k, column⟩ + braceBalance (line.drop column) := by
  have hstart : balanceAt lines ⟨k + 1, 0⟩ = balanceBefore lines (k + 1) := by
    rw [balanceAt, textBefore, List.take_zero, List.append_nil, balanceBefore]
  rw [hstart, Outline.balanceBefore_succ h, balanceAt_eq h, Int.add_assoc, ← braceBalance_append,
    List.take_append_drop]

/-! ### Reading on in a line -/

/-- With `depth` braces open, reading the text leaves some open all the way. -/
def StaysOpen (depth : Int) (cs : List Char) : Prop := ∀ n, 0 < depth + braceBalance (cs.take n)

theorem braceBalance_cons (c : Char) (cs : List Char) :
    braceBalance (c :: cs) = braceBalance [c] + braceBalance cs :=
  braceBalance_append [c] cs

theorem braceBalance_singleton (h : c ≠ '\x7b') (h' : c ≠ '\x7d') : braceBalance [c] = 0 := by
  simp [braceBalance, h, h']

theorem StaysOpen.pos {depth : Int} {cs : List Char} (h : StaysOpen depth cs) :
    0 < depth + braceBalance cs := by
  have hall := h cs.length
  rwa [List.take_length] at hall

theorem staysOpen_nil {depth : Int} (h : 0 < depth) : StaysOpen depth [] := fun n => by
  rwa [List.take_nil, braceBalance_nil, Int.add_zero]

theorem StaysOpen.cons {depth : Int} {cs : List Char} (hdepth : 0 < depth)
    (h : StaysOpen (depth + braceBalance [c]) cs) : StaysOpen depth (c :: cs) := by
  intro n
  cases n with
  | zero => rwa [List.take_zero, braceBalance_nil, Int.add_zero]
  | succ n =>
    rw [List.take_succ_cons, braceBalance_cons, ← Int.add_assoc]
    exact h n

/-- How reading a line from `column` on ends, with `depth` braces open: right behind the brace that
closes the last of them, or with some still open. -/
inductive LineReading (depth : Int) (column : Nat) : List Char → Closing → Prop
  | closed (xs ys : List Char) (stays : StaysOpen depth xs)
      (depth_eq : depth + braceBalance xs = 1) :
      LineReading depth column (xs ++ '\x7d' :: ys) (.closed (column + xs.length + 1))
  | unclosed (cs : List Char) (inner : Int) (stays : StaysOpen depth cs)
      (inner_eq : inner = depth + braceBalance cs) :
      LineReading depth column cs (.unclosed inner)

/-- A character that leaves braces open changes their number and nothing else. -/
theorem LineReading.cons {depth inner : Int} {column : Nat} {rest : List Char} {closing : Closing}
    (hdepth : 0 < depth) (hinner : inner = depth + braceBalance [c])
    (h : LineReading inner (column + 1) rest closing) :
    LineReading depth column (c :: rest) closing := by
  cases h with
  | closed xs ys stays depth_eq =>
    rw [hinner] at stays depth_eq
    have hclosed : LineReading depth column (c :: xs ++ '\x7d' :: ys)
        (.closed (column + (c :: xs).length + 1)) :=
      closed (c :: xs) ys (stays.cons hdepth) (by rw [braceBalance_cons, ← Int.add_assoc, depth_eq])
    rwa [List.length_cons, Nat.add_comm xs.length, ← Nat.add_assoc] at hclosed
  | unclosed _ last stays inner_eq =>
    rw [hinner] at stays inner_eq
    exact unclosed _ last (stays.cons hdepth)
      (by rw [inner_eq, braceBalance_cons c rest, Int.add_assoc])

theorem lineReading_closeLine {depth : Int} (hdepth : 0 < depth) (column : Nat) (cs : List Char) :
    LineReading depth column cs (closeLine depth column cs) := by
  induction cs generalizing depth column with
  | nil => exact .unclosed [] depth (staysOpen_nil hdepth) (by simp)
  | cons c rest ih =>
    by_cases hopening : c = '\x7b'
    · subst hopening
      exact (ih (Int.lt_trans hdepth (Int.lt_succ depth)) (column + 1)).cons hdepth rfl
    rw [closeLine, if_neg hopening]
    by_cases hclosing : c = '\x7d'
    · subst hclosing
      rw [if_pos rfl]
      by_cases hlast : depth = 1
      · subst hlast
        rw [if_pos rfl]
        exact .closed [] rest (staysOpen_nil hdepth) rfl
      · rw [if_neg hlast]
        have hinner : 0 < depth - 1 := by omega
        exact (ih hinner (column + 1)).cons hdepth rfl
    · rw [if_neg hclosing]
      refine (ih hdepth (column + 1)).cons hdepth ?_
      rw [braceBalance_singleton hopening hclosing, Int.add_zero]

/-! ### Reading on over lines -/

/-- Some of `depth` braces that are open at one place are open at another. -/
def OpenAt (lines : List (List Char)) (depth : Int) (here p : Place) : Prop :=
  0 < depth + (balanceAt lines p - balanceAt lines here)

/-- How reading lines from a place on ends, with `depth` braces open: right behind the brace that
closes the last of them, or with some open to the end of the lines. -/
inductive LinesReading (lines : List (List Char)) (depth : Int) (here : Place) : Option Place → Prop
  | closed (last : Place) (closes : charAt? lines last = some '\x7d')
      (not_before : ¬last.Before here)
      (depth_eq : depth + (balanceAt lines last - balanceAt lines here) = 1)
      (stays : ∀ p, p.Within lines → ¬p.Before here → ¬last.Before p → OpenAt lines depth here p) :
      LinesReading lines depth here (some last.next)
  | unclosed (stays : ∀ p, p.Within lines → ¬p.Before here → OpenAt lines depth here p) :
      LinesReading lines depth here none

section Lines

variable {first : List Char} {k column : Nat}

/-- A text at the front of the rest of a line that leaves braces open does so at its places. -/
theorem StaysOpen.openAt {depth : Int} {xs ys : List Char} (hfirst : lines[k]? = some first)
    (hdrop : first.drop column = xs ++ ys) (h : StaysOpen depth xs) (hline : p.line = k)
    (hcolumn : column ≤ p.column) (hlength : p.column ≤ column + xs.length) :
    OpenAt lines depth ⟨k, column⟩ p := by
  obtain ⟨n, hn⟩ := Nat.exists_eq_add_of_le hcolumn
  have hp : p = ⟨k, column + n⟩ := by rw [← hline, ← hn]
  have hpos := h n
  rw [OpenAt, hp, balanceAt_add hfirst, hdrop, List.take_append_of_le_length (by omega)]
  omega

/-- A line that leaves braces open is followed by the lines behind it. -/
theorem LinesReading.nextLine {depth inner : Int} {result : Option Place}
    (hfirst : lines[k]? = some first) (hstays : StaysOpen depth (first.drop column))
    (hinner : inner = depth + braceBalance (first.drop column))
    (h : LinesReading lines inner ⟨k + 1, 0⟩ result) :
    LinesReading lines depth ⟨k, column⟩ result := by
  have hnext := balanceAt_nextLine hfirst column
  have hopen : ∀ p, p.Within lines → ¬p.Before ⟨k, column⟩ →
      (¬p.Before ⟨k + 1, 0⟩ → OpenAt lines inner ⟨k + 1, 0⟩ p) →
        OpenAt lines depth ⟨k, column⟩ p := by
    intro p hp hhere hlater
    by_cases hline : p.line = k
    · obtain ⟨line, hget, hle⟩ := hp
      rw [hline, hfirst, Option.some.injEq] at hget
      subst hget
      simp only [Place.Before] at hhere
      refine hstays.openAt hfirst (List.append_nil _).symm hline (by omega) ?_
      rw [List.length_drop]
      omega
    · have hpos := hlater (by simp only [Place.Before] at hhere ⊢; omega)
      rw [OpenAt] at hpos ⊢
      omega
  cases h with
  | closed last closes not_before depth_eq stays =>
    refine .closed last closes ?_ (by omega) fun p hp hhere hlast =>
      hopen p hp hhere fun hlater => stays p hp hlater hlast
    simp only [Place.Before] at not_before ⊢
    omega
  | unclosed stays => exact .unclosed fun p hp hhere => hopen p hp hhere (stays p hp)

/-- Reading a line ends the search, or the lines behind it are read. -/
theorem linesReading_of_line {rest : List (List Char)} {depth : Int} (hdepth : 0 < depth)
    (hfirst : lines[k]? = some first)
    (hlater : ∀ inner : Int, 0 < inner →
      LinesReading lines inner ⟨k + 1, 0⟩ (closeLines inner (k + 1) 0 rest)) :
    LinesReading lines depth ⟨k, column⟩
      (closeLines depth k column (first.drop column :: rest)) := by
  have hread := lineReading_closeLine hdepth column (first.drop column)
  rw [closeLines]
  generalize hdrop : first.drop column = cs at hread ⊢
  generalize closeLine depth column cs = closing at hread ⊢
  cases hread with
  | closed xs ys stays depth_eq =>
    refine LinesReading.closed ⟨k, column + xs.length⟩ ?_ ?_ ?_ fun p _ hhere hlast => ?_
    · rw [charAt?_eq_some_iff]
      refine ⟨first, hfirst, ?_⟩
      rw [← List.getElem?_drop, hdrop]
      simp
    · simp only [Place.Before]
      omega
    · rw [balanceAt_add hfirst, hdrop, List.take_left]
      omega
    · simp only [Place.Before] at hhere hlast
      exact stays.openAt hfirst hdrop (by omega) (by omega) (by omega)
  | unclosed _ inner stays inner_eq =>
    have hpos := stays.pos
    subst hdrop
    exact (hlater inner (by omega)).nextLine hfirst stays inner_eq

theorem linesReading_closeLines {rest : List (List Char)} {depth : Int} (hdepth : 0 < depth)
    (hdrop : lines.drop k = rest) :
    LinesReading lines depth ⟨k, 0⟩ (closeLines depth k 0 rest) := by
  induction rest generalizing k depth with
  | nil =>
    refine .unclosed fun p hp hhere => ?_
    obtain ⟨line, hline, -⟩ := hp
    have hlength := List.drop_eq_nil_iff.mp hdrop
    have hlt := (List.getElem?_eq_some_iff.mp hline).1
    simp only [Place.Before] at hhere
    omega
  | cons first rest ih =>
    have hfirst : lines[k]? = some first := by rw [← List.head?_drop, hdrop, List.head?_cons]
    have hrest : lines.drop (k + 1) = rest := by rw [← List.tail_drop, hdrop, List.tail_cons]
    exact linesReading_of_line hdepth hfirst fun inner hinner => ih hinner hrest

end Lines

/-! ### Blocks -/

section Block

variable {start last : Place}

theorem balanceAt_next (h : charAt? lines p = some c) :
    balanceAt lines p.next = balanceAt lines p + braceBalance [c] := by
  obtain ⟨line, hline, hc⟩ := charAt?_eq_some_iff.mp h
  obtain ⟨hlt, rfl⟩ := List.getElem?_eq_some_iff.mp hc
  have hadd := balanceAt_add hline p.column 1
  rwa [List.drop_eq_getElem_cons hlt, List.take_succ_cons, List.take_zero] at hadd

/-- Reading on from an opening brace starts with one brace open. -/
theorem linesReading_blockEnd? (hopen : charAt? lines start = some '\x7b') :
    LinesReading lines 1 start.next (blockEnd? lines start) := by
  obtain ⟨first, hfirst, hbrace⟩ := charAt?_eq_some_iff.mp hopen
  obtain ⟨hlt, hbrace⟩ := List.getElem?_eq_some_iff.mp hbrace
  have hlines : lines.drop start.line = first :: lines.drop (start.line + 1) := by
    rw [List.drop_eq_getElem?_toList_append, hfirst]
    rfl
  have hread : LinesReading lines 1 start.next (closeLines 1 start.line (start.column + 1)
      (first.drop (start.column + 1) :: lines.drop (start.line + 1))) :=
    linesReading_of_line Int.one_pos hfirst fun inner hinner => linesReading_closeLines hinner rfl
  rw [blockEnd?, hlines]
  dsimp only
  rw [List.drop_eq_getElem_cons hlt, hbrace, closeLines, closeLine, if_pos rfl]
  rwa [closeLines] at hread

/-- **Reading on from an opening brace** finds the first closing brace with which the braces
balance, or finds that they never do. Up to there more braces open than close. -/
theorem blockEnd?_cases (hopen : charAt? lines start = some '\x7b') :
    (∃ last, blockEnd? lines start = some last.next ∧ IsBlock lines start last ∧
        ∀ p, p.Within lines → start.Before p → p.Before last.next →
          0 < braceBalance (between lines start p)) ∨
      blockEnd? lines start = none ∧
        ∀ p, p.Within lines → start.Before p → 0 < braceBalance (between lines start p) := by
  have hstart := (within_of_charAt? hopen).1
  have hone : balanceAt lines start.next = balanceAt lines start + 1 := balanceAt_next hopen
  have hpos : ∀ p, start.Before p → OpenAt lines 1 start.next p →
      0 < braceBalance (between lines start p) := by
    intro p hp hat
    rw [OpenAt] at hat
    rw [braceBalance_between hstart hp.not_before]
    omega
  have hread := linesReading_blockEnd? hopen
  generalize blockEnd? lines start = result at hread ⊢
  cases hread with
  | closed last closes not_before depth_eq stays =>
    rw [Place.before_next_iff, not_not] at not_before
    have hstays : ∀ p, p.Within lines → start.Before p → p.Before last.next →
        0 < braceBalance (between lines start p) := fun p hp hlow hhigh =>
      hpos p hlow (stays p hp (mt Place.before_next_iff.mp (not_not.mpr hlow))
        (Place.before_next_iff.mp hhigh))
    have hlast : balanceAt lines last.next = balanceAt lines last + -1 := balanceAt_next closes
    have hnext : start.Before last.next := Place.before_next_iff.mpr not_before.not_before
    refine .inl ⟨last, rfl, ⟨closes, not_before, ?_, fun p hp hlow hhigh => ?_⟩, hstays⟩
    · rw [braceBalance_between hstart hnext.not_before]
      omega
    · exact Int.ne_of_gt (hstays p hp hlow hhigh)
  | unclosed stays =>
    exact .inr ⟨rfl, fun p hp hlow =>
      hpos p hlow (stays p hp (mt Place.before_next_iff.mp (not_not.mpr hlow)))⟩

/-- A block is found, and more braces open than close up to its end. -/
theorem IsBlock.blockEnd?_eq (hopen : charAt? lines start = some '\x7b')
    (h : IsBlock lines start last) :
    blockEnd? lines start = some last.next ∧
      ∀ p, p.Within lines → start.Before p → p.Before last.next →
        0 < braceBalance (between lines start p) := by
  have hnext : start.Before last.next := Place.before_next_iff.mpr h.before.not_before
  have hwithin := (within_of_charAt? h.closes).2
  rcases blockEnd?_cases hopen with ⟨found, hfound, hblock, hpos⟩ | ⟨-, hpos⟩
  · rcases found.before_or_eq_or_before last with hlow | rfl | hhigh
    · -- braces would balance in a shorter stretch
      exact absurd hblock.balanced (h.shortest _ (within_of_charAt? hblock.closes).2
        (Place.before_next_iff.mpr hblock.before.not_before) hlow.next)
    · exact ⟨hfound, hpos⟩
    · exact absurd h.balanced (Int.ne_of_gt (hpos last.next hwithin hnext hhigh.next))
  · exact absurd h.balanced (Int.ne_of_gt (hpos last.next hwithin hnext))

/-- What reading on from an opening brace finds is the end of its block. -/
theorem blockEnd?_eq_some_iff (hopen : charAt? lines start = some '\x7b') {stop : Place} :
    blockEnd? lines start = some stop ↔ ∃ last, stop = last.next ∧ IsBlock lines start last := by
  constructor
  · intro h
    rcases blockEnd?_cases hopen with ⟨last, hlast, hblock, -⟩ | ⟨hnone, -⟩
    · rw [h, Option.some.injEq] at hlast
      exact ⟨last, hlast, hblock⟩
    · rw [h] at hnone
      cases hnone
  · rintro ⟨last, rfl, hblock⟩
    exact (hblock.blockEnd?_eq hopen).1

/-- **Blocks are nested**: a brace that opens within a block is closed before the block is. -/
theorem IsBlock.exists_inner {inner : Place} (hopen : charAt? lines start = some '\x7b')
    (h : IsBlock lines start last) (hinner : charAt? lines inner = some '\x7b')
    (hlow : start.Before inner) (hhigh : inner.Before last) :
    ∃ innerLast : Place, blockEnd? lines inner = some innerLast.next ∧ innerLast.Before last := by
  have hnext : inner.Before last.next := Place.before_next_iff.mpr hhigh.not_before
  have hwithin := (within_of_charAt? h.closes).2
  -- the braces that are open in front of the inner one are closed as well when the block ends
  have hfall : braceBalance (between lines inner last.next) < 0 := by
    have hrise := (h.blockEnd?_eq hopen).2 inner (within_of_charAt? hinner).1 hlow hnext
    have hbalanced := h.balanced
    rw [braceBalance_between (within_of_charAt? hopen).1 (hlow.trans hnext).not_before] at hbalanced
    rw [braceBalance_between (within_of_charAt? hopen).1 hlow.not_before] at hrise
    rw [braceBalance_between (within_of_charAt? hinner).1 hnext.not_before]
    omega
  rcases blockEnd?_cases hinner with ⟨found, hfound, hblock, hpos⟩ | ⟨-, hpos⟩
  · refine ⟨found, hfound, ?_⟩
    rcases found.before_or_eq_or_before last with hend | rfl | hend
    · exact hend
    · exact absurd hblock.balanced (Int.ne_of_lt hfall)
    · exact absurd (hpos last.next hwithin hnext hend.next) (Int.not_lt.mpr (Int.le_of_lt hfall))
  · exact absurd (hpos last.next hwithin hnext) (Int.not_lt.mpr (Int.le_of_lt hfall))

end Block

/-! ### Ranges of lines -/

section Take

variable {limit : Nat}

theorem line_lt_of_charAt? (h : charAt? lines p = some c) : p.line < lines.length := by
  obtain ⟨line, hline, -⟩ := charAt?_eq_some_iff.mp h
  exact (List.getElem?_eq_some_iff.mp hline).1

theorem charAt?_take (h : p.line < limit) : charAt? (lines.take limit) p = charAt? lines p := by
  rw [charAt?, charAt?, List.getElem?_take_of_lt h]

theorem within_take_iff (h : p.line < limit) : p.Within (lines.take limit) ↔ p.Within lines := by
  rw [Place.Within, Place.Within, List.getElem?_take_of_lt h]

theorem textBefore_take (h : p.line < limit) :
    textBefore (lines.take limit) p = textBefore lines p := by
  rw [textBefore, textBefore, List.take_take, Nat.min_eq_left h.le, List.getD, List.getD,
    List.getElem?_take_of_lt h]

theorem between_take (hp : p.line < limit) (hq : q.line < limit) :
    between (lines.take limit) p q = between lines p q := by
  rw [between, between, textBefore_take hp, textBefore_take hq]

/-- A block of the first lines is a block that ends on them. -/
theorem isBlock_take_iff {start last : Place} (hstart : start.line < limit) :
    IsBlock (lines.take limit) start last ↔ last.line < limit ∧ IsBlock lines start last := by
  have hline : ∀ {p : Place}, last.line < limit → p.Before last.next → p.line < limit :=
    fun hlast hp => hp.line_le.trans_lt hlast
  constructor
  · intro h
    have hlast : last.line < limit :=
      (line_lt_of_charAt? h.closes).trans_le (List.length_take_le limit lines)
    refine ⟨hlast, charAt?_take hlast ▸ h.closes, h.before, ?_, fun p hp hlow hhigh => ?_⟩
    · rw [← between_take hstart (q := last.next) hlast]
      exact h.balanced
    · rw [← between_take hstart (hline hlast hhigh)]
      exact h.shortest p ((within_take_iff (hline hlast hhigh)).mpr hp) hlow hhigh
  · rintro ⟨hlast, h⟩
    refine ⟨(charAt?_take hlast).trans h.closes, h.before, ?_, fun p hp hlow hhigh => ?_⟩
    · rw [between_take hstart (q := last.next) hlast]
      exact h.balanced
    · rw [between_take hstart (hline hlast hhigh)]
      exact h.shortest p ((within_take_iff (hline hlast hhigh)).mp hp) hlow hhigh

end Take

namespace Extent

theorem ofBlock_eq_iff {start : Place} {e k : Nat} :
    ofBlock lines start = ⟨e, some k, true⟩ ↔ blockEnd? lines start = some ⟨e, k⟩ := by
  rw [ofBlock]
  cases blockEnd? lines start with
  | none => simp
  | some stop =>
    cases stop
    simp

section Range

variable {limit : Nat} {start : Place} (hline : start.line < limit)
  (hopen : charAt? lines start = some '\x7b')

include hline hopen

/-- The block of an opening brace is closed just if it has an end among the lines. -/
theorem ofBlock_take_eq_iff {e k : Nat} :
    ofBlock (lines.take limit) start = ⟨e, some k, true⟩ ↔
      ∃ j, k = j + 1 ∧ e < limit ∧ IsBlock lines start ⟨e, j⟩ := by
  rw [ofBlock_eq_iff, blockEnd?_eq_some_iff ((charAt?_take hline).trans hopen)]
  simp only [isBlock_take_iff hline]
  constructor
  · rintro ⟨last, hstop, hlast, hblock⟩
    obtain ⟨rfl, rfl⟩ := (Place.mk.injEq ..).mp hstop
    exact ⟨last.column, rfl, hlast, hblock⟩
  · rintro ⟨j, rfl, hlast, hblock⟩
    exact ⟨⟨e, j⟩, rfl, hlast, hblock⟩

/-- A block without an end among the lines ends on the last of them. -/
theorem ofBlock_take_of_no_block (hlimit : limit ≤ lines.length)
    (h : ∀ last : Place, last.line < limit → ¬IsBlock lines start last) :
    ofBlock (lines.take limit) start = ⟨limit - 1, none, false⟩ := by
  have hend : blockEnd? (lines.take limit) start = none := by
    rw [Option.eq_none_iff_forall_ne_some]
    intro stop hstop
    obtain ⟨last, -, hblock⟩ :=
      (blockEnd?_eq_some_iff ((charAt?_take hline).trans hopen)).mp hstop
    obtain ⟨hlast, hblock⟩ := (isBlock_take_iff hline).mp hblock
    exact h last hlast hblock
  rw [ofBlock, hend, List.length_take, Nat.min_eq_left hlimit, Nat.max_eq_right (by omega)]

end Range

/-- **Blocks are found exactly, and they are nested.** Among the lines before number `limit`, the
block of an opening brace ends right behind the closing brace at a place just if the text through
that brace is the shortest in which braces balance. If there is no such place, the block is unclosed
and ends on the last of the lines. A brace that opens inside a block is closed on the lines of the
block, before its end. -/
theorem ofBlock_exact {limit : Nat} (hlimit : limit ≤ lines.length) {start : Place}
    (hline : start.line < limit) (hopen : charAt? lines start = some '\x7b') :
    (∀ e k, ofBlock (lines.take limit) start = ⟨e, some k, true⟩ ↔
        ∃ j, k = j + 1 ∧ e < limit ∧ IsBlock lines start ⟨e, j⟩) ∧
      ((∀ last : Place, last.line < limit → ¬IsBlock lines start last) →
        ofBlock (lines.take limit) start = ⟨limit - 1, none, false⟩) ∧
      ∀ e k, ofBlock (lines.take limit) start = ⟨e, some k, true⟩ →
        ∀ inner : Place, charAt? lines inner = some '\x7b' → start.Before inner →
          inner.Before ⟨e, k - 1⟩ →
          ∃ e' k', ofBlock (lines.take (e + 1)) inner = ⟨e', some k', true⟩ ∧
            Place.Before ⟨e', k'⟩ ⟨e, k⟩ := by
  refine ⟨fun e k => ofBlock_take_eq_iff hline hopen,
    ofBlock_take_of_no_block hline hopen hlimit, fun e k hclosed inner hinner hlow hhigh => ?_⟩
  obtain ⟨j, rfl, -, hblock⟩ := (ofBlock_take_eq_iff hline hopen).mp hclosed
  have hstart : start.line < e + 1 := Nat.lt_succ_of_le hblock.before.line_le
  have hwithin : inner.line < e + 1 := Nat.lt_succ_of_le hhigh.line_le
  obtain ⟨last, hlast, hbefore⟩ :=
    ((isBlock_take_iff hstart).mpr ⟨Nat.lt_succ_self e, hblock⟩).exists_inner
      ((charAt?_take hstart).trans hopen) ((charAt?_take hwithin).trans hinner) hlow hhigh
  exact ⟨last.line, last.column + 1, ofBlock_eq_iff.mpr hlast, hbefore.next⟩

/-- A block over three lines, a block inside it, and a brace that is closed behind
the range only. -/
theorem ofBlock_exact_three_lines :
    let lines := ["\x7d f \x7b", "  \x7b\x7b \x7d", "\x7d \x7d \x7b", "\x7d"].map String.toList
    IsBlock lines ⟨0, 4⟩ ⟨2, 2⟩ ∧
      (∃ e k, ofBlock (lines.take 3) ⟨1, 2⟩ = ⟨e, some k, true⟩ ∧ Place.Before ⟨e, k⟩ ⟨2, 3⟩) ∧
      ofBlock (lines.take 3) ⟨2, 4⟩ = ⟨2, none, false⟩ ∧
      (∀ last : Place, last.line < 3 → ¬IsBlock lines ⟨2, 4⟩ last) ∧
        IsBlock lines ⟨2, 4⟩ ⟨3, 0⟩ := by
  intro lines
  have hfirst : charAt? lines ⟨0, 4⟩ = some '\x7b' := by decide
  have hthird : charAt? lines ⟨2, 4⟩ = some '\x7b' := by decide
  have hclosed : ofBlock (lines.take 3) ⟨0, 4⟩ = ⟨2, some 3, true⟩ := by decide
  have hunclosed : ofBlock (lines.take 3) ⟨2, 4⟩ = ⟨2, none, false⟩ := by decide
  have hlimit : 3 ≤ lines.length := by decide
  obtain ⟨hfound, -, hnested⟩ := ofBlock_exact hlimit (by decide) hfirst
  obtain ⟨j, hj, -, hblock⟩ := (hfound 2 3).mp hclosed
  obtain ⟨j', hj', -, hblock'⟩ :=
    ((ofBlock_exact (Nat.le_refl lines.length) (by decide) hthird).1 3 1).mp (by decide)
  cases hj
  cases hj'
  refine ⟨hblock, hnested 2 3 hclosed ⟨1, 2⟩ (by decide) (by decide) (by decide), hunclosed,
    fun last hlast h => ?_, hblock'⟩
  have hfound' := (ofBlock_exact hlimit (by decide) hthird).1 last.line (last.column + 1)
  rw [hunclosed] at hfound'
  exact absurd (hfound'.mpr ⟨last.column, rfl, hlast, h⟩) (by simp)

end Extent

end SourceMetrics
