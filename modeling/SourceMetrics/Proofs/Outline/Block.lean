import Mathlib.Data.List.Basic
import SourceMetrics.Outline.Scan

/-!
# How far a declaration reaches

Every place that belongs to a declaration lies on one of the lines it was looked for on, whatever
these lines hold: a parameter list or a block that is never closed ends on the last line, and the
brace on the line behind a header is taken only if that line is there. An extent moreover has a
column only behind a closing brace. `Extent.Fits` says both, and it is all that the rest of the
theory needs to know about parentheses and braces.

## Main definitions

* `ClosesAt` — a closing brace stands before a column
* `Extent.Fits` — an extent ends on one of the lines

## Main results

* `findBody?_line` — where a body can open
* `Dialect.exists_of_classHead?`, `Dialect.exists_of_functionHead?` — how something comes to be
  declared
* `Dialect.fits_of_classHead?`, `Dialect.fits_of_functionHead?` — what is declared on a line fits
-/

namespace SourceMetrics

/-! ### Parameter lists -/

theorem line_parenLines (depth : Int) (line column : Nat) (first : List Char)
    (rest : List (List Char)) :
    line ≤ (parenLines depth line column (first :: rest)).2.line ∧
      (parenLines depth line column (first :: rest)).2.line ≤ line + rest.length := by
  induction rest generalizing depth line column first with
  | nil =>
    rw [parenLines]
    split <;> simp
  | cons next more ih =>
    rw [parenLines]
    split
    · simp
    · next text inner hline =>
      have hrest := ih inner (line + 1) 0 next
      simp only [List.length_cons]
      omega

/-- A parameter list ends on one of the lines. -/
theorem parenSpan_line {lines : List (List Char)} (h : lines ≠ []) (column : Nat) :
    (parenSpan lines column).2.line < lines.length := by
  cases lines with
  | nil => exact absurd rfl h
  | cons first rest =>
    have hrange := line_parenLines 0 0 column (first.drop column) rest
    rw [parenSpan, List.length_cons]
    omega

/-! ### Bodies -/

/-- A body opens on the line on which the header ends or on the next one. -/
theorem findBody?_line {lines : List (List Char)} {header body : Place}
    (hheader : header.line < lines.length) (h : findBody? lines header = some body) :
    header.line ≤ body.line ∧ body.line < lines.length := by
  rw [findBody?] at h
  split at h
  · cases h
    exact ⟨Nat.le_refl _, hheader⟩
  · cases h
  · split at h
    · next next hnext =>
      obtain ⟨column, -, rfl⟩ := Option.map_eq_some_iff.mp h
      exact ⟨Nat.le_succ _, (List.getElem?_eq_some_iff.mp hnext).1⟩
    · cases h

/-! ### Blocks -/

/-- The character before a column is a closing brace. -/
def ClosesAt (line : List Char) (column : Nat) : Prop :=
  ∃ xs ys, line = xs ++ '\x7d' :: ys ∧ column = xs.length + 1

theorem ClosesAt.cons {line : List Char} {column : Nat} (h : ClosesAt line column) (c : Char) :
    ClosesAt (c :: line) (column + 1) := by
  obtain ⟨xs, ys, rfl, rfl⟩ := h
  exact ⟨c :: xs, ys, rfl, rfl⟩

theorem ClosesAt.of_drop {line : List Char} {n column : Nat} (h : ClosesAt (line.drop n) column) :
    ClosesAt line (n + column) := by
  induction line generalizing n with
  | nil =>
    obtain ⟨xs, ys, hline, -⟩ := h
    simp at hline
  | cons c rest ih =>
    cases n with
    | zero => rwa [Nat.zero_add]
    | succ n =>
      rw [Nat.succ_add]
      exact (ih h).cons c

/-- Reading on for the closing brace stops right behind one. -/
theorem closesAt_of_closeLine {cs : List Char} {depth : Int} {column stop : Nat}
    (h : closeLine depth column cs = .closed stop) : ∃ n, stop = column + n ∧ ClosesAt cs n := by
  induction cs generalizing depth column with
  | nil => cases h
  | cons c rest ih =>
    have hstep : ∀ depth', closeLine depth' (column + 1) rest = .closed stop →
        ∃ n, stop = column + n ∧ ClosesAt (c :: rest) n := by
      intro depth' hrest
      obtain ⟨n, rfl, hn⟩ := ih hrest
      exact ⟨n + 1, by omega, hn.cons c⟩
    rw [closeLine] at h
    split at h
    · exact hstep _ h
    · split at h
      · next hc =>
        split at h
        · cases h
          exact ⟨1, rfl, [], rest, by rw [hc, List.nil_append], rfl⟩
        · exact hstep _ h
      · exact hstep _ h

theorem closesAt_of_closeLines {lines : List (List Char)} {depth : Int} {line : Nat} {stop : Place}
    (h : closeLines depth line 0 lines = some stop) :
    line ≤ stop.line ∧ ∃ cs, lines[stop.line - line]? = some cs ∧ ClosesAt cs stop.column := by
  induction lines generalizing depth line with
  | nil => cases h
  | cons cs rest ih =>
    rw [closeLines] at h
    split at h
    · next column hclosed =>
      cases h
      obtain ⟨n, hn, hcloses⟩ := closesAt_of_closeLine hclosed
      rw [Nat.zero_add] at hn
      exact ⟨Nat.le_refl _, cs, by simp, hn ▸ hcloses⟩
    · obtain ⟨hle, cs', hget, hcloses⟩ := ih h
      refine ⟨by omega, cs', ?_, hcloses⟩
      rw [show stop.line - line = stop.line - (line + 1) + 1 by omega, List.getElem?_cons_succ,
        hget]

/-- A block ends right behind a closing brace, on the line on which it starts or later. -/
theorem closesAt_of_blockEnd? {lines : List (List Char)} {start stop : Place}
    (h : blockEnd? lines start = some stop) :
    start.line ≤ stop.line ∧ ∃ line, lines[stop.line]? = some line ∧ ClosesAt line stop.column := by
  rw [blockEnd?] at h
  split at h
  · cases h
  · next first rest hdrop =>
    have hget : ∀ i, lines[start.line + i]? = (first :: rest)[i]? := by
      intro i
      rw [← hdrop, List.getElem?_drop]
    rw [closeLines] at h
    split at h
    · next column hclosed =>
      cases h
      obtain ⟨n, rfl, hcloses⟩ := closesAt_of_closeLine hclosed
      exact ⟨Nat.le_refl _, first, hget 0, hcloses.of_drop⟩
    · obtain ⟨hle, line, hline, hcloses⟩ := closesAt_of_closeLines h
      refine ⟨by omega, line, ?_, hcloses⟩
      rw [show stop.line = start.line + (stop.line - (start.line + 1) + 1) by omega, hget,
        List.getElem?_cons_succ, hline]

/-! ### Extents -/

/-- The extent ends on one of the lines, and if it has a column, behind a closing brace. -/
structure Extent.Fits (lines : List (List Char)) (e : Extent) : Prop where
  line_lt : e.line < lines.length
  closesAt : ∀ column ∈ e.column, ∃ line, lines[e.line]? = some line ∧ ClosesAt line column

/-- A block that starts on one of the lines ends on one, not before its start. -/
theorem Extent.fits_ofBlock {lines : List (List Char)} {start : Place}
    (h : start.line < lines.length) :
    start.line ≤ (Extent.ofBlock lines start).line ∧ (Extent.ofBlock lines start).Fits lines := by
  rw [Extent.ofBlock]
  split
  · next stop hstop =>
    obtain ⟨hle, line, hline, hcloses⟩ := closesAt_of_blockEnd? hstop
    refine ⟨hle, (List.getElem?_eq_some_iff.mp hline).1, ?_⟩
    rintro column ⟨⟩
    exact ⟨line, hline, hcloses⟩
  · exact ⟨Nat.le_max_left .., Nat.max_lt.mpr ⟨h, by omega⟩, by simp⟩

namespace Dialect

variable {d : Dialect} {lines : List (List Char)}

/-- A class is declared by a pattern that matches its first line under a name that is allowed, and
its body opens behind the header. -/
theorem exists_of_classHead? {head : ClassHead} (h : d.classHead? lines = some head) :
    ∃ pattern ∈ d.classes, ∃ m, pattern.match? (lines.headD []) = some m ∧ nameAllowed m = true ∧
      findBody? lines ⟨0, headerEnd m⟩ = some head.body ∧
      head.extent = Extent.ofBlock lines head.body := by
  obtain ⟨pattern, hpattern, h⟩ := List.exists_of_findSome?_eq_some h
  rw [classBy?] at h
  split at h
  · cases h
  · next m hm =>
    obtain ⟨hname, h⟩ := Option.ite_none_right_eq_some.mp h
    obtain ⟨body, hbody, rfl⟩ := Option.map_eq_some_iff.mp h
    exact ⟨pattern, hpattern, m, hm, hname, hbody, rfl⟩

/-- A function is declared by a pattern that matches its first line under a name that is allowed.
Its body opens behind the header, and without a body it ends with the header. -/
theorem exists_of_functionHead? {inClass : Bool} {head : FunctionHead}
    (h : d.functionHead? inClass lines = some head) :
    ∃ p ∈ if inClass then d.members else d.functions, ∃ m,
      p.pattern.match? (lines.headD []) = some m ∧ nameAllowed m = true ∧
      ((∃ body, findBody? lines (d.signature lines m).2 = some body ∧ head.hasBody = true ∧
          head.extent = Extent.ofBlock lines body) ∨
        head.hasBody = false ∧ head.extent = ⟨(d.signature lines m).2.line, none, true⟩) := by
  obtain ⟨p, hp, h⟩ := List.exists_of_findSome?_eq_some h
  rw [functionBy?] at h
  split at h
  · cases h
  · next m hm =>
    obtain ⟨hallowed, h⟩ := Option.ite_none_right_eq_some.mp h
    refine ⟨p, hp, m, hm, (Bool.and_eq_true_iff.mp hallowed).1, ?_⟩
    dsimp only at h
    split at h
    · next body hbody =>
      cases h
      exact .inl ⟨body, hbody, rfl, rfl⟩
    · obtain ⟨-, h⟩ := Option.ite_none_left_eq_some.mp h
      cases h
      exact .inr ⟨rfl, rfl⟩

/-- A class opens and ends on the lines that start with its own. -/
theorem fits_of_classHead? {head : ClassHead} (hlines : lines ≠ [])
    (h : d.classHead? lines = some head) :
    head.body.line ≤ head.extent.line ∧ head.extent.Fits lines := by
  obtain ⟨-, -, m, -, -, hbody, hextent⟩ := exists_of_classHead? h
  rw [hextent]
  exact Extent.fits_ofBlock (findBody?_line (List.length_pos_iff.mpr hlines) hbody).2

/-- The header of a function ends on one of the lines. -/
theorem signature_line (d : Dialect) (hlines : lines ≠ []) (m : Pattern.Cursor) :
    (d.signature lines m).2.line < lines.length := by
  rw [signature]
  split
  · exact List.length_pos_iff.mpr hlines
  · exact parenSpan_line hlines _

/-- A function ends on one of the lines that start with its own. -/
theorem fits_of_functionHead? {inClass : Bool} {head : FunctionHead} (hlines : lines ≠ [])
    (h : d.functionHead? inClass lines = some head) : head.extent.Fits lines := by
  obtain ⟨-, -, m, -, -, hbody⟩ := exists_of_functionHead? h
  have hheader := signature_line d hlines m
  obtain ⟨body, hbody, -, hextent⟩ | ⟨-, hextent⟩ := hbody
  · rw [hextent]
    exact (Extent.fits_ofBlock (findBody?_line hheader hbody).2).2
  · rw [hextent]
    exact ⟨hheader, by simp⟩

end Dialect

end SourceMetrics
