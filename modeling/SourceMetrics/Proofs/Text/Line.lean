import Mathlib.Data.List.Basic
import SourceMetrics.Text.Line

/-!
# Cutting texts into lines

`Line.split` loses nothing, and it can be done piece by piece: a text that ends with a line break,
or is empty, may be cut apart from what follows it. The one exception is a carriage return in front
of a line feed, which is why the condition `Cuttable` mentions both sides.

## Main definitions

* `Text.Cuttable` — a line ends between two texts
* `Text.Line.text` — the text of some lines
* `Text.Line.Chained` — lines as a text is cut into

## Main results

* `Text.Line.text_split` — the pieces make up the text
* `Text.Line.split_append` — cutting at the end of a line
* `Text.exists_last_line` — every text is whole lines and one unfinished line
-/

namespace SourceMetrics

namespace Text

/-- The last character of a text, or else the one before it. -/
theorem getLast?_cons_or (before : Option Char) (c : Char) (xs : List Char) :
    (c :: xs).getLast?.or before = xs.getLast?.or (some c) := by
  rw [List.getLast?_cons]
  cases xs.getLast? <;> rfl

/-- A line ends between two texts: the first is empty or ends with a break, and that break is not
continued by the second. -/
def Cuttable (xs ys : List Char) : Prop :=
  (∀ c ∈ xs.getLast?, isLineBreak c = true) ∧ ¬(xs.getLast? = some '\r' ∧ ys.head? = some '\n')

theorem Cuttable.tail {c d : Char} {xs ys : List Char} (h : Cuttable (c :: d :: xs) ys) :
    Cuttable (d :: xs) ys := by
  rwa [Cuttable, List.getLast?_cons_cons] at h

theorem cuttable_nil (ys : List Char) : Cuttable [] ys := by simp [Cuttable]

namespace Line

/-- The text of some lines, with their breaks. -/
def text (lines : List Line) : List Char := lines.flatMap whole

@[simp] theorem text_nil : text [] = [] := rfl

@[simp] theorem text_cons (l : Line) (rest : List Line) :
    text (l :: rest) = l.body ++ (l.ending ++ text rest) := by
  simp [text, whole]

@[simp] theorem text_append (xs ys : List Line) : text (xs ++ ys) = text xs ++ text ys := by
  simp [text]

theorem text_prepend (c : Char) (lines : List Line) : text (prepend c lines) = c :: text lines := by
  cases lines <;> simp [prepend]

/-! ### What a text begins with -/

theorem split_crlf (rest : List Char) :
    split ('\r' :: '\n' :: rest) = ⟨[], ['\r', '\n']⟩ :: split rest := by
  rw [split, if_pos ⟨rfl, rfl⟩]

/-- A break that is not continued ends an empty line. -/
theorem split_cons_of_break {c : Char} (h : isLineBreak c = true) {rest : List Char}
    (hrn : ¬(c = '\r' ∧ rest.head? = some '\n')) :
    split (c :: rest) = ⟨[], [c]⟩ :: split rest := by
  cases rest with
  | nil => simp [split, h]
  | cons next rest =>
    rw [split, if_neg (by simpa using hrn), if_pos h]

theorem split_cons_of_not_break {c : Char} (h : isLineBreak c = false) (rest : List Char) :
    split (c :: rest) = prepend c (split rest) := by
  have hbreak : ¬isLineBreak c = true := by simp [h]
  cases rest with
  | nil => simp [split, h, prepend]
  | cons next rest =>
    have hr : ¬(c = '\r' ∧ next = '\n') := by
      rintro ⟨rfl, -⟩
      exact hbreak (by decide)
    rw [split, if_neg hr, if_neg hbreak]

/-- Induction over what a text begins with: a double break, another break, or a character
of a line. -/
theorem induction_on {motive : List Char → Prop} (nil : motive [])
    (crlf : ∀ rest, motive rest → motive ('\r' :: '\n' :: rest))
    (lineBreak : ∀ c rest, isLineBreak c = true → ¬(c = '\r' ∧ rest.head? = some '\n') →
      motive rest → motive (c :: rest))
    (character : ∀ c rest, isLineBreak c = false → motive rest → motive (c :: rest)) :
    ∀ cs, motive cs
  | [] => nil
  | c :: rest => by
    have ih := induction_on nil crlf lineBreak character rest
    by_cases hbreak : isLineBreak c = true
    · by_cases hrn : c = '\r' ∧ rest.head? = some '\n'
      · obtain ⟨rfl, hhead⟩ := hrn
        obtain ⟨more, rfl⟩ := List.head?_eq_some_iff.mp hhead
        exact crlf more (induction_on nil crlf lineBreak character more)
      · exact lineBreak c rest hbreak hrn ih
    · exact character c rest (by simpa using hbreak) ih
termination_by cs => cs.length

/-- The pieces make up the text. -/
theorem text_split (cs : List Char) : text (split cs) = cs := by
  induction cs using induction_on with
  | nil => rfl
  | crlf rest ih => rw [split_crlf, text_cons, ih]; rfl
  | lineBreak c rest hbreak hrn ih => rw [split_cons_of_break hbreak hrn, text_cons, ih]; rfl
  | character c rest hbreak ih => rw [split_cons_of_not_break hbreak, text_prepend, ih]

theorem split_ne_nil {cs : List Char} (h : cs ≠ []) : split cs ≠ [] := by
  intro hs
  apply h
  rw [← text_split cs, hs, text_nil]

theorem prepend_append (c : Char) {xs : List Line} (h : xs ≠ []) (ys : List Line) :
    prepend c (xs ++ ys) = prepend c xs ++ ys := by
  cases xs with
  | nil => exact absurd rfl h
  | cons l rest => rfl

/-- A text that ends with a whole line is cut apart from what follows. -/
theorem split_append {xs ys : List Char} (h : Cuttable xs ys) :
    split (xs ++ ys) = split xs ++ split ys := by
  induction xs using induction_on with
  | nil => rfl
  | crlf rest ih =>
    have hrest : Cuttable rest ys := by
      cases rest with
      | nil => exact cuttable_nil ys
      | cons c rest => exact h.tail.tail
    rw [List.cons_append, List.cons_append, split_crlf, split_crlf, ih hrest, List.cons_append]
  | lineBreak c rest hbreak hrn ih =>
    have hrest : Cuttable rest ys := by
      cases rest with
      | nil => exact cuttable_nil ys
      | cons d rest => exact h.tail
    have hrn' : ¬(c = '\r' ∧ (rest ++ ys).head? = some '\n') := by
      rintro ⟨rfl, hhead⟩
      cases rest with
      | nil => exact h.2 ⟨rfl, hhead⟩
      | cons d rest => exact hrn ⟨rfl, hhead⟩
    rw [List.cons_append, split_cons_of_break hbreak hrn', split_cons_of_break hbreak hrn, ih hrest,
      List.cons_append]
  | character c rest hbreak ih =>
    cases rest with
    | nil =>
      have hlast := h.1 c rfl
      rw [hbreak] at hlast
      cases hlast
    | cons d rest =>
      rw [List.cons_append, split_cons_of_not_break hbreak, split_cons_of_not_break hbreak,
        ih h.tail, prepend_append c (split_ne_nil (List.cons_ne_nil d rest))]

/-- A line without a break inside, up to its line feed. -/
theorem split_body_append {body : List Char} (h : ∀ c ∈ body, isLineBreak c = false)
    (rest : List Char) : split (body ++ '\n' :: rest) = ⟨body, ['\n']⟩ :: split rest := by
  induction body with
  | nil => exact split_cons_of_break (by decide) (by simp)
  | cons c body ih =>
    rw [List.cons_append, split_cons_of_not_break (h c List.mem_cons_self),
      ih fun d hd => h d (List.mem_cons_of_mem c hd), prepend]

/-- The lines of a text without breaks: one, unless it is empty. -/
def unfinished (body : List Char) : List Line := if body = [] then [] else [⟨body, []⟩]

theorem split_of_no_break {body : List Char} (h : ∀ c ∈ body, isLineBreak c = false) :
    split body = unfinished body := by
  induction body with
  | nil => rfl
  | cons c body ih =>
    rw [split_cons_of_not_break (h c List.mem_cons_self),
      ih fun d hd => h d (List.mem_cons_of_mem c hd)]
    cases body <;> simp [unfinished, prepend]

/-- Lines as a text is cut into: breaks stand at the ends and nowhere else, and only the last line
may lack one. -/
def Chained : List Line → Prop
  | [] => True
  | l :: rest =>
    (∀ c ∈ l.body, isLineBreak c = false) ∧ (∀ c ∈ l.ending, isLineBreak c = true) ∧
      (l.ending = [] → rest = []) ∧ Chained rest

theorem Chained.prepend {c : Char} (hc : isLineBreak c = false) {lines : List Line}
    (h : Chained lines) : Chained (prepend c lines) := by
  cases lines with
  | nil => simp [Line.prepend, Chained, hc]
  | cons l rest =>
    obtain ⟨hbody, hrest⟩ := h
    exact ⟨List.forall_mem_cons.mpr ⟨hc, hbody⟩, hrest⟩

theorem chained_split (cs : List Char) : Chained (split cs) := by
  induction cs using induction_on with
  | nil => trivial
  | crlf rest ih =>
    rw [split_crlf]
    exact ⟨by simp, by simp [isLineBreak], by simp, ih⟩
  | lineBreak c rest hbreak hrn ih =>
    rw [split_cons_of_break hbreak hrn]
    exact ⟨by simp, by simpa using hbreak, by simp, ih⟩
  | character c rest hbreak ih =>
    rw [split_cons_of_not_break hbreak]
    exact ih.prepend hbreak

theorem Chained.of_append {xs ys : List Line} (h : Chained (xs ++ ys)) :
    Chained xs ∧ Chained ys := by
  induction xs with
  | nil => exact ⟨trivial, h⟩
  | cons l rest ih =>
    obtain ⟨hbody, hending, hlast, hrest⟩ := h
    refine ⟨⟨hbody, hending, fun hnil => ?_, (ih hrest).1⟩, (ih hrest).2⟩
    exact (List.append_eq_nil_iff.mp (hlast hnil)).1

end Line

/-- Every text is some whole lines and an unfinished one, which may be empty. -/
theorem exists_last_line (cs : List Char) :
    ∃ whole body, cs = whole ++ body ∧ (∀ c ∈ whole.getLast?, isLineBreak c = true) ∧
      ∀ c ∈ body, isLineBreak c = false := by
  induction cs with
  | nil => exact ⟨[], [], rfl, by simp, by simp⟩
  | cons c rest ih =>
    obtain ⟨whole, body, rfl, hwhole, hbody⟩ := ih
    cases whole with
    | nil =>
      by_cases hc : isLineBreak c
      · exact ⟨[c], body, rfl, by simpa using hc, hbody⟩
      · refine ⟨[], c :: body, rfl, by simp, ?_⟩
        simpa [List.forall_mem_cons] using ⟨by simpa using hc, hbody⟩
    | cons d whole => exact ⟨c :: d :: whole, body, rfl, hwhole, hbody⟩

end Text

end SourceMetrics
