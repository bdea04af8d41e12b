import Mathlib.Data.List.Basic
import SourceMetrics.Outline.Block
import SourceMetrics.Outline.Parameters

/-!
# What counting parameters counts

A parameter list is a list of members with commas between them. A comma inside brackets does not
divide it. The depth of brackets is one number for brackets of any sort, and a bracket that closes
nothing leaves it at zero. Members of blanks do not count.

A comma outside brackets leaves nothing behind but the count: what follows is counted as if the list
began there. So counts add up over such commas, and the count of a list is the number of its members
with some text in them. Blanks are passed over, wherever they stand, and so are the line feeds
between the lines that a list is laid out on.

## Main definitions

* `bracketDepth`, `depthAfter` — the depth of brackets behind a text
* `ClosedMember` — a text that a list may have as a member
* `solid` — the characters that are no blanks

## Main results

* `ParameterScan.step_eq` — what reading a character does
* `countParameters_append` — counts add up over commas outside brackets
* `countParameters_solid` — blanks do not count
* `solid_parenSpan` — how a list is divided into lines does not show in its text, but for blanks
* `countParameters_members` — parameters are the members that are not blank
-/

namespace SourceMetrics

/-! ### Brackets and blanks -/

/-- The brackets that open something. -/
def openingBrackets : List Char := ['(', '[', '\x7b', '<']

/-- The brackets that close something. -/
def closingBrackets : List Char := [')', ']', '\x7d', '>']

/-- The depth of brackets behind a character. A bracket that closes nothing is ignored. -/
def bracketDepth (depth : Nat) (c : Char) : Nat :=
  if c ∈ openingBrackets then depth + 1
  else if c ∈ closingBrackets then depth - 1
  else depth

/-- The depth of brackets behind a text. -/
def depthAfter (cs : List Char) : Nat := cs.foldl bracketDepth 0

/-- The text closes its brackets and has no comma outside brackets. -/
def ClosedMember (cs : List Char) : Prop :=
  depthAfter cs = 0 ∧ ∀ n < cs.length, cs[n]? = some ',' → depthAfter (cs.take n) ≠ 0

instance (cs : List Char) : Decidable (ClosedMember cs) := inferInstanceAs (Decidable (_ ∧ _))

/-- The characters of a text that are no blanks. -/
def solid (cs : List Char) : List Char := cs.filter fun c => !Text.isBlank c

theorem solid_append (xs ys : List Char) : solid (xs ++ ys) = solid xs ++ solid ys :=
  List.filter_append ..

theorem solid_cons_of_isBlank {c : Char} (h : Text.isBlank c = true) (cs : List Char) :
    solid (c :: cs) = solid cs :=
  List.filter_cons_of_neg (by simp [h])

theorem solid_cons_of_not_isBlank {c : Char} (h : Text.isBlank c = false) (cs : List Char) :
    solid (c :: cs) = c :: solid cs :=
  List.filter_cons_of_pos (by simp [h])

/-- Brackets are no blanks and no commas. -/
theorem not_isBlank_of_mem_brackets {c : Char} (h : c ∈ openingBrackets ++ closingBrackets) :
    Text.isBlank c = false ∧ c ≠ ',' := by
  have hall :
      (openingBrackets ++ closingBrackets).all (fun d => !Text.isBlank d && d != ',') = true := by
    decide
  simpa using List.all_eq_true.mp hall c h

theorem not_bracket_of_isBlank {c : Char} (h : Text.isBlank c = true) :
    c ∉ openingBrackets ∧ c ∉ closingBrackets ∧ c ≠ ',' := by
  have hbracket : c ∉ openingBrackets ++ closingBrackets := by
    intro hmem
    rw [(not_isBlank_of_mem_brackets hmem).1] at h
    cases h
  rw [List.mem_append, not_or] at hbracket
  refine ⟨hbracket.1, hbracket.2, ?_⟩
  rintro rfl
  exact absurd h (by decide)

namespace ParameterScan

variable (s : ParameterScan)

/-- What reading a character does: a comma outside brackets counts the member before it, and any
other character changes the depth and belongs to a member, if it is no blank. -/
theorem step_eq (c : Char) :
    s.step c =
      if c = ',' ∧ s.depth = 0 then { s with count := s.total, started := false }
      else ⟨bracketDepth s.depth c, s.count, s.started || !Text.isBlank c⟩ := by
  by_cases hopen : c ∈ openingBrackets
  · obtain ⟨hblank, hcomma⟩ := not_isBlank_of_mem_brackets (List.mem_append_left _ hopen)
    rw [step, if_pos (by simpa [openingBrackets, or_assoc] using hopen), if_neg fun h => hcomma h.1,
      bracketDepth, if_pos hopen, hblank, Bool.not_false, Bool.or_true]
  rw [step, if_neg (by simpa [openingBrackets, or_assoc] using hopen)]
  by_cases hclose : c ∈ closingBrackets
  · obtain ⟨hblank, hcomma⟩ := not_isBlank_of_mem_brackets (List.mem_append_right _ hclose)
    rw [if_pos (by simpa [closingBrackets, or_assoc] using hclose), if_neg fun h => hcomma h.1,
      bracketDepth, if_neg hopen, if_pos hclose, hblank, Bool.not_false, Bool.or_true]
  rw [if_neg (by simpa [closingBrackets, or_assoc] using hclose)]
  by_cases hcomma : c = ',' ∧ s.depth = 0
  · rw [if_pos (by simpa using hcomma), if_pos hcomma, total]
  rw [if_neg (by simpa using hcomma), if_neg hcomma, bracketDepth, if_neg hopen, if_neg hclose]
  cases Text.isBlank c <;> simp

theorem depth_step (c : Char) : (s.step c).depth = bracketDepth s.depth c := by
  rw [step_eq]
  split
  next h =>
    rw [h.1]
    rfl
  next => rfl

theorem depth_foldl_step (cs : List Char) :
    (cs.foldl step s).depth = cs.foldl bracketDepth s.depth := by
  induction cs generalizing s with
  | nil => rfl
  | cons c rest ih => rw [List.foldl_cons, ih, depth_step, List.foldl_cons]

theorem step_of_isBlank {c : Char} (h : Text.isBlank c = true) : s.step c = s := by
  obtain ⟨hopen, hclose, hcomma⟩ := not_bracket_of_isBlank h
  rw [step_eq, if_neg fun hc => hcomma hc.1, bracketDepth, if_neg hopen, if_neg hclose, h,
    Bool.not_true, Bool.or_false]

/-- Blanks are passed over. -/
theorem foldl_step_solid (cs : List Char) : (solid cs).foldl step s = cs.foldl step s := by
  induction cs generalizing s with
  | nil => rfl
  | cons c rest ih =>
    cases hc : Text.isBlank c with
    | true => rw [solid_cons_of_isBlank hc, List.foldl_cons, step_of_isBlank s hc, ih]
    | false => rw [solid_cons_of_not_isBlank hc, List.foldl_cons, List.foldl_cons, ih]

/-- What has been counted before does not matter to what is counted. -/
theorem total_foldl_step (cs : List Char) (depth count n : Nat) (started : Bool) :
    (cs.foldl step ⟨depth, count + n, started⟩).total =
      (cs.foldl step ⟨depth, count, started⟩).total + n := by
  induction cs generalizing depth count started with
  | nil => exact Nat.add_right_comm ..
  | cons c rest ih =>
    have htotal : total ⟨depth, count + n, started⟩ = total ⟨depth, count, started⟩ + n :=
      Nat.add_right_comm ..
    rw [List.foldl_cons, List.foldl_cons, step_eq, step_eq]
    split
    · rw [htotal]
      exact ih ..
    · exact ih ..

/-- Reading a text without commas outside brackets counts nothing yet. -/
theorem foldl_step_of_no_comma {cs : List Char}
    (h : ∀ n < cs.length, cs[n]? = some ',' → (cs.take n).foldl bracketDepth s.depth ≠ 0) :
    cs.foldl step s =
      ⟨cs.foldl bracketDepth s.depth, s.count, s.started || !Text.allBlank cs⟩ := by
  induction cs generalizing s with
  | nil => simp [Text.allBlank]
  | cons c rest ih =>
    have hcomma : ¬(c = ',' ∧ s.depth = 0) := fun hc =>
      h 0 (Nat.succ_pos _) (by rw [hc.1]; rfl) hc.2
    rw [List.foldl_cons, step_eq, if_neg hcomma, ih]
    · simp [Text.allBlank, Bool.or_assoc]
    · exact fun n hn hget => h (n + 1) (Nat.succ_lt_succ hn) hget

end ParameterScan

/-! ### Counts -/

open ParameterScan

/-- **Counts add up over commas outside brackets.** -/
theorem countParameters_append {p : List Char} (hp : depthAfter p = 0) (q : List Char) :
    countParameters (p ++ ',' :: q) = countParameters p + countParameters q := by
  have hdepth : (p.foldl step {}).depth = 0 := by rw [depth_foldl_step]; exact hp
  have hlater := total_foldl_step q 0 0 (countParameters p) false
  rw [Nat.zero_add, Nat.add_comm] at hlater
  rw [countParameters, List.foldl_append, List.foldl_cons, step_eq, if_pos ⟨rfl, hdepth⟩, hdepth]
  exact hlater

theorem countParameters_of_closedMember {cs : List Char} (h : ClosedMember cs) :
    countParameters cs = if Text.allBlank cs then 0 else 1 := by
  rw [countParameters, foldl_step_of_no_comma _ h.2, total]
  cases Text.allBlank cs <;> rfl

/-- **Parameters are the members that are not blank.** -/
theorem countParameters_intercalate {members : List (List Char)}
    (h : ∀ m ∈ members, ClosedMember m) :
    countParameters ([','].intercalate members) = members.countP fun m => !Text.allBlank m := by
  induction members with
  | nil => rfl
  | cons m rest ih =>
    obtain ⟨hm, hrest⟩ := List.forall_mem_cons.mp h
    cases rest with
    | nil =>
      rw [List.intercalate_singleton, countParameters_of_closedMember hm]
      cases hblank : Text.allBlank m <;> simp [hblank]
    | cons m' rest =>
      rw [List.intercalate_cons_cons, List.append_assoc, List.singleton_append,
        countParameters_append hm.1, ih hrest, countParameters_of_closedMember hm, Nat.add_comm,
        List.countP_cons (a := m)]
      cases Text.allBlank m <;> rfl

/-- **Blanks do not count.** -/
theorem countParameters_solid (cs : List Char) :
    countParameters (solid cs) = countParameters cs := by
  rw [countParameters, foldl_step_solid, countParameters]

/-! ### Lists over lines -/

/-- The text from a column of the first line on, without the division into lines. -/
def textFrom (lines : List (List Char)) (column : Nat) : List Char :=
  (lines.headD []).drop column ++ lines.tail.flatten

/-- The text of a parameter list in a text that is not divided into lines, with
`depth` parentheses open. -/
def parenText (depth : Int) : List Char → List Char
  | [] => []
  | c :: rest =>
    if c = '(' then if depth = 0 then parenText 1 rest else c :: parenText (depth + 1) rest
    else if c = ')' && depth = 1 then []
    else c :: parenText (if c = ')' then depth - 1 else depth) rest

/-- The text of a parameter list behind a line that ends so. -/
def Closing.textBehind (more : List Char) : Closing → List Char
  | closed _ => []
  | unclosed inner => parenText inner more

/-- A parameter list is read line by line. -/
theorem parenText_append (depth : Int) (column : Nat) (cs more : List Char) :
    parenText depth (cs ++ more) =
      (parenLine depth column cs).1 ++ (parenLine depth column cs).2.textBehind more := by
  induction cs generalizing depth column with
  | nil => rfl
  | cons c rest ih =>
    rw [List.cons_append, parenText, parenLine]
    by_cases hopen : c = '('
    · rw [if_pos hopen, if_pos hopen]
      by_cases hdepth : depth = 0
      · simp only [hdepth, if_true, ih 1 (column + 1), Int.zero_add]
      · simp only [if_neg hdepth, ih (depth + 1) (column + 1), List.cons_append]
    rw [if_neg hopen, if_neg hopen]
    by_cases hclose : (c = ')' && depth = 1) = true
    · rw [if_pos hclose, if_pos hclose]
      rfl
    · rw [if_neg hclose, if_neg hclose, ih _ (column + 1), List.cons_append]

/-- **Blanks in a parameter list are passed over.** -/
theorem solid_parenText (depth : Int) (cs : List Char) :
    solid (parenText depth cs) = parenText depth (solid cs) := by
  induction cs generalizing depth with
  | nil => rfl
  | cons c rest ih =>
    cases hc : Text.isBlank c with
    | true =>
      obtain ⟨hopen, hclose, -⟩ := not_bracket_of_isBlank hc
      have hopen : c ≠ '(' := fun h => hopen (h ▸ List.mem_cons_self)
      have hclose : c ≠ ')' := fun h => hclose (h ▸ List.mem_cons_self)
      rw [parenText, if_neg hopen, if_neg (by simp [hclose]), if_neg hclose,
        solid_cons_of_isBlank hc, solid_cons_of_isBlank hc, ih]
    | false =>
      rw [solid_cons_of_not_isBlank hc, parenText, parenText]
      by_cases hopen : c = '('
      · rw [if_pos hopen, if_pos hopen]
        by_cases hdepth : depth = 0
        · rw [if_pos hdepth, if_pos hdepth, ih]
        · rw [if_neg hdepth, if_neg hdepth, solid_cons_of_not_isBlank hc, ih]
      rw [if_neg hopen, if_neg hopen]
      by_cases hclose : (c = ')' && depth = 1) = true
      · rw [if_pos hclose, if_pos hclose]
        rfl
      · rw [if_neg hclose, if_neg hclose, solid_cons_of_not_isBlank hc, ih]

/-- The division into lines puts line feeds into the text of a parameter list. -/
theorem solid_parenLines (depth : Int) (line column : Nat) (lines : List (List Char)) :
    solid (parenLines depth line column lines).1 = solid (parenText depth lines.flatten) := by
  have hfeed : ∀ cs, solid ('\n' :: cs) = solid cs := solid_cons_of_isBlank (by decide)
  induction lines generalizing depth line column with
  | nil => rfl
  | cons cs rest ih =>
    rw [List.flatten_cons, parenText_append depth column, parenLines, solid_append]
    obtain ⟨text, closing⟩ := parenLine depth column cs
    cases closing with
    | closed stop => exact (List.append_nil _).symm
    | unclosed inner =>
      cases rest with
      | nil =>
        rw [Closing.textBehind, solid_append, hfeed]
        rfl
      | cons next more =>
        rw [Closing.textBehind, ← ih inner (line + 1) 0, solid_append, hfeed]

/-- **How a parameter list is divided into lines does not show** in its characters that
are no blanks. -/
theorem solid_parenSpan (lines : List (List Char)) (column : Nat) :
    solid (parenSpan lines column).1 = parenText 0 (solid (textFrom lines column)) := by
  rw [← solid_parenText]
  cases lines with
  | nil => simp [parenSpan, textFrom, parenText]
  | cons first rest => exact solid_parenLines 0 0 column (first.drop column :: rest)

/-- **Parameters are the members that are not blank.** If the members of a list close their brackets
and have no commas outside of them, the count of the list is the number of those that are not blank.
The counts of two texts add up over a comma between them, if the first closes its brackets. Texts
that differ in blanks only have the same count, and so do parameter lists that are laid out on lines
in different ways. -/
theorem countParameters_members :
    (∀ members : List (List Char), (∀ m ∈ members, ClosedMember m) →
        countParameters ([','].intercalate members) = members.countP fun m => !Text.allBlank m) ∧
      (∀ p q : List Char, depthAfter p = 0 →
        countParameters (p ++ ',' :: q) = countParameters p + countParameters q) ∧
      (∀ cs ds : List Char, solid cs = solid ds → countParameters cs = countParameters ds) ∧
      ∀ (lines lines' : List (List Char)) (column column' : Nat),
        solid (textFrom lines column) = solid (textFrom lines' column') →
        countParameters (parenSpan lines column).1 =
          countParameters (parenSpan lines' column').1 := by
  have hsolid : ∀ cs ds : List Char, solid cs = solid ds →
      countParameters cs = countParameters ds := by
    intro cs ds h
    rw [← countParameters_solid cs, h, countParameters_solid]
  refine ⟨fun members => countParameters_intercalate, fun p q hp => countParameters_append hp q,
    hsolid, fun lines lines' column column' h => hsolid _ _ ?_⟩
  rw [solid_parenSpan, h, solid_parenSpan]

/-- Commas in brackets, members of blanks, a bracket that closes nothing and one that is not closed,
and a list on one line and on three. -/
theorem countParameters_members_nested :
    let members := [" Map<K, V[]> m", "", "x) y", "\n", "g = \x7b1, (2)\x7d"].map String.toList
    let lines := ["f(Map<K,", "", "  V> m, int b)", "\x7b"].map String.toList
    let lines' := ["void f (Map<K, V> m, intb) \x7b"].map String.toList
    (∀ m ∈ members, ClosedMember m) ∧ countParameters ([','].intercalate members) = 3 ∧
      countParameters "a, (b, c) ,, d>, e(, f".toList = 4 ∧
      countParameters "a,\n (b\t, c )".toList = countParameters "a,(b,c)".toList ∧
      countParameters (parenSpan lines 1).1 = countParameters (parenSpan lines' 7).1 := by
  intro members lines lines'
  obtain ⟨hmembers, happend, hsolid, hlines⟩ := countParameters_members
  have hclosed : ∀ m ∈ members, ClosedMember m := by decide
  refine ⟨hclosed, ?_, ?_, hsolid _ _ (by decide), hlines lines lines' 1 7 (by decide)⟩
  · rw [hmembers members hclosed]
    decide
  · exact (happend "a, (b, c) ".toList ", d>, e(, f".toList (by decide)).trans (by decide)

end SourceMetrics
