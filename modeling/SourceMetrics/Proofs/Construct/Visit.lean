import SourceMetrics.Proofs.Construct.Braces

/-!
# The tokens of a text, one by one

The scan comes to each token of a text in some state. `visits` lists the tokens in order, with the
line and the position of each and the state in front of it. What is found depends on nothing else,
so a statement about all constructs is one about all visits, and a statement about the states of a
scan can be read against the text in front of the token.

## Main definitions

* `Text.OnLine` — a position lies on a line
* `Visit`, `visits` — a token as the scan comes to it, and all of them
* `Visit.construct?` — the construct that is found there

## Main results

* `constructs_eq_filterMap_visits` — the constructs are those of the visits
* `exists_of_mem_visits` — the text and the tokens in front of a visit
* `onLine_of_mem_visits` — where a visit takes place
-/

namespace SourceMetrics

/-- The character at `position` stands on the line with the given number, in front of its break. -/
def Text.OnLine (cs : List Char) (position number : Nat) : Prop :=
  ∃ before l after column, Line.split cs = before ++ l :: after ∧ number = before.length + 1 ∧
    column < l.body.length ∧ position = (Line.text before).length + column

/-! ### The text in front of a token -/

namespace Token

/-- The tokens in front of a token have the braces in front of it. -/
theorem Scanned.brace?_of_append {column : Nat} {before : Option Char} {cs : List Char}
    {ts earlier later : List (Nat × Token)} {found : Nat × Token} (h : Scanned column before cs ts)
    (hts : ts = earlier ++ found :: later) :
    ∃ k, found.1 = column + k ∧ k < cs.length ∧
      earlier.filterMap (fun t => t.2.brace?) = (cs.take k).filter isBrace := by
  induction h generalizing earlier with
  | nil => simp at hts
  | gap none _ ih =>
    obtain ⟨k, hcolumn, hlt, hbraces⟩ := ih hts
    refine ⟨k + 1, by omega, by simpa using hlt, ?_⟩
    rw [hbraces, List.take_succ_cons, List.filter_cons_of_neg (not_isBrace_of_at?_eq_none none)]
  | @token column before t w rest ts _ ne spelled _ ih =>
    cases earlier with
    | nil =>
      obtain ⟨rfl, -⟩ := List.cons_eq_cons.mp hts
      have hlength := List.length_pos_iff.mpr ne
      exact ⟨0, rfl, by rw [List.length_append]; omega, rfl⟩
    | cons e earlier =>
      obtain ⟨rfl, htail⟩ := List.cons_eq_cons.mp hts
      obtain ⟨k, hcolumn, hlt, hbraces⟩ := ih htail
      refine ⟨w.length + k, by omega, by simpa using hlt, ?_⟩
      rw [List.take_length_add_append, List.filter_append, filter_isBrace_of_spelled spelled,
        ← hbraces]
      cases hbrace : t.brace? <;> simp [hbrace]

/-- The tokens of a line in front of a token have the braces of the line in front of it. -/
theorem brace?_of_scan_eq_append {line : List Char} {earlier later : List (Nat × Token)}
    {found : Nat × Token} (h : scan line = earlier ++ found :: later) :
    found.1 < line.length ∧
      earlier.filterMap (fun t => t.2.brace?) = (line.take found.1).filter isBrace := by
  obtain ⟨k, hcolumn, hlt, hbraces⟩ := (scanned_scan line).brace?_of_append h
  rw [Nat.zero_add] at hcolumn
  rw [hcolumn]
  exact ⟨hlt, hbraces⟩

end Token

/-! ### Visits -/

/-- A token as the scan comes to it. -/
structure Visit where
  /-- The number of its line. -/
  line : Nat
  /-- Its position in the text. -/
  position : Nat
  token : Token
  /-- The state in front of it. -/
  state : Scan
  deriving DecidableEq, Repr

namespace Scan

/-- The tokens of a line that starts at `offset`. -/
def visitTokens (number offset : Nat) (s : Scan) : List (Nat × Token) → List Visit
  | [] => []
  | (column, token) :: rest =>
    ⟨number, offset + column, token, s⟩ :: visitTokens number offset (s.advance token) rest

/-- The tokens of some lines, of which the first has number `number` and starts at `offset`. -/
def visitLines (number offset : Nat) (s : Scan) : List Text.Line → List Visit
  | [] => []
  | l :: rest =>
    visitTokens number offset (s.beginLine l.body) (Token.scan l.body) ++
      visitLines (number + 1) (offset + l.whole.length) (s.afterLine l.body) rest

end Scan

/-- The tokens of a text in order, as the scan comes to them. -/
def visits (cs : List Char) : List Visit := Scan.visitLines 1 0 {} (Text.Line.split cs)

/-- The construct that is found at a visit, where `marks` are the positions of the conditional
operators. -/
def Visit.construct? (marks : List Nat) (v : Visit) : Option Construct :=
  v.state.construct? v.line (marks.contains v.position) v.token

namespace Scan

theorem filterMap_visitTokens (marks : List Nat) (number offset : Nat) (s : Scan)
    (ts : List (Nat × Token)) :
    (visitTokens number offset s ts).filterMap (Visit.construct? marks) =
      found (fun column => marks.contains (offset + column)) number s ts := by
  induction ts generalizing s with
  | nil => rfl
  | cons t rest ih =>
    obtain ⟨column, token⟩ := t
    have hfirst : Visit.construct? marks ⟨number, offset + column, token, s⟩ =
        s.construct? number (marks.contains (offset + column)) token := rfl
    rw [visitTokens, found, ← ih, List.filterMap_cons, hfirst]
    cases s.construct? number (marks.contains (offset + column)) token <;> rfl

theorem filterMap_visitLines (marks : List Nat) (number offset : Nat) (s : Scan)
    (ls : List Text.Line) :
    (visitLines number offset s ls).filterMap (Visit.construct? marks) =
      lines marks number offset s ls := by
  induction ls generalizing number offset s with
  | nil => rfl
  | cons l rest ih =>
    rw [visitLines, List.filterMap_append, filterMap_visitTokens, ih]
    simp only [lines, tokens_eq]
    rfl

end Scan

/-- **The constructs of a text are those of the visits.** -/
theorem constructs_eq_filterMap_visits (cs : List Char) :
    constructs cs = (visits cs).filterMap (Visit.construct? (ternaries cs)) :=
  (Scan.filterMap_visitLines (ternaries cs) 1 0 {} (Text.Line.split cs)).symm

/-! ### Where a visit takes place -/

namespace Scan

theorem exists_of_mem_visitTokens {number offset : Nat} {s : Scan} {ts : List (Nat × Token)}
    {v : Visit} (h : v ∈ visitTokens number offset s ts) :
    ∃ earlier column later, ts = earlier ++ (column, v.token) :: later ∧ v.line = number ∧
      v.position = offset + column ∧ v.state = s.afterTokens earlier := by
  induction ts generalizing s with
  | nil => cases h
  | cons t rest ih =>
    obtain ⟨column, token⟩ := t
    rcases List.mem_cons.mp h with rfl | h
    · exact ⟨[], column, rest, rfl, rfl, rfl, rfl⟩
    · obtain ⟨earlier, column', later, rfl, hline, hposition, hstate⟩ := ih h
      exact ⟨(column, token) :: earlier, column', later, rfl, hline, hposition, hstate⟩

theorem exists_of_mem_visitLines {number offset : Nat} {s : Scan} {ls : List Text.Line} {v : Visit}
    (h : v ∈ visitLines number offset s ls) :
    ∃ before l after, ls = before ++ l :: after ∧
      v ∈ visitTokens (number + before.length) (offset + (Text.Line.text before).length)
        ((s.afterLines (before.map Text.Line.body)).beginLine l.body) (Token.scan l.body) := by
  induction ls generalizing number offset s with
  | nil => cases h
  | cons l rest ih =>
    rcases List.mem_append.mp h with h | h
    · exact ⟨[], l, rest, rfl, h⟩
    · obtain ⟨before, l', after, rfl, hmem⟩ := ih h
      refine ⟨l :: before, l', after, rfl, ?_⟩
      have hnumber : number + (l :: before).length = number + 1 + before.length := by
        rw [List.length_cons]
        omega
      have hoffset : offset + (Text.Line.text (l :: before)).length =
          offset + l.whole.length + (Text.Line.text before).length := by
        rw [Text.Line.text_cons, Text.Line.whole]
        simp only [List.length_append]
        omega
      rw [hnumber, hoffset]
      exact hmem

end Scan

variable {cs : List Char} {v : Visit}

/-- Everything about a visit: the line, the tokens of the line in front of it, and its state. -/
theorem exists_of_mem_visits (h : v ∈ visits cs) :
    ∃ before l after earlier column later, Text.Line.split cs = before ++ l :: after ∧
      Token.scan l.body = earlier ++ (column, v.token) :: later ∧ v.line = before.length + 1 ∧
      v.position = (Text.Line.text before).length + column ∧
      v.state =
        ((Scan.afterLines {} (before.map Text.Line.body)).beginLine l.body).afterTokens
          earlier := by
  obtain ⟨before, l, after, hsplit, hmem⟩ := Scan.exists_of_mem_visitLines h
  obtain ⟨earlier, column, later, hscan, hline, hposition, hstate⟩ :=
    Scan.exists_of_mem_visitTokens hmem
  exact ⟨before, l, after, earlier, column, later, hsplit, hscan, by omega, by omega, hstate⟩

/-- A visit takes place on the line that it names. -/
theorem onLine_of_mem_visits (h : v ∈ visits cs) : Text.OnLine cs v.position v.line := by
  obtain ⟨before, l, after, earlier, column, later, hsplit, hscan, hline, hposition, -⟩ :=
    exists_of_mem_visits h
  have hcolumn := (Token.brace?_of_scan_eq_append hscan).1
  exact ⟨before, l, after, column, hsplit, hline, hcolumn, hposition⟩

end SourceMetrics
