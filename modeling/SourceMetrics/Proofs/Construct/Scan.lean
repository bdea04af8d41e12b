import SourceMetrics.Construct.Scan
import SourceMetrics.Proofs.Construct.Ternary
import SourceMetrics.Proofs.Construct.Token

/-!
# The scan without positions

`constructs` finds the conditional operators of the whole text first and recognises them by their
positions while it reads the lines. A position says nothing by itself, and it changes with
everything in front of it. Whether a question mark is answered depends only on what stands behind
it, so the scan can be told with the rest of the text in the place of positions. This is the form
that statements about pieces of a text are proved in.

## Main definitions

* `Scan.found`, `Scan.afterTokens` — the constructs among some tokens, and the state behind them
* `Scan.afterLine`, `Scan.afterLines` — the state behind a line, and behind some lines
* `Scan.answered` — whether the question mark at a column is answered
* `Scan.ofLine`, `Scan.ofLines` — the constructs of a line and of some lines

## Main results

* `Scan.constructs_eq_ofLines` — the two forms agree
* `constructs_of_allBlank` — a blank text has no constructs
-/

namespace SourceMetrics

namespace Scan

/-! ### Tokens -/

/-- The constructs among some tokens of a line, where `isTernary` tells which columns have a
conditional operator. -/
def found (isTernary : Nat → Bool) (line : Nat) (s : Scan) : List (Nat × Token) → List Construct
  | [] => []
  | (column, token) :: rest =>
    (s.construct? line (isTernary column) token).toList ++
      found isTernary line (s.advance token) rest

/-- The state behind some tokens. -/
def afterTokens (s : Scan) (tokens : List (Nat × Token)) : Scan :=
  tokens.foldl (fun s t => s.advance t.2) s

@[simp] theorem afterTokens_nil (s : Scan) : s.afterTokens [] = s := rfl

@[simp] theorem afterTokens_cons (s : Scan) (t : Nat × Token) (rest : List (Nat × Token)) :
    s.afterTokens (t :: rest) = (s.advance t.2).afterTokens rest := rfl

theorem found_append (isTernary : Nat → Bool) (line : Nat) (s : Scan)
    (xs ys : List (Nat × Token)) :
    found isTernary line s (xs ++ ys) =
      found isTernary line s xs ++ found isTernary line (s.afterTokens xs) ys := by
  induction xs generalizing s with
  | nil => rfl
  | cons t xs ih => simp only [List.cons_append, found, ih, List.append_assoc, afterTokens_cons]

theorem tokens_eq (marks : List Nat) (line offset : Nat) (s : Scan) (ts : List (Nat × Token)) :
    tokens marks line offset s ts =
      (found (fun column => marks.contains (offset + column)) line s ts, s.afterTokens ts) := by
  induction ts generalizing s with
  | nil => rfl
  | cons t rest ih => simp only [tokens, found, ih, afterTokens_cons]

/-- Only the columns of question marks are looked up. -/
theorem found_congr {f g : Nat → Bool} {ts : List (Nat × Token)}
    (h : ∀ column, (column, Token.question) ∈ ts → f column = g column) (line : Nat) (s : Scan) :
    found f line s ts = found g line s ts := by
  induction ts generalizing s with
  | nil => rfl
  | cons t rest ih =>
    obtain ⟨column, token⟩ := t
    have hrest := ih fun column' hmem => h column' (List.mem_cons_of_mem _ hmem)
    have hfirst : s.construct? line (f column) token = s.construct? line (g column) token := by
      cases token with
      | question => rw [h column List.mem_cons_self]
      | _ => rfl
    rw [found, found, hfirst, hrest]

/-! ### Lines -/

/-- The state behind a line. -/
def afterLine (s : Scan) (body : List Char) : Scan :=
  (s.beginLine body).afterTokens (Token.scan body)

/-- The state behind some lines. -/
def afterLines (s : Scan) (bodies : List (List Char)) : Scan := bodies.foldl afterLine s

/-- Whether the question mark at a column of a line is answered, where `tail` is the text
behind the line. -/
def answered (body tail : List Char) (column : Nat) : Bool :=
  (Ternary.answer? (body.drop (column + 1) ++ tail)).isSome

/-- The constructs of a line with the text `tail` behind it. -/
def ofLine (number : Nat) (s : Scan) (body tail : List Char) : List Construct :=
  found (answered body tail) number (s.beginLine body) (Token.scan body)

/-- The constructs of some lines with nothing behind them, of which the first has number
`number`. -/
def ofLines (number : Nat) (s : Scan) : List Text.Line → List Construct
  | [] => []
  | l :: rest =>
    ofLine number s l.body (l.ending ++ Text.Line.text rest) ++
      ofLines (number + 1) (s.afterLine l.body) rest

theorem isSome_answered_append (xs ys tail : List Char) :
    answered (xs ++ '?' :: ys) tail xs.length = (Ternary.answer? (ys ++ tail)).isSome := by
  rw [answered, List.drop_append, List.drop_eq_nil_of_le (Nat.le_succ _)]
  simp

/-! ### The two forms agree -/

/-- The neighbours of a question mark in a line are, as far as that matters, its neighbours in the
text: a line break on either side is as good as nothing. -/
theorem standsAlone_in_text {pre xs ys ending after : List Char}
    (hpre : ∀ c ∈ pre.getLast?, Text.isLineBreak c = true)
    (hending : ∀ c ∈ ending, Text.isLineBreak c = true) (hlast : ending = [] → after = []) :
    Ternary.standsAlone (pre ++ xs).getLast? (ys ++ (ending ++ after)).head? =
      Ternary.standsAlone xs.getLast? ys.head? := by
  have hbefore : ∀ next, Ternary.standsAlone (pre ++ xs).getLast? next =
      Ternary.standsAlone xs.getLast? next := by
    intro next
    rw [List.getLast?_append]
    cases hxs : xs.getLast? with
    | some c => rfl
    | none =>
      cases hlast : pre.getLast? with
      | none => rfl
      | some c => exact Ternary.standsAlone_of_isLineBreak (hpre c hlast) next
  rw [hbefore]
  cases ys with
  | cons c ys => rfl
  | nil =>
    cases ending with
    | nil => rw [hlast rfl]; rfl
    | cons c ending =>
      exact (Ternary.unseen_of_isLineBreak (hending c List.mem_cons_self)).2 _

theorem contains_ternaries_eq {pre body ending after : List Char} {column : Nat}
    (hpre : ∀ c ∈ pre.getLast?, Text.isLineBreak c = true)
    (hending : ∀ c ∈ ending, Text.isLineBreak c = true) (hlast : ending = [] → after = [])
    (hmem : (column, Token.question) ∈ Token.scan body) :
    (ternaries (pre ++ (body ++ (ending ++ after)))).contains (pre.length + column) =
      answered body (ending ++ after) column := by
  obtain ⟨xs, ys, rfl, rfl, hstands⟩ := Token.exists_of_mem_scan_question hmem
  have htext : pre ++ ((xs ++ '?' :: ys) ++ (ending ++ after)) =
      (pre ++ xs) ++ '?' :: (ys ++ (ending ++ after)) := by simp
  rw [isSome_answered_append, htext, ← List.length_append, Bool.eq_iff_iff, List.contains_iff_mem,
    mem_ternaries_iff, standsAlone_in_text hpre hending hlast]
  exact and_iff_right hstands

theorem getLast?_append_line {pre : List Char} {l : Text.Line} {rest : List Text.Line}
    (hending : ∀ c ∈ l.ending, Text.isLineBreak c = true) (hne : l.ending = [] → rest = [])
    (hrest : rest ≠ []) : ∀ c ∈ (pre ++ l.whole).getLast?, Text.isLineBreak c = true := by
  intro c hc
  have hne' : l.ending ≠ [] := fun h => hrest (hne h)
  rw [Text.Line.whole, ← List.append_assoc, List.getLast?_append_of_ne_nil _ hne'] at hc
  exact hending c (List.mem_of_getLast? hc)

theorem lines_eq_ofLines {cs : List Char} :
    ∀ (ls : List Text.Line) (pre : List Char) (number : Nat) (s : Scan),
      Text.Line.Chained ls → cs = pre ++ Text.Line.text ls →
        (∀ c ∈ pre.getLast?, Text.isLineBreak c = true) →
          lines (ternaries cs) number pre.length s ls = ofLines number s ls
  | [], _, _, _, _, _, _ => rfl
  | l :: rest, pre, number, s, hchained, hcs, hpre => by
    obtain ⟨-, hending, hlast, hrest⟩ := hchained
    rw [Text.Line.text_cons] at hcs
    have hfound : found (fun column => (ternaries cs).contains (pre.length + column)) number
        (s.beginLine l.body) (Token.scan l.body) =
          ofLine number s l.body (l.ending ++ Text.Line.text rest) := by
      refine found_congr (fun column hmem => ?_) _ _
      rw [hcs]
      exact contains_ternaries_eq hpre hending (fun h => by rw [hlast h, Text.Line.text_nil]) hmem
    have hnext : lines (ternaries cs) (number + 1) (pre.length + l.whole.length)
        (s.afterLine l.body) rest = ofLines (number + 1) (s.afterLine l.body) rest := by
      cases rest with
      | nil => rfl
      | cons next more =>
        rw [← List.length_append]
        exact lines_eq_ofLines _ (pre ++ l.whole) _ _ hrest
          (by rw [hcs, Text.Line.whole]; simp)
          (getLast?_append_line hending hlast (by simp))
    simp only [lines, tokens_eq, ofLines, hfound]
    exact congrArg _ hnext

/-- **The constructs of a text, without positions.** -/
theorem constructs_eq_ofLines (cs : List Char) :
    constructs cs = ofLines 1 {} (Text.Line.split cs) :=
  lines_eq_ofLines (Text.Line.split cs) [] 1 {} (Text.Line.chained_split cs)
    (by simp [Text.Line.text_split]) (by simp)

end Scan

/-- A blank text has no constructs. -/
theorem constructs_of_allBlank {cs : List Char} (h : Text.allBlank cs = true) :
    constructs cs = [] := by
  have hlines : ∀ (ls : List Text.Line) (number : Nat) (s : Scan),
      (∀ c ∈ Text.Line.text ls, Text.isBlank c = true) → Scan.ofLines number s ls = [] := by
    intro ls
    induction ls with
    | nil => exact fun _ _ _ => rfl
    | cons l rest ih =>
      intro number s hblank
      rw [Text.Line.text_cons] at hblank
      have hscan : Token.scan l.body = [] := Token.scanFrom_of_allBlank
        (fun c hc => hblank c (List.mem_append_left _ hc)) 0 none
      rw [Scan.ofLines, Scan.ofLine, hscan, ih _ _ fun c hc =>
        hblank c (List.mem_append_right _ (List.mem_append_right _ hc))]
      rfl
  rw [Scan.constructs_eq_ofLines]
  refine hlines _ 1 {} fun c hc => ?_
  rw [Text.Line.text_split] at hc
  exact List.all_eq_true.mp h c hc

end SourceMetrics
