import SourceMetrics.Proofs.Construct.Visit

/-!
# Conditional operators in the text and among the tokens

Conditional operators are looked for twice. One pass goes over the whole text and notes the
positions of the question marks that stand alone and are answered. The other goes over the tokens of
each line, without the breaks, and takes a question mark for a construct if its position was noted.
Both judge by the neighbours whether a question mark stands alone, and they judge alike: a break on
either side is as good as nothing, and no token but a question mark has one inside.

## Main definitions

* `Ternary.isCandidate` — a question mark can be a conditional operator, by its neighbours in the
  text
* `Ternary.candidates` — the positions of the question marks that stand alone

## Main results

* `ternaries_eq_filter` — conditional operators are candidates that are answered
* `filterMap_question?_visits` — the question marks among the tokens are the candidates
-/

namespace SourceMetrics

namespace Ternary

/-! ### Candidates -/

/-- Whether a question mark at a position can be a conditional operator, by its neighbours
in the text. -/
def isCandidate (cs : List Char) (position : Nat) : Bool :=
  standsAlone (if position = 0 then none else cs[position - 1]?) cs[position + 1]?

/-- The positions of the question marks that stand alone, in a text that starts at position `index`
and has `before` in front of it. -/
def candidatesFrom (before : Option Char) (index : Nat) : List Char → List Nat
  | [] => []
  | c :: rest =>
    if c = '?' && standsAlone before rest.head? then
      index :: candidatesFrom (some c) (index + 1) rest
    else candidatesFrom (some c) (index + 1) rest

/-- The positions of the question marks of a text that stand alone. -/
def candidates (cs : List Char) : List Nat := candidatesFrom none 0 cs

theorem le_of_mem_candidatesFrom {position : Nat} {before : Option Char} {index : Nat}
    {cs : List Char} (h : position ∈ candidatesFrom before index cs) : index ≤ position := by
  induction cs generalizing before index with
  | nil => cases h
  | cons c rest ih =>
    rw [candidatesFrom] at h
    split at h
    · rcases List.mem_cons.mp h with rfl | h
      · exact Nat.le_refl _
      · exact Nat.le_of_succ_le (ih h)
    · exact Nat.le_of_succ_le (ih h)

theorem pairwise_candidatesFrom (before : Option Char) (index : Nat) (cs : List Char) :
    (candidatesFrom before index cs).Pairwise (· < ·) := by
  induction cs generalizing before index with
  | nil => exact .nil
  | cons c rest ih =>
    rw [candidatesFrom]
    split
    · exact .cons (fun position h => le_of_mem_candidatesFrom h) (ih _ _)
    · exact ih _ _

/-- A position is one of the candidates if it has a question mark that stands alone. -/
theorem mem_candidatesFrom_iff (k : Nat) (before : Option Char) (index : Nat) (cs : List Char) :
    index + k ∈ candidatesFrom before index cs ↔
      cs[k]? = some '?' ∧ standsAlone (if k = 0 then before else cs[k - 1]?) cs[k + 1]? = true := by
  induction cs generalizing k before index with
  | nil => simp [candidatesFrom]
  | cons c rest ih =>
    have hlater : index ∉ candidatesFrom (some c) (index + 1) rest := fun h =>
      absurd (le_of_mem_candidatesFrom h) (by omega)
    cases k with
    | zero =>
      rw [candidatesFrom, List.head?_eq_getElem?]
      by_cases h : c = '?' ∧ standsAlone before rest[0]? = true
      · simp [h]
      · rw [if_neg (by simpa using h)]
        simpa [hlater] using h
    | succ k =>
      have hrest := ih k (some c) (index + 1)
      have hbefore : (if k = 0 then some c else rest[k - 1]?) = (c :: rest)[k]? := by
        cases k <;> simp
      rw [hbefore, show index + 1 + k = index + (k + 1) by omega] at hrest
      rw [candidatesFrom, List.getElem?_cons_succ, List.getElem?_cons_succ,
        if_neg (Nat.succ_ne_zero k), Nat.add_sub_cancel, ← hrest]
      split
      · rw [List.mem_cons]
        exact or_iff_right (by omega)
      · rfl

theorem mem_candidates_iff {cs : List Char} {position : Nat} :
    position ∈ candidates cs ↔ cs[position]? = some '?' ∧ isCandidate cs position = true := by
  have h := mem_candidatesFrom_iff position none 0 cs
  rwa [Nat.zero_add] at h

/-- The pass over the text keeps the candidates that are answered. -/
theorem positionsFrom_eq_filter (cs pre : List Char) (before : Option Char) :
    positionsFrom before pre.length cs =
      (candidatesFrom before pre.length cs).filter fun position =>
        (answer? ((pre ++ cs).drop (position + 1))).isSome := by
  induction cs generalizing pre before with
  | nil => rfl
  | cons c rest ih =>
    have hrest : positionsFrom (some c) (pre.length + 1) rest =
        (candidatesFrom (some c) (pre.length + 1) rest).filter fun position =>
          (answer? ((pre ++ c :: rest).drop (position + 1))).isSome := by
      simpa using ih (pre ++ [c]) (some c)
    have hdrop : (pre ++ c :: rest).drop (pre.length + 1) = rest := List.drop_length_add_append 1
    rw [positionsFrom, candidatesFrom]
    by_cases h : (c = '?' && standsAlone before rest.head?) = true
    · rw [if_pos h, List.filter_cons, hdrop, h, Bool.true_and, hrest]
    · rw [if_neg h, if_neg (by simp [h]), hrest]

end Ternary

/-- **Conditional operators are the candidates that are answered.** -/
theorem ternaries_eq_filter (cs : List Char) :
    ternaries cs = (Ternary.candidates cs).filter fun position =>
      (Ternary.answer? (cs.drop (position + 1))).isSome :=
  Ternary.positionsFrom_eq_filter cs [] none

theorem pairwise_ternaries (cs : List Char) : (ternaries cs).Pairwise (· < ·) := by
  rw [ternaries_eq_filter]
  exact (Ternary.pairwise_candidatesFrom none 0 cs).filter _

/-! ### Question marks among the tokens -/

namespace Ternary

/-- A text without a question mark has no candidates. -/
theorem candidatesFrom_append_of_notMem {w : List Char} (h : '?' ∉ w) (before : Option Char)
    (index : Nat) (more : List Char) :
    candidatesFrom before index (w ++ more) =
      candidatesFrom (w.getLast?.or before) (index + w.length) more := by
  induction w generalizing before index with
  | nil => rfl
  | cons c w ih =>
    obtain ⟨hc, hw⟩ := not_or.mp (mt List.mem_cons.mpr h)
    rw [List.cons_append, candidatesFrom, if_neg (by simp [Ne.symm hc]), ih hw,
      Text.getLast?_cons_or, List.length_cons, Nat.add_assoc, Nat.add_comm 1]

/-- The candidates of two texts, if no question mark at the end of the first looks at the second. -/
theorem candidatesFrom_append {ys : List Char} (h : Unseen ys.head?) (xs : List Char)
    (before : Option Char) (index : Nat) :
    candidatesFrom before index (xs ++ ys) =
      candidatesFrom before index xs ++
        candidatesFrom (xs.getLast?.or before) (index + xs.length) ys := by
  induction xs generalizing before index with
  | nil => rfl
  | cons c xs ih =>
    have hhead : standsAlone before (xs ++ ys).head? = standsAlone before xs.head? := by
      cases xs with
      | nil => exact h.2 before
      | cons d xs => rfl
    have hrest := ih (some c) (index + 1)
    rw [← Text.getLast?_cons_or before, Nat.add_assoc, Nat.add_comm 1] at hrest
    rw [List.cons_append, candidatesFrom, hhead, candidatesFrom, hrest, List.length_cons]
    split <;> rfl

/-- A line break in front is as good as nothing. -/
theorem candidatesFrom_of_isLineBreak {c : Char} (h : Text.isLineBreak c = true) (index : Nat)
    (cs : List Char) : candidatesFrom (some c) index cs = candidatesFrom none index cs := by
  cases cs with
  | nil => rfl
  | cons d rest => rw [candidatesFrom, candidatesFrom, standsAlone_of_isLineBreak h]

theorem candidatesFrom_add (n : Nat) (before : Option Char) (index : Nat) (cs : List Char) :
    candidatesFrom before (n + index) cs = (candidatesFrom before index cs).map (n + ·) := by
  induction cs generalizing before index with
  | nil => rfl
  | cons c rest ih =>
    rw [candidatesFrom, candidatesFrom, apply_ite (List.map (n + ·)), List.map_cons, ← ih,
      Nat.add_assoc]

end Ternary

namespace Token

/-- The position of a token that is a question mark. -/
def question? (t : Nat × Token) : Option Nat := if t.2 = .question then some t.1 else none

theorem notMem_of_spelled {t : Token} {w : List Char} (h : Spelled t w) (ht : t ≠ .question) :
    '?' ∉ w := by
  have hwords : (∀ c ∈ w, isWordPart c = true) → '?' ∉ w := fun hw hmem =>
    absurd (hw _ hmem) (by decide)
  cases t with
  | keyword _ => exact hwords h
  | jump => exact hwords h
  | logical _ => rcases h with rfl | rfl <;> decide
  | question => exact absurd rfl ht
  | openParen => cases h; decide
  | closeParen => cases h; decide
  | semicolon => cases h; decide
  | openBrace => cases h; decide
  | closeBrace => cases h; decide

/-- A question mark that stands alone is always a token. -/
theorem not_standsAlone_of_at?_eq_none {before : Option Char} {c : Char} {rest : List Char}
    (h : at? before (c :: rest) = none) :
    ¬(c = '?' && Ternary.standsAlone before rest.head?) = true := by
  intro hquestion
  obtain ⟨rfl, hstands⟩ : c = '?' ∧ Ternary.standsAlone before rest.head? = true := by
    simpa using hquestion
  simp [at?_cons, hstands] at h

theorem Scanned.filterMap_question? {column : Nat} {before : Option Char} {cs : List Char}
    {ts : List (Nat × Token)} (h : Scanned column before cs ts) :
    ts.filterMap question? = Ternary.candidatesFrom before column cs := by
  induction h with
  | nil => rfl
  | gap none _ ih =>
    rw [ih, Ternary.candidatesFrom, if_neg (not_standsAlone_of_at?_eq_none none)]
  | @token column before t w rest ts found _ spelled _ ih =>
    by_cases ht : t = .question
    · subst ht
      obtain rfl := spelled
      obtain ⟨-, hstands⟩ := eq_of_at?_question found
      rw [List.singleton_append, Ternary.candidatesFrom, if_pos (by simpa using hstands)]
      exact congrArg _ ih
    · have hnone : question? (column, t) = none := if_neg ht
      rw [List.filterMap_cons_none hnone, ih,
        Ternary.candidatesFrom_append_of_notMem (notMem_of_spelled spelled ht)]

/-- The question marks among the tokens of a line are its candidates. -/
theorem filterMap_question?_scan (line : List Char) :
    (scan line).filterMap question? = Ternary.candidates line :=
  (scanned_scan line).filterMap_question?

end Token

/-! ### Question marks among the visits -/

open Text (Line)

/-- The position of a visit at a question mark. -/
def Visit.question? (v : Visit) : Option Nat :=
  if v.token = .question then some v.position else none

namespace Scan

theorem filterMap_question?_visitTokens (number offset : Nat) (s : Scan) (ts : List (Nat × Token)) :
    (visitTokens number offset s ts).filterMap Visit.question? =
      (ts.filterMap Token.question?).map (offset + ·) := by
  induction ts generalizing s with
  | nil => rfl
  | cons t rest ih =>
    obtain ⟨column, token⟩ := t
    by_cases htoken : token = .question
    · have hvisit : Visit.question? ⟨number, offset + column, token, s⟩ = some (offset + column) :=
        if_pos htoken
      have hcolumn : Token.question? (column, token) = some column := if_pos htoken
      rw [visitTokens, List.filterMap_cons_some hvisit, List.filterMap_cons_some hcolumn, ih,
        List.map_cons]
    · have hvisit : Visit.question? ⟨number, offset + column, token, s⟩ = none := if_neg htoken
      have hcolumn : Token.question? (column, token) = none := if_neg htoken
      rw [visitTokens, List.filterMap_cons_none hvisit, List.filterMap_cons_none hcolumn, ih]

/-- The break of a line has no candidates, and the text behind it does not depend on what
is in front. -/
theorem candidatesFrom_ending {l : Line} {rest : List Line} (h : Line.Chained (l :: rest))
    (before : Option Char) (index : Nat) :
    Ternary.candidatesFrom before index (l.ending ++ Line.text rest) =
      Ternary.candidatesFrom none (index + l.ending.length) (Line.text rest) := by
  obtain ⟨-, hending, hlast, -⟩ := h
  have hquestion : '?' ∉ l.ending := fun hmem => absurd (hending _ hmem) (by decide)
  rw [Ternary.candidatesFrom_append_of_notMem hquestion]
  cases hbreak : l.ending.getLast? with
  | none =>
    rw [List.getLast?_eq_none_iff] at hbreak
    rw [hlast hbreak]
    rfl
  | some c =>
    exact Ternary.candidatesFrom_of_isLineBreak (hending c (List.mem_of_getLast? hbreak)) _ _

/-- The question marks among the tokens of some lines are the candidates of their text. -/
theorem filterMap_question?_visitLines {ls : List Line} (h : Line.Chained ls) (number offset : Nat)
    (s : Scan) :
    (visitLines number offset s ls).filterMap Visit.question? =
      Ternary.candidatesFrom none offset (Line.text ls) := by
  induction ls generalizing number offset s with
  | nil => rfl
  | cons l rest ih =>
    have hline : Ternary.candidatesFrom none offset l.body =
        (Ternary.candidates l.body).map (offset + ·) :=
      Ternary.candidatesFrom_add offset none 0 l.body
    rw [visitLines, List.filterMap_append, filterMap_question?_visitTokens,
      Token.filterMap_question?_scan, ih h.2.2.2, Line.text_cons,
      Ternary.candidatesFrom_append h.unseen, candidatesFrom_ending h, hline, Line.whole,
      List.length_append, Nat.add_assoc]

end Scan

/-- **The question marks among the tokens of a text are its candidates.** -/
theorem filterMap_question?_visits (cs : List Char) :
    (visits cs).filterMap Visit.question? = Ternary.candidates cs := by
  rw [visits, Scan.filterMap_question?_visitLines (Line.chained_split cs), Line.text_split]
  rfl

end SourceMetrics
