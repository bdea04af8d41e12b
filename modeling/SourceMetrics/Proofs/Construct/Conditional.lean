import Mathlib.Data.List.Forall2
import SourceMetrics.Pattern
import SourceMetrics.Proofs.Construct.Candidate
import SourceMetrics.Proofs.Construct.Search

/-!
# Conditional operators, found twice

The positions of the conditional operators are found in the whole text, and the constructs among the
tokens of its lines. As the question marks among the tokens are the candidates of the text, the
constructs that are conditional operators stand one by one, in the same order, on the lines of those
positions.

A question mark stands alone by its neighbours. The rule can be written as a pattern, which looks at
the characters on both sides and matches the question mark only; and the search for a colon applies
it to the question marks on its way, where the character in front is the one that it has just
passed.

## Main definitions

* `Ternary.mark`, `Ternary.Marked` — the pattern of a conditional operator, and where it matches
* `ternaryVisits` — the tokens that are conditional operators
* `TernariesAgree` — all that conditional operators are found by agrees

## Main results

* `Ternary.marked_iff` — the pattern matches where the neighbours allow a conditional operator
* `map_position_ternaryVisits`, `filter_ternary_constructs` — conditional operators in the text, and
  among the constructs
* `ternaries_agree` — both are the same, line by line
-/

namespace SourceMetrics

/-! ### The pattern of a conditional operator -/

theorem Pattern.run_anyOf_cons (chars : String) (follow : Follow) (s : Cursor) {c : Char}
    {rest : List Char} (h : s.rest = c :: rest) :
    (anyOf chars).run follow s =
      if c ∈ chars.toList then follow (s.advance c rest) else none := by
  simp only [anyOf, run, h, CharClass.holds]
  simp

theorem Pattern.run_anyOf_nil (chars : String) (follow : Follow) (s : Cursor) (h : s.rest = []) :
    (anyOf chars).run follow s = none := by
  simp only [anyOf, run, h]

namespace Ternary

/-- The pattern of a conditional operator, as far as it looks ahead. -/
def mark : Pattern := .seq (.anyOf "?") (.notAhead (.anyOf "?.:>"))

/-- The pattern of a conditional operator matches at a position, where neither a question mark nor
an opening angle bracket stands in front. -/
def Marked (cs : List Char) (position : Nat) : Prop :=
  (∀ c ∈ (cs.take position).getLast?, c ≠ '?' ∧ c ≠ '<') ∧ mark.accepts (cs.drop position) = true

theorem accepts_mark_iff (cs : List Char) :
    mark.accepts cs = true ↔
      cs[0]? = some '?' ∧ ∀ c ∈ cs[1]?, ¬(c = '?' ∨ c = '.' ∨ c = ':' ∨ c = '>') := by
  rw [Pattern.accepts, Pattern.match?, mark, Pattern.run]
  cases cs with
  | nil => simp [Pattern.run_anyOf_nil]
  | cons c rest =>
    rw [Pattern.run_anyOf_cons _ _ _ rfl, Pattern.run]
    cases rest with
    | nil =>
      rw [Pattern.run_anyOf_nil _ _ _ rfl]
      simp
    | cons d rest =>
      rw [Pattern.run_anyOf_cons _ _ _ rfl]
      have hquestion : c ∈ "?".toList ↔ c = '?' := by simp
      have hafter : d ∈ "?.:>".toList ↔ d = '?' ∨ d = '.' ∨ d = ':' ∨ d = '>' := by simp
      simp only [hquestion, hafter, List.getElem?_cons_zero, List.getElem?_cons_succ]
      grind

theorem standsAlone_iff (before after : Option Char) :
    standsAlone before after = true ↔
      (∀ c ∈ before, c ≠ '?' ∧ c ≠ '<') ∧
        ∀ c ∈ after, ¬(c = '?' ∨ c = '.' ∨ c = ':' ∨ c = '>') := by
  cases before <;> cases after <;> simp [standsAlone, and_assoc]

/-- The character in front of a position. -/
theorem getLast?_take_of_lt {cs : List Char} {position : Nat} (h : position < cs.length) :
    (cs.take position).getLast? = if position = 0 then none else cs[position - 1]? := by
  rw [List.getLast?_take, List.getElem?_eq_getElem (by omega), Option.some_or]

/-- **The pattern matches where the neighbours allow a conditional operator.** -/
theorem marked_iff (cs : List Char) (position : Nat) :
    Marked cs position ↔ cs[position]? = some '?' ∧ isCandidate cs position = true := by
  rw [Marked, accepts_mark_iff, List.getElem?_drop, List.getElem?_drop, Nat.add_zero]
  by_cases h : cs[position]? = some '?'
  · have hlt : position < cs.length := (List.getElem?_eq_some_iff.mp h).1
    rw [getLast?_take_of_lt hlt, isCandidate, standsAlone_iff]
    exact ⟨fun ⟨hbefore, hat, hafter⟩ => ⟨hat, hbefore, hafter⟩,
      fun ⟨hat, hbefore, hafter⟩ => ⟨hbefore, hat, hafter⟩⟩
  · exact ⟨fun hmarked => absurd hmarked.2.1 h, fun hcandidate => absurd hcandidate.1 h⟩

/-- Where the character in front of a position stands, if there is a question mark before it. -/
theorem getLast?_or_of_drop_eq {cs xs : List Char} {i j : Nat} (hi : cs[i]? = some '?')
    (hij : i < j) (hj : j < cs.length) (h : cs.drop (i + 1) = xs ++ cs.drop j) :
    xs.getLast?.or (some '?') = if j = 0 then none else cs[j - 1]? := by
  have htake : cs.take (i + 1) ++ xs = cs.take j := by
    have hwhole : cs.take (i + 1) ++ xs ++ cs.drop j = cs.take j ++ cs.drop j := by
      rw [List.append_assoc, ← h, List.take_append_drop, List.take_append_drop]
    exact List.append_cancel_right hwhole
  have hfirst : (cs.take (i + 1)).getLast? = some '?' := by
    rw [getLast?_take_of_lt (by omega), if_neg (Nat.succ_ne_zero i), Nat.add_sub_cancel, hi]
  rw [← getLast?_take_of_lt hj, ← htake, List.getLast?_append, hfirst]

/-- A search that comes to a place behind a question mark judges by the neighbours in the text. -/
theorem standsAlone_before_eq {cs : List Char} {i j : Nat} {s : Search} (hi : cs[i]? = some '?')
    (hij : i < j) (hj : j < cs.length) (h : Search.Reaches .start (cs.drop (i + 1)) s (cs.drop j)) :
    standsAlone (some s.before) cs[j + 1]? = isCandidate cs j := by
  obtain ⟨passed, hpassed, hbefore⟩ := h.before_eq
  have hstart : some Search.start.before = some '?' := rfl
  rw [hbefore, hstart, getLast?_or_of_drop_eq hi hij hj hpassed, isCandidate]

end Ternary

/-! ### The kinds of tokens -/

namespace Token

theorem Scanned.exists_at? {column : Nat} {before : Option Char} {cs : List Char}
    {ts : List (Nat × Token)} (h : Scanned column before cs ts) {found : Nat × Token}
    (hmem : found ∈ ts) : ∃ before' cs' n, at? before' cs' = some (found.2, n) := by
  induction h with
  | nil => cases hmem
  | gap _ _ ih => exact ih hmem
  | token hfound _ _ _ ih =>
    rcases List.mem_cons.mp hmem with rfl | hmem
    · exact ⟨_, _, _, hfound⟩
    · exact ih hmem

/-- A token that does not pass for a conditional operator without being a question mark. -/
def NotTernary (t : Token) : Prop := t ≠ .keyword .ternary ∧ t ≠ .logical .ternary

theorem notTernary_of_word? {before : Option Char} {cs : List Char} {t : Token} {n : Nat}
    (h : word? before cs = some (t, n)) : NotTernary t := by
  simp only [word?] at h
  split at h
  next kind hkind =>
    have hne : kind ≠ .ternary := by
      obtain ⟨earlier, later, heq, -⟩ := List.lookup_eq_some_iff.mp hkind
      have hmem : kind ∈ keywords.map Prod.snd := by simp [heq]
      rintro rfl
      exact absurd hmem (by decide)
    obtain ⟨-, h⟩ := Option.ite_none_left_eq_some.mp h
    split at h <;> cases h <;> simp [NotTernary, hne]
  next =>
    obtain ⟨-, h⟩ := Option.ite_none_right_eq_some.mp h
    obtain ⟨length, -, h⟩ := Option.map_eq_some_iff.mp h
    cases h
    simp [NotTernary]

theorem notTernary_of_at? {before : Option Char} {cs : List Char} {t : Token} {n : Nat}
    (h : at? before cs = some (t, n)) : NotTernary t := by
  cases cs with
  | nil => cases h
  | cons c rest =>
    -- each branch but the last gives a fixed token
    have hsame : ∀ {p : Prop} [Decidable p] {t' : Token} {k : Nat} {other : Option (Token × Nat)},
        NotTernary t' → (other = some (t, n) → NotTernary t) →
          (if p then some (t', k) else other) = some (t, n) → NotTernary t := by
      intro p _ t' k other ht' hother hif
      by_cases hp : p
      · rw [if_pos hp] at hif
        cases hif
        exact ht'
      · rw [if_neg hp] at hif
        exact hother hif
    rw [at?_cons] at h
    refine hsame (by simp [NotTernary]) (hsame (by simp [NotTernary]) fun h => ?_) h
    by_cases hquestion : c = '?'
    · rw [if_pos hquestion] at h
      exact hsame (by simp [NotTernary]) (fun h => by cases h) h
    · rw [if_neg hquestion] at h
      refine hsame (by simp [NotTernary]) (hsame (by simp [NotTernary])
        (hsame (by simp [NotTernary]) (hsame (by simp [NotTernary])
          (hsame (by simp [NotTernary]) fun h => ?_)))) h
      exact notTernary_of_word? (Option.ite_none_right_eq_some.mp h).2

end Token

theorem notTernary_of_mem_visits {cs : List Char} {v : Visit} (h : v ∈ visits cs) :
    v.token.NotTernary := by
  obtain ⟨before, l, after, earlier, column, later, -, hscan, -⟩ := exists_of_mem_visits h
  have hmem : (column, v.token) ∈ Token.scan l.body := by simp [hscan]
  obtain ⟨before', cs', n, hat⟩ := (Token.scanned_scan l.body).exists_at? hmem
  exact Token.notTernary_of_at? hat

/-! ### Conditional operators among the visits -/

/-- A visit at a question mark whose position is among `marks`. -/
def Visit.isTernary (marks : List Nat) (v : Visit) : Bool :=
  v.token = .question && marks.contains v.position

/-- The conditional operator that is found at a question mark. -/
def Visit.ternary (v : Visit) : Construct := ⟨.ternary, v.line, v.state.nesting, false⟩

/-- The tokens of a text that are conditional operators, as the scan comes to them. -/
def ternaryVisits (cs : List Char) : List Visit :=
  (visits cs).filter (Visit.isTernary (ternaries cs))

theorem Visit.filter_construct? (marks : List Nat) {v : Visit} (h : v.token.NotTernary) :
    (v.construct? marks).filter (·.kind == .ternary) =
      if v.isTernary marks then some v.ternary else none := by
  obtain ⟨line, position, token, state⟩ := v
  cases token with
  | keyword kind =>
    have hkind : kind ≠ .ternary := fun heq => h.1 (by rw [heq])
    simp [construct?, Scan.construct?, isTernary, hkind]
  | logical kind =>
    have hkind : kind ≠ .ternary := fun heq => h.2 (by rw [heq])
    simp [construct?, Scan.construct?, isTernary, hkind]
  | question =>
    by_cases hmarks : position ∈ marks <;>
      simp [construct?, Scan.construct?, isTernary, ternary, hmarks]
  | _ => rfl

/-- The constructs that are conditional operators are those found at `ternaryVisits`. -/
theorem filter_ternary_constructs (cs : List Char) :
    (constructs cs).filter (·.kind == .ternary) = (ternaryVisits cs).map Visit.ternary := by
  have hvisits : ∀ v ∈ visits cs,
      (v.construct? (ternaries cs)).filter (·.kind == .ternary) =
        if v.isTernary (ternaries cs) then some v.ternary else none := fun v hv =>
    Visit.filter_construct? (ternaries cs) (notTernary_of_mem_visits hv)
  rw [constructs_eq_filterMap_visits, List.filter_filterMap, List.filterMap_congr hvisits,
    ← List.filterMap_eq_map, ternaryVisits, List.filterMap_filter]
  rfl

/-- The positions of the conditional operators are those of `ternaryVisits`. -/
theorem map_position_ternaryVisits (cs : List Char) :
    (ternaryVisits cs).map Visit.position = ternaries cs := by
  have hvisits : ∀ v ∈ visits cs,
      (if v.isTernary (ternaries cs) then (some ∘ Visit.position) v else none) =
        v.question?.filter (ternaries cs).contains := by
    intro v _
    by_cases htoken : v.token = .question <;>
      simp [Visit.isTernary, Visit.question?, htoken, Option.filter]
  have hmarks : (Ternary.candidates cs).filter (ternaries cs).contains = ternaries cs := by
    conv_rhs => rw [ternaries_eq_filter]
    refine List.filter_congr fun position hposition => ?_
    simp [ternaries_eq_filter, hposition]
  rw [ternaryVisits, ← List.filterMap_eq_map, List.filterMap_filter, List.filterMap_congr hvisits,
    ← List.filter_filterMap, filterMap_question?_visits, hmarks]

/-- All that conditional operators are found by agrees. -/
structure TernariesAgree (cs : List Char) : Prop where
  /-- The positions are in ascending order, so none is named twice. -/
  ascending : (ternaries cs).Pairwise (· < ·)
  /-- The constructs are as many as the positions, and each stands on the line of its position. -/
  constructs : List.Forall₂ (fun construct position => Text.OnLine cs position construct.line)
    ((constructs cs).filter (·.kind == .ternary)) (ternaries cs)
  /-- A question mark matches the pattern if its neighbours allow a conditional operator. -/
  marked : ∀ i, cs[i]? = some '?' → (Ternary.Marked cs i ↔ Ternary.isCandidate cs i = true)
  /-- The pass over the text looks at the matches of the pattern. -/
  text : ∀ i, i ∈ ternaries cs ↔
    Ternary.Marked cs i ∧ (Ternary.answer? (cs.drop (i + 1))).isSome = true
  /-- The pass over the tokens looks at the matches of the pattern. -/
  tokens : ∀ i, (∃ v ∈ visits cs, v.token = .question ∧ v.position = i) ↔ Ternary.Marked cs i
  /-- The search from one question mark judges another one in the same way. -/
  search : ∀ i j s, cs[i]? = some '?' → i < j → cs[j]? = some '?' →
    Ternary.Search.Reaches .start (cs.drop (i + 1)) s (cs.drop j) →
      Ternary.standsAlone (some s.before) cs[j + 1]? = Ternary.isCandidate cs j

/-- **Conditional operators are found alike in the text and among the tokens.** -/
theorem ternaries_agree (cs : List Char) : TernariesAgree cs where
  ascending := pairwise_ternaries cs
  constructs := by
    rw [filter_ternary_constructs, ← map_position_ternaryVisits, List.forall₂_map_left_iff,
      List.forall₂_map_right_iff, List.forall₂_same]
    exact fun v hv => onLine_of_mem_visits (List.mem_of_mem_filter hv)
  marked i hi := by rw [Ternary.marked_iff, and_iff_right hi]
  text i := by
    rw [ternaries_eq_filter, List.mem_filter, Ternary.mem_candidates_iff, Ternary.marked_iff]
  tokens i := by
    rw [Ternary.marked_iff, ← Ternary.mem_candidates_iff, ← filterMap_question?_visits,
      List.mem_filterMap]
    refine exists_congr fun v => and_congr_right fun _ => ?_
    simp [Visit.question?]
  search i j s hi hij hj :=
    Ternary.standsAlone_before_eq hi hij (List.getElem?_eq_some_iff.mp hj).1

end SourceMetrics
