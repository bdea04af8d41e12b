import Mathlib.Data.List.Nodup
import Mathlib.Data.List.Perm.Subperm
import SourceMetrics.Proofs.Construct.Conditional

/-!
# The colons of conditional operators

Every conditional operator has a colon behind it: the one at which the search from its question mark
ends. It is a single colon, and it belongs to no other conditional operator, because two searches
over the same characters never end at the same colon. So a text has at least as many colons as
conditional operators.

## Main definitions

* `Ternary.colon?` — the position of the colon that answers a question mark
* `ColonsApart` — the colons of conditional operators are different single colons behind them

## Main results

* `Ternary.Search.colon_of_run` — a search ends at a single colon
* `colon?_injective` — conditional operators have different colons
* `colons_apart` — the colons of conditional operators, and how many there are
-/

namespace SourceMetrics

namespace Ternary

/-- The position of the colon that answers the question mark at a position. -/
def colon? (cs : List Char) (position : Nat) : Option Nat :=
  (answer? (cs.drop (position + 1))).map (position + 1 + ·)

/-- **A search ends at a single colon.** -/
theorem Search.colon_of_run :
    ∀ {cs : List Char} {s : Search} {n : Nat}, s.run cs = some n →
      cs[n]? = some ':' ∧ cs[n + 1]? ≠ some ':'
  | [], s, n, h => by cases h
  | c :: rest, s, n, h => by
    rw [run_cons] at h
    cases hmove : s.step c rest.head? with
    | stop =>
      rw [hmove] at h
      cases h
    | answer =>
      obtain ⟨rfl, hsingle, -, -⟩ := of_step_eq_answer hmove
      rw [hmove] at h
      cases h
      exact ⟨rfl, by rwa [List.head?_eq_getElem?] at hsingle⟩
    | pass next =>
      rw [hmove] at h
      obtain ⟨m, hm, rfl⟩ := Option.map_eq_some_iff.mp h
      obtain ⟨hcolon, hsingle⟩ := colon_of_run hm
      exact ⟨hcolon, hsingle⟩
    | skip next =>
      obtain ⟨-, hdouble, -, -⟩ := of_step_eq_skip hmove
      obtain ⟨more, rfl⟩ := List.head?_eq_some_iff.mp hdouble
      rw [hmove] at h
      obtain ⟨m, hm, rfl⟩ := Option.map_eq_some_iff.mp h
      obtain ⟨hcolon, hsingle⟩ := colon_of_run hm
      exact ⟨hcolon, hsingle⟩
termination_by cs => cs.length

theorem colon_of_colon? {cs : List Char} {i j : Nat} (h : colon? cs i = some j) :
    i < j ∧ cs[j]? = some ':' ∧ cs[j + 1]? ≠ some ':' := by
  obtain ⟨n, hn, rfl⟩ := Option.map_eq_some_iff.mp h
  obtain ⟨hcolon, hsingle⟩ := Search.colon_of_run hn
  rw [List.getElem?_drop] at hcolon hsingle
  exact ⟨by omega, hcolon, hsingle⟩

/-- What stands behind a question mark, up to a later question mark that stands alone. -/
theorem exists_between {cs : List Char} {i j : Nat} (hi : cs[i]? = some '?') (hij : i < j)
    (hj : cs[j]? = some '?') (hcandidate : isCandidate cs j = true) :
    ∃ xs, cs.drop (i + 1) = xs ++ '?' :: cs.drop (j + 1) ∧ i + 1 + xs.length = j ∧
      standsAlone (xs.getLast?.or (some '?')) (cs.drop (j + 1)).head? = true := by
  obtain ⟨hlt, hquestion⟩ := List.getElem?_eq_some_iff.mp hj
  have hdrop : '?' :: cs.drop (j + 1) = cs.drop j := by
    rw [List.drop_eq_getElem_cons hlt, hquestion]
  have hsplit : cs.drop (i + 1) = (cs.drop (i + 1)).take (j - (i + 1)) ++ cs.drop j := by
    conv_lhs => rw [← List.take_append_drop (j - (i + 1)) (cs.drop (i + 1)), List.drop_drop,
      show i + 1 + (j - (i + 1)) = j by omega]
  refine ⟨(cs.drop (i + 1)).take (j - (i + 1)), by rwa [hdrop], ?_, ?_⟩
  · rw [List.length_take, List.length_drop]
    omega
  · rw [getLast?_or_of_drop_eq hi hij hlt hsplit, List.head?_drop]
    exact hcandidate

/-- The colon of a later conditional operator is not that of an earlier one. -/
theorem colon?_ne_of_lt {cs : List Char} {i j : Nat} (hi : cs[i]? = some '?') (hij : i < j)
    (hj : j ∈ ternaries cs) : colon? cs i ≠ colon? cs j := by
  rw [ternaries_eq_filter, List.mem_filter, mem_candidates_iff, Option.isSome_iff_exists] at hj
  obtain ⟨⟨hquestion, hcandidate⟩, n, hn⟩ := hj
  obtain ⟨xs, hdrop, hlength, hstands⟩ := exists_between hi hij hquestion hcandidate
  intro heq
  have hne := answer?_ne_of_answer? hstands hn
  rw [← hdrop] at hne
  rw [colon?, colon?, hn, Option.map_some] at heq
  obtain ⟨m, hm, hsum⟩ := Option.map_eq_some_iff.mp heq
  exact hne (by rw [hm]; congr 1; omega)

end Ternary

theorem getElem?_of_mem_ternaries {cs : List Char} {i : Nat} (h : i ∈ ternaries cs) :
    cs[i]? = some '?' ∧ ∃ j, Ternary.colon? cs i = some j := by
  rw [ternaries_eq_filter, List.mem_filter, Ternary.mem_candidates_iff,
    Option.isSome_iff_exists] at h
  obtain ⟨⟨hquestion, -⟩, n, hn⟩ := h
  exact ⟨hquestion, i + 1 + n, by rw [Ternary.colon?, hn, Option.map_some]⟩

/-- Conditional operators have different colons. -/
theorem colon?_injective {cs : List Char} {i j : Nat} (hi : i ∈ ternaries cs)
    (hj : j ∈ ternaries cs) (h : Ternary.colon? cs i = Ternary.colon? cs j) : i = j := by
  rcases Nat.lt_trichotomy i j with hlt | rfl | hlt
  · exact absurd h (Ternary.colon?_ne_of_lt (getElem?_of_mem_ternaries hi).1 hlt hj)
  · rfl
  · exact absurd h.symm (Ternary.colon?_ne_of_lt (getElem?_of_mem_ternaries hj).1 hlt hi)

/-- There are at least as many colons as conditional operators: each has a colon of its own. -/
theorem length_ternaries_le_count (cs : List Char) : (ternaries cs).length ≤ cs.count ':' := by
  -- the colons that belong to a conditional operator, among all colons of the text
  have hnodup : ((ternaries cs).map (Ternary.colon? cs)).Nodup :=
    List.Nodup.map_on (fun i hi j hj h => colon?_injective hi hj h)
      ((pairwise_ternaries cs).imp Nat.ne_of_lt)
  have hsubset : (ternaries cs).map (Ternary.colon? cs) ⊆ (cs.findIdxs (· == ':')).map some := by
    intro colon hcolon
    obtain ⟨i, hi, rfl⟩ := List.mem_map.mp hcolon
    obtain ⟨-, j, hj⟩ := getElem?_of_mem_ternaries hi
    obtain ⟨-, hat, -⟩ := Ternary.colon_of_colon? hj
    obtain ⟨hlt, hat⟩ := List.getElem?_eq_some_iff.mp hat
    rw [hj]
    exact List.mem_map_of_mem ((List.mem_findIdxs_iff_pos_getElem hlt).mpr (by simp [hat]))
  have hlength := (List.subperm_of_subset hnodup hsubset).length_le
  rwa [List.length_map, List.length_map, List.length_findIdxs] at hlength

/-- The colons of conditional operators are different single colons behind them. -/
structure ColonsApart (cs : List Char) : Prop where
  /-- A conditional operator is answered by a colon behind it that is not followed by another
  one. -/
  single : ∀ i ∈ ternaries cs, ∃ j, Ternary.colon? cs i = some j ∧ i < j ∧ cs[j]? = some ':' ∧
    cs[j + 1]? ≠ some ':'
  /-- No colon answers two conditional operators. -/
  injective : ∀ i ∈ ternaries cs, ∀ j ∈ ternaries cs,
    Ternary.colon? cs i = Ternary.colon? cs j → i = j
  /-- There are at least as many colons as constructs that are conditional operators. -/
  count_le : ((constructs cs).countP fun c => c.kind == .ternary) ≤ cs.count ':'

/-- **No colon answers two conditional operators.** -/
theorem colons_apart (cs : List Char) : ColonsApart cs where
  single i hi := by
    obtain ⟨-, j, hj⟩ := getElem?_of_mem_ternaries hi
    exact ⟨j, hj, Ternary.colon_of_colon? hj⟩
  injective _ hi _ hj := colon?_injective hi hj
  count_le := by
    rw [List.countP_eq_length_filter, filter_ternary_constructs, List.length_map,
      ← List.length_map (f := Visit.position), map_position_ternaryVisits]
    exact length_ternaries_le_count cs

end SourceMetrics
