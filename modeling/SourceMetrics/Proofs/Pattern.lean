import Mathlib.Data.Option.Basic
import SourceMetrics.Pattern

/-!
# How far a match gets

A matcher takes what has to follow as an argument, so a match is a fact about the place that is
handed on: whenever a pattern matches, what follows was asked at some place at least `minLength`
characters further. `Pattern.Advances` says this of any matcher. A repetition keeps whatever its
rounds keep, because a round hands on a place where the next round or what follows was asked.

## Main definitions

* `Pattern.minLength` — a number of characters that every match takes at least
* `Pattern.Advances` — a matcher hands on places that lie far enough ahead
* `Pattern.Keeps` — a matcher hands on places with a property, if it starts at one

## Main results

* `Pattern.advances_run` — the matcher of a pattern advances by its least length
* `Pattern.minLength_le_of_match?` — so a match is at least that long
-/

namespace SourceMetrics

namespace Pattern

/-- A number of characters that every match of a pattern takes at least. -/
def minLength : Pattern → Nat
  | one _ => 1
  | seq first second => first.minLength + second.minLength
  | alt first second => min first.minLength second.minLength
  | remember _ body => body.minLength
  | empty | many _ | few _ | ahead _ | notAhead _ | boundary | finish => 0

/-- Whenever the matcher finds a match, what follows was asked at a place at least
`n` characters ahead. -/
def Advances (n : Nat) (matcher : Follow → Follow) : Prop :=
  ∀ ⦃follow : Follow⦄ ⦃s t : Cursor⦄, matcher follow s = some t →
    ∃ u, follow u = some t ∧ s.position + n ≤ u.position

theorem Advances.mono {n k : Nat} {matcher : Follow → Follow} (h : Advances n matcher)
    (hk : k ≤ n) : Advances k matcher := by
  intro follow s t hmatch
  obtain ⟨u, hu, hle⟩ := h hmatch
  exact ⟨u, hu, by omega⟩

/-- Whenever the matcher finds a match at a place with a property, what follows was asked at
such a place. -/
def Keeps (property : Cursor → Prop) (matcher : Follow → Follow) : Prop :=
  ∀ ⦃follow : Follow⦄ ⦃s t : Cursor⦄, property s → matcher follow s = some t →
    ∃ u, follow u = some t ∧ property u

theorem Keeps.repeatMany {property : Cursor → Prop} {round : Follow → Follow}
    (h : Keeps property round) (rounds : List Char) :
    Keeps property fun follow => repeatMany round follow rounds := by
  intro follow s t hs hmatch
  induction rounds generalizing s with
  | nil => exact ⟨s, hmatch, hs⟩
  | cons _ rounds ih =>
    obtain hround | ⟨-, hstop⟩ := (Option.orElse_eq_some _ _ _).mp hmatch
    · obtain ⟨u, hu, hproperty⟩ := h hs hround
      exact ih hproperty (Option.ite_none_right_eq_some.mp hu).2
    · exact ⟨s, hstop, hs⟩

theorem Keeps.repeatFew {property : Cursor → Prop} {round : Follow → Follow}
    (h : Keeps property round) (rounds : List Char) :
    Keeps property fun follow => repeatFew round follow rounds := by
  intro follow s t hs hmatch
  induction rounds generalizing s with
  | nil => exact ⟨s, hmatch, hs⟩
  | cons _ rounds ih =>
    obtain hstop | ⟨-, hround⟩ := (Option.orElse_eq_some _ _ _).mp hmatch
    · exact ⟨s, hstop, hs⟩
    · obtain ⟨u, hu, hproperty⟩ := h hs hround
      exact ih hproperty (Option.ite_none_right_eq_some.mp hu).2

/-- A matcher that never goes back keeps being behind a position. -/
theorem Advances.keeps {n : Nat} {matcher : Follow → Follow} (h : Advances n matcher)
    (position : Nat) : Keeps (fun s => position ≤ s.position) matcher := by
  intro follow s t hs hmatch
  obtain ⟨u, hu, hle⟩ := h hmatch
  exact ⟨u, hu, by omega⟩

/-- The matcher of a pattern advances by the least length of the pattern. -/
theorem advances_run (p : Pattern) : Advances p.minLength p.run := by
  induction p with
  | empty => exact fun follow s t h => ⟨s, h, Nat.le_refl _⟩
  | one k =>
    intro follow s t h
    rw [run] at h
    split at h
    · cases h
    · next c rest hrest =>
      obtain ⟨-, h⟩ := Option.ite_none_right_eq_some.mp h
      exact ⟨s.advance c rest, h, Nat.le_refl _⟩
  | seq first second ihf ihs =>
    intro follow s t h
    obtain ⟨u, hu, hle⟩ := ihf h
    obtain ⟨v, hv, hle'⟩ := ihs hu
    exact ⟨v, hv, by rw [minLength]; omega⟩
  | alt first second ihf ihs =>
    intro follow s t h
    obtain h | ⟨-, h⟩ := (Option.orElse_eq_some _ _ _).mp h
    · exact ihf.mono (Nat.min_le_left ..) h
    · exact ihs.mono (Nat.min_le_right ..) h
  | many body ih =>
    exact fun follow s t h => (ih.keeps s.position).repeatMany s.rest (Nat.le_refl _) h
  | few body ih =>
    exact fun follow s t h => (ih.keeps s.position).repeatFew s.rest (Nat.le_refl _) h
  | remember field body ih =>
    intro follow s t h
    obtain ⟨u, hu, hle⟩ := ih h
    exact ⟨u.record field s, hu, hle⟩
  | ahead body ih =>
    exact fun follow s t h => ⟨s, (Option.ite_none_right_eq_some.mp h).2, Nat.le_refl _⟩
  | notAhead body ih =>
    exact fun follow s t h => ⟨s, (Option.ite_none_left_eq_some.mp h).2, Nat.le_refl _⟩
  | boundary => exact fun follow s t h => ⟨s, (Option.ite_none_right_eq_some.mp h).2, Nat.le_refl _⟩
  | finish => exact fun follow s t h => ⟨s, (Option.ite_none_right_eq_some.mp h).2, Nat.le_refl _⟩

/-- A match is at least as long as the least length of its pattern. -/
theorem minLength_le_of_match? {p : Pattern} {cs : List Char} {m : Cursor}
    (h : p.match? cs = some m) : p.minLength ≤ m.position := by
  obtain ⟨u, hu, hle⟩ := advances_run p h
  cases hu
  simpa using hle

end Pattern

end SourceMetrics
