import SourceMetrics.Masking

/-!
# The contents of a literal

`contentsLength` looks at two characters at a time, since the one behind an escape character is
passed over. What it does at each place is one of three things: it stops, it takes a character, or
it takes an escape character with what stands behind it. The lemmas here say when, so that a
statement about literals has these three cases and not the six of the definition.

## Main definitions

* `Masking.Quote.EndsAt` — a literal ends at the front of a text

## Main results

* `Masking.contents_induction` — induction along the contents of a literal
-/

namespace SourceMetrics

namespace Masking

/-- A literal with this quote ends at the front of the text: its quote stands there, or a line feed
that it may not span. -/
def Quote.EndsAt (quote : Quote) (cs : List Char) : Prop :=
  quote.mark.isPrefixOf cs = true ∨ cs.head? = some '\n' ∧ quote.multiline = false

instance (quote : Quote) (cs : List Char) : Decidable (quote.EndsAt cs) :=
  inferInstanceAs (Decidable (_ ∨ _))

section

variable {quote : Quote} {escape : Option Char}

theorem endsAt_cons_iff {c : Char} {rest : List Char} :
    quote.EndsAt (c :: rest) ↔
      (quote.mark.isPrefixOf (c :: rest) || (c = '\n' && !quote.multiline)) = true := by
  simp [Quote.EndsAt]

theorem contentsLength_of_endsAt {cs : List Char} (h : quote.EndsAt cs) :
    contentsLength quote escape cs = 0 := by
  match cs with
  | [] => rfl
  | [c] => rw [contentsLength, if_pos (endsAt_cons_iff.mp h)]
  | c :: d :: rest => rw [contentsLength, if_pos (endsAt_cons_iff.mp h)]

/-- An escape character is taken with the one behind it. -/
theorem contentsLength_of_escape {c d : Char} {rest : List Char}
    (h : ¬quote.EndsAt (c :: d :: rest)) (hc : some c = escape) :
    contentsLength quote escape (c :: d :: rest) = 2 + contentsLength quote escape rest := by
  rw [contentsLength, if_neg (mt endsAt_cons_iff.mpr h), if_pos hc]

/-- Any other character is taken alone, and so is an escape character at the end. -/
theorem contentsLength_of_not_escape {c : Char} {rest : List Char} (h : ¬quote.EndsAt (c :: rest))
    (hc : some c = escape → rest = []) :
    contentsLength quote escape (c :: rest) = 1 + contentsLength quote escape rest := by
  match rest with
  | [] => rw [contentsLength, contentsLength, if_neg (mt endsAt_cons_iff.mpr h)]
  | d :: rest =>
    have hc : ¬some c = escape := fun heq => List.cons_ne_nil d rest (hc heq)
    rw [contentsLength, if_neg (mt endsAt_cons_iff.mpr h), if_neg hc]

end

/-- Induction along the contents of a literal. -/
theorem contents_induction (quote : Quote) (escape : Option Char) {motive : List Char → Prop}
    (nil : motive [])
    (ends : ∀ cs, quote.EndsAt cs → motive cs)
    (escaped : ∀ c d rest, ¬quote.EndsAt (c :: d :: rest) → some c = escape → motive rest →
      motive (c :: d :: rest))
    (character : ∀ c rest, ¬quote.EndsAt (c :: rest) → (some c = escape → rest = []) → motive rest →
      motive (c :: rest)) : ∀ cs, motive cs
  | [] => nil
  | c :: rest => by
    by_cases hends : quote.EndsAt (c :: rest)
    · exact ends _ hends
    · by_cases hescape : some c = escape
      · cases rest with
        | nil => exact character c [] hends (fun _ => rfl) nil
        | cons d rest =>
          exact escaped c d rest hends hescape
            (contents_induction quote escape nil ends escaped character rest)
      · exact character c rest hends (fun heq => absurd heq hescape)
          (contents_induction quote escape nil ends escaped character rest)
termination_by cs => cs.length

end Masking

end SourceMetrics
