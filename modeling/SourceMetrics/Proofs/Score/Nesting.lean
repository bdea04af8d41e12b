import SourceMetrics.Proofs.Construct.Braces

/-!
# The depth of a piece of a text

The depth of brace nesting looks at braces only, it grows with the depth at which a text starts, and
it is reached in one of two pieces of a text. So no piece of a text is deeper than the text, even
though the piece on its own starts at depth zero and ignores the closing braces of what is around
it.

## Main results

* `Nesting.deepestFrom_append` — the depth of two pieces
* `Nesting.deepest_le_of_braces` — a piece of a text is not deeper than the text
-/

namespace SourceMetrics

namespace Nesting

theorem after_mono {d d' : Nat} (h : d ≤ d') (c : Char) : after d c ≤ after d' c := by
  rw [after, after]
  split <;> [skip; split] <;> omega

theorem deepestFrom_mono {d d' : Nat} (h : d ≤ d') (cs : List Char) :
    deepestFrom d cs ≤ deepestFrom d' cs := by
  induction cs generalizing d d' with
  | nil => exact h
  | cons c rest ih =>
    have hrest := ih (after_mono h c)
    rw [deepestFrom, deepestFrom]
    omega

theorem le_deepestFrom (d : Nat) (cs : List Char) : d ≤ deepestFrom d cs := by
  cases cs with
  | nil => exact Nat.le_refl d
  | cons c rest => exact Nat.le_max_left ..

/-- The depth of two pieces is that of the first, or that of the second from where
the first ends. -/
theorem deepestFrom_append (d : Nat) (xs ys : List Char) :
    deepestFrom d (xs ++ ys) = max (deepestFrom d xs) (deepestFrom (xs.foldl after d) ys) := by
  induction xs generalizing d with
  | nil =>
    have hle := le_deepestFrom d ys
    rw [List.nil_append, deepestFrom, List.foldl_nil]
    omega
  | cons c rest ih =>
    rw [List.cons_append, deepestFrom, deepestFrom, ih, List.foldl_cons]
    omega

theorem deepestFrom_filter_isBrace (d : Nat) (cs : List Char) :
    deepestFrom d (cs.filter isBrace) = deepestFrom d cs := by
  induction cs generalizing d with
  | nil => rfl
  | cons c rest ih =>
    by_cases hc : isBrace c = true
    · rw [List.filter_cons_of_pos hc, deepestFrom, deepestFrom, ih]
    · have hle := le_deepestFrom d rest
      rw [List.filter_cons_of_neg hc, ih, deepestFrom, after_of_not_isBrace (by simpa using hc)]
      omega

/-- A text whose braces are among the first of a piece of another text is not deeper than that. -/
theorem deepest_le_of_braces {cs pre piece : List Char}
    (h : cs.filter isBrace <+: piece.filter isBrace) : deepest cs ≤ deepest (pre ++ piece) := by
  obtain ⟨more, hmore⟩ := h
  calc deepest cs
      = deepestFrom 0 (cs.filter isBrace) := (deepestFrom_filter_isBrace 0 cs).symm
    _ ≤ deepestFrom 0 (piece.filter isBrace) := by
        rw [← hmore, deepestFrom_append]
        exact Nat.le_max_left ..
    _ = deepestFrom 0 piece := deepestFrom_filter_isBrace 0 piece
    _ ≤ deepestFrom (pre.foldl after 0) piece := deepestFrom_mono (Nat.zero_le _) piece
    _ ≤ deepest (pre ++ piece) := by
        rw [deepest, deepestFrom_append]
        exact Nat.le_max_right ..

end Nesting

end SourceMetrics
