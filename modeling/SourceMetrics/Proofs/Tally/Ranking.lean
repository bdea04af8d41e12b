import Mathlib.Data.Prod.Lex
import Mathlib.Data.String.Basic
import SourceMetrics.Tally.Reference

/-!
# The ranking of references

`outranks` compares complexity, position of the file, line and name, and leaves the file's path out.
So it is the strict order of a key in a linear order, pulled back along a map that is not injective:
two references may have the same key and still differ. `pick` then takes the second. That is enough
for associativity, since among several with the best key the last one wins in every grouping. It is
not enough for commutativity, which needs different keys; references from different positions have
them.

## Main results

* `Reference.outranks_iff` — `outranks` is the order of keys
* `Reference.pick_assoc`, `Reference.pick_comm_of_order_ne`
* `Reference.order_of_best_eq_some` — the best reference of a file has the position of the file
-/

namespace SourceMetrics

namespace Reference

/-- What references are ranked by: the greater complexity first, then the smaller position,
line and name. -/
def key (r : Reference) : ℤᵒᵈ ×ₗ ℤ ×ₗ ℤ ×ₗ String :=
  toLex (OrderDual.toDual r.cyclomatic, toLex (r.order, toLex (r.lineStart, r.name)))

theorem precedes_iff (a b : Reference) :
    a.precedes b = true ↔
      a.order < b.order ∨
        a.order = b.order ∧
          (a.lineStart < b.lineStart ∨ a.lineStart = b.lineStart ∧ a.name < b.name) := by
  rw [precedes]
  split
  next horder =>
    split
    next hline => simp [horder, hline]
    next hline => simp [horder, hline]
  next horder => simp [horder]

theorem outranks_iff (a b : Reference) : a.outranks b = true ↔ a.key < b.key := by
  rw [key, key, Prod.Lex.toLex_lt_toLex, Prod.Lex.toLex_lt_toLex, Prod.Lex.toLex_lt_toLex,
    ← precedes_iff, outranks]
  simp only [OrderDual.toDual_lt_toDual, EmbeddingLike.apply_eq_iff_eq]
  split
  next h => simp [h]
  next h => simp [h]

/-! ### Picking -/

@[simp] theorem pick_none_left (b : Option Reference) : pick none b = b := rfl

@[simp] theorem pick_none_right (a : Option Reference) : pick a none = a := by
  cases a <;> rfl

theorem pick_some_some (a b : Reference) :
    pick (some a) (some b) = if a.key < b.key then some a else some b := by
  simp only [pick, outranks_iff]

/-- **Picking is associative**, for references with equal keys as well. -/
theorem pick_assoc (a b c : Option Reference) : pick (pick a b) c = pick a (pick b c) := by
  cases a with
  | none => simp
  | some a =>
    cases b with
    | none => simp
    | some b =>
      cases c with
      | none => simp
      | some c =>
        rw [pick_some_some a b, pick_some_some b c]
        by_cases hab : a.key < b.key <;> by_cases hbc : b.key < c.key
        · rw [if_pos hab, if_pos hbc, pick_some_some, pick_some_some, if_pos hab,
            if_pos (hab.trans hbc)]
        · rw [if_pos hab, if_neg hbc]
        · rw [if_neg hab, if_pos hbc, pick_some_some, pick_some_some, if_neg hab, if_pos hbc]
        · -- neither outranks its successor, so neither does the first outrank the last
          have hac : ¬a.key < c.key :=
            fun hac => hbc (lt_of_le_of_lt (not_lt.mp hab) hac)
          rw [if_neg hab, if_neg hbc, pick_some_some, pick_some_some, if_neg hbc, if_neg hac]

theorem pick_comm_of_key_ne {a b : Reference} (h : a.key ≠ b.key) :
    pick (some a) (some b) = pick (some b) (some a) := by
  rw [pick_some_some, pick_some_some]
  rcases lt_or_gt_of_ne h with hlt | hgt
  · rw [if_pos hlt, if_neg (lt_asymm hlt)]
  · rw [if_pos hgt, if_neg (lt_asymm hgt)]

/-- References from different positions are picked alike in either order. -/
theorem pick_comm_of_order_ne {a b : Option Reference}
    (h : ∀ x ∈ a, ∀ y ∈ b, x.order ≠ y.order) : pick a b = pick b a := by
  cases a with
  | none => simp
  | some x =>
    cases b with
    | none => simp
    | some y =>
      refine pick_comm_of_key_ne fun hkey => h x rfl y rfl ?_
      simp only [key, EmbeddingLike.apply_eq_iff_eq, Prod.mk.injEq] at hkey
      exact hkey.2.1

/-! ### The best of a file -/

theorem pick_eq_or (a b : Option Reference) : pick a b = a ∨ pick a b = b := by
  cases a with
  | none => exact .inr rfl
  | some x =>
    cases b with
    | none => exact .inl rfl
    | some y =>
      rw [pick_some_some]
      split
      · exact .inl rfl
      · exact .inr rfl

theorem order_of_foldl_pick {file : String} {order : Int} :
    ∀ {entities : List Entity} {found : Option Reference}, (∀ r ∈ found, r.order = order) →
      ∀ r ∈ entities.foldl (fun found e => pick found (some (ofEntity file order e))) found,
        r.order = order
  | [], _, hfound => hfound
  | e :: rest, found, hfound => by
    rw [List.foldl_cons]
    apply order_of_foldl_pick
    intro r hr
    rcases pick_eq_or found (some (ofEntity file order e)) with h | h <;> rw [h] at hr
    · exact hfound r hr
    · cases hr
      rfl

theorem order_of_best_eq_some {file : String} {order : Int} {entities : List Entity}
    {r : Reference} (h : r ∈ best file order entities) : r.order = order :=
  order_of_foldl_pick (by simp) r h

end Reference

end SourceMetrics
