/-!
# Totals

## Main definitions

* `Number.total` — the sum of a list of natural numbers
-/

namespace SourceMetrics

namespace Number

/-- The sum of a list of natural numbers. -/
def total : List Nat → Nat
  | [] => 0
  | n :: rest => n + total rest

@[simp] theorem total_nil : total [] = 0 := rfl

@[simp] theorem total_cons (n : Nat) (rest : List Nat) : total (n :: rest) = n + total rest := rfl

@[simp] theorem total_append (xs ys : List Nat) : total (xs ++ ys) = total xs + total ys := by
  induction xs with
  | nil => simp
  | cons n rest ih => simp only [List.cons_append, total_cons, ih, Nat.add_assoc]

end Number

end SourceMetrics
