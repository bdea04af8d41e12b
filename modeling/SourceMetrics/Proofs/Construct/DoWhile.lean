import SourceMetrics.Proofs.Construct.Visit

/-!
# Tails of `do` loops

A `while` right behind the body of a `do` is the tail of that loop. The scan knows such a place by a
flag, which is raised where the body of a `do` ends: at its closing brace, or at the end of a
statement without braces. On the way there the loop is remembered as a construct that waits for its
body or as an entry of the stack. `Scan.openDos` counts the loops in all three places together.
Every `do` adds one to that number and every tail takes one away; anything else may lose some,
because a malformed text leaves loops behind, and never gains any. So no part of a text has more
tails than the loops it starts with.

## Main definitions

* `Scan.openDos` — the loops of a scan that may still get a tail
* `Visit.gain` — what a token adds to the loops less the tails
* `Visit.Paid` — the open loops along some visits never exceed a running balance

## Main results

* `Scan.openDos_advance` — what a token does to the number of open loops
* `paid_visits` — the open loops never exceed the loops less the tails found so far
* `tails_have_loops` — every tail has a loop of its own
-/

namespace SourceMetrics

/-- Whether the construct is the start of a `do` loop. -/
def Construct.isDo (c : Construct) : Bool := c.kind == .doLoop

namespace Scan

/-- The `do` loops that may still get a tail: the one that waits for its body, those whose body is
open, and the one whose body has just ended. -/
def openDos (s : Scan) : Nat := (s.waiting :: s.braces).count (some .doLoop) + s.afterDo.toNat

/-! ### What a step does to the open loops -/

theorem count_doLoop_cons (x : Option ConstructKind) (xs : List (Option ConstructKind)) :
    (x :: xs).count (some .doLoop) = xs.count (some .doLoop) + (x == some .doLoop).toNat := by
  rw [List.count_cons]
  cases x == some .doLoop <;> rfl

/-- Without a body to wait for, the flag takes over what the wait was counted for. -/
theorem openDos_endBody_le (s : Scan) : s.endBody.openDos ≤ s.openDos := by
  rw [endBody]
  split
  · next kind hwaiting =>
    simp only [openDos, hwaiting, count_doLoop_cons, Option.some_beq_some]
    rw [show ((none : Option ConstructKind) == some .doLoop).toNat = 0 from rfl]
    omega
  · exact Nat.le_refl _

theorem openDos_endStatement_le (s : Scan) : s.endStatement.openDos ≤ s.openDos := by
  rw [endStatement]
  split_ifs
  · exact s.openDos_endBody_le
  · exact Nat.le_refl _

theorem openDos_beginLine_le (s : Scan) (line : List Char) :
    (s.beginLine line).openDos ≤ s.openDos := by
  rw [beginLine]
  split_ifs
  · exact Nat.le_refl _
  · exact s.openDos_endStatement_le

/-- A `do` may be one more open loop, and a tail closes one. -/
theorem openDos_keyword_le (s : Scan) (kind : ConstructKind) :
    (s.keyword kind).openDos + (kind == .whileLoop && s.afterDo).toNat ≤
      s.openDos + (kind == .doLoop).toNat := by
  rw [keyword]
  split_ifs with htail hopens
  · obtain ⟨-, hafter⟩ := Bool.and_eq_true_iff.mp htail
    rw [htail]
    simp only [openDos, hafter, Bool.toNat_true, Bool.toNat_false]
    omega
  · -- whatever waited before is forgotten
    rw [Bool.not_eq_true] at htail
    rw [htail]
    simp only [openDos, count_doLoop_cons, Option.some_beq_some, Bool.toNat_false]
    omega
  · rw [Bool.not_eq_true] at htail
    rw [htail]
    simp only [openDos, Bool.toNat_false]
    omega

/-- A construct that waited for its body becomes an entry of the stack. -/
theorem openDos_openBrace_le (s : Scan) : s.openBrace.openDos ≤ s.openDos := by
  rw [openBrace]
  split_ifs
  · simp [openDos]
  · simp [openDos, List.count_cons]

/-- An entry that leaves the stack raises the flag. -/
theorem openDos_closeBrace_le (s : Scan) : s.closeBrace.openDos ≤ s.openDos := by
  rw [closeBrace]
  split
  · simp [openDos]
  · next closed rest hbraces =>
    simp only [openDos, hbraces, count_doLoop_cons]
    omega

end Scan

/-! ### Loops and tails along the way -/

namespace Visit

/-- What a visit adds to the loops less the tails found so far. -/
def gain (marks : List Nat) (v : Visit) : Int :=
  match v.construct? marks with
  | some c => (c.isDo.toNat : Int) - c.doWhileTail.toNat
  | none => 0

/-- The balance behind some visits that start with `n`. -/
def balance (marks : List Nat) (n : Int) (vs : List Visit) : Int :=
  vs.foldl (fun n v => n + v.gain marks) n

/-- Along some visits that start with a balance of `n`, no state has more open loops than the
balance there. -/
def Paid (marks : List Nat) (n : Int) : List Visit → Prop
  | [] => True
  | v :: rest => (v.state.openDos : Int) ≤ n ∧ Paid marks (n + v.gain marks) rest

theorem paid_append_iff (marks : List Nat) (n : Int) (xs ys : List Visit) :
    Paid marks n (xs ++ ys) ↔ Paid marks n xs ∧ Paid marks (balance marks n xs) ys := by
  induction xs generalizing n with
  | nil => exact (and_iff_right trivial).symm
  | cons v rest ih =>
    rw [List.cons_append, Paid, Paid, ih, and_assoc, balance, balance, List.foldl_cons]

theorem balance_append (marks : List Nat) (n : Int) (xs ys : List Visit) :
    balance marks n (xs ++ ys) = balance marks (balance marks n xs) ys := List.foldl_append

/-- The balance counts the loops and the tails among the constructs found. -/
theorem balance_eq (marks : List Nat) (n : Int) (vs : List Visit) :
    balance marks n vs =
      n + (vs.filterMap (construct? marks)).countP Construct.isDo -
        (vs.filterMap (construct? marks)).countP Construct.doWhileTail := by
  induction vs generalizing n with
  | nil => simp [balance]
  | cons v rest ih =>
    rw [balance, List.foldl_cons, ← balance, ih, gain, List.filterMap_cons]
    cases v.construct? marks with
    | none => simp
    | some c =>
      simp only [List.countP_cons]
      cases c.isDo <;> cases c.doWhileTail <;> simp <;> omega

end Visit

namespace Scan

/-- A token leaves no more loops open than there were, with what it gains. -/
theorem openDos_advance (marks : List Nat) (number position : Nat) (t : Token) (s : Scan) :
    ((s.advance t).openDos : Int) ≤ s.openDos + Visit.gain marks ⟨number, position, t, s⟩ := by
  simp only [Visit.gain, Visit.construct?]
  cases t with
  | keyword kind =>
    have hle := s.openDos_keyword_le kind
    simp only [construct?, Construct.isDo, advance]
    omega
  | jump =>
    have hle := s.openDos_endStatement_le
    simp only [construct?, advance, Bool.toNat_false]
    omega
  | logical kind =>
    simp only [construct?, advance, Bool.toNat_false]
    omega
  | question =>
    cases marks.contains position with
    | true =>
      simp only [construct?, advance, if_true, Bool.toNat_false]
      omega
    | false => exact Int.le_of_eq (Int.add_zero _).symm
  | openParen => exact Int.le_of_eq (Int.add_zero _).symm
  | closeParen => exact Int.le_of_eq (Int.add_zero _).symm
  | semicolon =>
    have hle := s.openDos_endStatement_le
    simp only [construct?, advance]
    omega
  | openBrace =>
    have hle := s.openDos_openBrace_le
    simp only [construct?, advance]
    omega
  | closeBrace =>
    have hle := s.openDos_closeBrace_le
    simp only [construct?, advance]
    omega

theorem paid_visitTokens (marks : List Nat) (number offset : Nat) {s : Scan} {n : Int}
    (hn : (s.openDos : Int) ≤ n) (ts : List (Nat × Token)) :
    Visit.Paid marks n (visitTokens number offset s ts) ∧
      ((s.afterTokens ts).openDos : Int) ≤
        Visit.balance marks n (visitTokens number offset s ts) := by
  induction ts generalizing s n with
  | nil => exact ⟨trivial, hn⟩
  | cons t rest ih =>
    obtain ⟨column, token⟩ := t
    have hstep := openDos_advance marks number (offset + column) token s
    obtain ⟨hpaid, hbalance⟩ := ih (Int.le_trans hstep (Int.add_le_add_right hn _))
    exact ⟨⟨hn, hpaid⟩, hbalance⟩

theorem paid_visitLines (marks : List Nat) (number offset : Nat) {s : Scan} {n : Int}
    (hn : (s.openDos : Int) ≤ n) (ls : List Text.Line) :
    Visit.Paid marks n (visitLines number offset s ls) ∧
      0 ≤ Visit.balance marks n (visitLines number offset s ls) := by
  induction ls generalizing number offset s n with
  | nil => exact ⟨trivial, Int.le_trans (Int.natCast_nonneg _) hn⟩
  | cons l rest ih =>
    have hbegin := s.openDos_beginLine_le l.body
    obtain ⟨hpaid, hbalance⟩ := paid_visitTokens marks number offset
      (Int.le_trans (Int.ofNat_le.mpr hbegin) hn) (Token.scan l.body)
    obtain ⟨hrest, hend⟩ := ih (number + 1) (offset + l.whole.length) hbalance
    rw [visitLines, Visit.paid_append_iff, Visit.balance_append]
    exact ⟨⟨hpaid, hrest⟩, hend⟩

end Scan

theorem Visit.kind_of_doWhileTail {marks : List Nat} {v : Visit} {c : Construct}
    (h : v.construct? marks = some c) (htail : c.doWhileTail = true) : c.kind = .whileLoop := by
  obtain ⟨line, position, token, state⟩ := v
  rw [construct?] at h
  cases token with
  | keyword kind =>
    cases h
    exact beq_iff_eq.mp (Bool.and_eq_true_iff.mp htail).1
  | question =>
    obtain ⟨-, h⟩ := Option.ite_none_right_eq_some.mp h
    cases h
    cases htail
  | jump | logical _ => cases h; cases htail
  | openParen | closeParen | semicolon | openBrace | closeBrace => cases h

/-- The open loops never exceed the loops less the tails found so far, and neither does zero. -/
theorem paid_visits (cs : List Char) :
    Visit.Paid (ternaries cs) 0 (visits cs) ∧ 0 ≤ Visit.balance (ternaries cs) 0 (visits cs) :=
  Scan.paid_visitLines (ternaries cs) 1 0 (Int.le_refl 0) (Text.Line.split cs)

theorem openDos_le_balance {cs : List Char} {earlier later : List Visit} {v : Visit}
    (h : visits cs = earlier ++ v :: later) :
    (v.state.openDos : Int) ≤ Visit.balance (ternaries cs) 0 earlier := by
  have hpaid := (paid_visits cs).1
  rw [h, Visit.paid_append_iff] at hpaid
  exact hpaid.2.1

theorem balance_nonneg {cs : List Char} {earlier : List Visit} (h : earlier <+: visits cs) :
    0 ≤ Visit.balance (ternaries cs) 0 earlier := by
  obtain ⟨later, hvisits⟩ := h
  cases later with
  | nil =>
    rw [List.append_nil] at hvisits
    exact hvisits ▸ (paid_visits cs).2
  | cons v later => exact Int.le_trans (Int.natCast_nonneg _) (openDos_le_balance hvisits.symm)

/-- The tails of `do` loops in a text against the loops. -/
structure TailsHaveLoops (cs : List Char) : Prop where
  /-- Only a `while` is a tail. -/
  kind_eq : ∀ c ∈ constructs cs, c.doWhileTail = true → c.kind = .whileLoop
  /-- In front of every token, the loops that are still open and the tails found so far are no more
  than the loops found so far. -/
  open_add_le : ∀ earlier v later, visits cs = earlier ++ v :: later →
    v.state.openDos + (earlier.filterMap (Visit.construct? (ternaries cs))).countP
        Construct.doWhileTail ≤
      (earlier.filterMap (Visit.construct? (ternaries cs))).countP Construct.isDo
  /-- No part of the text, from its start, has more tails than loops. -/
  tails_le : ∀ found, found <+: constructs cs →
    found.countP Construct.doWhileTail ≤ found.countP Construct.isDo

/-- **Every tail has a loop of its own**, however malformed the text is: along the whole scan, tails
and open loops never outnumber the loops found. -/
theorem tails_have_loops (cs : List Char) : TailsHaveLoops cs where
  kind_eq c hc htail := by
    rw [constructs_eq_filterMap_visits, List.mem_filterMap] at hc
    obtain ⟨v, -, hv⟩ := hc
    exact Visit.kind_of_doWhileTail hv htail
  open_add_le earlier v later hvisits := by
    have hle := openDos_le_balance hvisits
    rw [Visit.balance_eq] at hle
    omega
  tails_le found hfound := by
    rw [constructs_eq_filterMap_visits, List.prefix_filterMap_iff] at hfound
    obtain ⟨earlier, hearlier, rfl⟩ := hfound
    have hle := balance_nonneg hearlier
    rw [Visit.balance_eq] at hle
    omega

/-- A loop with braces, one without, and a `while` that stands on its own. -/
example :
    (constructs "do \x7b f(); \x7d while (a);\ndo g();\nwhile (b);\nwhile (c) h();".toList).map
      (fun c => (c.kind, c.doWhileTail)) =
      [(.doLoop, false), (.whileLoop, true), (.doLoop, false), (.whileLoop, true),
       (.whileLoop, false)] := by decide

end SourceMetrics
