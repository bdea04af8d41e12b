import Mathlib.Data.List.Forall2
import SourceMetrics.Proofs.Construct.Braces
import SourceMetrics.Score.Cognitive

/-!
# One scan below another

A piece of a text can be scanned on its own, from the initial state, or where it stands, from the
state that the text in front of it leaves. `Scan.Below` says when the first scan cannot come out
more expensive: the second one stands in at least as many bodies, and whatever opens a body in the
first opens one in the second. Every token keeps this, so the statement about a run is an induction
over tokens and the cost of each construct is compared where it is found.

Two things are not monotone. A brace inside parentheses opens no body, so the scans have to agree on
the open parentheses. And a `while` behind the body of a `do` costs nothing, so the second scan must
not know of a `do` that the first does not know of; in particular it must not close one, which is
why the braces that are still to come enter the relation.

## Main definitions

* `Lighter` — one entry for a brace weighs no more than another
* `Scan.Below` — one scan stands no deeper than another
* `Scan.Quiet` — a scan above the initial one

## Main results

* `Scan.Below.advance` — a token keeps the relation
* `Scan.Below.found` — the constructs of some tokens cost no more below
-/

namespace SourceMetrics

/-- The entry `y` opens a body if `x` does, and it opens the body of a `do` only if `x` does. -/
def Lighter (x y : Option ConstructKind) : Prop :=
  (x.isSome = true → y.isSome = true) ∧ (y = some .doLoop → x = some .doLoop)

theorem lighter_refl (x : Option ConstructKind) : Lighter x x := ⟨id, id⟩

theorem lighter_none {y : Option ConstructKind} (h : y ≠ some .doLoop) : Lighter none y :=
  ⟨nofun, fun hy => absurd hy h⟩

theorem Lighter.ne_doLoop {y : Option ConstructKind} (h : Lighter none y) : y ≠ some .doLoop :=
  fun hy => nomatch h.2 hy

theorem countP_isSome_le {xs ys : List (Option ConstructKind)} (h : List.Forall₂ Lighter xs ys) :
    xs.countP Option.isSome ≤ ys.countP Option.isSome := by
  induction h with
  | nil => exact Nat.le_refl _
  | @cons x y xs ys hxy _ ih =>
    have hfirst : (if x.isSome = true then 1 else 0) ≤ if y.isSome = true then 1 else 0 := by
      split
      next hx => rw [if_pos (hxy.1 hx)]
      next => exact Nat.zero_le _
    rw [List.countP_cons, List.countP_cons]
    omega

namespace Scan

/-- The scan `lo` stands no deeper than `hi`, where `ahead` are the braces that both are going to
read. Braces around everything that `lo` has seen are no bodies of a `do`, or are not closed. -/
structure Below (ahead : List Char) (lo hi : Scan) : Prop where
  parens : lo.parens = hi.parens
  afterDo : hi.afterDo = true → lo.afterDo = true
  waiting : Lighter lo.waiting hi.waiting
  braces : ∃ inner outer, hi.braces = inner ++ outer ∧ List.Forall₂ Lighter lo.braces inner ∧
    (some .doLoop ∉ outer ∨ Covered lo.braces.length ahead)

/-- A scan from which a text is read as if it stood alone: no parenthesis is open, and no `do` waits
for its body or for the `while` at its end. -/
structure Quiet (s : Scan) : Prop where
  parens : s.parens = 0
  afterDo : s.afterDo = false
  waiting : s.waiting ≠ some .doLoop

instance (s : Scan) : Decidable s.Quiet :=
  decidable_of_iff (s.parens = 0 ∧ s.afterDo = false ∧ s.waiting ≠ some .doLoop)
    ⟨fun ⟨hparens, hafterDo, hwaiting⟩ => ⟨hparens, hafterDo, hwaiting⟩,
      fun ⟨hparens, hafterDo, hwaiting⟩ => ⟨hparens, hafterDo, hwaiting⟩⟩

theorem Quiet.below {s : Scan} {ahead : List Char} (h : s.Quiet)
    (hdo : some .doLoop ∉ s.braces ∨ Covered 0 ahead) : Below ahead {} s where
  parens := h.parens.symm
  afterDo hafter := by
    rw [h.afterDo] at hafter
    cases hafter
  waiting := lighter_none h.waiting
  braces := ⟨[], s.braces, rfl, .nil, hdo⟩

namespace Below

variable {ahead : List Char} {lo hi : Scan}

theorem nesting_le (h : Below ahead lo hi) : lo.nesting ≤ hi.nesting := by
  obtain ⟨inner, outer, hbraces, hinner, -⟩ := h.braces
  rw [nesting, nesting, hbraces, List.countP_append]
  exact (countP_isSome_le hinner).trans (Nat.le_add_right _ _)

/-! ### What a token does -/

theorem endBody (h : Below ahead lo hi) : Below ahead lo.endBody hi.endBody := by
  obtain ⟨hparens, hafterDo, hwaiting, hbraces⟩ := h
  obtain ⟨_, _, waiting, _⟩ := lo
  obtain ⟨_, _, waiting', _⟩ := hi
  cases waiting with
  | none =>
    cases waiting' with
    | none => exact ⟨hparens, hafterDo, hwaiting, hbraces⟩
    | some kind =>
      have hkind : (kind == .doLoop) = false := by simpa using hwaiting.ne_doLoop
      refine ⟨hparens, fun hdo => ?_, lighter_refl none, hbraces⟩
      exact absurd (hkind.symm.trans hdo) (by decide)
  | some kind =>
    obtain ⟨kind', rfl⟩ := Option.isSome_iff_exists.mp (hwaiting.1 rfl)
    refine ⟨hparens, fun hdo => ?_, lighter_refl none, hbraces⟩
    have hkind : kind' = .doLoop := by simpa [Scan.endBody] using hdo
    have hsame := hwaiting.2 (congrArg some hkind)
    simpa [Scan.endBody] using hsame

theorem endStatement (h : Below ahead lo hi) : Below ahead lo.endStatement hi.endStatement := by
  rw [Scan.endStatement, Scan.endStatement, h.parens]
  split
  · exact h.endBody
  · exact h

theorem beginLine (h : Below ahead lo hi) (line : List Char) :
    Below ahead (lo.beginLine line) (hi.beginLine line) := by
  rw [Scan.beginLine, Scan.beginLine]
  split
  · exact h
  · exact h.endStatement

theorem keyword (h : Below ahead lo hi) (kind : ConstructKind) :
    Below ahead (lo.keyword kind) (hi.keyword kind) := by
  obtain ⟨hparens, hafterDo, hwaiting, hbraces⟩ := h
  rw [Scan.keyword, Scan.keyword]
  by_cases htail : (kind == .whileLoop && hi.afterDo) = true
  · -- a `while` that ends a `do` above ends one below
    have htail' : (kind == .whileLoop && lo.afterDo) = true := by
      rw [Bool.and_eq_true] at htail ⊢
      exact ⟨htail.1, hafterDo htail.2⟩
    rw [if_pos htail, if_pos htail']
    exact ⟨hparens, Bool.false_ne_true.elim, hwaiting, hbraces⟩
  · rw [if_neg htail]
    by_cases htail' : (kind == .whileLoop && lo.afterDo) = true
    · -- it may do so below only; then it waits for a body above
      obtain rfl : kind = .whileLoop := beq_iff_eq.mp (Bool.and_eq_true_iff.mp htail').1
      rw [if_pos htail', if_pos (by rfl)]
      exact ⟨hparens, Bool.false_ne_true.elim, ⟨fun _ => rfl, by simp⟩, hbraces⟩
    · rw [if_neg htail']
      split
      · exact ⟨hparens, Bool.false_ne_true.elim, lighter_refl _, hbraces⟩
      · exact ⟨hparens, Bool.false_ne_true.elim, hwaiting, hbraces⟩

theorem openBrace (h : Below ('\x7b' :: ahead) lo hi) : Below ahead lo.openBrace hi.openBrace := by
  obtain ⟨hparens, -, hwaiting, inner, outer, hbraces, hinner, hdo⟩ := h
  have hdo' : some .doLoop ∉ outer ∨ Covered (lo.braces.length + 1) ahead := hdo.imp_right And.right
  have hpush : ∀ {x y : Option ConstructKind}, Lighter x y → ∃ inner' outer',
      y :: hi.braces = inner' ++ outer' ∧ List.Forall₂ Lighter (x :: lo.braces) inner' ∧
        (some .doLoop ∉ outer' ∨ Covered (x :: lo.braces).length ahead) := fun {x y} hxy =>
    ⟨y :: inner, outer, by rw [hbraces, List.cons_append], .cons hxy hinner, hdo'⟩
  rw [Scan.openBrace, Scan.openBrace, ← hparens]
  by_cases hlo : (lo.waiting.isSome && lo.parens = 0) = true
  · have hhi : (hi.waiting.isSome && lo.parens = 0) = true := by
      rw [Bool.and_eq_true] at hlo ⊢
      exact ⟨hwaiting.1 hlo.1, hlo.2⟩
    rw [if_pos hlo, if_pos hhi]
    exact ⟨rfl, Bool.false_ne_true.elim, lighter_refl none, hpush hwaiting⟩
  · rw [if_neg hlo]
    by_cases hhi : (hi.waiting.isSome && lo.parens = 0) = true
    · -- the brace opens a body above only, and that is not the body of a `do`
      have hnone : lo.waiting = none := by
        rw [← Option.not_isSome_iff_eq_none]
        intro hsome
        rw [Bool.and_eq_true] at hlo hhi
        exact hlo ⟨hsome, hhi.2⟩
      rw [hnone] at hwaiting
      rw [if_pos hhi]
      exact ⟨rfl, Bool.false_ne_true.elim, by rw [hnone]; exact lighter_refl none, hpush hwaiting⟩
    · rw [if_neg hhi]
      exact ⟨rfl, Bool.false_ne_true.elim, hwaiting, hpush (lighter_refl none)⟩

theorem closeBrace (h : Below ('\x7d' :: ahead) lo hi) :
    Below ahead lo.closeBrace hi.closeBrace := by
  obtain ⟨hparens, -, hwaiting, inner, outer, hbraces, hinner, hdo⟩ := h
  obtain ⟨braces, _, _, _⟩ := lo
  obtain ⟨_, _, _, _⟩ := hi
  obtain rfl := hbraces
  cases hinner with
  | nil =>
    -- only a brace around everything is left to close, and that is not the body of a `do`
    have hdo' : some .doLoop ∉ outer := hdo.resolve_right fun hcovered =>
      absurd (hcovered.1 rfl) (Nat.lt_irrefl 0)
    cases outer with
    | nil => exact ⟨hparens, Bool.false_ne_true.elim, hwaiting, [], [], rfl, .nil, .inl hdo'⟩
    | cons closed outer =>
      have hclosed : closed ≠ some .doLoop := fun heq => hdo' (heq ▸ List.mem_cons_self)
      refine ⟨hparens, fun heq => absurd (beq_iff_eq.mp heq) hclosed, hwaiting, [], outer, rfl,
        .nil, .inl fun hmem => hdo' (List.mem_cons_of_mem _ hmem)⟩
  | @cons x y xs inner hxy hinner =>
    refine ⟨hparens, fun hy => ?_, hwaiting, inner, outer, rfl, hinner, hdo.imp_right And.right⟩
    exact beq_iff_eq.mpr (hxy.2 (beq_iff_eq.mp hy))

/-- **A token keeps one scan below another.** -/
theorem advance (t : Token) (h : Below (t.brace?.toList ++ ahead) lo hi) :
    Below ahead (lo.advance t) (hi.advance t) := by
  cases t with
  | keyword kind => exact h.keyword kind
  | jump => exact h.endStatement
  | logical _ => exact h
  | question => exact h
  | openParen => exact ⟨congrArg (· + 1) h.parens, h.afterDo, h.waiting, h.braces⟩
  | closeParen => exact ⟨congrArg (· - 1) h.parens, h.afterDo, h.waiting, h.braces⟩
  | semicolon => exact h.endStatement
  | openBrace => exact h.openBrace
  | closeBrace => exact h.closeBrace

end Below

end Scan

/-! ### What is found -/

namespace Cognitive

theorem ofConstructs_append (xs ys : List Construct) :
    ofConstructs (xs ++ ys) = ofConstructs xs + ofConstructs ys := by
  rw [ofConstructs, List.map_append, Number.total_append, ofConstructs, ofConstructs]

theorem ofConstructs_singleton (c : Construct) : ofConstructs [c] = cost c := by
  rw [ofConstructs, List.map_singleton, Number.total_cons]
  rfl

/-- A construct costs no more in a place that is not deeper, as long as it ends no `do` in the
deeper place only. -/
theorem cost_le {kind : ConstructKind} {nesting nesting' : Nat} {tail tail' : Bool}
    (hnesting : nesting ≤ nesting') (htail : tail' = true → tail = true) (line line' : Nat) :
    cost ⟨kind, line, nesting, tail⟩ ≤ cost ⟨kind, line', nesting', tail'⟩ := by
  cases tail with
  | true => exact Nat.zero_le _
  | false =>
    obtain rfl : tail' = false := by simpa using htail
    simp only [cost, increment_natCast]
    split_ifs <;> omega

end Cognitive

namespace Scan.Below

open Cognitive

variable {ahead : List Char} {lo hi : Scan}

theorem construct?_le (h : Below ahead lo hi) (t : Token) (isTernary isTernary' : Bool)
    (hternary : t = .question → isTernary = true → isTernary' = true) (line line' : Nat) :
    ofConstructs (lo.construct? line isTernary t).toList ≤
      ofConstructs (hi.construct? line' isTernary' t).toList := by
  have hcost : ∀ kind, ofConstructs [⟨kind, line, lo.nesting, false⟩] ≤
      ofConstructs [⟨kind, line', hi.nesting, false⟩] := fun kind => by
    rw [ofConstructs_singleton, ofConstructs_singleton]
    exact cost_le h.nesting_le id line line'
  cases t with
  | keyword kind =>
    refine (ofConstructs_singleton _).trans_le (le_of_le_of_eq ?_ (ofConstructs_singleton _).symm)
    refine cost_le h.nesting_le (fun htail => ?_) line line'
    rw [Bool.and_eq_true] at htail ⊢
    exact ⟨htail.1, h.afterDo htail.2⟩
  | jump => exact hcost _
  | logical kind => exact hcost kind
  | question =>
    cases isTernary with
    | false => exact Nat.zero_le _
    | true =>
      rw [hternary rfl rfl]
      exact hcost _
  | openParen => exact Nat.le_refl _
  | closeParen => exact Nat.le_refl _
  | semicolon => exact Nat.le_refl _
  | openBrace => exact Nat.le_refl _
  | closeBrace => exact Nat.le_refl _

/-- **The constructs among some tokens cost no more below**, and the scans behind them are one below
the other. -/
theorem found {f g : Nat → Bool} {ts : List (Nat × Token)}
    (h : Below (ts.filterMap (fun t => t.2.brace?) ++ ahead) lo hi)
    (hternary : ∀ column, (column, Token.question) ∈ ts → f column = true → g column = true)
    (line line' : Nat) :
    ofConstructs (Scan.found f line lo ts) ≤ ofConstructs (Scan.found g line' hi ts) ∧
      Below ahead (lo.afterTokens ts) (hi.afterTokens ts) := by
  induction ts generalizing lo hi with
  | nil => exact ⟨Nat.le_refl _, h⟩
  | cons t rest ih =>
    obtain ⟨column, t⟩ := t
    have hsplit :
        Below (t.brace?.toList ++ (rest.filterMap (fun t => t.2.brace?) ++ ahead)) lo hi := by
      cases hbrace : t.brace? <;> simpa [hbrace] using h
    have hfirst := h.construct?_le t (f column) (g column)
      (by rintro rfl; exact hternary column List.mem_cons_self) line line'
    obtain ⟨hrest, hafter⟩ := ih (hsplit.advance t)
      fun column' hmem => hternary column' (List.mem_cons_of_mem _ hmem)
    refine ⟨?_, hafter⟩
    rw [Scan.found, Scan.found, ofConstructs_append, ofConstructs_append]
    exact Nat.add_le_add hfirst hrest

end Scan.Below

end SourceMetrics
