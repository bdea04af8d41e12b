import SourceMetrics.Proofs.Construct.Visit
import SourceMetrics.Proofs.Score.Nesting
import SourceMetrics.Score.Cognitive

/-!
# Nesting and the depth of braces

Two counts run over the same braces. One goes over the characters of the text and measures the depth
of the braces; the other goes over tokens, line by line, and has a stack with an entry for each open
brace. They agree at every token, because a brace is a token wherever it stands and no other token
has a brace inside. The bodies that a construct is nested in are some of the open braces. So nothing
is nested deeper than the braces of the text are, and the cognitive complexity is bounded by the
depth and the number of constructs.

## Main definitions

* `Nesting.depthAt` — the depth of the braces in front of a position
* `Visit.change` — what a token does to the number of bodies
* `Visit.Counted` — a counter of bodies along some visits

## Main results

* `length_braces_of_mem_visits` — the height of the stack is the depth of the braces
* `counted_visits` — the number of bodies can be counted along the way
* `nesting_le_deepest` — nesting does not exceed the depth of the braces
* `Cognitive.ofConstructs_le_mul` — a bound on the cognitive complexity
-/

namespace SourceMetrics

open Text (Line)

/-! ### The height of the stack -/

namespace Nesting

/-- The depth of the braces in front of a position. -/
def depthAt (cs : List Char) (position : Nat) : Nat := (cs.take position).foldl after 0

/-- No place of a text is deeper than the text. -/
theorem depthAt_le_deepest (cs : List Char) (position : Nat) :
    depthAt cs position ≤ deepest cs := by
  have hrest := le_deepestFrom (depthAt cs position) (cs.drop position)
  calc depthAt cs position
      ≤ deepestFrom (depthAt cs position) (cs.drop position) := hrest
    _ ≤ deepestFrom 0 (cs.take position ++ cs.drop position) := by
        rw [deepestFrom_append]
        exact Nat.le_max_right ..
    _ = deepest cs := by rw [List.take_append_drop, deepest]

end Nesting

theorem Scan.length_braces_afterLines (s : Scan) (bodies : List (List Char)) :
    (s.afterLines bodies).braces.length = bodies.flatten.foldl Nesting.after s.braces.length := by
  induction bodies generalizing s with
  | nil => rfl
  | cons body rest ih =>
    rw [afterLines, List.foldl_cons, ← afterLines, ih, length_braces_afterLine, List.flatten_cons,
      List.foldl_append]

/-- **The height of the stack in front of a token is the depth of the braces there.** -/
theorem length_braces_of_mem_visits {cs : List Char} {v : Visit} (h : v ∈ visits cs) :
    v.state.braces.length = Nesting.depthAt cs v.position := by
  obtain ⟨before, l, after, earlier, column, later, hsplit, hscan, -, hposition, hstate⟩ :=
    exists_of_mem_visits h
  obtain ⟨hcolumn, hbraces⟩ := Token.brace?_of_scan_eq_append hscan
  have hchained : Line.Chained before := by
    have hall := Line.chained_split cs
    rw [hsplit] at hall
    exact hall.of_append.1
  have htext : cs = Line.text before ++ (l.body ++ (l.ending ++ Line.text after)) := by
    rw [← Line.text_cons, ← Line.text_append, ← hsplit, Line.text_split]
  have htake : cs.take v.position = Line.text before ++ l.body.take column := by
    rw [htext, hposition, List.take_length_add_append,
      List.take_append_of_le_length (Nat.le_of_lt hcolumn)]
  have hlines : (Scan.afterLines {} (before.map Line.body)).braces.length =
      (Line.text before).foldl Nesting.after 0 := by
    rw [Scan.length_braces_afterLines, ← Nesting.foldl_after_filter_isBrace, ← List.flatMap_def,
      filter_isBrace_flatMap_body hchained, Nesting.foldl_after_filter_isBrace]
    rfl
  rw [hstate, Scan.length_braces_afterTokens, hbraces, Scan.braces_beginLine, hlines,
    Nesting.foldl_after_filter_isBrace, Nesting.depthAt, htake, List.foldl_append]

/-! ### Counting bodies -/

/-- What a token does to the number of bodies around the place: a brace that opens the body of a
construct adds one, and a brace that closes it takes one away. -/
def Visit.change (v : Visit) : Int :=
  match v.token with
  | .openBrace => if v.state.waiting.isSome && v.state.parens = 0 then 1 else 0
  | .closeBrace => if (v.state.braces.head?.any Option.isSome) then -1 else 0
  | .keyword _ | .jump | .logical _ | .question | .openParen | .closeParen | .semicolon => 0

/-- A counter that starts with `n` and changes at every visit shows at each the number of entries of
the stack that stand for a body. -/
def Visit.Counted (n : Int) : List Visit → Prop
  | [] => True
  | v :: rest => n = v.state.braces.countP Option.isSome ∧ Counted (n + v.change) rest

/-- The counter behind some visits. -/
def Visit.count (n : Int) (vs : List Visit) : Int := vs.foldl (fun n v => n + v.change) n

theorem Visit.counted_append_iff (n : Int) (xs ys : List Visit) :
    Counted n (xs ++ ys) ↔ Counted n xs ∧ Counted (count n xs) ys := by
  induction xs generalizing n with
  | nil => exact (and_iff_right trivial).symm
  | cons v rest ih =>
    rw [List.cons_append, Counted, Counted, ih, and_assoc, count, count, List.foldl_cons]

namespace Scan

theorem nesting_advance (number position : Nat) (t : Token) (s : Scan) :
    ((s.advance t).nesting : Int) = s.nesting + Visit.change ⟨number, position, t, s⟩ := by
  cases t with
  | keyword kind =>
    simp only [advance, nesting, braces_keyword, Visit.change, Int.add_zero]
  | jump => simp only [advance, nesting, braces_endStatement, Visit.change, Int.add_zero]
  | logical _ => exact (Int.add_zero _).symm
  | question => exact (Int.add_zero _).symm
  | openParen => exact (Int.add_zero _).symm
  | closeParen => exact (Int.add_zero _).symm
  | semicolon => simp only [advance, nesting, braces_endStatement, Visit.change, Int.add_zero]
  | openBrace =>
    simp only [advance, openBrace, Visit.change]
    split_ifs with hbody
    · have hsome : s.waiting.isSome = true := (Bool.and_eq_true_iff.mp hbody).1
      simp [nesting, hsome]
    · simp [nesting]
  | closeBrace =>
    simp only [advance, closeBrace, Visit.change, nesting]
    cases hbraces : s.braces with
    | nil => simp
    | cons closed rest =>
      cases closed with
      | none => simp
      | some kind =>
        simp only [List.countP_cons_of_pos, Option.isSome_some, List.head?_cons, Option.any_some,
          if_true]
        omega

theorem counted_visitTokens (number offset : Nat) (s : Scan) (ts : List (Nat × Token)) :
    Visit.Counted s.nesting (visitTokens number offset s ts) ∧
      Visit.count s.nesting (visitTokens number offset s ts) = (s.afterTokens ts).nesting := by
  induction ts generalizing s with
  | nil => exact ⟨trivial, rfl⟩
  | cons t rest ih =>
    obtain ⟨column, token⟩ := t
    obtain ⟨hcounted, hcount⟩ := ih (s.advance token)
    rw [nesting_advance number (offset + column)] at hcounted hcount
    exact ⟨⟨rfl, hcounted⟩, hcount⟩

theorem counted_visitLines (number offset : Nat) (s : Scan) (ls : List Line) :
    Visit.Counted s.nesting (visitLines number offset s ls) := by
  induction ls generalizing number offset s with
  | nil => trivial
  | cons l rest ih =>
    have hbegin : (s.beginLine l.body).nesting = s.nesting := by
      rw [nesting, braces_beginLine, nesting]
    obtain ⟨hcounted, hcount⟩ :=
      counted_visitTokens number offset (s.beginLine l.body) (Token.scan l.body)
    rw [hbegin] at hcounted hcount
    rw [visitLines, Visit.counted_append_iff, hcount]
    exact ⟨hcounted, ih (number + 1) (offset + l.whole.length) (s.afterLine l.body)⟩

end Scan

/-- **Bodies can be counted along the way.** -/
theorem counted_visits (cs : List Char) : Visit.Counted 0 (visits cs) :=
  Scan.counted_visitLines 1 0 {} (Line.split cs)

/-! ### Bounds -/

theorem Visit.nesting_of_construct? {marks : List Nat} {v : Visit} {c : Construct}
    (h : v.construct? marks = some c) : c.nesting = v.state.nesting := by
  obtain ⟨line, position, token, state⟩ := v
  cases token with
  | keyword kind => cases h; rfl
  | jump => cases h; rfl
  | logical kind => cases h; rfl
  | question =>
    obtain ⟨-, h⟩ := Option.ite_none_right_eq_some.mp h
    cases h
    rfl
  | openParen => cases h
  | closeParen => cases h
  | semicolon => cases h
  | openBrace => cases h
  | closeBrace => cases h

theorem exists_of_mem_constructs {cs : List Char} {c : Construct} (h : c ∈ constructs cs) :
    ∃ v ∈ visits cs, v.construct? (ternaries cs) = some c := by
  rwa [constructs_eq_filterMap_visits, List.mem_filterMap] at h

/-- Nothing is nested deeper than the braces of the text are. -/
theorem nesting_le_deepest {cs : List Char} {c : Construct} (h : c ∈ constructs cs) :
    c.nesting ≤ Nesting.deepest cs := by
  obtain ⟨v, hv, hc⟩ := exists_of_mem_constructs h
  calc c.nesting
      = v.state.braces.countP Option.isSome := Visit.nesting_of_construct? hc
    _ ≤ v.state.braces.length := List.countP_le_length
    _ = Nesting.depthAt cs v.position := length_braces_of_mem_visits hv
    _ ≤ Nesting.deepest cs := Nesting.depthAt_le_deepest cs v.position

theorem Cognitive.cost_le_succ_nesting (c : Construct) : cost c ≤ 1 + c.nesting := by
  rw [cost, increment_natCast]
  split_ifs <;> omega

theorem Cognitive.ofConstructs_le_mul {found : List Construct} {bound : Nat}
    (h : ∀ c ∈ found, c.nesting ≤ bound) : ofConstructs found ≤ (1 + bound) * found.length := by
  induction found with
  | nil => exact Nat.zero_le _
  | cons c rest ih =>
    have hfirst := cost_le_succ_nesting c
    have hbound := h c List.mem_cons_self
    have hrest := ih fun d hd => h d (List.mem_cons_of_mem c hd)
    have hcons : ofConstructs (c :: rest) = cost c + ofConstructs rest := rfl
    rw [hcons, List.length_cons, Nat.mul_succ]
    omega

theorem nestingDepth_zero (cs : List Char) : nestingDepth 0 cs = Nesting.deepest cs := by
  rw [nestingDepth, Int.sub_zero, Int.toNat_natCast]

/-- The nesting of the constructs of a text against the depth of its braces. -/
structure NestedWithinBraces (cs : List Char) : Prop where
  /-- At every token the stack is as high as the braces are deep. -/
  height : ∀ v ∈ visits cs, v.state.braces.length = Nesting.depthAt cs v.position
  /-- A counter of bodies shows at every token how many entries of the stack stand for one. -/
  counter : Visit.Counted 0 (visits cs)
  /-- What is found at a token has the number of those entries as its nesting. -/
  nesting_eq : ∀ c ∈ constructs cs, ∃ v ∈ visits cs, v.construct? (ternaries cs) = some c ∧
    c.nesting = v.state.braces.countP Option.isSome
  nesting_le : ∀ c ∈ constructs cs, c.nesting ≤ nestingDepth 0 cs
  cognitive_le : cognitive cs ≤ (1 + nestingDepth 0 cs) * (constructs cs).length

/-- **Nesting does not exceed the depth of the braces**, and cognitive complexity is bounded by that
depth and the number of constructs. -/
theorem nested_within_braces (cs : List Char) : NestedWithinBraces cs where
  height _ := length_braces_of_mem_visits
  counter := counted_visits cs
  nesting_eq c hc := by
    obtain ⟨v, hv, hfound⟩ := exists_of_mem_constructs hc
    exact ⟨v, hv, hfound, Visit.nesting_of_construct? hfound⟩
  nesting_le c hc := by
    rw [nestingDepth_zero]
    exact nesting_le_deepest hc
  cognitive_le := by
    rw [nestingDepth_zero, cognitive]
    split
    · exact Nat.zero_le _
    · exact Cognitive.ofConstructs_le_mul fun c hc => nesting_le_deepest hc

end SourceMetrics
