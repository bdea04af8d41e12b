import SourceMetrics.Proofs.Construct.Token
import SourceMetrics.Proofs.Pattern

/-!
# What a pattern can find on a text of a known shape

A pattern has many ways to match, and which of them is taken depends on the whole text. Often only
the first characters of a text are known: blanks, then a word, then a parenthesis, and whatever
else. The shape of a text says this much, and `Pattern.reach` follows a pattern through a shape: it
lists what can be known of the places that the pattern hands on, over all texts of the shape and all
ways to match. Looking ahead is taken to succeed always, so the list may be too long; it is never
too short.

The rounds of a repetition are followed until a round adds nothing new. If that does not happen in
time, everything is possible.

## Main definitions

* `Shape`, `Shape.Fits` — what is known of the first characters of a text
* `Pattern.Estimate`, `Pattern.Estimate.Holds` — what is known of a place that a match has come to
* `Pattern.reach` — the estimates of the places that a pattern hands on

## Main results

* `Pattern.reaches_run` — the places that a pattern hands on are among those estimated
* `Pattern.exists_estimate_of_match?` — so is the place where a match ends
-/

namespace SourceMetrics

/-! ### Shapes -/

/-- What is known of the next characters of a text. -/
inductive Shape.Piece where
  /-- The next character. -/
  | char (c : Char)
  /-- The next character is a blank. -/
  | blank
  /-- Some blanks come next, or none. -/
  | blanks
  deriving DecidableEq, Repr

/-- What is known of a text. Behind the pieces, nothing is known. -/
abbrev Shape := List Shape.Piece

/-- A text is of a shape. -/
inductive Shape.Fits : Shape → List Char → Prop
  | nil (cs : List Char) : Fits [] cs
  | char (c : Char) {shape : Shape} {cs : List Char} (rest : Fits shape cs) :
      Fits (.char c :: shape) (c :: cs)
  | blank {c : Char} {shape : Shape} {cs : List Char} (isBlank : Text.isBlank c = true)
      (rest : Fits shape cs) : Fits (.blank :: shape) (c :: cs)
  | skip {shape : Shape} {cs : List Char} (rest : Fits shape cs) : Fits (.blanks :: shape) cs
  | blanks {c : Char} {shape : Shape} {cs : List Char} (isBlank : Text.isBlank c = true)
      (rest : Fits (.blanks :: shape) cs) : Fits (.blanks :: shape) (c :: cs)

/-- Whether a class may hold some blank. -/
def CharClass.meetsBlank (k : CharClass) : Bool :=
  k.negated || k.blank || k.chars.any Text.isBlank ||
    k.ranges.any fun range =>
      Text.blankRanges.any fun run => range.1.toNat ≤ run.2 && run.1 ≤ range.2.toNat

theorem CharClass.meetsBlank_of_holds {k : CharClass} {c : Char} (hk : k.holds c = true)
    (hc : Text.isBlank c = true) : k.meetsBlank = true := by
  cases hnegated : k.negated with
  | true => rw [meetsBlank, hnegated, Bool.true_or, Bool.true_or, Bool.true_or]
  | false =>
    simp only [holds, isWord_of_isBlank hc, hc, hnegated, Bool.and_false, Bool.and_true,
      Bool.false_or, Bool.bne_false, Bool.or_eq_true] at hk
    rw [meetsBlank, hnegated, Bool.false_or, Bool.or_eq_true, Bool.or_eq_true]
    rcases hk with (hblank | hrange) | hchar
    · exact .inl (.inl hblank)
    · obtain ⟨range, hmem, hin⟩ := List.any_eq_true.mp hrange
      obtain ⟨run, hrun, hle⟩ := exists_run_of_holds hc
      rw [Bool.and_eq_true, decide_eq_true_iff, decide_eq_true_iff] at hin
      have hlow : range.1.toNat ≤ c.toNat := hin.1
      have hhigh : c.toNat ≤ range.2.toNat := hin.2
      refine .inr (List.any_eq_true.mpr ⟨range, hmem, List.any_eq_true.mpr ⟨run, hrun, ?_⟩⟩)
      rw [Bool.and_eq_true, decide_eq_true_iff, decide_eq_true_iff]
      omega
    · exact .inl (.inr (List.any_eq_true.mpr ⟨c, List.contains_iff_mem.mp hchar, hc⟩))

namespace Shape

/-- The shapes of what can follow a character of a class, each with that character if
it is known. -/
def after (k : CharClass) : Shape → List (Option Char × Shape)
  | [] => [(none, [])]
  | .char c :: rest => if k.holds c then [(some c, rest)] else []
  | .blank :: rest => if k.meetsBlank then [(none, rest)] else []
  | .blanks :: rest => (if k.meetsBlank then [(none, .blanks :: rest)] else []) ++ after k rest

theorem exists_after {k : CharClass} {c : Char} (hk : k.holds c = true) {shape : Shape}
    {cs : List Char} (h : Fits shape (c :: cs)) :
    ∃ next ∈ shape.after k, (∀ x ∈ next.1, x = c) ∧ Fits next.2 cs := by
  generalize htext : c :: cs = text at h
  induction h with
  | nil => exact ⟨(none, []), List.mem_singleton_self _, by simp, .nil cs⟩
  | @char x shape _ rest =>
    obtain ⟨rfl, rfl⟩ := List.cons_eq_cons.mp htext
    refine ⟨(some c, shape), by simp [after, hk], ?_, rest⟩
    rintro x ⟨⟩
    rfl
  | @blank x shape _ isBlank rest =>
    obtain ⟨rfl, rfl⟩ := List.cons_eq_cons.mp htext
    exact ⟨(none, shape), by simp [after, CharClass.meetsBlank_of_holds hk isBlank], by simp, rest⟩
  | skip rest ih =>
    obtain ⟨next, hmem, hnext⟩ := ih htext
    exact ⟨next, List.mem_append_right _ hmem, hnext⟩
  | @blanks x shape _ isBlank rest =>
    obtain ⟨rfl, rfl⟩ := List.cons_eq_cons.mp htext
    exact ⟨(none, .blanks :: shape), by simp [after, CharClass.meetsBlank_of_holds hk isBlank],
      by simp, rest⟩

/-- The shapes that tell whether a blank comes first. -/
def starts : Shape → List Shape
  | .blanks :: rest => (.blank :: .blanks :: rest) :: starts rest
  | shape => [shape]

theorem exists_starts {shape : Shape} {cs : List Char} (h : Fits shape cs) :
    ∃ first ∈ shape.starts, Fits first cs := by
  induction h with
  | nil cs => exact ⟨_, List.mem_singleton_self _, .nil cs⟩
  | char c rest => exact ⟨_, List.mem_singleton_self _, .char c rest⟩
  | blank isBlank rest => exact ⟨_, List.mem_singleton_self _, .blank isBlank rest⟩
  | skip rest ih =>
    obtain ⟨first, hmem, hfits⟩ := ih
    exact ⟨first, List.mem_cons_of_mem _ hmem, hfits⟩
  | blanks isBlank rest => exact ⟨_, List.mem_cons_self, .blank isBlank rest⟩

end Shape

namespace Pattern

/-! ### Estimates -/

/-- What is known of a place that a match has come to. -/
structure Estimate where
  /-- The shape of what follows. -/
  shape : Shape := []
  /-- What has been read since the part started that is to be remembered, if that is known. -/
  text : Option (List Char) := none
  /-- The name that has been remembered, or that there is none, if that is known. -/
  name : Option (Option (List Char)) := none
  deriving DecidableEq, Repr

/-- The name that a match remembers. -/
def Cursor.name? (s : Cursor) : Option (List Char) := (s.part? .name).map Part.text

namespace Estimate

/-- The estimate is right about a place, for a part that started at `start`. -/
structure Holds (start : Cursor) (e : Estimate) (s : Cursor) : Prop where
  fits : e.shape.Fits s.rest
  text : ∀ cs ∈ e.text, start.rest = cs ++ s.rest ∧ s.position = start.position + cs.length
  name : ∀ name ∈ e.name, s.name? = name

theorem holds_default (start s : Cursor) : Holds start {} s :=
  ⟨.nil _, by simp, by simp⟩

/-- Behind the next character, if that is known, where what follows has the given shape. -/
def advance (e : Estimate) (next : Option Char × Shape) : Estimate :=
  { e with shape := next.2, text := e.text.bind fun cs => next.1.map fun c => cs ++ [c] }

theorem Holds.advance {start s : Cursor} {e : Estimate} {c : Char} {rest : List Char}
    (h : e.Holds start s) (hrest : s.rest = c :: rest) {next : Option Char × Shape}
    (hnext : ∀ x ∈ next.1, x = c) (hfits : next.2.Fits rest) :
    (e.advance next).Holds start (s.advance c rest) := by
  refine ⟨hfits, fun cs hcs => ?_, h.name⟩
  obtain ⟨before, hbefore, hcs⟩ := Option.bind_eq_some_iff.mp hcs
  obtain ⟨x, hx, rfl⟩ := Option.map_eq_some_iff.mp hcs
  obtain ⟨hstart, hposition⟩ := h.text before hbefore
  rw [hnext x hx, List.length_append, hstart, hrest]
  refine ⟨(List.append_assoc before [c] rest).symm, ?_⟩
  show s.position + 1 = start.position + (before.length + 1)
  omega

/-- At the start of a part that is to be remembered. -/
def begin (e : Estimate) (shape : Shape) : Estimate := { e with shape, text := some [] }

/-- At the end of a part that is remembered. -/
def finish (e : Estimate) (field : Field) : Estimate :=
  { e with text := none, name := if field = .name then e.text.map some else e.name }

theorem Holds.begin {start s : Cursor} {e : Estimate} (h : e.Holds start s) {shape : Shape}
    (hshape : shape.Fits s.rest) : (e.begin shape).Holds s s := by
  refine ⟨hshape, ?_, h.name⟩
  rintro cs ⟨⟩
  exact ⟨rfl, rfl⟩

/-- What is known to have been read is what is remembered. -/
theorem Holds.finish {start s u : Cursor} {e : Estimate} (h : e.Holds s u) (field : Field) :
    (e.finish field).Holds start (u.record field s) := by
  refine ⟨h.fits, by simp [Estimate.finish], fun name hname => ?_⟩
  rw [Estimate.finish] at hname
  split_ifs at hname with hfield
  · subst hfield
    obtain ⟨cs, hcs, rfl⟩ := Option.map_eq_some_iff.mp hname
    obtain ⟨hrest, hposition⟩ := h.text cs hcs
    show some (s.rest.take (u.position - s.position)) = some cs
    rw [hrest, hposition, Nat.add_sub_cancel_left, List.take_left]
  · have hother : (u.record field s).name? = u.name? := by
      have hne : (Field.name == field) = false := beq_eq_false_iff_ne.mpr (Ne.symm hfield)
      rw [Cursor.name?, Cursor.part?, Cursor.record, List.lookup_cons, hne]
      rfl
    rw [hother]
    exact h.name name hname

end Estimate

/-! ### Reaching -/

/-- Follows rounds from the estimates `new`, which are among those seen, until a round adds nothing;
after `fuel` rounds, everything is possible. -/
def closure (round : Estimate → List Estimate) :
    (fuel : Nat) → (seen new : List Estimate) → List Estimate
  | 0, _, _ => [{}]
  | fuel + 1, seen, new =>
    let next := (new.flatMap round).filter fun e => !seen.contains e
    if next.isEmpty then seen else closure round fuel (seen ++ next) next

/-- The estimates of the places that a pattern hands on, from a place with an estimate. A round of a
repetition that reads on has fewer pieces before it, so there are few rounds that add something. -/
def reach : Pattern → Estimate → List Estimate
  | empty, e => [e]
  | one k, e => (e.shape.after k).map e.advance
  | seq first second, e => (first.reach e).flatMap second.reach
  | alt first second, e => first.reach e ++ second.reach e
  | many body, e => closure body.reach (e.shape.length + 2) [e] [e]
  | few body, e => closure body.reach (e.shape.length + 2) [e] [e]
  | remember field body, e =>
    e.shape.starts.flatMap fun shape => (body.reach (e.begin shape)).map (·.finish field)
  | ahead _, e => [e]
  | notAhead _, e => [e]
  | boundary, e => [e]
  | finish, e => [e]

/-- Some of the estimates is right about a place. -/
def Covered (start : Cursor) (es : List Estimate) (s : Cursor) : Prop := ∃ e ∈ es, e.Holds start s

/-- Whenever the matcher finds a match at a place with an estimate, what follows was asked at a
place with one of the estimates reached. -/
def Reaches (round : Estimate → List Estimate) (matcher : Follow → Follow) : Prop :=
  ∀ ⦃start : Cursor⦄ ⦃e : Estimate⦄ ⦃follow : Follow⦄ ⦃s t : Cursor⦄, e.Holds start s →
    matcher follow s = some t → ∃ u, follow u = some t ∧ Covered start (round e) u

/-- A round stays among the estimates that a closure ends with, if that is so for those seen that
are not new. -/
theorem keeps_closure {round : Estimate → List Estimate} {matcher : Follow → Follow}
    (h : Reaches round matcher) (start : Cursor) (fuel : Nat) {seen new : List Estimate}
    (hseen : ∀ e ∈ seen, e ∈ new ∨ round e ⊆ seen) :
    Keeps (Covered start (closure round fuel seen new)) matcher := by
  induction fuel generalizing seen new with
  | zero =>
    rintro follow s t ⟨e, -, hs⟩ hmatch
    obtain ⟨u, hu, -⟩ := h hs hmatch
    exact ⟨u, hu, {}, List.mem_singleton_self _, Estimate.holds_default start u⟩
  | succ fuel ih =>
    rw [closure]
    -- what a round from a new estimate adds has been seen or is new in the next round
    have hround : ∀ e ∈ new, ∀ e' ∈ round e,
        e' ∈ seen ∨ e' ∈ (new.flatMap round).filter fun e => !seen.contains e := by
      intro e he e' he'
      by_cases hmem : e' ∈ seen
      · exact .inl hmem
      · exact .inr (List.mem_filter.mpr ⟨List.mem_flatMap.mpr ⟨e, he, he'⟩, by simpa using hmem⟩)
    split_ifs with hnext
    · rw [List.isEmpty_iff] at hnext
      rintro follow s t ⟨e, he, hs⟩ hmatch
      obtain ⟨u, hu, e', he', hholds⟩ := h hs hmatch
      refine ⟨u, hu, e', ?_, hholds⟩
      rcases hseen e he with hnew | hsub
      · exact (hround e hnew e' he').resolve_right (hnext ▸ List.not_mem_nil)
      · exact hsub he'
    · refine ih fun e he => ?_
      rcases List.mem_append.mp he with he | he
      · refine .inr fun e' he' => List.mem_append.mpr ?_
        rcases hseen e he with hnew | hsub
        · exact hround e hnew e' he'
        · exact .inl (hsub he')
      · exact .inl he

theorem covered_closure (round : Estimate → List Estimate) (fuel : Nat) {start s : Cursor}
    {seen : List Estimate} (h : Covered start seen s) (new : List Estimate) :
    Covered start (closure round fuel seen new) s := by
  induction fuel generalizing seen new with
  | zero => exact ⟨{}, List.mem_singleton_self _, Estimate.holds_default start s⟩
  | succ fuel ih =>
    rw [closure]
    split_ifs
    · exact h
    · obtain ⟨e, he, hs⟩ := h
      exact ih ⟨e, List.mem_append_left _ he, hs⟩ _

/-- **What a pattern hands on is estimated.** -/
theorem reaches_run (p : Pattern) : Reaches p.reach p.run := by
  -- a pattern that reads nothing hands on the place it was asked at
  have hstay : ∀ {start s : Cursor} {e : Estimate}, e.Holds start s → Covered start [e] s :=
    fun hs => ⟨_, List.mem_singleton_self _, hs⟩
  induction p with
  | empty => exact fun start e follow s t hs h => ⟨s, h, hstay hs⟩
  | one k =>
    intro start e follow s t hs h
    rw [run] at h
    split at h
    · cases h
    · next c rest hrest =>
      obtain ⟨hk, h⟩ := Option.ite_none_right_eq_some.mp h
      obtain ⟨next, hmem, hnext, hfits⟩ := Shape.exists_after hk (hrest ▸ hs.fits)
      exact ⟨s.advance c rest, h, e.advance next, List.mem_map_of_mem hmem,
        hs.advance hrest hnext hfits⟩
  | seq first second ihf ihs =>
    intro start e follow s t hs h
    obtain ⟨u, hu, e', he', hu'⟩ := ihf hs h
    obtain ⟨v, hv, e'', he'', hv'⟩ := ihs hu' hu
    exact ⟨v, hv, e'', List.mem_flatMap.mpr ⟨e', he', he''⟩, hv'⟩
  | alt first second ihf ihs =>
    intro start e follow s t hs h
    obtain h | ⟨-, h⟩ := (Option.orElse_eq_some _ _ _).mp h
    · obtain ⟨u, hu, e', he', hu'⟩ := ihf hs h
      exact ⟨u, hu, e', List.mem_append_left _ he', hu'⟩
    · obtain ⟨u, hu, e', he', hu'⟩ := ihs hs h
      exact ⟨u, hu, e', List.mem_append_right _ he', hu'⟩
  | many body ih =>
    intro start e follow s t hs h
    exact (keeps_closure ih start _ fun _ => .inl).repeatMany s.rest
      (covered_closure _ _ (hstay hs) _) h
  | few body ih =>
    intro start e follow s t hs h
    exact (keeps_closure ih start _ fun _ => .inl).repeatFew s.rest
      (covered_closure _ _ (hstay hs) _) h
  | remember field body ih =>
    intro start e follow s t hs h
    obtain ⟨shape, hshape, hfits⟩ := Shape.exists_starts hs.fits
    obtain ⟨u, hu, e', he', hu'⟩ := ih (hs.begin hfits) h
    exact ⟨u.record field s, hu, e'.finish field,
      List.mem_flatMap.mpr ⟨shape, hshape, List.mem_map_of_mem he'⟩, hu'.finish field⟩
  | ahead body ih =>
    exact fun start e follow s t hs h => ⟨s, (Option.ite_none_right_eq_some.mp h).2, hstay hs⟩
  | notAhead body ih =>
    exact fun start e follow s t hs h => ⟨s, (Option.ite_none_left_eq_some.mp h).2, hstay hs⟩
  | boundary =>
    exact fun start e follow s t hs h => ⟨s, (Option.ite_none_right_eq_some.mp h).2, hstay hs⟩
  | finish =>
    exact fun start e follow s t hs h => ⟨s, (Option.ite_none_right_eq_some.mp h).2, hstay hs⟩

/-- What is known at the start of a text: its shape, and that there is no name yet. -/
def Estimate.ofShape (shape : Shape) : Estimate := { shape, name := some none }

/-- **The end of a match is estimated.** -/
theorem exists_estimate_of_match? {p : Pattern} {shape : Shape} {cs : List Char} {m : Cursor}
    (hshape : shape.Fits cs) (h : p.match? cs = some m) :
    ∃ e ∈ p.reach (.ofShape shape), ∀ name ∈ e.name, m.name? = name := by
  have hstart : (Estimate.ofShape shape).Holds { rest := cs } { rest := cs } := by
    refine ⟨hshape, by simp [Estimate.ofShape], ?_⟩
    rintro name ⟨⟩
    rfl
  obtain ⟨u, hu, e, he, hholds⟩ := reaches_run p hstart h
  cases hu
  exact ⟨e, he, hholds.name⟩

end Pattern

end SourceMetrics
