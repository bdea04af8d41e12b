import Mathlib.Data.List.Basic
import SourceMetrics.Construct.Ternary
import SourceMetrics.Proofs.Text.Line

/-!
# The search for a colon, step by step

`Search.run` reads a character and, to tell `::` and lone question marks, looks at the next one.
Here one such move is a function of its own, `Search.step`, so that a statement about the search is
an induction over moves and never over the branches of `run`.

What follows a text matters to the search only through the next character and, if the text decides
nothing, through what the search does there. So a question mark that is answered in a text is
answered in every longer one, as long as the longer one goes on with a character that no move looks
at.

## Main definitions

* `Ternary.Move`, `Ternary.Search.step` — one move of the search
* `Ternary.Unseen` — a next character that no move looks at
* `Ternary.Prolongs` — what is answered in one text is answered in another

## Main results

* `Ternary.Search.run_cons` — the search is made of moves
* `Ternary.Search.run_append` — the search in a longer text
* `Ternary.Prolongs.append`, `Ternary.Prolongs.lineBreak` — texts that differ in their line breaks
* `mem_ternaries_iff` — which positions are conditional operators
-/

namespace SourceMetrics

namespace Ternary

/-! ### Moves -/

/-- What the search does at a character. -/
inductive Move where
  /-- The expression has ended. -/
  | stop
  /-- The colon is found. -/
  | answer
  /-- The search goes on behind the character. -/
  | pass (next : Search)
  /-- The search goes on behind a double colon. -/
  | skip (next : Search)

/-- The move at a character, given the one behind it. -/
def Search.step (s : Search) (c : Char) (next : Option Char) : Move :=
  if c = ':' ∧ next = some ':' ∧ s.depth = 0 then
    .skip { s with before := ':', last := ':', arrow := false }
  else if c = '(' || c = '[' then .pass (({ s with depth := s.depth + 1 }).pass c)
  else if c = '\x7b' then
    if s.depth = 0 && !(s.last == '?' || s.last == ':') && !s.arrow then .stop
    else .pass (({ s with depth := s.depth + 1 }).pass c)
  else if c = ')' || c = ']' || c = '\x7d' then
    if s.depth = 0 then .stop else .pass (({ s with depth := s.depth - 1 }).pass c)
  else if s.depth ≠ 0 then .pass (s.pass c)
  else if c = ';' || c = ',' then .stop
  else if c = '?' && standsAlone (some s.before) next then
    .pass (({ s with waiting := s.waiting + 1 }).pass c)
  else if c = ':' then
    if s.waiting ≤ 1 then .answer else .pass (({ s with waiting := s.waiting - 1 }).pass c)
  else .pass (s.pass c)

/-- What a move finds in the rest of the text. -/
def Move.find (rest : List Char) : Move → Option Nat
  | stop => none
  | answer => some 0
  | pass next => (next.run rest).map (· + 1)
  | skip next => (next.run rest.tail).map (· + 2)

@[simp] theorem Search.run_nil (s : Search) : s.run [] = none := rfl

/-- The search is made of moves. -/
theorem Search.run_cons (s : Search) (c : Char) (rest : List Char) :
    s.run (c :: rest) = (s.step c rest.head?).find rest := by
  by_cases hdouble : c = ':' ∧ rest.head? = some ':'
  · obtain ⟨rfl, hhead⟩ := hdouble
    obtain ⟨tail, rfl⟩ := List.head?_eq_some_iff.mp hhead
    rw [Search.run]
    by_cases hdepth : s.depth = 0
    · have hstep : s.step ':' (some ':') =
          .skip { s with before := ':', last := ':', arrow := false } := if_pos ⟨rfl, rfl, hdepth⟩
      rw [if_pos hdepth, List.head?_cons, hstep, Move.find, List.tail_cons]
    · have hstep : s.step ':' (some ':') = .pass (s.pass ':') := by
        simp [Search.step, hdepth]
      rw [if_neg hdepth, List.head?_cons, hstep, Move.find]
  · have hstep : ¬(c = ':' ∧ rest.head? = some ':' ∧ s.depth = 0) := fun h => hdouble ⟨h.1, h.2.1⟩
    rw [Search.run, Search.step, if_neg hstep]
    · simp only [apply_ite (Move.find rest)]
      rfl
    · rintro tail rfl rfl
      exact hdouble ⟨rfl, rfl⟩

/-! ### Longer texts -/

/-- A next character, or the end of the text, that no move looks at. -/
def Unseen (next : Option Char) : Prop :=
  next ≠ some ':' ∧ ∀ before, standsAlone before next = standsAlone before none

theorem unseen_of_ne {c : Char} (hcolon : c ≠ ':') (hquestion : c ≠ '?') (hdot : c ≠ '.')
    (hangle : c ≠ '>') : Unseen (some c) := by
  refine ⟨by simpa using hcolon, fun before => ?_⟩
  simp [standsAlone, hcolon, hquestion, hdot, hangle]

theorem isBlank_of_isLineBreak {c : Char} (h : Text.isLineBreak c = true) :
    Text.isBlank c = true := by
  simp only [Text.isLineBreak, Bool.or_eq_true, beq_iff_eq] at h
  rcases h with ((((((((rfl | rfl) | rfl) | rfl) | rfl) | rfl) | rfl) | rfl) | rfl) | rfl <;> decide

theorem ne_of_isBlank {c d : Char} (hc : Text.isBlank c = true) (hd : Text.isBlank d = false) :
    c ≠ d := by
  rintro rfl
  rw [hc] at hd
  cases hd

/-- A blank is as good as the end of the text. -/
theorem unseen_of_isBlank {c : Char} (h : Text.isBlank c = true) : Unseen (some c) :=
  unseen_of_ne (ne_of_isBlank h (by decide)) (ne_of_isBlank h (by decide))
    (ne_of_isBlank h (by decide)) (ne_of_isBlank h (by decide))

/-- A blank is as good as the start of the text. -/
theorem standsAlone_of_isBlank {c : Char} (h : Text.isBlank c = true) (next : Option Char) :
    standsAlone (some c) next = standsAlone none next := by
  have hquestion : c ≠ '?' := ne_of_isBlank h (by decide)
  have hangle : c ≠ '<' := ne_of_isBlank h (by decide)
  simp [standsAlone, hquestion, hangle]

theorem unseen_of_isLineBreak {c : Char} (h : Text.isLineBreak c = true) : Unseen (some c) :=
  unseen_of_isBlank (isBlank_of_isLineBreak h)

theorem standsAlone_of_isLineBreak {c : Char} (h : Text.isLineBreak c = true)
    (next : Option Char) : standsAlone (some c) next = standsAlone none next :=
  standsAlone_of_isBlank (isBlank_of_isLineBreak h) next

theorem Search.step_of_unseen {next : Option Char} (h : Unseen next) (s : Search) (c : Char) :
    s.step c next = s.step c none := by
  simp only [Search.step, h.1, h.2, false_and, and_false, reduceCtorEq]

/-- A move behind a double colon is made only at one. -/
theorem Search.head?_of_step_eq_skip {s s' : Search} {c : Char} {next : Option Char}
    (h : s.step c next = .skip s') : next = some ':' := by
  by_contra hnext
  rw [Search.step, if_neg fun hdouble => hnext hdouble.2.1] at h
  grind

/-- **The search in a longer text.** Either the text decides and nothing behind it matters, or it
decides nothing and the search goes on behind it. -/
theorem Search.run_append :
    ∀ (cs : List Char) (s : Search),
      (∀ tail : List Char, Unseen tail.head? → s.run (cs ++ tail) = s.run cs) ∨
        s.run cs = none ∧ ∃ (s' : Search) (n : Nat), ∀ tail : List Char, Unseen tail.head? →
          s.run (cs ++ tail) = (s'.run tail).map (· + n)
  | [], s => .inr ⟨rfl, s, 0, fun tail _ => by simp⟩
  | c :: rest, s => by
    have hstep : ∀ tail : List Char, Unseen tail.head? →
        s.run (c :: rest ++ tail) = (s.step c rest.head?).find (rest ++ tail) := by
      intro tail htail
      rw [List.cons_append, Search.run_cons]
      cases rest with
      | nil => rw [List.nil_append, s.step_of_unseen htail c]; rfl
      | cons d rest => rfl
    have hself : s.run (c :: rest) = (s.step c rest.head?).find rest := Search.run_cons s c rest
    cases hmove : s.step c rest.head? with
    | stop => exact .inl fun tail htail => by rw [hstep tail htail, hself, hmove]; rfl
    | answer => exact .inl fun tail htail => by rw [hstep tail htail, hself, hmove]; rfl
    | pass next =>
      simp only [hmove, Move.find] at hstep hself
      rcases Search.run_append rest next with h | ⟨h, s', n, h'⟩
      · exact .inl fun tail htail => by rw [hstep tail htail, hself, h tail htail]
      · refine .inr ⟨by rw [hself, h]; rfl, s', n + 1, fun tail htail => ?_⟩
        rw [hstep tail htail, h' tail htail, Option.map_map]
        rfl
    | skip next =>
      obtain ⟨more, rfl⟩ := List.head?_eq_some_iff.mp (head?_of_step_eq_skip hmove)
      simp only [hmove, Move.find, List.cons_append, List.tail_cons] at hstep hself
      rcases Search.run_append more next with h | ⟨h, s', n, h'⟩
      · exact .inl fun tail htail => by
          rw [List.cons_append, List.cons_append, hstep tail htail, hself, h tail htail]
      · refine .inr ⟨by rw [hself, h]; rfl, s', n + 2, fun tail htail => ?_⟩
        rw [List.cons_append, List.cons_append, hstep tail htail, h' tail htail, Option.map_map]
        rfl
termination_by cs => cs.length

/-- A text in which no search finds a colon changes no answer in front of it. -/
theorem answer?_append_of_run_eq_none {tail : List Char} (htail : Unseen tail.head?)
    (hnone : ∀ s : Search, s.run tail = none) (cs : List Char) :
    answer? (cs ++ tail) = answer? cs := by
  rcases Search.start.run_append cs with heq | ⟨hcs, s', n, happend⟩
  · exact heq tail htail
  · rw [answer?, answer?, happend tail htail, hcs, hnone s', Option.map_none]

/-! ### Other line breaks, and more behind -/

/-- Any search that finds a colon in the first text finds one in the second. -/
def Prolongs (xs ys : List Char) : Prop := ∀ s : Search, (s.run xs).isSome → (s.run ys).isSome

theorem prolongs_nil (ys : List Char) : Prolongs [] ys := fun _ h => by cases h

/-- A closing brace ends the expression or a bracket, so the search finds what it
finds behind it. -/
theorem Search.run_closeBrace {rest : List Char} (h : ∀ s : Search, s.run rest = none)
    (s : Search) : s.run ('\x7d' :: rest) = none := by
  rw [run_cons, step]
  by_cases hdepth : s.depth = 0
  · simp [hdepth, Move.find]
  · simp [hdepth, Move.find, h]

/-- No search finds anything in a single closing brace. -/
theorem prolongs_closeBrace (ys : List Char) : Prolongs ['\x7d'] ys := fun s h => by
  rw [s.run_closeBrace Search.run_nil] at h
  cases h

theorem Prolongs.append {xs ys : List Char} (h : Prolongs xs ys) (hxs : Unseen xs.head?)
    (hys : Unseen ys.head?) (zs : List Char) : Prolongs (zs ++ xs) (zs ++ ys) := by
  intro s hs
  rcases s.run_append zs with heq | ⟨-, s', n, heq⟩
  · rwa [heq ys hys, ← heq xs hxs]
  · rw [heq xs hxs, Option.isSome_map] at hs
    rw [heq ys hys, Option.isSome_map]
    exact h s' hs

/-- A blank is passed over. -/
theorem Search.run_of_isBlank {c : Char} (h : Text.isBlank c = true) (s : Search)
    (rest : List Char) : s.run (c :: rest) = (({ s with before := c }).run rest).map (· + 1) := by
  have hne : ∀ d, Text.isBlank d = false → c ≠ d := fun d => ne_of_isBlank h
  have hpass : s.step c rest.head? = .pass (s.pass c) := by
    simp [step, hne ':' (by decide), hne '(' (by decide), hne '[' (by decide), hne ')' (by decide),
      hne ']' (by decide), hne '\x7b' (by decide), hne '\x7d' (by decide), hne ';' (by decide),
      hne ',' (by decide), hne '?' (by decide)]
  rw [run_cons, hpass, pass, if_pos h, Move.find]

theorem Search.run_of_isLineBreak {c : Char} (h : Text.isLineBreak c = true) (s : Search)
    (rest : List Char) : s.run (c :: rest) = (({ s with before := c }).run rest).map (· + 1) :=
  s.run_of_isBlank (isBlank_of_isLineBreak h) rest

/-- Which blank has just been passed does not matter. -/
theorem Search.run_before {b b' : Char} (hb : Text.isBlank b = true) (hb' : Text.isBlank b' = true)
    (s : Search) (rest : List Char) :
    ({ s with before := b }).run rest = ({ s with before := b' }).run rest := by
  cases rest with
  | nil => rfl
  | cons c rest =>
    rw [run_cons, run_cons]
    simp only [step, pass, standsAlone_of_isBlank hb, standsAlone_of_isBlank hb']

/-- Blanks are passed over, however many they are. -/
theorem Search.isSome_run_blanks {blanks : List Char} (hne : blanks ≠ [])
    (hblanks : ∀ c ∈ blanks, Text.isBlank c = true) (s : Search) (ys : List Char) :
    (s.run (blanks ++ ys)).isSome = (({ s with before := '\n' }).run ys).isSome := by
  induction blanks generalizing s with
  | nil => exact absurd rfl hne
  | cons c blanks ih =>
    have hc := hblanks c List.mem_cons_self
    rw [List.cons_append, run_of_isBlank hc, Option.isSome_map]
    cases blanks with
    | nil => exact congrArg Option.isSome (run_before hc (by decide) s ys)
    | cons d blanks => exact ih (by simp) (fun x hx => hblanks x (List.mem_cons_of_mem c hx)) _

theorem Search.isSome_run_breaks {ending : List Char} (hne : ending ≠ [])
    (hbreaks : ∀ c ∈ ending, Text.isLineBreak c = true) (s : Search) (ys : List Char) :
    (s.run (ending ++ ys)).isSome = (({ s with before := '\n' }).run ys).isSome :=
  s.isSome_run_blanks hne (fun c hc => isBlank_of_isLineBreak (hbreaks c hc)) ys

/-- A line feed may be another line break. -/
theorem Prolongs.lineBreak {xs ys ending : List Char} (h : Prolongs xs ys) (hne : ending ≠ [])
    (hbreaks : ∀ c ∈ ending, Text.isLineBreak c = true) : Prolongs ('\n' :: xs) (ending ++ ys) := by
  intro s hs
  rw [Search.run_of_isLineBreak (by decide), Option.isSome_map] at hs
  rw [Search.isSome_run_breaks hne hbreaks]
  exact h _ hs

/-! ### Positions -/

theorem le_of_mem_positionsFrom {position : Nat} :
    ∀ {cs : List Char} {before : Option Char} {index : Nat},
      position ∈ positionsFrom before index cs → index ≤ position
  | [], before, index, h => by simp [positionsFrom] at h
  | c :: rest, before, index, h => by
    rw [positionsFrom] at h
    split at h
    · rcases List.mem_cons.mp h with rfl | h
      · exact Nat.le_refl _
      · exact Nat.le_of_succ_le (le_of_mem_positionsFrom h)
    · exact Nat.le_of_succ_le (le_of_mem_positionsFrom h)

theorem mem_positionsFrom_iff (ys : List Char) :
    ∀ (xs : List Char) (before : Option Char) (index : Nat),
      index + xs.length ∈ positionsFrom before index (xs ++ '?' :: ys) ↔
        standsAlone (xs.getLast?.or before) ys.head? = true ∧ (answer? ys).isSome = true
  | [], before, index => by
    have hlater : index ∉ positionsFrom (some '?') (index + 1) ys := fun h =>
      absurd (le_of_mem_positionsFrom h) (by omega)
    rw [List.nil_append, positionsFrom]
    by_cases h : standsAlone before ys.head? = true ∧ (answer? ys).isSome = true
    · simp [h]
    · rw [if_neg (by simpa using h)]
      simpa [hlater] using h
  | c :: xs, before, index => by
    have ih := mem_positionsFrom_iff ys xs (some c) (index + 1)
    rw [List.cons_append, positionsFrom, List.length_cons, Text.getLast?_cons_or, ← ih,
      show index + (xs.length + 1) = index + 1 + xs.length by omega]
    split
    · rw [List.mem_cons]
      exact or_iff_right (by omega)
    · rfl

end Ternary

/-- What stands behind a line of a text is not looked at from inside the line. -/
theorem Text.Line.Chained.unseen {l : Line} {ls : List Line} (h : Chained (l :: ls)) :
    Ternary.Unseen (l.ending ++ text ls).head? := by
  obtain ⟨-, hending, hlast, -⟩ := h
  cases hl : l.ending with
  | nil => rw [hlast hl]; exact ⟨by simp, fun _ => rfl⟩
  | cons c ending =>
    exact Ternary.unseen_of_isLineBreak (hending c (hl ▸ List.mem_cons_self))

/-- A question mark is a conditional operator if it stands alone and is answered behind it. -/
theorem mem_ternaries_iff (xs ys : List Char) :
    xs.length ∈ ternaries (xs ++ '?' :: ys) ↔
      Ternary.standsAlone xs.getLast? ys.head? = true ∧ (Ternary.answer? ys).isSome = true := by
  have h := Ternary.mem_positionsFrom_iff ys xs none 0
  rwa [Nat.zero_add, Option.or_none] at h

end SourceMetrics
