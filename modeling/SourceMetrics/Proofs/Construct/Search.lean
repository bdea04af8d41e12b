import SourceMetrics.Proofs.Construct.Ternary

/-!
# The course of a search

A search that starts behind one question mark may pass another one, whose own search then reads the
same characters. The two never end at the same colon. If the second question mark stands in brackets
that the first search has open, then the first stays inside them for as long as the second search
goes on. If it stands in none, the first search waits for one colon more than the second, and apart
from that the two are in the same state from there on.

## Main definitions

* `Ternary.Search.Follows`, `Ternary.Search.Makes` — everything that a move can be
* `Ternary.Search.Reaches` — a search comes to a place in some state
* `Ternary.Search.await` — a search that waits for more colons

## Main results

* `Ternary.Search.Reaches.before_eq` — what a search takes for the character in front is that
  character
* `Ternary.Search.run_ne_of_depth_lt`, `Ternary.Search.run_await_ne` — a search inside more
  brackets, or one that waits for more colons, ends elsewhere
* `Ternary.answer?_ne_of_answer?` — no colon answers two question marks
-/

namespace SourceMetrics

namespace Ternary

/-! ### What a move can be -/

/-- An opening bracket. -/
def opens (c : Char) : Bool := c == '(' || c == '[' || c == '\x7b'

/-- A closing bracket. -/
def closes (c : Char) : Bool := c == ')' || c == ']' || c == '\x7d'

theorem opens_iff {c : Char} : opens c = true ↔ c = '(' ∨ c = '[' ∨ c = '\x7b' := by
  simp [opens, or_assoc]

theorem closes_iff {c : Char} : closes c = true ↔ c = ')' ∨ c = ']' ∨ c = '\x7d' := by
  simp [closes, or_assoc]

/-- The number of open brackets behind a character. -/
def depthAfter (depth : Nat) (c : Char) : Nat :=
  if opens c then depth + 1 else if closes c then depth - 1 else depth

@[simp] theorem depthAfter_colon (depth : Nat) : depthAfter depth ':' = depth := rfl

/-- Of two searches that pass a character, the one inside more brackets stays inside more. -/
theorem depthAfter_lt_depthAfter {c : Char} {d d' : Nat} (hlt : d < d')
    (hinside : closes c = true → 0 < d) : depthAfter d c < depthAfter d' c := by
  rw [depthAfter, depthAfter]
  split
  · omega
  · split
    next hclose =>
      have := hinside hclose
      omega
    next => exact hlt

namespace Search

@[simp] theorem before_pass (s : Search) (c : Char) : (s.pass c).before = c := by
  rw [pass]
  split <;> rfl

@[simp] theorem depth_pass (s : Search) (c : Char) : (s.pass c).depth = s.depth := by
  rw [pass]
  split <;> rfl

@[simp] theorem waiting_pass (s : Search) (c : Char) : (s.pass c).waiting = s.waiting := by
  rw [pass]
  split <;> rfl

/-- The search `next` is `s` behind the character `c`. -/
structure Follows (s : Search) (c : Char) (next : Search) : Prop where
  before : next.before = c
  depth : next.depth = depthAfter s.depth c
  waiting : 0 < s.waiting → 0 < next.waiting
  /-- A bracket that closes more than was opened is not passed. -/
  inside : closes c = true → 0 < s.depth

/-- The moves that a search can make at a character. -/
inductive Makes (s : Search) (c : Char) (next : Option Char) : Move → Prop
  | stop : Makes s c next .stop
  | answer (colon : c = ':') (single : next ≠ some ':') (level : s.depth = 0)
      (last : s.waiting ≤ 1) : Makes s c next .answer
  | pass {s' : Search} (follows : Follows s c s') : Makes s c next (.pass s')
  | skip (colon : c = ':') (double : next = some ':') (level : s.depth = 0) :
      Makes s c next (.skip { s with before := ':', last := ':', arrow := false })

/-- Inside brackets every character is passed. -/
theorem step_of_depth_ne_zero {s : Search} (h : s.depth ≠ 0) (c : Char) (next : Option Char) :
    s.step c next = .pass ({ s with depth := depthAfter s.depth c }.pass c) := by
  by_cases hopens : opens c = true
  · rw [depthAfter, if_pos hopens]
    rcases opens_iff.mp hopens with rfl | rfl | rfl <;> simp [step, h]
  · by_cases hcloses : closes c = true
    · rw [depthAfter, if_neg hopens, if_pos hcloses]
      rcases closes_iff.mp hcloses with rfl | rfl | rfl <;> simp [step, h]
    · rw [depthAfter, if_neg hopens, if_neg hcloses]
      rw [opens_iff, not_or, not_or] at hopens
      rw [closes_iff, not_or, not_or] at hcloses
      simp [step, h, hopens, hcloses]

/-- A single colon is the answer or the colon of another question mark. -/
theorem step_colon {s : Search} {next : Option Char} (hdepth : s.depth = 0)
    (hnext : next ≠ some ':') :
    s.step ':' next =
      if s.waiting ≤ 1 then .answer else .pass ({ s with waiting := s.waiting - 1 }.pass ':') := by
  simp [step, hdepth, hnext]

theorem follows_pass (s : Search) {c : Char} (hopens : opens c = false) (hcloses : closes c = false)
    {waiting : Nat} (h : 0 < s.waiting → 0 < waiting) :
    Follows s c ({ s with waiting }.pass c) where
  before := before_pass _ c
  depth := by simp [depthAfter, hopens, hcloses]
  waiting := by simpa using h
  inside h := by simp [hcloses] at h

theorem makes_colon {s : Search} (hdepth : s.depth = 0) (next : Option Char) :
    Makes s ':' next (s.step ':' next) := by
  by_cases hnext : next = some ':'
  · have hskip : s.step ':' next = .skip { s with before := ':', last := ':', arrow := false } :=
      if_pos ⟨rfl, hnext, hdepth⟩
    rw [hskip]
    exact .skip rfl hnext hdepth
  · rw [step_colon hdepth hnext]
    split
    next hlast => exact .answer rfl hnext hdepth hlast
    next hmore => exact .pass (s.follows_pass rfl rfl fun _ => by omega)

theorem makes_question {s : Search} (hdepth : s.depth = 0) (next : Option Char) :
    Makes s '?' next (s.step '?' next) := by
  have hstep : s.step '?' next = if standsAlone (some s.before) next then
      .pass ({ s with waiting := s.waiting + 1 }.pass '?') else .pass (s.pass '?') := by
    simp [step, hdepth]
  rw [hstep]
  split
  · exact .pass (s.follows_pass rfl rfl fun _ => Nat.succ_pos _)
  · exact .pass (s.follows_pass rfl rfl id)

/-- **Everything that a move can be.** -/
theorem makes_step (s : Search) (c : Char) (next : Option Char) :
    Makes s c next (s.step c next) := by
  by_cases hdepth : s.depth = 0
  · by_cases hcolon : c = ':'
    · subst hcolon
      exact makes_colon hdepth next
    by_cases hquestion : c = '?'
    · subst hquestion
      exact makes_question hdepth next
    by_cases hopens : opens c = true
    · have hpass : Makes s c next (.pass ({ s with depth := s.depth + 1 }.pass c)) := by
        refine .pass ⟨before_pass _ c, ?_, by simp, fun h => ?_⟩
        · simp [depthAfter, hopens]
        · rcases opens_iff.mp hopens with rfl | rfl | rfl <;> exact absurd h (by decide)
      by_cases hbrace : c = '\x7b'
      · rw [step, if_neg (by simp [hcolon]), if_neg (by simp [hbrace]), if_pos hbrace]
        split
        · exact .stop
        · exact hpass
      · have hround : c = '(' ∨ c = '[' := by simpa [opens_iff, hbrace] using hopens
        rw [step, if_neg (by simp [hcolon]), if_pos (by simpa using hround)]
        exact hpass
    by_cases hcloses : closes c = true
    · have hstop : s.step c next = .stop := by
        rcases closes_iff.mp hcloses with rfl | rfl | rfl <;> simp [step, hdepth]
      rw [hstop]
      exact .stop
    by_cases hend : c = ';' ∨ c = ','
    · have hstop : s.step c next = .stop := by rcases hend with rfl | rfl <;> simp [step, hdepth]
      rw [hstop]
      exact .stop
    · have hopens' := hopens
      have hcloses' := hcloses
      rw [opens_iff, not_or, not_or] at hopens'
      rw [closes_iff, not_or, not_or] at hcloses'
      rw [not_or] at hend
      have hpass : s.step c next = .pass (s.pass c) := by
        simp [step, hdepth, hcolon, hquestion, hopens', hcloses', hend]
      rw [hpass]
      exact .pass (s.follows_pass (by simpa using hopens) (by simpa using hcloses) id)
  · rw [step_of_depth_ne_zero hdepth]
    exact .pass ⟨before_pass _ c, depth_pass _ c, by simp, fun _ => Nat.pos_of_ne_zero hdepth⟩

variable {s s' : Search} {c : Char} {next : Option Char}

theorem follows_of_step_eq_pass (h : s.step c next = .pass s') : Follows s c s' := by
  have hmakes := s.makes_step c next
  rw [h] at hmakes
  cases hmakes with
  | pass follows => exact follows

theorem of_step_eq_skip (h : s.step c next = .skip s') : c = ':' ∧ next = some ':' ∧ s.depth = 0 ∧
    s' = { s with before := ':', last := ':', arrow := false } := by
  have hmakes := s.makes_step c next
  rw [h] at hmakes
  cases hmakes with
  | skip colon double level => exact ⟨colon, double, level, rfl⟩

theorem of_step_eq_answer (h : s.step c next = .answer) :
    c = ':' ∧ next ≠ some ':' ∧ s.depth = 0 ∧ s.waiting ≤ 1 := by
  have hmakes := s.makes_step c next
  rw [h] at hmakes
  cases hmakes with
  | answer colon single level last => exact ⟨colon, single, level, last⟩

/-! ### Where a search comes -/

/-- A search in front of the first text comes to the second in the state `s'`. -/
inductive Reaches : Search → List Char → Search → List Char → Prop
  | here (s : Search) (cs : List Char) : Reaches s cs s cs
  | pass {s next s' : Search} {c : Char} {rest cs : List Char}
      (move : s.step c rest.head? = .pass next) (more : Reaches next rest s' cs) :
      Reaches s (c :: rest) s' cs
  | skip {s next s' : Search} {c d : Char} {rest cs : List Char}
      (move : s.step c (some d) = .skip next) (more : Reaches next rest s' cs) :
      Reaches s (c :: d :: rest) s' cs

/-- **A search knows the character in front of it.** -/
theorem Reaches.before_eq {cs cs' : List Char} (h : Reaches s cs s' cs') :
    ∃ passed, cs = passed ++ cs' ∧ some s'.before = passed.getLast?.or (some s.before) := by
  induction h with
  | here s cs => exact ⟨[], rfl, rfl⟩
  | @pass s next s' c rest cs move more ih =>
    obtain ⟨passed, rfl, hbefore⟩ := ih
    refine ⟨c :: passed, rfl, ?_⟩
    rw [hbefore, (follows_of_step_eq_pass move).before, Text.getLast?_cons_or]
  | @skip s next s' c d rest cs move more ih =>
    obtain ⟨passed, rfl, hbefore⟩ := ih
    obtain ⟨-, hdouble, -, rfl⟩ := of_step_eq_skip move
    obtain rfl : d = ':' := by simpa using hdouble
    refine ⟨c :: ':' :: passed, rfl, ?_⟩
    rw [hbefore, Text.getLast?_cons_or, Text.getLast?_cons_or]

theorem Reaches.waiting_pos {cs cs' : List Char} (h : Reaches s cs s' cs') (hs : 0 < s.waiting) :
    0 < s'.waiting := by
  induction h with
  | here s cs => exact hs
  | pass move more ih => exact ih ((follows_of_step_eq_pass move).waiting hs)
  | skip move more ih =>
    obtain ⟨-, -, -, rfl⟩ := of_step_eq_skip move
    exact ih hs

/-- A search that ends behind a question mark comes to it: no move goes past a question mark without
stopping there. -/
theorem exists_reaches_of_run (ys : List Char) :
    ∀ (xs : List Char) (s : Search) (n : Nat), s.run (xs ++ '?' :: ys) = some n → xs.length ≤ n →
      ∃ s', Reaches s (xs ++ '?' :: ys) s' ('?' :: ys) ∧ s'.run ('?' :: ys) = some (n - xs.length)
  | [], s, n, h, _ => ⟨s, .here s _, h⟩
  | c :: xs, s, n, h, hn => by
    rw [List.cons_append, run_cons] at h
    rw [List.length_cons] at hn ⊢
    cases hmove : s.step c (xs ++ '?' :: ys).head? with
    | stop =>
      rw [hmove] at h
      cases h
    | answer =>
      rw [hmove] at h
      cases h
      omega
    | pass next =>
      rw [hmove] at h
      obtain ⟨m, hm, rfl⟩ := Option.map_eq_some_iff.mp h
      obtain ⟨s', hreaches, hrun⟩ := exists_reaches_of_run ys xs next m hm (by omega)
      exact ⟨s', .pass hmove hreaches, by rw [hrun]; congr 1; omega⟩
    | skip next =>
      obtain ⟨-, hdouble, -, -⟩ := of_step_eq_skip hmove
      cases xs with
      | nil => exact absurd hdouble (by simp)
      | cons d xs =>
        rw [hmove] at h
        obtain ⟨m, hm, rfl⟩ := Option.map_eq_some_iff.mp h
        rw [List.length_cons] at hn ⊢
        obtain ⟨s', hreaches, hrun⟩ := exists_reaches_of_run ys xs next m hm (by omega)
        exact ⟨s', .skip hmove hreaches, by rw [hrun]; congr 1; omega⟩

/-! ### Two searches over the same characters -/

/-- What ends at different distances behind a move ends at different distances. -/
theorem map_add_ne {found found' : Option Nat} {k n : Nat} (h : found.map (· + k) = some n)
    (hne : ∀ m, found = some m → found' ≠ some m) : found'.map (· + k) ≠ some n := by
  obtain ⟨m, hm, rfl⟩ := Option.map_eq_some_iff.mp h
  intro heq
  obtain ⟨m', hm', hsum⟩ := Option.map_eq_some_iff.mp heq
  obtain rfl : m' = m := Nat.add_right_cancel hsum
  exact hne m' hm hm'

theorem run_of_depth_ne_zero (h : s.depth ≠ 0) (c : Char) (rest : List Char) :
    s.run (c :: rest) =
      (({ s with depth := depthAfter s.depth c }.pass c).run rest).map (· + 1) := by
  rw [run_cons, step_of_depth_ne_zero h, Move.find]

/-- A search inside more brackets does not end where the other one does. -/
theorem run_ne_of_depth_lt :
    ∀ (cs : List Char) {inner outer : Search} {n : Nat}, inner.depth < outer.depth →
      inner.run cs = some n → outer.run cs ≠ some n
  | [], inner, outer, n, _, h => by cases h
  | c :: rest, inner, outer, n, hlt, h => by
    have houter : outer.depth ≠ 0 := by omega
    rw [run_cons] at h
    rw [run_of_depth_ne_zero houter]
    cases hmove : inner.step c rest.head? with
    | stop =>
      rw [hmove] at h
      cases h
    | answer =>
      rw [hmove] at h
      cases h
      simp
    | pass next =>
      have hfollows := follows_of_step_eq_pass hmove
      rw [hmove] at h
      refine map_add_ne h fun m hm => run_ne_of_depth_lt rest ?_ hm
      rw [depth_pass, hfollows.depth]
      exact depthAfter_lt_depthAfter hlt hfollows.inside
    | skip next =>
      obtain ⟨rfl, hdouble, -, rfl⟩ := of_step_eq_skip hmove
      obtain ⟨more, rfl⟩ := List.head?_eq_some_iff.mp hdouble
      rw [hmove] at h
      -- the outer search passes the two colons one by one
      rw [run_of_depth_ne_zero (by simpa using houter), Option.map_map]
      exact map_add_ne (k := 2) h fun m hm => run_ne_of_depth_lt more (by simpa using hlt) hm
termination_by cs => cs.length

/-- The search that waits for `k` more colons. -/
def await (k : Nat) (s : Search) : Search := { s with waiting := s.waiting + k }

@[simp] theorem waiting_await (k : Nat) (s : Search) : (s.await k).waiting = s.waiting + k := rfl

theorem await_pass (k : Nat) (s : Search) (c : Char) : (s.pass c).await k = (s.await k).pass c := by
  rw [pass, pass]
  split <;> rfl

end Search

/-- The same move of a search that waits for `k` more colons. -/
def Move.await (k : Nat) : Move → Move
  | stop => stop
  | answer => answer
  | pass next => pass (next.await k)
  | skip next => skip (next.await k)

namespace Search

variable {s : Search} {c : Char} {next : Option Char}

/-- Only at a single colon does it matter how many are waited for. -/
theorem step_await (k : Nat) (h : ¬(c = ':' ∧ s.depth = 0 ∧ next ≠ some ':')) :
    (s.await k).step c next = (s.step c next).await k := by
  by_cases hdepth : s.depth = 0
  · by_cases hcolon : c = ':'
    · obtain rfl : next = some ':' := by simpa [hcolon, hdepth] using h
      rw [step, step, if_pos ⟨hcolon, rfl, hdepth⟩, if_pos ⟨hcolon, rfl, hdepth⟩]
      rfl
    · simp only [step, hcolon, false_and, if_false, apply_ite (Move.await k)]
      simp only [Move.await, await_pass]
      simp only [await, Nat.add_right_comm]
      rfl
  · rw [step_of_depth_ne_zero hdepth, step_of_depth_ne_zero (s := s.await k) hdepth, Move.await,
      await_pass]
    rfl

/-- At a single colon a search that waits for more goes on, whatever the other one does. -/
theorem step_await_colon (k : Nat) (hdepth : s.depth = 0) (hnext : next ≠ some ':')
    (hs : 0 < s.waiting) :
    (s.await (k + 1)).step ':' next =
      .pass ((({ s with waiting := s.waiting - 1 }).pass ':').await (k + 1)) := by
  have hmore : ¬(s.await (k + 1)).waiting ≤ 1 := by
    rw [waiting_await]
    omega
  have hwaiting : (s.await (k + 1)).waiting - 1 = s.waiting - 1 + (k + 1) := by
    rw [waiting_await]
    omega
  rw [step_colon (s := s.await (k + 1)) hdepth hnext, if_neg hmore, hwaiting, await_pass]
  rfl

/-- A search that waits for more colons does not end where the other one does. -/
theorem run_await_ne (k : Nat) :
    ∀ (cs : List Char) {s : Search} {n : Nat}, 0 < s.waiting → s.run cs = some n →
      (s.await (k + 1)).run cs ≠ some n
  | [], s, n, _, h => by cases h
  | c :: rest, s, n, hs, h => by
    rw [run_cons] at h
    rw [run_cons]
    by_cases hcolon : c = ':' ∧ s.depth = 0 ∧ rest.head? ≠ some ':'
    · obtain ⟨rfl, hdepth, hnext⟩ := hcolon
      rw [step_await_colon k hdepth hnext hs, Move.find]
      rw [step_colon hdepth hnext] at h
      split at h
      · cases h
        simp
      · next hmore =>
        refine map_add_ne h fun m hm => run_await_ne k rest ?_ hm
        rw [waiting_pass]
        show 0 < s.waiting - 1
        omega
    · rw [step_await (k + 1) hcolon]
      cases hmove : s.step c rest.head? with
      | stop =>
        rw [hmove] at h
        cases h
      | answer =>
        obtain ⟨rfl, hnext, hdepth, -⟩ := of_step_eq_answer hmove
        exact absurd ⟨rfl, hdepth, hnext⟩ hcolon
      | pass next =>
        have hwaiting := (follows_of_step_eq_pass hmove).waiting hs
        rw [hmove] at h
        exact map_add_ne h fun m hm => run_await_ne k rest hwaiting hm
      | skip next =>
        obtain ⟨-, hdouble, -, rfl⟩ := of_step_eq_skip hmove
        obtain ⟨more, rfl⟩ := List.head?_eq_some_iff.mp hdouble
        rw [hmove] at h
        exact map_add_ne h fun m hm => run_await_ne k more hs hm
termination_by cs => cs.length

end Search

/-! ### Two question marks -/

/-- What a search does at a question mark that stands alone: inside brackets it passes, and
otherwise it waits for the colons that the search from there waits for, and for its own. -/
theorem Search.step_question {s : Search} {next : Option Char}
    (hstands : standsAlone (some s.before) next = true) :
    ∃ s', s.step '?' next = .pass s' ∧ (0 < s'.depth ∨ s' = start.await s.waiting) := by
  by_cases hdepth : s.depth = 0
  · refine ⟨{ s with waiting := s.waiting + 1 }.pass '?', by simp [step, hdepth, hstands], .inr ?_⟩
    have hblank : Text.isBlank '?' = false := by decide
    simp [pass, start, await, hblank, hdepth, Nat.add_comm]
  · refine ⟨_, step_of_depth_ne_zero hdepth '?' next, .inl ?_⟩
    exact Nat.pos_of_ne_zero hdepth

/-- **No colon answers two question marks.** The colon of a question mark that stands alone is not
the colon of an earlier one. -/
theorem answer?_ne_of_answer? {xs ys : List Char} {n : Nat}
    (hstands : standsAlone (xs.getLast?.or (some '?')) ys.head? = true) (h : answer? ys = some n) :
    answer? (xs ++ '?' :: ys) ≠ some (xs.length + 1 + n) := by
  intro heq
  obtain ⟨s, hreaches, hrun⟩ := Search.exists_reaches_of_run ys xs .start _ heq (by omega)
  obtain ⟨passed, hpassed, hbefore⟩ := hreaches.before_eq
  obtain rfl : xs = passed := List.append_cancel_right hpassed
  obtain ⟨k, hk⟩ : ∃ k, s.waiting = k + 1 :=
    ⟨s.waiting - 1, by have := hreaches.waiting_pos Nat.one_pos; omega⟩
  have hstart : some Search.start.before = some '?' := rfl
  rw [hstart] at hbefore
  rw [← hbefore] at hstands
  obtain ⟨s', hstep, hs'⟩ := Search.step_question hstands
  rw [Search.run_cons, hstep, show xs.length + 1 + n - xs.length = n + 1 by omega] at hrun
  obtain ⟨m, hm, hsucc⟩ := Option.map_eq_some_iff.mp hrun
  obtain rfl : m = n := by omega
  rcases hs' with hdepth | rfl
  · exact Search.run_ne_of_depth_lt ys hdepth h hm
  · rw [hk] at hm
    exact Search.run_await_ne k ys Nat.one_pos h hm

end Ternary

end SourceMetrics
