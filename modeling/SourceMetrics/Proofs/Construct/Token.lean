import Mathlib.Data.List.TakeWhile
import SourceMetrics.Construct.Token
import SourceMetrics.Proofs.Text.Line

/-!
# What tokens are made of

A token is found by looking at the text that follows, so a text does not in general have the tokens
of its pieces. Braces are the exception that everything else relies on. No token but a brace
contains one, and no token looks past one: a brace cuts the tokens of a line in two.

## Main definitions

* `Token.Spelled` — the texts that a token can have
* `Token.Scanned` — the tokens of a text, one by one
* `Token.brace?` — the brace that a token is

## Main results

* `Token.spelled_of_at?` — what a token that is found looks like
* `Token.scanned_scan` — the scan of a line reads it token by token
* `Token.scanFrom_append` — a text that no token looks at is cut off
* `Token.scanFrom_append_brace` — a brace cuts the tokens of a line
* `Token.filterMap_brace?_scan` — the brace tokens are the braces
* `Token.exists_of_mem_scan_question` — a question mark token stands alone
-/

namespace SourceMetrics

/-- An opening or a closing brace. -/
def isBrace (c : Char) : Bool := c == '\x7b' || c == '\x7d'

theorem isBrace_iff {c : Char} : isBrace c = true ↔ c = '\x7b' ∨ c = '\x7d' := by
  simp [isBrace]

theorem isWord_of_isBrace {c : Char} (h : isBrace c = true) : Text.isWord c = false := by
  rcases isBrace_iff.mp h with rfl | rfl <;> decide

theorem isBlank_of_isBrace {c : Char} (h : isBrace c = true) : Text.isBlank c = false := by
  rcases isBrace_iff.mp h with rfl | rfl <;> decide

/-- A code point in a table lies in one of its runs. -/
theorem exists_run_of_holds {table : Text.RangeTable} {n : Nat} (h : table.holds n = true) :
    ∃ run ∈ table, run.1 ≤ n ∧ n ≤ run.2 := by
  induction table with
  | nil => cases h
  | cons run rest ih =>
    rw [Text.RangeTable.holds] at h
    split_ifs at h with hlt hle
    · exact ⟨run, List.mem_cons_self, by omega, hle⟩
    · obtain ⟨found, hfound, hn⟩ := ih h
      exact ⟨found, List.mem_cons_of_mem run hfound, hn⟩

/-- No blank stands in a word. -/
theorem isWord_of_isBlank {c : Char} (h : Text.isBlank c = true) : Text.isWord c = false := by
  have hunderscore : c ≠ '_' := by
    rintro rfl
    exact absurd h (by decide)
  have hdisjoint : ∀ blank ∈ Text.blankRanges, ∀ letter ∈ Text.alphanumericRanges,
      blank.2 < letter.1 ∨ letter.2 < blank.1 := by decide +kernel
  have hletter : Text.alphanumericRanges.holds c.toNat = false := by
    by_contra hholds
    obtain ⟨blank, hblank, hb⟩ := exists_run_of_holds h
    obtain ⟨letter, hmem, hl⟩ := exists_run_of_holds (by simpa using hholds)
    have := hdisjoint blank hblank letter hmem
    omega
  simp [Text.isWord, Text.isAlphanumeric, hunderscore, hletter]

namespace Token

/-! ### The token at a place -/

/-- The token found at a character, with the pairs of `&` and `|` as conditions on the next one. -/
theorem at?_cons (before : Option Char) (c : Char) (rest : List Char) :
    at? before (c :: rest) =
      if c = '&' ∧ rest.head? = some '&' then some (.logical .logicalAnd, 2)
      else if c = '|' ∧ rest.head? = some '|' then some (.logical .logicalOr, 2)
      else if c = '?' then
        if Ternary.standsAlone before rest.head? then some (.question, 1) else none
      else if c = '(' then some (.openParen, 1)
      else if c = ')' then some (.closeParen, 1)
      else if c = ';' then some (.semicolon, 1)
      else if c = '\x7b' then some (.openBrace, 1)
      else if c = '\x7d' then some (.closeBrace, 1)
      else if Text.isWord c && startsWord before then word? before (c :: rest)
      else none := by
  by_cases hand : c = '&' ∧ rest.head? = some '&'
  · obtain ⟨rfl, hhead⟩ := hand
    obtain ⟨tail, rfl⟩ := List.head?_eq_some_iff.mp hhead
    rfl
  · by_cases hor : c = '|' ∧ rest.head? = some '|'
    · obtain ⟨rfl, hhead⟩ := hor
      obtain ⟨tail, rfl⟩ := List.head?_eq_some_iff.mp hhead
      rfl
    · rw [if_neg hand, if_neg hor, at?]
      · rintro tail rfl rfl
        exact hand ⟨rfl, rfl⟩
      · rintro tail rfl rfl
        exact hor ⟨rfl, rfl⟩

/-- A brace is a token wherever it stands. -/
theorem at?_openBrace (before : Option Char) (rest : List Char) :
    at? before ('\x7b' :: rest) = some (.openBrace, 1) := by
  simp [at?_cons]

theorem at?_closeBrace (before : Option Char) (rest : List Char) :
    at? before ('\x7d' :: rest) = some (.closeBrace, 1) := by
  simp [at?_cons]

theorem at?_of_isBlank {c : Char} (h : Text.isBlank c = true) (before : Option Char)
    (rest : List Char) : at? before (c :: rest) = none := by
  have hne : ∀ {d : Char}, Text.isBlank d = false → c ≠ d := by
    rintro d hd rfl
    rw [h] at hd
    cases hd
  rw [at?_cons, if_neg fun hc => hne (by decide) hc.1, if_neg fun hc => hne (by decide) hc.1,
    if_neg (hne (by decide)), if_neg (hne (by decide)), if_neg (hne (by decide)),
    if_neg (hne (by decide)), if_neg (hne (by decide)), if_neg (hne (by decide)),
    isWord_of_isBlank h]
  simp

/-- Blanks hold no token. -/
theorem scanFrom_of_allBlank {cs : List Char} (h : ∀ c ∈ cs, Text.isBlank c = true) (column : Nat)
    (before : Option Char) : scanFrom 0 column before cs = [] := by
  induction cs generalizing column before with
  | nil => rfl
  | cons c rest ih =>
    rw [scanFrom, at?_of_isBlank (h c List.mem_cons_self)]
    exact ih (fun d hd => h d (List.mem_cons_of_mem c hd)) _ _

/-! ### The text of a token -/

/-- A character that can stand in a token made of words: in the words, between them, or
at the end. -/
def isWordPart (c : Char) : Bool := Text.isWord c || Text.isBlank c || c == '$' || c == ';'

/-- The texts that a token can have. -/
def Spelled : Token → List Char → Prop
  | .keyword _, w | .jump, w => ∀ c ∈ w, isWordPart c = true
  | .logical _, w => w = ['&', '&'] ∨ w = ['|', '|']
  | .question, w => w = ['?']
  | .openParen, w => w = ['(']
  | .closeParen, w => w = [')']
  | .semicolon, w => w = [';']
  | .openBrace, w => w = ['\x7b']
  | .closeBrace, w => w = ['\x7d']

theorem isWordPart_of_isWord {c : Char} (h : Text.isWord c = true) : isWordPart c = true := by
  simp [isWordPart, h]

theorem isWordPart_of_isBlank {c : Char} (h : Text.isBlank c = true) : isWordPart c = true := by
  simp [isWordPart, h]

theorem isWordPart_of_isLabelChar {c : Char} (h : isLabelChar c = true) : isWordPart c = true := by
  simp only [isLabelChar, Bool.or_eq_true] at h
  rcases h with h | h <;> simp [isWordPart, h]

theorem takeWhile_append_drop (p : Char → Bool) (cs : List Char) :
    cs.takeWhile p ++ cs.drop (cs.takeWhile p).length = cs := by
  have htake := List.prefix_iff_eq_take.mp (List.takeWhile_prefix (l := cs) p)
  rw [htake, List.length_take, Nat.min_eq_left (List.takeWhile_prefix p).length_le,
    List.take_append_drop]

theorem spelled_of_elseIfLength? {rest : List Char} {n : Nat} (h : elseIfLength? rest = some n) :
    ∃ w more, rest = w ++ more ∧ w.length = n ∧ ∀ c ∈ w, isWordPart c = true := by
  simp only [elseIfLength?, Option.ite_none_right_eq_some, Option.some.injEq, Bool.and_eq_true,
    beq_iff_eq] at h
  obtain ⟨⟨-, hnext⟩, rfl⟩ := h
  have hblanks := takeWhile_append_drop Text.isBlank rest
  have hword := takeWhile_append_drop Text.isWord
    (rest.drop (rest.takeWhile Text.isBlank).length)
  rw [hnext] at hword
  refine ⟨rest.takeWhile Text.isBlank ++ ['i', 'f'],
    (rest.drop (rest.takeWhile Text.isBlank).length).drop 2, ?_, by simp, ?_⟩
  · rw [List.append_assoc]
    exact hblanks.symm.trans (congrArg _ hword.symm)
  · intro c hc
    rcases List.mem_append.mp hc with hc | hc
    · exact isWordPart_of_isBlank (List.mem_takeWhile_imp hc)
    · exact isWordPart_of_isWord (List.mem_takeWhile_imp (hnext ▸ hc))

theorem spelled_of_labelLength? {rest : List Char} {n : Nat} (h : labelLength? rest = some n) :
    ∃ w more, rest = w ++ more ∧ w.length = n ∧ ∀ c ∈ w, isWordPart c = true := by
  simp only [labelLength?, Option.ite_none_right_eq_some, Option.some.injEq, Bool.and_eq_true,
    beq_iff_eq] at h
  obtain ⟨⟨-, hsemicolon⟩, rfl⟩ := h
  have hblanks := takeWhile_append_drop Text.isBlank rest
  have hlabel := takeWhile_append_drop isLabelChar
    (rest.drop (rest.takeWhile Text.isBlank).length)
  rw [List.drop_drop] at hlabel
  have hgap := takeWhile_append_drop Text.isBlank
    (rest.drop ((rest.takeWhile Text.isBlank).length +
      ((rest.drop (rest.takeWhile Text.isBlank).length).takeWhile isLabelChar).length))
  rw [List.drop_drop] at hgap
  obtain ⟨more, hmore⟩ := List.head?_eq_some_iff.mp hsemicolon
  rw [hmore] at hgap
  refine ⟨rest.takeWhile Text.isBlank ++
    ((rest.drop (rest.takeWhile Text.isBlank).length).takeWhile isLabelChar ++
      ((rest.drop ((rest.takeWhile Text.isBlank).length +
        ((rest.drop (rest.takeWhile Text.isBlank).length).takeWhile isLabelChar).length)).takeWhile
          Text.isBlank ++ [';'])), more, ?_, ?_, ?_⟩
  · simp only [List.append_assoc, List.singleton_append]
    rw [hgap, hlabel, hblanks]
  · simp only [List.length_append, List.length_singleton]
    omega
  · intro c hc
    simp only [List.mem_append, List.mem_singleton] at hc
    rcases hc with hc | hc | hc | rfl
    · exact isWordPart_of_isBlank (List.mem_takeWhile_imp hc)
    · exact isWordPart_of_isLabelChar (List.mem_takeWhile_imp hc)
    · exact isWordPart_of_isBlank (List.mem_takeWhile_imp hc)
    · decide

theorem spelled_of_word? {before : Option Char} {cs : List Char} {t : Token} {n : Nat}
    (h : word? before cs = some (t, n)) :
    ∃ w more, cs = w ++ more ∧ w.length = n ∧ w ≠ [] ∧ Spelled t w := by
  have hcs := takeWhile_append_drop Text.isWord cs
  have hword : ∀ c ∈ cs.takeWhile Text.isWord, isWordPart c = true := fun c hc =>
    isWordPart_of_isWord (List.mem_takeWhile_imp hc)
  simp only [word?] at h
  split at h
  next kind hkind =>
    have hne : cs.takeWhile Text.isWord ≠ [] := by
      intro hnil
      have hnone : keywords.lookup [] = none := by decide
      rw [hnil, hnone] at hkind
      exact absurd hkind (by simp)
    rw [Option.ite_none_left_eq_some] at h
    obtain ⟨-, h⟩ := h
    split at h
    next length hlength =>
      obtain ⟨w, more, hrest, rfl, hw⟩ := spelled_of_elseIfLength? hlength
      cases h
      refine ⟨cs.takeWhile Text.isWord ++ w, more, ?_, by simp, by simp [hne], ?_⟩
      · rw [List.append_assoc, ← hrest, hcs]
      · exact fun c hc => (List.mem_append.mp hc).elim (hword c) (hw c)
    next =>
      cases h
      exact ⟨_, _, hcs.symm, rfl, hne, hword⟩
  next =>
    rw [Option.ite_none_right_eq_some] at h
    obtain ⟨hjump, h⟩ := h
    have hne : cs.takeWhile Text.isWord ≠ [] := by
      intro hnil
      rw [hnil] at hjump
      exact absurd hjump (by decide)
    obtain ⟨length, hlength, h⟩ := Option.map_eq_some_iff.mp h
    obtain ⟨w, more, hrest, rfl, hw⟩ := spelled_of_labelLength? hlength
    cases h
    refine ⟨cs.takeWhile Text.isWord ++ w, more, ?_, by simp, by simp [hne], ?_⟩
    · rw [List.append_assoc, ← hrest, hcs]
    · exact fun c hc => (List.mem_append.mp hc).elim (hword c) (hw c)

/-- A token that is found is spelled by the characters in front. -/
theorem spelled_of_at? {before : Option Char} {cs : List Char} {t : Token} {n : Nat}
    (h : at? before cs = some (t, n)) :
    ∃ w more, cs = w ++ more ∧ w.length = n ∧ w ≠ [] ∧ Spelled t w := by
  cases cs with
  | nil => simp [at?] at h
  | cons c rest =>
    have hsingle : ∀ t', Spelled t' [c] → some (t', 1) = some (t, n) →
        ∃ w more, c :: rest = w ++ more ∧ w.length = n ∧ w ≠ [] ∧ Spelled t w := by
      rintro t' hspelled ⟨⟩
      exact ⟨[c], rest, rfl, rfl, by simp, hspelled⟩
    rw [at?_cons] at h
    by_cases hand : c = '&' ∧ rest.head? = some '&'
    · obtain ⟨rfl, hhead⟩ := hand
      obtain ⟨more, rfl⟩ := List.head?_eq_some_iff.mp hhead
      cases h
      exact ⟨['&', '&'], more, rfl, rfl, by simp, .inl rfl⟩
    rw [if_neg hand] at h
    by_cases hor : c = '|' ∧ rest.head? = some '|'
    · obtain ⟨rfl, hhead⟩ := hor
      obtain ⟨more, rfl⟩ := List.head?_eq_some_iff.mp hhead
      cases h
      exact ⟨['|', '|'], more, rfl, rfl, by simp, .inr rfl⟩
    rw [if_neg hor] at h
    by_cases hquestion : c = '?'
    · rw [if_pos hquestion] at h
      exact hsingle .question (by rw [hquestion]; rfl) (Option.ite_none_right_eq_some.mp h).2
    rw [if_neg hquestion] at h
    by_cases hopen : c = '('
    · exact hsingle .openParen (by rw [hopen]; rfl) (by rwa [if_pos hopen] at h)
    rw [if_neg hopen] at h
    by_cases hclose : c = ')'
    · exact hsingle .closeParen (by rw [hclose]; rfl) (by rwa [if_pos hclose] at h)
    rw [if_neg hclose] at h
    by_cases hsemicolon : c = ';'
    · exact hsingle .semicolon (by rw [hsemicolon]; rfl) (by rwa [if_pos hsemicolon] at h)
    rw [if_neg hsemicolon] at h
    by_cases hopenBrace : c = '\x7b'
    · exact hsingle .openBrace (by rw [hopenBrace]; rfl) (by rwa [if_pos hopenBrace] at h)
    rw [if_neg hopenBrace] at h
    by_cases hcloseBrace : c = '\x7d'
    · exact hsingle .closeBrace (by rw [hcloseBrace]; rfl) (by rwa [if_pos hcloseBrace] at h)
    rw [if_neg hcloseBrace] at h
    exact spelled_of_word? (Option.ite_none_right_eq_some.mp h).2

/-! ### A brace cuts

Everything that a token looks at ahead of itself ends in front of a brace: words, blanks and labels
because a brace is none of their characters, and the neighbours of `&`, `|` and `?` because a brace
counts there as much as the end of the line. -/

section Cut

variable {h : Char} {ys : List Char}

theorem takeWhile_append_cons {p : Char → Bool} (hp : p h = false) (xs : List Char) :
    (xs ++ h :: ys).takeWhile p = xs.takeWhile p := by
  induction xs with
  | nil => simp [hp]
  | cons c xs ih => simp only [List.cons_append, List.takeWhile_cons, ih]

theorem isLabelChar_of_isBrace (hh : isBrace h = true) : isLabelChar h = false := by
  rcases isBrace_iff.mp hh with rfl | rfl <;> decide

theorem length_takeWhile_le (p : Char → Bool) (xs : List Char) :
    (xs.takeWhile p).length ≤ xs.length :=
  (List.takeWhile_prefix p).length_le

theorem length_takeWhile_drop_le (p : Char → Bool) {xs : List Char} {n : Nat} (hn : n ≤ xs.length) :
    n + ((xs.drop n).takeWhile p).length ≤ xs.length := by
  have hle := length_takeWhile_le p (xs.drop n)
  rw [List.length_drop] at hle
  omega

theorem elseIfLength?_append_brace (hh : isBrace h = true) (xs : List Char) :
    elseIfLength? (xs ++ h :: ys) = elseIfLength? xs := by
  simp only [elseIfLength?, takeWhile_append_cons (isBlank_of_isBrace hh),
    List.drop_append_of_le_length (length_takeWhile_le Text.isBlank xs),
    takeWhile_append_cons (isWord_of_isBrace hh)]

theorem head?_append_brace_eq_iff {c : Char} (hc : c ≠ h) (xs : List Char) :
    (xs ++ h :: ys).head? = some c ↔ xs.head? = some c := by
  cases xs with
  | nil => simpa using hc.symm
  | cons d xs => simp

theorem labelLength?_append_brace (hh : isBrace h = true) (xs : List Char) :
    labelLength? (xs ++ h :: ys) = labelLength? xs := by
  have hsemicolon : ';' ≠ h := by
    rintro rfl
    exact absurd hh (by decide)
  have hdrop : ∀ {n : Nat}, n ≤ xs.length → (xs ++ h :: ys).drop n = xs.drop n ++ h :: ys :=
    fun hn => List.drop_append_of_le_length hn
  have hblanks := length_takeWhile_le Text.isBlank xs
  have hlabel := length_takeWhile_drop_le isLabelChar hblanks
  have hgap := length_takeWhile_drop_le Text.isBlank hlabel
  simp only [labelLength?, takeWhile_append_cons (isBlank_of_isBrace hh)]
  rw [hdrop hblanks, takeWhile_append_cons (isLabelChar_of_isBrace hh), hdrop hlabel,
    takeWhile_append_cons (isBlank_of_isBrace hh), hdrop hgap]
  simp only [Bool.and_eq_true, beq_iff_eq, head?_append_brace_eq_iff hsemicolon]

theorem word?_append_brace (hh : isBrace h = true) (before : Option Char) (xs : List Char) :
    word? before (xs ++ h :: ys) = word? before xs := by
  simp only [word?, takeWhile_append_cons (isWord_of_isBrace hh),
    List.drop_append_of_le_length (length_takeWhile_le Text.isWord xs),
    elseIfLength?_append_brace hh, labelLength?_append_brace hh]

theorem standsAlone_head?_append_brace (hh : isBrace h = true) (before : Option Char)
    (xs : List Char) :
    Ternary.standsAlone before (xs ++ h :: ys).head? = Ternary.standsAlone before xs.head? := by
  cases xs with
  | nil =>
    rcases isBrace_iff.mp hh with rfl | rfl <;> simp [Ternary.standsAlone]
  | cons c xs => rfl

/-- A token in front of a brace is found without looking at the brace. -/
theorem at?_append_brace (hh : isBrace h = true) (before : Option Char) (c : Char)
    (xs : List Char) : at? before (c :: xs ++ h :: ys) = at? before (c :: xs) := by
  have hand : '&' ≠ h := by
    rintro rfl
    exact absurd hh (by decide)
  have hor : '|' ≠ h := by
    rintro rfl
    exact absurd hh (by decide)
  rw [List.cons_append, at?_cons, at?_cons, ← List.cons_append, word?_append_brace hh,
    standsAlone_head?_append_brace hh]
  simp only [head?_append_brace_eq_iff hand, head?_append_brace_eq_iff hor]

/-- In front of a text that no token looks at are the tokens that the front has alone. -/
theorem scanFrom_append {tail : List Char}
    (hat : ∀ before c xs, at? before (c :: xs ++ tail) = at? before (c :: xs)) :
    ∀ (xs : List Char) (skip column : Nat) (before : Option Char), skip ≤ xs.length →
      scanFrom skip column before (xs ++ tail) =
        scanFrom skip column before xs ++
          scanFrom 0 (column + xs.length) (xs.getLast?.or before) tail
  | [], skip, column, before, hskip => by
    obtain rfl : skip = 0 := by simpa using hskip
    simp [scanFrom]
  | c :: xs, skip + 1, column, before, hskip => by
    have ih := scanFrom_append hat xs skip (column + 1) (some c) (by simpa using hskip)
    rw [List.cons_append, scanFrom, ih, Text.getLast?_cons_or, scanFrom, List.length_cons,
      Nat.add_assoc, Nat.add_comm 1]
  | c :: xs, 0, column, before, _ => by
    have hfirst : at? before (c :: (xs ++ tail)) = at? before (c :: xs) := hat before c xs
    rw [List.cons_append, scanFrom, scanFrom, hfirst, Text.getLast?_cons_or, List.length_cons]
    cases hfound : at? before (c :: xs) with
    | none =>
      have ih := scanFrom_append hat xs 0 (column + 1) (some c) (Nat.zero_le _)
      simp only [ih, Nat.add_assoc, Nat.add_comm 1]
    | some found =>
      obtain ⟨t, n⟩ := found
      obtain ⟨w, more, hcs, rfl, -, -⟩ := spelled_of_at? hfound
      have hlength := congrArg List.length hcs
      rw [List.length_append, List.length_cons] at hlength
      have ih := scanFrom_append hat xs (w.length - 1) (column + 1) (some c) (by omega)
      simp only [ih, Nat.add_assoc, Nat.add_comm 1, List.cons_append]

/-- **A brace cuts the tokens of a line.** In front of it are the tokens of the text there. -/
theorem scanFrom_append_brace (hh : isBrace h = true) (xs : List Char) (skip column : Nat)
    (before : Option Char) (hskip : skip ≤ xs.length) :
    scanFrom skip column before (xs ++ h :: ys) =
      scanFrom skip column before xs ++
        scanFrom 0 (column + xs.length) (xs.getLast?.or before) (h :: ys) :=
  scanFrom_append (at?_append_brace hh) xs skip column before hskip

theorem scan_append_closeBrace (xs : List Char) :
    scan (xs ++ '\x7d' :: ys) =
      scan xs ++ (xs.length, .closeBrace) :: scanFrom 0 (xs.length + 1) (some '\x7d') ys := by
  rw [scan, scanFrom_append_brace (by decide) xs 0 0 none (Nat.zero_le _), Nat.zero_add, scanFrom,
    at?_closeBrace]
  rfl

end Cut

/-! ### Token by token -/

/-- The tokens of a text that starts at `column` behind `before`. A character at which no token
starts is passed, and a token takes the characters that spell it. -/
inductive Scanned : Nat → Option Char → List Char → List (Nat × Token) → Prop
  | nil (column : Nat) (before : Option Char) : Scanned column before [] []
  | gap {column : Nat} {before : Option Char} {c : Char} {rest : List Char}
      {ts : List (Nat × Token)} (none : at? before (c :: rest) = none)
      (more : Scanned (column + 1) (some c) rest ts) : Scanned column before (c :: rest) ts
  | token {column : Nat} {before : Option Char} {t : Token} {w rest : List Char}
      {ts : List (Nat × Token)} (found : at? before (w ++ rest) = some (t, w.length)) (ne : w ≠ [])
      (spelled : Spelled t w)
      (more : Scanned (column + w.length) (w.getLast?.or before) rest ts) :
      Scanned column before (w ++ rest) ((column, t) :: ts)

/-- The characters of a token already found are passed over. -/
theorem scanFrom_eq_drop (cs : List Char) (skip column : Nat) (before : Option Char) :
    scanFrom skip column before cs =
      scanFrom 0 (column + skip) ((cs.take skip).getLast?.or before) (cs.drop skip) := by
  induction cs generalizing skip column before with
  | nil => simp [scanFrom]
  | cons c rest ih =>
    cases skip with
    | zero => simp
    | succ skip =>
      rw [scanFrom, ih, List.take_succ_cons, Text.getLast?_cons_or, List.drop_succ_cons,
        Nat.add_assoc, Nat.add_comm 1]

/-- The scan of a line reads it token by token. -/
theorem scanned_scanFrom :
    ∀ (cs : List Char) (column : Nat) (before : Option Char),
      Scanned column before cs (scanFrom 0 column before cs)
  | [], column, before => .nil column before
  | c :: rest, column, before => by
    rw [scanFrom]
    cases hfound : at? before (c :: rest) with
    | none => exact .gap hfound (scanned_scanFrom rest (column + 1) (some c))
    | some found =>
      obtain ⟨t, n⟩ := found
      obtain ⟨w, more, hcs, rfl, hne, hspelled⟩ := spelled_of_at? hfound
      obtain ⟨d, w, rfl⟩ := List.exists_cons_of_ne_nil hne
      obtain ⟨rfl, rfl⟩ : c = d ∧ rest = w ++ more := by simpa using hcs
      have hmore : scanFrom ((c :: w).length - 1) (column + 1) (some c) (w ++ more) =
          scanFrom 0 (column + (c :: w).length) ((c :: w).getLast?.or before) more := by
        rw [scanFrom_eq_drop, List.length_cons, Nat.add_sub_cancel, List.take_left, List.drop_left,
          Text.getLast?_cons_or, Nat.add_assoc, Nat.add_comm 1]
      have hlt : more.length < (c :: (w ++ more)).length := by
        rw [List.length_cons, List.length_append]
        omega
      simp only [hmore]
      exact .token hfound hne hspelled (scanned_scanFrom more _ _)
termination_by cs => cs.length

theorem scanned_scan (line : List Char) : Scanned 0 none line (scan line) :=
  scanned_scanFrom line 0 none

/-! ### Braces and question marks among the tokens -/

/-- The brace that a token is. -/
def brace? : Token → Option Char
  | .openBrace => some '\x7b'
  | .closeBrace => some '\x7d'
  | .keyword _ | .jump | .logical _ | .question | .openParen | .closeParen | .semicolon => none

theorem filter_isBrace_of_spelled {t : Token} {w : List Char} (h : Spelled t w) :
    w.filter isBrace = t.brace?.toList := by
  have hwords : (∀ c ∈ w, isWordPart c = true) → w.filter isBrace = [] := by
    intro hw
    rw [List.filter_eq_nil_iff]
    intro c hc hbrace
    have hpart := hw c hc
    rcases isBrace_iff.mp hbrace with rfl | rfl <;> exact absurd hpart (by decide)
  cases t with
  | keyword _ => exact hwords h
  | jump => exact hwords h
  | logical _ => rcases h with rfl | rfl <;> rfl
  | question => cases h; rfl
  | openParen => cases h; rfl
  | closeParen => cases h; rfl
  | semicolon => cases h; rfl
  | openBrace => cases h; rfl
  | closeBrace => cases h; rfl

/-- A brace is always a token. -/
theorem not_isBrace_of_at?_eq_none {before : Option Char} {c : Char} {rest : List Char}
    (h : at? before (c :: rest) = none) : ¬isBrace c = true := by
  intro hbrace
  rcases isBrace_iff.mp hbrace with rfl | rfl
  · simp [at?_openBrace] at h
  · simp [at?_closeBrace] at h

theorem Scanned.filterMap_brace? {column : Nat} {before : Option Char} {cs : List Char}
    {ts : List (Nat × Token)} (h : Scanned column before cs ts) :
    ts.filterMap (fun p => p.2.brace?) = cs.filter isBrace := by
  induction h with
  | nil => rfl
  | gap none _ ih => rw [ih, List.filter_cons_of_neg (not_isBrace_of_at?_eq_none none)]
  | @token column before t w rest ts _ _ spelled _ ih =>
    rw [List.filter_append, filter_isBrace_of_spelled spelled, ← ih]
    cases hbrace : t.brace? <;> simp [hbrace]

/-- The brace tokens of a line are its braces. -/
theorem filterMap_brace?_scan (line : List Char) :
    (scan line).filterMap (fun p => p.2.brace?) = line.filter isBrace :=
  (scanned_scan line).filterMap_brace?

theorem eq_of_at?_question {before : Option Char} {c : Char} {rest : List Char} {n : Nat}
    (h : at? before (c :: rest) = some (.question, n)) :
    c = '?' ∧ Ternary.standsAlone before rest.head? = true := by
  obtain ⟨w, more, hcs, -, -, rfl⟩ := spelled_of_at? h
  obtain ⟨rfl, rfl⟩ : c = '?' ∧ rest = more := by simpa using hcs
  rw [at?_cons] at h
  refine ⟨rfl, ?_⟩
  by_contra hstands
  simp [hstands] at h

/-- A question mark that stands alone has a position in a text that starts at
`column` behind `before`. -/
def LoneQuestion (before : Option Char) (column position : Nat) (cs : List Char) : Prop :=
  ∃ xs ys, cs = xs ++ '?' :: ys ∧ position = column + xs.length ∧
    Ternary.standsAlone (xs.getLast?.or before) ys.head? = true

theorem LoneQuestion.append {w cs : List Char} {before : Option Char} {column position : Nat}
    (h : LoneQuestion (w.getLast?.or before) (column + w.length) position cs) :
    LoneQuestion before column position (w ++ cs) := by
  obtain ⟨xs, ys, rfl, rfl, hstands⟩ := h
  refine ⟨w ++ xs, ys, by rw [List.append_assoc], by rw [List.length_append]; omega, ?_⟩
  rwa [List.getLast?_append, Option.or_assoc]

theorem Scanned.loneQuestion {column : Nat} {before : Option Char} {cs : List Char}
    {ts : List (Nat × Token)} (h : Scanned column before cs ts) {position : Nat}
    (hmem : (position, Token.question) ∈ ts) : LoneQuestion before column position cs := by
  induction h with
  | nil => cases hmem
  | @gap column before c rest ts none more ih =>
    have hrest : LoneQuestion ([c].getLast?.or before) (column + [c].length) position rest :=
      ih hmem
    exact hrest.append
  | @token column before t w rest ts found _ spelled _ ih =>
    rcases List.mem_cons.mp hmem with heq | hmem
    · obtain ⟨rfl, rfl⟩ := Prod.mk.inj heq
      obtain rfl := spelled
      obtain ⟨-, hstands⟩ := eq_of_at?_question found
      exact ⟨[], rest, rfl, rfl, hstands⟩
    · exact (ih hmem).append

/-- A question mark among the tokens of a line stands alone in the line. -/
theorem exists_of_mem_scan_question {line : List Char} {column : Nat}
    (h : (column, Token.question) ∈ scan line) :
    ∃ xs ys, line = xs ++ '?' :: ys ∧ column = xs.length ∧
      Ternary.standsAlone xs.getLast? ys.head? = true := by
  obtain ⟨xs, ys, hline, hcolumn, hstands⟩ := (scanned_scan line).loneQuestion h
  exact ⟨xs, ys, hline, by simpa using hcolumn, by simpa using hstands⟩

end Token

end SourceMetrics
