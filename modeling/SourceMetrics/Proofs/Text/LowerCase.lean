import SourceMetrics.Text.LowerCase

/-!
# Lower case is stable

A text in lower case stays as it is when it is put into lower case again. This is a fact about the
table of capitals, not about the loop: no small form may itself be a capital. The capitals come in
runs, and the ends of two runs tell whether the small forms of the one avoid the other, so the table
is checked run against run and not character by character. The two rules beyond the table fit in:
the dotted capital counts as a run of its own, and what the rules produce is in no run.

## Main definitions

* `Text.CaseRun.avoids` — when the small forms of a run are no capitals of another
* `Text.isSmall` — the characters that lower case leaves alone

## Main results

* `Text.isSmall_of_mem_lowerAfter` — a text in lower case holds small characters only
* `Text.lower_lower` — lower case is stable
-/

namespace SourceMetrics

namespace Text

/-! ### Runs against runs -/

namespace CaseRun

/-- The code point of the small form of a capital of the run. -/
def small (run : CaseRun) (n : Nat) : Nat := (n + run.shift).toNat

/-- Whether no small form of a run is a capital of another, as far as the ends of the runs tell: the
one lies before or behind the other, or both go by steps of two and never fall in step. -/
def avoids (run other : CaseRun) : Bool :=
  run.small run.last < other.first || other.last < run.small run.first ||
    (run.stride % 2 == 0 || run.first == run.last) && other.stride % 2 == 0 &&
      (run.small run.first + other.first) % 2 == 1

/-- Whether the small forms of a run are characters. -/
def isProper (run : CaseRun) : Bool :=
  0 ≤ run.first + run.shift &&
    (run.small run.last < 0xD800 || 0xDFFF < run.small run.first && run.small run.last < 0x110000)

/-- The dotted capital, whose small form is two characters and which the table leaves out. -/
def dotted : CaseRun := ⟨0x130, 0x130, 1, 0⟩

theorem holds_iff {run : CaseRun} {n : Nat} :
    run.holds n = true ↔ run.first ≤ n ∧ n ≤ run.last ∧ (n - run.first) % run.stride = 0 := by
  simp [holds, and_assoc]

theorem small_mono (run : CaseRun) {m n : Nat} (h : m ≤ n) : run.small m ≤ run.small n := by
  rw [small, small]
  omega

theorem holds_small_of_avoids {run other : CaseRun} (hproper : run.isProper = true)
    (havoids : run.avoids other = true) {n : Nat} (hn : run.holds n = true) :
    other.holds (run.small n) = false := by
  obtain ⟨hfirst, hlast, hstep⟩ := holds_iff.mp hn
  have hlow := run.small_mono hfirst
  have hhigh := run.small_mono hlast
  rw [Bool.eq_false_iff]
  intro hother
  obtain ⟨hfirst', hlast', hstep'⟩ := holds_iff.mp hother
  simp only [avoids, Bool.or_eq_true, Bool.and_eq_true, decide_eq_true_eq, beq_iff_eq] at havoids
  rcases havoids with (hbefore | hbehind) | ⟨⟨hstride, hstride'⟩, hodd⟩
  · omega
  · omega
  · -- the small forms of the run all have the parity of the first, the capitals of the other do not
    have hnonneg : 0 ≤ run.first + run.shift := by
      simp only [isProper, Bool.and_eq_true, decide_eq_true_eq] at hproper
      exact hproper.1
    have heven : (n - run.first) % 2 = 0 := by
      rcases hstride with hstride | hsingle
      · exact Nat.mod_eq_zero_of_dvd
          (Nat.dvd_trans (Nat.dvd_of_mod_eq_zero hstride) (Nat.dvd_of_mod_eq_zero hstep))
      · omega
    have heven' : (run.small n - other.first) % 2 = 0 :=
      Nat.mod_eq_zero_of_dvd
        (Nat.dvd_trans (Nat.dvd_of_mod_eq_zero hstride') (Nat.dvd_of_mod_eq_zero hstep'))
    have hshift : run.small n = run.small run.first + (n - run.first) := by
      rw [small, small]
      omega
    omega

theorem isValidChar_small {run : CaseRun} (hproper : run.isProper = true) {n : Nat}
    (hn : run.holds n = true) : (run.small n).isValidChar := by
  obtain ⟨hfirst, hlast, -⟩ := holds_iff.mp hn
  have hlow := run.small_mono hfirst
  have hhigh := run.small_mono hlast
  simp only [isProper, Bool.and_eq_true, Bool.or_eq_true, decide_eq_true_eq] at hproper
  rcases hproper.2 with hbelow | hbetween
  · exact Or.inl (by omega)
  · exact Or.inr ⟨by omega, by omega⟩

end CaseRun

/-- The table keeps small forms and capitals apart. -/
theorem caseRuns_apart :
    (caseRuns.all fun run =>
      run.isProper && (CaseRun.dotted :: caseRuns).all run.avoids) = true := by
  decide +kernel

/-! ### Small characters -/

/-- Whether a character is no capital. -/
def isSmall (c : Char) : Bool := (CaseRun.dotted :: caseRuns).all fun run => !run.holds c.toNat

theorem isSmall_iff {c : Char} :
    isSmall c = true ↔ ∀ run ∈ CaseRun.dotted :: caseRuns, run.holds c.toNat = false := by
  simp only [isSmall, List.all_eq_true, Bool.not_eq_true']

theorem ne_of_isSmall {c d : Char} (hc : isSmall c = true) (hd : isSmall d = false) : c ≠ d := by
  rintro rfl
  rw [hc] at hd
  exact Bool.noConfusion hd

theorem lowerChar_of_isSmall {c : Char} (hc : isSmall c = true) : lowerChar c = c := by
  have hnone : caseRuns.find? (·.holds c.toNat) = none := by
    rw [List.find?_eq_none]
    intro run hrun
    simp [isSmall_iff.mp hc run (List.mem_cons_of_mem _ hrun)]
  rw [lowerChar, hnone]

theorem isSmall_lowerChar {c : Char} (hc : c ≠ 'İ') : isSmall (lowerChar c) = true := by
  rw [isSmall_iff]
  intro other hother
  rw [lowerChar]
  cases hfind : caseRuns.find? (·.holds c.toNat) with
  | none =>
    rcases List.mem_cons.mp hother with rfl | hother
    · rw [Bool.eq_false_iff]
      intro hholds
      obtain ⟨hfirst, hlast, -⟩ := CaseRun.holds_iff.mp hholds
      exact hc (Char.toNat_inj.mp (Nat.le_antisymm hlast hfirst))
    · exact Bool.eq_false_iff.mpr (List.find?_eq_none.mp hfind other hother)
  | some run =>
    have hholds : run.holds c.toNat = true := by simpa using List.find?_some hfind
    have hrun := List.all_eq_true.mp caseRuns_apart run (List.mem_of_find?_eq_some hfind)
    rw [Bool.and_eq_true] at hrun
    have hchar : (Char.ofNat (run.small c.toNat)).toNat = run.small c.toNat := by
      rw [Char.ofNat, dif_pos (CaseRun.isValidChar_small hrun.1 hholds)]
      rfl
    show other.holds (Char.ofNat (run.small c.toNat)).toNat = false
    rw [hchar]
    exact CaseRun.holds_small_of_avoids hrun.1 (List.all_eq_true.mp hrun.2 other hother) hholds

/-! ### Texts -/

/-- **A text in lower case holds small characters only**, whatever stands before it. -/
theorem isSmall_of_mem_lowerAfter {before cs : List Char} {c : Char}
    (h : c ∈ lowerAfter before cs) : isSmall c = true := by
  induction cs generalizing before with
  | nil => cases h
  | cons d rest ih =>
    rw [lowerAfter, List.mem_append] at h
    rcases h with hd | hrest
    · by_cases hdotted : d = 'İ'
      · simp only [if_pos hdotted, List.mem_cons, List.not_mem_nil, or_false] at hd
        rcases hd with rfl | rfl <;> decide
      · rw [if_neg hdotted] at hd
        by_cases hsigma : d = 'Σ'
        · rw [if_pos hsigma, List.mem_singleton] at hd
          rw [hd]
          split <;> decide
        · rw [if_neg hsigma, List.mem_singleton] at hd
          rw [hd]
          exact isSmall_lowerChar hdotted
    · exact ih hrest

theorem lowerAfter_of_isSmall {cs : List Char} (before : List Char)
    (h : ∀ c ∈ cs, isSmall c = true) : lowerAfter before cs = cs := by
  induction cs generalizing before with
  | nil => rfl
  | cons c rest ih =>
    have hc := h c List.mem_cons_self
    rw [lowerAfter, if_neg (ne_of_isSmall hc (by decide)), if_neg (ne_of_isSmall hc (by decide)),
      lowerChar_of_isSmall hc, ih _ fun d hd => h d (List.mem_cons_of_mem c hd)]
    rfl

/-- **Lower case is stable.** -/
@[simp] theorem lower_lower (s : String) : lower (lower s) = lower s := by
  rw [lower, lower, String.toList_ofList, lowerAfter_of_isSmall]
  intro c hc
  exact isSmall_of_mem_lowerAfter hc

end Text

end SourceMetrics
