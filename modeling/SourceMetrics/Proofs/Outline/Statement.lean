import SourceMetrics.Proofs.Outline.Accounting
import SourceMetrics.Proofs.Outline.Found
import SourceMetrics.Proofs.Pattern.Reach

/-!
# Control statements are no declarations

A line such as `if (x) {` looks like the header of a function named `if`. The patterns do match many
such lines, and what keeps the statement out of the outline is its name, which is a control word.
But a pattern has other ways to read the line: `synchronized`, `default` and `new` are also
modifiers, the word may be taken for a type, and a part of it for a name. The shape of the line is
enough to see that all of these fail at the parenthesis, so whatever a pattern finds there is
declared under the control word.

The one exception is `function` in JavaScript, which declares a function without a name.

## Main definitions

* `Text.IsStatement` — a line that starts with a word and a parenthesis
* `Dialect.namesOnly` — all that the patterns of a dialect can name on such a line is the word

## Main results

* `Dialect.undeclared_of_isStatement` — a control statement declares nothing
* `Scanner.control_statements_undeclared` — no entity starts on a control statement
-/

namespace SourceMetrics

/-! ### Statements -/

/-- The line consists of a word and a parenthesis, with blanks in front of both, and whatever
follows. -/
def Text.IsStatement (word line : List Char) : Prop :=
  ∃ indent gap rest, (∀ c ∈ indent, isBlank c = true) ∧ (∀ c ∈ gap, isBlank c = true) ∧
    line = indent ++ (word ++ (gap ++ '(' :: rest))

namespace Shape

/-- The shape of a statement. -/
def ofStatement (word : List Char) : Shape := .blanks :: (word.map .char ++ [.blanks, .char '('])

theorem Fits.append_blanks {shape : Shape} {cs : List Char} (h : Fits shape cs) {bs : List Char}
    (hbs : ∀ c ∈ bs, Text.isBlank c = true) : Fits (.blanks :: shape) (bs ++ cs) := by
  induction bs with
  | nil => exact .skip h
  | cons c bs ih =>
    obtain ⟨hc, hbs⟩ := List.forall_mem_cons.mp hbs
    exact .blanks hc (ih hbs)

theorem Fits.append_chars {shape : Shape} {cs : List Char} (h : Fits shape cs) (word : List Char) :
    Fits (word.map .char ++ shape) (word ++ cs) := by
  induction word with
  | nil => exact h
  | cons c word ih => exact .char c ih

theorem fits_ofStatement {word line : List Char} (h : Text.IsStatement word line) :
    Fits (ofStatement word) line := by
  obtain ⟨indent, gap, rest, hindent, hgap, rfl⟩ := h
  have hparenthesis : Fits [.char '('] ('(' :: rest) := .char '(' (.nil rest)
  exact ((hparenthesis.append_blanks hgap).append_chars word).append_blanks hindent

end Shape

/-! ### What can be named on a statement -/

/-- All that a pattern can name on a statement is the word. -/
def Pattern.namesOnly (p : Pattern) (word : List Char) : Bool :=
  (p.reach (.ofShape (.ofStatement word))).all fun e => e.name == some (some word)

theorem Pattern.name?_of_namesOnly {p : Pattern} {word line : List Char} {m : Cursor}
    (h : p.namesOnly word = true) (hline : Text.IsStatement word line)
    (hm : p.match? line = some m) : m.name? = some word := by
  obtain ⟨e, he, hname⟩ := exists_estimate_of_match? (Shape.fits_ofStatement hline) hm
  exact hname (some word) (beq_iff_eq.mp (List.all_eq_true.mp h e he))

namespace Dialect

/-- All that the patterns of a dialect for declarations can name on a statement is the word. -/
def namesOnly (d : Dialect) (word : List Char) : Bool :=
  d.classes.all (·.namesOnly word) && (d.functions ++ d.members).all (·.pattern.namesOnly word)

/-- A match that names a control word declares nothing. -/
theorem nameAllowed_of_mem_controlWords {word : String} (hword : word ∈ controlWords)
    {m : Pattern.Cursor} (hm : m.name? = some word.toList) : nameAllowed m = false := by
  have hwords : ∀ word ∈ controlWords,
      word.toList ≠ anonymous ∧ baseName word.toList = word.toList := by decide +kernel
  obtain ⟨hanonymous, hbase⟩ := hwords word hword
  obtain ⟨part, hpart, htext⟩ := Option.map_eq_some_iff.mp hm
  have hcontrol : isControlWord word.toList = true := by
    rw [isControlWord, String.ofList_toList]
    exact List.contains_iff_mem.mpr hword
  rw [nameAllowed, hpart]
  show (part.text == anonymous || isDeclarableName part.text) = false
  rw [htext, isDeclarableName, hbase, hcontrol, beq_eq_false_iff_ne.mpr hanonymous]
  simp

variable {d : Dialect} {word : String} {line : List Char}

/-- **A control statement declares nothing**, whatever follows it on its line and behind. -/
theorem undeclared_of_isStatement (hword : word ∈ controlWords)
    (hd : d.namesOnly word.toList = true)
    (hline : Text.IsStatement word.toList line) (rest : List (List Char)) :
    d.classHead? (line :: rest) = none ∧
      ∀ inClass, d.functionHead? inClass (line :: rest) = none := by
  obtain ⟨hclasses, hfunctions⟩ := Bool.and_eq_true_iff.mp hd
  have hrefused : ∀ {p : Pattern} {m : Pattern.Cursor}, p.namesOnly word.toList = true →
      p.match? line = some m → nameAllowed m = false := fun hp hm =>
    nameAllowed_of_mem_controlWords hword (Pattern.name?_of_namesOnly hp hline hm)
  constructor
  · refine Option.eq_none_iff_forall_ne_some.mpr fun head hhead => ?_
    obtain ⟨p, hp, m, hm, hallowed, -⟩ := exists_of_classHead? hhead
    exact absurd hallowed (by simp [hrefused (List.all_eq_true.mp hclasses p hp) hm])
  · intro inClass
    refine Option.eq_none_iff_forall_ne_some.mpr fun head hhead => ?_
    obtain ⟨p, hp, m, hm, hallowed, -⟩ := exists_of_functionHead? hhead
    have hmem : p ∈ d.functions ++ d.members := by
      rw [List.mem_append]
      split at hp
      · exact .inr hp
      · exact .inl hp
    exact absurd hallowed (by simp [hrefused (List.all_eq_true.mp hfunctions p hmem) hm])

/-- The line on which an entity was found is no control statement. -/
theorem Found.not_isStatement {lines : List (List Char)} {inClass : Bool} {stop : Nat} {e : Entity}
    (h : d.Found lines inClass stop e) (hstop : stop ≤ lines.length) :
    ∃ a line, e.declaration.lineStart = ((a + 1 : Nat) : Int) ∧ lines[a]? = some line ∧
      ∀ word ∈ controlWords, d.namesOnly word.toList = true →
        ¬Text.IsStatement word.toList line := by
  cases h with
  | @ofClass a head inner lt head_eq inner_eq =>
    obtain ⟨line, rest, hline⟩ := List.exists_cons_of_ne_nil (Outline.stretch_ne_nil lt hstop)
    refine ⟨a, line, rfl, getElem?_of_stretch_eq_cons hstop hline,
      fun word hword hd hstatement => ?_⟩
    rw [hline, (undeclared_of_isStatement hword hd hstatement rest).1] at head_eq
    cases head_eq
  | @ofFunction a head lt head_eq =>
    obtain ⟨line, rest, hline⟩ := List.exists_cons_of_ne_nil (Outline.stretch_ne_nil lt hstop)
    refine ⟨a, line, rfl, getElem?_of_stretch_eq_cons hstop hline,
      fun word hword hd hstatement => ?_⟩
    rw [hline, (undeclared_of_isStatement hword hd hstatement rest).2 inClass] at head_eq
    cases head_eq

end Dialect

/-! ### The scanners of the library -/

namespace Scanner

/-- The patterns of the scanners find nothing else on control statements. -/
theorem namesOnly_of_mem_builtin :
    ∀ s ∈ builtinScanners, ∀ word ∈ controlWords,
      s.dialect.namesOnly word.toList = true ∨ s.language = "javascript" ∧ word = "function" := by
  decide +kernel

/-- **No entity starts on a control statement**, except that JavaScript may have a function without
a name. -/
theorem control_statements_undeclared {s : Scanner} (hs : s ∈ builtinScanners)
    (rules : CountingRules) (source : List Char) :
    let lines := Text.lines (mask s.dialect.rules source)
    ∃ analysis, s.analyze rules source = .ok analysis ∧ ∀ e ∈ Entity.preorderAll analysis.entities,
      ∃ a line, e.declaration.lineStart = ((a + 1 : Nat) : Int) ∧ lines[a]? = some line ∧
        ∀ word ∈ controlWords, Text.IsStatement word.toList line →
          s.language = "javascript" ∧ word = "function" := by
  intro lines
  refine ⟨s.dialect.analyze rules source, by rw [analyze, failure_of_mem_builtin hs],
    fun e he => ?_⟩
  obtain ⟨e₀, he₀, hdeclaration⟩ := s.dialect.exists_of_mem_entities rules source he
  obtain ⟨inClass, stop, hstop, hfound⟩ := Dialect.exists_found_of_mem_outline e₀ he₀
  obtain ⟨a, line, hstart, hline, hnot⟩ := hfound.not_isStatement hstop
  refine ⟨a, line, by rw [hdeclaration]; exact hstart, hline, fun word hword hstatement => ?_⟩
  obtain hnames | hexception := namesOnly_of_mem_builtin s hs word hword
  · exact absurd hstatement (hnot word hword hnames)
  · exact hexception

/-- In a class, a statement with a word that is also a modifier, between two methods. -/
theorem control_statements_undeclared_default :
    let source := ("class A \x7b\n  default int f() \x7b \x7d\n  default (x) \x7b \x7d\n".toList ++
      "  int g() \x7b \x7d\n\x7d\n".toList)
    let entities := Entity.preorderAll (Java.dialect.analyze {} source).entities
    Java.scanner ∈ builtinScanners ∧ entities.map (·.declaration.name) = ["A", "f", "g"] ∧
      Text.IsStatement "default".toList "  default (x) \x7b \x7d".toList ∧
      ∀ e ∈ entities, e.declaration.lineStart ≠ 3 := by
  intro source entities
  have hmem : Java.scanner ∈ builtinScanners := List.mem_cons_self
  have hstatement : Text.IsStatement "default".toList "  default (x) \x7b \x7d".toList :=
    ⟨"  ".toList, " ".toList, "x) \x7b \x7d".toList, List.all_eq_true.mp (by decide),
      List.all_eq_true.mp (by decide), by decide⟩
  refine ⟨hmem, by decide +kernel, hstatement, fun e he hstart => ?_⟩
  obtain ⟨analysis, hanalysis, hentities⟩ := control_statements_undeclared hmem {} source
  cases hanalysis
  obtain ⟨a, line, ha, hline, hundeclared⟩ := hentities e he
  obtain rfl : a = 2 := by omega
  have hthird : (Text.lines (mask Java.scanner.dialect.rules source))[2]? =
      some "  default (x) \x7b \x7d".toList := by decide
  obtain rfl := Option.some.inj (hthird.symm.trans hline)
  exact absurd (hundeclared "default" (by decide) hstatement).1 (by decide)

/-- The exception does occur. -/
example :
    (JavaScript.dialect.outline "function () \x7b \x7d".toList).entities.map (·.declaration.name) =
    ["anonymous"] := by
  decide +kernel

end Scanner

end SourceMetrics
