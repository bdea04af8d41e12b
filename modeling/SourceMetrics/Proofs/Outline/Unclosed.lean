import SourceMetrics.Proofs.Outline.Accounting
import SourceMetrics.Proofs.Outline.Found

/-!
# Declarations that are never closed

A body whose closing brace is missing runs to the end of the lines it was looked for on: of the
class around the declaration, or of the whole text. Each such declaration is reported with a
warning. Warnings are collected along the scan, those of a class in front of those of its members,
and nothing that is tried on a line and rejected leaves one behind. So the warnings are those of the
unclosed entities of the outline, parents first, and there are no others.

## Main definitions

* `Extent.EndsBody` — an extent ends where a body does
* `Outline.ReportsUnclosed` — the warnings against the entities of an outline

## Main results

* `Dialect.warnings_scanRange` — the warnings of a scan are those of its entities
* `Dialect.Found.endsBody` — where an entity with a body ends
* `Scanner.unclosed_reported` — unclosed declarations are reported, and only those
-/

namespace SourceMetrics

/-! ### Where a body ends -/

/-- A body ends behind its closing brace or, without one, with the last of the lines. -/
structure Extent.EndsBody (lines : List (List Char)) (e : Extent) : Prop where
  unclosed : e.closed = false → e.column = none ∧ e.line + 1 = lines.length
  closed : e.closed = true →
    ∃ column line, e.column = some column ∧ lines[e.line]? = some line ∧ ClosesAt line column

theorem Extent.endsBody_ofBlock {lines : List (List Char)} {start : Place}
    (h : start.line < lines.length) : (Extent.ofBlock lines start).EndsBody lines := by
  rw [Extent.ofBlock]
  split
  · next stop hstop =>
    obtain ⟨-, line, hline, hcloses⟩ := closesAt_of_blockEnd? hstop
    exact ⟨by simp, fun _ => ⟨stop.column, line, rfl, hline, hcloses⟩⟩
  · refine ⟨fun _ => ⟨rfl, ?_⟩, by simp⟩
    simp only
    omega

namespace Dialect

variable {d : Dialect} {lines : List (List Char)}

theorem endsBody_of_classHead? {head : ClassHead} (hlines : lines ≠ [])
    (h : d.classHead? lines = some head) : head.extent.EndsBody lines := by
  obtain ⟨-, -, m, -, -, hbody, hextent⟩ := exists_of_classHead? h
  rw [hextent]
  exact Extent.endsBody_ofBlock (findBody?_line (List.length_pos_iff.mpr hlines) hbody).2

/-- A function without a body counts as closed and has no column. -/
theorem endsBody_of_functionHead? {inClass : Bool} {head : FunctionHead} (hlines : lines ≠ [])
    (h : d.functionHead? inClass lines = some head) :
    if head.hasBody then head.extent.EndsBody lines else head.extent.closed = true := by
  obtain ⟨-, -, m, -, -, ⟨body, hbody, hhas, hextent⟩ | ⟨hhas, hextent⟩⟩ :=
    exists_of_functionHead? h
  · rw [hhas, hextent]
    exact Extent.endsBody_ofBlock (findBody?_line (signature_line d hlines m) hbody).2
  · rw [hhas, hextent]
    rfl

end Dialect

/-- A declaration on lines that end before line `stop` ends with the last of them if it is unclosed,
and behind a closing brace if its body is closed. -/
structure Declaration.EndsBody (lines : List (List Char)) (stop : Nat) (d : Declaration) :
    Prop where
  unclosed : d.closed = false → d.columnEnd = none ∧ d.lineEnd = stop
  closed : d.hasBody = true → d.closed = true → ∃ number line column,
    d.lineEnd = ((number + 1 : Nat) : Int) ∧ lines[number]? = some line ∧
      d.columnEnd = some ((column : Nat) : Int) ∧ ClosesAt line column

open Outline in
/-- The extent of a body that was found on line `a`, seen from the whole source. -/
theorem Extent.EndsBody.declaration {lines : List (List Char)} {a stop : Nat} {extent : Extent}
    {d : Declaration} (h : extent.EndsBody (stretch lines a stop)) (hstop : stop ≤ lines.length)
    (hclosed : d.closed = extent.closed) (hline : d.lineEnd = ((a + extent.line + 1 : Nat) : Int))
    (hcolumn : d.columnEnd = extent.column.map Int.ofNat) : d.EndsBody lines stop := by
  refine ⟨fun hd => ?_, fun _ hd => ?_⟩
  · obtain ⟨hnone, hlast⟩ := h.unclosed (hclosed ▸ hd)
    rw [length_stretch hstop] at hlast
    refine ⟨by rw [hcolumn, hnone, Option.map_none], ?_⟩
    rw [hline]
    omega
  · obtain ⟨column, line, hsome, hget, hcloses⟩ := h.closed (hclosed ▸ hd)
    have hlt : a + extent.line < stop := by
      have hbound := (List.getElem?_eq_some_iff.mp hget).1
      rw [length_stretch hstop] at hbound
      omega
    rw [getElem?_stretch hlt] at hget
    exact ⟨a + extent.line, line, column, hline, hget, by rw [hcolumn, hsome]; rfl, hcloses⟩

/-- Where an entity ends that was found on lines up to line `stop`. -/
theorem Dialect.Found.endsBody {d : Dialect} {lines : List (List Char)} {inClass : Bool}
    {stop : Nat} {e : Entity} (h : d.Found lines inClass stop e) (hstop : stop ≤ lines.length) :
    e.declaration.EndsBody lines stop := by
  cases h with
  | @ofClass a head inner lt head_eq inner_eq =>
    have hbody := Dialect.endsBody_of_classHead? (Outline.stretch_ne_nil lt hstop) head_eq
    exact hbody.declaration hstop rfl (by simp [ClassHead.declaration]) rfl
  | @ofFunction a head lt head_eq =>
    have hbody := Dialect.endsBody_of_functionHead? (Outline.stretch_ne_nil lt hstop) head_eq
    split at hbody
    · exact hbody.declaration hstop rfl (by simp [FunctionHead.declaration]) rfl
    · next hnone =>
      -- there is no body to be closed
      refine ⟨fun hclosed => ?_, fun hsome => absurd hsome hnone⟩
      exact absurd (hclosed.symm.trans hbody) (by decide)

/-! ### Warnings -/

/-- Whether the end of a declaration was not found. -/
def Entity.isUnclosed (e : Entity) : Bool := !e.declaration.closed

/-- The warnings about some entities, in their order. -/
def Entity.unclosedWarnings (es : List Entity) : List String :=
  (es.filter isUnclosed).map fun e => e.declaration.unclosedWarning

namespace Entity

theorem unclosedWarnings_cons (e : Entity) (rest : List Entity) :
    unclosedWarnings (e :: rest) = warningsOf e.declaration ++ unclosedWarnings rest := by
  rw [unclosedWarnings, unclosedWarnings, warningsOf, List.filter_cons, isUnclosed]
  cases e.declaration.closed <;> rfl

theorem unclosedWarnings_append (xs ys : List Entity) :
    unclosedWarnings (xs ++ ys) = unclosedWarnings xs ++ unclosedWarnings ys := by
  rw [unclosedWarnings, List.filter_append, List.map_append]
  rfl

end Entity

open Entity in
/-- The warnings of a scan are those about its entities, parents first. -/
theorem Dialect.warnings_scanRange (d : Dialect) (inClass : Bool) (depth : Int) (index : Nat)
    (lines : List (List Char)) :
    (d.scanRange inClass depth index lines).warnings =
      unclosedWarnings (preorderAll (d.scanRange inClass depth index lines).entities) := by
  fun_induction scanRange d inClass depth index lines with
  | case1 => rfl
  | case2 inClass depth index line rest head hhead inner declaration after ihm ihr =>
    rw [preorderAll_cons, unclosedWarnings_cons, unclosedWarnings_append, ← ihm, ← ihr,
      List.append_assoc]
    rfl
  | case3 inClass depth index line rest hclass head hhead declaration after ihr =>
    rw [preorderAll_cons, unclosedWarnings_cons, preorderAll_nil, List.nil_append, ← ihr]
    rfl
  | case4 inClass depth index line rest hclass hfunction field after ihr => exact ihr

/-! ### The report -/

/-- The warnings and the entities of an outline of some lines. -/
structure Outline.ReportsUnclosed (lines : List (List Char)) (entities : List Entity)
    (warnings : List String) : Prop where
  /-- There is a warning for each unclosed entity, parents first, and no other. -/
  warnings_eq : warnings = Entity.unclosedWarnings (Entity.preorderAll entities)
  /-- An unclosed entity that is in no class runs to the last line. -/
  outermost : ∀ e ∈ entities, e.declaration.closed = false →
    e.declaration.columnEnd = none ∧ e.declaration.lineEnd = lines.length
  /-- An unclosed member runs to the last line of its class. -/
  members : ∀ e ∈ Entity.preorderAll entities, ∀ m ∈ e.children, m.declaration.closed = false →
    m.declaration.columnEnd = none ∧ m.declaration.lineEnd = e.declaration.lineEnd
  /-- A closed body ends right behind a closing brace. -/
  closed : ∀ e ∈ Entity.preorderAll entities, e.declaration.hasBody = true →
    e.declaration.closed = true → ∃ number line column,
      e.declaration.lineEnd = ((number + 1 : Nat) : Int) ∧ lines[number]? = some line ∧
        e.declaration.columnEnd = some ((column : Nat) : Int) ∧ ClosesAt line column

/-- The outline of a source reports what is unclosed. -/
theorem Dialect.reportsUnclosed_outline (d : Dialect) (masked : List Char) :
    Outline.ReportsUnclosed (Text.lines masked) (d.outline masked).entities
      (d.outline masked).warnings where
  warnings_eq := d.warnings_scanRange false 0 0 (Text.lines masked)
  outermost e he := ((found_of_mem_outline he).endsBody (Nat.le_refl _)).unclosed
  members e he m hm hclosed := by
    obtain ⟨inClass, stop, hstop, hfound⟩ := exists_found_of_mem_outline e he
    obtain ⟨stop', hend, hle, hmember⟩ := hfound.member hstop hm
    obtain ⟨hcolumn, hline⟩ := (hmember.endsBody (Nat.le_trans hle hstop)).unclosed hclosed
    exact ⟨hcolumn, hline.trans hend.symm⟩
  closed e he := by
    obtain ⟨inClass, stop, hstop, hfound⟩ := exists_found_of_mem_outline e he
    exact (hfound.endsBody hstop).closed

theorem Entity.unclosedWarnings_measured (rules : CountingRules) (text : List (List Char))
    (es : List Entity) :
    unclosedWarnings (es.map (map (·.measured rules text))) = unclosedWarnings es := by
  induction es with
  | nil => rfl
  | cons e rest ih =>
    rw [List.map_cons, unclosedWarnings_cons, unclosedWarnings_cons, ih, declaration_map]
    rfl

/-- Scores change neither where entities end nor what is reported. -/
theorem Outline.ReportsUnclosed.measured {lines : List (List Char)} {es : List Entity}
    {warnings : List String} (h : ReportsUnclosed lines es warnings) (rules : CountingRules)
    (text : List (List Char)) :
    ReportsUnclosed lines (Entity.mapAll (·.measured rules text) es) warnings := by
  have hall : ∀ x ∈ Entity.preorderAll (Entity.mapAll (·.measured rules text) es),
      ∃ e ∈ Entity.preorderAll es, x = e.map (·.measured rules text) := by
    intro x hx
    rw [Entity.preorderAll_mapAll] at hx
    obtain ⟨e, he, rfl⟩ := List.mem_map.mp hx
    exact ⟨e, he, rfl⟩
  refine ⟨?_, ?_, ?_, ?_⟩
  · rw [Entity.preorderAll_mapAll, Entity.unclosedWarnings_measured]
    exact h.warnings_eq
  · intro x hx
    rw [Entity.mapAll_eq_map] at hx
    obtain ⟨⟨d, members⟩, he, rfl⟩ := List.mem_map.mp hx
    exact h.outermost (.node d members) he
  · intro x hx m hm
    obtain ⟨⟨d, members⟩, he, rfl⟩ := hall x hx
    rw [Entity.map, Entity.children, Entity.mapAll_eq_map] at hm
    obtain ⟨⟨d', members'⟩, hm', rfl⟩ := List.mem_map.mp hm
    exact h.members (.node d members) he (.node d' members') hm'
  · intro x hx
    obtain ⟨⟨d, members⟩, he, rfl⟩ := hall x hx
    exact h.closed (.node d members) he

namespace Scanner

/-- **Unclosed declarations are reported exactly**, before and after scoring: one warning for each,
parents before their members. They run to the end of their class or of the text, and every other
body ends behind a closing brace. -/
theorem unclosed_reported {s : Scanner} (hs : s ∈ builtinScanners) (source : List Char) :
    let masked := mask s.dialect.rules source
    let lines := Text.lines masked
    let outline := s.dialect.outline masked
    Outline.ReportsUnclosed lines outline.entities outline.warnings ∧
      ∀ rules, ∃ analysis, s.analyze rules source = .ok analysis ∧
        Outline.ReportsUnclosed lines analysis.entities analysis.warnings := by
  intro masked lines outline
  have houtline := s.dialect.reportsUnclosed_outline masked
  refine ⟨houtline, fun rules => ?_⟩
  refine ⟨s.dialect.analyze rules source, ?_, houtline.measured rules lines⟩
  rw [analyze, failure_of_mem_builtin hs]

/-- A class and, inside it, a method without their closing braces: two warnings, the one for the
class first, and the method runs to the end of the class. -/
theorem unclosed_reported_nested :
    let source := "class A \x7b\n  int f() \x7b\n    g();\n  \x7d\n  void h() \x7b\n    g();".toList
    let outline := Java.dialect.outline (mask Java.dialect.rules source)
    Java.scanner ∈ builtinScanners ∧
      outline.warnings =
        ["class 'A' at line 1 has no closing brace; extended to line 6",
         "function 'h' at line 5 has no closing brace; extended to line 6"] ∧
      Outline.ReportsUnclosed (Text.lines (mask Java.dialect.rules source)) outline.entities
        outline.warnings := by
  intro source outline
  have hmem : Java.scanner ∈ builtinScanners := List.mem_cons_self
  exact ⟨hmem, by decide +kernel, (unclosed_reported hmem source).1⟩

end Scanner

end SourceMetrics
