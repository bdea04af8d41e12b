import SourceMetrics.Entity.Report
import SourceMetrics.FileResult.Basic
import SourceMetrics.Proofs.Masking
import SourceMetrics.Proofs.Outline.Forest
import SourceMetrics.Proofs.Outline.Lookup
import SourceMetrics.Registry.Default

/-!
# Outlines are well formed

The outline of a source by a scanner of the library: its entities stand on the lines of the masked
source, one behind the other and members inside their classes, so that going through them parents
first goes down the lines. A report lists all functions and all classes of a file and lets a class
refer to its members by name and first line; since no two entities share a first line, each such
reference stands for one entry of the lists. None of it depends on the source being a program.

## Main definitions

* `Entity.WellFormed` — a forest of entities on some number of lines

## Main results

* `Entity.wellFormed_of_forest` — a forest is well formed
* `Scanner.wellFormed_outline` — what the scanners of the library find is well formed
-/

namespace SourceMetrics

namespace Entity

/-- The entities `listed` have exactly one entry with the reference of `e`, and it is `e`. -/
def ReferredTo (listed : List Entity) (e : Entity) : Prop :=
  ∃ i, listed[i]? = some e ∧
    ∀ (j : Nat) (x : Entity), listed[j]? = some x → x.reference = e.reference → j = i

/-- A forest of entities on lines that are counted from one. -/
structure WellFormed (lineCount : Nat) (forest : List Entity) : Prop where
  /-- Every entity stands on some of the lines. -/
  lines : ∀ e ∈ preorderAll forest,
    1 ≤ e.declaration.lineStart ∧ e.declaration.lineStart ≤ e.declaration.lineEnd ∧
      e.declaration.lineEnd ≤ lineCount
  /-- An entity ends before the next one beside it starts. -/
  siblings : ∀ es ∈ forest :: (preorderAll forest).map children,
    es.IsChain fun x y => x.declaration.lineEnd < y.declaration.lineStart
  /-- A member starts behind the first line of its class and ends with it at the latest. -/
  members : ∀ e ∈ preorderAll forest, ∀ m ∈ e.children,
    e.declaration.lineStart < m.declaration.lineStart ∧
      m.declaration.lineEnd ≤ e.declaration.lineEnd
  /-- Nothing is declared inside a function. -/
  functions : ∀ e ∈ preorderAll forest, e.isFunction = true → e.children = []
  /-- Parents before their members, the first lines ascend. -/
  ascending : (preorderAll forest).Pairwise
    fun x y => x.declaration.lineStart < y.declaration.lineStart
  /-- A class refers to each of its methods. -/
  methods : ∀ e ∈ classes forest, ∀ m ∈ e.children.filter isFunction,
    ReferredTo (Entity.functions forest) m
  /-- A class refers to each of the classes inside it. -/
  nestedClasses : ∀ e ∈ classes forest, ∀ m ∈ e.children.filter isClass,
    ReferredTo (classes forest) m

theorem lineStart_eq_of_reference_eq {x y : Entity} (h : x.reference = y.reference) :
    x.declaration.lineStart = y.declaration.lineStart := by
  simp only [reference, Json.obj.injEq, List.cons.injEq, Prod.mk.injEq, Json.int.injEq] at h
  exact h.2.1.2

/-- Where the first lines ascend, an entry is found by its reference. -/
theorem referredTo_of_pairwise {listed : List Entity} {e : Entity}
    (h : listed.Pairwise fun x y => x.declaration.lineStart < y.declaration.lineStart)
    (he : e ∈ listed) : ReferredTo listed e := by
  obtain ⟨i, hi, rfl⟩ := List.getElem_of_mem he
  refine ⟨i, List.getElem?_eq_getElem hi, fun j x hx href => ?_⟩
  obtain ⟨hj, rfl⟩ := List.getElem?_eq_some_iff.mp hx
  have heq := lineStart_eq_of_reference_eq href
  rw [List.pairwise_iff_getElem] at h
  obtain hlt | rfl | hgt := Nat.lt_trichotomy j i
  · have := h j i hj hi hlt
    omega
  · rfl
  · have := h i j hi hj hgt
    omega

/-- A member of some sort is found by its reference among all entities of that sort. -/
theorem referredTo_of_mem_children {lines : List (List Char)} {first stop : Nat} {es : List Entity}
    (h : Outline.Forest lines first stop es) (sort : Entity → Bool) {e m : Entity}
    (he : e ∈ preorderAll es) (hm : m ∈ e.children.filter sort) :
    ReferredTo ((preorderAll es).filter sort) m := by
  obtain ⟨hmem, hsort⟩ := List.mem_filter.mp hm
  exact referredTo_of_pairwise (h.pairwise_lineStart.filter sort)
    (List.mem_filter.mpr ⟨h.mem_of_mem_children he hmem, hsort⟩)

/-- Entities that are laid out on all lines of a text are well formed. -/
theorem wellFormed_of_forest {lines : List (List Char)} {es : List Entity}
    (h : Outline.Forest lines 0 lines.length es) : WellFormed lines.length es where
  lines e he := by
    obtain ⟨a, b, covers, hle, hlt, -⟩ := h.of_mem he
    rw [covers.lineStart, covers.lineEnd]
    have := covers.le
    omega
  siblings group hgroup := by
    apply List.Pairwise.isChain
    obtain rfl | hgroup := List.mem_cons.mp hgroup
    · exact h.pairwise_lineEnd
    · obtain ⟨e, he, rfl⟩ := List.mem_map.mp hgroup
      obtain ⟨a, b, -, -, -, -, inner⟩ := h.of_mem he
      exact inner.pairwise_lineEnd
  members e he m hm := by
    obtain ⟨a, b, covers, -, -, -, inner⟩ := h.of_mem he
    obtain ⟨a', b', covers', hle, hlt, -⟩ := inner.of_mem (mem_preorderAll_of_mem hm)
    rw [covers.lineStart, covers.lineEnd, covers'.lineStart, covers'.lineEnd]
    omega
  functions e he hf := by
    obtain ⟨a, b, -, -, -, leaf, -⟩ := h.of_mem he
    exact leaf (by simpa [isFunction] using hf)
  ascending := h.pairwise_lineStart
  methods e he m hm := referredTo_of_mem_children h isFunction (List.mem_of_mem_filter he) hm
  nestedClasses e he m hm := referredTo_of_mem_children h isClass (List.mem_of_mem_filter he) hm

end Entity

/-! ### Scores change nothing -/

theorem Declaration.Covers.measured {lines text : List (List Char)} {a b : Nat} {d : Declaration}
    (h : d.Covers lines a b) (rules : CountingRules) : (d.measured rules text).Covers lines a b :=
  ⟨h.lineStart, h.lineEnd, h.le, h.columnStart, h.columnEnd⟩

/-- Scoring the declarations of a forest leaves them where they are. -/
theorem Outline.Forest.measured {lines text : List (List Char)} {first stop : Nat}
    {es : List Entity} (h : Forest lines first stop es) (rules : CountingRules) :
    Forest lines first stop (Entity.mapAll (·.measured rules text) es) := by
  induction h with
  | nil => exact .nil
  | @cons first stop a b d members rest covers le lt leaf inner after ihm ihr =>
    rw [Entity.mapAll, Entity.map]
    refine .cons (covers.measured rules) le lt (fun hkind => ?_) ihm ihr
    rw [leaf hkind, Entity.mapAll]

namespace Scanner

theorem anchored_of_mem_builtin {s : Scanner} (h : s ∈ builtinScanners) : s.dialect.Anchored := by
  revert s
  decide

theorem failure_of_mem_builtin {s : Scanner} (h : s ∈ builtinScanners) : s.failure = none := by
  revert s
  decide

/-- What a scanner of the library finds in a source, before and after scoring, is well formed: no
look-up of the scan fails, and the entities stand in order on the lines of the masked source, of
which there are no more than of the source. -/
theorem wellFormed_outline {s : Scanner} (hs : s ∈ builtinScanners) (source : SourceUnit) :
    let masked := mask s.dialect.rules source.text
    let lineCount := (Text.lines masked).length
    lineCount ≤ source.lineCount ∧
      (∃ outline, Checked.outline s.dialect masked = .ok outline ∧
        outline = s.dialect.outline masked ∧ Entity.WellFormed lineCount outline.entities) ∧
      ∀ rules, ∃ analysis, s.analyze rules source.text = .ok analysis ∧
        Entity.WellFormed lineCount analysis.entities := by
  intro masked lineCount
  have hforest := s.dialect.forest_outline masked
  refine ⟨length_lines_mask_le s.dialect.rules source.text, ?_, fun rules => ?_⟩
  · exact ⟨_, Dialect.checked_outline (anchored_of_mem_builtin hs) masked, rfl,
      Entity.wellFormed_of_forest hforest⟩
  · refine ⟨s.dialect.analyze rules source.text, by rw [analyze, failure_of_mem_builtin hs], ?_⟩
    exact Entity.wellFormed_of_forest (hforest.measured rules)

/-- A class that is never closed, with a form feed in a comment, a method and a class inside. -/
theorem wellFormed_outline_unclosed :
    let text := "class A \x7b /*\x0c*/\n  int f() \x7b return 1; \x7d\n  class B \x7b\n".toList
    let masked := mask Java.dialect.rules text
    Java.scanner ∈ builtinScanners ∧ (Text.lines masked).length ≤ (Text.lines text).length ∧
      Entity.WellFormed (Text.lines masked).length (Java.dialect.outline masked).entities := by
  intro text masked
  have hmem : Java.scanner ∈ builtinScanners := List.mem_cons_self
  obtain ⟨hle, ⟨outline, -, rfl, hwell⟩, -⟩ :=
    wellFormed_outline hmem ⟨"A.java", some "java", text, text.length⟩
  exact ⟨hmem, hle, hwell⟩

end Scanner

end SourceMetrics
