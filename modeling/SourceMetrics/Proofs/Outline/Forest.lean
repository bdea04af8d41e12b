import Mathlib.Data.List.Basic
import SourceMetrics.Proofs.Outline.Block

/-!
# Where the entities of an outline stand

The entities of an outline lie on its lines as brackets lie in a text: of two entities one stands
wholly before the other or inside it. `Outline.Forest` is this shape for the entities on a stretch
of lines, one after the other, with the members of a class on the lines behind its first one. That a
scan builds such a forest is proved once, by induction over the scan; what the entities of a forest
have in common is then proved by induction over the forest and knows nothing of patterns, headers
and bodies.

## Main definitions

* `Declaration.Covers` — a declaration covers a stretch of lines
* `Outline.Forest` — entities laid out on a stretch of lines

## Main results

* `Dialect.forest_outline` — an outline is a forest on the lines of its source
* `Outline.Forest.of_mem` — every entity of a forest covers some of its lines
* `Outline.Forest.pairwise_lineStart` — parents first, the first lines ascend
-/

namespace SourceMetrics

/-- The declaration covers the lines from number `a` to number `b`, counted from zero, from the
start of the first to the end of the last or to a closing brace on it. -/
structure Declaration.Covers (lines : List (List Char)) (a b : Nat) (d : Declaration) : Prop where
  lineStart : d.lineStart = a + 1
  lineEnd : d.lineEnd = b + 1
  le : a ≤ b
  columnStart : d.columnStart = 0
  columnEnd : ∀ k ∈ d.columnEnd, ∃ line n, lines[b]? = some line ∧ ClosesAt line n ∧ k = (n : Int)

/-- Entities on the lines from number `first` up to, not including, number `stop`: each behind
the one before it, the members of a class behind its first line and not behind its last, and none
in a function. -/
inductive Outline.Forest (lines : List (List Char)) : Nat → Nat → List Entity → Prop
  | nil {first stop : Nat} : Forest lines first stop []
  | cons {first stop a b : Nat} {d : Declaration} {members rest : List Entity}
      (covers : d.Covers lines a b) (le : first ≤ a) (lt : b < stop)
      (leaf : d.kind = .function → members = []) (inner : Forest lines (a + 1) (b + 1) members)
      (after : Forest lines (b + 1) stop rest) : Forest lines first stop (.node d members :: rest)

theorem Outline.Forest.mono_first {lines : List (List Char)} {first first' stop : Nat}
    {es : List Entity} (h : Forest lines first stop es) (hle : first' ≤ first) :
    Forest lines first' stop es := by
  cases h with
  | nil => exact .nil
  | cons covers le lt leaf inner after =>
    exact .cons covers (Nat.le_trans hle le) lt leaf inner after

/-! ### What the entities of a forest have in common -/

namespace Entity

@[simp] theorem declaration_node (d : Declaration) (members : List Entity) :
    (node d members).declaration = d := rfl

@[simp] theorem preorderAll_nil : preorderAll [] = [] := rfl

@[simp] theorem preorderAll_cons (d : Declaration) (members rest : List Entity) :
    preorderAll (.node d members :: rest) =
      .node d members :: (preorderAll members ++ preorderAll rest) := by
  rw [preorderAll, preorder, List.cons_append]

theorem mem_preorderAll_of_mem {es : List Entity} {e : Entity} (h : e ∈ es) :
    e ∈ preorderAll es := by
  induction es with
  | nil => cases h
  | cons x rest ih =>
    obtain ⟨d, members⟩ := x
    rw [preorderAll_cons]
    obtain rfl | h := List.mem_cons.mp h
    · exact List.mem_cons_self
    · exact List.mem_cons_of_mem _ (List.mem_append_right _ (ih h))

end Entity

namespace Outline.Forest

open Entity

variable {lines : List (List Char)} {first stop : Nat} {es : List Entity}

/-- Every entity of a forest covers some of its lines. A function has no members, and the members of
any entity are a forest on its lines behind the first one. -/
theorem of_mem (h : Forest lines first stop es) {e : Entity} (he : e ∈ preorderAll es) :
    ∃ a b, e.declaration.Covers lines a b ∧ first ≤ a ∧ b < stop ∧
      (e.declaration.kind = .function → e.children = []) ∧
      Forest lines (a + 1) (b + 1) e.children := by
  induction h with
  | nil => cases he
  | @cons first stop a b d members rest covers le lt leaf inner after ihm ihr =>
    rw [preorderAll_cons] at he
    obtain rfl | he := List.mem_cons.mp he
    · exact ⟨a, b, covers, le, lt, leaf, inner⟩
    · have hab := covers.le
      obtain he | he := List.mem_append.mp he
      · obtain ⟨a', b', hcovers, hle, hlt, hrest⟩ := ihm he
        exact ⟨a', b', hcovers, by omega, by omega, hrest⟩
      · obtain ⟨a', b', hcovers, hle, hlt, hrest⟩ := ihr he
        exact ⟨a', b', hcovers, by omega, hlt, hrest⟩

/-- A member of an entity of a forest is an entity of the forest. -/
theorem mem_of_mem_children (h : Forest lines first stop es) {e c : Entity}
    (he : e ∈ preorderAll es) (hc : c ∈ e.children) : c ∈ preorderAll es := by
  induction h with
  | nil => cases he
  | @cons first stop a b d members rest covers le lt leaf inner after ihm ihr =>
    rw [preorderAll_cons] at he ⊢
    apply List.mem_cons_of_mem
    obtain rfl | he := List.mem_cons.mp he
    · exact List.mem_append_left _ (mem_preorderAll_of_mem hc)
    · exact List.mem_append.mpr ((List.mem_append.mp he).imp ihm ihr)

theorem lt_lineStart (h : Forest lines first stop es) {e : Entity} (he : e ∈ preorderAll es) :
    (first : Int) < e.declaration.lineStart := by
  obtain ⟨a, b, covers, hle, -⟩ := h.of_mem he
  rw [covers.lineStart]
  omega

/-- An entity ends before any later one beside it starts. -/
theorem pairwise_lineEnd (h : Forest lines first stop es) :
    es.Pairwise fun x y => x.declaration.lineEnd < y.declaration.lineStart := by
  induction h with
  | nil => exact .nil
  | @cons first stop a b d members rest covers le lt leaf inner after ihm ihr =>
    refine .cons (fun y hy => ?_) ihr
    have hlt := after.lt_lineStart (mem_preorderAll_of_mem hy)
    have hend := covers.lineEnd
    rw [declaration_node]
    omega

/-- Parents before their members, the first lines of the entities ascend. -/
theorem pairwise_lineStart (h : Forest lines first stop es) :
    (preorderAll es).Pairwise fun x y => x.declaration.lineStart < y.declaration.lineStart := by
  induction h with
  | nil => exact .nil
  | @cons first stop a b d members rest covers le lt leaf inner after ihm ihr =>
    have hstart := covers.lineStart
    have hab := covers.le
    rw [preorderAll_cons, List.pairwise_cons, List.pairwise_append]
    refine ⟨fun y hy => ?_, ihm, ihr, fun x hx y hy => ?_⟩
    · -- a member starts behind its class, and what comes later behind the whole of it
      obtain hy | hy := List.mem_append.mp hy
      · have := inner.lt_lineStart hy
        rw [declaration_node]
        omega
      · have := after.lt_lineStart hy
        rw [declaration_node]
        omega
    · obtain ⟨a', b', hcovers, -, hlt, -⟩ := inner.of_mem hx
      have := after.lt_lineStart hy
      have := hcovers.lineStart
      have := hcovers.le
      omega

end Outline.Forest

/-! ### Scanning builds a forest -/

namespace Extent

/-- Where an extent that fits ends on a longer list of lines. -/
theorem Fits.closesAt_of_isPrefix {lines all : List (List Char)} {index : Nat} {e : Extent}
    (h : e.Fits lines) (hall : lines <+: all.drop index) :
    ∀ k ∈ e.column.map Int.ofNat, ∃ line n, all[index + e.line]? = some line ∧ ClosesAt line n ∧
      k = (n : Int) := by
  intro k hk
  obtain ⟨n, hn, rfl⟩ := Option.map_eq_some_iff.mp hk
  obtain ⟨line, hline, hcloses⟩ := h.closesAt n hn
  obtain ⟨more, hmore⟩ := hall
  refine ⟨line, n, ?_, hcloses, rfl⟩
  rw [← List.getElem?_drop, ← hmore, List.getElem?_append_left h.line_lt, hline]

end Extent

/-- The lines behind some of those that start a text start the rest of the text. -/
theorem drop_isPrefix_drop {lines all : List (List Char)} {index : Nat}
    (h : lines <+: all.drop index) (n : Nat) : lines.drop n <+: all.drop (index + n) := by
  obtain ⟨more, hmore⟩ := h
  rw [← List.drop_drop, ← hmore, List.drop_append]
  exact List.prefix_append _ _

/-- What is left behind line `n` of a range ends where the range does. -/
theorem add_length_drop {lines : List (List Char)} {n : Nat} (h : n < lines.length) (index : Nat) :
    index + n + 1 + (lines.drop (n + 1)).length = index + lines.length := by
  rw [List.length_drop]
  omega

namespace Dialect

open Outline

/-- The outline of a range is a forest on the lines of the range. -/
theorem forest_scanRange (d : Dialect) (inClass : Bool) (depth : Int) (index : Nat)
    {lines all : List (List Char)} (h : lines <+: all.drop index) :
    Forest all index (index + lines.length) (d.scanRange inClass depth index lines).entities := by
  fun_induction scanRange d inClass depth index lines with
  | case1 => exact .nil
  | case2 inClass depth index line rest head hhead inner declaration after ihm ihr =>
    obtain ⟨hbody, hfits⟩ := fits_of_classHead? (List.cons_ne_nil line rest) hhead
    have hlt := hfits.line_lt
    have hinner : head.innerLines (line :: rest) <+: all.drop (index + head.body.line + 1) :=
      drop_isPrefix_drop ((List.take_prefix _ _).trans h) _
    have hafter := ihr (drop_isPrefix_drop h (head.extent.line + 1))
    rw [add_length_drop hlt] at hafter
    have hmembers : Forest all (index + 1) (index + head.extent.line + 1) inner.entities := by
      have hstop : index + head.body.line + 1 + (head.innerLines (line :: rest)).length =
          index + head.extent.line + 1 := by
        rw [ClassHead.innerLines, List.length_drop, List.length_take]
        omega
      rw [← hstop]
      exact (ihm hinner).mono_first (by omega)
    exact .cons ⟨rfl, by simp [declaration, ClassHead.declaration], by omega, rfl,
      hfits.closesAt_of_isPrefix h⟩ (Nat.le_refl _) (by omega) nofun hmembers hafter
  | case3 inClass depth index line rest hclass head hhead declaration after ihr =>
    have hfits := fits_of_functionHead? (List.cons_ne_nil line rest) hhead
    have hlt := hfits.line_lt
    have hafter := ihr (drop_isPrefix_drop h (head.extent.line + 1))
    rw [add_length_drop hlt] at hafter
    exact .cons ⟨rfl, by simp [declaration, FunctionHead.declaration], by omega, rfl,
      hfits.closesAt_of_isPrefix h⟩ (Nat.le_refl _) (by omega) (fun _ => rfl) .nil hafter
  | case4 inClass depth index line rest hclass hfunction field after ihr =>
    have hafter := ihr (drop_isPrefix_drop h 1)
    rw [show index + 1 + rest.length = index + (line :: rest).length by
      rw [List.length_cons]; omega] at hafter
    exact hafter.mono_first (Nat.le_succ index)

/-- An outline is a forest on the lines of its source. -/
theorem forest_outline (d : Dialect) (masked : List Char) :
    Forest (Text.lines masked) 0 (Text.lines masked).length (d.outline masked).entities := by
  have h := d.forest_scanRange false 0 0 (List.prefix_refl (Text.lines masked))
  rwa [Nat.zero_add] at h

end Dialect

end SourceMetrics
