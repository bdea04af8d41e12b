import SourceMetrics.Proofs.Outline.Forest

/-!
# Where the entities of an outline come from

A scan goes over a stretch of lines. It finds an entity on a line if the lines from there to the end
of the stretch have the head of a class or of a function, and the members of a class are found in
turn on the lines of the class. `Dialect.Found` says of an entity where it was found, by which head,
and where the stretch ended. This holds of every entity of an outline, so that a statement about all
entities is one about heads, and nothing about the order in which the scan goes has to be proved
again.

## Main definitions

* `Outline.stretch` — some lines of a source
* `Dialect.Found` — an entity was found by its head

## Main results

* `Dialect.found_of_mem_scanRange` — what the scan of a stretch finds
* `Dialect.Found.member` — members are found on the lines of their class
* `Dialect.exists_found_of_mem_outline` — all entities of an outline are found somewhere
-/

namespace SourceMetrics

namespace Outline

/-- The lines from number `first` up to, not including, number `stop`. -/
def stretch (lines : List (List Char)) (first stop : Nat) : List (List Char) :=
  (lines.take stop).drop first

variable {lines : List (List Char)} {first stop : Nat}

theorem drop_stretch (lines : List (List Char)) (first stop n : Nat) :
    (stretch lines first stop).drop n = stretch lines (first + n) stop := List.drop_drop

theorem length_stretch (h : stop ≤ lines.length) (first : Nat) :
    (stretch lines first stop).length = stop - first := by
  rw [stretch, List.length_drop, List.length_take, Nat.min_eq_left h]

theorem getElem?_stretch {i : Nat} (h : first + i < stop) :
    (stretch lines first stop)[i]? = lines[first + i]? := by
  rw [stretch, List.getElem?_drop, List.getElem?_take_of_lt h]

theorem stretch_ne_nil (h : first < stop) (hstop : stop ≤ lines.length) :
    stretch lines first stop ≠ [] := by
  rw [← List.length_pos_iff, length_stretch hstop]
  omega

theorem stretch_all (lines : List (List Char)) : stretch lines 0 lines.length = lines := by
  rw [stretch, List.take_length, List.drop_zero]

theorem stretch_isPrefix (lines : List (List Char)) (first stop : Nat) :
    stretch lines first stop <+: lines.drop first := by
  rw [stretch, List.drop_take]
  exact List.take_prefix _ _

/-- The inner lines of a class are a stretch of the source. -/
theorem innerLines_stretch {head : ClassHead} (h : first + head.extent.line < stop) :
    head.innerLines (stretch lines first stop) =
      stretch lines (first + head.body.line + 1) (first + head.extent.line + 1) := by
  rw [ClassHead.innerLines, stretch, stretch, List.take_drop, List.take_take, List.drop_drop,
    Nat.min_eq_left (by omega)]
  rfl

end Outline

namespace Dialect

open Outline

/-- The entity was found on a stretch of lines that ends before line `stop`: there is a line on
which the head of a class or a function stands, and the declaration says what the head does. The
members and the fields of a class are those of its inner lines. -/
inductive Found (d : Dialect) (lines : List (List Char)) (inClass : Bool) (stop : Nat) :
    Entity → Prop
  | ofClass {a : Nat} {head : ClassHead} {inner : Outline} (lt : a < stop)
      (head_eq : d.classHead? (stretch lines a stop) = some head)
      (inner_eq : d.scanRange true (head.innerDepth (stretch lines a stop)) (a + head.body.line + 1)
        (stretch lines (a + head.body.line + 1) (a + head.extent.line + 1)) = inner) :
      Found d lines inClass stop (.node (head.declaration a inner.fields.eraseDups) inner.entities)
  | ofFunction {a : Nat} {head : FunctionHead} (lt : a < stop)
      (head_eq : d.functionHead? inClass (stretch lines a stop) = some head) :
      Found d lines inClass stop (.node (head.declaration a) [])

variable {d : Dialect} {lines : List (List Char)} {stop : Nat} {e : Entity}

theorem lt_of_stretch_eq_cons {index : Nat} {line : List Char} {rest : List (List Char)}
    (hstop : stop ≤ lines.length) (h : stretch lines index stop = line :: rest) : index < stop := by
  have hlength := length_stretch hstop index
  rw [h, List.length_cons] at hlength
  omega

/-- A stretch starts with the line of its number. -/
theorem getElem?_of_stretch_eq_cons {index : Nat} {line : List Char} {rest : List (List Char)}
    (hstop : stop ≤ lines.length) (h : stretch lines index stop = line :: rest) :
    lines[index]? = some line := by
  have hget : (stretch lines index stop)[0]? = lines[index]? :=
    getElem?_stretch (lt_of_stretch_eq_cons hstop h)
  rw [← hget, h]
  rfl

/-- **What the scan of a stretch finds.** -/
theorem found_of_mem_scanRange (d : Dialect) (inClass : Bool) (depth : Int) (index : Nat)
    (hstop : stop ≤ lines.length)
    (he : e ∈ (d.scanRange inClass depth index (stretch lines index stop)).entities) :
    d.Found lines inClass stop e := by
  generalize hrange : stretch lines index stop = range at he
  fun_induction scanRange d inClass depth index range with
  | case1 => cases he
  | case2 inClass depth index line rest head hhead inner declaration after _ ih =>
    have hlt := lt_of_stretch_eq_cons hstop hrange
    have hextent := (fits_of_classHead? (List.cons_ne_nil line rest) hhead).2.line_lt
    obtain rfl | he := List.mem_cons.mp he
    · rw [← hrange] at hhead
      refine .ofClass hlt hhead ?_
      rw [← innerLines_stretch, hrange]
      rw [← hrange, length_stretch hstop] at hextent
      omega
    · exact ih (by rw [← hrange, drop_stretch, Nat.add_assoc]) he
  | case3 inClass depth index line rest hclass head hhead declaration after ih =>
    obtain rfl | he := List.mem_cons.mp he
    · rw [← hrange] at hhead
      exact .ofFunction (lt_of_stretch_eq_cons hstop hrange) hhead
    · exact ih (by rw [← hrange, drop_stretch, Nat.add_assoc]) he
  | case4 inClass depth index line rest hclass hfunction field after ih =>
    refine ih ?_ he
    rw [← drop_stretch, hrange, List.drop_one, List.tail_cons]

/-- The lines that a class spans from the line it was found on. -/
theorem classHead?_line_lt {a : Nat} {head : ClassHead} (hlt : a < stop)
    (hstop : stop ≤ lines.length)
    (h : d.classHead? (stretch lines a stop) = some head) : a + head.extent.line < stop := by
  have hextent := (fits_of_classHead? (stretch_ne_nil hlt hstop) h).2.line_lt
  rw [length_stretch hstop] at hextent
  omega

/-- **Members are found on the lines of their class**, which end where the class does. -/
theorem Found.member {inClass : Bool} (h : d.Found lines inClass stop e)
    (hstop : stop ≤ lines.length) {m : Entity} (hm : m ∈ e.children) :
    ∃ stop' : Nat, e.declaration.lineEnd = stop' ∧ stop' ≤ stop ∧ d.Found lines true stop' m := by
  cases h with
  | @ofClass a head inner lt head_eq inner_eq =>
    have hend := classHead?_line_lt lt hstop head_eq
    refine ⟨a + head.extent.line + 1, by simp [ClassHead.declaration], hend, ?_⟩
    rw [← inner_eq] at hm
    exact found_of_mem_scanRange d true _ _ (by omega) hm
  | ofFunction lt head_eq => cases hm

end Dialect

/-- What holds of some entities, and with an entity of its members, holds of all entities
at any depth. -/
theorem Entity.forall_mem_preorderAll {p : Entity → Prop}
    (hstep : ∀ e, p e → ∀ m ∈ e.children, p m) :
    ∀ {es : List Entity}, (∀ e ∈ es, p e) → ∀ e ∈ preorderAll es, p e
  | [], _, _, he => by cases he
  | .node d members :: rest, hes, e, he => by
    have hfirst := hes _ List.mem_cons_self
    rw [preorderAll_cons] at he
    obtain rfl | he := List.mem_cons.mp he
    · exact hfirst
    · obtain he | he := List.mem_append.mp he
      · exact forall_mem_preorderAll hstep (hstep _ hfirst) e he
      · exact forall_mem_preorderAll hstep (fun x hx => hes x (List.mem_cons_of_mem _ hx)) e he

namespace Dialect

open Outline

variable {d : Dialect} {masked : List Char} {e : Entity}

/-- The entities of an outline that are inside no other were found on its lines. -/
theorem found_of_mem_outline (he : e ∈ (d.outline masked).entities) :
    d.Found (Text.lines masked) false (Text.lines masked).length e := by
  refine d.found_of_mem_scanRange false 0 0 (Nat.le_refl _) ?_
  rwa [stretch_all]

/-- **All entities of an outline were found somewhere.** -/
theorem exists_found_of_mem_outline :
    ∀ e ∈ Entity.preorderAll (d.outline masked).entities, ∃ inClass stop,
      stop ≤ (Text.lines masked).length ∧ d.Found (Text.lines masked) inClass stop e := by
  refine Entity.forall_mem_preorderAll ?_ fun x hx => ?_
  · rintro x ⟨inClass, stop, hstop, hfound⟩ m hm
    obtain ⟨stop', -, hle, hmember⟩ := hfound.member hstop hm
    exact ⟨true, stop', Nat.le_trans hle hstop, hmember⟩
  · exact ⟨false, _, Nat.le_refl _, found_of_mem_outline hx⟩

end Dialect

end SourceMetrics
