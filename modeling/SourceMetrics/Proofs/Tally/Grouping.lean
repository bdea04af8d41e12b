import Mathlib.Data.List.Nodup
import SourceMetrics.Proofs.Tally.Histogram
import SourceMetrics.Proofs.Tally.Ranking
import SourceMetrics.Tally.Report

/-!
# Tallies in any grouping

Tallies of parts of a batch may be put together in any way: two at a time, in any order, with empty
tallies among them. The report is always the one of the batch taken file by file.

Grouping and order rest on different facts. Regrouping needs associativity, which holds for all
tallies. Reordering needs that tallies commute, and that is not true of all of them: two entities of
the same rank in files at the same position are told apart by nothing, and then the second wins. The
files of a batch have different positions, and this is where that is used.

## Main definitions

* `Tally.Same` — tallies that differ at most in the order in which names came into their histograms
* `Grouping` — a way to put tallies together

## Main results

* `Tally.combine_assoc`, `Tally.combine_comm_of_leaves` — the two facts
* `Tally.foldl_combine_perm` — tallies that commute may be reordered
* `Tally.report_grouping_eq` — the report of any grouping of a batch
-/

namespace SourceMetrics

/-! ### Spreads -/

namespace Spread

theorem merge_eq (op : Nat → Nat → Nat) (a b : Option Nat) :
    merge op a b = Option.merge op a b := by
  cases a <;> cases b <;> rfl

theorem merge_assoc (op : Nat → Nat → Nat) [Std.Associative op] (a b c : Option Nat) :
    merge op (merge op a b) c = merge op a (merge op b c) := by
  simp only [merge_eq]
  exact Std.Associative.assoc a b c

theorem merge_comm (op : Nat → Nat → Nat) [Std.Commutative op] (a b : Option Nat) :
    merge op a b = merge op b a := by
  simp only [merge_eq]
  exact Std.Commutative.comm a b

theorem combine_assoc (a b c : Spread) : (a.combine b).combine c = a.combine (b.combine c) := by
  simp only [combine, merge_assoc, Nat.add_assoc]

theorem combine_comm (a b : Spread) : a.combine b = b.combine a := by
  simp only [combine, merge_comm min a.least, merge_comm max a.greatest, Nat.add_comm a.total]

@[simp] theorem combine_empty_left (a : Spread) : combine {} a = a := by
  simp [combine, merge_eq]

@[simp] theorem combine_empty_right (a : Spread) : combine a {} = a := by
  simp [combine, merge_eq]

end Spread

namespace Tally

/-! ### What a tally says

Histograms are compared as mappings; everything else is compared as it is. -/

/-- A tally with its histograms as mappings from names to counts. -/
def view (t : Tally) : Tally × (String → Option Nat) × (String → Option Nat) :=
  ({ t with failureKinds := {}, languages := {} }, t.failureKinds.count?, t.languages.count?)

/-- Tallies that say the same. -/
def Same (a b : Tally) : Prop := a.view = b.view

theorem Same.refl (a : Tally) : a.Same a := rfl

theorem Same.symm {a b : Tally} (h : a.Same b) : b.Same a := Eq.symm h

theorem Same.trans {a b c : Tally} (hab : a.Same b) (hbc : b.Same c) : a.Same c := Eq.trans hab hbc

theorem same_iff {a b : Tally} :
    a.Same b ↔
      { a with failureKinds := {}, languages := {} } =
          ({ b with failureKinds := {}, languages := {} } : Tally) ∧
        a.failureKinds.count? = b.failureKinds.count? ∧
          a.languages.count? = b.languages.count? := by
  simp only [Same, view, Prod.mk.injEq]

/-- Putting tallies together does not look at the order of names. -/
theorem Same.combine {a a' b b' : Tally} (ha : a.Same a') (hb : b.Same b') :
    (a.combine b).Same (a'.combine b') := by
  rw [same_iff] at *
  refine ⟨?_, Histogram.count?_merge_congr ha.2.1 hb.2.1,
    Histogram.count?_merge_congr ha.2.2 hb.2.2⟩
  have hplain := congrArg₂ Tally.combine ha.1 hb.1
  simpa only [Tally.combine, Histogram.merge, List.foldl_nil] using hplain

/-- Tallies that say the same have the same report. -/
theorem Same.report_eq {a b : Tally} (h : a.Same b) : a.report = b.report := by
  obtain ⟨hplain, hkinds, hlanguages⟩ := same_iff.mp h
  simp only [Tally.mk.injEq, true_and] at hplain
  simp only [report, hplain, Histogram.toJson_congr hkinds, Histogram.toJson_congr hlanguages]

/-! ### Associativity and unit -/

theorem combine_assoc (a b c : Tally) :
    ((a.combine b).combine c).Same (a.combine (b.combine c)) := by
  rw [same_iff]
  refine ⟨?_, Histogram.count?_merge_assoc _ _ _, Histogram.count?_merge_assoc _ _ _⟩
  simp only [combine, Nat.add_assoc, Int.add_assoc, Spread.combine_assoc, Reference.pick_assoc]

theorem combine_empty_left (a : Tally) : (combine {} a).Same a := by
  rw [same_iff]
  refine ⟨?_, ?_, ?_⟩
  · simp [combine]
  · funext name
    simp [combine, Histogram.count?_merge]
  · funext name
    simp [combine, Histogram.count?_merge]

theorem combine_empty_right (a : Tally) : (a.combine {}).Same a := by
  rw [same_iff]
  refine ⟨?_, rfl, rfl⟩
  simp [combine]

/-! ### Commutativity -/

/-- Tallies commute if their most complex entities do. -/
theorem combine_comm_of_pick_comm {a b : Tally}
    (hfunction : Reference.pick a.topFunction b.topFunction =
      Reference.pick b.topFunction a.topFunction)
    (hclass : Reference.pick a.topClass b.topClass = Reference.pick b.topClass a.topClass) :
    (a.combine b).Same (b.combine a) := by
  rw [same_iff]
  refine ⟨?_, Histogram.count?_merge_comm _ _, Histogram.count?_merge_comm _ _⟩
  simp only [combine, hfunction, hclass, Spread.combine_comm a.cyclomatic,
    Spread.combine_comm a.cognitive, Nat.add_comm a.files, Nat.add_comm a.analyzed,
    Nat.add_comm a.failed, Nat.add_comm a.cancelled, Nat.add_comm a.lines, Int.add_comm a.size,
    Nat.add_comm a.functions, Nat.add_comm a.classes]

theorem order_of_mem_topFunction {r : FileResult} {order : Int} {x : Reference}
    (h : x ∈ (ofResult r order).topFunction) : x.order = order := by
  rw [ofResult] at h
  split at h
  · simp at h
  · exact Reference.order_of_best_eq_some h

theorem order_of_mem_topClass {r : FileResult} {order : Int} {x : Reference}
    (h : x ∈ (ofResult r order).topClass) : x.order = order := by
  rw [ofResult] at h
  split at h
  · simp at h
  · exact Reference.order_of_best_eq_some h

/-- The tallies of files at different positions commute. -/
theorem combine_comm_of_leaves {r s : FileResult} {i j : Int} (h : i ≠ j) :
    ((ofResult r i).combine (ofResult s j)).Same ((ofResult s j).combine (ofResult r i)) := by
  apply combine_comm_of_pick_comm
  · apply Reference.pick_comm_of_order_ne
    intro x hx y hy
    rwa [order_of_mem_topFunction hx, order_of_mem_topFunction hy]
  · apply Reference.pick_comm_of_order_ne
    intro x hx y hy
    rwa [order_of_mem_topClass hx, order_of_mem_topClass hy]

/-! ### Folds -/

theorem Same.foldl_combine {a b : Tally} (h : a.Same b) :
    ∀ leaves : List Tally, (leaves.foldl Tally.combine a).Same (leaves.foldl Tally.combine b)
  | [] => h
  | t :: rest => (h.combine (.refl t)).foldl_combine rest

/-- A fold may start anywhere: what it starts from is put in front. -/
theorem foldl_combine_same (a : Tally) :
    ∀ leaves : List Tally, (leaves.foldl combine a).Same (a.combine (leaves.foldl combine {}))
  | [] => (combine_empty_right a).symm
  | t :: rest => by
    rw [List.foldl_cons, List.foldl_cons]
    refine (foldl_combine_same (a.combine t) rest).trans ((combine_assoc _ _ _).trans ?_)
    refine Same.combine (.refl a) ?_
    refine (foldl_combine_same t rest).symm.trans ?_
    exact Same.foldl_combine (combine_empty_left t).symm rest

/-- Tallies that commute pairwise may be put together in any order. -/
theorem foldl_combine_perm {xs ys : List Tally} (hperm : xs.Perm ys) (a : Tally)
    (hcomm : ∀ x ∈ xs, ∀ y ∈ xs, (x.combine y).Same (y.combine x)) :
    (xs.foldl combine a).Same (ys.foldl combine a) := by
  induction hperm generalizing a with
  | nil => exact .refl a
  | cons t _ ih =>
    exact ih _ fun x hx y hy => hcomm x (List.mem_cons_of_mem t hx) y (List.mem_cons_of_mem t hy)
  | swap s t rest =>
    refine Same.foldl_combine ?_ rest
    have hst : (t.combine s).Same (s.combine t) := hcomm t (by simp) s (by simp)
    exact (combine_assoc a t s).trans
      ((Same.combine (.refl a) hst).trans (combine_assoc a s t).symm)
  | trans hxy _ ihxy ihyz =>
    refine (ihxy a hcomm).trans (ihyz a fun x hx y hy => ?_)
    exact hcomm x (hxy.mem_iff.mpr hx) y (hxy.mem_iff.mpr hy)

end Tally

/-! ### Groupings -/

/-- A way to put tallies together, two at a time. Nothing at all is a grouping as well, so empty
tallies may stand anywhere. -/
inductive Grouping where
  | empty
  | leaf (t : Tally)
  | join (left right : Grouping)

namespace Grouping

/-- The tallies that are put together, from left to right. -/
def leaves : Grouping → List Tally
  | empty => []
  | leaf t => [t]
  | join left right => left.leaves ++ right.leaves

/-- The tally that a grouping amounts to. -/
def tally : Grouping → Tally
  | empty => {}
  | leaf t => t
  | join left right => left.tally.combine right.tally

/-- The bracketing of a grouping does not matter. -/
theorem tally_same_foldl (g : Grouping) : g.tally.Same (g.leaves.foldl Tally.combine {}) := by
  induction g with
  | empty => exact .refl _
  | leaf t => exact (Tally.combine_empty_left t).symm
  | join left right ihl ihr =>
    rw [tally, leaves, List.foldl_append]
    exact (ihl.combine ihr).trans (Tally.foldl_combine_same _ _).symm

end Grouping

namespace Tally

/-- The tallies of results at given positions. -/
def leavesAt (batch : List (FileResult × Int)) : List Tally := batch.map fun p => ofResult p.1 p.2

theorem combine_comm_of_mem_leavesAt {batch : List (FileResult × Int)}
    (hnodup : (batch.map Prod.snd).Nodup) :
    ∀ x ∈ leavesAt batch, ∀ y ∈ leavesAt batch, (x.combine y).Same (y.combine x) := by
  intro x hx y hy
  obtain ⟨p, hp, rfl⟩ := List.mem_map.mp hx
  obtain ⟨q, hq, rfl⟩ := List.mem_map.mp hy
  by_cases h : p.2 = q.2
  · -- the same position is the same file
    rw [List.inj_on_of_nodup_map hnodup hp hq h]
    exact .refl _
  · exact combine_comm_of_leaves h

theorem leavesFrom_eq (results : List FileResult) (order : Nat) :
    leavesFrom order results =
      leavesAt ((results.zipIdx order).map fun p => (p.1, (p.2 : Int))) := by
  induction results generalizing order with
  | nil => rfl
  | cons r rest ih =>
    rw [leavesFrom, ih, List.zipIdx_cons]
    rfl

/-- **A batch may be tallied in any grouping and order.** Tallies form a monoid, and however the
tallies of files at different positions are put together, the report is that of the files taken in
turn. With the positions `0, 1, 2, …` this is the report on the batch. -/
theorem report_grouping_eq :
    (∀ a b c : Tally, ((a.combine b).combine c).Same (a.combine (b.combine c))) ∧
    (∀ a : Tally, (combine {} a).Same a ∧ (a.combine {}).Same a) ∧
    (∀ batch : List (FileResult × Int), (batch.map Prod.snd).Nodup →
      ∀ g : Grouping, g.leaves.Perm (leavesAt batch) →
        g.tally.report = ((leavesAt batch).foldl combine {}).report) ∧
    ∀ results : List FileResult,
      ofResults results =
        (leavesAt (results.zipIdx.map fun p => (p.1, (p.2 : Int)))).foldl combine {} := by
  refine ⟨combine_assoc, fun a => ⟨combine_empty_left a, combine_empty_right a⟩, ?_, ?_⟩
  · intro batch hnodup g hperm
    have hcomm := combine_comm_of_mem_leavesAt hnodup
    have hfold := foldl_combine_perm hperm.symm {} hcomm
    exact (g.tally_same_foldl.trans hfold.symm).report_eq
  · intro results
    rw [ofResults, leavesFrom_eq]

/-- Two files whose functions differ in nothing but the position of the file, put together in the
opposite order with an empty tally between them. -/
theorem report_grouping_eq_swapped :
    let file (path : String) : FileResult :=
      .success
        { source := ⟨path, some "java", [], 0⟩
          entities := [.node { name := "f", lineStart := 1, lineEnd := 1 } []]
          score := {} }
    let batch : List (FileResult × Int) := [(file "a", 4), (file "b", 2)]
    (batch.map Prod.snd).Nodup ∧
      (Grouping.join (.leaf (ofResult (file "b") 2))
          (.join .empty (.leaf (ofResult (file "a") 4)))).tally.report =
        ((leavesAt batch).foldl combine {}).report := by
  intro file batch
  have hnodup : (batch.map Prod.snd).Nodup := by decide
  exact ⟨hnodup, report_grouping_eq.2.2.1 batch hnodup _ (.swap _ _ _)⟩

end Tally

end SourceMetrics
