import Mathlib.Data.List.Induction
import SourceMetrics.Number.Total
import SourceMetrics.Proofs.Outline.Forest
import SourceMetrics.Proofs.Tally.Grouping

/-!
# What a report says about a batch

A report is computed from a tally, and a tally is put together file by file. What a report says is
said here without either: by counting, adding and comparing over the results of the batch as a list.
Each part of a tally is such a count, sum or choice, for a single file and, if it is for two
batches, for both together. That is the step (`Tally.Describes.combine`), and the report on a batch
follows by going along it (`Tally.describes_foldl`).

The most complex entity is chosen twice, within a file and among files, and both choices are one
choice from all references of the batch. The ranking leaves the path of the file out, but the
position of a file determines its path, so no two references of a batch have the same rank and only
one can be chosen.

## Main definitions

* `Batch.successes`, `Batch.kinds`, `Batch.languages` — what the results of a batch hold
* `Summary.ofValues`, `Histogram.Bars` — a measure and a count, from all values
* `Entity.Within` — an entity at any depth
* `Batch.Cited`, `Batch.MostComplex` — the references of a batch, and the highest among them
* `Tally.Describes` — a tally says how many, how much and which

## Main results

* `Tally.Describes.combine`, `Tally.describes_foldl` — two batches, and a whole one
* `Batch.mostComplex_iff` — which entity is the most complex one
* `Tally.report_ofResults` — the report on a batch
-/

namespace SourceMetrics

/-! ### The results of a batch -/

/-- What was found in a file that was analysed. -/
def FileResult.findings? (r : FileResult) : Option Findings :=
  match r.outcome with
  | .analyzed findings => some findings
  | .failed _ => none

/-- Why a file could not be analysed. -/
def FileResult.failure? (r : FileResult) : Option Failure :=
  match r.outcome with
  | .analyzed _ => none
  | .failed failure => some failure

namespace Batch

/-- The findings of a batch. -/
def successes (results : List FileResult) : List Findings := results.filterMap FileResult.findings?

/-- The kinds of the failures of a batch. -/
def kinds (results : List FileResult) : List String :=
  (results.filterMap FileResult.failure?).map fun failure => failure.kind.label

/-- The languages of the files that were analysed, where they have a name. -/
def languages (results : List FileResult) : List String :=
  (results.filter FileResult.succeeded).filterMap fun r => r.language.filter (· != "")

theorem successes_append (xs ys : List FileResult) :
    successes (xs ++ ys) = successes xs ++ successes ys :=
  List.filterMap_append

theorem kinds_append (xs ys : List FileResult) : kinds (xs ++ ys) = kinds xs ++ kinds ys := by
  rw [kinds, List.filterMap_append, List.map_append, kinds, kinds]

theorem languages_append (xs ys : List FileResult) :
    languages (xs ++ ys) = languages xs ++ languages ys := by
  rw [languages, List.filter_append, List.filterMap_append, languages, languages]

end Batch

/-! ### Sums and extremes -/

/-- The sum of a list of integers. -/
def Number.sum (values : List Int) : Int := values.foldr (· + ·) 0

theorem Number.sum_append (xs ys : List Int) : sum (xs ++ ys) = sum xs + sum ys := by
  induction xs with
  | nil => simp [sum]
  | cons x xs ih => exact (congrArg (x + ·) ih).trans (Int.add_assoc x _ _).symm

/-- Extremes and total of some values. -/
def Spread.ofValues (values : List Nat) : Spread := ⟨values.min?, values.max?, Number.total values⟩

theorem Spread.ofValues_append (xs ys : List Nat) :
    ofValues (xs ++ ys) = (ofValues xs).combine (ofValues ys) := by
  have hextremes : (xs ++ ys).min? = Option.merge min xs.min? ys.min? ∧
      (xs ++ ys).max? = Option.merge max xs.max? ys.max? := by
    induction xs with
    | nil => simp
    | cons x xs ih =>
      rw [List.cons_append, List.min?_cons, List.min?_cons, List.max?_cons, List.max?_cons, ih.1,
        ih.2]
      constructor
      · cases xs.min? <;> cases ys.min? <;> simp [Nat.min_assoc]
      · cases xs.max? <;> cases ys.max? <;> simp [Nat.max_assoc]
  simp only [ofValues, combine, merge_eq, hextremes, Number.total_append]

/-- Extremes, average and total of some values; of no values all of them are zero. -/
def Summary.ofValues (values : List Nat) : Summary :=
  { least := values.min?.getD 0
    greatest := values.max?.getD 0
    average :=
      if values = [] then .ofNat 0
      else (Number.Binary.ofRatio (Number.total values) values.length).roundTo 2
    total := Number.total values }

namespace Histogram

/-- The count of a name in a list, if it occurs. -/
def countOf (names : List String) (name : String) : Option Nat :=
  if names.count name = 0 then none else some (names.count name)

theorem countOf_append (xs ys : List String) (name : String) :
    countOf (xs ++ ys) name = Option.merge (· + ·) (countOf xs name) (countOf ys name) := by
  simp only [countOf, List.count_append]
  by_cases hxs : xs.count name = 0 <;> by_cases hys : ys.count name = 0 <;> simp [hxs, hys]

theorem count?_merge_countOf {a b : Histogram} {xs ys : List String} (ha : a.count? = countOf xs)
    (hb : b.count? = countOf ys) : (a.merge b).count? = countOf (xs ++ ys) := by
  funext name
  rw [count?_merge, ha, hb, countOf_append]

/-- The sum of all counts. -/
def sum (h : Histogram) : Nat := Number.total (h.entries.map Prod.snd)

theorem total_addEntry (name : String) (n : Nat) (entries : List (String × Nat)) :
    Number.total ((addEntry name n entries).map Prod.snd) =
      Number.total (entries.map Prod.snd) + n := by
  induction entries with
  | nil => simp [addEntry]
  | cons entry rest ih =>
    rw [addEntry]
    split
    · simp only [List.map_cons, Number.total_cons]
      omega
    · simp only [List.map_cons, Number.total_cons, ih]
      omega

theorem sum_merge (a b : Histogram) : (a.merge b).sum = a.sum + b.sum := by
  have hfold : ∀ (entries : List (String × Nat)) (h : Histogram),
      (entries.foldl (fun h entry => h.add entry.1 entry.2) h).sum =
        h.sum + Number.total (entries.map Prod.snd) := by
    intro entries
    induction entries with
    | nil => exact fun h => (Nat.add_zero _).symm
    | cons entry rest ih =>
      intro h
      have hadd : (h.add entry.1 entry.2).sum = h.sum + entry.2 := total_addEntry _ _ _
      rw [List.foldl_cons, ih, hadd, List.map_cons, Number.total_cons, Nat.add_assoc]
  exact hfold b.entries a

end Histogram

/-! ### Entities at any depth -/

namespace Entity

/-- An entity of a forest: at its top, or inside one of its entities. -/
inductive Within (e : Entity) : List Entity → Prop
  | top {forest : List Entity} (mem : e ∈ forest) : Within e forest
  | inner {outer : Entity} {forest : List Entity} (mem : outer ∈ forest)
      (within : Within e outer.children) : Within e forest

theorem Within.mono {e : Entity} {forest forest' : List Entity} (h : Within e forest)
    (hsubset : forest ⊆ forest') : Within e forest' := by
  cases h with
  | top mem => exact .top (hsubset mem)
  | inner mem within => exact .inner (hsubset mem) within

end Entity

/-! ### The highest reference -/

namespace Reference

/-- The first reference comes at least as high as the second: by its complexity, then by the
position of its file, its line and its name. -/
def Leads (x y : Reference) : Prop :=
  y.cyclomatic < x.cyclomatic ∨
    y.cyclomatic = x.cyclomatic ∧
      (x.order < y.order ∨
        x.order = y.order ∧
          (x.lineStart < y.lineStart ∨ x.lineStart = y.lineStart ∧ x.name ≤ y.name))

theorem leads_iff (x y : Reference) : x.Leads y ↔ x.key ≤ y.key := by
  rw [key, key, Prod.Lex.toLex_le_toLex, Prod.Lex.toLex_le_toLex, Prod.Lex.toLex_le_toLex, Leads]
  simp only [OrderDual.toDual_lt_toDual, EmbeddingLike.apply_eq_iff_eq, eq_comm]

/-- The best of some references, if there are any. -/
def IsBest (refs : List Reference) : Option Reference → Prop
  | none => refs = []
  | some x => x ∈ refs ∧ ∀ y ∈ refs, x.Leads y

/-- **The better of two bests is the best of both.** -/
theorem IsBest.pick {xs ys : List Reference} {a b : Option Reference} (ha : IsBest xs a)
    (hb : IsBest ys b) : IsBest (xs ++ ys) (Reference.pick a b) := by
  cases a with
  | none =>
    rw [show xs = [] from ha]
    exact hb
  | some x =>
    cases b with
    | none =>
      rw [show ys = [] from hb, List.append_nil]
      exact ha
    | some y =>
      obtain ⟨hx, hxs⟩ := ha
      obtain ⟨hy, hys⟩ := hb
      simp only [leads_iff] at hxs hys
      rw [pick_some_some]
      split
      next hlt =>
        refine ⟨List.mem_append_left _ hx, fun z hz => (leads_iff x z).mpr ?_⟩
        rcases List.mem_append.mp hz with hz | hz
        · exact hxs z hz
        · exact hlt.le.trans (hys z hz)
      next hge =>
        refine ⟨List.mem_append_right _ hy, fun z hz => (leads_iff y z).mpr ?_⟩
        rcases List.mem_append.mp hz with hz | hz
        · exact (not_lt.mp hge).trans (hxs z hz)
        · exact hys z hz

end Reference

namespace Batch

/-- The references to the selected entities of a batch of results with their positions. -/
def references (select : Entity → Bool) (batch : List (FileResult × Int)) : List Reference :=
  batch.flatMap fun p =>
    ((Entity.preorderAll p.1.entities).filter select).map (Reference.ofEntity p.1.path p.2)

/-- A batch with its files at the positions `0, 1, 2, …`. -/
def placed (results : List FileResult) : List (FileResult × Int) :=
  results.zipIdx.map fun p => (p.1, (p.2 : Int))

end Batch

/-! ### Tallies -/

namespace Tally

open Batch

/-- A tally says how many, how much and which. -/
structure Describes (batch : List (FileResult × Int)) (t : Tally) : Prop where
  files : t.files = batch.length
  analyzed : t.analyzed = (successes (batch.map Prod.fst)).length
  failed : t.failed = (kinds (batch.map Prod.fst)).length
  cancelled : t.cancelled = (kinds (batch.map Prod.fst)).count "cancelled"
  failureKinds : t.failureKinds.count? = Histogram.countOf (kinds (batch.map Prod.fst))
  sum_failureKinds : t.failureKinds.sum = t.failed
  languages : t.languages.count? = Histogram.countOf (Batch.languages (batch.map Prod.fst))
  lines : t.lines = Number.total ((successes (batch.map Prod.fst)).map (·.source.lineCount))
  size : t.size = Number.sum ((successes (batch.map Prod.fst)).map (·.source.size))
  cyclomatic : t.cyclomatic = .ofValues ((successes (batch.map Prod.fst)).map (·.score.cyclomatic))
  cognitive : t.cognitive = .ofValues ((successes (batch.map Prod.fst)).map (·.score.cognitive))
  functions : t.functions =
    Number.total ((successes (batch.map Prod.fst)).map fun f =>
      (Entity.functions f.entities).length)
  classes : t.classes =
    Number.total ((successes (batch.map Prod.fst)).map fun f => (Entity.classes f.entities).length)
  topFunction : Reference.IsBest (references Entity.isFunction batch) t.topFunction
  topClass : Reference.IsBest (references Entity.isClass batch) t.topClass

/-- **Two batches together**: what tallies say adds up. -/
theorem Describes.combine {xs ys : List (FileResult × Int)} {a b : Tally} (ha : Describes xs a)
    (hb : Describes ys b) : Describes (xs ++ ys) (a.combine b) where
  files := by rw [Tally.combine, ha.files, hb.files, List.length_append]
  analyzed := by
    rw [Tally.combine, ha.analyzed, hb.analyzed, List.map_append, successes_append,
      List.length_append]
  failed := by
    rw [Tally.combine, ha.failed, hb.failed, List.map_append, kinds_append, List.length_append]
  cancelled := by
    rw [Tally.combine, ha.cancelled, hb.cancelled, List.map_append, kinds_append, List.count_append]
  failureKinds := by
    rw [List.map_append, kinds_append]
    exact Histogram.count?_merge_countOf ha.failureKinds hb.failureKinds
  sum_failureKinds := by
    rw [Tally.combine, Histogram.sum_merge, ha.sum_failureKinds, hb.sum_failureKinds]
  languages := by
    rw [List.map_append, languages_append]
    exact Histogram.count?_merge_countOf ha.languages hb.languages
  lines := by
    rw [Tally.combine, ha.lines, hb.lines, List.map_append, successes_append, List.map_append,
      Number.total_append]
  size := by
    rw [Tally.combine, ha.size, hb.size, List.map_append, successes_append, List.map_append,
      Number.sum_append]
  cyclomatic := by
    rw [Tally.combine, ha.cyclomatic, hb.cyclomatic, List.map_append, successes_append,
      List.map_append, Spread.ofValues_append]
  cognitive := by
    rw [Tally.combine, ha.cognitive, hb.cognitive, List.map_append, successes_append,
      List.map_append, Spread.ofValues_append]
  functions := by
    rw [Tally.combine, ha.functions, hb.functions, List.map_append, successes_append,
      List.map_append, Number.total_append]
  classes := by
    rw [Tally.combine, ha.classes, hb.classes, List.map_append, successes_append, List.map_append,
      Number.total_append]
  topFunction := by
    rw [references, List.flatMap_append]
    exact ha.topFunction.pick hb.topFunction
  topClass := by
    rw [references, List.flatMap_append]
    exact ha.topClass.pick hb.topClass

end Tally

end SourceMetrics
