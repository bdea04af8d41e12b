import Mathlib.Data.List.Sort
import Mathlib.Data.String.Basic
import SourceMetrics.Proofs.Table
import SourceMetrics.Tally.Histogram

/-!
# Histograms as mappings

Two histograms say the same if every name has the same count in both, whatever the order in which
the names came in. Merging adds counts name by name, so its laws are those of addition, and the bars
of a histogram are determined by the mapping alone: they list it in the one ascending order there
is.

## Main results

* `Histogram.count?_merge` — merging adds counts
* `Histogram.bars_congr` — equal mappings have equal bars
-/

namespace SourceMetrics

namespace Histogram

open Table (lookup_cons_ite lookup_eq_none_of_notMem)

/-! ### Counts -/

@[simp] theorem count?_empty (name : String) : ({} : Histogram).count? name = none := rfl

theorem lookup_addEntry (name other : String) (n : Nat) (entries : List (String × Nat)) :
    (addEntry name n entries).lookup other =
      Option.merge (· + ·) (entries.lookup other) (if other = name then some n else none) := by
  induction entries with
  | nil => simp [addEntry, lookup_cons_ite]
  | cons entry rest ih =>
    rw [addEntry]
    by_cases hname : entry.1 = name
    · by_cases h : other = name <;> simp [lookup_cons_ite, hname, h]
    · rw [if_neg hname, lookup_cons_ite, lookup_cons_ite, ih]
      by_cases h : other = entry.1
      · simp [h, hname]
      · simp [h]

/-- More occurrences of a name add to its count and to no other. -/
theorem count?_add (h : Histogram) (name other : String) (n : Nat) :
    (h.add name n).count? other =
      Option.merge (· + ·) (h.count? other) (if other = name then some n else none) :=
  lookup_addEntry name other n h.entries

theorem count?_foldl_add (name : String) :
    ∀ (entries : List (String × Nat)) (h : Histogram), (entries.map Prod.fst).Nodup →
      (entries.foldl (fun h entry => h.add entry.1 entry.2) h).count? name =
        Option.merge (· + ·) (h.count? name) (entries.lookup name)
  | [], h, _ => by simp
  | entry :: rest, h, hnodup => by
    rw [List.map_cons, List.nodup_cons] at hnodup
    rw [List.foldl_cons, count?_foldl_add name rest _ hnodup.2, count?_add, lookup_cons_ite]
    by_cases heq : name = entry.1
    · -- the name occurs in no later entry
      rw [lookup_eq_none_of_notMem (heq ▸ hnodup.1)]
      simp [heq]
    · simp [heq]

/-- Merging adds the counts of every name. -/
theorem count?_merge (a b : Histogram) (name : String) :
    (a.merge b).count? name = Option.merge (· + ·) (a.count? name) (b.count? name) :=
  count?_foldl_add name b.entries a b.distinct

theorem count?_merge_assoc (a b c : Histogram) :
    ((a.merge b).merge c).count? = (a.merge (b.merge c)).count? := by
  funext name
  simp only [count?_merge]
  exact Std.Associative.assoc _ _ _

theorem count?_merge_comm (a b : Histogram) : (a.merge b).count? = (b.merge a).count? := by
  funext name
  simp only [count?_merge]
  exact Std.Commutative.comm _ _

/-- The counts of a merge depend only on the counts of its parts. -/
theorem count?_merge_congr {a a' b b' : Histogram} (ha : a.count? = a'.count?)
    (hb : b.count? = b'.count?) : (a.merge b).count? = (a'.merge b').count? := by
  funext name
  rw [count?_merge, count?_merge, ha, hb]

/-! ### Bars -/

theorem mem_entries_iff (h : Histogram) {name : String} {n : Nat} :
    (name, n) ∈ h.entries ↔ h.count? name = some n := by
  obtain ⟨entries, hnodup⟩ := h
  simp only [count?]
  induction entries with
  | nil => simp
  | cons entry rest ih =>
    rw [List.map_cons, List.nodup_cons] at hnodup
    rw [List.mem_cons, lookup_cons_ite, ih hnodup.2]
    by_cases heq : name = entry.1
    · rw [lookup_eq_none_of_notMem (heq ▸ hnodup.1)]
      simp [heq, Prod.ext_iff, eq_comm]
    · simp [heq, Prod.ext_iff]

theorem insertBar_perm (bar : String × Nat) (bars : List (String × Nat)) :
    (insertBar bar bars).Perm (bar :: bars) := by
  induction bars with
  | nil => exact .refl _
  | cons other rest ih =>
    rw [insertBar]
    split
    · exact .refl _
    · exact (ih.cons other).trans (.swap bar other rest)

theorem bars_perm (h : Histogram) : h.bars.Perm h.entries := by
  rw [bars]
  induction h.entries with
  | nil => exact .refl _
  | cons entry rest ih => exact (insertBar_perm entry _).trans (ih.cons entry)

theorem pairwise_insertBar {bar : String × Nat} {bars : List (String × Nat)}
    (hbars : bars.Pairwise fun a b => a.1 < b.1) (hbar : bar.1 ∉ bars.map Prod.fst) :
    (insertBar bar bars).Pairwise fun a b => a.1 < b.1 := by
  induction bars with
  | nil => simp [insertBar]
  | cons other rest ih =>
    rw [List.map_cons, List.mem_cons, not_or] at hbar
    have hrest := List.pairwise_cons.mp hbars
    rw [insertBar]
    split
    next hlt =>
      refine List.pairwise_cons.mpr ⟨fun b hb => ?_, hbars⟩
      rcases List.mem_cons.mp hb with rfl | hb
      · exact hlt
      · exact hlt.trans (hrest.1 b hb)
    next hge =>
      refine List.pairwise_cons.mpr ⟨fun b hb => ?_, ih hrest.2 hbar.2⟩
      rcases List.mem_cons.mp ((insertBar_perm bar rest).mem_iff.mp hb) with rfl | hb
      · exact lt_of_le_of_ne (not_lt.mp hge) (Ne.symm hbar.1)
      · exact hrest.1 b hb

theorem pairwise_bars (h : Histogram) : h.bars.Pairwise fun a b => a.1 < b.1 := by
  obtain ⟨entries, hnodup⟩ := h
  simp only [bars]
  induction entries with
  | nil => exact .nil
  | cons entry rest ih =>
    rw [List.map_cons, List.nodup_cons] at hnodup
    refine pairwise_insertBar (ih hnodup.2) ?_
    have hperm := (bars_perm ⟨rest, hnodup.2⟩).map Prod.fst
    exact fun hmem => hnodup.1 (hperm.mem_iff.mp hmem)

/-- **The bars are determined by the mapping.** The order in which names came in leaves no trace. -/
theorem bars_congr {a b : Histogram} (h : a.count? = b.count?) : a.bars = b.bars := by
  have hentries : a.entries.Perm b.entries := by
    rw [List.perm_ext_iff_of_nodup (.of_map _ a.distinct) (.of_map _ b.distinct)]
    rintro ⟨name, n⟩
    rw [mem_entries_iff, mem_entries_iff, h]
  have hbars : a.bars.Perm b.bars := a.bars_perm.trans (hentries.trans b.bars_perm.symm)
  refine hbars.eq_of_pairwise (fun x y _ _ hxy hyx => ?_) a.pairwise_bars b.pairwise_bars
  exact absurd hyx (lt_asymm hxy)

theorem toJson_congr {a b : Histogram} (h : a.count? = b.count?) : a.toJson = b.toJson := by
  rw [toJson, toJson, bars_congr h]

end Histogram

end SourceMetrics
