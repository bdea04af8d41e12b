import SourceMetrics.Json.Basic

/-!
# Histograms

A histogram counts how often each name occurs. It has one entry for each name, in the order in which
the names came in; that no name has two entries is part of the type. Putting two histograms together
adds the counts of every name. What a histogram shows are the counts with the names in ascending
order, so the order in which the names came in does not matter for a report.

## Main definitions

* `Histogram`, `Histogram.count?` — the names with their counts, and the count of a name
* `Histogram.add`, `Histogram.merge` — more occurrences of a name, and two histograms together
* `Histogram.bars` — the names in ascending order with their counts
-/

namespace SourceMetrics

/-- How often names occur. -/
structure Histogram where
  /-- The names with their counts, in the order in which they came in. -/
  entries : List (String × Nat) := []
  distinct : (entries.map Prod.fst).Nodup := by exact List.nodup_nil
  deriving DecidableEq, Repr

namespace Histogram

/-- The histogram of a single occurrence. -/
def single (name : String) : Histogram := ⟨[(name, 1)], by simp⟩

/-- The count of a name, if it has one. -/
def count? (h : Histogram) (name : String) : Option Nat := h.entries.lookup name

/-- Adds to the count of a name, which goes to the end if it is new. -/
def addEntry (name : String) (n : Nat) : List (String × Nat) → List (String × Nat)
  | [] => [(name, n)]
  | entry :: rest =>
    if entry.1 = name then (name, entry.2 + n) :: rest else entry :: addEntry name n rest

theorem mem_names_addEntry {name other : String} {n : Nat} {entries : List (String × Nat)} :
    other ∈ (addEntry name n entries).map Prod.fst ↔
      other = name ∨ other ∈ entries.map Prod.fst := by
  induction entries with
  | nil => simp [addEntry]
  | cons entry rest ih =>
    rw [addEntry]
    split
    next h => simp [h]
    next => simp only [List.map_cons, List.mem_cons, ih, or_left_comm]

theorem nodup_names_addEntry {name : String} {n : Nat} {entries : List (String × Nat)}
    (h : (entries.map Prod.fst).Nodup) : ((addEntry name n entries).map Prod.fst).Nodup := by
  induction entries with
  | nil => simp [addEntry]
  | cons entry rest ih =>
    rw [List.map_cons, List.nodup_cons] at h
    rw [addEntry]
    split
    next heq => rw [List.map_cons, List.nodup_cons]; exact ⟨heq ▸ h.1, h.2⟩
    next hne =>
      rw [List.map_cons, List.nodup_cons, mem_names_addEntry]
      exact ⟨fun hmem => hmem.elim hne h.1, ih h.2⟩

/-- The histogram with `n` more occurrences of a name. -/
def add (h : Histogram) (name : String) (n : Nat) : Histogram :=
  ⟨addEntry name n h.entries, nodup_names_addEntry h.distinct⟩

/-- Two histograms together. -/
def merge (a b : Histogram) : Histogram := b.entries.foldl (fun h entry => h.add entry.1 entry.2) a

/-- Puts a bar in its place among bars with ascending names. -/
def insertBar (bar : String × Nat) : List (String × Nat) → List (String × Nat)
  | [] => [bar]
  | other :: rest => if bar.1 < other.1 then bar :: other :: rest else other :: insertBar bar rest

/-- The names that occur, in ascending order, with their counts. -/
def bars (h : Histogram) : List (String × Nat) := h.entries.foldr insertBar []

/-- The counts in a report. -/
def toJson (h : Histogram) : Json := .obj (h.bars.map fun bar => (bar.1, .nat bar.2))

end Histogram

end SourceMetrics
