/-!
# Tables

A table maps names to values and remembers the order in which the names first came in. A name that
gets a new value keeps its place; a name that is removed and comes in again goes to the end. That no
name has two entries is part of the type: without it, taking away an entry could bring an older one
back to light.

## Main definitions

* `Table` — the entries in their order
* `Table.get?`, `insert`, `erase` — the value of a name, and how it changes
* `Table.retain` — the entries with a given property
-/

namespace SourceMetrics

/-- Values under names, in the order in which the names came in. -/
structure Table (α : Type) where
  entries : List (String × α) := []
  distinct : (entries.map Prod.fst).Nodup := by exact List.nodup_nil
  deriving DecidableEq, Repr

namespace Table

variable {α : Type}

/-- The value of a name. -/
def get? (t : Table α) (name : String) : Option α := t.entries.lookup name

/-- Whether a name has a value. -/
def contains (t : Table α) (name : String) : Bool := (t.get? name).isSome

/-- The names in their order. -/
def keys (t : Table α) : List String := t.entries.map Prod.fst

/-- The number of names. -/
def size (t : Table α) : Nat := t.entries.length

/-- Entries in which a name has a new value, in its place or at the end. -/
def insertEntry (name : String) (value : α) : List (String × α) → List (String × α)
  | [] => [(name, value)]
  | entry :: rest =>
    if entry.1 = name then (name, value) :: rest else entry :: insertEntry name value rest

theorem mem_names_insertEntry {name other : String} {value : α} {entries : List (String × α)} :
    other ∈ (insertEntry name value entries).map Prod.fst ↔
      other = name ∨ other ∈ entries.map Prod.fst := by
  induction entries with
  | nil => simp [insertEntry]
  | cons entry rest ih =>
    rw [insertEntry]
    split
    next h => simp [h]
    next => simp only [List.map_cons, List.mem_cons, ih, or_left_comm]

theorem nodup_names_insertEntry {name : String} {value : α} {entries : List (String × α)}
    (h : (entries.map Prod.fst).Nodup) : ((insertEntry name value entries).map Prod.fst).Nodup := by
  induction entries with
  | nil => simp [insertEntry]
  | cons entry rest ih =>
    rw [List.map_cons, List.nodup_cons] at h
    rw [insertEntry]
    split
    next heq => rw [List.map_cons, List.nodup_cons]; exact ⟨heq ▸ h.1, h.2⟩
    next hne =>
      rw [List.map_cons, List.nodup_cons, mem_names_insertEntry]
      exact ⟨fun hmem => hmem.elim hne h.1, ih h.2⟩

/-- The table in which a name has a new value. -/
def insert (t : Table α) (name : String) (value : α) : Table α :=
  ⟨insertEntry name value t.entries, nodup_names_insertEntry t.distinct⟩

/-- The entries whose name and value have a property. -/
def retain (t : Table α) (p : String → α → Bool) : Table α :=
  ⟨t.entries.filter fun entry => p entry.1 entry.2,
    t.distinct.sublist (List.filter_sublist.map Prod.fst)⟩

/-- The table without a name. -/
def erase (t : Table α) (name : String) : Table α := t.retain fun other _ => other != name

/-- The table of a list of entries; of several for one name the last counts. -/
def ofList (entries : List (String × α)) : Table α :=
  entries.foldl (fun t entry => t.insert entry.1 entry.2) {}

end Table

end SourceMetrics
