import SourceMetrics.Table

/-!
# Tables as mappings

What a table says about a name after a change: one equation for each of the changes. An entry that
is taken away uncovers nothing, because no name has two entries.

## Main results

* `Table.get?_insert`, `Table.get?_foldl_insert` — a new value for a name, and for many
* `Table.get?_retain`, `Table.get?_erase` — entries taken away
-/

namespace SourceMetrics

namespace Table

variable {α : Type}

/-! ### Entries -/

theorem lookup_cons_ite (name : String) (entry : String × α) (rest : List (String × α)) :
    (entry :: rest).lookup name = if name = entry.1 then some entry.2 else rest.lookup name := by
  obtain ⟨other, value⟩ := entry
  by_cases h : name = other
  · simp [h]
  · simp [List.lookup_cons, beq_eq_false_iff_ne.mpr h, h]

theorem lookup_eq_none_of_notMem {name : String} {entries : List (String × α)}
    (h : name ∉ entries.map Prod.fst) : entries.lookup name = none := by
  rw [List.lookup_eq_none_iff]
  intro entry hentry
  exact bne_iff_ne.mpr fun heq => h (List.mem_map.mpr ⟨entry, hentry, heq.symm⟩)

theorem lookup_insertEntry (name other : String) (value : α) (entries : List (String × α)) :
    (insertEntry name value entries).lookup other =
      if other = name then some value else entries.lookup other := by
  induction entries with
  | nil => simp [insertEntry, lookup_cons_ite]
  | cons entry rest ih =>
    rw [insertEntry]
    by_cases hname : entry.1 = name
    · by_cases h : other = name <;> simp [lookup_cons_ite, hname, h]
    · rw [if_neg hname, lookup_cons_ite, lookup_cons_ite, ih]
      by_cases h : other = entry.1
      · simp [h, hname]
      · simp [h]

theorem lookup_filter {p : String → α → Bool} (name : String) {entries : List (String × α)}
    (hnodup : (entries.map Prod.fst).Nodup) :
    (entries.filter fun entry => p entry.1 entry.2).lookup name =
      (entries.lookup name).filter (p name) := by
  induction entries with
  | nil => rfl
  | cons entry rest ih =>
    rw [List.map_cons, List.nodup_cons] at hnodup
    rw [List.filter_cons, lookup_cons_ite]
    by_cases hname : name = entry.1
    · subst hname
      -- the name occurs in no later entry, so nothing is uncovered
      have hrest : rest.lookup entry.1 = none := lookup_eq_none_of_notMem hnodup.1
      rw [if_pos rfl, Option.filter_some]
      by_cases hp : p entry.1 entry.2 = true
      · rw [if_pos hp, if_pos hp, lookup_cons_ite, if_pos rfl]
      · rw [if_neg hp, if_neg hp, ih hnodup.2, hrest]
        rfl
    · rw [if_neg hname]
      split
      · rw [lookup_cons_ite, if_neg hname, ih hnodup.2]
      · exact ih hnodup.2

/-- An entry is the only one of its name, so its value is what the name leads to. -/
theorem lookup_of_mem {entry : String × α} {entries : List (String × α)}
    (hnodup : (entries.map Prod.fst).Nodup) (h : entry ∈ entries) :
    entries.lookup entry.1 = some entry.2 := by
  induction entries with
  | nil => cases h
  | cons other rest ih =>
    rw [List.map_cons, List.nodup_cons] at hnodup
    rw [lookup_cons_ite]
    rcases List.mem_cons.mp h with rfl | h
    · rw [if_pos rfl]
    · have hne : entry.1 ≠ other.1 := fun heq => hnodup.1 (heq ▸ List.mem_map_of_mem h)
      rw [if_neg hne, ih hnodup.2 h]

/-- A name that is not there goes to the end. -/
theorem insertEntry_of_notMem {name : String} {value : α} {entries : List (String × α)}
    (h : name ∉ entries.map Prod.fst) :
    insertEntry name value entries = entries ++ [(name, value)] := by
  induction entries with
  | nil => rfl
  | cons entry rest ih =>
    rw [List.map_cons, List.mem_cons, not_or] at h
    rw [insertEntry, if_neg (Ne.symm h.1), ih h.2, List.cons_append]

/-- A name that is there keeps its place. -/
theorem insertEntry_of_mem {name : String} {value : α} {entries : List (String × α)}
    (hnodup : (entries.map Prod.fst).Nodup) (h : name ∈ entries.map Prod.fst) :
    insertEntry name value entries =
      entries.map fun entry => if entry.1 = name then (name, value) else entry := by
  induction entries with
  | nil => cases h
  | cons entry rest ih =>
    rw [List.map_cons, List.nodup_cons] at hnodup
    rw [insertEntry, List.map_cons]
    by_cases hname : entry.1 = name
    · have hrest : ∀ other ∈ rest, (if other.1 = name then (name, value) else other) = other := by
        intro other hother
        refine if_neg fun heq : other.1 = name => hnodup.1 ?_
        rw [hname, ← heq]
        exact List.mem_map_of_mem hother
      rw [if_pos hname, if_pos hname, List.map_congr_left hrest, List.map_id']
    · have hmem : name ∈ rest.map Prod.fst :=
        (List.mem_cons.mp h).resolve_left (Ne.symm hname)
      rw [if_neg hname, if_neg hname, ih hnodup.2 hmem]

/-! ### Tables -/

@[simp] theorem get?_empty (name : String) : ({} : Table α).get? name = none := rfl

theorem get?_insert (t : Table α) (name other : String) (value : α) :
    (t.insert name value).get? other = if other = name then some value else t.get? other :=
  lookup_insertEntry name other value t.entries

/-- Many names that get the same value. -/
theorem get?_foldl_insert (form : String → String) (value : α) (names : List String) (t : Table α)
    (other : String) :
    (names.foldl (fun t name => t.insert (form name) value) t).get? other =
      if other ∈ names.map form then some value else t.get? other := by
  induction names generalizing t with
  | nil => simp
  | cons name rest ih =>
    rw [List.foldl_cons, ih, get?_insert]
    by_cases hrest : other ∈ rest.map form
    · simp [hrest]
    · by_cases hname : other = form name
      · simp [hname]
      · simp [hrest, hname]

theorem get?_retain (t : Table α) (p : String → α → Bool) (name : String) :
    (t.retain p).get? name = (t.get? name).filter (p name) :=
  lookup_filter name t.distinct

theorem get?_erase (t : Table α) (name other : String) :
    (t.erase name).get? other = if other = name then none else t.get? other := by
  rw [erase, get?_retain]
  by_cases h : other = name
  · simp [h]
  · cases t.get? other <;> simp [h]

theorem contains_iff {t : Table α} {name : String} :
    t.contains name = true ↔ ∃ value, t.get? name = some value :=
  Option.isSome_iff_exists

end Table

end SourceMetrics
