import Mathlib.Logic.Relation
import SourceMetrics.Disk.Memory

/-!
# Nested directories

A disk is read to a certain depth. `Disk.Within` says that a depth is enough: no chain of
directories, each an entry of the one before, is longer. Disks in memory are always read deep
enough, since the path of an entry has a slash more than that of its directory.

## Main definitions

* `Disk.Within` — how deep directories are nested
* `Disk.Holds`, `Disk.Below` — which directories lie in or below another

## Main results

* `Disk.Within.of_below` — what lies below is nested no deeper
* `MemoryDisk.within` — disks in memory are read deep enough
-/

namespace SourceMetrics

namespace Disk

/-- No chain of nested directories that begins at a path has more than `n` directories. -/
def Within (disk : Disk) : Nat → String → Prop
  | 0, _ => False
  | n + 1, path => ∀ entries, disk.list path = .ok entries →
    ∀ e ∈ entries, e.isDirectory = true → disk.Within n e.path

/-- The second directory is an entry of the first. -/
def Holds (disk : Disk) (outer inner : String) : Prop :=
  ∃ entries, disk.list outer = .ok entries ∧ ∃ e ∈ entries, e.isDirectory = true ∧ e.path = inner

/-- The second directory is the first or lies below it. -/
def Below (disk : Disk) : String → String → Prop := Relation.ReflTransGen disk.Holds

variable {disk : Disk} {n m : Nat} {path : String}

theorem Within.mono (h : disk.Within n path) (hnm : n ≤ m) : disk.Within m path := by
  induction n generalizing m path with
  | zero => exact h.elim
  | succ n ih =>
    obtain ⟨k, rfl⟩ := Nat.exists_eq_add_of_le' hnm
    intro entries hlist e he hdirectory
    exact ih (h entries hlist e he hdirectory) (Nat.le_add_left n k)

theorem Within.of_holds {inner : String} (h : disk.Within (n + 1) path)
    (hinner : disk.Holds path inner) : disk.Within n inner := by
  obtain ⟨entries, hlist, e, he, hdirectory, rfl⟩ := hinner
  exact h entries hlist e he hdirectory

theorem Within.of_below {inner : String} (h : disk.Within n path) (hinner : disk.Below path inner) :
    disk.Within n inner := by
  induction hinner with
  | refl => exact h
  | tail _ hstep ih =>
    cases n with
    | zero => exact ih.elim
    | succ n => exact (ih.of_holds hstep).mono (Nat.le_succ n)

end Disk

/-! ### Disks in memory -/

namespace MemoryDisk

theorem le_foldl_max {x : Nat} {xs : List Nat} (least : Nat) (h : x ∈ xs ∨ x ≤ least) :
    x ≤ xs.foldl max least := by
  induction xs generalizing least with
  | nil => simpa using h
  | cons y ys ih =>
    refine ih (max least y) ?_
    rcases h with h | h
    · rcases List.mem_cons.mp h with rfl | h
      · exact .inr (Nat.le_max_right least x)
      · exact .inl h
    · exact .inr (Nat.le_trans h (Nat.le_max_left least y))

theorem count_lt_depth {d : MemoryDisk} {path : String} (h : path ∈ d.keys) :
    path.toList.count '/' < d.depth :=
  Nat.lt_succ_of_le (le_foldl_max 0 (.inl (List.mem_map_of_mem h)))

/-- The path of an entry has one slash more than that of its directory. -/
theorem mem_keys_of_mem_list {d : MemoryDisk} {path : String} {entries : List Listed}
    (hlist : d.list path = .ok entries) {e : Listed} (he : e ∈ entries) :
    e.path ∈ d.keys ∧ path.toList.count '/' < e.path.toList.count '/' := by
  rw [list] at hlist
  cases hnode : d.node path (·.listMishap) with
  | error err =>
    rw [hnode] at hlist
    cases hlist
  | ok node =>
    rw [hnode] at hlist
    cases hlist
    obtain ⟨entry, hentry, hshown⟩ := List.mem_filterMap.mp he
    obtain ⟨name, hname, rfl⟩ := Option.map_eq_some_iff.mp hshown
    refine ⟨List.mem_map_of_mem hentry, ?_⟩
    simp only [entryName?] at hname
    split at hname
    next hfront =>
      obtain ⟨behind, hbehind⟩ := List.isPrefixOf_iff_prefix.mp hfront
      simp only [← hbehind, List.count_append, List.count_singleton_self]
      omega
    next => cases hname

/-- **Disks in memory are read deep enough.** -/
theorem within (d : MemoryDisk) (path : String) : d.disk.Within (d.disk.depth + 1) path := by
  -- each directory on a chain has a slash more, and no path of the disk has as many as its depth
  have hchain : ∀ n path, d.depth ≤ path.toList.count '/' + n → d.disk.Within (n + 1) path := by
    intro n
    induction n with
    | zero =>
      intro path hdepth entries hlist e he _
      obtain ⟨hkey, hslash⟩ := mem_keys_of_mem_list hlist he
      have := count_lt_depth hkey
      omega
    | succ n ih =>
      intro path hdepth entries hlist e he _
      obtain ⟨-, hslash⟩ := mem_keys_of_mem_list hlist he
      exact ih e.path (by omega)
  exact hchain d.depth path (Nat.le_add_left _ _)

end MemoryDisk

end SourceMetrics
