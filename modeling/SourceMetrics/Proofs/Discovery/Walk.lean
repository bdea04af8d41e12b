import Mathlib.Data.List.Nodup
import SourceMetrics.Discovery.Walk
import SourceMetrics.Proofs.Disk.Nesting
import SourceMetrics.Proofs.Disk.Volume
import SourceMetrics.Registry.Default

/-!
# The walk is the recursive search

The files below a directory are found by a loop with a stack of directories. Said by recursion they
are the files of the directory that are kept, in the order of their names, followed by the files
below each of its directories that are kept. Both come to the same, whatever the tree, the filter
and the directories that cannot be listed.

What makes it so is that the loop never looks at what lies deeper on its stack
(`Folder.walk_append`): the files of a stack are the files of its parts, one after another.

A disk is read to a certain depth before the walk begins. If the depth is enough (`Disk.Within`),
the tree below a directory consists of its listing and the trees below its directories.

## Main definitions

* `Disk.search` — the files that the walk finds below a directory
* `Disk.recurse` — one step of the recursive search
* `Disk.Reaches` — a file that the search should find, with its place in the tree

## Main results

* `Folder.walk_append` — a stack is walked part by part
* `Disk.folder_eq` — the tree below a directory
* `Disk.search_eq_recurse` — the step
* `Disk.searches_recursively` — the walk is the recursive search, and finds every file once
-/

namespace SourceMetrics

/-! ### A stack is walked part by part -/

namespace Folder

variable (f : FileFilter)

@[simp] theorem walk_nil : walk f [] = .ok [] := by rw [walk]

theorem walk_unlistable (above : String) (e : DiskError) (rest : List (String × Folder)) :
    walk f ((above, .unlistable e) :: rest) = if e.isSystem then walk f rest else .error e := by
  rw [walk]

theorem walk_listed (above : String) (entries : List FolderEntry) (rest : List (String × Folder)) :
    walk f ((above, .listed entries) :: rest) =
      (walk f (FolderEntry.keptFolders f above entries ++ rest)).map
        (FolderEntry.keptFiles f above entries ++ ·) := by
  rw [walk]

/-- **A stack is walked part by part.** -/
theorem walk_append (upper lower : List (String × Folder)) :
    walk f (upper ++ lower) = do return (← walk f upper) ++ (← walk f lower) := by
  fun_induction walk f upper with
  | case1 =>
    show walk f lower = do return [] ++ (← walk f lower)
    cases walk f lower <;> rfl
  | case2 above e rest hsystem ih => rw [List.cons_append, walk_unlistable, if_pos hsystem, ih]
  | case3 above e rest hsystem => rw [List.cons_append, walk_unlistable, if_neg hsystem]; rfl
  | case4 above entries rest ih =>
    rw [List.cons_append, walk_listed, ← List.append_assoc, ih]
    cases walk f (FolderEntry.keptFolders f above entries ++ rest) with
    | error e => rfl
    | ok found =>
      cases walk f lower with
      | error e => rfl
      | ok others => exact congrArg Except.ok (List.append_assoc _ found others).symm

theorem walk_eq_mapM (pending : List (String × Folder)) :
    walk f pending = do return (← pending.mapM fun p => walk f [p]).flatten := by
  induction pending with
  | nil => exact walk_nil f
  | cons p rest ih =>
    rw [← List.singleton_append, walk_append, ih, List.singleton_append, List.mapM_cons]
    cases walk f [p] with
    | error e => rfl
    | ok here => cases rest.mapM fun p => walk f [p] <;> rfl

end Folder

/-! ### What is read off a disk -/

namespace Disk

variable {disk : Disk} {f : FileFilter} {n m : Nat} {path : String}

/-- An entry of a tree, from a listing and the trees below its directories. -/
def entryOf (below : String → Folder) (e : Listed) : FolderEntry :=
  if e.isDirectory then .folder e.name e.path (below e.path)
  else if e.isFile then .file e.name e.path
  else .other e.name

theorem entryOf_congr {below below' : String → Folder} {e : Listed}
    (h : e.isDirectory = true → below e.path = below' e.path) :
    entryOf below e = entryOf below' e := by
  by_cases hdirectory : e.isDirectory = true
  · simp only [entryOf, if_pos hdirectory, h hdirectory]
  · simp only [entryOf, if_neg hdirectory]

/-- The tree below a directory, from the trees below the directories in it. -/
def folderOf (disk : Disk) (below : String → Folder) (path : String) : Folder :=
  match disk.list path with
  | .error e => .unlistable e
  | .ok entries => .listed ((Listed.sorted entries).map (entryOf below))

theorem folderTo_succ (disk : Disk) (n : Nat) (path : String) :
    disk.folderTo (n + 1) path = disk.folderOf (disk.folderTo n) path := by
  rw [folderTo, folderOf]
  rfl

theorem mem_sorted {e : Listed} {entries : List Listed} : e ∈ Listed.sorted entries ↔ e ∈ entries :=
  List.mem_mergeSort

theorem folderOf_congr {below below' : String → Folder}
    (h : ∀ inner, disk.Holds path inner → below inner = below' inner) :
    disk.folderOf below path = disk.folderOf below' path := by
  rw [folderOf, folderOf]
  split
  next => rfl
  next entries hlist =>
    refine congrArg Folder.listed
      (List.map_congr_left fun e he => entryOf_congr fun hdirectory => ?_)
    exact h e.path ⟨entries, hlist, e, mem_sorted.mp he, hdirectory, rfl⟩

/-- More depth than there are nested directories changes nothing. -/
theorem Within.folderTo_eq (h : disk.Within n path) (hnm : n ≤ m) :
    disk.folderTo m path = disk.folderTo n path := by
  induction n generalizing m path with
  | zero => exact h.elim
  | succ n ih =>
    obtain ⟨k, rfl⟩ := Nat.exists_eq_add_of_le' hnm
    rw [← Nat.add_assoc, folderTo_succ, folderTo_succ]
    exact folderOf_congr fun inner hinner => ih (h.of_holds hinner) (Nat.le_add_left n k)

/-- **The tree below a directory** consists of its listing and of the trees below its
directories. -/
theorem folder_eq (h : disk.Within (disk.depth + 1) path) :
    disk.folder path = disk.folderOf disk.folder path := by
  rw [folder, folderTo_succ]
  exact folderOf_congr fun inner hinner =>
    ((h.of_holds hinner).folderTo_eq (Nat.le_succ disk.depth)).symm

end Disk

/-! ### The recursive search -/

/-- Whether an entry of a directory is a file to be found, where the entries of the directory are
relative to `above`. -/
def Listed.isKeptFile (f : FileFilter) (above : String) (e : Listed) : Bool :=
  !e.isDirectory && e.isFile && f.selects e.path && !f.ignored (above ++ e.name)

/-- Whether an entry is a directory to be looked into. -/
def Listed.isKeptFolder (f : FileFilter) (above : String) (e : Listed) : Bool :=
  e.isDirectory && !f.skipsDirectory e.name && !f.ignored (above ++ e.name ++ "/")

namespace Disk

/-- The files that the walk finds below a directory whose entries are relative to `above`. -/
def search (disk : Disk) (f : FileFilter) (above path : String) : Except DiskError (List String) :=
  Folder.walk f [(above, disk.folder path)]

/-- One step of the recursive search: the files of a directory that are kept, followed by what is
found below each of its directories that are kept, all in the order of the names. A directory that
the system does not list has no files. -/
def recurse (disk : Disk) (f : FileFilter)
    (found : String → String → Except DiskError (List String))
    (above path : String) : Except DiskError (List String) :=
  match disk.list path with
  | .error e => if e.isSystem then .ok [] else .error e
  | .ok entries => do
    let ordered := Listed.sorted entries
    let files := (ordered.filter (·.isKeptFile f above)).map (·.path)
    let below ← (ordered.filter (·.isKeptFolder f above)).mapM fun e =>
      found (above ++ e.name ++ "/") e.path
    return files ++ below.flatten

variable {disk : Disk} {f : FileFilter} {n : Nat} {above path : String}

theorem keptFiles_entryOf (f : FileFilter) (above : String) (below : String → Folder)
    (entries : List Listed) :
    FolderEntry.keptFiles f above (entries.map (entryOf below)) =
      (entries.filter (·.isKeptFile f above)).map (·.path) := by
  rw [FolderEntry.keptFiles, List.filterMap_map, ← List.filterMap_eq_map, List.filterMap_filter]
  refine List.filterMap_congr fun e _ => ?_
  by_cases hdirectory : e.isDirectory = true <;> by_cases hfile : e.isFile = true <;>
    simp [entryOf, FolderEntry.keptFile?, FileFilter.keepsFile, Listed.isKeptFile, hdirectory,
      hfile]

theorem keptFolders_entryOf (f : FileFilter) (above : String) (below : String → Folder)
    (entries : List Listed) :
    FolderEntry.keptFolders f above (entries.map (entryOf below)) =
      (entries.filter (·.isKeptFolder f above)).map fun e =>
        (above ++ e.name ++ "/", below e.path) := by
  rw [FolderEntry.keptFolders, List.filterMap_map, ← List.filterMap_eq_map, List.filterMap_filter]
  refine List.filterMap_congr fun e _ => ?_
  by_cases hdirectory : e.isDirectory = true <;> by_cases hfile : e.isFile = true <;>
    simp [entryOf, FolderEntry.keptFolder?, FileFilter.keepsDirectory, Listed.isKeptFolder,
      hdirectory, hfile]

/-- The walk through a tree that is put together from a listing and other trees. -/
theorem walk_folderOf (disk : Disk) (f : FileFilter) (below : String → Folder)
    (above path : String) :
    Folder.walk f [(above, disk.folderOf below path)] =
      disk.recurse f (fun above path => Folder.walk f [(above, below path)]) above path := by
  rw [folderOf, recurse]
  cases disk.list path with
  | error e => rw [Folder.walk_unlistable, Folder.walk_nil]
  | ok entries =>
    have hbelow : (fun p => Folder.walk f [p]) ∘
        (fun e : Listed => (above ++ e.name ++ "/", below e.path)) =
          fun e => Folder.walk f [(above ++ e.name ++ "/", below e.path)] := rfl
    rw [Folder.walk_listed, List.append_nil, keptFolders_entryOf, keptFiles_entryOf,
      Folder.walk_eq_mapM, List.mapM_map, hbelow]
    dsimp only
    generalize List.mapM (fun e => Folder.walk f [(above ++ Listed.name e ++ "/", below e.path)])
      ((Listed.sorted entries).filter (·.isKeptFolder f above)) = found
    cases found <;> rfl

/-- **The step.** The walk below a directory is one step of the recursive search. -/
theorem search_eq_recurse (h : disk.Within (disk.depth + 1) path) (f : FileFilter)
    (above : String) : disk.search f above path = disk.recurse f (disk.search f) above path := by
  rw [search, folder_eq h, walk_folderOf]
  rfl

theorem mapM_congr {α β : Type} {g h : α → Except DiskError β} {xs : List α}
    (heq : ∀ x ∈ xs, g x = h x) : xs.mapM g = xs.mapM h := by
  induction xs with
  | nil => rfl
  | cons x xs ih =>
    rw [List.mapM_cons, List.mapM_cons, heq x List.mem_cons_self,
      ih fun y hy => heq y (List.mem_cons_of_mem x hy)]

theorem flatten_of_mapM_eq_ok {α β : Type} {g : α → Except DiskError (List β)} {h : α → List β}
    {xs : List α} {ys : List (List β)} (hys : xs.mapM g = .ok ys)
    (heq : ∀ x ∈ xs, ∀ y, g x = .ok y → h x = y) : ys.flatten = xs.flatMap h := by
  induction xs generalizing ys with
  | nil =>
    cases hys
    rfl
  | cons x xs ih =>
    rw [List.mapM_cons] at hys
    cases hx : g x with
    | error e => rw [hx] at hys; cases hys
    | ok y =>
      cases hxs : xs.mapM g with
      | error e => rw [hx, hxs] at hys; cases hys
      | ok rest =>
        rw [hx, hxs] at hys
        cases hys
        rw [List.flatten_cons, List.flatMap_cons, heq x List.mem_cons_self y hx,
          ih hxs fun z hz => heq z (List.mem_cons_of_mem x hz)]

theorem exists_mapM_eq_ok {α β : Type} {g : α → Except DiskError β} {xs : List α}
    (h : ∀ x ∈ xs, ∃ y, g x = .ok y) : ∃ ys, xs.mapM g = .ok ys := by
  induction xs with
  | nil => exact ⟨[], rfl⟩
  | cons x xs ih =>
    obtain ⟨y, hy⟩ := h x List.mem_cons_self
    obtain ⟨ys, hys⟩ := ih fun z hz => h z (List.mem_cons_of_mem x hz)
    exact ⟨y :: ys, by rw [List.mapM_cons, hy, hys]; rfl⟩

theorem holds_of_mem_filter {entries : List Listed} (hlist : disk.list path = .ok entries)
    {e : Listed} (he : e ∈ (Listed.sorted entries).filter (·.isKeptFolder f above)) :
    disk.Holds path e.path := by
  obtain ⟨hmem, hkept⟩ := List.mem_filter.mp he
  simp only [Listed.isKeptFolder, Bool.and_eq_true] at hkept
  exact ⟨entries, hlist, e, mem_sorted.mp hmem, hkept.1.1, rfl⟩

theorem recurse_congr {found found' : String → String → Except DiskError (List String)}
    (h : ∀ inner, disk.Holds path inner → ∀ above, found above inner = found' above inner) :
    disk.recurse f found above path = disk.recurse f found' above path := by
  rw [recurse, recurse]
  split
  next => rfl
  next entries hlist =>
    dsimp only
    rw [mapM_congr fun e he => h e.path (holds_of_mem_filter hlist he) _]

/-- The recursion has no solution but the walk. -/
theorem search_eq_of_recurse {found : String → String → Except DiskError (List String)}
    (h : disk.Within n path) (hn : n ≤ disk.depth + 1)
    (hfound : ∀ inner, disk.Below path inner → ∀ above,
      found above inner = disk.recurse f found above inner) (above : String) :
    disk.search f above path = found above path := by
  induction n generalizing path above with
  | zero => exact h.elim
  | succ n ih =>
    rw [search_eq_recurse (h.mono hn), hfound path .refl]
    refine recurse_congr fun inner hinner => ih (h.of_holds hinner) (Nat.le_of_succ_le hn) ?_
    exact fun deeper hdeeper => hfound deeper (hdeeper.head hinner)

theorem exists_recurse_eq_ok (hsystem : ∀ path e, disk.list path = .error e → e.isSystem = true)
    {found : String → String → Except DiskError (List String)}
    (hfound : ∀ above path, ∃ files, found above path = .ok files) (above path : String) :
    ∃ files, disk.recurse f found above path = .ok files := by
  rw [recurse]
  cases hlist : disk.list path with
  | error e => exact ⟨[], if_pos (hsystem path e hlist)⟩
  | ok entries =>
    dsimp only
    obtain ⟨below, hbelow⟩ := exists_mapM_eq_ok
      fun e (_ : e ∈ (Listed.sorted entries).filter (·.isKeptFolder f above)) =>
        hfound (above ++ e.name ++ "/") e.path
    exact ⟨_, by rw [hbelow]; rfl⟩

/-- The search ends with a list if it is only ever the system that refuses to list a directory. -/
theorem exists_search_eq_ok (hsystem : ∀ path e, disk.list path = .error e → e.isSystem = true)
    (f : FileFilter) (above path : String) : ∃ files, disk.search f above path = .ok files := by
  have hwalk : ∀ n above path, ∃ files,
      Folder.walk f [(above, disk.folderTo n path)] = .ok files := by
    intro n
    induction n with
    | zero =>
      intro above path
      refine ⟨[], ?_⟩
      rw [folderTo, Folder.walk_listed]
      exact congrArg (Except.map _) (Folder.walk_nil f)
    | succ n ih =>
      intro above path
      rw [folderTo_succ, walk_folderOf]
      exact exists_recurse_eq_ok hsystem ih above path
  exact hwalk (disk.depth + 1) above path

/-! ### Every file once -/

/-- A file to be found below a directory, and its place: the positions in the sorted listings that
lead to it. All directories on the way are looked into, and the file is one to be analysed. -/
inductive Reaches (disk : Disk) (f : FileFilter) : String → String → List Nat → String → Prop
  | file {above path : String} {entries : List Listed} {i : Nat} {e : Listed}
      (list : disk.list path = .ok entries) (entry : (Listed.sorted entries)[i]? = some e)
      (kept : e.isKeptFile f above = true) : Reaches disk f above path [i] e.path
  | folder {above path : String} {entries : List Listed} {i : Nat} {e : Listed} {place : List Nat}
      {file : String} (list : disk.list path = .ok entries)
      (entry : (Listed.sorted entries)[i]? = some e) (kept : e.isKeptFolder f above = true)
      (below : Reaches disk f (above ++ e.name ++ "/") e.path place file) :
      Reaches disk f above path (i :: place) file

/-- The files to be found, with their places, in the order of the search. -/
def placedTo (disk : Disk) (f : FileFilter) : Nat → String → String → List (List Nat × String)
  | 0, _, _ => []
  | n + 1, above, path =>
    match disk.list path with
    | .error _ => []
    | .ok entries =>
      let ordered := (Listed.sorted entries).zipIdx
      (ordered.filter (·.1.isKeptFile f above)).map (fun x => ([x.2], x.1.path)) ++
        (ordered.filter (·.1.isKeptFolder f above)).flatMap fun x =>
          (placedTo disk f n (above ++ x.1.name ++ "/") x.1.path).map fun p => (x.2 :: p.1, p.2)

theorem holds_of_getElem? {entries : List Listed} (hlist : disk.list path = .ok entries) {i : Nat}
    {e : Listed} (hentry : (Listed.sorted entries)[i]? = some e)
    (hkept : e.isKeptFolder f above = true) : disk.Holds path e.path :=
  holds_of_mem_filter hlist (List.mem_filter.mpr ⟨List.mem_of_getElem? hentry, hkept⟩)

theorem mem_placedTo_iff (h : disk.Within n path) {place : List Nat} {file : String} :
    (place, file) ∈ disk.placedTo f n above path ↔ disk.Reaches f above path place file := by
  induction n generalizing above path place with
  | zero => exact h.elim
  | succ n ih =>
    rw [placedTo]
    cases hlist : disk.list path with
    | error e =>
      refine ⟨fun hmem => absurd hmem List.not_mem_nil, fun hreaches => ?_⟩
      cases hreaches <;> simp_all
    | ok entries =>
      simp only [List.mem_append, List.mem_map, List.mem_flatMap, List.mem_filter, Prod.mk.injEq,
        Prod.exists, List.mk_mem_zipIdx_iff_getElem?]
      constructor
      · rintro (⟨e, i, ⟨hentry, hkept⟩, rfl, rfl⟩ |
          ⟨e, i, ⟨hentry, hkept⟩, inner, _, hmem, rfl, rfl⟩)
        · exact .file hlist hentry hkept
        · exact .folder hlist hentry hkept
            ((ih (h.of_holds (holds_of_getElem? hlist hentry hkept))).mp hmem)
      · intro hreaches
        cases hreaches with
        | file list entry kept =>
          cases hlist.symm.trans list
          exact .inl ⟨_, _, ⟨entry, kept⟩, rfl, rfl⟩
        | folder list entry kept below =>
          cases hlist.symm.trans list
          exact .inr ⟨_, _, ⟨entry, kept⟩, _, _,
            (ih (h.of_holds (holds_of_getElem? hlist entry kept))).mpr below, rfl, rfl⟩

theorem pairwise_zipIdx {α : Type} (xs : List α) : xs.zipIdx.Pairwise fun x y => x.2 ≠ y.2 := by
  have hnodup : (xs.zipIdx.map Prod.snd).Nodup := by
    rw [List.zipIdx_map_snd]
    exact List.nodup_range'
  exact List.pairwise_map.mp hnodup

theorem ne_nil_of_mem_placedTo {p : List Nat × String} (h : p ∈ disk.placedTo f n above path) :
    p.1 ≠ [] := by
  cases n with
  | zero => cases h
  | succ n =>
    rw [placedTo] at h
    split at h
    next => cases h
    next entries _ =>
      simp only [List.mem_append, List.mem_map, List.mem_flatMap] at h
      rcases h with ⟨x, -, rfl⟩ | ⟨x, -, inner, -, rfl⟩ <;> exact List.cons_ne_nil _ _

/-- No two files have the same place. -/
theorem nodup_placedTo (disk : Disk) (f : FileFilter) (n : Nat) (above path : String) :
    ((disk.placedTo f n above path).map Prod.fst).Nodup := by
  induction n generalizing above path with
  | zero => exact List.nodup_nil
  | succ n ih =>
    rw [placedTo]
    cases disk.list path with
    | error e => exact List.nodup_nil
    | ok entries =>
      have hordered := pairwise_zipIdx (Listed.sorted entries)
      simp only [List.map_append, List.map_map, List.map_flatMap]
      refine List.nodup_append.mpr ⟨?_, ?_, ?_⟩
      · refine List.pairwise_map.mpr ((hordered.filter _).imp ?_)
        intro x y hxy heq
        exact hxy (List.singleton_inj.mp heq)
      · refine List.nodup_flatMap.mpr ⟨fun x _ => ?_, (hordered.filter _).imp ?_⟩
        · have hplaces := (ih (above ++ x.1.name ++ "/") x.1.path).map
            (List.cons_injective (a := x.2))
          rw [List.map_map] at hplaces
          exact hplaces
        · -- places in different directories begin with different positions
          intro x y hxy place hx hy
          obtain ⟨p, -, rfl⟩ := List.mem_map.mp hx
          obtain ⟨q, -, heq⟩ := List.mem_map.mp hy
          exact hxy (List.cons_eq_cons.mp heq).1.symm
      · -- a file of the directory itself has a place of one position, a file below it a longer one
        rintro place hown place' hbelow rfl
        obtain ⟨x, -, rfl⟩ := List.mem_map.mp hown
        obtain ⟨y, -, hy⟩ := List.mem_flatMap.mp hbelow
        obtain ⟨p, hp, heq⟩ := List.mem_map.mp hy
        exact ne_nil_of_mem_placedTo hp (List.cons_eq_cons.mp heq).2

theorem map_fst_filter_zipIdx {α : Type} (p : α → Bool) (xs : List α) :
    (xs.zipIdx.filter (p ·.1)).map Prod.fst = xs.filter p := by
  calc (xs.zipIdx.filter (p ·.1)).map Prod.fst
      = (xs.zipIdx.map Prod.fst).filter p := List.filter_map.symm
    _ = xs.filter p := by rw [List.zipIdx_map_fst]

/-- The search finds the files to be found, in their order. -/
theorem map_snd_placedTo (h : disk.Within n path) (hn : n ≤ disk.depth + 1) {files : List String}
    (hfiles : disk.search f above path = .ok files) :
    (disk.placedTo f n above path).map Prod.snd = files := by
  induction n generalizing above path files with
  | zero => exact h.elim
  | succ n ih =>
    rw [search_eq_recurse (h.mono hn), recurse] at hfiles
    rw [placedTo]
    cases hlist : disk.list path with
    | error e =>
      rw [hlist] at hfiles
      dsimp only at hfiles
      split at hfiles
      next => cases hfiles; rfl
      next => cases hfiles
    | ok entries =>
      rw [hlist] at hfiles
      dsimp only at hfiles ⊢
      cases hbelow : List.mapM (fun e => disk.search f (above ++ Listed.name e ++ "/") e.path)
        ((Listed.sorted entries).filter (·.isKeptFolder f above)) with
      | error e => rw [hbelow] at hfiles; cases hfiles
      | ok below =>
        rw [hbelow] at hfiles
        cases hfiles
        have hfolders := flatten_of_mapM_eq_ok hbelow fun e he found hfound =>
          ih (h.of_holds (holds_of_mem_filter hlist he)) (Nat.le_of_succ_le hn) hfound
        have hfilter := fun p => map_fst_filter_zipIdx p (Listed.sorted entries)
        rw [hfolders, ← hfilter (·.isKeptFile f above), ← hfilter (·.isKeptFolder f above),
          List.map_append, List.map_flatMap, List.flatMap_map, List.map_map, List.map_map]
        simp only [List.map_map]
        rfl

/-! ### The whole search -/

theorem pairwise_sorted (entries : List Listed) :
    (Listed.sorted entries).Pairwise fun a b => a.name ≤ b.name := by
  have htrans : ∀ a b c : Listed, decide (a.name ≤ b.name) → decide (b.name ≤ c.name) →
      decide (a.name ≤ c.name) := by
    intro a b c hab hbc
    simp only [decide_eq_true_eq] at hab hbc ⊢
    exact String.le_trans hab hbc
  have htotal : ∀ a b : Listed, decide (a.name ≤ b.name) || decide (b.name ≤ a.name) := by
    intro a b
    simpa using String.le_total a.name b.name
  exact (List.pairwise_mergeSort htrans htotal entries).imp of_decide_eq_true

theorem findFiles_eq_search {reader : IgnoreReader} {spec : IgnoreSpec} {settings : Settings}
    {registry : Registry} {root : String}
    (hspec : IgnoreSpec.ofSettings reader settings disk root = .ok spec) :
    disk.findFiles reader settings registry root =
      (disk.search { settings, registry, ignored := spec.leavesOut } "" root).mapError .disk := by
  rw [findFiles, hspec]
  rfl

/-- What it means that the files below a root are found as the recursion says. -/
structure SearchesRecursively (disk : Disk) (f : FileFilter) (root : String) : Prop where
  /-- At the root and below it, the walk is one step of the recursive search. -/
  step : ∀ path, disk.Below root path → ∀ above,
    disk.search f above path = disk.recurse f (disk.search f) above path
  /-- The recursion takes the entries of a directory in the order of their names. -/
  ordered : ∀ entries, (Listed.sorted entries).Perm entries ∧
    (Listed.sorted entries).Pairwise fun a b => a.name ≤ b.name
  /-- Whatever is defined by the recursion is what the walk finds. -/
  unique : ∀ found, (∀ path, disk.Below root path → ∀ above,
    found above path = disk.recurse f found above path) → disk.search f "" root = found "" root
  /-- The search is not stopped by directories that the system does not list. -/
  returns : (∀ path e, disk.list path = .error e → e.isSystem = true) →
    ∃ files, disk.search f "" root = .ok files
  /-- Every file that can be reached is found once. -/
  once : ∀ files, disk.search f "" root = .ok files → ∃ placed : List (List Nat × String),
    placed.map Prod.snd = files ∧ (placed.map Prod.fst).Nodup ∧
      ∀ place file, (place, file) ∈ placed ↔ disk.Reaches f "" root place file
  /-- So no path is found twice, if no two places have the same path. -/
  nodup : ∀ files, disk.search f "" root = .ok files →
    (∀ place place' file, disk.Reaches f "" root place file → disk.Reaches f "" root place' file →
      place = place') → files.Nodup
  /-- That is how the files of a batch are found, with the rules that apply below the root. -/
  findFiles : ∀ reader spec, IgnoreSpec.ofSettings reader f.settings disk root = .ok spec →
    f.ignored = spec.leavesOut →
    disk.findFiles reader f.settings f.registry root = (disk.search f "" root).mapError .disk

theorem nodup_of_search (h : disk.Within (disk.depth + 1) path) {files : List String}
    (hfiles : disk.search f above path = .ok files)
    (hplaces : ∀ place place' file, disk.Reaches f above path place file →
      disk.Reaches f above path place' file → place = place') : files.Nodup := by
  have hplaced := (nodup_placedTo disk f (disk.depth + 1) above path).of_map Prod.fst
  rw [← map_snd_placedTo h (Nat.le_refl _) hfiles]
  refine hplaced.map_on fun p hp q hq hfile => ?_
  have hp' := (mem_placedTo_iff h).mp hp
  have hq' := (mem_placedTo_iff h).mp hq
  exact Prod.ext (hplaces _ _ _ (hfile ▸ hp') hq') hfile

/-- One step, the order, the only solution and the files that are found, from the lemmas above. -/
theorem Within.searchesRecursively {root : String} (hroot : disk.Within (disk.depth + 1) root)
    (f : FileFilter) : disk.SearchesRecursively f root where
  step path hbelow above := search_eq_recurse (hroot.of_below hbelow) f above
  ordered entries := ⟨List.mergeSort_perm entries _, pairwise_sorted entries⟩
  unique found hfound := search_eq_of_recurse hroot (Nat.le_refl _) hfound ""
  returns hsystem := exists_search_eq_ok hsystem f "" root
  once files hfiles :=
    ⟨disk.placedTo f (disk.depth + 1) "" root, map_snd_placedTo hroot (Nat.le_refl _) hfiles,
      nodup_placedTo disk f (disk.depth + 1) "" root, fun _ _ => mem_placedTo_iff hroot⟩
  nodup files hfiles hplaces := nodup_of_search hroot hfiles hplaces
  findFiles reader spec hspec hignored := by
    rw [findFiles_eq_search hspec, ← hignored]

/-- **The walk is the recursive search, and finds every file once**, wherever directories are nested
within the depth to which a disk is read: on every disk in memory, and on every volume whose names
lead to their entries. -/
theorem searches_recursively (f : FileFilter) (root : String) :
    (∀ disk : Disk, disk.Within (disk.depth + 1) root → disk.SearchesRecursively f root) ∧
    (∀ d : MemoryDisk, d.disk.SearchesRecursively f root) ∧
    ∀ v : Volume, Volume.WellNamed v.top → v.disk.SearchesRecursively f root := by
  refine ⟨fun disk hroot => hroot.searchesRecursively f, fun d => ?_, fun v hv => ?_⟩
  · exact (MemoryDisk.within d root).searchesRecursively f
  · exact (Volume.within hv root).searchesRecursively f

/-- A disk in memory with a directory that cannot be listed and one that is skipped, where a test
and what lies in `b/c` are left out; and a volume with a link to the directory it lies in. -/
theorem searches_recursively_partly :
    let disk := (MemoryDisk.ofNodes
      [("r/b/a.java", {}), ("r/b/c/a.java", {}), ("r/.git/a.java", {}), ("r/test_a.java", {}),
       ("r/a/a.java", {}),
       ("r/a", { kind := .directory, listMishap := some (.system .permission) })]).disk
    let v : Volume :=
      { top := .directory [("r", .directory [("a.java", .file []), ("b", .link ".")])] }
    let f : FileFilter :=
      { settings := {}, registry := .standard, ignored := fun path => path == "b/c/" }
    disk.Within (disk.depth + 1) "r" ∧ disk.SearchesRecursively f "r" ∧
      Volume.WellNamed v.top ∧ v.disk.SearchesRecursively f "r" := by
  intro disk v f
  have hroot : disk.Within (disk.depth + 1) "r" := MemoryDisk.within _ "r"
  have hv : Volume.WellNamed v.top := by
    have hr : Volume.IsPlainName "r" := by constructor <;> decide
    have ha : Volume.IsPlainName "a.java" := by constructor <;> decide
    have hb : Volume.IsPlainName "b" := by constructor <;> decide
    refine .directory (by simp [hr]) (by decide) ?_
    rintro e (_ | ⟨_, ⟨⟩⟩)
    refine .directory (by simp [ha, hb]) (by decide) ?_
    rintro e (_ | ⟨_, _ | ⟨_, ⟨⟩⟩⟩)
    · exact .file []
    · exact .link "."
  exact ⟨hroot, (searches_recursively f "r").1 disk hroot, hv,
    (searches_recursively f "r").2.2 v hv⟩

end Disk

end SourceMetrics
