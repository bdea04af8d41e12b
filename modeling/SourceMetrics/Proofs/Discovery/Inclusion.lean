import SourceMetrics.Proofs.Discovery.Walk

/-!
# Options to include more

Tests and the dependencies of a project are left out unless the settings say otherwise. To include
them adds files to those that are found and takes none away, and those that were found stay in their
order.

The two walks are compared while they run. A filter that keeps less leaves fewer directories on the
stack, but in the same order: its stack is at all times a sublist of the other's
(`Folder.walk_sublist`).

## Main definitions

* `FileFilter.Narrower` — a filter keeps nothing that another does not keep
* `Settings.including` — the settings with tests or dependencies included

## Main results

* `Folder.walk_sublist` — a filter that keeps less finds a sublist
* `Disk.search_including` — so do settings that include less
-/

namespace SourceMetrics

/-! ### Filters that keep less -/

/-- Whatever the first filter keeps, the second keeps as well. -/
structure FileFilter.Narrower (f g : FileFilter) : Prop where
  file : ∀ path relative, f.keepsFile path relative = true → g.keepsFile path relative = true
  folder : ∀ name relative, f.keepsDirectory name relative = true →
    g.keepsDirectory name relative = true

theorem filterMap_sublist_filterMap {α β : Type} {p q : α → Option β}
    (h : ∀ x y, p x = some y → q x = some y) (xs : List α) :
    (xs.filterMap p).Sublist (xs.filterMap q) := by
  induction xs with
  | nil => exact List.Sublist.slnil
  | cons x xs ih =>
    rw [List.filterMap_cons, List.filterMap_cons]
    cases hp : p x with
    | some y =>
      rw [h x y hp]
      exact ih.cons_cons y
    | none =>
      cases q x with
      | none => exact ih
      | some y => exact ih.cons y

namespace FolderEntry

variable {f g : FileFilter} (h : f.Narrower g) (above : String) (entries : List FolderEntry)

include h

theorem keptFiles_sublist : (keptFiles f above entries).Sublist (keptFiles g above entries) := by
  refine filterMap_sublist_filterMap (fun entry path hkept => ?_) entries
  cases entry with
  | file name file =>
    simp only [keptFile?, Option.ite_none_right_eq_some] at hkept ⊢
    exact ⟨h.file file (above ++ name) hkept.1, hkept.2⟩
  | folder name file content => cases hkept
  | other name => cases hkept

theorem keptFolders_sublist :
    (keptFolders f above entries).Sublist (keptFolders g above entries) := by
  refine filterMap_sublist_filterMap (fun entry inner hkept => ?_) entries
  cases entry with
  | file name file => cases hkept
  | folder name file content =>
    simp only [keptFolder?, Option.ite_none_right_eq_some] at hkept ⊢
    exact ⟨h.folder name (above ++ name) hkept.1, hkept.2⟩
  | other name => cases hkept

end FolderEntry

namespace Folder

/-- **A filter that keeps less finds a sublist**, and it fails only where the other fails. -/
theorem walk_sublist {f g : FileFilter} (h : f.Narrower g) (pending : List (String × Folder)) :
    ∀ waiting : List (String × Folder), waiting.Sublist pending →
      ∀ more, walk g pending = .ok more → ∃ fewer, walk f waiting = .ok fewer ∧
        fewer.Sublist more := by
  -- the induction is on the walk that keeps more; `waiting` is the stack of the other
  fun_induction walk g pending with
  | case1 =>
    rintro waiting hwaiting more hmore
    rw [List.eq_nil_of_sublist_nil hwaiting]
    exact ⟨[], walk_nil f, List.nil_sublist more⟩
  | case2 above e rest hsystem ih =>
    intro waiting hwaiting more hmore
    rcases List.sublist_cons_iff.mp hwaiting with hrest | ⟨others, rfl, hrest⟩
    · exact ih waiting hrest more hmore
    · rw [walk_unlistable, if_pos hsystem]
      exact ih others hrest more hmore
  | case3 above e rest hsystem =>
    intro waiting hwaiting more hmore
    cases hmore
  | case4 above entries rest ih =>
    intro waiting hwaiting more hmore
    cases hfound : walk g (FolderEntry.keptFolders g above entries ++ rest) with
    | error e =>
      rw [hfound] at hmore
      cases hmore
    | ok found =>
      rw [hfound] at hmore
      cases hmore
      rcases List.sublist_cons_iff.mp hwaiting with hrest | ⟨others, rfl, hrest⟩
      · -- the narrower walk has left out this directory
        obtain ⟨fewer, hfewer, hsublist⟩ :=
          ih waiting (hrest.trans (List.sublist_append_right _ rest)) found hfound
        exact ⟨fewer, hfewer, hsublist.trans (List.sublist_append_right _ found)⟩
      · obtain ⟨fewer, hfewer, hsublist⟩ :=
          ih _ ((FolderEntry.keptFolders_sublist h above entries).append hrest) found hfound
        refine ⟨FolderEntry.keptFiles f above entries ++ fewer, ?_,
          (FolderEntry.keptFiles_sublist h above entries).append hsublist⟩
        rw [walk_listed, hfewer]
        rfl

end Folder

/-! ### Settings that include less -/

/-- The settings with tests and dependencies included as given. -/
def Settings.including (settings : Settings) (tests modules : Bool) : Settings :=
  { settings with includeTests := tests, includeNodeModules := modules }

section

variable {settings : Settings} {tests modules : Bool}
  (htests : settings.includeTests = true → tests = true)
  (hmodules : settings.includeNodeModules = true → modules = true) (registry : Registry)

include htests hmodules

theorem FileFilter.narrower_including (ignored : String → Bool) :
    Narrower { settings, registry, ignored }
      { settings := settings.including tests modules, registry, ignored } where
  file path relative hkept := by
    simp only [keepsFile, selects, Settings.including, Bool.and_eq_true, Bool.or_eq_true] at hkept ⊢
    exact ⟨⟨hkept.1.1, hkept.1.2.imp_left htests⟩, hkept.2⟩
  folder name relative hkept := by
    simp only [keepsDirectory, skipsDirectory, Settings.including, Bool.not_eq_true',
      Bool.or_eq_false_iff] at hkept ⊢
    refine ⟨?_, hkept.2⟩
    by_cases hname : name = "node_modules"
    · have hon : settings.includeNodeModules = true := by simpa [hname] using hkept.1
      simp [hname, hmodules hon]
    · simp only [if_neg hname, Bool.or_eq_false_iff, Bool.and_eq_false_imp,
        Bool.not_eq_true'] at hkept ⊢
      refine ⟨⟨fun hoff => hkept.1.1.1 (Bool.eq_false_iff.mpr fun hon => ?_), hkept.1.1.2⟩,
        hkept.1.2⟩
      exact absurd (htests hon) (Bool.eq_false_iff.mp hoff)

end

/-! ### What is found -/

namespace Disk

section

variable {disk : Disk} {root : String} {settings : Settings} {tests modules : Bool}
  (htests : settings.includeTests = true → tests = true)
  (hmodules : settings.includeNodeModules = true → modules = true) {registry : Registry}
  {more : List String}

include htests hmodules

theorem search_sublist {ignored : String → Bool}
    (hmore : disk.search { settings := settings.including tests modules, registry, ignored } ""
      root = .ok more) :
    ∃ fewer, disk.search { settings, registry, ignored } "" root = .ok fewer ∧ fewer.Sublist more :=
  Folder.walk_sublist (FileFilter.narrower_including htests hmodules registry ignored) _ _
    (List.Sublist.refl _) more hmore

theorem findFiles_sublist {reader : IgnoreReader}
    (hmore : disk.findFiles reader (settings.including tests modules) registry root = .ok more) :
    ∃ fewer, disk.findFiles reader settings registry root = .ok fewer ∧ fewer.Sublist more := by
  -- the rules that apply do not depend on what is included
  have hrules : IgnoreSpec.ofSettings reader (settings.including tests modules) disk root =
      IgnoreSpec.ofSettings reader settings disk root := rfl
  cases hsettings : IgnoreSpec.ofSettings reader settings disk root with
  | error e =>
    rw [findFiles, hrules, hsettings] at hmore
    cases hmore
  | ok spec =>
    rw [findFiles_eq_search (hrules.trans hsettings)] at hmore
    rw [findFiles_eq_search hsettings]
    cases hfound : disk.search
        { settings := settings.including tests modules, registry, ignored := spec.leavesOut } ""
        root with
    | error e =>
      rw [hfound] at hmore
      cases hmore
    | ok found =>
      rw [hfound] at hmore
      cases hmore
      obtain ⟨fewer, hfewer, hsublist⟩ := search_sublist htests hmodules hfound
      exact ⟨fewer, by rw [hfewer]; rfl, hsublist⟩

end

/-- **To include tests and dependencies only adds files.** The files that are found without them are
found with them, in the same order, on every disk and whatever is ignored. -/
theorem search_including (disk : Disk) (root : String) {settings : Settings} {tests modules : Bool}
    (htests : settings.includeTests = true → tests = true)
    (hmodules : settings.includeNodeModules = true → modules = true) (registry : Registry) :
    let wider := settings.including tests modules
    (∀ ignored more, disk.search { settings := wider, registry, ignored } "" root = .ok more →
      ∃ fewer, disk.search { settings, registry, ignored } "" root = .ok fewer ∧
        fewer.Sublist more) ∧
    ((∀ path e, disk.list path = .error e → e.isSystem = true) →
      ∀ ignored, ∃ fewer more, disk.search { settings, registry, ignored } "" root = .ok fewer ∧
        disk.search { settings := wider, registry, ignored } "" root = .ok more ∧
        fewer.Sublist more) ∧
    ∀ reader more, disk.findFiles reader wider registry root = .ok more →
      ∃ fewer, disk.findFiles reader settings registry root = .ok fewer ∧ fewer.Sublist more := by
  intro wider
  refine ⟨fun ignored more hmore => search_sublist htests hmodules hmore, fun hsystem ignored => ?_,
    fun reader more hmore => findFiles_sublist htests hmodules hmore⟩
  obtain ⟨more, hmore⟩ :=
    exists_search_eq_ok hsystem { settings := wider, registry, ignored } "" root
  obtain ⟨fewer, hfewer, hsublist⟩ := search_sublist htests hmodules hmore
  exact ⟨fewer, more, hfewer, hmore, hsublist⟩

/-- Tests and dependencies, one inside the other. -/
theorem search_including_nested :
    let disk : Disk :=
      { stat := fun _ => .ok 0, read := fun _ => .ok []
        list := fun path =>
          if path = "r" then
            .ok [⟨"Tests", "r/Tests", true, false⟩, ⟨"a.js", "r/a.js", false, true⟩]
          else if path = "r/Tests" then .ok [⟨"node_modules", "r/Tests/node_modules", true, false⟩]
          else if path = "r/Tests/node_modules" then
            .ok [⟨"a.test.js", "r/Tests/node_modules/a.test.js", false, true⟩]
          else .error (.system .missing path)
        depth := 2 }
    let narrow : FileFilter := { settings := {}, registry := .standard, ignored := fun _ => false }
    let wide : FileFilter := { narrow with settings := Settings.including {} true true }
    (∀ path e, disk.list path = .error e → e.isSystem = true) ∧
      ∃ fewer more, disk.search narrow "" "r" = .ok fewer ∧ disk.search wide "" "r" = .ok more ∧
        fewer.Sublist more := by
  intro disk narrow wide
  have hsystem : ∀ path e, disk.list path = .error e → e.isSystem = true := by
    intro path e hlist
    simp only [disk] at hlist
    split_ifs at hlist
    cases hlist
    rfl
  exact ⟨hsystem, (search_including disk "r" (fun _ => rfl) (fun _ => rfl) .standard).2.1 hsystem _⟩

end Disk

end SourceMetrics
