import Mathlib.Data.List.Basic
import SourceMetrics.Disk.Volume
import SourceMetrics.Proofs.Disk.Nesting
import SourceMetrics.Proofs.Table

/-!
# Volumes are finite trees

The path of an entry is the path of its directory and a name. Following it comes to the directory
first and then to the entry, so that the directories below a path are nested no deeper than the
nodes of the volume, although links may lead anywhere: a link is never listed as a directory.

## Main definitions

* `Volume.Leads` — the steps by which names are followed
* `Volume.WellNamed` — names that a directory can have for its entries

## Main results

* `Volume.leads_of_follow`, `Volume.Leads.follow_eq` — how names are followed
* `Volume.locate_join` — where the path of an entry leads to
* `Volume.within` — the directories of a volume are nested within its depth
-/

namespace SourceMetrics

/-! ### Paths of entries -/

namespace Text

theorem splitOn_ne_nil (separator : Char) (xs : List Char) : splitOn separator xs ≠ [] := by
  cases xs with
  | nil => exact List.cons_ne_nil _ _
  | cons c rest =>
    rw [splitOn]
    split
    · exact List.cons_ne_nil _ _
    · split <;> exact List.cons_ne_nil _ _

theorem splitOn_append (separator : Char) (xs ys : List Char) :
    splitOn separator (xs ++ separator :: ys) = splitOn separator xs ++ splitOn separator ys := by
  induction xs with
  | nil => exact if_pos rfl
  | cons c rest ih =>
    rw [List.cons_append, splitOn, splitOn, ih]
    by_cases hc : c = separator
    · rw [if_pos hc, if_pos hc]; rfl
    · rw [if_neg hc, if_neg hc]
      cases hrest : splitOn separator rest with
      | nil => exact absurd hrest (splitOn_ne_nil separator rest)
      | cons piece pieces => rfl

theorem splitOn_of_not_mem {separator : Char} {xs : List Char} (h : separator ∉ xs) :
    splitOn separator xs = [xs] := by
  induction xs with
  | nil => rfl
  | cons c rest ih =>
    rw [List.mem_cons, not_or] at h
    rw [splitOn, if_neg (Ne.symm h.1), ih h.2]

end Text

namespace Volume

/-- A name that leads from a directory to an entry. -/
structure IsPlainName (name : String) : Prop where
  ne_empty : name ≠ ""
  ne_dot : name ≠ "."
  ne_dots : name ≠ ".."
  no_slash : '/' ∉ name.toList
  short : isLongName name = false

/-- The components of a path that are not empty. -/
def named (path : String) : List String :=
  ((Text.splitOn '/' path.toList).map String.ofList).filter (· != "")

theorem endsWith_slash_iff {path : String} :
    path.endsWith "/" = true ↔ ∃ front, path.toList = front ++ ['/'] := by
  rw [String.endsWith_eq_endsWith_toSlice, String.Slice.endsWith_string_iff]
  simp only [String.copy_toSlice]
  exact ⟨fun ⟨front, h⟩ => ⟨front, h.symm⟩, fun ⟨front, h⟩ => ⟨front, h.symm⟩⟩

theorem toList_join {directory name : String} (h : directory ≠ "") :
    ∃ front, (Path.join directory name).toList = front ++ '/' :: name.toList ∧
      (directory.toList = front ++ ['/'] ∨ directory.toList = front) := by
  have hempty : directory.isEmpty = false := by simpa using h
  rw [Path.join, hempty, Bool.false_or]
  by_cases hslash : directory.endsWith "/" = true
  · obtain ⟨front, hfront⟩ := endsWith_slash_iff.mp hslash
    refine ⟨front, ?_, .inl hfront⟩
    rw [if_pos hslash, String.toList_append, hfront, List.append_assoc]
    rfl
  · refine ⟨directory.toList, ?_, .inr rfl⟩
    rw [if_neg hslash, String.toList_append, String.toList_append, List.append_assoc]
    rfl

theorem startsWith_join {directory name : String} (h : directory ≠ "") :
    (Path.join directory name).startsWith "/" = directory.startsWith "/" := by
  obtain ⟨front, hjoin, hfront⟩ := @toList_join directory name h
  have hne : directory.toList ≠ [] := by simpa using h
  rw [Bool.eq_iff_iff, String.startsWith_string_iff, String.startsWith_string_iff, hjoin]
  cases front with
  | nil =>
    rcases hfront with hfront | hfront
    · simp [hfront]
    · exact absurd hfront hne
  | cons c rest => rcases hfront with hfront | hfront <;> simp [hfront]

theorem steps_eq (path : String) :
    steps path = named path ∨ steps path = named path ++ ["."] := by
  unfold steps
  split
  · exact .inr rfl
  · exact .inl rfl

theorem named_of_toList_eq {path : String} {front rest : List Char}
    (h : path.toList = front ++ '/' :: rest) (hrest : '/' ∉ rest) :
    named path = named (String.ofList front) ++ [String.ofList rest].filter (· != "") := by
  rw [named, named, h, Text.splitOn_append, Text.splitOn_of_not_mem hrest, List.map_append,
    List.filter_append, String.toList_ofList]
  rfl

theorem steps_join {directory name : String} (h : directory ≠ "") (hname : IsPlainName name) :
    steps (Path.join directory name) = named directory ++ [name] := by
  obtain ⟨front, hjoin, hfront⟩ := @toList_join directory name h
  have hopen : ¬ (Path.join directory name).endsWith "/" = true := by
    intro hslash
    obtain ⟨front', hslash⟩ := endsWith_slash_iff.mp hslash
    have hlast := congrArg List.getLast? (hjoin.symm.trans hslash)
    have hne : name.toList ≠ [] := by simpa using hname.ne_empty
    rw [List.getLast?_append_cons, List.getLast?_cons_of_ne_nil hne, List.getLast?_concat] at hlast
    exact hname.no_slash (List.mem_of_getLast? hlast)
  have hfilter : [String.ofList name.toList].filter (· != "") = [name] := by
    simp [hname.ne_empty]
  have hdirectory : named directory = named (String.ofList front) := by
    rcases hfront with hfront | hfront
    · rw [named_of_toList_eq hfront (List.not_mem_nil)]
      exact List.append_nil _
    · rw [← hfront, String.ofList_toList]
  calc steps (Path.join directory name)
      = named (Path.join directory name) := if_neg hopen
    _ = named directory ++ [name] := by
      rw [named_of_toList_eq hjoin hname.no_slash, hfilter, hdirectory]

/-! ### Following names -/

variable {v : Volume}

/-- Names lead from a directory to a node, if at most `links` links are followed. -/
inductive Leads (v : Volume) : Nat → List String → List String → List String → VolumeNode → Prop
  | arrived {links : Nat} {way : List String} {node : VolumeNode}
      (here : v.top.descend? way.reverse = some node) : Leads v links way [] way node
  | dot {links : Nat} {way rest way' : List String} {node : VolumeNode}
      {entries : List (String × VolumeNode)}
      (here : v.top.descend? way.reverse = some (.directory entries))
      (next : Leads v links way rest way' node) : Leads v links way ("." :: rest) way' node
  | dots {links : Nat} {way rest way' : List String} {node : VolumeNode}
      {entries : List (String × VolumeNode)}
      (here : v.top.descend? way.reverse = some (.directory entries))
      (next : Leads v links (way.drop 1) rest way' node) :
      Leads v links way (".." :: rest) way' node
  | link {links : Nat} {way rest way' : List String} {node : VolumeNode}
      {entries : List (String × VolumeNode)} {name target : String}
      (here : v.top.descend? way.reverse = some (.directory entries))
      (ne_dot : name ≠ ".") (ne_dots : name ≠ "..") (short : isLongName name = false)
      (entry : entries.lookup name = some (.link target)) (ne_empty : target ≠ "")
      (next : Leads v links (if target.startsWith "/" then [] else way) (steps target ++ rest)
        way' node) : Leads v (links + 1) way (name :: rest) way' node
  | entry {links : Nat} {way rest way' : List String} {node inner : VolumeNode}
      {entries : List (String × VolumeNode)} {name : String}
      (here : v.top.descend? way.reverse = some (.directory entries))
      (ne_dot : name ≠ ".") (ne_dots : name ≠ "..") (short : isLongName name = false)
      (entry : entries.lookup name = some inner) (no_link : ∀ target, inner ≠ .link target)
      (next : Leads v links (name :: way) rest way' node) :
      Leads v links way (name :: rest) way' node

variable {links : Nat} {way names way' : List String} {node : VolumeNode}

theorem leads_of_follow (h : v.follow links way names = .ok (way', node)) :
    Leads v links way names way' node := by
  -- links may be replaced by any number of names, so they are what decreases first
  induction links using Nat.strongRecOn generalizing way names with
  | ind links ihlinks =>
    induction names generalizing way with
    | nil =>
      rw [follow] at h
      split at h
      next here => cases h; exact .arrived here
      next => cases h
    | cons name rest ih =>
      rw [follow] at h
      split at h
      next entries here =>
        by_cases hdot : name = "."
        · subst hdot
          rw [if_pos rfl] at h
          exact .dot here (ih h)
        rw [if_neg hdot] at h
        by_cases hdots : name = ".."
        · subst hdots
          rw [if_pos rfl] at h
          exact .dots here (ih h)
        rw [if_neg hdots] at h
        cases hlong : isLongName name with
        | true => rw [if_pos hlong] at h; cases h
        | false =>
          rw [hlong, if_neg Bool.false_ne_true] at h
          split at h
          next => cases h
          next target entry =>
            split at h
            next => cases h
            next links =>
              split at h
              next => cases h
              next ne_empty =>
                exact .link here hdot hdots hlong entry ne_empty
                  (ihlinks links (Nat.lt_succ_self _) h)
          next inner no_link entry =>
            exact .entry here hdot hdots hlong entry no_link (ih h)
      next => cases h
      next => cases h

theorem Leads.follow_eq (h : Leads v links way names way' node) :
    v.follow links way names = .ok (way', node) := by
  induction h with
  | arrived here => rw [follow, here]
  | dot here _ ih => rw [follow, here]; exact ih
  | dots here _ ih => rw [follow, here]; exact ih
  | link here ne_dot ne_dots short entry ne_empty _ ih =>
    rw [follow, here]
    simp only [if_neg ne_dot, if_neg ne_dots, short, entry, if_neg ne_empty]
    exact ih
  | @entry _ _ _ _ _ inner _ _ here ne_dot ne_dots short entry no_link _ ih =>
    rw [follow, here]
    simp only [if_neg ne_dot, if_neg ne_dots, short, entry]
    cases inner with
    | link target => exact absurd rfl (no_link target)
    | file | directory => exact ih

theorem Leads.descend?_eq (h : Leads v links way names way' node) :
    v.top.descend? way'.reverse = some node := by
  induction h with
  | arrived here => exact here
  | dot _ _ ih | dots _ _ ih => exact ih
  | link _ _ _ _ _ _ _ ih | entry _ _ _ _ _ _ _ ih => exact ih

theorem descend?_append (n : VolumeNode) (names others : List String) :
    n.descend? (names ++ others) = (n.descend? names).bind (·.descend? others) := by
  induction names generalizing n with
  | nil => rfl
  | cons name rest ih =>
    rw [List.cons_append, VolumeNode.descend?, VolumeNode.descend?]
    cases n.entry? name with
    | none => rfl
    | some inner => exact ih inner

/-- A single dot at the end changes nothing. -/
theorem Leads.of_dot (h : Leads v links way (names ++ ["."]) way' node) :
    Leads v links way names way' node := by
  generalize hall : names ++ ["."] = all at h
  induction h generalizing names with
  | arrived here => simp at hall
  | dot here next ih =>
    cases names with
    | nil => cases hall; exact next
    | cons name rest => cases hall; exact .dot here (ih rfl)
  | dots here next ih =>
    cases names with
    | nil => simp at hall
    | cons name rest => cases hall; exact .dots here (ih rfl)
  | link here ne_dot ne_dots short entry ne_empty next ih =>
    cases names with
    | nil => cases hall; exact absurd rfl ne_dot
    | cons name rest =>
      cases hall
      exact .link here ne_dot ne_dots short entry ne_empty (ih (List.append_assoc _ _ _))
  | entry here ne_dot ne_dots short entry no_link next ih =>
    cases names with
    | nil => cases hall; exact absurd rfl ne_dot
    | cons name rest => cases hall; exact .entry here ne_dot ne_dots short entry no_link (ih rfl)

/-- One more name leads from a directory to a directory in it. -/
theorem Leads.concat {entries inner : List (String × VolumeNode)} {name : String}
    (h : Leads v links way names way' (.directory entries)) (hname : IsPlainName name)
    (hentry : entries.lookup name = some (.directory inner)) :
    Leads v links way (names ++ [name]) (name :: way') (.directory inner) := by
  generalize hnode : VolumeNode.directory entries = node at h
  induction h with
  | arrived here =>
    subst hnode
    refine .entry here hname.ne_dot hname.ne_dots hname.short hentry (by simp) (.arrived ?_)
    rw [List.reverse_cons, descend?_append, here]
    simp only [Option.bind_some, VolumeNode.descend?, VolumeNode.entry?, hentry]
  | dot here _ ih => exact .dot here (ih hnode)
  | dots here _ ih => exact .dots here (ih hnode)
  | link here ne_dot ne_dots short entry ne_empty _ ih =>
    exact .link here ne_dot ne_dots short entry ne_empty (List.append_assoc _ _ _ ▸ ih hnode)
  | entry here ne_dot ne_dots short entry no_link _ ih =>
    exact .entry here ne_dot ne_dots short entry no_link (ih hnode)

/-! ### Nested directories -/

/-- The names in each directory of a tree are distinct, and lead to their entries. -/
inductive WellNamed : VolumeNode → Prop
  | file (content : List UInt8) : WellNamed (.file content)
  | link (target : String) : WellNamed (.link target)
  | directory {entries : List (String × VolumeNode)} (plain : ∀ e ∈ entries, IsPlainName e.1)
      (distinct : (entries.map Prod.fst).Nodup) (below : ∀ e ∈ entries, WellNamed e.2) :
      WellNamed (.directory entries)

theorem mem_of_lookup {entries : List (String × VolumeNode)} {name : String} {inner : VolumeNode}
    (h : entries.lookup name = some inner) : (name, inner) ∈ entries := by
  obtain ⟨before, behind, rfl, -⟩ := List.lookup_eq_some_iff.mp h
  exact List.mem_append_right before List.mem_cons_self

theorem WellNamed.of_descend? {n node : VolumeNode} (hn : WellNamed n) {names : List String}
    (h : n.descend? names = some node) : WellNamed node := by
  induction names generalizing n with
  | nil => cases h; exact hn
  | cons name rest ih =>
    obtain ⟨inner, hinner, hrest⟩ := Option.bind_eq_some_iff.mp h
    cases hn with
    | file | link => cases hinner
    | directory _ _ below => exact ih (below _ (mem_of_lookup hinner)) hrest

theorem exists_leads_of_locate {path : String} {node : VolumeNode} (h : v.locate path = .ok node) :
    path ≠ "" ∧ ∃ way', Leads v maxLinks (if path.startsWith "/" then [] else v.home.reverse)
      (steps path) way' node := by
  unfold locate at h
  split at h
  · cases h
  split at h
  · cases h
  next hempty =>
    split at h
    · cases h
    split at h
    next found hfound =>
      cases h
      exact ⟨hempty, found.1, leads_of_follow hfound⟩
    next => cases h

theorem locate_eq_of_leads {path : String} {node : VolumeNode} {way' : List String}
    (h : Leads v maxLinks (if path.startsWith "/" then [] else v.home.reverse) (steps path)
      way' node) :
    v.locate path = .ok node ∨ ∃ e, v.locate path = .error e := by
  unfold locate
  split
  · exact .inr ⟨_, rfl⟩
  split
  · exact .inr ⟨_, rfl⟩
  split
  · exact .inr ⟨_, rfl⟩
  · rw [h.follow_eq]
    exact .inl rfl

/-- The path of a directory in a directory leads there, or nowhere because it is too long. -/
theorem locate_join (hv : WellNamed v.top) {path name : String}
    {entries inner : List (String × VolumeNode)} (h : v.locate path = .ok (.directory entries))
    (hentry : (name, .directory inner) ∈ entries) :
    v.locate (Path.join path name) = .ok (.directory inner) ∨
      ∃ e, v.locate (Path.join path name) = .error e := by
  obtain ⟨hempty, way', hleads⟩ := exists_leads_of_locate h
  have hhere := hleads.descend?_eq
  obtain _ | _ | ⟨plain, distinct, _⟩ := hv.of_descend? hhere
  have hname : IsPlainName name := plain _ hentry
  have hnamed : Leads v maxLinks (if path.startsWith "/" then [] else v.home.reverse) (named path)
      way' (.directory entries) := by
    rcases steps_eq path with hsteps | hsteps
    · rwa [hsteps] at hleads
    · rw [hsteps] at hleads
      exact hleads.of_dot
  refine @locate_eq_of_leads v _ _ (name :: way') ?_
  rw [startsWith_join hempty, steps_join hempty hname]
  exact hnamed.concat hname (Table.lookup_of_mem distinct hentry)

theorem height_le_heightAll {entries : List (String × VolumeNode)} {e : String × VolumeNode}
    (h : e ∈ entries) : e.2.height ≤ VolumeNode.heightAll entries := by
  induction entries with
  | nil => cases h
  | cons first rest ih =>
    rw [VolumeNode.heightAll]
    rcases List.mem_cons.mp h with rfl | h
    · exact Nat.le_max_left _ _
    · exact Nat.le_trans (ih h) (Nat.le_max_right _ _)

theorem height_le_of_descend? {n node : VolumeNode} {names : List String}
    (h : n.descend? names = some node) : node.height ≤ n.height := by
  induction names generalizing n with
  | nil => cases h; exact Nat.le_refl _
  | cons name rest ih =>
    obtain ⟨inner, hinner, hrest⟩ := Option.bind_eq_some_iff.mp h
    refine Nat.le_trans (ih hrest) ?_
    cases n with
    | file | link => cases hinner
    | directory entries =>
      rw [VolumeNode.height]
      exact Nat.le_trans (height_le_heightAll (mem_of_lookup hinner)) (Nat.le_succ _)

/-- What is listed as a directory is one. -/
theorem exists_of_isDirectory {path : String} {listed : List Listed} {e : Listed}
    (h : v.list path = .ok listed) (he : e ∈ listed) (hdirectory : e.isDirectory = true) :
    ∃ entries inner, v.locate path = .ok (.directory entries) ∧
      (e.name, .directory inner) ∈ entries ∧ e.path = Path.join path e.name := by
  unfold list at h
  cases hlocate : v.locate path with
  | error cause => rw [hlocate] at h; cases h
  | ok node =>
    rw [hlocate] at h
    cases node with
    | file | link => cases h
    | directory entries =>
      cases h
      obtain ⟨⟨name, node⟩, hentry, hlisted⟩ := List.mem_filterMap.mp he
      cases node with
      | directory inner => cases hlisted; exact ⟨entries, inner, rfl, hentry, rfl⟩
      | file => cases hlisted; cases hdirectory
      | link =>
        -- a link is listed as a file or as nothing in particular
        simp only [listed?] at hlisted
        split at hlisted
        next => cases hlisted; cases hdirectory
        next => cases hlisted; cases hdirectory
        next =>
          split at hlisted
          next => cases hlisted; cases hdirectory
          next => cases hlisted

theorem within_of_height (hv : WellNamed v.top) {n : Nat} {path : String}
    (h : ∀ node, v.locate path = .ok node → node.height ≤ n) : v.disk.Within (n + 1) path := by
  induction n generalizing path with
  | zero =>
    intro listed hlist e he hdirectory
    obtain ⟨entries, _, hlocate, -⟩ := exists_of_isDirectory hlist he hdirectory
    exact absurd (h _ hlocate) (by rw [VolumeNode.height]; exact Nat.not_succ_le_zero _)
  | succ n ih =>
    intro listed hlist e he hdirectory
    obtain ⟨entries, inner, hlocate, hentry, hpath⟩ := exists_of_isDirectory hlist he hdirectory
    have houter : VolumeNode.heightAll entries ≤ n := by
      have hheight := h _ hlocate
      rw [VolumeNode.height] at hheight
      exact Nat.le_of_succ_le_succ hheight
    refine ih fun node hnode => ?_
    rw [hpath] at hnode
    rcases locate_join hv hlocate hentry with hinner | ⟨cause, hcause⟩
    · cases hinner.symm.trans hnode
      exact Nat.le_trans (height_le_heightAll hentry) houter
    · cases hcause.symm.trans hnode

/-- **Directories of a volume are nested within its depth.** -/
theorem within (hv : WellNamed v.top) (root : String) : v.disk.Within (v.disk.depth + 1) root := by
  refine within_of_height hv fun node hroot => ?_
  obtain ⟨-, way', hleads⟩ := exists_leads_of_locate hroot
  exact height_le_of_descend? hleads.descend?_eq

end Volume

end SourceMetrics
