import Mathlib.Data.List.Find
import SourceMetrics.Detection.Detector
import SourceMetrics.Proofs.Table

/-!
# Detectors and their history

A detector keeps the patterns for interpreters apart from the profiles they come from, so each
request has to change two tables. A registration changes the second only after the pattern was read.
If the pattern cannot be read, the new profile stands beside the pattern of the profile that it
replaced.

What a history leaves is therefore a list of profiles, each with the text of the pattern that is in
force for it (`Standing`). The two tables say what this list says, after any history, and detection
reads nothing else. The texts in force can all be read, so there is a new detector that has them. As
long as the profiles themselves can be read, they are the profiles in force.

The order in the table of patterns is not that of the profiles. A profile that is replaced keeps its
place, but if only the new one has an interpreter, its pattern goes to the end. Two detectors with
the same profiles in force may therefore differ, and what they share is what they detect.

## Main definitions

* `Detector.Request`, `Detector.after`, `Detector.afterAll` — requests, and what they lead to
* `Detector.registered` — the profiles that a history leaves
* `Detector.Standing`, `Detector.standings` — the same, with the patterns in force
* `Detector.Follows` — a detector whose two tables say what a list of standings says

## Main results

* `Detector.Follows.afterAll` — the tables after a history
* `Detector.ofProfiles_eq_ok_iff` — when there is a new detector
* `Detector.Follows.detectWith_congr` — detection reads nothing but the profiles in force
-/

namespace SourceMetrics

namespace Detector

/-! ### Lists by name -/

section

variable {α β : Type} {name : α → String}

/-- The list with a new element: in the place of the one of the same name, or at the end. -/
def placed (name : α → String) (new : α) (old : List α) : List α :=
  if name new ∈ old.map name then old.map fun x => if name x = name new then new else x
  else old ++ [new]

theorem map_placed {other : β → String} {f : α → β} (hf : ∀ x, other (f x) = name x) (new : α)
    (old : List α) : (placed name new old).map f = placed other (f new) (old.map f) := by
  have hnames : (old.map f).map other = old.map name := by
    rw [List.map_map]
    exact List.map_congr_left fun x _ => hf x
  rw [placed, placed, hnames, hf]
  split
  · rw [List.map_map, List.map_map]
    refine List.map_congr_left fun x _ => ?_
    rw [Function.comp_apply, Function.comp_apply, hf, apply_ite f]
  · exact List.map_append

theorem mem_placed_iff {new x : α} {old : List α} :
    x ∈ placed name new old ↔ x = new ∨ x ∈ old ∧ name x ≠ name new := by
  rw [placed]
  split
  next hmem =>
    obtain ⟨y, hy, hname⟩ := List.mem_map.mp hmem
    constructor
    · intro h
      obtain ⟨z, hz, rfl⟩ := List.mem_map.mp h
      by_cases heq : name z = name new
      · exact .inl (if_pos heq)
      · rw [if_neg heq]
        exact .inr ⟨hz, heq⟩
    · rintro (rfl | ⟨hx, hne⟩)
      · exact List.mem_map.mpr ⟨y, hy, if_pos hname⟩
      · exact List.mem_map.mpr ⟨x, hx, if_neg hne⟩
  next hnot =>
    rw [List.mem_append, List.mem_singleton, or_comm]
    refine or_congr_right (iff_self_and.mpr fun hx heq => hnot ?_)
    exact heq ▸ List.mem_map_of_mem hx

/-- A new entry of a table, in terms of what its entries come from. -/
theorem insertEntry_eq_placed (value : α → β) (new : α) {old : List α} (h : (old.map name).Nodup) :
    Table.insertEntry (name new) (value new) (old.map fun x => (name x, value x)) =
      (placed name new old).map fun x => (name x, value x) := by
  have hnames : (old.map fun x => (name x, value x)).map Prod.fst = old.map name := by
    rw [List.map_map]
    rfl
  rw [placed]
  split
  next hmem =>
    rw [Table.insertEntry_of_mem (hnames ▸ h) (hnames ▸ hmem), List.map_map, List.map_map]
    refine List.map_congr_left fun x _ => ?_
    rw [Function.comp_apply, Function.comp_apply, apply_ite fun y => (name y, value y)]
  next hnot => rw [Table.insertEntry_of_notMem (hnames ▸ hnot), List.map_append]; rfl

end

/-! ### Requests -/

/-- A change that a detector is asked for. -/
inductive Request where
  | register (profile : Profile)
  | unregister (language : String)

/-- The detector without a language, whether it had it or not. -/
def without (d : Detector) (language : String) : Detector := (d.unregister language).getD d

/-- The detector after a request, whether it was refused or not. -/
def after (d : Detector) : Request → Detector
  | .register profile => (d.register profile).2
  | .unregister language => d.without language

/-- The detector after a history, oldest request first. -/
def afterAll (d : Detector) (history : List Request) : Detector := history.foldl after d

/-- The profiles after a request. -/
def Request.profiles (old : List Profile) : Request → List Profile
  | .register profile => placed Profile.name profile old
  | .unregister language => old.filter fun profile => profile.name ≠ language

/-- The profiles that a history leaves, in the order of their registration. -/
def registered (history : List Request) : List Profile := history.foldl Request.profiles []

/-! ### Texts of patterns -/

namespace Basis

/-- What the text of a pattern means, if there is one and it can be read. -/
def interpreter? (b : Basis) (shebang : Option String) : Option (List Char → Bool) :=
  (shebang.filter (· ≠ "")).bind fun text => (b.compile text).toOption

/-- Whether the text of a pattern, if there is one, can be read. -/
def reads (b : Basis) (shebang : Option String) : Bool :=
  (shebang.filter (· ≠ "")).all fun text => (b.compile text).toOption.isSome

end Basis

/-- What a registration does: it is refused exactly if the pattern cannot be read, the profile is
stored in any case, and a pattern that cannot be read changes no pattern. -/
theorem register_spec (d : Detector) (p : Profile) :
    ((d.register p).1 = .ok () ↔ d.basis.reads p.shebang = true) ∧
      (d.register p).2.basis = d.basis ∧
      (d.register p).2.profiles = d.profiles.insert p.name p ∧
      ∀ language, (d.register p).2.interpreters.get? language =
        if language = p.name ∧ d.basis.reads p.shebang = true then d.basis.interpreter? p.shebang
        else d.interpreters.get? language := by
  have hreads : d.basis.reads p.shebang =
      p.pattern?.all fun text => (d.basis.compile text).toOption.isSome := rfl
  have hmeaning : d.basis.interpreter? p.shebang =
      p.pattern?.bind fun text => (d.basis.compile text).toOption := rfl
  rw [hreads, hmeaning]
  cases hpattern : p.pattern? with
  | none =>
    have hregister : d.register p = (.ok (),
        { d with
          profiles := d.profiles.insert p.name p
          interpreters := d.interpreters.erase p.name }) := by
      simp only [register, hpattern]
    rw [hregister]
    refine ⟨by simp, rfl, rfl, fun language => ?_⟩
    simpa using d.interpreters.get?_erase p.name language
  | some text =>
    cases hcompile : d.basis.compile text with
    | error complaint =>
      have hregister : d.register p =
          (.error complaint, { d with profiles := d.profiles.insert p.name p }) := by
        simp only [register, hpattern, hcompile]
      rw [hregister]
      exact ⟨by simp [hcompile, Except.toOption], rfl, rfl, by simp [hcompile, Except.toOption]⟩
    | ok pattern =>
      have hregister : d.register p = (.ok (),
          { d with
            profiles := d.profiles.insert p.name p
            interpreters := d.interpreters.insert p.name pattern }) := by
        simp only [register, hpattern, hcompile]
      rw [hregister]
      refine ⟨by simp [hcompile, Except.toOption], rfl, rfl, fun language => ?_⟩
      simpa [hcompile, Except.toOption] using d.interpreters.get?_insert p.name language pattern

theorem without_of_contains {d : Detector} {language : String}
    (h : d.profiles.contains language = true) :
    d.without language =
      { d with
        profiles := d.profiles.erase language, interpreters := d.interpreters.erase language } := by
  rw [without, unregister, if_pos h, Option.getD_some]

theorem without_of_not_contains {d : Detector} {language : String}
    (h : d.profiles.contains language ≠ true) : d.without language = d := by
  rw [without, unregister, if_neg h, Option.getD_none]

theorem basis_without (d : Detector) (language : String) :
    (d.without language).basis = d.basis := by
  by_cases h : d.profiles.contains language = true
  · rw [without_of_contains h]
  · rw [without_of_not_contains h]

theorem basis_after (d : Detector) (request : Request) : (d.after request).basis = d.basis := by
  cases request with
  | register profile => exact (d.register_spec profile).2.1
  | unregister language => exact d.basis_without language

/-! ### Profiles in force -/

/-- A profile that is registered, with the text of the pattern that is in force for it. -/
structure Standing where
  profile : Profile
  pattern : Option String
  deriving DecidableEq, Repr

namespace Standing

/-- The language of the profile. -/
def name (s : Standing) : String := s.profile.name

/-- The profile with the pattern that is in force. -/
def inForce (s : Standing) : Profile := { s.profile with shebang := s.pattern }

/-- The pattern in force can be read, and it is that of the profile if that can be read. -/
structure Sound (s : Standing) (b : Basis) : Prop where
  reads : b.reads s.pattern = true
  own : b.reads s.profile.shebang = true → s.pattern = s.profile.shebang

/-- A profile that is registered beside others. If its pattern cannot be read, the one that was in
force for its language stays so. -/
def new (b : Basis) (old : List Standing) (p : Profile) : Standing where
  profile := p
  pattern :=
    if b.reads p.shebang then p.shebang
    else (old.find? fun s => s.name = p.name).bind pattern

end Standing

/-- The profiles in force after a request. -/
def Request.standings (b : Basis) (old : List Standing) : Request → List Standing
  | .register profile => placed Standing.name (.new b old profile) old
  | .unregister language => old.filter fun s => s.name ≠ language

/-- The profiles in force after a history. -/
def standings (b : Basis) (history : List Request) : List Standing :=
  history.foldl (Request.standings b) []

/-- Apart from the patterns, the profiles in force are those that are registered. -/
theorem map_profile_foldl_standings (b : Basis) (history : List Request) (old : List Standing) :
    (history.foldl (Request.standings b) old).map Standing.profile =
      history.foldl Request.profiles (old.map Standing.profile) := by
  induction history generalizing old with
  | nil => rfl
  | cons request rest ih =>
    rw [List.foldl_cons, List.foldl_cons, ih]
    congr 1
    cases request with
    | register profile => exact map_placed (fun _ => rfl) _ old
    | unregister language => rw [Request.profiles, Request.standings, List.filter_map]; rfl

/-- A detector whose tables say what a list of profiles in force says. -/
structure Follows (d : Detector) (standing : List Standing) : Prop where
  entries : d.profiles.entries = standing.map fun s => (s.name, s.profile)
  known : ∀ s ∈ standing, d.interpreters.get? s.name = d.basis.interpreter? s.pattern
  /-- No pattern outlives its profile. -/
  unknown : ∀ language, language ∉ standing.map Standing.name →
    d.interpreters.get? language = none
  sound : ∀ s ∈ standing, s.Sound d.basis

theorem follows_empty (basis : Basis) : Follows { basis } [] where
  entries := rfl
  known _ h := absurd h List.not_mem_nil
  unknown _ _ := rfl
  sound _ h := absurd h List.not_mem_nil

section

variable {d e : Detector} {standing : List Standing}

theorem Follows.keys_eq (h : d.Follows standing) :
    d.profiles.keys = standing.map Standing.name := by
  rw [Table.keys, h.entries, List.map_map]
  rfl

theorem Follows.nodup_names (h : d.Follows standing) : (standing.map Standing.name).Nodup :=
  h.keys_eq ▸ d.profiles.distinct

theorem Follows.list_eq (h : d.Follows standing) : d.list = standing.map Standing.profile := by
  rw [list, h.entries, List.map_map]
  rfl

/-- The pattern in force for a profile that is registered is its own, or the one that
was in force. -/
theorem Follows.new (h : d.Follows standing) (p : Profile) :
    (Standing.new d.basis standing p).Sound d.basis ∧
      d.basis.interpreter? (Standing.new d.basis standing p).pattern =
        if d.basis.reads p.shebang = true then d.basis.interpreter? p.shebang
        else d.interpreters.get? p.name := by
  cases hreads : d.basis.reads p.shebang with
  | true =>
    have hpattern : (Standing.new d.basis standing p).pattern = p.shebang := if_pos hreads
    exact ⟨⟨hpattern ▸ hreads, fun _ => hpattern⟩, by rw [hpattern, if_pos rfl]⟩
  | false =>
    have hpattern : (Standing.new d.basis standing p).pattern =
        (standing.find? fun s => s.name = p.name).bind Standing.pattern :=
      if_neg (Bool.eq_false_iff.mp hreads)
    have hown : d.basis.reads p.shebang = true →
        (Standing.new d.basis standing p).pattern = p.shebang := fun hp => by
      rw [hreads] at hp
      cases hp
    rw [if_neg Bool.false_ne_true]
    cases hfind : standing.find? fun s => s.name = p.name with
    | none =>
      rw [hfind] at hpattern
      have hunknown : p.name ∉ standing.map Standing.name := by
        intro hmem
        obtain ⟨s, hs, hname⟩ := List.mem_map.mp hmem
        exact List.find?_eq_none.mp hfind s hs (decide_eq_true hname)
      refine ⟨⟨?_, hown⟩, ?_⟩
      · rw [hpattern]
        rfl
      · rw [hpattern, h.unknown p.name hunknown]
        rfl
    | some s =>
      rw [hfind] at hpattern
      have hs : s ∈ standing := List.mem_of_find?_eq_some hfind
      have hname : s.name = p.name := by simpa using List.find?_some hfind
      refine ⟨⟨hpattern ▸ (h.sound s hs).reads, hown⟩, ?_⟩
      rw [hpattern, ← hname]
      exact (h.known s hs).symm

theorem Follows.register (h : d.Follows standing) (p : Profile) :
    (d.register p).2.Follows
      (placed Standing.name (Standing.new d.basis standing p) standing) := by
  obtain ⟨-, hbasis, hprofiles, hget⟩ := d.register_spec p
  obtain ⟨hsound, hnew⟩ := h.new p
  refine ⟨?_, fun s hs => ?_, fun language hlanguage => ?_, fun s hs => ?_⟩
  · rw [hprofiles]
    change Table.insertEntry p.name p d.profiles.entries = _
    rw [h.entries]
    exact insertEntry_eq_placed Standing.profile (.new d.basis standing p) h.nodup_names
  · rw [hget, hbasis]
    rcases mem_placed_iff.mp hs with rfl | ⟨hs, hne⟩
    · rw [hnew]
      cases hreads : d.basis.reads p.shebang with
      | true => exact if_pos ⟨rfl, rfl⟩
      | false => rw [if_neg fun hp => Bool.false_ne_true hp.2, if_neg Bool.false_ne_true]; rfl
    · have hother : ¬(s.name = p.name ∧ d.basis.reads p.shebang = true) := fun hp => hne hp.1
      rw [if_neg hother, h.known s hs]
  · have hnot : language ≠ p.name ∧ language ∉ standing.map Standing.name := by
      refine ⟨fun heq => hlanguage ?_, fun hmem => hlanguage ?_⟩
      · exact heq ▸ List.mem_map_of_mem (f := Standing.name) (mem_placed_iff.mpr (.inl rfl))
      · obtain ⟨s, hs, rfl⟩ := List.mem_map.mp hmem
        by_cases heq : s.name = p.name
        · exact List.mem_map.mpr ⟨_, mem_placed_iff.mpr (.inl rfl), heq.symm⟩
        · exact List.mem_map_of_mem (mem_placed_iff.mpr (.inr ⟨hs, heq⟩))
    rw [hget, if_neg fun hp => hnot.1 hp.1, h.unknown language hnot.2]
  · rw [hbasis]
    rcases mem_placed_iff.mp hs with rfl | ⟨hs, -⟩
    · exact hsound
    · exact h.sound s hs

theorem Follows.without (h : d.Follows standing) (language : String) :
    (d.without language).Follows (standing.filter fun s => s.name ≠ language) := by
  by_cases hcontains : d.profiles.contains language = true
  · rw [without_of_contains hcontains]
    refine ⟨?_, fun s hs => ?_, fun other hother => ?_, fun s hs => ?_⟩
    · change d.profiles.entries.filter _ = _
      rw [h.entries, List.filter_map]
      refine congrArg _ (List.filter_congr fun s _ => ?_)
      rw [Function.comp_apply, Bool.eq_iff_iff, bne_iff_ne, decide_eq_true_iff]
    · obtain ⟨hs, hne⟩ := List.mem_filter.mp hs
      rw [Table.get?_erase, if_neg (of_decide_eq_true hne)]
      exact h.known s hs
    · rw [Table.get?_erase]
      split
      · rfl
      next hne =>
        refine h.unknown other fun hmem => hother ?_
        obtain ⟨s, hs, rfl⟩ := List.mem_map.mp hmem
        exact List.mem_map_of_mem (List.mem_filter.mpr ⟨hs, decide_eq_true hne⟩)
    · exact h.sound s (List.mem_filter.mp hs).1
  · have hall : standing.filter (fun s => s.name ≠ language) = standing := by
      refine List.filter_eq_self.mpr fun s hs => decide_eq_true fun heq => hcontains ?_
      refine Table.contains_iff.mpr ⟨s.profile, ?_⟩
      rw [Table.get?, ← heq]
      have hmem : (s.name, s.profile) ∈ d.profiles.entries := by
        rw [h.entries]
        exact List.mem_map.mpr ⟨s, hs, rfl⟩
      exact Table.lookup_of_mem d.profiles.distinct hmem
    rw [without_of_not_contains hcontains, hall]
    exact h

theorem Follows.after (h : d.Follows standing) (request : Request) :
    (d.after request).Follows (request.standings d.basis standing) := by
  cases request with
  | register profile => exact h.register profile
  | unregister language => exact h.without language

/-- **The tables after a history** say what the history leaves. -/
theorem Follows.afterAll (h : d.Follows standing) (history : List Request) :
    (d.afterAll history).basis = d.basis ∧
      (d.afterAll history).Follows (history.foldl (Request.standings d.basis) standing) := by
  induction history generalizing d standing with
  | nil => exact ⟨rfl, h⟩
  | cons request rest ih =>
    have hbasis := d.basis_after request
    obtain ⟨hrest, hfollows⟩ := ih (h.after request)
    rw [hbasis] at hrest hfollows
    exact ⟨hrest, hfollows⟩

end

/-! ### New detectors -/

theorem extended_eq_ok_iff {d next : Detector} {p : Profile} :
    d.extended p = .ok next ↔ d.basis.reads p.shebang = true ∧ next = (d.register p).2 := by
  obtain ⟨hanswer, -⟩ := d.register_spec p
  rw [extended, ← hanswer]
  rcases d.register p with ⟨complaint | _, after⟩
  · simp
  · simp [eq_comm]

/-- **When there is a new detector**: if all patterns can be read. To build it is to
register its profiles. -/
theorem ofProfiles_eq_ok_iff {basis : Basis} {profiles : List Profile} {d : Detector} :
    ofProfiles basis profiles = .ok d ↔
      (∀ p ∈ profiles, basis.reads p.shebang = true) ∧
        d = ({ basis } : Detector).afterAll (profiles.map .register) := by
  suffices h : ∀ start : Detector, start.basis = basis → (profiles.foldlM extended start = .ok d ↔
      (∀ p ∈ profiles, basis.reads p.shebang = true) ∧
        d = start.afterAll (profiles.map .register)) from h { basis } rfl
  intro start hstart
  induction profiles generalizing start with
  | nil => exact ⟨fun h => ⟨nofun, (Except.ok.inj h).symm⟩, fun h => congrArg Except.ok h.2.symm⟩
  | cons p rest ih =>
    rw [List.foldlM_cons, List.forall_mem_cons]
    cases hextended : start.extended p with
    | error complaint =>
      have hreads : ¬basis.reads p.shebang = true := fun hreads => by
        rw [extended_eq_ok_iff.mpr ⟨hstart ▸ hreads, rfl⟩] at hextended
        cases hextended
      simp [hreads, bind, Except.bind]
    | ok next =>
      obtain ⟨hreads, rfl⟩ := extended_eq_ok_iff.mp hextended
      have hnext := ih (start.register p).2 (hstart ▸ (start.register_spec p).2.1)
      rw [hstart] at hreads
      simp only [hreads, true_and]
      exact hnext

/-- Readable profiles of different languages are in force as they come. -/
theorem standings_register {basis : Basis} {profiles : List Profile}
    (hnames : (profiles.map Profile.name).Nodup)
    (hreads : ∀ p ∈ profiles, basis.reads p.shebang = true) :
    standings basis (profiles.map .register) = profiles.map fun p => ⟨p, p.shebang⟩ := by
  -- every profile is new to those in front of it
  suffices h : ∀ front back : List Profile, ((front ++ back).map Profile.name).Nodup →
      (∀ p ∈ back, basis.reads p.shebang = true) →
      (back.map Request.register).foldl (Request.standings basis)
          (front.map fun p => ⟨p, p.shebang⟩) =
        (front ++ back).map fun p => ⟨p, p.shebang⟩ from h [] profiles hnames hreads
  intro front back hnodup hback
  induction back generalizing front with
  | nil => rw [List.append_nil]; rfl
  | cons p rest ih =>
    have hname : p.name ∉ (front.map fun p => (⟨p, p.shebang⟩ : Standing)).map Standing.name := by
      rw [List.map_append, List.map_cons] at hnodup
      rw [List.map_map]
      intro hmem
      exact (List.nodup_append.mp hnodup).2.2 _ hmem _ List.mem_cons_self rfl
    have hpattern : Standing.new basis (front.map fun p => ⟨p, p.shebang⟩) p = ⟨p, p.shebang⟩ :=
      congrArg (Standing.mk p) (if_pos (hback p List.mem_cons_self))
    have hplaced : Request.standings basis (front.map fun p => ⟨p, p.shebang⟩) (.register p) =
        (front ++ [p]).map fun p => ⟨p, p.shebang⟩ := by
      rw [Request.standings, hpattern, List.map_append]
      exact if_neg hname
    rw [List.append_cons] at hnodup ⊢
    rw [List.map_cons, List.foldl_cons, hplaced]
    exact ih _ hnodup fun q hq => hback q (List.mem_cons_of_mem p hq)

/-! ### What detection reads -/

section

variable {d e : Detector} {standing others : List Standing}

/-- A choice among profiles that does not look at patterns is one among profiles in force. -/
theorem Follows.first?_eq (h : d.Follows standing) (p : Profile → Bool)
    (hp : ∀ s : Standing, p s.profile = p s.inForce) :
    d.first? p = fun confidence method =>
      ((standing.map Standing.inForce).find? p).map fun profile =>
        ⟨profile.name, confidence, method⟩ := by
  have hfind : p ∘ Standing.profile = p ∘ Standing.inForce := funext hp
  funext confidence method
  rw [first?, h.list_eq, List.find?_map, List.find?_map, hfind, Option.map_map, Option.map_map]
  rfl

/-- Patterns are tried as if each profile in force kept its own. -/
theorem Follows.byInterpreter?_eq (h : d.Follows standing) (text : List Char) :
    d.byInterpreter? text =
      ((standing.map Standing.inForce).find? fun profile =>
        (d.basis.interpreter? profile.shebang).any fun pattern => pattern text).map fun profile =>
          ⟨profile.name, .ofRatio 85 100, .shebang⟩ := by
  rw [byInterpreter?, h.keys_eq, List.find?_map, List.find?_map, Option.map_map, Option.map_map]
  have hsame : standing.find? ((fun language =>
        (d.interpreters.get? language).any fun pattern => pattern text) ∘ Standing.name) =
      standing.find? ((fun profile : Profile =>
        (d.basis.interpreter? profile.shebang).any fun pattern => pattern text) ∘
          Standing.inForce) := by
    refine List.find?_congr fun s hs => ?_
    rw [Function.comp_apply, h.known s hs]
    rfl
  rw [hsame]
  rfl

/-- Words are counted for the profiles in force. -/
theorem Follows.wordCounts_eq (h : d.Follows standing) (content : String) :
    d.wordCounts content =
      ((standing.map Standing.inForce).filter fun profile => !profile.keywords.isEmpty).map
        fun profile =>
          (profile.name, Number.total (profile.keywords.map fun word =>
            Text.countOccurrences (Text.lower word).toList (Text.lower content).toList)) := by
  rw [wordCounts, h.list_eq, List.filter_map, List.filter_map, List.map_map, List.map_map]
  rfl

/-- **Detection reads nothing but the profiles in force.** -/
theorem Follows.detectWith_congr (hd : d.Follows standing) (he : e.Follows others)
    (hbasis : d.basis = e.basis)
    (h : standing.map Standing.inForce = others.map Standing.inForce) :
    d.detectWith = e.detectWith := by
  have hfirst : ∀ p : Profile → Bool, (∀ s : Standing, p s.profile = p s.inForce) →
      d.first? p = e.first? p := fun p hp => by
    rw [hd.first?_eq p hp, he.first?_eq p hp, h]
  have hextension : d.byExtension? = e.byExtension? := by
    funext path
    simp only [byExtension?,
      fun extension => hfirst (fun profile => profile.extensions.contains extension) fun _ => rfl]
  have htype : d.byMediaType? = e.byMediaType? := by
    funext types
    simp only [byMediaType?,
      fun type => hfirst (fun profile => profile.mimeTypes.contains type) fun _ => rfl]
  have hcontent : d.byContent? = e.byContent? := by
    funext content
    simp only [byContent?, hd.byInterpreter?_eq, he.byInterpreter?_eq, byWords?, hd.wordCounts_eq,
      he.wordCounts_eq, h, hbasis]
  funext path types content
  rw [detectWith, detectWith, hextension, htype, hcontent]

end

end Detector

end SourceMetrics
