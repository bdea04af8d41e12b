import Mathlib.Data.List.Induction
import SourceMetrics.Proofs.Table
import SourceMetrics.Proofs.Text.LowerCase
import SourceMetrics.Registry.Request

/-!
# Registries and their history

An alias or an extension leads to the language that listed it last, as long as the registration of
that language stands. The tables of a registry say nothing of this. What they say is derived here
from what one request does to them, and every further fact about registries that were built by
requests follows.

A registration ends when its language is registered anew, when it is removed, or when everything is.
A language may be removed by one of its aliases, so which registration a removal ends depends on the
registry at that time. That is why `Request.ends` is asked about a registry.

One fact carries the rest: nothing leads to a language that is not registered. Registering a
language takes away its old aliases and extensions only if the language is registered at that time,
and without this fact there could be others to take away.

## Main definitions

* `Registry.Pointer`, `Registry.pointing` — aliases and extensions, and where they lead
* `Registry.Request.ends` — when a request ends the registration of a language
* `Registry.LastListed` — a history by which a name leads to a language
* `Registry.Sound` — a registry in which nothing leads astray

## Main results

* `Registry.get?_pointing_after` — what a request does to aliases and extensions
* `Registry.Sound.afterAll` — a history never leads astray
* `Registry.get?_pointing_afterAll_iff` — where a name leads after a history
* `Registry.followsHistory_afterAll` — lookups are determined by the history
-/

namespace SourceMetrics

/-- The scanner that a candidate is, if it is a finished one. -/
def Candidate.scanner? (c : Candidate) : Option Scanner :=
  match c.content with
  | .scanner s => some s
  | .unfinished _ _ _ => none
  | .other => none

namespace Registry

/-! ### Aliases and extensions

Both are names that lead to languages. They differ in the form in which they are kept. -/

/-- The kinds of names that lead to a language. -/
inductive Pointer where
  | aliases
  | extensions

/-- The form in which a name is kept. -/
def Pointer.form : Pointer → String → String
  | .aliases => Text.lower
  | .extensions => normalExtension

/-- The names of a kind with the languages they lead to. -/
def pointing (r : Registry) : Pointer → Table String
  | .aliases => r.aliases
  | .extensions => r.extensions

theorem pointing_dropMappings (r : Registry) (id : String) (kind : Pointer) :
    (r.dropMappings id).pointing kind = (r.pointing kind).retain fun _ target => target != id := by
  cases kind <;> rfl

/-! ### Requests -/

namespace Request

/-- The language that a request registers a scanner for; one that is refused registers none. -/
def language? : Request → Option String
  | .register language candidate _ _ _ => candidate.scanner?.map fun _ => Text.lower language
  | .unregister _ => none
  | .clear => none

/-- The names of a kind that a request gives, if it is one to register. -/
def given (kind : Pointer) : Request → List String
  | .register _ _ extensions aliases _ =>
    match kind with
    | .aliases => aliases
    | .extensions => extensions
  | .unregister _ => []
  | .clear => []

/-- The names of a kind that a request lists, in their form; one that is refused lists none. -/
def listed (kind : Pointer) (request : Request) : List String :=
  if request.language?.isSome then (request.given kind).map kind.form else []

/-- Whether a request to `r` ends the registration of a language. -/
def ends (r : Registry) (language : String) : Request → Bool
  | .register id candidate extensions aliases metadata =>
    (Request.register id candidate extensions aliases metadata).language? == some language
  | .unregister name => r.resolve name == some language
  | .clear => true

end Request

/-! ### What a request does -/

theorem register_of_scanner? {candidate : Candidate} {s : Scanner}
    (h : candidate.scanner? = some s) (r : Registry) (language : String)
    (extensions aliases : List String) (metadata : List (String × Json)) :
    r.register language candidate extensions aliases metadata =
      (.ok (), r.put language ⟨s, metadata⟩ extensions aliases) := by
  obtain ⟨display, content⟩ := candidate
  cases content with
  | scanner found =>
    cases h
    rfl
  | unfinished name declared missing => cases h
  | other => cases h

/-- What is no finished scanner is refused before anything changes. -/
theorem exists_register_eq_error {candidate : Candidate} (h : candidate.scanner? = none)
    (r : Registry) (language : String) (extensions aliases : List String)
    (metadata : List (String × Json)) :
    ∃ e, r.register language candidate extensions aliases metadata = (.error e, r) := by
  obtain ⟨display, content⟩ := candidate
  cases content with
  | scanner found => cases h
  | unfinished name declared missing => exact ⟨_, rfl⟩
  | other => exact ⟨_, rfl⟩

/-- A request that is refused changes nothing and counts for nothing. -/
theorem after_of_carryOut_eq_error {r : Registry} {request : Request} {e : RegistryError}
    (h : (r.carryOut request).1 = .error e) :
    r.after request = r ∧ request.language? = none ∧ ∀ kind, request.listed kind = [] := by
  cases request with
  | register language candidate extensions aliases metadata =>
    cases hc : candidate.scanner? with
    | none =>
      obtain ⟨complaint, hregister⟩ :=
        exists_register_eq_error hc r language extensions aliases metadata
      have hnone : (Request.register language candidate extensions aliases metadata).language? =
          none := by rw [Request.language?, hc, Option.map_none]
      refine ⟨?_, hnone, fun kind => ?_⟩
      · rw [after, carryOut, hregister]
      · rw [Request.listed, hnone]
        rfl
    | some s =>
      rw [carryOut, register_of_scanner? hc] at h
      cases h
  | unregister name => cases h
  | clear => cases h

/-- The removal of a language. -/
def without (r : Registry) (id : String) : Registry :=
  { r with scanners := r.scanners.erase id }.dropMappings id

theorem unregister_of_resolve {r : Registry} {name id : String} (h : r.resolve name = some id) :
    r.unregister name = some (r.without id) := by
  rw [unregister, h]
  rfl

theorem unregister_eq_none {r : Registry} {name : String} (h : r.resolve name = none) :
    r.unregister name = none := by
  rw [unregister, h]

theorem pointing_without (r : Registry) (id : String) (kind : Pointer) :
    (r.without id).pointing kind = (r.pointing kind).retain fun _ target => target != id :=
  pointing_dropMappings { r with scanners := r.scanners.erase id } id kind

/-- What can become of a registry: nothing, a new registration, a removal, or a clearing. -/
theorem after_cases (r : Registry) (request : Request) :
    (r.after request = r ∧ request.language? = none ∧ ∀ id, request.ends r id = false) ∨
    (∃ language candidate extensions aliases metadata s,
      request = .register language candidate extensions aliases metadata ∧
      candidate.scanner? = some s ∧
      r.after request = r.put language ⟨s, metadata⟩ extensions aliases) ∨
    (∃ name id, request = .unregister name ∧ r.resolve name = some id ∧
      r.after request = r.without id) ∨
    (request = .clear ∧ r.after request = {}) := by
  cases request with
  | register language candidate extensions aliases metadata =>
    cases hc : candidate.scanner? with
    | none =>
      obtain ⟨e, he⟩ := exists_register_eq_error hc r language extensions aliases metadata
      have hrefused :
          (r.carryOut (.register language candidate extensions aliases metadata)).1 = .error e :=
        congrArg Prod.fst he
      obtain ⟨hafter, hlanguage, -⟩ := after_of_carryOut_eq_error hrefused
      exact Or.inl ⟨hafter, hlanguage, fun id => by rw [Request.ends, hlanguage]; rfl⟩
    | some s =>
      refine Or.inr (Or.inl ⟨language, candidate, extensions, aliases, metadata, s, rfl, hc, ?_⟩)
      rw [after, carryOut, register_of_scanner? hc]
  | unregister name =>
    cases hname : r.resolve name with
    | none =>
      refine Or.inl ⟨?_, rfl, fun id => by rw [Request.ends, hname]; rfl⟩
      rw [after, carryOut, unregister_eq_none hname, Option.getD_none]
    | some id =>
      refine Or.inr (Or.inr (Or.inl ⟨name, id, rfl, hname, ?_⟩))
      rw [after, carryOut, unregister_of_resolve hname, Option.getD_some]
  | clear => exact Or.inr (Or.inr (Or.inr ⟨rfl, rfl⟩))

/-- Which languages are registered after a request. -/
theorem contains_scanners_after (r : Registry) (request : Request) (id : String) :
    (r.after request).scanners.contains id = true ↔
      request.language? = some id ∨ r.scanners.contains id = true ∧ request.ends r id = false := by
  simp only [Table.contains]
  obtain ⟨hafter, hlanguage, hends⟩ |
    ⟨language, candidate, extensions, aliases, metadata, s, rfl, hs, hafter⟩ |
    ⟨name, gone, rfl, hname, hafter⟩ | ⟨rfl, hafter⟩ := r.after_cases request
  · simp [hafter, hlanguage, hends]
  · have hscanners : (r.put language ⟨s, metadata⟩ extensions aliases).scanners =
        r.scanners.insert (Text.lower language) ⟨s, metadata⟩ := by
      rw [put]
      split <;> rfl
    rw [hafter, hscanners, Table.get?_insert]
    by_cases hid : id = Text.lower language
    · simp [hid, Request.language?, hs]
    · simp [hid, Ne.symm hid, Request.language?, Request.ends, hs]
  · have hscanners : (r.without gone).scanners = r.scanners.erase gone := rfl
    rw [hafter, hscanners, Table.get?_erase]
    by_cases hid : id = gone
    · simp [hid, Request.language?, Request.ends, hname]
    · simp [hid, Ne.symm hid, Request.language?, Request.ends, hname]
  · simp [hafter, Request.language?, Request.ends]

/-- A registry in which every language is in lower case, and in which aliases and extensions lead to
registered languages only. -/
structure Sound (r : Registry) : Prop where
  lower : ∀ {id}, r.scanners.contains id = true → Text.lower id = id
  known : ∀ {kind name id}, (r.pointing kind).get? name = some id → r.scanners.contains id = true

/-- Taking away what leads to a language that is not registered takes away nothing. -/
theorem Sound.get?_pointing_cleared {r : Registry} (hr : r.Sound) (id : String) (kind : Pointer)
    (name : String) :
    ((if r.scanners.contains id then r.dropMappings id else r).pointing kind).get? name =
      ((r.pointing kind).get? name).filter (· != id) := by
  by_cases hid : r.scanners.contains id = true
  · rw [if_pos hid, pointing_dropMappings, Table.get?_retain]
  · rw [if_neg hid]
    cases htarget : (r.pointing kind).get? name with
    | none => rfl
    | some target =>
      have hne : target ≠ id := by
        rintro rfl
        exact hid (hr.known htarget)
      rw [Option.filter_some, if_pos (bne_iff_ne.mpr hne)]

/-- **What a request does to aliases and extensions.** Those it lists lead to the language it
registers, and of the others those remain whose language does. -/
theorem get?_pointing_after {r : Registry} (hr : r.Sound) (request : Request) (kind : Pointer)
    (name : String) :
    ((r.after request).pointing kind).get? name =
      if name ∈ request.listed kind then request.language?
      else ((r.pointing kind).get? name).filter fun id => !request.ends r id := by
  obtain ⟨hafter, hlanguage, hends⟩ |
    ⟨language, candidate, extensions, aliases, metadata, s, rfl, hs, hafter⟩ |
    ⟨gone, id, rfl, hname, hafter⟩ | ⟨rfl, hafter⟩ := r.after_cases request
  · cases htarget : (r.pointing kind).get? name <;>
      simp [hafter, htarget, Request.listed, hlanguage, hends, Option.filter_some]
  · have hput : ((r.put language ⟨s, metadata⟩ extensions aliases).pointing kind).get? name =
        if name ∈ ((Request.register language candidate extensions aliases metadata).given kind).map
            kind.form then some (Text.lower language)
        else ((r.pointing kind).get? name).filter (· != Text.lower language) := by
      rw [← hr.get?_pointing_cleared, ← Table.get?_foldl_insert]
      cases kind <;> rfl
    rw [hafter, hput]
    simp [Request.listed, Request.language?, Request.ends, hs, bne, Bool.beq_comm]
  · rw [hafter, pointing_without, Table.get?_retain]
    simp [Request.listed, Request.language?, Request.ends, hname, bne, Bool.beq_comm]
  · cases htarget : (r.pointing kind).get? name <;> cases kind <;>
      simp [hafter, Request.listed, Request.language?, Request.ends, pointing]

/-! ### Histories -/

@[simp] theorem afterAll_nil (r : Registry) : r.afterAll [] = r := rfl

theorem afterAll_append (r : Registry) (history later : List Request) :
    r.afterAll (history ++ later) = (r.afterAll history).afterAll later :=
  List.foldl_append

@[simp] theorem afterAll_concat (r : Registry) (history : List Request) (request : Request) :
    r.afterAll (history ++ [request]) = (r.afterAll history).after request :=
  r.afterAll_append history [request]

theorem sound_empty : Sound {} where
  lower h := by simp [Table.contains] at h
  known {kind name id} h := by cases kind <;> cases h

theorem Sound.after {r : Registry} (hr : r.Sound) (request : Request) :
    (r.after request).Sound where
  lower {id} h := by
    rcases (r.contains_scanners_after request id).mp h with hnew | hold
    · cases request with
      | register language candidate extensions aliases metadata =>
        obtain ⟨s, -, rfl⟩ := Option.map_eq_some_iff.mp hnew
        exact Text.lower_lower language
      | unregister name => cases hnew
      | clear => cases hnew
    · exact hr.lower hold.1
  known {kind name id} h := by
    rw [contains_scanners_after]
    rw [get?_pointing_after hr] at h
    split at h
    · exact Or.inl h
    · obtain ⟨htarget, hends⟩ := Option.filter_eq_some_iff.mp h
      exact Or.inr ⟨hr.known htarget, by simpa using hends⟩

/-- **A history never leads astray.** -/
theorem Sound.afterAll {r : Registry} (hr : r.Sound) (history : List Request) :
    (r.afterAll history).Sound := by
  induction history using List.reverseRecOn with
  | nil => exact hr
  | append_singleton earlier request ih =>
    rw [afterAll_concat]
    exact ih.after request

/-- A history in which a request that registers `language` lists `name`, and after which no request
lists `name` again or ends the registration. -/
def LastListed (kind : Pointer) (history : List Request) (name language : String) : Prop :=
  ∃ earlier request later, history = earlier ++ request :: later ∧
    request.language? = some language ∧ name ∈ request.listed kind ∧
    ∀ between next rest, later = between ++ next :: rest →
      name ∉ next.listed kind ∧
        next.ends (({} : Registry).afterAll (earlier ++ request :: between)) language = false

/-- A longer history is cut at its last request or before. -/
theorem concat_eq_append_cons_iff {history earlier later : List Request} {request found : Request} :
    history ++ [request] = earlier ++ found :: later ↔
      (history = earlier ∧ request = found ∧ later = []) ∨
      ∃ between, later = between ++ [request] ∧ history = earlier ++ found :: between := by
  constructor
  · intro h
    rcases later.eq_nil_or_concat with rfl | ⟨between, last, rfl⟩
    · obtain ⟨hfront, hlast⟩ := List.append_inj' h rfl
      exact Or.inl ⟨hfront, List.head_eq_of_cons_eq hlast, rfl⟩
    · rw [List.concat_eq_append, ← List.cons_append, ← List.append_assoc] at h
      obtain ⟨hfront, hlast⟩ := List.append_inj' h rfl
      rw [List.head_eq_of_cons_eq hlast]
      exact Or.inr ⟨between, List.concat_eq_append, hfront⟩
  · rintro (⟨rfl, rfl, rfl⟩ | ⟨between, rfl, rfl⟩)
    · rfl
    · simp

theorem lastListed_concat_iff {kind : Pointer} {history : List Request} {request : Request}
    {name language : String} :
    LastListed kind (history ++ [request]) name language ↔
      name ∈ request.listed kind ∧ request.language? = some language ∨
      name ∉ request.listed kind ∧ LastListed kind history name language ∧
        request.ends (({} : Registry).afterAll history) language = false := by
  constructor
  · rintro ⟨earlier, found, later, hhistory, hlanguage, hlisted, hsince⟩
    rcases concat_eq_append_cons_iff.mp hhistory with ⟨rfl, rfl, rfl⟩ | ⟨between, rfl, rfl⟩
    · exact Or.inl ⟨hlisted, hlanguage⟩
    · obtain ⟨hnot, hends⟩ := hsince between request [] rfl
      refine Or.inr ⟨hnot, ⟨earlier, found, between, rfl, hlanguage, hlisted, ?_⟩, hends⟩
      intro front next rest hbetween
      exact hsince front next (rest ++ [request]) (by rw [hbetween, List.append_assoc]; rfl)
  · rintro (⟨hlisted, hlanguage⟩ | ⟨hnot, ⟨earlier, found, later, rfl, hlanguage, hlisted, hsince⟩,
      hends⟩)
    · refine ⟨history, request, [], rfl, hlanguage, hlisted, ?_⟩
      intro between next rest hnil
      exact absurd hnil (by simp)
    · refine ⟨earlier, found, later ++ [request], by simp, hlanguage, hlisted, ?_⟩
      intro between next rest hlater
      rcases concat_eq_append_cons_iff.mp hlater with ⟨rfl, rfl, -⟩ | ⟨front, -, hfront⟩
      · exact ⟨hnot, hends⟩
      · exact hsince between next front hfront

/-- **Where a name leads after a history**: to the language that listed it last, as long as its
registration stands. -/
theorem get?_pointing_afterAll_iff (history : List Request) (kind : Pointer)
    (name language : String) :
    (((({} : Registry).afterAll history).pointing kind).get? name = some language) ↔
      LastListed kind history name language := by
  induction history using List.reverseRecOn with
  | nil =>
    constructor
    · intro h
      cases kind <;> cases h
    · rintro ⟨earlier, found, later, hnil, -⟩
      exact absurd hnil (by simp)
  | append_singleton earlier request ih =>
    rw [afterAll_concat, get?_pointing_after (sound_empty.afterAll earlier), lastListed_concat_iff]
    by_cases hlisted : name ∈ request.listed kind
    · simp [hlisted]
    · simp [hlisted, Option.filter_eq_some_iff, ih]

/-! ### Lookups -/

theorem Sound.contains_of_resolve {r : Registry} (hr : r.Sound) {name id : String}
    (h : r.resolve name = some id) : r.scanners.contains id = true := by
  rw [resolve] at h
  split at h
  next hcontains =>
    cases h
    exact hcontains
  next =>
    have htarget : (r.pointing .aliases).get? (Text.lower name) = some id := h
    exact hr.known htarget

/-- What the history of a registry says about its lookups. -/
structure FollowsHistory (history : List Request) (r : Registry) : Prop where
  /-- An extension leads to the language that listed it last, as long as its registration stands. -/
  extension_iff : ∀ extension language, r.languageFor? extension = some language ↔
    LastListed .extensions history (normalExtension extension) language
  /-- So does an alias. -/
  alias_iff : ∀ name language, r.aliases.get? (Text.lower name) = some language ↔
    LastListed .aliases history (Text.lower name) language
  /-- A request that is refused changes nothing and counts for nothing. -/
  refused : ∀ request e, (r.carryOut request).1 = .error e →
    r.after request = r ∧ request.language? = none ∧ ∀ kind, request.listed kind = []
  /-- Aliases and extensions lead to registered languages. -/
  known : ∀ kind name language, (r.pointing kind).get? name = some language →
    r.scanners.contains language = true
  /-- With a language exactly its own aliases and extensions go, and no other gets a new
  language. -/
  removal : ∀ name language, r.resolve name = some language →
    ∃ next, r.unregister name = some next ∧ next.scanners = r.scanners.erase language ∧
    ∀ kind other, (next.pointing kind).get? other =
      if (r.pointing kind).get? other = some language then none else (r.pointing kind).get? other
  /-- There is a description of whatever a name stands for. -/
  description : ∀ name language, r.resolve name = some language → ∃ registration,
    r.scanners.get? language = some registration ∧
      r.info name = .obj
        [("language", .str language), ("scanner", .str registration.scanner.name),
         ("extensions", .texts (namesOf r.extensions language)),
         ("aliases", .texts (namesOf r.aliases language)), ("metadata", .obj registration.metadata)]

/-- **Lookups are determined by the history.** -/
theorem followsHistory_afterAll (history : List Request) :
    FollowsHistory history (({} : Registry).afterAll history) where
  extension_iff extension language :=
    get?_pointing_afterAll_iff history .extensions (normalExtension extension) language
  alias_iff name language := get?_pointing_afterAll_iff history .aliases (Text.lower name) language
  refused _ _ h := after_of_carryOut_eq_error h
  known _ _ _ h := (sound_empty.afterAll history).known h
  removal name language h := by
    refine ⟨_, unregister_of_resolve h, rfl, fun kind other => ?_⟩
    rw [pointing_without, Table.get?_retain]
    cases ((({} : Registry).afterAll history).pointing kind).get? other with
    | none => rfl
    | some target => by_cases heq : target = language <;> simp [heq, Option.filter_some]
  description name language h := by
    have hcontains := (sound_empty.afterAll history).contains_of_resolve h
    obtain ⟨registration, hregistration⟩ := Table.contains_iff.mp hcontains
    refine ⟨registration, hregistration, ?_⟩
    simp only [info, h, hregistration]

end Registry

end SourceMetrics
