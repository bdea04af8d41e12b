import Mathlib
import SourceMetrics.CommandLine.Run

/-!
# Options that are refused

Options are any JSON value. If settings come of them, the limits are positive and the thresholds in
order. Otherwise there is an error, and a command line tells apart two kinds: for a bad value it
complains about the configuration, and every other error ends it.

Errors of the second kind come from values of the wrong type. `Settings.Misfit` says which these
are, member by member, without asking how options are read: options or thresholds that are no
object, a limit that is neither a number nor a text, or infinite, and patterns that cannot be
listed.

## Main definitions

* `Settings.Valid` — what settings promise
* `Json.NoInteger`, `Settings.Misfit` — values of the wrong type, and the errors that they are

## Main results

* `Settings.valid_of_ofOptions` — the settings that come of options
* `Settings.misfit_of_ofOptions` — the errors
* `Settings.options_reported` — which options are reported, and how
* `Settings.wrong_types_escape` — not all are
-/

namespace SourceMetrics

/-! ### Chains of readings -/

section

variable {ε α β : Type} {x : Except ε α} {f : α → Except ε β}

theorem exists_of_bind_eq_ok {b : β} (h : x >>= f = .ok b) :
    ∃ a, x = .ok a ∧ f a = .ok b := by
  cases x with
  | error e => cases h
  | ok a => exact ⟨a, rfl, h⟩

theorem of_bind_eq_error {e : ε} (h : x >>= f = .error e) :
    x = .error e ∨ ∃ a, x = .ok a ∧ f a = .error e := by
  cases x with
  | error e' =>
    cases h
    exact .inl rfl
  | ok a => exact .inr ⟨a, rfl, h⟩

end

/-! ### Values of the wrong type -/

namespace Json

/-- Whether a value has members. -/
def isObject : Json → Bool
  | obj _ => true
  | _ => false

/-- Whether a value has items: those of a list, the characters of a text or the names
of an object. -/
def hasItems : Json → Bool
  | arr _ | str _ | obj _ => true
  | _ => false

/-- A value that is no integer and no text either, with the error that it is. -/
inductive NoInteger : Json → SettingsError → Prop
  | null : NoInteger .null (.noInteger "NoneType")
  | arr (items : List Json) : NoInteger (.arr items) (.noInteger "list")
  | obj (members : List (String × Json)) : NoInteger (.obj members) (.noInteger "dict")
  | infinite (negative : Bool) : NoInteger (.real (.infinite negative)) .infiniteNumber

theorem toInteger_eq_error_of_noInteger {v : Json} {e : SettingsError} (h : v.NoInteger e) :
    v.toInteger = .error e := by
  cases h <;> rfl

theorem noInteger_of_toInteger {v : Json} {e : SettingsError} (h : v.toInteger = .error e) :
    e.isBadValue = true ∨ v.NoInteger e := by
  cases v with
  | null => cases h; exact .inr .null
  | bool b => cases h
  | int n => cases h
  | real x =>
    cases x with
    | undefined => cases h; exact .inl rfl
    | infinite negative => cases h; exact .inr (.infinite negative)
    | finite negative magnitude => cases h
  | str s =>
    simp only [toInteger] at h
    split at h
    · cases h
    · cases h; exact .inl rfl
    · cases h; exact .inl rfl
  | arr items => cases h; exact .inr (.arr items)
  | obj members => cases h; exact .inr (.obj members)

theorem NoInteger.isBadValue_eq {v : Json} {e : SettingsError} (h : v.NoInteger e) :
    e.isBadValue = false := by
  cases h <;> rfl

theorem toItems_eq_error_iff {v : Json} {e : SettingsError} :
    v.toItems = .error e ↔ v.hasItems = false ∧ e = .noItems v.typeName := by
  cases v <;> simp [toItems, hasItems, eq_comm]

theorem member_eq_error_iff {v : Json} {name : String} {default : Json} {e : SettingsError} :
    v.member name default = .error e ↔ v.isObject = false ∧ e = .noMembers v.typeName := by
  cases v <;> simp [member, isObject, eq_comm]

theorem eq_getD_of_member {v : Json} {name : String} {default found : Json}
    (h : v.member name default = .ok found) : found = (v.get? name).getD default := by
  cases v <;> cases h
  rfl

theorem isObject_of_member {v : Json} {name : String} {default found : Json}
    (h : v.member name default = .ok found) : v.isObject = true := by
  cases v with
  | obj members => rfl
  | null | bool | int | real | str | arr => cases h

theorem isSet_of_get? {v found : Json} {name : String} (h : v.get? name = some found) :
    v.isSet = true := by
  cases v with
  | obj fields =>
    cases fields with
    | nil => cases h
    | cons field rest => rfl
  | null | bool | int | real | str | arr => cases h

end Json

namespace Settings

/-- The members that are limits. -/
def limitNames : List String := ["maxFileSize", "timeout", "maxConcurrency"]

/-- The members of the thresholds. -/
def boundNames : List String := ["low", "medium", "high"]

/-- A value of the wrong type somewhere in options, with the error that it is. -/
inductive Misfit (options : Json) : SettingsError → Prop
  | options (type : options.isObject = false) : Misfit options (.noMembers options.typeName)
  | thresholds {v : Json} (member : options.get? "thresholds" = some v) (set : v.isSet = true)
      (type : v.isObject = false) : Misfit options (.noMembers v.typeName)
  | limit {name : String} {v : Json} {e : SettingsError} (known : name ∈ limitNames)
      (member : options.get? name = some v) (type : v.NoInteger e) : Misfit options e
  | bound {bounds v : Json} {name : String} {e : SettingsError}
      (outer : options.get? "thresholds" = some bounds) (known : name ∈ boundNames)
      (member : bounds.get? name = some v) (type : v.NoInteger e) : Misfit options e
  | patterns {v : Json} (member : options.get? "ignorePatterns" = some v) (set : v.isSet = true)
      (type : v.hasItems = false) : Misfit options (.noItems v.typeName)

theorem Misfit.isBadValue_eq {options : Json} {e : SettingsError} (h : Misfit options e) :
    e.isBadValue = false := by
  cases h with
  | options | thresholds | patterns => rfl
  | limit _ _ type => exact type.isBadValue_eq
  | bound _ _ _ type => exact type.isBadValue_eq

/-- What settings promise: limits are positive, thresholds are positive and do not decrease. -/
structure Valid (s : Settings) : Prop where
  maxFileSize : 0 < s.maxFileSize
  timeout : 0 < s.timeout
  maxConcurrency : 1 ≤ s.maxConcurrency
  low : 1 ≤ s.thresholds.low
  medium : s.thresholds.low ≤ s.thresholds.medium
  high : s.thresholds.medium ≤ s.thresholds.high

/-! ### Single readings -/

variable {options bounds : Json} {name : String} {e : SettingsError}

theorem of_check_eq_ok {s final : Settings} (h : s.check = .ok final) :
    final = s ∧ 0 < s.maxFileSize ∧ 0 < s.timeout ∧ 1 ≤ s.maxConcurrency := by
  unfold check at h
  split at h
  · cases h
  split at h
  · cases h
  split at h
  · cases h
  · cases h
    exact ⟨rfl, by omega, by omega, by omega⟩

theorem isBadValue_of_check {s : Settings} (h : s.check = .error e) : e.isBadValue = true := by
  unfold check at h
  split at h
  · cases h; rfl
  split at h
  · cases h; rfl
  split at h
  · cases h; rfl
  · cases h

theorem of_check_thresholds_eq_ok {t final : Thresholds} (h : t.check = .ok final) :
    final = t ∧ 1 ≤ t.low ∧ t.low ≤ t.medium ∧ t.medium ≤ t.high := by
  unfold Thresholds.check at h
  split at h
  · cases h
  split at h
  case isTrue hlow horder =>
    cases h
    rw [Bool.and_eq_true, decide_eq_true_eq, decide_eq_true_eq] at horder
    exact ⟨rfl, by omega, horder⟩
  case isFalse => cases h

theorem valid_of_checkWith {s final : Settings} {t : Thresholds} (h : s.checkWith t = .ok final) :
    final.Valid := by
  unfold checkWith at h
  split at h
  · cases h
  case h_2 thresholds hthresholds =>
    obtain ⟨rfl, hlow, hmedium, hhigh⟩ := of_check_thresholds_eq_ok hthresholds
    obtain ⟨rfl, hsize, htimeout, hconcurrency⟩ := of_check_eq_ok h
    exact ⟨hsize, htimeout, hconcurrency, hlow, hmedium, hhigh⟩

theorem isBadValue_of_checkWith {s : Settings} {t : Thresholds} (h : s.checkWith t = .error e) :
    e.isBadValue = true := by
  unfold checkWith at h
  split at h
  · cases h; rfl
  · exact isBadValue_of_check h

theorem misfit_of_member {default : Json} (h : options.member name default = .error e) :
    Misfit options e := by
  obtain ⟨htype, rfl⟩ := Json.member_eq_error_iff.mp h
  exact .options htype

theorem misfit_of_filled {empty : Json} (h : filled options name empty = .error e) :
    Misfit options e := by
  rcases of_bind_eq_error h with hmember | ⟨v, -, hv⟩
  · exact misfit_of_member hmember
  · cases hv

theorem misfit_of_switch {default : Bool} (h : switch options name default = .error e) :
    Misfit options e := by
  rcases of_bind_eq_error h with hmember | ⟨v, -, hv⟩
  · exact misfit_of_member hmember
  · cases hv

/-- A limit that cannot be read: there are no members, its value is bad, or it is no integer. -/
theorem of_limit_eq_error {default : Int} (h : limit options name default = .error e) :
    e.isBadValue = true ∨ options.isObject = false ∧ e = .noMembers options.typeName ∨
      ∃ v, options.get? name = some v ∧ v.NoInteger e := by
  rcases of_bind_eq_error h with hmember | ⟨v, hmember, hv⟩
  · exact .inr (.inl (Json.member_eq_error_iff.mp hmember))
  · rw [Json.eq_getD_of_member hmember] at hv
    cases hget : options.get? name with
    | none =>
      rw [hget] at hv
      cases hv
    | some v =>
      rw [hget] at hv
      exact (Json.noInteger_of_toInteger hv).imp id fun htype => .inr ⟨v, rfl, htype⟩

theorem isObject_of_limit {default n : Int} (h : limit options name default = .ok n) :
    options.isObject = true := by
  obtain ⟨found, hmember, -⟩ := exists_of_bind_eq_ok h
  exact Json.isObject_of_member hmember

theorem not_noInteger_of_limit {default n : Int} (h : limit options name default = .ok n) {v : Json}
    (hget : options.get? name = some v) : ¬ v.NoInteger e := by
  intro htype
  obtain ⟨found, hmember, hfound⟩ := exists_of_bind_eq_ok h
  rw [Json.eq_getD_of_member hmember, hget, Option.getD_some,
    Json.toInteger_eq_error_of_noInteger htype] at hfound
  cases hfound

theorem isObject_of_filled {empty v : Json} (h : filled options name empty = .ok v) :
    options.isObject = true := by
  obtain ⟨found, hmember, -⟩ := exists_of_bind_eq_ok h
  exact Json.isObject_of_member hmember

theorem eq_of_filled {empty found v : Json} (h : filled options name empty = .ok found)
    (hget : options.get? name = some v) (hset : v.isSet = true) : found = v := by
  obtain ⟨value, hmember, hvalue⟩ := exists_of_bind_eq_ok h
  rw [Json.eq_getD_of_member hmember, hget, Option.getD_some, if_pos hset] at hvalue
  exact (Except.ok.inj hvalue).symm

/-- What takes the place of an empty value, or the value. -/
theorem eq_or_get?_of_filled {empty found : Json} (h : filled options name empty = .ok found) :
    found = empty ∨ options.get? name = some found ∧ found.isSet = true := by
  obtain ⟨value, hmember, hvalue⟩ := exists_of_bind_eq_ok h
  cases hget : options.get? name with
  | none =>
    rw [Json.eq_getD_of_member hmember, hget] at hvalue
    exact .inl (Except.ok.inj hvalue).symm
  | some v =>
    rw [Json.eq_getD_of_member hmember, hget, Option.getD_some] at hvalue
    by_cases hset : v.isSet = true
    · rw [if_pos hset] at hvalue
      cases hvalue
      exact .inr ⟨rfl, hset⟩
    · rw [if_neg hset] at hvalue
      exact .inl (Except.ok.inj hvalue).symm

/-! ### All options -/

theorem misfit_of_limit {default : Int} (hname : name ∈ limitNames)
    (h : limit options name default = .error e) : e.isBadValue = true ∨ Misfit options e := by
  rcases of_limit_eq_error h with hbad | ⟨htype, rfl⟩ | ⟨v, hget, htype⟩
  · exact .inl hbad
  · exact .inr (.options htype)
  · exact .inr (.limit hname hget htype)

theorem misfit_of_bound {default : Int}
    (hbounds : filled options "thresholds" (.obj []) = .ok bounds) (hname : name ∈ boundNames)
    (h : limit bounds name default = .error e) : e.isBadValue = true ∨ Misfit options e := by
  rcases eq_or_get?_of_filled hbounds with rfl | ⟨houter, hset⟩
  · cases h
  · rcases of_limit_eq_error h with hbad | ⟨htype, rfl⟩ | ⟨v, hget, htype⟩
    · exact .inl hbad
    · exact .inr (.thresholds houter hset htype)
    · exact .inr (.bound houter hname hget htype)

theorem misfit_of_patterns {value : Json}
    (hvalue : filled options "ignorePatterns" (.arr []) = .ok value)
    (h : value.toItems = .error e) : Misfit options e := by
  obtain ⟨htype, rfl⟩ := Json.toItems_eq_error_iff.mp h
  rcases eq_or_get?_of_filled hvalue with rfl | ⟨hget, hset⟩
  · cases htype
  · exact .patterns hget hset htype

/-- Settings come only of options without a value of the wrong type, and keep their promise. -/
theorem valid_of_ofOptions {s : Settings} (h : ofOptions options = .ok s) :
    s.Valid ∧ ∀ e, ¬ Misfit options e := by
  obtain ⟨bounds, hbounds, h⟩ := exists_of_bind_eq_ok h
  obtain ⟨includeTests, -, h⟩ := exists_of_bind_eq_ok h
  obtain ⟨includeNodeModules, -, h⟩ := exists_of_bind_eq_ok h
  obtain ⟨maxFileSize, hsize, h⟩ := exists_of_bind_eq_ok h
  obtain ⟨timeout, htimeout, h⟩ := exists_of_bind_eq_ok h
  obtain ⟨maxConcurrency, hconcurrency, h⟩ := exists_of_bind_eq_ok h
  obtain ⟨value, hvalue, h⟩ := exists_of_bind_eq_ok h
  obtain ⟨ignorePatterns, hitems, h⟩ := exists_of_bind_eq_ok h
  obtain ⟨useGitignore, -, h⟩ := exists_of_bind_eq_ok h
  obtain ⟨cases, -, h⟩ := exists_of_bind_eq_ok h
  obtain ⟨logical, -, h⟩ := exists_of_bind_eq_ok h
  obtain ⟨ternary, -, h⟩ := exists_of_bind_eq_ok h
  obtain ⟨low, hlow, h⟩ := exists_of_bind_eq_ok h
  obtain ⟨medium, hmedium, h⟩ := exists_of_bind_eq_ok h
  obtain ⟨high, hhigh, h⟩ := exists_of_bind_eq_ok h
  refine ⟨valid_of_checkWith h, fun e misfit => ?_⟩
  cases misfit with
  | options type =>
    rw [isObject_of_filled hbounds] at type
    cases type
  | thresholds member set type =>
    obtain rfl := eq_of_filled hbounds member set
    rw [isObject_of_limit hlow] at type
    cases type
  | limit known member type =>
    simp only [limitNames, List.mem_cons, List.not_mem_nil, or_false] at known
    rcases known with rfl | rfl | rfl
    · exact not_noInteger_of_limit hsize member type
    · exact not_noInteger_of_limit htimeout member type
    · exact not_noInteger_of_limit hconcurrency member type
  | bound outer known member type =>
    -- an object with a member is not empty, so that no default takes its place
    obtain rfl := eq_of_filled hbounds outer (Json.isSet_of_get? member)
    simp only [boundNames, List.mem_cons, List.not_mem_nil, or_false] at known
    rcases known with rfl | rfl | rfl
    · exact not_noInteger_of_limit hlow member type
    · exact not_noInteger_of_limit hmedium member type
    · exact not_noInteger_of_limit hhigh member type
  | patterns member set type =>
    obtain rfl := eq_of_filled hvalue member set
    rw [Json.toItems_eq_error_iff.mpr ⟨type, rfl⟩] at hitems
    cases hitems

/-- The error of options is about a bad value or about a value of the wrong type in them. -/
theorem misfit_of_ofOptions (h : ofOptions options = .error e) :
    e.isBadValue = true ∨ Misfit options e := by
  rcases of_bind_eq_error h with h | ⟨bounds, hbounds, h⟩
  · exact .inr (misfit_of_filled h)
  rcases of_bind_eq_error h with h | ⟨includeTests, -, h⟩
  · exact .inr (misfit_of_switch h)
  rcases of_bind_eq_error h with h | ⟨includeNodeModules, -, h⟩
  · exact .inr (misfit_of_switch h)
  rcases of_bind_eq_error h with h | ⟨maxFileSize, -, h⟩
  · exact misfit_of_limit (by decide) h
  rcases of_bind_eq_error h with h | ⟨timeout, -, h⟩
  · exact misfit_of_limit (by decide) h
  rcases of_bind_eq_error h with h | ⟨maxConcurrency, -, h⟩
  · exact misfit_of_limit (by decide) h
  rcases of_bind_eq_error h with h | ⟨value, hvalue, h⟩
  · exact .inr (misfit_of_filled h)
  rcases of_bind_eq_error h with h | ⟨ignorePatterns, -, h⟩
  · exact .inr (misfit_of_patterns hvalue h)
  rcases of_bind_eq_error h with h | ⟨useGitignore, -, h⟩
  · exact .inr (misfit_of_switch h)
  rcases of_bind_eq_error h with h | ⟨cases, -, h⟩
  · exact .inr (misfit_of_switch h)
  rcases of_bind_eq_error h with h | ⟨logical, -, h⟩
  · exact .inr (misfit_of_switch h)
  rcases of_bind_eq_error h with h | ⟨ternary, -, h⟩
  · exact .inr (misfit_of_switch h)
  rcases of_bind_eq_error h with h | ⟨low, -, h⟩
  · exact misfit_of_bound hbounds (by decide) h
  rcases of_bind_eq_error h with h | ⟨medium, -, h⟩
  · exact misfit_of_bound hbounds (by decide) h
  rcases of_bind_eq_error h with h | ⟨high, -, h⟩
  · exact misfit_of_bound hbounds (by decide) h
  exact .inl (isBadValue_of_checkWith h)

/-! ### Command lines -/

/-- A command line that names a file, and the options in that file. -/
structure Names (arguments : List String) (v : Volume) (options : Json) : Prop where
  exists_config : ∃ request path, Request.parse arguments = .ok request ∧
    request.config = some path ∧ path ≠ "" ∧ v.readOptions path = .ok options

/-- What a command line answers that names options with an error. -/
theorem Names.runCommand_eq {arguments : List String} {v : Volume}
    (names : Names arguments v options)
    (h : ofOptions options = .error e) (basis : CommandBasis) (env : Environment) :
    runCommand basis arguments env v =
      if e.isBadValue then .ok (.usage (.configuration e.message)) else .error (.settings e) := by
  obtain ⟨request, path, hparse, hconfig, hpath, hread⟩ := names.exists_config
  have hbase : request.baseSettings env v = .error (.ofSettings e) := by
    unfold Request.baseSettings
    rw [hconfig, Option.getD_some]
    split
    · contradiction
    · rw [hread]
      simp only [h, Except.mapError]
  have hsettings : request.settings env v = .error (.ofSettings e) := by
    rw [Request.settings, hbase]
    rfl
  unfold runCommand
  simp only [hparse, hsettings, RequestError.ofSettings]
  cases e.isBadValue <;> rfl

/-- Options that are refused for a bad value are reported as a bad configuration, and settings that
come of options keep their promise. What is not reported is exactly a value of the wrong type:
options with one are always refused, and without one they never end a command line in an error. -/
theorem options_reported (options : Json) :
    (∀ s, ofOptions options = .ok s → s.Valid) ∧
    (∀ e, ofOptions options = .error e → (e.isBadValue = true ↔ ¬ Misfit options e)) ∧
    (∀ e, Misfit options e → ∃ e', ofOptions options = .error e') ∧
    ∀ basis arguments v env e, Names arguments v options → ofOptions options = .error e →
      (¬ Misfit options e →
        runCommand basis arguments env v = .ok (.usage (.configuration e.message))) ∧
      (Misfit options e → runCommand basis arguments env v = .error (.settings e)) := by
  have hreported {e} (h : ofOptions options = .error e) :
      e.isBadValue = true ↔ ¬ Misfit options e := by
    refine ⟨fun hbad misfit => ?_, fun hnot => (misfit_of_ofOptions h).resolve_right hnot⟩
    rw [misfit.isBadValue_eq] at hbad
    cases hbad
  refine ⟨fun s h => (valid_of_ofOptions h).1, fun e => hreported, fun e misfit => ?_,
    fun basis arguments v env e names h => ⟨fun hnot => ?_, fun misfit => ?_⟩⟩
  · cases h : ofOptions options with
    | ok s => exact absurd misfit ((valid_of_ofOptions h).2 e)
    | error e' => exact ⟨e', rfl⟩
  · rw [names.runCommand_eq h basis env, if_pos ((hreported h).mpr hnot)]
  · rw [names.runCommand_eq h basis env, misfit.isBadValue_eq]
    rfl

/-- A directory in which the file `c` has some content. -/
def optionsVolume (content : List UInt8) : Volume where
  top := .directory [("c", .file content)]

theorem names_optionsVolume {content : List UInt8}
    (h : (optionsVolume content).readOptions "c" = .ok options) :
    Names ["--config", "c", "."] (optionsVolume content) options where
  exists_config := ⟨_, "c", rfl, rfl, by decide, h⟩

/-- `{"timeout":""}` is reported. -/
theorem options_reported_empty_limit :
    runCommand .standard ["--config", "c", "."] {}
        (optionsVolume [123, 34, 116, 105, 109, 101, 111, 117, 116, 34, 58, 34, 34, 125]) =
      .ok (.usage (.configuration (SettingsError.malformedInteger "").message)) := by
  have hread : (optionsVolume [123, 34, 116, 105, 109, 101, 111, 117, 116, 34, 58, 34, 34,
      125]).readOptions "c" = .ok (.obj [("timeout", .str "")]) := by cbv
  obtain ⟨-, hkind, -, hanswer⟩ := options_reported (.obj [("timeout", .str "")])
  exact (hanswer _ _ _ _ _ (names_optionsVolume hread) rfl).1 ((hkind _ rfl).mp rfl)

/-- Options that are not reported: a list in place of options, a number in place of thresholds, a
limit that is null, an infinite one, and a number in place of patterns. A command line ends in such
an error. -/
theorem wrong_types_escape :
    ofOptions (.arr []) = .error (.noMembers "list") ∧
    ofOptions (.obj [("thresholds", .int 5)]) = .error (.noMembers "int") ∧
    ofOptions (.obj [("maxFileSize", .null)]) = .error (.noInteger "NoneType") ∧
    ofOptions (.obj [("timeout", .real (.infinite false))]) = .error .infiniteNumber ∧
    ofOptions (.obj [("ignorePatterns", .int 5)]) = .error (.noItems "int") ∧
    (∀ e ∈ [SettingsError.noMembers "list", .noMembers "int", .noInteger "NoneType",
      .infiniteNumber, .noItems "int"], e.isBadValue = false) ∧
    ∀ basis env, runCommand basis ["--config", "c", "."] env (optionsVolume [91, 93]) =
      .error (.settings (.noMembers "list")) := by
  refine ⟨rfl, rfl, rfl, rfl, rfl, by decide, fun basis env => ?_⟩
  have hread : (optionsVolume [91, 93]).readOptions "c" = .ok (.arr []) := by cbv
  exact (names_optionsVolume hread).runCommand_eq rfl basis env

end Settings

end SourceMetrics
