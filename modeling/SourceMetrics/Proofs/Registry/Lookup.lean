import SourceMetrics.Proofs.Registry.History

/-!
# Lookups that agree

A registry can be asked for a scanner in several ways: by a language or an alias, by the language
that one stands for, by an extension, and by the language of an extension. In a registry that was
built by requests all ways lead to the same scanner. Extensions and aliases lead to registered
languages. A registered language stands for itself, even if another language has it as an alias. And
languages are kept in lower case, which stays as it is when it is applied again.

## Main results

* `Registry.Sound.resolve_eq_self` — a registered language stands for itself
* `Registry.Sound.bind_resolve_get?` — a name and what it stands for have the same scanner
* `Registry.Sound.get?_languageFor?` — an extension and its language have the same scanner
-/

namespace SourceMetrics

namespace Registry

variable {r : Registry}

/-- A registered language stands for itself. -/
theorem Sound.resolve_eq_self (hr : r.Sound) {id : String} (h : r.scanners.contains id = true) :
    r.resolve id = some id := by
  rw [resolve, hr.lower h, if_pos h]

theorem Sound.contains_of_languageFor? (hr : r.Sound) {extension id : String}
    (h : r.languageFor? extension = some id) : r.scanners.contains id = true := by
  have htarget : (r.pointing .extensions).get? (normalExtension extension) = some id := h
  exact hr.known htarget

/-- A name and what it stands for have the same scanner. -/
theorem Sound.bind_resolve_get? (hr : r.Sound) (name : String) :
    (r.resolve name).bind r.get? = r.get? name := by
  rw [get?]
  cases hname : r.resolve name with
  | none => rfl
  | some id => rw [Option.bind_some, get?, hr.resolve_eq_self (hr.contains_of_resolve hname)]

/-- An extension and its language have the same scanner. -/
theorem Sound.get?_languageFor? (hr : r.Sound) {extension id : String}
    (h : r.languageFor? extension = some id) : r.get? id = r.byExtension? extension := by
  rw [get?, hr.resolve_eq_self (hr.contains_of_languageFor? h), byExtension?, h]

theorem exists_languageFor?_of_byExtension? {extension : String}
    (h : (r.byExtension? extension).isSome = true) : ∃ id, r.languageFor? extension = some id := by
  rw [byExtension?] at h
  cases hlanguage : r.languageFor? extension with
  | none =>
    rw [hlanguage] at h
    cases h
  | some id => exact ⟨id, rfl⟩

end Registry

end SourceMetrics
