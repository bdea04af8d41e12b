import SourceMetrics.Json.Basic
import SourceMetrics.Path
import SourceMetrics.Scanner
import SourceMetrics.Table
import SourceMetrics.Text.LowerCase

/-!
# Registries of scanners

A registry knows scanners by language, and languages by aliases and file extensions. Names are
compared in lower case and extensions begin with a dot. Aliases and extensions point to a language,
so that a scanner that takes over a language keeps nothing of the mappings of the scanner before it.

## Main definitions

* `Registry` — the three tables
* `Registry.resolve` — the language that a name stands for
* `Registry.get?`, `byExtension?`, `byPath?` — scanners
* `Registry.unregister`, `Registry.put` — how a registry changes
-/

namespace SourceMetrics

/-- A registered scanner. -/
structure Registration where
  scanner : Scanner
  /-- What the one who registered it tells about it. -/
  metadata : List (String × Json) := []

/-- Scanners by language, with the names and extensions that lead to the languages. -/
structure Registry where
  scanners : Table Registration := {}
  aliases : Table String := {}
  extensions : Table String := {}

namespace Registry

/-- The form of an extension: trimmed, in lower case, with a dot in front. -/
def normalExtension (extension : String) : String :=
  let text := Text.lower (Text.trimString extension)
  if text = "" || text.startsWith "." then text else "." ++ text

/-! ### Changes -/

/-- The registry without the aliases and extensions of a language. -/
def dropMappings (r : Registry) (language : String) : Registry :=
  { r with
    aliases := r.aliases.retain fun _ target => target != language
    extensions := r.extensions.retain fun _ target => target != language }

/-- The registry with a scanner for a language, in place of the scanner there was. -/
def put (r : Registry) (language : String) (registration : Registration)
    (extensions aliases : List String) : Registry :=
  let id := Text.lower language
  let cleared := if r.scanners.contains id then r.dropMappings id else r
  { scanners := cleared.scanners.insert id registration
    aliases := aliases.foldl (fun t name => t.insert (Text.lower name) id) cleared.aliases
    extensions := extensions.foldl (fun t name => t.insert (normalExtension name) id)
      cleared.extensions }

/-! ### Queries -/

/-- The language that an identifier or an alias stands for. -/
def resolve (r : Registry) (name : String) : Option String :=
  let key := Text.lower name
  if r.scanners.contains key then some key else r.aliases.get? key

/-- The scanner of a language; the language without a name has none. -/
def scannerOf? (r : Registry) (language : Option String) : Option Scanner :=
  match language with
  | none => none
  | some id => if id = "" then none else (r.scanners.get? id).map (·.scanner)

/-- The scanner of a language or alias. -/
def get? (r : Registry) (name : String) : Option Scanner := r.scannerOf? (r.resolve name)

/-- Whether a language or alias is known. -/
def supports (r : Registry) (name : String) : Bool := (r.resolve name).isSome

/-- The language of an extension. -/
def languageFor? (r : Registry) (extension : String) : Option String :=
  r.extensions.get? (normalExtension extension)

/-- The scanner of an extension. -/
def byExtension? (r : Registry) (extension : String) : Option Scanner :=
  r.scannerOf? (r.languageFor? extension)

/-- The scanner of the extension of a path. -/
def byPath? (r : Registry) (path : String) : Option Scanner :=
  let suffix := Path.suffix path
  if suffix = "" then none else r.byExtension? suffix

/-- The languages in the order of their registration. -/
def languages (r : Registry) : List String := r.scanners.keys

/-- Texts in ascending order. -/
def sorted (names : List String) : List String := names.mergeSort fun a b => decide (a ≤ b)

/-- The extensions in ascending order. -/
def extensionList (r : Registry) : List String := sorted r.extensions.keys

/-- The registry without a language or the language of an alias, if it is known. -/
def unregister (r : Registry) (name : String) : Option Registry :=
  match r.resolve name with
  | none => none
  | some id => some ({ r with scanners := r.scanners.erase id }.dropMappings id)

/-- The names that a table leads to a language. -/
def namesOf (t : Table String) (language : String) : List String :=
  sorted (t.retain fun _ target => target == language).keys

/-- What is known about a language. -/
def info (r : Registry) (name : String) : Json :=
  match r.resolve name with
  | none => .null
  | some id =>
    match r.scanners.get? id with
    | none => .null
    | some registration =>
      .obj
        [("language", .str id), ("scanner", .str registration.scanner.name),
         ("extensions", .texts (namesOf r.extensions id)),
         ("aliases", .texts (namesOf r.aliases id)), ("metadata", .obj registration.metadata)]

/-- The sizes of the tables. -/
def stats (r : Registry) : Json :=
  .obj
    [("languages", .nat r.scanners.size), ("extensions", .nat r.extensions.size),
     ("aliases", .nat r.aliases.size)]

end Registry

end SourceMetrics
