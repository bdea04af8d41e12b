import SourceMetrics.Detection.Profile
import SourceMetrics.Number.Decimal
import SourceMetrics.Number.Total
import SourceMetrics.Path
import SourceMetrics.Pattern.Reader
import SourceMetrics.Table
import SourceMetrics.Text.LowerCase

/-!
# Detection of languages

A detector holds profiles in the order of their registration, and the patterns of their interpreters
in a table of their own. It tries the extension of a path, then its media types, then the content:
the interpreter that the first line names and at last the words of each language. The stages come
with falling confidence; for words it grows with their share among the words of all languages.

Which media types a path suggests and what the text of a pattern means is settled elsewhere. A
detector works with any answers to these questions. The second may be that the text means nothing;
then the registration of a profile fails, but not before the profile was stored.

## Main definitions

* `Detector.Basis` — what is settled elsewhere
* `Detector`, `Detector.register`, `Detector.unregister` — the profiles
* `Detector.ofProfiles`, `Detector.standard` — new detectors
* `Detection` — a language, and how it was recognised
* `Detector.detect` — the language of a file
-/

namespace SourceMetrics

/-- How a language was recognised. -/
inductive DetectionMethod where
  | extension
  | mimeType
  | shebang
  | keywords
  deriving DecidableEq, Repr

/-- The name of a method. -/
def DetectionMethod.label : DetectionMethod → String
  | extension => "extension"
  | mimeType => "mime_type"
  | shebang => "shebang"
  | keywords => "keywords"

/-- A recognised language. -/
structure Detection where
  language : String
  confidence : Number.Binary
  method : DetectionMethod
  deriving DecidableEq, Repr

/-- A one-line description. -/
def Detection.description (d : Detection) : String :=
  s!"LanguageDetectionResult(language='{d.language}', confidence={d.confidence.fixed 2}, " ++
    s!"method={d.method.label})"

/-- What detection relies on and does not settle itself. -/
structure Detector.Basis where
  /-- The media types that a path suggests, the likeliest first. -/
  mediaTypes : String → List String
  /-- The lines in which the pattern of a text is found, or what is wrong with the text. -/
  compile : String → Except String (List Char → Bool)

/-- Profiles in the order of their registration, and the patterns for the interpreters of those
languages that have one. -/
structure Detector where
  basis : Detector.Basis
  profiles : Table Profile := {}
  interpreters : Table (List Char → Bool) := {}

namespace Detector

/-- Registers a profile. One that replaces another takes its place in the order, and the pattern
goes even if the new profile has none. A pattern that cannot be read is the answer; the profile is
stored by then, and the pattern that was there before stays. -/
def register (d : Detector) (p : Profile) : Except String Unit × Detector :=
  let stored := { d with profiles := d.profiles.insert p.name p }
  match p.pattern? with
  | none => (.ok (), { stored with interpreters := stored.interpreters.erase p.name })
  | some text =>
    match d.basis.compile text with
    | .ok pattern =>
      (.ok (), { stored with interpreters := stored.interpreters.insert p.name pattern })
    | .error complaint => (.error complaint, stored)

/-- Removes the profile of a language, if there is one. -/
def unregister (d : Detector) (language : String) : Option Detector :=
  if d.profiles.contains language then
    some { d with
      profiles := d.profiles.erase language, interpreters := d.interpreters.erase language }
  else none

/-- The detector with one more profile, unless its pattern cannot be read. -/
def extended (d : Detector) (p : Profile) : Except String Detector :=
  match d.register p with
  | (.ok (), next) => .ok next
  | (.error complaint, _) => .error complaint

/-- A new detector with the given profiles. There is none if a pattern cannot be read. -/
def ofProfiles (basis : Basis) (profiles : List Profile) : Except String Detector :=
  profiles.foldlM extended { basis }

/-- Patterns are read by `Pattern.compile`. -/
def Basis.standard (mediaTypes : String → List String) : Basis := ⟨mediaTypes, Pattern.compile⟩

/-- All patterns of the profiles that are known from the start can be read. -/
theorem isSome_ofProfiles_standard (mediaTypes : String → List String) :
    (ofProfiles (.standard mediaTypes) Profile.standard).toOption.isSome = true :=
  rfl

/-- The detector with the profiles that are known from the start. -/
def standard (mediaTypes : String → List String) : Detector :=
  (ofProfiles (.standard mediaTypes) Profile.standard).toOption.get
    (isSome_ofProfiles_standard mediaTypes)

/-- The profiles in their order. -/
def list (d : Detector) : List Profile := d.profiles.entries.map Prod.snd

/-- The first profile with a property, as a detection. -/
def first? (d : Detector) (p : Profile → Bool) (confidence : Number.Binary)
    (method : DetectionMethod) : Option Detection :=
  (d.list.find? p).map fun profile => ⟨profile.name, confidence, method⟩

/-! ### Stages -/

/-- Detection by extension: as it is written, then in lower case. -/
def byExtension? (d : Detector) (path : String) : Option Detection :=
  let suffix := Path.suffix path
  if suffix = "" then none
  else
    [suffix, Text.lower suffix].findSome? fun extension =>
      d.first? (fun profile => profile.extensions.contains extension) (.ofRatio 9 10) .extension

/-- Detection by media type: the first type that some profile lists. -/
def byMediaType? (d : Detector) (types : List String) : Option Detection :=
  types.findSome? fun type =>
    d.first? (fun profile => profile.mimeTypes.contains type) (.ofRatio 8 10) .mimeType

/-- Detection by the interpreter that a line names; the order is that of the profiles. -/
def byInterpreter? (d : Detector) (line : List Char) : Option Detection :=
  let named := d.profiles.keys.find? fun language =>
    (d.interpreters.get? language).any fun pattern => pattern line
  named.map fun language => ⟨language, .ofRatio 85 100, .shebang⟩

/-- How often the words of each language occur; languages without words are left out. -/
def wordCounts (d : Detector) (content : String) : List (String × Nat) :=
  let text := (Text.lower content).toList
  (d.list.filter fun profile => !profile.keywords.isEmpty).map fun profile =>
    (profile.name,
      Number.total
        (profile.keywords.map fun word => Text.countOccurrences (Text.lower word).toList text))

/-- The first of the largest counts, if it is positive. -/
def largest? (counts : List (String × Nat)) : Option (String × Nat) :=
  counts.foldl (fun best count =>
    if (best.map Prod.snd).getD 0 < count.2 then some count else best) none

/-- Detection by the words of a content. -/
def byWords? (d : Detector) (content : String) : Option Detection :=
  let counts := d.wordCounts content
  match largest? counts with
  | none => none
  | some (language, count) =>
    let total := Number.total (counts.map Prod.snd)
    let weighted := (Number.Binary.ofRatio 7 10).mul (.ofNat count)
    some ⟨language, (weighted.div (.ofNat total)).roundTo 2, .keywords⟩

/-- The first line of a content, without byte-order marks in front. -/
def firstLine (content : List Char) : List Char :=
  (content.dropWhile (· == '\ufeff')).takeWhile (· != '\n')

/-- Detection by content; a blank content tells nothing. -/
def byContent? (d : Detector) (content : String) : Option Detection :=
  if Text.allBlank content.toList then none
  else
    let line := firstLine content.toList
    let named := if "#!".toList.isPrefixOf line then d.byInterpreter? line else none
    named <|> d.byWords? content

/-- The language of a file with the given media types, and with the given content if it is known. -/
def detectWith (d : Detector) (path : String) (types : List String) (content : Option String) :
    Option Detection :=
  d.byExtension? path <|> d.byMediaType? types <|> content.bind d.byContent?

/-- The language of a file. -/
def detect (d : Detector) (path : String) (content : Option String) : Option Detection :=
  d.detectWith path (d.basis.mediaTypes path) content

end Detector

end SourceMetrics
