import SourceMetrics.Registry.Basic
import SourceMetrics.Text.Quoted

/-!
# Registration of scanners

What is offered to a registry may turn out not to be a scanner, or to be an unfinished one. A
registry takes finished scanners only. It can also be told where a scanner is to be found: a catalog
holds modules, and a reference names a module and one of its members.

A request may be refused at some point. What has been done to the registry until then stays, so an
answer comes with the registry as it is, whether the request was refused or not.

## Main definitions

* `Candidate`, `Candidate.check` — what is offered, and whether it is a finished scanner
* `Registry.register` — registration of a candidate
* `Catalog`, `Registry.registerReference`, `Registry.loadPlugins` — registration by name
-/

namespace SourceMetrics

/-- What is offered to a registry. -/
inductive Candidate.Content where
  | scanner (scanner : Scanner)
  /-- A scanner that lacks operations. -/
  | unfinished (name language : String) (missing : List String)
  | other

/-- Something offered to a registry, with the text that messages show for it. -/
structure Candidate where
  display : String
  content : Candidate.Content

/-- The language that a candidate declares. -/
def Candidate.language? (c : Candidate) : Option String :=
  match c.content with
  | .scanner s => some s.language
  | .unfinished _ language _ => some language
  | .other => none

/-- The extensions that a candidate declares. -/
def Candidate.extensions (c : Candidate) : List String :=
  match c.content with
  | .scanner s => s.extensions
  | _ => []

/-- The aliases that a candidate declares. -/
def Candidate.aliases (c : Candidate) : List String :=
  match c.content with
  | .scanner s => s.aliases
  | _ => []

/-- Why a member of a module was not found. -/
inductive LoadError where
  | noModule (name : String)
  /-- The module inside which `name` was looked for holds no modules. -/
  | noPackage (name parent : String)
  | noMember (name member : String)
  deriving DecidableEq, Repr

/-- The message of a failure to find a member. -/
def LoadError.message : LoadError → String
  | noModule name => s!"No module named {Text.quoted name}"
  | noPackage name parent =>
    s!"No module named {Text.quoted name}; {Text.quoted parent} is not a package"
  | noMember name member =>
    s!"module {Text.quoted name} has no attribute {Text.quoted member}"

/-- Why a registry refuses a request. -/
inductive RegistryError where
  | notScanner (display : String)
  | unfinished (name : String) (missing : List String)
  | noLanguage (display : String)
  | invalidReference (reference : String)
  | notLoaded (reference : String) (cause : LoadError)
  /-- The reference names a module relative to nothing. -/
  | relativeModule (name : String)
  deriving DecidableEq, Repr

/-- The message of a refusal. -/
def RegistryError.message : RegistryError → String
  | notScanner display => s!"{display} is not a StructuralScanner subclass"
  | unfinished name missing =>
    name ++ " does not implement: " ++ ", ".intercalate (Registry.sorted missing)
  | noLanguage display => s!"{display} does not declare a language"
  | invalidReference reference => s!"Invalid scanner reference: {Text.quoted reference}"
  | notLoaded reference cause =>
    s!"Cannot load scanner {Text.quoted reference}: {cause.message}"
  | relativeModule name =>
    "the 'package' argument is required to perform a relative import for " ++ Text.quoted name

/-! ### Catalogs -/

/-- A module: whether it holds further modules, and its members. -/
structure Module where
  package : Bool := false
  members : Table Candidate := {}

/-- The modules that can be found, by their full names. -/
abbrev Catalog := Table Module

namespace Catalog

/-- Looks for the module `parent` extended by `parts`, from the outermost module inwards. -/
def findFrom (catalog : Catalog) (parent : String) (inside : Module) :
    List String → Except LoadError Module
  | [] => .ok inside
  | part :: rest =>
    let name := parent ++ "." ++ part
    if inside.package then
      match catalog.get? name with
      | none => .error (.noModule name)
      | some found => findFrom catalog name found rest
    else .error (.noPackage name parent)

/-- The module of a name. -/
def find (catalog : Catalog) (name : String) : Except LoadError Module :=
  match (Text.splitOn '.' name.toList).map String.ofList with
  | [] => .error (.noModule name)
  | first :: rest =>
    match catalog.get? first with
    | none => .error (.noModule first)
    | some found => findFrom catalog first found rest

/-- The member of a module. -/
def memberOf (catalog : Catalog) (name member : String) : Except LoadError Candidate := do
  let found ← catalog.find name
  match found.members.get? member with
  | none => .error (.noMember name member)
  | some candidate => .ok candidate

end Catalog

/-- The module and the member that a reference names: around its first colon, or around its last
dot if it has no colon. -/
def splitReference (reference : String) : String × String :=
  let cs := reference.toList
  if cs.contains ':' then
    (String.ofList (cs.takeWhile (· != ':')), String.ofList ((cs.dropWhile (· != ':')).drop 1))
  else
    let tail := cs.reverse.takeWhile (· != '.')
    let front := (cs.reverse.dropWhile (· != '.')).drop 1
    (String.ofList front.reverse, String.ofList tail.reverse)

/-- A scanner that a plugin advertises under the name of a language. -/
structure Plugin where
  language : String
  /-- Where the scanner is: a module and a member, divided by a colon. -/
  value : String

namespace Plugin

/-- Whether a character may stand in the name of a module or a member. -/
def isNameChar (c : Char) : Bool := c == '.' || Text.isWord c

/-- The text behind the name that begins a text and the blanks that follow it. -/
def afterName (cs : List Char) : List Char := Text.trimStart (cs.dropWhile isNameChar)

/-- Whether nothing is left but remarks in brackets. -/
def endsPlainly (cs : List Char) : Bool :=
  match Text.trimEnd cs with
  | [] => true
  | c :: rest => c == '[' && rest.getLast? == some ']' && !rest.contains '\n'

/-- The module and the member of a plugin, if its value has the right form. -/
def target? (p : Plugin) : Option (String × String) :=
  let cs := p.value.toList
  let home := cs.takeWhile isNameChar
  match afterName cs with
  | ':' :: rest =>
    let front := Text.trimStart rest
    let member := front.takeWhile isNameChar
    if home.isEmpty || member.isEmpty || !endsPlainly (afterName front) then none
    else some (String.ofList home, String.ofList member)
  | _ => none

end Plugin

/-- The scanner that a candidate is, if it is a finished one. -/
def Candidate.check (c : Candidate) : Except RegistryError Scanner :=
  match c.content with
  | .other => .error (.notScanner c.display)
  | .unfinished name _ missing => .error (.unfinished name missing)
  | .scanner s => .ok s

namespace Registry

/-- Registers a candidate for a language. It is checked before anything changes. -/
def register (r : Registry) (language : String) (candidate : Candidate)
    (extensions aliases : List String) (metadata : List (String × Json)) :
    Except RegistryError Unit × Registry :=
  match candidate.check with
  | .error e => (.error e, r)
  | .ok s => (.ok (), r.put language ⟨s, metadata⟩ extensions aliases)

/-- The language of scanners that declare none. -/
def undeclared : String := "unknown"

/-- Registers a candidate for the given language, or for the one it declares if none is given, and
tells the language. Extensions and aliases that are not given are those it declares. -/
def registerDeclared (r : Registry) (candidate : Candidate) (language : Option String)
    (extensions aliases : Option (List String)) (metadata : List (String × Json)) :
    Except RegistryError String × Registry :=
  let given := language.getD ""
  let id := if given = "" then candidate.language?.getD "" else given
  if id = "" || id = undeclared then (.error (.noLanguage candidate.display), r)
  else
    let done := r.register id candidate (extensions.getD candidate.extensions)
      (aliases.getD candidate.aliases) metadata
    (done.1.map fun _ => Text.lower id, done.2)

/-- Registers the scanner that a reference names. -/
def registerReference (r : Registry) (catalog : Catalog) (reference : String)
    (language : Option String) (extensions aliases : Option (List String))
    (metadata : List (String × Json)) : Except RegistryError String × Registry :=
  let target := splitReference reference
  if target.1 = "" || target.2 = "" then (.error (.invalidReference reference), r)
  else if target.1.startsWith "." then (.error (.relativeModule target.1), r)
  else
    match catalog.memberOf target.1 target.2 with
    | .error cause => (.error (.notLoaded reference cause), r)
    | .ok candidate => r.registerDeclared candidate language extensions aliases metadata

/-- Registers the scanner of a plugin, and tells its language if there is one and it is
acceptable. -/
def loadPlugin (r : Registry) (catalog : Catalog) (plugin : Plugin) : Option String × Registry :=
  let found := plugin.target?.bind fun target => (catalog.memberOf target.1 target.2).toOption
  match found with
  | none => (none, r)
  | some candidate =>
    let done := r.registerDeclared candidate (some plugin.language) none none
      [("entry_point", .str plugin.value)]
    (done.1.toOption, done.2)

/-- Registers the scanners of all plugins, leaving out those that fail, and tells their
languages. -/
def loadPlugins (r : Registry) (catalog : Catalog) : List Plugin → List String × Registry
  | [] => ([], r)
  | plugin :: rest =>
    let done := r.loadPlugin catalog plugin
    let (loaded, last) := loadPlugins done.2 catalog rest
    (done.1.toList ++ loaded, last)

end Registry

end SourceMetrics
