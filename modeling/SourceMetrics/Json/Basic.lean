import SourceMetrics.Number.Decimal
import SourceMetrics.Text.Quoted

/-!
# JSON values and their text

Options are read from JSON and reports are written as JSON. Objects keep the order of their members,
which is the order in which a report is written. Integers are exact; numbers with a fraction or an
exponent are binary numbers.

A value is written on one line, or with each member on a line of its own, two spaces deeper than its
container. Text is plain ASCII: every other character is written by its UTF-16 code units.

## Main definitions

* `Json` — the values
* `Json.get?` — a member of an object
* `Json.compact`, `Json.pretty` — the two layouts
-/

namespace SourceMetrics

/-- A JSON value. -/
inductive Json where
  | null
  | bool (value : Bool)
  | int (value : Int)
  | real (value : Number.Signed)
  | str (value : String)
  | arr (items : List Json)
  | obj (members : List (String × Json))
  deriving Repr

namespace Json

/-- A natural number as a value. -/
def nat (n : Nat) : Json := int n

/-- A binary number as a value. -/
def binary (x : Number.Binary) : Json := real (.ofBinary x)

/-- A text, or nothing. -/
def optionalText : Option String → Json
  | some s => str s
  | none => null

/-- A list of texts. -/
def texts (items : List String) : Json := arr (items.map str)

/-- The members of an object; no other value has any. -/
def members : Json → List (String × Json)
  | obj fields => fields
  | _ => []

/-- The member of an object under a name. -/
def get? (j : Json) (name : String) : Option Json := j.members.lookup name

/-! ### Strings -/

/-- A UTF-16 code unit as an escape. -/
def unitEscape (n : Nat) : List Char := '\\' :: 'u' :: Text.hexDigits 4 n

/-- The form of a character between double quotes. -/
def stringChar (c : Char) : List Char :=
  if c = '"' then ['\\', '"']
  else if c = '\\' then ['\\', '\\']
  else if c = '\n' then ['\\', 'n']
  else if c = '\r' then ['\\', 'r']
  else if c = '\t' then ['\\', 't']
  else if c = '\x08' then ['\\', 'b']
  else if c = '\x0c' then ['\\', 'f']
  else if ' ' ≤ c && c ≤ '~' then [c]
  else if c.toNat < 0x10000 then unitEscape c.toNat
  else
    let n := c.toNat - 0x10000
    unitEscape (0xD800 + n / 0x400) ++ unitEscape (0xDC00 + n % 0x400)

/-- A string between double quotes. -/
def stringText (s : String) : String :=
  String.ofList ('"' :: (s.toList.flatMap stringChar ++ ['"']))

/-! ### Layout -/

/-- Where the members of a container go: all on one line, or each on its own, `depth` levels in. -/
inductive Layout where
  | inline
  | lines (depth : Nat)

/-- The layout of what stands inside a container. -/
def Layout.inner : Layout → Layout
  | inline => inline
  | lines depth => lines (depth + 1)

/-- What goes before a member of a container, or before its closing bracket. -/
def Layout.gap : Layout → String
  | inline => ""
  | lines depth => String.ofList ('\n' :: List.replicate (2 * depth) ' ')

mutual

/-- The text of a value in a given layout. -/
def text (layout : Layout) : Json → String
  | null => "null"
  | bool b => if b then "true" else "false"
  | int n => toString n
  | real x => x.shortest
  | str s => stringText s
  | arr [] => "[]"
  | arr (item :: rest) =>
    "[" ++ layout.inner.gap ++ text layout.inner item ++ textItems layout rest ++ layout.gap ++ "]"
  | obj [] => "\x7b\x7d"
  | obj ((name, value) :: rest) =>
    "\x7b" ++ layout.inner.gap ++ stringText name ++ ": " ++ text layout.inner value ++
      textMembers layout rest ++ layout.gap ++ "\x7d"

/-- The text of the remaining items of an array, each after a comma. -/
def textItems (layout : Layout) : List Json → String
  | [] => ""
  | item :: rest => "," ++ layout.inner.gap ++ text layout.inner item ++ textItems layout rest

/-- The text of the remaining members of an object, each after a comma. -/
def textMembers (layout : Layout) : List (String × Json) → String
  | [] => ""
  | (name, value) :: rest =>
    "," ++ layout.inner.gap ++ stringText name ++ ": " ++ text layout.inner value ++
      textMembers layout rest

end

/-- The value on one line. -/
def compact (j : Json) : String := j.text .inline

/-- The value with each member on a line of its own. -/
def pretty (j : Json) : String := j.text (.lines 0)

end Json

end SourceMetrics
