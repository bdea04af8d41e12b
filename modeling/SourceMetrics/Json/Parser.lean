import SourceMetrics.Json.Basic
import SourceMetrics.Text.Integer

/-!
# Reading JSON

A reader for JSON texts that reports the first fault with its place. Beyond the standard it takes
`NaN`, `Infinity` and `-Infinity` for numbers; of members of the same name in an object the last
value counts, at the place of the first.

The reader works on the rest of the text; a fault holds the length of the text that was still
unread, which `Json.parse` turns into a position. Each nested value starts after at least one
character, so the length of the text is enough fuel.

## Main definitions

* `Json.Fault`, `Json.Fault.message` — what is wrong with a text, and where
* `Json.parse` — the value of a text
-/

namespace SourceMetrics

namespace Json

/-- What can be wrong with a JSON text. -/
inductive Problem where
  | byteOrderMark
  | expectingValue
  | expectingName
  | expectingColon
  | expectingComma
  | extraData
  | unterminatedString
  | controlCharacter
  | invalidEscape
  | invalidCodeUnit
  /-- An integer with more digits than are accepted; its place is not reported. -/
  | tooManyDigits (digits : Nat)
  deriving DecidableEq, Repr

/-- A problem, with the number of characters left where it was found. -/
structure Trouble where
  problem : Problem
  left : Nat
  deriving DecidableEq, Repr

/-- Stops at the given rest of the text. -/
def fail {α : Type} (problem : Problem) (rest : List Char) : Except Trouble α :=
  .error ⟨problem, rest.length⟩

/-- The space that may stand between the parts of a value. -/
def isSpace (c : Char) : Bool := c == ' ' || c == '\t' || c == '\n' || c == '\r'

/-- The text without the space in front. -/
def skipSpace (cs : List Char) : List Char := cs.dropWhile isSpace

/-! ### Strings -/

/-- The value of a hexadecimal digit. -/
def hexValue? (c : Char) : Option Nat :=
  if '0' ≤ c && c ≤ '9' then some (c.toNat - '0'.toNat)
  else if 'a' ≤ c && c ≤ 'f' then some (c.toNat - 'a'.toNat + 10)
  else if 'A' ≤ c && c ≤ 'F' then some (c.toNat - 'A'.toNat + 10)
  else none

/-- The code unit written with four hexadecimal digits at the front of the text. -/
def codeUnit? : List Char → Option Nat
  | a :: b :: c :: d :: _ =>
    match hexValue? a, hexValue? b, hexValue? c, hexValue? d with
    | some a, some b, some c, some d => some (((a * 16 + b) * 16 + c) * 16 + d)
    | _, _, _, _ => none
  | _ => none

/-- The character of an escape with a single letter. -/
def shortEscape? (c : Char) : Option Char :=
  if c = '"' || c = '\\' || c = '/' then some c
  else if c = 'b' then some '\x08'
  else if c = 'f' then some '\x0c'
  else if c = 'n' then some '\n'
  else if c = 'r' then some '\r'
  else if c = 't' then some '\t'
  else none

/-- The code point of the escape whose four digits start here, and how many characters it takes:
four, or ten if the escape is the first half of a pair and the second half follows. -/
def escapedPoint? (cs : List Char) : Option (Nat × Nat) :=
  (codeUnit? cs).map fun unit =>
    if 0xD800 ≤ unit && unit ≤ 0xDBFF then
      match cs.drop 4 with
      | '\\' :: 'u' :: more =>
        match codeUnit? more with
        | some low =>
          if 0xDC00 ≤ low && low ≤ 0xDFFF then
            (0x10000 + (unit - 0xD800) * 0x400 + (low - 0xDC00), 10)
          else (unit, 4)
        | none => (unit, 4)
      | _ => (unit, 4)
    else (unit, 4)

/-- Reads a string after its opening quote. `skip` characters belong to an escape that has been
read; `start` is what is left of the text at the opening quote. -/
def readString (start : Nat) : Nat → List Char → Except Trouble (List Char × List Char)
  | _, [] => .error ⟨.unterminatedString, start⟩
  | skip + 1, _ :: rest => readString start skip rest
  | 0, c :: rest =>
    if c = '"' then .ok ([], rest)
    else if c = '\\' then
      match rest with
      | [] => .error ⟨.unterminatedString, start⟩
      | 'u' :: more =>
        -- Something has to follow the digits: the string is not over.
        if more.length ≤ 4 then fail .invalidCodeUnit rest
        else
          match escapedPoint? more with
          | none => fail .invalidCodeUnit rest
          | some (point, length) => do
            let (tail, left) ← readString start (length + 1) rest
            return (Char.ofNat point :: tail, left)
      | e :: _ =>
        match shortEscape? e with
        | none => fail .invalidEscape (c :: rest)
        | some d => do
          let (tail, left) ← readString start 1 rest
          return (d :: tail, left)
    else if c.toNat ≤ 0x1f then fail .controlCharacter (c :: rest)
    else do
      let (tail, left) ← readString start 0 rest
      return (c :: tail, left)

/-! ### Numbers -/

/-- A decimal digit of the ASCII range. -/
def isDigit (c : Char) : Bool := '0' ≤ c && c ≤ '9'

/-- The digits at the front of the text, and the rest. -/
def takeDigits (cs : List Char) : List Char × List Char :=
  (cs.takeWhile isDigit, cs.dropWhile isDigit)

/-- The number with the given digits. -/
def digitsValue (cs : List Char) : Nat := Text.ofDigits (cs.map fun c => c.toNat - '0'.toNat)

/-- The digits of an integer part: a single zero, or digits that do not start with one. -/
def integerPart? : List Char → Option (List Char × List Char)
  | '0' :: rest => some (['0'], rest)
  | cs => if (takeDigits cs).1.isEmpty then none else some (takeDigits cs)

/-- The digits of a fraction at the front of the text, if there is one. -/
def fractionPart : List Char → List Char × List Char
  | '.' :: rest =>
    if (takeDigits rest).1.isEmpty then ([], '.' :: rest) else takeDigits rest
  | cs => ([], cs)

/-- The exponent at the front of the text, if there is one. -/
def exponentPart (cs : List Char) : Option Int × List Char :=
  match cs with
  | e :: rest =>
    if e = 'e' || e = 'E' then
      let (negative, digits) :=
        match rest with
        | '-' :: more => (true, more)
        | '+' :: more => (false, more)
        | more => (false, more)
      let (read, left) := takeDigits digits
      if read.isEmpty then (none, cs)
      else
        let n : Int := digitsValue read
        (some (if negative then -n else n), left)
    else (none, cs)
  | [] => (none, cs)

/-- Reads a number, or one of the words that stand for one. -/
def readNumber (cs : List Char) : Except Trouble (Json × List Char) :=
  let (negative, body) :=
    match cs with
    | '-' :: rest => (true, rest)
    | rest => (false, rest)
  match integerPart? body with
  | none => fail .expectingValue cs
  | some (whole, afterWhole) =>
    let (fraction, afterFraction) := fractionPart afterWhole
    let (exponent, rest) := exponentPart afterFraction
    if fraction.isEmpty && exponent.isNone then
      if Text.maxIntegerDigits < whole.length then fail (.tooManyDigits whole.length) cs
      else
        let n : Int := digitsValue whole
        .ok (int (if negative then -n else n), rest)
    else
      let shift : Int := exponent.getD 0 - fraction.length
      .ok (real (.ofDecimal negative (digitsValue (whole ++ fraction)) shift), rest)

/-- The words for values, with the values. -/
def words : List (List Char × Json) :=
  [("null".toList, null), ("true".toList, bool true), ("false".toList, bool false),
   ("NaN".toList, real .undefined), ("Infinity".toList, real (.infinite false)),
   ("-Infinity".toList, real (.infinite true))]

/-! ### Values -/

/-- Puts a member into an object: a known name keeps its place and gets the new value. -/
def setMember (name : String) (value : Json) : List (String × Json) → List (String × Json)
  | [] => [(name, value)]
  | (n, v) :: rest => if n = name then (n, value) :: rest else (n, v) :: setMember name value rest

mutual

/-- Reads a value that starts at the front of the text. -/
def readValue : Nat → List Char → Except Trouble (Json × List Char)
  | 0, cs => fail .expectingValue cs
  | fuel + 1, cs =>
    match cs with
    | '"' :: rest => do
      let (s, left) ← readString cs.length 0 rest
      return (str (String.ofList s), left)
    | '[' :: rest =>
      match skipSpace rest with
      | ']' :: left => .ok (arr [], left)
      | items => do
        let (read, left) ← readItems fuel items
        return (arr read, left)
    | '\x7b' :: rest =>
      match skipSpace rest with
      | '\x7d' :: left => .ok (obj [], left)
      | fields => do
        let (read, left) ← readMembers fuel [] fields
        return (obj read, left)
    | _ =>
      match words.find? fun word => word.1.isPrefixOf cs with
      | some (word, value) => .ok (value, cs.drop word.length)
      | none => readNumber cs

/-- Reads the items of an array up to its closing bracket. -/
def readItems : Nat → List Char → Except Trouble (List Json × List Char)
  | 0, cs => fail .expectingValue cs
  | fuel + 1, cs => do
    let (item, rest) ← readValue fuel cs
    match skipSpace rest with
    | ']' :: left => return ([item], left)
    | ',' :: more => do
      let (items, left) ← readItems fuel (skipSpace more)
      return (item :: items, left)
    | other => fail .expectingComma other

/-- Reads the members of an object up to its closing brace, after the members read so far. -/
def readMembers : Nat → List (String × Json) → List Char →
    Except Trouble (List (String × Json) × List Char)
  | 0, _, cs => fail .expectingName cs
  | fuel + 1, before, cs =>
    match cs with
    | '"' :: rest => do
      let (name, afterName) ← readString cs.length 0 rest
      match skipSpace afterName with
      | ':' :: more => do
        let (value, afterValue) ← readValue fuel (skipSpace more)
        let members := setMember (String.ofList name) value before
        match skipSpace afterValue with
        | '\x7d' :: left => return (members, left)
        | ',' :: next => readMembers fuel members (skipSpace next)
        | other => fail .expectingComma other
      | other => fail .expectingColon other
    | _ => fail .expectingName cs

end

/-- Reads a whole text. -/
def readText (cs : List Char) : Except Trouble Json :=
  if cs.head? = some '\ufeff' then fail .byteOrderMark cs
  else do
    let (value, rest) ← readValue (2 * cs.length + 2) (skipSpace cs)
    match skipSpace rest with
    | [] => return value
    | extra => fail .extraData extra

/-! ### Faults -/

/-- A problem with its place: line and column from one, and the number of characters before it. -/
structure Fault where
  problem : Problem
  line : Nat
  column : Nat
  position : Nat
  deriving DecidableEq, Repr

/-- The place of a problem in a text. -/
def Trouble.locate (cs : List Char) (trouble : Trouble) : Fault :=
  let position := cs.length - trouble.left
  let before := cs.take position
  { problem := trouble.problem
    line := before.count '\n' + 1
    column := (before.reverse.takeWhile (· ≠ '\n')).length + 1
    position }

/-- What a problem is called. -/
def Problem.description : Problem → String
  | byteOrderMark => "Unexpected UTF-8 BOM (decode using utf-8-sig)"
  | expectingValue => "Expecting value"
  | expectingName => "Expecting property name enclosed in double quotes"
  | expectingColon => "Expecting ':' delimiter"
  | expectingComma => "Expecting ',' delimiter"
  | extraData => "Extra data"
  | unterminatedString => "Unterminated string starting at"
  | controlCharacter => "Invalid control character at"
  | invalidEscape => "Invalid \\escape"
  | invalidCodeUnit => "Invalid \\uXXXX escape"
  | tooManyDigits digits =>
    s!"Exceeds the limit ({Text.maxIntegerDigits} digits) for integer string conversion: " ++
      s!"value has {digits} digits; use sys.set_int_max_str_digits() to increase the limit"

/-- The message of a fault. -/
def Fault.message (fault : Fault) : String :=
  match fault.problem with
  | .tooManyDigits _ => fault.problem.description
  | problem =>
    s!"{problem.description}: line {fault.line} column {fault.column} (char {fault.position})"

/-- The value of a JSON text. -/
def parse (s : String) : Except Fault Json :=
  (readText s.toList).mapError (·.locate s.toList)

end Json

end SourceMetrics
