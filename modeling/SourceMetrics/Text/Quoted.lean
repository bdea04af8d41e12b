import SourceMetrics.Text.Printable

/-!
# Quoted text

How messages show a string: between single quotes, or between double quotes if it holds a single
quote and no double quote. The quote in use and the backslash get a backslash in front; line feed,
carriage return and tab have short escapes; any other character that is not printable is written by
its code point in the shortest of the forms with two, four and eight hexadecimal digits.

## Main definitions

* `Text.quoted` — the quoted form of a string
-/

namespace SourceMetrics

namespace Text

/-- The last `width` hexadecimal digits of a number, in lower case. -/
def hexDigits (width n : Nat) : List Char :=
  (List.range width).reverse.map fun k => Nat.digitChar (n / Nat.pow 16 k % 16)

/-- The form of a character between quotes `quote`. -/
def quotedChar (quote c : Char) : List Char :=
  if c = quote || c = '\\' then ['\\', c]
  else if c = '\n' then ['\\', 'n']
  else if c = '\r' then ['\\', 'r']
  else if c = '\t' then ['\\', 't']
  else if isPrintable c then [c]
  else if c.toNat < 0x100 then '\\' :: 'x' :: hexDigits 2 c.toNat
  else if c.toNat < 0x10000 then '\\' :: 'u' :: hexDigits 4 c.toNat
  else '\\' :: 'U' :: hexDigits 8 c.toNat

/-- The quoted form of a string. -/
def quoted (s : String) : String :=
  let cs := s.toList
  let quote := if cs.contains '\'' && !cs.contains '"' then '"' else '\''
  String.ofList (quote :: (cs.flatMap (quotedChar quote) ++ [quote]))

end Text

end SourceMetrics
