import SourceMetrics.Text.Blank
import SourceMetrics.Text.Digit

/-!
# Reading an integer

An integer is written with an optional sign and decimal digits of any script, where single
underscores may stand between digits. Blanks around it do not matter, except that the four
information separators are not skipped. Numbers of more than 4300 digits are refused.

## Main definitions

* `Text.IntegerFault` — why a text is no integer
* `Text.readInteger` — the integer a text denotes
-/

namespace SourceMetrics

namespace Text

/-- Why a text does not denote an integer. -/
inductive IntegerFault where
  /-- The text is not of the form of an integer. -/
  | malformed
  /-- The text is an integer with too many digits. -/
  | tooLong (digits : Nat)
  deriving DecidableEq, Repr

/-- The number of digits an integer may have. -/
def maxIntegerDigits : Nat := 4300

/-- A blank that may stand around an integer. -/
def isIntegerBlank (c : Char) : Bool := isBlank c && !('\x1c' ≤ c && c ≤ '\x1f')

/-- The digits of an unsigned integer, where `fresh` tells that a digit has to come next. -/
def readDigits (fresh : Bool) : List Char → Option (List Nat)
  | [] => if fresh then none else some []
  | c :: rest =>
    match digitValue? c with
    | some d => (readDigits false rest).map (d :: ·)
    | none => if c = '_' && !fresh then readDigits true rest else none

/-- The number with the given decimal digits. -/
def ofDigits (digits : List Nat) : Nat := digits.foldl (fun n d => 10 * n + d) 0

/-- The unsigned integer a text denotes. -/
def readNatural (cs : List Char) : Except IntegerFault Nat :=
  match readDigits true cs with
  | none => .error .malformed
  | some digits =>
    if maxIntegerDigits < digits.length then .error (.tooLong digits.length)
    else .ok (ofDigits digits)

/-- The integer a text denotes. -/
def readInteger (s : String) : Except IntegerFault Int :=
  let front := s.toList.dropWhile isIntegerBlank
  match (front.reverse.dropWhile isIntegerBlank).reverse with
  | '-' :: rest => (readNatural rest).map fun n => -(n : Int)
  | '+' :: rest => (readNatural rest).map Int.ofNat
  | rest => (readNatural rest).map Int.ofNat

end Text

end SourceMetrics
