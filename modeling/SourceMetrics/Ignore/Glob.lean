import SourceMetrics.Pattern

/-!
# Globs

A glob describes a component of a path: a star stands for any characters, a question mark for one,
and brackets for one of several characters or, with a mark of negation, for one of all others. None
of these stands for a slash, except that a bracket may list it. A backslash makes the next character
stand for itself; inside brackets it is an ordinary member. A bracket that is not closed stands for
itself.

## Main definitions

* `Glob.pattern` — the pattern of a glob
-/

namespace SourceMetrics

namespace Glob

/-- Why a text is no glob. -/
inductive Fault where
  /-- The last backslash has nothing to stand in front of. -/
  | trailingBackslash
  /-- A range of characters ends before it starts. -/
  | reversedRange (first last : Char)
  deriving DecidableEq, Repr

/-- The part of a bracket up to its closing bracket, and the rest. A closing bracket that comes
first is a member. -/
def bracketBody? (cs : List Char) : Option (List Char × List Char) :=
  let lead := match cs with
    | ']' :: _ => 1
    | _ => 0
  let body := cs.take lead ++ (cs.drop lead).takeWhile (· != ']')
  match cs.drop body.length with
  | _ :: rest => some (body, rest)
  | [] => none

/-- The members of a bracket: characters, and ranges written with a hyphen between two
characters. -/
def bracketClass (negated : Bool) : List Char → Except Fault CharClass
  | first :: '-' :: last :: rest =>
    if last < first then .error (.reversedRange first last)
    else (bracketClass negated rest).map fun k => { k with ranges := (first, last) :: k.ranges }
  | c :: rest => (bracketClass negated rest).map fun k => { k with chars := c :: k.chars }
  | [] => .ok { negated }

/-- The class of a bracket behind its opening bracket, and the rest of the glob. -/
def bracket? (cs : List Char) : Option (Except Fault CharClass × List Char) :=
  let marked := cs.head? == some '!' || cs.head? == some '^'
  (bracketBody? (if marked then cs.drop 1 else cs)).map fun found =>
    (bracketClass marked found.1, found.2)

/-- What stands behind a bracket is shorter than what stood behind its opening bracket. -/
theorem length_bracketBody? {cs body rest : List Char} (h : bracketBody? cs = some (body, rest)) :
    rest.length < cs.length := by
  simp only [bracketBody?] at h
  split at h
  · rename_i c tail heq
    injection h with h
    injection h with _ h
    subst h
    have := congrArg List.length heq
    simp only [List.length_drop, List.length_cons] at this
    omega
  · contradiction

theorem length_bracket? {cs rest : List Char} {k : Except Fault CharClass}
    (h : bracket? cs = some (k, rest)) : rest.length < cs.length := by
  simp only [bracket?, Option.map_eq_some_iff] at h
  obtain ⟨⟨body, tail⟩, hbody, heq⟩ := h
  simp only [Prod.mk.injEq] at heq
  obtain ⟨-, rfl⟩ := heq
  have := length_bracketBody? hbody
  split at this
  · simp only [List.length_drop] at this
    omega
  · exact this

/-- The pattern of a glob. -/
def pattern (cs : List Char) : Except Fault Pattern :=
  match cs with
  | [] => .ok .empty
  | '\\' :: c :: rest => (pattern rest).map (Pattern.exactly [c] ++ ·)
  | ['\\'] => .error .trailingBackslash
  | '*' :: rest => (pattern rest).map (Pattern.many (.noneOf "/") ++ ·)
  | '?' :: rest => (pattern rest).map (Pattern.noneOf "/" ++ ·)
  | '[' :: rest =>
    match h : bracket? rest with
    | none => (pattern rest).map (Pattern.exactly ['['] ++ ·)
    | some (found, after) => do
      let k ← found
      have := length_bracket? h
      return Pattern.one k ++ (← pattern after)
  | c :: rest => (pattern rest).map (Pattern.exactly [c] ++ ·)
termination_by cs.length
decreasing_by
  all_goals simp only [List.length_cons]
  all_goals omega

end Glob

end SourceMetrics
