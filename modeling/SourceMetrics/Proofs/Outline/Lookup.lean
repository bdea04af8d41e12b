import SourceMetrics.Proofs.Outline.Block
import SourceMetrics.Proofs.Pattern

/-!
# Looking up lines

A scan looks up lines by number: the one on which a header ends, the one behind it, the one on which
a body opens. The scan of the library takes an empty line for one that is not there. `Checked`
repeats it with a failure instead, also where the column before a match is taken, and the two agree:
no look-up of a scan ever falls outside the lines of its range. This holds for every text and for
every dialect whose patterns for functions take at least one character.

## Main definitions

* `OutOfRange` — a look-up that fails
* `Checked.outline` — the outline of a source, or the first look-up that fails
* `Dialect.Anchored` — the patterns for functions match no empty text

## Main results

* `Dialect.checked_outline` — no look-up fails
-/

namespace SourceMetrics

/-- A look-up outside a text: of a line that is not there, or of the column before the first. -/
inductive OutOfRange where
  | line (number : Nat)
  | column
  deriving DecidableEq, Repr

namespace Checked

/-- The line with a number. -/
def lineAt (lines : List (List Char)) (n : Nat) : Except OutOfRange (List Char) :=
  match lines[n]? with
  | some line => .ok line
  | none => .error (.line n)

/-- The column before a column. -/
def columnBefore : Nat → Except OutOfRange Nat
  | 0 => .error .column
  | n + 1 => .ok n

/-- The brace that opens the body of a declaration whose header ends at a place. -/
def findBody (lines : List (List Char)) (header : Place) : Except OutOfRange (Option Place) := do
  let line ← lineAt lines header.line
  match leadOf header.column (line.drop header.column) with
  | .brace column => return some ⟨header.line, column⟩
  | .ended => return none
  | .undecided =>
    if header.line + 1 < lines.length then
      let next ← lineAt lines (header.line + 1)
      return (leadingBrace? next).map (⟨header.line + 1, ·⟩)
    else return none

/-- The class that a pattern finds on the first line. -/
def classBy (lines : List (List Char)) (pattern : Pattern) :
    Except OutOfRange (Option ClassHead) := do
  let first ← lineAt lines 0
  match pattern.match? first with
  | none => return none
  | some m =>
    if Dialect.nameAllowed m then
      let body ← findBody lines ⟨0, Dialect.headerEnd m⟩
      return body.map fun body =>
        { name := Dialect.nameOf m, body, extent := Extent.ofBlock lines body }
    else return none

/-- The number of parameters of a function, and the place behind its header. -/
def signature (d : Dialect) (lines : List (List Char)) (m : Pattern.Cursor) :
    Except OutOfRange (Nat × Place) := do
  if (m.part? .parameter).isSome then return (1, ⟨0, m.position⟩)
  else
    let column ← columnBefore m.position
    let (text, place) := parenSpan lines column
    return (d.parameterCount text, place)

/-- The function that a pattern finds on the first line. -/
def functionBy (d : Dialect) (inClass : Bool) (lines : List (List Char))
    (pattern : FunctionPattern) : Except OutOfRange (Option FunctionHead) := do
  let first ← lineAt lines 0
  match pattern.pattern.match? first with
  | none => return none
  | some m =>
    if Dialect.nameAllowed m && !Dialect.typeForbidden m then
      let (parameters, header) ← signature d lines m
      match ← findBody lines header with
      | some body =>
        return some
          { name := Dialect.nameOf m, parameters, hasBody := true,
            extent := Extent.ofBlock lines body }
      | none =>
        if pattern.bodyRequired && !(inClass && (m.part? .type).isSome) then return none
        else
          return some
            { name := Dialect.nameOf m, parameters, hasBody := false,
              extent := ⟨header.line, none, true⟩ }
    else return none

/-- The class declared on the first line. -/
def classHead (d : Dialect) (lines : List (List Char)) : Except OutOfRange (Option ClassHead) :=
  d.classes.findSomeM? (classBy lines)

/-- The function declared on the first line. -/
def functionHead (d : Dialect) (inClass : Bool) (lines : List (List Char)) :
    Except OutOfRange (Option FunctionHead) :=
  (if inClass then d.members else d.functions).findSomeM? (functionBy d inClass lines)

/-- The depth of the braces of a class before its inner lines. -/
def innerDepth (h : ClassHead) (lines : List (List Char)) : Except OutOfRange Int := do
  let line ← lineAt lines h.body.line
  return 1 + braceBalance (line.drop (h.body.column + 1))

/-- The outline of the lines of a range, the first of which has number `index`. -/
def scanRange (d : Dialect) (inClass : Bool) (depth : Int) (index : Nat)
    (lines : List (List Char)) : Except OutOfRange Outline :=
  match lines with
  | [] => return {}
  | line :: rest => do
    match ← classHead d (line :: rest) with
    | some head =>
      let depthInside ← innerDepth head (line :: rest)
      let inner ← scanRange d true depthInside (index + head.body.line + 1)
        (head.innerLines (line :: rest))
      let declaration := head.declaration index inner.fields.eraseDups
      let after ← scanRange d inClass depth (index + head.extent.line + 1)
        ((line :: rest).drop (head.extent.line + 1))
      return { entities := .node declaration inner.entities :: after.entities
               fields := after.fields
               warnings := warningsOf declaration ++ inner.warnings ++ after.warnings }
    | none =>
      match ← functionHead d inClass (line :: rest) with
      | some head =>
        let declaration := head.declaration index
        let after ← scanRange d inClass depth (index + head.extent.line + 1)
          ((line :: rest).drop (head.extent.line + 1))
        return { after with
          entities := .node declaration [] :: after.entities
          warnings := warningsOf declaration ++ after.warnings }
      | none =>
        let field := if inClass && depth == 1 then d.fieldName? line else none
        let after ← scanRange d inClass (depth + braceBalance line) (index + 1) rest
        return { after with fields := (field.map String.ofList).toList ++ after.fields }
termination_by lines.length
decreasing_by
  all_goals
    simp only [ClassHead.innerLines, List.length_drop, List.length_take, List.length_cons]
    omega

/-- The outline of a masked source. -/
def outline (d : Dialect) (masked : List Char) : Except OutOfRange Outline :=
  scanRange d false 0 0 (Text.lines masked)

/-! ### No look-up fails -/

theorem lineAt_eq {lines : List (List Char)} {n : Nat} (h : n < lines.length) :
    lineAt lines n = .ok (lines.getD n []) := by
  rw [lineAt, List.getD, List.getElem?_eq_getElem h, Option.getD_some]

theorem lineAt_zero_eq {lines : List (List Char)} (h : lines ≠ []) :
    lineAt lines 0 = .ok (lines.headD []) := by
  cases lines with
  | nil => exact absurd rfl h
  | cons first rest => rfl

theorem findBody_eq {lines : List (List Char)} {header : Place} (h : header.line < lines.length) :
    findBody lines header = .ok (findBody? lines header) := by
  simp only [findBody, findBody?, lineAt_eq h, bind, Except.bind, pure, Except.pure]
  cases leadOf header.column ((lines.getD header.line []).drop header.column) with
  | brace column => rfl
  | ended => rfl
  | undecided =>
    by_cases hnext : header.line + 1 < lines.length
    · rw [if_pos hnext, lineAt_eq hnext, List.getD, List.getElem?_eq_getElem hnext]
      rfl
    · rw [if_neg hnext, List.getElem?_eq_none (by omega)]

/-- Searching with a look-up that never fails finds the same. -/
theorem findSomeM?_eq {α β : Type} {f : α → Except OutOfRange (Option β)} {g : α → Option β}
    {xs : List α} (h : ∀ x ∈ xs, f x = .ok (g x)) : xs.findSomeM? f = .ok (xs.findSome? g) := by
  induction xs with
  | nil => rfl
  | cons x rest ih =>
    simp only [List.findSomeM?, h x List.mem_cons_self, bind, Except.bind, List.findSome?]
    cases g x with
    | none => exact ih fun y hy => h y (List.mem_cons_of_mem x hy)
    | some y => rfl

variable {d : Dialect} {lines : List (List Char)}

theorem classHead_eq (d : Dialect) (hlines : lines ≠ []) :
    classHead d lines = .ok (d.classHead? lines) := by
  refine findSomeM?_eq fun pattern _ => ?_
  simp only [classBy, Dialect.classBy?, lineAt_zero_eq hlines, bind, Except.bind, pure, Except.pure]
  cases pattern.match? (lines.headD []) with
  | none => rfl
  | some m =>
    have hheader : (⟨0, Dialect.headerEnd m⟩ : Place).line < lines.length :=
      List.length_pos_iff.mpr hlines
    dsimp only
    rw [findBody_eq hheader]
    split <;> rfl

end Checked

/-- The patterns for functions take at least one character. -/
def Dialect.Anchored (d : Dialect) : Prop :=
  ∀ p ∈ d.functions ++ d.members, 0 < p.pattern.minLength

instance (d : Dialect) : Decidable d.Anchored :=
  inferInstanceAs (Decidable (∀ p ∈ d.functions ++ d.members, 0 < p.pattern.minLength))

namespace Checked

variable {d : Dialect} {lines : List (List Char)}

theorem signature_eq (d : Dialect) (lines : List (List Char)) {m : Pattern.Cursor}
    (h : 0 < m.position) : signature d lines m = .ok (d.signature lines m) := by
  obtain ⟨n, hn⟩ := Nat.exists_eq_add_one.mpr h
  rw [signature, Dialect.signature, hn]
  split <;> rfl

theorem functionBy_eq (d : Dialect) (inClass : Bool) (hlines : lines ≠ [])
    {pattern : FunctionPattern} (h : 0 < pattern.pattern.minLength) :
    functionBy d inClass lines pattern = .ok (d.functionBy? inClass lines pattern) := by
  simp only [functionBy, Dialect.functionBy?, lineAt_zero_eq hlines, bind, Except.bind, pure,
    Except.pure]
  cases hm : pattern.pattern.match? (lines.headD []) with
  | none => rfl
  | some m =>
    have hmatch := Pattern.minLength_le_of_match? hm
    have hheader := Dialect.signature_line d hlines m
    dsimp only
    rw [signature_eq d lines (by omega)]
    dsimp only
    rw [findBody_eq hheader]
    dsimp only
    split
    · cases findBody? lines (d.signature lines m).2 with
      | some body => rfl
      | none => dsimp only; split <;> rfl
    · rfl

theorem functionHead_eq (hd : d.Anchored) (inClass : Bool) (hlines : lines ≠ []) :
    functionHead d inClass lines = .ok (d.functionHead? inClass lines) := by
  refine findSomeM?_eq fun pattern hpattern => functionBy_eq d inClass hlines (hd pattern ?_)
  split at hpattern
  · exact List.mem_append_right _ hpattern
  · exact List.mem_append_left _ hpattern

theorem innerDepth_eq {h : ClassHead} (hbody : h.body.line < lines.length) :
    innerDepth h lines = .ok (h.innerDepth lines) := by
  rw [innerDepth, lineAt_eq hbody]
  rfl

/-- The scan of a range never fails. -/
theorem scanRange_eq (hd : d.Anchored) (inClass : Bool) (depth : Int) (index : Nat)
    (lines : List (List Char)) :
    scanRange d inClass depth index lines = .ok (d.scanRange inClass depth index lines) := by
  fun_induction Dialect.scanRange d inClass depth index lines with
  | case1 => rw [scanRange]; rfl
  | case2 inClass depth index line rest head hhead inner declaration after ihm ihr =>
    have hlines := List.cons_ne_nil line rest
    obtain ⟨hbody, hfits⟩ := Dialect.fits_of_classHead? hlines hhead
    rw [scanRange, classHead_eq d hlines, hhead]
    simp only [innerDepth_eq (Nat.lt_of_le_of_lt hbody hfits.line_lt), ihm, ihr, bind, Except.bind]
    rfl
  | case3 inClass depth index line rest hclass head hhead declaration after ihr =>
    have hlines := List.cons_ne_nil line rest
    rw [scanRange, classHead_eq d hlines, hclass]
    simp only [functionHead_eq hd inClass hlines, hhead, ihr, bind, Except.bind]
    rfl
  | case4 inClass depth index line rest hclass hfunction field after ihr =>
    have hlines := List.cons_ne_nil line rest
    rw [scanRange, classHead_eq d hlines, hclass]
    simp only [functionHead_eq hd inClass hlines, hfunction, ihr, bind, Except.bind]
    rfl

end Checked

/-- No look-up of a scan fails. -/
theorem Dialect.checked_outline {d : Dialect} (hd : d.Anchored) (masked : List Char) :
    Checked.outline d masked = .ok (d.outline masked) :=
  Checked.scanRange_eq hd false 0 0 (Text.lines masked)

end SourceMetrics
