import SourceMetrics.Proofs.Outline.Accounting
import SourceMetrics.Proofs.Outline.Found

/-!
# The fields of a class

Fields are looked for on the lines of a class that belong to none of its members, at the depth of
the body of the class. The scan keeps that depth by adding up the braces of the lines it goes over,
and it passes over the lines of a member without looking at them. So the depth it goes by is the
depth of the braces less the braces on the lines of the members it has passed. The two agree as long
as each member leaves as many braces open as it found, which the lines of a member need not do: a
constructor with a brace in its list of initialisers ends, for the scan, at the brace that closes
the initialiser.

## Main definitions

* `Outline.depthFrom` — the depth of the braces in front of a line, from the brace of a body on
* `Outline.passedBalance` — the braces on the lines of the members that end before a line
* `Dialect.fieldsOn` — the fields on the lines of a class, where the depth is given
* `Dialect.CollectsFields` — what the fields of a class are

## Main results

* `Dialect.fields_scanRange` — the fields that a scan collects
* `Scanner.fields_collected` — the fields of every class that a scanner finds
* `Scanner.fields_at_other_depth` — a class whose fields stand at another depth
-/

namespace SourceMetrics

/-! ### Braces -/

@[simp] theorem braceBalance_nil : braceBalance [] = 0 := rfl

theorem braceBalance_append (xs ys : List Char) :
    braceBalance (xs ++ ys) = braceBalance xs + braceBalance ys := by
  simp only [braceBalance, List.count_append]
  omega

theorem braceBalance_openBrace (cs : List Char) :
    braceBalance ('\x7b' :: cs) = 1 + braceBalance cs := by
  simp [braceBalance]
  omega

/-- The brace that decides a header stands where it is said to. -/
theorem drop_of_leadOf {cs : List Char} {column stop : Nat} (h : leadOf column cs = .brace stop) :
    ∃ n, stop = column + n ∧ cs.drop n = '\x7b' :: cs.drop (n + 1) := by
  induction cs generalizing column with
  | nil => cases h
  | cons c rest ih =>
    rw [leadOf] at h
    split_ifs at h with hopen hend
    · cases h
      exact ⟨0, rfl, by rw [hopen]; rfl⟩
    · obtain ⟨n, rfl, hn⟩ := ih h
      exact ⟨n + 1, by omega, hn⟩

theorem drop_of_leadingBrace? {line : List Char} {column : Nat}
    (h : leadingBrace? line = some column) :
    line.drop column = '\x7b' :: line.drop (column + 1) := by
  rw [leadingBrace?] at h
  obtain ⟨hhead, hcolumn⟩ := Option.ite_none_right_eq_some.mp h
  cases hcolumn
  rw [← List.drop_drop, List.drop_one]
  exact List.eq_cons_of_mem_head? hhead

/-- A body opens with a brace. -/
theorem drop_of_findBody? {lines : List (List Char)} {header body : Place}
    (hheader : header.line < lines.length) (h : findBody? lines header = some body) :
    ∃ line, lines[body.line]? = some line ∧
      line.drop body.column = '\x7b' :: line.drop (body.column + 1) := by
  rw [findBody?] at h
  split at h
  · next column hlead =>
    cases h
    refine ⟨lines.getD header.line [], ?_, ?_⟩
    · rw [List.getD, List.getElem?_eq_getElem hheader, Option.getD_some]
    · obtain ⟨n, rfl, hn⟩ := drop_of_leadOf hlead
      rwa [List.drop_drop, List.drop_drop, ← Nat.add_assoc] at hn
  · cases h
  · split at h
    · next next hnext =>
      obtain ⟨column, hcolumn, rfl⟩ := Option.map_eq_some_iff.mp h
      exact ⟨next, hnext, drop_of_leadingBrace? hcolumn⟩
    · cases h

theorem Dialect.drop_of_classHead? {d : Dialect} {lines : List (List Char)} {head : ClassHead}
    (hlines : lines ≠ []) (h : d.classHead? lines = some head) :
    ∃ line, lines[head.body.line]? = some line ∧
      line.drop head.body.column = '\x7b' :: line.drop (head.body.column + 1) := by
  obtain ⟨-, -, m, -, -, hbody, -⟩ := exists_of_classHead? h
  exact drop_of_findBody? (List.length_pos_iff.mpr hlines) hbody

/-! ### Depths -/

/-- Whether line number `k`, counted from zero, belongs to the entity. -/
def Entity.coversLine (e : Entity) (k : Nat) : Bool :=
  e.declaration.lineStart ≤ k + 1 && k + 1 ≤ e.declaration.lineEnd

/-- Opening less closing braces on the lines of the entity. -/
def Entity.lineBalance (lines : List (List Char)) (e : Entity) : Int :=
  braceBalance
    (Outline.stretch lines (e.declaration.lineStart.toNat - 1) e.declaration.lineEnd.toNat).flatten

namespace Outline

/-- The depth of the braces at the start of line `k`: opening less closing braces from the brace at
`body` on. -/
def depthFrom (lines : List (List Char)) (body : Place) (k : Nat) : Int :=
  braceBalance ((stretch lines body.line k).flatten.drop body.column)

/-- Opening less closing braces on the lines of those entities that end before line `k`. -/
def passedBalance (lines : List (List Char)) (k : Nat) : List Entity → Int
  | [] => 0
  | e :: rest =>
    (if e.declaration.lineEnd ≤ k then e.lineBalance lines else 0) + passedBalance lines k rest

/-- Opening less closing braces on all lines before line `k`. -/
def balanceBefore (lines : List (List Char)) (k : Nat) : Int := braceBalance (lines.take k).flatten

variable {lines : List (List Char)}

theorem braceBalance_stretch {a b : Nat} (h : a ≤ b) :
    braceBalance (stretch lines a b).flatten = balanceBefore lines b - balanceBefore lines a := by
  have htake : lines.take b = lines.take a ++ stretch lines a b := by
    have hsplit := (List.take_append_drop a (lines.take b)).symm
    rwa [List.take_take, Nat.min_eq_left h] at hsplit
  rw [balanceBefore, balanceBefore, htake, List.flatten_append, braceBalance_append]
  omega

theorem balanceBefore_succ {k : Nat} {line : List Char} (h : lines[k]? = some line) :
    balanceBefore lines (k + 1) = balanceBefore lines k + braceBalance line := by
  rw [balanceBefore, balanceBefore, List.take_add_one, h, List.flatten_append, braceBalance_append]
  simp

/-- The entities on lines from number `first` on do not concern the lines before. -/
theorem Forest.not_before {first stop : Nat} {es : List Entity} (h : Forest lines first stop es)
    {k : Nat} (hk : k < first) :
    es.any (·.coversLine k) = false ∧ passedBalance lines k es = 0 := by
  have hmem : ∀ e ∈ es, (k : Int) + 1 < e.declaration.lineStart ∧ ¬e.declaration.lineEnd ≤ k := by
    intro e he
    obtain ⟨a, b, covers, hle, -⟩ := h.of_mem (Entity.mem_preorderAll_of_mem he)
    have hab := covers.le
    rw [covers.lineStart, covers.lineEnd]
    omega
  clear h
  induction es with
  | nil => exact ⟨rfl, rfl⟩
  | cons e rest ih =>
    obtain ⟨hstart, hend⟩ := hmem e List.mem_cons_self
    obtain ⟨hany, hpassed⟩ := ih fun x hx => hmem x (List.mem_cons_of_mem e hx)
    refine ⟨?_, by rw [passedBalance, if_neg hend, hpassed]; rfl⟩
    rw [List.any_cons, hany, Bool.or_false, Entity.coversLine, Bool.and_eq_false_iff]
    left
    rw [decide_eq_false_iff_not]
    omega

/-- Behind an entity that ends before line `b`, its braces have been passed and it covers
nothing. -/
theorem not_behind (lines : List (List Char)) {e : Entity} {a b k : Nat}
    (hstart : e.declaration.lineStart = ((a + 1 : Nat) : Int))
    (hend : e.declaration.lineEnd = (b : Int)) (hab : a ≤ b) (hk : b ≤ k) (rest : List Entity) :
    (e :: rest).any (·.coversLine k) = rest.any (·.coversLine k) ∧
      passedBalance lines k (e :: rest) =
        balanceBefore lines b - balanceBefore lines a + passedBalance lines k rest := by
  constructor
  · have hnot : e.coversLine k = false := by
      rw [Entity.coversLine, hend, Bool.and_eq_false_iff]
      right
      rw [decide_eq_false_iff_not]
      omega
    rw [List.any_cons, hnot, Bool.false_or]
  · have hbalance : e.lineBalance lines = balanceBefore lines b - balanceBefore lines a := by
      rw [Entity.lineBalance, hstart, hend, Int.toNat_natCast, Int.toNat_natCast,
        Nat.add_sub_cancel, braceBalance_stretch hab]
    rw [passedBalance, hend, if_pos (Int.ofNat_le.mpr hk), hbalance]

end Outline

/-! ### Names -/

namespace Dialect

open Outline

/-- The names of the fields on those of some lines, of which the first has number `first`, whose
numbers are selected. -/
def fieldNames (d : Dialect) (selected : Nat → Bool) (first : Nat) (lines : List (List Char)) :
    List String :=
  (lines.zipIdx first).filterMap fun x =>
    if selected x.2 then (d.fieldName? x.1).map String.ofList else none

variable {d : Dialect} {selected selected' : Nat → Bool} {first : Nat} {lines : List (List Char)}

theorem fieldNames_singleton (d : Dialect) (selected : Nat → Bool) (first : Nat)
    (line : List Char) :
    d.fieldNames selected first [line] =
      (if selected first then (d.fieldName? line).map String.ofList else none).toList := by
  rw [fieldNames, List.zipIdx_singleton, List.filterMap_cons, List.filterMap_nil]
  dsimp only
  split <;> simp_all only [Option.toList_none, Option.toList_some]

theorem fieldNames_append (d : Dialect) (selected : Nat → Bool) (first : Nat)
    (xs ys : List (List Char)) :
    d.fieldNames selected first (xs ++ ys) =
      d.fieldNames selected first xs ++ d.fieldNames selected (first + xs.length) ys := by
  rw [fieldNames, List.zipIdx_append, List.filterMap_append]
  rfl

theorem fieldNames_congr
    (h : ∀ k, first ≤ k → k < first + lines.length → selected k = selected' k) :
    d.fieldNames selected first lines = d.fieldNames selected' first lines := by
  refine List.filterMap_congr fun x hx => ?_
  have hle := List.le_snd_of_mem_zipIdx hx
  have hlt := List.snd_lt_add_of_mem_zipIdx hx
  rw [h x.2 hle (by omega)]

theorem fieldNames_eq_nil (h : ∀ k, first ≤ k → k < first + lines.length → selected k = false) :
    d.fieldNames selected first lines = [] := by
  rw [fieldNames_congr h, fieldNames, List.filterMap_eq_nil_iff]
  exact fun _ _ => rfl

/-- Whether a scan that has lost `lag` braces looks for a field on line `k`, where `es` are the
entities that it finds. -/
def looksAt (lines : List (List Char)) (lag : Int) (es : List Entity) (k : Nat) : Bool :=
  !es.any (·.coversLine k) && balanceBefore lines k - lag - passedBalance lines k es == 1

theorem stretch_append {a b stop : Nat} (hab : a ≤ b) (hb : b ≤ stop) (lines : List (List Char)) :
    stretch lines a stop = stretch lines a b ++ stretch lines b stop := by
  have hsplit := (List.take_append_drop (b - a) (stretch lines a stop)).symm
  rw [drop_stretch, Nat.add_sub_cancel' hab] at hsplit
  rwa [stretch, List.take_drop, List.take_take, Nat.add_sub_cancel' hab,
    Nat.min_eq_left hb] at hsplit

/-- No field is looked for on the lines of an entity; behind it, the braces on its
lines are missing. -/
theorem fieldNames_entity {e : Entity} {index b stop : Nat} (hstop : stop ≤ lines.length)
    (hstart : e.declaration.lineStart = ((index + 1 : Nat) : Int))
    (hend : e.declaration.lineEnd = (b : Int)) (hlt : index < b) (hb : b ≤ stop) (lag : Int)
    (rest : List Entity) :
    d.fieldNames (looksAt lines lag (e :: rest)) index (stretch lines index stop) =
      d.fieldNames (looksAt lines (lag + (balanceBefore lines b - balanceBefore lines index)) rest)
        b (stretch lines b stop) := by
  have hlength : (stretch lines index b).length = b - index := length_stretch (by omega) index
  rw [stretch_append (Nat.le_of_lt hlt) hb, fieldNames_append, fieldNames_eq_nil, List.nil_append,
    hlength, Nat.add_sub_cancel' (Nat.le_of_lt hlt)]
  · refine fieldNames_congr fun k hk _ => ?_
    obtain ⟨hany, hpassed⟩ := not_behind lines hstart hend (Nat.le_of_lt hlt) hk rest
    rw [looksAt, looksAt, hany, hpassed]
    congr 2
    omega
  · intro k hk hkb
    have hcovers : e.coversLine k = true := by
      rw [Entity.coversLine, hstart, hend, Bool.and_eq_true, decide_eq_true_iff, decide_eq_true_iff]
      omega
    rw [looksAt, List.any_cons, hcovers, Bool.true_or]
    rfl

/-- What is collected behind an entity on line `index`, with its last line `n` lines further, is
what is collected on the whole range. -/
theorem fields_behind {e : Entity} {depth lag : Int} {index stop n : Nat} {range : List (List Char)}
    {rest : List Entity} {fields : List String} (hstop : stop ≤ lines.length)
    (hrange : stretch lines index stop = range) (hn : n < range.length)
    (hstart : e.declaration.lineStart = ((index + 1 : Nat) : Int))
    (hend : e.declaration.lineEnd = ((index + n + 1 : Nat) : Int))
    (hdepth : depth = balanceBefore lines index - lag)
    (hfields : stretch lines (index + n + 1) stop = range.drop (n + 1) →
      ∀ lag', depth = balanceBefore lines (index + n + 1) - lag' →
        fields = d.fieldNames (looksAt lines lag' rest) (index + n + 1) (range.drop (n + 1))) :
    fields = d.fieldNames (looksAt lines lag (e :: rest)) index range := by
  have hafter : stretch lines (index + n + 1) stop = range.drop (n + 1) := by
    rw [← hrange, drop_stretch, Nat.add_assoc]
  rw [← hrange, length_stretch hstop] at hn
  rw [← hrange, fieldNames_entity hstop hstart hend (by omega) (by omega), hafter]
  exact hfields hafter _ (by omega)

/-- **The fields that the scan of a class collects**: the depth it goes by lags behind by the braces
on the lines of the entities it has passed. -/
theorem fields_scanRange {stop : Nat} (hstop : stop ≤ lines.length) (d : Dialect) (inClass : Bool)
    (depth : Int) (index : Nat) (range : List (List Char)) :
    inClass = true → stretch lines index stop = range →
      ∀ lag, depth = balanceBefore lines index - lag →
        (d.scanRange inClass depth index range).fields =
          d.fieldNames (looksAt lines lag (d.scanRange inClass depth index range).entities) index
            range := by
  fun_induction scanRange d inClass depth index range with
  | case1 => exact fun _ _ _ _ => rfl
  | case2 inClass depth index line rest head hhead inner declaration after _ ih =>
    intro hinClass hrange lag hdepth
    have hfits := (fits_of_classHead? (List.cons_ne_nil line rest) hhead).2
    exact fields_behind hstop hrange hfits.line_lt rfl rfl hdepth (ih hinClass)
  | case3 inClass depth index line rest hclass head hhead declaration after ih =>
    intro hinClass hrange lag hdepth
    have hfits := fits_of_functionHead? (List.cons_ne_nil line rest) hhead
    exact fields_behind hstop hrange hfits.line_lt rfl rfl hdepth (ih hinClass)
  | case4 inClass depth index line rest hclass hfunction field after ih =>
    intro hinClass hrange lag hdepth
    have hafter : stretch lines (index + 1) stop = rest := by
      rw [← drop_stretch, hrange, List.drop_one, List.tail_cons]
    have hline := getElem?_of_stretch_eq_cons hstop hrange
    have hforest := d.forest_scanRange inClass (depth + braceBalance line) (index + 1)
      (hafter ▸ stretch_isPrefix lines (index + 1) stop)
    obtain ⟨hany, hpassed⟩ := hforest.not_before (Nat.lt_succ_self index)
    have hrest := ih hinClass hafter lag (by rw [balanceBefore_succ hline]; omega)
    have hfirst : looksAt lines lag after.entities index = (inClass && depth == 1) := by
      rw [looksAt, hany, hpassed, Int.sub_zero, ← hdepth, hinClass]
      rfl
    have hfield : d.fieldNames (looksAt lines lag after.entities) index [line] =
        (field.map String.ofList).toList := by
      rw [fieldNames_singleton, hfirst]
      simp only [field]
      split <;> rfl
    show (field.map String.ofList).toList ++ after.fields =
      d.fieldNames (looksAt lines lag after.entities) index ([line] ++ rest)
    rw [fieldNames_append, hfield, hrest]
    rfl

/-! ### The fields of the classes of an outline -/

/-- The depth at the start of a line behind the one that opens a body. -/
theorem depthFrom_eq {body : Place} {line : List Char} {k : Nat}
    (hline : lines[body.line]? = some line)
    (hbrace : line.drop body.column = '\x7b' :: line.drop (body.column + 1)) (hk : body.line < k) :
    depthFrom lines body k = 1 + braceBalance (line.drop (body.column + 1)) +
      (balanceBefore lines k - balanceBefore lines (body.line + 1)) := by
  have hstretch : stretch lines body.line k = line :: stretch lines (body.line + 1) k := by
    rw [stretch, List.drop_eq_getElem?_toList_append, List.getElem?_take_of_lt hk, hline]
    rfl
  have hcolumn : body.column ≤ line.length := by
    by_contra hlt
    rw [List.drop_eq_nil_of_le (by omega)] at hbrace
    cases hbrace
  rw [depthFrom, hstretch, List.flatten_cons, List.drop_append_of_le_length hcolumn, hbrace,
    braceBalance_append, braceBalance_openBrace, braceBalance_stretch hk]

theorem passedBalance_eq_zero {es : List Entity} {k : Nat}
    (h : ∀ e ∈ es, e.declaration.lineEnd ≤ k → e.lineBalance lines = 0) :
    passedBalance lines k es = 0 := by
  induction es with
  | nil => rfl
  | cons e rest ih =>
    rw [passedBalance, ih fun x hx => h x (List.mem_cons_of_mem e hx), Int.add_zero]
    split_ifs with hend
    · exact h e List.mem_cons_self hend
    · rfl

/-- The names of the fields on those lines of the class that come behind the brace of its body,
belong to no member and start at depth one, where `depth` gives the depth of each line; without
repetitions, in the order of their first occurrence. -/
def fieldsOn (d : Dialect) (lines : List (List Char)) (body : Place) (depth : Nat → Int)
    (e : Entity) : List String :=
  (d.fieldNames (fun k => !e.children.any (·.coversLine k) && depth k == 1) (body.line + 1)
    (stretch lines (body.line + 1) e.declaration.lineEnd.toNat)).eraseDups

/-- What the fields of a class are whose body is opened by the brace at `body`. -/
structure CollectsFields (d : Dialect) (lines : List (List Char)) (body : Place) (e : Entity) :
    Prop where
  /-- The body is opened by a brace. -/
  brace : ∃ text, lines[body.line]? = some text ∧ text[body.column]? = some '\x7b'
  /-- Fields are looked for at depth one, counted without the lines of the members passed. -/
  properties_eq : e.declaration.properties =
    d.fieldsOn lines body (fun k => depthFrom lines body k - passedBalance lines k e.children) e
  /-- That is the depth of the braces if every member but a last one has as many opening braces on
  its lines as closing ones. -/
  properties_eq_of_balanced :
    (∀ m ∈ e.children, m.declaration.lineEnd < e.declaration.lineEnd → m.lineBalance lines = 0) →
      e.declaration.properties = d.fieldsOn lines body (depthFrom lines body) e

/-- Only the depths of the lines of a class matter. -/
theorem fieldsOn_congr {body : Place} {depth depth' : Nat → Int} {e : Entity}
    (h : ∀ k, body.line < k → (k : Int) < e.declaration.lineEnd → depth k = depth' k) :
    d.fieldsOn lines body depth e = d.fieldsOn lines body depth' e := by
  rw [fieldsOn, fieldsOn]
  congr 1
  refine fieldNames_congr fun k hle hlt => ?_
  have hlength : (stretch lines (body.line + 1) e.declaration.lineEnd.toNat).length ≤
      e.declaration.lineEnd.toNat - (body.line + 1) := by
    rw [stretch, List.length_drop, List.length_take]
    omega
  rw [h k (by omega) (by omega)]

/-- **The fields of a class** that was found, with the brace of its body. -/
theorem Found.collectsFields {inClass : Bool} {stop : Nat} {e : Entity}
    (h : d.Found lines inClass stop e) (hstop : stop ≤ lines.length) (hclass : e.isClass = true) :
    ∃ a head, a < stop ∧ d.classHead? (stretch lines a stop) = some head ∧
      e.declaration = head.declaration a e.declaration.properties ∧
      d.CollectsFields lines ⟨a + head.body.line, head.body.column⟩ e := by
  cases h with
  | ofFunction lt head_eq => cases hclass
  | @ofClass a head inner lt head_eq inner_eq =>
    refine ⟨a, head, lt, head_eq, rfl, ?_⟩
    have hne := stretch_ne_nil lt hstop
    have hend := classHead?_line_lt lt hstop head_eq
    have hle := (fits_of_classHead? hne head_eq).1
    obtain ⟨line, hline, hbrace⟩ := drop_of_classHead? hne head_eq
    have hdepth : head.innerDepth (stretch lines a stop) =
        1 + braceBalance (line.drop (head.body.column + 1)) := by
      rw [ClassHead.innerDepth, List.getD, hline, Option.getD_some]
    rw [getElem?_stretch (by omega)] at hline
    -- the scan starts behind the line of the brace, with the depth that this line leaves
    have hfields := fields_scanRange (Nat.le_trans hend hstop) d true
      (head.innerDepth (stretch lines a stop)) (a + head.body.line + 1) _ rfl rfl
      (balanceBefore lines (a + head.body.line + 1) - head.innerDepth (stretch lines a stop))
      (by omega)
    rw [inner_eq, hdepth] at hfields
    have hproperties : inner.fields.eraseDups =
        d.fieldsOn lines ⟨a + head.body.line, head.body.column⟩ (fun k =>
          depthFrom lines ⟨a + head.body.line, head.body.column⟩ k -
            passedBalance lines k inner.entities)
          (.node (head.declaration a inner.fields.eraseDups) inner.entities) := by
      rw [fieldsOn]
      conv_lhs => rw [hfields]
      congr 1
      refine fieldNames_congr fun k hk _ => ?_
      have hat : depthFrom lines ⟨a + head.body.line, head.body.column⟩ k = _ :=
        depthFrom_eq hline hbrace hk
      rw [looksAt, hat]
      dsimp only [Entity.children]
      congr 2
      omega
    refine ⟨⟨line, hline, ?_⟩, hproperties, fun hbalanced => ?_⟩
    · have hhead := congrArg List.head? hbrace
      rwa [List.head?_drop, List.head?_cons] at hhead
    · refine hproperties.trans (fieldsOn_congr fun k _ hk => ?_)
      have hpassed : passedBalance lines k inner.entities = 0 :=
        passedBalance_eq_zero fun m hm hend => hbalanced m hm (Int.lt_of_le_of_lt hend hk)
      rw [hpassed, Int.sub_zero]

/-! ### Scores -/

theorem passedBalance_measured (rules : CountingRules) (text : List (List Char)) (k : Nat)
    (es : List Entity) :
    passedBalance lines k (es.map (Entity.map (·.measured rules text))) =
      passedBalance lines k es := by
  induction es with
  | nil => rfl
  | cons e rest ih =>
    rw [List.map_cons, passedBalance, passedBalance, ih, Entity.lineBalance, Entity.lineBalance,
      Entity.declaration_map]
    rfl

theorem any_coversLine_measured (rules : CountingRules) (text : List (List Char)) (k : Nat)
    (es : List Entity) :
    (es.map (Entity.map (·.measured rules text))).any (·.coversLine k) =
      es.any (·.coversLine k) := by
  rw [List.any_map]
  congr 1
  funext e
  rw [Function.comp, Entity.coversLine, Entity.coversLine, Entity.declaration_map]
  rfl

/-- Scores do not change what is collected. -/
theorem CollectsFields.measured {body : Place} {e : Entity} (h : d.CollectsFields lines body e)
    (rules : CountingRules) (text : List (List Char)) :
    d.CollectsFields lines body (e.map (·.measured rules text)) := by
  obtain ⟨declaration, members⟩ := e
  have hfieldsOn : ∀ depth, d.fieldsOn lines body depth
      ((Entity.node declaration members).map (·.measured rules text)) =
        d.fieldsOn lines body depth (.node declaration members) := by
    intro depth
    simp only [fieldsOn, Entity.map, Entity.children, Entity.mapAll_eq_map, any_coversLine_measured]
    rfl
  refine ⟨h.brace, ?_, fun hbalanced => ?_⟩
  · rw [hfieldsOn]
    simp only [Entity.map, Entity.children, Entity.mapAll_eq_map, passedBalance_measured]
    exact h.properties_eq
  · rw [hfieldsOn]
    refine h.properties_eq_of_balanced fun m hm hend => ?_
    have hmem : m.map (·.measured rules text) ∈
        ((Entity.node declaration members).map (·.measured rules text)).children := by
      rw [Entity.map, Entity.children, Entity.mapAll_eq_map]
      exact List.mem_map_of_mem hm
    have hbalance := hbalanced _ hmem
    rw [Entity.lineBalance, Entity.declaration_map] at hbalance
    exact hbalance hend

end Dialect

namespace Scanner

open Outline

/-- **The fields of every class that a scanner finds** are the names on the lines behind the brace
of its body that belong to no member and start at depth one, without repetitions. The depth is that
of the braces less the braces on the lines of the members before, and so the depth of the braces
itself where the members are balanced. -/
theorem fields_collected {s : Scanner} (hs : s ∈ builtinScanners) (rules : CountingRules)
    (source : List Char) :
    let lines := Text.lines (mask s.dialect.rules source)
    ∃ analysis, s.analyze rules source = .ok analysis ∧ ∀ e ∈ Entity.classes analysis.entities,
      ∃ a stop head, a < stop ∧ stop ≤ lines.length ∧
        s.dialect.classHead? (stretch lines a stop) = some head ∧
        e.declaration = (head.declaration a e.declaration.properties).measured rules lines ∧
        s.dialect.CollectsFields lines ⟨a + head.body.line, head.body.column⟩ e := by
  intro lines
  refine ⟨s.dialect.analyze rules source, by rw [analyze, failure_of_mem_builtin hs],
    fun e he => ?_⟩
  obtain ⟨hmem, hclass⟩ := List.mem_filter.mp he
  rw [Dialect.analyze, Entity.preorderAll_mapAll] at hmem
  obtain ⟨e₀, hmem₀, rfl⟩ := List.mem_map.mp hmem
  rw [Entity.isClass, Entity.declaration_map] at hclass
  obtain ⟨inClass, stop, hstop, hfound⟩ := Dialect.exists_found_of_mem_outline e₀ hmem₀
  obtain ⟨a, head, hlt, hhead, hdeclaration, hfields⟩ := hfound.collectsFields hstop hclass
  refine ⟨a, stop, head, hlt, hstop, hhead, ?_, hfields.measured rules lines⟩
  rw [Entity.declaration_map, hdeclaration]
  rfl

/-- A class with two constructors, a local variable in one of them and a field that
is declared twice. -/
theorem fields_collected_constructors :
    let source :=
      ("class A\n\x7b\n  A(int v) \x7b int w; \x7d\n  int x, y;\n  A() : x(1) \x7b\n".toList ++
        "    int z;\n  \x7d\n  int x;\n  int u;\n\x7d;\n".toList)
    let lines := Text.lines (mask Cpp.dialect.rules source)
    Cpp.scanner ∈ builtinScanners ∧
      ∃ e ∈ Entity.classes (Cpp.dialect.analyze {} source).entities,
        (∀ m ∈ e.children,
            m.declaration.lineEnd < e.declaration.lineEnd → m.lineBalance lines = 0) ∧
          e.declaration.properties = ["x", "u"] ∧
          ∃ body, Cpp.dialect.fieldsOn lines body (depthFrom lines body) e = ["x", "u"] := by
  intro source lines
  have hmem : Cpp.scanner ∈ builtinScanners := by simp [builtinScanners]
  have hfound : (Entity.classes (Cpp.dialect.analyze {} source).entities).any fun e =>
      (∀ m ∈ e.children, m.declaration.lineEnd < e.declaration.lineEnd → m.lineBalance lines = 0) ∧
        e.declaration.properties = ["x", "u"] := by decide +kernel
  obtain ⟨e, he, hfound⟩ := List.any_eq_true.mp hfound
  obtain ⟨hbalanced, hproperties⟩ := of_decide_eq_true hfound
  obtain ⟨analysis, hanalysis, hclasses⟩ := fields_collected hmem {} source
  cases hanalysis
  obtain ⟨a, stop, head, -, -, -, -, hcollects⟩ := hclasses e he
  exact ⟨hmem, e, he, hbalanced, hproperties, _,
    (hcollects.properties_eq_of_balanced hbalanced).symm.trans hproperties⟩

/-- **Fields can stand at another depth**: a constructor that initialises a member between braces
ends, for the scan, on its first line, whose last brace it leaves open. The variable in the body of
the constructor is then taken for the field, and the field at the depth of the class is missed. -/
theorem fields_at_other_depth :
    let source := ("class A \x7b\n  A() : a\x7b1\x7d, b\x7b2\x7d \x7b\n    int x;\n".toList ++
      "  \x7d\n  int y;\n\x7d;\n".toList)
    let lines := Text.lines (mask Cpp.dialect.rules source)
    let body : Place := ⟨0, 8⟩
    (Cpp.dialect.classHead? lines).map ClassHead.body = some body ∧
      ∃ e ∈ Entity.classes (Cpp.dialect.analyze {} source).entities,
        e.declaration.properties = ["x"] ∧
          Cpp.dialect.fieldsOn lines body (depthFrom lines body) e = ["y"] := by
  intro source lines body
  have hfound : (Entity.classes (Cpp.dialect.analyze {} source).entities).any
      fun e => e.declaration.properties = ["x"] ∧
        Cpp.dialect.fieldsOn lines body (depthFrom lines body) e = ["y"] := by decide +kernel
  obtain ⟨e, he, hfound⟩ := List.any_eq_true.mp hfound
  exact ⟨by decide, e, he, of_decide_eq_true hfound⟩

end Scanner

end SourceMetrics
