import Mathlib.Data.List.Induction
import SourceMetrics.Proofs.Detection.History

/-!
# Detection without a language

Detection asks one stage after another, and each has a rule of its own for the choice among
profiles: the first that lists an extension or a type, the first whose pattern fits, the first with
the most words. None of them lets a profile that is not chosen have a say: without it the others
stand in the same order, and a stage that chose none chooses none among fewer.

Only the confidence of a choice by words may change, since it is a share among the words of all
languages.

All of this holds of every detector that has a history. What a new detector with the profiles of an
old one detects is the same, as long as there is a new one: a profile whose pattern could not be
read is registered all the same, and goes on with the pattern of the profile before it.

## Main definitions

* `Detection.choice` — what is detected and how, without the confidence
* `Detector.Steady` — a stage to which the profiles that it does not choose are of no account

## Main results

* `Detector.largest?_filter` — the first of the largest counts stays the first
* `Detector.steady_detectWith` — detection is steady
* `Detector.detect_history` — detection depends on the profiles in force, and on the chosen one
* `Detector.replaced_pattern_detects` — the profiles in force need not be those that are registered
-/

namespace SourceMetrics

/-- What is detected and how, without the confidence. -/
def Detection.choice (found : Detection) : String × DetectionMethod :=
  (found.language, found.method)

namespace Detector

/-! ### Choices among fewer -/

/-- The first element with a property stays the first if others are left out. -/
theorem find?_filter_eq {α : Type} {p q : α → Bool} {xs : List α}
    (h : ∀ x ∈ xs.find? p, q x = true) : (xs.filter q).find? p = xs.find? p := by
  induction xs with
  | nil => rfl
  | cons x rest ih =>
    cases hp : p x with
    | true =>
      have hq : q x = true := h x (List.find?_cons_of_pos hp)
      rw [List.filter_cons_of_pos hq, List.find?_cons_of_pos hp, List.find?_cons_of_pos hp]
    | false =>
      have hnot : ¬p x = true := by rw [hp]; exact Bool.false_ne_true
      rw [List.find?_cons_of_neg hnot] at h ⊢
      rw [List.filter_cons]
      split
      · rw [List.find?_cons_of_neg hnot, ih h]
      · exact ih h

/-- The largest of some counts. -/
def peak (counts : List (String × Nat)) : Nat := ((largest? counts).map Prod.snd).getD 0

theorem largest?_concat (counts : List (String × Nat)) (last : String × Nat) :
    largest? (counts ++ [last]) = if peak counts < last.2 then some last else largest? counts :=
  List.foldl_append

theorem peak_concat (counts : List (String × Nat)) (last : String × Nat) :
    peak (counts ++ [last]) = max (peak counts) last.2 := by
  rw [peak, largest?_concat]
  split
  next h => exact (Nat.max_eq_right (Nat.le_of_lt h)).symm
  next h => exact (Nat.max_eq_left (Nat.le_of_not_lt h)).symm

theorem peak_filter_le (q : String × Nat → Bool) (counts : List (String × Nat)) :
    peak (counts.filter q) ≤ peak counts := by
  induction counts using List.reverseRecOn with
  | nil => exact Nat.le_refl _
  | append_singleton counts last ih =>
    rw [List.filter_append, List.filter_cons, List.filter_nil, peak_concat]
    split
    · rw [peak_concat]
      omega
    · rw [List.append_nil]
      exact Nat.le_trans ih (Nat.le_max_left _ _)

/-- **The first of the largest counts stays the first** if others are left out. -/
theorem largest?_filter {q : String × Nat → Bool} {counts : List (String × Nat)}
    (h : ∀ best ∈ largest? counts, q best = true) :
    largest? (counts.filter q) = largest? counts := by
  induction counts using List.reverseRecOn with
  | nil => rfl
  | append_singleton counts last ih =>
    rw [largest?_concat] at h ⊢
    rw [List.filter_append, List.filter_cons, List.filter_nil]
    by_cases hlast : peak counts < last.2
    · -- what was larger before may be gone, but nothing larger has come in
      rw [if_pos hlast] at h ⊢
      rw [if_pos (h last rfl), largest?_concat,
        if_pos (Nat.lt_of_le_of_lt (peak_filter_le q counts) hlast)]
    · rw [if_neg hlast] at h ⊢
      have hsame := ih h
      split
      · rw [largest?_concat, peak, hsame, ← peak, if_neg hlast]
      · rw [List.append_nil, hsame]

/-! ### Steady stages -/

/-- A stage that makes the same choice without a language, unless that is the one it chooses. -/
def Steady (stage : Detector → Option Detection) : Prop :=
  ∀ (d : Detector) (standing : List Standing), d.Follows standing → ∀ other : String,
    (∀ found ∈ stage d, found.language ≠ other) →
      (stage (d.without other)).map Detection.choice = (stage d).map Detection.choice

theorem steady_none : Steady fun _ => none := fun _ _ _ _ _ => rfl

theorem Steady.orElse {stage next : Detector → Option Detection} (hstage : Steady stage)
    (hnext : Steady next) : Steady fun d => stage d <|> next d := by
  intro d standing hd other hother
  have hfirst := hstage d standing hd other
  cases hchosen : stage d with
  | none =>
    simp only [hchosen] at hfirst hother ⊢
    have hnone : stage (d.without other) = none :=
      Option.map_eq_none_iff.mp (hfirst fun _ h => nomatch h)
    rw [hnone]
    exact hnext d standing hd other hother
  | some found =>
    simp only [hchosen] at hfirst hother ⊢
    obtain ⟨still, hstill, hchoice⟩ := Option.map_eq_some_iff.mp (hfirst hother)
    rw [hstill]
    exact congrArg some hchoice

/-- Steady stages that are asked one after another. -/
theorem steady_findSome? {α : Type} {stage : α → Detector → Option Detection}
    (h : ∀ a, Steady (stage a)) (xs : List α) :
    Steady fun d => xs.findSome? fun a => stage a d := by
  induction xs with
  | nil => exact steady_none
  | cons x rest ih =>
    have hboth := (h x).orElse ih
    intro d standing hd other
    have hcons : ∀ e : Detector, ((x :: rest).findSome? fun a => stage a e) =
        (stage x e <|> rest.findSome? fun a => stage a e) := by
      intro e
      rw [List.findSome?_cons]
      cases stage x e <;> rfl
    simp only [hcons]
    exact hboth d standing hd other

theorem Follows.list_without {d : Detector} {standing : List Standing} (h : d.Follows standing)
    (other : String) :
    (d.without other).list = d.list.filter fun profile => profile.name ≠ other := by
  rw [(h.without other).list_eq, h.list_eq, List.filter_map]
  rfl

theorem steady_first? (p : Profile → Bool) (confidence : Number.Binary) (method : DetectionMethod) :
    Steady fun d => d.first? p confidence method := by
  intro d standing hd other hother
  have hfind : ∀ profile ∈ d.list.find? p, decide (profile.name ≠ other) = true := fun _ hprofile =>
    decide_eq_true (hother _ (Option.mem_map_of_mem _ hprofile))
  simp only [first?, hd.list_without, find?_filter_eq hfind]

/-! ### The stages of detection -/

theorem steady_byExtension? (path : String) : Steady fun d => d.byExtension? path := by
  unfold byExtension?
  by_cases h : Path.suffix path = ""
  · simp only [if_pos h]
    exact steady_none
  · simp only [if_neg h]
    exact steady_findSome? (fun _ => steady_first? _ _ _) _

theorem steady_byMediaType? (types : List String) : Steady fun d => d.byMediaType? types :=
  steady_findSome? (fun _ => steady_first? _ _ _) types

/-- The table of patterns says what the standings say, so it can be left out of the argument. -/
theorem steady_byInterpreter? (text : List Char) : Steady fun d => d.byInterpreter? text := by
  intro d standing hd other hother
  have hfilter : (standing.filter fun s => s.name ≠ other).map Standing.inForce =
      (standing.map Standing.inForce).filter fun profile => profile.name ≠ other := by
    rw [List.filter_map]
    rfl
  simp only [hd.byInterpreter?_eq, (hd.without other).byInterpreter?_eq, basis_without,
    hfilter] at hother ⊢
  rw [find?_filter_eq fun profile hprofile => ?_]
  exact decide_eq_true (hother _ (Option.mem_map_of_mem _ hprofile))

theorem Follows.wordCounts_without {d : Detector} {standing : List Standing}
    (h : d.Follows standing) (other content : String) :
    (d.without other).wordCounts content =
      (d.wordCounts content).filter fun count => count.1 ≠ other := by
  simp only [wordCounts, h.list_without, List.filter_map, List.filter_filter]
  congr 2
  funext profile
  exact Bool.and_comm _ _

theorem map_choice_byWords? (d : Detector) (content : String) :
    (d.byWords? content).map Detection.choice =
      (largest? (d.wordCounts content)).map fun count => (count.1, .keywords) := by
  rw [byWords?]
  cases largest? (d.wordCounts content) <;> rfl

theorem steady_byWords? (content : String) : Steady fun d => d.byWords? content := by
  intro d standing hd other hother
  have hbest : ∀ best ∈ largest? (d.wordCounts content), decide (best.1 ≠ other) = true := by
    intro best hbest
    have hchoice := map_choice_byWords? d content
    rw [hbest, Option.map_some] at hchoice
    obtain ⟨found, hfound, heq⟩ := Option.map_eq_some_iff.mp hchoice
    rw [← (Prod.mk.inj heq).1]
    exact decide_eq_true (hother found hfound)
  simp only [map_choice_byWords?, hd.wordCounts_without, largest?_filter hbest]

theorem steady_byContent? (content : String) : Steady fun d => d.byContent? content := by
  unfold byContent?
  split
  · exact steady_none
  · refine Steady.orElse ?_ (steady_byWords? content)
    split
    · exact steady_byInterpreter? _
    · exact steady_none

/-- **Detection is steady.** -/
theorem steady_detectWith (path : String) (types : List String) (content : Option String) :
    Steady fun d => d.detectWith path types content := by
  refine (steady_byExtension? path).orElse ((steady_byMediaType? types).orElse ?_)
  cases content with
  | none => exact steady_none
  | some content => exact steady_byContent? content

/-! ### Detection after a history -/

/-- The profiles in force are readable, and they are the registered ones if those are readable. -/
theorem Follows.inForce {d : Detector} {standing : List Standing} (h : d.Follows standing) :
    (∀ p ∈ standing.map Standing.inForce, d.basis.reads p.shebang = true) ∧
      ((∀ p ∈ d.list, d.basis.reads p.shebang = true) →
        standing.map Standing.inForce = d.list) := by
  rw [h.list_eq]
  refine ⟨fun p hp => ?_, fun hreads => List.map_congr_left fun s hs => ?_⟩
  · obtain ⟨s, hs, rfl⟩ := List.mem_map.mp hp
    exact (h.sound s hs).reads
  · rw [Standing.inForce, (h.sound s hs).own (hreads _ (List.mem_map_of_mem hs))]

/-- A detector detects what a new one with its profiles in force detects. -/
theorem Follows.exists_ofProfiles {d : Detector} {standing : List Standing}
    (h : d.Follows standing) :
    ∃ fresh, ofProfiles d.basis (standing.map Standing.inForce) = .ok fresh ∧
      d.detect = fresh.detect := by
  have hreads := h.inForce.1
  have hnames : ((standing.map Standing.inForce).map Profile.name).Nodup := by
    rw [List.map_map]
    exact h.nodup_names
  refine ⟨_, ofProfiles_eq_ok_iff.mpr ⟨hreads, rfl⟩, ?_⟩
  obtain ⟨hbasis, hfresh⟩ := (follows_empty d.basis).afterAll
    ((standing.map Standing.inForce).map .register)
  have hstandings := standings_register hnames hreads
  rw [standings] at hstandings
  rw [hstandings] at hfresh
  have hdetect := h.detectWith_congr hfresh hbasis.symm
    (by rw [List.map_map, List.map_map]; rfl)
  funext path content
  rw [detect, detect, hdetect, hbasis]

/-- **Detection depends on the profiles in force, and on the chosen one.** After any history, a
detector that was built has the profiles that the history leaves. It detects what a new one with the
profiles in force detects. It detects what a new one with its own profiles detects, whenever there
is one, which is if the patterns of all of them can be read. If it detects a language, it detects
the same by the same method when any other language is removed. -/
theorem detect_history {basis : Basis} {start : List Profile} {built : Detector}
    (hbuilt : ofProfiles basis start = .ok built) (history : List Request) (path : String)
    (content : Option String) :
    let d := built.afterAll history
    let requests := start.map .register ++ history
    let left := registered requests
    let inForce := (standings basis requests).map Standing.inForce
    d.list = left ∧
      (∃ fresh, ofProfiles basis inForce = .ok fresh ∧
        d.detect path content = fresh.detect path content) ∧
      (∀ fresh, ofProfiles basis left = .ok fresh →
        d.detect path content = fresh.detect path content) ∧
      ((∃ fresh, ofProfiles basis left = .ok fresh) ↔
        ∀ p ∈ left, basis.reads p.shebang = true) ∧
      ∀ found, d.detect path content = some found → ∀ other ≠ found.language, ∃ confidence,
        (d.without other).detect path content =
          some ⟨found.language, confidence, found.method⟩ := by
  intro d requests left inForce
  obtain ⟨hbasis, hd⟩ : d.basis = basis ∧ d.Follows (standings basis requests) := by
    have hd : d = ({ basis } : Detector).afterAll requests := by
      rw [afterAll, List.foldl_append]
      exact congrArg (afterAll · history) (ofProfiles_eq_ok_iff.mp hbuilt).2
    rw [hd]
    exact (follows_empty basis).afterAll requests
  have hlist : d.list = left := by
    rw [hd.list_eq]
    exact map_profile_foldl_standings basis requests []
  obtain ⟨fresh, hfresh, hdetect⟩ := hd.exists_ofProfiles
  rw [hbasis] at hfresh
  refine ⟨hlist, ⟨fresh, hfresh, by rw [hdetect]⟩, fun other hother => ?_, ?_, ?_⟩
  · have hreads := (ofProfiles_eq_ok_iff.mp hother).1
    have hsame : inForce = left := by
      rw [← hlist]
      exact hd.inForce.2 (by rwa [hlist, hbasis])
    have hinForce : ofProfiles basis inForce = .ok other := by rw [hsame, hother]
    rw [hdetect, Except.ok.inj (hfresh.symm.trans hinForce)]
  · exact ⟨fun ⟨_, hleft⟩ => (ofProfiles_eq_ok_iff.mp hleft).1,
      fun hreads => ⟨_, ofProfiles_eq_ok_iff.mpr ⟨hreads, rfl⟩⟩⟩
  · intro found hfound other hother
    have hchoice : ((d.without other).detect path content).map Detection.choice =
        (d.detect path content).map Detection.choice := by
      rw [detect, basis_without]
      exact steady_detectWith path _ content d _ hd other
        fun _ h => Option.some.inj (hfound.symm.trans h) ▸ hother.symm
    rw [hfound] at hchoice
    obtain ⟨⟨language, confidence, method⟩, hstill, heq⟩ := Option.map_eq_some_iff.mp hchoice
    obtain ⟨rfl, rfl⟩ := Prod.mk.inj heq
    exact ⟨confidence, hstill⟩

/-- A profile with an unreadable pattern replaces one that the first line names. -/
theorem detect_history_unreadable :
    let basis : Basis := .standard fun _ => []
    let start : List Profile :=
      [{ name := "ruby", shebang := some "^#!.*\\bruby\\b" },
       { name := "crystal", keywords := ["puts"] }]
    let history : List Request :=
      [.register { name := "ruby", shebang := some "(" }, .unregister "go"]
    let found : Detection := ⟨"ruby", .ofRatio 85 100, .shebang⟩
    let content := some "#!ruby\nputs"
    ∃ built, ofProfiles basis start = .ok built ∧
      (built.afterAll history).detect "run" content = some found ∧ "crystal" ≠ found.language ∧
      ∃ confidence, ((built.afterAll history).without "crystal").detect "run" content =
        some ⟨"ruby", confidence, .shebang⟩ := by
  intro basis start history found content
  let built := ({ basis } : Detector).afterAll (start.map .register)
  have hbuilt : ofProfiles basis start = .ok built :=
    ofProfiles_eq_ok_iff.mpr ⟨by decide, rfl⟩
  have hfound : (built.afterAll history).detect "run" content = some found := by decide
  have hother : "crystal" ≠ found.language := by decide
  exact ⟨built, hbuilt, hfound, hother,
    (detect_history hbuilt history "run" content).2.2.2.2 found hfound "crystal" hother⟩

/-- **A pattern can outlast its profile.** A profile whose pattern cannot be read is registered
in the place of another. The first line is then still recognised by the pattern that was
replaced, although no new detector has this profile, and one with the same profile and no
pattern recognises nothing. -/
theorem replaced_pattern_detects :
    let basis : Basis := .standard fun _ => []
    let old : Profile := { name := "ruby", shebang := some "^#!.*\\bruby\\b" }
    let new : Profile := { name := "ruby", shebang := some "(", keywords := ["puts"] }
    let content := some "#!/usr/bin/ruby\n"
    ∃ built, ofProfiles basis [old] = .ok built ∧
      (built.register new).1 = .error "missing ), unterminated subpattern at position 0" ∧
      (built.register new).2.list = [new] ∧
      (built.register new).2.detect "run" content = some ⟨"ruby", .ofRatio 85 100, .shebang⟩ ∧
      (∀ fresh, ofProfiles basis [new] ≠ .ok fresh) ∧
      ∃ fresh, ofProfiles basis [{ new with shebang := none }] = .ok fresh ∧
        fresh.detect "run" content = none := by
  intro basis old new content
  refine ⟨_, ofProfiles_eq_ok_iff.mpr ⟨by decide, rfl⟩, by decide, by decide, by decide, ?_,
    _, ofProfiles_eq_ok_iff.mpr ⟨by decide, rfl⟩, by decide⟩
  intro fresh hfresh
  exact absurd ((ofProfiles_eq_ok_iff.mp hfresh).1 new List.mem_cons_self) (by decide)

end Detector

end SourceMetrics
