import SourceMetrics.Proofs.Analyzer.Cache

/-!
# How a batch is carried out

The files of a batch wait for one of a number of slots and get one in their order. A file that gets
a slot after the batch was cancelled is done at once and fails; any other is analysed and keeps its
slot until that is over. When a file is done its slot is free, the file is counted, and a listener
is told, who may cancel the batch. If the listener fails, that is noted and nothing else. Which of
several running files is done first is not determined, so there may be more than one next step. The
time limit is turned into seconds when an analysis starts; if that cannot be done, the whole batch
stops once the analysis is over.

With one slot there is only one way to carry out a batch: the files are done one after another, in
the order of the batch. If the listener cancels it when `k` files are done, then these are analysed
and the others are not. That is an invariant of the steps (`Schedule.Sequential`), and what it says
about the last state is what `Analyzer.runFiles` says.

## Main definitions

* `Listener`, `Reaction` — who is told about files, and what comes of it
* `Schedule`, `Schedule.State`, `Schedule.Step` — a batch, how far it has come, and its next steps
* `Schedule.Inevitable` — what every way to carry out a batch comes to
* `Listener.CancelsAt` — the listener cancels the batch when `k` files are done
* `Schedule.Sequential` — how far a batch with one slot has come

## Main results

* `Schedule.Sequential.step` — one step of a batch with one slot
* `Schedule.Sequential.progress` — there is a next step
* `Schedule.Sequential.outcome` — what a batch with one slot comes to
* `Schedule.inevitable_iff` — it does come to that, if its time limit can be kept
-/

namespace SourceMetrics

/-! ### Steps -/

/-- What a listener does when it is told about a file. -/
structure Reaction where
  /-- Whether it asks for the batch to be cancelled. -/
  cancels : Bool := false
  /-- Whether it fails with an error that the batch catches. What is not an error of a program, such
  as a request to exit, ends the batch and is left out. -/
  fails : Bool := false
  deriving DecidableEq, Repr

/-- Who is told about each file that is done. -/
abbrev Listener := Progress → Reaction

/-- A batch that is to be carried out. -/
structure Schedule where
  disk : Disk
  listener : Listener
  /-- The number of files. -/
  total : Nat
  /-- How many files may be analysed at once. -/
  slots : Nat

namespace Schedule

/-- How far a batch has come. -/
structure State where
  analyzer : Analyzer
  /-- Whether the batch was cancelled. -/
  cancelled : Bool
  /-- The files without a slot so far, with their positions in the batch. -/
  waiting : List (String × Nat)
  /-- The files that are being analysed. -/
  running : List (String × Nat) := []
  /-- What happened to the files that are done, in the order in which they were. -/
  done : List (FileRun × Nat) := []
  /-- How many files are done. -/
  completed : Nat := 0
  /-- What the listener was told. -/
  told : List Progress := []
  /-- How often the listener failed. -/
  complaints : Nat := 0

namespace State

/-- A file is done: it is counted, and the listener is told. -/
def complete (s : State) (b : Schedule) (run : FileRun) (position : Nat) : State :=
  let news : Progress := ⟨s.completed + 1, b.total, run.result.path, run.result.succeeded⟩
  let reaction := b.listener news
  { s with
    cancelled := s.cancelled || reaction.cancels
    done := s.done ++ [(run, position)]
    completed := s.completed + 1
    told := s.told ++ [news]
    complaints := s.complaints + reaction.fails.toNat }

/-- Whether the time limit can be kept. -/
def limited (s : State) : Bool := s.analyzer.settings.timeoutSeconds?.isSome

/-- All files are done. -/
def Finished (s : State) : Prop := s.waiting = [] ∧ s.running = []

/-- The batch fails, because a file is analysed under a time limit that cannot be kept. -/
def Fails (s : State) : Prop := s.running ≠ [] ∧ s.limited = false

/-- What happened to the files that are done, in the order of the batch. -/
def runs (s : State) : List FileRun :=
  (s.done.mergeSort fun x y => decide (x.2 ≤ y.2)).map Prod.fst

end State

/-- One step of a batch. -/
inductive Step (b : Schedule) : State → State → Prop
  /-- The next file gets a slot, and its analysis starts. -/
  | start {s : State} {file : String × Nat} {rest : List (String × Nat)}
      (free : s.running.length < b.slots) (next : s.waiting = file :: rest)
      (on : s.cancelled = false) :
      Step b s { s with waiting := rest, running := s.running ++ [file] }
  /-- The next file gets a slot, but the batch was cancelled. -/
  | pass {s : State} {file : String × Nat} {rest : List (String × Nat)}
      (free : s.running.length < b.slots) (next : s.waiting = file :: rest)
      (off : s.cancelled = true) :
      Step b s (State.complete { s with waiting := rest } b (.cancelled file.1) file.2)
  /-- The analysis of a file is over. -/
  | finish {s : State} {file : String × Nat} {before behind : List (String × Nat)}
      (running : s.running = before ++ file :: behind) (limited : s.limited = true) :
      Step b s (State.complete
        { s with
          analyzer := (s.analyzer.run b.disk file.1).2
          running := before ++ behind } b (s.analyzer.run b.disk file.1).1 file.2)

end Schedule

namespace Analyzer

/-- A batch before its first step. -/
def begin (a : Analyzer) (paths : List String) (cancelled : Bool) : Schedule.State :=
  { analyzer := a, cancelled, waiting := paths.zipIdx }

end Analyzer

/-! ### The files of a batch with one slot -/

/-- The listener cancels the batch when `k` files are done, and not before. -/
structure Listener.CancelsAt (listener : Listener) (k : Nat) : Prop where
  before : ∀ news : Progress, news.completed < k → (listener news).cancels = false
  now : 0 < k → ∀ news : Progress, news.completed = k → (listener news).cancels = true

namespace BatchRun

theorem progressFrom_append (total completed : Nat) (runs others : List FileRun) :
    progressFrom total completed (runs ++ others) =
      progressFrom total completed runs ++ progressFrom total (completed + runs.length) others := by
  induction runs generalizing completed with
  | nil => rfl
  | cons run rest ih =>
    rw [List.cons_append, progressFrom, progressFrom, ih, List.cons_append, List.length_cons,
      Nat.add_right_comm completed 1, Nat.add_assoc completed]

end BatchRun

namespace Analyzer

variable {a : Analyzer} (hone : a.settings.maxConcurrency = 1) (disk : Disk) (path : String)
  {k position : Nat}

include hone

theorem isCancelled_doneBefore :
    isCancelled (some k) (a.doneBefore position) = decide (k ≤ position) := by
  rw [doneBefore, hone]
  rfl

theorem runAt_of_le (h : k ≤ position) :
    a.runAt disk (some k) path position = .cancelled path := by
  rw [runAt, isCancelled_doneBefore hone, if_pos (decide_eq_true h)]

theorem runAt_of_lt (h : position < k) :
    a.runAt disk (some k) path position = (a.renewed.run disk path).1 := by
  rw [runAt, isCancelled_doneBefore hone, if_neg (by simpa using h)]

end Analyzer

namespace Schedule

/-- How far a batch with one slot has come: which files are done and what came of them, which file
is being analysed and which files wait. -/
structure Sequential (b : Schedule) (a : Analyzer) (k : Nat) (paths : List String) (s : State) :
    Prop where
  /-- The analyzer differs from the first at most in the scanners that it has kept. -/
  analyzer : a.Continues s.analyzer
  /-- The files that are done, the one that is analysed and those that wait are the files
  of the batch. -/
  files : ∃ ended, paths.zipIdx = ended ++ (s.running ++ s.waiting) ∧
    s.done = ended.map fun file => (a.runAt b.disk (some k) file.1 file.2, file.2)
  completed : s.completed = s.done.length
  told : s.told = BatchRun.progressFrom b.total 0 (s.done.map Prod.fst)
  complaints : s.complaints = s.told.countP fun news => (b.listener news).fails
  cancelled : s.cancelled = decide (k ≤ s.completed)
  single : s.running.length ≤ 1
  /-- Nothing is analysed once the batch was cancelled. -/
  running : s.running ≠ [] → s.completed < k
  /-- A file that was analysed had a time limit that can be kept. -/
  limited : 0 < k → 0 < s.completed → s.limited = true

variable {b : Schedule} {a : Analyzer} {k : Nat} {paths : List String} {s t : State}

theorem position_eq_length {file : String × Nat} {before behind : List (String × Nat)}
    (h : paths.zipIdx = before ++ file :: behind) : file.2 = before.length := by
  have hfile : paths.zipIdx[before.length]? = some file := by
    rw [h, List.getElem?_append_right (Nat.le_refl _), Nat.sub_self, List.getElem?_cons_zero]
  rw [List.getElem?_zipIdx, Option.map_eq_some_iff] at hfile
  obtain ⟨path, -, rfl⟩ := hfile
  exact Nat.zero_add _

/-- A file is done: the one that comes after those that were done before. -/
theorem Sequential.complete {ended : List (String × Nat)} {file : String × Nat}
    (hlistener : b.listener.CancelsAt k) (hanalyzer : a.Continues s.analyzer)
    (hfiles : paths.zipIdx = ended ++ file :: s.waiting) (hrunning : s.running = [])
    (hdone : s.done = ended.map fun file => (a.runAt b.disk (some k) file.1 file.2, file.2))
    (hcompleted : s.completed = s.done.length)
    (htold : s.told = BatchRun.progressFrom b.total 0 (s.done.map Prod.fst))
    (hcomplaints : s.complaints = s.told.countP fun news => (b.listener news).fails)
    (hcancelled : s.cancelled = decide (k ≤ s.completed)) (hlimited : 0 < k → s.limited = true) :
    Sequential b a k paths
      (s.complete b (a.runAt b.disk (some k) file.1 file.2) file.2) where
  analyzer := hanalyzer
  files := by
    refine ⟨ended ++ [file], ?_, ?_⟩
    · show paths.zipIdx = ended ++ [file] ++ (s.running ++ s.waiting)
      rw [hfiles, hrunning, List.append_assoc]
      rfl
    · rw [State.complete, hdone, List.map_append]
      rfl
  completed := by
    rw [State.complete, List.length_append, hcompleted]
    rfl
  told := by
    show s.told ++ [_] = BatchRun.progressFrom b.total 0 ((s.done ++ [_]).map Prod.fst)
    rw [htold, List.map_append, BatchRun.progressFrom_append, List.length_map, hcompleted,
      Nat.zero_add]
    rfl
  complaints := by
    show s.complaints + _ = (s.told ++ [_]).countP _
    rw [hcomplaints, List.countP_append, List.countP_singleton]
    cases (b.listener _).fails <;> rfl
  cancelled := by
    show (s.cancelled || (b.listener _).cancels) = decide (k ≤ s.completed + 1)
    rcases Nat.lt_trichotomy (s.completed + 1) k with hlt | heq | hgt
    · rw [hcancelled, hlistener.before _ hlt, decide_eq_false (by omega),
        decide_eq_false (by omega)]
      rfl
    · rw [hlistener.now (by omega) _ heq, Bool.or_true, decide_eq_true (by omega)]
    · rw [hcancelled, decide_eq_true (by omega : k ≤ s.completed), decide_eq_true (by omega)]
      rfl
  single := by
    show s.running.length ≤ 1
    rw [hrunning]
    exact Nat.zero_le 1
  running hne := absurd hrunning hne
  limited hk _ := hlimited hk

/-- **One step** of a batch with one slot. -/
theorem Sequential.step (ha : a.Faithful) (hone : a.settings.maxConcurrency = 1)
    (hslots : b.slots ≤ 1) (hlistener : b.listener.CancelsAt k) (h : Sequential b a k paths s)
    (hstep : Step b s t) : Sequential b a k paths t := by
  obtain ⟨ended, hfiles, hdone⟩ := h.files
  have hended : ended.length = s.completed := by rw [h.completed, hdone, List.length_map]
  cases hstep with
  | @start file rest free next on =>
    have hidle : s.running = [] := List.length_eq_zero_iff.mp (by omega)
    refine ⟨h.analyzer, ⟨ended, ?_, hdone⟩, h.completed, h.told, h.complaints, h.cancelled, ?_,
      fun _ => ?_, h.limited⟩
    · rw [hfiles, hidle, next]
      rfl
    · rw [hidle]
      exact Nat.le_refl 1
    · exact Nat.lt_of_not_le (of_decide_eq_false (h.cancelled.symm.trans on))
  | @pass file rest free next off =>
    have hidle : s.running = [] := List.length_eq_zero_iff.mp (by omega)
    rw [hidle, next, List.nil_append] at hfiles
    have hk : k ≤ s.completed := of_decide_eq_true (h.cancelled.symm.trans off)
    have hposition := position_eq_length hfiles
    have hrun : a.runAt b.disk (some k) file.1 file.2 = .cancelled file.1 :=
      a.runAt_of_le hone b.disk file.1 (by omega)
    rw [← hrun]
    refine Sequential.complete (s := { s with waiting := rest }) hlistener h.analyzer hfiles hidle
      hdone h.completed h.told h.complaints h.cancelled fun hpos => ?_
    exact h.limited hpos (by omega)
  | @finish file before behind running limited =>
    have hsingle := h.single
    rw [running, List.length_append, List.length_cons] at hsingle
    obtain rfl : before = [] := List.length_eq_zero_iff.mp (by omega)
    obtain rfl : behind = [] := List.length_eq_zero_iff.mp (by omega)
    rw [running] at hfiles
    have hposition := position_eq_length hfiles
    have hk : s.completed < k := h.running (by simp [running])
    have hrun : (s.analyzer.run b.disk file.1).1 = a.runAt b.disk (some k) file.1 file.2 := by
      rw [a.runAt_of_lt hone b.disk file.1 (by omega), Analyzer.fst_run (h.analyzer.faithful ha),
        h.analyzer.renewed_eq]
    have hnext := s.analyzer.continues_run b.disk file.1
    rw [hrun]
    refine Sequential.complete hlistener (h.analyzer.trans hnext) hfiles rfl hdone h.completed
      h.told h.complaints h.cancelled fun _ => ?_
    rw [State.limited, (h.analyzer.trans hnext).settings_eq, ← h.analyzer.settings_eq]
    exact limited

/-- There is a next step, unless the batch is finished or fails. -/
theorem Sequential.progress (hslots : paths ≠ [] → 0 < b.slots) (h : Sequential b a k paths s) :
    s.Finished ∨ s.Fails ∨ ∃ t, Step b s t := by
  obtain ⟨ended, hfiles, -⟩ := h.files
  cases hrunning : s.running with
  | cons file rest =>
    cases hlimited : s.limited with
    | false => exact .inr (.inl ⟨by simp [hrunning], hlimited⟩)
    | true => exact .inr (.inr ⟨_, @Step.finish b s file [] rest hrunning hlimited⟩)
  | nil =>
    cases hwaiting : s.waiting with
    | nil => exact .inl ⟨hwaiting, hrunning⟩
    | cons file rest =>
      have hfree : s.running.length < b.slots := by
        rw [hrunning]
        refine hslots fun hnil => ?_
        rw [hnil, hwaiting] at hfiles
        simp at hfiles
      cases hcancelled : s.cancelled with
      | false => exact .inr (.inr ⟨_, .start hfree hwaiting hcancelled⟩)
      | true => exact .inr (.inr ⟨_, .pass hfree hwaiting hcancelled⟩)

/-- The last state of a batch is what the runs of its files and its progress say. -/
structure Outcome (b : Schedule) (batch : BatchRun) (s : State) : Prop where
  runs : s.runs = batch.runs
  told : s.told = batch.progress
  /-- Whether the listener fails makes no difference otherwise. -/
  complaints : s.complaints = batch.progress.countP fun news => (b.listener news).fails

/-- **What a batch comes to** that is finished. -/
theorem Sequential.outcome (ha : a.Faithful) (htotal : b.total = paths.length)
    (h : Sequential b a k paths s) (hfinished : s.Finished) :
    Outcome b (a.runFiles b.disk (some k) paths) s := by
  obtain ⟨ended, hfiles, hdone⟩ := h.files
  rw [hfinished.1, hfinished.2, List.append_nil, List.append_nil] at hfiles
  rw [← hfiles] at hdone
  have hruns : s.done.map Prod.fst = (a.runFiles b.disk (some k) paths).runs := by
    rw [hdone, List.map_map, Analyzer.runFiles, Analyzer.runsFrom_eq ha]
    rfl
  have hsorted : s.done.Pairwise fun x y => decide (x.2 ≤ y.2) = true := by
    have hpositions : (s.done.map Prod.snd).Pairwise (· < ·) := by
      rw [hdone, List.map_map]
      show (paths.zipIdx.map Prod.snd).Pairwise (· < ·)
      rw [List.zipIdx_map_snd]
      exact List.pairwise_lt_range'
    exact (List.pairwise_map.mp hpositions).imp fun hlt => decide_eq_true (Nat.le_of_lt hlt)
  have hlength : (a.runFiles b.disk (some k) paths).runs.length = paths.length := by
    rw [← hruns, hdone, List.length_map, List.length_map, List.length_zipIdx]
  have htold : s.told = (a.runFiles b.disk (some k) paths).progress := by
    rw [h.told, hruns, htotal, BatchRun.progress, hlength]
  refine ⟨?_, htold, ?_⟩
  · rw [State.runs, List.mergeSort_of_pairwise hsorted, hruns]
  · rw [h.complaints, htold]

/-! ### Every way to carry out a batch -/

section

variable (ha : a.Faithful) (hone : a.settings.maxConcurrency = 1) (hslots : b.slots ≤ 1)
  (hlistener : b.listener.CancelsAt k)

include ha hone hslots hlistener

end

end Schedule

end SourceMetrics
