import Telemetry.Proofs.StackTrace.Rendering

/-!
# Reading a backtrace up to a limit

A backtrace is read line by line. What is known between two lines is which frames were kept, and
whether the frame line before was one of the agent. A location changes the frame that was kept last,
and the reading does not stop at the last frame that is wanted: it stops at the first one that is
not wanted any more, so that the locations before it still count.

So a limit takes frames away from the end, and does nothing to those that are left, whatever the
text is.

## Main definitions

* `Backtrace.Reading`, `Backtrace.Reading.step`, `Backtrace.Reading.run`: reading line by line.
* `Backtrace.wanted`: the frames that lines tell of, without those of the agent.
* `Backtrace.Reading.outcome`: what is kept in the end, given the lines that are still to be read.

## Main results

* `Backtrace.Reading.outcome_of_step`: a step keeps the outcome.
* `Backtrace.readByLine_eq_frames`: what is read line by line.
* `Backtrace.frames_truncate`: a limit only truncates.
-/

namespace Telemetry

open Text

namespace Backtrace

variable {function place : List Char} {l : List Line} {line : Line} {limit : Nat}

/-! ### Reading line by line -/

/-- What is known between two lines: the frames that were kept, the latest of them first, and
whether the frame line before was one of the agent. -/
structure Reading where
  kept : List Frame
  skipping : Bool

namespace Reading

/-- The state before the first line. -/
def start : Reading := ⟨[], false⟩

/-- Reads one more line; nothing is read from the first frame on that is past the limit. -/
def step (limit : Nat) (r : Reading) : Line → Option Reading
  | .location place =>
    if r.skipping then some r
    else some { r with kept := r.kept.modifyHead (locate · place) }
  | .other => some r
  | .frame function =>
    if beginsWithAny agentFunctions function then some { r with skipping := true }
    else if r.kept.length = limit then none
    else some ⟨toFrame function [] :: r.kept, false⟩

/-- Reads line by line until there is no need to go on. -/
def run (limit : Nat) (r : Reading) : List Line → Reading
  | [] => r
  | line :: rest =>
    match r.step limit line with
    | some next => next.run limit rest
    | none => r

end Reading

/-- The frames of a text as far as they are kept, read line by line. -/
def readByLine (text : String) (limit : Nat) : List Frame :=
  (Reading.start.run limit ((lines text.toList).map readLine)).kept.reverse

/-! ### What lines tell of -/

/-- The frames that lines tell of, without those of the agent. -/
def wanted (l : List Line) : List Frame :=
  ((group l).filter fun g => !beginsWithAny agentFunctions g.1).map fun g => toFrame g.1 g.2

theorem frames_eq_take_wanted (text : String) (limit : Nat) :
    frames text limit = (wanted ((lines text.toList).map readLine)).take limit := by
  rw [wanted, ← List.map_take]
  rfl

theorem wanted_frame_cons_of_agent (h : beginsWithAny agentFunctions function = true) :
    wanted (.frame function :: l) = wanted l := by
  rw [wanted, group_frame_cons, List.filter_cons_of_neg (by simp [h]), wanted]

theorem wanted_frame_cons (h : ¬ beginsWithAny agentFunctions function = true) :
    wanted (.frame function :: l) = toFrame function (leading l) :: wanted l := by
  rw [wanted, group_frame_cons, List.filter_cons_of_pos (by simp [h]), List.map_cons, wanted]

/-- A frame keeps its function, wherever it is. -/
theorem function_foldl_locate (f : Frame) (places : List (List Char)) :
    (places.foldl locate f).function = f.function := by
  induction places generalizing f with
  | nil => rfl
  | cons place rest ih => exact ih (locate f place)

theorem function_toFrame (function : List Char) (places : List (List Char)) :
    (toFrame function places).function = String.ofList function :=
  function_foldl_locate _ places

/-- No function that is wanted is one of the agent. -/
theorem not_prefix_of_mem_wanted {f : Frame} (h : f ∈ wanted l) {s : String}
    (hs : s ∈ agentFunctions) : ¬ s.toList <+: f.function.toList := by
  obtain ⟨g, hg, rfl⟩ := List.mem_map.mp h
  have hagent : beginsWithAny agentFunctions g.1 = false := by
    simpa using (List.mem_filter.mp hg).2
  rw [function_toFrame, String.toList_ofList]
  rw [beginsWithAny_eq, decide_eq_false_iff_not] at hagent
  exact fun hprefix => hagent ⟨s, hs, hprefix⟩

/-! ### What is kept in the end -/

namespace Reading

variable {r next : Reading}

/-- The frames that were kept, the last of them with the locations that are still to be read. If
these are locations of the agent then they do not count. -/
def settled (r : Reading) (l : List Line) : List Frame :=
  if r.skipping then r.kept else r.kept.modifyHead fun f => (leading l).foldl locate f

/-- What is kept in the end: what was kept until now, and as much of the rest as there is room
for. -/
def outcome (limit : Nat) (r : Reading) (l : List Line) : List Frame :=
  (r.settled l).reverse ++ (wanted l).take (limit - r.kept.length)

/-- There are no locations to be read before the next frame line. -/
theorem settled_of_leading (h : leading l = []) : r.settled l = r.kept := by
  rw [settled, h]
  split
  · rfl
  · cases r.kept <;> rfl

/-- **A step keeps the outcome**, and there is room for what is kept. -/
theorem outcome_of_step (hroom : r.kept.length ≤ limit) (h : r.step limit line = some next)
    (l : List Line) :
    next.kept.length ≤ limit ∧ next.outcome limit l = r.outcome limit (line :: l) := by
  cases line with
  | other =>
    obtain rfl := Option.some.inj h
    exact ⟨hroom, rfl⟩
  | location place =>
    by_cases hskip : r.skipping = true
    · obtain rfl := Option.some.inj ((if_pos hskip).symm.trans h)
      refine ⟨hroom, ?_⟩
      simp only [outcome, settled, hskip, if_true]
      rfl
    · obtain rfl := Option.some.inj ((if_neg hskip).symm.trans h)
      refine ⟨by simpa using hroom, ?_⟩
      simp only [outcome, settled, hskip, List.modifyHead_modifyHead, List.length_modifyHead]
      rfl
  | frame function =>
    have hnow : r.settled (.frame function :: l) = r.kept := settled_of_leading rfl
    by_cases hagent : beginsWithAny agentFunctions function = true
    · obtain rfl := Option.some.inj ((if_pos hagent).symm.trans h)
      refine ⟨hroom, ?_⟩
      rw [outcome, outcome, hnow, wanted_frame_cons_of_agent hagent]
      rfl
    · rw [step, if_neg hagent] at h
      split at h
      · cases h
      rename_i hfull
      obtain rfl := Option.some.inj h
      obtain ⟨room, hmore⟩ : ∃ room, limit - r.kept.length = room + 1 :=
        Nat.exists_eq_add_one.mpr (by omega)
      have hless : limit - (r.kept.length + 1) = room := by omega
      refine ⟨by simp only [List.length_cons]; omega, ?_⟩
      rw [outcome, outcome, hnow, wanted_frame_cons hagent, hmore, List.take_succ_cons,
        List.length_cons, hless]
      simp [settled, toFrame]

/-- Where the reading stops, nothing is to be kept that has not been kept already. -/
theorem outcome_of_stop (h : r.step limit line = none) (l : List Line) :
    r.outcome limit (line :: l) = r.kept.reverse := by
  cases line with
  | other => cases h
  | location place =>
    rw [step] at h
    split at h <;> cases h
  | frame function =>
    rw [step] at h
    split at h
    · cases h
    split at h
    · rename_i hfull
      rw [outcome, settled_of_leading rfl, hfull, Nat.sub_self, List.take_zero, List.append_nil]
    · cases h

/-- **A run keeps what is to be kept.** -/
theorem reverse_kept_run (hroom : r.kept.length ≤ limit) (l : List Line) :
    (r.run limit l).kept.reverse = r.outcome limit l := by
  induction l generalizing r with
  | nil =>
    rw [run, outcome, settled_of_leading rfl]
    simp [wanted, group]
  | cons line l ih =>
    rw [run]
    cases hstep : r.step limit line with
    | none => exact (outcome_of_stop hstep l).symm
    | some next =>
      obtain ⟨hnext, houtcome⟩ := outcome_of_step hroom hstep l
      exact (ih hnext).trans houtcome

end Reading

/-- Reading line by line, until there is no need to go on, yields the first of the frames. -/
theorem readByLine_eq_frames (text : String) (limit : Nat) :
    readByLine text limit = frames text limit := by
  rw [readByLine, Reading.reverse_kept_run (Nat.zero_le limit), frames_eq_take_wanted]
  rfl

/-- **A limit only truncates.** With a lower limit the first frames are the same as with a higher
one, with all that is known about them; there are no more than the limit, and none of them is one of
the agent. It makes no difference that the reading stops on the way. -/
theorem frames_truncate (text : String) {n m : Nat} (h : n ≤ m) :
    (∀ limit, readByLine text limit = frames text limit) ∧
      frames text n = (frames text m).take n ∧
      (frames text n).length ≤ n ∧
      ∀ f ∈ frames text n, ∀ s ∈ agentFunctions, ¬ s.toList <+: f.function.toList := by
  refine ⟨readByLine_eq_frames text, ?_, ?_, fun f hf s hs => ?_⟩
  · rw [frames_eq_take_wanted, frames_eq_take_wanted, List.take_take, Nat.min_eq_left h]
  · rw [frames_eq_take_wanted]
    exact List.length_take_le n _
  · rw [frames_eq_take_wanted] at hf
    exact not_prefix_of_mem_wanted (List.mem_of_mem_take hf) hs

/-- A backtrace with noise in it. The first frame has two places, of which the later one counts, and
the frame of the agent comes between it and the next one that is wanted. -/
def noisyBacktrace : String :=
  "stack:\n at ./lost.rs:1:1\n 0: app::run\n  at ./old.rs:1:2\n  [... 3 more ...]\r\n" ++
    "  at ./src/run.rs:42:9\n 1: apm_agent::end\n  at ./end.rs:5:2\n 2: main\n 3: _start"

theorem frames_truncate_noisyBacktrace :
    (1 ≤ 3) ∧ frames noisyBacktrace 1 = (frames noisyBacktrace 3).take 1 ∧
      readByLine noisyBacktrace 1 =
        [{ function := "app::run", filename := some "run.rs", absPath := some "./src/run.rs",
           line := some 42, library := false }] ∧
      (frames noisyBacktrace 3).map (·.function) = ["app::run", "main", "_start"] := by
  have hlimit : 1 ≤ 3 := by decide
  have hall : frames noisyBacktrace 3 =
      [⟨"app::run", some "run.rs", some "./src/run.rs", some 42, false⟩,
        ⟨"main", none, none, none, false⟩, ⟨"_start", none, none, none, true⟩] := by
    decide +kernel
  obtain ⟨hsame, htake, -, -⟩ := frames_truncate noisyBacktrace hlimit
  refine ⟨hlimit, htake, ?_, ?_⟩
  · rw [hsame, htake, hall, List.take_succ_cons, List.take_zero]
  · rw [hall, List.map_cons, List.map_cons, List.map_cons, List.map_nil]

end Backtrace

end Telemetry
