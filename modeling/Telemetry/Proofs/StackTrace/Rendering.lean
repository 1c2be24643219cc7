import Mathlib.Data.List.Forall2
import Telemetry.Proofs.Text.Lines
import Telemetry.StackTrace

/-!
# Reading a rendered backtrace

A backtrace is rendered with a line for each frame, which has its number and its function, and a
line for the place of a frame where one is known. There is white space before either, as the writer
likes. Reading such a text gives the frames back, each with its own place and with no other one.

What a text tells is told by its lines one by one, and of these by the ones that name a function or
a place. White space before a line changes nothing, even if it has ends of line in it.

## Main definitions

* `Backtrace.Place`, `Backtrace.Entry`: a frame to be rendered, and where it is.
* `Backtrace.render`: the text.
* `Backtrace.Entry.frame`: the frame that is to be read.

## Main results

* `Backtrace.told_append`: white space tells nothing.
* `Backtrace.group_flatMap_told`: every location goes to the frame before it.
* `Backtrace.frames_render`: the frames of a rendered backtrace.
-/

namespace Telemetry

open Text

namespace Backtrace

variable {a s : List Char} {c : Char} {l : List Line}

/-! ### What a text tells -/

/-- The lines that name a function or a place, and what they name. -/
def told (s : List Char) : List Line :=
  ((lines s).map readLine).filter (· ≠ .other)

theorem readLine_append (ha : AllBlank a) (s : List Char) : readLine (a ++ s) = readLine s := by
  simp only [readLine, trimStart_append ha]

theorem readLine_of_allBlank (ha : AllBlank a) : readLine a = .other := by
  have hempty := readLine_append ha []
  rwa [List.append_nil] at hempty

/-- A line that is ended, and the rest of the text by itself. -/
theorem told_append_cons (ha : '\n' ∉ a) (s : List Char) :
    told (a ++ '\n' :: s) = [readLine (chomp a)].filter (· ≠ .other) ++ told s := by
  rw [told, lines_append_cons ha, List.map_cons, ← List.singleton_append, List.filter_append, told]

/-- The last line need not be ended. -/
theorem told_of_not_mem (ha : '\n' ∉ a) : told a = [readLine a].filter (· ≠ .other) := by
  rw [told, lines_of_not_mem ha]
  split
  · rename_i hempty
    subst hempty
    rfl
  · rfl

theorem told_cons (hc : isBlank c = true) (s : List Char) : told (c :: s) = told s := by
  by_cases hnewline : c = '\n'
  · subst hnewline
    exact told_append_cons (a := []) List.not_mem_nil s
  have hblank : AllBlank [c] := by simpa [AllBlank] using hc
  have hread : ∀ l, readLine (c :: l) = readLine l := readLine_append hblank
  have hcons : ∀ {l : List Char}, '\n' ∉ l → '\n' ∉ c :: l := fun hl h =>
    (List.mem_cons.mp h).elim (fun heq => hnewline heq.symm) hl
  by_cases hs : '\n' ∈ s
  · obtain ⟨a, rest, rfl, ha⟩ := List.eq_append_cons_of_mem hs
    -- A carriage return that was the whole line may be white space before the line now.
    have hfirst : readLine (chomp (c :: a)) = readLine (chomp a) := by
      cases a with
      | nil =>
        have hempty : AllBlank (chomp [c]) := fun d hd => hblank d (chomp_subset [c] hd)
        exact readLine_of_allBlank hempty
      | cons d a => rw [chomp_cons (List.cons_ne_nil d a), hread]
    rw [← List.cons_append, told_append_cons (hcons ha), told_append_cons ha, hfirst]
  · rw [told_of_not_mem (hcons hs), told_of_not_mem hs, hread]

/-- **White space tells nothing**, whether there are ends of line in it or not. -/
theorem told_append (ha : AllBlank a) (s : List Char) : told (a ++ s) = told s := by
  induction a with
  | nil => rfl
  | cons c a ih =>
    rw [List.cons_append, told_cons (ha c List.mem_cons_self),
      ih fun d hd => ha d (List.mem_cons_of_mem c hd)]

/-! ### Which location belongs to which frame -/

/-- The locations before the next frame line. -/
def leading : List Line → List (List Char)
  | .location place :: rest => place :: leading rest
  | .other :: rest => leading rest
  | _ => []

theorem group_frame_cons (function : List Char) (l : List Line) :
    group (.frame function :: l) = (function, leading l) :: group l := by
  induction l with
  | nil => rfl
  | cons line l ih =>
    cases line with
    | frame => rfl
    | location place =>
      have hplaces := congrArg Prod.snd (List.cons.inj ih).1
      exact congrArg (fun places => (function, place :: places) :: group l) hplaces
    | other => exact ih

theorem leading_filter (l : List Line) : leading (l.filter (· ≠ .other)) = leading l := by
  induction l with
  | nil => rfl
  | cons line l ih =>
    cases line with
    | frame => rfl
    | location place => exact congrArg (place :: ·) ih
    | other => exact ih

/-- Lines that name nothing may be left out. -/
theorem group_filter (l : List Line) : group (l.filter (· ≠ .other)) = group l := by
  induction l with
  | nil => rfl
  | cons line l ih =>
    cases line with
    | frame function =>
      have hfilter : (Line.frame function :: l).filter (· ≠ .other) =
          .frame function :: l.filter (· ≠ .other) := rfl
      rw [hfilter, group_frame_cons, group_frame_cons, leading_filter, ih]
    | location place => exact ih
    | other => exact ih

/-! ### What is rendered -/

/-- A place in a source file, and the white space that is put before it. -/
structure Place where
  indent : List Char
  path : List Char
  line : UInt32
  column : Nat
  indent_blank : AllBlank indent
  newline_not_mem_path : '\n' ∉ path

/-- A frame as it is rendered: its number and its function, and its place where that is known. -/
structure Entry where
  indent : List Char
  index : Nat
  function : List Char
  place : Option Place
  indent_blank : AllBlank indent
  trim_function : trim function = function
  newline_not_mem_function : '\n' ∉ function

namespace Place

/-- The place in one text. -/
def text (p : Place) : List Char :=
  p.path ++ ':' :: (Nat.toDigits 10 p.line.toNat ++ ':' :: Nat.toDigits 10 p.column)

/-- The line for a place, without the white space before it. -/
def row (p : Place) : List Char := "at ".toList ++ p.text

end Place

namespace Entry

/-- The line for a frame, without the white space before it. -/
def row (e : Entry) : List Char := Nat.toDigits 10 e.index ++ (": ".toList ++ e.function)

/-- The lines for a frame and its place. -/
def rows (e : Entry) : List (List Char) :=
  (e.indent ++ e.row) :: (e.place.map fun p => p.indent ++ p.row).toList

end Entry

/-- **A rendered backtrace.** The last line is ended or not. -/
def render (entries : List Entry) (ended : Bool) : String :=
  String.ofList
    (['\n'].intercalate (entries.flatMap Entry.rows) ++ if ended then ['\n'] else [])

example :
    let place : Place :=
      { indent := [' ', ' '], path := "C:\\run.rs".toList, line := 42, column := 9
        indent_blank := by simp [AllBlank, isBlank]
        newline_not_mem_path := by decide +kernel }
    let entry : Entry :=
      { indent := [], index := 1, function := "app::run".toList, place := some place
        indent_blank := nofun
        trim_function := by decide +kernel
        newline_not_mem_function := by decide +kernel }
    render [entry] true = "1: app::run\n  at C:\\run.rs:42:9\n" := by
  decide +kernel

/-! ### What is to be read -/

/-- The part of a path after its last separator. -/
def lastPart (path : List Char) : List Char :=
  (path.splitOnP fun c => c == '/' || c == '\\').getLastD []

namespace Entry

/-- The function is one of the agent's own. -/
def OfAgent (e : Entry) : Prop := ∃ s ∈ agentFunctions, s.toList <+: e.function

/-- The function is one of a library, or the place is in the source of one. -/
def OfLibrary (e : Entry) : Prop :=
  (∃ s ∈ libraryFunctions, s.toList <+: e.function) ∨
    ∃ p ∈ e.place, "/rustc/".toList <:+: p.path ∨ ".cargo/registry".toList <:+: p.path

instance : DecidablePred OfAgent := fun e =>
  inferInstanceAs (Decidable (∃ s ∈ agentFunctions, s.toList <+: e.function))

instance : DecidablePred OfLibrary := fun e =>
  inferInstanceAs (Decidable ((∃ s ∈ libraryFunctions, s.toList <+: e.function) ∨
    ∃ p ∈ e.place, "/rustc/".toList <:+: p.path ∨ ".cargo/registry".toList <:+: p.path))

/-- The frame with its own function and place. -/
def frame (e : Entry) : Frame where
  function := String.ofList e.function
  filename := (e.place.map fun p => lastPart p.path).bind fun name =>
    if name = [] then none else some (String.ofList name)
  absPath := e.place.map fun p => String.ofList p.path
  line := e.place.map fun p => p.line.toNat
  library := e.OfLibrary

end Entry

/-! ### Reading what was rendered -/

/-- A row of a rendered text tells one thing, after some white space. -/
def Tells (row : List Char) (line : Line) : Prop :=
  ∃ indent body, row = indent ++ body ∧ AllBlank indent ∧ '\n' ∉ body ∧
    body.getLast? ≠ some '\r' ∧ readLine body = line ∧ line ≠ .other

theorem Tells.told_append_cons {row : List Char} {line : Line} (h : Tells row line)
    (s : List Char) : told (row ++ '\n' :: s) = line :: told s := by
  obtain ⟨indent, body, rfl, hblank, hnewline, hreturn, rfl, hline⟩ := h
  rw [List.append_assoc, told_append hblank, Backtrace.told_append_cons hnewline,
    chomp_of_getLast? hreturn, List.filter_singleton]
  simp [hline]

theorem Tells.told_eq {row : List Char} {line : Line} (h : Tells row line) :
    told row = [line] := by
  obtain ⟨indent, body, rfl, hblank, hnewline, -, rfl, hline⟩ := h
  rw [told_append hblank, told_of_not_mem hnewline, List.filter_singleton]
  simp [hline]

/-- **A text of rows** tells what the rows tell. -/
theorem told_intercalate {rows : List (List Char)} (h : List.Forall₂ Tells rows l)
    (ended : Bool) :
    told (['\n'].intercalate rows ++ if ended then ['\n'] else []) = l := by
  induction h with
  | nil => cases ended <;> rfl
  | @cons row line rows l hrow hrows ih =>
    cases hrows with
    | nil =>
      cases ended with
      | false => simpa using hrow.told_eq
      | true =>
        rw [List.intercalate_singleton, if_pos rfl, hrow.told_append_cons]
        rfl
    | cons hnext hrows =>
      rw [List.intercalate_cons_cons, List.append_assoc, List.append_assoc,
        List.singleton_append, hrow.told_append_cons, ih]

/-- A number and what follows it are no white space, and no location. -/
theorem readLine_row (e : Entry) : readLine e.row = .frame e.function := by
  obtain ⟨d, digits, hdigits⟩ := List.exists_cons_of_ne_nil
    (Nat.toDigits_ne_nil (n := e.index) (b := 10))
  have hd : d.isDigit = true := isDigit_of_mem_toDigits (hdigits ▸ List.mem_cons_self)
  have hblank : isBlank d = false := not_isBlank_of_isAlphanum (by simp [Char.isAlphanum, hd])
  have htrim : trimStart e.row = e.row := by
    rw [Entry.row, hdigits, trimStart, List.cons_append, List.dropWhile_cons, hblank,
      if_neg Bool.false_ne_true]
  have hafter : afterText? [':', ' '] e.row = some e.function :=
    afterText?_append (not_mem_toDigits (by decide) e.index) [' '] e.function
  have hnumber : e.row.take (e.row.length - e.function.length - 2) = Nat.toDigits 10 e.index := by
    have hlength : e.row.length - e.function.length - 2 = (Nat.toDigits 10 e.index).length := by
      simp only [Entry.row, List.length_append, String.length_toList]
      have : ": ".length = 2 := rfl
      omega
    rw [hlength, Entry.row, List.take_left]
  unfold readLine
  rw [htrim]
  split
  · rename_i place heq
    rw [Entry.row, hdigits, List.cons_append, List.cons.injEq] at heq
    rw [heq.1] at hd
    exact absurd hd (by decide)
  · simp only [hafter, hnumber, all_isDigit_toDigits, e.trim_function]
    simp [Nat.toDigits_ne_nil]

theorem tells_row (e : Entry) : Tells (e.indent ++ e.row) (.frame e.function) := by
  refine ⟨e.indent, e.row, rfl, e.indent_blank, ?_, fun hreturn => ?_, readLine_row e, nofun⟩
  · simp [Entry.row, not_mem_toDigits, e.newline_not_mem_function]
  · simp only [Entry.row, List.getLast?_append] at hreturn
    cases hlast : e.function.getLast? with
    | none => simp [hlast] at hreturn
    | some c =>
      have hc : c = '\r' := by simpa [hlast] using hreturn
      have hblank := isBlank_of_getLast?_trim e.trim_function hlast
      rw [hc] at hblank
      exact absurd hblank (by decide)

theorem tells_place (p : Place) : Tells (p.indent ++ p.row) (.location p.text) := by
  refine ⟨p.indent, p.row, rfl, p.indent_blank, ?_, fun hreturn => ?_, rfl, nofun⟩
  · simp [Place.row, Place.text, not_mem_toDigits, p.newline_not_mem_path]
  · have hrow : p.row =
        ("at ".toList ++ p.path ++ ':' :: (Nat.toDigits 10 p.line.toNat ++ [':'])) ++
          Nat.toDigits 10 p.column := by simp [Place.row, Place.text]
    rw [hrow] at hreturn
    exact absurd (isDigit_of_getLast?_append_toDigits hreturn) (by decide)

/-- What the rows of an entry tell. -/
def Entry.told (e : Entry) : List Line :=
  .frame e.function :: (e.place.map fun p => .location p.text).toList

theorem forall₂_rows_told (entries : List Entry) :
    List.Forall₂ Tells (entries.flatMap Entry.rows) (entries.flatMap Entry.told) := by
  induction entries with
  | nil => exact .nil
  | cons e entries ih =>
    refine List.rel_append (.cons (tells_row e) ?_) ih
    cases e.place with
    | none => exact .nil
    | some p => exact .cons (tells_place p) .nil

/-- **Every location goes to the frame before it**, and no frame has another one. -/
theorem group_flatMap_told (entries : List Entry) :
    group (entries.flatMap Entry.told) =
      entries.map fun e => (e.function, (e.place.map Place.text).toList) := by
  induction entries with
  | nil => rfl
  | cons e entries ih =>
    have hnext : leading (entries.flatMap Entry.told) = [] := by cases entries <;> rfl
    rw [List.flatMap_cons, Entry.told, List.cons_append, group_frame_cons, List.map_cons, ← ih]
    cases e.place with
    | none => simp [hnext]
    | some p => simp [leading, group, hnext]

/-- Line and column are cut off a place from its end, so its path may have colons. -/
theorem readPlace_text (p : Place) : readPlace p.text = (p.path, some p.line.toNat) := by
  have hcolumn : splitOnceLast? ':' p.text =
      some (p.path ++ ':' :: Nat.toDigits 10 p.line.toNat, Nat.toDigits 10 p.column) := by
    have htext : p.text = (p.path ++ ':' :: Nat.toDigits 10 p.line.toNat) ++
        ':' :: Nat.toDigits 10 p.column := by simp [Place.text]
    rw [htext, splitOnceLast?_append (not_mem_toDigits (by decide) _)]
  have hline : splitOnceLast? ':' (p.path ++ ':' :: Nat.toDigits 10 p.line.toNat) =
      some (p.path, Nat.toDigits 10 p.line.toNat) :=
    splitOnceLast?_append (not_mem_toDigits (by decide) _) _
  simp only [readPlace, hcolumn, hline, readNat?_toDigits p.line.toNat_lt_size]

theorem fileName_eq (path : List Char) :
    fileName path = if lastPart path = [] then none else some (String.ofList (lastPart path)) := by
  have hpart : (path.reverse.takeWhile fun c => c != '/' && c != '\\').reverse = lastPart path := by
    rw [lastPart, getLastD_splitOnP]
    simp only [Bool.not_or, bne]
  simp only [fileName, hpart, List.isEmpty_iff]

theorem beginsWithAny_eq (starts : List String) (function : List Char) :
    beginsWithAny starts function = decide (∃ s ∈ starts, s.toList <+: function) := by
  rw [Bool.eq_iff_iff, beginsWithAny, List.any_eq_true, decide_eq_true_iff]
  simp only [beginsWith_iff]

/-- An entry is read as its frame. -/
theorem toFrame_eq (e : Entry) :
    toFrame e.function (e.place.map Place.text).toList = e.frame := by
  cases hplace : e.place with
  | none => simp [toFrame, Entry.frame, Entry.OfLibrary, beginsWithAny_eq, hplace]
  | some p =>
    simp [toFrame, locate, Entry.frame, Entry.OfLibrary, beginsWithAny_eq, containsText_eq, hplace,
      readPlace_text, fileName_eq, Bool.or_assoc]

/-- **The frames of a rendered backtrace.** -/
theorem frames_render (entries : List Entry) (ended : Bool) (limit : Nat) :
    frames (render entries ended) limit =
      ((entries.filter fun e => ¬ e.OfAgent).take limit).map Entry.frame := by
  have hgroup : group ((lines (render entries ended).toList).map readLine) =
      entries.map fun e => (e.function, (e.place.map Place.text).toList) := by
    rw [← group_filter, render, String.toList_ofList, ← group_flatMap_told,
      ← told_intercalate (forall₂_rows_told entries) ended, told]
  have hkept : ((entries.map fun e => (e.function, (e.place.map Place.text).toList)).filter
      fun g => !beginsWithAny agentFunctions g.1) =
      (entries.filter fun e => ¬ e.OfAgent).map
        fun e => (e.function, (e.place.map Place.text).toList) := by
    rw [List.filter_map]
    refine congrArg _ (List.filter_congr fun e _ => ?_)
    rw [Function.comp_apply, beginsWithAny_eq, ← decide_not]
    rfl
  simp only [frames, hgroup, hkept, ← List.map_take, List.map_map]
  exact List.map_congr_left fun e _ => toFrame_eq e

/-- The place of a frame of the agent goes away with it, and a drive letter stays with its path. -/
example :
    frames "0: apm_agent::end\n at ./end.rs:5:2\n1: main\n2: app::run\n at C:\\run.rs:42:9" 2 =
      [{ function := "main", filename := none, absPath := none, line := none, library := false },
        { function := "app::run", filename := some "run.rs", absPath := some "C:\\run.rs",
          line := some 42, library := false }] := by
  decide +kernel

end Backtrace

end Telemetry
