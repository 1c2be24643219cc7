/-!
# Splitting texts

Cutting a text at separators and finding one text in another. Cutting a text at every occurrence of
a single character is `List.splitOn`.

## Main definitions

* `splitOnce?`, `splitOnceLast?`: what stands before and after the first or last separator.
* `beginsWith`, `containsText`, `afterText?`: a text at the front of another, or anywhere in it.
* `splitText`, `replaceText`: cutting at a separator of several characters, and exchanging it.
* `lines`: the lines of a text.
-/

namespace Telemetry.Text

/-- What stands before and after the first `sep`. -/
def splitOnce? (sep : Char) : List Char → Option (List Char × List Char)
  | [] => none
  | c :: rest =>
    if c = sep then some ([], rest)
    else (splitOnce? sep rest).map fun p => (c :: p.1, p.2)

/-- What stands before and after the last `sep`. -/
def splitOnceLast? (sep : Char) (s : List Char) : Option (List Char × List Char) :=
  (splitOnce? sep s.reverse).map fun p => (p.2.reverse, p.1.reverse)

/-- The text begins with `pattern`. -/
def beginsWith (pattern s : List Char) : Bool :=
  pattern.isPrefixOf s

/-- The text has `pattern` in it somewhere. -/
def containsText (pattern : List Char) : List Char → Bool
  | [] => pattern.isEmpty
  | c :: rest => beginsWith pattern (c :: rest) || containsText pattern rest

/-- The pieces of the text between the occurrences of `sep`, found from left to right and without
overlaps. The first argument counts the characters of an occurrence that are still to be passed. -/
def splitTextFrom (sep : List Char) : Nat → List Char → List (List Char)
  | _, [] => [[]]
  | skip + 1, _ :: rest => splitTextFrom sep skip rest
  | 0, c :: rest =>
    if beginsWith sep (c :: rest) then [] :: splitTextFrom sep (sep.length - 1) rest
    else (splitTextFrom sep 0 rest).modifyHead (c :: ·)

/-- The pieces of the text between the occurrences of a non-empty separator. -/
def splitText (sep s : List Char) : List (List Char) :=
  splitTextFrom sep 0 s

/-- The text with every occurrence of a non-empty `pattern` exchanged for `replacement`. -/
def replaceText (pattern replacement s : List Char) : List Char :=
  List.intercalate replacement (splitText pattern s)

/-- What follows the first occurrence of `pattern`. -/
def afterText? (pattern : List Char) : List Char → Option (List Char)
  | [] => if pattern.isEmpty then some [] else none
  | c :: rest =>
    if beginsWith pattern (c :: rest) then some ((c :: rest).drop pattern.length)
    else afterText? pattern rest

/-- The lines of a text, without the ends of line. A line may end with a carriage return before its
line feed; an empty piece after the last line feed is no line. -/
def lines (s : List Char) : List (List Char) :=
  let pieces := s.splitOn '\n'
  let ended := pieces.dropLast.map fun line =>
    if line.getLast? = some '\r' then line.dropLast else line
  match pieces.getLastD [] with
  | [] => ended
  | last => ended ++ [last]

theorem eq_of_splitOnce? {sep : Char} {s a b : List Char} (h : splitOnce? sep s = some (a, b)) :
    s = a ++ sep :: b ∧ sep ∉ a := by
  induction s generalizing a with
  | nil => simp [splitOnce?] at h
  | cons c rest ih =>
    simp only [splitOnce?] at h
    split at h
    · rename_i hc
      simp only [Option.some.injEq, Prod.mk.injEq] at h
      obtain ⟨rfl, rfl⟩ := h
      simp [hc]
    · rename_i hc
      obtain ⟨⟨a', b'⟩, h', e⟩ := Option.map_eq_some_iff.1 h
      simp only [Prod.mk.injEq] at e
      obtain ⟨rfl, rfl⟩ := e
      obtain ⟨rfl, hn⟩ := ih h'
      exact ⟨rfl, by simp [hn, Ne.symm hc]⟩

theorem splitOnce?_append {sep : Char} {a : List Char} (h : sep ∉ a) (b : List Char) :
    splitOnce? sep (a ++ sep :: b) = some (a, b) := by
  induction a with
  | nil => simp [splitOnce?]
  | cons c a ih =>
    simp only [List.mem_cons, not_or] at h
    simp [splitOnce?, Ne.symm h.1, ih h.2]

theorem splitOnce?_eq_none_iff {sep : Char} {s : List Char} :
    splitOnce? sep s = none ↔ sep ∉ s := by
  induction s with
  | nil => simp [splitOnce?]
  | cons c rest ih =>
    simp only [splitOnce?]
    split
    · rename_i hc
      simp [hc]
    · rename_i hc
      simp [ih, Ne.symm hc]

end Telemetry.Text
