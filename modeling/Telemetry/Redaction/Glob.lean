import Telemetry.Text.Split

/-!
# Wildcard patterns

In a pattern every `*` stands for any text, possibly empty, and every other character for itself.

`Glob.fits` decides whether a pattern fits a text by taking the pieces between the stars from
left to right, each at its first occurrence; the first piece has to stand at the front and the last
at the end. `Glob.Fits` states what it means for a pattern to fit, without a strategy.

## Main definitions

* `Glob.Fits`, `Glob.fits`.
-/

namespace Telemetry.Glob

open Text

/-- The pattern yields the text when every star is replaced by some text of its own. -/
inductive Fits : List Char → List Char → Prop
  | nil : Fits [] []
  | char {c : Char} {pattern text : List Char} :
      c ≠ '*' → Fits pattern text → Fits (c :: pattern) (c :: text)
  | star {pattern text : List Char} (run : List Char) :
      Fits pattern text → Fits ('*' :: pattern) (run ++ text)

/-- The pieces occur one after the other, each at its first occurrence, and the last one ends the
text. -/
def matchPieces : List (List Char) → List Char → Bool
  | [], text => text.isEmpty
  | [last], text => last.isSuffixOf text
  | piece :: rest, text =>
    match afterText? piece text with
    | some text => matchPieces rest text
    | none => false

/-- The pattern fits the text. -/
def fits (pattern text : List Char) : Bool :=
  match pattern.splitOn '*' with
  | [] => false
  | first :: rest =>
    beginsWith first text && matchPieces rest (text.drop first.length)

end Telemetry.Glob
