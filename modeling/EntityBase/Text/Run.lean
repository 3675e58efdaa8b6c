import EntityBase.CharSet
import EntityBase.Text.Quoted

/-!
# Runs — sets of characters written as text

A class of characters is a sequence of **runs**: code points from a first to
a last one in equal steps. As text, a run is a hexadecimal number or two
with a dash between them, and behind a slash the step, if it is not one:
`41-5A`, `100-136/2`, `17B`. Runs stand between blanks.
-/

namespace EntityBase.Text

/-- The code points from `first` to `last` in steps. -/
structure Run where
  first : Nat
  last : Nat
  step : Nat
deriving DecidableEq, Repr, Inhabited

/-- The ranges of the run. -/
def Run.ranges (r : Run) : List CodeRange :=
  if r.step = 1 then [⟨r.first, r.last⟩]
  else (List.range ((r.last - r.first) / r.step + 1)).map fun k =>
    ⟨r.first + k * r.step, r.first + k * r.step⟩

/-- The number that hexadecimal digits write. -/
def hexNumber (digits : List Char) : Nat :=
  digits.foldl (fun n d => 16 * n + (Quoted.hexValue? d).getD 0) 0

/-- The words between blanks. -/
def blankSeparated : List Char → List (List Char)
  | [] => [[]]
  | c :: rest =>
    match blankSeparated rest with
    | [] => [[c]]
    | word :: words => if c = ' ' || c = '\n' then [] :: word :: words else (c :: word) :: words

/-- Reads one run. -/
def Run.ofText (word : List Char) : Run :=
  let (first, rest) := word.span Char.isAlphanum
  match rest with
  | '-' :: rest =>
    let (last, rest) := rest.span Char.isAlphanum
    match rest with
    | '/' :: step => ⟨hexNumber first, hexNumber last, hexNumber step⟩
    | _ => ⟨hexNumber first, hexNumber last, 1⟩
  | _ => ⟨hexNumber first, hexNumber first, 1⟩

/-- Reads a sequence of runs. -/
def runsOfText (text : String) : List Run :=
  ((blankSeparated text.toList).filter fun word => !word.isEmpty).map Run.ofText

/-- The set that a sequence of runs writes. -/
def charsOfText (text : String) : CharSet := .ofRanges ((runsOfText text).flatMap Run.ranges)

example : runsOfText "41-5A 100-136/2 17B"
    = [⟨0x41, 0x5A, 1⟩, ⟨0x100, 0x136, 2⟩, ⟨0x17B, 0x17B, 1⟩] := by decide +kernel

end EntityBase.Text
