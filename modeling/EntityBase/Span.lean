/-!
# Spans — places in a source text

A span is a range of bytes of a text in UTF-8. Seen from a span, the text
has a part before it and a part from it on; line, column and the line of
text around the span are read off those two. A span that starts past the
end of the text is taken to start at its end.
-/

namespace EntityBase

/-- A range of bytes. -/
structure Span where
  start : Nat
  stop : Nat
deriving DecidableEq, Repr, Inhabited

/-- The number of bytes of a text. -/
def byteLength : List Char → Nat
  | [] => 0
  | c :: rest => c.utf8Size + byteLength rest

/-- A text cut behind as many whole characters as fit into `n` bytes. -/
def cutBytes : Nat → List Char → List Char × List Char
  | _, [] => ([], [])
  | n, c :: rest =>
    if c.utf8Size ≤ n then
      let (before, after) := cutBytes (n - c.utf8Size) rest
      (c :: before, after)
    else ([], c :: rest)

/-- The last line of a text. -/
def lastLine : List Char → List Char
  | [] => []
  | c :: rest =>
    if c = '\n' then lastLine rest
    else if rest.contains '\n' then lastLine rest
    else c :: rest

/-- The first line of a text. -/
def firstLine (text : List Char) : List Char := text.takeWhile (· != '\n')

namespace Span

/-- The number of bytes; none if the span ends before it starts. -/
def length (s : Span) : Nat := s.stop - s.start

/-- Whether the span has no byte. -/
def isEmpty (s : Span) : Bool := s.length == 0

/-- The span as messages show it. -/
def text (s : Span) : String :=
  "Span \x7b start: " ++ toString s.start ++ ", end: " ++ toString s.stop ++ " \x7d"

/-- The number of the line in which the span starts, from one. -/
def line (s : Span) (source : List Char) : Nat := (cutBytes s.start source).1.count '\n' + 1

/-- The byte of that line at which the span starts, from one. -/
def column (s : Span) (source : List Char) : Nat :=
  byteLength (lastLine (cutBytes s.start source).1) + 1

/-- The line in which the span starts. -/
def sourceLine (s : Span) (source : List Char) : List Char :=
  let (before, after) := cutBytes s.start source
  lastLine before ++ firstLine after

/-- The number of carets that mark the span: it is marked to the end of its
line at most, and by one caret at least. -/
def caretCount (s : Span) (source : List Char) : Nat :=
  max 1 (min s.length (byteLength (s.sourceLine source) - (s.column source - 1)))

/-- The spaces and carets under the line. -/
def marker (s : Span) (source : List Char) : List Char :=
  List.replicate (s.column source - 1) ' ' ++ List.replicate (s.caretCount source) '^'

/-- A message about the span with the line it is about. -/
def context (s : Span) (source : String) (message : String) : String :=
  let text := source.toList
  "Error at line " ++ toString (s.line text) ++ ", column " ++ toString (s.column text) ++ ":\n  "
    ++ message ++ "\n\n  " ++ String.ofList (s.sourceLine text) ++ "\n  "
    ++ String.ofList (s.marker text) ++ "\n"

end Span

end EntityBase
