import EntityBase.Span

/-!
# Tokens

A program is a sequence of tokens: brackets, literals, references and
words. Tokens of the literal forms keep the text of their contents; it is
read when the token is evaluated, and so a date that is none is no error of
the text.
-/

namespace EntityBase

/-- A token of a program. -/
inductive Token where
  | openBracket
  | closeBracket
  | openBrace
  | closeBrace
  | bool (b : Bool)
  | nil
  | int (n : Int)
  | float (x : Float)
  | text (s : String)
  /-- `~r/source/flags` -/
  | pattern (source flags : String)
  /-- `~d|text|` -/
  | date (text : String)
  /-- `name:` -/
  | key (name : String)
  /-- `$name` -/
  | ref (name : String)
  /-- `^name` -/
  | backRef (name : String)
  /-- `*name`, with its stars -/
  | escaped (text : String)
  /-- `/uri#pointer` -/
  | attr (text : String)
  | word (name : String)
deriving DecidableEq, Repr, Inhabited

/-- A token with its place in the source. -/
structure Lexeme where
  token : Token
  span : Span
deriving DecidableEq, Repr, Inhabited

end EntityBase
