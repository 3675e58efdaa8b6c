import EntityBase.Decimal
import EntityBase.Json.Pointer
import EntityBase.Binary64
import EntityBase.Text.Blank
import EntityBase.Text.Quoted
import EntityBase.Token

/-!
# From text to tokens

Tokens stand between separators and comments. At each place the longest
form that matches is taken; of two equally long ones, anything else goes
before a plain word. `read` says what stands at the front of a text and
over how many characters, and `tokenize` puts those pieces together, so
that nothing between two tokens is lost but separators and comments.

A quoted text, a pattern or a date may hold characters that no word can
hold. Once such a character was taken, the form has to be completed: a text
that ends before that is refused as far as it went.
-/

namespace EntityBase.Lexer

/-- Characters between tokens. -/
def isSeparator (c : Char) : Bool :=
  c == ' ' || c == '\t' || c == '\r' || c == '\n' || c == '\x0c' || c == ','

/-- Characters that words are made of. -/
def isWordChar (c : Char) : Bool :=
  !Text.isBlank c && c != ',' && c != '[' && c != ']' && c != '\x7b' && c != '\x7d' && c != '"' &&
    c != '\''

/-- Letters of ASCII. -/
def isLetter (c : Char) : Bool := c.isAlpha

/-! ## Forms that are spelled like a word -/

/-- The text without a minus sign, and whether it had one. -/
def unsigned : List Char → Bool × List Char
  | '-' :: rest => (true, rest)
  | text => (false, text)

/-- Reads an integer. -/
def integer? (text : List Char) : Option Int :=
  let (negative, digits) := unsigned text
  if digits.isEmpty then none
  else (Json.digitsValue? digits).map fun n => if negative then -(n : Int) else n

/-- Reads an exponent with its letter; nothing counts as none. -/
def exponent? : List Char → Option Int
  | [] => some 0
  | c :: rest =>
    if c = 'e' ∨ c = 'E' then
      match rest with
      | '+' :: digits => natural? digits
      | '-' :: digits => (natural? digits).map fun n => -n
      | digits => natural? digits
    else none
where
  natural? (digits : List Char) : Option Int :=
    if digits.isEmpty then none else (Json.digitsValue? digits).map Int.ofNat

/-- Reads a number with a fraction, an exponent or both. -/
def float? (text : List Char) : Option Float := do
  let (negative, text) := unsigned text
  let (whole, rest) := text.span Char.isDigit
  if whole.isEmpty then none
  else
    let (fraction, rest) ← match rest with
      | '.' :: rest =>
        let (fraction, rest) := rest.span Char.isDigit
        if fraction.isEmpty then none else some (fraction, rest)
      | [] => none
      | rest => some ([], rest)
    let exponent ← exponent? rest
    let digits ← Json.digitsValue? (whole ++ fraction)
    let x := Decimal.toFloat digits (exponent - fraction.length)
    pure (if negative then -x else x)

/-- Reads `name:`. -/
def key? (text : List Char) : Option String :=
  match text.getLast?, text.dropLast with
  | some ':', c :: rest =>
    if (isLetter c || c == '_' || c == '@') &&
        rest.all (fun c => c.isAlphanum || c == '_' || c == '@' || c == '-') then
      some (String.ofList (c :: rest))
    else none
  | _, _ => none

/-- Whether a name goes on with the character. -/
def isNameChar (c : Char) : Bool := c.isAlphanum || c == '_' || c == '-'

/-- Whether text behind stars makes them an escape. -/
def isEscapedName : List Char → Bool
  | c :: _ =>
    isLetter c || c == '_' || c == '$' || c == '^' || c == '@' || c == '!' || c == '/'
  | [] => false

/-- What a run of word characters is: its token, or nothing if it has the
form of an integer and is out of range. -/
def ofWord (w : List Char) : Option Token :=
  match w with
  | ['t', 'r', 'u', 'e'] => some (.bool true)
  | ['f', 'a', 'l', 's', 'e'] => some (.bool false)
  | ['n', 'i', 'l'] => some .nil
  | w =>
    match integer? w with
    | some n => if Binary64.fitsInt64 n then some (.int n) else none
    | none =>
      match float? w with
      | some x => some (.float x)
      | none =>
        match key? w with
        | some name => some (.key name)
        | none => some (reference w)
where
  reference (w : List Char) : Token :=
    match w with
    | '$' :: c :: rest =>
      if (isLetter c || c == '_') && rest.all isNameChar then .ref (String.ofList (c :: rest))
      else .word (String.ofList w)
    | '^' :: c :: rest =>
      if (c.isAlphanum || c == '_') && rest.all isNameChar then .backRef (String.ofList (c :: rest))
      else .word (String.ofList w)
    | '*' :: _ =>
      if isEscapedName (w.dropWhile (· == '*')) then .escaped (String.ofList w)
      else .word (String.ofList w)
    | '/' :: rest =>
      if rest.contains '#' then .attr (String.ofList w) else .word (String.ofList w)
    | w => .word (String.ofList w)

/-! ## Forms with characters of their own -/

/-- The length of text up to and with a closing character, if there is one.
A backslash takes the next character along; behind it a line must not end.
A character that `stops` ends the search. -/
structure Run where
  length : Nat
  closed : Bool

/-- Looks for the closing character. -/
def runTo (close : Char) (stops : Char → Bool) : List Char → Run
  | [] => ⟨0, false⟩
  | '\\' :: c :: rest =>
    if c = '\n' then ⟨0, false⟩
    else
      let r := runTo close stops rest
      { r with length := r.length + 2 }
  | c :: rest =>
    if c = close then ⟨1, true⟩
    else if c = '\\' || stops c then ⟨0, false⟩
    else
      let r := runTo close stops rest
      { r with length := r.length + 1 }

/-- Looks for the bar that closes a date. -/
def runToBar : List Char → Run
  | [] => ⟨0, false⟩
  | c :: rest =>
    if c = '|' then ⟨1, true⟩
    else if c = '\n' then ⟨0, false⟩
    else
      let r := runToBar rest
      { r with length := r.length + 1 }

/-- The contents of a text in single quotes. -/
def unescape : List Char → List Char
  | '\\' :: 'n' :: rest => '\n' :: unescape rest
  | '\\' :: 't' :: rest => '\t' :: unescape rest
  | '\\' :: 'r' :: rest => '\r' :: unescape rest
  | '\\' :: c :: rest => c :: unescape rest
  | c :: rest => c :: unescape rest
  | [] => []

/-- The contents of a pattern: a slash loses its backslash. -/
def unescapeSlashes : List Char → List Char
  | '\\' :: '/' :: rest => '/' :: unescapeSlashes rest
  | c :: rest => c :: unescapeSlashes rest
  | [] => []

/-! ## Reading -/

/-- What stands at the front of a text, over a number of characters. -/
inductive Reading where
  | token (t : Token) (length : Nat)
  | skipped (length : Nat)
  | refused (length : Nat)

/-- The number of characters that were read. -/
def Reading.length : Reading → Nat
  | .token _ n | .skipped n | .refused n => n

/-- Whether a run of word characters is a number up to the letter of an
exponent. -/
def opensExponent (w : List Char) : Bool :=
  let (whole, rest) := (unsigned w).2.span Char.isDigit
  let (fraction, letter) := match rest with
    | '.' :: rest => rest.span Char.isDigit
    | rest => (['0'], rest)
  !whole.isEmpty && !fraction.isEmpty && (letter == ['e'] || letter == ['E'])

/-- Whether a text starts with a blank that is no ASCII character. -/
def startsWithWideBlank : List Char → Bool
  | c :: _ => 128 ≤ c.toNat && Text.isBlank c
  | [] => false

/-- Reads a run of word characters, over `length` of them. In front of a
blank beyond ASCII an exponent has to be completed. -/
def readWord (text : List Char) (length : Nat) : Reading :=
  if length = 0 then .refused 1
  else if startsWithWideBlank (text.drop length) && opensExponent (text.take length) then
    .refused length
  else
    match ofWord (text.take length) with
    | some t => .token t length
    | none => .refused length

/-- Decides between a form with characters of its own, of which `opening`
characters precede the run, and a run of word characters. -/
def readForm (text : List Char) (opening : Nat) (run : Run) (after : Nat)
    (token : List Char → Token) : Reading :=
  let word := (text.takeWhile isWordChar).length
  let length := opening + run.length
  if run.closed then
    if word ≤ length + after then
      .token (token (text.take (length + after))) (length + after)
    else readWord text word
  else if word < length then .refused length
  else readWord text word

/-- Reads what stands at the front of a text. -/
def read (text : List Char) : Reading :=
  match text with
  | [] => .skipped 0
  | '/' :: '/' :: rest => .skipped ((firstLine rest).length + 2)
  | '[' :: _ => .token .openBracket 1
  | ']' :: _ => .token .closeBracket 1
  | '\x7b' :: _ => .token .openBrace 1
  | '\x7d' :: _ => .token .closeBrace 1
  | '"' :: rest =>
    let run := runTo '"' (fun _ => false) rest
    match run.closed, Text.Quoted.decode (text.take (run.length + 1)) with
    | true, some s => .token (.text s) (run.length + 1)
    | _, _ => .refused (run.length + 1)
  | '\'' :: rest =>
    let run := runTo '\'' (fun _ => false) rest
    if run.closed then
      .token (.text (String.ofList (unescape (rest.take (run.length - 1))))) (run.length + 1)
    else .refused (run.length + 1)
  | '~' :: 'r' :: '/' :: rest =>
    let run := runTo '/' (· == '\n') rest
    let flags := (rest.drop run.length).takeWhile fun c => c.isLower
    readForm text 3 run flags.length fun _ =>
      .pattern (String.ofList (unescapeSlashes (rest.take (run.length - 1)))) (String.ofList flags)
  | '~' :: 'd' :: '|' :: rest =>
    let run := runToBar rest
    readForm text 3 run 0 fun _ => .date (String.ofList (rest.take (run.length - 1)))
  | c :: rest =>
    if isSeparator c then .skipped ((rest.takeWhile isSeparator).length + 1)
    else readWord text (text.takeWhile isWordChar).length

/-- A part of a text that is no token. -/
structure Refusal where
  span : Span
  text : String
deriving DecidableEq, Repr

/-- The tokens of a text that starts at byte `offset` of the source. The
fuel bounds the number of readings. -/
def scan : Nat → Nat → List Char → Except Refusal (List Lexeme)
  | 0, _, _ => .ok []
  | fuel + 1, offset, text =>
    if text.isEmpty then .ok []
    else
      let reading := read text
      let taken := text.take reading.length
      let rest := text.drop reading.length
      let span : Span := ⟨offset, offset + byteLength taken⟩
      match reading with
      | .refused _ => .error ⟨span, String.ofList taken⟩
      | .skipped _ => scan fuel span.stop rest
      | .token t _ =>
        match scan fuel span.stop rest with
        | .ok lexemes => .ok (⟨t, span⟩ :: lexemes)
        | .error e => .error e

/-- The tokens of a program. -/
def tokenize (source : String) : Except Refusal (List Lexeme) :=
  scan source.toList.length 0 source.toList

end EntityBase.Lexer
