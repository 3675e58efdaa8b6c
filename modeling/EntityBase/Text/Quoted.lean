/-!
# Quoted text — strings between double quotes

A string is written between double quotes, with a backslash before a
quote or a backslash, five named control characters, and the other ones
below `U+0020` by their number. `decode` also reads what `encode` never
writes: an escaped slash and any character by the number of its one or two
16-bit units. It refuses raw control characters, unknown escapes and
halves of a pair that stand alone. `decodeChars_encodeChars` says that
reading undoes writing, whatever follows the closing quote.
-/

namespace EntityBase.Text.Quoted

/-- The digit of a number below sixteen. -/
def hexDigit (n : Nat) : Char := Nat.digitChar n

/-- The value of a hexadecimal digit of either case. -/
def hexValue? (c : Char) : Option Nat :=
  if '0' ≤ c ∧ c ≤ '9' then some (c.toNat - '0'.toNat)
  else if 'a' ≤ c ∧ c ≤ 'f' then some (c.toNat - 'a'.toNat + 10)
  else if 'A' ≤ c ∧ c ≤ 'F' then some (c.toNat - 'A'.toNat + 10)
  else none

/-- One character as it is written between quotes. -/
def encodeChar (c : Char) : List Char :=
  if c = '"' then ['\\', '"']
  else if c = '\\' then ['\\', '\\']
  else if c = '\n' then ['\\', 'n']
  else if c = '\r' then ['\\', 'r']
  else if c = '\t' then ['\\', 't']
  else if c = '\x08' then ['\\', 'b']
  else if c = '\x0c' then ['\\', 'f']
  else if c.toNat < 32 then ['\\', 'u', '0', '0', hexDigit (c.toNat / 16), hexDigit (c.toNat % 16)]
  else [c]

/-- Characters as they are written between quotes. -/
def encodeChars : List Char → List Char
  | [] => []
  | c :: rest => encodeChar c ++ encodeChars rest

/-- The written form of a string. -/
def encode (s : String) : List Char := '"' :: (encodeChars s.toList ++ ['"'])

/-- A unit that is the first half of a pair. -/
def isLeading (n : Nat) : Bool := 0xD800 ≤ n && n < 0xDC00

/-- A unit that is the second half of a pair. -/
def isTrailing (n : Nat) : Bool := 0xDC00 ≤ n && n < 0xE000

/-- The number written by four hexadecimal digits. -/
def unit? (a b c d : Char) : Option Nat := do
  let w ← hexValue? a
  let x ← hexValue? b
  let y ← hexValue? c
  let z ← hexValue? d
  return ((w * 16 + x) * 16 + y) * 16 + z

/-- The character that a letter after a backslash stands for. -/
def escaped? (c : Char) : Option Char :=
  if c = '"' ∨ c = '\\' ∨ c = '/' then some c
  else if c = 'n' then some '\n'
  else if c = 'r' then some '\r'
  else if c = 't' then some '\t'
  else if c = 'b' then some '\x08'
  else if c = 'f' then some '\x0c'
  else none

/-- Reads the characters after an opening quote up to the closing one, and
returns them with what follows it. -/
def decodeChars : List Char → Option (List Char × List Char)
  | [] => none
  | '"' :: rest => some ([], rest)
  | '\\' :: 'u' :: a :: b :: c :: d :: '\\' :: 'u' :: e :: f :: g :: h :: rest =>
    match unit? a b c d with
    | none => none
    | some hi =>
      if isLeading hi then
        match unit? e f g h with
        | none => none
        | some lo =>
          if isTrailing lo then
            (decodeChars rest).map fun r =>
              (Char.ofNat (0x10000 + (hi - 0xD800) * 0x400 + (lo - 0xDC00)) :: r.1, r.2)
          else none
      else if isTrailing hi then none
      else (decodeChars ('\\' :: 'u' :: e :: f :: g :: h :: rest)).map fun r =>
        (Char.ofNat hi :: r.1, r.2)
  | '\\' :: 'u' :: a :: b :: c :: d :: rest =>
    match unit? a b c d with
    | none => none
    | some n =>
      if isLeading n || isTrailing n then none
      else (decodeChars rest).map fun r => (Char.ofNat n :: r.1, r.2)
  | '\\' :: c :: rest =>
    match escaped? c with
    | none => none
    | some e => (decodeChars rest).map fun r => (e :: r.1, r.2)
  | c :: rest =>
    if c.toNat < 32 ∨ c = '\\' then none
    else (decodeChars rest).map fun r => (c :: r.1, r.2)

/-- Reads a whole written string. -/
def decode : List Char → Option String
  | '"' :: rest =>
    match decodeChars rest with
    | some (chars, []) => some (String.ofList chars)
    | _ => none
  | _ => none

theorem unit?_hexDigit :
    ∀ n < 32, unit? '0' '0' (hexDigit (n / 16)) (hexDigit (n % 16)) = some n := by decide

/-- A unit that is no half of a pair stands for itself, whatever follows. -/
theorem decodeChars_unit {a b c d : Char} {n : Nat} (h : unit? a b c d = some n)
    (hl : isLeading n = false) (ht : isTrailing n = false) (rest : List Char) :
    decodeChars ('\\' :: 'u' :: a :: b :: c :: d :: rest)
      = (decodeChars rest).map fun r => (Char.ofNat n :: r.1, r.2) := by
  rw [decodeChars.eq_def]
  split <;> simp_all
  · rename_i hx heq
    exact absurd heq.2.symm (hx a b c d rest heq.1.symm)
  · rename_i hx heq
    exact absurd heq.2.symm (hx 'u' _ heq.1.symm)

/-- Reading undoes writing, one character at a time. -/
theorem decodeChars_encodeChar (c : Char) (rest : List Char) :
    decodeChars (encodeChar c ++ rest) = (decodeChars rest).map fun r => (c :: r.1, r.2) := by
  unfold encodeChar
  split
  · subst_vars; simp [decodeChars, escaped?]
  split
  · subst_vars; simp [decodeChars, escaped?]
  split
  · subst_vars; simp [decodeChars, escaped?]
  split
  · subst_vars; simp [decodeChars, escaped?]
  split
  · subst_vars; simp [decodeChars, escaped?]
  split
  · subst_vars; simp [decodeChars, escaped?]
  split
  · subst_vars; simp [decodeChars, escaped?]
  split
  · rename_i hc
    have hn := decodeChars_unit (unit?_hexDigit c.toNat hc) (by simp [isLeading]; omega)
      (by simp [isTrailing]; omega) rest
    simpa using hn
  · rename_i hq hb _ _ _ _ _ hc
    rw [decodeChars.eq_def]
    split <;> grind

/-- Reading undoes writing, up to the closing quote and whatever follows it. -/
theorem decodeChars_encodeChars (s rest : List Char) :
    decodeChars (encodeChars s ++ '"' :: rest) = some (s, rest) := by
  induction s with
  | nil => simp [encodeChars, decodeChars]
  | cons c s ih => simp [encodeChars, decodeChars_encodeChar, ih]

theorem decode_encode (s : String) : decode (encode s) = some s := by
  simp [decode, encode, decodeChars_encodeChars]

end EntityBase.Text.Quoted
