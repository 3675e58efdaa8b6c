import EntityBase.CharSet

/-!
# Byte ranges — sets of characters as sequences of bytes

In UTF-8 a character is a sequence of one to four bytes. The characters of
a range are those of some **sequences of byte ranges**, in which every
choice of a byte in each place writes one of them. To find these, a range is
cut at the surrogates and where the number of bytes changes, and then so
that each piece either stays within a block of 64 characters or consists of
whole ones, and likewise for blocks of 64 blocks.
-/

namespace EntityBase.Pattern

/-- The bytes from `first` to `last`. -/
structure ByteRange where
  first : Nat
  last : Nat
deriving DecidableEq, Repr, Inhabited

namespace ByteRange

/-- The bytes that write a character. -/
def encode (code : Nat) : List Nat :=
  if code < 0x80 then [code]
  else if code < 0x800 then [0xC0 + code / 64, 0x80 + code % 64]
  else if code < 0x10000 then [0xE0 + code / 4096, 0x80 + code / 64 % 64, 0x80 + code % 64]
  else
    [0xF0 + code / 262144, 0x80 + code / 4096 % 64, 0x80 + code / 64 % 64, 0x80 + code % 64]

/-- The bytes that write a literal. -/
def encodeText (text : List Char) : List Nat := text.flatMap fun c => encode c.toNat

/-- Cuts ranges behind a code point. -/
def cutBehind (limit : Nat) (ranges : List CodeRange) : List CodeRange :=
  ranges.flatMap fun r =>
    if r.first ≤ limit && limit < r.last then [⟨r.first, limit⟩, ⟨limit + 1, r.last⟩] else [r]

/-- Cuts out the surrogates. -/
def withoutSurrogates (r : CodeRange) : List CodeRange :=
  if r.first < 0xE000 && 0xD7FF < r.last then
    [⟨r.first, 0xD7FF⟩, ⟨0xE000, r.last⟩].filter fun r => r.first ≤ r.last
  else [r]

/-- Cuts a range at the ends of blocks, and what lies between at the ends of
larger blocks, 64 times the size. The number of sizes that are left bounds
the recursion. -/
def aligned : Nat → Nat → CodeRange → List CodeRange
  | 0, _, r => [r]
  | sizes + 1, block, r =>
    if r.first / block = r.last / block then [r]
    else
      let cutsFirst := r.first % block != 0
      let cutsLast := r.last % block != block - 1
      let first := if cutsFirst then (r.first / block + 1) * block else r.first
      let last := if cutsLast then r.last / block * block - 1 else r.last
      (if cutsFirst then [⟨r.first, first - 1⟩] else []) ++
        (if first ≤ last then aligned sizes (block * 64) ⟨first, last⟩ else []) ++
        (if cutsLast then [⟨last + 1, r.last⟩] else [])

/-- The sequences of a range of characters. -/
def sequencesOfRange (r : CodeRange) : List (List ByteRange) :=
  let pieces := [0x7F, 0x7FF, 0xFFFF].foldl (fun rs limit => cutBehind limit rs) (withoutSurrogates r)
  (pieces.flatMap fun r => if r.last < 0x80 then [r] else aligned 3 64 r).map fun r =>
    List.zipWith ByteRange.mk (encode r.first) (encode r.last)

/-- The sequences of a set, in the order of its characters. -/
def sequencesOf (s : CharSet) : List (List ByteRange) := s.ranges.flatMap sequencesOfRange

example : sequencesOf (.range 'a' 'é') = [[⟨97, 127⟩], [⟨0xC2, 0xC2⟩, ⟨0x80, 0xBF⟩],
    [⟨0xC3, 0xC3⟩, ⟨0x80, 0xA9⟩]] := by decide +kernel

end ByteRange

end EntityBase.Pattern
