/-!
# Digests — the content hash of a text

The digest is BLAKE3. The input is cut into chunks of 1024 bytes and a
chunk into blocks of 64; compressing a block mixes sixteen words of state
with sixteen words of message in seven rounds. Within a chunk each block
starts from what the one before left; chunks are the leaves of a binary
tree whose left side always holds a power of two of them. `Node` is a
compression that has not run yet, because the topmost one runs with a flag
of its own.

Nothing below depends on the construction: the library reads the digest as
a function of the text.
-/

namespace EntityBase.Digest

/-- Eight words: what one compression hands to the next. -/
abbrev Chain := Vector UInt32 8

/-- Sixteen words: a block of the message, or the state of a compression. -/
abbrev Block := Vector UInt32 16

/-- The words from which every chunk and every inner node starts. -/
def initial : Chain :=
  #v[0x6A09E667, 0xBB67AE85, 0x3C6EF372, 0xA54FF53A,
     0x510E527F, 0x9B05688C, 0x1F83D9AB, 0x5BE0CD19]

/-- A word turned right by `n` bits. -/
def rotateRight (x n : UInt32) : UInt32 := (x >>> n) ||| (x <<< (32 - n))

/-- Mixes four words of the state with two words of the message. -/
def mix (v : Block) (a b c d : Fin 16) (x y : UInt32) : Block :=
  let va := v[a] + v[b] + x
  let vd := rotateRight (v[d] ^^^ va) 16
  let vc := v[c] + vd
  let vb := rotateRight (v[b] ^^^ vc) 12
  let va := va + vb + y
  let vd := rotateRight (vd ^^^ va) 8
  let vc := vc + vd
  let vb := rotateRight (vb ^^^ vc) 7
  (((v.set a va).set b vb).set c vc).set d vd

/-- One round: the four columns of the state, then its four diagonals. -/
def round (v m : Block) : Block :=
  let v := mix v 0 4 8 12 m[0] m[1]
  let v := mix v 1 5 9 13 m[2] m[3]
  let v := mix v 2 6 10 14 m[4] m[5]
  let v := mix v 3 7 11 15 m[6] m[7]
  let v := mix v 0 5 10 15 m[8] m[9]
  let v := mix v 1 6 11 12 m[10] m[11]
  let v := mix v 2 7 8 13 m[12] m[13]
  mix v 3 4 9 14 m[14] m[15]

/-- The message words as the next round takes them. -/
def permute (m : Block) : Block :=
  #v[m[2], m[6], m[3], m[10], m[7], m[0], m[4], m[13],
     m[1], m[11], m[12], m[5], m[9], m[14], m[15], m[8]]

/-- The given number of rounds, the message permuted between them. -/
def rounds : Nat → Block → Block → Block
  | 0, v, _ => v
  | n + 1, v, m => rounds n (round v m) (permute m)

/-- A compression that has not run yet. -/
structure Node where
  chain : Chain
  block : Block
  counter : UInt64
  length : UInt32
  flags : UInt32

/-- The flag of the first block of a chunk. -/
def chunkStart : UInt32 := 1

/-- The flag of the last block of a chunk. -/
def chunkEnd : UInt32 := 2

/-- The flag of an inner node of the tree. -/
def inner : UInt32 := 4

/-- The flag of the topmost compression. -/
def root : UInt32 := 8

/-- Runs a compression, with further flags. -/
def Node.compress (n : Node) (flags : UInt32) : Chain :=
  let chain := n.chain
  let v : Block :=
    #v[chain[0], chain[1], chain[2], chain[3], chain[4], chain[5], chain[6], chain[7],
       initial[0], initial[1], initial[2], initial[3],
       n.counter.toUInt32, (n.counter >>> 32).toUInt32, n.length, n.flags ||| flags]
  let v := rounds 7 v n.block
  #v[v[0] ^^^ v[8], v[1] ^^^ v[9], v[2] ^^^ v[10], v[3] ^^^ v[11],
     v[4] ^^^ v[12], v[5] ^^^ v[13], v[6] ^^^ v[14], v[7] ^^^ v[15]]

/-- Four bytes as a word, the first one lowest. -/
def word (bytes : List UInt8) (i : Nat) : UInt32 :=
  let byte (j : Nat) : UInt32 := (bytes[4 * i + j]?.getD 0).toUInt32
  byte 0 ||| byte 1 <<< 8 ||| byte 2 <<< 16 ||| byte 3 <<< 24

/-- At most 64 bytes as a block, zeros behind them. -/
def blockOf (bytes : List UInt8) : Block := Vector.ofFn fun i : Fin 16 => word bytes i

/-- The last compression of a chunk, the earlier ones done. The fuel is the
number of blocks that may precede it. -/
def chunkNode (counter : UInt64) : Nat → Chain → UInt32 → List UInt8 → Node
  | 0, chain, flags, bytes => ⟨chain, blockOf bytes, counter, bytes.length.toUInt32, flags ||| chunkEnd⟩
  | fuel + 1, chain, flags, bytes =>
    if bytes.length ≤ 64 then
      ⟨chain, blockOf bytes, counter, bytes.length.toUInt32, flags ||| chunkEnd⟩
    else
      let first : Node := ⟨chain, blockOf (bytes.take 64), counter, 64, flags⟩
      chunkNode counter fuel (first.compress 0) 0 (bytes.drop 64)

/-- The inner node above two compressions. -/
def parent (left right : Node) : Node :=
  ⟨initial, (left.compress 0 ++ right.compress 0).cast rfl, 0, 64, inner⟩

/-- The bytes of the left side of the tree: the greatest power of two of
chunks that leaves something for the right side. -/
def leftBytes (length : Nat) : Nat := 1024 <<< ((length - 1) / 1024).log2

/-- The topmost compression of the tree over `bytes`, whose first chunk has
number `counter`. The fuel bounds the height of the tree. -/
def treeNode : Nat → Nat → List UInt8 → Node
  | 0, counter, bytes => chunkNode (UInt64.ofNat counter) 15 initial chunkStart bytes
  | fuel + 1, counter, bytes =>
    if bytes.length ≤ 1024 then chunkNode (UInt64.ofNat counter) 15 initial chunkStart bytes
    else
      let left := leftBytes bytes.length
      parent (treeNode fuel counter (bytes.take left))
        (treeNode fuel (counter + left / 1024) (bytes.drop left))

/-- The eight words of the digest. -/
def digest (bytes : List UInt8) : Chain :=
  (treeNode bytes.length 0 bytes).compress root

/-- A byte as two hexadecimal digits. -/
def hexByte (b : UInt32) : List Char :=
  [Nat.digitChar (b.toNat / 16 % 16), Nat.digitChar (b.toNat % 16)]

/-- A word as the hexadecimal digits of its bytes, the lowest byte first. -/
def hexWord (w : UInt32) : List Char :=
  hexByte w ++ hexByte (w >>> 8) ++ hexByte (w >>> 16) ++ hexByte (w >>> 24)

/-- The first sixteen hexadecimal digits of the digest of a text. -/
def shortHex (text : String) : String :=
  let d := digest text.toUTF8.toList
  String.ofList (hexWord d[0] ++ hexWord d[1])

end EntityBase.Digest
