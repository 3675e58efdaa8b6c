import EntityBase.Yaml.Piece

/-!
# Nodes — what an outline says

A node is a scalar, a list or a map, or it stands for another one that has
an anchor. Where nothing is written stands the empty plain scalar. A text
holds one document at most, and an empty one holds that scalar.

Every reader takes a piece or hands its pieces on to one that does, so that
twice their number is fuel enough. In a list between brackets, a `?` that is
followed by no key swallows the piece behind it.
-/

namespace EntityBase.Yaml

/-- A node of an outline. -/
inductive Node where
  | scalar (style : Style) (tag : Option String) (text : String)
  | list (items : List Node)
  | map (fields : List (Node × Node))
  | alias (number : Nat)
  | anchored (number : Nat) (node : Node)
deriving Inhabited

namespace Node

/-- What stands where nothing is written. -/
def absent (tag : Option String) : Node := .scalar .plain tag ""

end Node

/-- What stands in front of a node, each at most once and in any order. -/
structure Properties where
  anchor : Option Nat := none
  tag : Option String := none

namespace Properties

/-- The properties that pieces start with, and the rest. -/
def ofPieces : List Piece → Properties × List Piece
  | .anchor number :: .tag text :: rest | .tag text :: .anchor number :: rest =>
    (⟨some number, some (String.ofList text)⟩, rest)
  | .anchor number :: rest => (⟨some number, none⟩, rest)
  | .tag text :: rest => (⟨none, some (String.ofList text)⟩, rest)
  | rest => ({}, rest)

/-- Whether nothing stands there. -/
def isEmpty (p : Properties) : Bool := p.anchor.isNone && p.tag.isNone

/-- A node with its anchor. -/
def apply (p : Properties) (node : Node) : Node :=
  match p.anchor with
  | some number => .anchored number node
  | none => node

end Properties

/-- Whether no node follows a dash among the items of a block. -/
def endsItem : List Piece → Bool
  | .dash :: _ | .closeBlock :: _ => true
  | _ => false

/-- Whether no node follows the mark of a key or a value in a block. -/
def endsField : List Piece → Bool
  | .key :: _ | .value :: _ | .closeBlock :: _ => true
  | _ => false

/-- Whether no node follows the mark of a value between brackets. -/
def endsFlow : List Piece → Bool
  | .comma :: _ | .closeList :: _ | .closeMap :: _ => true
  | _ => false

mutual

/-- Reads a node. In a block it may be one itself; in a field, its items may
stand as far in as the key, and so have no start and no end. -/
def node? : Nat → Bool → Bool → List Piece → Option (Node × List Piece)
  | 0, _, _, _ => none
  | _ + 1, _, _, .alias number :: rest => some (.alias number, rest)
  | fuel + 1, inBlock, inField, pieces =>
    let (properties, pieces) := Properties.ofPieces pieces
    let read : Option (Node × List Piece) :=
      match inBlock, inField, pieces with
      | _, true, .dash :: _ => (looseItems? fuel pieces).map fun r => (Node.list r.1, r.2)
      | _, _, .scalar style text :: rest =>
        some (.scalar style properties.tag (String.ofList text), rest)
      | _, _, .openList :: rest => (flowItems? fuel true rest).map fun r => (.list r.1, r.2)
      | _, _, .openMap :: rest => (flowFields? fuel true rest).map fun r => (.map r.1, r.2)
      | true, _, .items :: rest => (blockItems? fuel rest).map fun r => (.list r.1, r.2)
      | true, _, .fields :: rest => (blockFields? fuel rest).map fun r => (.map r.1, r.2)
      | _, _, pieces => if properties.isEmpty then none else some (.absent properties.tag, pieces)
    read.map fun r => (properties.apply r.1, r.2)

/-- Reads the items of a block up to its end. -/
def blockItems? : Nat → List Piece → Option (List Node × List Piece)
  | 0, _ => none
  | fuel + 1, pieces =>
    match pieces with
    | .closeBlock :: rest => some ([], rest)
    | .dash :: rest =>
      match if endsItem rest then some (.absent none, rest) else node? fuel true false rest with
      | none => none
      | some (item, rest) => (blockItems? fuel rest).map fun r => (item :: r.1, r.2)
    | _ => none

/-- Reads items as long as there are dashes. -/
def looseItems? : Nat → List Piece → Option (List Node × List Piece)
  | 0, _ => none
  | fuel + 1, pieces =>
    match pieces with
    | .dash :: rest =>
      match if endsItem rest || endsField rest then some (.absent none, rest)
        else node? fuel true false rest with
      | none => none
      | some (item, rest) => (looseItems? fuel rest).map fun r => (item :: r.1, r.2)
    | pieces => some ([], pieces)

/-- Reads the fields of a block up to its end. -/
def blockFields? : Nat → List Piece → Option (List (Node × Node) × List Piece)
  | 0, _ => none
  | fuel + 1, pieces =>
    match pieces with
    | .closeBlock :: rest => some ([], rest)
    | .key :: rest =>
      match if endsField rest then some (.absent none, rest) else node? fuel true true rest with
      | none => none
      | some (key, rest) =>
        match blockValue? fuel rest with
        | none => none
        | some (value, rest) => (blockFields? fuel rest).map fun r => ((key, value) :: r.1, r.2)
    | _ => none

/-- Reads the value of a field in a block, which may be missing. -/
def blockValue? : Nat → List Piece → Option (Node × List Piece)
  | 0, _ => none
  | fuel + 1, pieces =>
    match pieces with
    | .value :: rest => if endsField rest then some (.absent none, rest) else node? fuel true true rest
    | pieces => some (.absent none, pieces)

/-- Reads items up to the closing bracket. A comma stands in front of each
but the first one, and may stand behind the last one. -/
def flowItems? : Nat → Bool → List Piece → Option (List Node × List Piece)
  | 0, _, _ => none
  | fuel + 1, isFirst, pieces =>
    match isFirst, pieces with
    | _, .closeList :: rest | false, .comma :: .closeList :: rest => some ([], rest)
    | true, pieces | false, .comma :: pieces =>
      match flowItem? fuel pieces with
      | none => none
      | some (item, rest) => (flowItems? fuel false rest).map fun r => (item :: r.1, r.2)
    | false, _ => none

/-- Reads an item between brackets. One that has a key is a map of its
own. -/
def flowItem? : Nat → List Piece → Option (Node × List Piece)
  | 0, _ => none
  | fuel + 1, pieces =>
    match pieces with
    | .key :: pieces =>
      let key : Option (Node × List Piece) :=
        match pieces with
        | .value :: rest | .comma :: rest | .closeList :: rest => some (.absent none, rest)
        | pieces => node? fuel false false pieces
      match key with
      | none => none
      | some (key, rest) => (flowValue? fuel rest).map fun r => (.map [(key, r.1)], r.2)
    | pieces => node? fuel false false pieces

/-- Reads fields up to the closing brace. -/
def flowFields? : Nat → Bool → List Piece → Option (List (Node × Node) × List Piece)
  | 0, _, _ => none
  | fuel + 1, isFirst, pieces =>
    match isFirst, pieces with
    | _, .closeMap :: rest | false, .comma :: .closeMap :: rest => some ([], rest)
    | true, pieces | false, .comma :: pieces =>
      match flowField? fuel pieces with
      | none => none
      | some (field, rest) => (flowFields? fuel false rest).map fun r => (field :: r.1, r.2)
    | false, _ => none

/-- Reads a field between braces. What is not marked as a key has no
value. -/
def flowField? : Nat → List Piece → Option ((Node × Node) × List Piece)
  | 0, _ => none
  | fuel + 1, pieces =>
    match pieces with
    | .key :: pieces =>
      let key : Option (Node × List Piece) :=
        match pieces with
        | .value :: _ | .comma :: _ | .closeMap :: _ => some (.absent none, pieces)
        | pieces => node? fuel false false pieces
      match key with
      | none => none
      | some (key, rest) => (flowValue? fuel rest).map fun r => ((key, r.1), r.2)
    | pieces => (node? fuel false false pieces).map fun r => ((r.1, .absent none), r.2)

/-- Reads the value of a field between brackets, which may be missing. -/
def flowValue? : Nat → List Piece → Option (Node × List Piece)
  | 0, _ => none
  | fuel + 1, pieces =>
    match pieces with
    | .value :: rest => if endsFlow rest then some (.absent none, rest) else node? fuel false false rest
    | pieces => some (.absent none, pieces)

end

/-- Reads the node of a document and what follows it. Directives stand only
in front of the mark of its start. -/
def content? (pieces : List Piece) : Option (Node × List Piece) :=
  let fuel := 2 * pieces.length + 2
  match pieces with
  | [] => some (.absent none, [])
  | .directive :: _ | .documentStart :: _ =>
    match pieces.dropWhile (· = .directive) with
    | .documentStart :: rest =>
      match rest with
      | [] | .documentEnd :: _ => some (.absent none, rest)
      | rest => node? fuel true false rest
    | _ => none
  | pieces => node? fuel true false pieces

/-- A document: its node, and the nodes that have anchors, in the order in
which they start. -/
structure Document where
  root : Node
  anchors : List (Nat × Node)

namespace Node

mutual

/-- The nodes within a node that have anchors, in the order in which they
start. -/
def anchors : Node → List (Nat × Node)
  | .scalar .. | .alias _ => []
  | .list items => anchorsOfItems items
  | .map fields => anchorsOfFields fields
  | .anchored number node => (number, node) :: node.anchors

/-- The nodes that have anchors within items. -/
def anchorsOfItems : List Node → List (Nat × Node)
  | [] => []
  | item :: items => item.anchors ++ anchorsOfItems items

/-- The nodes that have anchors within fields. -/
def anchorsOfFields : List (Node × Node) → List (Nat × Node)
  | [] => []
  | (key, value) :: fields => key.anchors ++ value.anchors ++ anchorsOfFields fields

end

end Node

namespace Document

/-- Reads a text that holds one document. -/
def parse? (text : String) : Option Document := do
  let (root, rest) ← content? (← cut? text)
  if rest.all (· = .documentEnd) then return ⟨root, root.anchors⟩ else none

/-- What a node stands for: an alias, for the last node that has an anchor
with its number. -/
def resolve (d : Document) : Node → Node
  | .alias number => (d.anchors.reverse.lookup number).getD (.absent none)
  | .anchored _ node => node
  | node => node

end Document

end EntityBase.Yaml
