import EntityBase.Value.Arithmetic
import EntityBase.Value.Collection

/-!
# Words — what a name can do

A word is one overload of a name: the kinds that it asks for on top of the
stack, from the lower one to the top one, and what it does then. A program
adds words that run a list or push a value; the others are **native**, and
this module enumerates them by family.
-/

namespace EntityBase

/-- Words that move items about. -/
inductive ShuffleWord where
  | drop
  /-- takes the last item of a list -/
  | last
  | dup
  | swap
  | rot
  | over
  | clear
  | gather
  | size
deriving DecidableEq, Repr

/-- Words on numbers, order and truth. -/
inductive LogicWord where
  | arithmetic (op : ArithmeticOp)
  | equal
  | unequal
  | less
  | lessEqual
  | greater
  | greaterEqual
  | and
  | or
  | not
deriving DecidableEq, Repr

/-- Words on lists, maps and fields. -/
inductive CollectionWord where
  | push
  | concat
  | concatText
  | getIndex
  | getKey
  | getField
  | setIndex
  | setKey
  | setField
  | keys
  | values
  | algebra (op : SetOp)
  /-- refuses operands that no set operation takes -/
  | noAlgebra
deriving DecidableEq, Repr

/-- Words that define words and run lists. Every word that runs a list is
among them. -/
inductive ControlWord where
  | define
  | bind
  | spread
  | eval
  | ifTrue
  | ifElse
  | loop
  | escape
  | map
  | filter
  | reduce
  | print
  | select
deriving DecidableEq, Repr

/-- Words that build things of the store or use the store. -/
inductive StoreWord where
  | entitySet
  | definitions
  | buildDefinition
  | buildComponents
  | buildEntity
  | buildBitfield
  | buildAttrOfMask
  | buildAttr
  | add
  | attach
  | remove
  | getEntity
  | getComponent
deriving DecidableEq, Repr

/-- What a select program can read. -/
inductive Reader where
  | entities
  | entityIds
  | components
  | componentIds
deriving DecidableEq, Repr

/-- Words of select programs. -/
inductive SelectWord where
  | compare (op : CompareOp)
  | and
  | or
  | order
  | limit
  | count
  | read (reader : Reader)
  | readField
  | narrow
deriving DecidableEq, Repr

/-- Words that a host can add to reach the stack by its interface. -/
inductive HostWord where
  | popAny
  | popScalar
  | popList
  | popMap
  | popInteger
  | popName
  | popEntitySet
  | popBitfield
  | popAttr
  | drain
  | escape
  | eval
  | one
  | two
deriving DecidableEq, Repr

/-- The native words. -/
inductive Native where
  | shuffle (w : ShuffleWord)
  | logic (w : LogicWord)
  | collection (w : CollectionWord)
  | control (w : ControlWord)
  | store (w : StoreWord)
  | select (w : SelectWord)
  | host (w : HostWord)
deriving DecidableEq, Repr

/-- What a word does. -/
inductive Action where
  | native (n : Native)
  /-- runs a list on the stack of the caller -/
  | body (items : List Value)
  /-- pushes a value -/
  | value (v : Value)

/-- One overload of a name. -/
structure Word where
  pattern : List Kind := []
  action : Action

/-- What a word stands for as a value, if it is one of a program. -/
def Word.binding? (w : Word) : Option Value :=
  match w.action with
  | .native _ => none
  | .body items => some (.list items)
  | .value v => some v

/-- Words by name, those that go first in front. -/
abbrev Words := List (String × Word)

/-- The overloads of a name, in the order in which they are tried. -/
def Words.named (words : Words) (name : String) : List Word :=
  words.filterMap fun (n, w) => if n == name then some w else none

/-- Whether the kinds of a pattern, read from the top, are those of the
items. -/
def matchesFromTop : List Kind → List Value → Bool
  | [], _ => true
  | k :: ks, v :: vs => v.isOf k && matchesFromTop ks vs
  | _ :: _, [] => false

/-- Whether the word takes what is on the stack, the top item first. -/
def Word.accepts (w : Word) (items : List Value) : Bool :=
  matchesFromTop w.pattern.reverse items

end EntityBase
