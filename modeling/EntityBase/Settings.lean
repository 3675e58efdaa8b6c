import EntityBase.Machine.Basic
import EntityBase.Yaml.Node

/-!
# Settings — how they are written and what is refused

Settings are an outline of two sections, `store` and `query`, which are maps
in a map. What is not written has its default, and unknown keys are passed
over with all that belongs to them. A switch is `true` or `false` in lower
case, upper case or capitalised; a count is a whole number of 64 bits, in
base ten, or behind `0x`, `0o` and `0b`. Both are written plainly, with any
tag or none, or as a block behind `|` with the tag that says what they are.
The two ceilings are at least one.
-/

namespace EntityBase

/-- The settings of a database. -/
structure Settings where
  /-- whether new content may take over a known uri -/
  shadowing : Bool := true
  limits : Machine.Limits := {}
deriving DecidableEq, Repr, Inhabited

/-- Why settings are refused. -/
inductive SettingsError where
  /-- there is no such file -/
  | unreadable
  /-- the text is no outline, or a setting is of the wrong kind -/
  | malformed
  /-- a ceiling is zero -/
  | zeroCeiling (setting : String)
deriving DecidableEq, Repr

/-- The wording of a refusal; what the readers of files and outlines would
say is left to them. -/
def SettingsError.message? : SettingsError → Option String
  | .unreadable | .malformed => none
  | .zeroCeiling setting => some s!"Invalid value for {setting}: must be at least 1"

namespace Yaml

/-- The switch that a text says. -/
def switch? (text : String) : Option Bool :=
  if ["true", "True", "TRUE"].contains text then some true
  else if ["false", "False", "FALSE"].contains text then some false
  else none

/-- Digits in a base of at most sixteen. -/
def digits? (base : Nat) (text : List Char) : Option Nat :=
  if text.isEmpty then none
  else
    (text.foldlM (fun n c =>
      (hexDigit? c).bind fun d => if d < base then some (base * n + d) else none) 0).bind
    fun n => if n < 18446744073709551616 then some n else none

/-- Digits in base ten. A zero in front makes them a text. -/
def decimal? (text : List Char) : Option Nat :=
  match text with
  | '0' :: _ :: _ => if text.all Char.isDigit then none else digits? 10 text
  | text => digits? 10 text

/-- The count that a text says. -/
def count? (text : String) : Option Nat :=
  let unsigned := match text.toList with
    | '+' :: rest => rest
    | rest => rest
  match unsigned with
  | '0' :: 'x' :: rest => digits? 16 rest
  | '0' :: 'o' :: rest => digits? 8 rest
  | '0' :: 'b' :: rest => digits? 2 rest
  | text => decimal? text

namespace Document

/-- What a scalar says that is written plainly, or as a block with the given
tag. -/
def value? {α : Type} (tag : String) (read : String → Option α) (d : Document) (node : Node) :
    Option α :=
  match d.resolve node with
  | .scalar .plain _ text => read text
  | .scalar .literal (some written) text => if written = tag then read text else none
  | _ => none

/-- A switch. -/
def toBool? : Document → Node → Option Bool := value? "tag:yaml.org,2002:bool" switch?

/-- A count. -/
def toCount? : Document → Node → Option Nat := value? "tag:yaml.org,2002:int" count?

/-- The named settings of a section; a name that comes twice is refused. -/
def section? (names : List String) (d : Document) (node : Node) : Option (List (String × Node)) :=
  match d.resolve node with
  | .scalar .plain _ "" => some []
  | .map fields => fields.foldlM add []
  | _ => none
where
  add (known : List (String × Node)) (field : Node × Node) : Option (List (String × Node)) :=
    match d.resolve field.1 with
    | .scalar _ _ name =>
      if !names.contains name then some known
      else if (known.lookup name).isSome then none
      else some ((name, field.2) :: known)
    | _ => none

/-- A setting of a section, or its default. -/
def setting? {α : Type} (read : Node → Option α) (default : α) (name : String)
    (known : List (String × Node)) : Option α :=
  match known.lookup name with
  | none => some default
  | some node => read node

/-- The settings of the `query` section. -/
def toLimits? (d : Document) (node : Node) : Option Machine.Limits := do
  let known ← d.section? ["loop_limit", "strict_defs", "snapshot_len", "max_depth"] node
  let default : Machine.Limits := {}
  return {
    loopLimit := ← setting? d.toCount? default.loopLimit "loop_limit" known
    strictDefs := ← setting? d.toBool? default.strictDefs "strict_defs" known
    snapshotLen := ← setting? d.toCount? default.snapshotLen "snapshot_len" known
    maxDepth := ← setting? d.toCount? default.maxDepth "max_depth" known }

/-- The settings of the `store` section. -/
def toShadowing? (d : Document) (node : Node) : Option Bool := do
  setting? d.toBool? true "allow_def_shadowing" (← d.section? ["allow_def_shadowing"] node)

/-- The settings of an outline. -/
def toSettings? (d : Document) : Option Settings := do
  let known ← d.section? ["store", "query"] d.root
  return {
    shadowing := ← setting? d.toShadowing? true "store" known
    limits := ← setting? d.toLimits? {} "query" known }

end Document

end Yaml

namespace Settings

/-- Refuses ceilings of zero. -/
def check (s : Settings) : Except SettingsError Settings :=
  if s.limits.loopLimit = 0 then .error (.zeroCeiling "query.loop_limit")
  else if s.limits.maxDepth = 0 then .error (.zeroCeiling "query.max_depth")
  else .ok s

/-- Reads settings. -/
def parse (text : String) : Except SettingsError Settings :=
  match (Yaml.Document.parse? text).bind Yaml.Document.toSettings? with
  | some s => s.check
  | none => .error .malformed

/-- Reads settings from the contents of a file, if there is one. -/
def ofFile : Option String → Except SettingsError Settings
  | some text => parse text
  | none => .error .unreadable

end Settings

end EntityBase
