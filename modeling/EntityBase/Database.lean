import EntityBase.Export
import EntityBase.Machine.Arena.Program
import EntityBase.Settings

/-!
# Databases — a store with the settings of its programs

A database runs programs on fresh stacks and can be written as a program
and built again by one. A program that fails keeps what it did to the store
before. A **session** is a database with one stack that stays from run to
run; both see the same store.
-/

namespace EntityBase

open Machine

/-- A store with settings. -/
structure Database where
  settings : Settings
  store : Store
deriving Inhabited

/-- What a program on a fresh stack came to. -/
structure Answer where
  /-- the items that it left, the top one last, or why it failed -/
  result : Except Failure (List Value)
  database : Database
  journal : Journal

namespace Database

/-- The database without definitions and entities. -/
def new (settings : Settings) : Database := { settings, store := .empty settings.shadowing }

/-- Runs a program on a fresh stack under limits of its own. -/
def queryUnder (db : Database) (limits : Limits) (now : Instant) (source : String)
    (values : List Value) : Answer :=
  match runWith { values } source { limits, now } { store := some db.store } with
  | (result, s) =>
    { result := result.map fun _ => s.stack
      database := { db with store := s.store.getD db.store }
      journal := s.journal }

/-- Runs a program on a fresh stack. -/
def query (db : Database) (now : Instant) (source : String) (values : List Value) : Answer :=
  db.queryUnder db.settings.limits now source values

/-- The notice after a program was loaded. -/
def loadNotice (db : Database) : Notice :=
  ⟨.info, s!"imported into UUID: {db.store.entityCount} entities, {db.store.componentCount} components"⟩

/-- Runs a program for what it does to the store. -/
def load (db : Database) (now : Instant) (program : String) : Answer :=
  let a := db.query now program []
  match a.result with
  | .ok _ => { a with
      result := .ok []
      journal := { a.journal with notices := a.journal.notices.push a.database.loadNotice } }
  | .error _ => a

/-- The database that the export builds under the same settings. -/
def rebuilt (db : Database) (now : Instant) : Answer :=
  (new db.settings).load now db.store.exportText

end Database

/-- A database with a stack that stays. -/
structure Session where
  database : Database
  stack : Arena
  /-- whether the stack reaches the store -/
  attached : Bool
deriving Inhabited

namespace Session

/-- A session over an empty database; a host may add words to the stack. -/
def start (settings : Settings) (attached host : Bool) : Session :=
  { database := .new settings
    stack := .new { words := if host then Dictionary.hostScope else [] }
    attached }

/-- The turn that a program takes on the stack. -/
def turn (s : Session) (now : Instant) (options : RunOptions) (source : String) : Turn :=
  { terms := { limits := s.database.settings.limits, now }
    store := if s.attached then some s.database.store else none
    options, source }

/-- Runs a program on the stack. The journal holds what this run wrote. -/
def run (s : Session) (now : Instant) (options : RunOptions) (source : String) :
    Except Failure Unit × Session :=
  match (s.turn now options source).run s.stack with
  | (result, stack) =>
    (result, { s with
      stack
      database := { s.database with store := stack.store.getD s.database.store } })

/-- The display of the top of the stack. -/
def snapshot (s : Session) : String :=
  Machine.snapshot s.database.settings.limits s.stack.frame.items

end Session

end EntityBase
