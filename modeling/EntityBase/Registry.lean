import EntityBase.Bitfield
import EntityBase.Schema
import EntityBase.Update
import Std.Data.TreeMap

/-!
# The registry — definitions and their ids

Definitions are numbered densely from `1` in the order of registration.
Registering content that is known already gives back its id and changes
nothing. New content under a known uri gets a fresh id: the uri then
resolves to the newest definition, and the older one stays reachable by id
and by hash. With shadowing off that is a conflict instead.
-/

namespace EntityBase

/-- An identifier of a definition. -/
inductive DefIdent where
  | id (id : DefId)
  | uri (uri : String)
  | hash (hash : String)
deriving DecidableEq, Repr

namespace DefIdent

/-- A text with a slash in front is a uri, any other one a hash. -/
def ofText (text : String) : DefIdent :=
  if text.toList.head? = some '/' then .uri text else .hash text

/-- The identifier as messages show it. -/
def text : DefIdent → String
  | .id n => toString n
  | .uri u => u
  | .hash h => "#" ++ h

end DefIdent

/-- What a registration came to. -/
inductive Registration where
  /-- the content was new, and so was the uri -/
  | created (id : DefId)
  /-- the content was known -/
  | existing (id : DefId)
  /-- the content was new under a known uri -/
  | shadowed (id previous : DefId)
deriving DecidableEq, Repr

/-- The id under which the content is registered. -/
def Registration.id : Registration → DefId
  | .created n | .existing n | .shadowed n _ => n

/-- The registered definitions with an index by uri and one by hash. -/
structure Registry where
  /-- the definition with id `i + 1` stands at position `i` -/
  definitions : Array Definition := #[]
  byUri : Std.TreeMap String DefId := ∅
  byHash : Std.TreeMap String DefId := ∅
deriving Inhabited

namespace Registry

/-- The registry without definitions. -/
def empty : Registry := {}

/-- The number of definitions. -/
def size (r : Registry) : Nat := r.definitions.size

/-- The definitions in the order of their ids. -/
def toList (r : Registry) : List Definition := r.definitions.toList

/-- The definition with the given id. -/
def byId? (r : Registry) (id : DefId) : Option Definition :=
  if id = 0 then none else r.definitions[id - 1]?

/-- The newest definition of a uri. -/
def byUri? (r : Registry) (uri : String) : Option Definition := r.byUri[uri]?.bind r.byId?

/-- The definition with the given content hash. -/
def byHash? (r : Registry) (hash : String) : Option Definition := r.byHash[hash]?.bind r.byId?

/-- The definition that an identifier names. -/
def find? (r : Registry) : DefIdent → Option Definition
  | .id n => r.byId? n
  | .uri u => r.byUri? u
  | .hash h => r.byHash? h

/-- Registers a schema in place. Content is compared by hash before anything
else. Content that is known already is not entered again; new content enters
the index by uri, the index by hash and the definitions. -/
def registerInPlace (s : Schema) (shadowing : Bool) : Update Registry Registration := do
  let r ← get
  match r.byHash[s.contentHash]? with
  | some id => return .existing id
  | none =>
    let previous? := r.byUri[s.uri]?
    match previous?, shadowing with
    | some previous, false => throw (.schemaConflict s.uri previous)
    | _, _ =>
      let id := r.size + 1
      if maxDefId < id then throw (.idsExhausted .definition)
      else
        modify fun r => { r with byUri := r.byUri.insert s.uri id }
        modify fun r => { r with byHash := r.byHash.insert s.contentHash id }
        modify fun r => { r with definitions := r.definitions.push (s.define id) }
        match previous? with
        | some previous => return .shadowed id previous
        | none => return .created id

/-- The registry with a schema registered, and what the registration came to. -/
def register (r : Registry) (s : Schema) (shadowing : Bool) :
    Except StoreError (Registry × Registration) :=
  (registerInPlace s shadowing).result r

/-- Registers schemas in order, in place. Those in front of one that is
refused stay registered. -/
def registerAllInPlace (shadowing : Bool) : List Schema → Update Registry Unit
  | [] => pure ()
  | schema :: rest => do
    let _ ← registerInPlace schema shadowing
    registerAllInPlace shadowing rest

/-- The bitfield of the named definitions. An identifier that names none is
refused when `strict`, and skipped otherwise. -/
def resolve (r : Registry) (strict : Bool) : List DefIdent → Except StoreError Bitfield
  | idents => go Bitfield.empty idents
where
  go (acc : Bitfield) : List DefIdent → Except StoreError Bitfield
    | [] => .ok acc
    | ident :: rest =>
      match r.find? ident with
      | some d => go (acc.insert d.id) rest
      | none => if strict then .error (.defNotFound ident.text) else go acc rest

end Registry

end EntityBase
