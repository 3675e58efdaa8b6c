import EntityBase.Store.Add

/-!
# Reports — what a call tells its host

A call on a store tells its host how many entities and components it
changed, and which definitions took over a uri. When asked for, it also
names every single change, in the order in which the changes are made.
Reports are functions of the store before the call, beside the call itself.
-/

namespace EntityBase

/-- How urgent a notice is. -/
inductive Level where
  | debug
  | info
  | warning
deriving DecidableEq, Repr

/-- The name of a level. -/
def Level.text : Level → String
  | .debug => "DEBUG"
  | .info => "INFO"
  | .warning => "WARN"

/-- One line for the host. -/
structure Notice where
  level : Level
  message : String
deriving DecidableEq, Repr

/-- The line with its level in front. -/
def Notice.text (n : Notice) : String := n.level.text ++ " " ++ n.message

namespace Store

/-- The counts of a change set, `+added ~updated -removed`. -/
def counts {κ : Type} [Ord κ] [Std.TransOrd κ] [Std.LawfulEqOrd κ] (c : ChangeSet κ) : String :=
  s!"+{c.countMarked .added} ~{c.countMarked .updated} -{c.countMarked .removed}"

/-- The summary after a call. -/
def summary (s : Store) (call : String) : Notice :=
  ⟨.info, s!"{call} on *: entities {counts s.changes.entities}, components {counts s.changes.components}"⟩

/-- The warning of a registration that took over a uri. -/
def shadowNotices (uri : String) : Registration → List Notice
  | .shadowed id previous =>
    [⟨.warning, s!"{uri} re-registered with different content: def {id} now shadows def {previous}"⟩]
  | _ => []

/-- The report of registering one schema. -/
def registerReport (s : Store) (schema : Schema) : List Notice :=
  match s.registry.register schema s.shadowing with
  | .ok (_, outcome) => shadowNotices schema.uri outcome
  | .error _ => []

/-- The report of registering schemas in order, up to one that is refused. -/
def registerAllReport (shadowing : Bool) (r : Registry) : List Schema → List Notice
  | [] => []
  | schema :: rest =>
    match r.register schema shadowing with
    | .error _ => []
    | .ok (r', outcome) => shadowNotices schema.uri outcome ++ registerAllReport shadowing r' rest

/-- The changes of writing rows, one by one. -/
def writeDetails (s : Store) (rows : List (ComponentId × Component)) : List Notice :=
  rows.filterMap fun (id, c) =>
    match s.components.get? id with
    | some old => if old.sameContent c then none else some ⟨.debug, s!"update component {id.text}"⟩
    | none => some ⟨.debug, s!"add component {id.text}"⟩

/-- The changes of taking rows away, one by one: rows first, then the
entities that none is left of. -/
def dropDetails (s : Store) (rows : KeySet ComponentId) : List Notice :=
  let present := rows.keys.filter s.components.contains
  let emptied := (s.ownersOf rows.keys).filter fun id =>
    match (present.foldl dropRow s).entities.get? id with
    | some shape => shape.isEmpty
    | none => false
  present.map (fun id => ⟨.debug, s!"remove component {id.text}"⟩) ++
    emptied.map fun id => ⟨.debug, s!"remove entity {id}"⟩

/-- The report of an addition. A refused one reports no more than the
definitions that took over a uri before it was. -/
def addReport (s : Store) (item : Item) (options : CallOptions) : List Notice :=
  let batch := item.batch
  registerAllReport s.shadowing s.registry batch.schemas ++
    match registerAll s.shadowing s.registry batch.schemas with
    | .error _ => []
    | .ok registry =>
      match s.plan registry batch with
      | .error _ => []
      | .ok p =>
        let opened := s.opened options
        let written := p.upserts.entries.foldl (fun s row => s.writeRow row.1 row.2) opened
        let details := if options.debug then
          opened.writeDetails p.upserts.entries ++ written.dropDetails p.removals else []
        details ++ [(opened.apply p).summary "add"]

/-- The report of removing rows. -/
def dropReport (s : Store) (rows : KeySet ComponentId) (options : CallOptions) : List Notice :=
  let opened := s.opened options
  (if options.debug then opened.dropDetails rows else []) ++
    [(opened.dropRows rows).summary "remove"]

/-- The report of removing named rows. -/
def removeComponentsReport (s : Store) (ids : List ComponentId) (options : CallOptions) :
    List Notice :=
  s.dropReport (keySet ids) options

/-- The report of removing named entities. -/
def removeEntitiesReport (s : Store) (ids : List EntityId) (options : CallOptions) :
    List Notice :=
  s.dropReport (s.rowsOfAll ids) options

end Store

end EntityBase
