import EntityBase.Failure
import EntityBase.Store.Add
import EntityBase.Value.Data

/-!
# Building — from values to things of the store

Programs write definitions, components, entities and bitfields as lists and
maps. Here such values are read; what cannot be read is objected to. An
identifier of a definition is an id, a uri, a hash, or a definition value,
which stands for the definition with its hash.
-/

namespace EntityBase

namespace Value

/-- The value of a key of a map. -/
def field? (fields : List (String × Value)) (key : String) : Option Value :=
  Entries.get? key fields

/-- Reads a property: a name, or a map with a name, a type and a default. -/
def toProperty : Value → Except Objection Property
  | .map fields =>
    match (field? fields "name").bind name? with
    | none => .error (.complaint .namelessProperty)
    | some name =>
      let default := (field? fields "default").map toJson
      match (field? fields "type").bind name? with
      | none => .ok { name, default }
      | some typeName =>
        match PropertyType.ofName? typeName with
        | some type => .ok { name, type, default }
        | none => .error (.complaint (.unknownPropertyType typeName))
  | v =>
    match v.name? with
    | some name => .ok { name }
    | none => .error (.complaint (.badProperty v.display))

/-- Reads one property or a list of them. -/
def toProperties : Value → Except Objection (List Property)
  | .list items => items.mapM toProperty
  | v => v.toProperty.map fun p => [p]

/-- Reads a schema: a uri, a list of a uri and properties, or a map. -/
def toSchema : Value → Except Objection Schema
  | .list [] => .error (.complaint .definitionNeedsUri)
  | .list (first :: rest) =>
    match first.name? with
    | none => .error (.complaint .uriNotText)
    | some uri => (rest.mapM toProperties).map fun ps => { uri, properties := ps.flatten }
  | .map fields =>
    match (field? fields "uri").bind name? with
    | none => .error (.complaint .definitionNeedsUri)
    | some uri =>
      let name := (field? fields "name").bind name?
      match field? fields "properties" with
      | none => .ok { uri, name }
      | some v => v.toProperties.map fun properties => { uri, name, properties }
  | .scalar s =>
    match s.name? with
    | some uri => .ok { uri }
    | none => .error (.complaint .uriNotText)
  | v => .error (.complaint (.noDefinitionFrom v.kind))

/-- A whole number in the range of entity ids. -/
def entityId? (v : Value) : Option EntityId := v.toInt?.bind EntityId.ofInt?

/-- Reads an entity: an id, or a list of components for one without id. -/
def toEntity : Value → Except Objection Entity
  | .scalar s =>
    match (Value.scalar s).entityId? with
    | some id => .ok { id }
    | none => .error (.complaint (.badEntityId (Value.scalar s).display))
  | .list items => items.foldlM attach {}
  | v => .error (.complaint (.noEntityFrom v.kind))
where
  attach (e : Entity) : Value → Except Objection Entity
    | .component c => .ok (e.attach c)
    | v => .error (.complaint (.expected .components v.kind))

end Value

/-! ## Definitions by identifier -/

/-- The definition that a value identifies, if it is there. -/
def Store.identified? (s : Store) : Value → Option Definition
  | .scalar (.int n) => (DefId.ofInt? n).bind fun id => s.definition? (.id id)
  | .scalar v => v.name?.bind fun name => s.definition? (DefIdent.ofText name)
  | .definition d => s.definition? (.hash d.hash)
  | _ => none

/-- Whether a value can identify a definition. -/
def Value.canIdentify : Value → Bool
  | .scalar _ | .definition _ => true
  | _ => false

/-- The definition that a value identifies. -/
def Store.identify (s : Store) (ident : Value) : Except Objection Definition :=
  if ident.canIdentify then
    match s.identified? ident with
    | some d => .ok d
    | none => .error (.refusal (.defNotFound ident.display))
  else .error (.complaint (.unidentifiable ident.kind))

/-! ## Components -/

/-- A component with the defaults of its definition. -/
def Definition.fresh (d : Definition) : Component :=
  { defId := d.id, attributes := d.defaults }

/-- The definition of a record. The hash names exact content and goes before
the uri, which names the newest definition of its own, and the uri before
the id. -/
def Store.recordDefinition (s : Store) (fields : List (String × Value)) :
    Except Objection Definition :=
  match Value.field? fields defHashField with
  | some hash =>
    match hash.name?.bind fun h => s.definition? (.hash h) with
    | some d => .ok d
    | none => .error (.refusal (.defNotFound hash.display))
  | none =>
    match (Value.field? fields defUriField).or (Value.field? fields defIdField) with
    | some ident => s.identify ident
    | none => .error (.complaint .componentNeedsDefinition)

/-- The reserved fields of a record. -/
def reservedFields : List String := [defHashField, defUriField, defIdField, entityField]

/-- Reads a record as a component. Its own fields stand over the defaults of
the definition. -/
def Store.recordComponent (s : Store) (fields : List (String × Value)) :
    Except Objection Component :=
  match s.recordDefinition fields with
  | .error e => .error e
  | .ok d =>
    let own := fields.filter fun e => !reservedFields.contains e.1
    let base := d.fresh
    let c : Component := { base with
      attributes := (Value.toJsonFields own).foldl (fun t e => t.insert e.1 e.2) base.attributes }
    match Value.field? fields entityField with
    | none => .ok c
    | some v =>
      match v.entityId? with
      | some entity => .ok { c with entity }
      | none => .error (.complaint (.badEntityId v.display))

/-- Reads a component: a record, a component, or the identifier of a
definition. -/
def Store.toComponent (s : Store) : Value → Except Objection Component
  | .map fields => s.recordComponent fields
  | .component c => .ok c
  | ident => (s.identify ident).map Definition.fresh

/-! ## Bitfields -/

/-- What is read of the parts of a bitfield so far. -/
structure MaskParts where
  mode : MaskMode := .and
  idents : List DefIdent := []
  /-- the sentinel was named, and nothing else counts -/
  all : Bool := false

/-- The mode or the sentinel that a name means in a bitfield, or else a
definition. -/
def MaskParts.named (p : MaskParts) (name : String) : MaskParts :=
  match name with
  | "all" | "*" => { p with all := true }
  | "and" => { p with mode := .and }
  | "or" => { p with mode := .or }
  | "not" | "none" => { p with mode := .not }
  | "not-all" => { p with mode := .notAll }
  | name => { p with idents := p.idents ++ [DefIdent.ofText name] }

/-- Reads one part of a bitfield. Behind the sentinel nothing is read. -/
def MaskParts.read (p : MaskParts) (v : Value) : Except Objection MaskParts :=
  if p.all then .ok p
  else
    match v with
    | .scalar (.int n) =>
      match DefId.ofInt? n with
      | some id => .ok { p with idents := p.idents ++ [.id id] }
      | none => .error (.complaint (.badDefId n))
    | .definition d => .ok { p with idents := p.idents ++ [.hash d.hash] }
    | .scalar s =>
      match s.name? with
      | some name => .ok (p.named name)
      | none => .error (.complaint (.unresolvable v.display))
    | v => .error (.complaint (.unresolvable v.kind.text))

/-- The bitfield of parts that name definitions of a store. -/
def MaskParts.resolve (p : MaskParts) (s : Store) (strict : Bool) : Except Objection Bitfield :=
  match s.resolve strict p.idents with
  | .ok b => .ok { b with mode := p.mode }
  | .error e => .error (.refusal e)

/-! ## What is added and removed -/

mutual

/-- Reads what is to be added: definitions, entities, components, records,
and lists of such. -/
def Store.toItem (s : Store) : Value → Except Objection Item
  | .definition d => .ok (.schema d.schema)
  | .entity e => .ok (.entity e)
  | .component c => .ok (.component c)
  | .map fields => (s.recordComponent fields).map .component
  | .list items => (Store.toItems s items).map .many
  | v => .error (.complaint (.cannotAdd v.kind))

/-- Reads each of several things to be added. -/
def Store.toItems (s : Store) : List Value → Except Objection (List Item)
  | [] => .ok []
  | v :: rest =>
    match Store.toItem s v with
    | .error e => .error e
    | .ok item => (Store.toItems s rest).map (item :: ·)

end

/-- What is to be removed. -/
structure Targets where
  entities : List EntityId := []
  components : List ComponentId := []

mutual

/-- Reads what is to be removed: entities, their ids, components, and lists
of such. -/
def Value.toTargets (t : Targets) : Value → Except Objection Targets
  | .entity e => .ok { t with entities := t.entities ++ [e.id] }
  | .component c => .ok { t with components := t.components ++ [c.id] }
  | .list items => Value.toTargetsAll t items
  | .scalar s =>
    match (Value.scalar s).entityId? with
    | some id => .ok { t with entities := t.entities ++ [id] }
    | none => .error (.complaint (.cannotRemove (Value.scalar s).display))
  | v => .error (.complaint (.cannotRemove v.display))

/-- Reads each of several things to be removed. -/
def Value.toTargetsAll (t : Targets) : List Value → Except Objection Targets
  | [] => .ok t
  | v :: rest =>
    match Value.toTargets t v with
    | .error e => .error e
    | .ok t => Value.toTargetsAll t rest

end

end EntityBase
