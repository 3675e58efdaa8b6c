import EntityBase.Value.Basic

/-!
# The display of values

`Value.render` writes a value as messages and printed lines show it. The
fields of a component are shown as stored data are, everything else in the
forms of the language.
-/

namespace EntityBase.Value

mutual

/-- The display of a value. -/
def render : Value → List Char
  | .scalar s => s.render
  | .list items => '[' :: (renderItems items ++ [']'])
  | .map fields => '\x7b' :: (renderFields fields ++ ['\x7d'])
  | .entity e => "(e ".toList ++ ((toString e.id).toList ++ ' ' :: (e.shape.text.toList ++ [')']))
  | .entitySet => "(es *)".toList
  | .component c => "(c ".toList ++ (c.id.text.toList ++ ' ' :: (c.object.render ++ [')']))
  | .definition d => "(d ".toList ++ ((toString d.id).toList ++ ' ' :: (d.uri.toList ++ [')']))
  | .attr a => a.text.toList
  | .bitfield b => b.text.toList
  | .pattern p => "~r/".toList ++ (p.source.toList ++ ['/'])
  | .instant t => "~d|".toList ++ (t.millisText.toList ++ ['|'])
  | .filter f => renderFilter f

/-- Items with blanks between them. -/
def renderItems : List Value → List Char
  | [] => []
  | [v] => render v
  | v :: rest => render v ++ ' ' :: renderItems rest

/-- Keys and values with blanks between them. -/
def renderFields : List (String × Value) → List Char
  | [] => []
  | [(k, v)] => Text.Quoted.encode k ++ ' ' :: render v
  | (k, v) :: rest => Text.Quoted.encode k ++ ' ' :: (render v ++ ' ' :: renderFields rest)

/-- The display of a filter. -/
def renderFilter : Filter Value → List Char
  | .and l r => "(and ".toList ++ (renderFilter l ++ ' ' :: (renderFilter r ++ [')']))
  | .or l r => "(or ".toList ++ (renderFilter l ++ ' ' :: (renderFilter r ++ [')']))
  | .compare op a v =>
    '(' :: (op.text.toList ++ ' ' :: (a.text.toList ++ ' ' :: (render v ++ [')'])))

end

/-- The display of a value, as a string. -/
def display (v : Value) : String := String.ofList v.render

end EntityBase.Value
