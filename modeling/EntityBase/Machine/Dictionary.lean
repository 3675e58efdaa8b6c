import EntityBase.Machine.Word

/-!
# The dictionary — the words that are always there

Overloads of one name are tried in the order in which they are listed, so
the more special one stands first. The words of select programs are in a
list of their own: a select program finds them before anything else.
-/

namespace EntityBase.Dictionary

/-- A native word. -/
def word (pattern : List Kind) (n : Native) : Word := ⟨pattern, .native n⟩

/-- The overloads of a set operation. -/
def algebra (op : SetOp) : List Word :=
  [word [.list, .list] (.collection (.algebra op)),
   word [.map, .map] (.collection (.algebra op)),
   word [.bitfield, .bitfield] (.collection (.algebra op)),
   word [.any, .any] (.collection .noAlgebra)]

/-- The words that every program finds behind its own. -/
def builtin : String → List Word
  | "drop" => [word [.any] (.shuffle .drop)]
  | "pop" => [word [.list] (.shuffle .last), word [.any] (.shuffle .drop)]
  | "dup" => [word [.any] (.shuffle .dup)]
  | "swap" => [word [.any, .any] (.shuffle .swap)]
  | "rot" => [word [.any, .any, .any] (.shuffle .rot)]
  | "over" => [word [.any, .any] (.shuffle .over)]
  | "clear" => [word [] (.shuffle .clear)]
  | "gather" => [word [] (.shuffle .gather)]
  | "size" =>
    [word [.list] (.shuffle .size), word [.map] (.shuffle .size),
     word [.scalar] (.shuffle .size), word [.entitySet] (.shuffle .size)]
  | "+" =>
    [word [.scalar, .scalar] (.logic (.arithmetic .add)),
     word [.entitySet, .any] (.store .add),
     word [.entity, .component] (.store .attach),
     word [.entity, .list] (.store .attach)]
  | "-" =>
    [word [.scalar, .scalar] (.logic (.arithmetic .sub)),
     word [.entitySet, .any] (.store .remove)]
  | "*" => [word [.scalar, .scalar] (.logic (.arithmetic .mul))]
  | "/" => [word [.scalar, .scalar] (.logic (.arithmetic .div))]
  | "%" => [word [.scalar, .scalar] (.logic (.arithmetic .rem))]
  | "==" => [word [.any, .any] (.logic .equal)]
  | "!=" => [word [.any, .any] (.logic .unequal)]
  | "<" => [word [.any, .any] (.logic .less)]
  | "<=" => [word [.any, .any] (.logic .lessEqual)]
  | ">" => [word [.any, .any] (.logic .greater)]
  | ">=" => [word [.any, .any] (.logic .greaterEqual)]
  | "and" => [word [.any, .any] (.logic .and)]
  | "or" => [word [.any, .any] (.logic .or)]
  | "not" => [word [.any] (.logic .not)]
  | "push" => [word [.list, .any] (.collection .push)]
  | "concat" =>
    [word [.list, .list] (.collection .concat),
     word [.scalar, .scalar] (.collection .concatText)]
  | "get" =>
    [word [.list, .scalar] (.collection .getIndex),
     word [.map, .scalar] (.collection .getKey),
     word [.component, .scalar] (.collection .getField),
     word [.entitySet, .scalar] (.store .getEntity),
     word [.entitySet, .list] (.store .getEntity),
     word [.entity, .scalar] (.store .getComponent)]
  | "set" =>
    [word [.list, .scalar, .any] (.collection .setIndex),
     word [.map, .scalar, .any] (.collection .setKey),
     word [.component, .scalar, .any] (.collection .setField)]
  | "keys" => [word [.map] (.collection .keys), word [.component] (.collection .keys)]
  | "values" => [word [.map] (.collection .values), word [.component] (.collection .values)]
  | "union" => algebra .union
  | "intersect" => algebra .intersect
  | "diff" => algebra .diff
  | "define" =>
    [word [.list, .scalar] (.control .define), word [.any, .scalar] (.control .bind)]
  | "let" => [word [.any, .scalar] (.control .bind)]
  | "spread" => [word [.list] (.control .spread)]
  | "eval" => [word [.list] (.control .eval)]
  | "if" => [word [.any, .list] (.control .ifTrue)]
  | "iif" => [word [.any, .list, .list] (.control .ifElse)]
  | "loop" => [word [.list] (.control .loop)]
  | "break" => [word [] (.control .escape)]
  | "map" => [word [.list, .list] (.control .map)]
  | "filter" => [word [.list, .list] (.control .filter)]
  | "reduce" => [word [.list, .any, .list] (.control .reduce)]
  | "print" => [word [.any] (.control .print)]
  | "@es" => [word [] (.store .entitySet)]
  | "@defs" => [word [.entitySet] (.store .definitions)]
  | "!d" =>
    [word [.list] (.store .buildDefinition), word [.map] (.store .buildDefinition),
     word [.scalar] (.store .buildDefinition)]
  | "!c" =>
    [word [.list] (.store .buildComponents), word [.map] (.store .buildComponents),
     word [.scalar] (.store .buildComponents), word [.definition] (.store .buildComponents)]
  | "!e" => [word [.scalar] (.store .buildEntity), word [.list] (.store .buildEntity)]
  | "!bf" => [word [.list] (.store .buildBitfield), word [.scalar] (.store .buildBitfield)]
  | "!ca" =>
    [word [.bitfield, .scalar] (.store .buildAttrOfMask),
     word [.list] (.store .buildAttr), word [.scalar] (.store .buildAttr)]
  | "remove" => [word [.entitySet, .any] (.store .remove)]
  | "select" => [word [.entitySet, .list] (.control .select)]
  | _ => []

/-- The overloads of a comparison in select programs. -/
def comparison (op : CompareOp) : Words :=
  [(op.text, word [.attr, .any] (.select (.compare op))),
   (op.text, word [.any, .attr] (.select (.compare op)))]

/-- The words of select programs. -/
def selectScope : Words :=
  comparison .eq ++ comparison .ne ++ comparison .lt ++ comparison .le ++ comparison .gt ++
    comparison .ge ++
  [("and", word [.filter, .filter] (.select .and)),
   ("or", word [.filter, .filter] (.select .or)),
   ("order", word [.attr, .scalar] (.select .order)),
   ("order", word [.attr] (.select .order)),
   ("limit", word [.list] (.select .limit)),
   ("limit", word [.scalar] (.select .limit)),
   ("count", word [] (.select .count)),
   ("@e", word [] (.select (.read .entities))),
   ("@eid", word [] (.select (.read .entityIds))),
   ("@c", word [] (.select (.read .components))),
   ("@cid", word [] (.select (.read .componentIds))),
   ("@ca", word [.attr] (.select .readField)),
   ("!fil", word [] (.select .narrow))]

/-- The words that a host adds to reach the stack by its interface, the
last one that was added first. -/
def hostScope : Words :=
  [("size", word [.any, .instant] (.host .two)),
   ("size", word [.instant] (.host .one)),
   ("host.any", word [] (.host .popAny)),
   ("host.value", word [] (.host .popScalar)),
   ("host.list", word [] (.host .popList)),
   ("host.map", word [] (.host .popMap)),
   ("host.int", word [] (.host .popInteger)),
   ("host.name", word [] (.host .popName)),
   ("host.es", word [] (.host .popEntitySet)),
   ("host.bf", word [] (.host .popBitfield)),
   ("host.attr", word [] (.host .popAttr)),
   ("host.drain", word [] (.host .drain)),
   ("host.escape", word [.any] (.host .escape)),
   ("host.eval", word [] (.host .eval))]

end EntityBase.Dictionary
