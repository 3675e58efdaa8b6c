import EntityBase.StoreError
import EntityBase.Token.Lexer
import EntityBase.Value.Text

/-!
# Failures — why a program stops

A failure names its cause. Those of a word come with the word and a display
of the top of the stack at that moment: a `Complaint` says what the word
found wrong. Those of the text come with the span of the text they are
about. `Failure.message` is the one place where they are worded.
-/

namespace EntityBase

/-- What a word looks for. -/
inductive Expectation where
  | scalar
  | list
  | map
  | integer
  | name
  | entitySet
  | bitfield
  | attr
  | component
  | components
  | entity
deriving DecidableEq, Repr

/-- An expectation as messages word it. -/
def Expectation.text : Expectation → String
  | .scalar => "a value"
  | .list => "a list"
  | .map => "a map"
  | .integer => "an integer"
  | .name => "a name"
  | .entitySet => "an entity set"
  | .bitfield => "a bitfield"
  | .attr => "a component attribute"
  | .component => "a component"
  | .components => "components"
  | .entity => "an entity"

/-- What a word found wrong. Values are given by their display. -/
inductive Complaint where
  | expected (what : Expectation) (got : Kind)
  /-- no overload takes what is on the stack -/
  | noOverload (patterns : List (List Kind))
  | noBinding
  | unpairedMap
  | badMapKey (shown : String)
  | divisionByZero
  | integerOverflow
  | noArithmetic (left right : String)
  | noOrder (left right : Kind)
  | noSize (kind : Kind)
  | noKeys (kind : Kind)
  | noValues (kind : Kind)
  | indexOutOfRange (index : Int)
  | badProperty (shown : String)
  | namelessProperty
  | unknownPropertyType (name : String)
  | definitionNeedsUri
  | uriNotText
  | noDefinitionFrom (kind : Kind)
  | unidentifiable (kind : Kind)
  | componentNeedsDefinition
  | badEntityId (shown : String)
  | noEntityFrom (kind : Kind)
  | badDefId (id : Int)
  | unresolvable (shown : String)
  | attrNeedsPair
  | attrNeedsPath
  | noAttrFrom (kind : Kind)
  | cannotAdd (kind : Kind)
  | cannotRemove (shown : String)
  | notRegistered (id : ComponentId)
  | outsideSelect
  | needsTwoFilters
  | unknownDirection (shown : String)
  | badPageCount (shown : String)
  | limitNeedsPair
deriving DecidableEq, Repr

namespace Complaint

/-- A pattern of kinds in parentheses. -/
def patternText (pattern : List Kind) : String :=
  "(" ++ String.intercalate " " (pattern.map Kind.text) ++ ")"

/-- The wording of a complaint. -/
def message : Complaint → String
  | .expected what got => s!"expected {what.text}, got {got.text}"
  | .noOverload patterns =>
    "no overload matches; expected one of " ++
      String.intercalate " " (patterns.map patternText)
  | .noBinding => "no binding with this name"
  | .unpairedMap => "map literal needs key/value pairs"
  | .badMapKey shown => s!"map key must be a name, got {shown}"
  | .divisionByZero => "division by zero"
  | .integerOverflow => "integer overflow"
  | .noArithmetic left right => s!"cannot apply arithmetic to {left} and {right}"
  | .noOrder left right => s!"cannot order {left.text} and {right.text}"
  | .noSize kind => s!"{kind.text} has no size"
  | .noKeys kind => s!"{kind.text} has no keys"
  | .noValues kind => s!"{kind.text} has no values"
  | .indexOutOfRange index => s!"index {index} out of range"
  | .badProperty shown => s!"invalid property {shown}"
  | .namelessProperty => "property needs a name"
  | .unknownPropertyType name => s!"unknown property type '{name}'"
  | .definitionNeedsUri => "def needs a uri"
  | .uriNotText => "def uri must be a string"
  | .noDefinitionFrom kind => s!"cannot build a def from {kind.text}"
  | .unidentifiable kind => s!"cannot identify a def from {kind.text}"
  | .componentNeedsDefinition => s!"component needs {defIdField} or {defUriField}"
  | .badEntityId shown => s!"invalid entity id {shown}"
  | .noEntityFrom kind => s!"cannot build an entity from {kind.text}"
  | .badDefId id => s!"invalid def id {id}"
  | .unresolvable shown => s!"cannot resolve a def from {shown}"
  | .attrNeedsPair => "expected [uri pointer]"
  | .attrNeedsPath => "expected \"/uri#pointer\""
  | .noAttrFrom kind => s!"cannot build an attribute from {kind.text}"
  | .cannotAdd kind => s!"cannot add {kind.text} to an entity set"
  | .cannotRemove shown => s!"cannot remove {shown}"
  | .notRegistered id => s!"component {id.text}: {StoreError.unregistered id}"
  | .outsideSelect => "only valid inside select"
  | .needsTwoFilters => "expected two filters"
  | .unknownDirection shown => s!"unknown direction {shown}"
  | .badPageCount shown => s!"expected a non-negative number, got {shown}"
  | .limitNeedsPair => "expected [offset limit]"

end Complaint

/-- What is wrong with a piece of text. -/
inductive TextProblem where
  | noToken (text : String)
  | unknownFlag (flag : Char)
  | badPattern
  | badDate (text : String)
deriving DecidableEq, Repr

/-- The wording of what is wrong with a piece of text. -/
def TextProblem.message : TextProblem → String
  | .noToken text => s!"Invalid token: {text}"
  | .unknownFlag flag => s!"unknown regex flag '{flag}'"
  | .badPattern => "invalid regex"
  | .badDate text => s!"invalid date '{text}'"

/-- Why a program stops. -/
inductive Failure where
  | defNotFound (ident : String)
  | invalidArguments (word : String) (complaint : Complaint) (stack : String)
  | stackUnderflow (word : String)
  | runawayLoop (limit : Nat)
  | depthExceeded (limit : Nat)
  | idsExhausted (kind : IdKind)
  | incompatibleTypes (word : String) (left right : Kind)
  | schemaConflict (uri : String) (existing : DefId)
  /-- a word needs a store and there is none -/
  | noStore (word : String)
  | badText (span : Span) (problem : TextProblem)
  | unclosedScope (span : Span)
  | unexpectedClose (span : Span)
deriving DecidableEq, Repr

namespace Failure

/-- The wording of a failure. -/
def message : Failure → String
  | .defNotFound ident => s!"Component def not found: {ident}"
  | .invalidArguments word complaint stack =>
    s!"Invalid arguments for '{word}': {complaint.message} [stack: {stack}]"
  | .stackUnderflow word => s!"Stack underflow in '{word}'"
  | .runawayLoop limit => s!"Runaway loop: exceeded {limit} iterations"
  | .depthExceeded limit => s!"Nesting too deep: exceeded {limit} levels"
  | .idsExhausted kind => s!"No free {kind.text} ids left"
  | .incompatibleTypes word left right =>
    s!"Incompatible types for '{word}': {left.text} and {right.text}"
  | .schemaConflict uri existing =>
    s!"Schema conflict: {uri} is already registered with different content (def {existing})"
  | .noStore word => s!"Backend unavailable: '{word}' needs an entity set"
  | .badText span problem => s!"Lexer error at {span.text}: {problem.message}"
  | .unclosedScope span => s!"Unclosed scope opened at {span.text}"
  | .unexpectedClose span => s!"Unexpected close at {span.text}"

/-- The span of a failure that is about the text of the program. -/
def span? : Failure → Option Span
  | .badText span _ | .unclosedScope span | .unexpectedClose span => some span
  | _ => none

/-- A failure with the line of the source that it is about. -/
def context (f : Failure) (source : String) : String :=
  match f.span? with
  | some span => span.context source f.message
  | none => s!"Error: {f.message}\n"

/-- The failure of a program whose text holds no token at some place. -/
def ofRefusal (r : Lexer.Refusal) : Failure := .badText r.span (.noToken r.text)

/-- The failure of a program that the store refused something to. -/
def ofStore : StoreError → Failure
  | .defNotFound ident => .defNotFound ident
  | .schemaConflict uri existing => .schemaConflict uri existing
  | .invalidComponent id => .invalidArguments "+" (.notRegistered id) ""
  | .idsExhausted kind => .idsExhausted kind

end Failure

/-- What a computation on values objects to: the complaint of the word that
asked for it, or a refusal of the store. -/
inductive Objection where
  | complaint (c : Complaint)
  | refusal (e : StoreError)
deriving DecidableEq, Repr

end EntityBase
