import EmbedScaffold.Literal.Basic

/-!
# Templates

A template is text with holes.  A hole shows a variable, or a member of the item of the enclosing
loop, through a filter.  A variable that the context lacks is an error wherever its value is
needed.
-/

namespace EmbedScaffold

namespace Template

/-- How a hole shows its value. -/
inductive Filter where
  | display
  | literal (level : Nat)
  | json
  | propertyKey
  deriving DecidableEq, Repr

/-- What a hole or a loop refers to: a variable of the context or of the loop, or a member of
such a variable. -/
inductive Reference where
  | variable (name : Text)
  | member (owner name : Text)
  deriving DecidableEq, Repr

/-- A part of the body of a loop or of a template without loops. -/
inductive Piece where
  | verbatim (content : Text)
  | hole (shown : Reference) (filter : Filter)
  deriving DecidableEq, Repr

/-- What a loop runs over: the items of a variable, or the members of an object. -/
inductive Source where
  | items (binder source : Text)
  | members (keyBinder valueBinder source : Text)
  deriving DecidableEq, Repr

inductive Block where
  | plain (pieces : List Piece)
  | loop (source : Source) (body : List Piece)
  deriving DecidableEq, Repr

/-- Why a template cannot be rendered. -/
inductive Fault where
  | undefinedVariable (name : Text)
  | undefinedMember (owner name : Text)
  | noLiteral (type : Text)
  | noJson
  | notIterable
  | missingTemplate (name : Text)
  | ownNameTaken
  deriving DecidableEq, Repr

namespace Fault

def message : Fault → String
  | .undefinedVariable name => s!"'{String.ofList name}' is undefined"
  | .undefinedMember owner name =>
      s!"'{String.ofList owner}' has no attribute '{String.ofList name}'"
  | .noLiteral type => s!"Cannot render {String.ofList type} as a JavaScript literal"
  | .noJson => "Value has no JSON text"
  | .notIterable => "Value has no items"
  | .missingTemplate name => String.ofList name
  | .ownNameTaken => "The variable 'self' is taken"

end Fault

/-- The variables of a template with their values. -/
abbrev Context := List (Text × Literal)

/-! ## Values -/

/-- The name of a value's type in the wording of a missing member. -/
def typeName : Literal → Text
  | .null => "None".toList
  | .boolean _ => "bool object".toList
  | .integer _ => "int object".toList
  | .decimal _ => "float object".toList
  | .text _ => "str object".toList
  | .expression _ => "embedify.scaffolder.templates.JsExpr object".toList
  | .kind _ => "embedify.parser.models.FieldType object".toList
  | .sequence false _ => "list object".toList
  | .sequence true _ => "tuple object".toList
  | .object _ => "dict object".toList
  | .bytes _ => "bytes object".toList

def lookupVariable (context : Context) (name : Text) : Except Fault Literal :=
  match context.lookup name with
  | some value => .ok value
  | none => .error (.undefinedVariable name)

def Reference.value (context : Context) : Reference → Except Fault Literal
  | .variable name => lookupVariable context name
  | .member owner name => do
      let object ← lookupVariable context owner
      match object.member? name with
      | some value => pure value
      | none => .error (.undefinedMember (typeName object) name)

/-! ## Rendering -/

/-- The name under which a missing value is reported as no literal. -/
def missingType : Text :=
  "StrictUndefined".toList

/-- Show a value, or the absence of one, through a filter. -/
def Filter.apply (filter : Filter) (value : Except Fault Literal) : Except Fault Text :=
  match filter, value with
  | .display, .ok shown => .ok shown.display
  | .display, .error fault => .error fault
  | .literal level, .ok shown => (shown.render level).mapError .noLiteral
  | .literal _, .error _ => .error (.noLiteral missingType)
  | .json, .ok shown =>
      match shown.json? with
      | some content => .ok content
      | none => .error .noJson
  | .json, .error _ => .error .noJson
  | .propertyKey, .ok shown => .ok (EmbedScaffold.propertyKey shown.display)
  | .propertyKey, .error fault => .error fault

def renderPieces (context : Context) : List Piece → Except Fault Text
  | [] => .ok []
  | .verbatim content :: rest => do
      let others ← renderPieces context rest
      pure (content ++ others)
  | .hole shown filter :: rest => do
      let content ← filter.apply (shown.value context)
      let others ← renderPieces context rest
      pure (content ++ others)

/-- The items that a loop over a value visits. -/
def itemsOf : Literal → Except Fault (List Literal)
  | .sequence _ items => .ok items
  | .object members => .ok (members.map fun (key, _) => .text key)
  | .text content => .ok (content.map fun item => .text [item])
  | .expression content => .ok (content.map fun item => .text [item])
  | .kind value => .ok (value.value.map fun item => .text [item])
  | .bytes content => .ok ((Text.encode content).map fun byte => .integer byte.toNat)
  | _ => .error .notIterable

/-- The contexts in which a loop renders its body, one after the other. -/
def Source.contexts (context : Context) : Source → Except Fault (List Context)
  | .items binder source => do
      let items ← itemsOf (← lookupVariable context source)
      pure (items.map fun item => (binder, item) :: context)
  | .members keyBinder valueBinder source => do
      let owner ← lookupVariable context source
      match owner with
      | .object pairs =>
          pure <| pairs.map fun (key, value) =>
            (keyBinder, .text key) :: (valueBinder, value) :: context
      | other => .error (.undefinedMember (typeName other) "items".toList)

def Block.render (context : Context) : Block → Except Fault Text
  | .plain pieces => renderPieces context pieces
  | .loop source body => do
      let contexts ← source.contexts context
      let turns ← contexts.mapM fun inner => renderPieces inner body
      pure turns.flatten

def render (context : Context) (template : List Block) : Except Fault Text := do
  let parts ← template.mapM (·.render context)
  pure parts.flatten

/-- The text of a template whose holes can all be filled. -/
def fill (context : Context) (template : List Block) : Text :=
  match render context template with
  | .ok content => content
  | .error _ => []

end Template

end EmbedScaffold
