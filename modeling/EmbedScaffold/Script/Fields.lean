import EmbedScaffold.Script.Analysis
import EmbedScaffold.Script.Plain

/-!
# The fields of a script

Every variable that a top-level `let` declaration of a script names is a field.  Its default is
the value of its initializer if that is a string, a number or a truth value.  A plain script is
read line by line; of any other one the tree is searched for declarations.
-/

namespace EmbedScaffold

namespace Script

namespace Symbol

/-- A declaration of variables by `let` or `const`. -/
def lexicalDeclaration : Symbol := symbolNamed "lexical-declaration"

def declarator : Symbol := symbolNamed "variable-declarator"

end Symbol

namespace Tree

/-! ## Values -/

def textIn (source : Source) (tree : Tree) : Text :=
  source.textBetween tree.facts.start tree.facts.stop

/-- The codes that a part of a string stands for. -/
def partCodes (source : Source) (part : Tree) : Except Fault (List Nat) :=
  let content := part.textIn source
  if part.symbol = symbolNamed "escape" then decodeEscape (content.drop 1) else .ok (codes content)

/-- The codes that the parts of a string between its quotes stand for. -/
def stringCodes (source : Source) (tree : Tree) : Except Fault (List Nat) := do
  let inside := tree.parts.filter fun part =>
    part.symbol ≠ symbolNamed "\"" && part.symbol ≠ symbolNamed "'"
  let decoded ← inside.mapM (partCodes source)
  pure decoded.flatten

/-- The value of a tree, if it is a literal one. -/
def value (source : Source) (tree : Tree) : Except Fault (Option Scalar) :=
  if tree.symbol = symbolNamed "string" then do
    let codes ← tree.stringCodes source
    pure (some (.ofCodes codes))
  else if tree.symbol = symbolNamed "number" then .ok (numberValue (tree.textIn source))
  else if tree.symbol = symbolNamed "true" then .ok (some (.boolean true))
  else if tree.symbol = symbolNamed "false" then .ok (some (.boolean false))
  else .ok none

/-! ## Declarations -/

/-- The children of a node that have a place in its rule. -/
def members (tree : Tree) : List Tree :=
  tree.children.filter (! ·.isExtra)

/-- The declaration that a statement is or exports. -/
def declaration? (statement : Tree) : Option Tree :=
  if statement.symbol = Symbol.lexicalDeclaration then some statement
  else if statement.symbol = symbolNamed "export-statement" then
    ((statement.members.filter (·.symbol = symbolNamed "_declaration")).flatMap seen).find?
      (·.symbol = Symbol.lexicalDeclaration)
  else none

/-- The name that a declarator declares, unless it takes a value apart. -/
def declaredName? (source : Source) (declarator : Tree) : Option Text := do
  let first ← declarator.members.head?
  let name := first.textIn source
  if (first.symbol = Symbol.name || first.symbol = symbolNamed "of") && isVariableName name then
    some name
  else none

/-- The initial value that a declarator gives. -/
def initialValue? (declarator : Tree) : Option Tree := do
  let initializer ← declarator.members.find? (·.symbol = symbolNamed "_initializer")
  let value ← initializer.members[1]?
  value.seen.head?

def declaredFields (source : Source) (declaration : Tree) : Except Fault (List Field) :=
  if declaration.parts.head?.any (·.symbol = symbolNamed "let") then do
    let declared := declaration.parts.filterMap fun part =>
      if part.symbol = Symbol.declarator then (part.declaredName? source).map (part, ·) else none
    declared.mapM fun (part, name) => do
      let default ← part.initialValue?.elim (pure none) (value source)
      pure ⟨name, default⟩
  else .ok []

/-- The fields that the statements of a script declare. -/
def fields (source : Source) (script : Tree) : Except Fault (List Field) := do
  let declared ← (script.parts.filterMap declaration?).mapM (declaredFields source)
  pure declared.flatten

end Tree

/-! ## Fields -/

/-- The fields that a script declares, by its best tree. -/
def fieldsOfTree (content : Text) : Option Tree → Except Fault (List Field)
  | none => .error (.malformed none)
  | some script =>
      let source := Source.ofText content
      if script.cost = 0 then script.fields source
      else .error (.malformed (script.fault?.map fun start => source.rowsBetween 0 start + 1))

/-- The fields that a script declares, by its tree. -/
def analysedFields (content : Text) : Except Fault (List Field) :=
  fieldsOfTree content (Tree.ofScript? content)

/-- The fields that a script declares, in order. -/
def fields (content : Text) : Except Fault (List Field) :=
  match Plain.fields? content with
  | some fields => .ok fields
  | none => analysedFields content

end Script

end EmbedScaffold
