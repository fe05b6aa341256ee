import EmbedScaffold.Registry.Upsert

/-!
# Upserting a clause of a switch

Mock data lives in a function that switches on the lookup key.  `upsertCase` replaces the clause
of a key in place, or inserts one before the default clause, or at the end.
-/

namespace EmbedScaffold

/-- A clause of a switch, by offsets; its end is that of its last token. -/
structure Clause where
  key : Option Text
  isDefault : Bool
  start : Nat
  stop : Nat
  deriving DecidableEq, Repr

/-- What a switch clause is to become. -/
structure CaseUpsert where
  function : Text
  discriminant : Text
  key : Text
  body : Text

namespace Switch

/-! ## Locating -/

/-- The braces of the body of the first function called `name`, by token index. -/
def functionBody? (document : Document) (name : Text) : Option (Nat × Nat) :=
  (List.range (document.tokens.size - 2)).findSome? fun index =>
    if document.isWordAt index "function".toList && document.isWordAt (index + 1) name &&
        document.isPunctAt (index + 2) '(' then
      let body := document.closer (index + 2) + 1
      if document.isPunctAt body '\x7b' then some (body, document.closer body) else none
    else none

/-- The braces of the first switch on `discriminant` between two token indices. -/
def switchBody? (document : Document) (start stop : Nat) (discriminant : Text) :
    Option (Nat × Nat) :=
  (List.range' start (stop - 3 - start)).findSome? fun index =>
    if document.isWordAt index "switch".toList && document.isPunctAt (index + 1) '(' then
      let closing := document.closer (index + 1)
      let body := closing + 1
      if closing = index + 3 && document.isWordAt (index + 2) discriminant && body < stop &&
          document.isPunctAt body '\x7b' then
        some (body, document.closer body)
      else none
    else none

/-! ## Clauses -/

/-- The key of a case label: a quoted string, or a template without substitutions. -/
def caseLabel (label : Token) : Option Text :=
  match label.kind with
  | .string => some (Token.quotedValue label.value)
  | .template =>
      if Text.includes label.value ['$', '\x7b'] then none
      else some (Token.quotedValue label.value)
  | _ => none

/-- Whether the token at an index begins a clause. -/
def isHead (document : Document) (index : Nat) : Bool :=
  document.isWordAt index "case".toList ||
    (document.isWordAt index "default".toList && document.isPunctAt (index + 1) ':')

/-- The clause whose tokens lie from `head` up to `stop`. -/
def clauseAt (document : Document) (head stop : Nat) : Clause :=
  let isCase := document.isWordAt head "case".toList
  let key := if isCase then (document.token? (head + 1)).bind caseLabel else none
  ⟨key, ! isCase, document.startOf head, document.stopOf (stop - 1)⟩

/-- The clauses that begin at the given heads, the last of which ends before `closing`. -/
def clausesFrom (document : Document) (closing : Nat) : List Nat → List Clause
  | [] => []
  | [head] => [clauseAt document head closing]
  | head :: next :: heads =>
      clauseAt document head next :: clausesFrom document closing (next :: heads)

/-- The token indices outside all brackets between two indices. -/
def clauseHeads (document : Document) (start stop : Nat) : List Nat :=
  (document.topLevelWhere (fun token => token.kind = .word) start stop).filter (isHead document)

/-- The clauses of a switch whose braces are the tokens at the given indices. -/
def clauses (document : Document) (opening closing : Nat) : List Clause :=
  clausesFrom document closing (clauseHeads document (opening + 1) closing)

/-- The indentation for a clause: that of the first clause that begins its line, else one step
more than the line of the opening brace. -/
def clauseIndent (content : Text) (existing : List Clause) (opened : Nat) : Text :=
  match existing.find? fun clause => Text.startsLine content clause.start with
  | some clause => Text.lineIndent content clause.start
  | none => Text.lineIndent content opened ++ Text.indentStep

/-- The text of a clause at an indentation. -/
def clauseText (key body indent : Text) : Text :=
  "case ".toList ++ singleQuoted key ++ ":\n".toList ++ indent ++ Text.indentStep ++
    Text.reindent (Text.strip body) (indent ++ Text.indentStep)

/-- Insert a clause before the default clause, behind the last clause, or into an empty body. -/
def insertClause (content : Text) (existing : List Clause) (opened closed : Nat)
    (indent clause : Text) : Text :=
  match existing.find? (·.isDefault), existing.getLast? with
  | some default, _ =>
      Text.splice content default.start default.start (clause ++ "\n\n".toList ++ indent)
  | none, some last => Text.splice content last.stop last.stop ("\n\n".toList ++ indent ++ clause)
  | none, none =>
      let inner := Text.stripEnd (Text.slice content (opened + 1) closed)
      Text.splice content (opened + 1) closed
        (inner ++ ['\n'] ++ indent ++ clause ++ ['\n'] ++ Text.lineIndent content opened)

end Switch

open Switch in
/-- Make the switch of a function hold exactly one clause for a key; `none` if the document has no
such function or switch. -/
def upsertCase (content : Text) (wanted : CaseUpsert) : Except PatchFault (Option Outcome) := do
  let document ← Document.forEdit content
  match functionBody? document wanted.function with
  | none => return none
  | some (bodyOpening, bodyClosing) =>
      match switchBody? document (bodyOpening + 1) bodyClosing wanted.discriminant with
      | none => return none
      | some (opening, closing) =>
          let existing := clauses document opening closing
          let opened := document.startOf opening
          let indent := clauseIndent content existing opened
          let clause := clauseText wanted.key wanted.body indent
          match existing.filter (·.key = some wanted.key) with
          | [] =>
              let inserted :=
                insertClause content existing opened (document.startOf closing) indent clause
              return some ⟨inserted, true⟩
          | [target] =>
              return some <| Outcome.ofTexts content <|
                Text.splice content target.start target.stop clause
          | _ => .error (.duplicateCase wanted.key wanted.function)

end EmbedScaffold
