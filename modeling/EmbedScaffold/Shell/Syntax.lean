import EmbedScaffold.Text.Basic

/-!
# The parts of shell scripts

A script is a tree of simple commands.  A command is made of words, and a word of parts: plain
text, parameters, the output of a script, and arithmetic.  A script works on bytes, so each
character of these texts stands for the byte with its number.
-/

namespace EmbedScaffold.Shell

inductive Opening where
  | reading
  | writing
  /-- Writing to a file that may be there already. -/
  | replacing
  | appending
  | both
  deriving DecidableEq, Repr

mutual

/-- A part of a word.  What is quoted neither falls apart nor names files. -/
inductive Part where
  | plain (content : Text) (isQuoted : Bool)
  | parameter (name : Text) (change : Change) (isQuoted : Bool)
  /-- What a script prints. -/
  | output (script : Script) (isQuoted : Bool)
  /-- The value of an arithmetic expression. -/
  | sum (expression : List Part) (isQuoted : Bool)

/-- What is made of the value of a parameter.  A condition that holds for an unset parameter may
also hold for an empty one. -/
inductive Change where
  | keep
  | measure
  /-- Take a word instead, if there is no value. -/
  | fallback (alsoEmpty : Bool) (word : List Part)
  /-- Set the parameter to a word, if there is no value. -/
  | assign (alsoEmpty : Bool) (word : List Part)
  /-- End the script with a word, if there is no value. -/
  | insist (alsoEmpty : Bool) (word : List Part)
  /-- Take a word instead, if there is a value. -/
  | alternative (alsoEmpty : Bool) (word : List Part)
  /-- Cut off the start that a pattern matches. -/
  | cutStart (isLongest : Bool) (pattern : List Part)
  /-- Cut off the end that a pattern matches. -/
  | cutEnd (isLongest : Bool) (pattern : List Part)
  | malformed

/-- Where a stream leads. -/
inductive Redirection where
  | file (stream : Nat) (opening : Opening) (name : List Part)
  /-- To where another stream leads; a hyphen closes it. -/
  | duplicate (stream : Nat) (source : List Part)
  /-- To a text in the script, by its number. -/
  | document (stream number : Nat)

/-- A script.  Commands know the line they stand on. -/
inductive Script where
  | nothing
  | simple (line : Nat) (assignments : List (Text × List Part)) (words : List (List Part))
      (redirections : List Redirection)
  | redirected (line : Nat) (inner : Script) (redirections : List Redirection)
  | subshell (inner : Script)
  | background (inner : Script)
  | pipeline (commands : List Script)
  | negated (inner : Script)
  | both (first second : Script)
  | either (first second : Script)
  | sequence (first second : Script)
  | condition (test consequence alternative : Script)
  /-- The body runs again and again, as long as the test succeeds or fails. -/
  | loop (untilSuccess : Bool) (test body : Script)
  /-- The body runs for each word; without words, for each parameter. -/
  | each (line : Nat) (name : Text) (words : Option (List (List Part))) (body : Script)
  /-- The first branch with a pattern that matches the subject runs. -/
  | choice (line : Nat) (subject : List Part) (branches : List (List (List Part) × Script))
  | definition (name : Text) (body : Script)

end

abbrev Word := List Part

instance : Inhabited Script := ⟨.nothing⟩

/-! ## Names -/

/-- A character that names are made of. -/
def isNamePart (tested : Char) : Bool :=
  tested.isAlphanum || tested == '_'

/-- A character that names begin with. -/
def isNameStart (tested : Char) : Bool :=
  tested.isAlpha || tested == '_'

/-- A parameter that a single mark names. -/
def isSpecialName (tested : Char) : Bool :=
  "@*#?$!-".toList.contains tested

def isName (content : Text) : Bool :=
  content.head?.any isNameStart && content.all isNamePart

/-- The name that a text assigns to, and the text behind the sign. -/
def splitAssignment? (content : Text) : Option (Text × Text) :=
  let name := content.takeWhile isNamePart
  match content.drop name.length with
  | '=' :: value => if isName name then some (name, value) else none
  | _ => none

/-- The name that a word assigns to, and its value. -/
def assignment? : Word → Option (Text × Word)
  | .plain content false :: parts =>
      (splitAssignment? content).map fun (name, value) =>
        (name, if value.isEmpty && ! parts.isEmpty then parts else .plain value false :: parts)
  | _ => none

def reservedWords : List Text :=
  ["!", "case", "do", "done", "elif", "else", "esac", "fi", "for", "if", "in", "then", "until",
    "while", "\x7b", "\x7d"].map String.toList

/-- The commands whose faults end a script. -/
def specialCommands : List Text :=
  [".", ":", "break", "continue", "eval", "exec", "exit", "export", "readonly", "return", "set",
    "shift", "times", "trap", "unset"].map String.toList

end EmbedScaffold.Shell
