import EmbedScaffold.Console
import EmbedScaffold.Text.Lines

/-!
# Formatting by a command

A document is formatted by a command that reads it and writes the formatted text.  Formatting is
best effort: `Formatter.format` tells why there is no formatted text, and callers keep the old
one.
-/

namespace EmbedScaffold

/-- A command: its words, the directory it runs in, and its time limit in seconds. -/
structure Command where
  words : List Text
  directory : Option Text
  timeout : Int
  deriving DecidableEq, Repr

inductive CommandResult where
  | finished (code : Int) (output errors : Text)
  /-- The command does not exist. -/
  | missing (reason : Text)
  /-- The command may not be run. -/
  | forbidden (reason : Text)
  deriving DecidableEq, Repr

/-- The commands of a system, as a function of the text on their input. -/
abbrev Shell := Command → Text → CommandResult

/-- A formatting command with the directory it runs in and its time limit. -/
structure Formatter where
  command : List Text
  directory : Option Text
  timeout : Int
  deriving DecidableEq, Repr

namespace Formatter

/-- The command that formats unless another one is given. -/
def standardCommand : List Text :=
  ["npx".toList, "--no-install".toList, "prettier".toList]

/-- A formatter; an empty command stands for the standard one. -/
def ofCommand (command : List Text) (directory : Option Text) (timeout : Int) : Formatter :=
  ⟨if command.isEmpty then standardCommand else command, directory, timeout⟩

/-- The file name by which the command recognizes each language. -/
def fileNames : List (Text × Text) := [
  ("svelte".toList, "component.svelte".toList),
  ("babel".toList, "module.js".toList),
  ("javascript".toList, "module.js".toList),
  ("typescript".toList, "module.ts".toList),
  ("json".toList, "data.json".toList),
  ("css".toList, "styles.css".toList)]

/-- Whether there is a formatter for a language. -/
def supports (language : Text) : Bool :=
  (fileNames.lookup language).isSome

/-- The command that formats a document of a language. -/
def commandFor? (formatter : Formatter) (language : Text) : Option Command :=
  (fileNames.lookup language).map fun name =>
    ⟨formatter.command ++ ["--stdin-filepath".toList, name], formatter.directory,
      formatter.timeout⟩

/-- The formatted text that a command gives, or why there is none. -/
def outcome (language : Text) : CommandResult → Except Text Text
  | .missing reason => .error ("Prettier not available: ".toList ++ reason)
  | .forbidden reason => .error ("Prettier not available: ".toList ++ reason)
  | .finished code output errors =>
      if code ≠ 0 || Text.isBlankText output then
        let detail :=
          if errors.isEmpty then "exit code ".toList ++ Text.ofInt code
          else (Text.splitLines errors).head?.getD []
        .error ("Prettier failed for ".toList ++ language ++ ": ".toList ++ detail)
      else .ok output

/-- The result of formatting, with the commands that were run. -/
structure Attempt where
  result : Except Text Text
  commands : List Command

def format (formatter : Formatter) (shell : Shell) (language content : Text) : Attempt :=
  match formatter.commandFor? language with
  | none => ⟨.error ("No formatter for language '".toList ++ language ++ ['\'']), []⟩
  | some command => ⟨outcome language (shell command content), [command]⟩

end Formatter

end EmbedScaffold
