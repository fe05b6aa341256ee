import EmbedScaffold.Shell.Arithmetic
import EmbedScaffold.Shell.State

/-!
# Expanding words

A word is expanded part by part to glyphs.  Where a command takes words, the glyphs of expansions
fall apart at the separators, and patterns are replaced by the files that they name.
-/

namespace EmbedScaffold.Shell

/-- What parts of words expand to. -/
inductive Atom where
  | glyph (glyph : Glyph)
  /-- A field is there, though it may be empty. -/
  | hold
  /-- A field ends. -/
  | cut

namespace Atom

def ofText (isQuoted isExpanded : Bool) (content : Text) : List Atom :=
  content.map fun shown => .glyph ⟨shown, isQuoted, isExpanded⟩

/-- The glyphs of atoms that make up one text. -/
def glyphs (atoms : List Atom) : List Glyph :=
  atoms.filterMap fun
    | .glyph found => some found
    | .hold => none
    | .cut => some ⟨' ', true, false⟩

end Atom

/-! ## Fields -/

/-- The characters that separate words unless others are given. -/
def standardSeparators : Text :=
  " \t\n".toList

/-- The fields so far, and whether blanks have just ended one. -/
structure Splitting where
  finished : List (List Glyph) := []
  pending : Option (List Glyph) := none
  isBehindBlanks : Bool := false

namespace Splitting

/-- End the open field. -/
def close (splitting : Splitting) (isBehindBlanks : Bool) : Splitting :=
  { finished := (splitting.pending.map List.reverse).toList ++ splitting.finished
    pending := none
    isBehindBlanks := isBehindBlanks && (splitting.pending.isSome || splitting.isBehindBlanks) }

/-- Go on with an atom.  Blanks among the separators count once; each other separator ends a
field. -/
def step (separators : Text) (splitting : Splitting) : Atom → Splitting
  | .hold => { splitting with pending := some (splitting.pending.getD []), isBehindBlanks := false }
  | .cut => splitting.close false
  | .glyph glyph =>
      if glyph.isExpanded && ! glyph.isQuoted && separators.contains glyph.shown then
        if standardSeparators.contains glyph.shown then splitting.close true
        else if splitting.pending.isSome then splitting.close false
        else if splitting.isBehindBlanks then { splitting with isBehindBlanks := false }
        else { splitting with finished := [] :: splitting.finished }
      else
        { splitting with
          pending := some (glyph :: splitting.pending.getD [])
          isBehindBlanks := false }

def fields (separators : Text) (atoms : List Atom) : List (List Glyph) :=
  ((atoms.foldl (step separators) {}).close false).finished.reverse

end Splitting

def separators (frame : Frame) : Text :=
  (Action.lookUp frame "IFS".toList).getD standardSeparators

/-! ## Parts -/

/-- Running a script for its output. -/
abbrev Substitution := Script → Action Text

/-- Drop the line ends behind a text. -/
def trimNewlines (content : Text) : Text :=
  Text.trimEnd Text.isLineFeed content

namespace Expansion

open EmbedScaffold.Shell.Action

/-- The values of all parameters, as one field or as several. -/
def allParameters (frame : Frame) (name : Text) (isQuoted : Bool) : List Atom :=
  if isQuoted && name = ['*'] then
    let joint := (separators frame).take 1
    .hold :: Atom.ofText true true (Text.join joint frame.parameters)
  else
    let fields := frame.parameters.map fun value =>
      let atoms := Atom.ofText isQuoted true value
      if isQuoted then .hold :: atoms else atoms
    (fields.intersperse [.cut]).flatten

/-- The home directory, if a word begins with its sign, and the rest of the word. -/
def splitHome (frame : Frame) (word : Word) : List Atom × Word :=
  match word with
  | .plain ('~' :: rest) false :: parts =>
      let isWhole := if rest.isEmpty then parts.isEmpty else rest.head? = some '/'
      match if isWhole then lookUp frame "HOME".toList else none with
      | some home =>
          (.hold :: Atom.ofText true false home, .plain rest false :: parts)
      | none => ([], word)
  | _ => ([], word)

/-- The atoms of a value; a quoted one is a field even if it is empty. -/
def shown (isQuoted : Bool) (value : Text) : List Atom :=
  if isQuoted then .hold :: Atom.ofText true true value else Atom.ofText false true value

/-- Evaluate arithmetic: the digits of the value. -/
def evaluate (expression : Text) : Action Text := do
  let known := lookUp (← frame)
  match Arithmetic.evaluate (fun name => (known name).getD []) expression with
  | .error message => fault message
  | .ok (value, settings) => do
      settings.reverse.forM fun (name, number) => assign name (Text.ofInt number)
      pure (Text.ofInt value)

mutual

/-- Expand a part of a word.  Plain text in the word of a parameter falls apart as well. -/
def part (substitute : Substitution) (isInner : Bool) (fuel : Nat) (expanded : Part) :
    Action (List Atom) :=
  match fuel with
  | 0 => pure []
  | fuel + 1 =>
      match expanded with
      | .plain content isQuoted =>
          pure <|
            if isQuoted then .hold :: Atom.ofText true false content
            else Atom.ofText false isInner content
      | .sum expression isQuoted => do
          let content ← text substitute fuel expression
          let value ← evaluate content
          pure (shown isQuoted value)
      | .output script isQuoted => do
          let content ← substitute script
          pure (shown isQuoted (trimNewlines (content.filter (· ≠ '\x00'))))
      | .parameter name change isQuoted => parameter substitute fuel name change isQuoted
termination_by structural fuel

def parameter (substitute : Substitution) (fuel : Nat) (name : Text) (change : Change)
    (isQuoted : Bool) : Action (List Atom) :=
  match fuel with
  | 0 => pure []
  | fuel + 1 => do
      let known ← frame
      let value := lookUp known name
      let isList := name = ['@'] || name = ['*']
      let current : List Atom :=
        if isList then allParameters known name isQuoted else shown isQuoted (value.getD [])
      let isMissing (alsoEmpty : Bool) : Bool := value.isNone || (alsoEmpty && value = some [])
      let insistsOnValue := known.flags.contains 'u' && ! isList && value.isNone
      match change with
      | .malformed => fault "Bad substitution".toList
      | .keep =>
          if insistsOnValue then fault (name ++ ": parameter not set".toList) else pure current
      | .measure =>
          if insistsOnValue then fault (name ++ ": parameter not set".toList)
          else pure (shown isQuoted (Text.ofNat (value.getD []).length))
      | .fallback alsoEmpty word =>
          if isMissing alsoEmpty then inner substitute fuel isQuoted word else pure current
      | .alternative alsoEmpty word =>
          if isMissing alsoEmpty then pure (shown isQuoted [])
          else inner substitute fuel isQuoted word
      | .assign alsoEmpty word =>
          if isMissing alsoEmpty then do
            let content ← text substitute fuel word
            if ! isName name then fault (name ++ ": bad variable name".toList)
            else do
              assign name content
              pure (shown isQuoted content)
          else pure current
      | .insist alsoEmpty word =>
          if isMissing alsoEmpty then do
            let content ← text substitute fuel word
            let reason :=
              if ! word.isEmpty then content
              else "parameter not set".toList ++ if alsoEmpty then " or null".toList else []
            fault (name ++ ": ".toList ++ reason)
          else pure current
      | .cutStart isLongest pattern => do
          let wanted ← parts substitute true fuel pattern
          pure (shown isQuoted (Pattern.cutStart isLongest (Atom.glyphs wanted) (value.getD [])))
      | .cutEnd isLongest pattern => do
          let wanted ← parts substitute true fuel pattern
          pure (shown isQuoted (Pattern.cutEnd isLongest (Atom.glyphs wanted) (value.getD [])))
termination_by structural fuel

/-- Expand the word of a parameter. -/
def inner (substitute : Substitution) (fuel : Nat) (isQuoted : Bool) (word : Word) :
    Action (List Atom) :=
  match fuel with
  | 0 => pure []
  | fuel + 1 => do
      let (home, rest) := splitHome (← frame) word
      let atoms ← parts substitute true fuel rest
      pure ((if isQuoted then [.hold] else []) ++ home ++ atoms)
termination_by structural fuel

def parts (substitute : Substitution) (isInner : Bool) (fuel : Nat) (word : Word) :
    Action (List Atom) :=
  match fuel with
  | 0 => pure []
  | fuel + 1 =>
      match word with
      | [] => pure []
      | first :: rest => do
          let atoms ← part substitute isInner fuel first
          let others ← parts substitute isInner fuel rest
          pure (atoms ++ others)
termination_by structural fuel

def text (substitute : Substitution) (fuel : Nat) (word : Word) : Action Text :=
  match fuel with
  | 0 => pure []
  | fuel + 1 => do
      let (home, rest) := splitHome (← frame) word
      let atoms ← parts substitute false fuel rest
      pure (Glyph.text (Atom.glyphs (home ++ atoms)))
termination_by structural fuel

end

def pattern (substitute : Substitution) (fuel : Nat) (word : Word) : Action (List Glyph) := do
  let (home, rest) := splitHome (← frame) word
  let atoms ← parts substitute false fuel rest
  pure (Atom.glyphs (home ++ atoms))

/-- Expand a word to the words of a command. -/
def fields (substitute : Substitution) (fuel : Nat) (word : Word) : Action (List Text) := do
  let (home, rest) := splitHome (← frame) word
  let atoms ← parts substitute false fuel rest
  let known ← frame
  let separated := Splitting.fields (separators known) (home ++ atoms)
  if known.flags.contains 'f' then pure (separated.map Glyph.text)
  else
    let site := (← world).site
    pure (separated.flatMap (Pattern.filesOf site known.directory))

/-- Expand the words of a command one after the other. -/
def allFields (substitute : Substitution) (fuel : Nat) : List Word → Action (List Text)
  | [] => pure []
  | first :: rest => do
      let found ← fields substitute fuel first
      let others ← allFields substitute fuel rest
      pure (found ++ others)

end Expansion

end EmbedScaffold.Shell
