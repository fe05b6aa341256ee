import EmbedScaffold.Json.Reader
import EmbedScaffold.Settings.Basic

/-!
# Settings from JSON

Settings are checked value by value, and every value that does not fit is reported.  A truth value
may be given as a number or a word, and a number as a text.
-/

namespace EmbedScaffold

/-- Why a value does not fit a setting. -/
inductive Misfit where
  | noJson
  | noPath
  | noTruth
  | unclearTruth
  | noNumber
  | unclearNumber
  | fractional
  | infinite
  | tooLong
  | tooSmall
  | noText
  | noList
  | noGroup
  deriving DecidableEq, Repr

/-- A misfit and the names that lead to its setting. -/
structure SettingFault where
  place : List Text
  misfit : Misfit
  deriving DecidableEq, Repr

/-- A value, or all the faults that were found. -/
abbrev Checked (α : Type) :=
  Except (List SettingFault) α

namespace Checked

/-- Give a checked value to a checked function; the faults of both are kept. -/
def feed {α β : Type} (function : Checked (α → β)) (value : Checked α) : Checked β :=
  match function, value with
  | .ok apply, .ok given => .ok (apply given)
  | .ok _, .error faults => .error faults
  | .error faults, .ok _ => .error faults
  | .error faults, .error others => .error (faults ++ others)

def misfit {α : Type} (found : Misfit) : Checked α :=
  .error [⟨[], found⟩]

/-- Put the faults of a value under a name. -/
def under {α : Type} (name : Text) (value : Checked α) : Checked α :=
  value.mapError fun faults => faults.map fun fault => { fault with place := name :: fault.place }

/-- Check all values of a list, under their numbers. -/
def list {α : Type} (check : JsonValue → Checked α) (number : Nat) :
    List JsonValue → Checked (List α)
  | [] => .ok []
  | first :: rest =>
      feed (feed (.ok List.cons) (under (Text.ofNat number) (check first)))
        (list check (number + 1) rest)

end Checked

namespace Settings

open Checked

/-! ## Values -/

def checkText : JsonValue → Checked Text
  | .text content => .ok content
  | _ => misfit .noText

def checkPath : JsonValue → Checked Path
  | .text content => .ok (Path.ofText content)
  | _ => misfit .noPath

def checkTexts : JsonValue → Checked (List Text)
  | .array items => Checked.list checkText 0 items
  | _ => misfit .noList

/-- The words for true and for false, in any letter case. -/
def truthWords : List (String × Bool) := [
  ("0", false), ("f", false), ("n", false), ("no", false), ("off", false), ("false", false),
  ("1", true), ("t", true), ("y", true), ("on", true), ("yes", true), ("true", true)]

/-- The bound of the numbers that can stand for a truth value or come from a decimal. -/
def wordBound : Int := Nat.pow 2 63

/-- The truth value that a number stands for. -/
def truthOfNumber (value : Int) : Checked Bool :=
  if value = 0 then .ok false
  else if value = 1 then .ok true
  else if -wordBound ≤ value ∧ value < wordBound then misfit .unclearTruth
  else misfit .noTruth

def integerOfDecimal (value : Binary64) : Checked Int :=
  match value.classify with
  | .finite _ _ =>
      match value.integer? with
      | some whole =>
          if -wordBound < whole ∧ whole < wordBound then .ok whole else misfit .tooLong
      | none => misfit .fractional
  | _ => misfit .infinite

def checkTruth : JsonValue → Checked Bool
  | .boolean value => .ok value
  | .integer value => truthOfNumber value
  | .decimal value =>
      match integerOfDecimal value with
      | .ok whole => truthOfNumber whole
      | .error _ => misfit .noTruth
  | .text content =>
      match truthWords.find? fun (word, _) => word.toList = content.map Char.toLower with
      | some (_, value) => .ok value
      | none => misfit .unclearTruth
  | _ => misfit .noTruth

def fileRules : JsonRules where
  depth := 200
  halfPairs := false

def isWhiteSpace (tested : Char) : Bool :=
  Text.isBlank tested && ! (0x1C ≤ tested.toNat && tested.toNat ≤ 0x1F)

/-- Drop the zeros, and the underscores among them, that a number begins with; the last zero is
kept if no other digit follows.  What begins neither with a digit nor with a minus is no number. -/
def withoutLeadingZeros? (content : Text) : Option Text :=
  match content with
  | [] => none
  | '-' :: _ => some content
  | '0' :: rest =>
      let zeros := rest.takeWhile fun tested => tested = '0' || tested = '_'
      match rest.drop zeros.length with
      | [] => some [zeros.getLast?.getD '0']
      | next :: behind =>
          if next.isDigit then some (next :: behind)
          else if next = '.' then some (zeros.getLast?.getD '0' :: next :: behind)
          else none
  | first :: _ => if first.isDigit then some content else none

/-- Drop a point with zeros behind it. -/
def withoutFraction (content : Text) : Text :=
  let whole := content.takeWhile (· ≠ '.')
  let zeros := content.drop (whole.length + 1)
  if ! zeros.isEmpty && zeros.all (· = '0') then whole else content

/-- Drop the underscores between other characters, if each stands alone. -/
def withoutUnderscores (content : Text) : Text :=
  if content.head? = some '_' || content.getLast? = some '_' || Text.includes content "__".toList
  then content
  else content.filter (· ≠ '_')

/-- The integer that a text shows: digits with a sign, underscores between them, and a point with
zeros behind it. -/
def integerOfText (content : Text) : Checked Int :=
  let trimmed := Text.trimBoth isWhiteSpace content
  let unsigned :=
    match trimmed with
    | '+' :: '-' :: _ => []
    | '+' :: rest => rest
    | _ => trimmed
  match (withoutLeadingZeros? unsigned).map (withoutUnderscores <| withoutFraction ·) with
  | none => misfit .unclearNumber
  | some shown =>
      if JsonValue.longestInteger < shown.length then misfit .tooLong
      else
        match JsonValue.ofText fileRules shown with
        | .ok (.integer value) => .ok value
        | _ => misfit .unclearNumber

def checkInteger : JsonValue → Checked Int
  | .boolean value => .ok (if value then 1 else 0)
  | .integer value => .ok value
  | .decimal value => integerOfDecimal value
  | .text content => integerOfText content
  | _ => misfit .noNumber

/-- A number of seconds, at least one. -/
def checkTimeout (value : JsonValue) : Checked Int := do
  let seconds ← checkInteger value
  if seconds < 1 then misfit .tooSmall else .ok seconds

/-! ## Groups -/

/-- The members of a group, by name. -/
abbrev Members := List (Text × JsonValue)

/-- A member, or what holds without it. -/
def member {α : Type} (members : Members) (name : String) (check : JsonValue → Checked α)
    (otherwise : α) : Checked α :=
  match JsonValue.memberOf? members name.toList with
  | some value => under name.toList (check value)
  | none => .ok otherwise

def checkFormat : JsonValue → Checked FormatSettings
  | .object members =>
      let initial : FormatSettings := {}
      feed (feed (feed (.ok FormatSettings.mk)
        (member members "enabled" checkTruth initial.enabled))
        (member members "command" checkTexts initial.command))
        (member members "timeout" checkTimeout initial.timeout)
  | _ => misfit .noGroup

def checkRemote : JsonValue → Checked RemoteSettings
  | .object members =>
      let initial : RemoteSettings := {}
      feed (feed (feed (feed (feed (.ok RemoteSettings.mk)
        (member members "repo" checkText initial.repository))
        (member members "branch" checkText initial.branch))
        (member members "token" checkText initial.token))
        (member members "api_url" checkText initial.address))
        (member members "timeout" checkTimeout initial.timeout)
  | _ => misfit .noGroup

/-- Settings with the given members; the others are those of `base`. -/
def ofMembers (base : Settings) (members : Members) : Checked Settings :=
  let text (name : String) (otherwise : Text) := member members name checkText otherwise
  let truth (name : String) (otherwise : Bool) := member members name checkTruth otherwise
  let places :=
    feed (feed (feed (feed (feed (feed (feed (feed (feed (feed (.ok Settings.mk)
      (member members "root_dir" checkPath base.root))
      (text "components_dir" base.components))
      (text "rollup_config" base.bundler))
      (text "embed_registry" base.componentRegistry))
      (text "config_registry" base.schemaRegistry))
      (text "component_props" base.propsRegistry))
      (text "mock_data" base.mockData))
      (text "embed_loader" base.loader))
      (text "public_embed_glob" base.publicPattern))
      (text "playground" base.playground)
  let modes :=
    feed (feed (feed places
      (truth "transactional" base.transactional))
      (truth "force" base.force))
      (truth "dry_run" base.dryRun)
  feed (feed modes
    (member members "format" checkFormat base.format))
    (member members "github" checkRemote base.remote)

/-- Read settings from the text of a settings file. -/
def ofText (content : Text) : Checked Settings :=
  match JsonValue.ofText fileRules content with
  | .error _ => misfit .noJson
  | .ok (.object members) => ofMembers {} members
  | .ok _ => misfit .noGroup

end Settings

end EmbedScaffold
