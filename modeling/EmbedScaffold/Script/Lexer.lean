import EmbedScaffold.Script.Contextual
import EmbedScaffold.Script.Mode

/-!
# Reading tokens

`Source.readToken` reads the next token of a script.  Of the tokens of a mode the one with the
longest text is taken; characters that begin no token at all are taken together as a misfit.
-/

namespace EmbedScaffold

namespace Script

/-! ## Sources -/

/-- A script that is being read: what follows each offset, and how many bytes and how many line
breaks lie before it. -/
structure Source where
  tails : Array Text
  sizes : Array Nat
  rows : Array Nat

namespace Source

/-- The source before any character of a script. -/
def start : Source :=
  ⟨#[], #[], #[]⟩

/-- Note the offset in front of what remains of a script. -/
def note (size row : Nat) (rest : Text) (source : Source) : Source :=
  ⟨source.tails.push rest, source.sizes.push size, source.rows.push row⟩

/-- Note the offsets of what remains of a script. -/
def noteAll (size row : Nat) (source : Source) : Text → Source
  | [] => source.note size row []
  | first :: rest =>
      noteAll (size + first.utf8Size) (row + if first = '\n' then 1 else 0)
        (source.note size row (first :: rest)) rest

def ofText (content : Text) : Source :=
  noteAll 0 0 start content

def rest (source : Source) (offset : Nat) : Text :=
  source.tails.getD offset []

/-- How many bytes lie between two offsets. -/
def sizeBetween (source : Source) (start stop : Nat) : Nat :=
  source.sizes.getD stop 0 - source.sizes.getD start 0

/-- How many line breaks lie between two offsets. -/
def rowsBetween (source : Source) (start stop : Nat) : Nat :=
  source.rows.getD stop 0 - source.rows.getD start 0

/-- How many characters the script has. -/
def length (source : Source) : Nat :=
  source.tails.size - 1

end Source

/-! ## Matching the tokens of a mode -/

/-- The tokens in the order of their numbers. -/
def tokenTable : Array Token :=
  tokens.toArray

def tokenOf (symbol : Symbol) : Token :=
  tokenTable.getD symbol default

/-- Whether the first of two tokens with the same text is taken. -/
def isPreferred (left right : Symbol) : Bool :=
  let first := tokenOf left
  let second := tokenOf right
  if first.rank ≠ second.rank then second.rank < first.rank
  else if first.firmness ≠ second.firmness then second.firmness < first.firmness
  else left < right

/-- How far the tokens of a mode have been matched: whether only blanks have been read, and what
may follow in each of them. -/
structure Stage where
  isBlank : Bool
  live : List (Symbol × Pattern)

namespace Stage

/-- The tokens of a mode in front of any character. -/
def start (mode : Mode) : Stage :=
  ⟨true, mode.symbols.map fun symbol => (symbol, (tokenOf symbol).pattern)⟩

/-- The token whose text has been read, if any. -/
def completed? (stage : Stage) : Option Symbol :=
  (stage.live.filter fun (_, pattern) => pattern.acceptsEmpty).foldl
    (fun best (symbol, _) =>
      match best with
      | none => some symbol
      | some other => if isPreferred symbol other then some symbol else some other)
    none

/-- What may follow in the tokens once a character has been read. -/
def matching (stage : Stage) (read : Char) : List (Symbol × Pattern) :=
  (stage.live.flatMap fun (symbol, pattern) =>
    (pattern.afterChar read).map (symbol, ·)).eraseDups

/-- Whether a completed token gives way to reading on: the tokens ahead have a higher rank, or the
same rank and the token itself among them. -/
def yields (stage : Stage) (completed : Symbol) (next : Stage) : Bool :=
  let rank := (tokenOf completed).rank
  let ranks := next.live.map fun (symbol, _) => (tokenOf symbol).rank
  let ahead := if next.isBlank then ranks.foldl max 0 else ranks.foldl max (-1)
  if ahead ≠ rank then rank < ahead
  else
    ! next.live.isEmpty &&
      (! stage.isBlank || next.live.any (·.1 = completed) ||
        (next.isBlank && ! (tokenOf completed).isImmediate))

end Stage

/-- What a mode finds at a place: the token, where it starts and stops, and where the reading
ended. -/
structure Reading where
  found : Option Symbol
  start : Nat
  stop : Nat
  reached : Nat

namespace Mode

/-- The tokens of the mode that may stand behind blanks, in front of any character. -/
def behindBlanks (mode : Mode) : List (Symbol × Pattern) :=
  (Stage.start mode).live.filter fun (symbol, _) => ! (tokenOf symbol).isImmediate

/-- Match the tokens of the mode with a text. -/
def read (mode : Mode) (stage : Stage) (found : Option (Symbol × Nat)) (start offset : Nat) :
    Text → Reading
  | [] =>
      match stage.completed? with
      | some symbol => ⟨some symbol, min start offset, offset, offset⟩
      | none =>
          if mode.acceptsEnd && stage.isBlank then ⟨some Symbol.finish, offset, offset, offset⟩
          else ended found
  | first :: rest =>
      let completed := stage.completed?
      let found := (completed.map (·, offset)).or found
      let next : Stage := ⟨stage.isBlank && blanks.contains first, stage.matching first⟩
      let stops := (next.live.isEmpty && ! next.isBlank) ||
        (completed.map (! stage.yields · next)).getD false
      if stops then ended found
      else
        let start := if next.live.isEmpty then offset + 1 else start
        let live := if next.isBlank then next.live ++ mode.behindBlanks else next.live
        read mode ⟨next.isBlank, live⟩ found start (offset + 1) rest
where
  /-- What was found when the reading ended. -/
  ended (found : Option (Symbol × Nat)) : Reading :=
    match found with
    | some (symbol, stop) => ⟨some symbol, min start stop, stop, offset⟩
    | none => ⟨none, start, offset, offset⟩

end Mode

/-! ## Tokens of a script -/

namespace Source

/-- Read a token of a mode at an offset. -/
def readAt (source : Source) (mode : Mode) (offset : Nat) : Reading :=
  mode.read (Stage.start mode) none offset offset (source.rest offset)

/-- Pass the characters that begin no token, from `start` up to `stop`, until one is found. -/
def passMisfits (source : Source) (mode : Mode) (start : Nat) : Nat → Nat → Extent
  | 0, stop => ⟨Symbol.misfit, start, stop⟩
  | fuel + 1, stop =>
      let reading := source.readAt mode stop
      if reading.found.isSome then ⟨Symbol.misfit, start, stop⟩
      else
        passMisfits source mode start fuel
          (if reading.reached = stop then stop + 1 else reading.reached)

/-- Read whatever stands at an offset, a misfit if no token does. -/
def readAnything (source : Source) (mode : Mode) (offset : Nat) : Extent :=
  let reading := source.readAt mode offset
  match reading.found with
  | some symbol => ⟨symbol, reading.start, reading.stop⟩
  | none =>
      passMisfits source mode reading.start source.length
        (if reading.reached = reading.start then reading.start + 1 else reading.reached)

def textBetween (source : Source) (start stop : Nat) : Text :=
  (source.rest start).take (stop - start)

/-- Take a name as a word of the grammar if such a word has a place here. -/
def asWord (source : Source) (hasPlace : Symbol → Bool) (extent : Extent) : Extent :=
  if extent.symbol = Symbol.name then
    match keywords.lookup (source.textBetween extent.start extent.stop) with
    | some word => if hasPlace word then { extent with symbol := word } else extent
    | none => extent
  else extent

end Source

/-- What can stand at a place of a script. -/
structure Expectation where
  /-- The tokens that are told apart there. -/
  mode : Mode
  /-- Whether a contextual token can stand there. -/
  allows : Symbol → Bool
  /-- Whether an empty contextual token is of use there. -/
  keepsEmpty : Symbol → Bool
  /-- Whether a word of the grammar has a place there. -/
  hasPlace : Symbol → Bool

/-- Read the next token at an offset: a contextual one, one of the mode, or else anything. -/
def Source.readToken (source : Source) (expectation : Expectation) (fallback : Mode)
    (offset : Nat) : Extent :=
  let contextual :=
    (contextual? expectation.allows (offset = 0) (source.rest offset)).filter fun extent =>
      extent.stop ≠ 0 || expectation.keepsEmpty extent.symbol
  match contextual with
  | some extent => ⟨extent.symbol, offset + extent.start, offset + extent.stop⟩
  | none =>
      let reading := source.readAt expectation.mode offset
      source.asWord expectation.hasPlace <|
        match reading.found with
        | some symbol => ⟨symbol, reading.start, reading.stop⟩
        | none => source.readAnything fallback offset

end Script

end EmbedScaffold
