import EmbedScaffold.Shell.Syntax

/-!
# Reading shell scripts

`Reading` takes a script off the front of a text.  A text is read one line of commands at a time,
since a line runs before the next one is read; the text of a here-document follows the line on
which it is named.
-/

namespace EmbedScaffold.Shell

/-! ## Lexemes -/

inductive Lexeme where
  | finish
  | newline
  | mark (content : Text)
  /-- The sign of a redirection, with the number of the stream before it. -/
  | redirection (stream : Option Nat) (sign : Text)
  | keyword (content : Text)
  | word (parts : Word)

/-- The word that a lexeme is, if nothing in it is quoted or expanded. -/
def Lexeme.bareWord? : Lexeme → Option Text
  | .word [.plain content false] => some content
  | _ => none

def Lexeme.name : Lexeme → Text
  | .finish => "end of file".toList
  | .newline => "newline".toList
  | .redirection _ _ => "redirection".toList
  | .word _ => "word".toList
  | .mark content => ['"'] ++ content ++ ['"']
  | .keyword content => ['"'] ++ content ++ ['"']

def Lexeme.isMark (lexeme : Lexeme) (content : String) : Bool :=
  match lexeme with
  | .mark known => known = content.toList
  | _ => false

def Lexeme.isKeyword (lexeme : Lexeme) (content : String) : Bool :=
  match lexeme with
  | .keyword known => known = content.toList
  | _ => false

/-- Whether a list of commands ends in front of a lexeme. -/
def Lexeme.endsList : Lexeme → Bool
  | .finish => true
  | .mark content => [")", ";;"].contains (String.ofList content)
  | .keyword content =>
      ["do", "done", "elif", "else", "esac", "fi", "then", "\x7d"].contains (String.ofList content)
  | _ => false

/-! ## The reader -/

/-- A here-document whose text is still to come. -/
structure Pending where
  number : Nat
  delimiter : Text
  isStripped : Bool
  isLiteral : Bool

/-- The text that is left, the number of its line, a lexeme that was put back, and the
here-documents. -/
structure Reader where
  rest : Text
  line : Nat := 1
  returned : Option Lexeme := none
  pending : List Pending := []
  documents : Array Word := #[]

/-- Why a text is no script, and on which line. -/
structure SyntaxFault where
  line : Nat
  reason : Text

abbrev Reading := StateT Reader (Except SyntaxFault)

namespace Reading

def fail {α : Type} (reason : Text) : Reading α := fun reader =>
  .error ⟨reader.line, reason⟩

/-- Give up because of a lexeme. -/
def unexpected {α : Type} (found : Lexeme) (wanted : Option String) : Reading α :=
  let behind := match wanted with
    | some name => " (expecting ".toList ++ name.toList ++ [')']
    | none => []
  fail (found.name ++ " unexpected".toList ++ behind)

def peek? : Reading (Option Char) := fun reader =>
  .ok (reader.rest.head?, reader)

def skip (count : Nat) : Reading Unit := fun reader =>
  let lines := (reader.rest.take count).countP (· == '\n')
  .ok ((), { reader with rest := reader.rest.drop count, line := reader.line + lines })

/-- Take the longest stretch of characters of a class. -/
def takeWhile (wanted : Char → Bool) : Reading Text := do
  let taken := (← get).rest.takeWhile wanted
  skip taken.length
  pure taken

/-- Whether the text goes on with another one. -/
def continuesWith (content : Text) : Reading Bool := fun reader =>
  .ok (content.isPrefixOf reader.rest, reader)

def putBack (lexeme : Lexeme) : Reading Unit :=
  modify ({ · with returned := some lexeme })

/-- Read a text of its own, and go on with the old one behind it. -/
def within {α : Type} (content : Text) (inner : Reading α) : Reading α := do
  let outer ← get
  set { outer with rest := content, returned := none, pending := [] }
  let result ← inner
  let reached ← get
  set { outer with line := outer.line, documents := reached.documents }
  pure result

/-- Read a part that has here-documents of its own. -/
def apart {α : Type} (inner : Reading α) : Reading α := do
  let outer ← get
  set { outer with returned := none, pending := [] }
  let result ← inner
  modify ({ · with returned := outer.returned, pending := outer.pending })
  pure result

end Reading

/-! ## Words -/

/-- Put a part behind others; the last one comes first.  Plain text grows. -/
def addPart (parts : Word) (part : Part) : Word :=
  match part, parts with
  | .plain added false, .plain content false :: rest => .plain (content ++ added) false :: rest
  | .plain added true, .plain content true :: rest => .plain (content ++ added) true :: rest
  | _, _ => part :: parts

/-- Put the parts between quotes behind others. Quotes with nothing between them are an empty text.
-/
def addQuoted (parts inner : Word) : Word :=
  if inner.isEmpty then addPart parts (.plain [] true) else inner.foldl addPart parts

/-- Where a stretch of text stands. -/
inductive Region where
  /-- Outside of quotes; it ends before a blank or a mark. -/
  | bare
  | quotes
  | document
  /-- In the braces of a parameter. -/
  | braces (isQuoted : Bool)
  /-- In an arithmetic expression. -/
  | sum
  deriving DecidableEq

/-- Whether text that stands in a region is quoted. -/
def Region.isQuoted : Region → Bool
  | .bare => false
  | .braces isQuoted => isQuoted
  | _ => true

def endsWord (tested : Char) : Bool :=
  " \t\n;&|<>()".toList.contains tested

/-- The characters that mean something in a region. -/
def Region.isSpecial (region : Region) (tested : Char) : Bool :=
  tested == '\\' || tested == '$' || tested == '\x60' ||
    match region with
    | .bare => tested == '\'' || tested == '"' || endsWord tested
    | .quotes => tested == '"'
    | .document => false
    | .braces isQuoted => tested == '"' || tested == '\x7d' || (! isQuoted && tested == '\'')
    | .sum => tested == '(' || tested == ')'

/-- Whether a backslash takes the meaning from a character. -/
def Region.escapes (region : Region) (tested : Char) : Bool :=
  match region with
  | .bare => true
  | .braces false => true
  | .braces true => "\\$\"\x60\x7d".toList.contains tested
  | .document => "\\$\x60".toList.contains tested
  | _ => "\\$\"\x60".toList.contains tested

/-- The text of a script between backquotes, and the number of characters up to its end. -/
def backquoted? (inQuotes : Bool) : Text → Option (Text × Nat)
  | [] => none
  | '\x60' :: _ => some ([], 1)
  | '\\' :: next :: rest =>
      match backquoted? inQuotes rest with
      | none => none
      | some (content, length) =>
          let kept :=
            if next == '\n' then []
            else if "\\$\x60".toList.contains next || (inQuotes && next == '"') then [next]
            else ['\\', next]
          some (kept ++ content, length + 2)
  | next :: rest => (backquoted? inQuotes rest).map fun (content, length) =>
      (next :: content, length + 1)

/-! ## Here-documents -/

/-- The text of a here-document, and the number of characters up to its end. -/
def documentText (pending : Pending) : (fuel : Nat) → Text → Text × Nat
  | 0, _ => ([], 0)
  | fuel + 1, content =>
      if content.isEmpty then ([], 0)
      else
        let line := content.takeWhile (· != '\n')
        let length := min content.length (line.length + 1)
        let shown := if pending.isStripped then line.dropWhile (· == '\t') else line
        if shown = pending.delimiter then ([], length)
        else
          let (others, count) := documentText pending fuel (content.drop length)
          let ended := if line.length < content.length then ['\n'] else []
          (shown ++ ended ++ others, length + count)

/-- The text that a word stands for when its quotes are removed, and whether there were any. -/
def delimiterOf (word : Word) : Text × Bool :=
  word.foldl
    (fun (content, isQuoted) part =>
      match part with
      | .plain added partQuoted => (content ++ added, isQuoted || partQuoted)
      | _ => (content, isQuoted))
    ([], false)

/-! ## Redirections -/

/-- How the sign of a redirection opens a file. -/
def openings : List (Text × Opening) :=
  [("<", .reading), (">", .writing), (">|", .replacing), (">>", .appending), ("<>", .both)].map
    fun (sign, opening) => (String.toList sign, opening)

/-- The signs of redirections, longer ones first. -/
def redirectionSigns : List Text :=
  ["<<-", "<<", "<&", "<>", ">>", ">&", ">|", "<", ">"].map String.toList

/-- The other marks, longer ones first. -/
def marks : List Text :=
  [";;", "&&", "||", ";", "&", "|", "(", ")"].map String.toList

def digitOf (digit : Char) : Nat :=
  digit.toNat - '0'.toNat

/-! ## Scripts -/

namespace Reading

/-- Which list of commands is read: one line, at least one command, or any number. -/
inductive Extent where
  | line
  | some
  | any
  deriving DecidableEq

/-- Put a command behind others. -/
def joined (first : Option Script) (second : Script) : Script :=
  match first with
  | some known => .sequence known second
  | none => second

/-- Whether the text in the braces of a parameter asks for the length of its value: a name, or a
single mark, stands behind the sign. -/
def measures : Text → Bool
  | ['#', first] => isNamePart first
  | '#' :: first :: second :: _ => isNamePart first || (first ≠ '\x7d' && second = '\x7d')
  | _ => false

def parameterName : Reading Text := do
  match ← peek? with
  | some first =>
      if isNameStart first then takeWhile isNamePart
      else if first.isDigit then takeWhile Char.isDigit
      else if isSpecialName first then do
        skip 1
        pure [first]
      else pure []
  | none => pure []

def singleQuotes : Reading Text := do
  skip 1
  let content ← takeWhile (· != '\'')
  match ← peek? with
  | none => fail "Unterminated quoted string".toList
  | some _ => do
      skip 1
      pure content

mutual

/-- Read parts up to the end of their region; the parts read before come last first. -/
def parts (region : Region) : (fuel depth : Nat) → Word → Reading Word
  | 0, _, read => pure read.reverse
  | fuel + 1, depth, read => do
      let stretch ← takeWhile fun tested => ! region.isSpecial tested
      let read := if stretch.isEmpty then read else addPart read (.plain stretch region.isQuoted)
      match ← peek? with
      | none =>
          match region with
          | .bare => pure read.reverse
          | .document => pure read.reverse
          | .quotes => fail "Unterminated quoted string".toList
          | .braces true => fail "Unterminated quoted string".toList
          | .braces false => fail "Missing '\x7d'".toList
          | .sum => fail "Missing '))'".toList
      | some '\\' => do
          skip 1
          match ← peek? with
          | none => parts region fuel depth (addPart read (.plain ['\\'] region.isQuoted))
          | some '\n' => do
              skip 1
              parts region fuel depth read
          | some next => do
              skip 1
              let shown := if region.escapes next then [next] else ['\\', next]
              parts region fuel depth (addPart read (.plain shown true))
      | some '$' => do
          skip 1
          let part ← expansion fuel region.isQuoted
          parts region fuel depth (addPart read part)
      | some '\x60' => do
          skip 1
          let part ← backquotes fuel region.isQuoted
          parts region fuel depth (addPart read part)
      | some '\'' =>
          match region with
          | .bare => do
              let content ← singleQuotes
              parts region fuel depth (addPart read (.plain content true))
          | .braces false => do
              let content ← singleQuotes
              parts region fuel depth (addPart read (.plain content true))
          | _ => pure read.reverse
      | some '"' => do
          skip 1
          match region with
          | .quotes => pure read.reverse
          | .bare => do
              let inner ← parts .quotes fuel 0 []
              parts region fuel depth (addQuoted read inner)
          | .braces false => do
              let inner ← parts .quotes fuel 0 []
              parts region fuel depth (addQuoted read inner)
          | _ => parts region fuel depth read
      | some '(' =>
          match region with
          | .sum => do
              skip 1
              parts region fuel (depth + 1) (addPart read (.plain ['('] true))
          | _ => pure read.reverse
      | some ')' =>
          match region, depth with
          | .sum, outer + 1 => do
              skip 1
              parts region fuel outer (addPart read (.plain [')'] true))
          | .sum, 0 =>
              if ← continuesWith "))".toList then do
                skip 2
                pure read.reverse
              else fail "Missing '))'".toList
          | _, _ => pure read.reverse
      | some _ => do
          if region ≠ .bare then skip 1
          pure read.reverse
termination_by structural fuel => fuel

/-- Read the expansion behind a dollar sign; without one, the sign is plain. -/
def expansion (fuel : Nat) (isQuoted : Bool) : Reading Part :=
  match fuel with
  | 0 => fail "Bad substitution".toList
  | fuel + 1 => do
      if ← continuesWith "((".toList then do
        skip 2
        let expression ← parts .sum fuel 0 []
        pure (.sum expression isQuoted)
      else
        match ← peek? with
        | some '(' => do
            skip 1
            let script ← apart do
              let inner ← list .any fuel true none
              let closing ← next fuel false false
              if closing.isMark ")" then pure inner else unexpected closing (some "\")\"")
            pure (.output script isQuoted)
        | some '\x7b' => do
            skip 1
            braces fuel isQuoted
        | some first =>
            if isNameStart first then do
              let name ← takeWhile isNamePart
              pure (.parameter name .keep isQuoted)
            else if first.isDigit || isSpecialName first then do
              skip 1
              pure (.parameter [first] .keep isQuoted)
            else pure (.plain ['$'] isQuoted)
        | none => pure (.plain ['$'] isQuoted)
termination_by structural fuel

def braces (fuel : Nat) (isQuoted : Bool) : Reading Part :=
  match fuel with
  | 0 => fail "Bad substitution".toList
  | fuel + 1 => do
      let isMeasured := measures (← get).rest
      if isMeasured then skip 1
      let name ← parameterName
      if isMeasured then do
        let rest ← parts (.braces isQuoted) fuel 0 []
        pure (.parameter name (if rest.isEmpty && ! name.isEmpty then .measure else .malformed)
          isQuoted)
      else do
        let alsoEmpty ← continuesWith [':']
        if alsoEmpty then skip 1
        let sign ← peek?
        match sign with
        | some '\x7d' => do
            skip 1
            let change := if alsoEmpty || name.isEmpty then .malformed else .keep
            pure (.parameter name change isQuoted)
        | some '#' => cut fuel isQuoted name alsoEmpty '#'
        | some '%' => cut fuel isQuoted name alsoEmpty '%'
        | _ => do
            if sign.any "-=?+".toList.contains then skip 1
            let word ← parts (.braces isQuoted) fuel 0 []
            let change : Change :=
              if name.isEmpty then .malformed
              else if sign = some '-' then .fallback alsoEmpty word
              else if sign = some '=' then .assign alsoEmpty word
              else if sign = some '?' then .insist alsoEmpty word
              else if sign = some '+' then .alternative alsoEmpty word
              else .malformed
            pure (.parameter name change isQuoted)
termination_by structural fuel

/-- Read the pattern that is cut off the value of a parameter. -/
def cut (fuel : Nat) (isQuoted : Bool) (name : Text) (isMalformed : Bool) (sign : Char) :
    Reading Part :=
  match fuel with
  | 0 => fail "Bad substitution".toList
  | fuel + 1 => do
      let isLongest ← continuesWith [sign, sign]
      skip (if isLongest then 2 else 1)
      let pattern ← parts (.braces false) fuel 0 []
      let change : Change :=
        if isMalformed then .malformed
        else if sign = '#' then .cutStart isLongest pattern
        else .cutEnd isLongest pattern
      pure (.parameter name change isQuoted)
termination_by structural fuel

/-- Read a script between backquotes, behind the first one. -/
def backquotes (fuel : Nat) (isQuoted : Bool) : Reading Part :=
  match fuel with
  | 0 => fail "EOF in backquote substitution".toList
  | fuel + 1 => do
      match backquoted? isQuoted (← get).rest with
      | none => fail "EOF in backquote substitution".toList
      | some (content, length) => do
          skip length
          let script ← within content do
            let inner ← list .any fuel true none
            match ← next fuel false false with
            | .finish => pure inner
            | other => unexpected other none
          pure (.output script isQuoted)
termination_by structural fuel

/-- Read the next lexeme.  Line ends may be skipped, and words may be keywords. -/
def next (fuel : Nat) (skipsNewlines findsKeywords : Bool) : Reading Lexeme :=
  match fuel with
  | 0 => pure .finish
  | fuel + 1 => do
      let lexeme ← match (← get).returned with
        | some lexeme => do
            modify ({ · with returned := none })
            pure lexeme
        | none => lexeme fuel
      match lexeme with
      | .newline => if skipsNewlines then next fuel skipsNewlines findsKeywords else pure .newline
      | _ =>
          match if findsKeywords then lexeme.bareWord? else none with
          | some content =>
              pure (if reservedWords.contains content then .keyword content else lexeme)
          | none => pure lexeme
termination_by structural fuel

def lexeme (fuel : Nat) : Reading Lexeme :=
  match fuel with
  | 0 => pure .finish
  | fuel + 1 => do
      let _ ← takeWhile fun tested => tested == ' ' || tested == '\t'
      let rest := (← get).rest
      match rest with
      | [] => pure .finish
      | '\\' :: '\n' :: _ => do
          skip 2
          lexeme fuel
      | '#' :: _ => do
          let _ ← takeWhile (· != '\n')
          lexeme fuel
      | '\n' :: _ => do
          skip 1
          documents fuel
          pure .newline
      | first :: behind =>
          let isStream := first.isDigit && behind.head?.any fun sign => sign == '<' || sign == '>'
          let signed := if isStream then behind else rest
          match redirectionSigns.find? (·.isPrefixOf signed) with
          | some sign => do
              skip (sign.length + if isStream then 1 else 0)
              pure (.redirection (if isStream then some (digitOf first) else none) sign)
          | none =>
              match marks.find? (·.isPrefixOf rest) with
              | some mark => do
                  skip mark.length
                  pure (.mark mark)
              | none => do
                  let read ← parts .bare fuel 0 []
                  pure (.word read)
termination_by structural fuel

/-- Read the texts of the here-documents that were named on a line. -/
def documents (fuel : Nat) : Reading Unit :=
  match fuel with
  | 0 => pure ()
  | fuel + 1 => do
      match (← get).pending with
      | [] => pure ()
      | pending :: others => do
          let (content, length) := documentText pending ((← get).rest.length + 1) (← get).rest
          let word ←
            if pending.isLiteral then pure [Part.plain content true]
            else within content (parts .document fuel 0 [])
          skip length
          modify fun reader =>
            { reader with
              pending := others
              documents := reader.documents.setIfInBounds pending.number word }
          documents fuel
termination_by structural fuel

/-- Read what stands behind the sign of a redirection. -/
def redirection (fuel : Nat) (stream : Option Nat) (sign : Text) : Reading Redirection :=
  match fuel with
  | 0 => fail "Bad fd number".toList
  | fuel + 1 => do
      let found ← next fuel false false
      match found with
      | .word name =>
          let isInput := sign.head? = some '<'
          let stream := stream.getD (if isInput then 0 else 1)
          match openings.lookup sign with
          | some opening => pure (.file stream opening name)
          | none =>
              if sign = "<&".toList || sign = ">&".toList then pure (.duplicate stream name)
              else do
                let number := (← get).documents.size
                let (delimiter, isLiteral) := delimiterOf name
                let pending : Pending := ⟨number, delimiter, sign.length = 3, isLiteral⟩
                modify fun reader =>
                  { reader with
                    pending := reader.pending ++ [pending]
                    documents := reader.documents.push [] }
                pure (.document stream number)
      | other => unexpected other none
termination_by structural fuel

/-- Read the redirections behind a compound command. -/
def redirections (fuel : Nat) (read : List Redirection) : Reading (List Redirection) :=
  match fuel with
  | 0 => pure read
  | fuel + 1 => do
      let found ← next fuel false true
      match found with
      | .redirection stream sign => do
          let added ← redirection fuel stream sign
          redirections fuel (read ++ [added])
      | other => do
          putBack other
          pure read
termination_by structural fuel

/-- Read a simple command, or the definition of a function. -/
def simple (fuel line : Nat) (assignments : List (Text × Word)) (words : List Word)
    (read : List Redirection) : Reading Script :=
  match fuel with
  | 0 => pure (.simple line assignments words read)
  | fuel + 1 => do
      let found ← next fuel false false
      match found with
      | .word parts =>
          match if words.isEmpty then assignment? parts else none with
          | some assignment => simple fuel line (assignments ++ [assignment]) words read
          | none => simple fuel line assignments (words ++ [parts]) read
      | .redirection stream sign => do
          let added ← redirection fuel stream sign
          simple fuel line assignments words (read ++ [added])
      | other =>
          match words with
          | [word] =>
              if other.isMark "(" && assignments.isEmpty && read.isEmpty then
                definition fuel word
              else do
                putBack other
                pure (.simple line assignments words read)
          | _ => do
              putBack other
              pure (.simple line assignments words read)
termination_by structural fuel

/-- Read the definition of a function, behind its name and the opening mark. -/
def definition (fuel : Nat) (word : Word) : Reading Script :=
  match fuel with
  | 0 => pure .nothing
  | fuel + 1 => do
      let closing ← next fuel false false
      if ! closing.isMark ")" then unexpected closing (some "\")\"")
      match (Lexeme.word word).bareWord? with
      | some name =>
          if ! isName name || specialCommands.contains name then
            fail "Bad function name".toList
          else do
            let body ← command fuel true
            pure (.definition name body)
      | none => fail "Bad function name".toList
termination_by structural fuel

/-- Read a lexeme that has to be a keyword. -/
def expect (fuel : Nat) (wanted : String) (skipsNewlines : Bool) : Reading Unit :=
  match fuel with
  | 0 => pure ()
  | fuel + 1 => do
      let found ← next fuel skipsNewlines true
      if found.isKeyword wanted then pure ()
      else unexpected found (some ("\"" ++ wanted ++ "\""))
termination_by structural fuel

/-- Read the rest of a condition, behind its first word. -/
def condition (fuel : Nat) : Reading Script :=
  match fuel with
  | 0 => pure .nothing
  | fuel + 1 => do
      let test ← list .some fuel true none
      expect fuel "then" false
      let consequence ← list .some fuel true none
      let found ← next fuel false true
      if found.isKeyword "elif" then do
        let alternative ← condition fuel
        pure (.condition test consequence alternative)
      else if found.isKeyword "else" then do
        let alternative ← list .some fuel true none
        expect fuel "fi" false
        pure (.condition test consequence alternative)
      else do
        putBack found
        expect fuel "fi" false
        pure (.condition test consequence .nothing)
termination_by structural fuel

def loopBody (fuel : Nat) (skipsNewlines : Bool) : Reading Script :=
  match fuel with
  | 0 => pure .nothing
  | fuel + 1 => do
      expect fuel "do" skipsNewlines
      let body ← list .some fuel true none
      expect fuel "done" false
      pure body
termination_by structural fuel

/-- Read the words that a loop takes one after the other, up to their end. -/
def eachWords (fuel : Nat) (read : List Word) : Reading (List Word) :=
  match fuel with
  | 0 => pure read
  | fuel + 1 => do
      let found ← next fuel false false
      match found with
      | .word parts => eachWords fuel (read ++ [parts])
      | .newline => pure read
      | other => if other.isMark ";" then pure read else unexpected other none
termination_by structural fuel

/-- Read a loop over words, behind its first word. -/
def each (fuel line : Nat) : Reading Script :=
  match fuel with
  | 0 => pure .nothing
  | fuel + 1 => do
      let found ← next fuel false false
      match found.bareWord? with
      | some name =>
          if ! isName name then fail "Bad for loop variable".toList
          else do
            let behind ← next fuel true true
            let words ←
              if behind.isKeyword "in" then do
                let words ← eachWords fuel []
                pure (some words)
              else do
                if ! behind.isMark ";" then putBack behind
                pure none
            let body ← loopBody fuel true
            pure (.each line name words body)
      | none => fail "Bad for loop variable".toList
termination_by structural fuel

/-- Read the patterns of a branch, the first of which is read already. -/
def patterns (fuel : Nat) (first : Lexeme) (read : List Word) : Reading (List Word) :=
  match fuel with
  | 0 => pure read
  | fuel + 1 => do
      let read ← match first with
        | .word parts => pure (read ++ [parts])
        | .keyword content => pure (read ++ [[Part.plain content false]])
        | _ => pure read
      let behind ← next fuel false false
      if behind.isMark "|" then do
        let following ← next fuel false false
        patterns fuel following read
      else if behind.isMark ")" then pure read
      else unexpected behind (some "\")\"")
termination_by structural fuel

def branches (fuel : Nat) (read : List (List Word × Script)) :
    Reading (List (List Word × Script)) :=
  match fuel with
  | 0 => pure read
  | fuel + 1 => do
      let found ← next fuel true true
      if found.isKeyword "esac" then pure read
      else do
        let first ← if found.isMark "(" then next fuel false false else pure found
        let wanted ← patterns fuel first []
        let body ← list .any fuel true none
        let behind ← next fuel true true
        let read := read ++ [(wanted, body)]
        if behind.isKeyword "esac" then pure read
        else if behind.isMark ";;" then branches fuel read
        else unexpected behind (some "\";;\"")
termination_by structural fuel

/-- Read a choice, behind its first word. -/
def choice (fuel line : Nat) : Reading Script :=
  match fuel with
  | 0 => pure .nothing
  | fuel + 1 => do
      let found ← next fuel false false
      match found with
      | .word subject => do
          expect fuel "in" true
          let read ← branches fuel []
          pure (.choice line subject read)
      | other => unexpected other (some "word")
termination_by structural fuel

def command (fuel : Nat) (skipsNewlines : Bool) : Reading Script :=
  match fuel with
  | 0 => pure .nothing
  | fuel + 1 => do
      let found ← next fuel skipsNewlines true
      let line := (← get).line
      let compound ← match found with
        | .keyword content =>
            match String.ofList content with
            | "if" => some <$> condition fuel
            | "while" => some <$> do
                let test ← list .some fuel true none
                let body ← loopBody fuel false
                pure (Script.loop false test body)
            | "until" => some <$> do
                let test ← list .some fuel true none
                let body ← loopBody fuel false
                pure (Script.loop true test body)
            | "for" => some <$> each fuel line
            | "case" => some <$> choice fuel line
            | "\x7b" => some <$> do
                let inner ← list .some fuel true none
                expect fuel "\x7d" false
                pure inner
            | _ => unexpected found none
        | .mark content =>
            if content = ['('] then some <$> do
              let inner ← list .some fuel true none
              let closing ← next fuel false true
              if closing.isMark ")" then pure (Script.subshell inner)
              else unexpected closing (some "\")\"")
            else unexpected found none
        | .word _ => pure none
        | .redirection _ _ => pure none
        | _ => unexpected found none
      match compound with
      | some inner => do
          let read ← redirections fuel []
          pure (if read.isEmpty then inner else .redirected line inner read)
      | none => do
          putBack found
          simple fuel line [] [] []
termination_by structural fuel

/-- Read the commands of a pipeline behind the first ones. -/
def pipes (fuel : Nat) (read : List Script) : Reading (List Script) :=
  match fuel with
  | 0 => pure read
  | fuel + 1 => do
      let found ← next fuel false false
      if found.isMark "|" then do
        let added ← command fuel true
        pipes fuel (read ++ [added])
      else do
        putBack found
        pure read
termination_by structural fuel

def pipeline (fuel : Nat) (skipsNewlines : Bool) : Reading Script :=
  match fuel with
  | 0 => pure .nothing
  | fuel + 1 => do
      let found ← next fuel skipsNewlines true
      let isNegated := found.isKeyword "!"
      if ! isNegated then putBack found
      let first ← command fuel false
      let commands ← pipes fuel [first]
      let joined := match commands with
        | [single] => single
        | several => .pipeline several
      pure (if isNegated then .negated joined else joined)
termination_by structural fuel

/-- Read the conditions behind a pipeline. -/
def conditions (fuel : Nat) (first : Script) : Reading Script :=
  match fuel with
  | 0 => pure first
  | fuel + 1 => do
      let found ← next fuel false false
      if found.isMark "&&" then do
        let second ← pipeline fuel true
        conditions fuel (.both first second)
      else if found.isMark "||" then do
        let second ← pipeline fuel true
        conditions fuel (.either first second)
      else do
        putBack found
        pure first
termination_by structural fuel

/-- Read a list of commands, behind the ones read before. -/
def list (extent : Extent) (fuel : Nat) (isFirst : Bool) (read : Option Script) :
    Reading Script :=
  match fuel with
  | 0 => pure (read.getD .nothing)
  | fuel + 1 => do
      let found ← next fuel (extent ≠ .line) true
      match found with
      | .newline => pure (read.getD .nothing)
      | .finish => do
          putBack .finish
          pure (read.getD .nothing)
      | _ =>
          putBack found
          if (extent = .any || (extent = .some && ! isFirst)) && found.endsList then
            pure (read.getD .nothing)
          else do
            let first ← pipeline fuel false
            let whole ← conditions fuel first
            let behind ← next fuel false false
            let isBackground := behind.isMark "&"
            let read := joined read (if isBackground then .background whole else whole)
            if isBackground || behind.isMark ";" then list extent fuel false (some read)
            else
              match behind with
              | .newline => do
                  putBack behind
                  list extent fuel false (some read)
              | .finish => do
                  putBack behind
                  list extent fuel false (some read)
              | _ =>
                  if extent = .line then unexpected behind none
                  else do
                    putBack behind
                    pure read
termination_by structural fuel


end

/-- Read the next line of commands; none behind the last one. -/
def line? : Reading (Option Script) := do
  let fuel := 12 * (← get).rest.length + 100
  modify ({ · with returned := none, pending := [] })
  match ← next fuel false true with
  | .finish => pure none
  | found => do
      putBack found
      let script ← list .line fuel true none
      pure (some script)

end Reading

end EmbedScaffold.Shell
