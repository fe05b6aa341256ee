import EmbedScaffold.Registry.Outcome

/-!
# Mappings in a document

A registry keeps its components in a mapping: an object literal assigned to a name or held by a
property.  `Mapping.find?` locates it and cuts it into entries at the commas outside all
brackets; `readMapping` reads it as keys with the texts of their values.
-/

namespace EmbedScaffold

/-- One member of a mapping, by offsets.  Spreads and computed members have no key. -/
structure Entry where
  key : Option Text
  start : Nat
  stop : Nat
  valueStart : Nat
  deriving DecidableEq, Repr

/-- A located mapping: the offsets of its braces, its entries, and the offset behind a comma that
directly precedes the closing brace. -/
structure Mapping where
  opened : Nat
  closed : Nat
  entries : List Entry
  trailingComma : Option Nat
  deriving DecidableEq, Repr

namespace Mapping

/-! ## Locating -/

/-- Whether a word, with the token before it and the mark behind it, introduces a mapping. -/
def introduces (previous : Option Token) (operator : Token) : Bool :=
  operator.isPunct '=' ||
    (operator.isPunct ':' &&
      ((previous.map fun before => before.isPunct '\x7b' || before.isPunct ',').getD false))

/-- Index of the brace of the first mapping called `name`; `index` is that of the first token
listed and `previous` the token before it. -/
def braceFrom? (name : Text) (index : Nat) (previous : Option Token) :
    List Token → Option Nat
  | word :: operator :: brace :: rest =>
      if word.isWord name && ! ((previous.map (·.isPunct '.')).getD false) &&
          brace.isPunct '\x7b' && introduces previous operator then some (index + 2)
      else braceFrom? name (index + 1) (some word) (operator :: brace :: rest)
  | _ => none

def declarationWords : List Text :=
  ["const", "let", "var"].map String.toList

/-- Whether a token list declares `name`. -/
def isDeclaredIn (name : Text) : List Token → Bool
  | keyword :: word :: operator :: rest =>
      (keyword.kind = .word && declarationWords.contains keyword.value && word.isWord name &&
          operator.isPunct '=') ||
        isDeclaredIn name (word :: operator :: rest)
  | _ => false

/-- Whether a document declares `name` by `const`, `let` or `var`. -/
def isDeclared (document : Document) (name : Text) : Bool :=
  isDeclaredIn name document.tokens.toList

/-! ## Entries -/

/-- The key of the entry whose tokens lie from `first` up to `stop`: a quoted or bare name, or the
second of two words (`get size`). -/
def entryKey (document : Document) (first stop : Nat) : Option Text :=
  match document.token? first with
  | none => none
  | some head =>
      match head.kind with
      | .string => some (Token.quotedValue head.value)
      | .word =>
          match if first + 1 < stop then document.token? (first + 1) else none with
          | some following =>
              if following.kind = .word then some following.value else some head.value
          | none => some head.value
      | _ => none

/-- The entry whose tokens lie from `first` up to `stop`. -/
def entryAt (document : Document) (first stop : Nat) : Entry :=
  let key := entryKey document first stop
  let valueStart :=
    match key, document.topLevel [':'] first stop with
    | some _, colon :: _ =>
        if colon + 1 < stop then document.startOf (colon + 1) else document.startOf first
    | _, _ => document.startOf first
  ⟨key, document.startOf first, document.stopOf (stop - 1), valueStart⟩

/-- The entries between `start` and the given boundaries, of which the last is the closing brace;
only the stretch before that one may be empty. -/
def entriesFrom (document : Document) (name : Text) (start : Nat) :
    List Nat → Except PatchFault (List Entry)
  | [] => .ok []
  | [closing] => .ok (if start < closing then [entryAt document start closing] else [])
  | boundary :: boundaries =>
      if start < boundary then
        (entriesFrom document name (boundary + 1) boundaries).map
          (entryAt document start boundary :: ·)
      else .error (.emptyEntry name (document.startOf boundary))

/-- The mapping whose opening brace is the token at an index. -/
def ofBrace (document : Document) (name : Text) (brace : Nat) : Except PatchFault Mapping := do
  let closing := document.closer brace
  let separators := document.topLevel [','] (brace + 1) closing
  let entries ← entriesFrom document name (brace + 1) (separators ++ [closing])
  let trailingComma :=
    match separators.getLast? with
    | some last => if last + 1 = closing then some (document.stopOf last) else none
    | none => none
  pure ⟨document.startOf brace, document.startOf closing, entries, trailingComma⟩

/-- The first mapping called `name` in a document. -/
def find? (document : Document) (name : Text) : Except PatchFault (Option Mapping) :=
  match braceFrom? name 0 none document.tokens.toList with
  | none => .ok none
  | some brace => (ofBrace document name brace).map some

end Mapping

/-! ## Reading -/

/-- The keys of entries with the texts of their values; no key may repeat. -/
def readEntries (content name : Text) (seen : List Text) :
    List Entry → Except PatchFault (List (Text × Text))
  | [] => .ok []
  | entry :: rest =>
      match entry.key with
      | none => readEntries content name seen rest
      | some key =>
          if seen.contains key then .error (.duplicateKey key name)
          else
            (readEntries content name (key :: seen) rest).map
              ((key, Text.slice content entry.valueStart entry.stop) :: ·)

/-- The mapping `name` of a document as keys with the texts of their values, in order. -/
def readMapping (content name : Text) : Except PatchFault (List (Text × Text)) := do
  let document ← Document.forEdit content
  match ← Mapping.find? document name with
  | none => .error (.missingMapping name)
  | some mapping => readEntries content name [] mapping.entries

end EmbedScaffold
