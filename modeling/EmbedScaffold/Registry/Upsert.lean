import EmbedScaffold.Name
import EmbedScaffold.Registry.Header

/-!
# Upserting an entry of a mapping

`upsertEntry` makes a mapping hold exactly one entry for a key.  An existing entry is replaced in
place and later ones of the same key are deleted; a new entry goes last.  Everything outside the
mapping and the import block keeps its text.
-/

namespace EmbedScaffold

structure EntryUpsert where
  mapping : Text
  key : Text
  value : Text
  headerLine : Option Text := none
  declaration : Text := "export const".toList
  createIfMissing : Bool := true

namespace Mapping

/-- The text of an entry whose continuation lines are shifted by `indent`. -/
def entryText (key value indent : Text) : Text :=
  propertyKey key ++ ": ".toList ++ Text.reindent (Text.strip value) indent

/-- The indentation for a new entry: that of the last entry that begins its line, else one step
more than the line of the opening brace. -/
def entryIndent (content : Text) (mapping : Mapping) : Text :=
  match mapping.entries.reverse.find? fun entry => Text.startsLine content entry.start with
  | some entry => Text.lineIndent content entry.start
  | none => Text.lineIndent content mapping.opened ++ Text.indentStep

/-- A document with a fresh declaration of the mapping at its end. -/
def appendDeclaration (content declaration name key value : Text) : Text :=
  let block :=
    declaration ++ [' '] ++ name ++ " = \x7b\n".toList ++ Text.indentStep ++
      entryText key value Text.indentStep ++ "\n\x7d;\n".toList
  if Text.isBlankText content then block
  else Text.trimEnd Text.isLineFeed content ++ "\n\n".toList ++ block

/-- Delete the entries of `key` after its first one, the last of them first, each with the
separator before it. -/
def dropRepeated (key : Text) : (previous : Entry) → List Entry → Text → Text
  | _, [], content => content
  | previous, entry :: rest, content =>
      let remaining := dropRepeated key entry rest content
      if entry.key = some key then Text.splice remaining previous.stop entry.stop []
      else remaining

/-- Replace the entry `first`, deleting the entries of the same key among `later`. -/
def replaceEntry (content : Text) (mapping : Mapping) (first : Entry) (later : List Entry)
    (key value : Text) : Text :=
  let remaining := dropRepeated key first later content
  let indent :=
    if Text.startsLine remaining first.start then Text.lineIndent remaining first.start
    else entryIndent remaining mapping
  Text.splice remaining first.start first.stop (entryText key value indent)

/-- Add an entry at the end of a mapping. -/
def appendEntry (content : Text) (mapping : Mapping) (key value : Text) : Text :=
  let indent := entryIndent content mapping
  let entry := entryText key value indent
  match mapping.entries.getLast?, mapping.trailingComma with
  | none, _ =>
      let inner := Text.stripEnd (Text.slice content (mapping.opened + 1) mapping.closed)
      Text.splice content (mapping.opened + 1) mapping.closed
        (inner ++ ['\n'] ++ indent ++ entry ++ ['\n'] ++ Text.lineIndent content mapping.opened)
  | some _, some offset => Text.splice content offset offset ('\n' :: indent ++ entry ++ [','])
  | some last, none => Text.splice content last.stop last.stop (",\n".toList ++ indent ++ entry)

/-- The entries from the first one of `key` on. -/
def entriesFromKey (key : Text) : List Entry → Option (Entry × List Entry)
  | [] => none
  | entry :: rest => if entry.key = some key then some (entry, rest) else entriesFromKey key rest

/-- Make a located mapping hold exactly one entry for a key. -/
def upsert (content : Text) (mapping : Mapping) (key value : Text) : Text :=
  match entriesFromKey key mapping.entries with
  | some (first, later) => replaceEntry content mapping first later key value
  | none => appendEntry content mapping key value

end Mapping

/-- Make the mapping of a document hold exactly one entry for a key, with its header line. -/
def upsertEntry (content : Text) (wanted : EntryUpsert) : Except PatchFault Outcome := do
  let _ ← Document.forEdit content
  let headed ←
    match wanted.headerLine with
    | some line => ensureHeaderLine content line
    | none => pure content
  let document ← Document.forEdit headed
  match ← Mapping.find? document wanted.mapping with
  | some mapping =>
      pure (Outcome.ofTexts content (mapping.upsert headed wanted.key wanted.value))
  | none =>
      if Mapping.isDeclared document wanted.mapping then .error (.notAnObject wanted.mapping)
      else if wanted.createIfMissing then
        pure <| Outcome.ofTexts content <|
          Mapping.appendDeclaration headed wanted.declaration wanted.mapping wanted.key
            wanted.value
      else .error (.missingMapping wanted.mapping)

end EmbedScaffold
