import EmbedScaffold.Token.Basic

/-!
# Scanning a document

`scan` cuts a document into tokens.  Blanks and comments separate tokens; strings, templates and
regular expressions are single tokens, whatever brackets they contain.  A template may hold code
in its substitutions, which may hold further templates; `templateEnd` follows them with an
explicit stack of enclosing templates, so that each step consumes a character.
-/

namespace EmbedScaffold

/-- A place in a document: its offset and the text from there on. -/
structure Cursor where
  offset : Nat
  rest : Text
  deriving DecidableEq, Repr

namespace Scan

/-! ## Ends of single tokens -/

/-- The place behind the closing quote; the string must end on its line. -/
def stringEnd (quote : Char) (offset : Nat) : Text → Option Cursor
  | [] => none
  | ['\\'] => none
  | '\\' :: _ :: rest => stringEnd quote (offset + 2) rest
  | first :: rest =>
      if first = quote then some ⟨offset + 1, rest⟩
      else if first = '\n' then none
      else stringEnd quote (offset + 1) rest

/-- The place behind a run of word characters. -/
def wordEnd (offset : Nat) : Text → Cursor
  | [] => ⟨offset, []⟩
  | first :: rest =>
      if Text.isWordChar first then wordEnd (offset + 1) rest else ⟨offset, first :: rest⟩

/-- The place behind the closing slash and the flags; a slash inside a class does not close. -/
def regexEnd (inClass : Bool) (offset : Nat) : Text → Option Cursor
  | [] => none
  | ['\\'] => none
  | '\\' :: _ :: rest => regexEnd inClass (offset + 2) rest
  | first :: rest =>
      if first = '\n' then none
      else if first = '[' then regexEnd true (offset + 1) rest
      else if first = ']' then regexEnd false (offset + 1) rest
      else if first = '/' && ! inClass then some (wordEnd (offset + 1) rest)
      else regexEnd inClass (offset + 1) rest

/-- The place behind the end of a block comment. -/
def commentEnd (offset : Nat) : Text → Option Cursor
  | [] => none
  | '*' :: '/' :: rest => some ⟨offset + 2, rest⟩
  | _ :: rest => commentEnd (offset + 1) rest

/-- The line feed that ends a line comment, or the end of the text. -/
def lineCommentEnd (offset : Nat) : Text → Cursor
  | [] => ⟨offset, []⟩
  | first :: rest =>
      if first = '\n' then ⟨offset, first :: rest⟩ else lineCommentEnd (offset + 1) rest

theorem stringEnd_length {quote : Char} {offset : Nat} {content : Text} {found : Cursor}
    (closed : stringEnd quote offset content = some found) :
    found.rest.length < content.length := by
  fun_induction stringEnd quote offset content <;> grind

theorem wordEnd_length (offset : Nat) (content : Text) :
    (wordEnd offset content).rest.length ≤ content.length := by
  fun_induction wordEnd offset content <;> grind

theorem regexEnd_length {inClass : Bool} {offset : Nat} {content : Text} {found : Cursor}
    (closed : regexEnd inClass offset content = some found) :
    found.rest.length < content.length := by
  fun_induction regexEnd inClass offset content <;> grind [wordEnd_length]

theorem commentEnd_length {offset : Nat} {content : Text} {found : Cursor}
    (closed : commentEnd offset content = some found) :
    found.rest.length < content.length := by
  fun_induction commentEnd offset content <;> grind

theorem lineCommentEnd_length (offset : Nat) (content : Text) :
    (lineCommentEnd offset content).rest.length ≤ content.length := by
  fun_induction lineCommentEnd offset content <;> grind

/-! ## Blanks and comments -/

/-- The next place that holds neither a blank nor a comment. -/
def skipTrivia (offset : Nat) (content : Text) : Except Malformed Cursor :=
  match content with
  | [] => .ok ⟨offset, []⟩
  | '/' :: '/' :: rest =>
      let ended := lineCommentEnd (offset + 2) rest
      skipTrivia ended.offset ended.rest
  | '/' :: '*' :: rest =>
      match _commented : commentEnd (offset + 2) rest with
      | none => .error (.unterminatedComment offset)
      | some ended => skipTrivia ended.offset ended.rest
  | first :: rest =>
      if Text.isBlank first then skipTrivia (offset + 1) rest else .ok ⟨offset, first :: rest⟩
termination_by content.length
decreasing_by
  · have shorter := lineCommentEnd_length (offset + 2) rest
    simp only [List.length_cons]
    omega
  · have shorter := commentEnd_length _commented
    simp only [List.length_cons]
    omega
  · simp

theorem skipTrivia_length {offset : Nat} {content : Text} {found : Cursor}
    (skipped : skipTrivia offset content = .ok found) :
    found.rest.length ≤ content.length := by
  fun_induction skipTrivia offset content <;>
    grind [lineCommentEnd_length, → commentEnd_length]

/-! ## One token -/

/-- The kind of a token that is no template, and the place behind it. -/
def plainToken (regexAllowed : Bool) (offset : Nat) (first : Char) (rest : Text) :
    Except Malformed (TokenKind × Cursor) :=
  if first = '\'' || first = '"' then
    match stringEnd first (offset + 1) rest with
    | some ended => .ok (.string, ended)
    | none => .error (.unterminatedString offset)
  else if first = '/' && regexAllowed then
    match regexEnd false (offset + 1) rest with
    | some ended => .ok (.regex, ended)
    | none => .error (.unterminatedRegex offset)
  else if first = '.' && ['.', '.'].isPrefixOf rest then .ok (.punct, ⟨offset + 3, rest.drop 2⟩)
  else if Text.isWordChar first then .ok (.word, wordEnd (offset + 1) rest)
  else .ok (.punct, ⟨offset + 1, rest⟩)

theorem plainToken_length {regexAllowed : Bool} {offset : Nat} {first : Char} {rest : Text}
    {kind : TokenKind} {found : Cursor}
    (read : plainToken regexAllowed offset first rest = .ok (kind, found)) :
    found.rest.length ≤ rest.length := by
  unfold plainToken at read
  grind [→ stringEnd_length, → regexEnd_length, wordEnd_length]

/-! ## Templates -/

/-- A template whose substitution holds the template being read. -/
structure EnclosingTemplate where
  opened : Nat
  substitution : Nat
  depth : Nat
  deriving DecidableEq, Repr

/-- What the innermost open template is in the middle of: its quoted text, or the code of a
substitution with the offset behind its opening, the braces open in it and whether a slash would
begin a regular expression. -/
inductive TemplateMode where
  | quoted
  | code (substitution depth : Nat) (regexAllowed : Bool)
  deriving DecidableEq, Repr

/-- How many templates may enclose another one. -/
def deepestNesting : Nat := 330

/-- The place behind the backtick that closes the outermost template.  `opened` is the offset of
the innermost open backtick and `outer` the templates around it, innermost first. -/
def templateEnd (opened : Nat) (outer : List EnclosingTemplate) (mode : TemplateMode)
    (offset : Nat) (content : Text) : Except Malformed Cursor :=
  match mode with
  | .quoted =>
      match content with
      | [] => .error (.unterminatedTemplate opened)
      | ['\\'] => .error (.unterminatedTemplate opened)
      | '\\' :: _ :: rest => templateEnd opened outer .quoted (offset + 2) rest
      | '$' :: '\x7b' :: rest =>
          templateEnd opened outer (.code (offset + 2) 0 true) (offset + 2) rest
      | first :: rest =>
          if first = '`' then
            match outer with
            | [] => .ok ⟨offset + 1, rest⟩
            | enclosing :: others =>
                templateEnd enclosing.opened others
                  (.code enclosing.substitution enclosing.depth false) (offset + 1) rest
          else templateEnd opened outer .quoted (offset + 1) rest
  | .code substitution depth regexAllowed =>
      match _skipped : skipTrivia offset content with
      | .error fault => .error fault
      | .ok ⟨_, []⟩ => .error (.unterminatedSubstitution substitution)
      | .ok ⟨start, first :: rest⟩ =>
          if first = '`' then
            if outer.length < deepestNesting then
              templateEnd start (⟨opened, substitution, depth⟩ :: outer) .quoted (start + 1) rest
            else .error (.nestedTooDeeply start)
          else
            match read : plainToken regexAllowed start first rest with
            | .error fault => .error fault
            | .ok (kind, ended) =>
                let token := Token.cut kind (first :: rest) start ended.offset
                if token.isPunct '\x7d' && depth == 0 then
                  templateEnd opened outer .quoted ended.offset ended.rest
                else
                  let inner :=
                    if token.isPunct '\x7b' then depth + 1
                    else if token.isPunct '\x7d' then depth - 1
                    else depth
                  templateEnd opened outer (.code substitution inner token.allowsRegex)
                    ended.offset ended.rest
termination_by content.length
decreasing_by
  all_goals first
    | (simp only [List.length_cons]; omega)
    | (have before := skipTrivia_length _skipped
       simp only [List.length_cons] at before
       omega)
    | (have before := skipTrivia_length _skipped
       have after := plainToken_length read
       simp only [List.length_cons] at before
       omega)

theorem templateEnd_length {opened : Nat} {outer : List EnclosingTemplate} {mode : TemplateMode}
    {offset : Nat} {content : Text} {found : Cursor}
    (closed : templateEnd opened outer mode offset content = .ok found) :
    found.rest.length ≤ content.length := by
  fun_induction templateEnd opened outer mode offset content <;>
    grind [→ skipTrivia_length, → plainToken_length]

/-! ## The tokens of a document -/

/-- The kind of the token that a text begins with, and the place behind it. -/
def nextToken (regexAllowed : Bool) (offset : Nat) (first : Char) (rest : Text) :
    Except Malformed (TokenKind × Cursor) :=
  if first = '`' then (templateEnd offset [] .quoted (offset + 1) rest).map (.template, ·)
  else plainToken regexAllowed offset first rest

theorem nextToken_length {regexAllowed : Bool} {offset : Nat} {first : Char} {rest : Text}
    {kind : TokenKind} {found : Cursor}
    (read : nextToken regexAllowed offset first rest = .ok (kind, found)) :
    found.rest.length ≤ rest.length := by
  unfold nextToken at read
  split at read
  · cases closed : templateEnd offset [] .quoted (offset + 1) rest with
    | error fault => simp [closed, Except.map] at read
    | ok ended =>
        simp only [closed, Except.map, Except.ok.injEq, Prod.mk.injEq] at read
        exact read.2 ▸ templateEnd_length closed
  · exact plainToken_length read

/-- The tokens from a place on; `regexAllowed` tells whether a slash at that place begins a
regular expression. -/
def tokensFrom (regexAllowed : Bool) (offset : Nat) (content : Text) :
    Except Malformed (List Token) :=
  match _skipped : skipTrivia offset content with
  | .error fault => .error fault
  | .ok ⟨_, []⟩ => .ok []
  | .ok ⟨start, first :: rest⟩ =>
      match _read : nextToken regexAllowed start first rest with
      | .error fault => .error fault
      | .ok (kind, ended) =>
          let token := Token.cut kind (first :: rest) start ended.offset
          (tokensFrom token.allowsRegex ended.offset ended.rest).map (token :: ·)
termination_by content.length
decreasing_by
  have before := skipTrivia_length _skipped
  have after := nextToken_length _read
  simp only [List.length_cons] at before
  omega

end Scan

def scan (content : Text) : Except Malformed (List Token) :=
  Scan.tokensFrom true 0 content

end EmbedScaffold
