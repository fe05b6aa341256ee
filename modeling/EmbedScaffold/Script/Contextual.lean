import EmbedScaffold.Script.Token

/-!
# Tokens that depend on their surroundings

Some tokens are no matter of their own characters: a line break can end a statement, a question
mark can begin a choice between two values, and the text of templates and elements runs up to what
interrupts it.  All of them are looked for before any other token.
-/

namespace EmbedScaffold

namespace Script

/-! ## Characters -/

/-- A blank of running text, which the invisible spaces that hold a line together are not. -/
def isPlainSpace (tested : Char) : Bool :=
  let code := tested.toNat
  (9 ≤ code && code ≤ 13) || code == 32 || code == 0x1680 || (0x2000 ≤ code && code ≤ 0x2006) ||
    (0x2008 ≤ code && code ≤ 0x200A) || code == 0x2028 || code == 0x2029 || code == 0x205F ||
    code == 0x3000

/-- A character that can stand for a semicolon. -/
def isLineBreak (tested : Char) : Bool :=
  tested = '\n' || tested = '\u2028' || tested = '\u2029'

/-- A character that the search for the end of a line passes. -/
def isWithinLine (tested : Char) : Bool :=
  tested ≠ '\x00' && ! isLineBreak tested

/-- A letter, with which a longer word goes on. -/
def isLetter (tested : Char) : Bool :=
  Text.isAlphanumeric tested && ! tested.isDigit

/-- A place in a text: how many characters lie before it, and what follows. -/
structure Spot where
  offset : Nat
  rest : Text
  deriving DecidableEq, Repr, Inhabited

namespace Spot

/-- The character at the place; the end of the text counts as the null character. -/
def next (spot : Spot) : Char :=
  spot.rest.headD '\x00'

/-- The place behind the next character, if there is one. -/
def skip (spot : Spot) : Spot :=
  match spot.rest with
  | [] => spot
  | _ :: rest => ⟨spot.offset + 1, rest⟩

/-- The place behind the characters of a class. -/
def skipWhile (passed : Char → Bool) (offset : Nat) : Text → Spot
  | [] => ⟨offset, []⟩
  | first :: rest =>
      if passed first then skipWhile passed (offset + 1) rest else ⟨offset, first :: rest⟩

/-- Skipping characters never lengthens what follows. -/
theorem length_rest_skipWhile_le (passed : Char → Bool) (offset : Nat) (content : Text) :
    (skipWhile passed offset content).rest.length ≤ content.length := by
  induction content generalizing offset with
  | nil => simp [skipWhile]
  | cons first rest hypothesis =>
      simp only [skipWhile]
      split
      · exact Nat.le_succ_of_le (hypothesis (offset + 1))
      · exact Nat.le_refl _

end Spot

/-! ## Blanks and comments -/

/-- Where a block comment ends: whether a line break lies in it, whether its closing mark was
found, and what follows. -/
structure CommentEnd where
  isBroken : Bool
  isClosed : Bool
  spot : Spot

/-- The end of the block comment whose inside a text begins with. -/
def commentEnd (broken : Bool) (offset : Nat) : Text → CommentEnd
  | '*' :: '/' :: rest => ⟨broken, true, offset + 2, rest⟩
  | [] => ⟨broken, false, offset, []⟩
  | first :: rest =>
      if first = '\x00' then ⟨broken, false, offset, first :: rest⟩
      else commentEnd (broken || isLineBreak first) (offset + 1) rest

/-- A block comment ends in its text. -/
theorem length_rest_commentEnd_le (broken : Bool) (offset : Nat) (content : Text) :
    (commentEnd broken offset content).spot.rest.length ≤ content.length := by
  fun_induction commentEnd broken offset content <;> simp_all <;> omega

/-- Where the search for the next token stops. -/
inductive Pause where
  /-- At a token, or at the end. -/
  | token
  /-- Behind a block comment. -/
  | comment (broken : Bool)
  /-- Behind a slash that begins no comment. -/
  | slash
  deriving DecidableEq, Repr

/-- The gap before the next token: how the search for it ended, whether a comment was passed, and
where it ended. -/
structure Gap where
  pause : Pause
  hasComment : Bool
  spot : Spot

/-- Look for the next token behind blanks and comments.  Unless `through` is set, the search stops
behind the first block comment that no slash follows; `broken` tells whether the block comments so
far hold a line break. -/
def gap (through broken hasComment : Bool) (offset : Nat) (content : Text) : Gap :=
  match _found : Spot.skipWhile isPlainSpace offset content with
  | ⟨behind, '/' :: '/' :: rest⟩ =>
      let next := Spot.skipWhile isWithinLine (behind + 2) rest
      gap through broken true next.offset next.rest
  | ⟨behind, '/' :: '*' :: rest⟩ =>
      let ended := commentEnd broken (behind + 2) rest
      if ended.isClosed && ! through && ended.spot.next ≠ '/' then
        ⟨.comment ended.isBroken, true, ended.spot⟩
      else
        gap through ended.isBroken (hasComment || ended.isClosed) ended.spot.offset
          ended.spot.rest
  | ⟨behind, '/' :: rest⟩ => ⟨.slash, hasComment, behind + 1, rest⟩
  | spot => ⟨.token, hasComment, spot⟩
termination_by content.length
decreasing_by
  · have within := Spot.length_rest_skipWhile_le isPlainSpace offset content
    have := Spot.length_rest_skipWhile_le isWithinLine (behind + 2) rest
    simp_all
    omega
  · have within := Spot.length_rest_skipWhile_le isPlainSpace offset content
    have := length_rest_commentEnd_le broken (behind + 2) rest
    simp_all
    omega

/-- The search for the next token only moves on. -/
theorem length_rest_gap_le (through broken hasComment : Bool) (offset : Nat) (content : Text) :
    (gap through broken hasComment offset content).spot.rest.length ≤ content.length := by
  fun_induction gap through broken hasComment offset content with
  | case1 broken hasComment offset content behind rest found next hypothesis =>
      have within := Spot.length_rest_skipWhile_le isPlainSpace offset content
      have := Spot.length_rest_skipWhile_le isWithinLine (behind + 2) rest
      simp_all [next]
      omega
  | case2 broken hasComment offset content behind rest found ended stopped =>
      have within := Spot.length_rest_skipWhile_le isPlainSpace offset content
      have := length_rest_commentEnd_le broken (behind + 2) rest
      simp_all [ended]
      omega
  | case3 broken hasComment offset content behind rest found ended goesOn hypothesis =>
      have within := Spot.length_rest_skipWhile_le isPlainSpace offset content
      have := length_rest_commentEnd_le broken (behind + 2) rest
      simp_all [ended]
      omega
  | case4 broken hasComment offset content behind rest found =>
      have within := Spot.length_rest_skipWhile_le isPlainSpace offset content
      simp_all
      omega
  | case5 broken hasComment offset content spot =>
      have within := Spot.length_rest_skipWhile_le isPlainSpace offset content
      simp_all

/-! ## The ends of statements -/

/-- Whether a statement ends at a place; if not, where the search gave up and whether it passed a
comment. -/
inductive Verdict where
  | ends
  | goesOn (spot : Spot) (hasComment : Bool)

/-- A verdict that leads on at a place unless the statement ends. -/
def Verdict.ofBool (isEnd : Bool) (spot : Spot) (hasComment : Bool) : Verdict :=
  if isEnd then .ends else .goesOn spot hasComment

/-- The verdict on a word behind a line break that continues `in`. -/
def judgeWord (hasComment : Bool) (wanted : Text) (spot : Spot) : Verdict :=
  match wanted with
  | [] => .ofBool (isLetter spot.next) spot hasComment
  | first :: others =>
      if spot.next = first then judgeWord hasComment others spot.skip else .ends

/-- Signs with which no statement begins. -/
def continuations : Text :=
  "`,:;*%><=[(?^|&/".toList

/-- The verdict on the token behind a line break: some signs and words continue the statement. -/
def judgeNext (hasComment : Bool) (spot : Spot) : Verdict :=
  let behind := spot.skip
  match spot.next with
  | '.' => .ofBool behind.next.isDigit behind hasComment
  | '+' => .ofBool (behind.next = '+') behind hasComment
  | '-' => .ofBool (behind.next = '-') behind hasComment
  | '!' => .ofBool (behind.next ≠ '=') behind hasComment
  | 'i' =>
      if behind.next ≠ 'n' then .ends
      else if ! isLetter behind.skip.next then .goesOn behind.skip hasComment
      else judgeWord hasComment "stanceof".toList behind.skip
  | next => .ofBool (! continuations.contains next) spot hasComment

/-- The verdict on what lies behind a line break. -/
def judgeBreak (hasComment : Bool) (spot : Spot) : Verdict :=
  let next := gap true false hasComment spot.offset spot.rest
  match next.pause with
  | .slash => .goesOn next.spot next.hasComment
  | _ => judgeNext next.hasComment next.spot

/-- Whether a comment in front of a text can end a statement. -/
def commentEnds (spot : Spot) : Bool :=
  spot.next ≠ ',' && spot.next ≠ '='

/-- Whether a statement ends at a place: at the end of the script, at a closing brace or at a line
break.  Where `comments` is set, the statement also ends at a comment with a line break behind or
in it.  Right behind a comment (`behindComment`) the end of the script decides nothing. -/
def judge (comments behindComment hasComment : Bool) (offset : Nat) (content : Text) : Verdict :=
  match content with
  | [] => .ofBool (! behindComment) ⟨offset, []⟩ hasComment
  | first :: rest =>
      if first = '\x00' then .ofBool (! behindComment) ⟨offset, content⟩ hasComment
      else if first = '/' && ! behindComment then
        let next := gap false false hasComment offset (first :: rest)
        let ended := comments && commentEnds next.spot
        match next.pause with
        | .slash => .goesOn next.spot next.hasComment
        | .comment false => judge comments true next.hasComment next.spot.offset next.spot.rest
        | _ =>
            if ended then .ends
            else judge comments true next.hasComment next.spot.offset next.spot.rest
      else if first = '\x7d' then .ends
      else if isLineBreak first then judgeBreak hasComment ⟨offset + 1, rest⟩
      else if isPlainSpace first then judge comments false hasComment (offset + 1) rest
      else .goesOn ⟨offset, content⟩ hasComment
termination_by (content.length, if behindComment then 0 else 1)
decreasing_by
  · have := length_rest_gap_le false false hasComment offset (first :: rest)
    simp_all [Prod.lex_def]
    omega
  · have := length_rest_gap_le false false hasComment offset (first :: rest)
    simp_all [Prod.lex_def]
    omega
  · simp [Prod.lex_def]

/-! ## Other contextual tokens -/

/-- Where a contextual token starts and stops, counted from the place where it was looked for. -/
structure Extent where
  symbol : Symbol
  start : Nat
  stop : Nat
  deriving DecidableEq, Repr

namespace Symbol

/-- The end of a statement that no semicolon marks. -/
def lineEnd : Symbol := symbolNamed "line-end"

/-- The text of a template between its substitutions. -/
def templateText : Symbol := symbolNamed "template-text"

/-- The question mark of a choice between two values. -/
def choiceMark : Symbol := symbolNamed "?"

/-- The text between the elements of a page. -/
def elementText : Symbol := symbolNamed "element-text"

end Symbol

/-- The length of the text of a template up to its end, an escape or a substitution. -/
def templateTextLength? : Text → Option Nat
  | '`' :: _ => some 0
  | '\\' :: _ => some 0
  | '$' :: '\x7b' :: _ => some 0
  | first :: rest => if first = '\x00' then none else (templateTextLength? rest).map (· + 1)
  | [] => none

/-- A character that ends the text between elements. -/
def endsElementText (tested : Char) : Bool :=
  "\x00<>\x7b\x7d&".toList.contains tested

/-- The length of the text between elements, and whether it holds more than blank lines. -/
def elementTextExtent (isFull atBreak : Bool) (offset : Nat) : Text → Spot × Bool
  | [] => (⟨offset, []⟩, isFull)
  | first :: rest =>
      if endsElementText first then (⟨offset, first :: rest⟩, isFull)
      else if first = '\n' then elementTextExtent isFull true (offset + 1) rest
      else
        let atBreak := atBreak && isPlainSpace first
        elementTextExtent (isFull || ! atBreak) atBreak (offset + 1) rest

/-- The question mark that begins a choice between two values, behind blanks. -/
def choiceMark? (spot : Spot) : Option Extent :=
  let spot := Spot.skipWhile isPlainSpace spot.offset spot.rest
  let extent : Extent := ⟨Symbol.choiceMark, spot.offset, spot.offset + 1⟩
  match spot.rest with
  | '?' :: '?' :: _ => none
  | '?' :: '.' :: rest => if (Spot.next ⟨0, rest⟩).isDigit then some extent else none
  | '?' :: _ => some extent
  | _ => none

/-- The comment in the manner of a page, behind blanks: up to the end of its line. -/
def pageComment? (start : Nat) (spot : Spot) : Option Extent :=
  let begun := Spot.skipWhile isPlainSpace spot.offset spot.rest
  let start := if begun.offset = spot.offset then start else begun.offset
  let upToLineEnd (marked : Nat) : Extent :=
    let body := begun.rest.drop marked
    ⟨Symbol.pageComment, start,
      (Spot.skipWhile isWithinLine (begun.offset + marked) body).offset⟩
  if "<!--".toList.isPrefixOf begun.rest then some (upToLineEnd 4)
  else if "-->".toList.isPrefixOf begun.rest then some (upToLineEnd 3)
  else none

/-- The end of a statement that stands at a place, or the choice that the search for it met. -/
def statementEnd? (allows : Symbol → Bool) (comments atStart : Bool) (content : Text) :
    Option Extent :=
  let verdict : Verdict :=
    match content with
    | first :: _ => if atStart && first ≠ '/' then .ends else judge comments false false 0 content
    | [] => .ends
  match verdict with
  | .ends => some ⟨Symbol.lineEnd, 0, 0⟩
  | .goesOn spot hasComment =>
      if ! hasComment && allows Symbol.choiceMark && spot.next = '?' then choiceMark? spot
      else none

/-- The contextual token that stands at the beginning of a text, among those that are allowed
there.  At the very start of a script every statement may end. -/
def contextual? (allows : Symbol → Bool) (atStart : Bool) (content : Text) : Option Extent :=
  let either := allows (symbolNamed "||")
  if allows Symbol.templateText then
    if allows Symbol.lineEnd then none
    else
      match templateTextLength? content with
      | some (length + 1) => some ⟨Symbol.templateText, 0, length + 1⟩
      | _ => none
  else
    let (spot, isFull) :=
      if allows Symbol.elementText then elementTextExtent false false 0 content
      else (⟨0, content⟩, false)
    if isFull then some ⟨Symbol.elementText, 0, spot.offset⟩
    else if allows Symbol.lineEnd then statementEnd? allows (! either) atStart content
    else if allows Symbol.choiceMark then choiceMark? ⟨0, content⟩
    else if allows Symbol.pageComment && ! either && ! allows (symbolNamed "escape") &&
        ! allows (symbolNamed "regex-body") then
      pageComment? 0 spot
    else none

end Script

end EmbedScaffold
