import EmbedScaffold.Text.Word

/-!
# Patterns of tokens

A pattern describes the texts of a kind of token.  A text is matched one character at a time:
`Pattern.afterChar` lists what may still follow once a character has been read, and
`Pattern.acceptsEmpty` tells whether nothing has to follow.
-/

namespace EmbedScaffold

namespace Script

/-! ## Sets of characters -/

/-- A set of characters: those in some ranges of codes, or all others but the null character. -/
structure CharSet where
  ranges : List (Nat × Nat)
  isComplement : Bool
  deriving DecidableEq, Repr

namespace CharSet

/-- Whether a character belongs to the set. -/
def contains (set : CharSet) (tested : Char) : Bool :=
  let isWithin := Text.inRanges set.ranges tested.toNat
  if set.isComplement then tested ≠ '\x00' && ! isWithin else isWithin

/-- The ranges of the single characters of a text. -/
def rangesOf (members : String) : List (Nat × Nat) :=
  members.toList.map fun member => (member.toNat, member.toNat)

/-- The range between two characters. -/
def range (first last : Char) : List (Nat × Nat) :=
  [(first.toNat, last.toNat)]

def within (ranges : List (Nat × Nat)) : CharSet :=
  ⟨ranges, false⟩

def outside (ranges : List (Nat × Nat)) : CharSet :=
  ⟨ranges, true⟩

def anyOf (members : String) : CharSet :=
  within (rangesOf members)

/-- The characters that a text does not hold. -/
def noneOf (members : String) : CharSet :=
  outside (rangesOf members)

end CharSet

/-! ## Patterns -/

inductive Pattern where
  /-- Nothing. -/
  | empty
  /-- One character of a set. -/
  | one (set : CharSet)
  /-- One pattern behind another. -/
  | sequence (front back : Pattern)
  /-- One of two patterns. -/
  | either (left right : Pattern)
  /-- A pattern once or more often. -/
  | many (body : Pattern)
  deriving DecidableEq, Repr, Inhabited

namespace Pattern

def acceptsEmpty : Pattern → Bool
  | .empty => true
  | .one _ => false
  | .sequence front back => front.acceptsEmpty && back.acceptsEmpty
  | .either left right => left.acceptsEmpty || right.acceptsEmpty
  | .many body => body.acceptsEmpty

/-- One pattern behind another, where the first may be spent. -/
def followedBy (front back : Pattern) : Pattern :=
  match front with
  | .empty => back
  | _ => .sequence front back

/-- The patterns that may follow once a character has been read. -/
def afterChar (read : Char) : Pattern → List Pattern
  | .empty => []
  | .one set => if set.contains read then [.empty] else []
  | .sequence front back =>
      let remaining := (front.afterChar read).map (·.followedBy back)
      if front.acceptsEmpty then remaining ++ back.afterChar read else remaining
  | .either left right => left.afterChar read ++ right.afterChar read
  | .many body => (body.afterChar read).map (·.followedBy (.either (.many body) .empty))

/-! ## Building patterns -/

def optional (body : Pattern) : Pattern :=
  .either body .empty

/-- A pattern any number of times. -/
def star (body : Pattern) : Pattern :=
  optional (.many body)

def inOrder : List Pattern → Pattern
  | [] => .empty
  | [last] => last
  | front :: rest => .sequence front (inOrder rest)

def oneOf : List Pattern → Pattern
  | [] => .empty
  | [last] => last
  | left :: rest => .either left (oneOf rest)

def exactly (content : String) : Pattern :=
  inOrder (content.toList.map fun wanted => .one (.within (CharSet.range wanted wanted)))

def times (count : Nat) (body : Pattern) : Pattern :=
  inOrder (List.replicate count body)

/-- A pattern at most a number of times. -/
def atMost (count : Nat) (body : Pattern) : Pattern :=
  match count with
  | 0 => .empty
  | remaining + 1 => optional (.sequence body (atMost remaining body))

/-- A pattern at least once and at most a number of times. -/
def upTo (count : Nat) (body : Pattern) : Pattern :=
  .sequence body (atMost (count - 1) body)

end Pattern

end Script

end EmbedScaffold
