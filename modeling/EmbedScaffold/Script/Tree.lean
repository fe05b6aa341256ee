import EmbedScaffold.Script.Lexer

/-!
# Syntax trees

A node stands for a rule and its children, or for a token.  What does not fit is kept in nodes of
its own, and a token that is missing in a node without characters.  The cost of a tree says how
much of the script does not fit: trees of the same script are compared by it.
-/

namespace EmbedScaffold

namespace Script

/-! ## Costs -/

namespace Cost

/-- The cost of leaving the grammar. -/
def recovery : Nat := 500

/-- The cost of a token that is missing. -/
def missingToken : Nat := 110

/-- The cost of a node that is passed. -/
def passedNode : Nat := 100

/-- The cost of a line that is passed. -/
def passedLine : Nat := 30

/-- The cost of some characters and lines that are passed. -/
def ofPassed (size rows : Nat) : Nat :=
  size + passedLine * rows

end Cost

/-! ## Trees -/

/-- What is known of a node: its symbol, where the blanks before it begin, where it starts and
stops, and what its children add up to. -/
structure NodeFacts where
  symbol : Symbol
  origin : Nat
  start : Nat
  stop : Nat
  /-- Whether the node can stand anywhere. -/
  isExtra : Bool
  isMissing : Bool
  cost : Nat
  /-- How many nodes below this one are seen. -/
  seenBelow : Nat
  /-- How many of them are seen as its children. -/
  seenChildren : Nat
  precedence : Int
  deriving Repr, Inhabited

inductive Tree where
  | node (facts : NodeFacts) (children : List Tree)
  deriving Inhabited

namespace Tree

/-- What is known of the node at the root. -/
def facts : Tree → NodeFacts
  | .node facts _ => facts

/-- The children of the node at the root. -/
def children : Tree → List Tree
  | .node _ children => children

/-- The symbol of the node at the root. -/
def symbol (tree : Tree) : Symbol :=
  tree.facts.symbol

def cost (tree : Tree) : Nat :=
  tree.facts.cost

/-- Whether the node can stand anywhere. -/
def isExtra (tree : Tree) : Bool :=
  tree.facts.isExtra

def isSeen (tree : Tree) : Bool :=
  isVisible tree.symbol

/-- How many nodes of the tree are seen; passed tokens count as one. -/
def seenNodes (tree : Tree) : Nat :=
  tree.facts.seenBelow + (if tree.isSeen then 1 else 0) +
    if tree.symbol = Symbol.skipped then 1 else 0

def ofToken (origin : Nat) (extent : Extent) : Tree :=
  .node
    { symbol := extent.symbol
      origin
      start := extent.start
      stop := extent.stop
      isExtra := extent.symbol = Symbol.finish
      isMissing := false
      cost := 0
      seenBelow := 0
      seenChildren := 0
      precedence := 0 }
    []

/-- The node of a token that is missing. -/
def missing (symbol : Symbol) (position : Nat) : Tree :=
  match ofToken position ⟨symbol, position, position⟩ with
  | .node facts children =>
      .node { facts with isMissing := true, cost := Cost.missingToken + Cost.recovery } children

/-- The tree as one that can stand anywhere, or not. -/
def withExtra (isExtra : Bool) : Tree → Tree
  | .node facts children => .node { facts with isExtra } children

def withSymbol (symbol : Symbol) : Tree → Tree
  | .node facts children => .node { facts with symbol } children

/-- The tree with a precedence added to its own. -/
def withPrecedence (added : Int) : Tree → Tree
  | .node facts children => .node { facts with precedence := facts.precedence + added } children

/-- Whether a symbol is that of what does not fit. -/
def isFaulty (symbol : Symbol) : Bool :=
  symbol = Symbol.misfit || symbol = Symbol.skipped

/-- What a child that does not fit adds to the cost of its node. -/
def passedCost (child : Tree) : Nat :=
  if child.isExtra || (child.symbol = Symbol.misfit && child.children.isEmpty) then 0
  else if child.isSeen then Cost.passedNode
  else Cost.passedNode * child.facts.seenChildren

/-- What a child adds to the facts of its node. -/
def addChild (facts : NodeFacts) (child : Tree) : NodeFacts :=
  let own := if child.symbol = Symbol.skipped then 0 else child.cost
  let passed := if isFaulty facts.symbol then passedCost child else 0
  { facts with
    stop := child.facts.stop
    cost := facts.cost + own + passed
    seenBelow := facts.seenBelow + child.facts.seenBelow + if child.isSeen then 1 else 0
    seenChildren := facts.seenChildren + if child.isSeen then 1 else child.facts.seenChildren
    precedence := facts.precedence + child.facts.precedence }

/-- The node of a symbol with its children; without any it stands at `position`. -/
def ofChildren (source : Source) (symbol : Symbol) (position : Nat) (children : List Tree) : Tree :=
  let first := (children.head?.map facts).getD (ofToken position ⟨symbol, position, position⟩).facts
  let empty : NodeFacts :=
    { symbol
      origin := first.origin
      start := first.start
      stop := first.start
      isExtra := false
      isMissing := false
      cost := 0
      seenBelow := 0
      seenChildren := 0
      precedence := 0 }
  let facts := children.foldl addChild empty
  let cost :=
    if isFaulty symbol then
      facts.cost + Cost.recovery + Cost.ofPassed (source.sizeBetween facts.start facts.stop)
        (source.rowsBetween facts.start facts.stop)
    else facts.cost
  .node { facts with cost } children

/-! ## Choosing between trees -/

mutual

/-- The order of two trees by their symbols and the numbers of their children. -/
def order : Tree → Tree → Ordering
  | .node left leftChildren, .node right rightChildren =>
      (compare left.symbol right.symbol).then <|
        (compare leftChildren.length rightChildren.length).then <|
          orderAll leftChildren rightChildren

/-- The order of two lists of trees of the same length. -/
def orderAll : List Tree → List Tree → Ordering
  | left :: leftRest, right :: rightRest => (order left right).then (orderAll leftRest rightRest)
  | _, _ => .eq

end

/-- Whether the second of two trees for the same characters is taken: the one with the lower cost,
or else with the higher precedence, or else the one that comes first in order. -/
def takesSecond (left right : Tree) : Bool :=
  if left.cost ≠ right.cost then right.cost < left.cost
  else if left.facts.precedence ≠ right.facts.precedence then
    left.facts.precedence < right.facts.precedence
  else if 0 < left.cost then true
  else order left right = .gt

/-- Whether two trees can stand for each other on the stack. -/
def isEquivalent (left right : Tree) : Bool :=
  let first := left.facts
  let second := right.facts
  first.symbol = second.symbol &&
    ((0 < first.cost && 0 < second.cost) ||
      (first.start - first.origin = second.start - second.origin &&
        first.stop - first.start = second.stop - second.start &&
        left.children.length = right.children.length && first.isExtra = second.isExtra))

/-! ## Nodes that are seen -/

mutual

/-- The nodes that are seen in place of a tree: itself, or those below it. -/
def seen : Tree → List Tree
  | .node facts children =>
      if isVisible facts.symbol then [.node facts children] else seenAll children

/-- The nodes that are seen in place of some trees. -/
def seenAll : List Tree → List Tree
  | [] => []
  | tree :: rest => seen tree ++ seenAll rest

end

/-- The nodes that are seen below the root. -/
def parts (tree : Tree) : List Tree :=
  seenAll tree.children

mutual

/-- The start of the first seen node that does not fit or is missing, if the tree is seen. -/
def fault? : Tree → Option Nat
  | .node facts children =>
      if ! isVisible facts.symbol then faultAmong? children
      else if facts.symbol = Symbol.misfit || facts.isMissing then some facts.start
      else faultAmong? children

/-- The start of the first seen node that does not fit or is missing among some trees. -/
def faultAmong? : List Tree → Option Nat
  | [] => none
  | .node facts children :: rest =>
      (if facts.cost = 0 then none else fault? (.node facts children)).or (faultAmong? rest)

end

end Tree

end Script

end EmbedScaffold
