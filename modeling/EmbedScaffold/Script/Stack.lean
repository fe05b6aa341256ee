import EmbedScaffold.Script.Automaton.Basic
import EmbedScaffold.Script.Tree

/-!
# The branching stack

While a script can still be understood in several ways, a stack is kept for each of them.  The
stacks share what they have in common: their nodes lie in one array, a node can have several nodes
below it, and a version is a stack by its topmost node.
-/

namespace EmbedScaffold

namespace Script

/-! ## Stacks -/

/-- What lies below a node of a stack: another node and the tree between them; a gap without a tree
stands for the place where the script went wrong. -/
structure Link where
  node : Nat
  tree : Option Tree
  deriving Inhabited

/-- A node of the stacks: a state of the automaton at an offset of the script. -/
structure StackNode where
  state : Nat
  position : Nat
  links : List Link
  cost : Nat
  /-- How many seen nodes lie below. -/
  count : Nat
  precedence : Int
  deriving Inhabited

/-- What a version of the stack is doing. -/
inductive Status where
  | active
  | halted
  /-- Waiting, since the token has no place. -/
  | paused (token : Tree)
  deriving Inhabited

/-- A place on the stack to which a version may return. -/
structure Landing where
  position : Nat
  depth : Nat
  state : Nat

structure Version where
  node : Nat
  /-- How many seen nodes there were when the script last went wrong. -/
  countAtFault : Nat
  status : Status
  landings : Option (List Landing)
  deriving Inhabited

/-- The work on a script: the stacks, the best tree for the whole script so far, and how many such
trees there were. -/
structure Machine where
  source : Source
  nodes : Array StackNode
  versions : Array Version
  finished : Option Tree
  acceptedCount : Nat

/-- How many links a node has at most. -/
def linkLimit : Nat := 8

/-- How many ways down the stack are followed at most. -/
def walkLimit : Nat := 64

namespace StackNode

/-- The node on top of another one. -/
def above (below : StackNode) (link : Link) (state : Nat) : StackNode :=
  match link.tree with
  | none => { below with state, links := [link] }
  | some tree =>
      { state
        position := tree.facts.stop
        links := [link]
        cost := below.cost + tree.cost
        count := below.count + tree.seenNodes
        precedence := below.precedence + tree.facts.precedence }

/-- Whether two nodes can be one. -/
def isMergeable (left right : StackNode) : Bool :=
  left.state = right.state && left.position = right.position && left.cost = right.cost

end StackNode

namespace Link

def precedence (link : Link) : Int :=
  (link.tree.map (·.facts.precedence)).getD 0

/-- Whether the trees of two links can stand for each other. -/
def isEquivalent (left right : Link) : Bool :=
  match left.tree, right.tree with
  | none, none => true
  | some leftTree, some rightTree => Tree.isEquivalent leftTree rightTree
  | _, _ => false

end Link

abbrev Nodes := Array StackNode

namespace Nodes

/-- The link of a node to which another one adds nothing: it leads to the same node, or to one that
can be the same. -/
def findLike (nodes : Nodes) (node : StackNode) (added : Link) : Option (Nat × Link) :=
  (node.links.zipIdx.find? fun (link, _) =>
    link.isEquivalent added &&
      (link.node = added.node ||
        (nodes.getD link.node default).isMergeable (nodes.getD added.node default))).map
    fun (link, index) => (index, link)

/-- Add a link to a node.  A link between the same nodes is kept once, with the tree of higher
precedence, and nodes that can be one share their links. -/
def addLink (fuel : Nat) (nodes : Nodes) (target : Nat) (added : Link) : Nodes :=
  match fuel with
  | 0 => nodes
  | remaining + 1 =>
      let node := nodes.getD target default
      let below := nodes.getD added.node default
      let precedence := below.precedence + added.precedence
      if added.node = target then nodes
      else
        match nodes.findLike node added with
        | some (index, link) =>
            if link.node = added.node then
              if link.precedence < added.precedence then
                nodes.setIfInBounds target
                  { node with links := node.links.set index added, precedence }
              else nodes
            else
              let nodes := below.links.foldl
                (fun nodes deeper => addLink remaining nodes link.node deeper) nodes
              let node := nodes.getD target default
              nodes.setIfInBounds target
                { node with precedence := max node.precedence precedence }
        | none =>
            if linkLimit ≤ node.links.length then nodes
            else
              let count := below.count + (added.tree.map (·.seenNodes)).getD 0
              nodes.setIfInBounds target
                { node with
                  links := node.links ++ [added]
                  count := max node.count count
                  precedence := max node.precedence precedence }

end Nodes

/-! ## Ways down the stack -/

/-- A way down a stack: the node it has reached, the trees it has passed, the lowest first, and how
many of them count. -/
structure Walk where
  node : Nat
  trees : List Tree
  depth : Nat

def Walk.follow (walk : Walk) (link : Link) : Walk :=
  match link.tree with
  | none => ⟨link.node, walk.trees, walk.depth + 1⟩
  | some tree =>
      ⟨link.node, tree :: walk.trees, walk.depth + if tree.isExtra then 0 else 1⟩

/-- What becomes of a way down: whether it is taken as it is, and whether it ends. -/
structure Halt where
  isTaken : Bool
  isEnd : Bool

/-- The ways down a stack that are followed, the ones to be followed next, and those taken so far,
the last one first. -/
structure Search (α : Type) where
  kept : List Walk
  branched : List Walk
  taken : List Walk
  memory : α

namespace Search

/-- Go on with one of `others + 1` ways down. -/
def goOn {α : Type} (nodes : Nodes) (halt : StackNode → Walk → α → Halt × α) (others : Nat)
    (search : Search α) (walk : Walk) : Search α :=
  let node := nodes.getD walk.node default
  let (halted, memory) := halt node walk search.memory
  let taken := if halted.isTaken then walk :: search.taken else search.taken
  match node.links with
  | [] => { search with taken, memory }
  | first :: rest =>
      if halted.isEnd then { search with taken, memory }
      else
        let room := walkLimit - (search.kept.length + search.branched.length + others + 1)
        { search with
          kept := search.kept ++ [walk.follow first]
          branched := search.branched ++ (rest.take room).map walk.follow
          taken
          memory }

/-- Go on with all ways down. -/
def sweep {α : Type} (nodes : Nodes) (halt : StackNode → Walk → α → Halt × α)
    (search : Search α) : List Walk → Search α
  | [] => search
  | walk :: rest => sweep nodes halt (search.goOn nodes halt rest.length walk) rest

/-- Follow the ways down until all of them have ended. -/
def run {α : Type} (nodes : Nodes) (halt : StackNode → Walk → α → Halt × α) (fuel : Nat)
    (search : Search α) : Search α :=
  match fuel with
  | 0 => search
  | remaining + 1 =>
      match search.kept ++ search.branched with
      | [] => search
      | walks =>
          run nodes halt remaining
            (sweep nodes halt { search with kept := [], branched := [] } walks)

end Search

/-- The ways from a node down that are taken, in the order in which they are, and what was
remembered. -/
def walksDown {α : Type} (nodes : Nodes) (halt : StackNode → Walk → α → Halt × α) (memory : α)
    (node : Nat) : List Walk × α :=
  let search := Search.run nodes halt (nodes.size + 1) ⟨[⟨node, [], 0⟩], [], [], memory⟩
  (search.taken.reverse, search.memory)

/-- The ways that end at the same node. -/
structure Descent where
  node : Nat
  trees : List (List Tree)

/-- Group ways down by the nodes at which they end. -/
def groupWalks (walks : List Walk) : List Descent :=
  walks.foldl
    (fun groups walk =>
      if groups.any (·.node = walk.node) then
        groups.map fun group =>
          if group.node = walk.node then { group with trees := group.trees ++ [walk.trees] }
          else group
      else groups ++ [⟨walk.node, [walk.trees]⟩])
    []

/-! ## Versions -/

namespace Machine

def version (machine : Machine) (index : Nat) : Version :=
  machine.versions.getD index default

/-- The topmost node of a version. -/
def top (machine : Machine) (index : Nat) : StackNode :=
  machine.nodes.getD (machine.version index).node default

def stateOf (machine : Machine) (index : Nat) : Nat :=
  (machine.top index).state

/-- The offset that a version has reached. -/
def positionOf (machine : Machine) (index : Nat) : Nat :=
  (machine.top index).position

def isActive (machine : Machine) (index : Nat) : Bool :=
  match (machine.version index).status with
  | .active => true
  | _ => false

def isHalted (machine : Machine) (index : Nat) : Bool :=
  match (machine.version index).status with
  | .halted => true
  | _ => false

def isPaused (machine : Machine) (index : Nat) : Bool :=
  match (machine.version index).status with
  | .paused _ => true
  | _ => false

def update (machine : Machine) (index : Nat) (change : Version → Version) : Machine :=
  { machine with versions := machine.versions.modify index change }

def halt (machine : Machine) (index : Nat) : Machine :=
  machine.update index ({ · with status := .halted })

def remove (machine : Machine) (index : Nat) : Machine :=
  { machine with versions := machine.versions.eraseIdxIfInBounds index }

/-- Put a tree on a stack, or the gap where the script went wrong. -/
def push (machine : Machine) (index : Nat) (tree : Option Tree) (state : Nat) : Machine :=
  let below := (machine.version index).node
  let node := (machine.top index).above ⟨below, tree⟩ state
  let machine := { machine with nodes := machine.nodes.push node }
  machine.update index fun version =>
    { version with
      node := machine.nodes.size - 1
      countAtFault := if tree.isNone then node.count else version.countAtFault }

/-- Put trees on a stack, all with the same state behind them. -/
def pushAll (machine : Machine) (index : Nat) (trees : List Tree) (state : Nat) : Machine :=
  trees.foldl (fun machine tree => machine.push index (some tree) state) machine

def canMerge (machine : Machine) (left right : Nat) : Bool :=
  machine.isActive left && machine.isActive right &&
    (machine.top left).isMergeable (machine.top right)

/-- Make two versions one, if they can be. -/
def merge? (machine : Machine) (left right : Nat) : Option Machine :=
  if machine.canMerge left right then
    let target := (machine.version left).node
    let nodes := (machine.top right).links.foldl
      (fun (nodes : Nodes) link => nodes.addLink (nodes.size + 1) target link) machine.nodes
    let node := nodes.getD target default
    let machine := { machine with nodes }
    let machine := machine.update left fun version =>
      { version with
        countAtFault := if node.state = Automaton.lost then node.count else version.countAtFault }
    some (machine.remove right)
  else none

/-- Make a version one with the first of some others with which it can be. -/
def mergeAny? (machine : Machine) (candidates : List Nat) (index : Nat) : Option Machine :=
  candidates.findSome? fun candidate => machine.merge? candidate index

/-- Let one version take the place of another. -/
def renumber (machine : Machine) (source target : Nat) : Machine :=
  if source = target then machine
  else
    let moved := machine.version source
    let landings := moved.landings.or (machine.version target).landings
    (machine.update target fun _ => { moved with landings }).remove source

/-- Follow the ways from the top of a version down, and begin a version at each node where some are
taken; these versions come last, in the order of the groups. -/
def branch {α : Type} (machine : Machine) (index : Nat) (halt : StackNode → Walk → α → Halt × α)
    (memory : α) : List Descent × Machine :=
  let version := machine.version index
  let groups := groupWalks (walksDown machine.nodes halt memory version.node).1
  let begun := groups.map fun group =>
    { version with node := group.node, status := Status.active, landings := none }
  (groups, { machine with versions := machine.versions ++ begun.toArray })

/-- Take a number of trees from a stack. -/
def pop (machine : Machine) (index count : Nat) : List Descent × Machine :=
  machine.branch index
    (fun _ walk (memory : Unit) =>
      let isReached := walk.depth = count
      (⟨isReached, isReached⟩, memory))
    ()

def popAll (machine : Machine) (index : Nat) : List Descent × Machine :=
  machine.branch index
    (fun node _ (memory : Unit) => (⟨node.links.isEmpty, false⟩, memory)) ()

/-- Take the misfit on top of a stack from it, if there is one. -/
def popMisfit (machine : Machine) (index : Nat) : List Tree × Machine :=
  let isMisfit (tree : Option Tree) : Bool :=
    (tree.map fun tree => tree.symbol == Symbol.misfit).getD false
  if (machine.top index).links.any fun link => isMisfit link.tree then
    let (groups, machine) := machine.branch index
      (fun _ walk (hasFound : Bool) =>
        if walk.trees.isEmpty then (⟨false, false⟩, hasFound)
        else
          let isFound := ! hasFound && isMisfit walk.trees.getLast?
          (⟨isFound, true⟩, hasFound || isFound))
      false
    match groups with
    | ⟨_, trees :: _⟩ :: _ =>
        (trees, machine.renumber (machine.versions.size - groups.length) index)
    | _ => ([], machine)
  else ([], machine)

/-- Note the places on a stack to which it may return, down to a depth. -/
def noteLandings (machine : Machine) (index limit : Nat) : Machine :=
  let halt (node : StackNode) (walk : Walk) (landings : List Landing) : Halt × List Landing :=
    if limit < walk.depth then (⟨false, true⟩, landings)
    else if (landings.takeWhile (walk.depth ≤ ·.depth)).any fun landing =>
        landing.depth = walk.depth && landing.state = node.state then
      (⟨false, false⟩, landings)
    else (⟨false, false⟩, ⟨node.position, walk.depth, node.state⟩ :: landings)
  let (_, landings) := walksDown machine.nodes halt [] (machine.version index).node
  machine.update index ({ · with landings := some landings.reverse })

/-- Settle how many seen nodes there were when a version last went wrong: not more than now. -/
def settle (machine : Machine) (index : Nat) : Machine :=
  let count := (machine.top index).count
  machine.update index fun version =>
    { version with countAtFault := min version.countAtFault count }

/-- How many seen nodes a version has passed since the script last went wrong. -/
def countSinceFault (machine : Machine) (index : Nat) : Nat :=
  (machine.top index).count - (machine.version index).countAtFault

/-- What a version costs; one that has not yet left the grammar behind costs more. -/
def costOf (machine : Machine) (index : Nat) : Nat :=
  let top := machine.top index
  let isAtGap := top.state = Automaton.lost && ((top.links.head?.map (·.tree.isNone)).getD true)
  top.cost + if machine.isPaused index || isAtGap then Cost.recovery else 0

/-- Whether characters have been passed from a node on upward since the script last went wrong. -/
def hasAdvancedFrom (machine : Machine) (countAtFault : Nat) (fuel node : Nat) : Bool :=
  match fuel with
  | 0 => false
  | remaining + 1 =>
      let top := machine.nodes.getD node default
      match top.links with
      | ⟨below, some tree⟩ :: _ =>
          if tree.facts.origin < tree.facts.stop then true
          else
            countAtFault < top.count && tree.cost = 0 &&
              hasAdvancedFrom machine countAtFault remaining below
      | _ => false

/-- Whether a version has passed characters since the script last went wrong. -/
def hasAdvanced (machine : Machine) (index : Nat) : Bool :=
  let version := machine.version index
  (machine.top index).cost = 0 ||
    machine.hasAdvancedFrom version.countAtFault (machine.nodes.size + 1) version.node

end Machine

end Script

end EmbedScaffold
