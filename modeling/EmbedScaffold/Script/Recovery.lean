import EmbedScaffold.Script.Stack

/-!
# Reducing and recovering

A reduction takes the trees of a rule from a stack and puts their node in their place, for every way
down the stack.  Where no version can go on, the paused one that costs least recovers: it returns
to an earlier place of its stack where the token fits, adds a token that is missing, or passes the
token.
-/

namespace EmbedScaffold

namespace Script

def versionLimit : Nat := 6

/-- How many more versions there may be for a while. -/
def versionOverflow : Nat := 4

/-- The difference in cost beyond which a version is given up at once. -/
def costLimit : Nat := 18 * Cost.passedNode

/-- How deep a version looks for a place to return to. -/
def landingLimit : Nat := 16

namespace Machine

/-! ## Reductions -/

/-- The trees without those on top that can stand anywhere, and those. -/
def splitExtras (trees : List Tree) : List Tree × List Tree :=
  let extras := (trees.reverse.takeWhile Tree.isExtra).reverse
  (trees.take (trees.length - extras.length), extras)

/-- The node of a rule for the best of some lists of trees, and the trees that stand above it. -/
def bestNode (machine : Machine) (rule : Symbol) (position : Nat) :
    List (List Tree) → Option (Tree × List Tree)
  | [] => none
  | first :: others =>
      let nodeOf (trees : List Tree) : Tree × List Tree :=
        let (children, extras) := splitExtras trees
        (Tree.ofChildren machine.source rule position children, extras)
      some <| others.foldl
        (fun best trees =>
          let candidate := nodeOf trees
          if Tree.takesSecond best.1 candidate.1 then candidate else best)
        (nodeOf first)

/-- Reduce the ways that end at one node, whose version is `slot`: put the node of the rule in place
of the trees, and make the version one with an earlier one if it can be. Also tells whether the
version is gone. -/
def reduceAt (machine : Machine) (index : Nat) (rule : Symbol) (precedence : Int) (slot : Nat)
    (trees : List (List Tree)) : Bool × Machine :=
  match machine.bestNode rule (machine.positionOf slot) trees with
  | none => (false, machine)
  | some (node, extras) =>
      let next := Automaton.next (machine.stateOf slot) rule
      let pushed := machine.push slot (some (node.withPrecedence precedence)) next
      let pushed := pushed.pushAll slot extras next
      match pushed.mergeAny? ((List.range slot).filter (· ≠ index)) slot with
      | some merged => (true, merged)
      | none => (false, pushed)

/-- Reduce the last trees of a version to a rule.  The version itself stays; the results come behind
all others, and the number of the first one is told. -/
def reduce (machine : Machine) (index : Nat) (rule : Symbol) (count : Nat) (precedence : Int) :
    Option Nat × Machine :=
  let initial := machine.versions.size
  let haltedCount := ((List.range initial).filter machine.isHalted).length
  let limit := versionLimit + versionOverflow + haltedCount
  let (groups, machine) := machine.pop index count
  let (_, machine) := groups.zipIdx.foldl
    (fun (removed, machine) (group, place) =>
      let slot := initial + place - removed
      if limit < slot then (removed + 1, machine.remove slot)
      else
        let (isGone, machine) := machine.reduceAt index rule precedence slot group.trees
        (if isGone then removed + 1 else removed, machine))
    (0, machine)
  (if initial < machine.versions.size then some initial else none, machine)

/-- Make one list of the reductions that differ in rule or count. -/
def distinctReductions (possible : List Action) : List (Symbol × Nat × Int) :=
  possible.foldl
    (fun known action =>
      match action with
      | .reduce rule count precedence =>
          if count = 0 || known.any (fun other => other.1 = rule && other.2.1 = count) then known
          else known ++ [(rule, count, precedence)]
      | _ => known)
    []

/-- Whether an action goes on with the token. -/
def goesOn : Action → Bool
  | .shift _ => true
  | .recover => true
  | _ => false

/-- Do all reductions that are possible in a version and in the versions they lead to: in front of
one token, or of any. Also tells whether some version can then go on with the token; the others are
removed if a token is given. -/
def reduceFully (token : Option Symbol) (initial begun : Nat) :
    Nat → Nat → Nat → Machine → Bool × Machine
  | 0, _, _, machine => (false, machine)
  | fuel + 1, round, index, machine =>
      let versionCount := machine.versions.size
      if versionCount ≤ index then (false, machine)
      else
        let earlier := (List.range index).filter (initial ≤ ·)
        match machine.mergeAny? earlier index with
        | some merged => reduceFully token initial begun fuel (round + 1) index merged
        | none =>
            let state := machine.stateOf index
            let possible :=
              match token with
              | some token => Automaton.actions state token
              | none => (List.range tokenCount).tail.flatMap (Automaton.actions state)
            let (result, machine) := (distinctReductions possible).foldl
              (fun (_, machine) (rule, count, precedence) =>
                machine.reduce index rule count precedence)
              ((none : Option Nat), machine)
            let next := if index = begun then versionCount else index + 1
            if possible.any goesOn then
              let (_, machine) := reduceFully token initial begun fuel (round + 1) next machine
              (true, machine)
            else
              match result with
              | some reduced =>
                  if round < versionLimit then
                    reduceFully token initial begun fuel (round + 1) index
                      (machine.renumber reduced index)
                  else leave fuel round index next machine
              | none => leave fuel round index next machine
where
  /-- Go on with the next version behind one that cannot go on with the token. -/
  leave (fuel round index next : Nat) (machine : Machine) : Bool × Machine :=
    let machine := if token.isSome then machine.remove index else machine
    reduceFully token initial begun fuel (round + 1) next machine

/-- Do all reductions that are possible in a version in front of a token, or of any. -/
def reduceAll (machine : Machine) (index : Nat) (token : Option Symbol) : Bool × Machine :=
  reduceFully token machine.versions.size index 400 0 index machine

/-! ## Comparing versions -/

/-- How a version fares: what it costs, how many seen nodes it has passed since the script last went
wrong, its precedence, and whether it is still lost. -/
structure Standing where
  cost : Nat
  count : Nat
  precedence : Int
  isLost : Bool

/-- The outcome of comparing two versions. -/
inductive Preference where
  | takeLeft
  | preferLeft
  | none
  | preferRight
  | takeRight
  deriving DecidableEq

def standing (machine : Machine) (index : Nat) : Standing :=
  let isPaused := machine.isPaused index
  { cost := machine.costOf index + if isPaused then Cost.passedNode else 0
    count := machine.countSinceFault index
    precedence := (machine.top index).precedence
    isLost := isPaused || machine.stateOf index = Automaton.lost }

/-- Whether a difference in cost is so large that the dearer version is given up. -/
def isDecisive (cheaper dearer : Standing) : Bool :=
  costLimit < (dearer.cost - cheaper.cost) * (1 + cheaper.count)

/-- Compare two versions: one that is lost comes behind one that is not, then the cost decides, and
then the precedence. -/
def compareStandings (left right : Standing) : Preference :=
  if ! left.isLost && right.isLost then
    if left.cost < right.cost then .takeLeft else .preferLeft
  else if left.isLost && ! right.isLost then
    if right.cost < left.cost then .takeRight else .preferRight
  else if left.cost < right.cost then
    if isDecisive left right then .takeLeft else .preferLeft
  else if right.cost < left.cost then
    if isDecisive right left then .takeRight else .preferRight
  else if right.precedence < left.precedence then .preferLeft
  else if left.precedence < right.precedence then .preferRight
  else .none

def settleAll (machine : Machine) : Machine :=
  (List.range machine.versions.size).foldl settle machine

/-- Whether going on with a version at some cost is worse than what there is already. -/
def hasBetter (machine : Machine) (index cost : Nat) : Bool :=
  let candidate : Standing := { machine.standing index with cost, isLost := false }
  machine.finished.any (·.cost ≤ cost) ||
    (List.range machine.versions.size).any fun other =>
      other ≠ index && machine.isActive other &&
        machine.positionOf index ≤ machine.positionOf other &&
        match compareStandings candidate (machine.standing other) with
        | .takeRight => true
        | .preferRight => machine.canMerge other index
        | _ => false

/-! ## The end of a script -/

/-- The whole tree that the trees of a stack make up: the topmost one that does not stand anywhere
takes in all others. -/
def wholeTree? (machine : Machine) (trees : List Tree) : Option Tree :=
  let above := (trees.reverse.takeWhile Tree.isExtra).reverse
  let below := trees.take (trees.length - above.length)
  below.getLast?.map fun root =>
    Tree.ofChildren machine.source root.symbol root.facts.origin
      (below.dropLast ++ root.children ++ above)

/-- Take a tree for the whole script, unless a better one is known. -/
def finish (machine : Machine) (tree : Tree) : Machine :=
  let isBetter :=
    match machine.finished with
    | none => true
    | some known => Tree.takesSecond known tree
  { machine with
    finished := if isBetter then some tree else machine.finished
    acceptedCount := machine.acceptedCount + 1 }

/-- Accept what is on the stack of a version as the whole script. -/
def accept (machine : Machine) (index : Nat) (token : Tree) : Machine :=
  let machine := machine.push index (some token) Automaton.beginning
  let initial := machine.versions.size
  let (groups, machine) := machine.popAll index
  let trees := (groups.flatMap (·.trees)).filterMap machine.wholeTree?
  ((trees.foldl finish machine).remove initial).halt index

/-! ## Passing tokens -/

/-- Return to a place on the stack: what lies above it becomes a misfit. Also tells whether there is
such a place. -/
def returnTo (machine : Machine) (index depth state : Nat) : Bool × Machine :=
  let initial := machine.versions.size
  let (groups, machine) := machine.pop index depth
  groups.zipIdx.foldl
    (fun (hasReturned, machine) (group, place) =>
      let slot := initial + place
      if machine.stateOf slot ≠ state then (hasReturned, machine.halt slot)
      else
        let (misfit, machine) := machine.popMisfit slot
        let trees := (misfit.flatMap Tree.children) ++ group.trees.headD []
        let (passed, extras) := splitExtras trees
        let machine :=
          if passed.isEmpty then machine
          else
            let node := Tree.ofChildren machine.source Symbol.misfit 0 passed
            machine.push slot (some (node.withExtra true)) state
        (true, machine.pushAll slot extras state))
    (false, machine)

/-- Look for a place to which a version can return, among some on its stack: the first one where the
token fits, unless something better is known.  A place where one of the first `initial` versions
stands already is no use. -/
def tryLandings (machine : Machine) (initial index cost count : Nat) (token : Symbol) :
    List Landing → Bool × Machine
  | [] => (false, machine)
  | landing :: rest =>
      let position := machine.positionOf index
      let isTaken := (List.range initial).any fun other =>
        machine.stateOf other = landing.state && machine.positionOf other = position
      if landing.state = Automaton.lost || landing.position = position || isTaken then
        tryLandings machine initial index cost count token rest
      else
        let source := machine.source
        let dearer := cost + landing.depth * Cost.passedNode +
          Cost.ofPassed (source.sizeBetween landing.position position)
            (source.rowsBetween landing.position position)
        if machine.hasBetter index dearer then (false, machine)
        else if Automaton.accepts landing.state token then
          let depth := landing.depth + if 0 < count then 1 else 0
          let (hasReturned, returned) := machine.returnTo index depth landing.state
          if hasReturned then (true, returned)
          else tryLandings returned initial index cost count token rest
        else tryLandings machine initial index cost count token rest

/-- Remove the versions from a number on that are not active. -/
def removeInactive (machine : Machine) (initial : Nat) : Machine :=
  let kept := (List.range machine.versions.size).filter fun index =>
    index < initial || machine.isActive index
  { machine with versions := (kept.map machine.version).toArray }

/-- Pass a token in a version that is lost; the tokens that it passed before are taken together
with it. -/
def passToken (machine : Machine) (index count : Nat) (token : Tree) : Machine :=
  let isExtra := (Automaton.actions Automaton.beginning token.symbol).getLast? = some .extra
  let token := if isExtra then token.withExtra true else token
  let skipped := Tree.ofChildren machine.source Symbol.skipped 0 [token]
  if 0 < count then
    let initial := machine.versions.size
    let (groups, machine) := machine.pop index 1
    let machine := (List.range (groups.length - 1)).foldl
      (fun machine _ => machine.remove (initial + 1)) machine
    let machine := machine.renumber initial index
    let trees := (groups.head?.bind (·.trees.head?)).getD []
    let joined := Tree.ofChildren machine.source Symbol.skipped 0 (trees ++ [skipped])
    machine.push index (some joined) Automaton.lost
  else machine.push index (some skipped) Automaton.lost

/-- Recover in a version that is lost: return to a place where the token fits, and also go on
without the token unless that costs too much. -/
def recover (machine : Machine) (index : Nat) (token : Tree) : Machine :=
  let machine := machine.settleAll
  let initial := machine.versions.size
  let count := machine.countSinceFault index
  let cost := machine.costOf index
  let landings := ((machine.version index).landings).getD []
  let (hasReturned, machine) :=
    if token.symbol = Symbol.misfit then (false, machine)
    else machine.tryLandings initial index cost count token.symbol landings
  let machine := machine.removeInactive initial
  if hasReturned && versionLimit < machine.versions.size then machine.halt index
  else if token.symbol = Symbol.finish then
    let node := Tree.ofChildren machine.source Symbol.misfit (machine.positionOf index) []
    (machine.push index (some node) Automaton.beginning).accept index token
  else
    let source := machine.source
    let facts := token.facts
    let dearer := cost + Cost.passedNode +
      Cost.ofPassed (source.sizeBetween facts.origin facts.stop)
        (source.rowsBetween facts.origin facts.stop)
    if machine.hasBetter index dearer then machine.halt index
    else machine.passToken index count token

/-! ## Missing tokens -/

/-- Whether the first action in a state in front of a token reduces. -/
def reducesFirst (state : Nat) (token : Symbol) : Bool :=
  match Automaton.actions state token with
  | .reduce .. :: _ => true
  | _ => false

/-- Go on as if a token were there that is missing: the first one behind which the next token can be
reached, or at the end of the script any token.  Also tells whether there is one. -/
def addMissing (machine : Machine) (index : Nat) (token : Symbol) (position : Nat) :
    List Symbol → Bool × Machine
  | [] => (false, machine)
  | symbol :: rest =>
      let state := machine.stateOf index
      let next := Automaton.next state symbol
      if next = 0 || next = state || ! reducesFirst next token then
        addMissing machine index token position rest
      else
        let copied := machine.versions.size
        let copy := { machine.version index with landings := none }
        let added := { machine with versions := machine.versions.push copy }
        let added := added.push copied (some (Tree.missing symbol position)) next
        let wanted := if token = Symbol.finish then none else some token
        let (isReached, reduced) := added.reduceAll copied wanted
        if isReached then (true, reduced)
        else addMissing reduced index token position rest

/-- Mark in some versions that the script went wrong; in the first of them where it helps a missing
token is added before. -/
def markLost (machine : Machine) (token : Symbol) (position : Nat) (hasAdded : Bool) :
    List Nat → Machine
  | [] => machine
  | index :: rest =>
      let (hasAdded, machine) :=
        if hasAdded then (true, machine)
        else machine.addMissing index token position (List.range tokenCount).tail
      markLost (machine.push index none Automaton.lost) token position hasAdded rest

/-- Begin to recover in a version in which a token has no place. -/
def beginRecovery (machine : Machine) (index : Nat) (token : Tree) : Machine :=
  let initial := machine.versions.size
  let (_, machine) := machine.reduceAll index none
  let versionCount := machine.versions.size
  let position := machine.positionOf index
  let added := (List.range versionCount).filter (initial ≤ ·)
  let machine := machine.markLost token.symbol position false (index :: added)
  let machine := added.foldl
    (fun machine _ => (machine.merge? index initial).getD machine) machine
  (machine.noteLandings index landingLimit).recover index token

/-! ## Keeping the best versions -/

def swap (machine : Machine) (left right : Nat) : Machine :=
  let first := machine.version left
  let second := machine.version right
  (machine.update left fun _ => second).update right fun _ => first

/-- Compare a version with the earlier ones, from `other` on: versions that are clearly worse are
removed, equal ones become one, and better ones come first.  Tells the number at which the next
version stands. -/
def rank (machine : Machine) (standing : Standing) : Nat → Nat → Nat → Nat × Machine
  | 0, index, _ => (index + 1, machine)
  | fuel + 1, index, other =>
      if index ≤ other then (index + 1, machine)
      else
        let machine := machine.settle other
        match compareStandings (machine.standing other) standing with
        | .takeLeft => (index, machine.remove index)
        | .takeRight => rank (machine.remove other) standing fuel (index - 1) other
        | .preferRight =>
            match machine.merge? other index with
            | some merged => (index, merged)
            | none => rank (machine.swap index other) standing fuel index (other + 1)
        | _ =>
            match machine.merge? other index with
            | some merged => (index, merged)
            | none => rank machine standing fuel index (other + 1)

/-- Rank the versions from a number on, and tell the lowest cost of one that is not lost. -/
def rankAll : Nat → Nat → Option Nat → Machine → Option Nat × Machine
  | 0, _, lowest, machine => (lowest, machine)
  | fuel + 1, index, lowest, machine =>
      if machine.versions.size ≤ index then (lowest, machine)
      else if machine.isHalted index then rankAll fuel index lowest (machine.remove index)
      else
        let machine := machine.settle index
        let standing := machine.standing index
        let lowest :=
          if standing.isLost then lowest
          else some (min standing.cost (lowest.getD standing.cost))
        let (next, machine) := machine.rank standing (machine.versions.size + 1) index 0
        rankAll fuel next lowest machine

/-- Wake the first paused version unless one is active already, and remove the others.  Tells the
cost of the version that was woken. -/
def wake : Nat → Nat → Nat → Bool → Option Nat → Machine → Option Nat × Machine
  | 0, _, _, _, lowest, machine => (lowest, machine)
  | fuel + 1, index, count, hasActive, lowest, machine =>
      if count ≤ index then (lowest, machine)
      else
        match (machine.version index).status with
        | .paused token =>
            if ! hasActive && machine.acceptedCount < versionLimit then
              let lowest := machine.costOf index
              let woken := machine.update index ({ · with status := .active })
              wake fuel (index + 1) count true (some lowest) (woken.beginRecovery index token)
            else wake fuel index (count - 1) hasActive lowest (machine.remove index)
        | _ => wake fuel (index + 1) count true lowest machine

/-- Keep the best versions, and tell the lowest cost among them. -/
def condense (machine : Machine) : Option Nat × Machine :=
  let (lowest, machine) := rankAll (2 * machine.versions.size + 2) 0 none machine
  let machine := { machine with versions := machine.versions.take versionLimit }
  wake (machine.versions.size + 1) 0 machine.versions.size false lowest machine

end Machine

end Script

end EmbedScaffold
