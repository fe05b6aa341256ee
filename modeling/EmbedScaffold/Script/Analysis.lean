import EmbedScaffold.Script.Recovery

/-!
# The tree of a script

`Tree.ofScript?` gives every script a tree, also one that is not well formed.  All versions of the
stack go on in turn, each to the next token; then the best ones are kept.  The work ends when no
version is left that could cost less than the best tree for the whole script.
-/

namespace EmbedScaffold

namespace Script

namespace Machine

/-! ## One token -/

/-- The machine in front of a script. -/
def start (source : Source) : Machine :=
  { source
    nodes := #[⟨Automaton.beginning, 0, [], 0, 0, 0⟩]
    versions := #[⟨0, 0, .active, none⟩]
    finished := none
    acceptedCount := 0 }

/-- What can stand behind a version. -/
def expectation (machine : Machine) (index : Nat) : Expectation :=
  let state := machine.stateOf index
  let accepts := Automaton.accepts state
  { mode := Automaton.modeOf state
    allows := accepts
    keepsEmpty := fun symbol =>
      machine.hasAdvanced index && Automaton.next state symbol ≠ state
    hasPlace := fun word => accepts word || Automaton.isReserved state word }

def nextToken (machine : Machine) (index : Nat) : Tree :=
  let position := machine.positionOf index
  Tree.ofToken position <|
    machine.source.readToken (machine.expectation index) (Automaton.modeOf Automaton.lost) position

/-- What the actions in front of a token came to: they used the token up, or else some of them made
reductions, of which the last one began a version. -/
inductive Progress where
  | done (machine : Machine)
  | reduced (hasReduced : Bool) (last : Option Nat) (machine : Machine)

/-- Take the actions in front of a token, up to the one that uses it up. -/
def perform (index : Nat) (token : Tree) (hasReduced : Bool) (last : Option Nat)
    (machine : Machine) : List Action → Progress
  | [] => .reduced hasReduced last machine
  | .shift next :: _ => .done (machine.push index (some (token.withExtra false)) next)
  | .extra :: _ => .done (machine.push index (some (token.withExtra true)) (machine.stateOf index))
  | .accept :: _ => .done (machine.accept index token)
  | .recover :: _ => .done (machine.recover index token)
  | .repetition _ :: rest => perform index token hasReduced last machine rest
  | .reduce rule count precedence :: rest =>
      let (begun, machine) := machine.reduce index rule count precedence
      perform index token true (begun.or last) machine rest

def words : List Symbol :=
  keywords.map (·.2)

/-- Whether a word that has no place in a state is a name there. -/
def isNameIn (state : Nat) (word : Symbol) : Bool :=
  words.contains word && ! Automaton.isReserved state word &&
    Automaton.accepts state Symbol.name

/-- Go on with a version in front of a token until the token is used up or has no place. -/
def consume (index : Nat) : Nat → Tree → Machine → Machine
  | 0, _, machine => machine.halt index
  | fuel + 1, token, machine =>
      let state := machine.stateOf index
      match perform index token false none machine (Automaton.actions state token.symbol) with
      | .done machine => machine
      | .reduced _ (some begun) machine => consume index fuel token (machine.renumber begun index)
      | .reduced true none machine => machine.halt index
      | .reduced false none machine =>
          if isNameIn state token.symbol then
            consume index fuel (token.withSymbol Symbol.name) machine
          else
            let count := (machine.top index).count
            machine.update index ({ · with status := .paused token, countAtFault := count })

/-! ## The whole script -/

/-- How many actions in front of one token are enough. -/
def consumeFuel (machine : Machine) : Nat :=
  8 * machine.source.length + 1000

/-- Go on with a version until it has come as far as any other, or cannot go on.  Tells how far the
versions have come. -/
def advance (index : Nat) : Nat → Nat → Machine → Nat × Machine
  | 0, reached, machine => (reached, machine.halt index)
  | fuel + 1, reached, machine =>
      if machine.isActive index then
        let machine := consume index machine.consumeFuel (machine.nextToken index) machine
        let position := machine.positionOf index
        if reached < position || (0 < index && position = reached) then (position, machine)
        else advance index fuel reached machine
      else (reached, machine)

/-- Go on with all versions from a number on. -/
def advanceAll : Nat → Nat → Nat → Machine → Nat × Machine
  | 0, _, reached, machine => (reached, machine)
  | fuel + 1, index, reached, machine =>
      if machine.versions.size ≤ index then (reached, machine)
      else
        let (reached, machine) := advance index (machine.source.length + 100) reached machine
        advanceAll fuel (index + 1) reached machine

/-- Go on with the script until its best tree is known. -/
def run : Nat → Nat → Machine → Machine
  | 0, _, machine => machine
  | fuel + 1, reached, machine =>
      let (reached, machine) := advanceAll 100 0 reached machine
      let isOver := machine.versions.isEmpty
      let (lowest, machine) := machine.condense
      let isBest := machine.finished.any fun tree => lowest.all (tree.cost < ·)
      if isOver || isBest || machine.versions.isEmpty then machine
      else run fuel reached machine

end Machine

def Tree.ofScript? (content : Text) : Option Tree :=
  let source := Source.ofText content
  (Machine.run (8 * content.length + 100) 0 (Machine.start source)).finished

end Script

end EmbedScaffold
