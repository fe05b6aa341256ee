import EmbedScaffold.Script.Automaton.Rows
import EmbedScaffold.Script.Automaton.Sets
import EmbedScaffold.Script.Automaton.States
import EmbedScaffold.Script.Mode

/-!
# The automaton of the grammar

The automaton tells what may be done in a state in front of a token: go on behind the token, or
reduce the last nodes to a rule.  Where the grammar leaves it open, several actions are possible.
It is the automaton with one token of lookahead for the grammar of scripts, in which states that
differ only in tokens that are told apart anyway are one.
-/

namespace EmbedScaffold

namespace Script

/-- What may be done in front of a token. -/
inductive Action where
  /-- Go on behind the token. -/
  | shift (next : Nat)
  /-- Go on behind the token, but only as one of several repetitions. -/
  | repetition (next : Nat)
  /-- Pass the token as one that can stand anywhere. -/
  | extra
  /-- Reduce the last nodes to a rule. -/
  | reduce (rule : Symbol) (count : Nat) (precedence : Int)
  /-- Accept the script. -/
  | accept
  /-- Pass the token as one that does not fit. -/
  | recover
  deriving DecidableEq, Repr, Inhabited

structure AutomatonState where
  /-- The mode in which the next token is read. -/
  mode : Nat
  /-- Whether reserved words are no names here. -/
  isReserving : Bool
  /-- What may be reduced in front of each token that no shift is possible with. -/
  reductions : Array (List Action)
  /-- What may be done in front of each token that a shift is possible with. -/
  shifts : Array (List Action)
  /-- The next state behind each rule, zero where there is none. -/
  gotos : Array Nat
  deriving Inhabited

namespace Automaton

/-! ## Reading the tables -/

/-- The value of a digit to the base 64. -/
def digitValue (digit : Char) : Nat :=
  if digit.isDigit then digit.toNat - '0'.toNat
  else if digit.isUpper then digit.toNat - 'A'.toNat + 10
  else if digit.isLower then digit.toNat - 'a'.toNat + 36
  else if digit = '+' then 62
  else 63

/-- The numbers that pairs of digits stand for. -/
def numbers : Text → List Nat
  | high :: low :: rest => (digitValue high * 64 + digitValue low) :: numbers rest
  | _ => []

def entries (table : List String) : List (List Nat) :=
  (Text.words (String.join table).toList).map numbers

def sets : Array (List Nat) :=
  (entries symbolSets).toArray

/-- The reductions that numbers describe; one that makes the first symbol accepts the script. -/
def reductionsOf : List Nat → List Action
  | rule :: count :: precedence :: rest =>
      (if rule = 0 then .accept else .reduce rule count ((precedence : Int) - 1)) ::
        reductionsOf rest
  | _ => []

def reductionLists : Array (List Action) :=
  ([] :: (entries reductions).map reductionsOf).toArray

/-- Set the entries of a row for the members of a set. -/
def setRow {α : Type} (row : Array α) (set : Nat) (value : α) : Array α :=
  (sets.getD set []).foldl (fun changed member => changed.setIfInBounds member value) row

/-- Change a row of reductions by groups of a list and a set. -/
def changeReductions (row : Array (List Action)) : List Nat → Array (List Action)
  | list :: set :: rest => changeReductions (setRow row set (reductionLists.getD list [])) rest
  | _ => row

/-- The actions of a group of a row of tokens. -/
def shiftActions (kind next : Nat) : List Action :=
  if next = 0 then []
  else
    reductionLists.getD (kind / 2) [] ++ [if kind % 2 = 1 then .repetition next else .shift next]

/-- Change a row of tokens by groups of actions, a state and a set. -/
def changeShifts (row : Array (List Action)) : List Nat → Array (List Action)
  | kind :: next :: set :: rest => changeShifts (setRow row set (shiftActions kind next)) rest
  | _ => row

/-- Change a row of rules by groups of a state and a set. -/
def changeGotos (row : Array Nat) : List Nat → Array Nat
  | next :: set :: rest => changeGotos (setRow row set next) rest
  | _ => row

/-- The rows of a table, each made from an earlier one, or from the blank one, by its changes. -/
def rowsOf {α : Type} (blank : Array α) (change : Array α → List Nat → Array α)
    (table : List String) : Array (Array α) :=
  (entries table).foldl
    (fun rows entry =>
      match entry with
      | origin :: changes => rows.push (change (rows.getD origin blank) changes)
      | [] => rows)
    #[blank]

/-- The rows of reductions, counted from one. -/
def allReductions : Array (Array (List Action)) :=
  rowsOf (Array.replicate tokenCount []) changeReductions reductionRows

/-- The rows of tokens, counted from one. -/
def allShifts : Array (Array (List Action)) :=
  rowsOf (Array.replicate tokenCount []) changeShifts shiftRows

/-- The rows of rules, counted from one. -/
def allGotos : Array (Array Nat) :=
  rowsOf (Array.replicate rules.length 0) changeGotos ruleRows

def stateOf : List Nat → AutomatonState
  | [mode, reductions, shifts, gotos] =>
      ⟨mode % 16, mode / 16 = 1, allReductions.getD (reductions + 1) #[],
        allShifts.getD (shifts + 1) #[], allGotos.getD (gotos + 1) #[]⟩
  | _ => default

/-- All states: the one in which a script went wrong, the one in which it begins, and the others. -/
def allStates : Array AutomatonState :=
  ((entries states).map stateOf).toArray

/-! ## The automaton -/

/-- The state in which a script went wrong. -/
def lost : Nat := 0

/-- The state in which a script begins. -/
def beginning : Nat := 1

def state (number : Nat) : AutomatonState :=
  allStates.getD number default

/-- The tokens that are not passed where a script went wrong, since others hide them there. -/
def hiddenTokens : List Symbol :=
  ["character-reference", "element-name", "/>", "double-attribute-text", "single-attribute-text",
    "double-text", "single-text", "regex-body", "regex-flags"].map symbolNamed

/-- What may be done in a state in front of a token. -/
def actions (number : Nat) (token : Symbol) : List Action :=
  if token = Symbol.comment || token = Symbol.pageComment then [.extra]
  else if tokenCount ≤ token then []
  else if number = lost then if hiddenTokens.contains token then [] else [.recover]
  else
    match (state number).shifts.getD token [] with
    | [] => (state number).reductions.getD token []
    | possible => possible

/-- The next state behind a symbol, zero if it cannot stand there. -/
def next (number : Nat) (symbol : Symbol) : Nat :=
  if symbol < tokenCount then
    match (actions number symbol).getLast? with
    | some (.shift next) => next
    | some (.repetition next) => next
    | some .extra => number
    | _ => 0
  else (state number).gotos.getD (symbol - tokenCount) 0

/-- Whether a state can do anything with a token. -/
def accepts (number : Nat) (token : Symbol) : Bool :=
  ! (actions number token).isEmpty

/-- Whether a word is no name in a state. -/
def isReserved (number : Nat) (word : Symbol) : Bool :=
  (state number).isReserving && reservedSymbols.contains word

/-- The mode in which the next token of a state is read. -/
def modeOf (number : Nat) : Mode :=
  Mode.all.getD (state number).mode default

end Automaton

end Script

end EmbedScaffold
