import EmbedScaffold.Proofs.Token.WellNested
import Mathlib.Data.List.Pairwise

/-!
# The pairs of brackets

Pairing accepts the tokens whose brackets are well nested.  The pairs that it finds match every
bracket with one of its own kind, and any two of them lie one inside the other or apart.  For other
tokens it names the first closing bracket that nothing behind it can mend, or else the innermost
bracket left open.
-/

namespace EmbedScaffold

open Lexeme

/-- The index that a bracket is paired with, from either side. -/
def partner? (pairs : List (Nat × Nat)) (index : Nat) : Option Nat :=
  pairs.findSome? fun pair =>
    if pair.1 = index then some pair.2 else if pair.2 = index then some pair.1 else none

/-! ## Where pairing goes wrong -/

/-- The offset of the first closing bracket behind which no continuation is well nested or, if there
is none, of the innermost bracket that is left open at the end. -/
def IsMisnestedAt (tokens : List Token) (offset : Nat) : Prop :=
  (∃ before closer after, tokens = before ++ closer :: after ∧ closer.isCloser = true ∧
      Completable (bracketsOf before) ∧ ¬ Completable (bracketsOf (before ++ [closer])) ∧
      offset = closer.start) ∨
    (Completable (bracketsOf tokens) ∧ ∃ before opener after, tokens = before ++ opener :: after ∧
      opener.isOpener = true ∧ WellNested (bracketsOf after) ∧ offset = opener.start)

section Opened

variable {front pending : List Token} {opener closer : Token}

/-- A closing bracket that does not close the innermost open one is the first fault. -/
theorem Opened.misnested_closer (opened : Opened front pending)
    (isCloser : closer.isCloser = true)
    (unexpected : ∀ opener ∈ pending.head?, ∀ mark, opener.closing? = some mark →
      closer.isPunct mark = false) (after : List Token) :
    ¬ WellNested (bracketsOf (front ++ closer :: after)) ∧
      IsMisnestedAt (front ++ closer :: after) closer.start := by
  have notCompletable : ¬ Completable (bracketsOf (front ++ [closer])) := by
    intro completable
    obtain ⟨closing, isClosing, isPunct, -⟩ := Token.bracket?_of_isCloser isCloser
    obtain ⟨opener, outer, rfl, opens⟩ :=
      opened.closing_of_completable isCloser isClosing completable
    rw [unexpected opener rfl closing opens] at isPunct
    cases isPunct
  refine ⟨fun nested => notCompletable ⟨bracketsOf after, ?_⟩,
    .inl ⟨front, closer, after, rfl, isCloser, opened.completable, notCompletable, rfl⟩⟩
  rwa [← bracketsOf_append, List.append_assoc]

/-- The innermost bracket that is left open at the end is the fault if there is no other one. -/
theorem Opened.misnested_end (opened : Opened front (opener :: pending)) :
    ¬ WellNested (bracketsOf front) ∧ IsMisnestedAt front opener.start := by
  refine ⟨fun nested => ?_, .inr ⟨opened.completable, ?_⟩⟩
  · cases opened.eq_nil_of_wellNested nested
  · cases opened with
    | @cons before inner _ _ _ isOpener innerNested =>
        exact ⟨before, opener, inner, rfl, isOpener, innerNested, rfl⟩

end Opened

/-- Pairing goes on as long as what was read can still become well nested. -/
theorem pairBracketsFrom_opened {index : Nat} {pending : List (Nat × Token)}
    {front tokens : List Token} (opened : Opened front (pending.map Prod.snd)) :
    match pairBracketsFrom index pending tokens with
    | .ok _ => WellNested (bracketsOf (front ++ tokens))
    | .error fault => ¬ WellNested (bracketsOf (front ++ tokens)) ∧
        IsMisnestedAt (front ++ tokens) fault.offset := by
  fun_induction pairBracketsFrom index pending tokens generalizing front with
  | case1 =>
      rw [List.append_nil]
      cases opened with
      | nil nested => exact nested
  | case2 index openedAt opener outer =>
      rw [List.append_nil]
      exact opened.misnested_end
  | case3 index pending token rest isOpener inductionHypothesis =>
      have behind := inductionHypothesis (opened.push isOpener)
      rwa [List.append_assoc] at behind
  | case4 index token rest _ isCloser =>
      exact opened.misnested_closer isCloser (by simp) rest
  | case5 index token rest _ _ openedAt opener outer noClosing =>
      cases opened with
      | cons _ isOpener _ =>
          rw [Token.isOpener, noClosing] at isOpener
          cases isOpener
  | case6 index token rest _ _ openedAt opener outer expected opens isPunct inductionHypothesis =>
      have behind := inductionHypothesis (opened.pop opens isPunct)
      rw [List.append_assoc] at behind
      cases paired : pairBracketsFrom (index + 1) outer rest with
      | ok pairs => rw [paired] at behind; exact behind
      | error fault => rw [paired] at behind; exact behind
  | case7 index token rest _ isCloser openedAt opener outer expected opens notPunct =>
      refine opened.misnested_closer isCloser ?_ rest
      rintro _ ⟨⟩ mark same
      rw [opens] at same
      cases same
      exact Bool.eq_false_iff.mpr notPunct
  | case8 index pending token rest notOpener notCloser inductionHypothesis =>
      have behind := inductionHypothesis
        (opened.plain (Bool.eq_false_iff.mpr notOpener) (Bool.eq_false_iff.mpr notCloser))
      rwa [List.append_assoc] at behind

/-! ## The pairs -/

/-- Of two pairs, the one closed later lies around the other or behind it. -/
def Follows (earlier later : Nat × Nat) : Prop :=
  earlier.2 < later.2 ∧ (later.1 < earlier.1 ∨ earlier.2 < later.1)

/-- The pairs that are closed from an index on, if the brackets at the places `pending` are open
there, innermost first. -/
structure PairsBehind (tokens : List Token) (index : Nat) (pending : List Nat)
    (pairs : List (Nat × Nat)) : Prop where
  nested : pairs.Pairwise Follows
  placed : ∀ pair ∈ pairs,
    pair.1 < pair.2 ∧ index ≤ pair.2 ∧ (pair.1 ∈ pending ∨ index ≤ pair.1)
  matching : ∀ pair ∈ pairs, ∃ opener closer mark, tokens[pair.1]? = some opener ∧
    opener.closing? = some mark ∧ tokens[pair.2]? = some closer ∧ closer.isPunct mark = true
  closesPending : ∀ place ∈ pending, ∃ stop, (place, stop) ∈ pairs
  complete : ∀ place token, index ≤ place → tokens[place]? = some token →
    token.bracket?.isSome = true → ∃ pair ∈ pairs, pair.1 = place ∨ pair.2 = place

namespace PairsBehind

variable {tokens : List Token} {index : Nat} {pending : List Nat} {pairs : List (Nat × Nat)}
  {token opener : Token}

theorem finish (ended : tokens.length ≤ index) : PairsBehind tokens index [] [] where
  nested := .nil
  placed := by simp
  matching := by simp
  closesPending := by simp
  complete place token behind there := by
    have within := (List.getElem?_eq_some_iff.mp there).1
    omega

theorem plain (behind : PairsBehind tokens (index + 1) pending pairs)
    (here : tokens[index]? = some token) (noBracket : token.bracket? = none) :
    PairsBehind tokens index pending pairs where
  nested := behind.nested
  placed pair member := by
    obtain ⟨order, later, place⟩ := behind.placed pair member
    exact ⟨order, by omega, place.imp_right (by omega)⟩
  matching := behind.matching
  closesPending := behind.closesPending
  complete place found onward there isBracket := by
    rcases Nat.lt_or_eq_of_le onward with later | rfl
    · exact behind.complete place found later there isBracket
    · rw [here] at there
      cases there
      rw [noBracket] at isBracket
      cases isBracket

theorem push (behind : PairsBehind tokens (index + 1) (index :: pending) pairs) :
    PairsBehind tokens index pending pairs where
  nested := behind.nested
  placed pair member := by
    obtain ⟨order, later, place⟩ := behind.placed pair member
    refine ⟨order, by omega, ?_⟩
    rcases place with inside | behind
    · rcases List.mem_cons.mp inside with here | outside
      · exact .inr (Nat.le_of_eq here.symm)
      · exact .inl outside
    · exact .inr (by omega)
  matching := behind.matching
  closesPending place member := behind.closesPending place (List.mem_cons_of_mem _ member)
  complete place found onward there isBracket := by
    rcases Nat.lt_or_eq_of_le onward with later | rfl
    · exact behind.complete place found later there isBracket
    · obtain ⟨stop, member⟩ := behind.closesPending index List.mem_cons_self
      exact ⟨_, member, .inl rfl⟩

theorem pop {place : Nat} {mark : Char} (behind : PairsBehind tokens (index + 1) pending pairs)
    (sorted : ∀ other ∈ pending, other < place) (before : place < index)
    (there : tokens[place]? = some opener) (opens : opener.closing? = some mark)
    (here : tokens[index]? = some token) (isPunct : token.isPunct mark = true) :
    PairsBehind tokens index (place :: pending) ((place, index) :: pairs) where
  nested := by
    refine .cons (fun pair member => ?_) behind.nested
    obtain ⟨_, later, outside⟩ := behind.placed pair member
    exact ⟨later, outside.imp (sorted _) id⟩
  placed := by
    rintro pair (_ | ⟨_, member⟩)
    · exact ⟨before, Nat.le_refl index, .inl List.mem_cons_self⟩
    · obtain ⟨order, later, outside⟩ := behind.placed pair member
      exact ⟨order, by omega, outside.imp (List.mem_cons_of_mem _) (by omega)⟩
  matching := by
    rintro pair (_ | ⟨_, member⟩)
    · exact ⟨opener, token, mark, there, opens, here, isPunct⟩
    · exact behind.matching pair member
  closesPending := by
    rintro other (_ | ⟨_, member⟩)
    · exact ⟨index, List.mem_cons_self⟩
    · obtain ⟨stop, paired⟩ := behind.closesPending other member
      exact ⟨stop, List.mem_cons_of_mem _ paired⟩
  complete other found onward therefound isBracket := by
    rcases Nat.lt_or_eq_of_le onward with later | rfl
    · obtain ⟨pair, member, same⟩ := behind.complete other found later therefound isBracket
      exact ⟨pair, List.mem_cons_of_mem _ member, same⟩
    · exact ⟨_, List.mem_cons_self, .inr rfl⟩

end PairsBehind

/-- The first of the items from an index on, and the items behind it. -/
theorem getElem?_of_drop_eq_cons {α : Type} {whole rest : List α} {item : α} {index : Nat}
    (behind : whole.drop index = item :: rest) :
    whole[index]? = some item ∧ whole.drop (index + 1) = rest := by
  constructor
  · rw [← Nat.add_zero index, ← List.getElem?_drop, behind, List.getElem?_cons_zero]
  · rw [← List.tail_drop, behind, List.tail_cons]

/-- Pairing finds the pairs behind every place of a token list. -/
theorem pairsBehind_of_ok {index : Nat} {pending : List (Nat × Token)} {tokens whole : List Token}
    {pairs : List (Nat × Nat)} (paired : pairBracketsFrom index pending tokens = .ok pairs)
    (behind : whole.drop index = tokens)
    (known : ∀ opened ∈ pending, opened.1 < index ∧ whole[opened.1]? = some opened.2)
    (sorted : (pending.map Prod.fst).Pairwise (· > ·)) :
    PairsBehind whole index (pending.map Prod.fst) pairs := by
  have later {index : Nat} {pending : List (Nat × Token)}
      (known : ∀ opened ∈ pending, opened.1 < index ∧ whole[opened.1]? = some opened.2) :
      ∀ opened ∈ pending, opened.1 < index + 1 ∧ whole[opened.1]? = some opened.2 :=
    fun opened member => ⟨Nat.lt_succ_of_lt (known opened member).1, (known opened member).2⟩
  fun_induction pairBracketsFrom index pending tokens generalizing pairs with
  | case1 index =>
      cases paired
      exact .finish (List.drop_eq_nil_iff.mp behind)
  | case2 => cases paired
  | case3 index pending token rest isOpener inductionHypothesis =>
      obtain ⟨here, behindHere⟩ := getElem?_of_drop_eq_cons behind
      refine .push (inductionHypothesis paired behindHere ?_ ?_)
      · rintro opened (_ | ⟨_, member⟩)
        · exact ⟨Nat.lt_succ_self index, here⟩
        · exact later known opened member
      · refine .cons (fun place member => ?_) sorted
        obtain ⟨opened, inside, rfl⟩ := List.mem_map.mp member
        exact (known opened inside).1
  | case4 => cases paired
  | case5 => cases paired
  | case6 index token rest _ _ openedAt opener outer expected opens isPunct inductionHypothesis =>
      obtain ⟨here, behindHere⟩ := getElem?_of_drop_eq_cons behind
      obtain ⟨others, goesOn, rfl⟩ := exists_of_map paired
      obtain ⟨⟨before, there⟩, knownOuter⟩ := List.forall_mem_cons.mp known
      rw [List.map_cons, List.pairwise_cons] at sorted
      exact .pop (inductionHypothesis goesOn behindHere (later knownOuter) sorted.2) sorted.1
        before there opens here isPunct
  | case7 => cases paired
  | case8 index pending token rest notOpener notCloser inductionHypothesis =>
      obtain ⟨here, behindHere⟩ := getElem?_of_drop_eq_cons behind
      exact .plain (inductionHypothesis paired behindHere (later known) sorted) here
        (Token.bracket?_eq_none (Bool.eq_false_iff.mpr notOpener)
          (Bool.eq_false_iff.mpr notCloser))

/-- The pairs of a token list that pairing accepts. -/
abbrev Paired (tokens : List Token) (pairs : List (Nat × Nat)) : Prop :=
  PairsBehind tokens 0 [] pairs

theorem paired_of_ok {tokens : List Token} {pairs : List (Nat × Nat)}
    (paired : pairBrackets tokens = .ok pairs) : Paired tokens pairs :=
  pairsBehind_of_ok paired rfl (by simp) .nil

namespace PairsBehind

variable {tokens : List Token} {pairs : List (Nat × Nat)} {start stop other : Nat}
  {first second : Nat × Nat}

theorem lt (paired : Paired tokens pairs) (member : (start, stop) ∈ pairs) : start < stop :=
  (paired.placed _ member).1

/-- Two pairs are the same, or one of them follows the other. -/
theorem trichotomy (paired : Paired tokens pairs) (firstMember : first ∈ pairs)
    (secondMember : second ∈ pairs) :
    first = second ∨ Follows first second ∨ Follows second first := by
  by_cases same : first = second
  · exact .inl same
  · refine .inr ?_
    let Linked (left right : Nat × Nat) : Prop := Follows left right ∨ Follows right left
    have symmetric : Std.Symm Linked := ⟨fun _ _ linked => linked.symm⟩
    have linked : pairs.Pairwise Linked := paired.nested.imp Or.inl
    exact linked.forall firstMember secondMember same

/-- No bracket belongs to two pairs. -/
theorem unique (paired : Paired tokens pairs) (firstMember : first ∈ pairs)
    (secondMember : second ∈ pairs)
    (shared : first.1 = second.1 ∨ first.1 = second.2 ∨ first.2 = second.1 ∨
      first.2 = second.2) : first = second := by
  have firstOrder := (paired.placed _ firstMember).1
  have secondOrder := (paired.placed _ secondMember).1
  rcases paired.trichotomy firstMember secondMember with same | follows | follows
  · exact same
  · obtain ⟨_, _⟩ := follows
    omega
  · obtain ⟨_, _⟩ := follows
    omega

/-- Two pairs lie one inside the other or apart. -/
theorem laminar (paired : Paired tokens pairs) (firstMember : first ∈ pairs)
    (secondMember : second ∈ pairs) (behind : first.1 < second.1) :
    first.2 < second.1 ∨ second.2 < first.2 := by
  have order := (paired.placed _ secondMember).1
  rcases paired.trichotomy firstMember secondMember with rfl | follows | follows
  · omega
  · obtain ⟨_, outside⟩ := follows
    omega
  · exact .inr follows.1

/-- The partner of a bracket is the other one of its pair. -/
theorem partner?_eq_some_iff (paired : Paired tokens pairs) :
    partner? pairs start = some stop ↔ (start, stop) ∈ pairs ∨ (stop, start) ∈ pairs := by
  have found {place partner : Nat} (shown : partner? pairs place = some partner) :
      (place, partner) ∈ pairs ∨ (partner, place) ∈ pairs := by
    obtain ⟨⟨opened, closed⟩, member, here⟩ := List.exists_of_findSome?_eq_some shown
    dsimp only at here
    split at here
    · next opens =>
        cases here
        exact .inl (opens ▸ member)
    · split at here
      · next closes =>
          cases here
          exact .inr (closes ▸ member)
      · cases here
  refine ⟨found, fun sides => ?_⟩
  cases shown : partner? pairs start with
  | none =>
      rw [partner?, List.findSome?_eq_none_iff] at shown
      rcases sides with opens | closes
      · simpa using shown _ opens
      · have absent := shown _ closes
        dsimp only at absent
        split at absent <;> simp at absent
  | some other =>
      -- a bracket has one pair only, so the pair that is found is the given one
      rcases sides with opens | closes <;> rcases found shown with here | here
      · rw [(Prod.mk.inj (paired.unique opens here (by simp))).2]
      · have order := paired.lt opens
        have same := Prod.mk.inj (paired.unique opens here (by simp))
        omega
      · have order := paired.lt closes
        have same := Prod.mk.inj (paired.unique closes here (by simp))
        omega
      · rw [(Prod.mk.inj (paired.unique closes here (by simp))).1]

theorem mem_of_partner? (paired : Paired tokens pairs) (shown : partner? pairs start = some stop)
    (order : start < stop) : (start, stop) ∈ pairs := by
  rcases paired.partner?_eq_some_iff.mp shown with opens | closes
  · exact opens
  · exact absurd (paired.lt closes) (Nat.lt_asymm order)

/-- An opening bracket is the first one of its pair. -/
theorem exists_closer (paired : Paired tokens pairs) {opener : Token}
    (there : tokens[start]? = some opener) (isOpener : opener.isOpener = true) :
    ∃ stop, (start, stop) ∈ pairs := by
  obtain ⟨⟨opened, closed⟩, member, rfl | rfl⟩ := paired.complete start opener (Nat.zero_le _)
    there ((Token.isSome_bracket? opener).mpr (.inl isOpener))
  · exact ⟨closed, member⟩
  · obtain ⟨_, closer, mark, _, opens, here, isPunct⟩ := paired.matching _ member
    rw [there] at here
    cases here
    rw [Token.isOpener, Token.closing?, mark?_of_isPunct isPunct, Option.bind_some,
      (isClosingMark_of_closing opens).2] at isOpener
    cases isOpener

end PairsBehind

/-! ## All token lists -/

/-- Every bracket has a partner, which has it for a partner.  An opening bracket is closed behind it
by one of its own kind, and any two pairs lie one inside the other or apart. -/
structure Pairing (tokens : List Token) (pairs : List (Nat × Nat)) : Prop where
  defined : ∀ place, (partner? pairs place).isSome = true ↔
    (tokens[place]?.bind Token.bracket?).isSome = true
  symmetric : ∀ place other, partner? pairs place = some other → partner? pairs other = some place
  different : ∀ place, partner? pairs place ≠ some place
  closed : ∀ place opening closing, tokens[place]?.bind Token.bracket? = some opening →
    (opening, closing) ∈ bracketKinds → ∃ stop, partner? pairs place = some stop ∧ place < stop ∧
      tokens[stop]?.bind Token.bracket? = some closing
  laminar : ∀ start stop inner outer, partner? pairs start = some stop →
    partner? pairs inner = some outer → start < stop → inner < outer → start < inner →
    stop < inner ∨ outer < stop

theorem pairing_of_paired {tokens : List Token} {pairs : List (Nat × Nat)}
    (paired : Paired tokens pairs) : Pairing tokens pairs where
  defined place := by
    constructor
    · intro shown
      obtain ⟨other, partner⟩ := Option.isSome_iff_exists.mp shown
      rcases paired.partner?_eq_some_iff.mp partner with opens | closes
      · obtain ⟨opener, _, mark, here, isOpener, _⟩ := paired.matching _ opens
        rw [here, Option.bind_some, Token.isSome_bracket?]
        exact .inl (isOpener_of_closing isOpener)
      · obtain ⟨_, closer, mark, _, isOpener, here, isPunct⟩ := paired.matching _ closes
        rw [here, Option.bind_some, Token.isSome_bracket?, Token.isCloser,
          mark?_of_isPunct isPunct]
        exact .inr (isClosingMark_of_closing isOpener).1
    · intro isBracket
      obtain ⟨token, here, bracket⟩ := Option.bind_eq_some_iff.mp
        (Option.isSome_iff_exists.mp isBracket).choose_spec
      obtain ⟨⟨opened, closed⟩, member, rfl | rfl⟩ := paired.complete place token (Nat.zero_le _)
        here (by rw [bracket]; rfl)
      · rw [paired.partner?_eq_some_iff.mpr (.inl member)]
        rfl
      · rw [paired.partner?_eq_some_iff.mpr (.inr member)]
        rfl
  symmetric place other partner := by
    rw [paired.partner?_eq_some_iff] at partner ⊢
    exact partner.symm
  different place partner := by
    rw [paired.partner?_eq_some_iff, or_self] at partner
    exact Nat.lt_irrefl place (paired.lt partner)
  closed place opening closing isOpening isKind := by
    obtain ⟨opener, there, bracket⟩ := Option.bind_eq_some_iff.mp isOpening
    have opens := Token.closing?_of_bracket? bracket isKind
    obtain ⟨stop, member⟩ := paired.exists_closer there (isOpener_of_closing opens)
    obtain ⟨_, closer, mark, here, closes, behind, isPunct⟩ := paired.matching _ member
    obtain rfl := Option.some.inj (there.symm.trans here)
    obtain rfl := Option.some.inj (opens.symm.trans closes)
    refine ⟨stop, paired.partner?_eq_some_iff.mpr (.inl member), paired.lt member, ?_⟩
    rw [behind, Option.bind_some, Token.bracket?_of_isPunct isKind (.inr rfl) isPunct]
  laminar start stop inner outer partner other order innerOrder behind :=
    paired.laminar (paired.mem_of_partner? partner order)
      (paired.mem_of_partner? other innerOrder) behind

/-- Pairing accepts exactly the tokens whose brackets are well nested, and then every bracket has
its partner.  For other tokens it names the first closing bracket that no continuation mends or, if
there is none, the innermost bracket left open. -/
theorem pairBrackets_wellNested (tokens : List Token) :
    match pairBrackets tokens with
    | .ok pairs => WellNested (bracketsOf tokens) ∧ Pairing tokens pairs
    | .error fault => ¬ WellNested (bracketsOf tokens) ∧ IsMisnestedAt tokens fault.offset := by
  have outcome := @pairBracketsFrom_opened 0 [] [] tokens (.nil .nil)
  rw [List.nil_append, ← pairBrackets] at outcome
  cases paired : pairBrackets tokens with
  | ok pairs =>
      rw [paired] at outcome
      exact ⟨outcome, pairing_of_paired (paired_of_ok paired)⟩
  | error fault =>
      rw [paired] at outcome
      exact outcome

end EmbedScaffold
