import EmbedScaffold.Proofs.Token.Insertion

/-!
# What the tokens cover

A scan either names a place of the document where it breaks off, or its tokens lie in the document
one behind the other, and only blanks and comments lie between them.  Templates that nest too
deeply are the one kind of document that a scan gives up although it may be well formed.
-/

namespace EmbedScaffold

open Text

namespace Scan

/-! ## Blanks and comments -/

/-- Blanks and comments, one behind the other, up to the text `after`.  A line comment reaches up to
a line feed or the end, and a block comment up to the first place that closes it. -/
inductive Skipped (after : Text) : Text → Prop
  | nil : Skipped after []
  | blank {first : Char} {gap : Text} :
      isBlank first = true → Skipped after gap → Skipped after (first :: gap)
  | lineComment {body gap : Text} :
      '\n' ∉ body → (∀ next ∈ (gap ++ after).head?, next = '\n') → Skipped after gap →
      Skipped after ('/' :: '/' :: (body ++ gap))
  | blockComment {body gap : Text} :
      ¬ ['*', '/'] <:+: body → Skipped after gap →
      Skipped after ('/' :: '*' :: (body ++ '*' :: '/' :: gap))

theorem lineCommentEnd_slice (offset : Nat) (content : Text) :
    ∃ body, content = body ++ (lineCommentEnd offset content).rest ∧
      (lineCommentEnd offset content).offset = offset + body.length ∧ '\n' ∉ body ∧
      ∀ next ∈ (lineCommentEnd offset content).rest.head?, next = '\n' := by
  rcases exists_first_feed content with absent | ⟨body, after, sameLine, rfl⟩
  · rw [lineCommentEnd_of_notMem offset absent]
    exact ⟨content, (List.append_nil content).symm, rfl, absent, by simp⟩
  · rw [lineCommentEnd_append offset after sameLine]
    exact ⟨body, rfl, rfl, sameLine, by simp⟩

/-- A block comment ends at the first place that closes it. -/
theorem commentEnd_slice {offset : Nat} {content : Text} {found : Cursor}
    (closed : commentEnd offset content = some found) :
    ∃ body, content = body ++ '*' :: '/' :: found.rest ∧
      found.offset = offset + body.length + 2 ∧ ¬ ['*', '/'] <:+: body := by
  fun_induction commentEnd offset content with
  | case1 => cases closed
  | case2 offset rest =>
      cases closed
      exact ⟨[], rfl, rfl, by simp⟩
  | case3 offset first rest notClosing inductionHypothesis =>
      obtain ⟨body, shape, place, absent⟩ := inductionHypothesis closed
      refine ⟨first :: body, by rw [shape]; rfl, by rw [place, List.length_cons]; omega, ?_⟩
      rw [List.infix_cons_iff]
      rintro (⟨more, here⟩ | inside)
      · cases here
        exact notClosing _ rfl shape
      · exact absent inside

/-- What is skipped before a place is blanks and comments. -/
theorem skipTrivia_slice {offset : Nat} {content : Text} {found : Cursor}
    (skipped : skipTrivia offset content = .ok found) :
    ∃ gap, content = gap ++ found.rest ∧ found.offset = offset + gap.length ∧
      Skipped found.rest gap := by
  fun_induction skipTrivia offset content with
  | case1 =>
      cases skipped
      exact ⟨[], rfl, rfl, .nil⟩
  | case2 offset content ended inductionHypothesis =>
      obtain ⟨gap, shape, place, before⟩ := inductionHypothesis skipped
      obtain ⟨body, parts, behind, sameLine, feed⟩ := lineCommentEnd_slice (offset + 2) content
      have gapped : lineCommentEnd (offset + 2) content = ended := rfl
      rw [gapped, shape] at parts feed
      rw [gapped] at behind
      refine ⟨'/' :: '/' :: (body ++ gap), by rw [parts]; simp, ?_,
        .lineComment sameLine feed before⟩
      rw [place, behind]
      simp only [List.length_cons, List.length_append]
      omega
  | case3 => cases skipped
  | case4 offset content ended closed inductionHypothesis =>
      obtain ⟨gap, shape, place, before⟩ := inductionHypothesis skipped
      obtain ⟨body, parts, behind, absent⟩ := commentEnd_slice closed
      refine ⟨'/' :: '*' :: (body ++ '*' :: '/' :: gap), by rw [parts, shape]; simp, ?_,
        .blockComment absent before⟩
      rw [place, behind]
      simp only [List.length_cons, List.length_append]
      omega
  | case5 offset first rest _ _ blank inductionHypothesis =>
      obtain ⟨gap, shape, place, before⟩ := inductionHypothesis skipped
      exact ⟨first :: gap, by rw [shape]; rfl, by rw [place, List.length_cons]; omega,
        .blank blank before⟩
  | case6 =>
      cases skipped
      exact ⟨[], rfl, rfl, .nil⟩

/-! ## The tokens of a document -/

/-- From an offset on, the tokens lie in the text one behind the other, none of them empty, each
with its part of the text for a value, and blanks and comments lie before, between and behind
them. -/
def Covers (content : Text) (offset : Nat) : List Token → Prop
  | [] => offset ≤ content.length ∧ Skipped [] (content.drop offset)
  | token :: rest =>
      offset ≤ token.start ∧ token.start < token.stop ∧ token.stop ≤ content.length ∧
        token.value = (content.take token.stop).drop token.start ∧
        Skipped (content.drop token.start) ((content.take token.start).drop offset) ∧
        Covers content token.stop rest

/-- The first token behind a gap, in terms of the text in front of the gap. -/
theorem Covers.token {front gap rest after : Text} {first : Char} {kind : TokenKind} {stop : Nat}
    {tokens : List Token} (skipped : Skipped (first :: rest) gap)
    (reached : ReadTo Solid (front.length + gap.length) (first :: rest) ⟨stop, after⟩)
    (covers : Covers (front ++ gap ++ first :: rest) stop tokens) :
    Covers (front ++ gap ++ first :: rest) front.length
      (.cut kind (first :: rest) (front.length + gap.length) stop :: tokens) := by
  obtain ⟨body, last, _, shape, place⟩ := reached
  have start : front.length + gap.length = (front ++ gap).length := by rw [List.length_append]
  dsimp only at shape place
  have length := congrArg List.length shape
  rw [List.length_append, List.length_cons, List.length_cons] at length
  refine ⟨Nat.le_add_right _ _, ?_, ?_, ?_, ?_, covers⟩
  · dsimp only [Token.cut]
    omega
  · dsimp only [Token.cut]
    rw [List.length_append, List.length_append, List.length_cons]
    omega
  · dsimp only [Token.cut]
    rw [start, List.drop_take, List.drop_left]
  · dsimp only [Token.cut]
    rw [start, List.drop_left, List.take_left, List.drop_left]
    exact skipped

/-- Each token lies between the offset and the end of the text. -/
theorem Covers.bounds {content : Text} {offset : Nat} {tokens : List Token}
    (covers : Covers content offset tokens) : ∀ token ∈ tokens,
      offset ≤ token.start ∧ token.start < token.stop ∧ token.stop ≤ content.length := by
  induction tokens generalizing offset with
  | nil => simp
  | cons first rest inductionHypothesis =>
      obtain ⟨begins, proper, ends, _, _, behind⟩ := covers
      rintro token (_ | ⟨_, member⟩)
      · exact ⟨begins, proper, ends⟩
      · obtain ⟨later, facts⟩ := inductionHypothesis behind token member
        exact ⟨by omega, facts⟩

/-- The tokens lie one behind the other. -/
theorem Covers.pairwise {content : Text} {offset : Nat} {tokens : List Token}
    (covers : Covers content offset tokens) :
    tokens.Pairwise fun earlier later => earlier.stop ≤ later.start := by
  induction tokens generalizing offset with
  | nil => exact .nil
  | cons first rest inductionHypothesis =>
      obtain ⟨_, _, _, _, _, behind⟩ := covers
      exact .cons (fun token member => (behind.bounds token member).1) (inductionHypothesis behind)

theorem tokensFrom_covers {regexAllowed : Bool} {front content : Text} {tokens : List Token}
    (scanned : tokensFrom regexAllowed front.length content = .ok tokens) :
    Covers (front ++ content) front.length tokens := by
  generalize place : front.length = offset at scanned
  fun_induction tokensFrom regexAllowed offset content generalizing front tokens with
  | case1 => cases scanned
  | case2 _ offset content stop skipped =>
      cases scanned
      obtain ⟨gap, rfl, _, before⟩ := skipTrivia_slice skipped
      rw [List.append_nil, ← place]
      exact ⟨by rw [List.length_append]; omega, by rwa [List.drop_left]⟩
  | case3 => cases scanned
  | case4 _ offset content start first rest skipped kind ended read token =>
      rename_i inductionHypothesis
      obtain ⟨gap, rfl, behind, before⟩ := skipTrivia_slice skipped
      obtain ⟨_, _, _, _, solid, _⟩ := skipTrivia_shape skipped
      have reached := nextToken_readTo solid read
      obtain ⟨others, continued, rfl⟩ := exists_of_map scanned
      dsimp only at behind before reached
      subst place behind
      obtain ⟨body, last, _, shape, stop⟩ := id reached
      rw [← List.append_assoc]
      refine Covers.token before reached ?_
      have whole : front ++ gap ++ first :: rest =
          (front ++ gap ++ (body ++ [last])) ++ ended.rest := by rw [shape]; simp
      have length : (front ++ gap ++ (body ++ [last])).length = ended.offset := by
        rw [stop]
        simp only [List.length_append, List.length_singleton]
        omega
      rw [whole]
      exact inductionHypothesis length continued

/-! ## Where a scan breaks off -/

/-- How often a text opens a substitution. -/
def substitutions : Text → Nat
  | '$' :: '\x7b' :: rest => substitutions rest + 1
  | _ :: rest => substitutions rest
  | [] => 0

theorem substitutions_cons (first : Char) (content : Text) :
    substitutions content ≤ substitutions (first :: content) := by
  rw [substitutions.eq_def (first :: content)]
  split
  · next rest opening =>
      cases opening
      exact Nat.le_succ_of_le (Nat.le_of_eq rfl)
  · next same =>
      cases same
      exact Nat.le_refl _
  · next empty => cases empty

theorem substitutions_append (front content : Text) :
    substitutions front + substitutions content ≤ substitutions (front ++ content) := by
  fun_induction substitutions front with
  | case1 rest inductionHypothesis =>
      simp only [List.cons_append, substitutions]
      omega
  | case2 first rest notOpening inductionHypothesis =>
      exact Nat.le_trans inductionHypothesis (substitutions_cons first (rest ++ content))
  | case3 => simp

/-- The place of a fault in a text that begins at an offset, inside a number of open substitutions.
A scan gives up only at a template behind more substitutions than it follows. -/
structure FaultFrom (offset enclosing : Nat) (content : Text) (fault : Malformed) : Prop where
  inside : fault.offset ≤ offset + content.length
  limit : fault.isLimit = true → ∃ front rest, content = front ++ '`' :: rest ∧
    fault.offset = offset + front.length ∧ deepestNesting < enclosing + substitutions front

namespace FaultFrom

/-- A fault that is not the limit has to lie in the text only. -/
theorem ofInside {offset enclosing : Nat} {content : Text} {fault : Malformed}
    (inside : fault.offset ≤ offset + content.length) (noLimit : fault.isLimit = false) :
    FaultFrom offset enclosing content fault :=
  ⟨inside, fun limit => absurd (noLimit.symm.trans limit) Bool.false_ne_true⟩

theorem append (front : Text) {offset place enclosing inner : Nat} {content : Text}
    {fault : Malformed} (behind : place = offset + front.length)
    (deeper : inner ≤ enclosing + substitutions front)
    (found : FaultFrom place inner content fault) :
    FaultFrom offset enclosing (front ++ content) fault := by
  subst behind
  refine ⟨?_, fun limit => ?_⟩
  · have inside := found.inside
    rw [List.length_append]
    omega
  · obtain ⟨before, rest, rfl, place, many⟩ := found.limit limit
    have together := substitutions_append front before
    refine ⟨front ++ before, rest, (List.append_assoc ..).symm, ?_, ?_⟩
    · rw [place, List.length_append]
      omega
    · omega

end FaultFrom

theorem skipTrivia_fault {offset : Nat} {content : Text} {fault : Malformed}
    (failed : skipTrivia offset content = .error fault) (enclosing : Nat) :
    FaultFrom offset enclosing content fault := by
  fun_induction skipTrivia offset content with
  | case1 => cases failed
  | case2 offset content ended inductionHypothesis =>
      obtain ⟨body, parts, behind, _⟩ := lineCommentEnd_slice (offset + 2) content
      have found := inductionHypothesis failed
      rw [parts]
      refine FaultFrom.append ('/' :: '/' :: body) ?_ (Nat.le_add_right _ _) found
      rw [behind, List.length_cons, List.length_cons]
      omega
  | case3 offset content =>
      cases failed
      exact .ofInside (Nat.le_add_right _ _) rfl
  | case4 offset content ended closed inductionHypothesis =>
      obtain ⟨body, parts, behind, _⟩ := commentEnd_slice closed
      have found := inductionHypothesis failed
      have shape : '/' :: '*' :: content = ('/' :: '*' :: (body ++ ['*', '/'])) ++ ended.rest := by
        rw [parts]
        simp
      rw [shape]
      refine FaultFrom.append _ ?_ (Nat.le_add_right _ _) found
      rw [behind]
      simp only [List.length_cons, List.length_append, List.length_nil]
      omega
  | case5 offset first rest _ _ _ inductionHypothesis =>
      exact FaultFrom.append [first] rfl (Nat.le_add_right _ _) (inductionHypothesis failed)
  | case6 => cases failed

theorem plainToken_fault {regexAllowed : Bool} {offset : Nat} {first : Char} {rest : Text}
    {fault : Malformed} (failed : plainToken regexAllowed offset first rest = .error fault)
    (enclosing : Nat) : FaultFrom offset enclosing (first :: rest) fault := by
  have here : fault = .unterminatedString offset ∨ fault = .unterminatedRegex offset := by
    unfold plainToken at failed
    grind
  rcases here with rfl | rfl <;> exact .ofInside (Nat.le_add_right _ _) rfl

/-- How many substitutions hold the place where a template is being read. -/
def TemplateMode.enclosing : TemplateMode → Nat
  | .quoted => 0
  | .code _ _ _ => 1

/-- The innermost template, the templates around it and all their substitutions were opened before
an offset. -/
structure Begun (opened : Nat) (outer : List EnclosingTemplate) (mode : TemplateMode)
    (offset : Nat) : Prop where
  template : opened ≤ offset
  outer : ∀ enclosing ∈ outer, enclosing.opened ≤ offset ∧ enclosing.substitution ≤ offset
  substitution : ∀ place depth regexAllowed,
    mode = .code place depth regexAllowed → place ≤ offset

namespace Begun

variable {opened offset later : Nat} {outer : List EnclosingTemplate} {mode : TemplateMode}

theorem mono (begun : Begun opened outer mode offset) (further : offset ≤ later) :
    Begun opened outer mode later where
  template := Nat.le_trans begun.template further
  outer enclosing among :=
    ⟨Nat.le_trans (begun.outer enclosing among).1 further,
      Nat.le_trans (begun.outer enclosing among).2 further⟩
  substitution place depth regexAllowed same :=
    Nat.le_trans (begun.substitution place depth regexAllowed same) further

/-- The quoted text of a template goes on where its substitution ends. -/
theorem quoted (begun : Begun opened outer mode offset) : Begun opened outer .quoted offset :=
  { begun with substitution := by rintro _ _ _ ⟨⟩ }

/-- The code of a substitution that was opened before the offset. -/
theorem code (begun : Begun opened outer mode offset) {place : Nat} (before : place ≤ offset)
    (depth : Nat) (regexAllowed : Bool) :
    Begun opened outer (.code place depth regexAllowed) offset :=
  { begun with substitution := by rintro _ _ _ ⟨⟩; exact before }

/-- A template inside a substitution. -/
theorem push {place depth : Nat} {regexAllowed : Bool}
    (begun : Begun opened outer (.code place depth regexAllowed) offset) :
    Begun offset (⟨opened, place, depth⟩ :: outer) .quoted offset where
  template := Nat.le_refl offset
  outer := by
    rintro enclosing (_ | ⟨_, among⟩)
    · exact ⟨begun.template, begun.substitution _ _ _ rfl⟩
    · exact begun.outer enclosing among
  substitution := by rintro _ _ _ ⟨⟩

/-- The code around a template goes on behind it. -/
theorem pop {enclosing : EnclosingTemplate} {others : List EnclosingTemplate}
    (begun : Begun opened (enclosing :: others) mode offset) :
    Begun enclosing.opened others (.code enclosing.substitution enclosing.depth false) offset where
  template := (begun.outer enclosing List.mem_cons_self).1
  outer other among := begun.outer other (List.mem_cons_of_mem _ among)
  substitution := by
    rintro _ _ _ ⟨⟩
    exact (begun.outer enclosing List.mem_cons_self).2

end Begun

/-- The text from a place up to the end of the next token. -/
theorem ReadTo.slice {ends : Char → Prop} {offset start : Nat} {content rest : Text}
    {ended : Cursor} (skipped : skipTrivia offset content = .ok ⟨start, rest⟩)
    (reached : ReadTo ends start rest ended) :
    ∃ front, content = front ++ ended.rest ∧ ended.offset = offset + front.length := by
  obtain ⟨gap, rfl, behind, _⟩ := skipTrivia_slice skipped
  obtain ⟨body, last, _, rfl, place⟩ := reached
  refine ⟨gap ++ (body ++ [last]), by simp, ?_⟩
  dsimp only at behind
  rw [place, behind]
  simp only [List.length_append, List.length_singleton]
  omega

/-- Every substitution that is open was opened in the text, so that a template nested too deeply
stands behind as many of them. -/
theorem templateEnd_fault {opened : Nat} {outer : List EnclosingTemplate} {mode : TemplateMode}
    {offset : Nat} {content : Text} {fault : Malformed}
    (failed : templateEnd opened outer mode offset content = .error fault)
    (begun : Begun opened outer mode offset) :
    FaultFrom offset (outer.length + mode.enclosing) content fault := by
  fun_induction templateEnd opened outer mode offset content with
  | case1 =>
      cases failed
      exact .ofInside (Nat.le_add_right_of_le begun.template) rfl
  | case2 =>
      cases failed
      exact .ofInside (Nat.le_add_right_of_le begun.template) rfl
  | case3 _ _ offset escaped rest inductionHypothesis =>
      exact FaultFrom.append ['\\', escaped] rfl (Nat.le_add_right _ _) <|
        inductionHypothesis failed (begun.mono (Nat.le_add_right _ _))
  | case4 _ _ offset rest inductionHypothesis =>
      have further := begun.mono (Nat.le_add_right offset 2)
      exact FaultFrom.append ['$', '\x7b'] rfl (Nat.le_refl _) <|
        inductionHypothesis failed (further.code (Nat.le_refl _) 0 true)
  | case5 => cases failed
  | case6 _ _ _ _ _ _ _ _ inductionHypothesis =>
      exact FaultFrom.append ['`'] rfl (Nat.le_refl _) <|
        inductionHypothesis failed (begun.pop.mono (Nat.le_add_right _ _))
  | case7 _ _ _ first _ _ _ _ _ inductionHypothesis =>
      exact FaultFrom.append [first] rfl (Nat.le_add_right _ _) <|
        inductionHypothesis failed (begun.mono (Nat.le_add_right _ _))
  | case8 _ _ _ _ _ _ _ _ skipped =>
      cases failed
      exact skipTrivia_fault skipped _
  | case9 =>
      cases failed
      exact .ofInside (Nat.le_add_right_of_le (begun.substitution _ _ _ rfl)) rfl
  | case10 _ _ offset _ _ _ _ start _ _ skipped inductionHypothesis =>
      obtain ⟨gap, rfl, place, _⟩ := skipTrivia_slice skipped
      dsimp only at place
      have reached : Begun _ _ (.code _ _ _) start :=
        begun.mono (place ▸ Nat.le_add_right offset gap.length)
      have inner := inductionHypothesis failed (reached.push.mono (Nat.le_add_right _ _))
      exact (FaultFrom.append ['`'] rfl (Nat.le_refl _) inner).append gap place
        (Nat.le_add_right _ _)
  | case11 _ outer offset content _ _ _ start rest deep skipped =>
      cases failed
      obtain ⟨gap, shape, place, _⟩ := skipTrivia_slice skipped
      dsimp only at shape place
      refine ⟨?_, fun _ => ⟨gap, rest, shape, place, ?_⟩⟩
      · rw [Malformed.offset, place, shape, List.length_append]
        omega
      · rw [TemplateMode.enclosing]
        omega
  | case12 _ _ _ _ _ _ _ _ _ _ skipped _ _ read =>
      cases failed
      obtain ⟨gap, rfl, place, _⟩ := skipTrivia_slice skipped
      exact (plainToken_fault read _).append gap place (Nat.le_add_right _ _)
  | case13 _ _ offset _ _ _ _ _ _ _ skipped _ _ _ read _ _ inductionHypothesis =>
      obtain ⟨_, _, _, _, solid, _⟩ := skipTrivia_shape skipped
      obtain ⟨front, rfl, place⟩ := (plainToken_readTo solid read).slice skipped
      have further := begun.quoted.mono (place ▸ Nat.le_add_right offset front.length)
      exact (inductionHypothesis failed further).append front place
        (Nat.le_add_right_of_le (Nat.le_add_right _ _))
  | case14 _ _ offset _ _ _ _ _ _ _ skipped _ _ _ read _ _ _ inductionHypothesis =>
      obtain ⟨_, _, _, _, solid, _⟩ := skipTrivia_shape skipped
      obtain ⟨front, rfl, place⟩ := (plainToken_readTo solid read).slice skipped
      have further := begun.mono (place ▸ Nat.le_add_right offset front.length)
      have inner := inductionHypothesis failed (further.code (further.substitution _ _ _ rfl) _ _)
      exact inner.append front place (Nat.le_add_right _ _)

theorem nextToken_fault {regexAllowed : Bool} {offset : Nat} {first : Char} {rest : Text}
    {fault : Malformed} (failed : nextToken regexAllowed offset first rest = .error fault) :
    FaultFrom offset 0 (first :: rest) fault := by
  unfold nextToken at failed
  split at failed
  · cases unclosed : templateEnd offset [] .quoted (offset + 1) rest with
    | ok ended => rw [unclosed] at failed; cases failed
    | error other =>
        rw [unclosed] at failed
        cases failed
        have begun : Begun offset [] .quoted offset :=
          ⟨Nat.le_refl offset, by simp, by rintro _ _ _ ⟨⟩⟩
        exact FaultFrom.append [first] rfl (Nat.zero_le _) <|
          templateEnd_fault unclosed (begun.mono (Nat.le_add_right _ _))
  · exact plainToken_fault failed 0

theorem tokensFrom_fault {regexAllowed : Bool} {offset : Nat} {content : Text} {fault : Malformed}
    (failed : tokensFrom regexAllowed offset content = .error fault) :
    FaultFrom offset 0 content fault := by
  fun_induction tokensFrom regexAllowed offset content with
  | case1 _ _ _ _ skipped =>
      cases failed
      exact skipTrivia_fault skipped 0
  | case2 => cases failed
  | case3 _ _ _ _ _ _ skipped _ read =>
      cases failed
      obtain ⟨gap, rfl, place, _⟩ := skipTrivia_slice skipped
      exact (nextToken_fault read).append gap place (Nat.zero_le _)
  | case4 _ offset _ _ _ _ skipped _ ended read token inductionHypothesis =>
      obtain ⟨_, _, _, _, solid, _⟩ := skipTrivia_shape skipped
      obtain ⟨front, rfl, place⟩ := (nextToken_readTo solid read).slice skipped
      cases continued : tokensFrom token.allowsRegex ended.offset ended.rest with
      | ok others => rw [continued] at failed; cases failed
      | error other =>
          rw [continued] at failed
          cases failed
          exact (inductionHypothesis continued).append front place (Nat.zero_le _)

/-! ## Nested templates -/

section Nested

variable (opened : Nat) (outer : List EnclosingTemplate) (offset : Nat) (rest : Text)

theorem templateEnd_substitution :
    templateEnd opened outer .quoted offset ('$' :: '\x7b' :: rest) =
      templateEnd opened outer (.code (offset + 2) 0 true) (offset + 2) rest := by
  rw [templateEnd]

theorem templateEnd_backtick (enclosing : EnclosingTemplate) :
    templateEnd opened (enclosing :: outer) .quoted offset ('`' :: rest) =
      templateEnd enclosing.opened outer (.code enclosing.substitution enclosing.depth false)
        (offset + 1) rest := by
  rw [templateEnd] <;> simp

theorem templateEnd_template (substitution depth : Nat) (regexAllowed : Bool) :
    templateEnd opened outer (.code substitution depth regexAllowed) offset ('`' :: rest) =
      if outer.length < deepestNesting then
        templateEnd offset (⟨opened, substitution, depth⟩ :: outer) .quoted (offset + 1) rest
      else .error (.nestedTooDeeply offset) := by
  have begins : Begins ('`' :: rest) := begins_cons rfl (by simp)
  have here := begins offset
  rw [templateEnd]
  split <;> simp_all

theorem templateEnd_closing (substitution : Nat) (regexAllowed : Bool) :
    templateEnd opened outer (.code substitution 0 regexAllowed) offset ('\x7d' :: rest) =
      templateEnd opened outer .quoted (offset + 1) rest := by
  have begins : Begins ('\x7d' :: rest) := begins_cons rfl (by simp)
  have read : plainToken regexAllowed offset '\x7d' rest = .ok (.punct, ⟨offset + 1, rest⟩) :=
    rfl
  rw [templateEnd]
  split
  · next failed => rw [begins] at failed; cases failed
  · next ended => rw [begins] at ended; cases ended
  · next start first others skipped =>
      rw [begins] at skipped
      cases skipped
      rw [if_neg (by decide)]
      split
      · next failed => rw [read] at failed; cases failed
      · next kind ended same =>
          rw [read] at same
          cases same
          simp [Token.cut, Token.isPunct]

end Nested

/-- Templates one inside the other, each in a substitution of the one around it. -/
def nestedTemplate : Nat → Text
  | 0 => ['`', '`']
  | depth + 1 => '`' :: '$' :: '\x7b' :: (nestedTemplate depth ++ ['\x7d', '`'])

/-- What the outermost of nested templates holds. -/
def nestedBody : Nat → Text
  | 0 => []
  | depth + 1 => '$' :: '\x7b' :: '`' :: (nestedBody depth ++ ['`', '\x7d'])

theorem nestedTemplate_eq (depth : Nat) :
    nestedTemplate depth = '`' :: (nestedBody depth ++ ['`']) := by
  induction depth with
  | zero => rfl
  | succ depth inductionHypothesis => rw [nestedTemplate, inductionHypothesis, nestedBody]; simp

/-- Templates that nest up to the limit are read as a part of the template around them. -/
theorem templateEnd_nestedBody (depth opened offset : Nat) (outer : List EnclosingTemplate)
    (rest : Text) (shallow : outer.length + depth ≤ deepestNesting) :
    templateEnd opened outer .quoted offset (nestedBody depth ++ rest) =
      templateEnd opened outer .quoted (offset + (nestedBody depth).length) rest := by
  induction depth generalizing opened offset outer rest with
  | zero => rfl
  | succ depth inductionHypothesis =>
      have room : outer.length < deepestNesting := by omega
      simp only [nestedBody, List.cons_append, List.append_assoc, List.nil_append]
      rw [templateEnd_substitution, templateEnd_template, if_pos room,
        inductionHypothesis _ _ _ _ (by rw [List.length_cons]; omega), templateEnd_backtick,
        templateEnd_closing]
      congr 1
      simp only [List.length_cons, List.length_append, List.length_nil]
      omega

/-- A template nested beyond the limit is given up. -/
theorem templateEnd_nestedTooDeeply (depth opened offset : Nat) (outer : List EnclosingTemplate)
    (rest : Text) (within : outer.length ≤ deepestNesting)
    (deep : deepestNesting < outer.length + depth) :
    templateEnd opened outer .quoted offset (nestedBody depth ++ rest) =
      .error (.nestedTooDeeply (offset + 3 * (deepestNesting - outer.length) + 2)) := by
  induction depth generalizing opened offset outer rest with
  | zero => omega
  | succ depth inductionHypothesis =>
      simp only [nestedBody, List.cons_append, List.append_assoc, List.nil_append]
      rw [templateEnd_substitution, templateEnd_template]
      split
      · next room =>
          rw [inductionHypothesis _ _ _ _ (by rw [List.length_cons]; omega)
            (by rw [List.length_cons]; omega), List.length_cons]
          congr 2
          omega
      · next full =>
          congr 2
          omega

end Scan

/-! ## All documents -/

open Scan

/-- A document that is one template. -/
theorem scan_template (body : Text) :
    scan ('`' :: body) = match templateEnd 0 [] .quoted 1 body with
      | .error fault => .error fault
      | .ok ended =>
          let token := Token.cut .template ('`' :: body) 0 ended.offset
          (tokensFrom token.allowsRegex ended.offset ended.rest).map (token :: ·) := by
  have begins : Begins ('`' :: body) := begins_cons rfl (by simp)
  rw [scan, tokensFrom_eq, begins]
  simp only [Except.bind, tokensAfter, nextToken, if_true]
  cases templateEnd 0 [] .quoted 1 body with
  | error fault => rfl
  | ok ended => rfl

/-- Nested templates are a single token, unless they nest too deeply. -/
theorem scan_nestedTemplate (depth : Nat) :
    scan (nestedTemplate depth) =
      if depth ≤ deepestNesting then
        .ok [⟨.template, nestedTemplate depth, 0, (nestedTemplate depth).length⟩]
      else .error (.nestedTooDeeply (3 * deepestNesting + 3)) := by
  by_cases shallow : depth ≤ deepestNesting
  · have closed : templateEnd 0 [] .quoted 1 (nestedBody depth ++ ['`']) =
        .ok ⟨1 + (nestedBody depth).length + 1, []⟩ := by
      rw [templateEnd_nestedBody depth 0 1 [] ['`'] (by simpa using shallow), templateEnd] <;> simp
    have length : 1 + (nestedBody depth).length + 1 =
        ('`' :: (nestedBody depth ++ ['`'])).length := by
      rw [List.length_cons, List.length_append, List.length_singleton]
      omega
    rw [if_pos shallow, nestedTemplate_eq, scan_template, closed]
    dsimp only
    rw [tokensFrom_trailing (Trailing.ofTrivia .nil), Token.cut, length, Nat.sub_zero,
      List.take_length]
    rfl
  · rw [if_neg shallow, nestedTemplate_eq, scan_template,
      templateEnd_nestedTooDeeply depth 0 1 [] ['`'] (Nat.zero_le _) (by simp; omega)]
    rfl

/-- Every document is cut into tokens that lie in it one behind the other with nothing but blanks
and comments around them, or the scan names a place of the document where it breaks off.  It gives
up a well-formed document only at a template behind more substitutions than it follows. -/
theorem scan_covers (content : Text) :
    match scan content with
    | .ok tokens => Covers content 0 tokens
    | .error fault => fault.offset ≤ content.length ∧
        (fault.isLimit = true → ∃ front rest, content = front ++ '`' :: rest ∧
          fault.offset = front.length ∧ deepestNesting < substitutions front) := by
  cases scanned : scan content with
  | ok tokens =>
      have covers : Covers ([] ++ content) 0 tokens := tokensFrom_covers scanned
      exact covers
  | error fault =>
      obtain ⟨inside, limit⟩ := tokensFrom_fault scanned
      simpa using And.intro inside limit

/-- Templates that nest one deeper than the limit have no tokens. -/
theorem scan_nestedTemplate_tooDeep :
    scan (nestedTemplate 331) = .error (.nestedTooDeeply 993) :=
  scan_nestedTemplate 331

end EmbedScaffold
