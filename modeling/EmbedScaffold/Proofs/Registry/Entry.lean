import EmbedScaffold.Proofs.Text.Line
import EmbedScaffold.Proofs.Token.Document
import EmbedScaffold.Registry.Mapping

/-!
# Entries and their lexemes

An entry of a mapping is a stretch of lexemes without a comma outside brackets.  Its key and its
value are read from these lexemes alone; only its offsets depend on where they stand.
-/

namespace EmbedScaffold

open Scan Lexeme

namespace Lexeme

/-- Lexemes without the gap before the first of them. -/
def written : List Lexeme → Text
  | [] => []
  | lexeme :: rest => lexeme.value ++ textOf rest

/-- The gap before the first of the lexemes. -/
def firstGap (lexemes : List Lexeme) : Text :=
  (lexemes.head?.map gap).getD []

/-- The lexemes behind the first `mark` that stands outside the brackets opened here. -/
def behindMark (mark : Char) : Nat → List Lexeme → Option (List Lexeme)
  | _, [] => none
  | depth, lexeme :: rest =>
      if lexeme.token.isOpener then behindMark mark (depth + 1) rest
      else if lexeme.token.isCloser then behindMark mark (depth - 1) rest
      else if depth = 0 ∧ lexeme.isPunct mark then some rest
      else behindMark mark depth rest

def keyOf : List Lexeme → Option Text
  | [] => none
  | head :: rest =>
      match head.kind with
      | .string => some (Token.quotedValue head.value)
      | .word =>
          match rest.head? with
          | some following =>
              if following.kind = .word then some following.value else some head.value
          | none => some head.value
      | _ => none

/-- The lexemes of an entry's value: what stands behind its colon, if it has a key and a value
there, and else the whole entry. -/
def valueOf (body : List Lexeme) : List Lexeme :=
  match keyOf body, behindMark ':' 0 body with
  | some _, some (first :: rest) => first :: rest
  | _, _ => body

/-- The entry whose lexemes end at an offset. -/
def entryTo (stop : Nat) (body : List Lexeme) : Entry :=
  ⟨keyOf body, stop - (written body).length, stop, stop - (written (valueOf body)).length⟩

/-! ## Texts of lexemes -/

theorem textOf_eq (lexemes : List Lexeme) :
    textOf lexemes = firstGap lexemes ++ written lexemes := by
  cases lexemes with
  | nil => rfl
  | cons first rest =>
      rw [textOf_cons, Lexeme.text, List.append_assoc]
      rfl

theorem textOf_length (lexemes : List Lexeme) :
    (textOf lexemes).length = (firstGap lexemes).length + (written lexemes).length := by
  rw [textOf_eq, List.length_append]

/-! ## Marks outside brackets -/

/-- A nest avoids a mark or is cut by the first one. -/
theorem Nest.split_at {stops : Lexeme → Bool} {nested : List Lexeme} (mark : Char)
    (nest : Nest stops nested) :
    Nest (·.isPunct mark) nested ∨
      ∃ before found rest, nested = before ++ found :: rest ∧ Nest (·.isPunct mark) before ∧
        found.isPunct mark = true ∧ found.token.isOpener = false ∧
        found.token.isCloser = false ∧ Nest stops rest := by
  induction nest with
  | nil => exact Or.inl (.nil _)
  | @plain _ lexeme rest notOpener notCloser goesOn restNest inductionHypothesis =>
      by_cases isPunct : lexeme.isPunct mark = true
      · exact Or.inr ⟨[], lexeme, rest, rfl, .nil _, isPunct, notOpener, notCloser, restNest⟩
      · have avoided := Bool.eq_false_iff.mpr isPunct
        rcases inductionHypothesis with
          whole | ⟨before, found, behind, rfl, beforeNest, marked, facts⟩
        · exact Or.inl (.plain notOpener notCloser avoided whole)
        · exact Or.inr ⟨lexeme :: before, found, behind, rfl,
            .plain notOpener notCloser avoided beforeNest, marked, facts⟩
  | @group _ opener closer _ inner _ opens closing balanced _ _ inductionHypothesis =>
      rcases inductionHypothesis with
        whole | ⟨before, found, behind, rfl, beforeNest, marked, facts⟩
      · exact Or.inl (.group opens closing balanced whole)
      · exact Or.inr ⟨opener :: (inner ++ closer :: before), found, behind, by simp,
          .group opens closing balanced beforeNest, marked, facts⟩

theorem behindMark_nest {stops : Lexeme → Bool} {nested : List Lexeme} {mark : Char} {depth : Nat}
    (avoids : depth = 0 → ∀ lexeme : Lexeme, stops lexeme = false → lexeme.isPunct mark = false)
    (nest : Nest stops nested) (rest : List Lexeme) :
    behindMark mark depth (nested ++ rest) = behindMark mark depth rest := by
  induction nest generalizing depth rest with
  | nil => rfl
  | plain notOpener notCloser goesOn _ inductionHypothesis =>
      rw [List.cons_append, behindMark, if_neg (by simp [notOpener]), if_neg (by simp [notCloser]),
        inductionHypothesis avoids, if_neg]
      rintro ⟨top, isPunct⟩
      rw [avoids top _ goesOn] at isPunct
      cases isPunct
  | group opens closing _ _ innerHypothesis restHypothesis =>
      have notOpener := isOpener_of_closer opens closing
      have isCloser := isCloser_of_closing opens closing
      rw [List.cons_append, List.append_assoc, List.cons_append, behindMark,
        if_pos (isOpener_of_closing opens),
        innerHypothesis (fun impossible => absurd impossible (Nat.succ_ne_zero depth)),
        behindMark, if_neg (by simp [notOpener]), if_pos isCloser, Nat.succ_sub_one,
        restHypothesis avoids]

theorem behindMark_none {nested : List Lexeme} {mark : Char} (nest : Nest (·.isPunct mark) nested) :
    behindMark mark 0 nested = none := by
  rw [← List.append_nil nested, behindMark_nest (fun _ _ avoided => avoided) nest]
  rfl

theorem behindMark_found {before rest : List Lexeme} {found : Lexeme} {mark : Char}
    (nest : Nest (·.isPunct mark) before) (isPunct : found.isPunct mark = true)
    (notOpener : found.token.isOpener = false) (notCloser : found.token.isCloser = false) :
    behindMark mark 0 (before ++ found :: rest) = some rest := by
  rw [behindMark_nest (fun _ _ avoided => avoided) nest, behindMark, if_neg (by simp [notOpener]),
    if_neg (by simp [notCloser]), if_pos ⟨rfl, isPunct⟩]

end Lexeme

namespace Scanned

open Mapping

variable {document : Document} {after : Text} {front back body : List Lexeme}

theorem entryKey_eq (scanned : Scanned document (front ++ (body ++ back)) after)
    (nonempty : body ≠ []) :
    entryKey document front.length (front.length + body.length) = keyOf body := by
  cases body with
  | nil => exact absurd rfl nonempty
  | cons head rest =>
      rw [entryKey, (show Scanned document (front ++ head :: (rest ++ back)) after from
        scanned).token?]
      dsimp only [Lexeme.tokenAt, keyOf]
      cases head.kind with
      | word =>
          cases rest with
          | nil =>
              rw [if_neg (by simp)]
              rfl
          | cons following more =>
              have shape : front ++ (head :: following :: more ++ back) =
                  (front ++ [head]) ++ following :: (more ++ back) := by
                simp
              have found := (shape ▸ scanned).token?
              rw [List.length_append, List.length_singleton] at found
              rw [if_pos (by simp), found]
              rfl
      | punct | string | template | regex => rfl

/-- Where a stretch of lexemes begins, seen from where it ends. -/
theorem startOf_eq (scanned : Scanned document (front ++ (body ++ back)) after)
    (nonempty : body ≠ []) :
    document.startOf front.length =
      (textOf (front ++ body)).length - (written body).length := by
  cases body with
  | nil => exact absurd rfl nonempty
  | cons head rest =>
      rw [(show Scanned document (front ++ head :: (rest ++ back)) after from scanned).startOf,
        textOf_append, List.length_append, textOf_length (head :: rest)]
      show _ = (textOf front).length + (head.gap.length + (written (head :: rest)).length) - _
      omega

theorem stopOf_eq (scanned : Scanned document (front ++ (body ++ back)) after)
    (nonempty : body ≠ []) :
    document.stopOf (front.length + body.length - 1) = (textOf (front ++ body)).length := by
  rcases List.eq_nil_or_concat body with rfl | ⟨others, last, rfl⟩
  · exact absurd rfl nonempty
  · rw [List.concat_eq_append] at scanned ⊢
    have shape : front ++ (others ++ [last] ++ back) = (front ++ others) ++ last :: back := by
      simp
    have found := (shape ▸ scanned).stopOf
    have place : front.length + (others ++ [last]).length - 1 = (front ++ others).length := by
      simp only [List.length_append, List.length_singleton]
      omega
    rw [place, found]
    simp only [textOf_append, textOf_cons, textOf_nil, List.length_append, List.append_nil]
    omega

theorem entryAt_eq (scanned : Scanned document (front ++ (body ++ back)) after)
    (nonempty : body ≠ []) (nest : Balanced body) :
    entryAt document front.length (front.length + body.length) =
      entryTo (textOf (front ++ body)).length body := by
  have longer : front.length < front.length + body.length := by
    have positive := List.length_pos_iff.mpr nonempty
    omega
  rw [entryAt, entryTo, scanned.entryKey_eq nonempty, scanned.startOf_eq nonempty,
    scanned.stopOf_eq nonempty, valueOf]
  congr 1
  rcases nest.split_at ':' with avoided | ⟨before, colon, value, rfl, beforeNest, isPunct, facts⟩
  · rw [scanned.topLevel_nest (fun _ goesOn => goesOn) avoided (Nat.le_refl _),
      topLevel_self, behindMark_none avoided]
    cases keyOf body <;> rfl
  · obtain ⟨notOpener, notCloser, _⟩ := facts
    rw [behindMark_found beforeNest isPunct notOpener notCloser]
    rw [List.length_append, List.length_cons] at longer ⊢
    have beforeShape : front ++ (before ++ colon :: value ++ back) =
        front ++ (before ++ (colon :: value ++ back)) := by
      simp
    have colonShape : front ++ (before ++ colon :: value ++ back) =
        (front ++ before) ++ colon :: (value ++ back) := by
      simp
    have valueShape : front ++ (before ++ colon :: value ++ back) =
        (front ++ before ++ [colon]) ++ (value ++ back) := by
      simp
    have scannedBefore := beforeShape ▸ scanned
    have found : document.topLevel [':'] (front ++ before).length
        (front.length + (before.length + (value.length + 1))) = _ :=
      (colonShape ▸ scanned).topLevel_mark (by rw [List.length_append]; omega) notOpener isPunct
    rw [List.length_append] at found
    rw [scannedBefore.topLevel_nest (fun _ goesOn => goesOn) beforeNest (by omega), found]
    cases keyOf (before ++ colon :: value) with
    | none => rfl
    | some key =>
        cases value with
        | nil =>
            dsimp only
            rw [if_neg (by simp only [List.length_nil]; omega)]
        | cons first rest =>
            have start := (valueShape ▸ scanned).startOf_eq (List.cons_ne_nil first rest)
            rw [List.length_append, List.length_append, List.length_singleton] at start
            dsimp only
            rw [if_pos (by simp only [List.length_cons]; omega), start]
            simp

end Scanned

end EmbedScaffold
