import EmbedScaffold.Proofs.Literal.Json
import EmbedScaffold.Proofs.Markup.ClosingTag

/-!
# JSON strings inside a script

A JSON string holds the closing tag of a script only if the text that it stands for does: the tag has
no character that is written by an escape, but for blanks, and an escape is no part of a tag.
-/

namespace EmbedScaffold

open Text

namespace Literal

/-- A name in front of the end of a JSON string, or of an escape, is one in front of the text that
the string stands for. -/
theorem exists_of_dropCaseless?_escaped {wanted content behind : Text}
    (named : ∀ expected ∈ wanted, Markup.matchesCaseless expected '\\' = false ∧
      Markup.matchesCaseless expected '"' = false)
    (dropped : Markup.dropCaseless? wanted (content.flatMap escapeJsonChar ++ ['"']) =
      some behind) :
    ∃ rest, Markup.dropCaseless? wanted content = some rest ∧
      behind = rest.flatMap escapeJsonChar ++ ['"'] := by
  induction wanted generalizing content with
  | nil =>
      obtain rfl := Option.some.inj dropped
      exact ⟨content, rfl, rfl⟩
  | cons expected others inductionHypothesis =>
      have apart := named expected List.mem_cons_self
      cases content with
      | nil =>
          rw [List.flatMap_nil, List.nil_append, Markup.dropCaseless?, apart.2] at dropped
          cases dropped
      | cons first rest =>
          rw [List.flatMap_cons, List.append_assoc] at dropped
          have shown := jsonEscape first
          generalize escaped : escapeJsonChar first = letters at dropped shown
          cases shown with
          | short _ _ =>
              rw [List.cons_append, Markup.dropCaseless?, apart.1] at dropped
              cases dropped
          | code _ _ _ =>
              rw [List.cons_append, Markup.dropCaseless?, apart.1] at dropped
              cases dropped
          | plain _ _ _ =>
              rw [List.singleton_append, Markup.dropCaseless?] at dropped
              split at dropped
              · next same =>
                  obtain ⟨more, found, shape⟩ := inductionHypothesis
                    (fun other member => named other (List.mem_cons_of_mem _ member)) dropped
                  exact ⟨more, by rw [Markup.dropCaseless?, if_pos same, found], shape⟩
              · cases dropped

/-- A bracket behind blanks in a JSON string is one in the text that the string stands for. -/
theorem isSome_of_bracket_escaped {content behind : Text}
    (closed : Markup.dropExact? ['>'] ((content.flatMap escapeJsonChar ++ ['"']).dropWhile isBlank) =
      some behind) : ∃ rest, Markup.dropExact? ['>'] (content.dropWhile isBlank) = some rest := by
  induction content with
  | nil => cases closed
  | cons first rest inductionHypothesis =>
      rw [List.flatMap_cons, List.append_assoc] at closed
      have shown := jsonEscape first
      generalize escaped : escapeJsonChar first = letters at closed shown
      cases shown with
      | short _ _ => cases closed
      | code _ _ _ => cases closed
      | plain _ _ _ =>
          rw [List.singleton_append] at closed
          by_cases blank : isBlank first = true
          · rw [List.dropWhile_cons_of_pos blank] at closed ⊢
            exact inductionHypothesis closed
          · rw [List.dropWhile_cons_of_neg blank] at closed ⊢
            obtain ⟨rfl, -⟩ := List.cons.inj (Markup.dropExact?_eq_some.mp closed)
            exact ⟨rest, Markup.dropExact?_eq_some.mpr rfl⟩

/-- The closing tag that a bracket begins in a JSON string begins there in its text too. -/
theorem closingTag?_escaped {content : Text} (noTag : Markup.closingTag? ('<' :: content) = none) :
    Markup.closingTag? ('<' :: (content.flatMap escapeJsonChar ++ ['"'])) = none := by
  have tagName (rest : Text) : Markup.dropCaseless? "</script".toList ('<' :: rest) =
      Markup.dropCaseless? "/script".toList rest := rfl
  have named : ∀ expected ∈ "/script".toList, Markup.matchesCaseless expected '\\' = false ∧
      Markup.matchesCaseless expected '"' = false := Text.forall_of_all (by decide +kernel)
  rw [Markup.closingTag?_eq, Option.map_eq_none_iff, tagName, Option.bind_eq_none_iff] at noTag ⊢
  intro behind dropped
  obtain ⟨rest, found, rfl⟩ := exists_of_dropCaseless?_escaped named dropped
  refine Option.eq_none_iff_forall_not_mem.mpr fun ended closed => ?_
  obtain ⟨more, closes⟩ := isSome_of_bracket_escaped closed
  rw [noTag rest found] at closes
  cases closes

/-- A JSON string holds no closing tag of a script if its text holds none. -/
theorem bodyAndClosing?_jsonString {content : Text}
    (noTag : Markup.bodyAndClosing? content = none) :
    Markup.bodyAndClosing? (jsonString content) = none := by
  rw [jsonString, List.cons_append, Markup.bodyAndClosing?_cons_of_ne (by decide),
    Option.map_eq_none_iff]
  induction content with
  | nil => rfl
  | cons first rest inductionHypothesis =>
      have behind := inductionHypothesis (@Markup.bodyAndClosing?_right [first] rest noTag)
      rw [List.flatMap_cons, List.append_assoc]
      by_cases bracket : first = '<'
      · subst bracket
        have noTagHere : Markup.closingTag? ('<' :: rest) = none := by
          rw [Markup.bodyAndClosing?] at noTag
          split at noTag
          · cases noTag
          · assumption
        rw [show escapeJsonChar '<' = ['<'] from rfl, List.singleton_append, Markup.bodyAndClosing?,
          closingTag?_escaped noTagHere, behind]
        rfl
      · have absent := (jsonEscape first).notMem (Ne.symm bracket) rfl rfl
        rwa [Markup.bodyAndClosing?_eq_none_of_notMem absent]

end Literal

end EmbedScaffold
