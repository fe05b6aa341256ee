import EmbedScaffold.Template.Library

/-!
# Rendering a template

What a template gives is put together from its blocks, and a block from its pieces.  A loop gives
the texts of its turns one behind the other.
-/

namespace EmbedScaffold

namespace Template

variable {context : Context} {rest : List Piece} {others : Text}

/-! ## Pieces -/

theorem renderPieces_verbatim (content : Text) (rendered : renderPieces context rest = .ok others) :
    renderPieces context (.verbatim content :: rest) = .ok (content ++ others) := by
  rw [renderPieces, rendered]
  rfl

theorem renderPieces_hole {reference : Reference} {filter : Filter} {value : Literal}
    {content : Text} (stands : reference.value context = .ok value)
    (shown : filter.apply (.ok value) = .ok content)
    (rendered : renderPieces context rest = .ok others) :
    renderPieces context (.hole reference filter :: rest) = .ok (content ++ others) := by
  rw [renderPieces, stands, shown, rendered]
  rfl

theorem renderPieces_nil : renderPieces context [] = .ok [] :=
  rfl

/-! ## Filters -/

theorem apply_display (value : Literal) : Filter.apply .display (.ok value) = .ok value.display :=
  rfl

theorem apply_propertyKey (value : Literal) :
    Filter.apply .propertyKey (.ok value) = .ok (EmbedScaffold.propertyKey value.display) :=
  rfl

theorem apply_json {value : Literal} {content : Text} (shown : value.json? = some content) :
    Filter.apply .json (.ok value) = .ok content := by
  simp only [Filter.apply, shown]

theorem apply_literal {value : Literal} {level : Nat} {content : Text}
    (shown : value.render level = .ok content) :
    Filter.apply (.literal level) (.ok value) = .ok content := by
  rw [Filter.apply, shown]
  rfl

/-! ## Blocks -/

theorem render_plain {pieces : List Piece} {content : Text}
    (rendered : renderPieces context pieces = .ok content) :
    (Block.plain pieces).render context = .ok content :=
  rendered

/-- A loop over items that are each shown by the loop's body. -/
theorem render_loop {Item : Type} {source : Source} {body : List Piece} {items : List Item}
    {inner : Item → Context} {shown : Item → Text}
    (turns : source.contexts context = .ok (items.map inner))
    (each : ∀ item ∈ items, renderPieces (inner item) body = .ok (shown item)) :
    (Block.loop source body).render context = .ok (items.flatMap shown) := by
  have visited : ((items.map inner).mapM fun context => renderPieces context body) =
      .ok (items.map shown) := by
    clear turns
    induction items with
    | nil => rfl
    | cons item more inductionHypothesis =>
        rw [List.map_cons, List.mapM_cons, each item List.mem_cons_self,
          inductionHypothesis fun other member => each other (List.mem_cons_of_mem _ member)]
        rfl
  rw [Block.render, turns]
  show (((items.map inner).mapM fun context => renderPieces context body).bind
    fun turns => .ok turns.flatten) = _
  rw [visited, List.flatMap_def]
  rfl

theorem render_one {block : Block} {content : Text} (shown : block.render context = .ok content) :
    Template.render context [block] = .ok content := by
  rw [Template.render, List.mapM_cons, List.mapM_nil, shown]
  show Except.ok (content ++ []) = _
  rw [List.append_nil]

theorem render_three {first second third : Block} {left middle right : Text}
    (firstShown : first.render context = .ok left) (secondShown : second.render context = .ok middle)
    (thirdShown : third.render context = .ok right) :
    Template.render context [first, second, third] = .ok (left ++ (middle ++ right)) := by
  rw [Template.render, List.mapM_cons, List.mapM_cons, List.mapM_cons, List.mapM_nil, firstShown,
    secondShown, thirdShown]
  show Except.ok (left ++ (middle ++ (right ++ []))) = _
  rw [List.append_nil]

end Template

end EmbedScaffold
