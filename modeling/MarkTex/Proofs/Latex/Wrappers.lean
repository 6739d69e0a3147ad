import MarkTex.Proofs.Latex.Aspect

/-!
# Wrappers

Generic elements have no rule of their own: one of them shows what is in it and nothing else. It may
therefore be taken out and what is in it left in its place, anywhere but in a list or in a row of a
table, which look at the elements in them one by one: `render_eq_of_unwrapped`.
-/

namespace MarkTex.Latex

/-- A generic element somewhere in a tree is taken out, and what is in it stands in its place. The
element around it is no list and no row of a table. -/
inductive Unwrapped : Node → Node → Prop
  | here {kind : ElementKind} {tag wrapperTag : String} {attrs wrapperAttrs : Attributes}
      {inner : List Node} (before after : List Node) :
      kind ∉ [.unorderedList, .orderedList, .tableRow] →
      Unwrapped
        (.element kind tag attrs
          (before ++ .element .generic wrapperTag wrapperAttrs inner :: after))
        (.element kind tag attrs (before ++ inner ++ after))
  | inside {kind : ElementKind} {tag : String} {attrs : Attributes} {n n' : Node}
      (before after : List Node) : Unwrapped n n' →
      Unwrapped (.element kind tag attrs (before ++ n :: after))
        (.element kind tag attrs (before ++ n' :: after))

variable {m : Marking} {o : RenderOptions}

/-- A generic element shows what is in it. -/
theorem aspect_generic (tag : String) (attrs : Attributes) (inner : List Node) :
    aspect m o [.element .generic tag attrs inner] = aspect m o inner := by
  rw [aspect_element]
  rfl

theorem not_looksAtParts {kind : ElementKind}
    (h : kind ∉ [.unorderedList, .orderedList, .tableRow]) : ¬ looksAtParts kind := by
  cases kind <;> simp_all [looksAtParts, ElementKind.isList]

theorem Unwrapped.alike {t t' : Node} (h : Unwrapped t t') : Alike m o t t' := by
  induction h with
  | here before after hkind =>
      refine .element (.refl _ _) ?_ fun hparts => absurd hparts (not_looksAtParts hkind)
      rw [aspect_append, aspect_cons, aspect_generic, List.append_assoc, aspect_append m o before,
        aspect_append m o _ after]
  | inside before after _ ih => exact ih.inside _ _ _ before after

/-- A document is written as before when a wrapper is taken out of it. -/
theorem render_eq_of_unwrapped {t t' : Node} (h : Unwrapped t t') (o : RenderOptions) :
    render o t = render o t' ∧ renderDocument o t = renderDocument o t' :=
  render_eq_of_alike h.alike

/-- A list with a table in it. -/
def tableList (rows : List Node) : Node :=
  Node.ofKind .unorderedList
    [Node.ofKind .listItem [.text (Text.ofString "a"), Node.ofKind .table rows []] []] []

/-- The head of a table. -/
def headRow : Node :=
  Node.ofKind .tableRow [Node.ofKind .tableCell [.text (Text.ofString "b")] []] []

theorem tableList_unwrapped :
    Unwrapped (tableList [Node.generic "thead" [headRow], headRow]) (tableList [headRow, headRow]) ∧
      render {} (tableList [Node.generic "thead" [headRow], headRow]) =
        render {} (tableList [headRow, headRow]) ∧
      renderDocument {} (tableList [Node.generic "thead" [headRow], headRow]) =
        renderDocument {} (tableList [headRow, headRow]) := by
  have htable : Unwrapped
      (Node.ofKind .table [Node.generic "thead" [headRow], headRow] [])
      (Node.ofKind .table [headRow, headRow] []) := .here [] [headRow] (by decide)
  have hlist : Unwrapped (tableList [Node.generic "thead" [headRow], headRow])
      (tableList [headRow, headRow]) := .inside [] [] (.inside [.text _] [] htable)
  exact ⟨hlist, render_eq_of_unwrapped hlist {}⟩

/-- In a list a wrapper is what makes text an item. -/
example :
    render {} (Node.ofKind .unorderedList [Node.generic "div" [.text (Text.ofString "a")]] []) ≠
      render {} (Node.ofKind .unorderedList [.text (Text.ofString "a")] []) := by
  decide

end MarkTex.Latex
