import MarkTex.Proofs.Latex.KeptText
import MarkTex.Proofs.Markdown.Collection
import MarkTex.Proofs.Markdown.ContentModel

/-!
# Text from tokens to LaTeX

The text that the tokens of a forest carry where they have a place can be read in the LaTeX of their
document, if there are neither images nor raw HTML: `document_legible`. The writer leaves out text
that stands directly in lists and rows, and the text of links with images; the content model says that
the conversion puts none there.
-/

namespace MarkTex.Markdown

/-- The text that a token carries at its place. -/
def carriedText : Place × Token → Text
  | (.line, .mk .text raw _ _) => decodeReferences raw
  | (.line, .mk .codeSpan raw _ _) | (.line, .mk .inlineMath raw _ _)
  | (.block, .mk .blockMath raw _ _) => raw
  | (.block, .mk .blockCode raw _ _) => dropFinalNewline raw
  | _ => []

/-- The text that the tokens of a forest carry, in document order. -/
def textOfForest (ts : List Token) : Text := (Place.block.visitsEach ts).flatMap carriedText

/-! ## Lines of text -/

/-- What stands at a place fits in at every depth, and no image is there. -/
structure Plain (separator : Text) (p : Place) (ns : List Node) : Prop where
  holds : p.Holds separator ns
  fits : ∀ n ∈ Node.forestNodes ns, FitsIn separator n
  imageless : ∀ n ∈ Node.forestNodes ns, n.isOfKind .image = false

theorem collection_images (separator : Text) :
    Collection Eq (fun _ _ => True) (fun _ => [])
      (fun _ n => n.nodes.filter (Node.isOfKind .image)) separator := by
  refine Collection.nodes (fun _ => rfl) ?_ ?_ fun _ _ _ => rfl
  · intro kind tag attrs children hopen
    cases kind <;> first | rfl | exact absurd (by decide) hopen
  · rintro p ⟨kind, raw, attrs, children⟩ n hleaf
    cases hleaf <;> rfl

variable {fragments : Text → List Node} {o : ParseOptions} {separator : Text}

theorem plain_convert (q : Place) (ts : List Token) (h : TextOnly ts) :
    Plain o.blockSeparator q (q.convert fragments o ts) := by
  obtain ⟨hholds, hfits⟩ := fitsIn_convert fragments (h.noFragments (o := o) q)
  have himages := (collection_images o.blockSeparator).convert fragments (fun _ _ _ => trivial) h q
  refine ⟨hholds, hfits, fun n hn => ?_⟩
  rw [Node.forestNodes_eq_flatMap] at hn
  rw [← List.filter_flatMap, List.flatMap_eq_nil_iff.mpr fun _ _ => rfl, eq_comm,
    List.filter_eq_nil_iff] at himages
  simpa using himages n hn

/-- All text in a line of text is kept. -/
theorem keptText_of_isPhrasing {n : Node} (hphrasing : isPhrasing n)
    (hfits : ∀ x ∈ n.nodes, FitsIn separator x)
    (hplain : ∀ x ∈ n.nodes, x.isOfKind .image = false) :
    Latex.keptText n = n.textContent := by
  induction n with
  | text content => rfl
  | element kind tag attrs children ih =>
      have hinside : (∀ c ∈ children, isPhrasing c) →
          (Latex.keptEach children).flatten =
            (Node.element kind tag attrs children).textContent := by
        intro hchildren
        rw [Latex.keptEach_flatten, Node.textContent_element]
        refine List.flatMap_congr fun c hc => ih c hc (hchildren c hc) ?_ ?_
        · exact fun x hx => hfits x (Node.nodes_subset (Node.mem_nodes_of_mem_children hc) hx)
        · exact fun x hx => hplain x (Node.nodes_subset (Node.mem_nodes_of_mem_children hc) hx)
      have hself := hfits _ (Node.mem_nodes_self _)
      cases kind with
      | bold | italic => exact hinside hself
      | inlineCode | mathInline => rfl
      | link =>
          have hnone : (Node.element .link tag attrs children).findAll .image = [] :=
            List.filter_eq_nil_iff.mpr fun x hx => by
              simp [hplain x (Node.mem_nodes_of_mem_descendants hx)]
          simp [Latex.keptText, Latex.keptBy, ElementKind.handler, hnone]
      | image => simpa [Node.isOfKind] using hplain _ (Node.mem_nodes_self _)
      | generic =>
          rcases hself with ⟨htag, _⟩ | ⟨_, rfl⟩ | ⟨_, hchildren⟩
          · -- documents and quotes do not stand in a line
            simp only [List.mem_cons, List.not_mem_nil, or_false] at htag
            rcases htag with rfl | rfl <;> simp [isPhrasing] at hphrasing
          · rfl
          · exact hinside hchildren
      | _ => simp [isPhrasing] at hphrasing

/-! ## Elements around text -/

/-- The text that is shown of a node at a place. -/
def shownText : Place → Node → Text
  | .block, n => Latex.keptText n
  | .item, n => if n.isElement then Latex.keptText n else []
  | .part, n | .row, n => n.elementChildren.flatMap Node.textContent
  | .cell _, n | .line, n => n.textContent

theorem Plain.flatMap_keptText {ns : List Node} (h : Plain separator .line ns) :
    ns.flatMap Latex.keptText = ns.flatMap Node.textContent := by
  have hmem : ∀ n ∈ ns, ∀ x ∈ n.nodes, x ∈ Node.forestNodes ns := by
    intro n hn x hx
    rw [Node.forestNodes_eq_flatMap]
    exact List.mem_flatMap.mpr ⟨n, hn, hx⟩
  exact List.flatMap_congr fun n hn => keptText_of_isPhrasing (h.holds n hn)
    (fun x hx => h.fits x (hmem n hn x hx)) fun x hx => h.imageless x (hmem n hn x hx)

theorem flatMap_sublist {α β : Type} {xs ys : List α} (h : xs.Sublist ys) (g : α → List β) :
    (xs.flatMap g).Sublist (ys.flatMap g) := Latex.flatten_sublist (h.map g)

/-- In a list the writer passes over all but elements, which are the items. -/
theorem flatMap_shownText_item (ns : List Node) :
    ns.flatMap (shownText .item) = (ns.filter Node.isElement).flatMap Latex.keptText :=
  flatMap_ite Node.isElement Latex.keptText ns

/-- Cells are elements, so nothing of their text is left out. -/
theorem elementChildren_row {kind : ElementKind} {tag : String} {attrs : Attributes}
    {cells : List Node} (h : ∀ c ∈ cells, c.isOfKind .tableCell) :
    (Node.element kind tag attrs cells).elementChildren = cells := by
  refine List.filter_eq_self.mpr fun c hc => ?_
  cases c with
  | text content => exact absurd (h _ hc) (by simp [Node.isOfKind])
  | element => rfl

theorem sublist_findAll {kind : ElementKind} {tag : String} {attrs : Attributes}
    {rows : List Node} (h : ∀ r ∈ rows, r.isOfKind .tableRow) :
    rows.Sublist ((Node.element kind tag attrs rows).findAll .tableRow) := by
  rw [Node.findAll, Node.descendants]
  induction rows with
  | nil => exact List.Sublist.slnil
  | cons r rows ih =>
      obtain ⟨hr, hrows⟩ := List.forall_mem_cons.mp h
      rw [Node.forestNodes, List.filter_cons_of_pos hr, List.filter_append]
      exact ((ih hrows).trans (List.sublist_append_right _ _)).cons_cons r

theorem shownText_shell {p q : Place} {kind : ElementKind} {tag : String} {attrs : Attributes}
    {inner : List Node} (hshell : ShellAt p q kind tag) (hplain : Plain separator q inner) :
    (inner.flatMap (shownText q)).Sublist (shownText p (.element kind tag attrs inner)) := by
  have hwhole : ∀ kind tag attrs, (inner.flatMap Node.textContent).Sublist
      (Node.element kind tag attrs inner).textContent := by
    intro kind tag attrs
    rw [Node.textContent_element]
  have hkept : (inner.flatMap Latex.keptText).Sublist (Latex.keptEach inner).flatten := by
    rw [Latex.keptEach_flatten]
  cases hshell with
  | heading hmem =>
      -- the two lowest levels have no command and are written child by child
      have hlow := hplain.flatMap_keptText ▸ hkept
      simp only [headingElements, List.mem_cons, Prod.mk.injEq, List.not_mem_nil, or_false] at hmem
      rcases hmem with ⟨rfl, rfl⟩ | ⟨rfl, rfl⟩ | ⟨rfl, rfl⟩ | ⟨rfl, rfl⟩ | ⟨rfl, rfl⟩ | ⟨rfl, rfl⟩
      · exact hwhole _ _ _
      · exact hwhole _ _ _
      · exact hwhole _ _ _
      · exact hwhole _ _ _
      · exact hlow
      · exact hlow
  | paragraph => exact hplain.flatMap_keptText ▸ hkept
  | quote | listItem => exact hkept
  | list hlist =>
      rw [flatMap_shownText_item, ← Latex.keptItems_eq]
      rcases hlist with rfl | rfl <;> exact List.Sublist.refl _
  | table => exact flatMap_sublist (sublist_findAll hplain.holds) _
  | headRow | bodyRow =>
      simp only [shownText]
      rw [elementChildren_row hplain.holds]
      exact List.Sublist.refl _
  | cell | phrase => exact hwhole _ _ _

theorem shownText_leaf {p : Place} {t : Token} {n : Node} (h : LeafAt p t.kind t.raw n) :
    (carriedText (p, t)).Sublist (shownText p n) := by
  obtain ⟨kind, raw, attrs, children⟩ := t
  cases h with
  | code | blockMath | codeSpan | inlineMath =>
      simp [carriedText, shownText, Latex.keptText, Latex.keptBy, ElementKind.handler, Node.ofKind,
        Node.textContent, Node.descendants, Node.forestNodes, Node.ownText, Token.raw]
  | text => exact List.Sublist.refl _
  | rule | softBreak | lineBreak => exact List.nil_sublist _

/-- What tokens carry is shown of their nodes. -/
theorem collection_carriedText (separator : Text) :
    Collection (fun a b => a.Sublist b) (Plain separator) carriedText shownText separator where
  nil := List.Sublist.slnil
  append h h' := h.append h'
  spaced hspaced h := h.trans (flatMap_sublist hspaced.sublist _)
  leaf h := shownText_leaf h
  other {p t} h := by
    obtain ⟨kind, raw, attrs, children⟩ := t
    unfold carriedText
    split
    next heq =>
      cases heq
      exact absurd .text (h _)
    next heq =>
      cases heq
      exact absurd .codeSpan (h _)
    next heq =>
      cases heq
      exact absurd .inlineMath (h _)
    next heq =>
      cases heq
      exact absurd .blockMath (h _)
    next heq =>
      cases heq
      exact absurd (.code []) (h _)
    next => rfl
  blockText hplain h := hplain.flatMap_keptText.symm ▸ h
  tableBody _ h := h
  shell hshell hplain h := h.trans (shownText_shell hshell hplain)

variable {ts : List Token}

theorem textOfForest_sublist (h : TextOnly ts) :
    (textOfForest ts).Sublist (Latex.keptText (plainDocument o ts)) := by
  have hcarried := (collection_carriedText o.blockSeparator).convert (fun _ => []) plain_convert h
    .block
  have hkept : Latex.keptText (plainDocument o ts) =
      (Place.block.convert (fun _ => []) o ts).flatMap Latex.keptText := Latex.keptEach_flatten _
  rw [hkept]
  exact hcarried

variable {m : Type → Type} [Monad m] [LawfulMonad m]

/-- Nothing of the text that tokens carry is lost on the way to LaTeX, and nothing changes places. -/
theorem document_legible (fx : Reading m) (r : Latex.RenderOptions) (h : TextOnly ts) :
    ∃ root, Yields fx (document fx o ts) root ∧
      Latex.Legible (textOfForest ts) (Latex.render r root) :=
  ⟨plainDocument o ts, yields_plainDocument (h.noFragments .block),
    (Latex.legible_render r _).of_sublist (textOfForest_sublist h)⟩

/-- Text under all kinds of blocks, some of it special to LaTeX. -/
def assortedText : List Token :=
  tokens {} "# A & *b*\n\n- [c_d](x)\n  `e`\n\n| f |\n|---|\n| $g$ |\n\n```\n%h\n```\n".toList

theorem assortedText_legible : ∃ root,
    Yields Action.reading (document Action.reading {} assortedText) root ∧
      Latex.Legible (textOfForest assortedText) (Latex.render {} root) ∧
        (textOfForest assortedText).nonblank = Text.ofString "A&bc_defg%h" := by
  have htext : TextOnly assortedText := by decide +kernel
  obtain ⟨root, hyields, hlegible⟩ := document_legible (o := {}) Action.reading {} htext
  exact ⟨root, hyields, hlegible, by decide +kernel⟩

end MarkTex.Markdown
