import MarkTex.Proofs.Latex.Composition
import Mathlib.Data.List.Forall2

/-!
# What a node shows

The rule for an element looks at little of what stands in the element: at its LaTeX, its text, the
images and the rows of tables below, and in lists and rows at the elements one by one. This is the
*aspect* of a row of nodes. Nodes of one aspect may stand for each other in any element:
`Alike.element`. Of attributes the target of a link and the path and the description of an image are
all that is looked at: `render_eq_of_agreeOnTargets`.
-/

namespace MarkTex.Latex

/-! ## Aspects -/

/-- What a row of nodes shows to an element around it. -/
structure Aspect where
  /-- The LaTeX of the nodes. -/
  latex : Text
  /-- The text of their leaves. -/
  content : Text
  /-- The figures of the images among them and below. -/
  figures : List Text
  /-- The cells of the rows of tables among them and below. -/
  rows : List (List Text)

instance : Append Aspect where
  append a b :=
    ⟨a.latex ++ b.latex, a.content ++ b.content, a.figures ++ b.figures, a.rows ++ b.rows⟩

variable (m : Marking) (o : RenderOptions)

/-- The cells of a row of a table. -/
def rowCells (row : Node) : List Text := row.elementChildren.map m.content

def aspect (ns : List Node) : Aspect where
  latex := (renderEach m o ns).flatten
  content := textOfAll ns
  figures := ((Node.forestNodes ns).filter (Node.isOfKind .image)).map fun image =>
    figure m o image.attributes
  rows := ((Node.forestNodes ns).filter (Node.isOfKind .tableRow)).map (rowCells m)

/-- What a row of nodes shows to a list and to a row of a table: of each element its LaTeX and its
text as a cell. -/
def parts (ns : List Node) : List (Text × Text) :=
  (ns.filter Node.isElement).map fun n => (renderWith m o n, m.content n)

theorem aspect_append (ns ns' : List Node) :
    aspect m o (ns ++ ns') = aspect m o ns ++ aspect m o ns' := by
  simp only [aspect, renderEach_eq_map, textOfAll, Node.forestNodes_eq_flatMap, List.map_append,
    List.flatten_append, List.flatMap_append, List.filter_append]
  rfl

theorem aspect_cons (n : Node) (ns : List Node) :
    aspect m o (n :: ns) = aspect m o [n] ++ aspect m o ns := aspect_append m o [n] ns

theorem latex_aspect_singleton (n : Node) : (aspect m o [n]).latex = renderWith m o n :=
  List.append_nil _

theorem content_aspect_singleton (n : Node) : (aspect m o [n]).content = n.textContent :=
  List.append_nil _

theorem parts_append (ns ns' : List Node) :
    parts m o (ns ++ ns') = parts m o ns ++ parts m o ns' := by
  rw [parts, List.filter_append, List.map_append]
  rfl

theorem parts_cons (n : Node) (ns : List Node) :
    parts m o (n :: ns) = parts m o [n] ++ parts m o ns := parts_append m o [n] ns

/-- What an element shows as a part is told by its aspect. -/
theorem parts_singleton (n : Node) :
    parts m o [n] =
      if n.isElement then
        [((aspect m o [n]).latex, m.literal (aspect m o [n]).content.trim)]
      else [] := by
  rw [latex_aspect_singleton, content_aspect_singleton]
  cases n <;> rfl

/-! ## An element by the aspect of what is in it -/

/-- Attributes of elements of a kind tell the rule for the kind the same. A value that is missing
counts as an empty one. -/
structure SameTarget (kind : ElementKind) (attrs attrs' : Attributes) : Prop where
  target : kind = .link → attrs.get "href" [] = attrs'.get "href" []
  path : kind = .image → attrs.get "src" [] = attrs'.get "src" []
  description : kind = .image → attrs.get "alt" [] = attrs'.get "alt" []

theorem SameTarget.refl (kind : ElementKind) (attrs : Attributes) : SameTarget kind attrs attrs :=
  ⟨fun _ => rfl, fun _ => rfl, fun _ => rfl⟩

/-- The kinds of elements that look at the elements in them one by one. -/
def looksAtParts (kind : ElementKind) : Bool := kind.isList || kind = .tableRow

section Element

variable {m o} {kind : ElementKind} {tag tag' : String} {attrs attrs' : Attributes}
  {cs cs' : List Node}

theorem textContent_eq_content (kind : ElementKind) (tag : String) (attrs : Attributes)
    (cs : List Node) :
    (Node.element kind tag attrs cs).textContent = (aspect m o cs).content :=
  Node.textContent_element kind tag attrs cs

theorem figure_congr (h : SameTarget .image attrs attrs') :
    figure m o attrs = figure m o attrs' := by
  rw [figure, figure, h.path rfl, h.description rfl]

/-- What a link shows is its figures, and its text if it has none. -/
theorem renderWith_link (tag : String) (attrs : Attributes) (cs : List Node) :
    renderWith m o (.element .link tag attrs cs) =
      command "href" (attrs.get "href" []) ++
        braced (if (aspect m o cs).figures.isEmpty then m.literal (aspect m o cs).content.trim
          else lines (aspect m o cs).figures) := by
  have hempty : (aspect m o cs).figures.isEmpty =
      ((Node.element .link "a" attrs cs).findAll .image).isEmpty := List.isEmpty_map
  rw [hempty, ← textContent_eq_content .link "a" attrs]
  rfl

/-- The LaTeX of a list is that of the elements in it. -/
theorem renderWith_list (hkind : kind.isList) (tag : String) (attrs : Attributes)
    (cs : List Node) :
    renderWith m o (.element kind tag attrs cs) =
      environment (listEnvironment kind) (lines ((parts m o cs).map Prod.fst)) := by
  have hitems : (parts m o cs).map Prod.fst =
      ((cs.zip (renderEach m o cs)).filter (·.1.isElement)).map (·.2) := by
    rw [renderedItems_eq_map, parts, List.map_map]
    rfl
  rw [hitems]
  cases kind with
  | unorderedList | orderedList => rfl
  | _ => cases hkind

theorem renderWith_table (tag : String) (attrs : Attributes) (cs : List Node) :
    renderWith m o (.element .table tag attrs cs) = tableFloat o (aspect m o cs).rows := rfl

theorem renderWith_codeBlock (tag : String) (attrs : Attributes) (cs : List Node) :
    renderWith m o (.element .codeBlock tag attrs cs) =
      environment "verbatim" (aspect m o cs).content := by
  rw [← textContent_eq_content .codeBlock "pre" attrs]
  rfl

theorem renderWith_element_congr (hattrs : SameTarget kind attrs attrs')
    (haspect : aspect m o cs = aspect m o cs')
    (hparts : looksAtParts kind → parts m o cs = parts m o cs') :
    renderWith m o (.element kind tag attrs cs) =
      renderWith m o (.element kind tag' attrs' cs') := by
  have hlatex : (renderEach m o cs).flatten = (renderEach m o cs').flatten :=
    congrArg Aspect.latex haspect
  have htext : (Node.element kind kind.tag attrs cs).textContent =
      (Node.element kind kind.tag attrs' cs').textContent := by
    rw [textContent_eq_content (m := m) (o := o), haspect, ← textContent_eq_content]
  have hcontent := congrArg (fun t => m.literal t.trim) htext
  cases kind with
  | heading1 | heading2 | heading3 | heading4 | inlineCode => exact congrArg (command _) hcontent
  | unorderedList | orderedList =>
      rw [renderWith_list rfl, renderWith_list rfl, hparts rfl]
  | listItem => exact congrArg (Text.ofString "\\item " ++ ·) hlatex
  | paragraph => exact congrArg (· ++ Text.ofString "\n\n") hlatex
  | bold | italic => exact congrArg (command _) hlatex
  | link => rw [renderWith_link, renderWith_link, haspect, hattrs.target rfl]
  | image => exact figure_congr hattrs
  | table => rw [renderWith_table, renderWith_table, haspect]
  | codeBlock => rw [renderWith_codeBlock, renderWith_codeBlock, haspect]
  | mathInline => exact congrArg m.inlineMath htext
  | mathBlock => exact congrArg m.displayMath htext
  | tableRow | tableCell | generic => exact hlatex

/-- The aspect of an element, by what is in it. -/
theorem aspect_element (kind : ElementKind) (tag : String) (attrs : Attributes) (cs : List Node) :
    aspect m o [.element kind tag attrs cs] =
      { latex := renderWith m o (.element kind tag attrs cs)
        content := (aspect m o cs).content
        figures := (if kind = .image then [figure m o attrs] else []) ++ (aspect m o cs).figures
        rows := (if kind = .tableRow then [(parts m o cs).map Prod.snd] else []) ++
          (aspect m o cs).rows } := by
  have hcells : rowCells m (.element kind tag attrs cs) = (parts m o cs).map Prod.snd := by
    rw [parts, List.map_map]
    rfl
  rw [← latex_aspect_singleton, ← textContent_eq_content kind tag attrs cs,
    ← content_aspect_singleton m o, ← hcells]
  simp only [aspect, Node.forestNodes, Node.descendants, List.append_nil, List.filter_cons,
    Node.isOfKind, decide_eq_true_eq]
  congr 1
  · split <;> rfl
  · split <;> rfl

end Element

/-! ## Nodes that look alike -/

/-- Two nodes look alike to an element around them. -/
structure Alike (n n' : Node) : Prop where
  isElement : n.isElement = n'.isElement
  aspect : aspect m o [n] = aspect m o [n']

namespace Alike

variable {m o} {n n' n'' : Node} {ns ns' : List Node}

theorem refl (n : Node) : Alike m o n n := ⟨rfl, rfl⟩

instance : Std.Refl (Alike m o) := ⟨refl⟩

theorem symm (h : Alike m o n n') : Alike m o n' n := ⟨h.isElement.symm, h.aspect.symm⟩

theorem trans (h : Alike m o n n') (h' : Alike m o n' n'') : Alike m o n n'' :=
  ⟨h.isElement.trans h'.isElement, h.aspect.trans h'.aspect⟩

theorem aspect_eq (h : List.Forall₂ (Alike m o) ns ns') :
    Latex.aspect m o ns = Latex.aspect m o ns' := by
  induction h with
  | nil => rfl
  | @cons n n' ns ns' hn _ ih => rw [aspect_cons, aspect_cons m o n', hn.aspect, ih]

theorem parts_eq (h : List.Forall₂ (Alike m o) ns ns') : parts m o ns = parts m o ns' := by
  induction h with
  | nil => rfl
  | @cons n n' ns ns' hn _ ih =>
      rw [parts_cons, parts_cons m o n', parts_singleton, parts_singleton, hn.isElement, hn.aspect,
        ih]

/-- Elements of a kind look alike if what is in them does and their attributes tell the rule for the
kind the same. -/
theorem element {kind : ElementKind} {tag tag' : String} {attrs attrs' : Attributes}
    (hattrs : SameTarget kind attrs attrs') (haspect : Latex.aspect m o ns = Latex.aspect m o ns')
    (hparts : looksAtParts kind → parts m o ns = parts m o ns') :
    Alike m o (.element kind tag attrs ns) (.element kind tag' attrs' ns') where
  isElement := rfl
  aspect := by
    have hfigure : (if kind = .image then [figure m o attrs] else []) =
        if kind = .image then [figure m o attrs'] else [] := by
      split
      next hkind => rw [figure_congr (hkind ▸ hattrs)]
      next => rfl
    have hcells : (if kind = .tableRow then [(parts m o ns).map Prod.snd] else []) =
        if kind = .tableRow then [(parts m o ns').map Prod.snd] else [] := by
      split
      next hkind => rw [hparts (by rw [hkind]; rfl)]
      next => rfl
    rw [aspect_element, aspect_element, renderWith_element_congr hattrs haspect hparts, haspect,
      hfigure, hcells]

/-- Nodes that look alike may stand for each other in an element. -/
theorem inside (h : Alike m o n n') (kind : ElementKind) (tag : String) (attrs : Attributes)
    (before after : List Node) :
    Alike m o (.element kind tag attrs (before ++ n :: after))
      (.element kind tag attrs (before ++ n' :: after)) := by
  have hall : List.Forall₂ (Alike m o) (before ++ n :: after) (before ++ n' :: after) :=
    List.rel_append (List.forall₂_refl before) (.cons h (List.forall₂_refl after))
  exact element (.refl kind attrs) (aspect_eq hall) fun _ => parts_eq hall

theorem renderWith_eq (h : Alike m o n n') : renderWith m o n = renderWith m o n' := by
  rw [← latex_aspect_singleton, h.aspect, latex_aspect_singleton]

end Alike

/-- Documents that look alike are written alike. -/
theorem render_eq_of_alike {o : RenderOptions} {t t' : Node} (h : Alike o.dollars o t t') :
    render o t = render o t' ∧ renderDocument o t = renderDocument o t' := by
  have hrender : render o t = render o t' := h.renderWith_eq
  exact ⟨hrender, by rw [renderDocument, renderDocument, hrender]⟩

/-! ## Attributes that are looked at -/

/-- Trees of the same shape, kinds and texts whose links have the same targets and whose images have
the same paths and descriptions. Tags and all other attributes may differ. -/
inductive AgreeOnTargets : Node → Node → Prop
  | text (content : Text) : AgreeOnTargets (.text content) (.text content)
  | element {kind : ElementKind} {tag tag' : String} {attrs attrs' : Attributes}
      {cs cs' : List Node} : SameTarget kind attrs attrs' → List.Forall₂ AgreeOnTargets cs cs' →
      AgreeOnTargets (.element kind tag attrs cs) (.element kind tag' attrs' cs')

theorem AgreeOnTargets.alike {t t' : Node} (h : AgreeOnTargets t t') : Alike m o t t' := by
  induction t generalizing t' with
  | text content =>
      cases h
      exact .refl _
  | element kind tag attrs cs ih =>
      cases h with
      | @element _ _ tag' _ attrs' _ cs' hattrs hcs =>
          have heach : ∀ c ∈ cs, ∀ c', AgreeOnTargets c c' → Alike m o c c' :=
            fun c hc c' => ih c hc
          have hall : List.Forall₂ (Alike m o) cs cs' :=
            ((List.forall₂_and_left cs cs').mpr ⟨heach, hcs⟩).imp fun c c' hc => hc.1 c' hc.2
          exact .element hattrs (Alike.aspect_eq hall) fun _ => Alike.parts_eq hall

/-- Trees of the same shape, kinds and texts are written alike if their links have the same targets
and their images the same paths and descriptions, whatever their tags and other attributes are. A
target, a path or a description that is missing, has no value or is empty is the same. -/
theorem render_eq_of_agreeOnTargets {t t' : Node} (h : AgreeOnTargets t t') (o : RenderOptions) :
    render o t = render o t' ∧ renderDocument o t = renderDocument o t' :=
  render_eq_of_alike (h.alike _ _)

/-- A numbered list with a link and an image in it. -/
def bareList : Node :=
  Node.ofKind .orderedList
    [Node.ofKind .listItem
      [Node.ofKind .link [.text (Text.ofString "a")] [("href", some (Text.ofString "u"))],
       Node.ofKind .image [] [("src", some (Text.ofString "p"))]] []] []

/-- The list with other tags and more attributes. The image has a description, but no text in it. -/
def dressedList : Node :=
  .element .orderedList "menu" [("start", some (Text.ofString "3"))]
    [.element .listItem "dd" [("href", some (Text.ofString "v")), ("class", none)]
      [.element .link "area"
        [("title", some (Text.ofString "t")), ("href", some (Text.ofString "u"))]
        [.text (Text.ofString "a")],
       .element .image "picture" [("alt", none), ("src", some (Text.ofString "p"))] []]]

theorem bareList_dressed : AgreeOnTargets bareList dressedList ∧
    render {} bareList = render {} dressedList ∧
      renderDocument {} bareList = renderDocument {} dressedList := by
  have hlink : SameTarget .link [("href", some (Text.ofString "u"))]
      [("title", some (Text.ofString "t")), ("href", some (Text.ofString "u"))] :=
    ⟨by decide, nofun, nofun⟩
  have himage : SameTarget .image [("src", some (Text.ofString "p"))]
      [("alt", none), ("src", some (Text.ofString "p"))] :=
    ⟨nofun, by decide, by decide⟩
  have hagree : AgreeOnTargets bareList dressedList :=
    .element ⟨nofun, nofun, nofun⟩ (.cons (.element ⟨nofun, nofun, nofun⟩
      (.cons (.element hlink (.cons (.text _) .nil)) (.cons (.element himage .nil) .nil))) .nil)
  exact ⟨hagree, render_eq_of_agreeOnTargets hagree {}⟩

end MarkTex.Latex
