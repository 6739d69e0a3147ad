import MarkTex.Proofs.Latex.Composition
import MarkTex.Proofs.Latex.Restoration

/-!
# Targets of links and paths of images

A link that is written sets its target with a command, and an image its path, both as they are.
The restoration of math afterwards runs over the whole document and knows nothing of commands: it
leaves a target without dollars alone, and may exchange the dollars of others for delimiters.
-/

namespace MarkTex.Latex

/-! ## Nodes that are written -/

mutual

/-- The nodes of a tree that are written as what they are. Where only the text of all leaves is
written nothing more is reached, and below a link only its images are. -/
def reached : Node → List Node
  | .text content => [.text content]
  | .element kind tag attrs children =>
    .element kind tag attrs children ::
      match kind with
      | .heading1 | .heading2 | .heading3 | .heading4 | .inlineCode | .image | .table | .codeBlock
      | .mathInline | .mathBlock => []
      | .link => (Node.element kind tag attrs children).findAll .image
      | .unorderedList | .orderedList | .listItem | .paragraph | .bold | .italic | .tableRow
      | .tableCell | .generic => reachedEach children

/-- The nodes of a list of trees that are written as what they are. -/
def reachedEach : List Node → List Node
  | [] => []
  | n :: ns => reached n ++ reachedEach ns

end

theorem reachedEach_eq_flatMap (ns : List Node) : reachedEach ns = ns.flatMap reached := by
  induction ns with
  | nil => rfl
  | cons n ns ih => rw [reachedEach, List.flatMap_cons, ih]

/-- The attribute that holds the target of a link or the path of an image. -/
def targetName : ElementKind → String
  | .image => "src"
  | _ => "href"

/-- The command that sets the target of a link or the path of an image. -/
def targetCommand (o : RenderOptions) : ElementKind → Text → Text
  | .image, path => graphics o path
  | _, target => command "href" target

variable {o : RenderOptions}

theorem graphics_infix_figure (m : Marking) (attrs : Attributes) :
    graphics o (attrs.get "src" []) <:+: figure m o attrs := by
  rw [figure_eq]
  refine List.IsInfix.trans ?_ (infix_enclosed _ _)
  refine List.IsInfix.trans ?_ (List.suffix_append _ _).isInfix
  refine List.IsInfix.trans ?_ (List.suffix_append _ _).isInfix
  refine List.IsInfix.trans ?_ (List.suffix_append _ _).isInfix
  exact (List.prefix_append _ _).isInfix

/-- The LaTeX of an element stands in the LaTeX of an element around it that is written child by
child. -/
theorem render_infix_flatten {n : Node} {ns : List Node} (hn : n ∈ ns) :
    render o n <:+: (renderEach o.dollars o ns).flatten := by
  rw [renderEach_eq_map]
  obtain ⟨before, after, rfl⟩ := List.append_of_mem hn
  exact ⟨(before.map (renderWith o.dollars o)).flatten, (after.map (renderWith o.dollars o)).flatten,
    by simp [render]⟩

theorem render_infix_list {n : Node} {ns : List Node} (hn : n ∈ ns) (helement : n.isElement)
    (name : String) :
    render o n <:+: environment name
      (lines (((ns.zip (renderEach o.dollars o ns)).filter (·.1.isElement)).map (·.2))) := by
  rw [renderedItems_eq_map]
  refine List.IsInfix.trans (infix_join ?_) (infix_environment _ _)
  exact List.mem_map_of_mem (List.mem_filter.mpr ⟨hn, helement⟩)

theorem graphics_infix_link {image : Node} {tag : String} {attrs : Attributes}
    {children : List Node}
    (h : image ∈ (Node.element .link tag attrs children).findAll .image) :
    graphics o (image.attributes.get "src" []) <:+:
      render o (.element .link tag attrs children) := by
  change _ <:+: command "href" _ ++ braced
    (if ((Node.element .link tag attrs children).findAll .image).isEmpty then _
    else lines (((Node.element .link tag attrs children).findAll .image).map _))
  rw [if_neg (by simpa using List.ne_nil_of_mem h)]
  have hline : figure o.dollars o image.attributes <:+: lines
      (((Node.element .link tag attrs children).findAll .image).map fun image =>
        figure o.dollars o image.attributes) := by
    have hmem := List.mem_map_of_mem (f := fun image => figure o.dollars o image.attributes) h
    exact infix_join hmem
  refine (graphics_infix_figure o.dollars image.attributes).trans (hline.trans ?_)
  exact (infix_braced _).trans (List.suffix_append _ _).isInfix

/-- A link or an image that is reached is written with its target as it is. -/
theorem targetCommand_infix_render {t : Node} {kind : ElementKind} {tag : String}
    {attrs : Attributes} {children : List Node} (hkind : kind = .link ∨ kind = .image)
    (h : .element kind tag attrs children ∈ reached t) :
    targetCommand o kind (attrs.get (targetName kind) []) <:+: render o t := by
  induction t with
  | text content => cases List.mem_singleton.mp h
  | element kind' tag' attrs' children' ih =>
      rcases List.mem_cons.mp h with heq | hbelow
      · obtain ⟨rfl, rfl, rfl, rfl⟩ := Node.element.inj heq
        rcases hkind with rfl | rfl
        · exact (List.prefix_append _ _).isInfix
        · exact graphics_infix_figure o.dollars attrs
      · have hchild : ∀ c ∈ children', .element kind tag attrs children ∈ reached c →
            targetCommand o kind (attrs.get (targetName kind) []) <:+:
              (renderEach o.dollars o children').flatten :=
          fun c hc hmem => (ih c hc hmem).trans (render_infix_flatten hc)
        have hinside : .element kind tag attrs children ∈ reachedEach children' →
            ∃ c ∈ children', .element kind tag attrs children ∈ reached c := by
          rw [reachedEach_eq_flatMap]
          exact List.mem_flatMap.mp
        cases kind' with
        | heading1 | heading2 | heading3 | heading4 | inlineCode | image | table | codeBlock
        | mathInline | mathBlock => cases hbelow
        | link =>
            obtain ⟨_, himage⟩ := Node.mem_findAll_element.mp hbelow
            cases of_decide_eq_true himage
            have hfigure := graphics_infix_link (o := o) hbelow
            exact hfigure
        | unorderedList | orderedList =>
            obtain ⟨c, hc, hmem⟩ := hinside hbelow
            cases c with
            | text content => cases List.mem_singleton.mp hmem
            | element => exact (ih _ hc hmem).trans (render_infix_list hc rfl _)
        | listItem =>
            obtain ⟨c, hc, hmem⟩ := hinside hbelow
            exact (hchild c hc hmem).trans (List.suffix_append _ _).isInfix
        | paragraph =>
            obtain ⟨c, hc, hmem⟩ := hinside hbelow
            exact (hchild c hc hmem).trans (List.prefix_append _ _).isInfix
        | bold | italic =>
            obtain ⟨c, hc, hmem⟩ := hinside hbelow
            exact (hchild c hc hmem).trans (infix_command _ _)
        | tableRow | tableCell | generic =>
            obtain ⟨c, hc, hmem⟩ := hinside hbelow
            exact hchild c hc hmem

/-! ## Parts of a restored text -/

namespace Redelimited

/-- What begins without a dollar stays apart from what is before it. -/
theorem of_append {a b t : Text} (h : Redelimited (a ++ b) t) (hb : b.head? ≠ some (.scalar '$')) :
    ∃ a' b', t = a' ++ b' ∧ Redelimited a a' ∧ Redelimited b b' := by
  generalize hab : a ++ b = s at h
  induction h generalizing a with
  | nil =>
      obtain ⟨rfl, rfl⟩ := List.append_eq_nil_iff.mp hab
      exact ⟨[], [], rfl, nil, nil⟩
  | keep c htail ih =>
      cases a with
      | nil =>
          subst hab
          exact ⟨[], _, rfl, nil, keep c htail⟩
      | cons x a =>
          obtain ⟨rfl, hrest⟩ := List.cons.inj hab
          obtain ⟨a', b', rfl, ha, hb'⟩ := ih hrest
          exact ⟨_ :: a', b', rfl, keep _ ha, hb'⟩
  | inline c hc htail ih =>
      cases a with
      | nil =>
          subst hab
          exact ⟨[], _, rfl, nil, inline c hc htail⟩
      | cons x a =>
          obtain ⟨rfl, hrest⟩ := List.cons.inj hab
          obtain ⟨a', b', rfl, ha, hb'⟩ := ih hrest
          exact ⟨_ :: _ :: a', b', rfl, inline c hc ha, hb'⟩
  | display c hc htail ih =>
      match a with
      | [] =>
          subst hab
          exact ⟨[], _, rfl, nil, display c hc htail⟩
      | [x] =>
          -- the two dollars of a display delimiter would stand on both sides
          rw [List.singleton_append] at hab
          obtain ⟨_, rfl⟩ := List.cons.inj hab
          exact absurd rfl hb
      | x :: y :: a =>
          simp only [List.cons_append, List.cons.injEq] at hab
          obtain ⟨rfl, rfl, hrest⟩ := hab
          obtain ⟨a', b', rfl, ha, hb'⟩ := ih hrest
          exact ⟨_ :: _ :: a', b', rfl, display c hc ha, hb'⟩

/-- What holds no dollar stays as it is. -/
theorem of_no_dollar {a b t : Text} (h : Redelimited (a ++ b) t) (ha : .scalar '$' ∉ a) :
    ∃ b', t = a ++ b' ∧ Redelimited b b' := by
  induction a generalizing t with
  | nil => exact ⟨t, rfl, h⟩
  | cons x a ih =>
      rw [List.mem_cons, not_or] at ha
      obtain ⟨hx, ha⟩ := ha
      generalize hab : x :: a ++ b = s at h
      cases h with
      | nil => cases hab
      | keep _ htail =>
          obtain ⟨rfl, rfl⟩ := List.cons.inj hab
          obtain ⟨b', rfl, hb⟩ := ih htail ha
          exact ⟨b', rfl, hb⟩
      | inline => exact absurd (List.cons.inj hab).1.symm hx
      | display => exact absurd (List.cons.inj hab).1.symm hx

theorem eq_of_no_dollar {a t : Text} (h : Redelimited a t) (ha : .scalar '$' ∉ a) : t = a := by
  rw [← List.append_nil a] at h
  obtain ⟨b', rfl, hb⟩ := h.of_no_dollar ha
  cases hb
  exact List.append_nil a

/-- Between two texts without dollars stands what has become of what stood there. -/
theorem between {s t front part back : Text} (h : Redelimited s t)
    (hfront : .scalar '$' ∉ front) (hne : front ≠ []) (hback : .scalar '$' ∉ back)
    (hne' : back ≠ []) (hstands : front ++ part ++ back <:+: s) :
    ∃ part', Redelimited part part' ∧ front ++ part' ++ back <:+: t := by
  have hhead : ∀ a b : Text, a ≠ [] → .scalar '$' ∉ a → (a ++ b).head? ≠ some (.scalar '$') := by
    intro a b hne hdollar heq
    cases a with
    | nil => exact hne rfl
    | cons x a => exact hdollar (Option.some.inj heq ▸ List.mem_cons_self)
  obtain ⟨before, after, rfl⟩ := hstands
  -- from the left: what is before, the front, the part, the back
  simp only [List.append_assoc] at h
  obtain ⟨before', rest, rfl, _, hrest⟩ := h.of_append (hhead front _ hne hfront)
  obtain ⟨behind, rfl, hbehind⟩ := hrest.of_no_dollar hfront
  obtain ⟨part', last, rfl, hpart, hlast⟩ :=
    of_append (a := part) hbehind (hhead back after hne' hback)
  obtain ⟨after', rfl, _⟩ := hlast.of_no_dollar hback
  exact ⟨part', hpart, before', after', by simp only [List.append_assoc]⟩

end Redelimited

/-! ## Targets in a finished document -/

theorem targetCommand_eq {kind : ElementKind} (hkind : kind = .link ∨ kind = .image) :
    ∃ front, .scalar '$' ∉ front ∧ front ≠ [] ∧
      ∀ target, targetCommand {} kind target = front ++ target ++ Text.ofString "\x7d" := by
  rcases hkind with rfl | rfl
  · refine ⟨Text.ofString "\\href" ++ Text.ofString "\x7b", by decide, by decide, fun target => ?_⟩
    simp only [targetCommand, command, braced, List.append_assoc]
    rfl
  · refine ⟨Text.ofString "\\includegraphics" ++ bracketed (Text.ofString "width=1\\textwidth") ++
      Text.ofString "\x7b", by decide, by decide, fun target => ?_⟩
    simp only [targetCommand, graphics, braced, List.append_assoc]
    rfl

/-- A link or an image that is reached sets its target in the rendered document as it is. In the
finished document dollars of the target may have been exchanged for delimiters, and a target without
dollars is as it was. -/
theorem renderDocument_targets {t : Node} {kind : ElementKind} {tag : String} {attrs : Attributes}
    {children : List Node} (hkind : kind = .link ∨ kind = .image)
    (h : .element kind tag attrs children ∈ reached t) :
    targetCommand {} kind (attrs.get (targetName kind) []) <:+: render {} t ∧
      ∃ target, Redelimited (attrs.get (targetName kind) []) target ∧
        targetCommand {} kind target <:+: renderDocument {} t ∧
          (.scalar '$' ∉ attrs.get (targetName kind) [] →
            target = attrs.get (targetName kind) []) := by
  have hrendered := targetCommand_infix_render (o := {}) hkind h
  obtain ⟨front, hfront, hne, hcommand⟩ := targetCommand_eq hkind
  refine ⟨hrendered, ?_⟩
  rw [hcommand] at hrendered
  obtain ⟨target, htarget, hfinished⟩ := (redelimited_restoreMath (render {} t)).between hfront hne
    (by decide) (by decide) hrendered
  refine ⟨target, htarget, ?_, htarget.eq_of_no_dollar⟩
  rw [hcommand]
  exact hfinished

/-- An image, with a path but without a description. -/
def plainImage : Node := Node.ofKind .image [] [("src", some (Text.ofString "i.png"))]

/-- A link with an image and a dollar in it. -/
def imageLink : Node :=
  Node.ofKind .link [plainImage, .text (Text.ofString "$")] [("href", some (Text.ofString "a_b"))]

/-- The link in an item of a list. -/
def linkList : Node :=
  Node.generic "document" [Node.ofKind .unorderedList [Node.ofKind .listItem [imageLink] []] []]

theorem linkList_targets : command "href" (Text.ofString "a_b") <:+: renderDocument {} linkList ∧
    graphics {} (Text.ofString "i.png") <:+: renderDocument {} linkList := by
  have hlink : imageLink ∈ reached linkList := by
    simp [linkList, imageLink, Node.generic, Node.ofKind, ElementKind.tag, reached, reachedEach]
  have himage : plainImage ∈ reached linkList := by
    simp [linkList, imageLink, plainImage, Node.generic, Node.ofKind, ElementKind.tag, reached,
      reachedEach, Node.findAll, Node.descendants, Node.forestNodes, Node.isOfKind]
  obtain ⟨_, target, _, hhref, heq⟩ := renderDocument_targets (Or.inl rfl) hlink
  obtain ⟨_, path, _, hsrc, heq'⟩ := renderDocument_targets (Or.inr rfl) himage
  rw [heq (by decide)] at hhref
  rw [heq' (by decide)] at hsrc
  exact ⟨hhref, hsrc⟩

/-- A link whose target holds a dollar. -/
def dollarLink : Node :=
  Node.ofKind .link [.text (Text.ofString "a")] [("href", some (Text.ofString "p$q"))]

/-- A paragraph with two such links. -/
def dollarLinks : Node :=
  Node.ofKind .paragraph
    [dollarLink, .text (Text.ofString " "),
     Node.ofKind .link [.text (Text.ofString "c")] [("href", some (Text.ofString "r$s"))]] []

/-- The dollars of two targets are taken for the delimiters of a formula between them. -/
theorem dollarLinks_rewritten : dollarLink ∈ reached dollarLinks ∧
    ¬ command "href" (Text.ofString "p$q") <:+: renderDocument {} dollarLinks ∧
      renderDocument {} dollarLinks =
        Text.ofString "\\href\x7bp\\(q\x7d\x7ba\x7d \\href\x7br\\)s\x7d\x7bc\x7d\n\n" := by
  refine ⟨?_, by decide +kernel, by decide +kernel⟩
  simp [dollarLinks, dollarLink, Node.ofKind, ElementKind.tag, reached, reachedEach]

end MarkTex.Latex
