import MarkTex.Proofs.Latex.Escape
import MarkTex.Proofs.Latex.Targets
import Mathlib.Data.List.Forall2

/-!
# The outline of a written document

Headings and figures are written where they stand in the document: the commands that make them are
found in its LaTeX once for each heading and each image that is reached, in the order of the
document, with the title or the path of their own. Nothing else in the LaTeX can be taken for such a
command, as the text of a document has no backslashes left when it is written.

A part of the LaTeX *shows* some commands if they are what begins in it, whatever follows: `Shows`.
What is written one after the other shows the commands of its parts.
-/

namespace MarkTex.Latex

/-! ## Where commands begin -/

/-- How the commands of headings and images begin, up to the character that tells them from longer
names. -/
def outlineHeads : List Text :=
  ["\\chapter\x7b", "\\section\x7b", "\\subsection\x7b", "\\subsubsection\x7b",
   "\\includegraphics["].map Text.ofString

/-- Whether a text begins with a command of a heading or an image. -/
def beginsOutline (t : Text) : Bool := outlineHeads.any (·.isPrefixOf t)

/-- The places of a text at which a command of a heading or an image begins, from left to right,
each given as the text from there on. -/
def outlinePlaces (t : Text) : List Text := t.tails.filter beginsOutline

theorem outlinePlaces_cons (x : CodePoint) (t : Text) :
    outlinePlaces (x :: t) =
      if beginsOutline (x :: t) then (x :: t) :: outlinePlaces t else outlinePlaces t := by
  rw [outlinePlaces, List.tails, List.filter_cons]
  rfl

/-- Nowhere in a text a command begins, and none would if more text followed. -/
def silent : Text → Bool
  | [] => true
  | x :: t =>
    outlineHeads.all (fun head => !head.isPrefixOf (x :: t) && !(x :: t).isPrefixOf head) &&
      silent t

theorem beginsOutline_append_of_silent {x : CodePoint} {t : Text} (h : silent (x :: t))
    (rest : Text) : beginsOutline (x :: t ++ rest) = false := by
  obtain ⟨hheads, _⟩ := (Bool.and_eq_true _ _).mp h
  rw [beginsOutline, List.any_eq_false]
  intro head hmem hbegins
  have hapart := List.all_eq_true.mp hheads head hmem
  simp only [Bool.and_eq_true, Bool.not_eq_true', ← Bool.not_eq_true,
    List.isPrefixOf_iff_prefix] at hapart hbegins
  rcases List.prefix_or_prefix_of_prefix hbegins (List.prefix_append _ rest) with hin | hover
  · exact hapart.1 hin
  · exact hapart.2 hover

theorem outlinePlaces_append_of_silent {part : Text} (h : silent part) (rest : Text) :
    outlinePlaces (part ++ rest) = outlinePlaces rest := by
  induction part with
  | nil => rfl
  | cons x part ih =>
      have hnone := beginsOutline_append_of_silent h rest
      rw [List.cons_append] at hnone ⊢
      rw [outlinePlaces_cons, hnone]
      exact ih ((Bool.and_eq_true _ _).mp h).2

theorem silent_of_notMem {t : Text} (h : .scalar '\\' ∉ t) : silent t := by
  have hslash : ∀ head ∈ outlineHeads, head.head? = some (.scalar '\\') := by decide
  induction t with
  | nil => rfl
  | cons x t ih =>
      obtain ⟨hx, ht⟩ := not_or.mp (List.mem_cons.not.mp h)
      rw [silent, ih ht, Bool.and_true, List.all_eq_true]
      intro head hmem
      obtain ⟨name, rfl⟩ := List.head?_eq_some_iff.mp (hslash head hmem)
      have hne : x ≠ .scalar '\\' := Ne.symm hx
      simp [List.isPrefixOf, hne, hx]

/-! ## What a part shows -/

/-- Whatever follows a part, these are the commands that begin in it. -/
def Shows (part : Text) (commands : List Text) : Prop :=
  ∀ rest, ∃ places, outlinePlaces (part ++ rest) = places ++ outlinePlaces rest ∧
    List.Forall₂ (· <+: ·) commands places

namespace Shows

theorem of_silent {part : Text} (h : silent part) : Shows part [] := by
  intro rest
  exact ⟨[], outlinePlaces_append_of_silent h rest, .nil⟩

theorem of_notMem {part : Text} (h : .scalar '\\' ∉ part) : Shows part [] :=
  of_silent (silent_of_notMem h)

theorem append {a b : Text} {as bs : List Text} (ha : Shows a as) (hb : Shows b bs) :
    Shows (a ++ b) (as ++ bs) := by
  intro rest
  obtain ⟨inFirst, hfirst, has⟩ := ha (b ++ rest)
  obtain ⟨inSecond, hsecond, hbs⟩ := hb rest
  refine ⟨inFirst ++ inSecond, ?_, List.rel_append has hbs⟩
  rw [List.append_assoc, hfirst, hsecond, List.append_assoc]

/-- A part that shows nothing may stand in front. -/
theorem behind {a b : Text} {bs : List Text} (ha : Shows a []) (hb : Shows b bs) :
    Shows (a ++ b) bs := ha.append hb

/-- A part that shows nothing may follow. -/
theorem before {a b : Text} {as : List Text} (ha : Shows a as) (hb : Shows b []) :
    Shows (a ++ b) as := by
  have h := ha.append hb
  rwa [List.append_nil] at h

theorem flatten_map {α : Type} {f : α → Text} {g : α → List Text} {xs : List α}
    (h : ∀ x ∈ xs, Shows (f x) (g x)) : Shows (xs.map f).flatten (xs.flatMap g) := by
  induction xs with
  | nil => exact of_silent rfl
  | cons x xs ih =>
      obtain ⟨hx, hxs⟩ := List.forall_mem_cons.mp h
      exact hx.append (ih hxs)

theorem join_map {separator : Text} (hseparator : Shows separator []) {α : Type} {f : α → Text}
    {g : α → List Text} {xs : List α} (h : ∀ x ∈ xs, Shows (f x) (g x)) :
    Shows (Text.join separator (xs.map f)) (xs.flatMap g) := by
  induction xs with
  | nil => exact of_silent rfl
  | cons x xs ih =>
      obtain ⟨hx, hxs⟩ := List.forall_mem_cons.mp h
      cases xs with
      | nil =>
          rw [List.flatMap_singleton]
          exact hx
      | cons y ys => exact (hx.before hseparator).append (ih hxs)

theorem join {separator : Text} (hseparator : Shows separator []) {parts : List Text}
    (h : ∀ part ∈ parts, Shows part []) : Shows (Text.join separator parts) [] := by
  have hparts := join_map (f := id) (g := fun _ => []) hseparator h
  rwa [List.map_id, List.flatMap_eq_nil_iff.mpr fun _ _ => rfl] at hparts

theorem escape (t : Text) : Shows (escape t) [] := by
  have hrules : ∀ rule ∈ specials, silent rule.2 := by decide +kernel
  apply escape_induction (P := fun t => Shows t [])
  case nil => exact of_silent rfl
  case append => exact fun a b ha hb => ha.append hb
  case plain =>
    intro x hx
    apply of_notMem
    intro hmem
    exact hx (List.mem_singleton.mp hmem ▸ by decide)
  case rule => exact fun rule hrule => of_silent (hrules rule hrule)

/-! ## Constructions of the writer -/

theorem layout {t : Text} (ht : t ∈ layoutTexts) : Shows t [] := by
  have hall : ∀ t ∈ layoutTexts, silent t := by decide +kernel
  exact of_silent (hall t ht)

theorem braced {a : Text} {as : List Text} (h : Shows a as) : Shows (braced a) as :=
  ((of_silent (by decide)).behind h).before (of_silent (by decide))

/-- A command that is not one of the outline shows what its argument shows. -/
theorem command {name : String}
    (hname : silent (Text.ofString ("\\" ++ name) ++ Text.ofString "\x7b")) {a : Text}
    {as : List Text} (h : Shows a as) : Shows (command name a) as := by
  rw [Latex.command, Latex.braced, ← List.append_assoc, ← List.append_assoc]
  exact ((of_silent hname).behind h).before (of_silent (by decide))

theorem enclosed {name : String} (hname : .scalar '\\' ∉ Text.ofString name) {a : Text}
    {as : List Text} (h : Shows a as) : Shows (enclosed name a) as := by
  have hbegin : Shows (Latex.command "begin" (Text.ofString name)) [] :=
    command (by decide) (of_notMem hname)
  have hend : Shows (Latex.command "end" (Text.ofString name)) [] :=
    command (by decide) (of_notMem hname)
  exact (hbegin.behind h).before hend

theorem environment {name : String} (hname : .scalar '\\' ∉ Text.ofString name) {a : Text}
    {as : List Text} (h : Shows a as) : Shows (environment name a) as :=
  enclosed hname (((layout (by decide)).behind h).before (layout (by decide)))

/-- A command of the outline shows itself and nothing more if its argument shows nothing. -/
theorem own {head argument : Text} (hhead : head ∈ outlineHeads) (h : Shows argument []) :
    Shows (head ++ argument) [head ++ argument] := by
  have hshape : ∀ head ∈ outlineHeads, head.head? = some (.scalar '\\') ∧ silent head.tail := by
    decide +kernel
  intro rest
  have hbegins : beginsOutline (head ++ argument ++ rest) := by
    rw [beginsOutline, List.any_eq_true]
    rw [List.append_assoc]
    exact ⟨head, hhead, List.isPrefixOf_iff_prefix.mpr (List.prefix_append _ _)⟩
  obtain ⟨hslash, hname⟩ := hshape head hhead
  obtain ⟨name, rfl⟩ := List.head?_eq_some_iff.mp hslash
  rw [List.tail_cons] at hname
  obtain ⟨places, hplaces, hnone⟩ := (of_silent hname).append h rest
  cases hnone
  refine ⟨[_], ?_, .cons (List.prefix_append _ rest) .nil⟩
  rw [List.cons_append, List.cons_append] at hbegins ⊢
  rw [outlinePlaces_cons, if_pos hbegins, hplaces]
  rfl

end Shows

/-! ## What is written of a document -/

/-- The command of a heading, with its title, or of an image, with its path. -/
def outlineCommand? (o : RenderOptions) : Node → Option Text
  | .text _ => none
  | .element kind tag attrs children =>
    if kind = .image then some (graphics o (Attributes.get attrs "src" []))
    else (headingCommand? kind).map fun name =>
      command name (escape (Node.element kind tag attrs children).textContent.trim)

/-- The commands of the headings and the images that are reached in a tree, in document order. -/
def outline (o : RenderOptions) (t : Node) : List Text := (reached t).filterMap (outlineCommand? o)

/-- What a document brings into its LaTeX without escaping has no backslashes. -/
@[mk_iff]
structure NoForeignCommands (t : Node) : Prop where
  code : ∀ n ∈ t.nodes, n.isOfKind .codeBlock → .scalar '\\' ∉ n.textContent
  inlineMath : ∀ n ∈ t.nodes, n.isOfKind .mathInline → .scalar '\\' ∉ n.textContent
  displayMath : ∀ n ∈ t.nodes, n.isOfKind .mathBlock → .scalar '\\' ∉ n.textContent
  target : ∀ n ∈ t.nodes, n.isOfKind .link → .scalar '\\' ∉ n.attributes.get "href" []
  path : ∀ n ∈ t.nodes, n.isOfKind .image → .scalar '\\' ∉ n.attributes.get "src" []

instance (t : Node) : Decidable (NoForeignCommands t) :=
  decidable_of_iff _ (noForeignCommands_iff t).symm

theorem outline_eq_of_reachedEach {o : RenderOptions} {kind : ElementKind} {tag : String}
    {attrs : Attributes} {children : List Node}
    (hcommand : outlineCommand? o (.element kind tag attrs children) = none)
    (hreached : reached (.element kind tag attrs children) =
      .element kind tag attrs children :: reachedEach children) :
    outline o (.element kind tag attrs children) = children.flatMap (outline o) := by
  rw [outline, hreached, List.filterMap_cons_none hcommand, reachedEach_eq_flatMap,
    List.filterMap_flatMap]
  rfl

/-- The images of a link are the outline of it. -/
theorem outline_link (o : RenderOptions) (tag : String) (attrs : Attributes)
    (children : List Node) :
    outline o (.element .link tag attrs children) =
      ((Node.element .link tag attrs children).findAll .image).flatMap fun image =>
        [graphics o (image.attributes.get "src" [])] := by
  have hcommand : outlineCommand? o (.element .link tag attrs children) = none := rfl
  rw [outline, reached, List.filterMap_cons_none hcommand, List.filterMap_eq_flatMap_toList]
  apply List.flatMap_congr
  intro image himage
  obtain ⟨_, hkind⟩ := Node.mem_findAll_element.mp himage
  obtain ⟨tag, attrs, children, rfl⟩ := Node.exists_eq_element hkind
  rfl

/-- Text that stands in a list is not written, and it is no part of the outline. -/
theorem flatMap_outline_filter (o : RenderOptions) (ns : List Node) :
    (ns.filter Node.isElement).flatMap (outline o) = ns.flatMap (outline o) := by
  induction ns with
  | nil => rfl
  | cons n ns ih =>
      cases n with
      | text content => exact ih
      | element kind tag attrs children =>
          rw [List.filter_cons_of_pos rfl, List.flatMap_cons, List.flatMap_cons, ih]

/-- Options under which special characters are escaped and whose strings cannot be taken for
commands of the outline. -/
structure SilentOptions (o : RenderOptions) : Prop where
  escapeSpecial : o.escapeSpecial = true
  figurePlacement : silent (bracketed o.figurePlacement)
  imageWidth : silent (Text.ofString "width=" ++ o.imageWidth ++ Text.ofString "]")
  tablePlacement : silent (bracketed o.tablePlacement)
  columnSpec : .scalar '\\' ∉ o.columnSpec

theorem silentOptions_default (restore : Bool) : SilentOptions { restoreMath := restore } where
  escapeSpecial := rfl
  figurePlacement := rfl
  imageWidth := rfl
  tablePlacement := rfl
  columnSpec := by
    have hcolumn : .scalar '\\' ∉ Text.ofString " c " := by decide
    exact hcolumn

namespace Shows

variable {o : RenderOptions}

theorem graphics (ho : SilentOptions o) {path : Text} (hpath : .scalar '\\' ∉ path) :
    Shows (graphics o path) [Latex.graphics o path] := by
  have hsplit : Latex.graphics o path = Text.ofString "\\includegraphics[" ++
      (Text.ofString "width=" ++ o.imageWidth ++ Text.ofString "]" ++ Latex.braced path) := by
    simp [Latex.graphics, bracketed, Text.ofString, Text.ofChars]
  rw [hsplit]
  exact own (by decide) ((of_silent ho.imageWidth).append (braced (of_notMem hpath)))

theorem dollars_literal (ho : SilentOptions o) (t : Text) : o.dollars.literal t = Latex.escape t :=
  if_pos ho.escapeSpecial

theorem literal (ho : SilentOptions o) (t : Text) : Shows (o.dollars.literal t) [] := by
  rw [dollars_literal ho]
  exact escape t

/-- A heading shows its own command, with its title escaped. -/
theorem heading (ho : SilentOptions o) (kind : ElementKind) {name : String}
    (hname : headingCommand? kind = some name) (title : Text) :
    Shows (Latex.command name (o.dollars.literal title))
      [Latex.command name (Latex.escape title)] := by
  have hhead : Text.ofString ("\\" ++ name) ++ Text.ofString "\x7b" ∈ outlineHeads := by
    cases kind <;> cases hname <;> decide
  have hsplit : Latex.command name (Latex.escape title) =
      Text.ofString ("\\" ++ name) ++ Text.ofString "\x7b" ++
        (Latex.escape title ++ Text.ofString "\x7d") := by
    simp [Latex.command, Latex.braced]
  rw [dollars_literal ho, hsplit]
  exact own hhead ((escape title).append (of_silent (by decide)))

theorem figure (ho : SilentOptions o) {attrs : Attributes}
    (hpath : .scalar '\\' ∉ Attributes.get attrs "src" []) :
    Shows (figure o.dollars o attrs) [Latex.graphics o (Attributes.get attrs "src" [])] := by
  have hline : Shows (Text.ofString "\n") [] := layout (by decide)
  have hlabel : Shows (if (Attributes.get attrs "alt" []).isEmpty then []
      else Latex.command "label" (o.dollars.literal (Attributes.get attrs "alt" [])) ++
        Text.ofString "\n") [] := by
    split
    · exact of_silent rfl
    · exact (command (by decide) (literal ho _)).before hline
  rw [figure_eq]
  refine enclosed (by decide) ((of_silent ho.figurePlacement).behind (hline.behind ?_))
  exact (layout (by decide)).behind ((graphics ho hpath).before (hline.append hlabel))

theorem tableFloat (ho : SilentOptions o) {rows : List (List Text)}
    (hcells : ∀ row ∈ rows, ∀ cell ∈ row, Shows cell []) : Shows (tableFloat o rows) [] := by
  have hrow : ∀ row ∈ rows, Shows (Text.join (Text.ofString " & ") row) [] := by
    intro row hmem
    exact join (of_silent (by decide)) (hcells row hmem)
  have hhead : Shows (Text.join (Text.ofString " & ") (rows.headD [])) [] := by
    cases rows with
    | nil => exact of_silent rfl
    | cons row rows => exact hrow row List.mem_cons_self
  have hline : Shows (Text.ofString "\n") [] := layout (by decide)
  have hrule : Shows (Text.ofString "\\hline\n") [] := layout (by decide)
  have hend : Shows (Text.ofString " \\\\\n") [] := layout (by decide)
  have hbody : Shows (Text.join (Text.ofString " \\\\\n")
      (rows.tail.map (Text.join (Text.ofString " & ")))) [] := by
    apply join hend
    intro part hpart
    obtain ⟨row, hmem, rfl⟩ := List.mem_map.mp hpart
    exact hrow row (List.mem_of_mem_tail hmem)
  have hcolumns : Shows (Latex.braced (List.replicate (rows.headD []).length o.columnSpec).flatten)
      [] := by
    apply braced (of_notMem ?_)
    intro hmem
    exact ho.columnSpec (mem_of_mem_columns hmem)
  rw [tableFloat_eq]
  refine enclosed (by decide) ((of_silent ho.tablePlacement).append (hline.append
    ((layout (by decide)).behind (before ?_ hline))))
  exact enclosed (by decide) (hcolumns.append (hline.append (hrule.append (hhead.append
    (hend.append (hrule.append (hbody.append (hend.append hrule))))))))

end Shows

/-- What is written of a node below a document shows the outline of that node. -/
theorem shows_render {o : RenderOptions} (ho : SilentOptions o) {t : Node}
    (h : NoForeignCommands t) {n : Node} (hn : n ∈ t.nodes) : Shows (render o n) (outline o n) := by
  induction n with
  | text content => exact Shows.literal ho content
  | element kind tag attrs children ih =>
      have hbelow : ∀ x, (∃ c ∈ children, x ∈ c.nodes) → x ∈ t.nodes :=
        fun _ hx => Node.mem_nodes_of_inside hn hx
      have hchildren : ∀ c ∈ children, Shows (render o c) (outline o c) := by
        intro c hc
        exact ih c hc (hbelow c ⟨c, hc, c.mem_nodes_self⟩)
      have hflat : Shows (renderEach o.dollars o children).flatten
          (children.flatMap (outline o)) := by
        rw [renderEach_eq_map]
        exact Shows.flatten_map hchildren
      have hline : Shows (Text.ofString "\n") [] := Shows.layout (by decide)
      cases kind with
      | heading1 => exact Shows.heading ho .heading1 rfl _
      | heading2 => exact Shows.heading ho .heading2 rfl _
      | heading3 => exact Shows.heading ho .heading3 rfl _
      | heading4 => exact Shows.heading ho .heading4 rfl _
      | inlineCode => exact Shows.command (by decide) (Shows.literal ho _)
      | unorderedList | orderedList =>
          rw [outline_eq_of_reachedEach rfl rfl, ← flatMap_outline_filter]
          apply Shows.environment (by decide)
          rw [renderedItems_eq_map]
          apply Shows.join_map hline
          intro c hc
          exact hchildren c (List.mem_of_mem_filter hc)
      | listItem =>
          rw [outline_eq_of_reachedEach rfl rfl]
          exact (Shows.layout (by decide)).behind hflat
      | paragraph =>
          rw [outline_eq_of_reachedEach rfl rfl]
          exact hflat.before (hline.append hline)
      | bold | italic =>
          rw [outline_eq_of_reachedEach rfl rfl]
          exact Shows.command (by decide) hflat
      | tableRow | tableCell | generic =>
          rw [outline_eq_of_reachedEach rfl rfl]
          exact hflat
      | image => exact Shows.figure ho (h.path _ hn rfl)
      | link =>
          have htarget : Shows (command "href" (Attributes.get attrs "href" [])) [] :=
            Shows.command (by decide) (Shows.of_notMem (h.target _ hn rfl))
          rw [outline_link]
          refine htarget.behind (Shows.braced ?_)
          split
          next hempty =>
            have hnone : (Node.element .link tag attrs children).findAll .image = [] :=
              List.isEmpty_iff.mp hempty
            rw [hnone]
            exact Shows.literal ho _
          next =>
            apply Shows.join_map hline
            intro image himage
            obtain ⟨hmem, hkind⟩ := Node.mem_findAll_element.mp himage
            exact Shows.figure ho (h.path image (hbelow image hmem) hkind)
      | table =>
          apply Shows.tableFloat ho
          intro row hrow cell hcell
          obtain ⟨tableRow, _, rfl⟩ := List.mem_map.mp hrow
          obtain ⟨tableCell, _, rfl⟩ := List.mem_map.mp hcell
          exact Shows.literal ho _
      | codeBlock =>
          have hcode := h.code _ hn rfl
          exact Shows.environment (by decide) (Shows.of_notMem hcode)
      | mathInline =>
          have hmath := h.inlineMath _ hn rfl
          exact ((Shows.of_silent (by decide)).append (Shows.of_notMem hmath)).append
            (Shows.of_silent (by decide))
      | mathBlock =>
          have hmath := h.displayMath _ hn rfl
          exact ((Shows.of_silent (by decide)).append (Shows.of_notMem hmath)).append
            (Shows.of_silent (by decide))

/-- The commands of headings and images in the LaTeX of a document are, from left to right, those of
the headings and images that are reached in it, in document order, each with its own title or path.
-/
theorem outlinePlaces_render (restore : Bool) {t : Node} (h : NoForeignCommands t) :
    List.Forall₂ (· <+: ·) (outline { restoreMath := restore } t)
      (outlinePlaces (render { restoreMath := restore } t)) := by
  obtain ⟨places, hplaces, hcommands⟩ :=
    shows_render (silentOptions_default restore) h t.mem_nodes_self []
  have hall : outlinePlaces (render { restoreMath := restore } t) = places := by
    rw [List.append_nil] at hplaces
    rw [hplaces]
    exact List.append_nil places
  rw [hall]
  exact hcommands

/-- A link in an item of a list, with a heading and with an image in a list of its own. -/
def pictureLink : Node :=
  .ofKind .link
    [.ofKind .heading1 [.text (Text.ofString "lost")] [],
     .ofKind .unorderedList [.ofKind .listItem
      [.ofKind .image [] [("src", some (Text.ofString "p.png")),
        ("alt", some (Text.ofString "\\chapter\x7b"))]] []] []]
    [("href", some (Text.ofString "u"))]

/-- A document that has commands in its text, and a heading behind the link. -/
def pictureOutline : Node :=
  .generic "document"
    [.ofKind .paragraph [.text (Text.ofString "\\section\x7ba\x7d")] [],
     .ofKind .orderedList [.ofKind .listItem [pictureLink] []] [],
     .ofKind .heading2
      [.text (Text.ofString " \\"), .ofKind .bold [.text (Text.ofString "chapter\x7b")] []] []]

theorem outlinePlaces_pictureOutline : NoForeignCommands pictureOutline ∧
    List.Forall₂ (· <+: ·)
      [graphics {} (Text.ofString "p.png"),
       Text.ofString "\\section\x7b\\textbackslash\x7b\x7dchapter\x7b\x7d"]
      (outlinePlaces (render {} pictureOutline)) := by
  have hplain : NoForeignCommands pictureOutline := by decide +kernel
  have houtline : outline {} pictureOutline =
      [graphics {} (Text.ofString "p.png"),
       Text.ofString "\\section\x7b\\textbackslash\x7b\x7dchapter\x7b\x7d"] := by
    decide +kernel
  have hcommands := outlinePlaces_render true hplain
  rw [houtline] at hcommands
  exact ⟨hplain, hcommands⟩

end MarkTex.Latex
