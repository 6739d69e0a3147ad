import MarkTex.Latex.Render
import Mathlib.Data.List.Basic

/-!
# What the writer keeps

The LaTeX of a document is put together from a few constructions: texts one after the other,
arguments of commands, environments and fixed pieces of layout. A relation between texts that these
constructions keep relates the LaTeX of a document under two markings as soon as it relates what the
document itself brings in: its literal texts, math, code, targets and paths, and the options.
`Compositional.renderWith` is the one induction over documents; a property of texts is a relation
that looks at one side only.
-/

namespace MarkTex.Latex

/-- The commands around a text that comes from the document. -/
def commandNames : List String :=
  ["chapter", "section", "subsection", "subsubsection", "textbf", "textit", "texttt", "label"]

/-- The environments around LaTeX of the writer's own. -/
def environmentNames : List String := ["itemize", "enumerate", "figure", "table", "tabular"]

/-- The pieces of layout between the parts of the LaTeX. The separator of cells is not among them:
it stands in tables only. -/
def layoutTexts : List Text :=
  [Text.ofString "\n", Text.ofString "\\item ", Text.ofString "\\centering\n",
   Text.ofString "\\hline\n", Text.ofString " \\\\\n"]

/-- A relation between texts that the constructions of the writer keep. -/
structure Compositional (R : Text → Text → Prop) : Prop where
  nil : R [] []
  append {a a' b b' : Text} : R a a' → R b b' → R (a ++ b) (a' ++ b')
  layout {t : Text} : t ∈ layoutTexts → R t t
  braced {a a' : Text} : R a a' → R (braced a) (braced a')
  command {name : String} {a a' : Text} :
    name ∈ commandNames → R a a' → R (command name a) (command name a')
  enclosed {name : String} {a a' : Text} :
    name ∈ environmentNames → R a a' → R (enclosed name a) (enclosed name a')

/-- What a relation has to hold of for the LaTeX of a tree under two markings to be related. -/
structure Agreement (R : Text → Text → Prop) (m m' : Marking) (o : RenderOptions) (t : Node) :
    Prop where
  leaf : ∀ content, Node.text content ∈ t.nodes → R (m.literal content) (m'.literal content)
  content : ∀ n ∈ t.nodes, R (m.content n) (m'.content n)
  inlineMath : ∀ n ∈ t.nodes, n.isOfKind .mathInline →
    R (m.inlineMath n.textContent) (m'.inlineMath n.textContent)
  displayMath : ∀ n ∈ t.nodes, n.isOfKind .mathBlock →
    R (m.displayMath n.textContent) (m'.displayMath n.textContent)
  code : ∀ n ∈ t.nodes, n.isOfKind .codeBlock →
    R (environment "verbatim" n.textContent) (environment "verbatim" n.textContent)
  target : ∀ n ∈ t.nodes, n.isOfKind .link →
    R (command "href" (n.attributes.get "href" [])) (command "href" (n.attributes.get "href" []))
  graphics : ∀ n ∈ t.nodes, n.isOfKind .image →
    R (graphics o (n.attributes.get "src" [])) (graphics o (n.attributes.get "src" []))
  description : ∀ n ∈ t.nodes, n.isOfKind .image →
    R (m.literal (n.attributes.get "alt" [])) (m'.literal (n.attributes.get "alt" []))
  separator : ∀ n ∈ t.nodes, n.isOfKind .table → R (Text.ofString " & ") (Text.ofString " & ")
  columns : ∀ count, R (braced (List.replicate count o.columnSpec).flatten)
    (braced (List.replicate count o.columnSpec).flatten)
  figurePlacement : R (bracketed o.figurePlacement) (bracketed o.figurePlacement)
  tablePlacement : R (bracketed o.tablePlacement) (bracketed o.tablePlacement)

/-! ## Figures and tables as nested constructions -/

theorem mem_of_mem_columns {c : CodePoint} {column : Text} {count : Nat}
    (h : c ∈ (List.replicate count column).flatten) : c ∈ column := by
  obtain ⟨copy, hcopy, hmem⟩ := List.mem_flatten.mp h
  exact List.eq_of_mem_replicate hcopy ▸ hmem

theorem figure_eq (m : Marking) (o : RenderOptions) (attrs : Attributes) :
    figure m o attrs = enclosed "figure" (bracketed o.figurePlacement ++ (Text.ofString "\n" ++
      (Text.ofString "\\centering\n" ++ (graphics o (attrs.get "src" []) ++ (Text.ofString "\n" ++
        if (attrs.get "alt" []).isEmpty then []
        else command "label" (m.literal (attrs.get "alt" [])) ++ Text.ofString "\n"))))) := by
  simp only [figure]
  split <;> simp [lines, Text.join, enclosed, Text.ofString, Text.ofChars]

theorem tableFloat_eq (o : RenderOptions) (rows : List (List Text)) :
    tableFloat o rows = enclosed "table" (bracketed o.tablePlacement ++ (Text.ofString "\n" ++
      (Text.ofString "\\centering\n" ++ (enclosed "tabular"
        (braced (List.replicate (rows.headD []).length o.columnSpec).flatten ++
          (Text.ofString "\n" ++ (Text.ofString "\\hline\n" ++
            (Text.join (Text.ofString " & ") (rows.headD []) ++ (Text.ofString " \\\\\n" ++
              (Text.ofString "\\hline\n" ++
                (Text.join (Text.ofString " \\\\\n")
                    (rows.tail.map (Text.join (Text.ofString " & "))) ++
                  (Text.ofString " \\\\\n" ++ Text.ofString "\\hline\n")))))))) ++
        Text.ofString "\n")))) := by
  simp [tableFloat, lines, Text.join, enclosed, Text.ofString, Text.ofChars]

/-- The lines of a list are the LaTeX of the elements in it. -/
theorem renderedItems_eq_map (m : Marking) (o : RenderOptions) (ns : List Node) :
    ((ns.zip (renderEach m o ns)).filter (·.1.isElement)).map (·.2) =
      (ns.filter Node.isElement).map (renderWith m o) := by
  induction ns with
  | nil => rfl
  | cons n ns ih =>
      simp only [renderEach, List.zip_cons_cons, List.filter_cons]
      split
      · rw [List.map_cons, List.map_cons, ih]
      · exact ih

theorem tableRows_eq_map (m : Marking) (n : Node) :
    tableRows m n = ((n.findAll .tableRow).map Node.elementChildren).map (·.map m.content) := by
  rw [tableRows, List.map_map]
  rfl

/-! ## What stands in a construction -/

theorem infix_braced (t : Text) : t <:+: braced t :=
  ⟨Text.ofString "\x7b", Text.ofString "\x7d", rfl⟩

theorem infix_command (name : String) (t : Text) : t <:+: command name t :=
  (infix_braced t).trans (List.suffix_append _ _).isInfix

theorem infix_enclosed (name : String) (t : Text) : t <:+: enclosed name t := ⟨_, _, rfl⟩

theorem infix_environment (name : String) (t : Text) : t <:+: environment name t := by
  have hbody : t <:+: Text.ofString "\n" ++ t ++ Text.ofString "\n" := ⟨_, _, rfl⟩
  exact hbody.trans (infix_enclosed name _)

theorem infix_join {separator t : Text} {ts : List Text} (h : t ∈ ts) :
    t <:+: Text.join separator ts := by
  induction ts with
  | nil => cases h
  | cons t' ts ih =>
      cases ts with
      | nil => exact List.mem_singleton.mp h ▸ List.infix_refl _
      | cons t'' ts =>
          rcases List.mem_cons.mp h with rfl | h
          · exact ⟨[], separator ++ Text.join separator (t'' :: ts), by simp [Text.join]⟩
          · exact (ih h).trans (List.suffix_append _ _).isInfix

namespace Compositional

variable {R : Text → Text → Prop} {m m' : Marking} {o : RenderOptions} {t : Node}

/-! ## Sequences -/

theorem flatten_map (h : Compositional R) {α : Type} {f g : α → Text} {xs : List α}
    (hxs : ∀ x ∈ xs, R (f x) (g x)) : R (xs.map f).flatten (xs.map g).flatten := by
  induction xs with
  | nil => exact h.nil
  | cons x xs ih =>
      obtain ⟨hx, hxs⟩ := List.forall_mem_cons.mp hxs
      exact h.append hx (ih hxs)

theorem join_map (h : Compositional R) {separator : Text} (hseparator : R separator separator)
    {α : Type} {f g : α → Text} {xs : List α} (hxs : ∀ x ∈ xs, R (f x) (g x)) :
    R (Text.join separator (xs.map f)) (Text.join separator (xs.map g)) := by
  induction xs with
  | nil => exact h.nil
  | cons x xs ih =>
      obtain ⟨hx, hxs⟩ := List.forall_mem_cons.mp hxs
      cases xs with
      | nil => exact hx
      | cons y ys => exact h.append (h.append hx hseparator) (ih hxs)

/-- Tables are related if their cells are. The separator is asked for whatever the rows are, though
a row of one cell does without it. -/
theorem tableFloat (h : Compositional R) (hcolumns : ∀ count,
      R (Latex.braced (List.replicate count o.columnSpec).flatten)
        (Latex.braced (List.replicate count o.columnSpec).flatten))
    (hplacement : R (bracketed o.tablePlacement) (bracketed o.tablePlacement))
    (hseparator : R (Text.ofString " & ") (Text.ofString " & ")) {rows : List (List Node)}
    {f g : Node → Text} (hcells : ∀ row ∈ rows, ∀ cell ∈ row, R (f cell) (g cell)) :
    R (Latex.tableFloat o (rows.map (·.map f))) (Latex.tableFloat o (rows.map (·.map g))) := by
  have hrow : ∀ row ∈ rows, R (Text.join (Text.ofString " & ") (row.map f))
      (Text.join (Text.ofString " & ") (row.map g)) :=
    fun row hrow => h.join_map hseparator (hcells row hrow)
  have hline := h.layout (t := Text.ofString "\n") (by decide)
  have hrule := h.layout (t := Text.ofString "\\hline\n") (by decide)
  have hend := h.layout (t := Text.ofString " \\\\\n") (by decide)
  rw [tableFloat_eq, tableFloat_eq]
  have hhead : R (Text.join (Text.ofString " & ") ((rows.map (·.map f)).headD []))
      (Text.join (Text.ofString " & ") ((rows.map (·.map g)).headD [])) := by
    cases rows with
    | nil => exact h.nil
    | cons row rows => exact hrow row List.mem_cons_self
  have hbody : R
      (Text.join (Text.ofString " \\\\\n")
        ((rows.map (·.map f)).tail.map (Text.join (Text.ofString " & "))))
      (Text.join (Text.ofString " \\\\\n")
        ((rows.map (·.map g)).tail.map (Text.join (Text.ofString " & ")))) := by
    rw [← List.map_tail, ← List.map_tail, List.map_map, List.map_map]
    exact h.join_map hend fun row hmem => hrow row (List.mem_of_mem_tail hmem)
  have hcount :
      ((rows.map (·.map f)).headD []).length = ((rows.map (·.map g)).headD []).length := by
    cases rows <;> simp
  rw [hcount]
  refine h.enclosed (by decide) (h.append hplacement (h.append hline
    (h.append (h.layout (by decide)) (h.append ?_ hline))))
  exact h.enclosed (by decide) (h.append (hcolumns _) (h.append hline (h.append hrule
    (h.append hhead (h.append hend (h.append hrule (h.append hbody (h.append hend hrule))))))))

theorem figure (h : Compositional R) (ha : Agreement R m m' o t) {image : Node}
    (himage : image ∈ t.nodes) (hkind : image.isOfKind .image) :
    R (Latex.figure m o image.attributes) (Latex.figure m' o image.attributes) := by
  have hline := h.layout (t := Text.ofString "\n") (by decide)
  rw [figure_eq, figure_eq]
  refine h.enclosed (by decide) (h.append ha.figurePlacement (h.append hline
    (h.append (h.layout (by decide)) (h.append (ha.graphics image himage hkind)
      (h.append hline ?_)))))
  split
  · exact h.nil
  · exact h.append (h.command (by decide) (ha.description image himage hkind)) hline

/-! ## Documents -/

theorem renderEach_flatten (h : Compositional R) {ns : List Node}
    (hns : ∀ n ∈ ns, R (Latex.renderWith m o n) (Latex.renderWith m' o n)) :
    R (renderEach m o ns).flatten (renderEach m' o ns).flatten := by
  rw [renderEach_eq_map, renderEach_eq_map]
  exact h.flatten_map hns

theorem list (h : Compositional R) {ns : List Node} {name : String}
    (hname : name ∈ environmentNames)
    (hns : ∀ n ∈ ns, R (Latex.renderWith m o n) (Latex.renderWith m' o n)) :
    R (environment name (lines (((ns.zip (renderEach m o ns)).filter (·.1.isElement)).map (·.2))))
      (environment name
        (lines (((ns.zip (renderEach m' o ns)).filter (·.1.isElement)).map (·.2)))) := by
  have hline := h.layout (t := Text.ofString "\n") (by decide)
  rw [renderedItems_eq_map, renderedItems_eq_map]
  refine h.enclosed hname (h.append (h.append hline ?_) hline)
  exact h.join_map hline fun n hn => hns n (List.mem_of_mem_filter hn)

theorem renderWith_of_mem (h : Compositional R) (ha : Agreement R m m' o t) {n : Node}
    (hn : n ∈ t.nodes) : R (Latex.renderWith m o n) (Latex.renderWith m' o n) := by
  induction n with
  | text content => exact ha.leaf content hn
  | element kind tag attrs children ih =>
      have hbelow : ∀ x, (∃ c ∈ children, x ∈ c.nodes) → x ∈ t.nodes :=
        fun _ hx => Node.mem_nodes_of_inside hn hx
      have hchildren : ∀ c ∈ children, R (Latex.renderWith m o c) (Latex.renderWith m' o c) :=
        fun c hc => ih c hc (hbelow c ⟨c, hc, c.mem_nodes_self⟩)
      have hflat := h.renderEach_flatten hchildren
      have hcontent := ha.content _ hn
      have hline := h.layout (t := Text.ofString "\n") (by decide)
      cases kind with
      | heading1 | heading2 | heading3 | heading4 | inlineCode =>
          exact h.command (by decide) hcontent
      | unorderedList | orderedList => exact h.list (by decide) hchildren
      | listItem => exact h.append (h.layout (by decide)) hflat
      | paragraph => exact h.append hflat (h.append hline hline)
      | bold | italic => exact h.command (by decide) hflat
      | link =>
          refine h.append (ha.target _ hn rfl) (h.braced ?_)
          -- the images of a link lie anywhere below it, and their figures are written once more
          split
          · exact hcontent
          · refine h.join_map hline fun image himage => ?_
            obtain ⟨hmem, hkind⟩ := Node.mem_findAll_element.mp himage
            exact h.figure ha (hbelow image hmem) hkind
      | image =>
          have hfigure := h.figure ha hn rfl
          exact hfigure
      | table =>
          change R (Latex.tableFloat o (tableRows m _)) (Latex.tableFloat o (tableRows m' _))
          rw [tableRows_eq_map, tableRows_eq_map]
          refine h.tableFloat ha.columns ha.tablePlacement (ha.separator _ hn rfl) ?_
          intro cells hcells cell hcell
          obtain ⟨row, hrow, rfl⟩ := List.mem_map.mp hcells
          have hmem := hbelow row (Node.mem_findAll_element.mp hrow).1
          exact ha.content cell (Node.nodes_subset hmem
            (Node.mem_nodes_of_mem_children (List.mem_of_mem_filter hcell)))
      | codeBlock =>
          have hcode := ha.code _ hn rfl
          exact hcode
      | mathInline =>
          have hmath := ha.inlineMath _ hn rfl
          exact hmath
      | mathBlock =>
          have hmath := ha.displayMath _ hn rfl
          exact hmath
      | tableRow | tableCell | generic => exact hflat

/-- The LaTeX of a document under two markings is related if the parts that the document brings in
are. -/
theorem renderWith (h : Compositional R) (ha : Agreement R m m' o t) :
    R (Latex.renderWith m o t) (Latex.renderWith m' o t) :=
  h.renderWith_of_mem ha t.mem_nodes_self

end Compositional

end MarkTex.Latex
