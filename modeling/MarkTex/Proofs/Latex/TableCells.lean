import MarkTex.Proofs.Latex.Composition
import MarkTex.Proofs.Latex.Unescape

/-!
# The cells of a written table

A table is written line by line, its cells apart by ampersands and its lines closed by two
backslashes. Cells may hold these characters too, but only escaped: a bare ampersand and two
backslashes in a row begin no replacement, and so they end the cell before them. The lines of a
table are therefore cut in one way only, and tables are written alike just if their cells hold the
same texts: `render_table_eq_iff`.
-/

namespace MarkTex.Latex

/-! ## Lines of cells -/

/-- A cell with the blank behind it. -/
def padded (cell : Text) : Text := escape (cell ++ Text.ofString " ")

/-- What follows the first cell of a row on its line. -/
def behindCell : List Text → Text
  | [] => Text.ofString "\\\\\n"
  | cell :: cells => Text.ofString "& " ++ (padded cell ++ behindCell cells)

/-- The line of a row. -/
def rowLine (row : List Text) : Text := padded (row.headD []) ++ behindCell row.tail

theorem rowLine_eq (row : List Text) :
    rowLine row = Text.join (Text.ofString " & ") (row.map escape) ++ Text.ofString " \\\\\n" := by
  have hblank : ∀ cell, padded cell = escape cell ++ Text.ofString " " := by
    intro cell
    exact escape_append cell (Text.ofString " ")
  induction row with
  | nil => rfl
  | cons cell row ih =>
      cases row with
      | nil => simp [rowLine, behindCell, hblank, Text.join, Text.ofString, Text.ofChars]
      | cons cell' row =>
          have hsplit : rowLine (cell :: cell' :: row) =
              escape cell ++ Text.ofString " & " ++ rowLine (cell' :: row) := by
            simp [rowLine, behindCell, hblank, Text.ofString, Text.ofChars]
          rw [hsplit, ih]
          simp [Text.join]

theorem stopsReading_behindCell (cells : List Text) (rest : Text) :
    StopsReading (behindCell cells ++ rest) := by
  cases cells with
  | nil => exact stopsReading_of_special (by decide) rfl
  | cons cell cells => exact stopsReading_of_special (by decide) rfl

theorem padded_append_cancel {cell cell' : Text} {cells cells' : List Text} {a b : Text}
    (h : padded cell ++ (behindCell cells ++ a) = padded cell' ++ (behindCell cells' ++ b)) :
    cell = cell' ∧ behindCell cells ++ a = behindCell cells' ++ b := by
  obtain ⟨hcell, hrest⟩ := escape_append_cancel (stopsReading_behindCell cells a)
    (stopsReading_behindCell cells' b) h
  exact ⟨List.append_cancel_right hcell, hrest⟩

theorem behindCell_append_cancel {cells cells' : List Text} {a b : Text}
    (h : behindCell cells ++ a = behindCell cells' ++ b) : cells = cells' ∧ a = b := by
  induction cells generalizing cells' with
  | nil =>
      cases cells' with
      | nil => exact ⟨rfl, List.append_cancel_left h⟩
      -- the end of a line and a separator are told by their first character
      | cons cell' cells' => exact absurd (List.cons.inj h).1 (by decide)
  | cons cell cells ih =>
      cases cells' with
      | nil => exact absurd (List.cons.inj h).1 (by decide)
      | cons cell' cells' =>
          simp only [behindCell, List.append_assoc] at h
          obtain ⟨rfl, hrest⟩ := padded_append_cancel (List.append_cancel_left h)
          obtain ⟨rfl, hab⟩ := ih hrest
          exact ⟨rfl, hab⟩

theorem rowLine_append_cancel {row row' : List Text} (hrow : row ≠ []) (hrow' : row' ≠ [])
    {a b : Text} (h : rowLine row ++ a = rowLine row' ++ b) : row = row' ∧ a = b := by
  obtain ⟨cell, cells, rfl⟩ := List.exists_cons_of_ne_nil hrow
  obtain ⟨cell', cells', rfl⟩ := List.exists_cons_of_ne_nil hrow'
  simp only [rowLine, List.append_assoc] at h
  obtain ⟨rfl, hbehind⟩ := padded_append_cancel h
  obtain ⟨rfl, hab⟩ := behindCell_append_cancel hbehind
  exact ⟨rfl, hab⟩

/-! ## The lines of a table -/

/-- What opens a table, up to its columns. -/
def tableStart (o : RenderOptions) : Text :=
  command "begin" (Text.ofString "table") ++ bracketed o.tablePlacement ++
    Text.ofString "\n\\centering\n" ++ command "begin" (Text.ofString "tabular") ++
      Text.ofString "\x7b"

/-- What closes a table, behind its last line. -/
def tableEnd : Text :=
  Text.ofString "\\hline\n" ++ (command "end" (Text.ofString "tabular") ++ (Text.ofString "\n" ++
    command "end" (Text.ofString "table")))

/-- The rows that the lines of a body show: a body without rows is written as one empty cell. -/
def bodyRows (rows : List (List Text)) : List (List Text) := if rows.isEmpty then [[[]]] else rows

theorem join_append_eq_flatMap {separator : Text} {f : List Text → Text} {rows : List (List Text)}
    (hrows : rows ≠ []) :
    Text.join separator (rows.map f) ++ separator = rows.flatMap fun row => f row ++ separator := by
  induction rows with
  | nil => exact absurd rfl hrows
  | cons row rows ih =>
      cases rows with
      | nil => simp [Text.join]
      | cons row' rows =>
          rw [List.flatMap_cons, ← ih (List.cons_ne_nil row' rows)]
          simp [Text.join]

theorem flatMap_rowLine_bodyRows (rows : List (List Text)) :
    (bodyRows rows).flatMap rowLine =
      Text.join (Text.ofString " \\\\\n")
        ((rows.map (·.map escape)).map (Text.join (Text.ofString " & "))) ++
      Text.ofString " \\\\\n" := by
  have hline : rowLine = fun row =>
      Text.join (Text.ofString " & ") (row.map escape) ++ Text.ofString " \\\\\n" := by
    funext row
    exact rowLine_eq row
  rw [bodyRows]
  split
  next hempty =>
    rw [List.isEmpty_iff.mp hempty]
    rfl
  next hempty =>
    have hrows : rows ≠ [] := by simpa using hempty
    rw [hline, ← join_append_eq_flatMap hrows, List.map_map]
    rfl

theorem tableFloat_eq_lines (o : RenderOptions) (head : List Text) (rows : List (List Text)) :
    tableFloat o ((head :: rows).map (·.map escape)) = tableStart o ++
      ((List.replicate head.length o.columnSpec).flatten ++ Text.ofString "\x7d" ++ .scalar '\n' ::
        (Text.ofString "\\hline\n" ++ (rowLine head ++ (Text.ofString "\\hline\n" ++
          ((bodyRows rows).flatMap rowLine ++ tableEnd))))) := by
  rw [flatMap_rowLine_bodyRows, rowLine_eq]
  simp [tableFloat, tableStart, tableEnd, lines, Text.join, command, braced, Text.ofString,
    Text.ofChars]

theorem tableEnd_ne_rowLine (row : List Text) (rest : Text) : tableEnd ≠ rowLine row ++ rest := by
  intro h
  have hstops : StopsReading tableEnd := stopsReading_of_special (by decide) rfl
  rw [rowLine, List.append_assoc, ← List.nil_append tableEnd] at h
  -- a line begins with a cell, which has at least the blank behind it
  obtain ⟨hcell, _⟩ := escape_append_cancel (s := []) hstops (stopsReading_behindCell _ _) h
  exact absurd (List.append_eq_nil_iff.mp hcell.symm).2 (by decide)

theorem rowLines_cancel {rows rows' : List (List Text)} (hrows : ∀ row ∈ rows, row ≠ [])
    (hrows' : ∀ row ∈ rows', row ≠ [])
    (h : rows.flatMap rowLine ++ tableEnd = rows'.flatMap rowLine ++ tableEnd) : rows = rows' := by
  induction rows generalizing rows' with
  | nil =>
      cases rows' with
      | nil => rfl
      | cons row' rows' =>
          rw [List.flatMap_nil, List.nil_append, List.flatMap_cons, List.append_assoc] at h
          exact absurd h (tableEnd_ne_rowLine row' _)
  | cons row rows ih =>
      cases rows' with
      | nil =>
          rw [List.flatMap_nil, List.nil_append, List.flatMap_cons, List.append_assoc] at h
          exact absurd h.symm (tableEnd_ne_rowLine row _)
      | cons row' rows' =>
          obtain ⟨hrow, hbelow⟩ := List.forall_mem_cons.mp hrows
          obtain ⟨hrow', hbelow'⟩ := List.forall_mem_cons.mp hrows'
          rw [List.flatMap_cons, List.flatMap_cons, List.append_assoc, List.append_assoc] at h
          obtain ⟨rfl, hrest⟩ := rowLine_append_cancel hrow hrow' h
          rw [ih hbelow hbelow' hrest]

/-! ## Tables with many cells -/

/-- There is a row, and every row has at least two cells. -/
def ManyCelled (rows : List (List Text)) : Prop := rows ≠ [] ∧ ∀ row ∈ rows, 2 ≤ row.length

instance (rows : List (List Text)) : Decidable (ManyCelled rows) :=
  inferInstanceAs (Decidable (_ ∧ _))

theorem ne_nil_of_mem_bodyRows {rows : List (List Text)} (h : ∀ row ∈ rows, 2 ≤ row.length) :
    ∀ row ∈ bodyRows rows, row ≠ [] := by
  intro row hrow
  rw [bodyRows] at hrow
  split at hrow
  · rw [List.mem_singleton.mp hrow]
    exact List.cons_ne_nil _ _
  · have hlength := h row hrow
    rintro rfl
    exact absurd hlength (by decide)

theorem eq_of_bodyRows_eq {rows rows' : List (List Text)} (hrows : ∀ row ∈ rows, 2 ≤ row.length)
    (hrows' : ∀ row ∈ rows', 2 ≤ row.length) (h : bodyRows rows = bodyRows rows') :
    rows = rows' := by
  have hshort : ∀ rows : List (List Text), (∀ row ∈ rows, 2 ≤ row.length) → rows ≠ [[[]]] := by
    rintro rows hrows rfl
    exact absurd (hrows _ List.mem_cons_self) (by decide)
  unfold bodyRows at h
  split at h <;> split at h
  next hempty hempty' => rw [List.isEmpty_iff.mp hempty, List.isEmpty_iff.mp hempty']
  next => exact absurd h.symm (hshort rows' hrows')
  next => exact absurd h (hshort rows hrows)
  next => exact h

/-- Where two texts have one character each that they are cut at, and nothing before it, what is
behind it is the same. -/
theorem behind_cut {α : Type} {a b x y : List α} {d : α} (ha : d ∉ a) (hb : d ∉ b)
    (h : a ++ d :: x = b ++ d :: y) : x = y := by
  induction a generalizing b with
  | nil =>
      cases b with
      | nil => exact (List.cons.inj h).2
      | cons c b => exact absurd ((List.cons.inj h).1 ▸ List.mem_cons_self) hb
  | cons c a ih =>
      cases b with
      | nil => exact absurd ((List.cons.inj h).1 ▸ List.mem_cons_self) ha
      | cons c' b =>
          exact ih (List.not_mem_of_not_mem_cons ha) (List.not_mem_of_not_mem_cons hb)
            (List.cons.inj h).2

/-- The lines of a table give back the texts of its cells. -/
theorem tableFloat_cancel {o : RenderOptions} (hcolumns : .scalar '\n' ∉ o.columnSpec)
    {rows rows' : List (List Text)} (hrows : ManyCelled rows) (hrows' : ManyCelled rows')
    (h : tableFloat o (rows.map (·.map escape)) = tableFloat o (rows'.map (·.map escape))) :
    rows = rows' := by
  obtain ⟨head, rows, rfl⟩ := List.exists_cons_of_ne_nil hrows.1
  obtain ⟨head', rows', rfl⟩ := List.exists_cons_of_ne_nil hrows'.1
  obtain ⟨hhead, hbody⟩ := List.forall_mem_cons.mp hrows.2
  obtain ⟨hhead', hbody'⟩ := List.forall_mem_cons.mp hrows'.2
  have hne : ∀ row : List Text, 2 ≤ row.length → row ≠ [] := by
    rintro row hlength rfl
    exact absurd hlength (by decide)
  have hspec : ∀ count, .scalar '\n' ∉
      (List.replicate count o.columnSpec).flatten ++ Text.ofString "\x7d" := by
    intro count hmem
    rcases List.mem_append.mp hmem with hmem | hmem
    · exact hcolumns (mem_of_mem_columns hmem)
    · exact absurd hmem (by decide)
  rw [tableFloat_eq_lines, tableFloat_eq_lines] at h
  -- the columns end with their line, whatever their number is
  have hlines := behind_cut (hspec _) (hspec _) (List.append_cancel_left h)
  obtain ⟨rfl, hrest⟩ := rowLine_append_cancel (hne head hhead) (hne head' hhead')
    (List.append_cancel_left hlines)
  have hbodies := rowLines_cancel (ne_nil_of_mem_bodyRows hbody) (ne_nil_of_mem_bodyRows hbody')
    (List.append_cancel_left hrest)
  rw [eq_of_bodyRows_eq hbody hbody' hbodies]

/-! ## Written tables -/

/-- The texts of the cells of a table, trimmed, row by row. -/
def cellTexts (t : Node) : List (List Text) :=
  (t.findAll .tableRow).map fun row => row.elementChildren.map fun cell => cell.textContent.trim

theorem render_table {o : RenderOptions} (hescape : o.escapeSpecial = true) {t : Node}
    (ht : t.isOfKind .table) : render o t = tableFloat o ((cellTexts t).map (·.map escape)) := by
  obtain ⟨tag, attrs, children, rfl⟩ := Node.exists_eq_element ht
  have hcontent : o.dollars.content = fun n => escape n.textContent.trim := by
    funext n
    simp only [Marking.content, RenderOptions.dollars, RenderOptions.escape, hescape, if_true]
  have hrows : tableRows o.dollars (.element .table "table" attrs children) =
      (cellTexts (.element .table tag attrs children)).map (·.map escape) := by
    simp only [tableRows, cellTexts, Node.findAll, Node.descendants, hcontent, List.map_map,
      Function.comp_def]
  rw [← hrows]
  rfl

/-- With special characters escaped, two tables with many cells are written alike just if their
cells hold the same texts, row by row: no content of cells is taken for the boundary of a cell or of
a row. -/
theorem render_table_eq_iff {o : RenderOptions} (hescape : o.escapeSpecial = true)
    (hcolumns : .scalar '\n' ∉ o.columnSpec) {t u : Node} (ht : t.isOfKind .table)
    (hu : u.isOfKind .table) (hcells : ManyCelled (cellTexts t))
    (hcells' : ManyCelled (cellTexts u)) : render o t = render o u ↔ cellTexts t = cellTexts u := by
  rw [render_table hescape ht, render_table hescape hu]
  constructor
  · exact tableFloat_cancel hcolumns hcells hcells'
  · intro hsame
    rw [hsame]

/-- A table of one row, with a text in each cell. -/
def rowTable (cells : List String) : Node :=
  .ofKind .table [.ofKind .tableRow (cells.map fun cell =>
    .ofKind .tableCell [.text (Text.ofString cell)] []) []] []

/-- A separator that stands in a cell is not taken for one between cells. -/
theorem rowTable_separators :
    render {} (rowTable ["a & b", "c"]) ≠ render {} (rowTable ["a", "b & c"]) := by
  intro hsame
  have hcells := (render_table_eq_iff rfl (by decide) rfl rfl (by decide) (by decide)).mp hsame
  exact absurd hcells (by decide)

end MarkTex.Latex
