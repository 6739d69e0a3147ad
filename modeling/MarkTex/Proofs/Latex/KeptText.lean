import Mathlib.Data.List.Forall2
import MarkTex.Proofs.Latex.Composition
import MarkTex.Proofs.Latex.Escape

/-!
# Text that is kept

A rendered node shows text of its leaves: every character that is not blank, in order, each as it
stands or with its replacement. `keptText` is the text that is shown in this way. It is not the text
of all leaves: what stands directly in a list or in a row of a table is left out, and so is the text
of a link that has images in it.
-/

namespace MarkTex

/-- The code points of a text that are not blank. -/
def Text.nonblank (t : Text) : Text := t.filter fun c => !c.isBlank

theorem Text.nonblank_trim (t : Text) : t.trim.nonblank = t.nonblank := by
  obtain ⟨a, b, heq, ha, hb⟩ := exists_eq_append_trimEnds CodePoint.isBlank t
  have hblank : ∀ part : Text, (∀ c ∈ part, c.isBlank) → part.nonblank = [] :=
    fun part hpart => List.filter_eq_nil_iff.mpr fun c hc => by simp [hpart c hc]
  calc t.trim.nonblank = Text.nonblank a ++ t.trim.nonblank ++ Text.nonblank b := by
        rw [hblank a ha, hblank b hb, List.nil_append, List.append_nil]
    _ = t.nonblank := by
        rw [Text.nonblank, Text.nonblank, Text.nonblank, ← List.filter_append, ← List.filter_append,
          Text.trim, ← heq]
        rfl

namespace Latex

/-! ## Texts in which a text can be read -/

/-- A text can be read in another: its characters that are not blank stand there in their order, each
as it is or with its replacement. -/
def Legible (c t : Text) : Prop :=
  ∃ ws : List Text, List.Forall₂ (fun x w => w = [x] ∨ w = escape [x]) c.nonblank ws ∧
    ws.flatten.Sublist t

theorem flatten_sublist {α : Type} {ls ms : List (List α)} (h : ls.Sublist ms) :
    ls.flatten.Sublist ms.flatten := by
  induction h with
  | slnil => exact List.Sublist.slnil
  | cons l _ ih => exact ih.trans (List.sublist_append_right l _)
  | cons_cons l _ ih => exact ih.append_left l

theorem forall₂_of_sublist {α β : Type} {R : α → β → Prop} {xs ys : List α} {ws : List β}
    (h : List.Forall₂ R ys ws) (hxs : xs.Sublist ys) :
    ∃ vs : List β, List.Forall₂ R xs vs ∧ vs.Sublist ws := by
  induction hxs generalizing ws with
  | slnil => exact ⟨[], List.Forall₂.nil, List.nil_sublist ws⟩
  | cons y _ ih =>
      cases h with
      | cons _ hrest =>
          obtain ⟨vs, hvs, hsub⟩ := ih hrest
          exact ⟨vs, hvs, hsub.cons _⟩
  | cons_cons y _ ih =>
      cases h with
      | cons hfirst hrest =>
          obtain ⟨vs, hvs, hsub⟩ := ih hrest
          exact ⟨_ :: vs, List.Forall₂.cons hfirst hvs, hsub.cons_cons _⟩

namespace Legible

variable {c c' t t' : Text}

theorem nil (t : Text) : Legible [] t := ⟨[], List.Forall₂.nil, List.nil_sublist t⟩

theorem append (h : Legible c t) (h' : Legible c' t') : Legible (c ++ c') (t ++ t') := by
  obtain ⟨ws, hws, hsub⟩ := h
  obtain ⟨ws', hws', hsub'⟩ := h'
  refine ⟨ws ++ ws', ?_, ?_⟩
  · rw [Text.nonblank, List.filter_append]
    exact List.rel_append hws hws'
  · rw [List.flatten_append]
    exact hsub.append hsub'

theorem mono (h : Legible c t) (ht : t.Sublist t') : Legible c t' := by
  obtain ⟨ws, hws, hsub⟩ := h
  exact ⟨ws, hws, hsub.trans ht⟩

theorem of_nonblank (h : Legible c t) (hc : c'.nonblank.Sublist c.nonblank) : Legible c' t := by
  obtain ⟨ws, hws, hsub⟩ := h
  obtain ⟨vs, hvs, hvsub⟩ := forall₂_of_sublist hws hc
  exact ⟨vs, hvs, (flatten_sublist hvsub).trans hsub⟩

theorem of_sublist (h : Legible c t) (hc : c'.Sublist c) : Legible c' t :=
  h.of_nonblank (hc.filter _)

theorem flatMap {α : Type} {f g : α → Text} {xs : List α} (h : ∀ x ∈ xs, Legible (f x) (g x)) :
    Legible (xs.flatMap f) (xs.flatMap g) := by
  induction xs with
  | nil => exact nil []
  | cons x xs ih =>
      obtain ⟨hx, hxs⟩ := List.forall_mem_cons.mp h
      rw [List.flatMap_cons, List.flatMap_cons]
      exact hx.append (ih hxs)

/-- A text can be read in what comes from it when each character is kept or replaced. -/
theorem of_characters {f : CodePoint → Text} (h : ∀ x, f x = [x] ∨ f x = escape [x]) (c : Text) :
    Legible c (c.flatMap f) := by
  refine ⟨c.nonblank.map f, ?_, ?_⟩
  · rw [List.forall₂_map_right_iff, List.forall₂_same]
    exact fun x _ => h x
  · rw [List.flatMap_def]
    exact flatten_sublist (List.filter_sublist.map f)

theorem refl (c : Text) : Legible c c := by
  have hself := of_characters (f := fun x => [x]) (fun _ => Or.inl rfl) c
  simpa using hself

theorem literal (o : RenderOptions) (c : Text) : Legible c (o.escape c) := by
  unfold RenderOptions.escape
  split
  · rw [escape_eq_flatMap]
    exact of_characters (fun x => Or.inr (escape_singleton x).symm) c
  · exact refl c

theorem content (o : RenderOptions) (n : Node) : Legible n.textContent (o.dollars.content n) := by
  refine (literal o n.textContent.trim).of_nonblank ?_
  rw [Text.nonblank_trim]

theorem before (h : Legible c t) (b : Text) : Legible c (t ++ b) :=
  h.mono (List.sublist_append_left t b)

theorem after (h : Legible c t) (a : Text) : Legible c (a ++ t) :=
  h.mono (List.sublist_append_right a t)

theorem braced (h : Legible c t) : Legible c (braced t) := h.mono (infix_braced t).sublist

theorem enclosed (h : Legible c t) (name : String) : Legible c (enclosed name t) :=
  h.mono (infix_enclosed name t).sublist

theorem command (h : Legible c t) (name : String) : Legible c (command name t) :=
  h.mono (infix_command name t).sublist

theorem environment (h : Legible c t) (name : String) : Legible c (environment name t) :=
  h.mono (infix_environment name t).sublist

theorem join {α : Type} {f g : α → Text} {xs : List α} (h : ∀ x ∈ xs, Legible (f x) (g x))
    (separator : Text) : Legible (xs.flatMap f) (Text.join separator (xs.map g)) := by
  induction xs with
  | nil => exact nil []
  | cons x xs ih =>
      obtain ⟨hx, hxs⟩ := List.forall_mem_cons.mp h
      rw [List.flatMap_cons]
      cases xs with
      | nil => simpa [Text.join] using hx
      | cons y ys =>
          have hjoined := hx.append ((ih hxs).after separator)
          simpa [Text.join] using hjoined

end Legible

/-! ## The text that is kept -/

/-- The text that the LaTeX of an element under a rule keeps, given what is kept of its children. -/
def keptBy (h : Handler) (whole : Node) (kept : List Text) : Text :=
  match h with
  | .heading | .inlineCode | .codeBlock | .mathInline | .mathBlock => whole.textContent
  | .list => (((whole.children.zip kept).filter (·.1.isElement)).map (·.2)).flatten
  | .link => if (whole.findAll .image).isEmpty then whole.textContent else []
  | .image => []
  | .table =>
    (whole.findAll .tableRow).flatMap fun row => row.elementChildren.flatMap Node.textContent
  | .listItem | .paragraph | .bold | .italic | .tableRow | .tableCell | .generic => kept.flatten

mutual

/-- The text that the LaTeX of a node keeps. -/
def keptText : Node → Text
  | .text content => content
  | .element kind tag attrs children =>
    keptBy kind.handler (.element kind tag attrs children) (keptEach children)

/-- The text that the LaTeX of each node of a list keeps. -/
def keptEach : List Node → List Text
  | [] => []
  | n :: ns => keptText n :: keptEach ns

end

theorem keptEach_flatten (ns : List Node) : (keptEach ns).flatten = ns.flatMap keptText := by
  induction ns with
  | nil => rfl
  | cons n ns ih => rw [keptEach, List.flatten_cons, List.flatMap_cons, ih]

theorem keptItems_eq (ns : List Node) :
    (((ns.zip (keptEach ns)).filter (·.1.isElement)).map (·.2)).flatten =
      (ns.filter Node.isElement).flatMap keptText := by
  induction ns with
  | nil => rfl
  | cons n ns ih =>
      simp only [keptEach, List.zip_cons_cons, List.filter_cons]
      split
      · rw [List.map_cons, List.flatten_cons, List.flatMap_cons, ih]
      · exact ih

/-! ## What is kept can be read -/

/-- Cells can be read in their table, row by row. -/
theorem legible_tableFloat (o : RenderOptions) {α : Type} {f g : α → Text} (rows : List (List α))
    (h : ∀ row ∈ rows, ∀ cell ∈ row, Legible (f cell) (g cell)) :
    Legible (rows.flatMap (·.flatMap f)) (tableFloat o (rows.map (·.map g))) := by
  cases rows with
  | nil => exact Legible.nil _
  | cons head rows =>
      obtain ⟨hhead, hrows⟩ := List.forall_mem_cons.mp h
      have hbody : Legible (rows.flatMap (·.flatMap f))
          (Text.join (Text.ofString " \\\\\n")
            ((rows.map (·.map g)).map (Text.join (Text.ofString " & ")))) := by
        rw [List.map_map]
        exact Legible.join (fun row hrow => Legible.join (hrows row hrow) _) _
      rw [List.flatMap_cons, tableFloat_eq]
      -- the head and the body stand in the tabular, which stands in the table
      refine Legible.enclosed (.after (.after (.after (.before (.enclosed ?_ _) _) _) _) _) _
      refine .after (.after (.after ?_ _) _) _
      exact (Legible.join hhead _).append (.after (.after (hbody.before _) _) _)

theorem legible_renderEach {o : RenderOptions} {ns : List Node}
    (h : ∀ n ∈ ns, Legible (keptText n) (render o n)) :
    Legible (keptEach ns).flatten (renderEach o.dollars o ns).flatten := by
  rw [keptEach_flatten, renderEach_eq_map, ← List.flatMap_def]
  exact Legible.flatMap h

/-- What the LaTeX of a node keeps can be read in it. -/
theorem legible_render (o : RenderOptions) (n : Node) : Legible (keptText n) (render o n) := by
  induction n with
  | text content => exact Legible.literal o content
  | element kind tag attrs children ih =>
      have hflat := legible_renderEach ih
      have hcontent := Legible.content o (.element kind tag attrs children)
      cases kind with
      | heading1 | heading2 | heading3 | heading4 | inlineCode => exact hcontent.command _
      | unorderedList | orderedList =>
          have hitems : Legible ((children.filter Node.isElement).flatMap keptText)
              (lines ((children.filter Node.isElement).map (renderWith o.dollars o))) :=
            Legible.join (fun n hn => ih n (List.mem_of_mem_filter hn)) _
          rw [← keptItems_eq, ← renderedItems_eq_map] at hitems
          exact hitems.environment _
      | listItem => exact hflat.after _
      | paragraph => exact hflat.before _
      | bold | italic => exact hflat.command _
      | link =>
          refine Legible.after (Legible.braced ?_) _
          -- one test decides what the link shows and what of it is kept
          change Legible
            (if ((Node.element .link tag attrs children).findAll .image).isEmpty then _ else [])
            (if ((Node.element .link tag attrs children).findAll .image).isEmpty then _ else _)
          split
          · exact hcontent
          · exact Legible.nil _
      | image => exact Legible.nil _
      | table =>
          have hcells := legible_tableFloat o
            (((Node.element .table tag attrs children).findAll .tableRow).map Node.elementChildren)
            fun _ _ cell _ => Legible.content o cell
          rw [← tableRows_eq_map, List.flatMap_map] at hcells
          exact hcells
      | codeBlock => exact (Legible.refl _).environment _
      | mathInline | mathBlock => exact ((Legible.refl _).after _).before _
      | tableRow | tableCell | generic => exact hflat

end Latex

end MarkTex
