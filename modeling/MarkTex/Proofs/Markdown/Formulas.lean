import Mathlib.Data.List.Basic
import MarkTex.Convert.Source
import MarkTex.Proofs.Markdown.Collection

/-!
# Formulas

A formula of a line of text is kept where it stands in a line, and a display formula where it stands
among blocks. A display formula may stand in a line of text too, and there it is left out:
`document_formulas` says which formulas a document keeps, and that a document keeps all formulas just
if no display formula stands in a line.
-/

namespace MarkTex.Markdown

/-! ## Formulas of documents and of forests -/

/-- Whether a node is the element of a formula. -/
def isFormula (n : Node) : Bool := n.isOfKind .mathInline || n.isOfKind .mathBlock

/-- The elements of formulas below a node, in document order. -/
def formulaElements (n : Node) : List Node := n.descendants.filter isFormula

/-- Whether a token is a formula. -/
def Token.isFormula (t : Token) : Bool := t.kind = .inlineMath || t.kind = .blockMath

/-- The formulas of a forest, in document order. -/
def formulas (ts : List Token) : List Token := (Token.forest ts).filter Token.isFormula

/-- The element of a formula. -/
def formulaElement (t : Token) : Node :=
  Node.ofKind (if t.kind = .blockMath then .mathBlock else .mathInline) [.text t.raw] []

/-- Whether a token at a place is a formula that is kept. -/
def keepsFormula (v : Place × Token) : Bool :=
  v.1 = .block && v.2.kind = .blockMath || v.1 = .line && v.2.kind = .inlineMath

/-- The formulas of a forest that are kept, in document order. -/
def keptFormulas (ts : List Token) : List Token :=
  ((Place.block.visitsEach ts).filter keepsFormula).map Prod.snd

/-! ## The formulas that are kept -/

theorem collection_formulas (separator : Text) :
    Collection Eq (fun _ _ => True)
      (fun v => if keepsFormula v then [formulaElement v.2] else [])
      (fun _ n => n.nodes.filter isFormula) separator := by
  refine Collection.nodes (fun _ => rfl) ?_ ?_ ?_
  · intro kind tag attrs children hopen
    cases kind <;> first | rfl | exact absurd (by decide) hopen
  · rintro p ⟨kind, raw, attrs, children⟩ n hleaf
    cases hleaf <;> rfl
  · rintro p ⟨kind, raw, attrs, children⟩ hleaf
    rw [if_neg]
    simp only [keepsFormula, Bool.or_eq_true, Bool.and_eq_true, decide_eq_true_eq]
    dsimp only [Token.kind]
    rintro (⟨rfl, rfl⟩ | ⟨rfl, rfl⟩)
    · exact hleaf _ .blockMath
    · exact hleaf _ .inlineMath

variable {o : ParseOptions} {ts : List Token}

theorem formulaElements_plainDocument (h : TextOnly ts) :
    formulaElements (plainDocument o ts) = (keptFormulas ts).map formulaElement := by
  have hcollected := (collection_formulas o.blockSeparator).convert (fun _ => [])
    (fun _ _ _ => trivial) h .block
  rw [flatMap_ite, ← List.map_eq_flatMap] at hcollected
  rw [formulaElements, plainDocument, Node.generic, Node.descendants, Node.forestNodes_eq_flatMap,
    List.filter_flatMap, ← hcollected, keptFormulas, List.map_map]
  rfl

/-! ## Forests as they are read -/

/-- The kinds of tokens that are read at a place. -/
def Place.reads : Place → List TokenKind
  | .block => [.heading, .paragraph, .blockText, .blockCode, .blockQuote, .list, .table,
      .thematicBreak, .blockHtml, .blockMath, .blankLine]
  | .item => [.listItem]
  | .part => [.tableHead, .tableBody]
  | .row => [.tableRow]
  | .cell _ => [.tableCell]
  | .line => [.text, .strong, .emphasis, .codeSpan, .link, .image, .softBreak, .lineBreak,
      .strikethrough, .inlineHtml, .inlineMath, .blockMath]

/-- A forest of blocks has the shape of what is read: at each place the kinds that are read there, and
nothing inside a token that has no place for it. -/
structure Shaped (ts : List Token) : Prop where
  kinds : ∀ v ∈ Place.block.visitsEach ts, v.2.kind ∈ v.1.reads
  leaves : ∀ v ∈ Place.block.visitsEach ts, v.1.inside v.2.kind = none → v.2.children = []

instance (ts : List Token) : Decidable (Shaped ts) :=
  decidable_of_iff
    ((∀ v ∈ Place.block.visitsEach ts, v.2.kind ∈ v.1.reads) ∧
      ∀ v ∈ Place.block.visitsEach ts, v.1.inside v.2.kind = none → v.2.children = [])
    ⟨fun h => ⟨h.1, h.2⟩, fun h => ⟨h.kinds, h.leaves⟩⟩

theorem map_snd_visitsEach {p : Place}
    (h : ∀ v ∈ p.visitsEach ts, v.1.inside v.2.kind = none → v.2.children = []) :
    (p.visitsEach ts).map Prod.snd = Token.forest ts := by
  induction ts using Token.forest_induction generalizing p with
  | nil => rfl
  | cons kind raw attrs children ts hchildren hts =>
      obtain ⟨hfirst, hrest⟩ := List.forall_mem_append.mp h
      rw [Place.visitsEach, List.map_append, hts hrest, Token.forest, Token.tokens, Place.visits]
      cases hq : p.inside kind with
      | none =>
          have hnil : children = [] := hfirst _ List.mem_cons_self hq
          rw [hnil]
          rfl
      | some q =>
          rw [← hchildren fun v hv => hfirst v (Place.mem_visits_of_inside hq hv)]
          rfl

/-- No display formula stands in a line of text. -/
def NoDisplayInLine (ts : List Token) : Prop :=
  ∀ v ∈ Place.block.visitsEach ts, v.1 = .line → v.2.kind ≠ .blockMath

instance (ts : List Token) : Decidable (NoDisplayInLine ts) :=
  inferInstanceAs (Decidable (∀ v ∈ Place.block.visitsEach ts, _))

theorem isFormula_of_keepsFormula {v : Place × Token} (h : keepsFormula v) : v.2.isFormula := by
  simp only [keepsFormula, Bool.or_eq_true, Bool.and_eq_true, decide_eq_true_eq] at h
  simp only [Token.isFormula, Bool.or_eq_true, decide_eq_true_eq]
  rcases h with ⟨_, hkind⟩ | ⟨_, hkind⟩
  · exact Or.inr hkind
  · exact Or.inl hkind

/-- A formula that is read is kept unless it is a display formula in a line of text. -/
theorem keepsFormula_iff {v : Place × Token} (hread : v.2.kind ∈ v.1.reads)
    (hformula : v.2.isFormula) :
    keepsFormula v ↔ (v.1 = .line → v.2.kind ≠ .blockMath) := by
  obtain ⟨p, kind, raw, attrs, children⟩ := v
  simp only [Token.isFormula, Bool.or_eq_true, decide_eq_true_eq] at hformula
  dsimp only [Token.kind] at hformula hread
  rcases hformula with rfl | rfl <;> cases p <;>
    simp_all [Place.reads, keepsFormula, Token.kind]

theorem keptFormulas_eq_formulas_iff (h : Shaped ts) :
    keptFormulas ts = formulas ts ↔ NoDisplayInLine ts := by
  have hformulas : formulas ts =
      ((Place.block.visitsEach ts).filter fun v => v.2.isFormula).map Prod.snd := by
    rw [formulas, ← map_snd_visitsEach h.leaves, List.filter_map]
    rfl
  rw [hformulas, keptFormulas]
  constructor
  · intro heq v hv hline hkind
    -- the formulas that are kept are some of all formulas, and here as many
    have hsublist : ((Place.block.visitsEach ts).filter keepsFormula).Sublist
        ((Place.block.visitsEach ts).filter fun v => v.2.isFormula) :=
      List.monotone_filter_right _ fun v => isFormula_of_keepsFormula
    have hsame := hsublist.eq_of_length (by simpa using congrArg List.length heq)
    have hformula : v.2.isFormula := by simp [Token.isFormula, hkind]
    have hkept : v ∈ (Place.block.visitsEach ts).filter keepsFormula := by
      rw [hsame]
      exact List.mem_filter.mpr ⟨hv, hformula⟩
    exact (keepsFormula_iff (h.kinds v hv) hformula).mp (List.mem_filter.mp hkept).2 hline hkind
  · intro hlines
    congr 1
    refine List.filter_congr fun v hv => Bool.eq_iff_iff.mpr ⟨isFormula_of_keepsFormula, ?_⟩
    intro hformula
    exact (keepsFormula_iff (h.kinds v hv) hformula).mpr (hlines v hv)

variable {m : Type → Type} [Monad m] [LawfulMonad m]

/-- The formulas of a document are those of its forest that are kept, in their order and with their
texts. They are all of them just if no display formula stands in a line of text. -/
theorem document_formulas (fx : Reading m) (hshaped : Shaped ts) (htext : TextOnly ts) :
    ∃ root, Yields fx (document fx o ts) root ∧
      formulaElements root = (keptFormulas ts).map formulaElement ∧
        (keptFormulas ts = formulas ts ↔ NoDisplayInLine ts) :=
  ⟨plainDocument o ts, yields_plainDocument (htext.noFragments .block),
    formulaElements_plainDocument htext, keptFormulas_eq_formulas_iff hshaped⟩

/-- Formulas in a heading, in a quote, by themselves, and in a list. -/
def scatteredFormulas : List Token := tokens {} "# $a$\n> **$b$**\n\n$$\nc\n$$\n\n- $d$\n".toList

theorem scatteredFormulas_kept : ∃ root,
    Yields Action.reading (document Action.reading {} scatteredFormulas) root ∧
      formulaElements root = (formulas scatteredFormulas).map formulaElement ∧
        (formulas scatteredFormulas).map Token.raw = ["a", "b", "c", "d"].map Text.ofString := by
  have hshaped : Shaped scatteredFormulas := by decide +kernel
  obtain ⟨root, hyields, helements, hall⟩ := document_formulas (o := {}) Action.reading hshaped
    (by decide +kernel)
  have hkept : keptFormulas scatteredFormulas = formulas scatteredFormulas :=
    hall.mpr (by decide +kernel)
  rw [hkept] at helements
  exact ⟨root, hyields, helements, by decide +kernel⟩

/-- A display formula in a line of text is dropped, and with it the only formula of the document. -/
theorem displayFormula_dropped : ∃ ts, ts = tokens {} "Let $$x$$ be.".toList ∧ Shaped ts ∧
    TextOnly ts ∧ (formulas ts).map Token.raw = [Text.ofString "x"] ∧
      formulaElements (document Reading.silent {} ts) = [] :=
  ⟨_, rfl, by decide +kernel, by decide +kernel, by decide +kernel, by decide +kernel⟩

end MarkTex.Markdown
