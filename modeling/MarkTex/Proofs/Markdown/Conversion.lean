import MarkTex.Proofs.Markdown.Place

/-!
# The conversion, place by place

The conversion of a forest visits the tokens that have a place and gives the nodes that the tables of
places give. Beside that it does nothing but make remarks, as long as the reader of fragments does
no more: `yields_nodesOfBlocks`.
-/

namespace MarkTex.Markdown

variable (fragments : Text → List Node) (o : ParseOptions)

/-! ## Computations that do no more than make remarks -/

/-- Fragments are empty, and remarks go nowhere. -/
def Reading.silent : Reading Id where
  fragment _ := []
  remark _ := ()

/-- A computation makes remarks, gives a value, and does nothing else. -/
def Yields {m : Type → Type} [Monad m] (fx : Reading m) {α : Type} (x : m α) (a : α) : Prop :=
  ∃ remarks : List Remark, x = do
    remarks.forM fx.remark
    return a

namespace Yields

variable {m : Type → Type} [Monad m] [LawfulMonad m] {fx : Reading m} {α β : Type}

theorem pure (a : α) : Yields fx (Pure.pure a) a := ⟨[], by simp⟩

theorem remark (r : Remark) : Yields fx (fx.remark r) () := ⟨[r], by simp⟩

theorem bind {x : m α} {k : α → m β} {a : α} {b : β} (hx : Yields fx x a)
    (hk : Yields fx (k a) b) : Yields fx (x >>= k) b := by
  obtain ⟨remarks, rfl⟩ := hx
  obtain ⟨more, hmore⟩ := hk
  exact ⟨remarks ++ more, by simp [hmore]⟩

theorem map {x : m α} {a : α} (hx : Yields fx x a) (g : α → β) :
    Yields fx (do let y ← x; return g y) (g a) :=
  hx.bind (pure (g a))

end Yields

/-! ## The conversion goes by the tables -/

theorem produce_around_headingNode (level : Option Int) (inner : List Node) :
    (Form.around (headingNode level [])).produce fragments inner =
      .block [headingNode level inner] := by
  unfold headingNode
  split <;> rfl

theorem produce_around_listNode (separator : Text) (attrs : TokenAttributes) (items : List Node) :
    (Form.around (listNode [] attrs [])).produce fragments (separate separator items) =
      .block [listNode separator attrs items] := by
  unfold listNode
  split
  · cases attrs.start <;> rfl
  · rfl

/-- Every fragment that is read at some visits is read with no more than remarks. -/
def FragmentsYield {m : Type → Type} [Monad m] (fx : Reading m) (fragments : Text → List Node)
    (o : ParseOptions) (visits : List (Place × Token)) : Prop :=
  ∀ v ∈ visits, ∀ raw trimmed,
    v.1.form o v.2.raw v.2.attributes v.2.kind = .fragment raw trimmed →
      Yields fx (fx.fragment raw) (fragments raw)

/-- At every place, the conversion of a forest gives what the tables give. -/
structure Agrees {m : Type → Type} [Monad m] (fx : Reading m) (fragments : Text → List Node)
    (o : ParseOptions) (ts : List Token) : Prop where
  blocks : FragmentsYield fx fragments o (Place.block.visitsEach ts) →
    Yields fx (blocks fx o ts) (Place.block.produceEach fragments o ts)
  items : FragmentsYield fx fragments o (Place.item.visitsEach ts) →
    Yields fx (listItems fx o ts) ((Place.item.produceEach fragments o ts).flatMap Produced.nodes)
  parts : FragmentsYield fx fragments o (Place.part.visitsEach ts) →
    Yields fx (tableSections fx o ts)
      ((Place.part.produceEach fragments o ts).flatMap Produced.nodes)
  rows : FragmentsYield fx fragments o (Place.row.visitsEach ts) →
    Yields fx (tableRows fx o ts) ((Place.row.produceEach fragments o ts).flatMap Produced.nodes)
  cells (header : Bool) : FragmentsYield fx fragments o ((Place.cell header).visitsEach ts) →
    Yields fx (tableCells fx o header ts)
      (((Place.cell header).produceEach fragments o ts).flatMap Produced.nodes)
  line : FragmentsYield fx fragments o (Place.line.visitsEach ts) →
    Yields fx (inlines fx o ts) ((Place.line.produceEach fragments o ts).flatMap Produced.nodes)

variable {m : Type → Type} [Monad m] {fx : Reading m} {fragments o}
variable {kind : TokenKind} {raw : Text} {attrs : TokenAttributes} {children ts : List Token}

theorem FragmentsYield.inside {p q : Place} (hq : p.inside kind = some q)
    (h : FragmentsYield fx fragments o (p.visits (.mk kind raw attrs children))) :
    FragmentsYield fx fragments o (q.visitsEach children) :=
  fun v hv => h v (Place.mem_visits_of_inside hq hv)

theorem FragmentsYield.self {p : Place} {t : Token} {text : Text} {trimmed : Bool}
    (h : FragmentsYield fx fragments o (p.visits t))
    (hform : p.form o t.raw t.attributes t.kind = .fragment text trimmed) :
    Yields fx (fx.fragment text) (fragments text) := by
  obtain ⟨kind, raw, attrs, children⟩ := t
  exact h _ List.mem_cons_self text trimmed hform

variable [LawfulMonad m]

theorem yields_block (hin : Agrees fx fragments o children)
    (h : FragmentsYield fx fragments o (Place.block.visits (.mk kind raw attrs children))) :
    Yields fx (block fx o (.mk kind raw attrs children))
      (Place.block.produce fragments o (.mk kind raw attrs children)) := by
  cases kind with
  | heading =>
      simp only [Place.produce, Place.form, Place.inside, produce_around_headingNode]
      exact (hin.line (h.inside rfl)).map _
  | paragraph => exact (hin.line (h.inside rfl)).map _
  | blockText => exact (hin.line (h.inside rfl)).map _
  | blockQuote => exact (hin.blocks (h.inside rfl)).map _
  | list =>
      simp only [Place.produce, Place.form, Place.inside, Place.gather, produce_around_listNode]
      exact (hin.items (h.inside rfl)).map _
  | table => exact (hin.parts (h.inside rfl)).map _
  | blockHtml =>
      cases hhtml : o.parseHtml with
      | true =>
          have hform : Place.block.form o raw attrs .blockHtml = .fragment raw true := by
            simp only [Place.form, hhtml, if_true]
          have hread := (h.self hform).map fun ns => Produced.block (trimBlankNodes ns)
          simpa [block, Place.produce, hform, hhtml, Form.produce] using hread
      | false =>
          have hdrop : Yields fx (do fx.remark .droppedHtmlBlock; return Produced.nothing) .nothing :=
            (Yields.remark .droppedHtmlBlock).map fun _ => Produced.nothing
          simpa [block, Place.produce, Place.form, Form.produce, hhtml] using hdrop
  | blockCode | thematicBreak | blockMath | blankLine => exact Yields.pure _
  -- all other kinds have no place among blocks
  | _ => exact (Yields.remark _).map _

theorem yields_inline (hin : Agrees fx fragments o children)
    (h : FragmentsYield fx fragments o (Place.line.visits (.mk kind raw attrs children))) :
    Yields fx (inline fx o (.mk kind raw attrs children))
      (Place.line.produce fragments o (.mk kind raw attrs children)).nodes := by
  cases kind with
  | strong | emphasis | link | image | strikethrough => exact (hin.line (h.inside rfl)).map _
  | inlineHtml =>
      cases hhtml : o.parseHtml with
      | true =>
          cases hkept : isKeptInline raw with
          | true =>
              have hform : Place.line.form o raw attrs .inlineHtml = .fragment raw false := by
                simp only [Place.form, hhtml, hkept, if_true]
              have hread := h.self hform
              simpa [inline, Place.produce, hform, hhtml, hkept, Form.produce, Produced.nodes]
                using hread
          | false =>
              have hdrop : Yields fx (do fx.remark (.droppedInlineHtml raw); return []) [] :=
                (Yields.remark (.droppedInlineHtml raw)).map fun _ => ([] : List Node)
              simpa [inline, Place.produce, Place.form, Form.produce, hhtml, hkept,
                Produced.nodes] using hdrop
      | false =>
          have hdrop : Yields fx (Pure.pure []) ([] : List Node) := Yields.pure []
          simpa [inline, Place.produce, Place.form, Form.produce, hhtml, Produced.nodes] using hdrop
  | text | codeSpan | softBreak | lineBreak | inlineMath => exact Yields.pure _
  | _ => exact (Yields.remark _).map _

/-- One more token at the front of a forest. -/
theorem Agrees.cons (hin : Agrees fx fragments o children) (hts : Agrees fx fragments o ts) :
    Agrees fx fragments o (.mk kind raw attrs children :: ts) where
  blocks h := by
    obtain ⟨hfirst, hrest⟩ := List.forall_mem_append.mp h
    exact (yields_block hin hfirst).bind ((hts.blocks hrest).map _)
  items h := by
    obtain ⟨hfirst, hrest⟩ := List.forall_mem_append.mp h
    by_cases hkind : kind = .listItem
    · subst hkind
      exact (hin.blocks (FragmentsYield.inside rfl hfirst)).bind ((hts.items hrest).map _)
    · -- what is no item is passed over, and so it is by the table
      have hform : Place.item.form o raw attrs kind = .nothing := by
        cases kind <;> first | rfl | contradiction
      simpa [listItems, hkind, Place.produceEach, Place.produce, hform, Form.produce,
        Produced.nodes] using hts.items hrest
  parts h := by
    obtain ⟨hfirst, hrest⟩ := List.forall_mem_append.mp h
    cases kind with
    | tableHead =>
        exact (hin.cells true (FragmentsYield.inside rfl hfirst)).bind ((hts.parts hrest).map _)
    | tableBody =>
        exact (hin.rows (FragmentsYield.inside rfl hfirst)).bind ((hts.parts hrest).map _)
    | _ => exact hts.parts hrest
  rows h := by
    obtain ⟨hfirst, hrest⟩ := List.forall_mem_append.mp h
    exact (hin.cells false (FragmentsYield.inside rfl hfirst)).bind ((hts.rows hrest).map _)
  cells header h := by
    obtain ⟨hfirst, hrest⟩ := List.forall_mem_append.mp h
    by_cases hkind : kind = .tableCell
    · subst hkind
      exact (hin.line (FragmentsYield.inside rfl hfirst)).bind ((hts.cells header hrest).map _)
    · have hform : (Place.cell header).form o raw attrs kind = .nothing := by
        cases kind <;> first | rfl | contradiction
      simpa [tableCells, hkind, Place.produceEach, Place.produce, hform, Form.produce,
        Produced.nodes] using hts.cells header hrest
  line h := by
    obtain ⟨hfirst, hrest⟩ := List.forall_mem_append.mp h
    exact (yields_inline hin hfirst).bind ((hts.line hrest).map _)

theorem agrees (ts : List Token) : Agrees fx fragments o ts := by
  induction ts using Token.forest_induction with
  | nil =>
      exact ⟨fun _ => Yields.pure _, fun _ => Yields.pure _, fun _ => Yields.pure _,
        fun _ => Yields.pure _, fun _ _ => Yields.pure _, fun _ => Yields.pure _⟩
  | cons kind raw attrs children ts hchildren hts => exact hchildren.cons hts

/-- The nodes of a row of block tokens are those that the tables give. -/
theorem yields_nodesOfBlocks
    (h : FragmentsYield fx fragments o (Place.block.visitsEach ts)) :
    Yields fx (nodesOfBlocks fx o ts) (Place.block.convert fragments o ts) :=
  ((agrees ts).blocks h).map _

theorem yields_document (h : FragmentsYield fx fragments o (Place.block.visitsEach ts)) :
    Yields fx (document fx o ts)
      (Node.generic "document" (Place.block.convert fragments o ts)) :=
  (yields_nodesOfBlocks h).map _

/-! ## Conversions that read no raw HTML -/

/-- No fragment of raw HTML is read at some visits. -/
def NoFragments (o : ParseOptions) (visits : List (Place × Token)) : Prop :=
  ∀ v ∈ visits, ∀ raw trimmed,
    v.1.form o v.2.raw v.2.attributes v.2.kind ≠ .fragment raw trimmed

omit [Monad m] [LawfulMonad m] in
theorem NoFragments.inside {p q : Place} (hq : p.inside kind = some q)
    (h : NoFragments o (p.visits (.mk kind raw attrs children))) :
    NoFragments o (q.visitsEach children) :=
  fun v hv => h v (Place.mem_visits_of_inside hq hv)

theorem FormAt.of_fragment {p : Place} {text : Text} {trimmed : Bool}
    (h : FormAt o raw p kind (.fragment text trimmed)) :
    o.parseHtml = true ∧ (kind = .blockHtml ∨ kind = .inlineHtml) := by
  cases h with
  | fragment hhtml hkind => exact ⟨hhtml, hkind⟩

theorem NoFragments.of_parseHtml (h : o.parseHtml = false) (visits : List (Place × Token)) :
    NoFragments o visits := by
  intro v _ raw trimmed hform
  have hat := v.1.formAt o v.2.raw v.2.attributes v.2.kind
  rw [hform] at hat
  exact absurd hat.of_fragment.1 (by simp [h])

theorem NoFragments.of_kinds {visits : List (Place × Token)}
    (h : ∀ v ∈ visits, v.2.kind ≠ .blockHtml ∧ v.2.kind ≠ .inlineHtml) :
    NoFragments o visits := by
  intro v hv raw trimmed hform
  have hat := v.1.formAt o v.2.raw v.2.attributes v.2.kind
  rw [hform] at hat
  rcases hat.of_fragment.2 with hkind | hkind
  · exact (h v hv).1 hkind
  · exact (h v hv).2 hkind

omit [LawfulMonad m] in
theorem NoFragments.fragmentsYield {visits : List (Place × Token)} (h : NoFragments o visits) :
    FragmentsYield fx fragments o visits :=
  fun v hv raw trimmed hform => absurd hform (h v hv raw trimmed)

/-- A forest without images and raw HTML, in any place. -/
def TextOnly (ts : List Token) : Prop :=
  ∀ t ∈ Token.forest ts, t.kind ∉ [.image, .blockHtml, .inlineHtml]

instance (ts : List Token) : Decidable (TextOnly ts) :=
  inferInstanceAs (Decidable (∀ t ∈ Token.forest ts, _))

theorem textOnly_cons :
    TextOnly (.mk kind raw attrs children :: ts) ↔
      kind ∉ [.image, .blockHtml, .inlineHtml] ∧ TextOnly children ∧ TextOnly ts := by
  simp only [TextOnly, Token.forest, Token.tokens, List.cons_append, List.forall_mem_cons,
    List.forall_mem_append, Token.kind]

theorem TextOnly.noFragments (h : TextOnly ts) (p : Place) : NoFragments o (p.visitsEach ts) := by
  refine NoFragments.of_kinds fun v hv => ?_
  have hkind := h v.2 (Place.mem_forest_of_mem_visitsEach hv)
  simp only [List.mem_cons, List.not_mem_nil, or_false, not_or] at hkind
  exact hkind.2

/-- The document of a forest in which no fragment of raw HTML is read. -/
def plainDocument (o : ParseOptions) (ts : List Token) : Node :=
  Node.generic "document" (Place.block.convert (fun _ => []) o ts)

theorem yields_plainDocument (h : NoFragments o (Place.block.visitsEach ts)) :
    Yields fx (document fx o ts) (plainDocument o ts) :=
  yields_document h.fragmentsYield

end MarkTex.Markdown
