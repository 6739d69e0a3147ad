import MarkTex.Proofs.Latex.Composition
import MarkTex.Proofs.Latex.Escape
import MarkTex.Proofs.Latex.Restoration
import Mathlib.Tactic.MkIffOfInductiveProp

/-!
# Restoration is structural

A document is written with dollars around its math and the dollars are exchanged for delimiters by
one scan over the whole. `nativeMarking` writes the delimiters where the math stands instead, node
by node. Where the math of a document can be told from its dollars at all, the two give the same
LaTeX, wherever the math stands and whatever stands next to it:
`renderDocument_eq_renderWith_native`.
-/

namespace MarkTex.Latex

/-- The replacement of a code point, a comparison sign standing between the delimiters of LaTeX. -/
def nativeReplacement (x : CodePoint) : Text :=
  if x = .scalar '<' then Text.ofString "\\(<\\)"
  else if x = .scalar '>' then Text.ofString "\\(>\\)"
  else replacement x

/-- The marking that writes math with the delimiters of LaTeX at once. -/
def nativeMarking : Marking where
  literal t := t.flatMap nativeReplacement
  inlineMath m := Text.ofString "\\(" ++ m ++ Text.ofString "\\)"
  displayMath d := Text.ofString "\\[" ++ d ++ Text.ofString "\\]"

/-- The math of a document can be told from its dollars: no formula is empty, holds a dollar or ends
with a backslash, no inline formula runs over the end of a line, and nothing else that is written as
it stands holds a dollar. -/
@[mk_iff]
structure DistinctMath (o : RenderOptions) (t : Node) : Prop where
  inline : ∀ n ∈ t.nodes, n.isOfKind .mathInline → n.textContent ≠ [] ∧
    .scalar '$' ∉ n.textContent ∧ n.textContent.getLast? ≠ some (.scalar '\\') ∧
    .scalar '\n' ∉ n.textContent
  display : ∀ n ∈ t.nodes, n.isOfKind .mathBlock → n.textContent ≠ [] ∧
    .scalar '$' ∉ n.textContent ∧ n.textContent.getLast? ≠ some (.scalar '\\')
  code : ∀ n ∈ t.nodes, n.isOfKind .codeBlock → .scalar '$' ∉ n.textContent
  target : ∀ n ∈ t.nodes, n.isOfKind .link → .scalar '$' ∉ n.attributes.get "href" []
  path : ∀ n ∈ t.nodes, n.isOfKind .image → .scalar '$' ∉ n.attributes.get "src" []
  figurePlacement : .scalar '$' ∉ o.figurePlacement
  imageWidth : .scalar '$' ∉ o.imageWidth
  tablePlacement : .scalar '$' ∉ o.tablePlacement
  columnSpec : .scalar '$' ∉ o.columnSpec

set_option synthInstance.maxSize 512 in
instance (o : RenderOptions) (t : Node) : Decidable (DistinctMath o t) :=
  decidable_of_iff _ (distinctMath_iff o t).symm

/-! ## Every construction of the writer is settled -/

/-- A code point has the same replacement under both markings, unless it is a comparison sign: that
one stands in a span, before or after the span is restored. -/
theorem nativeReplacement_cases (x : CodePoint) :
    (x ∉ specialCodePoints ∧ replacement x = [x] ∧ nativeReplacement x = [x]) ∨
      (∃ s ∈ [Span.less, Span.greater],
        replacement x = s.source ∧ nativeReplacement x = s.restored) ∨
      ∃ rule ∈ specials, rule.1 ∉ ['<', '>'] ∧
        replacement x = rule.2 ∧ nativeReplacement x = rule.2 := by
  rcases replacement_cases x with ⟨hx, heq⟩ | ⟨rule, hrule, rfl, heq⟩
  · have hplain : ∀ c, .scalar c ∈ specialCodePoints → x ≠ .scalar c :=
      fun c hc h => hx (h ▸ hc)
    refine Or.inl ⟨hx, heq, ?_⟩
    rw [nativeReplacement, if_neg (hplain '<' (by decide)), if_neg (hplain '>' (by decide)), heq]
  · have hrules : ∀ rule ∈ specials, rule = ('<', Span.less.source) ∨
        rule = ('>', Span.greater.source) ∨ rule.1 ∉ ['<', '>'] := by
      decide
    rcases hrules rule hrule with rfl | rfl | hother
    · exact Or.inr (Or.inl ⟨Span.less, by simp, heq, rfl⟩)
    · exact Or.inr (Or.inl ⟨Span.greater, by simp, heq, rfl⟩)
    · refine Or.inr (Or.inr ⟨rule, hrule, hother, heq, ?_⟩)
      have hless : CodePoint.scalar rule.1 ≠ .scalar '<' := by
        intro h
        exact hother (by simp [CodePoint.scalar.inj h])
      have hgreater : CodePoint.scalar rule.1 ≠ .scalar '>' := by
        intro h
        exact hother (by simp [CodePoint.scalar.inj h])
      rw [nativeReplacement, if_neg hless, if_neg hgreater, heq]

theorem settled_replacement (x : CodePoint) : Settled (replacement x) (nativeReplacement x) := by
  rcases nativeReplacement_cases x with ⟨hx, heq, hnative⟩ | ⟨s, hs, heq, hnative⟩ |
    ⟨rule, hrule, hother, heq, hnative⟩
  · have hdollar : .scalar '$' ≠ x := fun h => hx (h ▸ by decide)
    have hslash : x ≠ .scalar '\\' := fun h => hx (h ▸ by decide)
    rw [heq, hnative]
    exact Settled.of_no_dollar (by simpa using hdollar) (by simpa using hslash)
  · rw [heq, hnative]
    rcases List.mem_pair.mp hs with rfl | rfl
    · exact Settled.less
    · exact Settled.greater
  · have hrules : ∀ rule ∈ specials, rule.1 ∉ ['<', '>'] → rule.2 = Text.ofString "\\$" ∨
        (.scalar '$' ∉ rule.2 ∧ escapedAfter false rule.2 = false) := by
      decide
    rw [heq, hnative]
    rcases hrules rule hrule hother with hescaped | ⟨hdollar, hend⟩
    · rw [hescaped]
      exact Settled.escaped_dollar
    · exact Settled.of_no_dollar hdollar hend

theorem settled_literal {o : RenderOptions} (hescape : o.escapeSpecial = true) (t : Text) :
    Settled (o.dollars.literal t) (nativeMarking.literal t) := by
  simp only [RenderOptions.dollars, RenderOptions.escape, hescape, if_true, escape_eq_flatMap,
    nativeMarking]
  induction t with
  | nil => exact Settled.nil
  | cons x t ih => exact (settled_replacement x).append ih

theorem settled_braced {a a' : Text} (h : Settled a a') : Settled (braced a) (braced a') :=
  ((Settled.of_no_dollar (by decide) (by decide)).append h).append
    (Settled.of_no_dollar (by decide) (by decide))

/-- Every construction of the writer begins and ends with text of its own, which holds no dollar and
ends without a backslash. -/
theorem compositional_settled : Compositional Settled where
  nil := Settled.nil
  append := Settled.append
  layout := by
    have hall : ∀ t ∈ layoutTexts, .scalar '$' ∉ t ∧ escapedAfter false t = false := by decide
    intro t ht
    exact Settled.of_no_dollar (hall t ht).1 (hall t ht).2
  braced h := settled_braced h
  command := by
    have hall : ∀ name ∈ commandNames, .scalar '$' ∉ Text.ofString ("\\" ++ name) ∧
        escapedAfter false (Text.ofString ("\\" ++ name)) = false := by
      decide
    intro name a a' hname h
    exact (Settled.of_no_dollar (hall name hname).1 (hall name hname).2).append (settled_braced h)
  enclosed := by
    have hall : ∀ name ∈ environmentNames, ∀ edge ∈ ["begin", "end"],
        .scalar '$' ∉ command edge (Text.ofString name) ∧
          escapedAfter false (command edge (Text.ofString name)) = false := by
      decide
    intro name a a' hname h
    obtain ⟨hbegin, hbeginEnd⟩ := hall name hname "begin" (by decide)
    obtain ⟨hend, hendEnd⟩ := hall name hname "end" (by decide)
    exact ((Settled.of_no_dollar hbegin hbeginEnd).append h).append
      (Settled.of_no_dollar hend hendEnd)

/-! ## What a document brings in is settled -/

/-- A text without dollars may end with a backslash as long as what follows it does not. -/
theorem settled_between {a t b : Text} (ha : .scalar '$' ∉ a) (ht : .scalar '$' ∉ t)
    (hb : .scalar '$' ∉ b) (hend : ∀ escaped, escapedAfter escaped b = false) :
    Settled (a ++ t ++ b) (a ++ t ++ b) := by
  apply Settled.of_no_dollar
  · simp [ha, ht, hb]
  · rw [escapedAfter_append]
    exact hend _

theorem settled_bracketed {t : Text} (h : .scalar '$' ∉ t) : Settled (bracketed t) (bracketed t) :=
  settled_between (by decide) h (by decide) (by decide)

/-- A text between braces, unlike one that is settled itself, may end with a backslash. -/
theorem settled_braced_of_no_dollar {t : Text} (h : .scalar '$' ∉ t) :
    Settled (braced t) (braced t) :=
  settled_between (by decide) h (by decide) (by decide)

theorem agreement_settled {o : RenderOptions} {t : Node} (hescape : o.escapeSpecial = true)
    (h : DistinctMath o t) : Agreement Settled o.dollars nativeMarking o t where
  leaf content _ := settled_literal hescape content
  content n _ := settled_literal hescape _
  description n _ _ := settled_literal hescape _
  inlineMath n hn hkind := by
    obtain ⟨hne, hdollar, hend, hline⟩ := h.inline n hn hkind
    exact Settled.inline hne hdollar hline (escapedAfter_false hend)
  displayMath n hn hkind := by
    obtain ⟨_, hdollar, hend⟩ := h.display n hn hkind
    exact Settled.display hdollar (escapedAfter_false hend)
  code n hn hkind := by
    have hcode := settled_between
      (a := command "begin" (Text.ofString "verbatim") ++ Text.ofString "\n")
      (b := Text.ofString "\n" ++ command "end" (Text.ofString "verbatim")) (by decide)
      (h.code n hn hkind) (by decide) (by decide)
    simpa [environment, enclosed] using hcode
  target n hn hkind := (Settled.of_no_dollar (by decide) (by decide)).append
    (settled_braced_of_no_dollar (h.target n hn hkind))
  graphics n hn hkind := by
    have hwidth : .scalar '$' ∉ Text.ofString "width=" ++ o.imageWidth :=
      List.mem_append.not.mpr (not_or.mpr ⟨by decide, h.imageWidth⟩)
    exact ((Settled.of_no_dollar (by decide) (by decide)).append (settled_bracketed hwidth)).append
      (settled_braced_of_no_dollar (h.path n hn hkind))
  separator n _ _ := Settled.of_no_dollar (by decide) (by decide)
  columns count := settled_braced_of_no_dollar fun hmem => h.columnSpec (mem_of_mem_columns hmem)
  figurePlacement := settled_bracketed h.figurePlacement
  tablePlacement := settled_bracketed h.tablePlacement

theorem restoreMath_render {o : RenderOptions} {t : Node} (hescape : o.escapeSpecial = true)
    (h : DistinctMath o t) : restoreMath (render o t) = renderWith nativeMarking o t :=
  (compositional_settled.renderWith (agreement_settled hescape h)).restoreMath

/-- Where math can be told from dollars, the restored LaTeX of a document is the LaTeX that has the
delimiters from the beginning. -/
theorem renderDocument_eq_renderWith_native {o : RenderOptions} {t : Node}
    (hescape : o.escapeSpecial = true) (hrestore : o.restoreMath = true) (h : DistinctMath o t) :
    renderDocument o t = renderWith nativeMarking o t := by
  rw [renderDocument, if_pos hrestore]
  exact restoreMath_render hescape h

/-- Formulas, dollars and comparison signs next to one another, in text, code, targets and labels.
-/
def crowdedMath : Node :=
  .generic "document"
    [.ofKind .paragraph
      [.text (Text.ofString "$<\\"), .ofKind .mathInline [.text (Text.ofString "<")] [],
       .ofKind .mathInline [.text (Text.ofString "x")] [], .text (Text.ofString "$"),
       .ofKind .mathBlock [.text (Text.ofString "y\n")] [], .text (Text.ofString ">$")] [],
     .ofKind .link
      [.ofKind .image [] [("src", some (Text.ofString "p\\")), ("alt", some (Text.ofString "$"))]]
      [("href", some (Text.ofString "u\\"))],
     .ofKind .codeBlock [.text (Text.ofString "c\\")] []]

theorem renderDocument_crowdedMath : DistinctMath {} crowdedMath ∧
    renderDocument {} crowdedMath = renderWith nativeMarking {} crowdedMath :=
  ⟨by decide, renderDocument_eq_renderWith_native rfl rfl (by decide)⟩

end MarkTex.Latex
