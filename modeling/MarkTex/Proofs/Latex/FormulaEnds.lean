import MarkTex.Latex.Render
import MarkTex.Proofs.Latex.LooseDollars

/-!
# Formulas that end with a backslash

A formula without dollars that stands alone gets the delimiters of LaTeX, unless it ends with a
backslash, as one with a broken line at its end does. Then the dollar that should close it is not live.
An inline formula keeps its dollars; a display formula keeps those behind it, while those before it are
taken for a formula with nothing in it (`renderDocument_formula`).
-/

namespace MarkTex.Latex

theorem render_mathBlock {n : Node} (hkind : n.isOfKind .mathBlock) (o : RenderOptions) :
    render o n = (Span.display n.textContent).source := by
  obtain ⟨tag, attrs, children, rfl⟩ := Node.exists_eq_element hkind
  rfl

theorem render_mathInline {n : Node} (hkind : n.isOfKind .mathInline) (o : RenderOptions) :
    render o n = (Span.inline n.textContent).source := by
  obtain ⟨tag, attrs, children, rfl⟩ := Node.exists_eq_element hkind
  rfl

section
variable {f : Text} (hdollar : .scalar '$' ∉ f) (hend : escapedAfter false f = true)
include hdollar hend

/-- Behind a backslash the first of two dollars is not live. -/
theorem liveAt_behind_backslash {closing : Text} {i : Nat} (hi : LiveAt false (f ++ closing) i) :
    ∃ j, i = f.length + j ∧ LiveAt true closing j := by
  rcases hi.append_cases with hbody | ⟨j, rfl, hj⟩
  · exact absurd hbody.mem hdollar
  · rw [hend] at hj
    exact ⟨j, rfl, hj⟩

theorem restoreMath_display_behind_backslash : restoreMath (Span.display f).source =
    Text.ofString "\\(\\)" ++ f ++ Text.ofString "$$" := by
  have hlive (i : Nat) (hi : LiveAt false (f ++ Text.ofString "$$") i) : i = f.length + 1 := by
    obtain ⟨j, rfl, hj⟩ := liveAt_behind_backslash hdollar hend hi
    obtain _ | _ | j := j
    · exact absurd (liveAt_cons_zero.mp hj).2 (by decide)
    · rfl
    · exact absurd hj.lt (Nat.not_lt_of_le (Nat.le_add_left 2 j))
  have hone : OneLive false (f ++ Text.ofString "$$") := by
    intro i j hij hi hj
    rw [hlive i hi, hlive j hj] at hij
    exact absurd hij (Nat.lt_irrefl _)
  have hopen : displayBody? false (f ++ Text.ofString "$$") = none := by
    refine displayBody?_eq_none_iff.mpr fun i hi => ?_
    rw [hlive i hi, Nat.add_assoc, List.getElem?_append_right (Nat.le_add_right _ _),
      Nat.add_sub_cancel_left]
    decide
  have hspan : spanAt? ((Span.inline []).source ++ (f ++ Text.ofString "$$")) =
      some (.inline []) := by
    change spanAt? (.scalar '$' :: .scalar '$' :: (f ++ Text.ofString "$$")) = _
    simp only [spanAt?, hopen]
  have hsource : (Span.display f).source =
      (Span.inline []).source ++ (f ++ Text.ofString "$$") := by
    simp [Span.source, Text.ofString, Text.ofChars]
  change restoreFrom false _ = _
  rw [hsource, restoreFrom_span hspan, restoreFrom_of_oneLive hone, List.append_assoc]
  rfl

theorem restoreMath_inline_behind_backslash :
    restoreMath (Span.inline f).source = (Span.inline f).source := by
  have hsource : (Span.inline f).source = .scalar '$' :: (f ++ Text.ofString "$") := by
    simp [Span.source, Text.ofString, Text.ofChars]
  have hquiet : NoLive false (f ++ Text.ofString "$") := by
    intro i hi
    obtain ⟨j, -, hj⟩ := liveAt_behind_backslash hdollar hend hi
    obtain _ | j := j
    · exact absurd (liveAt_cons_zero.mp hj).2 (by decide)
    · exact absurd hj.lt (Nat.not_lt_of_le (Nat.le_add_left 1 j))
  have hone : OneLive false (.scalar '$' :: (f ++ Text.ofString "$")) :=
    oneLive_cons_iff.mpr ⟨fun _ i hi => absurd hi (hquiet i), fun i _ _ hi => absurd hi (hquiet i)⟩
  rw [hsource]
  exact restoreFrom_of_oneLive hone

end

/-- A formula without dollars, alone in its document, gets the delimiters of LaTeX unless it ends with a
backslash. -/
theorem renderDocument_formula {n : Node} (hne : n.textContent ≠ [])
    (hdollar : .scalar '$' ∉ n.textContent) :
    (n.isOfKind .mathBlock → renderDocument {} n =
      if n.textContent.getLast? = some (.scalar '\\') then
        Text.ofString "\\(\\)" ++ n.textContent ++ Text.ofString "$$"
      else Text.ofString "\\[" ++ n.textContent ++ Text.ofString "\\]") ∧
    (n.isOfKind .mathInline → .scalar '\n' ∉ n.textContent → renderDocument {} n =
      if n.textContent.getLast? = some (.scalar '\\') then
        Text.ofString "$" ++ n.textContent ++ Text.ofString "$"
      else Text.ofString "\\(" ++ n.textContent ++ Text.ofString "\\)") := by
  have hrestore : renderDocument {} n = restoreMath (render {} n) := rfl
  rw [hrestore]
  constructor
  · intro hkind
    rw [render_mathBlock hkind]
    split
    next hend =>
      exact restoreMath_display_behind_backslash hdollar (escapedAfter_eq_true_iff.mpr hend)
    next hend => exact (Settled.display hdollar (escapedAfter_false hend)).restoreMath
  · intro hkind hline
    rw [render_mathInline hkind]
    split
    next hend =>
      exact restoreMath_inline_behind_backslash hdollar (escapedAfter_eq_true_iff.mpr hend)
    next hend => exact (Settled.inline hne hdollar hline (escapedAfter_false hend)).restoreMath

/-- A display formula with a broken line in it. -/
def brokenLine : Node := .ofKind .mathBlock [.text (Text.ofString "a\\\\\nb\\ ")] []

theorem renderDocument_brokenLine :
    brokenLine.textContent ≠ [] ∧ .scalar '$' ∉ brokenLine.textContent ∧
      renderDocument {} brokenLine = Text.ofString "\\[a\\\\\nb\\ \\]" := by
  have hne : brokenLine.textContent ≠ [] := by decide
  have hdollar : .scalar '$' ∉ brokenLine.textContent := by decide
  exact ⟨hne, hdollar, (renderDocument_formula hne hdollar).1 rfl⟩

/-- A display formula that ends with a broken line loses its delimiters. -/
theorem renderDocument_brokenLastLine :
    renderDocument {} (.ofKind .mathBlock [.text (Text.ofString "a \\\\")] []) =
        Text.ofString "\\(\\)a \\\\$$" ∧
      renderDocument {} (.ofKind .mathBlock [.text (Text.ofString "a \\\\")] []) ≠
        Text.ofString "\\[a \\\\\\]" := by
  decide

end MarkTex.Latex
