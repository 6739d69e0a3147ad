import MarkTex.Latex.Render
import MarkTex.Proofs.Markdown.Conversion
import Mathlib.Data.List.Basic

/-!
# Breaks between lines

A paragraph is written as what its parts are written as, one after the other. A soft break between
two parts is written as a newline and so keeps their words apart. A hard break becomes an element of
its own, but one for which LaTeX has no rule and that holds nothing: it is written as nothing, and
the parts beside it stand right after each other.
-/

namespace MarkTex.Markdown

variable {m : Type → Type} [Monad m] [LawfulMonad m] (fx : Reading m) (o : ParseOptions)

/-! ## Parts of a line -/

theorem inlines_append (xs ys : List Token) :
    inlines fx o (xs ++ ys) = do
      let before ← inlines fx o xs
      let after ← inlines fx o ys
      return before ++ after := by
  induction xs with
  | nil => simp [inlines]
  | cons x xs ih =>
      simp only [List.cons_append, inlines, ih, bind_assoc, pure_bind, List.append_assoc]

theorem renderAll_append (r : Latex.RenderOptions) (ns ns' : List Node) :
    Latex.renderAll r (ns ++ ns') = Latex.renderAll r ns ++ Latex.renderAll r ns' := by
  simp [Latex.renderAll, Latex.renderEach_eq_map]

/-- The LaTeX of the nodes of a row of tokens in a line of text. -/
def latexOfInlines (r : Latex.RenderOptions) (ts : List Token) : m Text := do
  let ns ← inlines fx o ts
  return Latex.renderAll r ns

/-- The LaTeX of what a block token leaves. -/
def latexOfBlock (r : Latex.RenderOptions) (t : Token) : m Text := do
  let p ← block fx o t
  return Latex.renderAll r p.nodes

theorem latexOfInlines_append (r : Latex.RenderOptions) (xs ys : List Token) :
    latexOfInlines fx o r (xs ++ ys) = do
      let before ← latexOfInlines fx o r xs
      let after ← latexOfInlines fx o r ys
      return before ++ after := by
  simp [latexOfInlines, inlines_append, renderAll_append]

theorem latexOfBlock_paragraph (r : Latex.RenderOptions) (raw : Text) (attrs : TokenAttributes)
    (ts : List Token) :
    latexOfBlock fx o r (.mk .paragraph raw attrs ts) = do
      let written ← latexOfInlines fx o r ts
      return written ++ Text.ofString "\n\n" := by
  have hparagraph : ∀ ns, Latex.renderAll r [Node.ofKind .paragraph ns []] =
      Latex.renderAll r ns ++ Text.ofString "\n\n" := by
    intro ns
    exact List.append_nil _
  simp [latexOfBlock, latexOfInlines, block, Produced.nodes, hparagraph]

/-! ## Breaks -/

/-- The kinds of tokens that break a line. -/
def breakKinds : List TokenKind := [.softBreak, .lineBreak]

/-- What a break is written as. -/
def breakText : TokenKind → Text
  | .softBreak => Text.ofString "\n"
  | _ => []

/-- What ends a line in LaTeX. -/
def breakCommands : List Text := ["\\\\", "\\newline", "\\linebreak"].map Text.ofString

/-- What stands between two words keeps them apart: it has a blank or a command that ends a line. -/
def KeepsApart (between : Text) : Prop :=
  (∃ c ∈ between, c.isBlank) ∨ ∃ command ∈ breakCommands, command <:+: between

theorem keepsApart_breakText_iff {kind : TokenKind} (hkind : kind ∈ breakKinds) :
    KeepsApart (breakText kind) ↔ kind = .softBreak := by
  rcases List.mem_pair.mp hkind with rfl | rfl
  · exact iff_of_true (Or.inl ⟨.scalar '\n', by decide⟩) rfl
  · refine iff_of_false ?_ nofun
    rintro (⟨c, hc, _⟩ | ⟨command, hcommand, hin⟩)
    · cases hc
    · have hsome : ∀ command ∈ breakCommands, command ≠ [] := by decide
      exact hsome command hcommand (List.infix_nil.mp hin)

theorem latexOfInlines_break (r : Latex.RenderOptions) {b : Token} (hb : b.kind ∈ breakKinds)
    (ts : List Token) :
    latexOfInlines fx o r (b :: ts) = do
      let after ← latexOfInlines fx o r ts
      return breakText b.kind ++ after := by
  have hnewline : r.escape (Text.ofString "\n") = Text.ofString "\n" := by
    unfold Latex.RenderOptions.escape
    split <;> rfl
  have hspace : Latex.renderAll r [.text (Text.ofString "\n")] = Text.ofString "\n" :=
    (List.append_nil _).trans hnewline
  have hnothing : Latex.renderAll r [Node.generic "br" []] = [] := rfl
  obtain ⟨kind, raw, attrs, children⟩ := b
  rw [← List.singleton_append, latexOfInlines_append]
  -- a break is read and written without a look at what it holds
  rcases List.mem_pair.mp hb with rfl | rfl
  · simp [latexOfInlines, inlines, inline, hspace, breakText, Token.kind]
  · simp [latexOfInlines, inlines, inline, hnothing, breakText, Token.kind]

/-- A paragraph with a break is written as what is before the break, the break, and what is behind
it. A soft break keeps the words beside it apart, and a hard break does not. -/
theorem latexOfBlock_break (r : Latex.RenderOptions) (raw : Text) (attrs : TokenAttributes)
    (xs ys : List Token) {b : Token} (hb : b.kind ∈ breakKinds) :
    latexOfBlock fx o r (.mk .paragraph raw attrs (xs ++ b :: ys)) = (do
      let before ← latexOfInlines fx o r xs
      let after ← latexOfInlines fx o r ys
      return before ++ breakText b.kind ++ after ++ Text.ofString "\n\n") ∧
    (KeepsApart (breakText b.kind) ↔ b.kind = .softBreak) := by
  refine ⟨?_, keepsApart_breakText_iff hb⟩
  simp [latexOfBlock_paragraph, latexOfInlines_append, latexOfInlines_break fx o r hb]

/-- A bold word, a soft break and a word. -/
def softLine : List Token :=
  [.branch .strong [.leaf .text ['a']]] ++ .leaf .softBreak [] :: [.leaf .text ['b']]

theorem latexOfBlock_softLine :
    latexOfBlock Reading.silent {} {} (.branch .paragraph softLine) =
        Text.ofString "\\textbf\x7ba\x7d\nb\n\n" ∧
      KeepsApart (breakText .softBreak) := by
  obtain ⟨hwritten, hapart⟩ := latexOfBlock_break Reading.silent {} {} [] {}
    [.branch .strong [.leaf .text ['a']]] [.leaf .text ['b']]
    (by decide : (Token.leaf .softBreak []).kind ∈ breakKinds)
  exact ⟨hwritten.trans rfl, hapart.mpr rfl⟩

/-- A word, a hard break and a word. -/
def hardLine : List Token := [.leaf .text ['a']] ++ .leaf .lineBreak [] :: [.leaf .text ['b']]

/-- Nothing stands between the words beside a hard break. -/
theorem latexOfBlock_hardLine :
    latexOfInlines Reading.silent {} {} [.leaf .text ['a']] = Text.ofString "a" ∧
    latexOfInlines Reading.silent {} {} [.leaf .text ['b']] = Text.ofString "b" ∧
    ∀ between, latexOfBlock Reading.silent {} {} (.branch .paragraph hardLine) =
        Text.ofString "a" ++ between ++ Text.ofString "b" ++ Text.ofString "\n\n" →
      ¬ KeepsApart between := by
  refine ⟨rfl, rfl, ?_⟩
  intro between hwritten
  have hjoined : latexOfBlock Reading.silent {} {} (.branch .paragraph hardLine) =
      Text.ofString "a" ++ [] ++ Text.ofString "b" ++ Text.ofString "\n\n" := rfl
  have hsame := List.append_cancel_right (List.append_cancel_right (hwritten.symm.trans hjoined))
  have hnothing : between = breakText .lineBreak := List.append_cancel_left hsame
  rw [hnothing, keepsApart_breakText_iff (by decide)]
  decide

end MarkTex.Markdown
