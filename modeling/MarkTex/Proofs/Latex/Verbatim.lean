import MarkTex.Proofs.Latex.Environments
import MarkTex.Proofs.Markdown.Conversion

/-!
# Code in verbatim environments

LaTeX reads a verbatim environment as it stands, up to the first place where its closing mark is
spelled. Code is written between the two marks without any change, so it is read back exactly, with
nothing behind it, unless the closing mark is spelled in the code: `renderDocument_codeBlock`.
-/

namespace MarkTex.Latex

/-! ## Reading a verbatim environment -/

/-- A text cut at the first place where a pattern is spelled: what is before it and what behind. -/
def cutAt? (pattern : Text) : Text → Option (Text × Text)
  | [] => none
  | c :: rest =>
    if pattern <+: c :: rest then some ([], (c :: rest).drop pattern.length)
    else (cutAt? pattern rest).map fun cut => (c :: cut.1, cut.2)

/-- What opens a verbatim environment, with the end of its line. -/
def verbatimBegin : Text := Text.ofString "\\begin\x7bverbatim\x7d\n"

/-- The body of the verbatim environment with which a text begins, and the text behind it. -/
def readVerbatim? (t : Text) : Option (Text × Text) :=
  if verbatimBegin <+: t then cutAt? verbatimEnd (t.drop verbatimBegin.length) else none

theorem readVerbatim?_append (t : Text) :
    readVerbatim? (verbatimBegin ++ t) = cutAt? verbatimEnd t := by
  rw [readVerbatim?, if_pos (List.prefix_append _ _), List.drop_left]

/-- The cut is at the first place: the pattern is not spelled before it. -/
theorem cutAt?_eq_some {p t a b : Text} (hp : p ≠ []) (h : cutAt? p t = some (a, b)) :
    t = a ++ p ++ b ∧ ¬ p <:+: a := by
  induction t generalizing a with
  | nil => cases h
  | cons c rest ih =>
      rw [cutAt?] at h
      split at h
      next hbegins =>
        obtain ⟨tail, htail⟩ := hbegins
        rw [← htail, List.drop_left] at h
        cases h
        exact ⟨htail.symm, fun hin => hp (List.infix_nil.mp hin)⟩
      next hbegins =>
        obtain ⟨⟨a', b'⟩, hcut, heq⟩ := Option.map_eq_some_iff.mp h
        obtain ⟨rfl, rfl⟩ := Prod.mk.inj heq
        obtain ⟨hrest, hnot⟩ := ih hcut
        refine ⟨by rw [hrest]; rfl, fun hin => ?_⟩
        rcases List.infix_cons_iff.mp hin with hhead | hinfix
        · refine hbegins (hhead.trans ?_)
          rw [hrest, List.append_assoc]
          exact List.prefix_append (c :: a') (p ++ b')
        · exact hnot hinfix

/-- A text without the pattern, and a character that the pattern does not hold, are before the cut. -/
theorem cutAt?_append {p a : Text} {d : CodePoint} (hp : p ≠ []) (hd : d ∉ p) (h : ¬ p <:+: a)
    (rest : Text) : cutAt? p (a ++ d :: (p ++ rest)) = some (a ++ [d], rest) := by
  induction a with
  | nil =>
      have hfirst := not_begins_append_cons hd h (p ++ rest)
      rw [List.nil_append] at hfirst ⊢
      rw [cutAt?, if_neg hfirst]
      obtain ⟨x, p, rfl⟩ := List.exists_cons_of_ne_nil hp
      have hsecond : x :: p <+: x :: (p ++ rest) := List.prefix_append (x :: p) rest
      rw [List.cons_append, cutAt?, if_pos hsecond, ← List.cons_append, List.drop_left]
      rfl
  | cons c a ih =>
      have hfirst := not_begins_append_cons hd h (p ++ rest)
      rw [List.cons_append] at hfirst ⊢
      rw [cutAt?, if_neg hfirst, ih fun hin => h (hin.trans (List.suffix_cons c a).isInfix)]
      rfl

/-- Code between the marks is read back just if the closing mark is not spelled in it. -/
theorem readVerbatim?_code_iff (code : Text) :
    readVerbatim? (verbatimBegin ++ (code ++ .scalar '\n' :: verbatimEnd)) =
      some (code ++ Text.ofString "\n", []) ↔ ¬ verbatimEnd <:+: code := by
  rw [readVerbatim?_append]
  constructor
  · intro hread hin
    have hbody := (cutAt?_eq_some (by decide) hread).2
    exact hbody (hin.trans (List.prefix_append _ _).isInfix)
  · intro hcode
    have hcut := cutAt?_append (d := .scalar '\n') (by decide) (by decide) hcode []
    rw [List.append_nil] at hcut
    exact hcut

/-! ## The environment of a code block -/

/-- The line end that closes a code is no part of the mark. -/
theorem verbatimEnd_infix_dropFinalNewline (raw : Text) :
    verbatimEnd <:+: Markdown.dropFinalNewline raw ↔ verbatimEnd <:+: raw := by
  rw [Markdown.dropFinalNewline]
  split
  next hlast =>
    obtain ⟨front, rfl⟩ := List.getLast?_eq_some_iff.mp hlast
    rw [List.dropLast_concat]
    refine ⟨fun hin => hin.trans (List.prefix_append _ _).isInfix, fun hin => ?_⟩
    rcases List.infix_concat_iff.mp hin with hsuffix | hinfix
    · -- the mark would end with the line end
      have hmem : .scalar '\n' ∈ verbatimEnd := by
        rcases List.suffix_concat_iff.mp hsuffix with hnil | ⟨front', heq, _⟩
        · exact absurd hnil (by decide)
        · exact heq ▸ List.mem_append_right _ List.mem_cons_self
      exact absurd hmem (by decide)
    · exact hinfix
  next => rfl

theorem render_codeNode (r : RenderOptions) (raw : Text) (info : Option Text) :
    render r (Node.generic "document" [Markdown.codeNode raw info]) =
      verbatimBegin ++ (Markdown.dropFinalNewline raw ++ .scalar '\n' :: verbatimEnd) := by
  have hrender : render r (Node.generic "document" [Markdown.codeNode raw info]) =
      environment "verbatim" (Markdown.dropFinalNewline raw) := by
    simp only [render, Node.generic, Markdown.codeNode, Node.ofKind, renderWith, renderEach,
      ElementKind.handler, writeBy, Node.textContent, Node.descendants, Node.forestNodes,
      List.flatMap_cons, List.flatMap_nil, Node.ownText, List.flatten_cons, List.flatten_nil,
      List.append_nil]
  rw [hrender]
  simp [environment, enclosed, command, braced, verbatimBegin, verbatimEnd, Text.ofString,
    Text.ofChars]

variable {m : Type → Type} [Monad m] [LawfulMonad m]

theorem document_blockCode (fx : Markdown.Reading m) (o : Markdown.ParseOptions) (raw : Text)
    (attrs : Markdown.TokenAttributes) (children : List Markdown.Token) :
    Markdown.document fx o [.mk .blockCode raw attrs children] =
      pure (Node.generic "document" [Markdown.codeNode raw attrs.info]) := by
  simp [Markdown.document, Markdown.nodesOfBlocks, Markdown.blocks, Markdown.block,
    Markdown.assemble, Markdown.Produced.addTo]

/-- Without restoring math, the document of a code block is read back as the environment that holds
the code and the end of its last line, with nothing behind it, just if the code does not spell the
mark that closes the environment. -/
theorem renderDocument_codeBlock (fx : Markdown.Reading m) (o : Markdown.ParseOptions)
    {r : RenderOptions} (hmath : r.restoreMath = false) (raw : Text)
    (attrs : Markdown.TokenAttributes) (children : List Markdown.Token) :
    ∃ root, Markdown.document fx o [.mk .blockCode raw attrs children] = pure root ∧
      (readVerbatim? (renderDocument r root) =
          some (Markdown.dropFinalNewline raw ++ Text.ofString "\n", []) ↔
        ¬ verbatimEnd <:+: raw) := by
  refine ⟨_, document_blockCode fx o raw attrs children, ?_⟩
  rw [renderDocument, hmath, if_neg Bool.false_ne_true, render_codeNode, readVerbatim?_code_iff,
    verbatimEnd_infix_dropFinalNewline]

/-- Code that is itself about LaTeX: it opens an environment and nearly closes it. -/
def latexCode : Text :=
  Text.ofString "\\begin\x7bverbatim\x7d\n$a_b & \\end \x7bverbatim\x7d\n\n"

theorem latexCode_readBack : ∃ root,
    Markdown.document Markdown.Reading.silent {} [.mk .blockCode latexCode {} []] = root ∧
      readVerbatim? (renderDocument { restoreMath := false } root) =
        some (latexCode.dropLast ++ Text.ofString "\n", []) := by
  obtain ⟨root, hroot, hread⟩ := renderDocument_codeBlock Markdown.Reading.silent {}
    (r := { restoreMath := false }) rfl latexCode {} []
  exact ⟨root, hroot, hread.mpr (by decide +kernel)⟩

/-- Code that closes the environment: what comes behind is no longer code. -/
theorem closingCode_breaksOut :
    readVerbatim? (renderDocument { restoreMath := false }
      (Markdown.document Markdown.Reading.silent {}
        [.mk .blockCode (Text.ofString "a\n\\end\x7bverbatim\x7d\n\\input\x7bx\x7d\n") {} []])) =
      some (Text.ofString "a\n", Text.ofString "\n\\input\x7bx\x7d\n\\end\x7bverbatim\x7d") := by
  decide +kernel

end MarkTex.Latex
