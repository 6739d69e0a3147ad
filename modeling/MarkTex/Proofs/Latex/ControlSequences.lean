import MarkTex.Proofs.Latex.NativeMath

/-!
# Text brings in no commands

Whatever the text leaves and the descriptions of a document hold, every backslash of its LaTeX is
one that the writer has put there: it begins a command of the writer, a replacement of a special
character or a delimiter of math. The other characters that are special to LaTeX stand behind a
backslash or not at all.

The LaTeX is a sequence of such control sequences and of plain code points, and a sequence stays one
under every construction of the writer: `Sober`.
-/

namespace MarkTex.Latex

/-- The commands of the writer, each with the character by which it is told from longer names. -/
def ownCommands : List Text :=
  ["\\chapter\x7b", "\\section\x7b", "\\subsection\x7b", "\\subsubsection\x7b", "\\begin\x7b",
   "\\end\x7b", "\\item ", "\\textbf\x7b", "\\textit\x7b", "\\texttt\x7b", "\\href\x7b",
   "\\includegraphics[", "\\textwidth]", "\\label\x7b", "\\centering\n", "\\hline\n", "\\\\\n"].map
    Text.ofString

/-- The replacements of special characters that are commands. -/
def escapeMacros : List Text :=
  ["\\textbackslash\x7b\x7d", "\\textasciitilde\x7b\x7d", "\\textasciicircum\x7b\x7d", "\\&", "\\%",
   "\\$", "\\#", "\\_"].map Text.ofString

/-- The delimiters of math. -/
def mathDelimiters : List Text := ["\\(", "\\)", "\\[", "\\]"].map Text.ofString

/-- Everything that a backslash may begin. -/
def controlSequences : List Text := ownCommands ++ escapeMacros ++ mathDelimiters

/-- Whether, read from left to right, every backslash that is not the second of a pair begins one of
the given texts; the flag says whether the first backslash of a pair stands before the text. -/
def backslashesBegin (starts : List Text) (paired : Bool) : Text → Bool
  | [] => true
  | c :: rest =>
    if c = .scalar '\\' ∧ paired = false then
      starts.any (·.isPrefixOf (c :: rest)) && backslashesBegin starts true rest
    else backslashesBegin starts false rest

theorem backslashesBegin_passed {starts : List Text} {u : Text} (hu : .scalar '\\' ∉ u)
    (paired : Bool) (rest : Text) (hpaired : u ≠ [] ∨ paired = false) :
    backslashesBegin starts paired (u ++ rest) = backslashesBegin starts false rest := by
  induction u generalizing paired with
  | nil =>
      rcases hpaired with h | rfl
      · exact absurd rfl h
      · rfl
  | cons x u ih =>
      obtain ⟨hx, hu⟩ := not_or.mp (List.mem_cons.not.mp hu)
      rw [List.cons_append, backslashesBegin, if_neg fun h => hx h.1.symm]
      exact ih hu false (Or.inr rfl)

/-- A control sequence has one backslash, its first, but for the one that ends a row; it has no
tilde and no circumflex, and another special character only as the whole of what its backslash
stands before. -/
theorem controlSequences_shape : ∀ s ∈ controlSequences, s.head? = some (.scalar '\\') ∧
    (s = Text.ofString "\\\\\n" ∨ (.scalar '\\' ∉ s.tail ∧ s.tail ≠ [])) ∧
    (∀ c ∈ Text.ofString "~^", c ∉ s) ∧
    ∀ c ∈ Text.ofString "&%#_$", s = [.scalar '\\', c] ∨ c ∉ s := by
  decide +kernel

theorem backslashesBegin_control {s : Text} (hs : s ∈ controlSequences) (rest : Text) :
    backslashesBegin controlSequences false (s ++ rest) =
      backslashesBegin controlSequences false rest := by
  obtain ⟨hhead, hshape, _⟩ := controlSequences_shape s hs
  obtain ⟨u, rfl⟩ := List.head?_eq_some_iff.mp hhead
  have hfound : controlSequences.any (·.isPrefixOf (.scalar '\\' :: u ++ rest)) = true :=
    List.any_eq_true.mpr ⟨_, hs, List.isPrefixOf_iff_prefix.mpr (List.prefix_append _ rest)⟩
  rw [List.cons_append] at hfound ⊢
  rw [backslashesBegin, if_pos ⟨rfl, rfl⟩, hfound, Bool.true_and]
  rcases hshape with hrow | ⟨hu, hne⟩
  · obtain ⟨_, rfl⟩ := List.cons.inj hrow
    rfl
  · exact backslashesBegin_passed hu true rest (Or.inl hne)

example : backslashesBegin controlSequences false (Text.ofString "\\\\\n\\&") ∧
    ¬ backslashesBegin controlSequences false (Text.ofString "\\input\x7ba\x7d") := by
  decide +kernel

/-- A code point stands nowhere but right behind a backslash. -/
def OnlyEscaped (c : CodePoint) (t : Text) : Prop :=
  ∀ before after, t = before ++ c :: after → before.getLast? = some (.scalar '\\')

namespace OnlyEscaped

theorem of_notMem {c : CodePoint} {t : Text} (h : c ∉ t) : OnlyEscaped c t := by
  rintro before after rfl
  simp at h

theorem behind_backslash {c : CodePoint} (h : c ≠ .scalar '\\') :
    OnlyEscaped c [.scalar '\\', c] := by
  intro before after heq
  cases before with
  | nil => exact absurd (List.cons.inj heq).1.symm h
  | cons x before =>
      obtain ⟨rfl, htail⟩ := List.cons.inj heq
      cases before with
      | nil => rfl
      | cons y before => simp at htail

theorem append {c : CodePoint} {a b : Text} (ha : OnlyEscaped c a) (hb : OnlyEscaped c b) :
    OnlyEscaped c (a ++ b) := by
  intro before after heq
  rcases List.append_eq_append_iff.mp heq with ⟨u, rfl, hrest⟩ | ⟨u, rfl, hrest⟩
  · rw [List.getLast?_append, hb u after hrest]
    rfl
  · cases u with
    | nil => exact absurd (hb [] after hrest.symm) (by simp)
    | cons x u =>
        obtain ⟨rfl, rfl⟩ := List.cons.inj hrest
        exact ha before u rfl

end OnlyEscaped

/-! ## Sequences of control sequences and plain code points -/

/-- The code points that may stand by themselves everywhere. -/
def plainCodePoint (x : CodePoint) : Bool :=
  x ∉ Text.ofString "\\&%$#_~^"

theorem ne_of_plainCodePoint {x c : CodePoint} (hx : plainCodePoint x)
    (hc : c ∈ Text.ofString "\\&%$#_~^") : x ≠ c := by
  rintro rfl
  exact of_decide_eq_true hx hc

/-- A text is a sequence of control sequences and plain code points; the flag says whether the
separator of cells may stand in it too. -/
inductive Sober (cells : Bool) : Text → Prop
  | nil : Sober cells []
  | plain {x : CodePoint} {t : Text} : plainCodePoint x → Sober cells t → Sober cells (x :: t)
  | control {s t : Text} : s ∈ controlSequences → Sober cells t → Sober cells (s ++ t)
  | separator {t : Text} : cells = true → Sober cells t → Sober cells (.scalar '&' :: t)

namespace Sober

variable {cells : Bool}

theorem append {a b : Text} (ha : Sober cells a) (hb : Sober cells b) : Sober cells (a ++ b) := by
  induction ha with
  | nil => exact hb
  | plain hx _ ih => exact plain hx ih
  | control hs _ ih =>
      rw [List.append_assoc]
      exact control hs ih
  | separator hcells _ ih => exact separator hcells ih

theorem of_plain {t : Text} (h : t.all plainCodePoint) : Sober cells t := by
  induction t with
  | nil => exact nil
  | cons x t ih =>
      obtain ⟨hx, ht⟩ := (Bool.and_eq_true _ _).mp h
      exact plain hx (ih ht)

theorem of_control {s : Text} (h : s ∈ controlSequences) : Sober cells s := by
  have hs : Sober cells (s ++ []) := control h nil
  rwa [List.append_nil] at hs

theorem backslashesBegin {t : Text} (h : Sober cells t) :
    Latex.backslashesBegin controlSequences false t = true := by
  induction h with
  | nil => rfl
  | plain hx _ ih =>
      rw [Latex.backslashesBegin, if_neg fun h => ne_of_plainCodePoint hx (by decide) h.1]
      exact ih
  | control hs _ ih => rw [backslashesBegin_control hs, ih]
  | separator _ _ ih => exact ih

theorem notMem {c : CodePoint} (hc : c ∈ Text.ofString "~^") {t : Text} (h : Sober cells t) :
    c ∉ t := by
  have hspecial : ∀ c ∈ Text.ofString "~^",
      c ∈ Text.ofString "\\&%$#_~^" ∧ c ≠ .scalar '&' := by
    decide
  obtain ⟨hplain, hcells⟩ := hspecial c hc
  induction h with
  | nil => exact List.not_mem_nil
  | plain hx _ ih =>
      exact List.mem_cons.not.mpr (not_or.mpr ⟨(ne_of_plainCodePoint hx hplain).symm, ih⟩)
  | control hs _ ih =>
      have hnot := (controlSequences_shape _ hs).2.2.1 c hc
      exact List.mem_append.not.mpr (not_or.mpr ⟨hnot, ih⟩)
  | separator _ _ ih => exact List.mem_cons.not.mpr (not_or.mpr ⟨hcells, ih⟩)

theorem onlyEscaped {c : CodePoint} (hc : c ∈ Text.ofString "&%#_$")
    (hcells : c = .scalar '&' → cells = false) {t : Text} (h : Sober cells t) :
    OnlyEscaped c t := by
  have hspecial : ∀ c ∈ Text.ofString "&%#_$",
      c ∈ Text.ofString "\\&%$#_~^" ∧ c ≠ .scalar '\\' := by
    decide
  obtain ⟨hplain, hslash⟩ := hspecial c hc
  induction h with
  | nil => exact OnlyEscaped.of_notMem List.not_mem_nil
  | @plain x t hx _ ih =>
      have hfirst : OnlyEscaped c [x] := OnlyEscaped.of_notMem fun hmem =>
        ne_of_plainCodePoint hx hplain (List.mem_singleton.mp hmem).symm
      exact hfirst.append ih
  | control hs _ ih =>
      rcases (controlSequences_shape _ hs).2.2.2 c hc with rfl | hnot
      · exact (OnlyEscaped.behind_backslash hslash).append ih
      · exact (OnlyEscaped.of_notMem hnot).append ih
  | separator htrue _ ih =>
      have hfirst : OnlyEscaped c [.scalar '&'] := OnlyEscaped.of_notMem fun hmem =>
        absurd (htrue.symm.trans (hcells (List.mem_singleton.mp hmem))) (by decide)
      exact hfirst.append ih

end Sober

/-! ## Every construction of the writer keeps such sequences -/

theorem sober_braced {cells : Bool} {a : Text} (h : Sober cells a) : Sober cells (braced a) :=
  ((Sober.of_plain (by decide)).append h).append (Sober.of_plain (by decide))

/-- A command is told from longer names by the brace that opens its argument. -/
theorem sober_command {cells : Bool} {name : String} {a : Text}
    (hname : Text.ofString ("\\" ++ name ++ "\x7b") ∈ controlSequences)
    (h : Sober cells a) : Sober cells (command name a) := by
  have hopen : Text.ofString ("\\" ++ name ++ "\x7b") =
      Text.ofString ("\\" ++ name) ++ Text.ofString "\x7b" := by
    simp [Text.ofString, Text.ofChars]
  rw [hopen] at hname
  rw [command, braced, ← List.append_assoc, ← List.append_assoc]
  exact ((Sober.of_control hname).append h).append (Sober.of_plain (by decide))

theorem compositional_sober (cells : Bool) : Compositional fun a _ => Sober cells a where
  nil := Sober.nil
  append := Sober.append
  layout := by
    intro t ht
    simp only [layoutTexts, List.mem_cons, List.not_mem_nil, or_false] at ht
    rcases ht with rfl | rfl | rfl | rfl | rfl
    · exact Sober.of_plain (by decide)
    · exact Sober.of_control (by simp [controlSequences, ownCommands])
    · exact Sober.of_control (by simp [controlSequences, ownCommands])
    · exact Sober.of_control (by simp [controlSequences, ownCommands])
    · have hrow : Sober cells (Text.ofString "\\\\\n") :=
        Sober.of_control (by simp [controlSequences, ownCommands])
      exact Sober.plain (x := .scalar ' ') (by decide) hrow
  braced h := sober_braced h
  command := by
    have hall : ∀ name ∈ commandNames,
        Text.ofString ("\\" ++ name ++ "\x7b") ∈ controlSequences := by
      simp [commandNames, controlSequences, ownCommands]
    intro name a a' hname h
    exact sober_command (hall name hname) h
  enclosed := by
    have hall : ∀ name ∈ environmentNames, (Text.ofString name).all plainCodePoint := by decide
    intro name a a' hname h
    have hplain : Sober cells (Text.ofString name) := Sober.of_plain (hall name hname)
    have hbegin : Sober cells (command "begin" (Text.ofString name)) :=
      sober_command (by simp [controlSequences, ownCommands]) hplain
    have hend : Sober cells (command "end" (Text.ofString name)) :=
      sober_command (by simp [controlSequences, ownCommands]) hplain
    exact (hbegin.append h).append hend

/-! ## What a document brings in is such a sequence -/

theorem plainCodePoint_of_notMem {x : CodePoint} (hx : x ∉ specialCodePoints) :
    plainCodePoint x := by
  have hall : ∀ c ∈ Text.ofString "\\&%$#_~^", c ∈ specialCodePoints := by decide
  exact decide_eq_true fun hmem => hx (hall x hmem)

theorem sober_nativeReplacement (cells : Bool) (x : CodePoint) :
    Sober cells (nativeReplacement x) := by
  rcases nativeReplacement_cases x with ⟨hx, _, hnative⟩ | ⟨s, hs, _, hnative⟩ |
    ⟨rule, hrule, hother, _, hnative⟩
  · rw [hnative]
    exact Sober.plain (plainCodePoint_of_notMem hx) Sober.nil
  · have hopen : Sober cells (Text.ofString "\\(") :=
      Sober.of_control (by simp [controlSequences, mathDelimiters])
    have hclose : Sober cells (Text.ofString "\\)") :=
      Sober.of_control (by simp [controlSequences, mathDelimiters])
    rw [hnative]
    rcases List.mem_pair.mp hs with rfl | rfl
    · exact hopen.append (Sober.plain (x := .scalar '<') (by decide) hclose)
    · exact hopen.append (Sober.plain (x := .scalar '>') (by decide) hclose)
  · have hrules : ∀ rule ∈ specials, rule.1 ∉ ['<', '>'] → rule.2 ∈ controlSequences := by
      simp [specials, controlSequences, escapeMacros]
    rw [hnative]
    exact Sober.of_control (hrules rule hrule hother)

theorem sober_literal (cells : Bool) (t : Text) : Sober cells (nativeMarking.literal t) := by
  induction t with
  | nil => exact Sober.nil
  | cons x t ih => exact (sober_nativeReplacement cells x).append ih

theorem sober_of_notMem {cells : Bool} {t : Text} (h : ∀ c ∈ t, c ∉ specialCodePoints) :
    Sober cells t :=
  Sober.of_plain (List.all_eq_true.mpr fun c hc => plainCodePoint_of_notMem (h c hc))

/-- A document has neither code nor math, and no target or path of its own that is special. -/
@[mk_iff]
structure ProseOnly (t : Node) : Prop where
  kinds : ∀ n ∈ t.nodes,
    ¬ n.isOfKind .codeBlock ∧ ¬ n.isOfKind .mathInline ∧ ¬ n.isOfKind .mathBlock
  target : ∀ n ∈ t.nodes, n.isOfKind .link →
    ∀ c ∈ n.attributes.get "href" [], c ∉ specialCodePoints
  path : ∀ n ∈ t.nodes, n.isOfKind .image →
    ∀ c ∈ n.attributes.get "src" [], c ∉ specialCodePoints

instance (t : Node) : Decidable (ProseOnly t) := decidable_of_iff _ (proseOnly_iff t).symm

theorem ProseOnly.distinctMath {t : Node} (h : ProseOnly t) : DistinctMath {} t where
  inline n hn hkind := absurd hkind (h.kinds n hn).2.1
  display n hn hkind := absurd hkind (h.kinds n hn).2.2
  code n hn hkind := absurd hkind (h.kinds n hn).1
  target n hn hkind hdollar := h.target n hn hkind _ hdollar (by decide)
  path n hn hkind hdollar := h.path n hn hkind _ hdollar (by decide)
  figurePlacement := by decide
  imageWidth := by decide
  tablePlacement := by decide
  columnSpec := by decide

theorem agreement_sober {cells : Bool} {t : Node} (h : ProseOnly t)
    (hcells : ∀ n ∈ t.nodes, n.isOfKind .table → cells = true) :
    Agreement (fun a _ => Sober cells a) nativeMarking nativeMarking {} t where
  leaf content _ := sober_literal cells content
  content n _ := sober_literal cells _
  description n _ _ := sober_literal cells _
  inlineMath n hn hkind := absurd hkind (h.kinds n hn).2.1
  displayMath n hn hkind := absurd hkind (h.kinds n hn).2.2
  code n hn hkind := absurd hkind (h.kinds n hn).1
  target n hn hkind := sober_command (by simp [controlSequences, ownCommands])
    (sober_of_notMem (h.target n hn hkind))
  graphics n hn hkind := by
    have hopen : Sober cells (Text.ofString "\\includegraphics[") :=
      Sober.of_control (by simp [controlSequences, ownCommands])
    have hclose : Sober cells (Text.ofString "\\textwidth]") :=
      Sober.of_control (by simp [controlSequences, ownCommands])
    have hplain : Sober cells (Text.ofString "width=1") := Sober.of_plain (by decide)
    have hwidth : Text.ofString "\\includegraphics" ++ bracketed
        (Text.ofString "width=" ++ Text.ofString "1\\textwidth") = Text.ofString
          "\\includegraphics[" ++ (Text.ofString "width=1" ++ Text.ofString "\\textwidth]") := by
      simp [bracketed, Text.ofString, Text.ofChars]
    rw [graphics, hwidth]
    exact (hopen.append (hplain.append hclose)).append
      (sober_braced (sober_of_notMem (h.path n hn hkind)))
  separator n hn hkind := Sober.plain (x := .scalar ' ') (by decide)
    (Sober.separator (hcells n hn hkind) (Sober.of_plain (by decide)))
  columns count := by
    have hall : ∀ c ∈ Text.ofString " c ", plainCodePoint c := by decide
    exact sober_braced (Sober.of_plain (List.all_eq_true.mpr fun c hc =>
      hall c (mem_of_mem_columns hc)))
  figurePlacement := Sober.of_plain (by decide)
  tablePlacement := Sober.of_plain (by decide)

theorem sober_renderDocument {cells : Bool} {t : Node} (h : ProseOnly t)
    (hcells : ∀ n ∈ t.nodes, n.isOfKind .table → cells = true) :
    Sober cells (renderDocument {} t) := by
  -- prose has no math that could be mistaken, so no second pass over the text has to be followed
  rw [renderDocument, if_pos rfl, restoreMath_render rfl h.distinctMath]
  exact (compositional_sober cells).renderWith (agreement_sober h hcells)

/-- A text holds no commands but those of the writer, and every other special character, the
ampersand aside, stands behind a backslash or not at all. -/
structure OwnCommandsOnly (t : Text) : Prop where
  backslashes : backslashesBegin controlSequences false t
  tilde : .scalar '~' ∉ t
  circumflex : .scalar '^' ∉ t
  escaped : ∀ c ∈ Text.ofString "%#_$", OnlyEscaped c t

theorem Sober.ownCommandsOnly {t : Text} (h : Sober true t) : OwnCommandsOnly t where
  backslashes := h.backslashesBegin
  tilde := h.notMem (by decide)
  circumflex := h.notMem (by decide)
  escaped := by
    have hall : ∀ c ∈ Text.ofString "%#_$", c ∈ Text.ofString "&%#_$" ∧ c ≠ .scalar '&' := by
      decide
    intro c hc
    exact h.onlyEscaped (hall c hc).1 fun heq => absurd heq (hall c hc).2

/-- The LaTeX of prose holds no commands but those of the writer, whatever its text leaves and
descriptions are. An ampersand stands by itself in tables only. -/
theorem renderDocument_ownCommandsOnly {t : Node} (h : ProseOnly t) :
    OwnCommandsOnly (renderDocument {} t) ∧
      ((∀ n ∈ t.nodes, ¬ n.isOfKind .table) →
        OnlyEscaped (.scalar '&') (renderDocument {} t)) := by
  constructor
  · have hsober : Sober true (renderDocument {} t) := sober_renderDocument h fun _ _ _ => rfl
    exact hsober.ownCommandsOnly
  · intro htable
    have hsober : Sober false (renderDocument {} t) :=
      sober_renderDocument h fun n hn hkind => absurd hkind (htable n hn)
    exact hsober.onlyEscaped (by decide) fun _ => rfl

/-- Prose whose text leaves and descriptions are made of what is special to LaTeX. -/
def hostileProse : Node :=
  .generic "document"
    [.ofKind .heading2 [.text (Text.ofString "\\"), .text (Text.ofString "input\x7bx\x7d%")] [],
     .ofKind .paragraph
      [.text (Text.ofString "\\"), .ofKind .bold [.text (Text.ofString "\\~^$_#&<")] [],
       .text (Text.ofString "[\\(>")] [],
     .ofKind .link [.ofKind .image [] [("src", some (Text.ofString "p.png")),
        ("alt", some (Text.ofString "\\end\x7bfigure\x7d&"))]]
      [("href", some (Text.ofString "u"))]]

theorem renderDocument_hostileProse : (∀ n ∈ hostileProse.nodes, ¬ n.isOfKind .table) ∧
    OwnCommandsOnly (renderDocument {} hostileProse) ∧
      OnlyEscaped (.scalar '&') (renderDocument {} hostileProse) := by
  have htable : ∀ n ∈ hostileProse.nodes, ¬ n.isOfKind .table := by decide
  have hprose : ProseOnly hostileProse := by decide +kernel
  obtain ⟨hcommands, hcells⟩ := renderDocument_ownCommandsOnly hprose
  exact ⟨htable, hcommands, hcells htable⟩

end MarkTex.Latex
