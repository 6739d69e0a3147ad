import MarkTex.Proofs.Latex.Composition
import MarkTex.Proofs.Latex.Escape
import MarkTex.Proofs.Latex.Restoration
import Mathlib.Data.List.Infix
import Mathlib.Tactic.MkIffOfInductiveProp

/-!
# Environments nest

A LaTeX text is read for the marks of its environments, `\begin` and `\end` with a name in braces,
from left to right; between the marks of a verbatim environment nothing is read. In the LaTeX of a
document the marks are properly nested, whatever its text leaves, descriptions and code hold: every
part that the writer puts together is read on its own and leaves the reading as it found it.
Restoring math exchanges dollars for delimiters and thereby neither makes nor breaks a mark.
-/

namespace MarkTex.Latex

/-- A place where an environment opens or closes. -/
inductive EnvironmentMark where
  | opens (name : Text)
  | closes (name : Text)
deriving DecidableEq

/-- The name of the environment. -/
def EnvironmentMark.name : EnvironmentMark → Text
  | opens name => name
  | closes name => name

/-- What opens an environment, up to its name. -/
def beginMark : Text := Text.ofString "\\begin\x7b"

/-- What closes an environment, up to its name. -/
def endMark : Text := Text.ofString "\\end\x7b"

/-- What closes a verbatim environment. -/
def verbatimEnd : Text := Text.ofString "\\end\x7bverbatim\x7d"

/-- The text before the next closing brace. -/
def beforeBrace (t : Text) : Text := t.takeWhile (· ≠ .scalar '\x7d')

/-- The mark with which a text begins. -/
def markAt? (t : Text) : Option EnvironmentMark :=
  if beginMark <+: t then some (.opens (beforeBrace (t.drop beginMark.length)))
  else if endMark <+: t then some (.closes (beforeBrace (t.drop endMark.length)))
  else none

/-- The marks of environments in a text, from left to right. The flag says whether the text begins
in a verbatim environment, where nothing is read but its end. -/
def environmentMarks (verbatim : Bool) : Text → List EnvironmentMark
  | [] => []
  | c :: rest =>
    if verbatim then
      if verbatimEnd <+: c :: rest then
        .closes (Text.ofString "verbatim") :: environmentMarks false rest
      else environmentMarks true rest
    else
      match markAt? (c :: rest) with
      | some (.opens name) =>
        .opens name :: environmentMarks (name = Text.ofString "verbatim") rest
      | some (.closes name) => .closes name :: environmentMarks false rest
      | none => environmentMarks false rest

/-- The words of marks in which every environment that opens is closed under its own name, what
opens in between first, and nothing else is closed. -/
inductive ProperlyNested : List EnvironmentMark → Prop
  | nil : ProperlyNested []
  | enclosed {inner after : List EnvironmentMark} (name : Text) : ProperlyNested inner →
      ProperlyNested after → ProperlyNested (.opens name :: (inner ++ .closes name :: after))

theorem ProperlyNested.append {a b : List EnvironmentMark} (ha : ProperlyNested a)
    (hb : ProperlyNested b) : ProperlyNested (a ++ b) := by
  induction ha with
  | nil => exact hb
  | enclosed name hinner _ _ ih =>
      have hnested := enclosed name hinner ih
      simpa using hnested

/-! ## Reading past text without marks -/

theorem markAt?_of_ne_backslash {c : CodePoint} (h : c ≠ .scalar '\\') (rest : Text) :
    markAt? (c :: rest) = none := by
  have hbegin : ¬ beginMark <+: c :: rest := fun hp =>
    h (List.cons_prefix_cons.mp hp).1.symm
  have hend : ¬ endMark <+: c :: rest := fun hp =>
    h (List.cons_prefix_cons.mp hp).1.symm
  rw [markAt?, if_neg hbegin, if_neg hend]

theorem environmentMarks_of_markAt? {c : CodePoint} {rest : Text} (h : markAt? (c :: rest) = none) :
    environmentMarks false (c :: rest) = environmentMarks false rest := by
  simp only [environmentMarks, Bool.false_eq_true, if_false, h]

theorem environmentMarks_verbatim {c : CodePoint} {rest : Text} (h : ¬ verbatimEnd <+: c :: rest) :
    environmentMarks true (c :: rest) = environmentMarks true rest := by
  simp only [environmentMarks, if_true, if_neg h]

theorem environmentMarks_of_ne_backslash {c : CodePoint} (h : c ≠ .scalar '\\') (verbatim : Bool)
    (rest : Text) : environmentMarks verbatim (c :: rest) = environmentMarks verbatim rest := by
  cases verbatim with
  | false => exact environmentMarks_of_markAt? (markAt?_of_ne_backslash h rest)
  | true => exact environmentMarks_verbatim fun hp => h (List.cons_prefix_cons.mp hp).1.symm

theorem environmentMarks_of_notMem {a : Text} (h : .scalar '\\' ∉ a) (verbatim : Bool)
    (rest : Text) : environmentMarks verbatim (a ++ rest) = environmentMarks verbatim rest := by
  induction a with
  | nil => rfl
  | cons c a ih =>
      obtain ⟨hc, ha⟩ := not_or.mp (List.mem_cons.not.mp h)
      rw [List.cons_append, environmentMarks_of_ne_backslash (Ne.symm hc), ih ha]

/-- Whether every backslash of a text stands before a character of the text with which no mark goes
on. -/
def marksRuledOut : Text → Bool
  | [] => true
  | c :: rest =>
    (c ≠ .scalar '\\' || rest.head?.any fun d => d ≠ .scalar 'b' && d ≠ .scalar 'e') &&
      marksRuledOut rest

theorem markAt?_of_head? {rest : Text} (h : rest.head?.any fun d =>
    d ≠ .scalar 'b' && d ≠ .scalar 'e') (c : CodePoint) : markAt? (c :: rest) = none := by
  cases rest with
  | nil => simp at h
  | cons d rest =>
      simp only [List.head?_cons, Option.any_some, Bool.and_eq_true, decide_eq_true_eq] at h
      have hbegin : ¬ beginMark <+: c :: d :: rest := fun hp =>
        h.1 (List.cons_prefix_cons.mp (List.cons_prefix_cons.mp hp).2).1.symm
      have hend : ¬ endMark <+: c :: d :: rest := fun hp =>
        h.2 (List.cons_prefix_cons.mp (List.cons_prefix_cons.mp hp).2).1.symm
      rw [markAt?, if_neg hbegin, if_neg hend]

theorem environmentMarks_of_marksRuledOut {a : Text} (h : marksRuledOut a) (rest : Text) :
    environmentMarks false (a ++ rest) = environmentMarks false rest := by
  induction a with
  | nil => rfl
  | cons c a ih =>
      obtain ⟨hc, ha⟩ := (Bool.and_eq_true _ _).mp h
      rw [List.cons_append, environmentMarks_of_markAt?, ih ha]
      rcases (Bool.or_eq_true _ _).mp hc with hne | hhead
      · exact markAt?_of_ne_backslash (of_decide_eq_true hne) _
      · apply markAt?_of_head?
        cases a with
        | nil => simp at hhead
        | cons d a => exact hhead

/-- A pattern that does not occur in a text is not made by a character behind the text that the
pattern does not hold. -/
theorem not_begins_append_cons {p a : Text} {d : CodePoint} (hd : d ∉ p) (h : ¬ p <:+: a)
    (rest : Text) : ¬ p <+: a ++ d :: rest := by
  intro hp
  -- the pattern ends within the text or reaches the code point behind it
  rcases List.prefix_or_prefix_of_prefix hp (List.prefix_append a (d :: rest)) with ha | ⟨q, rfl⟩
  · exact h ha.isInfix
  · cases q with
    | nil => exact h (by simp)
    | cons x q =>
        have hx := (List.cons_prefix_cons.mp ((List.prefix_append_right_inj a).mp hp)).1
        exact hd (by simp [hx])

/-- Neither an opening nor a closing mark occurs in a text. -/
def MarkFree (t : Text) : Prop := ¬ beginMark <:+: t ∧ ¬ endMark <:+: t

instance (t : Text) : Decidable (MarkFree t) := inferInstanceAs (Decidable (_ ∧ _))

theorem environmentMarks_of_markFree {a : Text} {d : CodePoint} (ha : MarkFree a)
    (hd : d ∉ beginMark ∧ d ∉ endMark) (rest : Text) :
    environmentMarks false (a ++ d :: rest) = environmentMarks false rest := by
  induction a with
  | nil =>
      have hne : d ≠ .scalar '\\' := fun h => hd.1 (h ▸ by decide)
      exact environmentMarks_of_markAt? (markAt?_of_ne_backslash hne rest)
  | cons c a ih =>
      have hnone : markAt? (c :: a ++ d :: rest) = none := by
        rw [markAt?, if_neg (not_begins_append_cons hd.1 ha.1 rest),
          if_neg (not_begins_append_cons hd.2 ha.2 rest)]
      have hfree : MarkFree a := ⟨fun h => ha.1 (h.trans (List.suffix_cons c a).isInfix),
        fun h => ha.2 (h.trans (List.suffix_cons c a).isInfix)⟩
      rw [List.cons_append] at hnone ⊢
      rw [environmentMarks_of_markAt? hnone, ih hfree]

/-! ## Reading a verbatim environment -/

theorem environmentMarks_code {code : Text} (h : ¬ verbatimEnd <:+: code) (rest : Text) :
    environmentMarks true (code ++ .scalar '\n' :: rest) = environmentMarks true rest := by
  induction code with
  | nil => exact environmentMarks_of_ne_backslash (by decide) true rest
  | cons c code ih =>
      have hend := not_begins_append_cons (d := .scalar '\n') (by decide) h rest
      rw [List.cons_append] at hend ⊢
      rw [environmentMarks_verbatim hend]
      exact ih fun hp => h (hp.trans (List.suffix_cons c code).isInfix)

/-! ## Reading the marks of the writer -/

theorem beforeBrace_append {name : Text} (h : .scalar '\x7d' ∉ name) (rest : Text) :
    beforeBrace (name ++ .scalar '\x7d' :: rest) = name := by
  induction name with
  | nil => rfl
  | cons c name ih =>
      obtain ⟨hc, hname⟩ := not_or.mp (List.mem_cons.not.mp h)
      have hne : c ≠ .scalar '\x7d' := Ne.symm hc
      simp only [beforeBrace, List.cons_append, List.takeWhile_cons, hne, decide_true, ne_eq,
        not_false_eq_true, if_true] at ih ⊢
      rw [ih hname]

/-- A name that can stand between braces. -/
def namesEnvironment (name : Text) : Bool :=
  .scalar '\\' ∉ name && .scalar '\x7d' ∉ name && .scalar '$' ∉ name

theorem command_append_eq_cons (name : String) (argument rest : Text) :
    command name argument ++ rest =
      .scalar '\\' :: (Text.ofString name ++ braced argument ++ rest) := by
  simp [command, Text.ofString, Text.ofChars]

theorem markAt?_begin {name : Text} (h : .scalar '\x7d' ∉ name) (rest : Text) :
    markAt? (command "begin" name ++ rest) = some (.opens name) := by
  have hsplit : command "begin" name ++ rest =
      beginMark ++ (name ++ .scalar '\x7d' :: rest) := by
    simp [command, braced, beginMark, Text.ofString, Text.ofChars]
  rw [hsplit, markAt?, if_pos (List.prefix_append _ _), List.drop_left, beforeBrace_append h]

theorem markAt?_end {name : Text} (h : .scalar '\x7d' ∉ name) (rest : Text) :
    markAt? (command "end" name ++ rest) = some (.closes name) := by
  have hsplit : command "end" name ++ rest = endMark ++ (name ++ .scalar '\x7d' :: rest) := by
    simp [command, braced, endMark, Text.ofString, Text.ofChars]
  have hbegin : ∀ tail, ¬ beginMark <+: endMark ++ tail := by
    intro tail hp
    have hsecond := (List.cons_prefix_cons.mp (List.cons_prefix_cons.mp hp).2).1
    exact absurd hsecond (by decide)
  rw [hsplit, markAt?, if_neg (hbegin _), if_pos (List.prefix_append _ _), List.drop_left,
    beforeBrace_append h]

/-- Behind its backslash a mark holds nothing that is read. -/
theorem backslash_notMem_tail {edge : String} (hedge : .scalar '\\' ∉ Text.ofString edge)
    {name : Text} (hname : .scalar '\\' ∉ name) :
    .scalar '\\' ∉ Text.ofString edge ++ braced name := by
  have hopen : .scalar '\\' ∉ Text.ofString "\x7b" := by decide
  have hclose : .scalar '\\' ∉ Text.ofString "\x7d" := by decide
  simp only [braced, List.mem_append, not_or]
  exact ⟨hedge, ⟨hopen, hname⟩, hclose⟩

theorem environmentMarks_begin {name : Text} (h : namesEnvironment name) (rest : Text) :
    environmentMarks false (command "begin" name ++ rest) = .opens name ::
      environmentMarks (name = Text.ofString "verbatim") rest := by
  simp only [namesEnvironment, Bool.and_eq_true, decide_eq_true_eq] at h
  obtain ⟨⟨hslash, hbrace⟩, _⟩ := h
  have hmark := markAt?_begin hbrace rest
  rw [command_append_eq_cons] at hmark ⊢
  simp only [environmentMarks, Bool.false_eq_true, if_false, hmark]
  rw [environmentMarks_of_notMem (backslash_notMem_tail (by decide) hslash)]

theorem environmentMarks_end {name : Text} (h : namesEnvironment name) (rest : Text) :
    environmentMarks false (command "end" name ++ rest) =
      .closes name :: environmentMarks false rest := by
  simp only [namesEnvironment, Bool.and_eq_true, decide_eq_true_eq] at h
  obtain ⟨⟨hslash, hbrace⟩, _⟩ := h
  have hmark := markAt?_end hbrace rest
  rw [command_append_eq_cons] at hmark ⊢
  simp only [environmentMarks, Bool.false_eq_true, if_false, hmark]
  rw [environmentMarks_of_notMem (backslash_notMem_tail (by decide) hslash)]

theorem environmentMarks_verbatimEnd (rest : Text) : environmentMarks true (verbatimEnd ++ rest) =
    .closes (Text.ofString "verbatim") :: environmentMarks false rest := by
  have hend : verbatimEnd <+: .scalar '\\' :: (verbatimEnd.tail ++ rest) :=
    List.prefix_append verbatimEnd rest
  change environmentMarks true (.scalar '\\' :: (verbatimEnd.tail ++ rest)) = _
  simp only [environmentMarks, if_true, if_pos hend]
  rw [environmentMarks_of_notMem (by decide)]

/-! ## Parts that are read on their own -/

/-- Whatever follows a part of a text, the part is read as properly nested marks, and the rest as if
it stood alone. -/
def NestsAlone (part : Text) : Prop :=
  ∃ marks, ProperlyNested marks ∧ (∀ mark ∈ marks, .scalar '$' ∉ mark.name) ∧
    ∀ rest, environmentMarks false (part ++ rest) = marks ++ environmentMarks false rest

namespace NestsAlone

theorem of_passed {a : Text}
    (h : ∀ rest, environmentMarks false (a ++ rest) = environmentMarks false rest) :
    NestsAlone a :=
  ⟨[], ProperlyNested.nil, fun _ hmark => absurd hmark List.not_mem_nil, h⟩

theorem of_marksRuledOut {a : Text} (h : marksRuledOut a) : NestsAlone a :=
  of_passed (environmentMarks_of_marksRuledOut h)

theorem of_notMem {a : Text} (h : .scalar '\\' ∉ a) : NestsAlone a :=
  of_passed (environmentMarks_of_notMem h false)

theorem append {a b : Text} (ha : NestsAlone a) (hb : NestsAlone b) : NestsAlone (a ++ b) := by
  obtain ⟨marks, hmarks, hnames, hread⟩ := ha
  obtain ⟨marks', hmarks', hnames', hread'⟩ := hb
  refine ⟨marks ++ marks', hmarks.append hmarks', ?_, ?_⟩
  · intro mark hmark
    exact (List.mem_append.mp hmark).elim (hnames mark) (hnames' mark)
  · intro rest
    rw [List.append_assoc, hread, hread', List.append_assoc]

/-- A text in which no mark occurs may stand between two that are read on their own if no mark goes
on at the second. -/
theorem between {a t b : Text} {d : CodePoint} (ha : NestsAlone a) (ht : MarkFree t)
    (hd : d ∉ beginMark ∧ d ∉ endMark) (hb : NestsAlone b) : NestsAlone (a ++ t ++ d :: b) := by
  have hinner : NestsAlone (t ++ [d]) := by
    apply of_passed
    intro rest
    rw [List.append_assoc]
    exact environmentMarks_of_markFree ht hd rest
  have hall := (ha.append hinner).append hb
  rw [← List.append_assoc, List.append_assoc _ [d]] at hall
  exact hall

theorem enclosed {name : String} (hname : namesEnvironment (Text.ofString name))
    (hverbatim : Text.ofString name ≠ Text.ofString "verbatim") {a : Text} (ha : NestsAlone a) :
    NestsAlone (Latex.enclosed name a) := by
  obtain ⟨marks, hmarks, hnames, hread⟩ := ha
  have hdollar : .scalar '$' ∉ Text.ofString name := by
    simp only [namesEnvironment, Bool.and_eq_true, decide_eq_true_eq] at hname
    exact hname.2
  refine ⟨.opens (Text.ofString name) :: (marks ++ [.closes (Text.ofString name)]),
    ProperlyNested.enclosed _ hmarks ProperlyNested.nil, ?_, ?_⟩
  · intro mark hmark
    simp only [List.mem_cons, List.mem_append, List.not_mem_nil, or_false] at hmark
    rcases hmark with rfl | hmark | rfl
    · exact hdollar
    · exact hnames mark hmark
    · exact hdollar
  · intro rest
    rw [Latex.enclosed, List.append_assoc, List.append_assoc, environmentMarks_begin hname,
      decide_eq_false hverbatim, hread, environmentMarks_end hname]
    simp

theorem code {code : Text} (h : ¬ verbatimEnd <:+: code) :
    NestsAlone (environment "verbatim" code) := by
  refine ⟨[.opens (Text.ofString "verbatim"), .closes (Text.ofString "verbatim")],
    ProperlyNested.enclosed _ ProperlyNested.nil ProperlyNested.nil, by decide, ?_⟩
  intro rest
  have hsplit : environment "verbatim" code ++ rest = command "begin" (Text.ofString "verbatim") ++
      ([.scalar '\n'] ++ (code ++ .scalar '\n' :: (verbatimEnd ++ rest))) := by
    simp [environment, Latex.enclosed, command, braced, verbatimEnd, Text.ofString, Text.ofChars]
  rw [hsplit, environmentMarks_begin (by decide), decide_eq_true rfl,
    environmentMarks_of_notMem (by decide), environmentMarks_code h,
    environmentMarks_verbatimEnd]
  rfl

end NestsAlone

example : environmentMarks false (environment "itemize" (Text.ofString "\\end\x7ba\x7d")) =
    [.opens (Text.ofString "itemize"), .closes (Text.ofString "a"),
      .closes (Text.ofString "itemize")] := by
  decide

/-! ## Every construction of the writer is read on its own -/

theorem nestsAlone_braced {a : Text} (h : NestsAlone a) : NestsAlone (braced a) :=
  ((NestsAlone.of_marksRuledOut (by decide)).append h).append
    (NestsAlone.of_marksRuledOut (by decide))

theorem compositional_nestsAlone : Compositional fun a _ => NestsAlone a where
  nil := NestsAlone.of_marksRuledOut rfl
  append := NestsAlone.append
  layout := by
    have hall : ∀ t ∈ layoutTexts, marksRuledOut t := by decide
    intro t ht
    exact NestsAlone.of_marksRuledOut (hall t ht)
  braced h := nestsAlone_braced h
  command := by
    have hall : ∀ name ∈ commandNames, marksRuledOut (Text.ofString ("\\" ++ name)) := by decide
    intro name a a' hname h
    exact (NestsAlone.of_marksRuledOut (hall name hname)).append (nestsAlone_braced h)
  enclosed := by
    have hall : ∀ name ∈ environmentNames, namesEnvironment (Text.ofString name) ∧
        Text.ofString name ≠ Text.ofString "verbatim" := by
      decide
    intro name a a' hname h
    exact NestsAlone.enclosed (hall name hname).1 (hall name hname).2 h

/-! ## What a document brings in is read on its own -/

/-- Escaped text has no backslash but those of the replacements, and none of these begins a mark. -/
theorem nestsAlone_escape (t : Text) : NestsAlone (escape t) := by
  apply escape_induction
  · exact NestsAlone.of_marksRuledOut rfl
  · exact fun _ _ => NestsAlone.append
  · intro x hx
    apply NestsAlone.of_notMem
    rw [List.mem_singleton]
    rintro rfl
    exact hx (by decide)
  · have hall : ∀ rule ∈ specials, marksRuledOut rule.2 := by decide
    exact fun rule hrule => NestsAlone.of_marksRuledOut (hall rule hrule)

theorem nestsAlone_literal {o : RenderOptions} (hescape : o.escapeSpecial = true) (t : Text) :
    NestsAlone (o.dollars.literal t) := by
  simp only [RenderOptions.dollars, RenderOptions.escape, hescape, if_true]
  exact nestsAlone_escape t

theorem nestsAlone_bracketed {t : Text} (h : MarkFree t) : NestsAlone (bracketed t) :=
  NestsAlone.between (NestsAlone.of_notMem (by decide)) h (by decide)
    (NestsAlone.of_notMem List.not_mem_nil)

/-- A text between braces, unlike one that is read on its own, may end with the beginning of a mark.
-/
theorem nestsAlone_braced_of_markFree {t : Text} (h : MarkFree t) : NestsAlone (braced t) :=
  NestsAlone.between (NestsAlone.of_notMem (by decide)) h (by decide)
    (NestsAlone.of_notMem List.not_mem_nil)

/-- Nothing that a document or the options bring in as it stands holds the mark of an environment;
code may hold all but the end of its own. -/
@[mk_iff]
structure ForeignMarksOnlyInCode (o : RenderOptions) (t : Node) : Prop where
  math : ∀ n ∈ t.nodes, n.isOfKind .mathInline ∨ n.isOfKind .mathBlock → MarkFree n.textContent
  code : ∀ n ∈ t.nodes, n.isOfKind .codeBlock → ¬ verbatimEnd <:+: n.textContent
  target : ∀ n ∈ t.nodes, n.isOfKind .link → MarkFree (n.attributes.get "href" [])
  path : ∀ n ∈ t.nodes, n.isOfKind .image → MarkFree (n.attributes.get "src" [])
  figurePlacement : MarkFree o.figurePlacement
  imageWidth : MarkFree o.imageWidth
  tablePlacement : MarkFree o.tablePlacement
  columnSpec : .scalar '\\' ∉ o.columnSpec

set_option synthInstance.maxSize 512 in
instance (o : RenderOptions) (t : Node) : Decidable (ForeignMarksOnlyInCode o t) :=
  decidable_of_iff _ (foreignMarksOnlyInCode_iff o t).symm

theorem agreement_nestsAlone {o : RenderOptions} {t : Node} (hescape : o.escapeSpecial = true)
    (h : ForeignMarksOnlyInCode o t) :
    Agreement (fun a _ => NestsAlone a) o.dollars o.dollars o t where
  leaf content _ := nestsAlone_literal hescape content
  content n _ := nestsAlone_literal hescape _
  description n _ _ := nestsAlone_literal hescape _
  inlineMath n hn hkind := NestsAlone.between (NestsAlone.of_notMem (by decide))
    (h.math n hn (Or.inl hkind)) (by decide) (NestsAlone.of_notMem List.not_mem_nil)
  displayMath n hn hkind := NestsAlone.between (NestsAlone.of_notMem (by decide))
    (h.math n hn (Or.inr hkind)) (by decide)
    (NestsAlone.of_notMem (a := Text.ofString "$") (by decide))
  code n hn hkind := NestsAlone.code (h.code n hn hkind)
  target n hn hkind := (NestsAlone.of_marksRuledOut (by decide)).append
    (nestsAlone_braced_of_markFree (h.target n hn hkind))
  graphics n hn hkind := by
    have hopen : NestsAlone (Text.ofString "\\includegraphics[width=") :=
      NestsAlone.of_marksRuledOut (by decide)
    have hgraphics := NestsAlone.between hopen h.imageWidth (d := .scalar ']') (by decide)
      (nestsAlone_braced_of_markFree (h.path n hn hkind))
    simpa [graphics, bracketed, Text.ofString, Text.ofChars] using hgraphics
  separator n _ _ := NestsAlone.of_notMem (by decide)
  columns count := nestsAlone_braced (NestsAlone.of_notMem fun hmem =>
    h.columnSpec (mem_of_mem_columns hmem))
  figurePlacement := nestsAlone_bracketed h.figurePlacement
  tablePlacement := nestsAlone_bracketed h.tablePlacement

/-! ## Restoring math keeps all marks -/

/-- A backslash before one of the delimiters of math begins no mark. -/
theorem environmentMarks_delimiter {c : Char} (hc : c ≠ 'b' ∧ c ≠ 'e' ∧ c ≠ '\\') (verbatim : Bool)
    (rest : Text) : environmentMarks verbatim (.scalar '\\' :: .scalar c :: rest) =
      environmentMarks verbatim rest := by
  have hnext : CodePoint.scalar c ≠ .scalar '\\' := fun heq => hc.2.2 (CodePoint.scalar.inj heq)
  rw [← environmentMarks_of_ne_backslash hnext verbatim rest]
  cases verbatim with
  | false =>
      apply environmentMarks_of_markAt?
      apply markAt?_of_head?
      simp [hc.1, hc.2.1]
  | true =>
      apply environmentMarks_verbatim
      intro hp
      have hsecond := (List.cons_prefix_cons.mp (List.cons_prefix_cons.mp hp).2).1
      exact hc.2.1 (CodePoint.scalar.inj hsecond).symm

namespace Redelimited

theorem prefix_iff {p t t' : Text} (hdollar : .scalar '$' ∉ p) (hslash : .scalar '\\' ∉ p)
    (h : Redelimited t t') : p <+: t' ↔ p <+: t := by
  induction h generalizing p with
  | nil => rfl
  | keep c _ ih =>
      cases p with
      | nil => simp
      | cons x p =>
          rw [List.cons_prefix_cons, List.cons_prefix_cons,
            ih (fun hmem => hdollar (List.mem_cons_of_mem x hmem))
              fun hmem => hslash (List.mem_cons_of_mem x hmem)]
  | inline c _ _ _ | display c _ _ _ =>
      cases p with
      | nil => simp
      | cons x p =>
          rw [List.cons_prefix_cons, List.cons_prefix_cons]
          have hx : x ≠ .scalar '$' := fun heq => hdollar (heq ▸ List.mem_cons_self)
          have hx' : x ≠ .scalar '\\' := fun heq => hslash (heq ▸ List.mem_cons_self)
          simp [hx, hx']

/-- A pattern that begins at a code point which both texts keep. -/
theorem prefix_keep_iff {p t t' : Text} (hdollar : .scalar '$' ∉ p.tail)
    (hslash : .scalar '\\' ∉ p.tail) (c : CodePoint) (h : Redelimited t t') :
    p <+: c :: t' ↔ p <+: c :: t := by
  cases p with
  | nil => simp
  | cons x p =>
      have htail : p <+: t' ↔ p <+: t := h.prefix_iff hdollar hslash
      rw [List.cons_prefix_cons, List.cons_prefix_cons, htail]

theorem drop_length {p t t' : Text} (hdollar : .scalar '$' ∉ p) (hp : p <+: t)
    (h : Redelimited t t') : Redelimited (t.drop p.length) (t'.drop p.length) := by
  induction p generalizing t t' with
  | nil => exact h
  | cons x p ih =>
      obtain ⟨hx, hdollar⟩ := not_or.mp (List.mem_cons.not.mp hdollar)
      cases h with
      | nil => exact absurd (List.prefix_nil.mp hp) (by simp)
      | keep c h => exact ih hdollar (List.cons_prefix_cons.mp hp).2 h
      | inline c _ h | display c _ h => exact absurd (List.cons_prefix_cons.mp hp).1.symm hx

theorem beforeBrace {t t' : Text} (h : Redelimited t t')
    (hdollar : .scalar '$' ∉ Latex.beforeBrace t) : Latex.beforeBrace t' = Latex.beforeBrace t := by
  induction h with
  | nil => rfl
  | keep c _ ih =>
      simp only [Latex.beforeBrace, List.takeWhile_cons] at hdollar ih ⊢
      split
      next hc =>
        rw [if_pos hc] at hdollar
        rw [ih fun hmem => hdollar (List.mem_cons_of_mem c hmem)]
      next => rfl
  | inline c _ _ _ | display c _ _ _ => exact absurd List.mem_cons_self hdollar

theorem markAt? {t t' : Text} (c : CodePoint) (h : Redelimited t t')
    (hdollar : ∀ mark ∈ Latex.markAt? (c :: t), .scalar '$' ∉ mark.name) :
    Latex.markAt? (c :: t') = Latex.markAt? (c :: t) := by
  have hbegin := h.prefix_keep_iff (p := beginMark) (by decide) (by decide) c
  have hend := h.prefix_keep_iff (p := endMark) (by decide) (by decide) c
  simp only [Latex.markAt?, hbegin, hend] at hdollar ⊢
  split
  next hmark =>
    rw [if_pos hmark] at hdollar
    have hname := (drop_length (by decide) hmark (keep c h)).beforeBrace (hdollar _ rfl)
    rw [hname]
  next hnot =>
    rw [if_neg hnot] at hdollar
    split
    next hmark =>
      rw [if_pos hmark] at hdollar
      have hname := (drop_length (by decide) hmark (keep c h)).beforeBrace (hdollar _ rfl)
      rw [hname]
    next => rfl

/-- Of each construction, the marks of the two texts are compared at its first code points, in and
out of a verbatim environment. -/
theorem environmentMarks_eq {t t' : Text} (h : Redelimited t t') (verbatim : Bool)
    (hdollar : ∀ mark ∈ environmentMarks verbatim t, .scalar '$' ∉ mark.name) :
    environmentMarks verbatim t' = environmentMarks verbatim t := by
  induction h generalizing verbatim with
  | nil => rfl
  | @keep t t' c h ih =>
      cases verbatim with
      | true =>
          -- the end of a verbatim environment holds no dollar: it stands in both texts or in none
          have hend := h.prefix_keep_iff (p := verbatimEnd) (by decide) (by decide) c
          simp only [environmentMarks, if_true, hend] at hdollar ⊢
          split
          next hp =>
            rw [if_pos hp] at hdollar
            rw [ih false fun mark hmark => hdollar mark (List.mem_cons_of_mem _ hmark)]
          next hp =>
            rw [if_neg hp] at hdollar
            exact ih true hdollar
      | false =>
          simp only [environmentMarks, Bool.false_eq_true, if_false] at hdollar ⊢
          cases hmark : Latex.markAt? (c :: t) with
          | none =>
              rw [hmark] at hdollar
              rw [h.markAt? c (by simp [hmark]), hmark]
              exact ih false hdollar
          | some mark =>
              rw [hmark] at hdollar
              have hname : ∀ mark ∈ Latex.markAt? (c :: t), .scalar '$' ∉ mark.name := by
                intro found hfound
                cases hmark.symm.trans hfound
                cases mark <;> exact hdollar _ List.mem_cons_self
              rw [h.markAt? c hname, hmark]
              cases mark with
              | opens name =>
                  exact congrArg _ (ih _ fun m hmem => hdollar m (List.mem_cons_of_mem _ hmem))
              | closes name =>
                  exact congrArg _ (ih _ fun m hmem => hdollar m (List.mem_cons_of_mem _ hmem))
  | @inline t t' c hc h ih =>
      have hleft : environmentMarks verbatim (.scalar '$' :: t) = environmentMarks verbatim t :=
        environmentMarks_of_ne_backslash (by decide) verbatim t
      have hright : environmentMarks verbatim (.scalar '\\' :: .scalar c :: t') =
          environmentMarks verbatim t' :=
        environmentMarks_delimiter (by rcases hc with rfl | rfl <;> decide) verbatim t'
      rw [hleft] at hdollar
      rw [hleft, hright, ih verbatim hdollar]
  | @display t t' c hc h ih =>
      have hleft : environmentMarks verbatim (.scalar '$' :: .scalar '$' :: t) =
          environmentMarks verbatim t := by
        rw [environmentMarks_of_ne_backslash (by decide),
          environmentMarks_of_ne_backslash (by decide)]
      have hright : environmentMarks verbatim (.scalar '\\' :: .scalar c :: t') =
          environmentMarks verbatim t' :=
        environmentMarks_delimiter (by rcases hc with rfl | rfl <;> decide) verbatim t'
      rw [hleft] at hdollar
      rw [hleft, hright, ih verbatim hdollar]

end Redelimited

/-- The marks of the environments in the LaTeX of a document are properly nested. -/
theorem renderDocument_properlyNested {o : RenderOptions} {t : Node}
    (hescape : o.escapeSpecial = true) (h : ForeignMarksOnlyInCode o t) :
    ProperlyNested (environmentMarks false (renderDocument o t)) := by
  obtain ⟨marks, hmarks, hnames, hread⟩ :=
    compositional_nestsAlone.renderWith (agreement_nestsAlone hescape h)
  have hrendered : environmentMarks false (render o t) = marks := by
    have hend := hread []
    rwa [List.append_nil, environmentMarks, List.append_nil] at hend
  rw [renderDocument]
  split
  · -- the names of the marks come from the writer and hold no dollar that could be exchanged
    have hrestored := (redelimited_restoreMath (render o t)).environmentMarks_eq false
      (hrendered.symm ▸ hnames)
    rw [hrestored, hrendered]
    exact hmarks
  · rw [hrendered]
    exact hmarks

/-- Lists in lists, a table in a list and a figure in a link, among text, code, math and
descriptions that hold marks or parts of marks. -/
def markedDocument : Node :=
  .generic "document"
    [.ofKind .unorderedList
      [.ofKind .listItem
        [.text (Text.ofString "\\begin\x7bitemize\x7d\\"), .ofKind .mathInline
            [.text (Text.ofString "$\\begin")] [],
         .ofKind .orderedList [.ofKind .listItem [.text (Text.ofString "\\end\x7b")] []] [],
         .ofKind .table
            [.ofKind .tableRow [.ofKind .tableCell [.text (Text.ofString "\\")] []] []] []]
        []] [],
     .ofKind .codeBlock
      [.text (Text.ofString "\\begin\x7bverbatim\x7d$$\\end\x7bitemize\x7d\\")] [],
     .ofKind .link
      [.ofKind .image [] [("src", some (Text.ofString "\\end")),
        ("alt", some (Text.ofString "\\end\x7bfigure\x7d"))]]
      [("href", some (Text.ofString "\\begin"))]]

theorem renderDocument_markedDocument : ForeignMarksOnlyInCode {} markedDocument ∧
    ProperlyNested (environmentMarks false (renderDocument {} markedDocument)) := by
  have hforeign : ForeignMarksOnlyInCode {} markedDocument := by decide
  exact ⟨hforeign, renderDocument_properlyNested rfl hforeign⟩

end MarkTex.Latex
