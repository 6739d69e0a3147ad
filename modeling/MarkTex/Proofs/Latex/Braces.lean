import MarkTex.Proofs.Latex.Composition
import MarkTex.Proofs.Latex.Escape
import MarkTex.Proofs.Latex.Restoration
import Mathlib.Data.List.Infix
import Mathlib.Tactic.MkIffOfInductiveProp

/-!
# Braces stay balanced

Read from left to right, a text opens and closes braces. Escaping, trimming and restoring math put
in and take out nothing but balanced pieces, so they leave the depth at the end of every text as it
was, at whatever depth the reading began. The writer puts braces in pairs around what it writes.
Hence the LaTeX of a document is balanced under all options as soon as what the document and the
options bring in is.
-/

namespace MarkTex.Latex

/-- What a code point adds to the number of braces that are open. -/
def braceWeight (c : CodePoint) : Int :=
  if c = .scalar '\x7b' then 1 else if c = .scalar '\x7d' then -1 else 0

/-- The opening braces of a text less the closing ones. -/
def braceExcess : Text → Int
  | [] => 0
  | c :: t => braceWeight c + braceExcess t

/-- No beginning of a text closes more braces than it opens, and the whole closes as many. -/
structure Balanced (t : Text) : Prop where
  beginnings : ∀ p, p <+: t → 0 ≤ braceExcess p
  whole : braceExcess t = 0

@[simp]
theorem braceExcess_nil : braceExcess [] = 0 := rfl

@[simp]
theorem braceExcess_cons (c : CodePoint) (t : Text) :
    braceExcess (c :: t) = braceWeight c + braceExcess t := rfl

/-! ## The depth of braces -/

/-- How many braces are open behind a code point; there is no answer when it closes one that is not
open. -/
def depthStep (depth : Nat) (c : CodePoint) : Option Nat :=
  if c = .scalar '\x7b' then some (depth + 1)
  else if c = .scalar '\x7d' then if depth = 0 then none else some (depth - 1)
  else some depth

/-- How many braces are open behind a text when some are open before it. -/
def depthAfter (depth : Nat) (t : Text) : Option Nat := t.foldlM depthStep depth

@[simp]
theorem depthAfter_nil (depth : Nat) : depthAfter depth [] = some depth := rfl

@[simp]
theorem depthAfter_cons (depth : Nat) (c : CodePoint) (t : Text) :
    depthAfter depth (c :: t) = (depthStep depth c).bind (depthAfter · t) := rfl

@[simp]
theorem depthAfter_append (depth : Nat) (a b : Text) :
    depthAfter depth (a ++ b) = (depthAfter depth a).bind (depthAfter · b) := by
  rw [depthAfter, List.foldlM_append]
  rfl

theorem depthStep_eq_some {depth after : Nat} {c : CodePoint} :
    depthStep depth c = some after ↔ depth + braceWeight c = after := by
  unfold depthStep braceWeight
  split
  · rw [Option.some.injEq]
    omega
  · split
    · split
      next hzero =>
        -- no depth lies below zero
        constructor
        · intro h
          cases h
        · intro h
          omega
      next =>
        rw [Option.some.injEq]
        omega
    · rw [Option.some.injEq]
      omega

theorem forall_prefix_cons {P : Text → Prop} {c : CodePoint} {t : Text} :
    (∀ p, p <+: c :: t → P p) ↔ P [] ∧ ∀ p, p <+: t → P (c :: p) := by
  constructor
  · intro h
    exact ⟨h [] List.nil_prefix, fun p hp => h _ ((List.prefix_cons_inj c).mpr hp)⟩
  · rintro ⟨hnil, hcons⟩ p hp
    rcases List.prefix_cons_iff.mp hp with rfl | ⟨q, rfl, hq⟩
    · exact hnil
    · exact hcons q hq

/-- The reading never fails where no beginning closes more braces than are open, and ends at the
depth that the whole text leaves. -/
theorem depthAfter_eq_some {depth after : Nat} {t : Text} :
    depthAfter depth t = some after ↔
      (∀ p, p <+: t → 0 ≤ depth + braceExcess p) ∧ depth + braceExcess t = after := by
  induction t generalizing depth with
  | nil =>
      rw [depthAfter_nil, Option.some.injEq]
      constructor
      · rintro rfl
        refine ⟨fun p hp => ?_, by simp⟩
        rw [List.prefix_nil.mp hp, braceExcess_nil]
        omega
      · rintro ⟨_, hwhole⟩
        rw [braceExcess_nil] at hwhole
        omega
  | cons c t ih =>
      rw [depthAfter_cons, Option.bind_eq_some_iff, forall_prefix_cons]
      -- a depth behind `c` is given by the reading or, as `[c]` is a beginning, by its excess
      constructor
      · rintro ⟨next, hnext, hafter⟩
        rw [depthStep_eq_some] at hnext
        obtain ⟨hbeginnings, hwhole⟩ := ih.mp hafter
        refine ⟨⟨by simp, fun p hp => ?_⟩, ?_⟩
        · have hp := hbeginnings p hp
          rw [braceExcess_cons]
          omega
        · rw [braceExcess_cons]
          omega
      · rintro ⟨⟨_, hbeginnings⟩, hwhole⟩
        have hfirst := hbeginnings [] List.nil_prefix
        simp only [braceExcess_cons, braceExcess_nil] at hbeginnings hwhole hfirst
        obtain ⟨next, hnext⟩ := Int.eq_ofNat_of_zero_le hfirst
        refine ⟨next, depthStep_eq_some.mpr (by omega), ih.mpr ⟨fun p hp => ?_, by omega⟩⟩
        have hp := hbeginnings p hp
        omega

theorem balanced_iff {t : Text} : Balanced t ↔ depthAfter 0 t = some 0 := by
  rw [depthAfter_eq_some]
  constructor
  · intro h
    exact ⟨fun p hp => by simpa using h.beginnings p hp, by simpa using h.whole⟩
  · rintro ⟨hbeginnings, hwhole⟩
    exact ⟨fun p hp => by simpa using hbeginnings p hp, by simpa using hwhole⟩

instance (t : Text) : Decidable (Balanced t) := decidable_of_iff _ balanced_iff.symm

example : Balanced (Text.ofString "a\x7b\x7d") ∧ ¬ Balanced (Text.ofString "\x7da\x7b") := by decide

/-! ## Balanced texts -/

namespace Balanced

/-- A balanced text may stand at any depth. -/
theorem depthAfter {t : Text} (h : Balanced t) (depth : Nat) :
    Latex.depthAfter depth t = some depth := by
  rw [depthAfter_eq_some]
  constructor
  · intro p hp
    have hp := h.beginnings p hp
    omega
  · rw [h.whole, Int.add_zero]

theorem nil : Balanced [] := balanced_iff.mpr rfl

theorem append {a b : Text} (ha : Balanced a) (hb : Balanced b) : Balanced (a ++ b) := by
  rw [balanced_iff, depthAfter_append, ha.depthAfter, Option.bind_some, hb.depthAfter]

theorem braced {a : Text} (h : Balanced a) : Balanced (braced a) := by
  have hopen : Latex.depthAfter 0 (Text.ofString "\x7b") = some 1 := by decide
  have hclose : Latex.depthAfter 1 (Text.ofString "\x7d") = some 0 := by decide
  rw [balanced_iff, Latex.braced, depthAfter_append, depthAfter_append, hopen, Option.bind_some,
    h.depthAfter, Option.bind_some, hclose]

theorem bracketed {a : Text} (h : Balanced a) : Balanced (bracketed a) := by
  have hopen : Balanced (Text.ofString "[") := by decide
  have hclose : Balanced (Text.ofString "]") := by decide
  exact (hopen.append h).append hclose

theorem command {name : String} (hname : Balanced (Text.ofString ("\\" ++ name))) {a : Text}
    (h : Balanced a) : Balanced (command name a) :=
  hname.append h.braced

theorem enclosed {name : String} (hname : Balanced (Text.ofString name)) {a : Text}
    (h : Balanced a) : Balanced (enclosed name a) := by
  have hbegin : Balanced (Latex.command "begin" (Text.ofString name)) := command (by decide) hname
  have hend : Balanced (Latex.command "end" (Text.ofString name)) := command (by decide) hname
  exact (hbegin.append h).append hend

theorem flatten {ts : List Text} (h : ∀ t ∈ ts, Balanced t) : Balanced ts.flatten := by
  induction ts with
  | nil => exact nil
  | cons t ts ih =>
      obtain ⟨ht, hts⟩ := List.forall_mem_cons.mp h
      exact ht.append (ih hts)

end Balanced

theorem compositional_balanced : Compositional fun a _ => Balanced a where
  nil := Balanced.nil
  append := Balanced.append
  layout := by
    have hall : ∀ t ∈ layoutTexts, Balanced t := by decide
    exact fun {t} ht => hall t ht
  braced := Balanced.braced
  command := by
    have hall : ∀ name ∈ commandNames, Balanced (Text.ofString ("\\" ++ name)) := by decide
    intro name a a' hname h
    exact Balanced.command (hall name hname) h
  enclosed := by
    have hall : ∀ name ∈ environmentNames, Balanced (Text.ofString name) := by decide
    intro name a a' hname h
    exact Balanced.enclosed (hall name hname) h

/-! ## Texts that may stand for one another -/

/-- Two texts lead from every depth to the same depth, or both of them to none. -/
def SameDepth (a b : Text) : Prop := ∀ depth, depthAfter depth a = depthAfter depth b

theorem Balanced.sameDepth {a b : Text} (ha : Balanced a) (hb : Balanced b) : SameDepth a b := by
  intro depth
  rw [ha.depthAfter, hb.depthAfter]

namespace SameDepth

theorem refl (a : Text) : SameDepth a a := fun _ => rfl

theorem append {a a' b b' : Text} (ha : SameDepth a a') (hb : SameDepth b b') :
    SameDepth (a ++ b) (a' ++ b') := by
  intro depth
  have hrest : (depthAfter · b) = (depthAfter · b') := funext hb
  rw [depthAfter_append, depthAfter_append, ha, hrest]

theorem balanced_iff {a b : Text} (h : SameDepth a b) : Balanced a ↔ Balanced b := by
  rw [Latex.balanced_iff, Latex.balanced_iff, h]

end SameDepth

/-- Escaping replaces no brace, and what it puts in is balanced. -/
theorem sameDepth_replacement (x : CodePoint) : SameDepth [x] (replacement x) := by
  rcases replacement_cases x with ⟨_, heq⟩ | ⟨rule, hrule, rfl, heq⟩
  · rw [heq]
    exact SameDepth.refl [x]
  · have hall : ∀ rule ∈ specials, Balanced [.scalar rule.1] ∧ Balanced rule.2 := by decide
    obtain ⟨hspecial, hbalanced⟩ := hall rule hrule
    rw [heq]
    exact hspecial.sameDepth hbalanced

theorem sameDepth_escape (t : Text) : SameDepth t (escape t) := by
  rw [escape_eq_flatMap]
  induction t with
  | nil => exact SameDepth.refl []
  | cons x t ih =>
      rw [List.flatMap_cons]
      exact (sameDepth_replacement x).append ih

/-- A dollar and the delimiter in its place are both without braces. -/
theorem Redelimited.sameDepth {t t' : Text} (h : Redelimited t t') : SameDepth t t' := by
  induction h with
  | nil => exact SameDepth.refl []
  | keep c _ ih => exact (SameDepth.refl [c]).append ih
  | inline c hc _ ih =>
      have hdollar : Balanced [.scalar '$'] := by decide
      have hdelimiter : Balanced [.scalar '\\', .scalar c] := by rcases hc with rfl | rfl <;> decide
      exact (hdollar.sameDepth hdelimiter).append ih
  | display c hc _ ih =>
      have hdollars : Balanced [.scalar '$', .scalar '$'] := by decide
      have hdelimiter : Balanced [.scalar '\\', .scalar c] := by rcases hc with rfl | rfl <;> decide
      exact (hdollars.sameDepth hdelimiter).append ih

theorem balanced_of_blank {t : Text} (h : ∀ c ∈ t, c.isBlank) : Balanced t := by
  rw [balanced_iff]
  induction t with
  | nil => rfl
  | cons c t ih =>
      obtain ⟨hc, ht⟩ := List.forall_mem_cons.mp h
      have hopen : c ≠ .scalar '\x7b' := by
        rintro rfl
        exact absurd hc (by decide)
      have hclose : c ≠ .scalar '\x7d' := by
        rintro rfl
        exact absurd hc (by decide)
      rw [depthAfter_cons, depthStep, if_neg hopen, if_neg hclose, Option.bind_some]
      exact ih ht

theorem sameDepth_trim (t : Text) : SameDepth t t.trim := by
  obtain ⟨a, b, hsplit, ha, hb⟩ := exists_eq_append_trimEnds CodePoint.isBlank t
  have hstart : SameDepth a [] := (balanced_of_blank ha).sameDepth Balanced.nil
  have hend : SameDepth b [] := (balanced_of_blank hb).sameDepth Balanced.nil
  have hwhole := (hstart.append (SameDepth.refl t.trim)).append hend
  rw [List.nil_append, List.append_nil] at hwhole
  have htrim : a ++ t.trim ++ b = t := hsplit.symm
  rwa [htrim] at hwhole

/-! ## Documents -/

/-- Whatever a document and the options bring in is balanced. -/
@[mk_iff]
structure BalancedParts (o : RenderOptions) (t : Node) : Prop where
  text : ∀ n ∈ t.nodes, Balanced n.ownText
  target : ∀ n ∈ t.nodes, n.isOfKind .link → Balanced (n.attributes.get "href" [])
  path : ∀ n ∈ t.nodes, n.isOfKind .image → Balanced (n.attributes.get "src" [])
  description : ∀ n ∈ t.nodes, n.isOfKind .image → Balanced (n.attributes.get "alt" [])
  figurePlacement : Balanced o.figurePlacement
  imageWidth : Balanced o.imageWidth
  tablePlacement : Balanced o.tablePlacement
  columnSpec : Balanced o.columnSpec

set_option synthInstance.maxSize 512 in
instance (o : RenderOptions) (t : Node) : Decidable (BalancedParts o t) :=
  decidable_of_iff _ (balancedParts_iff o t).symm

theorem BalancedParts.textContent {o : RenderOptions} {t n : Node} (h : BalancedParts o t)
    (hn : n ∈ t.nodes) : Balanced n.textContent := by
  rw [Node.textContent_eq_flatMap]
  apply Balanced.flatten
  intro content hcontent
  obtain ⟨x, hx, rfl⟩ := List.mem_map.mp hcontent
  exact h.text x (Node.nodes_subset hn hx)

theorem balanced_literal (o : RenderOptions) {t : Text} (h : Balanced t) :
    Balanced (o.dollars.literal t) := by
  simp only [RenderOptions.dollars, RenderOptions.escape]
  split
  · exact (sameDepth_escape t).balanced_iff.mp h
  · exact h

theorem agreement_balanced {o : RenderOptions} {t : Node} (h : BalancedParts o t) :
    Agreement (fun a _ => Balanced a) o.dollars o.dollars o t where
  leaf content hn := balanced_literal o (h.text _ hn)
  content n hn := balanced_literal o ((sameDepth_trim _).balanced_iff.mp (h.textContent hn))
  description n hn hkind := balanced_literal o (h.description n hn hkind)
  inlineMath n hn _ := by
    have hdollar : Balanced (Text.ofString "$") := by decide
    exact (hdollar.append (h.textContent hn)).append hdollar
  displayMath n hn _ := by
    have hdollars : Balanced (Text.ofString "$$") := by decide
    exact (hdollars.append (h.textContent hn)).append hdollars
  code n hn _ := by
    have hline : Balanced (Text.ofString "\n") := by decide
    exact Balanced.enclosed (by decide) ((hline.append (h.textContent hn)).append hline)
  target n hn hkind := Balanced.command (by decide) (h.target n hn hkind)
  graphics n hn hkind := by
    have hname : Balanced (Text.ofString "\\includegraphics") := by decide
    have hkey : Balanced (Text.ofString "width=") := by decide
    exact (hname.append (hkey.append h.imageWidth).bracketed).append (h.path n hn hkind).braced
  separator _ _ _ := by decide
  columns count := by
    apply Balanced.braced
    apply Balanced.flatten
    intro column hcolumn
    rw [List.eq_of_mem_replicate hcolumn]
    exact h.columnSpec
  figurePlacement := h.figurePlacement.bracketed
  tablePlacement := h.tablePlacement.bracketed

/-- The LaTeX of a document is balanced, before and after its math is restored. -/
theorem render_balanced {o : RenderOptions} {t : Node} (h : BalancedParts o t) :
    Balanced (render o t) ∧ Balanced (renderDocument o t) := by
  have hrender : Balanced (render o t) := compositional_balanced.renderWith (agreement_balanced h)
  refine ⟨hrender, ?_⟩
  rw [renderDocument]
  split
  · exact (redelimited_restoreMath (render o t)).sameDepth.balanced_iff.mp hrender
  · exact hrender

/-- Braces in text, cells, math, code and attributes, next to what escaping and restoring replace.
-/
def bracedDocument : Node :=
  .generic "document"
    [.ofKind .heading1 [.text (Text.ofString " \\\x7b~\x7d "), .ofKind .inlineCode [] []] [],
     .ofKind .orderedList
      [.ofKind .listItem [.text (Text.ofString "$\x7b\x7d<"), .ofKind .mathInline
        [.text (Text.ofString "\\frac\x7ba\x7d\x7bb\x7d")] []] []] [],
     .ofKind .table
      [.ofKind .tableRow [.ofKind .tableCell [.text (Text.ofString "\x7b^\x7d")] []] []] [],
     .ofKind .codeBlock [.text (Text.ofString "\x7b$\x7d")] [],
     .ofKind .link
      [.ofKind .image [] [("src", some (Text.ofString "\x7bp\x7d")),
        ("alt", some (Text.ofString "\x7b\x7ba\x7d\x7d"))]]
      [("href", some (Text.ofString "\x7bu\x7d"))]]

theorem render_bracedDocument : BalancedParts { escapeSpecial := false } bracedDocument ∧
    Balanced (render { escapeSpecial := false } bracedDocument) ∧
      Balanced (renderDocument { escapeSpecial := false } bracedDocument) := by
  have hparts : BalancedParts { escapeSpecial := false } bracedDocument := by decide
  exact ⟨hparts, render_balanced hparts⟩

end MarkTex.Latex
