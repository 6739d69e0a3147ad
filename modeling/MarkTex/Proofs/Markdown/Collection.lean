import MarkTex.Proofs.Markdown.Conversion
import MarkTex.Proofs.Markdown.Separators

/-!
# Collecting from tokens and from nodes

Something is collected from the tokens of a forest that have a place, and something from the nodes
that the forest becomes. `Collection` says how the two must fit together at a single token, whatever
relation is to hold between them, and `Collection.convert` carries this to whole forests without
images and raw HTML.
-/

namespace MarkTex.Markdown

variable {α : Type}

/-- Collecting where a test holds is collecting from what the test leaves. -/
theorem flatMap_ite {β : Type} (test : β → Bool) (g : β → List α) (xs : List β) :
    xs.flatMap (fun x => if test x then g x else []) = (xs.filter test).flatMap g := by
  induction xs with
  | nil => rfl
  | cons x xs ih =>
      rw [List.flatMap_cons, ih, List.filter_cons]
      split <;> rfl

/-- What tokens carry is related to what is collected from their nodes, token by token. What is
collected from an element may depend on the nodes in it being sound. -/
structure Collection (R : List α → List α → Prop) (sound : Place → List Node → Prop)
    (carried : Place × Token → List α) (collected : Place → Node → List α)
    (separator : Text) : Prop where
  nil : R [] []
  append {a b a' b' : List α} : R a b → R a' b' → R (a ++ a') (b ++ b')
  spaced {p : Place} {a : List α} {ns ms : List Node} : Spaced separator ns ms →
    R a (ns.flatMap (collected p)) → R a (ms.flatMap (collected p))
  leaf {p : Place} {t : Token} {n : Node} : LeafAt p t.kind t.raw n →
    R (carried (p, t)) (collected p n)
  other {p : Place} {t : Token} : (∀ n, ¬ LeafAt p t.kind t.raw n) → carried (p, t) = []
  blockText {a : List α} {inner : List Node} : sound .line inner →
    R a (inner.flatMap (collected .line)) → R a (inner.flatMap (collected .block))
  tableBody {a : List α} {inner : List Node} : sound .row inner →
    R a (inner.flatMap (collected .row)) → R a (inner.flatMap (collected .part))
  shell {p q : Place} {kind : ElementKind} {tag : String} {attrs : Attributes} {a : List α}
    {inner : List Node} : ShellAt p q kind tag → sound q inner →
    R a (inner.flatMap (collected q)) → R a (collected p (.element kind tag attrs inner))

namespace Collection

variable {R : List α → List α → Prop} {sound : Place → List Node → Prop}
  {carried : Place × Token → List α} {collected : Place → Node → List α}
  {fragments : Text → List Node} {o : ParseOptions}

/-- One token, given the same of the tokens inside it. -/
theorem form (h : Collection R sound carried collected o.blockSeparator) {p : Place}
    {kind : TokenKind} {raw : Text} {attrs : TokenAttributes} {children : List Token} {form : Form}
    {inner : List Node} (hat : FormAt o raw p kind form)
    (hkind : kind ∉ [.image, .blockHtml, .inlineHtml])
    (hinner : ∀ q, p.inside kind = some q → sound q inner ∧
      R ((q.visitsEach children).flatMap carried) (inner.flatMap (collected q))) :
    R ((p.visits (.mk kind raw attrs children)).flatMap carried)
      ((form.produce fragments inner).nodes.flatMap (collected p)) := by
  -- a token with tokens inside it carries nothing itself
  have hinside : ∀ q, p.inside kind = some q → carried (p, .mk kind raw attrs children) = [] := by
    intro q hq
    refine h.other fun n hleaf => ?_
    have hnone : p.inside kind = none := hleaf.inside
    rw [hnone] at hq
    cases hq
  rw [Place.visits, List.flatMap_cons]
  cases hat with
  | nothing hnone hleaf =>
      rw [hnone, h.other hleaf]
      exact h.nil
  | leaf hleaf =>
      rw [hleaf.inside]
      exact h.append (h.leaf hleaf) h.nil
  | blockText =>
      obtain ⟨hsound, hrelated⟩ := hinner _ rfl
      rw [hinside _ rfl]
      exact h.blockText hsound hrelated
  | tableBody =>
      obtain ⟨hsound, hrelated⟩ := hinner _ rfl
      rw [hinside _ rfl]
      exact h.tableBody hsound hrelated
  | shell hq hshell =>
      obtain ⟨hsound, hrelated⟩ := hinner _ hq
      rw [hinside _ hq, hq, List.nil_append, ← List.append_nil (List.flatMap carried _)]
      exact h.append (h.shell hshell hsound hrelated) h.nil
  | image => exact absurd (by simp) hkind
  | fragment _ hhtml => exact absurd (by rcases hhtml with rfl | rfl <;> simp) hkind

theorem convert (h : Collection R sound carried collected o.blockSeparator)
    (fragments : Text → List Node)
    (hsound : ∀ q ts, TextOnly ts → sound q (q.convert fragments o ts)) {ts : List Token}
    (hts : TextOnly ts) (p : Place) :
    R ((p.visitsEach ts).flatMap carried) ((p.convert fragments o ts).flatMap (collected p)) := by
  -- separators come last, so the induction is on the nodes before them
  refine h.spaced (Spaced.gather o.blockSeparator p (p.produceEach fragments o ts)) ?_
  induction ts using Token.forest_induction generalizing p with
  | nil => exact h.nil
  | cons kind raw attrs children ts ihchildren ihts =>
      obtain ⟨hkind, hchildren, hts⟩ := textOnly_cons.mp hts
      rw [Place.visitsEach, List.flatMap_append, Place.produceEach, List.flatMap_cons,
        List.flatMap_append, Place.produce_mk]
      refine h.append ?_ (ihts hts p)
      refine h.form (p.formAt o raw attrs kind) hkind ?_
      intro q hq
      rw [Place.convertInside_eq fragments o hq]
      exact ⟨hsound q children hchildren,
        h.spaced (Spaced.gather o.blockSeparator q _) (ihchildren hchildren q)⟩

/-- Nodes of some kinds are collected, kinds that never stand around the nodes of tokens: what is
collected is what single tokens become. -/
theorem nodes {select : Node → Bool} {carried : Place × Token → List Node} {separator : Text}
    (htext : ∀ content, select (.text content) = false)
    (helement : ∀ kind tag attrs children, kind ∉ closedKinds →
      select (.element kind tag attrs children) = false)
    (hleaf : ∀ p (t : Token) n, LeafAt p t.kind t.raw n →
      carried (p, t) = n.nodes.filter select)
    (hother : ∀ p (t : Token), (∀ n, ¬ LeafAt p t.kind t.raw n) → carried (p, t) = []) :
    Collection Eq (fun _ _ => True) carried (fun _ n => n.nodes.filter select) separator where
  nil := rfl
  append h h' := by rw [h, h']
  spaced hspaced h := by
    rw [hspaced.flatMap_eq (by simp [Node.nodes, Node.descendants, htext]), h]
  leaf h := hleaf _ _ _ h
  other h := hother _ _ h
  blockText _ h := h
  tableBody _ h := h
  shell {p q kind tag attrs a inner} hshell _ h := by
    have hself := helement kind tag attrs inner hshell.not_mem_closedKinds
    rw [Node.nodes, List.filter_cons_of_neg (by simp [hself]), Node.descendants,
      Node.forestNodes_eq_flatMap, List.filter_flatMap]
    exact h

end Collection

end MarkTex.Markdown
