import MarkTex.Proofs.Markdown.Place

/-!
# Separators

The nodes of blocks and of items get separator leaves between them, and nothing else happens to
them: they stay what they are, in their order. `Spaced` says so, and from it follows what separators
do to anything that is collected from the nodes.
-/

namespace MarkTex.Markdown

/-- One list of nodes is another with separator leaves put in. -/
inductive Spaced (separator : Text) : List Node → List Node → Prop
  | nil : Spaced separator [] []
  | keep (n : Node) {ns ms : List Node} :
      Spaced separator ns ms → Spaced separator (n :: ns) (n :: ms)
  | leaf {ns ms : List Node} : Spaced separator ns ms → Spaced separator ns (.text separator :: ms)

namespace Spaced

variable {separator : Text} {ns ms ns' ms' : List Node}

theorem refl (separator : Text) (ns : List Node) : Spaced separator ns ns := by
  induction ns with
  | nil => exact nil
  | cons n ns ih => exact keep n ih

theorem append (h : Spaced separator ns ms) (h' : Spaced separator ns' ms') :
    Spaced separator (ns ++ ns') (ms ++ ms') := by
  induction h with
  | nil => exact h'
  | keep n _ ih => exact keep n ih
  | leaf _ ih => exact leaf ih

/-! ## Where separators are put in -/

theorem addTo (h : Spaced separator ns ms) (p : Produced) :
    Spaced separator (ns ++ p.nodes) (p.addTo separator ms) := by
  have hblock : ∀ nodes, Spaced separator (ns ++ nodes) (ms ++ nodes) :=
    fun nodes => h.append (refl separator nodes)
  cases p with
  | nothing => simpa [Produced.nodes, Produced.addTo] using h
  | run nodes => exact hblock nodes
  | block nodes =>
      cases nodes with
      | nil => simpa [Produced.nodes, Produced.addTo] using h
      | cons n nodes =>
          simp only [Produced.nodes, Produced.addTo]
          split
          · exact hblock _
          · have hseparated := h.append (leaf (refl separator (n :: nodes)))
            simpa using hseparated

theorem assemble (separator : Text) (ps : List Produced) :
    Spaced separator (ps.flatMap Produced.nodes) (Markdown.assemble separator ps) := by
  have hfrom : ∀ ns ms, Spaced separator ns ms →
      Spaced separator (ns ++ ps.flatMap Produced.nodes)
        (ps.foldl (Produced.addTo separator) ms) := by
    induction ps with
    | nil => simp
    | cons p ps ih =>
        intro ns ms h
        rw [List.flatMap_cons, ← List.append_assoc]
        exact ih _ _ (h.addTo p)
  exact hfrom [] [] nil

theorem intersperse (separator : Text) (ns : List Node) :
    Spaced separator ns (ns.intersperse (.text separator)) := by
  induction ns with
  | nil => exact nil
  | cons n ns ih =>
      cases ns with
      | nil => exact refl separator [n]
      | cons n' ns => exact keep n (leaf ih)

theorem separate (separator : Text) (ns : List Node) :
    Spaced separator ns (Markdown.separate separator ns) := by
  unfold Markdown.separate
  split
  · exact refl separator ns
  · exact intersperse separator ns

theorem gather (separator : Text) (p : Place) (ps : List Produced) :
    Spaced separator (ps.flatMap Produced.nodes) (p.gather separator ps) := by
  cases p with
  | block => exact assemble separator ps
  | item => exact separate separator _
  | part | row | cell | line => exact refl separator _

/-! ## What separators do not change -/

theorem mem (h : Spaced separator ns ms) {x : Node} (hx : x ∈ ms) :
    x ∈ ns ∨ x = .text separator := by
  induction h with
  | nil => exact Or.inl hx
  | keep n _ ih =>
      rcases List.mem_cons.mp hx with rfl | hx
      · exact Or.inl List.mem_cons_self
      · exact (ih hx).imp_left (List.mem_cons_of_mem n)
  | leaf _ ih =>
      rcases List.mem_cons.mp hx with rfl | hx
      · exact Or.inr rfl
      · exact ih hx

theorem sublist (h : Spaced separator ns ms) : ns.Sublist ms := by
  induction h with
  | nil => exact List.Sublist.slnil
  | keep n _ ih => exact ih.cons_cons n
  | leaf _ ih => exact ih.cons _

/-- What is collected from nodes stays the same if nothing is collected from separators. -/
theorem flatMap_eq (h : Spaced separator ns ms) {α : Type} {g : Node → List α}
    (hg : g (.text separator) = []) : ms.flatMap g = ns.flatMap g := by
  induction h with
  | nil => rfl
  | keep n _ ih => rw [List.flatMap_cons, List.flatMap_cons, ih]
  | leaf _ ih => rw [List.flatMap_cons, hg, List.nil_append, ih]

end Spaced

end MarkTex.Markdown
