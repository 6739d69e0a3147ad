import MarkTex.Proofs.Latex.Aspect
import MarkTex.Proofs.Latex.Escape
import Mathlib.Data.List.Chain

/-!
# Runs of text

The same prose may stand in a tree as one leaf or as several: a reader that delivers escaped
characters one by one cuts it where another does not. A tree is *merged* when leaves that stand next
to each other are made one, and leaves without text are left out. Trees that are the same when they
are merged have the same text and are written alike: `render_eq_of_merged_eq`.
-/

namespace MarkTex

/-! ## Merging leaves -/

/-- A node in front of a row of nodes. A leaf takes up a leaf that the row begins with, and is left
out if there is no text in it. -/
def Node.mergeTo : Node → List Node → List Node
  | .text content, .text next :: ns => .text (content ++ next) :: ns
  | .text [], ns => ns
  | n, ns => n :: ns

/-- A row of nodes, the leaves of every run made one. -/
def mergeLeaves (ns : List Node) : List Node := ns.foldr Node.mergeTo []

mutual

/-- A tree, the leaves of every run made one at every depth. -/
def Node.merged : Node → Node
  | .text content => .text content
  | .element kind tag attrs children => .element kind tag attrs (mergeLeaves (mergedEach children))

def mergedEach : List Node → List Node
  | [] => []
  | n :: ns => n.merged :: mergedEach ns

end

theorem mergedEach_eq_map (ns : List Node) : mergedEach ns = ns.map Node.merged := by
  induction ns with
  | nil => rfl
  | cons n ns ih => rw [mergedEach, List.map_cons, ih]

/-- No leaf of a row of nodes is without text, and no two stand next to each other. -/
structure LeavesApart (ns : List Node) : Prop where
  full : .text [] ∉ ns
  apart : ns.IsChain fun n n' => n.isElement ∨ n'.isElement

theorem LeavesApart.mergeTo {ns : List Node} (h : LeavesApart ns) (n : Node) :
    LeavesApart (n.mergeTo ns) := by
  fun_cases Node.mergeTo n ns with
  | case1 content next ns =>
      -- the leaf that is taken up has text, and what follows it is no leaf
      have hfull := h.full
      exact ⟨by simp_all, List.isChain_cons.mpr (List.isChain_cons.mp h.apart)⟩
  | case2 => exact h
  | case3 n ns hrun hempty =>
      refine ⟨?_, List.isChain_cons.mpr ⟨?_, h.apart⟩⟩
      · intro hmem
        rcases List.mem_cons.mp hmem with heq | hmem
        · exact hempty heq.symm
        · exact h.full hmem
      · intro n' hhead
        obtain ⟨rest, rfl⟩ := List.head?_eq_some_iff.mp hhead
        cases n with
        | element => exact Or.inl rfl
        | text content =>
            cases n' with
            | element => exact Or.inr rfl
            | text next => exact absurd rfl (hrun content next rest rfl)

theorem leavesApart_mergeLeaves (ns : List Node) : LeavesApart (mergeLeaves ns) := by
  induction ns with
  | nil => exact ⟨List.not_mem_nil, .nil⟩
  | cons n ns ih => exact ih.mergeTo n

theorem filter_isElement_mergeLeaves (ns : List Node) :
    (mergeLeaves ns).filter Node.isElement = ns.filter Node.isElement := by
  have hstep : ∀ (n : Node) (ns : List Node),
      (n.mergeTo ns).filter Node.isElement = (n :: ns).filter Node.isElement := by
    intro n ns
    fun_cases Node.mergeTo n ns <;> rfl
  induction ns with
  | nil => rfl
  | cons n ns ih =>
      rw [mergeLeaves, List.foldr_cons, hstep, List.filter_cons, List.filter_cons]
      exact congrArg (fun ms => if n.isElement then n :: ms else ms) ih

theorem leavesApart_merged (t : Node) : ∀ n ∈ t.merged.nodes, LeavesApart n.children := by
  have hleaf : ∀ content, ∀ n ∈ (Node.text content).nodes, LeavesApart n.children := by
    intro content n hn
    rw [List.mem_singleton.mp hn]
    exact ⟨List.not_mem_nil, .nil⟩
  induction t with
  | text content => exact hleaf content
  | element kind tag attrs children ih =>
      intro n hn
      rw [Node.merged] at hn
      rcases List.mem_cons.mp hn with rfl | hbelow
      · exact leavesApart_mergeLeaves _
      · obtain ⟨c, hc, hn⟩ := Node.mem_descendants_element.mp hbelow
        cases c with
        | text content => exact hleaf content n hn
        | element kind' tag' attrs' children' =>
            have helement : .element kind' tag' attrs' children' ∈
                (mergeLeaves (mergedEach children)).filter Node.isElement :=
              List.mem_filter.mpr ⟨hc, rfl⟩
            rw [filter_isElement_mergeLeaves, mergedEach_eq_map] at helement
            obtain ⟨child, hchild, heq⟩ := List.mem_map.mp (List.mem_of_mem_filter helement)
            exact ih child hchild n (heq ▸ hn)

/-! ## What is written of merged trees -/

namespace Latex

variable {o : RenderOptions}

theorem RenderOptions.escape_nil (o : RenderOptions) : o.escape [] = [] := by
  unfold RenderOptions.escape
  split <;> rfl

theorem RenderOptions.escape_append (o : RenderOptions) (a b : Text) :
    o.escape (a ++ b) = o.escape a ++ o.escape b := by
  unfold RenderOptions.escape
  split
  · exact Latex.escape_append a b
  · rfl

theorem aspect_text (content : Text) :
    aspect o.dollars o [.text content] = ⟨o.escape content, content, [], []⟩ := by
  simp only [aspect, renderEach, renderWith, textOfAll, Node.forestNodes, Node.descendants,
    List.flatMap_cons, List.flatMap_nil, List.flatten_cons, List.flatten_nil, List.append_nil]
  rfl

/-- Merging does not change what a row of nodes shows. -/
theorem aspect_mergeTo (n : Node) (ns : List Node) :
    aspect o.dollars o (n.mergeTo ns) = aspect o.dollars o (n :: ns) := by
  have hempty : ∀ ns, aspect o.dollars o (.text [] :: ns) = aspect o.dollars o ns := by
    intro ns
    rw [aspect_cons, aspect_text, o.escape_nil]
    rfl
  fun_cases Node.mergeTo n ns with
  | case1 content next ns =>
      have hrun : aspect o.dollars o [.text (content ++ next)] =
          aspect o.dollars o [.text content, .text next] := by
        rw [aspect_cons _ _ (.text content), aspect_text, aspect_text, aspect_text, o.escape_append]
        rfl
      rw [aspect_cons, hrun]
      exact (aspect_append _ _ [.text content, .text next] ns).symm
  | case2 => exact (hempty ns).symm
  | case3 => rfl

theorem aspect_mergeLeaves (ns : List Node) :
    aspect o.dollars o (mergeLeaves ns) = aspect o.dollars o ns := by
  induction ns with
  | nil => rfl
  | cons n ns ih =>
      rw [mergeLeaves, List.foldr_cons, aspect_mergeTo, aspect_cons, aspect_cons _ _ n ns]
      exact congrArg (aspect o.dollars o [n] ++ ·) ih

theorem parts_mergeLeaves (m : Marking) (ns : List Node) :
    parts m o (mergeLeaves ns) = parts m o ns := by
  rw [parts, filter_isElement_mergeLeaves, parts]

theorem alike_merged (t : Node) : Alike o.dollars o t t.merged := by
  induction t with
  | text content => exact .refl _
  | element kind tag attrs children ih =>
      have hall : List.Forall₂ (Alike o.dollars o) children (mergedEach children) := by
        rw [mergedEach_eq_map, List.forall₂_map_right_iff, List.forall₂_same]
        exact ih
      rw [Node.merged]
      refine .element (.refl _ _) ?_ fun _ => ?_
      · rw [aspect_mergeLeaves, Alike.aspect_eq hall]
      · rw [parts_mergeLeaves, Alike.parts_eq hall]

/-- When a tree is merged no leaf below the root is left without text and no two leaves are left next
to each other. Trees that are the same when they are merged have the same text and are written alike.
-/
theorem render_eq_of_merged_eq :
    (∀ t : Node, ∀ n ∈ t.merged.nodes, LeavesApart n.children) ∧
      ∀ t t' : Node, t.merged = t'.merged → ∀ o : RenderOptions,
        t.textContent = t'.textContent ∧ render o t = render o t' ∧
          renderDocument o t = renderDocument o t' := by
  refine ⟨leavesApart_merged, ?_⟩
  intro t t' h o
  have halike : Alike o.dollars o t t' := by
    have hmerged := alike_merged (o := o) t
    rw [h] at hmerged
    exact hmerged.trans (alike_merged t').symm
  refine ⟨?_, render_eq_of_alike halike⟩
  rw [← content_aspect_singleton o.dollars o t, halike.aspect, content_aspect_singleton]

/-- A heading and a list. -/
def plainProse : Node :=
  Node.generic "document"
    [Node.ofKind .heading1 [.text (Text.ofString " a&b ")] [],
     Node.ofKind .unorderedList [Node.ofKind .listItem [.text (Text.ofString "$")] []] []]

/-- The same with its text cut into more leaves, and with leaves that have no text. -/
def cutProse : Node :=
  Node.generic "document"
    [.text [],
     Node.ofKind .heading1
      [.text (Text.ofString " a"), .text [], .text (Text.ofString "&"),
       .text (Text.ofString "b ")] [],
     Node.ofKind .unorderedList
      [.text [], Node.ofKind .listItem [.text (Text.ofString "$"), .text []] [], .text [],
       .text []] []]

theorem cutProse_merged : cutProse.merged = plainProse.merged ∧
    cutProse.textContent = plainProse.textContent ∧ render {} cutProse = render {} plainProse ∧
      renderDocument {} cutProse = renderDocument {} plainProse := by
  have hsame : cutProse.merged = plainProse.merged := rfl
  obtain ⟨_, hwritten⟩ := render_eq_of_merged_eq
  exact ⟨hsame, hwritten cutProse plainProse hsame {}⟩

end Latex

end MarkTex
