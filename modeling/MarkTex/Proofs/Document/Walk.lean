import MarkTex.Document.Node

/-!
# The walk over a document

A node below another is found by a path: the numbers of the children to go down to. Paths have an
order, in which a path comes before those that go on from it, and before those that turn to a later
child where the two part. The walk over a tree finds the node at every path but the empty one, once,
in that order, and the nodes of a kind and the text of a tree are taken from it:
`descendants_in_order`.
-/

namespace MarkTex.Node

/-! ## Paths -/

/-- The node that a path leads to, if there is one. -/
def at? (n : Node) : List Nat → Option Node
  | [] => some n
  | i :: p => n.children[i]?.bind fun c => c.at? p

mutual

/-- The paths to all nodes below a node. -/
def paths : Node → List (List Nat)
  | text _ => []
  | element _ _ _ cs => pathsFrom 0 cs

/-- The paths to the children of a node from a number on, each with the paths to the nodes below it. -/
def pathsFrom (i : Nat) : List Node → List (List Nat)
  | [] => []
  | c :: cs => (([] :: c.paths).map fun p => i :: p) ++ pathsFrom (i + 1) cs

end

variable {cs : List Node} {p : List Nat}

theorem mem_pathsFrom {i : Nat} : p ∈ pathsFrom i cs ↔
    ∃ (k : Nat) (q : List Nat) (c : Node), p = (i + k) :: q ∧ cs[k]? = some c ∧
      (q = [] ∨ q ∈ c.paths) := by
  induction cs generalizing i with
  | nil => simp [pathsFrom]
  | cons c cs ih =>
      rw [pathsFrom, List.mem_append, ih]
      constructor
      · rintro (hfirst | ⟨k, q, d, rfl, hd, hq⟩)
        · obtain ⟨q, hq, rfl⟩ := List.mem_map.mp hfirst
          exact ⟨0, q, c, rfl, rfl, List.mem_cons.mp hq⟩
        · exact ⟨k + 1, q, d, by rw [Nat.add_right_comm, Nat.add_assoc], hd, hq⟩
      · rintro ⟨k, q, d, rfl, hd, hq⟩
        cases k with
        | zero =>
            obtain rfl := Option.some.inj hd
            exact .inl (List.mem_map.mpr ⟨q, List.mem_cons.mpr hq, rfl⟩)
        | succ k => exact .inr ⟨k, q, d, by rw [Nat.add_right_comm, Nat.add_assoc], hd, hq⟩

theorem at?_cons {n c : Node} {k : Nat} (h : n.children[k]? = some c) (q : List Nat) :
    n.at? (k :: q) = c.at? q := by
  rw [at?, h, Option.bind_some]

/-- The paths below a node are those that lead somewhere, but for the empty one. -/
theorem mem_paths {n : Node} : p ∈ n.paths ↔ p ≠ [] ∧ (n.at? p).isSome := by
  induction n generalizing p with
  | text content => cases p <;> simp [paths, at?, children]
  | element kind tag attrs cs ih =>
      rw [paths, mem_pathsFrom]
      constructor
      · rintro ⟨k, q, c, rfl, hc, hq⟩
        rw [Nat.zero_add, at?_cons hc]
        refine ⟨List.cons_ne_nil k q, ?_⟩
        rcases hq with rfl | hq
        · rfl
        · exact ((ih c (List.mem_of_getElem? hc)).mp hq).2
      · rintro ⟨hp, hsome⟩
        obtain ⟨k, q, rfl⟩ := List.exists_cons_of_ne_nil hp
        obtain ⟨x, hx⟩ := Option.isSome_iff_exists.mp hsome
        obtain ⟨c, hc, hq⟩ := Option.bind_eq_some_iff.mp hx
        refine ⟨k, q, c, by rw [Nat.zero_add], hc, ?_⟩
        by_cases hempty : q = []
        · exact .inl hempty
        · exact .inr ((ih c (List.mem_of_getElem? hc)).mpr ⟨hempty, by rw [hq]; rfl⟩)

/-- Paths from a number on come one after the other if those below each child do. -/
theorem pairwise_pathsFrom (h : ∀ c ∈ cs, c.paths.Pairwise (· < ·)) (i : Nat) :
    (pathsFrom i cs).Pairwise (· < ·) := by
  induction cs generalizing i with
  | nil => exact List.Pairwise.nil
  | cons c cs ih =>
      obtain ⟨hfirst, hrest⟩ := List.forall_mem_cons.mp h
      refine List.pairwise_append.mpr ⟨List.pairwise_map.mpr ?_, ih hrest (i + 1), ?_⟩
      · -- the path to the child itself comes before those below it
        have hbelow : ([] :: c.paths).Pairwise (· < ·) := by
          refine List.pairwise_cons.mpr ⟨fun p hp => ?_, hfirst⟩
          obtain ⟨k, q, rfl⟩ := List.exists_cons_of_ne_nil (mem_paths.mp hp).1
          exact List.nil_lt_cons k q
        exact hbelow.imp fun hlt => List.cons_lt_cons_self.mpr hlt
      · intro p hp q hq
        obtain ⟨p, -, rfl⟩ := List.mem_map.mp hp
        obtain ⟨k, q, d, rfl, -, -⟩ := mem_pathsFrom.mp hq
        exact List.cons_lt_cons_iff.mpr (.inl (by omega))

theorem pairwise_paths (n : Node) : n.paths.Pairwise (· < ·) := by
  induction n with
  | text content => exact List.Pairwise.nil
  | element kind tag attrs cs ih => exact pairwise_pathsFrom ih 0

/-! ## The walk -/

variable {kind : ElementKind} {tag : String} {attrs : Attributes}

/-- The walk over the last children of an element finds the nodes at their paths. -/
theorem forestNodes_eq_map (h : ∀ c ∈ cs, c.descendants.map some = c.paths.map c.at?)
    (before : List Node) :
    (forestNodes cs).map some =
      (pathsFrom before.length cs).map (element kind tag attrs (before ++ cs)).at? := by
  induction cs generalizing before with
  | nil => rfl
  | cons c cs ih =>
      obtain ⟨hfirst, hrest⟩ := List.forall_mem_cons.mp h
      have hchild : (element kind tag attrs (before ++ c :: cs)).children[before.length]? = some c := by
        simp [children]
      have hfound (ps : List (List Nat)) :
          (ps.map fun p => before.length :: p).map
            (element kind tag attrs (before ++ c :: cs)).at? = ps.map c.at? := by
        rw [List.map_map]
        exact List.map_congr_left fun p _ => at?_cons hchild p
      have hlater := ih hrest (before ++ [c])
      rw [List.length_append, List.append_assoc] at hlater
      rw [forestNodes, pathsFrom, List.map_append, hfound, List.map_cons, List.map_append, hfirst]
      exact congrArg (some c :: c.paths.map c.at? ++ ·) hlater

theorem descendants_eq_map (n : Node) : n.descendants.map some = n.paths.map n.at? := by
  induction n with
  | text content => rfl
  | element kind tag attrs cs ih => exact forestNodes_eq_map ih []

theorem descendants_eq_flatMap (n : Node) : n.descendants = n.children.flatMap nodes := by
  cases n with
  | text content => rfl
  | element kind tag attrs cs => exact forestNodes_eq_flatMap cs

/-! ## What is taken from the walk -/

/-- The nodes of a kind are those at the paths that lead to one. -/
theorem findAll_eq_map (k : ElementKind) (n : Node) :
    (n.findAll k).map some = (n.paths.filter fun p => (n.at? p).any (isOfKind k)).map n.at? := by
  have hkind : isOfKind k = Option.any (isOfKind k) ∘ some := rfl
  calc (n.findAll k).map some
    _ = (n.descendants.map some).filter (Option.any (isOfKind k)) := by
        rw [findAll, List.filter_map, ← hkind]
    _ = (n.paths.map n.at?).filter (Option.any (isOfKind k)) := by rw [descendants_eq_map]
    _ = _ := List.filter_map

/-- The nodes of a kind below a node are taken from one child after the other. -/
theorem findAll_eq_flatMap (k : ElementKind) (n : Node) :
    n.findAll k = n.children.flatMap fun c =>
      (if c.isOfKind k then [c] else []) ++ c.findAll k := by
  rw [findAll, descendants_eq_flatMap, List.filter_flatMap]
  congr 1
  funext c
  rw [nodes, List.filter_cons, findAll]
  split <;> rfl

theorem textContent_eq_ite (n : Node) :
    n.textContent = if n.isElement then textOfAll n.children else n.ownText := by
  cases n with
  | text content => rfl
  | element kind tag attrs cs => exact textContent_element kind tag attrs cs

mutual

/-- The texts of the leaves of a node, put together from child to child. -/
def joined : Node → Text
  | text content => content
  | element _ _ _ cs => joinedAll cs

def joinedAll : List Node → Text
  | [] => []
  | c :: cs => c.joined ++ joinedAll cs

end

theorem textOfAll_eq_joinedAll (h : ∀ c ∈ cs, c.textContent = c.joined) :
    textOfAll cs = joinedAll cs := by
  induction cs with
  | nil => rfl
  | cons c cs ih =>
      obtain ⟨hfirst, hrest⟩ := List.forall_mem_cons.mp h
      rw [textOfAll, List.flatMap_cons, hfirst, joinedAll, ← ih hrest, textOfAll]

theorem textContent_eq_joined (n : Node) : n.textContent = n.joined := by
  induction n with
  | text content => rfl
  | element kind tag attrs cs ih =>
      rw [textContent_element, joined]
      exact textOfAll_eq_joinedAll ih

/-- The walk over a tree comes to the node at every path but the empty one, once, in the order of paths.
The nodes of a kind are those of the walk that are of that kind, also taken child by child, and the text
of an element is that of its children, put together to any depth. -/
theorem descendants_in_order (n : Node) :
    n.paths.Pairwise (· < ·) ∧ (∀ p, p ∈ n.paths ↔ p ≠ [] ∧ (n.at? p).isSome) ∧
      n.descendants.map some = n.paths.map n.at? ∧
      (∀ k, (n.findAll k).map some =
          (n.paths.filter fun p => (n.at? p).any (isOfKind k)).map n.at? ∧
        n.findAll k = n.children.flatMap fun c =>
          (if c.isOfKind k then [c] else []) ++ c.findAll k) ∧
      (n.textContent = if n.isElement then textOfAll n.children else n.ownText) ∧
      n.textContent = n.joined :=
  ⟨n.pairwise_paths, fun _ => mem_paths, n.descendants_eq_map,
    fun k => ⟨n.findAll_eq_map k, n.findAll_eq_flatMap k⟩, n.textContent_eq_ite,
    n.textContent_eq_joined⟩

end MarkTex.Node
