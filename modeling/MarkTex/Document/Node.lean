import MarkTex.Document.Kind
import MarkTex.Text.Blank

/-!
# Documents

A document is a tree of text leaves and elements. An element has a kind, the tag it came from, named
attributes and its children in document order. Every traversal of this module is one walk in
document order, an element before what lies below it: `Node.descendants`.
-/

namespace MarkTex

/-- A node of a document: a text leaf or an element. An attribute may be present without a value. -/
inductive Node where
  | text (content : Text)
  | element (kind : ElementKind) (tag : String) (attributes : List (String × Option Text))
      (children : List Node)
deriving Inhabited

abbrev Attributes := List (String × Option Text)

namespace Node

/-- An element under the tag of its kind. -/
def ofKind (kind : ElementKind) (children : List Node) (attributes : Attributes) : Node :=
  element kind kind.tag attributes children

/-- A generic element under a tag of its own. -/
def generic (tag : String) (children : List Node) : Node := element .generic tag [] children

/-- The children of a node; a text leaf has none. -/
def children : Node → List Node
  | text _ => []
  | element _ _ _ cs => cs

def attributes : Node → Attributes
  | text _ => []
  | element _ _ attrs _ => attrs

def isElement : Node → Bool
  | text _ => false
  | element .. => true

def isOfKind (kind : ElementKind) : Node → Bool
  | text _ => false
  | element k _ _ _ => k = kind

/-- The text of a leaf; an element has none of its own. -/
def ownText : Node → Text
  | text content => content
  | element .. => []

def isBlankText : Node → Bool
  | text content => content.isBlank
  | element .. => false

def elementChildren (n : Node) : List Node := n.children.filter isElement

mutual

/-- Every node below a node, in document order. -/
def descendants : Node → List Node
  | text _ => []
  | element _ _ _ cs => forestNodes cs

def forestNodes : List Node → List Node
  | [] => []
  | n :: ns => n :: (descendants n ++ forestNodes ns)

end

/-- Every node of a tree, in document order: the root first. -/
def nodes (n : Node) : List Node := n :: n.descendants

/-- The text of all leaves of a node, in document order. -/
def textContent : Node → Text
  | text content => content
  | n => n.descendants.flatMap ownText

def findAll (kind : ElementKind) (n : Node) : List Node := n.descendants.filter (isOfKind kind)

/-! ## Induction and membership -/

/-- Induction on a tree: an element has what all its children have. -/
@[elab_as_elim, induction_eliminator]
theorem induction {motive : Node → Prop} (text : ∀ content, motive (text content))
    (element : ∀ kind tag attrs children, (∀ n ∈ children, motive n) →
      motive (element kind tag attrs children)) (n : Node) : motive n := by
  refine @Node.rec motive (fun ns => ∀ n ∈ ns, motive n) text
    (fun kind tag attrs children ih => element kind tag attrs children ih) ?_ ?_ n
  · simp
  · intro head tail hhead htail
    simpa using ⟨hhead, htail⟩

theorem forestNodes_eq_flatMap (ns : List Node) : forestNodes ns = ns.flatMap nodes := by
  induction ns with
  | nil => rfl
  | cons n ns ih => simp [forestNodes, nodes, ih]

theorem mem_nodes_self (n : Node) : n ∈ n.nodes := List.mem_cons_self

theorem mem_nodes_of_mem_descendants {x n : Node} (h : x ∈ n.descendants) : x ∈ n.nodes :=
  List.mem_cons_of_mem n h

theorem mem_descendants_element {x : Node} {kind : ElementKind} {tag : String}
    {attrs : List (String × Option Text)} {cs : List Node} :
    x ∈ (element kind tag attrs cs).descendants ↔ ∃ c ∈ cs, x ∈ c.nodes := by
  simp [descendants, forestNodes_eq_flatMap]

theorem nodes_subset {x n : Node} (h : x ∈ n.nodes) : x.nodes ⊆ n.nodes := by
  induction n with
  | text content =>
    simp only [nodes, descendants, List.mem_singleton] at h
    rw [h]
    exact fun _ => id
  | element kind tag attrs children ih =>
    rcases List.mem_cons.mp h with rfl | h
    · exact fun _ => id
    · obtain ⟨c, hc, hx⟩ := mem_descendants_element.mp h
      intro y hy
      exact mem_nodes_of_mem_descendants (mem_descendants_element.mpr ⟨c, hc, ih c hc hx hy⟩)

/-- What lies in an element of a tree is in the tree. -/
theorem mem_nodes_of_inside {x t : Node} {kind : ElementKind} {tag : String}
    {attrs : List (String × Option Text)} {cs : List Node}
    (ht : element kind tag attrs cs ∈ t.nodes) (hx : ∃ c ∈ cs, x ∈ c.nodes) : x ∈ t.nodes := by
  apply nodes_subset ht
  exact mem_nodes_of_mem_descendants (mem_descendants_element.mpr hx)

theorem mem_nodes_of_mem_children {x n : Node} (h : x ∈ n.children) : x ∈ n.nodes := by
  cases n with
  | text content => simp [children] at h
  | element kind tag attrs cs =>
    exact mem_nodes_of_mem_descendants (mem_descendants_element.mpr ⟨x, h, mem_nodes_self x⟩)

theorem exists_eq_element {n : Node} {kind : ElementKind} (h : n.isOfKind kind) :
    ∃ tag attrs children, n = element kind tag attrs children := by
  cases n with
  | text content => cases h
  | element kind' tag attrs children =>
      cases of_decide_eq_true h
      exact ⟨tag, attrs, children, rfl⟩

theorem mem_findAll_element {x : Node} {k kind : ElementKind} {tag : String}
    {attrs : List (String × Option Text)} {cs : List Node} :
    x ∈ (element kind tag attrs cs).findAll k ↔ (∃ c ∈ cs, x ∈ c.nodes) ∧ x.isOfKind k := by
  rw [findAll, List.mem_filter, mem_descendants_element]

/-- The text of a node is that of its nodes, of which only the leaves have any. -/
theorem textContent_eq_flatMap (n : Node) : n.textContent = n.nodes.flatMap ownText := by
  cases n with
  | text content => simp [textContent, nodes, descendants, ownText]
  | element kind tag attrs cs => simp [textContent, nodes, ownText]

theorem textContent_element (kind : ElementKind) (tag : String)
    (attrs : List (String × Option Text)) (cs : List Node) :
    (element kind tag attrs cs).textContent = cs.flatMap textContent := by
  have hleaves : textContent = fun n => n.nodes.flatMap ownText := by
    funext n
    exact n.textContent_eq_flatMap
  rw [hleaves]
  simp only [nodes, List.flatMap_cons, ownText, List.nil_append, descendants]
  rw [forestNodes_eq_flatMap, List.flatMap_assoc]
  rfl

end Node

/-- The text of all leaves of a list of nodes. -/
def textOfAll (ns : List Node) : Text := ns.flatMap Node.textContent

/-- The value of an attribute: the default when it is missing or has no value. -/
def Attributes.get (attrs : Attributes) (name : String) (default : Text) : Text :=
  match attrs.find? (·.1 = name) with
  | some (_, some value) => value
  | _ => default

/-- The nodes without the blank leaves at both ends. -/
def trimBlankNodes (ns : List Node) : List Node := trimEnds Node.isBlankText ns

end MarkTex
