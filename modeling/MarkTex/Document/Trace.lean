import MarkTex.Document.Node

/-!
# The order of a visit

A visitor that goes on into all children meets every node once, an element before its children. The
trace lists what it meets: a leaf, or the rule for the element.
-/

namespace MarkTex

/-- What a visitor meets: a text leaf, or an element with the rule for its kind. -/
inductive Visit where
  | text
  | element (handler : Handler)
deriving DecidableEq

def Node.visit : Node → Visit
  | .text _ => .text
  | .element kind _ _ _ => .element kind.handler

/-- What a visitor meets in a tree, in document order. -/
def Node.trace (n : Node) : List Visit := n.nodes.map Node.visit

end MarkTex
