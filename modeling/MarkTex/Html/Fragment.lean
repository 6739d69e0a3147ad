import MarkTex.Html.Tree
import MarkTex.Document.Node
import MarkTex.Document.Remark

/-!
# HTML fragments as document nodes

An element becomes an element of the kind that its tag names, with all its attributes; scripts and
style sheets are left out. Ordinary text becomes a leaf, and any other text is left out.
-/

namespace MarkTex.Html

/-- The elements that never reach a document. -/
def skippedElements : List String := ["script", "style"]

mutual

/-- The nodes of a part of a fragment: one, or none if it is left out. -/
def Item.nodes : Item → List Node
  | .text kind content => if kind = .ordinary then [.text content] else []
  | .element name attrs children =>
    let tag := lowerString name
    if skippedElements.contains tag then []
    else
      [.element (ElementKind.ofTag tag) tag (attrs.map fun a => (a.1, some (Text.ofChars a.2)))
        (Item.nodesOfAll children)]

def Item.nodesOfAll : List Item → List Node
  | [] => []
  | i :: is => Item.nodes i ++ Item.nodesOfAll is

end

mutual

/-- The remarks on what is left out of a part, in document order. -/
def Item.remarks : Item → List Remark
  | .text kind _ => if kind = .ordinary then [] else [.skippedHtmlText kind.name]
  | .element name _ children =>
    let tag := lowerString name
    if skippedElements.contains tag then [.skippedHtmlElement tag]
    else Item.remarksOfAll children

def Item.remarksOfAll : List Item → List Remark
  | [] => []
  | i :: is => Item.remarks i ++ Item.remarksOfAll is

end

/-- A fragment as document nodes, with the remarks on what is left out. -/
structure Fragment where
  nodes : List Node
  remarks : List Remark

def Fragment.read (cs : List Char) : Except Rejection Fragment :=
  (Item.read cs).map fun items => ⟨Item.nodesOfAll items, Item.remarksOfAll items⟩

end MarkTex.Html
