import MarkTex.Html.Markup

/-!
# The tree of an HTML fragment

The tree is built from the markup with a stack of open elements. An end tag closes the innermost open
element of its name and all elements inside it; without one it changes nothing but that text before
and after it stays apart. Elements that are still open at the end of the fragment end there. Void
elements take no children.

Text in some elements is set apart from ordinary text: that of scripts and style sheets, that of
templates, and the ruby text and ruby parentheses of East Asian typography.
-/

namespace MarkTex.Html

/-- The kinds of text in a tree. -/
inductive TextKind where
  | ordinary
  | styleSheet
  | script
  | template
  | rubyText
  | rubyParenthesis
  | aside (kind : Aside)
deriving DecidableEq

def TextKind.name : TextKind → String
  | ordinary => "NavigableString"
  | styleSheet => "Stylesheet"
  | script => "Script"
  | template => "TemplateString"
  | rubyText => "RubyTextString"
  | rubyParenthesis => "RubyParenthesisString"
  | aside .comment => "Comment"
  | aside .doctype => "Doctype"
  | aside .section => "CData"
  | aside .declaration => "Declaration"
  | aside .instruction => "ProcessingInstruction"

/-- The kind of text in an element that sets its text apart. -/
def TextKind.within? (name : String) : Option TextKind :=
  if name = "style" then some styleSheet
  else if name = "script" then some script
  else if name = "template" then some template
  else if name = "rt" then some rubyText
  else if name = "rp" then some rubyParenthesis
  else none

/-- A node of the tree of a fragment. -/
inductive Item where
  | text (kind : TextKind) (content : Text)
  | element (name : String) (attributes : List (String × List Char)) (children : List Item)

/-- The elements that take no children. -/
def voidElements : List String :=
  ["area", "base", "br", "col", "embed", "hr", "img", "input", "keygen", "link", "menuitem", "meta",
   "param", "source", "track", "wbr", "basefont", "bgsound", "command", "frame", "image", "isindex",
   "nextid", "spacer"]

/-- Whether the value of an attribute is a list of words. -/
def isWordList (element attr : String) : Bool :=
  ["class", "accesskey", "dropzone"].contains attr ||
    (element, attr) ∈
      [("a", "rel"), ("a", "rev"), ("link", "rel"), ("link", "rev"), ("td", "headers"),
       ("th", "headers"), ("form", "accept-charset"), ("object", "archive"), ("area", "rel"),
       ("icon", "sizes"), ("iframe", "sandbox"), ("output", "for")]

def joinWords (ws : List (List Char)) : List Char := [' '].intercalate ws

/-- The attributes of an element: a later value for a name takes the place of the earlier one, a
missing value is empty, and the words of a list have one space between them. -/
def attributeValues (element : String) (attrs : List (List Char × Option (List Char))) :
    List (String × List Char) :=
  (attrs.foldl put []).map fun a =>
    (a.1, if isWordList element a.1 then joinWords (words a.2) else a.2)
where
  put (acc : List (String × List Char)) (a : List Char × Option (List Char)) :
      List (String × List Char) :=
    let name := String.ofList a.1
    let v := a.2.getD []
    if acc.any (·.1 = name) then acc.map fun e => if e.1 = name then (name, v) else e
    else acc ++ [(name, v)]

/-- An open element, with the children read so far in reverse. -/
structure Frame where
  name : String
  attributes : List (String × List Char)
  children : List Item

/-- The state of the builder: the open elements, the innermost first, the nodes of the top level in
reverse, the text not yet placed, and the void elements whose end tag may still come. -/
structure Builder where
  frames : List Frame
  top : List Item
  pending : Option Text
  closedVoid : List String

namespace Builder

def place (b : Builder) (item : Item) : Builder :=
  match b.frames with
  | [] => { b with top := item :: b.top }
  | f :: fs => { b with frames := { f with children := item :: f.children } :: fs }

/-- Whether blanks matter at the current place. -/
def keepsBlanks (b : Builder) : Bool := b.frames.any fun f => f.name = "pre" || f.name = "textarea"

/-- The kind of ordinary text at the current place. -/
def textKind (b : Builder) : TextKind :=
  (b.frames.findSome? fun f => TextKind.within? f.name).getD .ordinary

/-- Whether a code point is one of the blanks that collapse. -/
def collapses (c : CodePoint) : Bool :=
  c = .scalar ' ' || c = .scalar '\n' || c = .scalar '\t' || c = .scalar '\x0c' || c = .scalar '\r'

/-- The text not yet placed put at the current place. Text of blanks alone becomes a line end or a
space, unless blanks matter here. -/
def flush (b : Builder) : Builder :=
  match b.pending with
  | none => b
  | some t =>
    let t :=
      if !b.keepsBlanks && t.all collapses then
        -- blanks collapse to the one that parts lines if it is among them
        if t.contains (.scalar '\n') then Text.ofString "\n" else Text.ofString " "
      else t
    { b with pending := none }.place (.text b.textKind t)

/-- More text at the current place. -/
def addText (b : Builder) (t : Text) : Builder := { b with pending := some (b.pending.getD [] ++ t) }

def openElement (b : Builder) (name : String) (attrs : List (String × List Char)) : Builder :=
  let b := b.flush
  { b with frames := ⟨name, attrs, []⟩ :: b.frames }

/-- The innermost open element closed. -/
def closeInnermost (b : Builder) : Builder :=
  match b.frames with
  | [] => b
  | f :: fs =>
    { b with frames := fs }.place (.element f.name f.attributes f.children.reverse)

def closeMany : Nat → Builder → Builder
  | 0, b => b
  | n + 1, b => closeMany n b.closeInnermost

/-- The innermost open element of a name closed, with all inside it, if there is one. -/
def closeElement (b : Builder) (name : String) : Builder :=
  let b := b.flush
  match b.frames.findIdx? (·.name = name) with
  | none => b
  | some i => closeMany (i + 1) b

def step (b : Builder) : Markup → Builder
  | .text t => b.addText t
  | .aside kind => b.flush.place (.text (.aside kind) [])
  | .openTag name attrs =>
    let name := String.ofList name
    let b := b.openElement name (attributeValues name attrs)
    if voidElements.contains name then
      let b := b.closeElement name
      { b with closedVoid := name :: b.closedVoid }
    else b
  | .emptyTag name attrs =>
    let name := String.ofList name
    (b.openElement name (attributeValues name attrs)).closeElement name
  | .closeTag name =>
    let name := String.ofList name
    if b.closedVoid.contains name then { b with closedVoid := b.closedVoid.erase name }
    else b.closeElement name

end Builder

def Item.ofMarkup (ms : List Markup) : List Item :=
  let b := (ms.foldl Builder.step ⟨[], [], none, []⟩).flush
  (Builder.closeMany b.frames.length b).top.reverse

def Item.read (cs : List Char) : Except Rejection (List Item) := (Markup.read cs).map Item.ofMarkup

mutual

/-- The ordinary text of a node that is outside scripts and style sheets, whatever element it stands
in. -/
def Item.characterData : Item → Text
  | .text (.aside _) _ => []
  | .text _ content => content
  | .element name _ children =>
    if name = "script" ∨ name = "style" then [] else Item.characterDataOfAll children

def Item.characterDataOfAll : List Item → Text
  | [] => []
  | i :: is => Item.characterData i ++ Item.characterDataOfAll is

end

end MarkTex.Html
