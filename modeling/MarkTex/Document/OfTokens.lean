import MarkTex.Document.Node
import MarkTex.Document.Remark
import MarkTex.Entity.Reference
import MarkTex.Markdown.Options
import MarkTex.Markdown.Token
import MarkTex.Text.Case

/-!
# From tokens to a document

The document has the shape that a browser would give to the source: elements by tag, text leaves in
document order, and a leaf with the separator between each two blocks. Tokens of a kind that has no
place where they stand are left out with a remark, and so is raw HTML if the options say so.

Raw HTML needs a reader of fragments, which may fail or have remarks of its own. The conversion is
therefore written over any monad, with the reader and the remarks given by `Reading`.
-/

namespace MarkTex.Markdown

/-- How fragments are read and where remarks go. -/
structure Reading (m : Type → Type) where
  fragment : Text → m (List Node)
  remark : Remark → m Unit

/-- What a block token leaves in the document. -/
inductive Produced where
  | nothing
  /-- Text of a tight list item, which joins what is before it. -/
  | run (nodes : List Node)
  /-- A block, which a separator parts from what is before it. -/
  | block (nodes : List Node)

/-- The nodes before a block token with those that it leaves. -/
def Produced.addTo (separator : Text) (before : List Node) : Produced → List Node
  | nothing => before
  | run nodes => before ++ nodes
  | block [] => before
  | block nodes =>
    if before.isEmpty || separator.isEmpty then before ++ nodes
    else before ++ [.text separator] ++ nodes

/-- The nodes that a row of block tokens leaves. -/
def assemble (separator : Text) (ps : List Produced) : List Node :=
  ps.foldl (Produced.addTo separator) []

/-- Nodes with a separator leaf between each two. -/
def separate (separator : Text) (ns : List Node) : List Node :=
  if separator.isEmpty then ns else ns.intersperse (.text separator)

/-- The element of a heading. A level that is missing or out of range counts as the first; the two
lowest levels have no kind of their own. -/
def headingNode (level : Option Int) (children : List Node) : Node :=
  match level with
  | some 2 => Node.ofKind .heading2 children []
  | some 3 => Node.ofKind .heading3 children []
  | some 4 => Node.ofKind .heading4 children []
  | some 5 => Node.generic "h5" children
  | some 6 => Node.generic "h6" children
  | _ => Node.ofKind .heading1 children []

/-- A text without the line end that closes it. -/
def dropFinalNewline (t : Text) : Text :=
  if t.getLast? = some (.scalar '\n') then t.dropLast else t

def firstWord (t : Text) : Text :=
  (t.dropWhile CodePoint.isBlank).takeWhile fun c => !c.isBlank

/-- The element of a code block. The first word of its info string is the language. -/
def codeNode (raw : Text) (info : Option Text) : Node :=
  let language := firstWord (info.getD [])
  Node.ofKind .codeBlock [.text (dropFinalNewline raw)]
    (if language.isEmpty then [] else [("language", some language)])

/-- The element of a list. The number of the first item is kept unless it is one. -/
def listNode (separator : Text) (attrs : TokenAttributes) (items : List Node) : Node :=
  let children := separate separator items
  if attrs.ordered then
    match attrs.start with
    | some n =>
      Node.ofKind .orderedList children
        (if n = 1 then [] else [("start", some (Text.ofString (toString n)))])
    | none => Node.ofKind .orderedList children []
  else Node.ofKind .unorderedList children []

/-- The optional title among the attributes of a link or an image. -/
def titleAttribute (attrs : TokenAttributes) : Attributes :=
  match attrs.title with
  | some (c :: cs) => [("title", some (c :: cs))]
  | _ => []

/-- The element of a table cell. -/
def cellNode (header : Bool) (attrs : TokenAttributes) (children : List Node) : Node :=
  let align : Attributes :=
    match attrs.align with
    | some (c :: cs) => [("align", some (c :: cs))]
    | _ => []
  .element .tableCell (if header then "th" else "td") align children

/-- The name of the tag that a text opens with, in lower case: a left angle bracket, blanks, and a
letter with the letters, digits and hyphens after it. -/
def openingTag? (t : Text) : Option (List Char) :=
  match t with
  | .scalar '<' :: rest =>
    -- a lone surrogate ends a name as any sign does that can stand in none
    let cs := (rest.dropWhile CodePoint.isBlank).map fun c => c.char?.getD '<'
    match cs with
    | c :: _ =>
      if c.isAlpha then some (lowerCase (cs.takeWhile fun c => c.isAlphanum || c == '-')) else none
    | [] => none
  | _ => none

/-- The tags that are kept where they stand in a line of text. -/
def keptInlineTags : List (List Char) := ["img".toList, "br".toList, "hr".toList]

def isKeptInline (raw : Text) : Bool := (openingTag? raw).any keptInlineTags.contains

/-- Text with its character references decoded. A lone surrogate stands in no reference. The numbers in
references are taken to be short enough to be read; whether they are is asked before a document is made
(`longReference?`). -/
def decodeReferences (t : Text) : Text := t.mapRuns (Entity.decode .lenient)

variable {m : Type → Type} [Monad m] (fx : Reading m) (o : ParseOptions)

mutual

/-- What a block token leaves in the document. -/
def block : Token → m Produced
  | .mk kind raw attrs children =>
    match kind with
    | .heading => do
      let cs ← inlines children
      return .block [headingNode attrs.level cs]
    | .paragraph => do
      let cs ← inlines children
      return .block [Node.ofKind .paragraph cs []]
    | .blockText => do
      let cs ← inlines children
      return .run cs
    | .blockCode => return .block [codeNode raw attrs.info]
    | .blockQuote => do
      let ps ← blocks children
      return .block [Node.generic "blockquote" (assemble o.blockSeparator ps)]
    | .list => do
      let items ← listItems children
      return .block [listNode o.blockSeparator attrs items]
    | .table => do
      let rows ← tableSections children
      return .block [Node.ofKind .table rows []]
    | .thematicBreak => return .block [Node.generic "hr" []]
    | .blockHtml =>
      if o.parseHtml then do
        let ns ← fx.fragment raw
        return .block (trimBlankNodes ns)
      else do
        fx.remark .droppedHtmlBlock
        return .nothing
    | .blockMath => return .block [Node.ofKind .mathBlock [.text raw] []]
    | .blankLine => return .nothing
    | other => do
      fx.remark (.unsupportedBlock other.name)
      return .nothing

def blocks : List Token → m (List Produced)
  | [] => return []
  | t :: ts => do
    let p ← block t
    let ps ← blocks ts
    return p :: ps

/-- The elements of the items of a list. Tokens that are no items are passed over. -/
def listItems : List Token → m (List Node)
  | [] => return []
  | .mk kind _ _ children :: ts =>
    if kind = .listItem then do
      let ps ← blocks children
      let ns ← listItems ts
      return Node.ofKind .listItem (assemble o.blockSeparator ps) [] :: ns
    else listItems ts

/-- The rows of a table: that of its head, then those of its body. -/
def tableSections : List Token → m (List Node)
  | [] => return []
  | .mk kind _ _ children :: ts =>
    match kind with
    | .tableHead => do
      let cells ← tableCells true children
      let ns ← tableSections ts
      return Node.ofKind .tableRow cells [] :: ns
    | .tableBody => do
      let rows ← tableRows children
      let ns ← tableSections ts
      return rows ++ ns
    | _ => tableSections ts

def tableRows : List Token → m (List Node)
  | [] => return []
  | .mk _ _ _ children :: ts => do
    let cells ← tableCells false children
    let ns ← tableRows ts
    return Node.ofKind .tableRow cells [] :: ns

/-- The cells of a row. Tokens that are no cells are passed over. -/
def tableCells (header : Bool) : List Token → m (List Node)
  | [] => return []
  | .mk kind _ attrs children :: ts =>
    if kind = .tableCell then do
      let cs ← inlines children
      let ns ← tableCells header ts
      return cellNode header attrs cs :: ns
    else tableCells header ts

def inlines : List Token → m (List Node)
  | [] => return []
  | t :: ts => do
    let ns ← inline t
    let rest ← inlines ts
    return ns ++ rest

/-- The nodes of a token in a line of text. -/
def inline : Token → m (List Node)
  | .mk kind raw attrs children =>
    match kind with
    | .text => return [.text (decodeReferences raw)]
    | .strong => do
      let cs ← inlines children
      return [Node.ofKind .bold cs []]
    | .emphasis => do
      let cs ← inlines children
      return [Node.ofKind .italic cs []]
    | .codeSpan => return [Node.ofKind .inlineCode [.text raw] []]
    | .link => do
      let cs ← inlines children
      return [Node.ofKind .link cs (("href", attrs.url) :: titleAttribute attrs)]
    | .image => do
      let cs ← inlines children
      return [Node.ofKind .image []
        (("src", attrs.url) :: ("alt", some (textOfAll cs)) :: titleAttribute attrs)]
    | .softBreak => return [.text (Text.ofString "\n")]
    | .lineBreak => return [Node.generic "br" []]
    | .strikethrough => do
      let cs ← inlines children
      return [Node.generic "del" cs]
    | .inlineHtml =>
      if o.parseHtml then
        if isKeptInline raw then fx.fragment raw
        else do
          fx.remark (.droppedInlineHtml raw)
          return []
      else return []
    | .inlineMath => return [Node.ofKind .mathInline [.text raw] []]
    | other => do
      fx.remark (.unsupportedInline other.name)
      return []

end

def nodesOfBlocks (ts : List Token) : m (List Node) := do
  let ps ← blocks fx o ts
  return assemble o.blockSeparator ps

def document (ts : List Token) : m Node := do
  let ns ← nodesOfBlocks fx o ts
  return Node.generic "document" ns

end MarkTex.Markdown
