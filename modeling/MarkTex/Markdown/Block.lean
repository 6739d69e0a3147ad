import MarkTex.Markdown.Inline

/-!
# Blocks

A source is cut into blocks first; the lines of text in them are read afterwards, when all reference
definitions of the source are known.
-/

namespace MarkTex.Markdown

inductive Alignment where
  | left
  | center
  | right
deriving DecidableEq

def Alignment.name : Alignment → String
  | left => "left"
  | center => "center"
  | right => "right"

structure Cell where
  alignment : Option Alignment
  text : List Char
deriving DecidableEq

/-- A block. -/
inductive Block where
  | blank
  | rule
  | paragraph (text : List Char)
  /-- A paragraph of a tight list item. -/
  | compact (text : List Char)
  | heading (level : Nat) (text : List Char)
  | code (raw : List Char) (info : Option (List Char))
  | html (raw : List Char)
  | math (raw : List Char)
  | quote (blocks : List Block)
  /-- A list; `start` is the number of the first item of a numbered one. -/
  | list (start : Option Nat) (items : List (List Block))
  | table (head : List Cell) (rows : List (List Cell))
deriving Inhabited

/-- The tokens of a line of text in a block, without the blanks at its ends. -/
def lineTokens (ctx : InlineContext) (cs : List Char) : List Token :=
  readInline ctx (trimEnds isEdge cs)
where
  isEdge (c : Char) : Bool := c == ' ' || c == '\r' || c == '\n' || c == '\t' || c == '\x0c'

def Cell.token (ctx : InlineContext) (cell : Cell) : Token :=
  .mk .tableCell [] { align := cell.alignment.map fun a => Text.ofString a.name }
    (lineTokens ctx cell.text)

/-- The attributes of a list whose first item has a number, if it is numbered. -/
def listAttributes (start : Option Nat) : TokenAttributes :=
  { ordered := start.isSome, start := start.bind fun n => if n = 1 then none else some (Int.ofNat n) }

mutual

def Block.token (ctx : InlineContext) : Block → Token
  | .blank => .leaf .blankLine []
  | .rule => .leaf .thematicBreak []
  | .paragraph text => .branch .paragraph (lineTokens ctx text)
  | .compact text => .branch .blockText (lineTokens ctx text)
  | .heading level text => .mk .heading [] { level := some (Int.ofNat level) } (lineTokens ctx text)
  | .code raw info => .mk .blockCode (Text.ofChars raw) { info := info.map Text.ofChars } []
  | .html raw => .leaf .blockHtml raw
  | .math raw => .leaf .blockMath raw
  | .quote blocks => .branch .blockQuote (Block.tokens ctx blocks)
  | .list start items => .mk .list [] (listAttributes start) (Block.itemTokens ctx items)
  | .table head rows => .branch .table
      [.branch .tableHead (head.map (·.token ctx)),
       .branch .tableBody (rows.map fun row => .branch .tableRow (row.map (·.token ctx)))]

def Block.tokens (ctx : InlineContext) : List Block → List Token
  | [] => []
  | b :: bs => Block.token ctx b :: Block.tokens ctx bs

def Block.itemTokens (ctx : InlineContext) : List (List Block) → List Token
  | [] => []
  | item :: items => .branch .listItem (Block.tokens ctx item) :: Block.itemTokens ctx items

end

end MarkTex.Markdown
