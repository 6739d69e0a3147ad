import MarkTex.Entity.Reference
import MarkTex.Markdown.Token

/-!
# Places of tokens

A token means something only where it has a place: among blocks, in a list, in the parts and rows of
a table, or in a line of text. The tokens that have a place are visited in document order, and of these
the texts in lines are read for character references.
-/

namespace MarkTex.Markdown

/-- A place in which tokens stand. -/
inductive Place where
  /-- Among blocks. -/
  | block
  /-- Among the items of a list. -/
  | item
  /-- Among the parts of a table, its head and its body. -/
  | part
  /-- Among the rows of the body of a table. -/
  | row
  /-- Among the cells of a row. -/
  | cell (header : Bool)
  /-- In a line of text. -/
  | line
deriving DecidableEq

/-- The place of the tokens inside a token; there is none for tokens that are passed over. -/
def Place.inside : Place → TokenKind → Option Place
  | .block, .heading | .block, .paragraph | .block, .blockText => some .line
  | .block, .blockQuote => some .block
  | .block, .list => some .item
  | .block, .table => some .part
  | .item, .listItem => some .block
  | .part, .tableHead => some (.cell true)
  | .part, .tableBody => some .row
  | .row, _ => some (.cell false)
  | .cell _, .tableCell => some .line
  | .line, .strong | .line, .emphasis | .line, .link | .line, .image | .line, .strikethrough =>
    some .line
  | _, _ => none

mutual

/-- A token at a place and the tokens inside it that have a place, in document order. -/
def Place.visits (p : Place) : Token → List (Place × Token)
  | .mk kind raw attrs children =>
    (p, .mk kind raw attrs children) ::
      match p.inside kind with
      | some q => q.visitsEach children
      | none => []

/-- The tokens of a forest at a place that have a place, in document order. -/
def Place.visitsEach (p : Place) : List Token → List (Place × Token)
  | [] => []
  | t :: ts => p.visits t ++ p.visitsEach ts

end

/-- The number of digits of the first reference in the texts of a document that has too many of them to
be read. -/
def longReference? (ts : List Token) : Option Nat :=
  (Place.block.visitsEach ts).findSome? fun
    | (.line, .mk .text raw _ _) => Entity.longNumber? raw.toChars
    | _ => none

end MarkTex.Markdown
