import MarkTex.Text.CodePoint

/-!
# Markdown tokens

The reader of Markdown turns a source into a forest of tokens. A token has a kind, the raw text it
holds, a few attributes, and the tokens inside it. The kinds that hold blocks, the kinds that hold
lines of text, and the kinds of text share one type: a forest may hold any kind in any place.
-/

namespace MarkTex.Markdown

/-- The kinds of tokens. Kinds that have no place in a document keep their name. -/
inductive TokenKind where
  | heading
  | paragraph
  | blockText
  | blockCode
  | blockQuote
  | list
  | listItem
  | table
  | tableHead
  | tableBody
  | tableRow
  | tableCell
  | thematicBreak
  | blockHtml
  | blockMath
  | blankLine
  | text
  | strong
  | emphasis
  | codeSpan
  | link
  | image
  | softBreak
  | lineBreak
  | strikethrough
  | inlineHtml
  | inlineMath
  | other (name : Text)
deriving DecidableEq, Inhabited

namespace TokenKind

/-- The kinds that have a name of their own, with it. -/
def table? : List (TokenKind × String) :=
  [(heading, "heading"), (paragraph, "paragraph"), (blockText, "block_text"),
   (blockCode, "block_code"), (blockQuote, "block_quote"), (list, "list"), (listItem, "list_item"),
   (table, "table"), (tableHead, "table_head"), (tableBody, "table_body"), (tableRow, "table_row"),
   (tableCell, "table_cell"), (thematicBreak, "thematic_break"), (blockHtml, "block_html"),
   (blockMath, "block_math"), (blankLine, "blank_line"), (text, "text"), (strong, "strong"),
   (emphasis, "emphasis"), (codeSpan, "codespan"), (link, "link"), (image, "image"),
   (softBreak, "softbreak"), (lineBreak, "linebreak"), (strikethrough, "strikethrough"),
   (inlineHtml, "inline_html"), (inlineMath, "inline_math")]

def name : TokenKind → Text
  | other name => name
  | k =>
    match table?.find? (·.1 = k) with
    | some e => Text.ofString e.2
    | none => []

def ofName (name : Text) : TokenKind :=
  match table?.find? (Text.ofString ·.2 = name) with
  | some e => e.1
  | none => other name

end TokenKind

/-- What a token says beside its text. Each part matters to a few kinds only. -/
structure TokenAttributes where
  /-- The level of a heading. -/
  level : Option Int := none
  /-- The words after the opening fence of a code block. -/
  info : Option Text := none
  /-- Whether a list is numbered. -/
  ordered : Bool := false
  /-- The number of the first item of a numbered list. -/
  start : Option Int := none
  /-- The target of a link or an image. -/
  url : Option Text := some []
  /-- The title of a link or an image. -/
  title : Option Text := none
  /-- The alignment of a table cell. -/
  align : Option Text := none
deriving DecidableEq, Inhabited

inductive Token where
  | mk (kind : TokenKind) (raw : Text) (attributes : TokenAttributes) (children : List Token)
deriving Inhabited

namespace Token

def kind : Token → TokenKind
  | mk k _ _ _ => k

def raw : Token → Text
  | mk _ r _ _ => r

def attributes : Token → TokenAttributes
  | mk _ _ a _ => a

def children : Token → List Token
  | mk _ _ _ cs => cs

/-- A token with nothing but its kind and raw text. -/
def leaf (kind : TokenKind) (raw : List Char) : Token := mk kind (Text.ofChars raw) {} []

/-- A token with nothing but its kind and the tokens inside it. -/
def branch (kind : TokenKind) (children : List Token) : Token := mk kind [] {} children

mutual

/-- A token and every token inside it, in document order. -/
def tokens : Token → List Token
  | mk kind raw attributes children => mk kind raw attributes children :: forest children

/-- Every token of a forest, in document order. -/
def forest : List Token → List Token
  | [] => []
  | t :: ts => tokens t ++ forest ts

end

/-- Induction on a forest: the tokens inside the first token come before the tokens beside it. -/
@[elab_as_elim]
theorem forest_induction {motive : List Token → Prop} (nil : motive [])
    (cons : ∀ kind raw attrs children ts, motive children → motive ts →
      motive (mk kind raw attrs children :: ts)) (ts : List Token) : motive ts := by
  refine @Token.rec_1 (fun t => motive t.children) motive ?_ nil ?_ ts
  · exact fun _ _ _ _ hchildren => hchildren
  · rintro ⟨kind, raw, attrs, children⟩ ts hchildren hts
    exact cons kind raw attrs children ts hchildren hts

end Token

end MarkTex.Markdown
