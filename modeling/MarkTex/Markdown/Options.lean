import MarkTex.Text.CodePoint

/-!
# Options of the Markdown reader
-/

namespace MarkTex.Markdown

/-- How a Markdown source is read. -/
structure ParseOptions where
  /-- The encoding of paths, bytes and streams of bytes. -/
  encoding : Text := Text.ofString "utf-8"
  /-- Read pipe tables. -/
  parseTables : Bool := true
  /-- Read inline and block math; otherwise dollars are ordinary text. -/
  parseMath : Bool := true
  /-- Read text between double tildes as struck through. -/
  parseStrikethrough : Bool := true
  /-- Read raw HTML into the document; otherwise it is dropped. -/
  parseHtml : Bool := true
  /-- The text between two blocks. -/
  blockSeparator : Text := Text.ofString "\n"
deriving DecidableEq

end MarkTex.Markdown
