import MarkTex.Text.Quoted

/-!
# Remarks

What a reader of documents has to say about the parts that it leaves out.
-/

namespace MarkTex

/-- A part of the source that has no place in the document. -/
inductive Remark where
  | unsupportedBlock (name : Text)
  | unsupportedInline (name : Text)
  | droppedHtmlBlock
  | droppedInlineHtml (markup : Text)
  | skippedHtmlText (kind : String)
  | skippedHtmlElement (name : String)
deriving DecidableEq

def Remark.message : Remark → Text
  | unsupportedBlock name =>
    Text.ofString ("Skipping unsupported block token: " ++ quoted name)
  | unsupportedInline name =>
    Text.ofString ("Skipping unsupported inline token: " ++ quoted name)
  | droppedHtmlBlock => Text.ofString "Dropping raw HTML block (parse_html disabled)"
  | droppedInlineHtml markup => Text.ofString ("Dropping inline HTML: " ++ quoted markup)
  | skippedHtmlText kind => Text.ofString ("Skipping HTML node of type " ++ kind)
  | skippedHtmlElement name => Text.ofString ("Skipping <" ++ name ++ "> element")

end MarkTex
