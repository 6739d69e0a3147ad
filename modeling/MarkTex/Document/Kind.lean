import MarkTex.Text.Case

/-!
# Kinds of elements

An element of a document is of one of twenty kinds, each named by the markup tag that it corresponds
to. A tag that names no kind makes a generic element, which has no rule of its own.
-/

namespace MarkTex

inductive ElementKind where
  | heading1
  | heading2
  | heading3
  | heading4
  | unorderedList
  | orderedList
  | listItem
  | paragraph
  | bold
  | italic
  | inlineCode
  | link
  | image
  | table
  | codeBlock
  | tableRow
  | tableCell
  | mathInline
  | mathBlock
  | generic
deriving DecidableEq

namespace ElementKind

/-- All kinds, in the order in which they are declared. -/
def all : List ElementKind :=
  [heading1, heading2, heading3, heading4, unorderedList, orderedList, listItem, paragraph, bold,
   italic, inlineCode, link, image, table, codeBlock, tableRow, tableCell, mathInline, mathBlock,
   generic]

def tag : ElementKind → String
  | heading1 => "h1"
  | heading2 => "h2"
  | heading3 => "h3"
  | heading4 => "h4"
  | unorderedList => "ul"
  | orderedList => "ol"
  | listItem => "li"
  | paragraph => "p"
  | bold => "strong"
  | italic => "em"
  | inlineCode => "code"
  | link => "a"
  | image => "img"
  | table => "table"
  | codeBlock => "pre"
  | tableRow => "tr"
  | tableCell => "td"
  | mathInline => "math-inline"
  | mathBlock => "math-block"
  | generic => "generic"

/-- The kind that a tag in lower case names. -/
def named? (tag : String) : Option ElementKind :=
  if tag = "b" then some bold
  else if tag = "i" then some italic
  else if tag = "th" then some tableCell
  else all.find? (·.tag = tag)

/-- The kind for a tag in any letter case. -/
def ofTag (tag : String) : ElementKind := (named? (lowerString tag)).getD generic

/-- Whether a kind is a heading with a sectioning command. -/
def isHeading : ElementKind → Bool
  | heading1 | heading2 | heading3 | heading4 => true
  | _ => false

def isList : ElementKind → Bool
  | unorderedList | orderedList => true
  | _ => false

end ElementKind

/-- The rules by which elements are treated, one for each group of kinds that behave alike. -/
inductive Handler where
  | heading
  | list
  | listItem
  | paragraph
  | bold
  | italic
  | inlineCode
  | link
  | image
  | table
  | codeBlock
  | tableRow
  | tableCell
  | mathInline
  | mathBlock
  | generic
deriving DecidableEq

/-- The rule for a kind. -/
def ElementKind.handler : ElementKind → Handler
  | heading1 | heading2 | heading3 | heading4 => .heading
  | unorderedList | orderedList => .list
  | listItem => .listItem
  | paragraph => .paragraph
  | bold => .bold
  | italic => .italic
  | inlineCode => .inlineCode
  | link => .link
  | image => .image
  | table => .table
  | codeBlock => .codeBlock
  | tableRow => .tableRow
  | tableCell => .tableCell
  | mathInline => .mathInline
  | mathBlock => .mathBlock
  | generic => .generic

end MarkTex
