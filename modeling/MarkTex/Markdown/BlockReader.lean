import MarkTex.Markdown.BlockStart

/-!
# Reading blocks

The reader goes over a source from one line where a block begins to the next; the lines between them
are paragraphs. The text of a block quote, and that of every list item, is taken out of its marks and
read in turn. Nesting ends at a fixed depth: from there on the marks of quotes and items are plain
text.

Every function takes from a bound, which is enough if it is a few times the length of the source.
-/

namespace MarkTex.Markdown

/-- The blocks read so far, the latest first, and the definitions. -/
structure Draft where
  blocks : List Block
  references : References

namespace Draft

def push (d : Draft) (b : Block) : Draft := { d with blocks := b :: d.blocks }

/-- More lines for the paragraph at the end, if there is one. -/
def extend? (d : Draft) (text : List Char) : Option Draft :=
  match d.blocks with
  | .paragraph t :: rest => some { d with blocks := .paragraph (t ++ text) :: rest }
  | _ => none

/-- Lines that are a paragraph or belong to the one at the end. -/
def addLines (d : Draft) (text : List Char) : Draft := (d.extend? text).getD (d.push (.paragraph text))

/-- A block put before the latest. -/
def pushBefore (d : Draft) (b : Block) : Draft :=
  match d.blocks with
  | [] => d.push b
  | latest :: rest => { d with blocks := latest :: b :: rest }

/-- A block put where a number of blocks were there. -/
def insertAt (d : Draft) (count : Nat) (b : Block) : Draft :=
  let later := d.blocks.length - count
  { d with blocks := d.blocks.take later ++ b :: d.blocks.drop later }

end Draft

/-- The first place from a place on where a word stands. -/
def findWord? (w : String) (c : Cursor) : Option Cursor :=
  ((Matcher.word w).search? c).map (·.1)

/-- The line of the paragraph at the end of a draft that begins at a place. -/
def continueParagraph? (here : Cursor) (d : Draft) : Option (Cursor × Draft) :=
  (d.extend? here.line.1).map (here.line.2, ·)

/-! ### Code -/

def fenceEnd (mark : Char) (length : Nat) : Matcher Unit := do
  let _ ← BlockStart.indentUpTo 3
  let marks ← Matcher.runOf (· == mark)
  if marks.length < length then Matcher.fail
  let _ ← Matcher.runOf BlockStart.isSpaceTab
  (do Matcher.exactly '\n') <|> Matcher.lineEnd

/-- A fenced code block, from behind the opening fence. -/
def fencedCode (indent : Nat) (mark : Char) (length : Nat) (info : List Char) (after : Cursor)
    (d : Draft) : Option (Cursor × Draft) :=
  if mark = '`' ∧ info.contains '`' then none
  else
    let start := after.nextLine
    let (raw, next) :=
      match (fenceEnd mark length).search? start with
      | some (close, _, next) => (start.upTo close, next)
      | none => (start.rest, start.finish)
    let info := if info.isEmpty then none else some (trimBlank (unescape info))
    some (next, d.push (.code (mapLines (dropSpaces indent) raw) info))

def indentedCode (here after : Cursor) (d : Draft) : Option (Cursor × Draft) :=
  continueParagraph? here d <|>
    some (after, d.push (.code (trimEnds (· == '\n')
      (mapLines (dropSpaces 4) (expandLeadingTabs 4 (here.upTo after)))) none))

/-! ### Headings -/

/-- The text of a heading without the number signs that close it. They stand alone or behind a blank,
and only blanks may follow them. -/
def headingText (text : List Char) : List Char :=
  let text := trimEnds isAsciiBlank text
  let signed := text.reverse.dropWhile isBlank
  let body := signed.dropWhile (· == '#')
  if body.length = signed.length then text
  else if body.isEmpty then []
  else if body.head?.any isBlank then (body.dropWhile isBlank).reverse
  else text

/-! ### Raw HTML -/

/-- Raw HTML as far as a word and the end of its line. -/
def htmlToWord (w : String) (here after : Cursor) (d : Draft) : Cursor × Draft :=
  match findWord? w after with
  | some found =>
    let next := found.line.2
    (next, d.push (.html (here.upTo next)))
  | none => (here.finish, d.push (.html here.rest))

/-- Raw HTML as far as the next blank line. -/
def htmlToBlankLine (here : Cursor) (d : Draft) : Cursor × Draft :=
  match BlockStart.blankRule.search? here with
  | some (stop, _, _) => (stop, d.push (.html (here.upTo stop)))
  | none => (here.finish, d.push (.html here.rest))

/-- Whether the rest of a line completes a tag. -/
def completesTag (attributes : Bool) (after : Cursor) : Bool :=
  let tagEnd : Matcher Unit := do
    if attributes then InlineMarkup.tagAttributes
    let _ ← Matcher.runOf BlockStart.isSpaceTab
    Matcher.exactly '>'
    let _ ← Matcher.runOf BlockStart.isSpaceTab
    Matcher.exactly '\n' <|> Matcher.lineEnd
  (tagEnd.run? ⟨after.before, after.line.1⟩).isSome

def htmlBlock (opening : List Char) (here after : Cursor) (d : Draft) : Option (Cursor × Draft) :=
  let opening := trimBlank opening
  let tagAlone (attributes : Bool) : Option (Cursor × Draft) :=
    continueParagraph? here d <|>
      if completesTag attributes after then some (htmlToBlankLine here d) else none
  if opening = "<!--".toList then some (htmlToWord "-->" here after d)
  else if opening = "<?".toList then some (htmlToWord "?>" here after d)
  else if opening = "<![CDATA[".toList then some (htmlToWord "]]>" here after d)
  else if "<!".toList.isPrefixOf opening then some (htmlToWord ">" here after d)
  else
    match opening with
    | '<' :: '/' :: name =>
      if blockElements.contains (String.ofList (lowerCase name)) then some (htmlToBlankLine here d)
      else tagAlone false
    | _ =>
      let name := String.ofList (lowerCase opening.tail)
      if rawElements.contains name then some (htmlToWord ("</" ++ name ++ ">") here after d)
      else if blockElements.contains name then some (htmlToBlankLine here d)
      else tagAlone true

/-! ### Definitions -/

/-- A reference definition, from behind its colon. -/
def definition (label : List Char) (here after : Cursor) (d : Draft) : Option (Cursor × Draft) :=
  continueParagraph? here d <|>
    if (labelKey label).isEmpty then none
    else
      (definitionTarget? after.rest).map fun r =>
        (after.seek r.2,
          { d with references := d.references.define (labelKey label) r.1 })

/-! ### Tables -/

/-- The parts of a line between its bars. A backslash takes its meaning from the character after it. -/
def splitAtBars (cs : List Char) : List (List Char) := go [] cs
where
  go (acc : List Char) : List Char → List (List Char)
    | [] => [acc.reverse]
    | '\\' :: c :: rest => go (c :: '\\' :: acc) rest
    | c :: rest => if c = '|' then acc.reverse :: go [] rest else go (c :: acc) rest

def cellTexts (line : List Char) : List (List Char) := (splitAtBars line).map trimBlank

/-- The alignment that a cell of the line of alignments stands for, if it is one. Such a cell is empty,
or a row of hyphens with at most one colon at each end; colons at neither end leave the alignment
open. -/
def alignment? (cs : List Char) : Option (Option Alignment) :=
  let left := cs.head? == some ':'
  let right := cs.getLast? == some ':'
  let marks := trimEnds (· == ':') cs
  if cs.isEmpty then some none
  else if marks.isEmpty || !(marks.all (· == '-')) ||
      cs.length ≠ marks.length + (if left then 1 else 0) + (if right then 1 else 0) then none
  else
    match left, right with
    | true, true => some (some .center)
    | true, false => some (some .left)
    | false, true => some (some .right)
    | false, false => some none

/-- A table, if all its lines have as many cells. -/
def tableBlock? (head align : List Char) (rows : List (List Char)) : Option Block := do
  let alignments ← (cellTexts (trimBlank align)).mapM alignment?
  let cells (texts : List (List Char)) : Option (List Cell) :=
    if texts.length = alignments.length then
      some ((alignments.zip texts).map fun p => ⟨p.1, p.2⟩)
    else none
  let head ← cells (cellTexts (trimBlank head))
  let rows ← rows.mapM fun row => cells (cellTexts row)
  return .table head rows

/-- A table, or the lines of one that is none as lines of a paragraph. -/
def tableOrLines (head align : List Char) (rows : List (List Char)) (here after : Cursor) (d : Draft) :
    Draft :=
  match tableBlock? head align rows with
  | some t => d.push t
  | none => d.addLines (here.upTo after)

/-! ### Block quotes -/

/-- The lines from a place on that begin with the mark of a block quote. -/
def markedLines? (c : Cursor) : Option (List Char × Cursor) :=
  let line : Matcher Unit := do
    let _ ← Matcher.many (· == ' ') 0 3
    Matcher.exactly '>'
    let _ ← BlockStart.restOfLine
    let _ ← Matcher.optional (Matcher.exactly '\n')
  (Matcher.textOf (Matcher.repeatAtLeast line 1)).run? c

/-- Lines of a block quote without their marks. -/
def unmarked (cs : List Char) : List Char :=
  mapLines (dropSpaces 1) (expandLeadingTabs 3 (mapLines dropMark cs))
where
  dropMark (line : List Char) : List Char :=
    match line.dropWhile (· == ' ') with
    | '>' :: rest => rest
    | _ => line

/-- A line that goes on with the paragraph of a block quote without a mark. It makes no heading of the
paragraph: an underline is indented further than an underline may be. -/
def unmarkedLine (line : List Char) : List Char :=
  let line := expandLeadingTabs 3 line
  if (BlockStart.at? 3 [.underline] (.start line)).isSome then "    ".toList ++ line else line

def endsBlank (cs : List Char) : Bool :=
  match cs.reverse with
  | '\n' :: rest => (rest.takeWhile (· != '\n')).all isBlank
  | rest => (rest.takeWhile (· != '\n')).all isBlank

/-! ### List items -/

/-- The text after the mark of a list item, without the spaces before it, and how many columns the
lines below must be indented to belong to the item. -/
def itemText (head : ItemHead) : List Char × Nat :=
  let width := head.indent + head.mark.width
  let text := expandHead width head.text
  let blanks := (text.takeWhile (· == ' ')).length
  if text.all isBlank then ([], width + 1)
  else
    let spaces := if 5 ≤ blanks then 1 else blanks
    (text.drop spaces ++ ['\n'], width + spaces)

def withoutBlankTail (cs : List Char) : List Char :=
  let tail := (cs.reverse.takeWhile isBlank).reverse
  match tail.findIdx? (· == '\n') with
  | some i => cs.take (cs.length - tail.length + i + 1)
  | none => cs

/-- Whether the blocks of an item make its list loose. -/
def isLoose (blocks : List Block) : Bool :=
  blocks.any (fun | .blank => true | _ => false) ||
    1 < (blocks.filter fun | .paragraph _ => true | _ => false).length

/-- A block of a tight list item. -/
def Block.tightened : Block → Block
  | .paragraph text => .compact text
  | b => b

/-- The rules that end the lines of a list item. The mark of a further item of the list itself is
looked for after the first of them. -/
def itemEndRules : List Rule := [.fence, .heading, .quote, .blockHtml, .list]

/-- What ends the lines of a list item. -/
inductive ItemEnd where
  | item (head : ItemHead) (after : Cursor)
  | otherList
  | block (start : BlockStart) (after : Cursor)

/-- What ends the lines of a list item at a place, if anything does. -/
def itemEnd? (width : Nat) (last : Char) (c : Cursor) : Option ItemEnd :=
  if c.before != some '\n' then none
  else
    let indent := min width 3
    match BlockStart.at? indent [.thematicBreak] c with
    | some (start, after) => some (.block start after)
    | none =>
    match (BlockStart.nextItem indent last).run? c with
    | some (head, after) => some (.item head after)
    | none =>
    match BlockStart.at? indent itemEndRules c with
    | some (.item _, _) => some .otherList
    | some (start, after) => some (.block start after)
    | none => none

/-! ### The reader -/

/-- How deep blocks may nest. -/
def nestingBound : Nat := 20

def innerRules : List Rule :=
  [.fence, .indented, .heading, .underline, .thematicBreak, .quote, .list, .definition, .html, .blank]

def outerRules (o : ParseOptions) : List Rule :=
  [.fence, .indented, .heading, .underline, .thematicBreak, .quote] ++
    (if o.parseMath then [.math] else []) ++ [.list, .definition, .html, .blank] ++
    (if o.parseTables then [.table, .looseTable] else [])

def rulesInside (depth : Nat) : List Rule :=
  if nestingBound ≤ depth + 1 then innerRules.filter fun r => r != .quote && r != .list else innerRules

/-- The rules that end the unmarked lines of a block quote. -/
def quoteEndRules : List Rule := [.blank, .thematicBreak, .fence, .list, .blockHtml]

/-- The lines of a block quote: their text, the place where they end, the place behind a block that
ended them, and the draft with that block. -/
structure QuoteLines where
  text : List Char
  stop : Cursor
  ended : Option Cursor
  draft : Draft

/-- The lines of a list item below its first, the place where they end, whether the last of them is
blank, what comes next, and the draft. -/
structure ItemLines where
  text : List Char
  stop : Cursor
  blankLast : Bool
  next : Option ItemHead
  ended : Option (Nat × Cursor)
  draft : Draft

mutual

/-- The draft after the blocks of a text from a place on. -/
def readBlocks : Nat → Nat → List Rule → Cursor → Draft → Draft
  | 0, _, _, c, d => if c.rest.isEmpty then d else d.addLines c.rest
  | fuel + 1, depth, rules, c, d =>
    if c.rest.isEmpty then d
    else
      match BlockStart.next? rules c with
      | none => d.addLines c.rest
      | some (skipped, here, start, after) =>
        let d := if skipped.isEmpty then d else d.addLines skipped
        match readBlock fuel depth start here after d with
        | some (next, d) => readBlocks fuel depth rules next d
        | none => readBlocks fuel depth rules here.line.2 (d.addLines here.line.1)

/-- The draft after a block that begins at a place, with the place behind the block. -/
def readBlock : Nat → Nat → BlockStart → Cursor → Cursor → Draft → Option (Cursor × Draft)
  | 0, _, _, _, _, _ => none
  | fuel + 1, depth, start, here, after, d =>
    match start with
    | .fence indent mark length info => fencedCode indent mark length info after d
    | .indented => indentedCode here after d
    | .heading level text => some (after.nextLine, d.push (.heading level (headingText text)))
    | .underline level =>
      match d.blocks with
      | .paragraph text :: rest =>
        some (after.nextLine, { d with blocks := .heading level text :: rest })
      | _ =>
        -- without a paragraph above it the line may still be a rule or an item
        match BlockStart.at? 3 [.thematicBreak, .list] here with
        | some (start, after) => readBlock fuel depth start here after d
        | none => none
    | .thematicBreak => some (after.nextLine, d.push .rule)
    | .math body => some (after.nextLine, d.push (.math body))
    | .quote text => some (readQuote fuel depth text after d)
    | .item head => readList fuel depth head here after d
    | .definition label => definition label here after d
    | .html opening => htmlBlock opening here after d
    | .blank => some (after, d.push .blank)
    | .table head align rows => some (after, tableOrLines head align rows here after d)

/-- The draft after a block quote whose first line has been found. -/
def readQuote : Nat → Nat → List Char → Cursor → Draft → Cursor × Draft
  | 0, _, text, after, d => (after.nextLine, d.addLines (text ++ ['\n']))
  | fuel + 1, depth, text, after, d =>
    let first := mapLines (dropSpaces 1) (expandLeadingTabs 3 (text ++ ['\n']))
    let lines :=
      -- only a paragraph goes on without marks, and none begins here
      if (BlockStart.at? 3 [.blank, .indented, .fence] (.start first)).isSome then
        match markedLines? after.nextLine with
        | some (more, stop) => ⟨first ++ unmarked more, stop, none, d⟩
        | none => ⟨first, after.nextLine, none, d⟩
      else quoteLines fuel depth false first after.nextLine d
    let inner := readBlocks fuel (depth + 1) (rulesInside depth)
      (.start (widenLeadingTabs lines.text)) ⟨[], lines.draft.references⟩
    let block := Block.quote inner.blocks.reverse
    let d : Draft := { lines.draft with references := inner.references }
    match lines.ended with
    | some next => (next, d.pushBefore block)
    | none => (lines.stop, d.push block)

/-- The lines of a block quote from a place on, after some text. -/
def quoteLines : Nat → Nat → Bool → List Char → Cursor → Draft → QuoteLines
  | 0, _, _, text, c, d => ⟨text, c, none, d⟩
  | fuel + 1, depth, blankLast, text, c, d =>
    if c.rest.isEmpty then ⟨text, c, none, d⟩
    else
      match markedLines? c with
      | some (more, next) =>
        let more := unmarked more
        quoteLines fuel depth (endsBlank more) (text ++ more) next d
      | none =>
        -- behind a blank line nothing goes on without a mark
        if blankLast then ⟨text, c, none, d⟩
        else
          let ended :=
            match BlockStart.at? 3 quoteEndRules c with
            | some (start, after) => readBlock fuel depth start c after d
            | none => none
          match ended with
          | some (next, d) => ⟨text, c, some next, d⟩
          | none =>
            quoteLines fuel depth false (text ++ unmarkedLine c.line.1) c.line.2 d

/-- The draft after a list whose first line has been found. A list that begins with an empty item or
another number than one does not end a paragraph. -/
def readList : Nat → Nat → ItemHead → Cursor → Cursor → Draft → Option (Cursor × Draft)
  | 0, _, _, _, _, _ => none
  | fuel + 1, depth, head, here, after, d =>
    let number := head.mark.number?
    let weak := head.text.all isBlank || number.any (· != 1)
    match if weak then continueParagraph? here d else none with
    | some r => some r
    | none =>
      let r := readItems fuel depth head after.nextLine true [] d
      let items := r.1.2.reverse
      let items := if r.1.1 then items.map (·.map Block.tightened) else items
      let block := Block.list number items
      match r.2.ended with
      | some (count, next) => some (next, r.2.draft.insertAt count block)
      | none => some (r.2.stop, r.2.draft.push block)

/-- The items of a list from one whose first line has been found: whether the list is tight, its items
in reverse, and the lines of the last. -/
def readItems : Nat → Nat → ItemHead → Cursor → Bool → List (List Block) → Draft →
    (Bool × List (List Block)) × ItemLines
  | 0, _, _, c, tight, items, d => ((tight, items), ⟨[], c, false, none, none, d⟩)
  | fuel + 1, depth, head, c, tight, items, d =>
    let (text, columns) := itemText head
    let lines := itemLines fuel depth (head.indent + head.mark.width) columns head.mark.last
      text.isEmpty false [] c d
    let inner := readBlocks fuel (depth + 1) (rulesInside depth)
      (.start (withoutBlankTail (text ++ lines.text)))
      ⟨[], lines.draft.references⟩
    let blocks := inner.blocks.reverse
    let d : Draft := { lines.draft with references := inner.references }
    -- a blank line between two items makes the list loose, one behind the last does not
    let tight := tight && !(lines.next.isSome && lines.blankLast) && !isLoose blocks
    let items := blocks :: items
    match lines.next with
    | some next => readItems fuel depth next lines.stop tight items d
    | none => ((tight, items), { lines with draft := d })

/-- The lines of a list item from a place on, after some text. -/
def itemLines : Nat → Nat → Nat → Nat → Char → Bool → Bool → List Char → Cursor → Draft → ItemLines
  | 0, _, _, _, _, _, blankLast, text, c, d => ⟨text, c, blankLast, none, none, d⟩
  | fuel + 1, depth, width, columns, last, empty, blankLast, text, c, d =>
    if c.rest.isEmpty then ⟨text, c, blankLast, none, none, d⟩
    else
      let (line, next) := c.line
      if (BlockStart.blankRule.run? (.start line)).isSome then
        itemLines fuel depth width columns last empty true (text ++ ['\n']) next d
      else
        let line := expandHead 0 line
        if (List.replicate columns ' ').isPrefixOf line then
          -- an item that begins with a blank line ends at the next
          if blankLast && empty && text.all isBlank then ⟨text, c, blankLast, none, none, d⟩
          else itemLines fuel depth width columns last empty false (text ++ line.drop columns) next d
        else
          -- a line indented too little ends the item, or goes on with its paragraph
          let ended : Option ItemLines :=
            match itemEnd? width last c with
            | some (.item head after) => some ⟨text, after.nextLine, blankLast, some head, none, d⟩
            | some .otherList => some ⟨text, c, blankLast, none, none, d⟩
            | some (.block start after) =>
              (readBlock fuel depth start c after d).map fun r =>
                ⟨text, c, blankLast, none, some (d.blocks.length, r.1), r.2⟩
            | none => none
          match ended with
          | some lines => lines
          | none =>
            if blankLast then ⟨text, c, blankLast, none, none, d⟩
            else itemLines fuel depth width columns last empty false (text ++ line) next d

end

/-- The source with every line end as one character, and one at its end. -/
def normalizeLines (cs : List Char) : List Char :=
  let cs := unifyLineEnds cs
  if cs.getLast? = some '\n' then cs else cs ++ ['\n']

def readSource (o : ParseOptions) (cs : List Char) : Draft :=
  let cs := normalizeLines cs
  let d := readBlocks (16 * cs.length + 64) 0 (outerRules o) (.start cs) ⟨[], []⟩
  { d with blocks := d.blocks.reverse }

def tokens (o : ParseOptions) (cs : List Char) : List Token :=
  let d := readSource o cs
  Block.tokens ⟨o, d.references⟩ d.blocks

end MarkTex.Markdown
