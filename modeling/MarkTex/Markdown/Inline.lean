import MarkTex.Markdown.Emphasis
import MarkTex.Markdown.InlineMarkup
import MarkTex.Markdown.Options
import MarkTex.Markdown.Target

/-!
# Lines of text

A line of text is read from left to right. At each place the reader tries what can begin with the
character there; if nothing does, the character is plain text. Code spans, addresses, raw HTML,
math and struck text are recognised where they begin and bind tighter than brackets. A closing bracket
makes a link or an image of what stands behind the innermost open bracket, if a target follows; runs of
stars and underscores are collected and paired in the end.

Every step of the reader takes from a bound; the length of the text is always enough.
-/

namespace MarkTex.Markdown

/-- What a line of text is read with: the options, and the definitions of the document. -/
structure InlineContext where
  options : ParseOptions
  references : References

/-- What begins at a place: parts, with the place behind them and whether an anchor is open there, or a
number of plain characters. -/
inductive Found where
  | parts (ps : List Part) (next : Cursor) (inAnchor : Bool)
  | plain (count : Nat)

/-- A token that begins at a place, as what is found there. -/
def Found.token (t : Token) (next : Cursor) (inAnchor : Bool) : Found := .parts [.token t] next inAnchor

/-- The characters that a row of escapes stands for. -/
def escapedRow : List Char → List Char
  | '\\' :: c :: rest => if isAsciiPunctuation c then c :: escapedRow rest else []
  | _ => []

/-- The text of a code span after its opening backquotes, if as many close it: the characters before
them, and the place behind them. -/
def codeEnd? (marks : Nat) (c : Cursor) : Option (List Char × Cursor) :=
  go c.rest.length [] c
where
  go : Nat → List Char → Cursor → Option (List Char × Cursor)
    | 0, _, _ => none
    | fuel + 1, acc, c =>
      match c.rest with
      | [] => none
      | x :: _ =>
        if x = '`' then
          let n := (c.rest.takeWhile (· == '`')).length
          if n = marks then some (acc.reverse, c.advance n)
          else go fuel (List.replicate n '`' ++ acc) (c.advance n)
        else go fuel (x :: acc) (c.advance 1)

/-- The text of a code span as the document shows it: line ends are spaces, and one space at both ends
is dropped unless there is nothing else. -/
def codeText (cs : List Char) : List Char :=
  let cs := cs.map fun c => if c = '\n' then ' ' else c
  if cs.all isBlank then cs
  else if cs.head? = some ' ' ∧ cs.getLast? = some ' ' then cs.tail.dropLast
  else cs

/-- The target of the brackets around a text, with the place behind it: a target in place, or that of
the label which follows the brackets or stands in them. -/
def linkTarget? (refs : References) (inside : List Char) (after : Cursor) :
    Option (Target × Cursor) :=
  let inPlace :=
    match after.rest with
    | '(' :: rest => (inlineTarget? rest).map fun r => (r.1, after.seek r.2)
    | _ => none
  let own := (label? labelBound (inside ++ [']'])).bind fun r =>
    if r.2.isEmpty then some r.1 else none
  let byLabel :=
    let other :=
      match after.rest with
      | '[' :: rest => (label? labelBound rest).map fun r => (r.1, after.seek r.2)
      | _ => none
    match own, other with
    | some l, some ([], next) => (refs.find? l).map (·, next)
    | _, some (l, next) => (refs.find? l).map (·, next)
    | some l, none => (refs.find? l).map (·, after)
    | none, none => none
  inPlace <|> byLabel

def Target.attributes (t : Target) : TokenAttributes :=
  { url := some (Text.ofChars t.url), title := t.title.map Text.ofChars }

/-- The characters read before a place, which come in reverse, as a part before others. -/
def flush (plain : List Char) (parts : List Part) : List Part :=
  if plain.isEmpty then parts else .plain plain.reverse :: parts

/-- Whether an anchor is open behind a raw tag. -/
def anchorAfter (inAnchor : Bool) (raw : List Char) : Bool :=
  let starts (w : String) := w.toList.isPrefixOf raw
  if ["<a ", "<a>", "<A ", "<A>"].any starts then true
  else if ["</a ", "</a>", "</A ", "</A>"].any starts then false
  else inAnchor

/-- What an opening angle bracket begins. An address is a link of its own, but not inside an anchor. -/
def angledFound (inAnchor : Bool) (c : Cursor) : Found :=
  let linked (urlHead : List Char) (next : Cursor) : Found :=
    if inAnchor then .plain 1
    else
      let written := c.upTo next
      let text := written.tail.dropLast
      let url := Encoding.percentEncode (Entity.decode .strict (urlHead ++ text))
      .parts [.address written (.mk .link [] { url := some (Text.ofChars url) } [.leaf .text text])] next
        inAnchor
  match InlineMarkup.address.run? c with
  | some (_, next) => linked [] next
  | none =>
  match InlineMarkup.mailAddress.run? c with
  | some (_, next) => linked "mailto:".toList next
  | none =>
  match InlineMarkup.html.run? c with
  | some (_, next) =>
    let raw := c.upTo next
    .token (.leaf .inlineHtml raw) next (anchorAfter inAnchor raw)
  | none => .plain 1

def mathFound (inAnchor : Bool) (c : Cursor) : Found :=
  match InlineMarkup.displayMath.run? c with
  | some (body, next) => .token (.leaf .blockMath body) next inAnchor
  | none =>
  match InlineMarkup.inlineMath.run? c with
  | some (body, next) => .token (.leaf .inlineMath body) next inAnchor
  | none => .plain 1

/-- The place behind a line end and the blanks after it. -/
def afterLineEnd (c : Cursor) : Cursor := c.advance ((c.rest.takeWhile isBlank).length)

def backslashFound (inAnchor : Bool) (c : Cursor) : Found :=
  match c.rest with
  | _ :: '\n' :: _ => .token (.leaf .lineBreak []) (afterLineEnd (c.advance 1)) inAnchor
  | _ =>
    let row := escapedRow c.rest
    if row.isEmpty then .plain 1 else .token (.leaf .text row) (c.advance (2 * row.length)) inAnchor

def codeFound (inAnchor : Bool) (c : Cursor) : Found :=
  let n := (c.rest.takeWhile (· == '`')).length
  match codeEnd? n (c.advance n) with
  | some (body, next) => .token (.leaf .codeSpan (codeText body)) next inAnchor
  | none => .plain n

def spaceFound (inAnchor : Bool) (c : Cursor) : Found :=
  let n := (c.rest.takeWhile (· == ' ')).length
  let next := c.advance n
  if next.rest.head? = some '\n' then
    .token (.leaf (if 2 ≤ n then .lineBreak else .softBreak) []) (afterLineEnd next) inAnchor
  else .plain (max n 1)

def runFound (inAnchor : Bool) (c : Cursor) (mark : Char) : Found :=
  let n := (c.rest.takeWhile (· == mark)).length
  let next := c.advance n
  .parts [.run (.between mark n c.before next.rest.head?)] next inAnchor

/-- An opening bracket of `width` characters. -/
def bracketFound (image : Bool) (width : Nat) (inAnchor : Bool) (c : Cursor) : Found :=
  let behind := c.advance width
  .parts [.bracket ⟨image, true, behind⟩] behind inAnchor

/-- The parts, latest first, with the innermost open bracket closed by the bracket at a place, and the
place behind what this makes. Without a target, and for a link in an anchor or around another link, both
brackets are plain. -/
def closeBracket (refs : References) (inAnchor : Bool) (c : Cursor) (parts : List Part) :
    List Part × Cursor :=
  let behind := c.advance 1
  match splitAtBracket parts with
  | none => (.plain [']'] :: parts, behind)
  | some (inside, b, before) =>
    let target? :=
      if b.active && (b.image || !inAnchor) then linkTarget? refs (b.behind.upTo c) behind else none
    match target? with
    | none => (.plain [']'] :: (inside ++ .plain b.characters :: before), behind)
    | some (target, next) =>
      if b.image then
        (.token (.mk .image [] target.attributes (pairRuns inside.reverse)) :: before, next)
      else
        (.token (.mk .link [] target.attributes (pairRuns (inside.reverse.map Part.unlinked))) ::
          before.map Part.deactivated, next)

variable (ctx : InlineContext)

mutual

/-- The parts of a text from a place on, latest first, after the plain characters, which come in
reverse, and the parts before it. -/
def scan : Nat → Bool → Cursor → List Char → List Part → List Part
  | 0, _, c, plain, parts => flush (c.rest.reverse ++ plain) parts
  | fuel + 1, inAnchor, c, plain, parts =>
    match c.rest with
    | [] => flush plain parts
    | x :: _ =>
      if x = ']' then
        let (parts, next) := closeBracket ctx.references inAnchor c (flush plain parts)
        scan fuel inAnchor next [] parts
      else
        match found fuel inAnchor c x with
        | .parts ps next inAnchor => scan fuel inAnchor next [] (ps.reverse ++ flush plain parts)
        | .plain n => scan fuel inAnchor (c.advance n) ((c.rest.take n).reverse ++ plain) parts

def found : Nat → Bool → Cursor → Char → Found
  | 0, _, _, _ => .plain 1
  | fuel + 1, inAnchor, c, x =>
    if x = '\\' then backslashFound inAnchor c
    else if x = '`' then codeFound inAnchor c
    else if x = '*' ∨ x = '_' then runFound inAnchor c x
    else if x = '~' ∧ ctx.options.parseStrikethrough then struckFound fuel inAnchor c
    else if x = '$' ∧ ctx.options.parseMath then mathFound inAnchor c
    else if x = '[' then
      if inAnchor then .plain 1 else bracketFound false 1 inAnchor c
    else if x = '!' ∧ c.rest.tail.head? = some '[' then bracketFound true 2 inAnchor c
    else if x = '<' then angledFound inAnchor c
    else if x = ' ' ∨ x = '\n' then spaceFound inAnchor c
    else .plain 1

def struckFound : Nat → Bool → Cursor → Found
  | 0, _, _ => .plain 1
  | fuel + 1, inAnchor, c =>
    let start := c.advance 2
    if !("~~".toList.isPrefixOf c.rest) ||
        start.rest.head?.all (fun x => isBlank x || x == '~') then .plain 1
    else
      match InlineMarkup.strikeEnd.search? start with
      | none => .plain 1
      | some (_, _, next) =>
        let inside := start.rest.take (start.rest.length - next.rest.length - 2)
        .token (.branch .strikethrough (tokensOf fuel inAnchor inside)) next inAnchor

def tokensOf : Nat → Bool → List Char → List Token
  | 0, _, cs => [.leaf .text cs]
  | fuel + 1, inAnchor, cs =>
    if cs.isEmpty then [.leaf .text []]
    else pairRuns (scan fuel inAnchor (.start cs) [] []).reverse

end

def readInline (cs : List Char) : List Token := tokensOf ctx (4 * cs.length + 8) false cs

end MarkTex.Markdown
