import MarkTex.Text.Blank
import MarkTex.Text.Case

/-!
# Styled text

Text with tags in brackets that open and close styles. On a terminal without colours only the plain
text is left; tags still have to match. A backslash before a bracket takes its meaning from it. Tags that
call handlers are taken for styles here, whatever they hand over; a platform may have a writer of panels
that knows them.
-/

namespace MarkTex.Style

/-- Why a text with tags cannot be shown: a closing tag that closes nothing, with its place in the text,
or whatever else a writer of panels refuses. -/
inductive MarkupFault where
  | unmatched (tag : Text) (position : Nat)
  | nothingOpen (position : Nat)
  | other (message : Text)
deriving DecidableEq

def MarkupFault.message : MarkupFault → Text
  | unmatched tag position =>
    Text.ofString "closing tag '" ++ tag ++
      Text.ofString ("' at position " ++ toString position ++ " doesn't match any open tag")
  | nothingOpen position =>
    Text.ofString ("closing tag '[/]' at position " ++ toString position ++ " has nothing to close")
  | other message => message

inductive Part where
  | plain (t : Text)
  /-- A tag and where it stands. -/
  | tag (body : Text) (position : Nat)

/-- Whether a character can begin a tag. -/
def startsTag : CodePoint → Bool
  | .scalar c => ('a' ≤ c && c ≤ 'z') || c == '#' || c == '/' || c == '@'
  | .surrogate _ => false

/-- What stands between the brackets of a tag at the head of a text. -/
def tagBody? : Text → Option Text
  | .scalar '[' :: c :: rest =>
    let body := rest.takeWhile fun x => x ≠ .scalar '[' ∧ x ≠ .scalar ']'
    if startsTag c ∧ (rest.drop body.length).head? = some (.scalar ']') then some (c :: body) else none
  | _ => none

/-- How many backslashes a text begins with. -/
def leadingSlashes (t : Text) : Nat := (t.takeWhile (· = .scalar '\\')).length

/-- The parts of a text, from a position on. Of two backslashes before a tag one is left; of an odd
number the last makes the tag plain. -/
def parts (position : Nat) (plain : Text) : Text → List Part
  | [] => [.plain plain.reverse]
  | c :: rest =>
    let slashes := leadingSlashes (c :: rest)
    match tagBody? ((c :: rest).drop slashes) with
    | none => parts (position + 1) (c :: plain) rest
    | some body =>
      let length := slashes + body.length + 2
      let kept := List.replicate (slashes / 2) (CodePoint.scalar '\\')
      let after := rest.drop (length - 1)
      let before := Part.plain (plain.reverse ++ kept)
      if slashes % 2 = 1 then
        before :: .plain ((c :: rest).drop slashes |>.take (body.length + 2)) ::
          parts (position + length) [] after
      else before :: .tag body (position + slashes) :: parts (position + length) [] after
termination_by t => t.length
decreasing_by
  · simp only [List.length_cons]; omega
  · simp only [List.length_drop, List.length_cons]; omega
  · simp only [List.length_drop, List.length_cons]; omega

def shortNames : List (String × String) :=
  [("b", "bold"), ("d", "dim"), ("i", "italic"), ("u", "underline"), ("r", "reverse"),
   ("c", "conceal"), ("s", "strike"), ("uu", "underline2"), ("o", "overline")]

/-- The name that a style is compared by. -/
def styleName (t : Text) : Text :=
  let low := Text.lower (Text.trim t)
  match shortNames.find? fun e => Text.ofString e.1 = low with
  | some e => Text.ofString e.2
  | none => low

/-- The name and, behind an equals sign, the parameters of a tag. -/
def splitTag (body : Text) : Text × Option Text :=
  let name := body.takeWhile (· ≠ .scalar '=')
  match body.drop name.length with
  | [] => (name, none)
  | _ :: parameters => (name, some parameters)

/-- A plain part in which a backslash before a bracket is left out. -/
def unescape : Text → Text
  | .scalar '\\' :: .scalar '[' :: rest => .scalar '[' :: unescape rest
  | c :: rest => c :: unescape rest
  | [] => []

/-- The plain text of parts, given the styles that are open. -/
def plainText (openTags : List Text) : List Part → Except MarkupFault Text
  | [] => .ok []
  | .plain t :: rest => (plainText openTags rest).map (unescape t ++ ·)
  | .tag body position :: rest =>
    let (name, parameters) := splitTag body
    match name with
    | .scalar '/' :: closing =>
      if (Text.trim closing).isEmpty then
        match openTags with
        | [] => .error (.nothingOpen position)
        | _ :: openTags => plainText openTags rest
      -- a tag may close a style that others were opened after
      else if openTags.contains (styleName closing) then
        plainText (openTags.erase (styleName closing)) rest
      else
        let shown := match parameters with
          | none => name
          | some p => name ++ Text.ofString "=" ++ p
        .error (.unmatched (Text.ofString "[" ++ shown ++ Text.ofString "]") position)
    | _ => plainText (styleName name :: openTags) rest

/-- The plain text of a text with tags. -/
def strip (t : Text) : Except MarkupFault Text := plainText [] (parts 0 [] t)

end MarkTex.Style
