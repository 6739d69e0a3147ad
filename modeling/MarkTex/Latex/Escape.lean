import MarkTex.Text.CodePoint

/-!
# Escaping text for LaTeX

Ten characters mean something to LaTeX and are replaced in literal text. The replacements run one
after the other over the whole text: the backslash first, so that no later rule sees a backslash of
the text, and the dollar before the two comparison signs, whose replacements hold dollars of their
own. Braces are left alone.
-/

namespace MarkTex.Latex

/-- The characters that are replaced, in the order in which the rules run. -/
def specials : List (Char × Text) :=
  [('\\', Text.ofString "\\textbackslash\x7b\x7d"),
   ('&', Text.ofString "\\&"),
   ('%', Text.ofString "\\%"),
   ('$', Text.ofString "\\$"),
   ('#', Text.ofString "\\#"),
   ('_', Text.ofString "\\_"),
   ('~', Text.ofString "\\textasciitilde\x7b\x7d"),
   ('^', Text.ofString "\\textasciicircum\x7b\x7d"),
   ('<', Text.ofString "$<$"),
   ('>', Text.ofString "$>$")]

/-- A text with its special characters replaced, rule by rule. -/
def escape (t : Text) : Text :=
  specials.foldl (fun acc rule => acc.replace rule.1 rule.2) t

/-- The replacement of a single code point: itself when it is not special. -/
def replacement (x : CodePoint) : Text :=
  match specials.find? (fun rule => .scalar rule.1 = x) with
  | some rule => rule.2
  | none => [x]

/-- The texts that come from escaping once, twice, and so on. -/
def escapings (t : Text) : Nat → List Text
  | 0 => []
  | n + 1 => escape t :: escapings (escape t) n

end MarkTex.Latex
