import MarkTex.Markdown.Part

/-!
# Emphasis

A run of stars or of underscores may open emphasis, close it, or both, by the characters around it.
Runs are paired from left to right: a run that can close takes the nearest run before it that can open
and is of its character. Two characters of each make strong emphasis, one makes emphasis, and what is
left of a run may pair again. Runs between the two are plain text from then on.

A line of text with runs in it has no two text tokens next to each other in the end; inside emphasis
the tokens stay as they are.
-/

namespace MarkTex.Markdown

namespace Run

/-- Whether a run opens what another closes. Runs that can do both pair only if the sum of their
lengths is no multiple of three or both are. -/
def opens (opener closer : Run) : Bool :=
  opener.canOpen && opener.mark == closer.mark &&
    !((opener.canClose || closer.canOpen) && closer.fullLength % 3 != 0 &&
      (opener.fullLength + closer.fullLength) % 3 == 0)

end Run

/-- The nearest part that opens what a run closes: the parts after it, the nearest to the run first,
the opening run, and the parts before it. -/
def findOpener? (closer : Run) : List Part → Option (List Part × Run × List Part)
  | [] => none
  | .run r :: before =>
    if r.opens closer then some ([], r, before)
    else (findOpener? closer before).map fun f => (.run r :: f.1, f.2)
  | p :: before => (findOpener? closer before).map fun f => (p :: f.1, f.2)

/-- The parts before a run, the nearest first, with the run paired as often as it can be. -/
def pairRun (parts : List Part) (closer : Run) : List Part :=
  if _h : closer.length = 0 ∨ !closer.canClose then .ofRun closer :: parts
  else
    match findOpener? closer parts with
    | none => .ofRun closer :: parts
    | some (inside, opener, before) =>
      -- two of each make strong emphasis as long as there are two
      let strong := 2 ≤ opener.length && 2 ≤ closer.length
      let node := Token.branch (if strong then .strong else .emphasis)
        (inside.reverse.map Part.settled)
      let used := if strong then 2 else 1
      pairRun (.token node :: .ofRun (opener.shorten used) :: before) (closer.shorten used)
termination_by closer.length
decreasing_by
  simp only [Run.shorten]
  split <;> omega

/-- A row of tokens without empty texts and with neighbouring texts joined. -/
def joinTexts : List Token → List Token
  | [] => []
  | .mk .text raw attrs children :: rest =>
    match joinTexts rest with
    | .mk .text raw' _ _ :: rest' => .mk .text (raw ++ raw') attrs children :: rest'
    | rest' => if raw.isEmpty then rest' else .mk .text raw attrs children :: rest'
  | t :: rest => t :: joinTexts rest

/-- The tokens of a line of text, its runs paired. -/
def pairRuns (parts : List Part) : List Token :=
  let parts := joinPlain (parts.map Part.unopened)
  if parts.any Part.isRun then
    let paired := parts.foldl (fun before p =>
      match p with
      | .run r => pairRun before r
      | p => p :: before) []
    joinTexts (paired.reverse.map Part.settled)
  else parts.map Part.settled

end MarkTex.Markdown
