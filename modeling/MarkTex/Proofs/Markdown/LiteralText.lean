import MarkTex.Convert.Source
import MarkTex.Proofs.Entity.OpenReferences
import MarkTex.Proofs.Markdown.Conversion

/-!
# Literal text

The text of a line is that of its tokens in their order, at any depth, with the references in text
decoded, if their numbers are short enough to be read. Where no semicolon stands in text, decoding can
only take references that need none, so the text of the line is what was written exactly when no such
reference begins in a text: `inlines_text`.
-/

namespace MarkTex.Markdown

/-! ## References in texts -/

/-- Whether a reference that needs no semicolon begins somewhere in a text. -/
def holdsReference (t : Text) : Bool :=
  Entity.holdsReference t.runs.1 || t.runs.2.any fun r => Entity.holdsReference r.2

theorem shrinksIf_ofChars {cs : List Char} (h : .scalar ';' ∉ Text.ofChars cs) :
    ShrinksIf (Entity.holdsReference cs) (Text.ofChars cs)
      (Text.ofChars (Entity.decode .lenient cs)) :=
  (Entity.shrinksIf_decode fun hmem => h (List.mem_map_of_mem hmem)).map CodePoint.scalar

theorem shrinksIf_decodeReferences {t : Text} (h : .scalar ';' ∉ t) :
    ShrinksIf (holdsReference t) t (decodeReferences t) := by
  rw [← Text.mapRuns_id t, Text.mapRuns] at h
  simp only [id, List.mem_append, List.mem_flatMap, not_or, not_exists, not_and] at h
  have hruns : ShrinksIf (holdsReference t) (t.mapRuns id) (decodeReferences t) :=
    (shrinksIf_ofChars h.1).append <| ShrinksIf.flatMap fun r hr =>
      (ShrinksIf.refl [CodePoint.surrogate r.1]).append
        (shrinksIf_ofChars fun hmem => h.2 r hr (List.mem_cons_of_mem _ hmem))
  rwa [Text.mapRuns_id] at hruns

/-! ## Tokens of a line -/

/-- The tokens that have a place in a line, at any depth, in document order. -/
def tokensInLine (ts : List Token) : List Token := (Place.line.visitsEach ts).map Prod.snd

/-- The text that a token of a line is written with. -/
def writtenText : Token → Text
  | .mk .text raw _ _ | .mk .codeSpan raw _ _ | .mk .inlineMath raw _ _ => raw
  | .mk .softBreak _ _ _ => Text.ofString "\n"
  | _ => []

/-- The text that a token of a line has in the document. -/
def decodedText : Token → Text
  | .mk .text raw _ _ => decodeReferences raw
  | t => writtenText t

/-- The same, or the number of digits of a reference that has too many of them to be read. -/
def decodedText? (t : Token) : Except Nat Text :=
  match if t.kind = .text then Entity.longNumber? t.raw.toChars else none with
  | some count => .error count
  | none => .ok (decodedText t)

theorem eq_decodedText {t : Token} {text : Text} (h : decodedText? t = .ok text) :
    text = decodedText t := by
  unfold decodedText? at h
  split at h
  · cases h
  · exact (Except.ok.inj h).symm

theorem flatten_of_mapM {ts : List Token} {texts : List Text} (h : ts.mapM decodedText? = .ok texts) :
    texts.flatten = ts.flatMap decodedText := by
  induction ts generalizing texts with
  | nil =>
      cases h
      rfl
  | cons t ts ih =>
      rw [List.mapM_cons] at h
      obtain ⟨text, htext, h⟩ := except_bind_eq_ok.mp h
      obtain ⟨rest, hrest, h⟩ := except_bind_eq_ok.mp h
      cases h
      rw [List.flatten_cons, List.flatMap_cons, eq_decodedText htext, ih hrest]

/-- Whether a token is text in which a reference begins that needs no semicolon. -/
def isAltered (t : Token) : Bool := t.kind = .text && holdsReference t.raw

theorem shrinksIf_decodedText {t : Token} (h : t.kind = .text → .scalar ';' ∉ t.raw) :
    ShrinksIf (isAltered t) (writtenText t) (decodedText t) := by
  obtain ⟨kind, raw, attrs, children⟩ := t
  cases kind with
  | text => exact shrinksIf_decodeReferences (h rfl)
  | _ => exact ShrinksIf.refl _

/-! ## The text of a line -/

variable {o : ParseOptions} {fragments : Text → List Node} {kind : TokenKind} {raw : Text}
  {attrs : TokenAttributes} {children ts : List Token}

theorem textContent_of_leafAt {n : Node} (h : LeafAt .line kind raw n) (attrs : TokenAttributes)
    (children : List Token) : n.textContent = decodedText (.mk kind raw attrs children) := by
  cases h <;>
    simp [Node.ofKind, Node.generic, Node.textContent, Node.descendants, Node.forestNodes,
      Node.ownText, decodedText, writtenText]

theorem decodedText_of_not_leafAt (h : ∀ n, ¬ LeafAt .line kind raw n) :
    decodedText (.mk kind raw attrs children) = [] := by
  cases kind with
  | text => exact absurd .text (h _)
  | codeSpan => exact absurd .codeSpan (h _)
  | softBreak => exact absurd .softBreak (h _)
  | inlineMath => exact absurd .inlineMath (h _)
  | _ => rfl

/-- Around a part of a line stands only a part of a line. -/
theorem eq_line_of_inside {q : Place} (h : Place.line.inside kind = some q) : q = .line := by
  cases kind <;> cases h <;> rfl

/-- The nodes of one token, given the text of the tokens inside it. -/
theorem textOfAll_produce (raw : Text) (attrs : TokenAttributes)
    (hkind : kind ∉ [.image, .blockHtml, .inlineHtml])
    (hinside : textOfAll (Place.line.convert fragments o children) =
      (tokensInLine children).flatMap decodedText) :
    textOfAll (Place.line.produce fragments o (.mk kind raw attrs children)).nodes =
      (tokensInLine [.mk kind raw attrs children]).flatMap decodedText := by
  rw [Place.produce_mk, tokensInLine, Place.visitsEach, Place.visits]
  have hat := Place.line.formAt o raw attrs kind
  generalize Place.line.form o raw attrs kind = form at hat
  cases hat with
  | nothing hnone hleaf =>
      rw [hnone]
      simp [Form.produce, Produced.nodes, textOfAll, decodedText_of_not_leafAt hleaf, Place.visitsEach]
  | leaf hleaf =>
      rw [hleaf.inside]
      simp [Form.produce, Produced.nodes, textOfAll, Place.visitsEach,
        textContent_of_leafAt hleaf attrs children]
  | shell hq hshell =>
      obtain rfl := eq_line_of_inside hq
      have hnone : decodedText (.mk kind raw attrs children) = [] :=
        decodedText_of_not_leafAt fun n hleaf => by simp [hleaf.inside] at hq
      rw [hq, Place.convertInside_eq fragments o hq]
      simp only [Form.produce, Produced.nodes, textOfAll, List.flatMap_cons, List.flatMap_nil,
        List.append_nil, Node.textContent_element, List.map_cons, Place.visitsEach, hnone,
        List.nil_append]
      exact hinside
  | image => exact absurd (by simp) hkind
  | fragment _ hhtml => exact absurd (by rcases hhtml with rfl | rfl <;> simp) hkind

theorem textOfAll_convert (h : TextOnly ts) :
    textOfAll (Place.line.convert fragments o ts) = (tokensInLine ts).flatMap decodedText := by
  induction ts using Token.forest_induction with
  | nil => rfl
  | cons kind raw attrs children ts hchildren hts =>
      obtain ⟨hkind, hchildrenText, htsText⟩ := textOnly_cons.mp h
      have hfirst := textOfAll_produce raw attrs hkind (hchildren hchildrenText)
      calc textOfAll (Place.line.convert fragments o (.mk kind raw attrs children :: ts))
        _ = textOfAll (Place.line.produce fragments o (.mk kind raw attrs children)).nodes ++
            textOfAll (Place.line.convert fragments o ts) := by
          simp [Place.convert, Place.gather, Place.produceEach, textOfAll]
        _ = (tokensInLine [.mk kind raw attrs children]).flatMap decodedText ++
            (tokensInLine ts).flatMap decodedText := by rw [hfirst, hts htsText]
        _ = (tokensInLine (.mk kind raw attrs children :: ts)).flatMap decodedText := by
          simp [tokensInLine, Place.visitsEach]

variable {m : Type → Type} [Monad m] [LawfulMonad m]

/-- A line of text without semicolons, images and raw HTML, with no reference whose number is too long to
be read, has the text of its tokens in their order, references being decoded that need no semicolon. It
has what was written just if no such reference begins in a text. -/
theorem inlines_text (fx : Reading m) (htext : TextOnly ts)
    (hopen : ∀ t ∈ tokensInLine ts, t.kind = .text → .scalar ';' ∉ t.raw) {texts : List Text}
    (hread : (tokensInLine ts).mapM decodedText? = .ok texts) :
    ∃ ns, Yields fx (inlines fx o ts) ns ∧ textOfAll ns = texts.flatten ∧
      (textOfAll ns = (tokensInLine ts).flatMap writtenText ↔
        ∀ t ∈ tokensInLine ts, t.kind = .text → holdsReference t.raw = false) := by
  have hyields : Yields fx (inlines fx o ts) (Place.line.convert (fun _ => []) o ts) :=
    (agrees ts).line (htext.noFragments .line).fragmentsYield
  have hdecoded : textOfAll (Place.line.convert (fun _ => []) o ts) =
      (tokensInLine ts).flatMap decodedText := textOfAll_convert htext
  have hshrinks := ShrinksIf.flatMap fun t ht => shrinksIf_decodedText (hopen t ht)
  refine ⟨_, hyields, hdecoded.trans (flatten_of_mapM hread).symm, ?_⟩
  rw [← hdecoded] at hshrinks
  refine hshrinks.eq_iff.trans ?_
  simp [isAltered]

/-- A line in which ampersands stand by themselves and before words, around them markup at some
depth. -/
def ampersandLine : List Token :=
  [.branch .emphasis [.leaf .text "Q&A at AT&T ".toList, .branch .strong
    [.leaf .text "&#x ".toList, .leaf .codeSpan "&copy;".toList]], .leaf .softBreak [],
    .branch .link [.leaf .text "?a=1&b=2".toList]]

theorem ampersandLine_kept : ∃ ns,
    Yields Action.reading (inlines Action.reading {} ampersandLine) ns ∧
      textOfAll ns = Text.ofString "Q&A at AT&T &#x &copy;\n?a=1&b=2" := by
  have htext : TextOnly ampersandLine := by decide +kernel
  have hread : ((tokensInLine ampersandLine).mapM decodedText?).toOption = some (
      ["", "Q&A at AT&T ", "", "&#x ", "&copy;", "\n", "", "?a=1&b=2"].map Text.ofString) := by
    decide +kernel
  obtain ⟨ns, hyields, _, hwritten⟩ := inlines_text (o := {}) Action.reading htext
    (by decide +kernel) (except_toOption_eq_some.mp hread)
  exact ⟨ns, hyields, (hwritten.mpr (by decide +kernel)).trans (by decide +kernel)⟩

/-- The query of an address in a text is altered where the name of a character follows an
ampersand. -/
theorem query_altered : ∃ ts, TextOnly ts ∧
    (∀ t ∈ tokensInLine ts, t.kind = .text → .scalar ';' ∉ t.raw) ∧
      (tokensInLine ts).flatMap writtenText = Text.ofString "?a=1&copy=2" ∧
        textOfAll (inlines Reading.silent {} ts) = Text.ofString "?a=1\u00a9=2" :=
  ⟨[.leaf .text "?a=1&copy=2".toList], by decide +kernel, by decide +kernel, by decide +kernel,
    by decide +kernel⟩

end MarkTex.Markdown
