import MarkTex.Proofs.Convert.Source
import MarkTex.Proofs.Encoding.Utf8
import MarkTex.Proofs.Host.Keeping

/-!
# Ways in and ways out

A text is converted in the same way whether it comes as a string, as its bytes, from a stream of either,
or from a file (`toLatex_sources`). The LaTeX of a source comes out the same wherever it goes: returned,
in a file, or on a stream (`convert_delivers`).
-/

namespace MarkTex

open Encoding HostView

variable {h h' : Host} {t : Text} {bs : List UInt8}

/-! ## Bytes of a text -/

theorem Text.eq_ofChars_of_chars? {cs : List Char} (hcs : t.chars? = some cs) :
    t = Text.ofChars cs := by
  induction t generalizing cs with
  | nil =>
      cases hcs
      rfl
  | cons c t ih =>
      rw [Text.chars?, List.mapM_cons] at hcs
      obtain ⟨d, hd, hcs⟩ := Option.bind_eq_some_iff.mp hcs
      obtain ⟨rest, hrest, hcs⟩ := Option.bind_eq_some_iff.mp hcs
      cases hcs
      cases c with
      | surrogate => cases hd
      | scalar c =>
          cases hd
          rw [Text.ofChars, List.map_cons, ← Text.ofChars, ← ih hrest]

theorem eq_of_utf8OfText (hbytes : utf8OfText t = .ok bs) :
    ∃ cs, t = Text.ofChars cs ∧ bs = utf8Encode cs := by
  unfold utf8OfText at hbytes
  split at hbytes
  next cs hcs =>
    cases hbytes
    exact ⟨cs, Text.eq_ofChars_of_chars? hcs, rfl⟩
  · cases hbytes

/-- The encoding that options have for UTF-8. -/
def utf8Name : Text := Text.ofString "utf-8"

theorem named?_utf8Name : Codec.named? (sourceEncoding utf8Name) = .ok (some .utf8Signed) := by
  rfl

/-- A text that does not begin with a byte order mark is read from its bytes. -/
theorem runOn_decodeText (hbytes : utf8OfText t = .ok bs) (hmark : t.head? ≠ some (.scalar '\uFEFF'))
    (h : Host) : (Action.decodeText bs utf8Name).runOn h = (.ok t, h) := by
  obtain ⟨cs, rfl, rfl⟩ := eq_of_utf8OfText hbytes
  have hhead : cs.head? ≠ some '\uFEFF' := by
    intro hcs
    rw [Text.ofChars, List.head?_map, hcs] at hmark
    exact hmark rfl
  rw [Action.decodeText, decodeNamed_utf8Signed named?_utf8Name, dropByteOrderMark_utf8Encode hhead,
    utf8Decode_utf8Encode]
  rfl

/-! ## Ways in -/

/-- The log goes to no file, or to a file that a path does not lead to. -/
def Host.LogsApart (h : Host) (p : Path) : Prop :=
  ∀ f, h.logFile? = some f → h.files.Plain f ∧ h.files.target h.directory p ≠ .ok f

theorem Host.LogsApart.seen {p : Path} (hlog : h.LogsApart p) : besideLog.alike h h :=
  ⟨rfl, fun _ _ => rfl, fun f hf => (hlog f hf).1, fun f hf => (hlog f hf).1⟩

/-- A text names a regular file. -/
def Host.NamesFile (h : Host) (t : Text) : Prop :=
  ∃ cs, t.chars? = some cs ∧ h.isFile (.ofChars cs) = .ok true

/-- The sources that hold a text, on a host: the text itself, unless it names a file, its UTF-8 bytes, a
stream of either, and a file of these bytes, by its path or by a short name for it on one line. -/
inductive Source.Holds (h : Host) (t : Text) : Source → Prop
  | text : ¬h.NamesFile t → Holds h t (.text t)
  | bytes {bs : List UInt8} : utf8OfText t = .ok bs → Holds h t (.bytes bs)
  | byteStream {bs : List UInt8} : utf8OfText t = .ok bs → Holds h t (.stream (.bytes bs))
  | textStream : Holds h t (.stream (.text t))
  | path {bs : List UInt8} {p : Path} : utf8OfText t = .ok bs →
      h.found? p = .ok (some (.file bs)) → Holds h t (.path p)
  | name {bs : List UInt8} {cs : List Char} : utf8OfText t = .ok bs → cs.length ≤ 260 → '\n' ∉ cs →
      h.found? (.ofChars cs) = .ok (some (.file bs)) → h.LogsApart (.ofChars cs) →
      Holds h t (.text (Text.ofChars cs))

namespace Action

theorem keeps_load {V : HostView} (s : Source) (encoding : Text) : Keeps V (s.load encoding) := by
  unfold Source.load
  split
  · exact .of_looks (looks_decodeText _ _)
  · exact keeps_readText _ _
  · split
    · exact .of_looks (Agree.pure _)
    · refine Keeps.get_bind fun h => ?_
      split
      · exact .skip (Agree.note _ _) (keeps_readText _ _)
      · exact .of_looks (Agree.pure _)
  · exact .of_looks (looks_decodeText _ _)
  · exact .of_looks (Agree.pure _)
  · exact .of_looks (Agree.throw _)

/-- A file to which the log does not go is still found when lines have been logged. -/
theorem found?_of_besideLog {p : Path} (hlog : h.LogsApart p) (hlike : besideLog.alike h h')
    (hfound : h.found? p = .ok (some (.file bs))) : h'.found? p = .ok (some (.file bs)) := by
  obtain ⟨l, hlookup⟩ := lookup_of_found? hfound
  have hnull : p.hasNull = false := by
    cases hnull : p.hasNull with
    | false => rfl
    | true =>
        rw [Host.found?, if_pos hnull] at hfound
        cases hfound
  have hapart : h.logFile? ≠ some l := by
    intro hl
    refine (hlog l hl).2 ?_
    rw [Store.target, hlookup]
    rfl
  exact found?_of_lookup hnull (lookup_of_besideLog hlike hlookup hapart)

/-- A source that holds a text gives it. -/
theorem load_of_holds {s : Source} (hs : s.Holds h t) (hmark : t.head? ≠ some (.scalar '\uFEFF')) :
    ((s.load utf8Name).runOn h).1 = .ok t := by
  cases hs with
  | text hnone =>
      unfold Source.load
      dsimp only
      split
      · rfl
      next p hp =>
        have hfile : h.isFile p ≠ .ok true := by
          intro hfile
          unfold Source.path? at hp
          split at hp
          · obtain ⟨cs, hcs, rfl⟩ := Option.map_eq_some_iff.mp hp
            exact hnone ⟨cs, hcs, hfile⟩
          · cases hp
        rw [runOn_bind, runOn_get]
        dsimp only
        split
        next hisFile => exact absurd hisFile hfile
        next => rfl
  | bytes hbytes => exact congrArg Prod.fst (runOn_decodeText hbytes hmark h)
  | byteStream hbytes => exact congrArg Prod.fst (runOn_decodeText hbytes hmark h)
  | textStream => rfl
  | path hbytes hfound =>
      have hread := readText_outcome utf8Name hfound
      rwa [runOn_decodeText hbytes hmark] at hread
  | @name bs cs hbytes hshort hline hfound hlog =>
      have hpath : Source.path? (Text.ofChars cs) = some (.ofChars cs) := by
        have hbound : (Text.ofChars cs).length ≤ Source.pathBound ∧
            !(Text.ofChars cs).contains (.scalar '\n') := by
          simpa [Text.ofChars, Source.pathBound, hshort] using hline
        rw [Source.path?, if_pos hbound, Text.chars?_ofChars]
        rfl
      have hisFile : h.isFile (.ofChars cs) = .ok true := by
        rw [Host.isFile, hfound]
        rfl
      unfold Source.load
      simp only [hpath]
      rw [runOn_bind, runOn_get]
      simp only [hisFile]
      -- the remark on the name may have been logged when the file is read
      rw [runOn_bind]
      have hnoted := besideLog.record "md2tex.parsers.base" Log.debug (Text.ofString
        ("Treating string input as file path: " ++ (Path.ofChars cs).toString)) hlog.seen
      have hread := readText_outcome utf8Name (found?_of_besideLog hlog hnoted hfound)
      rw [runOn_decodeText hbytes hmark] at hread
      exact hread

theorem runOn_require (component : String) (rs : List Package.Requirement) (h : Host) :
    ((require component rs).runOn h).2 = h := by
  rw [require, runOn_bind]
  dsimp only [runOn_get]
  split
  · rfl
  · split <;> rfl

theorem runOn_liftM_host {α : Type} (x : Except Error α) (h : Host) :
    ((liftM x : Action α).runOn h).2 = h := by
  rw [runOn_liftM]

/-- Sources that give the same text are read as the same document. -/
theorem agreeOn_readDocument {s s' : Source} (o : Markdown.ParseOptions)
    (hload : ((s.load o.encoding).runOn h).1 = ((s'.load o.encoding).runOn h).1) :
    AgreeOn packages h (readDocument o s) (readDocument o s') := by
  refine AgreeOn.behind (packages_alike h) (runOn_require _ _ h) fun _ _ => ?_
  refine AgreeOn.bind ⟨hload, keeps_load _ _ (packages_alike h), keeps_load _ _ (packages_alike h)⟩
    fun t => ?_
  have hdocument := looks_documentOf (V := packages) o (Markdown.tokens o t.toChars)
  refine (Agree.timed _ _ hdocument).looks.bind fun n => ?_
  exact ((Agree.note _ _).skip (Agree.pure n)).looks

theorem agreeOn_toDocument {s s' : Source} {reader : Option OptionSet}
    (hload : ∀ o, OptionSet.forReader? reader = .ok o →
      ((s.load o.encoding).runOn h).1 = ((s'.load o.encoding).runOn h).1) :
    AgreeOn packages h (toDocument s reader) (toDocument s' reader) := by
  refine AgreeOn.behind (packages_alike h) (runOn_liftM_host _ h) fun o ho => ?_
  rw [runOn_liftM] at ho
  exact agreeOn_readDocument o (hload o ho)

theorem agreeOn_toLatex {s s' : Source} {reader : Option OptionSet} (writer : Option OptionSet)
    (hdocument : AgreeOn packages h (toDocument s reader) (toDocument s' reader)) :
    AgreeOn packages h (toLatex s reader writer) (toLatex s' reader writer) := by
  refine AgreeOn.behind (packages_alike h) (runOn_liftM_host _ h) fun r _ => ?_
  exact hdocument.bind fun n => (agree_renderDocument r n).looks

/-- Sources that hold the same text have the same document and the same LaTeX, or fail alike, if bytes
are to be read as UTF-8. -/
theorem toLatex_sources {h : Host} {t : Text} {s s' : Source} (reader writer : Option OptionSet)
    (hmark : t.head? ≠ some (.scalar '\uFEFF'))
    (hencoding : ∀ o, OptionSet.forReader? reader = .ok o → o.encoding = Text.ofString "utf-8")
    (hs : s.Holds h t) (hs' : s'.Holds h t) :
    ((toDocument s reader).runOn h).1 = ((toDocument s' reader).runOn h).1 ∧
      ((toLatex s reader writer).runOn h).1 = ((toLatex s' reader writer).runOn h).1 := by
  have hdocument : AgreeOn packages h (toDocument s reader) (toDocument s' reader) := by
    refine agreeOn_toDocument fun o ho => ?_
    rw [hencoding o ho]
    exact (load_of_holds hs hmark).trans (load_of_holds hs' hmark).symm
  exact ⟨hdocument.1, (agreeOn_toLatex writer hdocument).1⟩

end Action

/-- The LaTeX that an action gives, if it gives some. -/
def latex? : Except Error Text → Option Text
  | .ok t => some t
  | .error _ => none

theorem eq_of_latex? {r : Except Error Text} (hr : latex? r = some t) : r = .ok t := by
  cases r with
  | error e => cases hr
  | ok t' => exact congrArg Except.ok (Option.some.inj hr)

/-- A directory with a page of two lines and an old output. -/
def pageHost : Host where
  files := ⟨[(["p.md"], .file [0xC3, 0xA9, 0x0D, 0x0A, 0x26]), (["p.tex"], .file [0x7A])]⟩
  inventory := ⟨["mistune"], [("mistune", "3.4.0")]⟩

/-- The text of the page. -/
def pageText : Text := Text.ofString "é\r\n&"

namespace Action

theorem pageText_sources :
    latex? ((toLatex (.text pageText) none none).runOn pageHost).1 =
        some (Text.ofString "é\n\\&\n\n") ∧
      ((toLatex (.text (Text.ofString "p.md")) none none).runOn pageHost).1 =
        ((toLatex (.text pageText) none none).runOn pageHost).1 := by
  have hnone : ¬pageHost.NamesFile pageText := by
    rintro ⟨cs, hcs, hfile⟩
    rw [pageText, Text.ofString, Text.chars?_ofChars] at hcs
    cases hcs
    cases hfile
  have hbytes : utf8OfText pageText = .ok [0xC3, 0xA9, 0x0D, 0x0A, 0x26] := rfl
  have hname : Source.Holds pageHost pageText (.text (Text.ofChars "p.md".toList)) :=
    .name hbytes (by decide) (by decide) rfl nofun
  have hencoding (o : Markdown.ParseOptions) (ho : OptionSet.forReader? none = .ok o) :
      o.encoding = Text.ofString "utf-8" := by
    cases ho
    rfl
  exact ⟨by decide +kernel, (toLatex_sources none none (by decide) hencoding hname (.text hnone)).2⟩

/-! ## Ways out -/

variable {s : Source} {reader writer : Option OptionSet} {p : Path} {l : Location}

theorem keeps_toDocument {V : HostView} (s : Source) (reader : Option OptionSet) :
    Keeps V (toDocument s reader) := by
  refine (Keeps.of_looks (Agree.liftM _)).bind fun o => ?_
  refine (Keeps.of_looks (looks_require _ _ _)).bind fun _ => (keeps_load s _).bind fun t => ?_
  have hdocument := looks_documentOf (V := V) o (Markdown.tokens o t.toChars)
  refine (Keeps.of_looks (Agree.timed _ _ hdocument).looks).bind fun n => ?_
  exact .skip (Agree.note _ _) (.of_looks (Agree.pure n))

theorem keeps_toLatex {V : HostView} (s : Source) (reader writer : Option OptionSet) :
    Keeps V (toLatex s reader writer) := by
  refine (Keeps.of_looks (Agree.liftM _)).bind fun r => ?_
  exact (keeps_toDocument s reader).bind fun n => .of_looks (agree_renderDocument r n).looks

/-- A text that has a UTF-8 form is written to a file that can be opened, and then it is noted. -/
theorem runOn_writeText (hp : p.hasNull = false) (htarget : h.files.target h.directory p = .ok l)
    (hbytes : utf8OfText t = .ok bs) : ∃ message, (writeText t p).runOn h =
      (.ok (), (h.withFile l bs).record "md2tex.utils.io_utils" Log.debug message) := by
  rcases runOn_writeText_cases t p h with
    ⟨hclosed, -⟩ | ⟨l', hl', ⟨u, hnone, -⟩ | ⟨bs', hbytes', hwrite⟩⟩
  · exact absurd ⟨hp, htarget⟩ (hclosed l)
  · cases hbytes.symm.trans hnone
  · cases htarget.symm.trans hl'.2
    cases hbytes.symm.trans hbytes'
    exact hwrite

end Action

/-- The streams that take bytes: those of bytes, and those whose mode has a `b` in it. -/
inductive StreamKind.TakesBytes : StreamKind → Prop
  | bytes : TakesBytes .bytes
  | declared {mode : Text} : .scalar 'b' ∈ mode → TakesBytes (.declared (some mode))

theorem StreamKind.isBinary_iff (k : StreamKind) : k.isBinary = true ↔ k.TakesBytes := by
  constructor
  · intro hk
    cases k with
    | bytes => exact .bytes
    | text => cases hk
    | declared mode =>
        cases mode with
        | none => cases hk
        | some mode => exact .declared (by simpa [StreamKind.isBinary] using hk)
  · rintro (_ | hmode)
    · rfl
    · simpa [StreamKind.isBinary] using hmode

namespace Action

/-- Reads a source, and renders its document where it is to go. -/
def renderSource (s : Source) (reader writer : Option OptionSet) (d : Destination) :
    Action (Option Chunk) := do
  let r ← OptionSet.forWriter? writer
  let n ← toDocument s reader
  renderTo r n d

theorem convert_eq_renderSource (d : Destination) : convert s (some d) reader writer = (do
    let chunk ← renderSource s reader writer d
    note "md2tex.api" (Text.ofString ("Wrote LaTeX output to " ++ destinationName d))
    return .sent chunk) := by
  simp only [convert, toLatex, renderSource, renderTo, bind_assoc]

/-- What a conversion does once the LaTeX is there: it is delivered, and that is noted. -/
theorem runOn_convert {latex : Text} {d : Destination} {chunk : Option Chunk} {h₁ h₂ : Host}
    (hmade : (toLatex s reader writer).runOn h = (.ok latex, h₁))
    (hsent : (deliver latex d).runOn h₁ = (.ok chunk, h₂)) :
    (convert s (some d) reader writer).runOn h = (.ok (.sent chunk), h₂.record "md2tex.api" Log.debug
      (Text.ofString ("Wrote LaTeX output to " ++ destinationName d))) := by
  rw [convert, runOn_bind, hmade]
  dsimp only
  rw [runOn_bind, hsent]
  rfl

/-- What has been written to a file is still there when lines have been logged elsewhere. -/
theorem read_after {h₁ : Host} (hlog : h.logFile? ≠ some l) (hlike : besideLog.alike h h₁)
    (htarget : h.files.target h.directory p = .ok l)
    (hafter : besideLog.alike (h₁.withFile l bs) h') : h'.files.read h.directory p = .ok bs := by
  have hfound : (h₁.files.put l bs).lookup h₁.directory p = .ok (.found l (.file bs)) :=
    Store.lookup_put (target_of_besideLog hlike htarget hlog) bs
  have hdirectory : h.directory = h'.directory :=
    (Host.directory_of_bare hlike.1).trans (Host.directory_of_bare hafter.1)
  rw [hdirectory]
  refine Store.read_of_lookup (lookup_of_besideLog hafter hfound ?_)
  exact Host.logFile?_of_bare hlike.1 ▸ hlog

/-- LaTeX that has a UTF-8 form is what a conversion returns, and what it leaves in a file that can be
written and hands to a stream, as bytes or as text. Rendering the document of the source to a
destination is the same conversion, but for a remark. -/
theorem convert_delivers {h : Host} {s : Source} {reader writer : Option OptionSet} {latex : Text}
    {bs : List UInt8} (hlatex : ((toLatex s reader writer).runOn h).1 = .ok latex)
    (hbytes : utf8OfText latex = .ok bs) :
    ((convert s none reader writer).runOn h).1 = .ok (.latex latex) ∧
      (∀ p l, p.hasNull = false → h.files.target h.directory p = .ok l → h.LogsApart p →
        ((convert s (some (.path p)) reader writer).runOn h).1 = .ok (.sent none) ∧
          ((convert s (some (.path p)) reader writer).runOn h).2.files.read h.directory p = .ok bs) ∧
      (∀ k : StreamKind, k.TakesBytes →
        ((convert s (some (.stream k)) reader writer).runOn h).1 = .ok (.sent (some (.bytes bs)))) ∧
      (∀ k : StreamKind, ¬k.TakesBytes →
        ((convert s (some (.stream k)) reader writer).runOn h).1 = .ok (.sent (some (.text latex)))) ∧
      ∀ d, convert s (some d) reader writer = (do
        let chunk ← renderSource s reader writer d
        note "md2tex.api" (Text.ofString ("Wrote LaTeX output to " ++ destinationName d))
        return .sent chunk) := by
  have hmade : (toLatex s reader writer).runOn h =
      (.ok latex, ((toLatex s reader writer).runOn h).2) := Prod.ext hlatex rfl
  generalize hafter : ((toLatex s reader writer).runOn h).2 = h₁ at hmade
  refine ⟨?_, fun p l hp htarget hlog => ?_, fun k hk => ?_, fun k hk => ?_,
    convert_eq_renderSource⟩
  · rw [convert, runOn_bind, hmade]
    rfl
  · have hlike : besideLog.alike h h₁ := hafter ▸ keeps_toLatex s reader writer hlog.seen
    have hapart : h.logFile? ≠ some l := fun hl => (hlog l hl).2 htarget
    obtain ⟨message, hwrite⟩ :=
      runOn_writeText hp (target_of_besideLog hlike htarget hapart) hbytes
    have hsent : (deliver latex (.path p)).runOn h₁ =
        (.ok none, (h₁.withFile l bs).record "md2tex.utils.io_utils" Log.debug message) := by
      rw [deliver, runOn_bind, hwrite]
      rfl
    rw [runOn_convert hmade hsent]
    -- both remarks come after the text is in its file
    have hnoted := besideLog.record "md2tex.utils.io_utils" Log.debug message
      (besideLog_withFile (besideLog.right hlike) l bs)
    exact ⟨rfl, read_after hapart hlike htarget
      (besideLog.trans hnoted (besideLog.record _ _ _ (besideLog.right hnoted)))⟩
  · have hsent : (deliver latex (.stream k)).runOn h₁ = (.ok (some (.bytes bs)), h₁) := by
      rw [deliver, if_pos (k.isBinary_iff.mpr hk), encodeText, hbytes]
      rfl
    rw [runOn_convert hmade hsent]
  · have hsent : (deliver latex (.stream k)).runOn h₁ = (.ok (some (.text latex)), h₁) := by
      rw [deliver, if_neg fun hbinary => hk (k.isBinary_iff.mp hbinary)]
      rfl
    rw [runOn_convert hmade hsent]

/-- The page replaces the old output, and a binary stream gets the same bytes. -/
theorem pageText_delivered :
    pageHost.files.read [] (.ofString "p.tex") = .ok [0x7A] ∧
      ((convert (.text pageText) (some (.path (.ofString "p.tex"))) none none).runOn
        pageHost).2.files.read [] (.ofString "p.tex") = .ok [0xC3, 0xA9, 0x0A, 0x5C, 0x26, 0x0A, 0x0A] ∧
      ((convert (.text pageText) (some (.stream (.declared (some (Text.ofString "wb"))))) none
        none).runOn pageHost).1 =
          .ok (.sent (some (.bytes [0xC3, 0xA9, 0x0A, 0x5C, 0x26, 0x0A, 0x0A]))) := by
  have hlatex : ((toLatex (.text pageText) none none).runOn pageHost).1 =
      .ok (Text.ofString "é\n\\&\n\n") :=
    eq_of_latex? (by decide +kernel)
  have hbytes : utf8OfText (Text.ofString "é\n\\&\n\n") =
      .ok [0xC3, 0xA9, 0x0A, 0x5C, 0x26, 0x0A, 0x0A] := rfl
  obtain ⟨-, hfile, hbinary, -⟩ := convert_delivers hlatex hbytes
  exact ⟨rfl, (hfile (.ofString "p.tex") ["p.tex"] rfl rfl nofun).2, hbinary _ (.declared (by decide))⟩

end Action

end MarkTex
