import MarkTex.Proofs.Convert.Routes

/-!
# Conversions that fail

A source is converted, or a document is rendered, and that fails. Then a stream has been given nothing,
and all files but that of the log are as they were, with one exception: if the LaTeX is there and has no
UTF-8 form, the file at its destination has been opened, and so emptied or made, before that is noticed
(`failure_spares`).
-/

namespace MarkTex

open Encoding

/-- All is seen but what is printed and the file of the log. -/
def HostView.elsewhere : HostView where
  alike h h' := h.bare = h'.bare ∧ ∀ l, h.logFile? ≠ some l → h'.files.find? l = h.files.find? l
  symm {h h'} hlike := by
    refine ⟨hlike.1.symm, fun l hl => (hlike.2 l ?_).symm⟩
    rwa [Host.logFile?_of_bare hlike.1]
  trans {h h' h''} hlike hlike' := by
    refine ⟨hlike.1.trans hlike'.1, fun l hl => (hlike'.2 l ?_).trans (hlike.2 l hl)⟩
    rwa [← Host.logFile?_of_bare hlike.1]
  inventory {h h'} hlike := show h.bare.inventory = h'.bare.inventory by rw [hlike.1]
  platform {h h'} hlike := show h.bare.platform = h'.bare.platform by rw [hlike.1]
  printed _ _ _ := ⟨rfl, fun _ _ => rfl⟩
  record {h} origin level message hlike := by
    unfold Host.record
    split
    · exact hlike
    split
    · exact hlike
    next s hlog =>
      dsimp only
      split
      next f bytes hfile _ =>
        refine ⟨rfl, fun l hl => Store.find?_append_of_ne (fun heq => hl ?_) bytes⟩
        rw [Host.logFile?, hlog, Option.bind_some, hfile, heq]
      · exact hlike

namespace Action

variable {made : Action Text} {d? : Option Destination} {d : Destination} {h h' : Host} {e : Error}

/-- LaTeX is made, and in delivering it a stream is given a chunk. -/
def HandsOver (made : Action Text) (d? : Option Destination) (h : Host) (chunk : Chunk) : Prop :=
  ∃ d latex h₁ h₂, d? = some d ∧ made.runOn h = (.ok latex, h₁) ∧
    (deliver latex d).runOn h₁ = (.ok (some chunk), h₂)

/-- LaTeX is made that has no UTF-8 form, and a file is opened for it at a location. -/
def OpensInVain (made : Action Text) (d? : Option Destination) (h : Host) (l : Location) : Prop :=
  ∃ p latex h₁ u, d? = some (.path p) ∧ made.runOn h = (.ok latex, h₁) ∧ h₁.Opens p l ∧
    utf8OfText latex = .error u

/-- What is found behind a delivery that has failed. -/
structure Spares (made : Action Text) (d? : Option Destination) (h h' : Host) : Prop where
  others : ∀ l, ¬OpensInVain made d? h l → h.logFile? ≠ some l →
    h'.files.find? l = h.files.find? l
  inVain : ∀ l, OpensInVain made d? h l → h'.files.find? l = some (.file [])
  streams : ∀ chunk, ¬HandsOver made d? h chunk

theorem find?_of_keeps {r : Except Error Text} {h₁ : Host} {l : Location}
    (hkeeps : Keeps .elsewhere made) (hmade : made.runOn h = (r, h₁)) (hl : h.logFile? ≠ some l) :
    h₁.files.find? l = h.files.find? l := by
  have hlike := hkeeps (h := h) ⟨rfl, fun _ _ => rfl⟩
  rw [hmade] at hlike
  exact hlike.2 l hl

/-- Before LaTeX is there nothing is opened and nothing is handed over. -/
theorem spares_of_not_made (hkeeps : Keeps .elsewhere made) (hmade : made.runOn h = (.error e, h')) :
    Spares made d? h h' where
  others _ _ hl := find?_of_keeps hkeeps hmade hl
  inVain l := by
    rintro ⟨p, latex, h₁, u, -, hlatex, -⟩
    cases hmade.symm.trans hlatex
  streams chunk := by
    rintro ⟨d, latex, h₁, h₂, -, hlatex, -⟩
    cases hmade.symm.trans hlatex

/-- A delivery fails before a file is opened, or by the text when one is open. -/
theorem deliver_error_cases {latex : Text}
    (hfails : (deliver latex d).runOn h = (.error e, h')) :
    (h' = h ∧ ∀ p, d = .path p → ∀ l, ¬h.Opens p l) ∨
      ∃ p l u, d = .path p ∧ h.Opens p l ∧ utf8OfText latex = .error u ∧ h' = h.withFile l [] := by
  cases d with
  | stream kind =>
      refine .inl ⟨?_, fun p hp => by cases hp⟩
      rw [deliver] at hfails
      split at hfails
      · rcases runOn_bind_eq_error.mp hfails with hencode | ⟨bs, h₁, -, hsent⟩
        · rw [encodeText] at hencode
          split at hencode <;> cases hencode
          rfl
        · cases hsent
      · cases hfails
  | other typeName =>
      cases hfails
      exact .inl ⟨rfl, fun p hp => by cases hp⟩
  | path p =>
      rw [deliver, runOn_bind] at hfails
      rcases runOn_writeText_cases latex p h with
        ⟨hclosed, e', hwrite⟩ | ⟨l, hopens, ⟨u, hbytes, hwrite⟩ | ⟨bs, -, message, hwrite⟩⟩ <;>
        rw [hwrite] at hfails <;> cases hfails
      · refine .inl ⟨rfl, fun _ hp => ?_⟩
        cases hp
        exact hclosed
      · exact .inr ⟨p, l, u, rfl, hopens, hbytes, rfl⟩

theorem spares_of_not_delivered {latex : Text} {h₁ : Host} (hkeeps : Keeps .elsewhere made)
    (hmade : made.runOn h = (.ok latex, h₁)) (hfails : (deliver latex d).runOn h₁ = (.error e, h')) :
    Spares made (some d) h h' := by
  have hstreams (chunk : Chunk) : ¬HandsOver made (some d) h chunk := by
    rintro ⟨_, _, _, _, ⟨⟩, hlatex, hsent⟩
    cases hmade.symm.trans hlatex
    cases hfails.symm.trans hsent
  rcases deliver_error_cases hfails with ⟨rfl, hclosed⟩ | ⟨p, l, u, rfl, hopens, hbytes, rfl⟩
  · refine ⟨fun l _ hl => find?_of_keeps hkeeps hmade hl, fun l hvain => ?_, hstreams⟩
    obtain ⟨p, _, _, u, ⟨⟩, hlatex, hopens, -⟩ := hvain
    cases hmade.symm.trans hlatex
    exact absurd hopens (hclosed p rfl l)
  · refine ⟨fun l' hspared hl => ?_, fun l' hvain => ?_, hstreams⟩
    · have hne : l' ≠ l := by
        rintro rfl
        exact hspared ⟨p, latex, h₁, u, rfl, hmade, hopens, hbytes⟩
      exact (Store.find?_insert_of_ne hne _).trans (find?_of_keeps hkeeps hmade hl)
    · -- the path leads to one location
      obtain ⟨_, _, _, _, ⟨⟩, hlatex, hopens', -⟩ := hvain
      cases hmade.symm.trans hlatex
      cases hopens.2.symm.trans hopens'.2
      exact Store.find?_insert_self (Store.plain_of_target hopens.2).ne_nil _

/-- What follows a delivery and cannot fail does not matter. -/
theorem spares_of_delivery {β : Type} {k : Option Chunk → Action β}
    (hk : ∀ chunk h₂, ∃ y h₃, (k chunk).runOn h₂ = (.ok y, h₃)) (hkeeps : Keeps .elsewhere made)
    (hfails : (made >>= fun latex => deliver latex d >>= k).runOn h = (.error e, h')) :
    Spares made (some d) h h' := by
  rcases runOn_bind_eq_error.mp hfails with hmade | ⟨latex, h₁, hmade, hfails⟩
  · exact spares_of_not_made hkeeps hmade
  rcases runOn_bind_eq_error.mp hfails with hdeliver | ⟨chunk, h₂, -, hfails⟩
  · exact spares_of_not_delivered hkeeps hmade hdeliver
  · obtain ⟨y, h₃, hdone⟩ := hk chunk h₂
    cases hdone.symm.trans hfails

/-- A conversion or a rendering that fails has put nothing into a stream and has left all files but the
log's alone, except that it has emptied or made the one file that was opened for LaTeX without a UTF-8
form. -/
theorem failure_spares {h h' : Host} {e : Error} :
    (∀ (s : Source) (d? : Option Destination) (reader writer : Option OptionSet),
      (convert s d? reader writer).runOn h = (.error e, h') →
        Spares (toLatex s reader writer) d? h h') ∧
    ∀ (o : Latex.RenderOptions) (n : Node) (d : Destination),
      (renderTo o n d).runOn h = (.error e, h') → Spares (renderDocument o n) (some d) h h' := by
  refine ⟨fun s d? reader writer hfails => ?_, fun o n d hfails => ?_⟩
  · have hkeeps : Keeps .elsewhere (toLatex s reader writer) := keeps_toLatex s reader writer
    cases d? with
    | none =>
        rcases runOn_bind_eq_error.mp hfails with hmade | ⟨latex, h₁, -, hreturned⟩
        · exact spares_of_not_made hkeeps hmade
        · cases hreturned
    | some d => exact spares_of_delivery (fun _ _ => ⟨_, _, rfl⟩) hkeeps hfails
  · have hkeeps : Keeps .elsewhere (renderDocument o n) := .of_looks (agree_renderDocument o n).looks
    have hreturned : (renderDocument o n >>= fun latex => deliver latex d >>= pure).runOn h =
        (.error e, h') := by
      simpa only [renderTo, bind_pure] using hfails
    exact spares_of_delivery (fun _ _ => ⟨_, _, rfl⟩) hkeeps hreturned

/-- No directory is made for the output: a page that is sent to a missing one is sent nowhere. -/
theorem missingDirectory_spared :
    ((convert (.text pageText) (some (.path (.ofString "d/p.tex"))) none none).runOn
        pageHost).1.toOption.isNone ∧
      ∀ l, ((convert (.text pageText) (some (.path (.ofString "d/p.tex"))) none none).runOn
        pageHost).2.files.find? l = pageHost.files.find? l := by
  have hfails : ((convert (.text pageText) (some (.path (.ofString "d/p.tex"))) none none).runOn
      pageHost).1.toOption.isNone := by
    decide +kernel
  have hclosed (l : Location) : ¬pageHost.Opens (.ofString "d/p.tex") l := by
    rintro ⟨-, htarget⟩
    cases htarget
  refine ⟨hfails, fun l => ?_⟩
  generalize hran : (convert (.text pageText) (some (.path (.ofString "d/p.tex"))) none none).runOn
    pageHost = ran at hfails
  obtain ⟨_ | e, h'⟩ := ran
  · refine (failure_spares.1 _ _ _ _ hran).others l ?_ nofun
    rintro ⟨_, latex, h₁, u, ⟨⟩, hlatex, hopens, -⟩
    have hlike : HostView.world.alike pageHost _ :=
      keeps_toLatex (.text pageText) none none ⟨rfl, rfl, rfl⟩
    rw [hlatex] at hlike
    rw [Host.Opens, ← HostView.eq_of_world hlike (·.files) fun _ => rfl,
      ← HostView.eq_of_world hlike (·.directory) fun _ => rfl] at hopens
    exact hclosed l hopens
  · cases hfails

/-- A lone surrogate between blocks has no UTF-8 form, and the old output is gone when this is noticed. -/
theorem surrogateConversion_empties :
    let ran := (convert (.text (Text.ofString "x\n\ny\n")) (some (.path (.ofString "p.tex")))
      (some (.markdown { blockSeparator := [.surrogate 0] })) none).runOn pageHost
    ran.1.toOption.isNone ∧ pageHost.files.find? ["p.tex"] = some (.file [0x7A]) ∧
      ran.2.files.find? ["p.tex"] = some (.file []) := by
  decide +kernel

end Action

end MarkTex
