import MarkTex.Convert.Convert
import MarkTex.Proofs.Host.FileAccess
import MarkTex.Proofs.Markdown.Dropped

/-!
# Converting a file

A conversion looks at the files and the packages at hand and changes nothing until its LaTeX is there.
One that succeeds has found a file at the path of its source.
-/

namespace MarkTex.Action

open HostView

theorem looks_load (s : Source) (encoding : Text) : Looks world (s.load encoding) := by
  unfold Source.load
  split
  · exact looks_decodeText _ _
  · exact looks_readText _ _
  · split
    · exact Agree.pure _
    next t _ p _ =>
      refine Agree.get_bind fun h h' hlike => ?_
      rw [eq_of_world hlike (·.isFile p) fun _ => rfl]
      split
      · exact ((Agree.note _ _).skip (looks_readText _ _)).looks
      · exact Agree.pure _
  · exact looks_decodeText _ _
  · exact Agree.pure _
  · exact Agree.throw _

theorem looks_documentOf {V : HostView} (o : Markdown.ParseOptions) (ts : List Markdown.Token) :
    Looks V (documentOf o ts) := by
  unfold documentOf
  split
  · exact Agree.throw _
  · exact Markdown.looks_document o ts

theorem looks_readDocument (o : Markdown.ParseOptions) (s : Source) :
    Looks world (readDocument o s) := by
  refine (looks_require _ _ _).bind fun _ => (looks_load s _).bind fun t => ?_
  have hdocument := looks_documentOf (V := world) o (Markdown.tokens o t.toChars)
  refine (Agree.timed _ _ hdocument).looks.bind fun n => ?_
  exact ((Agree.note _ _).skip (Agree.pure n)).looks

theorem looks_toLatex (s : Source) (reader writer : Option OptionSet) :
    Looks world (toLatex s reader writer) := by
  refine (Agree.liftM _).bind fun r => ?_
  have hdocument : Looks world (toDocument s reader) :=
    (Agree.liftM _).bind fun o => looks_readDocument o s
  exact hdocument.bind fun n => (agree_renderDocument r n).looks

/-- A conversion of the file at a path gives LaTeX only if there is a file. -/
theorem lookup_of_toLatex {h : Host} {p : Path} {reader writer : Option OptionSet} {latex : Text}
    (hseen : world.alike h h)
    (hrun : ((toLatex (.path p) reader writer).runOn h).1 = .ok latex) :
    ∃ l content, h.files.lookup h.directory p = .ok (.found l (.file content)) := by
  have hrun : (toLatex (.path p) reader writer).runOn h =
      (.ok latex, ((toLatex (.path p) reader writer).runOn h).2) := Prod.ext hrun rfl
  obtain ⟨r, h₁, hwriter, hrun⟩ := runOn_bind_eq_ok.mp hrun
  obtain ⟨n, h₂, hdocument, -⟩ := runOn_bind_eq_ok.mp hrun
  obtain ⟨o, h₃, hreader, hdocument⟩ := runOn_bind_eq_ok.mp hdocument
  obtain ⟨_, h₄, hrequire, hdocument⟩ := runOn_bind_eq_ok.mp hdocument
  obtain ⟨t, h₅, hload, -⟩ := runOn_bind_eq_ok.mp hdocument
  -- nothing that is looked at has changed until the file is read
  rw [runOn_liftM] at hwriter hreader
  obtain ⟨-, rfl⟩ := Prod.mk.inj hwriter
  obtain ⟨-, rfl⟩ := Prod.mk.inj hreader
  have hlike : world.alike h h₄ := (looks_require _ _ _).alike_after hseen hrequire
  rw [eq_of_world hlike (fun h => h.files.lookup h.directory p) fun _ => rfl]
  exact lookup_of_readText hload

end MarkTex.Action
