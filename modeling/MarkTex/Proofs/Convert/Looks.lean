import MarkTex.Convert.Output
import MarkTex.Convert.Source
import MarkTex.Proofs.Host.View

/-!
# Conversion steps that only look

Reading a fragment of raw HTML looks at the packages at hand, and writing a document as LaTeX looks at
nothing. Beside their outcome both only make remarks.
-/

namespace MarkTex.Action

variable {V : HostView}

theorem looks_require (k : Package.Packaging) (component : String)
    (rs : List Package.Requirement) : Looks V (require component rs k) := by
  refine Agree.get_bind fun h h' hlike => ?_
  rw [V.inventory hlike]
  split
  · exact Agree.throw _
  · split
    · exact Agree.pure ()
    · exact Agree.throw _

/-- A method behind the check of its requirements only looks if it does so alone. -/
theorem looks_requiring {α β : Type} {method : α → Action β} (hmethod : ∀ a, Looks V (method a))
    (k : Package.Packaging) (component : String) (rs : List Package.Requirement) (a : α) :
    Looks V (requiring k component rs method a) :=
  (looks_require k component rs).bind fun _ => hmethod a

theorem agree_remark (r : Remark) : Agree V (reading.remark r) (pure ()) := Agree.note _ _

theorem looks_readFragment (t : Text) : Looks V (readFragment t) := by
  refine looks_requiring (fun t => ?_) _ _ _ t
  split
  · exact Agree.throw _
  · exact Agree.throw _
  next f _ =>
    have hremarks := Agree.forIn (V := V)
      (fun r : Remark => Agree.note "md2tex.parsers.html" r.message) f.remarks
    exact hremarks.looks.bind fun _ => Agree.pure f.nodes

theorem agree_renderDocument (r : Latex.RenderOptions) (n : Node) :
    Agree V (renderDocument r n) (pure (Latex.renderDocument r n)) := by
  refine Agree.timed _ _ ?_
  have hnotes := Agree.forIn (V := V) (fun _ : Nat => Agree.note "md2tex.renderers.latex"
    (Text.ofString "Rendering table without rows")) (List.range (Latex.emptyTables n))
  refine Agree.skip hnotes ?_
  split
  · dsimp only
    split
    · exact Agree.skip (Agree.note _ _) (Agree.pure _)
    · exact Agree.pure _
  · exact Agree.pure _

end MarkTex.Action
