import MarkTex.Config.Discovery
import MarkTex.Proofs.Host.FileAccess

/-!
# Looking for a configuration

Finding a configuration and reading it changes nothing, whatever comes of it.
-/

namespace MarkTex.Action

open Config HostView

variable {V : HostView}

theorem looks_configAt? (p : Path) : Looks world (configAt? p) := by
  refine Agree.get_bind fun h h' hlike => ?_
  rw [eq_of_world hlike (·.configAt? p) fun _ => rfl]
  exact Agree.liftM _

theorem looks_readConfigFile (p : Path) (format : ConfigFormat) (bs : List UInt8) :
    Looks V (readConfigFile p format bs) := by
  refine Agree.get_bind fun h h' hlike => ?_
  rw [V.platform hlike]
  exact Agree.liftM _

theorem looks_loadConfig (p : Path) : Looks world (loadConfig p) := by
  refine (looks_configAt? p).bind fun e => ?_
  split
  · exact Agree.throw _
  next bs =>
    split
    · exact Agree.throw _
    next format _ =>
      refine (looks_readConfigFile p format bs).bind fun es => ?_
      exact ((Agree.note _ _).skip (Agree.pure es)).looks
  · exact Agree.throw _

theorem looks_firstFile? (directory : Path) (names : List String) :
    Looks world (firstFile? directory names) := by
  induction names with
  | nil => exact Agree.pure _
  | cons name rest ih =>
      refine (looks_configAt? _).bind fun e => ?_
      split
      · exact Agree.pure _
      · exact ih

theorem looks_projectFile? (directory : Path) : Looks world (projectFile? directory) := by
  refine (looks_configAt? _).bind fun e => ?_
  split
  next bs =>
    refine Agree.bind (Agree.tryCatch (looks_readConfigFile _ .project bs) fun e => ?_)
      fun es => Agree.pure _
    split
    · exact ((Agree.note _ _).skip (Agree.pure [])).looks
    · exact Agree.throw _
  · exact Agree.pure _

theorem looks_configIn? (directory : Path) : Looks world (configIn? directory) := by
  refine (looks_firstFile? _ _).bind fun p => ?_
  split
  · exact Agree.pure _
  · exact looks_projectFile? _

theorem looks_nearestConfig? (names : List String) : Looks world (nearestConfig? names) := by
  induction names with
  | nil => exact looks_configIn? _
  | cons name outer ih =>
      refine (looks_configIn? _).bind fun p => ?_
      split
      · exact Agree.pure _
      · exact ih

theorem looks_findConfig? (start : Option Path) : Looks world (findConfig? start) :=
  (looks_resolve _).bind fun l => looks_nearestConfig? l.reverse

theorem looks_homeFile : Looks world (do
    match (← get).home? with
    | none => failBeneath .noHome
    | some home => firstFile? home fileNames) := by
  refine Agree.get_bind fun h h' hlike => ?_
  rw [eq_of_world hlike Host.home? fun _ => rfl]
  split
  · exact Agree.throw _
  · exact looks_firstFile? _ _

theorem looks_discoverConfig? (start : Option Path) : Looks world (discoverConfig? start) := by
  refine (looks_findConfig? start).bind fun p => ?_
  split
  · exact Agree.pure _
  · exact looks_homeFile

theorem looks_preferredConfig (named fromEnvironment : Option String) :
    Looks world (preferredConfig named fromEnvironment) := by
  unfold preferredConfig
  split
  · exact looks_loadConfig _
  · refine (looks_discoverConfig? none).bind fun p => ?_
    split
    · exact looks_loadConfig _
    · exact Agree.pure _

end MarkTex.Action
