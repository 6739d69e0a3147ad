import MarkTex.Proofs.Command.Frame
import MarkTex.Proofs.Command.Resolved
import MarkTex.Proofs.Host.Keeping

/-!
# How a run ends

A run without a configuration ends in one of the exit codes, but for what can go wrong outside of the
conversion: before it, with the level of the log, the name of its file and the two paths, and behind it,
where telling what it has come to is refused.
-/

namespace MarkTex.Command

open MarkTex.Action

variable {h h' : Host} {vs : Values}

/-- The exit codes of the command. -/
def exitCodes : List Nat := [0, 1, 2, 3, 4, 6, 7]

theorem exitCode_mem (e : Error) : e.exitCode ∈ exitCodes := by
  have hkind (k : ErrorKind) : k.exitCode ∈ exitCodes := by cases k <;> decide
  unfold Error.exitCode
  split
  · exact hkind _
  · decide

/-! ## The line -/

/-- Whether the argument is true if its flag is given, and false by default. -/
def Origin.disables (flag : String) : Origin → Bool
  | line { flags := [f], arity := .none, effect := .keep (.bool true), default := .bool false, .. } =>
    f = flag
  | _ => false

theorem noConfig_only : ∀ o ∈ origins, o.argument.dest = "no_config" → o.disables "--no-config" := by
  decide

theorem noConfig_there : ∃ o ∈ origins, o.argument.dest = "no_config" := by
  decide

theorem noConfig_apart : ∀ o ∈ origins, ∀ f ∈ o.argument.flags,
    f.toList <+: "--no-config".toList → o.argument.dest = "no_config" := by
  decide

theorem Origin.within_of_disables {env? : String → Option String} {o : Origin} {flag : String}
    (ho : o.disables flag) : (o.within env?).flags = [flag] ∧ (o.within env?).arity = .none ∧
      (o.within env?).effect = .keep (.bool true) ∧ (o.within env?).default = .bool false := by
  unfold disables at ho
  split at ho
  next =>
    obtain rfl := of_decide_eq_true ho
    exact ⟨rfl, rfl, rfl, rfl⟩
  next => cases ho

theorem decides_noConfig (env? : String → Option String) :
    Decides (origins.map (Origin.within env?)) "no_config" "--no-config" (.bool true) where
  only := by
    intro a ha hdest
    obtain ⟨o, ho, rfl⟩ := List.mem_map.mp ha
    rw [Origin.within_dest] at hdest
    obtain ⟨hflags, harity, heffect, hdefault⟩ := Origin.within_of_disables (noConfig_only o ho hdest)
    exact ⟨hflags, harity, heffect, fun t ht => by rw [hdefault] at ht; cases ht⟩
  there := by
    obtain ⟨o, ho, hdest⟩ := noConfig_there
    exact ⟨_, List.mem_map_of_mem ho, Origin.within_dest.trans hdest⟩
  apart := by
    intro a ha f hf hstart
    obtain ⟨o, ho, rfl⟩ := List.mem_map.mp ha
    rw [Origin.within_flags] at hf
    exact Origin.within_dest.trans (noConfig_apart o ho f hf hstart)
  long := ⟨'n', "o-config".toList, rfl⟩
  plain := by decide

section
variable {line : List String} (hline : ((readCommandLine line).runOn h).1 = .ok (.ok vs))
include hline

theorem isGiven_noConfig (hno : givenOn line "--no-config") : isGiven vs "no_config" = true := by
  have hread := readArguments_of_readCommandLine hline
  rw [isGiven, (decides_noConfig h.env?).find_readArguments hread, if_pos hno]
  rfl

/-- Reading a line that can be read changes nothing. -/
theorem runOn_readCommandLine : (readCommandLine line).runOn h = (.ok (.ok vs), h) := by
  rw [readCommandLine, runOn_bind, runOn_arguments]
  dsimp only
  rw [readArguments_of_readCommandLine hline]
  rfl

end

/-! ## The options -/

theorem noConfiguration_valid : Config.Valid [] where
  known := nofun
  reader := ⟨nofun, nofun⟩
  writer := ⟨nofun, nofun⟩
  encoding := ⟨.utf8, rfl⟩
  columnSpec := by decide
  imageWidth := by decide

/-- Without a configuration the options are those of the line and the environment. -/
theorem runOn_readOptions {line : List String} {h₁ : Host}
    (hline : ((readCommandLine line).runOn h₁).1 = .ok (.ok vs))
    (hno : givenOn line "--no-config") (h : Host) : (readOptions vs).runOn h =
      (.ok (.ok (resolvedReader line h₁.env? [], resolvedWriter line h₁.env? [])), h) := by
  have hoptions := (options_eq_ok_iff_resolved hline [] _ _).mpr
    ⟨noConfiguration_valid, rfl, rfl⟩
  have hconfig : (readConfig vs).runOn h = (.ok [], h) := by
    rw [readConfig, if_pos (isGiven_noConfig hline hno)]
    rfl
  have hmade : (optionsOf vs []).runOn h =
      (.ok (resolvedReader line h₁.env? [], resolvedWriter line h₁.env? []), h) := by
    rw [optionsOf]
    have hsections (table : String) : Config.sectionOf [] table = [] := rfl
    rw [hsections, hsections] at hoptions
    rw [hoptions]
    rfl
  rw [readOptions, runOn_tryCatch, runOn_bind, hconfig]
  dsimp only
  rw [runOn_bind, hmade]
  rfl

/-! ## Setting up the log -/

/-- What setting up the log may change of a host, besides the log: at most one file is written, where a
file stands or nothing. -/
structure LogChange (h h' : Host) : Prop where
  directory : h.directory = h'.directory
  platform : h.platform = h'.platform
  files : ∃ f?, Store.AlikeApart f? h.files h'.files

theorem LogChange.of_alike {h₁ : Host} (hlike : HostView.besideLog.alike h h₁)
    (hfiles : ∃ f?, Store.AlikeApart f? h'.files h₁.files) (hdirectory : h'.directory = h.directory)
    (hplatform : h'.platform = h.platform) : LogChange h' h₁ where
  directory := hdirectory.trans (Host.directory_of_bare hlike.1)
  platform := hplatform.trans (HostView.besideLog.platform hlike)
  files := hfiles

theorem LogChange.trans_of_files_eq {h₁ : Host} (hfirst : LogChange h h₁) (hsame : h.files = h₁.files)
    (hnext : LogChange h₁ h') : LogChange h h' :=
  ⟨hfirst.directory.trans hnext.directory, hfirst.platform.trans hnext.platform, hsame ▸ hnext.files⟩

/-- Opening the log file fails for a name that holds a null character, and for no other. -/
theorem openFile_cases (s : LogSetting) (name : String) (hnone : h.logFile? = none) :
    (name.contains '\x00' = true ∧ ∃ e h', (Log.openFile s name).runOn h = (.error e, h')) ∨
      (name.contains '\x00' = false ∧
        ∃ h', (Log.openFile s name).runOn h = (.ok (), h') ∧ LogChange h h') := by
  unfold Log.openFile
  dsimp only
  by_cases hnull : name.contains '\x00' = true
  · rw [if_pos hnull]
    exact .inl ⟨hnull, _, _, rfl⟩
  rw [if_neg hnull, runOn_bind, runOn_get]
  refine .inr ⟨by simpa using hnull, ?_⟩
  dsimp only
  cases htarget : h.files.target h.directory (Log.plainPath h.directory (.ofString name)) with
  | error f =>
      refine ⟨_, rfl, ?_⟩
      dsimp only
      generalize Text.ofString _ = message
      obtain ⟨complaints, files, hrecord, hfiles⟩ := h.record_eq "root" Log.warning message
      rw [hrecord, hfiles hnone]
      exact ⟨rfl, rfl, none, fun _ _ => rfl, nofun, nofun⟩
  | ok l =>
      refine ⟨_, rfl, ?_⟩
      dsimp only
      generalize Text.ofString _ = message
      have happend := Store.AlikeApart.append (Store.plain_of_target htarget) []
      generalize hopened : { h with
        files := h.files.append l [], log := some { s with file := some l } } = opened
      have hlog : opened.logFile? = some l := by rw [← hopened]; rfl
      have hfiles : opened.files = h.files.append l [] := by rw [← hopened]
      have hseen : HostView.besideLog.alike opened opened := by
        refine ⟨rfl, ?_⟩
        rw [hlog, hfiles]
        exact happend.symm.trans happend
      have hlike := HostView.besideLog.record "root" Log.info message hseen
      have hrecorded := hlike.2
      rw [hlog, hfiles] at hrecorded
      refine .of_alike hlike ⟨some l, happend.trans hrecorded⟩ ?_ ?_
      · rw [← hopened]
      · rw [← hopened]

/-- The log cannot be set up: its level has no meaning, or the name of its file holds a null. -/
def LogFails (vs : Values) : Prop :=
  (∃ f, logLevel vs = .error f) ∨
    ∃ name, textOf? vs "log_file" = some name ∧ name.contains '\x00' = true

theorem setUpLog_cases (vs : Values) (h : Host) :
    (LogFails vs ∧ ∃ e h', (setUpLog vs).runOn h = (.error e, h')) ∨
      (¬LogFails vs ∧ ∃ h', (setUpLog vs).runOn h = (.ok (), h') ∧ LogChange h h') := by
  unfold setUpLog LogFails
  cases hlevel : logLevel vs with
  | error f => exact .inl ⟨.inl ⟨f, rfl⟩, _, _, rfl⟩
  | ok level =>
      dsimp only [Log.configure]
      rw [runOn_bind, runOn_modify]
      dsimp only
      generalize hset : { h with log := some ⟨level, isGiven vs "trace", none⟩ } = h₁
      have hfiles : h.files = h₁.files := by rw [← hset]
      have hnone : h₁.logFile? = none := by rw [← hset]; rfl
      have hstart : LogChange h h₁ := by
        rw [← hset]
        exact ⟨rfl, rfl, none, fun _ _ => rfl, nofun, nofun⟩
      cases hname : textOf? vs "log_file" with
      | none =>
          refine .inr ⟨?_, h₁, rfl, hstart⟩
          rintro (⟨f, hf⟩ | ⟨name, hn, -⟩)
          · cases hf
          · cases hn
      | some name =>
          rw [Option.getD_some]
          by_cases hempty : name = ""
          · rw [if_neg (not_not.mpr hempty)]
            refine .inr ⟨?_, h₁, rfl, hstart⟩
            rintro (⟨f, hf⟩ | ⟨_, ⟨⟩, hnull⟩)
            · cases hf
            · rw [hempty] at hnull
              simp at hnull
          rw [if_pos hempty]
          rcases openFile_cases ⟨level, isGiven vs "trace", none⟩ name hnone with
            ⟨hnull, hfails⟩ | ⟨hnull, h', hopen, hchange⟩
          · exact .inl ⟨.inr ⟨name, rfl, hnull⟩, hfails⟩
          · refine .inr ⟨?_, h', hopen, hstart.trans_of_files_eq hfiles hchange⟩
            rintro (⟨f, hf⟩ | ⟨_, ⟨⟩, hnull'⟩)
            · cases hf
            · rw [hnull] at hnull'
              cases hnull'

/-! ## Up to the verdict -/

/-- A path does not stand for a location: it holds a null character, the system refuses to tell its
location, or its links lead round. -/
def Unresolvable (h : Host) (p : Path) : Prop :=
  p.hasNull = true ∨ (∃ r, h.platform.resolving p = some r) ∨
    ∃ circle, h.files.resolve h.directory p = .error circle

theorem LogChange.unresolvable_iff (hchange : LogChange h h') (p : Path) :
    Unresolvable h p ↔ Unresolvable h' p := by
  obtain ⟨f?, hfiles⟩ := hchange.files
  unfold Unresolvable
  rw [hfiles.resolve_eq, hchange.directory, hchange.platform]

theorem resolve_cases (h : Host) (p : Path) :
    (Unresolvable h p ∧ ∃ e, (resolve p).runOn h = (.error e, h)) ∨
      (¬Unresolvable h p ∧ ∃ l, (resolve p).runOn h = (.ok l, h)) := by
  unfold resolve Unresolvable
  dsimp only
  cases hnull : p.hasNull with
  | true => exact .inl ⟨.inl rfl, _, rfl⟩
  | false =>
      rw [if_neg Bool.false_ne_true, runOn_bind, runOn_get]
      dsimp only
      cases hrefused : h.platform.resolving p with
      | some r => exact .inl ⟨.inr (.inl ⟨r, rfl⟩), _, rfl⟩
      | none =>
          cases hresolve : h.files.resolve h.directory p with
          | ok l => exact .inr ⟨by simp, l, rfl⟩
          | error circle => exact .inl ⟨.inr (.inr ⟨circle, rfl⟩), _, rfl⟩

/-- What a run does once it has its options and its output: it converts the input, unless the two paths
stand for one location. -/
def convertApart (input output : Path) (reader : Markdown.ParseOptions) (writer : Latex.RenderOptions)
    (rich : Bool) : Action Verdict := do
  if (← resolve input) = (← resolve output) then
    return .failed
      (Text.ofString ("Output path would overwrite the input file: " ++ input.toString)) invalidInput
  convertFile input output reader writer (usesPanel rich (← get).terminal)

/-- Converting a file always comes to a verdict. -/
theorem outcome_convertFile (input output : Path) (reader : Markdown.ParseOptions)
    (writer : Latex.RenderOptions) (inPanel : Bool) (h : Host) : ∃ v : Verdict, v.code ∈ exitCodes ∧
      ((convertFile input output reader writer inPanel).runOn h).1 = .ok v := by
  rw [convertFile, runOn_bind]
  change ∃ v : Verdict, v.code ∈ exitCodes ∧ (Action.runOn (_ >>= _) (Host.record _ _ _ _)).1 = .ok v
  rw [runOn_bind, runOn_attempt]
  generalize (convert _ _ _ _).runOn _ = converted
  obtain ⟨r, h'⟩ := converted
  cases r with
  | ok c => exact ⟨.converted input output inPanel, (by decide : 0 ∈ exitCodes), rfl⟩
  | error e =>
      exact ⟨.failed (failureMessage e) e.exitCode, exitCode_mem e,
        (agree_failed e (HostView.packages_alike h')).1⟩

/-- Converting a file apart from its output comes to a verdict, unless one of the paths stands for no
location. -/
theorem outcome_convertApart (input output : Path) (reader : Markdown.ParseOptions)
    (writer : Latex.RenderOptions) (rich : Bool) (h : Host) :
    ((Unresolvable h input ∨ Unresolvable h output) ∧
        ∃ e, ((convertApart input output reader writer rich).runOn h).1 = .error e) ∨
      ¬(Unresolvable h input ∨ Unresolvable h output) ∧ ∃ v : Verdict, v.code ∈ exitCodes ∧
        ((convertApart input output reader writer rich).runOn h).1 = .ok v := by
  unfold convertApart
  rcases resolve_cases h input with ⟨hinput, e, hrun⟩ | ⟨hinput, i, hrun⟩
  · refine .inl ⟨.inl hinput, e, ?_⟩
    rw [runOn_bind, hrun]
  rw [runOn_bind, hrun]
  dsimp only
  rcases resolve_cases h output with ⟨houtput, e, hrun⟩ | ⟨houtput, o, hrun⟩
  · refine .inl ⟨.inr houtput, e, ?_⟩
    rw [runOn_bind, hrun]
  rw [runOn_bind, hrun]
  dsimp only
  refine .inr ⟨not_or.mpr ⟨hinput, houtput⟩, ?_⟩
  split
  · exact ⟨.failed _ invalidInput, (by decide : invalidInput ∈ exitCodes), rfl⟩
  · exact outcome_convertFile input output reader writer _ h

/-- What keeps a run with an input from a verdict. -/
inductive Precluded (vs : Values) (h : Host) (input : Path) : Prop
  | log : LogFails vs → Precluded vs h input
  /-- The output is to be named after an input that has no name. -/
  | noName : textOf? vs "output" = none → input.name = "" → Precluded vs h input
  | input : Unresolvable h input → Precluded vs h input
  | output {output : Path} : outputOf vs input = .ok output → Unresolvable h output →
      Precluded vs h input

theorem outputOf_error_iff {input : Path} : (∃ e, outputOf vs input = .error e) ↔
    textOf? vs "output" = none ∧ input.name = "" := by
  unfold outputOf
  cases textOf? vs "output" with
  | some name => simp
  | none =>
      unfold defaultOutput Path.withSuffix?
      by_cases hname : input.name = ""
      · simp [hname]
      · simp [hname]

/-- Once the log is set up and there is an output, only a path without a location keeps a run from a
verdict. -/
theorem precluded_iff_unresolvable {input output : Path} (hlog : ¬LogFails vs)
    (houtput : outputOf vs input = .ok output) :
    Precluded vs h input ↔ Unresolvable h input ∨ Unresolvable h output := by
  constructor
  · rintro (hfails | ⟨hnone, hempty⟩ | hinput | ⟨houtput', hway⟩)
    · exact absurd hfails hlog
    · obtain ⟨e, he⟩ := outputOf_error_iff.mpr ⟨hnone, hempty⟩
      rw [houtput] at he
      cases he
    · exact .inl hinput
    · rw [houtput] at houtput'
      cases houtput'
      exact .inr hway
  · rintro (hinput | hway)
    · exact .input hinput
    · exact .output houtput hway

section
variable {name : String} {reader : Markdown.ParseOptions} {writer : Latex.RenderOptions}
  (hname : textOf? vs "input" = some name)
  (hread : ∀ h, (readOptions vs).runOn h = (.ok (.ok (reader, writer)), h))
include hname hread

theorem runOn_verdict : (verdict vs).runOn h = (do
    setUpLog vs
    let output ← outputOf vs (.ofString name)
    convertApart (.ofString name) output reader writer (isGiven vs "rich")).runOn h := by
  unfold verdict
  rw [hname]
  dsimp only
  rw [runOn_bind, runOn_bind]
  generalize (setUpLog vs).runOn h = ran
  obtain ⟨r, h'⟩ := ran
  cases r with
  | error e => rfl
  | ok _ =>
      dsimp only
      rw [runOn_bind, hread]
      rfl

/-- A run with an input comes to a verdict, unless something keeps it from one. -/
theorem outcome_verdict (h : Host) :
    (Precluded vs h (.ofString name) ∧ ∃ e, ((verdict vs).runOn h).1 = .error e) ∨
      ¬Precluded vs h (.ofString name) ∧
        ∃ v : Verdict, v.code ∈ exitCodes ∧ ((verdict vs).runOn h).1 = .ok v := by
  rw [runOn_verdict hname hread, runOn_bind]
  rcases setUpLog_cases vs h with ⟨hlog, e, h', hset⟩ | ⟨hlog, h₁, hset, hchange⟩
  · exact .inl ⟨.log hlog, e, by rw [hset]⟩
  rw [hset]
  dsimp only
  rw [runOn_bind, runOn_liftM]
  cases houtput : outputOf vs (.ofString name) with
  | error e =>
      obtain ⟨hnone, hempty⟩ := outputOf_error_iff.mp ⟨e, houtput⟩
      exact .inl ⟨.noName hnone hempty, e, rfl⟩
  | ok output =>
      rw [precluded_iff_unresolvable hlog houtput, hchange.unresolvable_iff,
        hchange.unresolvable_iff]
      exact outcome_convertApart (.ofString name) output reader writer _ h₁

end

/-! ## The report -/

/-- Telling a verdict is refused: the line or the panel for it may not be printed, or the panel cannot
be made. -/
inductive Verdict.Refused (h : Host) : Verdict → Prop
  | line {input output : Path} {r : Refusal} :
      h.platform.printing (successLine input output) = some r →
      Refused h (.converted input output false)
  | noPanel {input output : Path} {f : Style.MarkupFault} :
      successPanel h input output = .error f → Refused h (.converted input output true)
  | panel {input output : Path} {panel : Text} {r : Refusal} :
      successPanel h input output = .ok panel → h.platform.printing panel = some r →
      Refused h (.converted input output true)
  | failure {message : Text} {code : Nat} {r : Refusal} :
      h.platform.complaining (failureLine message) = some r → Refused h (.failed message code)

theorem print_error_iff (t : Text) :
    (∃ e, ((print t).runOn h).1 = .error e) ↔ ∃ r, h.platform.printing t = some r := by
  rw [print, runOn_bind, runOn_get]
  dsimp only
  cases h.platform.printing t with
  | none => exact iff_of_false nofun nofun
  | some r => exact iff_of_true ⟨_, rfl⟩ ⟨r, rfl⟩

theorem complain_error_iff (t : Text) :
    (∃ e, ((complain t).runOn h).1 = .error e) ↔ ∃ r, h.platform.complaining t = some r := by
  rw [complain, runOn_bind, runOn_get]
  dsimp only
  cases h.platform.complaining t with
  | none => exact iff_of_false nofun nofun
  | some r => exact iff_of_true ⟨_, rfl⟩ ⟨r, rfl⟩

theorem Verdict.refused_iff (v : Verdict) (h : Host) :
    v.Refused h ↔ ∃ e, (v.report.runOn h).1 = .error e := by
  cases v with
  | failed message code =>
      rw [report, reportFailure, complain_error_iff]
      exact ⟨fun | .failure hrefused => ⟨_, hrefused⟩, fun ⟨_, hrefused⟩ => .failure hrefused⟩
  | converted input output inPanel =>
      rw [report, reportSuccess]
      cases inPanel with
      | false =>
          rw [if_neg Bool.false_ne_true, print_error_iff]
          exact ⟨fun | .line hrefused => ⟨_, hrefused⟩, fun ⟨_, hrefused⟩ => .line hrefused⟩
      | true =>
          rw [if_pos rfl, runOn_bind, runOn_get]
          dsimp only
          cases hpanel : successPanel h input output with
          | error f => exact iff_of_true (.noPanel hpanel) ⟨_, rfl⟩
          | ok panel =>
              dsimp only
              rw [print_error_iff]
              constructor
              · intro hrefused
                cases hrefused with
                | noPanel hnone => rw [hpanel] at hnone; cases hnone
                | panel hmade hrefused =>
                    rw [hpanel] at hmade
                    cases hmade
                    exact ⟨_, hrefused⟩
              · rintro ⟨r, hrefused⟩
                exact .panel hpanel hrefused

/-- What makes a run end in a failure and not in a code: something keeps it from a verdict, or telling
its verdict is refused on the host that it has come to. -/
inductive Escapes (vs : Values) (h : Host) : Prop
  | precluded {name : String} : textOf? vs "input" = some name →
      Precluded vs h (.ofString name) → Escapes vs h
  | untold {v : Verdict} {after : Host} : (verdict vs).runOn h = (.ok v, after) →
      v.Refused after → Escapes vs h

/-- A run that comes to a verdict escapes just if telling it is refused, and else returns its number. -/
theorem escapes_of_verdict {v : Verdict} (hverdict : ((verdict vs).runOn h).1 = .ok v)
    (hfree : ∀ name, textOf? vs "input" = some name → ¬Precluded vs h (.ofString name)) :
    (Escapes vs h ∧ ∃ e, ((runWith vs).runOn h).1 = .error e) ∨
      ¬Escapes vs h ∧ ((runWith vs).runOn h).1 = .ok v.code := by
  have hran : (verdict vs).runOn h = (.ok v, ((verdict vs).runOn h).2) := Prod.ext hverdict rfl
  generalize ((verdict vs).runOn h).2 = after at hran
  have hescapes : Escapes vs h ↔ v.Refused after := by
    refine ⟨fun hway => ?_, .untold hran⟩
    cases hway with
    | precluded hname hway => exact absurd hway (hfree _ hname)
    | untold hran' hrefused =>
        rw [hran] at hran'
        cases hran'
        exact hrefused
  rw [hescapes, Verdict.refused_iff, runWith, runOn_bind, hran]
  dsimp only
  rw [runOn_bind]
  generalize v.report.runOn after = told
  obtain ⟨r, h'⟩ := told
  cases r with
  | error e => exact .inl ⟨⟨e, rfl⟩, e, rfl⟩
  | ok _ => exact .inr ⟨nofun, rfl⟩

/-- A run ends in a failure just if something escapes it, else in one of the codes. -/
theorem outcome_runWith {reader : Markdown.ParseOptions} {writer : Latex.RenderOptions}
    (hread : ∀ h, (readOptions vs).runOn h = (.ok (.ok (reader, writer)), h)) (h : Host) :
    (Escapes vs h ∧ ∃ e, ((runWith vs).runOn h).1 = .error e) ∨
      ¬Escapes vs h ∧ ∃ code ∈ exitCodes, ((runWith vs).runOn h).1 = .ok code := by
  have hends {v : Verdict} (hcode : v.code ∈ exitCodes)
      (hverdict : ((verdict vs).runOn h).1 = .ok v)
      (hfree : ∀ name, textOf? vs "input" = some name → ¬Precluded vs h (.ofString name)) :
      (Escapes vs h ∧ ∃ e, ((runWith vs).runOn h).1 = .error e) ∨
        ¬Escapes vs h ∧ ∃ code ∈ exitCodes, ((runWith vs).runOn h).1 = .ok code :=
    (escapes_of_verdict hverdict hfree).imp_right fun hdone => ⟨hdone.1, _, hcode, hdone.2⟩
  cases hname : textOf? vs "input" with
  | none =>
      refine hends (v := .failed (Text.ofString "Input file is required") invalidInput)
        (by decide : invalidInput ∈ exitCodes) ?_ (by simp [hname])
      rw [verdict, hname]
      rfl
  | some name =>
      rcases outcome_verdict hname hread h with ⟨hway, e, hfails⟩ | ⟨hfree, v, hcode, hverdict⟩
      · refine .inl ⟨.precluded hname hway, e, ?_⟩
        rw [runWith, runOn_bind]
        generalize (verdict vs).runOn h = ran at hfails
        obtain ⟨r, h'⟩ := ran
        cases hfails
        rfl
      · refine hends hcode hverdict fun name' hname' => ?_
        rw [hname] at hname'
        cases hname'
        exact hfree

/-- A run on a line that is read and asks for no configuration ends in one of the exit codes, unless
something escapes it. With an input its log cannot be set up, the input has no name to make an output
of, or one of the two paths stands for no location; or the run has come to its verdict, and the system
refuses to print the line or the panel that tells it. -/
theorem run_returns_iff {line : List String} {h : Host} {vs : Values}
    (hline : ((readCommandLine line).runOn h).1 = .ok (.ok vs))
    (hno : givenOn line "--no-config" = true) :
    ((∃ e, ((run line).runOn h).1 = .error e) ↔ Escapes vs h) ∧
      ∀ ending, ((run line).runOn h).1 = .ok ending →
        ∃ code ∈ exitCodes, ending = .returned code := by
  have hrun : ((run line).runOn h).1 = ((runWith vs).runOn h).1.map .returned := by
    rw [run, runOn_bind, runOn_readCommandLine hline]
    dsimp only
    rw [runOn_bind]
    generalize (runWith vs).runOn h = ran
    obtain ⟨r, h'⟩ := ran
    cases r <;> rfl
  rw [hrun]
  rcases outcome_runWith (runOn_readOptions hline hno) h with
    ⟨hway, e, he⟩ | ⟨hway, code, hcode, hdone⟩
  · rw [he]
    exact ⟨⟨fun _ => hway, fun _ => ⟨e, rfl⟩⟩, nofun⟩
  · rw [hdone]
    exact ⟨⟨nofun, fun hescapes => absurd hescapes hway⟩,
      fun ending hending => ⟨code, hcode, (Except.ok.inj hending).symm⟩⟩

/-- A link to a note converts without a configuration, and nothing escapes that run. -/
theorem linkedNote_returns : ∃ vs,
    ((readCommandLine ["b.md", "--no-config"]).runOn noteHost).1 = .ok (.ok vs) ∧
      givenOn ["b.md", "--no-config"] "--no-config" = true ∧
        textOf? vs "input" = some "b.md" ∧ ¬Escapes vs noteHost := by
  have hread : ((lineValues? ["b.md", "--no-config"] noteHost).bind (textOf? · "input")) =
      some "b.md" := by
    decide +kernel
  obtain ⟨vs, hvs, hinput⟩ := Option.bind_eq_some_iff.mp hread
  have hline := eq_of_lineValues? hvs
  have hno : givenOn ["b.md", "--no-config"] "--no-config" = true := by decide +kernel
  refine ⟨vs, hline, hno, hinput, fun hway => ?_⟩
  obtain ⟨e, he⟩ := (run_returns_iff hline hno).1.mpr hway
  have hcode : returned? ((run ["b.md", "--no-config"]).runOn noteHost).1 = some 0 := by
    decide +kernel
  rw [he] at hcode
  cases hcode

/-- A level of the log that the environment gives and nothing knows ends a run without a code. -/
theorem loudRun_escapes :
    (lineValues? ["b.md", "--no-config"]
        { noteHost with environment := [("MD2TEX_LOG_LEVEL", "loud")] }).isSome ∧
      givenOn ["b.md", "--no-config"] "--no-config" = true ∧
      ((run ["b.md", "--no-config"]).runOn
        { noteHost with environment := [("MD2TEX_LOG_LEVEL", "loud")] }).1.toOption = none := by
  decide +kernel

end MarkTex.Command
