import MarkTex.Command.Run
import MarkTex.Proofs.Config.Search
import MarkTex.Proofs.Convert.Source

/-!
# What a run of the command leaves unchanged

Without a log file, a run of the command that does not succeed leaves all files as they are, up to one
case, and a run that succeeds changes the one location that its output path leads to, which is never
that of its input. The one case is LaTeX without a UTF-8 form: the output is opened, and so emptied,
before that is noticed.
-/

namespace MarkTex.Command

open MarkTex.Action HostView

/-! ## The parts that only look -/

theorem looks_fromEnvironment (a : Argument) : Looks world a.fromEnvironment := by
  unfold Argument.fromEnvironment
  split
  · exact Agree.pure a
  · refine Agree.get_bind fun h h' hlike => ?_
    rw [eq_of_world hlike (·.env? (variableName a.dest)) fun _ => rfl]
    split
    · unfold Argument.withDefault
      split
      · split
        · split
          · exact Agree.pure _
          · exact ((Agree.record _ _ _).skip (Agree.pure a)).looks
        · exact Agree.pure _
      · exact Agree.pure _
    · exact Agree.pure a

theorem looks_arguments : Looks world arguments := by
  refine Agree.mapM (fun o => ?_) origins
  split
  · exact Agree.pure _
  · exact looks_fromEnvironment _

theorem looks_stopWith (g : Grammar) (s : Stop) : Looks world (stopWith g s) := by
  refine Agree.get_bind fun h h' hlike => ?_
  rw [eq_of_world hlike columns fun _ => rfl]
  dsimp only
  split
  · exact ((Agree.print _).skip (Agree.pure 0)).looks
  · exact ((Agree.print _).skip (Agree.pure 0)).looks
  · exact ((Agree.complain _).skip (Agree.pure invalidLine)).looks

theorem looks_readCommandLine (line : List String) : Looks world (readCommandLine line) := by
  refine looks_arguments.bind fun as => ?_
  split
  · exact Agree.pure _
  · exact (looks_stopWith _ _).map

theorem looks_readOptions (vs : Values) : Looks world (readOptions vs) := by
  have hoptions (entries : Config.Entries) : Looks world (optionsOf vs entries) := by
    unfold optionsOf
    split
    · exact Agree.pure _
    · exact Agree.throw _
  have hconfig : Looks world (readConfig vs) := by
    unfold readConfig
    split
    · exact Agree.pure _
    · refine Agree.get_bind fun h h' hlike => ?_
      rw [eq_of_world hlike (·.env? Config.fileVariable) fun _ => rfl]
      exact looks_preferredConfig _ _
  unfold readOptions
  refine Agree.tryCatch (hconfig.bind fun entries => (hoptions entries).map) fun e => ?_
  split
  · exact Agree.pure _
  · exact Agree.throw _

theorem looks_setUpLog {vs : Values} (hfile : textOf? vs "log_file" = none) :
    Looks world (setUpLog vs) := by
  unfold setUpLog
  split
  · exact Agree.throw _
  next level _ =>
    rw [hfile]
    have hset : Agree world
        (modify fun h => { h with log := some ⟨level, isGiven vs "trace", none⟩ }) (pure ()) :=
      Agree.unseen fun h hseen => ⟨rfl, hseen.2.1, rfl⟩
    exact hset.looks

/-! ## Converting a file -/

variable {h h' : Host} {input output : Path} {reader : Markdown.ParseOptions}
  {writer : Latex.RenderOptions}

/-- What is left when a text has been written to a location: an empty file if it has no UTF-8 form, else
a file of that form. -/
def Leaves (latex : Text) (l : Location) (failed : Encoding.Unencodable → Prop) (done : Prop)
    (h h' : Host) : Prop :=
  (∃ u, Encoding.utf8OfText latex = .error u ∧ failed u ∧ world.alike (h.withFile l []) h') ∨
    ∃ bs, Encoding.utf8OfText latex = .ok bs ∧ done ∧ world.alike (h.withFile l bs) h'

theorem Leaves.later {h₁ : Host} {latex : Text} {l : Location}
    {failed : Encoding.Unencodable → Prop} {done : Prop} (hleaves : Leaves latex l failed done h h₁)
    (hlike : world.alike h₁ h') : Leaves latex l failed done h h' := by
  rcases hleaves with ⟨u, hbytes, hfailed, hlast⟩ | ⟨bs, hbytes, hdone, hlast⟩
  · exact .inl ⟨u, hbytes, hfailed, world.trans hlast hlike⟩
  · exact .inr ⟨bs, hbytes, hdone, world.trans hlast hlike⟩

theorem Leaves.earlier {h₁ : Host} {latex : Text} {l : Location}
    {failed : Encoding.Unencodable → Prop} {done : Prop} (hlike : world.alike h h₁)
    (hleaves : Leaves latex l failed done h₁ h') : Leaves latex l failed done h h' := by
  rcases hleaves with ⟨u, hbytes, hfailed, hlast⟩ | ⟨bs, hbytes, hdone, hlast⟩
  · exact .inl ⟨u, hbytes, hfailed, world.trans (alike_withFile hlike l []) hlast⟩
  · exact .inr ⟨bs, hbytes, hdone, world.trans (alike_withFile hlike l bs) hlast⟩

/-- What a conversion from a path to a path can do: it fails and changes nothing, it fails when the
output has been opened, or it succeeds. -/
theorem convert_cases {r : Except Error Converted} (hseen : world.alike h h)
    (hrun : (convert (.path input) (some (.path output)) (some (.markdown reader))
      (some (.latex writer))).runOn h = (r, h')) :
    (∃ e, r = .error e ∧ world.alike h h') ∨
      ∃ latex l, ((toLatex (.path input) (some (.markdown reader))
          (some (.latex writer))).runOn h).1 = .ok latex ∧
        h.files.target h.directory output = .ok l ∧
        Leaves latex l (fun u => r = .error (.beneath (.unencodable u))) (∃ c, r = .ok c) h h' := by
  rw [convert, runOn_bind] at hrun
  generalize hmade : (toLatex (.path input) (some (.markdown reader))
    (some (.latex writer))).runOn h = made at *
  obtain ⟨made, h₁⟩ := made
  have hlatex := (looks_toLatex _ _ _).alike_after hseen hmade
  cases made with
  | error e =>
      cases hrun
      exact .inl ⟨e, rfl, hlatex⟩
  | ok latex =>
      simp only [deliver, bind_assoc, pure_bind] at hrun
      rw [runOn_bind] at hrun
      generalize hwrite : (writeText latex output).runOn h₁ = written at hrun
      obtain ⟨written, h₂⟩ := written
      have hsame := eq_of_world hlatex (fun h => h.files.target h.directory output) fun _ => rfl
      rcases writeText_cases (world.right hlatex) hwrite with
        ⟨e, rfl, rfl⟩ | ⟨l, htarget, ⟨u, hbytes, rfl, rfl⟩ | ⟨bs, hbytes, rfl, hwritten⟩⟩
      · cases hrun
        exact .inl ⟨e, rfl, hlatex⟩
      · cases hrun
        refine .inr ⟨latex, l, rfl, hsame.trans htarget, Leaves.earlier hlatex ?_⟩
        exact .inl ⟨u, hbytes, rfl, world.right (alike_withFile hlatex l [])⟩
      · obtain ⟨rfl, hafter⟩ := ((Agree.note _ _).skip (Agree.pure (Converted.sent none))).run_pure
          (world.right hwritten) hrun
        refine .inr ⟨latex, l, rfl, hsame.trans htarget, Leaves.earlier hlatex ?_⟩
        exact .inr ⟨bs, hbytes, ⟨_, rfl⟩, world.trans hwritten hafter⟩

/-- A failure that is caught is the outcome of an action. -/
theorem runOn_attempt (a : Action α) (h : Host) :
    (tryCatch (do let _ ← a; pure none) fun e => pure (some e)).runOn h =
      match a.runOn h with
      | (.ok _, h') => (.ok none, h')
      | (.error e, h') => (.ok (some e), h') := by
  rw [runOn_tryCatch, runOn_bind]
  generalize a.runOn h = ran
  obtain ⟨r, h'⟩ := ran
  cases r <;> rfl

/-- A failure is noted on the way to its verdict. -/
theorem agree_failed {V : HostView} (e : Error) : Agree V (do
    if e.kind?.isNone then note commandOrigin (Text.ofString "Unexpected error during conversion")
    return Verdict.failed (failureMessage e) e.exitCode)
    (pure (.failed (failureMessage e) e.exitCode)) := by
  dsimp only
  split
  · exact (Agree.note _ _).skip (Agree.pure _)
  · exact Agree.pure _

/-- What converting a file can do. -/
theorem convertFile_cases {inPanel : Bool} {v : Verdict} (hseen : world.alike h h)
    (hrun : (convertFile input output reader writer inPanel).runOn h = (.ok v, h')) :
    (v.code ≠ 0 ∧ world.alike h h') ∨
      ∃ latex l, ((toLatex (.path input) (some (.markdown reader))
          (some (.latex writer))).runOn h).1 = .ok latex ∧
        h.files.target h.directory output = .ok l ∧
        Leaves latex l (fun _ => v.code = 1) (v.code = 0) h h' := by
  obtain ⟨_, h₁, hremark, hrun⟩ := runOn_bind_eq_ok.mp hrun
  obtain ⟨failure?, h₂, hattempt, hrun⟩ := runOn_bind_eq_ok.mp hrun
  have hlike : world.alike h h₁ := ((Agree.record _ _ _).run_pure hseen hremark).2
  rw [runOn_attempt] at hattempt
  generalize hconvert : (convert _ _ _ _).runOn h₁ = converted at hattempt
  obtain ⟨r, h₃⟩ := converted
  -- what comes before the conversion is only looked at, so the first host may stand for the second
  have hlatex₁ := (looks_toLatex (.path input) (some (.markdown reader))
    (some (.latex writer))).outcome hlike
  have htarget₁ := eq_of_world hlike (fun h => h.files.target h.directory output) fun _ => rfl
  rcases convert_cases (world.right hlike) hconvert with
    ⟨e, rfl, hlike'⟩ | ⟨latex, l, hlatex, htarget, ⟨u, hbytes, rfl, hwritten⟩ |
      ⟨bs, hbytes, ⟨c, rfl⟩, hwritten⟩⟩
  · cases hattempt
    obtain ⟨hverdict, hlast⟩ := (agree_failed e).run_pure (world.right hlike') hrun
    cases hverdict
    exact .inl ⟨e.exitCode_ne_zero, world.trans hlike (world.trans hlike' hlast)⟩
  · cases hattempt
    obtain ⟨hverdict, hlast⟩ := (agree_failed _).run_pure (world.right hwritten) hrun
    cases hverdict
    refine .inr ⟨latex, l, hlatex₁.trans hlatex, htarget₁.trans htarget, Leaves.earlier hlike ?_⟩
    exact .inl ⟨u, hbytes, rfl, world.trans hwritten hlast⟩
  · cases hattempt
    cases hrun
    refine .inr ⟨latex, l, hlatex₁.trans hlatex, htarget₁.trans htarget, Leaves.earlier hlike ?_⟩
    exact .inr ⟨bs, hbytes, rfl, hwritten⟩

/-! ## Reporting -/

theorem looks_reportSuccess (inPanel : Bool) : Looks world (reportSuccess input output inPanel) := by
  unfold reportSuccess
  split
  · refine Agree.get_bind fun h h' hlike => ?_
    rw [eq_of_world hlike (successPanel · input output) fun _ => rfl]
    split
    · exact Agree.throw _
    · exact looks_print _
  · exact looks_print _

theorem looks_report (v : Verdict) : Looks world v.report := by
  cases v with
  | converted input output inPanel => exact looks_reportSuccess inPanel
  | failed message code => exact looks_complain _

/-! ## A whole run -/

/-- A conversion that a run comes to with the values of its arguments: its paths and options come from
them and from what is around, its LaTeX is that of the input, and its output can be opened at a
location apart from that of the input. -/
structure Conversion (vs : Values) (h : Host) where
  input : Path
  output : Path
  reader : Markdown.ParseOptions
  writer : Latex.RenderOptions
  latex : Text
  location : Location
  named : (textOf? vs "input").map Path.ofString = some input
  directed : outputOf vs input = .ok output
  configured : ((readOptions vs).runOn h).1 = .ok (.ok (reader, writer))
  converted : ((toLatex (.path input) (some (.markdown reader)) (some (.latex writer))).runOn h).1 =
    .ok latex
  opened : h.files.target h.directory output = .ok location
  kept : ∃ l content, h.files.lookup h.directory input = .ok (.found l (.file content)) ∧ l ≠ location

/-- The same conversion on a host that looks alike. -/
def Conversion.onAlike {vs : Values} (c : Conversion vs h') (hlike : world.alike h h') :
    Conversion vs h :=
  { c with
    configured := ((looks_readOptions vs).outcome hlike).trans c.configured
    converted := ((looks_toLatex _ _ _).outcome hlike).trans c.converted
    opened := (eq_of_world hlike (fun h => h.files.target h.directory c.output) fun _ => rfl).trans
      c.opened
    kept := by
      rw [eq_of_world hlike (fun h => h.files.lookup h.directory c.input) fun _ => rfl]
      exact c.kept }

/-- What the command can do up to its verdict. -/
theorem verdict_cases {vs : Values} {v : Verdict} (hseen : world.alike h h)
    (hfile : textOf? vs "log_file" = none) (hrun : (verdict vs).runOn h = (.ok v, h')) :
    (v.code ≠ 0 ∧ world.alike h h') ∨ ∃ c : Conversion vs h,
      Leaves c.latex c.location (fun _ => v.code = 1) (v.code = 0) h h' := by
  unfold verdict at hrun
  split at hrun
  · cases hrun
    exact .inl ⟨(by decide : invalidInput ≠ 0), hseen⟩
  next name hname =>
    obtain ⟨_, h₁, -, hlike₁, hrun⟩ := (looks_setUpLog hfile).first hseen hrun
    obtain ⟨read, h₂, hread, hlike₂, hrun⟩ :=
      (looks_readOptions vs).first (world.right hlike₁) hrun
    have hlike := world.trans hlike₁ hlike₂
    split at hrun
    next f =>
      cases hrun
      exact .inl ⟨(Error.config f).exitCode_ne_zero, hlike⟩
    next reader writer =>
      obtain ⟨output, h₃, houtput, hrun⟩ := runOn_bind_eq_ok.mp hrun
      rw [runOn_liftM] at houtput
      obtain ⟨hdirected, rfl⟩ := Prod.mk.inj houtput
      obtain ⟨i, h₄, hi, hlike₄, hrun⟩ := (looks_resolve _).first (world.right hlike) hrun
      obtain ⟨o, h₅, ho, hlike₅, hrun⟩ := (looks_resolve _).first (world.right hlike₄) hrun
      have hi : h.files.resolve h.directory (Path.ofString name) = .ok i :=
        resolve_of_outcome (((looks_resolve _).outcome hlike).trans hi)
      have ho : h.files.resolve h.directory output = .ok o :=
        resolve_of_outcome (((looks_resolve _).outcome (world.trans hlike hlike₄)).trans ho)
      have hlike := world.trans hlike (world.trans hlike₄ hlike₅)
      dsimp only at hrun
      split at hrun
      · cases hrun
        exact .inl ⟨(by decide : invalidInput ≠ 0), hlike⟩
      next hne =>
        rw [runOn_bind] at hrun
        dsimp only [runOn_get] at hrun
        rcases convertFile_cases (world.right hlike) hrun with
          ⟨hcode, hlast⟩ | ⟨latex, l, hlatex, htarget, hwritten⟩
        · exact .inl ⟨hcode, world.trans hlike hlast⟩
        have hlatex := ((looks_toLatex _ _ _).outcome hlike).trans hlatex
        have htarget := (eq_of_world hlike (fun h => h.files.target h.directory output)
          fun _ => rfl).trans htarget
        obtain ⟨place, content, hlookup⟩ := lookup_of_toLatex hseen hlatex
        have hkept : place ≠ l := Store.ne_of_resolve_ne hlookup htarget hi ho hne
        have hread := ((looks_readOptions vs).outcome hlike₁).trans hread
        exact .inr ⟨⟨_, output, reader, writer, latex, l, by rw [hname]; rfl, hdirected, hread, hlatex,
          htarget, place, content, hlookup, hkept⟩, hwritten.earlier hlike⟩

/-- What the command can do with the values of its arguments. -/
theorem runWith_cases {vs : Values} {code : Nat} (hseen : world.alike h h)
    (hfile : textOf? vs "log_file" = none) (hrun : (runWith vs).runOn h = (.ok code, h')) :
    (code ≠ 0 ∧ world.alike h h') ∨ ∃ c : Conversion vs h,
      Leaves c.latex c.location (fun _ => code = 1) (code = 0) h h' := by
  obtain ⟨v, h₁, hverdict, hrun⟩ := runOn_bind_eq_ok.mp hrun
  obtain ⟨_, h₂, hreport, hend⟩ := runOn_bind_eq_ok.mp hrun
  cases hend
  rcases verdict_cases hseen hfile hverdict with ⟨hcode, hlike⟩ | ⟨c, hleaves⟩
  · have hlast := (looks_report v).alike_after (world.right hlike) hreport
    exact .inl ⟨hcode, world.trans hlike hlast⟩
  · have hlike : world.alike h₁ h₁ := by
      rcases hleaves with ⟨_, _, _, hlast⟩ | ⟨_, _, _, hlast⟩ <;> exact world.right hlast
    exact .inr ⟨c, hleaves.later ((looks_report v).alike_after hlike hreport)⟩

/-- Without a log file, a run that does not succeed leaves all files as they are, unless its LaTeX has
no UTF-8 form; then the file at the output has been emptied. A run that succeeds leaves at the output
the UTF-8 form of the LaTeX of the input. Every other file, that of the input among them, stays. -/
theorem run_files {line : List String} {code : Nat} (hlog : h.logFile? = none)
    (hfile : ∀ vs, ((readCommandLine line).runOn h).1 = .ok (.ok vs) → textOf? vs "log_file" = none)
    (hrun : (run line).runOn h = (.ok (.returned code), h')) :
    ∃ vs, ((readCommandLine line).runOn h).1 = .ok (.ok vs) ∧
      (code ≠ 0 → h'.files = h.files ∨
        ∃ c : Conversion vs h, (∃ u, Encoding.utf8OfText c.latex = .error u) ∧ code = 1 ∧
          h'.files = h.files.put c.location []) ∧
      (code = 0 → ∃ (c : Conversion vs h) (bs : List UInt8),
        Encoding.utf8OfText c.latex = .ok bs ∧ h'.files.read h.directory c.output = .ok bs ∧
          ∀ l, l ≠ c.location → h'.files.find? l = h.files.find? l) := by
  have hseen : world.alike h h := ⟨rfl, hlog, hlog⟩
  obtain ⟨read, h₁, hread, hlike₁, hrun⟩ := (looks_readCommandLine line).first hseen hrun
  cases read with
  | error code' => cases hrun
  | ok vs =>
      obtain ⟨code', h₂, hwith, hend⟩ := runOn_bind_eq_ok.mp hrun
      cases hend
      refine ⟨vs, hread, ?_⟩
      rcases runWith_cases (world.right hlike₁) (hfile vs hread) hwith with
        ⟨hcode, hlast⟩ | ⟨c, ⟨u, hbytes, rfl, hlast⟩ | ⟨bs, hbytes, rfl, hlast⟩⟩
      · have hfiles := eq_of_world (world.trans hlike₁ hlast) (·.files) fun _ => rfl
        exact ⟨fun _ => .inl hfiles.symm, fun h0 => absurd h0 hcode⟩
      · have hfiles := eq_of_world (world.trans (alike_withFile hlike₁ _ _) hlast) (·.files)
          fun _ => rfl
        exact ⟨fun _ => .inr ⟨c.onAlike hlike₁, ⟨u, hbytes⟩, rfl, hfiles.symm⟩,
          fun h0 => absurd h0 Nat.one_ne_zero⟩
      · have hfiles := eq_of_world (world.trans (alike_withFile hlike₁ _ _) hlast) (·.files)
          fun _ => rfl
        refine ⟨fun h0 => absurd rfl h0, fun _ => ⟨c.onAlike hlike₁, bs, hbytes, ?_, fun l hl => ?_⟩⟩
        · rw [← hfiles]
          exact Store.read_put (c.onAlike hlike₁).opened bs
        · rw [← hfiles]
          exact Store.find?_insert_of_ne hl (.file bs)

/-- The number that a run returns, if it returns one. -/
def returned? : Except Error Ending → Option Nat
  | .ok (.returned code) => some code
  | _ => none

theorem eq_of_returned? {r : Except Error Ending} {code : Nat} (hr : returned? r = some code) :
    r = .ok (.returned code) := by
  unfold returned? at hr
  split at hr
  · cases hr
    rfl
  · cases hr

/-- Whether the line of a run names a log file, with the environment. -/
def namesLogFile (line : List String) (h : Host) : Bool :=
  match ((readCommandLine line).runOn h).1 with
  | .ok (.ok vs) => (textOf? vs "log_file").isSome
  | _ => false

theorem textOf?_of_not_namesLogFile {line : List String} (hline : namesLogFile line h = false)
    (vs : Values) (hvs : ((readCommandLine line).runOn h).1 = .ok (.ok vs)) :
    textOf? vs "log_file" = none := by
  simpa [namesLogFile, hvs] using hline

/-- A directory with a note, a link to it, and a configuration in which a lone surrogate stands between
blocks. -/
def noteHost : Host where
  files := ⟨[(["w"], .directory), (["w", "a.md"], .file (Encoding.utf8Encode "x\n\ny\n".toList)),
    (["w", "b.md"], .link (.ofString "a.md")), (["w", "b.tex"], .file [0x7A]),
    (["w", "c.json"], .file (Encoding.utf8Encode
      "\x7b\"markdown\": \x7b\"block_separator\": \"\\ud800\"\x7d\x7d".toList))]⟩
  directory := ["w"]
  inventory := ⟨["mistune"], [("mistune", "3.4.0")]⟩

theorem noteRun_writes : ∃ (vs : Values) (c : Conversion vs noteHost) (bs : List UInt8),
    Encoding.utf8OfText c.latex = .ok bs ∧
      ((run ["b.md", "--no-config"]).runOn noteHost).2.files.read ["w"] c.output = .ok bs ∧
        ∀ l, l ≠ c.location →
          ((run ["b.md", "--no-config"]).runOn noteHost).2.files.find? l = noteHost.files.find? l := by
  have hcode : ((run ["b.md", "--no-config"]).runOn noteHost).1 = .ok (.returned 0) :=
    eq_of_returned? (by decide +kernel)
  have hfile (vs : Values)
      (hvs : ((readCommandLine ["b.md", "--no-config"]).runOn noteHost).1 = .ok (.ok vs)) :
      textOf? vs "log_file" = none :=
    textOf?_of_not_namesLogFile (by decide +kernel) vs hvs
  obtain ⟨vs, -, -, hwrites⟩ := run_files (h := noteHost) rfl hfile (Prod.ext hcode rfl)
  obtain ⟨c, bs, hbytes, hread, hothers⟩ := hwrites rfl
  exact ⟨vs, c, bs, hbytes, hread, hothers⟩

/-- A run that fails for want of a UTF-8 form empties the output that was there. -/
theorem surrogateRun_empties :
    namesLogFile ["b.md", "--config", "c.json"] noteHost = false ∧
      returned? ((run ["b.md", "--config", "c.json"]).runOn noteHost).1 = some 1 ∧
        noteHost.files.find? ["w", "b.tex"] = some (.file [0x7A]) ∧
          ((run ["b.md", "--config", "c.json"]).runOn noteHost).2.files.find? ["w", "b.tex"] =
            some (.file []) := by
  decide +kernel

end MarkTex.Command
