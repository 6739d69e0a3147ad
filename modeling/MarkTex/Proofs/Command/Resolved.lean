import MarkTex.Command.Run
import MarkTex.Proofs.Command.Denials
import MarkTex.Proofs.Settings.Layers

/-!
# The options of a run

A switch is off if its flag is on the line; else it is what its variable of the environment says, else
what its entry in the configuration says, else on. A text is what its entry says, else its default
(`options_eq_ok_iff_resolved`).
-/

namespace MarkTex.Command

open Config (Value)

/-- The names of the fields that flags switch off. -/
def switchNames : List String := (readerSwitches ++ writerSwitches).map (·.1)

/-! ## Defaults from the environment -/

namespace Origin

/-- The argument as it is described. -/
def argument : Origin → Argument
  | line a => a
  | lineOrEnvironment a => a

/-- The argument with the default that an environment has for it. -/
def within (env? : String → Option String) : Origin → Argument
  | line a => a
  | lineOrEnvironment a =>
    match env? (variableName a.dest), a.effect with
    | none, _ => a
    | some t, .store => { a with default := .str (Text.ofString t) }
    | some t, _ => { a with default := .bool (isTrueText t) }

/-- Whether the argument is false if its flag is given, and takes its default from the environment
alone. -/
def denies (flag : String) : Origin → Bool
  | lineOrEnvironment
      { flags := [f], arity := .none, effect := .keep (.bool false), default := .null, .. } => f = flag
  | _ => false

end Origin

variable {env? : String → Option String} {o : Origin} {name : String}

theorem origins_plain : ∀ o ∈ origins, o.argument.dest ≠ "" ∧ o.argument.integer = false := by
  decide

theorem origins_only : ∀ name ∈ switchNames, ∀ o ∈ origins, o.argument.dest = name →
    o.denies (denialFlag name) := by
  decide

theorem origins_there : ∀ name ∈ switchNames, ∃ o ∈ origins, o.argument.dest = name := by
  decide

theorem origins_apart : ∀ name ∈ switchNames, ∀ o ∈ origins, ∀ f ∈ o.argument.flags,
    f.toList <+: (denialFlag name).toList → o.argument.dest = name := by
  decide

theorem runOn_mapM {α β : Type} {f : α → Action β} {g : α → β} {h : Host} {xs : List α}
    (hf : ∀ x ∈ xs, (f x).runOn h = (.ok (g x), h)) :
    (xs.mapM f).runOn h = (.ok (xs.map g), h) := by
  induction xs with
  | nil => rfl
  | cons x xs ih =>
      obtain ⟨hx, hxs⟩ := List.forall_mem_cons.mp hf
      rw [List.mapM_cons, Action.runOn_bind, hx]
      dsimp only
      rw [Action.runOn_bind, ih hxs]
      rfl

theorem runOn_fromEnvironment {a : Argument} (hdest : a.dest ≠ "") (hplain : a.integer = false)
    (h : Host) :
    a.fromEnvironment.runOn h = (.ok ((Origin.lineOrEnvironment a).within h.env?), h) := by
  rw [Argument.fromEnvironment, if_neg hdest, Action.runOn_bind, Action.runOn_get]
  dsimp only [Origin.within]
  cases h.env? (variableName a.dest) with
  | none => rfl
  | some t =>
      dsimp only [Argument.withDefault]
      cases a.effect with
      | store =>
          simp only [hplain]
          rfl
      | _ => rfl

/-- The arguments of a run have the defaults that its environment has for them. -/
theorem runOn_arguments (h : Host) :
    arguments.runOn h = (.ok (origins.map (Origin.within h.env?)), h) := by
  refine runOn_mapM fun o ho => ?_
  obtain ⟨hdest, hplain⟩ := origins_plain o ho
  cases o with
  | line a => rfl
  | lineOrEnvironment a => exact runOn_fromEnvironment hdest hplain h

/-- The values on a line that is read are those that its arguments have there. -/
theorem readArguments_of_readCommandLine {line : List String} {h : Host} {vs : Values}
    (hline : ((readCommandLine line).runOn h).1 = .ok (.ok vs)) :
    readArguments (origins.map (Origin.within h.env?)) line = .ok vs := by
  rw [readCommandLine, Action.runOn_bind, runOn_arguments] at hline
  dsimp only at hline
  split at hline
  next vs' hread =>
    cases hline
    exact hread
  next s _ =>
    rw [Action.runOn_bind] at hline
    split at hline <;> cases hline

/-! ## Switches -/

namespace Origin

theorem within_flags : (o.within env?).flags = o.argument.flags := by
  cases o with
  | line => rfl
  | lineOrEnvironment a =>
      dsimp only [within]
      split <;> rfl

theorem within_dest : (o.within env?).dest = o.argument.dest := by
  cases o with
  | line => rfl
  | lineOrEnvironment a =>
      dsimp only [within]
      split <;> rfl

/-- An argument that denies something keeps false if its flag is given, and begins with what the
environment says. -/
theorem within_of_denies {flag : String} (ho : o.denies flag) :
    (o.within env?).flags = [flag] ∧ (o.within env?).arity = .none ∧
      (o.within env?).effect = .keep (.bool false) ∧ (o.within env?).default =
        ((env? (variableName o.argument.dest)).map fun t => Value.bool (isTrueText t)).getD .null := by
  unfold denies at ho
  split at ho
  next =>
    obtain rfl := of_decide_eq_true ho
    dsimp only [within, argument]
    cases env? _ with
    | none => exact ⟨rfl, rfl, rfl, rfl⟩
    | some t => exact ⟨rfl, rfl, rfl, rfl⟩
  next => cases ho

end Origin

theorem toList_denialFlag : ∃ c rest, (denialFlag name).toList = '-' :: '-' :: c :: rest := by
  refine ⟨'n', 'o' :: '-' :: name.toList.map fun c => if c = '_' then '-' else c, ?_⟩
  simp [denialFlag]

theorem notMem_denialFlag : ∀ name ∈ switchNames, '=' ∉ (denialFlag name).toList := by
  decide

/-- Every switch has its flag, which stands for it alone. -/
theorem denies_switch (hname : name ∈ switchNames) (env? : String → Option String) :
    Decides (origins.map (Origin.within env?)) name (denialFlag name) (.bool false) where
  only := by
    intro a ha hdest
    obtain ⟨o, ho, rfl⟩ := List.mem_map.mp ha
    rw [Origin.within_dest] at hdest
    obtain ⟨hflags, harity, heffect, hdefault⟩ :=
      Origin.within_of_denies (origins_only name hname o ho hdest)
    refine ⟨hflags, harity, heffect, fun t ht => ?_⟩
    rw [hdefault] at ht
    cases henv : env? (variableName o.argument.dest) <;> rw [henv] at ht <;> cases ht
  there := by
    obtain ⟨o, ho, hdest⟩ := origins_there name hname
    exact ⟨_, List.mem_map_of_mem ho, Origin.within_dest.trans hdest⟩
  apart := by
    intro a ha f hf hstart
    obtain ⟨o, ho, rfl⟩ := List.mem_map.mp ha
    rw [Origin.within_flags] at hf
    exact Origin.within_dest.trans (origins_apart name hname o ho f hf hstart)
  long := toList_denialFlag
  plain := notMem_denialFlag name hname

theorem initialValue_switch (hname : name ∈ switchNames) (env? : String → Option String) :
    initialValue (origins.map (Origin.within env?)) name =
      ((env? (variableName name)).map fun t => Value.bool (isTrueText t)).getD .null := by
  obtain ⟨a, ha, hdest⟩ := (denies_switch hname env?).there
  unfold initialValue
  cases hfind : (origins.map (Origin.within env?)).find? (·.dest = name) with
  | none => exact absurd (by simpa using hdest) (List.find?_eq_none.mp hfind a ha)
  | some b =>
      have hb : b.dest = name := by simpa using List.find?_some hfind
      obtain ⟨o, ho, rfl⟩ := List.mem_map.mp (List.mem_of_find?_eq_some hfind)
      rw [Origin.within_dest] at hb
      obtain ⟨-, -, -, hdefault⟩ := Origin.within_of_denies (origins_only name hname o ho hb)
      exact hdefault.trans (by rw [hb])

/-- What the line and the environment say about a switch: its flag that it is off, else its variable
whether it is on. -/
def said? (line : List String) (env? : String → Option String) (name : String) : Option Bool :=
  if givenOn line (denialFlag name) then some false else (env? (variableName name)).map isTrueText

theorem find_switch {line : List String} {h : Host} {vs : Values}
    (hline : ((readCommandLine line).runOn h).1 = .ok (.ok vs)) (hname : name ∈ switchNames) :
    vs.find name = ((said? line h.env? name).map Value.bool).getD .null := by
  have hread := readArguments_of_readCommandLine hline
  rw [(denies_switch hname h.env?).find_readArguments hread, initialValue_switch hname, said?]
  split
  · rfl
  · rw [Option.map_map]
    rfl

/-! ## Fields -/

theorem fst_of_fieldFlag? {vs : Values} {x : String × Bool} (h : fieldFlag? vs name = some x) :
    x.1 = name := by
  unfold fieldFlag? at h
  split at h
  · cases h
    rfl
  · cases h

theorem mem_fieldFlags {vs : Values} {x : String × Bool} :
    x ∈ fieldFlags vs ↔ ∃ name ∈ switchNames, fieldFlag? vs name = some x := by
  simp only [fieldFlags, switchNames, List.mem_filterMap, List.mem_map, exists_exists_and_eq_and]

theorem find?_fieldFlags (vs : Values) (hname : name ∈ switchNames) :
    (fieldFlags vs).find? (·.1 = name) = fieldFlag? vs name := by
  cases hfind : (fieldFlags vs).find? (·.1 = name) with
  | some x =>
      obtain ⟨_, -, hflag⟩ := mem_fieldFlags.mp (List.mem_of_find?_eq_some hfind)
      have hx : x.1 = name := by simpa using List.find?_some hfind
      rw [← hflag, ← fst_of_fieldFlag? hflag, hx]
  | none =>
      cases hflag : fieldFlag? vs name with
      | none => rfl
      | some x =>
          have hx := List.find?_eq_none.mp hfind x (mem_fieldFlags.mpr ⟨name, hname, hflag⟩)
          exact absurd (decide_eq_true (fst_of_fieldFlag? hflag)) hx

theorem mem_switchNames_of_mem_fieldFlags {vs : Values} {x : String × Bool}
    (hx : x ∈ fieldFlags vs) : x.1 ∈ switchNames := by
  obtain ⟨name, hname, hflag⟩ := mem_fieldFlags.mp hx
  rwa [fst_of_fieldFlag? hflag]

/-- Fields that are switches just if there are flags for them, and then are on by default. -/
def Switched {σ : Type} (fields : List (Field σ)) (defaults : σ) : Prop :=
  ∀ f ∈ fields, f.name ∈ switchNames ∧ f.get defaults = .flag true ∨
    f.name ∉ switchNames ∧ (f.get defaults).typeName = "str"

theorem reader_switched : Switched Markdown.ParseOptions.fields {} := by
  unfold Switched
  decide

theorem writer_switched : Switched Latex.RenderOptions.fields {} := by
  unfold Switched
  decide

theorem Switched.forSwitches {σ : Type} {fields : List (Field σ)} {defaults : σ}
    (hs : Switched fields defaults) (vs : Values) :
    Config.ForSwitches (fieldFlags vs) fields defaults := by
  intro x hx f hf hname
  rcases hs f hf with ⟨-, hon⟩ | ⟨hnot, -⟩
  · rw [hon]
    rfl
  · exact absurd (hname ▸ mem_switchNames_of_mem_fieldFlags hx) hnot

/-- A switch: what the line and the environment say, else what its entry in a section says, else on. -/
def switchOf (line : List String) (env? : String → Option String) (es : Config.Entries)
    (name : String) : Bool :=
  (said? line env? name).getD (Config.switchIn es name true)

/-- The setting of a field, from its own flag, variable and entry. -/
def settingOf {σ : Type} (line : List String) (env? : String → Option String) (es : Config.Entries)
    (defaults : σ) (f : Field σ) : Setting :=
  match f.get defaults with
  | .flag _ => .flag (switchOf line env? es f.name)
  | .text t => .text (Config.textIn es f.name t)

section
variable {line : List String} {h : Host} {vs : Values} {entries : Config.Entries}
  (hline : ((readCommandLine line).runOn h).1 = .ok (.ok vs))
  {σ : Type} {fields : List (Field σ)} {defaults : σ} {table : String}
  (hc : Field.Complete fields) (hs : Switched fields defaults)
  (hvalid : Config.SectionValid fields defaults entries table)
include hline hc hs hvalid

theorem layered_fieldFlags {f : Field σ} (hf : f ∈ fields) :
    Config.layered (fieldFlags vs) (Config.sectionOf entries table) defaults f =
      settingOf line h.env? (Config.sectionOf entries table) defaults f := by
  unfold settingOf
  rcases hs f hf with ⟨hname, hon⟩ | ⟨-, htype⟩
  · rw [Config.layered_switch hc hvalid hf hon, find?_fieldFlags vs hname, fieldFlag?,
      find_switch hline hname, hon]
    unfold switchOf
    cases said? line h.env? f.name <;> rfl
  · cases hdefault : f.get defaults with
    | flag b =>
        rw [hdefault] at htype
        exact absurd htype (by decide : "bool" ≠ "str")
    | text t => exact Config.layered_text hc (hs.forSwitches vs) hvalid hf hdefault

/-- Options have what the layers say in all fields just if they are those that the line, the environment
and the section resolve to. -/
theorem layered_iff_eq {o resolved : σ} (hresolved : ∀ f ∈ fields,
      f.get resolved = settingOf line h.env? (Config.sectionOf entries table) defaults f) :
    (∀ f ∈ fields,
      f.get o = Config.layered (fieldFlags vs) (Config.sectionOf entries table) defaults f) ↔
        o = resolved := by
  have hlayers (f : Field σ) (hf : f ∈ fields) : f.get resolved =
      Config.layered (fieldFlags vs) (Config.sectionOf entries table) defaults f := by
    rw [hresolved f hf, layered_fieldFlags hline hc hs hvalid hf]
  constructor
  · exact fun hfields => hc.ext o resolved fun f hf => (hfields f hf).trans (hlayers f hf).symm
  · rintro rfl
    exact hlayers

end

/-- The options of the reader, each from its own flag, variable and entry. -/
def resolvedReader (line : List String) (env? : String → Option String) (es : Config.Entries) :
    Markdown.ParseOptions where
  encoding := Config.textIn es "encoding" (Text.ofString "utf-8")
  parseTables := switchOf line env? es "parse_tables"
  parseMath := switchOf line env? es "parse_math"
  parseStrikethrough := switchOf line env? es "parse_strikethrough"
  parseHtml := switchOf line env? es "parse_html"
  blockSeparator := Config.textIn es "block_separator" (Text.ofString "\n")

/-- The options of the writer, each from its own flag, variable and entry. -/
def resolvedWriter (line : List String) (env? : String → Option String) (es : Config.Entries) :
    Latex.RenderOptions where
  escapeSpecial := switchOf line env? es "escape_special"
  restoreMath := switchOf line env? es "restore_math"
  figurePlacement := Config.textIn es "figure_placement" (Text.ofString "h")
  imageWidth := Config.textIn es "image_width" (Text.ofString "1\\textwidth")
  tablePlacement := Config.textIn es "table_placement" (Text.ofString "h")
  columnSpec := Config.textIn es "column_spec" (Text.ofString " c ")

theorem get_resolvedReader (line : List String) (env? : String → Option String)
    (es : Config.Entries) : ∀ f ∈ Markdown.ParseOptions.fields,
      f.get (resolvedReader line env? es) = settingOf line env? es {} f := by
  simp only [Markdown.ParseOptions.fields, List.forall_mem_cons]
  exact ⟨rfl, rfl, rfl, rfl, rfl, rfl, by simp⟩

theorem get_resolvedWriter (line : List String) (env? : String → Option String)
    (es : Config.Entries) : ∀ f ∈ Latex.RenderOptions.fields,
      f.get (resolvedWriter line env? es) = settingOf line env? es {} f := by
  simp only [Latex.RenderOptions.fields, List.forall_mem_cons]
  exact ⟨rfl, rfl, rfl, rfl, rfl, rfl, by simp⟩

/-- On a line that is read, options are made of a configuration just if it is valid. A switch is then
off if its flag is given, else what its variable says, else what its entry says, else on; a text is what
its entry says, else its default. -/
theorem options_eq_ok_iff_resolved {line : List String} {h : Host} {vs : Values}
    (hline : ((readCommandLine line).runOn h).1 = .ok (.ok vs)) (entries : Config.Entries)
    (reader : Markdown.ParseOptions) (writer : Latex.RenderOptions) :
    Config.options entries (fieldFlags vs) = .ok (reader, writer) ↔ Config.Valid entries ∧
      reader = resolvedReader line h.env? (Config.sectionOf entries "markdown") ∧
      writer = resolvedWriter line h.env? (Config.sectionOf entries "latex") := by
  rw [Config.options_eq_ok_iff (reader_switched.forSwitches vs) (writer_switched.forSwitches vs)]
  refine and_congr_right fun hvalid => and_congr ?_ ?_
  · exact layered_iff_eq hline Markdown.ParseOptions.fields_complete reader_switched hvalid.reader
      (get_resolvedReader line h.env? _)
  · exact layered_iff_eq hline Latex.RenderOptions.fields_complete writer_switched hvalid.writer
      (get_resolvedWriter line h.env? _)

/-- The entries for the reader in a configuration. -/
def mixedReader : Config.Entries :=
  [(textValue "parse_math", .bool true), (textValue "parse_html", .bool false),
   (textValue "block_separator", textValue " ")]

/-- The entries for the writer in a configuration. -/
def mixedWriter : Config.Entries :=
  [(textValue "restore_math", .bool false), (textValue "column_spec", textValue "l")]

/-- A configuration that sets fields of both kinds of options. -/
def mixedConfig : Config.Entries :=
  [(textValue "markdown", .dict mixedReader), (textValue "latex", .dict mixedWriter)]

/-- An environment that switches tables off and raw HTML on. -/
def mixedHost : Host where
  environment := [("MD2TEX_PARSE_TABLES", "no"), ("MD2TEX_PARSE_HTML", "YES")]
  inventory := ⟨[], []⟩

theorem mixedConfig_valid : Config.Valid mixedConfig where
  known := by
    simp only [mixedConfig, List.forall_mem_cons]
    exact ⟨⟨"markdown", by decide, rfl⟩, ⟨"latex", by decide, rfl⟩, by simp⟩
  reader := by
    refine ⟨fun v hv => ⟨_, (Option.some.inj hv).symm⟩, ?_⟩
    have hentries : Config.sectionOf mixedConfig "markdown" = mixedReader := rfl
    simp only [hentries, mixedReader, List.forall_mem_cons]
    exact ⟨⟨("parse_math", .flag true), rfl, rfl, _, List.mem_of_getElem? (i := 2) rfl, rfl, rfl⟩,
      ⟨("parse_html", .flag false), rfl, rfl, _, List.mem_of_getElem? (i := 4) rfl, rfl, rfl⟩,
      ⟨("block_separator", .text (Text.ofString " ")), rfl, rfl, _,
        List.mem_of_getElem? (i := 5) rfl, rfl, rfl⟩, by simp⟩
  writer := by
    refine ⟨fun v hv => ⟨_, (Option.some.inj hv).symm⟩, ?_⟩
    have hentries : Config.sectionOf mixedConfig "latex" = mixedWriter := rfl
    simp only [hentries, mixedWriter, List.forall_mem_cons]
    exact ⟨⟨("restore_math", .flag false), rfl, rfl, _, List.mem_of_getElem? (i := 1) rfl, rfl, rfl⟩,
      ⟨("column_spec", .text (Text.ofString "l")), rfl, rfl, _,
        List.mem_of_getElem? (i := 5) rfl, rfl, rfl⟩, by simp⟩
  encoding := ⟨.utf8, by decide⟩
  columnSpec := by decide
  imageWidth := by decide

/-- The values on a line, if it is read. -/
def lineValues? (line : List String) (h : Host) : Option Values :=
  match ((readCommandLine line).runOn h).1 with
  | .ok (.ok vs) => some vs
  | _ => none

theorem eq_of_lineValues? {line : List String} {h : Host} {vs : Values}
    (hvs : lineValues? line h = some vs) : ((readCommandLine line).runOn h).1 = .ok (.ok vs) := by
  unfold lineValues? at hvs
  split at hvs
  next hread =>
    cases hvs
    exact hread
  · cases hvs

/-- A shortened flag comes before the configuration, and so does the environment. -/
theorem mixedOptions_resolved : ∃ vs,
    ((readCommandLine ["--no-parse-m", "a.md"]).runOn mixedHost).1 = .ok (.ok vs) ∧
      Config.options mixedConfig (fieldFlags vs) = .ok
        ({ parseTables := false, parseMath := false, blockSeparator := Text.ofString " " },
         { restoreMath := false, columnSpec := Text.ofString "l" }) := by
  have hread : (lineValues? ["--no-parse-m", "a.md"] mixedHost).isSome := by decide +kernel
  obtain ⟨vs, hvs⟩ := Option.isSome_iff_exists.mp hread
  have hline := eq_of_lineValues? hvs
  exact ⟨vs, hline, (options_eq_ok_iff_resolved hline mixedConfig _ _).mpr
    ⟨mixedConfig_valid, by decide +kernel, by decide +kernel⟩⟩

end MarkTex.Command
