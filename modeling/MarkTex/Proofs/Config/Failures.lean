import MarkTex.Command.Run
import MarkTex.Proofs.Config.Search
import MarkTex.Proofs.Settings.Layers

/-!
# How reading a configuration fails

A configuration that cannot be used is told so, up to a few contents and keys at which something beneath
gives way first. Which these are is settled for a file that is loaded (`confined_loadConfig`) and for the
options made of its entries (`confined_options`).
-/

namespace MarkTex

open Config (Value Entries)

variable {α β : Type} {h : Host}

/-! ## Failures of the configuration -/

/-- An outcome that is a success or a failure of the configuration. -/
def Confined (r : Except Error α) : Prop := ∀ e, r = .error e → ∃ c, e = .config c

theorem confined_ok (x : α) : Confined (.ok x) := nofun

theorem confined_config (c : ConfigFault) : Confined (.error (.config c) : Except Error α) := by
  rintro e ⟨⟩
  exact ⟨c, rfl⟩

theorem not_confined_beneath (f : Fault) : ¬Confined (.error (.beneath f) : Except Error α) := by
  intro hconfined
  obtain ⟨c, hc⟩ := hconfined _ rfl
  cases hc

theorem not_confined_refused (r : Refusal) : ¬Confined (.error (.refused r) : Except Error α) := by
  intro hconfined
  obtain ⟨c, hc⟩ := hconfined _ rfl
  cases hc

theorem confined_mapError (r : Except ConfigFault α) : Confined (r.mapError .config) := by
  cases r with
  | error c => exact confined_config c
  | ok x => exact confined_ok x

theorem confined_bind {x : Except Error α} {f : α → Except Error β} :
    Confined (x >>= f) ↔ Confined x ∧ ∀ a, x = .ok a → Confined (f a) := by
  cases x with
  | error e => exact ⟨fun hconfined => ⟨fun e' he => hconfined e' (by cases he; rfl), nofun⟩,
      fun hconfined e' he => hconfined.1 e' (by cases he; rfl)⟩
  | ok a =>
      refine ⟨fun hconfined => ⟨confined_ok a, fun a' ha => ?_⟩, fun hconfined => hconfined.2 a rfl⟩
      cases ha
      exact hconfined

theorem Action.confined_bind {a : Action α} {f : α → Action β} :
    Confined ((a >>= f).runOn h).1 ↔ Confined (a.runOn h).1 ∧
      ∀ x h', a.runOn h = (.ok x, h') → Confined ((f x).runOn h').1 := by
  rw [runOn_bind]
  generalize a.runOn h = ran
  obtain ⟨r, h'⟩ := ran
  cases r with
  | error e =>
      refine ⟨fun hconfined => ⟨fun e' he => hconfined e' (by cases he; rfl), nofun⟩, ?_⟩
      exact fun hconfined e' he => hconfined.1 e' (by cases he; rfl)
  | ok x =>
      refine ⟨fun hconfined => ⟨confined_ok x, ?_⟩, fun hconfined => hconfined.2 x h' rfl⟩
      rintro x' h'' ⟨⟩
      exact hconfined

/-! ## Keys that are no names -/

namespace Config

variable {σ : Type} {known : List String} {es entries : Entries}

/-- An entry stands under a key that is no text. -/
def OddKey (es : Entries) : Prop := ∃ e ∈ es, keyName? e.1 = none

theorem mapM_keyName?_eq_none {keys : List Value} :
    keys.mapM keyName? = none ↔ ∃ k ∈ keys, keyName? k = none := by
  induction keys with
  | nil => simp
  | cons k keys ih =>
      rw [List.mapM_cons, List.exists_mem_cons_iff, ← ih]
      cases keyName? k with
      | none => simp
      | some t => cases keys.mapM keyName? <;> simp

theorem sortedNames_error {keys : List Value} :
    (∃ f, sortedNames keys = .error f) ↔ ∃ k ∈ keys, keyName? k = none := by
  rw [← mapM_keyName?_eq_none]
  unfold sortedNames
  cases hnames : keys.mapM keyName? with
  | some names => simp
  | none =>
      match keys with
      | [] => simp at hnames
      | [k] => simp
      | a :: b :: keys =>
          dsimp only
          split <;> simp

theorem oddKey_unknownKeys : (∃ k ∈ unknownKeys known es, keyName? k = none) ↔ OddKey es := by
  unfold unknownKeys OddKey
  constructor
  · rintro ⟨k, hk, hodd⟩
    obtain ⟨e, he, rfl⟩ := List.mem_map.mp (List.mem_filter.mp hk).1
    exact ⟨e, he, hodd⟩
  · rintro ⟨e, he, hodd⟩
    refine ⟨e.1, List.mem_filter.mpr ⟨List.mem_map_of_mem he, ?_⟩, hodd⟩
    simp [hodd]

/-- Names that nothing knows are told, unless there are keys among them that are no names. -/
theorem confined_refuseUnknown {fault : List Text → ConfigFault} :
    Confined (refuseUnknown known fault es) ↔ ¬OddKey es := by
  rw [← @oddKey_unknownKeys known, ← sortedNames_error, refuseUnknown]
  cases sortedNames (unknownKeys known es) with
  | error f => exact iff_of_false (not_confined_beneath f) fun hnone => hnone ⟨f, rfl⟩
  | ok names =>
      refine iff_of_true ?_ (by simp)
      cases names with
      | nil => exact confined_ok ()
      | cons name names => exact confined_config _

theorem confined_filterMapM {f : α → Except Error (Option β)} {xs : List α}
    (hf : ∀ x ∈ xs, Confined (f x)) : Confined (xs.filterMapM f) := by
  induction xs with
  | nil => exact confined_ok []
  | cons x xs ih =>
      obtain ⟨hx, hxs⟩ := List.forall_mem_cons.mp hf
      rw [List.filterMapM_cons]
      refine confined_bind.mpr ⟨hx, fun y _ => ?_⟩
      cases y with
      | none => exact ih hxs
      | some y => exact confined_bind.mpr ⟨ih hxs, fun ys _ => confined_ok _⟩

theorem confined_settingEntry (table : String) (fields : List (Field σ)) (defaults : σ)
    (e : Value × Value) : Confined (settingEntry table fields defaults e) := by
  unfold settingEntry
  split
  · exact confined_ok none
  · exact confined_bind.mpr ⟨confined_mapError _, fun s _ => confined_ok _⟩

theorem sectionOf_of_error {table : String} {c : ConfigFault}
    (hsection : sectionEntries entries table = .error c) : sectionOf entries table = [] := by
  unfold sectionEntries at hsection
  unfold sectionOf
  cases hget : Value.get? entries table with
  | none => rfl
  | some v =>
      rw [hget] at hsection
      cases v with
      | dict es => cases hsection
      | _ => rfl

theorem confined_sectionSettings {table : String} {fields : List (Field σ)} {defaults : σ} :
    Confined (sectionSettings entries table fields defaults) ↔ ¬OddKey (sectionOf entries table) := by
  unfold sectionSettings
  cases hsection : sectionEntries entries table with
  | error c =>
      rw [sectionOf_of_error hsection]
      exact iff_of_true (confined_config c) (by simp [OddKey])
  | ok es =>
      obtain ⟨-, rfl⟩ := sectionEntries_eq_ok_iff.mp hsection
      refine confined_bind.trans ⟨fun hconfined => ?_, fun hnames => ?_⟩
      · exact confined_refuseUnknown.mp (confined_bind.mp (hconfined.2 _ rfl)).1
      · refine ⟨confined_ok _, fun es hes => ?_⟩
        cases hes
        refine confined_bind.mpr ⟨confined_refuseUnknown.mpr hnames, fun _ _ => ?_⟩
        exact confined_filterMapM fun e _ => confined_settingEntry table fields defaults e

/-- The options of a section are made or refused, unless it has a key that is no name. -/
theorem confined_sectionOptions {flags : List (String × Bool)} {table : String}
    {fields : List (Field σ)} {defaults : σ} {check : σ → Except OptionFault σ} :
    Confined (sectionOptions entries flags table fields defaults check) ↔
      ¬OddKey (sectionOf entries table) := by
  refine confined_bind.trans (.trans (and_iff_left fun settings _ => ?_) confined_sectionSettings)
  dsimp only
  generalize check _ = checked
  cases checked with
  | error c => exact confined_config _
  | ok o => exact confined_ok o

/-- Options come to something beneath: a key at the top is no name, or all sections are known and a key
in one of them is none, that for the writer if the options of the reader can be made. -/
inductive OptionsGiveWay (entries : Entries) (flags : List (String × Bool)) : Prop
  | top : OddKey entries → OptionsGiveWay entries flags
  | reader : (∀ e ∈ entries, ∃ name ∈ sectionNames, e.1 = .str (Text.ofString name)) →
      OddKey (sectionOf entries "markdown") → OptionsGiveWay entries flags
  | writer {o : Markdown.ParseOptions} :
      (∀ e ∈ entries, ∃ name ∈ sectionNames, e.1 = .str (Text.ofString name)) →
      sectionOptions entries flags "markdown" Markdown.ParseOptions.fields {}
        Markdown.ParseOptions.check = .ok o →
      OddKey (sectionOf entries "latex") → OptionsGiveWay entries flags

theorem confined_options {flags : List (String × Bool)} :
    Confined (options entries flags) ↔ ¬OptionsGiveWay entries flags := by
  constructor
  · intro hconfined
    obtain ⟨htop, hsections⟩ := confined_bind.mp hconfined
    rintro (hodd | ⟨hknown, hodd⟩ | ⟨hknown, hreader, hodd⟩)
    · exact confined_refuseUnknown.mp htop hodd
    · have hreader := (confined_bind.mp (hsections () (refuseUnknown_eq_ok_iff.mpr hknown))).1
      exact confined_sectionOptions.mp hreader hodd
    · have hrest := (confined_bind.mp (hsections () (refuseUnknown_eq_ok_iff.mpr hknown))).2
      have hwriter := (confined_bind.mp (hrest _ hreader)).1
      exact confined_sectionOptions.mp hwriter hodd
  · intro hnone
    refine confined_bind.mpr ⟨confined_refuseUnknown.mpr fun hodd => hnone (.top hodd), ?_⟩
    intro _ hknown
    have hknown := refuseUnknown_eq_ok_iff.mp hknown
    refine confined_bind.mpr ⟨confined_sectionOptions.mpr fun hodd => hnone (.reader hknown hodd), ?_⟩
    intro reader hreader
    refine confined_bind.mpr ⟨confined_sectionOptions.mpr fun hodd =>
      hnone (.writer hknown hreader hodd), fun _ _ => confined_ok _⟩

end Config

theorem Command.confined_optionsOf {vs : Values} {es : Entries} :
    Confined ((optionsOf vs es).runOn h).1 ↔ ¬Config.OptionsGiveWay es (fieldFlags vs) := by
  rw [← Config.confined_options, optionsOf]
  cases Config.options es (fieldFlags vs) <;> rfl

/-! ## Contents that give way -/

namespace Config

/-- The text of a file comes to something beneath: an integer in it is too long, or the tools of its
project are no table. -/
def TextGivesWay : ConfigFormat → List Char → Prop
  | .toml, cs => ∃ n, Toml.read cs = .error (.longNumber n)
  | .yaml, _ => False
  | .json, cs => ∃ n line column offset,
      Json.read (unifyLineEnds cs) = .error ⟨.longNumber n, line, column, offset⟩
  | .project, cs => (∃ n, Toml.read cs = .error (.longNumber n)) ∨
      ∃ es v, Toml.read cs = .ok es ∧ Value.get? es "tool" = some v ∧ ∀ own, v ≠ .dict own

/-- The content of a file comes to something beneath. In TOML and JSON its bytes are not UTF-8, its text
is nested too deeply for the reader, or the text gives way; in YAML the reader fails otherwise than by
refusing the text. -/
inductive ContentGivesWay (k : Platform) (bs : List UInt8) : ConfigFormat → Prop
  | bytes {format : ConfigFormat} {bad : Encoding.BadBytes} : format ≠ .yaml →
      Encoding.utf8Decode bs = .error bad → ContentGivesWay k bs format
  | depth {format : ConfigFormat} {cs : List Char} {r : Refusal} : format ≠ .yaml →
      Encoding.utf8Decode bs = .ok cs → k.tooDeep format cs = some r → ContentGivesWay k bs format
  | text {format : ConfigFormat} {cs : List Char} : Encoding.utf8Decode bs = .ok cs →
      k.tooDeep format cs = none → TextGivesWay format cs → ContentGivesWay k bs format
  | value {f : Fault} : k.yaml bs = .error (.beneath f) → ContentGivesWay k bs .yaml
  | refused {r : Refusal} : k.yaml bs = .error (.refused r) → ContentGivesWay k bs .yaml

/-- The file at a path comes to something beneath: it is opened, and its content does. -/
def GivesWay (k : Platform) (p : Path) (format : ConfigFormat) (bs : List UInt8) : Prop :=
  k.opening p = none ∧ ContentGivesWay k bs format

variable {k : Platform} {bs : List UInt8} {p : Path} {format : ConfigFormat}

/-- The ways of giving way that come before the text is read. -/
theorem contentGivesWay_iff_of_text {cs : List Char} (hcs : Encoding.utf8Decode bs = .ok cs)
    (hdepth : k.tooDeep format cs = none) (hformat : format ≠ .yaml) :
    ContentGivesWay k bs format ↔ TextGivesWay format cs := by
  refine ⟨fun hway => ?_, .text hcs hdepth⟩
  cases hway with
  | bytes _ hbad => rw [hcs] at hbad; cases hbad
  | depth _ hcs' hdeep =>
      rw [hcs] at hcs'
      cases hcs'
      rw [hdepth] at hdeep
      cases hdeep
  | text hcs' _ hway =>
      rw [hcs] at hcs'
      cases hcs'
      exact hway
  | value | refused => exact absurd rfl hformat

/-- What is read from the text of a file is confined for all bytes if it is for every text. -/
theorem confined_fileText_bind {read : List Char → Except Error α} (hformat : format ≠ .yaml)
    (hread : ∀ cs, Confined (read cs) ↔ ¬TextGivesWay format cs) :
    Confined (fileText k format bs >>= read) ↔ ¬ContentGivesWay k bs format := by
  cases hcs : Encoding.utf8Decode bs with
  | error bad =>
      have htext : fileText k format bs = .error (.beneath (.badBytes ⟨"utf-8", bad⟩)) := by
        simp [fileText, Encoding.withName, hcs, Except.mapError]
      rw [htext]
      exact iff_of_false (not_confined_beneath _) fun hnone => hnone (.bytes hformat hcs)
  | ok cs =>
      cases hdepth : k.tooDeep format cs with
      | some r =>
          have htext : fileText k format bs = .error (.refused r) := by
            simp [fileText, Encoding.withName, hcs, Except.mapError, hdepth]
          rw [htext]
          exact iff_of_false (not_confined_refused r) fun hnone => hnone (.depth hformat hcs hdepth)
      | none =>
          have htext : fileText k format bs = .ok cs := by
            simp [fileText, Encoding.withName, hcs, Except.mapError, hdepth]
          rw [htext, contentGivesWay_iff_of_text hcs hdepth hformat, ← hread cs]
          rfl

theorem confined_readToml : Confined (readToml k p .toml bs) ↔ ¬ContentGivesWay k bs .toml := by
  refine confined_fileText_bind nofun fun cs => ?_
  unfold TextGivesWay
  split
  next es hread => exact iff_of_true (confined_ok es) (by simp [hread])
  next n hread => exact iff_of_false (not_confined_beneath _) fun hnone => hnone ⟨n, hread⟩
  next f hother hread =>
    refine iff_of_true (confined_config _) ?_
    rintro ⟨n, hn⟩
    rw [hread] at hn
    exact hother n (Except.error.inj hn)

theorem confined_readJson : Confined (readJson k p bs) ↔ ¬ContentGivesWay k bs .json := by
  refine confined_fileText_bind nofun fun cs => ?_
  unfold TextGivesWay
  split
  next hread => exact iff_of_true (confined_ok _) (by simp [hread])
  next hread => exact iff_of_true (confined_config _) (by simp [hread])
  next hread =>
    exact iff_of_false (not_confined_beneath _) fun hnone => hnone ⟨_, _, _, _, hread⟩
  next f hother hread =>
    refine iff_of_true (confined_config _) ?_
    rintro ⟨n, line, column, offset, hn⟩
    rw [hread] at hn
    exact hother n line column offset (Except.error.inj hn)

theorem confined_readYaml : Confined (readYaml k p bs) ↔ ¬ContentGivesWay k bs .yaml := by
  have hway : ContentGivesWay k bs .yaml ↔
      (∃ f, k.yaml bs = .error (.beneath f)) ∨ ∃ r, k.yaml bs = .error (.refused r) := by
    constructor
    · rintro (⟨hformat, -⟩ | ⟨hformat, -, -⟩ | ⟨-, -, hnever⟩ | hvalue | hrefused)
      · exact absurd rfl hformat
      · exact absurd rfl hformat
      · exact hnever.elim
      · exact .inl ⟨_, hvalue⟩
      · exact .inr ⟨_, hrefused⟩
    · rintro (⟨f, hvalue⟩ | ⟨r, hrefused⟩)
      · exact .value hvalue
      · exact .refused hrefused
  rw [hway, readYaml]
  split
  next hread => exact iff_of_true (confined_ok _) (by simp [hread])
  next hread => exact iff_of_true (confined_ok _) (by simp [hread])
  next hread => exact iff_of_true (confined_config _) (by simp [hread])
  next hread => exact iff_of_true (confined_config _) (by simp [hread])
  next f hread => exact iff_of_false (not_confined_beneath f) fun hnone => hnone (.inl ⟨f, hread⟩)
  next r hread => exact iff_of_false (not_confined_refused r) fun hnone => hnone (.inr ⟨r, hread⟩)

theorem confined_projectSection {es : Entries} : Confined (projectSection p es) ↔
    ¬∃ v, Value.get? es "tool" = some v ∧ ∀ own, v ≠ .dict own := by
  unfold projectSection
  split
  next hnone => exact iff_of_true (confined_ok []) (by simp [hnone])
  next tools htools =>
    refine iff_of_true ?_ (by simp [htools])
    split
    · exact confined_ok []
    · exact confined_ok _
    · exact confined_config _
  next v hother hv =>
    exact iff_of_false (not_confined_beneath _) fun hnone => hnone ⟨v, hv, fun own => hother own⟩

theorem confined_readProject : Confined (readToml k p .project bs >>= projectSection p) ↔
    ¬ContentGivesWay k bs .project := by
  unfold readToml
  rw [bind_assoc]
  refine confined_fileText_bind nofun fun cs => ?_
  unfold TextGivesWay
  cases hread : Toml.read cs with
  | error f =>
      cases f with
      | malformed => exact iff_of_true (confined_config _) (by simp [hread])
      | longNumber n =>
          exact iff_of_false (not_confined_beneath _) fun hnone => hnone (.inl ⟨n, hread⟩)
  | ok es =>
      dsimp only
      rw [pure_bind, confined_projectSection]
      simp [hread]

/-- Reading a file comes to something beneath just if its content does once it is opened. -/
theorem confined_readFile : Confined (readFile k p format bs) ↔ ¬GivesWay k p format bs := by
  unfold readFile GivesWay
  cases k.opening p with
  | some r => exact iff_of_true (confined_config _) (by simp)
  | none =>
      rw [and_iff_right rfl]
      cases format with
      | toml => exact confined_readToml
      | yaml => exact confined_readYaml
      | json => exact confined_readJson
      | project => exact confined_readProject

end Config

/-! ## Loading a file -/

namespace Action

open Config

variable {p : Path}

theorem runOn_configAt? : (configAt? p).runOn h = (h.configAt? p, h) := by
  rw [configAt?, runOn_bind, runOn_get]
  exact runOn_liftM _ h

theorem runOn_readConfigFile {format : ConfigFormat} {bs : List UInt8} :
    (readConfigFile p format bs).runOn h = (readFile h.platform p format bs, h) := by
  rw [readConfigFile, runOn_bind, runOn_get]
  exact runOn_liftM _ h

theorem confined_noted {a : Action α} {origin : String} {message : Text} : Confined ((do
    let x ← a
    note origin message
    return x).runOn h).1 ↔ Confined (a.runOn h).1 :=
  confined_bind.trans (and_iff_left fun x _ _ => confined_ok x)

theorem not_confined_configAt? {e : Error} (hlook : h.configAt? p = .error e) :
    ¬Confined (.error e : Except Error α) := by
  unfold Host.configAt? at hlook
  split at hlook
  next r _ =>
    cases hlook
    exact not_confined_refused r
  next =>
    cases hfound : h.found? p with
    | ok entry => rw [hfound] at hlook; cases hlook
    | error f =>
        rw [hfound] at hlook
        cases hlook
        exact not_confined_beneath _

/-- Loading a file comes to something beneath just if its path cannot be looked up, or the file has a
known format and gives way. -/
theorem confined_loadConfig : Confined ((loadConfig p).runOn h).1 ↔
    (∀ e, h.configAt? p ≠ .error e) ∧ ∀ bs format, h.configAt? p = .ok (some (.file bs)) →
      formatOf? p = some format → ¬GivesWay h.platform p format bs := by
  unfold loadConfig
  rw [runOn_bind, runOn_configAt?]
  cases hlook : h.configAt? p with
  | error e => exact iff_of_false (not_confined_configAt? hlook) fun hnone => hnone.1 e rfl
  | ok e =>
      refine .trans ?_ (and_iff_right nofun).symm
      match e with
      | none => exact iff_of_true (confined_config _) (by simp)
      | some .directory => exact iff_of_true (confined_config _) (by simp)
      | some (.link _) => exact iff_of_true (confined_config _) (by simp)
      | some (.file bs) =>
          cases hformat : formatOf? p with
          | none => exact iff_of_true (confined_config _) (by simp)
          | some format =>
              have hcontent : (∀ bs' format', bs = bs' → format = format' →
                  ¬GivesWay h.platform p format' bs') ↔ ¬GivesWay h.platform p format bs :=
                ⟨fun hall => hall bs format rfl rfl, by rintro hone _ _ rfl rfl; exact hone⟩
              simp only [Except.ok.injEq, Option.some.injEq, Entry.file.injEq]
              rw [hcontent, ← confined_readFile]
              refine confined_noted.trans ?_
              rw [runOn_readConfigFile]

end Action

end MarkTex
