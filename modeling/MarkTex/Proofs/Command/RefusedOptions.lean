import MarkTex.Proofs.Command.Resolved
import MarkTex.Proofs.Config.Failures

/-!
# Options that are refused

A configuration is refused for a section that nothing knows or that is no table, for an entry that has
not the name and the type of a field, and for a text that its field cannot have once the arguments lie
over the entries. No other configuration is: then each field has the value of its argument, else that
of its entry, else its default (`optionsOf_settled`).
-/

namespace MarkTex

open Config (Value Entries)

/-- A setting as a value. -/
def Setting.value : Setting → Value
  | flag b => .bool b
  | text t => .str t

@[simp]
theorem Setting.typeName_value (s : Setting) : s.value.typeName = s.typeName := by
  cases s <;> rfl

namespace Config

theorem settingOf?_eq_some_iff {v : Value} {s : Setting} : settingOf? v = some s ↔ v = s.value := by
  cases v <;> cases s <;> simp [settingOf?, Setting.value]

/-- A value that has the type of a setting is one. -/
theorem exists_value_of_typeName {v : Value} {s : Setting} (h : v.typeName = s.typeName) :
    ∃ s' : Setting, v = s'.value := by
  cases v with
  | bool b => exact ⟨.flag b, rfl⟩
  | str t => exact ⟨.text t, rfl⟩
  | moment m => cases m <;> cases s <;> simp [Value.typeName, Setting.typeName] at h
  | null | int | float | bytes | list | set | pair | dict =>
      cases s <;> simp [Value.typeName, Setting.typeName] at h

/-! ## Sections -/

variable {σ : Type} {fields : List (Field σ)} {defaults : σ} {entries : Entries} {table : String}

/-- A section is refused: it is no table, or has an entry that is for no field or not of the type of
its field. -/
inductive SectionRefused (fields : List (Field σ)) (defaults : σ) (entries : Entries) (table : String) :
    Prop
  | noTable {v : Value} : Value.get? entries table = some v → (∀ es, v ≠ .dict es) →
      SectionRefused fields defaults entries table
  | noField {e : Value × Value} : e ∈ sectionOf entries table →
      (∀ f ∈ fields, e.1 ≠ .str (Text.ofString f.name)) →
      SectionRefused fields defaults entries table
  | otherType {e : Value × Value} {f : Field σ} : e ∈ sectionOf entries table → f ∈ fields →
      e.1 = .str (Text.ofString f.name) → e.2.typeName ≠ (f.get defaults).typeName →
      SectionRefused fields defaults entries table

theorem exists_sets_iff {e : Value × Value} : (∃ x, Sets fields defaults e x) ↔
    ∃ f ∈ fields, e.1 = .str (Text.ofString f.name) ∧ e.2.typeName = (f.get defaults).typeName := by
  constructor
  · rintro ⟨x, hkey, hvalue, f, hf, hname, htype⟩
    refine ⟨f, hf, hname ▸ hkey, ?_⟩
    rw [settingOf?_eq_some_iff.mp hvalue, Setting.typeName_value, htype]
  · rintro ⟨f, hf, hkey, htype⟩
    obtain ⟨s, hs⟩ := exists_value_of_typeName htype
    refine ⟨(f.name, s), hkey, settingOf?_eq_some_iff.mpr hs, f, hf, rfl, ?_⟩
    rw [← htype, hs, Setting.typeName_value]

/-- Two fields of one name are the same. -/
theorem field_eq_of_key (hnames : (fields.map (·.name)).Nodup) {f g : Field σ} (hf : f ∈ fields)
    (hg : g ∈ fields) {key : Value} (hkey : key = .str (Text.ofString f.name))
    (hkey' : key = .str (Text.ofString g.name)) : f = g :=
  List.inj_on_of_nodup_map hnames hf hg (ofString_inj.mp (Value.str.inj (hkey.symm.trans hkey')))

/-- A section is refused just if it cannot be read. -/
theorem sectionRefused_iff (hnames : (fields.map (·.name)).Nodup) :
    SectionRefused fields defaults entries table ↔ ¬SectionValid fields defaults entries table := by
  constructor
  · rintro hrefused hvalid
    cases hrefused with
    | noTable hv hnone =>
        obtain ⟨es, hes⟩ := hvalid.isTable _ hv
        exact hnone es hes
    | noField he hnone =>
        obtain ⟨f, hf, hkey, -⟩ := exists_sets_iff.mp (hvalid.sets _ he)
        exact hnone f hf hkey
    | otherType he hf hkey htype =>
        obtain ⟨g, hg, hkey', htype'⟩ := exists_sets_iff.mp (hvalid.sets _ he)
        obtain rfl := field_eq_of_key hnames hf hg hkey hkey'
        exact htype htype'
  · intro hvalid
    by_contra hnone
    refine hvalid ⟨fun v hv => ?_, fun e he => exists_sets_iff.mpr ?_⟩
    · by_contra htable
      exact hnone (.noTable hv (not_exists.mp htable))
    · by_contra hfield
      have hkeys : ∀ f ∈ fields, e.1 ≠ .str (Text.ofString f.name) := fun f hf hkey =>
        hfield ⟨f, hf, hkey, not_not.mp fun htype => hnone (.otherType he hf hkey htype)⟩
      exact hnone (.noField he hkeys)

end Config

namespace Command

open Config (sectionOf textIn)

/-! ## Names that no argument has -/

variable {as : List Argument} {dest : String} {p q : Progress} {a : Argument}

theorem forall_flagUses_ne (hnone : ∀ a ∈ as, a.dest ≠ dest) {following : List (String × Word)}
    {fuel n : Nat} {name : String} {attached : Option String} {uses : List (Argument × List String)}
    (ha : a.dest ≠ dest) (h : flagUses as following fuel a name attached = .ok (uses, n)) :
    ∀ use ∈ uses, use.1.dest ≠ dest := by
  fun_induction flagUses generalizing uses n with
  | case1 | case2 | case3 | case9 =>
      cases h
      exact List.forall_mem_singleton.mpr ha
  | case7 a name attached c rest fuel hattached _ hshort next b hb =>
      rename_i ih
      obtain ⟨⟨uses', n'⟩, huses, hend⟩ := except_bind_eq_ok.mp h
      cases hend
      exact List.forall_mem_cons.mpr ⟨ha, ih (hnone b (mem_of_findFlag? hb).1) huses⟩
  | case4 | case5 | case6 | case8 => exact absurd h (by simp +zetaDelta [refuseFor])

/-- Reading words leaves a value alone that no argument has. -/
theorem find_readLine_of_ne (hnone : ∀ a ∈ as, a.dest ≠ dest) {ws : List (String × Word)} {fuel : Nat}
    (hp : ∀ a ∈ p.places, a.dest ≠ dest) (hws : WellRead as ws) (h : readLine as fuel p ws = .ok q) :
    q.values.find dest = p.values.find dest := by
  fun_induction readLine generalizing q with
  | case1 =>
      cases h
      rfl
  | case2 fuel p word name attached rest ih =>
      exact ih hp (hws.of_subset (List.subset_cons_self _ _)) h
  | case3 fuel p word a name attached rest ih =>
      obtain ⟨⟨uses, n⟩, huses, h⟩ := except_bind_eq_ok.mp h
      obtain ⟨p', hgive, h⟩ := except_bind_eq_ok.mp h
      have ha := hnone a (hws _ List.mem_cons_self a name attached rfl).1
      obtain ⟨hplaces, hfind⟩ := find_giveUses (forall_flagUses_ne hnone ha huses) hgive
      have hread : WellRead as (rest.drop n) :=
        hws.of_subset fun w hw => .tail _ (List.mem_of_mem_drop hw)
      rw [ih n p' (hplaces ▸ hp) hread h, hfind]
  | case4 fuel p ws hnone hsome ihTaken ihSkipped =>
      obtain ⟨⟨p', n⟩, hfill, h⟩ := except_bind_eq_ok.mp h
      obtain ⟨hp', hfind, -⟩ := find_fillPlaces hp hfill
      dsimp only at h
      rw [← hfind]
      split at h
      next =>
        split at h
        next => exact ihTaken p' n hp' (hws.of_subset (List.drop_subset _ _)) h
        next => exact ihSkipped p' hp' (hws.of_subset (List.drop_subset _ _)) h
      next =>
        cases h
        rfl

/-- A line gives no value to a name that no argument has. -/
theorem find_readArguments_of_ne (hnone : ∀ a ∈ as, a.dest ≠ dest) {line : List String} {vs : Values}
    (h : readArguments as line = .ok vs) : vs.find dest = .null := by
  obtain ⟨ws, p, q, hws, hline, hdefaults, rfl⟩ := exists_of_readArguments h
  have hplaces : ∀ a ∈ as.filter fun a => a.flags.isEmpty, a.dest ≠ dest :=
    fun a ha => hnone a (List.mem_filter.mp ha).1
  have hinitial : initialValue as dest = .null := by
    rw [initialValue, List.find?_eq_none.mpr fun a ha => by simpa using hnone a ha]
    rfl
  rw [find_readDefaults (fun a ha hdest => absurd hdest (hnone a ha)) hdefaults,
    find_readLine_of_ne hnone hplaces (wellRead_readWords hws) hline,
    find_foldl_addDefault fun a ha hdest => absurd hdest (hnone a ha), hinitial]
  rfl

/-! ## The values of fields -/

/-- The value for a name: that of its argument, else that of its entry, else the default. -/
def chosen (vs : Values) (es : Entries) (name : String) (default : Value) : Value :=
  match vs.find name with
  | .null => (Value.get? es name).getD default
  | v => v

/-- All fields of some options have the values chosen for them. -/
def AsChosen {σ : Type} (vs : Values) (es : Entries) (fields : List (Field σ)) (defaults o : σ) :
    Prop :=
  ∀ f ∈ fields, (f.get o).value = chosen vs es f.name (f.get defaults).value

variable {σ : Type} {fields : List (Field σ)} {defaults : σ} {entries es : Entries} {table : String}
  {line : List String} {h : Host} {vs : Values} {f : Field σ} {name : String} {default t : Text}

/-- Fields that are no switches have no arguments. -/
def TextsUnnamed (fields : List (Field σ)) : Prop :=
  ∀ f ∈ fields, f.name ∉ switchNames → ∀ o ∈ origins, o.argument.dest ≠ f.name

theorem reader_textsUnnamed : TextsUnnamed Markdown.ParseOptions.fields := by
  unfold TextsUnnamed
  decide

theorem writer_textsUnnamed : TextsUnnamed Latex.RenderOptions.fields := by
  unfold TextsUnnamed
  decide

theorem find_of_textsUnnamed (hline : ((readCommandLine line).runOn h).1 = .ok (.ok vs))
    (hnames : ∀ o ∈ origins, o.argument.dest ≠ name) : vs.find name = .null := by
  refine find_readArguments_of_ne (fun a ha => ?_) (readArguments_of_readCommandLine hline)
  obtain ⟨o, ho, rfl⟩ := List.mem_map.mp ha
  rw [Origin.within_dest]
  exact hnames o ho

/-- What a line that is read has for a field is nothing or a truth value, and the latter is a flag. -/
theorem find_field (hline : ((readCommandLine line).runOn h).1 = .ok (.ok vs))
    (hunnamed : TextsUnnamed fields) (hf : f ∈ fields) :
    vs.find f.name = .null ∧ (fieldFlags vs).find? (·.1 = f.name) = none ∨
      ∃ b, vs.find f.name = .bool b ∧ (fieldFlags vs).find? (·.1 = f.name) = some (f.name, b) := by
  by_cases hname : f.name ∈ switchNames
  · have hfind := find_switch hline hname
    rw [find?_fieldFlags vs hname, fieldFlag?, hfind]
    cases said? line h.env? f.name with
    | none => exact .inl ⟨rfl, rfl⟩
    | some b => exact .inr ⟨b, rfl, rfl⟩
  · refine .inl ⟨find_of_textsUnnamed hline (hunnamed f hf hname), List.find?_eq_none.mpr ?_⟩
    intro x hx hxname
    exact hname (of_decide_eq_true hxname ▸ mem_switchNames_of_mem_fieldFlags hx)

theorem textIn_of_chosen (hnull : vs.find name = .null)
    (h : chosen vs es name (.str default) = .str t) : textIn es name default = t := by
  rw [chosen, hnull] at h
  unfold textIn
  cases hget : Value.get? es name with
  | none =>
      rw [hget] at h
      exact Value.str.inj h
  | some v =>
      rw [hget] at h
      obtain rfl : v = .str t := h
      rfl

section
variable (hline : ((readCommandLine line).runOn h).1 = .ok (.ok vs)) (hunnamed : TextsUnnamed fields)
  (hc : Field.Complete fields) (hvalid : Config.SectionValid fields defaults entries table)
include hline hunnamed hc hvalid

/-- The setting that the layers make of a field is the value chosen for it. -/
theorem value_layered (hf : f ∈ fields) :
    (Config.layered (fieldFlags vs) (sectionOf entries table) defaults f).value =
      chosen vs (sectionOf entries table) f.name (f.get defaults).value := by
  unfold Config.layered chosen
  rcases find_field hline hunnamed hf with ⟨hnone, hflag⟩ | ⟨b, hb, hflag⟩
  · rw [hnone, hflag]
    dsimp only
    cases hget : Value.get? (sectionOf entries table) f.name with
    | none => rfl
    | some v =>
        obtain ⟨s, hsetting, -⟩ := Config.settingOf?_of_get? hc.names hvalid.sets hf hget
        rw [Option.bind_some, hsetting, Config.settingOf?_eq_some_iff.mp hsetting]
        rfl
  · rw [hb, hflag]
    rfl

variable (hs : Switched fields defaults)
include hs

theorem chosen_text (hf : f ∈ fields) (ht : f.get defaults = .text default) :
    chosen vs (sectionOf entries table) f.name (.str default) =
      .str (textIn (sectionOf entries table) f.name default) := by
  have hvalue := value_layered hline hunnamed hc hvalid hf
  rw [Config.layered_text hc (hs.forSwitches vs) hvalid hf ht, ht] at hvalue
  exact hvalue.symm

theorem asChosen_of_resolved {o : σ} (hresolved : ∀ f ∈ fields,
      f.get o = settingOf line h.env? (sectionOf entries table) defaults f) :
    AsChosen vs (sectionOf entries table) fields defaults o := by
  intro f hf
  rw [hresolved f hf, ← layered_fieldFlags hline hc hs hvalid hf]
  exact value_layered hline hunnamed hc hvalid hf

end

/-! ## Whole configurations -/

/-- A configuration is refused: it has a section that nothing knows or one that is refused, or what is
chosen for a field is no encoding that is known, or a specification of columns or a width of pictures
that is blank. -/
inductive Refused (vs : Values) (entries : Entries) : Prop
  | unknownSection {e : Value × Value} : e ∈ entries →
      (∀ name ∈ Config.sectionNames, e.1 ≠ .str (Text.ofString name)) → Refused vs entries
  | reader : Config.SectionRefused Markdown.ParseOptions.fields {} entries "markdown" →
      Refused vs entries
  | writer : Config.SectionRefused Latex.RenderOptions.fields {} entries "latex" → Refused vs entries
  | encoding {t : Text} : chosen vs (sectionOf entries "markdown") "encoding"
        (.str ({} : Markdown.ParseOptions).encoding) = .str t →
      (∀ c, Encoding.Codec.named? t ≠ .ok (some c)) → Refused vs entries
  | columnSpec {t : Text} : chosen vs (sectionOf entries "latex") "column_spec"
      (.str ({} : Latex.RenderOptions).columnSpec) = .str t → t.isBlank → Refused vs entries
  | imageWidth {t : Text} : chosen vs (sectionOf entries "latex") "image_width"
      (.str ({} : Latex.RenderOptions).imageWidth) = .str t → t.isBlank → Refused vs entries

theorem find_checked (hline : ((readCommandLine line).runOn h).1 = .ok (.ok vs)) :
    vs.find "encoding" = .null ∧ vs.find "column_spec" = .null ∧ vs.find "image_width" = .null :=
  ⟨find_of_textsUnnamed hline (by decide), find_of_textsUnnamed hline (by decide),
    find_of_textsUnnamed hline (by decide)⟩

/-- With a line that is read, a configuration is refused just if it is not valid. -/
theorem refused_iff (hline : ((readCommandLine line).runOn h).1 = .ok (.ok vs)) :
    Refused vs entries ↔ ¬Config.Valid entries := by
  have hreader := Markdown.ParseOptions.fields_complete
  have hwriter := Latex.RenderOptions.fields_complete
  obtain ⟨hencoding, hspec, hwidth⟩ := find_checked hline
  constructor
  · rintro hrefused hvalid
    cases hrefused with
    | unknownSection he hnone =>
        obtain ⟨name, hname, hkey⟩ := hvalid.known _ he
        exact hnone name hname hkey
    | reader hsection => exact (Config.sectionRefused_iff hreader.names).mp hsection hvalid.reader
    | writer hsection => exact (Config.sectionRefused_iff hwriter.names).mp hsection hvalid.writer
    | encoding ht hunknown =>
        obtain ⟨c, hc⟩ := hvalid.encoding
        rw [textIn_of_chosen hencoding ht] at hc
        exact hunknown c hc
    | columnSpec ht hblank => exact hvalid.columnSpec (by rwa [textIn_of_chosen hspec ht])
    | imageWidth ht hblank => exact hvalid.imageWidth (by rwa [textIn_of_chosen hwidth ht])
  · intro hvalid
    by_contra hnone
    have hr : Config.SectionValid Markdown.ParseOptions.fields {} entries "markdown" :=
      not_not.mp fun hr => hnone (.reader ((Config.sectionRefused_iff hreader.names).mpr hr))
    have hw : Config.SectionValid Latex.RenderOptions.fields {} entries "latex" :=
      not_not.mp fun hw => hnone (.writer ((Config.sectionRefused_iff hwriter.names).mpr hw))
    refine hvalid ⟨fun e he => ?_, hr, hw, ?_, fun hblank => ?_, fun hblank => ?_⟩
    · by_contra hunknown
      exact hnone (.unknownSection he fun name hname hkey => hunknown ⟨name, hname, hkey⟩)
    · by_contra hunknown
      exact hnone (.encoding (chosen_text hline reader_textsUnnamed hreader hr reader_switched
        (List.mem_of_getElem? (i := 0) rfl) rfl) (not_exists.mp hunknown))
    · exact hnone (.columnSpec (chosen_text hline writer_textsUnnamed hwriter hw writer_switched
        (List.mem_of_getElem? (i := 5) rfl) rfl) hblank)
    · exact hnone (.imageWidth (chosen_text hline writer_textsUnnamed hwriter hw writer_switched
        (List.mem_of_getElem? (i := 3) rfl) rfl) hblank)

/-- A valid configuration makes options whose fields have the values chosen. -/
theorem exists_options_of_valid (hline : ((readCommandLine line).runOn h).1 = .ok (.ok vs))
    (hvalid : Config.Valid entries) :
    ∃ reader writer, Config.options entries (fieldFlags vs) = .ok (reader, writer) ∧
      AsChosen vs (sectionOf entries "markdown") Markdown.ParseOptions.fields {} reader ∧
      AsChosen vs (sectionOf entries "latex") Latex.RenderOptions.fields {} writer := by
  have hreader := get_resolvedReader line h.env? (sectionOf entries "markdown")
  have hwriter := get_resolvedWriter line h.env? (sectionOf entries "latex")
  have hcr := Markdown.ParseOptions.fields_complete
  have hcw := Latex.RenderOptions.fields_complete
  refine ⟨_, _, (Config.options_eq_ok_iff (reader_switched.forSwitches vs)
    (writer_switched.forSwitches vs)).mpr ⟨hvalid, fun f hf => ?_, fun f hf => ?_⟩,
    asChosen_of_resolved hline reader_textsUnnamed hcr hvalid.reader reader_switched hreader,
    asChosen_of_resolved hline writer_textsUnnamed hcw hvalid.writer writer_switched hwriter⟩
  · rw [hreader f hf, layered_fieldFlags hline hcr reader_switched hvalid.reader hf]
  · rw [hwriter f hf, layered_fieldFlags hline hcw writer_switched hvalid.writer hf]

theorem forall_sectionNames {P : String → Prop} :
    (∀ table ∈ Config.sectionNames, P table) ↔ P "markdown" ∧ P "latex" := by
  simp [Config.sectionNames]

/-- All keys of some entries are texts. -/
def TextKeys (es : Entries) : Prop := ∀ e ∈ es, ∃ t, e.1 = .str t

theorem not_oddKey_of_textKeys (h : TextKeys es) : ¬Config.OddKey es := by
  rintro ⟨e, he, hodd⟩
  obtain ⟨t, ht⟩ := h e he
  rw [ht] at hodd
  cases hodd

theorem confined_options_of_textKeys (htop : TextKeys entries)
    (hsections : ∀ table ∈ Config.sectionNames, TextKeys (sectionOf entries table))
    (flags : List (String × Bool)) : Confined (Config.options entries flags) := by
  obtain ⟨hreader, hwriter⟩ := forall_sectionNames.mp hsections
  refine Config.confined_options.mpr ?_
  rintro (hodd | ⟨-, hodd⟩ | ⟨-, -, hodd⟩)
  · exact not_oddKey_of_textKeys htop hodd
  · exact not_oddKey_of_textKeys hreader hodd
  · exact not_oddKey_of_textKeys hwriter hodd

/-- With a line that is read, a configuration whose keys are texts comes to a failure of the
configuration just if it is refused; else all fields of the options have the values chosen for them. -/
theorem optionsOf_settled {line : List String} {h : Host} {vs : Values}
    (hline : ((readCommandLine line).runOn h).1 = .ok (.ok vs)) {entries : Entries}
    (htop : TextKeys entries) (hsections : ∀ table ∈ Config.sectionNames,
      TextKeys (sectionOf entries table)) (h' : Host) :
    ((∃ c, ((optionsOf vs entries).runOn h').1 = .error (.config c)) ↔ Refused vs entries) ∧
    (¬Refused vs entries → ∃ reader writer,
      (optionsOf vs entries).runOn h' = (.ok (reader, writer), h') ∧
      AsChosen vs (sectionOf entries "markdown") Markdown.ParseOptions.fields {} reader ∧
      AsChosen vs (sectionOf entries "latex") Latex.RenderOptions.fields {} writer) := by
  rw [refused_iff hline, not_not, optionsOf]
  have hconfined := confined_options_of_textKeys htop hsections (fieldFlags vs)
  cases hoptions : Config.options entries (fieldFlags vs) with
  | ok o =>
      have hvalid := ((Config.options_eq_ok_iff (reader_switched.forSwitches vs)
        (writer_switched.forSwitches vs)).mp hoptions).1
      obtain ⟨reader, writer, hmade, hfields⟩ := exists_options_of_valid hline hvalid
      cases hoptions.symm.trans hmade
      refine ⟨iff_of_false ?_ (not_not.mpr hvalid), fun _ => ⟨reader, writer, rfl, hfields⟩⟩
      rintro ⟨c, hc⟩
      cases hc
  | error e =>
      have hvalid : ¬Config.Valid entries := fun hvalid => by
        obtain ⟨_, _, hmade, -⟩ := exists_options_of_valid hline hvalid
        cases hoptions.symm.trans hmade
      obtain ⟨c, rfl⟩ := hconfined e hoptions
      exact ⟨iff_of_true ⟨c, rfl⟩ hvalid, fun h => absurd h hvalid⟩

/-- A configuration with a number for a switch. -/
def numberConfig : Entries :=
  [(textValue "latex", .dict [(textValue "restore_math", .int 0)])]

/-- A number for a switch is refused, also if the flag of the switch is given; truth values for switches
and texts for texts are not. -/
theorem numberConfig_refused : ∃ vs,
    ((readCommandLine ["--no-restore-math", "a.md"]).runOn mixedHost).1 = .ok (.ok vs) ∧
      (∃ c, ((optionsOf vs numberConfig).runOn mixedHost).1 = .error (.config c)) ∧
      ∃ reader writer, (optionsOf vs mixedConfig).runOn mixedHost = (.ok (reader, writer), mixedHost) ∧
        AsChosen vs mixedReader Markdown.ParseOptions.fields {} reader ∧
        AsChosen vs mixedWriter Latex.RenderOptions.fields {} writer := by
  have hread : (lineValues? ["--no-restore-math", "a.md"] mixedHost).isSome := by decide +kernel
  obtain ⟨vs, hvs⟩ := Option.isSome_iff_exists.mp hread
  have hline := eq_of_lineValues? hvs
  have hnumber : TextKeys numberConfig ∧ TextKeys (sectionOf numberConfig "markdown") ∧
      TextKeys (sectionOf numberConfig "latex") :=
    ⟨by simp [TextKeys, numberConfig, textValue], nofun,
      by simp [TextKeys, numberConfig, textValue, sectionOf, Value.get?, Value.find?, Value.sameKey]⟩
  have hmixed : TextKeys mixedConfig ∧ TextKeys mixedReader ∧ TextKeys mixedWriter := by
    simp [TextKeys, mixedConfig, mixedReader, mixedWriter, textValue]
  refine ⟨vs, hline, ?_, ?_⟩
  · refine (optionsOf_settled hline hnumber.1 (forall_sectionNames.mpr hnumber.2) mixedHost).1.mpr ?_
    exact .writer (.otherType (e := (textValue "restore_math", .int 0)) (.head _)
      (List.mem_of_getElem? (i := 1) rfl) rfl (by decide))
  · refine (optionsOf_settled hline hmixed.1 (forall_sectionNames.mpr hmixed.2) mixedHost).2 ?_
    exact fun hrefused => (refused_iff hline).mp hrefused mixedConfig_valid

end Command

end MarkTex
