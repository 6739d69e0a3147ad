import Mathlib.Data.List.Forall2
import Mathlib.Data.List.Nodup
import MarkTex.Settings.FromConfig

/-!
# The layers of options

Flags lie over a configuration and a configuration lies over the defaults, field by field. A
configuration is read just if it is valid (`Config.options_eq_ok_iff`), and then every field has the
setting of its flag, else that of its own entry, else its default.
-/

namespace MarkTex

open Config (Value)

variable {σ : Type} {fields : List (Field σ)} {f : Field σ}

/-! ## Fields -/

/-- Fields that options consist of: they are told apart by their names, do not touch one another, and
leave nothing out. -/
structure Field.Complete (fields : List (Field σ)) : Prop where
  names : (fields.map (·.name)).Nodup
  own : ∀ f ∈ fields, ∀ s o, s.typeName = (f.get o).typeName → f.get (f.set s o) = s
  others : fields.Pairwise fun f g =>
    ∀ s o, f.get (g.set s o) = f.get o ∧ g.get (f.set s o) = g.get o
  ext : ∀ o o', (∀ f ∈ fields, f.get o = f.get o') → o = o'

theorem Field.own_ofFlag {name : String} {get : σ → Bool} {set : Bool → σ → σ}
    (h : ∀ b o, get (set b o) = b) (s : Setting) (o : σ)
    (hs : s.typeName = ((Field.ofFlag name get set).get o).typeName) :
    (Field.ofFlag name get set).get ((Field.ofFlag name get set).set s o) = s := by
  cases s with
  | flag b => exact congrArg Setting.flag (h b o)
  | text t => exact absurd hs (by decide : "str" ≠ "bool")

theorem Field.own_ofText {name : String} {get : σ → Text} {set : Text → σ → σ}
    (h : ∀ t o, get (set t o) = t) (s : Setting) (o : σ)
    (hs : s.typeName = ((Field.ofText name get set).get o).typeName) :
    (Field.ofText name get set).get ((Field.ofText name get set).set s o) = s := by
  cases s with
  | flag b => exact absurd hs (by decide : "bool" ≠ "str")
  | text t => exact congrArg Setting.text (h t o)

theorem Markdown.ParseOptions.fields_complete : Field.Complete Markdown.ParseOptions.fields where
  names := by decide
  own := by
    simp only [fields, List.forall_mem_cons]
    exact ⟨Field.own_ofText fun _ _ => rfl, Field.own_ofFlag fun _ _ => rfl,
      Field.own_ofFlag fun _ _ => rfl, Field.own_ofFlag fun _ _ => rfl,
      Field.own_ofFlag fun _ _ => rfl, Field.own_ofText fun _ _ => rfl, by simp⟩
  others := by
    simp only [fields, List.pairwise_cons, List.forall_mem_cons, List.not_mem_nil, false_implies,
      implies_true, List.Pairwise.nil, and_true]
    and_intros <;> intro s o <;> cases s <;> exact ⟨rfl, rfl⟩
  ext := by
    intro o o' h
    cases o
    cases o'
    simpa [fields, Field.ofText, Field.ofFlag] using h

theorem Latex.RenderOptions.fields_complete : Field.Complete Latex.RenderOptions.fields where
  names := by decide
  own := by
    simp only [fields, List.forall_mem_cons]
    exact ⟨Field.own_ofFlag fun _ _ => rfl, Field.own_ofFlag fun _ _ => rfl,
      Field.own_ofText fun _ _ => rfl, Field.own_ofText fun _ _ => rfl,
      Field.own_ofText fun _ _ => rfl, Field.own_ofText fun _ _ => rfl, by simp⟩
  others := by
    simp only [fields, List.pairwise_cons, List.forall_mem_cons, List.not_mem_nil, false_implies,
      implies_true, List.Pairwise.nil, and_true]
    and_intros <;> intro s o <;> cases s <;> exact ⟨rfl, rfl⟩
  ext := by
    intro o o' h
    cases o
    cases o'
    simpa [fields, Field.ofText, Field.ofFlag] using h

theorem Field.get_overlay_of_apart (hapart : ∀ g ∈ fields, ∀ s o, f.get (g.set s o) = f.get o)
    (settings : List (String × Setting)) (o : σ) :
    f.get (Field.overlay fields settings o) = f.get o := by
  unfold Field.overlay
  induction fields generalizing o with
  | nil => rfl
  | cons g fields ih =>
      obtain ⟨hg, hothers⟩ := List.forall_mem_cons.mp hapart
      rw [List.foldl_cons, ih hothers, Field.assign]
      split
      · exact hg _ o
      · rfl

/-- A field has the setting that is laid over it, if it is of the type of the field. -/
theorem Field.get_overlay
    (hown : ∀ f ∈ fields, ∀ s o, s.typeName = (f.get o).typeName → f.get (f.set s o) = s)
    (hothers : fields.Pairwise fun f g =>
      ∀ s o, f.get (g.set s o) = f.get o ∧ g.get (f.set s o) = g.get o)
    (hf : f ∈ fields) {settings : List (String × Setting)} {o : σ}
    (hfit : ∀ x, settings.find? (·.1 = f.name) = some x → x.2.typeName = (f.get o).typeName) :
    f.get (Field.overlay fields settings o) =
      ((settings.find? (·.1 = f.name)).map (·.2)).getD (f.get o) := by
  induction fields generalizing o with
  | nil => cases hf
  | cons g fields ih =>
      obtain ⟨hhead, htail⟩ := List.pairwise_cons.mp hothers
      obtain ⟨hg, hown⟩ := List.forall_mem_cons.mp hown
      rcases List.mem_cons.mp hf with rfl | hf
      · -- what is put into the fields behind does not touch the first
        have hrest := Field.get_overlay_of_apart (fun g hg s o => (hhead g hg s o).1) settings
          (Field.assign settings o f)
        refine hrest.trans ?_
        rw [Field.assign]
        cases hfind : settings.find? (·.1 = f.name) with
        | none => rfl
        | some x => exact hg x.2 o (hfit x hfind)
      · have hsame : f.get (Field.assign settings o g) = f.get o := by
          rw [Field.assign]
          split
          · exact (hhead f hf _ o).2
          · rfl
        have hrest := ih hown htail hf (o := Field.assign settings o g) (by rwa [hsame])
        rw [hsame] at hrest
        exact hrest

namespace Config

/-! ## Keys -/

theorem keyName?_eq_some {key : Value} {t : Text} : keyName? key = some t ↔ key = .str t := by
  cases key <;> simp [keyName?]

theorem sameKey_str {key : Value} {t : Text} : Value.sameKey key (.str t) = true ↔ key = .str t := by
  cases key <;> simp [Value.sameKey, Value.keyNumber?]

theorem ofString_inj {s t : String} : Text.ofString s = Text.ofString t ↔ s = t := by
  refine ⟨fun h => String.toList_injective ?_, congrArg _⟩
  exact List.map_injective_iff.mpr (fun a b hab => CodePoint.scalar.inj hab) h

theorem sortedNames_eq_nil {keys : List Value} : sortedNames keys = .ok [] ↔ keys = [] := by
  refine ⟨fun h => ?_, fun h => by simp [h, sortedNames]⟩
  cases keys with
  | nil => rfl
  | cons key keys =>
      unfold sortedNames at h
      split at h
      next names hnames =>
        rw [List.mapM_cons] at hnames
        obtain ⟨name, -, hnames⟩ := Option.bind_eq_some_iff.mp hnames
        obtain ⟨rest, -, hnames⟩ := Option.bind_eq_some_iff.mp hnames
        cases hnames
        have hlength := (List.mergeSort_perm (name :: rest) precedes).length_eq
        rw [Except.ok.inj h] at hlength
        cases hlength
      next =>
        split at h
        · contradiction
        · cases h
        · split at h <;> cases h

theorem unknownKeys_eq_nil {known : List String} {entries : List (Value × Value)} :
    unknownKeys known entries = [] ↔
      ∀ e ∈ entries, ∃ name ∈ known, e.1 = .str (Text.ofString name) := by
  simp only [unknownKeys, List.filter_eq_nil_iff, List.mem_map, Bool.not_eq_true', Bool.not_eq_false,
    List.any_eq_true, decide_eq_true_eq, keyName?_eq_some]
  exact ⟨fun h e he => h e.1 ⟨e, he, rfl⟩, fun h key ⟨e, he, hkey⟩ => hkey ▸ h e he⟩

/-- Entries are let through just if every key is one of the names. -/
theorem refuseUnknown_eq_ok_iff {known : List String} {fault : List Text → ConfigFault}
    {entries : List (Value × Value)} : refuseUnknown known fault entries = .ok () ↔
      ∀ e ∈ entries, ∃ name ∈ known, e.1 = .str (Text.ofString name) := by
  rw [← unknownKeys_eq_nil, ← sortedNames_eq_nil, refuseUnknown]
  cases sortedNames (unknownKeys known entries) with
  | error e => exact ⟨nofun, nofun⟩
  | ok names =>
      cases names with
      | nil => exact ⟨fun _ => rfl, fun _ => rfl⟩
      | cons name names => exact ⟨nofun, nofun⟩

/-! ## Sections -/

/-- The entries of a section; a section that is no table has none. -/
def sectionOf (entries : List (Value × Value)) (table : String) : List (Value × Value) :=
  match Value.get? entries table with
  | some (.dict es) => es
  | _ => []

/-- Whether an entry of a section sets the field of a name to a setting of its type. -/
def Sets (fields : List (Field σ)) (defaults : σ) (e : Value × Value) (x : String × Setting) : Prop :=
  e.1 = .str (Text.ofString x.1) ∧ settingOf? e.2 = some x.2 ∧
    ∃ f ∈ fields, f.name = x.1 ∧ x.2.typeName = (f.get defaults).typeName

variable {defaults : σ} {table : String} {entries es : List (Value × Value)}
  {settings : List (String × Setting)}

theorem sectionEntries_eq_ok_iff : sectionEntries entries table = .ok es ↔
    (∀ v, Value.get? entries table = some v → ∃ es, v = .dict es) ∧ es = sectionOf entries table := by
  unfold sectionEntries sectionOf
  cases Value.get? entries table with
  | none => simp [eq_comm]
  | some v => cases v <;> simp [eq_comm]

theorem Sets.iff_of_key (hnames : (fields.map (·.name)).Nodup) (hf : f ∈ fields) {e : Value × Value}
    (hkey : e.1 = .str (Text.ofString f.name)) {x : String × Setting} :
    Sets fields defaults e x ↔
      x.1 = f.name ∧ settingOf? e.2 = some x.2 ∧ x.2.typeName = (f.get defaults).typeName := by
  constructor
  · rintro ⟨hx, hvalue, g, hg, hname, htype⟩
    have hxname : f.name = x.1 := ofString_inj.mp (Value.str.inj (hkey.symm.trans hx))
    obtain rfl : g = f := List.inj_on_of_nodup_map hnames hg hf (hname.trans hxname.symm)
    exact ⟨hname.symm, hvalue, htype⟩
  · rintro ⟨hx, hvalue, htype⟩
    exact ⟨hx ▸ hkey, hvalue, f, hf, hx.symm, htype⟩

theorem find?_field (hnames : (fields.map (·.name)).Nodup) (hf : f ∈ fields) {key : Value}
    (hkey : key = .str (Text.ofString f.name)) :
    (fields.find? fun g => keyName? key = some (Text.ofString g.name)) = some f := by
  cases hfind : fields.find? fun g => keyName? key = some (Text.ofString g.name) with
  | none => exact absurd (by simp [hkey, keyName?]) (List.find?_eq_none.mp hfind f hf)
  | some g =>
      have hname : f.name = g.name := by simpa [hkey, keyName?, ofString_inj] using List.find?_some hfind
      exact congrArg some
        (List.inj_on_of_nodup_map hnames (List.mem_of_find?_eq_some hfind) hf hname.symm)

theorem settingEntry_eq_ok_iff (hnames : (fields.map (·.name)).Nodup) (hf : f ∈ fields)
    {e : Value × Value} (hkey : e.1 = .str (Text.ofString f.name)) {x? : Option (String × Setting)} :
    settingEntry table fields defaults e = .ok x? ↔ ∃ x, x? = some x ∧ Sets fields defaults e x := by
  simp only [Sets.iff_of_key hnames hf hkey]
  rw [settingEntry, find?_field hnames hf hkey]
  dsimp only [settingFor]
  cases settingOf? e.2 with
  | none => exact ⟨nofun, fun ⟨_, _, _, hvalue, _⟩ => nomatch hvalue⟩
  | some s =>
      dsimp only
      split
      next htype =>
        constructor
        · rintro h
          cases h
          exact ⟨(f.name, s), rfl, rfl, rfl, htype⟩
        · rintro ⟨⟨name, s'⟩, rfl, rfl, hvalue, -⟩
          cases hvalue
          rfl
      next htype =>
        refine ⟨nofun, ?_⟩
        rintro ⟨⟨name, s'⟩, rfl, rfl, hvalue, hfit⟩
        cases hvalue
        exact absurd hfit htype

theorem settingEntries_eq_ok_iff (hnames : (fields.map (·.name)).Nodup)
    (hknown : ∀ e ∈ es, ∃ f ∈ fields, e.1 = .str (Text.ofString f.name)) :
    es.filterMapM (settingEntry table fields defaults) = .ok settings ↔
      List.Forall₂ (Sets fields defaults) es settings := by
  induction es generalizing settings with
  | nil => simp [pure, Except.pure, eq_comm]
  | cons e es ih =>
      obtain ⟨⟨f, hf, hkey⟩, hknown⟩ := List.forall_mem_cons.mp hknown
      rw [List.filterMapM_cons, except_bind_eq_ok, List.forall₂_cons_left_iff]
      constructor
      · rintro ⟨x?, hx, h⟩
        obtain ⟨x, rfl, hsets⟩ := (settingEntry_eq_ok_iff hnames hf hkey).mp hx
        obtain ⟨rest, hrest, hend⟩ := except_bind_eq_ok.mp h
        cases hend
        exact ⟨x, rest, hsets, (ih hknown).mp hrest, rfl⟩
      · rintro ⟨x, rest, hsets, hrest, rfl⟩
        refine ⟨some x, (settingEntry_eq_ok_iff hnames hf hkey).mpr ⟨x, rfl, hsets⟩, ?_⟩
        exact except_bind_eq_ok.mpr ⟨rest, (ih hknown).mpr hrest, rfl⟩

/-- The settings of a section have for the name of a field what its entry of that name says. -/
theorem find?_settings (h : List.Forall₂ (Sets fields defaults) es settings) (name : String) :
    (settings.find? (·.1 = name)).map (·.2) = (Value.get? es name).bind settingOf? := by
  unfold Value.get? Value.find?
  induction h with
  | nil => rfl
  | @cons e x es settings hsets _ ih =>
      obtain ⟨hkey, hvalue, -⟩ := hsets
      by_cases hname : x.1 = name
      · have hsame : Value.sameKey e.1 (.str (Text.ofString name)) = true :=
          sameKey_str.mpr (hname ▸ hkey)
        simp [hname, hsame, hvalue]
      · have hother : ¬ Value.sameKey e.1 (.str (Text.ofString name)) = true := fun hsame =>
          hname (ofString_inj.mp (Value.str.inj (hkey.symm.trans (sameKey_str.mp hsame))))
        simpa [hname, hother] using ih

theorem exists_of_forall₂ {α β : Type} {R : α → β → Prop} {xs : List α} {ys : List β}
    (h : List.Forall₂ R xs ys) : ∀ x ∈ xs, ∃ y ∈ ys, R x y := by
  induction h with
  | nil => exact fun x hx => absurd hx List.not_mem_nil
  | cons hhead _ ih =>
      refine List.forall_mem_cons.mpr ⟨⟨_, List.mem_cons_self, hhead⟩, fun x hx => ?_⟩
      obtain ⟨y, hy, hxy⟩ := ih x hx
      exact ⟨y, List.mem_cons_of_mem _ hy, hxy⟩

theorem forall₂_of_exists {α β : Type} {R : α → β → Prop} {xs : List α}
    (h : ∀ x ∈ xs, ∃ y, R x y) : ∃ ys, List.Forall₂ R xs ys := by
  induction xs with
  | nil => exact ⟨[], .nil⟩
  | cons x xs ih =>
      obtain ⟨⟨y, hy⟩, hxs⟩ := List.forall_mem_cons.mp h
      obtain ⟨ys, hys⟩ := ih hxs
      exact ⟨y :: ys, .cons hy hys⟩

theorem typeName_of_find?_settings (hnames : (fields.map (·.name)).Nodup)
    (h : List.Forall₂ (Sets fields defaults) es settings) (hf : f ∈ fields) {x : String × Setting}
    (hfind : settings.find? (·.1 = f.name) = some x) :
    x.2.typeName = (f.get defaults).typeName := by
  have hname : x.1 = f.name := by simpa using List.find?_some hfind
  obtain ⟨e, -, -, -, g, hg, hgname, htype⟩ :=
    exists_of_forall₂ h.flip x (List.mem_of_find?_eq_some hfind)
  obtain rfl : g = f := List.inj_on_of_nodup_map hnames hg hf (hgname.trans hname)
  exact htype

/-- A section is read just if it is a table, if it is there, and every entry sets a field. -/
theorem sectionSettings_eq_ok_iff (hnames : (fields.map (·.name)).Nodup) :
    sectionSettings entries table fields defaults = .ok settings ↔
      (∀ v, Value.get? entries table = some v → ∃ es, v = .dict es) ∧
        List.Forall₂ (Sets fields defaults) (sectionOf entries table) settings := by
  unfold sectionSettings
  constructor
  · intro h
    obtain ⟨es, hes, h⟩ := except_bind_eq_ok.mp h
    obtain ⟨_, hknown, h⟩ := except_bind_eq_ok.mp h
    obtain ⟨htable, rfl⟩ := sectionEntries_eq_ok_iff.mp (except_mapError_eq_ok.mp hes)
    have hfields := refuseUnknown_eq_ok_iff.mp hknown
    simp only [List.mem_map, exists_exists_and_eq_and] at hfields
    exact ⟨htable, (settingEntries_eq_ok_iff hnames hfields).mp h⟩
  · rintro ⟨htable, h⟩
    have hfields : ∀ e ∈ sectionOf entries table, ∃ f ∈ fields, e.1 = .str (Text.ofString f.name) := by
      intro e he
      obtain ⟨x, -, hkey, -, f, hf, hname, -⟩ := exists_of_forall₂ h e he
      exact ⟨f, hf, hname ▸ hkey⟩
    have hes := sectionEntries_eq_ok_iff.mpr ⟨htable, rfl⟩
    refine except_bind_eq_ok.mpr ⟨_, except_mapError_eq_ok.mpr hes, ?_⟩
    refine except_bind_eq_ok.mpr ⟨(), refuseUnknown_eq_ok_iff.mpr ?_, ?_⟩
    · simpa only [List.mem_map, exists_exists_and_eq_and] using hfields
    · exact (settingEntries_eq_ok_iff hnames hfields).mpr h

/-! ## Layers -/

/-- The setting of a field: that of a flag, else that of the section, else that among the defaults. -/
def layered (flags : List (String × Bool)) (es : List (Value × Value)) (defaults : σ) (f : Field σ) :
    Setting :=
  match flags.find? (·.1 = f.name) with
  | some x => .flag x.2
  | none => ((Value.get? es f.name).bind settingOf?).getD (f.get defaults)

/-- Whether flags are for switches, as far as they are for fields. -/
def ForSwitches (flags : List (String × Bool)) (fields : List (Field σ)) (defaults : σ) : Prop :=
  ∀ x ∈ flags, ∀ f ∈ fields, f.name = x.1 → (f.get defaults).typeName = "bool"

/-- The settings of a section below flags, laid over the defaults, make of each field what its layers
say. -/
theorem get_overlay_layered (hc : Field.Complete fields) {flags : List (String × Bool)}
    (hflags : ForSwitches flags fields defaults)
    (h : List.Forall₂ (Sets fields defaults) es settings) (hf : f ∈ fields) :
    f.get (Field.overlay fields ((flags.map fun x => (x.1, Setting.flag x.2)) ++ settings) defaults) =
      layered flags es defaults f := by
  have hfind : ((flags.map fun x => (x.1, Setting.flag x.2)) ++ settings).find? (·.1 = f.name) =
      match flags.find? (·.1 = f.name) with
      | some x => some (x.1, .flag x.2)
      | none => settings.find? (·.1 = f.name) := by
    rw [List.find?_append, List.find?_map]
    simp only [Function.comp_def]
    cases flags.find? (·.1 = f.name) <;> rfl
  rw [Field.get_overlay hc.own hc.others hf, hfind, layered]
  · cases flags.find? (·.1 = f.name) with
    | none => exact congrArg (Option.getD · (f.get defaults)) (find?_settings h f.name)
    | some x => rfl
  · intro x hx
    rw [hfind] at hx
    cases hflag : flags.find? (·.1 = f.name) with
    | none =>
        rw [hflag] at hx
        exact typeName_of_find?_settings hc.names h hf hx
    | some y =>
        rw [hflag] at hx
        cases hx
        have hname : y.1 = f.name := by simpa using List.find?_some hflag
        exact (hflags y (List.mem_of_find?_eq_some hflag) f hf hname.symm).symm

/-- A section that can be read: it is a table, if it is there, and every entry sets a field. -/
structure SectionValid (fields : List (Field σ)) (defaults : σ) (entries : List (Value × Value))
    (table : String) : Prop where
  isTable : ∀ v, Value.get? entries table = some v → ∃ es, v = .dict es
  sets : ∀ e ∈ sectionOf entries table, ∃ x, Sets fields defaults e x

/-- Options are made of a section just if it can be read and they pass their check; their fields are
what the layers say. -/
theorem sectionOptions_eq_ok_iff (hc : Field.Complete fields) {flags : List (String × Bool)}
    (hflags : ForSwitches flags fields defaults) {check : σ → Except OptionFault σ} {usable : σ → Prop}
    (hcheck : ∀ o o', check o = .ok o' ↔ usable o' ∧ o = o') {o : σ} :
    sectionOptions entries flags table fields defaults check = .ok o ↔
      SectionValid fields defaults entries table ∧ usable o ∧
        ∀ f ∈ fields, f.get o = layered flags (sectionOf entries table) defaults f := by
  unfold sectionOptions
  rw [except_bind_eq_ok]
  simp only [except_mapError_eq_ok, hcheck, sectionSettings_eq_ok_iff hc.names]
  constructor
  · rintro ⟨settings, ⟨htable, hsettings⟩, husable, rfl⟩
    refine ⟨⟨htable, fun e he => ?_⟩, husable, fun f hf => get_overlay_layered hc hflags hsettings hf⟩
    obtain ⟨x, -, hx⟩ := exists_of_forall₂ hsettings e he
    exact ⟨x, hx⟩
  · rintro ⟨hvalid, husable, hfields⟩
    obtain ⟨settings, hsettings⟩ := forall₂_of_exists hvalid.sets
    refine ⟨settings, ⟨hvalid.isTable, hsettings⟩, husable, hc.ext _ _ fun f hf => ?_⟩
    rw [get_overlay_layered hc hflags hsettings hf, hfields f hf]

/-! ## Switches and texts -/

/-- The truth value that a section has for a field, else the default. -/
def switchIn (es : List (Value × Value)) (name : String) (default : Bool) : Bool :=
  match Value.get? es name with
  | some (.bool b) => b
  | _ => default

/-- The text that a section has for a field, else the default. -/
def textIn (es : List (Value × Value)) (name : String) (default : Text) : Text :=
  match Value.get? es name with
  | some (.str t) => t
  | _ => default

theorem settingOf?_of_get? (hnames : (fields.map (·.name)).Nodup)
    (hsets : ∀ e ∈ es, ∃ x, Sets fields defaults e x) (hf : f ∈ fields) {v : Value}
    (hv : Value.get? es f.name = some v) :
    ∃ s, settingOf? v = some s ∧ s.typeName = (f.get defaults).typeName := by
  obtain ⟨e, hfind, rfl⟩ := Option.map_eq_some_iff.mp hv
  have hkey : e.1 = .str (Text.ofString f.name) := sameKey_str.mp (by simpa using List.find?_some hfind)
  obtain ⟨x, hx⟩ := hsets e (List.mem_of_find?_eq_some hfind)
  obtain ⟨-, hvalue, htype⟩ := (Sets.iff_of_key hnames hf hkey).mp hx
  exact ⟨x.2, hvalue, htype⟩

theorem section_switch (hnames : (fields.map (·.name)).Nodup)
    (hsets : ∀ e ∈ es, ∃ x, Sets fields defaults e x) (hf : f ∈ fields) {b : Bool}
    (hb : f.get defaults = .flag b) :
    ((Value.get? es f.name).bind settingOf?).getD (f.get defaults) = .flag (switchIn es f.name b) := by
  unfold switchIn
  cases hv : Value.get? es f.name with
  | none => exact hb
  | some v =>
      obtain ⟨s, hs, htype⟩ := settingOf?_of_get? hnames hsets hf hv
      rw [hb] at htype
      cases v with
      | bool => rfl
      | str =>
          cases hs
          exact absurd htype (by decide : "str" ≠ "bool")
      | _ => cases hs

theorem section_text (hnames : (fields.map (·.name)).Nodup)
    (hsets : ∀ e ∈ es, ∃ x, Sets fields defaults e x) (hf : f ∈ fields) {t : Text}
    (ht : f.get defaults = .text t) :
    ((Value.get? es f.name).bind settingOf?).getD (f.get defaults) = .text (textIn es f.name t) := by
  unfold textIn
  cases hv : Value.get? es f.name with
  | none => exact ht
  | some v =>
      obtain ⟨s, hs, htype⟩ := settingOf?_of_get? hnames hsets hf hv
      rw [ht] at htype
      cases v with
      | str => rfl
      | bool =>
          cases hs
          exact absurd htype (by decide : "bool" ≠ "str")
      | _ => cases hs

theorem layered_text (hc : Field.Complete fields) {flags : List (String × Bool)}
    (hflags : ForSwitches flags fields defaults) (hvalid : SectionValid fields defaults entries table)
    (hf : f ∈ fields) {t : Text} (ht : f.get defaults = .text t) :
    layered flags (sectionOf entries table) defaults f =
      .text (textIn (sectionOf entries table) f.name t) := by
  have hnone : flags.find? (·.1 = f.name) = none := by
    refine List.find?_eq_none.mpr fun x hx hname => ?_
    have htype := hflags x hx f hf (of_decide_eq_true hname).symm
    rw [ht] at htype
    exact absurd htype (by decide : "str" ≠ "bool")
  rw [layered, hnone]
  exact section_text hc.names hvalid.sets hf ht

theorem layered_switch (hc : Field.Complete fields) {flags : List (String × Bool)}
    (hvalid : SectionValid fields defaults entries table) (hf : f ∈ fields) {b : Bool}
    (hb : f.get defaults = .flag b) :
    layered flags (sectionOf entries table) defaults f =
      .flag (((flags.find? (·.1 = f.name)).map (·.2)).getD
        (switchIn (sectionOf entries table) f.name b)) := by
  unfold layered
  cases flags.find? (·.1 = f.name) with
  | none => exact section_switch hc.names hvalid.sets hf hb
  | some x => rfl

/-! ## Whole configurations -/

/-- A configuration that can be read: it has no other sections than those for the two kinds of options,
every entry of a section sets a field, and no text is one that its field cannot have. -/
structure Valid (entries : List (Value × Value)) : Prop where
  known : ∀ e ∈ entries, ∃ name ∈ sectionNames, e.1 = .str (Text.ofString name)
  reader : SectionValid Markdown.ParseOptions.fields {} entries "markdown"
  writer : SectionValid Latex.RenderOptions.fields {} entries "latex"
  encoding : ∃ c, Encoding.Codec.named?
    (textIn (sectionOf entries "markdown") "encoding" (Text.ofString "utf-8")) = .ok (some c)
  columnSpec : ¬ (textIn (sectionOf entries "latex") "column_spec" (Text.ofString " c ")).isBlank
  imageWidth :
    ¬ (textIn (sectionOf entries "latex") "image_width" (Text.ofString "1\\textwidth")).isBlank

theorem check_reader_eq_ok_iff {o o' : Markdown.ParseOptions} :
    o.check = .ok o' ↔ (∃ c, Encoding.Codec.named? o'.encoding = .ok (some c)) ∧ o = o' := by
  unfold Markdown.ParseOptions.check
  split
  next h => exact ⟨nofun, fun ⟨⟨c, hc⟩, heq⟩ => by rw [heq, hc] at h; cases h⟩
  next h => exact ⟨nofun, fun ⟨⟨c, hc⟩, heq⟩ => by rw [heq, hc] at h; cases h⟩
  next c h => exact ⟨fun ho => by cases ho; exact ⟨⟨c, h⟩, rfl⟩, fun ⟨_, heq⟩ => congrArg _ heq⟩

theorem check_writer_eq_ok_iff {o o' : Latex.RenderOptions} :
    o.check = .ok o' ↔ (¬ o'.columnSpec.isBlank ∧ ¬ o'.imageWidth.isBlank) ∧ o = o' := by
  unfold Latex.RenderOptions.check Latex.RenderOptions.fault?
  by_cases hspec : o.columnSpec.isBlank
  · simp only [hspec, if_true]
    exact ⟨nofun, fun ⟨⟨h, _⟩, heq⟩ => absurd (heq ▸ hspec) h⟩
  · by_cases hwidth : o.imageWidth.isBlank
    · simp only [hspec, hwidth, if_true]
      exact ⟨nofun, fun ⟨⟨_, h⟩, heq⟩ => absurd (heq ▸ hwidth) h⟩
    · simp only [hspec, hwidth]
      exact ⟨fun ho => by cases ho; exact ⟨⟨hspec, hwidth⟩, rfl⟩, fun ⟨_, heq⟩ => congrArg _ heq⟩

theorem text_eq_textIn (hc : Field.Complete fields) {flags : List (String × Bool)}
    (hflags : ForSwitches flags fields defaults) (hvalid : SectionValid fields defaults entries table)
    {o : σ} (hfields : ∀ f ∈ fields, f.get o = layered flags (sectionOf entries table) defaults f)
    (hf : f ∈ fields) {t t' : Text} (ht : f.get defaults = .text t) (ht' : f.get o = .text t') :
    t' = textIn (sectionOf entries table) f.name t :=
  Setting.text.inj (ht'.symm.trans ((hfields f hf).trans (layered_text hc hflags hvalid hf ht)))

section
variable {flags : List (String × Bool)} {reader : Markdown.ParseOptions} {writer : Latex.RenderOptions}

theorem readerOptions_eq_ok_iff (hflags : ForSwitches flags Markdown.ParseOptions.fields {}) :
    sectionOptions entries flags "markdown" Markdown.ParseOptions.fields {}
        Markdown.ParseOptions.check = .ok reader ↔
      (SectionValid Markdown.ParseOptions.fields {} entries "markdown" ∧
        ∃ c, Encoding.Codec.named? (textIn (sectionOf entries "markdown") "encoding"
          (Text.ofString "utf-8")) = .ok (some c)) ∧
      ∀ f ∈ Markdown.ParseOptions.fields,
        f.get reader = layered flags (sectionOf entries "markdown") {} f := by
  have hc := Markdown.ParseOptions.fields_complete
  rw [sectionOptions_eq_ok_iff hc hflags fun _ _ => check_reader_eq_ok_iff]
  refine .trans (and_congr_right fun hvalid => and_congr_left fun hfields => ?_) and_assoc.symm
  have hencoding : reader.encoding =
      textIn (sectionOf entries "markdown") "encoding" (Text.ofString "utf-8") :=
    text_eq_textIn hc hflags hvalid hfields (List.mem_of_getElem? (i := 0) rfl) rfl rfl
  rw [hencoding]

theorem writerOptions_eq_ok_iff (hflags : ForSwitches flags Latex.RenderOptions.fields {}) :
    sectionOptions entries flags "latex" Latex.RenderOptions.fields {} Latex.RenderOptions.check =
        .ok writer ↔
      (SectionValid Latex.RenderOptions.fields {} entries "latex" ∧
        ¬ (textIn (sectionOf entries "latex") "column_spec" (Text.ofString " c ")).isBlank ∧
        ¬ (textIn (sectionOf entries "latex") "image_width"
          (Text.ofString "1\\textwidth")).isBlank) ∧
      ∀ f ∈ Latex.RenderOptions.fields,
        f.get writer = layered flags (sectionOf entries "latex") {} f := by
  have hc := Latex.RenderOptions.fields_complete
  rw [sectionOptions_eq_ok_iff hc hflags fun _ _ => check_writer_eq_ok_iff]
  refine .trans (and_congr_right fun hvalid => and_congr_left fun hfields => ?_) and_assoc.symm
  have hspec : writer.columnSpec =
      textIn (sectionOf entries "latex") "column_spec" (Text.ofString " c ") :=
    text_eq_textIn hc hflags hvalid hfields (List.mem_of_getElem? (i := 5) rfl) rfl rfl
  have hwidth : writer.imageWidth =
      textIn (sectionOf entries "latex") "image_width" (Text.ofString "1\\textwidth") :=
    text_eq_textIn hc hflags hvalid hfields (List.mem_of_getElem? (i := 3) rfl) rfl rfl
  rw [hspec, hwidth]

/-- Options are made of a configuration and flags for switches just if the configuration is valid, and
then their fields are what the layers say. -/
theorem options_eq_ok_iff (hreader : ForSwitches flags Markdown.ParseOptions.fields {})
    (hwriter : ForSwitches flags Latex.RenderOptions.fields {}) :
    options entries flags = .ok (reader, writer) ↔ Valid entries ∧
      (∀ f ∈ Markdown.ParseOptions.fields,
        f.get reader = layered flags (sectionOf entries "markdown") {} f) ∧
      ∀ f ∈ Latex.RenderOptions.fields,
        f.get writer = layered flags (sectionOf entries "latex") {} f := by
  unfold options
  constructor
  · intro h
    obtain ⟨_, hknown, h⟩ := except_bind_eq_ok.mp h
    obtain ⟨_, hr, h⟩ := except_bind_eq_ok.mp h
    obtain ⟨_, hw, h⟩ := except_bind_eq_ok.mp h
    cases h
    obtain ⟨⟨hr, hencoding⟩, hrfields⟩ := (readerOptions_eq_ok_iff hreader).mp hr
    obtain ⟨⟨hw, hspec, hwidth⟩, hwfields⟩ := (writerOptions_eq_ok_iff hwriter).mp hw
    exact ⟨⟨refuseUnknown_eq_ok_iff.mp hknown, hr, hw, hencoding, hspec, hwidth⟩, hrfields, hwfields⟩
  · rintro ⟨hvalid, hrfields, hwfields⟩
    refine except_bind_eq_ok.mpr ⟨(), refuseUnknown_eq_ok_iff.mpr hvalid.known, ?_⟩
    refine except_bind_eq_ok.mpr ⟨reader, (readerOptions_eq_ok_iff hreader).mpr
      ⟨⟨hvalid.reader, hvalid.encoding⟩, hrfields⟩, ?_⟩
    exact except_bind_eq_ok.mpr ⟨writer, (writerOptions_eq_ok_iff hwriter).mpr
      ⟨⟨hvalid.writer, hvalid.columnSpec, hvalid.imageWidth⟩, hwfields⟩, rfl⟩

end

end Config

end MarkTex
