import MarkTex.Proofs.Config.Failures

/-!
# How the search for a configuration fails

The search goes up from a directory. It passes over a directory that has no configuration, and so over a
file of a project that holds none; it fails where a path cannot be looked up, or where the file of a
project gives way when it is read.
-/

namespace MarkTex

open Config (Value Entries)

variable {α : Type} {h : Host}

namespace Action

open Config

/-! ## Searching for a file -/

/-- One of some files in a directory cannot be looked up, and those before it are no files. -/
inductive CandidateGivesWay (h : Host) (d : Path) : List String → Prop
  | here {name : String} {rest : List String} {e : Error} :
      h.configAt? (d.child name) = .error e → CandidateGivesWay h d (name :: rest)
  | behind {name : String} {rest : List String} : h.isConfigFile (d.child name) = .ok false →
      CandidateGivesWay h d rest → CandidateGivesWay h d (name :: rest)

variable {d : Path} {name : String} {names rest : List String}

theorem CandidateGivesWay.cons_iff : CandidateGivesWay h d (name :: rest) ↔
    (∃ e, h.configAt? (d.child name) = .error e) ∨
      h.isConfigFile (d.child name) = .ok false ∧ CandidateGivesWay h d rest := by
  constructor
  · rintro (hlook | ⟨hfile, hrest⟩)
    · exact .inl ⟨_, hlook⟩
    · exact .inr ⟨hfile, hrest⟩
  · rintro (⟨e, hlook⟩ | ⟨hfile, hrest⟩)
    · exact .here hlook
    · exact .behind hfile hrest

theorem firstFile?_cons : ((firstFile? d (name :: rest)).runOn h).1 =
    match h.configAt? (d.child name) with
    | .error e => .error e
    | .ok (some (.file _)) => .ok (some (d.child name))
    | .ok _ => ((firstFile? d rest).runOn h).1 := by
  rw [firstFile?, runOn_bind, runOn_configAt?]
  match h.configAt? (d.child name) with
  | .error e => rfl
  | .ok none => rfl
  | .ok (some .directory) => rfl
  | .ok (some (.link _)) => rfl
  | .ok (some (.file _)) => rfl

theorem firstFile?_error_iff :
    (∃ e, ((firstFile? d names).runOn h).1 = .error e) ↔ CandidateGivesWay h d names := by
  induction names with
  | nil => exact ⟨nofun, nofun⟩
  | cons name rest ih =>
      rw [firstFile?_cons, CandidateGivesWay.cons_iff, ← ih, Host.isConfigFile]
      match h.configAt? (d.child name) with
      | .error e => simp
      | .ok none => simp [Except.map]
      | .ok (some .directory) => simp [Except.map]
      | .ok (some (.link _)) => simp [Except.map]
      | .ok (some (.file _)) => simp [Except.map]

theorem firstFile?_none_iff : ((firstFile? d names).runOn h).1 = .ok none ↔
    ∀ n ∈ names, h.isConfigFile (d.child n) = .ok false := by
  induction names with
  | nil => exact ⟨nofun, fun _ => rfl⟩
  | cons name rest ih =>
      rw [firstFile?_cons, List.forall_mem_cons, ← ih, Host.isConfigFile]
      match h.configAt? (d.child name) with
      | .error e => simp [Except.map]
      | .ok none => simp [Except.map]
      | .ok (some .directory) => simp [Except.map]
      | .ok (some (.link _)) => simp [Except.map]
      | .ok (some (.file _)) => simp [Except.map]

end Action

namespace Config

/-! ## The file of a project -/

/-- The text of the file of a project comes to the reader of TOML: the file is opened, its bytes are
UTF-8, and it is not nested too deeply. -/
structure ComesToReader (k : Platform) (p : Path) (bs : List UInt8) (cs : List Char) : Prop where
  opened : k.opening p = none
  decoded : Encoding.utf8Decode bs = .ok cs
  shallow : k.tooDeep .project cs = none

/-- The entries of the file of a project have no section for this library, or one that is no table or
has no entries. -/
inductive LacksSection (es : Entries) : Prop
  | noTools : Value.get? es "tool" = none → LacksSection es
  | noSection {tools : Entries} : Value.get? es "tool" = some (.dict tools) →
      (∀ v, Value.get? tools "md2tex" = some v → (∀ own, v ≠ .dict own) ∨ v = .dict []) →
      LacksSection es

/-- The file of a project holds no configuration: it may not be read, its TOML is malformed, or it lacks
a section for this library. -/
inductive HoldsNoSection (k : Platform) (p : Path) (bs : List UInt8) : Prop
  | unopened {r : Refusal} : k.opening p = some r → HoldsNoSection k p bs
  | malformed {cs : List Char} {line column : Nat} : ComesToReader k p bs cs →
      Toml.read cs = .error (.malformed line column) → HoldsNoSection k p bs
  | lacking {cs : List Char} {es : Entries} : ComesToReader k p bs cs → Toml.read cs = .ok es →
      LacksSection es → HoldsNoSection k p bs

/-- An outcome for which a file is passed over. -/
def Passed (r : Except Error Entries) : Prop := r = .ok [] ∨ ∃ c, r = .error (.config c)

theorem Passed.confined {r : Except Error Entries} (hr : Passed r) : Confined r := by
  rcases hr with rfl | ⟨c, rfl⟩
  · exact confined_ok []
  · exact confined_config c

variable {k : Platform} {p : Path} {bs : List UInt8} {cs : List Char} {es : Entries}

/-- A file that is opened and does not give way comes to the reader. -/
theorem exists_comesToReader (hopened : k.opening p = none) (hway : ¬GivesWay k p .project bs) :
    ∃ cs, ComesToReader k p bs cs := by
  cases hcs : Encoding.utf8Decode bs with
  | error bad => exact absurd ⟨hopened, .bytes nofun hcs⟩ hway
  | ok cs =>
      cases hdepth : k.tooDeep .project cs with
      | some r => exact absurd ⟨hopened, .depth nofun hcs hdepth⟩ hway
      | none => exact ⟨cs, hopened, hcs, hdepth⟩

theorem readFile_of_comesToReader (hcomes : ComesToReader k p bs cs) :
    readFile k p .project bs =
      match Toml.read cs with
      | .ok es => projectSection p es
      | .error (.longNumber n) => .error (.beneath (.configValue (.longNumber n)))
      | .error f => .error (.config (.malformed p .project (Text.ofString f.message))) := by
  have htext : fileText k .project bs = .ok cs := by
    simp [fileText, Encoding.withName, hcomes.decoded, Except.mapError, hcomes.shallow]
  simp only [readFile, hcomes.opened, readContent, readToml, htext, bind, Except.bind]
  cases Toml.read cs with
  | ok es => rfl
  | error f => cases f <;> rfl

theorem passed_projectSection : Passed (projectSection p es) ↔ LacksSection es := by
  unfold projectSection
  constructor
  · intro hpassed
    split at hpassed
    next hnone => exact .noTools hnone
    next tools htools =>
      refine .noSection htools fun v hv => ?_
      rw [hv] at hpassed
      cases v with
      | dict own =>
          rcases hpassed with hown | ⟨c, hc⟩
          · exact .inr (congrArg Value.dict (Except.ok.inj hown))
          · cases hc
      | _ => exact .inl nofun
    next => exact absurd hpassed.confined (not_confined_beneath _)
  · rintro (hnone | ⟨htools, hsection⟩)
    · rw [hnone]
      exact .inl rfl
    · rw [htools]
      dsimp only
      split
      · exact .inl rfl
      next own hown =>
        rcases hsection _ hown with hother | hempty
        · exact absurd rfl (hother own)
        · exact .inl (congrArg Except.ok (Value.dict.inj hempty))
      · exact .inr ⟨_, rfl⟩

/-- A file of a project is passed over just if it holds no configuration. -/
theorem passed_readFile : Passed (readFile k p .project bs) ↔ HoldsNoSection k p bs := by
  constructor
  · intro hpassed
    have hway : ¬GivesWay k p .project bs := confined_readFile.mp hpassed.confined
    cases hopened : k.opening p with
    | some r => exact .unopened hopened
    | none =>
        obtain ⟨cs, hcomes⟩ := exists_comesToReader hopened hway
        rw [readFile_of_comesToReader hcomes] at hpassed
        cases hread : Toml.read cs with
        | error f =>
            cases f with
            | malformed => exact .malformed hcomes hread
            | longNumber n =>
                have hcontent : ContentGivesWay k bs .project :=
                  .text hcomes.decoded hcomes.shallow (.inl ⟨n, hread⟩)
                exact absurd ⟨hopened, hcontent⟩ hway
        | ok es =>
            rw [hread] at hpassed
            exact .lacking hcomes hread (passed_projectSection.mp hpassed)
  · rintro (hclosed | ⟨hcomes, hread⟩ | ⟨hcomes, hread, hlacks⟩)
    · rw [readFile, hclosed]
      exact .inr ⟨_, rfl⟩
    · rw [readFile_of_comesToReader hcomes, hread]
      exact .inr ⟨_, rfl⟩
    · rw [readFile_of_comesToReader hcomes, hread]
      exact passed_projectSection.mpr hlacks

end Config

namespace Action

open Config

variable {bs : List UInt8} {d : Path}

theorem outcome_projectFile? : ((projectFile? d).runOn h).1 =
    match h.configAt? (d.child projectFile) with
    | .error e => .error e
    | .ok (some (.file bs)) =>
      match readFile h.platform (d.child projectFile) .project bs with
      | .ok [] => .ok none
      | .ok (_ :: _) => .ok (some (d.child projectFile))
      | .error (.config _) => .ok none
      | .error e => .error e
    | .ok _ => .ok none := by
  unfold projectFile?
  dsimp only
  rw [runOn_bind, runOn_configAt?]
  match h.configAt? (d.child projectFile) with
  | .error e => rfl
  | .ok none => rfl
  | .ok (some .directory) => rfl
  | .ok (some (.link _)) => rfl
  | .ok (some (.file bs)) =>
      dsimp only
      rw [runOn_bind, runOn_tryCatch, runOn_readConfigFile]
      match readFile h.platform (d.child projectFile) .project bs with
      | .ok [] => rfl
      | .ok (_ :: _) => rfl
      | .error e => cases e <;> rfl

theorem projectFile?_error_iff : (∃ e, ((projectFile? d).runOn h).1 = .error e) ↔
    (∃ e, h.configAt? (d.child projectFile) = .error e) ∨
      ∃ bs, h.configAt? (d.child projectFile) = .ok (some (.file bs)) ∧
        GivesWay h.platform (d.child projectFile) .project bs := by
  rw [outcome_projectFile?]
  match h.configAt? (d.child projectFile) with
  | .error e => simp
  | .ok none => simp
  | .ok (some .directory) => simp
  | .ok (some (.link _)) => simp
  | .ok (some (.file bs)) =>
      have hway : GivesWay h.platform (d.child projectFile) .project bs ↔
          ¬Confined (readFile h.platform (d.child projectFile) .project bs) := by
        rw [confined_readFile, not_not]
      simp only [reduceCtorEq, exists_false, false_or, Except.ok.injEq, Option.some.injEq,
        Entry.file.injEq, exists_eq_left', hway]
      match readFile h.platform (d.child projectFile) .project bs with
      | .ok [] => simp [confined_ok]
      | .ok (_ :: _) => simp [confined_ok]
      | .error e => cases e <;> simp [Confined]

theorem projectFile?_none_iff : ((projectFile? d).runOn h).1 = .ok none ↔
    h.isConfigFile (d.child projectFile) = .ok false ∨
      ∃ bs, h.configAt? (d.child projectFile) = .ok (some (.file bs)) ∧
        HoldsNoSection h.platform (d.child projectFile) bs := by
  rw [outcome_projectFile?, Host.isConfigFile]
  match h.configAt? (d.child projectFile) with
  | .error e => simp [Except.map]
  | .ok none => simp [Except.map]
  | .ok (some .directory) => simp [Except.map]
  | .ok (some (.link _)) => simp [Except.map]
  | .ok (some (.file bs)) =>
      simp only [Except.map, Except.ok.injEq, Option.some.injEq, Entry.file.injEq, exists_eq_left',
        ← passed_readFile, Bool.true_eq_false, false_or]
      match readFile h.platform (d.child projectFile) .project bs with
      | .ok [] => simp [Passed]
      | .ok (_ :: _) => simp [Passed]
      | .error e => cases e <;> simp [Passed]

/-! ## The way up -/

/-- A directory has no configuration: none of the candidates is a file, and the file of a project, if
there is one, holds none. -/
structure HoldsNothing (h : Host) (d : Path) : Prop where
  candidates : ∀ n ∈ fileNames, h.isConfigFile (d.child n) = .ok false
  project : h.isConfigFile (d.child projectFile) = .ok false ∨
    ∃ bs, h.configAt? (d.child projectFile) = .ok (some (.file bs)) ∧
      HoldsNoSection h.platform (d.child projectFile) bs

/-- Looking in a directory comes to something beneath: at a candidate that cannot be looked up, or, where
none is a file, at the file of a project, that cannot be looked up or gives way. -/
inductive SearchGivesWay (h : Host) (d : Path) : Prop
  | candidate : CandidateGivesWay h d fileNames → SearchGivesWay h d
  | project {e : Error} : (∀ n ∈ fileNames, h.isConfigFile (d.child n) = .ok false) →
      h.configAt? (d.child projectFile) = .error e → SearchGivesWay h d
  | content {bs : List UInt8} : (∀ n ∈ fileNames, h.isConfigFile (d.child n) = .ok false) →
      h.configAt? (d.child projectFile) = .ok (some (.file bs)) →
      GivesWay h.platform (d.child projectFile) .project bs → SearchGivesWay h d

open HostView

theorem outcome_configIn? (hseen : world.alike h h) : ((configIn? d).runOn h).1 =
    match ((firstFile? d fileNames).runOn h).1 with
    | .ok none => ((projectFile? d).runOn h).1
    | r => r := by
  refine ((looks_firstFile? d fileNames).outcome_bind (fun r => ?_) hseen).trans ?_
  · split
    · exact Agree.pure _
    · exact looks_projectFile? d
  generalize ((firstFile? d fileNames).runOn h).1 = r
  match r with
  | .error e => rfl
  | .ok none => rfl
  | .ok (some p) => rfl

theorem configIn?_error_iff (hseen : world.alike h h) :
    (∃ e, ((configIn? d).runOn h).1 = .error e) ↔ SearchGivesWay h d := by
  rw [outcome_configIn? hseen]
  have herror := @firstFile?_error_iff h d fileNames
  have hnone := @firstFile?_none_iff h d fileNames
  constructor
  · intro hfails
    split at hfails
    next hfirst =>
      rcases projectFile?_error_iff.mp hfails with ⟨e, hlook⟩ | ⟨bs, hfound, hway⟩
      · exact .project (hnone.mp hfirst) hlook
      · exact .content (hnone.mp hfirst) hfound hway
    next => exact .candidate (herror.mp hfails)
  · rintro (hway | ⟨hnames, hfound⟩ | ⟨hnames, hfound, hway⟩)
    · obtain ⟨e, he⟩ := herror.mpr hway
      rw [he]
      exact ⟨e, rfl⟩
    · rw [hnone.mpr hnames]
      exact projectFile?_error_iff.mpr (.inl ⟨_, hfound⟩)
    · rw [hnone.mpr hnames]
      exact projectFile?_error_iff.mpr (.inr ⟨_, hfound, hway⟩)

theorem configIn?_none_iff (hseen : world.alike h h) :
    ((configIn? d).runOn h).1 = .ok none ↔ HoldsNothing h d := by
  rw [outcome_configIn? hseen]
  have hnone := @firstFile?_none_iff h d fileNames
  constructor
  · intro hnothing
    split at hnothing
    next hfirst => exact ⟨hnone.mp hfirst, projectFile?_none_iff.mp hnothing⟩
    next hsome => exact absurd hnothing hsome
  · intro hnothing
    rw [hnone.mpr hnothing.candidates]
    exact projectFile?_none_iff.mpr hnothing.project

/-- From a directory on the way up the search fails: it does so there, and all that are nearer have no
configuration. -/
def WayUpGivesWay (h : Host) (l : Location) : Prop :=
  ∃ d, d <+: l ∧ SearchGivesWay h (.ofLocation d) ∧
    ∀ nearer, nearer <+: l → d.length < nearer.length → HoldsNothing h (.ofLocation nearer)

theorem wayUpGivesWay_root : WayUpGivesWay h [] ↔ SearchGivesWay h (.ofLocation []) := by
  constructor
  · rintro ⟨d, hd, hway, -⟩
    rwa [List.prefix_nil.mp hd] at hway
  · intro hway
    refine ⟨[], List.prefix_rfl, hway, fun nearer hnearer hlonger => ?_⟩
    rw [List.prefix_nil.mp hnearer] at hlonger
    exact absurd hlonger (Nat.lt_irrefl 0)

theorem wayUpGivesWay_concat {l : Location} {name : String} : WayUpGivesWay h (l ++ [name]) ↔
    SearchGivesWay h (.ofLocation (l ++ [name])) ∨
      HoldsNothing h (.ofLocation (l ++ [name])) ∧ WayUpGivesWay h l := by
  have hlonger {d : Location} (hd : d <+: l) : d.length < (l ++ [name]).length := by
    have hle := hd.length_le
    rw [List.length_append, List.length_singleton]
    omega
  constructor
  · rintro ⟨d, hd, hway, hnearer⟩
    rcases List.prefix_concat_iff.mp hd with rfl | hd
    · exact .inl hway
    · refine .inr ⟨hnearer _ List.prefix_rfl (hlonger hd), d, hd, hway, fun nearer hl => ?_⟩
      exact hnearer nearer (hl.trans (List.prefix_append l [name]))
  · rintro (hway | ⟨hnothing, d, hd, hway, hnearer⟩)
    · refine ⟨_, List.prefix_rfl, hway, fun nearer hl hlength => ?_⟩
      exact absurd hl.length_le (Nat.not_le_of_lt hlength)
    · refine ⟨d, hd.trans (List.prefix_append l [name]), hway, fun nearer hl hlength => ?_⟩
      rcases List.prefix_concat_iff.mp hl with rfl | hl
      · exact hnothing
      · exact hnearer nearer hl hlength

theorem outcome_nearestConfig? (hseen : world.alike h h) {name : String} {outer : List String} :
    ((nearestConfig? (name :: outer)).runOn h).1 =
      match ((configIn? (.ofLocation (name :: outer).reverse)).runOn h).1 with
      | .ok none => ((nearestConfig? outer).runOn h).1
      | r => r := by
  refine ((looks_configIn? _).outcome_bind (fun r => ?_) hseen).trans ?_
  · split
    · exact Agree.pure _
    · exact looks_nearestConfig? outer
  generalize ((configIn? (.ofLocation (name :: outer).reverse)).runOn h).1 = r
  match r with
  | .error e => rfl
  | .ok none => rfl
  | .ok (some p) => rfl

theorem nearestConfig?_error_iff (hseen : world.alike h h) {names : List String} :
    (∃ e, ((nearestConfig? names).runOn h).1 = .error e) ↔ WayUpGivesWay h names.reverse := by
  induction names with
  | nil =>
      rw [List.reverse_nil, wayUpGivesWay_root, ← configIn?_error_iff hseen]
      rfl
  | cons name outer ih =>
      rw [outcome_nearestConfig? hseen, List.reverse_cons, wayUpGivesWay_concat, ← ih,
        ← configIn?_error_iff hseen, ← configIn?_none_iff hseen]
      generalize ((configIn? (.ofLocation (outer.reverse ++ [name]))).runOn h).1 = r
      match r with
      | .error e => simp
      | .ok none => simp
      | .ok (some p) => simp

/-- A search fails just if the place to start from cannot be had, or on the way up. -/
theorem findConfig?_error_iff (hseen : world.alike h h) {start : Option Path} :
    (∃ e, ((findConfig? start).runOn h).1 = .error e) ↔
      (∃ e, ((resolve (start.getD ⟨.relative, []⟩)).runOn h).1 = .error e) ∨
        ∃ l, ((resolve (start.getD ⟨.relative, []⟩)).runOn h).1 = .ok l ∧ WayUpGivesWay h l := by
  have hrun : ((findConfig? start).runOn h).1 =
      ((resolve (start.getD ⟨.relative, []⟩)).runOn h).1 >>=
        fun l => ((nearestConfig? l.reverse).runOn h).1 :=
    (looks_resolve _).outcome_bind (fun l => looks_nearestConfig? l.reverse) hseen
  rw [hrun]
  cases ((resolve (start.getD ⟨.relative, []⟩)).runOn h).1 with
  | error e => simp [bind, Except.bind]
  | ok l =>
      have hnearest := @nearestConfig?_error_iff h hseen l.reverse
      rw [List.reverse_reverse] at hnearest
      simp [bind, Except.bind, hnearest]

end Action

/-- Loading a configuration, making options of its entries and searching for one end well or with a
failure of the configuration, but for these cases. A file that is loaded cannot be looked up or gives
way when it is read; options come to a key that is no text; and a search, which is to raise nothing at
all, has no place to start from or comes to such a file of a project, not to one that merely holds no
configuration. This is so on every platform, however it reads YAML and whatever it refuses. -/
theorem configuration_failures (h : Host) :
    (∀ p, Confined ((Action.loadConfig p).runOn h).1 ↔
        (∀ e, h.configAt? p ≠ .error e) ∧
          ∀ bs format, h.configAt? p = .ok (some (.file bs)) → Config.formatOf? p = some format →
            ¬Config.GivesWay h.platform p format bs) ∧
      (∀ vs es, Confined ((Command.optionsOf vs es).runOn h).1 ↔
        ¬Config.OptionsGiveWay es (Command.fieldFlags vs)) ∧
      (h.logFile? = none → ∀ start : Option Path,
        (∃ e, ((Action.findConfig? start).runOn h).1 = .error e) ↔
          (∃ e, ((Action.resolve (start.getD ⟨.relative, []⟩)).runOn h).1 = .error e) ∨
            ∃ l, ((Action.resolve (start.getD ⟨.relative, []⟩)).runOn h).1 = .ok l ∧
              Action.WayUpGivesWay h l) := by
  refine ⟨fun p => Action.confined_loadConfig, fun vs es => Command.confined_optionsOf, ?_⟩
  intro hlog start
  exact Action.findConfig?_error_iff ⟨rfl, hlog, hlog⟩

/-- A directory under one with a file of a project, which is given. -/
def projectHost (project : List UInt8) : Host where
  files := ⟨[(["w"], .directory), (["w", "pyproject.toml"], .file project),
    (["w", "d"], .directory)]⟩
  directory := ["w", "d"]
  inventory := ⟨[], []⟩

/-- Malformed TOML in the file of a project is passed over. -/
theorem malformedProject_passedOver : (projectHost [0x78, 0x3D]).logFile? = none ∧
    ((Action.findConfig? none).runOn (projectHost [0x78, 0x3D])).1.toOption = some none ∧
      ¬∃ l, ((Action.resolve ⟨.relative, []⟩).runOn (projectHost [0x78, 0x3D])).1 = .ok l ∧
        Action.WayUpGivesWay (projectHost [0x78, 0x3D]) l := by
  have hfound : ((Action.findConfig? none).runOn (projectHost [0x78, 0x3D])).1.toOption =
      some none := by
    decide +kernel
  refine ⟨rfl, hfound, fun hway => ?_⟩
  obtain ⟨e, he⟩ := ((configuration_failures _).2.2 rfl none).mpr (.inr hway)
  rw [he] at hfound
  cases hfound

/-- The fault in bytes that an outcome is, if it is one. -/
def badBytes? : Except Error α → Option Encoding.DecodeFault
  | .error (.beneath (.badBytes f)) => some f
  | _ => none

/-- Bytes that are not UTF-8 in the file of a project are not passed over. -/
theorem undecodableProject_fails :
    badBytes? ((Action.findConfig? none).runOn (projectHost [0xFF])).1 =
        some ⟨"utf-8", .invalidStart, 0, [0xFF]⟩ ∧
      badBytes? ((Action.loadConfig (.ofString "../pyproject.toml")).runOn (projectHost [0xFF])).1 =
        some ⟨"utf-8", .invalidStart, 0, [0xFF]⟩ := by
  decide +kernel

end MarkTex
