import MarkTex.Proofs.Config.SearchFailures
import MarkTex.Proofs.Encoding.Utf8

/-!
# The nearest configuration

A search that does not fail finds a candidate of the nearest directory on the way up that has one, the
first one there in the order of preference, and nothing if there is no candidate on the whole way. Where
it finds nothing, the preferred one of the files in the home directory is taken:
`configuration_nearest`.
-/

namespace MarkTex

open Config (Value Entries)

/-! ## The first of a list -/

/-- The first element of a list of which something holds. -/
inductive FirstOf {α : Type} (P : α → Prop) : List α → α → Prop
  | here {a : α} {rest : List α} : P a → FirstOf P (a :: rest) a
  | behind {a b : α} {rest : List α} : ¬P b → FirstOf P rest a → FirstOf P (b :: rest) a

namespace FirstOf

variable {α : Type} {P Q : α → Prop} {l rest : List α} {a b : α}

theorem holds (h : FirstOf P l a) : P a := by
  induction h with
  | here ha => exact ha
  | behind _ _ ih => exact ih

theorem mem (h : FirstOf P l a) : a ∈ l := by
  induction h with
  | here => exact List.mem_cons_self
  | behind _ _ ih => exact List.mem_cons_of_mem _ ih

theorem unique (ha : FirstOf P l a) (hb : FirstOf P l b) : a = b := by
  induction ha with
  | here ha =>
      cases hb with
      | here => rfl
      | behind hnone => exact absurd ha hnone
  | behind hnone _ ih =>
      cases hb with
      | here hb => exact absurd hb hnone
      | behind _ hb => exact ih hb

/-- What comes behind a first element does not matter, and only the elements before it do. -/
theorem append (h : FirstOf P l a) (hsame : ∀ b ∈ l, Q b ↔ P b) (rest : List α) :
    FirstOf Q (l ++ rest) a := by
  induction h with
  | here ha => exact .here ((hsame _ List.mem_cons_self).mpr ha)
  | behind hnone _ ih =>
      obtain ⟨hb, hrest⟩ := List.forall_mem_cons.mp hsame
      exact .behind (fun hq => hnone (hb.mp hq)) (ih hrest)

/-- An element with nothing of the kind before it. -/
theorem of_none (hnone : ∀ b ∈ l, ¬P b) (ha : P a) (rest : List α) : FirstOf P (l ++ a :: rest) a := by
  induction l with
  | nil => exact .here ha
  | cons b l ih =>
      obtain ⟨hb, hl⟩ := List.forall_mem_cons.mp hnone
      exact .behind hb (ih hl)

end FirstOf

/-! ## Candidates -/

namespace Config

variable {k : Platform} {p : Path} {bs : List UInt8}

/-- The file of a project holds a configuration: its text comes to the reader, and has a section for this
library that is a table with entries. -/
inductive HoldsSection (k : Platform) (p : Path) (bs : List UInt8) : Prop
  | intro {cs : List Char} {es tools own : Entries} : ComesToReader k p bs cs → Toml.read cs = .ok es →
      Value.get? es "tool" = some (.dict tools) → Value.get? tools "md2tex" = some (.dict own) →
      own ≠ [] → HoldsSection k p bs

/-- Reading such a file gives the entries of the section. -/
theorem HoldsSection.readFile (h : HoldsSection k p bs) :
    ∃ own, own ≠ [] ∧ readFile k p .project bs = .ok own := by
  obtain ⟨hcomes, hread, htools, hown, hne⟩ := h
  refine ⟨_, hne, ?_⟩
  rw [readFile_of_comesToReader hcomes, hread]
  simp only [projectSection, htools, hown]

theorem HoldsSection.not_holdsNoSection (h : HoldsSection k p bs) : ¬HoldsNoSection k p bs := by
  obtain ⟨own, hne, hread⟩ := h.readFile
  rw [← passed_readFile, hread]
  rintro (hown | ⟨c, hc⟩)
  · exact hne (Except.ok.inj hown)
  · cases hc

theorem holdsSection_of_readFile {e : Value × Value} {es : Entries}
    (hread : Config.readFile k p .project bs = .ok (e :: es)) : HoldsSection k p bs := by
  have hway : ¬GivesWay k p .project bs := confined_readFile.mp (hread ▸ confined_ok _)
  cases hopened : k.opening p with
  | some r => rw [Config.readFile, hopened] at hread; cases hread
  | none =>
      obtain ⟨cs, hcomes⟩ := exists_comesToReader hopened hway
      rw [readFile_of_comesToReader hcomes] at hread
      split at hread
      next all hall =>
        unfold projectSection at hread
        split at hread
        next => cases hread
        next tools htools =>
          split at hread
          next => cases hread
          next own hown =>
            cases hread
            exact ⟨hcomes, hall, htools, hown, List.cons_ne_nil _ _⟩
          next => cases hread
        next => cases hread
      next => cases hread
      next => cases hread

end Config

variable {h : Host}

namespace Action

open Config

/-- The names of the files in which a configuration is looked for, in the order of preference. -/
def candidateNames : List String := fileNames ++ [projectFile]

/-- The file of a name in a directory is a candidate: one with a name of its own that is a regular file,
or the file of a project that holds a configuration. -/
inductive Candidate (h : Host) (d : Path) : String → Prop
  | file {name : String} : name ∈ fileNames → h.isConfigFile (d.child name) = .ok true →
      Candidate h d name
  | project {bs : List UInt8} : h.configAt? (d.child projectFile) = .ok (some (.file bs)) →
      HoldsSection h.platform (d.child projectFile) bs → Candidate h d projectFile

variable {d : Path} {name : String} {p : Path}

theorem candidate_iff_of_mem (hname : name ∈ fileNames) :
    Candidate h d name ↔ h.isConfigFile (d.child name) = .ok true := by
  refine ⟨fun hcandidate => ?_, .file hname⟩
  cases hcandidate with
  | file _ hfile => exact hfile
  | project => exact absurd hname (by decide)

theorem HoldsNothing.not_candidate (hnothing : HoldsNothing h d) (name : String) :
    ¬Candidate h d name := by
  intro hcandidate
  cases hcandidate with
  | file hname hfile =>
      rw [hnothing.candidates name hname] at hfile
      cases hfile
  | project hfound hsection =>
      rcases hnothing.project with hfile | ⟨bs, hfound', hnone⟩
      · rw [Host.isConfigFile, hfound] at hfile
        cases hfile
      · rw [hfound] at hfound'
        cases hfound'
        exact hsection.not_holdsNoSection hnone

/-! ## What is found -/

theorem firstFile?_some {names : List String}
    (hfirst : ((firstFile? d names).runOn h).1 = .ok (some p)) :
    ∃ name, FirstOf (fun n => h.isConfigFile (d.child n) = .ok true) names name ∧ p = d.child name := by
  induction names with
  | nil => cases hfirst
  | cons name rest ih =>
      rw [firstFile?_cons] at hfirst
      split at hfirst
      next => cases hfirst
      next hfound =>
        cases hfirst
        exact ⟨name, .here (by rw [Host.isConfigFile, hfound]; rfl), rfl⟩
      next e hother hfound =>
        obtain ⟨found, hbehind, rfl⟩ := ih hfirst
        refine ⟨found, .behind (fun hfile => ?_) hbehind, rfl⟩
        rw [Host.isConfigFile, hfound] at hfile
        cases e with
        | none => cases hfile
        | some entry =>
            cases entry with
            | file bs => exact hother bs rfl
            | directory | link => cases hfile

theorem projectFile?_some (hproject : ((projectFile? d).runOn h).1 = .ok (some p)) :
    Candidate h d projectFile ∧ p = d.child projectFile := by
  rw [outcome_projectFile?] at hproject
  split at hproject
  next => cases hproject
  next bs hfound =>
    split at hproject
    next => cases hproject
    next hread =>
      cases hproject
      exact ⟨.project hfound (holdsSection_of_readFile hread), rfl⟩
    next => cases hproject
    next => cases hproject
  next => cases hproject

open HostView

/-- What is found in a directory is its first candidate. -/
theorem configIn?_some (hseen : world.alike h h)
    (hfound : ((configIn? d).runOn h).1 = .ok (some p)) :
    ∃ name, FirstOf (Candidate h d) candidateNames name ∧ p = d.child name := by
  rw [outcome_configIn? hseen] at hfound
  split at hfound
  next hnone =>
    obtain ⟨hcandidate, hp⟩ := projectFile?_some hfound
    refine ⟨projectFile, .of_none (fun n hn hfile => ?_) hcandidate [], hp⟩
    have hfalse := firstFile?_none_iff.mp hnone n hn
    rw [(candidate_iff_of_mem hn).mp hfile] at hfalse
    cases hfalse
  next =>
    obtain ⟨name, hfirst, hp⟩ := firstFile?_some hfound
    exact ⟨name, hfirst.append (fun n hn => candidate_iff_of_mem hn) [projectFile], hp⟩

/-! ## The way up -/

/-- The file of a name in a directory is the nearest candidate from a place: the directory is on the way
up from there, the name is that of its first candidate, and nearer directories have none. -/
structure NearestCandidate (h : Host) (l d : Location) (name : String) : Prop where
  onWay : d <+: l
  first : FirstOf (Candidate h (.ofLocation d)) candidateNames name
  nearer : ∀ d', d' <+: l → d.length < d'.length → ∀ n, ¬Candidate h (.ofLocation d') n

theorem NearestCandidate.unique {l d d' : Location} {name name' : String}
    (hd : NearestCandidate h l d name) (hd' : NearestCandidate h l d' name') :
    d = d' ∧ name = name' := by
  have hlength : d.length = d'.length := by
    rcases Nat.lt_trichotomy d.length d'.length with hlt | heq | hlt
    · exact absurd hd'.first.holds (hd.nearer d' hd'.onWay hlt name')
    · exact heq
    · exact absurd hd.first.holds (hd'.nearer d hd.onWay hlt name)
  obtain rfl : d = d' :=
    (List.prefix_of_prefix_length_le hd.onWay hd'.onWay (by omega)).eq_of_length hlength
  exact ⟨rfl, hd.first.unique hd'.first⟩

/-- The result of a search is the nearest candidate from a place, and none if there is none on the way
up. -/
structure FindsNearest (h : Host) (l : Location) (r : Option Path) : Prop where
  none_iff : r = none ↔ ∀ d, d <+: l → ∀ n, ¬Candidate h (.ofLocation d) n
  some_iff (p : Path) : r = some p ↔
    ∃ d name, NearestCandidate h l d name ∧ p = (Path.ofLocation d).child name

theorem nearestConfig?_none (hseen : world.alike h h) {names : List String}
    (hfound : ((nearestConfig? names).runOn h).1 = .ok none) :
    ∀ d, d <+: names.reverse → ∀ n, ¬Candidate h (.ofLocation d) n := by
  induction names with
  | nil =>
      intro d hd
      rw [List.prefix_nil.mp hd]
      exact ((configIn?_none_iff hseen).mp hfound).not_candidate
  | cons name outer ih =>
      rw [outcome_nearestConfig? hseen] at hfound
      split at hfound
      next hhere =>
        intro d hd
        rw [List.reverse_cons] at hd
        rcases List.prefix_concat_iff.mp hd with rfl | hd
        · rw [← List.reverse_cons]
          exact ((configIn?_none_iff hseen).mp hhere).not_candidate
        · exact ih hfound d hd
      next hhere => exact absurd hfound hhere

theorem nearestConfig?_some (hseen : world.alike h h) {names : List String}
    (hfound : ((nearestConfig? names).runOn h).1 = .ok (some p)) :
    ∃ d name, NearestCandidate h names.reverse d name ∧ p = (Path.ofLocation d).child name := by
  induction names with
  | nil =>
      obtain ⟨name, hfirst, hp⟩ := configIn?_some hseen hfound
      refine ⟨[], name, ⟨List.prefix_rfl, hfirst, fun d' hd' hlonger => ?_⟩, hp⟩
      rw [List.prefix_nil.mp hd'] at hlonger
      exact absurd hlonger (Nat.lt_irrefl 0)
  | cons name outer ih =>
      rw [outcome_nearestConfig? hseen] at hfound
      split at hfound
      next hhere =>
        obtain ⟨d, found, hnearest, hp⟩ := ih hfound
        refine ⟨d, found, ⟨?_, hnearest.first, fun d' hd' hlonger => ?_⟩, hp⟩
        · rw [List.reverse_cons]
          exact hnearest.onWay.trans (List.prefix_append _ _)
        · rw [List.reverse_cons] at hd'
          rcases List.prefix_concat_iff.mp hd' with rfl | hd'
          · rw [← List.reverse_cons]
            exact ((configIn?_none_iff hseen).mp hhere).not_candidate
          · exact hnearest.nearer d' hd' hlonger
      next =>
        obtain ⟨found, hfirst, hp⟩ := configIn?_some hseen hfound
        refine ⟨_, found, ⟨List.prefix_rfl, hfirst, fun d' hd' hlonger => ?_⟩, hp⟩
        exact absurd hd'.length_le (Nat.not_le_of_lt hlonger)

/-- A search from a place that does not fail finds the nearest candidate. -/
theorem findsNearest_of_nearestConfig? (hseen : world.alike h h) {l : Location} {r : Option Path}
    (hfound : ((nearestConfig? l.reverse).runOn h).1 = .ok r) : FindsNearest h l r := by
  cases r with
  | none =>
      have hnone := nearestConfig?_none hseen hfound
      rw [List.reverse_reverse] at hnone
      refine ⟨iff_of_true rfl hnone, fun p => iff_of_false nofun ?_⟩
      rintro ⟨d, name, hnearest, -⟩
      exact hnone d hnearest.onWay name hnearest.first.holds
  | some p =>
      obtain ⟨d, name, hnearest, rfl⟩ := nearestConfig?_some hseen hfound
      rw [List.reverse_reverse] at hnearest
      refine ⟨iff_of_false nofun fun hnone => ?_, fun p => ⟨?_, ?_⟩⟩
      · exact hnone d hnearest.onWay name hnearest.first.holds
      · rintro ⟨⟩
        exact ⟨d, name, hnearest, rfl⟩
      · rintro ⟨d', name', hnearest', rfl⟩
        obtain ⟨rfl, rfl⟩ := hnearest.unique hnearest'
        rfl

/-! ## The home directory -/

/-- The result of a search in one directory is the first file of some names there, and none if no name
is that of a file. -/
structure FindsFirst (h : Host) (d : Path) (names : List String) (r : Option Path) : Prop where
  none_iff : r = none ↔ ∀ n ∈ names, h.isConfigFile (d.child n) ≠ .ok true
  some_iff (p : Path) : r = some p ↔
    ∃ name, FirstOf (fun n => h.isConfigFile (d.child n) = .ok true) names name ∧ p = d.child name

theorem findsFirst_of_firstFile? {names : List String} {r : Option Path}
    (hfound : ((firstFile? d names).runOn h).1 = .ok r) : FindsFirst h d names r := by
  cases r with
  | none =>
      have hnone : ∀ n ∈ names, h.isConfigFile (d.child n) ≠ .ok true := fun n hn hfile => by
        rw [firstFile?_none_iff.mp hfound n hn] at hfile
        cases hfile
      refine ⟨iff_of_true rfl hnone, fun p => iff_of_false nofun ?_⟩
      rintro ⟨name, hfirst, -⟩
      exact hnone name hfirst.mem hfirst.holds
  | some p =>
      obtain ⟨name, hfirst, rfl⟩ := firstFile?_some hfound
      refine ⟨iff_of_false nofun fun hnone => hnone name hfirst.mem hfirst.holds, fun p => ⟨?_, ?_⟩⟩
      · rintro ⟨⟩
        exact ⟨name, hfirst, rfl⟩
      · rintro ⟨name', hfirst', rfl⟩
        rw [hfirst.unique hfirst']

/-- Looking in the home directory comes to something beneath: there is none, or one of the files there
cannot be looked up and those before it are no files. -/
inductive HomeGivesWay (h : Host) : Prop
  | none : h.home? = none → HomeGivesWay h
  | candidate {home : Path} : h.home? = some home → CandidateGivesWay h home fileNames →
      HomeGivesWay h

/-- The home directory is searched only if nothing was found on the way up. -/
theorem outcome_discoverConfig? (hseen : world.alike h h) {start : Option Path} :
    ((discoverConfig? start).runOn h).1 =
      match ((findConfig? start).runOn h).1 with
      | .ok none =>
        match h.home? with
        | none => .error (.beneath .noHome)
        | some home => ((firstFile? home fileNames).runOn h).1
      | r => r := by
  refine ((looks_findConfig? start).outcome_bind (fun r => ?_) hseen).trans ?_
  · split
    · exact Agree.pure _
    · exact looks_homeFile
  generalize ((findConfig? start).runOn h).1 = r
  match r with
  | .error e => rfl
  | .ok (some p) => rfl
  | .ok none =>
      change ((get >>= fun h => _ : Action (Option Path)).runOn h).1 = _
      rw [runOn_bind, runOn_get]
      dsimp only
      cases h.home? <;> rfl

/-- Where nothing was found on the way up, the search fails just if the home directory gives way. -/
theorem discoverConfig?_error_iff (hseen : world.alike h h) {start : Option Path}
    (hnone : ((findConfig? start).runOn h).1 = .ok none) :
    (∃ e, ((discoverConfig? start).runOn h).1 = .error e) ↔ HomeGivesWay h := by
  rw [outcome_discoverConfig? hseen, hnone]
  constructor
  · rintro ⟨e, he⟩
    cases hhome : h.home? with
    | none => exact .none hhome
    | some home =>
        rw [hhome] at he
        exact .candidate hhome (firstFile?_error_iff.mp ⟨e, he⟩)
  · rintro (hhome | ⟨hhome, hway⟩)
    · rw [hhome]
      exact ⟨_, rfl⟩
    · rw [hhome]
      exact firstFile?_error_iff.mpr hway

/-- It gives nothing else than the first file of the home directory. -/
theorem findsFirst_of_discoverConfig? (hseen : world.alike h h) {start r : Option Path}
    (hnone : ((findConfig? start).runOn h).1 = .ok none)
    (hfound : ((discoverConfig? start).runOn h).1 = .ok r) :
    ∃ home, h.home? = some home ∧ FindsFirst h home fileNames r := by
  rw [outcome_discoverConfig? hseen, hnone] at hfound
  cases hhome : h.home? with
  | none => rw [hhome] at hfound; cases hfound
  | some home =>
      rw [hhome] at hfound
      exact ⟨home, rfl, findsFirst_of_firstFile? hfound⟩

end Action

/-- A search that starts from a place fails just if looking gives way on the way up, and else finds the
nearest candidate. With the home directory to turn to, what is found on the way up is found again; where
that is nothing, the search fails just if looking in the home directory gives way, and else finds the
first of its files. -/
theorem configuration_nearest {h : Host} (hlog : h.logFile? = none) {start : Option Path}
    {l : Location} (hl : ((Action.resolve (start.getD ⟨.relative, []⟩)).runOn h).1 = .ok l) :
    ((∃ e, ((Action.findConfig? start).runOn h).1 = .error e) ↔ Action.WayUpGivesWay h l) ∧
      ∀ r, ((Action.findConfig? start).runOn h).1 = .ok r → Action.FindsNearest h l r ∧
        (∀ p, r = some p → ((Action.discoverConfig? start).runOn h).1 = .ok (some p)) ∧
          (r = none →
            ((∃ e, ((Action.discoverConfig? start).runOn h).1 = .error e) ↔ Action.HomeGivesWay h) ∧
            ∀ r', ((Action.discoverConfig? start).runOn h).1 = .ok r' →
              ∃ home, h.home? = some home ∧ Action.FindsFirst h home Config.fileNames r') := by
  have hseen : HostView.world.alike h h := ⟨rfl, hlog, hlog⟩
  have hfind : ((Action.findConfig? start).runOn h).1 =
      ((Action.nearestConfig? l.reverse).runOn h).1 := by
    refine ((Action.looks_resolve _).outcome_bind
      (fun l => Action.looks_nearestConfig? l.reverse) hseen).trans ?_
    rw [hl]
    rfl
  have hfails : (∃ e, ((Action.nearestConfig? l.reverse).runOn h).1 = .error e) ↔
      Action.WayUpGivesWay h l.reverse.reverse := Action.nearestConfig?_error_iff hseen
  rw [List.reverse_reverse, ← hfind] at hfails
  refine ⟨hfails, fun r hr => ⟨?_, ?_, ?_⟩⟩
  · exact Action.findsNearest_of_nearestConfig? hseen (hfind ▸ hr)
  · rintro p rfl
    rw [Action.outcome_discoverConfig? hseen, hr]
  · rintro rfl
    exact ⟨Action.discoverConfig?_error_iff hseen hr,
      fun r' => Action.findsFirst_of_discoverConfig? hseen hr⟩

/-- A directory whose file of a project holds no section, under one with two candidates. -/
def nestedHost : Host where
  files := ⟨[(["w"], .directory), (["w", ".md2tex.json"], .file []),
    (["w", "pyproject.toml"], .file "[tool.md2tex]\nmarkdown = 1".toUTF8.toList),
    (["w", "d"], .directory), (["w", "d", "pyproject.toml"], .file [0x78, 0x3D, 0x31])]⟩
  directory := ["w", "d"]
  inventory := ⟨[], []⟩

theorem nestedHost_nearest : nestedHost.logFile? = none ∧
    Action.FindsNearest nestedHost ["w", "d"] (some (.ofString "/w/.md2tex.json")) := by
  have hl : ((Action.resolve ⟨.relative, []⟩).runOn nestedHost).1.toOption = some ["w", "d"] := by
    decide +kernel
  have hfound : ((Action.findConfig? none).runOn nestedHost).1.toOption =
      some (some (.ofString "/w/.md2tex.json")) := by
    decide +kernel
  obtain ⟨-, hnearest⟩ := @configuration_nearest nestedHost rfl none _
    (except_toOption_eq_some.mp hl)
  exact ⟨rfl, (hnearest _ (except_toOption_eq_some.mp hfound)).1⟩

/-- An entry whose value is a whole number of one digit more than numbers may have. -/
def longNumberText : List Char := "x=".toList ++ List.replicate 4301 '1'

/-- A file of a project with such a number in it is no candidate, and it is not passed over. -/
theorem longNumber_notPassedOver : ∃ bs, Encoding.utf8Decode bs = .ok longNumberText ∧
    Config.Toml.read longNumberText = .error (.longNumber ⟨4301⟩) ∧
      ∃ e, ((Action.findConfig? none).runOn (projectHost bs)).1 = .error e := by
  have hbytes := Encoding.utf8Decode_utf8Encode longNumberText
  have hread : Config.Toml.read longNumberText = .error (.longNumber ⟨4301⟩) := by
    have hfault : (match Config.Toml.read longNumberText with
        | .error f => some f
        | .ok _ => none) = some (.longNumber ⟨4301⟩) := by decide +kernel
    split at hfault
    next hread => rw [hread, Option.some.inj hfault]
    next => cases hfault
  have hresolve : ((Action.resolve ⟨.relative, []⟩).runOn
      (projectHost (Encoding.utf8Encode longNumberText))).1.toOption = some ["w", "d"] := by
    decide +kernel
  have hfiles : ∀ d ∈ [["w"], ["w", "d"]], ∀ n ∈ Config.fileNames,
      ((projectHost (Encoding.utf8Encode longNumberText)).isConfigFile
        ((Path.ofLocation d).child n)).toOption = some false := by
    decide +kernel
  have hproject : ((projectHost (Encoding.utf8Encode longNumberText)).isConfigFile
      ((Path.ofLocation ["w", "d"]).child Config.projectFile)).toOption = some false := by
    decide +kernel
  have hnearer : Action.HoldsNothing (projectHost (Encoding.utf8Encode longNumberText))
      (.ofLocation ["w", "d"]) :=
    ⟨fun n hn => except_toOption_eq_some.mp (hfiles _ (by simp) n hn),
      .inl (except_toOption_eq_some.mp hproject)⟩
  have hcontent : Action.SearchGivesWay (projectHost (Encoding.utf8Encode longNumberText))
      (.ofLocation ["w"]) :=
    .content (fun n hn => except_toOption_eq_some.mp (hfiles _ (by simp) n hn)) rfl
      ⟨rfl, .text hbytes rfl (.inl ⟨_, hread⟩)⟩
  refine ⟨_, hbytes, hread, (Action.findConfig?_error_iff ⟨rfl, rfl, rfl⟩).mpr (.inr
    ⟨["w", "d"], except_toOption_eq_some.mp hresolve, ?_⟩)⟩
  exact Action.wayUpGivesWay_concat (l := ["w"]).mpr
    (.inr ⟨hnearer, Action.wayUpGivesWay_concat (l := []).mpr (.inl hcontent)⟩)

end MarkTex
