import Mathlib.Data.List.Perm.Basic
import MarkTex.Convert.Source

/-!
# Requirements that are not met

A component is used only if each of its requirements is met: the module can be imported, and if there is
a specifier, it can be read and an installed version meets it. The check goes on behind a requirement
that fails, so that a failure is about all of them, each once: `requiring_checks`. How modules are
imported and versions compared does not matter for this, as long as there are answers.
-/

namespace MarkTex

namespace Package

variable {k : Packaging} {i : Inventory} {r : Requirement} {rs : List Requirement}
  {package specifier : String}

/-! ## What it is to meet a requirement -/

namespace Packaging

/-- The version that a package counts as installed in, if there is one. -/
def versionOf? (k : Packaging) (i : Inventory) (package : String) : Option String :=
  (k.installed? i package).toOption.join

/-- A package is installed in a version that meets a specifier, and the specifier can be read. -/
def Meets (k : Packaging) (i : Inventory) (package specifier : String) : Prop :=
  ∃ installed meets, k.versionOf? i package = some installed ∧
    k.specifier? specifier = some meets ∧ meets installed

instance : Decidable (k.Meets i package specifier) :=
  decidable_of_iff
    ((k.versionOf? i package).any fun installed => (k.specifier? specifier).any (· installed))
    (by simp only [Meets, Option.any_eq_true]; grind)

end Packaging

namespace Requirement

/-- The check of a requirement comes to an answer: its module can be imported or it is missing, and its
package, which is looked up if there is a specifier, is installed in a version if at all. -/
def Answered (k : Packaging) (i : Inventory) (r : Requirement) : Prop :=
  (k.imports i.importable r.module).toOption.isSome ∧
    (r.specifier ≠ "" → (k.installed? i r.package).toOption.any (·.all k.isVersion))

def Importable (k : Packaging) (i : Inventory) (r : Requirement) : Prop :=
  (k.imports i.importable r.module).toOption = some true

/-- The module cannot be imported. -/
def Missing (k : Packaging) (i : Inventory) (r : Requirement) : Prop :=
  (k.imports i.importable r.module).toOption = some false

/-- The module can be imported, but there is a specifier that no installed version meets. -/
def Mismatched (k : Packaging) (i : Inventory) (r : Requirement) : Prop :=
  r.Importable k i ∧ r.specifier ≠ "" ∧ ¬ k.Meets i r.package r.specifier

def Met (k : Packaging) (i : Inventory) (r : Requirement) : Prop :=
  r.Importable k i ∧ (r.specifier ≠ "" → k.Meets i r.package r.specifier)

instance : Decidable (r.Answered k i) := inferInstanceAs (Decidable (_ ∧ _))

instance : Decidable (r.Importable k i) := inferInstanceAs (Decidable (_ = _))

instance : Decidable (r.Missing k i) := inferInstanceAs (Decidable (_ = _))

instance : Decidable (r.Mismatched k i) := inferInstanceAs (Decidable (_ ∧ _))

instance : Decidable (r.Met k i) := inferInstanceAs (Decidable (_ ∧ _))

theorem Importable.not_missing (h : r.Importable k i) : ¬ r.Missing k i := by
  unfold Importable at h
  simp [Missing, h]

theorem Answered.importable_or_missing (h : r.Answered k i) : r.Importable k i ∨ r.Missing k i := by
  obtain ⟨b, hb⟩ := Option.isSome_iff_exists.mp h.1
  cases b with
  | true => exact .inl hb
  | false => exact .inr hb

theorem Answered.not_met_iff (h : r.Answered k i) :
    ¬ r.Met k i ↔ r.Missing k i ∨ r.Mismatched k i := by
  have himport := h.importable_or_missing
  have hapart : r.Importable k i → ¬ r.Missing k i := Importable.not_missing
  unfold Met Mismatched
  tauto

/-- The package that has to be installed, with its specifier. -/
def wanted (r : Requirement) : String × String := (r.package, r.specifier)

/-- The package with the version that will not do. -/
def mismatch (k : Packaging) (i : Inventory) (r : Requirement) : Mismatch :=
  ⟨r.package, r.specifier, (k.versionOf? i r.package).getD "unknown"⟩

end Requirement

/-! ## The check of one requirement -/

/-- Where a version can be looked up, the check of a package gives an answer, and the right one. -/
theorem Packaging.check_eq (h : (k.installed? i package).toOption.any (·.all k.isVersion))
    (specifier : String) : k.check i package specifier =
      .ok (decide (k.Meets i package specifier), k.versionOf? i package) := by
  unfold Packaging.check
  cases hfound : k.installed? i package with
  | error f => simp [hfound, Except.toOption] at h
  | ok version? =>
      have hversion : k.versionOf? i package = version? := by
        simp [Packaging.versionOf?, hfound, Except.toOption]
      rw [hversion]
      cases version? with
      | none => simp [Packaging.Meets, hversion, bind, Except.bind, pure, Except.pure]
      | some installed =>
          have hvalid : k.isVersion installed = true := by
            simpa [hfound, Except.toOption] using h
          cases hmeets : k.specifier? specifier <;>
            simp [Packaging.Meets, hversion, hvalid, hmeets, bind, Except.bind, pure, Except.pure]

/-- A package that is missing is taken down with its specifier, and its version is not asked for. -/
theorem check_of_missing (u : Unmet) (h : r.Missing k i) :
    Unmet.check k i u r = .ok { u with
      missing := u.missing ++ [r.wanted]
      cause := u.cause.or (some ⟨r.module⟩) } := by
  rw [Unmet.check, except_toOption_eq_some.mp h]
  rfl

/-- A package in a version that will not do is taken down with that version. -/
theorem check_of_mismatched (ha : r.Answered k i) (u : Unmet) (h : r.Mismatched k i) :
    Unmet.check k i u r = .ok { u with mismatched := u.mismatched ++ [r.mismatch k i] } := by
  obtain ⟨himport, hspecifier, hmeets⟩ := h
  rw [Unmet.check, except_toOption_eq_some.mp himport]
  simp only [bind, Except.bind, Bool.not_true, Bool.false_eq_true, if_false, if_neg hspecifier,
    Packaging.check_eq (ha.2 hspecifier), decide_eq_false hmeets]
  rfl

/-- A requirement that is met leaves no trace. -/
theorem check_of_met (ha : r.Answered k i) (u : Unmet) (h : r.Met k i) :
    Unmet.check k i u r = .ok u := by
  rw [Unmet.check, except_toOption_eq_some.mp h.1]
  by_cases hany : r.specifier = ""
  · simp only [bind, Except.bind, Bool.not_true, Bool.false_eq_true, if_false, if_pos hany]
    rfl
  · simp only [bind, Except.bind, Bool.not_true, Bool.false_eq_true, if_false, if_neg hany,
      Packaging.check_eq (ha.2 hany), decide_eq_true (h.2 hany), if_true]
    rfl

/-! ## The check of all requirements -/

namespace Unmet

/-- What is not met of two lists of requirements, one behind the other. -/
def add (u w : Unmet) : Unmet where
  component := u.component
  missing := u.missing ++ w.missing
  mismatched := u.mismatched ++ w.mismatched
  cause := u.cause.or w.cause

theorem add_assoc (u v w : Unmet) : (u.add v).add w = u.add (v.add w) := by
  simp [add, Option.or_assoc]

end Unmet

/-- What is not met of some requirements. -/
def shortfall (k : Packaging) (i : Inventory) (component : String) (rs : List Requirement) :
    Unmet where
  component := component
  missing := (rs.filter fun r => r.Missing k i).map Requirement.wanted
  mismatched := (rs.filter fun r => r.Mismatched k i).map (Requirement.mismatch k i)
  cause := (rs.find? fun r => r.Missing k i).map fun r => ⟨r.module⟩

theorem shortfall_cons (component : String) (r : Requirement) (rs : List Requirement) :
    shortfall k i component (r :: rs) =
      (shortfall k i component [r]).add (shortfall k i component rs) := by
  by_cases hmissing : r.Missing k i <;> by_cases hmismatched : r.Mismatched k i <;>
    simp [shortfall, Unmet.add, hmissing, hmismatched]

/-- The check adds to what is not met what one requirement more gives. -/
theorem check_eq (ha : r.Answered k i) (u : Unmet) :
    Unmet.check k i u r = .ok (u.add (shortfall k i u.component [r])) := by
  by_cases hmet : r.Met k i
  · have hfine := not_or.mp (mt ha.not_met_iff.mpr (not_not.mpr hmet))
    rw [check_of_met ha u hmet]
    simp [shortfall, Unmet.add, hfine]
  · rcases ha.not_met_iff.mp hmet with hmissing | hmismatched
    · have hother : ¬ r.Mismatched k i := fun h => h.1.not_missing hmissing
      rw [check_of_missing u hmissing]
      simp [shortfall, Unmet.add, hmissing, hother]
    · rw [check_of_mismatched ha u hmismatched]
      simp [shortfall, Unmet.add, hmismatched, hmismatched.1.not_missing]

theorem foldlM_check (ha : ∀ r ∈ rs, r.Answered k i) (u : Unmet) :
    rs.foldlM (Unmet.check k i) u = .ok (u.add (shortfall k i u.component rs)) := by
  induction rs generalizing u with
  | nil => simp [shortfall, Unmet.add, pure, Except.pure]
  | cons r rs ih =>
      obtain ⟨hr, hrs⟩ := List.forall_mem_cons.mp ha
      calc (r :: rs).foldlM (Unmet.check k i) u
        _ = rs.foldlM (Unmet.check k i) (u.add (shortfall k i u.component [r])) := by
            rw [List.foldlM_cons, check_eq hr]
            rfl
        _ = .ok ((u.add (shortfall k i u.component [r])).add (shortfall k i u.component rs)) :=
            ih hrs _
        _ = .ok (u.add (shortfall k i u.component (r :: rs))) := by
            rw [Unmet.add_assoc, shortfall_cons u.component r rs]

theorem unmet_eq (ha : ∀ r ∈ rs, r.Answered k i) (component : String) :
    unmet k i component rs = .ok (shortfall k i component rs) :=
  (foldlM_check ha _).trans (by simp [Unmet.add, shortfall])

/-- Nothing is reported just if all requirements are met. -/
theorem shortfall_isEmpty_iff (ha : ∀ r ∈ rs, r.Answered k i) (component : String) :
    (shortfall k i component rs).isEmpty ↔ ∀ r ∈ rs, r.Met k i := by
  have hempty : (shortfall k i component rs).isEmpty ↔
      (∀ r ∈ rs, ¬ r.Missing k i) ∧ ∀ r ∈ rs, ¬ r.Mismatched k i := by
    simp [Unmet.isEmpty, shortfall]
  rw [hempty, ← forall₂_and]
  refine forall₂_congr fun r hr => ?_
  rw [← not_or, ← (ha r hr).not_met_iff, not_not]

/-- The packages that are reported are those of the requirements that are not met, each once. -/
theorem shortfall_wanted_perm (ha : ∀ r ∈ rs, r.Answered k i) (component : String) :
    (shortfall k i component rs).wanted.Perm
      ((rs.filter fun r => ¬ r.Met k i).map Requirement.wanted) := by
  have hmissing : rs.filter (fun r => r.Missing k i) =
      (rs.filter fun r => ¬ r.Met k i).filter fun r => r.Missing k i := by
    rw [List.filter_filter]
    refine List.filter_congr fun r hr => ?_
    by_cases h : r.Missing k i <;> simp [(ha r hr).not_met_iff, h]
  have hmismatched : rs.filter (fun r => r.Mismatched k i) =
      (rs.filter fun r => ¬ r.Met k i).filter fun r => !r.Missing k i := by
    rw [List.filter_filter]
    refine List.filter_congr fun r hr => ?_
    by_cases h : r.Mismatched k i
    · simp [(ha r hr).not_met_iff, h, h.1.not_missing]
    · simp [(ha r hr).not_met_iff, h]
  have hwanted : (shortfall k i component rs).wanted =
      (rs.filter (fun r => r.Missing k i) ++ rs.filter fun r => r.Mismatched k i).map
        Requirement.wanted := by
    rw [Unmet.wanted, shortfall, List.map_map, List.map_append]
    rfl
  rw [hwanted, hmissing, hmismatched]
  exact (List.filter_append_perm _ _).map _

end Package

namespace Action

open Package

variable {α β : Type}

/-! ## Methods behind the check -/

/-- What is done with a method on a host is one call of it with an argument: whatever the method is, all
that happens is what happens when it runs there. -/
def CallsOnce (use : (α → Action β) → Action β) (h : Host) (a : α) : Prop :=
  ∀ method, (use method).runOn h = (method a).runOn h

theorem runOn_require_eq_ite {k : Packaging} {h : Host} {rs : List Requirement}
    (ha : ∀ r ∈ rs, r.Answered k h.inventory) (component : String) :
    (require component rs k).runOn h =
      if ∀ r ∈ rs, r.Met k h.inventory then (.ok (), h)
      else (.error (.unmet (shortfall k h.inventory component rs)), h) := by
  rw [require, runOn_bind, runOn_get]
  simp only [unmet_eq ha, shortfall_isEmpty_iff ha]
  split <;> rfl

theorem runOn_requiring_of_met {k : Packaging} {h : Host} {rs : List Requirement}
    (ha : ∀ r ∈ rs, r.Answered k h.inventory) (hmet : ∀ r ∈ rs, r.Met k h.inventory)
    (component : String) (method : α → Action β) (a : α) :
    (requiring k component rs method a).runOn h = (method a).runOn h := by
  rw [requiring, runOn_bind, runOn_require_eq_ite ha, if_pos hmet]

theorem runOn_requiring_of_not_met {k : Packaging} {h : Host} {rs : List Requirement}
    (ha : ∀ r ∈ rs, r.Answered k h.inventory) (hmet : ¬ ∀ r ∈ rs, r.Met k h.inventory)
    (component : String) (method : α → Action β) (a : α) :
    (requiring k component rs method a).runOn h =
      (.error (.unmet (shortfall k h.inventory component rs)), h) := by
  rw [requiring, runOn_bind, runOn_require_eq_ite ha, if_neg hmet]

/-- However modules are imported and versions compared, as long as the check of each requirement comes to
an answer, a method behind the check is called, once and with its argument, just if all requirements are
met. Else it is not called, and the failure is about the packages that are missing, those in a version
that will not do, and the first import that failed: each requirement that is not met once, in their
order. -/
theorem requiring_checks {k : Packaging} {h : Host} {rs : List Requirement}
    (ha : ∀ r ∈ rs, r.Answered k h.inventory) (component : String) (a : α) :
    (CallsOnce (fun method : α → Action β => requiring k component rs method a) h a ↔
        ∀ r ∈ rs, r.Met k h.inventory) ∧
      ∃ u : Unmet, u.component = component ∧
        u.missing = (rs.filter fun r => r.Missing k h.inventory).map Requirement.wanted ∧
        u.mismatched = (rs.filter fun r => r.Mismatched k h.inventory).map
          (Requirement.mismatch k h.inventory) ∧
        u.cause = (rs.find? fun r => r.Missing k h.inventory).map (fun r => ⟨r.module⟩) ∧
        u.wanted.Perm ((rs.filter fun r => ¬ r.Met k h.inventory).map Requirement.wanted) ∧
        ((¬ ∀ r ∈ rs, r.Met k h.inventory) → ∀ method : α → Action β,
          (requiring k component rs method a).runOn h = (.error (.unmet u), h)) := by
  refine ⟨⟨fun hcalls => ?_, fun hmet method => runOn_requiring_of_met ha hmet component method a⟩,
    shortfall k h.inventory component rs, rfl, rfl, rfl, rfl, shortfall_wanted_perm ha component,
    fun hmet method => runOn_requiring_of_not_met ha hmet component method a⟩
  -- a method that fails in its own way tells a call from the failure of the check
  by_contra hmet
  have hran := hcalls fun _ => throw (.beneath .noHome)
  rw [runOn_requiring_of_not_met ha hmet, runOn_throw] at hran
  cases hran

/-- Requirements of all kinds: for any version, for versions in a range, and with a specifier that cannot
be read. -/
def assortedRequirements : List Requirement :=
  [⟨"plain", "plain", ""⟩, ⟨"mistune", "mistune", ">=3.0.0"⟩, ⟨"beautifulsoup4", "bs4", ">=4.9.0"⟩,
   ⟨"PyYAML", "yaml", "<7, !=6.0"⟩, ⟨"lxml", "lxml", "~=5"⟩, ⟨"rich", "rich", ">=10"⟩,
   ⟨"tomli", "tomli", ""⟩]

/-- On one host two of them are missing and three are in a version that will not do, on another the first
four are met. -/
theorem assortedRequirements_checked :
    let poor : Host := { inventory := ⟨["plain", "bs4", "yaml", "lxml", "rich"],
      [("beautifulsoup4", "4.8.2"), ("PyYAML", "6.0.1"), ("lxml", "5.1")]⟩ }
    let rich : Host := { inventory := ⟨["plain", "bs4", "yaml", "mistune"],
      [("beautifulsoup4", "4.12"), ("PyYAML", "6.0.1"), ("mistune", "3.0.2")]⟩ }
    (∀ r ∈ assortedRequirements, r.Answered .standard poor.inventory) ∧
      (∀ r ∈ assortedRequirements.take 4, r.Answered .standard rich.inventory) ∧
      (∀ method : Nat → Action Nat, (requiring .standard "demo" assortedRequirements method 7).runOn poor =
        (.error (.unmet
          { component := "demo"
            missing := [("mistune", ">=3.0.0"), ("tomli", "")]
            mismatched := [⟨"beautifulsoup4", ">=4.9.0", "4.8.2"⟩, ⟨"lxml", "~=5", "5.1"⟩,
              ⟨"rich", ">=10", "unknown"⟩]
            cause := some ⟨"mistune"⟩ }), poor)) ∧
      CallsOnce (fun method : Nat → Action Nat =>
        requiring .standard "demo" (assortedRequirements.take 4) method 7) rich 7 := by
  intro poor rich
  have hpoor : ∀ r ∈ assortedRequirements, r.Answered .standard poor.inventory := by decide +kernel
  have hrich : ∀ r ∈ assortedRequirements.take 4, r.Answered .standard rich.inventory := by
    decide +kernel
  refine ⟨hpoor, hrich, fun method => ?_, ?_⟩
  · obtain ⟨-, ⟨component, missing, mismatched, cause⟩, rfl, rfl, rfl, rfl, -, hruns⟩ :=
      @requiring_checks Nat Nat .standard poor assortedRequirements hpoor "demo" 7
    exact hruns (by decide +kernel) method
  · exact (requiring_checks hrich "demo" 7).1.mpr (by decide +kernel)

end Action

end MarkTex
