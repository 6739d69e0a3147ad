import MarkTex.Latex.Escape
import Mathlib.Data.List.Basic

/-!
# Escaping as a substitution

The rules of escaping run one after the other over a whole text. No rule touches what an earlier one
has put in, so together they replace each code point by its own replacement: `escape_eq_flatMap`.
What holds of the replacements and is kept by concatenation therefore holds of escaped text.

That no rule touches what another has put in is said of a run that keeps with each code point where it
comes from: `escape_simultaneous`.
-/

namespace MarkTex.Latex

/-- The code points that escaping replaces. -/
def specialCodePoints : List CodePoint := specials.map fun rule => .scalar rule.1

/-! ## The rules, one after the other -/

/-- A text with the replacements of some rules made one after the other. -/
def applyRules (rules : List (Char × Text)) (t : Text) : Text :=
  rules.foldl (fun acc rule => acc.replace rule.1 rule.2) t

theorem applyRules_append (rules : List (Char × Text)) (a b : Text) :
    applyRules rules (a ++ b) = applyRules rules a ++ applyRules rules b := by
  induction rules generalizing a b with
  | nil => rfl
  | cons rule rules ih =>
      simp only [applyRules, List.foldl_cons, Text.replace_append] at ih ⊢
      exact ih _ _

theorem replace_of_notMem {t : Text} {c : Char} (h : .scalar c ∉ t) (r : Text) :
    t.replace c r = t := by
  induction t with
  | nil => rfl
  | cons x t ih =>
      obtain ⟨hx, ht⟩ := not_or.mp (List.mem_cons.not.mp h)
      rw [Text.replace, List.flatMap_cons, if_neg (Ne.symm hx), List.singleton_append]
      exact congrArg (x :: ·) (ih ht)

theorem applyRules_of_notMem (rules : List (Char × Text)) {t : Text}
    (h : ∀ rule ∈ rules, .scalar rule.1 ∉ t) : applyRules rules t = t := by
  induction rules with
  | nil => rfl
  | cons rule rules ih =>
      obtain ⟨hfirst, hrules⟩ := List.forall_mem_cons.mp h
      rw [applyRules, List.foldl_cons, replace_of_notMem hfirst]
      exact ih hrules

/-- No rule is for a character that a rule before it puts in. -/
def Apart (rules : List (Char × Text)) : Prop :=
  rules.Pairwise fun earlier later => .scalar later.1 ∉ earlier.2

theorem apart_specials : Apart specials := by
  unfold Apart
  decide

/-- Of rules that are apart only the one for a code point changes it. -/
theorem applyRules_singleton {rules : List (Char × Text)} (h : Apart rules) (x : CodePoint) :
    applyRules rules [x] =
      match rules.find? (fun rule => .scalar rule.1 = x) with
      | some rule => rule.2
      | none => [x] := by
  induction rules with
  | nil => rfl
  | cons rule rules ih =>
      obtain ⟨hfirst, hrules⟩ := List.pairwise_cons.mp h
      rw [applyRules, List.foldl_cons]
      by_cases hx : .scalar rule.1 = x
      · have hput : Text.replace [x] rule.1 rule.2 = rule.2 := by simp [Text.replace, hx]
        simp only [hput, List.find?_cons, hx, decide_true]
        exact applyRules_of_notMem rules hfirst
      · have hkept : Text.replace [x] rule.1 rule.2 = [x] :=
          replace_of_notMem (List.mem_singleton.not.mpr hx) _
        simp only [hkept, List.find?_cons, hx, decide_false]
        exact ih hrules

theorem replacement_of_notMem {x : CodePoint} (hx : x ∉ specialCodePoints) :
    replacement x = [x] := by
  have hnone : specials.find? (fun rule => CodePoint.scalar rule.1 = x) = none := by
    rw [List.find?_eq_none]
    intro rule hrule heq
    exact hx (List.mem_map.mpr ⟨rule, hrule, of_decide_eq_true heq⟩)
  simp only [replacement, hnone]

theorem replacement_of_mem {rule : Char × Text} (h : rule ∈ specials) :
    replacement (.scalar rule.1) = rule.2 := by
  have hall : ∀ rule ∈ specials, replacement (.scalar rule.1) = rule.2 := by decide
  exact hall rule h

theorem escape_singleton (x : CodePoint) : escape [x] = replacement x :=
  applyRules_singleton apart_specials x

theorem escape_append (a b : Text) : escape (a ++ b) = escape a ++ escape b :=
  applyRules_append specials a b

/-- Escaping replaces each code point by its own replacement. -/
theorem escape_eq_flatMap (t : Text) : escape t = t.flatMap replacement := by
  induction t with
  | nil => rfl
  | cons x t ih =>
      rw [← List.singleton_append, escape_append, escape_singleton, ih, List.flatMap_append,
        List.flatMap_singleton]

theorem escape_cons (x : CodePoint) (t : Text) : escape (x :: t) = replacement x ++ escape t := by
  rw [escape_eq_flatMap, escape_eq_flatMap, List.flatMap_cons]

/-! ## What the replacements have, escaped text has -/

/-- A code point is one that escaping leaves alone, or it has a rule. -/
theorem replacement_cases (x : CodePoint) :
    (x ∉ specialCodePoints ∧ replacement x = [x]) ∨
      ∃ rule ∈ specials, x = .scalar rule.1 ∧ replacement x = rule.2 := by
  by_cases hx : x ∈ specialCodePoints
  · obtain ⟨rule, hrule, rfl⟩ := List.mem_map.mp hx
    exact Or.inr ⟨rule, hrule, rfl, replacement_of_mem hrule⟩
  · exact Or.inl ⟨hx, replacement_of_notMem hx⟩

/-- A property of texts that concatenation keeps holds of escaped text if it holds of every
replacement and of every other code point. -/
theorem escape_induction {P : Text → Prop} (nil : P []) (append : ∀ a b, P a → P b → P (a ++ b))
    (plain : ∀ x, x ∉ specialCodePoints → P [x]) (rule : ∀ rule ∈ specials, P rule.2) (t : Text) :
    P (escape t) := by
  rw [escape_eq_flatMap]
  induction t with
  | nil => exact nil
  | cons x t ih =>
      rw [List.flatMap_cons]
      apply append _ _ _ ih
      rcases replacement_cases x with ⟨hx, heq⟩ | ⟨r, hr, _, heq⟩
      · rw [heq]
        exact plain x hx
      · rw [heq]
        exact rule r hr

/-! ## Where a code point comes from -/

/-- How a code point has come into a text while the rules ran over it. -/
inductive Origin where
  /-- It stood in the text before any rule. -/
  | original
  /-- The rule for a character has put it in. -/
  | rule (c : Char)
deriving DecidableEq

/-- One rule over a text whose code points know their origin. -/
def replaceTraced (t : List (CodePoint × Origin)) (rule : Char × Text) :
    List (CodePoint × Origin) :=
  t.flatMap fun x => if x.1 = .scalar rule.1 then rule.2.map (·, .rule rule.1) else [x]

/-- The text that some rules one after the other make of a text, each code point with its origin. -/
def traced (rules : List (Char × Text)) (t : Text) : List (CodePoint × Origin) :=
  rules.foldl replaceTraced (t.map (·, .original))

theorem map_fst_replaceTraced (t : List (CodePoint × Origin)) (rule : Char × Text) :
    (replaceTraced t rule).map Prod.fst = Text.replace (t.map Prod.fst) rule.1 rule.2 := by
  simp only [replaceTraced, Text.replace, List.map_flatMap, List.flatMap_map]
  congr 1
  funext x
  split
  next =>
    rw [List.map_map]
    exact List.map_id rule.2
  next => rfl

theorem map_fst_foldl_replaceTraced (rules : List (Char × Text)) (t : List (CodePoint × Origin)) :
    (rules.foldl replaceTraced t).map Prod.fst = applyRules rules (t.map Prod.fst) := by
  induction rules generalizing t with
  | nil => rfl
  | cons rule rules ih =>
      rw [List.foldl_cons, ih, map_fst_replaceTraced]
      rfl

/-- Without the origins the traced text is the text that the rules make. -/
theorem map_fst_traced (rules : List (Char × Text)) (t : Text) :
    (traced rules t).map Prod.fst = applyRules rules t := by
  rw [traced, map_fst_foldl_replaceTraced, List.map_map]
  exact congrArg (applyRules rules) (List.map_id t)

theorem mem_replaceTraced {t : List (CodePoint × Origin)} {rule : Char × Text}
    {x : CodePoint × Origin} (h : x ∈ replaceTraced t rule) :
    x ∈ t ∨ x.2 = .rule rule.1 ∧ x.1 ∈ rule.2 := by
  obtain ⟨y, hy, hx⟩ := List.mem_flatMap.mp h
  split at hx
  · obtain ⟨c, hc, rfl⟩ := List.mem_map.mp hx
    exact .inr ⟨rfl, hc⟩
  · rw [List.mem_singleton.mp hx]
    exact .inl hy

/-- What did not stand in the text before is part of what one of the rules puts in. -/
theorem mem_foldl_replaceTraced {rules : List (Char × Text)} {t : List (CodePoint × Origin)}
    {x : CodePoint × Origin} (h : x ∈ rules.foldl replaceTraced t) :
    x ∈ t ∨ ∃ rule ∈ rules, x.2 = .rule rule.1 ∧ x.1 ∈ rule.2 := by
  induction rules generalizing t with
  | nil => exact .inl h
  | cons rule rules ih =>
      rcases ih h with hstep | ⟨later, hlater, hput⟩
      · rcases mem_replaceTraced hstep with hmem | hput
        · exact .inl hmem
        · exact .inr ⟨rule, List.mem_cons_self, hput⟩
      · exact .inr ⟨later, List.mem_cons_of_mem _ hlater, hput⟩

/-- A rule finds nothing to replace in what other rules have put in, if its character is in none of the
replacements. -/
theorem put_notMem_traced {rules : List (Char × Text)} {rule : Char × Text}
    (hapart : ∀ other ∈ rules, .scalar rule.1 ∉ other.2) (t : Text) (c : Char) :
    (.scalar rule.1, .rule c) ∉ traced rules t := by
  intro hmem
  rcases mem_foldl_replaceTraced hmem with horiginal | ⟨other, hother, _, hput⟩
  · obtain ⟨_, _, heq⟩ := List.mem_map.mp horiginal
    cases heq
  · exact hapart other hother hput

theorem Apart.before {rules : List (Char × Text)} (h : Apart rules) (k : Fin rules.length) :
    ∀ other ∈ rules.take k, .scalar rules[k].1 ∉ other.2 := by
  have hsplit : rules.take k ++ rules[k] :: rules.drop (k + 1) = rules := by
    rw [Fin.getElem_fin, ← List.drop_eq_getElem_cons k.isLt, List.take_append_drop]
  rw [Apart, ← hsplit] at h
  exact fun other hother => (List.pairwise_append.mp h).2.2 other hother _ List.mem_cons_self

/-- The rules, run over a text one after the other, replace each code point by its own replacement. When
it is a rule's turn the text is what the rules before it have made of the original, and none of them has
put in anything that the rule replaces. So texts one after the other are escaped each on its own. -/
theorem escape_simultaneous :
    (∀ t, escape t = applyRules specials t ∧ escape t = t.flatMap replacement) ∧
    (∀ (k : Fin specials.length) (t : Text),
      (traced (specials.take k) t).map Prod.fst = applyRules (specials.take k) t ∧
        ∀ c, (.scalar specials[k].1, .rule c) ∉ traced (specials.take k) t) ∧
    ∀ a b, escape (a ++ b) = escape a ++ escape b :=
  ⟨fun t => ⟨rfl, escape_eq_flatMap t⟩,
    fun k t => ⟨map_fst_traced _ t, put_notMem_traced (apart_specials.before k) t⟩,
    applyRules_append specials⟩

end MarkTex.Latex
