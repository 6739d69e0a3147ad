import MarkTex.Proofs.Latex.Restoration

/-!
# Which dollars pair

Restoration is a pairing of the live dollars of a document. Every code point of a document has a role
in it: it is left between spans, it is part of a delimiter, or it stands inside a span. Delimiters are
live dollars only, an inline span goes to the next live dollar of its line, a display span to the next
live dollar with another behind it, and no live dollar that is left has a live dollar behind it on its
line (`restoreMath_pairs`).
-/

namespace MarkTex.Latex

/-! ## What is found -/

/-- A span as it can be found, whatever stands behind it. -/
def Span.Closed : Span → Prop
  | less | greater => True
  | display d => escapedAfter false d = false ∧ NoLivePair false (d ++ [.scalar '$'])
  | inline m => escapedAfter false m = false ∧ .scalar '\n' ∉ m ∧ NoLive false m

theorem Span.closed_of_spanAt? {s : Span} {rest : Text} (h : spanAt? (s.source ++ rest) = some s) :
    s.Closed := by
  cases s with
  | less => trivial
  | greater => trivial
  | display d =>
      rw [source_display_append] at h
      simp only [spanAt?] at h
      split at h
      next d' hbody =>
        cases h
        exact displayBody?_eq_some_iff.mp hbody
      next => cases h
  | inline m =>
      rw [source_inline_append] at h
      simp only [spanAt?] at h
      split at h
      next => cases h
      next => cases h
      next =>
        split at h
        next => cases h
        next =>
          -- two dollars without an end
          cases h
          exact ⟨rfl, List.not_mem_nil, fun _ => not_liveAt_nil⟩
      next =>
        obtain ⟨m', hbody, hm⟩ := Option.map_eq_some_iff.mp h
        cases hm
        exact inlineBody?_eq_some_iff.mp hbody

theorem spanAt?_dollar_eq_none_iff {rest : Text} :
    spanAt? (.scalar '$' :: rest) = none ↔ LiveLater false rest := by
  rw [← inlineBody?_eq_none_iff]
  simp only [spanAt?]
  split
  next => simp [inlineBody?]
  next => simp [inlineBody?]
  next => split <;> simp [inlineBody?]
  next => simp

/-! ## Roles -/

/-- What a code point of a document is to its cutting. -/
inductive Role where
  /-- It is left between spans. -/
  | gap
  /-- It is part of the delimiter of a span, and goes. -/
  | delimiter
  /-- It stands in an inline span or is a comparison sign. -/
  | inline
  /-- It stands in a display span. -/
  | display
deriving DecidableEq

def Span.roles : Span → List Role
  | less | greater => [.delimiter, .inline, .delimiter]
  | display d => .delimiter :: .delimiter :: (d.map (fun _ => .display) ++ [.delimiter, .delimiter])
  | inline m => .delimiter :: (m.map (fun _ => .inline) ++ [.delimiter])

def Piece.roles : Piece → List Role
  | plain _ => [.gap]
  | span s => s.roles

theorem Piece.length_roles (p : Piece) : p.roles.length = p.source.length := by
  rcases p with c | s
  · rfl
  · cases s <;> simp [roles, source, Span.roles, Span.source, Text.ofString, Text.ofChars]

/-- What a role says of the place that has it: delimiters are live; no live dollar and no end of a line
stands in an inline span; no live dollar of a display span has another dollar behind it; and behind a
live dollar that is left no other is live on its line. -/
def Role.FitsAt (escaped : Bool) (t : Text) (i : Nat) : Role → Prop
  | gap => LiveAt escaped t i → ∀ j, i < j → LiveAt escaped t j →
      ∃ k, i < k ∧ k < j ∧ t[k]? = some (.scalar '\n')
  | delimiter => LiveAt escaped t i
  | inline => ¬LiveAt escaped t i ∧ t[i]? ≠ some (.scalar '\n')
  | display => LiveAt escaped t i → t[i + 1]? ≠ some (.scalar '$')

/-- Each place of a text has a role that fits it. -/
def RolesFit (escaped : Bool) (t : Text) (rs : List Role) : Prop :=
  ∀ i (r : Role), rs[i]? = some r → r.FitsAt escaped t i

section
variable {escaped : Bool} {c : CodePoint} {t rest : Text} {r : Role} {rs : List Role} {i : Nat}

theorem Role.FitsAt.cons (h : r.FitsAt (decide (c = .scalar '\\')) t i) :
    r.FitsAt escaped (c :: t) (i + 1) := by
  cases r with
  | gap =>
      intro hlive j hj hlive'
      obtain ⟨j, rfl⟩ := Nat.exists_eq_succ_of_ne_zero (Nat.ne_of_gt (Nat.zero_lt_of_lt hj))
      obtain ⟨k, hik, hkj, hline⟩ :=
        h (liveAt_cons_succ.mp hlive) j (Nat.lt_of_succ_lt_succ hj) (liveAt_cons_succ.mp hlive')
      exact ⟨k + 1, Nat.succ_lt_succ hik, Nat.succ_lt_succ hkj, hline⟩
  | delimiter => exact liveAt_cons_succ.mpr h
  | inline => exact ⟨liveAt_cons_succ.not.mpr h.1, h.2⟩
  | display => exact fun hlive => h (liveAt_cons_succ.mp hlive)

namespace RolesFit

theorem nil : RolesFit escaped t [] := fun _ _ h => by simp at h

theorem cons (hr : r.FitsAt escaped (c :: t) 0) (h : RolesFit (decide (c = .scalar '\\')) t rs) :
    RolesFit escaped (c :: t) (r :: rs) := by
  intro i r' hr'
  cases i with
  | zero =>
      cases hr'
      exact hr
  | succ i => exact (h i r' hr').cons

theorem delimiter (h : RolesFit false t rs) :
    RolesFit false (.scalar '$' :: t) (.delimiter :: rs) :=
  cons (liveAt_cons_zero.mpr ⟨rfl, rfl⟩) h

theorem inlineBody {m : Text} (hend : escapedAfter escaped m = false) (hline : .scalar '\n' ∉ m)
    (hlive : NoLive escaped m) (h : RolesFit false rest rs) :
    RolesFit escaped (m ++ rest) (m.map (fun _ => .inline) ++ rs) := by
  induction m generalizing escaped with
  | nil =>
      obtain rfl : escaped = false := hend
      exact h
  | cons c m ih =>
      obtain ⟨hc, hm⟩ := noLive_cons_iff.mp hlive
      obtain ⟨hcl, hml⟩ := not_or.mp (List.mem_cons.not.mp hline)
      refine cons ⟨liveAt_cons_zero.not.mpr hc, ?_⟩ (ih hend hml hm)
      exact fun hnew => hcl (Option.some.inj hnew).symm

theorem displayBody {d : Text} (hend : escapedAfter escaped d = false)
    (hpair : NoLivePair escaped (d ++ [.scalar '$']))
    (h : RolesFit false (.scalar '$' :: rest) rs) :
    RolesFit escaped (d ++ .scalar '$' :: rest) (d.map (fun _ => .display) ++ rs) := by
  induction d generalizing escaped with
  | nil =>
      obtain rfl : escaped = false := hend
      exact h
  | cons c d ih =>
      obtain ⟨hc, hd⟩ := noLivePair_cons_iff.mp hpair
      refine cons (fun hlive hnext => hc ?_) (ih hend hd)
      obtain ⟨hdollar, hescaped⟩ := liveAt_cons_zero.mp hlive
      refine ⟨hdollar, hescaped, ?_⟩
      -- the dollar that comes next is in the body or the first of its end
      cases d <;> exact hnext

theorem span {s : Span} (hs : s.Closed) (h : RolesFit false rest rs) :
    RolesFit false (s.source ++ rest) (s.roles ++ rs) := by
  have hsign {c : CodePoint} (hdollar : c ≠ .scalar '$') (hline : c ≠ .scalar '\n')
      (hslash : c ≠ .scalar '\\') : RolesFit false (.scalar '$' :: c :: .scalar '$' :: rest)
        (.delimiter :: .inline :: .delimiter :: rs) := by
    have hclosing : RolesFit (decide (c = .scalar '\\')) (.scalar '$' :: rest) (.delimiter :: rs) := by
      rw [decide_eq_false hslash]
      exact h.delimiter
    refine delimiter (cons ⟨fun hlive => hdollar (liveAt_cons_zero.mp hlive).1, ?_⟩ hclosing)
    exact fun hnew => hline (Option.some.inj hnew)
  cases s with
  | less => exact hsign (by decide) (by decide) (by decide)
  | greater => exact hsign (by decide) (by decide) (by decide)
  | display d =>
      have hbody := (displayBody hs.1 hs.2 (delimiter (delimiter h))).delimiter.delimiter
      simpa [Span.source, Span.roles, Text.ofString, Text.ofChars] using hbody
  | inline m =>
      have hbody := (inlineBody hs.1 hs.2.1 hs.2.2 (delimiter h)).delimiter
      simpa [Span.source, Span.roles, Text.ofString, Text.ofChars] using hbody

end RolesFit

end

namespace Cut

variable {escaped : Bool} {t : Text} {ps : List Piece}

theorem flatMap_source (h : Cut escaped t ps) : ps.flatMap Piece.source = t := by
  induction h with
  | nil => rfl
  | @plain _ c _ _ _ _ ih => exact congrArg (c :: ·) ih
  | @span s _ _ _ _ ih => exact congrArg (s.source ++ ·) ih

theorem rolesFit (h : Cut escaped t ps) : RolesFit escaped t (ps.flatMap Piece.roles) := by
  induction h with
  | nil => exact .nil
  | @plain escaped c rest _ hnone _ ih =>
      refine .cons (fun hlive j hj hlive' => ?_) ih
      obtain ⟨rfl, rfl⟩ := liveAt_cons_zero.mp hlive
      obtain ⟨j, rfl⟩ := Nat.exists_eq_succ_of_ne_zero (Nat.ne_of_gt hj)
      obtain ⟨k, hk, hline⟩ :=
        spanAt?_dollar_eq_none_iff.mp (hnone rfl) j (liveAt_cons_succ.mp hlive')
      exact ⟨k + 1, Nat.succ_pos k, Nat.succ_lt_succ hk, hline⟩
  | span hfound _ ih => exact .span (Span.closed_of_spanAt? hfound) ih

end Cut

/-- A document is its parts one after the other, its restoration is theirs restored, and each of its
places has a role that fits it. So a dollar behind a backslash is in no delimiter, and of two live
dollars that stay outside display spans the end of a line stands between. -/
theorem restoreMath_pairs (t : Text) : ∃ ps : List Piece,
    ps.flatMap Piece.source = t ∧ restoreMath t = ps.flatMap Piece.restored ∧
      (ps.flatMap Piece.roles).length = t.length ∧
      (∀ i (r : Role), (ps.flatMap Piece.roles)[i]? = some r → r.FitsAt false t i) ∧
      (∀ i, t[i]? = some (.scalar '$') → ¬LiveAt false t i →
        (ps.flatMap Piece.roles)[i]? ≠ some .delimiter) ∧
      ∀ i j, i < j → LiveAt false t i → LiveAt false t j →
        (ps.flatMap Piece.roles)[i]? ∈ [some .gap, some .inline] →
        (ps.flatMap Piece.roles)[j]? ∈ [some .gap, some .inline] →
        ∃ k, i < k ∧ k < j ∧ t[k]? = some (.scalar '\n') := by
  have hcut := cut_piecesFrom false t
  have hfit := hcut.rolesFit
  refine ⟨pieces t, hcut.flatMap_source, rfl, ?_, hfit, fun i _ hescaped hrole => ?_, ?_⟩
  · rw [← congrArg List.length hcut.flatMap_source]
    simp only [List.length_flatMap, Piece.length_roles, pieces]
  · exact hescaped (hfit i _ hrole)
  · intro i j hij hi hj hrole _
    rcases List.mem_pair.mp hrole with hgap | hinline
    · exact hfit i _ hgap hi j hij hj
    · exact absurd hi (hfit i _ hinline).1

end MarkTex.Latex
