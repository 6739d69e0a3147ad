import MarkTex.Proofs.Latex.LiveDollars

/-!
# Restoring math piece by piece

Restoration scans a document once, from left to right. This module says what the scan does to a part
of a document when anything may follow: a part without dollars stays as it is, an escaped dollar
stays as it is, and a closed span gets its delimiters. Such parts are *settled*, and settled parts
one after the other are settled, so the restoration of a whole is put together from those of its
parts.

Of an arbitrary document it says that restoration does nothing but exchange dollars for delimiters:
`redelimited_restoreMath`.
-/

namespace MarkTex.Latex

/-! ## The scan over a known beginning -/

theorem piecesFrom_passed (a rest : Text) (escaped : Bool) :
    piecesFrom a.length escaped (a ++ rest) = piecesFrom 0 (escapedAfter escaped a) rest := by
  induction a generalizing escaped with
  | nil => rfl
  | cons c a ih => exact ih _

theorem spanAt?_of_ne_dollar {c : CodePoint} (h : c ≠ .scalar '$') (rest : Text) :
    spanAt? (c :: rest) = none := by
  unfold spanAt?
  split
  next heq => exact absurd (List.cons.inj heq).1 h
  next => rfl

theorem piecesFrom_plain {c : CodePoint} {escaped : Bool}
    (h : c ≠ .scalar '$' ∨ escaped = true) (rest : Text) :
    piecesFrom 0 escaped (c :: rest) =
      .plain c :: piecesFrom 0 (decide (c = .scalar '\\')) rest := by
  have hnone : (if escaped then none else spanAt? (c :: rest)) = none := by
    rcases h with h | rfl
    · rw [spanAt?_of_ne_dollar h, ite_self]
    · rfl
  simp only [piecesFrom, hnone]

/-- A span stands between two dollars. -/
theorem Span.source_eq (s : Span) :
    ∃ inner : Text, s.source = .scalar '$' :: (inner ++ [.scalar '$']) := by
  cases s with
  | less => exact ⟨[.scalar '<'], rfl⟩
  | greater => exact ⟨[.scalar '>'], rfl⟩
  | display body =>
      exact ⟨.scalar '$' :: (body ++ [.scalar '$']), by simp [source, Text.ofString, Text.ofChars]⟩
  | inline body => exact ⟨body, by simp [source, Text.ofString, Text.ofChars]⟩

theorem Span.escapedAfter_source (s : Span) (escaped : Bool) : escapedAfter escaped s.source = false := by
  obtain ⟨inner, hsource⟩ := s.source_eq
  simp [hsource]

theorem Span.source_display_append (d rest : Text) : (Span.display d).source ++ rest =
    .scalar '$' :: .scalar '$' :: (d ++ .scalar '$' :: .scalar '$' :: rest) := by
  simp [source, Text.ofString, Text.ofChars]

theorem Span.source_inline_append (m rest : Text) : (Span.inline m).source ++ rest =
    .scalar '$' :: (m ++ .scalar '$' :: rest) := by
  simp [source, Text.ofString, Text.ofChars]

theorem piecesFrom_span {s : Span} {rest : Text} (h : spanAt? (s.source ++ rest) = some s) :
    piecesFrom 0 false (s.source ++ rest) = .span s :: piecesFrom 0 false rest := by
  obtain ⟨inner, hsource⟩ := s.source_eq
  rw [hsource] at h ⊢
  have hpassed := piecesFrom_passed (inner ++ [.scalar '$']) rest
    (decide (CodePoint.scalar '$' = .scalar '\\'))
  rw [List.cons_append] at h ⊢
  simp only [piecesFrom, Bool.false_eq_true, if_false, h, hsource, List.length_cons,
    Nat.add_sub_cancel]
  rw [hpassed]
  simp

/-! ## Settled parts -/

/-- The rest of a document with its math restored; the flag says whether a backslash stands before
it. -/
def restoreFrom (escaped : Bool) (t : Text) : Text :=
  (piecesFrom 0 escaped t).flatMap Piece.restored

@[simp]
theorem restoreFrom_nil (escaped : Bool) : restoreFrom escaped [] = [] := rfl

theorem restoreFrom_plain {c : CodePoint} {escaped : Bool}
    (h : c ≠ .scalar '$' ∨ escaped = true) (rest : Text) :
    restoreFrom escaped (c :: rest) = c :: restoreFrom (decide (c = .scalar '\\')) rest := by
  rw [restoreFrom, piecesFrom_plain h, List.flatMap_cons]
  rfl

theorem restoreFrom_span {s : Span} {rest : Text} (h : spanAt? (s.source ++ rest) = some s) :
    restoreFrom false (s.source ++ rest) = s.restored ++ restoreFrom false rest := by
  rw [restoreFrom, piecesFrom_span h, List.flatMap_cons]
  rfl

/-- Restoration turns a part of a document into a given text, whatever follows the part, and ends it
without a backslash. -/
def Settled (part restored : Text) : Prop :=
  ∀ rest, restoreFrom false (part ++ rest) = restored ++ restoreFrom false rest

namespace Settled

theorem nil : Settled [] [] := fun _ => rfl

theorem append {a a' b b' : Text} (ha : Settled a a') (hb : Settled b b') :
    Settled (a ++ b) (a' ++ b') := by
  intro rest
  rw [List.append_assoc, ha, hb, List.append_assoc]

theorem restoreMath {t t' : Text} (h : Settled t t') : Latex.restoreMath t = t' := by
  have hend := h []
  rwa [restoreFrom_nil, List.append_nil, List.append_nil] at hend

theorem of_no_dollar {t : Text} (hdollar : .scalar '$' ∉ t) (hend : escapedAfter false t = false) :
    Settled t t := by
  have hscan : ∀ escaped rest, restoreFrom escaped (t ++ rest) =
      t ++ restoreFrom (escapedAfter escaped t) rest := by
    clear hend
    induction t with
    | nil => exact fun _ _ => rfl
    | cons c t ih =>
        intro escaped rest
        obtain ⟨hc, ht⟩ := not_or.mp (List.mem_cons.not.mp hdollar)
        rw [List.cons_append, restoreFrom_plain (Or.inl (Ne.symm hc)), ih ht]
        rfl
  intro rest
  rw [hscan, hend]

theorem escaped_dollar : Settled (Text.ofString "\\$") (Text.ofString "\\$") := by
  intro rest
  change restoreFrom false (.scalar '\\' :: .scalar '$' :: rest) = _
  rw [restoreFrom_plain (Or.inl (by decide)), restoreFrom_plain (Or.inr (by decide))]
  rfl

theorem of_spanAt {s : Span} (h : ∀ rest, spanAt? (s.source ++ rest) = some s) :
    Settled s.source s.restored :=
  fun rest => restoreFrom_span (h rest)

theorem less : Settled Span.less.source Span.less.restored := of_spanAt fun _ => rfl

theorem greater : Settled Span.greater.source Span.greater.restored := of_spanAt fun _ => rfl

end Settled

/-! ## Spans that are found whatever follows -/

/-- A display span is found wherever it stands if its end is the first that its body could have. -/
theorem spanAt?_display {d : Text} (hend : escapedAfter false d = false)
    (hpair : NoLivePair false (d ++ [.scalar '$'])) (rest : Text) :
    spanAt? ((Span.display d).source ++ rest) = some (.display d) := by
  rw [Span.source_display_append]
  simp only [spanAt?, displayBody?_eq_some_iff.mpr ⟨hend, hpair⟩]

theorem eq_nil_of_append_dollar {m rest tail : Text} (hlive : NoLive false m)
    (h : m ++ .scalar '$' :: rest = .scalar '$' :: tail) : m = [] := by
  cases m with
  | nil => rfl
  | cons c m => exact absurd ⟨(List.cons.inj h).1, rfl⟩ (noLive_cons_iff.mp hlive).1

/-- An inline span is found wherever it stands if its end is the first that its body could have. One with
nothing in it may begin a display span, and a comparison sign alone is found as a comparison. -/
theorem spanAt?_inline {m : Text} (hne : m ≠ []) (hless : m ≠ [.scalar '<'])
    (hgreater : m ≠ [.scalar '>']) (hend : escapedAfter false m = false) (hline : .scalar '\n' ∉ m)
    (hlive : NoLive false m) (rest : Text) :
    spanAt? ((Span.inline m).source ++ rest) = some (.inline m) := by
  have hbody : inlineBody? false (m ++ .scalar '$' :: rest) = some m :=
    inlineBody?_eq_some_iff.mpr ⟨hend, hline, hlive⟩
  rw [Span.source_inline_append]
  obtain ⟨c, m, rfl⟩ := List.exists_cons_of_ne_nil hne
  obtain ⟨hc, hm⟩ := noLive_cons_iff.mp hlive
  -- a longer body begins with neither a comparison between dollars nor a second dollar
  simp only [spanAt?]
  split
  next heq =>
    obtain ⟨rfl, htail⟩ := List.cons.inj heq
    exact absurd (by rw [eq_nil_of_append_dollar hm htail]) hless
  next heq =>
    obtain ⟨rfl, htail⟩ := List.cons.inj heq
    exact absurd (by rw [eq_nil_of_append_dollar hm htail]) hgreater
  next heq => exact absurd ⟨(List.cons.inj heq).1, rfl⟩ hc
  next => rw [hbody, Option.map_some]

theorem Settled.display {d : Text} (hdollar : .scalar '$' ∉ d)
    (hend : escapedAfter false d = false) :
    Settled (Span.display d).source (Span.display d).restored := by
  refine Settled.of_spanAt (spanAt?_display hend fun i hi => ?_)
  rcases hi.append_cases with hbody | ⟨j, rfl, hdelimiter⟩
  · exact absurd hbody.mem hdollar
  · -- the only dollar is the first of the end, and nothing more is looked at behind it
    simp

/-- A comparison sign alone between dollars is found as a comparison, which is restored alike. -/
theorem Settled.inline {m : Text} (hne : m ≠ []) (hdollar : .scalar '$' ∉ m)
    (hline : .scalar '\n' ∉ m) (hend : escapedAfter false m = false) :
    Settled (Span.inline m).source (Span.inline m).restored := by
  by_cases hless : m = [.scalar '<']
  · rw [hless]
    exact Settled.less
  by_cases hgreater : m = [.scalar '>']
  · rw [hgreater]
    exact Settled.greater
  exact Settled.of_spanAt
    (spanAt?_inline hne hless hgreater hend hline (noLive_of_no_dollar hdollar))

/-! ## Nothing but dollars changes -/

/-- One text is another whose dollars, some of them, have been exchanged for delimiters of LaTeX. -/
inductive Redelimited : Text → Text → Prop
  | nil : Redelimited [] []
  | keep {t t' : Text} (c : CodePoint) : Redelimited t t' → Redelimited (c :: t) (c :: t')
  | inline {t t' : Text} (c : Char) : c = '(' ∨ c = ')' → Redelimited t t' →
      Redelimited (.scalar '$' :: t) (.scalar '\\' :: .scalar c :: t')
  | display {t t' : Text} (c : Char) : c = '[' ∨ c = ']' → Redelimited t t' →
      Redelimited (.scalar '$' :: .scalar '$' :: t) (.scalar '\\' :: .scalar c :: t')

namespace Redelimited

theorem refl (t : Text) : Redelimited t t := by
  induction t with
  | nil => exact nil
  | cons c t ih => exact keep c ih

theorem append {a a' b b' : Text} (ha : Redelimited a a') (hb : Redelimited b b') :
    Redelimited (a ++ b) (a' ++ b') := by
  induction ha with
  | nil => exact hb
  | keep c _ ih => exact keep c ih
  | inline c hc _ ih => exact inline c hc ih
  | display c hc _ ih => exact display c hc ih

theorem span (s : Span) : Redelimited s.source s.restored := by
  have hopen := inline '(' (Or.inl rfl) nil
  have hclose := inline ')' (Or.inr rfl) nil
  cases s with
  | less => exact (hopen.append (refl (Text.ofString "<"))).append hclose
  | greater => exact (hopen.append (refl (Text.ofString ">"))).append hclose
  | display body =>
      have hopen := display '[' (Or.inl rfl) nil
      have hclose := display ']' (Or.inr rfl) nil
      exact (hopen.append (refl body)).append hclose
  | inline body => exact (hopen.append (refl body)).append hclose

end Redelimited

theorem displayBody?_eq_some {escaped : Bool} {t d : Text} (h : displayBody? escaped t = some d) :
    d ++ Text.ofString "$$" <+: t := by
  induction t generalizing escaped d with
  | nil => simp [displayBody?] at h
  | cons c t ih =>
      rw [displayBody?] at h
      split at h
      next hc =>
        obtain ⟨rest, hrest⟩ : ∃ rest, t = .scalar '$' :: rest := by
          cases t with
          | nil => simp at hc
          | cons x rest => exact ⟨rest, by rw [Option.some.inj hc.2.2]⟩
        cases h
        rw [hc.1, hrest]
        exact ⟨rest, rfl⟩
      next =>
        obtain ⟨d', hd', rfl⟩ := Option.map_eq_some_iff.mp h
        exact (List.prefix_cons_inj c).mpr (ih hd')

theorem inlineBody?_eq_some {escaped : Bool} {t m : Text} (h : inlineBody? escaped t = some m) :
    m ++ Text.ofString "$" <+: t := by
  induction t generalizing escaped m with
  | nil => simp [inlineBody?] at h
  | cons c t ih =>
      rw [inlineBody?] at h
      split at h
      next hc =>
        cases h
        rw [hc.1]
        exact ⟨t, rfl⟩
      next =>
        split at h
        · cases h
        · obtain ⟨m', hm', rfl⟩ := Option.map_eq_some_iff.mp h
          exact (List.prefix_cons_inj c).mpr (ih hm')

/-- A span that the scan finds stands at the place where it is found. -/
theorem source_prefix_of_spanAt? {t : Text} {s : Span} (h : spanAt? t = some s) :
    s.source <+: t := by
  unfold spanAt? at h
  split at h
  next rest =>
    split at h
    next tail => cases h; exact ⟨tail, rfl⟩
    next tail => cases h; exact ⟨tail, rfl⟩
    next body =>
      split at h
      next d hd =>
        cases h
        obtain ⟨tail, htail⟩ := displayBody?_eq_some hd
        exact ⟨tail, by rw [← htail]; simp [Span.source, Text.ofString, Text.ofChars]⟩
      next => cases h; exact ⟨body, rfl⟩
    next =>
      obtain ⟨m, hm, rfl⟩ := Option.map_eq_some_iff.mp h
      obtain ⟨tail, htail⟩ := inlineBody?_eq_some hm
      exact ⟨tail, by rw [← htail]; simp [Span.source, Text.ofString, Text.ofChars]⟩
  next => cases h

/-- How a document is cut from left to right: where no backslash stands before it and a span is found,
that span is a part, and else the next code point is. The flag says whether a backslash stands before
the document. -/
inductive Cut : Bool → Text → List Piece → Prop
  | nil (escaped : Bool) : Cut escaped [] []
  | plain {escaped : Bool} {c : CodePoint} {rest : Text} {ps : List Piece} :
      (escaped = false → spanAt? (c :: rest) = none) → Cut (decide (c = .scalar '\\')) rest ps →
      Cut escaped (c :: rest) (.plain c :: ps)
  | span {s : Span} {rest : Text} {ps : List Piece} : spanAt? (s.source ++ rest) = some s →
      Cut false rest ps → Cut false (s.source ++ rest) (.span s :: ps)

theorem cut_piecesFrom (escaped : Bool) (t : Text) : Cut escaped t (piecesFrom 0 escaped t) := by
  induction hlength : t.length using Nat.strongRecOn generalizing t escaped with
  | ind length ih =>
    cases t with
    | nil => exact .nil escaped
    | cons c rest =>
        subst hlength
        cases hspan : if escaped then none else spanAt? (c :: rest) with
        | none =>
            have hnone : escaped = false → spanAt? (c :: rest) = none := by
              rintro rfl
              exact hspan
            simp only [piecesFrom, hspan]
            exact .plain hnone (ih rest.length (Nat.lt_succ_self _) _ rest rfl)
        | some s =>
            cases escaped with
            | true => cases hspan
            | false =>
                replace hspan : spanAt? (c :: rest) = some s := hspan
                obtain ⟨rest', hrest⟩ := source_prefix_of_spanAt? hspan
                obtain ⟨inner, hinner⟩ := s.source_eq
                have hshorter : rest'.length < (c :: rest).length := by
                  rw [← hrest, hinner]
                  simp only [List.length_append, List.length_cons]
                  omega
                rw [← hrest] at hspan ⊢
                rw [piecesFrom_span hspan]
                exact .span hspan (ih rest'.length hshorter _ rest' rfl)

theorem Cut.redelimited {escaped : Bool} {t : Text} {ps : List Piece} (h : Cut escaped t ps) :
    Redelimited t (ps.flatMap Piece.restored) := by
  induction h with
  | nil => exact .nil
  | @plain _ c _ _ _ _ ih => exact .keep c ih
  | @span s _ _ _ _ ih => exact (Redelimited.span s).append ih

/-- Restoration does nothing but exchange dollars for delimiters. -/
theorem redelimited_restoreMath (t : Text) : Redelimited t (restoreMath t) :=
  (cut_piecesFrom false t).redelimited

end MarkTex.Latex
