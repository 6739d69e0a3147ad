import MarkTex.Proofs.Latex.Pairing

/-!
# Loose dollars

Live dollars that are left by restoration are alone on their lines, but for those that stand in display
spans. A document in which live dollars are alone on their lines stays as it is
(`restoreFrom_of_oneLive`), so restoring twice is restoring once unless a display span holds live dollars
(`restoreMath_restoreMath`).
-/

namespace MarkTex.Latex

/-- No line of a text has two live dollars. -/
def OneLive (escaped : Bool) (t : Text) : Prop :=
  ∀ i j, i < j → LiveAt escaped t i → LiveAt escaped t j →
    ∃ k, i < k ∧ k < j ∧ t[k]? = some (.scalar '\n')

section
variable {escaped : Bool} {c : CodePoint} {t a b : Text} {ps : List Piece}

theorem oneLive_cons_iff : OneLive escaped (c :: t) ↔
    (c = .scalar '$' ∧ escaped = false → LiveLater (decide (c = .scalar '\\')) t) ∧
      OneLive (decide (c = .scalar '\\')) t := by
  constructor
  · intro h
    constructor
    · intro hlive j hj
      obtain ⟨k, hk, hkj, hline⟩ := h 0 (j + 1) (Nat.succ_pos j) (liveAt_cons_zero.mpr hlive)
        (liveAt_cons_succ.mpr hj)
      obtain ⟨k, rfl⟩ := Nat.exists_eq_succ_of_ne_zero (Nat.ne_of_gt hk)
      exact ⟨k, Nat.lt_of_succ_lt_succ hkj, hline⟩
    · intro i j hij hi hj
      obtain ⟨k, hik, hkj, hline⟩ := h (i + 1) (j + 1) (Nat.succ_lt_succ hij)
        (liveAt_cons_succ.mpr hi) (liveAt_cons_succ.mpr hj)
      obtain ⟨k, rfl⟩ := Nat.exists_eq_succ_of_ne_zero (Nat.ne_of_gt (Nat.zero_lt_of_lt hik))
      exact ⟨k, Nat.lt_of_succ_lt_succ hik, Nat.lt_of_succ_lt_succ hkj, hline⟩
  · rintro ⟨hfirst, hrest⟩ i j hij hi hj
    obtain ⟨j, rfl⟩ := Nat.exists_eq_succ_of_ne_zero (Nat.ne_of_gt (Nat.zero_lt_of_lt hij))
    rw [liveAt_cons_succ] at hj
    cases i with
    | zero =>
        obtain ⟨k, hk, hline⟩ := hfirst (liveAt_cons_zero.mp hi) j hj
        exact ⟨k + 1, Nat.succ_pos k, Nat.succ_lt_succ hk, hline⟩
    | succ i =>
        obtain ⟨k, hik, hkj, hline⟩ :=
          hrest i j (Nat.lt_of_succ_lt_succ hij) (liveAt_cons_succ.mp hi) hj
        exact ⟨k + 1, Nat.succ_lt_succ hik, Nat.succ_lt_succ hkj, hline⟩

/-- A text without live dollars changes nothing of what comes behind it. -/
theorem OneLive.append (ha : NoLive escaped a) (hb : OneLive (escapedAfter escaped a) b) :
    OneLive escaped (a ++ b) := by
  induction a generalizing escaped with
  | nil => exact hb
  | cons c a ih =>
      obtain ⟨hc, ha⟩ := noLive_cons_iff.mp ha
      exact oneLive_cons_iff.mpr ⟨fun hlive => absurd hlive hc, ih ha hb⟩

theorem OneLive.nil : OneLive escaped [] := fun _ _ _ hi => absurd hi not_liveAt_nil

namespace Cut

/-- Where each line has one live dollar at most, no span is found. -/
theorem restored_of_oneLive (h : Cut escaped t ps) (hone : OneLive escaped t) :
    ps.flatMap Piece.restored = t := by
  induction h with
  | nil => rfl
  | @plain _ c _ _ _ _ ih => exact congrArg (c :: ·) (ih (oneLive_cons_iff.mp hone).2)
  | @span s rest _ hfound _ _ =>
      -- a span that is found closes on its line
      obtain ⟨inner, hsource⟩ := s.source_eq
      rw [hsource, List.cons_append] at hfound hone
      rw [spanAt?_dollar_eq_none_iff.mpr ((oneLive_cons_iff.mp hone).1 ⟨rfl, rfl⟩)] at hfound
      cases hfound

theorem liveLater (h : Cut escaped t ps) (hlater : LiveLater escaped t) :
    LiveLater escaped (ps.flatMap Piece.restored) := by
  induction h with
  | nil => exact hlater
  | plain _ _ ih =>
      obtain ⟨hlive, hrest⟩ := liveLater_cons_iff.mp hlater
      exact liveLater_cons_iff.mpr ⟨hlive, hrest.imp_right ih⟩
  | @span s _ _ _ _ _ =>
      obtain ⟨inner, hsource⟩ := s.source_eq
      rw [hsource, List.cons_append] at hlater
      exact absurd ⟨rfl, rfl⟩ (liveLater_cons_iff.mp hlater).1

end Cut

theorem Span.noLive_restored {s : Span} (hs : s.Closed)
    (hdisplay : ∀ d, s = .display d → NoLive false d) : NoLive false s.restored := by
  have hbetween {opening body closing : Text} (hopening : .scalar '$' ∉ opening)
      (hclosing : .scalar '$' ∉ closing) (hend : escapedAfter false opening = false)
      (hbody : NoLive false body) : NoLive false (opening ++ body ++ closing) := by
    refine noLive_append_iff.mpr ⟨noLive_append_iff.mpr ⟨noLive_of_no_dollar hopening, ?_⟩,
      noLive_of_no_dollar hclosing⟩
    rwa [hend]
  cases s with
  | less => exact noLive_of_no_dollar (by decide)
  | greater => exact noLive_of_no_dollar (by decide)
  | display d => exact hbetween (by decide) (by decide) rfl (hdisplay d rfl)
  | inline m => exact hbetween (by decide) (by decide) rfl hs.2.2

theorem Span.escapedAfter_restored (s : Span) : escapedAfter false s.restored = false := by
  cases s <;> simp [restored, Text.ofString, Text.ofChars]

/-- What is left of the live dollars of a document is one on each line, but for those that stand in
display spans. -/
theorem Cut.oneLive (h : Cut escaped t ps)
    (hdisplay : ∀ d, .span (.display d) ∈ ps → NoLive false d) :
    OneLive escaped (ps.flatMap Piece.restored) := by
  induction h with
  | nil => exact .nil
  | @plain escaped c rest ps hnone hcut ih =>
      refine oneLive_cons_iff.mpr ⟨fun ⟨hdollar, hescaped⟩ => hcut.liveLater ?_,
        ih fun d hd => hdisplay d (List.mem_cons_of_mem _ hd)⟩
      subst hdollar
      exact spanAt?_dollar_eq_none_iff.mp (hnone hescaped)
  | @span s _ _ hfound _ ih =>
      have hrestored := s.noLive_restored (Span.closed_of_spanAt? hfound)
        fun d hd => hdisplay d (hd ▸ List.mem_cons_self)
      refine .append hrestored ?_
      change OneLive (escapedAfter false s.restored) _
      rw [s.escapedAfter_restored]
      exact ih fun d hd => hdisplay d (List.mem_cons_of_mem _ hd)

end

theorem restoreFrom_of_oneLive {escaped : Bool} {t : Text} (hone : OneLive escaped t) :
    restoreFrom escaped t = t :=
  (cut_piecesFrom escaped t).restored_of_oneLive hone

/-- Restoring a document twice is restoring it once, if no display span of it holds a live dollar. -/
theorem restoreMath_restoreMath {t : Text}
    (hdisplay : ∀ d, .span (.display d) ∈ pieces t → NoLive false d) :
    restoreMath (restoreMath t) = restoreMath t :=
  restoreFrom_of_oneLive ((cut_piecesFrom false t).oneLive hdisplay)

/-- A display span over two lines with an escaped dollar in it, a comparison sign, a formula with nothing
in it, and a loose dollar on each line. -/
def looseDollars : Text := Text.ofString "$$a\\$\nb$$ $ \\$\n$<$ $$ $"

theorem restoreMath_looseDollars :
    (∀ d, .span (.display d) ∈ pieces looseDollars → NoLive false d) ∧
      restoreMath (restoreMath looseDollars) = restoreMath looseDollars := by
  have hpieces : pieces looseDollars = .span (.display (Text.ofString "a\\$\nb")) ::
      ((Text.ofString " $ \\$\n").map .plain ++ [.span .less, .plain (.scalar ' '),
        .span (.inline []), .plain (.scalar ' '), .plain (.scalar '$')]) := by
    decide
  have hdisplay (d : Text) (hd : .span (.display d) ∈ pieces looseDollars) : NoLive false d := by
    rw [hpieces] at hd
    obtain rfl : d = Text.ofString "a\\$\nb" := by simpa using hd
    decide
  exact ⟨hdisplay, restoreMath_restoreMath hdisplay⟩

/-- A live dollar in a display span may pair with one that is left. -/
example : restoreMath (restoreMath (Text.ofString "$$a$b$$ $")) ≠
    restoreMath (Text.ofString "$$a$b$$ $") := by
  decide

end MarkTex.Latex
