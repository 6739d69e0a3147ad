import MarkTex.Host.Log

/-!
# What actions see of a host

A view says which hosts look alike. What is printed and what goes to the log is never part of it. Two
actions agree under a view if they have the same outcome on hosts that look alike and leave what is
seen as it was, and an action that agrees with itself only looks. Remarks do not count: an action
agrees with the same action without its remarks.
-/

namespace MarkTex

/-- A way to look at hosts. A host that is out of sight does not look like itself. -/
structure HostView where
  alike : Host → Host → Prop
  symm {h h' : Host} : alike h h' → alike h' h
  trans {h h' h'' : Host} : alike h h' → alike h' h'' → alike h h''
  /-- The packages at hand are in sight. -/
  inventory {h h' : Host} : alike h h' → h.inventory = h'.inventory
  /-- So is the platform. -/
  platform {h h' : Host} : alike h h' → h.platform = h'.platform
  /-- What is printed is not. -/
  printed {h : Host} (printed complaints : Text) : alike h h →
    alike h { h with printed := printed, complaints := complaints }
  /-- What is logged is not. -/
  record {h : Host} (origin : String) (level : Int) (message : Text) : alike h h →
    alike h (h.record origin level message)

namespace HostView

variable {V : HostView} {h h' : Host}

theorem left (hlike : V.alike h h') : V.alike h h := V.trans hlike (V.symm hlike)

theorem right (hlike : V.alike h h') : V.alike h' h' := V.trans (V.symm hlike) hlike

/-- Only the packages at hand and the platform are seen. -/
def packages : HostView where
  alike h h' := h.inventory = h'.inventory ∧ h.platform = h'.platform
  symm hlike := ⟨hlike.1.symm, hlike.2.symm⟩
  trans hlike hlike' := ⟨hlike.1.trans hlike'.1, hlike.2.trans hlike'.2⟩
  inventory hlike := hlike.1
  platform hlike := hlike.2
  printed _ _ _ := ⟨rfl, rfl⟩
  record {h} origin level message _ := by
    obtain ⟨complaints, files, hrecord, _⟩ := h.record_eq origin level message
    rw [hrecord]
    exact ⟨rfl, rfl⟩

/-- No host is out of sight of its packages. -/
theorem packages_alike (h : Host) : packages.alike h h := ⟨rfl, rfl⟩

end HostView

/-- The host with nothing printed and no log. -/
def Host.silent (h : Host) : Host := { h with log := none, printed := [], complaints := [] }

namespace HostView

/-- All is seen but what is printed and the log. A host whose log goes to a file is out of sight, since
a remark changes that file. -/
def world : HostView where
  alike h h' := h.silent = h'.silent ∧ h.logFile? = none ∧ h'.logFile? = none
  symm hlike := ⟨hlike.1.symm, hlike.2.2, hlike.2.1⟩
  trans hlike hlike' := ⟨hlike.1.trans hlike'.1, hlike.2.1, hlike'.2.2⟩
  inventory {h h'} hlike := show h.silent.inventory = h'.silent.inventory by rw [hlike.1]
  platform {h h'} hlike := show h.silent.platform = h'.silent.platform by rw [hlike.1]
  printed _ _ hlike := hlike
  record {h} origin level message hlike := by
    obtain ⟨complaints, files, hrecord, hfiles⟩ := h.record_eq origin level message
    rw [hrecord, hfiles hlike.2.1]
    exact hlike

/-- What does not depend on the log and on what is printed is the same in sight. -/
theorem eq_of_world {β : Type} {h h' : Host} (hlike : world.alike h h') (f : Host → β)
    (hf : ∀ h, f h.silent = f h) : f h = f h' := by
  rw [← hf h, hlike.1, hf h']

end HostView

/-- On hosts that look alike two actions have the same outcome, and they leave what is seen as it is. -/
def Action.Agree (V : HostView) (a b : Action α) : Prop :=
  ∀ ⦃h h' : Host⦄, V.alike h h' → (a.runOn h).1 = (b.runOn h').1 ∧
    V.alike h (a.runOn h).2 ∧ V.alike h' (b.runOn h').2

/-- An action whose outcome comes from what is seen, and which leaves that as it is. -/
def Action.Looks (V : HostView) (a : Action α) : Prop := Action.Agree V a a

namespace Action

variable {V : HostView} {a b c : Action α}

namespace Agree

theorem symm (hab : Agree V a b) : Agree V b a := by
  intro h h' hlike
  obtain ⟨hsame, hb, ha⟩ := hab (V.symm hlike)
  exact ⟨hsame.symm, ha, hb⟩

theorem trans (hab : Agree V a b) (hbc : Agree V b c) : Agree V a c := by
  intro h h' hlike
  obtain ⟨hsame, ha, _⟩ := hab (V.left hlike)
  obtain ⟨hsame', _, hc⟩ := hbc hlike
  exact ⟨hsame.trans hsame', ha, hc⟩

theorem looks (hab : Agree V a b) : Looks V a := hab.trans hab.symm

theorem pure (x : α) : Agree V (Pure.pure x) (Pure.pure x) := by
  intro h h' hlike
  exact ⟨rfl, V.left hlike, V.right hlike⟩

theorem throw (e : Error) : Agree V (throw e : Action α) (throw e) := by
  intro h h' hlike
  exact ⟨rfl, V.left hlike, V.right hlike⟩

theorem throw_bind (e : Error) (f g : β → Action α) :
    Agree V (MonadExcept.throw e >>= f) (MonadExcept.throw e >>= g) := by
  intro h h' hlike
  exact ⟨rfl, V.left hlike, V.right hlike⟩

theorem liftM (x : Except Error α) : Agree V (liftM x : Action α) (liftM x) := by
  cases x with
  | ok x => exact pure x
  | error e => exact throw e

theorem bind {f g : α → Action β} (hab : Agree V a b) (hfg : ∀ x, Agree V (f x) (g x)) :
    Agree V (a >>= f) (b >>= g) := by
  intro h h' hlike
  obtain ⟨hsame, hafter, hafter'⟩ := hab hlike
  rw [runOn_bind, runOn_bind]
  -- the hosts behind the first parts look alike again
  have hlike' := V.trans (V.symm hafter) (V.trans hlike hafter')
  generalize a.runOn h = left at *
  generalize b.runOn h' = right at *
  obtain ⟨r, after⟩ := left
  obtain ⟨r', after'⟩ := right
  cases hsame
  cases r with
  | error e => exact ⟨rfl, hafter, hafter'⟩
  | ok x =>
      obtain ⟨hsame, hlast, hlast'⟩ := hfg x hlike'
      exact ⟨hsame, V.trans hafter hlast, V.trans hafter' hlast'⟩

theorem map {f : α → β} (hab : Agree V a b) :
    Agree V (do let x ← a; return f x) (do let x ← b; return f x) :=
  hab.bind fun x => pure (f x)

theorem tryCatch {f g : Error → Action α} (hab : Agree V a b)
    (hfg : ∀ e, Agree V (f e) (g e)) : Agree V (tryCatch a f) (tryCatch b g) := by
  intro h h' hlike
  obtain ⟨hsame, hafter, hafter'⟩ := hab hlike
  rw [runOn_tryCatch, runOn_tryCatch]
  have hlike' := V.trans (V.symm hafter) (V.trans hlike hafter')
  generalize a.runOn h = left at *
  generalize b.runOn h' = right at *
  obtain ⟨r, after⟩ := left
  obtain ⟨r', after'⟩ := right
  cases hsame
  cases r with
  | ok x => exact ⟨rfl, hafter, hafter'⟩
  | error e =>
      obtain ⟨hsame, hlast, hlast'⟩ := hfg e hlike'
      exact ⟨hsame, V.trans hafter hlast, V.trans hafter' hlast'⟩

/-- Actions that look at the host agree if they do whatever is found, as long as it looks alike. -/
theorem get_bind {f g : Host → Action α}
    (hfg : ∀ ⦃h h'⦄, V.alike h h' → Agree V (f h) (g h')) :
    Agree V (get >>= f) (get >>= g) := by
  intro h h' hlike
  rw [runOn_bind, runOn_bind]
  exact hfg hlike hlike

/-- Whatever an action finds, it may agree with one that does not look. -/
theorem get_left {f : Host → Action α} (hf : ∀ ⦃h⦄, V.alike h h → Agree V (f h) b) :
    Agree V (get >>= f) b := by
  intro h h' hlike
  rw [runOn_bind]
  exact hf (V.left hlike) hlike

/-- A change of what is not seen is as good as none. -/
theorem unseen {change : Host → Host} (hchange : ∀ h, V.alike h h → V.alike h (change h)) :
    Agree V (modify change) (Pure.pure ()) := by
  intro h h' hlike
  exact ⟨rfl, hchange h (V.left hlike), V.right hlike⟩

theorem record (origin : String) (level : Int) (message : Text) :
    Agree V (Action.record origin level message) (Pure.pure ()) :=
  unseen fun _ => V.record origin level message

theorem print (t : Text) : Agree V (modify fun h => h.print t) (Pure.pure ()) :=
  unseen fun h => V.printed (h.printed ++ t) h.complaints

theorem complain (t : Text) : Agree V (modify fun h => h.complain t) (Pure.pure ()) :=
  unseen fun h => V.printed h.printed (h.complaints ++ t)

theorem note (origin : String) (message : Text) :
    Agree V (Action.note origin message) (Pure.pure ()) :=
  record origin Log.debug message

/-- A part that is as good as none may be left out. -/
theorem skip {a : Action Unit} {k : Action β} {k' : Action β} (ha : Agree V a (Pure.pure ()))
    (hk : Agree V k k') : Agree V (do a; k) k' := by
  have hbind := ha.bind (f := fun _ => k) (g := fun _ => k') fun _ => hk
  rwa [pure_bind] at hbind

/-- A row of parts that are as good as none is as good as none. -/
theorem forIn {γ : Type} {part : γ → Action PUnit} (hpart : ∀ x, Agree V (part x) (Pure.pure ⟨⟩))
    (xs : List γ) : Agree V (ForIn.forIn xs PUnit.unit fun x _ => do
        part x
        return ForInStep.yield PUnit.unit) (Pure.pure PUnit.unit) := by
  induction xs with
  | nil => exact pure _
  | cons x xs ih =>
      rw [List.forIn_cons, bind_assoc]
      refine skip (hpart x) ?_
      rw [pure_bind]
      exact ih

theorem mapM {γ : Type} {part : γ → Action α} (hpart : ∀ x, Looks V (part x)) (xs : List γ) :
    Looks V (xs.mapM part) := by
  induction xs with
  | nil => exact pure _
  | cons x xs ih =>
      rw [List.mapM_cons]
      exact (hpart x).bind fun y => ih.map

/-- Timing an action is as good as not timing it. -/
theorem timed (origin stage : String) (hab : Agree V a b) :
    Agree V (Action.timed origin stage a) b := by
  refine get_left fun h _ => ?_
  rw [← bind_pure b]
  refine hab.bind fun x => ?_
  dsimp only
  split
  · exact get_left fun h' _ => skip (note origin _) (pure x)
  · exact pure x

end Agree

/-- Printing only looks: whether it is refused depends on the platform. -/
theorem looks_print (t : Text) : Looks V (print t) := by
  refine Agree.get_bind fun h h' hlike => ?_
  rw [V.platform hlike]
  split
  · exact Agree.throw _
  · exact (Agree.print t).looks

theorem looks_complain (t : Text) : Looks V (complain t) := by
  refine Agree.get_bind fun h h' hlike => ?_
  rw [V.platform hlike]
  split
  · exact Agree.throw _
  · exact (Agree.complain t).looks

/-! ## Outcomes of actions that only look -/

theorem Looks.outcome (ha : Looks V a) {h h' : Host} (hlike : V.alike h h') :
    (a.runOn h).1 = (a.runOn h').1 := (ha hlike).1

/-- What is as good as having a value gives that value, and what is seen stays. -/
theorem Agree.run_pure {x : α} {r : Except Error α} {h h' : Host} (ha : Agree V a (Pure.pure x))
    (hseen : V.alike h h) (hrun : a.runOn h = (r, h')) : r = .ok x ∧ V.alike h h' := by
  obtain ⟨hsame, hafter, -⟩ := ha hseen
  rw [hrun] at hsame hafter
  exact ⟨hsame, hafter⟩

theorem Looks.alike_after {r : Except Error α} {h h' : Host} (ha : Looks V a)
    (hseen : V.alike h h) (hrun : a.runOn h = (r, h')) : V.alike h h' := by
  have hafter := (ha hseen).2.1
  rwa [hrun] at hafter

/-- An action that begins with one that only looks goes on with what that finds, on a host that looks
like the one before. -/
theorem Looks.first {β : Type} {f : α → Action β} {y : β} {h h' : Host} (ha : Looks V a)
    (hseen : V.alike h h) (hrun : (a >>= f).runOn h = (.ok y, h')) :
    ∃ x after, (a.runOn h).1 = .ok x ∧ V.alike h after ∧ (f x).runOn after = (.ok y, h') := by
  obtain ⟨x, after, hfirst, hrest⟩ := runOn_bind_eq_ok.mp hrun
  exact ⟨x, after, by rw [hfirst], ha.alike_after hseen hfirst, hrest⟩

/-- Outcomes follow one another as the actions do, if these only look. -/
theorem Looks.outcome_bind {β : Type} {f : α → Action β} (ha : Looks V a)
    (hf : ∀ x, Looks V (f x)) {h : Host} (hseen : V.alike h h) :
    ((a >>= f).runOn h).1 = (a.runOn h).1 >>= fun x => ((f x).runOn h).1 := by
  have hafter := (ha hseen).2.1
  rw [runOn_bind]
  generalize a.runOn h = ran at hafter
  obtain ⟨r, h'⟩ := ran
  cases r with
  | error e => rfl
  | ok x => exact (hf x).outcome (V.symm hafter)

end Action

end MarkTex
