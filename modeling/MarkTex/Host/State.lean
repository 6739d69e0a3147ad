import MarkTex.Host.Platform

/-!
# The host

What an operation finds around it and may change: files, the directory it runs in, the environment,
the packages at hand, the platform, what it has printed, and the log. An action runs on a host and may
fail; what it has changed until then stays changed.
-/

namespace MarkTex

/-- Where log lines go: those of a level and above to the screen, and to the end of a file if there is
one. Tracing adds the time and the origin to every line. -/
structure LogSetting where
  level : Int
  trace : Bool
  file : Option Location

/-- What is around an operation. -/
structure Host where
  files : Store := .empty
  /-- The directory that relative paths lead on from. -/
  directory : Location := []
  environment : List (String × String) := []
  inventory : Package.Inventory
  platform : Platform := {}
  terminal : Bool := false
  columns : Nat := 80
  /-- The present time, as log lines show it. -/
  clock : String := ""
  /-- The seconds that a stage takes, as log lines show them. -/
  lapse : String := ""
  /-- The log, once it has been set up. -/
  log : Option LogSetting := none
  printed : Text := []
  /-- What has been printed as errors, with the lines of the log. -/
  complaints : Text := []

/-- An operation on a host. -/
abbrev Action := ExceptT Error (StateM Host)

namespace Host

def env? (h : Host) (name : String) : Option String :=
  (h.environment.find? (·.1 = name)).map (·.2)

def print (h : Host) (t : Text) : Host := { h with printed := h.printed ++ t }

def complain (h : Host) (t : Text) : Host := { h with complaints := h.complaints ++ t }

end Host

namespace Action

def failBeneath (f : Fault) : Action α := throw (.beneath f)

/-- Prints a text, unless that is refused. -/
def print (t : Text) : Action Unit := do
  match (← get).platform.printing t with
  | some r => throw (.refused r)
  | none => modify fun h => h.print t

/-- Prints a text as an error, unless that is refused. -/
def complain (t : Text) : Action Unit := do
  match (← get).platform.complaining t with
  | some r => throw (.refused r)
  | none => modify fun h => h.complain t

/-- The outcome of an action on a host, and the host after it. -/
def runOn (a : Action α) (h : Host) : Except Error α × Host := StateT.run (ExceptT.run a) h

/-! ## Running an action step by step -/

@[simp] theorem runOn_pure (x : α) (h : Host) : (pure x : Action α).runOn h = (.ok x, h) := rfl

@[simp] theorem runOn_throw (e : Error) (h : Host) :
    (throw e : Action α).runOn h = (.error e, h) := rfl

@[simp] theorem runOn_get (h : Host) : (get : Action Host).runOn h = (.ok h, h) := rfl

@[simp] theorem runOn_set (new h : Host) : (set new : Action Unit).runOn h = (.ok (), new) := rfl

@[simp] theorem runOn_modify (f : Host → Host) (h : Host) :
    (modify f : Action Unit).runOn h = (.ok (), f h) := rfl

@[simp] theorem runOn_liftM (x : Except Error α) (h : Host) :
    (liftM x : Action α).runOn h = (x, h) := by
  cases x <;> rfl

theorem runOn_bind (a : Action α) (f : α → Action β) (h : Host) :
    (a >>= f).runOn h =
      match a.runOn h with
      | (.ok x, h') => (f x).runOn h'
      | (.error e, h') => (.error e, h') := by
  change (StateT.bind (a : StateM Host _) (ExceptT.bindCont f)) h = _
  simp only [StateT.bind, runOn, ExceptT.run, StateT.run]
  cases a h with
  | mk r h' => cases r <;> rfl

/-- An action in two parts ends well just if the first part does and the second does behind it. -/
theorem runOn_bind_eq_ok {a : Action α} {f : α → Action β} {h h' : Host} {y : β} :
    (a >>= f).runOn h = (.ok y, h') ↔
      ∃ x after, a.runOn h = (.ok x, after) ∧ (f x).runOn after = (.ok y, h') := by
  rw [runOn_bind]
  constructor
  · intro hrun
    split at hrun
    next x after hfirst => exact ⟨x, after, hfirst, hrun⟩
    next => cases hrun
  · rintro ⟨x, after, hfirst, hrun⟩
    rw [hfirst]
    exact hrun

/-- It fails just if the first part fails or the second fails behind it. -/
theorem runOn_bind_eq_error {a : Action α} {f : α → Action β} {h h' : Host} {e : Error} :
    (a >>= f).runOn h = (.error e, h') ↔ a.runOn h = (.error e, h') ∨
      ∃ x after, a.runOn h = (.ok x, after) ∧ (f x).runOn after = (.error e, h') := by
  rw [runOn_bind]
  constructor
  · intro hrun
    split at hrun
    next x after hfirst => exact .inr ⟨x, after, hfirst, hrun⟩
    next hfirst =>
      cases hrun
      exact .inl hfirst
  · rintro (hfirst | ⟨x, after, hfirst, hrun⟩) <;> rw [hfirst]
    exact hrun

theorem runOn_tryCatch (a : Action α) (handle : Error → Action α) (h : Host) :
    (tryCatch a handle).runOn h =
      match a.runOn h with
      | (.ok x, h') => (.ok x, h')
      | (.error e, h') => (handle e).runOn h' := by
  simp only [tryCatch, tryCatchThe, MonadExceptOf.tryCatch, ExceptT.tryCatch, runOn, ExceptT.run,
    StateT.run, ExceptT.mk, bind, StateT.bind]
  cases a h with
  | mk r h' => cases r <;> rfl

end Action

end MarkTex
