import MarkTex.Proofs.Files.Apart
import MarkTex.Proofs.Host.FileAccess

/-!
# What actions keep of a host

An action keeps what is seen if its outcome may come from anywhere but a host that is in sight looks
the same behind it. Actions that agree may do so from one host alone, for what that host holds.
-/

namespace MarkTex

/-- The host without its files and without what has been printed. -/
def Host.bare (h : Host) : Host := { h with files := .empty, printed := [], complaints := [] }

theorem Host.logFile?_of_bare {h h' : Host} (hbare : h.bare = h'.bare) : h.logFile? = h'.logFile? :=
  show h.bare.logFile? = h'.bare.logFile? by rw [hbare]

theorem Host.directory_of_bare {h h' : Host} (hbare : h.bare = h'.bare) : h.directory = h'.directory :=
  show h.bare.directory = h'.bare.directory by rw [hbare]

/-- All is seen but what is printed and what the log has put in its file. A host whose log goes to what
is no file is out of sight. -/
def HostView.besideLog : HostView where
  alike h h' := h.bare = h'.bare ∧ Store.AlikeApart h.logFile? h.files h'.files
  symm {h h'} hlike := by
    exact ⟨hlike.1.symm, Host.logFile?_of_bare hlike.1 ▸ hlike.2.symm⟩
  trans {h h' h''} hlike hlike' := by
    have hlog : h.logFile? = h'.logFile? := Host.logFile?_of_bare hlike.1
    exact ⟨hlike.1.trans hlike'.1, hlike.2.trans (hlog ▸ hlike'.2)⟩
  inventory {h h'} hlike := show h.bare.inventory = h'.bare.inventory by rw [hlike.1]
  platform {h h'} hlike := show h.bare.platform = h'.bare.platform by rw [hlike.1]
  printed _ _ hlike := hlike
  record {h} origin level message hlike := by
    unfold Host.record
    split
    · exact hlike
    split
    · exact hlike
    next s hlog =>
      dsimp only
      split
      next l bytes hfile _ =>
        have hl : h.logFile? = some l := by rw [Host.logFile?, hlog, Option.bind_some, hfile]
        refine ⟨rfl, ?_⟩
        rw [hl]
        exact .append (hlike.2.left l hl) bytes
      · exact hlike

namespace HostView

variable {h h' : Host} {p : Path}

/-- A path that does not lead to the file of the log leads to the same place when lines are logged. -/
theorem lookup_of_besideLog (hlike : besideLog.alike h h') {place : Store.Place}
    (hlookup : h.files.lookup h.directory p = .ok place) (hplace : h.logFile? ≠ some place.location) :
    h'.files.lookup h'.directory p = .ok place := by
  rw [← Host.directory_of_bare hlike.1]
  exact hlike.2.lookup_eq_ok hlookup hplace

theorem target_of_besideLog (hlike : besideLog.alike h h') {l : Location}
    (htarget : h.files.target h.directory p = .ok l) (hl : h.logFile? ≠ some l) :
    h'.files.target h'.directory p = .ok l := by
  rw [← Host.directory_of_bare hlike.1]
  exact hlike.2.target_eq_ok htarget hl

theorem besideLog_withFile (hseen : besideLog.alike h h) (l : Location)
    (content : List UInt8) : besideLog.alike (h.withFile l content) (h.withFile l content) where
  left := rfl
  right := ⟨fun _ _ => rfl, fun f hf => (hseen.2.left f hf).put l content,
    fun f hf => (hseen.2.left f hf).put l content⟩

end HostView

namespace Action

variable {V : HostView} {α β : Type} {a b : Action α} {h : Host}

/-- An action that leaves what is seen as it is, whatever its outcome comes from. -/
def Keeps (V : HostView) (a : Action α) : Prop :=
  ∀ ⦃h : Host⦄, V.alike h h → V.alike h (a.runOn h).2

namespace Keeps

theorem of_looks (ha : Looks V a) : Keeps V a := fun _ hseen => (ha hseen).2.1

theorem bind {f : α → Action β} (ha : Keeps V a) (hf : ∀ x, Keeps V (f x)) : Keeps V (a >>= f) := by
  intro h hseen
  have hafter := ha hseen
  rw [runOn_bind]
  generalize a.runOn h = ran at hafter
  obtain ⟨r, h'⟩ := ran
  cases r with
  | error e => exact hafter
  | ok x => exact V.trans hafter (hf x (V.right hafter))

theorem get_bind {f : Host → Action β} (hf : ∀ h, Keeps V (f h)) : Keeps V (get >>= f) := by
  intro h hseen
  rw [runOn_bind]
  exact hf h hseen

theorem skip {a : Action Unit} {k : Action β} (ha : Agree V a (pure ())) (hk : Keeps V k) :
    Keeps V (do a; k) :=
  (of_looks ha.looks).bind fun _ => hk

end Keeps

/-- Two actions have the same outcome from a host and leave what is seen of it as it is. -/
def AgreeOn (V : HostView) (h : Host) (a b : Action α) : Prop :=
  (a.runOn h).1 = (b.runOn h).1 ∧ V.alike h (a.runOn h).2 ∧ V.alike h (b.runOn h).2

namespace AgreeOn

/-- What comes from the same outcome by actions that only look is the same. -/
theorem bind {f : α → Action β} (hab : AgreeOn V h a b) (hf : ∀ x, Looks V (f x)) :
    AgreeOn V h (a >>= f) (b >>= f) := by
  obtain ⟨hsame, hleft, hright⟩ := hab
  unfold AgreeOn
  rw [runOn_bind, runOn_bind]
  have hlike := V.trans (V.symm hleft) hright
  generalize a.runOn h = left at *
  generalize b.runOn h = right at *
  obtain ⟨r, after⟩ := left
  obtain ⟨r', after'⟩ := right
  cases hsame
  cases r with
  | error e => exact ⟨rfl, hleft, hright⟩
  | ok x =>
      obtain ⟨hsame, hlast, hlast'⟩ := hf x hlike
      exact ⟨hsame, V.trans hleft hlast, V.trans hright hlast'⟩

/-- Behind a part that changes nothing the host is still the same. -/
theorem behind {f g : α → Action β} (hseen : V.alike h h) (ha : (a.runOn h).2 = h)
    (hfg : ∀ x, (a.runOn h).1 = .ok x → AgreeOn V h (f x) (g x)) :
    AgreeOn V h (a >>= f) (a >>= g) := by
  unfold AgreeOn
  rw [runOn_bind, runOn_bind]
  generalize a.runOn h = ran at *
  obtain ⟨r, after⟩ := ran
  obtain rfl : after = h := ha
  cases r with
  | error e => exact ⟨rfl, hseen, hseen⟩
  | ok x => exact hfg x rfl

end AgreeOn

/-! ## Reading -/

theorem keeps_found? (p : Path) : Keeps V (found? p) := by
  refine Keeps.get_bind fun h => ?_
  split
  · exact .of_looks (Agree.pure _)
  · exact .of_looks (Agree.throw _)

theorem keeps_readText (p : Path) (encoding : Text) : Keeps V (readText p encoding) := by
  refine (keeps_found? p).bind fun e => ?_
  split
  · exact .of_looks (Agree.throw _)
  · exact .skip (Agree.note _ _) (.of_looks (looks_decodeText _ _))
  · exact .of_looks (Agree.throw _)

theorem found?_of_lookup {p : Path} {l : Location} {content : List UInt8} (hp : p.hasNull = false)
    (hlookup : h.files.lookup h.directory p = .ok (.found l (.file content))) :
    h.found? p = .ok (some (.file content)) := by
  simp [Host.found?, hp, Store.entryAt, hlookup, bind, Except.bind, pure, Except.pure]

/-- A file is read before anything is noted of it. -/
theorem readText_outcome {p : Path} {content : List UInt8} (encoding : Text)
    (hfound : h.found? p = .ok (some (.file content))) :
    ((readText p encoding).runOn h).1 = ((decodeText content encoding).runOn h).1 := by
  have hfile : (found? p).runOn h = (.ok (some (.file content)), h) := by
    simp [found?, runOn_bind, hfound]
  rw [readText, runOn_bind, hfile]
  have hnote : Agree HostView.packages (do
      note "md2tex.utils.io_utils"
        (Text.ofString ("Read " ++ toString content.length ++ " bytes from " ++ p.toString))
      decodeText content encoding) (decodeText content encoding) :=
    (Agree.note _ _).skip (looks_decodeText content encoding)
  exact (hnote (HostView.packages_alike h)).1

end Action

end MarkTex
