import MarkTex.Host.FileAccess
import MarkTex.Proofs.Files.Resolution
import MarkTex.Proofs.Host.View

/-!
# Reading and writing at paths

Reading looks at a host and no more. Writing changes the one location that its path leads to, and
nothing if the file cannot be opened; a text without a UTF-8 form leaves the file empty.
-/

namespace MarkTex

/-- The host with a file at a location. -/
def Host.withFile (h : Host) (l : Location) (content : List UInt8) : Host :=
  { h with files := h.files.put l content }

/-- A file can be opened for writing at a path, which leads to a location. -/
def Host.Opens (h : Host) (p : Path) (l : Location) : Prop :=
  p.hasNull = false ∧ h.files.target h.directory p = .ok l

namespace Action

open HostView

/-! ## Reading -/

theorem looks_found? (p : Path) : Looks world (found? p) := by
  refine Agree.get_bind fun h h' hlike => ?_
  rw [eq_of_world hlike (·.found? p) fun _ => rfl]
  split
  · exact Agree.pure _
  · exact Agree.throw _

theorem looks_resolve (p : Path) : Looks world (resolve p) := by
  unfold resolve
  dsimp only
  split
  · exact Agree.throw_bind _ _ _
  · refine Agree.get_bind fun h h' hlike => ?_
    rw [world.platform hlike, eq_of_world hlike (fun h => h.files.resolve h.directory p) fun _ => rfl]
    split
    · exact Agree.throw _
    · split
      · exact Agree.pure _
      · exact Agree.throw _

theorem looks_decodeText {V : HostView} (bs : List UInt8) (encoding : Text) :
    Looks V (decodeText bs encoding) := by
  unfold decodeText
  dsimp only
  split
  · exact Agree.pure _
  · exact Agree.throw _
  · refine Agree.get_bind fun h h' hlike => ?_
    rw [V.platform hlike]
    split
    · exact Agree.liftM _
    · exact Agree.throw _
  · exact Agree.throw _

theorem looks_readText (p : Path) (encoding : Text) : Looks world (readText p encoding) := by
  refine (looks_found? p).bind fun e => ?_
  split
  · exact Agree.throw _
  · exact ((Agree.note _ _).skip (looks_decodeText _ _)).looks
  · exact Agree.throw _

variable {h h' : Host}

theorem lookup_of_found? {p : Path} {content : List UInt8}
    (hfound : h.found? p = .ok (some (.file content))) :
    ∃ l, h.files.lookup h.directory p = .ok (.found l (.file content)) := by
  rw [Host.found?] at hfound
  split at hfound
  · cases hfound
  · split at hfound
    next e hentry =>
      cases hfound
      rw [Store.entryAt] at hentry
      cases hlookup : h.files.lookup h.directory p with
      | error f => simp [hlookup, bind, Except.bind] at hentry
      | ok place =>
          simp only [hlookup, bind, Except.bind] at hentry
          split at hentry
          next l e =>
            cases hentry
            exact ⟨l, rfl⟩
          · cases hentry
    · cases hfound
    · cases hfound

theorem lookup_of_readText {p : Path} {encoding t : Text}
    (hrun : (readText p encoding).runOn h = (.ok t, h')) :
    ∃ l content, h.files.lookup h.directory p = .ok (.found l (.file content)) := by
  obtain ⟨e, after, hfound, hrest⟩ := runOn_bind_eq_ok.mp hrun
  obtain ⟨_, _, hget, hfound⟩ := runOn_bind_eq_ok.mp hfound
  cases hget
  split at hrest
  · cases hrest
  next content hfound =>
    split at hfound
    next e hentry =>
      cases hfound
      obtain ⟨l, hlookup⟩ := lookup_of_found? hentry
      exact ⟨l, content, hlookup⟩
    · cases hfound
  · cases hrest

theorem resolve_of_outcome {p : Path} {l : Location} (hrun : ((resolve p).runOn h).1 = .ok l) :
    h.files.resolve h.directory p = .ok l := by
  unfold resolve at hrun
  dsimp only at hrun
  split at hrun
  · cases hrun
  · rw [runOn_bind] at hrun
    dsimp only [runOn_get] at hrun
    split at hrun
    · cases hrun
    · split at hrun
      next hresolve =>
        cases hrun
        exact hresolve
      · cases hrun

/-! ## Writing -/

theorem alike_withFile (hlike : world.alike h h') (l : Location) (content : List UInt8) :
    world.alike (h.withFile l content) (h'.withFile l content) := by
  exact ⟨congrArg (Host.withFile · l content) hlike.1, hlike.2⟩

theorem withFile_withFile (h : Host) (l : Location) (old new : List UInt8) :
    (h.withFile l old).withFile l new = h.withFile l new := by
  simp [Host.withFile, Store.put_put]

theorem openForWriting_cases (p : Path) (h : Host) :
    ((∀ l, ¬h.Opens p l) ∧ ∃ e, (openForWriting p).runOn h = (.error e, h)) ∨
      ∃ l, h.Opens p l ∧ (openForWriting p).runOn h = (.ok l, h.withFile l []) := by
  unfold openForWriting
  dsimp only
  split
  next hnull => exact .inl ⟨fun l hl => by simp [hl.1] at hnull, .beneath .nullInPath, rfl⟩
  next hnull =>
    cases htarget : h.files.target h.directory p with
    | error f =>
        refine .inl ⟨fun l hl => ?_, .unwritable p f, by simp [runOn_bind, htarget]⟩
        cases htarget.symm.trans hl.2
    | ok l =>
        refine .inr ⟨l, ⟨by simpa using hnull, htarget⟩, ?_⟩
        simp only [runOn_bind, runOn_get, htarget]
        rfl

/-- What writing a text can do: the file cannot be opened; it is opened, and so emptied, before the text
turns out to have no UTF-8 form; or it holds that form, and this is noted. -/
theorem runOn_writeText_cases (content : Text) (p : Path) (h : Host) :
    ((∀ l, ¬h.Opens p l) ∧ ∃ e, (writeText content p).runOn h = (.error e, h)) ∨
      ∃ l, h.Opens p l ∧
        ((∃ u, Encoding.utf8OfText content = .error u ∧ (writeText content p).runOn h =
            (.error (.beneath (.unencodable u)), h.withFile l [])) ∨
          ∃ bs, Encoding.utf8OfText content = .ok bs ∧ ∃ message,
            (writeText content p).runOn h =
              (.ok (), (h.withFile l bs).record "md2tex.utils.io_utils" Log.debug message)) := by
  rcases openForWriting_cases p h with ⟨hclosed, e, hopen⟩ | ⟨l, hl, hopen⟩
  · refine .inl ⟨hclosed, e, ?_⟩
    rw [writeText, runOn_bind, hopen]
  refine .inr ⟨l, hl, ?_⟩
  cases hbytes : Encoding.utf8OfText content with
  | error u =>
      have hencode : (encodeText content).runOn (h.withFile l []) =
          (.error (.beneath (.unencodable u)), h.withFile l []) := by
        simp [encodeText, hbytes, failBeneath]
      refine .inl ⟨u, rfl, ?_⟩
      simp only [writeText, runOn_bind, hopen, hencode]
  | ok bs =>
      have hencode : (encodeText content).runOn (h.withFile l []) =
          (.ok bs, h.withFile l []) := by
        simp [encodeText, hbytes]
      refine .inr ⟨bs, rfl,
        Text.ofString ("Wrote " ++ toString content.length ++ " characters to " ++ p.toString), ?_⟩
      simp only [writeText, runOn_bind, hopen, hencode, runOn_modify]
      change (note _ _).runOn ((h.withFile l []).withFile l bs) = _
      rw [withFile_withFile]
      rfl

/-- What writing a text can do to a host without a log file. -/
theorem writeText_cases {content : Text} {p : Path} {r : Except Error Unit} (hseen : world.alike h h)
    (hrun : (writeText content p).runOn h = (r, h')) :
    (∃ e, r = .error e ∧ h' = h) ∨
      ∃ l, h.files.target h.directory p = .ok l ∧
        ((∃ u, Encoding.utf8OfText content = .error u ∧ r = .error (.beneath (.unencodable u)) ∧
            h' = h.withFile l []) ∨
          ∃ bs, Encoding.utf8OfText content = .ok bs ∧ r = .ok () ∧
            world.alike (h.withFile l bs) h') := by
  rcases runOn_writeText_cases content p h with
    ⟨-, e, hwrite⟩ | ⟨l, hl, ⟨u, hbytes, hwrite⟩ | ⟨bs, hbytes, message, hwrite⟩⟩ <;>
    rw [hwrite] at hrun <;> cases hrun
  · exact .inl ⟨e, rfl, rfl⟩
  · exact .inr ⟨l, hl.2, .inl ⟨u, hbytes, rfl, rfl⟩⟩
  · exact .inr ⟨l, hl.2, .inr ⟨bs, hbytes, rfl, world.record _ _ _ (alike_withFile hseen l bs)⟩⟩

end Action

end MarkTex
