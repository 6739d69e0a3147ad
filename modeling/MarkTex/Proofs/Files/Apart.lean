import MarkTex.Proofs.Files.Resolution

/-!
# Stores that differ in one file

A file that is written, or made where nothing stands, changes no path that leads elsewhere: what is on
the way to a place are directories and links.
-/

namespace MarkTex.Store

variable {s s' s'' : Store} {f? : Option Location} {base here l f : Location} {p : Path}

/-- A file stands at a location, or nothing. -/
def Plain (s : Store) (l : Location) : Prop := ∀ e, s.find? l = some e → ∃ content, e = .file content

theorem Plain.ne_nil (h : s.Plain l) : l ≠ [] := by
  rintro rfl
  obtain ⟨_, hfile⟩ := h .directory rfl
  cases hfile

theorem plain_put (hl : l ≠ []) (content : List UInt8) : (s.put l content).Plain l := by
  intro e he
  rw [put, find?_insert_self hl] at he
  exact ⟨content, (Option.some.inj he).symm⟩

theorem plain_of_target (htarget : s.target base p = .ok l) : s.Plain l := by
  obtain ⟨place, hlookup, rfl, hplace⟩ := lookup_of_target htarget
  rw [lookup] at hlookup
  split at hlookup
  · cases hlookup
  obtain ⟨-, hstands, hfile⟩ := (walk_eq_ok.mp hlookup).stands hplace
  intro e he
  exact hfile e (hstands ▸ he)

theorem Plain.put (h : s.Plain f) (l : Location) (content : List UInt8) :
    (s.put l content).Plain f := by
  by_cases hf : f = l
  · subst hf
    exact plain_put h.ne_nil content
  · intro e he
    rw [Store.put, find?_insert_of_ne hf] at he
    exact h e he

theorem find?_append_of_ne (hl : l ≠ f) (more : List UInt8) :
    (s.append f more).find? l = s.find? l := by
  unfold append
  split
  · exact find?_insert_of_ne hl _
  · exact find?_insert_of_ne hl _

/-- Two stores that hold the same at every location, or at every location but one that has a file or
nothing in both. -/
structure AlikeApart (f? : Option Location) (s s' : Store) : Prop where
  same : ∀ l, f? ≠ some l → s.find? l = s'.find? l
  left : ∀ f, f? = some f → s.Plain f
  right : ∀ f, f? = some f → s'.Plain f

namespace AlikeApart

theorem symm (h : AlikeApart f? s s') : AlikeApart f? s' s :=
  ⟨fun l hl => (h.same l hl).symm, h.right, h.left⟩

theorem trans (h : AlikeApart f? s s') (h' : AlikeApart f? s' s'') : AlikeApart f? s s'' :=
  ⟨fun l hl => (h.same l hl).trans (h'.same l hl), h.left, h'.right⟩

theorem put (hf : s.Plain f) (content : List UInt8) : AlikeApart (some f) s (s.put f content) where
  same l hl := by
    have hne : l ≠ f := fun h => hl (h ▸ rfl)
    rw [Store.put, find?_insert_of_ne hne]
  left l hl := by
    cases hl
    exact hf
  right l hl := by
    cases hl
    exact hf.put f content

theorem append (hf : s.Plain f) (more : List UInt8) :
    AlikeApart (some f) s (s.append f more) := by
  unfold Store.append
  split
  · exact put hf _
  · exact put hf _

/-- What is no file stands in both. -/
theorem find?_eq (h : AlikeApart f? s s') {e : Entry} (he : s.find? l = some e)
    (hother : ∀ c, e ≠ .file c) : s'.find? l = some e := by
  rw [← h.same l, he]
  intro hl
  obtain ⟨content, hcontent⟩ := h.left l hl e he
  exact hother content hcontent

theorem find?_directory (h : AlikeApart f? s s') (hdirectory : s.find? l = some .directory) :
    s'.find? l = some .directory :=
  h.find?_eq hdirectory nofun

theorem find?_link (h : AlikeApart f? s s') {target : Path} (hlink : s.find? l = some (.link target)) :
    s'.find? l = some (.link target) :=
  h.find?_eq hlink nofun

/-! ## Looking a path up -/

theorem walks (h : AlikeApart f? s s') {links : Nat} {names : List String} {place : Place}
    (hwalks : Walks s links here names place) (hplace : f? ≠ some place.location) :
    Walks s' links here names place := by
  induction hwalks with
  | nil links here => exact .nil links here
  | up _ ih => exact .up (ih hplace)
  | last hname hshort hlocation hfind hfile =>
      refine .last hname hshort hlocation ?_ hfile
      rw [← hlocation] at hfind ⊢
      rw [← h.same _ hplace, hfind]
  | directory hname hshort hdirectory _ ih =>
      exact .directory hname hshort (h.find?_directory hdirectory) (ih hplace)
  | link hname hshort hlink _ ih =>
      exact .link hname hshort (h.find?_link hlink) (ih hplace)

/-- A path leads to the same place in both, if not to the file in which they differ. -/
theorem lookup_eq_ok (h : AlikeApart f? s s') {place : Place} (hlookup : s.lookup base p = .ok place)
    (hplace : f? ≠ some place.location) : s'.lookup base p = .ok place := by
  rw [lookup] at hlookup ⊢
  split at hlookup
  · cases hlookup
  next hshort =>
    rw [if_neg hshort]
    exact walk_eq_ok.mpr (h.walks (walk_eq_ok.mp hlookup) hplace)

theorem target_eq_ok (h : AlikeApart f? s s') (htarget : s.target base p = .ok l)
    (hl : f? ≠ some l) : s'.target base p = .ok l := by
  obtain ⟨place, hlookup, rfl, hplace⟩ := lookup_of_target htarget
  have hlookup' := h.lookup_eq_ok hlookup hl
  rw [target, hlookup] at htarget
  rw [target, hlookup']
  exact htarget

/-! ## Resolving a path -/

theorem link_iff (h : AlikeApart f? s s') {target : Path} :
    s.find? l = some (.link target) ↔ s'.find? l = some (.link target) :=
  ⟨h.find?_link, h.symm.find?_link⟩

theorem walkNames_tooManyLinks (h : AlikeApart f? s s')
    {follow follow' : Location → List String → Except PathFault Place}
    (hfollow : ∀ l names, follow l names = .error .tooManyLinks →
      follow' l names = .error .tooManyLinks) {names : List String}
    (hwalk : s.walkNames follow here names = .error .tooManyLinks) :
    s'.walkNames follow' here names = .error .tooManyLinks := by
  fun_induction s.walkNames follow here names with
  | case1 => cases hwalk
  | case2 here rest ih =>
      rw [walkNames, if_pos rfl]
      exact ih hwalk
  | case3 => cases hwalk
  | case4 => cases hwalk
  | case5 => cases hwalk
  | case6 here name rest hname hlong hdirectory ih =>
      rw [walkNames, if_neg hname, if_neg hlong, h.find?_directory hdirectory]
      exact ih hwalk
  | case7 => cases hwalk
  | case8 => cases hwalk
  | case9 here name rest hname hlong target hlink =>
      rw [walkNames, if_neg hname, if_neg hlong, h.find?_link hlink]
      exact hfollow _ _ hwalk

theorem walk_tooManyLinks (h : AlikeApart f? s s') {links : Nat} {names : List String}
    (hwalk : s.walk links here names = .error .tooManyLinks) :
    s'.walk links here names = .error .tooManyLinks := by
  induction links generalizing here names with
  | zero => exact h.walkNames_tooManyLinks (fun _ _ hfollow => hfollow) hwalk
  | succ links ih => exact h.walkNames_tooManyLinks (fun _ _ hfollow => ih hfollow) hwalk

theorem lookup_tooManyLinks (h : AlikeApart f? s s')
    (hlookup : s.lookup base p = .error .tooManyLinks) :
    s'.lookup base p = .error .tooManyLinks := by
  rw [lookup] at hlookup ⊢
  split at hlookup
  · cases hlookup
  next hshort =>
    rw [if_neg hshort]
    exact h.walk_tooManyLinks hlookup

end AlikeApart

/-- Enough steps lead to one location, in another store with the same links as well. -/
theorem resolveNames_eq (hlinks : ∀ l target,
      s.find? l = some (.link target) ↔ s'.find? l = some (.link target))
    {active : List Location} {names : List String} {fuel fuel' : Nat}
    (hfuel : names.length + unfollowed active s.entries < fuel)
    (hfuel' : names.length + unfollowed active s'.entries < fuel') :
    s.resolveNames fuel active here names = s'.resolveNames fuel' active here names := by
  induction fuel generalizing fuel' active here names with
  | zero => exact absurd hfuel (Nat.not_lt_zero _)
  | succ fuel ih =>
      obtain _ | fuel' := fuel'
      · exact absurd hfuel' (Nat.not_lt_zero _)
      cases names with
      | nil => rfl
      | cons name rest =>
          rw [List.length_cons] at hfuel hfuel'
          have hon (next : Location) : s.resolveNames fuel active next rest =
              s'.resolveNames fuel' active next rest := ih (by omega) (by omega)
          rw [resolveNames, resolveNames, hon]
          by_cases hup : name = ".."
          · rw [if_pos hup, if_pos hup]
          rw [if_neg hup, if_neg hup]
          dsimp only
          split
          next target hlink =>
            have hlink' := (hlinks _ _).mp hlink
            rw [hlink']
            dsimp only
            split
            · rfl
            next hmet =>
              have hnew : here ++ [name] ∉ active := by simpa using hmet
              have hcount := unfollowed_of_mem (mem_of_find?_eq_some (by simp) hlink) hnew
              have hcount' := unfollowed_of_mem (mem_of_find?_eq_some (by simp) hlink') hnew
              have htarget : s.resolveNames fuel ((here ++ [name]) :: active) (linkStart here target)
                  target.names = s'.resolveNames fuel' ((here ++ [name]) :: active)
                    (linkStart here target) target.names :=
                ih (by omega) (by omega)
              rw [htarget]
              simp only [hon]
          next hplain =>
            rw [hon]
            split
            next target hlink => exact absurd ((hlinks _ _).mpr hlink) (hplain target)
            next => rfl

/-- A path is resolved in both alike. -/
theorem AlikeApart.resolve_eq (h : AlikeApart f? s s') (base : Location) (p : Path) :
    s.resolve base p = s'.resolve base p := by
  have hnames := @resolveNames_eq s s' (linkStart base p) (fun _ _ => h.link_iff) [] p.names _ _
    (s.resolve_fuel p.names.length) (s'.resolve_fuel p.names.length)
  rw [resolve, resolve, hnames]
  generalize Path.ofLocation _ = place
  by_cases hcircle : s.lookup [] place = .error .tooManyLinks
  · rw [hcircle, h.lookup_tooManyLinks hcircle]
  · have hcircle' : s'.lookup [] place ≠ .error .tooManyLinks :=
      fun hlookup => hcircle (h.symm.lookup_tooManyLinks hlookup)
    split
    next hlookup => exact absurd hlookup hcircle
    next => rfl

end MarkTex.Store
