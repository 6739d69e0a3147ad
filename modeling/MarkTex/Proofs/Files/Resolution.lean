import MarkTex.Files.Store

/-!
# Where paths lead

Looking a path up and resolving it go about links in different ways. The lookup puts the names of a
link before those that are left and counts links (`Walks`); the resolution resolves the link first, with
a list of the links on the way. `Leads` is what both have in common. A path that can be looked up is
resolved to the location that it is found at, and a file that is written at a path is found there again.
-/

namespace MarkTex.Store

variable {s : Store} {here l m : Location} {names rest : List String} {k : Nat}

/-! ## Changing a store -/

theorem find?_insert_self (hl : l ≠ []) (e : Entry) : (s.insert l e).find? l = some e := by
  cases l with
  | nil => contradiction
  | cons name names => simp [find?, insert]

theorem find?_insert_of_ne {l' : Location} (h : l' ≠ l) (e : Entry) :
    (s.insert l e).find? l' = s.find? l' := by
  cases l' with
  | nil => rfl
  | cons name names =>
      have hkept : (s.entries.filter (·.1 ≠ l)).find? (·.1 = name :: names) =
          s.entries.find? (·.1 = name :: names) := by
        rw [List.find?_filter]
        refine congrArg (List.find? · s.entries) (funext fun e => ?_)
        by_cases he : e.1 = name :: names <;> simp [he, h]
      simp only [find?, insert]
      rw [List.find?_cons_of_neg (by simpa using h.symm), hkept]

theorem put_put (l : Location) (old new : List UInt8) : (s.put l old).put l new = s.put l new := by
  simp [put, insert, List.filter_filter]

/-! ## Looking names up -/

/-- The location of a place. -/
def Place.location : Place → Location
  | found l _ => l
  | vacant l => l

/-- What stands at a place. -/
def Place.entry? : Place → Option Entry
  | found _ e => some e
  | vacant _ => none

/-- Names are looked up from a location and lead to a place, through at most a number of links. -/
inductive Walks (s : Store) : Nat → Location → List String → Place → Prop
  | nil (links : Nat) (here : Location) : Walks s links here [] (.found here .directory)
  | up {links : Nat} {here : Location} {rest : List String} {place : Place} :
      Walks s links here.dropLast rest place → Walks s links here (".." :: rest) place
  | last {links : Nat} {here : Location} {name : String} {place : Place} :
      name ≠ ".." → byteLength name ≤ nameBound → place.location = here ++ [name] →
      s.find? (here ++ [name]) = place.entry? → (∀ e, place.entry? = some e → ∃ c, e = .file c) →
      Walks s links here [name] place
  | directory {links : Nat} {here : Location} {name : String} {rest : List String} {place : Place} :
      name ≠ ".." → byteLength name ≤ nameBound → s.find? (here ++ [name]) = some .directory →
      Walks s links (here ++ [name]) rest place → Walks s links here (name :: rest) place
  | link {links : Nat} {here : Location} {name : String} {target : Path} {rest : List String}
      {place : Place} :
      name ≠ ".." → byteLength name ≤ nameBound → s.find? (here ++ [name]) = some (.link target) →
      Walks s links (linkStart here target) (target.names ++ rest) place →
      Walks s (links + 1) here (name :: rest) place

theorem walks_of_walkNames {links : Nat} {place : Place}
    {follow : Location → List String → Except PathFault Place}
    (hfollow : ∀ here names, follow here names = .ok place →
      ∃ n, links = n + 1 ∧ Walks s n here names place)
    (h : s.walkNames follow here names = .ok place) : Walks s links here names place := by
  fun_induction walkNames with
  | case1 here =>
      cases h
      exact .nil links here
  | case2 here rest ih => exact .up (ih h)
  | case3 => cases h
  | case4 here name hname hlong hnone =>
      cases h
      exact .last hname (Nat.le_of_not_lt hlong) rfl hnone (by simp [Place.entry?])
  | case5 => cases h
  | case6 here name rest hname hlong hdirectory ih =>
      exact .directory hname (Nat.le_of_not_lt hlong) hdirectory (ih h)
  | case7 here name hname hlong content hfile =>
      cases h
      exact .last hname (Nat.le_of_not_lt hlong) rfl hfile (by simp [Place.entry?])
  | case8 => cases h
  | case9 here name rest hname hlong target hlink =>
      obtain ⟨n, rfl, hrow⟩ := hfollow _ _ h
      exact .link hname (Nat.le_of_not_lt hlong) hlink hrow

/-- A lookup is one without links that follows every link by a lookup of its own. -/
theorem walk_eq (links : Nat) : s.walk links = s.walkNames fun here names =>
    match links with
    | 0 => .error .tooManyLinks
    | n + 1 => s.walk n here names := by
  cases links <;> rfl

theorem walk_eq_ok {links : Nat} {place : Place} :
    s.walk links here names = .ok place ↔ Walks s links here names place := by
  constructor
  · intro h
    induction links generalizing here names with
    | zero => exact walks_of_walkNames (by simp) h
    | succ links ih => exact walks_of_walkNames (fun _ _ h => ⟨links, rfl, ih h⟩) h
  · intro h
    induction h with
    | nil links => rw [walk_eq, walkNames]
    | up _ ih =>
        rw [walk_eq] at ih ⊢
        rw [walkNames, if_pos rfl, ih]
    | @last links here name place hname hshort hlocation hfind hfile =>
        rw [walk_eq, walkNames, if_neg hname, if_neg (Nat.not_lt_of_le hshort), hfind]
        cases place with
        | vacant l => simpa [Place.entry?, Place.location] using hlocation.symm
        | found l e =>
            obtain ⟨content, rfl⟩ := hfile e rfl
            simpa [Place.entry?, Place.location] using hlocation.symm
    | directory hname hshort hdirectory _ ih =>
        rw [walk_eq] at ih ⊢
        rw [walkNames, if_neg hname, if_neg (Nat.not_lt_of_le hshort), hdirectory]
        exact ih
    | link hname hshort hlink _ ih =>
        rw [walk_eq, walkNames, if_neg hname, if_neg (Nat.not_lt_of_le hshort), hlink]
        exact ih

/-! ## Following names -/

/-- Names lead from a location to another, by way of a number of links. A name at which there is no
link leads to what it names, whatever that is. -/
inductive Leads (s : Store) : Location → List String → Nat → Location → Prop
  | nil (here : Location) : Leads s here [] 0 here
  | up {here l : Location} {rest : List String} {k : Nat} :
      Leads s here.dropLast rest k l → Leads s here (".." :: rest) k l
  | plain {here l : Location} {name : String} {rest : List String} {k : Nat} :
      name ≠ ".." → (∀ target, s.find? (here ++ [name]) ≠ some (.link target)) →
      Leads s (here ++ [name]) rest k l → Leads s here (name :: rest) k l
  | link {here m l : Location} {name : String} {target : Path} {rest : List String} {k n : Nat} :
      name ≠ ".." → s.find? (here ++ [name]) = some (.link target) →
      Leads s (linkStart here target) target.names k m → Leads s m rest n l →
      Leads s here (name :: rest) (k + n + 1) l

namespace Leads

theorem unique {k' : Nat} {l' : Location} (h : Leads s here names k l)
    (h' : Leads s here names k' l') : k = k' ∧ l = l' := by
  induction h generalizing k' l' with
  | nil => cases h' with | nil => exact ⟨rfl, rfl⟩
  | up _ ih =>
      cases h' with
      | up h' => exact ih h'
      | plain hname => exact absurd rfl hname
      | link hname => exact absurd rfl hname
  | plain hname hplain _ ih =>
      cases h' with
      | up => exact absurd rfl hname
      | plain _ _ h' => exact ih h'
      | link _ hlink => exact absurd hlink (hplain _)
  | link hname hlink _ _ ihTarget ihRest =>
      cases h' with
      | up => exact absurd rfl hname
      | plain _ hplain => exact absurd hlink (hplain _)
      | link _ hlink' htarget hrest =>
          rw [hlink] at hlink'
          cases hlink'
          obtain ⟨rfl, rfl⟩ := ihTarget htarget
          obtain ⟨rfl, rfl⟩ := ihRest hrest
          exact ⟨rfl, rfl⟩

/-- Names that lead on from others lead on from where those lead to. -/
theorem split (h : Leads s here (names ++ rest) k l) :
    ∃ i m j, Leads s here names i m ∧ Leads s m rest j l ∧ i + j = k := by
  induction names generalizing here k with
  | nil => exact ⟨0, here, k, nil here, h, Nat.zero_add k⟩
  | cons name names ih =>
      cases h with
      | up h =>
          obtain ⟨i, m, j, hnames, hrest, hk⟩ := ih h
          exact ⟨i, m, j, up hnames, hrest, hk⟩
      | plain hname hplain h =>
          obtain ⟨i, m, j, hnames, hrest, hk⟩ := ih h
          exact ⟨i, m, j, plain hname hplain hnames, hrest, hk⟩
      | link hname hlink htarget h =>
          obtain ⟨i, m, j, hnames, hrest, hk⟩ := ih h
          exact ⟨_, m, j, link hname hlink htarget hnames, hrest, by omega⟩

end Leads

theorem leads_of_walks {links : Nat} {place : Place} (h : Walks s links here names place) :
    ∃ k, Leads s here names k place.location := by
  induction h with
  | nil links here => exact ⟨0, .nil here⟩
  | up _ ih =>
      obtain ⟨k, hrest⟩ := ih
      exact ⟨k, .up hrest⟩
  | @last _ here _ place hname _ hlocation hfind hfile =>
      refine ⟨0, .plain hname (fun target hlink => ?_) (hlocation ▸ .nil _)⟩
      obtain ⟨content, hcontent⟩ := hfile (.link target) (by rw [← hfind, hlink])
      cases hcontent
  | directory hname _ hdirectory _ ih =>
      obtain ⟨k, hrest⟩ := ih
      exact ⟨k, .plain hname (by simp [hdirectory]) hrest⟩
  | link hname _ hlink _ ih =>
      -- the lookup goes on with the names of the link and the rest as one row
      obtain ⟨k, hrow⟩ := ih
      obtain ⟨i, m, j, htarget, hrest, -⟩ := hrow.split
      exact ⟨i + j + 1, .link hname hlink htarget hrest⟩

/-! ## Resolving -/

/-- How many names the links stand for that are not on the way yet, with one more for each. -/
def unfollowed (active : List Location) : List (Location × Entry) → Nat
  | [] => 0
  | (l, .link target) :: es =>
    (if l ∈ active then 0 else target.names.length + 1) + unfollowed active es
  | _ :: es => unfollowed active es

theorem unfollowed_cons_le (l : Location) (active : List Location)
    (es : List (Location × Entry)) : unfollowed (l :: active) es ≤ unfollowed active es := by
  induction es with
  | nil => exact Nat.le_refl 0
  | cons e es ih =>
      obtain ⟨l', entry⟩ := e
      cases entry with
      | file | directory => exact ih
      | link target =>
          simp only [unfollowed, List.mem_cons]
          by_cases hmet : l' ∈ active
          · rw [if_pos (.inr hmet), if_pos hmet]
            omega
          · rw [if_neg hmet]
            split <;> omega

theorem unfollowed_of_mem {active : List Location} {es : List (Location × Entry)} {target : Path}
    (hmem : (l, .link target) ∈ es) (hl : l ∉ active) :
    unfollowed (l :: active) es + (target.names.length + 1) ≤ unfollowed active es := by
  induction es with
  | nil => cases hmem
  | cons e es ih =>
      rcases List.mem_cons.mp hmem with rfl | hmem
      · have hrest := unfollowed_cons_le l active es
        simp only [unfollowed, List.mem_cons_self, if_true, if_neg hl]
        omega
      · have hrest := ih hmem
        obtain ⟨l', entry⟩ := e
        cases entry with
        | file | directory => exact hrest
        | link target' =>
            simp only [unfollowed, List.mem_cons]
            by_cases hmet : l' ∈ active
            · rw [if_pos (.inr hmet), if_pos hmet]
              omega
            · rw [if_neg hmet]
              split <;> omega

theorem unfollowed_le_nameCount (s : Store) : unfollowed [] s.entries ≤ s.nameCount := by
  rw [nameCount, ← Nat.zero_add (unfollowed [] s.entries)]
  -- the sum is taken up from any number
  generalize 0 = count, s.entries = es
  induction es generalizing count with
  | nil => exact Nat.le_refl _
  | cons e es ih =>
      obtain ⟨l, entry⟩ := e
      cases entry with
      | file | directory =>
          exact Nat.le_trans (Nat.add_le_add_right (Nat.le_succ count) _) (ih _)
      | link target =>
          rw [unfollowed, if_neg (List.not_mem_nil), ← Nat.add_assoc]
          exact ih _

theorem mem_of_find?_eq_some {e : Entry} (hl : l ≠ []) (h : s.find? l = some e) :
    (l, e) ∈ s.entries := by
  cases l with
  | nil => contradiction
  | cons name names =>
      obtain ⟨⟨l', e'⟩, hfind, rfl⟩ := Option.map_eq_some_iff.mp h
      have hkey := List.find?_some hfind
      simp only [decide_eq_true_eq] at hkey
      exact hkey ▸ List.mem_of_find?_eq_some hfind

/-- Following the link at a location leads through a number of other links. -/
def Through (s : Store) (l : Location) (k : Nat) : Prop :=
  ∃ target m, s.find? l = some (.link target) ∧
    Leads s (linkStart l.dropLast target) target.names k m

theorem Through.unique {k' : Nat} (h : s.Through l k) (h' : s.Through l k') : k = k' := by
  obtain ⟨target, m, hlink, hleads⟩ := h
  obtain ⟨target', m', hlink', hleads'⟩ := h'
  rw [hlink] at hlink'
  cases hlink'
  exact (hleads.unique hleads').1

/-- Names that lead somewhere are resolved to where they lead. On the way no link is met again: it
would lead through fewer links than it does. -/
theorem Leads.resolveNames_eq (h : Leads s here names k l) {active : List Location}
    (hactive : ∀ a ∈ active, ∀ n, s.Through a n → k ≤ n) {fuel : Nat}
    (hfuel : names.length + unfollowed active s.entries < fuel) :
    s.resolveNames fuel active here names = (l, true) := by
  induction h generalizing active fuel with
  | nil =>
      obtain _ | fuel := fuel
      · exact absurd hfuel (Nat.not_lt_zero _)
      · rfl
  | up _ ih =>
      obtain _ | fuel := fuel
      · exact absurd hfuel (Nat.not_lt_zero _)
      · rw [resolveNames, if_pos rfl]
        exact ih hactive (by simp only [List.length_cons] at hfuel; omega)
  | @plain here l name rest _ hname hplain _ ih =>
      obtain _ | fuel := fuel
      · exact absurd hfuel (Nat.not_lt_zero _)
      · rw [resolveNames, if_neg hname]
        have hrest : s.resolveNames fuel active (here ++ [name]) rest = (l, true) :=
          ih hactive (by simp only [List.length_cons] at hfuel; omega)
        dsimp only
        split
        next target hlink => exact absurd hlink (hplain target)
        next => exact hrest
  | @link here m l name target rest k n hname hlink htarget _ ihTarget ihRest =>
      obtain _ | fuel := fuel
      · exact absurd hfuel (Nat.not_lt_zero _)
      have hthrough : s.Through (here ++ [name]) k := ⟨target, m, hlink, by simpa using htarget⟩
      have hnew : here ++ [name] ∉ active := fun hmem => by
        have hle := hactive _ hmem k hthrough
        omega
      have hcount := unfollowed_of_mem (mem_of_find?_eq_some (by simp) hlink) hnew
      simp only [List.length_cons] at hfuel
      have hreached : s.resolveNames fuel ((here ++ [name]) :: active) (linkStart here target)
          target.names = (m, true) := by
        refine ihTarget (fun a ha j hj => ?_) (by omega)
        rcases List.mem_cons.mp ha with rfl | ha
        · exact Nat.le_of_eq (hthrough.unique hj)
        · have hle := hactive a ha j hj
          omega
      have hrest : s.resolveNames fuel active m rest = (l, true) :=
        ihRest (fun a ha j hj => by have hle := hactive a ha j hj; omega) (by omega)
      rw [resolveNames, if_neg hname]
      simp [hlink, hnew, hreached, hrest]

/-- There are steps enough for all names. -/
theorem resolve_fuel (s : Store) (n : Nat) :
    n + unfollowed [] s.entries < (s.entries.length + 1) * (n + s.nameCount + 1) := by
  have hcount := s.unfollowed_le_nameCount
  have hone : 1 * (n + s.nameCount + 1) ≤ (s.entries.length + 1) * (n + s.nameCount + 1) :=
    Nat.mul_le_mul_right _ (Nat.le_add_left 1 _)
  omega

/-- A path that can be looked up is resolved, if at all, to the location that it is found at. -/
theorem location_of_resolve {base : Location} {p : Path} {place : Place}
    (hlookup : s.lookup base p = .ok place) (hresolve : s.resolve base p = .ok l) :
    l = place.location := by
  rw [lookup] at hlookup
  split at hlookup
  · cases hlookup
  obtain ⟨k, hleads⟩ := leads_of_walks (walk_eq_ok.mp hlookup)
  have hnames := hleads.resolveNames_eq (fun _ ha => absurd ha List.not_mem_nil)
    (s.resolve_fuel p.names.length)
  rw [resolve, hnames] at hresolve
  dsimp only at hresolve
  split at hresolve
  · cases hresolve
  · exact (Except.ok.inj hresolve).symm

/-! ## Writing at a path -/

/-- Names lead to a file, or to where one can be made, by what stands there. -/
theorem Walks.stands {links : Nat} {place : Place} (h : Walks s links here names place)
    (hplace : place.entry? ≠ some .directory) :
    place.location ≠ [] ∧ s.find? place.location = place.entry? ∧
      ∀ e, place.entry? = some e → ∃ content, e = .file content := by
  induction h with
  | nil => exact absurd rfl hplace
  | up _ ih | directory _ _ _ _ ih | link _ _ _ _ ih => exact ih hplace
  | last _ _ hlocation hfind hfile => exact ⟨by simp [hlocation], by rw [hlocation, hfind], hfile⟩

/-- A file that is put where names lead is found there by them. -/
theorem Walks.put {links : Nat} {place : Place} (h : Walks s links here names place)
    (hplace : place.entry? ≠ some .directory) (new : List UInt8) :
    Walks (s.put place.location new) links here names (.found place.location (.file new)) := by
  obtain ⟨hroot, hstands, hfile⟩ := h.stands hplace
  have hself : (s.put place.location new).find? place.location = some (.file new) :=
    find?_insert_self hroot (.file new)
  -- what leads on from one name to the next is no file, so it stays as it is
  have hkept {l : Location} {e : Entry} (he : s.find? l = some e) (hother : ∀ c, e ≠ .file c) :
      (s.put place.location new).find? l = some e := by
    rw [Store.put, find?_insert_of_ne, he]
    rintro rfl
    obtain ⟨content, hcontent⟩ := hfile e (hstands ▸ he)
    exact hother content hcontent
  clear hstands hfile
  induction h with
  | nil => exact absurd rfl hplace
  | up _ ih => exact .up (ih hplace hroot hself hkept)
  | last hname hshort hlocation _ _ =>
      exact .last hname hshort hlocation (hlocation ▸ hself) (by simp [Place.entry?])
  | directory hname hshort hdirectory _ ih =>
      exact .directory hname hshort (hkept hdirectory (by simp)) (ih hplace hroot hself hkept)
  | link hname hshort hlink _ ih =>
      exact .link hname hshort (hkept hlink (by simp)) (ih hplace hroot hself hkept)

/-- The location of a file to be written at a path is where the path leads. -/
theorem lookup_of_target {base : Location} {p : Path} (h : s.target base p = .ok l) :
    ∃ place, s.lookup base p = .ok place ∧ place.location = l ∧
      place.entry? ≠ some .directory := by
  rw [target] at h
  cases hlookup : s.lookup base p with
  | error f => simp [hlookup, bind, Except.bind] at h
  | ok place =>
      refine ⟨place, rfl, ?_⟩
      simp only [hlookup, bind, Except.bind] at h
      split at h
      · cases h
        exact ⟨rfl, by simp [Place.entry?]⟩
      · cases h
      · cases h
        exact ⟨rfl, by simp [Place.entry?]⟩

/-- What is put where a path leads is found there. -/
theorem lookup_put {base : Location} {p : Path} (h : s.target base p = .ok l) (new : List UInt8) :
    (s.put l new).lookup base p = .ok (.found l (.file new)) := by
  obtain ⟨place, hlookup, rfl, hplace⟩ := lookup_of_target h
  rw [lookup] at hlookup ⊢
  split at hlookup
  · cases hlookup
  next hshort =>
    rw [if_neg hshort]
    exact walk_eq_ok.mpr ((walk_eq_ok.mp hlookup).put hplace new)

theorem read_of_lookup {base : Location} {p : Path} {content : List UInt8}
    (h : s.lookup base p = .ok (.found l (.file content))) : s.read base p = .ok content := by
  rw [read, entryAt, h]
  rfl

theorem read_put {base : Location} {p : Path} (h : s.target base p = .ok l) (new : List UInt8) :
    (s.put l new).read base p = .ok new :=
  read_of_lookup (lookup_put h new)

/-- A path at which a file is found and one at which a file can be written, that are resolved to
different locations, lead to different locations. -/
theorem ne_of_resolve_ne {base : Location} {p q : Path} {place : Place} {l' m' : Location}
    (hp : s.lookup base p = .ok place) (hq : s.target base q = .ok m)
    (hp' : s.resolve base p = .ok l') (hq' : s.resolve base q = .ok m') (hne : l' ≠ m') :
    place.location ≠ m := by
  obtain ⟨place', hlookup, rfl, -⟩ := lookup_of_target hq
  rwa [← location_of_resolve hp hp', ← location_of_resolve hlookup hq']

end MarkTex.Store
