import Mathlib.Algebra.GroupWithZero.Nat
import Mathlib.Data.List.TakeWhile
import MarkTex.Command.Line

/-!
# Flags that keep a value

A flag that takes no word and keeps a value does so wherever it stands on a line, as long as it stands
before the separator, in full or shortened, once or several times; and nothing else on a line touches
the value that it keeps. What one step of the reading does to that value is `find_give`, and what the
whole reading does is `find_readLine`.
-/

namespace MarkTex.Command

open Config (Value)

/-- Among some arguments those of a destination are decided by a flag: they have no other flag, take no
word, keep one value, and have no text as their default; no other flag is the beginning of it. -/
structure Decides (as : List Argument) (dest flag : String) (kept : Value) : Prop where
  only : ∀ a ∈ as, a.dest = dest → a.flags = [flag] ∧ a.arity = .none ∧
    a.effect = .keep kept ∧ ∀ t, a.default ≠ .str t
  there : ∃ a ∈ as, a.dest = dest
  apart : ∀ a ∈ as, ∀ f ∈ a.flags, f.toList <+: flag.toList → a.dest = dest
  long : ∃ c rest, flag.toList = '-' :: '-' :: c :: rest
  plain : '=' ∉ flag.toList

/-- Whether a word is the flag of a destination, with nothing attached. -/
def Word.gives (dest : String) : Word → Bool
  | flag (some a) _ none => a.dest = dest
  | _ => false

/-- Whether a word is the flag of a destination, with something attached. -/
def Word.overloads (dest : String) : Word → Bool
  | flag (some a) _ (some _) => a.dest = dest
  | _ => false

variable {as : List Argument} {dest flag : String} {kept : Value} {p q : Progress} {a : Argument}

/-! ## Giving arguments -/

theorem Values.find_set (vs : Values) (name dest : String) (v : Value) :
    (vs.set name v).find dest = if name = dest then v else vs.find dest := by
  have hothers : (vs.filter (·.1 ≠ name)).find? (·.1 = dest) =
      if name = dest then none else vs.find? (·.1 = dest) := by
    rw [List.find?_filter]
    split
    next heq => exact List.find?_eq_none.mpr fun e _ => by simp [heq]
    next hne =>
      refine congrArg (List.find? · vs) (funext fun e => ?_)
      by_cases he : e.1 = dest <;> simp [he, Ne.symm hne]
  rw [Values.find, Values.find, Values.set, List.find?_append, hothers]
  split
  next heq => simp [heq]
  next hne => simp [hne]

theorem find_give {words : List String} (h : give p a words = .ok q) :
    q.places = p.places ∧
      (∀ dest, a.dest ≠ dest → q.values.find dest = p.values.find dest) ∧
        ∀ v, a.effect = .keep v → q.values.find a.dest = v := by
  obtain ⟨v, hvalue, h⟩ := except_bind_eq_ok.mp h
  dsimp only at h
  split at h
  next heffect =>
    cases h
    exact ⟨rfl, fun dest hne => by rw [Values.find_set, if_neg hne], by simp [heffect]⟩
  next v' heffect =>
    cases h
    refine ⟨rfl, fun dest hne => by rw [Values.find_set, if_neg hne], fun v hkeep => ?_⟩
    rw [heffect] at hkeep
    cases hkeep
    rw [Values.find_set, if_pos rfl]
  · cases h
  · cases h

/-! ## Places take no flags -/

theorem mem_downFrom {k n : Nat} : k ∈ downFrom n ↔ k ≤ n := by
  rw [downFrom, List.mem_reverse, List.mem_range, Nat.lt_succ_iff]

theorem not_isFlag_of_separators {ws : List Word} {k : Nat} (hk : k ≤ separators ws) :
    ∀ w ∈ ws.take k, ¬ w.isFlag := by
  intro w hw
  have hfirst : w ∈ ws.take (separators ws) := (List.take_prefix_take_left hk).subset hw
  rw [separators, ← List.prefix_iff_eq_take.mp (List.takeWhile_prefix _)] at hfirst
  have hseparator : w.isSeparator := List.all_eq_true.mp List.all_takeWhile w hfirst
  cases w with
  | separator => exact Bool.false_ne_true
  | plain | flag => cases hseparator

theorem not_isFlag_of_spans {arity : Arity} {ws : List Word} {n : Nat} (hn : n ∈ spans arity ws) :
    ∀ w ∈ ws.take n, ¬ w.isFlag := by
  obtain ⟨before, hbefore, hn⟩ := List.mem_flatMap.mp hn
  obtain ⟨own, hown, hn⟩ := List.mem_flatMap.mp hn
  have hone : own ≤ 1 := by
    cases arity <;> simp at hown <;> omega
  split at hn
  next hplain =>
    obtain ⟨behind, hbehind, rfl⟩ := List.mem_map.mp hn
    intro w hw
    rw [List.take_add, List.take_add, List.append_assoc, List.mem_append, List.mem_append] at hw
    rcases hw with hw | hw | hw
    · exact not_isFlag_of_separators (mem_downFrom.mp hbefore) w hw
    · -- the word of the argument itself, if it takes one
      rcases hplain with rfl | hplain
      · cases hw
      · have hhead : w ∈ ((ws.drop before).take 1) := (List.take_prefix_take_left hone).subset hw
        cases hdrop : ws.drop before with
        | nil => simp [hdrop] at hhead
        | cons first rest =>
            simp only [hdrop, List.head?_cons, Option.any_some] at hplain
            simp only [hdrop, List.take_succ_cons, List.take_zero, List.mem_singleton] at hhead
            subst hhead
            cases w with
            | plain => exact Bool.false_ne_true
            | separator | flag => cases hplain
    · refine not_isFlag_of_separators (mem_downFrom.mp hbehind) w ?_
      simpa using hw
  · cases hn

theorem not_isFlag_of_shares? {places : List Argument} {ws : List Word} {counts : List Nat}
    (h : shares? places ws = some counts) :
    counts.length = places.length ∧ ∀ w ∈ ws.take counts.sum, ¬ w.isFlag := by
  induction places generalizing ws counts with
  | nil =>
      cases h
      simp
  | cons a places ih =>
      obtain ⟨n, hn, hcounts⟩ := List.exists_of_findSome?_eq_some h
      obtain ⟨rest, hrest, rfl⟩ := Option.map_eq_some_iff.mp hcounts
      obtain ⟨hlength, hothers⟩ := ih hrest
      refine ⟨by simp [hlength], fun w hw => ?_⟩
      rw [List.sum_cons, List.take_add, List.mem_append] at hw
      rcases hw with hw | hw
      · exact not_isFlag_of_spans hn w hw
      · exact hothers w hw

theorem not_isFlag_of_partialShares (places : List Argument) (ws : List Word) :
    (partialShares places ws).length ≤ places.length ∧
      ∀ w ∈ ws.take (partialShares places ws).sum, ¬ w.isFlag := by
  unfold partialShares
  cases h : (downFrom places.length).findSome? fun n => shares? (places.take n) ws with
  | none => simp
  | some counts =>
      obtain ⟨n, hn, hshares⟩ := List.exists_of_findSome?_eq_some h
      obtain ⟨hlength, hwords⟩ := not_isFlag_of_shares? hshares
      exact ⟨hlength ▸ List.length_take_le' n places, hwords⟩

theorem find_giveShares {shares : List (Argument × Nat)} {ws rest : List (String × Word)}
    (hshares : ∀ share ∈ shares, share.1.dest ≠ dest)
    (h : shares.foldlM giveShare (p, ws) = .ok (q, rest)) :
    q.places = p.places ∧ q.values.find dest = p.values.find dest ∧
      rest = ws.drop (shares.map (·.2)).sum := by
  induction shares generalizing p ws with
  | nil =>
      cases h
      simp
  | cons share shares ih =>
      obtain ⟨hshare, hshares⟩ := List.forall_mem_cons.mp hshares
      rw [List.foldlM_cons] at h
      obtain ⟨reached, hreached, hothers⟩ := except_bind_eq_ok.mp h
      obtain ⟨p', hgive, hreached⟩ := except_bind_eq_ok.mp hreached
      cases hreached
      obtain ⟨hplaces, hfind, -⟩ := find_give hgive
      obtain ⟨hplaces', hfind', hrest⟩ := ih hshares hothers
      refine ⟨hplaces'.trans hplaces, hfind'.trans (hfind dest hshare), ?_⟩
      rw [hrest, List.drop_drop, List.map_cons, List.sum_cons]

/-- Arguments with places are given words that are no flags, and leave other values alone. -/
theorem find_fillPlaces {ws : List (String × Word)} {n : Nat} (hp : ∀ a ∈ p.places, a.dest ≠ dest)
    (h : fillPlaces p ws = .ok (q, n)) :
    (∀ a ∈ q.places, a.dest ≠ dest) ∧ q.values.find dest = p.values.find dest ∧
      ∀ w ∈ ws.take n, ¬ w.2.isFlag := by
  unfold fillPlaces at h
  obtain ⟨hlength, hwords⟩ := not_isFlag_of_partialShares p.places (ws.map (·.2))
  generalize partialShares p.places (ws.map (·.2)) = counts at *
  dsimp only at h
  obtain ⟨⟨q', rest⟩, hfold, h⟩ := except_bind_eq_ok.mp h
  cases h
  obtain ⟨hplaces, hfind, hrest⟩ :=
    find_giveShares (fun share hshare => hp _ (List.of_mem_zip hshare).1) hfold
  rw [List.map_snd_zip hlength] at hrest
  refine ⟨fun a ha => hp a (hplaces ▸ List.mem_of_mem_drop ha), hfind, fun w hw => ?_⟩
  refine hwords w.2 ?_
  rw [← List.map_take]
  refine List.mem_map_of_mem ((List.take_prefix_take_left ?_).subset hw)
  rw [hrest, List.length_drop]
  omega

/-! ## Giving flags -/

theorem mem_flagTable {e : String × Argument} :
    e ∈ flagTable as ↔ e.2 ∈ as ∧ e.1 ∈ e.2.flags := by
  obtain ⟨f, a⟩ := e
  simp only [flagTable, List.mem_flatMap, List.mem_map, Prod.mk.injEq]
  constructor
  · rintro ⟨a', ha', f', hf', rfl, rfl⟩
    exact ⟨ha', hf'⟩
  · rintro ⟨ha, hf⟩
    exact ⟨a, ha, f, hf, rfl, rfl⟩

theorem mem_of_findFlag? {name : String} (h : findFlag? as name = some a) :
    a ∈ as ∧ name ∈ a.flags := by
  obtain ⟨⟨f, a'⟩, hfind, rfl⟩ := Option.map_eq_some_iff.mp h
  have hname : f = name := by simpa using List.find?_some hfind
  exact hname ▸ mem_flagTable.mp (List.mem_of_find?_eq_some hfind)

namespace Decides

variable (hd : Decides as dest flag kept)
include hd

theorem name_eq {name : String} (ha : a ∈ as) (hdest : a.dest = dest) (hname : name ∈ a.flags) :
    name = flag := by
  rw [(hd.only a ha hdest).1] at hname
  exact List.mem_singleton.mp hname

theorem startsWith : flag.startsWith "--" = true := by
  obtain ⟨c, rest, hlong⟩ := hd.long
  rw [String.startsWith_string_iff, hlong]
  exact ⟨c :: rest, rfl⟩

/-- What a flag gives: that of the destination takes no words and gives its own argument, and other
flags give other arguments. -/
theorem flagUses_cases {following : List (String × Word)} {fuel n : Nat} {name : String}
    {attached : Option String} {uses : List (Argument × List String)} (ha : a ∈ as)
    (hname : name ∈ a.flags)
    (h : flagUses as following fuel a name attached = .ok (uses, n)) :
    (∀ w ∈ following.take n, ¬ w.2.isFlag) ∧
      (a.dest ≠ dest → ∀ use ∈ uses, use.1.dest ≠ dest) ∧
        (a.dest = dest → attached = none ∧ uses = [(a, [])] ∧ n = 0) := by
  fun_induction flagUses generalizing uses n with
  | case1 =>
      cases h
      exact ⟨by simp, by simp, fun _ => ⟨rfl, rfl, rfl⟩⟩
  | case2 _ a _ word rest hfollowing hword =>
      cases h
      refine ⟨?_, by simp, fun hdest => absurd (hd.only a ha hdest).2.1 hword⟩
      simp [hfollowing, Word.isFlag]
  | case3 _ a _ _ hword =>
      cases h
      exact ⟨by simp, by simp, fun hdest => absurd (hd.only a ha hdest).2.1 hword⟩
  | case7 a name attached c rest fuel hattached _ hshort next b hb =>
      rename_i ih
      obtain ⟨⟨uses', n'⟩, huses, hend⟩ := except_bind_eq_ok.mp h
      cases hend
      obtain ⟨hbmem, hnext⟩ := mem_of_findFlag? hb
      -- a flag of one letter is not the flag of the destination
      have hother : b.dest ≠ dest := fun hdest => by
        have hflag := hd.name_eq hbmem hdest hnext
        obtain ⟨_, _, hlong⟩ := hd.long
        rw [← hflag] at hlong
        simp +zetaDelta at hlong
      obtain ⟨hplain, hothers, -⟩ := ih hbmem hnext huses
      refine ⟨hplain, fun hne use huse => ?_, fun hdest => ?_⟩
      · rcases List.mem_cons.mp huse with rfl | huse
        · exact hne
        · exact hothers hother use huse
      · exact absurd (hd.name_eq ha hdest hname ▸ hd.startsWith) hshort
  | case9 _ a _ attached hword =>
      cases h
      exact ⟨by simp, by simp, fun hdest => absurd (hd.only a ha hdest).2.1 hword⟩
  -- in all other cases the flag is refused
  | case4 | case5 | case6 | case8 => exact absurd h (by simp +zetaDelta [refuseFor])

end Decides

theorem find_giveUses {uses : List (Argument × List String)}
    (huses : ∀ use ∈ uses, use.1.dest ≠ dest)
    (h : uses.foldlM (fun p use => give p use.1 use.2) p = .ok q) :
    q.places = p.places ∧ q.values.find dest = p.values.find dest := by
  induction uses generalizing p with
  | nil =>
      cases h
      exact ⟨rfl, rfl⟩
  | cons use uses ih =>
      obtain ⟨huse, huses⟩ := List.forall_mem_cons.mp huses
      rw [List.foldlM_cons] at h
      obtain ⟨p', hgive, hothers⟩ := except_bind_eq_ok.mp h
      obtain ⟨hplaces, hfind, -⟩ := find_give hgive
      obtain ⟨hplaces', hfind'⟩ := ih huses hothers
      exact ⟨hplaces'.trans hplaces, hfind'.trans (hfind dest huse)⟩

/-! ## Reading a line -/

/-- The flags among some words are flags of the arguments. -/
def WellRead (as : List Argument) (ws : List (String × Word)) : Prop :=
  ∀ w ∈ ws, ∀ a name attached, w.2 = .flag (some a) name attached → a ∈ as ∧ name ∈ a.flags

theorem WellRead.of_subset {ws ws' : List (String × Word)} (h : WellRead as ws) (hsub : ws' ⊆ ws) :
    WellRead as ws' :=
  fun w hw => h w (hsub hw)

/-- What words make of the value of a destination: its flag decides it, and none has anything
attached. -/
def Settles (dest : String) (kept : Value) (ws : List (String × Word)) (before after : Value) : Prop :=
  (∀ w ∈ ws, ¬ w.2.overloads dest) ∧
    after = if ws.any (·.2.gives dest) then kept else before

theorem Word.isFlag_of_gives {w : Word} (h : w.gives dest) : w.isFlag := by
  cases w with
  | plain | separator => cases h
  | flag => rfl

theorem Word.isFlag_of_overloads {w : Word} (h : w.overloads dest) : w.isFlag := by
  cases w with
  | plain | separator => cases h
  | flag => rfl

theorem any_gives_of_plain {ws : List (String × Word)} (h : ∀ w ∈ ws, ¬ w.2.isFlag) :
    ws.any (·.2.gives dest) = false :=
  List.any_eq_false.mpr fun w hw hgives => h w hw (Word.isFlag_of_gives hgives)

theorem WellRead.of_plain {ws : List (String × Word)} (h : ∀ w ∈ ws, ¬ w.2.isFlag) :
    WellRead as ws := by
  intro w hw a name attached hflag
  refine absurd ?_ (h w hw)
  rw [hflag]
  rfl

theorem Settles.of_plain {ws : List (String × Word)} (h : ∀ w ∈ ws, ¬ w.2.isFlag) (v : Value) :
    Settles dest kept ws v v := by
  refine ⟨fun w hw hoverloads => h w hw (Word.isFlag_of_overloads hoverloads), ?_⟩
  rw [any_gives_of_plain h]
  rfl

theorem Settles.pass {word : String × Word} (hgives : ¬ word.2.gives dest)
    (hoverloads : ¬ word.2.overloads dest) (v : Value) : Settles dest kept [word] v v := by
  refine ⟨by simpa using hoverloads, ?_⟩
  rw [List.any_cons, List.any_nil, Bool.or_false, if_neg hgives]

theorem Settles.given {word : String × Word} (hgives : word.2.gives dest)
    (hoverloads : ¬ word.2.overloads dest) (v : Value) : Settles dest kept [word] v kept := by
  refine ⟨by simpa using hoverloads, ?_⟩
  rw [List.any_cons, List.any_nil, Bool.or_false, if_pos hgives]

theorem Settles.append {front back : List (String × Word)} {before between after : Value}
    (hfront : Settles dest kept front before between) (hback : Settles dest kept back between after) :
    Settles dest kept (front ++ back) before after := by
  refine ⟨List.forall_mem_append.mpr ⟨hfront.1, hback.1⟩, ?_⟩
  rw [hback.2, hfront.2, List.any_append]
  cases front.any (·.2.gives dest) <;> cases back.any (·.2.gives dest) <;> rfl

theorem Settles.of_drop {ws : List (String × Word)} {n : Nat} {before after : Value}
    (hplain : ∀ w ∈ ws.take n, ¬ w.2.isFlag) (h : Settles dest kept (ws.drop n) before after) :
    Settles dest kept ws before after := by
  have happend := (Settles.of_plain hplain before).append h
  rwa [List.take_append_drop] at happend

theorem Decides.settles_flag (hd : Decides as dest flag kept) (word : String) {name : String}
    {attached : Option String} {following : List (String × Word)} {fuel n : Nat}
    {uses : List (Argument × List String)}
    (ha : a ∈ as) (hname : name ∈ a.flags)
    (huses : flagUses as following fuel a name attached = .ok (uses, n))
    (hgive : uses.foldlM (fun p use => give p use.1 use.2) p = .ok q) :
    Settles dest kept [(word, .flag (some a) name attached)] (p.values.find dest) (q.values.find dest) ∧
      q.places = p.places := by
  obtain ⟨-, hothers, hown⟩ := hd.flagUses_cases ha hname huses
  by_cases hdest : a.dest = dest
  · obtain ⟨rfl, rfl, -⟩ := hown hdest
    obtain ⟨p', hgive, hend⟩ := except_bind_eq_ok.mp hgive
    cases hend
    obtain ⟨hplaces, -, hkept⟩ := find_give hgive
    have hoff := hkept _ (hd.only a ha hdest).2.2.1
    rw [hdest] at hoff
    rw [hoff]
    exact ⟨.given (by simpa [Word.gives] using hdest) (by simp [Word.overloads]) _, hplaces⟩
  · obtain ⟨hplaces, hfind⟩ := find_giveUses (hothers hdest) hgive
    rw [hfind]
    refine ⟨.pass ?_ ?_ _, hplaces⟩
    · cases attached <;> simp [Word.gives, hdest]
    · cases attached <;> simp [Word.overloads, hdest]

theorem not_isFlag_of_takeWhile (ws : List (String × Word)) :
    ∀ w ∈ ws.take (ws.takeWhile fun w => !w.2.isFlag).length, ¬ w.2.isFlag := by
  intro w hw
  rw [← List.prefix_iff_eq_take.mp (List.takeWhile_prefix _)] at hw
  simpa using List.all_eq_true.mp List.all_takeWhile w hw

theorem exists_cons_of_not_flag {ws : List (String × Word)} (hflags : ws.any fun w => w.2.isFlag)
    (hnone : ∀ word name attached rest, ws ≠ (word, .flag none name attached) :: rest)
    (hsome : ∀ word a name attached rest, ws ≠ (word, .flag (some a) name attached) :: rest) :
    ∃ first rest, ws = first :: rest ∧ ¬ first.2.isFlag := by
  cases ws with
  | nil => cases hflags
  | cons first rest =>
      refine ⟨first, rest, rfl, ?_⟩
      obtain ⟨word, w⟩ := first
      cases w with
      | plain | separator => exact Bool.false_ne_true
      | flag a name attached =>
          cases a with
          | none => exact absurd rfl (hnone word name attached rest)
          | some a => exact absurd rfl (hsome word a name attached rest)

/-- What reading the words from here on does to the value of the destination. -/
theorem Decides.find_readLine (hd : Decides as dest flag kept) {ws : List (String × Word)} {fuel : Nat}
    (hfuel : ws.length < fuel) (hp : ∀ a ∈ p.places, a.dest ≠ dest) (hws : WellRead as ws)
    (h : readLine as fuel p ws = .ok q) :
    Settles dest kept ws (p.values.find dest) (q.values.find dest) := by
  fun_induction readLine generalizing q with
  | case1 => exact absurd hfuel (Nat.not_lt_zero _)
  | case2 fuel p word name attached rest ih =>
      -- a flag of no argument
      have hrest := ih (Nat.lt_of_succ_lt_succ hfuel) hp (hws.of_subset (List.subset_cons_self _ _)) h
      have hfirst : Settles dest kept [(word, .flag none name attached)] (p.values.find dest)
          (p.values.find dest) := .pass (by simp [Word.gives]) (by simp [Word.overloads]) _
      exact hfirst.append hrest
  | case3 fuel p word a name attached rest ih =>
      -- a flag of an argument, with the words that it takes
      obtain ⟨⟨uses, n⟩, huses, h⟩ := except_bind_eq_ok.mp h
      obtain ⟨p', hgive, h⟩ := except_bind_eq_ok.mp h
      obtain ⟨ha, hname⟩ := hws _ List.mem_cons_self a name attached rfl
      obtain ⟨hfirst, hplaces⟩ := hd.settles_flag word ha hname huses hgive
      have hlength : (rest.drop n).length < fuel := by
        rw [List.length_drop]
        simp only [List.length_cons] at hfuel
        omega
      have hread : WellRead as (rest.drop n) :=
        hws.of_subset (fun w hw => .tail _ (List.mem_of_mem_drop hw))
      have hrest := ih n p' hlength (hplaces ▸ hp) hread h
      exact hfirst.append (hrest.of_drop (hd.flagUses_cases ha hname huses).1)
  | case4 fuel p ws hnone hsome ihTaken ihSkipped =>
      -- words for places
      obtain ⟨⟨p', n⟩, hfill, h⟩ := except_bind_eq_ok.mp h
      obtain ⟨hp', hfind, hplain⟩ := find_fillPlaces hp hfill
      dsimp only at h
      split at h
      next hflags =>
        rw [← hfind]
        -- one word at least is passed, so the fuel lasts
        obtain ⟨first, rest, rfl, hfirst⟩ := exists_cons_of_not_flag hflags
          (fun word name attached rest => hnone word name attached rest)
          (fun word a name attached rest => hsome word a name attached rest)
        split at h
        next hn =>
          refine (ihTaken p' n ?_ hp' (hws.of_subset (List.drop_subset n _)) h).of_drop hplain
          rw [List.length_drop]
          simp only [List.length_cons] at hfuel ⊢
          omega
        next hn =>
          refine (ihSkipped p' ?_ hp' (hws.of_subset (List.drop_subset _ _)) h).of_drop
            (not_isFlag_of_takeWhile _)
          rw [List.length_drop, List.takeWhile_cons_of_pos (by simpa using hfirst)]
          simp only [List.length_cons] at hfuel ⊢
          omega
      next hflags =>
        cases h
        rw [← hfind]
        exact .of_plain (by simpa using hflags) _

/-! ## Words that stand for the flag -/

/-- Whether a word is a flag in full or shortened. -/
def shortens (word flag : String) : Prop := word.startsWith "--" ∧ flag.startsWith word

instance (word flag : String) : Decidable (shortens word flag) :=
  inferInstanceAs (Decidable (_ ∧ _))

theorem splitAttached_of_notMem {word : String} (h : '=' ∉ word.toList) :
    splitAttached word = (word, none) := by
  have hwhole : word.toList.takeWhile (· != '=') = word.toList :=
    List.takeWhile_eq_self_iff.mpr fun c hc => by
      simpa using fun heq : c = '=' => h (heq ▸ hc)
  simp [splitAttached, hwhole]

theorem fst_of_splitAttached {word head : String} (h : splitAttached word = (head, none)) :
    head = word := by
  unfold splitAttached at h
  dsimp only at h
  split at h
  · exact (Prod.mk.inj h).1.symm
  · cases h

theorem mem_flagTable_of_readings {word f : String} {attached : Option String}
    (h : (a, f, attached) ∈ readings as word) : (f, a) ∈ flagTable as := by
  unfold readings at h
  split at h
  · obtain ⟨e, he, heq⟩ := List.mem_map.mp h
    cases heq
    exact (List.mem_filter.mp he).1
  · obtain ⟨e, he, heq⟩ := List.mem_filterMap.mp h
    split at heq
    · cases heq
      exact he
    · split at heq
      · cases heq
        exact he
      · cases heq

theorem startsWith_of_readings {word f : String} (h : (a, f, none) ∈ readings as word) :
    f.startsWith word := by
  unfold readings at h
  split at h
  · obtain ⟨e, he, heq⟩ := List.mem_map.mp h
    simp only [Prod.mk.injEq] at heq
    obtain ⟨-, rfl, hattached⟩ := heq
    rw [← fst_of_splitAttached (Prod.ext rfl hattached)]
    exact (List.mem_filter.mp he).2
  · obtain ⟨e, he, heq⟩ := List.mem_filterMap.mp h
    split at heq
    · cases heq
    · split at heq
      next hstart =>
        cases heq
        exact hstart
      · cases heq

/-- How a word is read: as it stands, or as a flag that is written out, has something attached, or is the
only one that the word can stand for. -/
inductive Reads (as : List Argument) (word : String) : Word → Prop
  | plain (h : ¬ word.startsWith "-" ∨ word = "-") : Reads as word .plain
  | whole {a : Argument} (h : findFlag? as word = some a) : Reads as word (.flag (some a) word none)
  | attached {a : Argument} {head rest : String} (hsplit : splitAttached word = (head, some rest))
      (h : findFlag? as head = some a) : Reads as word (.flag (some a) head (some rest))
  | only {a : Argument} {f : String} {rest : Option String} (hhyphen : word.startsWith "-")
      (hword : word ≠ "-") (h : readings as word = [(a, f, rest)]) :
      Reads as word (.flag (some a) f rest)
  | unread {w : Word} (h : readings as word = []) (hw : w = .plain ∨ w = .flag none word none) :
      Reads as word w

theorem reads_of_readWord {word : String} {w : Word} (h : readWord as word = .ok w) :
    Reads as word w := by
  unfold readWord at h
  split at h
  next hhyphen =>
    cases h
    exact .plain (.inl (by simpa using hhyphen))
  next hhyphen =>
    split at h
    next hfind =>
      cases h
      exact .whole hfind
    next =>
      split at h
      next hword =>
        cases h
        exact .plain (.inr hword)
      next hword =>
        dsimp only at h
        split at h
        next hfind =>
          cases h
          obtain ⟨rest, hrest, hfind⟩ := Option.bind_eq_some_iff.mp hfind
          rw [hrest]
          exact .attached (Prod.ext rfl hrest) hfind
        next =>
          split at h
          next hreadings =>
            cases h
            exact .only (by simpa using hhyphen) hword hreadings
          next hreadings =>
            split at h
            · cases h
              exact .unread hreadings (.inl rfl)
            · cases h
              exact .unread hreadings (.inr rfl)
          next => cases h

theorem Reads.mem {word name : String} {attached : Option String}
    (h : Reads as word (.flag (some a) name attached)) : a ∈ as ∧ name ∈ a.flags := by
  cases h with
  | whole h => exact mem_of_findFlag? h
  | attached _ h => exact mem_of_findFlag? h
  | only _ _ h => exact mem_flagTable.mp (mem_flagTable_of_readings (by rw [h]; exact .head _))
  | unread _ hw => rcases hw with hw | hw <;> cases hw

theorem Decides.mem_readings (hd : Decides as dest flag kept) {word : String}
    (hword : shortens word flag) : ∃ a ∈ as, a.dest = dest ∧ (a, flag, none) ∈ readings as word := by
  obtain ⟨a, ha, hdest⟩ := hd.there
  have hflag : (flag, a) ∈ flagTable as :=
    mem_flagTable.mpr ⟨ha, by rw [(hd.only a ha hdest).1]; exact .head _⟩
  have hplain : '=' ∉ word.toList := fun hmem =>
    hd.plain ((String.startsWith_string_iff.mp hword.2).subset hmem)
  refine ⟨a, ha, hdest, ?_⟩
  rw [readings, if_pos hword.1, splitAttached_of_notMem hplain]
  exact List.mem_map_of_mem (List.mem_filter.mpr ⟨hflag, hword.2⟩)

/-- A word of one hyphen and something else does not begin the flag. -/
theorem Decides.startsWith_of_hyphen (hd : Decides as dest flag kept) {word : String}
    (hhyphen : word.startsWith "-") (hword : word ≠ "-") (hflag : flag.startsWith word) :
    word.startsWith "--" := by
  obtain ⟨c, rest, hlong⟩ := hd.long
  rw [String.startsWith_string_iff] at hhyphen hflag ⊢
  obtain ⟨tail, htail⟩ := hhyphen
  rw [hlong, ← htail] at hflag
  cases tail with
  | nil => exact absurd (String.toList_injective htail.symm) hword
  | cons x tail =>
      have hx : x = '-' := by
        have hsecond := (List.cons_prefix_cons.mp hflag).2
        exact (List.cons_prefix_cons.mp hsecond).1
      rw [← htail, hx]
      exact ⟨tail, rfl⟩

theorem Decides.shortens_of_gives (hd : Decides as dest flag kept) {word : String} {w : Word}
    (h : Reads as word w) (hgives : w.gives dest) : shortens word flag := by
  cases h with
  | plain => cases hgives
  | whole h =>
      obtain ⟨ha, hname⟩ := mem_of_findFlag? h
      rw [hd.name_eq ha (by simpa [Word.gives] using hgives) hname]
      exact ⟨hd.startsWith, String.startsWith_string_iff.mpr (List.prefix_refl _)⟩
  | attached => cases hgives
  | @only a f rest hhyphen hword h =>
      have hmem : (a, f, rest) ∈ readings as word := by
        rw [h]
        exact .head _
      cases rest with
      | some rest => cases hgives
      | none =>
          obtain ⟨ha, hname⟩ := mem_flagTable.mp (mem_flagTable_of_readings hmem)
          have hf : f = flag := hd.name_eq ha (by simpa [Word.gives] using hgives) hname
          have hflag : flag.startsWith word := hf ▸ startsWith_of_readings hmem
          exact ⟨hd.startsWith_of_hyphen hhyphen hword hflag, hflag⟩
  | unread _ hw => rcases hw with rfl | rfl <;> cases hgives

theorem Decides.gives_of_shortens (hd : Decides as dest flag kept) {word : String} {w : Word}
    (h : Reads as word w) (hshort : shortens word flag) : w.gives dest := by
  have hstart := String.startsWith_string_iff.mp hshort.2
  obtain ⟨a, ha, hdest, hmem⟩ := hd.mem_readings hshort
  cases h with
  | plain h =>
      rcases h with h | rfl
      · have hone : "-".toList <+: "--".toList := by decide
        have htwo := String.startsWith_string_iff.mp hshort.1
        exact absurd (String.startsWith_string_iff.mpr (hone.trans htwo)) h
      · exact absurd hshort.1 (by decide)
  | whole h =>
      obtain ⟨ha, hname⟩ := mem_of_findFlag? h
      simpa [Word.gives] using hd.apart _ ha word hname hstart
  | attached hsplit =>
      rw [splitAttached_of_notMem fun hmem => hd.plain (hstart.subset hmem)] at hsplit
      cases hsplit
  | only _ _ h =>
      rw [h] at hmem
      cases List.mem_singleton.mp hmem
      simpa [Word.gives] using hdest
  | unread h =>
      rw [h] at hmem
      cases hmem

/-! ## Whole lines -/

/-- Whether a flag is given on a line, in full or shortened: by a word before the first separator. -/
def givenOn (line : List String) (flag : String) : Bool :=
  (line.takeWhile (· ≠ "--")).any fun word => shortens word flag

theorem givenOn_cons {word : String} {rest : List String} (hword : word ≠ "--") :
    givenOn (word :: rest) flag = (decide (shortens word flag) || givenOn rest flag) := by
  rw [givenOn, List.takeWhile_cons_of_pos (by simpa using hword), List.any_cons, givenOn]

theorem not_isFlag_of_separator (word : String) (rest : List String) :
    ∀ w ∈ (word, Word.separator) :: rest.map fun w => (w, Word.plain), ¬ w.2.isFlag := by
  refine List.forall_mem_cons.mpr ⟨Bool.false_ne_true, fun w hw => ?_⟩
  obtain ⟨_, -, rfl⟩ := List.mem_map.mp hw
  exact Bool.false_ne_true

theorem wellRead_readWords {line : List String} {ws : List (String × Word)}
    (h : readWords as line = .ok ws) : WellRead as ws := by
  induction line generalizing ws with
  | nil =>
      cases h
      exact fun w hw => absurd hw List.not_mem_nil
  | cons word rest ih =>
      rw [readWords] at h
      split at h
      next =>
        cases h
        exact .of_plain (not_isFlag_of_separator word rest)
      next =>
        obtain ⟨w, hw, h⟩ := except_bind_eq_ok.mp h
        obtain ⟨ws', hws, hend⟩ := except_bind_eq_ok.mp h
        cases hend
        refine List.forall_mem_cons.mpr ⟨fun a name attached hflag => ?_, ih hws⟩
        obtain rfl : w = .flag (some a) name attached := hflag
        exact (reads_of_readWord hw).mem

theorem Decides.gives_readWords (hd : Decides as dest flag kept) {line : List String}
    {ws : List (String × Word)} (h : readWords as line = .ok ws) :
    ws.any (·.2.gives dest) = givenOn line flag := by
  induction line generalizing ws with
  | nil =>
      cases h
      rfl
  | cons word rest ih =>
      rw [readWords] at h
      split at h
      next hword =>
        cases h
        rw [any_gives_of_plain (not_isFlag_of_separator word rest), hword]
        rfl
      next hword =>
        obtain ⟨w, hw, h⟩ := except_bind_eq_ok.mp h
        obtain ⟨ws', hws, hend⟩ := except_bind_eq_ok.mp h
        cases hend
        have hreads := reads_of_readWord hw
        have hfirst : w.gives dest = decide (shortens word flag) :=
          Bool.eq_iff_iff.mpr ⟨fun hgives => decide_eq_true (hd.shortens_of_gives hreads hgives),
            fun hshort => hd.gives_of_shortens hreads (of_decide_eq_true hshort)⟩
        rw [givenOn_cons hword, List.any_cons, hfirst, ih hws]

/-- The value that the arguments of a destination begin with: the default of the first of them. -/
def initialValue (as : List Argument) (dest : String) : Value :=
  ((as.find? (·.dest = dest)).map (·.default)).getD .null

theorem Values.any_set (vs : Values) (name dest : String) (v : Value) :
    (vs.set name v).any (·.1 = dest) = (decide (name = dest) || vs.any (·.1 = dest)) := by
  rw [Values.set, List.any_append, List.any_filter, Bool.eq_iff_iff]
  simp only [List.any_cons, List.any_nil, Bool.or_false, Bool.or_eq_true, decide_eq_true_eq,
    List.any_eq_true, Bool.and_eq_true]
  constructor
  · rintro (⟨e, he, -, hdest⟩ | hname)
    · exact .inr ⟨e, he, hdest⟩
    · exact .inl hname
  · rintro (hname | ⟨e, he, hdest⟩)
    · exact .inr hname
    · by_cases hname : e.1 = name
      · exact .inr (hname ▸ hdest)
      · exact .inl ⟨e, he, hname, hdest⟩

theorem find_addDefault_of_ne (vs : Values) (hdest : a.dest ≠ dest) :
    (addDefault vs a).any (·.1 = dest) = vs.any (·.1 = dest) ∧
      (addDefault vs a).find dest = vs.find dest := by
  unfold addDefault
  split
  · split
    · exact ⟨rfl, rfl⟩
    · simp [Values.any_set, Values.find_set, hdest]
  · split
    · exact ⟨rfl, rfl⟩
    · simp [Values.any_set, Values.find_set, hdest]
  · exact ⟨rfl, rfl⟩

theorem find_addDefault_self (vs : Values) {v : Value} (heffect : a.effect = .keep v) :
    (addDefault vs a).any (·.1 = a.dest) = true ∧ (addDefault vs a).find a.dest =
      if vs.any (·.1 = a.dest) then vs.find a.dest else a.default := by
  rw [addDefault, heffect]
  dsimp only
  split
  next hthere => exact ⟨hthere, rfl⟩
  next => simp [Values.any_set, Values.find_set]

/-- A destination whose arguments keep values begins with the default of the first of them. -/
theorem find_foldl_addDefault (hkeep : ∀ a ∈ as, a.dest = dest → ∃ v, a.effect = .keep v)
    (vs : Values) : (as.foldl addDefault vs).find dest =
      if vs.any (·.1 = dest) then vs.find dest else initialValue as dest := by
  induction as generalizing vs with
  | nil =>
      rw [List.foldl_nil]
      split
      · rfl
      next hnone =>
        have hfind : vs.find? (·.1 = dest) = none :=
          List.find?_eq_none.mpr fun e he hdest => hnone (List.any_eq_true.mpr ⟨e, he, hdest⟩)
        rw [Values.find, hfind]
        rfl
  | cons a as ih =>
      obtain ⟨hfirst, hothers⟩ := List.forall_mem_cons.mp hkeep
      rw [List.foldl_cons, ih hothers]
      by_cases hdest : a.dest = dest
      · obtain ⟨v, hv⟩ := hfirst hdest
        subst hdest
        obtain ⟨hany, hfind⟩ := find_addDefault_self vs hv
        rw [hany, if_pos rfl, hfind, initialValue, List.find?_cons_of_pos (by simp)]
        rfl
      · obtain ⟨hany, hfind⟩ := find_addDefault_of_ne vs hdest
        rw [hany, hfind, initialValue, initialValue, List.find?_cons_of_neg (by simpa using hdest)]

theorem find_readDefaults (htext : ∀ a ∈ as, a.dest = dest → ∀ t, a.default ≠ .str t)
    (h : readDefaults p as = .ok q) : q.values.find dest = p.values.find dest := by
  induction as generalizing p with
  | nil =>
      cases h
      rfl
  | cons a as ih =>
      obtain ⟨hfirst, hothers⟩ := List.forall_mem_cons.mp htext
      rw [readDefaults] at h
      split at h
      next t hdefault =>
        split at h
        · exact ih hothers h
        · obtain ⟨v, -, h⟩ := except_bind_eq_ok.mp h
          have hne : a.dest ≠ dest := fun hdest => hfirst hdest t hdefault
          rw [ih hothers h, Values.find_set, if_neg hne]
      · exact ih hothers h

/-- What a line goes through that is read: its words, the progress over them, and the defaults. -/
theorem exists_of_readArguments {line : List String} {vs : Values}
    (h : readArguments as line = .ok vs) : ∃ ws p q, readWords as line = .ok ws ∧
      readLine as (2 * ws.length + 2)
        ⟨as.foldl addDefault [], as.filter fun a => a.flags.isEmpty, [], []⟩ ws = .ok p ∧
      readDefaults p as = .ok q ∧ q.values = vs := by
  obtain ⟨ws, hws, h⟩ := except_bind_eq_ok.mp h
  obtain ⟨p, hline, h⟩ := except_bind_eq_ok.mp h
  obtain ⟨q, hdefaults, h⟩ := except_bind_eq_ok.mp h
  refine ⟨ws, p, q, hws, hline, hdefaults, ?_⟩
  dsimp only at h
  split at h
  · cases h
  · split at h
    · cases h
    · cases h
      rfl

/-- The value of the destination behind a whole line: the one that its flag keeps if that is on the
line, else its default. -/
theorem Decides.find_readArguments (hd : Decides as dest flag kept) {line : List String} {vs : Values}
    (h : readArguments as line = .ok vs) :
    vs.find dest = if givenOn line flag then kept else initialValue as dest := by
  obtain ⟨words, p, q, hwords, hline, hdefaults, hvalues⟩ := exists_of_readArguments h
  have hplaces : ∀ a ∈ as.filter fun a => a.flags.isEmpty, a.dest ≠ dest := by
    intro a ha hdest
    obtain ⟨ha, hflags⟩ := List.mem_filter.mp ha
    rw [(hd.only a ha hdest).1] at hflags
    cases hflags
  have hsettled := hd.find_readLine (by omega) hplaces (wellRead_readWords hwords) hline
  have hkeep : ∀ a ∈ as, a.dest = dest → ∃ v, a.effect = .keep v :=
    fun a ha hdest => ⟨_, (hd.only a ha hdest).2.2.1⟩
  rw [← hvalues, find_readDefaults (fun a ha hdest => (hd.only a ha hdest).2.2.2) hdefaults,
    hsettled.2, hd.gives_readWords hwords, find_foldl_addDefault hkeep]
  rfl

end MarkTex.Command
