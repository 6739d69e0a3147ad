import MarkTex.Error
import MarkTex.Html.Fragment
import MarkTex.Proofs.Text.LowerCase

/-!
# Names of elements

The reader of markup puts the names of all tags in lower case: `lowered_of_read`. The conversion of a
fragment does so once more before it looks for the elements to leave out, and for that it finds no
other elements: `skipped_lowerString`.
-/

namespace MarkTex.Html

/-- An element is left out by its name in lower case just if it is by its name, which is in lower case
already. -/
theorem skipped_lowerString (cs : List Char) :
    skippedElements.contains (lowerString (String.ofList (lowerCase cs))) =
      skippedElements.contains (String.ofList (lowerCase cs)) := by
  have hall : (skippedElements.all fun name => name.toList.all fun d => d.isAlpha && d != 'k') =
      true := by decide +kernel
  have hplain : ∀ name ∈ skippedElements, ∀ d ∈ name.toList, d.isAlpha ∧ d ≠ 'k' := by
    simpa using hall
  have hself : ∀ name ∈ skippedElements, lowerString name = name := by decide +kernel
  rw [Bool.eq_iff_iff, List.contains_iff_mem, List.contains_iff_mem]
  constructor
  · intro h
    have heq := hplain _ h
    rw [lowerString, String.toList_ofList, String.toList_ofList] at heq
    rwa [lowerString, String.toList_ofList,
      lowerCase_eq_self (fun c hc => isUpper_of_mem_lowerCase hc) heq] at h
  · intro h
    rwa [hself _ h]

/-! ## Names of tags -/

/-- If a piece of markup opens an element, the name is in lower case. -/
inductive Markup.Lowered : Markup → Prop
  | text (t : Text) : Lowered (.text t)
  | openTag (cs : List Char) (attrs : List (List Char × Option (List Char))) :
      Lowered (.openTag (lowerCase cs) attrs)
  | emptyTag (cs : List Char) (attrs : List (List Char × Option (List Char))) :
      Lowered (.emptyTag (lowerCase cs) attrs)
  | closeTag (name : List Char) : Lowered (.closeTag name)
  | aside (kind : Aside) : Lowered (.aside kind)

namespace Scan

/-- What stands at a sign opens elements by names in lower case. -/
def Found.Lowered : Found → Prop
  | .markup events _ _ => ∀ m ∈ events, m.Lowered
  | _ => True

theorem Found.lowered_single {m : Markup} (h : m.Lowered) {after : Cursor}
    {raw : Option (List Char)} : (Found.markup [m] after raw).Lowered :=
  fun _ hm => List.mem_singleton.mp hm ▸ h

theorem lowered_startTag (raw : Option (List Char)) (c : Cursor) : (startTag raw c).Lowered := by
  unfold startTag
  split
  next => trivial
  next =>
    split
    next => trivial
    next =>
      dsimp only
      split
      next => trivial
      next =>
        split
        next => exact Found.lowered_single (.openTag _ _)
        next =>
          split
          next => exact Found.lowered_single (.emptyTag _ _)
          next => exact Found.lowered_single (.text _)

theorem lowered_bogus (kind : Aside) (raw : Option (List Char)) (c : Cursor) :
    (bogus kind raw c).Lowered := by
  unfold bogus
  split
  next => trivial
  next => exact Found.lowered_single (.aside kind)

theorem lowered_endTagAt (raw : Option (List Char)) (c : Cursor) : (endTagAt raw c).Lowered := by
  unfold endTagAt
  split
  next => trivial
  next =>
    split
    next =>
      dsimp only
      split
      next => exact Found.lowered_single (.text _)
      next => exact Found.lowered_single (.closeTag _)
    next =>
      split
      next => exact Found.lowered_single (.text _)
      next =>
        split
        next =>
          split
          next => exact fun _ hm => absurd hm List.not_mem_nil
          next => exact lowered_bogus .comment raw c
        next =>
          split
          next => trivial
          next => exact Found.lowered_single (.closeTag _)

theorem lowered_markedSection (raw : Option (List Char)) (c : Cursor) :
    (markedSection raw c).Lowered := by
  unfold markedSection
  dsimp only
  split
  next => trivial
  next =>
    split
    next => trivial
    next =>
      split
      next => trivial
      next =>
        split
        next => trivial
        next =>
          split
          next => trivial
          next => exact Found.lowered_single (.aside _)

theorem lowered_comment (raw : Option (List Char)) (c : Cursor) : (comment raw c).Lowered := by
  unfold comment
  dsimp only
  split
  next => trivial
  next => exact Found.lowered_single (.aside .comment)

theorem lowered_atBracket {raw : Option (List Char)} {c : Cursor} {found : Found}
    (h : atBracket raw c = some found) : found.Lowered := by
  unfold atBracket at h
  split at h
  next => cases h; exact lowered_endTagAt raw c
  next => cases h; exact lowered_comment raw c
  next => cases h; exact lowered_bogus .instruction raw c
  next => cases h; exact lowered_markedSection raw c
  next =>
    split at h
    next =>
      split at h
      next => cases h; trivial
      next => cases h; exact Found.lowered_single (.aside .doctype)
    next => cases h; exact lowered_bogus .comment raw c
  next =>
    split at h
    next => cases h; exact lowered_startTag raw c
    next => cases h; exact Found.lowered_single (.text _)
  next => cases h

/-! ## Names in a fragment -/

/-- All markup that a pass reads opens elements by names in lower case. -/
def LoweredPass (r : Except Rejection Halt) : Prop :=
  ∀ halt, r = .ok halt → ∀ m ∈ halt.events, m.Lowered

theorem LoweredPass.nothing (c : Cursor) (raw : Option (List Char)) :
    LoweredPass (.ok ⟨[], c, raw⟩) := by
  rintro halt ⟨rfl⟩ m hm
  exact absurd hm List.not_mem_nil

theorem LoweredPass.prepend {events : List Markup} {r : Except Rejection Halt}
    (hevents : ∀ m ∈ events, m.Lowered) (hr : LoweredPass r) :
    LoweredPass (r.map fun h => { h with events := events ++ h.events }) := by
  intro halt hhalt
  cases r with
  | error why => cases hhalt
  | ok rest =>
      cases hhalt
      exact List.forall_mem_append.mpr ⟨hevents, hr rest rfl⟩

theorem LoweredPass.text {t : Text} {r : Except Rejection Halt} (hr : LoweredPass r) :
    LoweredPass (r.map fun h => { h with events := [.text t] ++ h.events }) :=
  .prepend (fun _ hm => List.mem_singleton.mp hm ▸ .text t) hr

theorem loweredPass (last : Bool) (n : Nat) (raw : Option (List Char)) (c : Cursor) :
    LoweredPass (pass last n raw c) := by
  induction n generalizing raw c with
  | zero => exact .nothing c raw
  | succ n ih =>
      unfold pass
      dsimp only
      split
      next => exact .nothing c raw
      next =>
        split
        next => exact .nothing c raw
        next j _ =>
          refine .prepend ?_ ?_
          · split
            next => exact fun _ hm => absurd hm List.not_mem_nil
            next => exact fun _ hm => List.mem_singleton.mp hm ▸ .text _
          · split
            next => exact .nothing j raw
            next =>
              split
              next => exact .nothing j raw
              next => exact fun _ h => by cases h
              next hfound => exact .prepend (lowered_atBracket hfound) (ih _ _)
              next =>
                split
                next => exact .nothing j raw
                next => exact .text (ih _ _)
            next =>
              split
              next => exact fun _ h => by cases h
              next => exact .text (ih _ _)
              next =>
                split
                next =>
                  rintro halt ⟨rfl⟩ m hm
                  exact List.mem_singleton.mp hm ▸ .text _
                next => exact .nothing j raw
            next =>
              split
              next => exact .text (ih _ _)
              next =>
                split
                next => exact .nothing j raw
                next =>
                  split
                  next => split <;> exact .nothing _ raw
                  next => exact .text (ih _ _)

end Scan

/-- All markup of a fragment opens elements by names in lower case. -/
theorem lowered_of_read {cs : List Char} {ms : List Markup} (h : Markup.read cs = .ok ms) :
    ∀ m ∈ ms, m.Lowered := by
  rw [Markup.read] at h
  obtain ⟨first, hfirst, h⟩ := except_bind_eq_ok.mp h
  obtain ⟨second, hsecond, h⟩ := except_bind_eq_ok.mp h
  cases h
  have hpasses := List.forall_mem_append.mpr
    ⟨Scan.loweredPass _ _ _ _ first hfirst, Scan.loweredPass _ _ _ _ second hsecond⟩
  refine List.forall_mem_append.mpr ⟨hpasses, ?_⟩
  split
  next => exact fun _ hm => absurd hm List.not_mem_nil
  next => exact fun _ hm => List.mem_singleton.mp hm ▸ .text _

end MarkTex.Html
