import MarkTex.Proofs.Html.ElementNames

/-!
# The text of fragments

The builder of a tree marks each text with the innermost of the elements around it that set their text
apart, and the conversion keeps unmarked text. So the nodes of a fragment have the character data
outside such elements. That is all character data outside scripts and style sheets just if there is
none in templates and ruby annotations: `text_of_read`.
-/

namespace MarkTex.Html

/-! ## Character data in and outside of elements that set it apart -/

/-- Induction on a row of nodes: what is in the first node comes before what stands beside it. -/
@[elab_as_elim]
theorem Item.forest_induction {motive : List Item → Prop} (nil : motive [])
    (text : ∀ kind content is, motive is → motive (.text kind content :: is))
    (element : ∀ name attrs children is, motive children → motive is →
      motive (.element name attrs children :: is)) (is : List Item) : motive is := by
  refine @Item.rec_1 (fun i => ∀ is, motive is → motive (i :: is)) motive ?_ ?_ nil ?_ is
  · exact text
  · exact fun name attrs children hchildren is his => element name attrs children is hchildren his
  · exact fun i is hi his => hi is his

mutual

/-- The character data of a node that is in no element that sets its text apart. -/
def Item.plainData : Item → Text
  | .text (.aside _) _ => []
  | .text _ content => content
  | .element name _ children =>
    if (TextKind.within? name).isSome then [] else Item.plainDataOfAll children

def Item.plainDataOfAll : List Item → Text
  | [] => []
  | i :: is => Item.plainData i ++ Item.plainDataOfAll is

end

mutual

/-- The character data of a node that is in elements that set their text apart, but in no script and
no style sheet. -/
def Item.apartData : Item → Text
  | .text _ _ => []
  | .element name _ children =>
    if name = "script" ∨ name = "style" then []
    else if (TextKind.within? name).isSome then Item.characterDataOfAll children
    else Item.apartDataOfAll children

def Item.apartDataOfAll : List Item → Text
  | [] => []
  | i :: is => Item.apartData i ++ Item.apartDataOfAll is

end

/-- Scripts and style sheets set their text apart. -/
theorem TextKind.isSome_within? {name : String} (h : name = "script" ∨ name = "style") :
    (within? name).isSome := by
  rcases h with rfl | rfl <;> decide

theorem Item.plainDataOfAll_sublist (is : List Item) :
    (plainDataOfAll is).Sublist (characterDataOfAll is) := by
  induction is using Item.forest_induction with
  | nil => exact List.Sublist.slnil
  | text kind content is ih =>
      refine List.Sublist.append ?_ ih
      cases kind <;> exact List.Sublist.refl _
  | element name attrs children is hchildren his =>
      refine List.Sublist.append ?_ his
      rw [plainData, characterData]
      split
      next => exact List.nil_sublist _
      next hplain =>
        rw [if_neg fun hskipped => hplain (TextKind.isSome_within? hskipped)]
        exact hchildren

theorem Item.length_characterDataOfAll (is : List Item) :
    (characterDataOfAll is).length = (plainDataOfAll is).length + (apartDataOfAll is).length := by
  induction is using Item.forest_induction with
  | nil => rfl
  | text kind content is ih =>
      have hfirst : (characterData (.text kind content)).length =
          (plainData (.text kind content)).length := by cases kind <;> rfl
      simp only [characterDataOfAll, plainDataOfAll, apartDataOfAll, apartData, List.length_append,
        List.length_nil]
      omega
  | element name attrs children is hchildren his =>
      have hfirst : (characterData (.element name attrs children)).length =
          (plainData (.element name attrs children)).length +
            (apartData (.element name attrs children)).length := by
        rw [characterData, plainData, apartData]
        by_cases hskipped : name = "script" ∨ name = "style"
        · rw [if_pos hskipped, if_pos hskipped, if_pos (TextKind.isSome_within? hskipped)]
          rfl
        · rw [if_neg hskipped, if_neg hskipped]
          split
          next => exact (Nat.zero_add _).symm
          next => exact hchildren
      simp only [characterDataOfAll, plainDataOfAll, apartDataOfAll, List.length_append]
      omega

/-- What is set apart is all that can be missing. -/
theorem Item.plainDataOfAll_eq_iff (is : List Item) :
    plainDataOfAll is = characterDataOfAll is ↔ apartDataOfAll is = [] := by
  have hlength := length_characterDataOfAll is
  constructor
  · intro heq
    rw [← heq] at hlength
    exact List.eq_nil_of_length_eq_zero (by omega)
  · intro hnil
    rw [hnil] at hlength
    exact (plainDataOfAll_sublist is).eq_of_length hlength.symm

/-! ## Marked text -/

/-- In some kind of text, every text of a node is of the kind of the innermost element around it that
sets its text apart, or of that outer kind. The names of elements are in lower case. -/
inductive Item.Marked : TextKind → Item → Prop
  | aside {outer : TextKind} (kind : Aside) (content : Text) :
      Marked outer (.text (.aside kind) content)
  | text (outer : TextKind) (content : Text) : Marked outer (.text outer content)
  | element {outer : TextKind} (cs : List Char) {attrs : List (String × List Char)}
      {children : List Item} :
      (∀ i ∈ children, Marked ((TextKind.within? (String.ofList (lowerCase cs))).getD outer) i) →
      Marked outer (.element (String.ofList (lowerCase cs)) attrs children)

theorem TextKind.within?_ne_ordinary (name : String) : within? name ≠ some ordinary := by
  unfold within?
  repeat' split
  all_goals simp

theorem textOfAll_append (a b : List Node) : textOfAll (a ++ b) = textOfAll a ++ textOfAll b :=
  List.flatMap_append

theorem textOfAll_element (kind : ElementKind) (tag : String) (attrs : Attributes)
    (ns : List Node) : textOfAll [.element kind tag attrs ns] = textOfAll ns := by
  rw [textOfAll, List.flatMap_singleton, Node.textContent_element]
  rfl

/-- The text of the node of one element, given that of the nodes in it. -/
theorem Item.textOfAll_nodes_element {outer : TextKind} (cs : List Char)
    (attrs : List (String × List Char)) {children : List Item}
    (hinside : textOfAll (nodesOfAll children) =
      if (TextKind.within? (String.ofList (lowerCase cs))).getD outer = .ordinary then
        plainDataOfAll children
      else []) :
    textOfAll (nodes (.element (String.ofList (lowerCase cs)) attrs children)) =
      if outer = .ordinary then plainData (.element (String.ofList (lowerCase cs)) attrs children)
      else [] := by
  rw [nodes, plainData, skipped_lowerString]
  cases hwithin : TextKind.within? (String.ofList (lowerCase cs)) with
  | some kind =>
      have hkind : kind ≠ .ordinary := fun heq =>
        TextKind.within?_ne_ordinary _ (hwithin.trans (congrArg some heq))
      rw [hwithin, Option.getD_some, if_neg hkind] at hinside
      rw [Option.isSome_some, if_pos rfl, ite_self]
      split
      next => rfl
      next => rw [textOfAll_element, hinside]
  | none =>
      have hkept : skippedElements.contains (String.ofList (lowerCase cs)) = false := by
        refine Bool.eq_false_iff.mpr fun hskipped => ?_
        have hsome := TextKind.isSome_within? (by simpa [skippedElements] using hskipped)
        rw [hwithin] at hsome
        cases hsome
      rw [hwithin, Option.getD_none] at hinside
      rw [hkept, if_neg Bool.false_ne_true, textOfAll_element, hinside]
      rfl

/-- The text of the nodes of a row: under ordinary text that is set apart nowhere, else none. -/
theorem Item.textOfAll_nodesOfAll {outer : TextKind} {is : List Item}
    (h : ∀ i ∈ is, Marked outer i) :
    textOfAll (nodesOfAll is) = if outer = .ordinary then plainDataOfAll is else [] := by
  induction is using Item.forest_induction generalizing outer with
  | nil => exact (ite_self _).symm
  | text kind content is ih =>
      obtain ⟨hfirst, hrest⟩ := List.forall_mem_cons.mp h
      rw [nodesOfAll, textOfAll_append, ih hrest, nodes, plainDataOfAll]
      cases hfirst with
      | aside kind => simp [plainData, textOfAll]
      | text =>
          by_cases hordinary : kind = .ordinary
          · subst hordinary
            simp [plainData, textOfAll, Node.textContent]
          · simp [hordinary, textOfAll]
  | element name attrs children is hchildren his =>
      obtain ⟨hfirst, hrest⟩ := List.forall_mem_cons.mp h
      rw [nodesOfAll, textOfAll_append, his hrest, plainDataOfAll]
      cases hfirst with
      | element cs hmarked =>
          have hnode := textOfAll_nodes_element cs attrs (hchildren hmarked)
          rw [hnode]
          by_cases hordinary : outer = .ordinary <;> simp [hordinary]

/-! ## The builder marks text -/

/-- The kind of text in some open elements. -/
def kindAt (frames : List Frame) : TextKind :=
  (frames.findSome? fun f => TextKind.within? f.name).getD .ordinary

theorem kindAt_cons (f : Frame) (fs : List Frame) :
    kindAt (f :: fs) = (TextKind.within? f.name).getD (kindAt fs) := by
  rw [kindAt, List.findSome?_cons]
  cases TextKind.within? f.name <;> rfl

/-- In every open element the nodes read so far are marked as they must be there. -/
inductive FramesMarked : List Frame → Prop
  | nil : FramesMarked []
  | cons {cs : List Char} {attrs : List (String × List Char)} {children : List Item}
      {fs : List Frame} :
      (∀ i ∈ children, Item.Marked (kindAt (⟨String.ofList (lowerCase cs), attrs, children⟩ :: fs)) i) →
      FramesMarked fs → FramesMarked (⟨String.ofList (lowerCase cs), attrs, children⟩ :: fs)

/-- All nodes that a builder has read so far are marked. -/
structure Builder.Marked (b : Builder) : Prop where
  frames : FramesMarked b.frames
  top : ∀ i ∈ b.top, Item.Marked .ordinary i

namespace Builder

variable {b : Builder}

theorem Marked.place (hb : b.Marked) {item : Item} (hitem : item.Marked b.textKind) :
    (b.place item).Marked := by
  obtain ⟨frames, top, pending, closedVoid⟩ := b
  cases frames with
  | nil => exact ⟨.nil, List.forall_mem_cons.mpr ⟨hitem, hb.top⟩⟩
  | cons f fs =>
      refine ⟨?_, hb.top⟩
      cases hb.frames with
      | cons hchildren hfs =>
        refine .cons ?_ hfs
        exact List.forall_mem_cons.mpr ⟨hitem, hchildren⟩

theorem Marked.flush (hb : b.Marked) : b.flush.Marked := by
  unfold Builder.flush
  split
  next => exact hb
  next => exact Marked.place (b := { b with pending := none }) ⟨hb.frames, hb.top⟩ (.text _ _)

theorem Marked.openElement (hb : b.Marked) (cs : List Char) (attrs : List (String × List Char)) :
    (b.openElement (String.ofList (lowerCase cs)) attrs).Marked :=
  ⟨.cons (fun _ hi => absurd hi List.not_mem_nil) hb.flush.frames, hb.flush.top⟩

theorem Marked.closeInnermost (hb : b.Marked) : b.closeInnermost.Marked := by
  obtain ⟨frames, top, pending, closedVoid⟩ := b
  cases frames with
  | nil => exact hb
  | cons f fs =>
      cases hb.frames with
      | cons hchildren hfs =>
        refine Marked.place (b := ⟨fs, top, pending, closedVoid⟩) ⟨hfs, hb.top⟩
          (.element _ fun i hi => ?_)
        rw [kindAt_cons] at hchildren
        exact hchildren i (List.mem_reverse.mp hi)

theorem Marked.closeMany (hb : b.Marked) (n : Nat) : (closeMany n b).Marked := by
  induction n generalizing b with
  | zero => exact hb
  | succ n ih => exact ih hb.closeInnermost

theorem Marked.closeElement (hb : b.Marked) (name : String) : (b.closeElement name).Marked := by
  unfold Builder.closeElement
  dsimp only
  split
  next => exact hb.flush
  next => exact hb.flush.closeMany _

theorem Marked.step (hb : b.Marked) {m : Markup} (hm : m.Lowered) : (b.step m).Marked := by
  cases hm with
  | text t => exact ⟨hb.frames, hb.top⟩
  | openTag cs attrs =>
      have hopen := hb.openElement cs (attributeValues (String.ofList (lowerCase cs)) attrs)
      unfold Builder.step
      dsimp only
      split
      next => exact ⟨(hopen.closeElement _).frames, (hopen.closeElement _).top⟩
      next => exact hopen
  | emptyTag cs attrs => exact (hb.openElement cs _).closeElement _
  | closeTag name =>
      unfold Builder.step
      dsimp only
      split
      next => exact ⟨hb.frames, hb.top⟩
      next => exact hb.closeElement _
  | aside kind => exact hb.flush.place (.aside kind [])

theorem Marked.foldl (hb : b.Marked) {ms : List Markup} (hms : ∀ m ∈ ms, m.Lowered) :
    (ms.foldl Builder.step b).Marked := by
  induction ms generalizing b with
  | nil => exact hb
  | cons m ms ih =>
      obtain ⟨hm, hms⟩ := List.forall_mem_cons.mp hms
      exact ih (hb.step hm) hms

end Builder

theorem marked_ofMarkup {ms : List Markup} (hms : ∀ m ∈ ms, m.Lowered) :
    ∀ i ∈ Item.ofMarkup ms, i.Marked .ordinary := by
  have hstart : Builder.Marked ⟨[], [], none, []⟩ := ⟨.nil, fun _ hi => absurd hi List.not_mem_nil⟩
  intro i hi
  exact ((hstart.foldl hms).flush.closeMany _).top i (List.mem_reverse.mp hi)

/-! ## Fragments -/

/-- The nodes of a fragment have its character data outside elements that set theirs apart. That is
all character data outside scripts and style sheets just if there is none in other such elements. -/
theorem text_of_read {cs : List Char} {items : List Item} (h : Item.read cs = .ok items) :
    ∃ f, Fragment.read cs = .ok f ∧ textOfAll f.nodes = Item.plainDataOfAll items ∧
      (textOfAll f.nodes = Item.characterDataOfAll items ↔ Item.apartDataOfAll items = []) := by
  refine ⟨⟨Item.nodesOfAll items, Item.remarksOfAll items⟩, by rw [Fragment.read, h]; rfl, ?_⟩
  have htext : textOfAll (Item.nodesOfAll items) = Item.plainDataOfAll items := by
    cases hread : Markup.read cs with
    | error why => rw [Item.read, hread] at h; cases h
    | ok ms =>
        rw [Item.read, hread] at h
        cases h
        exact (Item.textOfAll_nodesOfAll (marked_ofMarkup (lowered_of_read hread))).trans
          (if_pos rfl)
  exact ⟨htext, htext ▸ Item.plainDataOfAll_eq_iff items⟩

/-- A fragment with a comment, a script and text in and around elements. -/
def noisyFragment : List Char := "a<B>b<!--c--></B><script>d</script><p>e &amp; f".toList

theorem noisyFragment_text : ∃ f, Fragment.read noisyFragment = .ok f ∧
    textOfAll f.nodes = Text.ofString "abe & f" := by
  have hread : (Item.read noisyFragment).toOption.map
      (fun is => (Item.apartDataOfAll is, Item.characterDataOfAll is)) =
        some ([], Text.ofString "abe & f") := by decide +kernel
  obtain ⟨items, hitems, hdata⟩ := Option.map_eq_some_iff.mp hread
  obtain ⟨hnone, hdata⟩ := Prod.mk.inj hdata
  obtain ⟨f, hf, _, hall⟩ := text_of_read (except_toOption_eq_some.mp hitems)
  exact ⟨f, hf, (hall.mpr hnone).trans hdata⟩

/-- The annotation of a ruby element is dropped from the text of the fragment. -/
theorem rubyText_dropped : ∃ cs items f, Item.read cs = .ok items ∧ Fragment.read cs = .ok f ∧
    Item.characterDataOfAll items = Text.ofString "xy" ∧ textOfAll f.nodes = Text.ofString "x" := by
  have hread : (Item.read "<ruby>x<rt>y</rt></ruby>".toList).toOption.map
      (fun is => (Item.characterDataOfAll is, textOfAll (Item.nodesOfAll is))) =
        some (Text.ofString "xy", Text.ofString "x") := by decide +kernel
  obtain ⟨items, hitems, hdata⟩ := Option.map_eq_some_iff.mp hread
  have hitems := except_toOption_eq_some.mp hitems
  obtain ⟨hdata, htext⟩ := Prod.mk.inj hdata
  exact ⟨_, items, _, hitems, by rw [Fragment.read, hitems]; rfl, hdata, htext⟩

end MarkTex.Html
