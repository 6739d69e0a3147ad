import MarkTex.Proofs.Convert.Looks
import MarkTex.Proofs.Markdown.Conversion
import MarkTex.Proofs.Markdown.OpeningTag

/-!
# Where raw HTML needs its reader

A conversion looks for the package that reads HTML only when it comes upon raw HTML that is to be read:
a block of it among blocks, or a tag that is kept in a line of text. Without the package it fails there,
and everywhere else it gives what it gives with the package: `nodesOfBlocks_without_reader`.
-/

namespace MarkTex

/-! ## Hosts without a reader of HTML -/

namespace Package

/-- The first version of the package that will do. -/
def firstHtmlVersion : Version := { release := [4, 9, 0] }

/-- The package that reads HTML is missing or in a version that is too old, with the failure that says
so. -/
inductive Inventory.LacksHtml (i : Inventory) : Unmet → Prop
  | missing : "bs4" ∉ i.importable →
      LacksHtml i ⟨"html", [("beautifulsoup4", ">=4.9.0")], [], some ⟨"bs4"⟩⟩
  | unversioned : "bs4" ∈ i.importable → i.version? "beautifulsoup4" = none →
      LacksHtml i ⟨"html", [], [⟨"beautifulsoup4", ">=4.9.0", "unknown"⟩], none⟩
  | tooOld {installed : String} {v : Version} : "bs4" ∈ i.importable →
      i.version? "beautifulsoup4" = some installed → Version.ofString? installed = some v →
      v.publicPart.order firstHtmlVersion = .lt →
      LacksHtml i ⟨"html", [], [⟨"beautifulsoup4", ">=4.9.0", installed⟩], none⟩

theorem specifier?_html : Packaging.standard.specifier? ">=4.9.0" = some fun installed =>
    (Version.ofString? installed).any fun v => meetsAll v [.atLeast firstHtmlVersion] :=
  rfl

variable {i : Inventory} {u : Unmet}

theorem Inventory.installed?_standard (i : Inventory) {package : String} (hnamed : package ≠ "") :
    Packaging.standard.installed? i package = .ok (i.version? package) := by
  rw [Packaging.installed?, Packaging.standard]
  simp only [hnamed, if_false]
  rfl

/-- An installed version that is early will not do. -/
theorem Inventory.check_html {installed : String} {v : Version} (i : Inventory)
    (hversion : i.version? "beautifulsoup4" = some installed)
    (hread : Version.ofString? installed = some v)
    (hold : v.publicPart.order firstHtmlVersion = .lt) :
    i.check "beautifulsoup4" ">=4.9.0" = .ok (false, some installed) := by
  rw [Inventory.check, Packaging.check, i.installed?_standard (by decide), hversion]
  have hvalid : Packaging.standard.isVersion installed = true := by simp [Packaging.standard, hread]
  simp [specifier?_html, hvalid, hread, hold, meetsAll, Clause.meets, bind, Except.bind, pure,
    Except.pure]

theorem Inventory.LacksHtml.component (h : i.LacksHtml u) : u.component = "html" := by
  cases h <;> rfl

theorem Inventory.LacksHtml.isEmpty (h : i.LacksHtml u) : u.isEmpty = false := by
  cases h <;> rfl

/-- The check of the requirements finds what is lacking. -/
theorem Inventory.LacksHtml.unmet (h : i.LacksHtml u) :
    unmet .standard i "html" htmlRequirements = .ok u := by
  change Unmet.check .standard i ⟨"html", [], [], none⟩ _ >>= pure = _
  have himports : Packaging.standard.imports i.importable "bs4" = .ok (i.importable.contains "bs4") :=
    rfl
  cases h with
  | missing hmodule =>
      simp [Unmet.check, himports, hmodule, pure, Except.pure, bind, Except.bind]
  | unversioned hmodule hversion =>
      have hcheck : i.check "beautifulsoup4" ">=4.9.0" = .ok (false, none) := by
        rw [Inventory.check, Packaging.check, i.installed?_standard (by decide), hversion]
        rfl
      rw [Inventory.check] at hcheck
      simp [Unmet.check, himports, hmodule, hcheck, pure, Except.pure, bind, Except.bind]
  | tooOld hmodule hversion hread hold =>
      have hcheck := i.check_html hversion hread hold
      rw [Inventory.check] at hcheck
      simp [Unmet.check, himports, hmodule, hcheck, pure, Except.pure, bind, Except.bind]

end Package

namespace Markdown

open Package MarkTex.Action

/-! ## Actions that fail for the packages at hand -/

/-- An action fails with an error on every host with some packages at hand. -/
def Stops (i : Inventory) (e : Error) {α : Type} (x : Action α) : Prop :=
  ∀ h : Host, h.inventory = i → (x.runOn h).1 = .error e

variable {V : HostView} {α β γ : Type} {i : Inventory} {e : Error} {u : Unmet}

theorem Yields.agree {x : Action α} {a : α} (hx : Yields reading x a) : Agree V x (Pure.pure a) := by
  obtain ⟨remarks, rfl⟩ := hx
  induction remarks with
  | nil => exact Agree.pure a
  | cons r remarks ih =>
      change Agree V (do (do reading.remark r; remarks.forM reading.remark); Pure.pure a) _
      rw [bind_assoc]
      exact Agree.skip (agree_remark r) ih

theorem Stops.bind {x : Action α} (hx : Stops i e x) (f : α → Action β) : Stops i e (x >>= f) := by
  intro h hi
  have hfirst := hx h hi
  rw [runOn_bind]
  generalize x.runOn h = ran at hfirst
  obtain ⟨r, h'⟩ := ran
  cases hfirst
  rfl

/-- Remarks leave the packages as they are, so what fails behind them fails. -/
theorem Stops.behind {x : Action α} {a : α} {f : α → Action β} (hx : Yields reading x a)
    (hf : Stops i e (f a)) : Stops i e (x >>= f) := by
  intro h hi
  rw [runOn_bind]
  generalize hran : x.runOn h = ran
  obtain ⟨r, h'⟩ := ran
  have hlooks : Agree HostView.packages x (Pure.pure a) := hx.agree
  obtain ⟨rfl, hsame⟩ := hlooks.run_pure (HostView.packages_alike h) hran
  exact hf h' (hsame.1.symm.trans hi)

theorem stops_readFragment (h : i.LacksHtml u) (t : Text) :
    Stops i (.unmet u) (readFragment t) := by
  refine Stops.bind (fun host hi => ?_) _
  rw [require, runOn_bind, runOn_get]
  simp only [hi, h.unmet, h.isEmpty]
  rfl

/-! ## Raw HTML that is read -/

/-- At a place, a token of a kind with a raw text is raw HTML that is read if HTML is read at all. -/
def Place.ReadsHtml (p : Place) (kind : TokenKind) (raw : Text) : Prop :=
  p = .block ∧ kind = .blockHtml ∨ p = .line ∧ kind = .inlineHtml ∧ OpensKeptTag raw

instance (p : Place) (kind : TokenKind) (raw : Text) : Decidable (p.ReadsHtml kind raw) :=
  inferInstanceAs (Decidable (_ ∨ _))

/-- Some visit is to raw HTML that is read. -/
def MeetsHtml (visits : List (Place × Token)) : Prop :=
  ∃ v ∈ visits, v.1.ReadsHtml v.2.kind v.2.raw

instance (visits : List (Place × Token)) : Decidable (MeetsHtml visits) :=
  inferInstanceAs (Decidable (∃ v ∈ visits, _))

/-- The conversion of a forest of blocks reads raw HTML somewhere. -/
def NeedsHtml (o : ParseOptions) (ts : List Token) : Prop :=
  o.parseHtml = true ∧ MeetsHtml (Place.block.visitsEach ts)

instance (o : ParseOptions) (ts : List Token) : Decidable (NeedsHtml o ts) :=
  inferInstanceAs (Decidable (_ ∧ _))

variable {o : ParseOptions} {kind : TokenKind} {raw : Text} {attrs : TokenAttributes}
variable {children ts : List Token} {p q : Place} {visits more : List (Place × Token)}

/-- Only raw HTML that is read becomes a fragment. -/
theorem Place.readsHtml_of_form {text : Text} {trimmed : Bool}
    (h : p.form o raw attrs kind = .fragment text trimmed) :
    o.parseHtml = true ∧ p.ReadsHtml kind raw := by
  have hat := p.formAt o raw attrs kind
  rw [h] at hat
  obtain ⟨hhtml, rfl | rfl⟩ := hat.of_fragment
  · refine ⟨hhtml, .inl ?_⟩
    cases p with
    | block => exact ⟨rfl, rfl⟩
    | _ => cases h
  · refine ⟨hhtml, .inr ?_⟩
    cases p with
    | line =>
        simp only [Place.form, hhtml, if_true] at h
        split at h
        next hkept => exact ⟨rfl, rfl, (isKeptInline_iff raw).mp hkept⟩
        next => cases h
    | _ => cases h

theorem MeetsHtml.of_append (h : MeetsHtml (visits ++ more)) : MeetsHtml visits ∨ MeetsHtml more := by
  obtain ⟨v, hv, hreads⟩ := h
  exact (List.mem_append.mp hv).imp (⟨v, ·, hreads⟩) (⟨v, ·, hreads⟩)

/-- Raw HTML has no tokens inside it, so it is met further in if the place goes on there. -/
theorem MeetsHtml.inside (hq : p.inside kind = some q)
    (h : MeetsHtml (p.visits (.mk kind raw attrs children))) :
    MeetsHtml (q.visitsEach children) := by
  rw [Place.visits, hq] at h
  obtain ⟨v, hv, hreads⟩ := h
  rcases List.mem_cons.mp hv with rfl | hv
  · obtain ⟨rfl, rfl⟩ | ⟨rfl, rfl, -⟩ := hreads <;> cases hq
  · exact ⟨v, hv, hreads⟩

theorem MeetsHtml.self (hq : p.inside kind = none)
    (h : MeetsHtml (p.visits (.mk kind raw attrs children))) : p.ReadsHtml kind raw := by
  rw [Place.visits, hq] at h
  obtain ⟨v, hv, hreads⟩ := h
  obtain rfl := List.mem_singleton.mp hv
  exact hreads

/-- A token that is passed over is nothing to meet. -/
theorem MeetsHtml.past (hq : p.inside kind = none) (hreads : ¬ p.ReadsHtml kind raw)
    (h : MeetsHtml (p.visits (.mk kind raw attrs children) ++ more)) : MeetsHtml more :=
  h.of_append.resolve_left fun hmeets => hreads (hmeets.self hq)

theorem NoFragments.of_not_meets (h : ¬ MeetsHtml visits) : NoFragments o visits :=
  fun v hv _ _ hform => h ⟨v, hv, (Place.readsHtml_of_form hform).2⟩

/-! ## The conversion without a reader -/

/-- At every place, the conversion of a forest fails where it meets raw HTML that is read. -/
structure StopsAtHtml (i : Inventory) (e : Error) (o : ParseOptions) (ts : List Token) : Prop where
  blocks : MeetsHtml (Place.block.visitsEach ts) → Stops i e (blocks reading o ts)
  items : MeetsHtml (Place.item.visitsEach ts) → Stops i e (listItems reading o ts)
  parts : MeetsHtml (Place.part.visitsEach ts) → Stops i e (tableSections reading o ts)
  rows : MeetsHtml (Place.row.visitsEach ts) → Stops i e (tableRows reading o ts)
  cells (header : Bool) : MeetsHtml ((Place.cell header).visitsEach ts) →
    Stops i e (tableCells reading o header ts)
  line : MeetsHtml (Place.line.visitsEach ts) → Stops i e (inlines reading o ts)

/-- Of two parts in a row either the first meets raw HTML, or the second does behind remarks. -/
theorem Stops.either {x : Action α} {y : Action β} {k : α → β → γ}
    (hx : MeetsHtml visits → Stops i e x)
    (hquiet : NoFragments o visits → ∃ a, Yields reading x a)
    (hy : MeetsHtml more → Stops i e y) (h : MeetsHtml (visits ++ more)) :
    Stops i e (do let a ← x; let b ← y; return k a b) := by
  by_cases hfirst : MeetsHtml visits
  · exact (hx hfirst).bind _
  · obtain ⟨a, hyields⟩ := hquiet (.of_not_meets hfirst)
    exact .behind hyields ((hy (h.of_append.resolve_left hfirst)).bind _)

/-- Where no fragment is read it does not matter what fragments would hold. -/
theorem agreesQuietly (ts : List Token) : Agrees reading (fun _ => []) o ts := agrees ts

theorem stops_block (hhtml : o.parseHtml = true) (hlacks : i.LacksHtml u)
    (hin : StopsAtHtml i (.unmet u) o children)
    (h : MeetsHtml (Place.block.visits (.mk kind raw attrs children))) :
    Stops i (.unmet u) (block reading o (.mk kind raw attrs children)) := by
  cases kind with
  | heading | paragraph | blockText => exact (hin.line (h.inside rfl)).bind _
  | blockQuote => exact (hin.blocks (h.inside rfl)).bind _
  | list => exact (hin.items (h.inside rfl)).bind _
  | table => exact (hin.parts (h.inside rfl)).bind _
  | blockHtml =>
      simp only [block, hhtml, if_true]
      exact (stops_readFragment hlacks raw).bind _
  -- all other kinds have no place inside and are no raw HTML among blocks
  | _ => exact absurd (h.self rfl) (by simp [Place.ReadsHtml])

theorem stops_inline (hhtml : o.parseHtml = true) (hlacks : i.LacksHtml u)
    (hin : StopsAtHtml i (.unmet u) o children)
    (h : MeetsHtml (Place.line.visits (.mk kind raw attrs children))) :
    Stops i (.unmet u) (inline reading o (.mk kind raw attrs children)) := by
  cases kind with
  | strong | emphasis | link | image | strikethrough => exact (hin.line (h.inside rfl)).bind _
  | inlineHtml =>
      have hkept : isKeptInline raw := by
        simpa [Place.ReadsHtml, ← isKeptInline_iff] using h.self rfl
      simp only [inline, hhtml, hkept, if_true]
      exact stops_readFragment hlacks raw
  | _ => exact absurd (h.self rfl) (by simp [Place.ReadsHtml])

/-- One more token at the front of a forest. -/
theorem StopsAtHtml.cons (hhtml : o.parseHtml = true) (hlacks : i.LacksHtml u)
    (hin : StopsAtHtml i (.unmet u) o children) (hts : StopsAtHtml i (.unmet u) o ts) :
    StopsAtHtml i (.unmet u) o (.mk kind raw attrs children :: ts) where
  blocks := Stops.either (stops_block hhtml hlacks hin)
    (fun hquiet => ⟨_, yields_block (agreesQuietly _) hquiet.fragmentsYield⟩) hts.blocks
  items h := by
    by_cases hkind : kind = .listItem
    · subst hkind
      exact Stops.either (fun hmeets => hin.blocks (hmeets.inside rfl))
        (fun hquiet => ⟨_, (agreesQuietly _).blocks (hquiet.inside rfl).fragmentsYield⟩) hts.items h
    · -- what is no item is passed over, whatever is inside it
      have hinside : Place.item.inside kind = none := by
        cases kind <;> first | rfl | contradiction
      rw [listItems, if_neg hkind]
      exact hts.items (h.past hinside (by simp [Place.ReadsHtml]))
  parts h := by
    cases kind with
    | tableHead =>
        exact Stops.either (fun hmeets => hin.cells true (hmeets.inside rfl))
          (fun hquiet => ⟨_, (agreesQuietly _).cells true (hquiet.inside rfl).fragmentsYield⟩)
          hts.parts h
    | tableBody =>
        exact Stops.either (fun hmeets => hin.rows (hmeets.inside rfl))
          (fun hquiet => ⟨_, (agreesQuietly _).rows (hquiet.inside rfl).fragmentsYield⟩) hts.parts h
    -- a table has no other parts
    | _ => exact hts.parts (h.past rfl (by simp [Place.ReadsHtml]))
  rows := Stops.either (fun hmeets => hin.cells false (hmeets.inside rfl))
    (fun hquiet => ⟨_, (agreesQuietly _).cells false (hquiet.inside rfl).fragmentsYield⟩) hts.rows
  cells header h := by
    by_cases hkind : kind = .tableCell
    · subst hkind
      exact Stops.either (fun hmeets => hin.line (hmeets.inside rfl))
        (fun hquiet => ⟨_, (agreesQuietly _).line (hquiet.inside rfl).fragmentsYield⟩)
        (hts.cells header) h
    · have hinside : (Place.cell header).inside kind = none := by
        cases kind <;> first | rfl | contradiction
      rw [tableCells, if_neg hkind]
      exact hts.cells header (h.past hinside (by simp [Place.ReadsHtml]))
  line := Stops.either (stops_inline hhtml hlacks hin)
    (fun hquiet => ⟨_, yields_inline (agreesQuietly _) hquiet.fragmentsYield⟩) hts.line

theorem stopsAtHtml (hhtml : o.parseHtml = true) (hlacks : i.LacksHtml u) (ts : List Token) :
    StopsAtHtml i (.unmet u) o ts := by
  induction ts using Token.forest_induction with
  | nil => exact ⟨nofun, nofun, nofun, nofun, nofun, nofun⟩
  | cons kind raw attrs children ts hchildren hts => exact hchildren.cons hhtml hlacks hts

/-- Where no raw HTML is read, the nodes are the same on every host. -/
theorem nodesOfBlocks_outcome (h : ¬ NeedsHtml o ts) :
    ∃ ns, ∀ host : Host, ((nodesOfBlocks reading o ts).runOn host).1 = .ok ns := by
  have hquiet : NoFragments o (Place.block.visitsEach ts) := by
    cases hhtml : o.parseHtml with
    | true => exact .of_not_meets fun hmeets => h ⟨hhtml, hmeets⟩
    | false => exact .of_parseHtml hhtml _
  have hyields : Yields reading (nodesOfBlocks reading o ts) (Place.block.convert (fun _ => []) o ts) :=
    yields_nodesOfBlocks hquiet.fragmentsYield
  exact ⟨_, fun host => (hyields.agree (HostView.packages_alike host)).1⟩

/-- A heading with an image whose alt text holds a tag that is kept, in capitals. -/
def breakInAltText : List Token :=
  [.branch .heading [.branch .image [.leaf .inlineHtml "< BR/>".toList]]]

/-- A list whose only token is a block of raw HTML and no item, and a paragraph with a tag that is
dropped. -/
def htmlPassedOver : List Token :=
  [.branch .list [.leaf .blockHtml "<hr>".toList],
   .branch .paragraph [.leaf .inlineHtml "<brr>".toList]]

end Markdown

end MarkTex
