import MarkTex.Proofs.Convert.Routes

/-!
# Reading back what is written

A text of characters that is written to a file or to a stream of bytes is read back as it is, but for a
byte order mark at its head. Bytes that are read as UTF-8 are written again as they were, but for the
same mark (`written_readBack`).
-/

namespace MarkTex

open Encoding HostView

variable {h h' : Host} {t : Text} {bs : List UInt8} {p : Path} {l : Location}

/-! ## Bytes and characters -/

/-- Characters without a byte order mark at their head. -/
def withoutMark : List Char → List Char
  | '\uFEFF' :: cs => cs
  | cs => cs

theorem dropByteOrderMark_eq (cs : List Char) :
    dropByteOrderMark (utf8Encode cs) = utf8Encode (withoutMark cs) := by
  unfold withoutMark
  split
  next => rfl
  next cs hcs =>
    refine dropByteOrderMark_utf8Encode fun hhead => ?_
    obtain ⟨rest, rfl⟩ := List.head?_eq_some_iff.mp hhead
    exact hcs rest rfl

theorem utf8OfText_ofChars (cs : List Char) : utf8OfText (Text.ofChars cs) = .ok (utf8Encode cs) := by
  rw [utf8OfText, Text.chars?_ofChars]

namespace Action

/-- The bytes of characters are read as these characters without a mark at their head. -/
theorem runOn_decodeText_utf8Encode (cs : List Char) (h : Host) :
    (decodeText (utf8Encode cs) utf8Name).runOn h = (.ok (Text.ofChars (withoutMark cs)), h) := by
  rw [decodeText, decodeNamed_utf8Signed named?_utf8Name, dropByteOrderMark_eq, utf8Decode_utf8Encode]
  rfl

/-- A text that is read from bytes has these bytes, without a mark at their head. -/
theorem utf8OfText_of_decodeText (hread : ((decodeText bs utf8Name).runOn h).1 = .ok t) :
    utf8OfText t = .ok (dropByteOrderMark bs) := by
  rw [decodeText, decodeNamed_utf8Signed named?_utf8Name] at hread
  cases hdecoded : utf8Decode (dropByteOrderMark bs) with
  | error e =>
      rw [hdecoded] at hread
      cases hread
  | ok cs =>
      rw [hdecoded] at hread
      cases hread
      exact (utf8OfText_ofChars cs).trans (congrArg _ (utf8Encode_of_utf8DecodeFrom hdecoded))

end Action

/-! ## Writing, and what is found then -/

/-- Remarks on details go to no file, or to one that a path does not lead to. -/
def Host.NotesApart (h : Host) (p : Path) : Prop := h.logs Log.debug = true → h.LogsApart p

/-- What has been written at a path is found there behind the remark on it. -/
theorem Host.NotesApart.lookup_record (hnotes : h.NotesApart p) (hopens : h.Opens p l)
    (bs : List UInt8) (origin : String) (message : Text) :
    ((h.withFile l bs).record origin Log.debug message).files.lookup h.directory p =
      .ok (.found l (.file bs)) := by
  have hfound : (h.withFile l bs).files.lookup (h.withFile l bs).directory p =
      .ok (.found l (.file bs)) := Store.lookup_put hopens.2 bs
  cases hlogs : h.logs Log.debug with
  | false =>
      have hquiet : (h.withFile l bs).logs Log.debug = false := hlogs
      rwa [Host.record, hquiet]
  | true =>
      have hapart := hnotes hlogs
      have hnoted := besideLog.record origin Log.debug message
        (besideLog_withFile hapart.seen l bs)
      have hplace : h.logFile? ≠ some l := fun hl => (hapart l hl).2 hopens.2
      have hkept := lookup_of_besideLog hnoted hfound hplace
      rwa [← Host.directory_of_bare hnoted.1] at hkept

theorem Host.directory_record (h : Host) (origin : String) (level : Int) (message : Text) :
    (h.record origin level message).directory = h.directory := by
  obtain ⟨complaints, files, hrecord, -⟩ := h.record_eq origin level message
  rw [hrecord]

namespace Action

/-- A text that has a UTF-8 form is delivered to a path that can be opened, and found there. -/
theorem runOn_deliver_path (hopens : h.Opens p l) (hnotes : h.NotesApart p)
    (hbytes : utf8OfText t = .ok bs) : ∃ h', (deliver t (.path p)).runOn h = (.ok none, h') ∧
      h'.directory = h.directory ∧ h'.files.lookup h.directory p = .ok (.found l (.file bs)) := by
  obtain ⟨message, hwrite⟩ := runOn_writeText hopens.1 hopens.2 hbytes
  refine ⟨(h.withFile l bs).record "md2tex.utils.io_utils" Log.debug message, ?_,
    Host.directory_record (h.withFile l bs) _ _ _, hnotes.lookup_record hopens bs _ _⟩
  rw [deliver, runOn_bind, hwrite]
  rfl

theorem runOn_deliver_stream {k : StreamKind} (hk : k.TakesBytes) (hbytes : utf8OfText t = .ok bs)
    (h : Host) : (deliver t (.stream k)).runOn h = (.ok (some (.bytes bs)), h) := by
  rw [deliver, if_pos (k.isBinary_iff.mpr hk), encodeText, hbytes]
  rfl

/-- A text of characters is read back from the file or the bytes that it is written to, without a byte
order mark at its head. Bytes that are read as UTF-8 are what is written of the text that they give,
without a mark at their head. -/
theorem written_readBack :
    (∀ (cs : List Char) (h : Host) (p : Path) (l : Location), h.Opens p l → h.NotesApart p →
      ∃ h', (deliver (Text.ofChars cs) (.path p)).runOn h = (.ok none, h') ∧
        ((readText p (Text.ofString "utf-8")).runOn h').1 = .ok (Text.ofChars (withoutMark cs))) ∧
    (∀ (cs : List Char) (h : Host) (k : StreamKind), k.TakesBytes →
      ∃ bs, (deliver (Text.ofChars cs) (.stream k)).runOn h = (.ok (some (.bytes bs)), h) ∧
        (decodeText bs (Text.ofString "utf-8")).runOn h = (.ok (Text.ofChars (withoutMark cs)), h)) ∧
    ∀ (bs : List UInt8) (t : Text) (h : Host),
      ((decodeText bs (Text.ofString "utf-8")).runOn h).1 = .ok t →
        (∀ k : StreamKind, k.TakesBytes →
          (deliver t (.stream k)).runOn h = (.ok (some (.bytes (dropByteOrderMark bs))), h)) ∧
        ∀ p l, h.Opens p l → h.NotesApart p →
          ∃ h', (deliver t (.path p)).runOn h = (.ok none, h') ∧
            h'.files.read h'.directory p = .ok (dropByteOrderMark bs) := by
  refine ⟨fun cs h p l hopens hnotes => ?_, fun cs h k hk => ?_, fun bs t h hread => ?_⟩
  · obtain ⟨h', hwrite, hdirectory, hfound⟩ :=
      runOn_deliver_path hopens hnotes (utf8OfText_ofChars cs)
    rw [← hdirectory] at hfound
    refine ⟨h', hwrite, (readText_outcome _ (found?_of_lookup hopens.1 hfound)).trans ?_⟩
    exact congrArg Prod.fst (runOn_decodeText_utf8Encode cs h')
  · exact ⟨_, runOn_deliver_stream hk (utf8OfText_ofChars cs) h, runOn_decodeText_utf8Encode cs h⟩
  · have hbytes := utf8OfText_of_decodeText hread
    refine ⟨fun k hk => runOn_deliver_stream hk hbytes h, fun p l hopens hnotes => ?_⟩
    obtain ⟨h', hwrite, hdirectory, hfound⟩ := runOn_deliver_path hopens hnotes hbytes
    rw [← hdirectory] at hfound
    exact ⟨h', hwrite, Store.read_of_lookup hfound⟩

/-- The page with a log of all details in a file beside it. -/
def loggedPage : Host :=
  { pageHost with
    files := pageHost.files.put ["p.log"] [], log := some ⟨Log.debug, false, some ["p.log"]⟩ }

/-- Two marks, of which the first is taken for one, and line ends of both kinds. -/
theorem markedText_readBack :
    (∃ h', (deliver (Text.ofString "\uFEFF\uFEFFé\r\n\n") (.path (.ofString "p.tex"))).runOn
        loggedPage = (.ok none, h') ∧
      ((readText (.ofString "p.tex") (Text.ofString "utf-8")).runOn h').1 =
        .ok (Text.ofString "\uFEFFé\r\n\n")) ∧
    (deliver (Text.ofString "é") (.stream (.declared (some (Text.ofString "wb"))))).runOn loggedPage =
      (.ok (some (.bytes [0xC3, 0xA9])), loggedPage) := by
  obtain ⟨hfile, -, hback⟩ := written_readBack
  have htarget : loggedPage.files.target [] (.ofString "p.tex") = .ok ["p.tex"] := rfl
  refine ⟨hfile "\uFEFF\uFEFFé\r\n\n".toList loggedPage (.ofString "p.tex") ["p.tex"] ⟨rfl, htarget⟩ ?_,
    ?_⟩
  · rintro - f hf
    cases hf
    refine ⟨fun e he => ?_, fun hsame => ?_⟩
    · cases he
      exact ⟨[], rfl⟩
    · exact absurd (Except.ok.inj (htarget.symm.trans hsame)) (by decide)
  · have hread : ((decodeText [0xEF, 0xBB, 0xBF, 0xC3, 0xA9] (Text.ofString "utf-8")).runOn
        loggedPage).1 = .ok (Text.ofString "é") :=
      eq_of_latex? (by decide +kernel)
    exact (hback _ _ _ hread).1 _ (.declared (by decide))

end Action

end MarkTex
