import CqlClient.Cell.Reader
import CqlClient.Cell.Writer
import CqlClient.Proofs.Wire.Canonical
import Mathlib.Data.List.Induction

namespace CqlClient

theorem Assoc.get?_ofList {κ α : Type} [DecidableEq κ] (pairs : List (κ × α)) (key : κ) :
    (ofList pairs).get? key = pairs.reverse.lookup key := by
  induction pairs using List.reverseRecOn with
  | nil => rfl
  | append_singleton pairs pair ih =>
      have hinsert : ofList (pairs ++ [pair]) = (ofList pairs).insert pair.1 pair.2 := by
        rw [ofList, List.foldl_append]
        rfl
      rw [hinsert, get?_insert, List.reverse_append, List.reverse_singleton, List.singleton_append,
        List.lookup_cons, ih]
      by_cases hkey : key = pair.1
      · rw [if_pos hkey, beq_iff_eq.mpr hkey]
      · rw [if_neg hkey, beq_eq_false_iff_ne.mpr hkey]

namespace CellWriter

/-- Whether the number of the texts and their lengths have room in their fields. -/
structure StringsFit (texts : List String) : Prop where
  count : texts.length ≤ 0xFFFF
  lengths : ∀ text ∈ texts, (Bytes.ofString text).FitsShort

/-- Whether the number of the pairs and the lengths of their parts have room in their fields. -/
structure StringPairsFit (pairs : List (String × String)) : Prop where
  count : pairs.length ≤ 0xFFFF
  lengths : ∀ pair ∈ pairs, (Bytes.ofString pair.1).FitsShort ∧ (Bytes.ofString pair.2).FitsShort

end CellWriter

namespace CellReader

open Reader CellWriter

variable {α β : Type}

theorem liftParse_eq_ok_iff {result : Except ParseError β} {value : β} :
    parts.liftParse result = .ok value ↔ result = .ok value := by
  cases result with
  | error e => exact iff_of_false nofun nofun
  | ok read => constructor <;> rintro ⟨⟩ <;> rfl

theorem parts_eq_ok_iff {part : CqlClient.Reader α} {cell : Bytes} {values : List α} :
    parts part cell = .ok values ↔ (shortLength >>= many part) cell = .ok (values, []) := by
  rw [bind_eq_ok_iff]
  constructor
  · intro h
    obtain ⟨⟨count, between⟩, hcount, hrest⟩ := Except.exists_of_bind_eq_ok h
    obtain ⟨⟨read, left⟩, hmany, hend⟩ := Except.exists_of_bind_eq_ok hrest
    cases left with
    | nil =>
        obtain rfl := Except.ok.inj hend
        exact ⟨count.toNat, between,
          map_eq_ok_iff.mpr ⟨count, liftParse_eq_ok_iff.mp hcount, rfl⟩,
          liftParse_eq_ok_iff.mp hmany⟩
    | cons b left => exact nomatch hend
  · rintro ⟨length, between, hlength, hmany⟩
    obtain ⟨count, hcount, rfl⟩ := map_eq_ok_iff.mp hlength
    rw [parts, liftParse_eq_ok_iff.mpr hcount]
    change (parts.liftParse (many part count.toNat between) >>= _) = _
    rw [liftParse_eq_ok_iff.mpr hmany]
    rfl

theorem mapM_eq_ok_iff {read : β → Except CellError α} {form : α → β}
    (h : ∀ part value, read part = .ok value ↔ part = form value) {parts : List β}
    {values : List α} : parts.mapM read = .ok values ↔ parts = values.map form := by
  induction parts generalizing values with
  | nil =>
      rw [List.mapM_nil, eq_comm (a := []), List.map_eq_nil_iff]
      simp [pure, Except.pure, eq_comm]
  | cons part parts ih =>
      rw [List.mapM_cons]
      constructor
      · intro hread
        obtain ⟨value, hvalue, hrest⟩ := Except.exists_of_bind_eq_ok hread
        obtain ⟨more, hmore, hvalues⟩ := Except.exists_of_bind_eq_ok hrest
        rw [← Except.ok.inj hvalues, (h part value).mp hvalue, ih.mp hmore, List.map_cons]
      · intro hparts
        obtain ⟨value, more, rfl, hvalue, hmore⟩ := List.map_eq_cons_iff.mp hparts.symm
        rw [(h part value).mpr hvalue.symm, ih.mpr hmore.symm]
        rfl

theorem string_eq_ok_iff {bytes : Bytes} {text : String} :
    string .text (some bytes) = .ok text ↔ bytes = Bytes.ofString text := by
  simp only [string]
  constructor
  · intro h
    split at h
    · next hdecode =>
        obtain rfl := Except.ok.inj h
        exact Utf8.eq_ofString_of_decode hdecode
    · exact nomatch h
  · rintro rfl
    rw [Utf8.decode_ofString]

theorem collected_eq_ok_iff {part : CqlClient.Reader β} {write : β → Written} {form : β → Bytes}
    {Fits : β → Prop} {read : β → Except CellError α} {partOf : α → β}
    (hpart : Canonical part write) (hback : ∀ value, ReadsBack part (write value) value)
    (hwrite : ∀ value bytes, write value = .ok bytes ↔ Fits value ∧ bytes = form value)
    (hread : ∀ value a, read value = .ok a ↔ value = partOf a) (cell : Bytes) (values : List α) :
    ((parts part cell).bind fun taken => taken.mapM read) = .ok values ↔
      values.length ≤ 0xFFFF ∧ (∀ value ∈ values, Fits (partOf value)) ∧
        cell = Bytes.ofNat 2 values.length ++ values.flatMap fun value => form (partOf value) := by
  have hparts (taken : List β) : parts part cell = .ok taken ↔
      taken.length ≤ 0xFFFF ∧ (∀ value ∈ taken, Fits value) ∧
        cell = Bytes.ofNat 2 taken.length ++ taken.flatMap form := by
    have hwritten (values : List β) :=
      readsBack_counted fun value (_ : value ∈ values) => hback value
    rw [parts_eq_ok_iff, hpart.counted.eq_ok_iff hwritten]
    simp [Write.counted_eq_ok_iff hwrite, and_assoc]
  -- What is read from the parts determines them, so only these parts need to be looked at.
  have htaken := hparts (values.map partOf)
  rw [List.length_map, List.forall_mem_map, List.flatMap_map] at htaken
  rw [← htaken]
  constructor
  · intro h
    obtain ⟨taken, hcell, hvalues⟩ := Except.exists_of_bind_eq_ok h
    rwa [← (mapM_eq_ok_iff hread).mp hvalues]
  · intro h
    rw [h]
    exact (mapM_eq_ok_iff hread).mpr rfl

theorem texts_eq_ok_iff {cell : Bytes} {texts : List String} :
    ((parts shortBytes cell).bind fun taken =>
        taken.mapM fun part => string .text (some part)) = .ok texts ↔
      StringsFit texts ∧ cell = CellWriter.strings texts := by
  rw [collected_eq_ok_iff canonical_shortBytes readsBack_shortBytes
    (fun _ _ => Write.shortBytes_eq_ok_iff) (fun _ _ => string_eq_ok_iff) cell texts]
  constructor
  · rintro ⟨hcount, hlengths, hcell⟩
    exact ⟨⟨hcount, hlengths⟩, hcell⟩
  · rintro ⟨hfits, hcell⟩
    exact ⟨hfits.count, hfits.lengths, hcell⟩

theorem writePair_eq_ok_iff {both : Bytes × Bytes} {bytes : Bytes} :
    Write.concat [Write.shortBytes both.1, Write.shortBytes both.2] = .ok bytes ↔
      (both.1.FitsShort ∧ both.2.FitsShort) ∧
        bytes = (Bytes.ofNat 2 both.1.length ++ both.1) ++
          (Bytes.ofNat 2 both.2.length ++ both.2) := by
  simp only [Write.concat_cons_eq_ok_iff, Write.concat_singleton, Write.shortBytes_eq_ok_iff]
  constructor
  · rintro ⟨front, back, ⟨hfirst, rfl⟩, ⟨hsecond, rfl⟩, rfl⟩
    exact ⟨⟨hfirst, hsecond⟩, rfl⟩
  · rintro ⟨⟨hfirst, hsecond⟩, rfl⟩
    exact ⟨_, _, ⟨hfirst, rfl⟩, ⟨hsecond, rfl⟩, rfl⟩

theorem pair_eq_ok_iff {both : Bytes × Bytes} {texts : String × String} :
    ((string .text (some both.1)).bind fun key =>
        (string .text (some both.2)).bind fun value => .ok (key, value)) = .ok texts ↔
      both = (Bytes.ofString texts.1, Bytes.ofString texts.2) := by
  constructor
  · intro h
    obtain ⟨key, hkey, hrest⟩ := Except.exists_of_bind_eq_ok h
    obtain ⟨value, hvalue, htexts⟩ := Except.exists_of_bind_eq_ok hrest
    obtain rfl := Except.ok.inj htexts
    rw [← string_eq_ok_iff.mp hkey, ← string_eq_ok_iff.mp hvalue]
  · rintro rfl
    rw [string_eq_ok_iff.mpr rfl, string_eq_ok_iff.mpr rfl]
    rfl

theorem pairs_eq_ok_iff {cell : Bytes} {entries : List (String × String)} :
    pairs string string (.map .text .text) (some cell) = .ok entries ↔
      StringPairsFit entries ∧ cell = CellWriter.stringPairs entries := by
  have hcollected := collected_eq_ok_iff (canonical_shortBytes.pair canonical_shortBytes)
    (fun both => readsBack_pair (readsBack_shortBytes both.1) (readsBack_shortBytes both.2))
    (fun _ _ => writePair_eq_ok_iff) (fun _ _ => pair_eq_ok_iff) cell entries
  refine Iff.trans hcollected ?_
  constructor
  · rintro ⟨hcount, hlengths, hcell⟩
    exact ⟨⟨hcount, hlengths⟩, hcell⟩
  · rintro ⟨hfits, hcell⟩
    exact ⟨hfits.count, hfits.lengths, hcell⟩

theorem map_eq_ok_iff {cell : Bytes} {m : Assoc String String} :
    map string string (.map .text .text) (some cell) = .ok m ↔
      ∃ entries, StringPairsFit entries ∧ cell = CellWriter.stringPairs entries ∧
        Assoc.ofList entries = m := by
  unfold map
  cases hentries : pairs string string (.map .text .text) (some cell) with
  | error e =>
      refine iff_of_false nofun ?_
      rintro ⟨entries, hfits, hcell, -⟩
      exact nomatch hentries.symm.trans (pairs_eq_ok_iff.mpr ⟨hfits, hcell⟩)
  | ok entries =>
      obtain ⟨hfits, hcell⟩ := pairs_eq_ok_iff.mp hentries
      constructor
      · intro h
        exact ⟨entries, hfits, hcell, Except.ok.inj h⟩
      · rintro ⟨others, hothers, hsame, rfl⟩
        have heq := hentries.symm.trans (pairs_eq_ok_iff.mpr ⟨hothers, hsame⟩)
        obtain rfl := Except.ok.inj heq
        rfl

/-- Whether a cell is another one with bytes removed from its end or added there. -/
structure EndsElsewhere (cell whole : Bytes) : Prop where
  ne : cell ≠ whole
  comparable : cell <+: whole ∨ whole <+: cell

theorem eq_nil_of_parts {part : CqlClient.Reader β} (h : IgnoresRest part) {cell more : Bytes}
    {values others : List β} (hcell : parts part cell = .ok values)
    (hmore : parts part (cell ++ more) = .ok others) : more = [] := by
  obtain ⟨taken, htaken, hreads⟩ := h.counted cell values [] (parts_eq_ok_iff.mp hcell)
  rw [List.append_nil] at htaken
  subst htaken
  have hsame := (hreads more).symm.trans (parts_eq_ok_iff.mp hmore)
  exact (Prod.mk.inj (Except.ok.inj hsame)).2

theorem EndsElsewhere.rejects {part : CqlClient.Reader β} {next : List β → Except CellError α}
    {cell whole : Bytes} {value : α} (hends : EndsElsewhere cell whole) (h : IgnoresRest part)
    (hwhole : (parts part whole).bind next = .ok value) :
    ∃ e, (parts part cell).bind next = .error e := by
  obtain ⟨values, hvalues, -⟩ := Except.exists_of_bind_eq_ok hwhole
  cases hcell : parts part cell with
  | error e => exact ⟨e, rfl⟩
  | ok others =>
      rcases hends.comparable with ⟨more, rfl⟩ | ⟨more, rfl⟩
      · obtain rfl := eq_nil_of_parts h hcell hvalues
        exact absurd (List.append_nil cell).symm hends.ne
      · obtain rfl := eq_nil_of_parts h hvalues hcell
        exact absurd (List.append_nil whole) hends.ne

/-- A list and a set of texts are read from the cell of these texts and from no other one, if they
have room in a cell, and else from none. The pairs of a map that have room are read from their cell,
as the map in which the last pair of each key stays. No cell is read that ends elsewhere. -/
theorem decodesExactly :
    (∀ cell texts,
      (list string (.list .text) (some cell) = .ok texts ↔
        StringsFit texts ∧ cell = CellWriter.strings texts) ∧
      (list string (.set .text) (some cell) = .ok texts ↔
        StringsFit texts ∧ cell = CellWriter.strings texts)) ∧
    (∀ texts cell, StringsFit texts → EndsElsewhere cell (CellWriter.strings texts) →
      (∃ e, list string (.list .text) (some cell) = .error e) ∧
        ∃ e, list string (.set .text) (some cell) = .error e) ∧
    ∀ entries, StringPairsFit entries →
      (∃ m, map string string (.map .text .text) (some (CellWriter.stringPairs entries)) = .ok m ∧
        ∀ key, m.get? key = entries.reverse.lookup key) ∧
      ∀ cell, EndsElsewhere cell (CellWriter.stringPairs entries) →
        ∃ e, map string string (.map .text .text) (some cell) = .error e := by
  refine ⟨fun cell texts => ⟨texts_eq_ok_iff, texts_eq_ok_iff⟩, ?_, ?_⟩
  · intro texts cell hfits hends
    have hrejects := hends.rejects ignoresRest_shortBytes (texts_eq_ok_iff.mpr ⟨hfits, rfl⟩)
    exact ⟨hrejects, hrejects⟩
  · intro entries hfits
    have hentries := pairs_eq_ok_iff.mpr ⟨hfits, rfl⟩
    refine ⟨⟨Assoc.ofList entries, map_eq_ok_iff.mpr ⟨entries, hfits, rfl, rfl⟩,
      Assoc.get?_ofList entries⟩, ?_⟩
    intro cell hends
    obtain ⟨e, he⟩ := hends.rejects (ignoresRest_shortBytes.pair ignoresRest_shortBytes) hentries
    have hpairs : pairs string string (.map .text .text) (some cell) = .error e := he
    refine ⟨e, ?_⟩
    rw [map, hpairs]
    rfl

theorem decodesExactly_repeatedKey :
    let texts := ["a", ""]
    let cut : Bytes := [0, 2, 0, 1, 0x61, 0]
    let entries := [("dc1", "3"), ("dc2", "2"), ("dc1", "5")]
    let longer := CellWriter.stringPairs entries ++ [0]
    StringsFit texts ∧ EndsElsewhere cut (CellWriter.strings texts) ∧
      StringPairsFit entries ∧ EndsElsewhere longer (CellWriter.stringPairs entries) ∧
      list string (.list .text) (some [0, 2, 0, 1, 0x61, 0, 0]) = .ok texts ∧
      (∃ e, list string (.list .text) (some cut) = .error e) ∧
      (∃ m, map string string (.map .text .text) (some (CellWriter.stringPairs entries)) = .ok m ∧
        m.get? "dc1" = some "5") ∧
      ∃ e, map string string (.map .text .text) (some longer) = .error e := by
  intro texts cut entries longer
  have htexts : StringsFit texts := ⟨by decide, by decide +kernel⟩
  have hcut : EndsElsewhere cut (CellWriter.strings texts) :=
    ⟨by decide +kernel, .inl (by decide +kernel)⟩
  have hentries : StringPairsFit entries := ⟨by decide, by decide +kernel⟩
  have hlonger : EndsElsewhere longer (CellWriter.stringPairs entries) :=
    ⟨by decide +kernel, .inr (List.prefix_append _ _)⟩
  obtain ⟨hexact, hends, hmap⟩ := decodesExactly
  obtain ⟨m, hm, hget⟩ := (hmap entries hentries).1
  refine ⟨htexts, hcut, hentries, hlonger, ?_, (hends texts cut htexts hcut).1, ⟨m, hm, ?_⟩,
    (hmap entries hentries).2 longer hlonger⟩
  · exact (hexact _ _).1.mpr ⟨htexts, by decide +kernel⟩
  · exact (hget "dc1").trans (by decide +kernel)

end CellReader

end CqlClient
