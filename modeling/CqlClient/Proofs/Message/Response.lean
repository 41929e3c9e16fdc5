import CqlClient.Proofs.Frame.Outgrown
import CqlClient.Proofs.Message.DatabaseError
import CqlClient.Proofs.Message.Result

namespace CqlClient.Response

open Reader

variable {α : Type} {write : α → Written} {read : Reader α} {P : α → Prop}

/-- There are bytes for the value, from which it is read whatever follows them. They are opened also
if they come in a body that was compressed by the negotiated algorithm or has a trace in front, but
with LZ4 only if four bytes can tell the size of that body. -/
def Delivers (write : α → Written) (read : Reader α) (value : α) : Prop :=
  ∃ bytes, write value = .ok bytes ∧ ∀ others,
    read (bytes ++ others) = .ok (value, others) ∧
    ∀ flags negotiated used trace, Frame.Announces flags used.isSome trace.isSome →
      (∀ algorithm ∈ used, negotiated = some algorithm ∧
        algorithm.takes (Frame.prefixed trace (bytes ++ others)) = true) →
      (Frame.openBody flags negotiated
          (Compression.pack used (Frame.prefixed trace (bytes ++ others))) =
            .ok (trace, bytes ++ others) ↔
        (used = some .lz4 → (Frame.prefixed trace (bytes ++ others)).length < 0x100000000))

theorem delivers {value : α} (hwrite : Write.Succeeds (write value))
    (hread : ReadsBack read (write value) value) : Delivers write read value := by
  obtain ⟨bytes, hbytes⟩ := hwrite
  refine ⟨bytes, hbytes, ?_⟩
  intro others
  refine ⟨hread bytes hbytes others, ?_⟩
  intro flags negotiated used trace hflags hused
  exact Frame.openBody_pack_iff hflags hused

/-- Outcomes, events and errors whose parts agree are delivered. -/
theorem delivers_of_consistent (outcome : QueryOutcome) (event : Event) (report : ErrorReport) :
    (outcome.Consistent → Delivers QueryOutcome.write QueryOutcome.read outcome) ∧
      (event.Consistent → Delivers Event.write Event.read event) ∧
      (report.Consistent → Delivers ErrorReport.write ErrorReport.read report) := by
  refine ⟨?_, ?_, ?_⟩
  · intro h
    exact delivers h.succeeds_write h.readsBack_read
  · intro h
    exact delivers h.succeeds_write h.readsBack_read
  · intro h
    exact delivers h.succeeds_write h.readsBack_read

/-- Two rows of a map of lists and a number, of which some cells are null. -/
def nestedRows : Rows where
  metadata := {
    columnCount := 2
    pagingState := some [7]
    columns := [⟨⟨"k", "t"⟩, "a", .map .text (.list (.custom "c"))⟩, ⟨⟨"k", "t"⟩, "b", .int⟩] }
  rows := [[some [1], none], [none, some []]]

theorem nestedRows_consistent : nestedRows.Consistent := by
  have htable : (TableSpec.mk "k" "t").NamesFit := ⟨by decide +kernel, by decide +kernel⟩
  have hcustom : (ColumnType.custom "c").NamesFit := by
    change (Bytes.ofString "c").FitsShort
    decide +kernel
  have hcolumns : ∀ spec ∈ nestedRows.metadata.columns, spec.NamesFit := by
    rintro spec (_ | ⟨_, _ | ⟨_, ⟨⟩⟩⟩)
    · exact ⟨htable, by decide +kernel, trivial, hcustom⟩
    · exact ⟨htable, by decide +kernel, trivial⟩
  exact ⟨⟨by decide, .inr rfl, by decide, hcolumns⟩, by decide, by decide, by decide⟩

theorem delivers_of_consistent_nestedRows :
    (∃ bytes, (QueryOutcome.rows nestedRows).write = .ok bytes ∧
      QueryOutcome.read (bytes ++ [0xFF]) = .ok (.rows nestedRows, [0xFF]) ∧
      Frame.openBody 0x03 (some .snappy)
        (Compression.pack (some .snappy) (Frame.prefixed (some (Uuid.ofNat 5)) (bytes ++ [0xFF]))) =
          .ok (some (Uuid.ofNat 5), bytes ++ [0xFF])) ∧
    (∃ bytes, (Event.schema .dropped "k" (some "t")).write = .ok bytes ∧
      Event.read (bytes ++ [0xFF]) = .ok (.schema .dropped "k" (some "t"), [0xFF])) ∧
    ∃ bytes, (ErrorReport.mk .overloaded "no").write = .ok bytes ∧
      ErrorReport.read (bytes ++ [0xFF]) = .ok (⟨.overloaded, "no"⟩, [0xFF]) ∧
      Frame.openBody 0x01 (some .lz4)
        (Compression.pack (some .lz4) (Frame.prefixed none (bytes ++ [0xFF]))) =
          .ok (none, bytes ++ [0xFF]) := by
  obtain ⟨houtcome, hevent, hreport⟩ := delivers_of_consistent (.rows nestedRows)
    (.schema .dropped "k" (some "t")) ⟨.overloaded, "no"⟩
  refine ⟨?_, ?_, ?_⟩
  · obtain ⟨bytes, hbytes, hothers⟩ := houtcome nestedRows_consistent
    obtain ⟨hread, hopen⟩ := hothers [0xFF]
    refine ⟨bytes, hbytes, hread, (hopen 0x03 (some .snappy) (some .snappy) _ ?_ ?_).mpr nofun⟩
    · exact ⟨by decide, by decide⟩
    · have htakes : (fun bytes => Compression.snappy.takes
          (Frame.prefixed (some (Uuid.ofNat 5)) (bytes ++ [0xFF]))) <$>
            (QueryOutcome.rows nestedRows).write = .ok true := by
        decide +kernel
      rintro algorithm ⟨⟩
      rw [hbytes] at htakes
      exact ⟨rfl, Except.ok.inj htakes⟩
  · have htable : ∀ name ∈ some "t", name ≠ "" ∧ (Bytes.ofString name).FitsShort := by
      rintro name ⟨⟩
      exact ⟨by decide +kernel, by decide +kernel⟩
    obtain ⟨bytes, hbytes, hothers⟩ := hevent ⟨by decide +kernel, htable⟩
    exact ⟨bytes, hbytes, (hothers [0xFF]).1⟩
  · have hwrite : (ErrorReport.mk .overloaded "no").write =
        .ok [0, 0, 0x10, 1, 0, 2, 110, 111] := by
      decide +kernel
    obtain ⟨bytes, hbytes, hothers⟩ := hreport ⟨trivial, by decide +kernel⟩
    obtain ⟨hread, hopen⟩ := hothers [0xFF]
    obtain rfl := Except.ok.inj (hwrite.symm.trans hbytes)
    refine ⟨_, hbytes, hread, (hopen 0x01 (some .lz4) (some .lz4) none ?_ ?_).mpr (by decide)⟩
    · exact ⟨by decide, by decide⟩
    · rintro algorithm ⟨⟩
      exact ⟨rfl, rfl⟩

/-- One row of three cells that repeat one byte each. -/
def repeatingRow (many few : Nat) (first second : UInt8) : Rows where
  metadata := { columnCount := 3 }
  rows := [Frame.repeatedValues many few first second]

theorem repeatingRow_consistent {many few : Nat} {first second : UInt8}
    (hfirst : Frame.Repeats many first) (hsecond : Frame.Repeats few second) :
    (repeatingRow many few first second).Consistent := by
  have hvalues := Frame.fitsInt_repeatedValues hfirst hsecond
  refine ⟨⟨by simp [repeatingRow], .inl rfl, nofun, nofun⟩, by simp [repeatingRow], ?_, ?_⟩
  · rintro row (_ | ⟨_, ⟨⟩⟩)
    rfl
  · rintro row (_ | ⟨_, ⟨⟩⟩)
    exact hvalues

theorem write_repeatingRow {many few : Nat} {first second : UInt8}
    (hfirst : Frame.Repeats many first) (hsecond : Frame.Repeats few second) :
    (QueryOutcome.rows (repeatingRow many few first second)).write =
      .ok (Lz4.runs [0, 0, 0, 2, 0, 0, 0, 4, 0, 0, 0, 3, 0, 0, 0, 1] (4 + many + (4 + many)) first
        (4 + few) second) := by
  have hmetadata : Metadata.write { columnCount := 3 } = .ok [0, 0, 0, 4, 0, 0, 0, 3] := by
    decide +kernel
  have hvalues := Frame.concat_repeatedValues hfirst hsecond
    ([0, 0, 0, 4, 0, 0, 0, 3] ++ [0, 0, 0, 1]) Write.concat_nil
  rw [Write.concat_ok_append_cons, List.append_nil] at hvalues
  rw [QueryOutcome.write, Rows.write, repeatingRow, hmetadata, List.flatten_singleton,
    List.length_singleton, show Bytes.ofNat 4 1 = [0, 0, 0, 1] from rfl, hvalues]
  rfl

/-- The cells fit and the body is compressed to little, but four bytes cannot tell its size: it
cannot be opened, although the block itself holds it. -/
theorem not_openBody_repeatingRow :
    (repeatingRow 0x7F7F7F7F 0x01010101 0x7F 0x01).Consistent ∧
    ∃ bytes,
      (QueryOutcome.rows (repeatingRow 0x7F7F7F7F 0x01010101 0x7F 0x01)).write = .ok bytes ∧
      (Compression.pack (some .lz4) bytes).length ≤ Frame.maxBodySize ∧
      Lz4.decompress bytes.length (Lz4.compress bytes) = .ok bytes ∧
      Frame.openBody Frame.compressionFlag (some .lz4) (Compression.pack (some .lz4) bytes) ≠
        .ok (none, bytes) := by
  obtain ⟨bytes, hwrite, hbytes⟩ : ∃ bytes,
      (QueryOutcome.rows (repeatingRow 0x7F7F7F7F 0x01010101 0x7F 0x01)).write = .ok bytes ∧
        Frame.Outgrows bytes :=
    ⟨_, write_repeatingRow Frame.repeats_many Frame.repeats_few, Frame.outgrows_runs (by decide)
      (by decide) (by unfold Lz4.Distinct; decide +kernel) (by decide)⟩
  refine ⟨repeatingRow_consistent Frame.repeats_many Frame.repeats_few, bytes, hwrite,
    hbytes.packed, Lz4.decompress_compress_iff.mpr (Nat.le_refl _), ?_⟩
  have hflags : Frame.Announces Frame.compressionFlag (some Compression.lz4).isSome
      (none : Option Uuid).isSome := ⟨by decide, by decide⟩
  have hopen := Frame.openBody_pack_iff hflags fun algorithm h =>
    ⟨h, Frame.takes_lz4 (Frame.prefixed none bytes) algorithm h⟩
  exact fun h => Nat.not_lt.mpr hbytes.long (hopen.mp h rfl)

/-- Whatever was read can be written, and is read from its own bytes, up to their end. -/
def Rewrites (write : α → Written) (read : Reader α) : Prop :=
  ∀ bytes value rest, read bytes = .ok (value, rest) →
    ∃ own, write value = .ok own ∧ read own = .ok (value, [])

theorem rewrites (hensures : Ensures read P)
    (hwrite : ∀ value, P value → Write.Succeeds (write value))
    (hread : ∀ value, P value → ReadsBack read (write value) value) : Rewrites write read := by
  intro bytes value rest htaken
  have hvalue := hensures bytes value rest htaken
  obtain ⟨own, hown⟩ := hwrite value hvalue
  have hback := hread value hvalue own hown []
  rw [List.append_nil] at hback
  exact ⟨own, hown, hback⟩

/-- Outcomes, events and errors that were read, from whatever bytes, have bytes of their own. -/
theorem rewrites_read :
    Rewrites QueryOutcome.write QueryOutcome.read ∧ Rewrites Event.write Event.read ∧
      Rewrites ErrorReport.write ErrorReport.read := by
  refine ⟨?_, ?_, ?_⟩
  · exact rewrites QueryOutcome.ensures_read (fun _ => QueryOutcome.Consistent.succeeds_write)
      fun _ => QueryOutcome.Consistent.readsBack_read
  · exact rewrites Event.ensures_read (fun _ => Event.Consistent.succeeds_write)
      fun _ => Event.Consistent.readsBack_read
  · exact rewrites ErrorReport.ensures_read (fun _ => ErrorReport.Consistent.succeeds_write)
      fun _ => ErrorReport.Consistent.readsBack_read

/-- Rows in an old form: the table is given once, texts have their former number, and null is a
length of -5. -/
def formerBytes : Bytes := [
  0, 0, 0, 2, 0, 0, 0, 1, 0, 0, 0, 1, 0, 1, 107, 0, 1, 116, 0, 1, 97, 0, 0x0A, 0, 0, 0, 1,
  0xFF, 0xFF, 0xFF, 0xFB]

theorem rewrites_read_formerBytes :
    ∃ outcome own, QueryOutcome.read formerBytes = .ok (outcome, []) ∧
      outcome.write = .ok own ∧ own ≠ formerBytes ∧ QueryOutcome.read own = .ok (outcome, []) := by
  have hread : QueryOutcome.read formerBytes =
      .ok (.rows (Rows.ofTable "k" "t" [("a", .text)] [[none]]), []) := by
    decide +kernel
  obtain ⟨own, hown, hback⟩ := rewrites_read.1 _ _ _ hread
  refine ⟨_, own, hread, hown, ?_, hback⟩
  rintro rfl
  exact absurd hown (by decide +kernel)

end CqlClient.Response
