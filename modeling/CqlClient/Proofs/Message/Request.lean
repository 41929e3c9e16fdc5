import CqlClient.Message.Request
import CqlClient.Proofs.Assoc
import CqlClient.Proofs.Frame.Outgrown
import CqlClient.Proofs.Message.Event

namespace CqlClient

open Reader

namespace QueryParameters

/-- The number of values and the lengths of the values and of the paging state fit their fields. -/
structure Fits (p : QueryParameters) : Prop where
  count : p.values.length ≤ 0xFFFF
  values : ∀ cell ∈ p.values, ∀ value ∈ cell, Bytes.FitsInt value
  pagingState : ∀ state ∈ p.pagingState, Bytes.FitsInt state

@[simp]
theorem succeeds_writeCount {count : Nat} :
    Write.Succeeds (writeCount count) ↔ count ≤ 0xFFFF :=
  Write.succeeds_ite_short

theorem readsBack_writeCount (count : Nat) :
    ReadsBack shortLength (writeCount count) count :=
  readsBack_ite_short count _

theorem succeeds_write_iff {p : QueryParameters} : Write.Succeeds p.write ↔ p.Fits := by
  have hvalues : (∀ part ∈ (if p.values.isEmpty then [] else
      writeCount p.values.length :: p.values.map Write.bytesOpt), Write.Succeeds part) ↔
      p.values.length ≤ 0xFFFF ∧ ∀ cell ∈ p.values, ∀ value ∈ cell, Bytes.FitsInt value := by
    cases p.values <;> simp
  have hpaging : Write.Succeeds ((p.pagingState.map Write.bytes).getD (.ok [])) ↔
      ∀ state ∈ p.pagingState, Bytes.FitsInt state := by
    cases p.pagingState <;> simp
  rw [write, Write.succeeds_concat, List.append_assoc, List.forall_mem_append,
    List.forall_mem_append, hvalues]
  constructor
  · rintro ⟨-, ⟨hcount, hcells⟩, hrest⟩
    exact ⟨hcount, hcells, hpaging.mp (hrest _ (by simp))⟩
  · rintro ⟨hcount, hcells, hstate⟩
    refine ⟨by simp, ⟨hcount, hcells⟩, ?_⟩
    simpa using hpaging.mpr hstate

theorem write_values (cell : Option Bytes) (cells : List (Option Bytes)) :
    write { values := cell :: cells } =
      Write.concat (.ok [0, 4, 1] :: (writeCount (cells.length + 1) ::
        (cell :: cells).map Write.bytesOpt ++ [.ok [], .ok [], .ok []])) := by
  have hflags : flags { values := cell :: cells } = 1 := by simp [flags]
  rw [write, hflags]
  simp only [List.isEmpty_cons, Bool.false_eq_true, if_false]
  rfl

theorem flags_spec (p : QueryParameters) :
    (p.flags &&& 0x01 ≠ 0 ↔ p.values.isEmpty = false) ∧
      (p.flags &&& 0x02 ≠ 0 ↔ p.skipMetadata) ∧ (p.flags &&& 0x04 ≠ 0 ↔ p.pageSize.isSome) ∧
      (p.flags &&& 0x08 ≠ 0 ↔ p.pagingState.isSome) ∧
      (p.flags &&& 0x10 ≠ 0 ↔ p.serialConsistency.isSome) ∧ unknownFlags p.flags = 0 := by
  unfold flags
  generalize p.values.isEmpty = noValues, p.skipMetadata = skips, p.pageSize.isSome = hasSize,
    p.pagingState.isSome = hasState, p.serialConsistency.isSome = isSerial
  revert noValues skips hasSize hasState isSerial
  decide

theorem reads_readFlags {flags : UInt8} (h : unknownFlags flags = 0) :
    Reads readFlags (Write.byte flags) flags := by
  intro rest
  change readFlags (flags :: rest) = _
  rw [readFlags, if_neg (not_not.mpr h)]

theorem reads_readSerial (level : SerialConsistency) :
    Reads readSerial (Write.serialConsistency level) level := by
  rw [← List.append_nil (Write.serialConsistency level)]
  refine (reads_consistency level.toConsistency).bind ?_
  rw [SerialConsistency.ofConsistency?_toConsistency]
  exact reads_pure level

theorem ok_getD_map {α : Type} (value : Option α) (write : α → Bytes) :
    (.ok ((value.map write).getD []) : Written) =
      (value.map fun present => .ok (write present)).getD (.ok []) := by
  cases value <;> rfl

theorem readsBack_values {flags : UInt8} {values : List (Option Bytes)}
    (hflag : flags &&& 0x01 ≠ 0 ↔ values.isEmpty = false) :
    ReadsBack (readIf flags 0x01 (shortLength >>= many bytesOpt))
      (Write.concat (if values.isEmpty then [] else
        writeCount values.length :: values.map Write.bytesOpt))
      (if values.isEmpty then none else some values) := by
  cases hempty : values.isEmpty with
  | true =>
      rw [readIf, if_neg (by simp [hflag, hempty])]
      exact readsBack_pure none
  | false =>
      rw [readIf, if_pos (hflag.mpr hempty)]
      refine ReadsBack.map (ReadsBack.bind (readsBack_writeCount values.length) ?_) some
      exact readsBack_many fun cell _ => readsBack_bytesOpt cell

theorem readsBack_read (p : QueryParameters) : ReadsBack read p.write p := by
  obtain ⟨hvalues, hskip, hsize, hstate, hserial, hunknown⟩ := p.flags_spec
  rw [write, List.append_assoc, List.singleton_append, Write.concat_ok_append_cons, ok_getD_map,
    ok_getD_map]
  refine ReadsBack.bind (reads_consistency p.consistency).readsBack ?_
  refine ReadsBack.bind (reads_readFlags hunknown).readsBack ?_
  refine ReadsBack.append (readsBack_values hvalues) ?_
  refine ReadsBack.bind (readsBack_optional hsize fun size _ => (reads_int size).readsBack) ?_
  refine ReadsBack.bind (readsBack_optional hstate fun state _ => readsBack_bytes state) ?_
  refine ReadsBack.bind
    (readsBack_optional hserial fun level _ => (reads_readSerial level).readsBack) ?_
  have hback : (if p.values.isEmpty then none else some p.values).getD [] = p.values := by
    cases p.values <;> rfl
  have hskips : decide (p.flags &&& 0x02 ≠ 0) = p.skipMetadata := by
    rw [Bool.eq_iff_iff, decide_eq_true_iff]
    exact hskip
  rw [hback, hskips]
  exact readsBack_pure p

end QueryParameters

namespace Request

/-- Every length fits its field. -/
def Fits : Request → Prop
  | .startup settings =>
      settings.entries.length ≤ 0xFFFF ∧ ∀ setting ∈ settings.entries,
        (Bytes.ofString setting.1).FitsShort ∧ (Bytes.ofString setting.2).FitsShort
  | .options => True
  | .query contents parameters => (Bytes.ofString contents).FitsInt ∧ parameters.Fits
  | .prepare contents => (Bytes.ofString contents).FitsInt
  | .execute id parameters => id.FitsShort ∧ parameters.Fits
  | .register events => events.length ≤ 0xFFFF
  | .authResponse token => ∀ present ∈ token, Bytes.FitsInt present

theorem succeeds_write_iff {request : Request} : Write.Succeeds request.write ↔ request.Fits := by
  cases request with
  | startup settings => simp [write, Fits, Write.stringPairs]
  | options => simp [write, Fits]
  | query contents parameters =>
      simp [write, Fits, QueryParameters.succeeds_write_iff]
  | prepare contents => simp [write, Fits]
  | execute id parameters => simp [write, Fits, QueryParameters.succeeds_write_iff]
  | register events => simp [write, Fits, Write.stringList, EventType.fits_name]
  | authResponse token => simp [write, Fits]

theorem reads_mapM_ofName (events : List EventType) :
    Reads ((events.map EventType.name).mapM fun name =>
      (EventType.ofName name : Except ParseError _)) [] events := by
  induction events with
  | nil => exact reads_pure []
  | cons kind events ih =>
      have hkind : Reads (EventType.ofName kind.name : Except ParseError _) [] kind := by
        rw [EventType.ofName, EventType.ofName?_name]
        exact reads_pure kind
      rw [List.map_cons, List.mapM_cons]
      exact hkind.bind (ih.map (kind :: ·))

theorem readsBack_read (request : Request) :
    ReadsBack (read request.opcode) request.write request := by
  cases request with
  | startup settings =>
      have h := (readsBack_stringPairs settings.entries).map fun pairs =>
        Request.startup (Assoc.ofList pairs)
      rwa [Assoc.ofList_entries] at h
  | options => exact readsBack_pure Request.options
  | query contents parameters =>
      refine ReadsBack.bind (readsBack_longString contents) ?_
      refine ReadsBack.bind (QueryParameters.readsBack_read parameters) ?_
      exact readsBack_pure _
  | prepare contents => exact (readsBack_longString contents).map Request.prepare
  | execute id parameters =>
      refine ReadsBack.bind (readsBack_shortBytes id) ?_
      refine ReadsBack.bind (QueryParameters.readsBack_read parameters) ?_
      exact readsBack_pure _
  | register events =>
      rw [write, ← Write.concat_singleton (Write.stringList _)]
      refine ReadsBack.bind (readsBack_stringList (events.map EventType.name)) ?_
      exact ((reads_mapM_ofName events).map Request.register).readsBack
  | authResponse token => exact (readsBack_bytesOpt token).map Request.authResponse

end Request

namespace Frame

theorem ofRequest_eq_ok_iff {request : Request} {compression : Option Compression}
    {tracing : Bool} {stream : Int8} {frame : Bytes} :
    ofRequest request compression tracing stream = .ok frame ↔
      ∃ body, request.write = .ok body ∧ (∀ algorithm ∈ compression, algorithm.takes body = true) ∧
        assemble ⟨version, (if compression.isSome then compressionFlag else 0) |||
          (if tracing then tracingFlag else 0), stream⟩ request.opcode.code
          (Compression.pack compression body) = frame := by
  unfold ofRequest
  cases hbody : request.write with
  | error e => simp
  | ok body =>
      have hall : compression.all (·.takes body) = true ↔
          ∀ algorithm ∈ compression, algorithm.takes body = true := Option.all_eq_true ..
      simp only [Except.ok.injEq, exists_eq_left']
      rw [← hall]
      split
      · next htakes =>
          rw [Except.ok.injEq]
          cases compression <;> simp [htakes, Compression.pack]
      · next htakes => simp [htakes]

theorem exists_ofRequest_iff {request : Request} {compression : Option Compression}
    {tracing : Bool} {stream : Int8} :
    (∃ frame, ofRequest request compression tracing stream = .ok frame) ↔
      request.Fits ∧ ∀ body, request.write = .ok body →
        ∀ algorithm ∈ compression, algorithm.takes body = true := by
  rw [← Request.succeeds_write_iff]
  constructor
  · rintro ⟨frame, hframe⟩
    obtain ⟨body, hbody, htakes, -⟩ := ofRequest_eq_ok_iff.mp hframe
    refine ⟨⟨body, hbody⟩, ?_⟩
    intro written hwritten
    obtain rfl := Except.ok.inj (hbody.symm.trans hwritten)
    exact htakes
  · rintro ⟨⟨body, hbody⟩, htakes⟩
    exact ⟨_, ofRequest_eq_ok_iff.mpr ⟨body, hbody, htakes body hbody, rfl⟩⟩

theorem announces_flags (compressed traced : Bool) :
    let flags := (if compressed then compressionFlag else 0) ||| (if traced then tracingFlag else 0)
    Announces flags compressed traced ∧ flags &&& ~~~(compressionFlag ||| tracingFlag) = 0 := by
  cases compressed <;> cases traced <;> exact ⟨⟨by decide, by decide⟩, by decide⟩

/-- A request has a frame exactly if its lengths fit and its body can be compressed. From a frame
whose body is not too large the node takes the version, the flags that ask for what was wanted, the
stream, the kind and the body, and leaves what follows; the body reads as the request to its end. It
is there to read after decompression, but with LZ4 only if four bytes can tell its size. -/
theorem carries_ofRequest (request : Request) (compression : Option Compression) (tracing : Bool)
    (stream : Int8) :
    ((∃ frame, ofRequest request compression tracing stream = .ok frame) ↔
      request.Fits ∧ ∀ body, request.write = .ok body →
        ∀ algorithm ∈ compression, algorithm.takes body = true) ∧
      ∀ frame, ofRequest request compression tracing stream = .ok frame →
        frame.length ≤ headerSize + maxBodySize → ∀ others, ∃ flags packed body,
          splitRequest (frame ++ others) =
            .ok ((⟨0x02, flags, stream⟩, request.opcode, packed), others) ∧
          Announces flags compression.isSome tracing ∧
          flags &&& ~~~(compressionFlag ||| tracingFlag) = 0 ∧
          request.write = .ok body ∧
          (Compression.unpack compression packed = .ok body ↔
            (compression = some .lz4 → body.length < 0x100000000)) ∧
          Request.read request.opcode body = .ok (request, []) := by
  refine ⟨exists_ofRequest_iff, ?_⟩
  intro frame hframe hsize others
  obtain ⟨body, hbody, htakes, rfl⟩ := ofRequest_eq_ok_iff.mp hframe
  obtain ⟨hflags, hnothing⟩ := announces_flags compression.isSome tracing
  rw [length_assemble] at hsize
  have hpacked := Nat.le_of_add_le_add_left hsize
  have hread := Request.readsBack_read request body hbody []
  rw [List.append_nil] at hread
  exact ⟨_, _, body, splitRequest_assemble rfl request.opcode hpacked others, hflags, hnothing,
    hbody, Compression.unpack_pack_iff htakes, hread⟩

/-- An execution in which every flag of the parameters is set. -/
def everyPart : Request :=
  .execute [0xA1, 0xB2] {
    consistency := .one, serialConsistency := some .localSerial, skipMetadata := true
    pageSize := some 100, pagingState := some [0xC3], values := [some [7], none] }

theorem carries_ofRequest_everyPart :
    ∃ frame flags packed body,
      ofRequest everyPart (some .snappy) true (-3) = .ok frame ∧
      splitRequest (frame ++ [0xFF]) = .ok ((⟨0x02, flags, -3⟩, .execute, packed), [0xFF]) ∧
      Announces flags true true ∧ Compression.unpack (some .snappy) packed = .ok body ∧
      Request.read .execute body = .ok (everyPart, []) := by
  have hframe : ofRequest everyPart (some .snappy) true (-3) = .ok [
      2, 3, 253, 10, 0, 0, 0, 31, 29, 112, 0, 2, 161, 178, 0, 1, 31, 0, 2, 0, 0, 0, 1, 7, 255, 255,
      255, 255, 0, 0, 0, 100, 0, 0, 0, 1, 195, 0, 9] := by decide +kernel
  obtain ⟨flags, packed, body, hsplit, hflags, -, -, hunpack, hread⟩ :=
    (carries_ofRequest everyPart (some .snappy) true (-3)).2 _ hframe (by decide) [0xFF]
  exact ⟨_, flags, packed, body, hframe, hsplit, hflags, hunpack.mpr nofun, hread⟩

/-- An execution whose values repeat one byte each. -/
def repeating (many few : Nat) (first second : UInt8) : Request :=
  .execute [0xA1, 0xB2] { values := repeatedValues many few first second }

theorem opcode_repeating (many few : Nat) (first second : UInt8) :
    (repeating many few first second).opcode = .execute :=
  rfl

theorem write_repeating {many few : Nat} {first second : UInt8}
    (hfirst : Repeats many first) (hsecond : Repeats few second) :
    (repeating many few first second).write =
      .ok (Lz4.runs [0, 2, 0xA1, 0xB2, 0, 4, 1, 0, 3] (4 + many + (4 + many)) first
        (4 + few) second) := by
  have hid : Write.shortBytes [0xA1, 0xB2] = .ok [0, 2, 0xA1, 0xB2] := rfl
  have hcount : QueryParameters.writeCount 3 = .ok [0, 3] := rfl
  rw [repeating, Request.write, hid, repeatedValues, QueryParameters.write_values, ← repeatedValues,
    List.length_cons, List.length_singleton, hcount, List.cons_append,
    ← Write.concat_ok_append_cons, concat_repeatedValues hfirst hsecond _ rfl]
  simp only [Write.concat_cons, Write.concat_nil, Except.bind, Functor.map, Except.map]
  rw [List.append_nil, Lz4.runs, Lz4.runs]
  rfl

/-- The lengths fit and the frame is small, but four bytes cannot tell the size of the body: the
node splits the frame and is left with a block that it cannot decompress, although the block itself
holds the body. -/
theorem not_unpack_repeating :
    ∃ frame packed body,
      (repeating 0x7F7F7F7F 0x01010101 0x7F 0x01).Fits ∧
      (repeating 0x7F7F7F7F 0x01010101 0x7F 0x01).write = .ok body ∧
      ofRequest (repeating 0x7F7F7F7F 0x01010101 0x7F 0x01) (some .lz4) false 0 = .ok frame ∧
      frame.length ≤ headerSize + maxBodySize ∧
      splitRequest frame = .ok ((⟨0x02, compressionFlag, 0⟩, .execute, packed), []) ∧
      Lz4.decompress body.length (Lz4.compress body) = .ok body ∧
      Compression.unpack (some .lz4) packed ≠ .ok body := by
  obtain ⟨body, hwrite, hbody⟩ : ∃ body,
      (repeating 0x7F7F7F7F 0x01010101 0x7F 0x01).write = .ok body ∧ Outgrows body :=
    ⟨_, write_repeating repeats_many repeats_few,
      outgrows_runs (by decide) (by decide) (by unfold Lz4.Distinct; decide +kernel) (by decide)⟩
  have hframe : ofRequest (repeating 0x7F7F7F7F 0x01010101 0x7F 0x01) (some .lz4) false 0 =
      .ok (assemble ⟨version, compressionFlag, 0⟩ RequestOpcode.execute.code
        (Compression.pack (some .lz4) body)) := by
    rw [ofRequest_eq_ok_iff, opcode_repeating]
    exact ⟨body, hwrite, takes_lz4 body, rfl⟩
  have hversion : (Params.mk version compressionFlag 0).version = version := rfl
  have hsplit := splitRequest_assemble hversion .execute hbody.packed []
  rw [List.append_nil] at hsplit
  refine ⟨_, _, body, Request.succeeds_write_iff.mp ⟨body, hwrite⟩, hwrite, hframe, ?_, hsplit,
    Lz4.decompress_compress_iff.mpr (Nat.le_refl _), hbody.unpack_ne⟩
  rw [length_assemble]
  exact Nat.add_le_add_left hbody.packed headerSize

end Frame

end CqlClient
