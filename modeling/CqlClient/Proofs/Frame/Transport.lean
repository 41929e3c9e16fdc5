import CqlClient.Frame
import CqlClient.Proofs.Compression.Lz4
import CqlClient.Proofs.Compression.Snappy
import CqlClient.Proofs.Wire.Canonical

namespace CqlClient

namespace Compression

variable {content : Bytes}

theorem length_le_of_takes (h : snappy.takes content = true) : content.length ≤ Snappy.maxSize := by
  have hroom := of_decide_eq_true h
  rw [Snappy.maxCompressed] at hroom
  omega

/-- A compressed body can be decompressed, but with LZ4 only if four bytes can tell its size: beyond
that the size in front of the block is what is left of it in four bytes, and the block does not
fit. -/
theorem decompress_compress_iff {algorithm : Compression}
    (htakes : algorithm.takes content = true) :
    algorithm.decompress (algorithm.compress content) = .ok content ↔
      (algorithm = .lz4 → content.length < 0x100000000) := by
  cases algorithm with
  | lz4 =>
      have hsplit := Bytes.splitExact?_append (Bytes.length_ofNat 4 content.length)
        (Lz4.compress content)
      have hsize : Bytes.toNat (Bytes.ofNat 4 content.length) = content.length % 0x100000000 :=
        Bytes.toNat_ofNat 4 content.length
      simp only [decompress, compress, hsplit, hsize]
      constructor
      · intro h _
        cases hblock : Lz4.decompress (content.length % 0x100000000) (Lz4.compress content) with
        | error fault =>
            rw [hblock] at h
            exact nomatch h
        | ok found =>
            rw [hblock] at h
            obtain rfl := Except.ok.inj h
            have hle := Lz4.decompress_compress_iff.mp hblock
            have hlt := Nat.mod_lt found.length (by decide : 0 < 0x100000000)
            omega
      · intro h
        rw [Nat.mod_eq_of_lt (h trivial), Lz4.decompress_compress_iff.mpr (Nat.le_refl _)]
  | snappy =>
      have hblock := Snappy.decompress_compress_iff.mpr (length_le_of_takes htakes)
      simp [decompress, compress, hblock]

/-- A body as it travels. -/
def pack : Option Compression → Bytes → Bytes
  | some algorithm, body => algorithm.compress body
  | none, body => body

/-- The body that travelled. -/
def unpack : Option Compression → Bytes → Except Fault Bytes
  | some algorithm, packed => algorithm.decompress packed
  | none, packed => .ok packed

theorem unpack_pack_iff {compression : Option Compression}
    (htakes : ∀ algorithm ∈ compression, algorithm.takes content = true) :
    unpack compression (pack compression content) = .ok content ↔
      (compression = some .lz4 → content.length < 0x100000000) := by
  cases compression with
  | none => exact iff_of_true rfl nofun
  | some algorithm =>
      rw [Option.some_inj]
      exact decompress_compress_iff (htakes algorithm rfl)

end Compression

namespace Frame

/-- The flags tell whether a body is compressed and whether it is traced. -/
structure Announces (flags : UInt8) (compressed traced : Bool) : Prop where
  compression : flags &&& compressionFlag ≠ 0 ↔ compressed
  tracing : flags &&& tracingFlag ≠ 0 ↔ traced

theorem length_assemble (params : Params) (opcode : UInt8) (body : Bytes) :
    (assemble params opcode body).length = headerSize + body.length := by
  simp only [assemble, List.length_cons, List.length_append, Bytes.length_ofNat, headerSize]
  omega

theorem split_assemble {params : Params} (hversion : params.version &&& 0x7F = version)
    (opcode : UInt8) {body : Bytes} (hsize : body.length ≤ maxBodySize) (others : Bytes) :
    split (assemble params opcode body ++ others) = .ok ((params, opcode, body), others) := by
  obtain ⟨first, flags, stream⟩ := params
  have hlength : Bytes.toNat (Bytes.ofNat 4 body.length) = body.length := by
    rw [Bytes.toNat_ofNat]
    exact Nat.mod_eq_of_lt (Nat.lt_of_le_of_lt hsize (by decide))
  obtain ⟨l3, l2, l1, l0, hbytes⟩ : ∃ l3 l2 l1 l0, Bytes.ofNat 4 body.length = [l3, l2, l1, l0] :=
    ⟨_, _, _, _, rfl⟩
  rw [hbytes] at hlength
  have hsplit := Bytes.splitExact?_append (rfl : body.length = body.length) others
  simp only [assemble, hbytes, List.cons_append, List.nil_append, split]
  rw [if_neg (not_not.mpr hversion), hlength, if_neg (Nat.not_lt.mpr hsize)]
  simp only [hsplit, Int8.toInt8_toUInt8]

theorem splitRequest_assemble {params : Params} (hversion : params.version = version)
    (opcode : RequestOpcode) {body : Bytes} (hsize : body.length ≤ maxBodySize) (others : Bytes) :
    splitRequest (assemble params opcode.code body ++ others) =
      .ok ((params, opcode, body), others) := by
  have hsplit := split_assemble (by rw [hversion]; rfl) opcode.code hsize others
  have hopcode : RequestOpcode.ofCode opcode.code = .ok opcode := by
    rw [RequestOpcode.ofCode, RequestOpcode.ofCode?_code]
  have hdirection : params.version &&& responseBit = 0 := by
    rw [hversion]
    rfl
  simp only [splitRequest, hsplit, bind, Except.bind]
  rw [if_neg (not_not.mpr hdirection), hopcode]
  rfl

/-- The identifier of a trace, if there is one, in front of a body. -/
def prefixed (trace : Option Uuid) (body : Bytes) : Bytes :=
  (trace.map Write.uuid).getD [] ++ body

theorem tracing_of_tracing (flags : UInt8) :
    flags &&& tracingFlag &&& tracingFlag = flags &&& tracingFlag := by
  rw [UInt8.and_assoc, UInt8.and_self]

theorem compression_of_tracing (flags : UInt8) : flags &&& tracingFlag &&& compressionFlag = 0 := by
  rw [UInt8.and_assoc]
  exact UInt8.and_zero

theorem openBody_of_plain {flags : UInt8} (hflag : flags &&& compressionFlag = 0)
    (negotiated : Option Compression) (content : Bytes) :
    openBody flags negotiated content = openBody (flags &&& tracingFlag) none content := by
  simp only [openBody, hflag, compression_of_tracing, tracing_of_tracing, if_true]

theorem openBody_of_compressed {flags : UInt8} (hflag : flags &&& compressionFlag ≠ 0)
    {algorithm : Compression} {packed content : Bytes}
    (hcontent : algorithm.decompress packed = .ok content) :
    openBody flags (some algorithm) packed = openBody (flags &&& tracingFlag) none content := by
  simp only [openBody, hflag, hcontent, compression_of_tracing, tracing_of_tracing, if_true,
    if_false]

theorem openBody_ne_ok {flags : UInt8} (hflag : flags &&& compressionFlag ≠ 0)
    {algorithm : Compression} {packed : Bytes} {fault : Compression.Fault}
    (hfault : algorithm.decompress packed = .error fault) {opened : Option Uuid × Bytes} :
    openBody flags (some algorithm) packed ≠ .ok opened := by
  simp only [openBody, hflag, hfault, if_false]
  cases fault <;> exact nofun

theorem uuid_eq_ok_iff {bytes rest : Bytes} {id : Uuid} :
    Reader.uuid bytes = .ok (id, rest) ↔ bytes = Write.uuid id ++ rest := by
  constructor
  · intro h
    obtain ⟨octets, hoctets, rfl⟩ := Reader.map_eq_ok_iff.mp h
    exact Reader.eq_append_of_octets hoctets
  · rintro rfl
    exact Reader.reads_uuid id rest

theorem openBody_eq_ok_iff {flags : UInt8} {trace : Option Uuid}
    (hflag : flags &&& tracingFlag ≠ 0 ↔ trace.isSome) (content body : Bytes) :
    openBody (flags &&& tracingFlag) none content = .ok (trace, body) ↔
      content = prefixed trace body := by
  simp only [openBody, compression_of_tracing, tracing_of_tracing, if_true]
  cases trace with
  | none =>
      have hclear : flags &&& tracingFlag = 0 := by simpa using hflag
      rw [hclear]
      simp [bind, Except.bind, pure, Except.pure, prefixed]
  | some id =>
      have hset : flags &&& tracingFlag ≠ 0 := by simpa using hflag
      simp only [bind, Except.bind, pure, Except.pure, hset, if_false]
      rw [show prefixed (some id) body = Write.uuid id ++ body from rfl, ← uuid_eq_ok_iff]
      cases Reader.uuid content with
      | error fault => exact iff_of_false nofun nofun
      | ok read =>
          obtain ⟨found, rest⟩ := read
          simp

theorem openBody_pack_iff {flags : UInt8} {negotiated used : Option Compression}
    {trace : Option Uuid} {body : Bytes} (hflags : Announces flags used.isSome trace.isSome)
    (hused : ∀ algorithm ∈ used, negotiated = some algorithm ∧
      algorithm.takes (prefixed trace body) = true) :
    openBody flags negotiated (Compression.pack used (prefixed trace body)) = .ok (trace, body) ↔
      (used = some .lz4 → (prefixed trace body).length < 0x100000000) := by
  cases used with
  | none =>
      have hclear : flags &&& compressionFlag = 0 := by simpa using hflags.compression
      rw [Compression.pack, openBody_of_plain hclear, openBody_eq_ok_iff hflags.tracing]
      exact iff_of_true rfl nofun
  | some algorithm =>
      obtain ⟨rfl, htakes⟩ := hused algorithm rfl
      have hset : flags &&& compressionFlag ≠ 0 := by simpa using hflags.compression
      rw [Option.some_inj, ← Compression.decompress_compress_iff htakes, Compression.pack]
      cases hcontent : algorithm.decompress (algorithm.compress (prefixed trace body)) with
      | error fault => exact iff_of_false (openBody_ne_ok hset hcontent) nofun
      | ok content =>
          rw [openBody_of_compressed hset hcontent, openBody_eq_ok_iff hflags.tracing,
            Except.ok.injEq]

end Frame

end CqlClient
