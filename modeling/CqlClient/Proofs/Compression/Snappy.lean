import CqlClient.Compression.Snappy
import CqlClient.Proofs.Compression.Factor

namespace CqlClient.Snappy

open Factor

variable {data out : ByteArray} {size offset length start pos stop : Nat}
  {before content : Bytes}

/-- What a block ends with. -/
def ending (data : ByteArray) (start : Nat) : List Piece :=
  addLiteral data start data.size []

theorem exists_chain (slot : Nat → Nat) (patience : Nat) (recent : Array Nat) (done : List Piece)
    (hdata : data.size ≤ blockSize) (hsize : start ≤ data.size) (hstart : start ≤ pos)
    (hpos : 0 < pos) (hrecent : ∀ key, recent.getD key 0 < pos) :
    ∃ found, piecesFrom slot data start pos patience recent done = done.reverse ++ found ∧
      Chain (ending data) data start found := by
  fun_induction piecesFrom slot data start pos patience recent done with
  | case1 start pos patience recent done step hstep hinside key source later hfound next hnext
      hcopy latest copy ih =>
      simp only [margin, blockSize] at hinside hdata
      have hnameable := nameable_copyEnd (hrecent key) hfound (by omega) (Nat.zero_le source)
        (show pos + minCopy ≤ data.size by
          simp only [minCopy]
          omega)
        (Nat.le_refl data.size)
      rw [hcopy] at hnameable
      have hlater : ∀ key, later.getD key 0 < next :=
        getD_setIfInBounds_lt (fun key => Nat.lt_trans (hrecent key) hnext) hnext key
      have hlatest : ∀ key, latest.getD key 0 < next :=
        getD_setIfInBounds_lt hlater (by omega) _
      obtain ⟨found, hpieces, hchain⟩ :=
        ih hnameable.stop_le (Nat.le_refl next) (Nat.zero_lt_of_lt hnext) hlatest
      refine ⟨_, ?_, .copy hstart hnameable hchain⟩
      rw [hpieces, List.reverse_cons, reverse_addLiteral]
      simp only [List.append_assoc, List.cons_append, List.nil_append]
      rfl
  | case2 start pos patience recent done step hstep hinside key source later hfound ih =>
      refine ih hsize (by omega) (by omega) ?_
      exact getD_setIfInBounds_lt (fun key => Nat.lt_of_lt_of_le (hrecent key) (by omega))
        (by omega) _
  | case3 start pos patience recent done step hstep hinside =>
      exact ⟨_, reverse_addLiteral .., .last hsize⟩

theorem chain_pieces {block : Bytes} (hne : block ≠ []) (hblock : block.length ≤ blockSize) :
    Chain (ending block.toByteArray) block.toByteArray 0 (pieces block) := by
  unfold pieces
  split
  · have hchain : Chain (ending block.toByteArray) block.toByteArray 0 _ := .last (Nat.zero_le _)
    rwa [ending, List.size_toByteArray, addLiteral, if_pos (List.length_pos_iff.mpr hne),
      slice_all] at hchain
  · obtain ⟨found, hfound, hchain⟩ := exists_chain
      (slot (slotCount block.length) block.toByteArray) 32
      (Array.replicate (slotCount block.length) 0) [] (by rwa [List.size_toByteArray])
      (Nat.zero_le block.toByteArray.size) (Nat.zero_le 1) Nat.one_pos
      (getD_replicate_lt (slotCount block.length))
    dsimp only
    rw [hfound]
    exact hchain

theorem readVarint_writeVarint {groups shift n : Nat} (hshift : shift + 7 * groups ≤ 35)
    (hn : n < Nat.pow 128 groups) (hgroups : 0 < groups) (value : Nat) (rest : Bytes) :
    readVarint shift value (writeVarint n ++ rest) = some (value + n <<< shift, rest) := by
  induction groups generalizing shift n value with
  | zero => exact absurd hgroups (Nat.lt_irrefl 0)
  | succ groups ih =>
      rw [writeVarint]
      split
      · next hlt =>
          have hbyte : (UInt8.ofNat n).toNat = n := by
            rw [UInt8.toNat_ofNat']
            omega
          have hlast : UInt8.ofNat n < 128 := by
            rw [UInt8.lt_iff_toNat_lt, hbyte]
            exact hlt
          rw [List.singleton_append, readVarint, if_neg (by omega), hbyte, Nat.mod_eq_of_lt hlt]
          exact if_pos hlast
      · next hge =>
          have hbyte : (UInt8.ofNat (n % 128 + 128)).toNat = n % 128 + 128 := by
            rw [UInt8.toNat_ofNat']
            omega
          have hmore : ¬UInt8.ofNat (n % 128 + 128) < 128 := by
            rw [UInt8.lt_iff_toNat_lt, hbyte]
            exact Nat.not_lt.mpr (Nat.le_add_left ..)
          have hrest : n / 128 < Nat.pow 128 groups := by
            have hmul : n < Nat.pow 128 groups * 128 := hn
            exact Nat.div_lt_of_lt_mul (by omega)
          have hleft : 0 < groups := by
            rcases Nat.eq_zero_or_pos groups with rfl | hpos
            · exact absurd hn hge
            · exact hpos
          rw [List.cons_append, readVarint, if_neg (by omega)]
          simp only [hbyte, if_neg hmore, Nat.add_mod_right, Nat.mod_mod]
          have hsum : (n % 128) <<< shift + (n / 128) <<< (shift + 7) = n <<< shift := by
            rw [Nat.shiftLeft_eq, Nat.shiftLeft_eq, Nat.shiftLeft_eq, Nat.pow_add,
              Nat.mul_comm (2 ^ shift), ← Nat.mul_assoc, ← Nat.add_mul, Nat.mul_comm (n / 128)]
            exact congrArg (· * 2 ^ shift) (Nat.mod_add_div n 128)
          rw [ih (by omega) hrest hleft, Nat.add_assoc, hsum]

theorem littleEndian_byte {n : Nat} (hn : n < 256) : littleEndian [UInt8.ofNat n] = n := by
  simp only [littleEndian, List.foldr_cons, List.foldr_nil, UInt8.toNat_ofNat']
  omega

theorem littleEndian_pair {n : Nat} (hn : n < 65536) :
    littleEndian [UInt8.ofNat n, UInt8.ofNat (n / 256)] = n := by
  simp only [littleEndian, List.foldr_cons, List.foldr_nil, UInt8.toNat_ofNat']
  omega

theorem literalLength_byte (low : UInt8) (rest : Bytes) :
    literalLength (UInt8.ofNat (60 * 4)) (low :: rest) = some (littleEndian [low] + 1, rest) := rfl

theorem literalLength_pair (low high : UInt8) (rest : Bytes) :
    literalLength (UInt8.ofNat (61 * 4)) (low :: high :: rest) =
      some (littleEndian [low, high] + 1, rest) := rfl

theorem exists_literalBytes {literal : Bytes} (hne : literal ≠ [])
    (hlength : literal.length ≤ blockSize) (rest : Bytes) :
    ∃ tag after, literalBytes literal ++ rest = tag :: after ∧ tag.toNat % 4 = 0 ∧
      literalLength tag after = some (literal.length, literal ++ rest) := by
  have hpos := List.length_pos_iff.mpr hne
  have hlast : literal.length - 1 + 1 = literal.length := by omega
  simp only [blockSize] at hlength
  simp only [literalBytes]
  split
  · next hshort =>
      have htag : (UInt8.ofNat ((literal.length - 1) * 4)).toNat = (literal.length - 1) * 4 := by
        rw [UInt8.toNat_ofNat']
        omega
      refine ⟨_, _, rfl, by omega, ?_⟩
      simp only [literalLength, htag, Nat.mul_div_cancel _ (by decide : 0 < 4), hlast]
      exact if_pos (by omega)
  · split
    · next hbyte =>
        refine ⟨_, UInt8.ofNat (literal.length - 1) :: (literal ++ rest), rfl, rfl, ?_⟩
        rw [literalLength_byte, littleEndian_byte hbyte, hlast]
    · refine ⟨_, UInt8.ofNat (literal.length - 1) :: UInt8.ofNat ((literal.length - 1) / 256) ::
        (literal ++ rest), rfl, rfl, ?_⟩
      rw [literalLength_pair, littleEndian_pair (by omega), hlast]

theorem decode_literalBytes {literal : Bytes} (hne : literal ≠ [])
    (hlength : literal.length ≤ blockSize) (hroom : out.size + literal.length ≤ size)
    (rest : Bytes) :
    decode size out (literalBytes literal ++ rest) =
      decode size (out ++ literal.toByteArray) rest := by
  obtain ⟨tag, after, hbytes, hkind, hliteral⟩ := exists_literalBytes hne hlength rest
  have hsplit := Bytes.splitExact?_append (rfl : literal.length = literal.length) rest
  rw [hbytes]
  generalize hblock : tag :: after = block
  -- The other cases contradict what was found of the literal.
  fun_cases decode size out block <;> grind

theorem decode_span {tag : UInt8} {after rest : Bytes} (hkind : tag.toNat % 4 ≠ 0)
    (hspan : copySpan tag after = some (length, offset, rest)) (hoffset : 0 < offset)
    (hback : offset ≤ out.size) (hroom : out.size + length ≤ size) :
    decode size out (tag :: after) = decode size (Lz4.copyBack offset length out) rest := by
  generalize hblock : tag :: after = block
  fun_cases decode size out block <;> grind

theorem copySpan_near {tag : UInt8} (hkind : tag.toNat % 4 = 1) (low : UInt8) (rest : Bytes) :
    copySpan tag (low :: rest) =
      some (4 + tag.toNat / 4 % 8, tag.toNat / 32 * 256 + littleEndian [low], rest) := by
  simp only [copySpan, hkind, if_true]
  rfl

theorem copySpan_far {tag : UInt8} (hkind : tag.toNat % 4 = 2) (low high : UInt8) (rest : Bytes) :
    copySpan tag (low :: high :: rest) =
      some (tag.toNat / 4 + 1, littleEndian [low, high], rest) := by
  simp only [copySpan, hkind, if_true]
  rfl

theorem exists_farCopy (hpos : 0 < length) (hlength : length ≤ 64) (hoffset : offset < 65536)
    (rest : Bytes) :
    ∃ tag after, farCopy offset length ++ rest = tag :: after ∧ tag.toNat % 4 ≠ 0 ∧
      copySpan tag after = some (length, offset, rest) := by
  have htag : (UInt8.ofNat ((length - 1) * 4 + 2)).toNat = (length - 1) * 4 + 2 := by
    rw [UInt8.toNat_ofNat']
    omega
  refine ⟨_, UInt8.ofNat offset :: UInt8.ofNat (offset / 256) :: rest, rfl, by omega, ?_⟩
  rw [copySpan_far (by omega), htag, littleEndian_pair hoffset]
  congr 2
  omega

theorem exists_copyPart (hmin : minCopy ≤ length) (hlength : length ≤ 64)
    (hoffset : offset < 65536) (rest : Bytes) :
    ∃ tag after, copyPart offset length ++ rest = tag :: after ∧ tag.toNat % 4 ≠ 0 ∧
      copySpan tag after = some (length, offset, rest) := by
  simp only [minCopy] at hmin
  unfold copyPart
  split
  · next hshort =>
      have htag : (UInt8.ofNat (offset / 256 * 32 + (length - 4) * 4 + 1)).toNat =
          offset / 256 * 32 + (length - 4) * 4 + 1 := by
        rw [UInt8.toNat_ofNat']
        omega
      have hlow : littleEndian [UInt8.ofNat offset] = offset % 256 := by
        simp only [littleEndian, List.foldr_cons, List.foldr_nil, UInt8.toNat_ofNat']
        omega
      refine ⟨_, UInt8.ofNat offset :: rest, rfl, by omega, ?_⟩
      rw [copySpan_near (by omega), htag, hlow]
      congr 2
      · omega
      · congr 1
        omega
  · exact exists_farCopy (by omega) hlength hoffset rest

theorem decode_part {part rest : Bytes}
    (hpart : ∃ tag after, part ++ rest = tag :: after ∧ tag.toNat % 4 ≠ 0 ∧
      copySpan tag after = some (length, offset, rest))
    (h : Holds before content pos out) (hlength : pos + length ≤ content.length)
    (hrepeats : Repeats content.toByteArray offset pos (pos + length))
    (hroom : before.length + content.length ≤ size) :
    ∃ result, Holds before content (pos + length) result ∧
      decode size out (part ++ rest) = decode size result rest := by
  obtain ⟨tag, after, hbytes, hkind, hspan⟩ := hpart
  have hsize := h.size
  have hback := hrepeats.le
  refine ⟨_, h.copyBack hlength hrepeats, ?_⟩
  rw [hbytes]
  exact decode_span hkind hspan hrepeats.pos (by omega) (by omega)

theorem decode_copyBytes (h : Holds before content pos out) (hmin : minCopy ≤ length)
    (hlength : pos + length ≤ content.length) (hoffset : offset < 65536)
    (hrepeats : Repeats content.toByteArray offset pos (pos + length))
    (hroom : before.length + content.length ≤ size) (rest : Bytes) :
    ∃ result, Holds before content (pos + length) result ∧
      decode size out (copyBytes offset length ++ rest) = decode size result rest := by
  simp only [minCopy] at hmin
  fun_induction copyBytes offset length generalizing pos out with
  | case1 length hlong ih =>
      have hfar := exists_farCopy (by decide : 0 < 64) (by decide) hoffset
        (copyBytes offset (length - 64) ++ rest)
      obtain ⟨first, hfirst, hdecode⟩ := decode_part hfar h (by omega)
        (hrepeats.within (Nat.le_refl pos) (by omega)) hroom
      obtain ⟨result, hresult, hlast⟩ := ih hfirst (by omega) (by omega)
        (hrepeats.within (by omega) (by omega))
      refine ⟨result, ?_, ?_⟩
      · rwa [Nat.add_assoc, Nat.add_sub_cancel' (by omega : 64 ≤ length)] at hresult
      · rw [List.append_assoc, hdecode, hlast]
  | case2 length hshort hlong =>
      have hfar := exists_farCopy (by decide : 0 < 60) (by decide) hoffset
        (copyPart offset (length - 60) ++ rest)
      obtain ⟨first, hfirst, hdecode⟩ := decode_part hfar h (by omega)
        (hrepeats.within (Nat.le_refl pos) (by omega)) hroom
      have hleft : minCopy ≤ length - 60 := by
        simp only [minCopy]
        omega
      have hpart := exists_copyPart hleft (by omega) hoffset rest
      obtain ⟨result, hresult, hlast⟩ := decode_part hpart hfirst (by omega)
        (hrepeats.within (by omega) (by omega)) hroom
      refine ⟨result, ?_, ?_⟩
      · rwa [Nat.add_assoc, Nat.add_sub_cancel' (by omega : 60 ≤ length)] at hresult
      · rw [List.append_assoc, hdecode, hlast]
  | case3 length hshort hle =>
      exact decode_part (exists_copyPart hmin (by omega) hoffset rest) h hlength hrepeats hroom

theorem decode_addLiteral (h : Holds before content start out) (hle : start ≤ pos)
    (hpos : pos ≤ content.length) (hblock : content.length ≤ blockSize)
    (hroom : before.length + content.length ≤ size) (rest : Bytes) :
    ∃ result, Holds before content pos result ∧
      decode size out ((addLiteral content.toByteArray start pos []).flatMap pieceBytes ++ rest) =
        decode size result rest := by
  have hsize := h.size
  unfold addLiteral
  split
  · next hlt =>
      have hlength : (slice content.toByteArray start pos).length = pos - start :=
        length_slice hpos
      have hne : slice content.toByteArray start pos ≠ [] :=
        List.length_pos_iff.mp (by omega)
      refine ⟨_, h.literal hle hpos, ?_⟩
      simp only [List.flatMap_cons, List.flatMap_nil, List.append_nil, pieceBytes]
      exact decode_literalBytes hne (by omega) (by omega) rest
  · next hge =>
      obtain rfl : start = pos := by omega
      exact ⟨out, h, rfl⟩

theorem decode_pieceBytes {pieces : List Piece}
    (h : Chain (ending content.toByteArray) content.toByteArray start pieces)
    (hout : Holds before content start out) (hblock : content.length ≤ blockSize)
    (hroom : before.length + content.length ≤ size) (rest : Bytes) :
    ∃ result, Holds before content content.length result ∧
      decode size out (pieces.flatMap pieceBytes ++ rest) = decode size result rest := by
  induction h generalizing out with
  | @last start le =>
      rw [ending, List.size_toByteArray]
      exact decode_addLiteral hout hout.le (Nat.le_refl content.length) hblock hroom rest
  | @copy offset start pos stop others le nameable hchain ih =>
      have hmin := nameable.min_le
      have hstop : stop ≤ content.length := by
        rw [← List.size_toByteArray]
        exact nameable.stop_le
      have hpos : pos + (stop - pos) = stop := by omega
      rw [List.flatMap_append, List.append_assoc, List.flatMap_cons, List.append_assoc]
      obtain ⟨first, hfirst, hliteral⟩ := decode_addLiteral hout le (by omega) hblock hroom
        (pieceBytes (.copy offset (stop - pos)) ++ (others.flatMap pieceBytes ++ rest))
      have hrepeats := nameable.toRepeats
      rw [← hpos] at hrepeats hstop
      obtain ⟨second, hsecond, hcopy⟩ := decode_copyBytes hfirst (by omega) hstop
        nameable.offset_lt hrepeats hroom (others.flatMap pieceBytes ++ rest)
      rw [hpos] at hsecond
      obtain ⟨result, hresult, hlast⟩ := ih hsecond
      exact ⟨result, hresult, by rw [hliteral, pieceBytes, hcopy, hlast]⟩

theorem decode_blockBytes {bytes : Bytes} (hout : out.data.toList = before)
    (hsize : before.length + bytes.length = size) :
    ∃ result, decode size out (blockBytes bytes) = some result ∧
      result.data.toList = before ++ bytes := by
  fun_induction blockBytes bytes generalizing before out with
  | case1 =>
      have hout' : out.size = size := by
        rw [← hsize, ← hout]
        rfl
      exact ⟨out, by rw [decode, if_pos hout'], by rw [hout, List.append_nil]⟩
  | case2 bytes hne ih =>
      have htake : bytes.take blockSize ≠ [] := by
        rw [ne_eq, List.take_eq_nil_iff, not_or]
        exact ⟨by decide, hne⟩
      have hlength : (bytes.take blockSize).length ≤ blockSize := List.length_take_le ..
      have hwhole := congrArg List.length (List.take_append_drop blockSize bytes)
      rw [List.length_append] at hwhole
      have hbegin : Holds before (bytes.take blockSize) 0 out :=
        ⟨Nat.zero_le _, by rw [hout, List.take_zero, List.append_nil]⟩
      have hroom : before.length + (bytes.take blockSize).length ≤ size := by omega
      obtain ⟨first, hfirst, hdecode⟩ := decode_pieceBytes (chain_pieces htake hlength) hbegin
        hlength hroom (blockBytes (bytes.drop blockSize))
      have hheld := hfirst.eq
      rw [List.take_length] at hheld
      obtain ⟨result, hresult, hlast⟩ := ih hheld (by rw [List.length_append]; omega)
      refine ⟨result, by rw [hdecode, hresult], ?_⟩
      rw [hlast, List.append_assoc, List.take_append_drop]

theorem size_of_decode {block : Bytes} {result : ByteArray}
    (h : decode size out block = some result) : result.size = size := by
  fun_induction decode size out block
  case case1 out hsize =>
    obtain rfl := Option.some.inj h
    exact hsize
  case case6 ih => exact ih h
  case case9 ih => exact ih h
  all_goals exact nomatch h

/-- Compressed bytes give their content back if and only if its size can be announced. -/
theorem decompress_compress_iff :
    decompress (compress content) = some content ↔ content.length ≤ maxSize := by
  constructor
  · intro h
    unfold decompress at h
    split at h
    · next size block hread =>
        split at h
        · exact nomatch h
        · next hle =>
            obtain ⟨result, hresult, hcontent⟩ := Option.map_eq_some_iff.mp h
            have hsize := size_of_decode hresult
            rw [← hcontent]
            change result.size ≤ maxSize
            omega
    · exact nomatch h
  · intro h
    have hlt : content.length < Nat.pow 128 5 := Nat.lt_of_le_of_lt h (by decide)
    have hread := readVarint_writeVarint (Nat.le_refl (0 + 7 * 5)) hlt (by decide) 0
      (blockBytes content)
    have hempty : ByteArray.empty.data.toList = ([] : Bytes) := rfl
    obtain ⟨result, hresult, hcontent⟩ := decode_blockBytes hempty (Nat.zero_add content.length)
    rw [Nat.zero_add, Nat.shiftLeft_zero] at hread
    simp only [decompress, compress, hread, if_neg (Nat.not_lt.mpr h), hresult, Option.map_some,
      hcontent, List.nil_append]

end CqlClient.Snappy
