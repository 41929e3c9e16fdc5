import CqlClient.Proofs.Compression.Factor

namespace CqlClient.Lz4

open Factor

variable {data out : ByteArray} {room offset start pos stop source : Nat}

/-- What a block ends with. -/
def ending (data : ByteArray) (start : Nat) : List Piece :=
  [.literal (slice data start data.size)]

theorem exists_chain (slot : Nat → Nat) (misses : Nat) (recent : Array Nat) (done : List Piece)
    (hsize : start ≤ data.size) (hstart : start ≤ pos) (hpos : 0 < pos)
    (hrecent : ∀ key, recent.getD key 0 < pos) :
    ∃ found, piecesFrom slot data start pos misses recent done = done.reverse ++ found ∧
      Chain (ending data) data start found := by
  fun_induction piecesFrom slot data start pos misses recent done with
  | case1 start pos misses recent done hinside key source later hfound begin next hnext hcopy
      latest copy ih =>
      have hbefore : repeatedBefore data source pos (min source (pos - start)) ≤ _ :=
        repeatedBefore_le
      have hbegin : start ≤ begin := by omega
      have hoffset : pos ≤ source + 65535 := hfound.1
      have hnameable := nameable_copyEnd (hrecent key) hfound.2 (by omega)
        (Nat.min_le_left source (pos - start))
        (show pos + minCopy ≤ data.size - endMargin by
          simp only [startMargin, endMargin, minCopy] at hinside ⊢
          omega)
        (Nat.sub_le ..)
      rw [hcopy] at hnameable
      have hlater : ∀ key, later.getD key 0 < next :=
        getD_setIfInBounds_lt (fun key => Nat.lt_trans (hrecent key) hnext) hnext key
      have hlatest : ∀ key, latest.getD key 0 < next :=
        getD_setIfInBounds_lt hlater (by omega) _
      obtain ⟨found, hpieces, hchain⟩ :=
        ih hnameable.stop_le (Nat.le_refl next) (Nat.zero_lt_of_lt hnext) hlatest
      refine ⟨_, ?_, .copy hbegin hnameable hchain⟩
      rw [hpieces, List.reverse_cons, reverse_addLiteral]
      simp only [List.append_assoc, List.cons_append, List.nil_append]
      rfl
  | case2 start pos misses recent done hinside key source later hfound ih =>
      have hnext : pos < pos + 1 + misses / 32 := by omega
      refine ih hsize (by omega) (by omega) ?_
      exact getD_setIfInBounds_lt (fun key => Nat.lt_trans (hrecent key) hnext) hnext _
  | case3 start pos misses recent done hinside =>
      exact ⟨_, List.reverse_cons, .last hsize⟩

theorem chain_pieces (bytes : Bytes) :
    Chain (ending bytes.toByteArray) bytes.toByteArray 0 (pieces bytes) := by
  unfold pieces
  split
  · have hchain : Chain (ending bytes.toByteArray) bytes.toByteArray 0 _ := .last (Nat.zero_le _)
    rwa [ending, List.size_toByteArray, slice_all] at hchain
  · obtain ⟨found, hfound, hchain⟩ := exists_chain (slot bytes.toByteArray) 0
      (Array.replicate slotCount 0) [] (Nat.zero_le bytes.toByteArray.size) (Nat.zero_le 1)
      Nat.one_pos (getD_replicate_lt slotCount)
    dsimp only
    rw [hfound]
    exact hchain

theorem extension_replicate (sum count : Nat) {byte : UInt8} (hbyte : byte ≠ 255)
    (rest : Bytes) :
    extension sum (List.replicate count 255 ++ byte :: rest) =
      .ok (sum + 255 * count + byte.toNat, rest) := by
  induction count generalizing sum with
  | zero =>
      rw [List.replicate_zero, List.nil_append, extension, if_neg hbyte]
      rfl
  | succ count ih =>
      rw [List.replicate_succ, List.cons_append, extension, if_pos rfl, ih]
      congr 2
      omega

theorem fullLength_extensionBytes (length : Nat) (rest : Bytes) :
    fullLength (min length 15) ((if length < 15 then [] else extensionBytes length) ++ rest) =
      .ok (length, rest) := by
  rcases Nat.lt_or_ge length 15 with hlt | hge
  · rw [Nat.min_eq_left (Nat.le_of_lt hlt), if_pos hlt, fullLength, if_neg (Nat.ne_of_lt hlt)]
    rfl
  · have hbyte : (UInt8.ofNat ((length - 15) % 255)).toNat = (length - 15) % 255 := by
      rw [UInt8.toNat_ofNat']
      omega
    have hne : UInt8.ofNat ((length - 15) % 255) ≠ 255 := by
      intro heq
      have hvalue : (length - 15) % 255 = 255 := hbyte.symm.trans (congrArg UInt8.toNat heq)
      omega
    rw [Nat.min_eq_right hge, if_neg (Nat.not_lt.mpr hge), fullLength, if_pos rfl, extensionBytes,
      List.append_assoc, List.singleton_append, extension_replicate _ _ hne, hbyte]
    congr 2
    omega

theorem token_nibbles {high low : Nat} (hhigh : high ≤ 15) (hlow : low ≤ 15) :
    (UInt8.ofNat (high * 16 + low)).toNat / 16 = high ∧
      (UInt8.ofNat (high * 16 + low)).toNat % 16 = low := by
  rw [UInt8.toNat_ofNat']
  omega

theorem fullLength_high (length : Nat) {low : Nat} (hlow : low ≤ 15) (rest : Bytes) :
    fullLength ((UInt8.ofNat (min length 15 * 16 + low)).toNat / 16)
        ((if length < 15 then [] else extensionBytes length) ++ rest) = .ok (length, rest) := by
  rw [(token_nibbles (Nat.min_le_right length 15) hlow).1, fullLength_extensionBytes]

theorem fullLength_low (length : Nat) {high : Nat} (hhigh : high ≤ 15) (rest : Bytes) :
    fullLength ((UInt8.ofNat (high * 16 + min length 15)).toNat % 16)
        ((if length < 15 then [] else extensionBytes length) ++ rest) = .ok (length, rest) := by
  rw [(token_nibbles hhigh (Nat.min_le_right length 15)).2, fullLength_extensionBytes]

theorem size_append_literal (out : ByteArray) (literal : Bytes) :
    (out ++ literal.toByteArray).size = out.size + literal.length := by
  rw [ByteArray.size_append, List.size_toByteArray]

section Sequence

variable {token lo hi : UInt8} {count extra : Nat} {after left literal behind rest : Bytes}

theorem decode_cons_of_copy (hliteral : fullLength (token.toNat / 16) after = .ok (count, left))
    (hsplit : Bytes.splitExact? count left = some (literal, lo :: hi :: behind))
    (hcopy : fullLength (token.toNat % 16) behind = .ok (extra, rest))
    (hfits : out.size + count ≤ room)
    (hroom : (out ++ literal.toByteArray).size + (extra + minCopy) ≤ room)
    (hpos : 0 < lo.toNat + hi.toNat * 256)
    (hback : lo.toNat + hi.toNat * 256 ≤ (out ++ literal.toByteArray).size) :
    decode room out (token :: after) =
      decode room (copyBack (lo.toNat + hi.toNat * 256) (extra + minCopy)
        (out ++ literal.toByteArray)) rest := by
  generalize hblock : token :: after = block
  -- The other cases contradict what was found of the sequence.
  fun_cases decode room out block <;> grind

theorem decode_cons_of_end (hliteral : fullLength (token.toNat / 16) after = .ok (count, left))
    (hsplit : Bytes.splitExact? count left = some (literal, []))
    (hfits : out.size + count ≤ room) :
    decode room out (token :: after) = .ok (out ++ literal.toByteArray) := by
  generalize hblock : token :: after = block
  fun_cases decode room out block <;> grind

end Sequence

theorem decode_sequence {literal : Bytes} {length : Nat} (hoffset : 0 < offset)
    (hlt : offset < 65536) (hback : offset ≤ out.size + literal.length) (hmin : minCopy ≤ length)
    (hroom : out.size + literal.length + length ≤ room) (block : Bytes) :
    decode room out (sequenceBytes literal (some (offset, length)) ++ block) =
      decode room (copyBack offset length (out ++ literal.toByteArray)) block := by
  have hbytes : (UInt8.ofNat offset).toNat + (UInt8.ofNat (offset / 256)).toNat * 256 = offset := by
    rw [UInt8.toNat_ofNat', UInt8.toNat_ofNat']
    omega
  have hliteral := fullLength_high literal.length (Nat.min_le_right (length - minCopy) 15)
  have hlength := fullLength_low (length - minCopy) (Nat.min_le_right literal.length 15) block
  simp only [sequenceBytes, List.cons_append, List.append_assoc]
  rw [decode_cons_of_copy (hliteral _) (Bytes.splitExact?_append rfl _) hlength (by omega)
    (by rw [size_append_literal]; omega) (by rwa [hbytes])
    (by rwa [hbytes, size_append_literal]), hbytes, Nat.sub_add_cancel hmin]

theorem decode_last {literal : Bytes} (hroom : out.size + literal.length ≤ room) :
    decode room out (sequenceBytes literal none) = .ok (out ++ literal.toByteArray) := by
  have hliteral := fullLength_high literal.length (Nat.zero_le 15) (literal ++ [])
  simp only [sequenceBytes, List.append_assoc]
  exact decode_cons_of_end hliteral (Bytes.splitExact?_append rfl []) hroom

theorem encode_copy {content : Bytes} (hpos : pos ≤ content.length) (offset length : Nat)
    (rest : List Piece) :
    encode (addLiteral content.toByteArray start pos [] ++ .copy offset length :: rest) =
      sequenceBytes (slice content.toByteArray start pos) (some (offset, length)) ::
        encode rest := by
  unfold addLiteral
  split
  · rfl
  · next hle =>
      have hnil : slice content.toByteArray start pos = [] :=
        List.length_eq_zero_iff.mp (by rw [length_slice hpos]; omega)
      rw [hnil]
      rfl

theorem decode_encode {content : Bytes} {pieces : List Piece}
    (h : Chain (ending content.toByteArray) content.toByteArray start pieces)
    (hout : Holds [] content start out) (hroom : content.length ≤ room) :
    ∃ result, decode room out (encode pieces).flatten = .ok result ∧
      Holds [] content content.length result := by
  induction h generalizing out with
  | @last start le =>
      have hliteral := hout.literal hout.le (Nat.le_refl content.length)
      have hsize := hliteral.size
      rw [size_append_literal, List.length_nil, Nat.zero_add] at hsize
      refine ⟨_, ?_, hliteral⟩
      rw [ending, List.size_toByteArray]
      simp only [encode, List.flatten_cons, List.flatten_nil, List.append_nil]
      exact decode_last (by omega)
  | @copy offset start pos stop rest le nameable others ih =>
      have hstop : stop ≤ content.length := by
        rw [← List.size_toByteArray]
        exact nameable.stop_le
      have hmin := nameable.min_le
      have hpos : pos + (stop - pos) = stop := by omega
      have hinside : pos ≤ content.length := by omega
      have hback := nameable.le
      have hliteral := hout.literal le hinside
      have hsize := hliteral.size
      rw [size_append_literal, List.length_nil, Nat.zero_add] at hsize
      have hcopy := hliteral.copyBack (Nat.le_trans (Nat.le_of_eq hpos) hstop) (by
        rw [hpos]
        exact nameable.toRepeats)
      rw [hpos] at hcopy
      obtain ⟨result, hresult, hholds⟩ := ih hcopy
      refine ⟨result, ?_, hholds⟩
      rw [encode_copy hinside, List.flatten_cons,
        decode_sequence nameable.pos nameable.offset_lt (by omega) (by omega) (by omega)]
      exact hresult

theorem size_le_of_decode {block : Bytes} {result : ByteArray}
    (h : decode room out block = .ok result) : result.size ≤ room := by
  fun_induction decode room out block
  case case5 out token afterToken count afterLength hcount literal hfits filled hsplit _ =>
    obtain rfl := Except.ok.inj h
    have hliteral := Bytes.length_of_splitExact? hsplit
    rw [size_append_literal]
    omega
  case case10 ih => exact ih h
  all_goals exact nomatch h

/-- A block gives its content back if and only if it is told of as many bytes or more. -/
theorem decompress_compress_iff {size : Nat} {content : Bytes} :
    decompress size (compress content) = .ok content ↔ content.length ≤ size := by
  constructor
  · intro h
    rw [decompress] at h
    cases hdecode : decode size ByteArray.empty (compress content) with
    | error fault =>
        rw [hdecode] at h
        exact nomatch h
    | ok result =>
        rw [hdecode] at h
        have hsize := size_le_of_decode hdecode
        have hcontent : result.data.toList = content := Except.ok.inj h
        rw [← hcontent]
        exact hsize
  · intro h
    have hempty : Holds [] content 0 ByteArray.empty := ⟨Nat.zero_le _, rfl⟩
    obtain ⟨result, hresult, hholds⟩ := decode_encode (chain_pieces content) hempty h
    rw [decompress, compress, hresult]
    change Except.ok result.data.toList = .ok content
    rw [hholds.eq, List.nil_append, List.take_length]

end CqlClient.Lz4
