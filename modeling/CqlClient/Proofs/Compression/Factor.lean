import CqlClient.Compression.Lz4

namespace CqlClient.Factor

variable {data : ByteArray} {offset start stop source pos limit width most : Nat}

theorem byteAt_eq (data : ByteArray) (pos : Nat) :
    byteAt data pos = data.data.toList[pos]?.getD 0 := by
  rw [byteAt]
  split
  · next h =>
      have hlength : pos < data.data.toList.length := h
      rw [List.getElem?_eq_getElem hlength]
      rfl
  · next h =>
      have hlength : data.data.toList.length ≤ pos := Nat.not_lt.mp h
      rw [List.getElem?_eq_none hlength]
      rfl

theorem toList_toByteArray (bytes : Bytes) : bytes.toByteArray.data.toList = bytes := by
  rw [List.data_toByteArray, List.toList_toArray]

theorem byteAt_toByteArray (bytes : Bytes) (pos : Nat) :
    byteAt bytes.toByteArray pos = bytes[pos]?.getD 0 := by
  rw [byteAt_eq, toList_toByteArray]

theorem slice_toByteArray (bytes : Bytes) (start stop : Nat) :
    slice bytes.toByteArray start stop = (bytes.drop start).take (stop - start) := by
  rw [slice, ByteArray.data_extract, Array.toList_extract, toList_toByteArray,
    List.extract_eq_take_drop]

theorem length_slice {bytes : Bytes} (hstop : stop ≤ bytes.length) :
    (slice bytes.toByteArray start stop).length = stop - start := by
  rw [slice_toByteArray, List.length_take, List.length_drop]
  omega

theorem slice_all (bytes : Bytes) : slice bytes.toByteArray 0 bytes.length = bytes := by
  rw [slice_toByteArray, List.drop_zero, Nat.sub_zero, List.take_length]

/-- The bytes from `start` up to `stop` are those `offset` before them. -/
structure Repeats (data : ByteArray) (offset start stop : Nat) : Prop where
  pos : 0 < offset
  le : offset ≤ start
  eq : ∀ i, start ≤ i → i < stop → byteAt data (i - offset) = byteAt data i

theorem Repeats.append (h : Repeats data offset start pos) (hnext : Repeats data offset pos stop) :
    Repeats data offset start stop := by
  refine ⟨h.pos, h.le, ?_⟩
  intro i hstart hstop
  rcases Nat.lt_or_ge i pos with hbefore | hafter
  · exact h.eq i hstart hbefore
  · exact hnext.eq i hafter hstop

theorem Repeats.within (h : Repeats data offset start stop) (hpos : start ≤ pos)
    (hlimit : limit ≤ stop) : Repeats data offset pos limit := by
  refine ⟨h.pos, Nat.le_trans h.le hpos, ?_⟩
  intro i hi hend
  exact h.eq i (Nat.le_trans hpos hi) (Nat.lt_of_lt_of_le hend hlimit)

theorem byteAt_of_numberAt (h : numberAt data source width = numberAt data pos width) {i : Nat}
    (hi : i < width) : byteAt data (source + i) = byteAt data (pos + i) := by
  induction width generalizing source pos i with
  | zero => exact absurd hi (Nat.not_lt_zero i)
  | succ width ih =>
      rw [numberAt, numberAt] at h
      have hsource := (byteAt data source).toNat_lt
      have hpos := (byteAt data pos).toNat_lt
      cases i with
      | zero =>
          exact UInt8.toNat_inj.mp
            (show (byteAt data source).toNat = (byteAt data pos).toNat by omega)
      | succ i =>
          have hrest : numberAt data (source + 1) width = numberAt data (pos + 1) width := by omega
          have hnext := ih hrest (Nat.lt_of_succ_lt_succ hi)
          rwa [Nat.add_right_comm, Nat.add_right_comm pos] at hnext

theorem repeats_of_agrees (hlt : source < pos) (h : agrees data source pos = true) :
    Repeats data (pos - source) pos (pos + minCopy) := by
  refine ⟨Nat.sub_pos_of_lt hlt, Nat.sub_le pos source, ?_⟩
  intro i hstart hstop
  have hbyte := byteAt_of_numberAt (i := i - pos) (beq_iff_eq.mp h) (by omega)
  rwa [show source + (i - pos) = i - (pos - source) by omega,
    show pos + (i - pos) = i by omega] at hbyte

theorem byteAt_of_lt_repeatEnd {i : Nat} (hstart : pos ≤ i)
    (hstop : i < repeatEnd data source pos limit) :
    byteAt data (source + (i - pos)) = byteAt data i := by
  fun_induction repeatEnd data source pos limit with
  | case1 source pos hlimit heq ih =>
      rcases Nat.eq_or_lt_of_le hstart with rfl | hlater
      · rwa [Nat.sub_self, Nat.add_zero]
      · rw [show source + (i - pos) = source + 1 + (i - (pos + 1)) by omega]
        exact ih hlater hstop
  | case2 source pos hlimit hne => exact absurd hstop (Nat.not_lt.mpr hstart)
  | case3 source pos hlimit => exact absurd hstop (Nat.not_lt.mpr hstart)

theorem repeatEnd_le (h : pos ≤ limit) : repeatEnd data source pos limit ≤ limit := by
  fun_induction repeatEnd data source pos limit with
  | case1 source pos hlimit heq ih => exact ih hlimit
  | case2 source pos hlimit hne => exact h
  | case3 source pos hlimit => exact h

theorem repeatedBefore_le : repeatedBefore data source pos most ≤ most := by
  induction most generalizing source pos with
  | zero => exact Nat.le_refl 0
  | succ most ih =>
      rw [repeatedBefore]
      split
      · exact Nat.succ_le_succ ih
      · exact Nat.zero_le _

theorem byteAt_of_le_repeatedBefore {i : Nat}
    (hi : i < repeatedBefore data source pos most) :
    byteAt data (source - (i + 1)) = byteAt data (pos - (i + 1)) := by
  induction most generalizing source pos i with
  | zero => exact absurd hi (Nat.not_lt_zero i)
  | succ most ih =>
      rw [repeatedBefore] at hi
      split at hi
      · next heq =>
          cases i with
          | zero => exact heq
          | succ i =>
              have hbyte := ih (Nat.lt_of_succ_lt_succ hi)
              rwa [Nat.sub_sub, Nat.sub_sub, Nat.add_comm 1] at hbyte
      · exact absurd hi (Nat.not_lt_zero i)

theorem repeats_repeatedBefore (hlt : source < pos) (hmost : most ≤ source) :
    Repeats data (pos - source) (pos - repeatedBefore data source pos most) pos := by
  have hle : repeatedBefore data source pos most ≤ most := repeatedBefore_le
  refine ⟨Nat.sub_pos_of_lt hlt, by omega, ?_⟩
  intro i hstart hstop
  have hbyte := byteAt_of_le_repeatedBefore (i := pos - i - 1)
    (show pos - i - 1 < repeatedBefore data source pos most by omega)
  rwa [show source - (pos - i - 1 + 1) = i - (pos - source) by omega,
    show pos - (pos - i - 1 + 1) = i by omega] at hbyte

theorem repeats_copyEnd (hlt : source < pos) (h : agrees data source pos = true) :
    Repeats data (pos - source) pos (copyEnd data source pos limit).1 := by
  refine (repeats_of_agrees hlt h).append ⟨Nat.sub_pos_of_lt hlt, by omega, ?_⟩
  intro i hstart hstop
  have hbyte := byteAt_of_lt_repeatEnd hstart hstop
  rwa [show source + minCopy + (i - (pos + minCopy)) = i - (pos - source) by omega] at hbyte

/-- A repetition from `start` up to `stop` that a block can name. -/
structure Nameable (data : ByteArray) (offset start stop : Nat) : Prop
    extends Repeats data offset start stop where
  offset_lt : offset < 65536
  min_le : start + minCopy ≤ stop
  stop_le : stop ≤ data.size

theorem nameable_copyEnd (hlt : source < pos) (h : agrees data source pos = true)
    (hoffset : pos - source < 65536) (hmost : most ≤ source) (hreach : pos + minCopy ≤ limit)
    (hlimit : limit ≤ data.size) :
    Nameable data (pos - source) (pos - repeatedBefore data source pos most)
      (copyEnd data source pos limit).1 := by
  have hbefore : repeatedBefore data source pos most ≤ most := repeatedBefore_le
  have hstop : (copyEnd data source pos limit).1 ≤ limit := repeatEnd_le hreach
  have hmin : pos + minCopy ≤ (copyEnd data source pos limit).1 := le_repeatEnd ..
  refine ⟨?_, hoffset, by omega, by omega⟩
  exact (repeats_repeatedBefore hlt hmost).append (repeats_copyEnd hlt h)

/-- Pieces of a text from `start` on: repetitions, with or without bytes before them, and what a
format puts at the end. -/
inductive Chain (ending : Nat → List Piece) (data : ByteArray) : Nat → List Piece → Prop
  | last {start : Nat} (le : start ≤ data.size) : Chain ending data start (ending start)
  | copy {offset start pos stop : Nat} {rest : List Piece} (le : start ≤ pos)
      (nameable : Nameable data offset pos stop) (others : Chain ending data stop rest) :
      Chain ending data start (addLiteral data start pos [] ++ .copy offset (stop - pos) :: rest)

theorem reverse_addLiteral (data : ByteArray) (start stop : Nat) (done : List Piece) :
    (addLiteral data start stop done).reverse = done.reverse ++ addLiteral data start stop [] := by
  unfold addLiteral
  split
  · exact List.reverse_cons
  · exact (List.append_nil _).symm

theorem getD_setIfInBounds_lt {recent : Array Nat} {bound : Nat}
    (hrecent : ∀ key, recent.getD key 0 < bound) {value : Nat} (hvalue : value < bound)
    (slot key : Nat) : (recent.setIfInBounds slot value).getD key 0 < bound := by
  rw [Array.getD_eq_getD_getElem?, Array.getElem?_setIfInBounds]
  split
  · split
    · exact hvalue
    · exact Nat.zero_lt_of_lt hvalue
  · rw [← Array.getD_eq_getD_getElem?]
    exact hrecent key

theorem getD_replicate_lt (count : Nat) (key : Nat) : (Array.replicate count 0).getD key 0 < 1 := by
  rw [Array.getD_eq_getD_getElem?, Array.getElem?_replicate]
  split <;> exact Nat.one_pos

/-- What was decoded ends with the first bytes of a text. -/
structure Holds (before content : Bytes) (pos : Nat) (out : ByteArray) : Prop where
  le : pos ≤ content.length
  eq : out.data.toList = before ++ content.take pos

namespace Holds

variable {before content : Bytes} {out : ByteArray} {count : Nat}

theorem size (h : Holds before content pos out) : out.size = before.length + pos := by
  have hlength := congrArg List.length h.eq
  rw [List.length_append, List.length_take, Nat.min_eq_left h.le] at hlength
  exact hlength

theorem literal (h : Holds before content start out) (hle : start ≤ stop)
    (hstop : stop ≤ content.length) :
    Holds before content stop (out ++ (slice content.toByteArray start stop).toByteArray) := by
  refine ⟨hstop, ?_⟩
  rw [ByteArray.data_append, Array.toList_append, h.eq, toList_toByteArray, slice_toByteArray,
    List.append_assoc]
  rw [← List.take_add, Nat.add_sub_cancel' hle]

theorem push (h : Holds before content pos out) (hlt : pos < content.length) {byte : UInt8}
    (hbyte : byte = byteAt content.toByteArray pos) :
    Holds before content (pos + 1) (out.push byte) := by
  refine ⟨hlt, ?_⟩
  rw [ByteArray.data_push, Array.toList_push, h.eq, hbyte, byteAt_toByteArray,
    List.getElem?_eq_getElem hlt, List.take_succ_eq_append_getElem hlt, List.append_assoc]
  rfl

theorem byteAt_sub (h : Holds before content pos out) (hpos : 0 < offset) (hle : offset ≤ pos) :
    byteAt out (out.size - offset) = byteAt content.toByteArray (pos - offset) := by
  rw [byteAt_toByteArray, byteAt_eq, h.size, h.eq, List.getElem?_append_right (by omega),
    show before.length + pos - offset - before.length = pos - offset by omega,
    List.getElem?_take_of_lt (by omega)]

/-- A copy of bytes that repeat themselves goes on with the text, also where it reads what it has
just written. -/
theorem copyBack (h : Holds before content pos out) (hstop : pos + count ≤ content.length)
    (hrepeats : Repeats content.toByteArray offset pos (pos + count)) :
    Holds before content (pos + count) (Lz4.copyBack offset count out) := by
  induction count generalizing pos out with
  | zero => exact h
  | succ count ih =>
      have hbyte := h.byteAt_sub hrepeats.pos hrepeats.le
      rw [hrepeats.eq pos (Nat.le_refl pos) (by omega)] at hbyte
      have hnext := ih (h.push (by omega) hbyte) (by omega)
        (hrepeats.within (Nat.le_succ pos) (by omega))
      rwa [Nat.add_right_comm, Nat.add_assoc] at hnext

end Holds

end CqlClient.Factor
