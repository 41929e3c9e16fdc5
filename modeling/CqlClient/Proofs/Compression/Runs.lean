import CqlClient.Proofs.Compression.Lz4

namespace CqlClient.Lz4

open Factor

/-- The most bytes that a piece takes in a block. -/
def cost : Piece → Nat
  | .literal bytes => bytes.length + bytes.length / 255 + 2
  | .copy _ length => length / 255 + 4

def totalCost : List Piece → Nat
  | [] => 0
  | piece :: rest => cost piece + totalCost rest

theorem length_extensionBytes (length : Nat) :
    (if length < 15 then [] else extensionBytes length).length ≤ length / 255 + 1 := by
  split
  · exact Nat.zero_le _
  · rw [extensionBytes, List.length_append, List.length_replicate, List.length_singleton]
    omega

theorem length_sequenceBytes_none (literal : Bytes) :
    (sequenceBytes literal none).length ≤ cost (.literal literal) := by
  have hliteral := length_extensionBytes literal.length
  simp only [sequenceBytes, List.length_cons, List.length_append, List.length_nil, cost]
  omega

theorem length_sequenceBytes_some (literal : Bytes) (offset length : Nat) :
    (sequenceBytes literal (some (offset, length))).length ≤
      cost (.literal literal) + cost (.copy offset length) := by
  have hliteral := length_extensionBytes literal.length
  have hcopy := length_extensionBytes (length - minCopy)
  simp only [sequenceBytes, List.length_cons, List.length_append, cost]
  omega

theorem length_sequenceBytes_nil (offset length : Nat) :
    (sequenceBytes [] (some (offset, length))).length ≤ cost (.copy offset length) := by
  have hcopy := length_extensionBytes (length - minCopy)
  simp only [sequenceBytes, List.length_cons, List.length_append, List.length_nil, cost]
  rw [if_pos (by decide), List.length_nil]
  omega

theorem length_encode_le (pieces : List Piece) :
    (encode pieces).flatten.length ≤ totalCost pieces := by
  fun_induction encode pieces with
  | case1 => exact Nat.le_refl 0
  | case2 bytes offset length rest ih =>
      have hfirst := length_sequenceBytes_some bytes offset length
      rw [List.flatten_cons, List.length_append, totalCost, totalCost]
      omega
  | case3 bytes rest hrest ih =>
      have hfirst := length_sequenceBytes_none bytes
      rw [List.flatten_cons, List.length_append, totalCost]
      omega
  | case4 offset length rest ih =>
      have hfirst := length_sequenceBytes_nil offset length
      rw [List.flatten_cons, List.length_append, totalCost]
      omega

/-- Whether nothing near before a position starts with the same four bytes. -/
def Fresh (data : ByteArray) (pos : Nat) : Prop :=
  ∀ source, source < pos → pos ≤ source + maxOffset → agrees data source pos = false

/-- What the search knows of positions it has passed. -/
structure Knows (recent : Array Nat) (pos : Nat) : Prop where
  size : recent.size = slotCount
  lt : ∀ key, recent.getD key 0 < pos

/-- All bytes from `start` up to `stop` are the same. -/
def IsRun (data : ByteArray) (byte : UInt8) (start stop : Nat) : Prop :=
  ∀ i, start ≤ i → i < stop → byteAt data i = byte

variable {data : ByteArray} {byte : UInt8} {pos start stop source limit misses : Nat}
  {recent : Array Nat}

theorem Knows.set (h : Knows recent pos) (hle : pos ≤ stop) {value : Nat} (hvalue : value < stop)
    (key : Nat) : Knows (recent.setIfInBounds key value) stop where
  size := by rw [Array.size_setIfInBounds, h.size]
  lt := getD_setIfInBounds_lt (fun key => Nat.lt_of_lt_of_le (h.lt key) hle) hvalue key

theorem Knows.getD_set (h : Knows recent pos) {key : Nat} (hkey : key < slotCount) (value : Nat) :
    (recent.setIfInBounds key value).getD key 0 = value := by
  rw [Array.getD_eq_getD_getElem?,
    Array.getElem?_setIfInBounds_self_of_lt (by rw [h.size]; exact hkey)]
  rfl

theorem numberAt_of_isRun {width : Nat} (h : IsRun data byte start stop) (hpos : start ≤ pos)
    (hsource : start ≤ source) (hstop : pos + width ≤ stop) (hend : source + width ≤ stop) :
    numberAt data source width = numberAt data pos width := by
  induction width generalizing source pos with
  | zero => rfl
  | succ width ih =>
      have hrest : numberAt data (source + 1) width = numberAt data (pos + 1) width :=
        ih (by omega) (by omega) (by omega) (by omega)
      rw [numberAt, numberAt, h pos hpos (by omega), h source hsource (by omega), hrest]

theorem agrees_of_isRun (h : IsRun data byte pos stop) (hlong : pos + 1 + minCopy ≤ stop) :
    agrees data pos (pos + 1) = true := by
  rw [agrees, beq_iff_eq]
  exact numberAt_of_isRun h (Nat.le_add_right pos 1) (Nat.le_refl pos) hlong (by omega)

theorem repeatedBefore_of_ne {most : Nat} (h : byteAt data (source - 1) ≠ byteAt data (pos - 1)) :
    repeatedBefore data source pos most = 0 := by
  cases most with
  | zero => rfl
  | succ most => rw [repeatedBefore, if_neg h]

theorem repeatEnd_of_isRun (h : IsRun data byte start stop) (hsource : start ≤ source)
    (hlt : source < pos) (hpos : pos ≤ stop) (hlimit : stop ≤ limit)
    (hend : stop = limit ∨ byteAt data stop ≠ byte) :
    repeatEnd data source pos limit = stop := by
  fun_induction repeatEnd data source pos limit with
  | case1 source pos hinside heq ih =>
      refine ih (by omega) (by omega) ?_
      -- The run cannot end here, as the byte is that of the run.
      rcases Nat.eq_or_lt_of_le hpos with rfl | hbefore
      · rw [h source hsource hlt] at heq
        rcases hend with rfl | hne
        · exact absurd hinside (Nat.lt_irrefl _)
        · exact absurd heq.symm hne
      · exact hbefore
  | case2 source pos hinside hne =>
      rcases Nat.eq_or_lt_of_le hpos with heq | hbefore
      · exact heq
      · rw [h source hsource (by omega), h pos (by omega) hbefore] at hne
        exact absurd rfl hne
  | case3 source pos houtside => omega

section Search

variable (slot : Nat → Nat) (start) (done : List Piece)

theorem piecesFrom_fresh (hinside : pos + startMargin ≤ data.size) (hknows : Knows recent pos)
    (hfresh : Fresh data pos) (hmisses : misses < 32) :
    piecesFrom slot data start pos misses recent done =
      piecesFrom slot data start (pos + 1) (misses + 1) (recent.setIfInBounds (slot pos) pos)
        done := by
  have hmiss : ¬(pos ≤ recent.getD (slot pos) 0 + maxOffset ∧
      agrees data (recent.getD (slot pos) 0) pos = true) := by
    rintro ⟨hnear, hagrees⟩
    rw [hfresh _ (hknows.lt _) hnear] at hagrees
    exact nomatch hagrees
  rw [piecesFrom]
  simp only [if_pos hinside, if_neg hmiss]
  rw [Nat.div_eq_of_lt hmisses, Nat.add_zero]

theorem exists_piecesFrom_fresh {count : Nat} (hinside : pos + count + startMargin ≤ data.size + 1)
    (hknows : Knows recent pos) (hfresh : ∀ i, pos ≤ i → i < pos + count → Fresh data i)
    (hmisses : misses + count ≤ 32) :
    ∃ passed, Knows passed (pos + count) ∧
      piecesFrom slot data start pos misses recent done =
        piecesFrom slot data start (pos + count) (misses + count) passed done := by
  induction count generalizing pos misses recent with
  | zero => exact ⟨recent, hknows, rfl⟩
  | succ count ih =>
      have hfirst := piecesFrom_fresh start slot done (by omega) hknows
        (hfresh pos (Nat.le_refl pos) (by omega)) (by omega : misses < 32)
      have hlater : ∀ i, pos + 1 ≤ i → i < pos + 1 + count → Fresh data i :=
        fun i hi hend => hfresh i (by omega) (by omega)
      obtain ⟨passed, hpassed, hrest⟩ := ih (by omega)
        (hknows.set (Nat.le_add_right pos 1) (Nat.lt_add_one pos) (slot pos)) hlater
        (by omega : misses + 1 + count ≤ 32)
      rw [Nat.add_right_comm, Nat.add_assoc] at hpassed hrest
      rw [Nat.add_right_comm misses, Nat.add_assoc misses] at hrest
      exact ⟨passed, hpassed, hfirst.trans hrest⟩

/-- Where a run begins, its first byte is passed, and the others repeat it to the end of the run. -/
theorem exists_piecesFrom_run (hknows : Knows recent pos) (hpos : 0 < pos) (hfresh : Fresh data pos)
    (hmisses : misses < 32) (hrun : IsRun data byte pos stop)
    (hbefore : byteAt data (pos - 1) ≠ byte)
    (hlong : pos + startMargin < stop) (hlimit : stop ≤ data.size - endMargin)
    (hend : stop = data.size - endMargin ∨ byteAt data stop ≠ byte)
    (hslot : slot pos < slotCount) (hsame : slot (pos + 1) = slot pos) :
    ∃ passed, Knows passed stop ∧
      piecesFrom slot data start pos misses recent done =
        piecesFrom slot data stop stop 0 passed
          (.copy 1 (stop - (pos + 1)) :: addLiteral data start (pos + 1) done) := by
  simp only [startMargin, endMargin] at hlong hlimit
  have hfirst := piecesFrom_fresh start slot done
    (show pos + startMargin ≤ data.size by simp only [startMargin]; omega) hknows hfresh hmisses
  have hpassed := hknows.set (Nat.le_add_right pos 1) (Nat.lt_add_one pos) (slot pos)
  generalize hset : recent.setIfInBounds (slot pos) pos = passed at hfirst hpassed
  have hsource : passed.getD (slot (pos + 1)) 0 = pos := by
    rw [hsame, ← hset]
    exact hknows.getD_set hslot pos
  have hagrees : agrees data pos (pos + 1) = true :=
    agrees_of_isRun hrun (by simp only [minCopy]; omega)
  have hrepeated : repeatedBefore data pos (pos + 1) (min pos (pos + 1 - start)) = 0 := by
    refine repeatedBefore_of_ne ?_
    rwa [Nat.add_sub_cancel, hrun pos (Nat.le_refl pos) (by omega)]
  have hstop : repeatEnd data (pos + minCopy) (pos + 1 + minCopy) (data.size - endMargin) = stop :=
    repeatEnd_of_isRun hrun (Nat.le_add_right pos minCopy) (by omega)
      (by simp only [minCopy]; omega) (by simp only [endMargin]; omega) hend
  rw [hfirst, piecesFrom, if_pos (show pos + 1 + startMargin ≤ data.size by
    simp only [startMargin]; omega)]
  simp only [hsource]
  rw [if_pos ⟨Nat.le_trans (Nat.add_le_add_left (by decide) pos) (Nat.le_refl _), hagrees⟩]
  simp only [copyEnd, hstop, hrepeated, Nat.sub_zero]
  rw [Nat.add_sub_cancel_left]
  refine ⟨_, ?_, rfl⟩
  exact (hpassed.set (by omega) (by omega) _).set (Nat.le_refl stop) (by omega) _

end Search

theorem slot_eq (h : maxOffset ≤ data.size) : slot data = slotOfFive data := by
  rw [slot, if_neg (Nat.not_lt.mpr h)]

theorem slotOfFive_lt (data : ByteArray) (pos : Nat) : slotOfFive data pos < slotCount := by
  rw [slotOfFive, UInt64.toNat_shiftRight, Nat.shiftRight_eq_div_pow]
  exact Nat.div_lt_of_lt_mul (UInt64.toNat_lt _)

theorem slotOfFive_of_isRun (h : IsRun data byte pos stop) (hlong : pos + 6 ≤ stop) :
    slotOfFive data (pos + 1) = slotOfFive data pos := by
  have hnumber : numberAt data (pos + 1) 5 = numberAt data pos 5 :=
    numberAt_of_isRun h (Nat.le_refl pos) (Nat.le_add_right pos 1) (by omega) (by omega)
  rw [slotOfFive, slotOfFive, hnumber]

/-- A short front and two long runs. -/
structure TwoRuns (data : ByteArray) (first second : UInt8) (front middle : Nat) : Prop where
  pos : 0 < front
  front_le : front ≤ 32
  fresh : ∀ pos, 0 < pos → pos ≤ front → Fresh data pos
  before : byteAt data (front - 1) ≠ first
  ne : first ≠ second
  firstRun : IsRun data first front middle
  secondRun : IsRun data second middle data.size
  first_long : front + maxOffset ≤ middle
  second_long : middle + 32 ≤ data.size

variable {first second : UInt8} {front middle : Nat}

theorem TwoRuns.fresh_middle (h : TwoRuns data first second front middle) : Fresh data middle := by
  have hlong := h.first_long
  have hroom := h.second_long
  intro source hlt hnear
  rw [Bool.eq_false_iff]
  intro hagrees
  have hbyte := byteAt_of_numberAt (beq_iff_eq.mp hagrees) (by decide : 0 < minCopy)
  rw [Nat.add_zero, Nat.add_zero, h.firstRun source (by omega) hlt,
    h.secondRun middle (Nat.le_refl middle) (by omega)] at hbyte
  exact h.ne hbyte

theorem TwoRuns.piecesFrom_eq (h : TwoRuns data first second front middle) :
    piecesFrom (slot data) data 0 1 0 (Array.replicate slotCount 0) [] =
      [.literal (slice data 0 (front + 1)), .copy 1 (middle - (front + 1)),
        .literal (slice data middle (middle + 1)), .copy 1 (data.size - endMargin - (middle + 1)),
        .literal (slice data (data.size - endMargin) data.size)] := by
  have hlong := h.first_long
  have hroom := h.second_long
  have hfront := h.pos
  have hshort := h.front_le
  simp only [maxOffset] at hlong
  have hbegin : Knows (Array.replicate slotCount 0) 1 :=
    ⟨Array.size_replicate, getD_replicate_lt slotCount⟩
  have hpassing : 1 + (front - 1) = front := by omega
  have hfresh : ∀ i, 1 ≤ i → i < 1 + (front - 1) → Fresh data i :=
    fun i hi hend => h.fresh i hi (by omega)
  obtain ⟨passed, hpassed, hheader⟩ := exists_piecesFrom_fresh 0 (slotOfFive data) []
    (by simp only [startMargin]; omega) hbegin hfresh (by omega : 0 + (front - 1) ≤ 32)
  rw [hpassing] at hpassed hheader
  obtain ⟨later, hlater, hfirst⟩ := exists_piecesFrom_run 0 (slotOfFive data) [] hpassed h.pos
    (h.fresh front h.pos (Nat.le_refl front)) (by omega : 0 + (front - 1) < 32) h.firstRun h.before
    (by simp only [startMargin]; omega) (by simp only [endMargin]; omega)
    (.inr (by rw [h.secondRun middle (Nat.le_refl middle) (by omega)]; exact h.ne.symm))
    (slotOfFive_lt data front) (slotOfFive_of_isRun h.firstRun (by omega))
  have hsecondRun : IsRun data second middle (data.size - endMargin) :=
    fun i hi hend => h.secondRun i hi (Nat.lt_of_lt_of_le hend (Nat.sub_le ..))
  obtain ⟨last, -, hsecond⟩ := exists_piecesFrom_run middle (slotOfFive data)
    (.copy 1 (middle - (front + 1)) :: addLiteral data 0 (front + 1) []) hlater (by omega)
    h.fresh_middle (by decide : 0 < 32) hsecondRun
    (by rw [h.firstRun (middle - 1) (by omega) (by omega)]; exact h.ne)
    (by simp only [startMargin, endMargin]; omega) (Nat.le_refl _) (.inl rfl)
    (slotOfFive_lt data middle)
    (slotOfFive_of_isRun hsecondRun (by simp only [endMargin]; omega))
  rw [slot_eq (by simp only [maxOffset]; omega), hheader, hfirst, hsecond, piecesFrom,
    if_neg (by simp only [startMargin, endMargin]; omega)]
  simp [addLiteral]

/-- Long runs take little more than one byte of 255. -/
theorem TwoRuns.length_compress_le {bytes : Bytes}
    (h : TwoRuns bytes.toByteArray first second front middle) :
    (compress bytes).length ≤ bytes.length / 255 + 64 := by
  have hlong := h.first_long
  have hroom := h.second_long
  have hfront := h.front_le
  rw [List.size_toByteArray] at hroom
  simp only [maxOffset] at hlong
  have hlimit : ¬bytes.length ≤ startMargin := by
    simp only [startMargin]
    omega
  have hbound := length_encode_le (pieces bytes)
  rw [← compress, pieces, if_neg hlimit, h.piecesFrom_eq] at hbound
  refine Nat.le_trans hbound ?_
  simp only [totalCost, cost, List.size_toByteArray, endMargin]
  rw [length_slice (by omega), length_slice (by omega), length_slice (Nat.le_refl _)]
  omega

theorem numberAt_congr {other : ByteArray} {width : Nat}
    (h : ∀ i, i < limit → byteAt data i = byteAt other i) (hwidth : pos + width ≤ limit) :
    numberAt data pos width = numberAt other pos width := by
  induction width generalizing pos with
  | zero => rfl
  | succ width ih => rw [numberAt, numberAt, h pos (by omega), ih (by omega)]

/-- Whether the front of a text tells that nothing in it starts like what comes later. -/
def Distinct (front : Bytes) (byte : UInt8) : Prop :=
  ∀ pos, pos ≤ front.length → ∀ source, source < pos →
    agrees (front ++ List.replicate minCopy byte).toByteArray source pos = false

variable {front : Bytes} {a b : Nat}

/-- A text of a front and two runs. -/
def runs (front : Bytes) (a : Nat) (first : UInt8) (b : Nat) (second : UInt8) : Bytes :=
  front ++ (List.replicate a first ++ List.replicate b second)

theorem length_runs : (runs front a first b second).length = front.length + a + b := by
  simp only [runs, List.length_append, List.length_replicate, Nat.add_assoc]

theorem byteAt_runs_front {i : Nat} (hi : i < front.length) :
    byteAt (runs front a first b second).toByteArray i = front[i]?.getD 0 := by
  rw [byteAt_toByteArray, runs, List.getElem?_append_left hi]

theorem isRun_runs_first : IsRun (runs front a first b second).toByteArray first front.length
    (front.length + a) := by
  intro i hi hend
  have hlt : i - front.length < (List.replicate a first).length := by
    rw [List.length_replicate]
    omega
  rw [byteAt_toByteArray, runs, List.getElem?_append_right hi, List.getElem?_append_left hlt,
    List.getElem?_replicate_of_lt (by omega)]
  rfl

theorem isRun_runs_second : IsRun (runs front a first b second).toByteArray second
    (front.length + a) (front.length + a + b) := by
  intro i hi hend
  rw [byteAt_toByteArray, runs, List.getElem?_append_right (by omega),
    List.getElem?_append_right (by rw [List.length_replicate]; omega), List.length_replicate,
    List.getElem?_replicate_of_lt (by omega)]
  rfl

theorem fresh_runs (hdistinct : Distinct front first) (ha : minCopy ≤ a) {pos : Nat}
    (hpos : pos ≤ front.length) : Fresh (runs front a first b second).toByteArray pos := by
  simp only [minCopy] at ha
  -- Up to four bytes behind the front the text is the one of which the front tells.
  have hbytes : ∀ i, i < front.length + minCopy →
      byteAt (runs front a first b second).toByteArray i =
        byteAt (front ++ List.replicate minCopy first).toByteArray i := by
    intro i hi
    rw [byteAt_toByteArray (front ++ _)]
    rcases Nat.lt_or_ge i front.length with hfront | hrun
    · rw [byteAt_runs_front hfront, List.getElem?_append_left hfront]
    · simp only [minCopy] at hi ⊢
      rw [isRun_runs_first i hrun (by omega), List.getElem?_append_right hrun,
        List.getElem?_replicate_of_lt (by omega)]
      rfl
  intro source hlt hnear
  rw [agrees, numberAt_congr hbytes (by omega), numberAt_congr hbytes (by omega)]
  exact hdistinct pos hpos source hlt

theorem twoRuns_runs (hpos : front ≠ []) (hfront : front.length ≤ 32)
    (hdistinct : Distinct front first) (hlast : front.getLast?.getD 0 ≠ first)
    (hne : first ≠ second) (ha : maxOffset ≤ a) (hb : 32 ≤ b) :
    TwoRuns (runs front a first b second).toByteArray first second front.length
      (front.length + a) where
  pos := List.length_pos_iff.mpr hpos
  front_le := hfront
  fresh pos _ hle := fresh_runs hdistinct (Nat.le_trans (by decide) ha) hle
  before := by
    have hlength := List.length_pos_iff.mpr hpos
    rw [byteAt_runs_front (by omega), ← List.getLast?_eq_getElem?]
    exact hlast
  ne := hne
  firstRun := isRun_runs_first
  secondRun := by
    rw [List.size_toByteArray, length_runs]
    exact isRun_runs_second
  first_long := Nat.add_le_add_left ha front.length
  second_long := by
    rw [List.size_toByteArray, length_runs]
    exact Nat.add_le_add_left hb _

end CqlClient.Lz4
