import Mathlib.Data.List.Basic
import CqlClient.Wire.Writer

/-!
What is written is read back. A reader takes just the bytes written for a value and leaves whatever
follows; the laws compose along the parts of a message, in the order in which they are written.
Writing succeeds exactly if every length fits its field.
-/

namespace CqlClient

namespace Bytes

/-- The bytes can follow a length of two bytes. -/
def FitsShort (bytes : Bytes) : Prop := bytes.length ≤ 0xFFFF

/-- The bytes can follow a length of four bytes, which is signed. -/
def FitsInt (bytes : Bytes) : Prop := bytes.length ≤ 0x7FFFFFFF

instance (bytes : Bytes) : Decidable bytes.FitsShort := Nat.decLe _ _

instance (bytes : Bytes) : Decidable bytes.FitsInt := Nat.decLe _ _

end Bytes

namespace Write

/-- There are bytes for the value. -/
def Succeeds (written : Written) : Prop := ∃ bytes, written = .ok bytes

@[simp]
theorem succeeds_ok (bytes : Bytes) : Succeeds (.ok bytes) := ⟨bytes, rfl⟩

@[simp]
theorem succeeds_map {f : Bytes → Bytes} {written : Written} :
    Succeeds (f <$> written) ↔ Succeeds written := by
  cases written with
  | ok bytes => exact iff_of_true ⟨f bytes, rfl⟩ ⟨bytes, rfl⟩
  | error e => exact iff_of_false nofun nofun

theorem concat_cons_eq_ok_iff {part : Written} {parts : List Written} {bytes : Bytes} :
    concat (part :: parts) = .ok bytes ↔
      ∃ front back, part = .ok front ∧ concat parts = .ok back ∧ bytes = front ++ back := by
  rw [concat_cons]
  cases part with
  | error e => exact iff_of_false nofun (by rintro ⟨front, back, h, -⟩; exact nomatch h)
  | ok front =>
      cases hparts : concat parts with
      | error e =>
          refine iff_of_false nofun ?_
          rintro ⟨front, back, -, h, -⟩
          exact nomatch h
      | ok back =>
          constructor
          · intro h
            exact ⟨front, back, rfl, rfl, (Except.ok.inj h).symm⟩
          · rintro ⟨front', back', hfront, hback, rfl⟩
            obtain rfl := Except.ok.inj hfront
            obtain rfl := Except.ok.inj hback
            rfl

@[simp]
theorem succeeds_concat {parts : List Written} :
    Succeeds (concat parts) ↔ ∀ part ∈ parts, Succeeds part := by
  induction parts with
  | nil => simp
  | cons part parts ih =>
      rw [List.forall_mem_cons, ← ih]
      constructor
      · rintro ⟨bytes, h⟩
        obtain ⟨front, back, hfront, hback, -⟩ := concat_cons_eq_ok_iff.mp h
        exact ⟨⟨front, hfront⟩, back, hback⟩
      · rintro ⟨⟨front, hfront⟩, back, hback⟩
        exact ⟨front ++ back, concat_cons_eq_ok_iff.mpr ⟨front, back, hfront, hback, rfl⟩⟩

theorem concat_append_eq_ok_iff {parts more : List Written} {bytes : Bytes} :
    concat (parts ++ more) = .ok bytes ↔
      ∃ front back, concat parts = .ok front ∧ concat more = .ok back ∧ bytes = front ++ back := by
  induction parts generalizing bytes with
  | nil => simp [eq_comm]
  | cons part parts ih =>
      rw [List.cons_append, concat_cons_eq_ok_iff]
      constructor
      · rintro ⟨first, rest, hfirst, hrest, rfl⟩
        obtain ⟨front, back, hfront, hback, rfl⟩ := ih.mp hrest
        exact ⟨first ++ front, back,
          concat_cons_eq_ok_iff.mpr ⟨first, front, hfirst, hfront, rfl⟩, hback,
          (List.append_assoc ..).symm⟩
      · rintro ⟨whole, back, hwhole, hback, rfl⟩
        obtain ⟨first, front, hfirst, hfront, rfl⟩ := concat_cons_eq_ok_iff.mp hwhole
        exact ⟨first, front ++ back, hfirst, ih.mpr ⟨front, back, hfront, hback, rfl⟩,
          List.append_assoc ..⟩

theorem concat_flatten_eq_ok_iff {groups : List (List Written)} {bytes : Bytes} :
    concat groups.flatten = .ok bytes ↔ concat (groups.map concat) = .ok bytes := by
  induction groups generalizing bytes with
  | nil => exact Iff.rfl
  | cons group groups ih =>
      rw [List.flatten_cons, List.map_cons, concat_append_eq_ok_iff, concat_cons_eq_ok_iff]
      simp only [ih]

@[simp]
theorem concat_singleton (part : Written) : concat [part] = part := by
  rw [concat_cons]
  cases part <;> simp [Except.bind, Functor.map, Except.map]

theorem append_map_eq_concat (front : Bytes) (part : Written) :
    (front ++ ·) <$> part = concat [.ok front, part] := by
  rw [concat_cons, concat_singleton]
  rfl

theorem map_append_eq_concat (part : Written) (back : Bytes) :
    (· ++ back) <$> part = concat [part, .ok back] := by
  rw [concat_cons, concat_singleton]
  cases part <;> rfl

theorem concat_ok_append_cons (front back : Bytes) (parts : List Written) :
    concat (.ok (front ++ back) :: parts) = concat (.ok front :: .ok back :: parts) := by
  simp only [concat_cons, Except.bind]
  cases concat parts <;> simp [Functor.map, Except.map]

theorem concat_ok_nil_cons (parts : List Written) : concat (.ok [] :: parts) = concat parts := by
  rw [concat_cons]
  cases concat parts <;> simp [Except.bind, Functor.map, Except.map]

@[simp]
theorem succeeds_intLength {length : Nat} : Succeeds (intLength length) ↔ length ≤ 0x7FFFFFFF := by
  unfold intLength
  split
  · exact iff_of_true (succeeds_ok _) (by omega)
  · exact iff_of_false nofun (by omega)

theorem succeeds_ite_short {length : Nat} {e : ParseError} :
    Succeeds (if length < UInt16.size then .ok (Bytes.ofNat 2 length) else .error e) ↔
      length ≤ 0xFFFF := by
  split
  · next h => exact iff_of_true (succeeds_ok _) (by rw [UInt16.size] at h; omega)
  · next h => exact iff_of_false nofun (by rw [UInt16.size] at h; omega)

@[simp]
theorem succeeds_shortLength {length : Nat} : Succeeds (shortLength length) ↔ length ≤ 0xFFFF :=
  succeeds_ite_short

@[simp]
theorem succeeds_bytes {value : Bytes} : Succeeds (bytes value) ↔ value.FitsInt := by
  rw [bytes, succeeds_map, succeeds_intLength, Bytes.FitsInt]

@[simp]
theorem succeeds_bytesOpt {value : Option Bytes} :
    Succeeds (bytesOpt value) ↔ ∀ present ∈ value, present.FitsInt := by
  cases value <;> simp [bytesOpt]

@[simp]
theorem succeeds_shortBytes {value : Bytes} : Succeeds (shortBytes value) ↔ value.FitsShort := by
  rw [shortBytes, succeeds_map, succeeds_shortLength, Bytes.FitsShort]

@[simp]
theorem succeeds_string {text : String} :
    Succeeds (string text) ↔ (Bytes.ofString text).FitsShort :=
  succeeds_shortBytes

@[simp]
theorem succeeds_longString {text : String} :
    Succeeds (longString text) ↔ (Bytes.ofString text).FitsInt :=
  succeeds_bytes

@[simp]
theorem succeeds_counted {α : Type} {write : α → Written} {values : List α} :
    Succeeds (counted write values) ↔
      values.length ≤ 0xFFFF ∧ ∀ value ∈ values, Succeeds (write value) := by
  simp [counted]

end Write

namespace Reader

variable {α β : Type}

/-- In front of any other bytes the reader takes just these, and gives the value. -/
def Reads (reader : Reader α) (bytes : Bytes) (value : α) : Prop :=
  ∀ rest, reader (bytes ++ rest) = .ok (value, rest)

theorem bind_of_ok {reader : Reader α} {next : α → Reader β} {bytes rest : Bytes} {value : α}
    (h : reader bytes = .ok (value, rest)) : (reader >>= next) bytes = next value rest := by
  change (reader bytes >>= fun taken => next taken.1 taken.2) = _
  rw [h]
  rfl

theorem bind_of_error {reader : Reader α} {next : α → Reader β} {bytes : Bytes} {e : ParseError}
    (h : reader bytes = .error e) : (reader >>= next) bytes = .error e := by
  change (reader bytes >>= fun taken => next taken.1 taken.2) = _
  rw [h]
  rfl

theorem reads_pure (value : α) : Reads (pure value) [] value :=
  fun _ => rfl

theorem Reads.bind {reader : Reader α} {next : α → Reader β} {front back : Bytes} {a : α} {b : β}
    (hfront : Reads reader front a) (hback : Reads (next a) back b) :
    Reads (reader >>= next) (front ++ back) b := by
  intro rest
  rw [List.append_assoc, bind_of_ok (hfront (back ++ rest))]
  exact hback rest

theorem Reads.map {reader : Reader α} {bytes : Bytes} {a : α} (h : Reads reader bytes a)
    (f : α → β) : Reads (f <$> reader) bytes (f a) := by
  intro rest
  rw [map_eq_pure_bind, bind_of_ok (h rest)]
  rfl

/-- The bytes written for a value, if there are any, are read as the value. -/
def ReadsBack (reader : Reader α) (written : Written) (value : α) : Prop :=
  ∀ bytes, written = .ok bytes → Reads reader bytes value

theorem Reads.readsBack {reader : Reader α} {bytes : Bytes} {value : α}
    (h : Reads reader bytes value) : ReadsBack reader (.ok bytes) value := by
  intro written hwritten
  obtain rfl := Except.ok.inj hwritten
  exact h

theorem readsBack_pure (value : α) : ReadsBack (pure value) (.ok []) value :=
  (reads_pure value).readsBack

theorem ReadsBack.map {reader : Reader α} {written : Written} {a : α}
    (h : ReadsBack reader written a) (f : α → β) : ReadsBack (f <$> reader) written (f a) :=
  fun bytes hbytes => (h bytes hbytes).map f

theorem ReadsBack.append {reader : Reader α} {next : α → Reader β} {parts more : List Written}
    {a : α} {b : β} (hfront : ReadsBack reader (Write.concat parts) a)
    (hback : ReadsBack (next a) (Write.concat more) b) :
    ReadsBack (reader >>= next) (Write.concat (parts ++ more)) b := by
  intro bytes hbytes
  obtain ⟨front, back, hparts, hmore, rfl⟩ := Write.concat_append_eq_ok_iff.mp hbytes
  exact (hfront front hparts).bind (hback back hmore)

theorem ReadsBack.bind {reader : Reader α} {next : α → Reader β} {part : Written}
    {parts : List Written} {a : α} {b : β} (hfront : ReadsBack reader part a)
    (hback : ReadsBack (next a) (Write.concat parts) b) :
    ReadsBack (reader >>= next) (Write.concat (part :: parts)) b := by
  rw [← List.singleton_append]
  refine ReadsBack.append ?_ hback
  rwa [Write.concat_singleton]

theorem ite_bind {condition : Prop} [Decidable condition] (first second : Reader α)
    (next : α → Reader β) :
    (if condition then first >>= next else second >>= next) =
      (if condition then first else second) >>= next := by
  split <;> rfl

theorem readsBack_optional {condition : Prop} [Decidable condition] {reader : Reader α}
    {write : α → Written} {value : Option α} (hcondition : condition ↔ value.isSome)
    (h : ∀ present ∈ value, ReadsBack reader (write present) present) :
    ReadsBack (if condition then some <$> reader else pure none)
      ((value.map write).getD (.ok [])) value := by
  cases value with
  | none =>
      rw [if_neg (by simp [hcondition])]
      exact readsBack_pure none
  | some value =>
      rw [if_pos (by simp [hcondition])]
      exact (h value rfl).map some

theorem many_go (reader : Reader α) (n : Nat) (done : List α) (bytes : Bytes) :
    many.go reader n done bytes =
      (fun taken => (done.reverse ++ taken.1, taken.2)) <$> many.go reader n [] bytes := by
  induction n generalizing done bytes with
  | zero => simp [many.go, Functor.map, Except.map]
  | succ n ih =>
      simp only [many.go]
      cases reader bytes with
      | error e => rfl
      | ok taken =>
          obtain ⟨value, rest⟩ := taken
          change many.go reader n (value :: done) rest = _ <$> many.go reader n [value] rest
          rw [ih, ih [value]]
          cases many.go reader n [] rest <;> simp [Functor.map, Except.map]

theorem many_succ (reader : Reader α) (n : Nat) :
    many reader (n + 1) = reader >>= fun value => (value :: ·) <$> many reader n := by
  funext bytes
  cases hread : reader bytes with
  | error e =>
      rw [bind_of_error hread]
      simp only [many, many.go, hread]
  | ok taken =>
      obtain ⟨value, rest⟩ := taken
      rw [bind_of_ok hread]
      simp only [many, many.go, hread]
      rw [many_go]
      change _ = many.go reader n [] rest >>= _
      cases many.go reader n [] rest <;> rfl

theorem readsBack_many {reader : Reader α} {write : α → Written} {values : List α}
    (h : ∀ value ∈ values, ReadsBack reader (write value) value) :
    ReadsBack (many reader values.length) (Write.concat (values.map write)) values := by
  induction values with
  | nil => exact readsBack_pure []
  | cons value values ih =>
      rw [List.length_cons, many_succ, List.map_cons]
      refine ReadsBack.bind (h value List.mem_cons_self) ?_
      exact (ih fun other hother => h other (List.mem_cons_of_mem value hother)).map (value :: ·)

theorem reads_raw (bytes : Bytes) : Reads (raw bytes.length) bytes bytes := by
  intro rest
  simp only [raw, Bytes.splitExact?_append rfl]

theorem reads_octets {n : Nat} (octets : Octets n) : Reads (Reader.octets n) octets.val octets := by
  intro rest
  have hsplit := Bytes.splitExact?_append octets.property rest
  unfold Reader.octets
  split
  · next taken rest' h =>
      obtain ⟨rfl, rfl⟩ := Prod.mk.inj (Option.some.inj (h.symm.trans hsplit))
      rfl
  · next h => exact nomatch h.symm.trans hsplit

theorem reads_fixed {width value : Nat} (h : value < Nat.pow 256 width) :
    Reads (fixed width) (Bytes.ofNat width value) value := by
  intro rest
  simp only [fixed, Bytes.splitExact?_append (Bytes.length_ofNat width value), Bytes.toNat_ofNat,
    Nat.mod_eq_of_lt h]

theorem reads_byte (value : UInt8) : Reads byte (Write.byte value) value := by
  have h := (@reads_fixed 1 _ value.toNat_lt).map UInt8.ofNat
  rwa [UInt8.ofNat_toNat, Bytes.ofNat, Bytes.ofNat, UInt8.ofNat_toNat] at h

theorem reads_short (value : UInt16) : Reads short (Write.short value) value := by
  have h := (@reads_fixed 2 _ value.toNat_lt).map UInt16.ofNat
  rwa [UInt16.ofNat_toNat] at h

theorem reads_int (value : Int32) : Reads int (Write.int value) value := by
  have h := (@reads_fixed 4 _ value.toUInt32.toNat_lt).map fun n =>
    (UInt32.ofNat n).toInt32
  rwa [UInt32.ofNat_toNat, Int32.toInt32_toUInt32] at h

theorem reads_int_ofNat {length : Nat} (h : length ≤ 0x7FFFFFFF) :
    ∃ value : Int32, Reads int (Bytes.ofNat 4 length) value ∧ ¬ value < 0 ∧
      value.toInt.toNat = length := by
  have hlt : length < Nat.pow 256 4 := Nat.lt_of_le_of_lt h (by decide)
  have hint : (UInt32.ofNat length).toInt32.toInt = length := by
    rw [UInt32.toInt32_ofNat', Int32.toInt_ofNat_of_lt (by omega)]
  refine ⟨(UInt32.ofNat length).toInt32, (reads_fixed hlt).map _, ?_, ?_⟩
  · rw [Int32.lt_iff_toInt_lt, hint]
    exact Int.not_lt.mpr (Int.natCast_nonneg length)
  · rw [hint]
    exact Int.toNat_natCast length

theorem reads_intLength {length : Nat} (h : length ≤ 0x7FFFFFFF) :
    Reads intLength (Bytes.ofNat 4 length) length := by
  obtain ⟨value, hvalue, hsign, hlength⟩ := reads_int_ofNat h
  rw [← List.append_nil (Bytes.ofNat 4 length)]
  refine hvalue.bind ?_
  rw [if_neg hsign, hlength]
  exact reads_pure length

theorem reads_shortLength {length : Nat} (h : length ≤ 0xFFFF) :
    Reads shortLength (Bytes.ofNat 2 length) length := by
  have hlt : length < UInt16.size := by
    rw [UInt16.size]
    omega
  have hshort := (reads_short (UInt16.ofNat length)).map UInt16.toNat
  rwa [Write.short, UInt16.toNat_ofNat_of_lt' hlt] at hshort

theorem readsBack_intLength (length : Nat) :
    ReadsBack intLength (Write.intLength length) length := by
  intro bytes hbytes
  have hfits := Write.succeeds_intLength.mp ⟨bytes, hbytes⟩
  rw [Write.intLength, if_pos (by omega)] at hbytes
  exact (reads_intLength hfits).readsBack bytes hbytes

theorem readsBack_ite_short (length : Nat) (e : ParseError) :
    ReadsBack shortLength
      (if length < UInt16.size then .ok (Bytes.ofNat 2 length) else .error e) length := by
  intro bytes hbytes
  have hfits := Write.succeeds_ite_short.mp ⟨bytes, hbytes⟩
  rw [if_pos (by rw [UInt16.size]; omega)] at hbytes
  exact (reads_shortLength hfits).readsBack bytes hbytes

theorem readsBack_shortLength (length : Nat) :
    ReadsBack shortLength (Write.shortLength length) length :=
  readsBack_ite_short length _

theorem readsBack_bytes (value : Bytes) : ReadsBack bytes (Write.bytes value) value := by
  rw [Write.bytes, Write.map_append_eq_concat]
  refine ReadsBack.bind (readsBack_intLength value.length) ?_
  rw [Write.concat_singleton]
  exact (reads_raw value).readsBack

theorem readsBack_shortBytes (value : Bytes) :
    ReadsBack shortBytes (Write.shortBytes value) value := by
  rw [Write.shortBytes, Write.map_append_eq_concat]
  refine ReadsBack.bind (readsBack_shortLength value.length) ?_
  rw [Write.concat_singleton]
  exact (reads_raw value).readsBack

theorem readsBack_bytesOpt (value : Option Bytes) :
    ReadsBack bytesOpt (Write.bytesOpt value) value := by
  cases value with
  | none =>
      refine Reads.readsBack ?_
      rw [← List.append_nil (Write.int (-1))]
      exact (reads_int (-1)).bind (reads_pure none)
  | some value =>
      intro bytes hbytes
      have hfits : value.length ≤ 0x7FFFFFFF := Write.succeeds_bytes.mp ⟨bytes, hbytes⟩
      obtain ⟨length, hlength, hsign, hvalue⟩ := reads_int_ofNat hfits
      rw [Write.bytesOpt, Write.bytes, Write.intLength, if_pos (by omega)] at hbytes
      obtain rfl := Except.ok.inj hbytes
      refine hlength.bind ?_
      rw [if_neg hsign, hvalue]
      exact (reads_raw value).map some

theorem readsBack_decodeText {reader : Reader Bytes} {written : Written} {text : String}
    (h : ReadsBack reader written (Bytes.ofString text)) :
    ReadsBack (reader >>= decodeText) written text := by
  rw [← Write.concat_singleton written]
  refine ReadsBack.bind h ?_
  rw [decodeText, Utf8.decode_ofString]
  exact readsBack_pure text

theorem readsBack_string (text : String) : ReadsBack string (Write.string text) text :=
  readsBack_decodeText (readsBack_shortBytes _)

theorem readsBack_longString (text : String) :
    ReadsBack longString (Write.longString text) text :=
  readsBack_decodeText (readsBack_bytes _)

theorem readsBack_pair {first : Reader α} {second : Reader β} {front back : Written} {a : α}
    {b : β} (hfront : ReadsBack first front a) (hback : ReadsBack second back b) :
    ReadsBack (pair first second) (Write.concat [front, back]) (a, b) :=
  hfront.bind (hback.bind (readsBack_pure (a, b)))

theorem readsBack_counted {reader : Reader α} {write : α → Written} {values : List α}
    (h : ∀ value ∈ values, ReadsBack reader (write value) value) :
    ReadsBack (shortLength >>= many reader) (Write.counted write values) values :=
  (readsBack_shortLength values.length).bind (readsBack_many h)

theorem readsBack_stringList (texts : List String) :
    ReadsBack stringList (Write.stringList texts) texts :=
  readsBack_counted fun text _ => readsBack_string text

theorem readsBack_stringPairs (pairs : List (String × String)) :
    ReadsBack stringPairs (Write.stringPairs pairs) pairs :=
  readsBack_counted fun pair _ => readsBack_pair (readsBack_string pair.1) (readsBack_string pair.2)

theorem reads_uuid (id : Uuid) : Reads uuid (Write.uuid id) id :=
  (reads_octets id.octets).map Uuid.mk

theorem reads_consistency (level : Consistency) :
    Reads consistency (Write.consistency level) level := by
  rw [← List.append_nil (Write.consistency level)]
  refine (reads_short level.code).bind ?_
  rw [Consistency.ofCode?_code]
  exact reads_pure level

theorem reads_port {number : Nat} (h : number < Nat.pow 256 4) :
    Reads ((fun number => UInt16.ofNat number.toUInt32.toNat) <$> int) (Bytes.ofNat 4 number)
      (UInt16.ofNat number) := by
  have hport : (UInt32.ofNat number).toInt32.toUInt32.toNat = number := by
    rw [UInt32.toUInt32_toInt32, UInt32.toNat_ofNat_of_lt' h]
  have hread := ((reads_fixed h).map fun n => (UInt32.ofNat n).toInt32).map
    fun number => UInt16.ofNat number.toUInt32.toNat
  rwa [hport] at hread

theorem reads_address (ip : IpAddress) {number : Nat} (h : number < Nat.pow 256 4) :
    Reads inet
      (Write.byte (UInt8.ofNat ip.toBytes.length) ++ ip.toBytes ++ Bytes.ofNat 4 number)
      ⟨ip, UInt16.ofNat number⟩ := by
  have hrest (ip : IpAddress) :
      Reads (do return ⟨ip, UInt16.ofNat (← int).toUInt32.toNat⟩ : Reader Endpoint)
        (Bytes.ofNat 4 number) ⟨ip, UInt16.ofNat number⟩ :=
    (reads_port h).map (Endpoint.mk ip)
  rw [List.append_assoc]
  refine (reads_byte _).bind ?_
  cases ip with
  | v4 octets =>
      rw [IpAddress.toBytes, octets.property]
      dsimp only
      rw [if_pos (by decide)]
      exact ((reads_octets octets).map IpAddress.v4).bind (hrest (.v4 octets))
  | v6 octets =>
      rw [IpAddress.toBytes, octets.property]
      dsimp only
      rw [if_neg (by decide), if_pos (by decide)]
      exact ((reads_octets octets).map IpAddress.v6).bind (hrest (.v6 octets))

theorem reads_inet (endpoint : Endpoint) : Reads inet (Write.inet endpoint) endpoint := by
  have hlt : endpoint.port.toNat < Nat.pow 256 4 :=
    Nat.lt_trans endpoint.port.toNat_lt (by decide)
  have hread := reads_address endpoint.ip hlt
  rwa [UInt16.ofNat_toNat] at hread

end Reader

end CqlClient
