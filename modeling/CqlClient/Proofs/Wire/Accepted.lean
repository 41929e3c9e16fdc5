import CqlClient.Proofs.Wire.RoundTrip

namespace CqlClient

theorem Except.exists_of_bind_eq_ok {ε α β : Type} {first : Except ε α} {next : α → Except ε β}
    {b : β} (h : first.bind next = .ok b) : ∃ a, first = .ok a ∧ next a = .ok b := by
  cases first with
  | error e => exact nomatch h
  | ok a => exact ⟨a, rfl, h⟩

namespace Reader

variable {α β : Type} {P : α → Prop} {Q : β → Prop}

/-- Every value that the reader gives has the property. -/
def Ensures (reader : Reader α) (property : α → Prop) : Prop :=
  ∀ bytes value rest, reader bytes = .ok (value, rest) → property value

theorem bind_eq_ok_iff {reader : Reader α} {next : α → Reader β} {bytes rest : Bytes} {b : β} :
    (reader >>= next) bytes = .ok (b, rest) ↔
      ∃ a between, reader bytes = .ok (a, between) ∧ next a between = .ok (b, rest) := by
  cases h : reader bytes with
  | error e =>
      rw [bind_of_error h]
      exact iff_of_false nofun (by rintro ⟨a, between, ha, -⟩; exact nomatch ha)
  | ok taken =>
      obtain ⟨a, between⟩ := taken
      rw [bind_of_ok h]
      constructor
      · intro hb
        exact ⟨a, between, rfl, hb⟩
      · rintro ⟨a', between', ha, hb⟩
        obtain ⟨rfl, rfl⟩ := Prod.mk.inj (Except.ok.inj ha)
        exact hb

theorem map_eq_ok_iff {reader : Reader α} {f : α → β} {bytes rest : Bytes} {b : β} :
    (f <$> reader) bytes = .ok (b, rest) ↔ ∃ a, reader bytes = .ok (a, rest) ∧ f a = b := by
  rw [map_eq_pure_bind, bind_eq_ok_iff]
  constructor
  · rintro ⟨a, between, ha, hb⟩
    obtain ⟨rfl, rfl⟩ := Prod.mk.inj (Except.ok.inj hb)
    exact ⟨a, ha, rfl⟩
  · rintro ⟨a, ha, rfl⟩
    exact ⟨a, rest, ha, rfl⟩

theorem Ensures.imp {reader : Reader α} {Q : α → Prop} (h : Ensures reader P)
    (hpq : ∀ a, P a → Q a) : Ensures reader Q :=
  fun bytes value rest hread => hpq value (h bytes value rest hread)

theorem ensures_true (reader : Reader α) : Ensures reader fun _ => True :=
  fun _ _ _ _ => trivial

theorem ensures_pure {value : α} (h : P value) : Ensures (pure value) P := by
  intro bytes value' rest hread
  obtain ⟨rfl, -⟩ := Prod.mk.inj (Except.ok.inj hread)
  exact h

theorem ensures_throw (e : ParseError) : Ensures (throw e : Reader α) P :=
  fun _ _ _ hread => nomatch hread

theorem ensures_refuse (fault : ReadFault) : Ensures (refuse fault : Reader α) P :=
  ensures_throw _

theorem Ensures.bind {reader : Reader α} {next : α → Reader β} (h : Ensures reader P)
    (hnext : ∀ a, P a → Ensures (next a) Q) : Ensures (reader >>= next) Q := by
  intro bytes b rest hread
  obtain ⟨a, between, ha, hb⟩ := bind_eq_ok_iff.mp hread
  exact hnext a (h bytes a between ha) between b rest hb

theorem Ensures.map {reader : Reader α} (h : Ensures reader P) {f : α → β}
    (hf : ∀ a, P a → Q (f a)) : Ensures (f <$> reader) Q := by
  rw [map_eq_pure_bind]
  exact h.bind fun a ha => ensures_pure (hf a ha)

theorem ensures_optional {condition : Prop} [Decidable condition] {reader : Reader α}
    (h : Ensures reader P) :
    Ensures (if condition then some <$> reader else pure none)
      fun value => ∀ present ∈ value, P present := by
  split
  · refine h.map fun value hvalue present hpresent => ?_
    obtain rfl := Option.some.inj hpresent
    exact hvalue
  · exact ensures_pure nofun

theorem Ensures.many {reader : Reader α} (h : Ensures reader P) (n : Nat) :
    Ensures (many reader n) fun values => values.length = n ∧ ∀ value ∈ values, P value := by
  induction n with
  | zero => exact ensures_pure ⟨rfl, by simp⟩
  | succ n ih =>
      rw [many_succ]
      refine h.bind fun value hvalue => ih.map ?_
      rintro values ⟨hlength, hvalues⟩
      exact ⟨congrArg Nat.succ hlength, List.forall_mem_cons.mpr ⟨hvalue, hvalues⟩⟩

theorem ensures_raw (n : Nat) : Ensures (raw n) fun bytes => bytes.length = n := by
  intro bytes value rest hread
  simp only [raw] at hread
  split at hread
  · next taken rest' hsplit =>
      obtain ⟨rfl, -⟩ := Prod.mk.inj (Except.ok.inj hread)
      exact Bytes.length_of_splitExact? hsplit
  · cases hread

theorem toNat_toInt_le (value : Int32) : value.toInt.toNat ≤ 0x7FFFFFFF := by
  have := value.toInt_lt
  omega

theorem ensures_intLength : Ensures intLength fun length => length ≤ 0x7FFFFFFF := by
  refine (ensures_true int).bind fun length _ => ?_
  split
  · exact ensures_refuse _
  · exact ensures_pure (toNat_toInt_le length)

theorem ensures_shortLength : Ensures shortLength fun length => length ≤ 0xFFFF :=
  (ensures_true short).map fun length _ => Nat.le_of_lt_succ length.toNat_lt

theorem ensures_bytes : Ensures bytes Bytes.FitsInt := by
  refine ensures_intLength.bind fun length hlength => ?_
  refine (ensures_raw length).imp fun value hvalue => ?_
  rw [Bytes.FitsInt, hvalue]
  exact hlength

theorem ensures_shortBytes : Ensures shortBytes Bytes.FitsShort := by
  refine ensures_shortLength.bind fun length hlength => ?_
  refine (ensures_raw length).imp fun value hvalue => ?_
  rw [Bytes.FitsShort, hvalue]
  exact hlength

theorem ensures_bytesOpt :
    Ensures bytesOpt fun value => ∀ present ∈ value, Bytes.FitsInt present := by
  refine (ensures_true int).bind fun length _ => ?_
  split
  · exact ensures_pure nofun
  · refine (ensures_raw _).map fun value hvalue present hpresent => ?_
    obtain rfl := Option.some.inj hpresent
    rw [Bytes.FitsInt, hvalue]
    exact toNat_toInt_le length

theorem ensures_string : Ensures string fun text => (Bytes.ofString text).FitsShort := by
  refine ensures_shortBytes.bind fun bytes hbytes => ?_
  unfold decodeText
  split
  · next text hdecode =>
      refine ensures_pure ?_
      rw [← Utf8.eq_ofString_of_decode hdecode]
      exact hbytes
  · exact ensures_refuse _

end Reader

end CqlClient
