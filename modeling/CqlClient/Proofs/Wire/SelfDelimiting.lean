import CqlClient.Proofs.Wire.Accepted

namespace CqlClient

theorem Bytes.eq_append_of_splitExact? {n : Nat} {bytes taken rest : Bytes}
    (h : splitExact? n bytes = some (taken, rest)) : bytes = taken ++ rest := by
  rw [splitExact?_eq] at h
  split at h
  · obtain ⟨rfl, rfl⟩ := Prod.mk.inj (Option.some.inj h)
    exact (List.take_append_drop n bytes).symm
  · exact nomatch h

namespace Reader

variable {α β : Type}

/-- The bytes in front of what is left are read as the value whatever is left. -/
def IgnoresRest (reader : Reader α) : Prop :=
  ∀ bytes value rest, reader bytes = .ok (value, rest) →
    ∃ taken, bytes = taken ++ rest ∧ Reads reader taken value

/-- The bytes taken for a value are read as the value with any other bytes behind them, which are
left, and no proper prefix of them is read as anything. -/
def SelfDelimiting (reader : Reader α) : Prop :=
  ∀ bytes value rest, reader bytes = .ok (value, rest) →
    ∃ taken, bytes = taken ++ rest ∧
      (∀ others, reader (taken ++ others) = .ok (value, others)) ∧
      ∀ part, part <+: taken → part ≠ taken → ∃ e, reader part = .error e

/-- If a prefix were read as something, the bytes behind it would be left, but they were taken. -/
theorem IgnoresRest.selfDelimiting {reader : Reader α} (h : IgnoresRest reader) :
    SelfDelimiting reader := by
  intro bytes value rest hread
  obtain ⟨taken, rfl, htaken⟩ := h bytes value rest hread
  refine ⟨taken, rfl, htaken, ?_⟩
  rintro part ⟨missing, rfl⟩ hproper
  cases hpart : reader part with
  | error e => exact ⟨e, rfl⟩
  | ok result =>
      obtain ⟨other, left⟩ := result
      obtain ⟨front, rfl, hfront⟩ := h part other left hpart
      have hsame := hfront (left ++ missing)
      rw [← List.append_assoc, ← List.append_nil (front ++ left ++ missing), htaken []] at hsame
      obtain ⟨-, hnil⟩ := Prod.mk.inj (Except.ok.inj hsame)
      obtain ⟨-, rfl⟩ := List.append_eq_nil_iff.mp hnil.symm
      exact absurd (List.append_nil _).symm hproper

theorem ignoresRest_pure (value : α) : IgnoresRest (pure value : Reader α) := by
  intro bytes value' rest hread
  obtain ⟨rfl, rfl⟩ := Prod.mk.inj (Except.ok.inj hread)
  exact ⟨[], rfl, reads_pure value⟩

theorem ignoresRest_throw (e : ParseError) : IgnoresRest (throw e : Reader α) :=
  fun _ _ _ hread => nomatch hread

theorem ignoresRest_refuse (fault : ReadFault) : IgnoresRest (refuse fault : Reader α) :=
  ignoresRest_throw _

theorem ignoresRest_lift (decision : Except ParseError α) :
    IgnoresRest (liftM decision : Reader α) := by
  cases decision with
  | error e => exact ignoresRest_throw e
  | ok value => exact ignoresRest_pure value

theorem IgnoresRest.bind {reader : Reader α} {next : α → Reader β} (h : IgnoresRest reader)
    (hnext : ∀ a, IgnoresRest (next a)) : IgnoresRest (reader >>= next) := by
  intro bytes b rest hread
  obtain ⟨a, between, ha, hb⟩ := bind_eq_ok_iff.mp hread
  obtain ⟨front, rfl, hfront⟩ := h bytes a between ha
  obtain ⟨back, rfl, hback⟩ := hnext a between b rest hb
  exact ⟨front ++ back, (List.append_assoc ..).symm, hfront.bind hback⟩

theorem IgnoresRest.map {reader : Reader α} (h : IgnoresRest reader) (f : α → β) :
    IgnoresRest (f <$> reader) := by
  rw [map_eq_pure_bind]
  exact h.bind fun a => ignoresRest_pure (f a)

theorem IgnoresRest.ite {condition : Prop} [Decidable condition] {first second : Reader α}
    (hfirst : IgnoresRest first) (hsecond : IgnoresRest second) :
    IgnoresRest (if condition then first else second) := by
  split
  · exact hfirst
  · exact hsecond

theorem IgnoresRest.optional {condition : Prop} [Decidable condition] {reader : Reader α}
    (h : IgnoresRest reader) : IgnoresRest (if condition then some <$> reader else pure none) :=
  (h.map some).ite (ignoresRest_pure none)

theorem IgnoresRest.many {reader : Reader α} (h : IgnoresRest reader) (n : Nat) :
    IgnoresRest (many reader n) := by
  induction n with
  | zero => exact ignoresRest_pure []
  | succ n ih =>
      rw [many_succ]
      exact h.bind fun value => ih.map (value :: ·)

theorem IgnoresRest.mapM {reader : α → Reader β} (h : ∀ a, IgnoresRest (reader a))
    (inputs : List α) : IgnoresRest (inputs.mapM reader) := by
  induction inputs with
  | nil => exact ignoresRest_pure []
  | cons a inputs ih =>
      rw [List.mapM_cons]
      exact (h a).bind fun b => ih.bind fun bs => ignoresRest_pure (b :: bs)

theorem ignoresRest_fixed (width : Nat) : IgnoresRest (fixed width) := by
  intro bytes value rest hread
  unfold fixed at hread
  split at hread
  · next taken rest' hsplit =>
      obtain ⟨rfl, rfl⟩ := Prod.mk.inj (Except.ok.inj hread)
      refine ⟨taken, Bytes.eq_append_of_splitExact? hsplit, fun others => ?_⟩
      simp only [fixed, Bytes.splitExact?_append (Bytes.length_of_splitExact? hsplit)]
  · cases hread

theorem ignoresRest_raw (count : Nat) : IgnoresRest (raw count) := by
  intro bytes value rest hread
  unfold raw at hread
  split at hread
  · next taken rest' hsplit =>
      obtain ⟨rfl, rfl⟩ := Prod.mk.inj (Except.ok.inj hread)
      refine ⟨taken, Bytes.eq_append_of_splitExact? hsplit, ?_⟩
      rw [← Bytes.length_of_splitExact? hsplit]
      exact reads_raw taken
  · exact nomatch hread

theorem ignoresRest_octets (n : Nat) : IgnoresRest (octets n) := by
  intro bytes value rest hread
  unfold octets at hread
  split at hread
  · next taken rest' hsplit =>
      obtain ⟨rfl, rfl⟩ := Prod.mk.inj (Except.ok.inj hread)
      exact ⟨taken, Bytes.eq_append_of_splitExact? hsplit,
        reads_octets ⟨taken, Bytes.length_of_splitExact? hsplit⟩⟩
  · exact nomatch hread

theorem ignoresRest_byte : IgnoresRest byte := (ignoresRest_fixed 1).map _

theorem ignoresRest_short : IgnoresRest short := (ignoresRest_fixed 2).map _

theorem ignoresRest_int : IgnoresRest int := (ignoresRest_fixed 4).map _

theorem ignoresRest_intLength : IgnoresRest intLength :=
  ignoresRest_int.bind fun _ => (ignoresRest_refuse _).ite (ignoresRest_pure _)

theorem ignoresRest_shortLength : IgnoresRest shortLength := ignoresRest_short.map _

theorem ignoresRest_bytesOpt : IgnoresRest bytesOpt :=
  ignoresRest_int.bind fun _ => (ignoresRest_pure none).ite ((ignoresRest_raw _).map some)

theorem ignoresRest_bytes : IgnoresRest bytes := ignoresRest_intLength.bind ignoresRest_raw

theorem ignoresRest_shortBytes : IgnoresRest shortBytes :=
  ignoresRest_shortLength.bind ignoresRest_raw

theorem ignoresRest_decodeText (bytes : Bytes) : IgnoresRest (decodeText bytes) := by
  unfold decodeText
  split
  · exact ignoresRest_pure _
  · exact ignoresRest_refuse _

theorem ignoresRest_string : IgnoresRest string :=
  ignoresRest_shortBytes.bind ignoresRest_decodeText

theorem ignoresRest_longString : IgnoresRest longString :=
  ignoresRest_bytes.bind ignoresRest_decodeText

theorem IgnoresRest.pair {first : Reader α} {second : Reader β} (hfirst : IgnoresRest first)
    (hsecond : IgnoresRest second) : IgnoresRest (pair first second) :=
  hfirst.bind fun a => hsecond.bind fun b => ignoresRest_pure (a, b)

theorem IgnoresRest.counted {reader : Reader α} (h : IgnoresRest reader) :
    IgnoresRest (shortLength >>= Reader.many reader) :=
  ignoresRest_shortLength.bind h.many

theorem ignoresRest_stringList : IgnoresRest stringList := ignoresRest_string.counted

theorem ignoresRest_stringPairs : IgnoresRest stringPairs :=
  (ignoresRest_string.pair ignoresRest_string).counted

theorem ignoresRest_stringListPairs : IgnoresRest stringListPairs :=
  (ignoresRest_string.pair ignoresRest_stringList).counted

theorem ignoresRest_consistency : IgnoresRest consistency := by
  refine ignoresRest_short.bind fun code => ?_
  split
  · exact ignoresRest_pure _
  · exact ignoresRest_throw _

theorem ignoresRest_inet : IgnoresRest inet := by
  have hport (ip : IpAddress) :
      IgnoresRest (do return ⟨ip, UInt16.ofNat (← int).toUInt32.toNat⟩ : Reader Endpoint) :=
    ignoresRest_int.bind fun port => ignoresRest_pure _
  refine ignoresRest_byte.bind fun size => ?_
  split
  · exact ((ignoresRest_octets 4).map IpAddress.v4).bind hport
  split
  · exact ((ignoresRest_octets 16).map IpAddress.v6).bind hport
  · exact (ignoresRest_refuse _).bind hport

end Reader

end CqlClient
